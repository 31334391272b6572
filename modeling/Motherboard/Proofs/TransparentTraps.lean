import Motherboard.Proofs.HostView
import Motherboard.Proofs.TrapMatching
import Motherboard.Proofs.WellFormedResults

/-!
# Traps that do not show

Between the processor and the bus stands the table of traps. It must not be noticed by accesses that no
trap answers. Such an access takes one of two ways. Either no trap is run; then it is the access of the bus
(`Machine.RunsNoTrap`). Or a trap is run, lets it pass and leaves alone what it was shown
(`Machine.LetsPass`). A trap may still remember what it saw: it keeps that with the host, in a place
that devices and cards overlook.

The table cuts addresses before it looks, and the bus cuts them again. So the bits above the width of the
bus do not matter anywhere: aliases of an address meet the same trap, which is handed the same access, and
end alike to the last bit.
-/

namespace Motherboard

/-! ## Aliases at the bus -/

section Aliases

variable {ω γ δ : Type} {a : Access} {address : UInt32}

/-- Two addresses that the bus cannot tell apart are the same access to it. -/
theorem Routing.maskAddress_alias {r : Routing}
    (h : address &&& r.table.geometry.addressMask = a.address &&& r.table.geometry.addressMask) :
    r.maskAddress { a with address := address } = r.maskAddress a := by
  unfold maskAddress
  rw [h]

theorem Routing.normalize_alias {r : Routing}
    (h : address &&& r.table.geometry.addressMask = a.address &&& r.table.geometry.addressMask) :
    r.normalize { a with address := address } = r.normalize a := by
  rw [← normalize_maskAddress, maskAddress_alias h, normalize_maskAddress]

variable [Device δ ω] [Card γ δ ω] {bus : Bus ω δ γ}

theorem Bus.access_alias
    (h : address &&& bus.table.geometry.addressMask = a.address &&& bus.table.geometry.addressMask) :
    bus.access { a with address := address } = bus.access a := by
  rw [← bus.access_maskAddress { a with address := address }, ← bus.access_maskAddress a]
  exact congrArg bus.access (Routing.maskAddress_alias h)

theorem Bus.requests_alias
    (h : address &&& bus.table.geometry.addressMask = a.address &&& bus.table.geometry.addressMask) :
    bus.requests { a with address := address } = bus.requests a := by
  unfold requests Routing.checked
  rw [Routing.normalize_alias h]

end Aliases

namespace Machine

variable {ω γ δ : Type}

/-! ## Accesses that pass the table -/

/-- No trap is run: the access is none that devices may notice, the table is empty, or no trap stands at an
address that the access covers. -/
def RunsNoTrap (m : Machine ω δ γ) (a : Access) : Prop :=
  a.intent.isDebug = true ∨ a.flags.quiet = true ∨ m.traps.traps = [] ∨
    ∀ address ∈ m.traps.addresses, ¬((m.bus.maskAddress a).address.toNat ≤ address.toNat ∧
      address.toNat ≤ (m.bus.maskAddress a).address.toNat + (a.width.bytes - 1))

/-- A trap is run, lets the access pass and leaves its context alone. What it remembers is with the host
afterwards, and makes a difference within `R`. -/
structure LetsPass (R : ω → ω → Prop) (m : Machine ω δ γ) (a : Access) (trap : Trap ω δ γ)
    (host : ω) : Prop where
  noticed : a.sideEffectsAllowed = true
  meets : ∃ address, m.traps.find? (m.bus.maskAddress a) = some (address, trap)
  passes : m.trapped trap a = (.passThrough, { m.trapContext with bus.backplane.host := host })
  remembers : R m.bus.backplane.host host

variable {m : Machine ω δ γ} {a : Access}

/-- Accesses of a debugger, quiet ones, and those that meet no address of the table run no trap. -/
theorem trapMet?_of_runsNoTrap (h : m.RunsNoTrap a) : m.trapMet? a = none := by
  unfold trapMet?
  rcases h with hdebug | hquiet | hempty | habsent
  · rw [Access.sideEffectsAllowed_of_silent (.inl hdebug)]
    rfl
  · rw [Access.sideEffectsAllowed_of_silent (.inr hquiet)]
    rfl
  · rw [TrapTable.find?, hempty]
    exact ite_self _
  · -- the table covers the bytes from first to last as numbers, which is what meeting an address means
    split_ifs
    · refine List.find?_eq_none.2 fun entry hentry hcovers => ?_
      obtain ⟨hfirst, hlast⟩ := of_decide_eq_true hcovers
      refine habsent entry.1 (List.mem_map_of_mem hentry) ⟨UInt32.le_iff_toNat_le.1 hfirst, ?_⟩
      exact (TrapTable.le_lastAddress_iff (m.bus.maskAddress a) entry.1).1 hlast
    · rfl

variable [Device δ ω] [Card γ δ ω]

/-- Where no trap runs, the processor's access is the access of the bus. -/
theorem cpuAccess_of_runsNoTrap (h : m.RunsNoTrap a) :
    m.cpuAccess a = ((m.bus.access a).1, { m with bus := (m.bus.access a).2 }) := by
  rw [cpuAccess_eq_meeting, trapMet?_of_runsNoTrap h]
  rfl

/-- The bus carries the access out beside what the trap remembers. -/
theorem cpuAccess_of_letsPass {R : ω → ω → Prop} (hR : Overlooked δ γ R) {trap : Trap ω δ γ} {host : ω}
    (h : m.LetsPass R a trap host) :
    (m.cpuAccess a).1 = (m.bus.access a).1 ∧
      ∃ bus, Bus.Alike R (m.bus.access a).2 bus ∧ (m.cpuAccess a).2 = { m with bus := bus } := by
  obtain ⟨address, hmeets⟩ := h.meets
  -- the bus that the trap was shown, with what it remembers
  let shown : Bus ω δ γ := { m.bus with backplane.host := host }
  have hgoes : m.cpuAccess a = ((shown.access a).1, { m with bus := (shown.access a).2 }) := by
    rw [cpuAccess_eq_meeting, trapMet?, if_pos h.noticed, hmeets]
    unfold meeting
    dsimp only
    rw [h.passes]
    dsimp only [trapContext]
    -- the bus cuts the address once more
    rw [← shown.access_maskAddress a]
    rfl
  obtain ⟨hresult, hafter⟩ := Bus.alike_access hR ⟨host, h.remembers, rfl⟩ a
  rw [hgoes]
  exact ⟨hresult.symm, _, hafter, rfl⟩

/-- A trap that has nothing to remember makes no difference at all. -/
theorem cpuAccess_of_letsPass_unmoved {trap : Trap ω δ γ}
    (h : m.LetsPass Eq a trap m.bus.backplane.host) :
    m.cpuAccess a = ((m.bus.access a).1, { m with bus := (m.bus.access a).2 }) := by
  obtain ⟨hresult, bus, ⟨host, hhost, hbus⟩, hafter⟩ := cpuAccess_of_letsPass (overlooked_eq δ γ) h
  subst hhost hbus
  exact Prod.ext hresult hafter

/-! ## Aliases at the table -/

variable {address : UInt32}

omit [Device δ ω] [Card γ δ ω] in
/-- Two addresses that the bus cannot tell apart meet the same trap. -/
theorem trapMet?_alias (h : m.bus.maskAddress { a with address := address } = m.bus.maskAddress a) :
    m.trapMet? { a with address := address } = m.trapMet? a := by
  unfold trapMet?
  rw [h]
  rfl

theorem cpuAccess_alias
    (h : address &&& m.bus.table.geometry.addressMask = a.address &&& m.bus.table.geometry.addressMask) :
    m.cpuAccess { a with address := address } = m.cpuAccess a := by
  have hseen : m.bus.maskAddress { a with address := address } = m.bus.maskAddress a :=
    Routing.maskAddress_alias h
  rw [cpuAccess_eq_meeting, cpuAccess_eq_meeting m a, trapMet?_alias hseen]
  unfold meeting trapped
  rw [hseen, Bus.access_alias h]

/-- An access for which no trap is run is that of the bus, and so is one that a trap lets pass without
remembering anything. What a trap remembers stands beside: the access ends as at the bus, with the same
targets, the same owner of the window, the same books and the same trace. And an access goes like any
other that differs from it in address bits above the width of the bus only: it meets the same trap, which
is handed the same access, and asks the targets for the same. -/
theorem cpuAccess_isTransparent (m : Machine ω δ γ) (a : Access) :
    (m.RunsNoTrap a ∨ (∃ trap, m.LetsPass Eq a trap m.bus.backplane.host) →
      m.cpuAccess a = ((m.bus.access a).1, { m with bus := (m.bus.access a).2 })) ∧
    (∀ (R : ω → ω → Prop) (trap : Trap ω δ γ) (host : ω), Overlooked δ γ R →
      m.LetsPass R a trap host → (m.cpuAccess a).1 = (m.bus.access a).1 ∧
        ∃ bus, Bus.Alike R (m.bus.access a).2 bus ∧ (m.cpuAccess a).2 = { m with bus := bus }) ∧
    m.cpuAccess a = m.meeting (m.trapMet? a) a ∧
    (∀ address : UInt32,
      address &&& m.bus.table.geometry.addressMask = a.address &&& m.bus.table.geometry.addressMask →
      let b := { a with address := address }
      m.trapMet? b = m.trapMet? a ∧ m.bus.maskAddress b = m.bus.maskAddress a ∧
      m.bus.requests b = m.bus.requests a ∧ m.bus.access b = m.bus.access a ∧
      m.cpuAccess b = m.cpuAccess a) := by
  refine ⟨?_, fun R trap host hR hpass => cpuAccess_of_letsPass hR hpass, m.cpuAccess_eq_meeting a, ?_⟩
  · -- no trap is run, or one that passes and leaves the bus as it was
    rintro (hnone | ⟨trap, hpass⟩)
    · exact cpuAccess_of_runsNoTrap hnone
    · exact cpuAccess_of_letsPass_unmoved hpass
  · intro address haddress b
    have hseen : m.bus.maskAddress b = m.bus.maskAddress a := Routing.maskAddress_alias haddress
    exact ⟨trapMet?_alias hseen, hseen, Bus.requests_alias haddress, Bus.access_alias haddress,
      cpuAccess_alias haddress⟩

/-- A trap that writes into the journal what it meets, and lets it pass. -/
def witness : Trap Bench.Host Bench.Instrument Bench.TestCard := fun a c =>
  (.passThrough, { c with bus.backplane.host := c.bus.backplane.host.note (.trap "witness" a) })

/-- The trap stands at address zero, where a byte of RAM is. -/
def watchedStart : Machine Bench.Host Bench.Instrument Bench.TestCard :=
  { aroundTheEnd with traps := { policy := .manual, traps := [(0, witness)] } }

/-- Beyond the sixteen bits of the bus lies the same byte, and the journal has the same line. -/
theorem cpuAccess_isTransparent_watchedStart :
    let a := Access.read 0 .byte .dataRead
    let b := { a with address := 0x10000 }
    watchedStart.LetsPass (fun _ _ => True) a witness
        (watchedStart.bus.backplane.host.note (.trap "witness" (watchedStart.bus.maskAddress a))) ∧
      watchedStart.RunsNoTrap (Access.read 1 .byte .dataRead) ∧
      (watchedStart.cpuAccess a).1 = (watchedStart.bus.access a).1 ∧
      (watchedStart.bus.access a).1 = .ok ⟨0x60, 1⟩ ∧
      watchedStart.cpuAccess b = watchedStart.cpuAccess a := by
  intro a b
  -- the trap notes in the journal that it has been run, which no answer of the bus depends on
  have hpass : watchedStart.LetsPass (fun _ _ => True) a witness
      (watchedStart.bus.backplane.host.note (.trap "witness" (watchedStart.bus.maskAddress a))) :=
    ⟨rfl, ⟨0, List.find?_cons_of_pos (by decide +kernel)⟩, rfl, trivial⟩
  have hnone : watchedStart.RunsNoTrap (Access.read 1 .byte .dataRead) := by
    refine .inr (.inr (.inr fun address haddress => ?_))
    obtain rfl := List.mem_singleton.1 haddress
    decide +kernel
  obtain ⟨-, hpassed, -, haliases⟩ := cpuAccess_isTransparent watchedStart a
  obtain ⟨hresult, -⟩ := hpassed _ witness _ Bench.overlooked_hosts hpass
  obtain ⟨-, -, -, -, hsame⟩ := haliases 0x10000 (by decide +kernel)
  exact ⟨hpass, hnone, hresult, by decide +kernel, hsame⟩

end Machine

end Motherboard
