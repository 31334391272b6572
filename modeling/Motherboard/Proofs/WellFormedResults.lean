import Motherboard.Bench.Instrument
import Motherboard.Proofs.FaultReports
import Motherboard.Proofs.MachineRuns
import Motherboard.Proofs.ValueWidth

/-!
# Well-formed results

An access ends in a value or in a fault. The value has no bit above the width of the access, and the
fault fits the access (`Routing.WellFormed`). This holds of every access that a master can issue
(`Access.IsIssued`), made through the processor or at the bus, on every machine that was built from a
configuration and has run for any time (`wellFormed_afterRun`).

Traps may answer accesses and may do to the bus what they like, as long as they do it by its uses
(`Machine.IsTame`). They can map pages, move them and take them away while an access waits for them; so a
fault of a trapped access is told of the pages as the trap leaves them.
-/

namespace Motherboard

open Relation (ReflTransGen)

/-! ## Accesses that masters issue -/

namespace Access

/-- The access was built as a read or a write and given flags, a master and a cycle since. -/
inductive IsIssued : Access → Prop where
  | read (address : UInt32) (width : Width) (intent : Intent) : IsIssued (.read address width intent)
  | write (address : UInt32) (width : Width) (value : UInt32) (intent : Intent) :
    IsIssued (.write address width value intent)
  | withFlags {a : Access} (h : IsIssued a) (flags : AccessFlags) : IsIssued (a.withFlags flags)
  | fromSource {a : Access} (h : IsIssued a) (source : SourceId) : IsIssued (a.fromSource source)
  | atCycle {a : Access} (h : IsIssued a) (cycle : UInt64) : IsIssued (a.atCycle cycle)

/-- Values are cut when the access is built, and its width stays. -/
theorem IsIssued.holds {a : Access} (h : a.IsIssued) : a.width.Holds a.value := by
  induction h with
  | read address width intent => exact width.holds_zero
  | write address width value intent => exact width.holds_and_mask value
  | withFlags _ _ ih | fromSource _ _ ih | atCycle _ _ ih => exact ih

end Access

/-! ## Results of the bus -/

/-- A value has no bit above the width of the access, and a fault fits the access. -/
def Routing.WellFormed (r : Routing) (a : Access) : Except Fault Outcome → Prop
  | .ok outcome => a.width.Holds outcome.value
  | .error fault => fault.Fits r a

/-- A fault that fits an access fits any other access of the same master and purpose to the same bytes. -/
theorem Fault.Fits.of_same {f : Fault} {r : Routing} {a b : Access} (h : f.Fits r a)
    (haddress : a.address &&& r.table.geometry.addressMask = b.address &&& r.table.geometry.addressMask)
    (hwidth : a.width = b.width) (hintent : a.intent = b.intent) (hsource : a.source = b.source)
    (hcycle : a.cycle = b.cycle) : f.Fits r b where
  wellFormed := h.wellFormed
  intent := h.intent.trans hintent
  source := h.source.trans hsource
  cycle := h.cycle.trans hcycle
  width := h.width.trans hwidth
  -- only the place depends on the address, and the bytes of both accesses are the same
  place := by
    obtain ⟨i, hi, hplace⟩ := h.place
    have hbyte : r.byteAddress a i = r.byteAddress b i := by
      unfold Routing.byteAddress
      rw [← Geometry.and_addressMask_add, haddress, Geometry.and_addressMask_add]
    exact ⟨i, hwidth ▸ hi, hplace.trans hbyte⟩
  unmapped := h.unmapped
  mapped := h.mapped
  cost := hwidth ▸ h.cost
  debugger := hintent ▸ h.debugger

namespace Routing

variable {r : Routing} {a : Access}

/-- Cutting an access to the width of the bus makes no difference to its result. -/
theorem WellFormed.of_maskAddress {result : Except Fault Outcome}
    (h : r.WellFormed (r.maskAddress a) result) : r.WellFormed a result := by
  cases result with
  | ok outcome => exact h
  | error fault =>
    have hfits : fault.Fits r (r.maskAddress a) := h
    exact hfits.of_same (r.table.geometry.and_addressMask_and_addressMask _) rfl rfl rfl rfl

/-- A fault of the access as the bus sees it is a fault of the access. -/
theorem fits_of_normalize {f : Fault} (h : f.Fits r (r.normalize a)) : f.Fits r a := by
  refine h.of_same ?_ (normalize_width r a) (normalize_intent r a) (normalize_source r a)
    (normalize_cycle r a)
  rw [normalize_address, Geometry.and_addressMask_and_addressMask]

end Routing

namespace Bus

variable {ω γ δ : Type} [Device δ ω] [Card γ δ ω]

/-- Every access to a bus whose entries lead to targets has a well-formed result. -/
theorem wellFormed_access (bus : Bus ω δ γ) (hbus : bus.routing.IsRegistered) {a : Access}
    (ha : a.width.Holds a.value) : bus.routing.WellFormed a (bus.access a).1 := by
  have hmasked : (bus.routing.normalize a).address &&& bus.routing.table.geometry.addressMask =
      (bus.routing.normalize a).address := by
    rw [Routing.normalize_address, Geometry.and_addressMask_and_addressMask]
  have hvalue : (bus.routing.normalize a).width.Holds (bus.routing.normalize a).value := by
    rwa [Routing.normalize_width, Routing.normalize_value]
  -- faults and values are two separate arguments: what is reported, and what is given
  have hreports : bus.routing.Reports (bus.routing.normalize a)
      ((bus.routing.execute .checked (bus.routing.normalize a)).run answer bus).1 :=
    Requests.run_of_ends (Routing.execute_reports hbus hmasked) answer bus
  have hgives := execute_gives (r := bus.routing) hvalue .checked bus
  unfold access Routing.checked
  dsimp only
  cases hresult : ((bus.routing.execute .checked (bus.routing.normalize a)).run answer bus).1 with
  | error fault => exact Routing.fits_of_normalize (hreports fault hresult)
  | ok done =>
    have hdone := hgives done hresult
    rwa [Routing.normalize_width] at hdone

end Bus

/-! ## Traps and handlers that use the bus -/

section Tame

variable {ω γ δ : Type} [Device δ ω] [Card γ δ ω]

/-- What the trap does to the bus is made of uses. -/
def Trap.UsesBus (trap : Trap ω δ γ) : Prop :=
  ∀ (a : Access) (c : TrapContext ω δ γ), ReflTransGen Bus.Use c.bus (trap a c).2.bus

/-- What the handler does to the bus is made of uses. -/
def EventHandler.UsesBus (handler : EventHandler ω δ γ) : Prop :=
  ∀ (event : Event) (c : EventContext ω δ γ), ReflTransGen Bus.Use c.bus (handler event c).bus

/-- What uses keep, any number of them keeps. -/
theorem Bus.keeps_of_uses {I : Bus ω δ γ → Prop}
    (hI : ∀ {bus after : Bus ω δ γ}, bus.Use after → I bus → I after) {bus after : Bus ω δ γ}
    (huses : ReflTransGen Bus.Use bus after) (hbus : I bus) : I after := by
  induction huses with
  | refl => exact hbus
  | tail _ huse ih => exact hI huse ih

theorem Trap.UsesBus.keepsMake {trap : Trap ω δ γ} (h : trap.UsesBus) : trap.KeepsMake := fun a c =>
  Bus.keeps_of_uses (I := c.bus.SameMake) (fun huse hsofar => hsofar.trans huse.sameMake) (h a c)
    (.refl c.bus)

namespace Machine

variable {m after built : Machine ω δ γ} {config : MachineConfig} {host : ω} {a : Access}

/-- The traps and handlers of the machine do nothing to the bus but use it. -/
structure IsTame (m : Machine ω δ γ) : Prop where
  traps : ∀ entry ∈ m.traps.traps, Trap.UsesBus entry.2
  handlers : ∀ handler ∈ m.handlers.handlers, EventHandler.UsesBus handler

/-- Something happens to the machine, and its traps and handlers are tame afterwards. -/
def TameStep (m after : Machine ω δ γ) : Prop := m.Step after ∧ after.IsTame

/-- A machine without traps and handlers is tame. -/
theorem isTame_of_nothing (htraps : m.traps.traps = []) (hhandlers : m.handlers.handlers = #[]) :
    m.IsTame := by
  constructor
  · intro entry hentry
    rw [htraps] at hentry
    cases hentry
  · intro handler hhandler
    rw [hhandlers] at hhandler
    exact absurd hhandler (Array.not_mem_empty handler)

theorem isTame_of_ofConfig? (h : ofConfig? config host = .ok m) : m.IsTame := by
  obtain ⟨-, rfl⟩ := ofConfig?_eq_ok_iff.1 h
  exact isTame_of_nothing rfl rfl

/-- What the uses of a bus keep, tame traps and handlers keep. -/
theorem IsTame.keeps {I : Bus ω δ γ → Prop} (h : m.IsTame)
    (huse : ∀ {bus after : Bus ω δ γ}, bus.Use after → I bus → I after)
    (hswitches : ∀ {bus : Bus ω δ γ}, I bus →
      I { bus with backplane.overrides := bus.backplane.overrides.push {} }) : m.Keeps I where
  use := huse
  traps := fun entry hentry a c hbus => Bus.keeps_of_uses huse (h.traps entry hentry a c) hbus
  handlers := fun handler hhandler event c hbus =>
    Bus.keeps_of_uses huse (h.handlers handler hhandler event c) hbus
  addSwitches := hswitches

/-- Tame traps and handlers map pages to targets that exist. -/
theorem IsTame.keeps_isRegistered (h : m.IsTame) : m.Keeps fun bus => bus.routing.IsRegistered :=
  h.keeps (fun huse hbus => huse.isRegistered hbus) fun hbus => hbus

/-- What the uses of a bus keep, holds of the bus of every machine that has run, if it holds of the new
one's. -/
theorem bus_of_run {I : Bus ω δ γ → Prop}
    (huse : ∀ {bus after : Bus ω δ γ}, bus.Use after → I bus → I after)
    (hswitches : ∀ {bus : Bus ω δ γ}, I bus →
      I { bus with backplane.overrides := bus.backplane.overrides.push {} })
    (hbuilt : ofConfig? config host = .ok built) (hstart : I built.bus)
    (hrun : ReflTransGen TameStep built m) : m.IsTame ∧ I m.bus := by
  induction hrun with
  | refl => exact ⟨isTame_of_ofConfig? hbuilt, hstart⟩
  | tail _ hstep ih => exact ⟨hstep.2, (ih.1.keeps huse hswitches).step ih.2 hstep.1⟩

/-- On every machine that has run, the entries of the bus lead to targets. -/
theorem isRegistered_of_run (hbuilt : ofConfig? config host = .ok built)
    (hrun : ReflTransGen TameStep built m) : m.IsTame ∧ m.bus.routing.IsRegistered := by
  refine bus_of_run (I := fun bus => bus.routing.IsRegistered) (fun huse hbus => huse.isRegistered hbus)
    (fun hbus => hbus) hbuilt ?_ hrun
  obtain ⟨-, rfl⟩ := ofConfig?_eq_ok_iff.1 hbuilt
  exact Routing.isRegistered_of_empty (PageTable.get?_replicate _ _)

/-! ## Results of the processor -/

omit [Device δ ω] in
/-- A value that a trap answers with is cut to the width of the access. -/
theorem holds_of_dispatch {t : TrapTable ω δ γ} {c after : TrapContext ω δ γ} {outcome : Outcome}
    (h : t.dispatch a c = (some outcome, after)) : a.width.Holds outcome.value := by
  unfold TrapTable.dispatch at h
  split_ifs at h
  · cases hfound : t.find? a with
    | none =>
      rw [hfound] at h
      cases h
    | some entry =>
      obtain ⟨address, trap⟩ := entry
      rw [hfound] at h
      dsimp only at h
      -- the answer of a handler is cut to the width of the access; a trap that passes has no answer
      rcases hvalue : trap a c with ⟨_ | _, left⟩
      · rw [hvalue] at h
        cases h
        exact a.width.holds_and_mask _
      · rw [hvalue] at h
        cases h
  · cases h

/-- Every access of the processor has a well-formed result, told of the pages as a trap leaves them. -/
theorem wellFormed_cpuAccess (hmade : m.IsMade) (htame : m.IsTame)
    (hregistered : m.bus.routing.IsRegistered) (ha : a.width.Holds a.value) :
    (m.cpuAccess a).2.bus.routing.WellFormed a (m.cpuAccess a).1 := by
  unfold cpuAccess
  split_ifs
  · dsimp only
    rw [Bus.routing_access]
    exact m.bus.wellFormed_access hregistered ha
  · have hmake := (hmade.keeps m.bus).dispatch (m.bus.maskAddress a) (c := m.trapContext) (.refl m.bus)
    have hleft := htame.keeps_isRegistered.dispatch (m.bus.maskAddress a) (c := m.trapContext)
      hregistered
    dsimp only
    rcases hc : m.traps.dispatch (m.bus.maskAddress a) m.trapContext with ⟨_ | outcome, c⟩
    · rw [hc] at hmake hleft
      -- the trap leaves the geometry, so the address that it saw is cut as the bus would cut it
      have hmask : m.bus.maskAddress a = c.bus.routing.maskAddress a := by
        have hgeometry : c.bus.routing.table.geometry = m.bus.routing.table.geometry := hmake.geometry
        unfold Bus.maskAddress Routing.maskAddress
        rw [hgeometry]
      dsimp only
      rw [Bus.routing_access, hmask]
      exact (c.bus.wellFormed_access hleft (a := c.bus.routing.maskAddress a) ha).of_maskAddress
    · exact holds_of_dispatch (a := m.bus.maskAddress a) hc

/-- On every machine that was built from a configuration and has run for any time, with whatever traps
and handlers, every access that a master issues has a well-formed result, through the processor and at
the bus. The addresses are cut as the configuration says. -/
theorem wellFormed_afterRun (hbuilt : ofConfig? config host = .ok built)
    (hrun : ReflTransGen TameStep built m) (ha : a.IsIssued) :
    ((m.cpuAccess a).2.bus.routing.WellFormed a (m.cpuAccess a).1 ∧
      m.bus.routing.WellFormed a (m.bus.access a).1) ∧
    (m.cpuAccess a).2.bus.table.geometry = config.bus.geometry ∧
      m.bus.table.geometry = config.bus.geometry := by
  have hsteps : ReflTransGen Step built m := hrun.lift id fun _ _ hstep => hstep.1
  obtain ⟨hmade, rfl⟩ := IsMade.of_run hbuilt hsteps
  obtain ⟨htame, hregistered⟩ := isRegistered_of_run hbuilt hrun
  have hmake := (hmade.keeps m.bus).cpuAccess (.refl m.bus) a
  exact ⟨⟨wellFormed_cpuAccess hmade htame hregistered ha.holds,
    m.bus.wellFormed_access hregistered ha.holds⟩,
    hmake.geometry.trans hmade.geometry, hmade.geometry⟩

end Machine

end Tame

/-! ## A trap that unmaps -/

namespace Machine

/-- A trap that takes the first page away before it lets the access pass. -/
def unmapFirst {ω γ δ : Type} : Trap ω δ γ := fun _ c =>
  match c.bus.unmapPage 0 with
  | .ok (_, bus) => (.passThrough, { c with bus := bus })
  | .error _ => (.passThrough, c)

/-- The trap of the example makes one call of the bus. -/
theorem usesBus_unmapFirst {ω γ δ : Type} [Device δ ω] [Card γ δ ω] :
    Trap.UsesBus (unmapFirst : Trap ω δ γ) := by
  intro a c
  unfold unmapFirst
  cases hunmap : c.bus.unmapPage 0 with
  | error e => exact .refl
  | ok unmapped =>
    obtain ⟨entry, bus⟩ := unmapped
    exact .single (.unmapPage hunmap)

/-- The eight-bit machine with a byte of RAM. -/
def withByte : Machine Bench.Host Bench.Instrument Bench.TestCard :=
  let built : Machine Bench.Host Bench.Instrument Bench.TestCard :=
    bare Personality.legacy8.machineConfig {}
  { built with bus := (built.bus.addTarget (.part (.ram ⟨#[0x60]⟩))).2 }

/-- An entry that leads to the RAM. -/
def byteEntry (base : UInt32) : PageEntry := ⟨⟨1⟩, .ram, .readWrite, .memory, ⟨0⟩, base⟩

/-- The RAM is at the first and at the last address, where the trap stands. -/
def aroundTheEnd : Machine Bench.Host Bench.Instrument Bench.TestCard :=
  { withByte with
    bus.table := ⟨⟨16, 12⟩,
      #[some (byteEntry 0)] ++ Array.replicate 14 none ++ #[some (byteEntry 0xFFFFF001)]⟩
    traps.traps := [(0xFFFF, unmapFirst)] }

/-- The machine of the example can be reached: a target, two pages, and the trap. -/
theorem run_aroundTheEnd :
    ReflTransGen TameStep (bare Personality.legacy8.machineConfig {}) aroundTheEnd := by
  have htame : ∀ bus : Bus Bench.Host Bench.Instrument Bench.TestCard,
      ({ withByte with bus := bus } : Machine Bench.Host Bench.Instrument Bench.TestCard).IsTame :=
    fun _ => isTame_of_nothing rfl rfl
  have htrap : ∀ entry ∈ aroundTheEnd.traps.traps, Trap.UsesBus entry.2 := by
    intro entry hentry
    obtain rfl := List.mem_singleton.1 hentry
    exact usesBus_unmapFirst
  let halfMapped : PageTable :=
    ⟨⟨16, 12⟩, #[some (byteEntry 0)] ++ Array.replicate 15 none⟩
  have hfirst : withByte.bus.mapPage 0 (byteEntry 0) =
      .ok { withByte.bus with table := halfMapped } := rfl
  have hlast : ({ withByte.bus with table := halfMapped } : Bus _ _ _).mapPage 15
      (byteEntry 0xFFFFF001) = .ok aroundTheEnd.bus := rfl
  have hadded : TameStep (bare Personality.legacy8.machineConfig {}) withByte :=
    ⟨.useBus (.addTarget _), htame _⟩
  have hmapped : TameStep withByte { withByte with bus.table := halfMapped } :=
    ⟨.useBus (.mapPage hfirst), htame _⟩
  have hmappedBoth : TameStep { withByte with bus.table := halfMapped }
      { withByte with bus := aroundTheEnd.bus } := ⟨.useBus (.mapPage hlast), htame _⟩
  have htrapped : TameStep { withByte with bus := aroundTheEnd.bus } aroundTheEnd :=
    ⟨.useTraps fun entry hentry => (htrap entry hentry).keepsMake, htrap,
      (htame withByte.bus).handlers⟩
  exact ReflTransGen.refl.tail hadded |>.tail hmapped |>.tail hmappedBoth |>.tail htrapped

/-- The low byte of the word is read and paid for; the page of the high byte, around the end, is not there
any more. -/
theorem wellFormed_afterRun_trapUnmaps :
    ReflTransGen TameStep (bare Personality.legacy8.machineConfig {}) aroundTheEnd ∧
      ∃ fault, (aroundTheEnd.cpuAccess (.read 0xFFFF .word .dataRead)).1 = .error fault ∧
        (fault.kind, fault.address, fault.cycles) = (.unmapped, 0, 1) ∧
          fault.Fits (aroundTheEnd.cpuAccess (.read 0xFFFF .word .dataRead)).2.bus.routing
            (.read 0xFFFF .word .dataRead) := by
  have hbuilt : ofConfig? Personality.legacy8.machineConfig {} =
      .ok (bare Personality.legacy8.machineConfig {} :
        Machine Bench.Host Bench.Instrument Bench.TestCard) :=
    ofConfig?_eq_ok_iff.2 ⟨by decide +kernel, rfl⟩
  have hresults := wellFormed_afterRun hbuilt run_aroundTheEnd (.read 0xFFFF .word .dataRead)
  exact ⟨run_aroundTheEnd, _, rfl, rfl, hresults.1.1⟩

end Machine

end Motherboard
