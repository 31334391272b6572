import Motherboard.Proofs.Replay
import Motherboard.Proofs.SilentAccess

/-!
# Which trap an access meets

Traps are set and taken away in any order, and the table keeps them sorted. What stands at an address is
decided by the latest call for it (`TrapTable.standing?`), and an access of the processor meets the lowest
address at which a trap stands among those that it covers.

The table knows nothing of the bus. It counts the bytes of an access upwards from the cut address to the
last 32-bit address, while a bus with fewer address bits wraps after its own last address. So an access at
the end of a narrow bus can meet a trap that stands beyond the bus, at an address that none of its bytes
has. It meets the trap that it would meet if only addresses of the bus counted just when it meets none
that stands beyond the bus (`Machine.cpuAccess_meets`).

* `TrapTable.standing?` — what a run of calls has left at an address.
* `TrapTable.IsLowest` — the trap at the lowest address between two.
* `Machine.meeting` — how an access goes on from the trap that it meets.
* `Machine.cpuAccess_meets` — the trap that an access meets, and when it is one of the bus.
-/

namespace Motherboard

variable {ω δ γ : Type}

namespace TrapTable

/-! ## Calls -/

/-- A call of the table. -/
inductive Call (ω δ γ : Type) where
  | install (address : UInt32) (trap : Trap ω δ γ)
  | remove (address : UInt32)

namespace Call

/-- The address that a call is for. -/
def address : Call ω δ γ → UInt32
  | .install address _ | .remove address => address

/-- What a call leaves at its address. -/
def trap? : Call ω δ γ → Option (Trap ω δ γ)
  | .install _ trap => some trap
  | .remove _ => none

end Call

/-- The table after one call. -/
def call (t : TrapTable ω δ γ) : Call ω δ γ → TrapTable ω δ γ
  | .install address trap => t.install address trap
  | .remove address => t.remove address

/-- The table after some calls, the latest first. -/
def afterCalls (policy : TrapPolicy) : List (Call ω δ γ) → TrapTable ω δ γ
  | [] => { policy := policy }
  | latest :: earlier => (afterCalls policy earlier).call latest

/-- The trap that some calls have left at an address: the latest call for it decides. -/
def standing? : List (Call ω δ γ) → UInt32 → Option (Trap ω δ γ)
  | [], _ => none
  | latest :: earlier, address =>
    if latest.address = address then latest.trap? else standing? earlier address

/-- The trap at the lowest address from `first` to `last`, with its address; none when no trap stands
there. -/
inductive IsLowest (standing? : UInt32 → Option (Trap ω δ γ)) (first last : Nat) :
    Option (UInt32 × Trap ω δ γ) → Prop
  | found {address : UInt32} {trap : Trap ω δ γ} (hstands : standing? address = some trap)
    (hfirst : first ≤ address.toNat) (hlast : address.toNat ≤ last)
    (hleast : ∀ other : UInt32, first ≤ other.toNat → other < address → standing? other = none) :
    IsLowest standing? first last (some (address, trap))
  | absent (hnone : ∀ other : UInt32, first ≤ other.toNat → other.toNat ≤ last → standing? other = none) :
    IsLowest standing? first last none

/-! ## What the table holds -/

/-- The traps of a table are those left by some calls, in the order of their addresses. -/
structure Holds (t : TrapTable ω δ γ) (calls : List (Call ω δ γ)) : Prop where
  sorted : t.traps.Pairwise fun lower higher => lower.1 < higher.1
  mem_iff : ∀ address trap, (address, trap) ∈ t.traps ↔ standing? calls address = some trap

variable {t : TrapTable ω δ γ} {calls : List (Call ω δ γ)} {address : UInt32}

theorem mem_below {entry : UInt32 × Trap ω δ γ} :
    entry ∈ t.below address ↔ entry ∈ t.traps ∧ entry.1 < address := by
  rw [below, List.mem_filter, decide_eq_true_iff]

theorem mem_above {entry : UInt32 × Trap ω δ γ} :
    entry ∈ t.above address ↔ entry ∈ t.traps ∧ address < entry.1 := by
  rw [above, List.mem_filter, decide_eq_true_iff]

/-- What is kept of a table when an address is cleared. -/
theorem mem_below_or_mem_above {entry : UInt32 × Trap ω δ γ} :
    entry ∈ t.below address ∨ entry ∈ t.above address ↔ entry ∈ t.traps ∧ address ≠ entry.1 := by
  rw [mem_below, mem_above, ← and_or_left, ne_comm]
  exact and_congr_right fun _ => ⟨fun h => h.elim UInt32.ne_of_lt fun h => (UInt32.ne_of_lt h).symm,
    UInt32.lt_or_lt_of_ne⟩

/-- Removing a trap leaves the others as the calls have put them. -/
theorem Holds.remove (h : t.Holds calls) (address : UInt32) :
    (t.remove address).Holds (.remove address :: calls) where
  -- what is below the address lies before what is above it
  sorted := by
    refine List.pairwise_append.2 ⟨h.sorted.filter _, h.sorted.filter _, ?_⟩
    intro lower hlower higher hhigher
    exact UInt32.lt_trans (mem_below.1 hlower).2 (mem_above.1 hhigher).2
  mem_iff := by
    intro other trap
    show (other, trap) ∈ t.below address ++ t.above address ↔ _
    rw [List.mem_append, mem_below_or_mem_above, h.mem_iff]
    show _ ↔ (if address = other then none else standing? calls other) = some trap
    by_cases hsame : address = other
    · simp [hsame]
    · simp [hsame]

/-- Installing a trap puts it between those below and those above. -/
theorem Holds.install (h : t.Holds calls) (address : UInt32) (trap : Trap ω δ γ) :
    (t.install address trap).Holds (.install address trap :: calls) where
  -- A trap at the same address is neither below nor above, and so it is replaced.
  sorted := by
    refine List.pairwise_append.2 ⟨h.sorted.filter _, ?_, ?_⟩
    · exact List.pairwise_cons.2 ⟨fun higher hhigher => (mem_above.1 hhigher).2, h.sorted.filter _⟩
    · intro lower hlower higher hhigher
      have hbelow := (mem_below.1 hlower).2
      rcases List.mem_cons.1 hhigher with rfl | hhigher
      · exact hbelow
      · exact UInt32.lt_trans hbelow (mem_above.1 hhigher).2
  mem_iff := by
    intro other found
    show (other, found) ∈ t.below address ++ (address, trap) :: t.above address ↔ _
    rw [List.mem_append, List.mem_cons, or_left_comm, mem_below_or_mem_above, h.mem_iff]
    show _ ↔ (if address = other then some trap else standing? calls other) = some found
    by_cases hsame : address = other
    · subst hsame
      simp [eq_comm]
    · simp [hsame, Ne.symm hsame]

/-- After any calls the table holds the traps that stand, in the order of their addresses. -/
theorem holds_afterCalls (policy : TrapPolicy) (calls : List (Call ω δ γ)) :
    (afterCalls policy calls).Holds calls := by
  induction calls with
  | nil => exact ⟨.nil, fun address trap => by simp [afterCalls, standing?]⟩
  | cons latest earlier ih =>
    cases latest with
    | install address trap => exact ih.install address trap
    | remove address => exact ih.remove address

/-! ## What an access meets -/

/-- No 32-bit address is left out because the sum of address and width is none. -/
theorem le_lastAddress_iff (a : Access) (address : UInt32) :
    address ≤ lastAddress a ↔ address.toNat ≤ a.address.toNat + (a.width.bytes - 1) := by
  have hwidth := a.width.bytes_le
  have hstep : (a.width.bytes - 1).toUInt32.toNat = a.width.bytes - 1 := toNat_toUInt32 (by omega)
  have hword := address.toNat_lt
  unfold lastAddress
  rw [UInt32.le_iff_toNat_le]
  -- the last address of the access is a word, or is cut to the last word
  split_ifs with hsum
  · rw [UInt32.toNat_add, hstep, Nat.mod_eq_of_lt hsum]
  · have htop : (0xFFFFFFFF : UInt32).toNat = 2 ^ 32 - 1 := rfl
    rw [htop]
    omega

/-- An access meets the lowest trap among the addresses that it covers. -/
theorem Holds.isLowest_find? (h : t.Holds calls) (a : Access) :
    IsLowest (standing? calls) a.address.toNat (a.address.toNat + (a.width.bytes - 1)) (t.find? a) := by
  have hcovers : ∀ other : UInt32, decide (a.address ≤ other ∧ other ≤ lastAddress a) = true ↔
      a.address.toNat ≤ other.toNat ∧ other.toNat ≤ a.address.toNat + (a.width.bytes - 1) := by
    intro other
    rw [decide_eq_true_iff, le_lastAddress_iff, UInt32.le_iff_toNat_le]
  -- where the table has no trap, the latest call for the address has left none
  have hfree : ∀ other : UInt32, (∀ trap, (other, trap) ∈ t.traps → False) →
      standing? calls other = none := by
    intro other habsent
    cases hstands : standing? calls other with
    | none => rfl
    | some trap => exact absurd ((h.mem_iff other trap).2 hstands) (habsent trap)
  unfold find?
  cases hfound : t.traps.find? fun entry => decide (a.address ≤ entry.1 ∧ entry.1 ≤ lastAddress a) with
  | none =>
    refine .absent fun other hfirst hlast => hfree other fun trap hmem => ?_
    exact List.find?_eq_none.1 hfound _ hmem ((hcovers other).2 ⟨hfirst, hlast⟩)
  | some entry =>
    obtain ⟨address, trap⟩ := entry
    obtain ⟨hcovered, before, after, hsplit, hbefore⟩ := List.find?_eq_some_iff_append.1 hfound
    obtain ⟨hfirst, hlast⟩ := (hcovers address).1 hcovered
    refine .found ((h.mem_iff address trap).1 (List.mem_of_find?_eq_some hfound)) hfirst hlast ?_
    intro other hother hlt
    refine hfree other fun lower hmem => ?_
    have hlower := UInt32.lt_iff_toNat_lt.1 hlt
    rw [hsplit, List.mem_append] at hmem
    rcases hmem with hmem | hmem
    · -- what comes before in the table is not covered
      have hskipped := hbefore _ hmem
      rw [(hcovers other).2 ⟨hother, by omega⟩] at hskipped
      cases hskipped
    · -- what comes after is higher
      have hsorted := h.sorted
      rw [hsplit] at hsorted
      have habove := (List.pairwise_cons.1 (List.pairwise_append.1 hsorted).2.1).1
      rcases List.mem_cons.1 hmem with hmem | hmem
      · obtain rfl : other = address := congrArg Prod.fst hmem
        exact absurd hlt (UInt32.lt_irrefl _)
      · exact absurd (UInt32.lt_trans hlt (habove _ hmem)) (UInt32.lt_irrefl _)

/-- Of two lowest traps neither stands below the other. -/
theorem IsLowest.eq {standing? : UInt32 → Option (Trap ω δ γ)} {first last : Nat}
    {met other : Option (UInt32 × Trap ω δ γ)} (h : IsLowest standing? first last met)
    (hother : IsLowest standing? first last other) : other = met := by
  cases h with
  | absent hnone =>
    cases hother with
    | absent _ => rfl
    | found hstands hfirst hlast _ =>
      rw [hnone _ hfirst hlast] at hstands
      cases hstands
  | @found address trap hstands hfirst hlast hleast =>
    cases hother with
    | absent hnone =>
      rw [hnone _ hfirst hlast] at hstands
      cases hstands
    | @found address' trap' hstands' hfirst' hlast' hleast' =>
      -- neither address can be lower, because the other trap would not have been met then
      have hbelow : ¬address' < address := by
        intro hlt
        rw [hleast address' hfirst' hlt] at hstands'
        cases hstands'
      have habove : ¬address < address' := by
        intro hlt
        rw [hleast' address hfirst hlt] at hstands
        cases hstands
      obtain rfl : address = address' :=
        UInt32.le_antisymm (UInt32.not_lt.1 hbelow) (UInt32.not_lt.1 habove)
      rw [Option.some.inj (hstands'.symm.trans hstands)]

/-- With a nearer end, the same trap is the lowest just when it does not stand beyond that end. -/
theorem IsLowest.min_iff {standing? : UInt32 → Option (Trap ω δ γ)} {first last bound : Nat}
    {met : Option (UInt32 × Trap ω δ γ)} (h : IsLowest standing? first last met) :
    IsLowest standing? first (min last bound) met ↔
      ∀ entry, met = some entry → entry.1.toNat ≤ bound := by
  constructor
  · rintro hnear entry rfl
    cases hnear with
    | found _ _ hlast _ => exact hlast.trans (Nat.min_le_right _ _)
  · -- the trap that is met lies within the bound as well; with none to meet, fewer addresses meet none
    intro hbound
    cases h with
    | found hstands hfirst hlast hleast =>
      exact .found hstands hfirst (Nat.le_min.2 ⟨hlast, hbound _ rfl⟩) hleast
    | absent hnone =>
      exact .absent fun other hfirst hlast => hnone other hfirst (hlast.trans (Nat.min_le_left _ _))

end TrapTable

namespace Machine

variable [Device δ ω] [Card γ δ ω] {m : Machine ω δ γ} {a : Access}

/-- How an access of the processor goes on from the trap that it meets. The trap is run, and the bus
carries the access out when the trap lets it pass; when no trap is met, the bus alone has it. -/
def meeting (m : Machine ω δ γ) (met : Option (UInt32 × Trap ω δ γ)) (a : Access) :
    Except Fault Outcome × Machine ω δ γ :=
  match met with
  | none =>
    let (result, bus) := m.bus.access a
    (result, { m with bus := bus })
  | some (_, trap) =>
    match m.trapped trap a with
    | (.passThrough, c) =>
      let (result, bus) := c.bus.access (m.bus.maskAddress a)
      (result, { m with signals := c.signals, bus := bus })
    | (.handled value cycles, c) =>
      let outcome : Outcome := ⟨value &&& a.width.mask, cycles⟩
      let c :=
        match m.traps.policy with
        | .manual => c
        | .replaySelection => (c.touch (m.bus.maskAddress a).address).2
      (.ok outcome,
        { m with signals := c.signals, bus := c.bus.recordTrapped (m.bus.maskAddress a) outcome })

/-- The trap that an access meets; those that devices must not notice meet none. -/
def trapMet? (m : Machine ω δ γ) (a : Access) : Option (UInt32 × Trap ω δ γ) :=
  if a.sideEffectsAllowed then m.traps.find? (m.bus.maskAddress a) else none

/-- Every access of the processor goes on from the trap that it meets. -/
theorem cpuAccess_eq_meeting (m : Machine ω δ γ) (a : Access) :
    m.cpuAccess a = m.meeting (m.trapMet? a) a := by
  unfold trapMet?
  split_ifs with hnoticed
  · have hmasked : (m.bus.maskAddress a).sideEffectsAllowed = true := hnoticed
    unfold cpuAccess meeting trapped TrapTable.dispatch
    split_ifs with hempty
    · -- a table without traps finds none
      have hnone : m.traps.find? (m.bus.maskAddress a) = none := by
        rw [TrapTable.find?, List.isEmpty_iff.1 hempty]
        rfl
      rw [hnone]
    · dsimp only
      rw [if_pos hmasked]
      cases m.traps.find? (m.bus.maskAddress a) with
      | none =>
        dsimp only [trapContext]
        rw [Bus.access_maskAddress]
      | some entry =>
        obtain ⟨address, trap⟩ := entry
        dsimp only
        rcases trap (m.bus.maskAddress a) m.trapContext with ⟨_ | _, c⟩ <;> rfl
  · exact cpuAccess_of_silent (by simpa using hnoticed)

/-- Whatever traps have been set and taken away, an access of the processor that devices may notice meets
the lowest trap from its cut address upwards, in numbers that do not wrap. This is the lowest trap up to
the last address of the bus just when no trap beyond the bus is met. -/
theorem cpuAccess_meets {policy : TrapPolicy} {calls : List (TrapTable.Call ω δ γ)}
    (htraps : m.traps = .afterCalls policy calls) (hnoticed : a.sideEffectsAllowed = true) :
    let first := (m.bus.maskAddress a).address.toNat
    let last := first + (a.width.bytes - 1)
    let mask := m.bus.table.geometry.addressMask.toNat
    ∃ met, TrapTable.IsLowest (TrapTable.standing? calls) first last met ∧
      (∀ other, TrapTable.IsLowest (TrapTable.standing? calls) first last other → other = met) ∧
      m.cpuAccess a = m.meeting met a ∧
      (TrapTable.IsLowest (TrapTable.standing? calls) first (min last mask) met ↔
        ∀ entry, met = some entry → entry.1.toNat ≤ mask) := by
  intro first last mask
  have hholds : m.traps.Holds calls := by
    rw [htraps]
    exact TrapTable.holds_afterCalls policy calls
  have hlowest := hholds.isLowest_find? (m.bus.maskAddress a)
  have hgoes := m.cpuAccess_eq_meeting a
  rw [trapMet?, if_pos hnoticed] at hgoes
  exact ⟨_, hlowest, fun _ => hlowest.eq, hgoes, hlowest.min_iff⟩

/-- A trap beyond a bus of sixteen address bits. -/
def beyondTheBus : List (TrapTable.Call Bench.Host Bench.Instrument Bench.TestCard) :=
  [.install 0x10000 fun _ c => (.handled 0x60 5, c)]

/-- An eight-bit machine without memory, and the trap. -/
def trappedBeyond : Machine Bench.Host Bench.Instrument Bench.TestCard :=
  { bare Personality.legacy8.machineConfig {} with traps := .afterCalls .manual beyondTheBus }

/-- A word at the last address of the bus has its second byte at address zero, but it is the trap beyond
the bus that answers. -/
theorem cpuAccess_meets_beyondTheBus :
    let a := Access.read 0xFFFF .word .dataRead
    trappedBeyond.traps = .afterCalls .manual beyondTheBus ∧ a.sideEffectsAllowed = true ∧
      trappedBeyond.bus.table.geometry.addressMask = 0xFFFF ∧
      (trappedBeyond.cpuAccess a).1 = .ok ⟨0x60, 5⟩ ∧
      (trappedBeyond.bus.access a).1 =
        .error ⟨.unmapped, 0xFFFF, .word, .dataRead, .cpu, none, none, 0, 0⟩ ∧
      ∃ met, met ≠ none ∧ trappedBeyond.cpuAccess a = trappedBeyond.meeting met a ∧
        ¬TrapTable.IsLowest (TrapTable.standing? beyondTheBus) 0xFFFF (min 0x10000 0xFFFF) met := by
  intro a
  obtain ⟨met, hlowest, -, hgoes, hnear⟩ := cpuAccess_meets (m := trappedBeyond) (a := a) rfl rfl
  have hbeyond : ∃ trap, met = some (0x10000, trap) := by
    cases hlowest with
    | absent hnone =>
      have hstands : (TrapTable.standing? beyondTheBus 0x10000).isSome = true := rfl
      rw [hnone 0x10000 (by decide) (by decide)] at hstands
      cases hstands
    | @found address trap hstands =>
      -- a trap stands at one address only
      unfold beyondTheBus TrapTable.standing? at hstands
      split_ifs at hstands with haddress
      · exact ⟨trap, congrArg some (congrArg (·, trap) haddress.symm)⟩
      · cases hstands
  obtain ⟨trap, rfl⟩ := hbeyond
  have hfirst : (trappedBeyond.bus.maskAddress a).address.toNat = 0xFFFF := by decide +kernel
  have hmask : trappedBeyond.bus.table.geometry.addressMask.toNat = 0xFFFF := by decide +kernel
  rw [hfirst, hmask] at hnear
  refine ⟨rfl, rfl, by decide +kernel, by decide +kernel, by decide +kernel, _, Option.some_ne_none _,
    hgoes, fun hclaimed => ?_⟩
  exact absurd (hnear.1 hclaimed _ rfl) (by decide : ¬(0x10000 : UInt32).toNat ≤ 0xFFFF)

end Machine

end Motherboard
