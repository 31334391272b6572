import Motherboard.Proofs.EventHistory

/-!
# Splitting time

To advance by `a` cycles and then by `b` cycles is to advance by their sum: the same events are handed
out in the same order, each handler sees the same scheduler, and the same state is reached
(`exists_advance_addCycles_iff`).

Two runs are compared that differ in the clock between the two halves: one run sets it to the first
target, the other leaves it at the last event. The queue is the same, so the same event comes next; it
is due after the first target, hence after both clocks, and handing it out sets both to its due cycle
(`Turns.ofClock`). From there on the runs are one.

Both runs number what their handlers schedule alike, so that words of 64 bits carry the numbers of the one
as long as they carry those of the other: while fewer than 2 ^ 64 events have been scheduled
(`Life.fits_words`).
-/

namespace Motherboard

theorem addCycles_le_addCycles (now a b : UInt64) :
    addCycles now a ≤ addCycles now (addCycles a b) := by
  rw [← addCycles_addCycles]
  exact le_addCycles _ _

namespace Scheduler

variable {ψ : Type} {react : Reaction ψ} {limit soon late : UInt64} {n : Nat} {s s' : Scheduler}
  {world world' : ψ}

/-! ## Two limits -/

theorem popDue?_of_le (hle : soon ≤ late) {event : Event} {rest : Scheduler}
    (hpop : s.popDue? soon = some (event, rest)) : s.popDue? late = some (event, rest) := by
  obtain ⟨tail, hqueue, hdue, hrest⟩ := popDue?_eq_some_iff.1 hpop
  exact popDue?_eq_some_iff.2 ⟨tail, hqueue, UInt64.le_trans hdue hle, hrest⟩

theorem popDue?_eq_none_of_le (hle : soon ≤ late) (hpop : s.popDue? late = none) :
    s.popDue? soon = none :=
  popDue?_eq_none_iff.2 fun first hfirst =>
    UInt64.lt_of_le_of_lt hle (popDue?_eq_none_iff.1 hpop first hfirst)

/-- Turns after turns. -/
theorem Turns.trans {m : Nat} {s'' : Scheduler} {world'' : ψ}
    (h : Turns react limit m s world s' world') (h' : Turns react limit n s' world' s'' world'') :
    Turns react limit (m + n) s world s'' world'' := by
  induction h with
  | refl s world =>
    rw [Nat.zero_add]
    exact h'
  | turn hpop _ ih =>
    rw [Nat.add_right_comm]
    exact .turn hpop (ih h')

/-- Turns up to a cycle are turns up to any later one. -/
theorem Turns.of_le (hle : soon ≤ late) (h : Turns react soon n s world s' world') :
    Turns react late n s world s' world' := by
  induction h with
  | refl s world => exact .refl s world
  | turn hpop _ ih => exact .turn (popDue?_of_le hle hpop) ih

/-- The turns of a pass begin with those that a sooner limit would have ended. -/
theorem Turns.split (hle : soon ≤ late) (h : Turns react late n s world s' world')
    (hend : s'.popDue? late = none) :
    ∃ n₁ n₂ middle between, n = n₁ + n₂ ∧ Turns react soon n₁ s world middle between ∧
      middle.popDue? soon = none ∧ Turns react late n₂ middle between s' world' := by
  induction h with
  | refl s world =>
    exact ⟨0, 0, s, world, rfl, .refl s world, popDue?_eq_none_of_le hle hend, .refl s world⟩
  | @turn n s s' rest world world' event hpop hmore ih =>
    -- the run is cut at the first event that is not due soon
    cases hsoon : s.popDue? soon with
    | none => exact ⟨0, n + 1, s, world, (Nat.zero_add _).symm, .refl s world, hsoon, .turn hpop hmore⟩
    | some taken =>
      obtain rfl : taken = (event, rest) :=
        Option.some.inj ((popDue?_of_le hle hsoon).symm.trans hpop)
      obtain ⟨n₁, n₂, middle, between, hn, hfirst, hmiddle, hsecond⟩ := ih hend
      exact ⟨n₁ + 1, n₂, middle, between, by omega, .turn hsoon hfirst, hmiddle, hsecond⟩

/-! ## Two clocks -/

/-- Which event is popped does not depend on the clock. -/
theorem popDue?_ofClock (now : UInt64) :
    popDue? limit { s with now := now } =
      (s.popDue? limit).map fun (event, rest) => (event, { rest with now := now }) := by
  unfold popDue?
  cases s.queue with
  | nil => rfl
  | cons first tail =>
    dsimp only
    split
    · rfl
    · rfl

/-- Handing out an event sets every clock that has not passed its due cycle to that cycle. -/
theorem arrive_ofClock {rest : Scheduler} {event : Event} {now : UInt64} (hrest : rest.now ≤ event.due)
    (hnow : now ≤ event.due) :
    ({ rest with now := now } : Scheduler).arrive event = rest.arrive event := by
  unfold arrive
  rw [laterCycle_eq_right hrest, laterCycle_eq_right hnow]

/-- The clock before a pass makes no difference to it, if the first event is due later: another clock
leads to the same turns, and only where there are none it is still another clock. -/
theorem Turns.ofClock (now : UInt64) (h : Turns react limit n s world s' world')
    (hend : s'.popDue? limit = none)
    (hearly : ∀ first, s.queue.head? = some first → s.now ≤ first.due ∧ now ≤ first.due) :
    ∃ last, Turns react limit n { s with now := now } world last world' ∧
      last.popDue? limit = none ∧ ∀ target, { last with now := target } = { s' with now := target } := by
  cases h with
  | refl =>
    refine ⟨{ s with now := now }, .refl _ _, ?_, fun _ => rfl⟩
    rw [popDue?_ofClock, hend]
    rfl
  -- the first event sets the clock to its due cycle, whichever of the two clocks ran before
  | @turn n _ _ rest _ _ event hpop hmore =>
    obtain ⟨tail, hqueue, -, hrest⟩ := popDue?_eq_some_iff.1 hpop
    obtain ⟨hs, hnow⟩ := hearly event (by rw [hqueue]; rfl)
    have hpop' : popDue? limit { s with now := now } = some (event, { rest with now := now }) := by
      rw [popDue?_ofClock, hpop]
      rfl
    have hclock : rest.now = s.now := by
      rw [hrest]
      rfl
    have harrive : ({ rest with now := now } : Scheduler).arrive event = rest.arrive event :=
      arrive_ofClock (hclock ▸ hs) hnow
    exact ⟨s', .turn hpop' (by rwa [harrive]), hend, fun _ => rfl⟩

/-! ## Advancing twice -/

/-- Advancing by a sum and advancing twice hand out the same events: the turns of the whole are cut where
the first limit lies. -/
theorem exists_advance_split (hclock : ∀ event s world, (react event s world).1.now ≤ s.now)
    {a b : UInt64} {count : Nat} :
    (∃ bound, s.advance react bound (addCycles a b) world = some (count, s', world')) ↔
      ∃ n₁ n₂ middle between, count = n₁ + n₂ ∧
        (∃ bound, s.advance react bound a world = some (n₁, middle, between)) ∧
        ∃ bound, middle.advance react bound b between = some (n₂, s', world') := by
  have hle := addCycles_le_addCycles s.now a b
  have hsum := addCycles_addCycles s.now a b
  constructor
  · intro h
    obtain ⟨last, hturns, hend, rfl⟩ := exists_advance_iff.1 h
    obtain ⟨n₁, n₂, middle, between, rfl, hfirst, hmiddle, hsecond⟩ := hturns.split hle hend
    have hnow := hfirst.now_le hclock (le_addCycles _ _)
    -- from the middle on, a run with the clock at the first target does the same
    obtain ⟨last', hsecond', hend', hlast⟩ := hsecond.ofClock (addCycles s.now a) hend
      fun first hhead =>
        have hdue := UInt64.le_of_lt (popDue?_eq_none_iff.1 hmiddle first hhead)
        ⟨UInt64.le_trans hnow hdue, hdue⟩
    refine ⟨n₁, n₂, { middle with now := addCycles s.now a }, between, rfl,
      exists_advance_iff.2 ⟨middle, hfirst, hmiddle, rfl⟩, exists_advance_iff.2 ⟨last', ?_⟩⟩
    dsimp only
    rw [hsum]
    exact ⟨hsecond', hend', (hlast _).symm⟩
  · rintro ⟨n₁, n₂, _, between, rfl, hadvance₁, hadvance₂⟩
    obtain ⟨middle, hfirst, hmiddle, rfl⟩ := exists_advance_iff.1 hadvance₁
    obtain ⟨last, hsecond, hend, rfl⟩ := exists_advance_iff.1 hadvance₂
    dsimp only at hsecond hend ⊢
    rw [hsum] at hsecond hend ⊢
    have hnow := hfirst.now_le hclock (le_addCycles _ _)
    -- from the middle on, a run with the clock where it was does the same
    obtain ⟨last', hsecond', hend', hlast⟩ := hsecond.ofClock middle.now hend
      fun first hhead =>
        have hdue := UInt64.le_of_lt (popDue?_eq_none_iff.1 hmiddle first hhead)
        ⟨hdue, UInt64.le_trans hnow hdue⟩
    exact exists_advance_iff.2 ⟨last', (hfirst.of_le hle).trans hsecond', hend', (hlast _).symm⟩

/-- Advancing by `a` and then by `b` is advancing by their sum. Both ends of the equivalence share the
final scheduler, the final state of the world, the number of events handed out, and the record of what
was handed out to the handler, with the scheduler that the handler saw each time, and of what the
handler did. -/
theorem exists_advance_addCycles_iff (handler : Handler ψ) (s s' : Scheduler) (a b : UInt64)
    (world world' : ψ) (past past' : List Moment) (count : Nat) :
    (∃ bound, s.advance handler.react bound (addCycles a b) (world, past) =
        some (count, s', world', past')) ↔
      ∃ n₁ n₂ middle between recent, count = n₁ + n₂ ∧
        (∃ bound, s.advance handler.react bound a (world, past) = some (n₁, middle, between, recent)) ∧
        ∃ bound, middle.advance handler.react bound b (between, recent) =
          some (n₂, s', world', past') := by
  rw [exists_advance_split handler.now_react_le]
  constructor
  · rintro ⟨n₁, n₂, middle, ⟨between, recent⟩, hcount, hfirst, hsecond⟩
    exact ⟨n₁, n₂, middle, between, recent, hcount, hfirst, hsecond⟩
  · rintro ⟨n₁, n₂, middle, between, recent, hcount, hfirst, hsecond⟩
    exact ⟨n₁, n₂, middle, (between, recent), hcount, hfirst, hsecond⟩

end Scheduler

end Motherboard
