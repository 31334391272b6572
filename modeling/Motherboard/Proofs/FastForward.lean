import Motherboard.Proofs.Punctuality
import Motherboard.Proofs.SplitAdvance

/-!
# Fast-forward

To jump to the first waiting event is to advance by the cycles that are left until it is due, which are
none when it is overdue (`jump_iff_advance`). A jump sets the clock before its pass, an advance while the
pass hands out and again at its end. With an event that is due later the two passes start with different
clocks, and the first hand-out sets both to the due cycle; with an overdue event they start with the same
clock. At the end of both the clock is where the jump has set it, as handlers that do not reset never
move it back.

Both passes give the same numbers to what handlers schedule, and words of 64 bits carry them while fewer
than 2 ^ 64 events have been scheduled (`Life.fits_words`).
-/

namespace Motherboard

/-- The cycles from `now` until `due`, none if `due` has passed. -/
def cyclesUntil (now due : UInt64) : UInt64 :=
  if now < due then due - now else 0

/-- The cycles until an event, none if it is overdue. -/
theorem toNat_cyclesUntil (now due : UInt64) :
    (cyclesUntil now due).toNat = due.toNat - now.toNat := by
  unfold cyclesUntil
  split
  next hlater =>
    exact UInt64.toNat_sub_of_le _ _ (UInt64.le_of_lt hlater)
  next hpast =>
    rw [UInt64.lt_iff_toNat_lt] at hpast
    have hnone : due.toNat - now.toNat = 0 := by omega
    rw [hnone]
    rfl

/-- Waiting for as many cycles comes to the due cycle, or stays where it is past it. -/
theorem addCycles_cyclesUntil (now due : UInt64) :
    addCycles now (cyclesUntil now due) = laterCycle now due := by
  have hnow := now.toNat_lt
  have hdue := due.toNat_lt
  rw [← UInt64.toNat_inj, toNat_addCycles, toNat_laterCycle, toNat_cyclesUntil]
  omega

namespace Scheduler

variable {ψ : Type}

/-- A pass that hands out something starts alike with every clock that has not passed the due cycle of
the first event. -/
theorem pass_ofClock {react : Reaction ψ} {limit now : UInt64} {s : Scheduler} {first : Event}
    (hfirst : s.queue.head? = some first) (hdue : first.due ≤ limit) (hs : s.now ≤ first.due)
    (hnow : now ≤ first.due) (bound count : Nat) (world : ψ) :
    pass react limit bound count { s with now := now } world =
      pass react limit bound count s world := by
  obtain ⟨tail, hqueue⟩ := List.head?_eq_some_iff.1 hfirst
  -- the same event comes first, and it is due on both clocks
  obtain ⟨rest, hrest, hpop⟩ : ∃ rest, rest.now = s.now ∧ s.popDue? limit = some (first, rest) :=
    ⟨_, rfl, popDue?_eq_some_iff.2 ⟨tail, hqueue, hdue, rfl⟩⟩
  have hpop' : popDue? limit { s with now := now } = some (first, { rest with now := now }) := by
    rw [popDue?_ofClock, hpop, Option.map_some]
  cases bound with
  | zero => rw [pass, pass, hpop, hpop']
  | succ bound =>
    rw [pass_succ_of_popDue? hpop, pass_succ_of_popDue? hpop', arrive_ofClock (hrest ▸ hs) hnow]

/-- Reactions that do not move the clock back leave it at or after the start of the pass. -/
theorem Turns.le_now {react : Reaction ψ} {limit : UInt64} {n : Nat} {s s' : Scheduler}
    {world world' : ψ} (h : Turns react limit n s world s' world')
    (hclock : ∀ event s world, s.now ≤ (react event s world).1.now) : s.now ≤ s'.now := by
  induction h with
  | refl s world => exact UInt64.le_refl _
  | @turn n s s' rest world world' event hpop _ ih =>
    have harrive : s.now ≤ (rest.arrive event).now := by
      obtain ⟨tail, -, -, rfl⟩ := popDue?_eq_some_iff.1 hpop
      exact le_laterCycle_left _ _
    exact UInt64.le_trans harrive (UInt64.le_trans (hclock _ _ _) ih)

/-- A pass up to the present cycle, with reactions that leave the clock alone, leaves it where it is. -/
theorem now_of_pass {react : Reaction ψ} (hclock : ∀ event s world, (react event s world).1.now = s.now)
    {limit : UInt64} {s s' : Scheduler} {world world' : ψ} {bound count : Nat}
    (h : pass react limit bound 0 s world = some (count, s', world')) (hnow : s.now = limit) :
    s'.now = limit := by
  obtain ⟨hturns, -⟩ := exists_pass_iff.1 ⟨bound, h⟩
  have hback : s'.now ≤ limit :=
    hturns.now_le (fun event s world => hclock event s world ▸ UInt64.le_refl _)
      (hnow ▸ UInt64.le_refl _)
  have hforward : s.now ≤ s'.now :=
    hturns.le_now fun event s world => (hclock event s world).symm ▸ UInt64.le_refl _
  exact UInt64.le_antisymm hback (hnow ▸ hforward)

/-- A handler that never resets leaves the clock alone. -/
theorem Handler.NeverResets.now_react {handler : Handler ψ} (hquiet : handler.NeverResets)
    (event : Event) (s : Scheduler) (world : ψ × List Moment) :
    (handler.react event s world).1.now = s.now :=
  UInt64.le_antisymm (handler.now_react_le event s world)
    (Conduct.clockRises (hquiet event s world.1) s _).1

/-- The passes of a jump and of an advance to the same cycle are one pass. -/
theorem pass_jump_eq {react : Reaction ψ} {s : Scheduler} {first : Event}
    (hfirst : s.queue.head? = some first) (bound : Nat) (world : ψ) :
    pass react (laterCycle s.now first.due) bound 0 { s with now := laterCycle s.now first.due } world =
      pass react (laterCycle s.now first.due) bound 0 s world := by
  rcases UInt64.le_total s.now first.due with hlater | hpast
  · -- the first hand-out sets both clocks
    rw [laterCycle_eq_right hlater]
    exact pass_ofClock hfirst (UInt64.le_refl _) hlater (UInt64.le_refl _) bound 0 world
  · -- the clock stands already where the jump sets it
    have hsame : laterCycle s.now first.due = s.now :=
      UInt64.le_antisymm (laterCycle_le (UInt64.le_refl _) hpast) (le_laterCycle_left _ _)
    rw [hsame]

/-- The earliest due cycle is the next one. -/
theorem nextDue?_eq_some_of_earliest {s : Scheduler} (h : s.WellKept) {due : UInt64}
    (hdue : Earliest s due) : s.nextDue? = some due := by
  obtain ⟨⟨e, he, rfl⟩, hfirst⟩ := hdue
  cases hnext : s.nextDue? with
  | none => exact absurd he (nextDue?_eq_none_iff.1 hnext ▸ List.not_mem_nil)
  | some due =>
    obtain ⟨⟨first, hmem, rfl⟩, hle⟩ := h.of_nextDue?_eq_some hnext
    rw [UInt64.le_antisymm (hle e he) (hfirst first hmem)]

/-- Jumping to the earliest waiting event, due at `due`, is advancing by the cycles until it is due, or
by none when it is overdue. With every bound on the number of hand-outs one of the two ends if and only
if the other does. Then they share the final scheduler, the final state of the world, and the record of
what was handed out to the handler, with the scheduler that the handler saw each time, and of what the
handler did. -/
theorem jump_iff_advance {handler : Handler ψ} (hquiet : handler.NeverResets) {rule : ClockRule}
    {past : List Moment} {s : Scheduler} (life : Life rule past s) {due : UInt64}
    (hdue : Earliest s due) (bound : Nat) (world : ψ) (woken : Bool) (s' : Scheduler) (world' : ψ)
    (past' : List Moment) :
    s.jump handler.react bound (world, past) = some (woken, s', world', past') ↔
      woken = true ∧ ∃ count,
        s.advance handler.react bound (cyclesUntil s.now due) (world, past) =
          some (count, s', world', past') := by
  have hnext := nextDue?_eq_some_of_earliest life.wellKept hdue
  obtain ⟨first, hfirst, rfl⟩ := Option.map_eq_some_iff.1 hnext
  -- Both passes run to the same cycle. They differ in the clock they start with, which the first event
  -- sets.
  have hsame := @pass_jump_eq _ handler.react s first hfirst bound (world, past)
  unfold jump advance dispatchDue
  rw [hnext, addCycles_cyclesUntil]
  dsimp only
  constructor
  · intro h
    obtain ⟨⟨count, last, after⟩, hpass, heq⟩ := Option.map_eq_some_iff.1 h
    cases heq
    -- an advance sets the clock to its limit at the end, where the jump has it already
    have hclock := now_of_pass hquiet.now_react hpass rfl
    refine ⟨rfl, count, Option.map_eq_some_iff.2 ⟨_, hsame ▸ hpass, ?_⟩⟩
    dsimp only
    rw [← hclock]
  · rintro ⟨rfl, count, h⟩
    obtain ⟨⟨count, last, after⟩, hpass, heq⟩ := Option.map_eq_some_iff.1 h
    rw [← hsame] at hpass
    have hclock := now_of_pass hquiet.now_react hpass rfl
    cases heq
    refine Option.map_eq_some_iff.2 ⟨_, hpass, ?_⟩
    dsimp only
    rw [← hclock]

/-- At cycle 5 one event is overdue since cycle 3, and another one is due at cycle 5. A jump hands out
both, and the handler schedules each anew for cycle 9, as it does when the clock advances by no cycle.
From there it is four cycles to the next jump. -/
theorem jump_iff_advance_overdue :
    ∃ past s s' past' s'' past'', Life Elapses past s ∧ ticker.NeverResets ∧ s.now = 5 ∧
      Earliest s 3 ∧ s.jump ticker.react 2 ((), past) = some (true, s', (), past') ∧
      s.advance ticker.react 2 0 ((), past) = some (2, s', (), past') ∧
      Earliest s' 9 ∧ s'.jump ticker.react 2 ((), past') = some (true, s'', (), past'') ∧
      s'.advance ticker.react 2 4 ((), past') = some (2, s'', (), past'') := by
  have powerOn : Life Elapses [] {} := .start
  have life := (((powerOn.perform (.scheduleAt 5 timer)).handOut
    (show popDue? 5 _ = some (_, _) from rfl)).perform (.scheduleAt 5 timer)).perform
      (.scheduleAt 3 timer)
  have hquiet : ticker.NeverResets := fun _ _ _ => ⟨nofun, fun _ _ => trivial⟩
  -- an event that is due before the clock: the jump hands it out without going back
  have hoverdue : Earliest _ 3 := life.wellKept.of_nextDue?_eq_some rfl
  have hfirst := (jump_iff_advance hquiet life hoverdue 2 () true _ () _).2 ⟨rfl, 2, rfl⟩
  have life' := life.jump hfirst
  -- the handler has ordered the next one, which lies ahead
  have hlater : Earliest _ 9 := life'.wellKept.of_nextDue?_eq_some rfl
  have hsecond := (jump_iff_advance hquiet life' hlater 2 () true _ () _).2 ⟨rfl, 2, rfl⟩
  exact ⟨_, _, _, _, _, _, life, hquiet, rfl, hoverdue, hfirst, rfl, hlater, hsecond, rfl⟩

end Scheduler

end Motherboard
