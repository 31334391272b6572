import Motherboard.Proofs.EventFates

/-!
# The order of hand-outs

Of all events that wait, the one handed out is the first by due cycle and then by the order in which
they were scheduled (`handOut_first`). The queue changes all the time, so this orders hand-outs only at
one moment; over a whole life it still follows that events due at the same cycle are handed out in the
order in which they were scheduled, whichever passes they fall into. The invariant behind it is that
what waits was scheduled after everything handed out for the same cycle (`Life.scheduled_after`).

The order of scheduling is that of the handles in the record. It is the order of sequence numbers too,
because both are counted in step. As with the fates of events, the rule of the clock does not matter.
Words of 64 bits are in the order of these numbers while fewer than 2 ^ 64 events have been scheduled
(`Life.fits_words`).
-/

namespace Motherboard.Scheduler

/-- The record tells that `a` was scheduled before `b`. -/
def ScheduledBefore (past : List Moment) (a b : Event) : Prop :=
  [b.handle, a.handle].Sublist (returned past)

/-- An event comes before another: it is due earlier, or at the same cycle and scheduled earlier. -/
def ComesBefore (past : List Moment) (a b : Event) : Prop :=
  a.due < b.due ∨ a.due = b.due ∧ ScheduledBefore past a b

variable {rule : ClockRule} {past : List Moment} {s : Scheduler}

/-- In a list in which a function falls, two members stand in the order of its values. -/
theorem sublist_pair_of_pairwise {α : Type} {f : α → Nat} {l : List α}
    (hfalls : l.Pairwise fun a b => f b < f a) {a b : α} (ha : a ∈ l) (hb : b ∈ l) (hlt : f b < f a) :
    [a, b].Sublist l := by
  induction l with
  | nil => exact nomatch ha
  | cons x rest ih =>
    obtain ⟨hx, hrest⟩ := List.pairwise_cons.1 hfalls
    rcases List.mem_cons.1 ha with rfl | ha
    · -- `a` is the first item, and `b` comes after it
      have hbrest : b ∈ rest := (List.mem_cons.1 hb).resolve_left fun heq =>
        absurd hlt (heq ▸ Nat.lt_irrefl _)
      exact (List.singleton_sublist.2 hbrest).cons_cons a
    · have hbrest : b ∈ rest := (List.mem_cons.1 hb).resolve_left fun heq =>
        Nat.lt_asymm hlt (heq ▸ hx a ha)
      exact (ih hrest ha hbrest).cons x

/-! ## Handles of events -/

/-- Waiting events have been scheduled. -/
theorem Life.returned_of_queue (life : Life rule past s) {e : Event} (he : e ∈ s.queue) :
    e.handle ∈ returned past := by
  have hwaits := waiting_pos_iff.2 ⟨e, he, rfl⟩
  have hfates := life.fates e.handle
  exact List.count_pos_iff.1 (by omega)

/-- Events that were handed out have been scheduled. -/
theorem Life.returned_of_handedOut (life : Life rule past s) {e : Event} (he : e ∈ handedOut past) :
    e.handle ∈ returned past := by
  have hcount : 0 < handOuts e.handle past := List.count_pos_iff.2 (List.mem_map_of_mem he)
  have hfates := life.fates e.handle
  exact List.count_pos_iff.1 (by omega)

theorem Life.scheduledBefore (life : Life rule past s) {a b : Event} (ha : a.handle ∈ returned past)
    (hb : b.handle ∈ returned past) (hlt : a.handle.id < b.handle.id) : ScheduledBefore past a b :=
  sublist_pair_of_pairwise life.returned_increasing.1 hb ha hlt

/-- The first in the queue is the first by due cycle and order of scheduling. -/
theorem Life.comesBefore (life : Life rule past s) {a b : Event} (ha : a ∈ s.queue) (hb : b ∈ s.queue)
    (hbefore : a.key.before b.key = true) : ComesBefore past a b := by
  rcases EventKey.before_iff.1 hbefore with hdue | ⟨hdue, hsequence⟩
  · exact .inl hdue
  · refine .inr ⟨hdue, life.scheduledBefore (life.returned_of_queue ha) (life.returned_of_queue hb) ?_⟩
    -- a handle is one more than the sequence number that was given out with it
    rw [life.wellKept.numbered a ha, life.wellKept.numbered b hb]
    exact Nat.succ_lt_succ hsequence

/-! ## Over a life -/

/-- What waits was scheduled after everything that was handed out for the same cycle. -/
theorem Life.scheduled_after (life : Life rule past s) :
    ∀ sooner ∈ handedOut past, ∀ e ∈ s.queue, sooner.due = e.due → sooner.handle.id < e.handle.id := by
  induction life using Life.induction with
  | start => exact fun _ h => nomatch h
  | @scheduled past s op due spec life _ ih =>
    intro sooner hsooner e he hdue
    rcases mem_queue_scheduleAt.1 he with rfl | he
    · -- a new handle is above all that were given out
      exact Nat.lt_succ_of_le
        (life.returned_increasing.2 _ (life.returned_of_handedOut hsooner))
    · exact ih sooner hsooner e he hdue
  | cancelled _ _ ih =>
    exact fun sooner hsooner e he => ih sooner hsooner e (mem_queue_without.1 he).1
  | missed _ _ ih => exact ih
  | reset _ _ => exact fun _ _ _ h => nomatch h
  | @handedOut past s event life hmem hfirst ih =>
    intro sooner hsooner e he hdue
    obtain ⟨hwaiting, hother⟩ := mem_queue_without.1 he
    rcases List.mem_cons.1 hsooner with rfl | hsooner
    · -- the event handed out just now is first by sequence number among those due at its cycle
      have hne : e ≠ sooner := fun heq => hother (congrArg Event.handle heq)
      have hsequence : sooner.sequence < e.sequence := by
        rcases EventKey.before_iff.1 (hfirst e hwaiting hne) with hlt | ⟨-, hsequence⟩
        · have hlt' : sooner.due < e.due := hlt
          rw [hdue] at hlt'
          exact absurd hlt' (UInt64.lt_irrefl _)
        · exact hsequence
      rw [life.wellKept.numbered sooner hmem, life.wellKept.numbered e hwaiting]
      exact Nat.succ_lt_succ hsequence
    · exact ih sooner hsooner e hwaiting hdue
  | setClock _ _ ih => exact ih

/-- Events due at the same cycle are handed out with rising handles. -/
theorem Life.handedOut_rising (life : Life rule past s) :
    (handedOut past).Pairwise fun later sooner =>
      sooner.due = later.due → sooner.handle.id < later.handle.id := by
  induction life using Life.induction with
  | start => exact .nil
  | scheduled _ _ ih => exact ih
  | cancelled _ _ ih => exact ih
  | missed _ _ ih => exact ih
  | reset _ ih => exact ih
  | handedOut life hmem _ ih =>
    exact List.pairwise_cons.2 ⟨fun sooner h => life.scheduled_after sooner h _ hmem, ih⟩
  | setClock _ _ ih => exact ih

/-- At every moment the event handed out comes before all others that wait; no other is due earlier.
And whatever passes, cancellations and resets lie between two hand-outs of the record: if both events
were due at the same cycle, the one handed out sooner was scheduled before the other. -/
theorem handOut_first (life : Life rule past s) :
    (∀ limit event rest, s.popDue? limit = some (event, rest) → event ∈ s.queue ∧
      ∀ other ∈ s.queue, other ≠ event → ComesBefore past event other ∧ event.due ≤ other.due) ∧
    (handedOut past).Pairwise fun later sooner =>
      sooner.due = later.due → ScheduledBefore past sooner later := by
  constructor
  · intro limit event rest hpop
    obtain ⟨hmem, -, hfirst⟩ := life.wellKept.of_popDue?_eq_some hpop
    refine ⟨hmem, fun other hother hne => ?_⟩
    have hbefore := hfirst other hother hne
    exact ⟨life.comesBefore hmem hother hbefore, EventKey.due_le_of_before hbefore⟩
  · refine life.handedOut_rising.imp_of_mem fun hlater hsooner hrising hdue => ?_
    exact life.scheduledBefore (life.returned_of_handedOut hsooner)
      (life.returned_of_handedOut hlater) (hrising hdue)

/-- The first event is handed out, and then two more are scheduled that are due already: the later one
for an earlier cycle, the other for that of the first. They are handed out by their due cycles, and the
two due at the same cycle in the order in which they were scheduled. -/
theorem handOut_first_overdue :
    ∃ past s, Life Elapses past s ∧ (handedOut past).map Event.handle = [⟨3⟩, ⟨1⟩] ∧
      (∃ event rest, s.popDue? 5 = some (event, rest) ∧ event.handle = ⟨2⟩ ∧
        ∀ other ∈ s.queue, other ≠ event → ComesBefore past event other ∧ event.due ≤ other.due) ∧
      (handedOut past).Pairwise fun later sooner =>
        sooner.due = later.due → ScheduledBefore past sooner later := by
  have powerOn : Life Elapses [] {} := .start
  have first := (powerOn.perform (.scheduleAt 5 timer)).handOut
    (show popDue? 5 _ = some (_, _) from rfl)
  have overdue := (first.perform (.scheduleAt 5 timer)).perform (.scheduleAt 4 timer)
  have life := (overdue.handOut (show popDue? 5 _ = some (_, _) from rfl)).perform
    (.scheduleAfter 4 timer)
  have hfirst := handOut_first life
  refine ⟨_, _, life, rfl, ⟨_, _, rfl, rfl, ?_⟩, hfirst.2⟩
  exact (hfirst.1 5 _ _ rfl).2

end Motherboard.Scheduler
