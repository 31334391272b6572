import Motherboard.Proofs.EventHistory

/-!
# Fates of events

Every handle that a scheduler has given out stands for an event that still waits, was handed out,
was cancelled, or was dropped by a reset: exactly one of these, and once. The counts of the four add
up to the count of how often the handle was given out (`Life.fates`), which is once, since handles only
grow (`Life.returned_increasing`). That an event waits can be told from the index as well as from the
queue, and cancelling goes by it: it takes out the one waiting event, or changes nothing.

`Bookkeeping` puts this together, and `bookkeeping_of_life` says that the books are right at all times.
The clock has no part in it, so it holds whatever the clock does.

Handles and sequence numbers are numbers without bound here. Counters of 64 bits stand for them for the
first 2 ^ 64 - 1 events (`Life.fits_words`), and so for all that this module and those after it say about
order and identity of events.
-/

namespace Motherboard.Scheduler

/-! ## Counting -/

/-- How many waiting events have a handle. -/
def waiting (handle : EventHandle) (s : Scheduler) : Nat :=
  (s.queue.map Event.handle).count handle

/-- How often the event with a handle was handed out. -/
def handOuts (handle : EventHandle) (past : List Moment) : Nat :=
  ((handedOut past).map Event.handle).count handle

/-- How often a handle was cancelled with success. -/
def cancellations (handle : EventHandle) (past : List Moment) : Nat :=
  past.countP fun m => m.what == .performed (.cancel handle) (.cancelled true)

/-- The scheduler after the last moment. -/
def present : List Moment → Scheduler
  | [] => {}
  | moment :: _ => moment.after

/-- How often a reset came while the event with a handle was waiting. -/
def drops (handle : EventHandle) : List Moment → Nat
  | [] => 0
  | moment :: earlier =>
    (if moment.what = .performed .reset .done then waiting handle (present earlier) else 0) +
      drops handle earlier

section Counts

variable {s : Scheduler} {handle other : EventHandle}

theorem waiting_pos_iff : 0 < waiting handle s ↔ s.Waits handle := by
  unfold waiting Waits
  rw [List.count_pos_iff, List.mem_map]

/-- No event waits twice. -/
theorem WellKept.waiting_le_one (h : s.WellKept) (handle : EventHandle) : waiting handle s ≤ 1 :=
  List.nodup_iff_count_le_one.1 h.distinct handle

theorem WellKept.waiting_eq_one_iff (h : s.WellKept) : waiting handle s = 1 ↔ s.Waits handle := by
  have := h.waiting_le_one handle
  rw [← waiting_pos_iff]
  omega

/-- Scheduling adds the new event to those that wait. -/
theorem waiting_scheduleAt (due : UInt64) (spec : EventSpec) :
    waiting handle (s.scheduleAt due spec).2 =
      (if (s.eventFor due spec).handle = handle then 1 else 0) + waiting handle s := by
  unfold waiting
  rw [scheduleAt_snd, (((s.eventFor due spec).perm_insertSorted s.queue).map Event.handle).count_eq,
    List.map_cons, List.count_cons, Nat.add_comm]
  simp only [beq_iff_eq]

/-- Taking an event out leaves none with its handle, and all others. -/
theorem waiting_without :
    waiting handle (s.without other) = if other = handle then 0 else waiting handle s := by
  -- taking events out by handle is taking their handles out
  have hmap : (s.without other).queue.map Event.handle =
      (s.queue.map Event.handle).filter fun handle => handle != other := by
    rw [List.filter_map]
    rfl
  unfold waiting
  rw [hmap]
  split
  next heq =>
    rw [← heq]
    refine List.count_eq_zero_of_not_mem fun hmem => ?_
    simpa using (List.mem_filter.1 hmem).2
  next hne => exact List.count_filter (by simpa using fun heq => hne heq.symm)

end Counts

/-! ## Counts at a moment -/

section Moments

variable {past : List Moment} {after : Scheduler} {handle other : EventHandle} {op : Operation}
  {answer : Answer} {event : Event} {found : Bool}

@[simp] theorem returned_scheduled :
    returned (⟨.performed op (.scheduled other), after⟩ :: past) = other :: returned past := rfl

@[simp] theorem returned_cancelled :
    returned (⟨.performed op (.cancelled found), after⟩ :: past) = returned past := rfl

@[simp] theorem returned_done :
    returned (⟨.performed op .done, after⟩ :: past) = returned past := rfl

@[simp] theorem returned_handedOut :
    returned (⟨.handedOut event, after⟩ :: past) = returned past := rfl

@[simp] theorem handedOut_handedOut :
    handedOut (⟨.handedOut event, after⟩ :: past) = event :: handedOut past := rfl

@[simp] theorem handOuts_performed :
    handOuts handle (⟨.performed op answer, after⟩ :: past) = handOuts handle past := rfl

@[simp] theorem handOuts_handedOut :
    handOuts handle (⟨.handedOut event, after⟩ :: past) =
      (if event.handle = handle then 1 else 0) + handOuts handle past := by
  simp [handOuts, List.count_cons, Nat.add_comm]

@[simp] theorem cancellations_performed :
    cancellations handle (⟨.performed op answer, after⟩ :: past) =
      (if op = .cancel handle ∧ answer = .cancelled true then 1 else 0) +
        cancellations handle past := by
  simp [cancellations, List.countP_cons, Nat.add_comm]

@[simp] theorem cancellations_handedOut :
    cancellations handle (⟨.handedOut event, after⟩ :: past) = cancellations handle past :=
  List.countP_cons_of_neg (by simp)

@[simp] theorem drops_performed :
    drops handle (⟨.performed op answer, after⟩ :: past) =
      (if op = .reset ∧ answer = .done then waiting handle (present past) else 0) +
        drops handle past := by
  simp [drops]

@[simp] theorem drops_handedOut :
    drops handle (⟨.handedOut event, after⟩ :: past) = drops handle past := by
  simp [drops]

end Moments

/-! ## Handles that were given out -/

variable {rule : ClockRule} {past : List Moment} {s : Scheduler}

/-- Handles only grow, across resets as well. -/
theorem Life.returned_increasing (life : Life rule past s) :
    ((returned past).Pairwise fun later sooner => sooner.id < later.id) ∧
      ∀ handle ∈ returned past, handle.id ≤ s.handles := by
  -- the counter bounds all handles that were given out, and the next one is above it
  induction life using Life.induction with
  | start => exact ⟨.nil, fun _ h => nomatch h⟩
  | scheduled life _ ih =>
    obtain ⟨hpairwise, hle⟩ := ih
    refine ⟨List.pairwise_cons.2 ⟨fun handle h => Nat.lt_succ_of_le (hle handle h), hpairwise⟩, ?_⟩
    intro handle h
    rcases List.mem_cons.1 h with rfl | h
    · exact Nat.le_refl _
    · exact Nat.le_succ_of_le (hle handle h)
  | cancelled _ _ ih => exact ih
  | missed _ _ ih => exact ih
  | reset _ ih => exact ih
  | handedOut _ _ _ ih => exact ih
  | setClock _ _ ih => exact ih

/-- Every event that is scheduled takes one handle and one sequence number. -/
theorem Life.handles_eq (life : Life rule past s) :
    s.handles = (returned past).length ∧ s.sequences = (returned past).length := by
  have hhandles : s.handles = (returned past).length := by
    -- only scheduling gives numbers out, and no reset takes them back
    induction life using Life.induction with
    | start => rfl
    | scheduled life _ ih => exact congrArg (· + 1) ih
    | cancelled _ _ ih => exact ih
    | missed _ _ ih => exact ih
    | reset _ ih => exact ih
    | handedOut _ _ _ ih => exact ih
    | setClock _ _ ih => exact ih
  exact ⟨hhandles, life.wellKept.inStep.trans hhandles⟩

/-- As long as fewer than 2 ^ 64 events have been scheduled, words of 64 bits can carry all numbers that
were given out: none of them has wrapped around, so that two words are equal or in order exactly when the
numbers are. -/
theorem Life.fits_words (life : Life rule past s) (hfew : (returned past).length < UInt64.size) :
    (∀ handle ∈ returned past, (UInt64.ofNat handle.id).toNat = handle.id) ∧
      ∀ e ∈ s.queue, (UInt64.ofNat e.handle.id).toNat = e.handle.id ∧
        (UInt64.ofNat e.sequence).toNat = e.sequence := by
  have hkept := life.wellKept
  have hcount := life.handles_eq.1
  have hword : ∀ n < UInt64.size, (UInt64.ofNat n).toNat = n := fun n hn => UInt64.toNat_ofNat_of_lt hn
  constructor
  · intro handle hreturned
    -- a handle is at most as large as the number of handles given out
    have hle := life.returned_increasing.2 handle hreturned
    exact hword _ (by omega)
  · intro e he
    have hgiven := hkept.given e he
    have hnumbered := hkept.numbered e he
    exact ⟨hword _ (by omega), hword _ (by omega)⟩

/-- No handle was given out twice. -/
theorem Life.count_returned_le_one (life : Life rule past s) (handle : EventHandle) :
    (returned past).count handle ≤ 1 := by
  -- the handles fall from the latest to the first, so none is there twice
  refine List.nodup_iff_count_le_one.1 ?_ handle
  refine life.returned_increasing.1.imp fun {later sooner} hlt heq => ?_
  rw [heq] at hlt
  exact Nat.lt_irrefl _ hlt

/-! ## The balance -/

/-- The clock may have moved since the last moment, the queue has not. -/
theorem Life.queue_present (life : Life rule past s) : (present past).queue = s.queue := by
  induction life with
  | start => rfl
  | perform _ _ _ => rfl
  | handOut _ _ _ => rfl
  | setClock _ _ ih => exact ih

/-- A handle was given out as often as its event waits, was handed out, was cancelled or was dropped,
all taken together. -/
theorem Life.fates (life : Life rule past s) (handle : EventHandle) :
    waiting handle s + handOuts handle past + cancellations handle past + drops handle past =
      (returned past).count handle := by
  -- each thing that happens moves an event from one count to another
  induction life using Life.induction with
  | start => rfl
  | scheduled life horder ih =>
    -- what orders an event neither cancels nor resets
    rw [waiting_scheduleAt]
    simp only [returned_scheduled, handOuts_performed, cancellations_performed, drops_performed,
      List.count_cons, beq_iff_eq, reduceCtorEq, and_false, if_false]
    omega
  | @cancelled past s other life hwaits ih =>
    have hone := life.wellKept.waiting_eq_one_iff.2 hwaits
    rw [waiting_without]
    simp only [returned_cancelled, handOuts_performed, cancellations_performed, drops_performed,
      Operation.cancel.injEq, reduceCtorEq, and_true, and_false, if_false]
    split
    next heq =>
      rw [← heq] at ih ⊢
      omega
    next => omega
  -- a cancel that finds nothing counts for nothing
  | missed life _ ih =>
    simp only [returned_cancelled, handOuts_performed, cancellations_performed, drops_performed,
      Answer.cancelled.injEq, reduceCtorEq, Bool.false_eq_true, and_false, if_false]
    omega
  -- all that wait are dropped at once
  | reset life ih =>
    have hpresent : waiting handle (present _) = waiting handle _ :=
      congrArg (fun queue => (queue.map Event.handle).count handle) life.queue_present
    have hreset : ∀ s : Scheduler, waiting handle s.reset = 0 := fun _ => rfl
    simp only [returned_done, handOuts_performed, cancellations_performed, drops_performed,
      reduceCtorEq, and_self, if_false, if_true, hreset, hpresent]
    omega
  -- the event handed out was one that waited
  | @handedOut past s event life hmem _ ih =>
    have hone := life.wellKept.waiting_eq_one_iff.2 ⟨event, hmem, rfl⟩
    have harrive : waiting handle ((s.without event.handle).arrive event) =
        waiting handle (s.without event.handle) := rfl
    rw [harrive, waiting_without]
    simp only [returned_handedOut, handOuts_handedOut, cancellations_handedOut, drops_handedOut]
    split
    next heq =>
      rw [← heq] at ih ⊢
      omega
    next => omega
  | setClock _ _ ih => exact ih

/-! ## The books -/

/-- Queue, index and record of a scheduler tell the same. -/
structure Bookkeeping (past : List Moment) (s : Scheduler) : Prop where
  /-- The index has a key under a handle exactly when the queue has the event with the handle, and has
  it at that key. -/
  indexed : ∀ handle key,
    s.index.lookup handle = some key ↔ ∃ e ∈ s.queue, e.handle = handle ∧ e.key = key
  /-- The queue has one event at a key. -/
  keyed : ∀ e ∈ s.queue, ∀ e' ∈ s.queue, e.key = e'.key → e = e'
  /-- Every handle is above all that were given out before. -/
  increasing : (returned past).Pairwise fun later sooner => sooner.id < later.id
  /-- A handle that was given out has one fate, and has it once; any other handle has none. -/
  fates : ∀ handle,
    waiting handle s + handOuts handle past + cancellations handle past + drops handle past =
      if handle ∈ returned past then 1 else 0
  /-- A handle is pending exactly while its event waits. -/
  pending : ∀ handle, s.isPending handle = true ↔ waiting handle s = 1
  /-- Cancelling finds the event exactly while it waits, and then takes out that event only. -/
  cancelling : ∀ handle,
    s.cancel handle = if waiting handle s = 1 then (true, s.without handle) else (false, s)
  /-- Cancelling a handle that is unknown or has met its fate finds nothing and changes nothing. -/
  spent : ∀ handle, handle ∉ returned past ∨ 0 < handOuts handle past ∨
    0 < cancellations handle past ∨ 0 < drops handle past → s.cancel handle = (false, s)

/-- At all times, inside of handlers as well, no event is lost, doubled or brought back. -/
theorem bookkeeping_of_life (life : Life rule past s) : Bookkeeping past s := by
  have hkept := life.wellKept
  have hfates : ∀ handle, waiting handle s + handOuts handle past + cancellations handle past +
      drops handle past = if handle ∈ returned past then 1 else 0 := by
    intro handle
    rw [life.fates handle]
    split
    next hmem =>
      exact Nat.le_antisymm (life.count_returned_le_one handle) (List.count_pos_iff.2 hmem)
    next hnot => exact List.count_eq_zero.2 hnot
  have hcancelling : ∀ handle, s.cancel handle =
      if waiting handle s = 1 then (true, s.without handle) else (false, s) := by
    intro handle
    split
    next hone => exact hkept.cancel_of_waits (hkept.waiting_eq_one_iff.1 hone)
    next hnot => exact hkept.cancel_of_not_waits fun hwaits => hnot (hkept.waiting_eq_one_iff.2 hwaits)
  -- field by field, each from one lemma above
  constructor
  · exact fun _ _ => hkept.lookup_index
  · exact fun e he e' he' => hkept.eq_of_key he he'
  · exact life.returned_increasing.1
  · exact hfates
  · exact fun _ => hkept.isPending_iff.trans hkept.waiting_eq_one_iff.symm
  · exact hcancelling
  · intro handle hspent
    -- the one fate leaves no room for another
    have hfate := hfates handle
    have hnot : waiting handle s ≠ 1 := by
      rcases hspent with hunknown | hspent
      · rw [if_neg hunknown] at hfate
        omega
      · split at hfate <;> omega
    rw [hcancelling, if_neg hnot]

/-- A handler who schedules an event and drops it again by a reset, and then schedules another. -/
def resetter : Handler Unit := fun _ _ world =>
  .act (.scheduleAfter 4 timer) fun _ _ => .act .reset fun _ _ => .act (.scheduleAt 9 timer) fun _ _ =>
    .done world

/-- Four events: the first is cancelled, the second handed out by a pass, the third dropped by its
handler's reset, and the fourth waits. -/
theorem bookkeeping_of_life_acrossAReset :
    ∃ past s, session [.perform (.scheduleAt 5 timer), .perform (.scheduleAt 3 timer),
        .perform (.cancel ⟨1⟩), .advance resetter 1 3] {} ((), []) = some (s, (), past) ∧
      Life Elapses past s ∧ returned past = [⟨4⟩, ⟨3⟩, ⟨2⟩, ⟨1⟩] ∧ cancellations ⟨1⟩ past = 1 ∧
      handOuts ⟨2⟩ past = 1 ∧ drops ⟨3⟩ past = 1 ∧ waiting ⟨4⟩ s = 1 ∧ Bookkeeping past s := by
  have powerOn : Life Elapses ((), ([] : List Moment)).2 {} := .start
  have life := powerOn.session (show session [.perform (.scheduleAt 5 timer),
    .perform (.scheduleAt 3 timer), .perform (.cancel ⟨1⟩), .advance resetter 1 3] {} ((), []) =
      some (_, (), _) from rfl)
  exact ⟨_, _, rfl, life, rfl, rfl, rfl, rfl, rfl, bookkeeping_of_life life⟩

end Motherboard.Scheduler
