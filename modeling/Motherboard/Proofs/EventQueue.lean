import Mathlib.Data.List.Nodup
import Motherboard.Event.Scheduler

/-!
# The queue of a scheduler and its index

A scheduler keeps its waiting events twice: the queue orders them, the index finds them by handle.
`WellKept` says that both hold the same events, that the queue is in the order of keys, and that
handles and sequence numbers have been given out in step. Every operation keeps it, and under it
taking an event out means the same wherever it is done: cancelling and handing out both leave the
scheduler `without` the handle.

## Results

* `toNat_laterCycle`, `toNat_addCycles` — the arithmetic of cycles.
* `lookup_index`                         — the index holds the key of every waiting event, and no other.
* `cancel_of_waits`, `cancel_of_not_waits` — cancelling takes out one event, or nothing.
* `of_popDue?_eq_some`                    — handing out takes the first event, if it is due.
* `lt_due_of_popDue?_eq_none`, `of_nextDue?_eq_some` — the first event is the earliest.
* `WellKept.scheduleAt`, `WellKept.without`, `WellKept.reset` — what operations keep.
-/

namespace Motherboard

/-! ## Cycles -/

/-- The later of two cycles is their maximum as numbers. -/
theorem toNat_laterCycle (a b : UInt64) : (laterCycle a b).toNat = max a.toNat b.toNat := by
  unfold laterCycle
  split
  next h =>
    rw [UInt64.lt_iff_toNat_lt] at h
    omega
  next h =>
    rw [UInt64.lt_iff_toNat_lt] at h
    omega

/-- Cycles add up to the last one that 64 bits can count, and then stay there. -/
theorem toNat_addCycles (a b : UInt64) :
    (addCycles a b).toNat = min (a.toNat + b.toNat) 0xFFFFFFFFFFFFFFFF := by
  unfold addCycles
  have ha := a.toNat_lt
  have hb := b.toNat_lt
  split
  -- the sum has room
  next h =>
    rw [UInt64.toNat_add, Nat.mod_eq_of_lt h]
    omega
  next h =>
    have hlast : (0xFFFFFFFFFFFFFFFF : UInt64).toNat = 0xFFFFFFFFFFFFFFFF := rfl
    rw [hlast]
    omega

theorem le_laterCycle_left (a b : UInt64) : a ≤ laterCycle a b := by
  rw [UInt64.le_iff_toNat_le, toNat_laterCycle]
  exact Nat.le_max_left _ _

theorem le_laterCycle_right (a b : UInt64) : b ≤ laterCycle a b := by
  rw [UInt64.le_iff_toNat_le, toNat_laterCycle]
  exact Nat.le_max_right _ _

/-- The later of two cycles is their least upper bound. -/
theorem laterCycle_le {a b c : UInt64} (ha : a ≤ c) (hb : b ≤ c) : laterCycle a b ≤ c := by
  rw [UInt64.le_iff_toNat_le] at *
  rw [toNat_laterCycle]
  exact Nat.max_le.2 ⟨ha, hb⟩

theorem laterCycle_eq_right {a b : UInt64} (h : a ≤ b) : laterCycle a b = b :=
  UInt64.le_antisymm (laterCycle_le h (UInt64.le_refl b)) (le_laterCycle_right a b)

theorem le_addCycles (a b : UInt64) : a ≤ addCycles a b := by
  rw [UInt64.le_iff_toNat_le, toNat_addCycles]
  have := a.toNat_lt
  omega

/-- Advancing twice is advancing once by the sum, although each of the sums may saturate. -/
theorem addCycles_addCycles (now a b : UInt64) :
    addCycles (addCycles now a) b = addCycles now (addCycles a b) := by
  rw [← UInt64.toNat_inj]
  simp only [toNat_addCycles]
  omega

/-! ## Order of keys -/

namespace EventKey

/-- The order of keys is lexicographic: due first, and then the order of scheduling. -/
theorem before_iff {a b : EventKey} :
    a.before b = true ↔ a.due < b.due ∨ a.due = b.due ∧ a.sequence < b.sequence := by
  simp [before]

theorem before_trans {a b c : EventKey} (hab : a.before b = true) (hbc : b.before c = true) :
    a.before c = true := by
  rw [before_iff] at *
  rcases hab with hab | ⟨hab, hab'⟩ <;> rcases hbc with hbc | ⟨hbc, hbc'⟩
  · exact .inl (UInt64.lt_trans hab hbc)
  · exact .inl (hbc ▸ hab)
  · exact .inl (hab ▸ hbc)
  · exact .inr ⟨hab.trans hbc, Nat.lt_trans hab' hbc'⟩

theorem due_le_of_before {a b : EventKey} (h : a.before b = true) : a.due ≤ b.due := by
  rcases before_iff.1 h with h | ⟨h, -⟩
  · exact UInt64.le_of_lt h
  · exact h ▸ UInt64.le_refl _

/-- Of two keys with different sequence numbers one comes before the other. -/
theorem before_of_not_before {a b : EventKey} (h : ¬ a.before b = true)
    (hne : a.sequence ≠ b.sequence) : b.before a = true := by
  rw [before_iff] at *
  rw [UInt64.lt_iff_toNat_lt, ← UInt64.toNat_inj] at *
  omega

end EventKey

/-! ## Inserting in order -/

namespace Event

/-- Inserting an event adds it and loses none. -/
theorem perm_insertSorted (e : Event) (events : List Event) :
    (e.insertSorted events).Perm (e :: events) := by
  induction events with
  | nil => exact .refl _
  | cons first rest ih =>
    unfold insertSorted
    split
    · exact .refl _
    · exact (ih.cons first).trans (.swap e first rest)

/-- An event whose sequence number is new keeps the order. -/
theorem sorted_insertSorted {e : Event} {events : List Event}
    (hsorted : events.Pairwise fun a b => a.key.before b.key = true)
    (hnew : ∀ x ∈ events, x.sequence ≠ e.sequence) :
    (e.insertSorted events).Pairwise fun a b => a.key.before b.key = true := by
  induction events with
  | nil => exact List.pairwise_singleton _ _
  | cons first rest ih =>
    obtain ⟨hfirst, hrest⟩ := List.pairwise_cons.1 hsorted
    unfold insertSorted
    split
    -- where the new event stands first, it is before all others by transitivity
    next hbefore =>
      refine List.pairwise_cons.2 ⟨?_, hsorted⟩
      intro x hx
      rcases List.mem_cons.1 hx with rfl | hx
      · exact hbefore
      · exact EventKey.before_trans hbefore (hfirst x hx)
    -- otherwise the first event is before the new one, because no two keys are equal
    next hnot =>
      refine List.pairwise_cons.2 ⟨?_, ih hrest fun x hx => hnew x (List.mem_cons_of_mem _ hx)⟩
      intro x hx
      rcases List.mem_cons.1 ((perm_insertSorted e rest).mem_iff.1 hx) with rfl | hx
      · exact EventKey.before_of_not_before hnot (hnew first List.mem_cons_self).symm
      · exact hfirst x hx

end Event

/-! ## Looking up in an index -/

/-- In an index without repeated keys, looking up and being listed are the same. -/
theorem lookup_eq_some_iff_mem {α β : Type} [BEq α] [LawfulBEq α] {entries : List (α × β)}
    (hdistinct : (entries.map Prod.fst).Nodup) {a : α} {b : β} :
    entries.lookup a = some b ↔ (a, b) ∈ entries := by
  induction entries with
  | nil => simp
  | cons entry rest ih =>
    obtain ⟨a', b'⟩ := entry
    obtain ⟨hfirst, hrest⟩ := List.nodup_cons.1 hdistinct
    rw [List.lookup_cons, List.mem_cons]
    split
    next heq =>
      have haa' := eq_of_beq heq
      subst haa'
      -- the key stands first, so that it cannot stand in the rest as well
      have hnot : (a, b) ∉ rest := fun hmem => hfirst (List.mem_map.2 ⟨_, hmem, rfl⟩)
      simp [hnot, eq_comm]
    next hne =>
      have hne' : a ≠ a' := by simpa using hne
      simp [ih hrest, hne']

namespace Scheduler

/-! ## Waiting events -/

/-- The event with a handle is in the queue. -/
def Waits (s : Scheduler) (handle : EventHandle) : Prop :=
  ∃ e ∈ s.queue, e.handle = handle

instance (s : Scheduler) (handle : EventHandle) : Decidable (s.Waits handle) :=
  inferInstanceAs (Decidable (∃ e ∈ s.queue, e.handle = handle))

/-- The scheduler in which a handle is neither queued nor indexed. -/
def without (handle : EventHandle) (s : Scheduler) : Scheduler :=
  { s with
    queue := s.queue.filter fun e => e.handle != handle
    index := s.index.filter fun entry => entry.1 != handle }

/-- Without one handle, the queue has just the events of the other handles. -/
theorem mem_queue_without {s : Scheduler} {handle : EventHandle} {e : Event} :
    e ∈ (s.without handle).queue ↔ e ∈ s.queue ∧ e.handle ≠ handle := by
  rw [without, List.mem_filter, bne_iff_ne]

/-- The event that is queued when one is scheduled. -/
def eventFor (due : UInt64) (spec : EventSpec) (s : Scheduler) : Event :=
  { spec with handle := ⟨s.handles + 1⟩, due := due, sequence := s.sequences }

theorem scheduleAt_snd (due : UInt64) (spec : EventSpec) (s : Scheduler) :
    (s.scheduleAt due spec).2 =
      { s with
        handles := s.handles + 1
        sequences := s.sequences + 1
        queue := (s.eventFor due spec).insertSorted s.queue
        index := ((s.eventFor due spec).handle, (s.eventFor due spec).key) :: s.index } := rfl

theorem mem_queue_scheduleAt {s : Scheduler} {due : UInt64} {spec : EventSpec} {e : Event} :
    e ∈ (s.scheduleAt due spec).2.queue ↔ e = s.eventFor due spec ∨ e ∈ s.queue := by
  rw [scheduleAt_snd, ((s.eventFor due spec).perm_insertSorted s.queue).mem_iff, List.mem_cons]

/-! ## Taking the first event -/

/-- An event is popped exactly if it is the first of the queue and due. -/
theorem popDue?_eq_some_iff {s rest : Scheduler} {limit : UInt64} {event : Event} :
    s.popDue? limit = some (event, rest) ↔
      ∃ tail, s.queue = event :: tail ∧ event.due ≤ limit ∧
        rest = ({ s with queue := tail }).forget event.handle := by
  unfold popDue?
  cases s.queue with
  | nil => simp
  | cons first tail =>
    dsimp only
    split
    -- the first event is not due yet
    next hlimit =>
      constructor
      · intro h
        cases h
      · rintro ⟨_, heq, hdue, -⟩
        cases heq
        exact absurd hlimit (UInt64.not_lt.2 hdue)
    next hlimit =>
      constructor
      · intro h
        cases h
        exact ⟨tail, rfl, UInt64.not_lt.1 hlimit, rfl⟩
      · rintro ⟨_, heq, -, rfl⟩
        cases heq
        rfl

/-- Nothing is popped exactly if the first event, if there is one, is not due yet. -/
theorem popDue?_eq_none_iff {s : Scheduler} {limit : UInt64} :
    s.popDue? limit = none ↔ ∀ first, s.queue.head? = some first → limit < first.due := by
  unfold popDue?
  cases s.queue with
  | nil => simp
  | cons first tail => simp

/-! ## What is kept of queue and index -/

/-- The queue and the index are in order and agree. -/
structure WellKept (s : Scheduler) : Prop where
  sorted : s.queue.Pairwise fun a b => a.key.before b.key = true
  distinct : (s.queue.map Event.handle).Nodup
  indexed : s.index.Perm (s.queue.map fun e => (e.handle, e.key))
  inStep : s.sequences = s.handles
  numbered : ∀ e ∈ s.queue, e.handle.id = e.sequence + 1
  given : ∀ e ∈ s.queue, e.handle.id ≤ s.handles

namespace WellKept

variable {s : Scheduler} {handle : EventHandle}

theorem eq_of_handle (h : s.WellKept) {a b : Event} (ha : a ∈ s.queue) (hb : b ∈ s.queue)
    (hab : a.handle = b.handle) : a = b :=
  List.inj_on_of_nodup_map h.distinct ha hb hab

/-- A key belongs to one waiting event: sequence numbers and handles go together. -/
theorem eq_of_key (h : s.WellKept) {a b : Event} (ha : a ∈ s.queue) (hb : b ∈ s.queue)
    (hab : a.key = b.key) : a = b := by
  have hsequence : a.sequence = b.sequence := congrArg EventKey.sequence hab
  have hid : a.handle.id = b.handle.id := by
    rw [h.numbered a ha, h.numbered b hb, hsequence]
  exact h.eq_of_handle ha hb (congrArg EventHandle.mk hid)

/-- The index finds the keys of the waiting events and no others. -/
theorem lookup_index (h : s.WellKept) {key : EventKey} :
    s.index.lookup handle = some key ↔ ∃ e ∈ s.queue, e.handle = handle ∧ e.key = key := by
  have hfst : (s.index.map Prod.fst).Perm (s.queue.map Event.handle) := by
    simpa [Function.comp_def] using h.indexed.map Prod.fst
  rw [lookup_eq_some_iff_mem (hfst.nodup_iff.2 h.distinct), h.indexed.mem_iff]
  simp

/-- A handle is pending exactly while its event waits. -/
theorem isPending_iff (h : s.WellKept) : s.isPending handle = true ↔ s.Waits handle := by
  unfold isPending
  rw [Option.isSome_iff_exists]
  simp only [h.lookup_index]
  exact ⟨fun ⟨_, e, he, hhandle, _⟩ => ⟨e, he, hhandle⟩, fun ⟨e, he, hhandle⟩ =>
    ⟨e.key, e, he, hhandle, rfl⟩⟩

/-- Nothing is left behind without a handle in either container. -/
theorem without (h : s.WellKept) (handle : EventHandle) : (s.without handle).WellKept where
  sorted := h.sorted.filter _
  distinct := h.distinct.sublist (List.filter_sublist.map _)
  indexed := by
    have hfilter := h.indexed.filter fun entry => entry.1 != handle
    rw [List.filter_map] at hfilter
    exact hfilter
  inStep := h.inStep
  numbered e he := h.numbered e (mem_queue_without.1 he).1
  given e he := h.given e (mem_queue_without.1 he).1

/-- After a reset queue and index agree on being empty. -/
theorem reset (h : s.WellKept) : s.reset.WellKept where
  sorted := .nil
  distinct := .nil
  indexed := .nil
  inStep := h.inStep
  numbered _ he := nomatch he
  given _ he := nomatch he

/-- The clock and the count have no part in the queue. -/
theorem atCycle (h : s.WellKept) (now : UInt64) (dispatched : Nat) :
    WellKept { s with now := now, dispatched := dispatched } :=
  ⟨h.sorted, h.distinct, h.indexed, h.inStep, h.numbered, h.given⟩

/-! ## Scheduling -/

/-- Scheduling keeps queue and index in agreement, since the handle and the sequence number are new. -/
theorem scheduleAt (h : s.WellKept) (due : UInt64) (spec : EventSpec) :
    (s.scheduleAt due spec).2.WellKept := by
  generalize hevent : s.eventFor due spec = event
  have hhandle : event.handle = ⟨s.handles + 1⟩ := by rw [← hevent, eventFor]
  have hsequence : event.sequence = s.sequences := by rw [← hevent, eventFor]
  -- the new event's numbers are above all that wait
  have hnewHandle : event.handle ∉ s.queue.map Event.handle := by
    intro hin
    obtain ⟨e, he, heq⟩ := List.mem_map.1 hin
    have hgiven := h.given e he
    rw [heq, hhandle] at hgiven
    exact absurd hgiven (Nat.not_succ_le_self _)
  have hnewSequence : ∀ e ∈ s.queue, e.sequence ≠ event.sequence := by
    intro e he heq
    have hgiven := h.given e he
    rw [h.numbered e he, heq, hsequence, h.inStep] at hgiven
    exact absurd hgiven (Nat.not_succ_le_self _)
  have hperm := event.perm_insertSorted s.queue
  have hcases : ∀ e ∈ event.insertSorted s.queue, e = event ∨ e ∈ s.queue := fun e he =>
    List.mem_cons.1 (hperm.mem_iff.1 he)
  rw [scheduleAt_snd, hevent]
  constructor
  · exact Event.sorted_insertSorted h.sorted hnewSequence
  · exact (hperm.map Event.handle).nodup_iff.2 (List.nodup_cons.2 ⟨hnewHandle, h.distinct⟩)
  · exact (h.indexed.cons _).trans (hperm.map fun e : Event => (e.handle, e.key)).symm
  · exact congrArg (· + 1) h.inStep
  · intro e he
    rcases hcases e he with rfl | he
    · rw [hhandle, hsequence, h.inStep]
    · exact h.numbered e he
  · intro e he
    rcases hcases e he with rfl | he
    · exact hhandle ▸ Nat.le_refl _
    · exact Nat.le_succ_of_le (h.given e he)

/-! ## Cancelling -/

/-- Cancelling what does not wait is answered with no and changes nothing. -/
theorem cancel_of_not_waits (h : s.WellKept) (hnot : ¬ s.Waits handle) :
    s.cancel handle = (false, s) := by
  have hlookup : s.index.lookup handle = none := by
    rw [← h.isPending_iff, isPending, Bool.not_eq_true, Option.isSome_eq_false_iff] at hnot
    exact Option.isNone_iff_eq_none.1 hnot
  unfold cancel
  rw [hlookup]

/-- Cancelling what waits is answered with yes and takes out just that event. -/
theorem cancel_of_waits (h : s.WellKept) (hwaits : s.Waits handle) :
    s.cancel handle = (true, s.without handle) := by
  obtain ⟨event, hevent, rfl⟩ := hwaits
  have hlookup : s.index.lookup event.handle = some event.key :=
    h.lookup_index.2 ⟨event, hevent, rfl, rfl⟩
  -- the key found and the handle asked for pick out the same event
  have hsame : ∀ e ∈ s.queue, (e.key != event.key) = (e.handle != event.handle) := by
    intro e he
    by_cases heq : e = event
    · rw [heq, bne_self_eq_false, bne_self_eq_false]
    · have hkey : e.key ≠ event.key := fun hkey => heq (h.eq_of_key he hevent hkey)
      have hhandle : e.handle ≠ event.handle := fun hhandle =>
        heq (h.eq_of_handle he hevent hhandle)
      rw [bne_iff_ne.2 hkey, bne_iff_ne.2 hhandle]
  have hfound : (s.queue.any fun e => e.key == event.key) = true :=
    List.any_eq_true.2 ⟨event, hevent, beq_self_eq_true _⟩
  unfold cancel
  rw [hlookup]
  dsimp only
  rw [hfound, List.filter_congr hsame]
  rfl

/-! ## Handing out -/

/-- Under the invariant the event handed out comes before all others, and only its handle goes. -/
theorem of_popDue?_eq_some (h : s.WellKept) {limit : UInt64} {event : Event} {rest : Scheduler}
    (hpop : s.popDue? limit = some (event, rest)) :
    event ∈ s.queue ∧ rest = s.without event.handle ∧
      ∀ e ∈ s.queue, e ≠ event → event.key.before e.key = true := by
  obtain ⟨tail, hqueue, -, rfl⟩ := popDue?_eq_some_iff.1 hpop
  have hsorted := h.sorted
  have hdistinct := h.distinct
  rw [hqueue] at hsorted hdistinct
  have hfirst := (List.nodup_cons.1 hdistinct).1
  -- no other event has the handle, so that forgetting it takes out the first event only
  have hothers : ∀ e ∈ tail, (e.handle != event.handle) = true := fun e he =>
    bne_iff_ne.2 fun heq => hfirst (heq ▸ List.mem_map_of_mem he)
  refine ⟨hqueue ▸ List.mem_cons_self, ?_, fun e he hne => ?_⟩
  · unfold Scheduler.without forget
    rw [hqueue, List.filter_cons, bne_self_eq_false, if_neg Bool.false_ne_true,
      List.filter_eq_self.2 hothers]
  · rw [hqueue] at he
    exact (List.pairwise_cons.1 hsorted).1 e ((List.mem_cons.1 he).resolve_left hne)

/-- The first event is the earliest. -/
theorem due_le_of_head? (h : s.WellKept) {first : Event} (hfirst : s.queue.head? = some first) :
    ∀ e ∈ s.queue, first.due ≤ e.due := by
  obtain ⟨tail, hqueue⟩ := List.head?_eq_some_iff.1 hfirst
  have hsorted := h.sorted
  rw [hqueue] at hsorted ⊢
  intro e he
  rcases List.mem_cons.1 he with rfl | he
  · exact UInt64.le_refl _
  · exact EventKey.due_le_of_before ((List.pairwise_cons.1 hsorted).1 e he)

/-- In an ordered queue, if the first event is not due then none is. -/
theorem lt_due_of_popDue?_eq_none (h : s.WellKept) {limit : UInt64}
    (hpop : s.popDue? limit = none) : ∀ e ∈ s.queue, limit < e.due := by
  intro e he
  cases hfirst : s.queue.head? with
  | none => exact absurd he (List.head?_eq_none_iff.1 hfirst ▸ List.not_mem_nil)
  | some first =>
    exact UInt64.lt_of_lt_of_le (popDue?_eq_none_iff.1 hpop first hfirst)
      (h.due_le_of_head? hfirst e he)

/-- The next due cycle is that of a waiting event, and the earliest of all. -/
theorem of_nextDue?_eq_some (h : s.WellKept) {due : UInt64} (hdue : s.nextDue? = some due) :
    (∃ e ∈ s.queue, e.due = due) ∧ ∀ e ∈ s.queue, due ≤ e.due := by
  obtain ⟨first, hfirst, rfl⟩ := Option.map_eq_some_iff.1 hdue
  exact ⟨⟨first, List.mem_of_head? hfirst, rfl⟩, h.due_le_of_head? hfirst⟩

end WellKept

/-- There is no next due cycle exactly if nothing waits. -/
theorem nextDue?_eq_none_iff {s : Scheduler} : s.nextDue? = none ↔ s.queue = [] := by
  rw [nextDue?, Option.map_eq_none_iff, List.head?_eq_none_iff]

end Scheduler

end Motherboard
