import Motherboard.Proofs.EventHistory

/-!
# Schedulers that count from elsewhere

A reset leaves the counters of the scheduler where they stand, so the handles given out after it are
those of a new scheduler, each some numbers later. Nothing else about a scheduler depends on where its
counters began: every operation of the later one is the operation of the other under the sooner handle
(`Renumbered.perform`), and two passes hand out the same events as long as their reactions do not tell
the numbers apart (`Renumbered.pass`, and from it `advance`, `dispatchDue` and `jump`).

A handle that was given out before the reset has no counterpart. Subtraction sends it to handle zero,
which is never given out and never found.
-/

namespace Motherboard

/-! ## Later numbers -/

/-- The handle `k` numbers later. -/
def EventHandle.later (k : Nat) (handle : EventHandle) : EventHandle := ⟨handle.id + k⟩

/-- The handle `k` numbers sooner, or handle zero. -/
def EventHandle.sooner (k : Nat) (handle : EventHandle) : EventHandle := ⟨handle.id - k⟩

/-- The key `n` places later in the order of scheduling. -/
def EventKey.later (n : Nat) (key : EventKey) : EventKey := { key with sequence := key.sequence + n }

/-- The event with its handle and its place counted on. -/
def Event.later (k n : Nat) (e : Event) : Event :=
  { e with handle := e.handle.later k, sequence := e.sequence + n }

section Numbers

variable {k n : Nat}

@[simp] theorem EventHandle.sooner_later (handle : EventHandle) :
    (handle.later k).sooner k = handle := by
  simp [later, sooner]

/-- A later handle is found under the sooner one, unless that is handle zero. -/
theorem EventHandle.later_eq_iff {handle other : EventHandle} (h : 0 < handle.id) :
    handle.later k = other ↔ handle = other.sooner k := by
  cases handle
  cases other
  simp only [later, sooner, EventHandle.mk.injEq] at h ⊢
  omega

/-- Later numbers are as different as the earlier ones. -/
theorem EventKey.later_eq_iff {key other : EventKey} : key.later n = other.later n ↔ key = other := by
  cases key
  cases other
  simp [later]

/-- Shifting all sequence numbers by the same amount keeps their order. -/
@[simp] theorem EventKey.before_later (a b : EventKey) :
    (a.later n).before (b.later n) = a.before b := by
  have hsequence : decide (a.sequence + n < b.sequence + n) = decide (a.sequence < b.sequence) :=
    decide_eq_decide.2 Nat.add_lt_add_iff_right
  exact congrArg (fun sooner => decide (a.due < b.due) || (a.due == b.due && sooner)) hsequence

theorem Event.key_later (e : Event) : (e.later k n).key = e.key.later n := rfl

/-- A shifted event is inserted in the same place of the shifted queue. -/
theorem Event.insertSorted_later (e : Event) (events : List Event) :
    (e.later k n).insertSorted (events.map (later k n)) = (e.insertSorted events).map (later k n) := by
  induction events with
  | nil => rfl
  | cons first rest ih =>
    rw [List.map_cons, insertSorted, insertSorted, key_later, key_later, EventKey.before_later, ih]
    split <;> rfl

end Numbers

/-! ## Later schedulers -/

namespace Scheduler

variable {k n : Nat} {s s' : Scheduler}

/-- The scheduler with all its numbers counted on. -/
def later (k n : Nat) (s : Scheduler) : Scheduler :=
  { s with
    handles := s.handles + k
    sequences := s.sequences + n
    queue := s.queue.map (Event.later k n)
    index := s.index.map fun entry => (entry.1.later k, entry.2.later n) }

/-- The second scheduler is the first with its numbers counted on, and handle zero is not in use. -/
structure Renumbered (k n : Nat) (s s' : Scheduler) : Prop where
  later : s' = s.later k n
  positive : ∀ entry ∈ s.index, 0 < entry.1.id

/-- The operation under the sooner handle. -/
def Operation.sooner (k : Nat) : Operation → Operation
  | .cancel handle => .cancel (handle.sooner k)
  | op => op

/-- The answer with the later handle. -/
def Answer.later (k : Nat) : Answer → Answer
  | .scheduled handle => .scheduled (handle.later k)
  | answer => answer

/-! ## Looking up -/

/-- A shifted handle finds the shifted key. No handle has number 0, so that a number too small for the
shift is found on neither side. -/
theorem lookup_later {index : List (EventHandle × EventKey)} (h : ∀ entry ∈ index, 0 < entry.1.id)
    (handle : EventHandle) :
    (index.map fun entry => (entry.1.later k, entry.2.later n)).lookup handle =
      (index.lookup (handle.sooner k)).map (EventKey.later n) := by
  induction index with
  | nil => rfl
  | cons entry rest ih =>
    have hentry := h entry List.mem_cons_self
    have hsame : (handle == entry.1.later k) = (handle.sooner k == entry.1) := by
      rw [Bool.eq_iff_iff, beq_iff_eq, beq_iff_eq, eq_comm, EventHandle.later_eq_iff hentry, eq_comm]
    rw [List.map_cons, List.lookup_cons, List.lookup_cons, hsame,
      ih fun entry hmem => h entry (List.mem_cons_of_mem _ hmem)]
    cases handle.sooner k == entry.1 <;> rfl

namespace Renumbered

/-- The index of the other scheduler, read through the shift. -/
theorem lookup (h : Renumbered k n s s') (handle : EventHandle) :
    s'.index.lookup handle = (s.index.lookup (handle.sooner k)).map (EventKey.later n) := by
  rw [h.later]
  exact lookup_later h.positive handle

theorem isPending (h : Renumbered k n s s') (handle : EventHandle) :
    s'.isPending handle = s.isPending (handle.sooner k) := by
  unfold Scheduler.isPending
  rw [h.lookup, Option.isSome_map]

theorem now (h : Renumbered k n s s') : s'.now = s.now := by
  rw [h.later]
  rfl

/-- Both schedulers have handed out as many events. -/
theorem dispatched (h : Renumbered k n s s') : s'.dispatched = s.dispatched := by
  rw [h.later]
  rfl

theorem pending (h : Renumbered k n s s') : s'.pending = s.pending := by
  rw [h.later]
  exact List.length_map _

theorem nextDue? (h : Renumbered k n s s') : s'.nextDue? = s.nextDue? := by
  rw [h.later]
  unfold Scheduler.nextDue? Scheduler.later
  cases s.queue <;> rfl

/-- Both clocks may be set to the same cycle. -/
theorem atCycle (h : Renumbered k n s s') (now : UInt64) :
    Renumbered k n { s with now := now } { s' with now := now } where
  later := by
    rw [h.later]
    rfl
  positive := h.positive

/-! ## Operations -/

/-- Taking a handle out of both indices. -/
theorem forget (h : Renumbered k n s s') (handle : EventHandle) :
    Renumbered k n (s.forget (handle.sooner k)) (s'.forget handle) where
  later := by
    rw [h.later]
    unfold Scheduler.forget Scheduler.later
    dsimp only
    congr 1
    rw [List.filter_map]
    congr 1
    apply List.filter_congr
    -- an entry goes from both indices or stays in both, because its handle is not zero
    intro entry hentry
    have hsame : entry.1.later k = handle ↔ entry.1 = handle.sooner k :=
      EventHandle.later_eq_iff (h.positive entry hentry)
    rw [Function.comp_apply, Bool.eq_iff_iff, bne_iff_ne, bne_iff_ne]
    exact not_congr hsame
  positive := fun entry hentry => h.positive entry (List.mem_of_mem_filter hentry)

/-- Scheduling takes the next number on each side, and the two are as far apart as before. -/
theorem scheduleAt (h : Renumbered k n s s') (due : UInt64) (spec : EventSpec) :
    (s'.scheduleAt due spec).1 = (s.scheduleAt due spec).1.later k ∧
      Renumbered k n (s.scheduleAt due spec).2 (s'.scheduleAt due spec).2 := by
  -- the event that is made carries the next number of either count
  have hhandles : s'.handles + 1 = s.handles + 1 + k := by
    rw [h.later]
    exact Nat.add_right_comm _ _ _
  have hevent : s'.eventFor due spec = (s.eventFor due spec).later k n := by
    unfold eventFor Event.later EventHandle.later
    rw [hhandles, h.later]
    rfl
  constructor
  · exact congrArg EventHandle.mk hhandles
  · constructor
    · rw [scheduleAt_snd, scheduleAt_snd, hevent, hhandles, h.later]
      unfold Scheduler.later
      dsimp only
      rw [Event.insertSorted_later, Nat.add_right_comm s.sequences n 1]
      rfl
    · intro entry hentry
      rw [scheduleAt_snd, List.mem_cons] at hentry
      rcases hentry with rfl | hentry
      · exact Nat.succ_pos _
      · exact h.positive entry hentry

/-- Cancelling a handle on one side is cancelling its shifted handle on the other. -/
theorem cancel (h : Renumbered k n s s') (handle : EventHandle) :
    (s'.cancel handle).1 = (s.cancel (handle.sooner k)).1 ∧
      Renumbered k n (s.cancel (handle.sooner k)).2 (s'.cancel handle).2 := by
  unfold Scheduler.cancel
  rw [h.lookup]
  cases s.index.lookup (handle.sooner k) with
  | none => exact ⟨rfl, h⟩
  | some key =>
    dsimp only [Option.map_some]
    have hforget := h.forget handle
    -- the queue is searched by key, and keys are later all alike
    have hkeys : ∀ e : Event, ((e.later k n).key == key.later n) = (e.key == key) := by
      intro e
      rw [Event.key_later, Bool.eq_iff_iff, beq_iff_eq, beq_iff_eq]
      exact EventKey.later_eq_iff
    constructor
    · rw [h.later]
      unfold Scheduler.later
      dsimp only
      rw [List.any_map]
      exact congrArg (s.queue.any ·) (funext hkeys)
    · constructor
      · rw [hforget.later, h.later]
        unfold Scheduler.later
        dsimp only
        congr 1
        rw [List.filter_map]
        congr 1
        apply List.filter_congr
        intro e _
        exact congrArg not (hkeys e)
      · exact hforget.positive

/-- A reset keeps the distance of the numbers, for it does not start them again. -/
theorem reset (h : Renumbered k n s s') : Renumbered k n s.reset s'.reset where
  later := by
    rw [h.later]
    rfl
  positive := by
    intro entry hentry
    cases hentry

/-- Each operation does what it would have done under the sooner handle. -/
theorem perform (h : Renumbered k n s s') (op : Operation) :
    (op.perform s').1 = ((op.sooner k).perform s).1.later k ∧
      Renumbered k n ((op.sooner k).perform s).2 (op.perform s').2 := by
  cases op with
  | scheduleAt due spec =>
    obtain ⟨hhandle, hafter⟩ := h.scheduleAt due spec
    exact ⟨congrArg Answer.scheduled hhandle, hafter⟩
  -- the due cycle is counted from the clock, which is the same
  | scheduleAfter delta spec =>
    obtain ⟨hhandle, hafter⟩ := h.scheduleAt (addCycles s.now delta) spec
    dsimp only [Operation.perform, Operation.sooner, scheduleAfter]
    rw [h.now]
    exact ⟨congrArg Answer.scheduled hhandle, hafter⟩
  | cancel handle =>
    obtain ⟨hfound, hafter⟩ := h.cancel handle
    exact ⟨congrArg Answer.cancelled hfound, hafter⟩
  | reset => exact ⟨rfl, h.reset⟩

/-! ## Passes -/

/-- Both schedulers pop the same event, or neither does. -/
theorem popDue? (h : Renumbered k n s s') (limit : UInt64) :
    Option.Rel (fun x x' => x'.1 = x.1.later k n ∧ Renumbered k n x.2 x'.2)
      (s.popDue? limit) (s'.popDue? limit) := by
  have hqueue : s'.queue = s.queue.map (Event.later k n) := by
    rw [h.later]
    rfl
  unfold Scheduler.popDue?
  rw [hqueue]
  cases s.queue with
  | nil => exact .none
  | cons first tail =>
    rw [List.map_cons]
    dsimp only
    -- whether the first event is due does not depend on its number
    have hdue : (first.later k n).due = first.due := rfl
    rw [hdue]
    split_ifs
    · exact .none
    · have hrest : Renumbered k n { s with queue := tail }
          { s' with queue := tail.map (Event.later k n) } := by
        constructor
        · rw [h.later]
          rfl
        · exact h.positive
      have hforget := hrest.forget (first.handle.later k)
      rw [EventHandle.sooner_later] at hforget
      exact .some ⟨rfl, hforget⟩

/-- An event that is handed out sets both clocks and counts on both sides. -/
theorem arrive (h : Renumbered k n s s') (event : Event) :
    Renumbered k n (s.arrive event) (s'.arrive (event.later k n)) where
  later := by
    rw [h.later]
    rfl
  positive := h.positive

section Reactions

variable {ψ : Type} {R : ψ → ψ → Prop} {react react' : Reaction ψ} {world world' : ψ}

/-- The reactions do not tell the numbers apart. -/
def Blind (k n : Nat) (R : ψ → ψ → Prop) (react react' : Reaction ψ) : Prop :=
  ∀ event s s' world world', Renumbered k n s s' → R world world' →
    Renumbered k n (react event s world).1 (react' (event.later k n) s' world').1 ∧
      R (react event s world).2 (react' (event.later k n) s' world').2

/-- Two ends of passes that are alike but for the numbers. -/
def SameEnd {α : Type} (k n : Nat) (R : ψ → ψ → Prop) (x x' : α × Scheduler × ψ) : Prop :=
  x'.1 = x.1 ∧ Renumbered k n x.2.1 x'.2.1 ∧ R x.2.2 x'.2.2

/-- A pass hands out the same events on both sides, if handlers do not look at numbers. -/
theorem pass (hreact : Blind k n R react react') (h : Renumbered k n s s') (hworld : R world world')
    (limit : UInt64) (bound count : Nat) :
    Option.Rel (SameEnd k n R) (pass react limit bound count s world)
      (pass react' limit bound count s' world') := by
  have hpop := h.popDue? limit
  induction bound generalizing count s s' world world' with
  | zero =>
    unfold Scheduler.pass
    generalize s.popDue? limit = taken at hpop
    generalize s'.popDue? limit = taken' at hpop
    cases hpop with
    | none => exact .some ⟨rfl, h, hworld⟩
    | some _ => exact .none
  | succ bound ih =>
    unfold Scheduler.pass
    generalize s.popDue? limit = taken at hpop
    generalize s'.popDue? limit = taken' at hpop
    cases hpop with
    | none => exact .some ⟨rfl, h, hworld⟩
    | @some taken taken' hrest =>
      obtain ⟨event, rest⟩ := taken
      obtain ⟨event', rest'⟩ := taken'
      obtain ⟨rfl, hrest⟩ := hrest
      -- both reactions see the same event under its two numbers
      obtain ⟨hafter, hworld'⟩ := hreact event _ _ _ _ (hrest.arrive event) hworld
      exact ih hafter hworld' (count + 1) (hafter.popDue? limit)

theorem dispatchDue (hreact : Blind k n R react react') (h : Renumbered k n s s')
    (hworld : R world world') (bound : Nat) :
    Option.Rel (SameEnd k n R) (s.dispatchDue react bound world)
      (s'.dispatchDue react' bound world') := by
  unfold Scheduler.dispatchDue
  rw [h.now]
  exact h.pass hreact hworld _ _ _

/-- Advancing the clock. -/
theorem advance (hreact : Blind k n R react react') (h : Renumbered k n s s')
    (hworld : R world world') (bound : Nat) (delta : UInt64) :
    Option.Rel (SameEnd k n R) (s.advance react bound delta world)
      (s'.advance react' bound delta world') := by
  unfold Scheduler.advance
  rw [h.now]
  dsimp only
  have hpass := h.pass hreact hworld (addCycles s.now delta) bound 0
  -- what the two passes return is all that matters from here on
  generalize Scheduler.pass react (addCycles s.now delta) bound 0 s world = ended at hpass
  generalize Scheduler.pass react' (addCycles s.now delta) bound 0 s' world' = ended' at hpass
  cases hpass with
  | none => exact .none
  | some hend =>
    obtain ⟨hcount, hlast, hlater⟩ := hend
    exact .some ⟨hcount, hlast.atCycle _, hlater⟩

/-- Skipping to the next event. -/
theorem jump (hreact : Blind k n R react react') (h : Renumbered k n s s')
    (hworld : R world world') (bound : Nat) :
    Option.Rel (SameEnd k n R) (s.jump react bound world) (s'.jump react' bound world') := by
  unfold Scheduler.jump
  rw [h.nextDue?, h.now]
  cases s.nextDue? with
  | none => exact .some ⟨rfl, h, hworld⟩
  | some due =>
    have hdue := (h.atCycle (laterCycle s.now due)).dispatchDue hreact hworld bound
    dsimp only
    -- the dispatch at the end of the jump is the same relation again, whatever clock it starts at
    generalize Scheduler.dispatchDue react bound { s with now := laterCycle s.now due } world = ended
      at hdue
    generalize Scheduler.dispatchDue react' bound { s' with now := laterCycle s.now due } world' =
      ended' at hdue
    cases hdue with
    | none => exact .none
    | some hend => exact .some ⟨rfl, hend.2⟩

end Reactions

end Renumbered

end Scheduler

end Motherboard
