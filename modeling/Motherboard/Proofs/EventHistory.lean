import Motherboard.Proofs.EventQueue

/-!
# Histories of a scheduler

What happens to a scheduler, from power-on, is a row of moments: operations performed on it and events
handed out by it. `Life rule past s` says that `s` is what a scheduler can be after the moments `past`,
the latest first. It knows no passes: inside of one, hand-outs and the operations of handlers follow
each other, and before and after one the clock is set, as `rule` allows.

A handler is any deterministic program that acts on the scheduler it is given, step by step, and looks
at the scheduler after each step (`Conduct`). `Handler.react` runs it and writes its moments down. With
such handlers every pass, wherever it stops, goes on with the life of its scheduler, and the clock
`Elapses`: it never skips an event. What is proved for every rule holds besides of handlers that run
passes of their own, which set the clock as they like.

## Results

* `Turns`, `exists_pass_iff`   — a pass is a row of turns until nothing is due.
* `Life.wellKept`              — queue and index agree throughout.
* `Life.induction`             — induction by what happens to the waiting events.
* `Life.turns`                 — every stage of a pass, ended or not, is a stage of the life.
* `Life.session`               — so is the end of any row of operations and passes.
-/

namespace Motherboard.Scheduler

/-! ## Operations -/

/-- What can be done to a scheduler, by its owner and by the handlers inside of passes. -/
inductive Operation where
  | scheduleAt (due : UInt64) (spec : EventSpec)
  | scheduleAfter (delta : UInt64) (spec : EventSpec)
  | cancel (handle : EventHandle)
  | reset
  deriving DecidableEq

/-- What an operation answers: the handle of the new event, or whether the event to be cancelled was
found. -/
inductive Answer where
  | scheduled (handle : EventHandle)
  | cancelled (found : Bool)
  | done
  deriving DecidableEq

def Operation.perform : Operation → Scheduler → Answer × Scheduler
  | .scheduleAt due spec, s => ((.scheduled (s.scheduleAt due spec).1), (s.scheduleAt due spec).2)
  | .scheduleAfter delta spec, s =>
    ((.scheduled (s.scheduleAfter delta spec).1), (s.scheduleAfter delta spec).2)
  | .cancel handle, s => (.cancelled (s.cancel handle).1, (s.cancel handle).2)
  | .reset, s => (.done, s.reset)

/-- The due cycle and the specification of the event that an operation orders at a cycle. -/
def Operation.order? (now : UInt64) : Operation → Option (UInt64 × EventSpec)
  | .scheduleAt due spec => some (due, spec)
  | .scheduleAfter delta spec => some (addCycles now delta, spec)
  | .cancel _ | .reset => none

/-! ## Moments -/

/-- What can happen to a scheduler. -/
inductive Happening where
  | performed (op : Operation) (answer : Answer)
  | handedOut (event : Event)
  deriving DecidableEq

/-- One thing that happened, and the scheduler right after it. At a hand-out this is the scheduler that
the handler gets to see. -/
structure Moment where
  what : Happening
  after : Scheduler
  deriving DecidableEq

/-- The handle that was given out at a moment. -/
def Moment.returned? (m : Moment) : Option EventHandle :=
  match m.what with
  | .performed _ (.scheduled handle) => some handle
  | _ => none

def Moment.handedOut? (m : Moment) : Option Event :=
  match m.what with
  | .handedOut event => some event
  | .performed .. => none

/-- The handles that were given out, the latest first. -/
def returned (past : List Moment) : List EventHandle :=
  past.filterMap Moment.returned?

/-- The events that were handed out, the latest first. -/
def handedOut (past : List Moment) : List Event :=
  past.filterMap Moment.handedOut?

/-! ## Handlers -/

variable {ψ : Type}

/-- What a handler does: operations one after another, each chosen in view of the answer to the one
before and of the scheduler after it. In the end it leaves the rest of the world in some state. -/
inductive Conduct (ψ : Type) where
  | done (world : ψ)
  | act (op : Operation) (next : Answer → Scheduler → Conduct ψ)

namespace Conduct

/-- Carries a conduct out on a scheduler, and adds its moments to what was before. -/
def run : Conduct ψ → Scheduler → List Moment → Scheduler × ψ × List Moment
  | .done world, s, past => (s, world, past)
  | .act op next, s, past =>
    let (answer, s) := op.perform s
    (next answer s).run s (⟨.performed op answer, s⟩ :: past)

/-- Whatever the answers are, the conduct has no reset in it. -/
def NeverResets : Conduct ψ → Prop
  | .done _ => True
  | .act op next => op ≠ .reset ∧ ∀ answer s, (next answer s).NeverResets

end Conduct

/-- A handler of events: what it does depends on the event, on the scheduler that it is given, and on
the rest of the world. -/
abbrev Handler (ψ : Type) := Event → Scheduler → ψ → Conduct ψ

namespace Handler

/-- The reaction of a handler, who keeps the moments beside the rest of the world. -/
def react (handler : Handler ψ) : Reaction (ψ × List Moment) := fun event s (world, past) =>
  (handler event s world).run s (⟨.handedOut event, s⟩ :: past)

/-- The handler schedules and cancels only. -/
def NeverResets (handler : Handler ψ) : Prop :=
  ∀ event s world, (handler event s world).NeverResets

end Handler

/-- An event of a device timer, for the first handler. -/
def timer : EventSpec := ⟨⟨0⟩, .deviceTimer, 0, 0⟩

/-- The handler who schedules every event anew, for four cycles later. -/
def ticker : Handler Unit := fun event _ world =>
  .act (.scheduleAfter 4 event.toEventSpec) fun _ _ => .done world

/-! ## Passes as turns -/

/-- A reaction takes `n` turns of a pass: each time the first event is due by `limit` and handed out. -/
inductive Turns (react : Reaction ψ) (limit : UInt64) :
    Nat → Scheduler → ψ → Scheduler → ψ → Prop where
  | refl (s : Scheduler) (world : ψ) : Turns react limit 0 s world s world
  | turn {n : Nat} {s s' rest : Scheduler} {world world' : ψ} {event : Event}
      (pop : s.popDue? limit = some (event, rest))
      (more : Turns react limit n (react event (rest.arrive event) world).1
        (react event (rest.arrive event) world).2 s' world') :
      Turns react limit (n + 1) s world s' world'

section Passes

variable {react : Reaction ψ} {limit : UInt64} {s s' : Scheduler} {world world' : ψ}

/-- A pass ends where nothing is due, whatever its bound. -/
theorem pass_of_popDue?_eq_none (h : s.popDue? limit = none) (bound count : Nat) :
    pass react limit bound count s world = some (count, s, world) := by
  cases bound with
  | zero => rw [pass, h]
  | succ bound => rw [pass, h]

/-- Where an event is due, the pass hands it out and goes on with what the reaction has made of it. -/
theorem pass_succ_of_popDue? {event : Event} {rest : Scheduler}
    (h : s.popDue? limit = some (event, rest)) (bound count : Nat) :
    pass react limit (bound + 1) count s world =
      pass react limit bound (count + 1) (react event (rest.arrive event) world).1
        (react event (rest.arrive event) world).2 := by
  rw [pass, h]

/-- A pass that ends has taken as many turns as it has counted, and nothing is due any more. -/
theorem turns_of_pass {bound count total : Nat}
    (h : pass react limit bound count s world = some (total, s', world')) :
    ∃ n, total = count + n ∧ Turns react limit n s world s' world' ∧ s'.popDue? limit = none := by
  induction bound generalizing count s world with
  | zero =>
    -- with no steps left, a pass ends only where nothing is due
    cases hpop : s.popDue? limit with
    | none =>
      rw [pass_of_popDue?_eq_none hpop] at h
      cases h
      exact ⟨0, rfl, .refl _ _, hpop⟩
    | some _ =>
      rw [pass, hpop] at h
      cases h
  | succ bound ih =>
    cases hpop : s.popDue? limit with
    | none =>
      rw [pass_of_popDue?_eq_none hpop] at h
      cases h
      exact ⟨0, rfl, .refl _ _, hpop⟩
    | some taken =>
      rw [pass_succ_of_popDue? hpop] at h
      obtain ⟨n, htotal, hturns, hend⟩ := ih h
      exact ⟨n + 1, by omega, .turn hpop hturns, hend⟩

/-- Turns that end where nothing is due are a pass with just as large a bound. -/
theorem Turns.pass {n : Nat} (h : Turns react limit n s world s' world')
    (hend : s'.popDue? limit = none) (count : Nat) :
    pass react limit n count s world = some (count + n, s', world') := by
  -- along the turns; the count grows by one at each
  induction h generalizing count with
  | refl s world => exact pass_of_popDue?_eq_none hend 0 count
  | @turn n _ _ _ _ _ _ hpop _ ih =>
    rw [pass_succ_of_popDue? hpop, ih hend (count + 1), Nat.add_right_comm, Nat.add_assoc]

/-- A pass that ends within some bound is a row of turns until nothing is due. -/
theorem exists_pass_iff {count : Nat} :
    (∃ bound, pass react limit bound 0 s world = some (count, s', world')) ↔
      Turns react limit count s world s' world' ∧ s'.popDue? limit = none := by
  constructor
  · rintro ⟨bound, h⟩
    obtain ⟨n, hcount, hturns, hend⟩ := turns_of_pass h
    rw [Nat.zero_add] at hcount
    exact ⟨hcount ▸ hturns, hend⟩
  · -- the number of turns is bound enough
    rintro ⟨hturns, hend⟩
    have hpass := hturns.pass hend 0
    rw [Nat.zero_add] at hpass
    exact ⟨count, hpass⟩

/-- An advance is such a pass up to its target, with the clock set to the target in the end. -/
theorem exists_advance_iff {delta : UInt64} {count : Nat} :
    (∃ bound, advance react bound delta s world = some (count, s', world')) ↔
      ∃ last, Turns react (addCycles s.now delta) count s world last world' ∧
        last.popDue? (addCycles s.now delta) = none ∧
        s' = { last with now := addCycles s.now delta } := by
  unfold advance
  constructor
  · -- a pass that returns has taken its turns
    rintro ⟨bound, h⟩
    obtain ⟨⟨n, last, after⟩, hpass, heq⟩ := Option.map_eq_some_iff.1 h
    cases heq
    obtain ⟨hturns, hend⟩ := exists_pass_iff.1 ⟨bound, hpass⟩
    exact ⟨last, hturns, hend, rfl⟩
  · -- and turns that end are within some bound
    rintro ⟨last, hturns, hend, rfl⟩
    obtain ⟨bound, hpass⟩ := exists_pass_iff.2 ⟨hturns, hend⟩
    exact ⟨bound, Option.map_eq_some_iff.2 ⟨_, hpass, rfl⟩⟩

/-- Handing out keeps the clock within the limit of the pass. -/
theorem now_arrive_le {rest : Scheduler} {event : Event} (hpop : s.popDue? limit = some (event, rest))
    (hnow : s.now ≤ limit) : (rest.arrive event).now ≤ limit := by
  obtain ⟨tail, -, hdue, rfl⟩ := popDue?_eq_some_iff.1 hpop
  exact laterCycle_le hnow hdue

/-- Reactions that do not move the clock forward leave it within the limit of the pass. -/
theorem Turns.now_le {n : Nat} (h : Turns react limit n s world s' world')
    (hclock : ∀ event s world, (react event s world).1.now ≤ s.now) (hnow : s.now ≤ limit) :
    s'.now ≤ limit := by
  -- the clock moves when an event is handed out, and then at most to the limit
  induction h with
  | refl s world => exact hnow
  | turn hpop _ ih => exact ih (UInt64.le_trans (hclock _ _ _) (now_arrive_le hpop hnow))

end Passes

/-! ## Lives -/

/-- Which cycles the clock of a scheduler may be set to between moments. -/
abbrev ClockRule := Scheduler → UInt64 → Prop

/-- The rule of passes that are not nested: the clock moves on, to the first event that waits at most. -/
def Elapses : ClockRule := fun s cycle => s.now ≤ cycle ∧ ∀ e ∈ s.queue, cycle ≤ e.due

/-- The scheduler `s` can be what it is after the moments `past`, the latest first. -/
inductive Life (rule : ClockRule) : List Moment → Scheduler → Prop where
  /-- Power-on. -/
  | start : Life rule [] {}
  /-- An operation, by a handler or outside of passes. -/
  | perform {past : List Moment} {s : Scheduler} (op : Operation) (life : Life rule past s) :
      Life rule (⟨.performed op (op.perform s).1, (op.perform s).2⟩ :: past) (op.perform s).2
  /-- The first event is due by the limit of some pass, and handed out. -/
  | handOut {past : List Moment} {s rest : Scheduler} {limit : UInt64} {event : Event}
      (life : Life rule past s) (pop : s.popDue? limit = some (event, rest)) :
      Life rule (⟨.handedOut event, rest.arrive event⟩ :: past) (rest.arrive event)
  /-- The clock is set, as passes do at their beginning or end. -/
  | setClock {past : List Moment} {s : Scheduler} {cycle : UInt64} (life : Life rule past s)
      (allowed : rule s cycle) : Life rule past { s with now := cycle }

/-- Operations other than a reset leave the clock. -/
theorem now_perform_of_ne_reset {op : Operation} (h : op ≠ .reset) (s : Scheduler) :
    (op.perform s).2.now = s.now := by
  cases op with
  | scheduleAt due spec => rfl
  | scheduleAfter delta spec => rfl
  | cancel handle =>
    -- found or not, what is cancelled has no part in the clock
    show (s.cancel handle).2.now = s.now
    unfold cancel
    cases s.index.lookup handle with
    | none => rfl
    | some key => rfl
  | reset => exact absurd rfl h

/-- No operation moves the clock forward: a reset sets it to zero. -/
theorem now_perform_le (op : Operation) (s : Scheduler) : (op.perform s).2.now ≤ s.now := by
  by_cases h : op = .reset
  · subst h
    exact UInt64.le_iff_toNat_le.2 (Nat.zero_le _)
  · rw [now_perform_of_ne_reset h]
    exact UInt64.le_refl _

/-- What an operation comes to: an event is scheduled, one is taken out, none is found, or all are
dropped. -/
theorem WellKept.perform_cases {s : Scheduler} (h : s.WellKept) (op : Operation) :
    (∃ due spec, op.order? s.now = some (due, spec) ∧
      op.perform s = (.scheduled (s.eventFor due spec).handle, (s.scheduleAt due spec).2)) ∨
    (∃ handle, op = .cancel handle ∧ s.Waits handle ∧
      op.perform s = (.cancelled true, s.without handle)) ∨
    (∃ handle, op = .cancel handle ∧ ¬ s.Waits handle ∧ op.perform s = (.cancelled false, s)) ∨
    (op = .reset ∧ op.perform s = (.done, s.reset)) := by
  cases op with
  | scheduleAt due spec => exact .inl ⟨due, spec, rfl, rfl⟩
  | scheduleAfter delta spec => exact .inl ⟨addCycles s.now delta, spec, rfl, rfl⟩
  | cancel handle =>
    -- cancelling looks the handle up in the index, which is as good as asking whether its event waits
    by_cases hwaits : s.Waits handle
    · refine .inr (.inl ⟨handle, rfl, hwaits, ?_⟩)
      rw [Operation.perform, h.cancel_of_waits hwaits]
    · refine .inr (.inr (.inl ⟨handle, rfl, hwaits, ?_⟩))
      rw [Operation.perform, h.cancel_of_not_waits hwaits]
  | reset => exact .inr (.inr (.inr ⟨rfl, rfl⟩))

/-- Every operation keeps queue and index in agreement. -/
theorem WellKept.perform {s : Scheduler} (h : s.WellKept) (op : Operation) :
    (op.perform s).2.WellKept := by
  rcases h.perform_cases op with ⟨due, spec, -, heq⟩ | ⟨handle, -, -, heq⟩ | ⟨_, -, -, heq⟩ | ⟨-, heq⟩
  · exact heq ▸ h.scheduleAt due spec
  · exact heq ▸ h.without handle
  · exact heq ▸ h
  · exact heq ▸ h.reset

/-- The queue and the index agree as long as the scheduler lives. -/
theorem Life.wellKept {rule : ClockRule} {past : List Moment} {s : Scheduler}
    (life : Life rule past s) : s.WellKept := by
  induction life with
  | start => exact ⟨.nil, .nil, .nil, rfl, (fun _ he => nomatch he), fun _ he => nomatch he⟩
  | perform op _ ih => exact ih.perform op
  | handOut _ hpop ih =>
    -- the event leaves both containers, as if it were cancelled
    obtain ⟨-, rfl, -⟩ := ih.of_popDue?_eq_some hpop
    exact (ih.without _).atCycle _ _
  | setClock _ _ ih => exact ih.atCycle _ _

/-- Induction over a life by what happens to the waiting events, with operations told apart by what
they come to. -/
theorem Life.induction {rule : ClockRule} {motive : ∀ past s, Life rule past s → Prop}
    (start : motive [] {} .start)
    (scheduled : ∀ {past s op due spec} (life : Life rule past s)
      (_ : op.order? s.now = some (due, spec)) (_ : motive past s life)
      (life' : Life rule (⟨.performed op (.scheduled (s.eventFor due spec).handle),
        (s.scheduleAt due spec).2⟩ :: past) (s.scheduleAt due spec).2), motive _ _ life')
    (cancelled : ∀ {past s handle} (life : Life rule past s) (_ : s.Waits handle)
      (_ : motive past s life)
      (life' : Life rule (⟨.performed (.cancel handle) (.cancelled true), s.without handle⟩ :: past)
        (s.without handle)), motive _ _ life')
    (missed : ∀ {past s handle} (life : Life rule past s) (_ : ¬ s.Waits handle)
      (_ : motive past s life)
      (life' : Life rule (⟨.performed (.cancel handle) (.cancelled false), s⟩ :: past) s), motive _ _ life')
    (reset : ∀ {past s} (life : Life rule past s) (_ : motive past s life)
      (life' : Life rule (⟨.performed .reset .done, s.reset⟩ :: past) s.reset), motive _ _ life')
    (handedOut : ∀ {past s event} (life : Life rule past s) (_ : event ∈ s.queue)
      (_ : ∀ e ∈ s.queue, e ≠ event → event.key.before e.key = true) (_ : motive past s life)
      (life' : Life rule (⟨.handedOut event, (s.without event.handle).arrive event⟩ :: past)
        ((s.without event.handle).arrive event)), motive _ _ life')
    (setClock : ∀ {past s cycle} (life : Life rule past s) (_ : rule s cycle)
      (_ : motive past s life) (life' : Life rule past { s with now := cycle }), motive _ _ life')
    {past : List Moment} {s : Scheduler} (life : Life rule past s) : motive past s life := by
  induction life with
  | start => exact start
  | @perform past s op life ih =>
    have life' := life.perform op
    -- the moment and the scheduler are rewritten together, as the motive depends on both
    rcases life.wellKept.perform_cases op with
      ⟨due, spec, horder, heq⟩ | ⟨handle, rfl, hwaits, heq⟩ | ⟨handle, rfl, hnot, heq⟩ | ⟨rfl, heq⟩
    · simp only [heq] at life' ⊢
      exact scheduled life horder ih life'
    · simp only [heq] at life' ⊢
      exact cancelled life hwaits ih life'
    · simp only [heq] at life' ⊢
      exact missed life hnot ih life'
    · exact reset life ih life'
  | handOut life hpop ih =>
    obtain ⟨hmem, rfl, hfirst⟩ := life.wellKept.of_popDue?_eq_some hpop
    exact handedOut life hmem hfirst ih _
  | setClock life hallowed ih => exact setClock life hallowed ih _

/-! ## Passes within a life -/

section Stages

variable {handler : Handler ψ} {limit : UInt64} {n : Nat} {s s' : Scheduler}
  {world world' : ψ × List Moment} {rule : ClockRule}

/-- What a handler does goes on with the life of the scheduler. -/
theorem Life.conduct {past : List Moment} (life : Life rule past s) (conduct : Conduct ψ) :
    Life rule (conduct.run s past).2.2 (conduct.run s past).1 := by
  -- along the operations of the conduct, with the scheduler that each of them leaves
  induction conduct generalizing s past with
  | done world => exact life
  | act op next ih => exact ih _ _ (life.perform op)

theorem Conduct.now_run_le (conduct : Conduct ψ) (s : Scheduler) (past : List Moment) :
    (conduct.run s past).1.now ≤ s.now := by
  induction conduct generalizing s past with
  | done world => exact UInt64.le_refl _
  | act op next ih => exact UInt64.le_trans (ih _ _ _ _) (now_perform_le op s)

theorem Handler.now_react_le (handler : Handler ψ) (event : Event) (s : Scheduler)
    (world : ψ × List Moment) : (handler.react event s world).1.now ≤ s.now :=
  (handler event s world.1).now_run_le s _

/-- However many turns a pass has taken, it has only gone on with the life of the scheduler. -/
theorem Life.turns (life : Life rule world.2 s)
    (h : Turns handler.react limit n s world s' world') : Life rule world'.2 s' := by
  -- a turn is a hand-out followed by what the handler does
  induction h with
  | refl s world => exact life
  | @turn _ s _ rest world _ event hpop _ ih =>
    have handed := life.handOut hpop
    exact ih (handed.conduct (handler event (rest.arrive event) world.1))

/-- At the end of a pass nothing is due, so the clock may move on to the limit. -/
theorem Life.elapse_of_popDue? {past : List Moment} (life : Life Elapses past s)
    (hnow : s.now ≤ limit) (hend : s.popDue? limit = none) :
    Life Elapses past { s with now := limit } :=
  life.setClock ⟨hnow, fun e he =>
    UInt64.le_of_lt (life.wellKept.lt_due_of_popDue?_eq_none hend e he)⟩

/-- An advance that ends has gone on with the life. -/
theorem Life.advance (life : Life Elapses world.2 s) {bound count : Nat} {delta : UInt64}
    (h : s.advance handler.react bound delta world = some (count, s', world')) :
    Life Elapses world'.2 s' := by
  obtain ⟨last, hturns, hend, rfl⟩ := exists_advance_iff.1 ⟨bound, h⟩
  exact (life.turns hturns).elapse_of_popDue?
    (hturns.now_le handler.now_react_le (le_addCycles _ _)) hend

theorem Life.dispatchDue (life : Life Elapses world.2 s) {bound count : Nat}
    (h : s.dispatchDue handler.react bound world = some (count, s', world')) :
    Life Elapses world'.2 s' :=
  life.turns (exists_pass_iff.1 ⟨bound, h⟩).1

/-- The clock may jump to the first event that waits. -/
theorem Life.wake {past : List Moment} (life : Life Elapses past s) {due : UInt64}
    (hdue : s.nextDue? = some due) : Life Elapses past { s with now := laterCycle s.now due } := by
  unfold laterCycle
  split
  next hlater =>
    exact life.setClock ⟨UInt64.le_of_lt hlater, (life.wellKept.of_nextDue?_eq_some hdue).2⟩
  next => exact life

theorem Life.jump (life : Life Elapses world.2 s) {bound : Nat} {woken : Bool}
    (h : s.jump handler.react bound world = some (woken, s', world')) : Life Elapses world'.2 s' := by
  unfold Scheduler.jump at h
  cases hdue : s.nextDue? with
  | none =>
    rw [hdue] at h
    cases h
    exact life
  | some due =>
    rw [hdue] at h
    obtain ⟨⟨n, last, after⟩, hpass, heq⟩ := Option.map_eq_some_iff.1 h
    cases heq
    -- once the clock has jumped, the rest is a pass at the present cycle
    exact (life.wake hdue).dispatchDue hpass

end Stages

/-! ## Sessions -/

/-- What the owner of a scheduler asks of it: an operation, or a pass with its handler and bound. -/
inductive Call (ψ : Type) where
  | perform (op : Operation)
  | advance (handler : Handler ψ) (bound : Nat) (delta : UInt64)
  | dispatchDue (handler : Handler ψ) (bound : Nat)
  | jump (handler : Handler ψ) (bound : Nat)

def Call.run : Call ψ → Scheduler → ψ × List Moment → Option (Scheduler × ψ × List Moment)
  | .perform op, s, (world, past) =>
    some ((op.perform s).2, world, ⟨.performed op (op.perform s).1, (op.perform s).2⟩ :: past)
  | .advance handler bound delta, s, world =>
    (s.advance handler.react bound delta world).map Prod.snd
  | .dispatchDue handler bound, s, world => (s.dispatchDue handler.react bound world).map Prod.snd
  | .jump handler bound, s, world => (s.jump handler.react bound world).map Prod.snd

/-- Calls one after another, with the moments of all of them. Nothing when a pass does not end within
its bound. -/
def session : List (Call ψ) → Scheduler → ψ × List Moment → Option (Scheduler × ψ × List Moment)
  | [], s, world => some (s, world)
  | call :: calls, s, world => (call.run s world).bind fun (s, world) => session calls s world

section Sessions

variable {s s' : Scheduler} {world world' : ψ × List Moment}

/-- Every call of the owner goes on with the life. -/
theorem Life.call (life : Life Elapses world.2 s) {call : Call ψ}
    (h : call.run s world = some (s', world')) : Life Elapses world'.2 s' := by
  -- passes are rows of turns, and the rest is one operation
  cases call with
  | perform op =>
    cases h
    exact life.perform op
  | advance handler bound delta =>
    obtain ⟨⟨count, _, _⟩, hadvance, heq⟩ := Option.map_eq_some_iff.1 h
    cases heq
    exact life.advance hadvance
  | dispatchDue handler bound =>
    obtain ⟨⟨count, _, _⟩, hdispatch, heq⟩ := Option.map_eq_some_iff.1 h
    cases heq
    exact life.dispatchDue hdispatch
  | jump handler bound =>
    obtain ⟨⟨woken, _, _⟩, hjump, heq⟩ := Option.map_eq_some_iff.1 h
    cases heq
    exact life.jump hjump

theorem Life.session (life : Life Elapses world.2 s) {calls : List (Call ψ)}
    (h : session calls s world = some (s', world')) : Life Elapses world'.2 s' := by
  -- call after call, each on the scheduler that the one before has left
  induction calls generalizing s world with
  | nil =>
    cases h
    exact life
  | cons call calls ih =>
    obtain ⟨⟨next, after⟩, hcall, hrest⟩ := Option.bind_eq_some_iff.1 h
    exact ih (life.call hcall) hrest

end Sessions

end Motherboard.Scheduler
