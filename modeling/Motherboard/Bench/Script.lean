import Motherboard.Bench.Action
import Motherboard.Report

/-!
# Scripts

Event handlers, scheduler rules and traps that carry out lists of actions and write down what came of
each. Handlers and rules stop acting after a number of runs, so that a script which schedules for the
present still ends.
-/

namespace Motherboard.Bench

/-! ## Event handlers -/

/-- An action of an event handler and the events for which it is carried out. The numbers may lie
past the last word: every word is below such a number, and none equals it. -/
structure HandlerAction where
  /-- Only for events with a lower word. -/
  tagBelow : Option Nat
  /-- Only for events with this word. -/
  tagIs : Option Nat
  /-- The action. -/
  action : Timing ⊕ Move

/-- The action is carried out for an event. -/
def HandlerAction.applies (a : HandlerAction) (event : Event) : Bool :=
  (a.tagBelow.all fun limit => event.tag.toNat < limit) &&
    (a.tagIs.all fun tag => event.tag.toNat == tag)

/-- What event handlers of a bench may touch. -/
abbrev TestContext := EventContext Host Instrument TestCard

/-- Carries out an action of an event handler, if it applies, and notes what came of it. -/
def HandlerAction.run (a : HandlerAction) (event : Event) (c : TestContext) : TestContext :=
  if a.applies event then
    match a.action with
    | .inl timing =>
      let (result, scheduler) := timing.run event c.scheduler
      { c with scheduler := scheduler, bus := note c.bus (.did timing.name result) }
    | .inr move =>
      let o : Occasion := ⟨c.scheduler.now, event.tag, true, c.form.text⟩
      let (result, signals, bus) := move.run o c.signals c.bus
      { c with signals := signals, bus := note bus (.did move.name result) }
  else
    c

/-- The event handler that acts on events until it has done so `limit` times; its runs are counted
under a number of its own. -/
def scriptedHandler (number limit : Nat) (actions : List HandlerAction) :
    EventHandler Host Instrument TestCard := fun event c =>
  let bus := note c.bus (.event event c.scheduler.now)
  let host := bus.backplane.host
  let run := host.runs.getD number 0
  if run < limit then
    let host := { host with runs := host.runs.setIfInBounds number (run + 1) }
    let c := { c with bus := { bus with backplane := { bus.backplane with host := host } } }
    actions.foldl (fun c a => a.run event c) c
  else
    { c with bus := bus }

/-! ## Rules of a bare scheduler -/

/-- An action on the scheduler and the events for which it is carried out. -/
structure Rule where
  /-- Only for events with this word; for none if it is past the last word. -/
  tagIs : Option Nat
  /-- The action. -/
  action : Timing

/-- What rules keep: the journal, the observer, and how many runs are left. -/
structure RuleWorld where
  /-- What has happened. -/
  host : Host := {}
  /-- The observer. -/
  trace : Trace := {}
  /-- Runs left. -/
  left : Nat

/-- Carries out a rule, if it applies and runs are left, and notes what came of it. -/
def Rule.run (event : Event) : Scheduler × RuleWorld → Rule → Scheduler × RuleWorld
  | (s, w), rule =>
    if (rule.tagIs.all fun tag => event.tag.toNat == tag) && w.left != 0 then
      let (result, s) := rule.action.run event s
      (s, { w with left := w.left - 1, host := w.host.note (.did rule.action.name result) })
    else
      (s, w)

/-- The reaction of a bare scheduler: the event is reported and noted, and the rules are tried in
order. -/
def obey (rules : List Rule) : Scheduler.Reaction RuleWorld := fun event s w =>
  let w := { w with
    trace := w.trace.emit (.dispatched event.handle event.due event.kind event.tag)
    host := w.host.note (.event event s.now) }
  rules.foldl (Rule.run event) (s, w)

/-! ## Traps -/

/-- An action of a trap. -/
inductive TrapAction where
  /-- An action on the machine. -/
  | move (m : Move)
  /-- Applies the selection rule to an address, or to that of the access. -/
  | touch (address : Option UInt32)

/-- What traps of a bench may touch. -/
abbrev TestTrapContext := TrapContext Host Instrument TestCard

/-- Carries out an action of a trap and notes what came of it. -/
def TrapAction.run (access : Access) (c : TestTrapContext) : TrapAction → TestTrapContext
  | .move m =>
    let o : Occasion := ⟨access.cycle, 0, c.knowsRack, c.form.text⟩
    let (result, signals, bus) := m.run o c.signals c.bus
    { c with signals := signals, bus := note bus (.did m.name result) }
  | .touch address =>
    let (effect, c) := c.touch (address.getD access.address)
    { c with bus := note c.bus (.did "apply" (.touched effect)) }

/-- A trap that acts and then answers or passes. -/
structure TrapScript where
  /-- Name in the journal. -/
  id : String
  /-- The only intent that the trap minds. -/
  only : Option Intent
  /-- What it does. -/
  actions : List TrapAction
  /-- It lets the access pass. -/
  pass : Bool
  /-- Its answer. -/
  value : UInt32
  /-- Cycles charged for its answer. -/
  cycles : UInt32

/-- The trap that follows a script. -/
def TrapScript.trap (t : TrapScript) : Trap Host Instrument TestCard := fun access c =>
  let c := { c with bus := note c.bus (.trap t.id access) }
  if t.only.all fun intent => access.intent == intent then
    let c := t.actions.foldl (fun c a => a.run access c) c
    (if t.pass then .passThrough else .handled t.value t.cycles, c)
  else
    (.passThrough, c)

end Motherboard.Bench
