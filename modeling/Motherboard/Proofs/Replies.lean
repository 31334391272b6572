import Motherboard.Machine
import Motherboard.Proofs.Observer
import Motherboard.Proofs.Renumbering
import Motherboard.Proofs.WiredOr

/-!
# Machines that answer alike

Whoever runs a machine asks it for accesses, moves its clock, schedules and cancels events, and pulls
and reads its lines. `Input` is what can be asked, `Machine.respond` gives the answer and the machine
afterwards, and `Machine.replies` the answers to a row of inputs.

Two machines are `Renumbered` when they differ in the observer and in where the scheduler began to
count, and in nothing else. Neither can be told from the answers: each input is answered alike, up to
the handles named in it, and leaves the machines `Renumbered` (`Renumbered.respond`); so every row of
inputs is answered alike (`Renumbered.answersLater`). Traps and handlers are part of the machine, so
they must not look at either of the two themselves (`Trap.IsBlind`, `EventHandler.IsBlind`).
-/

namespace Motherboard

/-! ## Operations that do not see a part of their state -/

/-- The operation answers alike, and has the same effect on the rest, when a part of its state that `g`
takes away is missing. -/
def Hides {σ α : Type} (g : σ → σ) (f : σ → α × σ) : Prop :=
  ∀ s, (f (g s)).1 = (f s).1 ∧ g (f (g s)).2 = g (f s).2

/-- States that look alike with a part hidden answer alike, and stay alike. -/
theorem Hides.congr {σ α : Type} {g : σ → σ} {f : σ → α × σ} (h : Hides g f) {s s' : σ}
    (hs : g s' = g s) : (f s').1 = (f s).1 ∧ g (f s').2 = g (f s).2 := by
  obtain ⟨hanswer, hafter⟩ := h s
  obtain ⟨hanswer', hafter'⟩ := h s'
  rw [hs] at hanswer' hafter'
  exact ⟨hanswer'.symm.trans hanswer, hafter'.symm.trans hafter⟩

/-! ## The bus without its observer -/

namespace Bus

variable {ω γ δ : Type} {bus bus' : Bus ω δ γ}

/-- The bus without its observer. Its counters stay. -/
def detached (bus : Bus ω δ γ) : Bus ω δ γ := { bus with backplane := bus.backplane.detached }

theorem observe_detached (bus : Bus ω δ γ) (a : Access) (result : Except Fault Completed) :
    bus.detached.observe a result = (bus.observe a result).detached := by
  cases result <;> rfl

theorem recordTrapped_detached (bus : Bus ω δ γ) (a : Access) (o : Outcome) :
    bus.detached.recordTrapped a o = (bus.recordTrapped a o).detached := rfl

/-- A target that does not look at the observer answers the same without one. -/
theorem onTarget_detached {α : Type} (bus : Bus ω δ γ) (id : TargetId) (missing : α)
    {f : Target δ → Backplane ω γ → α × Target δ × Backplane ω γ} (hf : Target.HidesObserver f) :
    bus.detached.onTarget id missing f =
      ((bus.onTarget id missing f).1, (bus.onTarget id missing f).2.detached) := by
  have htarget : bus.detached.target? id = bus.target? id := rfl
  have hplane : bus.detached.backplane = bus.backplane.detached := rfl
  unfold onTarget onTarget?
  rw [htarget]
  cases bus.target? id with
  | none => rfl
  | some t =>
    simp only [Option.map_some, Option.getD_some]
    -- the target sees the same backplane but for the observer, which it does not look at
    rw [hplane, hf]
    rfl

variable [Device δ ω] [Card γ δ ω]

/-- No request is answered differently because somebody listens. -/
theorem answer_detached (request : Request) (bus : Bus ω δ γ) :
    answer request bus.detached = ((answer request bus).1, (answer request bus).2.detached) := by
  cases request with
  | read id width offset access =>
    exact bus.onTarget_detached id _ (Target.hidesObserver_read width offset access)
  | write id width offset value access =>
    exact bus.onTarget_detached id _ (Target.hidesObserver_write width offset value access)
  | peek id offset => exact bus.onTarget_detached id _ (Target.hidesObserver_peek offset)
  | poke id offset value => exact bus.onTarget_detached id _ (Target.hidesObserver_poke offset value)
  | floating address => rfl

theorem run_detached {α : Type} (r : Requests α) (bus : Bus ω δ γ) :
    r.run answer bus.detached = ((r.run answer bus).1, (r.run answer bus).2.detached) := by
  induction r generalizing bus with
  | done a => rfl
  | ask request next ih =>
    rw [Requests.run_ask, Requests.run_ask, answer_detached]
    exact ih _ _

/-- No access either: its result is the same, and the bus it leaves behind differs in the observer only.
-/
theorem access_detached (bus : Bus ω δ γ) (a : Access) :
    bus.detached.access a = ((bus.access a).1, (bus.access a).2.detached) := by
  have hrouting : bus.detached.routing = bus.routing := rfl
  unfold access
  dsimp only
  rw [hrouting, run_detached, observe_detached]

/-- Accesses hide the observer. -/
theorem hides_access (a : Access) : Hides detached fun bus : Bus ω δ γ => bus.access a := by
  intro bus
  dsimp only
  rw [access_detached]
  exact ⟨rfl, rfl⟩

end Bus

/-! ## Lines -/

namespace Signals

/-- Pulling a line answers and changes the lines the same way, whatever the trace. -/
theorem pull_congr {s s' : Signals} (h : s' = s) (line : Line) (device : DeviceId) (t t' : Trace) :
    (s'.pull line device t').1 = (s.pull line device t).1 ∧
      (s'.pull line device t').2.1 = (s.pull line device t).2.1 := by
  subst h
  unfold pull
  dsimp only
  split_ifs <;> exact ⟨rfl, rfl⟩

theorem release_congr {s s' : Signals} (h : s' = s) (line : Line) (device : DeviceId) (t t' : Trace) :
    (s'.release line device t').1 = (s.release line device t).1 ∧
      (s'.release line device t').2.1 = (s.release line device t).2.1 := by
  subst h
  unfold release
  dsimp only
  split_ifs <;> exact ⟨rfl, rfl⟩

end Signals

/-! ## Traps and handlers -/

section Blind

variable {ω γ δ : Type}

/-- What a trap may touch, without the observer. -/
def TrapContext.detached (c : TrapContext ω δ γ) : TrapContext ω δ γ := { c with bus := c.bus.detached }

/-- The trap does not see the observer. -/
def Trap.IsBlind (trap : Trap ω δ γ) : Prop :=
  ∀ a, Hides TrapContext.detached (trap a)

/-- What a handler may touch: the same but for the observer and the numbers of the scheduler. -/
structure EventContext.Renumbered (k n : Nat) (c c' : EventContext ω δ γ) : Prop where
  scheduler : c.scheduler.Renumbered k n c'.scheduler
  signals : c'.signals = c.signals
  bus : c'.bus.detached = c.bus.detached

/-- The handler sees neither the observer nor the numbers of events: it makes the same of an event
whatever the number of the event is. What it keeps with the host, it keeps without them. -/
def EventHandler.IsBlind (handler : EventHandler ω δ γ) : Prop :=
  ∀ k n event c c', c.Renumbered k n c' → (handler event c).Renumbered k n (handler (event.later k n) c')

namespace TrapTable

variable [Card γ δ ω]

/-- A trap that replays the selection of its address hides the observer. -/
theorem hides_touch (address : UInt32) :
    Hides TrapContext.detached fun c : TrapContext ω δ γ => c.touch address := by
  intro c
  have hwindow : c.detached.window = c.window := rfl
  have hrack : (c.detached.knowsRack && c.detached.bus.backplane.hold == .free) =
      (c.knowsRack && c.bus.backplane.hold == .free) := rfl
  dsimp only
  unfold TrapContext.touch
  rw [hwindow, hrack]
  cases c.window with
  | none => exact ⟨rfl, rfl⟩
  | some w =>
    dsimp only
    split_ifs
    · -- the window rule reads the switches and the rack
      have htouch : w.touch address c.bus.backplane.detached =
          ((w.touch address c.bus.backplane).1, (w.touch address c.bus.backplane).2.detached) := by
        unfold IoWindow.touch
        cases w.offset? address with
        | none => rfl
        | some offset =>
          dsimp only
          rw [Backplane.overridesOf_detached, Backplane.touch_detached]
      have hplane : c.detached.bus.withBackplane (w.touch address) =
          ((c.bus.withBackplane (w.touch address)).1,
            (c.bus.withBackplane (w.touch address)).2.detached) := by
        unfold Bus.withBackplane
        have hbefore : c.detached.bus.backplane = c.bus.backplane.detached := rfl
        rw [hbefore, htouch]
        rfl
      rw [hplane]
      exact ⟨rfl, rfl⟩
    · exact ⟨rfl, rfl⟩

/-- If no trap looks at the observer, then the dispatch of traps does not. -/
theorem hides_dispatch {t : TrapTable ω δ γ} (h : ∀ entry ∈ t.traps, Trap.IsBlind entry.2) (a : Access) :
    Hides TrapContext.detached (t.dispatch a) := by
  intro c
  unfold dispatch
  split_ifs
  · cases hfound : t.find? a with
    | none => exact ⟨rfl, rfl⟩
    | some entry =>
      obtain ⟨address, trap⟩ := entry
      dsimp only
      have hblind : Trap.IsBlind trap := h (address, trap) (List.mem_of_find?_eq_some hfound)
      -- the trap answers the same with and without observer, so that one case distinction serves both
      -- sides
      obtain ⟨houtcome, hcontext⟩ := hblind a c
      rcases htrap : trap a c with ⟨outcome, after⟩
      rcases htrap' : trap a c.detached with ⟨outcome', after'⟩
      rw [htrap, htrap'] at houtcome hcontext
      dsimp only at houtcome hcontext
      subst houtcome
      cases outcome' with
      | passThrough => exact ⟨rfl, hcontext⟩
      | handled value cycles =>
        refine ⟨rfl, ?_⟩
        cases t.policy with
        | manual => exact hcontext
        | replaySelection => exact ((hides_touch a.address).congr hcontext).2
  · exact ⟨rfl, rfl⟩

end TrapTable

end Blind

namespace Machine

/-! ## Inputs and answers -/

/-- What whoever runs a machine asks of it. -/
inductive Input where
  /-- An access of the processor. -/
  | access (a : Access)
  /-- The processor has spent cycles; at most `bound` events are handed out. -/
  | endStep (bound : Nat) (cycles : UInt64)
  /-- Hand out what is due, at most `bound` events. -/
  | dispatchDue (bound : Nat)
  /-- Sleep until the first event. -/
  | idleUntilNextEvent (bound : Nat)
  /-- An operation on the scheduler. -/
  | schedule (op : Scheduler.Operation)
  /-- Does the event still wait? -/
  | isPending (handle : EventHandle)
  /-- What do the clock and the queue show? -/
  | clock
  /-- A device pulls a line. -/
  | pull (line : Line) (device : DeviceId)
  /-- A device lets go of a line. -/
  | release (line : Line) (device : DeviceId)
  /-- Every device lets go of every line. -/
  | resetSignals
  /-- Take the NMI edge. -/
  | consumeNmiEdge
  /-- Who pulls the lines? -/
  | lines

/-- What a machine answers. -/
inductive Answer where
  /-- How an access ended. -/
  | access (result : Except Fault Outcome)
  /-- The number of events handed out. -/
  | handedOut (count : Nat)
  /-- The cycles slept; nothing when no event waited. -/
  | slept (cycles : Option UInt64)
  /-- The answer of the scheduler. -/
  | scheduled (answer : Scheduler.Answer)
  /-- Yes or no. -/
  | flag (answer : Bool)
  /-- The present cycle, how many events wait and have been handed out, and when the first is due. -/
  | clock (now : UInt64) (pending dispatched : Nat) (next : Option UInt64)
  /-- Who pulls the lines, and whether an NMI edge waits. -/
  | lines (signals : Signals)
  /-- It is done. -/
  | done
  deriving DecidableEq

/-- The input with the handle that it names given out sooner. -/
def Input.sooner (k : Nat) : Input → Input
  | .schedule op => .schedule (op.sooner k)
  | .isPending handle => .isPending (handle.sooner k)
  | input => input

/-- The answer with the handle that it names given out later. -/
def Answer.later (k : Nat) : Answer → Answer
  | .scheduled answer => .scheduled (answer.later k)
  | answer => answer

variable {ω γ δ : Type}

section Responses

variable [Device δ ω] [Card γ δ ω]

/-- The answer to an input and the machine afterwards; none when a pass does not end within its
bound. -/
def respond (m : Machine ω δ γ) : Input → Option (Answer × Machine ω δ γ)
  | .access a => some (.access (m.cpuAccess a).1, (m.cpuAccess a).2)
  | .endStep bound cycles => (m.endStep bound cycles).map fun (n, after) => (.handedOut n, after)
  | .dispatchDue bound => (m.dispatchDue bound).map fun (n, after) => (.handedOut n, after)
  | .idleUntilNextEvent bound =>
    (m.idleUntilNextEvent bound).map fun (cycles, after) => (.slept cycles, after)
  | .schedule op =>
    some (.scheduled (op.perform m.scheduler).1, { m with scheduler := (op.perform m.scheduler).2 })
  | .isPending handle => some (.flag (m.scheduler.isPending handle), m)
  | .clock =>
    some (.clock m.scheduler.now m.scheduler.pending m.scheduler.dispatched m.scheduler.nextDue?, m)
  | .pull line device => some (.flag (m.pull line device).1, (m.pull line device).2)
  | .release line device => some (.flag (m.release line device).1, (m.release line device).2)
  | .resetSignals => some (.done, m.resetSignals)
  | .consumeNmiEdge => some (.flag m.consumeNmiEdge.1, m.consumeNmiEdge.2)
  | .lines => some (.lines m.signals, m)

/-- The answers to a row of inputs. -/
def replies (m : Machine ω δ γ) : List Input → Option (List Answer)
  | [] => some []
  | input :: inputs =>
    (m.respond input).bind fun (answer, after) => (after.replies inputs).map (answer :: ·)

end Responses

/-- The second machine answers every row of inputs as the first does, with the handles given out `k`
numbers later. -/
def AnswersLater [Device δ ω] [Card γ δ ω] (k : Nat) (m m' : Machine ω δ γ) : Prop :=
  ∀ inputs, m'.replies inputs = (m.replies (inputs.map (Input.sooner k))).map (List.map (Answer.later k))

/-! ## Alike but for numbers and observer -/

/-- The second machine is the first but for the observer and the numbers of its scheduler, which are
`k` handles and `n` places in the order of scheduling later. Traps and handlers do not see either. -/
structure Renumbered (k n : Nat) (m m' : Machine ω δ γ) : Prop where
  bus : m'.bus.detached = m.bus.detached
  scheduler : m.scheduler.Renumbered k n m'.scheduler
  signals : m'.signals = m.signals
  window : m'.window = m.window
  traps : m'.traps = m.traps
  handlers : m'.handlers = m.handlers
  trapsBlind : ∀ entry ∈ m.traps.traps, Trap.IsBlind entry.2
  handlersBlind : ∀ handler ∈ m.handlers.handlers, EventHandler.IsBlind handler

namespace Renumbered

variable {k n : Nat} {m m' : Machine ω δ γ}

/-- What handlers see beside the scheduler, but for the observer. -/
def SameWorld (world world' : Surroundings ω δ γ) : Prop :=
  world'.1 = world.1 ∧ world'.2.detached = world.2.detached

/-- Handlers that do not look at the observer or at numbers make the machine's reaction blind to both. -/
theorem blind_react {handlers : HandlerTable ω δ γ}
    (h : ∀ handler ∈ handlers.handlers, EventHandler.IsBlind handler) :
    Scheduler.Renumbered.Blind k n SameWorld (react handlers) (react handlers) := by
  rintro event s s' ⟨signals, bus⟩ ⟨signals', bus'⟩ hscheduler ⟨hsignals, hbus⟩
  have hhandler : handlers.get? (event.later k n).handler = handlers.get? event.handler := rfl
  unfold react
  dsimp only
  rw [hhandler]
  cases hfound : handlers.get? event.handler with
  | none => exact ⟨hscheduler, hsignals, hbus⟩
  | some handler =>
    -- the dispatch is reported first; reports are the observer's
    obtain ⟨hscheduler', hsignals', hbus'⟩ := h handler (Array.mem_of_getElem? hfound) k n event
      ⟨s, signals, bus.emit (.dispatched event.handle event.due event.kind event.tag)⟩
      ⟨s', signals', bus'.emit (.dispatched (event.later k n).handle event.due event.kind event.tag)⟩
      ⟨hscheduler, hsignals, hbus⟩
    exact ⟨hscheduler', hsignals', hbus'⟩

/-- Answers alike, and machines that are alike afterwards. -/
def SameResponse (k n : Nat) (x x' : Answer × Machine ω δ γ) : Prop :=
  x'.1 = x.1.later k ∧ Renumbered k n x.2 x'.2

/-- The same answer of a pass, and machines that are alike afterwards. -/
def SamePass {α : Type} (k n : Nat) (x x' : α × Machine ω δ γ) : Prop :=
  x'.1 = x.1 ∧ Renumbered k n x.2 x'.2

/-- Passes answer with no handle, so their answers are the same. -/
theorem sameResponse_of_samePass {α : Type} {result result' : Option (α × Machine ω δ γ)}
    (h : Option.Rel (SamePass k n) result result') {f : α → Answer} (hf : ∀ a, (f a).later k = f a) :
    Option.Rel (SameResponse k n) (result.map fun (a, after) => (f a, after))
      (result'.map fun (a, after) => (f a, after)) := by
  cases h with
  | none => exact .none
  | some hend =>
    obtain ⟨hanswer, hafter⟩ := hend
    exact .some ⟨(congrArg f hanswer).trans (hf _).symm, hafter⟩

/-- The lines change alike; the changes may be reported to observers. -/
theorem ofSignals (h : Renumbered k n m m') {signals signals' : Signals} (hsignals : signals' = signals)
    (trace trace' : Trace) :
    Renumbered k n { m with signals := signals, bus.backplane.trace := trace }
      { m' with signals := signals', bus.backplane.trace := trace' } :=
  { h with bus := h.bus, signals := hsignals }

/-- Relating the schedulers again after a call of them. -/
theorem ofScheduler (h : Renumbered k n m m') {s s' : Scheduler} (hs : s.Renumbered k n s') :
    Renumbered k n { m with scheduler := s } { m' with scheduler := s' } :=
  { h with scheduler := hs }

/-- What a handler may reach is alike on both sides. -/
theorem sameWorld (h : Renumbered k n m m') : SameWorld (m.signals, m.bus) (m'.signals, m'.bus) :=
  ⟨h.signals, h.bus⟩

/-- A pass of both schedulers leaves the machines alike. -/
theorem afterPass (h : Renumbered k n m m') {α : Type}
    {result result' : Option (α × Scheduler × Surroundings ω δ γ)}
    (hresult : Option.Rel (Scheduler.Renumbered.SameEnd k n SameWorld) result result') :
    Option.Rel (SamePass k n) (m.afterPass result)
      (m'.afterPass result') := by
  cases hresult with
  | none => exact .none
  | some hend =>
    obtain ⟨hanswer, hscheduler, hsignals, hbus⟩ := hend
    exact .some ⟨hanswer, { h with bus := hbus, scheduler := hscheduler, signals := hsignals }⟩

/-! ## One input -/

section Responses

theorem endStep (h : Renumbered k n m m') (bound : Nat) (cycles : UInt64) :
    Option.Rel (SamePass k n) (m.endStep bound cycles)
      (m'.endStep bound cycles) := by
  unfold Machine.endStep
  rw [h.handlers]
  exact h.afterPass (h.scheduler.advance (blind_react h.handlersBlind) h.sameWorld bound cycles)

theorem dispatchDue (h : Renumbered k n m m') (bound : Nat) :
    Option.Rel (SamePass k n) (m.dispatchDue bound)
      (m'.dispatchDue bound) := by
  unfold Machine.dispatchDue
  rw [h.handlers]
  exact h.afterPass (h.scheduler.dispatchDue (blind_react h.handlersBlind) h.sameWorld bound)

/-- Idling until the next event. -/
theorem idleUntilNextEvent (h : Renumbered k n m m') (bound : Nat) :
    Option.Rel (SamePass k n) (m.idleUntilNextEvent bound)
      (m'.idleUntilNextEvent bound) := by
  unfold Machine.idleUntilNextEvent
  rw [h.handlers, h.scheduler.now]
  have hjump := h.afterPass
    (h.scheduler.jump (blind_react h.handlersBlind) h.sameWorld bound)
  -- the cycles slept are taken from the clock before and after the pass, and the clocks agree
  generalize m.afterPass (m.scheduler.jump (react m.handlers) bound (m.signals, m.bus)) = ended at hjump
  generalize m'.afterPass (m'.scheduler.jump (react m.handlers) bound (m'.signals, m'.bus)) = ended'
    at hjump
  cases hjump with
  | none => exact .none
  | some hend =>
    obtain ⟨hwoken, hafter⟩ := hend
    refine .some ⟨?_, hafter⟩
    dsimp only
    rw [hwoken, hafter.scheduler.now]

variable [Device δ ω] [Card γ δ ω]

/-- An access of the processor, traps included. -/
theorem cpuAccess (h : Renumbered k n m m') (a : Access) :
    (m'.cpuAccess a).1 = (m.cpuAccess a).1 ∧
      Renumbered k n (m.cpuAccess a).2 (m'.cpuAccess a).2 := by
  have hmasked : m'.bus.maskAddress a = m.bus.maskAddress a := by
    show m'.bus.detached.maskAddress a = m.bus.detached.maskAddress a
    rw [h.bus]
  unfold Machine.cpuAccess
  rw [h.traps, hmasked]
  split_ifs
  · obtain ⟨hresult, hbus⟩ := (Bus.hides_access a).congr h.bus
    exact ⟨hresult, { h with bus := hbus, traps := rfl }⟩
  · dsimp only
    have hcontext : m'.trapContext.detached = m.trapContext.detached := by
      unfold TrapContext.detached trapContext
      rw [h.bus, h.signals, h.window]
    obtain ⟨houtcome, hafter⟩ :=
      (TrapTable.hides_dispatch h.trapsBlind (m.bus.maskAddress a)).congr hcontext
    rcases hdispatch : m.traps.dispatch (m.bus.maskAddress a) m.trapContext with ⟨outcome, c⟩
    rcases hdispatch' : m.traps.dispatch (m.bus.maskAddress a) m'.trapContext with ⟨outcome', c'⟩
    rw [hdispatch, hdispatch'] at houtcome hafter
    dsimp only at houtcome hafter ⊢
    subst houtcome
    have hbus : c'.bus.detached = c.bus.detached := by
      show c'.detached.bus = c.detached.bus
      rw [hafter]
    have hsignals : c'.detached.signals = c.detached.signals := by rw [hafter]
    cases outcome' with
    | some outcome =>
      -- the trap has answered, and the access is only counted
      have hrecorded : (c'.bus.recordTrapped (m.bus.maskAddress a) outcome).detached =
          (c.bus.recordTrapped (m.bus.maskAddress a) outcome).detached := by
        rw [← Bus.recordTrapped_detached, ← Bus.recordTrapped_detached, hbus]
      exact ⟨rfl, { h with bus := hrecorded, signals := hsignals, traps := rfl }⟩
    | none =>
      obtain ⟨hresult, haccess⟩ := (Bus.hides_access (m.bus.maskAddress a)).congr hbus
      exact ⟨hresult, { h with bus := haccess, signals := hsignals, traps := rfl }⟩

/-- An input is answered alike and leaves the machines alike. -/
theorem respond (h : Renumbered k n m m') (input : Input) :
    Option.Rel (SameResponse k n) (m.respond (input.sooner k)) (m'.respond input) := by
  cases input with
  | access a =>
    obtain ⟨hresult, hafter⟩ := h.cpuAccess a
    exact .some ⟨congrArg Answer.access hresult, hafter⟩
  | endStep bound cycles => exact sameResponse_of_samePass (h.endStep bound cycles) fun _ => rfl
  | dispatchDue bound => exact sameResponse_of_samePass (h.dispatchDue bound) fun _ => rfl
  | idleUntilNextEvent bound =>
    exact sameResponse_of_samePass (h.idleUntilNextEvent bound) fun _ => rfl
  | schedule op =>
    obtain ⟨hanswer, hafter⟩ := h.scheduler.perform op
    exact .some ⟨congrArg Answer.scheduled hanswer, h.ofScheduler hafter⟩
  | isPending handle => exact .some ⟨congrArg Answer.flag (h.scheduler.isPending handle), h⟩
  | clock =>
    refine .some ⟨?_, h⟩
    dsimp only [Answer.later]
    rw [h.scheduler.now, h.scheduler.pending, h.scheduler.dispatched, h.scheduler.nextDue?]
  | pull line device =>
    obtain ⟨hchanged, hpulled⟩ := Signals.pull_congr h.signals line device m.bus.backplane.trace
      m'.bus.backplane.trace
    exact .some ⟨congrArg Answer.flag hchanged, h.ofSignals hpulled _ _⟩
  | release line device =>
    obtain ⟨hchanged, hreleased⟩ := Signals.release_congr h.signals line device
      m.bus.backplane.trace m'.bus.backplane.trace
    exact .some ⟨congrArg Answer.flag hchanged, h.ofSignals hreleased _ _⟩
  | resetSignals =>
    have hcleared := (m'.signals.fst_reset m'.bus.backplane.trace).trans
      (m.signals.fst_reset m.bus.backplane.trace).symm
    exact .some ⟨rfl, h.ofSignals hcleared _ _⟩
  | consumeNmiEdge =>
    have hedge : m'.signals.consumeNmiEdge = m.signals.consumeNmiEdge := by rw [h.signals]
    exact .some ⟨congrArg (fun edge : Bool × Signals => Answer.flag edge.1) hedge,
      { h with signals := congrArg Prod.snd hedge }⟩
  | lines => exact .some ⟨congrArg Answer.lines h.signals, h⟩

end Responses

/-- Rows of inputs are answered alike. -/
theorem answersLater [Device δ ω] [Card γ δ ω] (h : Renumbered k n m m') : AnswersLater k m m' := by
  intro inputs
  induction inputs generalizing m m' with
  | nil => rfl
  | cons input inputs ih =>
    -- what is left of the row is asked of machines that are still alike
    have hrespond := h.respond input
    rw [List.map_cons, Machine.replies, Machine.replies]
    generalize m.respond (input.sooner k) = responded at hrespond
    generalize m'.respond input = responded' at hrespond
    cases hrespond with
    | none => rfl
    | @some x x' hsame =>
      obtain ⟨answer, after⟩ := x
      obtain ⟨answer', after'⟩ := x'
      obtain ⟨rfl, hafter⟩ := hsame
      dsimp only [Option.bind_some]
      rw [ih hafter, Option.map_map, Option.map_map]
      rfl

end Renumbered

end Machine

end Motherboard
