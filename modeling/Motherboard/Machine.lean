import Motherboard.Machine.Handler
import Motherboard.Machine.Trap

/-!
# Machines

A machine is one bus, one scheduler, one set of control lines, one rack of cards, a trap table and a
table of event handlers, on one timeline. The processor's accesses go through the traps to the bus;
the processor's steps move the scheduler's clock, which hands due events to the handlers.
-/

namespace Motherboard

/-- One machine. -/
structure Machine (ω δ γ : Type) where
  /-- What it was built from. -/
  config : MachineConfig
  /-- The bus and what its targets share. -/
  bus : Bus ω δ γ
  /-- The clock and the waiting events. -/
  scheduler : Scheduler := {}
  /-- The control lines. -/
  signals : Signals := {}
  /-- The traps. -/
  traps : TrapTable ω δ γ
  /-- The event handlers. -/
  handlers : HandlerTable ω δ γ := {}
  /-- Place of the I/O page, once it is installed. -/
  window : Option IoWindow := none

namespace Machine

variable {ω δ γ : Type}

/-- Device number of the I/O page in faults. -/
def ioPageDevice : DeviceId := ⟨0xC0⟩

/-- A machine without pages, cards, traps and handlers. -/
def ofConfig? (config : MachineConfig) (host : ω) : Except ConfigError (Machine ω δ γ) :=
  match config.validate with
  | .error e => .error e
  | .ok () =>
    match Bus.ofConfig? config.bus config.slotCount host with
    -- not reached: the configuration has been checked for its geometry too
    | .error e => .error (.geometry e)
    | .ok bus => .ok { config := config, bus := bus, traps := { policy := config.trapPolicy } }

/-- The rack is held by nobody. -/
def rackIsFree (m : Machine ω δ γ) : Bool :=
  m.bus.backplane.hold == .free

/-- Attaches or detaches the observer; it needs the rack. -/
def setTrace (m : Machine ω δ γ) (attached : Bool) :
    Except MachineError Unit × Machine ω δ γ :=
  if m.rackIsFree then
    let b := m.bus.backplane
    (.ok (), { m with bus.backplane := { b with trace := { b.trace with attached := attached } } })
  else
    (.error .slotsBusy, m)

/-- `device` pulls `line`; tells whether the line's level changed. -/
def pull (m : Machine ω δ γ) (line : Line) (device : DeviceId) : Bool × Machine ω δ γ :=
  let (changed, signals, trace) := m.signals.pull line device m.bus.backplane.trace
  (changed, { m with signals := signals, bus.backplane.trace := trace })

/-- `device` lets go of `line`; tells whether the line's level changed. -/
def release (m : Machine ω δ γ) (line : Line) (device : DeviceId) : Bool × Machine ω δ γ :=
  let (changed, signals, trace) := m.signals.release line device m.bus.backplane.trace
  (changed, { m with signals := signals, bus.backplane.trace := trace })

/-- Takes the NMI edge, if one waits. -/
def consumeNmiEdge (m : Machine ω δ γ) : Bool × Machine ω δ γ :=
  let (edge, signals) := m.signals.consumeNmiEdge
  (edge, { m with signals := signals })

/-- Every device lets go of every line. -/
def resetSignals (m : Machine ω δ γ) : Machine ω δ γ :=
  let (signals, trace) := m.signals.reset m.bus.backplane.trace
  { m with signals := signals, bus.backplane.trace := trace }

/-- Adds an event handler. -/
def registerHandler (m : Machine ω δ γ) (handler : EventHandler ω δ γ) :
    Except MachineError HandlerId × Machine ω δ γ :=
  let (result, handlers) := m.handlers.register handler
  (result, { m with handlers := handlers })

/-- The machine as its event handlers see it. -/
def eventContext (m : Machine ω δ γ) : EventContext ω δ γ :=
  ⟨m.scheduler, m.signals, m.bus⟩

/-- What handlers of a machine see and change beside the scheduler. -/
abbrev Surroundings (ω δ γ : Type) := Signals × Bus ω δ γ

/-- Reports an event and hands it to its handler; an event without one is dropped. -/
def react (handlers : HandlerTable ω δ γ) : Scheduler.Reaction (Surroundings ω δ γ) :=
  fun event scheduler (signals, bus) =>
    -- reported before the handler runs, and also if there is none
    let bus := bus.emit (.dispatched event.handle event.due event.kind event.tag)
    match handlers.get? event.handler with
    | none => (scheduler, signals, bus)
    | some handler =>
      let c := handler event ⟨scheduler, signals, bus⟩
      (c.scheduler, c.signals, c.bus)

/-- The machine after a pass of its scheduler. -/
def afterPass {α : Type} (m : Machine ω δ γ)
    (result : Option (α × Scheduler × Surroundings ω δ γ)) : Option (α × Machine ω δ γ) :=
  result.map fun (a, scheduler, signals, bus) =>
    (a, { m with scheduler := scheduler, signals := signals, bus := bus })

/-- The processor has spent some cycles: the clock moves on and due events are handed out, at most
`bound` of them. Answers with their number. -/
def endStep (m : Machine ω δ γ) (bound : Nat) (cycles : UInt64) : Option (Nat × Machine ω δ γ) :=
  m.afterPass (m.scheduler.advance (react m.handlers) bound cycles (m.signals, m.bus))

/-- Hands out the events due by now. -/
def dispatchDue (m : Machine ω δ γ) (bound : Nat) : Option (Nat × Machine ω δ γ) :=
  m.afterPass (m.scheduler.dispatchDue (react m.handlers) bound (m.signals, m.bus))

/-- An idle processor sleeps until the first event. Answers with the cycles slept, or nothing when
no event waits. -/
def idleUntilNextEvent (m : Machine ω δ γ) (bound : Nat) :
    Option (Option UInt64 × Machine ω δ γ) :=
  (m.afterPass (m.scheduler.jump (react m.handlers) bound (m.signals, m.bus))).map
    fun (woken, after) =>
      -- the difference is taken on words, so that it wraps where a handler has set the clock back
      (if woken then some (after.scheduler.now - m.scheduler.now) else none, after)

variable [Device δ ω] [Card γ δ ω]

/-- Puts a card into a slot; it needs the rack. -/
def installCard (m : Machine ω δ γ) (slot : UInt8) (card : γ) :
    Except MachineError Unit × Machine ω δ γ :=
  if m.rackIsFree then
    let (result, bus) := m.bus.withBackplane fun b => b.installCard slot card
    (result.mapError .slot, { m with bus := bus })
  else
    (.error .slotsBusy, m)

/-- Number of bus pages that an I/O page takes. -/
def ioPageCount (layout : IoPageLayout) (g : Geometry) : Nat :=
  max 1 ((layout.span.toNat + g.pageSize.toNat - 1) / g.pageSize.toNat)

/-- Builds the I/O page, lets `build` attach the machine's own parts to it, and maps it where the
configuration says. The window is told the switches of the page as `build` gives it back. The page stays a
target of the bus when mapping is refused. -/
def installIoPage (m : Machine ω δ γ) (build : IoPage δ → ω → IoPage δ × ω) :
    Except MachineError TargetId × Machine ω δ γ :=
  match m.config.ioPage with
  | none => (.error .noIoPage, m)
  | some io =>
    -- the new page's switches are the next ones of the backplane
    let switches := m.bus.backplane.overrides.size
    let (page, host) := build { layout := io.layout, switches := switches } m.bus.backplane.host
    let b := m.bus.backplane
    let shared := { m.bus with
      backplane := { b with overrides := b.overrides.push {}, host := host } }
    let (id, bus) := shared.addTarget (.page page)
    let mapped : Except MapError (Bus ω δ γ) := do
      let entry ← bus.pageEntry id ioPageDevice .io .readWrite
      bus.mapRange (bus.table.geometry.pageIndex io.base)
        (ioPageCount io.layout bus.table.geometry) entry
    match mapped with
    -- the target stays on the bus, and so do its switches on the backplane
    | .error e => (.error (.map e), { m with bus := bus })
    | .ok bus => (.ok id, { m with bus := bus, window := some ⟨io.base, io.layout, page.switches⟩ })

/-- The machine as its traps see it. -/
def trapContext (m : Machine ω δ γ) : TrapContext ω δ γ :=
  ⟨m.bus, m.signals, true, m.window⟩

/-- One access of the processor: traps first, then the bus. Traps see the address cut to the width
of the bus; accesses that they answer are counted and reported as well. -/
def cpuAccess (m : Machine ω δ γ) (a : Access) : Except Fault Outcome × Machine ω δ γ :=
  -- the bus cuts the address itself
  if m.traps.traps.isEmpty then
    let (result, bus) := m.bus.access a
    (result, { m with bus := bus })
  else
    let masked := m.bus.maskAddress a
    match m.traps.dispatch masked m.trapContext with
    | (some outcome, c) =>
      -- an answered access is never decomposed
      (.ok outcome, { m with signals := c.signals, bus := c.bus.recordTrapped masked outcome })
    | (none, c) =>
      let (result, bus) := c.bus.access masked
      (result, { m with signals := c.signals, bus := bus })

/-- Returns everything to power-on: the cards, the targets, the counters, the lines and the
scheduler. Pages, cards, traps and handlers stay. It needs the rack. -/
def reset (m : Machine ω δ γ) : Except MachineError Unit × Machine ω δ γ :=
  if m.rackIsFree then
    -- cards before targets, and both before the counters that they could have changed
    let bus := { m.bus with backplane := m.bus.backplane.resetCards }
    let m := { m with bus := bus.reset.resetDiagnostics }
    let m := m.resetSignals
    (.ok (), { m with scheduler := m.scheduler.reset })
  else
    (.error .slotsBusy, m)

end Machine

end Motherboard
