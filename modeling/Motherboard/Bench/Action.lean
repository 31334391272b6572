import Motherboard.Bench.Instrument
import Motherboard.Machine

/-!
# Scripted actions

Single actions of a script, and what came of each as the journal notes it. An action on the scheduler
needs an event to answer to; an action on the machine can be carried out by handlers and traps alike.
-/

namespace Motherboard.Bench

/-- The event that an action schedules. -/
structure Order where
  /-- Receiver; the receiver of the present event when none is given. -/
  handler : Option HandlerId
  /-- Profiling category. -/
  kind : EventKind
  /-- Profiling priority. -/
  priority : UInt8
  /-- Word for the receiver. -/
  tag : UInt32
  /-- What to add to the present event's word in place of `tag`. -/
  tagAdd : Option UInt32

/-- The event ordered while `event` is handled. -/
def Order.spec (o : Order) (event : Event) : EventSpec where
  handler := o.handler.getD event.handler
  kind := o.kind
  priority := o.priority
  tag :=
    match o.tagAdd with
    | some more => event.tag + more
    | none => o.tag

/-- Actions on the scheduler. -/
inductive Timing where
  /-- Schedules an event some cycles from now. -/
  | after (delta : UInt64) (order : Order)
  /-- Schedules an event for a cycle. -/
  | at (due : UInt64) (order : Order)
  /-- Cancels an event. -/
  | cancel (handle : EventHandle)
  /-- Tries to cancel the present event. -/
  | cancelSelf
  /-- Notes the state of the scheduler. -/
  | stats

/-- Actions on the machine. -/
inductive Move where
  /-- A device pulls a line. -/
  | pull (line : Line) (device : DeviceId)
  /-- A device lets go of a line. -/
  | release (line : Line) (device : DeviceId)
  /-- A DMA write; `addTag` adds the event's word to address and value. -/
  | write (address : UInt32) (value : UInt32) (width : Width) (addTag : Bool)
  /-- A DMA read; `addTag` adds the event's word to the address. -/
  | read (address : UInt32) (width : Width) (addTag : Bool)
  /-- Changes the mode of the processor. -/
  | cpuMode (mode : CpuMode)
  /-- Takes away a page entry. -/
  | unmap (index : Nat)
  /-- Points a page at another target. -/
  | remap (index : Nat) (target : TargetId) (base : UInt32)
  /-- Gives the expansion window to a slot. -/
  | select (slot : UInt8)
  /-- Releases the expansion window. -/
  | deselect
  /-- Notes a report of what the script may touch. -/
  | report

/-- The word for an action in the journal. -/
def Timing.name : Timing → String
  | .after .. => "schedule_after"
  | .at .. => "schedule_at"
  | .cancel _ => "cancel"
  | .cancelSelf => "cancel_self"
  | .stats => "stats"

/-- The word for an action in the journal. -/
def Move.name : Move → String
  | .pull .. => "assert"
  | .release .. => "deassert"
  | .write .. => "write"
  | .read .. => "read"
  | .cpuMode _ => "cpu_mode"
  | .unmap _ => "unmap"
  | .remap .. => "remap"
  | .select _ => "select"
  | .deselect => "deselect"
  | .report => "debug"

/-- The state of a scheduler as scripts note it. -/
def clock (s : Scheduler) : Result :=
  .clock s.now s.pending s.dispatched s.nextDue?

/-- Carries out an action on the scheduler. -/
def Timing.run (t : Timing) (event : Event) (s : Scheduler) : Result × Scheduler :=
  match t with
  | .after delta order =>
    let (handle, s) := s.scheduleAfter delta (order.spec event)
    (.scheduled handle, s)
  | .at due order =>
    let (handle, s) := s.scheduleAt due (order.spec event)
    (.scheduled handle, s)
  | .cancel handle =>
    let (cancelled, s) := s.cancel handle
    (.flag cancelled, s)
  | .cancelSelf =>
    let (cancelled, rest) := s.cancel event.handle
    (.flags (s.isPending event.handle) cancelled, rest)
  | .stats => (clock s, s)

/-- A bus of instruments. -/
abbrev TestBus := Bus Host Instrument TestCard

/-- Adds a line to the journal. -/
def note (bus : TestBus) (e : Entry) : TestBus :=
  { bus with backplane := { bus.backplane with host := bus.backplane.host.note e } }

/-- What actions on the machine depend on beside the machine itself. -/
structure Occasion where
  /-- Cycle of the accesses made. -/
  cycle : UInt64
  /-- Word of the event. -/
  tag : UInt32
  /-- The script knows the rack. -/
  knowsRack : Bool
  /-- Report of what the script may touch. -/
  report : String

/-- A DMA access on some occasion. -/
def Occasion.dma (o : Occasion) (a : Access) (bus : TestBus) : Result × TestBus :=
  let (result, bus) := bus.access ((a.fromSource .dma).atCycle o.cycle)
  (.access result, bus)

/-- An action on the rack, if the script knows it and nobody holds it. -/
def Occasion.onRack (o : Occasion) (bus : TestBus)
    (f : Backplane Host TestCard → Result × Backplane Host TestCard) : Result × TestBus :=
  if !o.knowsRack then (.noSlots, bus)
  else if bus.backplane.hold == .free then bus.withBackplane f
  else (.busy, bus)

/-- Carries out an action on the machine. -/
def Move.run (m : Move) (o : Occasion) (signals : Signals) (bus : TestBus) :
    Result × Signals × TestBus :=
  match m with
  | .pull line device =>
    let (changed, signals, trace) := signals.pull line device bus.backplane.trace
    (.flag changed, signals, { bus with backplane.trace := trace })
  | .release line device =>
    let (changed, signals, trace) := signals.release line device bus.backplane.trace
    (.flag changed, signals, { bus with backplane.trace := trace })
  | .write address value width addTag =>
    let tag := if addTag then o.tag else 0
    let (result, bus) := o.dma (.write (address + tag) width (value + tag) .dmaWrite) bus
    (result, signals, bus)
  | .read address width addTag =>
    let tag := if addTag then o.tag else 0
    let (result, bus) := o.dma (.read (address + tag) width .dmaRead) bus
    (result, signals, bus)
  | .cpuMode mode => (.done, signals, bus.setCpuMode mode)
  | .unmap index =>
    match bus.unmapPage index with
    | .ok (entry, bus) => (.entry entry, signals, bus)
    | .error e => (.mapError e, signals, bus)
  | .remap index target base =>
    match bus.remapPage index target base with
    | .ok bus => (.done, signals, bus)
    | .error e => (.mapError e, signals, bus)
  | .select slot =>
    let (result, bus) := o.onRack bus fun b =>
      match b.selectSlot slot with
      | (.ok (), b) => (.done, b)
      | (.error e, b) => (.slotError e, b)
    (result, signals, bus)
  | .deselect =>
    let (result, bus) := o.onRack bus fun b => (.done, b.releaseWindow)
    (result, signals, bus)
  | .report => (.text o.report, signals, bus)

end Motherboard.Bench
