/-!
# Timed events

An event is plain data: when it is due, which handler receives it, and a tag for the handler. Its
handle is a number given once and never again; its sequence number breaks ties between events due
at the same cycle. Kind and priority are for profiling and order nothing.

Handles and sequence numbers count without end. A counter of 64 bits gives the same numbers as long as
fewer than 2 ^ 64 events have been scheduled (`Scheduler.Life.fits_words`).
-/

namespace Motherboard

/-- Reference to a scheduled event. -/
structure EventHandle where
  /-- The number of the event, counted from one. -/
  id : Nat
  deriving DecidableEq

/-- Profiling category of an event. -/
inductive EventKind where
  /-- A timer inside a device runs out. -/
  | deviceTimer
  /-- A control line changes later. -/
  | interruptLineChange
  /-- One step of a DMA transfer. -/
  | dmaPhase
  /-- A tick that recurs. -/
  | periodicTick
  /-- Work put off by an access. -/
  | deferredWork
  /-- A category of the host. -/
  | custom (tag : UInt16)
  deriving DecidableEq

/-- Place of a handler in the machine's table. -/
structure HandlerId where
  /-- The place. -/
  number : UInt16
  deriving DecidableEq

/-- What an event is for. -/
structure EventSpec where
  /-- Receiver. -/
  handler : HandlerId
  /-- Profiling category. -/
  kind : EventKind
  /-- Profiling priority. -/
  priority : UInt8
  /-- Word for the receiver. -/
  tag : UInt32
  deriving DecidableEq

/-- An event that waits, or has just been taken from the queue. -/
structure Event extends EventSpec where
  /-- Reference for cancelling. -/
  handle : EventHandle
  /-- Cycle at which the event is due. -/
  due : UInt64
  /-- Order of scheduling. -/
  sequence : Nat
  deriving DecidableEq

/-- Place of an event in the queue: due cycle first, then order of scheduling. -/
structure EventKey where
  /-- Due cycle. -/
  due : UInt64
  /-- Order of scheduling. -/
  sequence : Nat
  deriving DecidableEq

/-- The place of an event in the queue. -/
@[inline]
def Event.key (e : Event) : EventKey := ⟨e.due, e.sequence⟩

namespace EventKey

/-- Strict order of keys: earlier due cycle, or the same and scheduled earlier. -/
@[inline]
def before (a b : EventKey) : Bool :=
  decide (a.due < b.due) || (a.due == b.due && decide (a.sequence < b.sequence))

end EventKey

end Motherboard
