import Motherboard.Event
import Motherboard.Fault
import Motherboard.Line

/-!
# Traces

What the machine reports to an observer, in the order of its timeline. A trace keeps the events
while it is attached; events that arrive while the observer is busy reading are lost.
-/

namespace Motherboard

/-- Something an observer of the machine sees. -/
inductive TraceEvent where
  /-- An access completed; the address is cut to the width of the bus. -/
  | access (address : UInt32) (width : Width) (intent : Intent) (value cycles : UInt32)
      (decomposed : Bool)
  /-- An access was refused. -/
  | fault (fault : Fault)
  /-- A control line changed its level. -/
  | signal (line : Line) (asserted : Bool)
  /-- The shared expansion window changed hands. -/
  | expansion (previous current : Option UInt8)
  /-- The scheduler handed out an event. -/
  | dispatched (handle : EventHandle) (due : UInt64) (kind : EventKind) (tag : UInt32)
  deriving DecidableEq

/-- An observer and what it has seen. -/
structure Trace where
  /-- The machine reports to the observer. -/
  attached : Bool := false
  /-- The observer cannot listen at the moment. -/
  busy : Bool := false
  /-- Events seen, in order. -/
  events : Array TraceEvent := #[]

namespace Trace

/-- Reports one event; it is kept when the observer is attached and not busy. -/
def emit (t : Trace) (e : TraceEvent) : Trace :=
  if t.attached && !t.busy then { t with events := t.events.push e } else t

/-- An observer that is attached and not busy hears the report. -/
theorem emit_of_free {t : Trace} (hattached : t.attached = true) (hfree : t.busy = false)
    (e : TraceEvent) : t.emit e = { t with events := t.events.push e } := by
  have hlistens : (t.attached && !t.busy) = true := by
    rw [hattached, hfree]
    rfl
  rw [emit, if_pos hlistens]

end Trace

end Motherboard
