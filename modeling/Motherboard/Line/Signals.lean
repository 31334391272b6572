import Motherboard.Trace

/-!
# Wired-OR lines

Each control line is pulled by a set of devices and is asserted while the set is not empty. Pulling
the NMI line from rest also leaves an edge behind, which is consumed once. Every change of a line's
level, and nothing else, is reported to the trace.
-/

namespace Motherboard

namespace DeviceId

/-- A set of devices, in increasing order, with one more. -/
def insertSorted (device : DeviceId) : List DeviceId → List DeviceId
  | [] => [device]
  | first :: rest =>
    if device.number < first.number then device :: first :: rest
    else if device = first then first :: rest
    else first :: insertSorted device rest

end DeviceId

/-- Who pulls the control lines. -/
structure Signals where
  /-- The devices that pull each line, in increasing order. -/
  pullers : PerLine (List DeviceId) := .replicate []
  /-- An NMI edge waits to be consumed. -/
  nmiEdge : Bool := false
  deriving DecidableEq

namespace Signals

/-- At least one device pulls the line. -/
def isAsserted (s : Signals) (line : Line) : Bool :=
  !(s.pullers.get line).isEmpty

/-- The levels of all lines as a number, with bit `i` set when line `i` is asserted. -/
def levels (s : Signals) : Nat :=
  Line.all.foldr (fun line bits => 2 * bits + if s.isAsserted line then 1 else 0) 0

/-- `device` pulls `line`. The answer tells whether the line's level changed. -/
def pull (line : Line) (device : DeviceId) (s : Signals) (t : Trace) : Bool × Signals × Trace :=
  let pulled := { s with pullers := s.pullers.set line (device.insertSorted (s.pullers.get line)) }
  if s.isAsserted line then
    (false, pulled, t)
  else
    (true, { pulled with nmiEdge := pulled.nmiEdge || line == .nmi }, t.emit (.signal line true))

/-- `device` lets go of `line`. The answer tells whether the line's level changed. -/
def release (line : Line) (device : DeviceId) (s : Signals) (t : Trace) :
    Bool × Signals × Trace :=
  let rest := (s.pullers.get line).erase device
  let released := { s with pullers := s.pullers.set line rest }
  if s.isAsserted line && rest.isEmpty then
    (true, released, t.emit (.signal line false))
  else
    (false, released, t)

/-- Takes the NMI edge, if one waits. -/
def consumeNmiEdge (s : Signals) : Bool × Signals :=
  (s.nmiEdge, { s with nmiEdge := false })

/-- Every device lets go of `line`. -/
def clearLine (s : Signals) (line : Line) (t : Trace) : Signals × Trace :=
  if s.isAsserted line then
    ({ s with pullers := s.pullers.set line [] }, t.emit (.signal line false))
  else
    (s, t)

/-- Every device lets go of every line, in the order of the lines, and a waiting NMI edge is
dropped. -/
def reset (s : Signals) (t : Trace) : Signals × Trace :=
  let (s, t) := Line.all.foldl (fun (s, t) line => s.clearLine line t) (s, t)
  ({ s with nmiEdge := false }, t)

end Signals

end Motherboard
