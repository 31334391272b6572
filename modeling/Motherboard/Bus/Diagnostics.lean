import Motherboard.Fault

/-!
# Bus diagnostics

Counters of what went over the bus, and the last fault. Each counter stops at the largest value of
its width.
-/

namespace Motherboard

/-- One more, but never past the largest 32-bit number. -/
def countUp32 (n : UInt32) : UInt32 :=
  if n = 0xFFFFFFFF then n else n + 1

/-- One more, but never past the largest 16-bit number. -/
def countUp16 (n : UInt16) : UInt16 :=
  if n = 0xFFFF then n else n + 1

/-- Counters kept by the bus. -/
structure Diagnostics where
  /-- The fault returned last. -/
  lastFault : Option Fault := none
  /-- Completed accesses. -/
  accesses : UInt32 := 0
  /-- Completed accesses that reached the device as byte cycles. -/
  decomposed : UInt32 := 0
  /-- Bytes that the bus itself took from the floating lines. -/
  floatingReads : UInt32 := 0
  /-- Completed accesses that a trap answered. -/
  trapped : UInt32 := 0
  /-- Faults on unmapped pages. -/
  unmapped : UInt16 := 0
  /-- Permission faults. -/
  permission : UInt16 := 0
  /-- Faults for fetching what is not executable. -/
  noExecute : UInt16 := 0
  /-- Alignment faults. -/
  misaligned : UInt16 := 0
  /-- Faults reported by devices. -/
  deviceFaults : UInt16 := 0
  deriving DecidableEq

namespace Diagnostics

/-- Counters at power-on. -/
def zero : Diagnostics := {}

/-- Notes a returned fault: it becomes the last one and its kind is counted. -/
def recordFault (d : Diagnostics) (f : Fault) : Diagnostics :=
  let d := { d with lastFault := some f }
  match f.kind with
  | .unmapped => { d with unmapped := countUp16 d.unmapped }
  | .permission => { d with permission := countUp16 d.permission }
  | .noExecute => { d with noExecute := countUp16 d.noExecute }
  | .misaligned => { d with misaligned := countUp16 d.misaligned }
  | .deviceFault => { d with deviceFaults := countUp16 d.deviceFaults }

/-- Notes a completed access. -/
def recordAccess (d : Diagnostics) (decomposed : Bool) : Diagnostics :=
  { d with
    accesses := countUp32 d.accesses
    decomposed := if decomposed then countUp32 d.decomposed else d.decomposed }

/-- Notes a byte taken from the floating lines. -/
def recordFloatingRead (d : Diagnostics) : Diagnostics :=
  { d with floatingReads := countUp32 d.floatingReads }

/-- Notes an access that a trap completed. -/
def recordTrapped (d : Diagnostics) : Diagnostics :=
  { d with trapped := countUp32 d.trapped }

/-- The number of faults of one kind. -/
def faultCount (d : Diagnostics) : FaultKind → UInt16
  | .unmapped => d.unmapped
  | .permission => d.permission
  | .noExecute => d.noExecute
  | .misaligned => d.misaligned
  | .deviceFault => d.deviceFaults

end Diagnostics

end Motherboard
