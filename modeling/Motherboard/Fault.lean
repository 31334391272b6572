import Motherboard.Access
import Motherboard.Page.Attribution
import Motherboard.Text.Hexadecimal

/-!
# Faults

An access that the bus refuses ends in a `Fault`: a plain value that says what went wrong, at which
byte, and which device and region answer for that byte. A device refuses a cycle with a
`DeviceError`, which the bus turns into a fault of the kind `DeviceError.faultKind`.
-/

namespace Motherboard

/-- Coarse classes of faults. -/
inductive FaultClass where
  /-- Nothing answers for the address. -/
  | addressing
  /-- The page's permissions or the execution policy forbid the access. -/
  | protection
  /-- The device refused or failed. -/
  | device
  deriving DecidableEq

/-- What went wrong. -/
inductive FaultKind where
  /-- No page entry covers the address. -/
  | unmapped
  /-- The page does not allow the direction of the access. -/
  | permission
  /-- Instructions may not be fetched from the page. -/
  | noExecute
  /-- A wide access is not aligned to its width. -/
  | misaligned
  /-- The device failed. -/
  | deviceFault
  deriving DecidableEq

namespace FaultKind

/-- Every kind, in the order of its code. -/
def all : List FaultKind :=
  [.unmapped, .permission, .noExecute, .misaligned, .deviceFault]

/-- The stable number of a kind. -/
def code : FaultKind → UInt8
  | .unmapped => 1
  | .permission => 2
  | .noExecute => 3
  | .misaligned => 4
  | .deviceFault => 5

/-- The kind with a given number. -/
def ofCode? (code : UInt8) : Option FaultKind :=
  all.find? fun kind => kind.code == code

/-- The class of a kind. -/
def faultClass : FaultKind → FaultClass
  | .unmapped => .addressing
  | .permission | .noExecute | .misaligned => .protection
  | .deviceFault => .device

/-- What a kind means, in words. -/
def message : FaultKind → String
  | .unmapped => "access to unmapped page"
  | .permission => "access denied by page permissions"
  | .noExecute => "instruction fetch from non-executable page"
  | .misaligned => "misaligned wide access"
  | .deviceFault => "device rejected the access"

end FaultKind

/-- Why a device refused a cycle. -/
inductive DeviceError where
  /-- The addressed part takes no writes. -/
  | readOnly
  /-- The device takes aligned wide cycles only. -/
  | misaligned
  /-- The device cannot complete the cycle. -/
  | failed
  deriving DecidableEq

namespace DeviceError

/-- The kind of fault that a refusal raises on the bus. -/
def faultKind : DeviceError → FaultKind
  | .readOnly => .permission
  | .misaligned => .misaligned
  | .failed => .deviceFault

/-- What a refusal means, in words. -/
def message : DeviceError → String
  | .readOnly => "target is read-only"
  | .misaligned => "target requires aligned access"
  | .failed => "device reported a failure"

end DeviceError

/-- A refused access. -/
structure Fault where
  /-- What went wrong. -/
  kind : FaultKind
  /-- Address of the byte, or of the wide access, at fault. -/
  address : UInt32
  /-- Width of the access as its master issued it. -/
  width : Width
  /-- Why the access was issued. -/
  intent : Intent
  /-- Who issued it. -/
  source : SourceId
  /-- Device that owns the page; none when the page is unmapped. -/
  device : Option DeviceId
  /-- Region of the page; none when the page is unmapped. -/
  region : Option Region
  /-- Cycle at which the access was issued. -/
  cycle : UInt64
  /-- Bus cycles spent before the fault. -/
  cycles : UInt32
  deriving DecidableEq

namespace Fault

/-- No page entry covers the address of `a`. -/
def unmapped (a : Access) : Fault where
  kind := .unmapped
  address := a.address
  width := a.width
  intent := a.intent
  source := a.source
  device := none
  region := none
  cycle := a.cycle
  cycles := 0

/-- A fault of `kind` on a page that `device` owns. -/
def mapped (kind : FaultKind) (a : Access) (device : DeviceId) (region : Region) : Fault :=
  { unmapped a with kind := kind, device := some device, region := some region }

/-- The fault of one byte cycle, told of the wide access it belongs to: the address stays that of
the byte, the width and the cycles spent are those of the whole. -/
def within (f : Fault) (whole : Access) (cycles : UInt32) : Fault :=
  { f with width := whole.width, cycles := cycles }

/-- Exactly the faults on mapped pages name a device and a region. -/
def wellFormed (f : Fault) : Bool :=
  match f.kind with
  | .unmapped => f.device.isNone && f.region.isNone
  | _ => f.device.isSome && f.region.isSome

/-- The fault in words. -/
def message (f : Fault) : String :=
  f.kind.message ++ " at " ++ Text.hexadecimal f.address.toNat ++
    " (" ++ toString f.width.bits ++ "-bit " ++ f.intent.name ++ ")"

end Fault

end Motherboard
