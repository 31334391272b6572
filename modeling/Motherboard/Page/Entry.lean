import Motherboard.Page.Attribution
import Motherboard.Device.Capabilities
import Motherboard.Page.Permissions

/-!
# Page entries

The routing record of one page: who is credited with it, what may be done to it, and which target
receives its accesses at which offset. The capabilities are those that the target had when the page
was mapped.
-/

namespace Motherboard

/-- Number of a target on its bus. -/
structure TargetId where
  /-- Place among the bus's targets. -/
  index : Nat
  deriving DecidableEq

/-- Routing record of one page. -/
structure PageEntry where
  /-- Device credited with the page. -/
  device : DeviceId
  /-- What the page holds. -/
  region : Region
  /-- What may be done to the page. -/
  permissions : Permissions
  /-- Capabilities of the target when the page was mapped. -/
  capabilities : Capabilities
  /-- Receiver of the page's accesses. -/
  target : TargetId
  /-- Device offset of the first byte of the page. -/
  base : UInt32
  deriving DecidableEq

/-- Why pages cannot be mapped as asked. -/
inductive MapError where
  /-- No page table has such a geometry. -/
  | invalidGeometry (addressBits pageShift : UInt8)
  /-- The page lies beyond the table. -/
  | indexOutOfRange (index pageCount : Nat)
  /-- The bus has no such target. -/
  | unknownTarget (target : TargetId)
  /-- The range holds no page. -/
  | emptyRange
  /-- The page has no entry to change. -/
  | notMapped (index : Nat)
  deriving DecidableEq

/-- The error in words. -/
def MapError.message : MapError → String
  | .invalidGeometry addressBits pageShift =>
    "unsupported geometry: " ++ toString addressBits.toNat ++ "-bit address with " ++
      toString pageShift.toNat ++ "-bit pages"
  | .indexOutOfRange index pageCount =>
    "page index " ++ toString index ++ " out of range (table has " ++ toString pageCount ++
      " pages)"
  | .unknownTarget target => "unknown target TargetId(" ++ toString target.index ++ ")"
  | .emptyRange => "empty page range"
  | .notMapped index => "page " ++ toString index ++ " is not mapped"

end Motherboard
