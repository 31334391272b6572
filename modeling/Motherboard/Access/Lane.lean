import Motherboard.Access
import Motherboard.Access.ByteOrder

/-!
# Byte lanes

A wide access can be carried out as byte cycles, one per *lane*. Lane `i` is the byte at the
address `i` above the access's own. Where the byte stands inside the value depends on the byte
order: `Access.laneShift` is its distance from the low end, `Access.lane` the byte access for the
lane, and `Access.mergeLane` puts a byte read on a lane into the value being assembled.
-/

namespace Motherboard.Access

/-- The byte order in which the value of this access lies in memory. -/
def order (a : Access) : ByteOrder :=
  if a.flags.littleEndian then .little else .big

/-- Bits between lane `i` and the low end of the value. -/
def laneShift (a : Access) (i : Nat) : Nat :=
  match a.order with
  | .little => i * 8
  | .big => (a.width.bytes - 1 - i) * 8

/-- The byte of the access's value that lies on lane `i`. -/
def laneByte (a : Access) (i : Nat) : UInt8 :=
  (a.value >>> (a.laneShift i).toUInt32).toUInt8

/-- The byte access for lane `i`. Its address wraps at the 32-bit boundary; a bus masks it further
to its own width. A lane of a read carries no value. -/
def lane (a : Access) (i : Nat) : Access :=
  { a with
    address := a.address + i.toUInt32
    -- a lane of a write carries its byte alone
    value := if a.intent.isWrite then (a.laneByte i).toUInt32 else 0
    width := .byte
    mode := .decomposed }

/-- A value with the byte of lane `i` filled in. The lane must still be clear. -/
def mergeLane (a : Access) (value : UInt32) (i : Nat) (byte : UInt8) : UInt32 :=
  value ||| (byte.toUInt32 <<< (a.laneShift i).toUInt32)

/-- The lane numbers of an access, in the order in which the bus visits them. -/
def laneNumbers (a : Access) : List Nat :=
  List.range a.width.bytes

end Motherboard.Access
