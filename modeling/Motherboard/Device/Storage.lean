import Motherboard.Access.Lane
import Motherboard.Fault

/-!
# Plain storage

A row of bytes that answers every width with accessors of its own. RAM takes writes; ROM refuses
them, but the debugger may patch it.
-/

namespace Motherboard

/-- A row of bytes. -/
structure Storage where
  /-- The bytes, by device offset. -/
  cells : Array UInt8
  deriving DecidableEq

namespace Storage

/-- `size` zero bytes. -/
def zeroed (size : Nat) : Storage :=
  ⟨Array.replicate size 0⟩

/-- Number of bytes. -/
def size (s : Storage) : Nat :=
  s.cells.size

/-- The byte at an offset. -/
def get? (s : Storage) (offset : UInt32) : Option UInt8 :=
  s.cells[offset.toNat]?

/-- The `count` bytes from an offset on, if all are there. -/
def window? (s : Storage) (offset : UInt32) (count : Nat) : Option (List UInt8) :=
  (List.range count).mapM fun i => s.cells[offset.toNat + i]?

/-- The row with bytes from index `i` on replaced, as far as it reaches. -/
def overlay (s : Storage) (i : Nat) : List UInt8 → Storage
  | [] => s
  | byte :: rest => Storage.overlay ⟨s.cells.setIfInBounds i byte⟩ (i + 1) rest

/-- Replaces bytes from an offset on, all or none. -/
def replace? (s : Storage) (offset : UInt32) (bytes : List UInt8) : Option Storage :=
  if offset.toNat + bytes.length ≤ s.size then some (s.overlay offset.toNat bytes) else none

/-- Reads a value of the given width. -/
def load (s : Storage) (width : Width) (order : ByteOrder) (offset : UInt32) :
    Except DeviceError UInt32 :=
  match s.window? offset width.bytes with
  | some bytes => .ok (order.join bytes)
  | none => .error .failed

/-- Writes a value of the given width. -/
def store (s : Storage) (width : Width) (order : ByteOrder) (offset value : UInt32) :
    Except DeviceError Unit × Storage :=
  match s.replace? offset (order.split width.bytes value) with
  | some stored => (.ok (), stored)
  | none => (.error .failed, s)

/-- Stores one byte without ceremony; tells whether the row reaches that far. -/
def poke (s : Storage) (offset : UInt32) (value : UInt8) : Bool × Storage :=
  match s.replace? offset [value] with
  | some stored => (true, stored)
  | none => (false, s)

end Storage

end Motherboard
