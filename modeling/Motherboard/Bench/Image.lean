/-!
# Memory images

The contents that a bench gives to memories and registers: bytes written in hexadecimal, one byte
repeated, or a pattern that tells where each byte came from.
-/

namespace Motherboard.Bench

/-- The value of a hexadecimal digit. -/
def digitValue (c : Char) : Nat :=
  if c.isDigit then c.toNat - '0'.toNat else c.toLower.toNat - 'a'.toNat + 10

/-- The bytes that pairs of hexadecimal digits stand for. -/
def ofDigits : List Char → List UInt8
  | high :: low :: rest => (digitValue high * 16 + digitValue low).toUInt8 :: ofDigits rest
  | _ => []

/-- Bytes as pairs of hexadecimal digits, with dashes for missing ones. -/
def toDigits (bytes : List (Option UInt8)) : String :=
  String.ofList (bytes.flatMap fun
    | some byte => [Nat.digitChar (byte.toNat / 16), Nat.digitChar (byte.toNat % 16)]
    | none => ['-', '-'])

/-- Content of a memory. -/
inductive Image where
  /-- Bytes in hexadecimal. -/
  | digits (text : String)
  /-- One byte repeated. -/
  | fill (size : Nat) (byte : UInt8)
  /-- The low byte of each index, with some bits flipped. -/
  | lowBytes (size : Nat) (flip : UInt8)
  /-- The second byte of each index, with some bits flipped. -/
  | highBytes (size : Nat) (flip : UInt8)

/-- The bytes of an image. -/
def Image.cells : Image → Array UInt8
  | .digits text => (ofDigits text.toList).toArray
  | .fill size byte => Array.replicate size byte
  | .lowBytes size flip => Array.ofFn fun i : Fin size => i.val.toUInt8 ^^^ flip
  | .highBytes size flip => Array.ofFn fun i : Fin size => (i.val / 256).toUInt8 ^^^ flip

end Motherboard.Bench
