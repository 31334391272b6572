/-!
# Byte order

A word of several bytes is written to memory low byte first or high byte first. `ByteOrder.join`
composes a word from its bytes in memory order, `ByteOrder.split` lists the bytes of a word in
memory order.
-/

namespace Motherboard

/-- Which byte of a word stands at the lowest address. -/
inductive ByteOrder where
  /-- The low byte comes first. -/
  | little
  /-- The high byte comes first. -/
  | big
  deriving DecidableEq

namespace ByteOrder

/-- The word whose bytes, in memory order, are the given ones (at most four count). -/
def join : ByteOrder → List UInt8 → UInt32
  | .little, bytes => bytes.foldr (fun byte word => (word <<< 8) ||| byte.toUInt32) 0
  | .big, bytes => bytes.foldl (fun word byte => (word <<< 8) ||| byte.toUInt32) 0

/-- The low `count` bytes of a word, lowest byte first. -/
def lowFirst : Nat → UInt32 → List UInt8
  | 0, _ => []
  | count + 1, word => word.toUInt8 :: lowFirst count (word >>> 8)

/-- The low `count` bytes of a word in memory order. -/
def split (order : ByteOrder) (count : Nat) (word : UInt32) : List UInt8 :=
  match order with
  | .little => lowFirst count word
  | .big => (lowFirst count word).reverse

end ByteOrder

end Motherboard
