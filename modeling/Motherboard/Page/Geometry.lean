/-!
# Geometry of an address space

An address space has an address width and a page size, both powers of two. `Geometry.check?`
accepts the widths of 9 to 32 bits whose pages have at least 256 bytes, are smaller than the space,
and number at most 2^20.
-/

namespace Motherboard

/-- Widths of an address and of the offset within a page, in bits. -/
structure Geometry where
  /-- Width of an address. -/
  addressBits : UInt8
  /-- Logarithm of the page size. -/
  pageShift : UInt8
  deriving DecidableEq

namespace Geometry

/-- Bits of the smallest page. -/
def minPageShift : Nat := 8

/-- Bits of the widest address. -/
def maxAddressBits : Nat := 32

/-- Pages of the largest table. -/
def maxPageCount : Nat := 0x100000

/-- Number of pages. -/
def pageCount (g : Geometry) : Nat :=
  1 <<< (g.addressBits.toNat - g.pageShift.toNat)

/-- The geometry is one that a page table can have. -/
def isSupported (g : Geometry) : Bool :=
  decide (g.addressBits.toNat ≤ maxAddressBits) &&
    decide (minPageShift ≤ g.pageShift.toNat) &&
    decide (g.pageShift.toNat < g.addressBits.toNat) &&
    decide (g.pageCount ≤ maxPageCount)

/-- Bytes in a page. -/
def pageSize (g : Geometry) : UInt32 :=
  1 <<< g.pageShift.toUInt32

/-- The largest address. -/
def addressMask (g : Geometry) : UInt32 :=
  if g.addressBits = 32 then 0xFFFFFFFF else (1 <<< g.addressBits.toUInt32) - 1

/-- Page of an address; the address is first cut to the width of the space. -/
def pageIndex (g : Geometry) (address : UInt32) : Nat :=
  ((address &&& g.addressMask) >>> g.pageShift.toUInt32).toNat

/-- Place of an address within its page. -/
def pageOffset (g : Geometry) (address : UInt32) : UInt32 :=
  address &&& (g.pageSize - 1)

/-- First address of a page. -/
def pageBase (g : Geometry) (index : Nat) : UInt32 :=
  index.toUInt32 <<< g.pageShift.toUInt32

end Geometry

end Motherboard
