import Motherboard.Page.Entry
import Motherboard.Page.Geometry

/-!
# Page tables

A page table has one optional entry per page. Storing an entry outside the table and naming a range
that is empty or leaves the table are refused; everything else succeeds.
-/

namespace Motherboard

/-- One optional entry per page of an address space. -/
structure PageTable where
  /-- The address space. -/
  geometry : Geometry
  /-- Entries in page order. -/
  entries : Array (Option PageEntry)

namespace PageTable

/-- The least number that is not a page index of any kind: indices are 64-bit words. -/
def indexLimit : Nat := 0x10000000000000000

/-- A table without mapped pages. -/
def ofGeometry? (g : Geometry) : Except MapError PageTable :=
  if g.isSupported then
    .ok ⟨g, Array.replicate g.pageCount none⟩
  else
    .error (.invalidGeometry g.addressBits g.pageShift)

/-- Number of pages. -/
def pageCount (t : PageTable) : Nat :=
  t.entries.size

/-- The entry of a page; none for pages that are unmapped or outside the table. -/
def get? (t : PageTable) (index : Nat) : Option PageEntry :=
  -- outside the table and unmapped are the same to an access
  (t.entries[index]?).join

/-- The entry of the page that covers an address. -/
def entryFor? (t : PageTable) (address : UInt32) : Option PageEntry :=
  t.get? (t.geometry.pageIndex address)

/-- Stores the entry of a page. -/
def set (t : PageTable) (index : Nat) (entry : Option PageEntry) : Except MapError PageTable :=
  if index < t.pageCount then
    .ok { t with entries := t.entries.setIfInBounds index entry }
  else
    .error (.indexOutOfRange index t.pageCount)

/-- The pages `index`, `index + 1`, …, `index + count - 1` exist and are at least one. A range
whose last index is no 64-bit word is reported by its first index, another one by its last. -/
def checkRange (t : PageTable) (index count : Nat) : Except MapError Unit :=
  if count = 0 then
    .error .emptyRange
  else if indexLimit ≤ index + (count - 1) then
    .error (.indexOutOfRange index t.pageCount)
  else if t.pageCount ≤ index + (count - 1) then
    .error (.indexOutOfRange (index + (count - 1)) t.pageCount)
  else
    .ok ()

/-- Maps `count` pages from `index` on to consecutive parts of one target. -/
def fill (t : PageTable) (index count : Nat) (entry : PageEntry) : PageTable :=
  match count with
  | 0 => t
  | count + 1 =>
    let t := { t with entries := t.entries.setIfInBounds index (some entry) }
    t.fill (index + 1) count { entry with base := entry.base + t.geometry.pageSize }

/-- The mapped pages with their indices, in page order. -/
def mapped (t : PageTable) : List (Nat × PageEntry) :=
  t.entries.toList.zipIdx.filterMap fun (entry, index) => entry.map fun e => (index, e)

end PageTable

end Motherboard
