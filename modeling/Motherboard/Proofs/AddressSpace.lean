import Motherboard.Proofs.PageArithmetic
import Mathlib.Data.Set.Function

/-!
# Addresses as pages and places

An address of the bus is a page and a place in it. For every geometry that a page table can have, the
shifts and masks of words count exactly: no bit is shifted out of the base of a page, a base and a place in
its page add up to the address without a carry out of the word, and there is room above the last place for
the bytes of an access. So pages and places stand for the addresses of the bus one to one.

* `toNat_pageBase`, `toNat_pageBase_add` — the base of a page, and back to the address.
* `bijOn_pagePlace` — pages and places are the addresses of the bus.
* `isExact_of_isSupported` — all of it, from the check of a geometry.
-/

namespace Motherboard

/-- The table has one entry for each page of a geometry. -/
structure PageTable.IsTableOf (t : PageTable) (g : Geometry) : Prop where
  geometry : t.geometry = g
  pages : t.pageCount = g.pageCount

namespace Geometry

/-- The page of an address, and the place in it. -/
def pagePlace (g : Geometry) (address : UInt32) : Nat × UInt32 :=
  (g.pageIndex address, g.pageOffset address)

variable {g : Geometry} {address : UInt32}

/-! ## Addresses of the bus -/

/-- The addresses of a bus are those its lines can carry. -/
theorem le_addressMask_iff (h : g.isSupported = true) :
    address ≤ g.addressMask ↔ address.toNat < 2 ^ g.addressBits.toNat := by
  have hpos : 0 < 2 ^ g.addressBits.toNat := Nat.pow_pos (by omega)
  rw [UInt32.le_iff_toNat_le]
  constructor
  · intro hle
    -- cutting leaves the mask itself
    have hmask := toNat_and_addressMask h g.addressMask
    rw [UInt32.and_self] at hmask
    have hlt := Nat.mod_lt g.addressMask.toNat hpos
    omega
  · intro hlt
    have hcut := toNat_and_addressMask h address
    rw [Nat.mod_eq_of_lt hlt] at hcut
    rw [← hcut, UInt32.toNat_and]
    exact Nat.and_le_right

/-- Cutting leaves the addresses of the bus. -/
theorem and_addressMask_of_le (h : g.isSupported = true) (hle : address ≤ g.addressMask) :
    address &&& g.addressMask = address := by
  apply UInt32.toNat_inj.1
  rw [toNat_and_addressMask h, Nat.mod_eq_of_lt ((le_addressMask_iff h).1 hle)]

/-- The pages fill the address space. -/
theorem pageCount_mul_pageSize (h : g.isSupported = true) :
    g.pageCount * g.pageSize.toNat = 2 ^ g.addressBits.toNat := by
  obtain ⟨hshift, -⟩ := shift_lt_bits h
  rw [pageCount, Nat.one_shiftLeft, toNat_pageSize h, ← Nat.pow_add]
  congr 1
  omega

/-- A place in a page of the table lies in the address space. -/
theorem place_lt (h : g.isSupported = true) {index place : Nat} (hindex : index < g.pageCount)
    (hplace : place < g.pageSize.toNat) :
    index * g.pageSize.toNat + place < 2 ^ g.addressBits.toNat := by
  -- the page ends with the last one of the table at the latest
  have hle : (index + 1) * g.pageSize.toNat ≤ g.pageCount * g.pageSize.toNat :=
    Nat.mul_le_mul_right _ hindex
  rw [pageCount_mul_pageSize h, Nat.add_mul] at hle
  omega

theorem space_le (h : g.isSupported = true) : 2 ^ g.addressBits.toNat ≤ 2 ^ 32 :=
  Nat.pow_le_pow_right (by omega) (shift_lt_bits h).2

/-- The last address of the bus is one less than its size. -/
theorem toNat_addressMask (h : g.isSupported = true) :
    g.addressMask.toNat + 1 = 2 ^ g.addressBits.toNat := by
  have hspace := space_le h
  have hpos : 0 < 2 ^ g.addressBits.toNat := Nat.pow_pos (by omega)
  have hword : (2 ^ g.addressBits.toNat - 1).toUInt32.toNat = 2 ^ g.addressBits.toNat - 1 :=
    toNat_toUInt32 (by omega)
  -- the mask and the last number below the size of the space are addresses of the bus
  have hmask := (le_addressMask_iff h).1 (UInt32.le_refl g.addressMask)
  have hlast := UInt32.le_iff_toNat_le.1
    ((le_addressMask_iff h).2 (by omega : (2 ^ g.addressBits.toNat - 1).toUInt32.toNat < _))
  omega

/-! ## Bases of pages -/

/-- No bit is shifted out of the base of a page. -/
theorem toNat_pageBase (h : g.isSupported = true) {index : Nat} (hindex : index < g.pageCount) :
    (g.pageBase index).toNat = index * g.pageSize.toNat := by
  obtain ⟨hshift, hbits⟩ := shift_lt_bits h
  have hplace := place_lt h hindex g.toNat_pageSize_pos
  have hspace := space_le h
  -- the number of the page is a word itself, since its base is one
  have hone : index * 1 ≤ index * g.pageSize.toNat := Nat.mul_le_mul_left _ g.toNat_pageSize_pos
  unfold pageBase
  rw [UInt32.toNat_shiftLeft, toNat_toUInt32 (by omega), UInt8.toNat_toUInt32,
    Nat.mod_eq_of_lt (by omega : g.pageShift.toNat < 32), Nat.shiftLeft_eq, ← toNat_pageSize h,
    Nat.mod_eq_of_lt (by omega)]

/-- The place in the page does not depend on lines that the bus does not have. -/
theorem pageOffset_and_addressMask (h : g.isSupported = true) (address : UInt32) :
    g.pageOffset (address &&& g.addressMask) = g.pageOffset address := by
  obtain ⟨hshift, -⟩ := shift_lt_bits h
  apply UInt32.toNat_inj.1
  rw [toNat_pageOffset h, toNat_pageOffset h, toNat_and_addressMask h,
    Nat.mod_mod_of_dvd _ (Nat.pow_dvd_pow 2 (Nat.le_of_lt hshift))]

/-- The base of its page and its place in the page add up to the address that the bus sees. -/
theorem toNat_pageBase_add (h : g.isSupported = true) (address : UInt32) :
    (g.pageBase (g.pageIndex address)).toNat + (g.pageOffset address).toNat =
      (address &&& g.addressMask).toNat := by
  rw [toNat_pageBase h (pageIndex_lt h address), pageIndex_eq_div, ← pageOffset_and_addressMask h,
    toNat_pageOffset_eq_mod]
  exact Nat.div_add_mod' _ _

/-! ## Pages and places -/

/-- No two addresses have page and place in common. -/
theorem injOn_pagePlace (h : g.isSupported = true) :
    Set.InjOn g.pagePlace {address | address ≤ g.addressMask} := by
  intro x hx y hy hsame
  obtain ⟨hindex, hoffset⟩ := Prod.mk.injEq .. ▸ hsame
  have hxsum := toNat_pageBase_add h x
  have hysum := toNat_pageBase_add h y
  rw [and_addressMask_of_le h hx, hindex, hoffset] at hxsum
  rw [and_addressMask_of_le h hy] at hysum
  exact UInt32.toNat_inj.1 (hxsum.symm.trans hysum)

/-- Every place in every page has an address. -/
theorem surjOn_pagePlace (h : g.isSupported = true) :
    Set.SurjOn g.pagePlace {address | address ≤ g.addressMask}
      {p | p.1 < g.pageCount ∧ p.2 < g.pageSize} := by
  rintro ⟨index, offset⟩ ⟨hindex, hoffset⟩
  have hplace : offset.toNat < g.pageSize.toNat := UInt32.lt_iff_toNat_lt.1 hoffset
  have hlt := place_lt h hindex hplace
  have hspace := space_le h
  -- the sum ends below the space, so that there is no carry out of the word
  have hsum : (g.pageBase index + offset).toNat = index * g.pageSize.toNat + offset.toNat := by
    rw [UInt32.toNat_add, toNat_pageBase h hindex, Nat.mod_eq_of_lt (by omega)]
  have hle : g.pageBase index + offset ≤ g.addressMask := (le_addressMask_iff h).2 (by rwa [hsum])
  refine ⟨g.pageBase index + offset, hle, Prod.mk.injEq .. ▸ ⟨?_, ?_⟩⟩
  · rw [pageIndex_eq_div, and_addressMask_of_le h hle, hsum, Nat.mul_comm,
      Nat.mul_add_div g.toNat_pageSize_pos, Nat.div_eq_of_lt hplace, Nat.add_zero]
  · apply UInt32.toNat_inj.1
    rw [toNat_pageOffset_eq_mod, hsum, Nat.mul_add_mod_of_lt hplace]

/-- Pages of the table and places in a page are the addresses of the bus, one to one. -/
theorem bijOn_pagePlace (h : g.isSupported = true) :
    Set.BijOn g.pagePlace {address | address ≤ g.addressMask}
      {p | p.1 < g.pageCount ∧ p.2 < g.pageSize} := by
  refine ⟨?_, injOn_pagePlace h, surjOn_pagePlace h⟩
  intro address _
  exact ⟨pageIndex_lt h address, UInt32.lt_iff_toNat_lt.2 (g.toNat_pageOffset_lt address)⟩

/-! ## Geometries that are accepted -/

/-- Words count the pages of a geometry, and the places in them, as numbers do. -/
structure IsExact (g : Geometry) : Prop where
  /-- There is a page table of the geometry. -/
  table : ∃ t, PageTable.ofGeometry? g = .ok t ∧ t.IsTableOf g
  /-- The size of a page and the last address of the bus are those of the widths in bits. -/
  sizes : g.pageSize.toNat = 2 ^ g.pageShift.toNat ∧
    g.addressMask.toNat + 1 = 2 ^ g.addressBits.toNat
  /-- Every address has a page of the table. -/
  index : ∀ address, g.pageIndex address < g.pageCount
  /-- The base of a page is as many page sizes as there are pages before it. -/
  base : ∀ index < g.pageCount, (g.pageBase index).toNat = index * g.pageSize.toNat
  /-- The base of its page and its place in the page add up to the address that the bus sees. -/
  sum : ∀ address, (g.pageBase (g.pageIndex address)).toNat + (g.pageOffset address).toNat =
    (address &&& g.addressMask).toNat
  /-- Pages and places are the addresses of the bus, one to one. -/
  oneToOne : Set.BijOn g.pagePlace {address | address ≤ g.addressMask}
    {p | p.1 < g.pageCount ∧ p.2 < g.pageSize}
  /-- The end of an access, counted from the start of its page, is a word. -/
  straddle : ∀ address (w : Width), (g.pageOffset address + w.bytes.toUInt32).toNat =
    (g.pageOffset address).toNat + w.bytes

/-- The arithmetic of pages is exact on every geometry that is accepted. -/
theorem isExact_of_isSupported (h : g.isSupported = true) : g.IsExact where
  table := ⟨_, if_pos h, rfl, Array.size_replicate⟩
  sizes := ⟨toNat_pageSize h, toNat_addressMask h⟩
  index := pageIndex_lt h
  base := fun _ hindex => toNat_pageBase h hindex
  sum := toNat_pageBase_add h
  oneToOne := bijOn_pagePlace h
  straddle := by
    intro address w
    -- the sum is less than two pages, and a page has at most 2 ^ 31 bytes
    have hoffset := g.toNat_pageOffset_lt address
    have hsize := g.toNat_pageSize_le
    have hwidth := w.bytes_le
    rw [UInt32.toNat_add, toNat_toUInt32 (by omega), Nat.mod_eq_of_lt (by omega)]

end Geometry

end Motherboard
