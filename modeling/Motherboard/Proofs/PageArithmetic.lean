import Motherboard.Page.Table
import Motherboard.Proofs.ByteLanes
import Mathlib.Tactic.SplitIfs

/-!
# Arithmetic of addresses and pages

The bus cuts addresses with masks and shifts of 32-bit words. As numbers, cutting to the width of the
bus is a remainder (`exists_toNat_and_addressMask`), and the page of an address and the place in it are
the quotient and the remainder of a division (`pageIndex_eq_div`, `toNat_pageOffset_eq_mod`). Counting
on from an address stays in its page as long as the place in it leaves room
(`pageIndex_and_addressMask_add`, `toNat_pageOffset_and_addressMask_add`).
-/

namespace Motherboard.Geometry

/-! ## The width of the bus -/

/-- Shifting a one counts modulo the 32 bits it is shifted in. -/
theorem toNat_one_shiftLeft (n : UInt8) :
    (1 <<< n.toUInt32 : UInt32).toNat = 2 ^ (n.toNat % 32) := by
  have hlt : 2 ^ (n.toNat % 32) < 2 ^ 32 :=
    Nat.pow_lt_pow_right (by omega) (Nat.mod_lt _ (by omega))
  rw [UInt32.toNat_shiftLeft, UInt8.toNat_toUInt32, UInt32.toNat_one, Nat.shiftLeft_eq,
    Nat.one_mul, Nat.mod_eq_of_lt hlt]

/-- The mask of a bus is a row of ones, whatever the geometry. -/
theorem exists_addressMask (g : Geometry) : ∃ n ≤ 32, g.addressMask.toNat = 2 ^ n - 1 := by
  unfold addressMask
  -- a full bus has a mask of its own: a one shifted by 32 bits stays a one
  split_ifs
  · exact ⟨32, by omega, rfl⟩
  · refine ⟨g.addressBits.toNat % 32, by omega, ?_⟩
    have hpos : 0 < 2 ^ (g.addressBits.toNat % 32) := Nat.pow_pos (by omega)
    rw [UInt32.toNat_sub_of_le, toNat_one_shiftLeft]
    · rfl
    · rw [UInt32.le_iff_toNat_le, toNat_one_shiftLeft]
      exact hpos

/-- Cutting an address to the width of the bus takes it modulo the size of the space. -/
theorem exists_toNat_and_addressMask (g : Geometry) :
    ∃ n ≤ 32, ∀ address : UInt32, (address &&& g.addressMask).toNat = address.toNat % 2 ^ n := by
  obtain ⟨n, hn, hmask⟩ := g.exists_addressMask
  refine ⟨n, hn, fun address => ?_⟩
  rw [UInt32.toNat_and, hmask, Nat.and_two_pow_sub_one_eq_mod]

@[simp] theorem and_addressMask_and_addressMask (g : Geometry) (address : UInt32) :
    address &&& g.addressMask &&& g.addressMask = address &&& g.addressMask := by
  rw [UInt32.and_assoc, UInt32.and_self]

/-- Counting on from an address can be done before or after cutting it to the width of the bus. -/
theorem and_addressMask_add (g : Geometry) (address step : UInt32) :
    ((address &&& g.addressMask) + step) &&& g.addressMask =
      (address + step) &&& g.addressMask := by
  obtain ⟨n, hn, hcut⟩ := g.exists_toNat_and_addressMask
  -- words count modulo 2 ^ 32, a multiple of the size of the space
  have hdvd : 2 ^ n ∣ 2 ^ 32 := Nat.pow_dvd_pow 2 hn
  apply UInt32.toNat_inj.1
  rw [hcut, hcut, UInt32.toNat_add, UInt32.toNat_add, hcut, Nat.mod_mod_of_dvd _ hdvd,
    Nat.mod_mod_of_dvd _ hdvd, Nat.mod_add_mod]

/-! ## Pages -/

theorem exists_toNat_pageSize (g : Geometry) : ∃ s < 32, g.pageSize.toNat = 2 ^ s :=
  ⟨g.pageShift.toNat % 32, Nat.mod_lt _ (by omega), toNat_one_shiftLeft g.pageShift⟩

/-- Whatever the geometry is, the place of an address in its page is the remainder by the page size,
and its page the quotient. -/
theorem toNat_pageOffset_eq_mod (g : Geometry) (address : UInt32) :
    (g.pageOffset address).toNat = address.toNat % g.pageSize.toNat := by
  obtain ⟨s, -, hsize⟩ := g.exists_toNat_pageSize
  have hpos : 0 < 2 ^ s := Nat.pow_pos (by omega)
  have hle : (1 : UInt32) ≤ g.pageSize := UInt32.le_iff_toNat_le.2 (by rw [hsize]; exact hpos)
  unfold pageOffset
  rw [UInt32.toNat_and, UInt32.toNat_sub_of_le _ _ hle, hsize, UInt32.toNat_one,
    Nat.and_two_pow_sub_one_eq_mod]

/-- The page of an address is its quotient by the page size. -/
theorem pageIndex_eq_div (g : Geometry) (address : UInt32) :
    g.pageIndex address = (address &&& g.addressMask).toNat / g.pageSize.toNat := by
  unfold pageIndex pageSize
  rw [UInt32.toNat_shiftRight, UInt8.toNat_toUInt32, Nat.shiftRight_eq_div_pow, toNat_one_shiftLeft]

theorem toNat_pageSize_pos (g : Geometry) : 0 < g.pageSize.toNat := by
  obtain ⟨s, -, hsize⟩ := g.exists_toNat_pageSize
  rw [hsize]
  exact Nat.pow_pos (by omega)

theorem toNat_pageOffset_lt (g : Geometry) (address : UInt32) :
    (g.pageOffset address).toNat < g.pageSize.toNat := by
  rw [toNat_pageOffset_eq_mod]
  exact Nat.mod_lt _ g.toNat_pageSize_pos

/-- The page is that of the address as the bus sees it. -/
@[simp] theorem pageIndex_and_addressMask (g : Geometry) (address : UInt32) :
    g.pageIndex (address &&& g.addressMask) = g.pageIndex address := by
  rw [pageIndex_eq_div, pageIndex_eq_div, and_addressMask_and_addressMask]

/-- An address in page `i` from a base on has the distance from the base that the pages between them and
the place in the page add up to. -/
theorem toNat_distance (g : Geometry) {address : UInt32} {base first i : Nat}
    (hbase : first * g.pageSize.toNat = base) (hpage : address.toNat / g.pageSize.toNat = first + i) :
    base + (i.toUInt32 * g.pageSize + g.pageOffset address).toNat = address.toNat := by
  have hpos := g.toNat_pageSize_pos
  have hword : address.toNat < 2 ^ 32 := address.toNat_lt
  have hsplit := Nat.div_add_mod' address.toNat g.pageSize.toNat
  rw [hpage, Nat.add_mul] at hsplit
  have hquotient : i * 1 ≤ i * g.pageSize.toNat := Nat.mul_le_mul_left i hpos
  rw [UInt32.toNat_add, UInt32.toNat_mul, toNat_toUInt32 (by omega), toNat_pageOffset_eq_mod,
    Nat.mod_add_mod, Nat.mod_eq_of_lt (by omega)]
  omega

theorem toNat_pageSize_le (g : Geometry) : g.pageSize.toNat ≤ 2 ^ 31 := by
  obtain ⟨s, hs, hsize⟩ := g.exists_toNat_pageSize
  rw [hsize]
  exact Nat.pow_le_pow_right (by omega) (by omega)

section

variable {g : Geometry}

/-- A step inside a page survives the way into 32 bits. -/
theorem toNat_step {i : Nat} (hi : i < g.pageSize.toNat) :
    i.toUInt32.toNat = i := by
  have hlt : g.pageSize.toNat < 2 ^ 32 := g.pageSize.toNat_lt
  exact toNat_toUInt32 (by omega)

/-- Counting on from an address stays in its page, while the page leaves room. -/
theorem pageIndex_and_addressMask_add {address : UInt32} {i : Nat}
    (hroom : (g.pageOffset address).toNat + i < g.pageSize.toNat) :
    g.pageIndex ((address + i.toUInt32) &&& g.addressMask) = g.pageIndex address := by
  obtain ⟨s, hs, hsize⟩ := g.exists_toNat_pageSize
  obtain ⟨n, hn, hcut⟩ := g.exists_toNat_and_addressMask
  have hi : i.toUInt32.toNat = i := toNat_step (g := g) (by omega)
  have hpos : 0 < 2 ^ s := Nat.pow_pos (by omega)
  rw [toNat_pageOffset_eq_mod, hsize] at hroom
  rw [pageIndex_eq_div, pageIndex_eq_div, hsize, and_addressMask_and_addressMask, hcut, hcut,
    UInt32.toNat_add, hi, Nat.mod_mod_of_dvd _ (Nat.pow_dvd_pow 2 hn)]
  by_cases hns : n ≤ s
  · -- the whole space fits into a page
    have hspace : 2 ^ n ≤ 2 ^ s := Nat.pow_le_pow_right (by omega) hns
    have hcutPos : 0 < 2 ^ n := Nat.pow_pos (by omega)
    rw [Nat.div_eq_of_lt ((Nat.mod_lt _ hcutPos).trans_le hspace),
      Nat.div_eq_of_lt ((Nat.mod_lt _ hcutPos).trans_le hspace)]
  · -- both pages are the quotient by the page size, cut to the number of pages
    have hquotient : (address.toNat + i) / 2 ^ s = address.toNat / 2 ^ s := by
      have hlt : i < 2 ^ s := by omega
      rw [Nat.add_div hpos, Nat.div_eq_of_lt hlt, if_neg (by rw [Nat.mod_eq_of_lt hlt]; omega)]
      rfl
    have hsplit : 2 ^ n = 2 ^ s * 2 ^ (n - s) := by
      rw [← Nat.pow_add]
      congr 1
      omega
    rw [hsplit, Nat.mod_mul_right_div_self, Nat.mod_mul_right_div_self, hquotient]

/-- In a supported geometry a page is smaller than the address space. -/
theorem shift_lt_bits (h : g.isSupported = true) :
    g.pageShift.toNat < g.addressBits.toNat ∧ g.addressBits.toNat ≤ 32 := by
  unfold isSupported maxAddressBits at h
  simp only [Bool.and_eq_true] at h
  obtain ⟨⟨⟨hbits, -⟩, hshift⟩, -⟩ := h
  exact ⟨of_decide_eq_true hshift, of_decide_eq_true hbits⟩

theorem toNat_pageSize (h : g.isSupported = true) : g.pageSize.toNat = 2 ^ g.pageShift.toNat := by
  obtain ⟨hshift, hbits⟩ := shift_lt_bits h
  rw [pageSize, toNat_one_shiftLeft, Nat.mod_eq_of_lt (by omega : g.pageShift.toNat < 32)]

/-- Masking an address is taking the remainder by the size of the address space. -/
theorem toNat_and_addressMask (h : g.isSupported = true) (address : UInt32) :
    (address &&& g.addressMask).toNat = address.toNat % 2 ^ g.addressBits.toNat := by
  obtain ⟨hshift, hbits⟩ := shift_lt_bits h
  rw [UInt32.toNat_and, ← Nat.and_two_pow_sub_one_eq_mod]
  congr 1
  unfold addressMask
  -- 32 lines have their own mask, because the shift would leave nothing
  split_ifs with hfull
  · rw [hfull]
    rfl
  · have hne : g.addressBits.toNat ≠ 32 := fun heq => hfull (UInt8.toNat_inj.1 heq)
    have hsize : (1 <<< g.addressBits.toUInt32 : UInt32).toNat = 2 ^ g.addressBits.toNat := by
      rw [toNat_one_shiftLeft, Nat.mod_eq_of_lt (by omega : g.addressBits.toNat < 32)]
    have hpos : 0 < 2 ^ g.addressBits.toNat := Nat.pow_pos (by omega)
    rw [UInt32.toNat_sub_of_le _ _ (UInt32.le_iff_toNat_le.2 (by rw [hsize]; exact hpos)), hsize]
    rfl

/-- Every address has a page of the table. -/
theorem pageIndex_lt (h : g.isSupported = true) (address : UInt32) :
    g.pageIndex address < g.pageCount := by
  obtain ⟨hshift, -⟩ := shift_lt_bits h
  have hbits : g.pageShift.toNat + (g.addressBits.toNat - g.pageShift.toNat) = g.addressBits.toNat := by
    omega
  have hcut : address.toNat % 2 ^ g.addressBits.toNat < 2 ^ g.addressBits.toNat :=
    Nat.mod_lt _ (Nat.pow_pos (by omega))
  rw [pageIndex_eq_div, toNat_and_addressMask h, toNat_pageSize h, pageCount, Nat.one_shiftLeft]
  apply Nat.div_lt_of_lt_mul
  rwa [← Nat.pow_add, hbits]

theorem toNat_pageOffset (h : g.isSupported = true) (address : UInt32) :
    (g.pageOffset address).toNat = address.toNat % 2 ^ g.pageShift.toNat := by
  rw [toNat_pageOffset_eq_mod, toNat_pageSize h]

/-- The place in the page after counting on, while the page leaves room. -/
theorem toNat_pageOffset_and_addressMask_add (h : g.isSupported = true) {address : UInt32} {i : Nat}
    (hroom : (g.pageOffset address).toNat + i < g.pageSize.toNat) :
    (g.pageOffset ((address + i.toUInt32) &&& g.addressMask)).toNat =
      (g.pageOffset address).toNat + i := by
  obtain ⟨hshift, hbits⟩ := shift_lt_bits h
  have hi : i.toUInt32.toNat = i := toNat_step (g := g) (by omega)
  rw [toNat_pageOffset h, toNat_pageSize h] at hroom
  -- neither the bus nor the word is cut below the page size
  rw [toNat_pageOffset h, toNat_pageOffset h, toNat_and_addressMask h, UInt32.toNat_add, hi,
    Nat.mod_mod_of_dvd _ (Nat.pow_dvd_pow 2 hbits),
    Nat.mod_mod_of_dvd _ (Nat.pow_dvd_pow 2 (Nat.le_of_lt hshift)), ← Nat.mod_add_mod,
    Nat.mod_eq_of_lt hroom]

end

end Motherboard.Geometry
