import Motherboard.Rack
import Mathlib.Tactic.SplitIfs

/-!
# The places of a rack

A slot number from one to the count names a place among the cards, and different numbers name different
places. What is put into a slot is found there (`card?_setCard_self`), and the other slots keep what
they have (`card?_setCard_of_ne`). Two racks of one size that show the same cards in their slots hold
the same cards (`cards_eq_of_card?`).
-/

namespace Motherboard.Rack

variable {γ : Type} {r : Rack γ} {slot : UInt8}

/-- The slots are numbered from one. -/
theorem index_eq_ok_iff {i : Nat} :
    r.index slot = .ok i ↔ (slot ≠ 0 ∧ slot ≤ r.slotCount) ∧ i = (slot - 1).toNat := by
  unfold index
  split_ifs with hout
  · constructor
    · intro h
      cases h
    · rintro ⟨⟨hzero, hle⟩, -⟩
      -- slot 0 and the slots beyond the last are out of range
      rcases hout with hout | hout
      · exact absurd hout hzero
      · exact absurd hle (UInt8.not_le.2 hout)
  · rw [not_or, UInt8.not_lt] at hout
    constructor
    · rintro ⟨⟩
      exact ⟨hout, rfl⟩
    · rintro ⟨-, rfl⟩
      rfl

/-- A slot has a place in the rack. -/
theorem lt_size_of_index {i : Nat} (h : r.index slot = .ok i) : i < r.cards.size := by
  obtain ⟨⟨hzero, hle⟩, rfl⟩ := index_eq_ok_iff.1 h
  have hpos : slot.toNat ≠ 0 := fun h => hzero (UInt8.toNat_inj.1 h)
  have hone : (slot - 1).toNat = slot.toNat - 1 := by
    rw [UInt8.toNat_sub_of_le]
    · rfl
    · rw [UInt8.le_iff_toNat_le]
      exact Nat.one_le_iff_ne_zero.2 hpos
  have hcount : slot.toNat ≤ r.cards.size % 256 := UInt8.le_iff_toNat_le.1 hle
  omega

/-- Changing a card makes no slots. -/
@[simp] theorem size_setCard (card : Option γ) :
    (r.setCard slot card).cards.size = r.cards.size := by
  unfold setCard
  cases r.index slot with
  | error e => rfl
  | ok i => exact Array.size_setIfInBounds

@[simp] theorem index_setCard (other : UInt8) (card : Option γ) :
    (r.setCard slot card).index other = r.index other := by
  unfold index slotCount
  rw [size_setCard]

/-- What is put into a slot is there. -/
theorem card?_setCard_self {i : Nat} (h : r.index slot = .ok i) (card : Option γ) :
    (r.setCard slot card).card? slot = card := by
  rw [card?, index_setCard, h]
  dsimp only
  rw [setCard, h]
  dsimp only
  rw [Array.getElem?_setIfInBounds_self_of_lt (lt_size_of_index h)]
  rfl

theorem card?_setCard_of_ne {other : UInt8} (h : other ≠ slot) (card : Option γ) :
    (r.setCard slot card).card? other = r.card? other := by
  rw [card?, index_setCard, card?, setCard]
  cases hslot : r.index slot with
  | error e => rfl
  | ok i =>
    dsimp only
    cases hother : r.index other with
    | error e => rfl
    | ok j =>
      -- slots have places of their own
      have hne : i ≠ j := by
        intro hij
        rw [(index_eq_ok_iff.1 hslot).2, (index_eq_ok_iff.1 hother).2, UInt8.toNat_inj] at hij
        exact h ((UInt8.sub_left_inj 1).1 hij.symm)
      dsimp only
      rw [Array.getElem?_setIfInBounds_ne hne]

/-- Only a slot that exists holds a card. -/
theorem exists_index_of_card? (h : (r.card? slot).isSome) : ∃ i, r.index slot = .ok i := by
  unfold card? at h
  cases hindex : r.index slot with
  | error e =>
    rw [hindex] at h
    cases h
  | ok i => exact ⟨i, rfl⟩

/-- Empty slots hold nothing. -/
theorem card?_empty (count slot : UInt8) : (empty count : Rack γ).card? slot = none := by
  unfold card?
  cases (empty count : Rack γ).index slot with
  | error e => rfl
  | ok i =>
    dsimp only [empty]
    rw [Array.getElem?_replicate]
    split_ifs <;> rfl

/-! ## All places -/

/-- Every place has a slot number, as long as there are numbers. -/
theorem index_place (hsize : r.cards.size ≤ 255) {i : Nat} (hi : i < r.cards.size) :
    r.index (i.toUInt8 + 1) = .ok i := by
  -- with at most 255 places the numbers of the slots have room in a byte
  have hword : i + 1 < 256 := by omega
  have hplace : i.toUInt8.toNat = i := Nat.mod_eq_of_lt (Nat.lt_of_succ_lt hword)
  have hslot : (i.toUInt8 + 1).toNat = i + 1 := by
    rw [UInt8.toNat_add, hplace]
    exact Nat.mod_eq_of_lt hword
  have hcount : r.slotCount.toNat = r.cards.size := Nat.mod_eq_of_lt (Nat.lt_succ_of_le hsize)
  refine index_eq_ok_iff.2 ⟨⟨?_, ?_⟩, ?_⟩
  · intro hzero
    rw [hzero] at hslot
    cases hslot
  · rw [UInt8.le_iff_toNat_le, hslot, hcount]
    exact hi
  · rw [UInt8.add_sub_cancel, hplace]

/-- The slots tell everything about the cards. -/
theorem cards_eq_of_card? {r' : Rack γ} (hsize : r.cards.size ≤ 255)
    (hsizes : r'.cards.size = r.cards.size) (h : ∀ slot, r'.card? slot = r.card? slot) :
    r'.cards = r.cards := by
  apply Array.ext hsizes
  intro i hi' hi
  have hslot := h (i.toUInt8 + 1)
  unfold card? at hslot
  rw [index_place (hsizes ▸ hsize) hi', index_place hsize hi] at hslot
  dsimp only at hslot
  rw [Array.getElem?_eq_getElem hi', Array.getElem?_eq_getElem hi] at hslot
  exact hslot

theorem index_map {γ' : Type} (f : γ → γ') (owner : Option UInt8) :
    ({ cards := r.cards.map (Option.map f), owner := owner } : Rack γ').index slot =
      r.index slot := by
  unfold index slotCount
  rw [Array.size_map]

theorem card?_map {γ' : Type} (f : γ → γ') (owner : Option UInt8) :
    ({ cards := r.cards.map (Option.map f), owner := owner } : Rack γ').card? slot =
      (r.card? slot).map f := by
  unfold card?
  rw [index_map]
  cases r.index slot with
  | error e => rfl
  | ok i =>
    dsimp only
    rw [Array.getElem?_map]
    cases r.cards[i]? <;> rfl

end Motherboard.Rack
