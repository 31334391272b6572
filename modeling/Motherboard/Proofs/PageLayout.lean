import Motherboard.IoPage
import Motherboard.Proofs.Selection

/-!
# The layout of an I/O page in numbers

`IoPageLayout.classify` cuts a page with comparisons and divisions of words. In a contiguous layout it
is inverted by counting: the register block of slot `n` starts `n` blocks above the first one, the ROM
window of slot `n` at `n` times the size of a window, and every offset of the page lies in exactly one
of these parts (`classify_eq_iff`).

A layout is contiguous when it is well formed and its sums fit into words (`isContiguous_iff`). The
second condition is not idle: a sum that wraps can make soft switches that cover the sentinel pass for
contiguous.

With the parts in numbers, `IoPage.Selects` says what touching an offset makes of the expansion window:
the sentinel releases it, the ROM window of an occupied slot hands it over unless firmware replaces the
ROM, and everything else leaves it.
-/

namespace Motherboard

namespace IoPageLayout

/-- The ends of the register blocks and of the ROM windows are words. -/
def SumsFit (l : IoPageLayout) : Prop :=
  l.slotIoBase.toNat + (l.maxSlot.toNat + 1) * l.slotIoSize.toNat < 2 ^ 32 ∧
    (l.maxSlot.toNat + 1) * l.slotRomSize.toNat < 2 ^ 32

/-- The parts of the page follow one another without gaps, counted in numbers. -/
structure IsContiguous (l : IoPageLayout) : Prop where
  slots : 0 < l.maxSlot.toNat
  softSwitches : l.softSwitchEnd.toNat = l.slotIoBase.toNat
  block : 0 < l.slotIoSize.toNat
  blocks : l.slotIoBase.toNat + (l.maxSlot.toNat + 1) * l.slotIoSize.toNat = l.slotRomSize.toNat
  windows : (l.maxSlot.toNat + 1) * l.slotRomSize.toNat = l.expansionBase.toNat
  expansion : l.expansionBase.toNat < l.expansionEnd.toNat
  sentinel : l.expansionBase.toNat ≤ l.deselectOffset.toNat
  sentinelEnd : l.deselectOffset.toNat < l.expansionEnd.toNat

/-- A region of the page holds an offset, with the place inside it, by counting. -/
def Holds (l : IoPageLayout) (offset : UInt32) : PageRegion → Prop
  | .softSwitch relative => offset = relative ∧ offset.toNat < l.softSwitchEnd.toNat
  | .slotIo slot relative =>
    slot.toNat ≤ l.maxSlot.toNat ∧ relative.toNat < l.slotIoSize.toNat ∧
      offset.toNat = l.slotIoBase.toNat + (slot.toNat * l.slotIoSize.toNat + relative.toNat)
  | .slotRom slot relative =>
    0 < slot.toNat ∧ slot.toNat ≤ l.maxSlot.toNat ∧ relative.toNat < l.slotRomSize.toNat ∧
      offset.toNat = slot.toNat * l.slotRomSize.toNat + relative.toNat
  | .expansion relative =>
    offset.toNat < l.expansionEnd.toNat ∧ offset.toNat = l.expansionBase.toNat + relative.toNat
  | .unassigned => l.expansionEnd.toNat ≤ offset.toNat

instance (l : IoPageLayout) : Decidable l.SumsFit :=
  inferInstanceAs (Decidable (_ ∧ _))

instance (l : IoPageLayout) (offset : UInt32) : (region : PageRegion) → Decidable (l.Holds offset region)
  | .softSwitch _ => inferInstanceAs (Decidable (_ ∧ _))
  | .slotIo _ _ => inferInstanceAs (Decidable (_ ∧ _ ∧ _))
  | .slotRom _ _ => inferInstanceAs (Decidable (_ ∧ _ ∧ _ ∧ _))
  | .expansion _ => inferInstanceAs (Decidable (_ ∧ _))
  | .unassigned => inferInstanceAs (Decidable (_ ≤ _))

variable {l : IoPageLayout} {offset : UInt32}

/-- There is one slot more than the number of the last, which is slot 0. -/
theorem toNat_slots (l : IoPageLayout) : l.slots.toNat = l.maxSlot.toNat + 1 := by
  have hlt : l.maxSlot.toNat < 2 ^ 8 := l.maxSlot.toNat_lt
  unfold slots
  rw [UInt32.toNat_add, UInt8.toNat_toUInt32, UInt32.toNat_one]
  omega

/-- If the sum has room in 32 bits, the registers end where they seem to. -/
theorem toNat_blocks (h : l.slotIoBase.toNat + (l.maxSlot.toNat + 1) * l.slotIoSize.toNat < 2 ^ 32) :
    (l.slotIoBase + l.slots * l.slotIoSize).toNat =
      l.slotIoBase.toNat + (l.maxSlot.toNat + 1) * l.slotIoSize.toNat := by
  have hblocks : (l.slots * l.slotIoSize).toNat = (l.maxSlot.toNat + 1) * l.slotIoSize.toNat := by
    rw [UInt32.toNat_mul, toNat_slots, Nat.mod_eq_of_lt (by omega)]
  rw [UInt32.toNat_add, hblocks, Nat.mod_eq_of_lt h]

theorem toNat_windows (h : (l.maxSlot.toNat + 1) * l.slotRomSize.toNat < 2 ^ 32) :
    (l.slots * l.slotRomSize).toNat = (l.maxSlot.toNat + 1) * l.slotRomSize.toNat := by
  rw [UInt32.toNat_mul, toNat_slots, Nat.mod_eq_of_lt h]

/-- A layout is contiguous exactly if it passes the check and the sums of the check have room. Where they
do not, the check passes layouts that overlap. -/
theorem isContiguous_iff (l : IoPageLayout) :
    l.IsContiguous ↔ l.isWellFormed = true ∧ l.SumsFit := by
  constructor
  · intro h
    have hromSize := l.slotRomSize.toNat_lt
    have hexpansion := l.expansionBase.toNat_lt
    have hfits : l.SumsFit := ⟨by rw [h.blocks]; exact hromSize, by rw [h.windows]; exact hexpansion⟩
    refine ⟨?_, hfits⟩
    -- the bounds are turned into natural numbers, where nothing wraps
    simp only [isWellFormed, Bool.and_eq_true, decide_eq_true_eq, beq_iff_eq, UInt8.lt_iff_toNat_lt,
      UInt32.lt_iff_toNat_lt, UInt32.le_iff_toNat_le, ← UInt32.toNat_inj, toNat_blocks hfits.1,
      toNat_windows hfits.2]
    exact ⟨⟨⟨⟨⟨⟨⟨h.slots, h.softSwitches⟩, h.block⟩, h.blocks⟩, h.windows⟩, h.expansion⟩, h.sentinel⟩,
      h.sentinelEnd⟩
  · rintro ⟨hwell, hfits⟩
    simp only [isWellFormed, Bool.and_eq_true, decide_eq_true_eq, beq_iff_eq, UInt8.lt_iff_toNat_lt,
      UInt32.lt_iff_toNat_lt, UInt32.le_iff_toNat_le, ← UInt32.toNat_inj, toNat_blocks hfits.1,
      toNat_windows hfits.2] at hwell
    obtain ⟨⟨⟨⟨⟨⟨⟨hslots, hswitches⟩, hblock⟩, hblocks⟩, hwindows⟩, hexpansion⟩, hsentinel⟩, hend⟩ :=
      hwell
    exact ⟨hslots, hswitches, hblock, hblocks, hwindows, hexpansion, hsentinel, hend⟩

/-- A layout with register blocks so large that the ROM windows behind them do not fit into 32 bits. The
product that ends them wraps around to 0x80. -/
def wrapping : IoPageLayout where
  softSwitchEnd := 0x10
  slotIoBase := 0x10
  slotIoSize := 0x4000000
  slotRomSize := 0x20000010
  expansionBase := 0x80
  expansionEnd := 0x1000
  deselectOffset := 0xFFF
  maxSlot := 7

/-- The check of a layout alone does not see a product that wraps: here the registers of slot 0 cover the
sentinel. -/
example :
    wrapping.isWellFormed = true ∧
      wrapping.classify wrapping.deselectOffset = .slotIo 0 0xFEF := by
  decide

/-! ## Blocks of one size -/

/-- The block with a number and the place in it are found again by dividing. -/
theorem div_mod_of_block {place size relative : UInt32} {n : UInt8}
    (hrelative : relative.toNat < size.toNat)
    (h : place.toNat = n.toNat * size.toNat + relative.toNat) :
    (place / size).toUInt8 = n ∧ place % size = relative := by
  -- the quotient is the number of a slot, so that cutting it to a byte loses nothing
  have hn : n.toNat < 2 ^ 8 := n.toNat_lt
  have hquotient : place.toNat / size.toNat = n.toNat := by
    rw [h, Nat.mul_comm, Nat.mul_add_div (by omega), Nat.div_eq_of_lt hrelative, Nat.add_zero]
  have hremainder : place.toNat % size.toNat = relative.toNat := by
    rw [h, Nat.mul_add_mod_of_lt hrelative]
  constructor
  · apply UInt8.toNat_inj.1
    rw [UInt32.toNat_toUInt8, UInt32.toNat_div, hquotient, Nat.mod_eq_of_lt hn]
  · apply UInt32.toNat_inj.1
    rw [UInt32.toNat_mod, hremainder]

/-- A place below the end of block `last` lies in one of the blocks. -/
theorem exists_block (place size : UInt32) (last : UInt8) (hsize : 0 < size.toNat)
    (h : place.toNat < (last.toNat + 1) * size.toNat) :
    ∃ (n : UInt8) (relative : UInt32), n.toNat ≤ last.toNat ∧ relative.toNat < size.toNat ∧
      place.toNat = n.toNat * size.toNat + relative.toNat := by
  have hlast : last.toNat < 2 ^ 8 := last.toNat_lt
  have hquotient : place.toNat / size.toNat < last.toNat + 1 := (Nat.div_lt_iff_lt_mul hsize).2 h
  have hn : (place / size).toUInt8.toNat = place.toNat / size.toNat := by
    rw [UInt32.toNat_toUInt8, UInt32.toNat_div, Nat.mod_eq_of_lt (by omega)]
  refine ⟨(place / size).toUInt8, place % size, by omega, ?_, ?_⟩
  · rw [UInt32.toNat_mod]
    exact Nat.mod_lt _ hsize
  · rw [hn, UInt32.toNat_mod, Nat.mul_comm]
    exact (Nat.div_add_mod _ _).symm

/-- A place in one of several blocks of the same size lies before their end. -/
theorem block_lt {n last size relative : Nat} (hn : n ≤ last) (hrelative : relative < size) :
    n * size + relative < (last + 1) * size := by
  have hle : (n + 1) * size ≤ (last + 1) * size := Nat.mul_le_mul_right size (by omega)
  rw [Nat.add_mul n 1] at hle
  omega

/-! ## Classification -/

/-- The region that holds an offset is the one it is classified as. -/
theorem classify_of_holds (h : l.IsContiguous) {region : PageRegion} (hin : l.Holds offset region) :
    l.classify offset = region := by
  have hblocks := toNat_blocks (l := l) (by rw [h.blocks]; exact l.slotRomSize.toNat_lt)
  have hswitches := h.softSwitches
  have hends := h.blocks
  have hwindows := h.windows
  unfold classify
  -- in numbers every comparison is decided by where the part starts and ends
  simp only [UInt32.lt_iff_toNat_lt, UInt32.le_iff_toNat_le, hblocks]
  cases region with
  | softSwitch relative =>
    obtain ⟨rfl, hlt⟩ := hin
    rw [if_pos hlt]
  | slotIo slot relative =>
    obtain ⟨hslot, hrelative, hoffset⟩ := hin
    have hend := block_lt hslot hrelative
    have hle : l.slotIoBase ≤ offset := UInt32.le_iff_toNat_le.2 (by omega)
    have hplace : (offset - l.slotIoBase).toNat =
        slot.toNat * l.slotIoSize.toNat + relative.toNat := by
      rw [UInt32.toNat_sub_of_le _ _ hle]
      omega
    obtain ⟨hquotient, hremainder⟩ := div_mod_of_block hrelative hplace
    rw [if_neg (by omega), if_pos (by omega), hquotient, hremainder]
  | slotRom slot relative =>
    obtain ⟨hpos, hslot, hrelative, hoffset⟩ := hin
    have hend := block_lt hslot hrelative
    -- slot 0 has no window, so that the windows start where the register blocks end
    have hstart : 1 * l.slotRomSize.toNat ≤ slot.toNat * l.slotRomSize.toNat :=
      Nat.mul_le_mul_right _ hpos
    obtain ⟨hquotient, hremainder⟩ := div_mod_of_block hrelative hoffset
    rw [if_neg (by omega), if_neg (by omega), if_pos (by omega), hquotient, hremainder]
  | expansion relative =>
    obtain ⟨hlt, hoffset⟩ := hin
    have hle : l.expansionBase ≤ offset := UInt32.le_iff_toNat_le.2 (by omega)
    have hrelative : offset - l.expansionBase = relative := by
      apply UInt32.toNat_inj.1
      rw [UInt32.toNat_sub_of_le _ _ hle]
      omega
    have hwindow : 1 * l.slotRomSize.toNat ≤ (l.maxSlot.toNat + 1) * l.slotRomSize.toNat :=
      Nat.mul_le_mul_right _ (by omega)
    rw [if_neg (by omega), if_neg (by omega), if_neg (by omega), if_pos (by omega), hrelative]
  | unassigned =>
    have hpast : l.expansionEnd.toNat ≤ offset.toNat := hin
    have hexpansion := h.expansion
    have hwindow : 1 * l.slotRomSize.toNat ≤ (l.maxSlot.toNat + 1) * l.slotRomSize.toNat :=
      Nat.mul_le_mul_right _ (by omega)
    rw [if_neg (by omega), if_neg (by omega), if_neg (by omega), if_neg (by omega)]

/-- The parts of a contiguous page leave no gap. -/
theorem exists_holds (h : l.IsContiguous) (offset : UInt32) :
    ∃ region, l.Holds offset region := by
  have hswitches := h.softSwitches
  have hends := h.blocks
  have hwindows := h.windows
  have hblock := h.block
  have hwindow : 0 < (l.maxSlot.toNat + 1) * l.slotIoSize.toNat := Nat.mul_pos (by omega) hblock
  -- up the page: where one part ends the next one starts
  by_cases hsoft : offset.toNat < l.softSwitchEnd.toNat
  · exact ⟨.softSwitch offset, rfl, hsoft⟩
  by_cases hio : offset.toNat < l.slotRomSize.toNat
  · have hle : l.slotIoBase ≤ offset := UInt32.le_iff_toNat_le.2 (by omega)
    have hplace := UInt32.toNat_sub_of_le _ _ hle
    obtain ⟨slot, relative, hslot, hrelative, heq⟩ :=
      exists_block (offset - l.slotIoBase) l.slotIoSize l.maxSlot hblock (by omega)
    exact ⟨.slotIo slot relative, hslot, hrelative, by omega⟩
  by_cases hrom : offset.toNat < l.expansionBase.toNat
  · obtain ⟨slot, relative, hslot, hrelative, heq⟩ :=
      exists_block offset l.slotRomSize l.maxSlot (by omega) (by omega)
    refine ⟨.slotRom slot relative, ?_, hslot, hrelative, heq⟩
    -- in the window of slot 0 lie the soft switches and the register blocks
    apply Nat.pos_of_ne_zero
    intro hzero
    rw [hzero, Nat.zero_mul] at heq
    omega
  by_cases hexpansion : offset.toNat < l.expansionEnd.toNat
  · have hle : l.expansionBase ≤ offset := UInt32.le_iff_toNat_le.2 (by omega)
    have hplace := UInt32.toNat_sub_of_le _ _ hle
    exact ⟨.expansion (offset - l.expansionBase), hexpansion, by omega⟩
  · exact ⟨.unassigned, Nat.le_of_not_lt hexpansion⟩

/-- In a contiguous layout every offset lies in exactly one part of the page, and classifying finds
it. -/
theorem classify_eq_iff (h : l.IsContiguous) {region : PageRegion} :
    l.classify offset = region ↔ l.Holds offset region := by
  constructor
  · rintro rfl
    obtain ⟨region, hin⟩ := exists_holds h offset
    rw [classify_of_holds h hin]
    exact hin
  · exact classify_of_holds h

/-- The sentinel is a place of the expansion window. -/
theorem classify_deselectOffset (h : l.IsContiguous) :
    l.classify l.deselectOffset = .expansion (l.deselectOffset - l.expansionBase) := by
  have hle : l.expansionBase ≤ l.deselectOffset := UInt32.le_iff_toNat_le.2 h.sentinel
  have hplace := UInt32.toNat_sub_of_le _ _ hle
  have hsentinel := h.sentinel
  exact classify_of_holds h ⟨h.sentinelEnd, by omega⟩

end IoPageLayout

/-! ## Touching an offset -/

namespace IoPage

variable {ω γ δ : Type} [Card γ δ ω] {p : IoPage δ} {b : Backplane ω γ} {offset : UInt32}

/-- What touching a page offset makes of the owner of the expansion window: the sentinel releases the
window, the ROM window of an occupied slot hands it to that slot unless built-in firmware replaces the
ROM, and everything else leaves the owner. -/
structure Selects (p : IoPage δ) (b : Backplane ω γ) (offset : UInt32) (owner : Option UInt8) :
    Prop where
  sentinel : offset = p.layout.deselectOffset → owner = none
  window : ∀ slot relative, p.layout.Holds offset (.slotRom slot relative) →
    (b.rack.card? slot).isSome = true → (b.overridesOf p.switches).isInternal slot = false →
      owner = some slot
  elsewhere : offset ≠ p.layout.deselectOffset →
    (∀ slot relative, p.layout.Holds offset (.slotRom slot relative) →
      (b.rack.card? slot).isSome = true → (b.overridesOf p.switches).isInternal slot = true) →
      owner = b.rack.owner

/-- A touch moves the window as the layout, the switches and the cards in the slots say. -/
theorem selects_of_touch (h : p.layout.IsContiguous) :
    p.Selects b offset
      ((b.touch p.layout (b.overridesOf p.switches) offset).1.apply b.rack.owner) := by
  refine ⟨?_, ?_, ?_⟩
  · -- the sentinel lies in the expansion window, where nothing else selects
    rintro rfl
    unfold Backplane.touch
    rw [IoPageLayout.classify_deselectOffset h]
    dsimp only
    rw [if_pos rfl]
    rfl
  · intro slot relative hin hcard hown
    unfold Backplane.touch
    rw [IoPageLayout.classify_of_holds h hin]
    dsimp only
    rw [if_neg (by rw [hown]; decide)]
    -- whether the slot snoops depends on its being occupied
    have hsnoop := b.snoop_fst slot
    rw [hcard] at hsnoop
    rcases hafter : b.snoop slot with ⟨_ | _, after⟩
    · rw [hafter] at hsnoop
      cases hsnoop
    · rfl
  · intro hplace hrest
    unfold Backplane.touch
    cases hregion : p.layout.classify offset with
    | expansion relative =>
      dsimp only
      rw [if_neg hplace]
      rfl
    | slotRom slot relative =>
      dsimp only
      split_ifs with hinternal
      · rfl
      · -- the window of an empty slot
        have hin := (IoPageLayout.classify_eq_iff h).1 hregion
        have hsnoop := b.snoop_fst slot
        rcases hafter : b.snoop slot with ⟨_ | _, after⟩
        · rfl
        · rw [hafter] at hsnoop
          exact absurd (hrest slot relative hin hsnoop.symm) hinternal
    | _ => rfl

end IoPage

end Motherboard
