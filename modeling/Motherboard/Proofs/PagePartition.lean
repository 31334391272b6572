import Motherboard.Proofs.PageLayout

/-!
# The parts of an I/O page

The parts that `IoPageLayout.classify` finds partition the page. Each part has its places
(`IoPageLayout.HasPlace`), each place has an offset (`IoPageLayout.offsetOf`), and classifying an offset of
the page finds the one place that has it. Past the end of the page there is nothing.

The decoder counts with words, and it cuts the number of a slot to eight bits. `IoPageLayout.classify?` is
the decoder that gives up where a result does not fit or a divisor is zero; in a contiguous layout it never
does.

* `classify?_eq` — the decoder that may give up agrees with the one that does not.
* `classify_eq_iff_offsetOf` — a place is recovered from its offset, and the offset from its place.
* `partitions_of_isWellFormed` — all of it, from the check of a layout.
-/

namespace Motherboard

namespace IoPageLayout

/-! ## Counting that may give up -/

/-- The sum of two words; none when it is no word. -/
def sum? (x y : UInt32) : Option UInt32 :=
  if x.toNat + y.toNat < 2 ^ 32 then some (x + y) else none

/-- The product of two words; none when it is no word. -/
def product? (x y : UInt32) : Option UInt32 :=
  if x.toNat * y.toNat < 2 ^ 32 then some (x * y) else none

/-- The difference of two words; none when it is no word. -/
def difference? (x y : UInt32) : Option UInt32 :=
  if y.toNat ≤ x.toNat then some (x - y) else none

/-- Among blocks of one size, the number of the block that holds a place, and the place in it; none when
the size is zero or the number is no slot number. -/
def blockAt? (place size : UInt32) : Option (UInt8 × UInt32) :=
  if 0 < size.toNat ∧ place.toNat / size.toNat < 2 ^ 8 then
    some ((place / size).toUInt8, place % size)
  else
    none

/-- The part that holds an offset; none when something on the way cannot be counted. -/
def classify? (l : IoPageLayout) (offset : UInt32) : Option PageRegion :=
  if offset < l.softSwitchEnd then
    some (.softSwitch offset)
  else do
    let slots ← sum? l.maxSlot.toUInt32 1
    let blocks ← product? slots l.slotIoSize
    let blocksEnd ← sum? l.slotIoBase blocks
    if l.slotIoBase ≤ offset ∧ offset < blocksEnd then
      let relative ← difference? offset l.slotIoBase
      let (slot, place) ← blockAt? relative l.slotIoSize
      return .slotIo slot place
    else if l.slotRomSize ≤ offset ∧ offset < l.expansionBase then
      let (slot, place) ← blockAt? offset l.slotRomSize
      return .slotRom slot place
    else if l.expansionBase ≤ offset ∧ offset < l.expansionEnd then
      let relative ← difference? offset l.expansionBase
      return .expansion relative
    else
      return .unassigned

variable {l : IoPageLayout} {offset : UInt32} {region : PageRegion}

theorem difference?_eq {x y : UInt32} (h : y ≤ x) : difference? x y = some (x - y) :=
  if_pos (UInt32.le_iff_toNat_le.1 h)

/-- A place below the end of block `last` lies in a block with a slot number. -/
theorem blockAt?_eq {place size : UInt32} {last : UInt8} (hsize : 0 < size.toNat)
    (h : place.toNat < (last.toNat + 1) * size.toNat) :
    blockAt? place size = some ((place / size).toUInt8, place % size) := by
  have hlast : last.toNat < 2 ^ 8 := last.toNat_lt
  have hquotient : place.toNat / size.toNat < last.toNat + 1 := (Nat.div_lt_iff_lt_mul hsize).2 h
  exact if_pos ⟨hsize, by omega⟩

theorem IsContiguous.slotRomSize_pos (h : l.IsContiguous) : 0 < l.slotRomSize.toNat := by
  have hblocks : 0 < (l.maxSlot.toNat + 1) * l.slotIoSize.toNat := Nat.mul_pos (by omega) h.block
  have hends := h.blocks
  omega

/-- Classifying with checks finds what classifying without them does: no division is by zero and no
difference below it. -/
theorem classify?_eq (h : l.IsContiguous) (offset : UInt32) :
    l.classify? offset = some (l.classify offset) := by
  have hfits := ((isContiguous_iff l).1 h).2
  have hslots := toNat_slots l
  have hlast : l.maxSlot.toNat < 2 ^ 8 := l.maxSlot.toNat_lt
  have hromSize : l.slotRomSize.toNat < 2 ^ 32 := l.slotRomSize.toNat_lt
  have hends := h.blocks
  have hblocks : (l.slots * l.slotIoSize).toNat = (l.maxSlot.toNat + 1) * l.slotIoSize.toNat := by
    rw [UInt32.toNat_mul, hslots, Nat.mod_eq_of_lt (by omega)]
  have hsum : sum? l.maxSlot.toUInt32 1 = some l.slots :=
    if_pos (by rw [UInt8.toNat_toUInt32, UInt32.toNat_one]; omega)
  have hproduct : product? l.slots l.slotIoSize = some (l.slots * l.slotIoSize) :=
    if_pos (by rw [hslots]; omega)
  have hblocksEnd : sum? l.slotIoBase (l.slots * l.slotIoSize) =
      some (l.slotIoBase + l.slots * l.slotIoSize) :=
    if_pos (by rw [hblocks]; exact hfits.1)
  unfold classify? classify
  rw [hsum, Option.bind_eq_bind, Option.bind_some, hproduct, Option.bind_some, hblocksEnd,
    Option.bind_some]
  -- both count the same end of the blocks, so that they choose the same part
  split_ifs with hsoft hio hrom hwindow
  · rfl
  · -- blocks of the slots: below the end of the last one
    have hle := UInt32.le_iff_toNat_le.1 hio.1
    have hplace := UInt32.toNat_sub_of_le _ _ hio.1
    have hend := UInt32.lt_iff_toNat_lt.1 hio.2
    rw [toNat_blocks hfits.1] at hend
    have hin : (offset - l.slotIoBase).toNat < (l.maxSlot.toNat + 1) * l.slotIoSize.toNat := by omega
    rw [difference?_eq hio.1, Option.bind_some, blockAt?_eq h.block hin]
    rfl
  · -- ROM windows: the expansion window begins where the last of them ends
    have hend := UInt32.lt_iff_toNat_lt.1 hrom.2
    rw [← h.windows] at hend
    rw [blockAt?_eq h.slotRomSize_pos hend]
    rfl
  · rw [difference?_eq hwindow.1]
    rfl
  · rfl

/-! ## Places and offsets -/

/-- The page has this place. -/
def HasPlace (l : IoPageLayout) : PageRegion → Prop
  | .softSwitch relative => relative.toNat < l.softSwitchEnd.toNat
  | .slotIo slot relative => slot.toNat ≤ l.maxSlot.toNat ∧ relative.toNat < l.slotIoSize.toNat
  | .slotRom slot relative =>
    1 ≤ slot.toNat ∧ slot.toNat ≤ l.maxSlot.toNat ∧ relative.toNat < l.slotRomSize.toNat
  | .expansion relative => l.expansionBase.toNat + relative.toNat < l.expansionEnd.toNat
  | .unassigned => False

/-- The offset of a place, by counting. Outside the page there are no places. -/
def offsetOf (l : IoPageLayout) : PageRegion → Nat
  | .softSwitch relative => relative.toNat
  | .slotIo slot relative =>
    l.slotIoBase.toNat + slot.toNat * l.slotIoSize.toNat + relative.toNat
  | .slotRom slot relative => slot.toNat * l.slotRomSize.toNat + relative.toNat
  | .expansion relative => l.expansionBase.toNat + relative.toNat
  | .unassigned => l.span.toNat

/-- An offset of the page lies in a part of it when the part has a place with this offset. -/
theorem holds_iff (hlt : offset < l.span) :
    l.Holds offset region ↔ l.HasPlace region ∧ l.offsetOf region = offset.toNat := by
  have hin : offset.toNat < l.expansionEnd.toNat := UInt32.lt_iff_toNat_lt.1 hlt
  unfold Holds HasPlace offsetOf
  cases region with
  | softSwitch relative =>
    dsimp only
    rw [← UInt32.toNat_inj]
    omega
  -- an offset of the page is never unassigned
  | unassigned => exact iff_of_false (Nat.not_le_of_lt hin) fun h => h.1
  | _ =>
    dsimp only
    omega

/-- A region is where an offset belongs exactly if the offset is where the region is. -/
theorem classify_eq_iff_offsetOf (h : l.IsContiguous) (hlt : offset < l.span) :
    l.classify offset = region ↔ l.HasPlace region ∧ l.offsetOf region = offset.toNat := by
  rw [classify_eq_iff h, holds_iff hlt]

/-- What is past the end of the layout, and nothing else, belongs nowhere. -/
theorem classify_eq_unassigned_iff (h : l.IsContiguous) :
    l.classify offset = .unassigned ↔ l.span ≤ offset := by
  rw [classify_eq_iff h, UInt32.le_iff_toNat_le]
  rfl

/-- The places of a layout lie before its end. -/
theorem offsetOf_lt_span (h : l.IsContiguous) (hplace : l.HasPlace region) :
    l.offsetOf region < l.span.toNat := by
  have hswitches := h.softSwitches
  have hends := h.blocks
  have hwindows := h.windows
  have hexpansion : l.expansionBase.toNat < l.span.toNat := h.expansion
  -- slot 0 has no window: the blocks of the slots end where the window of slot 1 begins
  have hwindow : 1 * l.slotRomSize.toNat ≤ (l.maxSlot.toNat + 1) * l.slotRomSize.toNat :=
    Nat.mul_le_mul_right _ (by omega)
  unfold offsetOf
  cases region with
  | softSwitch relative =>
    have hrelative : relative.toNat < l.softSwitchEnd.toNat := hplace
    dsimp only
    omega
  | slotIo slot relative =>
    have hend := block_lt hplace.1 hplace.2
    dsimp only
    omega
  | slotRom slot relative =>
    have hend := block_lt hplace.2.1 hplace.2.2
    dsimp only
    omega
  | expansion relative => exact hplace
  | unassigned => exact hplace.elim

/-- Every place of the page is found at one offset of the page, and at no other. -/
theorem existsUnique_offset (h : l.IsContiguous) (hplace : l.HasPlace region) :
    ∃! offset, offset < l.span ∧ l.classify offset = region := by
  have hlt := offsetOf_lt_span h hplace
  -- the end of the page is a word, and so is every offset below it
  have hword : l.span.toNat < 2 ^ 32 := l.span.toNat_lt
  have hoffset : (l.offsetOf region).toUInt32.toNat = l.offsetOf region := toNat_toUInt32 (by omega)
  have hin : (l.offsetOf region).toUInt32 < l.span := UInt32.lt_iff_toNat_lt.2 (by omega)
  refine ⟨(l.offsetOf region).toUInt32, ⟨hin, ?_⟩, ?_⟩
  · exact (classify_eq_iff_offsetOf h hin).2 ⟨hplace, hoffset.symm⟩
  · rintro offset ⟨hoffset', hregion⟩
    apply UInt32.toNat_inj.1
    rw [hoffset, ((classify_eq_iff_offsetOf h hoffset').1 hregion).2]

/-! ## Layouts that are accepted -/

/-- The parts that classifying finds partition the page. -/
structure Partitions (l : IoPageLayout) : Prop where
  /-- Nothing is divided by zero, no slot number is cut, and everything counted on the way fits. -/
  exact : ∀ offset, l.classify? offset = some (l.classify offset)
  /-- There is nothing past the end of the page, and only there. -/
  unassigned : ∀ offset, l.classify offset = .unassigned ↔ l.span ≤ offset
  /-- An offset of the page is classified as the one place that has it. -/
  recovered : ∀ offset, offset < l.span → ∀ region,
    l.classify offset = region ↔ l.HasPlace region ∧ l.offsetOf region = offset.toNat
  /-- Every place of the page has one offset. -/
  hit : ∀ region, l.HasPlace region → ∃! offset, offset < l.span ∧ l.classify offset = region
  /-- The sentinel lies in the expansion window. -/
  sentinel : ∃ relative, l.classify l.deselectOffset = .expansion relative

/-- **A layout divides its page.** If the sums of its check have room in 32 bits, each offset of the page
has one region and one place in it, and each place has one offset; nothing is cut off on the way, and the
sentinel lies in the window. -/
theorem partitions_of_isWellFormed (l : IoPageLayout) (hwell : l.isWellFormed = true)
    (hfits : l.SumsFit) : l.Partitions := by
  have h : l.IsContiguous := (isContiguous_iff l).2 ⟨hwell, hfits⟩
  exact
    { exact := classify?_eq h
      unassigned := fun _ => classify_eq_unassigned_iff h
      recovered := fun _ hlt _ => classify_eq_iff_offsetOf h hlt
      hit := fun _ hplace => existsUnique_offset h hplace
      sentinel := ⟨_, classify_deselectOffset h⟩ }

/-- A page of 256 slots, as many as there are slot numbers. -/
def widest : IoPageLayout where
  softSwitchEnd := 0x40
  slotIoBase := 0x40
  slotIoSize := 1
  slotRomSize := 0x140
  expansionBase := 0x14000
  expansionEnd := 0x14800
  deselectOffset := 0x147FF
  maxSlot := 255

/-- The widest layout there is, with 256 slots. -/
theorem partitions_of_isWellFormed_widest :
    widest.isWellFormed = true ∧ widest.SumsFit ∧ widest.Partitions ∧
      widest.classify 0x13FFF = .slotRom 255 0x13F :=
  ⟨by decide, by decide, partitions_of_isWellFormed widest (by decide) (by decide), by decide⟩

end IoPageLayout

end Motherboard
