/-!
# Layout of an I/O page

An I/O page is cut into soft switches, a block of registers per slot, a ROM window per slot, and one
expansion window that the slots share. `IoPageLayout.classify` tells which of them holds an offset
and where inside it; `IoPageLayout.isWellFormed` says that they follow one another without gaps.
-/

namespace Motherboard

/-- Where the parts of an I/O page lie. Slots are numbered from 0 to `maxSlot`; slot 0 has registers
only. -/
structure IoPageLayout where
  /-- End of the soft switches, which start the page. -/
  softSwitchEnd : UInt32
  /-- Start of the register blocks. -/
  slotIoBase : UInt32
  /-- Size of one register block. -/
  slotIoSize : UInt32
  /-- Size of one ROM window; the window of slot `n` starts at `n` times it. -/
  slotRomSize : UInt32
  /-- Start of the expansion window. -/
  expansionBase : UInt32
  /-- End of the expansion window and of the page. -/
  expansionEnd : UInt32
  /-- The sentinel: touching this offset releases the expansion window. -/
  deselectOffset : UInt32
  /-- Highest slot that the page decodes. -/
  maxSlot : UInt8
  deriving DecidableEq

/-- Part of an I/O page, with the place inside it. -/
inductive PageRegion where
  /-- The soft switches. -/
  | softSwitch (offset : UInt32)
  /-- The register block of a slot. -/
  | slotIo (slot : UInt8) (offset : UInt32)
  /-- The ROM window of a slot. -/
  | slotRom (slot : UInt8) (offset : UInt32)
  /-- The shared expansion window. -/
  | expansion (offset : UInt32)
  /-- No part of the page. -/
  | unassigned
  deriving DecidableEq

namespace IoPageLayout

/-- The layout of the classic page of 4 KiB with seven slots. -/
def classic : IoPageLayout where
  softSwitchEnd := 0x080
  slotIoBase := 0x080
  slotIoSize := 0x10
  slotRomSize := 0x100
  expansionBase := 0x800
  expansionEnd := 0x1000
  deselectOffset := 0xFFF
  maxSlot := 7

/-- Bytes in the page. -/
def span (l : IoPageLayout) : UInt32 :=
  l.expansionEnd

/-- Number of slots decoded, slot 0 included. -/
def slots (l : IoPageLayout) : UInt32 :=
  l.maxSlot.toUInt32 + 1

/-- The parts follow one another without gaps, and the sentinel lies in the expansion window. -/
def isWellFormed (l : IoPageLayout) : Bool :=
  decide (0 < l.maxSlot) &&
    l.softSwitchEnd == l.slotIoBase &&
    decide (0 < l.slotIoSize) &&
    -- words: sums that leave 32 bits wrap, and then parts may overlap
    l.slotIoBase + l.slots * l.slotIoSize == l.slotRomSize &&
    l.slots * l.slotRomSize == l.expansionBase &&
    decide (l.expansionBase < l.expansionEnd) &&
    decide (l.expansionBase ≤ l.deselectOffset) &&
    decide (l.deselectOffset < l.expansionEnd)

/-- The part that holds an offset. -/
def classify (l : IoPageLayout) (offset : UInt32) : PageRegion :=
  if offset < l.softSwitchEnd then
    .softSwitch offset
  else if l.slotIoBase ≤ offset ∧ offset < l.slotIoBase + l.slots * l.slotIoSize then
    let relative := offset - l.slotIoBase
    .slotIo (relative / l.slotIoSize).toUInt8 (relative % l.slotIoSize)
  -- windows are counted from offset zero; window 0 would lie under the parts before
  else if l.slotRomSize ≤ offset ∧ offset < l.expansionBase then
    .slotRom (offset / l.slotRomSize).toUInt8 (offset % l.slotRomSize)
  else if l.expansionBase ≤ offset ∧ offset < l.expansionEnd then
    .expansion (offset - l.expansionBase)
  else
    .unassigned

end IoPageLayout

end Motherboard
