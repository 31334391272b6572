/-!
# ROM overrides

Built-in firmware can stand in for the ROM of every slot, or of single slots. The mask has sixteen
bits, so a slot above 15 can only be overridden together with all others.
-/

namespace Motherboard

/-- Which slot ROMs are replaced by built-in firmware. -/
structure RomOverrides where
  /-- Every slot ROM and the expansion window are replaced. -/
  internalAll : Bool := false
  /-- Bit `n` is set when the ROM of slot `n` is replaced. -/
  slotMask : UInt16 := 0
  deriving DecidableEq

namespace RomOverrides

/-- Bit of a slot in the mask; slots above 15 have none. -/
def slotBit? (slot : UInt8) : Option UInt16 :=
  if slot < 16 then some (1 <<< slot.toUInt16) else none

/-- The ROM of a slot is replaced. -/
def isInternal (o : RomOverrides) (slot : UInt8) : Bool :=
  o.internalAll || (slotBit? slot).any fun bit => o.slotMask &&& bit != 0

/-- Replaces every slot ROM and the expansion window, or stops doing so. -/
def setAll (o : RomOverrides) (enabled : Bool) : RomOverrides :=
  { o with internalAll := enabled }

/-- Replaces the ROM of one slot, or stops doing so. A slot without a bit is left alone. -/
def setSlot (o : RomOverrides) (slot : UInt8) (enabled : Bool) : RomOverrides :=
  match slotBit? slot with
  | none => o
  | some bit =>
    { o with slotMask := if enabled then o.slotMask ||| bit else o.slotMask &&& ~~~bit }

end RomOverrides

end Motherboard
