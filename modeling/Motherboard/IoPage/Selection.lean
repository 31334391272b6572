import Motherboard.Backplane
import Motherboard.IoPage.Layout

/-!
# Selection by touch

Touching the ROM window of a slot, in whatever way, gives the expansion window to the card in that
slot; touching the sentinel offset releases it. A slot whose ROM is replaced by built-in firmware is
never selected so. `Backplane.touch` is the one rule, used by the I/O page and by traps that stand
in for an access.
-/

namespace Motherboard

/-- What touching an offset did to the expansion window. -/
inductive SelectionEffect where
  /-- Nothing. -/
  | untouched
  /-- The sentinel released it. -/
  | deselected
  /-- The card in a slot has it. -/
  | selected (slot : UInt8)
  deriving DecidableEq

namespace Backplane

variable {ω γ δ : Type}

/-- The overrides of an I/O page, by the number of its switches. -/
def overridesOf (b : Backplane ω γ) (switches : Nat) : RomOverrides :=
  b.overrides.getD switches {}

/-- Changes the overrides of an I/O page. -/
def changeOverrides (b : Backplane ω γ) (switches : Nat) (f : RomOverrides → RomOverrides) :
    Backplane ω γ :=
  { b with overrides := b.overrides.modify switches f }

variable [Card γ δ ω]

/-- What touching a page offset does to the expansion window. -/
def touch (b : Backplane ω γ) (layout : IoPageLayout) (overrides : RomOverrides)
    (offset : UInt32) : SelectionEffect × Backplane ω γ :=
  match layout.classify offset with
  | .expansion _ =>
    -- the rest of the window belongs to the owner and moves nothing
    if offset = layout.deselectOffset then (.deselected, b.releaseWindow) else (.untouched, b)
  | .slotRom slot _ =>
    -- firmware hides the card from its own window
    if overrides.isInternal slot then
      (.untouched, b)
    else
      match b.snoop slot with
      | (true, b) => (.selected slot, b)
      -- an empty slot takes the window from nobody
      | (false, b) => (.untouched, b)
  | _ => (.untouched, b)

end Backplane

/-- Where an I/O page lies on the bus. -/
structure IoWindow where
  /-- Address of offset zero. -/
  base : UInt32
  /-- Layout of the page. -/
  layout : IoPageLayout
  /-- Number of the page's override switches. -/
  switches : Nat
  deriving DecidableEq

namespace IoWindow

/-- Page offset of an address, when it lies in the page. -/
def offset? (w : IoWindow) (address : UInt32) : Option UInt32 :=
  if w.base ≤ address ∧ address - w.base < w.layout.span then some (address - w.base) else none

/-- What touching an address does to the expansion window. -/
def touch {ω γ δ : Type} [Card γ δ ω] (w : IoWindow) (address : UInt32) (b : Backplane ω γ) :
    SelectionEffect × Backplane ω γ :=
  match w.offset? address with
  | none => (.untouched, b)
  | some offset => b.touch w.layout (b.overridesOf w.switches) offset

end IoWindow

end Motherboard
