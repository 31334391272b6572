import Motherboard.Device.Part

/-!
# Cards

A card sits in a slot of the rack. It may answer for regions of the I/O page, each with a part of its
own, and it is told when it is put into a slot and when it gets or loses the expansion window.
-/

namespace Motherboard

/-- Parts of the I/O page that a card may answer for. -/
inductive CardRegion where
  /-- The registers of its slot. -/
  | io
  /-- The ROM window of its slot. -/
  | rom
  /-- The shared expansion window, while the card owns it. -/
  | expansionRom
  deriving DecidableEq

/-- Types of cards. Only a name has to be given: a card answers for no region and ignores what it is
told unless it says otherwise. What a card is told may change its own state and the host's. -/
class Card (γ : Type) (δ ω : outParam Type) where
  /-- Short name. -/
  name : γ → String
  /-- The part that answers for a region. -/
  region : CardRegion → γ → Option (Part δ) := fun _ _ => none
  /-- The card with the part that answers for a region replaced. -/
  setRegion : CardRegion → Part δ → γ → γ := fun _ _ card => card
  /-- The part that answers looks at a region. -/
  lookRegion : CardRegion → γ → Option (Part δ) := fun _ _ => none
  /-- The card has been put into a slot. -/
  installed : UInt8 → γ → ω → γ × ω := fun _ card host => (card, host)
  /-- The card has got the expansion window. -/
  selected : γ → ω → γ × ω := fun card host => (card, host)
  /-- The card has lost the expansion window. -/
  deselected : γ → ω → γ × ω := fun card host => (card, host)
  /-- Returns the card to power-on. -/
  reset : γ → ω → γ × ω := fun card host => (card, host)

end Motherboard
