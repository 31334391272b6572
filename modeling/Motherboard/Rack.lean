import Motherboard.Rack.Card

/-!
# The card rack

Slots are numbered from one and hold at most one card each. One card at a time may own the expansion
window that all slots share.
-/

namespace Motherboard

/-- Why the rack refuses. -/
inductive SlotError where
  /-- There is no such slot. -/
  | outOfRange (slot max : UInt8)
  /-- The slot has a card already. -/
  | occupied (slot : UInt8)
  /-- The slot has no card. -/
  | empty (slot : UInt8)
  deriving DecidableEq

/-- The error in words. -/
def SlotError.message : SlotError → String
  | .outOfRange slot max =>
    "slot " ++ toString slot.toNat ++ " outside 1..=" ++ toString max.toNat
  | .occupied slot => "slot " ++ toString slot.toNat ++ " is occupied"
  | .empty slot => "slot " ++ toString slot.toNat ++ " is empty"

/-- Slots and the owner of the expansion window. -/
structure Rack (γ : Type) where
  /-- The cards, from slot one on. -/
  cards : Array (Option γ)
  /-- The slot whose card owns the expansion window. -/
  owner : Option UInt8 := none

namespace Rack

variable {γ : Type}

/-- `count` empty slots. -/
def empty (count : UInt8) : Rack γ where
  cards := Array.replicate count.toNat none

/-- Number of slots, which is the highest slot number. -/
def slotCount (r : Rack γ) : UInt8 :=
  r.cards.size.toUInt8

/-- Place of a slot among the cards. -/
def index (r : Rack γ) (slot : UInt8) : Except SlotError Nat :=
  if slot = 0 ∨ r.slotCount < slot then
    .error (.outOfRange slot r.slotCount)
  else
    .ok (slot - 1).toNat

/-- The card in a slot. -/
def card? (r : Rack γ) (slot : UInt8) : Option γ :=
  match r.index slot with
  | .ok i => (r.cards[i]?).join
  | .error _ => none

/-- The rack with the content of a slot replaced. -/
def setCard (r : Rack γ) (slot : UInt8) (card : Option γ) : Rack γ :=
  match r.index slot with
  | .ok i => { r with cards := r.cards.setIfInBounds i card }
  | .error _ => r

/-- The slots that hold a card, in increasing order. -/
def occupiedSlots (r : Rack γ) : List UInt8 :=
  ((List.range r.cards.size).map fun i => i.toUInt8 + 1).filter fun slot => (r.card? slot).isSome

end Rack

end Motherboard
