import Motherboard.Rack
import Motherboard.Trace

/-!
# The backplane

The backplane is everything that the targets of a bus share: the board, the rack of cards, and the
observer. Selecting a card hands the expansion window over, and the old owner hears of it before the
new one. A change of owner is reported to the trace; selecting the owner again and releasing a free
window change nothing and tell nobody.

Somebody may hold the rack: exclusively, when nobody else may touch it, or shared, when others may
look but not change. The operations here are those of the holder; who asks first is up to the
callers.
-/

namespace Motherboard

/-- Who holds the rack. -/
inductive Hold where
  /-- Nobody. -/
  | free
  /-- Somebody who looks. -/
  | shared
  /-- Somebody who changes. -/
  | exclusive
  deriving DecidableEq

/-- What the targets of a bus share. -/
structure Backplane (ω γ : Type) extends Board ω where
  /-- The cards. -/
  rack : Rack γ
  /-- Who holds the rack. -/
  hold : Hold := .free
  /-- The observer. -/
  trace : Trace := {}

namespace Backplane

variable {ω γ δ : Type} [Card γ δ ω]

/-- Tells the card in a slot something; an empty slot hears nothing. -/
def tell (b : Backplane ω γ) (slot : UInt8) (news : γ → ω → γ × ω) : Backplane ω γ :=
  match b.rack.card? slot with
  | none => b
  | some card =>
    let (card, host) := news card b.host
    { b with rack := b.rack.setCard slot (some card), host := host }

/-- Changes the owner of the expansion window and reports the change. -/
def changeOwner (b : Backplane ω γ) (owner : Option UInt8) : Backplane ω γ :=
  { b with
    rack := { b.rack with owner := owner }
    trace := b.trace.emit (.expansion b.rack.owner owner) }

/-- Takes the expansion window away from its owner, if it has one. -/
def releaseWindow (b : Backplane ω γ) : Backplane ω γ :=
  match b.rack.owner with
  | none => b
  | some owner => (b.tell owner Card.deselected).changeOwner none

/-- Puts a card into an empty slot. -/
def installCard (b : Backplane ω γ) (slot : UInt8) (card : γ) :
    Except SlotError Unit × Backplane ω γ :=
  match b.rack.index slot with
  | .error e => (.error e, b)
  | .ok _ =>
    match b.rack.card? slot with
    | some _ => (.error (.occupied slot), b)
    | none =>
      let (card, host) := Card.installed slot card b.host
      (.ok (), { b with rack := b.rack.setCard slot (some card), host := host })

/-- Takes the card out of a slot; if it owns the expansion window, the window is released first. -/
def removeCard (b : Backplane ω γ) (slot : UInt8) : Except SlotError γ × Backplane ω γ :=
  match b.rack.index slot with
  | .error e => (.error e, b)
  | .ok _ =>
    -- also when the slot is empty, which it is not if it owns the window
    let b := if b.rack.owner = some slot then b.releaseWindow else b
    match b.rack.card? slot with
    | none => (.error (.empty slot), b)
    | some card => (.ok card, { b with rack := b.rack.setCard slot none })

/-- Lets something happen to the part of a card that answers for a region; none when the slot has no
card or the card no such part. -/
def onRegion? {α : Type} (b : Backplane ω γ) (slot : UInt8) (region : CardRegion)
    (f : Part δ → Board ω → α × Part δ × Board ω) : Option (α × Backplane ω γ) :=
  match b.rack.card? slot with
  | none => none
  | some card =>
    (Card.region region card).map fun part =>
      let (a, part, board) := f part b.toBoard
      (a, { b with
        toBoard := board
        rack := b.rack.setCard slot (some (Card.setRegion region part card)) })

/-- Gives the expansion window to the card in a slot. -/
def selectSlot (b : Backplane ω γ) (slot : UInt8) : Except SlotError Unit × Backplane ω γ :=
  match b.rack.index slot with
  | .error e => (.error e, b)
  | .ok _ =>
    if (b.rack.card? slot).isNone then
      (.error (.empty slot), b)
    -- selecting the owner again tells nobody
    else if b.rack.owner = some slot then
      (.ok (), b)
    else
      -- the old owner is told first, while it is still the owner
      let told :=
        match b.rack.owner with
        | none => b
        | some owner => b.tell owner Card.deselected
      (.ok (), (told.tell slot Card.selected).changeOwner (some slot))

/-- What touching the ROM window of a slot does to the expansion window: the card there gets it. The
answer tells whether the slot owns the window afterwards. -/
def snoop (b : Backplane ω γ) (slot : UInt8) : Bool × Backplane ω γ :=
  match b.selectSlot slot with
  | (.ok (), b) => (true, b)
  | (.error _, b) => (false, b)

/-- Releases the expansion window and resets every card, in the order of the slots. -/
def resetCards (b : Backplane ω γ) : Backplane ω γ :=
  -- the slots are counted after the release, which empties none
  let b := b.releaseWindow
  b.rack.occupiedSlots.foldl (fun b slot => b.tell slot Card.reset) b

end Backplane

end Motherboard
