import Motherboard.IoPage.Selection

/-!
# The I/O page

One page of the address space is shared out among soft switches, the registers and ROMs of the
cards, and built-in firmware. `IoPage.ownSeat?` names the part of the page itself that answers for an
offset, `IoPageLayout.cardSeat?` the card that does.

A byte cycle first applies the selection rule, then goes to the own part if the offset has one,
attached or not, and else to the card. Looks do not select; where the own part is missing they fall
through to the card below it, and so do pokes, which reach ROM windows and the expansion window only.
-/

namespace Motherboard

/-- Parts of an I/O page that belong to the machine itself. -/
inductive OwnPart where
  /-- The soft switches. -/
  | softSwitches
  /-- The registers of slot 0. -/
  | builtinIo
  /-- Built-in firmware. -/
  | internalRom
  deriving DecidableEq

/-- A composite target for one I/O page. -/
structure IoPage (δ : Type) where
  /-- Layout of the page. -/
  layout : IoPageLayout
  /-- Number of the page's override switches. -/
  switches : Nat
  /-- The soft switches. -/
  softSwitches : Option (Part δ) := none
  /-- The registers of slot 0. -/
  builtinIo : Option (Part δ) := none
  /-- Built-in firmware. -/
  internalRom : Option (Part δ) := none

namespace IoPageLayout

/-- The own part of the page that answers for an offset, with the offset it sees. Built-in firmware
sees page offsets and answers where it replaces a slot ROM or, when it replaces everything, the
expansion window. -/
def ownSeat? (l : IoPageLayout) (overrides : RomOverrides) (offset : UInt32) :
    Option (OwnPart × UInt32) :=
  match l.classify offset with
  | .softSwitch relative => some (.softSwitches, relative)
  | .slotIo slot relative => if slot = 0 then some (.builtinIo, relative) else none
  -- firmware takes its place even where none is attached, and then nobody answers
  | .slotRom slot _ => if overrides.isInternal slot then some (.internalRom, offset) else none
  | .expansion _ => if overrides.internalAll then some (.internalRom, offset) else none
  | .unassigned => none

/-- The slot and region of the card that answers for an offset, with the offset it sees. -/
def cardSeat? (l : IoPageLayout) (owner : Option UInt8) (offset : UInt32) :
    Option (UInt8 × CardRegion × UInt32) :=
  match l.classify offset with
  -- slot 0 is the machine's own
  | .slotIo slot relative => if slot = 0 then none else some (slot, .io, relative)
  | .slotRom slot relative => some (slot, .rom, relative)
  | .expansion relative => owner.map fun slot => (slot, .expansionRom, relative)
  | _ => none

end IoPageLayout

namespace IoPage

variable {δ ω γ : Type}

/-- What an I/O page tells the bus about itself. -/
def capabilities : Capabilities := ⟨false, true, true, true⟩

/-- An own part of the page, if it is attached. -/
def own? (p : IoPage δ) : OwnPart → Option (Part δ)
  | .softSwitches => p.softSwitches
  | .builtinIo => p.builtinIo
  | .internalRom => p.internalRom

/-- The page with an own part attached. -/
def attach (p : IoPage δ) (own : OwnPart) (part : Part δ) : IoPage δ :=
  match own with
  | .softSwitches => { p with softSwitches := some part }
  | .builtinIo => { p with builtinIo := some part }
  | .internalRom => { p with internalRom := some part }

/-- Lets a cycle run on an own part of the page; without the part nothing answers. -/
def onOwn {α : Type} (c : Cycle (Part δ × Board ω) α) (own : OwnPart) :
    Cycle (IoPage δ × Backplane ω γ) (Option α)
  | (p, b) =>
    match p.own? own with
    | none => (.ok none, p, b)
    | some part =>
      let (answer, part, board) := c (part, b.toBoard)
      (answer.map some, p.attach own part, { b with toBoard := board })

variable [Card γ δ ω]

/-- Lets a cycle run on a region of the card in a slot; without a card, or a region, nothing
answers. -/
def onCard {α : Type} (c : Cycle (Part δ × Board ω) α) (slot : UInt8) (region : CardRegion) :
    Cycle (IoPage δ × Backplane ω γ) (Option α)
  | (p, b) =>
    match b.onRegion? slot region fun part board => c (part, board) with
    | none => (.ok none, p, b)
    | some (answer, b) => (answer.map some, p, b)

/-- One byte cycle at a page offset. It needs the rack to itself; then it selects, and then the part
that answers for the offset, if there is one, sees the cycle at its own offset. -/
def cycle {α : Type} (c : UInt32 → Cycle (Part δ × Board ω) α) (offset : UInt32) :
    Cycle (IoPage δ × Backplane ω γ) (Option α)
  | (p, b) =>
    if b.hold = .free then
      let overrides := b.overridesOf p.switches
      -- the window moves first, so that the card which has just been given it may answer
      let (_, b) := b.touch p.layout overrides offset
      match p.layout.ownSeat? overrides offset with
      | some (own, relative) => onOwn (c relative) own (p, b)
      | none =>
        match p.layout.cardSeat? b.rack.owner offset with
        | some (slot, region, relative) => onCard (c relative) slot region (p, b)
        | none => (.ok none, p, b)
    else
      (.error .failed, p, b)

variable [Device δ ω]

/-- Reads a byte; where nothing answers, the floating lines do. -/
def read8 (offset : UInt32) (access : Access) : Cycle (IoPage δ × Backplane ω γ) UInt8 :=
  fun s =>
    match cycle (fun relative => Part.read .byte relative access) offset s with
    | (.ok (some byte), s) => (.ok byte.toUInt8, s)
    -- the page floats by itself, and the bus takes it for an answer
    | (.ok none, p, b) => (.ok (b.floating.value access.address), p, b)
    | (.error e, s) => (.error e, s)

/-- Writes a byte; where nothing answers, it is lost. -/
def write8 (offset : UInt32) (value : UInt8) (access : Access) :
    Cycle (IoPage δ × Backplane ω γ) Unit :=
  (cycle (fun relative => Part.write .byte relative value.toUInt32 access) offset).map fun _ => ()

/-- Looks at a byte of the card that answers for an offset; not while the rack is held
exclusively. -/
def lookAtCard (offset : UInt32) (p : IoPage δ) (b : Backplane ω γ) : Option UInt8 × ω :=
  if b.hold = .exclusive then
    (none, b.host)
  else
    match p.layout.cardSeat? b.rack.owner offset with
    | none => (none, b.host)
    -- what a card shows to a look need not be what it answers with
    | some (slot, region, relative) =>
      match (b.rack.card? slot).bind (Card.lookRegion region) with
      | none => (none, b.host)
      | some part => part.peek relative b.toBoard

/-- Looks at a byte: at the own part of the page if it is attached, else at the card. -/
def peek (offset : UInt32) (p : IoPage δ) (b : Backplane ω γ) : Option UInt8 × ω :=
  match p.layout.ownSeat? (b.overridesOf p.switches) offset with
  | none => p.lookAtCard offset b
  | some (own, relative) =>
    -- the difference from a cycle: a part that is not attached lets the card show through
    match p.own? own with
    | none => p.lookAtCard offset b
    | some part => part.peek relative b.toBoard

/-- Stores a byte in the ROM window or expansion window of a card; not while the rack is held. -/
def pokeCard (offset : UInt32) (value : UInt8) (p : IoPage δ) (b : Backplane ω γ) :
    Bool × IoPage δ × Backplane ω γ :=
  if b.hold = .free then
    match p.layout.cardSeat? b.rack.owner offset with
    -- registers take no pokes
    | none | some (_, .io, _) => (false, p, b)
    | some (slot, region, relative) =>
      match b.onRegion? slot region fun part board => part.poke relative value board with
      | none => (false, p, b)
      | some (stored, b) => (stored, p, b)
  else
    (false, p, b)

/-- Stores a byte without side effects: in the built-in firmware where it is attached and answers,
else in a ROM of the card. Soft switches and registers take no pokes. -/
def poke (offset : UInt32) (value : UInt8) (p : IoPage δ) (b : Backplane ω γ) :
    Bool × IoPage δ × Backplane ω γ :=
  match p.layout.ownSeat? (b.overridesOf p.switches) offset, p.internalRom with
  | some (.internalRom, relative), some part =>
    let (stored, part, board) := part.poke relative value b.toBoard
    (stored, p.attach .internalRom part, { b with toBoard := board })
  | some (.softSwitches, _), _ | some (.builtinIo, _), _ => (false, p, b)
  -- also where firmware is chosen and not attached
  | _, _ => p.pokeCard offset value b

/-- Resets an own part of the page, if it is attached. -/
def resetOwn (own : OwnPart) (p : IoPage δ) (b : Backplane ω γ) : IoPage δ × Backplane ω γ :=
  match p.own? own with
  | none => (p, b)
  | some part =>
    let (part, board) := part.reset b.toBoard
    (p.attach own part, { b with toBoard := board })

/-- Clears the overrides and resets the own parts of the page. Cards are reset by the rack. -/
def reset (p : IoPage δ) (b : Backplane ω γ) : IoPage δ × Backplane ω γ :=
  -- the switches first: a part that is reset afterwards may set them again
  let b := b.changeOverrides p.switches fun _ => {}
  let (p, b) := p.resetOwn .softSwitches b
  let (p, b) := p.resetOwn .builtinIo b
  p.resetOwn .internalRom b

end IoPage

end Motherboard
