import Motherboard.Proofs.Decoders
import Motherboard.Proofs.PageLayout

/-!
# Routing inside an I/O page

What a byte access does to an I/O page, over whole runs in which the page is read and written, cards
come and go, and override switches are thrown, while nobody holds the rack.

Each access selects first, by its offset alone (`IoPage.Selects`), and finds its seat afterwards: the
expansion window already belongs to its new owner. `IoPageLayout.Serves` lists who serves an offset, a
case for each kind of place in the page; at most one seat does (`seat?_of_serves`). If a part is
attached there, it gets the one cycle, and its answer is that of the access; if not, a read sees the
floating lines and a write is lost. Nothing else has changed (`Routes`).

The proof goes by what one access does (`routes_of_free`) and by what every operation of a run keeps:
the layout, the number of the switches, and that the rack is free (`run_keeps`).
-/

namespace Motherboard

/-! ## Who serves an offset -/

namespace IoPageLayout

/-- The seat that serves an offset, under the override switches and with an owner of the expansion
window. Registers and windows count from their own start; built-in firmware sees page offsets. -/
inductive Serves (l : IoPageLayout) (overrides : RomOverrides) (owner : Option UInt8)
    (offset : UInt32) : Seat → Prop where
  /-- Soft switches belong to the page. -/
  | softSwitches {relative : UInt32} :
    l.Holds offset (.softSwitch relative) →
    l.Serves overrides owner offset (.own .softSwitches relative)
  /-- So do the registers of slot 0. -/
  | builtinIo {relative : UInt32} :
    l.Holds offset (.slotIo 0 relative) →
    l.Serves overrides owner offset (.own .builtinIo relative)
  /-- Other registers belong to the card in their slot. -/
  | cardIo {slot : UInt8} {relative : UInt32} :
    l.Holds offset (.slotIo slot relative) → slot ≠ 0 →
    l.Serves overrides owner offset (.card slot .io relative)
  /-- Built-in firmware replaces the ROM of a card. -/
  | firmware {slot : UInt8} {relative : UInt32} :
    l.Holds offset (.slotRom slot relative) → overrides.isInternal slot = true →
    l.Serves overrides owner offset (.own .internalRom offset)
  /-- A ROM that is not replaced belongs to the card in its slot. -/
  | cardRom {slot : UInt8} {relative : UInt32} :
    l.Holds offset (.slotRom slot relative) → overrides.isInternal slot = false →
    l.Serves overrides owner offset (.card slot .rom relative)
  /-- Firmware that replaces everything replaces the expansion window too. -/
  | firmwareWindow {relative : UInt32} :
    l.Holds offset (.expansion relative) → overrides.internalAll = true →
    l.Serves overrides owner offset (.own .internalRom offset)
  /-- Otherwise the expansion window belongs to its owner, if it has one. -/
  | window {slot : UInt8} {relative : UInt32} :
    l.Holds offset (.expansion relative) → overrides.internalAll = false → owner = some slot →
    l.Serves overrides owner offset (.card slot .expansionRom relative)

variable {l : IoPageLayout} {overrides : RomOverrides} {owner : Option UInt8} {offset : UInt32}
  {seat : Seat}

/-- Who decodes an offset serves it. -/
theorem serves_of_seat? (h : l.IsContiguous) (hseat : l.seat? overrides owner offset = some seat) :
    l.Serves overrides owner offset seat := by
  -- exactly one region holds the offset, so that the decoder may be read region by region
  obtain ⟨region, hin⟩ := exists_holds h offset
  unfold seat? ownSeat? cardSeat? at hseat
  rw [classify_of_holds h hin] at hseat
  cases region with
  | softSwitch relative =>
    cases hseat
    exact .softSwitches hin
  | slotIo slot relative =>
    dsimp only at hseat
    by_cases hslot : slot = 0
    · subst hslot
      cases hseat
      exact .builtinIo hin
    · rw [if_neg hslot, if_neg hslot] at hseat
      cases hseat
      exact .cardIo hin hslot
  | slotRom slot relative =>
    dsimp only at hseat
    cases hinternal : overrides.isInternal slot with
    | true =>
      rw [hinternal] at hseat
      cases hseat
      exact .firmware hin hinternal
    | false =>
      rw [hinternal] at hseat
      cases hseat
      exact .cardRom hin hinternal
  | expansion relative =>
    dsimp only at hseat
    cases hall : overrides.internalAll with
    | true =>
      rw [hall] at hseat
      cases hseat
      exact .firmwareWindow hin hall
    | false =>
      rw [hall] at hseat
      cases owner with
      | none => cases hseat
      | some slot =>
        cases hseat
        exact .window hin hall rfl
  | unassigned => cases hseat

/-- Who serves an offset decodes it. -/
theorem seat?_of_serves (h : l.IsContiguous) (hserves : l.Serves overrides owner offset seat) :
    l.seat? overrides owner offset = some seat := by
  unfold seat? ownSeat? cardSeat?
  -- the region says what to decode, and the switches and the owner say for whom
  cases hserves with
  | softSwitches hin => rw [classify_of_holds h hin]
  | builtinIo hin =>
    rw [classify_of_holds h hin]
    rfl
  | cardIo hin hslot =>
    rw [classify_of_holds h hin]
    dsimp only
    rw [if_neg hslot, if_neg hslot]
    rfl
  | firmware hin hinternal =>
    rw [classify_of_holds h hin]
    dsimp only
    rw [if_pos hinternal]
  | cardRom hin hinternal =>
    rw [classify_of_holds h hin]
    dsimp only
    rw [if_neg (by rw [hinternal]; decide)]
    rfl
  | firmwareWindow hin hall =>
    rw [classify_of_holds h hin]
    dsimp only
    rw [if_pos hall]
  | window hin hall howner =>
    rw [classify_of_holds h hin]
    dsimp only
    rw [if_neg (by rw [hall]; decide), howner]
    rfl

end IoPageLayout

namespace IoPage

variable {ω γ δ : Type} [Card γ δ ω] [Device δ ω] {p : IoPage δ} {b : Backplane ω γ}
  {offset : UInt32}

/-! ## One access -/

/-- A byte read on a free page: the touch first, and then the part that is dispatched to. -/
theorem read8_eq (hfree : b.hold = .free) (access : Access) :
    read8 offset access (p, b) =
      let b := p.touched b offset
      match p.dispatched? b offset with
      | none => (.ok (b.floating.value access.address), p, b)
      | some (seat, part) =>
        let after := Part.read .byte seat.relative access (part, b.toBoard)
        (after.1.map UInt32.toUInt8, p.replaceAt b seat after.2.1 after.2.2) := by
  have hcycle : cycle (fun relative => Part.read .byte relative access) offset (p, b) = _ :=
    cycle_eq_touched hfree _
  unfold read8
  rw [hcycle]
  dsimp only
  -- nobody is there, or one part, which answers or fails
  rcases p.dispatched? (p.touched b offset) offset with _ | ⟨seat, part⟩
  · rfl
  · dsimp only
    rcases Part.read .byte seat.relative access (part, (p.touched b offset).toBoard)
      with ⟨e | word, after⟩ <;> rfl

/-- A byte write on a free page goes the same way. -/
theorem write8_eq (hfree : b.hold = .free) (value : UInt8) (access : Access) :
    write8 offset value access (p, b) =
      let b := p.touched b offset
      match p.dispatched? b offset with
      | none => (.ok (), p, b)
      | some (seat, part) =>
        let after := Part.write .byte seat.relative value.toUInt32 access (part, b.toBoard)
        (after.1, p.replaceAt b seat after.2.1 after.2.2) := by
  have hcycle :
      cycle (fun relative => Part.write .byte relative value.toUInt32 access) offset (p, b) = _ :=
    cycle_eq_touched hfree _
  unfold write8 Cycle.map
  rw [hcycle]
  dsimp only
  -- nobody is there, or one part, which answers or fails
  rcases p.dispatched? (p.touched b offset) offset with _ | ⟨seat, part⟩
  · rfl
  · dsimp only
    rcases Part.write .byte seat.relative value.toUInt32 access (part, (p.touched b offset).toBoard)
      with ⟨e | _, after⟩ <;> rfl

/-- The seat that serves an offset once the touch of an access there has selected. -/
def ServedBy (s : IoPage δ × Backplane ω γ) (offset : UInt32) (seat : Seat) : Prop :=
  s.1.layout.Serves (s.2.overridesOf s.1.switches) (s.1.touched s.2 offset).rack.owner offset seat

/-- An access at the offset is one cycle of a part, with the offset that its seat sees: the answer is
that of the part, and what the cycle makes of the part and the board is all that changes. -/
structure CallsOnce (s : IoPage δ × Backplane ω γ) (offset : UInt32) (seat : Seat) (part : Part δ) :
    Prop where
  read : ∀ access, read8 offset access s =
    let b := s.1.touched s.2 offset
    let after := Part.read .byte seat.relative access (part, b.toBoard)
    (after.1.map UInt32.toUInt8, s.1.replaceAt b seat after.2.1 after.2.2)
  write : ∀ value access, write8 offset value access s =
    let b := s.1.touched s.2 offset
    let after := Part.write .byte seat.relative value.toUInt32 access (part, b.toBoard)
    (after.1, s.1.replaceAt b seat after.2.1 after.2.2)

/-- An access at the offset asks nobody: a read sees the floating lines, and a write is lost. -/
structure CallsNobody (s : IoPage δ × Backplane ω γ) (offset : UInt32) : Prop where
  read : ∀ access, read8 offset access s =
    (.ok (s.2.floating.value access.address), s.1, s.1.touched s.2 offset)
  write : ∀ value access, write8 offset value access s = (.ok (), s.1, s.1.touched s.2 offset)

/-- How a byte access at an offset goes. Its touch selects, and leaves what the parts have in common; the
owner that it leaves is the owner afterwards. Then the part in the seat that serves the offset is
called once, or nobody is if there is no such part. -/
structure Routes (s : IoPage δ × Backplane ω γ) (offset : UInt32) : Prop where
  selects : s.1.Selects s.2 offset (s.1.touched s.2 offset).rack.owner
  keepsBoard : s.2.KeepsBoard (s.1.touched s.2 offset)
  unique : ∀ seat other, ServedBy s offset seat → ServedBy s offset other → seat = other
  served : ∀ seat part, ServedBy s offset seat →
    s.1.partAt? (s.1.touched s.2 offset) seat = some part → CallsOnce s offset seat part
  unserved : (∀ seat, ServedBy s offset seat → s.1.partAt? (s.1.touched s.2 offset) seat = none) →
    CallsNobody s offset
  ownerOfRead : ∀ access,
    (read8 offset access s).2.2.rack.owner = (s.1.touched s.2 offset).rack.owner
  ownerOfWrite : ∀ value access,
    (write8 offset value access s).2.2.rack.owner = (s.1.touched s.2 offset).rack.owner

omit [Device δ ω] in
theorem owner_touched (p : IoPage δ) (b : Backplane ω γ) (offset : UInt32) :
    (p.touched b offset).rack.owner =
      (b.touch p.layout (b.overridesOf p.switches) offset).1.apply b.rack.owner :=
  b.owner_touch _ _ _

omit [Device δ ω] in
/-- Once the window has moved, the decoder finds the part that serves the offset. -/
theorem dispatched?_of_servedBy (h : p.layout.IsContiguous) {seat : Seat}
    (hserved : ServedBy (p, b) offset seat) :
    p.dispatched? (p.touched b offset) offset =
      (p.partAt? (p.touched b offset) seat).map fun part => (seat, part) := by
  rw [dispatched?, overridesOf_touched, IoPageLayout.seat?_of_serves h hserved]
  rfl

omit [Device δ ω] in
/-- No part answers where nobody serves, or where no part is attached to the seat. -/
theorem dispatched?_eq_none (h : p.layout.IsContiguous)
    (hnone : ∀ seat, ServedBy (p, b) offset seat → p.partAt? (p.touched b offset) seat = none) :
    p.dispatched? (p.touched b offset) offset = none := by
  rw [dispatched?, overridesOf_touched]
  cases hseat : p.layout.seat? (b.overridesOf p.switches) (p.touched b offset).rack.owner offset with
  | none => rfl
  | some seat =>
    rw [Option.bind_some, hnone seat (IoPageLayout.serves_of_seat? h hseat)]
    rfl

/-- A page that nobody holds routes every offset as the rules say. -/
theorem routes_of_free (h : p.layout.IsContiguous) (hfree : b.hold = .free) (offset : UInt32) :
    Routes (p, b) offset where
  selects := by
    rw [owner_touched]
    exact selects_of_touch h
  keepsBoard := p.keepsBoard_touched b offset
  -- two seats that serve one offset are both what the decoder finds
  unique := by
    intro seat other hseat hother
    have hsame := IoPageLayout.seat?_of_serves h hseat
    rw [IoPageLayout.seat?_of_serves h hother] at hsame
    exact (Option.some.inj hsame).symm
  served := by
    intro seat part hserved hpart
    have hdispatched := dispatched?_of_servedBy h hserved
    rw [hpart, Option.map_some] at hdispatched
    constructor
    · intro access
      rw [read8_eq hfree access]
      dsimp only
      rw [hdispatched]
    · intro value access
      rw [write8_eq hfree value access]
      dsimp only
      rw [hdispatched]
  unserved := by
    intro hnone
    have hdispatched := dispatched?_eq_none h hnone
    constructor
    · intro access
      rw [read8_eq hfree access, ← (p.keepsBoard_touched b offset).floating]
      dsimp only
      rw [hdispatched]
    · intro value access
      rw [write8_eq hfree value access]
      dsimp only
      rw [hdispatched]
  -- only the touch moves the window; the part that answers does not
  ownerOfRead := by
    intro access
    rw [owner_touched, owner_read8, effectAt, if_pos hfree]
  ownerOfWrite := by
    intro value access
    rw [owner_touched, owner_write8, effectAt, if_pos hfree]

/-! ## Runs -/

/-- What may happen to an I/O page while nobody holds the rack. -/
inductive Operation (γ : Type) where
  /-- A byte is read. -/
  | read (offset : UInt32) (access : Access)
  /-- A byte is written. -/
  | write (offset : UInt32) (value : UInt8) (access : Access)
  /-- A card is put into a slot. -/
  | install (slot : UInt8) (card : γ)
  /-- The card in a slot is taken out. -/
  | remove (slot : UInt8)
  /-- Override switches are thrown. -/
  | override (change : RomOverrides → RomOverrides)

/-- The page and the backplane after an operation, whatever its result is. -/
def perform (s : IoPage δ × Backplane ω γ) : Operation γ → IoPage δ × Backplane ω γ
  | .read offset access => (read8 offset access s).2
  | .write offset value access => (write8 offset value access s).2
  | .install slot card => (s.1, (s.2.installCard slot card).2)
  | .remove slot => (s.1, (s.2.removeCard slot).2)
  | .override change => (s.1, s.2.changeOverrides s.1.switches change)

/-- What all operations keep. -/
structure KeepsPage (before after : IoPage δ × Backplane ω γ) : Prop where
  layout : after.1.layout = before.1.layout
  switches : after.1.switches = before.1.switches
  hold : after.2.hold = before.2.hold

omit [Card γ δ ω] [Device δ ω] in
theorem KeepsPage.trans {before between after : IoPage δ × Backplane ω γ}
    (h : KeepsPage before between) (h' : KeepsPage between after) : KeepsPage before after :=
  ⟨h'.layout.trans h.layout, h'.switches.trans h.switches, h'.hold.trans h.hold⟩

/-- A card with a ROM and an expansion ROM. -/
def terminal : Bench.TestCard :=
  ⟨"terminal", none, some (.rom ⟨#[0x60]⟩), some (.rom ⟨#[0xE0, 0xE1]⟩), true, true⟩

/-- An empty rack of seven slots. -/
def emptyRack : Backplane Bench.Host Bench.TestCard where
  floating := .constant 0xFF
  overrides := #[{}]
  host := {}
  banked := #[]
  rack := .empty 7

end IoPage

end Motherboard
