import Motherboard.Bench.Instrument
import Motherboard.Proofs.PlainStorage
import Motherboard.Proofs.RackPlaces
import Motherboard.Proofs.Selection

/-!
# The decoders of an I/O page

An I/O page decodes an offset three times over: for a device cycle, for a look and for a poke. A cycle
goes to the part that `IoPage.dispatched?` names. Looks see the byte that a read of the same offset
gives, and pokes reach that part or none, with one exception: where built-in firmware replaces the ROM
of a card but is not attached, a cycle finds nobody, while looks and pokes reach the card behind it.

* `fst_read8`, `fst_peek`, `pokesDispatched` — the decoders in terms of the part dispatched to.
* `dispatched?_of_firmwareMissing`, `peek_of_firmwareMissing`, `poke_of_firmwareMissing` — the
  exception.
* `decoders_agree_iff` — the decoders agree exactly when the exception makes no difference.
-/

namespace Motherboard

/-! ## Seats -/

/-- A place of an I/O page that a part may answer from, with the offset that the part sees. -/
inductive Seat where
  /-- An own part of the page. -/
  | own (part : OwnPart) (relative : UInt32)
  /-- A region of the card in a slot. -/
  | card (slot : UInt8) (region : CardRegion) (relative : UInt32)
  deriving DecidableEq

/-- The offset that the part in a seat sees. -/
def Seat.relative : Seat → UInt32
  | .own _ relative | .card _ _ relative => relative

/-- The seat that a device cycle at an offset goes to. -/
def IoPageLayout.seat? (l : IoPageLayout) (overrides : RomOverrides) (owner : Option UInt8)
    (offset : UInt32) : Option Seat :=
  match l.ownSeat? overrides offset with
  | some (own, relative) => some (.own own relative)
  | none => (l.cardSeat? owner offset).map fun (slot, region, relative) => .card slot region relative

/-- Where soft switches or the registers of slot 0 answer, no card does. -/
theorem IoPageLayout.cardSeat?_of_ownSeat? {l : IoPageLayout} {overrides : RomOverrides}
    {offset relative : UInt32} {own : OwnPart} (h : l.ownSeat? overrides offset = some (own, relative))
    (hown : own ≠ .internalRom) (owner : Option UInt8) : l.cardSeat? owner offset = none := by
  unfold ownSeat? at h
  unfold cardSeat?
  cases hregion : l.classify offset with
  | softSwitch place => rfl
  | slotIo slot place =>
    rw [hregion] at h
    dsimp only at h ⊢
    split_ifs at h with hslot
    rw [if_pos hslot]
  -- where a window is the page's own, the firmware must have it
  | slotRom slot place =>
    rw [hregion] at h
    dsimp only at h
    split_ifs at h
    cases h
    exact absurd rfl hown
  | expansion place =>
    rw [hregion] at h
    dsimp only at h
    split_ifs at h
    cases h
    exact absurd rfl hown
  | unassigned => rfl

namespace IoPage

variable {ω γ δ : Type} [Card γ δ ω] {p : IoPage δ} {b : Backplane ω γ} {offset : UInt32}

/-- The part in a seat. -/
def partAt? (p : IoPage δ) (b : Backplane ω γ) : Seat → Option (Part δ)
  | .own own _ => p.own? own
  | .card slot region _ => (b.rack.card? slot).bind (Card.region region)

/-- A card is found in its slot, and the part in the card. -/
theorem partAt?_card (p : IoPage δ) (b : Backplane ω γ) (slot : UInt8) (region : CardRegion)
    (relative : UInt32) :
    p.partAt? b (.card slot region relative) = (b.rack.card? slot).bind (Card.region region) := rfl

/-- The part that a device cycle at an offset goes to, with its seat. -/
def dispatched? (p : IoPage δ) (b : Backplane ω γ) (offset : UInt32) : Option (Seat × Part δ) :=
  (p.layout.seat? (b.overridesOf p.switches) b.rack.owner offset).bind fun seat =>
    (p.partAt? b seat).map fun part => (seat, part)

/-- What is dispatched to is in its seat. -/
theorem partAt?_of_dispatched? {seat : Seat} {part : Part δ}
    (h : p.dispatched? b offset = some (seat, part)) : p.partAt? b seat = some part := by
  obtain ⟨seat', -, hpart⟩ := Option.bind_eq_some_iff.1 h
  obtain ⟨part', hpart', heq⟩ := Option.map_eq_some_iff.1 hpart
  cases heq
  exact hpart'

/-- Built-in firmware answers for the offset, but it is not attached. -/
def FirmwareMissing (p : IoPage δ) (b : Backplane ω γ) (offset : UInt32) : Prop :=
  p.internalRom = none ∧
    ∃ relative, p.layout.ownSeat? (b.overridesOf p.switches) offset = some (.internalRom, relative)

/-- The page and the backplane with another part in a seat, and with another board. -/
def replaceAt (p : IoPage δ) (b : Backplane ω γ) (seat : Seat) (part : Part δ) (board : Board ω) :
    IoPage δ × Backplane ω γ :=
  match seat with
  | .own own _ => (p.attach own part, { b with toBoard := board })
  | .card slot region _ =>
    match b.rack.card? slot with
    | none => (p, b)
    | some card =>
      (p, { b with
        toBoard := board
        rack := b.rack.setCard slot (some (Card.setRegion region part card)) })

/-- Putting a part back into a card does not change the page. -/
theorem fst_replaceAt_card (p : IoPage δ) (b : Backplane ω γ) (slot : UInt8) (region : CardRegion)
    (relative : UInt32) (part : Part δ) (board : Board ω) :
    (p.replaceAt b (.card slot region relative) part board).1 = p := by
  unfold replaceAt
  dsimp only
  cases b.rack.card? slot <;> rfl

/-! ## Device cycles -/

omit [Card γ δ ω] in
/-- A cycle of one of the page's own parts, as a value. -/
theorem onOwn_eq {α : Type} (c : Cycle (Part δ × Board ω) α) (own : OwnPart) (p : IoPage δ)
    (b : Backplane ω γ) :
    onOwn c own (p, b) =
      match p.own? own with
      | none => (.ok none, p, b)
      | some part =>
        ((c (part, b.toBoard)).1.map some, p.attach own (c (part, b.toBoard)).2.1,
          { b with toBoard := (c (part, b.toBoard)).2.2 }) := rfl

/-- A card without the part does not answer. -/
theorem onRegion?_of_none {α : Type} {slot : UInt8} {region : CardRegion} {relative : UInt32}
    (h : p.partAt? b (.card slot region relative) = none)
    (f : Part δ → Board ω → α × Part δ × Board ω) : b.onRegion? slot region f = none := by
  rw [partAt?_card] at h
  unfold Backplane.onRegion?
  cases hcard : b.rack.card? slot with
  | none => rfl
  | some card =>
    rw [hcard] at h
    dsimp only [Option.bind_some] at h ⊢
    rw [h]
    rfl

/-- A card with the part answers as the part does. -/
theorem onRegion?_of_some {α : Type} {slot : UInt8} {region : CardRegion} {relative : UInt32}
    {part : Part δ} (h : p.partAt? b (.card slot region relative) = some part)
    (f : Part δ → Board ω → α × Part δ × Board ω) :
    b.onRegion? slot region f =
      some ((f part b.toBoard).1,
        (p.replaceAt b (.card slot region relative) (f part b.toBoard).2.1
          (f part b.toBoard).2.2).2) := by
  rw [partAt?_card] at h
  unfold Backplane.onRegion? replaceAt
  dsimp only
  cases hcard : b.rack.card? slot with
  | none =>
    -- an empty slot would have no such part
    rw [hcard] at h
    cases h
  | some card =>
    rw [hcard] at h
    dsimp only [Option.bind_some] at h ⊢
    rw [h]
    rfl

theorem replaceAt_card_eta (p : IoPage δ) (b : Backplane ω γ) (slot : UInt8) (region : CardRegion)
    (relative : UInt32) (part : Part δ) (board : Board ω) :
    (p, (p.replaceAt b (.card slot region relative) part board).2) =
      p.replaceAt b (.card slot region relative) part board :=
  Prod.ext (fst_replaceAt_card p b slot region relative part board).symm rfl

/-- A cycle of a card, as a value. -/
theorem onCard_eq {α : Type} (c : Cycle (Part δ × Board ω) α) (slot : UInt8) (region : CardRegion)
    (relative : UInt32) (p : IoPage δ) (b : Backplane ω γ) :
    onCard c slot region (p, b) =
      match p.partAt? b (.card slot region relative) with
      | none => (.ok none, p, b)
      | some part =>
        ((c (part, b.toBoard)).1.map some,
          p.replaceAt b (.card slot region relative) (c (part, b.toBoard)).2.1
            (c (part, b.toBoard)).2.2) := by
  unfold onCard
  dsimp only
  cases hpart : p.partAt? b (.card slot region relative) with
  | none => rw [onRegion?_of_none hpart]
  | some part =>
    rw [onRegion?_of_some hpart]
    dsimp only
    rw [replaceAt_card_eta]

/-- The backplane after the touch with which a cycle at an offset begins. -/
def touched (p : IoPage δ) (b : Backplane ω γ) (offset : UInt32) : Backplane ω γ :=
  (b.touch p.layout (b.overridesOf p.switches) offset).2

/-- Before any part answers, a touch has moved the window at most. -/
theorem keepsBoard_touched (p : IoPage δ) (b : Backplane ω γ) (offset : UInt32) :
    b.KeepsBoard (p.touched b offset) :=
  b.keepsBoard_touch _ _ _

theorem overridesOf_touched (p : IoPage δ) (b : Backplane ω γ) (offset : UInt32) :
    (p.touched b offset).overridesOf p.switches = b.overridesOf p.switches := by
  unfold Backplane.overridesOf
  rw [(p.keepsBoard_touched b offset).overrides]

/-- After its touch a cycle goes to the part dispatched to, and to nobody else. -/
theorem cycle_eq_touched (hfree : b.hold = .free) {α : Type}
    (c : UInt32 → Cycle (Part δ × Board ω) α) :
    cycle c offset (p, b) =
      let b := p.touched b offset
      match p.dispatched? b offset with
      | none => (.ok none, p, b)
      | some (seat, part) =>
        let after := c seat.relative (part, b.toBoard)
        (after.1.map some, p.replaceAt b seat after.2.1 after.2.2) := by
  unfold cycle
  dsimp only
  rw [if_pos hfree]
  unfold dispatched? IoPageLayout.seat?
  -- the switches that decide about firmware are those before the touch, but it leaves them
  rw [overridesOf_touched]
  rcases p.layout.ownSeat? (b.overridesOf p.switches) offset with _ | ⟨own, relative⟩
  · dsimp only [touched]
    rcases p.layout.cardSeat? (b.touch p.layout (b.overridesOf p.switches) offset).2.rack.owner offset
      with _ | ⟨slot, region, relative⟩
    · rfl
    · dsimp only [Option.map_some, Option.bind_some]
      rw [onCard_eq (c relative) slot region relative]
      cases p.partAt? (b.touch p.layout (b.overridesOf p.switches) offset).2
        (.card slot region relative) <;> rfl
  · dsimp only [Option.bind_some, partAt?]
    rw [onOwn_eq]
    cases p.own? own <;> rfl

/-- A cycle that leaves the owner of the window goes to the part dispatched to, and to nobody else. -/
theorem cycle_eq (hfree : b.hold = .free)
    (hkept : (effectAt offset (p, b)).apply b.rack.owner = b.rack.owner) {α : Type}
    (c : UInt32 → Cycle (Part δ × Board ω) α) :
    cycle c offset (p, b) =
      match p.dispatched? b offset with
      | none => (.ok none, p, b)
      | some (seat, part) =>
        let after := c seat.relative (part, b.toBoard)
        (after.1.map some, p.replaceAt b seat after.2.1 after.2.2) := by
  rw [effectAt, if_pos hfree] at hkept
  -- nobody is told anything, so the cycle finds the backplane as it was
  have htouch : p.touched b offset = b := Backplane.touch_snd_eq_self hkept
  rw [cycle_eq_touched hfree, htouch]

variable [Device δ ω]

/-- A byte read that does not move the window is answered by the part it is dispatched to, or floats. -/
theorem fst_read8 (hfree : b.hold = .free)
    (hkept : (effectAt offset (p, b)).apply b.rack.owner = b.rack.owner) (access : Access) :
    (read8 offset access (p, b)).1 =
      match p.dispatched? b offset with
      | none => .ok (b.floating.value access.address)
      | some (seat, part) =>
        (Part.read .byte seat.relative access (part, b.toBoard)).1.map UInt32.toUInt8 := by
  have hcycle := cycle_eq hfree hkept fun relative => Part.read .byte relative access
  unfold read8
  rw [hcycle]
  rcases p.dispatched? b offset with _ | ⟨seat, part⟩
  · rfl
  · dsimp only
    rcases Part.read .byte seat.relative access (part, b.toBoard) with ⟨e | word, after⟩ <;> rfl

/-! ## Looks -/

/-- The parts that are attached are plain storage: each shows to a look the byte that it gives to a
read, and a card shows the parts that it answers with. -/
structure IsPlain (p : IoPage δ) (b : Backplane ω γ) : Prop where
  looks : ∀ {seat part}, p.partAt? b seat = some part → part.LooksAsRead b.toBoard
  shows : ∀ {slot card}, b.rack.card? slot = some card → ∀ region,
    Card.lookRegion region card = Card.region region card

/-- A look at a card decodes by the seats of cards alone; the page's own parts have been tried before. -/
theorem fst_lookAtCard (hplain : p.IsPlain b) (hhold : b.hold ≠ .exclusive) (offset : UInt32) :
    (p.lookAtCard offset b).1 =
      (p.layout.cardSeat? b.rack.owner offset).bind fun (slot, region, relative) =>
        (p.partAt? b (.card slot region relative)).bind fun part =>
          (part.peek relative b.toBoard).1 := by
  unfold lookAtCard partAt?
  rw [if_neg hhold]
  rcases p.layout.cardSeat? b.rack.owner offset with _ | ⟨slot, region, relative⟩
  · rfl
  · dsimp only [Option.bind_some]
    cases hcard : b.rack.card? slot with
    | none => rfl
    | some card =>
      dsimp only [Option.bind_some]
      -- a plain card shows each part to a look as it shows it to a cycle
      rw [hplain.shows hcard]
      cases Card.region region card <;> rfl

/-- Where no firmware is missing, a look goes to the part that a cycle is dispatched to. -/
theorem fst_peek (hplain : p.IsPlain b) (hfree : b.hold = .free)
    (hfirmware : ¬p.FirmwareMissing b offset) :
    (p.peek offset b).1 =
      (p.dispatched? b offset).bind fun (seat, part) => (part.peek seat.relative b.toBoard).1 := by
  have hlook := fst_lookAtCard hplain (by rw [hfree]; decide) offset
  unfold peek dispatched? IoPageLayout.seat?
  rcases hseat : p.layout.ownSeat? (b.overridesOf p.switches) offset with _ | ⟨own, relative⟩
  · dsimp only
    rw [hlook]
    rcases p.layout.cardSeat? b.rack.owner offset with _ | ⟨slot, region, relative⟩
    · rfl
    · dsimp only [Option.map_some, Option.bind_some]
      cases p.partAt? b (.card slot region relative) <;> rfl
  · dsimp only [Option.bind_some, partAt?]
    cases hown : p.own? own with
    | some part => rfl
    | none =>
      dsimp only
      rw [hlook]
      -- an own part that is not attached leaves the look to the cards, where only firmware hides one
      have hnone : p.layout.cardSeat? b.rack.owner offset = none := by
        apply IoPageLayout.cardSeat?_of_ownSeat? hseat
        rintro rfl
        exact hfirmware ⟨hown, relative, hseat⟩
      rw [hnone]
      rfl

/-! ## Pokes -/

/-- A poke reaches the part that a cycle at the offset is dispatched to, or nobody. -/
def PokesDispatched (p : IoPage δ) (b : Backplane ω γ) (offset : UInt32) (value : UInt8) : Prop :=
  (p.poke offset value b).2 = (p, b) ∨
    ∃ seat part, p.dispatched? b offset = some (seat, part) ∧
      let after := part.poke seat.relative value b.toBoard
      (p.poke offset value b).2 = p.replaceAt b seat after.2.1 after.2.2

/-- A poke of the cards reaches the part in the seat of the offset, or nobody. -/
theorem snd_pokeCard (p : IoPage δ) (b : Backplane ω γ) (offset : UInt32) (value : UInt8) :
    (p.pokeCard offset value b).2 = (p, b) ∨
      ∃ slot region relative part, p.layout.cardSeat? b.rack.owner offset = some (slot, region, relative) ∧
        p.partAt? b (.card slot region relative) = some part ∧
        let after := part.poke relative value b.toBoard
        (p.pokeCard offset value b).2 =
          p.replaceAt b (.card slot region relative) after.2.1 after.2.2 := by
  unfold pokeCard
  split_ifs with hfree
  · split
    · exact .inl rfl
    · exact .inl rfl
    · -- an empty seat answers nothing, and then nothing is put back
      next slot region relative _ hseat =>
      cases hpart : p.partAt? b (.card slot region relative) with
      | none =>
        rw [onRegion?_of_none hpart]
        exact .inl rfl
      | some part =>
        rw [onRegion?_of_some hpart]
        refine .inr ⟨slot, region, relative, part, hseat, hpart, ?_⟩
        exact p.replaceAt_card_eta b slot region relative _ _
  · exact .inl rfl

/-- Where no firmware is missing, a poke goes to the part that a cycle is dispatched to. -/
theorem pokesDispatched (hfirmware : ¬p.FirmwareMissing b offset) (value : UInt8) :
    p.PokesDispatched b offset value := by
  unfold PokesDispatched poke
  rcases hseat : p.layout.ownSeat? (b.overridesOf p.switches) offset with _ | ⟨own, relative⟩
  · -- no own part answers for the offset: the poke is one of the cards
    have hcard := p.snd_pokeCard b offset value
    rcases hcard with hself | ⟨slot, region, relative, part, hcardSeat, hpart, hpoke⟩
    · exact .inl hself
    · refine .inr ⟨.card slot region relative, part, ?_, hpoke⟩
      rw [dispatched?, IoPageLayout.seat?, hseat, hcardSeat]
      dsimp only [Option.map_some, Option.bind_some]
      rw [hpart]
      rfl
  · cases own with
    | softSwitches => exact .inl rfl
    | builtinIo => exact .inl rfl
    | internalRom =>
      cases hown : p.internalRom with
      | none => exact absurd ⟨hown, relative, hseat⟩ hfirmware
      | some part =>
        refine .inr ⟨.own .internalRom relative, part, ?_, rfl⟩
        rw [dispatched?, IoPageLayout.seat?, hseat]
        dsimp only [Option.bind_some]
        rw [show p.partAt? b (.own .internalRom relative) = some part from hown]
        rfl

/-! ## Missing firmware -/

omit [Device δ ω] in
/-- Where firmware is chosen and missing, a dispatch finds nobody. -/
theorem dispatched?_of_firmwareMissing (h : p.FirmwareMissing b offset) :
    p.dispatched? b offset = none := by
  obtain ⟨hnone, relative, hseat⟩ := h
  rw [dispatched?, IoPageLayout.seat?, hseat]
  dsimp only [Option.bind_some]
  rw [show p.partAt? b (.own .internalRom relative) = none from hnone]
  rfl

/-- There a look falls through to the card. -/
theorem peek_of_firmwareMissing (h : p.FirmwareMissing b offset) :
    p.peek offset b = p.lookAtCard offset b := by
  obtain ⟨hnone, relative, hseat⟩ := h
  rw [peek, hseat]
  dsimp only
  rw [show p.own? .internalRom = none from hnone]

theorem poke_of_firmwareMissing (h : p.FirmwareMissing b offset) (value : UInt8) :
    p.poke offset value b = p.pokeCard offset value b := by
  obtain ⟨hnone, relative, hseat⟩ := h
  rw [poke, hseat, hnone]

/-! ## Agreement -/

/-- With the rack free and plain storage attached, the decoders agree at an offset whose real access
leaves the window to its owner, unless firmware is missing there. Then a read sees the floating lines
and nobody may be poked, so that they agree just when a look at the card behind gives what the floating
lines give, and a poke of it changes nothing. -/
theorem decoders_agree_iff (hplain : p.IsPlain b) (hfree : b.hold = .free)
    (hkept : (effectAt offset (p, b)).apply b.rack.owner = b.rack.owner) :
    ((∀ access byte, (read8 offset access (p, b)).1 = .ok byte →
        (p.peek offset b).1.getD (b.floating.value access.address) = byte) ↔
      (p.FirmwareMissing b offset → ∀ access : Access,
        (p.lookAtCard offset b).1.getD (b.floating.value access.address) =
          b.floating.value access.address)) ∧
    ((∀ value, p.PokesDispatched b offset value) ↔
      (p.FirmwareMissing b offset → ∀ value, (p.pokeCard offset value b).2 = (p, b))) := by
  refine ⟨⟨?_, ?_⟩, ?_, ?_⟩
  · intro hagree hmissing access
    rw [← peek_of_firmwareMissing hmissing]
    -- a read sees the floating lines, and a look what the card shows
    apply hagree
    rw [fst_read8 hfree hkept, dispatched?_of_firmwareMissing hmissing]
  · intro hbehind access byte hread
    by_cases hmissing : p.FirmwareMissing b offset
    · rw [fst_read8 hfree hkept, dispatched?_of_firmwareMissing hmissing] at hread
      cases hread
      rw [peek_of_firmwareMissing hmissing]
      exact hbehind hmissing access
    · rw [fst_read8 hfree hkept] at hread
      rw [fst_peek hplain hfree hmissing]
      cases hpart : p.dispatched? b offset with
      | none =>
        rw [hpart] at hread
        cases hread
        rfl
      | some found =>
        obtain ⟨seat, part⟩ := found
        rw [hpart] at hread
        dsimp only at hread
        cases hword : (Part.read .byte seat.relative access (part, b.toBoard)).1 with
        | error e =>
          rw [hword] at hread
          cases hread
        | ok word =>
          rw [hword] at hread
          cases hread
          have hlook := hplain.looks (partAt?_of_dispatched? hpart) _ _ _ hword
          dsimp only [Option.bind_some]
          rw [hlook]
          rfl
  · intro hpokes hmissing value
    rcases hpokes value with hself | ⟨seat, part, hpart, -⟩
    · rw [← poke_of_firmwareMissing hmissing]
      exact hself
    · rw [dispatched?_of_firmwareMissing hmissing] at hpart
      cases hpart
  · intro hbehind value
    by_cases hmissing : p.FirmwareMissing b offset
    · left
      rw [poke_of_firmwareMissing hmissing]
      exact hbehind hmissing value
    · exact pokesDispatched hmissing value

/-- A classic I/O page without firmware, whose override switches put firmware before the ROM of slot 6. -/
def withoutFirmware : IoPage Bench.Instrument := { layout := .classic, switches := 0 }

/-- A card whose ROM begins with 0x60. -/
def disk : Bench.TestCard := ⟨"disk", none, some (.rom ⟨#[0x60]⟩), none, true, true⟩

/-- A rack with this card in slot 6. -/
def behindTheFirmware : Backplane Bench.Host Bench.TestCard where
  floating := .constant 0xFF
  overrides := #[{ slotMask := 0x40 }]
  host := {}
  banked := #[]
  rack :=
    { cards := #[none, none, none, none, none, some disk, none] }

/-- A card that is found is one of the rack's. -/
theorem mem_of_card? {γ : Type} {r : Rack γ} {slot : UInt8} {card : γ} (h : r.card? slot = some card) :
    some card ∈ r.cards := by
  unfold Rack.card? at h
  cases hindex : r.index slot with
  | error e =>
    rw [hindex] at h
    cases h
  | ok i =>
    rw [hindex] at h
    exact Array.mem_of_getElem? (Option.join_eq_some_iff.1 h)

/-- The machine of the example has no parts that behave differently when looked at. -/
theorem isPlain_withoutFirmware : withoutFirmware.IsPlain behindTheFirmware where
  -- the page itself is empty, and the only card has ROM and nothing else
  looks := by
    intro seat part hpart
    cases seat with
    | own own relative => cases own <;> cases hpart
    | card slot region relative =>
      obtain ⟨card, hcard, hregion⟩ := Option.bind_eq_some_iff.1 hpart
      obtain rfl : card = disk := by simpa [behindTheFirmware] using mem_of_card? hcard
      cases region with
      | rom =>
        cases hregion
        exact Part.looksAsRead_rom _ _
      | _ => cases hregion
  shows := by
    intro slot card hcard region
    obtain rfl : card = disk := by simpa [behindTheFirmware] using mem_of_card? hcard
    rfl

/-- A read of the hidden ROM gives the floating lines, a look the ROM, and a poke patches it. -/
theorem decoders_agree_iff_withoutFirmware :
    withoutFirmware.IsPlain behindTheFirmware ∧
      ¬(∀ access byte, (read8 0x600 access (withoutFirmware, behindTheFirmware)).1 = .ok byte →
        (withoutFirmware.peek 0x600 behindTheFirmware).1.getD
          (behindTheFirmware.floating.value access.address) = byte) ∧
      ¬(∀ value, withoutFirmware.PokesDispatched behindTheFirmware 0x600 value) := by
  have hmissing : withoutFirmware.FirmwareMissing behindTheFirmware 0x600 :=
    ⟨rfl, 0x600, by rfl⟩
  have hkept : (effectAt 0x600 (withoutFirmware, behindTheFirmware)).apply
      behindTheFirmware.rack.owner = behindTheFirmware.rack.owner := by rfl
  obtain ⟨hlooks, hpokes⟩ := decoders_agree_iff isPlain_withoutFirmware rfl hkept
  refine ⟨isPlain_withoutFirmware, ?_, ?_⟩
  · intro hagree
    have hbehind := hlooks.1 hagree hmissing (.read 0xC600 .byte .dataRead)
    exact absurd hbehind (by decide)
  · intro hall
    have hbehind := hpokes.1 hall hmissing 0
    -- after the poke the card shows another byte
    have hrom := congrArg (fun s : IoPage Bench.Instrument × Backplane Bench.Host Bench.TestCard =>
      (s.1.lookAtCard 0x600 s.2).1) hbehind
    exact absurd hrom (by decide)

end IoPage

end Motherboard
