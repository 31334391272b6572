import Mathlib.Data.Nat.Bitwise
import Motherboard.Proofs.InstalledPage
import Motherboard.Proofs.PageRouting

/-!
# Override switches slot by slot

The override switches of an I/O page are one cell that is read and written back by every call. Still
the calls for one slot do not disturb another: whether the ROM of a slot is replaced depends on the
latest call for all slots and the latest one for the slot itself (`RomOverrides.chosen`), and an access
in its ROM window goes to built-in firmware or to the card accordingly.

The exception is the size of the cell. It has sixteen bits, while a valid layout may have more slots: a
call for a slot above 15 is dropped, and the ROM of such a slot is replaced with all others or not at all.

## Results

* `RomOverrides.holdsBit_afterCalls` — the bit of a slot after any row of calls.
* `IoPage.romWindow_afterSwitchCalls` — who serves the ROM window of a slot then.
-/

namespace Motherboard

/-! ## Calls of the switches -/

/-- One call of the override switches of a page. -/
inductive SwitchCall where
  /-- Every ROM is replaced, or no longer all of them. -/
  | setAll (enabled : Bool)
  /-- The ROM of one slot is replaced, or no longer. -/
  | setSlot (slot : UInt8) (enabled : Bool)
  /-- All switches are set at once. -/
  | set (overrides : RomOverrides)
  deriving DecidableEq

namespace RomOverrides

/-- The switches after a call. -/
def after (o : RomOverrides) : SwitchCall → RomOverrides
  | .setAll enabled => o.setAll enabled
  | .setSlot slot enabled => o.setSlot slot enabled
  | .set overrides => overrides

/-- The switches after a history of calls, the latest call first. -/
def afterCalls (o : RomOverrides) : List SwitchCall → RomOverrides
  | [] => o
  | call :: earlier => (o.afterCalls earlier).after call

/-- The bit of a slot in the mask; there is none above slot 15. -/
def holdsBit (o : RomOverrides) (slot : UInt8) : Bool :=
  o.slotMask.toNat.testBit slot.toNat

/-- What a history says about all slots: the latest call about them counts. -/
def chosenAll (o : RomOverrides) : List SwitchCall → Bool
  | [] => o.internalAll
  | .setAll enabled :: _ => enabled
  | .setSlot _ _ :: earlier => o.chosenAll earlier
  | .set overrides :: _ => overrides.internalAll

/-- What a history says about one slot: the latest call for this slot counts, or the bit of a later call
that set all switches. -/
def chosen (o : RomOverrides) (slot : UInt8) : List SwitchCall → Bool
  | [] => o.holdsBit slot
  | .setAll _ :: earlier => o.chosen slot earlier
  | .setSlot other enabled :: earlier => if other = slot then enabled else o.chosen slot earlier
  | .set overrides :: _ => overrides.holdsBit slot

/-- A history of calls replaces the ROM of a slot: together with all others, or by itself if the mask has
a bit for it. -/
def Replaced (o : RomOverrides) (slot : UInt8) (history : List SwitchCall) : Prop :=
  o.chosenAll history = true ∨ slot.toNat < 16 ∧ o.chosen slot history = true

/-! ## Bits of the mask -/

variable {o : RomOverrides} {slot other : UInt8}

theorem testBit_of_le (mask : UInt16) {i : Nat} (h : 16 ≤ i) : mask.toNat.testBit i = false :=
  Nat.testBit_lt_two_pow (mask.toNat_lt.trans_le (Nat.pow_le_pow_right (by omega) h))

theorem holdsBit_of_le (h : 16 ≤ slot.toNat) : o.holdsBit slot = false :=
  testBit_of_le o.slotMask h

/-- A slot below 16 has a bit of its own. -/
theorem slotBit?_of_lt (h : slot.toNat < 16) :
    ∃ bit, slotBit? slot = some bit ∧ bit.toNat = 2 ^ slot.toNat := by
  have hpow : 2 ^ slot.toNat < 2 ^ 16 := Nat.pow_lt_pow_right (by omega) h
  refine ⟨1 <<< slot.toUInt16, if_pos (UInt8.lt_iff_toNat_lt.2 h), ?_⟩
  rw [UInt16.toNat_shiftLeft, UInt8.toNat_toUInt16, Nat.mod_eq_of_lt h, UInt16.toNat_one,
    Nat.one_shiftLeft, Nat.mod_eq_of_lt hpow]

theorem slotBit?_of_le (h : 16 ≤ slot.toNat) : slotBit? slot = none :=
  if_neg fun hlt => Nat.not_lt.2 h (UInt8.lt_iff_toNat_lt.1 hlt)

/-- A slot is internal if all are, or if its bit is set. -/
theorem isInternal_eq (o : RomOverrides) (slot : UInt8) :
    o.isInternal slot = (o.internalAll || o.holdsBit slot) := by
  unfold isInternal
  congr 1
  -- a slot with a bit is looked up in the mask, and the others are no case of the mask at all
  by_cases h : slot.toNat < 16
  · obtain ⟨bit, hbit, hpow⟩ := slotBit?_of_lt h
    rw [hbit, Option.any_some, holdsBit, Bool.eq_iff_iff, bne_iff_ne, ne_eq, ← UInt16.toNat_inj,
      UInt16.toNat_and, hpow, Nat.and_two_pow]
    cases o.slotMask.toNat.testBit slot.toNat <;> simp
  · rw [slotBit?_of_le (by omega), holdsBit_of_le (by omega)]
    rfl

theorem testBit_or_bit {bit : UInt16} {n : Nat} (hbit : bit.toNat = 2 ^ n) (mask : UInt16) (i : Nat) :
    (mask ||| bit).toNat.testBit i = (mask.toNat.testBit i || decide (n = i)) := by
  rw [UInt16.toNat_or, hbit, Nat.testBit_or, Nat.testBit_two_pow]

/-- Clearing a bit clears that one. -/
theorem testBit_and_not_bit {bit : UInt16} {n : Nat} (hbit : bit.toNat = 2 ^ n) (mask : UInt16)
    (i : Nat) : (mask &&& ~~~bit).toNat.testBit i = (mask.toNat.testBit i && !decide (n = i)) := by
  have hlt : 2 ^ n < 2 ^ 16 := by
    rw [← hbit]
    exact bit.toNat_lt
  have hnot : (~~~bit).toNat = 2 ^ 16 - (2 ^ n + 1) := by
    rw [UInt16.toNat_not, hbit, Nat.add_comm, ← Nat.sub_sub]
    rfl
  rw [UInt16.toNat_and, hnot, Nat.testBit_and, Nat.testBit_two_pow_sub_succ hlt, Nat.testBit_two_pow]
  by_cases hi : i < 16
  · rw [decide_eq_true hi, Bool.true_and]
  · -- the mask itself has no such bit
    rw [testBit_of_le mask (by omega), Bool.false_and, Bool.false_and]

/-- A call for one slot changes the bit of this slot, if it has one, and no other. -/
theorem holdsBit_setSlot (o : RomOverrides) (other slot : UInt8) (enabled : Bool) :
    (o.setSlot other enabled).holdsBit slot =
      if other = slot ∧ slot.toNat < 16 then enabled else o.holdsBit slot := by
  unfold setSlot
  by_cases h : other.toNat < 16
  · obtain ⟨bit, hbit, hpow⟩ := slotBit?_of_lt h
    -- two slots are the same exactly if their bits are, as long as they have bits
    have hsame : other.toNat = slot.toNat ↔ other = slot ∧ slot.toNat < 16 := by
      rw [← UInt8.toNat_inj]
      omega
    rw [hbit]
    cases enabled with
    | true =>
      show (o.slotMask ||| bit).toNat.testBit slot.toNat = _
      rw [testBit_or_bit hpow]
      split_ifs with hslot
      · rw [decide_eq_true (hsame.2 hslot), Bool.or_true]
      · rw [decide_eq_false (mt hsame.1 hslot), Bool.or_false]
        rfl
    | false =>
      show (o.slotMask &&& ~~~bit).toNat.testBit slot.toNat = _
      rw [testBit_and_not_bit hpow]
      split_ifs with hslot
      · rw [decide_eq_true (hsame.2 hslot), Bool.not_true, Bool.and_false]
      · rw [decide_eq_false (mt hsame.1 hslot), Bool.not_false, Bool.and_true]
        rfl
  · -- A slot without a bit cannot be set.
    rw [slotBit?_of_le (by omega), if_neg]
    rintro ⟨rfl, hlt⟩
    exact h hlt

/-- The switch of one slot leaves the switch of all alone. -/
theorem internalAll_setSlot (o : RomOverrides) (slot : UInt8) (enabled : Bool) :
    (o.setSlot slot enabled).internalAll = o.internalAll := by
  unfold setSlot
  cases slotBit? slot <;> rfl

/-! ## Histories of calls -/

/-- The switch of all slots stands where it was last put. -/
theorem internalAll_afterCalls (o : RomOverrides) (history : List SwitchCall) :
    (o.afterCalls history).internalAll = o.chosenAll history := by
  induction history with
  | nil => rfl
  | cons call earlier ih =>
    cases call with
    | setAll enabled => rfl
    | setSlot slot enabled => exact (internalAll_setSlot _ _ _).trans ih
    | set overrides => rfl

/-- The bit of a slot stands where its switch was last put, if it has one. -/
theorem holdsBit_afterCalls (o : RomOverrides) (slot : UInt8) (history : List SwitchCall) :
    (o.afterCalls history).holdsBit slot = (decide (slot.toNat < 16) && o.chosen slot history) := by
  by_cases hslot : slot.toNat < 16
  · -- on the calls before the latest one: only one for this slot, or for all switches, changes its bit
    rw [decide_eq_true hslot, Bool.true_and]
    induction history with
    | nil => rfl
    | cons call earlier ih =>
      cases call with
      | setAll enabled => exact ih
      | setSlot other enabled =>
        rw [afterCalls, after, holdsBit_setSlot, chosen, ih]
        simp only [hslot, and_true]
      | set overrides => rfl
  · rw [decide_eq_false hslot, holdsBit_of_le (by omega), Bool.false_and]

/-- After any calls, the built-in firmware has the window of a slot exactly if the history says so. -/
theorem isInternal_afterCalls (o : RomOverrides) (slot : UInt8) (history : List SwitchCall) :
    (o.afterCalls history).isInternal slot = true ↔ o.Replaced slot history := by
  rw [isInternal_eq, internalAll_afterCalls, holdsBit_afterCalls, Bool.or_eq_true, Bool.and_eq_true,
    decide_eq_true_iff]
  rfl

end RomOverrides

/-! ## Who serves a ROM window -/

namespace Backplane

variable {ω γ : Type}

/-- The backplane after a history of calls of the switches of a page, the latest call first. -/
def afterSwitchCalls (b : Backplane ω γ) (switches : Nat) : List SwitchCall → Backplane ω γ
  | [] => b
  | call :: earlier =>
    (b.afterSwitchCalls switches earlier).changeOverrides switches (·.after call)

variable {b : Backplane ω γ} {switches : Nat}

theorem hold_afterSwitchCalls (b : Backplane ω γ) (switches : Nat) (history : List SwitchCall) :
    (b.afterSwitchCalls switches history).hold = b.hold := by
  induction history with
  | nil => rfl
  | cons call earlier ih => exact ih

theorem size_afterSwitchCalls (b : Backplane ω γ) (switches : Nat) (history : List SwitchCall) :
    (b.afterSwitchCalls switches history).overrides.size = b.overrides.size := by
  induction history with
  | nil => rfl
  | cons call earlier ih => exact Array.size_modify.trans ih

/-- Switches that exist are changed as they are told to be. -/
theorem overridesOf_changeOverrides (h : switches < b.overrides.size)
    (f : RomOverrides → RomOverrides) :
    (b.changeOverrides switches f).overridesOf switches = f (b.overridesOf switches) := by
  unfold overridesOf changeOverrides
  rw [Array.getD_eq_getD_getElem?, Array.getD_eq_getD_getElem?, Array.getElem?_modify, if_pos rfl,
    Array.getElem?_eq_getElem h]
  rfl

/-- After a history of calls they stand where the history has put them. -/
theorem overridesOf_afterSwitchCalls (h : switches < b.overrides.size) (history : List SwitchCall) :
    (b.afterSwitchCalls switches history).overridesOf switches =
      (b.overridesOf switches).afterCalls history := by
  induction history with
  | nil => rfl
  | cons call earlier ih =>
    rw [afterSwitchCalls, overridesOf_changeOverrides (by rwa [size_afterSwitchCalls]), ih]
    rfl

end Backplane

namespace IoPage

variable {ω γ δ : Type} [Card γ δ ω] [Device δ ω]

/-- Accesses at an offset are the built-in firmware's. They change nothing about the selection, and tell
no card anything; the firmware, if it is attached, is called once with the page offset. -/
structure GoesToFirmware (s : IoPage δ × Backplane ω γ) (offset : UInt32) : Prop where
  untouched : s.1.touched s.2 offset = s.2
  called : ∀ firmware, s.1.internalRom = some firmware →
    CallsOnce s offset (.own .internalRom offset) firmware
  nobody : s.1.internalRom = none → CallsNobody s offset
  ownerOfRead : ∀ access, (read8 offset access s).2.2.rack.owner = s.2.rack.owner
  ownerOfWrite : ∀ value access, (write8 offset value access s).2.2.rack.owner = s.2.rack.owner

/-- Accesses at an offset are those of the ROM of the card in a slot, which gets the expansion window. -/
structure GoesToCard (s : IoPage δ × Backplane ω γ) (offset : UInt32) (slot : UInt8)
    (relative : UInt32) : Prop where
  called : ∀ rom, s.1.partAt? (s.1.touched s.2 offset) (.card slot .rom relative) = some rom →
    CallsOnce s offset (.card slot .rom relative) rom
  nobody : s.1.partAt? (s.1.touched s.2 offset) (.card slot .rom relative) = none →
    CallsNobody s offset
  ownerOfRead : (s.2.rack.card? slot).isSome = true → ∀ access,
    (read8 offset access s).2.2.rack.owner = some slot
  ownerOfWrite : (s.2.rack.card? slot).isSome = true → ∀ value access,
    (write8 offset value access s).2.2.rack.owner = some slot

variable {p : IoPage δ} {b : Backplane ω γ} {offset relative : UInt32} {slot : UInt8}

/-- With firmware chosen, the window goes to the firmware, and the slot does not hear of the access. -/
theorem goesToFirmware_of_isInternal (h : p.layout.IsContiguous) (hfree : b.hold = .free)
    (hin : p.layout.Holds offset (.slotRom slot relative))
    (hinternal : (b.overridesOf p.switches).isInternal slot = true) :
    GoesToFirmware (p, b) offset := by
  have hroutes := routes_of_free h hfree offset
  -- firmware hides the slot from the snoop, so that the touch does nothing at all
  have htouched : p.touched b offset = b := by
    rw [touched, Backplane.touch, IoPageLayout.classify_of_holds h hin]
    dsimp only
    rw [if_pos hinternal]
  have hserved : ServedBy (p, b) offset (.own .internalRom offset) := .firmware hin hinternal
  constructor
  · exact htouched
  · exact fun firmware hfirmware => hroutes.served _ firmware hserved hfirmware
  · intro hmissing
    refine hroutes.unserved fun seat hseat => ?_
    rw [hroutes.unique seat _ hseat hserved]
    exact hmissing
  · intro access
    rw [hroutes.ownerOfRead, htouched]
  · intro value access
    rw [hroutes.ownerOfWrite, htouched]

/-- Without it, the window goes to the card, which takes over the expansion window. -/
theorem goesToCard_of_not_isInternal (h : p.layout.IsContiguous) (hfree : b.hold = .free)
    (hin : p.layout.Holds offset (.slotRom slot relative))
    (hinternal : (b.overridesOf p.switches).isInternal slot = false) :
    GoesToCard (p, b) offset slot relative := by
  -- the rules of the page say all of it; what is left is to read them at this offset
  have hroutes := routes_of_free h hfree offset
  have hserved : ServedBy (p, b) offset (.card slot .rom relative) := .cardRom hin hinternal
  constructor
  · exact fun rom hrom => hroutes.served _ rom hserved hrom
  · intro hmissing
    refine hroutes.unserved fun seat hseat => ?_
    rw [hroutes.unique seat _ hseat hserved]
    exact hmissing
  · intro hcard access
    rw [hroutes.ownerOfRead]
    exact hroutes.selects.window slot relative hin hcard hinternal
  · intro hcard value access
    rw [hroutes.ownerOfWrite]
    exact hroutes.selects.window slot relative hin hcard hinternal

/-- Whether the ROM of a slot is replaced depends on the latest call for all slots and the latest one for
this slot, whatever was called for others, and by it accesses in its ROM window are the firmware's or
the card's. A slot above 15 has no switch of its own: calls for it are lost, though layouts that decode
it are valid. -/
theorem romWindow_afterSwitchCalls {config : MachineConfig} {io : IoPageConfig}
    (hvalid : config.validate = .ok ()) (hio : config.ioPage = some io) (hfits : io.layout.SumsFit)
    (hlayout : p.layout = io.layout) (hfree : b.hold = .free) (hswitches : p.switches < b.overrides.size)
    (history : List SwitchCall) (hin : io.layout.Holds offset (.slotRom slot relative)) :
    let o := b.overridesOf p.switches
    let after := b.afterSwitchCalls p.switches history
    ((after.overridesOf p.switches).isInternal slot = true ↔ o.Replaced slot history) ∧
      (o.Replaced slot history → GoesToFirmware (p, after) offset) ∧
      (¬o.Replaced slot history → GoesToCard (p, after) offset slot relative) := by
  intro o after
  -- that the layout is valid matters only here: each ROM window then is what the switches name
  have hcontiguous : p.layout.IsContiguous := by
    rw [hlayout]
    exact (IoPageLayout.isContiguous_iff _).2
      ⟨(MachineConfig.place_of_validate hvalid hio).1, hfits⟩
  have hfree' : after.hold = .free := (b.hold_afterSwitchCalls p.switches history).trans hfree
  have hinternal : (after.overridesOf p.switches).isInternal slot = true ↔ o.Replaced slot history := by
    rw [Backplane.overridesOf_afterSwitchCalls hswitches]
    exact o.isInternal_afterCalls slot history
  rw [← hlayout] at hin
  refine ⟨hinternal, fun hreplaced => ?_, fun hreplaced => ?_⟩
  · exact goesToFirmware_of_isInternal hcontiguous hfree' hin (hinternal.2 hreplaced)
  · exact goesToCard_of_not_isInternal hcontiguous hfree' hin
      (Bool.eq_false_iff.2 (mt hinternal.1 hreplaced))

/-- A layout with a slot above 15. -/
def sixteenSlots : IoPageLayout where
  softSwitchEnd := 0x40
  slotIoBase := 0x40
  slotIoSize := 1
  slotRomSize := 81
  expansionBase := 1377
  expansionEnd := 2048
  deselectOffset := 2047
  maxSlot := 16

/-- A machine with an I/O page of this layout. -/
def sixteenSlotMachine : MachineConfig where
  bus := Personality.legacy8.busConfig
  slotCount := 16
  ioPage := some ⟨0xC000, sixteenSlots⟩
  trapPolicy := .manual

/-- Its I/O page, with built-in firmware. -/
def withFirmware : IoPage Bench.Instrument where
  layout := sixteenSlots
  switches := 0
  internalRom := some (.rom ⟨Array.replicate 2048 0xC3⟩)

/-- Its rack, with a card in slot 16. -/
def lastSlotTaken : Backplane Bench.Host Bench.TestCard :=
  ({ emptyRack with rack := .empty 16 }.installCard 16 terminal).2

/-- The call for slot 16 is lost: accesses in its ROM window are still those of the card. -/
theorem romWindow_afterSwitchCalls_slotSixteen :
    let history : List SwitchCall := [.setSlot 16 true]
    let after := lastSlotTaken.afterSwitchCalls 0 history
    (sixteenSlotMachine.validate = .ok () ∧ sixteenSlots.SumsFit ∧ lastSlotTaken.hold = .free ∧
      0 < lastSlotTaken.overrides.size ∧ sixteenSlots.Holds 1296 (.slotRom 16 0)) ∧
    (lastSlotTaken.overridesOf 0).chosen 16 history = true ∧
      (read8 1296 (.read 0xC510 .byte .dataRead) (withFirmware, after)).1 = .ok 0x60 ∧
      (read8 1296 (.read 0xC510 .byte .dataRead) (withFirmware, after)).2.2.rack.owner = some 16 := by
  intro history after
  -- the history has chosen firmware for slot 16, and the switches have not taken it up
  have hlost : ¬(lastSlotTaken.overridesOf 0).Replaced 16 history := by
    rintro (hall | ⟨hslot, -⟩)
    · exact absurd hall (by decide)
    · exact absurd hslot (by decide)
  obtain ⟨-, -, hcard⟩ := romWindow_afterSwitchCalls (p := withFirmware) (b := lastSlotTaken)
    (by decide : sixteenSlotMachine.validate = .ok ()) rfl (by decide) rfl rfl (by decide) history
    (by decide : sixteenSlots.Holds 1296 (.slotRom 16 0))
  have hgoes : GoesToCard (withFirmware, after) 1296 16 0 := hcard hlost
  have hrom : withFirmware.partAt? (withFirmware.touched after 1296) (.card 16 .rom 0) =
      some (.rom ⟨#[0x60]⟩) := by rfl
  refine ⟨⟨by decide, by decide, rfl, by decide, by decide⟩, by decide, ?_, ?_⟩
  · rw [(hgoes.called _ hrom).read]
    rfl
  · exact hgoes.ownerOfRead (by rfl) _

end IoPage

end Motherboard
