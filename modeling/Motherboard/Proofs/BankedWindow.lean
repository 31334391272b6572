import Motherboard.Proofs.WriteArming

/-!
# The window of banked memory as a memory

Through its window a banked memory is used like any other memory, but which cell an offset means depends
on the switches, and so does whether a write is heard. Here the window is compared with a picture that is
read off the history of calls alone: each RAM cell holds the byte stored in it last, or zero
(`lastStored?`), the firmware holds its image, and the switches as they stand say which of them is shown
(`shown`).

## Results

* `after_of_stores`, `after_of_not_stores` — a call replaces one cell, or none.
* `Holds.after`                            — so it keeps the cells in step with the history.
* `showsHistory_afterDealings`             — what the window shows and takes after every history.
-/

namespace Motherboard

open BankedMemory

/-! ## Cells -/

/-- A RAM cell behind the window. -/
inductive BankCell where
  /-- In the first lower bank. -/
  | low1 (i : Nat)
  /-- In the second lower bank. -/
  | low2 (i : Nat)
  /-- In the upper part. -/
  | high (i : Nat)
  deriving DecidableEq

/-- There is such a cell. -/
def BankCell.IsThere : BankCell → Prop
  | .low1 i | .low2 i => i < bankSize
  | .high i => i < highSize

/-- The cell that an offset in the window means, as the switches stand. -/
def BankState.cellAt (s : BankState) (offset : UInt32) : BankCell :=
  if offset.toNat < bankSize then
    if s.bank2 then .low2 offset.toNat else .low1 offset.toNat
  else
    .high (offset.toNat - bankSize)

/-- The cell in which a call stores a byte, with the byte, as the switches stand. Writes are heard while
writing is enabled, whatever reads see. -/
def BankDealing.store? (s : BankState) : BankDealing → Option (BankCell × UInt8)
  | .window (.write offset value _) =>
    if s.writeEnabled = true ∧ offset.toNat < windowSize then some (s.cellAt offset, value) else none
  | .window (.poke offset value) =>
    if offset.toNat < windowSize then some (s.cellAt offset, value) else none
  | _ => none

/-- The byte that was stored last in a cell. -/
def lastStored? : List BankDealing → BankCell → Option UInt8
  | [], _ => none
  | d :: past, cell =>
    match d.store? (.afterTouches (touches past)) with
    | some (place, value) => if place = cell then some value else lastStored? past cell
    | none => lastStored? past cell

/-- The byte at an offset in the window: of the firmware image, padded with zeros, or of the RAM cell that
the offset means. -/
def shown (image : Array UInt8) (history : List BankDealing) (offset : UInt32) : UInt8 :=
  let s := BankState.afterTouches (touches history)
  if s.readRam then (lastStored? history (s.cellAt offset)).getD 0 else image.getD offset.toNat 0

/-- An offset inside the window shows a cell that exists. -/
theorem BankState.isThere_cellAt (s : BankState) {offset : UInt32} (h : offset.toNat < windowSize) :
    (s.cellAt offset).IsThere := by
  unfold windowSize at h
  unfold cellAt
  split_ifs with hlow hbank
  · exact hlow
  · exact hlow
  · show offset.toNat - bankSize < highSize
    omega

namespace BankedMemory

/-! ## What a call does to the cells -/

/-- The byte in a cell. -/
def cell? (m : BankedMemory) : BankCell → Option UInt8
  | .low1 i => m.low1[i]?
  | .low2 i => m.low2[i]?
  | .high i => m.high[i]?

/-- The memory with the byte in a cell replaced. -/
def setCell (m : BankedMemory) (value : UInt8) : BankCell → BankedMemory
  | .low1 i => { m with low1 := m.low1.setIfInBounds i value }
  | .low2 i => { m with low2 := m.low2.setIfInBounds i value }
  | .high i => { m with high := m.high.setIfInBounds i value }

/-- Both banks, the upper part and the firmware have their sizes. -/
structure IsWhole (m : BankedMemory) : Prop where
  low1 : m.low1.size = bankSize
  low2 : m.low2.size = bankSize
  high : m.high.size = highSize

variable {m : BankedMemory} {d : BankDealing} {cell other : BankCell} {offset : UInt32} {value : UInt8}

/-- Storing a byte keeps the memory whole. -/
theorem IsWhole.setCell (h : m.IsWhole) (value : UInt8) (cell : BankCell) :
    (m.setCell value cell).IsWhole := by
  obtain ⟨hlow1, hlow2, hhigh⟩ := h
  cases cell with
  | low1 i => exact ⟨Array.size_setIfInBounds.trans hlow1, hlow2, hhigh⟩
  | low2 i => exact ⟨hlow1, Array.size_setIfInBounds.trans hlow2, hhigh⟩
  | high i => exact ⟨hlow1, hlow2, Array.size_setIfInBounds.trans hhigh⟩

@[simp] theorem rom_setCell (m : BankedMemory) (value : UInt8) (cell : BankCell) :
    (m.setCell value cell).rom = m.rom := by
  cases cell <;> rfl

/-- What was put is there, and nothing else has changed. -/
theorem getElem?_put {bytes : Array UInt8} {i : Nat} (h : i < bytes.size) (value : UInt8) (j : Nat) :
    (bytes.setIfInBounds i value)[j]? = if i = j then some value else bytes[j]? := by
  rw [Array.getElem?_setIfInBounds, if_pos h]

/-- Replacing the byte in a cell shows in that cell only. -/
theorem cell?_setCell (h : m.IsWhole) (hcell : cell.IsThere) (value : UInt8) (other : BankCell) :
    (m.setCell value cell).cell? other = if cell = other then some value else m.cell? other := by
  cases cell with
  -- cells of different banks never meet; those of one bank differ by their place
  | low1 i =>
    cases other with
    | low1 j => simpa [BankedMemory.setCell, cell?] using getElem?_put (h.low1.symm ▸ hcell) value j
    | _ => rfl
  | low2 i =>
    cases other with
    | low2 j => simpa [BankedMemory.setCell, cell?] using getElem?_put (h.low2.symm ▸ hcell) value j
    | _ => rfl
  | high i =>
    cases other with
    | high j => simpa [BankedMemory.setCell, cell?] using getElem?_put (h.high.symm ▸ hcell) value j
    | _ => rfl

/-- The RAM behind an offset is the cell that the state of the switches chooses. -/
theorem ram?_eq (m : BankedMemory) (offset : UInt32) : m.ram? offset = m.cell? (m.state.cellAt offset) := by
  unfold ram? BankState.cellAt
  dsimp only
  split_ifs <;> rfl

/-- A byte can be stored exactly inside the window, and it is stored in the cell that is chosen. -/
theorem store?_eq (h : m.IsWhole) (offset : UInt32) (value : UInt8) : m.store? offset value =
    if offset.toNat < windowSize then some (m.setCell value (m.state.cellAt offset)) else none := by
  unfold store? BankState.cellAt
  rw [h.low1, h.low2, h.high]
  by_cases hlow : offset.toNat < bankSize
  · have hin : offset.toNat < windowSize := Nat.lt_of_lt_of_le hlow (Nat.le_add_right _ _)
    simp only [if_pos hlow, if_pos hin]
    cases m.state.bank2 <;> rfl
  · -- above the banks, what is inside the window is inside the upper part
    have hin : offset.toNat - bankSize < highSize ↔ offset.toNat < windowSize := by
      unfold windowSize
      omega
    simp only [if_neg hlow, hin]
    rfl

/-- A call that stores a byte replaces that in its cell, and nothing else. -/
theorem after_of_stores (h : m.IsWhole) (hstore : d.store? m.state = some (cell, value)) :
    cell.IsThere ∧ m.after d = m.setCell value cell := by
  cases d with
  | switches call => cases hstore
  | window call =>
    cases call with
    | write offset byte access =>
      dsimp only [BankDealing.store?] at hstore
      split_ifs at hstore with hheard
      -- A write is heard only while writing is enabled; a poke does not ask.
      obtain ⟨henabled, hin⟩ := hheard
      cases hstore
      refine ⟨m.state.isThere_cellAt hin, ?_⟩
      rw [after, write, if_pos henabled, store?_eq h, if_pos hin]
    | poke offset byte =>
      dsimp only [BankDealing.store?] at hstore
      split_ifs at hstore with hin
      cases hstore
      refine ⟨m.state.isThere_cellAt hin, ?_⟩
      rw [after, poke, store?_eq h, if_pos hin]
    | _ => cases hstore

/-- Any other call changes the switches at most. -/
theorem after_of_not_stores (h : m.IsWhole) (hstore : d.store? m.state = none) :
    m.after d = { m with state := (m.after d).state } := by
  cases d with
  | switches call => cases call <;> rfl
  | window call =>
    cases call with
    | write offset value access =>
      dsimp only [BankDealing.store?] at hstore
      split_ifs at hstore with hheard
      rw [after, write]
      split_ifs with henabled
      · -- beyond the window there is nothing to store in
        rw [store?_eq h, if_neg fun hin => hheard ⟨henabled, hin⟩]
      · rfl
    | poke offset value =>
      dsimp only [BankDealing.store?] at hstore
      split_ifs at hstore with hin
      rw [after, poke, store?_eq h, if_neg hin]
    | _ => rfl

/-! ## Histories -/

/-- The memory holds what the history of its calls says. -/
structure Holds (image : Array UInt8) (history : List BankDealing) (m : BankedMemory) : Prop where
  whole : m.IsWhole
  state : m.state = .afterTouches (touches history)
  cells : ∀ cell : BankCell, cell.IsThere → m.cell? cell = some ((lastStored? history cell).getD 0)
  rom : ∀ i < windowSize, m.rom[i]? = some (image.getD i 0)

/-- At power-on all cells are zero and the firmware is the image. -/
theorem holds_ofRom (image : Array UInt8) : Holds image [] (.ofRom image) where
  whole := ⟨Array.size_replicate, Array.size_replicate, Array.size_replicate⟩
  state := rfl
  cells := by
    intro cell hcell
    cases cell with
    | low1 i | low2 i =>
      have hi : i < bankSize := hcell
      show (Array.replicate bankSize (0 : UInt8))[i]? = some 0
      rw [Array.getElem?_replicate, if_pos hi]
    | high i =>
      have hi : i < highSize := hcell
      show (Array.replicate highSize (0 : UInt8))[i]? = some 0
      rw [Array.getElem?_replicate, if_pos hi]
  -- A short image is filled up and a long one is cut.
  rom := by
    intro i hi
    rw [ofRom, fitRom, Array.getElem?_ofFn, dif_pos hi]

/-- One dealing keeps history and memory in agreement. -/
theorem Holds.after {image : Array UInt8} {past : List BankDealing} (h : Holds image past m)
    (d : BankDealing) : Holds image (d :: past) (m.after d) := by
  have hstate := state_after h.state d
  -- whether the call stores anything goes by the switches, and the history knows them
  cases hstore : d.store? m.state with
  | none =>
    have hafter := after_of_not_stores h.whole hstore
    rw [h.state] at hstore
    refine ⟨?_, hstate, ?_, ?_⟩
    · rw [hafter]
      exact ⟨h.whole.low1, h.whole.low2, h.whole.high⟩
    · intro cell hcell
      rw [hafter, lastStored?, hstore]
      exact h.cells cell hcell
    · rw [hafter]
      exact h.rom
  | some stored =>
    obtain ⟨cell, value⟩ := stored
    obtain ⟨hcell, hafter⟩ := after_of_stores h.whole hstore
    rw [h.state] at hstore
    refine ⟨?_, hstate, ?_, ?_⟩
    · rw [hafter]
      exact h.whole.setCell value cell
    · intro other hother
      rw [hafter, cell?_setCell h.whole hcell, lastStored?, hstore]
      dsimp only
      split_ifs
      · rfl
      · exact h.cells other hother
    · rw [hafter, rom_setCell]
      exact h.rom

/-- By induction on the history, they agree after any dealings. -/
theorem holds_afterDealings (image : Array UInt8) (history : List BankDealing) :
    Holds image history (afterDealings image history) := by
  induction history with
  | nil => exact holds_ofRom image
  | cons d past ih => exact ih.after d

/-- What the window shows at an offset is what the history says it shows. -/
theorem Holds.visible?_eq {image : Array UInt8} {history : List BankDealing} (h : Holds image history m)
    (hin : offset.toNat < windowSize) : m.visible? offset = some (shown image history offset) := by
  unfold visible? shown
  rw [ram?_eq, h.cells _ (m.state.isThere_cellAt hin), h.rom _ hin, h.state]
  dsimp only
  split_ifs <;> rfl

end BankedMemory

/-! ## The window on the board -/

namespace Board

variable {ω : Type}

/-- The byte in a RAM cell of the memory with a number. -/
def cell? (b : Board ω) (memory : Nat) (cell : BankCell) : Option UInt8 :=
  (b.banked[memory]?).bind fun m => m.cell? cell

/-- Putting back the memory that is there changes nothing. -/
theorem setBanked_self {b : Board ω} {memory : Nat} {m : BankedMemory}
    (h : b.banked[memory]? = some m) : b.setBanked memory m = b := by
  obtain ⟨hsize, hm⟩ := Array.getElem?_eq_some_iff.1 h
  rw [setBanked, ← hm, Array.setIfInBounds_def, dif_pos hsize, Array.set_getElem_self]

/-- A write to the window changes the memory behind it and nothing else of the board. -/
theorem writeBanked_eq {b : Board ω} {memory : Nat} {m : BankedMemory}
    (h : b.banked[memory]? = some m) (offset : UInt32) (value : UInt8) (access : Access) :
    writeBanked memory offset value access b =
      ((m.write offset value).1, b.setBanked memory (m.write offset value).2) := by
  rw [writeBanked, h]

variable (δ : Type) [Device δ ω]

/-- What is known of the window of a memory over a firmware image when the history of the calls of both
faces is known. -/
structure ShowsHistory (memory : Nat) (image : Array UInt8) (history : List BankDealing)
    (b : Board ω) : Prop where
  /-- Both faces go by the switches as the accesses to them have left them. -/
  state : (b.banked[memory]?).map BankedMemory.state = some (.afterTouches (touches history))
  /-- A read changes nothing. -/
  read : ∀ offset access, offset.toNat < windowSize →
    Part.read .byte offset access ((.bankWindow memory : Part δ), b) =
      (.ok (shown image history offset).toUInt32, .bankWindow memory, b)
  peek : ∀ offset, offset.toNat < windowSize →
    (.bankWindow memory : Part δ).peek offset b = (some (shown image history offset), b.host)
  /-- A write is never refused, heard or not. -/
  write : ∀ offset value access, offset.toNat < windowSize →
    (Part.write .byte offset value access ((.bankWindow memory : Part δ), b)).1 = .ok ()
  /-- One that is not heard changes nothing. -/
  ignored : (BankState.afterTouches (touches history)).writeEnabled = false →
    ∀ offset value access, Part.write .byte offset value access ((.bankWindow memory : Part δ), b) =
      (.ok (), .bankWindow memory, b)
  poke : ∀ offset value, offset.toNat < windowSize →
    ((.bankWindow memory : Part δ).poke offset value b).1 = true
  /-- Every RAM cell, shown or not, holds the byte stored in it last. -/
  cells : ∀ cell : BankCell, cell.IsThere →
    b.cell? memory cell = some ((lastStored? history cell).getD 0)
  /-- One more call changes the cell that it stores in, and no other. -/
  changes : ∀ (d : BankDealing) (cell : BankCell), cell.IsThere →
    (b.afterDealing δ memory d).cell? memory cell =
      match d.store? (.afterTouches (touches history)) with
      | some (place, value) => if place = cell then some value else b.cell? memory cell
      | none => b.cell? memory cell
  /-- The firmware is the image, cut or padded with zeros. -/
  firmware : ∀ i < windowSize, (b.banked[memory]?).bind (fun m => m.rom[i]?) = some (image.getD i 0)

/-- A memory that agrees with a history shows it in each of its calls. -/
theorem showsHistory_of_holds {memory : Nat} {b : Board ω} {m : BankedMemory}
    (hm : b.banked[memory]? = some m) {image : Array UInt8} {history : List BankDealing}
    (h : m.Holds image history) : ShowsHistory δ memory image history b where
  state := by
    rw [hm, ← h.state]
    rfl
  read := by
    intro offset access hin
    show Part.onBoard (Cycle.map UInt8.toUInt32 (readBanked memory offset access)) _ b = _
    simp only [Part.onBoard, Cycle.map, readBanked, hm, BankedMemory.read, h.visible?_eq hin, Except.map]
  peek := by
    intro offset hin
    simp only [Part.peek, hm, Option.bind_some, h.visible?_eq hin]
  write := by
    intro offset value access hin
    show (writeBanked memory offset value.toUInt8 access b).1 = _
    rw [writeBanked_eq hm, BankedMemory.write, store?_eq h.whole, if_pos hin]
    split_ifs <;> rfl
  -- while writing is disabled, the write is answered as done and nothing has happened
  ignored := by
    intro hdisabled offset value access
    have hunheard : m.write offset value.toUInt8 = (.ok (), m) := by
      rw [BankedMemory.write, h.state, hdisabled]
      rfl
    show Part.onBoard (writeBanked memory offset value.toUInt8 access) _ b = _
    rw [Part.onBoard, writeBanked_eq hm, hunheard, setBanked_self hm]
  poke := by
    intro offset value hin
    simp only [Part.poke, hm, BankedMemory.poke, store?_eq h.whole, if_pos hin]
  cells := by
    intro cell hcell
    rw [cell?, hm, Option.bind_some, h.cells cell hcell]
  -- A dealing changes the one cell it stores to, and none if it does not store.
  changes := by
    intro d cell hcell
    rw [cell?, cell?, banked_afterDealing δ hm d, hm, Option.bind_some, Option.bind_some,
      (h.after d).cells cell hcell, h.cells cell hcell, lastStored?]
    cases d.store? (.afterTouches (touches history)) with
    | none => rfl
    | some stored =>
      dsimp only
      split_ifs <;> rfl
  firmware := by
    intro i hi
    rw [hm, Option.bind_some, h.rom i hi]

/-- However the two faces of a banked memory have been used since power-on, over a firmware image of any
length, reads and looks show, and writes and pokes store, what the history of these calls says; a call
changes one cell at most, and a reset none. -/
theorem showsHistory_afterDealings (b : Board ω) (image : Array UInt8) (history : List BankDealing) :
    ShowsHistory δ b.banked.size image history
      ((b.withMemory image).afterDealings δ b.banked.size history) :=
  showsHistory_of_holds δ (banked_afterDealings δ b image history)
    (BankedMemory.holds_afterDealings image history)

end Board

end Motherboard
