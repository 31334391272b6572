import Motherboard.Proofs.Decoders

/-!
# The RAM cells of banked memory

What device cycles do to the RAM behind bank switches, wherever its two faces are fitted: as targets of
the bus, among the own parts of an I/O page, or on a card. Reads throw switches, but they leave every
cell (`Bus.ramCells?_read`). Writes leave the cells of a memory whose writing is disabled, and cannot
enable it (`Bus.isSealed_write`).

Both are facts about the board, carried through everything that a cycle may go through: rows of byte
cycles (`Cycle.read_keeps`, `Cycle.write_keeps`), parts, and I/O pages (`IoPage.cycle_keeps`).
-/

namespace Motherboard

namespace BankedMemory

/-- The RAM cells of the memory with a number: both lower banks, and the upper part. -/
def ramCells? (banked : Array BankedMemory) (memory : Nat) :
    Option (Array UInt8 × Array UInt8 × Array UInt8) :=
  (banked[memory]?).map fun m => (m.low1, m.low2, m.high)

/-- Writing to the memory with a number is enabled. -/
def isArmed (banked : Array BankedMemory) (memory : Nat) : Bool :=
  (banked[memory]?).any fun m => m.state.writeEnabled

/-- The memory with a number has these cells, and writing to it is disabled. -/
def IsSealed (memory : Nat) (cells : Option (Array UInt8 × Array UInt8 × Array UInt8))
    (banked : Array BankedMemory) : Prop :=
  ramCells? banked memory = cells ∧ isArmed banked memory = false

end BankedMemory

open BankedMemory

/-! ## Rows of byte cycles -/

namespace Cycle

variable {σ : Type} {J : σ → Prop}

/-- What a byte read keeps, a row of them keeps. -/
theorem readLanesFrom_keeps {read8 : UInt32 → Access → Cycle σ UInt8}
    (h : ∀ offset access s, J s → J (read8 offset access s).2) (offset : UInt32) (access : Access)
    (lanes : List Nat) (value : UInt32) {s : σ} (hs : J s) :
    J (readLanesFrom read8 offset access lanes value s).2 := by
  induction lanes generalizing value s with
  | nil => exact hs
  | cons i lanes ih =>
    have hstep := h (offset + i.toUInt32) (access.lane i) s hs
    rw [readLanesFrom]
    -- a refused byte ends the row where it is; an answered one goes on
    rcases hcycle : read8 (offset + i.toUInt32) (access.lane i) s with ⟨_ | byte, after⟩
    · rw [hcycle] at hstep
      exact hstep
    · rw [hcycle] at hstep
      exact ih _ hstep

/-- What a byte write keeps, a row of them keeps, to its end or to its first error. -/
theorem writeLanesFrom_keeps {write8 : UInt32 → UInt8 → Access → Cycle σ Unit}
    (h : ∀ offset value access s, J s → J (write8 offset value access s).2) (offset : UInt32)
    (access : Access) (lanes : List Nat) {s : σ} (hs : J s) :
    J (writeLanesFrom write8 offset access lanes s).2 := by
  induction lanes generalizing s with
  | nil => exact hs
  | cons i lanes ih =>
    have hstep := h (offset + i.toUInt32) (access.lane i).value.toUInt8 (access.lane i) s hs
    rw [writeLanesFrom]
    -- a refused byte ends the row where it is; an answered one goes on
    rcases hcycle : write8 (offset + i.toUInt32) (access.lane i).value.toUInt8 (access.lane i) s
      with ⟨_ | _, after⟩
    · rw [hcycle] at hstep
      exact hstep
    · rw [hcycle] at hstep
      exact ih hstep

/-- What every byte cycle keeps, a read of any width keeps. -/
theorem read_keeps {read8 : UInt32 → Access → Cycle σ UInt8}
    (h : ∀ offset access s, J s → J (read8 offset access s).2) (width : Width) (offset : UInt32)
    (access : Access) {s : σ} (hs : J s) : J (Cycle.read read8 width offset access s).2 := by
  cases width with
  | byte => exact h offset access s hs
  | word => exact readLanesFrom_keeps h offset access _ 0 hs
  | dword => exact readLanesFrom_keeps h offset access _ 0 hs

/-- What a byte write keeps, a wide write keeps. -/
theorem write_keeps {write8 : UInt32 → UInt8 → Access → Cycle σ Unit}
    (h : ∀ offset value access s, J s → J (write8 offset value access s).2) (width : Width)
    (offset value : UInt32) (access : Access) {s : σ} (hs : J s) :
    J (Cycle.write write8 width offset value access s).2 := by
  cases width with
  | byte => exact h offset value.toUInt8 access s hs
  | word => exact writeLanesFrom_keeps h offset _ _ hs
  | dword => exact writeLanesFrom_keeps h offset _ _ hs

end Cycle

/-! ## The board -/

namespace Board

variable {ω : Type} {memory : Nat} {cells : Option (Array UInt8 × Array UInt8 × Array UInt8)}

/-- The switches choose cells and change none. -/
theorem ramCells?_switchBank (b : Board ω) (other : Nat) (offset : UInt32) (write : Bool) :
    ramCells? (b.switchBank other offset write).banked memory = ramCells? b.banked memory := by
  unfold ramCells? switchBank
  rw [Array.getElem?_modify]
  split_ifs
  · cases b.banked[memory]? <;> rfl
  · rfl

/-- A write to a switch cannot enable writing: that takes reads. -/
theorem isArmed_switchBank {b : Board ω} (h : isArmed b.banked memory = false) (other : Nat)
    (offset : UInt32) : isArmed (b.switchBank other offset true).banked memory = false := by
  unfold isArmed switchBank at *
  rw [Array.getElem?_modify]
  split_ifs
  · cases hmemory : b.banked[memory]? with
    | none => rfl
    | some m =>
      rw [hmemory] at h
      -- a write leaves writing enabled at most where it was before
      have hdisabled : m.state.writeEnabled = false := h
      simp [switch, BankState.switched, hdisabled]
  · exact h

/-- A write to the switches changes no cell, and it never enables writing, for which it takes two reads in
a row. -/
theorem isSealed_writeSwitch {b : Board ω} (h : IsSealed memory cells b.banked) (other : Nat)
    (offset : UInt32) (value : UInt8) (access : Access) :
    IsSealed memory cells (writeSwitch other offset value access b).2.banked :=
  ⟨(b.ramCells?_switchBank other offset true).trans h.1, isArmed_switchBank h.2 other offset⟩

/-- A write to the window of a sealed memory stores nothing in it. -/
theorem isSealed_writeBanked {b : Board ω} (h : IsSealed memory cells b.banked) (other : Nat)
    (offset : UInt32) (value : UInt8) (access : Access) :
    IsSealed memory cells (writeBanked other offset value access b).2.banked := by
  unfold writeBanked
  cases hother : b.banked[other]? with
  | none => exact h
  | some m =>
    dsimp only [setBanked]
    by_cases hsame : other = memory
    · -- a write to the sealed memory is ignored
      subst hsame
      have hdisabled : m.state.writeEnabled = false := by
        have harmed := h.2
        rw [isArmed, hother] at harmed
        exact harmed
      have hignored : m.write offset value = (.ok (), m) := by
        rw [BankedMemory.write, if_neg (by rw [hdisabled]; decide)]
      have hself : b.banked.setIfInBounds other m = b.banked := by
        apply Array.ext_getElem?
        intro i
        rw [Array.getElem?_setIfInBounds]
        split_ifs with hi
        · rw [← hi, hother]
        · rw [← hi, Array.getElem?_eq_none (by omega)]
        · rfl
      rw [hignored, hself]
      exact h
    · have hkept : ∀ m : BankedMemory, (b.banked.setIfInBounds other m)[memory]? = b.banked[memory]? :=
        fun m => Array.getElem?_setIfInBounds_ne hsame
      unfold IsSealed ramCells? isArmed at h ⊢
      rw [hkept]
      exact h

end Board

/-! ## Parts -/

namespace Part

variable {δ ω : Type} [Device δ ω] {memory : Nat}
  {cells : Option (Array UInt8 × Array UInt8 × Array UInt8)}

/-- A read of any part leaves the cells. -/
theorem ramCells?_read (width : Width) (offset : UInt32) (access : Access) (part : Part δ)
    (b : Board ω) :
    ramCells? (Part.read width offset access (part, b)).2.2.banked memory =
      ramCells? b.banked memory := by
  cases part with
  | ram store | rom store | device d => rfl
  -- a read of a switch turns it
  | bankSwitches other =>
    refine Cycle.read_keeps (J := fun after : Board ω =>
      ramCells? after.banked memory = ramCells? b.banked memory) ?_ width offset access rfl
    intro offset access after h
    exact (after.ramCells?_switchBank other offset false).trans h
  -- a read of the window changes nothing
  | bankWindow other =>
    refine Cycle.read_keeps (J := fun after : Board ω =>
      ramCells? after.banked memory = ramCells? b.banked memory) ?_ width offset access rfl
    intro offset access after h
    unfold Board.readBanked
    cases after.banked[other]? <;> exact h

/-- A write of any part leaves a sealed memory sealed. -/
theorem isSealed_write {b : Board ω} (h : IsSealed memory cells b.banked) (width : Width)
    (offset value : UInt32) (access : Access) (part : Part δ) :
    IsSealed memory cells (Part.write width offset value access (part, b)).2.2.banked := by
  cases part with
  | ram store | rom store | device d => exact h
  | bankSwitches other =>
    refine Cycle.write_keeps (J := fun after : Board ω => IsSealed memory cells after.banked) ?_
      width offset value access h
    intro offset value access after hafter
    exact Board.isSealed_writeSwitch hafter other offset value access
  -- a sealed memory does not hear the write; any other memory is not this one
  | bankWindow other =>
    refine Cycle.write_keeps (J := fun after : Board ω => IsSealed memory cells after.banked) ?_
      width offset value access h
    intro offset value access after hafter
    exact Board.isSealed_writeBanked hafter other offset value access

end Part

/-! ## I/O pages -/

namespace IoPage

variable {ω γ δ : Type} [Card γ δ ω] {I : Array BankedMemory → Prop}

/-- A part that is put back leaves the memories as its own cycle left them. -/
theorem banked_replaceAt (p : IoPage δ) (b : Backplane ω γ) (seat : Seat) (part : Part δ)
    {board : Board ω} (hb : I b.banked) (hboard : I board.banked) :
    I (p.replaceAt b seat part board).2.banked := by
  cases seat with
  | own own relative => exact hboard
  | card slot region relative =>
    unfold replaceAt
    dsimp only
    cases b.rack.card? slot with
    | none => exact hb
    | some card => exact hboard

/-- What the cycles of all parts keep of the banked memories, a cycle of an I/O page keeps. -/
theorem cycle_keeps {α : Type} {c : UInt32 → Cycle (Part δ × Board ω) α}
    (h : ∀ relative part b, I b.banked → I (c relative (part, b)).2.2.banked) (offset : UInt32)
    {s : IoPage δ × Backplane ω γ} (hs : I s.2.banked) : I (cycle c offset s).2.2.banked := by
  obtain ⟨p, b⟩ := s
  by_cases hfree : b.hold = .free
  · -- the touch moves the window, which is no memory; only the part that answers can reach one
    have htouched : I (p.touched b offset).banked := by
      rw [(p.keepsBoard_touched b offset).banked]
      exact hs
    rw [cycle_eq_touched hfree]
    dsimp only
    cases p.dispatched? (p.touched b offset) offset with
    | none => exact htouched
    | some found =>
      obtain ⟨seat, part⟩ := found
      exact banked_replaceAt p _ seat _ htouched (h _ _ _ htouched)
  · unfold cycle
    dsimp only
    rw [if_neg hfree]
    exact hs

variable [Device δ ω] {memory : Nat} {cells : Option (Array UInt8 × Array UInt8 × Array UInt8)}

/-- A byte read of an I/O page stores in no memory. -/
theorem ramCells?_read8 (offset : UInt32) (access : Access) {s : IoPage δ × Backplane ω γ}
    (hs : ramCells? s.2.banked memory = cells) :
    ramCells? (read8 offset access s).2.2.banked memory = cells := by
  have hcycle := cycle_keeps (I := fun banked => ramCells? banked memory = cells)
    (c := fun relative => Part.read .byte relative access)
    (fun relative part b hb => (Part.ramCells?_read .byte relative access part b).trans hb) offset hs
  unfold read8
  rcases hresult : cycle (fun relative => Part.read .byte relative access) offset s with
    ⟨_ | _ | byte, p, b⟩ <;>
  · rw [hresult] at hcycle
    exact hcycle

/-- A byte write of one keeps a sealed memory sealed. -/
theorem isSealed_write8 (offset : UInt32) (value : UInt8) (access : Access)
    {s : IoPage δ × Backplane ω γ} (hs : IsSealed memory cells s.2.banked) :
    IsSealed memory cells (write8 offset value access s).2.2.banked :=
  cycle_keeps (c := fun relative => Part.write .byte relative value.toUInt32 access)
    (fun relative part _ hb => Part.isSealed_write hb .byte relative value.toUInt32 access part)
    offset hs

end IoPage

/-! ## The bus -/

namespace Bus

variable {ω δ γ : Type} {memory : Nat} {cells : Option (Array UInt8 × Array UInt8 × Array UInt8)}

/-- What no target takes from the banked memories, the bus keeps of them. -/
theorem banked_onTarget {I : Array BankedMemory → Prop} {α : Type} {bus : Bus ω δ γ} (id : TargetId)
    (missing : α) {f : Target δ → Backplane ω γ → α × Target δ × Backplane ω γ}
    (h : ∀ t, I (f t bus.backplane).2.2.banked) (hbus : I bus.backplane.banked) :
    I (bus.onTarget id missing f).2.backplane.banked := by
  rw [backplane_onTarget]
  cases bus.target? id with
  | none => exact hbus
  | some t => exact h t

variable [Device δ ω] [Card γ δ ω]

/-- A read of any target leaves the cells. -/
theorem ramCells?_read {bus : Bus ω δ γ} (h : ramCells? bus.backplane.banked memory = cells)
    (id : TargetId) (width : Width) (offset : UInt32) (access : Access) :
    ramCells? (answer (.read id width offset access) bus).2.backplane.banked memory = cells := by
  refine banked_onTarget (I := fun banked => ramCells? banked memory = cells) id _ ?_ h
  rintro (part | p)
  · exact (Part.ramCells?_read width offset access part bus.backplane.toBoard).trans h
  · exact Cycle.read_keeps
      (J := fun s : IoPage δ × Backplane ω γ => ramCells? s.2.banked memory = cells)
      (fun offset access s hs => IoPage.ramCells?_read8 offset access hs) width offset access h

/-- A write of any target leaves a sealed memory sealed. -/
theorem isSealed_write {bus : Bus ω δ γ} (h : IsSealed memory cells bus.backplane.banked)
    (id : TargetId) (width : Width) (offset value : UInt32) (access : Access) :
    IsSealed memory cells
      (answer (.write id width offset value access) bus).2.backplane.banked := by
  refine banked_onTarget id _ ?_ h
  rintro (part | p)
  · exact Part.isSealed_write h width offset value access part
  · exact Cycle.write_keeps
      (J := fun s : IoPage δ × Backplane ω γ => IsSealed memory cells s.2.banked)
      (fun offset value access s hs => IoPage.isSealed_write8 offset value access hs) width offset
      value access h

theorem banked_peek (bus : Bus ω δ γ) (id : TargetId) (offset : UInt32) :
    (answer (.peek id offset) bus).2.backplane.banked = bus.backplane.banked :=
  banked_onTarget (I := fun banked => banked = bus.backplane.banked) id _ (fun _ => rfl) rfl

end Bus

end Motherboard
