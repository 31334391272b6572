import Motherboard.Proofs.BusRun
import Motherboard.Proofs.PlainStorage

/-!
# Memory cells of a bus

A bus whose pages lead to RAM is a memory of *cells*: a cell is a target and an offset in it. Reading
a cell (`Bus.cell?`) and storing one (`Bus.setCell`) obey the laws of a memory, whatever else is on
the bus. Here are these laws, and what RAM answers to the requests of the bus in terms of them.
-/

namespace Motherboard

/-! ## Cells -/

/-- A byte of a target. -/
structure Cell where
  /-- The target. -/
  target : TargetId
  /-- Place in the target. -/
  offset : UInt32
  deriving DecidableEq

namespace Bus

variable {ω δ γ : Type}

/-- The RAM that is a target. -/
def ram? (bus : Bus ω δ γ) (id : TargetId) : Option Storage :=
  match bus.target? id with
  | some (.part (.ram store)) => some store
  | _ => none

/-- The bus with other RAM as a target. -/
def setRam (bus : Bus ω δ γ) (id : TargetId) (store : Storage) : Bus ω δ γ :=
  { bus with targets := bus.targets.setIfInBounds id.index (.part (.ram store)) }

/-- The byte in a cell of RAM. -/
def cell? (bus : Bus ω δ γ) (c : Cell) : Option UInt8 :=
  (bus.ram? c.target).bind fun store => store.get? c.offset

/-- The byte in a cell, zero where there is none. -/
def byteAt (bus : Bus ω δ γ) (c : Cell) : UInt8 :=
  (bus.cell? c).getD 0

/-- The bus with another byte in a cell; where there is no such cell, nothing changes. -/
def setCell (bus : Bus ω δ γ) (c : Cell) (byte : UInt8) : Bus ω δ γ :=
  match bus.ram? c.target with
  | some store => bus.setRam c.target ⟨store.cells.setIfInBounds c.offset.toNat byte⟩
  | none => bus

/-- The bus with other bytes in cells, stored one after another. -/
def setCells (bus : Bus ω δ γ) : List Cell → List UInt8 → Bus ω δ γ
  | c :: cells, byte :: bytes => (bus.setCell c byte).setCells cells bytes
  | _, _ => bus

/-- The cell that an address leads to. -/
def cellAt? (bus : Bus ω δ γ) (address : UInt32) : Option Cell :=
  (bus.table.entryFor? address).map fun entry =>
    ⟨entry.target, bus.routing.deviceOffset entry address⟩

variable {bus : Bus ω δ γ} {c : Cell}

/-- Cells that all exist hold the bytes that are read from them. -/
theorem map_byteAt_of_map_cell? {cells : List Cell} {bytes : List UInt8}
    (h : cells.map bus.cell? = bytes.map some) : cells.map bus.byteAt = bytes := by
  have hget := congrArg (List.map (Option.getD · 0)) h
  rw [List.map_map, List.map_map] at hget
  exact hget.trans (List.map_id _)

/-- A target is RAM exactly if it is a part, and that part is RAM. -/
theorem ram?_eq_some_iff {id : TargetId} {store : Storage} :
    bus.ram? id = some store ↔ bus.target? id = some (.part (.ram store)) := by
  unfold ram?
  split
  · next found h => simp [h]
  · next h =>
    constructor
    · intro h'
      cases h'
    · intro h'
      exact absurd h' (h store)

/-- Setting one RAM leaves the other targets alone. -/
theorem target?_setRam_of_ne {id other : TargetId} (h : other ≠ id) (store : Storage) :
    (bus.setRam id store).target? other = bus.target? other := by
  have hindex : id.index ≠ other.index := by
    intro heq
    apply h
    cases id
    cases other
    exact congrArg TargetId.mk heq.symm
  exact Array.getElem?_setIfInBounds_ne hindex

theorem ram?_setRam {id : TargetId} {old : Storage} (h : bus.ram? id = some old)
    (store : Storage) : (bus.setRam id store).ram? id = some store := by
  rw [ram?_eq_some_iff] at h ⊢
  obtain ⟨hsize, -⟩ := Array.getElem?_eq_some_iff.1 h
  exact Array.getElem?_setIfInBounds_self_of_lt hsize

/-- A byte stored in one target leaves the others alone. -/
theorem target?_setCell_of_ne {id : TargetId} (h : id ≠ c.target) (byte : UInt8) :
    (bus.setCell c byte).target? id = bus.target? id := by
  unfold setCell
  split
  · exact target?_setRam_of_ne h _
  · rfl

theorem ram?_setCell_of_ne {id : TargetId} (h : id ≠ c.target) (byte : UInt8) :
    (bus.setCell c byte).ram? id = bus.ram? id := by
  unfold ram?
  rw [target?_setCell_of_ne h]

/-- In its own target, the byte is stored at its offset if that lies inside. -/
theorem ram?_setCell (bus : Bus ω δ γ) (c : Cell) (byte : UInt8) :
    (bus.setCell c byte).ram? c.target =
      (bus.ram? c.target).map fun store => ⟨store.cells.setIfInBounds c.offset.toNat byte⟩ := by
  unfold setCell
  cases hram : bus.ram? c.target with
  | none => exact hram
  | some store => exact ram?_setRam hram _

/-- Storing a byte changes its cell, if there is one, and no other. -/
theorem cell?_setCell (bus : Bus ω δ γ) (c d : Cell) (byte : UInt8) :
    (bus.setCell c byte).cell? d = if d = c then (bus.cell? c).map fun _ => byte else bus.cell? d := by
  unfold cell?
  by_cases htarget : d.target = c.target
  · rw [htarget, ram?_setCell]
    cases bus.ram? c.target with
    | none => simp
    | some store =>
      show (store.cells.setIfInBounds c.offset.toNat byte)[d.offset.toNat]? =
        if d = c then (store.cells[c.offset.toNat]?).map _ else store.cells[d.offset.toNat]?
      -- in one target it is the offset that tells cells apart
      by_cases hoffset : d.offset = c.offset
      · rw [if_pos (Cell.mk.injEq .. ▸ ⟨htarget, hoffset⟩ : d = c), hoffset]
        by_cases hsize : c.offset.toNat < store.cells.size
        · rw [Array.getElem?_setIfInBounds_self_of_lt hsize, Array.getElem?_eq_getElem hsize]
          rfl
        · rw [Array.getElem?_eq_none (by simpa using hsize), Array.getElem?_eq_none (by omega)]
          rfl
      · have hindex : c.offset.toNat ≠ d.offset.toNat := fun h =>
          hoffset (UInt32.toNat_inj.1 h.symm)
        rw [if_neg fun h => hoffset (congrArg Cell.offset h), Array.getElem?_setIfInBounds_ne hindex]
  · have hd : d ≠ c := fun h => htarget (congrArg Cell.target h)
    rw [if_neg hd, ram?_setCell_of_ne htarget]

/-- Storing a byte makes no cell and destroys none. -/
theorem isSome_cell?_setCell (bus : Bus ω δ γ) (c d : Cell) (byte : UInt8) :
    ((bus.setCell c byte).cell? d).isSome = (bus.cell? d).isSome := by
  rw [cell?_setCell]
  split_ifs with hd
  · rw [hd, Option.isSome_map]
  · rfl

/-- A stored byte does not change the routing. -/
theorem routing_setCell (bus : Bus ω δ γ) (c : Cell) (byte : UInt8) :
    (bus.setCell c byte).routing = bus.routing := by
  unfold setCell
  split
  · simp [routing, setRam]
  · rfl

theorem cell?_congr {bus other : Bus ω δ γ} (h : other.targets = bus.targets) :
    other.cell? = bus.cell? := by
  funext d
  rw [cell?, cell?, ram?, ram?, target?, target?, h]

/-- Which cell stands at an address is a matter of routing. -/
theorem cellAt?_congr {bus other : Bus ω δ γ} (h : bus.routing = other.routing) :
    bus.cellAt? = other.cellAt? := by
  have htable : bus.table = other.table := congrArg Routing.table h
  unfold cellAt?
  rw [h, htable]

/-! ## Storing bytes in several cells -/

/-- Stored bytes do not change the routing. -/
theorem routing_setCells (bus : Bus ω δ γ) (cells : List Cell) (bytes : List UInt8) :
    (bus.setCells cells bytes).routing = bus.routing := by
  induction cells generalizing bus bytes with
  | nil => rfl
  | cons c cells ih =>
    cases bytes with
    | nil => rfl
    | cons byte bytes => rw [setCells, ih, routing_setCell]

/-- Stored bytes change targets and nothing else. -/
theorem setCells_eq (bus : Bus ω δ γ) (cells : List Cell) (bytes : List UInt8) :
    bus.setCells cells bytes = { bus with targets := (bus.setCells cells bytes).targets } := by
  induction cells generalizing bus bytes with
  | nil => rfl
  | cons c cells ih =>
    cases bytes with
    | nil => rfl
    | cons byte bytes =>
      -- one byte changes one target at most
      have hfirst : bus.setCell c byte = { bus with targets := (bus.setCell c byte).targets } := by
        unfold setCell
        split <;> rfl
      rw [setCells, ih, hfirst]

/-- A target none of whose cells is stored to is left alone. -/
theorem target?_setCells {cells : List Cell} {id : TargetId} (h : ∀ c ∈ cells, c.target ≠ id)
    (bus : Bus ω δ γ) (bytes : List UInt8) : (bus.setCells cells bytes).target? id = bus.target? id := by
  induction cells generalizing bus bytes with
  | nil => rfl
  | cons c cells ih =>
    cases bytes with
    | nil => rfl
    | cons byte bytes =>
      rw [setCells, ih fun d hd => h d (List.mem_cons_of_mem _ hd),
        target?_setCell_of_ne (h c List.mem_cons_self).symm]

/-- A cell that is not stored to keeps its byte. -/
theorem cell?_setCells_of_notMem {cells : List Cell} {d : Cell} (h : d ∉ cells) (bus : Bus ω δ γ)
    (bytes : List UInt8) : (bus.setCells cells bytes).cell? d = bus.cell? d := by
  induction cells generalizing bus bytes with
  | nil => rfl
  | cons c cells ih =>
    cases bytes with
    | nil => rfl
    | cons byte bytes =>
      rw [List.mem_cons, not_or] at h
      rw [setCells, ih h.2, cell?_setCell, if_neg h.1]

/-- Distinct cells hold afterwards what was stored in them. -/
theorem map_cell?_setCells {cells : List Cell} {bytes : List UInt8} (hdistinct : cells.Nodup)
    (hlength : bytes.length = cells.length) (hinside : ∀ c ∈ cells, (bus.cell? c).isSome) :
    cells.map (bus.setCells cells bytes).cell? = bytes.map some := by
  induction cells generalizing bus bytes with
  | nil =>
    cases bytes with
    | nil => rfl
    | cons byte bytes => cases hlength
  | cons c cells ih =>
    cases bytes with
    | nil => cases hlength
    | cons byte bytes =>
      obtain ⟨hfresh, hdistinct⟩ := List.nodup_cons.1 hdistinct
      have hrest : ∀ d ∈ cells, ((bus.setCell c byte).cell? d).isSome := by
        intro d hd
        rw [isSome_cell?_setCell]
        exact hinside d (List.mem_cons_of_mem _ hd)
      -- the cells after `c` are others, so that its byte stays
      have hfirst : (bus.setCells (c :: cells) (byte :: bytes)).cell? c = some byte := by
        obtain ⟨old, hold⟩ := Option.isSome_iff_exists.1 (hinside c List.mem_cons_self)
        rw [setCells, cell?_setCells_of_notMem hfresh, cell?_setCell, if_pos rfl, hold]
        rfl
      rw [List.map_cons, List.map_cons, hfirst, setCells,
        ih hdistinct (Nat.succ.inj hlength) hrest]

/-! ## Rows of neighbouring cells -/

/-- The cells stand side by side in one target, from the place `start` on. -/
def IsRun (id : TargetId) : (start : Nat) → List Cell → Prop
  | _, [] => True
  | start, c :: cells => (c.target = id ∧ c.offset.toNat = start) ∧ IsRun id (start + 1) cells

/-- Places that follow each other in one target are a run of cells. -/
theorem isRun_of_places {id : TargetId} {start k : Nat} {place : Nat → Option Cell}
    {cells : List Cell} (hcells : (List.range' k cells.length).map place = cells.map some)
    (hplace : ∀ i < k + cells.length, ∃ offset : UInt32,
      place i = some ⟨id, offset⟩ ∧ offset.toNat = start + i) : IsRun id (start + k) cells := by
  induction cells generalizing k with
  | nil => trivial
  | cons c cells ih =>
    rw [List.length_cons] at hcells hplace
    rw [List.range'_succ, List.map_cons, List.map_cons, List.cons.injEq] at hcells
    obtain ⟨offset, hc, hoffset⟩ := hplace k (by omega)
    rw [hcells.1, Option.some.injEq] at hc
    subst hc
    exact ⟨⟨rfl, hoffset⟩, ih hcells.2 fun i hi => hplace i (by omega)⟩

/-- Setting a RAM to what it is changes nothing. -/
theorem setRam_self {id : TargetId} {store : Storage} (h : bus.ram? id = some store) :
    bus.setRam id store = bus := by
  rw [ram?_eq_some_iff] at h
  obtain ⟨hsize, hget⟩ := Array.getElem?_eq_some_iff.1 h
  have htargets : bus.targets.setIfInBounds id.index (.part (.ram store)) = bus.targets := by
    rw [← hget, Array.setIfInBounds_def, dif_pos hsize, Array.set_getElem_self]
  rw [setRam, htargets]

@[simp] theorem setRam_setRam (bus : Bus ω δ γ) (id : TargetId) (store store' : Storage) :
    (bus.setRam id store).setRam id store' = bus.setRam id store' := by
  simp [setRam]

/-- The bytes of neighbouring cells are a window of their RAM. -/
theorem map_cell?_of_isRun {id : TargetId} {store : Storage} (h : bus.ram? id = some store)
    {cells : List Cell} {start : Nat} (hrun : IsRun id start cells) :
    cells.map bus.cell? = (List.range' start cells.length).map (store.cells[·]?) := by
  induction cells generalizing start with
  | nil => rfl
  | cons c cells ih =>
    obtain ⟨⟨htarget, hoffset⟩, hrest⟩ := hrun
    have hc : bus.cell? c = store.cells[start]? := by
      rw [cell?, htarget, h, ← hoffset]
      rfl
    rw [List.map_cons, hc, ih hrest, List.length_cons, List.range'_succ, List.map_cons]

/-- Storing bytes in neighbouring cells lays them over their RAM. -/
theorem setCells_of_isRun {id : TargetId} {store : Storage} (h : bus.ram? id = some store)
    {cells : List Cell} {bytes : List UInt8} (hlength : bytes.length = cells.length) {start : Nat}
    (hrun : IsRun id start cells) :
    bus.setCells cells bytes = bus.setRam id (store.overlay start bytes) := by
  induction cells generalizing bus store bytes start with
  | nil =>
    rw [List.length_eq_zero_iff.1 hlength]
    exact (setRam_self h).symm
  | cons c cells ih =>
    cases bytes with
    | nil => cases hlength
    | cons byte bytes =>
      obtain ⟨⟨htarget, hoffset⟩, hrest⟩ := hrun
      -- the first byte goes into the RAM, and the others over what it is then
      have hfirst : bus.setCell c byte = bus.setRam id ⟨store.cells.setIfInBounds start byte⟩ := by
        rw [setCell, htarget, h, hoffset]
      rw [setCells, hfirst, ih (ram?_setRam h _) (Nat.succ.inj hlength) hrest, setRam_setRam,
        Storage.overlay]

/-! ## What RAM answers -/

section

variable [Device δ ω] [Card γ δ ω] {id : TargetId} {store : Storage}

/-- RAM answers a read with what it holds, and is not changed. -/
theorem answer_read_of_ram (h : bus.ram? id = some store) (width : Width) (offset : UInt32)
    (access : Access) :
    answer (.read id width offset access) bus = (store.load width access.order offset, bus) := by
  have hself := setRam_self h
  rw [ram?_eq_some_iff] at h
  simp only [answer, onTarget, onTarget?, h]
  exact congrArg (Prod.mk _) hself

/-- RAM answers a write by storing, or with an error that leaves it as it was. -/
theorem answer_write_of_ram (h : bus.ram? id = some store) (width : Width) (offset value : UInt32)
    (access : Access) :
    answer (.write id width offset value access) bus =
      ((store.store width access.order offset value).1,
        bus.setRam id (store.store width access.order offset value).2) := by
  rw [ram?_eq_some_iff] at h
  simp only [answer, onTarget, onTarget?, h]
  rfl

/-- A look at RAM shows its cell. -/
theorem answer_peek_of_ram (h : bus.ram? id = some store) (offset : UInt32) :
    answer (.peek id offset) bus = (bus.cell? ⟨id, offset⟩, bus) := by
  have hself := setRam_self h
  have hcell : bus.cell? ⟨id, offset⟩ = store.get? offset := by
    rw [cell?, h]
    rfl
  rw [ram?_eq_some_iff] at h
  rw [hcell]
  simp only [answer, onTarget, onTarget?, h]
  exact congrArg (Prod.mk _) hself

/-- A poke of RAM stores its byte. -/
theorem answer_poke_of_ram (h : bus.ram? id = some store) (offset : UInt32) (value : UInt8) :
    (answer (.poke id offset value) bus).2 = bus.setCell ⟨id, offset⟩ value := by
  rw [setCell, h]
  dsimp only
  rw [← Storage.poke_snd]
  rw [ram?_eq_some_iff] at h
  simp only [answer, onTarget, onTarget?, h]
  rfl

end

end Bus

end Motherboard
