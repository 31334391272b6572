import Motherboard.Bench.Instrument
import Motherboard.Proofs.MemoryCells
import Motherboard.Proofs.Observer

/-!
# Buses with RAM only are flat memories

When every mapped page leads to RAM, the route of an access cannot be told from what it does. One wide
device cycle, byte cycles lane by lane, looks and pokes, checked or not: a completed read gives the
bytes of its cells, composed in its byte order, and a completed write stores the bytes of its value in
its cells, whatever cells these are.

* `MovesCells` — what an access does to a memory of cells.
* `movesCells_execute` — every way through the policy of the bus does just that.
* `carryOut_flat` — what this means for what is read, what is kept and what is read back.
-/

namespace Motherboard

/-! ## Flat buses -/

namespace Bus

variable {ω δ γ : Type}

/-- Every mapped page leads to RAM, and its entry has the capabilities of RAM. -/
structure IsFlat (bus : Bus ω δ γ) : Prop where
  /-- The page table is one that can be made. -/
  supported : bus.table.geometry.isSupported = true
  /-- Behind a mapped page there is RAM of at most 2^32 bytes. -/
  ram : ∀ {index : Nat} {entry : PageEntry}, bus.table.get? index = some entry →
    ∃ store, bus.ram? entry.target = some store ∧ store.size ≤ 2 ^ 32 ∧
      entry.capabilities = .memory

/-- The cells that the bytes of an access lie in, lowest address first. -/
structure Covers (bus : Bus ω δ γ) (a : Access) (cells : List Cell) : Prop where
  /-- Lane `i` lies in cell `i`. -/
  places : (a.laneNumbers.map fun i =>
    bus.cellAt? ((a.address + i.toUInt32) &&& bus.table.geometry.addressMask)) = cells.map some
  /-- The cells are there. -/
  inside : ∀ c ∈ cells, (bus.cell? c).isSome = true

variable {bus after : Bus ω δ γ} {a : Access} {c : Cell} {cells : List Cell}

/-- Inside the memory, `byteAt` is what the cell holds. -/
theorem byteAt_of_isSome (h : (bus.cell? c).isSome = true) : bus.cell? c = some (bus.byteAt c) := by
  obtain ⟨byte, hbyte⟩ := Option.isSome_iff_exists.1 h
  rw [byteAt, hbyte]
  rfl

/-- Storing a byte keeps the size of every memory. -/
theorem size_of_setCell {id : TargetId} {store : Storage} (h : bus.ram? id = some store) (c : Cell)
    (byte : UInt8) :
    ∃ store', (bus.setCell c byte).ram? id = some store' ∧ store'.size = store.size := by
  by_cases htarget : id = c.target
  · subst htarget
    exact ⟨_, (ram?_setCell bus c byte).trans (by rw [h]; rfl), Array.size_setIfInBounds⟩
  · exact ⟨store, (ram?_setCell_of_ne htarget byte).trans h, rfl⟩

/-- A flat bus stays flat when a byte is stored. -/
theorem IsFlat.setCell (hflat : bus.IsFlat) (c : Cell) (byte : UInt8) :
    (bus.setCell c byte).IsFlat := by
  have htable : (bus.setCell c byte).table = bus.table :=
    congrArg Routing.table (routing_setCell bus c byte)
  refine ⟨htable ▸ hflat.supported, fun {index entry} hentry => ?_⟩
  rw [htable] at hentry
  obtain ⟨store, hram, hsize, hcaps⟩ := hflat.ram hentry
  obtain ⟨store', hram', hsize'⟩ := size_of_setCell hram c byte
  exact ⟨store', hram', by rwa [hsize'], hcaps⟩

/-- A flat bus stays flat when several bytes are stored. -/
theorem IsFlat.setCells (hflat : bus.IsFlat) (cells : List Cell) (bytes : List UInt8) :
    (bus.setCells cells bytes).IsFlat := by
  induction cells generalizing bus bytes with
  | nil => exact hflat
  | cons c cells ih =>
    cases bytes with
    | nil => exact hflat
    | cons byte bytes => exact ih (hflat.setCell c byte) bytes

/-- Flatness is a matter of pages and targets. -/
theorem IsFlat.congr {other : Bus ω δ γ} (hflat : bus.IsFlat) (htable : other.table = bus.table)
    (htargets : other.targets = bus.targets) : other.IsFlat := by
  refine ⟨htable ▸ hflat.supported, fun {index entry} hentry => ?_⟩
  rw [htable] at hentry
  obtain ⟨store, hram, hrest⟩ := hflat.ram hentry
  exact ⟨store, by rw [← hram, ram?, ram?, target?, target?, htargets], hrest⟩

/-- On a bus with the same pages, `b` reads what `a` covers, in the same byte order. -/
structure Rereads (later : Bus ω δ γ) (b : Access) (bus : Bus ω δ γ) (a : Access) : Prop where
  table : later.table = bus.table
  read : b.intent.isWrite = false
  width : b.width = a.width
  address : b.address &&& bus.table.geometry.addressMask =
    a.address &&& bus.table.geometry.addressMask
  order : (later.routing.normalize b).order = (bus.routing.normalize a).order

/-- What reads a place back covers the cells that were written there. -/
theorem Rereads.covers {later : Bus ω δ γ} {b : Access} (h : later.Rereads b bus a)
    (hplaces : bus.Covers a cells) (hinside : ∀ c ∈ cells, (later.cell? c).isSome = true) :
    later.Covers b cells := by
  have hoffset : later.routing.deviceOffset = bus.routing.deviceOffset := by
    funext entry address
    show entry.base + later.table.geometry.pageOffset address = _
    rw [h.table]
    rfl
  refine ⟨?_, hinside⟩
  rw [← hplaces.places, Access.laneNumbers, Access.laneNumbers, h.width, h.table]
  apply List.map_congr_left
  intro i _
  -- addresses that agree on the bus agree there after counting on
  rw [← Geometry.and_addressMask_add, h.address, Geometry.and_addressMask_add, cellAt?, cellAt?,
    h.table]
  rw [hoffset]

/-! ## What an access does to cells -/

/-- What an access did to a flat bus: a read gave `value`, composed of the bytes in the cells, and
changed nothing; a write stored the bytes of its value in the cells. -/
structure MovesCells (bus : Bus ω δ γ) (a : Access) (cells : List Cell) (value : UInt32)
    (after : Bus ω δ γ) : Prop where
  read : a.intent.isWrite = false →
    value = a.order.join (cells.map bus.byteAt) ∧ after = bus
  write : a.intent.isWrite = true →
    after = bus.setCells cells (a.order.split a.width.bytes a.value)

/-- The same for the lanes of an access that are still to do, after `before` was read. -/
structure MovesLanes (bus : Bus ω δ γ) (a : Access) (lanes : List Nat) (cells : List Cell)
    (before value : UInt32) (after : Bus ω δ γ) : Prop where
  read : a.intent.isWrite = false →
    value = a.mergeLanes before lanes (cells.map bus.byteAt) ∧ after = bus
  write : a.intent.isWrite = true → after = bus.setCells cells (lanes.map a.laneByte)

/-- What lane `i` of an access does to the bus. -/
def afterLane (bus : Bus ω δ γ) (a : Access) (i : Nat) (c : Cell) : Bus ω δ γ :=
  if a.intent.isWrite then bus.setCell c (a.laneByte i) else bus

/-- What lane `i` of an access adds to the value read. -/
def valueAfterLane (bus : Bus ω δ γ) (a : Access) (value : UInt32) (i : Nat) (c : Cell) : UInt32 :=
  if a.intent.isWrite then value else a.mergeLane value i (bus.byteAt c)

theorem MovesLanes.nil (bus : Bus ω δ γ) (a : Access) (before : UInt32) :
    bus.MovesLanes a [] [] before (if a.intent.isWrite then a.value else before) bus := by
  refine ⟨fun hread => ⟨?_, rfl⟩, fun _ => rfl⟩
  rw [if_neg (by rw [hread]; decide)]
  rfl

/-- The first lane moves its byte, and the rest move theirs on the bus it leaves behind. -/
theorem MovesLanes.cons {i : Nat} {lanes : List Nat} {before value : UInt32}
    (h : (bus.afterLane a i c).MovesLanes a lanes cells (bus.valueAfterLane a before i c) value
      after) : bus.MovesLanes a (i :: lanes) (c :: cells) before value after := by
  constructor
  · -- reads gather a value and leave the bus alone
    intro hread
    obtain ⟨hvalue, hafter⟩ := h.read hread
    rw [afterLane, hread] at hvalue hafter
    rw [valueAfterLane, hread] at hvalue
    exact ⟨hvalue, hafter⟩
  · -- writes store and gather nothing
    intro hwrite
    have hafter := h.write hwrite
    rw [afterLane, if_pos hwrite] at hafter
    exact hafter

/-- A lane is an access of one byte to one cell. -/
theorem MovesCells.lane {r : Routing} {i : Nat} {value : UInt32}
    (h : bus.MovesCells (r.lane a i) [c] value after) (before : UInt32) :
    after = bus.afterLane a i c ∧
      (if a.intent.isWrite then before else a.mergeLane before i value.toUInt8) =
        bus.valueAfterLane a before i c := by
  unfold afterLane valueAfterLane
  split_ifs with hwrite
  · -- the lane of a write carries the byte that is stored
    have hvalue : (r.lane a i).value = (a.laneByte i).toUInt32 := if_pos hwrite
    have hafter := h.write hwrite
    rw [show (r.lane a i).width.bytes = 1 from rfl, ByteOrder.split_one, hvalue,
      UInt8.toUInt8_toUInt32] at hafter
    exact ⟨hafter, rfl⟩
  · -- the lane of a read merges the byte that was read
    obtain ⟨hvalue, hafter⟩ := h.read (Bool.eq_false_iff.2 hwrite)
    rw [List.map_cons, List.map_nil, ByteOrder.join_singleton] at hvalue
    exact ⟨hafter, by rw [hvalue, UInt8.toUInt8_toUInt32]⟩

/-- A lane keeps the bus flat. -/
theorem IsFlat.afterLane (hflat : bus.IsFlat) (a : Access) (i : Nat) (c : Cell) :
    (bus.afterLane a i c).IsFlat := by
  unfold Bus.afterLane
  split_ifs
  · exact hflat.setCell _ _
  · exact hflat

/-- A lane keeps the routing. -/
theorem routing_afterLane (bus : Bus ω δ γ) (a : Access) (i : Nat) (c : Cell) :
    (bus.afterLane a i c).routing = bus.routing := by
  unfold Bus.afterLane
  split_ifs
  · exact routing_setCell _ _ _
  · rfl

/-- A lane adds no cells and takes none away. -/
theorem isSome_cell?_afterLane (bus : Bus ω δ γ) (a : Access) (i : Nat) (c d : Cell) :
    ((bus.afterLane a i c).cell? d).isSome = (bus.cell? d).isSome := by
  unfold Bus.afterLane
  split_ifs
  · exact isSome_cell?_setCell _ _ _ _
  · rfl

/-- All lanes of an access together move its bytes in its byte order. -/
theorem MovesLanes.movesCells {value : UInt32}
    (h : bus.MovesLanes a a.laneNumbers cells 0 value after)
    (hlength : cells.length = a.width.bytes) : bus.MovesCells a cells value after := by
  constructor
  · intro hread
    obtain ⟨hvalue, hafter⟩ := h.read hread
    rw [a.mergeLanes_laneNumbers (by simpa using hlength)] at hvalue
    exact ⟨hvalue, hafter⟩
  · intro hwrite
    rw [a.split_value]
    exact h.write hwrite

/-- An access covers as many cells as it has bytes. -/
theorem length_of_places {place : Nat → Option Cell}
    (h : a.laneNumbers.map place = cells.map some) : cells.length = a.width.bytes := by
  have hlength := congrArg List.length h
  simp only [List.length_map, Access.laneNumbers, List.length_range] at hlength
  exact hlength.symm

/-- The cells of an access that stays in its page are neighbours. -/
theorem isRun_of_stays {entry : PageEntry} (hflat : bus.IsFlat)
    (hentry : bus.table.entryFor? a.address = some entry)
    (hroom : (bus.table.geometry.pageOffset a.address).toNat + a.width.bytes ≤
      bus.table.geometry.pageSize.toNat)
    (hfits : (bus.routing.deviceOffset entry a.address).toNat + a.width.bytes ≤ 2 ^ 32)
    (hcells : (a.laneNumbers.map fun i => bus.cellAt? (bus.routing.lane a i).address) =
      cells.map some) :
    IsRun entry.target (bus.routing.deviceOffset entry a.address).toNat cells := by
  have hplace : ∀ i < a.width.bytes, ∃ offset : UInt32,
      bus.cellAt? (bus.routing.lane a i).address = some ⟨entry.target, offset⟩ ∧
        offset.toNat = (bus.routing.deviceOffset entry a.address).toNat + i := by
    intro i hi
    have hsize := bus.table.geometry.pageSize.toNat_lt
    have hstay : (bus.table.geometry.pageOffset a.address).toNat + i <
        bus.table.geometry.pageSize.toNat := by omega
    have hi' : i.toUInt32.toNat = i := Geometry.toNat_step (g := bus.table.geometry) (by omega)
    refine ⟨bus.routing.deviceOffset entry (bus.routing.lane a i).address, ?_, ?_⟩
    · -- the lane lies in the same page
      have hpage : bus.table.entryFor? (bus.routing.lane a i).address = some entry := by
        rw [← hentry]
        exact congrArg bus.table.get? (Geometry.pageIndex_and_addressMask_add hstay)
      rw [cellAt?, hpage]
      rfl
    · -- and `i` places above in it; the device offset does not wrap either
      have hoffset : bus.table.geometry.pageOffset (bus.routing.lane a i).address =
          bus.table.geometry.pageOffset a.address + i.toUInt32 := by
        apply UInt32.toNat_inj.1
        rw [UInt32.toNat_add, hi', Nat.mod_eq_of_lt (by omega)]
        exact Geometry.toNat_pageOffset_and_addressMask_add hflat.supported hstay
      show (entry.base + bus.table.geometry.pageOffset _).toNat = _
      rw [hoffset, ← UInt32.add_assoc, UInt32.toNat_add, hi']
      apply Nat.mod_eq_of_lt
      show (bus.routing.deviceOffset entry a.address).toNat + i < _
      omega
  have hlength := length_of_places hcells
  rw [Access.laneNumbers, List.range_eq_range', ← hlength] at hcells
  exact isRun_of_places hcells (by rwa [Nat.zero_add, hlength])

/-! ## One device cycle -/

section

variable [Device δ ω] [Card γ δ ω] {entry : PageEntry} {checking : Checking} {value cost : UInt32}

/-- A cycle that RAM answers lies inside it. -/
theorem fits_of_dispatch {store : Storage} (hram : bus.ram? entry.target = some store)
    (h : ((bus.routing.dispatch entry a).run answer bus).1 = .ok (value, cost)) :
    (bus.routing.deviceOffset entry a.address).toNat + a.width.bytes ≤ store.size := by
  unfold Routing.dispatch at h
  dsimp only at h
  split_ifs at h with htarget hwrite
  · -- RAM refuses both forms for the same reason, and each is unfolded as far as its bound.
    rw [Requests.run_ask, answer_write_of_ram hram] at h
    rcases hstore : store.store a.width a.order (bus.routing.deviceOffset entry a.address) a.value
      with ⟨e | _, store'⟩
    · rw [hstore] at h
      cases h
    · exact (Storage.store_eq_ok hstore).1
  · rw [Requests.run_ask, answer_read_of_ram hram] at h
    cases hload : store.load a.width a.order (bus.routing.deviceOffset entry a.address) with
    | error e =>
      rw [hload] at h
      cases h
    | ok read => exact Storage.fits_of_load hload
  · cases h

/-- A device cycle moves the bytes of neighbouring cells. -/
theorem movesCells_dispatch {store : Storage} (hram : bus.ram? entry.target = some store)
    (hrun : IsRun entry.target (bus.routing.deviceOffset entry a.address).toNat cells)
    (hlength : cells.length = a.width.bytes)
    (h : (bus.routing.dispatch entry a).run answer bus = (.ok (value, cost), after)) :
    bus.MovesCells a cells value after := by
  unfold Routing.dispatch at h
  dsimp only at h
  split_ifs at h with htarget hwrite
  · refine ⟨fun hread => absurd hwrite (by rw [hread]; decide), fun _ => ?_⟩
    rw [Requests.run_ask, answer_write_of_ram hram] at h
    rcases hstore : store.store a.width a.order (bus.routing.deviceOffset entry a.address) a.value
      with ⟨e | _, store'⟩
    · rw [hstore] at h
      cases h
    · rw [hstore] at h
      cases h
      rw [setCells_of_isRun hram (by simpa using hlength.symm) hrun, (Storage.store_eq_ok hstore).2]
  · refine ⟨fun _ => ?_, fun hwrite' => absurd hwrite' hwrite⟩
    rw [Requests.run_ask, answer_read_of_ram hram] at h
    cases hload : store.load a.width a.order (bus.routing.deviceOffset entry a.address) with
    | error e =>
      rw [hload] at h
      cases h
    | ok read =>
      rw [hload] at h
      cases h
      obtain ⟨bytes, hbytes, rfl⟩ := Storage.load_eq_ok_iff.1 hload
      rw [Storage.window?_eq_some_iff, ← hlength] at hbytes
      -- the window that was read is what the cells hold
      have hcells : cells.map bus.cell? = bytes.map some := by
        rw [map_cell?_of_isRun hram hrun, ← hbytes, List.range'_eq_map_range, List.map_map]
        rfl
      exact ⟨by rw [map_byteAt_of_map_cell? hcells], rfl⟩
  · cases h

/-- A byte cycle that succeeds has moved its one byte. -/
theorem movesCells_byteCycle (hflat : bus.IsFlat) (hbyte : a.width = .byte)
    (hcell : bus.cellAt? a.address = some c)
    (h : (bus.routing.byteCycle checking a).run answer bus = (.ok (value, cost), after)) :
    bus.MovesCells a [c] value after := by
  unfold Routing.byteCycle at h
  cases hentry : bus.routing.resolve checking a with
  | error fault =>
    rw [hentry] at h
    cases h
  | ok entry =>
    rw [hentry] at h
    -- what the cycle resolves to is the page that the cell was found by
    have hfound : bus.table.entryFor? a.address = some entry :=
      Routing.entryFor?_of_resolve (r := bus.routing) hentry
    obtain ⟨store, hram, -, -⟩ := hflat.ram hfound
    rw [cellAt?, hfound] at hcell
    cases hcell
    exact movesCells_dispatch hram ⟨⟨rfl, rfl⟩, trivial⟩ (by rw [hbyte]; rfl) h

/-! ## Lane by lane -/

/-- If a decomposed access succeeds, its first lane has moved its byte and the others have gone on from
there. -/
theorem afterLane_of_lanesFrom (hflat : bus.IsFlat) {i : Nat} {lanes : List Nat}
    (hcell : bus.cellAt? (bus.routing.lane a i).address = some c) {before cycles : UInt32}
    {done : Completed}
    (h : (bus.routing.lanesFrom checking a (i :: lanes) before cycles).run answer bus =
      (.ok done, after)) :
    ∃ cycles', (bus.routing.lanesFrom checking a lanes (bus.valueAfterLane a before i c) cycles').run
      answer (bus.afterLane a i c) = (.ok done, after) := by
  rw [Routing.lanesFrom, Requests.run_bind] at h
  rcases hcycle : (bus.routing.byteCycle checking (bus.routing.lane a i)).run answer bus
    with ⟨fault | ⟨byte, cost⟩, between⟩
  · -- a fault ends the access, which has completed
    rw [hcycle] at h
    cases h
  · rw [hcycle] at h
    dsimp only at h
    have hmoves : bus.MovesCells (bus.routing.lane a i) [c] byte between :=
      movesCells_byteCycle hflat rfl hcell hcycle
    obtain ⟨hbetween, hvalue⟩ := hmoves.lane before
    rw [hvalue, hbetween] at h
    exact ⟨cycles + cost, h⟩

/-- A decomposed access that succeeds has moved one byte for each lane. -/
theorem movesLanes_lanesFrom {r : Routing} (hr : bus.routing = r) (hflat : bus.IsFlat)
    {lanes : List Nat} (hcells : (lanes.map fun i => bus.cellAt? (r.lane a i).address) = cells.map some)
    {before cycles : UInt32} {done : Completed}
    (h : (r.lanesFrom checking a lanes before cycles).run answer bus = (.ok done, after)) :
    bus.MovesLanes a lanes cells before done.value after := by
  -- on the lanes still to do; the bus stays flat and its routing the same from lane to lane
  induction lanes generalizing bus cells before cycles with
  | nil =>
    obtain rfl : cells = [] := by simpa using hcells.symm
    cases h
    exact MovesLanes.nil ..
  | cons i lanes ih =>
    cases cells with
    | nil => cases hcells
    | cons c cells =>
      rw [List.map_cons, List.map_cons, List.cons.injEq] at hcells
      obtain ⟨hcell, hcells⟩ := hcells
      subst hr
      obtain ⟨cycles', hstep⟩ := afterLane_of_lanesFrom hflat hcell h
      apply MovesLanes.cons
      apply ih (routing_afterLane bus a i c) (hflat.afterLane a i c) _ hstep
      rw [cellAt?_congr (routing_afterLane bus a i c)]
      exact hcells

/-- A lane of a silent access moves its byte as a noticed lane does. -/
theorem afterLane_of_silentFrom (hflat : bus.IsFlat) {i : Nat} {lanes : List Nat}
    (hcell : bus.cellAt? (bus.routing.lane a i).address = some c)
    (hinside : (bus.cell? c).isSome = true) {before : UInt32} {result : Except Fault Completed}
    (h : (bus.routing.silentFrom a (i :: lanes) before).run answer bus = (result, after)) :
    (bus.routing.silentFrom a lanes (bus.valueAfterLane a before i c)).run answer
      (bus.afterLane a i c) = (result, after) := by
  cases hentry : bus.table.entryFor? (bus.routing.lane a i).address with
  | none =>
    rw [cellAt?, hentry] at hcell
    cases hcell
  | some entry =>
    obtain ⟨store, hram, -, hcaps⟩ := hflat.ram hentry
    have htarget : entry.target.index < bus.routing.targets :=
      (Array.getElem?_eq_some_iff.1 (ram?_eq_some_iff.1 hram)).1
    -- A silent lane goes by what the page has on record of its target: RAM can be peeked.
    have hpeek : entry.capabilities.peek = true := by
      rw [hcaps]
      rfl
    rw [cellAt?, hentry, Option.map_some, Option.some.injEq] at hcell
    rw [Routing.silentFrom] at h
    dsimp only at h
    rw [show bus.routing.table = bus.table from rfl, hentry] at h
    dsimp only at h
    rw [if_pos htarget] at h
    unfold afterLane valueAfterLane
    by_cases hwrite : a.intent.isWrite = true
    · have hvalue : (bus.routing.lane a i).value = (a.laneByte i).toUInt32 := if_pos hwrite
      rw [if_pos hwrite, if_pos hpeek, Requests.run_ask, answer_poke_of_ram hram, hvalue,
        UInt8.toUInt8_toUInt32, hcell] at h
      rw [if_pos hwrite, if_pos hwrite]
      exact h
    · rw [if_neg hwrite, Requests.run_bind] at h
      -- the look finds a byte, so that the floating value is never asked for
      have hlook : (if entry.capabilities.peek = true then
            Requests.one (.peek entry.target (bus.routing.deviceOffset entry
              (bus.routing.lane a i).address))
          else .done none : Requests (Option UInt8)).run answer bus =
          (some (bus.byteAt c), bus) := by
        rw [← byteAt_of_isSome hinside, ← hcell, hcaps]
        exact answer_peek_of_ram hram _
      rw [hlook] at h
      rw [if_neg hwrite, if_neg hwrite]
      exact h

/-- A silent access moves its bytes too. It has to lie inside the memory, because beyond it a poke does
nothing and still succeeds. -/
theorem movesLanes_silentFrom {r : Routing} (hr : bus.routing = r) (hflat : bus.IsFlat)
    {lanes : List Nat} (hcells : (lanes.map fun i => bus.cellAt? (r.lane a i).address) = cells.map some)
    (hinside : ∀ c ∈ cells, (bus.cell? c).isSome = true) {before : UInt32} {done : Completed}
    (h : (r.silentFrom a lanes before).run answer bus = (.ok done, after)) :
    bus.MovesLanes a lanes cells before done.value after := by
  -- as above; that the cells are there has to be carried along, for a look that finds none is
  -- answered by the floating lines
  induction lanes generalizing bus cells before with
  | nil =>
    obtain rfl : cells = [] := by simpa using hcells.symm
    cases h
    exact MovesLanes.nil ..
  | cons i lanes ih =>
    cases cells with
    | nil => cases hcells
    | cons c cells =>
      rw [List.map_cons, List.map_cons, List.cons.injEq] at hcells
      obtain ⟨hcell, hcells⟩ := hcells
      subst hr
      have hstep := afterLane_of_silentFrom hflat hcell (hinside c List.mem_cons_self) h
      apply MovesLanes.cons
      apply ih (routing_afterLane bus a i c) (hflat.afterLane a i c) _ _ hstep
      · rw [cellAt?_congr (routing_afterLane bus a i c)]
        exact hcells
      · intro d hd
        rw [isSome_cell?_afterLane]
        exact hinside d (List.mem_cons_of_mem _ hd)

/-! ## Every route -/

/-- One device cycle moves the cells of an access whose lanes stay in its page. -/
theorem movesCells_whole (hflat : bus.IsFlat) (hentry : bus.table.entryFor? a.address = some entry)
    (hroom : (bus.table.geometry.pageOffset a.address).toNat + a.width.bytes ≤
      bus.table.geometry.pageSize.toNat)
    (hcells : (a.laneNumbers.map fun i => bus.cellAt? (bus.routing.lane a i).address) =
      cells.map some) {done : Completed}
    (h : (bus.routing.whole entry a).run answer bus = (.ok done, after)) :
    bus.MovesCells a cells done.value after := by
  obtain ⟨store, hram, hsize, -⟩ := hflat.ram hentry
  unfold Routing.whole at h
  rw [Requests.run_map] at h
  rcases hcycle : (bus.routing.dispatch entry a).run answer bus with ⟨fault | ⟨value, cost⟩, last⟩
  · rw [hcycle] at h
    cases h
  · rw [hcycle] at h
    cases h
    -- that the cycle has completed is what keeps its offsets from wrapping
    have hfits := fits_of_dispatch hram (congrArg Prod.fst hcycle)
    have hrun := isRun_of_stays hflat hentry hroom (hfits.trans hsize) hcells
    exact movesCells_dispatch hram hrun (length_of_places hcells) hcycle

/-- Every way through the policy of the bus moves the cells of an access. -/
theorem movesCells_execute (hflat : bus.IsFlat)
    (hcells : (a.laneNumbers.map fun i => bus.cellAt? (bus.routing.lane a i).address) =
      cells.map some)
    (hinside : ∀ c ∈ cells, (bus.cell? c).isSome = true) {done : Completed}
    (h : (bus.routing.execute checking a).run answer bus = (.ok done, after)) :
    bus.MovesCells a cells done.value after := by
  have hlength := length_of_places hcells
  -- both checkings of a silent access come down to the same looks and pokes
  have hsilent : (bus.routing.silentFrom a a.laneNumbers 0).run answer bus = (.ok done, after) →
      bus.MovesCells a cells done.value after := fun h =>
    (movesLanes_silentFrom rfl hflat hcells hinside h).movesCells hlength
  unfold Routing.execute at h
  split_ifs at h with hnoticed
  · unfold Routing.noticed at h
    cases hresolve : bus.routing.resolve checking a with
    | error fault =>
      rw [hresolve] at h
      cases h
    | ok entry =>
      rw [hresolve] at h
      have hentry : bus.table.entryFor? a.address = some entry :=
        Routing.entryFor?_of_resolve (r := bus.routing) hresolve
      dsimp only at h
      split_ifs at h with hbyte haligned
      · have hroom : (bus.table.geometry.pageOffset a.address).toNat + a.width.bytes ≤
            bus.table.geometry.pageSize.toNat := by
          rw [hbyte]
          exact bus.table.geometry.toNat_pageOffset_lt a.address
        exact movesCells_whole hflat hentry hroom hcells h
      · cases h
      · cases hroute : bus.routing.route a entry with
        | wide =>
          have hroom := Routing.room_of_wide hroute
          rw [show bus.routing.table = bus.table from rfl] at hroom
          rw [hroute] at h
          exact movesCells_whole hflat hentry hroom hcells h
        | lanes =>
          rw [hroute] at h
          exact (movesLanes_lanesFrom rfl hflat hcells h).movesCells hlength
  · unfold Routing.silent at h
    split_ifs at h
    · split at h
      · cases h
      · exact hsilent h
    · exact hsilent h

/-! ## Accesses put to the bus -/

/-- Carries out an access, checked by the bus or on the word of its caller, and answers with the value
read or written. -/
def carryOut (bus : Bus ω δ γ) (checking : Checking) (a : Access) :
    Except Fault UInt32 × Bus ω δ γ :=
  match checking with
  | .checked => ((bus.access a).1.map Outcome.value, (bus.access a).2)
  | .trusted => bus.direct a

/-- Checked or trusted, what completes has been executed, and differs from that in observation only. -/
theorem execute_of_carryOut (h : bus.carryOut checking a = (.ok value, after)) :
    ∃ done moved,
      (bus.routing.execute checking (bus.routing.normalize a)).run answer bus = (.ok done, moved) ∧
        value = done.value ∧ after.unobserved = moved.unobserved := by
  cases checking with
  | checked =>
    -- the checked way counts and reports the access when it has run
    rw [carryOut, access] at h
    unfold Routing.checked at h
    rcases hrun : (bus.routing.execute .checked (bus.routing.normalize a)).run answer bus
      with ⟨fault | done, moved⟩
    · rw [hrun] at h
      cases h
    · rw [hrun] at h
      cases h
      exact ⟨done, _, rfl, rfl, unobserved_observe _ _ _⟩
  | trusted =>
    rw [carryOut, direct] at h
    unfold Routing.trusted at h
    rcases hrun : (bus.routing.execute .trusted (bus.routing.normalize a)).run answer bus
      with ⟨fault | done, moved⟩
    · rw [hrun] at h
      cases h
    · rw [hrun] at h
      cases h
      exact ⟨done, _, rfl, rfl, rfl⟩

/-- Every access that completes on a flat bus moves its bytes. -/
theorem movesCells_carryOut (hflat : bus.IsFlat) (hcovers : bus.Covers a cells)
    (h : bus.carryOut checking a = (.ok value, after)) :
    ∃ moved, bus.MovesCells (bus.routing.normalize a) cells value moved ∧
      after.unobserved = moved.unobserved := by
  obtain ⟨done, moved, hrun, rfl, hafter⟩ := execute_of_carryOut h
  refine ⟨moved, movesCells_execute hflat ?_ hcovers.inside hrun, hafter⟩
  rw [← hcovers.places, Access.laneNumbers, Access.laneNumbers, Routing.normalize_width]
  apply List.map_congr_left
  intro i _
  rw [Routing.lane_address]
  rfl

/-- On a bus whose pages lead to RAM, how an access is carried out makes no difference. A completed
read gives the bytes of its cells in its byte order, and changes nothing. A completed write to
distinct cells stores the bytes of its value in them, and leaves every other cell, every other target
and all that the targets share as they were. Whatever reads the same addresses in the same width and
byte order afterwards gets the value written, cut to the width. -/
theorem carryOut_flat (hflat : bus.IsFlat) (hcovers : bus.Covers a cells)
    (h : bus.carryOut checking a = (.ok value, after)) :
    let order := (bus.routing.normalize a).order
    (a.intent.isWrite = false →
      value = order.join (cells.map bus.byteAt) ∧ after.unobserved = bus.unobserved) ∧
    (a.intent.isWrite = true → cells.Nodup →
      cells.map after.cell? = (order.split a.width.bytes a.value).map some ∧
        (∀ d, d ∉ cells → after.cell? d = bus.cell? d) ∧
        (∀ id, (∀ c ∈ cells, c.target ≠ id) → after.target? id = bus.target? id) ∧
        after.unobserved = ({ bus with targets := after.targets } : Bus ω δ γ).unobserved ∧
        ∀ {later last : Bus ω δ γ} {b checking' read}, later.Rereads b bus a →
          later.targets = after.targets → later.carryOut checking' b = (.ok read, last) →
          read = a.value &&& a.width.mask) := by
  intro order
  obtain ⟨moved, hmoves, hafter⟩ := movesCells_carryOut hflat hcovers h
  have hlength := length_of_places hcovers.places
  refine ⟨fun hread => ?_, fun hwrite hdistinct => ?_⟩
  · obtain ⟨hvalue, rfl⟩ := hmoves.read (by rwa [Routing.normalize_intent])
    exact ⟨hvalue, hafter⟩
  · have hmoved := hmoves.write (by rwa [Routing.normalize_intent])
    rw [Routing.normalize_width, Routing.normalize_value] at hmoved
    -- the bus differs from the memory of cells in counters and observer only, so not in its targets
    have htargets : after.targets = (bus.setCells cells (order.split a.width.bytes a.value)).targets :=
      targets_of_unobserved (hafter.trans (congrArg unobserved hmoved))
    have hsplit : (order.split a.width.bytes a.value).length = cells.length := by
      rw [ByteOrder.length_split, hlength]
    have hstored : cells.map after.cell? = (order.split a.width.bytes a.value).map some := by
      rw [cell?_congr htargets]
      exact map_cell?_setCells hdistinct hsplit hcovers.inside
    refine ⟨hstored, ?_, ?_, ?_, ?_⟩
    · intro d hd
      rw [cell?_congr htargets, cell?_setCells_of_notMem hd]
    · intro id hid
      rw [target?, htargets]
      exact target?_setCells hid _ _
    · rw [hafter, hmoved, htargets]
      exact congrArg Bus.unobserved (setCells_eq bus _ _)
    · intro later last b checking' read hb hlater hread
      -- the bus is still flat and the cells are still there, so the read is one of the first kind
      have hflat' : later.IsFlat :=
        (hflat.setCells cells (order.split a.width.bytes a.value)).congr
          (hb.table.trans (congrArg Routing.table (routing_setCells bus _ _)).symm)
          (hlater.trans htargets)
      have hcells : cells.map later.cell? = (order.split a.width.bytes a.value).map some := by
        rw [cell?_congr hlater, hstored]
      have hinside : ∀ c ∈ cells, (later.cell? c).isSome = true := by
        intro c hc
        have hmem : later.cell? c ∈ (order.split a.width.bytes a.value).map some := by
          rw [← hcells]
          exact List.mem_map_of_mem hc
        obtain ⟨byte, -, hbyte⟩ := List.mem_map.1 hmem
        rw [← hbyte]
        rfl
      obtain ⟨moved', hmoves', -⟩ := movesCells_carryOut hflat' (hb.covers hcovers hinside) hread
      obtain ⟨hvalue, -⟩ := hmoves'.read (by rw [Routing.normalize_intent]; exact hb.read)
      rw [hvalue, map_byteAt_of_map_cell? hcells, hb.order]
      exact ByteOrder.join_split _ _ _

end

/-- Two pages of a native big-endian bus onto four bytes of RAM: the first page begins at the first
byte, the second one ends at the second byte. -/
def twoPages : Bus Bench.Host Bench.Instrument Bench.TestCard where
  config := ⟨⟨9, 8⟩, .native, true, false, false, .constant 0xFF⟩
  table :=
    { geometry := ⟨9, 8⟩
      entries :=
        #[some ⟨⟨1⟩, .ram, .full, .memory, ⟨0⟩, 0⟩, some ⟨⟨1⟩, .ram, .full, .memory, ⟨0⟩, 0xFFFFFF02⟩] }
  targets := #[.part (.ram ⟨#[0x11, 0x22, 0x33, 0x44]⟩)]
  diagnostics := .zero
  backplane :=
    { floating := .constant 0xFF, overrides := #[], host := {}, banked := #[], rack := .empty 7 }

/-- A word stored at the last address; its second byte goes around to the first. -/
def aroundTheEnd : Access := .write 0x1FF .word 0xBEEF .dataWrite

/-- The bus of the example is flat. -/
theorem isFlat_twoPages : twoPages.IsFlat where
  supported := by decide
  ram := by
    intro index entry h
    match index with
    | 0 =>
      cases h
      exact ⟨⟨#[0x11, 0x22, 0x33, 0x44]⟩, rfl, by decide, rfl⟩
    | 1 =>
      cases h
      exact ⟨⟨#[0x11, 0x22, 0x33, 0x44]⟩, rfl, by decide, rfl⟩
    | index + 2 => cases h

/-- The word goes around to a lower cell, and the debugger reads it back byte by byte. -/
theorem carryOut_flat_aroundTheEnd :
    twoPages.IsFlat ∧ twoPages.Covers aroundTheEnd [⟨⟨0⟩, 1⟩, ⟨⟨0⟩, 0⟩] ∧
      (twoPages.carryOut .checked aroundTheEnd).1 = .ok 0xBEEF ∧
      [Cell.mk ⟨0⟩ 1, ⟨⟨0⟩, 0⟩].map (twoPages.carryOut .checked aroundTheEnd).2.cell? =
        [some 0xBE, some 0xEF] ∧
      (twoPages.carryOut .checked aroundTheEnd).2.cell? ⟨⟨0⟩, 2⟩ = some 0x33 ∧
      ((twoPages.carryOut .checked aroundTheEnd).2.carryOut .trusted
        (.read 0x3FF .word .debugRead)).1 = .ok 0xBEEF := by
  -- the word stands on the last byte of the address space, so that its second byte is that of address 0
  have hcovers : twoPages.Covers aroundTheEnd [⟨⟨0⟩, 1⟩, ⟨⟨0⟩, 0⟩] :=
    ⟨by decide +kernel, by decide +kernel⟩
  have hdone : twoPages.carryOut .checked aroundTheEnd =
      (.ok 0xBEEF, (twoPages.carryOut .checked aroundTheEnd).2) := by rfl
  obtain ⟨-, hwrite⟩ := carryOut_flat isFlat_twoPages hcovers hdone
  obtain ⟨hstored, hothers, -, -, hback⟩ := hwrite rfl (by decide)
  refine ⟨isFlat_twoPages, hcovers, rfl, hstored, hothers _ (by decide), ?_⟩
  -- A trusted look by a debugger reads the word back.
  have hsame : (twoPages.carryOut .checked aroundTheEnd).2.Rereads (.read 0x3FF .word .debugRead)
      twoPages aroundTheEnd := ⟨rfl, rfl, rfl, by decide, rfl⟩
  have hcompletes : ((twoPages.carryOut .checked aroundTheEnd).2.carryOut .trusted
      (.read 0x3FF .word .debugRead)).1.isOk = true := by rfl
  rcases hread : (twoPages.carryOut .checked aroundTheEnd).2.carryOut .trusted
    (.read 0x3FF .word .debugRead) with ⟨fault | read, last⟩
  · rw [hread] at hcompletes
    cases hcompletes
  · rw [hback hsame rfl hread]
    rfl

end Bus

end Motherboard
