import Motherboard.Bench.Instrument
import Motherboard.Proofs.BusRun
import Motherboard.Proofs.ValueWidth

/-!
# Wide cycles of what has byte cycles only

Something that has byte cycles only answers a wide cycle as a row of them. The bus, too, can carry a
wide access out as a row of byte cycles. These are two loops: one counts on in the offsets of the
target and hands every lane the value anew; the other one counts on in addresses, cuts them to the
width of the bus, looks their page up and turns them into offsets, lane by lane.

Inside one page both loops are the same row (`ByteCycles.row`): the target cannot tell one wide cycle
from lanes. `Noted` devices write down every byte call, so that the row can be read off them.

## Results

* `ByteCycles.cycle_eq_row` — a wide cycle is the row of its lanes.
* `Routing.keepsPage_of_stays` — the lanes of an access inside one page lie side by side in it.
* `Bus.run_whole_withTarget`, `Bus.run_lanesFrom_withTarget` — on the bus, one wide cycle and the lanes
  are that row.
* `Bus.endAlike_whole_decompose` — one wide cycle and the lanes make the same calls, stop at the same
  one, leave the same behind and answer alike.
-/

namespace Motherboard

/-! ## Devices that note their calls -/

/-- One byte call of a device. -/
inductive ByteCall where
  /-- A byte is to be read. -/
  | read (offset : UInt32) (access : Access)
  /-- A byte is to be written. -/
  | write (offset : UInt32) (value : UInt8) (access : Access)
  deriving DecidableEq

/-- The byte call for lane `i` of an access whose first byte is at an offset. -/
def Access.byteCall (a : Access) (offset : UInt32) (i : Nat) : ByteCall :=
  if a.intent.isWrite then .write (offset + i.toUInt32) (a.laneByte i) (a.lane i)
  else .read (offset + i.toUInt32) (a.lane i)

/-- A device of any type that has its byte cycles only, and notes them. -/
structure Noted (δ : Type) where
  /-- The device. -/
  device : δ
  /-- Its byte calls, the latest last. -/
  calls : List ByteCall

namespace Noted

variable {δ ω : Type}

/-- Notes a call and lets the device answer it. -/
def noting {α : Type} (call : ByteCall) (c : Cycle (δ × Commons ω) α) :
    Cycle (Noted δ × Commons ω) α
  | (d, commons) =>
    let (answer, device, commons) := c (d.device, commons)
    (answer, ⟨device, d.calls ++ [call]⟩, commons)

/-- Only the byte cycles are given: the wide ones are rows of them. -/
instance [Device δ ω] : Device (Noted δ) ω where
  capabilities d := Device.capabilities d.device
  read8 offset access := noting (.read offset access) (Device.read8 offset access)
  write8 offset value access := noting (.write offset value access) (Device.write8 offset value access)

end Noted

/-! ## Rows of byte cycles -/

/-- The byte cycles of something with a state `σ`. -/
structure ByteCycles (σ : Type) where
  /-- Reads a byte. -/
  read8 : UInt32 → Access → Cycle σ UInt8
  /-- Writes a byte. -/
  write8 : UInt32 → UInt8 → Access → Cycle σ Unit

namespace ByteCycles

variable {σ : Type} (b : ByteCycles σ) (offset : UInt32) (a : Access)

/-- The cycle of the full width of an access: the value read or written. -/
def cycle : Cycle σ UInt32 :=
  if a.intent.isWrite then
    (Cycle.write b.write8 a.width offset a.value a).map fun _ => a.value
  else
    Cycle.read b.read8 a.width offset a

/-- The byte cycle of lane `i`: the byte read or written. -/
def lane (i : Nat) : Cycle σ UInt8 :=
  if a.intent.isWrite then
    (b.write8 (offset + i.toUInt32) (a.laneByte i) (a.lane i)).map fun _ => a.laneByte i
  else
    b.read8 (offset + i.toUInt32) (a.lane i)

/-- The byte cycles of the lanes listed, up to the first refusal; a read fills their bytes into
`value`. -/
def row : List Nat → (value : UInt32) → Cycle σ UInt32
  | [], value, s => (.ok value, s)
  | i :: rest, value, s =>
    match b.lane offset a i s with
    | (.ok byte, s) =>
      row rest (if a.intent.isWrite then value else a.mergeLane value i byte) s
    | (.error e, s) => (.error e, s)

/-- The state after the byte cycles of the lanes listed, whatever was answered. -/
def after (lanes : List Nat) (s : σ) : σ :=
  lanes.foldl (fun s i => (b.lane offset a i s).2) s

variable {b offset a}

/-- A row ends at its first error. -/
theorem row_of_error {i : Nat} {rest : List Nat} {value : UInt32} {s : σ} {e : DeviceError}
    (h : (b.lane offset a i s).1 = .error e) :
    b.row offset a (i :: rest) value s = (.error e, (b.lane offset a i s).2) := by
  rcases hlane : b.lane offset a i s with ⟨answer, s'⟩
  rw [hlane] at h
  cases h
  rw [row, hlane]

/-- A row goes on from the byte it has read. -/
theorem row_of_ok {i : Nat} {rest : List Nat} {value : UInt32} {s : σ} {byte : UInt8}
    (h : (b.lane offset a i s).1 = .ok byte) :
    b.row offset a (i :: rest) value s =
      b.row offset a rest (if a.intent.isWrite then value else a.mergeLane value i byte)
        (b.lane offset a i s).2 := by
  rcases hlane : b.lane offset a i s with ⟨answer, s'⟩
  rw [hlane] at h
  cases h
  rw [row, hlane]

end ByteCycles

/-! ## Wide cycles as rows -/

/-- Cutting a value to a width that holds it changes nothing. -/
theorem Width.Holds.and_mask {w : Width} {value : UInt32} (h : w.Holds value) :
    value &&& w.mask = value := by
  have hbits : 2 ^ w.bits = 256 ^ w.bytes := by cases w <;> rfl
  apply UInt32.toNat_inj.1
  rw [w.toNat_and_mask, Nat.mod_eq_of_lt]
  rw [← hbits]
  exact h

namespace Access

variable {a : Access} {i : Nat}

/-- What lies above the width is on no lane. -/
theorem laneByte_and_mask (hi : i < a.width.bytes) :
    ({ a with value := a.value &&& a.width.mask } : Access).laneByte i = a.laneByte i := by
  -- every lane lies below the width, so that the mask has all the bits of its byte
  have hmask : (a.width.mask >>> (a.laneShift i).toUInt32).toUInt8 = 0xFF := by
    unfold laneShift
    revert i
    cases a.order <;> cases a.width <;> decide
  show ((a.value &&& a.width.mask) >>> (a.laneShift i).toUInt32).toUInt8 =
    (a.value >>> (a.laneShift i).toUInt32).toUInt8
  rw [UInt32.shiftRight_and, UInt32.toUInt8_and, hmask]
  exact UInt8.and_neg_one

/-- Bits outside the width of an access are in none of its lanes. -/
theorem lane_and_mask (hi : i < a.width.bytes) :
    ({ a with value := a.value &&& a.width.mask } : Access).lane i = a.lane i := by
  unfold lane
  dsimp only
  rw [laneByte_and_mask hi]

/-- The lane of a write carries its byte of the value. -/
theorem lane_value (hwrite : a.intent.isWrite = true) : (a.lane i).value = (a.laneByte i).toUInt32 :=
  if_pos hwrite

end Access

namespace ByteCycles

variable {σ : Type} {b : ByteCycles σ} {offset : UInt32} {a : Access}

/-- A wide read, byte by byte, is a row. -/
theorem readLanesFrom_eq_row (hread : a.intent.isWrite = false) (lanes : List Nat) (value : UInt32)
    (s : σ) :
    Cycle.readLanesFrom b.read8 offset a lanes value s = b.row offset a lanes value s := by
  induction lanes generalizing value s with
  | nil => rfl
  | cons i lanes ih =>
    rw [Cycle.readLanesFrom, row, lane, hread, if_neg Bool.false_ne_true]
    rcases b.read8 (offset + i.toUInt32) (a.lane i) s with ⟨e | byte, s'⟩
    · rfl
    · exact ih _ _

/-- The row of a write whose value was cut to the width is the row of the write. -/
theorem writeLanesFrom_eq_row (hwrite : a.intent.isWrite = true) (lanes : List Nat)
    (hlanes : ∀ i ∈ lanes, i < a.width.bytes) (value : UInt32) (s : σ) :
    Cycle.writeLanesFrom b.write8 offset { a with value := a.value &&& a.width.mask } lanes s =
      (b.row offset a lanes value).map (fun _ => ()) s := by
  induction lanes generalizing s with
  | nil => rfl
  | cons i lanes ih =>
    have hi := hlanes i List.mem_cons_self
    -- the device hands the byte out of the lane, the row out of the access
    have hbyte : (a.lane i).value.toUInt8 = a.laneByte i := by
      rw [Access.lane_value hwrite, UInt8.toUInt8_toUInt32]
    rw [Cycle.writeLanesFrom, Access.lane_and_mask hi, hbyte, Cycle.map, row, lane, hwrite, if_pos rfl,
      Cycle.map]
    rcases b.write8 (offset + i.toUInt32) (a.laneByte i) (a.lane i) s with ⟨e | _, s'⟩
    · rfl
    · exact ih (fun j hj => hlanes j (List.mem_cons_of_mem i hj)) _

/-- What a row merges has room in the width of the access. -/
theorem holds_of_row {lanes : List Nat} {value result : UInt32} {s : σ}
    (hlanes : ∀ i ∈ lanes, i < a.width.bytes) (hvalue : a.width.Holds value)
    (h : (b.row offset a lanes value s).1 = .ok result) : a.width.Holds result := by
  induction lanes generalizing value s with
  | nil =>
    cases h
    exact hvalue
  | cons i lanes ih =>
    cases hlane : (b.lane offset a i s).1 with
    | error e =>
      rw [row_of_error hlane] at h
      cases h
    | ok byte =>
      rw [row_of_ok hlane] at h
      refine ih (fun j hj => hlanes j (List.mem_cons_of_mem i hj)) ?_ h
      -- a write keeps its value; a read merges its byte into the value so far
      split_ifs
      · exact hvalue
      · exact Access.holds_mergeLane hvalue (hlanes i List.mem_cons_self) byte

/-- A wide read of something with byte cycles only is the row of its lanes. -/
theorem read_eq_row (hwide : a.width ≠ .byte) (hread : a.intent.isWrite = false) (s : σ) :
    Cycle.read b.read8 a.width offset a s = b.row offset a a.laneNumbers 0 s := by
  have hrow : Cycle.readLanes b.read8 offset a s = b.row offset a a.laneNumbers 0 s :=
    readLanesFrom_eq_row hread a.laneNumbers 0 s
  cases hwidth : a.width with
  | byte => exact absurd hwidth hwide
  | word =>
    rw [Cycle.read, Cycle.map, hrow]
    -- the lanes of a word have filled no more than a word
    rcases hanswer : b.row offset a a.laneNumbers 0 s with ⟨e | value, s'⟩
    · rfl
    · have hholds := holds_of_row (fun i hi => List.mem_range.1 hi) (Width.holds_zero _)
        (congrArg Prod.fst hanswer)
      rw [hwidth] at hholds
      show (Except.ok (value &&& Width.word.mask), s') = _
      rw [hholds.and_mask]
  | dword => exact hrow

/-- A wide write of something with byte cycles only is the row of its lanes. -/
theorem write_eq_row (hwide : a.width ≠ .byte) (hwrite : a.intent.isWrite = true) (s : σ) :
    Cycle.write b.write8 a.width offset a.value a s =
      (b.row offset a a.laneNumbers 0).map (fun _ => ()) s := by
  have hrow : Cycle.writeLanes b.write8 offset (a.value &&& a.width.mask) a s =
      (b.row offset a a.laneNumbers 0).map (fun _ => ()) s :=
    writeLanesFrom_eq_row hwrite a.laneNumbers (fun i hi => List.mem_range.1 hi) 0 s
  -- a word is cut to its width before the row, and to cut a dword changes nothing
  cases hwidth : a.width with
  | byte => exact absurd hwidth hwide
  | word =>
    rw [show a.width.mask = Width.word.mask from congrArg Width.mask hwidth] at hrow
    exact hrow
  | dword =>
    rw [show a.width.mask = Width.dword.mask from congrArg Width.mask hwidth,
      (Width.holds_dword a.value).and_mask] at hrow
    exact hrow

/-- The cycle of a wide access is the row of its lanes; a write gives its own value. -/
theorem cycle_eq_row (hwide : a.width ≠ .byte) (s : σ) :
    b.cycle offset a s = (b.row offset a a.laneNumbers 0).map
      (fun value => if a.intent.isWrite then a.value else value) s := by
  unfold cycle
  cases hwrite : a.intent.isWrite with
  | true =>
    rw [if_pos rfl, Cycle.map, write_eq_row hwide hwrite, Cycle.map, Cycle.map]
    rcases b.row offset a a.laneNumbers 0 s with ⟨e | value, s'⟩ <;> rfl
  | false =>
    rw [if_neg Bool.false_ne_true, read_eq_row hwide hwrite, Cycle.map]
    rcases b.row offset a a.laneNumbers 0 s with ⟨e | value, s'⟩ <;> rfl

/-- The cycle of a lane is its byte cycle. -/
theorem cycle_lane (b : ByteCycles σ) (offset : UInt32) (a : Access) (i : Nat) (s : σ) :
    b.cycle (offset + i.toUInt32) (a.lane i) s = (b.lane offset a i).map UInt8.toUInt32 s := by
  rw [cycle, lane, show (a.lane i).intent = a.intent from rfl, show (a.lane i).width = .byte from rfl]
  cases hwrite : a.intent.isWrite with
  | true =>
    have hvalue := Access.lane_value (i := i) hwrite
    rw [if_pos rfl, if_pos rfl, Cycle.write, hvalue, UInt8.toUInt8_toUInt32, Cycle.map, Cycle.map,
      Cycle.map]
    rcases b.write8 (offset + i.toUInt32) (a.laneByte i) (a.lane i) s with ⟨e | _, s'⟩ <;> rfl
  | false => rfl

end ByteCycles

/-! ## Targets with byte cycles only -/

/-- The shapes in which a target whose state is `σ` stands on the backplane: its cycles of all widths
are those that its byte cycles make up. -/
structure Target.IsRowed {σ δ ω γ : Type} [Device δ ω] [Card γ δ ω]
    (shape : σ → Target δ × Backplane ω γ) (b : ByteCycles σ) : Prop where
  /-- Reads. -/
  read : ∀ width offset a s, Target.read width offset a (shape s) =
    ((Cycle.read b.read8 width offset a s).1, shape (Cycle.read b.read8 width offset a s).2)
  /-- Writes. -/
  write : ∀ width offset value a s, Target.write width offset value a (shape s) =
    ((Cycle.write b.write8 width offset value a s).1,
      shape (Cycle.write b.write8 width offset value a s).2)

namespace Target

variable {δ ω γ : Type} [Device δ ω] [Card γ δ ω]

theorem isRowed_page : IsRowed (fun s : IoPage δ × Backplane ω γ => (.page s.1, s.2))
    ⟨IoPage.read8, IoPage.write8⟩ where
  read _ _ _ _ := rfl
  write _ _ _ _ _ := rfl

theorem isRowed_bankSwitches (m : Nat) (b : Backplane ω γ) :
    IsRowed (fun board => ((.part (.bankSwitches m) : Target δ), { b with toBoard := board }))
      ⟨Board.readSwitch m, Board.writeSwitch m⟩ where
  read _ _ _ _ := rfl
  write _ _ _ _ _ := rfl

theorem isRowed_bankWindow (m : Nat) (b : Backplane ω γ) :
    IsRowed (fun board => ((.part (.bankWindow m) : Target δ), { b with toBoard := board }))
      ⟨Board.readBanked m, Board.writeBanked m⟩ where
  read _ _ _ _ := rfl
  write _ _ _ _ _ := rfl

end Target

/-- Cutting a value to 16 bits is masking it to a word. -/
theorem toUInt32_toUInt16 (value : UInt32) :
    value.toUInt16.toUInt32 = value &&& Width.word.mask := by
  apply UInt32.toNat_inj.1
  rw [UInt16.toNat_toUInt32, UInt32.toNat_toUInt16, Width.toNat_and_mask]
  rfl

/-- A device that notes its calls reads wide as a device does by default. -/
theorem Noted.read_eq {δ ω : Type} [Device δ ω] (width : Width) (offset : UInt32) (a : Access)
    (s : Noted δ × Commons ω) :
    Device.read width offset a s = Cycle.read Device.read8 width offset a s := by
  cases width with
  | byte => rfl
  | word =>
    -- the accessor of words cuts with a smaller type, a row with a mask
    show ((Cycle.readLanes Device.read8 offset a).map UInt32.toUInt16).map UInt16.toUInt32 s =
      (Cycle.readLanes Device.read8 offset a).map (· &&& Width.word.mask) s
    unfold Cycle.map
    rcases Cycle.readLanes Device.read8 offset a s with ⟨e | value, s'⟩
    · rfl
    · exact congrArg (fun value => (Except.ok value, s')) (toUInt32_toUInt16 value)
  | dword => rfl

theorem Noted.write_eq {δ ω : Type} [Device δ ω] (width : Width) (offset value : UInt32) (a : Access)
    (s : Noted δ × Commons ω) :
    Device.write width offset value a s = Cycle.write Device.write8 width offset value a s := by
  cases width with
  | byte => rfl
  | word =>
    show Cycle.writeLanes Device.write8 offset value.toUInt16.toUInt32 a s = _
    rw [toUInt32_toUInt16]
    rfl
  | dword => rfl

/-- A device with the wide cycles it has by default is a row as well. -/
theorem Target.isRowed_device {δ ω γ : Type} [Device δ ω] [Card γ (Noted δ) ω] (b : Backplane ω γ) :
    IsRowed (fun s : Noted δ × Commons ω => (.part (.device s.1), { b with toCommons := s.2 }))
      ⟨Device.read8, Device.write8⟩ where
  read width offset a s := by
    rw [← Noted.read_eq]
    rfl
  write width offset value a s := by
    rw [← Noted.write_eq]
    rfl

/-! ## Lanes inside a page -/

/-- An address of the space, counted on inside its page, is one of the space. -/
theorem Geometry.and_addressMask_of_room {g : Geometry} (h : g.isSupported = true)
    {address : UInt32} (haddress : address &&& g.addressMask = address) {i : Nat}
    (hroom : (g.pageOffset address).toNat + i < g.pageSize.toNat) :
    (address + i.toUInt32) &&& g.addressMask = address + i.toUInt32 := by
  -- page and place in it make up what is left of the sum, and they are those of the sum
  have hpage := pageIndex_and_addressMask_add hroom
  have hplace := toNat_pageOffset_and_addressMask_add h hroom
  rw [pageIndex_eq_div, pageIndex_eq_div, and_addressMask_and_addressMask, haddress] at hpage
  rw [toNat_pageOffset_eq_mod, toNat_pageOffset_eq_mod] at hplace
  have hi : i.toUInt32.toNat = i := toNat_step (g := g) (by omega)
  have hcut := Nat.div_add_mod' ((address + i.toUInt32) &&& g.addressMask).toNat g.pageSize.toNat
  have hwhole := Nat.div_add_mod' address.toNat g.pageSize.toNat
  rw [hpage, hplace] at hcut
  have hsum : ((address + i.toUInt32) &&& g.addressMask).toNat = address.toNat + i := by omega
  have hlt := ((address + i.toUInt32) &&& g.addressMask).toNat_lt
  apply UInt32.toNat_inj.1
  rw [hsum, UInt32.toNat_add, hi, Nat.mod_eq_of_lt (by omega)]

namespace Routing

variable {r : Routing} {a : Access} {checking : Checking} {entry : PageEntry} {i : Nat}

/-- Lane `i` of an access leads through the page of the access to the place `i` above. -/
structure KeepsPage (r : Routing) (checking : Checking) (entry : PageEntry) (a : Access) (i : Nat) :
    Prop where
  /-- The bus cuts nothing off the lane. -/
  seen : r.lane a i = a.lane i
  /-- The lane leads through the same entry. -/
  resolved : r.resolve checking (a.lane i) = .ok entry
  /-- Its place lies `i` above. -/
  place : r.deviceOffset entry (a.lane i).address = r.deviceOffset entry a.address + i.toUInt32

/-- A lane of an access that stays inside its page resolves to the page's entry. -/
theorem keepsPage_of_stays (hgeometry : r.table.geometry.isSupported = true)
    (hstays : r.leavesPage (r.normalize a) = false)
    (hentry : r.resolve checking (r.normalize a) = .ok entry) (hi : i < a.width.bytes) :
    r.KeepsPage checking entry (r.normalize a) i := by
  have hroom : (r.table.geometry.pageOffset (r.normalize a).address).toNat + i <
      r.table.geometry.pageSize.toNat := by
    have hfits := mt (r.leavesPage_eq_true_iff (r.normalize a)).2 (Bool.eq_false_iff.1 hstays)
    rw [normalize_width] at hfits
    omega
  have hcut : (r.normalize a).address &&& r.table.geometry.addressMask = (r.normalize a).address := by
    rw [normalize_address, Geometry.and_addressMask_and_addressMask]
  -- the address of the lane is one of the space, in the same page, and `i` places above in it
  have haddress := Geometry.and_addressMask_of_room hgeometry hcut hroom
  refine ⟨?_, ?_, ?_⟩
  · exact congrArg (fun address => { (r.normalize a).lane i with address := address }) haddress
  · have hpage : r.table.geometry.pageIndex ((r.normalize a).address + i.toUInt32) =
        r.table.geometry.pageIndex (r.normalize a).address := by
      rw [← haddress]
      exact Geometry.pageIndex_and_addressMask_add hroom
    exact resolve_congr (b := (r.normalize a).lane i) (congrArg r.table.get? hpage) rfl hentry
  · have hplace : r.table.geometry.pageOffset ((r.normalize a).address + i.toUInt32) =
        r.table.geometry.pageOffset (r.normalize a).address + i.toUInt32 := by
      have hmoved := Geometry.toNat_pageOffset_and_addressMask_add hgeometry hroom
      have hsize := r.table.geometry.pageSize.toNat_lt
      have hi : i.toUInt32.toNat = i := Geometry.toNat_step (g := r.table.geometry) (by omega)
      rw [haddress] at hmoved
      apply UInt32.toNat_inj.1
      rw [hmoved, UInt32.toNat_add, hi, Nat.mod_eq_of_lt (by omega)]
    show entry.base + r.table.geometry.pageOffset ((r.normalize a).address + i.toUInt32) = _
    rw [hplace, ← UInt32.add_assoc]
    rfl

end Routing

/-! ## Lanes of the bus as rows -/

namespace Bus

variable {σ ω δ γ : Type} {bus : Bus ω δ γ} {r : Routing} {a : Access} {checking : Checking}
  {entry : PageEntry}

/-- The bus with a target and what the targets share replaced. -/
def withTarget (bus : Bus ω δ γ) (id : TargetId) (s : Target δ × Backplane ω γ) : Bus ω δ γ :=
  { bus with targets := bus.targets.setIfInBounds id.index s.1, backplane := s.2 }

theorem withTarget_self {id : TargetId} {t : Target δ} (h : bus.target? id = some t) :
    bus.withTarget id (t, bus.backplane) = bus := by
  obtain ⟨hid, ht⟩ := Array.getElem?_eq_some_iff.1 h
  rw [withTarget, ← ht, Array.setIfInBounds_def, dif_pos hid, Array.set_getElem_self]

theorem target?_withTarget {id : TargetId} (hid : id.index < bus.targets.size)
    (s : Target δ × Backplane ω γ) : (bus.withTarget id s).target? id = some s.1 :=
  Array.getElem?_setIfInBounds_self_of_lt hid

/-- What a target does with a cycle is all that happens to the bus. -/
theorem onTarget_withTarget {α : Type} {id : TargetId} (hid : id.index < bus.targets.size)
    (s : Target δ × Backplane ω γ) (missing : α)
    (f : Target δ → Backplane ω γ → α × Target δ × Backplane ω γ) :
    (bus.withTarget id s).onTarget id missing f = ((f s.1 s.2).1, bus.withTarget id (f s.1 s.2).2) := by
  unfold onTarget onTarget?
  rw [target?_withTarget hid]
  simp [withTarget]

variable [Device δ ω] [Card γ δ ω] {shape : σ → Target δ × Backplane ω γ} {b : ByteCycles σ}

/-- A read of a rowed target is answered by the row, whatever its state is. -/
theorem answer_read_withTarget (hshape : Target.IsRowed shape b) {id : TargetId}
    (hid : id.index < bus.targets.size) (width : Width) (offset : UInt32) (a : Access) (s : σ) :
    answer (.read id width offset a) (bus.withTarget id (shape s)) =
      ((Cycle.read b.read8 width offset a s).1,
        bus.withTarget id (shape (Cycle.read b.read8 width offset a s).2)) := by
  show (bus.withTarget id (shape s)).onTarget id (.error .failed)
    (fun t b => Target.read width offset a (t, b)) = _
  rw [onTarget_withTarget hid, hshape.read]

theorem answer_write_withTarget (hshape : Target.IsRowed shape b) {id : TargetId}
    (hid : id.index < bus.targets.size) (width : Width) (offset value : UInt32) (a : Access) (s : σ) :
    answer (.write id width offset value a) (bus.withTarget id (shape s)) =
      ((Cycle.write b.write8 width offset value a s).1,
        bus.withTarget id (shape (Cycle.write b.write8 width offset value a s).2)) := by
  show (bus.withTarget id (shape s)).onTarget id (.error .failed)
    (fun t b => Target.write width offset value a (t, b)) = _
  rw [onTarget_withTarget hid, hshape.write]

/-- A dispatch is the cycle of the target. -/
theorem run_dispatch_withTarget (hshape : Target.IsRowed shape b)
    (hid : entry.target.index < bus.targets.size) (hr : r.targets = bus.targets.size) (s : σ) :
    let cycle := b.cycle (r.deviceOffset entry a.address) a s
    (r.dispatch entry a).run answer (bus.withTarget entry.target (shape s)) =
      ((cycle.1.map fun value => (value, (CycleForm.ofWidth a.width).cycles)).mapError
          (Routing.refusal entry a),
        bus.withTarget entry.target (shape cycle.2)) := by
  rw [Routing.dispatch, hr, if_pos hid, ByteCycles.cycle]
  dsimp only
  split_ifs
  · rw [Requests.run_ask, answer_write_withTarget hshape hid, Cycle.map]
    rcases Cycle.write b.write8 a.width (r.deviceOffset entry a.address) a.value a s
      with ⟨e | _, s'⟩ <;> rfl
  · rw [Requests.run_ask, answer_read_withTarget hshape hid]
    rcases Cycle.read b.read8 a.width (r.deviceOffset entry a.address) a s
      with ⟨e | value, s'⟩ <;> rfl

/-- One wide cycle is the row of its lanes. -/
theorem run_whole_withTarget (hshape : Target.IsRowed shape b)
    (hid : entry.target.index < bus.targets.size) (hr : r.targets = bus.targets.size)
    (hwide : a.width ≠ .byte) (s : σ) :
    let row := b.row (r.deviceOffset entry a.address) a a.laneNumbers 0 s
    (r.whole entry a).run answer (bus.withTarget entry.target (shape s)) =
      ((row.1.map fun value => ⟨if a.intent.isWrite then a.value else value,
          (CycleForm.ofWidth a.width).cycles, false⟩).mapError (Routing.refusal entry a),
        bus.withTarget entry.target (shape row.2)) := by
  rw [Routing.whole, Requests.run_map, run_dispatch_withTarget hshape hid hr,
    ByteCycles.cycle_eq_row hwide, Cycle.map]
  rcases b.row (r.deviceOffset entry a.address) a a.laneNumbers 0 s with ⟨e | value, s'⟩ <;> rfl

/-- One byte cycle of the bus is the byte cycle of the lane. -/
theorem run_byteCycle_withTarget (hshape : Target.IsRowed shape b)
    (hid : entry.target.index < bus.targets.size) (hr : r.targets = bus.targets.size) {i : Nat}
    (hpage : r.KeepsPage checking entry a i) (s : σ) :
    let lane := b.lane (r.deviceOffset entry a.address) a i s
    (r.byteCycle checking (r.lane a i)).run answer (bus.withTarget entry.target (shape s)) =
      ((lane.1.map fun byte => (byte.toUInt32, 1)).mapError (Routing.refusal entry (a.lane i)),
        bus.withTarget entry.target (shape lane.2)) := by
  rw [hpage.seen, Routing.byteCycle, hpage.resolved]
  dsimp only
  rw [run_dispatch_withTarget hshape hid hr, hpage.place, ByteCycles.cycle_lane, Cycle.map]
  rcases b.lane (r.deviceOffset entry a.address) a i s with ⟨e | byte, s'⟩ <;> rfl

/-- The lanes listed, carried out by the bus, go like their row: the same refusal ends both. -/
theorem run_lanesFrom_withTarget (hshape : Target.IsRowed shape b)
    (hid : entry.target.index < bus.targets.size) (hr : r.targets = bus.targets.size)
    (lanes : List Nat) (hpage : ∀ i ∈ lanes, r.KeepsPage checking entry a i) (value cycles : UInt32)
    (s : σ) :
    let offset := r.deviceOffset entry a.address
    let row := b.row offset a lanes value s
    let run := (r.lanesFrom checking a lanes value cycles).run answer
      (bus.withTarget entry.target (shape s))
    run.2 = bus.withTarget entry.target (shape row.2) ∧
      match row.1 with
      | .ok value =>
        row.2 = b.after offset a lanes s ∧
          run.1 = .ok ⟨if a.intent.isWrite then a.value else value,
            cycles + lanes.length.toUInt32, true⟩
      | .error e =>
        ∃ k i, lanes[k]? = some i ∧ row.2 = b.after offset a (lanes.take (k + 1)) s ∧
          run.1 = .error ((Routing.refusal entry (a.lane i) e).within a (cycles + k.toUInt32)) := by
  -- on the lanes still to do; after a completed one, bus and row go on from the same state
  induction lanes generalizing value cycles s with
  | nil =>
    refine ⟨rfl, rfl, ?_⟩
    simp [Routing.lanesFrom, Requests.run]
  | cons i lanes ih =>
    have hlane := run_byteCycle_withTarget hshape hid hr (hpage i List.mem_cons_self) s
    dsimp only at hlane ⊢
    rw [Routing.lanesFrom, Requests.run_bind, hlane]
    cases hanswer : (b.lane (r.deviceOffset entry a.address) a i s).1 with
    | error e =>
      rw [ByteCycles.row_of_error hanswer]
      refine ⟨rfl, 0, i, rfl, rfl, ?_⟩
      simp [Requests.run, Except.mapError, Except.map]
    | ok byte =>
      obtain ⟨hafter, hends⟩ := ih (fun j hj => hpage j (List.mem_cons_of_mem i hj))
        (if a.intent.isWrite then value else a.mergeLane value i byte) (cycles + 1)
        (b.lane (r.deviceOffset entry a.address) a i s).2
      rw [ByteCycles.row_of_ok hanswer]
      simp only [Except.map, Except.mapError, UInt8.toUInt8_toUInt32]
      refine ⟨hafter, ?_⟩
      generalize b.row (r.deviceOffset entry a.address) a lanes _ _ = row at hends ⊢
      obtain ⟨e | result, last⟩ := row
      · obtain ⟨k, j, hj, hlast, hrefused⟩ := hends
        refine ⟨k + 1, j, hj, hlast, ?_⟩
        rw [add_toUInt32_succ]
        exact hrefused
      · obtain ⟨hlast, hdone⟩ := hends
        refine ⟨hlast, ?_⟩
        rw [List.length_cons, add_toUInt32_succ]
        exact hdone

end Bus

/-! ## One wide cycle and lanes -/

/-- How one wide cycle of an access and its lanes end, after `calls` byte calls: both are completed
with the same value, or a byte call is refused and both are refused for it. Completed, they differ in
the cost; refused, in the address and in the cycles spent before. -/
inductive EndAlike (entry : PageEntry) (a : Access) :
    (once lanes : Except Fault Outcome) → (calls : Nat) → Prop where
  /-- All lanes are completed. -/
  | completed (value : UInt32) : EndAlike entry a
      (.ok ⟨value, (CycleForm.ofWidth a.width).cycles⟩)
      (.ok ⟨value, a.width.bytes.toUInt32⟩)
      a.width.bytes
  /-- Lane `k` is the first to be refused. -/
  | refused (k : Nat) (hk : k < a.width.bytes) (e : DeviceError) : EndAlike entry a
      (.error (Routing.refusal entry a e))
      (.error { Routing.refusal entry a e with address := (a.lane k).address, cycles := k.toUInt32 })
      (k + 1)

/-- The target answers wide cycles with rows of byte cycles; plain memory alone does not. -/
def Target.HasByteCyclesOnly {δ : Type} : Target δ → Prop
  | .part (.ram _) | .part (.rom _) => False
  | _ => True

namespace Bus

variable {σ ω δ γ : Type} {r : Routing} {a : Access} {checking : Checking} {entry : PageEntry}

/-- What one wide cycle and the lanes do to a target of any shape. -/
theorem endAlike_of_isRowed [Device δ ω] [Card γ δ ω] {bus : Bus ω δ γ}
    {shape : σ → Target δ × Backplane ω γ} {b : ByteCycles σ} (hshape : Target.IsRowed shape b)
    {s : σ} (hbus : bus.target? entry.target = some (shape s).1) (hshared : (shape s).2 = bus.backplane)
    (hwide : a.width ≠ .byte)
    (hpage : ∀ i < a.width.bytes, bus.routing.KeepsPage checking entry a i) :
    let r := bus.routing
    let once := (r.whole entry a).run answer bus
    let lanes := (r.decompose checking a).run answer bus
    ∃ calls, EndAlike entry a (once.1.map Completed.outcome) (lanes.1.map Completed.outcome) calls ∧
      lanes.2 = once.2 ∧
      once.2.target? entry.target =
        some (shape (b.after (r.deviceOffset entry a.address) a (List.range calls) s)).1 := by
  intro r once lanes
  have hid : entry.target.index < bus.targets.size := (Array.getElem?_eq_some_iff.1 hbus).1
  have hr : r.targets = bus.targets.size := rfl
  have honce := run_whole_withTarget hshape hid hr hwide s
  obtain ⟨hafter, hends⟩ := run_lanesFrom_withTarget hshape hid hr a.laneNumbers
    (fun i hi => hpage i (List.mem_range.1 hi)) 0 0 s
  have hstart : bus.withTarget entry.target (shape s) = bus := by
    have hsame := withTarget_self hbus
    rwa [← hshared] at hsame
  dsimp only at honce
  rw [hstart] at honce hafter hends
  generalize b.row (r.deviceOffset entry a.address) a a.laneNumbers 0 s = row at honce hafter hends
  obtain ⟨e | value, last⟩ := row
  · -- the lane refused is the first one that is not completed
    obtain ⟨k, i, hi, hlast, hrefused⟩ := hends
    obtain ⟨hk, rfl⟩ : k < a.width.bytes ∧ k = i := by
      rw [Access.laneNumbers] at hi
      obtain ⟨hk, hget⟩ := List.getElem?_eq_some_iff.1 hi
      rw [List.getElem_range] at hget
      exact ⟨by simpa using hk, hget⟩
    rw [UInt32.zero_add] at hrefused
    have htake : a.laneNumbers.take (k + 1) = List.range (k + 1) := by
      rw [Access.laneNumbers, List.take_range, Nat.min_eq_left hk]
    refine ⟨k + 1, ?_, hafter.trans (congrArg Prod.snd honce).symm, ?_⟩
    · rw [show once = _ from honce, show lanes.1 = _ from hrefused]
      exact .refused k hk e
    · rw [show once = _ from honce, hlast, htake, target?_withTarget hid]
  · obtain ⟨hlast, hdone⟩ := hends
    rw [UInt32.zero_add, Access.laneNumbers, List.length_range] at hdone
    refine ⟨a.width.bytes, ?_, hafter.trans (congrArg Prod.snd honce).symm, ?_⟩
    · rw [show once = _ from honce, show lanes.1 = _ from hdone]
      exact .completed _
    · rw [show once = _ from honce, hlast, target?_withTarget hid]
      rfl

end Bus

/-- The byte calls that a target has noted, if it is one that notes them. -/
def Target.calls? {δ : Type} : Target (Noted δ) → Option (List ByteCall)
  | .part (.device d) => some d.calls
  | _ => none

namespace Noted

variable {δ ω : Type} [Device δ ω]

/-- After a row of bytes, a device that notes its calls has one more for each of them. -/
theorem calls_after (offset : UInt32) (a : Access) (lanes : List Nat) (s : Noted δ × Commons ω) :
    ((⟨Device.read8, Device.write8⟩ : ByteCycles (Noted δ × Commons ω)).after offset a lanes s).1.calls =
      s.1.calls ++ lanes.map (a.byteCall offset) := by
  induction lanes generalizing s with
  | nil => simp [ByteCycles.after]
  | cons i lanes ih =>
    -- one call is noted whatever the device answers
    have hlane : ((⟨Device.read8, Device.write8⟩ : ByteCycles (Noted δ × Commons ω)).lane offset a i
        s).2.1.calls = s.1.calls ++ [a.byteCall offset i] := by
      unfold ByteCycles.lane Access.byteCall
      split_ifs <;> rfl
    rw [ByteCycles.after, List.foldl_cons, ← ByteCycles.after, ih, hlane, List.append_assoc]
    rfl

end Noted

namespace Bus

variable {ω δ γ : Type} [Device δ ω] [Card γ (Noted δ) ω] {bus : Bus ω (Noted δ) γ} {a : Access}
  {checking : Checking} {entry : PageEntry} {t : Target (Noted δ)}

/-- Whatever has byte cycles only, device or not, cannot tell one wide cycle from byte cycles lane by
lane, when the access lies inside one page. It is called for the same bytes in the same order, at the
same offsets, with the same values and the same lane accesses; a call that it refuses is the last one
in either case; and it is left, with all else on the bus, in the same state. Master and bus get the same
value or a fault of the same kind. -/
theorem endAlike_whole_decompose (hgeometry : bus.table.geometry.isSupported = true)
    (hwide : a.width ≠ .byte) (hstays : bus.routing.leavesPage (bus.routing.normalize a) = false)
    (hentry : bus.routing.resolve checking (bus.routing.normalize a) = .ok entry)
    (htarget : bus.target? entry.target = some t) (hbytes : t.HasByteCyclesOnly) :
    let r := bus.routing
    let n := r.normalize a
    let once := (r.whole entry n).run answer bus
    let lanes := (r.decompose checking n).run answer bus
    ∃ calls, EndAlike entry n (once.1.map Completed.outcome) (lanes.1.map Completed.outcome) calls ∧
      lanes.2 = once.2 ∧
      (once.2.target? entry.target).bind Target.calls? = t.calls?.map fun noted =>
        noted ++ (List.range calls).map (n.byteCall (r.deviceOffset entry n.address)) := by
  intro r n once lanes
  have hpage : ∀ i < n.width.bytes, r.KeepsPage checking entry n i := fun i hi =>
    Routing.keepsPage_of_stays hgeometry hstays hentry (by rwa [Routing.normalize_width] at hi)
  have hwide' : n.width ≠ .byte := by rwa [Routing.normalize_width]
  -- every shape a target can have carries its own state; plain memory has wide cycles of its own
  cases t with
  | page p =>
    obtain ⟨calls, hends, hsame, hlast⟩ := endAlike_of_isRowed Target.isRowed_page
      (s := (p, bus.backplane)) htarget rfl hwide' hpage
    exact ⟨calls, hends, hsame, by rw [hlast]; rfl⟩
  | part part =>
    cases part with
    | ram store => exact hbytes.elim
    | rom store => exact hbytes.elim
    | bankSwitches m =>
      obtain ⟨calls, hends, hsame, hlast⟩ := endAlike_of_isRowed
        (Target.isRowed_bankSwitches m bus.backplane) htarget rfl hwide' hpage
      exact ⟨calls, hends, hsame, by rw [hlast]; rfl⟩
    | bankWindow m =>
      obtain ⟨calls, hends, hsame, hlast⟩ := endAlike_of_isRowed
        (Target.isRowed_bankWindow m bus.backplane) htarget rfl hwide' hpage
      exact ⟨calls, hends, hsame, by rw [hlast]; rfl⟩
    | device d =>
      obtain ⟨calls, hends, hsame, hlast⟩ := endAlike_of_isRowed
        (Target.isRowed_device bus.backplane) (s := (d, bus.backplane.toCommons)) htarget rfl hwide' hpage
      refine ⟨calls, hends, hsame, ?_⟩
      rw [hlast]
      exact congrArg some (Noted.calls_after _ n (List.range calls) (d, bus.backplane.toCommons))

/-- The rack of a bus without cards. -/
instance : Card Empty (Noted Bench.Instrument) Bench.Host where
  name := Empty.elim

/-- Four registers behind the first page of a native big-endian bus. The third one refuses. -/
def thirdRefuses : Bus Bench.Host (Noted Bench.Instrument) Empty where
  config := ⟨⟨9, 8⟩, .native, false, false, false, .constant 0xFF⟩
  table := ⟨⟨9, 8⟩, #[some ⟨⟨1⟩, .io, .full, .registers, ⟨0⟩, 0⟩, none]⟩
  targets := #[.part (.device
    ⟨.registers ⟨"r", #[1, 2, 3, 4], .registers, [(2, .failed)], false⟩, []⟩)]
  diagnostics := .zero
  backplane :=
    { floating := .constant 0xFF, overrides := #[], host := {}, banked := #[], rack := .empty 7 }

/-- A dword for the four registers. -/
def fourRegisters : Access := .write 0 .dword 0xA1B2C3D4 .dataWrite

theorem endAlike_whole_decompose_thirdRefuses :
    let r := thirdRefuses.routing
    let n := r.normalize fourRegisters
    let entry : PageEntry := ⟨⟨1⟩, .io, .full, .registers, ⟨0⟩, 0⟩
    let once := (r.whole entry n).run answer thirdRefuses
    let lanes := (r.decompose .checked n).run answer thirdRefuses
    (r.table.geometry.isSupported = true ∧ fourRegisters.width ≠ .byte ∧ r.leavesPage n = false ∧
      r.resolve .checked n = .ok entry ∧
      ∃ t, thirdRefuses.target? entry.target = some t ∧ t.HasByteCyclesOnly) ∧
    lanes.2 = once.2 ∧
      (once.2.target? entry.target).bind Target.calls? = some ((List.range 3).map (n.byteCall 0)) ∧
      once.1 = .error ⟨.deviceFault, 0, .dword, .dataWrite, .cpu, some ⟨1⟩, some .io, 0, 0⟩ ∧
      lanes.1 = .error ⟨.deviceFault, 2, .dword, .dataWrite, .cpu, some ⟨1⟩, some .io, 0, 2⟩ := by
  have hentry : thirdRefuses.routing.resolve .checked (thirdRefuses.routing.normalize fourRegisters) =
      .ok ⟨⟨1⟩, .io, .full, .registers, ⟨0⟩, 0⟩ := by decide +kernel
  obtain ⟨-, -, hsame, -⟩ := endAlike_whole_decompose
    (by decide : thirdRefuses.table.geometry.isSupported = true)
    (by decide : fourRegisters.width ≠ .byte) (by decide +kernel) hentry rfl trivial
  exact ⟨⟨by decide, by decide, by decide +kernel, hentry, _, rfl, trivial⟩, hsame, by decide +kernel,
    by decide +kernel, by decide +kernel⟩

end Bus

end Motherboard
