import Motherboard.Bench.Journal

/-!
# Instruments

Devices and cards that write down what happens to them. A register block has cells, refuses chosen
offsets, and may or may not answer looks; override switches flip the ROM overrides of an I/O page as
a soft-switch device does. A card reports what it is told and answers for the regions it was given.
-/

namespace Motherboard.Bench

/-- Byte registers that report their accesses. -/
structure Registers where
  /-- Name in the journal. -/
  id : String
  /-- Content. -/
  cells : Array UInt8
  /-- What the registers tell the bus about themselves. -/
  capabilities : Capabilities
  /-- Offsets that are refused, with the refusal. -/
  refused : List (UInt32 × DeviceError)
  /-- The registers answer looks and pokes, and take resets. -/
  probe : Bool

/-- Devices of a bench. -/
inductive Instrument where
  /-- Byte registers. -/
  | registers (r : Registers)
  /-- Switches that flip the overrides of the I/O page of a number. -/
  | overrides (switches : Nat)

namespace Registers

/-- Reads a register: a refused offset first, then a missing one, then the cell. -/
def load (r : Registers) (offset : UInt32) : Except DeviceError UInt8 :=
  match r.refused.lookup offset with
  | some e => .error e
  | none =>
    match r.cells[offset.toNat]? with
    | some byte => .ok byte
    | none => .error .failed

/-- Registers with one cell replaced. -/
def put (r : Registers) (offset : UInt32) (value : UInt8) : Registers :=
  { r with cells := r.cells.setIfInBounds offset.toNat value }

end Registers

/-- What writing to override switches does: offset 6 and 7 are the switch for all slots, from 16 on
there is a switch per slot. -/
def flip (offset : UInt32) (value : UInt8) (o : RomOverrides) : RomOverrides :=
  if offset = 6 then o.setAll false
  else if offset = 7 then o.setAll true
  else if 16 ≤ offset ∧ offset < 48 then o.setSlot (offset - 16).toUInt8 (value &&& 1 == 1)
  else o

namespace Instrument

/-- Reads a byte. -/
def read8 (offset : UInt32) (access : Access) : Cycle (Instrument × Commons Host) UInt8
  | (.registers r, c) =>
    (r.load offset, .registers r, { c with host := c.host.note (.read8 r.id offset access) })
  | (.overrides n, c) => (.ok (c.overrides.getD n {}).slotMask.toUInt8, .overrides n, c)

/-- Writes a byte. -/
def write8 (offset : UInt32) (value : UInt8) (access : Access) :
    Cycle (Instrument × Commons Host) Unit
  | (.registers r, c) =>
    let c := { c with host := c.host.note (.write8 r.id offset value access) }
    match r.load offset with
    | .ok _ => (.ok (), .registers (r.put offset value), c)
    | .error e => (.error e, .registers r, c)
  | (.overrides n, c) =>
    (.ok (), .overrides n, { c with overrides := c.overrides.modify n (flip offset value) })

/-- Looks at a byte. -/
def peek (offset : UInt32) (d : Instrument) (h : Host) : Option UInt8 × Host :=
  match d with
  | .registers r =>
    if r.probe then (r.cells[offset.toNat]?, h.note (.peek8 r.id offset)) else (none, h)
  | .overrides _ => (none, h)

/-- Stores a byte without side effects. -/
def poke (offset : UInt32) (value : UInt8) (d : Instrument) (h : Host) :
    Bool × Instrument × Host :=
  match d with
  | .registers r =>
    if r.probe then
      (decide (offset.toNat < r.cells.size), .registers (r.put offset value),
        h.note (.poke8 r.id offset value))
    else
      (false, d, h)
  | .overrides _ => (false, d, h)

/-- Probes clear their cells. -/
def reset (d : Instrument) (h : Host) : Instrument × Host :=
  match d with
  | .registers r =>
    if r.probe then
      (.registers { r with cells := Array.replicate r.cells.size 0 }, h.note (.reset r.id))
    else
      (d, h)
  | .overrides _ => (d, h)

/-- What an instrument tells the bus about itself. -/
def capabilities : Instrument → Capabilities
  | .registers r => r.capabilities
  | .overrides _ => .registers

instance : Device Instrument Host where
  capabilities := capabilities
  read8 := read8
  write8 := write8
  peek offset d c := d.peek offset c.host
  poke offset value d c := d.poke offset value c.host
  reset d c :=
    let (d, host) := d.reset c.host
    (d, { c with host := host })

end Instrument

/-- A card that reports what it is told. -/
structure TestCard where
  /-- Name in the journal. -/
  name : String
  /-- Registers of the card. -/
  io : Option (Part Instrument) := none
  /-- ROM of the card. -/
  rom : Option (Part Instrument) := none
  /-- Expansion ROM of the card. -/
  expansion : Option (Part Instrument) := none
  /-- The card answers looks. -/
  lookable : Bool := true
  /-- The card reports what it is told. -/
  reports : Bool := true

namespace TestCard

/-- The part that answers for a region. -/
def region (region : CardRegion) (b : TestCard) : Option (Part Instrument) :=
  match region with
  | .io => b.io
  | .rom => b.rom
  | .expansionRom => b.expansion

/-- The card with another part for a region. -/
def setRegion (region : CardRegion) (part : Part Instrument) (b : TestCard) : TestCard :=
  match region with
  | .io => { b with io := some part }
  | .rom => { b with rom := some part }
  | .expansionRom => { b with expansion := some part }

/-- Reports something. -/
def report (entry : String → Entry) (b : TestCard) (h : Host) : TestCard × Host :=
  (b, if b.reports then h.note (entry b.name) else h)

instance : Card TestCard Instrument Host where
  name := TestCard.name
  region := region
  setRegion := setRegion
  lookRegion := fun which b => if b.lookable then b.region which else none
  installed := fun slot => report fun name => .installed name slot
  selected := report .selected
  deselected := report .deselected
  reset := report .reset

end TestCard

end Motherboard.Bench
