import Motherboard.Access.Lane
import Motherboard.Device.Capabilities
import Motherboard.Fault
import Motherboard.Device.FloatingBus
import Motherboard.IoPage.Overrides

/-!
# Devices

A device is a state of some type `δ` that reacts to byte cycles, and perhaps to wide ones; it refuses
a cycle with a `DeviceError`. Whatever a cycle did to the device before it was refused stays done.

A device that has byte cycles only answers a wide access as a row of byte cycles, one per lane
(`Cycle.readLanes`, `Cycle.writeLanes`), up to the first refusal.

Beside its own state a device may touch what the machine holds in common: the floating lines, the
ROM override switches and the state `ω` of the host. Cycles and resets may change all of it. Looks and
pokes see all of it, but they are without side effects by contract: a look changes nothing of the machine
and a poke the device alone, and at most the host takes note of them.
-/

namespace Motherboard

/-- What devices hold in common. -/
structure Commons (ω : Type) where
  /-- The undriven data lines. -/
  floating : FloatingBus
  /-- The override switches of each I/O page. -/
  overrides : Array RomOverrides
  /-- The state of the host that embeds the machine. -/
  host : ω

/-- One device cycle on a state `σ`: an answer or a refusal, and the state afterwards. -/
abbrev Cycle (σ α : Type) := σ → Except DeviceError α × σ

namespace Cycle

variable {σ : Type}

/-- Byte cycles for the lanes listed, merged into `value`, up to the first refusal. -/
def readLanesFrom (read8 : UInt32 → Access → Cycle σ UInt8) (offset : UInt32) (access : Access) :
    List Nat → UInt32 → Cycle σ UInt32
  | [], value, s => (.ok value, s)
  | i :: rest, value, s =>
    match read8 (offset + i.toUInt32) (access.lane i) s with
    | (.ok byte, s) => readLanesFrom read8 offset access rest (access.mergeLane value i byte) s
    | (.error e, s) => (.error e, s)

/-- A read as one byte cycle per lane. -/
def readLanes (read8 : UInt32 → Access → Cycle σ UInt8) (offset : UInt32) (access : Access) :
    Cycle σ UInt32 :=
  readLanesFrom read8 offset access access.laneNumbers 0

/-- Byte cycles that store the lanes listed, up to the first refusal. -/
def writeLanesFrom (write8 : UInt32 → UInt8 → Access → Cycle σ Unit) (offset : UInt32)
    (access : Access) : List Nat → Cycle σ Unit
  | [], s => (.ok (), s)
  | i :: rest, s =>
    let lane := access.lane i
    match write8 (offset + i.toUInt32) lane.value.toUInt8 lane s with
    | (.ok (), s) => writeLanesFrom write8 offset access rest s
    | (.error e, s) => (.error e, s)

/-- A write of `value` as one byte cycle per lane. -/
def writeLanes (write8 : UInt32 → UInt8 → Access → Cycle σ Unit) (offset value : UInt32)
    (access : Access) : Cycle σ Unit :=
  let access := { access with value := value }
  writeLanesFrom write8 offset access access.laneNumbers

/-- The same cycle with its answer changed. -/
def map {α β : Type} (f : α → β) (c : Cycle σ α) : Cycle σ β := fun s =>
  let (answer, s) := c s
  (answer.map f, s)

/-- A read of any width by a device with byte cycles only. -/
def read (read8 : UInt32 → Access → Cycle σ UInt8) (width : Width) (offset : UInt32)
    (access : Access) : Cycle σ UInt32 :=
  match width with
  | .byte => (read8 offset access).map UInt8.toUInt32
  | .word => (readLanes read8 offset access).map (· &&& Width.word.mask)
  | .dword => readLanes read8 offset access

/-- A write of any width by a device with byte cycles only. -/
def write (write8 : UInt32 → UInt8 → Access → Cycle σ Unit) (width : Width) (offset value : UInt32)
    (access : Access) : Cycle σ Unit :=
  match width with
  | .byte => write8 offset value.toUInt8 access
  | .word => writeLanes write8 offset (value &&& Width.word.mask) access
  | .dword => writeLanes write8 offset value access

end Cycle

/-- Types of devices. Only byte cycles have to be given: wide cycles default to rows of them, looks
and pokes to none, and a reset to leaving the device alone. -/
class Device (δ : Type) (ω : outParam Type) where
  /-- What the device tells the bus about itself. -/
  capabilities : δ → Capabilities
  /-- Reads a byte. -/
  read8 : UInt32 → Access → Cycle (δ × Commons ω) UInt8
  /-- Writes a byte. -/
  write8 : UInt32 → UInt8 → Access → Cycle (δ × Commons ω) Unit
  /-- Reads a 16-bit word. -/
  read16 : UInt32 → Access → Cycle (δ × Commons ω) UInt16 := fun offset access =>
    (Cycle.readLanes read8 offset access).map UInt32.toUInt16
  /-- Writes a 16-bit word. -/
  write16 : UInt32 → UInt16 → Access → Cycle (δ × Commons ω) Unit := fun offset value access =>
    Cycle.writeLanes write8 offset value.toUInt32 access
  /-- Reads a 32-bit word. -/
  read32 : UInt32 → Access → Cycle (δ × Commons ω) UInt32 := fun offset access =>
    Cycle.readLanes read8 offset access
  /-- Writes a 32-bit word. -/
  write32 : UInt32 → UInt32 → Access → Cycle (δ × Commons ω) Unit := fun offset value access =>
    Cycle.writeLanes write8 offset value access
  /-- Looks at a byte without side effects; none where the device drives nothing. -/
  peek : UInt32 → δ → Commons ω → Option UInt8 × ω := fun _ _ commons => (none, commons.host)
  /-- Stores a byte without side effects; the answer tells whether it was stored. -/
  poke : UInt32 → UInt8 → δ → Commons ω → Bool × δ × ω := fun _ _ device commons =>
    (false, device, commons.host)
  /-- Returns the device to power-on. A device that holds override switches or drives the floating lines
  may touch them when it is reset. -/
  reset : δ → Commons ω → δ × Commons ω := fun device commons => (device, commons)

namespace Device

variable {δ ω : Type} [Device δ ω]

/-- Reads a value of any width. -/
def read (width : Width) (offset : UInt32) (access : Access) : Cycle (δ × Commons ω) UInt32 :=
  match width with
  | .byte => (read8 offset access).map UInt8.toUInt32
  | .word => (read16 offset access).map UInt16.toUInt32
  | .dword => read32 offset access

/-- Writes a value of any width, cut to it. -/
def write (width : Width) (offset value : UInt32) (access : Access) :
    Cycle (δ × Commons ω) Unit :=
  match width with
  | .byte => write8 offset value.toUInt8 access
  | .word => write16 offset value.toUInt16 access
  | .dword => write32 offset value access

end Device

end Motherboard
