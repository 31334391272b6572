import Motherboard.Device
import Motherboard.Device.Bank
import Motherboard.Device.Storage

/-!
# Parts

A part is what can sit behind a range of addresses: RAM, ROM, one of the two faces of a banked
memory, or a device of another type. Banked memories live on the `Board`, because their two faces
share them; a face names its memory by number.
-/

namespace Motherboard

/-- What devices hold in common, and the banked memories. -/
structure Board (ω : Type) extends Commons ω where
  /-- Banked memories, by number. -/
  banked : Array BankedMemory

/-- Something that answers for a range of addresses. -/
inductive Part (δ : Type) where
  /-- Memory that is read and written. -/
  | ram (store : Storage)
  /-- Memory that is read only. -/
  | rom (store : Storage)
  /-- The switches of a banked memory. -/
  | bankSwitches (memory : Nat)
  /-- The window of a banked memory. -/
  | bankWindow (memory : Nat)
  /-- A device of another type. -/
  | device (d : δ)

namespace Board

variable {ω : Type}

/-- The board with the banked memory of a number replaced. -/
def setBanked (b : Board ω) (memory : Nat) (m : BankedMemory) : Board ω :=
  { b with banked := b.banked.setIfInBounds memory m }

/-- One access to a bank switch. -/
def switchBank (b : Board ω) (memory : Nat) (offset : UInt32) (write : Bool) : Board ω :=
  { b with banked := b.banked.modify memory fun m => m.switch offset write }

/-- A byte read from the switches: the switch is thrown, and nothing drives the lines. -/
def readSwitch (memory : Nat) (offset : UInt32) (access : Access) : Cycle (Board ω) UInt8 :=
  fun b => (.ok (b.floating.value access.address), b.switchBank memory offset false)

/-- A byte written to the switches: the switch is thrown. -/
def writeSwitch (memory : Nat) (offset : UInt32) (_value : UInt8) (_access : Access) :
    Cycle (Board ω) Unit :=
  fun b => (.ok (), b.switchBank memory offset true)

/-- A byte read through the window. -/
def readBanked (memory : Nat) (offset : UInt32) (_access : Access) : Cycle (Board ω) UInt8 :=
  fun b =>
    match b.banked[memory]? with
    | some m => (m.read offset, b)
    | none => (.error .failed, b)

/-- A byte written through the window. -/
def writeBanked (memory : Nat) (offset : UInt32) (value : UInt8) (_access : Access) :
    Cycle (Board ω) Unit :=
  fun b =>
    match b.banked[memory]? with
    | some m =>
      let (answer, m) := m.write offset value
      (answer, b.setBanked memory m)
    | none => (.error .failed, b)

/-- The switches of a banked memory return to power-on. -/
def resetBanked (b : Board ω) (memory : Nat) : Board ω :=
  { b with banked := b.banked.modify memory BankedMemory.reset }

end Board

namespace Part

variable {δ ω : Type}

/-- Capabilities of the window of a banked memory. -/
def windowCapabilities : Capabilities := ⟨false, true, false, false⟩

/-- Lets a cycle of the board run beside a part that does not change. -/
def onBoard {α : Type} (c : Cycle (Board ω) α) (part : Part δ) (b : Board ω) :
    Except DeviceError α × Part δ × Board ω :=
  let (answer, b) := c b
  (answer, part, b)

/-- Lets a cycle of a device run on the common part of a board. -/
def onDevice {α : Type} (c : Cycle (δ × Commons ω) α) (d : δ) (b : Board ω) :
    Except DeviceError α × Part δ × Board ω :=
  let (answer, d, commons) := c (d, b.toCommons)
  (answer, .device d, { b with toCommons := commons })

variable [Device δ ω]

/-- What a part tells the bus about itself. -/
def capabilities : Part δ → Capabilities
  | .ram _ | .rom _ => .memory
  | .bankSwitches _ => .registers
  | .bankWindow _ => windowCapabilities
  | .device d => Device.capabilities d

/-- Reads a value of any width. -/
def read (width : Width) (offset : UInt32) (access : Access) :
    Cycle (Part δ × Board ω) UInt32
  | (.ram store, b) => (store.load width access.order offset, .ram store, b)
  | (.rom store, b) => (store.load width access.order offset, .rom store, b)
  | (.bankSwitches m, b) =>
    onBoard (Cycle.read (Board.readSwitch m) width offset access) (.bankSwitches m) b
  | (.bankWindow m, b) =>
    onBoard (Cycle.read (Board.readBanked m) width offset access) (.bankWindow m) b
  | (.device d, b) => onDevice (Device.read width offset access) d b

/-- Writes a value of any width. -/
def write (width : Width) (offset value : UInt32) (access : Access) :
    Cycle (Part δ × Board ω) Unit
  | (.ram store, b) =>
    let (answer, store) := store.store width access.order offset value
    (answer, .ram store, b)
  | (.rom store, b) => (.error .readOnly, .rom store, b)
  | (.bankSwitches m, b) =>
    onBoard (Cycle.write (Board.writeSwitch m) width offset value access) (.bankSwitches m) b
  | (.bankWindow m, b) =>
    onBoard (Cycle.write (Board.writeBanked m) width offset value access) (.bankWindow m) b
  | (.device d, b) => onDevice (Device.write width offset value access) d b

/-- Looks at a byte; a device may note the look with the host. -/
def peek (offset : UInt32) (part : Part δ) (b : Board ω) : Option UInt8 × ω :=
  match part with
  | .ram store | .rom store => (store.get? offset, b.host)
  | .bankSwitches _ => (none, b.host)
  | .bankWindow m => ((b.banked[m]?).bind fun m => m.visible? offset, b.host)
  | .device d => Device.peek offset d b.toCommons

/-- Stores a byte without side effects; ROM images may be patched. -/
def poke (offset : UInt32) (value : UInt8) (part : Part δ) (b : Board ω) :
    Bool × Part δ × Board ω :=
  match part with
  | .ram store =>
    let (stored, store) := store.poke offset value
    (stored, .ram store, b)
  | .rom store =>
    let (stored, store) := store.poke offset value
    (stored, .rom store, b)
  | .bankSwitches m => (false, .bankSwitches m, b)
  | .bankWindow m =>
    match b.banked[m]? with
    | some memory =>
      let (stored, memory) := memory.poke offset value
      (stored, .bankWindow m, b.setBanked m memory)
    | none => (false, .bankWindow m, b)
  | .device d =>
    let (stored, d, host) := Device.poke offset value d b.toCommons
    (stored, .device d, { b with host := host })

/-- Returns a part to power-on; stored bytes stay. -/
def reset (part : Part δ) (b : Board ω) : Part δ × Board ω :=
  match part with
  | .ram store => (.ram store, b)
  | .rom store => (.rom store, b)
  | .bankSwitches m => (.bankSwitches m, b.resetBanked m)
  | .bankWindow m => (.bankWindow m, b.resetBanked m)
  | .device d =>
    let (d, commons) := Device.reset d b.toCommons
    (.device d, { b with toCommons := commons })

end Part

end Motherboard
