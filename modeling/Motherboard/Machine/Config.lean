import Motherboard.Bus.Config
import Motherboard.IoPage.Layout
import Motherboard.Page.Entry
import Motherboard.Text.Hexadecimal

/-!
# Configurations

What a machine is built from: the geometry and policy of its bus, the number of its slots, and the
place of its I/O page. `MachineConfig.validate` reports the first thing that is wrong with one.
-/

namespace Motherboard

/-- Place of an I/O page. -/
structure IoPageConfig where
  /-- Address of offset zero. -/
  base : UInt32
  /-- Layout of the page. -/
  layout : IoPageLayout
  deriving DecidableEq

/-- Who applies the selection rule to an access that a trap has answered. -/
inductive TrapPolicy where
  /-- The trap, if it wants to. -/
  | manual
  /-- The trap table, always. -/
  | replaySelection
  deriving DecidableEq

/-- What a machine is built from. -/
structure MachineConfig where
  /-- The bus. -/
  bus : BusConfig
  /-- Number of card slots. -/
  slotCount : UInt8
  /-- Place of the I/O page, if there is to be one. -/
  ioPage : Option IoPageConfig
  /-- Who applies the selection rule to trapped accesses. -/
  trapPolicy : TrapPolicy
  deriving DecidableEq

/-- Families of processors. -/
inductive Personality where
  /-- Eight bits, with a 16-bit little-endian address space. -/
  | legacy8
  /-- Sixteen bits, with a 24-bit little-endian address space. -/
  | native16
  /-- Thirty-two bits, with a 32-bit big-endian address space. -/
  | native32
  deriving DecidableEq

namespace Personality

/-- The bus that goes with a processor. -/
def busConfig : Personality → BusConfig
  | .legacy8 => ⟨⟨16, 12⟩, .legacy, false, false, true, .constant 0xFF⟩
  | .native16 => ⟨⟨24, 12⟩, .native, true, false, true, .constant 0xFF⟩
  | .native32 => ⟨⟨32, 16⟩, .native, true, false, false, .constant 0xFF⟩

/-- Address of the I/O page that goes with a processor. -/
def ioPageBase : Personality → UInt32
  | .legacy8 | .native16 => 0xC000
  | .native32 => 0x50F00000

/-- The machine that goes with a processor: seven slots and a classic I/O page. -/
def machineConfig (p : Personality) : MachineConfig where
  bus := p.busConfig
  slotCount := 7
  ioPage := some ⟨p.ioPageBase, .classic⟩
  trapPolicy := .manual

end Personality

/-- What is wrong with a configuration. -/
inductive ConfigError where
  /-- No page table has such a geometry. -/
  | geometry (error : MapError)
  /-- There are no slots, or more than the I/O page decodes. -/
  | slotCount (count max : UInt8)
  /-- The parts of the I/O page overlap or leave gaps. -/
  | ioPageLayout
  /-- The I/O page does not start at a page of the bus. -/
  | ioPageMisaligned (base : UInt32) (pageSize : Nat)
  /-- The I/O page leaves the address space. -/
  | ioPageOutOfRange (base : UInt32)
  deriving DecidableEq

/-- The error in words. -/
def ConfigError.message : ConfigError → String
  | .geometry error => error.message
  | .slotCount count max =>
    "slot count " ++ toString count.toNat ++ " outside 1..=" ++ toString max.toNat
  | .ioPageLayout => "I/O page layout is not contiguous"
  | .ioPageMisaligned base pageSize =>
    "I/O page base " ++ Text.hexadecimal base.toNat ++ " not aligned to " ++
      toString pageSize ++ "-byte pages"
  | .ioPageOutOfRange base =>
    "I/O page at " ++ Text.hexadecimal base.toNat ++ " exceeds the address space"

/-- What is wrong with the place of an I/O page on a bus. -/
def IoPageConfig.validate (io : IoPageConfig) (g : Geometry) : Except ConfigError Unit :=
  let pageSize := 1 <<< g.pageShift.toNat
  if !io.layout.isWellFormed then
    .error .ioPageLayout
  else if io.base.toNat % pageSize ≠ 0 then
    .error (.ioPageMisaligned io.base pageSize)
  -- as natural numbers, where the sum does not wrap
  else if 1 <<< g.addressBits.toNat < io.base.toNat + io.layout.span.toNat then
    .error (.ioPageOutOfRange io.base)
  else
    .ok ()

/-- Highest number of slots that a configuration can have. -/
def MachineConfig.maxSlots (c : MachineConfig) : UInt8 :=
  match c.ioPage with
  | some io => io.layout.maxSlot
  | none => 255

/-- What is wrong with a configuration: the geometry first, then the slots, then the I/O page. -/
def MachineConfig.validate (c : MachineConfig) : Except ConfigError Unit :=
  if !c.bus.geometry.isSupported then
    .error (.geometry (.invalidGeometry c.bus.geometry.addressBits c.bus.geometry.pageShift))
  else if c.slotCount = 0 ∨ c.maxSlots < c.slotCount then
    .error (.slotCount c.slotCount c.maxSlots)
  else
    match c.ioPage with
    | some io => io.validate c.bus.geometry
    | none => .ok ()

end Motherboard
