import Motherboard.Fault

/-!
# Banked memory

A window of 12 KiB over RAM and ROM. Sixteen switch offsets choose what the window shows: reads see
RAM or ROM, the lower 4 KiB are one of two banks, the upper 8 KiB are shared. Writing has to be
armed by two reads of odd switches in a row. The switches and the window are two faces of one
`BankedMemory`; the bus reaches them as two targets.
-/

namespace Motherboard

/-- What the switches have chosen. -/
structure BankState where
  /-- Reads see RAM. -/
  readRam : Bool
  /-- Writes reach RAM. -/
  writeEnabled : Bool
  /-- The lower part is the second bank. -/
  bank2 : Bool
  /-- The last switch access was a read of an odd offset. -/
  prewrite : Bool
  deriving DecidableEq

namespace BankState

/-- Power-on: reads see ROM, writes reach the second bank. -/
def powerOn : BankState := ⟨false, true, true, false⟩

/-- Number of switch offsets. -/
def switchCount : UInt32 := 16

/-- The state after one access to a switch. Bit 3 chooses the bank, bits 0 and 1 what reads see; an
even offset disables writing, a second read in a row of odd offsets enables it. -/
def switched (s : BankState) (offset : UInt32) (write : Bool) : BankState :=
  let switch := offset % switchCount
  -- the lowest bit arms, bit 1 and it together choose what is read
  let odd := switch &&& 1 != 0
  { readRam := switch &&& 3 == 0 || switch &&& 3 == 3
    writeEnabled := odd && (s.writeEnabled || (!write && s.prewrite))
    bank2 := switch &&& 8 == 0
    prewrite := odd && !write }

end BankState

/-- Memory behind bank switches. -/
structure BankedMemory where
  /-- What the switches have chosen. -/
  state : BankState
  /-- First lower bank. -/
  low1 : Array UInt8
  /-- Second lower bank. -/
  low2 : Array UInt8
  /-- Upper part, common to both banks. -/
  high : Array UInt8
  /-- Firmware behind the whole window. -/
  rom : Array UInt8

namespace BankedMemory

/-- Bytes in a lower bank. -/
def bankSize : Nat := 0x1000

/-- Bytes in the upper part. -/
def highSize : Nat := 0x2000

/-- Bytes in the window. -/
def windowSize : Nat := bankSize + highSize

/-- A firmware image cut or padded with zeros to the size of the window. -/
def fitRom (image : Array UInt8) : Array UInt8 :=
  Array.ofFn fun i : Fin windowSize => image.getD i 0

/-- Cleared memory at power-on over a firmware image. -/
def ofRom (image : Array UInt8) : BankedMemory where
  state := .powerOn
  low1 := Array.replicate bankSize 0
  low2 := Array.replicate bankSize 0
  high := Array.replicate highSize 0
  rom := fitRom image

/-- One access to a switch. -/
def switch (m : BankedMemory) (offset : UInt32) (write : Bool) : BankedMemory :=
  { m with state := m.state.switched offset write }

/-- The RAM byte at an offset, in the bank that the switches choose. -/
def ram? (m : BankedMemory) (offset : UInt32) : Option UInt8 :=
  let i := offset.toNat
  if i < bankSize then
    if m.state.bank2 then m.low2[i]? else m.low1[i]?
  else
    m.high[i - bankSize]?

/-- The byte that a read sees. -/
def visible? (m : BankedMemory) (offset : UInt32) : Option UInt8 :=
  if m.state.readRam then m.ram? offset else m.rom[offset.toNat]?

/-- Stores a RAM byte in the bank that the switches choose; none outside the window. -/
def store? (m : BankedMemory) (offset : UInt32) (value : UInt8) : Option BankedMemory :=
  let i := offset.toNat
  if i < bankSize then
    -- writes follow the same bank as reads, whatever reads see
    if m.state.bank2 then
      if i < m.low2.size then some { m with low2 := m.low2.setIfInBounds i value } else none
    else
      if i < m.low1.size then some { m with low1 := m.low1.setIfInBounds i value } else none
  else if i - bankSize < m.high.size then
    some { m with high := m.high.setIfInBounds (i - bankSize) value }
  else
    none

/-- Reads through the window. -/
def read (m : BankedMemory) (offset : UInt32) : Except DeviceError UInt8 :=
  match m.visible? offset with
  | some byte => .ok byte
  | none => .error .failed

/-- Writes through the window; ignored while writing is disabled. -/
def write (m : BankedMemory) (offset : UInt32) (value : UInt8) :
    Except DeviceError Unit × BankedMemory :=
  if m.state.writeEnabled then
    match m.store? offset value with
    | some stored => (.ok (), stored)
    | none => (.error .failed, m)
  else
    (.ok (), m)

/-- Stores through the window whatever the switches say about writing. -/
def poke (m : BankedMemory) (offset : UInt32) (value : UInt8) : Bool × BankedMemory :=
  match m.store? offset value with
  | some stored => (true, stored)
  | none => (false, m)

/-- The switches return to power-on; stored bytes stay. -/
def reset (m : BankedMemory) : BankedMemory :=
  { m with state := .powerOn }

end BankedMemory

end Motherboard
