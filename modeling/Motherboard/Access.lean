/-!
# Bus accesses

A bus master asks for one address at a time: it says where, how wide, why, and under which
modifiers. `Access` is that request. The intent tells loads from stores and ordinary traffic from
the debugger's; the flags choose between one wide device cycle and byte cycles, and keep an access
quiet. `Access.sideEffectsAllowed` is the one test the bus and the trap table share.
-/

namespace Motherboard

/-- Why a bus master touches an address. -/
inductive Intent where
  /-- A load of data by the processor. -/
  | dataRead
  /-- A store of data by the processor. -/
  | dataWrite
  /-- A fetch of an opcode or operand. -/
  | instructionFetch
  /-- A look by the debugger. -/
  | debugRead
  /-- A change by the debugger. -/
  | debugWrite
  /-- A load by a DMA master. -/
  | dmaRead
  /-- A store by a DMA master. -/
  | dmaWrite
  deriving DecidableEq

namespace Intent

/-- Every intent, in the order of its index. -/
def all : List Intent :=
  [.dataRead, .dataWrite, .instructionFetch, .debugRead, .debugWrite, .dmaRead, .dmaWrite]

/-- The intent stores a value. -/
def isWrite : Intent → Bool
  | .dataWrite | .debugWrite | .dmaWrite => true
  | _ => false

/-- The intent is the debugger's. -/
def isDebug : Intent → Bool
  | .debugRead | .debugWrite => true
  | _ => false

/-- The intent fetches an instruction. -/
def isFetch : Intent → Bool
  | .instructionFetch => true
  | _ => false

/-- The word that reports use for an intent. -/
def name : Intent → String
  | .dataRead => "DataRead"
  | .dataWrite => "DataWrite"
  | .instructionFetch => "InstructionFetch"
  | .debugRead => "DebugRead"
  | .debugWrite => "DebugWrite"
  | .dmaRead => "DmaRead"
  | .dmaWrite => "DmaWrite"

end Intent

/-- How many bytes one access covers. -/
inductive Width where
  /-- Eight bits. -/
  | byte
  /-- Sixteen bits. -/
  | word
  /-- Thirty-two bits. -/
  | dword
  deriving DecidableEq

namespace Width

/-- Width in bytes. -/
def bytes : Width → Nat
  | .byte => 1
  | .word => 2
  | .dword => 4

/-- Width in bits. -/
def bits : Width → Nat
  | .byte => 8
  | .word => 16
  | .dword => 32

/-- The largest value of this width; masking with it cuts a value to the width. -/
def mask : Width → UInt32
  | .byte => 0xFF
  | .word => 0xFFFF
  | .dword => 0xFFFFFFFF

end Width

/-- Modifiers of one access. -/
structure AccessFlags where
  /-- Devices must not notice the access. -/
  quiet : Bool := false
  /-- Prefer one wide device cycle where the target has a wide accessor. -/
  atomic : Bool := false
  /-- Insist on byte cycles. -/
  decompose : Bool := false
  /-- Words have their low byte at the lowest address. -/
  littleEndian : Bool := false
  deriving DecidableEq

namespace AccessFlags

/-- No modifier. -/
def plain : AccessFlags := {}

/-- The flags whose bits are set in `bits`; bits that name no flag are dropped. -/
def ofBits (bits : UInt8) : AccessFlags where
  quiet := bits &&& 1 != 0
  atomic := bits &&& 2 != 0
  decompose := bits &&& 4 != 0
  littleEndian := bits &&& 8 != 0

/-- One bit per flag, in the order of the fields. -/
def bits (f : AccessFlags) : UInt8 :=
  (if f.quiet then 1 else 0) ||| (if f.atomic then 2 else 0) |||
    (if f.decompose then 4 else 0) ||| (if f.littleEndian then 8 else 0)

/-- Every flag of `g` is set in `f`. -/
def contains (f g : AccessFlags) : Bool :=
  (!g.quiet || f.quiet) && (!g.atomic || f.atomic) &&
    (!g.decompose || f.decompose) && (!g.littleEndian || f.littleEndian)

/-- The flags set in either. -/
def union (f g : AccessFlags) : AccessFlags where
  quiet := f.quiet || g.quiet
  atomic := f.atomic || g.atomic
  decompose := f.decompose || g.decompose
  littleEndian := f.littleEndian || g.littleEndian

/-- The flags of `f` that are not in `g`. -/
def without (f g : AccessFlags) : AccessFlags where
  quiet := f.quiet && !g.quiet
  atomic := f.atomic && !g.atomic
  decompose := f.decompose && !g.decompose
  littleEndian := f.littleEndian && !g.littleEndian

end AccessFlags

/-- How a device sees an access. -/
inductive AccessMode where
  /-- One device cycle covers the whole width. -/
  | atomic
  /-- The device sees one byte cycle of a wider access. -/
  | decomposed
  deriving DecidableEq

/-- The bus master that issued an access. -/
structure SourceId where
  /-- Number of the master. -/
  number : UInt16
  deriving DecidableEq

namespace SourceId

/-- The processor. -/
def cpu : SourceId := ⟨0⟩

/-- The first DMA master. -/
def dma : SourceId := ⟨1⟩

/-- The debugger and other tools. -/
def debugger : SourceId := ⟨0xFFFF⟩

end SourceId

/-- One request of a bus master. -/
structure Access where
  /-- Lowest address touched. -/
  address : UInt32
  /-- Value to store; reads ignore it. -/
  value : UInt32
  /-- Bytes covered. -/
  width : Width
  /-- How the device sees the access. -/
  mode : AccessMode
  /-- Why the access is issued. -/
  intent : Intent
  /-- Who issued it. -/
  source : SourceId
  /-- Cycle at which it was issued. -/
  cycle : UInt64
  /-- Modifiers. -/
  flags : AccessFlags
  deriving DecidableEq

namespace Access

/-- An access that carries no value. -/
def read (address : UInt32) (width : Width) (intent : Intent) : Access where
  address := address
  value := 0
  width := width
  mode := .atomic
  intent := intent
  source := .cpu
  cycle := 0
  flags := .plain

/-- An access that stores `value`, cut to the width. -/
def write (address : UInt32) (width : Width) (value : UInt32) (intent : Intent) : Access :=
  -- cut here once, so that every lane is a byte of the value
  { read address width intent with value := value &&& width.mask }

/-- The same access with more flags. -/
def withFlags (a : Access) (flags : AccessFlags) : Access :=
  { a with flags := a.flags.union flags }

/-- The same access issued by another master. -/
def fromSource (a : Access) (source : SourceId) : Access :=
  { a with source := source }

/-- The same access issued at another cycle. -/
def atCycle (a : Access) (cycle : UInt64) : Access :=
  { a with cycle := cycle }

/-- Devices may notice the access: it is not the debugger's and not flagged quiet. -/
def sideEffectsAllowed (a : Access) : Bool :=
  !a.intent.isDebug && !a.flags.quiet

end Access

end Motherboard
