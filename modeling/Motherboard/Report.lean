import Motherboard.Machine
import Motherboard.Text.Form

/-!
# Reports

How the parts of a machine are written down for a reader: as records with the names of their fields.
Parts with hidden state, such as targets and cards, show a summary.
-/

namespace Motherboard

open Text (Form)

/-! ## Words -/

/-- The word for a kind of fault. -/
def FaultKind.name : FaultKind → String
  | .unmapped => "Unmapped"
  | .permission => "Permission"
  | .noExecute => "Nx"
  | .misaligned => "Misaligned"
  | .deviceFault => "DeviceFault"

/-- The word for a class of faults. -/
def FaultClass.name : FaultClass → String
  | .addressing => "Addressing"
  | .protection => "Protection"
  | .device => "Device"

/-- The word for a device's refusal. -/
def DeviceError.name : DeviceError → String
  | .readOnly => "ReadOnly"
  | .misaligned => "Misaligned"
  | .failed => "Failed"

/-- The word for a refusal to map. -/
def MapError.name : MapError → String
  | .invalidGeometry .. => "InvalidGeometry"
  | .indexOutOfRange .. => "IndexOutOfRange"
  | .unknownTarget _ => "UnknownTarget"
  | .emptyRange => "EmptyRange"
  | .notMapped _ => "NotMapped"

/-- The word for a refusal by the rack. -/
def SlotError.name : SlotError → String
  | .outOfRange .. => "OutOfRange"
  | .occupied _ => "Occupied"
  | .empty _ => "Empty"

/-- The word for a mistake in a configuration. -/
def ConfigError.name : ConfigError → String
  | .geometry error => "Geometry/" ++ error.name
  | .slotCount .. => "SlotCount"
  | .ioPageLayout => "IoPageLayout"
  | .ioPageMisaligned .. => "IoPageMisaligned"
  | .ioPageOutOfRange _ => "IoPageOutOfRange"

/-- The word for a refusal by a machine. -/
def MachineError.name : MachineError → String
  | .map error => "Map/" ++ error.name
  | .slot error => "Slot/" ++ error.name
  | .noIoPage => "NoIoPage"
  | .slotsBusy => "SlotsBusy"
  | .handlerTableFull => "HandlerTableFull"

/-- Errors that a reader gets as a word and a sentence. -/
class Refusal (ε : Type) where
  /-- The word for the kind of error. -/
  name : ε → String
  /-- The error in words. -/
  message : ε → String

instance : Refusal DeviceError := ⟨DeviceError.name, DeviceError.message⟩

instance : Refusal MapError := ⟨MapError.name, MapError.message⟩

instance : Refusal SlotError := ⟨SlotError.name, SlotError.message⟩

instance : Refusal ConfigError := ⟨ConfigError.name, ConfigError.message⟩

instance : Refusal MachineError := ⟨MachineError.name, MachineError.message⟩

/-- The word for a mode of the processor. -/
def CpuMode.name : CpuMode → String
  | .legacy => "Legacy"
  | .native => "Native"

/-- The word for a trap policy. -/
def TrapPolicy.name : TrapPolicy → String
  | .manual => "Manual"
  | .replaySelection => "ReplaySelection"

/-- The word for the way a device sees an access. -/
def AccessMode.name : AccessMode → String
  | .atomic => "Atomic"
  | .decomposed => "Decomposed"

/-- The word for a control line. -/
def Line.name : Line → String
  | .irq => "Irq"
  | .nmi => "Nmi"
  | .reset => "Reset"
  | .rdy => "Rdy"
  | .dmaRequest => "DmaRequest"
  | .sync => "Sync"

/-- The words for the regions that every machine has. -/
def Region.words : List (String × Region) :=
  [("Ram", .ram), ("Rom", .rom), ("Io", .io), ("Expansion", .expansion)]

/-- The words for the categories of events that every machine has. -/
def EventKind.words : List (String × EventKind) :=
  [("DeviceTimer", .deviceTimer), ("InterruptLineChange", .interruptLineChange),
   ("DmaPhase", .dmaPhase), ("PeriodicTick", .periodicTick), ("DeferredWork", .deferredWork)]

/-- The word that a list has for a value; the empty word when it has none. -/
def wordFor {α : Type} [DecidableEq α] (words : List (String × α)) (a : α) : String :=
  ((words.find? fun word => word.2 == a).map Prod.fst).getD ""

/-- What the fast path of the bus says when an access fails that its caller should have checked. -/
def Fault.directMessage (f : Fault) : String :=
  "direct bus access faulted: " ++ f.message

/-! ## Accesses and faults -/

/-- A device number. -/
def DeviceId.form (d : DeviceId) : Form := .tuple "DeviceId" [.number d.number.toNat]

/-- A kind of region. -/
def Region.form : Region → Form
  | .custom tag => .tuple "Custom" [.number tag.toNat]
  | region => .word (wordFor Region.words region)

/-- A fault. -/
def Fault.form (f : Fault) : Form :=
  .record "BusFault"
    [("kind", .word f.kind.name),
     ("address", .number f.address.toNat),
     ("width_bits", .number f.width.bits),
     ("intent", .word f.intent.name),
     ("source_id", .tuple "SourceId" [.number f.source.number.toNat]),
     ("device", .optional (f.device.map DeviceId.form)),
     ("region", .optional (f.region.map Region.form)),
     ("cycle", .number f.cycle.toNat),
     ("cycles", .number f.cycles.toNat)] false

/-- The counters of a bus. -/
def Diagnostics.form (d : Diagnostics) : Form :=
  .record "BusDiagnostics"
    [("last_fault", .optional (d.lastFault.map Fault.form)),
     ("access_count", .number d.accesses.toNat),
     ("decomposed_count", .number d.decomposed.toNat),
     ("floating_read_count", .number d.floatingReads.toNat),
     ("trapped_count", .number d.trapped.toNat),
     ("fault_count_unmapped", .number d.unmapped.toNat),
     ("fault_count_permission", .number d.permission.toNat),
     ("fault_count_nx", .number d.noExecute.toNat),
     ("fault_count_misaligned", .number d.misaligned.toNat),
     ("fault_count_device", .number d.deviceFaults.toNat)] false

/-! ## Configurations -/

/-- What undriven reads see. -/
def FloatingPolicy.form : FloatingPolicy → Form
  | .constant value => .tuple "Constant" [.number value.toNat]
  | .latched initial => .record "Latched" [("initial", .number initial.toNat)] false

/-- The geometry and policy of a bus. -/
def BusConfig.form (c : BusConfig) : Form :=
  .record "BusConfig"
    [("address_bits", .number c.geometry.addressBits.toNat),
     ("page_shift", .number c.geometry.pageShift.toNat),
     ("cpu_mode", .word c.cpuMode.name),
     ("enforce_nx", .truth c.enforceNx),
     ("strict_alignment", .truth c.strictAlignment),
     ("little_endian", .truth c.littleEndian),
     ("floating_bus", c.floating.form)] false

/-- The layout of an I/O page. -/
def IoPageLayout.form (l : IoPageLayout) : Form :=
  .record "IoPageLayout"
    [("soft_switch_end", .number l.softSwitchEnd.toNat),
     ("slot_io_base", .number l.slotIoBase.toNat),
     ("slot_io_size", .number l.slotIoSize.toNat),
     ("slot_rom_size", .number l.slotRomSize.toNat),
     ("expansion_base", .number l.expansionBase.toNat),
     ("expansion_end", .number l.expansionEnd.toNat),
     ("deselect_offset", .number l.deselectOffset.toNat),
     ("max_slot", .number l.maxSlot.toNat)] false

/-- The place of an I/O page. -/
def IoPageConfig.form (c : IoPageConfig) : Form :=
  .record "IoPageConfig" [("base", .number c.base.toNat), ("layout", c.layout.form)] false

/-- What a machine is built from. -/
def MachineConfig.form (c : MachineConfig) : Form :=
  .record "MachineConfig"
    [("bus", c.bus.form),
     ("slot_count", .number c.slotCount.toNat),
     ("io_page", .optional (c.ioPage.map IoPageConfig.form)),
     ("trap_policy", .word c.trapPolicy.name)] false

/-! ## The I/O page and the language card -/

/-- The latch behind undriven lines. -/
def FloatingBus.latchForm (last : UInt8) : Form :=
  .tuple "FloatingBusLatch" [.number last.toNat]

/-- Which slot ROMs are replaced. -/
def RomOverrides.form (o : RomOverrides) : Form :=
  .record "RomOverrides"
    [("internal_all", .truth o.internalAll),
     ("internal_slot_mask", .number o.slotMask.toNat)] false

/-- An I/O page, with its overrides. -/
def IoPage.form {δ : Type} (p : IoPage δ) (overrides : RomOverrides) : Form :=
  .record "IoPage"
    [("layout", p.layout.form),
     ("overrides", overrides.form),
     ("soft_switches", .truth p.softSwitches.isSome),
     ("builtin_io", .truth p.builtinIo.isSome),
     ("internal_rom", .truth p.internalRom.isSome)] true

/-- The place of an I/O page on the bus, with its overrides. -/
def IoWindow.form (w : IoWindow) (overrides : RomOverrides) : Form :=
  .record "IoWindow"
    [("base", .number w.base.toNat),
     ("layout", w.layout.form),
     ("overrides",
      .tuple "RomOverrideSwitch" [.record "Cell" [("value", overrides.form)] false])] false

/-- What bank switches have chosen. -/
def BankState.form (s : BankState) : Form :=
  .record "BankState"
    [("read_ram", .truth s.readRam),
     ("write_enabled", .truth s.writeEnabled),
     ("bank2", .truth s.bank2),
     ("prewrite", .truth s.prewrite)] false

/-- The switches of a banked memory. -/
def BankedMemory.switchesForm (m : BankedMemory) : Form :=
  .record "LanguageCard" [("state", m.state.form)] true

/-- The window of a banked memory. -/
def BankedMemory.windowForm (m : BankedMemory) : Form :=
  .record "LanguageCardRam" [("state", m.state.form)] true

/-! ## The parts of a machine -/

variable {ω δ γ : Type}

/-- A bus. -/
def Bus.form (bus : Bus ω δ γ) : Form :=
  .record "MemoryBus"
    [("config", bus.config.form),
     ("mapped_pages", .number bus.table.mapped.length),
     ("targets", .number bus.targets.size),
     ("diagnostics", bus.diagnostics.form)] true

/-- A scheduler. -/
def Scheduler.form (s : Scheduler) : Form :=
  .record "EventScheduler"
    [("now", .number s.now.toNat),
     ("pending", .number s.pending),
     ("dispatched", .number s.dispatched)] true

/-- Control lines. -/
def Signals.form (s : Signals) : Form :=
  .record "SignalAggregator"
    [("asserters", .list (Line.all.map fun line => .set ((s.pullers.get line).map DeviceId.form))),
     ("nmi_edge", .truth s.nmiEdge)] true

/-- A slot and the name of its card. -/
def slotForm [Card γ δ ω] (slot : Nat) (card : Option γ) : Form :=
  .record "SlotEntry"
    [("slot", .number slot),
     ("card", .optional (card.map fun c => .word (Text.quote (Card.name c))))] false

/-- The owner of the expansion window. -/
def selectionForm : Option UInt8 → Form
  | none => .word "Deselected"
  | some slot => .tuple "Selected" [.number slot.toNat]

/-- A rack of cards. -/
def Rack.form [Card γ δ ω] (r : Rack γ) : Form :=
  .record "SlotManager"
    [("slots", .list (r.cards.toList.zipIdx.map fun (card, i) => slotForm (i + 1) card)),
     ("selection", selectionForm r.owner)] true

/-- A trap table. -/
def TrapTable.form (t : TrapTable ω δ γ) : Form :=
  .record "TrapTable"
    [("policy", .word t.policy.name),
     ("addresses", .list (t.addresses.map fun address => .number address.toNat))] false

/-- What a trap may touch. -/
def TrapContext.form (c : TrapContext ω δ γ) : Form :=
  .record "TrapContext"
    [("io_window",
      .optional (c.window.map fun w => w.form (c.bus.backplane.overridesOf w.switches)))] true

/-- What an event handler may touch. -/
def EventContext.form (c : EventContext ω δ γ) : Form :=
  .record "EventContext" [("now", .number c.scheduler.now.toNat)] true

/-- A table of event handlers. -/
def HandlerTable.form (t : HandlerTable ω δ γ) : Form :=
  .record "HandlerTable" [("len", .number t.handlers.size)] false

/-- A machine. -/
def Machine.form (m : Machine ω δ γ) : Form :=
  .record "Machine"
    [("config", m.config.form),
     ("bus", m.bus.form),
     ("scheduler", m.scheduler.form),
     ("signals", m.signals.form),
     ("traps", m.traps.form)] true

end Motherboard
