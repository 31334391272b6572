import Motherboard.Bus.Routing
import Motherboard.Bus.Target
import Motherboard.Bus.Diagnostics

/-!
# The memory bus

A bus has a page table, targets, and the backplane that the targets share. `Bus.access` carries out an
access by the policy of `Routing.checked`, letting the targets answer, and then counts and reports how
it ended. `Bus.direct` is the fast path for callers that have checked: it counts and reports nothing.
-/

namespace Motherboard

/-- A completed access as its master sees it. -/
structure Outcome where
  /-- The value read, or the value written. -/
  value : UInt32
  /-- Bus cycles spent. -/
  cycles : UInt32
  deriving DecidableEq

/-- The part of a completed access that its master sees. -/
def Completed.outcome (c : Completed) : Outcome := ⟨c.value, c.cycles⟩

/-- A page table, targets, and what they share. -/
structure Bus (ω δ γ : Type) where
  /-- Policy at present. -/
  config : BusConfig
  /-- Where the pages lead. -/
  table : PageTable
  /-- Receivers of bus cycles, by number. -/
  targets : Array (Target δ)
  /-- Counters. -/
  diagnostics : Diagnostics
  /-- What the targets share. -/
  backplane : Backplane ω γ

namespace Bus

variable {ω δ γ : Type}

/-- A bus without pages or targets, over an empty rack. -/
def ofConfig? (config : BusConfig) (slotCount : UInt8) (host : ω) :
    Except MapError (Bus ω δ γ) :=
  match PageTable.ofGeometry? config.geometry with
  | .error e => .error e
  | .ok table =>
    .ok
      { config := config
        table := table
        targets := #[]
        diagnostics := .zero
        -- the rack is empty and its window is nobody's
        backplane :=
          { floating := config.floating.lines
            overrides := #[]
            host := host
            banked := #[]
            rack := .empty slotCount } }

/-- What the routing of accesses depends on. -/
def routing (bus : Bus ω δ γ) : Routing :=
  ⟨bus.table, bus.config, bus.targets.size⟩

/-- An address cut to the width of the bus. -/
def maskAddress (bus : Bus ω δ γ) (a : Access) : Access :=
  bus.routing.maskAddress a

/-- The target with a number. -/
def target? (bus : Bus ω δ γ) (id : TargetId) : Option (Target δ) :=
  bus.targets[id.index]?

/-- Changes the mode of the processor. -/
def setCpuMode (bus : Bus ω δ γ) (mode : CpuMode) : Bus ω δ γ :=
  { bus with config := { bus.config with cpuMode := mode } }

/-- Reports an event to the observer. -/
def emit (bus : Bus ω δ γ) (e : TraceEvent) : Bus ω δ γ :=
  { bus with backplane := { bus.backplane with trace := bus.backplane.trace.emit e } }

/-- Changes what the targets share. -/
def withBackplane {α : Type} (bus : Bus ω δ γ) (f : Backplane ω γ → α × Backplane ω γ) :
    α × Bus ω δ γ :=
  let (a, backplane) := f bus.backplane
  (a, { bus with backplane := backplane })

/-- Lets something happen to a target and what it shares; none when there is no such target. -/
def onTarget? {α : Type} (bus : Bus ω δ γ) (id : TargetId)
    (f : Target δ → Backplane ω γ → α × Target δ × Backplane ω γ) : Option (α × Bus ω δ γ) :=
  (bus.target? id).map fun t =>
    let (a, t, backplane) := f t bus.backplane
    (a, { bus with targets := bus.targets.setIfInBounds id.index t, backplane := backplane })

/-- Lets something happen to a target, with `missing` for an answer when there is none. -/
def onTarget {α : Type} (bus : Bus ω δ γ) (id : TargetId) (missing : α)
    (f : Target δ → Backplane ω γ → α × Target δ × Backplane ω γ) : α × Bus ω δ γ :=
  (bus.onTarget? id f).getD (missing, bus)

/-! ## Mapping -/

/-- Adds a target and answers with its number. -/
def addTarget (bus : Bus ω δ γ) (t : Target δ) : TargetId × Bus ω δ γ :=
  (⟨bus.targets.size⟩, { bus with targets := bus.targets.push t })

/-- Refuses targets that are not on the bus. -/
def checkTarget (bus : Bus ω δ γ) (id : TargetId) : Except MapError Unit :=
  if id.index < bus.targets.size then .ok () else .error (.unknownTarget id)

/-- Stores the entry of one page. -/
def mapPage (bus : Bus ω δ γ) (index : Nat) (entry : PageEntry) : Except MapError (Bus ω δ γ) := do
  bus.checkTarget entry.target
  let table ← bus.table.set index (some entry)
  return { bus with table := table }

/-- Maps `count` pages to consecutive parts of one target; all of them or none. -/
def mapRange (bus : Bus ω δ γ) (first count : Nat) (entry : PageEntry) :
    Except MapError (Bus ω δ γ) := do
  bus.checkTarget entry.target
  -- all checks come first, so that nothing is left half mapped
  bus.table.checkRange first count
  return { bus with table := bus.table.fill first count entry }

/-- Takes away the entry of one page and answers with it. -/
def unmapPage (bus : Bus ω δ γ) (index : Nat) :
    Except MapError (Option PageEntry × Bus ω δ γ) := do
  let table ← bus.table.set index none
  return (bus.table.get? index, { bus with table := table })

variable [Device δ ω] [Card γ δ ω]

/-- An entry for a target with the capabilities that it has at present. -/
def pageEntry (bus : Bus ω δ γ) (id : TargetId) (device : DeviceId) (region : Region)
    (permissions : Permissions) : Except MapError PageEntry :=
  match bus.target? id with
  | none => .error (.unknownTarget id)
  -- the capabilities are those of this moment; an entry keeps them
  | some t => .ok ⟨device, region, permissions, t.capabilities, id, 0⟩

/-- Points a mapped page at another target. -/
def remapPage (bus : Bus ω δ γ) (index : Nat) (id : TargetId) (base : UInt32) :
    Except MapError (Bus ω δ γ) :=
  match bus.target? id with
  | none => .error (.unknownTarget id)
  | some t =>
    if bus.table.pageCount ≤ index then
      .error (.indexOutOfRange index bus.table.pageCount)
    else
      match bus.table.get? index with
      | none => .error (.notMapped index)
      | some entry => do
        -- kind and permissions of the page stay
        let entry := { entry with target := id, base := base, capabilities := t.capabilities }
        let table ← bus.table.set index (some entry)
        return { bus with table := table }

/-! ## Accesses -/

/-- The targets of a bus answer the requests that an access makes. -/
def answer : Requests.Answerer (Bus ω δ γ)
  -- a target that is missing fails, though no entry leads to one
  | .read id width offset access, bus =>
    bus.onTarget id (.error .failed) fun t b => Target.read width offset access (t, b)
  | .write id width offset value access, bus =>
    bus.onTarget id (.error .failed) fun t b => Target.write width offset value access (t, b)
  | .peek id offset, bus =>
    bus.onTarget id none fun t b =>
      let (byte, b) := t.peek offset b
      (byte, t, b)
  | .poke id offset value, bus =>
    bus.onTarget id false fun t b => t.poke offset value b
  | .floating address, bus =>
    (bus.backplane.floating.value address,
      { bus with diagnostics := bus.diagnostics.recordFloatingRead })

/-- Counts and reports how an access ended. -/
def observe (bus : Bus ω δ γ) (a : Access) (result : Except Fault Completed) : Bus ω δ γ :=
  match result with
  | .ok c =>
    ({ bus with diagnostics := bus.diagnostics.recordAccess c.decomposed }).emit
      (.access a.address a.width a.intent c.value c.cycles c.decomposed)
  | .error fault =>
    ({ bus with diagnostics := bus.diagnostics.recordFault fault }).emit (.fault fault)

/-- Carries out an access, and counts and reports how it ended. -/
def access (bus : Bus ω δ γ) (a : Access) : Except Fault Outcome × Bus ω δ γ :=
  let r := bus.routing
  let (result, bus) := (r.checked a).run answer bus
  (result.map Completed.outcome, bus.observe (r.normalize a) result)

/-- Carries out an access that its caller has checked. -/
def direct (bus : Bus ω δ γ) (a : Access) : Except Fault UInt32 × Bus ω δ γ :=
  let (result, bus) := (bus.routing.trusted a).run answer bus
  (result.map Completed.value, bus)

/-- Counts and reports an access that a trap completed in place of the bus. -/
def recordTrapped (bus : Bus ω δ γ) (a : Access) (o : Outcome) : Bus ω δ γ :=
  ({ bus with diagnostics := bus.diagnostics.recordTrapped }).observe (bus.routing.normalize a)
    (.ok ⟨o.value, o.cycles, false⟩)

/-- The debugger looks at a byte. -/
def peek (bus : Bus ω δ γ) (address : UInt32) : Except Fault UInt8 × Bus ω δ γ :=
  let (result, bus) := bus.access (.read address .byte .debugRead)
  (result.map fun o => o.value.toUInt8, bus)

/-- The debugger stores a byte; targets that take no pokes drop it. -/
def poke (bus : Bus ω δ γ) (address : UInt32) (value : UInt8) :
    Except Fault Unit × Bus ω δ γ :=
  let (result, bus) := bus.access (.write address .byte value.toUInt32 .debugWrite)
  (result.map fun _ => (), bus)

/-- Resets the target with a number. -/
def resetTarget (bus : Bus ω δ γ) (id : TargetId) : Bus ω δ γ :=
  (bus.onTarget id () fun t b => ((), t.reset b)).2

/-- Resets every target, in the order of their numbers. -/
def reset (bus : Bus ω δ γ) : Bus ω δ γ :=
  (List.range bus.targets.size).foldl (fun bus i => bus.resetTarget ⟨i⟩) bus

/-- Clears the counters. -/
def resetDiagnostics (bus : Bus ω δ γ) : Bus ω δ γ :=
  { bus with diagnostics := .zero }

end Bus

end Motherboard
