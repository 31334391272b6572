import Motherboard.Access.Lane
import Motherboard.Access.Cost
import Motherboard.Bus.Config
import Motherboard.Bus.Request
import Motherboard.Page.Table

/-!
# Routing of accesses

How the bus carries out an access, as a tree of requests. `Routing.checked` goes through the policy
in this order:

1. an unmapped page faults;
2. a page that does not allow the direction faults;
3. a fetch from a page that is not executable faults, while that is enforced;
4. a wide access that is not aligned faults, while that is enforced;
5. a wide access that leaves its page, or insists on byte cycles, is carried out lane by lane;
6. one that prefers a wide cycle gets it where the target has one;
7. any other one is lane by lane in legacy mode, and wide in native mode where the target can.

An access without side effects looks or pokes byte by byte and costs nothing. The debugger's skip
steps 2 to 4; quiet ones pass steps 1 to 3 for every byte before the first byte is touched.

`Routing.trusted` leaves out steps 2 to 4: its caller has checked.
-/

namespace Motherboard

/-- Whether the bus checks permissions and alignment. -/
inductive Checking where
  /-- The bus checks. -/
  | checked
  /-- The caller has checked. -/
  | trusted
  deriving DecidableEq

/-- How a wide access is carried out. -/
inductive Route where
  /-- One device cycle of the full width. -/
  | wide
  /-- One byte cycle per lane. -/
  | lanes
  deriving DecidableEq

/-- An access that was carried out. -/
structure Completed where
  /-- The value read, or the value written. -/
  value : UInt32
  /-- Bus cycles spent. -/
  cycles : UInt32
  /-- The access was carried out byte by byte. -/
  decomposed : Bool
  deriving DecidableEq

/-- What routing depends on. -/
structure Routing where
  /-- Where the pages lead. -/
  table : PageTable
  /-- The policy. -/
  config : BusConfig
  /-- Number of targets on the bus. -/
  targets : Nat

namespace Routing

/-- An address as the bus sees it. -/
def maskAddress (r : Routing) (a : Access) : Access :=
  { a with address := a.address &&& r.table.geometry.addressMask }

/-- An access as the bus sees it: the address is cut to the width of the bus, and the byte order of a
little-endian bus is added. -/
def normalize (r : Routing) (a : Access) : Access :=
  let a := r.maskAddress a
  if r.config.littleEndian then
    { a with flags := a.flags.union { AccessFlags.plain with littleEndian := true } }
  else
    a

/-- Lane `i` of an access as the bus sees it. -/
def lane (r : Routing) (a : Access) (i : Nat) : Access :=
  r.maskAddress (a.lane i)

/-- A fault on a page. -/
def pageFault (kind : FaultKind) (entry : PageEntry) (a : Access) : Fault :=
  .mapped kind a entry.device entry.region

/-- The entry that an access goes through, or the first of steps 1 to 3 that refuses it. -/
def resolve (r : Routing) (checking : Checking) (a : Access) : Except Fault PageEntry :=
  match r.table.entryFor? a.address with
  | none => .error (.unmapped a)
  | some entry =>
    match checking with
    -- even a trusted access needs a page
    | .trusted => .ok entry
    | .checked =>
      if !entry.permissions.allows a.intent then
        .error (pageFault .permission entry a)
      -- only a fetch asks for execution
      else if a.intent.isFetch && r.config.nxActive && !entry.permissions.execute then
        .error (pageFault .noExecute entry a)
      else
        .ok entry

/-- Device offset of an address that a page entry covers. -/
def deviceOffset (r : Routing) (entry : PageEntry) (address : UInt32) : UInt32 :=
  entry.base + r.table.geometry.pageOffset address

/-- The bytes of an access do not all lie in one page. -/
def leavesPage (r : Routing) (a : Access) : Bool :=
  -- the offset is less than a page and the width at most four bytes, so the sum does not wrap
  decide (r.table.geometry.pageSize < r.table.geometry.pageOffset a.address + a.width.bytes.toUInt32)

/-- Steps 5 to 7 of the policy. -/
def route (r : Routing) (a : Access) (entry : PageEntry) : Route :=
  let widest : Route := if entry.capabilities.wide then .wide else .lanes
  -- step 5; a request for byte cycles is stronger than one for an atomic cycle
  if r.leavesPage a || a.flags.decompose then .lanes
  -- step 6
  else if a.flags.atomic then widest
  else
    -- step 7
    match r.config.cpuMode with
    | .legacy => .lanes
    | .native => widest

/-- The fault that a device's refusal raises. -/
def refusal (entry : PageEntry) (a : Access) (e : DeviceError) : Fault :=
  pageFault e.faultKind entry a

/-- One device cycle of the full width of an access: the value and its cost. -/
def dispatch (r : Routing) (entry : PageEntry) (a : Access) :
    Requests (Except Fault (UInt32 × UInt32)) :=
  let offset := r.deviceOffset entry a.address
  let cost := (CycleForm.ofWidth a.width).cycles
  -- no target is ever taken away, so a mapped entry leads to one; the bus looks all the same
  if entry.target.index < r.targets then
    if a.intent.isWrite then
      .ask (.write entry.target a.width offset a.value a) fun
        | .ok () => .done (.ok (a.value, cost))
        | .error e => .done (.error (refusal entry a e))
    else
      .ask (.read entry.target a.width offset a) fun
        | .ok value => .done (.ok (value, cost))
        | .error e => .done (.error (refusal entry a e))
  else
    .done (.error (pageFault .deviceFault entry a))

/-- One byte access through the page table: its value and its cost. -/
def byteCycle (r : Routing) (checking : Checking) (a : Access) :
    Requests (Except Fault (UInt32 × UInt32)) :=
  match r.resolve checking a with
  | .error fault => .done (.error fault)
  | .ok entry => r.dispatch entry a

/-- Byte cycles for the lanes listed, after `value` was read in `cycles` cycles; the first fault
ends them and tells what was spent before it. -/
def lanesFrom (r : Routing) (checking : Checking) (a : Access) :
    List Nat → (value cycles : UInt32) → Requests (Except Fault Completed)
  | [], value, cycles =>
    -- a write gives back the whole value, a read what its lanes have gathered
    .done (.ok ⟨if a.intent.isWrite then a.value else value, cycles, true⟩)
  | i :: rest, value, cycles =>
    (r.byteCycle checking (r.lane a i)).bind fun
      -- the fault is that of the byte; its width is that of the access
      | .error fault => .done (.error (fault.within a cycles))
      | .ok (byte, cost) =>
        let value := if a.intent.isWrite then value else a.mergeLane value i byte.toUInt8
        r.lanesFrom checking a rest value (cycles + cost)

/-- A wide access as one byte cycle per lane. -/
def decompose (r : Routing) (checking : Checking) (a : Access) :
    Requests (Except Fault Completed) :=
  r.lanesFrom checking a a.laneNumbers 0 0

/-- Steps 1 to 3 for the lanes listed. -/
def checkLanesFrom (r : Routing) (a : Access) : List Nat → Except Fault Unit
  | [] => .ok ()
  | i :: rest =>
    match r.resolve .checked (r.lane a i) with
    | .error fault => .error (fault.within a 0)
    | .ok _ => r.checkLanesFrom a rest

/-- Looks and pokes for the lanes listed, after `value` was read. -/
def silentFrom (r : Routing) (a : Access) :
    List Nat → (value : UInt32) → Requests (Except Fault Completed)
  | [], value =>
    .done (.ok
      ⟨if a.intent.isWrite then a.value else value, CycleForm.silent.cycles, a.width != .byte⟩)
  | i :: rest, value =>
    let lane := r.lane a i
    match r.table.entryFor? lane.address with
    -- nobody shows a byte there: the lines float
    | none => .done (.error ((Fault.unmapped lane).within a 0))
    | some entry =>
      let offset := r.deviceOffset entry lane.address
      if entry.target.index < r.targets then
        if a.intent.isWrite then
          -- what cannot be poked is passed over
          if entry.capabilities.peek then
            .ask (.poke entry.target offset lane.value.toUInt8) fun _ => r.silentFrom a rest value
          else
            r.silentFrom a rest value
        else
          let driven : Requests (Option UInt8) :=
            if entry.capabilities.peek then .one (.peek entry.target offset) else .done none
          driven.bind fun
            | some byte => r.silentFrom a rest (a.mergeLane value i byte)
            | none =>
              .ask (.floating lane.address) fun byte =>
                r.silentFrom a rest (a.mergeLane value i byte)
      else
        .done (.error (pageFault .deviceFault entry a))

/-- An access without side effects. -/
def silent (r : Routing) (checking : Checking) (a : Access) : Requests (Except Fault Completed) :=
  -- all lanes first, so that a refused access has touched nothing
  if checking = .checked ∧ !a.intent.isDebug then
    match r.checkLanesFrom a a.laneNumbers with
    | .error fault => .done (.error fault)
    | .ok () => r.silentFrom a a.laneNumbers 0
  else
    r.silentFrom a a.laneNumbers 0

/-- One device cycle that completes the access. -/
def whole (r : Routing) (entry : PageEntry) (a : Access) : Requests (Except Fault Completed) :=
  (r.dispatch entry a).map fun answer => answer.map fun (value, cycles) => ⟨value, cycles, false⟩

/-- The access is wide and not aligned, and that matters. -/
def refusesAlignment (r : Routing) (checking : Checking) (a : Access) : Bool :=
  checking == .checked && r.config.strictAlignment && a.address % a.width.bytes.toUInt32 != 0

/-- An access that devices may notice. -/
def noticed (r : Routing) (checking : Checking) (a : Access) : Requests (Except Fault Completed) :=
  match r.resolve checking a with
  | .error fault => .done (.error fault)
  | .ok entry =>
    -- a byte is always aligned and never decomposed
    if a.width = .byte then
      r.whole entry a
    else if r.refusesAlignment checking a then
      .done (.error (pageFault .misaligned entry a))
    else
      match r.route a entry with
      | .wide => r.whole entry a
      | .lanes => r.decompose checking a

/-- An access as the bus sees it. -/
def execute (r : Routing) (checking : Checking) (a : Access) : Requests (Except Fault Completed) :=
  if a.sideEffectsAllowed then r.noticed checking a else r.silent checking a

/-- An access whose faults are returned. -/
def checked (r : Routing) (a : Access) : Requests (Except Fault Completed) :=
  r.execute .checked (r.normalize a)

/-- An access that its caller has checked. -/
def trusted (r : Routing) (a : Access) : Requests (Except Fault Completed) :=
  r.execute .trusted (r.normalize a)

end Routing

end Motherboard
