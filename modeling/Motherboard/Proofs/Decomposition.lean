import Motherboard.Bench.Instrument
import Motherboard.Proofs.BusRun
import Motherboard.Proofs.ByteLanes
import Motherboard.Proofs.Observer

/-!
# Wide accesses as byte accesses

A wide access that the policy carries out lane by lane is exactly the row of its byte accesses: the
bus could be asked for the bytes one after another, up to the first fault, and the targets would not
notice. They are asked the same questions in the same order and end in the same states; the value is
composed of the bytes in the byte order of the access, and the first fault becomes the fault of the
whole access. Only what the bus counts and reports differs.

The proof is an induction over the lanes still to do. It runs the lanes on one bus and the byte
accesses on another one that differs from it in counters and observer only, because every byte
access of the row is counted and reported by itself.
-/

namespace Motherboard

/-! ## Rows of accesses -/

/-- How accesses carried out one after another, up to the first fault, went. -/
structure AccessRow (ω δ γ : Type) where
  /-- What the targets were asked, in order. -/
  requests : List Request
  /-- How the completed accesses ended, in order. -/
  outcomes : List Outcome
  /-- The fault that ended the row, if one did. -/
  fault? : Option Fault
  /-- The bus afterwards. -/
  bus : Bus ω δ γ

/-- The bytes that the completed accesses of a row gave. -/
def AccessRow.bytes {ω δ γ : Type} (row : AccessRow ω δ γ) : List UInt8 :=
  row.outcomes.map fun outcome => outcome.value.toUInt8

namespace Bus

variable {ω δ γ : Type} [Device δ ω] [Card γ δ ω]

/-- What the targets are asked when the bus carries out an access. -/
def requests (bus : Bus ω δ γ) (a : Access) : List Request :=
  (bus.routing.checked a).asked answer bus

/-- Carries out accesses one after another, up to the first fault. -/
def accessEach (bus : Bus ω δ γ) : List Access → AccessRow ω δ γ
  | [] => ⟨[], [], none, bus⟩
  | a :: rest =>
    match bus.access a with
    | (.error fault, after) => ⟨bus.requests a, [], some fault, after⟩
    | (.ok outcome, after) =>
      let row := after.accessEach rest
      ⟨bus.requests a ++ row.requests, outcome :: row.outcomes, row.fault?, row.bus⟩

end Bus

/-! ## The lane route -/

namespace Routing

/-- The policy of the checked path carries an access out lane by lane: it is wide, devices may notice
it, nothing refuses it before its first byte cycle, and steps 5 to 7 of the policy choose lanes. -/
def GoesByLanes (r : Routing) (a : Access) : Prop :=
  a.sideEffectsAllowed = true ∧ a.width ≠ .byte ∧
    ∃ entry, r.resolve .checked (r.normalize a) = .ok entry ∧
      r.refusesAlignment .checked (r.normalize a) = false ∧
      r.route (r.normalize a) entry = .lanes

/-- The byte accesses of an access: lane `i` at the address `i` above, cut to the width of the bus. -/
def byteAccesses (r : Routing) (a : Access) : List Access :=
  (r.normalize a).laneNumbers.map (r.lane (r.normalize a))

/-- An access that goes by lanes is decomposed, once its first page has granted it. -/
theorem checked_of_goesByLanes {r : Routing} {a : Access} (h : r.GoesByLanes a) :
    r.checked a = r.decompose .checked (r.normalize a) := by
  obtain ⟨hnoticed, hwide, entry, hentry, haligned, hroute⟩ := h
  rw [checked_of_noticed hnoticed]
  unfold noticed
  rw [hentry]
  dsimp only
  rw [normalize_width, if_neg hwide, haligned, hroute]
  rfl

/-- A byte access that devices may notice, as the bus sees it. -/
structure IsByteCycle (r : Routing) (a : Access) : Prop where
  noticed : a.sideEffectsAllowed = true
  byte : a.width = .byte
  seen : r.normalize a = a

/-- A lane of an access with side effects is a byte cycle of its own. -/
theorem isByteCycle_lane {a : Access} (h : a.sideEffectsAllowed = true) (r : Routing) (i : Nat) :
    r.IsByteCycle (r.lane (r.normalize a) i) where
  noticed := (r.normalize_sideEffectsAllowed a).trans h
  byte := rfl
  seen := r.normalize_lane a i

theorem isByteCycle_of_mem_byteAccesses {r : Routing} {a : Access} (h : a.sideEffectsAllowed = true)
    {b : Access} (hb : b ∈ r.byteAccesses a) : r.IsByteCycle b := by
  obtain ⟨i, -, rfl⟩ := List.mem_map.1 hb
  exact isByteCycle_lane h r i

theorem byteAccesses_getElem? {r : Routing} {a : Access} {i : Nat} (hi : i < a.width.bytes) :
    (r.byteAccesses a)[i]? = some (r.lane (r.normalize a) i) := by
  unfold byteAccesses Access.laneNumbers
  rw [normalize_width, List.getElem?_map, List.getElem?_range hi]
  rfl

@[simp] theorem length_byteAccesses (r : Routing) (a : Access) :
    (r.byteAccesses a).length = a.width.bytes := by
  simp [byteAccesses, Access.laneNumbers]

end Routing

/-! ## One byte access -/

namespace Bus

variable {ω δ γ : Type} {bus other : Bus ω δ γ} {a : Access}

variable [Device δ ω] [Card γ δ ω]

/-- But for the observer, an access leaves behind what its requests leave behind. -/
theorem unobserved_access (bus : Bus ω δ γ) (a : Access) :
    (bus.access a).2.unobserved = ((bus.routing.checked a).run answer bus).2.unobserved :=
  unobserved_observe _ _ _

/-- A byte access is one byte cycle, on any bus that differs in observation only. -/
theorem access_of_byteCycle (h : bus.unobserved = other.unobserved)
    (hbyte : bus.routing.IsByteCycle a) :
    let cycle := (bus.routing.byteCycle .checked a).run answer bus
    (other.access a).1 = cycle.1.map (fun (value, _) => ⟨value, 1⟩) ∧
      (other.access a).2.unobserved = cycle.2.unobserved ∧
      other.requests a = (bus.routing.byteCycle .checked a).asked answer bus := by
  have hchecked := Routing.checked_of_byte (r := bus.routing) hbyte.noticed hbyte.byte
  rw [hbyte.seen] at hchecked
  obtain ⟨hend, hstate, hasked⟩ := run_unobserved (bus.routing.byteCycle .checked a) h
  refine ⟨?_, ?_, ?_⟩
  · -- the cost is not read off the run: every byte cycle that completes costs one
    have hcost := Requests.run_of_ends (bus.routing.byteCycle_ends .checked hbyte.byte) answer
      other
    show (((other.routing.checked a).run answer other).1.map Completed.outcome) = _
    rw [← routing_of_unobserved h, hchecked, Requests.run_map, hend]
    rcases hresult : ((bus.routing.byteCycle .checked a).run answer other).1
      with fault | ⟨value, cost⟩
    · rfl
    · rw [hresult] at hcost
      dsimp only at hcost
      rw [hcost]
      rfl
  · rw [unobserved_access, ← routing_of_unobserved h, hchecked, Requests.run_map, hstate]
  · rw [requests, ← routing_of_unobserved h, hchecked, Requests.asked_map, hasked]

/-! ## The row of byte accesses -/

/-- A row stops at its first fault. -/
theorem accessEach_of_error {rest : List Access} {fault : Fault}
    (h : (bus.access a).1 = .error fault) :
    bus.accessEach (a :: rest) = ⟨bus.requests a, [], some fault, (bus.access a).2⟩ := by
  rcases hresult : bus.access a with ⟨result, after⟩
  rw [hresult] at h
  cases h
  rw [accessEach, hresult]

/-- A row goes on from the bus that its first access leaves behind. -/
theorem accessEach_of_ok {rest : List Access} {outcome : Outcome}
    (h : (bus.access a).1 = .ok outcome) :
    bus.accessEach (a :: rest) =
      let row := (bus.access a).2.accessEach rest
      ⟨bus.requests a ++ row.requests, outcome :: row.outcomes, row.fault?, row.bus⟩ := by
  rcases hresult : bus.access a with ⟨result, after⟩
  rw [hresult] at h
  cases h
  rw [accessEach, hresult]

/-- A row without a fault has an outcome for each of its accesses. -/
theorem length_outcomes {accesses : List Access} (h : (bus.accessEach accesses).fault? = none) :
    (bus.accessEach accesses).outcomes.length = accesses.length := by
  induction accesses generalizing bus with
  | nil => rfl
  | cons a rest ih =>
    rcases hresult : (bus.access a).1 with fault | outcome
    · rw [accessEach_of_error hresult] at h
      cases h
    · rw [accessEach_of_ok hresult] at h ⊢
      exact congrArg (· + 1) (ih h)

/-- A byte access is refused at its own address. -/
theorem address_of_access_error (hbyte : bus.routing.IsByteCycle a) {fault : Fault}
    (h : (bus.access a).1 = .error fault) : fault.address = a.address := by
  obtain ⟨hend, -, -⟩ := access_of_byteCycle rfl hbyte
  -- whatever the bus answers, a byte cycle fails at its own address
  have hcycle := Requests.run_of_ends (bus.routing.byteCycle_ends .checked hbyte.byte) answer
    bus
  rw [hend] at h
  rcases hresult : ((bus.routing.byteCycle .checked a).run answer bus).1 with first | ⟨value, cost⟩
  · rw [hresult] at h hcycle
    cases h
    exact hcycle
  · rw [hresult] at h
    cases h

/-- All that a byte access asks for, it asks for on its own behalf. -/
theorem access?_of_mem_requests (hbyte : bus.routing.IsByteCycle a) {request : Request}
    (h : request ∈ bus.requests a) : request.access? = some a := by
  obtain ⟨-, -, hasked⟩ := access_of_byteCycle rfl hbyte
  rw [hasked] at h
  exact Requests.of_mem_asked (bus.routing.byteCycle_all .checked a) h

/-- The fault that ends a row of byte accesses is that of the access after the completed ones. -/
theorem exists_of_fault {accesses : List Access}
    (hbytes : ∀ a ∈ accesses, bus.routing.IsByteCycle a) {fault : Fault}
    (h : (bus.accessEach accesses).fault? = some fault) :
    ∃ a, accesses[(bus.accessEach accesses).outcomes.length]? = some a ∧
      fault.address = a.address := by
  induction accesses generalizing bus with
  | nil => cases h
  | cons a rest ih =>
    rcases hresult : (bus.access a).1 with first | outcome
    · rw [accessEach_of_error hresult] at h ⊢
      cases h
      exact ⟨a, rfl, address_of_access_error (hbytes a List.mem_cons_self) hresult⟩
    · rw [accessEach_of_ok hresult] at h ⊢
      -- what counts as a byte cycle depends on the routing, which the access before has left alone
      apply ih _ h
      intro b hb
      rw [routing_access]
      exact hbytes b (List.mem_cons_of_mem _ hb)

/-- Every request of a row of byte accesses belongs to a completed access or to the one after. -/
theorem exists_of_mem_requests {accesses : List Access}
    (hbytes : ∀ a ∈ accesses, bus.routing.IsByteCycle a) {request : Request}
    (h : request ∈ (bus.accessEach accesses).requests) :
    ∃ i ≤ (bus.accessEach accesses).outcomes.length, ∃ a,
      accesses[i]? = some a ∧ request.access? = some a := by
  induction accesses generalizing bus with
  | nil => cases h
  | cons a rest ih =>
    have hfirst := hbytes a List.mem_cons_self
    rcases hresult : (bus.access a).1 with first | outcome
    · rw [accessEach_of_error hresult] at h ⊢
      exact ⟨0, Nat.le_refl 0, a, rfl, access?_of_mem_requests hfirst h⟩
    · rw [accessEach_of_ok hresult] at h ⊢
      -- asked for the first access, or for the rest of the row
      rcases List.mem_append.1 h with h | h
      · exact ⟨0, Nat.zero_le _, a, rfl, access?_of_mem_requests hfirst h⟩
      · have hrest : ∀ b ∈ rest, (bus.access a).2.routing.IsByteCycle b := by
          intro b hb
          rw [routing_access]
          exact hbytes b (List.mem_cons_of_mem _ hb)
        obtain ⟨i, hi, b, hb, haccess⟩ := ih hrest h
        exact ⟨i + 1, Nat.succ_le_succ hi, b, hb, haccess⟩

end Bus

/-! ## Lanes against the row -/

/-- The end of an access whose lanes went like a row of byte accesses, when `value` was read and
`cycles` were spent before them. -/
def AccessRow.collect {ω δ γ : Type} (row : AccessRow ω δ γ) (a : Access) (lanes : List Nat)
    (value cycles : UInt32) : Except Fault Completed :=
  match row.fault? with
  | none =>
    .ok ⟨if a.intent.isWrite then a.value else a.mergeLanes value lanes row.bytes,
      cycles + row.outcomes.length.toUInt32, true⟩
  | some fault => .error (fault.within a (cycles + row.outcomes.length.toUInt32))

/-- What is collected from a row is collected lane by lane, each one cycle. -/
theorem AccessRow.collect_cons {ω δ γ : Type} (row : AccessRow ω δ γ) (requests : List Request)
    (outcome : Outcome) (a : Access) (i : Nat) (lanes : List Nat) (value cycles : UInt32) :
    (AccessRow.mk requests (outcome :: row.outcomes) row.fault? row.bus).collect a (i :: lanes)
        value cycles =
      row.collect a lanes
        (if a.intent.isWrite then value else a.mergeLane value i outcome.value.toUInt8)
        (cycles + 1) := by
  unfold collect
  rw [List.length_cons, add_toUInt32_succ]
  cases row.fault? with
  | some fault => rfl
  | none => cases a.intent.isWrite <;> rfl

namespace Bus

variable {ω δ γ : Type} [Device δ ω] [Card γ δ ω] {bus other : Bus ω δ γ} {a : Access}

/-- The lanes still to do go like the row of their byte accesses. -/
theorem run_lanesFrom {r : Routing} (hr : bus.routing = r)
    (h : bus.unobserved = other.unobserved) (hnoticed : a.sideEffectsAllowed = true)
    (lanes : List Nat) (value cycles : UInt32) :
    let n := r.normalize a
    let row := other.accessEach (lanes.map (r.lane n))
    let tree := r.lanesFrom .checked n lanes value cycles
    (tree.run answer bus).1 = row.collect n lanes value cycles ∧
      (tree.run answer bus).2.unobserved = row.bus.unobserved ∧
      tree.asked answer bus = row.requests := by
  -- on the lanes still to do; from lane to lane the buses agree but for counters and observer, and the
  -- routing stays
  induction lanes generalizing bus other value cycles with
  | nil =>
    refine ⟨?_, h, rfl⟩
    simp [Routing.lanesFrom, Requests.run, accessEach, AccessRow.collect, Access.mergeLanes]
  | cons i lanes ih =>
    have hbyte := Routing.isByteCycle_lane hnoticed r i
    rw [← hr] at hbyte
    obtain ⟨hend, hstate, hasked⟩ := access_of_byteCycle h hbyte
    have hcost := Requests.run_of_ends (bus.routing.byteCycle_ends .checked hbyte.byte) answer
      bus
    have hkept := routing_run (bus.routing.byteCycle .checked (r.lane (r.normalize a) i)) bus
    rw [hr] at hend hstate hasked hcost hkept
    dsimp only at hend hstate hcost ⊢
    rw [List.map_cons, Routing.lanesFrom, Requests.run_bind, Requests.asked_bind]
    generalize (r.byteCycle .checked (r.lane (r.normalize a) i)).run answer bus = cycle
      at hend hstate hcost hkept ⊢
    obtain ⟨fault | ⟨byte, cost⟩, after⟩ := cycle
    · -- the lane faults: nothing more is asked
      rw [accessEach_of_error hend]
      refine ⟨?_, hstate.symm, ?_⟩
      · simp [Requests.run, AccessRow.collect]
      · rw [hasked, Requests.asked_done, List.append_nil]
    · -- the lane completes: the rest goes on with its byte filled in
      subst hcost
      obtain ⟨hrest, hafter, hmore⟩ := ih hkept hstate.symm
        (if (r.normalize a).intent.isWrite then value
          else (r.normalize a).mergeLane value i byte.toUInt8) (cycles + 1)
      rw [accessEach_of_ok hend, AccessRow.collect_cons]
      exact ⟨hrest, hafter, by rw [hasked]; exact congrArg _ hmore⟩

/-- A wide access that goes by lanes is the row of its byte accesses, up to the first fault: the
targets are asked the same questions in the same order and end in the same states. Without a fault
every lane takes one cycle, and a read gives the bytes composed in the byte order of the access. When
the access after `k` completed ones is the first to fault, its fault is that of the whole, told with
the width of the whole and `k` cycles, and no target is shown a later lane. -/
theorem access_eq_accessEach (bus : Bus ω δ γ) (a : Access) (h : bus.routing.GoesByLanes a) :
    let r := bus.routing
    let n := r.normalize a
    let row := bus.accessEach (r.byteAccesses a)
    let k := row.outcomes.length
    bus.requests a = row.requests ∧
      (bus.access a).2.unobserved = row.bus.unobserved ∧
      match row.fault? with
      | none =>
        k = a.width.bytes ∧
          (bus.access a).1 = .ok
            ⟨if a.intent.isWrite then a.value else n.order.join row.bytes, a.width.bytes.toUInt32⟩
      | some fault =>
        k < a.width.bytes ∧
          fault.address = (a.address + k.toUInt32) &&& r.table.geometry.addressMask ∧
          (bus.access a).1 = .error { fault with width := a.width, cycles := k.toUInt32 } ∧
          ∀ request ∈ bus.requests a, ∃ i ≤ k, request.access? = some (r.lane n i) := by
  intro r n row k
  have hnoticed := h.1
  have hchecked := Routing.checked_of_goesByLanes h
  obtain ⟨hend, hstate, hasked⟩ := run_lanesFrom (rfl : bus.routing = r)
    (rfl : bus.unobserved = bus.unobserved) hnoticed n.laneNumbers 0 0
  have hrequests : bus.requests a = row.requests := by
    rw [requests, hchecked]
    exact hasked
  have hresult : (bus.access a).1 = (row.collect n n.laneNumbers 0 0).map Completed.outcome := by
    show ((bus.routing.checked a).run answer bus).1.map Completed.outcome = _
    rw [hchecked]
    exact congrArg _ hend
  have hbytes : ∀ b ∈ r.byteAccesses a, bus.routing.IsByteCycle b := fun b hb =>
    Routing.isByteCycle_of_mem_byteAccesses hnoticed hb
  refine ⟨hrequests, ?_, ?_⟩
  · rw [unobserved_access, hchecked]
    exact hstate
  · cases hfault : row.fault? with
    | none =>
      -- every lane has completed, and each has given its byte
      have hk : k = a.width.bytes := by
        rw [← r.length_byteAccesses a]
        exact length_outcomes hfault
      have hjoin : n.mergeLanes 0 n.laneNumbers row.bytes = n.order.join row.bytes :=
        n.mergeLanes_laneNumbers (by simpa [AccessRow.bytes, n] using hk)
      refine ⟨hk, ?_⟩
      rw [hresult, AccessRow.collect, hfault]
      dsimp only
      rw [hjoin, r.normalize_intent, r.normalize_value, show row.outcomes.length = k from rfl, hk,
        UInt32.zero_add]
      rfl
    | some fault =>
      -- the fault is that of lane `k`, which is there, so not all lanes have completed
      obtain ⟨b, hb, haddress⟩ := exists_of_fault hbytes hfault
      have hk : k < a.width.bytes := by
        have := (List.getElem?_eq_some_iff.1 hb).1
        rwa [r.length_byteAccesses] at this
      refine ⟨hk, ?_, ?_, ?_⟩
      · rw [Routing.byteAccesses_getElem? hk, Option.some.injEq] at hb
        rw [haddress, ← hb, r.lane_address]
      · rw [hresult, AccessRow.collect, hfault, UInt32.zero_add]
        show Except.error ({ fault with width := n.width, cycles := k.toUInt32 } : Fault) = _
        rw [r.normalize_width]
      · intro request hmem
        rw [hrequests] at hmem
        obtain ⟨i, hi, c, hc, haccess⟩ := exists_of_mem_requests hbytes hmem
        refine ⟨i, hi, ?_⟩
        rw [haccess, ← hc, Routing.byteAccesses_getElem? (Nat.lt_of_le_of_lt hi hk)]

/-- A little-endian bus in legacy mode with four bytes of RAM behind its first page. -/
def fourBytes : Bus Bench.Host Bench.Instrument Bench.TestCard where
  config := ⟨⟨16, 12⟩, .legacy, false, false, true, .constant 0xFF⟩
  table := ⟨⟨16, 12⟩, #[some ⟨⟨1⟩, .ram, .full, .memory, ⟨0⟩, 0⟩] ++ Array.replicate 15 none⟩
  targets := #[.part (.ram ⟨#[0x11, 0x22, 0x33, 0x44]⟩)]
  diagnostics := .zero
  backplane :=
    { floating := .constant 0xFF, overrides := #[], host := {}, banked := #[], rack := .empty 7 }

/-- A word that begins at the last byte of the RAM. -/
def acrossTheEnd : Access := .read 3 .word .dataRead

/-- The second lane of a word across the end of the RAM is the first to fault. -/
theorem access_eq_accessEach_acrossTheEnd :
    fourBytes.routing.GoesByLanes acrossTheEnd ∧
      fourBytes.requests acrossTheEnd =
        (fourBytes.accessEach (fourBytes.routing.byteAccesses acrossTheEnd)).requests ∧
      (fourBytes.accessEach (fourBytes.routing.byteAccesses acrossTheEnd)).outcomes =
        [⟨0x44, 1⟩] ∧
      (fourBytes.access acrossTheEnd).1 =
        .error ⟨.deviceFault, 4, .word, .dataRead, .cpu, some ⟨1⟩, some .ram, 0, 1⟩ := by
  have h : fourBytes.routing.GoesByLanes acrossTheEnd :=
    ⟨by decide, by decide, ⟨⟨1⟩, .ram, .full, .memory, ⟨0⟩, 0⟩, by decide +kernel,
      by decide +kernel, by decide +kernel⟩
  obtain ⟨hrequests, -, -⟩ := access_eq_accessEach fourBytes acrossTheEnd h
  exact ⟨h, hrequests, by decide +kernel, by rfl⟩

end Bus

end Motherboard
