import Motherboard.Proofs.PagePermissions
import Motherboard.Proofs.RegisteredTargets

/-!
# What faults report

A fault tells the master of an access what went wrong and where. Faults come from many places: from the
first look at the page of an access, from its alignment, from its lanes, from devices that refuse a whole
cycle or the cycle of one lane, and from looks without side effects. A fault of a lane is told of the
access that the lane belongs to.

Wherever it comes from, a fault fits its access (`Fault.Fits`): it names the access's master and purpose,
one of its bytes, and the device and the region of just that byte's page. The debugger learns of unmapped
pages only. This rests on the page table: where an entry leads to no target, a silent access reports the
entry of one byte at the address of another (`execute_reports`).
-/

namespace Motherboard

/-- A fault fits the access that it ended. -/
structure Fault.Fits (f : Fault) (r : Routing) (a : Access) : Prop where
  wellFormed : f.wellFormed = true
  intent : f.intent = a.intent
  source : f.source = a.source
  cycle : f.cycle = a.cycle
  width : f.width = a.width
  /-- The address is that of a byte of the access, as the bus sees it. -/
  place : ∃ i < a.width.bytes, f.address = r.byteAddress a i
  /-- Nobody is credited with an unmapped page. -/
  unmapped : f.kind = .unmapped →
    r.table.entryFor? f.address = none ∧ f.device = none ∧ f.region = none
  /-- Device and region are those of the page of the address. -/
  mapped : f.kind ≠ .unmapped → ∃ entry, r.table.entryFor? f.address = some entry ∧
    f.device = some entry.device ∧ f.region = some entry.region
  /-- There was a byte left that has not been paid for. -/
  cost : f.cycles.toNat < a.width.bytes
  debugger : a.intent.isDebug = true → f.kind = .unmapped

namespace Routing

variable {r : Routing} {a : Access} {f : Fault} {checking : Checking} {entry : PageEntry}

/-- If the result is a fault, it fits the access. -/
def Reports (r : Routing) (a : Access) {α : Type} (result : Except Fault α) : Prop :=
  ∀ f, result = .error f → f.Fits r a

theorem reports_ok (r : Routing) (a : Access) {α : Type} (done : α) :
    r.Reports a (.ok done : Except Fault α) := by
  intro f h
  cases h

theorem reports_error (h : f.Fits r a) {α : Type} : r.Reports a (.error f : Except Fault α) := by
  rintro _ ⟨⟩
  exact h

/-! ## Single bytes -/

/-- The first byte of an access stands at its address. -/
theorem byteAddress_zero (h : a.address &&& r.table.geometry.addressMask = a.address) :
    r.byteAddress a 0 = a.address := by
  have hzero : a.address + (0 : Nat).toUInt32 = a.address := UInt32.add_zero a.address
  rw [byteAddress, hzero, h]

/-- A lane stands at an address that the bus has lines for. -/
theorem lane_isMasked (r : Routing) (a : Access) (i : Nat) :
    (r.lane a i).address &&& r.table.geometry.addressMask = (r.lane a i).address :=
  r.table.geometry.and_addressMask_and_addressMask _

/-- The fault of a page that is not mapped. -/
theorem unmapped_fits (hmasked : a.address &&& r.table.geometry.addressMask = a.address)
    (hnone : r.table.entryFor? a.address = none) : (Fault.unmapped a).Fits r a where
  wellFormed := rfl
  intent := rfl
  source := rfl
  cycle := rfl
  width := rfl
  place := ⟨0, a.width.bytes_pos, (byteAddress_zero hmasked).symm⟩
  unmapped := fun _ => ⟨hnone, rfl, rfl⟩
  mapped := fun hkind => absurd rfl hkind
  cost := a.width.bytes_pos
  debugger := fun _ => rfl

/-- The faults of a page that is mapped name the page's entry. -/
theorem pageFault_fits (hmasked : a.address &&& r.table.geometry.addressMask = a.address)
    (hentry : r.table.entryFor? a.address = some entry) {kind : FaultKind} (hkind : kind ≠ .unmapped)
    (hdebug : a.intent.isDebug = false) : (pageFault kind entry a).Fits r a where
  wellFormed := by
    cases kind with
    | unmapped => exact absurd rfl hkind
    | _ => rfl
  intent := rfl
  source := rfl
  cycle := rfl
  width := rfl
  place := ⟨0, a.width.bytes_pos, (byteAddress_zero hmasked).symm⟩
  unmapped := fun hunmapped => absurd hunmapped hkind
  mapped := fun _ => ⟨entry, hentry, rfl, rfl⟩
  cost := a.width.bytes_pos
  debugger := by
    intro htrue
    rw [hdebug] at htrue
    cases htrue

end Routing

/-- A fault of a lane fits the whole access when it is told of it. -/
theorem Fault.Fits.within {f : Fault} {r : Routing} {a : Access} {i : Nat}
    (h : f.Fits r (r.lane a i)) (hi : i < a.width.bytes) {cycles : UInt32}
    (hcost : cycles.toNat < a.width.bytes) : (f.within a cycles).Fits r a where
  wellFormed := h.wellFormed
  intent := h.intent
  source := h.source
  cycle := h.cycle
  width := rfl
  -- the fault of a lane stands at one byte, and that byte is byte `i` of the whole access
  place := by
    obtain ⟨j, hj, haddress⟩ := h.place
    have hbyte : (r.lane a i).width.bytes = 1 := rfl
    obtain rfl : j = 0 := by omega
    rw [Routing.byteAddress_zero (r.lane_isMasked a i)] at haddress
    exact ⟨i, hi, haddress⟩
  unmapped := h.unmapped
  mapped := h.mapped
  cost := hcost
  debugger := h.debugger

namespace Routing

variable {r : Routing} {a : Access} {f : Fault} {checking : Checking} {entry : PageEntry}

/-- A refused resolution reports what is wrong with the page. -/
theorem resolve_fits (hmasked : a.address &&& r.table.geometry.addressMask = a.address)
    (hdebug : a.intent.isDebug = false) (h : r.resolve checking a = .error f) : f.Fits r a := by
  unfold resolve at h
  cases hfound : r.table.entryFor? a.address with
  | none =>
    rw [hfound] at h
    cases h
    exact unmapped_fits hmasked hfound
  | some entry =>
    rw [hfound] at h
    cases checking with
    | trusted => cases h
    | checked =>
      dsimp only at h
      -- the direction is refused, or the execution
      split_ifs at h
      · cases h
        exact pageFault_fits hmasked hfound nofun hdebug
      · cases h
        exact pageFault_fits hmasked hfound nofun hdebug

theorem faultKind_ne_unmapped (e : DeviceError) : e.faultKind ≠ .unmapped := by
  cases e <;> decide

/-- A dispatch reports what its target answers, or that there is no such target. -/
theorem dispatch_reports (hmasked : a.address &&& r.table.geometry.addressMask = a.address)
    (hdebug : a.intent.isDebug = false) (hentry : r.table.entryFor? a.address = some entry) :
    (r.dispatch entry a).Ends (r.Reports a) := by
  -- what a target may refuse, and what happens if it is missing
  have hrefusal : ∀ e : DeviceError, (refusal entry a e).Fits r a := fun e =>
    pageFault_fits hmasked hentry (faultKind_ne_unmapped e) hdebug
  have hmissing : (pageFault .deviceFault entry a).Fits r a :=
    pageFault_fits hmasked hentry nofun hdebug
  unfold dispatch
  dsimp only
  split_ifs
  · rintro (e | _)
    · exact reports_error (hrefusal e)
    · exact r.reports_ok a _
  · rintro (e | value)
    · exact reports_error (hrefusal e)
    · exact r.reports_ok a _
  · exact reports_error hmissing

/-- A byte cycle reports refusals of its page and of its target. -/
theorem byteCycle_reports (checking : Checking)
    (hmasked : a.address &&& r.table.geometry.addressMask = a.address)
    (hdebug : a.intent.isDebug = false) : (r.byteCycle checking a).Ends (r.Reports a) := by
  unfold byteCycle
  cases hresolve : r.resolve checking a with
  | error fault => exact reports_error (resolve_fits hmasked hdebug hresolve)
  | ok entry => exact dispatch_reports hmasked hdebug (entryFor?_of_resolve hresolve)

/-! ## Lanes -/

/-- A lane is paid for when it is done, so a fault finds at most the lanes before it paid for. -/
theorem lanesFrom_reports (hdebug : a.intent.isDebug = false) (lanes : List Nat) (value : UInt32)
    {cycles : UInt32} (hlanes : ∀ i ∈ lanes, i < a.width.bytes)
    (hcost : cycles.toNat + lanes.length ≤ a.width.bytes) :
    (r.lanesFrom checking a lanes value cycles).Ends (r.Reports a) := by
  induction lanes generalizing value cycles with
  | nil => exact r.reports_ok a _
  | cons i lanes ih =>
    have hi := hlanes i (List.mem_cons_self ..)
    have hfour := a.width.bytes_le
    rw [List.length_cons] at hcost
    -- each lane costs one cycle, so that the cycles spent before a fault are fewer than there are bytes
    have hcycle := (byteCycle_reports checking (r.lane_isMasked a i) hdebug).and
      (r.byteCycle_ends checking (show (r.lane a i).width = .byte from rfl))
    rw [lanesFrom]
    refine hcycle.bind ?_
    rintro (fault | ⟨byte, cost⟩) ⟨hreports, hone⟩
    · have hlane : fault.Fits r (r.lane a i) := hreports fault rfl
      exact reports_error (hlane.within hi (by omega))
    · have hcost' : cost = 1 := hone
      have hsum : (cycles + cost).toNat = cycles.toNat + 1 := by
        rw [hcost', UInt32.toNat_add, UInt32.toNat_one]
        omega
      exact ih _ (fun j hj => hlanes j (List.mem_cons_of_mem i hj)) (by omega)

theorem lt_of_mem_laneNumbers {i : Nat} (h : i ∈ a.laneNumbers) : i < a.width.bytes :=
  List.mem_range.1 h

/-- A decomposed access reports the fault of the lane it stopped at. -/
theorem decompose_reports (hdebug : a.intent.isDebug = false) :
    (r.decompose checking a).Ends (r.Reports a) := by
  refine lanesFrom_reports hdebug a.laneNumbers 0 (fun i hi => lt_of_mem_laneNumbers hi) ?_
  have hlength : a.laneNumbers.length = a.width.bytes := List.length_range
  have hzero : (0 : UInt32).toNat = 0 := rfl
  omega

/-- The check of a quiet access reports the first lane that is refused. -/
theorem checkLanesFrom_reports (hdebug : a.intent.isDebug = false) {lanes : List Nat}
    (hlanes : ∀ i ∈ lanes, i < a.width.bytes) : r.Reports a (r.checkLanesFrom a lanes) := by
  induction lanes with
  | nil => exact r.reports_ok a ()
  | cons i lanes ih =>
    rw [checkLanesFrom]
    cases hresolve : r.resolve .checked (r.lane a i) with
    | error fault =>
      have hlane : fault.Fits r (r.lane a i) := resolve_fits (r.lane_isMasked a i) hdebug hresolve
      -- the check costs nothing
      have hunpaid : (0 : UInt32).toNat < a.width.bytes := a.width.bytes_pos
      exact reports_error (hlane.within (hlanes i (List.mem_cons_self ..)) hunpaid)
    | ok entry => exact ih fun j hj => hlanes j (List.mem_cons_of_mem i hj)

/-- Looks and pokes are refused for unmapped pages only, as every entry leads to a target. -/
theorem silentFrom_reports (h : r.IsRegistered) (lanes : List Nat) (value : UInt32)
    (hlanes : ∀ i ∈ lanes, i < a.width.bytes) :
    (r.silentFrom a lanes value).Ends (r.Reports a) := by
  induction lanes generalizing value with
  | nil => exact r.reports_ok a _
  | cons i lanes ih =>
    have hi := hlanes i (List.mem_cons_self ..)
    have hrest : ∀ value, (r.silentFrom a lanes value).Ends (r.Reports a) :=
      fun value => ih value fun j hj => hlanes j (List.mem_cons_of_mem i hj)
    rw [silentFrom]
    dsimp only
    cases hfound : r.table.entryFor? (r.lane a i).address with
    | none =>
      have hlane := unmapped_fits (r.lane_isMasked a i) hfound
      have hunpaid : (0 : UInt32).toNat < a.width.bytes := a.width.bytes_pos
      exact reports_error (hlane.within hi hunpaid)
    | some entry =>
      have htarget : entry.target.index < r.targets := h _ entry hfound
      dsimp only
      rw [if_pos htarget]
      split_ifs
      · exact fun _ => hrest value
      · exact hrest value
      all_goals
        -- whether the target drives the lines or they float, a byte is merged and the rest follows
        refine (Requests.ends_true _).bind ?_
        rintro (_ | byte) -
        · exact fun byte => hrest _
        · exact hrest _

/-! ## Whole accesses -/

/-- An access with side effects reports faults that fit. -/
theorem noticed_reports (hmasked : a.address &&& r.table.geometry.addressMask = a.address)
    (hdebug : a.intent.isDebug = false) : (r.noticed checking a).Ends (r.Reports a) := by
  unfold noticed
  cases hresolve : r.resolve checking a with
  | error fault => exact reports_error (resolve_fits hmasked hdebug hresolve)
  | ok entry =>
    have hentry := entryFor?_of_resolve hresolve
    have hwhole : (r.whole entry a).Ends (r.Reports a) := by
      refine (dispatch_reports hmasked hdebug hentry).bind ?_
      rintro (fault | done) hreports
      · exact reports_error (hreports fault rfl)
      · exact r.reports_ok a _
    have hmisaligned : (pageFault .misaligned entry a).Fits r a :=
      pageFault_fits hmasked hentry nofun hdebug
    -- three ends: one whole cycle, a misaligned access, or one of the two routes of the policy
    dsimp only
    split_ifs
    · exact hwhole
    · exact reports_error hmisaligned
    · cases r.route a entry with
      | wide => exact hwhole
      | lanes => exact decompose_reports hdebug

/-- A silent access on a bus without dangling entries reports faults that fit. -/
theorem silent_reports (h : r.IsRegistered) : (r.silent checking a).Ends (r.Reports a) := by
  have hlanes : ∀ i ∈ a.laneNumbers, i < a.width.bytes := fun i hi => lt_of_mem_laneNumbers hi
  have hsilent := silentFrom_reports h a.laneNumbers 0 hlanes
  unfold silent
  split_ifs with hchecked
  · -- the debugger is not checked
    have hdebug : a.intent.isDebug = false := by simpa using hchecked.2
    have hreports := checkLanesFrom_reports (r := r) hdebug hlanes
    cases hcheck : r.checkLanesFrom a a.laneNumbers with
    | error fault =>
      rw [hcheck] at hreports
      exact reports_error (hreports fault rfl)
    | ok => exact hsilent
  · exact hsilent

/-- Every fault of an access fits it. -/
theorem execute_reports (h : r.IsRegistered)
    (hmasked : a.address &&& r.table.geometry.addressMask = a.address) :
    (r.execute checking a).Ends (r.Reports a) := by
  unfold execute
  split_ifs with hnoticed
  · have hdebug : a.intent.isDebug = false := by
      unfold Access.sideEffectsAllowed at hnoticed
      rw [Bool.and_eq_true, Bool.not_eq_true'] at hnoticed
      exact hnoticed.1
    exact noticed_reports hmasked hdebug
  · exact silent_reports h

end Routing

end Motherboard
