import Motherboard.Bus
import Motherboard.Proofs.Answering
import Motherboard.Proofs.PageArithmetic

/-!
# Runs of the bus

What the parts of an access do when the targets of a bus answer, whatever the targets are. Answers
leave the routing alone: pages, policy and the number of targets stay (`routing_run`). A byte cycle
shows a target itself and nothing else (`byteCycle_all`), and its cost and the address of its fault are
known before it (`byteCycle_ends`).
-/

namespace Motherboard

/-! ## Accesses as the bus sees them -/

/-- The access that a target is shown with a request. -/
def Request.access? : Request → Option Access
  | .read _ _ _ access | .write _ _ _ _ access => some access
  | _ => none

namespace Routing

variable {r : Routing} {a : Access}

@[simp] theorem normalize_width (r : Routing) (a : Access) : (r.normalize a).width = a.width := by
  unfold normalize
  dsimp only
  split <;> rfl

@[simp] theorem normalize_intent (r : Routing) (a : Access) :
    (r.normalize a).intent = a.intent := by
  unfold normalize
  dsimp only
  split <;> rfl

@[simp] theorem normalize_source (r : Routing) (a : Access) :
    (r.normalize a).source = a.source := by
  unfold normalize
  dsimp only
  split <;> rfl

@[simp] theorem normalize_cycle (r : Routing) (a : Access) : (r.normalize a).cycle = a.cycle := by
  unfold normalize
  dsimp only
  split <;> rfl

@[simp] theorem normalize_value (r : Routing) (a : Access) : (r.normalize a).value = a.value := by
  unfold normalize
  dsimp only
  split <;> rfl

/-- Normalizing cuts an address to the lines of the bus. -/
@[simp] theorem normalize_address (r : Routing) (a : Access) :
    (r.normalize a).address = a.address &&& r.table.geometry.addressMask := by
  unfold normalize
  dsimp only
  split <;> rfl

@[simp] theorem normalize_sideEffectsAllowed (r : Routing) (a : Access) :
    (r.normalize a).sideEffectsAllowed = a.sideEffectsAllowed := by
  unfold normalize Access.sideEffectsAllowed
  dsimp only
  split
  · -- the flag for the byte order is not one of those that matter here
    simp [maskAddress, AccessFlags.union, AccessFlags.plain]
  · rfl

/-- The bus sees a byte lane as it is: nothing is left to cut off or to add. -/
@[simp] theorem normalize_lane (r : Routing) (a : Access) (i : Nat) :
    r.normalize (r.lane (r.normalize a) i) = r.lane (r.normalize a) i := by
  unfold normalize
  dsimp only
  split <;> simp [lane, maskAddress, Access.lane, AccessFlags.union]

/-- The byte at lane `i` stands at the address of the access plus `i`, cut to the lines of the bus. -/
theorem lane_address (r : Routing) (a : Access) (i : Nat) :
    (r.lane (r.normalize a) i).address =
      (a.address + i.toUInt32) &&& r.table.geometry.addressMask := by
  show ((r.normalize a).address + i.toUInt32) &&& r.table.geometry.addressMask = _
  -- the lane counts on from an address that is cut already
  rw [normalize_address, r.table.geometry.and_addressMask_add]

/-- A refused access is refused at its own address. -/
theorem resolve_error {checking : Checking} {fault : Fault}
    (h : r.resolve checking a = .error fault) : fault.address = a.address := by
  unfold resolve at h
  split at h
  · cases h
    rfl
  · cases checking with
    | trusted => cases h
    | checked =>
      dsimp only at h
      split_ifs at h <;> cases h <;> rfl

/-- The entry an access resolves to is the one at its address. -/
theorem entryFor?_of_resolve {checking : Checking} {entry : PageEntry}
    (h : r.resolve checking a = .ok entry) : r.table.entryFor? a.address = some entry := by
  unfold resolve at h
  split at h
  · cases h
  · next found hfound =>
    -- checking may refuse the entry, and takes no other in its place
    cases checking with
    | trusted =>
      cases h
      exact hfound
    | checked =>
      dsimp only at h
      split_ifs at h
      cases h
      exact hfound

/-- The way to a page depends on the page and the intent of an access alone. -/
theorem resolve_congr {checking : Checking} {entry : PageEntry} {b : Access}
    (hpage : r.table.entryFor? b.address = r.table.entryFor? a.address) (hintent : b.intent = a.intent)
    (h : r.resolve checking a = .ok entry) : r.resolve checking b = .ok entry := by
  unfold resolve at h ⊢
  -- resolution looks at the entry of the page and at the intent, and at nothing else of the access
  rw [hpage]
  cases hfound : r.table.entryFor? a.address with
  | none =>
    rw [hfound] at h
    cases h
  | some found =>
    rw [hfound] at h
    cases checking with
    | trusted => exact h
    | checked =>
      dsimp only at h ⊢
      rw [hintent]
      split_ifs at h ⊢
      exact h

/-- The first byte of an access stands where the access does. -/
theorem firstLane_address (r : Routing) (a : Access) :
    (r.lane (r.normalize a) 0).address = (r.normalize a).address := by
  rw [lane_address, normalize_address]
  exact congrArg (· &&& r.table.geometry.addressMask) (UInt32.add_zero a.address)

/-- What an access is allowed, its first byte is allowed. -/
theorem resolve_firstLane {checking : Checking} {entry : PageEntry}
    (h : r.resolve checking (r.normalize a) = .ok entry) :
    r.resolve checking (r.lane (r.normalize a) 0) = .ok entry :=
  resolve_congr (b := r.lane (r.normalize a) 0)
    (congrArg r.table.entryFor? (r.firstLane_address a)) rfl h

/-- An access leaves its page when the page ends before the last byte of the access. -/
theorem leavesPage_eq_true_iff (r : Routing) (a : Access) :
    r.leavesPage a = true ↔ r.table.geometry.pageSize.toNat <
      (r.table.geometry.pageOffset a.address).toNat + a.width.bytes := by
  have hoffset := r.table.geometry.toNat_pageOffset_lt a.address
  have hsize := r.table.geometry.toNat_pageSize_le
  have hwidth := a.width.bytes_le
  have hbytes : a.width.bytes.toUInt32.toNat = a.width.bytes := toNat_toUInt32 (by omega)
  -- a page has at most 2 ^ 31 bytes, so the end of the access does not wrap
  have hsum : (r.table.geometry.pageOffset a.address).toNat + a.width.bytes < 2 ^ 32 := by omega
  unfold leavesPage
  rw [decide_eq_true_iff, UInt32.lt_iff_toNat_lt, UInt32.toNat_add, hbytes, Nat.mod_eq_of_lt hsum]

/-- An access that is carried out by one wide cycle stays in its page. -/
theorem room_of_wide {entry : PageEntry} (h : r.route a entry = .wide) :
    (r.table.geometry.pageOffset a.address).toNat + a.width.bytes ≤
      r.table.geometry.pageSize.toNat := by
  by_contra hroom
  have hleaves : r.leavesPage a = true := (r.leavesPage_eq_true_iff a).2 (by omega)
  unfold route at h
  rw [hleaves] at h
  cases h

/-- An access with side effects takes the way of the policy, checked. -/
theorem checked_of_noticed (h : a.sideEffectsAllowed = true) :
    r.checked a = r.noticed .checked (r.normalize a) := by
  rw [checked, execute, normalize_sideEffectsAllowed, if_pos h]

theorem trusted_of_noticed (h : a.sideEffectsAllowed = true) :
    r.trusted a = r.noticed .trusted (r.normalize a) := by
  rw [trusted, execute, normalize_sideEffectsAllowed, if_pos h]

theorem checked_of_silent (h : a.sideEffectsAllowed = false) :
    r.checked a = r.silent .checked (r.normalize a) := by
  rw [checked, execute, normalize_sideEffectsAllowed, h]
  rfl

/-- A byte access with side effects is one byte cycle and is never decomposed. -/
theorem checked_of_byte (h : a.sideEffectsAllowed = true) (hbyte : a.width = .byte) :
    r.checked a = (r.byteCycle .checked (r.normalize a)).map fun answer =>
      answer.map fun (value, cycles) => ⟨value, cycles, false⟩ := by
  rw [checked_of_noticed h]
  unfold noticed byteCycle whole
  cases r.resolve .checked (r.normalize a) with
  | error fault => rfl
  | ok entry =>
    dsimp only
    rw [normalize_width, if_pos hbyte]

/-- One dispatch costs the cycles of its form, or fails at its own address. -/
theorem dispatch_ends (r : Routing) (entry : PageEntry) (a : Access) :
    (r.dispatch entry a).Ends fun
      | .ok (_, cost) => cost = (CycleForm.ofWidth a.width).cycles
      | .error fault => fault.address = a.address := by
  unfold dispatch
  dsimp only
  split_ifs
  · rintro (e | _) <;> rfl
  · rintro (e | value) <;> rfl
  · rfl

/-- A byte cycle costs one cycle, and its fault names the address asked for. -/
theorem byteCycle_ends (r : Routing) (checking : Checking) (hbyte : a.width = .byte) :
    (r.byteCycle checking a).Ends fun
      | .ok (_, cost) => cost = 1
      | .error fault => fault.address = a.address := by
  unfold byteCycle
  cases hentry : r.resolve checking a with
  | error fault => exact resolve_error hentry
  | ok entry =>
    have h := r.dispatch_ends entry a
    rw [hbyte] at h
    exact h

/-- One dispatch asks about the access it carries out. -/
theorem dispatch_all (r : Routing) (entry : PageEntry) (a : Access) :
    (r.dispatch entry a).All fun request => request.access? = some a := by
  unfold dispatch
  dsimp only
  split_ifs
  · refine ⟨rfl, ?_⟩
    rintro (e | _) <;> trivial
  · refine ⟨rfl, ?_⟩
    rintro (e | value) <;> trivial
  · trivial

/-- One dispatch asks the target of its entry. -/
theorem dispatch_asks (r : Routing) (entry : PageEntry) (a : Access) :
    (r.dispatch entry a).All fun request => request.target? = some entry.target := by
  unfold dispatch
  dsimp only
  split_ifs
  · refine ⟨rfl, ?_⟩
    rintro (e | _) <;> trivial
  · refine ⟨rfl, ?_⟩
    rintro (e | value) <;> trivial
  · trivial

/-- A byte cycle asks about the byte it carries out. -/
theorem byteCycle_all (r : Routing) (checking : Checking) (a : Access) :
    (r.byteCycle checking a).All fun request => request.access? = some a := by
  unfold byteCycle
  cases r.resolve checking a with
  | error fault => trivial
  | ok entry => exact r.dispatch_all entry a

end Routing

/-! ## What answers keep -/

namespace Bus

variable {ω δ γ : Type}

/-- A target cannot reach the page table. -/
theorem routing_onTarget {α : Type} (bus : Bus ω δ γ) (id : TargetId) (missing : α)
    (f : Target δ → Backplane ω γ → α × Target δ × Backplane ω γ) :
    (bus.onTarget id missing f).2.routing = bus.routing := by
  unfold onTarget onTarget?
  cases bus.target? id with
  | none => rfl
  | some t => simp [routing]

/-- A request for a target that does not exist is answered with the default and changes nothing. -/
theorem onTarget_of_missing {α : Type} {bus : Bus ω δ γ} {id : TargetId} (h : bus.target? id = none)
    (missing : α) (f : Target δ → Backplane ω γ → α × Target δ × Backplane ω γ) :
    bus.onTarget id missing f = (missing, bus) := by
  unfold onTarget onTarget?
  rw [h]
  rfl

/-- What a target makes of the backplane, the bus has afterwards. -/
theorem backplane_onTarget {α : Type} (bus : Bus ω δ γ) (id : TargetId) (missing : α)
    (f : Target δ → Backplane ω γ → α × Target δ × Backplane ω γ) :
    (bus.onTarget id missing f).2.backplane =
      match bus.target? id with
      | some t => (f t bus.backplane).2.2
      | none => bus.backplane := by
  unfold onTarget onTarget?
  cases bus.target? id <;> rfl

/-- What happens to a target changes it alone, and puts no target where there is none. -/
theorem target?_onTarget {α : Type} (bus : Bus ω δ γ) (other : TargetId) (missing : α)
    (f : Target δ → Backplane ω γ → α × Target δ × Backplane ω γ) (id : TargetId) :
    (bus.onTarget other missing f).2.target? id =
      if other = id then (bus.target? id).map fun t => (f t bus.backplane).2.1
      else bus.target? id := by
  unfold onTarget onTarget?
  cases hother : bus.target? other with
  | none =>
    split_ifs with hid
    · rw [← hid]
      exact hother.trans (congrArg (Option.map _) hother).symm
    · rfl
  | some t =>
    obtain ⟨hsize, -⟩ := Array.getElem?_eq_some_iff.1 hother
    split_ifs with hid
    · -- the target that was asked is put back as it is now
      rw [← hid, hother]
      exact Array.getElem?_setIfInBounds_self_of_lt hsize
    · -- all others are where they were
      exact Array.getElem?_setIfInBounds_ne fun hindex => hid (congrArg TargetId.mk hindex)

theorem routing_observe (bus : Bus ω δ γ) (a : Access) (result : Except Fault Completed) :
    (bus.observe a result).routing = bus.routing := by
  cases result <;> rfl

variable [Device δ ω] [Card γ δ ω]

theorem routing_answer (request : Request) (bus : Bus ω δ γ) :
    (answer request bus).2.routing = bus.routing := by
  cases request with
  | floating address => rfl
  | _ => exact bus.routing_onTarget _ _ _

theorem routing_run {α : Type} (r : Requests α) (bus : Bus ω δ γ) :
    (r.run answer bus).2.routing = bus.routing := by
  apply r.run_keeps (I := fun after : Bus ω δ γ => after.routing = bus.routing) _ rfl
  intro request after h
  rw [routing_answer, h]

/-- No access changes the routing: tables are changed by mapping alone. -/
@[simp] theorem routing_access (bus : Bus ω δ γ) (a : Access) :
    (bus.access a).2.routing = bus.routing :=
  (routing_observe _ _ _).trans (routing_run _ bus)

end Bus

end Motherboard
