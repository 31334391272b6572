import Motherboard.Proofs.BankCells
import Motherboard.Proofs.PagePermissions

/-!
# Write protection by devices

A ROM refuses writes, and banked memory ignores them while writing is disabled, whatever the
permissions of the pages that lead there. How far does this protect their bytes from the bus masters,
the debugger apart?

Devices protect themselves in their write cycles. A ROM refuses every one of them, and the refusal ends
the access (`Refuses`); the RAM of a banked memory stays as it is while the memory is not armed. A quiet
write makes no write cycle but pokes, and pokes pass by this protection. The pages still have their
say, but a page that allows writing lets a quiet write patch the ROM behind it.

So the image of a ROM after a run of accesses is what the pokes of the quiet writes have made of it
(`rom?_afterAll`). Without quiet writes no ROM changes, and banked RAM changes only by writes issued
while it was armed (`protects_afterAll`).
-/

namespace Motherboard

/-- The access is a write that is flagged quiet. -/
def Access.isQuietWrite (a : Access) : Bool :=
  a.flags.quiet && a.intent.isWrite

/-- Only the quiet flag and the debug intent ever suppress side effects. -/
theorem Access.sideEffectsAllowed_of_not_quiet {a : Access} (hmaster : a.intent.isDebug = false)
    (hquiet : a.flags.quiet = false) : a.sideEffectsAllowed = true := by
  rw [Access.sideEffectsAllowed, hmaster, hquiet]
  rfl

namespace Request

/-- The requests that go with an access: device cycles where devices may notice it, looks and pokes where
they may not, and either in the direction of the access. -/
def Suits (a : Access) : Request → Prop
  | .read .. => a.sideEffectsAllowed = true ∧ a.intent.isWrite = false
  | .write .. => a.sideEffectsAllowed = true ∧ a.intent.isWrite = true
  | .peek .. | .floating _ => a.sideEffectsAllowed = false ∧ a.intent.isWrite = false
  | .poke .. => a.sideEffectsAllowed = false ∧ a.intent.isWrite = true

/-- A write cycle of a target. -/
def IsWriteTo (id : TargetId) : Request → Prop
  | .write target .. => target = id
  | _ => False

/-- The image of the ROM that is the target `id` after a request. -/
def patch (id : TargetId) (store : Storage) : Request → Storage
  | .poke target offset value => if target = id then (store.poke offset value).2 else store
  | _ => store

variable {a : Access} {request : Request}

/-- Of the requests that go with an access, only those of a quiet write may patch. -/
theorem patch_of_suits (h : request.Suits a) (hmaster : a.intent.isDebug = false)
    (hquiet : a.isQuietWrite = false) (id : TargetId) (store : Storage) :
    request.patch id store = store := by
  cases request with
  | poke target offset value =>
    obtain ⟨hsilent, hwrite⟩ := h
    have hflag : a.flags.quiet = true := by simpa [Access.sideEffectsAllowed, hmaster] using hsilent
    rw [Access.isQuietWrite, hflag, hwrite] at hquiet
    cases hquiet
  | _ => rfl

/-- Of the requests that suit an access, only pokes of a quiet write patch an image. -/
theorem foldl_patch_of_suits {requests : List Request} (h : ∀ request ∈ requests, request.Suits a)
    (hmaster : a.intent.isDebug = false) (hquiet : a.isQuietWrite = false) (id : TargetId)
    (store : Storage) : requests.foldl (patch id) store = store := by
  induction requests with
  | nil => rfl
  | cons request requests ih =>
    rw [List.foldl_cons, patch_of_suits (h _ List.mem_cons_self) hmaster hquiet]
    exact ih fun other hother => h other (List.mem_cons_of_mem _ hother)

end Request

/-! ## What an access asks for -/

namespace Routing

/-- The page of an address leads to a target. -/
def LeadsTo (r : Routing) (address : UInt32) (id : TargetId) : Prop :=
  ∃ entry, r.table.entryFor? address = some entry ∧ entry.target = id

variable {r : Routing} {a b : Access}

/-- The entry at an address names the target the address leads to. -/
theorem target_of_leadsTo {address : UInt32} {id : TargetId} {entry : PageEntry}
    (hentry : r.table.entryFor? address = some entry) (h : r.LeadsTo address id) :
    entry.target = id := by
  obtain ⟨found, hfound, htarget⟩ := h
  rw [hentry] at hfound
  cases hfound
  exact htarget

/-- One dispatch asks for a cycle of the access's own intent. -/
theorem dispatch_suits (hnoticed : a.sideEffectsAllowed = true) (hintent : b.intent = a.intent)
    (r : Routing) (entry : PageEntry) : (r.dispatch entry b).All (Request.Suits a) := by
  unfold dispatch
  dsimp only
  rw [hintent]
  split_ifs with htarget hwrite
  · refine ⟨⟨hnoticed, hwrite⟩, ?_⟩
    rintro (e | _) <;> trivial
  · refine ⟨⟨hnoticed, by simpa using hwrite⟩, ?_⟩
    rintro (e | value) <;> trivial
  · trivial

/-- A byte cycle checks and then dispatches, and asks for nothing else. -/
theorem byteCycle_suits (hnoticed : a.sideEffectsAllowed = true) (hintent : b.intent = a.intent)
    (r : Routing) (checking : Checking) : (r.byteCycle checking b).All (Request.Suits a) := by
  unfold byteCycle
  cases r.resolve checking b with
  | error fault => trivial
  | ok entry => exact dispatch_suits hnoticed hintent r entry

/-- Every byte of a decomposed access asks for what suits the whole access. -/
theorem lanesFrom_suits (hnoticed : a.sideEffectsAllowed = true) (r : Routing) (checking : Checking)
    (lanes : List Nat) (value cycles : UInt32) :
    (r.lanesFrom checking a lanes value cycles).All (Request.Suits a) := by
  induction lanes generalizing value cycles with
  | nil => trivial
  | cons i lanes ih =>
    refine (byteCycle_suits (b := r.lane a i) hnoticed rfl r checking).bind ?_
    rintro (fault | ⟨byte, cost⟩)
    · trivial
    · exact ih _ _

/-- A silent access peeks when it reads and pokes when it writes. -/
theorem silentFrom_suits (hsilent : a.sideEffectsAllowed = false) (r : Routing) (lanes : List Nat)
    (value : UInt32) : (r.silentFrom a lanes value).All (Request.Suits a) := by
  induction lanes generalizing value with
  | nil => trivial
  | cons i lanes ih =>
    unfold silentFrom
    dsimp only
    cases r.table.entryFor? (r.lane a i).address with
    | none => trivial
    | some entry =>
      dsimp only
      split
      · split
        · next hwrite =>
          -- a poke, where the target takes pokes
          split
          · exact ⟨⟨hsilent, hwrite⟩, fun _ => ih value⟩
          · exact ih value
        · next hread =>
          -- a look, where the target takes looks, and the floating lines if it showed nothing
          have hdirection : a.intent.isWrite = false := by simpa using hread
          refine Requests.All.bind ?_ ?_
          · cases entry.capabilities.peek with
            | false => trivial
            | true => exact ⟨⟨hsilent, hdirection⟩, fun _ => trivial⟩
          · rintro (_ | byte)
            · exact ⟨⟨hsilent, hdirection⟩, fun _ => ih _⟩
            · exact ih _
      · trivial

/-- An access with side effects asks for suiting cycles on each of its three ways. -/
theorem noticed_suits (h : a.sideEffectsAllowed = true) (r : Routing) (checking : Checking) :
    (r.noticed checking a).All (Request.Suits a) := by
  have hwhole : ∀ entry, (r.whole entry a).All (Request.Suits a) := fun entry =>
    (dispatch_suits h rfl r entry).map
  unfold noticed
  cases r.resolve checking a with
  | error fault => trivial
  | ok entry =>
    dsimp only
    split_ifs
    · exact hwhole entry
    · -- misaligned: nothing is asked for
      trivial
    · cases r.route a entry with
      | wide => exact hwhole entry
      | lanes => exact lanesFrom_suits h r checking _ _ _

/-- A silent access checks its lanes first; a refused one asks for nothing at all. -/
theorem silent_suits (h : a.sideEffectsAllowed = false) (r : Routing) (checking : Checking) :
    (r.silent checking a).All (Request.Suits a) := by
  unfold silent
  split_ifs
  · cases r.checkLanesFrom a a.laneNumbers with
    | error fault => trivial
    | ok _ => exact silentFrom_suits h r _ _
  · exact silentFrom_suits h r _ _

/-- The two cases of `Access.sideEffectsAllowed` together. -/
theorem checked_suits (r : Routing) (a : Access) : (r.checked a).All (Request.Suits a) := by
  -- what the bus adds to an access changes neither its intent nor whether devices may notice it
  have hsame : Request.Suits (r.normalize a) = Request.Suits a := by
    funext request
    cases request <;> simp [Request.Suits]
  rw [← hsame]
  unfold checked execute
  cases h : (r.normalize a).sideEffectsAllowed with
  | true => exact noticed_suits h r .checked
  | false => exact silent_suits h r .checked

end Routing

/-! ## Images of ROM -/

namespace Target

variable {δ ω γ : Type}

/-- The image of a target that is ROM. -/
def image? : Target δ → Option Storage
  | .part (.rom store) => some store
  | _ => none

variable [Device δ ω] [Card γ δ ω]

/-- A read changes no image of ROM, not even that of the part it reads. -/
theorem image?_read (width : Width) (offset : UInt32) (access : Access) (t : Target δ)
    (b : Backplane ω γ) : (Target.read width offset access (t, b)).2.1.image? = t.image? := by
  rcases t with part | p
  · cases part <;> rfl
  · rfl

/-- A write reaches no image of ROM: ROM answers it with an error. -/
theorem image?_write (width : Width) (offset value : UInt32) (access : Access) (t : Target δ)
    (b : Backplane ω γ) : (Target.write width offset value access (t, b)).2.1.image? = t.image? := by
  rcases t with part | p
  · cases part <;> rfl
  · rfl

/-- Pokes do not ask whether a target is ROM. -/
theorem image?_poke (offset : UInt32) (value : UInt8) (t : Target δ) (b : Backplane ω γ) :
    (t.poke offset value b).2.1.image? =
      t.image?.map fun store => (store.poke offset value).2 := by
  rcases t with part | p
  · cases part with
    | bankWindow memory =>
      simp only [Target.poke, Part.poke]
      cases b.banked[memory]? <;> rfl
    | _ => rfl
  · rfl

end Target

namespace Bus

open BankedMemory

variable {ω δ γ : Type} {bus : Bus ω δ γ} {id : TargetId} {store : Storage}

/-- The image of the ROM that is a target. -/
def rom? (bus : Bus ω δ γ) (id : TargetId) : Option Storage :=
  (bus.target? id).bind Target.image?

/-- What a request makes of the image of the target it names is all it makes of any image. -/
theorem rom?_onTarget {α : Type} (bus : Bus ω δ γ) (other : TargetId) (missing : α)
    {f : Target δ → Backplane ω γ → α × Target δ × Backplane ω γ} {g : Storage → Storage}
    (h : ∀ t, (f t bus.backplane).2.1.image? = t.image?.map g) (id : TargetId) :
    (bus.onTarget other missing f).2.rom? id =
      (bus.rom? id).map fun store => if other = id then g store else store := by
  unfold rom?
  rw [target?_onTarget]
  split_ifs
  · cases bus.target? id with
    | none => rfl
    | some t => exact h t
  · exact Option.map_id'.symm

/-- A request that keeps the image of its own target keeps every image. -/
theorem rom?_onTarget_of_kept {α : Type} (bus : Bus ω δ γ) (other : TargetId) (missing : α)
    {f : Target δ → Backplane ω γ → α × Target δ × Backplane ω γ}
    (h : ∀ t, (f t bus.backplane).2.1.image? = t.image?) (id : TargetId) :
    (bus.onTarget other missing f).2.rom? id = (bus.rom? id).map fun store => store := by
  rw [rom?_onTarget bus other missing (g := fun store => store)
    fun t => (h t).trans Option.map_id'.symm]
  simp only [ite_self]

variable [Device δ ω] [Card γ δ ω]

/-- Only pokes change the image of a ROM, and no request turns a target into ROM or ROM into another
target. -/
theorem rom?_answer (request : Request) (bus : Bus ω δ γ) (id : TargetId) :
    (answer request bus).2.rom? id = (bus.rom? id).map fun store => request.patch id store := by
  cases request with
  | read target width offset access =>
    exact bus.rom?_onTarget_of_kept target _ (fun t => t.image?_read width offset access _) id
  | write target width offset value access =>
    exact bus.rom?_onTarget_of_kept target _ (fun t => t.image?_write width offset value access _) id
  | peek target offset => exact bus.rom?_onTarget_of_kept target _ (fun _ => rfl) id
  | poke target offset value =>
    exact bus.rom?_onTarget target _ (fun t => t.image?_poke offset value _) id
  | floating address => exact Option.map_id'.symm

/-- Through a whole run of requests, an image of ROM is changed by the patches among them and by nothing
else. -/
theorem rom?_run {α : Type} (r : Requests α) (bus : Bus ω δ γ) (id : TargetId) :
    (r.run answer bus).2.rom? id =
      (bus.rom? id).map fun store => (r.asked answer bus).foldl (Request.patch id) store := by
  induction r generalizing bus with
  | done a => simp [Requests.run]
  | ask request next ih =>
    rw [Requests.run_ask, ih, rom?_answer, Requests.asked_ask, Option.map_map]
    rfl

/-! ## Refused writes -/

/-- With the bus answering, a write cycle of the target `id` ends the tree in a permission fault; and if
`covered` holds, the tree ends in a fault of some kind. -/
structure Refuses {α : Type} (bus : Bus ω δ γ) (id : TargetId) (covered : Prop)
    (tree : Requests (Except Fault α)) : Prop where
  reached : (∃ request ∈ tree.asked answer bus, request.IsWriteTo id) →
    ∃ fault, (tree.run answer bus).1 = .error fault ∧ fault.kind = .permission
  covered : covered → ∃ fault, (tree.run answer bus).1 = .error fault

/-- A fault is a refusal, whatever is covered. -/
theorem refuses_error {α : Type} (bus : Bus ω δ γ) (id : TargetId) (covered : Prop) (fault : Fault) :
    bus.Refuses id covered (.done (.error fault) : Requests (Except Fault α)) where
  reached := by
    rintro ⟨request, hasked, -⟩
    cases hasked
  covered := fun _ => ⟨fault, rfl⟩

/-- A success is no refusal, so nothing may be covered. -/
theorem refuses_ok {α : Type} (bus : Bus ω δ γ) (id : TargetId) (a : α) :
    bus.Refuses id False (.done (.ok a) : Requests (Except Fault α)) where
  reached := by
    rintro ⟨request, hasked, -⟩
    cases hasked
  covered := False.elim

theorem Refuses.mono {α : Type} {covered covered' : Prop} {tree : Requests (Except Fault α)}
    (h : bus.Refuses id covered tree) (hcovered : covered' → covered) :
    bus.Refuses id covered' tree :=
  ⟨h.reached, fun h' => h.covered (hcovered h')⟩

/-- Two trees in a row refuse what either of them refuses, if a fault of the first ends both. -/
theorem Refuses.bind {α β : Type} {covered covered' : Prop} {tree : Requests (Except Fault α)}
    {f : Except Fault α → Requests (Except Fault β)} (h : bus.Refuses id covered tree)
    (hfault : ∀ fault, ∃ fault' : Fault, f (.error fault) = .done (.error fault') ∧
      fault'.kind = fault.kind)
    (hok : ∀ x, (tree.run answer bus).2.Refuses id covered' (f (.ok x))) :
    bus.Refuses id (covered ∨ covered') (tree.bind f) := by
  rcases hend : (tree.run answer bus).1 with fault | x
  · -- nothing is asked after the fault, which keeps its kind
    obtain ⟨fault', hdone, hkind⟩ := hfault fault
    constructor
    · rw [Requests.asked_bind, Requests.run_bind, hend, hdone, Requests.asked_done, List.append_nil]
      intro hasked
      obtain ⟨first, hfirst, hpermission⟩ := h.reached hasked
      cases hend.symm.trans hfirst
      exact ⟨fault', rfl, hkind.trans hpermission⟩
    · rw [Requests.run_bind, hend, hdone]
      exact fun _ => ⟨fault', rfl⟩
  · -- the first tree has completed, so that it refused nothing
    constructor
    · rw [Requests.asked_bind, Requests.run_bind, hend]
      rintro ⟨request, hasked, hreached⟩
      rcases List.mem_append.1 hasked with hasked | hasked
      · obtain ⟨fault, hfirst, -⟩ := h.reached ⟨request, hasked, hreached⟩
        cases hend.symm.trans hfirst
      · exact (hok x).reached ⟨request, hasked, hreached⟩
    · rw [Requests.run_bind, hend]
      rintro (hcovered | hcovered)
      · obtain ⟨fault, hfirst⟩ := h.covered hcovered
        cases hend.symm.trans hfirst
      · exact (hok x).covered hcovered

/-- Refusals do not depend on how the value of a success is packed. -/
theorem Refuses.map {α β : Type} {covered : Prop} {tree : Requests (Except Fault α)}
    (h : bus.Refuses id covered tree) (f : α → β) :
    bus.Refuses id covered (tree.map fun result => result.map f) :=
  Refuses.mono (h.bind (fun _ => ⟨_, rfl, rfl⟩) fun x => refuses_ok _ id (f x)) Or.inl

/-- ROM answers a write cycle of any width with the same error. -/
theorem answer_write_of_rom (h : bus.rom? id = some store) (width : Width) (offset value : UInt32)
    (access : Access) : (answer (.write id width offset value access) bus).1 = .error .readOnly := by
  obtain ⟨t, htarget, himage⟩ := Option.bind_eq_some_iff.1 h
  have hrom : t = .part (.rom store) := by
    rcases t with (part | p)
    · cases part <;> cases himage
      rfl
    · cases himage
  subst hrom
  simp only [answer, onTarget, onTarget?, htarget]
  rfl

/-- The error of a ROM reaches the access as a fault of permission. -/
theorem run_dispatch_of_rom {entry : PageEntry} {b : Access} (hrom : bus.rom? entry.target = some store)
    (hwrite : b.intent.isWrite = true) :
    ∃ fault, ((bus.routing.dispatch entry b).run answer bus).1 = .error fault ∧
      fault.kind = .permission := by
  have hindex : entry.target.index < bus.routing.targets := by
    obtain ⟨t, htarget, -⟩ := Option.bind_eq_some_iff.1 hrom
    exact (Array.getElem?_eq_some_iff.1 htarget).1
  unfold Routing.dispatch
  dsimp only
  rw [if_pos hindex, if_pos hwrite, Requests.run_ask, answer_write_of_rom hrom]
  exact ⟨_, rfl, rfl⟩

/-- A write cycle goes to the target of the page, and ROM there refuses it. -/
theorem refuses_dispatch {b : Access} (hrom : bus.rom? id = some store)
    (hwrite : b.intent.isWrite = true) (entry : PageEntry) :
    bus.Refuses id (entry.target = id) (bus.routing.dispatch entry b) := by
  by_cases hid : entry.target = id
  · subst hid
    have hfault := run_dispatch_of_rom hrom hwrite
    exact ⟨fun _ => hfault, fun _ => hfault.imp fun _ h => h.1⟩
  · -- the write goes to another target
    refine ⟨?_, fun h => absurd h hid⟩
    rintro ⟨request, hasked, hreached⟩
    have htarget := Requests.of_mem_asked (bus.routing.dispatch_asks entry b) hasked
    cases request with
    | write target width offset value access =>
      cases hreached
      exact absurd (Option.some.inj htarget).symm hid
    | _ => cases hreached

/-- A byte written at an address that leads to ROM is refused: by the page, by a missing target, or by the
ROM itself. -/
theorem refuses_byteCycle {b : Access} (hrom : bus.rom? id = some store)
    (hwrite : b.intent.isWrite = true) :
    bus.Refuses id (bus.routing.LeadsTo b.address id) (bus.routing.byteCycle .checked b) := by
  unfold Routing.byteCycle
  cases hentry : bus.routing.resolve .checked b with
  | error fault => exact bus.refuses_error id _ fault
  | ok entry =>
    refine (refuses_dispatch hrom hwrite entry).mono ?_
    exact Routing.target_of_leadsTo (Routing.grants_of_resolve hentry).mapped

/-- The lanes still to do refuse a write to ROM, at the lane that reaches it if not before. -/
theorem refuses_lanesFrom {r : Routing} {a : Access} (hr : bus.routing = r)
    (hrom : bus.rom? id = some store) (hwrite : a.intent.isWrite = true) (lanes : List Nat)
    (value cycles : UInt32) :
    bus.Refuses id (∃ i ∈ lanes, r.LeadsTo (r.byteAddress a i) id)
      (r.lanesFrom .checked a lanes value cycles) := by
  -- from lane to lane the routing stays, and so does the ROM, with whatever image
  induction lanes generalizing bus store value cycles with
  | nil => exact (bus.refuses_ok id _).mono fun ⟨i, hi, _⟩ => nomatch hi
  | cons i lanes ih =>
    subst hr
    have hlane := refuses_byteCycle (b := bus.routing.lane a i) hrom hwrite
    have hrouting := routing_run (bus.routing.byteCycle .checked (bus.routing.lane a i)) bus
    have hafter := rom?_run (bus.routing.byteCycle .checked (bus.routing.lane a i)) bus id
    rw [hrom, Option.map_some] at hafter
    rw [Routing.lanesFrom]
    refine Refuses.mono (hlane.bind (fun _ => ⟨_, rfl, rfl⟩) fun _ => ih hrouting hafter _ _) ?_
    rintro ⟨k, hk, hleads⟩
    rcases List.mem_cons.1 hk with rfl | hk
    · exact .inl hleads
    · exact .inr ⟨k, hk, hleads⟩

/-- A whole access stays inside one page, so that any of its bytes that leads to ROM makes all of them do
so. -/
theorem refuses_whole {a : Access} {entry : PageEntry} (hrom : bus.rom? id = some store)
    (hwrite : a.intent.isWrite = true) (hentry : bus.routing.resolve .checked a = .ok entry)
    (hroom : (bus.routing.table.geometry.pageOffset a.address).toNat + a.width.bytes ≤
      bus.routing.table.geometry.pageSize.toNat) :
    bus.Refuses id (∃ i < a.width.bytes, bus.routing.LeadsTo (bus.routing.byteAddress a i) id)
      (bus.routing.whole entry a) := by
  refine ((refuses_dispatch hrom hwrite entry).map _).mono ?_
  -- one cycle stays in the page of the first byte, so that every byte leads to the same target
  rintro ⟨i, hi, hleads⟩
  have hgrants := Routing.grants_of_room (Routing.grants_of_resolve hentry) hroom hi
  exact Routing.target_of_leadsTo hgrants.mapped hleads

/-- However an access with side effects is carried out, one byte that leads to ROM is enough to refuse it.
-/
theorem refuses_noticed {a : Access} (hrom : bus.rom? id = some store)
    (hwrite : a.intent.isWrite = true) :
    bus.Refuses id (∃ i < a.width.bytes, bus.routing.LeadsTo (bus.routing.byteAddress a i) id)
      (bus.routing.noticed .checked a) := by
  unfold Routing.noticed
  cases hentry : bus.routing.resolve .checked a with
  | error fault => exact bus.refuses_error id _ fault
  | ok entry =>
    dsimp only
    split_ifs with hbyte
    · -- one byte always has room in its page
      exact refuses_whole hrom hwrite hentry (Routing.room_of_byte hbyte)
    · -- misaligned: refused before any target is asked
      exact bus.refuses_error id _ _
    · cases hroute : bus.routing.route a entry with
      -- A wide access is one dispatch inside one page; a decomposed one is refused at its first lane on
      -- ROM, which need not be the first of all.
      | wide => exact refuses_whole hrom hwrite hentry (Routing.room_of_wide hroute)
      | lanes =>
        refine (refuses_lanesFrom rfl hrom hwrite a.laneNumbers 0 0).mono ?_
        rintro ⟨i, hi, hleads⟩
        exact ⟨i, List.mem_range.2 hi, hleads⟩

/-! ## One access -/

variable {a : Access} {memory : Nat}

/-- The observer at the end of an access does not touch the backplane. -/
theorem banked_access (bus : Bus ω δ γ) (a : Access) :
    (bus.access a).2.backplane.banked =
      ((bus.routing.checked a).run answer bus).2.backplane.banked := by
  unfold access
  dsimp only
  cases ((bus.routing.checked a).run answer bus).1 <;> rfl

theorem requests_suit (bus : Bus ω δ γ) (a : Access) :
    ∀ request ∈ bus.requests a, request.Suits a := fun _ h =>
  Requests.of_mem_asked (bus.routing.checked_suits a) h

/-- An access changes an image of ROM by the patches it asks for. -/
theorem rom?_access (bus : Bus ω δ γ) (a : Access) (id : TargetId) :
    (bus.access a).2.rom? id =
      (bus.rom? id).map fun store => (bus.requests a).foldl (Request.patch id) store := by
  have hobserve : ∀ (bus : Bus ω δ γ) (b : Access) (result : Except Fault Completed),
      (bus.observe b result).rom? id = bus.rom? id := by
    intro bus b result
    cases result <;> rfl
  exact (hobserve _ _ _).trans (rom?_run _ bus id)

theorem refuses_access (hrom : bus.rom? id = some store) (hwrite : a.intent.isWrite = true)
    (hnoticed : a.sideEffectsAllowed = true) :
    bus.Refuses id (∃ i < a.width.bytes, bus.routing.LeadsTo (bus.routing.byteAddress a i) id)
      (bus.routing.checked a) := by
  have hnormal := refuses_noticed (a := bus.routing.normalize a) hrom
    (by rw [Routing.normalize_intent]; exact hwrite)
  simp only [Routing.normalize_width, Routing.byteAddress_normalize] at hnormal
  rwa [Routing.checked_of_noticed hnoticed]

/-- Reads leave banked RAM, with and without side effects. -/
theorem ramCells?_access_of_read (hread : a.intent.isWrite = false) (bus : Bus ω δ γ)
    (memory : Nat) :
    ramCells? (bus.access a).2.backplane.banked memory = ramCells? bus.backplane.banked memory := by
  rw [banked_access]
  refine Requests.run_keeps_of_all (bus.routing.checked_suits a) (I := fun after : Bus ω δ γ =>
    ramCells? after.backplane.banked memory = ramCells? bus.backplane.banked memory) ?_ rfl
  intro request after hsuits hafter
  -- a read asks for reads, looks and floating bytes, and none of them stores
  cases request with
  | read id width offset access => exact ramCells?_read hafter id width offset access
  | write id width offset value access => exact absurd (hread.symm.trans hsuits.2) (by decide)
  | peek id offset => rwa [banked_peek]
  | poke id offset value => exact absurd (hread.symm.trans hsuits.2) (by decide)
  | floating address => exact hafter

/-- Write cycles leave the RAM of a memory that is not armed. -/
theorem ramCells?_access_of_unarmed (hnoticed : a.sideEffectsAllowed = true)
    (hunarmed : isArmed bus.backplane.banked memory = false) :
    ramCells? (bus.access a).2.backplane.banked memory = ramCells? bus.backplane.banked memory := by
  cases hwrite : a.intent.isWrite with
  | false => exact ramCells?_access_of_read hwrite bus memory
  | true =>
    have hsealed : IsSealed memory (ramCells? bus.backplane.banked memory) bus.backplane.banked :=
      ⟨rfl, hunarmed⟩
    rw [banked_access]
    refine (Requests.run_keeps_of_all (bus.routing.checked_suits a) (I := fun after : Bus ω δ γ =>
      IsSealed memory (ramCells? bus.backplane.banked memory) after.backplane.banked) ?_ hsealed).1
    -- the memory stays unarmed along the way: it takes reads to arm it
    intro request after hsuits hafter
    cases request with
    | write id width offset value access => exact isSealed_write hafter id width offset value access
    | floating address => exact hafter
    | read id width offset access => exact absurd (hwrite.symm.trans hsuits.2) (by decide)
    | peek id offset => exact absurd (hwrite.symm.trans hsuits.2) (by decide)
    | poke id offset value => exact absurd (hnoticed.symm.trans hsuits.1) (by decide)

/-- How devices are protected from an access: what it makes of images of ROM, how it ends where a byte
of it would be written to ROM, and when it changes banked RAM. -/
structure Protects (bus : Bus ω δ γ) (a : Access) : Prop where
  image : ∀ id, (bus.access a).2.rom? id = (bus.rom? id).map fun store =>
    if a.isQuietWrite then (bus.requests a).foldl (Request.patch id) store else store
  reached : ∀ id store, bus.rom? id = some store →
    (∃ request ∈ bus.requests a, request.IsWriteTo id) →
      ∃ fault, (bus.access a).1 = .error fault ∧ fault.kind = .permission
  covered : ∀ id store, bus.rom? id = some store → a.intent.isWrite = true →
    a.isQuietWrite = false →
    (∃ i < a.width.bytes, bus.routing.LeadsTo (bus.routing.byteAddress a i) id) →
      ∃ fault, (bus.access a).1 = .error fault
  cells : ∀ memory,
    ramCells? (bus.access a).2.backplane.banked memory ≠ ramCells? bus.backplane.banked memory →
      a.isQuietWrite = true ∨
        a.intent.isWrite = true ∧ isArmed bus.backplane.banked memory = true

/-- Observing an access does not turn a fault into a success. -/
theorem error_of_checked {P : Fault → Prop}
    (h : ∃ fault, ((bus.routing.checked a).run answer bus).1 = .error fault ∧ P fault) :
    ∃ fault, (bus.access a).1 = .error fault ∧ P fault := by
  obtain ⟨fault, hend, hfault⟩ := h
  refine ⟨fault, ?_, hfault⟩
  show ((bus.routing.checked a).run answer bus).1.map Completed.outcome = .error fault
  rw [hend]
  rfl

/-- Every access of a master other than a debugger is held to the protection of ROM. -/
theorem protects_access (bus : Bus ω δ γ) (hmaster : a.intent.isDebug = false) :
    bus.Protects a where
  image := by
    intro id
    rw [rom?_access]
    cases hquiet : a.isQuietWrite with
    | true => rfl
    | false =>
      congr 1
      funext store
      exact Request.foldl_patch_of_suits (bus.requests_suit a) hmaster hquiet id store
  reached := by
    rintro id store hrom ⟨request, hasked, hreached⟩
    -- that a write cycle was asked for shows that the access is a write and may be noticed
    have hsuits := bus.requests_suit a request hasked
    cases request with
    | write target width offset value access =>
      have hrefuses := refuses_access hrom hsuits.2 hsuits.1
      exact error_of_checked (hrefuses.reached ⟨_, hasked, hreached⟩)
    | _ => cases hreached
  covered := by
    intro id store hrom hwrite hquiet hcovered
    have hloud : a.flags.quiet = false := by
      rw [Access.isQuietWrite, hwrite, Bool.and_true] at hquiet
      exact hquiet
    have hrefuses :=
      refuses_access hrom hwrite (Access.sideEffectsAllowed_of_not_quiet hmaster hloud)
    obtain ⟨fault, hend⟩ := hrefuses.covered hcovered
    obtain ⟨fault, hend, -⟩ := error_of_checked (P := fun _ => True) ⟨fault, hend, trivial⟩
    exact ⟨fault, hend⟩
  cells := by
    intro memory hchanged
    cases hwrite : a.intent.isWrite with
    | false => exact absurd (ramCells?_access_of_read hwrite bus memory) hchanged
    | true =>
      cases hloud : a.flags.quiet with
      | true => exact .inl (by rw [Access.isQuietWrite, hloud, hwrite]; rfl)
      | false =>
        -- a write that is not quiet makes write cycles only, and these respect the switches
        refine .inr ⟨rfl, ?_⟩
        by_contra hunarmed
        rw [Bool.not_eq_true] at hunarmed
        have hnoticed := Access.sideEffectsAllowed_of_not_quiet hmaster hloud
        exact hchanged (ramCells?_access_of_unarmed hnoticed hunarmed)

/-! ## Runs of accesses -/

/-- The bus after accesses carried out one after another, however each of them ends. -/
def afterAll (bus : Bus ω δ γ) (accesses : List Access) : Bus ω δ γ :=
  accesses.foldl (fun bus a => (bus.access a).2) bus

/-- What the targets are asked for the quiet writes among accesses carried out one after another. -/
def quietRequests (bus : Bus ω δ γ) : List Access → List Request
  | [] => []
  | a :: rest =>
    (if a.isQuietWrite then bus.requests a else []) ++ (bus.access a).2.quietRequests rest

/-- Over any number of accesses, only the requests of the quiet writes among them patch an image. -/
theorem rom?_afterAll {accesses : List Access} (h : ∀ a ∈ accesses, a.intent.isDebug = false)
    (bus : Bus ω δ γ) (id : TargetId) :
    (bus.afterAll accesses).rom? id =
      (bus.rom? id).map fun store => (bus.quietRequests accesses).foldl (Request.patch id) store := by
  induction accesses generalizing bus with
  | nil => exact Option.map_id'.symm
  | cons a rest ih =>
    -- the first access patches if it is a quiet write, and the rest goes on from what it has left
    have hfirst := (bus.protects_access (h a List.mem_cons_self)).image id
    have hrest := ih (fun b hb => h b (List.mem_cons_of_mem _ hb)) (bus.access a).2
    rw [hfirst, Option.map_map] at hrest
    refine hrest.trans ?_
    congr 1
    funext store
    rw [quietRequests, List.foldl_append, Function.comp_apply]
    cases a.isQuietWrite <;> rfl

/-- Write protection over a run of accesses of masters other than the debugger. The image of a ROM is
patched by the quiet writes among them, and changed by nothing else. At every point of the run, a write
cycle that reaches a ROM ends its access in a permission fault, and no write completes, quiet ones
apart, that covers a byte whose page leads to a ROM. Banked RAM is changed by quiet writes, and by
writes issued while it is armed, only. -/
theorem protects_afterAll (bus : Bus ω δ γ) (accesses : List Access)
    (h : ∀ a ∈ accesses, a.intent.isDebug = false) :
    (∀ id, (bus.afterAll accesses).rom? id = (bus.rom? id).map fun store =>
      (bus.quietRequests accesses).foldl (Request.patch id) store) ∧
      ∀ before a after, accesses = before ++ a :: after → (bus.afterAll before).Protects a := by
  refine ⟨rom?_afterAll h bus, ?_⟩
  rintro before a after rfl
  exact protects_access _ (h a (by simp))

/-- A bus of two pages that both allow everything: ROM, and above it the window of a banked memory with
one RAM byte, to which writing is disabled. -/
def openPages : Bus Bench.Host Bench.Instrument Bench.TestCard where
  config := ⟨⟨9, 8⟩, .legacy, false, false, false, .constant 0xFF⟩
  table := ⟨⟨9, 8⟩,
    #[some ⟨⟨1⟩, .rom, .full, .memory, ⟨0⟩, 0⟩,
      some ⟨⟨2⟩, .ram, .full, Part.windowCapabilities, ⟨1⟩, 0⟩]⟩
  targets := #[.part (.rom ⟨#[0x60, 0x61, 0x62, 0x63]⟩), .part (.bankWindow 0)]
  diagnostics := .zero
  backplane :=
    { floating := .constant 0xFF, overrides := #[], host := {}, rack := .empty 7,
      banked := #[⟨⟨false, false, true, false⟩, #[], #[0x11], #[], #[]⟩] }

/-- A store of a byte by the processor, with and without side effects. -/
def storeByte (address value : UInt32) (quiet : Bool) : Access :=
  (Access.write address .byte value .dataWrite).withFlags { quiet := quiet }

/-- Each byte is stored twice: where the devices see it, and past them. -/
def stores : List Access :=
  [storeByte 1 0xAA false, storeByte 1 0xAA true, storeByte 0x100 0x22 false, storeByte 0x100 0x22 true]

/-- The processor may not write to the ROM, but it patches it with a quiet write, which completes; and
so it stores in the memory to which writing is disabled. -/
theorem protects_afterAll_openPages :
    (∀ a ∈ stores, a.intent.isDebug = false) ∧
      openPages.quietRequests stores = [.poke ⟨0⟩ 1 0xAA, .poke ⟨1⟩ 0 0x22] ∧
      (openPages.afterAll stores).rom? ⟨0⟩ = some ⟨#[0x60, 0xAA, 0x62, 0x63]⟩ ∧
      (∃ fault, (openPages.access (storeByte 1 0xAA false)).1 = .error fault ∧
        fault.kind = .permission) ∧
      ((openPages.afterAll (stores.take 1)).access (storeByte 1 0xAA true)).1 = .ok ⟨0xAA, 0⟩ ∧
      ramCells? (openPages.afterAll (stores.take 3)).backplane.banked 0 = some (#[], #[0x11], #[]) ∧
      ramCells? (openPages.afterAll stores).backplane.banked 0 = some (#[], #[0x22], #[]) := by
  have hmaster : ∀ a ∈ stores, a.intent.isDebug = false := by decide
  -- two quiet stores among the others
  have hasked : openPages.quietRequests stores = [.poke ⟨0⟩ 1 0xAA, .poke ⟨1⟩ 0 0x22] := by
    decide +kernel
  obtain ⟨himage, hpoints⟩ := protects_afterAll openPages stores hmaster
  refine ⟨hmaster, hasked, ?_, ?_, by decide +kernel, by decide +kernel, by decide +kernel⟩
  · rw [himage, hasked]
    decide +kernel
  · have hrom : openPages.rom? ⟨0⟩ = some ⟨#[0x60, 0x61, 0x62, 0x63]⟩ := rfl
    have hfirst := hpoints [] (storeByte 1 0xAA false) stores.tail rfl
    refine hfirst.reached ⟨0⟩ _ hrom
      ⟨.write ⟨0⟩ .byte 1 0xAA (storeByte 1 0xAA false), by decide +kernel, rfl⟩

end Bus

end Motherboard
