import Motherboard.Proofs.Decomposition

/-!
# Page permissions along an access

A page table says for every byte of the address space which target holds it and what may be done to
it. The bus does not look at every byte for itself: one wide cycle is checked by its first byte, byte
cycles are checked one by one on the way, and a quiet access is checked as a whole before its first
byte is touched. Nevertheless no byte slips through. Whatever a bus master other than the debugger
asks for, a target is made to touch only bytes whose own pages lead to it and grant what is done to
them (`access_respects_pages`), and an access that completes has covered granted bytes only.

The requests are looked at one by one (`Respects`), over the tree of all that can come up, so that the
answers of the targets do not matter.
-/

namespace Motherboard

/-- Number of bytes that a request makes a target touch. -/
def Request.byteCount : Request → Nat
  | .read _ width .. | .write _ width .. => width.bytes
  | .peek .. | .poke .. => 1
  | .floating _ => 0

/-- Device offset of the first byte that a request makes a target touch. -/
def Request.offset? : Request → Option UInt32
  | .read _ _ offset _ | .write _ _ offset .. | .peek _ offset | .poke _ offset _ => some offset
  | .floating _ => none

namespace Routing

/-! ## Bytes and their pages -/

/-- Address of byte `i` of an access, cut to the width of the bus. -/
def byteAddress (r : Routing) (a : Access) (i : Nat) : UInt32 :=
  (a.address + i.toUInt32) &&& r.table.geometry.addressMask

/-- `entry` is that of the page of `address`, and it lets the intent pass: it allows the direction, and
while execution is enforced, fetches go to executable pages only. -/
structure Grants (r : Routing) (intent : Intent) (address : UInt32) (entry : PageEntry) :
    Prop where
  mapped : r.table.entryFor? address = some entry
  direction : entry.permissions.allows intent = true
  execution : intent.isFetch = true → r.config.nxActive = true →
    entry.permissions.execute = true

/-- Every byte of the access is granted by its own page. -/
def GrantsAll (r : Routing) (a : Access) : Prop :=
  ∀ i < a.width.bytes, ∃ entry, r.Grants a.intent (r.byteAddress a i) entry

/-- What the target `id` touches on a request are bytes `first`, `first + 1`, … of the access. The
page of each of them grants the access, and leads to the target and to the device offset touched. -/
structure Touches (r : Routing) (a : Access) (request : Request) (id : TargetId) (first : Nat) :
    Prop where
  within : first + request.byteCount ≤ a.width.bytes
  granted : ∀ j < request.byteCount, ∃ entry,
    r.Grants a.intent (r.byteAddress a (first + j)) entry ∧ entry.target = id ∧
      (r.table.geometry.isSupported = true →
        request.offset?.map (· + j.toUInt32) =
          some (r.deviceOffset entry (r.byteAddress a (first + j))))

/-- A request has no target touch a byte of the access that its page does not grant. -/
def Respects (r : Routing) (a : Access) (request : Request) : Prop :=
  ∀ id, request.target? = some id → ∃ first, r.Touches a request id first

variable {r : Routing} {a b : Access} {entry : PageEntry}

/-- Cutting the address of an access to the lines of the bus changes no address of its bytes. -/
theorem byteAddress_normalize (r : Routing) (a : Access) (i : Nat) :
    r.byteAddress (r.normalize a) i = r.byteAddress a i :=
  r.lane_address a i

/-- An access that resolves has been granted the page it stands on. -/
theorem grants_of_resolve (h : r.resolve .checked a = .ok entry) :
    r.Grants a.intent a.address entry := by
  unfold resolve at h
  cases hfound : r.table.entryFor? a.address with
  | none =>
    rw [hfound] at h
    cases h
  | some found =>
    rw [hfound] at h
    dsimp only at h
    split_ifs at h with hdirection hexecution
    cases h
    refine ⟨hfound, by simpa using hdirection, ?_⟩
    -- a fetch is asked for execution only while the bus enforces it
    intro hfetch hactive
    simpa [hfetch, hactive] using hexecution

/-- Bytes that lie in the page of the access are granted with its first one. -/
theorem grants_of_room (h : r.Grants a.intent a.address entry)
    (hroom : (r.table.geometry.pageOffset a.address).toNat + a.width.bytes ≤
      r.table.geometry.pageSize.toNat) {j : Nat} (hj : j < a.width.bytes) :
    r.Grants a.intent (r.byteAddress a j) entry := by
  -- the same page, and so the same entry
  refine { h with mapped := ?_ }
  have hpage : r.table.geometry.pageIndex (r.byteAddress a j) =
      r.table.geometry.pageIndex a.address :=
    Geometry.pageIndex_and_addressMask_add (by omega)
  unfold PageTable.entryFor?
  rw [hpage]
  exact h.mapped

/-- Inside one page, device offsets follow each other as addresses do. -/
theorem deviceOffset_byteAddress (hsupported : r.table.geometry.isSupported = true)
    (hroom : (r.table.geometry.pageOffset a.address).toNat + a.width.bytes ≤
      r.table.geometry.pageSize.toNat) {j : Nat} (hj : j < a.width.bytes) :
    r.deviceOffset entry (r.byteAddress a j) =
      r.deviceOffset entry a.address + j.toUInt32 := by
  -- the byte stays in the page of the access
  have hoffset := Geometry.toNat_pageOffset_and_addressMask_add hsupported
    (show (r.table.geometry.pageOffset a.address).toNat + j < _ by omega)
  have hsize := r.table.geometry.toNat_pageSize_le
  have hstep : j.toUInt32.toNat = j := toNat_toUInt32 (by omega)
  unfold deviceOffset
  rw [UInt32.add_assoc]
  congr 1
  apply UInt32.toNat_inj.1
  rw [UInt32.toNat_add, hstep, Nat.mod_eq_of_lt (by omega)]
  exact hoffset

/-! ## One cycle of a device -/

/-- A device cycle of `b`, which covers the bytes of `a` from `first` on, respects the pages. -/
theorem dispatch_respects (first : Nat) (hwithin : first + b.width.bytes ≤ a.width.bytes)
    (hgranted : ∀ j < b.width.bytes, r.Grants a.intent (r.byteAddress a (first + j)) entry)
    (hoffset : r.table.geometry.isSupported = true → ∀ j < b.width.bytes,
      r.deviceOffset entry (r.byteAddress a (first + j)) =
        r.deviceOffset entry b.address + j.toUInt32) :
    (r.dispatch entry b).All (r.Respects a) := by
  -- A read and a write ask for the same bytes of the same target, so that one argument serves both.
  have htouches : ∀ request : Request, request.byteCount = b.width.bytes →
      request.target? = some entry.target →
      request.offset? = some (r.deviceOffset entry b.address) → r.Respects a request := by
    intro request hcount htarget hfrom id hid
    rw [htarget] at hid
    cases hid
    refine ⟨first, by rw [hcount]; exact hwithin, fun j hj => ?_⟩
    rw [hcount] at hj
    refine ⟨entry, hgranted j hj, rfl, fun hsupported => ?_⟩
    rw [hfrom, hoffset hsupported j hj]
    rfl
  unfold dispatch
  dsimp only
  split_ifs
  · refine ⟨htouches _ rfl rfl rfl, ?_⟩
    rintro (e | _) <;> trivial
  · refine ⟨htouches _ rfl rfl rfl, ?_⟩
    rintro (e | value) <;> trivial
  · trivial

/-- One cycle of the full width stays within the page that it was checked against. -/
theorem whole_respects (hentry : r.resolve .checked a = .ok entry)
    (hroom : (r.table.geometry.pageOffset a.address).toNat + a.width.bytes ≤
      r.table.geometry.pageSize.toNat) :
    (r.whole entry a).All (r.Respects a) ∧ r.GrantsAll a := by
  -- all bytes stand on one page, which has granted the first
  have hgranted : ∀ j < a.width.bytes, r.Grants a.intent (r.byteAddress a j) entry := fun j hj =>
    grants_of_room (grants_of_resolve hentry) hroom hj
  refine ⟨Requests.All.map (dispatch_respects 0 (by omega) ?_ ?_), ?_⟩
  · intro j hj
    rw [Nat.zero_add]
    exact hgranted j hj
  · intro hsupported j hj
    rw [Nat.zero_add]
    exact deviceOffset_byteAddress hsupported hroom hj
  · exact fun i hi => ⟨entry, hgranted i hi⟩

theorem room_of_byte (hbyte : a.width = .byte) :
    (r.table.geometry.pageOffset a.address).toNat + a.width.bytes ≤
      r.table.geometry.pageSize.toNat := by
  rw [hbyte]
  exact r.table.geometry.toNat_pageOffset_lt a.address

/-! ## Byte cycles -/

/-- A byte cycle touches its own byte, and only if it is granted. -/
theorem byteCycle_respects {i : Nat} (hi : i < a.width.bytes) :
    (r.byteCycle .checked (r.lane a i)).All (r.Respects a) := by
  unfold byteCycle
  cases hentry : r.resolve .checked (r.lane a i) with
  | error fault => trivial
  | ok entry =>
    have hgrants : r.Grants a.intent (r.byteAddress a i) entry := grants_of_resolve hentry
    -- the lane covers one byte only, so that the only step within it is none
    have hnone : ∀ j < (r.lane a i).width.bytes, j = 0 := fun j hj => Nat.lt_one_iff.1 hj
    refine dispatch_respects i hi ?_ ?_
    · intro j hj
      rw [hnone j hj]
      exact hgrants
    · intro _ j hj
      rw [hnone j hj]
      exact (UInt32.add_zero _).symm

/-- A byte cycle that succeeds has been granted. -/
theorem byteCycle_ends_granted (r : Routing) (a : Access) (i : Nat) :
    (r.byteCycle .checked (r.lane a i)).Ends fun result =>
      ∀ answer, result = .ok answer → ∃ entry, r.Grants a.intent (r.byteAddress a i) entry := by
  unfold byteCycle
  cases hentry : r.resolve .checked (r.lane a i) with
  | error fault => exact fun _ h => nomatch h
  | ok entry =>
    exact (r.dispatch_ends entry _).mono fun _ _ _ _ => ⟨entry, grants_of_resolve hentry⟩

/-- A decomposed access asks for each of its bytes by itself. -/
theorem lanesFrom_respects (r : Routing) (a : Access) {lanes : List Nat}
    (hlanes : ∀ i ∈ lanes, i < a.width.bytes) (value cycles : UInt32) :
    (r.lanesFrom .checked a lanes value cycles).All (r.Respects a) := by
  induction lanes generalizing value cycles with
  | nil => trivial
  | cons i lanes ih =>
    refine (byteCycle_respects (hlanes i List.mem_cons_self)).bind ?_
    rintro (fault | ⟨byte, cost⟩)
    · trivial
    · exact ih (fun k hk => hlanes k (List.mem_cons_of_mem _ hk)) _ _

/-- Lanes that are all carried out are all granted. -/
theorem lanesFrom_ends_granted (r : Routing) (a : Access) (lanes : List Nat)
    (value cycles : UInt32) :
    (r.lanesFrom .checked a lanes value cycles).Ends fun result => ∀ c, result = .ok c →
      ∀ i ∈ lanes, ∃ entry, r.Grants a.intent (r.byteAddress a i) entry := by
  induction lanes generalizing value cycles with
  | nil => exact fun _ _ _ hi => nomatch hi
  | cons i lanes ih =>
    refine (r.byteCycle_ends_granted a i).bind ?_
    -- a row that completes has completed at each lane
    rintro (fault | ⟨byte, cost⟩) hfirst
    · exact fun _ h => nomatch h
    · refine (ih _ _).mono fun result hrest c hc k hk => ?_
      rcases List.mem_cons.1 hk with rfl | hk
      · exact hfirst _ rfl
      · exact hrest c hc k hk

/-! ## Quiet accesses -/

/-- If the check of all lanes passes, each of them is granted. -/
theorem grants_of_checkLanesFrom {lanes : List Nat} (h : r.checkLanesFrom a lanes = .ok ()) :
    ∀ i ∈ lanes, ∃ entry, r.Grants a.intent (r.byteAddress a i) entry := by
  induction lanes with
  | nil => exact fun _ hi => nomatch hi
  | cons i lanes ih =>
    unfold checkLanesFrom at h
    -- the first refusal would have ended the check
    cases hentry : r.resolve .checked (r.lane a i) with
    | error fault =>
      rw [hentry] at h
      cases h
    | ok entry =>
      rw [hentry] at h
      intro k hk
      rcases List.mem_cons.1 hk with rfl | hk
      · exact ⟨entry, grants_of_resolve hentry⟩
      · exact ih h k hk

/-- A look or a poke touches the one byte that its page entry was found for. -/
theorem touches_of_silent {request : Request} {i : Nat} (hi : i < a.width.bytes)
    (hgrants : r.Grants a.intent (r.byteAddress a i) entry) (hcount : request.byteCount = 1)
    (htarget : request.target? = some entry.target)
    (hoffset : request.offset? = some (r.deviceOffset entry (r.byteAddress a i))) :
    r.Respects a request := by
  intro id hid
  rw [htarget] at hid
  cases hid
  refine ⟨i, by omega, fun j hj => ?_⟩
  obtain rfl : j = 0 := by omega
  refine ⟨entry, hgrants, rfl, fun _ => ?_⟩
  rw [hoffset]
  exact congrArg some (UInt32.add_zero _)

/-- A silent access touches its bytes; it has been granted all of them before. -/
theorem silentFrom_respects {lanes : List Nat}
    (hlanes : ∀ i ∈ lanes, i < a.width.bytes ∧
      ∃ entry, r.Grants a.intent (r.byteAddress a i) entry) (value : UInt32) :
    (r.silentFrom a lanes value).All (r.Respects a) := by
  induction lanes generalizing value with
  | nil => trivial
  | cons i lanes ih =>
    obtain ⟨hi, entry, hgrants⟩ := hlanes i List.mem_cons_self
    have hrest : ∀ value, (r.silentFrom a lanes value).All (r.Respects a) :=
      ih fun k hk => hlanes k (List.mem_cons_of_mem _ hk)
    -- the floating lines are no target
    have hfloating : ∀ address, r.Respects a (.floating address) := fun _ _ h => nomatch h
    unfold silentFrom
    dsimp only
    rw [show r.table.entryFor? (r.lane a i).address = some entry from hgrants.mapped]
    dsimp only
    split
    · split
      · split
        · exact ⟨touches_of_silent hi hgrants rfl rfl rfl, fun _ => hrest value⟩
        · exact hrest value
      · -- first a look at the target, where it takes looks, then perhaps the floating lines
        refine Requests.All.bind ?_ ?_
        · cases entry.capabilities.peek with
          | false => trivial
          | true => exact ⟨touches_of_silent hi hgrants rfl rfl rfl, fun _ => trivial⟩
        · rintro (_ | byte)
          · exact ⟨hfloating _, fun _ => hrest _⟩
          · exact hrest _
    · trivial

/-! ## Whole accesses -/

/-- The bytes of an access, as a list of lanes. -/
theorem grantsAll_iff_laneNumbers (r : Routing) (a : Access) :
    r.GrantsAll a ↔ ∀ i ∈ a.laneNumbers, ∃ entry, r.Grants a.intent (r.byteAddress a i) entry := by
  simp only [GrantsAll, Access.laneNumbers, List.mem_range]

/-- A tree of requests that respects the pages of an access, and completes it only where all of its
bytes are granted. -/
structure KeepsTo (r : Routing) (a : Access) (tree : Requests (Except Fault Completed)) :
    Prop where
  asks : tree.All (r.Respects a)
  ends : tree.Ends fun result => ∀ c, result = .ok c → r.GrantsAll a

theorem keepsTo_error (r : Routing) (a : Access) (fault : Fault) :
    r.KeepsTo a (.done (.error fault)) :=
  ⟨trivial, fun _ h => nomatch h⟩

/-- Where all bytes are granted, an access may succeed. -/
theorem keepsTo_of_grantsAll {tree : Requests (Except Fault Completed)}
    (h : tree.All (r.Respects a) ∧ r.GrantsAll a) : r.KeepsTo a tree := by
  refine ⟨h.1, ?_⟩
  induction tree with
  | done result => exact fun _ _ => h.2
  | ask request next ih => exact fun reply => ih reply ⟨h.1.2 reply, h.2⟩

/-- A decomposed access touches what it is granted, and succeeds only if it is granted everything. -/
theorem keepsTo_decompose (r : Routing) (a : Access) : r.KeepsTo a (r.decompose .checked a) := by
  refine ⟨r.lanesFrom_respects a (fun i hi => List.mem_range.1 hi) 0 0, ?_⟩
  refine (r.lanesFrom_ends_granted a a.laneNumbers 0 0).mono fun result h c hc => ?_
  exact (r.grantsAll_iff_laneNumbers a).2 (h c hc)

theorem keepsTo_noticed (r : Routing) (a : Access) : r.KeepsTo a (r.noticed .checked a) := by
  unfold noticed
  cases hentry : r.resolve .checked a with
  | error fault => exact r.keepsTo_error a fault
  | ok entry =>
    dsimp only
    split_ifs with hbyte
    · -- one byte
      exact keepsTo_of_grantsAll (whole_respects hentry (room_of_byte hbyte))
    · -- misaligned
      exact r.keepsTo_error a _
    · cases hroute : r.route a entry with
      | wide => exact keepsTo_of_grantsAll (whole_respects hentry (room_of_wide hroute))
      | lanes => exact r.keepsTo_decompose a

theorem keepsTo_silent (h : a.intent.isDebug = false) : r.KeepsTo a (r.silent .checked a) := by
  unfold silent
  rw [if_pos ⟨rfl, by rw [h]; rfl⟩]
  cases hcheck : r.checkLanesFrom a a.laneNumbers with
  | error fault => exact r.keepsTo_error a fault
  | ok _ =>
    have hgranted := grants_of_checkLanesFrom hcheck
    exact keepsTo_of_grantsAll
      ⟨silentFrom_respects (fun i hi => ⟨List.mem_range.1 hi, hgranted i hi⟩) 0,
        (r.grantsAll_iff_laneNumbers a).2 hgranted⟩

/-- Every access but those of a debugger touches what it is granted, and succeeds only if it is granted
everything. -/
theorem keepsTo_execute (h : a.intent.isDebug = false) : r.KeepsTo a (r.execute .checked a) := by
  unfold execute
  split_ifs
  · exact r.keepsTo_noticed a
  · exact keepsTo_silent h

/-- The pages of an access are those of the access as its master asked for it. -/
theorem respects_normalize {request : Request} :
    r.Respects (r.normalize a) request ↔ r.Respects a request := by
  have htouches : ∀ id first, r.Touches (r.normalize a) request id first ↔
      r.Touches a request id first := by
    intro id first
    constructor <;> rintro ⟨hwithin, hgranted⟩ <;>
      exact ⟨by simpa using hwithin, by simpa [byteAddress_normalize] using hgranted⟩
  simp only [Respects, htouches]

theorem grantsAll_normalize : r.GrantsAll (r.normalize a) ↔ r.GrantsAll a := by
  simp only [GrantsAll, byteAddress_normalize, normalize_width, normalize_intent]

end Routing

namespace Bus

variable {ω δ γ : Type} [Device δ ω] [Card γ δ ω]

/-- No master other than the debugger gets past the permissions of the pages, with whatever width,
flags and alignment. Each request makes its target touch bytes of the access whose own pages lead
to that target, allow the direction and, where a fetch must be from executable pages, are executable.
When the access completes, all its bytes lie in such pages. -/
theorem access_respects_pages (bus : Bus ω δ γ) (a : Access) (h : a.intent.isDebug = false) :
    (∀ request ∈ bus.requests a, ∀ id, request.target? = some id →
      ∃ first, bus.routing.Touches a request id first) ∧
      ∀ outcome, (bus.access a).1 = .ok outcome →
        ∀ i < a.width.bytes, ∃ entry,
          bus.routing.Grants a.intent (bus.routing.byteAddress a i) entry := by
  have hkeeps := Routing.keepsTo_execute (r := bus.routing) (a := bus.routing.normalize a)
    (by rw [Routing.normalize_intent]; exact h)
  -- the bus asks for the access in normal form, which has the same bytes
  refine ⟨fun request hrequest => ?_, fun outcome hok => ?_⟩
  · exact Routing.respects_normalize.1 (Requests.of_mem_asked hkeeps.asks hrequest)
  · have hend := Requests.run_of_ends hkeeps.ends answer bus
    have hresult : ((bus.routing.checked a).run answer bus).1.map Completed.outcome =
      .ok outcome := hok
    cases hrun : ((bus.routing.checked a).run answer bus).1 with
    | error fault =>
      rw [hrun] at hresult
      cases hresult
    | ok c => exact Routing.grantsAll_normalize.1 (hend c hrun)

/-- A bus of two pages in native mode that enforces execution: RAM that may be executed, and ROM
above it. -/
def ramBelowRom : Bus Bench.Host Bench.Instrument Bench.TestCard where
  config := ⟨⟨9, 8⟩, .native, true, false, false, .constant 0xFF⟩
  table := ⟨⟨9, 8⟩,
    #[some ⟨⟨1⟩, .ram, .full, .memory, ⟨0⟩, 0⟩, some ⟨⟨2⟩, .rom, .readExecute, .memory, ⟨1⟩, 0⟩]⟩
  targets := #[.part (.ram ⟨#[0x60]⟩), .part (.rom ⟨Array.replicate 256 0xEA⟩)]
  diagnostics := .zero
  backplane :=
    { floating := .constant 0xFF, overrides := #[], host := {}, banked := #[], rack := .empty 7 }

/-- A fetch that begins at the last byte of the space and goes on at the first. -/
def fetchAroundTheEnd : Access := .read 0x1FF .word .instructionFetch

/-- Each byte of a fetch around the end is asked for through its own page. -/
theorem access_respects_pages_aroundTheEnd :
    fetchAroundTheEnd.intent.isDebug = false ∧
      (ramBelowRom.requests fetchAroundTheEnd).map Request.target? = [some ⟨1⟩, some ⟨0⟩] ∧
      (ramBelowRom.access fetchAroundTheEnd).1 = .ok ⟨0xEA60, 2⟩ ∧
      (∀ request ∈ ramBelowRom.requests fetchAroundTheEnd, ∀ id, request.target? = some id →
        ∃ first, ramBelowRom.routing.Touches fetchAroundTheEnd request id first) ∧
      ∀ i < 2, ∃ entry, ramBelowRom.routing.Grants .instructionFetch
        (ramBelowRom.routing.byteAddress fetchAroundTheEnd i) entry := by
  have hmaster : fetchAroundTheEnd.intent.isDebug = false := rfl
  have hok : (ramBelowRom.access fetchAroundTheEnd).1 = .ok ⟨0xEA60, 2⟩ := by decide +kernel
  obtain ⟨hrequests, hcovered⟩ := access_respects_pages ramBelowRom fetchAroundTheEnd hmaster
  exact ⟨hmaster, by decide +kernel, hok, hrequests, hcovered _ hok⟩

end Bus

end Motherboard
