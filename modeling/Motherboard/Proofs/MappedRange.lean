import Motherboard.Proofs.AddressSpace
import Motherboard.Proofs.FreshMachine
import Motherboard.Proofs.MappingCalls
import Motherboard.Proofs.PagePermissions

/-!
# Ranges of pages

A range of pages is mapped to consecutive parts of one target. To a bus master the pages of the range are
one piece of the target: an address of the range leads to the device offset that lies above the base of the
entry by as much as the address lies above the base of the first page (`leads?_of_mapRange`).

What the bus asks its targets follows the pages of the bytes, whatever the access and the way it takes
(`execute_follows`). One wide cycle is routed by its first byte, but it stays in one page; byte cycles,
looks and pokes are routed one by one. So the target of a range is asked for consecutive device offsets also
where an access goes from one page of the range to the next one. Only from the end of the bus to its start
no range goes on.

* `Routing.execute_follows` — every request goes where the pages of its bytes lead.
* `Bus.showsRange_of_mapRange` — what mapping a range leaves.
* `Bus.pages_of_isSupported` — this with the arithmetic of pages, from the check of a geometry.
-/

namespace Motherboard

namespace Geometry

/-- The address lies in one of `count` pages from page `first` on. -/
def LiesIn (g : Geometry) (first count : Nat) (address : UInt32) : Prop :=
  first ≤ g.pageIndex address ∧ g.pageIndex address < first + count

/-- How far the address, as the bus sees it, lies above the base of a page. -/
def distance (g : Geometry) (first : Nat) (address : UInt32) : UInt32 :=
  (address &&& g.addressMask) - g.pageBase first

/-- The access lies in these pages: it starts in one of them, and it ends with the last one at the latest. -/
structure Encloses (g : Geometry) (first count : Nat) (a : Access) : Prop where
  start : g.LiesIn first count a.address
  room : (a.address &&& g.addressMask).toNat + a.width.bytes ≤ (first + count) * g.pageSize.toNat

variable {g : Geometry} {address : UInt32} {first count i : Nat}

/-- Lines that the bus does not have do not decide where an address lies. -/
@[simp] theorem liesIn_and_addressMask :
    g.LiesIn first count (address &&& g.addressMask) ↔ g.LiesIn first count address := by
  rw [LiesIn, LiesIn, pageIndex_and_addressMask]

@[simp] theorem distance_and_addressMask (g : Geometry) (first : Nat) (address : UInt32) :
    g.distance first (address &&& g.addressMask) = g.distance first address := by
  rw [distance, distance, and_addressMask_and_addressMask]

/-- The distance from the base of a page is made up of the pages after it and the place in the last one. -/
theorem mul_pageSize_add_pageOffset (h : g.isSupported = true)
    (hpage : g.pageIndex address = first + i) :
    i.toUInt32 * g.pageSize + g.pageOffset address = g.distance first address := by
  have hfirst : first < g.pageCount := by
    have hlt := pageIndex_lt h address
    omega
  have hbase := toNat_pageBase h hfirst
  rw [pageIndex_eq_div] at hpage
  -- the distance in pages and the place in the page add up to the distance in bytes
  have hsum := g.toNat_distance rfl hpage
  rw [pageOffset_and_addressMask h] at hsum
  have hle : g.pageBase first ≤ address &&& g.addressMask := UInt32.le_iff_toNat_le.2 (by omega)
  apply UInt32.toNat_inj.1
  rw [distance, UInt32.toNat_sub_of_le _ _ hle]
  omega

/-- Counting on from an address, short of the end of the bus. -/
theorem add_and_addressMask (h : g.isSupported = true)
    (hlt : (address &&& g.addressMask).toNat + i < 2 ^ g.addressBits.toNat) :
    (address + i.toUInt32) &&& g.addressMask = (address &&& g.addressMask) + i.toUInt32 := by
  have hspace := space_le h
  have hsum : ((address &&& g.addressMask) + i.toUInt32).toNat =
      (address &&& g.addressMask).toNat + i := by
    rw [UInt32.toNat_add, toNat_toUInt32 (by omega), Nat.mod_eq_of_lt (by omega)]
  rw [← and_addressMask_add, and_addressMask_of_le h ((le_addressMask_iff h).2 (by omega))]

/-- Short of the end of the address space, distances grow with addresses. -/
theorem distance_add (h : g.isSupported = true)
    (hlt : (address &&& g.addressMask).toNat + i < 2 ^ g.addressBits.toNat) (first : Nat) :
    g.distance first (address + i.toUInt32) = g.distance first address + i.toUInt32 := by
  rw [distance, distance, add_and_addressMask h hlt, UInt32.sub_eq_add_neg, UInt32.sub_eq_add_neg,
    UInt32.add_assoc, UInt32.add_comm i.toUInt32, ← UInt32.add_assoc]

/-- Counting on from an address of a range stays in the range, short of its end. -/
theorem LiesIn.add (h : g.isSupported = true) (hin : g.LiesIn first count address)
    (hroom : first + count ≤ g.pageCount)
    (hlt : (address &&& g.addressMask).toNat + i < (first + count) * g.pageSize.toNat) :
    g.LiesIn first count (address + i.toUInt32) := by
  have hspace : (first + count) * g.pageSize.toNat ≤ 2 ^ g.addressBits.toNat := by
    rw [← pageCount_mul_pageSize h]
    exact Nat.mul_le_mul_right _ hroom
  have hword := space_le h
  -- the range ends on the bus, so that the sum does not wrap
  have hsum : ((address + i.toUInt32) &&& g.addressMask).toNat =
      (address &&& g.addressMask).toNat + i := by
    rw [add_and_addressMask h (by omega), UInt32.toNat_add, toNat_toUInt32 (by omega),
      Nat.mod_eq_of_lt (by omega)]
  unfold LiesIn at hin ⊢
  rw [pageIndex_eq_div, hsum]
  rw [pageIndex_eq_div] at hin
  exact ⟨hin.1.trans (Nat.div_le_div_right (by omega)),
    (Nat.div_lt_iff_lt_mul g.toNat_pageSize_pos).2 hlt⟩

end Geometry

/-! ## Requests and the pages of their bytes -/

namespace Routing

/-- What the target `id` touches on a request are bytes `first`, `first + 1`, … of the access. The page
of each of them leads to the target and to the device offset touched. -/
structure LeadsTouch (r : Routing) (a : Access) (request : Request) (id : TargetId) (first : Nat) :
    Prop where
  within : first + request.byteCount ≤ a.width.bytes
  led : ∀ j < request.byteCount, ∃ entry,
    r.table.entryFor? (r.byteAddress a (first + j)) = some entry ∧ entry.target = id ∧
      request.offset?.map (· + j.toUInt32) =
        some (r.deviceOffset entry (r.byteAddress a (first + j)))

/-- A request has no target touch a byte of the access that the byte's own page does not lead to. -/
def Follows (r : Routing) (a : Access) (request : Request) : Prop :=
  ∀ id, request.target? = some id → ∃ first, r.LeadsTouch a request id first

variable {r : Routing} {a b : Access} {entry : PageEntry} {checking : Checking}

/-- A device cycle of `b`, which covers the bytes of `a` from `first` on, asks the target of its page at
the device offset of its address. -/
theorem dispatch_follows (first : Nat) (hwithin : first + b.width.bytes ≤ a.width.bytes)
    (hled : ∀ j < b.width.bytes, r.table.entryFor? (r.byteAddress a (first + j)) = some entry ∧
      r.deviceOffset entry (r.byteAddress a (first + j)) =
        r.deviceOffset entry b.address + j.toUInt32) :
    (r.dispatch entry b).All (r.Follows a) := by
  -- A read and a write reach the same bytes, so that one argument serves both.
  have hfollows : ∀ request : Request, request.byteCount = b.width.bytes →
      request.target? = some entry.target →
      request.offset? = some (r.deviceOffset entry b.address) → r.Follows a request := by
    intro request hcount htarget hfrom id hid
    rw [htarget] at hid
    cases hid
    refine ⟨first, by rw [hcount]; exact hwithin, fun j hj => ?_⟩
    rw [hcount] at hj
    obtain ⟨hentry, hoffset⟩ := hled j hj
    refine ⟨entry, hentry, rfl, ?_⟩
    rw [hfrom, hoffset]
    rfl
  unfold dispatch
  dsimp only
  split_ifs
  · refine ⟨hfollows _ rfl rfl rfl, ?_⟩
    rintro (e | _) <;> trivial
  · refine ⟨hfollows _ rfl rfl rfl, ?_⟩
    rintro (e | value) <;> trivial
  · trivial

/-- One cycle of the full width stays in the page that it is routed by. -/
theorem whole_follows (hsupported : r.table.geometry.isSupported = true)
    (hentry : r.table.entryFor? a.address = some entry)
    (hroom : (r.table.geometry.pageOffset a.address).toNat + a.width.bytes ≤
      r.table.geometry.pageSize.toNat) :
    (r.whole entry a).All (r.Follows a) := by
  refine Requests.All.map (dispatch_follows 0 (by omega) fun j hj => ?_)
  rw [Nat.zero_add]
  refine ⟨?_, deviceOffset_byteAddress hsupported hroom hj⟩
  have hpage : r.table.geometry.pageIndex (r.byteAddress a j) =
      r.table.geometry.pageIndex a.address :=
    Geometry.pageIndex_and_addressMask_add (by omega)
  rw [PageTable.entryFor?, hpage]
  exact hentry

/-- A byte cycle reaches the byte its page leads to. -/
theorem byteCycle_follows {i : Nat} (hi : i < a.width.bytes) :
    (r.byteCycle checking (r.lane a i)).All (r.Follows a) := by
  unfold byteCycle
  cases hentry : r.resolve checking (r.lane a i) with
  | error fault => trivial
  | ok entry =>
    have hled := entryFor?_of_resolve hentry
    -- the lane covers one byte only
    have hnone : ∀ j < (r.lane a i).width.bytes, j = 0 := fun j hj => Nat.lt_one_iff.1 hj
    refine dispatch_follows i hi fun j hj => ⟨?_, ?_⟩
    · rw [hnone j hj]
      exact hled
    · rw [hnone j hj]
      exact (UInt32.add_zero _).symm

/-- A decomposed access reaches one such byte for each lane. -/
theorem lanesFrom_follows {lanes : List Nat} (hlanes : ∀ i ∈ lanes, i < a.width.bytes)
    (value cycles : UInt32) : (r.lanesFrom checking a lanes value cycles).All (r.Follows a) := by
  induction lanes generalizing value cycles with
  | nil => trivial
  | cons i lanes ih =>
    refine (byteCycle_follows (hlanes i List.mem_cons_self)).bind ?_
    rintro (fault | ⟨byte, cost⟩)
    · trivial
    · exact ih (fun k hk => hlanes k (List.mem_cons_of_mem _ hk)) _ _

/-- A look or a poke goes where the page of its byte leads. -/
theorem follows_of_one {request : Request} {i : Nat} (hi : i < a.width.bytes)
    (hentry : r.table.entryFor? (r.byteAddress a i) = some entry) (hcount : request.byteCount = 1)
    (htarget : request.target? = some entry.target)
    (hoffset : request.offset? = some (r.deviceOffset entry (r.byteAddress a i))) :
    r.Follows a request := by
  intro id hid
  rw [htarget] at hid
  cases hid
  refine ⟨i, by omega, fun j hj => ?_⟩
  obtain rfl : j = 0 := by omega
  refine ⟨entry, hentry, rfl, ?_⟩
  rw [hoffset]
  exact congrArg some (UInt32.add_zero _)

theorem silentFrom_follows {lanes : List Nat} (hlanes : ∀ i ∈ lanes, i < a.width.bytes)
    (value : UInt32) : (r.silentFrom a lanes value).All (r.Follows a) := by
  induction lanes generalizing value with
  | nil => trivial
  | cons i lanes ih =>
    have hi := hlanes i List.mem_cons_self
    have hrest : ∀ value, (r.silentFrom a lanes value).All (r.Follows a) :=
      ih fun k hk => hlanes k (List.mem_cons_of_mem _ hk)
    -- the floating lines are no target
    have hfloating : ∀ address, r.Follows a (.floating address) := fun _ _ h => nomatch h
    unfold silentFrom
    dsimp only
    cases hentry : r.table.entryFor? (r.lane a i).address with
    | none => trivial
    | some entry =>
      dsimp only
      split
      · split
        · split
          · exact ⟨follows_of_one hi hentry rfl rfl rfl, fun _ => hrest value⟩
          · exact hrest value
        · refine Requests.All.bind ?_ ?_
          · cases entry.capabilities.peek with
            | false => trivial
            | true => exact ⟨follows_of_one hi hentry rfl rfl rfl, fun _ => trivial⟩
          · rintro (_ | byte)
            · exact ⟨hfloating _, fun _ => hrest _⟩
            · exact hrest _
      · trivial

/-- An access with side effects reaches each byte where its page is mapped to; a wide cycle stays inside
one page, where offsets are consecutive. -/
theorem noticed_follows (hsupported : r.table.geometry.isSupported = true) :
    (r.noticed checking a).All (r.Follows a) := by
  unfold noticed
  cases hresolve : r.resolve checking a with
  | error fault => trivial
  | ok entry =>
    have hentry := entryFor?_of_resolve hresolve
    dsimp only
    split_ifs with hbyte
    · exact whole_follows hsupported hentry (room_of_byte hbyte)
    · -- misaligned: nothing is asked for
      trivial
    · cases hroute : r.route a entry with
      | wide => exact whole_follows hsupported hentry (room_of_wide hroute)
      | lanes => exact lanesFrom_follows (fun i hi => List.mem_range.1 hi) 0 0

/-- A silent access checks its lanes and then reaches them. -/
theorem silent_follows : (r.silent checking a).All (r.Follows a) := by
  have hlanes := silentFrom_follows (r := r) (a := a) (fun i hi => List.mem_range.1 hi) 0
  unfold silent
  split_ifs
  · cases r.checkLanesFrom a a.laneNumbers with
    | error fault => trivial
    | ok _ => exact hlanes
  · exact hlanes

/-- Whatever is asked on an access, checked or not and noticed or not, goes where the pages of its own
bytes lead. -/
theorem execute_follows (hsupported : r.table.geometry.isSupported = true) (checking : Checking)
    (a : Access) : (r.execute checking (r.normalize a)).All (r.Follows a) := by
  have hsame : ∀ request, r.Follows (r.normalize a) request → r.Follows a request := by
    intro request h id hid
    obtain ⟨first, hwithin, hled⟩ := h id hid
    exact ⟨first, by simpa using hwithin, by simpa [byteAddress_normalize] using hled⟩
  refine Requests.All.mono hsame ?_
  unfold execute
  split_ifs
  · exact noticed_follows hsupported
  · exact silent_follows

end Routing

/-- A request that names a target reaches at least one byte of it. -/
theorem Request.byteCount_pos {request : Request} {id : TargetId} (h : request.target? = some id) :
    0 < request.byteCount := by
  cases request with
  | read _ width _ _ => exact width.bytes_pos
  | write _ width _ _ _ => exact width.bytes_pos
  | peek _ _ => exact Nat.one_pos
  | poke _ _ _ => exact Nat.one_pos
  | floating _ => cases h

namespace Bus

variable {ω δ γ : Type} {bus after : Bus ω δ γ} {first count : Nat} {entry : PageEntry}

/-- What is touched on a request is where the bus leads the addresses of the bytes. -/
theorem leads?_of_leadsTouch {a : Access} {request : Request} {id : TargetId} {k j : Nat}
    (h : bus.routing.LeadsTouch a request id k) (hj : j < request.byteCount) :
    bus.leads? (a.address + (k + j).toUInt32) =
      request.offset?.map fun offset => (id, offset + j.toUInt32) := by
  obtain ⟨found, hfound, rfl, hoffset⟩ := h.led j hj
  obtain ⟨offset, hfrom, hplace⟩ := Option.map_eq_some_iff.1 hoffset
  rw [hfrom, Option.map_some, hplace]
  exact Option.map_eq_some_iff.2 ⟨found, hfound, rfl⟩

/-- Whatever is asked for the bytes of an access is asked where their addresses lead. -/
theorem requests_lead (hsupported : bus.table.geometry.isSupported = true) (checking : Checking)
    (a : Access) : (bus.routing.execute checking (bus.routing.normalize a)).All fun request =>
      ∀ id, request.target? = some id → ∃ k, k + request.byteCount ≤ a.width.bytes ∧
        ∀ j < request.byteCount, bus.leads? (a.address + (k + j).toUInt32) =
          request.offset?.map fun offset => (id, offset + j.toUInt32) := by
  refine (Routing.execute_follows hsupported checking a).mono fun request hrequest id hid => ?_
  obtain ⟨k, htouch⟩ := hrequest id hid
  exact ⟨k, htouch.within, fun j hj => leads?_of_leadsTouch htouch hj⟩

/-- An access whose bytes lie at consecutive offsets of one target has this target asked for them, and no
other one. -/
theorem requests_consecutive (hsupported : bus.table.geometry.isSupported = true)
    (checking : Checking) {a : Access} {target : TargetId} {start : UInt32}
    (hbytes : ∀ i < a.width.bytes,
      bus.leads? (a.address + i.toUInt32) = some (target, start + i.toUInt32)) :
    (bus.routing.execute checking (bus.routing.normalize a)).All fun request =>
      ∀ id, request.target? = some id → id = target ∧
        ∃ k, k + request.byteCount ≤ a.width.bytes ∧ request.offset? = some (start + k.toUInt32) := by
  refine (requests_lead hsupported checking a).mono fun request hrequest id hid => ?_
  obtain ⟨k, hwithin, hled⟩ := hrequest id hid
  have hpos := Request.byteCount_pos hid
  -- the request begins with byte `k` of the access
  have hfirst := (hled 0 hpos).symm.trans (hbytes k (by omega))
  obtain ⟨offset, hfrom, hplace⟩ := Option.map_eq_some_iff.1 hfirst
  rw [Prod.mk.injEq] at hplace
  refine ⟨hplace.1, k, hwithin, ?_⟩
  rw [hfrom, ← hplace.2]
  exact congrArg some (UInt32.add_zero offset).symm

/-! ## Mapped ranges -/

/-- Mapping a range keeps the geometry of the pages. -/
theorem geometry_of_mapRange (h : bus.mapRange first count entry = .ok after) :
    after.table.geometry = bus.table.geometry := by
  obtain ⟨-, -, rfl⟩ := mapRange_eq_ok_iff.1 h
  exact PageTable.geometry_fill _ _ _ _

/-- Mapping a range leaves a table of the same geometry. -/
theorem isTableOf_of_mapRange {g : Geometry} (htable : bus.table.IsTableOf g)
    (h : bus.mapRange first count entry = .ok after) : after.table.IsTableOf g := by
  refine ⟨(geometry_of_mapRange h).trans htable.geometry, ?_⟩
  obtain ⟨-, -, rfl⟩ := mapRange_eq_ok_iff.1 h
  exact (PageTable.pageCount_fill _ _ _ _).trans htable.pages

/-- The entry of an address of a mapped range leads to the target of the range, as far above its base as
the address lies above the base of the first page. -/
theorem exists_entry_of_mapRange (hsupported : bus.table.geometry.isSupported = true)
    (h : bus.mapRange first count entry = .ok after) {address : UInt32}
    (hin : bus.table.geometry.LiesIn first count address) :
    ∃ found, after.table.entryFor? address = some found ∧ found.target = entry.target ∧
      after.routing.deviceOffset found address =
        entry.base + bus.table.geometry.distance first address := by
  obtain ⟨-, ⟨-, -, hroom⟩, rfl⟩ := mapRange_eq_ok_iff.1 h
  obtain ⟨i, hi⟩ := Nat.exists_eq_add_of_le hin.1
  have hcount : i < count := by
    have hend := hin.2
    omega
  -- page `i` of the range
  refine ⟨{ entry with base := entry.base + i.toUInt32 * bus.table.geometry.pageSize }, ?_, rfl, ?_⟩
  · rw [PageTable.entryFor?, PageTable.geometry_fill, hi]
    exact PageTable.get?_fill hcount hroom entry
  · unfold Routing.deviceOffset routing
    dsimp only
    rw [PageTable.geometry_fill, UInt32.add_assoc,
      Geometry.mul_pageSize_add_pageOffset hsupported hi]

/-- An address in the range leads as far into the target as it is into the range. -/
theorem leads?_of_mapRange (hsupported : bus.table.geometry.isSupported = true)
    (h : bus.mapRange first count entry = .ok after) {address : UInt32}
    (hin : bus.table.geometry.LiesIn first count address) :
    after.leads? address =
      some (entry.target, entry.base + bus.table.geometry.distance first address) := by
  obtain ⟨found, hfound, htarget, hoffset⟩ :=
    exists_entry_of_mapRange hsupported h (Geometry.liesIn_and_addressMask.2 hin)
  unfold leads?
  dsimp only
  rw [geometry_of_mapRange h, hfound, Option.map_some, htarget, hoffset,
    Geometry.distance_and_addressMask]

/-- The bytes of an access inside a mapped range lie at consecutive offsets. -/
theorem leads?_add_of_mapRange (hsupported : bus.table.geometry.isSupported = true)
    (hpages : bus.table.pageCount = bus.table.geometry.pageCount)
    (h : bus.mapRange first count entry = .ok after) {a : Access}
    (ha : bus.table.geometry.Encloses first count a) {i : Nat} (hi : i < a.width.bytes) :
    after.leads? (a.address + i.toUInt32) = some (entry.target,
      entry.base + bus.table.geometry.distance first a.address + i.toUInt32) := by
  obtain ⟨-, ⟨-, -, hroom⟩, -⟩ := mapRange_eq_ok_iff.1 h
  have hend := ha.room
  -- the range ends with the space at the latest, so that counting on does not get around its end
  have hspace : (first + count) * bus.table.geometry.pageSize.toNat ≤
      2 ^ bus.table.geometry.addressBits.toNat := by
    rw [← Geometry.pageCount_mul_pageSize hsupported, ← hpages]
    exact Nat.mul_le_mul_right _ hroom
  have hin := ha.start.add hsupported (i := i) (by omega) (by omega)
  rw [leads?_of_mapRange hsupported h hin, Geometry.distance_add hsupported (by omega),
    UInt32.add_assoc]

/-- A device cycle at an address of a mapped range asks the target of the range. -/
theorem exists_request_of_mapRange (hsupported : bus.table.geometry.isSupported = true)
    (h : bus.mapRange first count entry = .ok after) {checking : Checking} {b : Access}
    {found : PageEntry} (hin : bus.table.geometry.LiesIn first count b.address)
    (hresolve : after.routing.resolve checking b = .ok found) :
    ∃ request next, after.routing.dispatch found b = .ask request next ∧
      request.target? = some entry.target ∧ request.byteCount = b.width.bytes ∧
        request.offset? = some (entry.base + bus.table.geometry.distance first b.address) := by
  obtain ⟨other, hother, htarget, hoffset⟩ := exists_entry_of_mapRange hsupported h hin
  have hsame : some found = some other := (Routing.entryFor?_of_resolve hresolve).symm.trans hother
  cases hsame
  -- ranges are mapped to targets of the bus only
  have hregistered : found.target.index < after.routing.targets := by
    rw [htarget]
    obtain ⟨hindex, -, rfl⟩ := mapRange_eq_ok_iff.1 h
    exact hindex
  rw [← htarget, ← hoffset]
  unfold Routing.dispatch
  dsimp only
  rw [if_pos hregistered]
  split_ifs
  · exact ⟨_, _, rfl, rfl, rfl, rfl⟩
  · exact ⟨_, _, rfl, rfl, rfl, rfl⟩

/-- The pages `first`, `first + 1`, … are one piece of the target of an entry. -/
structure ShowsRange (bus : Bus ω δ γ) (first count : Nat) (entry : PageEntry) : Prop where
  /-- Every address of the range leads to the target, as far above the base of the entry as it lies above
  the base of the first page. -/
  leads : ∀ address, bus.table.geometry.LiesIn first count address →
    bus.leads? address =
      some (entry.target, entry.base + bus.table.geometry.distance first address)
  /-- A device cycle at such an address asks the target at this offset. -/
  dispatched : ∀ checking b found, bus.table.geometry.LiesIn first count b.address →
    bus.routing.resolve checking b = .ok found →
      ∃ request next, bus.routing.dispatch found b = .ask request next ∧
        request.target? = some entry.target ∧ request.byteCount = b.width.bytes ∧
          request.offset? = some (entry.base + bus.table.geometry.distance first b.address)
  /-- Whatever the access is and whichever way it takes, what is asked for its bytes is asked where their
  addresses lead. -/
  requests : ∀ checking a, (bus.routing.execute checking (bus.routing.normalize a)).All fun request =>
    ∀ id, request.target? = some id → ∃ k, k + request.byteCount ≤ a.width.bytes ∧
      ∀ j < request.byteCount, bus.leads? (a.address + (k + j).toUInt32) =
        request.offset?.map fun offset => (id, offset + j.toUInt32)
  /-- An access inside the range finds its bytes at consecutive offsets, across the pages of the range. -/
  consecutive : ∀ a, bus.table.geometry.Encloses first count a → ∀ i < a.width.bytes,
    bus.leads? (a.address + i.toUInt32) = some (entry.target,
      entry.base + bus.table.geometry.distance first a.address + i.toUInt32)
  /-- There its target is asked for them, and no other target is asked. -/
  asked : ∀ checking a, bus.table.geometry.Encloses first count a →
    (bus.routing.execute checking (bus.routing.normalize a)).All fun request =>
      ∀ id, request.target? = some id → id = entry.target ∧
        ∃ k, k + request.byteCount ≤ a.width.bytes ∧ request.offset? =
          some (entry.base + bus.table.geometry.distance first a.address + k.toUInt32)

/-- After a range is mapped, it shows the target, byte for byte. -/
theorem showsRange_of_mapRange (hsupported : bus.table.geometry.isSupported = true)
    (hpages : bus.table.pageCount = bus.table.geometry.pageCount)
    (h : bus.mapRange first count entry = .ok after) : after.ShowsRange first count entry := by
  have hgeometry := geometry_of_mapRange h
  have hafter : after.table.geometry.isSupported = true := by rw [hgeometry]; exact hsupported
  -- stated once on the bus after the mapping, since the last part needs it too
  have hconsecutive : ∀ a, after.table.geometry.Encloses first count a → ∀ i < a.width.bytes,
      after.leads? (a.address + i.toUInt32) = some (entry.target,
        entry.base + after.table.geometry.distance first a.address + i.toUInt32) := by
    rw [hgeometry]
    exact fun a ha i hi => leads?_add_of_mapRange hsupported hpages h ha hi
  refine ⟨?_, ?_, requests_lead hafter, hconsecutive, ?_⟩
  · rw [hgeometry]
    exact fun address hin => leads?_of_mapRange hsupported h hin
  · rw [hgeometry]
    exact fun checking b found hin hresolve => exists_request_of_mapRange hsupported h hin hresolve
  · exact fun checking a ha => requests_consecutive hafter checking (hconsecutive a ha)

/-- **Pages are exact.** On a supported geometry every address of the bus is one place in one page, and a
range that is mapped shows consecutive bytes of its target across the borders of its pages. -/
theorem pages_of_isSupported {g : Geometry} (hsupported : g.isSupported = true) :
    g.IsExact ∧ ∀ (bus after : Bus ω δ γ) (first count : Nat) (entry : PageEntry),
      bus.table.IsTableOf g → bus.mapRange first count entry = .ok after →
        after.table.IsTableOf g ∧ after.ShowsRange first count entry := by
  refine ⟨Geometry.isExact_of_isSupported hsupported, ?_⟩
  intro bus after first count entry htable h
  obtain rfl := htable.geometry
  exact ⟨isTableOf_of_mapRange htable h, showsRange_of_mapRange hsupported htable.pages h⟩

/-- A piece of ROM that starts below the largest device offset and goes on from the smallest one. -/
def romAround : PageEntry :=
  ⟨⟨2⟩, .rom, .readExecute, .memory, ⟨1⟩, 0xFFFFFF01⟩

/-- A fetch that begins in one page of the piece goes on in the next one. -/
theorem pages_of_isSupported_romAround :
    (⟨9, 8⟩ : Geometry).isSupported = true ∧ (⟨9, 8⟩ : Geometry).IsExact ∧
      ∃ after, ramBelowRom.mapRange 0 2 romAround = .ok after ∧ after.ShowsRange 0 2 romAround ∧
        (after.requests (.read 0xFF .word .instructionFetch)).map Request.offset? =
          [some 0, some 1] := by
  have hsupported : (⟨9, 8⟩ : Geometry).isSupported = true := by decide
  obtain ⟨hexact, hranges⟩ := pages_of_isSupported (ω := Bench.Host) (δ := Bench.Instrument)
    (γ := Bench.TestCard) hsupported
  refine ⟨hsupported, hexact, _, rfl, (hranges ramBelowRom _ 0 2 _ ⟨rfl, rfl⟩ rfl).2, ?_⟩
  decide +kernel

end Bus

end Motherboard
