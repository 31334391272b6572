import Motherboard.Proofs.Bookkeeping
import Motherboard.Proofs.RoutingPolicy
import Motherboard.Proofs.WellFormedResults

/-!
# Quiet accesses are carried out as a whole or not at all

A quiet access goes byte by byte, and each byte has a page of its own that may refuse it. If the bus
looked at the pages on its way, a refusal could come after the first bytes have been stored. So it goes
through all of them before it touches the first byte: what is refused leaves everything as it was, and
what is not refused does not fail any more.

That the second pass cannot fail is not plain from the routing, which looks at the targets again there.
It rests on the page table: every entry leads to a target of the bus, as long as the bus was built and
used by its calls (`Bus.InUse`).

* `Routing.PageRefuses` — what a page has against an access to one of its bytes.
* `Routing.IsRefusalOf` — the fault that tells of it.
* `Bus.access_allOrNothing` — a quiet access is refused for the first byte that a page refuses, with
  nothing touched, and is completed otherwise.
-/

namespace Motherboard

open Relation (ReflTransGen)

namespace Routing

/-- The page of an address refuses what is done to the byte there: there is no page, or it does not
allow the direction, or it is not executable while that matters. -/
inductive PageRefuses (r : Routing) (intent : Intent) (address : UInt32) : FaultKind → Prop
  | unmapped (hmapped : r.table.entryFor? address = none) : PageRefuses r intent address .unmapped
  | permission {entry : PageEntry} (hmapped : r.table.entryFor? address = some entry)
    (hdirection : entry.permissions.allows intent = false) : PageRefuses r intent address .permission
  | noExecute {entry : PageEntry} (hmapped : r.table.entryFor? address = some entry)
    (hdirection : entry.permissions.allows intent = true) (hfetch : intent.isFetch = true)
    (hactive : r.config.nxActive = true) (hexecute : entry.permissions.execute = false) :
    PageRefuses r intent address .noExecute

/-- The fault tells the master of an access that the page of byte `i` refuses it. The address is that of
the byte, the width that of the access, and nothing has been spent. -/
structure IsRefusalOf (r : Routing) (a : Access) (i : Nat) (fault : Fault) : Prop where
  kind : r.PageRefuses a.intent (r.byteAddress a i) fault.kind
  address : fault.address = r.byteAddress a i
  width : fault.width = a.width
  cycles : fault.cycles = 0
  intent : fault.intent = a.intent
  source : fault.source = a.source
  cycle : fault.cycle = a.cycle
  device : fault.device = (r.table.entryFor? (r.byteAddress a i)).map PageEntry.device
  region : fault.region = (r.table.entryFor? (r.byteAddress a i)).map PageEntry.region

/-- No byte before `i` is refused. -/
def PassesBefore (r : Routing) (a : Access) (i : Nat) : Prop :=
  ∀ j < i, ∀ kind, ¬r.PageRefuses a.intent (r.byteAddress a j) kind

variable {r : Routing} {a : Access} {intent : Intent} {address : UInt32} {i : Nat} {fault : Fault}

/-! ## Bytes that are refused and bytes that are granted -/

/-- A page does not both grant and refuse. -/
theorem not_pageRefuses_of_grants {entry : PageEntry} (h : r.Grants intent address entry)
    (kind : FaultKind) : ¬r.PageRefuses intent address kind := by
  intro hrefuses
  -- each refusal contradicts the part of the grant it is about
  cases hrefuses with
  | unmapped hmapped =>
    rw [h.mapped] at hmapped
    cases hmapped
  | permission hmapped hdirection =>
    obtain rfl := Option.some.inj (h.mapped.symm.trans hmapped)
    exact absurd (hdirection.symm.trans h.direction) Bool.false_ne_true
  | noExecute hmapped _ hfetch hactive hexecute =>
    obtain rfl := Option.some.inj (h.mapped.symm.trans hmapped)
    exact absurd (hexecute.symm.trans (h.execution hfetch hactive)) Bool.false_ne_true

/-- A page that is not passed refuses, and the bus tells its master of that. -/
theorem isRefusalOf_of_resolve (h : r.resolve .checked (r.lane a i) = .error fault) :
    r.IsRefusalOf a i (fault.within a 0) := by
  -- of a lane the bus sees its own address and the intent of the access
  have hintent : (r.lane a i).intent = a.intent := rfl
  have haddress : (r.lane a i).address = r.byteAddress a i := rfl
  unfold resolve at h
  rw [haddress, hintent] at h
  cases hfound : r.table.entryFor? (r.byteAddress a i) with
  | none =>
    rw [hfound] at h
    cases h
    exact ⟨.unmapped hfound, rfl, rfl, rfl, rfl, rfl, rfl, by rw [hfound]; rfl, by rw [hfound]; rfl⟩
  | some entry =>
    -- both checks of a page that is there tell of its owner
    have howner : ∀ kind, r.PageRefuses a.intent (r.byteAddress a i) kind →
        r.IsRefusalOf a i ((pageFault kind entry (r.lane a i)).within a 0) := fun kind hrefuses =>
      ⟨hrefuses, rfl, rfl, rfl, rfl, rfl, rfl, by rw [hfound]; rfl, by rw [hfound]; rfl⟩
    rw [hfound] at h
    dsimp only at h
    split_ifs at h with hdirection hexecution
    · cases h
      exact howner _ (.permission hfound (by simpa using hdirection))
    · cases h
      simp only [Bool.and_eq_true, Bool.not_eq_true'] at hexecution
      obtain ⟨⟨hfetch, hactive⟩, hexecute⟩ := hexecution
      exact howner _ (.noExecute hfound (by simpa using hdirection) hfetch hactive hexecute)

/-- The bus tells the master of the access as it was issued. -/
theorem IsRefusalOf.of_normalize (h : r.IsRefusalOf (r.normalize a) i fault) :
    r.IsRefusalOf a i fault := by
  obtain ⟨hkind, haddress, hwidth, hcycles, hintent, hsource, hcycle, hdevice, hregion⟩ := h
  rw [byteAddress_normalize] at hkind haddress hdevice hregion
  rw [normalize_intent] at hkind hintent
  rw [normalize_width] at hwidth
  rw [normalize_source] at hsource
  rw [normalize_cycle] at hcycle
  exact ⟨hkind, haddress, hwidth, hcycles, hintent, hsource, hcycle, hdevice, hregion⟩

/-! ## The first pass -/

/-- The first pass ends at the first lane that is refused. -/
theorem exists_of_checkLanesFrom {lanes : List Nat} (hsorted : lanes.Pairwise (· < ·))
    (h : r.checkLanesFrom a lanes = .error fault) :
    ∃ i ∈ lanes, r.IsRefusalOf a i fault ∧
      ∀ j ∈ lanes, j < i → ∃ entry, r.Grants a.intent (r.byteAddress a j) entry := by
  induction lanes with
  | nil => cases h
  | cons i lanes ih =>
    -- a lane that passes is one more that is granted before the first refusal
    obtain ⟨habove, hrest⟩ := List.pairwise_cons.1 hsorted
    unfold checkLanesFrom at h
    cases hresolve : r.resolve .checked (r.lane a i) with
    | error refusal =>
      rw [hresolve] at h
      cases h
      refine ⟨i, List.mem_cons_self, isRefusalOf_of_resolve hresolve, fun j hj hlt => ?_⟩
      -- no lane comes before the first one
      rcases List.mem_cons.1 hj with rfl | hj
      · exact absurd hlt (Nat.lt_irrefl j)
      · exact absurd hlt (Nat.not_lt.2 (habove j hj).le)
    | ok entry =>
      rw [hresolve] at h
      obtain ⟨first, hfirst, hrefusal, hbefore⟩ := ih hrest h
      refine ⟨first, List.mem_cons_of_mem i hfirst, hrefusal, fun j hj hlt => ?_⟩
      rcases List.mem_cons.1 hj with rfl | hj
      · exact ⟨entry, grants_of_resolve hresolve⟩
      · exact hbefore j hj hlt

/-- The first pass goes through all bytes of the access, from the lowest on. -/
theorem exists_of_checkLanes (h : r.checkLanesFrom a a.laneNumbers = .error fault) :
    ∃ i < a.width.bytes, r.IsRefusalOf a i fault ∧ r.PassesBefore a i := by
  obtain ⟨i, hi, hrefusal, hbefore⟩ := exists_of_checkLanesFrom List.pairwise_lt_range h
  have hwithin : i < a.width.bytes := List.mem_range.1 hi
  refine ⟨i, hwithin, hrefusal, fun j hj kind => ?_⟩
  obtain ⟨entry, hgrants⟩ := hbefore j (List.mem_range.2 (hj.trans hwithin)) hj
  exact not_pageRefuses_of_grants hgrants kind

/-! ## The second pass -/

/-- When every lane has a page, and the pages lead to targets, all lanes are carried out. -/
theorem silentFrom_ends_ok (h : r.IsRegistered) {lanes : List Nat}
    (hgranted : ∀ i ∈ lanes, ∃ entry, r.Grants a.intent (r.byteAddress a i) entry) (value : UInt32) :
    (r.silentFrom a lanes value).Ends fun result => ∃ c, result = .ok c := by
  induction lanes generalizing value with
  | nil => exact ⟨_, rfl⟩
  | cons i lanes ih =>
    have hrest : ∀ value, (r.silentFrom a lanes value).Ends fun result => ∃ c, result = .ok c :=
      ih fun j hj => hgranted j (List.mem_cons_of_mem i hj)
    -- the first pass found the page, but it did not look for the target
    obtain ⟨entry, hgrants⟩ := hgranted i List.mem_cons_self
    have hfound : r.table.entryFor? (r.lane a i).address = some entry := hgrants.mapped
    have htarget : entry.target.index < r.targets := h _ entry hfound
    unfold silentFrom
    dsimp only
    rw [hfound]
    dsimp only
    rw [if_pos htarget]
    split
    · split_ifs
      · exact fun _ => hrest value
      · exact hrest value
    · -- whether a target drives the byte or the lines float, the next lane follows
      refine Requests.Ends.bind (Requests.ends_true _) ?_
      rintro (_ | byte) -
      · exact fun _ => hrest _
      · exact hrest _

/-! ## Both passes -/

/-- A quiet access of the processor checks all lanes and then looks or pokes. -/
theorem checked_of_quiet (hmaster : a.intent.isDebug = false) (hquiet : a.flags.quiet = true) :
    r.checked a =
      match r.checkLanesFrom (r.normalize a) (r.normalize a).laneNumbers with
      | .error fault => .done (.error fault)
      | .ok () => r.silentFrom (r.normalize a) (r.normalize a).laneNumbers 0 := by
  have hchecks : !(r.normalize a).intent.isDebug := by
    rw [normalize_intent, hmaster]
    rfl
  have hsilent := checked_of_silent (r := r) (Access.sideEffectsAllowed_of_silent (.inr hquiet))
  exact hsilent.trans (if_pos ⟨rfl, hchecks⟩)

/-- Either the first pass refuses the access, before anything is asked, or no byte is refused, and then
nothing fails. -/
theorem checked_cases_of_quiet (h : r.IsRegistered) (hmaster : a.intent.isDebug = false)
    (hquiet : a.flags.quiet = true) :
    (∃ fault, r.checked a = .done (.error fault) ∧
      ∃ i < a.width.bytes, r.IsRefusalOf a i fault ∧ r.PassesBefore a i) ∨
    (r.PassesBefore a a.width.bytes ∧
      (r.checked a).Ends fun result => ∃ c, result = .ok c ∧ c.cycles = 0) := by
  rw [checked_of_quiet hmaster hquiet]
  cases hcheck : r.checkLanesFrom (r.normalize a) (r.normalize a).laneNumbers with
  | error fault =>
    obtain ⟨i, hi, hrefusal, hbefore⟩ := exists_of_checkLanes hcheck
    rw [normalize_width] at hi
    refine .inl ⟨fault, rfl, i, hi, hrefusal.of_normalize, fun j hj kind => ?_⟩
    have hpasses := hbefore j hj kind
    rwa [normalize_intent, byteAddress_normalize] at hpasses
  | ok done =>
    have hgranted := grants_of_checkLanesFrom hcheck
    refine .inr ⟨fun j hj kind => ?_, ?_⟩
    · obtain ⟨entry, hgrants⟩ := hgranted j (by
        rwa [Access.laneNumbers, List.mem_range, normalize_width])
      rw [normalize_intent, byteAddress_normalize] at hgrants
      exact not_pageRefuses_of_grants hgrants kind
    · -- looks and pokes are free of charge
      refine ((silentFrom_ends_ok h hgranted 0).and (silentFrom_ends r _ _ 0)).mono ?_
      rintro result ⟨⟨c, hc⟩, hfree⟩
      exact ⟨c, hc, (hfree c hc).1⟩

end Routing

/-! ## Buses in use -/

namespace Bus

variable {ω γ δ : Type} [Device δ ω] [Card γ δ ω] {bus : Bus ω δ γ} {a : Access}

/-- The bus was built from a configuration and has been used since. To what it shares with others
anything may have happened meanwhile. -/
inductive InUse : Bus ω δ γ → Prop
  | built {config : BusConfig} {slotCount : UInt8} {host : ω} {bus : Bus ω δ γ}
    (h : ofConfig? config slotCount host = .ok bus) : InUse bus
  | used {bus after : Bus ω δ γ} (h : InUse bus) (huse : bus.Use after) : InUse after
  | shared {bus : Bus ω δ γ} (h : InUse bus) (backplane : Backplane ω γ) :
    InUse { bus with backplane := backplane }

/-- Every entry of a bus in use leads to a target. -/
theorem InUse.isRegistered (h : bus.InUse) : bus.routing.IsRegistered := by
  induction h with
  | @built config slotCount host bus hbuilt =>
    unfold ofConfig? at hbuilt
    cases htable : PageTable.ofGeometry? config.geometry with
    | error e =>
      rw [htable] at hbuilt
      cases hbuilt
    | ok table =>
      rw [htable] at hbuilt
      cases hbuilt
      -- the new table has no entries
      unfold PageTable.ofGeometry? at htable
      split_ifs at htable
      cases htable
      exact Routing.isRegistered_of_empty (PageTable.get?_replicate _ _)
  | used _ huse ih => exact huse.isRegistered ih
  | shared _ _ ih => exact ih

end Bus

namespace Machine

variable {ω γ δ : Type} [Device δ ω] [Card γ δ ω] {m built : Machine ω δ γ} {config : MachineConfig}
  {host : ω}

/-- The bus of a machine that was just built is in use. -/
theorem inUse_of_ofConfig? (h : ofConfig? config host = .ok m) : m.bus.InUse := by
  unfold ofConfig? at h
  cases hvalid : config.validate with
  | error e =>
    rw [hvalid] at h
    cases h
  | ok _ =>
    -- the configuration passes its check, and so the bus is built
    cases hbus : (Bus.ofConfig? config.bus config.slotCount host : Except MapError (Bus ω δ γ)) with
    | error e =>
      rw [hvalid, hbus] at h
      cases h
    | ok bus =>
      rw [hvalid, hbus] at h
      cases h
      exact .built hbus

/-- The bus of every machine that has run is in use. -/
theorem inUse_of_run (hbuilt : ofConfig? config host = .ok built)
    (hrun : ReflTransGen TameStep built m) : m.bus.InUse :=
  (bus_of_run (fun huse hbus => hbus.used huse) (fun hbus => hbus.shared _) hbuilt
    (inUse_of_ofConfig? hbuilt) hrun).2

end Machine

/-! ## Quiet accesses -/

namespace Bus

variable {ω γ δ : Type} [Device δ ω] [Card γ δ ω] {bus : Bus ω δ γ} {a : Access}

/-- On a bus in use, a quiet access of a master other than the debugger is refused just when a page
refuses one of its bytes. The fault is that of the first such byte; then no target has been asked for
anything, and all is as before but for the books of the bus and its observer, which do not count it as a
floating byte. Otherwise the access is completed free of charge. -/
theorem access_allOrNothing (hbus : bus.InUse) (hmaster : a.intent.isDebug = false)
    (hquiet : a.flags.quiet = true) :
    ((∃ fault, (bus.access a).1 = .error fault) ↔ ∃ i < a.width.bytes, ∃ kind,
      bus.routing.PageRefuses a.intent (bus.routing.byteAddress a i) kind) ∧
    (∀ fault, (bus.access a).1 = .error fault →
      (∃ i < a.width.bytes, bus.routing.IsRefusalOf a i fault ∧ bus.routing.PassesBefore a i) ∧
      bus.requests a = [] ∧ (bus.access a).2.unobserved = bus.unobserved ∧
      (bus.access a).2.diagnostics.floatingReads = bus.diagnostics.floatingReads) ∧
    ((¬∃ fault, (bus.access a).1 = .error fault) → ∃ value, (bus.access a).1 = .ok ⟨value, 0⟩) := by
  rcases Routing.checked_cases_of_quiet hbus.isRegistered hmaster hquiet with
    ⟨fault, hchecked, i, hi, hrefusal, hbefore⟩ | ⟨hpasses, hends⟩
  · -- refused in the first pass, so the bus has asked for nothing and only keeps books
    have hrefused := isRefused_of_checked hchecked hrefusal.cycles
    have hresult : (bus.access a).1 = .error fault := congrArg Prod.fst hrefused.access
    refine ⟨⟨fun _ => ⟨i, hi, fault.kind, hrefusal.kind⟩, fun _ => ⟨fault, hresult⟩⟩, ?_,
      fun hnone => absurd ⟨fault, hresult⟩ hnone⟩
    intro other hother
    obtain rfl : fault = other := Except.error.inj (hresult.symm.trans hother)
    refine ⟨⟨i, hi, hrefusal, hbefore⟩, hrefused.asks, ?_, ?_⟩
    · rw [hrefused.access]
      exact bus.unobserved_observe _ _
    · rw [hrefused.access]
      exact (bus.diagnostics.kept_recordFault fault).2.2.2
  · -- whatever the targets answer, the second pass ends well
    obtain ⟨c, hc, hfree⟩ := Requests.run_of_ends hends answer bus
    have hresult : (bus.access a).1 = .ok ⟨c.value, 0⟩ := by
      show ((bus.routing.checked a).run answer bus).1.map Completed.outcome = _
      rw [hc, ← hfree]
      rfl
    have hnone : ¬∃ fault, (bus.access a).1 = .error fault := by
      rintro ⟨fault, hfault⟩
      rw [hresult] at hfault
      cases hfault
    refine ⟨⟨fun hfault => absurd hfault hnone, ?_⟩, fun fault hfault => absurd ⟨fault, hfault⟩ hnone,
      fun _ => ⟨c.value, hresult⟩⟩
    rintro ⟨i, hi, kind, hrefuses⟩
    exact absurd hrefuses (hpasses i hi kind)

/-- A byte of RAM that can be written at the last address and only be read at the first. -/
def guardedStart : Bus Bench.Host Bench.Instrument Bench.TestCard :=
  let guarded : PageEntry := { Machine.byteEntry 0 with permissions := .readExecute }
  { Machine.aroundTheEnd.bus with
    table := ⟨⟨16, 12⟩, Machine.aroundTheEnd.bus.table.entries.setIfInBounds 0 (some guarded)⟩ }

/-- The bus of the example is one that can be reached. -/
theorem inUse_guardedStart : guardedStart.InUse := by
  have hbuilt : Machine.ofConfig? Personality.legacy8.machineConfig {} =
      .ok (Machine.bare Personality.legacy8.machineConfig {} :
        Machine Bench.Host Bench.Instrument Bench.TestCard) :=
    Machine.ofConfig?_eq_ok_iff.2 ⟨by decide +kernel, rfl⟩
  have hmap : Machine.aroundTheEnd.bus.mapPage 0
      { Machine.byteEntry 0 with permissions := .readExecute } = .ok guardedStart := rfl
  exact (Machine.inUse_of_run hbuilt Machine.run_aroundTheEnd).used (.mapPage hmap)

/-- Of a quiet word around the end of the address space the first byte could be stored. It is not, since
the second is refused. -/
theorem access_allOrNothing_aroundTheEnd :
    let a := (Access.write 0xFFFF .word 0xAA55 .dataWrite).withFlags { quiet := true }
    guardedStart.InUse ∧ a.intent.isDebug = false ∧ a.flags.quiet = true ∧
      (guardedStart.access a).1 =
        .error ⟨.permission, 0, .word, .dataWrite, .cpu, some ⟨1⟩, some .ram, 0, 0⟩ ∧
      guardedStart.requests a = [] ∧ (guardedStart.access a).2.unobserved = guardedStart.unobserved := by
  intro a
  obtain ⟨-, hrefused, -⟩ := access_allOrNothing (a := a) inUse_guardedStart rfl rfl
  have hresult : (guardedStart.access a).1 =
      .error ⟨.permission, 0, .word, .dataWrite, .cpu, some ⟨1⟩, some .ram, 0, 0⟩ := by
    decide +kernel
  obtain ⟨-, hasks, hsame, -⟩ := hrefused _ hresult
  exact ⟨inUse_guardedStart, rfl, rfl, hresult, hasks, hsame⟩

end Bus

end Motherboard
