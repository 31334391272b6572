import Motherboard.Proofs.Carriage
import Motherboard.Proofs.PagePermissions

/-!
# The policy of the bus

The policy for accesses that devices may notice, in the order in which it is documented: what is refused and
for what reason, what is one device cycle, and what goes byte by byte. `Routing.Decides` has one rule for
every row of the policy, with what the rows before it must have let pass. For every access exactly one
verdict follows from the rules, and the bus carries the access out accordingly (`access_follows_policy`).
-/

namespace Motherboard

namespace Routing

/-! ## The rules -/

/-- The address is not a multiple of the width, and the bus is strict about it. -/
def IsMisaligned (r : Routing) (a : Access) : Prop :=
  r.config.strictAlignment = true ∧ ¬a.width.bytes ∣ a.address.toNat

/-- The page of the access ends before its last byte. -/
def Straddles (r : Routing) (a : Access) : Prop :=
  r.table.geometry.pageSize.toNat < (r.table.geometry.pageOffset a.address).toNat + a.width.bytes

instance (r : Routing) (a : Access) : Decidable (r.IsMisaligned a) :=
  inferInstanceAs (Decidable (_ ∧ _))

instance (r : Routing) (a : Access) : Decidable (r.Straddles a) :=
  inferInstanceAs (Decidable (_ < _))

/-- A wide access that nothing refuses. -/
structure Passes (r : Routing) (a : Access) (entry : PageEntry) : Prop where
  granted : r.Grants a.intent a.address entry
  wide : a.width ≠ .byte
  aligned : ¬r.IsMisaligned a

/-- A wide access that nothing refuses and that may stay in one piece. -/
structure Stays (r : Routing) (a : Access) (entry : PageEntry) : Prop extends r.Passes a entry where
  inside : ¬r.Straddles a
  whole : a.flags.decompose = false

/-- The rows of the policy. -/
inductive Decides (r : Routing) (a : Access) : Verdict → Prop
  | unmapped (hmapped : r.table.entryFor? a.address = none) : Decides r a (.refused (.unmapped a))
  | permission {entry : PageEntry} (hmapped : r.table.entryFor? a.address = some entry)
    (hdirection : entry.permissions.allows a.intent = false) :
    Decides r a (.refused (.mapped .permission a entry.device entry.region))
  | noExecute {entry : PageEntry} (hmapped : r.table.entryFor? a.address = some entry)
    (hdirection : entry.permissions.allows a.intent = true) (hfetch : a.intent.isFetch = true)
    (hactive : r.config.nxActive = true) (hexecute : entry.permissions.execute = false) :
    Decides r a (.refused (.mapped .noExecute a entry.device entry.region))
  | misaligned {entry : PageEntry} (hgranted : r.Grants a.intent a.address entry)
    (hwide : a.width ≠ .byte) (hplace : r.IsMisaligned a) :
    Decides r a (.refused (.mapped .misaligned a entry.device entry.region))
  | byte {entry : PageEntry} (hgranted : r.Grants a.intent a.address entry) (hbyte : a.width = .byte) :
    Decides r a (.once entry)
  /-- Whatever the flags are. -/
  | straddles {entry : PageEntry} (h : r.Passes a entry) (hleaves : r.Straddles a) :
    Decides r a .byBytes
  /-- Also where a wide cycle is asked for. -/
  | decompose {entry : PageEntry} (h : r.Passes a entry) (hinside : ¬r.Straddles a)
    (hflag : a.flags.decompose = true) : Decides r a .byBytes
  | wide {entry : PageEntry} (h : r.Stays a entry)
    (hprefers : a.flags.atomic = true ∨ r.config.cpuMode = .native)
    (hcapable : entry.capabilities.wide = true) : Decides r a (.once entry)
  /-- A wide cycle is preferred, but the page has none. -/
  | narrow {entry : PageEntry} (h : r.Stays a entry)
    (hprefers : a.flags.atomic = true ∨ r.config.cpuMode = .native)
    (hincapable : entry.capabilities.wide = false) : Decides r a .byBytes
  | legacy {entry : PageEntry} (h : r.Stays a entry) (hflag : a.flags.atomic = false)
    (hmode : r.config.cpuMode = .legacy) : Decides r a .byBytes

/-! ## The rules and the routing -/

variable {r : Routing} {a : Access} {entry : PageEntry} {verdict : Verdict}

/-- Alignment is refused exactly where the rules say that an access is misaligned. -/
theorem refusesAlignment_eq_true_iff (r : Routing) (a : Access) :
    r.refusesAlignment .checked a = true ↔ r.IsMisaligned a := by
  have hwidth := a.width.bytes_le
  have hbytes : a.width.bytes.toUInt32.toNat = a.width.bytes := toNat_toUInt32 (by omega)
  -- the remainder of the machine words is that of the numbers
  have hplace : (a.address % a.width.bytes.toUInt32 != 0) = true ↔ ¬a.width.bytes ∣ a.address.toNat := by
    rw [bne_iff_ne, ne_eq, ← UInt32.toNat_inj, UInt32.toNat_mod, hbytes, Nat.dvd_iff_mod_eq_zero]
    rfl
  unfold refusesAlignment IsMisaligned
  rw [Bool.and_eq_true, hplace]
  rfl

/-- A page that grants an access is what it resolves to. -/
theorem resolve_of_grants (h : r.Grants a.intent a.address entry) :
    r.resolve .checked a = .ok entry := by
  unfold resolve
  rw [h.mapped]
  dsimp only
  -- a fetch while execution is enforced was granted because the page is executable
  have hforbidden : ¬(a.intent.isFetch && r.config.nxActive && !entry.permissions.execute) = true := by
    rw [Bool.and_eq_true, Bool.and_eq_true]
    rintro ⟨⟨hfetch, hactive⟩, hexecute⟩
    rw [h.execution hfetch hactive] at hexecute
    cases hexecute
  rw [h.direction, if_neg hforbidden]
  rfl

/-- An access that passes is carried out whole or byte by byte. -/
theorem judge_of_passes (h : r.Passes a entry) :
    r.judge a = if r.route a entry = .wide then .once entry else .byBytes := by
  have haligned : ¬r.refusesAlignment .checked a = true :=
    fun hrefuses => h.aligned ((r.refusesAlignment_eq_true_iff a).1 hrefuses)
  unfold judge
  rw [resolve_of_grants h.granted]
  dsimp only
  rw [if_neg h.wide, if_neg haligned]
  cases r.route a entry <;> rfl

/-- The last row of the policy is that of the mode and of what the page is capable of. -/
theorem route_of_stays (h : r.Stays a entry) :
    r.route a entry =
      if (a.flags.atomic = true ∨ r.config.cpuMode = .native) ∧ entry.capabilities.wide = true then .wide
      else .lanes := by
  -- neither the page nor a flag splits the access, so flag and mode decide with the page
  have hinside : r.leavesPage a = false := by
    rw [← Bool.not_eq_true, leavesPage_eq_true_iff]
    exact h.inside
  unfold route
  rw [hinside, h.whole]
  cases a.flags.atomic <;> cases r.config.cpuMode <;> cases entry.capabilities.wide <;> rfl

/-- The routing comes to what follows from the rules. -/
theorem judge_of_decides (h : r.Decides a verdict) : r.judge a = verdict := by
  -- one case for each row; the rows before it are passed by its hypotheses
  cases h with
  | unmapped hmapped =>
    unfold judge resolve
    rw [hmapped]
  | permission hmapped hdirection =>
    unfold judge resolve
    rw [hmapped]
    dsimp only
    rw [hdirection]
    rfl
  | noExecute hmapped hdirection hfetch hactive hexecute =>
    unfold judge resolve
    rw [hmapped]
    dsimp only
    rw [hdirection, hfetch, hactive, hexecute]
    rfl
  | misaligned hgranted hwide hplace =>
    unfold judge
    rw [resolve_of_grants hgranted]
    dsimp only
    rw [if_neg hwide, if_pos ((r.refusesAlignment_eq_true_iff a).2 hplace)]
    rfl
  | byte hgranted hbyte =>
    unfold judge
    rw [resolve_of_grants hgranted]
    dsimp only
    rw [if_pos hbyte]
  | @straddles entry hpasses hleaves =>
    have hroute : r.route a entry = .lanes := by
      rw [route, (r.leavesPage_eq_true_iff a).2 hleaves]
      rfl
    rw [judge_of_passes hpasses, hroute]
    rfl
  | @decompose entry hpasses hinside hflag =>
    have hroute : r.route a entry = .lanes := by
      rw [route, hflag, Bool.or_true]
      rfl
    rw [judge_of_passes hpasses, hroute]
    rfl
  | @wide entry hstays hprefers hcapable =>
    have hroute : r.route a entry = .wide := by
      rw [route_of_stays hstays]
      exact if_pos ⟨hprefers, hcapable⟩
    rw [judge_of_passes hstays.toPasses, hroute]
    rfl
  | @narrow entry hstays hprefers hincapable =>
    have hroute : r.route a entry = .lanes := by
      rw [route_of_stays hstays, hincapable]
      exact if_neg fun h => Bool.false_ne_true h.2
    rw [judge_of_passes hstays.toPasses, hroute]
    rfl
  | @legacy entry hstays hflag hmode =>
    have hroute : r.route a entry = .lanes := by
      rw [route_of_stays hstays, hflag, hmode]
      rfl
    rw [judge_of_passes hstays.toPasses, hroute]
    rfl

/-- Of the last three rows one applies. -/
theorem exists_decides_of_stays (h : r.Stays a entry) : ∃ verdict, r.Decides a verdict := by
  by_cases hprefers : a.flags.atomic = true ∨ r.config.cpuMode = .native
  · cases hcapable : entry.capabilities.wide with
    | true => exact ⟨_, .wide h hprefers hcapable⟩
    | false => exact ⟨_, .narrow h hprefers hcapable⟩
  · rw [not_or, Bool.not_eq_true] at hprefers
    obtain ⟨hflag, hmode⟩ := hprefers
    -- neither: the legacy mode decides
    have hlegacy : r.config.cpuMode = .legacy := by
      cases hcpu : r.config.cpuMode with
      | legacy => rfl
      | native => exact absurd hcpu hmode
    exact ⟨_, .legacy h hflag hlegacy⟩

/-- A row applies where the page grants the access. -/
theorem exists_decides_of_grants (h : r.Grants a.intent a.address entry) :
    ∃ verdict, r.Decides a verdict := by
  by_cases hbyte : a.width = .byte
  · exact ⟨_, .byte h hbyte⟩
  · by_cases hplace : r.IsMisaligned a
    · exact ⟨_, .misaligned h hbyte hplace⟩
    · -- nothing refuses the access: what may split it comes first
      have hpasses : r.Passes a entry := ⟨h, hbyte, hplace⟩
      by_cases hleaves : r.Straddles a
      · exact ⟨_, .straddles hpasses hleaves⟩
      · cases hdecompose : a.flags.decompose with
        | true => exact ⟨_, .decompose hpasses hleaves hdecompose⟩
        | false => exact exists_decides_of_stays ⟨hpasses, hleaves, hdecompose⟩

/-- A row applies to every access. -/
theorem exists_decides (r : Routing) (a : Access) : ∃ verdict, r.Decides a verdict := by
  -- the questions of the policy in its order; the first one answered with no gives the row
  cases hmapped : r.table.entryFor? a.address with
  | none => exact ⟨_, .unmapped hmapped⟩
  | some entry =>
    cases hdirection : entry.permissions.allows a.intent with
    | false => exact ⟨_, .permission hmapped hdirection⟩
    | true =>
      by_cases hexecution : a.intent.isFetch = true → r.config.nxActive = true →
          entry.permissions.execute = true
      · exact exists_decides_of_grants ⟨hmapped, hdirection, hexecution⟩
      · -- a fetch that the page does not grant while execution is enforced
        simp only [Classical.not_imp, Bool.not_eq_true] at hexecution
        obtain ⟨hfetch, hactive, hexecute⟩ := hexecution
        exact ⟨_, .noExecute hmapped hdirection hfetch hactive hexecute⟩

/-- No fault that a page raises has cost anything. -/
theorem cycles_of_decides {fault : Fault} (h : r.Decides a (.refused fault)) : fault.cycles = 0 := by
  cases h <;> rfl

end Routing

/-! ## How the bus carries out a verdict -/

namespace Bus

variable {ω δ γ : Type} [Device δ ω] [Card γ δ ω] {bus : Bus ω δ γ} {a : Access} {entry : PageEntry}

/-- The answer to a device cycle of the width of an access: the value read, or that written. -/
def cycleAnswer (bus : Bus ω δ γ) (entry : PageEntry) (a : Access) : Except DeviceError UInt32 :=
  let offset := bus.routing.deviceOffset entry a.address
  if a.intent.isWrite then
    (answer (.write entry.target a.width offset a.value a) bus).1.map fun () => a.value
  else
    (answer (.read entry.target a.width offset a) bus).1

/-- The access is refused: no target is asked, and all that happens is that the bus counts and reports a
fault without cycles. -/
structure IsRefused (bus : Bus ω δ γ) (a : Access) (fault : Fault) : Prop where
  asks : bus.requests a = []
  cycles : fault.cycles = 0
  access : bus.access a = (.error fault, bus.observe (bus.routing.normalize a) (.error fault))

/-- The access is one cycle of the target of a page, which answers for it: one call of the accessor of that
width, unless there is no such target. Two cycles are charged for 32 bits, and one for less. -/
structure IsOneCycle (bus : Bus ω δ γ) (a : Access) (entry : PageEntry) : Prop where
  asks : bus.requests a =
    if entry.target.index < bus.targets.size then
      [bus.routing.deviceCycle entry (bus.routing.normalize a)]
    else []
  ends : (bus.access a).1 =
    match bus.cycleAnswer entry (bus.routing.normalize a) with
    | .ok value => .ok ⟨value, if a.width = .dword then 2 else 1⟩
    | .error e => .error (.mapped e.faultKind (bus.routing.normalize a) entry.device entry.region)
  state : (bus.access a).2.unobserved =
    (answer (bus.routing.deviceCycle entry (bus.routing.normalize a)) bus).2.unobserved

/-- The access is a row of byte accesses, up to the first that faults. Each asks a target for a byte at
most; when all of them have completed, one cycle is charged for each. -/
structure IsRow (bus : Bus ω δ γ) (a : Access) : Prop where
  asks : bus.requests a = (bus.accessEach (bus.routing.byteAccesses a)).requests
  bytes : ∀ request ∈ bus.requests a, request.byteCount = 1
  ends : (bus.access a).1 = ((bus.accessEach (bus.routing.byteAccesses a)).collect
    (bus.routing.normalize a) (bus.routing.normalize a).laneNumbers 0 0).map Completed.outcome
  cycles : ∀ o, (bus.access a).1 = .ok o → o.cycles = a.width.bytes.toUInt32
  state : (bus.access a).2.unobserved = (bus.accessEach (bus.routing.byteAccesses a)).bus.unobserved

/-- The bus carries the access out as the verdict says. -/
def CarriesOut (bus : Bus ω δ γ) (a : Access) : Verdict → Prop
  | .refused fault => bus.IsRefused a fault
  | .once entry => bus.IsOneCycle a entry
  | .byBytes => bus.IsRow a

/-- A device cycle ends as its target answers; where there is no target, the answer is a failure. -/
theorem run_dispatch (bus : Bus ω δ γ) (entry : PageEntry) (a : Access) :
    (bus.routing.dispatch entry a).run answer bus =
      (match bus.cycleAnswer entry a with
        | .ok value => .ok (value, (CycleForm.ofWidth a.width).cycles)
        | .error e => .error (Routing.refusal entry a e),
      (answer (bus.routing.deviceCycle entry a) bus).2) := by
  unfold Routing.dispatch cycleAnswer Routing.deviceCycle
  dsimp only
  by_cases htarget : entry.target.index < bus.routing.targets
  · rw [if_pos htarget]
    cases a.intent.isWrite with
    | true =>
      show (Requests.ask _ _).run answer bus = _
      rw [Requests.run_ask]
      rcases (answer (.write entry.target a.width (bus.routing.deviceOffset entry a.address) a.value a)
        bus).1 with e | _ <;> rfl
    | false =>
      show (Requests.ask _ _).run answer bus = _
      rw [Requests.run_ask]
      rcases (answer (.read entry.target a.width (bus.routing.deviceOffset entry a.address) a) bus).1
        with e | value <;> rfl
  · -- nobody is asked, and nobody would have answered
    have hmissing : bus.target? entry.target = none :=
      Array.getElem?_eq_none (Nat.le_of_not_lt htarget)
    rw [if_neg htarget]
    cases a.intent.isWrite with
    | true =>
      have hnobody : answer (.write entry.target a.width (bus.routing.deviceOffset entry a.address)
          a.value a) bus = (.error .failed, bus) := onTarget_of_missing hmissing _ _
      show (Except.error _, bus) = (_, (answer (.write entry.target a.width _ a.value a) bus).2)
      rw [hnobody]
      rfl
    | false =>
      have hnobody : answer (.read entry.target a.width (bus.routing.deviceOffset entry a.address) a) bus =
          (.error .failed, bus) := onTarget_of_missing hmissing _ _
      show (Except.error _, bus) = (_, (answer (.read entry.target a.width _ a) bus).2)
      rw [hnobody]
      rfl

/-- An access that ends before it asks for anything is refused without a cycle. -/
theorem isRefused_of_checked {fault : Fault} (h : bus.routing.checked a = .done (.error fault))
    (hcycles : fault.cycles = 0) : bus.IsRefused a fault where
  asks := by
    rw [requests, h]
    rfl
  cycles := hcycles
  access := by
    show (((bus.routing.checked a).run answer bus).1.map Completed.outcome,
      ((bus.routing.checked a).run answer bus).2.observe _ ((bus.routing.checked a).run answer bus).1) = _
    rw [h]
    rfl

/-- An access that is one device cycle. -/
theorem isOneCycle_of_checked
    (h : bus.routing.checked a = bus.routing.whole entry (bus.routing.normalize a)) :
    bus.IsOneCycle a entry where
  asks := by
    rw [requests, h, Routing.whole, Requests.asked_map, Routing.asked_dispatch]
    rfl
  ends := by
    -- the cost follows from the width, which the bus leaves as it was
    have hcost : (CycleForm.ofWidth (bus.routing.normalize a).width).cycles =
        if a.width = .dword then 2 else 1 := by
      rw [Routing.normalize_width]
      cases a.width <;> rfl
    show ((bus.routing.checked a).run answer bus).1.map Completed.outcome = _
    rw [h, Routing.whole, Requests.run_map, run_dispatch, hcost]
    cases bus.cycleAnswer entry (bus.routing.normalize a) <;> rfl
  state := by
    rw [unobserved_access, h, Routing.whole, Requests.run_map, run_dispatch]

/-- An access that is decomposed is a row of byte accesses. -/
theorem isRow_of_checked (hnoticed : a.sideEffectsAllowed = true)
    (h : bus.routing.checked a = bus.routing.decompose .checked (bus.routing.normalize a)) :
    bus.IsRow a := by
  -- lane after lane goes like the byte access of its own, from the same bus
  obtain ⟨hend, hstate, hasked⟩ := run_lanesFrom (rfl : bus.routing = bus.routing)
    (rfl : bus.unobserved = bus.unobserved) hnoticed (bus.routing.normalize a).laneNumbers 0 0
  have hends : (bus.access a).1 = ((bus.accessEach (bus.routing.byteAccesses a)).collect
      (bus.routing.normalize a) (bus.routing.normalize a).laneNumbers 0 0).map Completed.outcome := by
    show ((bus.routing.checked a).run answer bus).1.map Completed.outcome = _
    rw [h]
    exact congrArg _ hend
  constructor
  case asks =>
    rw [requests, h]
    exact hasked
  case bytes =>
    intro request hrequest
    rw [requests, h] at hrequest
    exact Requests.of_mem_asked (bus.routing.lanesFrom_byteCount .checked _ _ 0 0) hrequest
  case ends => exact hends
  case cycles =>
    intro o hdone
    rw [hends, AccessRow.collect] at hdone
    cases hfault : (bus.accessEach (bus.routing.byteAccesses a)).fault? with
    | some fault =>
      rw [hfault] at hdone
      cases hdone
    | none =>
      -- without a fault every byte access of the row has completed
      have hlength := length_outcomes hfault
      rw [hfault] at hdone
      cases hdone
      show 0 + (bus.accessEach (bus.routing.byteAccesses a)).outcomes.length.toUInt32 = _
      rw [hlength, Routing.length_byteAccesses, UInt32.zero_add]
  case state =>
    rw [unobserved_access, h]
    exact hstate

/-- Of the rules of the policy one applies to every access that devices may notice, and no two of them say
different things. The bus carries the access out as the rule says. -/
theorem access_follows_policy (bus : Bus ω δ γ) (h : a.sideEffectsAllowed = true) :
    ∃ verdict, bus.routing.Decides (bus.routing.normalize a) verdict ∧
      (∀ other, bus.routing.Decides (bus.routing.normalize a) other → other = verdict) ∧
      bus.CarriesOut a verdict := by
  obtain ⟨verdict, hdecides⟩ := bus.routing.exists_decides (bus.routing.normalize a)
  have hjudge := Routing.judge_of_decides hdecides
  have hchecked := Routing.checked_of_noticed (r := bus.routing) h
  rw [Routing.noticed_eq_judge, hjudge] at hchecked
  refine ⟨verdict, hdecides, ?_, ?_⟩
  · -- the routing comes to one verdict only
    intro other hother
    rw [← Routing.judge_of_decides hother, hjudge]
  · cases verdict with
    | refused fault => exact isRefused_of_checked hchecked (Routing.cycles_of_decides hdecides)
    | once entry => exact isOneCycle_of_checked hchecked
    | byBytes => exact isRow_of_checked h hchecked

/-- All of the RAM, with both flags. -/
def insisting : Access :=
  (Access.read 0 .dword .dataRead).withFlags { AccessFlags.plain with atomic := true, decompose := true }

/-- The page could be read in one cycle and the flags ask for that too, but byte cycles come first. -/
theorem access_follows_policy_insisting :
    insisting.sideEffectsAllowed = true ∧
      fourBytes.routing.Decides (fourBytes.routing.normalize insisting) .byBytes ∧
      fourBytes.IsRow insisting ∧ (fourBytes.requests insisting).length = 4 ∧
      (fourBytes.access insisting).1 = .ok ⟨0x44332211, 4⟩ := by
  -- the access leaves its page in spite of asking to be atomic, and the first rule that applies is the
  -- straddling
  have hdecides : fourBytes.routing.Decides (fourBytes.routing.normalize insisting) .byBytes := by
    have hgranted : fourBytes.routing.Grants (fourBytes.routing.normalize insisting).intent
        (fourBytes.routing.normalize insisting).address
        ⟨⟨1⟩, .ram, .full, .memory, ⟨0⟩, 0⟩ :=
      ⟨by decide +kernel, by decide +kernel, by decide +kernel⟩
    have hpasses : fourBytes.routing.Passes (fourBytes.routing.normalize insisting)
        ⟨⟨1⟩, .ram, .full, .memory, ⟨0⟩, 0⟩ :=
      ⟨hgranted, by decide +kernel, by decide +kernel⟩
    exact .decompose hpasses (by decide +kernel) rfl
  obtain ⟨verdict, -, hunique, hcarries⟩ := fourBytes.access_follows_policy (a := insisting) rfl
  obtain rfl := hunique _ hdecides
  exact ⟨rfl, hdecides, hcarries, by decide +kernel, by decide +kernel⟩

end Bus

end Motherboard
