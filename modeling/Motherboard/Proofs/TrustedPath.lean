import Motherboard.Proofs.Bookkeeping
import Motherboard.Proofs.Replay

/-!
# The trusted path

A caller who has checked takes the trusted path: it leaves out the steps of the policy that refuse, and
counts and reports nothing. Where the checked path completes an access, the trusted one does the same with
it (`Requests.CompletesAs`): no step has refused it, and the steps that route it are shared.

The trusted path tells the observer of no access and of no fault, but it is not silent: its device cycles
select like any others, and the rack reports when they move the expansion window (`direct_handsOver`).
-/

namespace Motherboard

open Trace (HearsHandOvers)

/-! ## Trees that complete alike -/

namespace Requests

variable {α β ε : Type} {r r' : Requests (Except ε α)}

/-- Whoever answers: where the first tree completes, the second one asks the same questions and comes to
the same end. -/
def CompletesAs (r r' : Requests (Except ε α)) : Prop :=
  ∀ ⦃σ : Type⦄ (answer : Answerer σ) (s : σ) (a : α), (r.run answer s).1 = .ok a →
    r'.run answer s = r.run answer s ∧ r'.asked answer s = r.asked answer s

/-- What is not checked more often completes alike. -/
theorem CompletesAs.refl (r : Requests (Except ε α)) : r.CompletesAs r :=
  fun _ _ _ _ _ => ⟨rfl, rfl⟩

/-- A tree that refuses at once completes like any other. -/
theorem completesAs_of_error (e : ε) (r' : Requests (Except ε α)) :
    (done (.error e) : Requests (Except ε α)).CompletesAs r' := by
  intro σ answer s a h
  cases h

/-- Where refusals are passed on, trees that go on alike after they have completed alike complete alike. -/
theorem CompletesAs.bind (h : r.CompletesAs r') {f f' : Except ε α → Requests (Except ε β)}
    (herror : ∀ e, ∃ e', f (.error e) = done (.error e'))
    (hok : ∀ a, (f (.ok a)).CompletesAs (f' (.ok a))) : (r.bind f).CompletesAs (r'.bind f') := by
  intro σ answer s b hdone
  rw [run_bind] at hdone
  rw [run_bind, run_bind, asked_bind, asked_bind]
  cases hfirst : (r.run answer s).1 with
  | error e =>
    -- a refusal of the first tree would be the end, but it has completed
    obtain ⟨e', he'⟩ := herror e
    rw [hfirst, he'] at hdone
    cases hdone
  | ok a =>
    rw [hfirst] at hdone
    -- both go on from the same answer and the same state
    obtain ⟨hrun, hasked⟩ := h answer s a hfirst
    obtain ⟨hrest, hlater⟩ := hok a answer _ b hdone
    rw [hrun, hasked, hfirst, hrest, hlater]
    exact ⟨rfl, rfl⟩

end Requests

/-! ## Trusting and checking -/

namespace Routing

variable {a : Access}

/-- The way to a page is the same for those who have checked. -/
theorem resolve_trusted {r : Routing} {entry : PageEntry} (h : r.resolve .checked a = .ok entry) :
    r.resolve .trusted a = .ok entry := by
  unfold resolve
  rw [entryFor?_of_resolve h]

/-- A byte cycle that is granted is the same cycle without the check. -/
theorem byteCycle_completesAs (r : Routing) (a : Access) :
    (r.byteCycle .checked a).CompletesAs (r.byteCycle .trusted a) := by
  unfold byteCycle
  cases hentry : r.resolve .checked a with
  | error fault => exact Requests.completesAs_of_error fault _
  | ok entry =>
    rw [resolve_trusted hentry]
    exact .refl _

/-- A decomposed access that is granted is the same without the checks, lane by lane. -/
theorem lanesFrom_completesAs (r : Routing) (a : Access) (lanes : List Nat) (value cycles : UInt32) :
    (r.lanesFrom .checked a lanes value cycles).CompletesAs
      (r.lanesFrom .trusted a lanes value cycles) := by
  -- on the lanes still to do; the page of every lane is checked on one side only
  induction lanes generalizing value cycles with
  | nil => exact .refl _
  | cons i lanes ih =>
    apply (r.byteCycle_completesAs (r.lane a i)).bind
    · exact fun fault => ⟨fault.within a cycles, rfl⟩
    · rintro ⟨byte, cost⟩
      exact ih _ _

/-- An access with side effects completes trusted as it does checked: alignment is refused only where it
is checked, and the route is the same. -/
theorem noticed_completesAs (r : Routing) (a : Access) :
    (r.noticed .checked a).CompletesAs (r.noticed .trusted a) := by
  unfold noticed
  cases hentry : r.resolve .checked a with
  | error fault => exact Requests.completesAs_of_error fault _
  | ok entry =>
    rw [resolve_trusted hentry]
    dsimp only
    -- who trusts does not look at the alignment either
    have htrusts : r.refusesAlignment .trusted a = false := rfl
    rw [htrusts]
    by_cases hbyte : a.width = .byte
    · rw [if_pos hbyte, if_pos hbyte]
      exact .refl _
    · rw [if_neg hbyte, if_neg hbyte]
      cases r.refusesAlignment .checked a with
      | true => exact Requests.completesAs_of_error _ _
      | false =>
        -- the route depends on the page and the access alone
        cases r.route a entry with
        | wide => exact .refl _
        | lanes => exact r.lanesFrom_completesAs a _ _ _

/-- The checked path completes as the trusted one does. -/
theorem checked_completesAs (r : Routing) (h : a.sideEffectsAllowed = true) :
    (r.checked a).CompletesAs (r.trusted a) := by
  rw [checked_of_noticed h, trusted_of_noticed h]
  exact r.noticed_completesAs _

end Routing

/-! ## Direct calls -/

namespace Bus

variable {ω δ γ : Type} [Device δ ω] [Card γ δ ω] {a : Access}

/-- What the targets are asked when the bus carries out an access that its caller has checked. -/
def directRequests (bus : Bus ω δ γ) (a : Access) : List Request :=
  (bus.routing.trusted a).asked answer bus

/-- How a direct call compares with the access that checks. -/
structure RefinesAccess (bus : Bus ω δ γ) (a : Access) : Prop where
  /-- Where the access completes, the direct call asks the targets for the same, gives the same value and
  leaves the bus as the access does, before that is counted and reported. -/
  completes : ∀ o, (bus.access a).1 = .ok o →
    bus.directRequests a = bus.requests a ∧ (bus.direct a).1 = .ok o.value ∧
      (bus.access a).2 = (bus.direct a).2.observe (bus.routing.normalize a)
        (.ok ⟨o.value, o.cycles, bus.carriesByLanes a⟩)
  /-- Where the direct call fails, the access does not complete either. -/
  fails : ∀ fault, (bus.direct a).1 = .error fault → ∃ fault', (bus.access a).1 = .error fault'
  diagnostics : (bus.direct a).2.diagnostics = bus.diagnostics
  table : (bus.direct a).2.table = bus.table
  /-- The observer hears of hand-overs of the expansion window, and of nothing else. -/
  trace : HearsHandOvers bus.backplane.trace (bus.direct a).2.backplane.trace

/-- A completed access is a direct call that is counted and reported. -/
theorem direct_of_access_eq_ok {bus : Bus ω δ γ} (h : a.sideEffectsAllowed = true) {o : Outcome}
    (hdone : (bus.access a).1 = .ok o) :
    bus.directRequests a = bus.requests a ∧ (bus.direct a).1 = .ok o.value ∧
      (bus.access a).2 = (bus.direct a).2.observe (bus.routing.normalize a)
        (.ok ⟨o.value, o.cycles, bus.carriesByLanes a⟩) := by
  cases hend : ((bus.routing.checked a).run answer bus).1 with
  | error fault =>
    have hrefused : (bus.access a).1 = .error fault := congrArg (Except.map Completed.outcome) hend
    rw [hrefused] at hdone
    cases hdone
  | ok c =>
    obtain ⟨hrun, hasked⟩ := bus.routing.checked_completesAs h answer bus c hend
    -- the master sees value and cycles of what was carried out
    have houtcome : o = c.outcome := by
      have hvalue : (bus.access a).1 = .ok c.outcome := congrArg (Except.map Completed.outcome) hend
      rw [hvalue] at hdone
      cases hdone
      rfl
    refine ⟨hasked, ?_, ?_⟩
    · show ((bus.routing.trusted a).run answer bus).1.map Completed.value = _
      rw [hrun, hend, houtcome]
      rfl
    · show ((bus.routing.checked a).run answer bus).2.observe _ ((bus.routing.checked a).run answer bus).1 =
        ((bus.routing.trusted a).run answer bus).2.observe _ _
      rw [hrun, hend, houtcome, ← decomposed_of_checked hend]
      rfl

/-- A direct call does what the access does, wherever the access completes: the same requests, the same
value, the same state of the targets. It fails only where the access faults, it changes neither the
counters nor the page table, and it lets the observer hear of hand-overs of the expansion window only. -/
theorem direct_refines_access (bus : Bus ω δ γ) (h : a.sideEffectsAllowed = true) :
    bus.RefinesAccess a where
  completes := fun o hdone => direct_of_access_eq_ok h hdone
  fails := by
    intro fault hfault
    cases hresult : (bus.access a).1 with
    | error fault' => exact ⟨fault', rfl⟩
    | ok o =>
      -- after a completed access the direct call would have completed too
      obtain ⟨-, hvalue, -⟩ := direct_of_access_eq_ok h hresult
      rw [hvalue] at hfault
      cases hfault
  diagnostics := bus.diagnostics_direct h
  table := congrArg Routing.table (routing_run (bus.routing.trusted a) bus)
  trace := hearsHandOvers_run (bus.routing.trusted a) bus

/-- An observer listens to a bus with a card in slot 6; nobody owns the expansion window. -/
def overheard : Bus Bench.Host Bench.Instrument Bench.TestCard :=
  { Machine.atTheSentinel.bus with
    backplane :=
      { Machine.atTheSentinel.bus.backplane with
        rack := { Machine.atTheSentinel.bus.backplane.rack with owner := none }
        trace := { attached := true } } }

/-- The access reports itself after the hand-over that it has caused; the direct call causes the same
hand-over. -/
theorem direct_refines_access_overheard :
    let word : Access := .read 0xC600 .word .dataRead
    word.sideEffectsAllowed = true ∧ overheard.RefinesAccess word ∧
      (overheard.access word).1 = .ok ⟨0xFFFF, 2⟩ ∧ (overheard.direct word).1 = .ok 0xFFFF ∧
      overheard.directRequests word = overheard.requests word ∧
      (overheard.access word).2.backplane.trace.events =
        #[.expansion none (some 6), .access 0xC600 .word .dataRead 0xFFFF 2 true] := by
  intro word
  have hrefines : overheard.RefinesAccess word := overheard.direct_refines_access rfl
  have hdone : (overheard.access word).1 = .ok ⟨0xFFFF, 2⟩ := by decide +kernel
  obtain ⟨hasked, hvalue, -⟩ := hrefines.completes _ hdone
  exact ⟨rfl, hrefines, hdone, hvalue, hasked, by decide +kernel⟩

/-- A direct call that selects a card is heard of, though not as an access. -/
theorem direct_handsOver :
    let byte : Access := .read 0xC600 .byte .dataRead
    (overheard.direct byte).1 = .ok 0xFF ∧
      (overheard.direct byte).2.backplane.trace.events = #[.expansion none (some 6)] ∧
      (overheard.direct byte).2.backplane.trace ≠ overheard.backplane.trace := by
  intro byte
  have hevents : (overheard.direct byte).2.backplane.trace.events = #[.expansion none (some 6)] := by
    decide +kernel
  refine ⟨by decide +kernel, hevents, ?_⟩
  intro hsame
  rw [hsame] at hevents
  cases hevents

end Bus

end Motherboard
