import Motherboard.Bench.Instrument
import Motherboard.Proofs.Carriage
import Motherboard.Proofs.RunReports

/-!
# The books of a bus

A bus counts how accesses end and reports each of them to the observer. This file says that the books are
exact, for every run of accesses, of the debugger's looks and pokes, of accesses that traps answer, of
direct calls and of resets of the counters, in any order, on a bus or through the processor.

What a run did stands in its log, the latest booking first: which bus was asked for which access, what it
returned, and whether a trap returned it in its place. One deed on a bus makes one booking or none
(`Bus.Deed`); `Deed.tellOf` and `Deed.tells` are the step of the induction over a run. Whatever else happens
to a bus between two deeds may change anything but its books (`Bus.SameBooks`). A trap may use the bus on
its own account while an access waits for it: what it did then comes earlier in the log.

* `Diagnostics.TellOf` — the counters against the bookings since they were cleared.
* `Trace.Tells` — what the observer has heard against the events that were due.
* `books_of_booked` — the books of a machine after a run.
-/

namespace Motherboard

open Trace (HearsHandOvers)

/-! ## The log -/

/-- An entry in the log of a run. -/
inductive Booking (ω δ γ : Type) where
  /-- An access was made to the bus, which stood as told, and had a result; `trapped` when a trap gave it
  in place of the bus. -/
  | access (bus : Bus ω δ γ) (a : Access) (result : Except Fault Outcome) (trapped : Bool)
  /-- The counters were cleared. -/
  | cleared

namespace Booking

variable {ω δ γ : Type}

/-- The access completed. -/
def completed : Booking ω δ γ → Bool
  | .access _ _ (.ok _) _ => true
  | _ => false

/-- A trap answered the access. -/
def isTrapped : Booking ω δ γ → Bool
  | .access _ _ _ trapped => trapped
  | .cleared => false

/-- The fault that was returned. -/
def fault? : Booking ω δ γ → Option Fault
  | .access _ _ (.error fault) _ => some fault
  | _ => none

/-- A fault of the kind was returned. -/
def isRefusal (kind : FaultKind) (b : Booking ω δ γ) : Bool :=
  b.fault?.any fun fault => decide (fault.kind = kind)

/-- The counters were cleared. -/
def isCleared : Booking ω δ γ → Bool
  | .cleared => true
  | _ => false

/-- The bookings since the counters were cleared last. -/
def sinceCleared (log : List (Booking ω δ γ)) : List (Booking ω δ γ) :=
  log.takeWhile fun b => !b.isCleared

variable [Device δ ω] [Card γ δ ω]

/-- The access completed, and the bus carried it byte by byte. -/
def byLanes : Booking ω δ γ → Bool
  | .access bus a (.ok _) false => bus.carriesByLanes a
  | _ => false

/-- The event that is due for a booking, on a bus of the given geometry: the address is cut, and the rest
is what was returned. -/
def event? (g : Geometry) (b : Booking ω δ γ) : Option TraceEvent :=
  match b with
  | .access _ a (.ok o) _ =>
    some (.access (a.address &&& g.addressMask) a.width a.intent o.value o.cycles b.byLanes)
  | .access _ _ (.error fault) _ => some (.fault fault)
  | .cleared => none

end Booking

open Booking (sinceCleared)

/-! ## The counters -/

namespace Diagnostics

variable {ω δ γ : Type} [Device δ ω] [Card γ δ ω] {d : Diagnostics} {recent : List (Booking ω δ γ)}

/-- The counters tell of the bookings listed, the latest first. Each counter stops at the largest value of
its width. -/
structure TellOf (d : Diagnostics) (recent : List (Booking ω δ γ)) : Prop where
  accesses : d.accesses.toNat = min (recent.countP Booking.completed) (2 ^ 32 - 1)
  trapped : d.trapped.toNat = min (recent.countP Booking.isTrapped) (2 ^ 32 - 1)
  decomposed : d.decomposed.toNat = min (recent.countP Booking.byLanes) (2 ^ 32 - 1)
  faults : ∀ kind,
    (d.faultCount kind).toNat = min (recent.countP (Booking.isRefusal kind)) (2 ^ 16 - 1)
  lastFault : d.lastFault = recent.findSome? Booking.fault?

/-- A counter that has counted up to its end stays there. -/
theorem toNat_countUp32_of {n : UInt32} {count : Nat} (h : n.toNat = min count (2 ^ 32 - 1)) :
    (countUp32 n).toNat = min (count + 1) (2 ^ 32 - 1) := by
  rw [toNat_countUp32, h]
  omega

theorem toNat_countUp16_of {n : UInt16} {count : Nat} (h : n.toNat = min count (2 ^ 16 - 1)) :
    (countUp16 n).toNat = min (count + 1) (2 ^ 16 - 1) := by
  rw [toNat_countUp16, h]
  omega

/-- Counters at zero tell of nothing. -/
theorem tellOf_zero : Diagnostics.zero.TellOf ([] : List (Booking ω δ γ)) where
  accesses := rfl
  trapped := rfl
  decomposed := rfl
  faults := fun kind => by cases kind <;> rfl
  lastFault := rfl

/-- Bytes from the floating lines are counted apart. -/
theorem TellOf.afterFloating (h : d.TellOf recent) (count : Nat) :
    (d.afterFloating count).TellOf recent := by
  rw [afterFloating_eq]
  refine ⟨h.accesses, h.trapped, h.decomposed, ?_, h.lastFault⟩
  intro kind
  have hkind := h.faults kind
  cases kind <;> exact hkind

/-- A fault is counted under its own kind. -/
theorem faultCount_recordFault (d : Diagnostics) (fault : Fault) (kind : FaultKind) :
    (d.recordFault fault).faultCount kind =
      if fault.kind = kind then countUp16 (d.faultCount kind) else d.faultCount kind := by
  unfold recordFault
  cases hkind : fault.kind <;> cases kind <;> rfl

/-- A fault is not counted among the accesses, nor among the floating bytes. -/
theorem kept_recordFault (d : Diagnostics) (fault : Fault) :
    (d.recordFault fault).accesses = d.accesses ∧ (d.recordFault fault).trapped = d.trapped ∧
      (d.recordFault fault).decomposed = d.decomposed ∧
      (d.recordFault fault).floatingReads = d.floatingReads := by
  unfold recordFault
  cases fault.kind <;> exact ⟨rfl, rfl, rfl, rfl⟩

/-- A fault is counted, and is the last one. -/
theorem TellOf.refused (h : d.TellOf recent) (bus : Bus ω δ γ) (a : Access) (fault : Fault) :
    (d.recordFault fault).TellOf (.access bus a (.error fault) false :: recent) := by
  obtain ⟨haccesses, htrapped, hdecomposed, -⟩ := d.kept_recordFault fault
  constructor
  case accesses =>
    rw [haccesses]
    exact h.accesses
  case trapped =>
    rw [htrapped]
    exact h.trapped
  case decomposed =>
    rw [hdecomposed]
    exact h.decomposed
  case faults =>
    -- the counter of the fault's own kind goes up, the other four stay
    intro kind
    have hrefusal : Booking.isRefusal kind (.access bus a (.error fault) false) =
        decide (fault.kind = kind) := rfl
    rw [faultCount_recordFault, List.countP_cons, hrefusal]
    by_cases hkind : fault.kind = kind
    · rw [if_pos hkind, decide_eq_true hkind]
      exact toNat_countUp16_of (h.faults kind)
    · rw [if_neg hkind, decide_eq_false hkind]
      exact h.faults kind
  case lastFault =>
    unfold recordFault
    cases fault.kind <;> rfl

/-- A completed access is counted, and once more if it was decomposed. -/
theorem TellOf.completed (h : d.TellOf recent) (bus : Bus ω δ γ) (a : Access) (o : Outcome) :
    (d.recordAccess (bus.carriesByLanes a)).TellOf (.access bus a (.ok o) false :: recent) := by
  constructor
  case accesses =>
    rw [List.countP_cons]
    exact toNat_countUp32_of h.accesses
  case trapped => exact h.trapped
  case decomposed =>
    -- the flag that is counted is what the booking says about the requests
    have hlanes : (Booking.access bus a (.ok o) false).byLanes = bus.carriesByLanes a := rfl
    rw [List.countP_cons, hlanes]
    unfold recordAccess
    dsimp only
    split_ifs
    · exact toNat_countUp32_of h.decomposed
    · exact h.decomposed
  case faults =>
    intro kind
    have hkind := h.faults kind
    cases kind <;> exact hkind
  case lastFault => exact h.lastFault

/-- An access that a trap has answered is counted as trapped and as an access, never as decomposed. -/
theorem TellOf.trappedFor (h : d.TellOf recent) (bus : Bus ω δ γ) (a : Access) (o : Outcome) :
    (d.recordTrapped.recordAccess false).TellOf (.access bus a (.ok o) true :: recent) := by
  constructor
  case accesses =>
    rw [List.countP_cons]
    exact toNat_countUp32_of h.accesses
  case trapped =>
    rw [List.countP_cons]
    exact toNat_countUp32_of h.trapped
  -- a trap answers in one piece
  case decomposed => exact h.decomposed
  case faults =>
    intro kind
    have hkind := h.faults kind
    cases kind <;> exact hkind
  case lastFault => exact h.lastFault

end Diagnostics

/-! ## The observer -/

namespace Trace

variable {before between after : Trace} {events later : List TraceEvent}

/-- What the bus has told of accesses, among all that the observer has heard. -/
def reports (t : Trace) : List TraceEvent :=
  t.events.toList.filter TraceEvent.isReport

/-- The observer, while he is attached and free, has heard of the accesses listed, in this order, and of no
other. -/
structure Tells (before after : Trace) (events : List TraceEvent) : Prop where
  attached : after.attached = before.attached
  busy : after.busy = before.busy
  reports : before.attached = true → before.busy = false →
    after.reports = before.reports ++ events

/-- Reports one after another. -/
theorem Tells.trans (h : Tells before between events) (h' : Tells between after later) :
    Tells before after (events ++ later) where
  attached := h'.attached.trans h.attached
  busy := h'.busy.trans h.busy
  reports := by
    intro hattached hfree
    rw [h'.reports (h.attached.trans hattached) (h.busy.trans hfree), h.reports hattached hfree,
      List.append_assoc]

/-- Hand-overs are not told of accesses. -/
theorem tells_of_handOvers (h : HearsHandOvers before after) : Tells before after [] where
  attached := h.attached
  busy := h.busy
  reports := by
    intro _ _
    -- what has come on top has no report among it
    obtain ⟨later, hlater, hhandOvers⟩ := h.events
    have hnone : later.filter TraceEvent.isReport = [] := by
      rw [List.filter_eq_nil_iff]
      intro e he
      rw [TraceEvent.isReport_of_isHandOver (hhandOvers e he)]
      exact Bool.false_ne_true
    rw [Trace.reports, hlater, List.filter_append, hnone]
    rfl

/-- The report of an access is heard by whoever listens. -/
theorem tells_emit (t : Trace) {e : TraceEvent} (he : e.isReport = true) :
    Tells t (t.emit e) [e] where
  attached := by
    unfold emit
    split_ifs <;> rfl
  busy := by
    unfold emit
    split_ifs <;> rfl
  -- an observer that listens hears the report at the end of all others
  reports := by
    intro hattached hfree
    rw [emit_of_free hattached hfree]
    show (t.events.push e).toList.filter TraceEvent.isReport = _
    rw [Array.toList_push, List.filter_append, List.filter_singleton, he]
    rfl

end Trace

/-! ## Deeds on a bus -/

namespace Bus

variable {ω δ γ : Type} {bus mid after first : Bus ω δ γ}

/-- Nothing has come into the books: the counters are those before, and the observer has heard of no
access. -/
structure SameBooks (before after : Bus ω δ γ) : Prop where
  geometry : after.table.geometry = before.table.geometry
  diagnostics : after.diagnostics = before.diagnostics
  trace : Trace.Tells before.backplane.trace after.backplane.trace []

variable [Device δ ω] [Card γ δ ω]

/-- What an access does to the books of a bus: the targets answer, and then it is counted and reported how
it ended. -/
structure AccessBooked (bus mid : Bus ω δ γ) (a : Access) : Prop where
  geometry : mid.table.geometry = bus.table.geometry
  counted : mid.diagnostics =
    bus.diagnostics.afterFloating ((bus.requests a).countP Request.isFloating)
  heard : HearsHandOvers bus.backplane.trace mid.backplane.trace
  ended : (∃ fault, bus.access a = (.error fault, mid.observe (bus.routing.normalize a) (.error fault))) ∨
    ∃ c : Completed, c.decomposed = bus.carriesByLanes a ∧
      bus.access a = (.ok c.outcome, mid.observe (bus.routing.normalize a) (.ok c))

/-- An access counts the floating bytes it asks for and may hand over the window; then its result, fault
or completion, is observed once. -/
theorem exists_accessBooked (bus : Bus ω δ γ) (a : Access) : ∃ mid, bus.AccessBooked mid a := by
  have hcounted := diagnostics_run (bus.routing.checked a) bus
  have hheard := hearsHandOvers_run (bus.routing.checked a) bus
  have hrouting := routing_run (bus.routing.checked a) bus
  have haccess : bus.access a =
      (((bus.routing.checked a).run answer bus).1.map Completed.outcome,
        ((bus.routing.checked a).run answer bus).2.observe (bus.routing.normalize a)
          ((bus.routing.checked a).run answer bus).1) := rfl
  -- `mid` is the bus after all requests, just before the result is observed
  refine ⟨((bus.routing.checked a).run answer bus).2, congrArg (fun r => r.table.geometry) hrouting,
    hcounted, hheard, ?_⟩
  rw [haccess]
  cases hend : ((bus.routing.checked a).run answer bus).1 with
  | error fault => exact .inl ⟨fault, rfl⟩
  | ok c => exact .inr ⟨c, decomposed_of_checked hend, rfl⟩

/-- One thing that is done with a bus, with the booking that it makes. -/
inductive Deed (bus : Bus ω δ γ) : Option (Booking ω δ γ) → Bus ω δ γ → Prop where
  | access (a : Access) : Deed bus (some (.access bus a (bus.access a).1 false)) (bus.access a).2
  /-- A look is an access of the debugger. -/
  | peek (address : UInt32) :
    Deed bus
      (some (.access bus (.read address .byte .debugRead)
        (bus.access (.read address .byte .debugRead)).1 false))
      (bus.peek address).2
  /-- So is a poke. -/
  | poke (address : UInt32) (value : UInt8) :
    Deed bus
      (some (.access bus (.write address .byte value.toUInt32 .debugWrite)
        (bus.access (.write address .byte value.toUInt32 .debugWrite)).1 false))
      (bus.poke address value).2
  /-- A trap answers an access. -/
  | recordTrapped (a : Access) (o : Outcome) :
    Deed bus (some (.access bus a (.ok o) true)) (bus.recordTrapped a o)
  /-- Direct calls are never flagged quiet, and the debugger makes none. -/
  | direct {a : Access} (h : a.sideEffectsAllowed = true) : Deed bus none (bus.direct a).2
  | resetDiagnostics : Deed bus (some .cleared) bus.resetDiagnostics
  /-- Something else happens that is not for the books. -/
  | aside {after : Bus ω δ γ} (h : bus.SameBooks after) : Deed bus none after

/-- Requests do not change the geometry of the pages. -/
theorem geometry_run {α : Type} (r : Requests α) (bus : Bus ω δ γ) :
    (r.run answer bus).2.table.geometry = bus.table.geometry :=
  congrArg (fun routing : Routing => routing.table.geometry) (routing_run r bus)

theorem geometry_access (bus : Bus ω δ γ) (a : Access) :
    (bus.access a).2.table.geometry = bus.table.geometry :=
  congrArg (fun routing : Routing => routing.table.geometry) (bus.routing_access a)

/-- A direct call asks for device cycles only. -/
theorem trusted_suits (r : Routing) {a : Access} (h : a.sideEffectsAllowed = true) :
    (r.trusted a).All (Request.Suits (r.normalize a)) := by
  have hnoticed : (r.normalize a).sideEffectsAllowed = true := by
    rw [Routing.normalize_sideEffectsAllowed, h]
  rw [Routing.trusted_of_noticed h]
  exact Routing.noticed_suits hnoticed r .trusted

/-- A direct call counts nothing. -/
theorem diagnostics_direct (bus : Bus ω δ γ) {a : Access} (h : a.sideEffectsAllowed = true) :
    (bus.direct a).2.diagnostics = bus.diagnostics := by
  have hnoticed : (bus.routing.normalize a).sideEffectsAllowed = true := by
    rw [Routing.normalize_sideEffectsAllowed, h]
  have hnone : ((bus.routing.trusted a).asked answer bus).countP Request.isFloating = 0 :=
    countP_isFloating_of_suits hnoticed fun request hrequest =>
      Requests.of_mem_asked (trusted_suits bus.routing h) hrequest
  show ((bus.routing.trusted a).run answer bus).2.diagnostics = _
  rw [diagnostics_run, hnone, Diagnostics.afterFloating_zero]

/-- Nothing that happens to a bus changes the geometry of its pages. -/
theorem Deed.geometry {booking? : Option (Booking ω δ γ)} (h : bus.Deed booking? after) :
    after.table.geometry = bus.table.geometry := by
  cases h with
  | access a => exact bus.geometry_access a
  | peek address => exact bus.geometry_access (.read address .byte .debugRead)
  | poke address value =>
    exact bus.geometry_access (.write address .byte value.toUInt32 .debugWrite)
  | recordTrapped a o => rfl
  | @direct a _ => exact geometry_run (bus.routing.trusted a) bus
  | resetDiagnostics => rfl
  | aside hsame => exact hsame.geometry

/-- The counters after an access tell of it. -/
theorem tellOf_access {recent : List (Booking ω δ γ)} (h : bus.diagnostics.TellOf recent) (a : Access) :
    (bus.access a).2.diagnostics.TellOf (.access bus a (bus.access a).1 false :: recent) := by
  -- bytes from the floating lines first, then how the access ended
  obtain ⟨mid, -, hcounted, -, hended⟩ := bus.exists_accessBooked a
  have hmid : mid.diagnostics.TellOf recent := by
    rw [hcounted]
    exact h.afterFloating _
  rcases hended with ⟨fault, hfault⟩ | ⟨c, hlanes, hdone⟩
  · rw [hfault]
    exact hmid.refused bus a fault
  · rw [hdone]
    show (mid.diagnostics.recordAccess c.decomposed).TellOf _
    rw [hlanes]
    exact hmid.completed bus a c.outcome

/-- What a deed does to the counters: those of an access, those of a trap, none at all after a reset, or
nothing. -/
theorem Deed.counted {booking? : Option (Booking ω δ γ)} (h : bus.Deed booking? after) :
    (∃ a, booking? = some (.access bus a (bus.access a).1 false) ∧
      after.diagnostics = (bus.access a).2.diagnostics) ∨
    (∃ a o, booking? = some (.access bus a (.ok o) true) ∧
      after.diagnostics = bus.diagnostics.recordTrapped.recordAccess false) ∨
    (booking? = some .cleared ∧ after.diagnostics = .zero) ∨
    (booking? = none ∧ after.diagnostics = bus.diagnostics) := by
  cases h with
  | access a => exact .inl ⟨a, rfl, rfl⟩
  | peek address => exact .inl ⟨.read address .byte .debugRead, rfl, rfl⟩
  | poke address value => exact .inl ⟨.write address .byte value.toUInt32 .debugWrite, rfl, rfl⟩
  | recordTrapped a o => exact .inr (.inl ⟨a, o, rfl, rfl⟩)
  | direct hnoticed => exact .inr (.inr (.inr ⟨rfl, bus.diagnostics_direct hnoticed⟩))
  | resetDiagnostics => exact .inr (.inr (.inl ⟨rfl, rfl⟩))
  | aside hsame => exact .inr (.inr (.inr ⟨rfl, hsame.diagnostics⟩))

/-- A deed keeps the counters in step with the log. -/
theorem Deed.tellOf {booking? : Option (Booking ω δ γ)} (h : bus.Deed booking? after)
    {log : List (Booking ω δ γ)} (htells : bus.diagnostics.TellOf (sinceCleared log)) :
    after.diagnostics.TellOf (sinceCleared (booking?.toList ++ log)) := by
  obtain ⟨a, rfl, hafter⟩ | ⟨a, o, rfl, hafter⟩ | ⟨rfl, hafter⟩ | ⟨rfl, hafter⟩ := h.counted <;>
    rw [hafter]
  · exact tellOf_access htells a
  · exact htells.trappedFor bus a o
  · exact Diagnostics.tellOf_zero
  · exact htells

/-- An access is reported as it is booked, when it is over. -/
theorem tells_access (bus : Bus ω δ γ) (a : Access) :
    Trace.Tells bus.backplane.trace (bus.access a).2.backplane.trace
      ([.access bus a (bus.access a).1 false].filterMap (Booking.event? bus.table.geometry)) := by
  obtain ⟨mid, hgeometry, -, hheard, hended⟩ := bus.exists_accessBooked a
  have hmid := Trace.tells_of_handOvers hheard
  -- the hand-overs come first, the report of the bus after them
  rcases hended with ⟨fault, hfault⟩ | ⟨c, hlanes, hdone⟩
  · rw [hfault]
    exact hmid.trans (mid.backplane.trace.tells_emit (e := .fault fault) rfl)
  · have hemit := hmid.trans (mid.backplane.trace.tells_emit
      (e := .access (bus.routing.normalize a).address (bus.routing.normalize a).width
        (bus.routing.normalize a).intent c.value c.cycles c.decomposed) rfl)
    rw [hlanes, Routing.normalize_address, Routing.normalize_width, Routing.normalize_intent] at hemit
    rw [hdone]
    show Trace.Tells _ (mid.backplane.trace.emit _) _
    rw [hlanes, Routing.normalize_address, Routing.normalize_width, Routing.normalize_intent]
    exact hemit

/-- A deed reports what its booking says. -/
theorem Deed.tells {booking? : Option (Booking ω δ γ)} (h : bus.Deed booking? after) :
    Trace.Tells bus.backplane.trace after.backplane.trace
      (booking?.toList.filterMap (Booking.event? bus.table.geometry)) := by
  cases h with
  | access a => exact bus.tells_access a
  | peek address => exact bus.tells_access (.read address .byte .debugRead)
  | poke address value => exact bus.tells_access (.write address .byte value.toUInt32 .debugWrite)
  | recordTrapped a o =>
    -- the bus reports a trapped access as it sees it, with its address cut to the lines of the bus
    have hemit := bus.backplane.trace.tells_emit
      (e := .access (bus.routing.normalize a).address (bus.routing.normalize a).width
        (bus.routing.normalize a).intent o.value o.cycles false) rfl
    rw [Routing.normalize_address, Routing.normalize_width, Routing.normalize_intent] at hemit
    show Trace.Tells _ (bus.backplane.trace.emit _) _
    rw [Routing.normalize_address, Routing.normalize_width, Routing.normalize_intent]
    exact hemit
  | @direct a _ => exact Trace.tells_of_handOvers (hearsHandOvers_run (bus.routing.trusted a) bus)
  | resetDiagnostics => exact Trace.tells_of_handOvers (.refl _)
  | aside hsame => exact hsame.trace

/-! ## Runs -/

/-- A run of deeds, with its log. -/
inductive Booked (first : Bus ω δ γ) : List (Booking ω δ γ) → Bus ω δ γ → Prop where
  | start : Booked first [] first
  | deed {log : List (Booking ω δ γ)} {bus after : Bus ω δ γ} {booking? : Option (Booking ω δ γ)}
    (h : Booked first log bus) (hdeed : bus.Deed booking? after) :
    Booked first (booking?.toList ++ log) after

/-- What a handler does inside a deed is booked after what came before. -/
theorem Booked.append {log inner : List (Booking ω δ γ)} (h : first.Booked log bus)
    (hinner : bus.Booked inner after) : first.Booked (inner ++ log) after := by
  induction hinner with
  | start => exact h
  | deed _ hdeed ih =>
    rw [List.append_assoc]
    exact ih.deed hdeed

/-- The geometry of the pages is that of the beginning. -/
theorem Booked.geometry {log : List (Booking ω δ γ)} (h : first.Booked log after) :
    after.table.geometry = first.table.geometry := by
  induction h with
  | start => rfl
  | deed _ hdeed ih => exact hdeed.geometry.trans ih

/-- What holds of clear counters, and is kept by every deed, holds of the counters and the bookings since
they were cleared; also from the start, when they were clear then. -/
theorem Booked.keeps {P : Diagnostics → List (Booking ω δ γ) → Prop} (hzero : P .zero [])
    (hkeeps : ∀ {bus after : Bus ω δ γ} {booking? : Option (Booking ω δ γ)}, bus.Deed booking? after →
      ∀ log, P bus.diagnostics (sinceCleared log) →
        P after.diagnostics (sinceCleared (booking?.toList ++ log)))
    {log : List (Booking ω δ γ)} (h : first.Booked log after)
    (hcleared : first.diagnostics = .zero ∨ .cleared ∈ log) :
    P after.diagnostics (sinceCleared log) := by
  induction h with
  | start =>
    rcases hcleared with hclear | hmem
    · rw [hclear]
      exact hzero
    · exact absurd hmem List.not_mem_nil
  | @deed log bus after booking? _ hdeed ih =>
    by_cases hclears : booking? = some .cleared
    · subst hclears
      cases hdeed with
      | resetDiagnostics => exact hzero
    · -- the counters were cleared before this deed, if ever
      have hearlier : first.diagnostics = .zero ∨ .cleared ∈ log := by
        refine hcleared.imp_right fun hmem => ?_
        rcases List.mem_append.1 hmem with hmem | hmem
        · exact absurd (Option.mem_toList.1 hmem) hclears
        · exact hmem
      exact hkeeps hdeed log (ih hearlier)

/-- From zero, or from the last time they were cleared, the counters tell of everything since. -/
theorem Booked.tellOf {log : List (Booking ω δ γ)} (h : first.Booked log after)
    (hcleared : first.diagnostics = .zero ∨ .cleared ∈ log) :
    after.diagnostics.TellOf (sinceCleared log) :=
  h.keeps Diagnostics.tellOf_zero (fun hdeed _ htells => hdeed.tellOf htells) hcleared

/-- The observer has heard one report for each booked access, in order. -/
theorem Booked.tells {log : List (Booking ω δ γ)} (h : first.Booked log after) :
    Trace.Tells first.backplane.trace after.backplane.trace
      (log.reverse.filterMap (Booking.event? first.table.geometry)) := by
  induction h with
  | start => exact Trace.tells_of_handOvers (.refl _)
  | @deed log bus after booking? hbefore hdeed ih =>
    have hstep := hdeed.tells
    rw [hbefore.geometry] at hstep
    -- the log has its latest booking first, the observer hears the earliest first
    have hevents : (booking?.toList ++ log).reverse.filterMap (Booking.event? first.table.geometry) =
        log.reverse.filterMap (Booking.event? first.table.geometry) ++
          booking?.toList.filterMap (Booking.event? first.table.geometry) := by
      rw [List.reverse_append, List.filterMap_append]
      cases booking? <;> rfl
    rw [hevents]
    exact ih.trans hstep

end Bus

/-! ## Runs of a machine -/

namespace Machine

variable {ω δ γ : Type} [Device δ ω] [Card γ δ ω] {first m after : Machine ω δ γ} {a : Access}
  {log inner : List (Booking ω δ γ)}

omit [Device δ ω] in
/-- A trap answers the access in place of the bus. -/
def answersFor (m : Machine ω δ γ) (a : Access) : Bool :=
  (m.traps.dispatch (m.bus.maskAddress a) m.trapContext).1.isSome

/-- The booking of an access of the processor: the bus stands as the traps have left it. -/
def booking (m : Machine ω δ γ) (a : Access) : Booking ω δ γ :=
  .access (m.pastTraps a).bus a (m.cpuAccess a).1 (m.answersFor a)

/-- An access that a trap answers never reaches the pages of the bus. -/
theorem cpuAccess_of_answer {o : Outcome}
    (h : (m.traps.dispatch (m.bus.maskAddress a) m.trapContext).1 = some o) :
    (m.cpuAccess a).1 = .ok o ∧
      (m.cpuAccess a).2.bus = (m.pastTraps a).bus.recordTrapped (m.bus.maskAddress a) o := by
  unfold cpuAccess pastTraps
  split_ifs with hempty
  · -- without traps nobody answers
    have hnone : m.traps.find? (m.bus.maskAddress a) = none := by
      rw [TrapTable.find?, List.isEmpty_iff.1 hempty]
      rfl
    have huntrapped : m.Untrapped a := (untrapped_of_find? hnone).1
    rw [huntrapped] at h
    cases h
  · dsimp only
    rcases hdispatch : m.traps.dispatch (m.bus.maskAddress a) m.trapContext with ⟨answer, c⟩
    rw [hdispatch] at h
    dsimp only at h
    subst h
    exact ⟨rfl, rfl⟩

/-- An access of the processor is a deed on the bus that the traps have left, as long as they leave the
geometry alone. -/
theorem deed_cpuAccess (hgeometry : (m.pastTraps a).bus.table.geometry = m.bus.table.geometry) :
    (m.pastTraps a).bus.Deed (some (m.booking a)) (m.cpuAccess a).2.bus := by
  -- the traps see the address cut already, and cutting it again changes nothing
  have hmask : m.bus.maskAddress a = (m.pastTraps a).bus.routing.maskAddress a := by
    unfold Bus.maskAddress Routing.maskAddress
    show _ = { a with address := a.address &&& (m.pastTraps a).bus.table.geometry.addressMask }
    rw [hgeometry]
    rfl
  unfold booking answersFor
  cases hanswer : (m.traps.dispatch (m.bus.maskAddress a) m.trapContext).1 with
  | none =>
    obtain ⟨hresult, hafter⟩ := cpuAccess_of_untrapped hanswer
    have hsame : (m.pastTraps a).bus.access (m.bus.maskAddress a) = (m.pastTraps a).bus.access a := by
      rw [hmask]
      exact Bus.access_maskAddress _ a
    rw [hresult, hafter, hsame]
    exact .access a
  | some o =>
    obtain ⟨hresult, hafter⟩ := cpuAccess_of_answer hanswer
    have hsame : (m.pastTraps a).bus.recordTrapped (m.bus.maskAddress a) o =
        (m.pastTraps a).bus.recordTrapped a o := by
      unfold Bus.recordTrapped
      rw [hmask, Routing.normalize_maskAddress]
    rw [hresult, hafter, hsame]
    exact .recordTrapped a o

/-- A run of a machine, with its log. -/
inductive Booked (first : Machine ω δ γ) : List (Booking ω δ γ) → Machine ω δ γ → Prop where
  | start : Booked first [] first
  /-- Somebody who has the bus uses it. -/
  | useBus {log inner : List (Booking ω δ γ)} {m : Machine ω δ γ} {bus : Bus ω δ γ}
    (h : Booked first log m) (hbus : m.bus.Booked inner bus) :
    Booked first (inner ++ log) { m with bus := bus }
  /-- The processor makes an access; a trap that sees it may use the bus meanwhile. -/
  | cpuAccess {log inner : List (Booking ω δ γ)} {m : Machine ω δ γ} (h : Booked first log m)
    (a : Access) (htrap : m.bus.Booked inner (m.pastTraps a).bus) :
    Booked first (m.booking a :: (inner ++ log)) (m.cpuAccess a).2
  /-- Something else happens that is not for the books. -/
  | aside {log : List (Booking ω δ γ)} {m after : Machine ω δ γ} (h : Booked first log m)
    (hsame : m.bus.SameBooks after.bus) : Booked first log after

/-- What is booked of a machine is what is booked of its bus. -/
theorem Booked.bus (h : first.Booked log m) : first.bus.Booked log m.bus := by
  induction h with
  | start => exact .start
  | useBus _ hbus ih => exact ih.append hbus
  | cpuAccess _ a htrap ih => exact (ih.append htrap).deed (deed_cpuAccess htrap.geometry)
  | aside _ hsame ih => exact ih.deed (.aside hsame)

/-- After a run the books of a machine are those of its log. The counters tell of the bookings since they
were cleared last, or since the start when they were clear then. An observer who was attached and free at
the start has heard of every access once, in order, with the address cut to the width of the bus and with
the value and cycles, or the fault, that was returned. -/
theorem books_of_booked (h : first.Booked log m) :
    (first.bus.diagnostics = .zero ∨ .cleared ∈ log →
      m.bus.diagnostics.TellOf (sinceCleared log)) ∧
    (first.bus.backplane.trace.attached = true → first.bus.backplane.trace.busy = false →
      m.bus.backplane.trace.reports = first.bus.backplane.trace.reports ++
        log.reverse.filterMap (Booking.event? first.bus.table.geometry)) :=
  ⟨h.bus.tellOf, h.bus.tells.reports⟩

/-- An observer watches a machine with four bytes of RAM in its first page. At the last address stands a
trap that reads the first byte of the RAM and answers with 0x60. -/
def watched : Machine Bench.Host Bench.Instrument Bench.TestCard :=
  let built : Machine Bench.Host Bench.Instrument Bench.TestCard :=
    bare Personality.legacy8.machineConfig {}
  { built with
    bus :=
      { built.bus with
        table := ⟨⟨16, 12⟩, #[some ⟨⟨1⟩, .ram, .full, .memory, ⟨0⟩, 0⟩] ++ Array.replicate 15 none⟩
        targets := #[.part (.ram ⟨#[0x11, 0x22, 0x33, 0x44]⟩)]
        backplane.trace := { attached := true } }
    traps.traps := [(0xFFFF, fun _ c =>
      (.handled 0x60 5, { c with bus := (c.bus.access (.read 0 .byte .dataRead)).2 }))] }

/-- A byte at the trap. -/
def atTheTrap : Access := .read 0xABCDFFFF .byte .dataRead

/-- The trap answers, the counters are cleared, a word of RAM is read, and a page is missing. -/
theorem books_of_booked_watched :
    let word : Access := .read 0 .word .dataRead
    let missing : Access := .write 0x8000 .dword 0 .dataWrite
    let answered := (watched.cpuAccess atTheTrap).2
    let cleared := { answered with bus := answered.bus.resetDiagnostics }
    let read := (cleared.cpuAccess word).2
    let last := (read.cpuAccess missing).2
    let log := [read.booking missing, cleared.booking word, .cleared, watched.booking atTheTrap,
      .access watched.bus (.read 0 .byte .dataRead) (.ok ⟨0x11, 1⟩) false]
    watched.Booked log last ∧ (watched.bus.diagnostics = .zero ∨ Booking.cleared ∈ log) ∧
      watched.bus.backplane.trace.attached = true ∧ watched.bus.backplane.trace.busy = false ∧
      last.bus.diagnostics.TellOf (sinceCleared log) ∧
      last.bus.diagnostics =
        { lastFault := some (.unmapped missing), accesses := 1, decomposed := 1, unmapped := 1 } ∧
      last.bus.backplane.trace.reports = log.reverse.filterMap (Booking.event? ⟨16, 12⟩) ∧
      last.bus.backplane.trace.reports =
        [.access 0 .byte .dataRead 0x11 1 false, .access 0xFFFF .byte .dataRead 0x60 5 false,
          .access 0 .word .dataRead 0x2211 2 true, .fault (.unmapped missing)] := by
  intro word missing answered cleared read last log
  -- the trap reads a byte itself before it answers
  have hinner : watched.bus.Booked [.access watched.bus (.read 0 .byte .dataRead) (.ok ⟨0x11, 1⟩) false]
      (watched.pastTraps atTheTrap).bus := by
    have hread : (watched.bus.access (.read 0 .byte .dataRead)).1 = .ok ⟨0x11, 1⟩ := by decide +kernel
    have hstart : watched.bus.Booked [] watched.bus := .start
    have hdeed := hstart.deed (.access (.read 0 .byte .dataRead))
    rw [hread] at hdeed
    exact hdeed
  -- the other accesses meet no trap
  have hword : cleared.bus.Booked [] (cleared.pastTraps word).bus := by
    rw [(untrapped_of_find? (Option.isNone_iff_eq_none.1 (by decide +kernel))).2]
    exact .start
  have hmissing : read.bus.Booked [] (read.pastTraps missing).bus := by
    rw [(untrapped_of_find? (Option.isNone_iff_eq_none.1 (by decide +kernel))).2]
    exact .start
  have hanswered := Booked.start.cpuAccess atTheTrap hinner
  have hcleared : watched.Booked _ cleared := hanswered.useBus (.deed .start .resetDiagnostics)
  have hrun : watched.Booked log last := (hcleared.cpuAccess word hword).cpuAccess missing hmissing
  obtain ⟨hcounters, hreports⟩ := books_of_booked hrun
  have hzero : watched.bus.diagnostics = .zero := rfl
  exact ⟨hrun, .inl hzero, rfl, rfl, hcounters (.inl hzero), by decide +kernel, hreports rfl rfl,
    by decide +kernel⟩

end Machine

end Motherboard
