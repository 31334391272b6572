import Motherboard.Proofs.Bookkeeping
import Motherboard.Proofs.TrapMatching

/-!
# What completed writes report

A completed write comes back with a value, and the observer hears a value, too. There are several ways to
complete a write: one device cycle, byte cycles, pokes, and the answer of a trap. Each makes up the result
for itself, and the report is made from the result.

The ways of the bus agree: they give back the value that was written (`Access.Echoes`,
`Routing.checked_echoes`). A trap gives what it likes, cut to the width, and its answer is taken for the
result of a write as it is for that of a read. So master and observer are told of the same value in any
case, and this is the value written just when no trap answers, or the trap answers with just that
(`Machine.cpuAccess_reports`).
-/

namespace Motherboard

open Trace (HearsHandOvers)

/-- If the result of a write is a value, it is the value written. -/
def Access.Echoes (a : Access) (result : Except Fault Completed) : Prop :=
  ∀ done, result = .ok done → done.value = a.value

theorem Access.echoes_error (a : Access) (fault : Fault) : a.Echoes (.error fault) := by
  intro done h
  cases h

/-! ## The ways of the bus -/

namespace Routing

variable {r : Routing} {a : Access} {checking : Checking}

/-- A write cycle gives the value that was handed to it, whatever the device makes of it. -/
theorem whole_echoes (hwrite : a.intent.isWrite = true) (entry : PageEntry) :
    (r.whole entry a).Ends a.Echoes := by
  unfold whole dispatch
  dsimp only
  rw [if_pos hwrite]
  split_ifs
  · rintro (e | _)
    · exact a.echoes_error _
    · rintro done ⟨⟩
      rfl
  · exact a.echoes_error _

/-- A decomposed write gives back the whole value, though it has written it byte by byte. -/
theorem lanesFrom_echoes (hwrite : a.intent.isWrite = true) (lanes : List Nat) (value cycles : UInt32) :
    (r.lanesFrom checking a lanes value cycles).Ends a.Echoes := by
  induction lanes generalizing value cycles with
  | nil =>
    rintro done ⟨⟩
    exact if_pos hwrite
  | cons i lanes ih =>
    -- bytes and cycles add up as they like: the value given back at the end is that of the access
    refine (Requests.ends_true _).bind ?_
    rintro (fault | ⟨byte, cost⟩) -
    · exact a.echoes_error _
    · exact ih _ _

theorem silentFrom_echoes (hwrite : a.intent.isWrite = true) (lanes : List Nat) (value : UInt32) :
    (r.silentFrom a lanes value).Ends a.Echoes := by
  induction lanes generalizing value with
  | nil =>
    rintro done ⟨⟩
    exact if_pos hwrite
  | cons i lanes ih =>
    unfold silentFrom
    dsimp only
    cases r.table.entryFor? (r.lane a i).address with
    | none => exact a.echoes_error _
    | some entry =>
      dsimp only
      rw [if_pos hwrite]
      split_ifs
      · -- stored or not, the byte counts as written
        exact fun _ => ih value
      · exact ih value
      · exact a.echoes_error _

theorem silent_echoes (hwrite : a.intent.isWrite = true) : (r.silent checking a).Ends a.Echoes := by
  unfold silent
  split_ifs
  · cases r.checkLanesFrom a a.laneNumbers with
    | error fault => exact a.echoes_error fault
    | ok _ => exact silentFrom_echoes hwrite _ _
  · exact silentFrom_echoes hwrite _ _

/-- Every write with side effects gives back its value. -/
theorem noticed_echoes (hwrite : a.intent.isWrite = true) : (r.noticed checking a).Ends a.Echoes := by
  unfold noticed
  cases r.resolve checking a with
  | error fault => exact a.echoes_error fault
  | ok entry =>
    dsimp only
    split_ifs
    · exact whole_echoes hwrite entry
    · -- misaligned
      exact a.echoes_error _
    · cases r.route a entry with
      | wide => exact whole_echoes hwrite entry
      | lanes => exact lanesFrom_echoes hwrite _ _ _

/-- Every way in which the bus completes a write gives the value written. -/
theorem checked_echoes (hwrite : a.intent.isWrite = true) : (r.checked a).Ends a.Echoes := by
  -- address and byte order are those of the bus, but the value stays as issued
  have hvalue : (r.normalize a).Echoes = a.Echoes := by
    unfold Access.Echoes
    rw [normalize_value]
  rw [← hvalue]
  have hwrite' : (r.normalize a).intent.isWrite = true := by rwa [normalize_intent]
  unfold checked execute
  split_ifs
  · exact noticed_echoes hwrite'
  · exact silent_echoes hwrite'

end Routing

/-! ## Reports -/

namespace Bus

variable {ω γ δ : Type} {before after : Bus ω δ γ} {a : Access} {o : Outcome}

/-- The last that the observer has heard is that the access was completed, with the same value and at the
same cost as its master is told. Before it he has heard of nothing but hand-overs of the window. -/
def ReportsLast (before after : Bus ω δ γ) (a : Access) (o : Outcome) : Prop :=
  ∃ heard decomposed, HearsHandOvers before.backplane.trace heard ∧
    after.backplane.trace =
      heard.emit (.access (before.routing.normalize a).address a.width a.intent o.value o.cycles decomposed)

/-- The completion of an access is reported last, after the hand-overs on its way. -/
theorem reportsLast_observe {mid : Bus ω δ γ}
    (hheard : HearsHandOvers before.backplane.trace mid.backplane.trace) (c : Completed) :
    ReportsLast before (mid.observe (before.routing.normalize a) (.ok c)) a c.outcome := by
  refine ⟨mid.backplane.trace, c.decomposed, hheard, ?_⟩
  show mid.backplane.trace.emit _ = _
  rw [Routing.normalize_width, Routing.normalize_intent]
  rfl

variable [Device δ ω] [Card γ δ ω] {bus : Bus ω δ γ}

/-- A completed access is reported with its outcome. -/
theorem reportsLast_access (h : (bus.access a).1 = .ok o) : ReportsLast bus (bus.access a).2 a o := by
  obtain ⟨mid, -, -, hheard, ⟨fault, hfault⟩ | ⟨c, -, hdone⟩⟩ := bus.exists_accessBooked a
  · rw [hfault] at h
    cases h
  · rw [hdone] at h ⊢
    cases h
    exact reportsLast_observe hheard c

/-- A write that the bus completes gives back its value. -/
theorem value_access (hwrite : a.intent.isWrite = true) (h : (bus.access a).1 = .ok o) :
    o.value = a.value := by
  have hechoes := Requests.run_of_ends (Routing.checked_echoes (r := bus.routing) hwrite) answer bus
  unfold access at h
  dsimp only at h
  cases hrun : ((bus.routing.checked a).run answer bus).1 with
  | error fault =>
    rw [hrun] at h
    cases h
  | ok c =>
    rw [hrun] at h
    cases h
    exact hechoes c hrun

end Bus

/-! ## Writes of the processor -/

namespace Machine

variable {ω γ δ : Type} [Card γ δ ω] {m : Machine ω δ γ} {a : Access} {o : Outcome}

/-- The value and the cost that a trap answers with, in place of the bus. -/
def trapAnswer? (m : Machine ω δ γ) (a : Access) : Option (UInt32 × UInt32) :=
  match m.trapMet? a with
  | none => none
  | some (_, trap) =>
    match (m.trapped trap a).1 with
    | .passThrough => none
    | .handled value cycles => some (value, cycles)

/-- What a trap answers with is cut to the width of the access. -/
theorem dispatch_eq_trapAnswer? (m : Machine ω δ γ) (a : Access) :
    (m.traps.dispatch (m.bus.maskAddress a) m.trapContext).1 =
      (m.trapAnswer? a).map fun (value, cycles) => ⟨value &&& a.width.mask, cycles⟩ := by
  unfold trapAnswer? trapMet? trapped TrapTable.dispatch
  have hmasked : (m.bus.maskAddress a).sideEffectsAllowed = a.sideEffectsAllowed := rfl
  rw [hmasked]
  split_ifs
  · cases m.traps.find? (m.bus.maskAddress a) with
    | none => rfl
    | some entry =>
      obtain ⟨address, trap⟩ := entry
      dsimp only
      rcases trap (m.bus.maskAddress a) m.trapContext with ⟨_ | _, c⟩ <;> rfl
  · rfl

variable [Device δ ω]

/-- Whichever way an access of the processor is completed, what is reported is the result. -/
theorem reportsLast_cpuAccess (h : (m.cpuAccess a).1 = .ok o) :
    Bus.ReportsLast (m.pastTraps a).bus (m.cpuAccess a).2.bus (m.bus.maskAddress a) o := by
  cases hanswer : (m.traps.dispatch (m.bus.maskAddress a) m.trapContext).1 with
  -- the bus carries out the access and reports it
  | none =>
    obtain ⟨hresult, hafter⟩ := cpuAccess_of_untrapped hanswer
    rw [hafter]
    exact Bus.reportsLast_access (hresult.symm.trans h)
  -- the machine reports the answer of the trap
  | some given =>
    obtain ⟨hresult, hafter⟩ := cpuAccess_of_answer hanswer
    obtain rfl : given = o := Except.ok.inj (hresult.symm.trans h)
    rw [hafter]
    exact Bus.reportsLast_observe (.refl _) ⟨given.value, given.cycles, false⟩

/-- A write of the processor gives back its value, or that of the trap that answered it, cut to its width.
-/
theorem value_cpuAccess (hwrite : a.intent.isWrite = true) (h : (m.cpuAccess a).1 = .ok o) :
    o.value = match m.trapAnswer? a with
      | none => a.value
      | some (value, _) => value &&& a.width.mask := by
  have hdispatch := m.dispatch_eq_trapAnswer? a
  cases hanswer : m.trapAnswer? a with
  -- not met, or passed on
  | none =>
    rw [hanswer] at hdispatch
    obtain ⟨hresult, -⟩ := cpuAccess_of_untrapped hdispatch
    exact Bus.value_access (a := m.bus.maskAddress a) hwrite (hresult.symm.trans h)
  | some given =>
    rw [hanswer] at hdispatch
    obtain ⟨hresult, -⟩ := cpuAccess_of_answer hdispatch
    rw [← Except.ok.inj (hresult.symm.trans h)]

/-- A completed write of the processor reports one value, to its master and to the observer. It is the
value written unless a trap answers; then it is the value of the trap, cut to the width, and the two are
the same only where the trap answers so. -/
theorem cpuAccess_reports (hwrite : a.intent.isWrite = true) (h : (m.cpuAccess a).1 = .ok o) :
    Bus.ReportsLast (m.pastTraps a).bus (m.cpuAccess a).2.bus (m.bus.maskAddress a) o ∧
      (m.trapAnswer? a = none → o.value = a.value) ∧
      (∀ value cycles, m.trapAnswer? a = some (value, cycles) → o.value = value &&& a.width.mask) ∧
      (o.value = a.value ↔
        ∀ value cycles, m.trapAnswer? a = some (value, cycles) → value &&& a.width.mask = a.value) := by
  have hvalue := value_cpuAccess hwrite h
  refine ⟨reportsLast_cpuAccess h, ?_, ?_, ?_⟩
  · intro hnone
    rw [hvalue, hnone]
  · intro value cycles hsome
    rw [hvalue, hsome]
  · -- Without a trap the value is the one written. With one it is the trap's, and the condition says when
    -- the two are the same.
    cases hanswer : m.trapAnswer? a with
    | none =>
      rw [hanswer] at hvalue
      exact ⟨nofun, fun _ => hvalue⟩
    | some given =>
      rw [hanswer] at hvalue
      rw [hvalue]
      refine ⟨?_, fun hsame => hsame _ _ rfl⟩
      rintro hsame value cycles ⟨⟩
      exact hsame

/-- An eight-bit machine with an observer, and a trap at sixteen that answers. -/
def answering : Machine Bench.Host Bench.Instrument Bench.TestCard :=
  let built := bare Personality.legacy8.machineConfig {}
  { built with
    bus.backplane.trace := { attached := true }
    traps := { policy := .manual, traps := [(16, fun _ c => (.handled 0x60 5, c))] } }

/-- The byte written is 0xAA, but master and observer are told of the 0x60 of the trap. -/
theorem cpuAccess_reports_answering :
    let a := Access.write 16 .byte 0xAA .dataWrite
    a.intent.isWrite = true ∧ (answering.cpuAccess a).1 = .ok ⟨0x60, 5⟩ ∧ a.value = 0xAA ∧
      (answering.cpuAccess a).2.bus.backplane.trace.events = #[.access 16 .byte .dataWrite 0x60 5 false] ∧
      ¬∀ value cycles, answering.trapAnswer? a = some (value, cycles) →
        value &&& a.width.mask = a.value := by
  intro a
  have hresult : (answering.cpuAccess a).1 = .ok ⟨0x60, 5⟩ := by decide +kernel
  obtain ⟨-, -, -, hiff⟩ := cpuAccess_reports (a := a) rfl hresult
  refine ⟨rfl, hresult, by decide +kernel, by decide +kernel, fun hsame => ?_⟩
  exact absurd (hiff.2 hsame) (by decide +kernel)

end Machine

end Motherboard
