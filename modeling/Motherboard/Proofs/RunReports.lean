import Motherboard.Proofs.HandOver
import Motherboard.Proofs.WriteProtection

/-!
# What a run of requests leaves in the books

While the targets answer, the bus has counted and reported nothing yet: that comes when the access has
ended. Two things come earlier. Every byte that the bus takes from the floating lines is counted at once,
so the counters after a run are those before it but for the bytes that were asked for
(`diagnostics_run`). And the byte cycles of an I/O page select, so the rack may report that the expansion
window changes hands. Nothing else reaches the observer from a target (`hearsHandOvers_run`).
-/

namespace Motherboard

/-! ## The counters -/

/-- A 32-bit counter saturates. -/
theorem toNat_countUp32 (n : UInt32) : (countUp32 n).toNat = min (n.toNat + 1) (2 ^ 32 - 1) := by
  have hlt := n.toNat_lt
  unfold countUp32
  split_ifs with hfull
  · -- the counter stands at its end
    have hn : n.toNat = 2 ^ 32 - 1 := by rw [hfull]; rfl
    omega
  · have hn : n.toNat ≠ 2 ^ 32 - 1 := fun hn => hfull (UInt32.toNat_inj.1 hn)
    rw [UInt32.toNat_add]
    show (n.toNat + 1) % 2 ^ 32 = _
    omega

/-- A 16-bit counter saturates. -/
theorem toNat_countUp16 (n : UInt16) : (countUp16 n).toNat = min (n.toNat + 1) (2 ^ 16 - 1) := by
  have hlt := n.toNat_lt
  unfold countUp16
  split_ifs with hfull
  · have hn : n.toNat = 2 ^ 16 - 1 := by rw [hfull]; rfl
    omega
  · have hn : n.toNat ≠ 2 ^ 16 - 1 := fun hn => hfull (UInt16.toNat_inj.1 hn)
    rw [UInt16.toNat_add]
    show (n.toNat + 1) % 2 ^ 16 = _
    omega

/-- The request takes a byte from the floating lines. -/
def Request.isFloating : Request → Bool
  | .floating _ => true
  | _ => false

namespace Diagnostics

/-- The counters when `count` more bytes were taken from the floating lines. -/
def afterFloating (d : Diagnostics) (count : Nat) : Diagnostics :=
  recordFloatingRead^[count] d

@[simp] theorem afterFloating_zero (d : Diagnostics) : d.afterFloating 0 = d := rfl

/-- Only one counter tells how many bytes were taken. -/
theorem afterFloating_eq (d : Diagnostics) (count : Nat) :
    d.afterFloating count = { d with floatingReads := (d.afterFloating count).floatingReads } := by
  induction count generalizing d with
  | zero => rfl
  | succ count ih => exact ih d.recordFloatingRead

/-- Any number of floating reads count up to the end of the counter. -/
theorem toNat_floatingReads_afterFloating (d : Diagnostics) (count : Nat) :
    (d.afterFloating count).floatingReads.toNat =
      min (d.floatingReads.toNat + count) (2 ^ 32 - 1) := by
  induction count generalizing d with
  | zero =>
    have hlt := d.floatingReads.toNat_lt
    show d.floatingReads.toNat = _
    omega
  | succ count ih =>
    have hone : d.recordFloatingRead.floatingReads.toNat =
        min (d.floatingReads.toNat + 1) (2 ^ 32 - 1) := toNat_countUp32 _
    show (d.recordFloatingRead.afterFloating count).floatingReads.toNat = _
    rw [ih, hone]
    omega

end Diagnostics

/-! ## Hand-overs -/

namespace TraceEvent

/-- The bus tells how an access ended. -/
def isReport : TraceEvent → Bool
  | .access .. | .fault _ => true
  | _ => false

/-- The rack tells that the expansion window has changed hands. -/
def isHandOver : TraceEvent → Bool
  | .expansion .. => true
  | _ => false

/-- The report of a hand-over is not the report of an access. -/
theorem isReport_of_isHandOver {e : TraceEvent} (h : e.isHandOver = true) : e.isReport = false := by
  cases e with
  | expansion previous current => rfl
  | _ => cases h

end TraceEvent

namespace Trace

variable {before between after : Trace}

/-- The observer has heard of hand-overs of the expansion window, and of nothing else. -/
structure HearsHandOvers (before after : Trace) : Prop where
  attached : after.attached = before.attached
  busy : after.busy = before.busy
  events : ∃ later : List TraceEvent,
    after.events.toList = before.events.toList ++ later ∧ ∀ e ∈ later, e.isHandOver = true

theorem HearsHandOvers.refl (t : Trace) : HearsHandOvers t t where
  attached := rfl
  busy := rfl
  events := ⟨[], (List.append_nil _).symm, fun _ he => absurd he List.not_mem_nil⟩

/-- Hand-overs heard one after another. -/
theorem HearsHandOvers.trans (h : HearsHandOvers before between)
    (h' : HearsHandOvers between after) : HearsHandOvers before after where
  attached := h'.attached.trans h.attached
  busy := h'.busy.trans h.busy
  events := by
    obtain ⟨earlier, hearlier, hfirst⟩ := h.events
    obtain ⟨later, hlater, hsecond⟩ := h'.events
    -- what was heard first and what was heard then
    refine ⟨earlier ++ later, ?_, ?_⟩
    · rw [hlater, hearlier, List.append_assoc]
    · intro e he
      rcases List.mem_append.1 he with he | he
      · exact hfirst e he
      · exact hsecond e he

theorem HearsHandOvers.of_eq (h : after = before) : HearsHandOvers before after := by
  rw [h]
  exact .refl before

/-- One hand-over that is reported. -/
theorem hearsHandOvers_emit (t : Trace) (previous current : Option UInt8) :
    HearsHandOvers t (t.emit (.expansion previous current)) := by
  unfold emit
  split_ifs
  · refine ⟨rfl, rfl, [.expansion previous current], Array.toList_push, ?_⟩
    intro e he
    rw [List.mem_singleton.1 he]
    rfl
  · exact .refl t

end Trace

open Trace (HearsHandOvers)

/-! ## The rack -/

namespace Backplane

variable {ω γ δ : Type} [Card γ δ ω]

/-- Giving the window to another slot, or to none, is a hand-over. -/
theorem hearsHandOvers_give (b : Backplane ω γ) (next : Option UInt8) :
    HearsHandOvers b.trace (b.give next).trace := by
  have htold : ((b.tell? b.rack.owner Card.deselected).tell? next Card.selected).trace = b.trace := by
    rw [trace_tell?, trace_tell?]
  have hemit := Trace.hearsHandOvers_emit b.trace
    ((b.tell? b.rack.owner Card.deselected).tell? next Card.selected).rack.owner next
  rw [← htold] at hemit ⊢
  exact hemit

/-- A release is one, if somebody owned the window. -/
theorem hearsHandOvers_releaseWindow (b : Backplane ω γ) :
    HearsHandOvers b.trace b.releaseWindow.trace := by
  by_cases howner : b.rack.owner = none
  · refine .of_eq ?_
    unfold releaseWindow
    rw [howner]
  · rw [releaseWindow_eq_give howner]
    exact b.hearsHandOvers_give none

/-- A snoop is at most one. -/
theorem hearsHandOvers_snoop (b : Backplane ω γ) (slot : UInt8) :
    HearsHandOvers b.trace (b.snoop slot).2.trace := by
  by_cases hcard : (b.rack.card? slot).isSome
  · by_cases howner : b.rack.owner = some slot
    · exact .of_eq (congrArg Backplane.trace (snoop_snd_eq_self (.inl howner)))
    · have hsnoop : b.snoop slot = (true, b.give (some slot)) := by
        rw [snoop, selectSlot_eq_give hcard howner]
      rw [hsnoop]
      exact b.hearsHandOvers_give (some slot)
  · -- nobody is there to be selected
    rw [← snoop_fst, Bool.not_eq_true] at hcard
    exact .of_eq (congrArg Backplane.trace (snoop_snd_eq_self (.inr hcard)))

/-- A touch of an offset reports hand-overs and nothing else. -/
theorem hearsHandOvers_touch (b : Backplane ω γ) (layout : IoPageLayout) (overrides : RomOverrides)
    (offset : UInt32) : HearsHandOvers b.trace (b.touch layout overrides offset).2.trace := by
  unfold touch
  cases layout.classify offset with
  | expansion relative =>
    dsimp only
    -- internal ROM hides the slot from the snoop
    split_ifs
    · exact b.hearsHandOvers_releaseWindow
    · exact .refl b.trace
  | slotRom slot relative =>
    have hsnoop := b.hearsHandOvers_snoop slot
    dsimp only
    split_ifs
    · exact .refl b.trace
    · rcases hafter : b.snoop slot with ⟨_ | _, after⟩ <;>
      · rw [hafter] at hsnoop
        exact hsnoop
  | _ => exact .refl b.trace

end Backplane

/-! ## The I/O page -/

namespace IoPage

variable {ω γ δ : Type} [Card γ δ ω]

/-- Putting a part back into its seat is not reported. -/
theorem trace_replaceAt (p : IoPage δ) (b : Backplane ω γ) (seat : Seat) (part : Part δ)
    (board : Board ω) : (p.replaceAt b seat part board).2.trace = b.trace := by
  cases seat with
  | own own relative => rfl
  | card slot region relative =>
    unfold replaceAt
    dsimp only
    cases b.rack.card? slot <;> rfl

/-- A byte cycle hands the window over at most; the part that answers has no observer to tell. -/
theorem hearsHandOvers_cycle {α : Type} (c : UInt32 → Cycle (Part δ × Board ω) α) (offset : UInt32)
    (s : IoPage δ × Backplane ω γ) : HearsHandOvers s.2.trace (cycle c offset s).2.2.trace := by
  obtain ⟨p, b⟩ := s
  by_cases hfree : b.hold = .free
  · have htouched : HearsHandOvers b.trace (p.touched b offset).trace :=
      b.hearsHandOvers_touch _ _ _
    rw [cycle_eq_touched hfree]
    dsimp only
    cases p.dispatched? (p.touched b offset) offset with
    | none => exact htouched
    -- putting a part back is not reported
    | some found => exact htouched.trans (.of_eq (p.trace_replaceAt _ _ _ _))
  · unfold cycle
    dsimp only
    rw [if_neg hfree]
    exact .refl b.trace

variable [Device δ ω]

/-- A byte read of an I/O page reports what its touch does. -/
theorem hearsHandOvers_read8 (offset : UInt32) (access : Access) (s : IoPage δ × Backplane ω γ) :
    HearsHandOvers s.2.trace (read8 offset access s).2.2.trace := by
  have hcycle := hearsHandOvers_cycle (fun relative => Part.read .byte relative access) offset s
  unfold read8
  rcases hafter : cycle (fun relative => Part.read .byte relative access) offset s with
    ⟨_ | _ | byte, p, b⟩ <;>
  · rw [hafter] at hcycle
    exact hcycle

/-- A poke reports nothing. -/
theorem trace_poke (offset : UInt32) (value : UInt8) (p : IoPage δ) (b : Backplane ω γ) :
    (p.poke offset value b).2.2.trace = b.trace := by
  unfold poke
  split
  · rfl
  · rfl
  · rfl
  · rcases p.snd_pokeCard b offset value with hself | ⟨slot, region, relative, part, -, -, hpoke⟩
    · rw [hself]
    · rw [hpoke]
      exact p.trace_replaceAt _ _ _ _

end IoPage

/-! ## The bus -/

namespace Bus

variable {ω δ γ : Type} {bus : Bus ω δ γ}

/-- The observer hears of hand-overs only, where no target lets him hear of anything else. -/
theorem hearsHandOvers_onTarget {α : Type} (id : TargetId) (missing : α)
    {f : Target δ → Backplane ω γ → α × Target δ × Backplane ω γ}
    (h : ∀ t b, HearsHandOvers b.trace (f t b).2.2.trace) :
    HearsHandOvers bus.backplane.trace (bus.onTarget id missing f).2.backplane.trace := by
  rw [backplane_onTarget]
  cases bus.target? id with
  | none => exact .refl _
  | some t => exact h t bus.backplane

theorem diagnostics_onTarget {α : Type} (bus : Bus ω δ γ) (id : TargetId) (missing : α)
    (f : Target δ → Backplane ω γ → α × Target δ × Backplane ω γ) :
    (bus.onTarget id missing f).2.diagnostics = bus.diagnostics := by
  unfold onTarget onTarget?
  cases bus.target? id <;> rfl

variable [Device δ ω] [Card γ δ ω]

/-- A request reports hand-overs and nothing else. -/
theorem hearsHandOvers_answer (request : Request) (bus : Bus ω δ γ) :
    HearsHandOvers bus.backplane.trace (answer request bus).2.backplane.trace := by
  -- of all targets an I/O page alone reaches the rack
  cases request with
  | read id width offset access =>
    apply hearsHandOvers_onTarget
    rintro (p | p) b
    · exact .refl b.trace
    · refine Cycle.read_keeps
        (J := fun s : IoPage δ × Backplane ω γ => HearsHandOvers b.trace s.2.trace) ?_ width offset
        access (.refl b.trace)
      exact fun offset access s hs => hs.trans (IoPage.hearsHandOvers_read8 offset access s)
  | write id width offset value access =>
    apply hearsHandOvers_onTarget
    rintro (p | p) b
    · exact .refl b.trace
    · refine Cycle.write_keeps
        (J := fun s : IoPage δ × Backplane ω γ => HearsHandOvers b.trace s.2.trace) ?_ width offset
        value access (.refl b.trace)
      exact fun offset value access s hs => hs.trans (IoPage.hearsHandOvers_cycle _ offset s)
  | peek id offset => exact hearsHandOvers_onTarget id none fun _ b => .refl b.trace
  | poke id offset value =>
    apply hearsHandOvers_onTarget
    rintro (p | p) b
    · exact .refl b.trace
    · exact .of_eq (p.trace_poke offset value b)
  | floating address => exact .refl _

/-- Whatever is asked, the observer hears of hand-overs at most. -/
theorem hearsHandOvers_run {α : Type} (r : Requests α) (bus : Bus ω δ γ) :
    HearsHandOvers bus.backplane.trace (r.run answer bus).2.backplane.trace := by
  apply r.run_keeps (I := fun after : Bus ω δ γ =>
    HearsHandOvers bus.backplane.trace after.backplane.trace) _ (.refl _)
  exact fun request after h => h.trans (hearsHandOvers_answer request after)

/-- Of all requests only those for the floating value are counted. -/
theorem diagnostics_answer (request : Request) (bus : Bus ω δ γ) :
    (answer request bus).2.diagnostics =
      bus.diagnostics.afterFloating (if request.isFloating then 1 else 0) := by
  cases request with
  | floating address => rfl
  | _ => exact bus.diagnostics_onTarget _ _ _

/-- A run counts the bytes that the bus takes from the floating lines, and nothing else. -/
theorem diagnostics_run {α : Type} (r : Requests α) (bus : Bus ω δ γ) :
    (r.run answer bus).2.diagnostics =
      bus.diagnostics.afterFloating ((r.asked answer bus).countP Request.isFloating) := by
  induction r generalizing bus with
  | done a => rfl
  | ask request next ih =>
    rw [Requests.run_ask, Requests.asked_ask, ih, diagnostics_answer, List.countP_cons]
    -- first the byte of this request, then those of the rest
    exact (Function.iterate_add_apply Diagnostics.recordFloatingRead _ _ bus.diagnostics).symm

/-- An access that devices may notice takes nothing from the floating lines. -/
theorem countP_isFloating_of_suits {requests : List Request} {a : Access}
    (hnoticed : a.sideEffectsAllowed = true) (h : ∀ request ∈ requests, request.Suits a) :
    requests.countP Request.isFloating = 0 := by
  rw [List.countP_eq_zero]
  intro request hrequest
  cases request with
  | floating address =>
    have hsilent : a.sideEffectsAllowed = false := (h _ hrequest).1
    rw [hnoticed] at hsilent
    cases hsilent
  | _ => exact Bool.false_ne_true

end Bus

end Motherboard
