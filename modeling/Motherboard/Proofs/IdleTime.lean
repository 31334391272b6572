import Motherboard.Proofs.FastForward
import Motherboard.Proofs.MachineRuns
import Motherboard.Bench.Instrument

/-!
# Idle time

An idle processor sleeps until the first event, and the machine answers with the difference between its
clock after and before. Handlers are given the scheduler itself. As long as they schedule and cancel, the
clock is where the jump has set it, and the difference is the time slept. A handler may reset the
scheduler as well, which sets the clock to zero under the pass that runs. The difference is then what is
left of 64 bits, and it is no time at all when the clock has not come back to where it was before
(`idleUntilNextEvent_accounts`).
-/

namespace Motherboard

open Relation (ReflTransGen)

namespace Scheduler

/-- Operations of an allowed kind lead from one scheduler to the other. -/
def Operated (allowed : Operation → Prop) : Scheduler → Scheduler → Prop :=
  ReflTransGen fun s after => ∃ op, allowed op ∧ after = (op.perform s).2

/-- Calls of a scheduler never set its clock forward. -/
theorem Operated.now_le {allowed : Operation → Prop} {s after : Scheduler}
    (h : Operated allowed s after) : after.now ≤ s.now := by
  induction h with
  | refl => exact UInt64.le_refl _
  | tail _ hop ih =>
    obtain ⟨op, -, rfl⟩ := hop
    exact UInt64.le_trans (now_perform_le op _) ih

/-- Without a reset they leave it alone. -/
theorem Operated.now_eq {allowed : Operation → Prop} (hnone : ∀ op, allowed op → op ≠ .reset)
    {s after : Scheduler} (h : Operated allowed s after) : after.now = s.now := by
  induction h with
  | refl => rfl
  | tail _ hop ih =>
    obtain ⟨op, hallowed, rfl⟩ := hop
    exact (now_perform_of_ne_reset (hnone op hallowed) _).trans ih

/-- A jump finds nothing, or it is a pass up to the later of now and the first due cycle. -/
theorem jump_cases {ψ : Type} {react : Reaction ψ} {bound : Nat} {s s' : Scheduler} {world world' : ψ}
    {woken : Bool} (h : s.jump react bound world = some (woken, s', world')) :
    (woken = false ∧ s.queue = []) ∨
      ∃ due count, woken = true ∧ s.nextDue? = some due ∧
        pass react (laterCycle s.now due) bound 0 { s with now := laterCycle s.now due } world =
          some (count, s', world') := by
  unfold jump at h
  cases hdue : s.nextDue? with
  | none =>
    rw [hdue] at h
    cases h
    exact .inl ⟨rfl, nextDue?_eq_none_iff.1 hdue⟩
  -- something waits: the rest is a pass that starts at the due cycle
  | some due =>
    rw [hdue] at h
    obtain ⟨⟨count, last, after⟩, hpass, heq⟩ := Option.map_eq_some_iff.1 h
    cases heq
    exact .inr ⟨due, count, rfl, rfl, hpass⟩

end Scheduler

open Scheduler (Operated Operation)

variable {ω δ γ : Type}

/-- What the handler does to the scheduler are operations of an allowed kind. -/
def EventHandler.Operates (handler : EventHandler ω δ γ) (allowed : Operation → Prop) : Prop :=
  ∀ (event : Event) (c : EventContext ω δ γ), Operated allowed c.scheduler (handler event c).scheduler

namespace Machine

/-- A handler that only calls the scheduler leaves it with those calls made. -/
theorem operated_react {handlers : HandlerTable ω δ γ} {allowed : Operation → Prop}
    (h : ∀ handler ∈ handlers.handlers, EventHandler.Operates handler allowed) (event : Event)
    (s : Scheduler) (world : Surroundings ω δ γ) :
    Operated allowed s (react handlers event s world).1 := by
  unfold react
  dsimp only
  cases hfound : handlers.get? event.handler with
  | none => exact .refl
  | some handler => exact h handler (Array.mem_of_getElem? hfound) event ⟨s, world.1, _⟩

variable {m after : Machine ω δ γ} {bound : Nat} {slept : Option UInt64}

/-- What an idle machine has slept is the difference of its clocks, after a pass of its scheduler. -/
theorem idleUntilNextEvent_cases (h : m.idleUntilNextEvent bound = some (slept, after)) :
    (slept = none ∧ m.scheduler.queue = []) ∨
      ∃ due count world, slept = some (after.scheduler.now - m.scheduler.now) ∧
        m.scheduler.nextDue? = some due ∧
        Scheduler.pass (react m.handlers) (laterCycle m.scheduler.now due) bound 0
            { m.scheduler with now := laterCycle m.scheduler.now due } (m.signals, m.bus) =
          some (count, after.scheduler, world) := by
  obtain ⟨⟨woken, woke⟩, hwoke, heq⟩ := Option.map_eq_some_iff.1 h
  obtain ⟨⟨woken', s, signals, bus⟩, hjump, hwoke⟩ := Option.map_eq_some_iff.1 hwoke
  cases heq
  cases hwoke
  rcases Scheduler.jump_cases hjump with ⟨rfl, hempty⟩ | ⟨due, count, rfl, hdue, hpass⟩
  · exact .inl ⟨rfl, hempty⟩
  · exact .inr ⟨due, count, _, rfl, hdue, hpass⟩

/-- An idle machine answers nothing exactly when no event waits. Otherwise it answers the difference of
its clocks, where the clock is nowhere after the cycle that it jumped to. The answer is the number of
cycles that have passed exactly if the clock is not before where it was, and it is there, at the later of
then and the first due cycle, if no handler resets the scheduler. -/
theorem idleUntilNextEvent_accounts {allowed : Operation → Prop}
    (hoperate : ∀ handler ∈ m.handlers.handlers, EventHandler.Operates handler allowed)
    (h : m.idleUntilNextEvent bound = some (slept, after)) :
    (slept = none ↔ m.scheduler.queue = []) ∧
    ∀ cycles, slept = some cycles → ∃ due, m.scheduler.nextDue? = some due ∧
      after.scheduler.now ≤ laterCycle m.scheduler.now due ∧
      (m.scheduler.now.toNat + cycles.toNat = after.scheduler.now.toNat ↔
        m.scheduler.now ≤ after.scheduler.now) ∧
      ((∀ op, allowed op → op ≠ .reset) →
        after.scheduler.now = laterCycle m.scheduler.now due) := by
  rcases idleUntilNextEvent_cases h with ⟨rfl, hempty⟩ | ⟨due, count, world, rfl, hdue, hpass⟩
  · exact ⟨⟨fun _ => hempty, fun _ => rfl⟩, nofun⟩
  · refine ⟨⟨nofun, fun hempty => ?_⟩, ?_⟩
    · rw [Scheduler.nextDue?_eq_none_iff.2 hempty] at hdue
      cases hdue
    rintro _ ⟨⟩
    have hoperated := operated_react hoperate
    obtain ⟨hturns, -⟩ := Scheduler.exists_pass_iff.1 ⟨bound, hpass⟩
    refine ⟨due, hdue, ?_, ?_, fun hnone => ?_⟩
    · exact hturns.now_le (fun event s world => (hoperated event s world).now_le) (UInt64.le_refl _)
    · -- the subtraction is one of 64 bits, and exact where it does not wrap
      rw [UInt64.le_iff_toNat_le, UInt64.toNat_sub]
      have hbefore := m.scheduler.now.toNat_lt
      have hafter := after.scheduler.now.toNat_lt
      omega
    · exact Scheduler.now_of_pass (fun event s world => (hoperated event s world).now_eq hnone) hpass rfl

/-! ## A handler that resets -/

/-- The handler resets the scheduler. -/
def resetting : EventHandler ω δ γ := fun _ c => { c with scheduler := c.scheduler.reset }

/-- The eight-bit machine with the handler who resets. -/
def withResetting : Machine Bench.Host Bench.Instrument Bench.TestCard :=
  ((bare Personality.legacy8.machineConfig {} : Machine _ _ Bench.TestCard).registerHandler resetting).2

/-- At cycle 10, with an event that waits until cycle 20 for the handler. -/
def beforeReset : Machine Bench.Host Bench.Instrument Bench.TestCard :=
  { withResetting with scheduler := (Scheduler.scheduleAt 20 Scheduler.timer { now := 10 }).2 }

/-- The machine of the example can be reached. -/
theorem run_beforeReset : ReflTransGen Step (bare Personality.legacy8.machineConfig {}) beforeReset := by
  have hregistered : Step (bare Personality.legacy8.machineConfig {}) withResetting :=
    .registerHandler fun _ c => .refl c.bus
  have hstepped : withResetting.respond (.endStep 0 10) =
      some (.handedOut 0, { withResetting with scheduler := { now := 10 } }) := rfl
  have hscheduled : ({ withResetting with scheduler := { now := 10 } } : Machine _ _ _).respond
      (.schedule (.scheduleAt 20 Scheduler.timer)) = some (.scheduled (.scheduled ⟨1⟩), beforeReset) := rfl
  exact ReflTransGen.refl.tail hregistered |>.tail (.respond hstepped) |>.tail (.respond hscheduled)

theorem operates_resetting (allowed : Operation → Prop) (hreset : allowed .reset) :
    EventHandler.Operates (resetting : EventHandler ω δ γ) allowed :=
  fun _ _ => .single ⟨.reset, hreset, rfl⟩

/-- The idle machine wakes up at cycle 20 with its clock at zero afterwards, and answers with zero less
ten, which is 2 ^ 64 less ten. -/
theorem idleUntilNextEvent_accounts_resetting :
    ReflTransGen Step (bare Personality.legacy8.machineConfig {}) beforeReset ∧
      ∃ after cycles, beforeReset.idleUntilNextEvent 1 = some (some cycles, after) ∧
        after.scheduler.now = 0 ∧ cycles = 0xFFFFFFFFFFFFFFF6 ∧
        ¬ beforeReset.scheduler.now.toNat + cycles.toNat = after.scheduler.now.toNat := by
  have hoperate : ∀ handler ∈ beforeReset.handlers.handlers,
      EventHandler.Operates handler fun _ => True := by
    intro handler hhandler
    obtain rfl := Array.mem_singleton.1 hhandler
    exact operates_resetting _ trivial
  have hidle : beforeReset.idleUntilNextEvent 1 = some (some 0xFFFFFFFFFFFFFFF6, _) := rfl
  obtain ⟨-, hslept⟩ := idleUntilNextEvent_accounts hoperate hidle
  obtain ⟨-, -, -, hexact, -⟩ := hslept _ rfl
  exact ⟨run_beforeReset, _, _, hidle, rfl, rfl, fun hsum => absurd (hexact.1 hsum) (by decide)⟩

end Machine

end Motherboard
