import Motherboard.Proofs.BusUses
import Motherboard.Proofs.Replies
import Mathlib.Logic.Relation

/-!
# Runs of a machine

A machine is built from a configuration and then used: it is asked for accesses and steps, cards and
handlers are put in, and its owner reaches for the bus, the scheduler, the lines and the traps and does
with them what he likes (`Machine.Step`). All that happens to the bus meanwhile is made of its uses, of
what traps and handlers do, and of the switches that the I/O page brings. So what these keep of the bus,
every step keeps (`Keeps.step`).

The make of the bus is kept so. Hence a machine that has run for any time is still of the make of its
configuration (`IsMade.of_run`). Handlers and traps act on the bus, and may do with it what its owner may;
they have no means to exchange its make (`EventHandler.KeepsMake`, `Trap.KeepsMake`).
-/

namespace Motherboard

open Relation (ReflTransGen)

/-! ## The make of a machine -/

section Reactions

variable {ω γ δ : Type}

/-- The trap leaves a bus of the same make. -/
def Trap.KeepsMake (trap : Trap ω δ γ) : Prop :=
  ∀ (a : Access) (c : TrapContext ω δ γ), c.bus.SameMake (trap a c).2.bus

/-- The handler leaves a bus of the same make. -/
def EventHandler.KeepsMake (handler : EventHandler ω δ γ) : Prop :=
  ∀ (event : Event) (c : EventContext ω δ γ), c.bus.SameMake (handler event c).bus

/-- Applying the selection rule is at most one use of the bus. -/
theorem TrapContext.touch_eq_or_use [Device δ ω] [Card γ δ ω] (c : TrapContext ω δ γ)
    (address : UInt32) :
    (c.touch address).2.bus = c.bus ∨ c.bus.Use (c.touch address).2.bus := by
  unfold touch
  cases c.window with
  | none => exact .inl rfl
  | some w =>
    dsimp only [Bus.withBackplane, IoWindow.touch]
    split_ifs
    · cases w.offset? address with
      | none => exact .inl rfl
      | some offset =>
        -- an offset inside the window is touched as an access would touch it, which is a call of the rack
        -- or nothing
        rcases c.bus.backplane.touch_eq_or_call w.layout (c.bus.backplane.overridesOf w.switches)
          offset with hsame | ⟨call, hcall⟩
        · dsimp only
          rw [hsame]
          exact .inl rfl
        · dsimp only
          rw [hcall]
          exact .inr (.call call)
    · exact .inl rfl

end Reactions

/-- What all reactions keep of the world, a pass keeps. -/
theorem Scheduler.Turns.keeps {ψ : Type} {react : Scheduler.Reaction ψ} {I : ψ → Prop}
    (hreact : ∀ event s world, I world → I (react event s world).2) {limit : UInt64} {n : Nat}
    {s s' : Scheduler} {world world' : ψ} (h : Turns react limit n s world s' world')
    (hworld : I world) : I world' := by
  induction h with
  | refl s world => exact hworld
  | turn hpop _ ih => exact ih (hreact _ _ _ hworld)

namespace Machine

variable {ω γ δ : Type} {m m' after : Machine ω δ γ} {config : MachineConfig}

/-- The machine is of the make of its configuration, and its traps and handlers keep it so. -/
structure IsMade (m : Machine ω δ γ) : Prop where
  valid : m.config.validate = .ok ()
  policy : ∃ mode, m.bus.config = { m.config.bus with cpuMode := mode }
  geometry : m.bus.table.geometry = m.config.bus.geometry
  slots : m.bus.backplane.rack.cards.size = m.config.slotCount.toNat
  trapPolicy : m.traps.policy = m.config.trapPolicy
  traps : ∀ entry ∈ m.traps.traps, Trap.KeepsMake entry.2
  handlers : ∀ handler ∈ m.handlers.handlers, EventHandler.KeepsMake handler

/-- A machine that was built is made to its configuration. -/
theorem isMade_of_ofConfig? {host : ω} (h : ofConfig? config host = .ok m) : m.IsMade := by
  obtain ⟨hvalid, rfl⟩ := ofConfig?_eq_ok_iff.1 h
  refine ⟨hvalid, ⟨_, rfl⟩, rfl, Array.size_replicate, rfl, ?_, ?_⟩
  · intro entry hentry
    cases hentry
  · intro handler hhandler
    exact absurd hhandler (Array.not_mem_empty handler)

/-- The machines have one configuration, buses of one make, and the same traps and handlers. -/
structure SameMake (m after : Machine ω δ γ) : Prop where
  config : after.config = m.config
  bus : m.bus.SameMake after.bus
  traps : after.traps = m.traps
  handlers : after.handlers = m.handlers

/-- What has the same make as a machine made to a configuration is so made itself. -/
theorem SameMake.isMade (h : m.SameMake after) (hmade : m.IsMade) : after.IsMade where
  valid := by
    rw [h.config]
    exact hmade.valid
  -- the mode of the processor may have changed, the rest of the policy not
  policy := by
    obtain ⟨mode, hpolicy⟩ := hmade.policy
    obtain ⟨mode', hpolicy'⟩ := h.bus.policy
    refine ⟨mode', ?_⟩
    rw [hpolicy', hpolicy, h.config]
  geometry := by
    rw [h.bus.geometry, hmade.geometry, h.config]
  slots := by
    rw [h.bus.slots, hmade.slots, h.config]
  trapPolicy := by
    rw [h.traps, hmade.trapPolicy, h.config]
  traps := by
    rw [h.traps]
    exact hmade.traps
  handlers := by
    rw [h.handlers]
    exact hmade.handlers

/-! ## What stays of the bus -/

section Steps

variable [Device δ ω] [Card γ δ ω]

/-- A property of the bus that its uses keep, and the traps and handlers of the machine. -/
structure Keeps (m : Machine ω δ γ) (I : Bus ω δ γ → Prop) : Prop where
  use : ∀ {bus after : Bus ω δ γ}, bus.Use after → I bus → I after
  traps : ∀ entry ∈ m.traps.traps, ∀ (a : Access) (c : TrapContext ω δ γ),
    I c.bus → I (entry.2 a c).2.bus
  handlers : ∀ handler ∈ m.handlers.handlers, ∀ (event : Event) (c : EventContext ω δ γ),
    I c.bus → I (handler event c).bus
  /-- The I/O page comes with switches of its own. -/
  addSwitches : ∀ {bus : Bus ω δ γ}, I bus →
    I { bus with backplane.overrides := bus.backplane.overrides.push {} }

/-- The make of any bus is kept. -/
theorem IsMade.keeps (h : m.IsMade) (bus : Bus ω δ γ) : m.Keeps bus.SameMake where
  use := fun huse hsofar => hsofar.trans huse.sameMake
  traps := fun entry hentry a c hsofar => hsofar.trans (h.traps entry hentry a c)
  handlers := fun handler hhandler event c hsofar =>
    hsofar.trans (h.handlers handler hhandler event c)
  addSwitches := fun hsofar => ⟨hsofar.policy, hsofar.geometry, hsofar.slots⟩

namespace Keeps

variable {I : Bus ω δ γ → Prop}

theorem trace (h : m.Keeps I) {bus : Bus ω δ γ} (hbus : I bus) (trace : Trace) :
    I { bus with backplane.trace := trace } :=
  h.use (.trace trace) hbus

theorem emit (h : m.Keeps I) {bus : Bus ω δ γ} (hbus : I bus) (e : TraceEvent) : I (bus.emit e) :=
  h.trace hbus _

/-- A selection that is replayed keeps what uses of the bus keep. -/
theorem touch (h : m.Keeps I) {c : TrapContext ω δ γ} (hc : I c.bus) (address : UInt32) :
    I (c.touch address).2.bus := by
  rcases c.touch_eq_or_use address with hsame | huse
  · rw [hsame]
    exact hc
  · exact h.use huse hc

/-- The dispatch of traps keeps what each trap keeps. -/
theorem dispatch (h : m.Keeps I) (a : Access) {c : TrapContext ω δ γ} (hc : I c.bus) :
    I (m.traps.dispatch a c).2.bus := by
  unfold TrapTable.dispatch
  split_ifs
  · cases hfound : m.traps.find? a with
    | none => exact hc
    | some entry =>
      obtain ⟨address, trap⟩ := entry
      have htrap := h.traps (address, trap) (List.mem_of_find?_eq_some hfound) a c hc
      dsimp only at htrap ⊢
      rcases hvalue : trap a c with ⟨value, after⟩
      rw [hvalue] at htrap
      cases value with
      | passThrough => exact htrap
      | handled value cycles =>
        -- only the replaying policy touches the window once the handler has answered
        cases m.traps.policy with
        | manual => exact htrap
        | replaySelection => exact h.touch htrap a.address
  · exact hc

theorem cpuAccess (h : m.Keeps I) (hm : I m.bus) (a : Access) : I (m.cpuAccess a).2.bus := by
  unfold Machine.cpuAccess
  split_ifs
  · -- without traps the access goes straight to the bus
    exact h.use (.access a) hm
  · have hdispatch := h.dispatch (m.bus.maskAddress a) (c := m.trapContext) hm
    dsimp only
    rcases hc : m.traps.dispatch (m.bus.maskAddress a) m.trapContext with ⟨_ | outcome, c⟩
    · -- passed on: the access happens after what the trap has done
      rw [hc] at hdispatch
      exact h.use (.access _) hdispatch
    · rw [hc] at hdispatch
      exact h.use (.recordTrapped _ outcome) hdispatch

/-! ### Passes -/

theorem react (h : m.Keeps I) (event : Event) (s : Scheduler) (world : Surroundings ω δ γ)
    (hworld : I world.2) : I (Machine.react m.handlers event s world).2.2 := by
  have hreported := h.emit hworld (.dispatched event.handle event.due event.kind event.tag)
  unfold Machine.react
  dsimp only
  cases hfound : m.handlers.get? event.handler with
  | none => exact hreported
  | some handler => exact h.handlers handler (Array.mem_of_getElem? hfound) event _ hreported

/-- Whatever a pass hands out. -/
theorem pass (h : m.Keeps I) (hm : I m.bus) {limit : UInt64} {bound n : Nat} {s s' : Scheduler}
    {world : Surroundings ω δ γ}
    (hpass : Scheduler.pass (Machine.react m.handlers) limit bound 0 s (m.signals, m.bus) =
      some (n, s', world)) : I world.2 := by
  obtain ⟨count, -, hturns, -⟩ := Scheduler.turns_of_pass hpass
  exact hturns.keeps (I := fun world : Surroundings ω δ γ => I world.2) h.react hm

theorem endStep (h : m.Keeps I) (hm : I m.bus) {bound n : Nat} {cycles : UInt64}
    (hafter : m.endStep bound cycles = some (n, after)) : I after.bus := by
  obtain ⟨⟨n', s, signals, bus⟩, hadvance, heq⟩ := Option.map_eq_some_iff.1 hafter
  obtain ⟨⟨n'', s', world⟩, hpass, hworld⟩ := Option.map_eq_some_iff.1 hadvance
  cases heq
  cases hworld
  exact h.pass hm hpass

theorem dispatchDue (h : m.Keeps I) (hm : I m.bus) {bound n : Nat}
    (hafter : m.dispatchDue bound = some (n, after)) : I after.bus := by
  obtain ⟨⟨n', s, signals, bus⟩, hpass, heq⟩ := Option.map_eq_some_iff.1 hafter
  cases heq
  exact h.pass hm hpass

theorem idleUntilNextEvent (h : m.Keeps I) (hm : I m.bus) {bound : Nat} {cycles : Option UInt64}
    (hafter : m.idleUntilNextEvent bound = some (cycles, after)) : I after.bus := by
  obtain ⟨⟨woken, woke⟩, hwoke, heq⟩ := Option.map_eq_some_iff.1 hafter
  obtain ⟨⟨woken', s, signals, bus⟩, hjump, hwoke⟩ := Option.map_eq_some_iff.1 hwoke
  cases heq
  cases hwoke
  unfold Scheduler.jump at hjump
  split at hjump
  · cases hjump
    exact hm
  · obtain ⟨⟨n', s', world'⟩, hpass, heq⟩ := Option.map_eq_some_iff.1 hjump
    cases heq
    exact h.pass hm hpass

/-- Every input keeps what traps, handlers and uses of the bus keep. -/
theorem respond (h : m.Keeps I) (hm : I m.bus) {input : Input} {answer : Answer}
    (hrespond : m.respond input = some (answer, after)) : I after.bus := by
  cases input with
  | access a =>
    cases hrespond
    exact h.cpuAccess hm a
  | endStep bound cycles =>
    obtain ⟨⟨n, ended⟩, hpass, heq⟩ := Option.map_eq_some_iff.1 hrespond
    cases heq
    exact h.endStep hm hpass
  | dispatchDue bound =>
    obtain ⟨⟨n, ended⟩, hpass, heq⟩ := Option.map_eq_some_iff.1 hrespond
    cases heq
    exact h.dispatchDue hm hpass
  | idleUntilNextEvent bound =>
    obtain ⟨⟨cycles, ended⟩, hpass, heq⟩ := Option.map_eq_some_iff.1 hrespond
    cases heq
    exact h.idleUntilNextEvent hm hpass
  -- the lines are beside the bus, and only their reports reach it
  | pull line device | release line device | resetSignals =>
    cases hrespond
    exact h.trace hm _
  | _ =>
    cases hrespond
    exact hm

theorem installIoPage (h : m.Keeps I) (hm : I m.bus) (build : IoPage δ → ω → IoPage δ × ω) :
    I (m.installIoPage build).2.bus := by
  unfold Machine.installIoPage
  cases m.config.ioPage with
  | none => exact hm
  | some io =>
    -- the page stays a target of the bus, mapped or not
    have hadded := fun page host =>
      h.use (.addTarget (.page page)) (h.use (.host host) (h.addSwitches hm))
    dsimp only
    split
    · exact hadded _ _
    · next bus hmapped =>
      obtain ⟨entry, -, hmapped⟩ := exists_of_bind_eq_ok hmapped
      exact h.use (.mapRange hmapped) (hadded _ _)

theorem installCard (h : m.Keeps I) (hm : I m.bus) (slot : UInt8) (card : γ) :
    I (m.installCard slot card).2.bus := by
  unfold Machine.installCard
  split_ifs
  · exact h.use (.call (.install slot card)) hm
  · exact hm

theorem reset (h : m.Keeps I) (hm : I m.bus) : I m.reset.2.bus := by
  unfold Machine.reset
  split_ifs
  · have hcards := h.use (.call .reset) hm
    exact h.trace (h.use .resetDiagnostics (h.use .reset hcards)) _
  · exact hm

end Keeps

/-! ## Steps -/

/-- What may happen to a machine. -/
inductive Step (m : Machine ω δ γ) : Machine ω δ γ → Prop where
  | respond {after : Machine ω δ γ} {input : Input} {answer : Answer}
    (h : m.respond input = some (answer, after)) : Step m after
  /-- The I/O page is installed, with parts attached to it. -/
  | installIoPage (build : IoPage δ → ω → IoPage δ × ω) : Step m (m.installIoPage build).2
  | installCard (slot : UInt8) (card : γ) : Step m (m.installCard slot card).2
  | registerHandler {handler : EventHandler ω δ γ} (h : handler.KeepsMake) :
    Step m (m.registerHandler handler).2
  /-- Traps are set and taken away. -/
  | useTraps {traps : List (UInt32 × Trap ω δ γ)} (h : ∀ entry ∈ traps, Trap.KeepsMake entry.2) :
    Step m { m with traps.traps := traps }
  | useBus {bus : Bus ω δ γ} (h : m.bus.Use bus) : Step m { m with bus := bus }
  | useScheduler (scheduler : Scheduler) : Step m { m with scheduler := scheduler }
  | useSignals (signals : Signals) : Step m { m with signals := signals }
  | reset : Step m m.reset.2

/-- Whatever happens to a machine, its bus keeps what its uses keep. -/
theorem Keeps.step {I : Bus ω δ γ → Prop} (h : m.Keeps I) (hm : I m.bus) (hstep : m.Step after) :
    I after.bus := by
  cases hstep with
  | respond hrespond => exact h.respond hm hrespond
  | installIoPage build => exact h.installIoPage hm build
  | installCard slot card => exact h.installCard hm slot card
  | registerHandler => exact hm
  | useTraps => exact hm
  -- every other step reaches the bus through what is kept
  | useBus hbus => exact h.use hbus hm
  | useScheduler scheduler => exact hm
  | useSignals signals => exact hm
  | reset => exact h.reset hm

omit [Device δ ω] [Card γ δ ω] in
/-- A pass exchanges scheduler, lines and bus only. -/
theorem afterPass_eq {α : Type} {a : α} {result : Option (α × Scheduler × Surroundings ω δ γ)}
    (h : m.afterPass result = some (a, after)) :
    ∃ s signals bus, after = { m with scheduler := s, signals := signals, bus := bus } := by
  obtain ⟨⟨n, s, signals, bus⟩, -, heq⟩ := Option.map_eq_some_iff.1 h
  cases heq
  exact ⟨s, signals, bus, rfl⟩

/-- What a machine is asked for exchanges scheduler, lines and bus only. -/
theorem respond_eq {input : Input} {answer : Answer} (h : m.respond input = some (answer, after)) :
    ∃ s signals bus, after = { m with scheduler := s, signals := signals, bus := bus } := by
  cases input with
  | access a =>
    cases h
    unfold cpuAccess
    split_ifs
    · exact ⟨_, _, _, rfl⟩
    · dsimp only
      rcases m.traps.dispatch (m.bus.maskAddress a) m.trapContext with ⟨_ | outcome, c⟩ <;>
      exact ⟨_, _, _, rfl⟩
  | endStep bound cycles =>
    -- A pass hands over scheduler, lines and bus and takes them back.
    obtain ⟨⟨n, ended⟩, hpass, heq⟩ := Option.map_eq_some_iff.1 h
    cases heq
    exact afterPass_eq hpass
  | dispatchDue bound =>
    obtain ⟨⟨n, ended⟩, hpass, heq⟩ := Option.map_eq_some_iff.1 h
    cases heq
    exact afterPass_eq hpass
  | idleUntilNextEvent bound =>
    obtain ⟨⟨cycles, ended⟩, hslept, heq⟩ := Option.map_eq_some_iff.1 h
    obtain ⟨⟨woken, woke⟩, hpass, heq'⟩ := Option.map_eq_some_iff.1 hslept
    cases heq
    cases heq'
    exact afterPass_eq hpass
  | _ =>
    cases h
    exact ⟨_, _, _, rfl⟩

omit [Card γ δ ω] in
/-- Installing an I/O page changes the bus and the window. -/
theorem installIoPage_eq (m : Machine ω δ γ) (build : IoPage δ → ω → IoPage δ × ω) :
    ∃ bus window, (m.installIoPage build).2 = { m with bus := bus, window := window } := by
  unfold installIoPage
  cases m.config.ioPage with
  | none => exact ⟨_, _, rfl⟩
  | some io =>
    dsimp only
    split <;> exact ⟨_, _, rfl⟩

omit [Device δ ω] [Card γ δ ω] in
/-- A handler is one of those registered before, or the new one. -/
theorem mem_registerHandler {handler other : EventHandler ω δ γ}
    (h : other ∈ (m.registerHandler handler).2.handlers.handlers) :
    other ∈ m.handlers.handlers ∨ other = handler := by
  unfold registerHandler HandlerTable.register at h
  dsimp only at h
  split_ifs at h
  · -- there was a number left for it
    exact Array.mem_push.1 h
  · exact .inl h

/-- Every step keeps a machine made to its configuration. -/
theorem IsMade.step (h : m.IsMade) (hstep : m.Step after) :
    after.IsMade ∧ after.config = m.config := by
  have hbus : m.bus.SameMake after.bus := (h.keeps m.bus).step (.refl m.bus) hstep
  have hkept : m.SameMake after → after.IsMade ∧ after.config = m.config :=
    fun hsame => ⟨hsame.isMade h, hsame.config⟩
  -- traps and handlers may be replaced, as long as they are tame; the other steps keep them
  cases hstep with
  | respond hrespond =>
    obtain ⟨s, signals, bus, rfl⟩ := respond_eq hrespond
    exact hkept ⟨rfl, hbus, rfl, rfl⟩
  | installIoPage build =>
    obtain ⟨bus, window, hafter⟩ := m.installIoPage_eq build
    rw [hafter] at hbus hkept ⊢
    exact hkept ⟨rfl, hbus, rfl, rfl⟩
  | installCard slot card =>
    apply hkept
    unfold installCard at hbus ⊢
    split_ifs at hbus ⊢ <;> exact ⟨rfl, hbus, rfl, rfl⟩
  | @registerHandler handler hhandler =>
    refine ⟨{ h with handlers := ?_ }, rfl⟩
    intro other hother
    rcases mem_registerHandler hother with hother | rfl
    · exact h.handlers other hother
    · exact hhandler
  | useTraps htraps => exact ⟨{ h with traps := htraps }, rfl⟩
  | useBus => exact hkept ⟨rfl, hbus, rfl, rfl⟩
  | useScheduler scheduler => exact hkept ⟨rfl, hbus, rfl, rfl⟩
  | useSignals signals => exact hkept ⟨rfl, hbus, rfl, rfl⟩
  | reset =>
    apply hkept
    unfold reset at hbus ⊢
    split_ifs at hbus ⊢ <;> exact ⟨rfl, hbus, rfl, rfl⟩

/-- A machine that was built from a configuration and has run for any time is of its make. -/
theorem IsMade.of_run {host : ω} {built : Machine ω δ γ} (hbuilt : ofConfig? config host = .ok built)
    (hrun : ReflTransGen Step built m) : m.IsMade ∧ m.config = config := by
  induction hrun with
  | refl =>
    refine ⟨isMade_of_ofConfig? hbuilt, ?_⟩
    obtain ⟨-, rfl⟩ := ofConfig?_eq_ok_iff.1 hbuilt
    rfl
  | tail _ hstep ih =>
    obtain ⟨hmade, hconfig⟩ := ih
    obtain ⟨hafter, hsame⟩ := hmade.step hstep
    exact ⟨hafter, hsame.trans hconfig⟩

end Steps

end Machine

end Motherboard
