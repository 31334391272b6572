import Motherboard.Bench.Instrument
import Motherboard.Proofs.MachineRuns
import Motherboard.Proofs.PowerOn

/-!
# Reset and power-on

A machine that has run and is then reset is compared with one built anew from its configuration, with
the pages, cards, traps and handlers put in that the first one has (`Machine.equipped`). Two things of
the run outlive the reset, the mode of the processor and the bytes on the floating lines. Given these
(`Machine.inheriting`), the new machine answers every row of inputs as the one that was reset does, up to
the numbers of the handles (`answersLater_reset`).
-/

namespace Motherboard.Machine

open Relation (ReflTransGen)

variable {ω δ γ : Type}

/-- The new machine with the pages, cards, traps and handlers of `m`. What devices, cards and memories
store is still there, and they are at power-on otherwise. Override switches and banked memories that no
target of the bus leads to are left as they are. -/
def equipped [Device δ ω] [Card γ δ ω] (on : PowerOn ω δ γ) (new m : Machine ω δ γ) : Machine ω δ γ :=
  { new with
    bus := { new.bus with
      table := { new.bus.table with entries := m.bus.table.entries }
      targets := m.bus.targets.map on.target
      backplane := { new.bus.backplane with
        overrides := renewAt (fun _ => {}) m.bus.switches m.bus.backplane.overrides
        banked := renewAt BankedMemory.reset m.bus.memories m.bus.backplane.banked
        rack := { cards := m.bus.backplane.rack.cards.map (Option.map on.card) } } }
    traps := { new.traps with traps := m.traps.traps }
    handlers := m.handlers
    window := m.window }

/-- The new machine with the mode of the processor and the floating lines of `m`. -/
def inheriting (new m : Machine ω δ γ) : Machine ω δ γ :=
  { new with
    bus.config.cpuMode := m.bus.config.cpuMode
    bus.backplane.floating := m.bus.backplane.floating }

variable {config : MachineConfig} {host : ω} {built m after : Machine ω δ γ}

/-- Nothing is to be inherited while mode and lines are as configured. -/
theorem inheriting_eq {new : Machine ω δ γ} (hmode : m.bus.config.cpuMode = new.bus.config.cpuMode)
    (hlines : m.bus.backplane.floating = new.bus.backplane.floating) : new.inheriting m = new := by
  unfold inheriting
  rw [hmode, hlines]

section Reset

variable [Device δ ω] [Card γ δ ω]

/-- The machine that was reset is the new machine, but for the numbers of its scheduler, if `m` was of
the make of its configuration. -/
theorem IsMade.renumbered_reset (on : PowerOn ω δ γ) (hmade : m.IsMade)
    (htraps : ∀ entry ∈ m.traps.traps, Trap.IsBlind entry.2)
    (hhandlers : ∀ handler ∈ m.handlers.handlers, EventHandler.IsBlind handler)
    (hreset : m.reset = (.ok (), after)) :
    Renumbered m.scheduler.handles m.scheduler.sequences
      (((bare m.config after.bus.backplane.host).equipped on m).inheriting m) after := by
  have hfree : m.rackIsFree = true := by
    by_contra hbusy
    rw [reset, if_neg hbusy] at hreset
    cases hreset
  have hhold : m.bus.backplane.hold = .free := by simpa [rackIsFree] using hfree
  have hslots : m.bus.backplane.rack.cards.size ≤ 255 := by
    rw [hmade.slots]
    exact Nat.le_of_lt_succ m.config.slotCount.toNat_lt
  obtain ⟨host, trace, hafter⟩ := reset_eq on hfree hslots
  rw [hafter] at hreset
  cases hreset
  constructor
  case bus =>
    -- what is not taken over from the run is as configured
    have hconfig : m.bus.config = { m.config.bus with cpuMode := m.bus.config.cpuMode } := by
      obtain ⟨mode, hpolicy⟩ := hmade.policy
      rw [hpolicy]
    have htable : m.bus.table = ⟨m.config.bus.geometry, m.bus.table.entries⟩ := by
      rw [← hmade.geometry]
    unfold Bus.detached Backplane.detached inheriting equipped bare
    dsimp only
    rw [hhold, ← hconfig, ← htable]
  case scheduler =>
    constructor
    · unfold bare Scheduler.later Scheduler.reset inheriting equipped
      dsimp only
      rw [Nat.zero_add, Nat.zero_add]
      rfl
    · intro entry hentry
      cases hentry
  case signals => rfl
  case window => rfl
  case traps =>
    unfold inheriting equipped bare
    dsimp only
    rw [← hmade.trapPolicy]
  case handlers => rfl
  case trapsBlind => exact htraps
  case handlersBlind => exact hhandlers

/-- A machine that was built from a configuration, has run for any time, and was then reset answers as
one built anew does that has the same pages, cards, traps and handlers, in the mode that the processor
was in and over the lines that were floating. With both as configured, nothing of the run is left. -/
theorem answersLater_reset (on : PowerOn ω δ γ) (hbuilt : ofConfig? config host = .ok built)
    (hrun : ReflTransGen Step built m) (htraps : ∀ entry ∈ m.traps.traps, Trap.IsBlind entry.2)
    (hhandlers : ∀ handler ∈ m.handlers.handlers, EventHandler.IsBlind handler)
    (hreset : m.reset = (.ok (), after)) :
    ∃ new, ofConfig? config after.bus.backplane.host = .ok new ∧
      AnswersLater m.scheduler.handles ((new.equipped on m).inheriting m) after ∧
      (m.bus.config.cpuMode = config.bus.cpuMode → m.bus.backplane.floating = config.bus.floating.lines →
        AnswersLater m.scheduler.handles (new.equipped on m) after) := by
  obtain ⟨hmade, rfl⟩ := IsMade.of_run hbuilt hrun
  have hanswers := (hmade.renumbered_reset on htraps hhandlers hreset).answersLater
  refine ⟨bare m.config after.bus.backplane.host, ofConfig?_eq_ok_iff.2 ⟨hmade.valid, rfl⟩, hanswers, ?_⟩
  intro hmode hlines
  rwa [inheriting_eq hmode hlines] at hanswers

end Reset

/-! ## A machine in native mode -/

/-- Instruments clear their cells when they take resets, and cards of the bench stay as they are. -/
def benchPowerOn : PowerOn Bench.Host Bench.Instrument Bench.TestCard where
  device := fun
    | .registers r =>
      .registers (if r.probe then { r with cells := Array.replicate r.cells.size 0 } else r)
    | .overrides switches => .overrides switches
  card := id
  resetDevice := by
    rintro (r | switches) commons
    · dsimp only [Device.reset, Bench.Instrument.reset]
      split_ifs
      · exact ⟨_, rfl⟩
      · exact ⟨_, rfl⟩
    · exact ⟨_, rfl⟩
  fst_resetCard := fun _ _ => rfl
  card_deselected := fun _ _ => rfl

/-- A handler that pulls the interrupt line. -/
def interrupt : EventHandler ω δ γ := fun _ c =>
  { c with signals.pullers := c.signals.pullers.set .irq [⟨1⟩] }

/-- The handler of the example pulls a line and looks at nothing. -/
theorem isBlind_interrupt : EventHandler.IsBlind (interrupt : EventHandler ω δ γ) := by
  intro k n event c c' h
  have hsignals : (interrupt (event.later k n) c').signals = (interrupt event c).signals := by
    unfold interrupt
    rw [h.signals]
  exact ⟨h.scheduler, hsignals, h.bus⟩

theorem keepsMake_interrupt : EventHandler.KeepsMake (interrupt : EventHandler ω δ γ) :=
  fun _ c => .refl c.bus

/-- The eight-bit machine as it is built. -/
def eightBit : Machine Bench.Host Bench.Instrument Bench.TestCard :=
  bare Personality.legacy8.machineConfig {}

/-- The eight-bit machine with four bytes of RAM. -/
def withRam : Machine Bench.Host Bench.Instrument Bench.TestCard :=
  { eightBit with bus := (eightBit.bus.addTarget (.part (.ram ⟨#[0x60, 0x61, 0x62, 0x63]⟩))).2 }

/-- The entry that leads to the RAM. -/
def ramEntry : PageEntry := ⟨⟨1⟩, .ram, .full, .memory, ⟨0⟩, 0⟩

/-- An interrupt from the first handler. -/
def timer : EventSpec := ⟨⟨0⟩, .deviceTimer, 0, 0⟩

/-- The RAM is at page 0, a trap stands at `0xC000`, the processor has been switched to native mode, and
an interrupt has been scheduled. -/
def inNativeMode : Machine Bench.Host Bench.Instrument Bench.TestCard :=
  { withRam with
    bus.table := ⟨⟨16, 12⟩, #[some ramEntry] ++ Array.replicate 15 none⟩
    bus.config.cpuMode := .native
    traps.traps := [(0xC000, fun _ c => (.handled 0x60 5, c))]
    handlers := ⟨#[interrupt]⟩
    scheduler := (eightBit.scheduler.scheduleAt 9 timer).2 }

/-- The machine of the example can be reached. -/
theorem run_inNativeMode : ReflTransGen Step eightBit inNativeMode := by
  have hmapped : withRam.bus.mapPage 0 ramEntry =
      .ok { withRam.bus with table := inNativeMode.bus.table } := rfl
  have hram : Step eightBit withRam := .useBus (.addTarget _)
  have hpage : Step withRam { withRam with bus.table := inNativeMode.bus.table } :=
    .useBus (.mapPage hmapped)
  -- the only trap answers without touching the bus
  have htraps : ∀ entry ∈ inNativeMode.traps.traps, Trap.KeepsMake entry.2 := by
    intro entry hentry
    obtain rfl := List.mem_singleton.1 hentry
    exact fun _ c => .refl c.bus
  exact ReflTransGen.refl.tail hram |>.tail hpage |>.tail (.useBus (.setCpuMode .native))
    |>.tail (.useTraps htraps) |>.tail (.registerHandler keepsMake_interrupt)
    |>.tail (.useScheduler inNativeMode.scheduler)

/-- After a reset the processor is still in native mode and reads a word in one cycle, where a new
machine takes two. The next handle is the second; a new machine gives out the first. -/
theorem answersLater_reset_inNativeMode :
    let inputs : List Input :=
      [.access (.read 0 .word .dataRead), .access (.read 0xC000 .byte .dataRead),
        .schedule (.scheduleAfter 3 timer), .endStep 1 3]
    ∃ new after : Machine Bench.Host Bench.Instrument Bench.TestCard,
      ofConfig? Personality.legacy8.machineConfig after.bus.backplane.host = .ok new ∧
        inNativeMode.reset = (.ok (), after) ∧
        after.replies inputs = some [.access (.ok ⟨0x6160, 1⟩), .access (.ok ⟨0x60, 5⟩),
          .scheduled (.scheduled ⟨2⟩), .handedOut 1] ∧
        (new.equipped benchPowerOn inNativeMode).replies inputs = some [.access (.ok ⟨0x6160, 2⟩),
          .access (.ok ⟨0x60, 5⟩), .scheduled (.scheduled ⟨1⟩), .handedOut 1] := by
  intro inputs
  have hbuilt : ofConfig? Personality.legacy8.machineConfig {} = .ok eightBit :=
    ofConfig?_eq_ok_iff.2 ⟨by decide +kernel, rfl⟩
  have htraps : ∀ entry ∈ inNativeMode.traps.traps, Trap.IsBlind entry.2 := by
    intro entry hentry
    obtain rfl := List.mem_singleton.1 hentry
    exact fun _ _ => ⟨rfl, rfl⟩
  have hhandlers : ∀ handler ∈ inNativeMode.handlers.handlers, EventHandler.IsBlind handler := by
    intro handler hhandler
    obtain rfl := Array.mem_singleton.1 hhandler
    exact isBlind_interrupt
  have hreset : inNativeMode.reset = (.ok (), inNativeMode.reset.2) := rfl
  -- the general statement says how the answers of the two machines are related; what they are is computed
  -- on the new machine alone
  obtain ⟨new, hnew, hanswers, -⟩ :=
    answersLater_reset benchPowerOn hbuilt run_inNativeMode htraps hhandlers hreset
  have hbare := (ofConfig?_eq_ok_iff.1 hnew).2
  refine ⟨new, inNativeMode.reset.2, hnew, hreset, ?_, ?_⟩
  · rw [hanswers, hbare]
    decide +kernel
  · rw [hbare]
    decide +kernel

end Motherboard.Machine
