import Motherboard.Proofs.OwnedWindow
import Motherboard.Proofs.ResetCalls

/-!
# Resetting a machine

The reset of a machine needs the rack. While somebody holds it, the reset is refused, and the machine
stays as it is. Otherwise it goes through (`Machine.reset_allOrNothing`): the owner of the expansion
window hears that it loses it (`Backplane.LosesWindow`), every card and every target is called once, and
what belongs to the board, the lines, the counters and the scheduler is at power-on, while all that was
mapped, put in or registered is still there (`Machine.Restored`).

Two things on the board are in reach of a device while it is reset: the override switches and the floating
lines. Every page clears its switches when its turn comes, and they are clear in the end unless the reset
of a device sets them again (`Device.ResetsKeepCleared`). The lines are as they were unless the reset of a
device drives them (`Device.ResetsKeepLines`).

What devices and cards make of their calls is theirs; `PowerOn` adds what they may be assumed to do.
-/

namespace Motherboard

open Relation (ReflTransGen)

/-! ## The owner of the window -/

/-- The owner of the expansion window, if there is one, hears that it loses the window, and the observer
is told of it. Nobody else hears of anything. -/
structure Backplane.LosesWindow {ω γ δ : Type} [Card γ δ ω] (b released : Backplane ω γ) : Prop where
  nobody : b.rack.owner = none → released = b
  owner : ∀ slot, b.rack.owner = some slot → ∃ card, b.rack.card? slot = some card ∧
    released = { b with
      rack := { b.rack.setCard slot (some (Card.deselected card b.host).1) with owner := none }
      host := (Card.deselected card b.host).2
      trace := b.trace.emit (.expansion (some slot) none) }

section Kept

variable {ω δ γ : Type} [Device δ ω]

end Kept

/-! ## What is at power-on afterwards -/

namespace Backplane

variable {ω γ : Type} {b : Backplane ω γ} {memories : List Nat} {commons : Commons ω}

end Backplane

namespace Machine

variable {ω δ γ : Type} [Device δ ω] [Card γ δ ω]

/-- What a reset makes of `m`, whose window has been released. -/
structure Restored (m : Machine ω δ γ) (released : Backplane ω γ) (after : Machine ω δ γ) : Prop where
  /-- The cards are called once each, in the order of the slots, and then the targets. -/
  calls : ∃ host,
    inTurn (ifThere Card.reset) released.rack.cards.toList released.host =
      (after.bus.backplane.rack.cards.toList, host) ∧
    inTurn Target.resetSelf m.bus.targets.toList { released.toCommons with host := host } =
      (after.bus.targets.toList, after.bus.backplane.toCommons)
  /-- The lines that were asserted are reported once each, and nothing else is. -/
  reports : after.bus.backplane.trace =
    Signals.report released.trace ((Line.all.filter m.signals.isAsserted).map (·, false))
  owner : after.bus.backplane.rack.owner = none
  /-- Each page has cleared its switches when its turn came. They are clear in the end if no reset of a
  device turns one on. -/
  overrides : Device.ResetsKeepCleared δ → ∀ page, Target.page page ∈ after.bus.targets →
    after.bus.backplane.overridesOf page.switches = {}
  /-- Banked memories with faces on the bus, or in an I/O page of the bus. -/
  banks : ∀ memory ∈ after.bus.memories, ∀ bank,
    after.bus.backplane.banked[memory]? = some bank → bank.state = .powerOn
  lines : ∀ line, after.signals.isAsserted line = false
  nmiEdge : after.signals.nmiEdge = false
  diagnostics : after.bus.diagnostics = .zero
  /-- No event waits, and the clock starts again. Handles and sequence numbers go on. -/
  scheduler : after.scheduler =
    { handles := m.scheduler.handles, sequences := m.scheduler.sequences }
  /-- The floating lines stay, unless a device drives them. -/
  floating : Device.ResetsKeepLines δ → after.bus.backplane.floating = m.bus.backplane.floating
  hold : after.bus.backplane.hold = m.bus.backplane.hold
  slots : ∀ slot, (after.bus.backplane.rack.card? slot).isSome = (m.bus.backplane.rack.card? slot).isSome
  pages : after.bus.table = m.bus.table
  traps : after.traps = m.traps
  handlers : after.handlers = m.handlers
  /-- So do the configuration, the place of the I/O page, and what the bus is asked to do. -/
  config : after.config = m.config ∧ after.window = m.window ∧ after.bus.config = m.bus.config

/-- An observer who listens hears of the window, if it was owned, and then of each line that was asserted.
Everything else is silent. -/
theorem Restored.heard {m after : Machine ω δ γ} {released : Backplane ω γ}
    (h : m.Restored released after) (hlost : m.bus.backplane.LosesWindow released)
    (hattached : m.bus.backplane.trace.attached = true)
    (hfree : m.bus.backplane.trace.busy = false) :
    after.bus.backplane.trace.events.toList = m.bus.backplane.trace.events.toList ++
      (m.bus.backplane.rack.owner.toList.map fun slot => .expansion (some slot) none) ++
      (Line.all.filter m.signals.isAsserted).map (.signal · false) := by
  -- the observer goes on listening after it has heard of the window
  obtain ⟨hattached', hfree', hwindow⟩ : released.trace.attached = true ∧ released.trace.busy = false ∧
      released.trace.events.toList = m.bus.backplane.trace.events.toList ++
        m.bus.backplane.rack.owner.toList.map fun slot => .expansion (some slot) none := by
    cases howner : m.bus.backplane.rack.owner with
    | none =>
      rw [hlost.nobody howner]
      exact ⟨hattached, hfree, (List.append_nil _).symm⟩
    | some slot =>
      obtain ⟨card, -, hreleased⟩ := hlost.owner slot howner
      rw [hreleased]
      dsimp only
      rw [Trace.emit_of_free hattached hfree]
      exact ⟨hattached, hfree, Array.toList_push⟩
  rw [h.reports, Signals.events_report hattached' hfree', hwindow, List.map_map]
  rfl

/-- A card in slot 6, which reports what it is told. -/
def withCard : Machine Bench.Host Bench.Instrument Bench.TestCard :=
  ((bare Personality.legacy8.machineConfig {} : Machine _ _ Bench.TestCard).installCard 6 ⟨"disk",
    none, none, none, true, true⟩).2

/-- A banked memory whose window shows RAM. -/
def withMemory : Machine Bench.Host Bench.Instrument Bench.TestCard :=
  { withCard with bus.backplane.banked :=
      withCard.bus.backplane.banked.push ⟨⟨true, false, false, false⟩, #[], #[], #[], #[]⟩ }

end Machine

end Motherboard
