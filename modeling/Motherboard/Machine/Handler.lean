import Motherboard.Bus
import Motherboard.Event.Scheduler
import Motherboard.Line.Signals
import Motherboard.Machine.Error

/-!
# Event handlers

A handler reacts to the events scheduled for its number. It may touch the scheduler, the control lines
and the bus; the traps and the table of handlers are out of its reach.
-/

namespace Motherboard

/-- What an event handler may touch. -/
structure EventContext (ω δ γ : Type) where
  /-- The scheduler at the moment of the event. -/
  scheduler : Scheduler
  /-- The control lines. -/
  signals : Signals
  /-- The bus and what its targets share. -/
  bus : Bus ω δ γ

/-- A reaction to the events of one handler number. What it remembers, it keeps with the host. -/
abbrev EventHandler (ω δ γ : Type) := Event → EventContext ω δ γ → EventContext ω δ γ

/-- Event handlers by number. -/
structure HandlerTable (ω δ γ : Type) where
  /-- The handlers. -/
  handlers : Array (EventHandler ω δ γ) := #[]

namespace HandlerTable

variable {ω δ γ : Type}

/-- Adds a handler and answers with its number, while there are numbers. -/
def register (t : HandlerTable ω δ γ) (handler : EventHandler ω δ γ) :
    Except MachineError HandlerId × HandlerTable ω δ γ :=
  if t.handlers.size < 0x10000 then
    (.ok ⟨t.handlers.size.toUInt16⟩, ⟨t.handlers.push handler⟩)
  else
    (.error .handlerTableFull, t)

/-- The handler with a number. -/
def get? (t : HandlerTable ω δ γ) (id : HandlerId) : Option (EventHandler ω δ γ) :=
  t.handlers[id.number.toNat]?

end HandlerTable

end Motherboard
