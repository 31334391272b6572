import Motherboard.Bus

/-!
# The journal of a bench

A bench runs a machine with instruments in place of devices, cards, handlers and traps. They write
down what happens to them in one journal, which the bench keeps as the state of the host, together
with the number of times that each scripted handler has run.
-/

namespace Motherboard.Bench

/-- What came of one scripted action. -/
inductive Result where
  /-- An event was scheduled. -/
  | scheduled (handle : EventHandle)
  /-- A yes or no. -/
  | flag (value : Bool)
  /-- Two of them. -/
  | flags (first second : Bool)
  /-- The state of the scheduler. -/
  | clock (now : UInt64) (pending dispatched : Nat) (next : Option UInt64)
  /-- An access ended. -/
  | access (result : Except Fault Outcome)
  /-- Done, with nothing to say. -/
  | done
  /-- The page entry that was taken away. -/
  | entry (entry : Option PageEntry)
  /-- The bus refused. -/
  | mapError (error : MapError)
  /-- The rack refused. -/
  | slotError (error : SlotError)
  /-- Somebody holds the rack. -/
  | busy
  /-- There is no rack. -/
  | noSlots
  /-- The expansion window was touched. -/
  | touched (effect : SelectionEffect)
  /-- A report. -/
  | text (text : String)

/-- One line of the journal. -/
inductive Entry where
  /-- A byte was read from a device. -/
  | read8 (id : String) (offset : UInt32) (access : Access)
  /-- A byte was written to a device. -/
  | write8 (id : String) (offset : UInt32) (value : UInt8) (access : Access)
  /-- Somebody looked at a device. -/
  | peek8 (id : String) (offset : UInt32)
  /-- Somebody poked a device. -/
  | poke8 (id : String) (offset : UInt32) (value : UInt8)
  /-- A card was put into a slot. -/
  | installed (name : String) (slot : UInt8)
  /-- A card got the expansion window. -/
  | selected (name : String)
  /-- A card lost the expansion window. -/
  | deselected (name : String)
  /-- A device or a card was reset. -/
  | reset (name : String)
  /-- A handler received an event. -/
  | event (event : Event) (now : UInt64)
  /-- A trap met an access. -/
  | trap (id : String) (access : Access)
  /-- A scripted action was carried out. -/
  | did (action : String) (result : Result)
  /-- A report. -/
  | text (text : String)
  /-- An I/O page is being built over a rack. -/
  | layout (layout : IoPageLayout) (slots : UInt8)

/-- What the bench keeps beside the machine. -/
structure Host where
  /-- What has happened. -/
  journal : Array Entry := #[]
  /-- How often each scripted handler has run its actions. -/
  runs : Array Nat := #[]

/-- Adds a line to the journal. -/
def Host.note (h : Host) (e : Entry) : Host :=
  { h with journal := h.journal.push e }

end Motherboard.Bench
