import Motherboard.Page.Entry
import Motherboard.Rack

/-!
# Errors of a machine

Why a machine cannot be wired up, observed or reset as asked.
-/

namespace Motherboard

/-- Why a machine cannot be wired up as asked. -/
inductive MachineError where
  /-- The bus refuses. -/
  | map (error : MapError)
  /-- The rack refuses. -/
  | slot (error : SlotError)
  /-- The configuration has no I/O page. -/
  | noIoPage
  /-- Somebody holds the rack. -/
  | slotsBusy
  /-- Every handler number is taken. -/
  | handlerTableFull
  deriving DecidableEq

/-- The error in words. -/
def MachineError.message : MachineError → String
  | .map error => error.message
  | .slot error => error.message
  | .noIoPage => "machine has no I/O page configured"
  | .slotsBusy => "slot manager is busy"
  | .handlerTableFull => "event handler table is full"

end Motherboard
