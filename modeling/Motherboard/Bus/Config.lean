import Motherboard.Device.FloatingBus
import Motherboard.Page.Geometry

/-!
# Configuration of a bus

The geometry of the address space and the policy that the bus applies to accesses. The mode of the
processor is part of the policy, and may change while the machine runs.
-/

namespace Motherboard

/-- Mode of the processor, as far as the bus minds it. -/
inductive CpuMode where
  /-- Wide accesses are byte cycles unless asked otherwise; everything may be executed. -/
  | legacy
  /-- Wide accesses are wide cycles where the target has them. -/
  | native
  deriving DecidableEq

/-- Geometry and policy of a bus. -/
structure BusConfig where
  /-- The address space. -/
  geometry : Geometry
  /-- Mode of the processor. -/
  cpuMode : CpuMode
  /-- In native mode, refuse to fetch from pages that are not executable. -/
  enforceNx : Bool
  /-- Refuse wide accesses that are not aligned to their width. -/
  strictAlignment : Bool
  /-- Words have their low byte at the lowest address. -/
  littleEndian : Bool
  /-- What undriven reads see. -/
  floating : FloatingPolicy
  deriving DecidableEq

/-- Execution permissions are checked at present. -/
def BusConfig.nxActive (c : BusConfig) : Bool :=
  c.enforceNx && c.cpuMode == .native

end Motherboard
