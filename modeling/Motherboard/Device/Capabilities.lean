/-!
# Capabilities of a target

What a target tells the bus about itself. The bus reads `wide` when it chooses between one wide
cycle and byte cycles, and `peek` when an access must go unnoticed.
-/

namespace Motherboard

/-- What a target can do. -/
structure Capabilities where
  /-- It has 16-bit and 32-bit accessors of its own. -/
  wide : Bool
  /-- It answers looks and changes that have no side effects. -/
  peek : Bool
  /-- An access changes more than the byte stored. -/
  sideEffects : Bool
  /-- Its behaviour depends on the cycle of the access. -/
  timingSensitive : Bool
  deriving DecidableEq

namespace Capabilities

/-- Plain storage. -/
def memory : Capabilities := ⟨true, true, false, false⟩

/-- Byte-wide registers with side effects. -/
def registers : Capabilities := ⟨false, false, true, true⟩

end Capabilities

end Motherboard
