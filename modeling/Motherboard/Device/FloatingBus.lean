/-!
# The floating bus

When nothing drives the data lines, a read sees whatever they hold: a fixed value on pulled-up
lines, or the last byte that another part of the machine put there.
-/

namespace Motherboard

/-- What undriven reads see, as chosen in a configuration. -/
inductive FloatingPolicy where
  /-- Always the same byte. -/
  | constant (value : UInt8)
  /-- The byte driven last, `initial` before anything drives the lines. -/
  | latched (initial : UInt8)
  deriving DecidableEq

/-- The present state of undriven lines. -/
inductive FloatingBus where
  /-- Pulled to a fixed byte. -/
  | constant (value : UInt8)
  /-- Holding the byte driven last. -/
  | latch (last : UInt8)
  deriving DecidableEq

/-- The lines at power-on. -/
def FloatingPolicy.lines : FloatingPolicy → FloatingBus
  | .constant value => .constant value
  | .latched initial => .latch initial

namespace FloatingBus

/-- The byte that an undriven read of `_address` sees. -/
def value (f : FloatingBus) (_address : UInt32) : UInt8 :=
  match f with
  | .constant value => value
  | .latch last => last

/-- The byte in the latch, when the lines have one. -/
def last? : FloatingBus → Option UInt8
  | .constant _ => none
  | .latch last => some last

/-- Another part of the machine puts `byte` on the lines; pulled lines do not keep it. -/
def drive (f : FloatingBus) (byte : UInt8) : FloatingBus :=
  match f with
  | .constant value => .constant value
  | .latch _ => .latch byte

end FloatingBus

end Motherboard
