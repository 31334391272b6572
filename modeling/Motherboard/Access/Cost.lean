import Motherboard.Access

/-!
# Cycle costs

What an access costs depends only on the form of its device cycles.
-/

namespace Motherboard

/-- The forms of bus traffic with a fixed cost. -/
inductive CycleForm where
  /-- One byte cycle: a byte access, or one lane of a wide one. -/
  | byteCycle
  /-- One 16-bit device cycle. -/
  | wordCycle
  /-- One 32-bit device cycle. -/
  | dwordCycle
  /-- Traffic without side effects. -/
  | silent
  deriving DecidableEq

namespace CycleForm

/-- Every form. -/
def all : List CycleForm :=
  [.byteCycle, .wordCycle, .dwordCycle, .silent]

/-- The form of one device cycle of the full width. -/
def ofWidth : Width → CycleForm
  | .byte => .byteCycle
  | .word => .wordCycle
  | .dword => .dwordCycle

/-- Bus cycles charged for a form: a 32-bit cycle takes two, silent traffic none. -/
def cycles : CycleForm → UInt32
  | .byteCycle => 1
  | .wordCycle => 1
  | .dwordCycle => 2
  | .silent => 0

end CycleForm

end Motherboard
