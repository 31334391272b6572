import Motherboard.Bus

/-!
# Calls

A bench may call one accessor of a target by itself, past the bus and its policy.
-/

namespace Motherboard.Bench

/-- One accessor, with what it is given. -/
inductive Call where
  /-- Reads a value. -/
  | read (width : Width)
  /-- Writes a value. -/
  | write (width : Width) (value : UInt32)
  /-- Looks at a byte. -/
  | peek
  /-- Stores a byte without side effects. -/
  | poke (value : UInt8)
  /-- Asks what the target tells the bus about itself. -/
  | capabilities
  /-- Resets the target. -/
  | reset

/-- What an accessor answers. -/
inductive CallAnswer where
  /-- A value, or a refusal. -/
  | value (result : Except DeviceError UInt32)
  /-- Done, or a refusal. -/
  | written (result : Except DeviceError Unit)
  /-- A byte, if there was one to see. -/
  | byte (seen : Option UInt8)
  /-- Whether the byte was stored. -/
  | stored (stored : Bool)
  /-- What the target tells the bus about itself. -/
  | capabilities (c : Capabilities)
  /-- Done. -/
  | done

variable {δ ω γ : Type} [Device δ ω] [Card γ δ ω]

/-- Calls an accessor of a part. -/
def Call.onPart (call : Call) (offset : UInt32) (access : Access) (p : Part δ) (b : Board ω) :
    CallAnswer × Part δ × Board ω :=
  match call with
  | .read width =>
    let (result, p, b) := Part.read width offset access (p, b)
    (.value result, p, b)
  | .write width value =>
    let (result, p, b) := Part.write width offset (value &&& width.mask) access (p, b)
    (.written result, p, b)
  | .peek =>
    let (seen, host) := p.peek offset b
    (.byte seen, p, { b with host := host })
  | .poke value =>
    let (stored, p, b) := p.poke offset value b
    (.stored stored, p, b)
  | .capabilities => (.capabilities p.capabilities, p, b)
  | .reset => (.done, p.reset b)

/-- Calls an accessor of a target. -/
def Call.onTarget (call : Call) (offset : UInt32) (access : Access) (t : Target δ)
    (b : Backplane ω γ) : CallAnswer × Target δ × Backplane ω γ :=
  match call with
  | .read width =>
    let (result, t, b) := Target.read width offset access (t, b)
    (.value result, t, b)
  | .write width value =>
    let (result, t, b) := Target.write width offset (value &&& width.mask) access (t, b)
    (.written result, t, b)
  | .peek =>
    let (seen, b) := t.peek offset b
    (.byte seen, t, b)
  | .poke value =>
    let (stored, t, b) := t.poke offset value b
    (.stored stored, t, b)
  | .capabilities => (.capabilities t.capabilities, t, b)
  | .reset => (.done, t.reset b)

/-- Looks at `count` bytes of a target, one after another. -/
def look (t : Target δ) : (count : Nat) → (offset : UInt32) → Backplane ω γ →
    List (Option UInt8) × Backplane ω γ
  | 0, _, b => ([], b)
  | count + 1, offset, b =>
    let (byte, b) := t.peek offset b
    let (rest, b) := look t count (offset + 1) b
    (byte :: rest, b)

end Motherboard.Bench
