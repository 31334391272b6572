import Motherboard.Bus
import Motherboard.Line.Signals
import Motherboard.Machine.Config

/-!
# Traps

A trap stands at one address and sees every access there that devices may notice, before the bus
does. It may answer the access in place of the bus, or let it pass. A wide access meets the trap at
the lowest trapped address that it covers, up to the last 32-bit address; lanes that the bus would
wrap to address zero meet none.

An access that a trap has answered has no side effects of its own, so the expansion window stays as
it is unless somebody applies the selection rule: the trap under the manual policy, the table under
the other.
-/

namespace Motherboard

/-- What a trap does with an access. -/
inductive TrapOutcome where
  /-- The access is complete; the value goes to the processor. -/
  | handled (value cycles : UInt32)
  /-- The bus carries the access out. -/
  | passThrough
  deriving DecidableEq

/-- What a trap may touch. -/
structure TrapContext (ω δ γ : Type) where
  /-- The bus and what its targets share. -/
  bus : Bus ω δ γ
  /-- The control lines. -/
  signals : Signals
  /-- The trap knows the rack. -/
  knowsRack : Bool
  /-- Place of the I/O page, if there is one. -/
  window : Option IoWindow

namespace TrapContext

variable {ω δ γ : Type} [Card γ δ ω]

/-- Applies the selection rule to an address. Nothing happens without a rack or an I/O page, and
while somebody holds the rack. -/
def touch (c : TrapContext ω δ γ) (address : UInt32) : SelectionEffect × TrapContext ω δ γ :=
  match c.window with
  | none => (.untouched, c)
  | some w =>
    -- while a cycle holds the rack the rule is not applied
    if c.knowsRack && c.bus.backplane.hold == .free then
      let (effect, bus) := c.bus.withBackplane (w.touch address)
      (effect, { c with bus := bus })
    else
      (.untouched, c)

end TrapContext

/-- A reaction to accesses at one address. What it remembers, it keeps with the host. -/
abbrev Trap (ω δ γ : Type) := Access → TrapContext ω δ γ → TrapOutcome × TrapContext ω δ γ

/-- Traps by address. -/
structure TrapTable (ω δ γ : Type) where
  /-- Who applies the selection rule to answered accesses. -/
  policy : TrapPolicy
  /-- Traps in the order of their addresses, at most one at each. -/
  traps : List (UInt32 × Trap ω δ γ) := []

namespace TrapTable

variable {ω δ γ : Type}

/-- The traps below an address. -/
def below (t : TrapTable ω δ γ) (address : UInt32) : List (UInt32 × Trap ω δ γ) :=
  t.traps.filter fun entry => entry.1 < address

/-- The traps above an address. -/
def above (t : TrapTable ω δ γ) (address : UInt32) : List (UInt32 × Trap ω δ γ) :=
  t.traps.filter fun entry => address < entry.1

/-- A trap stands at an address. -/
def contains (t : TrapTable ω δ γ) (address : UInt32) : Bool :=
  t.traps.any fun entry => entry.1 == address

/-- Trapped addresses, in increasing order. -/
def addresses (t : TrapTable ω δ γ) : List UInt32 :=
  t.traps.map Prod.fst

/-- Sets a trap at an address, in place of any that stands there. -/
def install (t : TrapTable ω δ γ) (address : UInt32) (trap : Trap ω δ γ) : TrapTable ω δ γ :=
  { t with traps := t.below address ++ (address, trap) :: t.above address }

/-- Takes the trap at an address away. -/
def remove (t : TrapTable ω δ γ) (address : UInt32) : TrapTable ω δ γ :=
  { t with traps := t.below address ++ t.above address }

/-- Last address at which an access can meet a trap. -/
def lastAddress (a : Access) : UInt32 :=
  -- the last byte is on the word, or the last word is the end
  if a.address.toNat + (a.width.bytes - 1) < 0x100000000 then
    a.address + (a.width.bytes - 1).toUInt32
  else
    0xFFFFFFFF

/-- The trap that an access meets: the one at the lowest address covered. -/
def find? (t : TrapTable ω δ γ) (a : Access) : Option (UInt32 × Trap ω δ γ) :=
  t.traps.find? fun entry => decide (a.address ≤ entry.1 ∧ entry.1 ≤ lastAddress a)

variable [Card γ δ ω]

/-- Lets the trap that an access meets act on it. The access goes on to the bus when there is no
answer. -/
def dispatch (t : TrapTable ω δ γ) (a : Access) (c : TrapContext ω δ γ) :
    Option Outcome × TrapContext ω δ γ :=
  -- silent accesses never meet a trap
  if a.sideEffectsAllowed then
    match t.find? a with
    | none => (none, c)
    | some (_, trap) =>
      match trap a c with
      | (.passThrough, c) => (none, c)
      | (.handled value cycles, c) =>
        let c :=
          match t.policy with
          | .manual => c
          | .replaySelection => (c.touch a.address).2
        -- the handler's value, also for a write
        (some ⟨value &&& a.width.mask, cycles⟩, c)
  else
    (none, c)

end TrapTable

end Motherboard
