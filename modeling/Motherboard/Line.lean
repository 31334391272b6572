/-!
# Control lines

The six control lines of the processor, and a record with one value per line.
-/

namespace Motherboard

/-- A control line. -/
inductive Line where
  /-- Maskable interrupt request. -/
  | irq
  /-- Non-maskable interrupt; its rising edge counts. -/
  | nmi
  /-- System reset. -/
  | reset
  /-- Ready; pulled to stall the processor. -/
  | rdy
  /-- Request of the bus for DMA. -/
  | dmaRequest
  /-- Sync of instruction fetches. -/
  | sync
  deriving DecidableEq

namespace Line

/-- Every line, in the order of its index. -/
def all : List Line :=
  [.irq, .nmi, .reset, .rdy, .dmaRequest, .sync]

end Line

/-- One value per control line. -/
structure PerLine (α : Type) where
  /-- Value of the interrupt request line. -/
  irq : α
  /-- Value of the non-maskable interrupt line. -/
  nmi : α
  /-- Value of the reset line. -/
  reset : α
  /-- Value of the ready line. -/
  rdy : α
  /-- Value of the DMA request line. -/
  dmaRequest : α
  /-- Value of the sync line. -/
  sync : α
  deriving DecidableEq

namespace PerLine

variable {α : Type}

/-- The same value for every line. -/
def replicate (a : α) : PerLine α := ⟨a, a, a, a, a, a⟩

/-- The value of a line. -/
def get (p : PerLine α) : Line → α
  | .irq => p.irq
  | .nmi => p.nmi
  | .reset => p.reset
  | .rdy => p.rdy
  | .dmaRequest => p.dmaRequest
  | .sync => p.sync

/-- The record with the value of one line replaced. -/
def set (p : PerLine α) (line : Line) (a : α) : PerLine α :=
  match line with
  | .irq => { p with irq := a }
  | .nmi => { p with nmi := a }
  | .reset => { p with reset := a }
  | .rdy => { p with rdy := a }
  | .dmaRequest => { p with dmaRequest := a }
  | .sync => { p with sync := a }

@[simp] theorem get_replicate (a : α) (line : Line) : (replicate a).get line = a := by
  cases line <;> rfl

/-- Replacing the value of a line changes that line and no other. -/
theorem get_set (p : PerLine α) (line other : Line) (a : α) :
    (p.set line a).get other = if other = line then a else p.get other := by
  cases line <;> cases other <;> rfl

end PerLine

end Motherboard
