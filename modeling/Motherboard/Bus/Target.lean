import Motherboard.IoPage

/-!
# Targets

A target is what the bus dispatches cycles to: a part, or an I/O page that shares them out further.
-/

namespace Motherboard

/-- A receiver of bus cycles. -/
inductive Target (δ : Type) where
  /-- A single part. -/
  | part (p : Part δ)
  /-- A composite I/O page. -/
  | page (p : IoPage δ)

namespace Target

variable {δ ω γ : Type}

/-- Lets a cycle of a part run on the board of a backplane. -/
def onPart {α : Type} (c : Cycle (Part δ × Board ω) α) (p : Part δ) (b : Backplane ω γ) :
    Except DeviceError α × Target δ × Backplane ω γ :=
  let (answer, p, board) := c (p, b.toBoard)
  (answer, .part p, { b with toBoard := board })

/-- Lets a cycle of an I/O page run. -/
def onPage {α : Type} (c : Cycle (IoPage δ × Backplane ω γ) α) (p : IoPage δ)
    (b : Backplane ω γ) : Except DeviceError α × Target δ × Backplane ω γ :=
  let (answer, p, b) := c (p, b)
  (answer, .page p, b)

variable [Device δ ω] [Card γ δ ω]

/-- What a target tells the bus about itself. -/
def capabilities : Target δ → Capabilities
  | .part p => p.capabilities
  | .page _ => IoPage.capabilities

/-- Reads a value of any width; an I/O page has byte cycles only. -/
def read (width : Width) (offset : UInt32) (access : Access) :
    Cycle (Target δ × Backplane ω γ) UInt32
  | (.part p, b) => onPart (Part.read width offset access) p b
  | (.page p, b) => onPage (Cycle.read IoPage.read8 width offset access) p b

/-- Writes a value of any width; an I/O page has byte cycles only. -/
def write (width : Width) (offset value : UInt32) (access : Access) :
    Cycle (Target δ × Backplane ω γ) Unit
  | (.part p, b) => onPart (Part.write width offset value access) p b
  | (.page p, b) => onPage (Cycle.write IoPage.write8 width offset value access) p b

/-- Looks at a byte. -/
def peek (offset : UInt32) (t : Target δ) (b : Backplane ω γ) : Option UInt8 × Backplane ω γ :=
  let (byte, host) :=
    match t with
    | .part p => p.peek offset b.toBoard
    | .page p => p.peek offset b
  (byte, { b with host := host })

/-- Stores a byte without side effects. -/
def poke (offset : UInt32) (value : UInt8) (t : Target δ) (b : Backplane ω γ) :
    Bool × Target δ × Backplane ω γ :=
  match t with
  | .part p =>
    let (stored, p, board) := p.poke offset value b.toBoard
    (stored, .part p, { b with toBoard := board })
  | .page p =>
    let (stored, p, b) := p.poke offset value b
    (stored, .page p, b)

/-- Returns a target to power-on. -/
def reset (t : Target δ) (b : Backplane ω γ) : Target δ × Backplane ω γ :=
  match t with
  | .part p =>
    let (p, board) := p.reset b.toBoard
    (.part p, { b with toBoard := board })
  | .page p =>
    let (p, b) := p.reset b
    (.page p, b)

end Target

end Motherboard
