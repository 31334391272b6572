import Motherboard.Fault
import Motherboard.Page.Entry

/-!
# Requests of a bus

What the bus asks while it carries out an access: cycles, looks and pokes of its targets, and the
floating lines. `Requests α` is a tree of such questions, each followed by what to do with every
possible answer; it knows nothing about the targets. `Requests.run` lets somebody answer.

`Requests.All` says that every question that can come up has a property, whatever the answers are.
-/

namespace Motherboard

/-- One question of the bus. -/
inductive Request where
  /-- A target is to read a value of the given width. -/
  | read (target : TargetId) (width : Width) (offset : UInt32) (access : Access)
  /-- A target is to write a value of the given width. -/
  | write (target : TargetId) (width : Width) (offset value : UInt32) (access : Access)
  /-- A target shows a byte without side effects. -/
  | peek (target : TargetId) (offset : UInt32)
  /-- A target stores a byte without side effects. -/
  | poke (target : TargetId) (offset : UInt32) (value : UInt8)
  /-- The bus itself takes a byte from the floating lines. -/
  | floating (address : UInt32)
  deriving DecidableEq

namespace Request

/-- Answers to a question. -/
def Reply : Request → Type
  | .read .. => Except DeviceError UInt32
  | .write .. => Except DeviceError Unit
  | .peek .. => Option UInt8
  | .poke .. => Bool
  | .floating _ => UInt8

/-- The target asked; nobody for the floating lines. -/
def target? : Request → Option TargetId
  | .read target .. | .write target .. | .peek target _ | .poke target .. => some target
  | .floating _ => none

end Request

/-- A tree of questions that ends in an `α`. -/
inductive Requests (α : Type) where
  /-- Nothing more to ask. -/
  | done (a : α)
  /-- One question, and how to go on from each answer. -/
  | ask (request : Request) (next : request.Reply → Requests α)

namespace Requests

variable {α β σ : Type}

/-- Asks one thing and takes the answer. -/
def one (request : Request) : Requests request.Reply :=
  .ask request .done

/-- One tree after another. -/
def bind : Requests α → (α → Requests β) → Requests β
  | .done a, f => f a
  | .ask request next, f => .ask request fun reply => (next reply).bind f

/-- The same questions with another end. -/
def map (f : α → β) (r : Requests α) : Requests β :=
  r.bind fun a => .done (f a)

/-- Somebody with a state `σ` who answers questions. -/
abbrev Answerer (σ : Type) := (request : Request) → σ → request.Reply × σ

/-- Lets somebody answer all questions. -/
def run (answer : Answerer σ) : Requests α → σ → α × σ
  | .done a, s => (a, s)
  | .ask request next, s =>
    let (reply, s) := answer request s
    run answer (next reply) s

/-- The answerer who also writes down every question, the latest last. -/
def recording (answer : Answerer σ) : Answerer (σ × List Request) := fun request (s, asked) =>
  let (reply, s) := answer request s
  (reply, s, asked ++ [request])

/-- Every question that can come up has the property `P`. -/
def All (P : Request → Prop) : Requests α → Prop
  | .done _ => True
  | .ask request next => P request ∧ ∀ reply, (next reply).All P

@[simp] theorem bind_ask (request : Request) (next : request.Reply → Requests α)
    (f : α → Requests β) :
    (ask request next).bind f = ask request fun reply => (next reply).bind f := rfl

/-- Two computations, one after the other, run one after the other. -/
theorem run_bind (answer : Answerer σ) (r : Requests α) (f : α → Requests β) (s : σ) :
    (r.bind f).run answer s = (f (r.run answer s).1).run answer (r.run answer s).2 := by
  induction r generalizing s with
  | done a => rfl
  | ask request next ih => exact ih _ _

end Requests

end Motherboard
