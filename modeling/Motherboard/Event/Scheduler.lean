import Motherboard.Event

/-!
# The scheduler

A clock and a queue of events ordered by due cycle and then by order of scheduling. A *pass* takes
the first event while it is due by a limit, moves the clock up to the event's due cycle, and hands
the event with the scheduler itself to a reaction, which may schedule and cancel; so the queue
changes while the pass runs. Passes count their steps down from a bound and answer nothing when it
does not suffice: a reaction that always schedules for the present never ends.

The queue is kept twice: as the ordered list of waiting events, and as an index from handles to
places in the queue, which cancelling looks up.

Handles and sequence numbers are natural numbers. Words of 64 bits can carry them as long as fewer than
2 ^ 64 events have been scheduled (`Scheduler.Life.fits_words`); what is proved of order and identity of
events is meant for that time.
-/

namespace Motherboard

/-- The sum of two cycle counts, or the last cycle when there is none. -/
def addCycles (a b : UInt64) : UInt64 :=
  if a.toNat + b.toNat < 0x10000000000000000 then a + b else 0xFFFFFFFFFFFFFFFF

/-- The later of two cycles. -/
def laterCycle (a b : UInt64) : UInt64 :=
  if a < b then b else a

namespace Event

/-- Places an event among events in the order of their keys. -/
def insertSorted (e : Event) : List Event → List Event
  | [] => [e]
  | first :: rest =>
    if e.key.before first.key then e :: first :: rest else first :: insertSorted e rest

end Event

/-- A clock and the events that wait. -/
structure Scheduler where
  /-- The present cycle. -/
  now : UInt64 := 0
  /-- Handles given out so far. -/
  handles : Nat := 0
  /-- Sequence numbers given out so far. -/
  sequences : Nat := 0
  /-- Waiting events in order. -/
  queue : List Event := []
  /-- Place in the queue of every waiting event. -/
  index : List (EventHandle × EventKey) := []
  /-- Events handed out since power-on or the last reset, or the largest 64-bit number if there were
  more. -/
  dispatched : Nat := 0
  deriving DecidableEq

namespace Scheduler

/-- Number of waiting events. -/
def pending (s : Scheduler) : Nat :=
  s.queue.length

/-- Due cycle of the first waiting event. -/
def nextDue? (s : Scheduler) : Option UInt64 :=
  s.queue.head?.map Event.due

/-- The event still waits. -/
def isPending (s : Scheduler) (handle : EventHandle) : Bool :=
  (s.index.lookup handle).isSome

/-- Queues an event for a cycle. One already past fires at the next pass. -/
def scheduleAt (due : UInt64) (spec : EventSpec) (s : Scheduler) : EventHandle × Scheduler :=
  -- handles start at 1, sequence numbers at 0; both count all events ever queued
  let handle : EventHandle := ⟨s.handles + 1⟩
  let event : Event := { spec with handle := handle, due := due, sequence := s.sequences }
  (handle,
    { s with
      handles := s.handles + 1
      sequences := s.sequences + 1
      queue := event.insertSorted s.queue
      index := (handle, event.key) :: s.index })

/-- Queues an event `delta` cycles from now, or for the last cycle if that comes first. -/
def scheduleAfter (delta : UInt64) (spec : EventSpec) (s : Scheduler) : EventHandle × Scheduler :=
  s.scheduleAt (addCycles s.now delta) spec

/-- The scheduler without the index entry of a handle. -/
def forget (handle : EventHandle) (s : Scheduler) : Scheduler :=
  { s with index := s.index.filter fun entry => entry.1 != handle }

/-- Takes a waiting event out of the queue. The answer tells whether it was waiting. -/
def cancel (handle : EventHandle) (s : Scheduler) : Bool × Scheduler :=
  match s.index.lookup handle with
  | none => (false, s)
  | some key =>
    -- the place in the queue is found by the key, since keys are in order and handles are not
    let rest := { s.forget handle with queue := s.queue.filter fun e => e.key != key }
    (s.queue.any fun e => e.key == key, rest)

/-- Drops every waiting event and sets the clock to zero. Handles go on counting. -/
def reset (s : Scheduler) : Scheduler :=
  -- the numbers go on, so that a handle from before is never given out again
  { s with now := 0, queue := [], index := [], dispatched := 0 }

/-- The first event, if it is due by `limit`, and the scheduler without it. -/
def popDue? (limit : UInt64) (s : Scheduler) : Option (Event × Scheduler) :=
  match s.queue with
  | [] => none
  | event :: rest =>
    if limit < event.due then none else some (event, ({ s with queue := rest }).forget event.handle)

/-- The scheduler at the moment at which `event` is handed out. -/
def arrive (event : Event) (s : Scheduler) : Scheduler :=
  { s with
    now := laterCycle s.now event.due
    dispatched := min (s.dispatched + 1) 0xFFFFFFFFFFFFFFFF }

variable {ψ : Type}

/-- A reaction to events: it gets the event, the scheduler at that moment and the rest of the world,
and answers with what it made of them. -/
abbrev Reaction (ψ : Type) := Event → Scheduler → ψ → Scheduler × ψ

/-- Hands out the events due by `limit`, at most `bound` of them, and answers with their number
added to `count`. Nothing when events are left that are due. -/
def pass (react : Reaction ψ) (limit : UInt64) :
    (bound count : Nat) → Scheduler → ψ → Option (Nat × Scheduler × ψ)
  | 0, count, s, world =>
    match s.popDue? limit with
    | none => some (count, s, world)
    | some _ => none
  | bound + 1, count, s, world =>
    match s.popDue? limit with
    | none => some (count, s, world)
    | some (event, rest) =>
      -- the reaction gets the clock at the event's cycle, and what it queues may be due in this pass
      let (s, world) := react event (rest.arrive event) world
      pass react limit bound (count + 1) s world

/-- Hands out what is due by now, including what the reactions schedule for now. -/
def dispatchDue (react : Reaction ψ) (bound : Nat) (s : Scheduler) (world : ψ) :
    Option (Nat × Scheduler × ψ) :=
  pass react s.now bound 0 s world

/-- Moves the clock `delta` cycles on, handing out events as their cycles are reached. -/
def advance (react : Reaction ψ) (bound : Nat) (delta : UInt64) (s : Scheduler) (world : ψ) :
    Option (Nat × Scheduler × ψ) :=
  let target := addCycles s.now delta
  (pass react target bound 0 s world).map fun (count, s, world) =>
    (count, { s with now := target }, world)

/-- Moves the clock to the first waiting event and hands out what is due then. The answer tells
whether anything waited. -/
def jump (react : Reaction ψ) (bound : Nat) (s : Scheduler) (world : ψ) :
    Option (Bool × Scheduler × ψ) :=
  match s.nextDue? with
  | none => some (false, s, world)
  | some due =>
    (dispatchDue react bound { s with now := laterCycle s.now due } world).map
      fun (_, s, world) => (true, s, world)

end Scheduler

end Motherboard
