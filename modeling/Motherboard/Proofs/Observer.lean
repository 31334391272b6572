import Motherboard.Bus
import Motherboard.Proofs.Answering
import Mathlib.Tactic.SplitIfs

/-!
# The observer steers nothing

Targets report to the trace and the bus counts, but nobody reads either. Taking the observer away
from a backplane (`Backplane.detached`) before an operation therefore gives the same answer, and the
same backplane but for the observer; each operation that a device cycle can reach has a lemma that
says so, up to `answer_unobserved` for the bus. Two buses that agree but for counters and observer
carry out an access with the same requests, the same result and the same effect (`run_unobserved`).
-/

namespace Motherboard

/-! ## Cycles that do not look at a part of their state -/

namespace Cycle

variable {σ α : Type} {g : σ → σ}

/-- The cycle does the same before and after a change of its state that it cannot see. -/
def CommutesWith (g : σ → σ) (c : Cycle σ α) : Prop :=
  ∀ s, c (g s) = ((c s).1, g (c s).2)

theorem CommutesWith.map {β : Type} {c : Cycle σ α} (hc : c.CommutesWith g) (f : α → β) :
    (c.map f).CommutesWith g := by
  intro s
  simp only [Cycle.map, hc s]

/-- A row of byte reads commutes with what each of its reads commutes with. -/
theorem commutesWith_readLanesFrom {read8 : UInt32 → Access → Cycle σ UInt8}
    (h : ∀ offset access, (read8 offset access).CommutesWith g) (offset : UInt32)
    (access : Access) (lanes : List Nat) (value : UInt32) :
    (readLanesFrom read8 offset access lanes value).CommutesWith g := by
  induction lanes generalizing value with
  | nil => exact fun _ => rfl
  | cons i lanes ih =>
    intro s
    rw [readLanesFrom, readLanesFrom, h]
    rcases read8 (offset + i.toUInt32) (access.lane i) s with ⟨_ | byte, after⟩
    · -- a refusal ends the row before and after the change
      rfl
    · exact ih _ after

theorem commutesWith_writeLanesFrom {write8 : UInt32 → UInt8 → Access → Cycle σ Unit}
    (h : ∀ offset value access, (write8 offset value access).CommutesWith g) (offset : UInt32)
    (access : Access) (lanes : List Nat) :
    (writeLanesFrom write8 offset access lanes).CommutesWith g := by
  induction lanes with
  | nil => exact fun _ => rfl
  | cons i lanes ih =>
    intro s
    rw [writeLanesFrom, writeLanesFrom, h]
    rcases write8 (offset + i.toUInt32) (access.lane i).value.toUInt8 (access.lane i) s
      with ⟨_ | _, after⟩
    · rfl
    · exact ih after

/-- A wide read is a row of byte reads. -/
theorem commutesWith_read {read8 : UInt32 → Access → Cycle σ UInt8}
    (h : ∀ offset access, (read8 offset access).CommutesWith g) (width : Width)
    (offset : UInt32) (access : Access) :
    (Cycle.read read8 width offset access).CommutesWith g := by
  cases width with
  | byte => exact (h offset access).map _
  | word => exact (commutesWith_readLanesFrom h offset access _ _).map _
  | dword => exact commutesWith_readLanesFrom h offset access _ _

/-- A wide write is a row of byte writes. -/
theorem commutesWith_write {write8 : UInt32 → UInt8 → Access → Cycle σ Unit}
    (h : ∀ offset value access, (write8 offset value access).CommutesWith g) (width : Width)
    (offset value : UInt32) (access : Access) :
    (Cycle.write write8 width offset value access).CommutesWith g := by
  cases width with
  | byte => exact h offset value.toUInt8 access
  | word => exact commutesWith_writeLanesFrom h offset _ _
  | dword => exact commutesWith_writeLanesFrom h offset _ _

end Cycle

/-! ## The backplane -/

namespace Backplane

variable {ω γ δ : Type}

/-- The backplane without its observer. -/
def detached (b : Backplane ω γ) : Backplane ω γ := { b with trace := {} }

@[simp] theorem rack_detached (b : Backplane ω γ) : b.detached.rack = b.rack := rfl

@[simp] theorem hold_detached (b : Backplane ω γ) : b.detached.hold = b.hold := rfl

@[simp] theorem overridesOf_detached (b : Backplane ω γ) (switches : Nat) :
    b.detached.overridesOf switches = b.overridesOf switches := rfl

variable [Card γ δ ω]

/-- News for a card change the card and what it drives, and no observer hears of them. -/
@[simp] theorem tell_detached (b : Backplane ω γ) (slot : UInt8) (news : γ → ω → γ × ω) :
    b.detached.tell slot news = (b.tell slot news).detached := by
  unfold tell
  rw [rack_detached]
  cases b.rack.card? slot <;> rfl

/-- Letting go of the window tells the owner, and no observer. -/
@[simp] theorem releaseWindow_detached (b : Backplane ω γ) :
    b.detached.releaseWindow = b.releaseWindow.detached := by
  unfold releaseWindow
  -- whom to tell is read off the rack, not off the observer
  rw [rack_detached]
  cases b.rack.owner with
  | none => rfl
  | some owner =>
    dsimp only
    rw [tell_detached]
    rfl

/-- Selecting a slot reports to its cards alone; it is the touch of a slot's ROM that an observer hears
of. -/
@[simp] theorem selectSlot_detached (b : Backplane ω γ) (slot : UInt8) :
    b.detached.selectSlot slot = ((b.selectSlot slot).1, (b.selectSlot slot).2.detached) := by
  unfold selectSlot
  rw [rack_detached]
  cases b.rack.index slot with
  | error e => rfl
  | ok i =>
    dsimp only
    split_ifs with hcard howner
    · rfl
    · rfl
    · -- the owner before, if there is one, and the new one are told
      cases b.rack.owner with
      | none =>
        dsimp only
        rw [tell_detached]
        rfl
      | some owner =>
        dsimp only
        rw [tell_detached, tell_detached]
        rfl

@[simp] theorem snoop_detached (b : Backplane ω γ) (slot : UInt8) :
    b.detached.snoop slot = ((b.snoop slot).1, (b.snoop slot).2.detached) := by
  unfold snoop
  rw [selectSlot_detached]
  rcases b.selectSlot slot with ⟨_ | _, after⟩ <;> rfl

/-- All that touching an offset decides is decided by the layout, the switches and the rack. -/
@[simp] theorem touch_detached (b : Backplane ω γ) (layout : IoPageLayout)
    (overrides : RomOverrides) (offset : UInt32) :
    b.detached.touch layout overrides offset =
      ((b.touch layout overrides offset).1, (b.touch layout overrides offset).2.detached) := by
  unfold touch
  -- only the sentinel and the ROM windows of the slots touch anything
  cases layout.classify offset with
  | expansion relative =>
    dsimp only
    split_ifs
    · rw [releaseWindow_detached]
    · rfl
  | slotRom slot relative =>
    dsimp only
    split_ifs
    · rfl
    · rw [snoop_detached]
      rcases b.snoop slot with ⟨_ | _, after⟩ <;> rfl
  | _ => rfl

/-- A part of a card sees the board, and the observer is not on it. -/
theorem onRegion?_detached {α : Type} (b : Backplane ω γ) (slot : UInt8) (region : CardRegion)
    (f : Part δ → Board ω → α × Part δ × Board ω) :
    b.detached.onRegion? slot region f =
      (b.onRegion? slot region f).map fun (a, after) => (a, after.detached) := by
  unfold onRegion?
  rw [rack_detached]
  cases b.rack.card? slot with
  | none => rfl
  | some card =>
    cases hregion : Card.region region card with
    | none => simp [hregion]
    | some part => simp [hregion, detached]

end Backplane

/-! ## The I/O page -/

namespace IoPage

variable {ω γ δ : Type}

/-- An I/O page beside the backplane without its observer. -/
def beside (s : IoPage δ × Backplane ω γ) : IoPage δ × Backplane ω γ := (s.1, s.2.detached)

/-- The page's own parts never see the backplane, only their board. -/
theorem onOwn_detached {α : Type} (c : Cycle (Part δ × Board ω) α) (own : OwnPart) :
    (onOwn c own : Cycle (IoPage δ × Backplane ω γ) (Option α)).CommutesWith beside := by
  rintro ⟨p, b⟩
  show onOwn c own (p, b.detached) = _
  unfold onOwn
  dsimp only
  cases p.own? own <;> rfl

variable [Card γ δ ω]

/-- A cycle that reaches a card changes the card and the board. -/
theorem onCard_detached {α : Type} (c : Cycle (Part δ × Board ω) α) (slot : UInt8)
    (region : CardRegion) :
    (onCard c slot region : Cycle (IoPage δ × Backplane ω γ) (Option α)).CommutesWith beside := by
  rintro ⟨p, b⟩
  show onCard c slot region (p, b.detached) = _
  unfold onCard
  dsimp only
  rw [Backplane.onRegion?_detached]
  cases b.onRegion? slot region fun part board => c (part, board) <;> rfl

/-- A byte cycle of an I/O page goes the same way with and without an observer. -/
theorem cycle_detached {α : Type} (c : UInt32 → Cycle (Part δ × Board ω) α) (offset : UInt32) :
    (cycle c offset : Cycle (IoPage δ × Backplane ω γ) (Option α)).CommutesWith beside := by
  rintro ⟨p, b⟩
  show cycle c offset (p, b.detached) = _
  unfold cycle
  simp only [Backplane.hold_detached, Backplane.overridesOf_detached, Backplane.touch_detached,
    Backplane.rack_detached]
  -- each test of the cycle reads the switches, the layout or the rack, which detaching keeps; so the same
  -- seat or the same card answers
  split_ifs with hfree
  · cases p.layout.ownSeat? (b.overridesOf p.switches) offset with
    | some seat => exact onOwn_detached _ _ (p, _)
    | none =>
      dsimp only
      split
      · exact onCard_detached _ _ _ (p, _)
      · rfl
  · rfl

variable [Device δ ω]

/-- A byte read of an I/O page. -/
theorem read8_detached (offset : UInt32) (access : Access) :
    (read8 offset access : Cycle (IoPage δ × Backplane ω γ) UInt8).CommutesWith beside := by
  intro s
  unfold read8
  rw [cycle_detached]
  rcases cycle (fun relative => Part.read .byte relative access) offset s with
    ⟨_ | _ | byte, after⟩ <;> rfl

theorem write8_detached (offset : UInt32) (value : UInt8) (access : Access) :
    (write8 offset value access : Cycle (IoPage δ × Backplane ω γ) Unit).CommutesWith beside :=
  (cycle_detached _ _).map _

/-- A poke that reaches a card. -/
theorem pokeCard_detached (offset : UInt32) (value : UInt8) (p : IoPage δ) (b : Backplane ω γ) :
    p.pokeCard offset value b.detached =
      ((p.pokeCard offset value b).1, beside (p.pokeCard offset value b).2) := by
  unfold pokeCard
  simp only [Backplane.hold_detached, Backplane.rack_detached, Backplane.onRegion?_detached]
  split_ifs with hfree
  · split
    · rfl
    · rfl
    · cases b.onRegion? _ _ _ <;> rfl
  · rfl

/-- A poke of an I/O page selects nothing, so that there is nothing to observe either. -/
theorem poke_detached (offset : UInt32) (value : UInt8) (p : IoPage δ) (b : Backplane ω γ) :
    p.poke offset value b.detached =
      ((p.poke offset value b).1, beside (p.poke offset value b).2) := by
  unfold poke
  rw [Backplane.overridesOf_detached]
  split
  · rfl
  · rfl
  · rfl
  · exact pokeCard_detached offset value p b

end IoPage

/-! ## Targets -/

namespace Target

variable {ω γ δ : Type}

/-- What may happen to a target without a look at the observer. -/
def HidesObserver {α : Type} (f : Target δ → Backplane ω γ → α × Target δ × Backplane ω γ) : Prop :=
  ∀ t b, f t b.detached = ((f t b).1, (f t b).2.1, (f t b).2.2.detached)

variable [Device δ ω] [Card γ δ ω]

/-- A read of any target, plain part or I/O page. -/
theorem hidesObserver_read (width : Width) (offset : UInt32) (access : Access) :
    HidesObserver fun (t : Target δ) (b : Backplane ω γ) => read width offset access (t, b) := by
  rintro (p | p) b
  · rfl
  · have hcycle := Cycle.commutesWith_read IoPage.read8_detached width offset access (p, b)
    -- an I/O page answers with byte cycles, each of which commutes
    simp only [read, onPage]
    rw [show (p, b.detached) = IoPage.beside (p, b) from rfl, hcycle]
    rfl

/-- A write of any target. -/
theorem hidesObserver_write (width : Width) (offset value : UInt32) (access : Access) :
    HidesObserver fun (t : Target δ) (b : Backplane ω γ) =>
      write width offset value access (t, b) := by
  rintro (p | p) b
  · rfl
  · have hcycle := Cycle.commutesWith_write IoPage.write8_detached width offset value access (p, b)
    simp only [write, onPage]
    rw [show (p, b.detached) = IoPage.beside (p, b) from rfl, hcycle]
    rfl

theorem hidesObserver_peek (offset : UInt32) :
    HidesObserver fun (t : Target δ) (b : Backplane ω γ) =>
      ((t.peek offset b).1, t, (t.peek offset b).2) := by
  rintro (p | p) b <;> rfl

/-- A poke of a target. -/
theorem hidesObserver_poke (offset : UInt32) (value : UInt8) :
    HidesObserver fun (t : Target δ) (b : Backplane ω γ) => t.poke offset value b := by
  rintro (p | p) b
  · rfl
  · simp only [poke, IoPage.poke_detached]
    rfl

end Target

/-! ## The bus -/

namespace Bus

variable {ω γ δ : Type}

/-- The bus without its counters and its observer. -/
def unobserved (bus : Bus ω δ γ) : Bus ω δ γ :=
  { bus with diagnostics := .zero, backplane := bus.backplane.detached }

/-- What is reported and counted at the end of an access is observation only. -/
@[simp] theorem unobserved_observe (bus : Bus ω δ γ) (a : Access)
    (result : Except Fault Completed) : (bus.observe a result).unobserved = bus.unobserved := by
  cases result <;> rfl

theorem routing_unobserved (bus : Bus ω δ γ) : bus.unobserved.routing = bus.routing := rfl

theorem routing_of_unobserved {bus other : Bus ω δ γ} (h : bus.unobserved = other.unobserved) :
    bus.routing = other.routing := by
  rw [← bus.routing_unobserved, h, routing_unobserved]

/-- Buses that differ in observation have the same targets. -/
theorem targets_of_unobserved {bus other : Bus ω δ γ} (h : bus.unobserved = other.unobserved) :
    bus.targets = other.targets := by
  injection h

/-- A request that hides the observer answers the same on an unobserved bus, and leaves the same bus
behind but for the observation. -/
theorem onTarget_unobserved {α : Type} (bus : Bus ω δ γ) (id : TargetId) (missing : α)
    {f : Target δ → Backplane ω γ → α × Target δ × Backplane ω γ} (hf : Target.HidesObserver f) :
    (bus.unobserved.onTarget id missing f).1 = (bus.onTarget id missing f).1 ∧
      (bus.unobserved.onTarget id missing f).2.unobserved =
        (bus.onTarget id missing f).2.unobserved := by
  -- the target is the same one, and it is shown the backplane without its observer
  have htarget : bus.unobserved.target? id = bus.target? id := rfl
  have hplane : bus.unobserved.backplane = bus.backplane.detached := rfl
  unfold onTarget onTarget?
  rw [htarget]
  cases bus.target? id with
  | none => exact ⟨rfl, rfl⟩
  | some t =>
    simp only [Option.map_some, Option.getD_some]
    rw [hplane, hf]
    exact ⟨rfl, rfl⟩

variable [Device δ ω] [Card γ δ ω]

/-- The targets of a bus answer a request in the same way, and come to the same state, whatever the
counters and the observer are. -/
theorem answer_unobserved (request : Request) (bus : Bus ω δ γ) :
    (answer request bus.unobserved).1 = (answer request bus).1 ∧
      (answer request bus.unobserved).2.unobserved = (answer request bus).2.unobserved := by
  cases request with
  | read id width offset access =>
    exact bus.onTarget_unobserved id _ (Target.hidesObserver_read width offset access)
  | write id width offset value access =>
    exact bus.onTarget_unobserved id _ (Target.hidesObserver_write width offset value access)
  | peek id offset => exact bus.onTarget_unobserved id _ (Target.hidesObserver_peek offset)
  | poke id offset value => exact bus.onTarget_unobserved id _ (Target.hidesObserver_poke offset value)
  | floating address => exact ⟨rfl, rfl⟩

/-- Buses that agree but for counters and observer carry out an access alike. -/
theorem run_unobserved {α : Type} (r : Requests α) {bus bus' : Bus ω δ γ}
    (h : bus.unobserved = bus'.unobserved) :
    (r.run answer bus).1 = (r.run answer bus').1 ∧
      (r.run answer bus).2.unobserved = (r.run answer bus').2.unobserved ∧
      r.asked answer bus = r.asked answer bus' := by
  -- that the buses agree but for counters and observer is what every answer keeps
  apply Requests.run_related (R := fun x y : Bus ω δ γ => x.unobserved = y.unobserved) _ r h
  intro request x y hxy
  obtain ⟨hx, hx'⟩ := answer_unobserved request x
  obtain ⟨hy, hy'⟩ := answer_unobserved request y
  rw [hxy] at hx hx'
  exact ⟨hx.symm.trans hy, hx'.symm.trans hy'⟩

end Bus

end Motherboard
