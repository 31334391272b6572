import Motherboard.Bench.Instrument
import Motherboard.Proofs.Answering
import Motherboard.Proofs.BusRun

/-!
# What devices do not see of the host

All who take part in a machine keep what they remember with the host, each in a place of its own. A device
sees its own place and not that of a trap, so a change there makes no difference to it. Which hosts make
no difference is a relation here: devices and cards overlook it when from related hosts they do the same
and come to related hosts again (`Overlooked`). This much of each of them is enough for a whole bus:
buses that differ by related hosts only (`Bus.Alike`) carry out an access alike, with the same result, and
differ by related hosts only afterwards (`Bus.alike_access`).

Equality of hosts is overlooked by everybody (`overlooked_eq`), and the hosts of a bench, whose instruments
write but never read, make no difference at all (`Bench.overlooked_hosts`).
-/

namespace Motherboard

/-- The answers are the same, and what goes with them is related. -/
def Beside {α σ : Type} (R : σ → σ → Prop) (x y : α × σ) : Prop :=
  x.1 = y.1 ∧ R x.2 y.2

/-- Two results that go together, taken apart: one answer, and two related states. -/
theorem Beside.exists_eq {α σ : Type} {R : σ → σ → Prop} {x y : α × σ} (h : Beside R x y) :
    ∃ answer after after', x = (answer, after) ∧ y = (answer, after') ∧ R after after' := by
  obtain ⟨answer, after⟩ := x
  obtain ⟨answer', after'⟩ := y
  obtain ⟨hanswer, hafter⟩ := h
  exact ⟨answer, after, after', rfl, congrArg (·, after') hanswer.symm, hafter⟩

/-! ## Cycles -/

namespace Cycle

variable {σ α : Type} {R : σ → σ → Prop}

/-- From related states the cycle answers alike and comes to related states. -/
def Overlooks (R : σ → σ → Prop) (c : Cycle σ α) : Prop :=
  ∀ s s', R s s' → Beside R (c s) (c s')

/-- What is made of the answer afterwards does not bring the host in. -/
theorem Overlooks.map {β : Type} {c : Cycle σ α} (hc : c.Overlooks R) (f : α → β) :
    (c.map f).Overlooks R := by
  -- the answer is the same, and the state is not touched
  intro s s' hs
  obtain ⟨hanswer, hafter⟩ := hc s s' hs
  exact ⟨congrArg (Except.map f) hanswer, hafter⟩

/-- A row of byte reads overlooks what each of them overlooks, wherever it ends. -/
theorem overlooks_readLanesFrom {read8 : UInt32 → Access → Cycle σ UInt8}
    (h : ∀ offset access, (read8 offset access).Overlooks R) (offset : UInt32) (access : Access)
    (lanes : List Nat) (value : UInt32) :
    (readLanesFrom read8 offset access lanes value).Overlooks R := by
  -- along the lanes; the value merged so far is that of both runs
  induction lanes generalizing value with
  | nil => exact fun _ _ hs => ⟨rfl, hs⟩
  | cons i lanes ih =>
    intro s s' hs
    obtain ⟨answer, after, after', hone, hother, hafter⟩ :=
      (h (offset + i.toUInt32) (access.lane i) s s' hs).exists_eq
    rw [readLanesFrom, readLanesFrom, hone, hother]
    cases answer with
    -- a refusal ends both rows at the same lane
    | error e => exact ⟨rfl, hafter⟩
    | ok byte => exact ih _ after after' hafter

theorem overlooks_writeLanesFrom {write8 : UInt32 → UInt8 → Access → Cycle σ Unit}
    (h : ∀ offset value access, (write8 offset value access).Overlooks R) (offset : UInt32)
    (access : Access) (lanes : List Nat) : (writeLanesFrom write8 offset access lanes).Overlooks R := by
  induction lanes with
  | nil => exact fun _ _ hs => ⟨rfl, hs⟩
  | cons i lanes ih =>
    intro s s' hs
    obtain ⟨answer, after, after', hone, hother, hafter⟩ :=
      (h (offset + i.toUInt32) (access.lane i).value.toUInt8 (access.lane i) s s' hs).exists_eq
    rw [writeLanesFrom, writeLanesFrom, hone, hother]
    cases answer with
    -- a refusal ends both rows at the same lane
    | error e => exact ⟨rfl, hafter⟩
    | ok _ => exact ih after after' hafter

/-- A read of any width, made of byte reads, overlooks what they overlook. -/
theorem overlooks_read {read8 : UInt32 → Access → Cycle σ UInt8}
    (h : ∀ offset access, (read8 offset access).Overlooks R) (width : Width) (offset : UInt32)
    (access : Access) : (Cycle.read read8 width offset access).Overlooks R := by
  cases width with
  | byte => exact (h offset access).map _
  | word => exact (overlooks_readLanesFrom h offset access _ _).map _
  | dword => exact overlooks_readLanesFrom h offset access _ _

/-- A write of any width, made of byte writes, overlooks what they overlook. -/
theorem overlooks_write {write8 : UInt32 → UInt8 → Access → Cycle σ Unit}
    (h : ∀ offset value access, (write8 offset value access).Overlooks R) (width : Width)
    (offset value : UInt32) (access : Access) :
    (Cycle.write write8 width offset value access).Overlooks R := by
  cases width with
  | byte => exact h offset value.toUInt8 access
  | word => exact overlooks_writeLanesFrom h offset _ _
  | dword => exact overlooks_writeLanesFrom h offset _ _

end Cycle

/-! ## Hosts that make no difference -/

section Alike

variable {ω γ δ : Type}

/-- The same but for related hosts. -/
def Commons.Alike (R : ω → ω → Prop) (c c' : Commons ω) : Prop :=
  ∃ host, R c.host host ∧ c' = { c with host := host }

/-- The same but for related hosts. -/
def Board.Alike (R : ω → ω → Prop) (b b' : Board ω) : Prop :=
  ∃ host, R b.host host ∧ b' = { b with host := host }

/-- The same but for related hosts. -/
def Backplane.Alike (R : ω → ω → Prop) (b b' : Backplane ω γ) : Prop :=
  ∃ host, R b.host host ∧ b' = { b with host := host }

/-- The same but for related hosts. -/
def Bus.Alike (R : ω → ω → Prop) (bus bus' : Bus ω δ γ) : Prop :=
  ∃ host, R bus.backplane.host host ∧ bus' = { bus with backplane.host := host }

/-- What devices and cards do in an access, they do alike with related hosts. -/
structure Overlooked (δ γ : Type) [Device δ ω] [Card γ δ ω] (R : ω → ω → Prop) : Prop where
  read : ∀ (width : Width) (offset : UInt32) (access : Access),
    (Device.read width offset access : Cycle (δ × Commons ω) UInt32).Overlooks (Beside (Commons.Alike R))
  write : ∀ (width : Width) (offset value : UInt32) (access : Access),
    (Device.write width offset value access : Cycle (δ × Commons ω) Unit).Overlooks
      (Beside (Commons.Alike R))
  peek : ∀ (offset : UInt32) (d : δ) (c c' : Commons ω), Commons.Alike R c c' →
    Beside R (Device.peek offset d c) (Device.peek offset d c')
  poke : ∀ (offset : UInt32) (value : UInt8) (d : δ) (c c' : Commons ω), Commons.Alike R c c' →
    Beside (Beside R) (Device.poke offset value d c) (Device.poke offset value d c')
  selected : ∀ (card : γ) (host host' : ω), R host host' →
    Beside R (Card.selected card host) (Card.selected card host')
  deselected : ∀ (card : γ) (host host' : ω), R host host' →
    Beside R (Card.deselected card host) (Card.deselected card host')

variable {R : ω → ω → Prop}

/-- Commons that differ by equal hosts are the same. -/
theorem Commons.alike_eq (c c' : Commons ω) : Commons.Alike Eq c c' ↔ c = c' := by
  constructor
  · rintro ⟨host, rfl, rfl⟩
    rfl
  · rintro rfl
    exact ⟨_, rfl, rfl⟩

/-- Nobody does different things with the same host. -/
theorem overlooked_eq (δ γ : Type) [Device δ ω] [Card γ δ ω] : Overlooked δ γ (Eq : ω → ω → Prop) := by
  have hcycle : ∀ {α : Type} (c : Cycle (δ × Commons ω) α), c.Overlooks (Beside (Commons.Alike Eq)) := by
    rintro α c ⟨d, commons⟩ ⟨d', commons'⟩ ⟨hd, hcommons⟩
    obtain rfl : d = d' := hd
    -- with equal hosts there is one state only, and so one cycle
    obtain rfl := (Commons.alike_eq _ _).1 hcommons
    exact ⟨rfl, rfl, (Commons.alike_eq _ _).2 rfl⟩
  constructor
  case read => exact fun width offset access => hcycle _
  case write => exact fun width offset value access => hcycle _
  case peek =>
    intro offset d c c' hcommons
    obtain rfl := (Commons.alike_eq _ _).1 hcommons
    exact ⟨rfl, rfl⟩
  case poke =>
    intro offset value d c c' hcommons
    obtain rfl := (Commons.alike_eq _ _).1 hcommons
    exact ⟨rfl, rfl, rfl⟩
  case selected =>
    rintro card host _ rfl
    exact ⟨rfl, rfl⟩
  case deselected =>
    rintro card host _ rfl
    exact ⟨rfl, rfl⟩

/-! ## Parts -/

namespace Board

/-- The switches of a banked memory do not look at the host. -/
theorem overlooks_readSwitch (memory : Nat) (offset : UInt32) (access : Access) :
    (readSwitch memory offset access : Cycle (Board ω) UInt8).Overlooks (Alike R) := by
  rintro b _ ⟨host, hhost, rfl⟩
  exact ⟨rfl, host, hhost, rfl⟩

theorem overlooks_writeSwitch (memory : Nat) (offset : UInt32) (value : UInt8) (access : Access) :
    (writeSwitch memory offset value access : Cycle (Board ω) Unit).Overlooks (Alike R) := by
  rintro b _ ⟨host, hhost, rfl⟩
  exact ⟨rfl, host, hhost, rfl⟩

theorem overlooks_readBanked (memory : Nat) (offset : UInt32) (access : Access) :
    (readBanked memory offset access : Cycle (Board ω) UInt8).Overlooks (Alike R) := by
  rintro b _ ⟨host, hhost, rfl⟩
  unfold readBanked
  dsimp only
  cases b.banked[memory]? <;> exact ⟨rfl, host, hhost, rfl⟩

theorem overlooks_writeBanked (memory : Nat) (offset : UInt32) (value : UInt8) (access : Access) :
    (writeBanked memory offset value access : Cycle (Board ω) Unit).Overlooks (Alike R) := by
  rintro b _ ⟨host, hhost, rfl⟩
  unfold writeBanked
  dsimp only
  cases b.banked[memory]? <;> exact ⟨rfl, host, hhost, rfl⟩

end Board

namespace Part

/-- A cycle of the board overlooks the host beside a part as well. -/
theorem overlooks_onBoard {α : Type} {c : Cycle (Board ω) α} (hc : c.Overlooks (Board.Alike R))
    (part : Part δ) {b b' : Board ω} (hb : Board.Alike R b b') :
    Beside (Beside (Board.Alike R)) (onBoard c part b) (onBoard c part b') := by
  obtain ⟨hanswer, hafter⟩ := hc b b' hb
  exact ⟨hanswer, rfl, hafter⟩

/-- A cycle of a device on the common part of a board leaves the banked memories out, so what it overlooks
of the commons it overlooks of the board. -/
theorem overlooks_onDevice {α : Type} {c : Cycle (δ × Commons ω) α}
    (hc : c.Overlooks (Beside (Commons.Alike R))) (d : δ) {b b' : Board ω} (hb : Board.Alike R b b') :
    Beside (Beside (Board.Alike R)) (onDevice c d b) (onDevice c d b') := by
  obtain ⟨host, hhost, rfl⟩ := hb
  obtain ⟨hanswer, hdevice, host', hhost', hcommons⟩ :=
    hc (d, b.toCommons) (d, { b.toCommons with host := host }) ⟨rfl, host, hhost, rfl⟩
  refine ⟨hanswer, congrArg Part.device hdevice, host', hhost', ?_⟩
  -- the banked memories are those of the board, whatever the device has done
  show ({ b with toCommons := (c (d, { b.toCommons with host := host })).2.2 } : Board ω) = _
  rw [hcommons]
  rfl

variable [Device δ ω] [Card γ δ ω]

/-- Reads of parts: memories and banked memories have no host to look at, and devices are assumed to
overlook it. -/
theorem overlooks_read (h : Overlooked δ γ R) (width : Width) (offset : UInt32) (access : Access) :
    (Part.read width offset access : Cycle (Part δ × Board ω) UInt32).Overlooks
      (Beside (Board.Alike R)) := by
  rintro ⟨part, b⟩ ⟨part', b'⟩ ⟨hpart, hb⟩
  dsimp only at hpart hb
  subst hpart
  cases part with
  | ram store => exact ⟨rfl, rfl, hb⟩
  | rom store => exact ⟨rfl, rfl, hb⟩
  | bankSwitches memory =>
    exact overlooks_onBoard
      (Cycle.overlooks_read (Board.overlooks_readSwitch memory) width offset access) _ hb
  | bankWindow memory =>
    exact overlooks_onBoard
      (Cycle.overlooks_read (Board.overlooks_readBanked memory) width offset access) _ hb
  | device d => exact overlooks_onDevice (h.read width offset access) d hb

/-- Writes of parts, part by part like reads. -/
theorem overlooks_write (h : Overlooked δ γ R) (width : Width) (offset value : UInt32)
    (access : Access) :
    (Part.write width offset value access : Cycle (Part δ × Board ω) Unit).Overlooks
      (Beside (Board.Alike R)) := by
  rintro ⟨part, b⟩ ⟨part', b'⟩ ⟨hpart, hb⟩
  dsimp only at hpart hb
  subst hpart
  cases part with
  | ram store => exact ⟨rfl, rfl, hb⟩
  | rom store => exact ⟨rfl, rfl, hb⟩
  | bankSwitches memory =>
    exact overlooks_onBoard
      (Cycle.overlooks_write (Board.overlooks_writeSwitch memory) width offset value access) _ hb
  | bankWindow memory =>
    exact overlooks_onBoard
      (Cycle.overlooks_write (Board.overlooks_writeBanked memory) width offset value access) _ hb
  | device d => exact overlooks_onDevice (h.write width offset value access) d hb

/-- Looks at parts; the device alone may note them with the host. -/
theorem overlooks_peek (h : Overlooked δ γ R) (offset : UInt32) (part : Part δ) {b b' : Board ω}
    (hb : Board.Alike R b b') : Beside R (part.peek offset b) (part.peek offset b') := by
  obtain ⟨host, hhost, rfl⟩ := hb
  cases part with
  -- memories show their bytes and leave the host as it is
  | device d => exact h.peek offset d b.toCommons _ ⟨host, hhost, rfl⟩
  | _ => exact ⟨rfl, hhost⟩

/-- Pokes of parts. -/
theorem overlooks_poke (h : Overlooked δ γ R) (offset : UInt32) (value : UInt8) (part : Part δ)
    {b b' : Board ω} (hb : Board.Alike R b b') :
    Beside (Beside (Board.Alike R)) (part.poke offset value b) (part.poke offset value b') := by
  obtain ⟨host, hhost, rfl⟩ := hb
  cases part with
  | bankWindow memory =>
    unfold poke
    dsimp only
    cases b.banked[memory]? <;> exact ⟨rfl, rfl, host, hhost, rfl⟩
  | device d =>
    obtain ⟨hanswer, hdevice, hafter⟩ := h.poke offset value d b.toCommons _ ⟨host, hhost, rfl⟩
    exact ⟨hanswer, congrArg Part.device hdevice, _, hafter, rfl⟩
  | _ => exact ⟨rfl, rfl, host, hhost, rfl⟩

end Part

/-! ## The rack -/

namespace Backplane

theorem Alike.toBoard {b b' : Backplane ω γ} (hb : Alike R b b') :
    Board.Alike R b.toBoard b'.toBoard := by
  obtain ⟨host, hhost, rfl⟩ := hb
  exact ⟨host, hhost, rfl⟩

/-- Related backplanes stay related when related boards are put in. -/
theorem Alike.withBoard {b b' : Backplane ω γ} (hb : Alike R b b') {board board' : Board ω}
    (hboard : Board.Alike R board board') :
    Alike R { b with toBoard := board } { b' with toBoard := board' } := by
  obtain ⟨host, -, rfl⟩ := hb
  obtain ⟨host', hhost', rfl⟩ := hboard
  exact ⟨host', hhost', rfl⟩

variable {b b' : Backplane ω γ}

/-- Backplanes that are alike have the same cards and the same owner of the window. -/
theorem Alike.rack (hb : Alike R b b') : b'.rack = b.rack := by
  obtain ⟨host, -, rfl⟩ := hb
  rfl

theorem Alike.hold (hb : Alike R b b') : b'.hold = b.hold := by
  obtain ⟨host, -, rfl⟩ := hb
  rfl

theorem Alike.overridesOf (hb : Alike R b b') (switches : Nat) :
    b'.overridesOf switches = b.overridesOf switches := by
  obtain ⟨host, -, rfl⟩ := hb
  rfl

/-- News that a card takes alike leave related backplanes related. -/
theorem alike_tell (hb : Alike R b b') (slot : UInt8) {news : γ → ω → γ × ω}
    (hnews : ∀ card host host', R host host' → Beside R (news card host) (news card host')) :
    Alike R (b.tell slot news) (b'.tell slot news) := by
  obtain ⟨host, hhost, rfl⟩ := hb
  unfold tell
  dsimp only
  cases b.rack.card? slot with
  -- an empty slot hears nothing in either of them
  | none => exact ⟨host, hhost, rfl⟩
  | some card =>
    obtain ⟨hcard, hafter⟩ := hnews card b.host host hhost
    refine ⟨_, hafter, ?_⟩
    dsimp only
    rw [hcard]

/-- To hand the window over touches the host in no way. -/
theorem alike_changeOwner (hb : Alike R b b') (owner : Option UInt8) :
    Alike R (b.changeOwner owner) (b'.changeOwner owner) := by
  obtain ⟨host, hhost, rfl⟩ := hb
  exact ⟨host, hhost, rfl⟩

variable [Device δ ω] [Card γ δ ω]

/-- The owner that loses the window is told of it alike. -/
theorem alike_releaseWindow (h : Overlooked δ γ R) (hb : Alike R b b') :
    Alike R b.releaseWindow b'.releaseWindow := by
  unfold releaseWindow
  rw [hb.rack]
  cases b.rack.owner with
  | none => exact hb
  | some owner => exact alike_changeOwner (alike_tell hb owner h.deselected) none

/-- A slot is selected or refused by what the rack says, which is the same for both. -/
theorem alike_selectSlot (h : Overlooked δ γ R) (hb : Alike R b b') (slot : UInt8) :
    Beside (Alike R) (b.selectSlot slot) (b'.selectSlot slot) := by
  unfold selectSlot
  rw [hb.rack]
  cases b.rack.index slot with
  | error e => exact ⟨rfl, hb⟩
  | ok i =>
    dsimp only
    split_ifs
    · exact ⟨rfl, hb⟩
    · exact ⟨rfl, hb⟩
    · refine ⟨rfl, alike_changeOwner (alike_tell ?_ slot h.selected) _⟩
      -- the owner before, if there is one, has heard of it first
      cases b.rack.owner with
      | none => exact hb
      | some owner => exact alike_tell hb owner h.deselected

/-- Snooping selects, and swallows refusals. -/
theorem alike_snoop (h : Overlooked δ γ R) (hb : Alike R b b') (slot : UInt8) :
    Beside (Alike R) (b.snoop slot) (b'.snoop slot) := by
  obtain ⟨answer, after, after', hone, hother, hafter⟩ := (alike_selectSlot h hb slot).exists_eq
  rw [snoop, snoop, hone, hother]
  -- a refusal is swallowed, whatever it was
  cases answer <;> exact ⟨rfl, hafter⟩

/-- Touching an offset releases the window, snoops, or does nothing: all three alike. -/
theorem alike_touch (h : Overlooked δ γ R) (hb : Alike R b b') (layout : IoPageLayout)
    (overrides : RomOverrides) (offset : UInt32) :
    Beside (Alike R) (b.touch layout overrides offset) (b'.touch layout overrides offset) := by
  unfold touch
  cases layout.classify offset with
  -- in the expansion window the sentinel alone does something
  | expansion relative =>
    dsimp only
    split_ifs
    · exact ⟨rfl, alike_releaseWindow h hb⟩
    · exact ⟨rfl, hb⟩
  -- a ROM that firmware replaces selects nobody
  | slotRom slot relative =>
    dsimp only
    split_ifs
    · exact ⟨rfl, hb⟩
    · obtain ⟨answer, after, after', hone, hother, hafter⟩ := (alike_snoop h hb slot).exists_eq
      rw [hone, hother]
      cases answer <;> exact ⟨rfl, hafter⟩
  | _ => exact ⟨rfl, hb⟩

omit [Device δ ω] in
/-- A card of either backplane has the part of the region, or none of them has. -/
theorem alike_onRegion? {α : Type} (hb : Alike R b b') (slot : UInt8) (region : CardRegion)
    {f : Part δ → Board ω → α × Part δ × Board ω}
    (hf : ∀ part board board', Board.Alike R board board' →
      Beside (Beside (Board.Alike R)) (f part board) (f part board')) :
    (b.onRegion? slot region f = none ∧ b'.onRegion? slot region f = none) ∨
      ∃ done done', b.onRegion? slot region f = some done ∧ b'.onRegion? slot region f = some done' ∧
        Beside (Alike R) done done' := by
  obtain ⟨host, hhost, rfl⟩ := hb
  unfold onRegion?
  dsimp only
  cases b.rack.card? slot with
  | none => exact .inl ⟨rfl, rfl⟩
  | some card =>
    dsimp only
    cases Card.region region card with
    | none => exact .inl ⟨rfl, rfl⟩
    | some part =>
      obtain ⟨hanswer, hpart, host', hhost', hboard⟩ :=
        hf part b.toBoard { b.toBoard with host := host } ⟨host, hhost, rfl⟩
      refine .inr ⟨_, _, rfl, rfl, hanswer, host', hhost', ?_⟩
      show ({ b with toBoard := (f part { b.toBoard with host := host }).2.2, rack := _ } :
        Backplane ω γ) = _
      rw [hboard, ← hpart]

end Backplane

/-! ## The I/O page -/

namespace IoPage

variable [Device δ ω] [Card γ δ ω]

omit [Device δ ω] [Card γ δ ω] in
/-- An own part of the page answers alike, and is put back alike. -/
theorem overlooks_onOwn {α : Type} {c : Cycle (Part δ × Board ω) α}
    (hc : c.Overlooks (Beside (Board.Alike R))) (own : OwnPart) :
    (onOwn c own : Cycle (IoPage δ × Backplane ω γ) (Option α)).Overlooks
      (Beside (Backplane.Alike R)) := by
  rintro ⟨p, b⟩ ⟨p', b'⟩ ⟨hpage, hb⟩
  dsimp only at hpage hb
  subst hpage
  unfold onOwn
  dsimp only
  cases p.own? own with
  | none => exact ⟨rfl, rfl, hb⟩
  | some part =>
    obtain ⟨hanswer, hpart, hboard⟩ := hc (part, b.toBoard) (part, b'.toBoard) ⟨rfl, hb.toBoard⟩
    exact ⟨congrArg (Except.map some) hanswer, congrArg (p.attach own) hpart, hb.withBoard hboard⟩

omit [Device δ ω] in
/-- A card answers alike, or there is none in either rack. -/
theorem overlooks_onCard {α : Type} {c : Cycle (Part δ × Board ω) α}
    (hc : c.Overlooks (Beside (Board.Alike R))) (slot : UInt8) (region : CardRegion) :
    (onCard c slot region : Cycle (IoPage δ × Backplane ω γ) (Option α)).Overlooks
      (Beside (Backplane.Alike R)) := by
  rintro ⟨p, b⟩ ⟨p', b'⟩ ⟨hpage, hb⟩
  dsimp only at hpage hb
  subst hpage
  have hregion := Backplane.alike_onRegion? hb slot region
    (f := fun part board => c (part, board)) fun part board board' hboard => hc _ _ ⟨rfl, hboard⟩
  unfold onCard
  dsimp only
  rcases hregion with ⟨hone, hother⟩ | ⟨done, done', hone, hother, hanswer, hafter⟩
  · rw [hone, hother]
    exact ⟨rfl, rfl, hb⟩
  · rw [hone, hother]
    exact ⟨congrArg (Except.map some) hanswer, rfl, hafter⟩

/-- A byte cycle of a page touches first and then finds its seat. The seat depends on layout, switches and
owner only, none of which the hosts are part of. -/
theorem overlooks_cycle (h : Overlooked δ γ R) {α : Type} {c : UInt32 → Cycle (Part δ × Board ω) α}
    (hc : ∀ relative, (c relative).Overlooks (Beside (Board.Alike R))) (offset : UInt32) :
    (cycle c offset : Cycle (IoPage δ × Backplane ω γ) (Option α)).Overlooks
      (Beside (Backplane.Alike R)) := by
  rintro ⟨p, b⟩ ⟨p', b'⟩ ⟨hpage, hb⟩
  dsimp only at hpage hb
  subst hpage
  have htouched := (Backplane.alike_touch h hb p.layout (b.overridesOf p.switches) offset).2
  unfold cycle
  dsimp only
  rw [hb.hold, hb.overridesOf]
  split_ifs
  · cases p.layout.ownSeat? (b.overridesOf p.switches) offset with
    | some seat => exact overlooks_onOwn (hc _) _ (p, _) (p, _) ⟨rfl, htouched⟩
    | none =>
      dsimp only
      -- both touches have left the window to the same card
      rw [htouched.rack]
      split
      · exact overlooks_onCard (hc _) _ _ (p, _) (p, _) ⟨rfl, htouched⟩
      · exact ⟨rfl, rfl, htouched⟩
  · -- somebody holds the rack: neither page does anything
    exact ⟨rfl, rfl, hb⟩

/-- Byte reads of a page, the floating byte included. -/
theorem overlooks_read8 (h : Overlooked δ γ R) (offset : UInt32) (access : Access) :
    (read8 offset access : Cycle (IoPage δ × Backplane ω γ) UInt8).Overlooks
      (Beside (Backplane.Alike R)) := by
  intro s s' hs
  obtain ⟨answer, ⟨p, b⟩, ⟨p', b'⟩, hone, hother, hpage, hb⟩ := (overlooks_cycle h
    (fun relative => Part.overlooks_read h .byte relative access) offset s s' hs).exists_eq
  rw [read8, read8, hone, hother]
  rcases answer with _ | _ | byte
  · exact ⟨rfl, hpage, hb⟩
  · -- where nothing answers, the floating lines are those of both
    obtain ⟨host, hhost, rfl⟩ := hb
    exact ⟨rfl, hpage, host, hhost, rfl⟩
  · exact ⟨rfl, hpage, hb⟩

theorem overlooks_write8 (h : Overlooked δ γ R) (offset : UInt32) (value : UInt8) (access : Access) :
    (write8 offset value access : Cycle (IoPage δ × Backplane ω γ) Unit).Overlooks
      (Beside (Backplane.Alike R)) :=
  (overlooks_cycle h (fun relative => Part.overlooks_write h .byte relative value.toUInt32 access)
    offset).map _

/-- Looks at cards behind a page. -/
theorem overlooks_lookAtCard (h : Overlooked δ γ R) (offset : UInt32) (p : IoPage δ)
    {b b' : Backplane ω γ} (hb : Backplane.Alike R b b') :
    Beside R (p.lookAtCard offset b) (p.lookAtCard offset b') := by
  have hboard := hb.toBoard
  obtain ⟨host, hhost, rfl⟩ := hb
  unfold lookAtCard
  dsimp only
  -- held, empty, or without the part: a look shows nothing on either side
  split_ifs
  · exact ⟨rfl, hhost⟩
  · split
    · exact ⟨rfl, hhost⟩
    · split
      · exact ⟨rfl, hhost⟩
      · exact Part.overlooks_peek h _ _ hboard

/-- Looks at an I/O page reach an own part or a card. -/
theorem overlooks_peek (h : Overlooked δ γ R) (offset : UInt32) (p : IoPage δ) {b b' : Backplane ω γ}
    (hb : Backplane.Alike R b b') : Beside R (p.peek offset b) (p.peek offset b') := by
  have hcard := overlooks_lookAtCard h offset p hb
  unfold peek
  rw [hb.overridesOf]
  split
  · exact hcard
  · split
    · exact hcard
    · exact Part.overlooks_peek h _ _ hb.toBoard

/-- Pokes of cards behind a page. -/
theorem overlooks_pokeCard (h : Overlooked δ γ R) (offset : UInt32) (value : UInt8) (p : IoPage δ)
    {b b' : Backplane ω γ} (hb : Backplane.Alike R b b') :
    Beside (Beside (Backplane.Alike R)) (p.pokeCard offset value b) (p.pokeCard offset value b') := by
  unfold pokeCard
  rw [hb.hold, hb.rack]
  split_ifs
  · split
    · exact ⟨rfl, rfl, hb⟩
    · exact ⟨rfl, rfl, hb⟩
    · next slot region relative _ _ =>
      have hregion := Backplane.alike_onRegion? hb slot region
        (f := fun part board => part.poke relative value board) fun part board board' hboard =>
          part.overlooks_poke h relative value hboard
      rcases hregion with ⟨hone, hother⟩ | ⟨done, done', hone, hother, hanswer, hafter⟩
      · rw [hone, hother]
        exact ⟨rfl, rfl, hb⟩
      · rw [hone, hother]
        exact ⟨hanswer, rfl, hafter⟩
  · exact ⟨rfl, rfl, hb⟩

theorem overlooks_poke (h : Overlooked δ γ R) (offset : UInt32) (value : UInt8) (p : IoPage δ)
    {b b' : Backplane ω γ} (hb : Backplane.Alike R b b') :
    Beside (Beside (Backplane.Alike R)) (p.poke offset value b) (p.poke offset value b') := by
  have hcard := overlooks_pokeCard h offset value p hb
  unfold poke
  rw [hb.overridesOf]
  split
  · next relative part _ _ =>
    obtain ⟨hanswer, hpart, hboard⟩ := Part.overlooks_poke h relative value part hb.toBoard
    exact ⟨hanswer, congrArg (p.attach .internalRom) hpart, hb.withBoard hboard⟩
  · exact ⟨rfl, rfl, hb⟩
  · exact ⟨rfl, rfl, hb⟩
  · exact hcard

end IoPage

/-! ## Targets and the bus -/

/-- What may happen to a target happens alike with related hosts. -/
def Target.Overlooks (R : ω → ω → Prop) {α : Type}
    (f : Target δ → Backplane ω γ → α × Target δ × Backplane ω γ) : Prop :=
  ∀ t b b', Backplane.Alike R b b' → Beside (Beside (Backplane.Alike R)) (f t b) (f t b')

namespace Target

variable [Device δ ω] [Card γ δ ω]

omit [Device δ ω] [Card γ δ ω] in
/-- A part mapped as a target of its own answers alike. -/
theorem overlooks_onPart {α : Type} {c : Cycle (Part δ × Board ω) α}
    (hc : c.Overlooks (Beside (Board.Alike R))) (p : Part δ) {b b' : Backplane ω γ}
    (hb : Backplane.Alike R b b') :
    Beside (Beside (Backplane.Alike R)) (onPart c p b) (onPart c p b') := by
  obtain ⟨hanswer, hpart, hboard⟩ := hc (p, b.toBoard) (p, b'.toBoard) ⟨rfl, hb.toBoard⟩
  exact ⟨hanswer, congrArg Target.part hpart, hb.withBoard hboard⟩

omit [Device δ ω] [Card γ δ ω] in
theorem overlooks_onPage {α : Type} {c : Cycle (IoPage δ × Backplane ω γ) α}
    (hc : c.Overlooks (Beside (Backplane.Alike R))) (p : IoPage δ) {b b' : Backplane ω γ}
    (hb : Backplane.Alike R b b') :
    Beside (Beside (Backplane.Alike R)) (onPage c p b) (onPage c p b') := by
  obtain ⟨hanswer, hpage, hafter⟩ := hc (p, b) (p, b') ⟨rfl, hb⟩
  exact ⟨hanswer, congrArg Target.page hpage, hafter⟩

/-- Targets read alike, whether they are parts or pages. -/
theorem overlooks_read (h : Overlooked δ γ R) (width : Width) (offset : UInt32) (access : Access) :
    Overlooks R fun (t : Target δ) (b : Backplane ω γ) => read width offset access (t, b) := by
  rintro (p | p) b b' hb
  · exact overlooks_onPart (Part.overlooks_read h width offset access) p hb
  · exact overlooks_onPage (Cycle.overlooks_read (IoPage.overlooks_read8 h) width offset access) p hb

/-- Targets write alike. -/
theorem overlooks_write (h : Overlooked δ γ R) (width : Width) (offset value : UInt32)
    (access : Access) :
    Overlooks R fun (t : Target δ) (b : Backplane ω γ) => write width offset value access (t, b) := by
  rintro (p | p) b b' hb
  · exact overlooks_onPart (Part.overlooks_write h width offset value access) p hb
  · exact overlooks_onPage (Cycle.overlooks_write (IoPage.overlooks_write8 h) width offset value access)
      p hb

theorem overlooks_peek (h : Overlooked δ γ R) (offset : UInt32) :
    Overlooks R fun (t : Target δ) (b : Backplane ω γ) =>
      ((t.peek offset b).1, t, (t.peek offset b).2) := by
  rintro (p | p) b b' hb
  · obtain ⟨hbyte, hafter⟩ := p.overlooks_peek h offset hb.toBoard
    obtain ⟨host, -, rfl⟩ := hb
    exact ⟨hbyte, rfl, _, hafter, rfl⟩
  · obtain ⟨hbyte, hafter⟩ := p.overlooks_peek h offset hb
    obtain ⟨host, -, rfl⟩ := hb
    exact ⟨hbyte, rfl, _, hafter, rfl⟩

theorem overlooks_poke (h : Overlooked δ γ R) (offset : UInt32) (value : UInt8) :
    Overlooks R fun (t : Target δ) (b : Backplane ω γ) => t.poke offset value b := by
  rintro (p | p) b b' hb
  · obtain ⟨hanswer, hpart, hboard⟩ := p.overlooks_poke h offset value hb.toBoard
    exact ⟨hanswer, congrArg Target.part hpart, hb.withBoard hboard⟩
  · obtain ⟨hanswer, hpage, hafter⟩ := p.overlooks_poke h offset value hb
    exact ⟨hanswer, congrArg Target.page hpage, hafter⟩

end Target

namespace Bus

/-- What every target does alike, a bus does alike with the target of a number, or with none. -/
theorem alike_onTarget {α : Type} {bus bus' : Bus ω δ γ} (hbus : Alike R bus bus') (id : TargetId)
    (missing : α) {f : Target δ → Backplane ω γ → α × Target δ × Backplane ω γ}
    (hf : Target.Overlooks R f) :
    Beside (Alike R) (bus.onTarget id missing f) (bus'.onTarget id missing f) := by
  obtain ⟨host, hhost, rfl⟩ := hbus
  have htarget : ({ bus with backplane.host := host } : Bus ω δ γ).target? id = bus.target? id := rfl
  unfold onTarget onTarget?
  rw [htarget]
  cases bus.target? id with
  | none => exact ⟨rfl, host, hhost, rfl⟩
  | some t =>
    -- the target answers the same and leaves the same, with some other host behind it
    obtain ⟨hanswer, hafter, host', hhost', hplane⟩ :=
      hf t bus.backplane { bus.backplane with host := host } ⟨host, hhost, rfl⟩
    refine ⟨hanswer, host', hhost', ?_⟩
    dsimp only [Option.map_some, Option.getD_some]
    rw [hplane, hafter]

variable [Device δ ω] [Card γ δ ω]

/-- Every request is answered alike. -/
theorem alike_answer (h : Overlooked δ γ R) (request : Request) {bus bus' : Bus ω δ γ}
    (hbus : Alike R bus bus') : Beside (Alike R) (answer request bus) (answer request bus') := by
  cases request with
  | read id width offset access =>
    exact alike_onTarget hbus id _ (Target.overlooks_read h width offset access)
  | write id width offset value access =>
    exact alike_onTarget hbus id _ (Target.overlooks_write h width offset value access)
  | peek id offset => exact alike_onTarget hbus id _ (Target.overlooks_peek h offset)
  | poke id offset value => exact alike_onTarget hbus id _ (Target.overlooks_poke h offset value)
  | floating address =>
    obtain ⟨host, hhost, rfl⟩ := hbus
    exact ⟨rfl, host, hhost, rfl⟩

omit [Device δ ω] [Card γ δ ω] in
theorem alike_observe {bus bus' : Bus ω δ γ} (hbus : Alike R bus bus') (a : Access)
    (result : Except Fault Completed) : Alike R (bus.observe a result) (bus'.observe a result) := by
  obtain ⟨host, hhost, rfl⟩ := hbus
  cases result <;> exact ⟨host, hhost, rfl⟩

/-- Buses that differ by related hosts only carry out an access alike, and count and report it alike. -/
theorem alike_access (h : Overlooked δ γ R) {bus bus' : Bus ω δ γ} (hbus : Alike R bus bus')
    (a : Access) : Beside (Alike R) (bus.access a) (bus'.access a) := by
  -- the routing knows nothing of the host, so both make the same requests
  have hrouting : bus'.routing = bus.routing := by
    obtain ⟨host, -, rfl⟩ := hbus
    rfl
  have hanswers : ∀ (request : Request) (one other : Bus ω δ γ), Alike R one other →
      Beside (Alike R) (answer request one) (answer request other) :=
    fun request _ _ hsofar => alike_answer h request hsofar
  obtain ⟨hresult, hafter, -⟩ := Requests.run_related hanswers (bus.routing.checked a) hbus
  -- the results agree, so that both are counted and reported alike
  unfold access
  rw [hrouting]
  dsimp only
  rw [← hresult]
  exact ⟨rfl, alike_observe hafter _ _⟩

end Bus

end Alike

/-! ## The hosts of a bench -/

namespace Bench

/-- Registers and switches of a bench note the read in the journal, and answer from their own state. -/
theorem overlooks_read8 (offset : UInt32) (access : Access) :
    (Instrument.read8 offset access).Overlooks (Beside (Commons.Alike fun _ _ : Host => True)) := by
  rintro ⟨d, c⟩ ⟨d', c'⟩ ⟨hd, host, -, hc⟩
  dsimp only at hd hc
  subst hd hc
  cases d <;> exact ⟨rfl, rfl, _, trivial, rfl⟩

/-- Instruments note writes as well, and store them where they can. -/
theorem overlooks_write8 (offset : UInt32) (value : UInt8) (access : Access) :
    (Instrument.write8 offset value access).Overlooks
      (Beside (Commons.Alike fun _ _ : Host => True)) := by
  rintro ⟨d, c⟩ ⟨d', c'⟩ ⟨hd, host, -, hc⟩
  dsimp only at hd hc
  subst hd hc
  cases d with
  | registers r =>
    unfold Instrument.write8
    dsimp only
    cases r.load offset <;> exact ⟨rfl, rfl, _, trivial, rfl⟩
  | overrides switches => exact ⟨rfl, rfl, _, trivial, rfl⟩

/-- Instruments and cards of a bench write into the journal, and read nothing of the host. -/
theorem overlooked_hosts : Overlooked Instrument TestCard fun _ _ : Host => True where
  -- reads and writes note themselves in the journal, which no answer is read from
  read := fun width offset access => by
    cases width with
    | byte => exact (overlooks_read8 offset access).map _
    | word => exact ((Cycle.overlooks_readLanesFrom overlooks_read8 offset access _ _).map _).map _
    | dword => exact Cycle.overlooks_readLanesFrom overlooks_read8 offset access _ _
  write := fun width offset value access => by
    cases width with
    | byte => exact overlooks_write8 offset value.toUInt8 access
    | word => exact Cycle.overlooks_writeLanesFrom overlooks_write8 offset _ _
    | dword => exact Cycle.overlooks_writeLanesFrom overlooks_write8 offset _ _
  -- looks and pokes do not reach it
  peek := fun offset d c c' _ => by
    cases d with
    | registers r =>
      show Beside _ (Instrument.peek offset (.registers r) c.host)
        (Instrument.peek offset (.registers r) c'.host)
      unfold Instrument.peek
      dsimp only
      split_ifs <;> exact ⟨rfl, trivial⟩
    | overrides switches => exact ⟨rfl, trivial⟩
  poke := fun offset value d c c' _ => by
    cases d with
    | registers r =>
      show Beside _ (Instrument.poke offset value (.registers r) c.host)
        (Instrument.poke offset value (.registers r) c'.host)
      unfold Instrument.poke
      dsimp only
      split_ifs <;> exact ⟨rfl, rfl, trivial⟩
    | overrides switches => exact ⟨rfl, rfl, trivial⟩
  selected := fun _ _ _ _ => ⟨rfl, trivial⟩
  deselected := fun _ _ _ _ => ⟨rfl, trivial⟩

end Bench

end Motherboard
