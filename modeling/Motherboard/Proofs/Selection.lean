import Motherboard.Bus
import Motherboard.Proofs.BusRun
import Mathlib.Tactic.SplitIfs

/-!
# Accesses and the owner of the expansion window

Only one thing that a device cycle can reach changes the owner of the expansion window: the touch with
which a byte cycle of an I/O page begins. So the owner after an access is the owner before it, moved by
the effects of these touches in their order (`owner_access`). The effects are noted while the targets
answer, because a card may throw the override switches between two lanes.

* `owner_touch` — a touch moves the owner by the effect that it reports.
* `owner_cycle` — so does a byte cycle of an I/O page.
* `owner_answer`, `owner_access` — requests and accesses move the owner by the effects noted.
-/

namespace Motherboard

/-! ## Effects on the owner -/

namespace SelectionEffect

/-- The owner of the expansion window after an effect. -/
def apply (owner : Option UInt8) : SelectionEffect → Option UInt8
  | .untouched => owner
  | .deselected => none
  | .selected slot => some slot

/-- The owner of the expansion window after several effects. -/
def settle (owner : Option UInt8) (effects : List SelectionEffect) : Option UInt8 :=
  effects.foldl apply owner

@[simp] theorem settle_cons (owner : Option UInt8) (e : SelectionEffect)
    (effects : List SelectionEffect) : settle owner (e :: effects) = settle (apply owner e) effects :=
  rfl

/-- Effects in two rows settle one row after the other. -/
theorem settle_append (owner : Option UInt8) (before after : List SelectionEffect) :
    settle owner (before ++ after) = settle (settle owner before) after :=
  List.foldl_append

end SelectionEffect

open SelectionEffect

/-! ## The backplane -/

/-- Changing the card in a slot does not change who owns the window. -/
@[simp] theorem Rack.owner_setCard {γ : Type} (r : Rack γ) (slot : UInt8) (card : Option γ) :
    (r.setCard slot card).owner = r.owner := by
  unfold setCard
  cases r.index slot <;> rfl

namespace Backplane

variable {ω γ δ : Type} [Card γ δ ω]

/-- News to a card never move the window. -/
@[simp] theorem owner_tell (b : Backplane ω γ) (slot : UInt8) (news : γ → ω → γ × ω) :
    (b.tell slot news).rack.owner = b.rack.owner := by
  unfold tell
  cases b.rack.card? slot with
  | none => rfl
  | some card => exact Rack.owner_setCard _ _ _

/-- After a release nobody owns the window. -/
theorem owner_releaseWindow (b : Backplane ω γ) : b.releaseWindow.rack.owner = none := by
  unfold releaseWindow
  split
  · next howner => exact howner
  · rfl

/-- A touch of a slot's ROM finds a card exactly if the slot exists and holds one. -/
theorem snoop_fst (b : Backplane ω γ) (slot : UInt8) :
    (b.snoop slot).1 = (b.rack.card? slot).isSome := by
  unfold snoop selectSlot
  cases hindex : b.rack.index slot with
  | error e =>
    rw [Rack.card?, hindex]
    rfl
  | ok i =>
    dsimp only
    cases hcard : b.rack.card? slot with
    | none => rfl
    | some card =>
      dsimp only [Option.isNone_some]
      -- A card that owns the window already is found too, though nothing is handed over to it.
      by_cases howner : b.rack.owner = some slot
      · rw [if_pos howner]
        rfl
      · rw [if_neg howner]
        rfl

/-- The card in an occupied slot gets the window; an empty slot changes nothing. -/
theorem owner_snoop (b : Backplane ω γ) (slot : UInt8) :
    (b.snoop slot).2.rack.owner = if (b.snoop slot).1 then some slot else b.rack.owner := by
  unfold snoop selectSlot
  cases b.rack.index slot with
  | error e => rfl
  | ok i =>
    dsimp only
    -- an empty slot changes nothing, and a slot that owns the window keeps it
    by_cases hcard : (b.rack.card? slot).isNone
    · rw [if_pos hcard]
      rfl
    · rw [if_neg hcard]
      by_cases howner : b.rack.owner = some slot
      · rw [if_pos howner]
        exact howner
      · rw [if_neg howner]
        rfl

/-- Selecting the owner again changes nothing, and neither does an empty slot. -/
theorem snoop_snd_eq_self {b : Backplane ω γ} {slot : UInt8}
    (h : b.rack.owner = some slot ∨ (b.snoop slot).1 = false) : (b.snoop slot).2 = b := by
  rw [snoop_fst] at h
  unfold snoop selectSlot
  cases b.rack.index slot with
  | error e => rfl
  | ok i =>
    dsimp only
    cases hcard : b.rack.card? slot with
    | none => rfl
    | some card =>
      rw [hcard] at h
      dsimp only [Option.isNone_some]
      -- with a card in the slot, only the owner of the window is left alone
      rcases h with howner | hempty
      · rw [if_pos howner]
        rfl
      · cases hempty

/-- A touch that leaves the owner leaves everything: nobody is told. -/
theorem touch_snd_eq_self {b : Backplane ω γ} {layout : IoPageLayout} {overrides : RomOverrides}
    {offset : UInt32}
    (h : (b.touch layout overrides offset).1.apply b.rack.owner = b.rack.owner) :
    (b.touch layout overrides offset).2 = b := by
  unfold touch at h ⊢
  cases hregion : layout.classify offset with
  | expansion relative =>
    rw [hregion] at h
    dsimp only at h ⊢
    split_ifs at h ⊢
    · -- the sentinel takes the window from nobody
      rw [releaseWindow, ← h]
      rfl
    · rfl
  | slotRom slot relative =>
    rw [hregion] at h
    dsimp only at h ⊢
    split_ifs at h ⊢
    · rfl
    · -- an empty slot, or the slot of the owner
      rcases hsnoop : b.snoop slot with ⟨_ | _, after⟩
      · have hself : (b.snoop slot).2 = b := snoop_snd_eq_self (.inr (by rw [hsnoop]))
        rw [hsnoop] at hself
        exact hself
      · rw [hsnoop] at h
        have hself := snoop_snd_eq_self (.inl h.symm)
        rw [hsnoop] at hself
        exact hself
  | _ => rfl

/-- A touch of an offset moves the window as its effect says. -/
theorem owner_touch (b : Backplane ω γ) (layout : IoPageLayout) (overrides : RomOverrides)
    (offset : UInt32) :
    (b.touch layout overrides offset).2.rack.owner =
      (b.touch layout overrides offset).1.apply b.rack.owner := by
  unfold touch
  cases layout.classify offset with
  | expansion relative =>
    dsimp only
    split_ifs
    · exact b.owner_releaseWindow
    · rfl
  | slotRom slot relative =>
    dsimp only
    split_ifs with hinternal
    · rfl
    · -- outside internal ROM the touch is a snoop, whose first component says which effect it had
      have howner := b.owner_snoop slot
      rcases hsnoop : b.snoop slot with ⟨_ | _, after⟩
      · rw [hsnoop] at howner
        exact howner
      · rw [hsnoop] at howner
        exact howner
  | _ => rfl

/-- Nothing but the rack, the host and the observer has changed. -/
structure KeepsBoard (before after : Backplane ω γ) : Prop where
  floating : after.floating = before.floating
  overrides : after.overrides = before.overrides
  banked : after.banked = before.banked
  hold : after.hold = before.hold

omit [Card γ δ ω] in
theorem keepsBoard_refl (b : Backplane ω γ) : KeepsBoard b b :=
  ⟨rfl, rfl, rfl, rfl⟩

omit [Card γ δ ω] in
theorem keepsBoard_tell (b : Backplane ω γ) (slot : UInt8) (news : γ → ω → γ × ω) :
    KeepsBoard b (b.tell slot news) := by
  unfold tell
  cases b.rack.card? slot <;> exact ⟨rfl, rfl, rfl, rfl⟩

/-- A release is news to the owner. -/
theorem keepsBoard_releaseWindow (b : Backplane ω γ) : KeepsBoard b b.releaseWindow := by
  unfold releaseWindow
  cases b.rack.owner with
  | none => exact b.keepsBoard_refl
  | some owner =>
    obtain ⟨hfloating, hoverrides, hbanked, hhold⟩ := b.keepsBoard_tell owner Card.deselected
    exact ⟨hfloating, hoverrides, hbanked, hhold⟩

/-- A snoop is a release and news to the new owner. -/
theorem keepsBoard_snoop (b : Backplane ω γ) (slot : UInt8) : KeepsBoard b (b.snoop slot).2 := by
  unfold snoop selectSlot
  cases b.rack.index slot with
  | error e => exact b.keepsBoard_refl
  | ok i =>
    dsimp only
    split_ifs
    · exact b.keepsBoard_refl
    · exact b.keepsBoard_refl
    · -- the old owner is told first, then the new one
      cases b.rack.owner with
      | none =>
        obtain ⟨hfloating, hoverrides, hbanked, hhold⟩ := b.keepsBoard_tell slot Card.selected
        exact ⟨hfloating, hoverrides, hbanked, hhold⟩
      | some owner =>
        obtain ⟨hfloating, hoverrides, hbanked, hhold⟩ := b.keepsBoard_tell owner Card.deselected
        obtain ⟨hfloating', hoverrides', hbanked', hhold'⟩ :=
          (b.tell owner Card.deselected).keepsBoard_tell slot Card.selected
        exact ⟨hfloating'.trans hfloating, hoverrides'.trans hoverrides, hbanked'.trans hbanked,
          hhold'.trans hhold⟩

/-- A touch reaches the cards and through them the host, and nothing else. -/
theorem keepsBoard_touch (b : Backplane ω γ) (layout : IoPageLayout) (overrides : RomOverrides)
    (offset : UInt32) : KeepsBoard b (b.touch layout overrides offset).2 := by
  unfold touch
  cases layout.classify offset with
  | expansion relative =>
    dsimp only
    split_ifs
    · exact b.keepsBoard_releaseWindow
    · exact b.keepsBoard_refl
  -- firmware hides the slot; otherwise the touch is a snoop, whose two results have the same backplane
  | slotRom slot relative =>
    dsimp only
    split_ifs
    · exact b.keepsBoard_refl
    · have hkeeps := b.keepsBoard_snoop slot
      rcases hsnoop : b.snoop slot with ⟨_ | _, after⟩
      · rw [hsnoop] at hkeeps
        exact hkeeps
      · rw [hsnoop] at hkeeps
        exact hkeeps
  | _ => exact b.keepsBoard_refl

/-- What a touch does depends on the rack alone, not on the observer or on what the devices share. -/
theorem touch_fst_congr {b b' : Backplane ω γ} (h : b.rack = b'.rack) (layout : IoPageLayout)
    (overrides : RomOverrides) (offset : UInt32) :
    (b.touch layout overrides offset).1 = (b'.touch layout overrides offset).1 := by
  unfold touch
  cases layout.classify offset with
  | expansion relative =>
    dsimp only
    split_ifs <;> rfl
  | slotRom slot relative =>
    -- the snoops may leave different backplanes behind, but they agree on whether there is a card
    have hslot : (b.snoop slot).1 = (b'.snoop slot).1 := by rw [snoop_fst, snoop_fst, h]
    dsimp only
    split_ifs
    · rfl
    · rcases hb : b.snoop slot with ⟨gives, after⟩
      rcases hb' : b'.snoop slot with ⟨gives', after'⟩
      rw [hb, hb'] at hslot
      dsimp only at hslot
      subst hslot
      cases gives <;> rfl
  | _ => rfl

/-- A part of a card cannot move the window. -/
theorem owner_onRegion? {α : Type} {b after : Backplane ω γ} {slot : UInt8} {region : CardRegion}
    {f : Part δ → Board ω → α × Part δ × Board ω} {a : α}
    (h : b.onRegion? slot region f = some (a, after)) : after.rack.owner = b.rack.owner := by
  unfold onRegion? at h
  cases hcard : b.rack.card? slot with
  | none =>
    rw [hcard] at h
    cases h
  | some card =>
    rw [hcard] at h
    obtain ⟨part, -, hpart⟩ := Option.map_eq_some_iff.1 h
    -- the card is put back into its slot with the part changed
    cases hpart
    exact Rack.owner_setCard _ _ _

end Backplane

/-! ## Rows of byte cycles -/

theorem Access.exists_laneNumbers (a : Access) : ∃ rest, a.laneNumbers = 0 :: rest := by
  unfold laneNumbers
  cases a.width <;> exact ⟨_, rfl⟩

namespace Cycle

variable {σ α ε : Type}

/-- What is noted before each cycle of a row that is carried out up to the first refusal. -/
def rowNotes (step : Nat → Cycle σ α) (note : Nat → σ → ε) : List Nat → σ → List ε
  | [], _ => []
  | i :: rest, s =>
    note i s ::
      match step i s with
      | (.ok _, s) => rowNotes step note rest s
      | (.error _, _) => []

/-- What is noted before the byte cycles of a read. -/
def readNotes (read8 : UInt32 → Access → Cycle σ UInt8) (note : UInt32 → σ → ε) (width : Width)
    (offset : UInt32) (access : Access) (s : σ) : List ε :=
  match width with
  | .byte => [note offset s]
  | .word | .dword =>
    rowNotes (fun i => read8 (offset + i.toUInt32) (access.lane i))
      (fun i => note (offset + i.toUInt32)) access.laneNumbers s

/-- What is noted before the byte cycles of a write. -/
def writeNotes (write8 : UInt32 → UInt8 → Access → Cycle σ Unit) (note : UInt32 → σ → ε)
    (width : Width) (offset value : UInt32) (access : Access) (s : σ) : List ε :=
  let access := { access with value := value &&& width.mask }
  match width with
  | .byte => [note offset s]
  | .word | .dword =>
    rowNotes (fun i => write8 (offset + i.toUInt32) (access.lane i).value.toUInt8 (access.lane i))
      (fun i => note (offset + i.toUInt32)) access.laneNumbers s

/-- A read begins with the byte cycle at its offset. -/
theorem exists_readNotes (read8 : UInt32 → Access → Cycle σ UInt8) (note : UInt32 → σ → ε)
    (width : Width) (offset : UInt32) (access : Access) (s : σ) :
    ∃ later, readNotes read8 note width offset access s = note offset s :: later := by
  obtain ⟨rest, hlanes⟩ := access.exists_laneNumbers
  have hfirst : offset + Nat.toUInt32 0 = offset := UInt32.add_zero offset
  cases width with
  | byte => exact ⟨[], rfl⟩
  | word | dword =>
    rw [readNotes, hlanes, rowNotes, hfirst]
    exact ⟨_, rfl⟩

/-- A wide write notes its first byte, whatever becomes of the others. -/
theorem exists_writeNotes (write8 : UInt32 → UInt8 → Access → Cycle σ Unit) (note : UInt32 → σ → ε)
    (width : Width) (offset value : UInt32) (access : Access) (s : σ) :
    ∃ later, writeNotes write8 note width offset value access s = note offset s :: later := by
  obtain ⟨rest, hlanes⟩ := { access with value := value &&& width.mask }.exists_laneNumbers
  have hfirst : offset + Nat.toUInt32 0 = offset := UInt32.add_zero offset
  cases width with
  | byte => exact ⟨[], rfl⟩
  | word | dword =>
    rw [writeNotes, hlanes, rowNotes, hfirst]
    exact ⟨_, rfl⟩

variable (owner : σ → Option UInt8) {note : UInt32 → σ → SelectionEffect}

/-- If each byte of a row of reads moves the owner as its note says, the row moves it as all notes do, one
after another. -/
theorem owner_readLanesFrom {read8 : UInt32 → Access → Cycle σ UInt8}
    (h : ∀ offset access s, owner (read8 offset access s).2 = (note offset s).apply (owner s))
    (offset : UInt32) (access : Access) (lanes : List Nat) (value : UInt32) (s : σ) :
    owner (readLanesFrom read8 offset access lanes value s).2 =
      settle (owner s) (rowNotes (fun i => read8 (offset + i.toUInt32) (access.lane i))
        (fun i => note (offset + i.toUInt32)) lanes s) := by
  induction lanes generalizing value s with
  | nil => rfl
  | cons i lanes ih =>
    have hstep := h (offset + i.toUInt32) (access.lane i) s
    rw [readLanesFrom, rowNotes, settle_cons, ← hstep]
    rcases read8 (offset + i.toUInt32) (access.lane i) s with ⟨_ | byte, after⟩
    · -- a refusal ends the row and its notes
      rfl
    · exact ih _ after

theorem owner_writeLanesFrom {write8 : UInt32 → UInt8 → Access → Cycle σ Unit}
    (h : ∀ offset value access s,
      owner (write8 offset value access s).2 = (note offset s).apply (owner s))
    (offset : UInt32) (access : Access) (lanes : List Nat) (s : σ) :
    owner (writeLanesFrom write8 offset access lanes s).2 =
      settle (owner s) (rowNotes
        (fun i => write8 (offset + i.toUInt32) (access.lane i).value.toUInt8 (access.lane i))
        (fun i => note (offset + i.toUInt32)) lanes s) := by
  induction lanes generalizing s with
  | nil => rfl
  | cons i lanes ih =>
    have hstep := h (offset + i.toUInt32) (access.lane i).value.toUInt8 (access.lane i) s
    rw [writeLanesFrom, rowNotes, settle_cons, ← hstep]
    rcases write8 (offset + i.toUInt32) (access.lane i).value.toUInt8 (access.lane i) s
      with ⟨_ | _, after⟩
    · rfl
    · exact ih after

/-- A read of any width moves the owner as its notes say. -/
theorem owner_read {read8 : UInt32 → Access → Cycle σ UInt8}
    (h : ∀ offset access s, owner (read8 offset access s).2 = (note offset s).apply (owner s))
    (width : Width) (offset : UInt32) (access : Access) (s : σ) :
    owner (Cycle.read read8 width offset access s).2 =
      settle (owner s) (readNotes read8 note width offset access s) := by
  cases width with
  | byte => exact h offset access s
  | word => exact owner_readLanesFrom owner h offset access _ 0 s
  | dword => exact owner_readLanesFrom owner h offset access _ 0 s

/-- A write of any width moves the owner as its notes say. -/
theorem owner_write {write8 : UInt32 → UInt8 → Access → Cycle σ Unit}
    (h : ∀ offset value access s,
      owner (write8 offset value access s).2 = (note offset s).apply (owner s))
    (width : Width) (offset value : UInt32) (access : Access) (s : σ) :
    owner (Cycle.write write8 width offset value access s).2 =
      settle (owner s) (writeNotes write8 note width offset value access s) := by
  cases width with
  | byte => exact h offset value.toUInt8 access s
  | word => exact owner_writeLanesFrom owner h offset _ _ s
  | dword =>
    -- the value of a double word is not cut
    have hmask : value &&& Width.dword.mask = value := UInt32.and_neg_one
    rw [Cycle.write, writeLanes, writeNotes, hmask]
    exact owner_writeLanesFrom owner h offset _ _ s

end Cycle

/-! ## The I/O page -/

namespace IoPage

variable {ω γ δ : Type} [Card γ δ ω]

/-- What a byte cycle at a page offset does to the owner of the window. A cycle that finds the rack
held is refused before it touches anything. -/
def effectAt (offset : UInt32) (s : IoPage δ × Backplane ω γ) : SelectionEffect :=
  if s.2.hold = .free then (s.2.touch s.1.layout (s.2.overridesOf s.1.switches) offset).1
  else .untouched

omit [Card γ δ ω] in
/-- The page's own parts have no way to the rack. -/
theorem rack_onOwn {α : Type} (c : Cycle (Part δ × Board ω) α) (own : OwnPart)
    (s : IoPage δ × Backplane ω γ) : (onOwn c own s).2.2.rack = s.2.rack := by
  unfold onOwn
  obtain ⟨p, b⟩ := s
  dsimp only
  cases p.own? own <;> rfl

/-- A card that is read or written does not move the window itself. -/
theorem owner_onCard {α : Type} (c : Cycle (Part δ × Board ω) α) (slot : UInt8)
    (region : CardRegion) (s : IoPage δ × Backplane ω γ) :
    (onCard c slot region s).2.2.rack.owner = s.2.rack.owner := by
  obtain ⟨p, b⟩ := s
  unfold onCard
  dsimp only
  cases hregion : b.onRegion? slot region fun part board => c (part, board) with
  | none => rfl
  | some after => exact Backplane.owner_onRegion? hregion

/-- A byte cycle moves the window by touching its offset, and in no other way. -/
theorem owner_cycle {α : Type} (c : UInt32 → Cycle (Part δ × Board ω) α) (offset : UInt32)
    (s : IoPage δ × Backplane ω γ) :
    (cycle c offset s).2.2.rack.owner = (effectAt offset s).apply s.2.rack.owner := by
  obtain ⟨p, b⟩ := s
  unfold cycle effectAt
  dsimp only
  by_cases hfree : b.hold = .free
  · -- after the touch the part that answers cannot reach the owner
    rw [if_pos hfree, if_pos hfree, ← Backplane.owner_touch]
    cases p.layout.ownSeat? (b.overridesOf p.switches) offset with
    | some seat => exact congrArg Rack.owner (rack_onOwn _ _ _)
    | none =>
      dsimp only
      split
      · exact owner_onCard _ _ _ _
      · rfl
  · rw [if_neg hfree, if_neg hfree]
    rfl

variable [Device δ ω]

/-- A byte read moves the window as the effect at its offset says. -/
theorem owner_read8 (offset : UInt32) (access : Access) (s : IoPage δ × Backplane ω γ) :
    (read8 offset access s).2.2.rack.owner = (effectAt offset s).apply s.2.rack.owner := by
  rw [← owner_cycle (fun relative => Part.read .byte relative access)]
  unfold read8
  rcases cycle (fun relative => Part.read .byte relative access) offset s with
    ⟨_ | _ | byte, after⟩ <;> rfl

theorem owner_write8 (offset : UInt32) (value : UInt8) (access : Access)
    (s : IoPage δ × Backplane ω γ) :
    (write8 offset value access s).2.2.rack.owner = (effectAt offset s).apply s.2.rack.owner :=
  owner_cycle _ offset s

/-- A poke moves no window. -/
theorem owner_poke (offset : UInt32) (value : UInt8) (p : IoPage δ) (b : Backplane ω γ) :
    (p.poke offset value b).2.2.rack.owner = b.rack.owner := by
  unfold poke
  split
  · rfl
  · rfl
  · rfl
  · -- only the poke of a card changes the backplane at all, and it changes a card on it
    unfold pokeCard
    split_ifs
    · split
      · rfl
      · rfl
      · next slot region relative _ _ =>
        cases hregion : b.onRegion? slot region fun part board => part.poke relative value board with
        | none => rfl
        | some after => exact Backplane.owner_onRegion? hregion
    · rfl

end IoPage

/-! ## Requests -/

/-- What is noted before the questions that come up. -/
def Requests.notes {α σ ε : Type} (answer : Answerer σ) (note : Request → σ → List ε) :
    Requests α → σ → List ε
  | .done _, _ => []
  | .ask request next, s =>
    note request s ++ (next (answer request s).1).notes answer note (answer request s).2

/-- The notes of two computations, one after the other. -/
theorem Requests.notes_bind {α β σ ε : Type} {answer : Answerer σ} {note : Request → σ → List ε}
    (r : Requests α) (f : α → Requests β) (s : σ) :
    (r.bind f).notes answer note s =
      r.notes answer note s ++ (f (r.run answer s).1).notes answer note (r.run answer s).2 := by
  induction r generalizing s with
  | done a => rfl
  | ask request next ih =>
    rw [bind_ask, notes, notes, ih, List.append_assoc]
    rfl

theorem Requests.notes_map {α β σ ε : Type} {answer : Answerer σ} {note : Request → σ → List ε}
    (f : α → β) (r : Requests α) (s : σ) :
    (r.map f).notes answer note s = r.notes answer note s := by
  rw [map, notes_bind]
  exact List.append_nil _

/-- When every answer moves the owner by the effects noted before it, so does a run. -/
theorem Requests.owner_run {α σ : Type} {answer : Answerer σ} (owner : σ → Option UInt8)
    {note : Request → σ → List SelectionEffect}
    (h : ∀ request s, owner (answer request s).2 = settle (owner s) (note request s))
    (r : Requests α) (s : σ) :
    owner (r.run answer s).2 = settle (owner s) (r.notes answer note s) := by
  induction r generalizing s with
  | done a => rfl
  | ask request next ih =>
    -- the rest of the run starts from the owner that the first answer has left
    rw [notes, settle_append, ← h, ← ih]
    rfl

namespace Bus

variable {ω δ γ : Type}

/-- The owner of the expansion window. -/
def owner (bus : Bus ω δ γ) : Option UInt8 := bus.backplane.rack.owner

theorem owner_observe (bus : Bus ω δ γ) (a : Access) (result : Except Fault Completed) :
    (bus.observe a result).owner = bus.owner := by
  cases result <;> rfl

/-- A request moves the window as far as the target it names does. -/
theorem owner_onTarget {α : Type} (bus : Bus ω δ γ) (id : TargetId) (missing : α)
    (f : Target δ → Backplane ω γ → α × Target δ × Backplane ω γ) :
    (bus.onTarget id missing f).2.owner =
      match bus.target? id with
      | some t => (f t bus.backplane).2.2.rack.owner
      | none => bus.owner := by
  unfold owner
  rw [backplane_onTarget]
  cases bus.target? id <;> rfl

variable [Device δ ω] [Card γ δ ω]

/-- What a request does to the owner of the expansion window: the effects of its byte cycles, when an
I/O page is asked. -/
def effectsOf (request : Request) (bus : Bus ω δ γ) : List SelectionEffect :=
  match request with
  | .read id width offset access =>
    match bus.target? id with
    | some (.page p) =>
      Cycle.readNotes IoPage.read8 IoPage.effectAt width offset access (p, bus.backplane)
    | _ => []
  | .write id width offset value access =>
    match bus.target? id with
    | some (.page p) =>
      Cycle.writeNotes IoPage.write8 IoPage.effectAt width offset value access (p, bus.backplane)
    | _ => []
  | _ => []

/-- What an access does to the owner of the expansion window, byte cycle after byte cycle. -/
def effects (bus : Bus ω δ γ) (a : Access) : List SelectionEffect :=
  (bus.routing.checked a).notes answer effectsOf bus

/-- One device cycle of an I/O page does what the byte cycles of its request do. -/
theorem notes_dispatch {entry : PageEntry} {bus : Bus ω δ γ} {a : Access} {p : IoPage δ}
    (hpage : bus.target? entry.target = some (.page p)) :
    (bus.routing.dispatch entry a).notes answer effectsOf bus =
      if a.intent.isWrite then
        Cycle.writeNotes IoPage.write8 IoPage.effectAt a.width
          (bus.routing.deviceOffset entry a.address) a.value a (p, bus.backplane)
      else
        Cycle.readNotes IoPage.read8 IoPage.effectAt a.width
          (bus.routing.deviceOffset entry a.address) a (p, bus.backplane) := by
  have htarget : entry.target.index < bus.routing.targets :=
    (Array.getElem?_eq_some_iff.1 hpage).1
  unfold Routing.dispatch
  dsimp only
  rw [if_pos htarget]
  -- whatever the answer is, nothing is asked after it
  split_ifs with hwrite
  · rw [Requests.notes]
    rcases (answer (.write entry.target a.width (bus.routing.deviceOffset entry a.address) a.value a)
      bus).1 with e | _ <;> rw [effectsOf, hpage, Requests.notes, List.append_nil]
  · rw [Requests.notes]
    rcases (answer (.read entry.target a.width (bus.routing.deviceOffset entry a.address) a)
      bus).1 with e | value <;> rw [effectsOf, hpage, Requests.notes, List.append_nil]

/-- The first effect of a device cycle of an I/O page is that at the device offset of its address. -/
theorem exists_notes_dispatch {entry : PageEntry} {bus : Bus ω δ γ} {a : Access} {p : IoPage δ}
    (hpage : bus.target? entry.target = some (.page p)) :
    ∃ later, (bus.routing.dispatch entry a).notes answer effectsOf bus =
      IoPage.effectAt (bus.routing.deviceOffset entry a.address) (p, bus.backplane) :: later := by
  rw [notes_dispatch hpage]
  split_ifs
  · exact Cycle.exists_writeNotes ..
  · exact Cycle.exists_readNotes ..

/-- Each request moves the window as its effects say. -/
theorem owner_answer (request : Request) (bus : Bus ω δ γ) :
    (answer request bus).2.owner = settle bus.owner (bus.effectsOf request) := by
  cases request with
  | read id width offset access =>
    refine (owner_onTarget bus id _ _).trans ?_
    rw [effectsOf]
    -- neither a missing target nor a plain part has effects; an I/O page has those of its byte cycles
    rcases bus.target? id with _ | (part | p)
    · rfl
    · rfl
    · exact Cycle.owner_read (fun s : IoPage δ × Backplane ω γ => s.2.rack.owner)
        IoPage.owner_read8 width offset access (p, bus.backplane)
  | write id width offset value access =>
    refine (owner_onTarget bus id _ _).trans ?_
    rw [effectsOf]
    rcases bus.target? id with _ | (part | p)
    · rfl
    · rfl
    · exact Cycle.owner_write (fun s : IoPage δ × Backplane ω γ => s.2.rack.owner)
        IoPage.owner_write8 width offset value access (p, bus.backplane)
  | peek id offset =>
    refine (owner_onTarget bus id _ _).trans ?_
    rcases bus.target? id with _ | (part | p) <;> rfl
  | poke id offset value =>
    refine (owner_onTarget bus id _ _).trans ?_
    rcases bus.target? id with _ | (part | p)
    · rfl
    · rfl
    · exact IoPage.owner_poke offset value p bus.backplane
  | floating address => rfl

/-- An access moves the owner of the expansion window by its effects. -/
theorem owner_access (bus : Bus ω δ γ) (a : Access) :
    (bus.access a).2.owner = settle bus.owner (bus.effects a) := by
  rw [effects, ← Requests.owner_run owner owner_answer]
  exact owner_observe _ _ _

end Bus

end Motherboard
