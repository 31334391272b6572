import Motherboard.Proofs.RackPlaces
import Motherboard.Proofs.Selection

/-!
# What the slots hold after a history of calls

Whoever holds the rack may put cards in and take them out, hand the expansion window over, release it,
and reset the cards, in any order and as often as it likes. This file says what is true of the slots
after every such history, from empty slots on.

The one fact that carries the rest is that the owner of the window is an occupied slot. Taking a card
out releases the window before it looks for the card; because an owner has a card, this early release
never comes before a refusal, and so a refused call leaves everything as it was. Which card a slot
holds is read off the log of the calls: the card last put in, if it has not been taken out since. A card
changes while it sits in its slot, through what it is told there and in no other way (`Became`).

* `call_of_refusal?`, `exists_answer` — a call is refused for reasons that the rack alone gives, and a
  refused call changes nothing and tells nobody.
* `Holds.after_call` — one call keeps the slots as the log says.
* `wellOrdered_afterCalls` — what every history leaves.
-/

namespace Motherboard

namespace Backplane

variable {ω γ δ : Type} [Card γ δ ω]

/-! ## Calls and their log -/

/-- The backplane as it is before the first call: nobody sits in the slots. -/
def withEmptySlots (b : Backplane ω γ) (count : UInt8) : Backplane ω γ :=
  { b with rack := .empty count }

/-- What the holder of the rack may ask for. -/
inductive Call (γ : Type) where
  /-- Put a card into a slot. -/
  | install (slot : UInt8) (card : γ)
  /-- Take the card out of a slot. -/
  | remove (slot : UInt8)
  /-- Give the expansion window to the card in a slot. -/
  | select (slot : UInt8)
  /-- Take the expansion window away from its owner. -/
  | release
  /-- Do what an access to the ROM window of a slot does. -/
  | snoop (slot : UInt8)
  /-- Reset all cards. -/
  | reset

/-- What a call that is not refused answers. -/
inductive Answer (γ : Type) where
  /-- It is done. -/
  | done
  /-- Here is the card. -/
  | card (card : γ)
  /-- The slot owns the window now, or it does not. -/
  | owns (owns : Bool)

/-- The answer to a call, and the backplane after it. -/
def call (b : Backplane ω γ) : Call γ → Except SlotError (Answer γ) × Backplane ω γ
  | .install slot card =>
    ((b.installCard slot card).1.map fun _ => .done, (b.installCard slot card).2)
  | .remove slot => ((b.removeCard slot).1.map .card, (b.removeCard slot).2)
  | .select slot => ((b.selectSlot slot).1.map fun _ => .done, (b.selectSlot slot).2)
  | .release => (.ok .done, b.releaseWindow)
  | .snoop slot => (.ok (.owns (b.snoop slot).1), (b.snoop slot).2)
  | .reset => (.ok .done, b.resetCards)

/-- Calls with their answers, the latest first. -/
abbrev CallLog (γ : Type) := List (Call γ × Except SlotError (Answer γ))

/-- The log and the backplane after further calls. -/
def afterCalls : List (Call γ) → CallLog γ × Backplane ω γ → CallLog γ × Backplane ω γ
  | [], s => s
  | c :: calls, (log, b) => afterCalls calls ((c, (b.call c).1) :: log, (b.call c).2)

/-- The card that the last successful call put into a slot, if none has taken it out since. -/
def installedIn (slot : UInt8) : CallLog γ → Option γ
  | [] => none
  | (.install place card, .ok _) :: log =>
    if slot = place then some card else installedIn slot log
  | (.remove place, .ok _) :: log => if slot = place then none else installedIn slot log
  | _ :: log => installedIn slot log

/-- What a card may have become since it was put into a slot. It was told so first; after that it has
been told of the expansion window and of resets. -/
inductive Became (slot : UInt8) (card : γ) : γ → Prop where
  /-- It has been put in. -/
  | installed (host : ω) : Became slot card (Card.installed slot card host).1
  /-- It has got the expansion window. -/
  | selected {now : γ} (h : Became slot card now) (host : ω) :
    Became slot card (Card.selected now host).1
  /-- It has lost the expansion window. -/
  | deselected {now : γ} (h : Became slot card now) (host : ω) :
    Became slot card (Card.deselected now host).1
  /-- It has been reset. -/
  | reset {now : γ} (h : Became slot card now) (host : ω) : Became slot card (Card.reset now host).1

/-! ## Refusals -/

/-- Why the rack refuses a call, if it does. -/
def refusal? (r : Rack γ) : Call γ → Option SlotError
  | .install slot _ =>
    match r.index slot with
    | .error e => some e
    | .ok _ => if (r.card? slot).isSome then some (.occupied slot) else none
  | .remove slot | .select slot =>
    match r.index slot with
    | .error e => some e
    | .ok _ => if (r.card? slot).isNone then some (.empty slot) else none
  | .release | .snoop _ | .reset => none

/-- A card is only put into a slot that is there and empty. -/
theorem index_of_refusal?_install {r : Rack γ} {slot : UInt8} {card : γ}
    (h : refusal? r (.install slot card) = none) :
    (∃ i, r.index slot = .ok i) ∧ r.card? slot = none := by
  dsimp only [refusal?] at h
  cases hindex : r.index slot with
  | error e =>
    rw [hindex] at h
    cases h
  | ok i =>
    rw [hindex] at h
    dsimp only at h
    -- the slot exists and nothing is in it
    split_ifs at h with hoccupied
    rw [Bool.not_eq_true, Option.isSome_eq_false_iff, Option.isNone_iff_eq_none] at hoccupied
    exact ⟨⟨i, rfl⟩, hoccupied⟩

/-- A removal finds a card, and so does a selection. -/
theorem isSome_of_refusal?_remove {r : Rack γ} {slot : UInt8}
    (h : refusal? r (.remove slot) = none) : (r.card? slot).isSome := by
  dsimp only [refusal?] at h
  cases hindex : r.index slot with
  | error e =>
    rw [hindex] at h
    cases h
  | ok i =>
    rw [hindex] at h
    dsimp only at h
    split_ifs at h with hempty
    rw [Option.isNone_iff_eq_none] at hempty
    exact Option.isSome_iff_ne_none.2 hempty

/-- The owner of the expansion window, if there is one, is an occupied slot. -/
def IsOwned (r : Rack γ) : Prop :=
  ∀ slot, r.owner = some slot → (r.card? slot).isSome

/-- A refused call is answered with its error and changes nothing. -/
theorem call_of_refusal? {b : Backplane ω γ} (howned : IsOwned b.rack) {c : Call γ} {e : SlotError}
    (h : refusal? b.rack c = some e) : b.call c = (.error e, b) := by
  cases c with
  | install slot card =>
    dsimp only [refusal?] at h
    dsimp only [call, installCard]
    cases hindex : b.rack.index slot with
    | error e' =>
      rw [hindex] at h
      cases h
      rfl
    | ok i =>
      rw [hindex] at h
      dsimp only at h ⊢
      cases hcard : b.rack.card? slot with
      | none =>
        rw [hcard] at h
        cases h
      | some old =>
        rw [hcard] at h
        cases h
        rfl
  | remove slot =>
    dsimp only [refusal?] at h
    dsimp only [call, removeCard]
    cases hindex : b.rack.index slot with
    | error e' =>
      rw [hindex] at h
      cases h
      rfl
    | ok i =>
      rw [hindex] at h
      dsimp only at h ⊢
      cases hcard : b.rack.card? slot with
      | some card =>
        rw [hcard] at h
        cases h
      | none =>
        -- an empty slot is not the owner, so nothing is released before the refusal
        have hother : b.rack.owner ≠ some slot := by
          intro howner
          have hsome := howned slot howner
          rw [hcard] at hsome
          cases hsome
        rw [if_neg hother, hcard]
        rw [hcard] at h
        cases h
        rfl
  | select slot =>
    dsimp only [refusal?] at h
    dsimp only [call, selectSlot]
    cases hindex : b.rack.index slot with
    | error e' =>
      rw [hindex] at h
      cases h
      rfl
    | ok i =>
      rw [hindex] at h
      dsimp only at h ⊢
      split_ifs at h ⊢ with hempty
      · cases h
        rfl
  | release => cases h
  | snoop slot => cases h
  | reset => cases h

/-! ## Telling cards, and changing the owner -/

/-- News reach the card in their slot and no other. -/
theorem card?_tell (b : Backplane ω γ) (slot : UInt8) (news : γ → ω → γ × ω) (other : UInt8) :
    (b.tell slot news).rack.card? other =
      if other = slot then (b.rack.card? slot).map fun card => (news card b.host).1
      else b.rack.card? other := by
  unfold tell
  cases hcard : b.rack.card? slot with
  | none =>
    dsimp only [Option.map_none]
    split_ifs with h
    · rw [h, hcard]
    · rfl
  | some card =>
    obtain ⟨i, hindex⟩ := Rack.exists_index_of_card? (by rw [hcard]; rfl)
    dsimp only [Option.map_some]
    split_ifs with h
    · -- the card that was told
      rw [h, Rack.card?_setCard_self hindex]
    · exact Rack.card?_setCard_of_ne h _

/-- A card that hears news stays in its slot. -/
theorem isSome_card?_tell (b : Backplane ω γ) (slot : UInt8) (news : γ → ω → γ × ω) (other : UInt8) :
    ((b.tell slot news).rack.card? other).isSome = (b.rack.card? other).isSome := by
  rw [card?_tell]
  split_ifs with h
  · rw [h, Option.isSome_map]
  · rfl

/-- News do not change the number of slots. -/
@[simp] theorem size_tell (b : Backplane ω γ) (slot : UInt8) (news : γ → ω → γ × ω) :
    (b.tell slot news).rack.cards.size = b.rack.cards.size := by
  unfold tell
  cases b.rack.card? slot with
  | none => rfl
  | some card => exact Rack.size_setCard _

theorem size_releaseWindow (b : Backplane ω γ) :
    b.releaseWindow.rack.cards.size = b.rack.cards.size := by
  unfold releaseWindow
  cases b.rack.owner with
  | none => rfl
  | some owner => exact b.size_tell owner Card.deselected

/-- Nor does a reset of all cards, which are told one after another. -/
theorem size_resetCards (b : Backplane ω γ) : b.resetCards.rack.cards.size = b.rack.cards.size := by
  have htold : ∀ (slots : List UInt8) (b : Backplane ω γ),
      (slots.foldl (fun b slot => b.tell slot Card.reset) b).rack.cards.size = b.rack.cards.size := by
    intro slots
    induction slots with
    | nil => exact fun b => rfl
    | cons slot slots ih => exact fun b => (ih _).trans (b.size_tell slot Card.reset)
  exact (htold _ _).trans b.size_releaseWindow

@[simp] theorem card?_changeOwner (b : Backplane ω γ) (owner : Option UInt8) (slot : UInt8) :
    (b.changeOwner owner).rack.card? slot = b.rack.card? slot := rfl

/-- The slots hold what the log says, and the owner is one of them. -/
structure Holds (count : UInt8) (log : CallLog γ) (b : Backplane ω γ) : Prop where
  size : b.rack.cards.size = count.toNat
  owned : IsOwned b.rack
  cards : ∀ slot, Option.Rel (Became slot) (installedIn slot log) (b.rack.card? slot)

namespace Holds

variable {count : UInt8} {log : CallLog γ} {b : Backplane ω γ}

/-- News that a card may hear in its slot leave the slots as the log says. -/
theorem tell (h : Holds count log b) (slot : UInt8) {news : γ → ω → γ × ω}
    (hnews : ∀ {card now : γ} (host : ω), Became slot card now → Became slot card (news now host).1) :
    Holds count log (b.tell slot news) where
  size := (b.size_tell slot news).trans h.size
  owned := by
    intro owner howner
    rw [owner_tell] at howner
    rw [isSome_card?_tell]
    exact h.owned owner howner
  cards := by
    intro other
    rw [card?_tell]
    -- in its own slot the card has become what the news made of it; elsewhere nothing has happened
    split_ifs with hslot
    · subst hslot
      have hcard := h.cards other
      generalize installedIn other log = installed at hcard ⊢
      generalize b.rack.card? other = now at hcard ⊢
      cases hcard with
      | none => exact .none
      | some hbecame => exact .some (hnews b.host hbecame)
    · exact h.cards other

/-- The window may go to any slot with a card in it. -/
theorem changeOwner (h : Holds count log b) {owner : Option UInt8}
    (howner : ∀ slot, owner = some slot → (b.rack.card? slot).isSome) :
    Holds count log (b.changeOwner owner) where
  size := h.size
  owned := howner
  cards := h.cards

/-- A release is news to the owner, and then nobody owns the window. -/
theorem releaseWindow (h : Holds count log b) : Holds count log b.releaseWindow := by
  unfold Backplane.releaseWindow
  cases b.rack.owner with
  | none => exact h
  | some owner =>
    have htold : Holds count log (b.tell owner Card.deselected) :=
      h.tell owner fun host hbecame => hbecame.deselected host
    refine htold.changeOwner ?_
    intro slot hslot
    cases hslot

/-- Selecting a slot is a release, news to its card, and the window for it. -/
theorem selectSlot (h : Holds count log b) (slot : UInt8) : Holds count log (b.selectSlot slot).2 := by
  unfold Backplane.selectSlot
  cases b.rack.index slot with
  | error e => exact h
  | ok i =>
    dsimp only
    split_ifs with hempty howner
    · exact h
    · exact h
    · have hcard : (b.rack.card? slot).isSome := by
        rw [Option.isNone_iff_eq_none] at hempty
        exact Option.isSome_iff_ne_none.2 hempty
      -- the old owner is told first, and the slot is occupied all along
      cases b.rack.owner with
      | none =>
        have htold : Holds count log (b.tell slot Card.selected) :=
          h.tell slot fun host hbecame => hbecame.selected host
        refine htold.changeOwner ?_
        rintro _ ⟨⟩
        rw [isSome_card?_tell]
        exact hcard
      | some owner =>
        have hlost : Holds count log (b.tell owner Card.deselected) :=
          h.tell owner fun host hbecame => hbecame.deselected host
        have htold : Holds count log ((b.tell owner Card.deselected).tell slot Card.selected) :=
          hlost.tell slot fun host hbecame => hbecame.selected host
        refine htold.changeOwner ?_
        rintro _ ⟨⟩
        rw [isSome_card?_tell, isSome_card?_tell]
        exact hcard

/-- A reset tells every card, and then nobody owns the window. -/
theorem resetCards (h : Holds count log b) : Holds count log b.resetCards := by
  -- by induction on the slots that are told
  have htold : ∀ (slots : List UInt8) {b : Backplane ω γ}, Holds count log b →
      Holds count log (slots.foldl (fun b slot => b.tell slot Card.reset) b) := by
    intro slots
    induction slots with
    | nil =>
      intro b h
      exact h
    | cons slot slots ih =>
      intro b h
      exact ih (h.tell slot fun host hbecame => hbecame.reset host)
  exact htold _ h.releaseWindow

/-- The content of one slot is replaced, and the log says so. -/
theorem setCard (h : Holds count log b) {slot : UInt8} {i : Nat} (hindex : b.rack.index slot = .ok i)
    {card : Option γ} {host : ω} {entry : Call γ × Except SlotError (Answer γ)}
    (howner : card.isSome ∨ b.rack.owner ≠ some slot)
    (hslot : Option.Rel (Became slot) (installedIn slot (entry :: log)) card)
    (hothers : ∀ other, other ≠ slot → installedIn other (entry :: log) = installedIn other log) :
    Holds count (entry :: log) { b with rack := b.rack.setCard slot card, host := host } where
  size := (Rack.size_setCard card).trans h.size
  owned := by
    intro owner hisOwner
    rw [Rack.owner_setCard] at hisOwner
    dsimp only
    -- if the slot that changes owns the window, it must be a card that is put into it
    by_cases hsame : owner = slot
    · subst hsame
      rw [Rack.card?_setCard_self hindex]
      exact howner.resolve_right fun hother => hother hisOwner
    · rw [Rack.card?_setCard_of_ne hsame]
      exact h.owned owner hisOwner
  cards := by
    intro other
    dsimp only
    by_cases hsame : other = slot
    · subst hsame
      rw [Rack.card?_setCard_self hindex]
      exact hslot
    · rw [Rack.card?_setCard_of_ne hsame, hothers other hsame]
      exact h.cards other

end Holds

/-- A release takes no card out. -/
theorem isSome_card?_releaseWindow (b : Backplane ω γ) (slot : UInt8) :
    (b.releaseWindow.rack.card? slot).isSome = (b.rack.card? slot).isSome := by
  unfold releaseWindow
  cases b.rack.owner with
  | none => rfl
  | some owner => exact b.isSome_card?_tell owner Card.deselected slot

/-- After a reset nobody owns the window. -/
theorem owner_resetCards (b : Backplane ω γ) : b.resetCards.rack.owner = none := by
  have htold : ∀ (slots : List UInt8) (b : Backplane ω γ),
      (slots.foldl (fun b slot => b.tell slot Card.reset) b).rack.owner = b.rack.owner := by
    intro slots
    induction slots with
    | nil => exact fun b => rfl
    | cons slot slots ih => exact fun b => (ih _).trans (b.owner_tell slot Card.reset)
  exact (htold _ _).trans b.owner_releaseWindow

/-- The window is released before a card is taken out if the card owns it. -/
def releasedFor (b : Backplane ω γ) (slot : UInt8) : Backplane ω γ :=
  if b.rack.owner = some slot then b.releaseWindow else b

/-- Releasing the window before a card is taken out takes no card out by itself. -/
theorem isSome_card?_releasedFor (b : Backplane ω γ) (slot other : UInt8) :
    ((b.releasedFor slot).rack.card? other).isSome = (b.rack.card? other).isSome := by
  unfold releasedFor
  split_ifs
  · exact b.isSome_card?_releaseWindow other
  · rfl

/-- Taking a card out of the slot that owns the window releases it first. -/
theorem owner_releasedFor (b : Backplane ω γ) (slot : UInt8) :
    (b.releasedFor slot).rack.owner = if b.rack.owner = some slot then none else b.rack.owner := by
  unfold releasedFor
  split_ifs
  · exact b.owner_releaseWindow
  · rfl

/-- A card that is there is taken out. -/
theorem exists_removeCard {b : Backplane ω γ} {slot : UInt8} (h : (b.rack.card? slot).isSome) :
    ∃ card, (b.releasedFor slot).rack.card? slot = some card ∧
      b.removeCard slot = (.ok card, { b.releasedFor slot with
        rack := (b.releasedFor slot).rack.setCard slot none }) := by
  obtain ⟨i, hindex⟩ := Rack.exists_index_of_card? h
  obtain ⟨card, hcard⟩ : ∃ card, (b.releasedFor slot).rack.card? slot = some card := by
    rw [← Option.isSome_iff_exists, isSome_card?_releasedFor]
    exact h
  refine ⟨card, hcard, ?_⟩
  unfold removeCard
  rw [hindex]
  dsimp only
  rw [← releasedFor, hcard]

/-! ## One call -/

/-- Where nothing speaks against a call, it is carried out. -/
theorem exists_answer {b : Backplane ω γ} {c : Call γ} (h : refusal? b.rack c = none) :
    ∃ a, (b.call c).1 = .ok a := by
  cases c with
  | install slot card =>
    -- the slot exists and is empty
    obtain ⟨⟨i, hindex⟩, hempty⟩ := index_of_refusal?_install h
    refine ⟨.done, ?_⟩
    rw [call, installCard, hindex]
    dsimp only
    rw [hempty]
    rfl
  | remove slot =>
    -- the slot holds the card that is handed back
    obtain ⟨card, -, hremove⟩ := exists_removeCard (isSome_of_refusal?_remove h)
    refine ⟨.card card, ?_⟩
    rw [call, hremove]
    rfl
  | select slot =>
    have hcard := isSome_of_refusal?_remove h
    obtain ⟨i, hindex⟩ := Rack.exists_index_of_card? hcard
    refine ⟨.done, ?_⟩
    rw [call, selectSlot, hindex]
    dsimp only
    rw [← Option.not_isSome, hcard, Bool.not_true, if_neg Bool.false_ne_true]
    split_ifs <;> rfl
  -- the last three calls are never refused
  | release => exact ⟨.done, rfl⟩
  | snoop slot => exact ⟨.owns (b.snoop slot).1, rfl⟩
  | reset => exact ⟨.done, rfl⟩

/-- An error is always the one that the state of the rack gives the call. -/
theorem refusal?_of_error {b : Backplane ω γ} (howned : IsOwned b.rack) {c : Call γ} {e : SlotError}
    (h : (b.call c).1 = .error e) : refusal? b.rack c = some e := by
  cases hrefusal : refusal? b.rack c with
  | none =>
    obtain ⟨a, ha⟩ := exists_answer hrefusal
    rw [ha] at h
    cases h
  | some e' =>
    rw [call_of_refusal? howned hrefusal] at h
    cases h
    rfl

namespace Holds

variable {count : UInt8} {log : CallLog γ} {b : Backplane ω γ}

/-- A call that is neither an installation nor a removal says nothing about who sits where. -/
theorem of_log (h : Holds count log b) {log' : CallLog γ}
    (hlog : ∀ slot, installedIn slot log' = installedIn slot log) : Holds count log' b where
  size := h.size
  owned := h.owned
  cards := by
    intro slot
    rw [hlog slot]
    exact h.cards slot

/-- Releasing the window before a card is taken out keeps what holds of the log. -/
theorem releasedFor (h : Holds count log b) (slot : UInt8) : Holds count log (b.releasedFor slot) := by
  unfold Backplane.releasedFor
  split_ifs
  · exact h.releaseWindow
  · exact h

/-- One call, answered or refused, keeps what holds of the log and the backplane. -/
theorem after_call (h : Holds count log b) (c : Call γ) :
    Holds count ((c, (b.call c).1) :: log) (b.call c).2 := by
  cases hrefusal : refusal? b.rack c with
  | some e =>
    -- a refusal leaves the slots, and the log does not count it
    rw [call_of_refusal? h.owned hrefusal]
    refine h.of_log ?_
    intro slot
    cases c <;> rfl
  | none =>
    cases c with
    | install slot card =>
      obtain ⟨⟨i, hindex⟩, hempty⟩ := index_of_refusal?_install hrefusal
      dsimp only [call, installCard]
      rw [hindex]
      dsimp only
      rw [hempty]
      refine h.setCard hindex (.inl rfl) ?_ ?_
      · rw [Except.map, installedIn, if_pos rfl]
        exact .some (.installed b.host)
      · intro other hother
        rw [Except.map, installedIn, if_neg hother]
    | remove slot =>
      have hcard := isSome_of_refusal?_remove hrefusal
      obtain ⟨card, hnow, hremove⟩ := exists_removeCard hcard
      obtain ⟨i, hindex⟩ := Rack.exists_index_of_card? (by rw [hnow]; rfl)
      dsimp only [call]
      rw [hremove]
      refine (h.releasedFor slot).setCard hindex (.inr ?_) ?_ ?_
      · -- whoever owned the window, it is not this slot any more
        rw [owner_releasedFor]
        split_ifs with howner
        · rintro ⟨⟩
        · exact howner
      · rw [Except.map, installedIn, if_pos rfl]
        exact .none
      · intro other hother
        rw [Except.map, installedIn, if_neg hother]
    | select slot => exact (h.selectSlot slot).of_log fun _ => rfl
    | release => exact h.releaseWindow.of_log fun _ => rfl
    | snoop slot =>
      have hsnoop : (b.snoop slot).2 = (b.selectSlot slot).2 := by
        unfold Backplane.snoop
        rcases b.selectSlot slot with ⟨_ | _, after⟩ <;> rfl
      dsimp only [call]
      rw [hsnoop]
      exact (h.selectSlot slot).of_log fun _ => rfl
    | reset => exact h.resetCards.of_log fun _ => rfl

/-- By induction on the calls, it holds after any number of them. -/
theorem after_calls (calls : List (Call γ)) {s : CallLog γ × Backplane ω γ} (h : Holds count s.1 s.2) :
    Holds count (afterCalls calls s).1 (afterCalls calls s).2 := by
  induction calls generalizing s with
  | nil => exact h
  | cons c calls ih => exact ih (h.after_call c)

/-- Empty slots with an empty log are where every history starts. -/
theorem withEmptySlots (count : UInt8) (b : Backplane ω γ) :
    Holds count [] (b.withEmptySlots count) where
  size := Array.size_replicate
  owned := by
    intro slot howner
    cases howner
  cards := by
    intro slot
    have hnone : (b.withEmptySlots count).rack.card? slot = none := Rack.card?_empty count slot
    rw [hnone]
    exact .none

/-- Cards sit in the slots from one to the count. -/
theorem mem_of_card? (h : Holds count log b) {slot : UInt8} (hcard : (b.rack.card? slot).isSome) :
    1 ≤ slot ∧ slot ≤ count := by
  obtain ⟨i, hindex⟩ := Rack.exists_index_of_card? hcard
  obtain ⟨⟨hzero, hle⟩, -⟩ := Rack.index_eq_ok_iff.1 hindex
  have hcount : b.rack.slotCount = count := by
    rw [Rack.slotCount, h.size]
    exact UInt8.ofNat_toNat
  rw [hcount] at hle
  refine ⟨?_, hle⟩
  rw [UInt8.le_iff_toNat_le]
  exact Nat.one_le_iff_ne_zero.2 fun h => hzero (UInt8.toNat_inj.1 h)

end Holds

/-! ## Every history -/

/-- What is known of the slots when the log of all calls since the slots were empty is known. -/
structure WellOrdered (count : UInt8) (log : CallLog γ) (b : Backplane ω γ) : Prop where
  /-- The owner of the expansion window is a slot, and a card sits in it. -/
  owner : ∀ slot, b.rack.owner = some slot → 1 ≤ slot ∧ slot ≤ count ∧ (b.rack.card? slot).isSome
  /-- A slot holds what has become of the card last put into it and not taken out since. -/
  cards : ∀ slot, Option.Rel (Became slot) (installedIn slot log) (b.rack.card? slot)
  /-- A refused call changes nothing. Whatever the cards do with what they are told, the same call goes
  the same way: no card is told anything. -/
  refused : ∀ c e, (b.call c).1 = .error e →
    b.call c = (.error e, b) ∧ ∀ other : Card γ δ ω, @call ω γ δ other b c = (.error e, b)
  /-- An access to the ROM window of no card changes nothing. -/
  snoopNobody : ∀ slot, slot = 0 ∨ count < slot ∨ b.rack.card? slot = none →
    b.call (.snoop slot) = (.ok (.owns false), b)
  /-- An access to the ROM window of a card gives it the expansion window. -/
  snoopCard : ∀ slot, (b.rack.card? slot).isSome →
    (b.call (.snoop slot)).1 = .ok (.owns true) ∧
      (b.call (.snoop slot)).2.rack.owner = some slot
  /-- Taking out the owner succeeds and leaves the expansion window to nobody. -/
  removeOwner : ∀ slot, b.rack.owner = some slot →
    (∃ card, (b.call (.remove slot)).1 = .ok (.card card)) ∧
      (b.call (.remove slot)).2.rack.owner = none
  /-- A reset leaves the expansion window to nobody. -/
  reset : (b.call .reset).2.rack.owner = none

/-- What holds after any calls is all that the summary of a history says. -/
theorem Holds.wellOrdered {count : UInt8} {log : CallLog γ} {b : Backplane ω γ}
    (h : Holds count log b) : WellOrdered count log b where
  owner := by
    intro slot howner
    obtain ⟨hone, hle⟩ := h.mem_of_card? (h.owned slot howner)
    exact ⟨hone, hle, h.owned slot howner⟩
  cards := h.cards
  refused := by
    intro c e herror
    have howned := h.owned
    have hrefusal := refusal?_of_error howned herror
    -- what is refused is read off the rack, so it is refused for all cards alike
    exact ⟨call_of_refusal? howned hrefusal, fun other => call_of_refusal? howned hrefusal⟩
  snoopNobody := by
    intro slot hnobody
    have hempty : b.rack.card? slot = none := by
      by_contra hcard
      obtain ⟨hone, hle⟩ := h.mem_of_card? (Option.isSome_iff_ne_none.2 hcard)
      rcases hnobody with hzero | hbeyond | hnone
      · subst hzero
        exact absurd hone (by decide)
      · exact UInt8.not_le.2 hbeyond hle
      · exact hcard hnone
    have hfst : (b.snoop slot).1 = false := by
      rw [snoop_fst, hempty]
      rfl
    rw [call, hfst, snoop_snd_eq_self (.inr hfst)]
  snoopCard := by
    intro slot hcard
    have hfst : (b.snoop slot).1 = true := (b.snoop_fst slot).trans hcard
    constructor
    · rw [call, hfst]
    · rw [call, owner_snoop, hfst, if_pos rfl]
  removeOwner := by
    intro slot howner
    obtain ⟨card, -, hremove⟩ := exists_removeCard (h.owned slot howner)
    constructor
    · exact ⟨card, by rw [call, hremove]; rfl⟩
    · rw [call, hremove, Rack.owner_setCard, owner_releasedFor, if_pos howner]
  reset := b.owner_resetCards

/-- **Every history of slot calls is well ordered.** From empty slots on, whatever is called and whatever
cards do when they hear of it: each slot holds what has become of the card last put into it and not taken
out since, the window belongs to nobody or to a slot with a card in it, and a refused call changes
nothing. -/
theorem wellOrdered_afterCalls (count : UInt8) (b : Backplane ω γ) (calls : List (Call γ)) :
    WellOrdered count (afterCalls calls ([], b.withEmptySlots count)).1
      (afterCalls calls ([], b.withEmptySlots count)).2 :=
  ((Holds.withEmptySlots count b).after_calls calls).wellOrdered

end Backplane

end Motherboard
