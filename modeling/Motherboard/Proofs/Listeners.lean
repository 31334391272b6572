import Motherboard.Proofs.SlotHistory

/-!
# Cards that listen

What a card is told of the expansion window it may keep to itself or forget; nothing of it shows on the
backplane. To speak of it, each card is put into a `Listener`, which passes everything on to the card and
writes down the news of the window, and a common list takes the news of all cards in their order. The
backplane cannot tell a listener from the card inside: with the listeners taken off again
(`Backplane.deaf`), every call goes as it goes with the bare cards, and answers the same (`call_deaf`).
So whatever the listeners hear, the cards are told in the plain run.
-/

namespace Motherboard

/-- What a card is told of the expansion window. -/
inductive WindowNews where
  /-- The card has got it. -/
  | selected
  /-- The card has lost it. -/
  | deselected
  deriving DecidableEq

/-- A card with its slot, and what it has heard there, in order. -/
structure Listener (γ : Type) where
  card : γ
  slot : UInt8 := 0
  heard : List WindowNews := []

/-- The host, and what all cards have heard, in order, with their slots. -/
structure Overheard (ω : Type) where
  host : ω
  notices : List (UInt8 × WindowNews) := []

namespace Listener

variable {ω γ δ : Type}

/-- The card hears something that is not about the window. -/
def pass (news : γ → ω → γ × ω) (l : Listener γ) (h : Overheard ω) : Listener γ × Overheard ω :=
  ({ l with card := (news l.card h.host).1 }, { h with host := (news l.card h.host).2 })

/-- The card hears of the window, and it is written down. -/
def hear (note : WindowNews) (news : γ → ω → γ × ω) (l : Listener γ) (h : Overheard ω) :
    Listener γ × Overheard ω :=
  ({ l with card := (news l.card h.host).1, heard := l.heard ++ [note] },
    { host := (news l.card h.host).2, notices := h.notices ++ [(l.slot, note)] })

/-- The card is put into a slot; what it heard elsewhere does not count any more. -/
def arrive (news : γ → ω → γ × ω) (slot : UInt8) (l : Listener γ) (h : Overheard ω) :
    Listener γ × Overheard ω :=
  ({ card := (news l.card h.host).1, slot := slot }, { h with host := (news l.card h.host).2 })

instance [Card γ δ ω] : Card (Listener γ) δ (Overheard ω) where
  name l := Card.name l.card
  region region l := Card.region region l.card
  setRegion region part l := { l with card := Card.setRegion region part l.card }
  lookRegion region l := Card.lookRegion region l.card
  installed slot := arrive (Card.installed slot) slot
  selected := hear .selected Card.selected
  deselected := hear .deselected Card.deselected
  reset := pass Card.reset

end Listener

/-! ## Taking the listeners off -/

namespace Rack

variable {γ γ' : Type}

/-- The rack with something done to every card. -/
def map (f : γ → γ') (r : Rack γ) : Rack γ' := ⟨r.cards.map (Option.map f), r.owner⟩

/-- What stands in the slots does not change which slots there are. -/
@[simp] theorem index_rackMap (f : γ → γ') (r : Rack γ) (slot : UInt8) :
    (r.map f).index slot = r.index slot :=
  index_map f r.owner

/-- Mapping the cards of a rack and taking one out. -/
@[simp] theorem card?_rackMap (f : γ → γ') (r : Rack γ) (slot : UInt8) :
    (r.map f).card? slot = (r.card? slot).map f :=
  card?_map f r.owner

/-- Mapping the cards of a rack and putting one in. -/
theorem setCard_rackMap (f : γ → γ') (r : Rack γ) (slot : UInt8) (card : Option γ) :
    (r.map f).setCard slot (card.map f) = (r.setCard slot card).map f := by
  unfold setCard
  rw [index_rackMap]
  cases r.index slot with
  | error e => rfl
  | ok i =>
    unfold map
    dsimp only
    rw [Array.map_setIfInBounds]

/-- A slot is occupied whatever the card in it is. -/
theorem occupiedSlots_rackMap (f : γ → γ') (r : Rack γ) :
    (r.map f).occupiedSlots = r.occupiedSlots := by
  have hsize : (r.map f).cards.size = r.cards.size := Array.size_map
  unfold occupiedSlots
  rw [hsize]
  simp only [card?_rackMap, Option.isSome_map]

end Rack

namespace Backplane

variable {ω γ δ : Type}

/-- The same backplane with the cards taken out of their listeners. -/
def deaf (b : Backplane (Overheard ω) (Listener γ)) : Backplane ω γ where
  floating := b.floating
  overrides := b.overrides
  host := b.host.host
  banked := b.banked
  rack := b.rack.map Listener.card
  hold := b.hold
  trace := b.trace

/-- The backplane with empty slots, where the cards to come will listen. -/
def listening (b : Backplane ω γ) (count : UInt8) : Backplane (Overheard ω) (Listener γ) where
  floating := b.floating
  overrides := b.overrides
  host := { host := b.host }
  banked := b.banked
  rack := .empty count
  hold := b.hold
  trace := b.trace

/-- With the listeners off, empty slots that listen are empty slots. -/
theorem deaf_listening (b : Backplane ω γ) (count : UInt8) :
    (b.listening count).deaf = b.withEmptySlots count := by
  have hrack : (Rack.empty count : Rack (Listener γ)).map Listener.card = Rack.empty count := by
    unfold Rack.map Rack.empty
    dsimp only
    rw [Array.map_replicate]
    rfl
  unfold deaf listening withEmptySlots
  dsimp only
  rw [hrack]

/-- The call, with the card to be put in listening. -/
def Call.overheard : Call γ → Call (Listener γ)
  | .install slot card => .install slot { card := card }
  | .remove slot => .remove slot
  | .select slot => .select slot
  | .release => .release
  | .snoop slot => .snoop slot
  | .reset => .reset

/-- The answer, with the card taken out of its listener. -/
def Answer.deaf : Answer (Listener γ) → Answer γ
  | .done => .done
  | .card l => .card l.card
  | .owns now => .owns now

section Deaf

variable {b : Backplane (Overheard ω) (Listener γ)}

/-- What a listener passes on, the card inside hears. -/
theorem tell_deaf (b : Backplane (Overheard ω) (Listener γ)) (slot : UInt8)
    {news : Listener γ → Overheard ω → Listener γ × Overheard ω} {bare : γ → ω → γ × ω}
    (h : ∀ l host, ((news l host).1.card, (news l host).2.host) = bare l.card host.host) :
    (b.tell slot news).deaf = b.deaf.tell slot bare := by
  have hcard : b.deaf.rack.card? slot = (b.rack.card? slot).map Listener.card := Rack.card?_rackMap _ _ _
  unfold tell
  -- the slot is empty on both sides or on neither
  rw [hcard]
  cases b.rack.card? slot with
  | none => rfl
  | some l =>
    have hset := Rack.setCard_rackMap Listener.card b.rack slot (some (news l b.host).1)
    have hnews : bare l.card b.deaf.host = ((news l b.host).1.card, (news l b.host).2.host) :=
      (h l b.host).symm
    dsimp only [Option.map_some] at hset ⊢
    rw [hnews]
    unfold deaf
    dsimp only
    rw [hset]

theorem changeOwner_deaf (b : Backplane (Overheard ω) (Listener γ)) (owner : Option UInt8) :
    (b.changeOwner owner).deaf = b.deaf.changeOwner owner := rfl

variable [Card γ δ ω]

/-- A card that listens hears of its deselection and passes it on. -/
theorem deselected_deaf (b : Backplane (Overheard ω) (Listener γ)) (slot : UInt8) :
    (b.tell slot Card.deselected).deaf = b.deaf.tell slot Card.deselected :=
  b.tell_deaf slot fun _ _ => rfl

/-- A release on cards that listen, with the listeners off. -/
theorem releaseWindow_deaf (b : Backplane (Overheard ω) (Listener γ)) :
    b.releaseWindow.deaf = b.deaf.releaseWindow := by
  have howner : b.deaf.rack.owner = b.rack.owner := rfl
  unfold releaseWindow
  rw [howner]
  cases b.rack.owner with
  | none => rfl
  | some owner => exact (changeOwner_deaf _ none).trans (by rw [deselected_deaf])

/-- A reset likewise: the cards are told one after another, and each passes the news on. -/
theorem resetCards_deaf (b : Backplane (Overheard ω) (Listener γ)) :
    b.resetCards.deaf = b.deaf.resetCards := by
  -- by induction on the slots that are told
  have hfold : ∀ (slots : List UInt8) (b : Backplane (Overheard ω) (Listener γ)),
      (slots.foldl (fun b slot => b.tell slot Card.reset) b).deaf =
        slots.foldl (fun b slot => b.tell slot Card.reset) b.deaf := by
    intro slots
    induction slots with
    | nil => exact fun b => rfl
    | cons slot slots ih =>
      intro b
      have htold : (b.tell slot Card.reset).deaf = b.deaf.tell slot Card.reset :=
        b.tell_deaf slot fun _ _ => rfl
      rw [List.foldl_cons, ih, htold]
      rfl
  have hslots : b.deaf.releaseWindow.rack.occupiedSlots = b.releaseWindow.rack.occupiedSlots := by
    rw [← releaseWindow_deaf]
    exact Rack.occupiedSlots_rackMap _ _
  unfold resetCards
  dsimp only
  rw [hfold, releaseWindow_deaf, hslots]

/-- Selecting a slot. -/
theorem selectSlot_deaf (b : Backplane (Overheard ω) (Listener γ)) (slot : UInt8) :
    ((b.selectSlot slot).1, (b.selectSlot slot).2.deaf) = b.deaf.selectSlot slot := by
  have hindex : b.deaf.rack.index slot = b.rack.index slot := Rack.index_rackMap _ _ _
  have hcard : b.deaf.rack.card? slot = (b.rack.card? slot).map Listener.card := Rack.card?_rackMap _ _ _
  have howner : b.deaf.rack.owner = b.rack.owner := rfl
  have hselected : ∀ b : Backplane (Overheard ω) (Listener γ),
      (b.tell slot Card.selected).deaf = b.deaf.tell slot Card.selected :=
    fun b => b.tell_deaf slot fun _ _ => rfl
  unfold selectSlot
  rw [hindex, hcard, howner, Option.isNone_map]
  cases b.rack.index slot with
  | error e => rfl
  | ok i =>
    dsimp only
    split_ifs
    · rfl
    · rfl
    · -- the hand-over, with an old owner or without
      dsimp only
      rw [changeOwner_deaf, hselected]
      cases b.rack.owner with
      | none => rfl
      | some owner =>
        dsimp only
        rw [deselected_deaf]

theorem snoop_deaf (b : Backplane (Overheard ω) (Listener γ)) (slot : UInt8) :
    ((b.snoop slot).1, (b.snoop slot).2.deaf) = b.deaf.snoop slot := by
  unfold snoop
  rw [← selectSlot_deaf]
  rcases b.selectSlot slot with ⟨_ | _, after⟩ <;> rfl

/-- Putting in a card that listens is putting in the card. -/
theorem installCard_deaf (b : Backplane (Overheard ω) (Listener γ)) (slot : UInt8) (card : γ) :
    ((b.installCard slot { card := card }).1, (b.installCard slot { card := card }).2.deaf) =
      b.deaf.installCard slot card := by
  have hindex : b.deaf.rack.index slot = b.rack.index slot := Rack.index_rackMap _ _ _
  have hcard : b.deaf.rack.card? slot = (b.rack.card? slot).map Listener.card := Rack.card?_rackMap _ _ _
  unfold installCard
  rw [hindex, hcard]
  cases b.rack.index slot with
  | error e => rfl
  | ok i =>
    dsimp only
    cases b.rack.card? slot with
    | some old => rfl
    -- a free slot: the card is told that it has been put in, and so is the one that listens
    | none =>
      refine Prod.ext rfl ?_
      have hset := Rack.setCard_rackMap Listener.card b.rack slot
        (some (Card.installed slot ({ card := card } : Listener γ) b.host).1)
      dsimp only [Option.map_none, Option.map_some] at hset ⊢
      unfold deaf
      dsimp only
      rw [← hset]
      rfl

/-- Taking out a card that listens hands back the card with its log. -/
theorem removeCard_deaf (b : Backplane (Overheard ω) (Listener γ)) (slot : UInt8) :
    ((b.removeCard slot).1.map Listener.card, (b.removeCard slot).2.deaf) =
      b.deaf.removeCard slot := by
  have hindex : b.deaf.rack.index slot = b.rack.index slot := Rack.index_rackMap _ _ _
  have howner : b.deaf.rack.owner = b.rack.owner := rfl
  have hreleased : (if b.deaf.rack.owner = some slot then b.deaf.releaseWindow else b.deaf) =
      (if b.rack.owner = some slot then b.releaseWindow else b).deaf := by
    rw [howner]
    split_ifs
    · exact b.releaseWindow_deaf.symm
    · rfl
  unfold removeCard
  rw [hindex]
  cases b.rack.index slot with
  | error e => rfl
  | ok i =>
    dsimp only
    rw [hreleased]
    -- the window is given up already, and the card is taken out
    generalize (if b.rack.owner = some slot then b.releaseWindow else b) = released
    have hcard : released.deaf.rack.card? slot = (released.rack.card? slot).map Listener.card :=
      Rack.card?_rackMap _ _ _
    rw [hcard]
    cases released.rack.card? slot with
    | none => rfl
    | some l =>
      refine Prod.ext rfl ?_
      have hset := Rack.setCard_rackMap Listener.card released.rack slot none
      dsimp only [Option.map_none, Option.map_some] at hset ⊢
      unfold deaf
      dsimp only
      rw [← hset]

/-- Every call of the rack is the same call with the listeners off; so what listeners hear is what the
cards are told. -/
theorem call_deaf (b : Backplane (Overheard ω) (Listener γ)) (c : Call γ) :
    ((b.call c.overheard).1.map Answer.deaf, (b.call c.overheard).2.deaf) = b.deaf.call c := by
  cases c with
  | install slot card =>
    rw [call, ← installCard_deaf]
    dsimp only [Call.overheard, call]
    cases (b.installCard slot { card := card }).1 <;> rfl
  | remove slot =>
    rw [call, ← removeCard_deaf]
    dsimp only [Call.overheard, call]
    cases (b.removeCard slot).1 <;> rfl
  | select slot =>
    rw [call, ← selectSlot_deaf]
    dsimp only [Call.overheard, call]
    cases (b.selectSlot slot).1 <;> rfl
  | release => exact Prod.ext rfl b.releaseWindow_deaf
  | snoop slot =>
    rw [call, ← snoop_deaf]
    rfl
  | reset => exact Prod.ext rfl b.resetCards_deaf

end Deaf

end Backplane

end Motherboard
