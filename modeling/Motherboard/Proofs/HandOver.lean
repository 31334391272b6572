import Motherboard.Bench.Instrument
import Motherboard.Proofs.Listeners
import Mathlib.Data.List.Chain

/-!
# The hand-over of the expansion window

Cards act on what they are told of the expansion window, so they have to be told once, in turn, and in the
right order. This file says so of every run of the rack, from empty slots on: whatever the holder of the
rack asks for, and whatever he does with the cards in between.

Every way in which the window changes hands is one hand-over, `give`: the owner is told that he has lost
the window, the next one that he has got it, and the change is reported. It keeps the cards in step with
the rack (`Attentive`), and so does everything that leaves the window alone (`Passes`). The news of a run
are then those of its changes of owner, one after the other (`windowProtocol_afterDealings`). What the
cards are told is read off their listeners, which the run without listeners cannot tell from nothing.
-/

namespace Motherboard

namespace Backplane

variable {ω γ δ : Type}

/-- What the holder of the rack does: he makes a call, or he does something of his own with a card. -/
inductive Dealing (γ ω : Type) where
  /-- A call. -/
  | call (c : Call γ)
  /-- The card in a slot is used directly; an empty slot is left alone. -/
  | use (slot : UInt8) (f : γ → ω → γ × ω)

/-- The dealing with a card that listens. -/
def Dealing.overheard : Dealing γ ω → Dealing (Listener γ) (Overheard ω)
  | .call c => .call c.overheard
  | .use slot f => .use slot (Listener.pass f)

section Runs

variable [Card γ δ ω]

/-- The backplane after a dealing. -/
def deal (b : Backplane ω γ) : Dealing γ ω → Backplane ω γ
  | .call c => (b.call c).2
  | .use slot f => b.tell slot f

/-- The backplane after dealings, in order. -/
def afterDealings (dealings : List (Dealing γ ω)) (b : Backplane ω γ) : Backplane ω γ :=
  dealings.foldl deal b

/-- The same run with listeners. -/
def overheard (dealings : List (Dealing γ ω)) (b : Backplane (Overheard ω) (Listener γ)) :
    Backplane (Overheard ω) (Listener γ) :=
  afterDealings (dealings.map Dealing.overheard) b

theorem overheard_concat (dealings : List (Dealing γ ω)) (d : Dealing γ ω)
    (b : Backplane (Overheard ω) (Listener γ)) :
    overheard (dealings ++ [d]) b = (overheard dealings b).deal d.overheard := by
  unfold overheard afterDealings
  rw [List.map_append, List.foldl_append]
  rfl

/-- Without the listeners a dealing is what it would have been anyway. -/
theorem deal_deaf (b : Backplane (Overheard ω) (Listener γ)) (d : Dealing γ ω) :
    (b.deal d.overheard).deaf = b.deaf.deal d := by
  cases d with
  | call c => exact congrArg Prod.snd (b.call_deaf c)
  | use slot f => exact b.tell_deaf slot fun _ _ => rfl

/-- Listening changes nothing in a whole run. -/
theorem overheard_deaf (dealings : List (Dealing γ ω)) (b : Backplane (Overheard ω) (Listener γ)) :
    (overheard dealings b).deaf = afterDealings dealings b.deaf := by
  -- dealing after dealing, with the backplane that the ones before have left
  induction dealings generalizing b with
  | nil => rfl
  | cons d dealings ih =>
    have hfirst := b.deal_deaf d
    have hrest := ih (b.deal d.overheard)
    rw [hfirst] at hrest
    exact hrest

/-! ## The protocol -/

/-- The news of a hand-over, in order: the old owner hears first. -/
def handOver (previous current : Option UInt8) : List (UInt8 × WindowNews) :=
  if previous = current then []
  else previous.toList.map (·, .deselected) ++ current.toList.map (·, .selected)

/-- Changes of owner that lead from one owner to another: each starts from the owner that the one before
has left, and none leaves the owner as he is. -/
def Links : Option UInt8 → List (Option UInt8 × Option UInt8) → Option UInt8 → Prop
  | first, [], last => first = last
  | first, change :: changes, last =>
    change.1 = first ∧ change.1 ≠ change.2 ∧ Links change.2 changes last

/-- A chain of changes is made longer by a change from the owner that it has led to. -/
theorem Links.concat {first middle last : Option UInt8} {changes : List (Option UInt8 × Option UInt8)}
    (h : Links first changes middle) (hchange : middle ≠ last) :
    Links first (changes ++ [(middle, last)]) last := by
  -- along the chain, up to its last owner
  induction changes generalizing first with
  | nil =>
    have hfirst : first = middle := h
    subst hfirst
    exact ⟨rfl, hchange, rfl⟩
  | cons change changes ih =>
    obtain ⟨hstart, hmoves, hrest⟩ := h
    exact ⟨hstart, hmoves, ih hrest⟩

/-- These are the changes of owner since the slots were empty: they lead from nobody to the owner, the
trace reports them in order, and the cards have heard of them in order. -/
def Changed (before : Trace) (b : Backplane (Overheard ω) (Listener γ))
    (changes : List (Option UInt8 × Option UInt8)) : Prop :=
  Links none changes b.rack.owner ∧
    b.trace.events.toList =
      before.events.toList ++ changes.map (fun change => .expansion change.1 change.2) ∧
    b.host.notices = changes.flatMap fun change => handOver change.1 change.2

/-- What is known between two dealings of a run that began with empty slots and with a trace. -/
structure WindowProtocol (before : Trace) (b : Backplane (Overheard ω) (Listener γ)) : Prop where
  /-- The owner of the window is a card. -/
  owned : IsOwned b.rack
  /-- A card hears by turns that it has got the window and that it has lost it, the former first. -/
  inTurn : ∀ slot l, b.rack.card? slot = some l → (WindowNews.deselected :: l.heard).IsChain (· ≠ ·)
  /-- The owner is the one card that has got the window and has not lost it since. -/
  told : ∀ slot l, b.rack.card? slot = some l →
    (l.heard.getLast? = some .selected ↔ b.rack.owner = some slot)
  /-- A card that is taken out has heard by turns to the end, and if it owned the window it has lost it. -/
  removed : ∀ slot l, (b.call (.remove slot)).1 = .ok (.card l) →
    (WindowNews.deselected :: l.heard).IsChain (· ≠ ·) ∧ l.heard.getLast? ≠ some .selected ∧
      (b.rack.owner = some slot → l.heard.getLast? = some .deselected)
  /-- Of the next dealing the cards hear as much as it changes the owner. -/
  handsOver : ∀ d : Dealing γ ω, (b.deal d.overheard).host.notices =
    b.host.notices ++ handOver b.rack.owner (b.deal d.overheard).rack.owner
  /-- The owner is selected again without effect. -/
  reselected : ∀ slot, b.rack.owner = some slot → b.call (.select slot) = (.ok .done, b)
  /-- A window without an owner is released without effect. -/
  released : b.rack.owner = none → b.call .release = (.ok .done, b)
  /-- The changes of owner so far make a chain, and the trace and the cards know of each. -/
  changes : ∃ changes, Changed before b changes

end Runs

/-! ## Cards that are in step -/

/-- A card of the rack knows its slot, has heard by turns, and knows whether it is the owner. -/
structure Attends (owner : Option UInt8) (slot : UInt8) (l : Listener γ) : Prop where
  place : l.slot = slot
  inTurn : (WindowNews.deselected :: l.heard).IsChain (· ≠ ·)
  told : l.heard.getLast? = some .selected ↔ owner = some slot

/-- The cards of the rack are in step with an owner. -/
def AttentiveTo (owner : Option UInt8) (b : Backplane (Overheard ω) (Listener γ)) : Prop :=
  ∀ slot l, b.rack.card? slot = some l → Attends owner slot l

section Telling

variable {b : Backplane (Overheard ω) (Listener γ)} {owner owner' : Option UInt8} {slot : UInt8}
  {l : Listener γ}

/-- Whether a card is in step depends on whether it is the owner, not on who else is. -/
theorem Attends.of_owner (h : Attends owner slot l)
    (howner : owner = some slot ↔ owner' = some slot) : Attends owner' slot l :=
  ⟨h.place, h.inTurn, h.told.trans howner⟩

/-- News in turn keep a card in step. -/
theorem Attends.hear (h : Attends owner slot l) {note : WindowNews}
    (hlost : owner = some slot ↔ note = .deselected) (hgot : owner' = some slot ↔ note = .selected)
    (news : γ → ω → γ × ω) (host : Overheard ω) :
    Attends owner' slot (Listener.hear note news l host).1 where
  place := h.place
  inTurn := by
    have hturn : (WindowNews.deselected :: l.heard) ++ [note] =
        WindowNews.deselected :: (l.heard ++ [note]) := rfl
    dsimp only [Listener.hear]
    rw [← hturn]
    refine List.isChain_append.2 ⟨h.inTurn, List.IsChain.singleton note, ?_⟩
    rintro last hlast next hnext rfl
    rw [List.head?_cons, Option.mem_some_iff] at hnext
    rw [List.getLast?_cons, Option.mem_some_iff] at hlast
    subst hnext
    -- what the card heard last says whether it is the owner, and the note says the opposite
    cases note with
    | deselected =>
      have hselected := h.told.2 (hlost.2 rfl)
      rw [hselected] at hlast
      cases hlast
    | selected =>
      have hother : l.heard.getLast? ≠ some .selected := by
        intro hselected
        exact nomatch hlost.1 (h.told.1 hselected)
      cases hheard : l.heard.getLast? with
      | none =>
        rw [hheard] at hlast
        cases hlast
      | some heard =>
        rw [hheard] at hlast hother
        exact hother (congrArg some hlast)
  told := by
    have hlast : (l.heard ++ [note]).getLast? = some note := List.getLast?_concat
    dsimp only [Listener.hear]
    rw [hlast, hgot, Option.some_inj]

/-- To tell one card something leaves the cards in step, if it does so for this card, and if for the
others the owner is what he was. -/
theorem AttentiveTo.tell (h : AttentiveTo owner b)
    {news : Listener γ → Overheard ω → Listener γ × Overheard ω}
    (hslot : ∀ l, Attends owner slot l → Attends owner' slot (news l b.host).1)
    (hothers : ∀ other, other ≠ slot → (owner = some other ↔ owner' = some other)) :
    AttentiveTo owner' (b.tell slot news) := by
  intro other l hl
  rw [card?_tell] at hl
  -- the card that is told, or another one
  split_ifs at hl with hsame
  · subst hsame
    obtain ⟨before, hbefore, rfl⟩ := Option.map_eq_some_iff.1 hl
    exact hslot before (h other before hbefore)
  · exact (h other l hl).of_owner (hothers other hsame)

/-- What a card hears besides the window changes nothing here. -/
theorem AttentiveTo.pass (h : AttentiveTo owner b) (slot : UInt8) (news : γ → ω → γ × ω) :
    AttentiveTo owner (b.tell slot (Listener.pass news)) :=
  h.tell (fun _ hl => ⟨hl.place, hl.inTurn, hl.told⟩) fun _ _ => Iff.rfl

/-- The owner hears that he has lost the window, and then nobody has it. -/
theorem AttentiveTo.deselected (h : AttentiveTo (some slot) b) (news : γ → ω → γ × ω) :
    AttentiveTo none (b.tell slot (Listener.hear .deselected news)) := by
  refine h.tell (fun l hl => hl.hear ?_ ?_ news b.host) ?_
  · simp
  · simp
  · intro other hother
    simp [hother.symm]

/-- A card hears that it has got the window, and then it is the owner. -/
theorem AttentiveTo.selected (h : AttentiveTo none b) (slot : UInt8) (news : γ → ω → γ × ω) :
    AttentiveTo (some slot) (b.tell slot (Listener.hear .selected news)) := by
  refine h.tell (fun l hl => hl.hear ?_ ?_ news b.host) ?_
  · simp
  · simp
  · intro other hother
    simp [hother.symm]

/-- What a card of the rack hears is noted under its slot. -/
theorem notices_tell_hear (h : AttentiveTo owner b) (hcard : (b.rack.card? slot).isSome)
    (note : WindowNews) (news : γ → ω → γ × ω) :
    (b.tell slot (Listener.hear note news)).host.notices = b.host.notices ++ [(slot, note)] := by
  obtain ⟨l, hl⟩ := Option.isSome_iff_exists.1 hcard
  have hplace : l.slot = slot := (h slot l hl).place
  unfold tell
  rw [hl]
  dsimp only [Listener.hear]
  rw [hplace]

/-- What a card hears besides the window is not noted. -/
theorem notices_tell_pass (b : Backplane (Overheard ω) (Listener γ)) (slot : UInt8)
    (news : γ → ω → γ × ω) :
    (b.tell slot (Listener.pass news)).host.notices = b.host.notices := by
  unfold tell
  cases b.rack.card? slot <;> rfl

/-- The trace does not take part in what a card is told. -/
theorem trace_tell (b : Backplane ω γ) (slot : UInt8) (news : γ → ω → γ × ω) :
    (b.tell slot news).trace = b.trace := by
  unfold tell
  cases b.rack.card? slot <;> rfl

end Telling

/-! ## Telling one or nobody -/

/-- Tells the card in a slot something, if there is a slot to tell. -/
def tell? (b : Backplane ω γ) (who : Option UInt8) (news : γ → ω → γ × ω) : Backplane ω γ :=
  match who with
  | none => b
  | some slot => b.tell slot news

theorem isSome_card?_tell? (b : Backplane ω γ) (who : Option UInt8) (news : γ → ω → γ × ω)
    (other : UInt8) : ((b.tell? who news).rack.card? other).isSome = (b.rack.card? other).isSome := by
  cases who with
  | none => rfl
  | some slot => exact b.isSome_card?_tell slot news other

theorem trace_tell? (b : Backplane ω γ) (who : Option UInt8) (news : γ → ω → γ × ω) :
    (b.tell? who news).trace = b.trace := by
  cases who with
  | none => rfl
  | some slot => exact b.trace_tell slot news

theorem owner_tell? (b : Backplane ω γ) (who : Option UInt8) (news : γ → ω → γ × ω) :
    (b.tell? who news).rack.owner = b.rack.owner := by
  cases who with
  | none => rfl
  | some slot => exact b.owner_tell slot news

section Telling

variable {b : Backplane (Overheard ω) (Listener γ)} {owner : Option UInt8}

/-- The owner, if there is one, hears that the window is lost. -/
theorem AttentiveTo.lost (h : AttentiveTo owner b) (news : γ → ω → γ × ω) :
    AttentiveTo none (b.tell? owner (Listener.hear .deselected news)) := by
  cases owner with
  | none => exact h
  | some slot => exact h.deselected news

/-- The next owner, if there is one, hears that the window is his. -/
theorem AttentiveTo.got (h : AttentiveTo none b) (next : Option UInt8) (news : γ → ω → γ × ω) :
    AttentiveTo next (b.tell? next (Listener.hear .selected news)) := by
  cases next with
  | none => exact h
  | some slot => exact h.selected slot news

/-- News to one or nobody are noted once or not at all. -/
theorem notices_tell?_hear (h : AttentiveTo owner b) {who : Option UInt8}
    (hwho : ∀ slot, who = some slot → (b.rack.card? slot).isSome) (note : WindowNews)
    (news : γ → ω → γ × ω) :
    (b.tell? who (Listener.hear note news)).host.notices =
      b.host.notices ++ who.toList.map (·, note) := by
  cases who with
  | none => exact (List.append_nil _).symm
  | some slot => exact notices_tell_hear h (hwho slot rfl) note news

end Telling

/-! ## One hand-over -/

/-- The cards are in step with the owner of the window, and he is one of them. -/
structure Attentive (b : Backplane (Overheard ω) (Listener γ)) : Prop where
  owned : IsOwned b.rack
  inStep : AttentiveTo b.rack.owner b

/-- What a dealing makes of the window. -/
structure Passes (b after : Backplane (Overheard ω) (Listener γ)) : Prop where
  attentive : Attentive after
  notices : after.host.notices = b.host.notices ++ handOver b.rack.owner after.rack.owner
  trace : after.trace = if b.rack.owner = after.rack.owner then b.trace
    else b.trace.emit (.expansion b.rack.owner after.rack.owner)

section HandOver

variable {b mid after : Backplane (Overheard ω) (Listener γ)}

/-- After a hand-over, or without one, the window is left alone. -/
theorem Passes.then_still (h : Passes b mid) (hattentive : Attentive after)
    (howner : after.rack.owner = mid.rack.owner) (hnotices : after.host.notices = mid.host.notices)
    (htrace : after.trace = mid.trace) : Passes b after where
  attentive := hattentive
  notices := by rw [hnotices, howner, h.notices]
  trace := by rw [htrace, howner, h.trace]

theorem Passes.refl (h : Attentive b) : Passes b b where
  attentive := h
  notices := by rw [handOver, if_pos rfl, List.append_nil]
  trace := by rw [if_pos rfl]

/-- Other news after a hand-over leave it as it is. -/
theorem Passes.pass (h : Passes b mid) (slot : UInt8) (news : γ → ω → γ × ω) :
    Passes b (mid.tell slot (Listener.pass news)) := by
  have howner := mid.owner_tell slot (Listener.pass news)
  refine h.then_still ⟨?_, ?_⟩ howner (mid.notices_tell_pass slot news) (mid.trace_tell slot _)
  · intro owner hisOwner
    rw [howner] at hisOwner
    rw [isSome_card?_tell]
    exact h.attentive.owned owner hisOwner
  · rw [howner]
    exact h.attentive.inStep.pass slot news

/-- The content of one slot is replaced; the owner stays where he is. -/
theorem Attentive.setCard (h : Attentive b) {slot : UInt8} {i : Nat}
    (hindex : b.rack.index slot = .ok i) {card : Option (Listener γ)} {host : Overheard ω}
    (howner : b.rack.owner ≠ some slot) (hcard : ∀ l, card = some l → Attends b.rack.owner slot l) :
    Attentive { b with rack := b.rack.setCard slot card, host := host } where
  owned := by
    intro owner hisOwner
    rw [Rack.owner_setCard] at hisOwner
    have hother : owner ≠ slot := by
      rintro rfl
      exact howner hisOwner
    rw [Rack.card?_setCard_of_ne hother]
    exact h.owned owner hisOwner
  inStep := by
    intro other l hl
    dsimp only at hl ⊢
    rw [Rack.owner_setCard]
    -- the slot with the new content, or another one
    by_cases hsame : other = slot
    · subst hsame
      rw [Rack.card?_setCard_self hindex] at hl
      exact hcard l hl
    · rw [Rack.card?_setCard_of_ne hsame] at hl
      exact h.inStep other l hl

variable [Card γ δ ω]

/-- The window is given to a slot or to nobody. -/
def give (b : Backplane ω γ) (next : Option UInt8) : Backplane ω γ :=
  ((b.tell? b.rack.owner Card.deselected).tell? next Card.selected).changeOwner next

/-- To release the window is to give it to nobody. -/
theorem releaseWindow_eq_give {b : Backplane ω γ} (h : b.rack.owner ≠ none) :
    b.releaseWindow = b.give none := by
  unfold releaseWindow give
  cases howner : b.rack.owner with
  | none => exact absurd howner h
  | some owner => rfl

/-- To select an occupied slot is to give it the window, if it has not got it already. -/
theorem selectSlot_eq_give {b : Backplane ω γ} {slot : UInt8} (hcard : (b.rack.card? slot).isSome)
    (h : b.rack.owner ≠ some slot) : b.selectSlot slot = (.ok (), b.give (some slot)) := by
  obtain ⟨i, hindex⟩ := Rack.exists_index_of_card? hcard
  have hoccupied : (b.rack.card? slot).isNone = false := by
    rw [← Option.not_isSome, hcard]
    rfl
  unfold selectSlot
  rw [hindex]
  dsimp only
  rw [hoccupied, if_neg Bool.false_ne_true, if_neg h]
  rfl

/-- The one way in which the window changes hands. -/
theorem Attentive.give (h : Attentive b) {next : Option UInt8} (hchange : b.rack.owner ≠ next)
    (hnext : ∀ slot, next = some slot → (b.rack.card? slot).isSome) : Passes b (b.give next) := by
  have hlost : AttentiveTo none (b.tell? b.rack.owner Card.deselected) :=
    h.inStep.lost Card.deselected
  have hlostNotices : (b.tell? b.rack.owner Card.deselected).host.notices =
      b.host.notices ++ b.rack.owner.toList.map (·, .deselected) :=
    notices_tell?_hear h.inStep h.owned .deselected Card.deselected
  have hlostCards : ∀ slot, ((b.tell? b.rack.owner Card.deselected).rack.card? slot).isSome =
      (b.rack.card? slot).isSome := b.isSome_card?_tell? b.rack.owner Card.deselected
  have hlostTrace := b.trace_tell? b.rack.owner Card.deselected
  have hlostOwner := b.owner_tell? b.rack.owner Card.deselected
  unfold Backplane.give
  generalize b.tell? b.rack.owner Card.deselected = lost at *
  have htold : AttentiveTo next (lost.tell? next Card.selected) := hlost.got next Card.selected
  have htoldNotices : (lost.tell? next Card.selected).host.notices =
      lost.host.notices ++ next.toList.map (·, .selected) := by
    refine notices_tell?_hear hlost ?_ .selected Card.selected
    intro slot hslot
    rw [hlostCards]
    exact hnext slot hslot
  refine ⟨⟨?_, htold⟩, ?_, ?_⟩
  · intro slot hslot
    have hcard := hnext slot hslot
    rw [card?_changeOwner, isSome_card?_tell?, hlostCards]
    exact hcard
  · -- the old owner has heard before the new one
    have howner : ((lost.tell? next Card.selected).changeOwner next).rack.owner = next := rfl
    rw [howner, handOver, if_neg hchange, ← List.append_assoc, ← hlostNotices]
    exact htoldNotices
  · have howner : ((lost.tell? next Card.selected).changeOwner next).rack.owner = next := rfl
    rw [howner, if_neg hchange, changeOwner]
    dsimp only
    rw [owner_tell?, hlostOwner, trace_tell?, hlostTrace]

/-! ## One dealing -/

/-- A release hands the window over, or finds that nobody has it. -/
theorem Attentive.releaseWindow (h : Attentive b) : Passes b b.releaseWindow := by
  by_cases howner : b.rack.owner = none
  · -- nobody to take the window from
    have hkept : b.releaseWindow = b := by
      unfold Backplane.releaseWindow
      rw [howner]
    rw [hkept]
    exact .refl h
  · rw [releaseWindow_eq_give howner]
    refine h.give howner ?_
    intro slot hslot
    cases hslot

/-- A selection hands the window over, or it is refused, or it changes nothing. -/
theorem Attentive.selectSlot (h : Attentive b) (slot : UInt8) : Passes b (b.selectSlot slot).2 := by
  by_cases hcard : (b.rack.card? slot).isSome
  · by_cases howner : b.rack.owner = some slot
    · have hkept : (b.selectSlot slot).2 = b := by
        unfold Backplane.selectSlot
        cases b.rack.index slot with
        | error e => rfl
        | ok i =>
          dsimp only
          split_ifs <;> rfl
      rw [hkept]
      exact .refl h
    · rw [selectSlot_eq_give hcard howner]
      refine h.give howner ?_
      rintro _ ⟨⟩
      exact hcard
  · -- an empty slot is refused
    have hkept : (b.selectSlot slot).2 = b := by
      rw [Bool.not_eq_true, Option.isSome_eq_false_iff] at hcard
      unfold Backplane.selectSlot
      rw [hcard, if_pos rfl]
      cases b.rack.index slot <;> rfl
    rw [hkept]
    exact .refl h

/-- A reset of the cards releases the window first; what it tells the cards then is no news of the window.
-/
theorem Attentive.resetCards (h : Attentive b) : Passes b b.resetCards := by
  -- by induction on the slots that are told, each of which passes the news on
  have htold : ∀ (slots : List UInt8) {mid : Backplane (Overheard ω) (Listener γ)}, Passes b mid →
      Passes b (slots.foldl (fun b slot => b.tell slot Card.reset) mid) := by
    intro slots
    induction slots with
    | nil =>
      intro mid hmid
      exact hmid
    | cons slot slots ih =>
      intro mid hmid
      exact ih (hmid.pass slot Card.reset)
  exact htold _ h.releaseWindow

/-- A card that comes in has heard nothing and owns nothing. -/
theorem Attentive.installCard (h : Attentive b) (slot : UInt8) (card : γ) :
    Passes b (b.installCard slot { card := card }).2 := by
  unfold Backplane.installCard
  cases hindex : b.rack.index slot with
  | error e => exact .refl h
  | ok i =>
    dsimp only
    cases hcard : b.rack.card? slot with
    | some old => exact .refl h
    | none =>
      have hother : b.rack.owner ≠ some slot := by
        intro howner
        have hoccupied := h.owned slot howner
        rw [hcard] at hoccupied
        cases hoccupied
      refine (Passes.refl h).then_still (h.setCard hindex hother ?_) (Rack.owner_setCard _ _ _) rfl rfl
      -- the new card has heard nothing, and it is not the owner
      rintro l ⟨⟩
      exact ⟨rfl, List.IsChain.singleton _, by simp [Card.installed, Listener.arrive, hother]⟩

/-- Before a card leaves, it gives the window up. -/
theorem Attentive.releasedFor (h : Attentive b) (slot : UInt8) : Passes b (b.releasedFor slot) := by
  unfold Backplane.releasedFor
  split_ifs
  · exact h.releaseWindow
  · exact .refl h

/-- A card leaves without the window, or nothing happens. -/
theorem Attentive.removeCard (h : Attentive b) (slot : UInt8) : Passes b (b.removeCard slot).2 := by
  by_cases hcard : (b.rack.card? slot).isSome
  · -- a card is there: it gives up the window, and then its slot is emptied
    obtain ⟨l, hl, hremove⟩ := exists_removeCard hcard
    obtain ⟨i, hindex⟩ := Rack.exists_index_of_card? (Option.isSome_of_eq_some hl)
    have hreleased := h.releasedFor slot
    have hother : (b.releasedFor slot).rack.owner ≠ some slot := by
      rw [owner_releasedFor]
      split_ifs with howner
      · exact nofun
      · exact howner
    rw [hremove]
    refine hreleased.then_still (hreleased.attentive.setCard hindex hother ?_)
      (Rack.owner_setCard _ _ _) rfl rfl
    intro l hl
    cases hl
  · -- no card is there, or no slot, and the call is refused
    have hrefused : refusal? b.rack (.remove slot) ≠ none := fun hrefusal =>
      hcard (isSome_of_refusal?_remove hrefusal)
    obtain ⟨e, he⟩ := Option.ne_none_iff_exists'.1 hrefused
    have hcall : b.call (.remove slot) = (.error e, b) := call_of_refusal? h.owned he
    have hkept : (b.removeCard slot).2 = b := congrArg Prod.snd hcall
    rw [hkept]
    exact .refl h

/-- Every dealing hands the window over in the one way, or leaves it alone. -/
theorem Attentive.deal (h : Attentive b) (d : Dealing γ ω) : Passes b (b.deal d.overheard) := by
  cases d with
  | call c =>
    cases c with
    | install slot card => exact h.installCard slot card
    | remove slot => exact h.removeCard slot
    | select slot => exact h.selectSlot slot
    | release => exact h.releaseWindow
    -- snooping is selecting, with refusals swallowed
    | snoop slot =>
      have hsnoop : (b.snoop slot).2 = (b.selectSlot slot).2 := by
        unfold Backplane.snoop
        rcases b.selectSlot slot with ⟨_ | _, selected⟩ <;> rfl
      have hselect := h.selectSlot slot
      rw [← hsnoop] at hselect
      exact hselect
    | reset => exact h.resetCards
  -- what the holder does with a card is no news of the window
  | use slot f => exact (Passes.refl h).pass slot f

/-! ## A run -/

/-- What one dealing adds to the changes: its own, or none. -/
theorem Passes.changed (h : Passes b after) {before : Trace}
    {changes : List (Option UInt8 × Option UInt8)} (hchanges : Changed before b changes)
    (hattached : b.trace.attached = true) (hfree : b.trace.busy = false) :
    after.trace.attached = true ∧ after.trace.busy = false ∧
      ∃ changes, Changed before after changes := by
  obtain ⟨hlinks, hevents, hnotices⟩ := hchanges
  have htrace := h.trace
  have hheard := h.notices
  by_cases hsame : b.rack.owner = after.rack.owner
  · -- the owner is the same, and the record stays as it is
    rw [if_pos hsame] at htrace
    rw [handOver, if_pos hsame, List.append_nil] at hheard
    rw [htrace]
    refine ⟨hattached, hfree, changes, ?_, ?_, ?_⟩
    · rw [← hsame]
      exact hlinks
    · rw [htrace]
      exact hevents
    · rw [hheard]
      exact hnotices
  · -- the owner has changed, which makes the chain longer by one
    rw [if_neg hsame, Trace.emit_of_free hattached hfree] at htrace
    refine ⟨?_, ?_, changes ++ [(b.rack.owner, after.rack.owner)], hlinks.concat hsame, ?_, ?_⟩
    · rw [htrace]
      exact hattached
    · rw [htrace]
      exact hfree
    · rw [htrace, Array.toList_push, hevents, List.map_append, List.append_assoc]
      rfl
    · rw [hheard, hnotices, List.flatMap_append, List.flatMap_singleton]

/-- After every run from empty slots the cards are in step, and the changes of owner are on record. -/
theorem attentive_overheard (start : Backplane ω γ) (count : UInt8)
    (hattached : start.trace.attached = true) (hfree : start.trace.busy = false)
    (dealings : List (Dealing γ ω)) :
    Attentive (overheard dealings (start.listening count)) ∧
      (overheard dealings (start.listening count)).trace.attached = true ∧
      (overheard dealings (start.listening count)).trace.busy = false ∧
      ∃ changes, Changed start.trace (overheard dealings (start.listening count)) changes := by
  -- the run is taken apart from its end, so that a dealing comes after the changes before it
  induction dealings using List.reverseRecOn with
  | nil =>
    refine ⟨⟨?_, ?_⟩, hattached, hfree, [], rfl, (List.append_nil _).symm, rfl⟩
    · intro slot howner
      cases howner
    · intro slot l hl
      have hnone : (overheard [] (start.listening count)).rack.card? slot = none :=
        Rack.card?_empty count slot
      rw [hnone] at hl
      cases hl
  | append_singleton dealings d ih =>
    obtain ⟨hattentive, hattached, hfree, changes, hchanges⟩ := ih
    have hpasses := hattentive.deal d
    rw [overheard_concat]
    exact ⟨hpasses.attentive, hpasses.changed hchanges hattached hfree⟩

/-- The owner has heard of his loss when the window is taken away before he is taken out. -/
theorem getLast?_of_releasedFor {slot : UInt8} (howner : b.rack.owner = some slot) {l : Listener γ}
    (hl : (b.releasedFor slot).rack.card? slot = some l) : l.heard.getLast? = some .deselected := by
  have hreleased : (b.releasedFor slot).rack.card? slot =
      (b.tell slot Card.deselected).rack.card? slot := by
    unfold Backplane.releasedFor Backplane.releaseWindow
    rw [if_pos howner, howner]
    rfl
  rw [hreleased, card?_tell, if_pos rfl] at hl
  obtain ⟨before, -, rfl⟩ := Option.map_eq_some_iff.1 hl
  exact List.getLast?_concat

/-- A card that is taken out has heard in turn that the window is lost, if it ever had it. -/
theorem Attentive.removed (h : Attentive b) {slot : UInt8} {l : Listener γ}
    (hremove : (b.call (.remove slot)).1 = .ok (.card l)) :
    (WindowNews.deselected :: l.heard).IsChain (· ≠ ·) ∧ l.heard.getLast? ≠ some .selected ∧
      (b.rack.owner = some slot → l.heard.getLast? = some .deselected) := by
  have hcard : (b.rack.card? slot).isSome := by
    by_contra hempty
    have hrefused : refusal? b.rack (.remove slot) ≠ none := fun hrefusal =>
      hempty (isSome_of_refusal?_remove hrefusal)
    obtain ⟨e, he⟩ := Option.ne_none_iff_exists'.1 hrefused
    rw [call_of_refusal? h.owned he] at hremove
    cases hremove
  obtain ⟨taken, htaken, hanswer⟩ := exists_removeCard hcard
  -- the card taken out is the one that is there after the release
  have hl : taken = l := by
    rw [call, hanswer] at hremove
    cases hremove
    rfl
  subst hl
  have hreleased := (h.releasedFor slot).attentive
  have hattends := hreleased.inStep slot taken htaken
  refine ⟨hattends.inTurn, ?_, fun howner => getLast?_of_releasedFor howner htaken⟩
  rw [Ne, hattends.told, owner_releasedFor]
  split_ifs with howner
  · intro hnobody
    cases hnobody
  · exact howner

/-- To select the owner again does nothing. -/
theorem call_select_owner (h : Attentive b) {slot : UInt8} (howner : b.rack.owner = some slot) :
    b.call (.select slot) = (.ok .done, b) := by
  have hcard := h.owned slot howner
  obtain ⟨i, hindex⟩ := Rack.exists_index_of_card? hcard
  have hselect : b.selectSlot slot = (.ok (), b) := by
    unfold Backplane.selectSlot
    rw [hindex]
    dsimp only
    rw [← Option.not_isSome, hcard, Bool.not_true, if_neg Bool.false_ne_true, if_pos howner]
  rw [call, hselect]
  rfl

/-- The protocol holds between any two dealings of a run, and what the listeners hear in it the cards
are told in the run without them. -/
theorem windowProtocol_afterDealings (start : Backplane ω γ) (count : UInt8)
    (hattached : start.trace.attached = true) (hfree : start.trace.busy = false)
    (dealings : List (Dealing γ ω)) :
    (overheard dealings (start.listening count)).deaf =
        afterDealings dealings (start.withEmptySlots count) ∧
      WindowProtocol start.trace (overheard dealings (start.listening count)) := by
  obtain ⟨hattentive, -, -, hchanged⟩ := attentive_overheard start count hattached hfree dealings
  refine ⟨?_, ?_⟩
  · -- the run itself is that of the cards without listeners
    rw [overheard_deaf, deaf_listening]
  · generalize overheard dealings (start.listening count) = b at hattentive hchanged ⊢
    exact {
      owned := hattentive.owned
      inTurn := fun slot l hl => (hattentive.inStep slot l hl).inTurn
      told := fun slot l hl => (hattentive.inStep slot l hl).told
      removed := fun slot l hremove => hattentive.removed hremove
      handsOver := fun d => (hattentive.deal d).notices
      reselected := fun slot howner => call_select_owner hattentive howner
      released := by
        intro howner
        have hkept : b.releaseWindow = b := by
          unfold Backplane.releaseWindow
          rw [howner]
        rw [call, hkept]
      changes := hchanged }

/-- Empty slots and an observer. -/
def beforeCards : Backplane Bench.Host Bench.TestCard where
  floating := .constant 0xFF
  overrides := #[]
  host := {}
  banked := #[]
  rack := .empty 0
  trace := { attached := true }

/-- The window goes from one card to another, which is selected once more, used, and taken out. -/
def twoCards : List (Dealing Bench.TestCard Bench.Host) :=
  [.call (.install 1 { name := "one" }), .call (.install 2 { name := "two" }), .call (.select 1),
    .call (.snoop 2), .call (.select 2), .use 2 fun card host => ({ card with reports := false }, host),
    .call (.remove 2)]

/-- Two cards after one another: of each of them the window is taken before the other gets it. -/
theorem windowProtocol_afterDealings_twoCards :
    beforeCards.trace.attached = true ∧ beforeCards.trace.busy = false ∧
      ((overheard twoCards (beforeCards.listening 2)).deaf =
          afterDealings twoCards (beforeCards.withEmptySlots 2) ∧
        WindowProtocol beforeCards.trace (overheard twoCards (beforeCards.listening 2))) ∧
      (overheard twoCards (beforeCards.listening 2)).host.notices =
        [(1, .selected), (1, .deselected), (2, .selected), (2, .deselected)] :=
  ⟨rfl, rfl, windowProtocol_afterDealings beforeCards 2 rfl rfl twoCards, rfl⟩

end HandOver

end Backplane

end Motherboard
