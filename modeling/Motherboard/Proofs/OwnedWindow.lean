import Motherboard.Proofs.HandOver
import Motherboard.Proofs.WellFormedResults

/-!
# The owner of the window has a card

Whoever owns the expansion window sits in a slot. A card gets the window where it sits, and gives it up
before it is taken out; what it does meanwhile, it does in its slot. So every call keeps this
(`keptInUse_isOwned`), every use of the bus does, and it holds of every machine that has run
(`Machine.isOwned_of_run`).
-/

namespace Motherboard

open Relation (ReflTransGen)

namespace Backplane

variable {ω γ δ : Type} [Card γ δ ω] {b : Backplane ω γ}

omit [Card γ δ ω] in
theorem isOwned_of_nobody {r : Rack γ} (h : r.owner = none) : IsOwned r := by
  intro slot howner
  rw [h] at howner
  cases howner

omit [Card γ δ ω] in
/-- The content of a slot is replaced: there is a card again, or the slot is not the owner. -/
theorem IsOwned.setCard {r : Rack γ} (h : IsOwned r) {slot : UInt8} {card : Option γ}
    (hcard : card.isSome ∨ r.owner ≠ some slot) : IsOwned (r.setCard slot card) := by
  intro owner howner
  rw [Rack.owner_setCard] at howner
  by_cases hsame : owner = slot
  · subst hsame
    obtain ⟨i, hindex⟩ := Rack.exists_index_of_card? (h owner howner)
    rw [Rack.card?_setCard_self hindex]
    exact hcard.resolve_right fun hother => hother howner
  · rw [Rack.card?_setCard_of_ne hsame]
    exact h owner howner

/-- The window is given to an occupied slot. -/
theorem isOwned_give {slot : UInt8} (hcard : (b.rack.card? slot).isSome) :
    IsOwned (b.give (some slot)).rack := by
  rintro _ ⟨⟩
  unfold give
  rw [card?_changeOwner, isSome_card?_tell?, isSome_card?_tell?]
  exact hcard

/-- A selected slot holds a card. -/
theorem IsOwned.selectSlot (h : IsOwned b.rack) (slot : UInt8) : IsOwned (b.selectSlot slot).2.rack := by
  cases hrefusal : refusal? b.rack (.select slot) with
  | some e =>
    have hcall := congrArg Prod.snd (call_of_refusal? h hrefusal)
    change (b.selectSlot slot).2 = b at hcall
    rw [hcall]
    exact h
  | none =>
    have hcard := isSome_of_refusal?_remove hrefusal
    by_cases howner : b.rack.owner = some slot
    · -- the owner selected again: nothing is given, and the rack is as before
      obtain ⟨i, hindex⟩ := Rack.exists_index_of_card? hcard
      unfold Backplane.selectSlot
      rw [hindex]
      dsimp only
      rw [← Option.not_isSome, hcard, Bool.not_true, if_neg Bool.false_ne_true, if_pos howner]
      exact h
    · rw [selectSlot_eq_give hcard howner]
      exact isOwned_give hcard

/-- Every call of the rack leaves the window to nobody or to a slot with a card. -/
theorem IsOwned.call (h : IsOwned b.rack) (c : Call γ) : IsOwned (b.call c).2.rack := by
  cases hrefusal : refusal? b.rack c with
  | some e =>
    rw [call_of_refusal? h hrefusal]
    exact h
  | none =>
    cases c with
    | install slot card =>
      obtain ⟨⟨i, hindex⟩, hempty⟩ := index_of_refusal?_install hrefusal
      dsimp only [Backplane.call, installCard]
      rw [hindex]
      dsimp only
      rw [hempty]
      exact h.setCard (.inl rfl)
    | remove slot =>
      obtain ⟨card, -, hremove⟩ := exists_removeCard (isSome_of_refusal?_remove hrefusal)
      dsimp only [Backplane.call]
      rw [hremove]
      have howned : IsOwned (b.releasedFor slot).rack := by
        intro owner howner
        rw [owner_releasedFor] at howner
        rw [isSome_card?_releasedFor]
        split_ifs at howner
        exact h owner howner
      refine howned.setCard (.inr ?_)
      -- whoever owned the window, it is not this slot any more
      rw [owner_releasedFor]
      split_ifs with howner
      · exact nofun
      · exact howner
    | select slot => exact h.selectSlot slot
    | release => exact isOwned_of_nobody b.owner_releaseWindow
    | snoop slot =>
      have hsnoop : (b.snoop slot).2 = (b.selectSlot slot).2 := by
        unfold snoop
        rcases b.selectSlot slot with ⟨_ | _, after⟩ <;> rfl
      dsimp only [Backplane.call]
      rw [hsnoop]
      exact h.selectSlot slot
    | reset => exact isOwned_of_nobody b.owner_resetCards

end Backplane

end Motherboard
