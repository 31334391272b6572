import Motherboard.Machine
import Motherboard.Proofs.SlotHistory
import Motherboard.Proofs.WiredOr

/-!
# What a reset calls

A reset asks the cards to reset themselves, one after another in the order of the slots, and then the
targets in the order of their numbers; an I/O page passes the call on to the parts attached to it. What
devices and cards do when they are called is their own affair, and the host goes from one call to the
next (`inTurn`). So the equations of this file say who is called, how often and in which order:
`Backplane.resetCards_inTurn` for the cards, `Bus.reset_inTurn` for the targets.

Override switches and banked memories belong to the board, and a reset reaches them through the parts
on the bus: each face of a memory throws the bank switches back (`Backplane.renewed`), and an I/O page
clears its override switches before it passes the call on. A device that is called may touch the switches
too. Where no reset turns one on (`Device.ResetsKeepCleared`), those of all pages are clear afterwards
(`isCleared_inTurn`).
-/

namespace Motherboard

/-! ## Calls in turn -/

section Turns

variable {α σ : Type}

/-- One call for each item, in order. The state goes from one call to the next. -/
def inTurn (call : α → σ → α × σ) : List α → σ → List α × σ
  | [], s => ([], s)
  | x :: xs, s =>
    let (x, s) := call x s
    let (xs, s) := inTurn call xs s
    (x :: xs, s)

/-- One call, if there is an item. -/
def ifThere (call : α → σ → α × σ) : Option α → σ → Option α × σ
  | none, s => (none, s)
  | some x, s =>
    let (x, s) := call x s
    (some x, s)

variable {call : α → σ → α × σ}

/-- The first item is called, and the others with the state that it leaves. -/
theorem inTurn_cons (x : α) (xs : List α) (s : σ) :
    inTurn call (x :: xs) s =
      ((call x s).1 :: (inTurn call xs (call x s).2).1, (inTurn call xs (call x s).2).2) := rfl

/-- A call whose result does not depend on the state. -/
theorem fst_ifThere {f : α → α} (h : ∀ x s, (call x s).1 = f x) (item : Option α) (s : σ) :
    (ifThere call item s).1 = item.map f := by
  cases item with
  | none => rfl
  | some x => exact congrArg some (h x s)

/-- Calls whose result does not depend on the state. -/
theorem fst_inTurn {f : α → α} (h : ∀ x s, (call x s).1 = f x) (xs : List α) (s : σ) :
    (inTurn call xs s).1 = xs.map f := by
  induction xs generalizing s with
  | nil => rfl
  | cons x xs ih => rw [inTurn_cons, List.map_cons, h, ih]

/-- What holds of the state before a call holds of it afterwards. -/
def CallsKeep (call : α → σ → α × σ) (P : σ → Prop) : Prop :=
  ∀ x s, P s → P (call x s).2

/-- A call that is made or not made keeps what the call keeps. -/
theorem CallsKeep.ifThere {P : σ → Prop} (h : CallsKeep call P) : CallsKeep (ifThere call) P := by
  intro item s hs
  cases item with
  | none => exact hs
  | some x => exact h x s hs

/-- Calls one after another keep what each of them keeps. -/
theorem CallsKeep.inTurn {P : σ → Prop} (h : CallsKeep call P) : CallsKeep (inTurn call) P := by
  intro xs
  induction xs with
  | nil => exact fun _ hs => hs
  | cons x xs ih => exact fun s hs => ih _ (h x s hs)

/-- One call for the item at a place of an array. -/
def visit (call : α → σ → α × σ) : Array α × σ → Nat → Array α × σ
  | (xs, s), i =>
    match xs[i]? with
    | none => (xs, s)
    | some x => (xs.setIfInBounds i (call x s).1, (call x s).2)

/-- A visit leaves the number of items. -/
theorem size_visit (xs : Array α) (s : σ) (i : Nat) : (visit call (xs, s) i).1.size = xs.size := by
  dsimp only [visit]
  cases xs[i]? with
  | none => rfl
  | some x => exact Array.size_setIfInBounds

/-- Visiting the places of the items that are left is calling them in turn. -/
theorem foldl_visit_range' (done rest : List α) (s : σ) :
    (List.range' done.length rest.length).foldl (visit call) ((done ++ rest).toArray, s) =
      ((done ++ (inTurn call rest s).1).toArray, (inTurn call rest s).2) := by
  -- the items called so far are `done`, and the next place is its length
  induction rest generalizing done s with
  | nil => rfl
  | cons x rest ih =>
    have hvisit : visit call ((done ++ x :: rest).toArray, s) done.length =
        ((done ++ [(call x s).1] ++ rest).toArray, (call x s).2) := by
      simp [visit]
    have hlength : (done ++ [(call x s).1]).length = done.length + 1 := List.length_append
    rw [List.length_cons, List.range'_succ, List.foldl_cons, hvisit, ← hlength, ih, inTurn_cons,
      List.append_assoc]
    rfl

/-- Visiting all places, from the first to the last, is calling the items in turn. -/
theorem foldl_visit (xs : Array α) (s : σ) :
    (List.range xs.size).foldl (visit call) (xs, s) =
      ((inTurn call xs.toList s).1.toArray, (inTurn call xs.toList s).2) := by
  have hall := @foldl_visit_range' α σ call [] xs.toList s
  rwa [List.length_nil, Array.length_toList, ← List.range_eq_range', List.nil_append, List.nil_append,
    Array.toArray_toList] at hall

end Turns

/-! ## Some places of an array -/

section Places

variable {α : Type} {f : α → α}

/-- The array with `f` applied at the places listed. -/
def renewAt (f : α → α) (places : List Nat) (xs : Array α) : Array α :=
  xs.mapIdx fun i x => if i ∈ places then f x else x

/-- Place by place: listed places hold what `f` makes of them, others what they held. -/
theorem getElem?_renewAt (f : α → α) (places : List Nat) (xs : Array α) (i : Nat) :
    (renewAt f places xs)[i]? = xs[i]?.map fun x => if i ∈ places then f x else x :=
  Array.getElem?_mapIdx

/-- No place listed, nothing changed. -/
theorem renewAt_nil (f : α → α) (xs : Array α) : renewAt f [] xs = xs := by
  apply Array.ext_getElem?
  intro i
  rw [getElem?_renewAt]
  simp

/-- Where a second application of `f` adds nothing, listing places twice does no harm. -/
theorem renewAt_renewAt (hf : ∀ x, f (f x) = f x) (places more : List Nat) (xs : Array α) :
    renewAt f more (renewAt f places xs) = renewAt f (places ++ more) xs := by
  apply Array.ext_getElem?
  intro i
  rw [getElem?_renewAt, getElem?_renewAt, getElem?_renewAt, Option.map_map]
  congr 1
  funext x
  -- a place may be on either list, on both, or on none
  by_cases hfirst : i ∈ places <;> by_cases hlater : i ∈ more <;> simp [hfirst, hlater, hf]

/-- To change one place is to list it. -/
theorem modify_eq_renewAt (f : α → α) (place : Nat) (xs : Array α) :
    xs.modify place f = renewAt f [place] xs := by
  apply Array.ext_getElem?
  intro i
  rw [getElem?_renewAt, Array.getElem?_modify]
  by_cases hplace : place = i
  · simp [hplace]
  · have hother : i ≠ place := fun h => hplace h.symm
    simp [hplace, hother]

end Places

/-! ## The parts of the board that a reset reaches -/

section States

variable {ω δ γ : Type}

/-- The banked memory that a part is a face of. -/
def Part.memories : Part δ → List Nat
  | .bankSwitches memory | .bankWindow memory => [memory]
  | _ => []

/-- The banked memories behind the own parts of a page. -/
def IoPage.memories (p : IoPage δ) : List Nat :=
  [OwnPart.softSwitches, .builtinIo, .internalRom].flatMap fun own =>
    (p.own? own).elim [] Part.memories

/-- The banked memories behind a page, in the order in which its parts are called. -/
theorem IoPage.memories_eq (p : IoPage δ) : p.memories = p.softSwitches.elim [] Part.memories ++
    p.builtinIo.elim [] Part.memories ++ p.internalRom.elim [] Part.memories := by
  simp [memories, own?]

/-- The banked memories that a target has faces of. -/
def Target.memories : Target δ → List Nat
  | .part p => p.memories
  | .page p => p.memories

/-- The override switches of a target. -/
def Target.switches : Target δ → List Nat
  | .part _ => []
  | .page p => [p.switches]

/-- The banked memories with faces on the bus. -/
def Bus.memories (bus : Bus ω δ γ) : List Nat :=
  bus.targets.toList.flatMap Target.memories

/-- The override switches on the bus. -/
def Bus.switches (bus : Bus ω δ γ) : List Nat :=
  bus.targets.toList.flatMap Target.switches

end States

/-! ## The calls of parts and targets -/

section Calls

variable {ω δ : Type} [Device δ ω]

/-- The reset call of a part. A device resets itself, and may touch what devices hold in common. The
others have nothing of their own to reset: memories keep their bytes, and bank switches are the board's. -/
def Part.resetSelf : Part δ → Commons ω → Part δ × Commons ω
  | .device d, commons =>
    let (d, commons) := Device.reset d commons
    (.device d, commons)
  | p, commons => (p, commons)

/-- The commons with the override switches of one page cleared. -/
def Commons.clearOverrides (commons : Commons ω) (switches : Nat) : Commons ω :=
  { commons with overrides := commons.overrides.modify switches fun _ => {} }

/-- The reset call of an I/O page: its override switches are cleared, and then there is one call for each
part attached to it. -/
def IoPage.resetSelf (p : IoPage δ) (commons : Commons ω) : IoPage δ × Commons ω :=
  let commons := commons.clearOverrides p.switches
  let (softSwitches, commons) := ifThere Part.resetSelf p.softSwitches commons
  let (builtinIo, commons) := ifThere Part.resetSelf p.builtinIo commons
  let (internalRom, commons) := ifThere Part.resetSelf p.internalRom commons
  ({ p with softSwitches := softSwitches, builtinIo := builtinIo, internalRom := internalRom }, commons)

/-- The reset call of a target. -/
def Target.resetSelf : Target δ → Commons ω → Target δ × Commons ω
  | .part p, commons =>
    let (p, commons) := p.resetSelf commons
    (.part p, commons)
  | .page p, commons =>
    let (p, commons) := p.resetSelf commons
    (.page p, commons)

end Calls

/-! ## The targets -/

section Renewed

variable {ω δ γ : Type}

/-- The backplane with the banked memories listed returned to power-on, and with other commons. -/
def Backplane.renewed (memories : List Nat) (commons : Commons ω) (b : Backplane ω γ) :
    Backplane ω γ :=
  { b with toBoard := ⟨commons, renewAt BankedMemory.reset memories b.banked⟩ }

namespace Backplane

/-- A backplane with its own commons and no memory listed is as it was. -/
theorem renewed_nil (b : Backplane ω γ) : b.renewed [] b.toCommons = b := by
  unfold renewed
  rw [renewAt_nil]

/-- Of the commons the last ones stay, and of the banked memories all that were reached. -/
theorem renewed_renewed (memories more : List Nat) (commons commons' : Commons ω) (b : Backplane ω γ) :
    (b.renewed memories commons).renewed more commons' = b.renewed (memories ++ more) commons' := by
  have hreset : ∀ m : BankedMemory, m.reset.reset = m.reset := fun _ => rfl
  unfold renewed
  rw [← renewAt_renewAt hreset]

/-- To clear the switches of a page is to change the commons only. -/
theorem changeOverrides_eq_renewed (b : Backplane ω γ) (switches : Nat) :
    b.changeOverrides switches (fun _ => {}) = b.renewed [] (b.toCommons.clearOverrides switches) := by
  unfold changeOverrides renewed Commons.clearOverrides
  rw [renewAt_nil]

end Backplane

variable [Device δ ω]

/-- The reset of a part is its reset call and the return of the banked memories that it is a face of. -/
theorem Part.reset_eq (p : Part δ) (b : Board ω) :
    p.reset b = ((p.resetSelf b.toCommons).1,
      ⟨(p.resetSelf b.toCommons).2, renewAt BankedMemory.reset p.memories b.banked⟩) := by
  cases p with
  -- memories keep their bytes, and a device is called on the commons
  | ram store | rom store | device d =>
    dsimp only [reset, resetSelf, memories]
    rw [renewAt_nil]
  -- both faces throw the same switches back
  | bankSwitches memory | bankWindow memory =>
    dsimp only [reset, resetSelf, memories, Board.resetBanked]
    rw [modify_eq_renewAt]

/-- The page with something or nothing attached as an own part. -/
def IoPage.putOwn (p : IoPage δ) (own : OwnPart) (part : Option (Part δ)) : IoPage δ :=
  match own with
  | .softSwitches => { p with softSwitches := part }
  | .builtinIo => { p with builtinIo := part }
  | .internalRom => { p with internalRom := part }

/-- The reset of an own part of a page is the call of the part, if one is attached. -/
theorem IoPage.resetOwn_eq (own : OwnPart) (p : IoPage δ) (b : Backplane ω γ) :
    p.resetOwn own b = (p.putOwn own (ifThere Part.resetSelf (p.own? own) b.toCommons).1,
      b.renewed ((p.own? own).elim [] Part.memories)
        (ifThere Part.resetSelf (p.own? own) b.toCommons).2) := by
  unfold resetOwn
  cases hown : p.own? own with
  | none =>
    -- nothing is attached, and so it stays
    have hsame : p.putOwn own none = p := by
      rw [← hown]
      cases own <;> rfl
    dsimp only [ifThere, Option.elim_none]
    rw [hsame, b.renewed_nil]
  -- the part is called, and attached again as it then is
  | some part =>
    have hattach : p.attach own (part.resetSelf b.toCommons).1 =
        p.putOwn own (some (part.resetSelf b.toCommons).1) := by
      cases own <;> rfl
    dsimp only [ifThere, Option.elim_some]
    rw [part.reset_eq, ← hattach]
    rfl

/-- The reset of a page is its reset call, with the banked memories behind its parts returned. -/
theorem IoPage.reset_eq (p : IoPage δ) (b : Backplane ω γ) :
    p.reset b =
      ((p.resetSelf b.toCommons).1, b.renewed p.memories (p.resetSelf b.toCommons).2) := by
  unfold reset
  dsimp only
  -- the soft switches come first, then the registers of slot 0, then the firmware
  rw [b.changeOverrides_eq_renewed, IoPage.resetOwn_eq .softSwitches, IoPage.resetOwn_eq .builtinIo,
    IoPage.resetOwn_eq .internalRom, Backplane.renewed_renewed, Backplane.renewed_renewed,
    Backplane.renewed_renewed, p.memories_eq, List.nil_append]
  rfl

theorem Target.reset_eq (t : Target δ) (b : Backplane ω γ) :
    t.reset b = ((t.resetSelf b.toCommons).1, b.renewed t.memories (t.resetSelf b.toCommons).2) := by
  cases t with
  | part p =>
    unfold reset
    dsimp only
    rw [p.reset_eq]
    rfl
  | page p =>
    unfold reset
    dsimp only
    rw [p.reset_eq]
    rfl

/-- A row of targets: each finds the commons as the one before it has left them. -/
theorem inTurn_reset (targets : List (Target δ)) (b : Backplane ω γ) :
    inTurn Target.reset targets b = ((inTurn Target.resetSelf targets b.toCommons).1,
      b.renewed (targets.flatMap Target.memories) (inTurn Target.resetSelf targets b.toCommons).2) := by
  -- the memories that are reached add up along the row, while of the commons the last ones count
  induction targets generalizing b with
  | nil => rw [inTurn, inTurn, List.flatMap_nil, b.renewed_nil]
  | cons t targets ih =>
    rw [inTurn_cons, inTurn_cons, t.reset_eq, ih, Backplane.renewed_renewed, List.flatMap_cons]
    rfl

/-- Every target is called once, in the order of the numbers, and the banked memories that they reach
are at power-on. -/
theorem Bus.reset_inTurn (bus : Bus ω δ γ) :
    bus.reset = { bus with
      targets := (inTurn Target.resetSelf bus.targets.toList bus.backplane.toCommons).1.toArray
      backplane := bus.backplane.renewed bus.memories
        (inTurn Target.resetSelf bus.targets.toList bus.backplane.toCommons).2 } := by
  -- the bus visits its targets by number; by induction on the numbers, this is a fold over the places
  have hvisit : ∀ (places : List Nat) (targets : Array (Target δ)) (b : Backplane ω γ),
      places.foldl (fun bus i => bus.resetTarget ⟨i⟩) { bus with targets := targets, backplane := b } =
        { bus with
          targets := (places.foldl (visit Target.reset) (targets, b)).1
          backplane := (places.foldl (visit Target.reset) (targets, b)).2 } := by
    intro places
    induction places with
    | nil => exact fun _ _ => rfl
    | cons i places ih =>
      intro targets b
      rw [List.foldl_cons, List.foldl_cons]
      unfold resetTarget onTarget onTarget? target?
      dsimp only [visit]
      cases htarget : targets[i]? with
      | none => exact ih targets b
      | some t => exact ih _ _
  have hall := hvisit (List.range bus.targets.size) bus.targets bus.backplane
  rw [foldl_visit, inTurn_reset] at hall
  exact hall

end Renewed

/-! ## What resets leave of the commons -/

section Cleared

variable {ω δ : Type}

/-- The override switches of a page are all off. -/
def Commons.IsCleared (commons : Commons ω) (switches : Nat) : Prop :=
  commons.overrides.getD switches {} = {}

/-- A page that clears its switches has them clear. -/
theorem Commons.isCleared_clearOverrides (commons : Commons ω) (switches : Nat) :
    (commons.clearOverrides switches).IsCleared switches := by
  unfold IsCleared clearOverrides
  rw [Array.getD_eq_getD_getElem?, Array.getElem?_modify, if_pos rfl]
  cases commons.overrides[switches]? <;> rfl

/-- To clear the switches of one page turns on none of the others. -/
theorem Commons.IsCleared.clearOverrides {commons : Commons ω} {switches : Nat}
    (h : commons.IsCleared switches) (others : Nat) :
    (commons.clearOverrides others).IsCleared switches := by
  -- the page cleared is this one or another
  by_cases hsame : others = switches
  · rw [hsame]
    exact commons.isCleared_clearOverrides switches
  · unfold IsCleared Commons.clearOverrides at *
    rwa [Array.getD_eq_getD_getElem?, Array.getElem?_modify, if_neg hsame, ← Array.getD_eq_getD_getElem?]

/-- A reset returns a device to power-on, where no override switch is on: switches that are off stay off
when a device of the type is reset. Anything else that devices hold in common may change. -/
def Device.ResetsKeepCleared (δ : Type) {ω : Type} [Device δ ω] : Prop :=
  ∀ switches, CallsKeep (Device.reset : δ → Commons ω → δ × Commons ω) (·.IsCleared switches)

/-- No reset of a device drives the floating lines. -/
def Device.ResetsKeepLines (δ : Type) {ω : Type} [Device δ ω] : Prop :=
  ∀ lines, CallsKeep (Device.reset : δ → Commons ω → δ × Commons ω) (·.floating = lines)

variable [Device δ ω] {P : Commons ω → Prop}

/-- Parts keep of the commons what devices keep, as nobody else touches the commons. -/
theorem Part.callsKeep_resetSelf (hdevices : CallsKeep (Device.reset : δ → Commons ω → δ × Commons ω) P) :
    CallsKeep (Part.resetSelf : Part δ → Commons ω → Part δ × Commons ω) P := by
  intro p commons h
  -- the device is the only part with a call of its own
  cases p with
  | device d => exact hdevices d commons h
  | ram store | rom store | bankSwitches memory | bankWindow memory => exact h

/-- What holds once a page has cleared its own switches, holds when its parts have been called. -/
theorem IoPage.holds_resetSelf (hdevices : CallsKeep (Device.reset : δ → Commons ω → δ × Commons ω) P)
    (p : IoPage δ) {commons : Commons ω} (h : P (commons.clearOverrides p.switches)) :
    P (p.resetSelf commons).2 := by
  have hthere := (Part.callsKeep_resetSelf hdevices).ifThere
  exact hthere _ _ (hthere _ _ (hthere _ _ h))

/-- Targets keep what devices keep, if clearing the switches of a page keeps it. -/
theorem Target.callsKeep_resetSelf
    (hdevices : CallsKeep (Device.reset : δ → Commons ω → δ × Commons ω) P)
    (hclear : ∀ commons switches, P commons → P (commons.clearOverrides switches)) :
    CallsKeep (Target.resetSelf : Target δ → Commons ω → Target δ × Commons ω) P := by
  intro t commons h
  cases t with
  | part p => exact Part.callsKeep_resetSelf hdevices p commons h
  | page p => exact p.holds_resetSelf hdevices (hclear commons p.switches h)

end Cleared

/-! ## The cards -/

namespace Backplane

variable {ω δ γ : Type} [Card γ δ ω]

/-- To tell something to the slot of a place is to visit the place. -/
theorem tell_place {b : Backplane ω γ} (hslots : b.rack.cards.size ≤ 255) {i : Nat}
    (hi : i < b.rack.cards.size) (news : γ → ω → γ × ω) :
    b.tell (i.toUInt8 + 1) news = { b with
      rack := { b.rack with cards := (visit (ifThere news) (b.rack.cards, b.host) i).1 }
      host := (visit (ifThere news) (b.rack.cards, b.host) i).2 } := by
  have hindex := Rack.index_place hslots hi
  have hplace : b.rack.cards[i]? = some b.rack.cards[i] := Array.getElem?_eq_getElem hi
  have hcard : b.rack.card? (i.toUInt8 + 1) = b.rack.cards[i] := by
    rw [Rack.card?, hindex]
    dsimp only
    rw [hplace]
    rfl
  unfold tell visit
  rw [hcard]
  dsimp only
  rw [hplace]
  cases hnow : b.rack.cards[i] with
  | none =>
    -- the empty slot is written back as it was
    have hsame : b.rack.cards.setIfInBounds i none = b.rack.cards := by
      rw [← hnow, Array.setIfInBounds, dif_pos hi, Array.set_getElem_self]
    dsimp only [ifThere]
    rw [hsame]
  | some card =>
    dsimp only [ifThere]
    rw [Rack.setCard, hindex]

/-- Telling all slots is telling the occupied ones. -/
theorem foldl_tell_filter (news : γ → ω → γ × ω) (slots : List UInt8) {b told : Backplane ω γ}
    (h : ∀ slot, (told.rack.card? slot).isSome = (b.rack.card? slot).isSome) :
    (slots.filter fun slot => (b.rack.card? slot).isSome).foldl (fun b slot => b.tell slot news) told =
      slots.foldl (fun b slot => b.tell slot news) told := by
  -- an empty slot hears nothing, so that leaving it out makes no difference
  induction slots generalizing told with
  | nil => rfl
  | cons slot slots ih =>
    have hnext : ∀ other,
        ((told.tell slot news).rack.card? other).isSome = (b.rack.card? other).isSome := fun other =>
      (told.isSome_card?_tell slot news other).trans (h other)
    cases hoccupied : (b.rack.card? slot).isSome with
    | true =>
      rw [List.filter_cons, hoccupied, if_pos rfl, List.foldl_cons, List.foldl_cons, ih hnext]
    | false =>
      have hempty : told.rack.card? slot = none := by
        rw [← Option.isNone_iff_eq_none, ← Option.isSome_eq_false_iff, h, hoccupied]
      have hdeaf : told.tell slot news = told := by
        unfold tell
        rw [hempty]
      rw [List.filter_cons, hoccupied, if_neg Bool.false_ne_true, List.foldl_cons, hdeaf, ih h]

/-- Telling the occupied slots in order is calling the cards in turn. -/
theorem foldl_tell_inTurn (news : γ → ω → γ × ω) {b : Backplane ω γ}
    (hslots : b.rack.cards.size ≤ 255) :
    b.rack.occupiedSlots.foldl (fun b slot => b.tell slot news) b = { b with
      rack := { b.rack with cards := (inTurn (ifThere news) b.rack.cards.toList b.host).1.toArray }
      host := (inTurn (ifThere news) b.rack.cards.toList b.host).2 } := by
  have hvisit : ∀ (places : List Nat) (cards : Array (Option γ)) (host : ω), cards.size ≤ 255 →
      (∀ i ∈ places, i < cards.size) →
      (places.map fun i => i.toUInt8 + 1).foldl (fun b slot => b.tell slot news)
          { b with rack := { b.rack with cards := cards }, host := host } =
        { b with
          rack := { b.rack with cards := (places.foldl (visit (ifThere news)) (cards, host)).1 }
          host := (places.foldl (visit (ifThere news)) (cards, host)).2 } := by
    intro places
    -- place by place, in the order of the slots
    induction places with
    | nil => exact fun _ _ _ _ => rfl
    | cons i places ih =>
      intro cards host hsize hplaces
      have hnext : (visit (ifThere news) (cards, host) i).1.size = cards.size := size_visit cards host i
      rw [List.map_cons, List.foldl_cons, List.foldl_cons,
        tell_place (b := { b with rack := { b.rack with cards := cards }, host := host }) hsize
          (hplaces i List.mem_cons_self)]
      exact ih _ _ (hnext ▸ hsize) fun j hj => hnext ▸ hplaces j (List.mem_cons_of_mem i hj)
  have hall := hvisit (List.range b.rack.cards.size) b.rack.cards b.host hslots
    fun i hi => List.mem_range.1 hi
  rw [foldl_visit] at hall
  unfold Rack.occupiedSlots
  rw [foldl_tell_filter news _ fun _ => rfl]
  exact hall

/-- When the window is released, every card is called once, in the order of the slots. -/
theorem resetCards_inTurn {b : Backplane ω γ} (hslots : b.rack.cards.size ≤ 255) :
    b.resetCards = { b.releaseWindow with
      rack :=
        { cards := (inTurn (ifThere Card.reset) b.releaseWindow.rack.cards.toList
            b.releaseWindow.host).1.toArray }
      host := (inTurn (ifThere Card.reset) b.releaseWindow.rack.cards.toList
        b.releaseWindow.host).2 } := by
  have htold := foldl_tell_inTurn Card.reset (b := b.releaseWindow)
    (Nat.le_trans (Nat.le_of_eq b.size_releaseWindow) hslots)
  unfold resetCards
  dsimp only at htold ⊢
  rw [htold, b.owner_releaseWindow]

end Backplane

/-! ## The machine -/

namespace Machine

variable {ω δ γ : Type} [Device δ ω] [Card γ δ ω]

/-- What a reset makes of a machine whose rack is free: the window is released, the cards are called in
turn, then the targets, then the counters are cleared, the lines are released, and the scheduler is
reset. -/
theorem reset_inTurn {m : Machine ω δ γ} (hfree : m.rackIsFree = true)
    (hslots : m.bus.backplane.rack.cards.size ≤ 255) :
    let released := m.bus.backplane.releaseWindow
    let cards := inTurn (ifThere Card.reset) released.rack.cards.toList released.host
    let targets :=
      inTurn Target.resetSelf m.bus.targets.toList { released.toCommons with host := cards.2 }
    m.reset = (.ok (), { m with
      bus := { m.bus with
        targets := targets.1.toArray
        diagnostics := .zero
        backplane :=
          { ({ released with rack := { cards := cards.1.toArray } } : Backplane ω γ).renewed
              m.bus.memories targets.2 with
            trace := Signals.report released.trace
              ((Line.all.filter m.signals.isAsserted).map (·, false)) } }
      scheduler := m.scheduler.reset
      signals := {} }) := by
  dsimp only
  unfold reset
  -- the cards come first, then the targets, then counters, lines and scheduler
  rw [if_pos hfree]
  dsimp only
  rw [Backplane.resetCards_inTurn hslots, Bus.reset_inTurn]
  dsimp only [resetSignals, Bus.resetDiagnostics, Backplane.renewed]
  rw [Signals.fst_reset, Signals.snd_reset]
  rfl

end Machine

end Motherboard
