import Motherboard.Proofs.BankCells
import Motherboard.Proofs.MappingCalls
import Motherboard.Proofs.SlotHistory

/-!
# Uses of a bus

Everybody who has a bus can use it: send accesses, ask targets, map pages, call the rack
(`Bus.Use`). Three things stay whatever is done with it: the policy but for the mode of the processor, the
geometry of the page table, and the number of slots (`Bus.SameMake`).

Of all that is on the bus the I/O pages alone reach the rack: they ask for a call when a slot is touched,
and let cards answer in their slots. So what calls and answering cards keep of the rack
(`Rack.KeptInUse`), every use of the bus keeps (`Bus.Use.keepsRack`).
-/

namespace Motherboard

/-! ## The number of slots -/

namespace Backplane

variable {ω γ δ : Type} [Card γ δ ω]

/-- A slot is selected or refused, and the slots stay. -/
theorem size_selectSlot (b : Backplane ω γ) (slot : UInt8) :
    (b.selectSlot slot).2.rack.cards.size = b.rack.cards.size := by
  unfold selectSlot
  cases b.rack.index slot with
  | error e => rfl
  | ok i =>
    dsimp only
    split_ifs
    · rfl
    · rfl
    · -- the cards are told of the new owner, each in its place
      cases b.rack.owner with
      | none => exact b.size_tell slot Card.selected
      | some owner => exact (size_tell _ slot Card.selected).trans (b.size_tell owner Card.deselected)

/-- Snooping is selecting. -/
theorem size_snoop (b : Backplane ω γ) (slot : UInt8) :
    (b.snoop slot).2.rack.cards.size = b.rack.cards.size := by
  have hselect := b.size_selectSlot slot
  unfold snoop
  rcases hafter : b.selectSlot slot with ⟨_ | _, after⟩ <;>
  · rw [hafter] at hselect
    exact hselect

/-- A card goes, and its slot stays. -/
theorem size_removeCard (b : Backplane ω γ) (slot : UInt8) :
    (b.removeCard slot).2.rack.cards.size = b.rack.cards.size := by
  unfold removeCard
  cases b.rack.index slot with
  | error e => rfl
  | ok i =>
    -- a card that owns the window gives it up before it goes
    have hreleased : (if b.rack.owner = some slot then b.releaseWindow else b).rack.cards.size =
        b.rack.cards.size := by
      split_ifs
      · exact b.size_releaseWindow
      · rfl
    dsimp only
    cases (if b.rack.owner = some slot then b.releaseWindow else b).rack.card? slot with
    | none => exact hreleased
    | some card => exact (Rack.size_setCard _).trans hreleased

/-- A card comes into a slot that is there. -/
theorem size_installCard (b : Backplane ω γ) (slot : UInt8) (card : γ) :
    (b.installCard slot card).2.rack.cards.size = b.rack.cards.size := by
  unfold installCard
  cases b.rack.index slot with
  | error e => rfl
  | ok i =>
    dsimp only
    cases b.rack.card? slot with
    | some old => rfl
    | none => exact Rack.size_setCard _

/-- Cards come and go, slots stay. -/
theorem size_call (b : Backplane ω γ) (c : Call γ) :
    (b.call c).2.rack.cards.size = b.rack.cards.size := by
  cases c with
  | install slot card => exact b.size_installCard slot card
  | remove slot => exact b.size_removeCard slot
  | select slot => exact b.size_selectSlot slot
  | release => exact b.size_releaseWindow
  | snoop slot => exact b.size_snoop slot
  | reset => exact b.size_resetCards

/-- Touching an offset asks for one call at most. -/
theorem touch_eq_or_call (b : Backplane ω γ) (layout : IoPageLayout) (overrides : RomOverrides)
    (offset : UInt32) : (b.touch layout overrides offset).2 = b ∨
      ∃ c : Call γ, (b.touch layout overrides offset).2 = (b.call c).2 := by
  unfold touch
  cases layout.classify offset with
  | expansion relative =>
    dsimp only
    split_ifs
    · -- the sentinel
      exact .inr ⟨.release, rfl⟩
    · exact .inl rfl
  | slotRom slot relative =>
    dsimp only
    split_ifs
    · exact .inl rfl
    · -- the ROM of a slot that is not replaced by firmware
      refine .inr ⟨.snoop slot, ?_⟩
      dsimp only [call]
      rcases b.snoop slot with ⟨_ | _, after⟩ <;> rfl
  | _ => exact .inl rfl

/-- Somebody uses the card of a slot where it sits, and the card may touch the board. An empty slot has
nothing to use. -/
def useCard (b : Backplane ω γ) (slot : UInt8) (f : γ → Board ω → γ × Board ω) : Backplane ω γ :=
  match b.rack.card? slot with
  | none => b
  | some card =>
    let (card, board) := f card b.toBoard
    { b with toBoard := board, rack := b.rack.setCard slot (some card) }

end Backplane

/-! ## What stays of the rack -/

/-- A property of racks that every call keeps, and that is not lost when a card changes in its slot. -/
structure Rack.KeptInUse {ω γ δ : Type} [Card γ δ ω] (J : Rack γ → Prop) : Prop where
  call : ∀ (b : Backplane ω γ) (c : Backplane.Call γ), J b.rack → J (b.call c).2.rack
  setCard : ∀ (r : Rack γ) (slot : UInt8) (card : γ), (r.card? slot).isSome → J r →
    J (r.setCard slot (some card))

theorem Rack.keptInUse_size {ω γ δ : Type} [Card γ δ ω] (count : Nat) :
    Rack.KeptInUse fun r : Rack γ => r.cards.size = count where
  call b c h := (b.size_call c).trans h
  setCard _ _ card _ h := (Rack.size_setCard (some card)).trans h

namespace Rack.KeptInUse

variable {ω γ δ : Type} [Card γ δ ω] {J : Rack γ → Prop} {b : Backplane ω γ}

/-- Touching an offset keeps of the rack what calls keep. -/
theorem touch (h : KeptInUse J) (hb : J b.rack) (layout : IoPageLayout) (overrides : RomOverrides)
    (offset : UInt32) : J (b.touch layout overrides offset).2.rack := by
  rcases b.touch_eq_or_call layout overrides offset with hsame | ⟨c, hcall⟩
  · rw [hsame]
    exact hb
  · rw [hcall]
    exact h.call b c hb

/-- Whatever the card of a slot does, it is still in its slot. -/
theorem useCard (h : KeptInUse J) (hb : J b.rack) (slot : UInt8) (f : γ → Board ω → γ × Board ω) :
    J (b.useCard slot f).rack := by
  unfold Backplane.useCard
  cases hcard : b.rack.card? slot with
  | none => exact hb
  | some card => exact h.setCard b.rack slot _ (by rw [hcard]; rfl) hb

/-! ### I/O pages -/

/-- Putting a part back, into the page or into a card, keeps the rack or a card in its slot. -/
theorem replaceAt (h : KeptInUse J) (hb : J b.rack) (p : IoPage δ) (seat : Seat) (part : Part δ)
    (board : Board ω) : J (p.replaceAt b seat part board).2.rack := by
  cases seat with
  | own own relative => exact hb
  | card slot region relative =>
    unfold IoPage.replaceAt
    dsimp only
    cases hcard : b.rack.card? slot with
    | none => exact hb
    | some card => exact h.setCard b.rack slot _ (by rw [hcard]; rfl) hb

/-- A byte cycle of a page touches first, and then puts one part back. -/
theorem cycle (h : KeptInUse J) {α : Type} (c : UInt32 → Cycle (Part δ × Board ω) α) (offset : UInt32)
    {s : IoPage δ × Backplane ω γ} (hs : J s.2.rack) : J (IoPage.cycle c offset s).2.2.rack := by
  obtain ⟨p, b⟩ := s
  by_cases hfree : b.hold = .free
  · have htouched : J (p.touched b offset).rack := h.touch hs _ _ _
    rw [IoPage.cycle_eq_touched hfree]
    dsimp only
    cases p.dispatched? (p.touched b offset) offset with
    | none => exact htouched
    | some found => exact h.replaceAt htouched p _ _ _
  · -- while somebody holds the rack, the page does nothing
    unfold IoPage.cycle
    dsimp only
    rw [if_neg hfree]
    exact hs

variable [Device δ ω]

/-- Byte reads add the floating byte, which is none of the rack's. -/
theorem read8 (h : KeptInUse J) (offset : UInt32) (access : Access) {s : IoPage δ × Backplane ω γ}
    (hs : J s.2.rack) : J (IoPage.read8 offset access s).2.2.rack := by
  have hcycle := h.cycle (fun relative => Part.read .byte relative access) offset hs
  unfold IoPage.read8
  rcases hafter : IoPage.cycle (fun relative => Part.read .byte relative access) offset s with
    ⟨_ | _ | byte, p, b⟩ <;>
  · rw [hafter] at hcycle
    exact hcycle

/-- Pokes put back at most one part of a card. -/
theorem poke (h : KeptInUse J) (hb : J b.rack) (offset : UInt32) (value : UInt8) (p : IoPage δ) :
    J (p.poke offset value b).2.2.rack := by
  have hcard : J (p.pokeCard offset value b).2.2.rack := by
    -- either nobody is there or one card is put back into its slot
    rcases p.snd_pokeCard b offset value with hself | ⟨slot, region, relative, part, -, -, hpoke⟩
    · rw [hself]
      exact hb
    · rw [hpoke]
      exact h.replaceAt hb p _ _ _
  unfold IoPage.poke
  split
  · exact hb
  · exact hb
  · exact hb
  · exact hcard

omit [Card γ δ ω] in
/-- Resetting a target does not touch the rack. -/
theorem rack_reset (t : Target δ) (b : Backplane ω γ) : (t.reset b).2.rack = b.rack := by
  -- the page's own parts are reset without the rack
  have hown : ∀ (own : OwnPart) (p : IoPage δ) (b : Backplane ω γ),
      (p.resetOwn own b).2.rack = b.rack := by
    intro own p b
    unfold IoPage.resetOwn
    cases p.own? own <;> rfl
  cases t with
  | part p => rfl
  | page p =>
    dsimp only [Target.reset, IoPage.reset]
    rw [hown, hown, hown]
    rfl

/-! ### Buses -/

variable {bus : Bus ω δ γ}

omit [Card γ δ ω] [Device δ ω] in
/-- What every target keeps of the rack, a bus keeps. -/
theorem onTarget (hbus : J bus.backplane.rack) {α : Type} (id : TargetId) (missing : α)
    {f : Target δ → Backplane ω γ → α × Target δ × Backplane ω γ}
    (hf : ∀ t b, J b.rack → J (f t b).2.2.rack) :
    J (bus.onTarget id missing f).2.backplane.rack := by
  rw [Bus.backplane_onTarget]
  cases bus.target? id with
  -- a number without a target changes nothing
  | none => exact hbus
  | some t => exact hf t bus.backplane hbus

omit [Card γ δ ω] in
theorem resetTarget (hbus : J bus.backplane.rack) (id : TargetId) :
    J (bus.resetTarget id).backplane.rack :=
  onTarget hbus id () fun t b hb => (rack_reset t b).symm ▸ hb

omit [Card γ δ ω] in
/-- The reset of a bus goes through the targets only. -/
theorem reset (hbus : J bus.backplane.rack) : J bus.reset.backplane.rack := by
  have hfold : ∀ (places : List Nat) (bus : Bus ω δ γ), J bus.backplane.rack →
      J (places.foldl (fun bus i => bus.resetTarget ⟨i⟩) bus).backplane.rack := by
    intro places
    -- target after target, and none of them touches the rack
    induction places with
    | nil => exact fun bus hbus => hbus
    | cons i places ih => exact fun bus hbus => ih _ (resetTarget hbus ⟨i⟩)
  exact hfold _ bus hbus

/-- Whatever is asked of a target, the rack keeps what calls and answering cards keep. -/
theorem answer (h : KeptInUse J) (request : Request) (hbus : J bus.backplane.rack) :
    J (Bus.answer request bus).2.backplane.rack := by
  -- of all targets an I/O page alone reaches the rack
  cases request with
  | read id width offset access =>
    refine onTarget hbus id _ ?_
    rintro (p | p) b hb
    · exact hb
    · exact Cycle.read_keeps (J := fun s : IoPage δ × Backplane ω γ => J s.2.rack)
        (fun offset access s hs => h.read8 offset access hs) width offset access hb
  | write id width offset value access =>
    refine onTarget hbus id _ ?_
    rintro (p | p) b hb
    · exact hb
    · exact Cycle.write_keeps (J := fun s : IoPage δ × Backplane ω γ => J s.2.rack)
        (fun offset value access s hs => h.cycle _ offset hs) width offset value access hb
  | peek id offset => exact onTarget hbus id none fun _ _ hb => hb
  | poke id offset value =>
    refine onTarget hbus id _ ?_
    rintro (p | p) b hb
    · exact hb
    · exact h.poke hb offset value p
  | floating address => exact hbus

theorem run (h : KeptInUse J) {α : Type} (r : Requests α) (hbus : J bus.backplane.rack) :
    J (r.run Bus.answer bus).2.backplane.rack :=
  r.run_keeps (I := fun after : Bus ω δ γ => J after.backplane.rack)
    (fun request _ hsofar => h.answer request hsofar) hbus

theorem access (h : KeptInUse J) (a : Access) (hbus : J bus.backplane.rack) :
    J (bus.access a).2.backplane.rack := by
  have hrun := h.run (bus.routing.checked a) hbus
  unfold Bus.access
  dsimp only
  -- counting and reporting leave the rack alone
  cases ((bus.routing.checked a).run Bus.answer bus).1 with
  | ok done => exact hrun
  | error fault => exact hrun

end Rack.KeptInUse

/-! ## The make of a bus -/

namespace Bus

variable {ω γ δ : Type} {bus before between after : Bus ω δ γ}

/-- The buses have one policy, but for the mode of the processor, one geometry, and one number of
slots. -/
structure SameMake (before after : Bus ω δ γ) : Prop where
  policy : ∃ mode, after.config = { before.config with cpuMode := mode }
  geometry : after.table.geometry = before.table.geometry
  slots : after.backplane.rack.cards.size = before.backplane.rack.cards.size

theorem SameMake.refl (bus : Bus ω δ γ) : SameMake bus bus :=
  ⟨⟨_, rfl⟩, rfl, rfl⟩

/-- The mode may change at each step, the rest stays. -/
theorem SameMake.trans (h : SameMake before between) (h' : SameMake between after) :
    SameMake before after := by
  obtain ⟨mode, hpolicy⟩ := h.policy
  obtain ⟨mode', hpolicy'⟩ := h'.policy
  refine ⟨⟨mode', ?_⟩, h'.geometry.trans h.geometry, h'.slots.trans h.slots⟩
  rw [hpolicy', hpolicy]

/-- With the routing, policy and geometry stay. -/
theorem sameMake_of_routing (h : after.routing = before.routing)
    (hslots : after.backplane.rack.cards.size = before.backplane.rack.cards.size) :
    SameMake before after where
  policy := ⟨before.config.cpuMode, congrArg Routing.config h⟩
  geometry := congrArg (fun r : Routing => r.table.geometry) h
  slots := hslots

section Used

variable [Device δ ω] [Card γ δ ω]

/-- What may be done with a bus. -/
inductive Use (bus : Bus ω δ γ) : Bus ω δ γ → Prop where
  | access (a : Access) : Use bus (bus.access a).2
  /-- An access is carried out that its caller has checked. -/
  | direct (a : Access) : Use bus (bus.direct a).2
  | recordTrapped (a : Access) (o : Outcome) : Use bus (bus.recordTrapped a o)
  /-- A target is asked past the page table. -/
  | answer (request : Request) : Use bus (answer request bus).2
  | resetTarget (id : TargetId) : Use bus (bus.resetTarget id)
  | reset : Use bus bus.reset
  | resetDiagnostics : Use bus bus.resetDiagnostics
  | setCpuMode (mode : CpuMode) : Use bus (bus.setCpuMode mode)
  | addTarget (t : Target δ) : Use bus (bus.addTarget t).2
  | addMemory (memory : BankedMemory) :
    Use bus { bus with backplane.banked := bus.backplane.banked.push memory }
  | mapPage {after : Bus ω δ γ} {index : Nat} {entry : PageEntry}
    (h : bus.mapPage index entry = .ok after) : Use bus after
  | mapRange {after : Bus ω δ γ} {first count : Nat} {entry : PageEntry}
    (h : bus.mapRange first count entry = .ok after) : Use bus after
  | unmapPage {after : Bus ω δ γ} {index : Nat} {entry : Option PageEntry}
    (h : bus.unmapPage index = .ok (entry, after)) : Use bus after
  | remapPage {after : Bus ω δ γ} {index : Nat} {id : TargetId} {base : UInt32}
    (h : bus.remapPage index id base = .ok after) : Use bus after
  | call (c : Backplane.Call γ) : Use bus { bus with backplane := (bus.backplane.call c).2 }
  | useCard (slot : UInt8) (f : γ → Board ω → γ × Board ω) :
    Use bus { bus with backplane := bus.backplane.useCard slot f }
  | changeOverrides (switches : Nat) (f : RomOverrides → RomOverrides) :
    Use bus { bus with backplane := bus.backplane.changeOverrides switches f }
  | drive (byte : UInt8) :
    Use bus { bus with backplane.floating := bus.backplane.floating.drive byte }
  /-- Somebody holds the rack, or lets go of it. -/
  | hold (hold : Hold) : Use bus { bus with backplane.hold := hold }
  /-- The host goes on by itself. -/
  | host (host : ω) : Use bus { bus with backplane.host := host }
  /-- The observer comes, goes, or reads what it has seen. -/
  | trace (trace : Trace) : Use bus { bus with backplane.trace := trace }

/-- What is kept of the rack in use, every use of the bus keeps. -/
theorem Use.keepsRack {J : Rack γ → Prop} (huse : Use bus after) (h : Rack.KeptInUse J)
    (hbus : J bus.backplane.rack) : J after.backplane.rack := by
  cases huse with
  | access a => exact h.access a hbus
  | direct a => exact h.run (bus.routing.trusted a) hbus
  | answer request => exact h.answer request hbus
  | resetTarget id => exact Rack.KeptInUse.resetTarget hbus id
  | reset => exact Rack.KeptInUse.reset hbus
  | mapPage hmap =>
    obtain ⟨-, table, -, rfl⟩ := mapPage_eq_ok_iff.1 hmap
    exact hbus
  | mapRange hmap =>
    obtain ⟨-, -, rfl⟩ := mapRange_eq_ok_iff.1 hmap
    exact hbus
  | unmapPage hmap =>
    obtain ⟨-, table, -, rfl⟩ := unmapPage_eq_ok_iff.1 hmap
    exact hbus
  | remapPage hmap =>
    obtain ⟨t, entry, table, -, -, -, rfl⟩ := remapPage_eq_ok_iff.1 hmap
    exact hbus
  | call c => exact h.call bus.backplane c hbus
  | useCard slot f => exact h.useCard hbus slot f
  -- the others leave the rack alone
  | _ => exact hbus

omit [Card γ δ ω] in
/-- A reset of the targets leaves the routing. -/
theorem routing_reset (bus : Bus ω δ γ) : bus.reset.routing = bus.routing := by
  have hfold : ∀ (places : List Nat) (sofar : Bus ω δ γ),
      (places.foldl (fun bus i => bus.resetTarget ⟨i⟩) sofar).routing = sofar.routing := by
    intro places
    induction places with
    | nil => exact fun _ => rfl
    | cons i places ih => exact fun sofar => (ih _).trans (sofar.routing_onTarget ⟨i⟩ _ _)
  exact hfold _ bus

/-- No use of a bus changes its make. -/
theorem Use.sameMake (h : Use bus after) : SameMake bus after := by
  have hslots := h.keepsRack (Rack.keptInUse_size bus.backplane.rack.cards.size) rfl
  cases h with
  | access a => exact sameMake_of_routing (bus.routing_access a) hslots
  | direct a => exact sameMake_of_routing (routing_run (bus.routing.trusted a) bus) hslots
  | answer request => exact sameMake_of_routing (routing_answer request bus) hslots
  | resetTarget id => exact sameMake_of_routing (bus.routing_onTarget id _ _) hslots
  | reset => exact sameMake_of_routing bus.routing_reset hslots
  | mapPage h =>
    obtain ⟨-, table, hset, rfl⟩ := mapPage_eq_ok_iff.1 h
    exact ⟨⟨_, rfl⟩, PageTable.geometry_of_set hset, rfl⟩
  | mapRange h =>
    obtain ⟨-, -, rfl⟩ := mapRange_eq_ok_iff.1 h
    exact ⟨⟨_, rfl⟩, PageTable.geometry_fill _ _ _ _, rfl⟩
  | unmapPage h =>
    obtain ⟨-, table, hset, rfl⟩ := unmapPage_eq_ok_iff.1 h
    exact ⟨⟨_, rfl⟩, PageTable.geometry_of_set hset, rfl⟩
  | remapPage h =>
    obtain ⟨t, entry, table, -, -, hset, rfl⟩ := remapPage_eq_ok_iff.1 h
    exact ⟨⟨_, rfl⟩, PageTable.geometry_of_set hset, rfl⟩
  | call c => exact ⟨⟨_, rfl⟩, rfl, hslots⟩
  | useCard slot f => exact ⟨⟨_, rfl⟩, rfl, hslots⟩
  -- the others leave table and rack alone, and at most the mode is new
  | _ => exact ⟨⟨_, rfl⟩, rfl, rfl⟩

end Used

end Bus

end Motherboard
