import Motherboard.Proofs.AddressSelection
import Motherboard.Proofs.RackPlaces
import Motherboard.Proofs.WriteProtection
import Mathlib.Logic.Relation

/-!
# Accesses that devices must not notice

The debugger's accesses and the quiet ones are carried out with looks and pokes. They cost nothing, meet
no trap and reach no device cycle, and they leave alone what a device cycle may move on its way: the
owner of the expansion window, the override switches, the bank switches, the floating lines.

A look may be noted with the host, and changes nothing else (`Bus.Looked`). A poke stores bytes: in RAM
and ROM, in the window of a banked memory, in a card's ROM, and in devices that take it. `Poked` says for
each of these what may have changed, and it composes; so one lemma about a single poke gives what a whole
access does.

That a device cycle is never asked for shows in another way, too: devices and cards may be exchanged for
others that take looks and pokes alike, and the access goes the same way (`access_congr`).

* `poked_answer` — what one poke changes.
* `looked_run`, `poked_run` — what a run of looks, and one of pokes, changes.
* `inert_cpuAccess` — the same for every access of the processor that devices must not notice.
-/

namespace Motherboard

open Relation (ReflTransGen)

namespace Request

variable {request : Request} {a : Access}

/-- For a silent read only looks are asked, and the floating lines. -/
theorem Suits.of_silentRead (h : request.Suits a) (hsilent : a.sideEffectsAllowed = false)
    (hread : a.intent.isWrite = false) :
    (∃ id offset, request = .peek id offset) ∨ ∃ address, request = .floating address := by
  -- cycles are only made where side effects are allowed, and pokes for writes
  cases request with
  | peek id offset => exact .inl ⟨id, offset, rfl⟩
  | floating address => exact .inr ⟨address, rfl⟩
  | read id width offset access => exact absurd (hsilent.symm.trans h.1) Bool.false_ne_true
  | write id width offset value access => exact absurd (hsilent.symm.trans h.1) Bool.false_ne_true
  | poke id offset value => exact absurd (hread.symm.trans h.2) Bool.false_ne_true

/-- For a silent write only pokes are asked. -/
theorem Suits.of_silentWrite (h : request.Suits a) (hsilent : a.sideEffectsAllowed = false)
    (hwrite : a.intent.isWrite = true) : ∃ id offset value, request = .poke id offset value := by
  cases request with
  | poke id offset value => exact ⟨id, offset, value, rfl⟩
  | read id width offset access => exact absurd (hsilent.symm.trans h.1) Bool.false_ne_true
  | write id width offset value access => exact absurd (hsilent.symm.trans h.1) Bool.false_ne_true
  | peek id offset => exact absurd (h.2.symm.trans hwrite) Bool.false_ne_true
  | floating address => exact absurd (h.2.symm.trans hwrite) Bool.false_ne_true

end Request

/-! ## What pokes may change -/

/-- Nothing is related to nothing, and something to itself. -/
theorem Option.rel_of_refl {α : Type} {r : α → α → Prop} (h : ∀ a, r a a) (o : Option α) :
    Option.Rel r o o := by
  cases o with
  | none => exact .none
  | some a => exact .some (h a)

/-- Relations between optional items compose as those between the items do. -/
theorem Option.rel_trans {α : Type} {r : α → α → Prop} (h : ∀ {a b c}, r a b → r b c → r a c)
    {o p q : Option α} (hop : Option.Rel r o p) (hpq : Option.Rel r p q) : Option.Rel r o q := by
  -- both sides are there, or none is
  cases hop with
  | none => exact hpq
  | some hab =>
    cases hpq with
    | some hbc => exact .some (h hab hbc)

/-- Bytes have been stored; the switches and the firmware are as they were. -/
structure BankedMemory.Poked (before after : BankedMemory) : Prop where
  state : after.state = before.state
  rom : after.rom = before.rom
  low1 : after.low1.size = before.low1.size
  low2 : after.low2.size = before.low2.size
  high : after.high.size = before.high.size

namespace BankedMemory

theorem Poked.refl (m : BankedMemory) : Poked m m :=
  ⟨rfl, rfl, rfl, rfl, rfl⟩

theorem Poked.trans {m m' m'' : BankedMemory} (h : Poked m m') (h' : Poked m' m'') : Poked m m'' :=
  ⟨h'.state.trans h.state, h'.rom.trans h.rom, h'.low1.trans h.low1, h'.low2.trans h.low2,
    h'.high.trans h.high⟩

/-- A byte stored behind the window of a banked memory is a poke of the memory. -/
theorem poked_store? {m stored : BankedMemory} {offset : UInt32} {value : UInt8}
    (h : m.store? offset value = some stored) : Poked m stored := by
  unfold store? at h
  dsimp only at h
  -- one of the three rows has taken the byte
  split_ifs at h
  · cases h
    exact ⟨rfl, rfl, rfl, Array.size_setIfInBounds, rfl⟩
  · cases h
    exact ⟨rfl, rfl, Array.size_setIfInBounds, rfl, rfl⟩
  · cases h
    exact ⟨rfl, rfl, rfl, rfl, Array.size_setIfInBounds⟩

/-- A poke stores a byte or does nothing. -/
theorem poked_poke (m : BankedMemory) (offset : UInt32) (value : UInt8) :
    Poked m (m.poke offset value).2 := by
  unfold poke
  cases hstore : m.store? offset value with
  | none => exact .refl m
  | some stored => exact poked_store? hstore

end BankedMemory

/-- A poke never makes a storage longer or shorter. -/
theorem Storage.size_poke (s : Storage) (offset : UInt32) (value : UInt8) :
    (s.poke offset value).2.size = s.size := by
  unfold poke replace?
  split_ifs
  · exact Storage.size_overlay _ _ _
  · rfl

section Devices

variable {ω γ δ : Type} [Device δ ω]

/-- The state of a device after one poke. -/
def Device.PokedOnce (before after : δ) : Prop :=
  ∃ (offset : UInt32) (value : UInt8) (commons : Commons ω),
    after = (Device.poke offset value before commons).2.1

/-- The host after one look at a device of type `δ`, which sees the floating lines and the override
switches of `shared`. -/
def HostLooked (δ : Type) [Device δ ω] (shared : Commons ω) (before after : ω) : Prop :=
  ∃ (offset : UInt32) (d : δ), after = (Device.peek offset d { shared with host := before }).2

/-- The host after one poke of a device of type `δ`, which sees the floating lines and the override
switches of `shared`. -/
def HostPoked (δ : Type) [Device δ ω] (shared : Commons ω) (before after : ω) : Prop :=
  ∃ (offset : UInt32) (value : UInt8) (d : δ),
    after = (Device.poke offset value d { shared with host := before }).2.2

/-- Bytes have been stored in a part: its kind and size are as before, and a device has been poked
only. -/
inductive Part.Poked : Part δ → Part δ → Prop where
  | ram {store stored : Storage} (h : stored.size = store.size) : Poked (.ram store) (.ram stored)
  | rom {store stored : Storage} (h : stored.size = store.size) : Poked (.rom store) (.rom stored)
  | bankSwitches (memory : Nat) : Poked (.bankSwitches memory) (.bankSwitches memory)
  | bankWindow (memory : Nat) : Poked (.bankWindow memory) (.bankWindow memory)
  | device {d d' : δ} (h : ReflTransGen Device.PokedOnce d d') : Poked (.device d) (.device d')

/-- Bytes have been stored in the banked memories, and devices have been poked. -/
structure Board.Poked (δ : Type) [Device δ ω] (before after : Board ω) : Prop where
  floating : after.floating = before.floating
  overrides : after.overrides = before.overrides
  banked : ∀ memory : Nat,
    Option.Rel BankedMemory.Poked before.banked[memory]? after.banked[memory]?
  host : ReflTransGen (HostPoked δ before.toCommons) before.host after.host

/-- Bytes have been stored in the built-in firmware of an I/O page. -/
structure IoPage.Poked (before after : IoPage δ) : Prop where
  layout : after.layout = before.layout
  switches : after.switches = before.switches
  softSwitches : after.softSwitches = before.softSwitches
  builtinIo : after.builtinIo = before.builtinIo
  internalRom : Option.Rel Part.Poked before.internalRom after.internalRom

/-- Bytes have been stored in a target. -/
inductive Target.Poked : Target δ → Target δ → Prop where
  | part {p p' : Part δ} (h : Part.Poked p p') : Poked (.part p) (.part p')
  | page {p p' : IoPage δ} (h : IoPage.Poked p p') : Poked (.page p) (.page p')

/-- Bytes have been stored in a part of a card. -/
def Card.PokedOnce [Card γ δ ω] (before after : γ) : Prop :=
  ∃ region part part', Card.region region before = some part ∧ Part.Poked part part' ∧
    after = Card.setRegion region part' before

/-- Bytes have been stored behind a backplane, in cards too. Nobody has been told anything, and the
expansion window and the rack are held as before. -/
structure Backplane.Poked [Card γ δ ω] (before after : Backplane ω γ) : Prop where
  board : Board.Poked δ before.toBoard after.toBoard
  owner : after.rack.owner = before.rack.owner
  slots : ∀ slot, Option.Rel (ReflTransGen Card.PokedOnce) (before.rack.card? slot)
    (after.rack.card? slot)
  hold : after.hold = before.hold

/-- Bytes have been stored behind a bus; its counters and its observer may have changed. -/
structure Bus.Poked [Card γ δ ω] (before after : Bus ω δ γ) : Prop where
  config : after.config = before.config
  table : after.table = before.table
  targets : ∀ id, Option.Rel Target.Poked (before.target? id) (after.target? id)
  backplane : Backplane.Poked before.backplane after.backplane

/-- Looks have been noted with the host, and nothing else has changed but counters and observer. -/
structure Bus.Looked [Card γ δ ω] (before after : Bus ω δ γ) : Prop where
  same : after.unobserved =
    { before.unobserved with backplane.host := after.backplane.host }
  host : ReflTransGen (HostLooked δ before.backplane.toCommons) before.backplane.host
    after.backplane.host

/-! ## Pokes compose -/

/-- What a look makes of the host depends on the floating lines and the override switches alone. -/
theorem hostLooked_congr {shared shared' : Commons ω} (hfloating : shared'.floating = shared.floating)
    (hoverrides : shared'.overrides = shared.overrides) :
    HostLooked δ shared' = HostLooked δ shared := by
  unfold HostLooked
  rw [hfloating, hoverrides]

theorem hostPoked_congr {shared shared' : Commons ω} (hfloating : shared'.floating = shared.floating)
    (hoverrides : shared'.overrides = shared.overrides) :
    HostPoked δ shared' = HostPoked δ shared := by
  unfold HostPoked
  rw [hfloating, hoverrides]

namespace Part

theorem Poked.refl (p : Part δ) : Poked p p := by
  cases p with
  | ram store => exact .ram rfl
  | rom store => exact .rom rfl
  | bankSwitches memory => exact .bankSwitches memory
  | bankWindow memory => exact .bankWindow memory
  | device d => exact .device .refl

theorem Poked.trans {p p' p'' : Part δ} (h : Poked p p') (h' : Poked p' p'') : Poked p p'' := by
  cases h with
  | ram hsize =>
    cases h' with
    | ram hsize' => exact .ram (hsize'.trans hsize)
  | rom hsize =>
    cases h' with
    | rom hsize' => exact .rom (hsize'.trans hsize)
  | bankSwitches memory => exact h'
  | bankWindow memory => exact h'
  | device hpokes =>
    cases h' with
    | device hpokes' => exact .device (hpokes.trans hpokes')

end Part

theorem Board.Poked.refl (b : Board ω) : Board.Poked δ b b :=
  ⟨rfl, rfl, fun _ => Option.rel_of_refl .refl _, .refl⟩

/-- Pokes one after another are pokes: the switches and the lines stay for the second ones to see. -/
theorem Board.Poked.trans {b b' b'' : Board ω} (h : Board.Poked δ b b') (h' : Board.Poked δ b' b'') :
    Board.Poked δ b b'' := by
  refine ⟨h'.floating.trans h.floating, h'.overrides.trans h.overrides,
    fun memory => Option.rel_trans .trans (h.banked memory) (h'.banked memory), h.host.trans ?_⟩
  -- the later pokes see the lines and switches that the first ones have left as they were
  rw [← hostPoked_congr h.floating h.overrides]
  exact h'.host

theorem IoPage.Poked.refl (p : IoPage δ) : IoPage.Poked p p :=
  ⟨rfl, rfl, rfl, rfl, Option.rel_of_refl .refl _⟩

theorem IoPage.Poked.trans {p p' p'' : IoPage δ} (h : IoPage.Poked p p') (h' : IoPage.Poked p' p'') :
    IoPage.Poked p p'' :=
  ⟨h'.layout.trans h.layout, h'.switches.trans h.switches, h'.softSwitches.trans h.softSwitches,
    h'.builtinIo.trans h.builtinIo, Option.rel_trans .trans h.internalRom h'.internalRom⟩

theorem Target.Poked.refl (t : Target δ) : Target.Poked t t := by
  cases t with
  | part p => exact .part (.refl p)
  | page p => exact .page (.refl p)

theorem Target.Poked.trans {t t' t'' : Target δ} (h : Target.Poked t t') (h' : Target.Poked t' t'') :
    Target.Poked t t'' := by
  cases h with
  | part hpart =>
    cases h' with
    | part hpart' => exact .part (hpart.trans hpart')
  | page hpage =>
    cases h' with
    | page hpage' => exact .page (hpage.trans hpage')

section Cards

variable [Card γ δ ω]

theorem Backplane.Poked.refl (b : Backplane ω γ) : Backplane.Poked b b :=
  ⟨.refl _, rfl, fun _ => Option.rel_of_refl (fun _ => .refl) _, rfl⟩

theorem Backplane.Poked.trans {b b' b'' : Backplane ω γ} (h : Backplane.Poked b b')
    (h' : Backplane.Poked b' b'') : Backplane.Poked b b'' :=
  ⟨h.board.trans h'.board, h'.owner.trans h.owner,
    fun slot => Option.rel_trans .trans (h.slots slot) (h'.slots slot), h'.hold.trans h.hold⟩

theorem Bus.Poked.refl (bus : Bus ω δ γ) : Bus.Poked bus bus :=
  ⟨rfl, rfl, fun _ => Option.rel_of_refl .refl _, .refl _⟩

/-- Pokes of a bus compose, as those of its targets and of its backplane do. -/
theorem Bus.Poked.trans {bus bus' bus'' : Bus ω δ γ} (h : Bus.Poked bus bus')
    (h' : Bus.Poked bus' bus'') : Bus.Poked bus bus'' :=
  ⟨h'.config.trans h.config, h'.table.trans h.table,
    fun id => Option.rel_trans .trans (h.targets id) (h'.targets id),
    h.backplane.trans h'.backplane⟩

end Cards

/-! ## One poke -/

/-- A poke of a part stores in the part and behind the board. -/
theorem Part.poked_poke (offset : UInt32) (value : UInt8) (p : Part δ) (b : Board ω) :
    Part.Poked p (p.poke offset value b).2.1 ∧ Board.Poked δ b (p.poke offset value b).2.2 := by
  cases p with
  | ram store => exact ⟨.ram (store.size_poke offset value), .refl b⟩
  | rom store => exact ⟨.rom (store.size_poke offset value), .refl b⟩
  | bankSwitches memory => exact ⟨.bankSwitches memory, .refl b⟩
  | bankWindow memory =>
    unfold Part.poke
    dsimp only
    cases hmemory : b.banked[memory]? with
    | none => exact ⟨.bankWindow memory, .refl b⟩
    | some m =>
      refine ⟨.bankWindow memory, rfl, rfl, ?_, .refl⟩
      intro other
      dsimp only [Board.setBanked]
      -- the memory behind the window, and no other, has been poked
      by_cases hother : memory = other
      · subst hother
        obtain ⟨hsize, -⟩ := Array.getElem?_eq_some_iff.1 hmemory
        rw [hmemory, Array.getElem?_setIfInBounds_self_of_lt hsize]
        exact .some (m.poked_poke offset value)
      · rw [Array.getElem?_setIfInBounds_ne hother]
        exact Option.rel_of_refl .refl _
  | device d =>
    exact ⟨.device (.single ⟨offset, value, b.toCommons, rfl⟩),
      ⟨rfl, rfl, fun _ => Option.rel_of_refl .refl _, .single ⟨offset, value, d, rfl⟩⟩⟩

variable [Card γ δ ω]

namespace IoPage

/-- Putting a poked part back into a card is a poke of the card, and of no other card. -/
theorem poked_replaceAt_card {p : IoPage δ} {b : Backplane ω γ} {slot : UInt8} {region : CardRegion}
    {relative : UInt32} {part part' : Part δ} {board : Board ω}
    (hpart : p.partAt? b (.card slot region relative) = some part) (hpoke : Part.Poked part part')
    (hboard : Board.Poked δ b.toBoard board) :
    IoPage.Poked p (p.replaceAt b (.card slot region relative) part' board).1 ∧
      Backplane.Poked b (p.replaceAt b (.card slot region relative) part' board).2 := by
  obtain ⟨card, hcard, hregion⟩ := Option.bind_eq_some_iff.1 hpart
  unfold replaceAt
  dsimp only
  rw [hcard]
  refine ⟨.refl p, hboard, Rack.owner_setCard _ _ _, ?_, rfl⟩
  intro other
  dsimp only
  -- the card in the slot has another part now, and the other slots have what they had
  by_cases hslot : other = slot
  · subst hslot
    obtain ⟨i, hindex⟩ := Rack.exists_index_of_card? (by rw [hcard]; rfl)
    rw [hcard, Rack.card?_setCard_self hindex]
    exact .some (.single ⟨region, part, part', hregion, hpoke, rfl⟩)
  · rw [Rack.card?_setCard_of_ne hslot]
    exact Option.rel_of_refl (fun _ => .refl) _

/-- A poke that reaches a card of the page pokes one of its parts. -/
theorem poked_pokeCard (offset : UInt32) (value : UInt8) (p : IoPage δ) (b : Backplane ω γ) :
    IoPage.Poked p (p.pokeCard offset value b).2.1 ∧
      Backplane.Poked b (p.pokeCard offset value b).2.2 := by
  -- the poke finds no part, or it is put back where it was found
  rcases p.snd_pokeCard b offset value with hself | ⟨slot, region, relative, part, -, hpart, hpoke⟩
  · rw [hself]
    exact ⟨.refl p, .refl b⟩
  · obtain ⟨hstored, hboard⟩ := part.poked_poke relative value b.toBoard
    rw [hpoke]
    exact poked_replaceAt_card hpart hstored hboard

theorem poked_poke (offset : UInt32) (value : UInt8) (p : IoPage δ) (b : Backplane ω γ) :
    IoPage.Poked p (p.poke offset value b).2.1 ∧ Backplane.Poked b (p.poke offset value b).2.2 := by
  unfold poke
  split
  · next relative part _ hrom =>
    obtain ⟨hstored, hboard⟩ := part.poked_poke relative value b.toBoard
    refine ⟨⟨rfl, rfl, rfl, rfl, ?_⟩, hboard, rfl, fun _ => Option.rel_of_refl (fun _ => .refl) _, rfl⟩
    rw [hrom]
    exact .some hstored
  · exact ⟨.refl p, .refl b⟩
  · exact ⟨.refl p, .refl b⟩
  · exact p.poked_pokeCard offset value b

end IoPage

/-- A poke of a target stores in the target and behind the backplane. -/
theorem Target.poked_poke (offset : UInt32) (value : UInt8) (t : Target δ) (b : Backplane ω γ) :
    Target.Poked t (t.poke offset value b).2.1 ∧ Backplane.Poked b (t.poke offset value b).2.2 := by
  cases t with
  | part p =>
    obtain ⟨hstored, hboard⟩ := p.poked_poke offset value b.toBoard
    exact ⟨.part hstored, hboard, rfl, fun _ => Option.rel_of_refl (fun _ => .refl) _, rfl⟩
  | page p =>
    obtain ⟨hstored, hplane⟩ := p.poked_poke offset value b
    exact ⟨.page hstored, hplane⟩

namespace Bus

/-- What every target makes a poke, the bus makes a poke. -/
theorem poked_onTarget {α : Type} (id : TargetId) (missing : α) (bus : Bus ω δ γ)
    {f : Target δ → Backplane ω γ → α × Target δ × Backplane ω γ}
    (hf : ∀ t b, Target.Poked t (f t b).2.1 ∧ Backplane.Poked b (f t b).2.2) :
    Bus.Poked bus (bus.onTarget id missing f).2 := by
  have hrouting := bus.routing_onTarget id missing f
  have hconfig : (bus.onTarget id missing f).2.config = bus.config := congrArg Routing.config hrouting
  have htable : (bus.onTarget id missing f).2.table = bus.table := congrArg Routing.table hrouting
  refine ⟨hconfig, htable, ?_, ?_⟩
  · intro other
    rw [target?_onTarget]
    split_ifs with hid
    · -- only the target asked has changed
      cases bus.target? other with
      | none => exact .none
      | some t => exact .some (hf t bus.backplane).1
    · exact Option.rel_of_refl .refl _
  · rw [backplane_onTarget]
    cases bus.target? id with
    | none => exact .refl _
    | some t => exact (hf t bus.backplane).2

theorem poked_answer (id : TargetId) (offset : UInt32) (value : UInt8) (bus : Bus ω δ γ) :
    Bus.Poked bus (answer (.poke id offset value) bus).2 :=
  bus.poked_onTarget id false fun t b => t.poked_poke offset value b

end Bus

/-! ## One look -/

omit [Card γ δ ω] in
/-- A look at a part is at most one look at a device. -/
theorem Part.looked_peek (offset : UInt32) (p : Part δ) (b : Board ω) :
    ReflTransGen (HostLooked δ b.toCommons) b.host (p.peek offset b).2 := by
  cases p with
  | device d => exact .single ⟨offset, d, rfl⟩
  | _ => exact .refl

/-- A look at a card is at most one look at a part of it. -/
theorem IoPage.looked_lookAtCard (offset : UInt32) (p : IoPage δ) (b : Backplane ω γ) :
    ReflTransGen (HostLooked δ b.toCommons) b.host (p.lookAtCard offset b).2 := by
  -- the look ends at a held rack, at an empty place, or at a part of the card
  unfold lookAtCard
  split_ifs
  · exact .refl
  · split
    · exact .refl
    · next slot region relative _ =>
      cases (b.rack.card? slot).bind (Card.lookRegion region) with
      | none => exact .refl
      | some part => exact part.looked_peek relative b.toBoard

/-- A look at a page is at most one look at a part. -/
theorem IoPage.looked_peek (offset : UInt32) (p : IoPage δ) (b : Backplane ω γ) :
    ReflTransGen (HostLooked δ b.toCommons) b.host (p.peek offset b).2 := by
  unfold peek
  split
  · exact p.looked_lookAtCard offset b
  · next own relative _ =>
    cases p.own? own with
    | none => exact p.looked_lookAtCard offset b
    | some part => exact part.looked_peek relative b.toBoard

/-- The backplane after a look is as before but for the host. -/
theorem Target.looked_peek (offset : UInt32) (t : Target δ) (b : Backplane ω γ) :
    (t.peek offset b).2 = { b with host := (t.peek offset b).2.host } ∧
      ReflTransGen (HostLooked δ b.toCommons) b.host (t.peek offset b).2.host := by
  cases t with
  | part p => exact ⟨rfl, p.looked_peek offset b.toBoard⟩
  | page p => exact ⟨rfl, p.looked_peek offset b⟩

namespace Bus

theorem Looked.refl (bus : Bus ω δ γ) : Looked bus bus :=
  ⟨rfl, .refl⟩

/-- Looks one after another are looks. -/
theorem Looked.trans {bus bus' bus'' : Bus ω δ γ} (h : Looked bus bus') (h' : Looked bus' bus'') :
    Looked bus bus'' := by
  -- the later looks see the lines and switches that the first ones have left as they were
  have hcommons : bus'.backplane.toCommons =
      { bus.backplane.toCommons with host := bus'.backplane.host } :=
    congrArg (fun bus : Bus ω δ γ => bus.backplane.toCommons) h.same
  have hlater := h'.host
  rw [hostLooked_congr (congrArg Commons.floating hcommons) (congrArg Commons.overrides hcommons)]
    at hlater
  refine ⟨?_, h.host.trans hlater⟩
  rw [h'.same, h.same]

/-- One look that is asked of a bus. -/
theorem looked_answer_peek (id : TargetId) (offset : UInt32) (bus : Bus ω δ γ) :
    Looked bus (answer (.peek id offset) bus).2 := by
  have hanswer : (answer (.peek id offset) bus).2 = (bus.onTarget id none fun t b =>
      ((t.peek offset b).1, t, (t.peek offset b).2)).2 := rfl
  rw [hanswer]
  unfold onTarget onTarget?
  cases htarget : bus.target? id with
  | none => exact .refl bus
  | some t =>
    obtain ⟨hplane, hhost⟩ := t.looked_peek offset bus.backplane
    refine ⟨?_, hhost⟩
    -- the target is stored back where it was
    have hback : bus.targets.setIfInBounds id.index t = bus.targets := by
      obtain ⟨hsize, ht⟩ := Array.getElem?_eq_some_iff.1 htarget
      rw [Array.setIfInBounds, dif_pos hsize, ← ht, Array.set_getElem_self]
    dsimp only [Option.map_some, Option.getD_some, unobserved]
    rw [hback, hplane]
    rfl

/-! ## Runs -/

/-- All requests of a silent read are looks, and so the run of them is. -/
theorem looked_run {α : Type} {r : Requests α} {a : Access} (hr : r.All (Request.Suits a))
    (hsilent : a.sideEffectsAllowed = false) (hread : a.intent.isWrite = false) (bus : Bus ω δ γ) :
    Looked bus (r.run answer bus).2 := by
  apply Requests.run_keeps_of_all hr (I := fun after : Bus ω δ γ => Looked bus after) _ (.refl bus)
  intro request sofar hsuits hlooked
  rcases hsuits.of_silentRead hsilent hread with ⟨id, offset, rfl⟩ | ⟨address, rfl⟩
  · exact hlooked.trans (sofar.looked_answer_peek id offset)
  · exact hlooked.trans ⟨rfl, .refl⟩

/-- All requests of a silent write are pokes, and so the run of them is. -/
theorem poked_run {α : Type} {r : Requests α} {a : Access} (hr : r.All (Request.Suits a))
    (hsilent : a.sideEffectsAllowed = false) (hwrite : a.intent.isWrite = true) (bus : Bus ω δ γ) :
    Poked bus (r.run answer bus).2 := by
  apply Requests.run_keeps_of_all hr (I := fun after : Bus ω δ γ => Poked bus after) _ (.refl bus)
  intro request sofar hsuits hpoked
  obtain ⟨id, offset, value, rfl⟩ := hsuits.of_silentWrite hsilent hwrite
  exact hpoked.trans (sofar.poked_answer id offset value)

/-- Counting and reporting add nothing to what has changed. -/
theorem Looked.observe {bus after : Bus ω δ γ} (h : Looked bus after) (a : Access)
    (result : Except Fault Completed) : Looked bus (after.observe a result) := by
  have hobserve : Looked after (after.observe a result) := by
    cases result <;> exact ⟨rfl, .refl⟩
  exact h.trans hobserve

theorem Poked.observe {bus after : Bus ω δ γ} (h : Poked bus after) (a : Access)
    (result : Except Fault Completed) : Poked bus (after.observe a result) := by
  have hobserve : Poked after (after.observe a result) := by
    cases result <;>
      exact ⟨rfl, rfl, fun _ => Option.rel_of_refl .refl _,
        .refl _, rfl, fun _ => Option.rel_of_refl (fun _ => .refl) _, rfl⟩
  exact h.trans hobserve

end Bus

end Devices

/-! ## What silent accesses cost -/

namespace Routing

variable {r : Routing} {a : Access}

/-- Whatever looks show, a silent access that completes has cost no cycles. -/
theorem silentFrom_ends (r : Routing) (a : Access) (lanes : List Nat) (value : UInt32) :
    (r.silentFrom a lanes value).Ends fun result =>
      ∀ c, result = .ok c → c.cycles = 0 ∧ c.decomposed = (a.width != .byte) := by
  -- along the lanes that are left, with any value read so far
  induction lanes generalizing value with
  | nil =>
    rintro c ⟨⟩
    exact ⟨rfl, rfl⟩
  | cons i lanes ih =>
    unfold silentFrom
    dsimp only
    cases r.table.entryFor? (r.lane a i).address with
    | none => exact fun c h => by cases h
    | some entry =>
      dsimp only
      -- whatever a look shows and a poke stores, the lanes that are left cost nothing
      split
      · split
        · split
          · exact fun _ => ih value
          · exact ih value
        · cases entry.capabilities.peek with
          | false => exact fun _ => ih _
          | true =>
            rintro (_ | byte)
            · exact fun _ => ih _
            · exact ih _
      · exact fun c h => by cases h

/-- A silent access costs nothing, and a wide one goes byte by byte. -/
theorem checked_ends_completed_of_silent (h : a.sideEffectsAllowed = false) :
    (r.checked a).Ends fun result =>
      ∀ c, result = .ok c → c.cycles = 0 ∧ c.decomposed = (a.width != .byte) := by
  have hwidth := r.normalize_width a
  rw [checked_of_silent h, ← hwidth]
  unfold silent
  -- a quiet access has its lanes checked first, and may be refused before any of them
  split_ifs
  · cases r.checkLanesFrom (r.normalize a) (r.normalize a).laneNumbers with
    | error fault => exact fun c h => by cases h
    | ok _ => exact r.silentFrom_ends _ _ _
  · exact r.silentFrom_ends _ _ _

theorem checked_ends_of_silent (h : a.sideEffectsAllowed = false) :
    (r.checked a).Ends fun result => ∀ c, result = .ok c → c.cycles = 0 :=
  (checked_ends_completed_of_silent h).mono fun _ hcompleted c hc => (hcompleted c hc).1

end Routing

/-! ## Other devices and cards -/

/-- Two ways to answer that agree on the requests made lead to the same run. -/
theorem Requests.run_congr_of_all {α σ : Type} {answer answer' : Answerer σ} {P : Request → Prop}
    {r : Requests α} (hr : r.All P)
    (h : ∀ request s, P request → answer request s = answer' request s) (s : σ) :
    r.run answer s = r.run answer' s := by
  -- along the requests, each of which is answered alike
  induction r generalizing s with
  | done a => rfl
  | ask request next ih =>
    rw [run_ask, run_ask, h request s hr.1]
    exact ih _ (hr.2 _) _

/-- Two ways for devices to behave that take looks and pokes alike. Their device cycles and resets may
differ. -/
structure Device.LooksLike {δ ω : Type} (d d' : Device δ ω) : Prop where
  peek : d.peek = d'.peek
  poke : d.poke = d'.poke

/-- Two ways for cards to behave that have the same parts. What they do when they are told something may
differ. -/
structure Card.LooksLike {γ δ ω : Type} (c c' : Card γ δ ω) : Prop where
  region : c.region = c'.region
  setRegion : c.setRegion = c'.setRegion
  lookRegion : c.lookRegion = c'.lookRegion

section Exchanged

variable {ω γ δ : Type} {d d' : Device δ ω} {c c' : Card γ δ ω}

/-- Parts show the same to a look if devices do. -/
theorem Part.peek_congr (hd : d.LooksLike d') : @Part.peek δ ω d = @Part.peek δ ω d' := by
  funext offset p b
  cases p with
  | device state => exact congrFun (congrFun (congrFun hd.peek offset) state) b.toCommons
  | _ => rfl

/-- The parts of a page take the same pokes if devices do. -/
theorem Part.poke_congr (hd : d.LooksLike d') : @Part.poke δ ω d = @Part.poke δ ω d' := by
  funext offset value p b
  cases p with
  | device state =>
    have hpoke : d.poke offset value state b.toCommons = d'.poke offset value state b.toCommons := by
      rw [hd.poke]
    unfold Part.poke
    dsimp only
    rw [hpoke]
  | _ => rfl

/-- A page is looked at in the same way if devices and cards are. -/
theorem IoPage.peek_congr (hd : d.LooksLike d') (hc : c.LooksLike c') :
    @IoPage.peek δ ω γ c d = @IoPage.peek δ ω γ c' d' := by
  funext offset p b
  unfold IoPage.peek IoPage.lookAtCard
  rw [Part.peek_congr hd, hc.lookRegion]

theorem IoPage.poke_congr (hd : d.LooksLike d') (hc : c.LooksLike c') :
    @IoPage.poke δ ω γ c d = @IoPage.poke δ ω γ c' d' := by
  funext offset value p b
  unfold IoPage.poke IoPage.pokeCard Backplane.onRegion?
  rw [Part.poke_congr hd, hc.region, hc.setRegion]

/-- A bus answers the requests of a silent access in the same way. -/
theorem Bus.answer_congr (hd : d.LooksLike d') (hc : c.LooksLike c') {request : Request} {a : Access}
    (hsuits : request.Suits a) (hsilent : a.sideEffectsAllowed = false) (bus : Bus ω δ γ) :
    @Bus.answer ω δ γ d c request bus = @Bus.answer ω δ γ d' c' request bus := by
  -- cycles do not suit a silent access, so that looks, pokes and the floating lines are left
  cases request with
  | peek id offset =>
    unfold Bus.answer Target.peek
    rw [Part.peek_congr hd, IoPage.peek_congr hd hc]
  | poke id offset value =>
    unfold Bus.answer Target.poke
    rw [Part.poke_congr hd, IoPage.poke_congr hd hc]
  | floating address => rfl
  | read id width offset access => exact absurd (hsilent.symm.trans hsuits.1) Bool.false_ne_true
  | write id width offset value access =>
    exact absurd (hsilent.symm.trans hsuits.1) Bool.false_ne_true

/-- A silent access goes the same way as long as devices are looked at and poked alike, whatever their
cycles, resets and news would do. -/
theorem Bus.access_congr (hd : d.LooksLike d') (hc : c.LooksLike c') {a : Access}
    (hsilent : a.sideEffectsAllowed = false) (bus : Bus ω δ γ) :
    @Bus.access ω δ γ d c bus a = @Bus.access ω δ γ d' c' bus a := by
  have hrun := Requests.run_congr_of_all (bus.routing.checked_suits a)
    (fun request sofar hsuits => Bus.answer_congr hd hc hsuits hsilent sofar) bus
  unfold Bus.access
  dsimp only
  rw [hrun]

end Exchanged

/-! ## Accesses of the processor -/

/-- Accesses of the debugger and quiet ones are the silent ones. -/
theorem Access.sideEffectsAllowed_of_silent {a : Access}
    (h : a.intent.isDebug = true ∨ a.flags.quiet = true) : a.sideEffectsAllowed = false := by
  unfold sideEffectsAllowed
  rcases h with hdebug | hquiet
  · rw [hdebug, Bool.not_true, Bool.false_and]
  · rw [hquiet, Bool.not_true, Bool.and_false]

namespace Machine

variable {ω δ γ : Type} [device : Device δ ω] [card : Card γ δ ω] {m : Machine ω δ γ} {a : Access}

/-- A silent access meets no trap: the processor's access is that of the bus. -/
theorem cpuAccess_of_silent (h : a.sideEffectsAllowed = false) :
    m.cpuAccess a = ((m.bus.access a).1, { m with bus := (m.bus.access a).2 }) := by
  have hpast : m.traps.dispatch (m.bus.maskAddress a) m.trapContext = (none, m.trapContext) := by
    unfold TrapTable.dispatch
    have hmasked : (m.bus.maskAddress a).sideEffectsAllowed = false := h
    rw [hmasked, if_neg Bool.false_ne_true]
  unfold cpuAccess
  split_ifs
  · -- there are no traps at all
    rfl
  · -- the table lets the access pass without asking a trap
    dsimp only
    rw [hpast]
    dsimp only [trapContext]
    rw [Bus.access_maskAddress]

/-- The access is inert. -/
structure Inert (m : Machine ω δ γ) (a : Access) : Prop where
  /-- The scheduler, the lines, the traps, the handlers and the window are as before. -/
  others : (m.cpuAccess a).2 = { m with bus := (m.cpuAccess a).2.bus }
  /-- No trap is run: the access goes the same way whatever the traps are. -/
  untrapped : ∀ traps, ({ m with traps := traps } : Machine ω δ γ).cpuAccess a =
    ((m.cpuAccess a).1, { (m.cpuAccess a).2 with traps := traps })
  /-- No device cycle is run and no card is told anything: the access goes the same way whatever devices
  and cards would make of that. -/
  unnoticed : ∀ (d : Device δ ω) (c : Card γ δ ω), d.LooksLike device → c.LooksLike card →
    @cpuAccess ω δ γ d c m a = @cpuAccess ω δ γ device card m a
  /-- It costs nothing. -/
  free : ∀ o, (m.cpuAccess a).1 = .ok o → o.cycles = 0
  /-- A read changes the counters and the observer, and the host as far as devices note looks there. -/
  read : a.intent.isWrite = false → Bus.Looked m.bus (m.cpuAccess a).2.bus
  /-- A write stores bytes by poking, and changes the counters and the observer. -/
  write : a.intent.isWrite = true → Bus.Poked m.bus (m.cpuAccess a).2.bus

/-- Every access of the debugger and every quiet access is inert, in every machine. -/
theorem inert_cpuAccess (m : Machine ω δ γ) (h : a.intent.isDebug = true ∨ a.flags.quiet = true) :
    m.Inert a := by
  have hsilent := Access.sideEffectsAllowed_of_silent h
  have hcpu : ∀ m : Machine ω δ γ,
      m.cpuAccess a = ((m.bus.access a).1, { m with bus := (m.bus.access a).2 }) :=
    fun _ => cpuAccess_of_silent hsilent
  have hsuits := m.bus.routing.checked_suits a
  constructor
  case others => rw [hcpu]
  case untrapped =>
    intro traps
    rw [hcpu, hcpu]
  case unnoticed =>
    intro d c hd hc
    have hother := @cpuAccess_of_silent ω δ γ d c m a hsilent
    rw [hother, Bus.access_congr hd hc hsilent]
    exact (hcpu m).symm
  case free =>
    intro o ho
    rw [hcpu] at ho
    -- what completes has the cycles that its run ends with
    have hfree := Requests.run_of_ends (Routing.checked_ends_of_silent (r := m.bus.routing) hsilent)
      Bus.answer m.bus
    obtain ⟨c, hc, rfl⟩ : ∃ c, ((m.bus.routing.checked a).run Bus.answer m.bus).1 = .ok c ∧
        c.outcome = o := by
      dsimp only [Bus.access] at ho
      cases hrun : ((m.bus.routing.checked a).run Bus.answer m.bus).1 with
      | error fault =>
        rw [hrun] at ho
        cases ho
      | ok c =>
        rw [hrun] at ho
        exact ⟨c, rfl, Except.ok.inj ho⟩
    exact hfree c hc
  case read =>
    intro hread
    rw [hcpu]
    exact (Bus.looked_run hsuits hsilent hread m.bus).observe _ _
  case write =>
    intro hwrite
    rw [hcpu]
    exact (Bus.poked_run hsuits hsilent hwrite m.bus).observe _ _

/-- A quiet word at the trap and the sentinel: the trap is not run, and the card keeps the window. -/
theorem inert_cpuAccess_atTheSentinel :
    let a : Access := { overTheSentinel with flags := { quiet := true } }
    a.flags.quiet = true ∧ (atTheSentinel.cpuAccess a).1 = .ok ⟨0xFFFF, 0⟩ ∧
      (atTheSentinel.cpuAccess a).2.bus.owner = some 6 := by
  intro a
  obtain ⟨-, -, -, -, hread, -⟩ := inert_cpuAccess (a := a) atTheSentinel (.inr rfl)
  have hsame := (hread rfl).same
  refine ⟨rfl, by decide +kernel, ?_⟩
  exact congrArg Bus.owner hsame

end Machine

end Motherboard
