import Motherboard.Proofs.Decoders
import Motherboard.Proofs.InstalledPage
import Motherboard.Proofs.Replies
import Motherboard.Proofs.ResetCalls

/-!
# What a reset restores

A reset of a machine goes through the cards, the targets, the counters, the lines and the scheduler.
`Machine.reset_eq` says what is there afterwards, part by part. Devices and cards reset themselves, so
`PowerOn` says of them what is assumed: there is a state at power-on, with the bytes that the device
stores, and their own resets restore it.
-/

namespace Motherboard

/-- What devices and cards are at power-on, with the bytes that they store. Their own resets restore it,
and having lost the expansion window before makes no difference to a card. -/
structure PowerOn (ω δ γ : Type) [Device δ ω] [Card γ δ ω] where
  /-- The device at power-on. -/
  device : δ → δ
  /-- The card at power-on. -/
  card : γ → γ
  /-- A device resets itself. Of what devices hold in common it changes the host at most. -/
  resetDevice : ∀ d (commons : Commons ω), ∃ host,
    Device.reset d commons = (device d, { commons with host := host })
  /-- A card resets itself. -/
  fst_resetCard : ∀ c host, (Card.reset c host).1 = card c
  /-- A card without the expansion window is the same at power-on. -/
  card_deselected : ∀ c host, card (Card.deselected c host).1 = card c

namespace PowerOn

variable {ω δ γ : Type} [Device δ ω] [Card γ δ ω] (on : PowerOn ω δ γ)

/-- The part at power-on, with the bytes that it stores. -/
def part : Part δ → Part δ
  | .device d => .device (on.device d)
  | p => p

/-- The page with all own parts at power-on. -/
def page (p : IoPage δ) : IoPage δ :=
  { p with
    softSwitches := p.softSwitches.map on.part
    builtinIo := p.builtinIo.map on.part
    internalRom := p.internalRom.map on.part }

/-- The target at power-on, with the bytes that it stores. -/
def target : Target δ → Target δ
  | .part p => .part (on.part p)
  | .page p => .page (on.page p)

/-- A reset puts a part at power-on and may change the host. -/
theorem exists_resetPart (p : Part δ) (commons : Commons ω) :
    ∃ host, p.resetSelf commons = (on.part p, { commons with host := host }) := by
  cases p with
  | device d =>
    obtain ⟨host, hreset⟩ := on.resetDevice d commons
    dsimp only [Part.resetSelf, part]
    rw [hreset]
    exact ⟨host, rfl⟩
  | _ => exact ⟨commons.host, rfl⟩

theorem exists_ifThere_resetPart (part : Option (Part δ)) (commons : Commons ω) :
    ∃ host, ifThere Part.resetSelf part commons = (part.map on.part, { commons with host := host }) := by
  cases part with
  | none => exact ⟨commons.host, rfl⟩
  | some p =>
    obtain ⟨host, hreset⟩ := on.exists_resetPart p commons
    dsimp only [ifThere]
    rw [hreset]
    exact ⟨host, rfl⟩

/-- A target that is called is at power-on. Nobody but an I/O page, which clears its own, reaches the
override switches. -/
theorem exists_resetTarget (t : Target δ) (commons : Commons ω) :
    ∃ host, t.resetSelf commons = (on.target t, { commons with
      overrides := renewAt (fun _ => {}) t.switches commons.overrides
      host := host }) := by
  cases t with
  | part p =>
    obtain ⟨host, hreset⟩ := on.exists_resetPart p commons
    dsimp only [Target.resetSelf, target, Target.switches]
    rw [hreset, renewAt_nil]
    exact ⟨host, rfl⟩
  | page p =>
    -- the page clears its switches, and then resets its parts one after another, each with the host that
    -- the one before has left
    obtain ⟨host, hsoft⟩ :=
      on.exists_ifThere_resetPart p.softSwitches (commons.clearOverrides p.switches)
    obtain ⟨host', hbuiltin⟩ := on.exists_ifThere_resetPart p.builtinIo
      { commons.clearOverrides p.switches with host := host }
    obtain ⟨host'', hinternal⟩ := on.exists_ifThere_resetPart p.internalRom
      { commons.clearOverrides p.switches with host := host' }
    dsimp only [Target.resetSelf, IoPage.resetSelf, target, page, Target.switches]
    rw [hsoft, hbuiltin, hinternal, ← modify_eq_renewAt]
    exact ⟨host'', rfl⟩

/-- All targets in turn: each at power-on, and the switches of every I/O page cleared. -/
theorem exists_resetTargets (targets : List (Target δ)) (commons : Commons ω) :
    ∃ host, inTurn Target.resetSelf targets commons = (targets.map on.target, { commons with
      overrides := renewAt (fun _ => {}) (targets.flatMap Target.switches) commons.overrides
      host := host }) := by
  induction targets generalizing commons with
  | nil =>
    rw [List.flatMap_nil, renewAt_nil]
    exact ⟨commons.host, rfl⟩
  | cons t targets ih =>
    obtain ⟨host, hfirst⟩ := on.exists_resetTarget t commons
    obtain ⟨host', hlater⟩ := ih { commons with
      overrides := renewAt (fun _ => {}) t.switches commons.overrides
      host := host }
    have hclear : ∀ o : RomOverrides, (fun _ : RomOverrides => ({} : RomOverrides)) o = {} := fun _ => rfl
    -- clearing the switches of the first and of the others clears those of all
    rw [inTurn_cons, hfirst, hlater, List.flatMap_cons,
      ← renewAt_renewAt (f := fun _ : RomOverrides => {}) hclear]
    exact ⟨host', rfl⟩

/-- Cards that have been called are at power-on, and so is one that has heard before that the window is
lost. -/
theorem fst_resetCards (b : Backplane ω γ) (hslots : b.rack.cards.size ≤ 255) (host : ω) :
    (inTurn (ifThere Card.reset) b.releaseWindow.rack.cards.toList host).1.toArray =
      b.rack.cards.map (Option.map on.card) := by
  have hthere : ∀ (card : Option γ) (host : ω), (ifThere Card.reset card host).1 = card.map on.card :=
    fst_ifThere on.fst_resetCard
  have hsize := b.size_releaseWindow
  have hslot : ∀ slot, (b.releaseWindow.rack.card? slot).map on.card = (b.rack.card? slot).map on.card := by
    intro slot
    unfold Backplane.releaseWindow
    cases b.rack.owner with
    | none => rfl
    | some owner =>
      dsimp only
      rw [Backplane.card?_changeOwner, Backplane.card?_tell]
      split_ifs with howner
      · -- the owner hears that it loses the window before it is reset
        subst howner
        rw [Option.map_map]
        congr 1
        exact funext fun card => on.card_deselected card b.host
      · rfl
  have hcards : b.releaseWindow.rack.cards.map (Option.map on.card) =
      b.rack.cards.map (Option.map on.card) := by
    let before : Rack γ := { cards := b.rack.cards.map (Option.map on.card) }
    let after : Rack γ := { cards := b.releaseWindow.rack.cards.map (Option.map on.card) }
    refine @Rack.cards_eq_of_card? γ before after ?_ ?_ ?_
    · rwa [Array.size_map]
    · rw [Array.size_map, Array.size_map, hsize]
    · intro slot
      rw [Rack.card?_map, Rack.card?_map, hslot]
  rw [fst_inTurn hthere, ← hcards, ← Array.toList_map]

end PowerOn

/-! ## The machine -/

namespace Machine

variable {ω δ γ : Type} [Device δ ω] [Card γ δ ω]

/-- What there is after a reset, but for the host and the observer. The mode of the processor and the
floating lines are not among what has changed. -/
theorem reset_eq (on : PowerOn ω δ γ) {m : Machine ω δ γ} (hfree : m.rackIsFree = true)
    (hslots : m.bus.backplane.rack.cards.size ≤ 255) :
    ∃ host trace, m.reset = (.ok (), { m with
      bus := { m.bus with
        targets := m.bus.targets.map on.target
        diagnostics := .zero
        backplane := { m.bus.backplane with
          overrides := renewAt (fun _ => {}) m.bus.switches m.bus.backplane.overrides
          banked := renewAt BankedMemory.reset m.bus.memories m.bus.backplane.banked
          rack := { cards := m.bus.backplane.rack.cards.map (Option.map on.card) }
          host := host
          trace := trace } }
      scheduler := m.scheduler.reset
      signals := {} }) := by
  have hreset := reset_inTurn hfree hslots
  dsimp only at hreset
  obtain ⟨host, htargets⟩ := on.exists_resetTargets m.bus.targets.toList _
  rw [on.fst_resetCards _ hslots, htargets, ← Array.toList_map] at hreset
  -- to release the window leaves the board alone
  obtain ⟨hfloating, hoverrides, hbanked, hhold⟩ := m.bus.backplane.keepsBoard_releaseWindow
  dsimp only [Backplane.renewed] at hreset
  rw [hfloating, hoverrides, hbanked, hhold] at hreset
  exact ⟨_, _, hreset⟩

end Machine

end Motherboard
