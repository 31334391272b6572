import Motherboard.Bench.Instrument
import Motherboard.Machine
import Motherboard.Proofs.BusRun
import Motherboard.Proofs.Selection

/-!
# Traps that replay the selection

A trap that answers an access keeps it from the bus, and with it the byte cycles that would have moved
the owner of the expansion window. The trap table then replays one touch, that of the first address of
the access (`owner_cpuAccess`). For a byte access that the bus would have dispatched to the I/O page
this is all that the bus does. A wide access has a byte cycle per lane, and an access that the bus refuses
has none: what is replayed for them is what the bus would have done exactly when the one effect moves the
owner like the row of effects (`owner_cpuAccess_eq_iff`).
-/

namespace Motherboard

open SelectionEffect

variable {ω δ γ : Type} [Card γ δ ω]

/-! ## Replaying an address -/

/-- Replaying an address moves the window as its effect says. -/
theorem IoWindow.owner_touch (w : IoWindow) (address : UInt32) (b : Backplane ω γ) :
    (w.touch address b).2.rack.owner = (w.touch address b).1.apply b.rack.owner := by
  unfold touch
  cases w.offset? address with
  | none => rfl
  | some offset => exact b.owner_touch _ _ _

theorem TrapContext.owner_touch (c : TrapContext ω δ γ) (address : UInt32) :
    (c.touch address).2.bus.owner = (c.touch address).1.apply c.bus.owner := by
  unfold touch
  cases c.window with
  | none => rfl
  | some w =>
    dsimp only
    split_ifs
    · exact w.owner_touch address c.bus.backplane
    · rfl

/-! ## Byte accesses to an I/O page -/

namespace Bus

variable [Device δ ω] {bus : Bus ω δ γ} {a : Access}

/-- A byte access that nothing keeps from an I/O page has one effect, that of its offset. -/
theorem effects_of_byte {entry : PageEntry} {p : IoPage δ} (hbyte : a.width = .byte)
    (hnoticed : a.sideEffectsAllowed = true)
    (hresolves : bus.routing.resolve .checked (bus.routing.normalize a) = .ok entry)
    (hpage : bus.target? entry.target = some (.page p)) :
    bus.effects a = [IoPage.effectAt
      (bus.routing.deviceOffset entry (bus.routing.normalize a).address) (p, bus.backplane)] := by
  have hwidth : (bus.routing.normalize a).width = .byte :=
    (bus.routing.normalize_width a).trans hbyte
  rw [effects, Routing.checked_of_byte hnoticed hbyte, Requests.notes_map, Routing.byteCycle,
    hresolves]
  dsimp only
  rw [notes_dispatch hpage, hwidth]
  split_ifs <;> rfl

end Bus

/-! ## Answered accesses -/

namespace Machine

variable {m : Machine ω δ γ} {a : Access}

/-- What a trap makes of an access of the processor. -/
def trapped (m : Machine ω δ γ) (trap : Trap ω δ γ) (a : Access) : TrapOutcome × TrapContext ω δ γ :=
  trap (m.bus.maskAddress a) m.trapContext

/-- The processor's access meets the trap, which answers it and leaves the window to its owner; the
table replays selections. -/
structure AnsweredBy (m : Machine ω δ γ) (trap : Trap ω δ γ) (a : Access) : Prop where
  policy : m.traps.policy = .replaySelection
  noticed : a.sideEffectsAllowed = true
  meets : ∃ address, m.traps.find? (m.bus.maskAddress a) = some (address, trap)
  handles : ∃ value cycles, (m.trapped trap a).1 = .handled value cycles
  keeps : (m.trapped trap a).2.bus.owner = m.bus.owner

/-- What the trap table replays for an access that a trap has answered. -/
def replayed (m : Machine ω δ γ) (trap : Trap ω δ γ) (a : Access) : SelectionEffect :=
  ((m.trapped trap a).2.touch (m.bus.maskAddress a).address).1

/-- A trap that answers has its address replayed afterwards. -/
theorem dispatch_of_answeredBy {trap : Trap ω δ γ} (h : m.AnsweredBy trap a) :
    ∃ outcome, m.traps.dispatch (m.bus.maskAddress a) m.trapContext =
      (some outcome, ((m.trapped trap a).2.touch (m.bus.maskAddress a).address).2) := by
  obtain ⟨address, hmeets⟩ := h.meets
  obtain ⟨value, cycles, hhandles⟩ := h.handles
  have hnoticed : (m.bus.maskAddress a).sideEffectsAllowed = true := h.noticed
  unfold TrapTable.dispatch
  rw [if_pos hnoticed, hmeets]
  unfold trapped at hhandles ⊢
  rcases htrap : trap (m.bus.maskAddress a) m.trapContext with ⟨outcome, c⟩
  rw [htrap] at hhandles
  dsimp only at hhandles
  subst hhandles
  dsimp only
  -- the policy replays the first address after the handler has answered
  rw [h.policy, htrap]
  exact ⟨_, rfl⟩

variable [Device δ ω]

/-- An access that a trap has answered moves the owner of the expansion window by the touch of its
first address. -/
theorem owner_cpuAccess {trap : Trap ω δ γ} (h : m.AnsweredBy trap a) :
    (m.cpuAccess a).2.bus.owner = (m.replayed trap a).apply m.bus.owner := by
  obtain ⟨outcome, hdispatch⟩ := dispatch_of_answeredBy h
  obtain ⟨address, hmeets⟩ := h.meets
  have hsome : m.traps.traps.isEmpty = false := by
    unfold TrapTable.find? at hmeets
    cases htraps : m.traps.traps with
    | nil =>
      rw [htraps] at hmeets
      cases hmeets
    | cons first rest => rfl
  unfold cpuAccess
  -- with a trap in the table, the table is asked first
  rw [hsome]
  dsimp only
  rw [hdispatch]
  show (Bus.observe _ _ _).owner = _
  rw [Bus.owner_observe, replayed, ← h.keeps]
  exact TrapContext.owner_touch _ _

/-! ## Byte accesses -/

/-- A trap leaves alone what the effect of a touch depends on. -/
structure KeepsSelection (c : TrapContext ω δ γ) (m : Machine ω δ γ) : Prop where
  window : c.window = m.window
  knowsRack : c.knowsRack = true
  rack : c.bus.backplane.rack = m.bus.backplane.rack
  hold : c.bus.backplane.hold = m.bus.backplane.hold
  overrides : c.bus.backplane.overrides = m.bus.backplane.overrides

/-- The bus begins an access with a byte cycle of the I/O page: nothing refuses the access, and its page
entry leads to the I/O page, at the place where the machine has it. -/
structure ReachesWindow (m : Machine ω δ γ) (a : Access) (entry : PageEntry) : Prop where
  resolves : m.bus.routing.resolve .checked (m.bus.routing.normalize a) = .ok entry
  aligned : m.bus.routing.refusesAlignment .checked (m.bus.routing.normalize a) = false
  place : ∃ p w, m.bus.target? entry.target = some (.page p) ∧ m.window = some w ∧
    p.layout = w.layout ∧ p.switches = w.switches ∧
    w.offset? (m.bus.maskAddress a).address =
      some (m.bus.routing.deviceOffset entry (m.bus.maskAddress a).address)

omit [Device δ ω] in
/-- What is replayed is the effect of the byte cycle that the bus would have begun with. -/
theorem replayed_eq_effectAt {trap : Trap ω δ γ} {entry : PageEntry} (h : m.ReachesWindow a entry)
    (hkeeps : KeepsSelection (m.trapped trap a).2 m) :
    ∃ p, m.bus.target? entry.target = some (.page p) ∧
      m.replayed trap a =
        IoPage.effectAt (m.bus.routing.deviceOffset entry (m.bus.routing.normalize a).address)
          (p, m.bus.backplane) := by
  obtain ⟨p, w, hpage, hwindow, hlayout, hswitches, hplace⟩ := h.place
  have haddress : (m.bus.routing.normalize a).address = (m.bus.maskAddress a).address :=
    m.bus.routing.normalize_address a
  refine ⟨p, hpage, ?_⟩
  rw [replayed, TrapContext.touch, hkeeps.window, hwindow, hkeeps.knowsRack, hkeeps.hold, haddress]
  unfold IoPage.effectAt
  by_cases hfree : m.bus.backplane.hold = .free
  · have hoverrides : (m.trapped trap a).2.bus.backplane.overridesOf w.switches =
        m.bus.backplane.overridesOf w.switches := by
      rw [Backplane.overridesOf, hkeeps.overrides]
      rfl
    rw [if_pos hfree, hfree]
    show (w.touch (m.bus.maskAddress a).address (m.trapped trap a).2.bus.backplane).1 = _
    rw [IoWindow.touch, hplace, hlayout, hswitches]
    dsimp only
    rw [hoverrides, Backplane.touch_fst_congr hkeeps.rack]
  · -- while somebody holds the rack, neither of them touches anything
    rw [if_neg hfree]
    dsimp only
    rw [if_neg (by simpa using hfree)]

/-- The effects of an access that the bus begins with a byte cycle of the I/O page begin with the one
replayed. -/
theorem exists_effects_eq {trap : Trap ω δ γ} {entry : PageEntry} (hnoticed : a.sideEffectsAllowed = true)
    (h : m.ReachesWindow a entry) (hkeeps : KeepsSelection (m.trapped trap a).2 m) :
    ∃ later, m.bus.effects a = m.replayed trap a :: later := by
  obtain ⟨p, hpage, hreplayed⟩ := replayed_eq_effectAt h hkeeps
  obtain ⟨rest, hlanes⟩ := (m.bus.routing.normalize a).exists_laneNumbers
  have hwhole : ∃ later, (m.bus.routing.whole entry (m.bus.routing.normalize a)).notes Bus.answer
      Bus.effectsOf m.bus = m.replayed trap a :: later := by
    rw [Routing.whole, Requests.notes_map, hreplayed]
    exact Bus.exists_notes_dispatch hpage
  rw [Bus.effects, Routing.checked_of_noticed hnoticed]
  unfold Routing.noticed
  rw [h.resolves]
  dsimp only
  by_cases hbyte : (m.bus.routing.normalize a).width = .byte
  · rw [if_pos hbyte]
    exact hwhole
  · rw [if_neg hbyte, if_neg (by rw [h.aligned]; decide)]
    cases m.bus.routing.route (m.bus.routing.normalize a) entry with
    | wide => exact hwhole
    | lanes =>
      -- the first lane goes to the same page, at the same offset
      obtain ⟨later, hfirst⟩ := Bus.exists_notes_dispatch
        (a := m.bus.routing.lane (m.bus.routing.normalize a) 0) hpage
      rw [Routing.firstLane_address, ← hreplayed] at hfirst
      unfold Routing.decompose
      rw [hlanes, Routing.lanesFrom, Requests.notes_bind, Routing.byteCycle,
        Routing.resolve_firstLane h.resolves]
      dsimp only
      rw [hfirst]
      exact ⟨_, rfl⟩

/-! ## All accesses -/

/-- The touch replayed for an access that a trap has answered leaves the expansion window to the owner
that the bus would have left it to exactly when this one effect, that of the first address, moves the
owner like the effects of all byte cycles that the bus would have dispatched. When the bus begins the
access with a byte cycle of the I/O page, that cycle has the effect replayed, and the later ones must
not move the owner any more. -/
theorem owner_cpuAccess_eq_iff {trap : Trap ω δ γ} (h : m.AnsweredBy trap a) :
    let trapped := (m.cpuAccess a).2.bus.owner
    let real := (m.bus.access a).2.owner
    let replayed := (m.replayed trap a).apply m.bus.owner
    trapped = replayed ∧ real = settle m.bus.owner (m.bus.effects a) ∧
      (trapped = real ↔ replayed = settle m.bus.owner (m.bus.effects a)) ∧
      ∀ entry, m.ReachesWindow a entry → KeepsSelection (m.trapped trap a).2 m →
        ∃ later, m.bus.effects a = m.replayed trap a :: later ∧
          (trapped = real ↔ settle replayed later = replayed) := by
  intro trapped real replayed
  have htrapped : trapped = replayed := owner_cpuAccess h
  have hreal : real = settle m.bus.owner (m.bus.effects a) := m.bus.owner_access a
  refine ⟨htrapped, hreal, by rw [htrapped, hreal], ?_⟩
  intro entry hentry hkeeps
  obtain ⟨later, hlater⟩ := exists_effects_eq h.noticed hentry hkeeps
  refine ⟨later, hlater, ?_⟩
  rw [htrapped, hreal, hlater, settle_cons]
  exact eq_comm

/-- A machine with a classic I/O page at 0xC000, the owner of whose window sits in slot 6, and a trap
at 0xCFFE that answers. -/
def atTheSentinel : Machine Bench.Host Bench.Instrument Bench.TestCard where
  config :=
    { bus := Personality.legacy8.busConfig
      slotCount := 7
      ioPage := some ⟨0xC000, .classic⟩
      trapPolicy := .replaySelection }
  bus :=
    { config := Personality.legacy8.busConfig
      table :=
        { geometry := ⟨16, 12⟩
          entries := (Array.replicate 16 none).set 12
            (some ⟨ioPageDevice, .io, .readWrite, IoPage.capabilities, ⟨0⟩, 0⟩) (by decide) }
      targets := #[.page { layout := .classic, switches := 0 }]
      diagnostics := .zero
      backplane :=
        { floating := .constant 0xFF
          overrides := #[{}]
          host := {}
          banked := #[]
          rack :=
            { cards := #[none, none, none, none, none, some ⟨"disk", none, none, none, true, true⟩, none]
              owner := some 6 } } }
  traps :=
    { policy := .replaySelection
      traps := [(0xCFFE, fun _ c => (.handled 0x60 5, c))] }
  window := some ⟨0xC000, .classic, 0⟩

/-- A word at the trap, whose second byte is the sentinel. -/
def overTheSentinel : Access := .read 0xCFFE .word .dataRead

/-- The bus would have released the window on the second lane; after the trap the card still has it. -/
theorem owner_cpuAccess_eq_iff_overTheSentinel :
    (atTheSentinel.cpuAccess overTheSentinel).2.bus.owner = some 6 ∧
      (atTheSentinel.bus.access overTheSentinel).2.owner = none ∧
      ¬(atTheSentinel.cpuAccess overTheSentinel).2.bus.owner =
        (atTheSentinel.bus.access overTheSentinel).2.owner := by
  have h : atTheSentinel.AnsweredBy (fun _ c => (.handled 0x60 5, c)) overTheSentinel :=
    ⟨rfl, rfl, ⟨0xCFFE, rfl⟩, ⟨0x60, 5, rfl⟩, rfl⟩
  have hreaches : atTheSentinel.ReachesWindow overTheSentinel
      ⟨ioPageDevice, .io, .readWrite, IoPage.capabilities, ⟨0⟩, 0⟩ :=
    ⟨by rfl, by rfl, { layout := .classic, switches := 0 }, ⟨0xC000, .classic, 0⟩, rfl, rfl, rfl, rfl,
      by rfl⟩
  obtain ⟨htrapped, hreal, -, hagree⟩ := owner_cpuAccess_eq_iff h
  obtain ⟨later, heffects, hiff⟩ := hagree _ hreaches ⟨rfl, rfl, rfl, rfl, rfl⟩
  have hrow : atTheSentinel.bus.effects overTheSentinel =
      atTheSentinel.replayed (fun _ c => (.handled 0x60 5, c)) overTheSentinel :: [.deselected] := by
    rfl
  -- the second byte of the word would have deselected the owner, and the replay is of the first alone
  obtain rfl : later = [.deselected] := (List.cons.inj (heffects.symm.trans hrow)).2
  refine ⟨htrapped, ?_, ?_⟩
  · rw [hreal, heffects]
    rfl
  · rw [hiff]
    decide

end Machine

end Motherboard
