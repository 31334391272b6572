import Motherboard.Proofs.InstalledPage
import Motherboard.Proofs.PageLayout
import Motherboard.Proofs.Replay

/-!
# Selection by the processor's addresses

A byte access of the processor that no trap answers selects by its address alone: the ROM window of an
occupied slot hands the expansion window to that slot and the sentinel takes it away, whatever the
access is for and whether it completes or faults (`cpuAccess_selects`). The permissions of the I/O page
stand in nobody's way, and what the devices behind it refuse, they refuse after the selection.

One check comes before the page: while execution is enforced, no instruction is fetched from the I/O
page, and a fetch that is refused for that leaves the window to its owner. And a layout has to mean what
its check says: the check computes with words, so that layouts pass it whose sums wrap around, and on such
a page the sentinel may be no sentinel (`fetch_or_wrap_selects_nobody`).
-/

namespace Motherboard

/-! ## Refused byte accesses -/

theorem Routing.normalize_maskAddress (r : Routing) (a : Access) :
    r.normalize (r.maskAddress a) = r.normalize a := by
  unfold normalize maskAddress
  dsimp only
  rw [r.table.geometry.and_addressMask_and_addressMask]

namespace Bus

variable {ω δ γ : Type} [Device δ ω] [Card γ δ ω] {bus : Bus ω δ γ} {a : Access}

/-- The bus cuts addresses itself, so that the processor may do it before. -/
theorem access_maskAddress (bus : Bus ω δ γ) (a : Access) :
    bus.access (bus.maskAddress a) = bus.access a := by
  unfold access maskAddress Routing.checked
  dsimp only
  rw [Routing.normalize_maskAddress]

/-- A byte access that the page table refuses ends there, and nothing is selected. -/
theorem access_of_refused {fault : Fault} (hbyte : a.width = .byte)
    (hnoticed : a.sideEffectsAllowed = true)
    (h : bus.routing.resolve .checked (bus.routing.normalize a) = .error fault) :
    (bus.access a).1 = .error fault ∧ (bus.access a).2.owner = bus.owner := by
  -- the byte is refused before a target is asked, so there is nothing that could move the window
  have hrefused : bus.routing.checked a = .done (.error fault) := by
    rw [Routing.checked_of_byte hnoticed hbyte, Routing.byteCycle, h]
    rfl
  constructor
  · unfold access
    dsimp only
    rw [hrefused]
    rfl
  · rw [owner_access, effects, hrefused]
    rfl

end Bus

namespace Machine

variable {ω δ γ : Type} [Card γ δ ω] {m : Machine ω δ γ} {a : Access}

/-! ## Accesses that no trap answers -/

/-- No trap answers the access: there is none, it does not concern them, or it is let pass. -/
def Untrapped (m : Machine ω δ γ) (a : Access) : Prop :=
  (m.traps.dispatch (m.bus.maskAddress a) m.trapContext).1 = none

/-- The machine as the bus gets it, after the traps have seen the access. -/
def pastTraps (m : Machine ω δ γ) (a : Access) : Machine ω δ γ :=
  let c := (m.traps.dispatch (m.bus.maskAddress a) m.trapContext).2
  { m with signals := c.signals, bus := c.bus }

/-- An access that meets no trap reaches the bus in the machine as it is. -/
theorem untrapped_of_find? (h : m.traps.find? (m.bus.maskAddress a) = none) :
    m.Untrapped a ∧ m.pastTraps a = m := by
  have hdispatch : m.traps.dispatch (m.bus.maskAddress a) m.trapContext =
      (none, m.trapContext) := by
    unfold TrapTable.dispatch
    split_ifs
    · rw [h]
    · rfl
  unfold Untrapped pastTraps
  rw [hdispatch]
  exact ⟨rfl, rfl⟩

variable [Device δ ω]

/-- An access that no trap answers goes to the bus, as the traps that passed it on have left it. -/
theorem cpuAccess_of_untrapped (h : m.Untrapped a) :
    (m.cpuAccess a).1 = ((m.pastTraps a).bus.access (m.bus.maskAddress a)).1 ∧
      (m.cpuAccess a).2.bus = ((m.pastTraps a).bus.access (m.bus.maskAddress a)).2 := by
  unfold cpuAccess
  cases htraps : m.traps.traps with
  | nil =>
    -- without traps the bus is asked for the address as it came, and cuts it itself
    have hnone : m.traps.find? (m.bus.maskAddress a) = none := by
      rw [TrapTable.find?, htraps]
      rfl
    rw [(untrapped_of_find? hnone).2, Bus.access_maskAddress]
    exact ⟨rfl, rfl⟩
  | cons first rest =>
    unfold Untrapped at h
    unfold pastTraps
    rw [if_neg (by simp)]
    dsimp only
    rcases hdispatch : m.traps.dispatch (m.bus.maskAddress a) m.trapContext with ⟨answer, c⟩
    rw [hdispatch] at h
    dsimp only at h
    subst h
    exact ⟨rfl, rfl⟩

/-! ## Byte accesses to the I/O page -/

omit [Card γ δ ω] [Device δ ω] in
/-- The page table lets a byte access to the I/O page pass, unless it is a fetch while execution is
enforced. -/
theorem HasIoPage.resolve {io : IoPageConfig} {id : TargetId} {p : IoPage δ} {offset : UInt32}
    (h : m.HasIoPage io id p) (haddress : a.address.toNat = io.base.toNat + offset.toNat)
    (hoffset : offset.toNat < io.layout.span.toNat) :
    m.bus.routing.resolve .checked a =
      let entry := ioPageEntry id m.bus.table.geometry
        (offset.toNat / m.bus.table.geometry.pageSize.toNat)
      if a.intent.isFetch = true ∧ m.bus.config.nxActive = true then
        .error (Routing.pageFault .noExecute entry a)
      else
        .ok entry := by
  -- every direction is allowed, so that only execution can be refused
  have hallows : Permissions.readWrite.allows a.intent = true := by
    cases a.intent <;> rfl
  unfold Routing.resolve
  rw [show m.bus.routing.table = m.bus.table from rfl, h.entryFor? haddress hoffset]
  dsimp only [ioPageEntry, Bus.routing]
  rw [hallows]
  simp [Permissions.readWrite]

/-- Whatever a byte access to the I/O page is for, and however it ends, it selects by its address. Only
a fetch while execution is enforced does not: it is refused before the page is asked. (That the sums of
the layout fit into words makes its check mean what it says, see `IoPageLayout.isContiguous_iff`.) -/
theorem cpuAccess_selects {io : IoPageConfig} {id : TargetId} {p : IoPage δ} {offset : UInt32}
    (hbyte : a.width = .byte) (hnoticed : a.sideEffectsAllowed = true) (huntrapped : m.Untrapped a)
    (hio : (m.pastTraps a).HasIoPage io id p) (hfits : io.layout.SumsFit)
    (hfree : (m.pastTraps a).rackIsFree = true)
    (haddress : (m.bus.maskAddress a).address.toNat = io.base.toNat + offset.toNat)
    (hoffset : offset.toNat < io.layout.span.toNat) :
    let before := (m.pastTraps a).bus
    let after := (m.cpuAccess a).2.bus
    if a.intent.isFetch = true ∧ before.config.nxActive = true then
      (∃ fault, (m.cpuAccess a).1 = .error fault ∧ fault.kind = .noExecute ∧
        fault.address = (m.bus.maskAddress a).address) ∧ after.owner = before.owner
    else
      p.Selects before.backplane offset after.owner := by
  intro before after
  obtain ⟨hresult, hafter⟩ := cpuAccess_of_untrapped huntrapped
  -- the bus sees the masked address as it is
  have hseen : (before.routing.normalize (m.bus.maskAddress a)).address =
      (m.bus.maskAddress a).address := by
    rw [Routing.normalize_address]
    exact hio.and_addressMask haddress hoffset
  have hintent : (before.routing.normalize (m.bus.maskAddress a)).intent = a.intent :=
    before.routing.normalize_intent _
  have hresolve := hio.resolve (a := before.routing.normalize (m.bus.maskAddress a))
    (by rw [hseen]; exact haddress) hoffset
  rw [hintent] at hresolve
  dsimp only at hresolve
  by_cases hrefused : a.intent.isFetch = true ∧ before.config.nxActive = true
  · -- the page table refuses the fetch, so that the page sees nothing of it
    rw [if_pos hrefused] at hresolve ⊢
    obtain ⟨herror, hkept⟩ := Bus.access_of_refused (a := m.bus.maskAddress a) hbyte hnoticed hresolve
    refine ⟨⟨_, hresult.trans herror, rfl, hseen⟩, ?_⟩
    show (m.cpuAccess a).2.bus.owner = before.owner
    rw [hafter, hkept]
  · -- the access is one byte cycle of the page, which selects whatever comes after
    rw [if_neg hrefused] at hresolve ⊢
    have hcontiguous : p.layout.IsContiguous := by
      rw [hio.layout]
      exact (IoPageLayout.isContiguous_iff _).2 ⟨hio.place.1, hfits⟩
    have hrack : before.backplane.hold = .free := by simpa [rackIsFree] using hfree
    have heffects := Bus.effects_of_byte (a := m.bus.maskAddress a) hbyte hnoticed hresolve hio.target
    have hplace := hio.deviceOffset haddress
    rw [hseen, hplace, IoPage.effectAt, if_pos hrack] at heffects
    show p.Selects before.backplane offset (m.cpuAccess a).2.bus.owner
    rw [hafter, Bus.owner_access, heffects]
    exact IoPage.selects_of_touch hcontiguous

/-- A machine that enforces execution in native mode, with a classic I/O page at 0xC000 and a card with
a ROM in slot 6. -/
def withDisk (mode : CpuMode) : Machine Bench.Host Bench.Instrument Bench.TestCard where
  config :=
    { bus := { Personality.legacy8.busConfig with cpuMode := mode, enforceNx := true }
      slotCount := 7
      ioPage := some ⟨0xC000, .classic⟩
      trapPolicy := .manual }
  bus :=
    { config := { Personality.legacy8.busConfig with cpuMode := mode, enforceNx := true }
      table :=
        { geometry := ⟨16, 12⟩
          entries := (Array.replicate 16 none).setIfInBounds 12
            (some ⟨ioPageDevice, .io, .readWrite, IoPage.capabilities, ⟨0⟩, 0⟩) }
      targets := #[.page { layout := .classic, switches := 0 }]
      diagnostics := .zero
      backplane :=
        { floating := .constant 0xFF
          overrides := #[{}]
          host := {}
          banked := #[]
          rack :=
            { cards := #[none, none, none, none, none,
                some ⟨"disk", none, some (.rom ⟨#[0x60]⟩), none, true, true⟩, none] } } }
  traps := { policy := .manual }
  window := some ⟨0xC000, .classic, 0⟩

/-- The machine of the example has its I/O page where its configuration says. -/
theorem hasIoPage_withDisk (mode : CpuMode) :
    (withDisk mode).HasIoPage ⟨0xC000, .classic⟩ ⟨0⟩ { layout := .classic, switches := 0 } where
  configured := rfl
  valid := by cases mode <;> rfl
  geometry := rfl
  layout := rfl
  target := rfl
  mapped := by
    intro i hi
    -- the classic page takes one bus page
    have hone : ioPageCount .classic ⟨16, 12⟩ = 1 := by decide
    obtain rfl : i = 0 := by
      rw [show (withDisk mode).bus.table.geometry = ⟨16, 12⟩ from rfl, hone] at hi
      omega
    cases mode <;> decide +kernel

/-- A write to the ROM in slot 6 is refused, and yet the slot owns the window afterwards. -/
theorem cpuAccess_selects_refusedWrite :
    let a := Access.write 0xC600 .byte 0 .dataWrite
    ((withDisk .legacy).cpuAccess a).1 =
        .error ⟨.permission, 0xC600, .byte, .dataWrite, .cpu, some ioPageDevice, some .io, 0, 0⟩ ∧
      ((withDisk .legacy).cpuAccess a).2.bus.owner = some 6 := by
  intro a
  obtain ⟨huntrapped, hpast⟩ := untrapped_of_find? (m := withDisk .legacy) (a := a) rfl
  have hplace : ((withDisk .legacy).bus.maskAddress a).address.toNat =
      (0xC000 : UInt32).toNat + (0x600 : UInt32).toNat := by decide
  have hselects := cpuAccess_selects rfl rfl huntrapped
    (by rw [hpast]; exact hasIoPage_withDisk .legacy) (by decide) (by rw [hpast]; rfl) hplace
    (by decide)
  rw [hpast] at hselects
  dsimp only at hselects
  -- a write is never a fetch
  rw [if_neg (by decide)] at hselects
  exact ⟨by decide +kernel, hselects.window 6 0 (by decide) (by rfl) (by rfl)⟩

/-- The machine with the disk, and with a page whose sums wrap around. Slot 6 owns the window. -/
def withWrapping : Machine Bench.Host Bench.Instrument Bench.TestCard :=
  { withDisk .legacy with
    config.ioPage := some ⟨0xC000, .wrapping⟩
    bus.targets := #[.page { layout := .wrapping, switches := 0 }]
    bus.backplane.rack.owner := some 6
    window := some ⟨0xC000, .wrapping, 0⟩ }

theorem hasIoPage_withWrapping :
    withWrapping.HasIoPage ⟨0xC000, .wrapping⟩ ⟨0⟩ { layout := .wrapping, switches := 0 } where
  configured := rfl
  valid := rfl
  geometry := rfl
  layout := rfl
  target := rfl
  mapped := by
    intro i hi
    -- this page takes one bus page too
    have hone : ioPageCount .wrapping ⟨16, 12⟩ = 1 := by decide
    obtain rfl : i = 0 := by
      rw [show withWrapping.bus.table.geometry = ⟨16, 12⟩ from rfl, hone] at hi
      omega
    decide +kernel

/-- In native mode a fetch from the ROM window of slot 6 selects nobody. And where the sums of a layout
wrap around, the sentinel, which the register block of slot 0 covers there, leaves the window to its
owner. -/
theorem fetch_or_wrap_selects_nobody :
    (let m := withDisk .native
      let a := Access.read 0xC600 .byte .instructionFetch
      m.HasIoPage ⟨0xC000, .classic⟩ ⟨0⟩ { layout := .classic, switches := 0 } ∧
        m.rackIsFree = true ∧ a.sideEffectsAllowed = true ∧ m.Untrapped a ∧
        (m.bus.maskAddress a).address = 0xC000 + 0x600 ∧
        IoPageLayout.classic.Holds 0x600 (.slotRom 6 0) ∧
        (m.bus.backplane.rack.card? 6).isSome = true ∧
        (m.bus.backplane.overridesOf 0).isInternal 6 = false ∧
        (m.cpuAccess a).2.bus.owner ≠ some 6) ∧
    (let m := withWrapping
      let a := Access.read 0xCFFF .byte .dataRead
      m.HasIoPage ⟨0xC000, .wrapping⟩ ⟨0⟩ { layout := .wrapping, switches := 0 } ∧
        m.rackIsFree = true ∧ a.sideEffectsAllowed = true ∧ m.Untrapped a ∧
        (m.bus.maskAddress a).address = 0xC000 + IoPageLayout.wrapping.deselectOffset ∧
        (m.cpuAccess a).2.bus.owner ≠ none) := by
  constructor
  · -- the page refuses to be executed, so that the I/O page never sees the offset
    refine ⟨hasIoPage_withDisk .native, rfl, rfl, rfl, by decide, by decide, rfl, rfl, ?_⟩
    have hnobody : ((withDisk .native).cpuAccess
        (.read 0xC600 .byte .instructionFetch)).2.bus.owner = none := by rfl
    rw [hnobody]
    decide
  · -- The layout passes its check because the end of its registers wraps to zero. Its sentinel is
    -- classified as a soft switch, and the owner stays.
    refine ⟨hasIoPage_withWrapping, rfl, rfl, rfl, by decide, ?_⟩
    have howner : (withWrapping.cpuAccess (.read 0xCFFF .byte .dataRead)).2.bus.owner = some 6 := by rfl
    rw [howner]
    decide

end Machine

end Motherboard
