import Motherboard.Bench.Instrument
import Motherboard.Proofs.InstalledPage
import Motherboard.Proofs.PageLayout

/-!
# Building a machine

`MachineConfig.validate` looks at a configuration before anything is built from it. This file says that
it looks at enough: a machine is built from every valid configuration, and its I/O page can be installed
at once.

Where the I/O page lies is then known twice. The page table leads the bus there page by page; the window
that the traps use is computed from the base and the span alone. On a fresh machine nothing else is
mapped, so both can be counted out in full: the bus leads an address to the page when it lies above the
base by less than the pages mapped (`leads?_iff`), and the window holds the part of these addresses that
the span covers.

* `installed_of_isBuilt` — what installing makes of a built machine.
* `leads?_iff_page` — the page table, page by page.
* `leads?_iff`, `offset?_iff` — the two mappings, counted from the base.
* `exists_place` — every place of a slot in the page has an address.
* `exists_machine_of_validate` — all of it, from the check of a configuration.
-/

namespace Motherboard

/-! ## Filled ranges of pages -/

namespace PageTable

variable {t : PageTable}

/-- When a range of an empty table is filled, just the pages of the range are mapped. -/
theorem get?_fill_iff (hempty : ∀ index, t.get? index = none) {first count : Nat}
    (hroom : first + count ≤ t.pageCount) {entry e : PageEntry} {index : Nat} :
    (t.fill first count entry).get? index = some e ↔
      ∃ i < count, index = first + i ∧
        e = { entry with base := entry.base + i.toUInt32 * t.geometry.pageSize } := by
  constructor
  · intro h
    -- before the range, inside it, and behind it
    rcases Nat.lt_or_ge index first with hbelow | habove
    · rw [get?_fill_of_lt hbelow, hempty] at h
      cases h
    rcases Nat.lt_or_ge index (first + count) with hin | hpast
    · obtain ⟨i, rfl⟩ := Nat.exists_eq_add_of_le habove
      have hi : i < count := by omega
      rw [get?_fill hi hroom] at h
      exact ⟨i, hi, rfl, (Option.some.inj h).symm⟩
    · rw [get?_fill_of_le hpast, hempty] at h
      cases h
  · rintro ⟨i, hi, rfl, rfl⟩
    exact get?_fill hi hroom entry

end PageTable

/-! ## Where the bus leads -/

namespace Bus

variable {ω δ γ : Type}

/-- Target and device offset to which the bus leads an address; none where no page is mapped. -/
def leads? (bus : Bus ω δ γ) (address : UInt32) : Option (TargetId × UInt32) :=
  let address := address &&& bus.table.geometry.addressMask
  (bus.table.entryFor? address).map fun entry =>
    (entry.target, bus.routing.deviceOffset entry address)

end Bus

/-! ## Slots that are decoded -/

/-- A machine has no more slots than its layout has room for. -/
theorem MachineConfig.slotCount_le {c : MachineConfig} (h : c.validate = .ok ()) :
    c.slotCount.toNat ≤ c.maxSlots.toNat := by
  unfold validate at h
  split_ifs at h with hgeometry hslots
  rw [not_or, UInt8.not_lt] at hslots
  exact UInt8.le_iff_toNat_le.1 hslots.2

namespace IoPageLayout

variable {l : IoPageLayout} {slot : UInt8}

/-- The ROM window of a slot lies in the page. -/
theorem exists_slotRom (h : l.IsContiguous) (hpos : 1 ≤ slot.toNat)
    (hslot : slot.toNat ≤ l.maxSlot.toNat) :
    ∃ offset, offset.toNat < l.span.toNat ∧ l.classify offset = .slotRom slot 0 := by
  have hblock := h.block
  have hblocks := h.blocks
  have hwindows := h.windows
  have hend := h.expansion
  have hregisters : 0 < (l.maxSlot.toNat + 1) * l.slotIoSize.toNat := Nat.mul_pos (by omega) hblock
  have hlast := block_lt hslot (by omega : 0 < l.slotRomSize.toNat)
  have hword : l.expansionEnd.toNat < 2 ^ 32 := l.expansionEnd.toNat_lt
  have hoffset : (slot.toNat * l.slotRomSize.toNat).toUInt32.toNat =
      slot.toNat * l.slotRomSize.toNat := toNat_toUInt32 (by omega)
  -- the first byte of the slot's window, which lies before the end because the windows of all slots do
  refine ⟨(slot.toNat * l.slotRomSize.toNat).toUInt32, ?_, ?_⟩
  · rw [hoffset, span]
    omega
  · refine classify_of_holds h ⟨hpos, hslot, ?_, hoffset⟩
    rw [UInt32.toNat_zero]
    omega

/-- The register block of a slot lies in the page. -/
theorem exists_slotIo (h : l.IsContiguous) (hslot : slot.toNat ≤ l.maxSlot.toNat) :
    ∃ offset, offset.toNat < l.span.toNat ∧ l.classify offset = .slotIo slot 0 := by
  have hblock := h.block
  have hblocks := h.blocks
  have hwindows := h.windows
  have hend := h.expansion
  have hlast := block_lt hslot hblock
  have hwindow : 1 * l.slotRomSize.toNat ≤ (l.maxSlot.toNat + 1) * l.slotRomSize.toNat :=
    Nat.mul_le_mul_right _ (by omega)
  have hword : l.expansionEnd.toNat < 2 ^ 32 := l.expansionEnd.toNat_lt
  have hoffset : (l.slotIoBase.toNat + slot.toNat * l.slotIoSize.toNat).toUInt32.toNat =
      l.slotIoBase.toNat + slot.toNat * l.slotIoSize.toNat := toNat_toUInt32 (by omega)
  -- the first of the slot's registers, which lies before the end because all registers do
  refine ⟨(l.slotIoBase.toNat + slot.toNat * l.slotIoSize.toNat).toUInt32, ?_, ?_⟩
  · rw [hoffset, span]
    omega
  · exact classify_of_holds h ⟨hslot, hblock, hoffset⟩

end IoPageLayout

/-- The window holds the addresses that lie above its base by less than its span. -/
theorem IoWindow.offset?_iff {w : IoWindow} {address offset : UInt32} :
    w.offset? address = some offset ↔
      address.toNat = w.base.toNat + offset.toNat ∧ offset.toNat < w.layout.span.toNat := by
  unfold offset?
  constructor
  · intro h
    split_ifs at h with hin
    -- the window starts at or before the address, so that the difference is not below zero
    have hdistance := UInt32.toNat_sub_of_le _ _ hin.1
    have hle := UInt32.le_iff_toNat_le.1 hin.1
    cases h
    exact ⟨by omega, UInt32.lt_iff_toNat_lt.1 hin.2⟩
  · rintro ⟨haddress, hlt⟩
    have hle : w.base ≤ address := UInt32.le_iff_toNat_le.2 (by omega)
    have hdistance := UInt32.toNat_sub_of_le _ _ hle
    have hsame : address - w.base = offset := UInt32.toNat_inj.1 (by omega)
    rw [hsame, if_pos ⟨hle, UInt32.lt_iff_toNat_lt.2 hlt⟩]

namespace Machine

variable {ω δ γ : Type} {m : Machine ω δ γ} {io : IoPageConfig}

/-! ## Installing on a fresh machine -/

/-- Nothing is mapped on a fresh machine. -/
theorem get?_of_ofConfig? {config : MachineConfig} {host : ω} (h : ofConfig? config host = .ok m)
    (index : Nat) : m.bus.table.get? index = none := by
  obtain ⟨-, rfl⟩ := ofConfig?_eq_ok_iff.1 h
  exact PageTable.get?_replicate _ _ index

/-- A configuration that passes its check makes a machine, with nothing on it. -/
theorem exists_ofConfig? {config : MachineConfig} (h : config.validate = .ok ()) (host : ω) :
    ∃ m : Machine ω δ γ, ofConfig? config host = .ok m ∧ m.config = config ∧
      m.bus.targets = #[] ∧ m.bus.backplane.overrides = #[] ∧ m.bus.backplane.host = host :=
  ⟨bare config host, ofConfig?_eq_ok_iff.2 ⟨h, rfl⟩, rfl, rfl, rfl, rfl⟩

/-- The I/O page that is installed, once its own parts are attached. -/
def builtPage (m : Machine ω δ γ) (io : IoPageConfig) (build : IoPage δ → ω → IoPage δ × ω) : IoPage δ :=
  (build { layout := io.layout, switches := m.bus.backplane.overrides.size } m.bus.backplane.host).1

/-- The I/O page is the last target of the bus, its window is known, and its pages have been filled
in. -/
structure Installed (m after : Machine ω δ γ) (io : IoPageConfig)
    (build : IoPage δ → ω → IoPage δ × ω) : Prop where
  config : after.config = m.config
  target : after.bus.target? ⟨m.bus.targets.size⟩ = some (.page (m.builtPage io build))
  window : after.window = some ⟨io.base, io.layout, (m.builtPage io build).switches⟩
  table : after.bus.table = m.bus.table.fill (m.bus.table.geometry.pageIndex io.base)
    (ioPageCount io.layout m.bus.table.geometry)
    ⟨ioPageDevice, .io, .readWrite, IoPage.capabilities, ⟨m.bus.targets.size⟩, 0⟩

/-- On such a machine an I/O page can be installed, and is mapped as its configuration says. -/
theorem installed_of_isBuilt [Device δ ω] (h : m.IsBuilt) (hio : m.config.ioPage = some io)
    (build : IoPage δ → ω → IoPage δ × ω) :
    (m.installIoPage build).1 = .ok ⟨m.bus.targets.size⟩ ∧
      Installed m (m.installIoPage build).2 io build := by
  have hroom := h.room hio
  rcases hpage : build { layout := io.layout, switches := m.bus.backplane.overrides.size }
    m.bus.backplane.host with ⟨p, host⟩
  have hlast : (m.bus.targets.push (.page p))[m.bus.targets.size]? = some (.page p) :=
    Array.getElem?_push_size
  have hbuilt : m.builtPage io build = p := by rw [builtPage, hpage]
  unfold installIoPage
  rw [hio]
  dsimp only
  rw [hpage]
  dsimp only [Bus.addTarget, Bus.pageEntry, Bus.target?]
  rw [hlast]
  dsimp only [bind, Except.bind, Target.capabilities]
  -- the range is mapped because the target has just been added and the pages have room
  rw [Bus.mapRange_of_room]
  · refine ⟨rfl, rfl, ?_, ?_, rfl⟩
    · rw [hbuilt]
      exact hlast
    · rw [hbuilt]
  · simp
  · exact Nat.lt_of_lt_of_le Nat.one_pos (Nat.le_max_left _ _)
  · exact hroom
  · exact h.pageCount_le

/-! ## The two mappings -/

/-- As many bus pages are mapped as the page spans. -/
theorem span_le_pages {layout : IoPageLayout} (h : 0 < layout.span.toNat) (g : Geometry) :
    layout.span.toNat ≤ ioPageCount layout g * g.pageSize.toNat := by
  have hpos := g.toNat_pageSize_pos
  have hrest := Nat.mod_lt (layout.span.toNat - 1) hpos
  have hsplit := Nat.div_add_mod' (layout.span.toNat - 1) g.pageSize.toNat
  rw [ioPageCount_eq h, Nat.add_mul]
  omega

section Mappings

variable {after : Machine ω δ γ} {build : IoPage δ → ω → IoPage δ × ω}

/-- The bus leads the addresses in the pages filled in to the I/O page, each to its place in its page
after the pages before it, and it leads no address anywhere else. -/
theorem leads?_iff_page (h : m.IsBuilt) (hempty : ∀ index, m.bus.table.get? index = none)
    (hio : m.config.ioPage = some io) (hafter : Installed m after io build) {address offset : UInt32}
    {id : TargetId} :
    after.bus.leads? address = some (id, offset) ↔
      id = ⟨m.bus.targets.size⟩ ∧ ∃ i < ioPageCount io.layout m.bus.table.geometry,
        m.bus.table.geometry.pageIndex address = m.bus.table.geometry.pageIndex io.base + i ∧
        offset = i.toUInt32 * m.bus.table.geometry.pageSize +
          m.bus.table.geometry.pageOffset (address &&& m.bus.table.geometry.addressMask) := by
  have hgeometry : after.bus.table.geometry = m.bus.table.geometry := by
    rw [hafter.table, PageTable.geometry_fill]
  unfold Bus.leads? PageTable.entryFor? Routing.deviceOffset Bus.routing
  dsimp only
  rw [hgeometry, hafter.table, Geometry.pageIndex_and_addressMask, Option.map_eq_some_iff]
  -- the table holds the range and nothing else, so that an address leads somewhere only through it
  constructor
  · rintro ⟨entry, hentry, hpair⟩
    obtain ⟨i, hi, hpage, rfl⟩ := (PageTable.get?_fill_iff hempty (h.room hio)).1 hentry
    rw [Prod.mk.injEq] at hpair
    obtain ⟨rfl, rfl⟩ := hpair
    exact ⟨rfl, i, hi, hpage, by rw [UInt32.zero_add]⟩
  · rintro ⟨rfl, i, hi, hpage, rfl⟩
    refine ⟨_, (PageTable.get?_fill_iff hempty (h.room hio)).2 ⟨i, hi, hpage, rfl⟩, ?_⟩
    rw [UInt32.zero_add]

/-- The bus leads those addresses to the I/O page that lie above its base by less than the pages
mapped, each to its distance from the base, and it leads no address anywhere else. -/
theorem leads?_iff (h : m.IsBuilt) (hempty : ∀ index, m.bus.table.get? index = none)
    (hio : m.config.ioPage = some io) (hafter : Installed m after io build) {address offset : UInt32}
    {id : TargetId} :
    after.bus.leads? address = some (id, offset) ↔
      id = ⟨m.bus.targets.size⟩ ∧
        (address &&& m.bus.table.geometry.addressMask).toNat = io.base.toNat + offset.toNat ∧
        offset.toNat < ioPageCount io.layout m.bus.table.geometry *
          m.bus.table.geometry.pageSize.toNat := by
  have hpos := m.bus.table.geometry.toNat_pageSize_pos
  have hbase := MachineConfig.pageIndex_base_of_validate h.valid hio
  rw [← h.geometry] at hbase
  rw [leads?_iff_page h hempty hio hafter, Geometry.pageIndex_eq_div _ address]
  generalize address &&& m.bus.table.geometry.addressMask = a
  constructor
  · rintro ⟨hid, i, hi, hpage, rfl⟩
    have hdistance := Geometry.toNat_distance _ hbase hpage
    refine ⟨hid, hdistance.symm, ?_⟩
    -- the address lies in bus page `i` of the I/O page
    have hsplit := Nat.div_add_mod' a.toNat m.bus.table.geometry.pageSize.toNat
    have hrest := Nat.mod_lt a.toNat hpos
    have hpages : (i + 1) * m.bus.table.geometry.pageSize.toNat ≤
        ioPageCount io.layout m.bus.table.geometry * m.bus.table.geometry.pageSize.toNat :=
      Nat.mul_le_mul_right _ hi
    rw [hpage, Nat.add_mul] at hsplit
    rw [Nat.add_mul] at hpages
    omega
  · rintro ⟨hid, hdistance, hlt⟩
    have hpage : a.toNat / m.bus.table.geometry.pageSize.toNat =
        m.bus.table.geometry.pageIndex io.base +
          offset.toNat / m.bus.table.geometry.pageSize.toNat := by
      rw [hdistance, ← hbase, Nat.mul_comm _ m.bus.table.geometry.pageSize.toNat, Nat.mul_add_div hpos]
    refine ⟨hid, _, (Nat.div_lt_iff_lt_mul hpos).2 hlt, hpage, ?_⟩
    have hsame := Geometry.toNat_distance _ hbase hpage
    apply UInt32.toNat_inj.1
    omega

/-- The window and the page table place the I/O page alike, all of it and nothing else is mapped, and
the slots are decoded. -/
structure IsPlaced (m : Machine ω δ γ) (io : IoPageConfig) (id : TargetId) : Prop where
  /-- The window gives an address an offset when the bus leads the address to the I/O page, and there to
  this offset, which the span covers. -/
  agree : ∀ w, m.window = some w → ∀ address offset,
    w.offset? (address &&& m.bus.table.geometry.addressMask) = some offset ↔
      m.bus.leads? address = some (id, offset) ∧ offset < io.layout.span
  /-- The offset is the distance from the base. -/
  distance : ∀ address offset, m.bus.leads? address = some (id, offset) →
    io.base ≤ address &&& m.bus.table.geometry.addressMask ∧
      offset = (address &&& m.bus.table.geometry.addressMask) - io.base
  /-- As many bus pages are mapped as the I/O page takes, from its base on. -/
  pages : ∀ index, (∃ entry, m.bus.table.get? index = some entry) ↔
    m.bus.table.geometry.pageIndex io.base ≤ index ∧
      index < m.bus.table.geometry.pageIndex io.base +
        ioPageCount io.layout m.bus.table.geometry
  /-- They all lead to the I/O page. -/
  routed : ∀ index entry, m.bus.table.get? index = some entry → entry.target = id
  /-- Every slot has an address in its ROM window. -/
  window : ∀ slot, 1 ≤ slot → slot ≤ m.config.slotCount → ∃ address offset place,
    m.bus.leads? address = some (id, offset) ∧ io.layout.classify offset = .slotRom slot place
  /-- Every slot has an address in its register block. -/
  registers : ∀ slot, 1 ≤ slot → slot ≤ m.config.slotCount → ∃ address offset place,
    m.bus.leads? address = some (id, offset) ∧ io.layout.classify offset = .slotIo slot place

/-- The bus leads some address to every offset of the page. -/
theorem exists_place (h : m.IsBuilt) (hempty : ∀ index, m.bus.table.get? index = none)
    (hio : m.config.ioPage = some io) (hafter : Installed m after io build) {offset : UInt32}
    (hoffset : offset.toNat < io.layout.span.toNat) :
    ∃ address, after.bus.leads? address = some (⟨m.bus.targets.size⟩, offset) := by
  obtain ⟨-, -, hend⟩ := MachineConfig.place_of_validate h.valid hio
  obtain ⟨hshift, hbits⟩ := Geometry.shift_lt_bits (MachineConfig.of_validate h.valid).1
  have hspace : 2 ^ m.config.bus.geometry.addressBits.toNat ≤ 2 ^ 32 :=
    Nat.pow_le_pow_right (by omega) hbits
  have hspan := span_le_pages (Nat.zero_lt_of_lt hoffset) m.bus.table.geometry
  have haddress : (io.base + offset).toNat = io.base.toNat + offset.toNat := by
    rw [UInt32.toNat_add, Nat.mod_eq_of_lt (by omega)]
  refine ⟨io.base + offset, (leads?_iff h hempty hio hafter).2 ⟨rfl, ?_, by omega⟩⟩
  rw [h.geometry, MachineConfig.and_addressMask_of_validate h.valid hio haddress hoffset, haddress]

/-- The offsets of the page lie at the addresses of the bus that its base says. -/
theorem isPlaced_of_installed (h : m.IsBuilt) (hempty : ∀ index, m.bus.table.get? index = none)
    (hio : m.config.ioPage = some io) (hfits : io.layout.SumsFit)
    (hafter : Installed m after io build) : IsPlaced after io ⟨m.bus.targets.size⟩ := by
  obtain ⟨hwell, -, -⟩ := MachineConfig.place_of_validate h.valid hio
  have hcontiguous : io.layout.IsContiguous := (IoPageLayout.isContiguous_iff _).2 ⟨hwell, hfits⟩
  have hspan := span_le_pages (IoPageLayout.span_pos hwell) m.bus.table.geometry
  have hgeometry : after.bus.table.geometry = m.bus.table.geometry := by
    rw [hafter.table, PageTable.geometry_fill]
  -- the page decodes the slots that the machine has
  have hslots : ∀ slot : UInt8, slot ≤ after.config.slotCount →
      slot.toNat ≤ io.layout.maxSlot.toNat := by
    intro slot hslot
    have hcount := MachineConfig.slotCount_le h.valid
    rw [MachineConfig.maxSlots, hio] at hcount
    rw [hafter.config, UInt8.le_iff_toNat_le] at hslot
    exact hslot.trans hcount
  constructor
  case agree =>
    intro w hw address offset
    rw [hafter.window] at hw
    cases hw
    rw [IoWindow.offset?_iff, leads?_iff h hempty hio hafter, hgeometry, UInt32.lt_iff_toNat_lt]
    dsimp only
    constructor
    · rintro ⟨haddress, hlt⟩
      exact ⟨⟨rfl, haddress, by omega⟩, hlt⟩
    · rintro ⟨⟨-, haddress, -⟩, hlt⟩
      exact ⟨haddress, hlt⟩
  case distance =>
    intro address offset hleads
    obtain ⟨-, haddress, -⟩ := (leads?_iff h hempty hio hafter).1 hleads
    rw [hgeometry]
    have hle : io.base ≤ address &&& m.bus.table.geometry.addressMask :=
      UInt32.le_iff_toNat_le.2 (by omega)
    refine ⟨hle, UInt32.toNat_inj.1 ?_⟩
    rw [UInt32.toNat_sub_of_le _ _ hle]
    omega
  case pages =>
    intro index
    rw [hgeometry, hafter.table]
    constructor
    · rintro ⟨entry, hentry⟩
      obtain ⟨i, hi, rfl, -⟩ := (PageTable.get?_fill_iff hempty (h.room hio)).1 hentry
      exact ⟨by omega, by omega⟩
    · rintro ⟨hlow, hhigh⟩
      obtain ⟨i, rfl⟩ := Nat.exists_eq_add_of_le hlow
      exact ⟨_, (PageTable.get?_fill_iff hempty (h.room hio)).2 ⟨i, by omega, rfl, rfl⟩⟩
  case routed =>
    intro index entry hentry
    rw [hafter.table] at hentry
    obtain ⟨i, hi, -, rfl⟩ := (PageTable.get?_fill_iff hempty (h.room hio)).1 hentry
    rfl
  case window =>
    intro slot hone hslot
    obtain ⟨offset, hoffset, hclass⟩ := IoPageLayout.exists_slotRom hcontiguous
      (UInt8.le_iff_toNat_le.1 hone) (hslots slot hslot)
    obtain ⟨address, haddress⟩ := exists_place h hempty hio hafter hoffset
    exact ⟨address, offset, 0, haddress, hclass⟩
  case registers =>
    intro slot hone hslot
    obtain ⟨offset, hoffset, hclass⟩ := IoPageLayout.exists_slotIo hcontiguous (hslots slot hslot)
    obtain ⟨address, haddress⟩ := exists_place h hempty hio hafter hoffset
    exact ⟨address, offset, 0, haddress, hclass⟩

end Mappings

/-! ## From the check of a configuration -/

/-- A machine is built from every valid configuration, and its I/O page can be installed at once,
whatever parts are attached to it; then the page is placed as the configuration says. -/
theorem exists_machine_of_validate [Device δ ω] {config : MachineConfig}
    (hvalid : config.validate = .ok ())
    (hfits : ∀ io, config.ioPage = some io → io.layout.SumsFit) (host : ω) :
    ∃ m : Machine ω δ γ, ofConfig? config host = .ok m ∧ m.config = config ∧
      ∀ io, config.ioPage = some io → ∀ build : IoPage δ → ω → IoPage δ × ω, ∃ id after,
        m.installIoPage build = (.ok id, after) ∧ after.config = config ∧
        after.bus.target? id = some (.page (build { layout := io.layout, switches := 0 } host).1) ∧
        after.window = some ⟨io.base, io.layout,
          (build { layout := io.layout, switches := 0 } host).1.switches⟩ ∧ after.IsPlaced io id := by
  obtain ⟨m, hm, hconfig, htargets, hoverrides, hhost⟩ := exists_ofConfig? hvalid host
  refine ⟨m, hm, hconfig, ?_⟩
  intro io hio build
  have hbuilt := isBuilt_of_ofConfig? hm
  rw [← hconfig] at hio
  obtain ⟨hok, hafter⟩ := installed_of_isBuilt hbuilt hio build
  -- from here on it is the mapping alone that decides where an address leads
  have hplaced := isPlaced_of_installed hbuilt (get?_of_ofConfig? hm) hio
    (hfits io (hconfig ▸ hio)) hafter
  refine ⟨⟨m.bus.targets.size⟩, (m.installIoPage build).2, Prod.ext hok rfl,
    hafter.config.trans hconfig, ?_, ?_, hplaced⟩
  · rw [hafter.target, builtPage, hoverrides, hhost]
    rfl
  · rw [hafter.window, builtPage, hoverrides, hhost]
    rfl

/-- The page of the 32-bit machine can lie at the very end of the address space. -/
theorem exists_machine_of_validate_atTheEnd :
    let layout := IoPageLayout.classic
    let config : MachineConfig :=
      { Personality.native32.machineConfig with
        bus := { Personality.native32.busConfig with geometry := ⟨32, 12⟩ }
        ioPage := some ⟨0xFFFFF000, layout⟩ }
    config.validate = .ok () ∧ layout.SumsFit ∧
      ∃ m : Machine Bench.Host Bench.Instrument Bench.TestCard, ofConfig? config {} = .ok m ∧
        ∃ id after, m.installIoPage (fun page host => (page, host)) = (.ok id, after) ∧
          after.IsPlaced ⟨0xFFFFF000, layout⟩ id := by
  intro layout config
  have hvalid : config.validate = .ok () := by decide +kernel
  have hfits : layout.SumsFit := by decide
  refine ⟨hvalid, hfits, ?_⟩
  obtain ⟨m, hm, -, hinstalled⟩ := @exists_machine_of_validate Bench.Host Bench.Instrument
    Bench.TestCard _ config hvalid (by rintro io ⟨⟩; exact hfits) {}
  obtain ⟨id, after, hinstall, -, -, -, hplaced⟩ := hinstalled _ rfl fun page host => (page, host)
  exact ⟨m, hm, id, after, hinstall, hplaced⟩

end Machine

end Motherboard
