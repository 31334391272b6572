import Motherboard.Machine
import Motherboard.Proofs.BusRun

/-!
# The installed I/O page

`Machine.installIoPage` adds an I/O page to the bus and maps as many bus pages to it as its layout
spans. `HasIoPage` says that a machine still is as this has left it, and `hasIoPage_installIoPage` that
installing succeeds on every machine whose configuration is valid.

Then an address of the I/O page is found at the device offset that it has in the page, however many bus
pages the I/O page takes (`HasIoPage.entryFor?`, `HasIoPage.deviceOffset`).
-/

namespace Motherboard

/-! ## Filled ranges of pages -/

namespace PageTable

variable {t : PageTable}

/-- A table as it is built has no pages. -/
theorem get?_replicate (g : Geometry) (count index : Nat) :
    (PageTable.mk g (Array.replicate count none)).get? index = none := by
  rw [get?, Array.getElem?_replicate]
  split_ifs <;> rfl

@[simp] theorem geometry_fill (t : PageTable) (index count : Nat) (entry : PageEntry) :
    (t.fill index count entry).geometry = t.geometry := by
  induction count generalizing t index entry with
  | zero => rfl
  | succ count ih =>
    rw [fill, ih]

/-- Pages before a range are not filled. -/
theorem get?_fill_of_lt {index other : Nat} (h : other < index) (count : Nat) (entry : PageEntry) :
    (t.fill index count entry).get? other = t.get? other := by
  induction count generalizing t index entry with
  | zero => rfl
  | succ count ih =>
    rw [fill, ih (by omega), get?, get?, Array.getElem?_setIfInBounds_ne (by omega)]

/-- The pages after a filled range are as before. -/
theorem get?_fill_of_le {index count other : Nat} (h : index + count ≤ other) (entry : PageEntry) :
    (t.fill index count entry).get? other = t.get? other := by
  induction count generalizing t index entry with
  | zero => rfl
  | succ count ih =>
    rw [fill, ih (by omega), get?, get?, Array.getElem?_setIfInBounds_ne (by omega)]

/-- Page `i` of a filled range leads to part `i` of the target. -/
theorem get?_fill {index count i : Nat} (hi : i < count) (hroom : index + count ≤ t.pageCount)
    (entry : PageEntry) :
    (t.fill index count entry).get? (index + i) =
      some { entry with base := entry.base + i.toUInt32 * t.geometry.pageSize } := by
  induction count generalizing t index i entry with
  | zero => omega
  | succ count ih =>
    rw [fill]
    cases i with
    | zero =>
      -- the pages after the first one leave it
      have hindex : index < t.entries.size := by
        rw [pageCount] at hroom
        omega
      rw [Nat.add_zero, get?_fill_of_lt (by omega)]
      show (t.entries.setIfInBounds index (some entry))[index]?.join = _
      rw [Array.getElem?_setIfInBounds_self_of_lt hindex]
      simp
    | succ i =>
      have hsize : index + 1 + count ≤
          PageTable.pageCount { t with entries := t.entries.setIfInBounds index (some entry) } := by
        rw [pageCount, Array.size_setIfInBounds]
        rw [pageCount] at hroom
        omega
      have hrest := ih (by omega : i < count) hsize
        { entry with base := entry.base + t.geometry.pageSize }
      rw [Nat.add_right_comm, Nat.add_assoc] at hrest
      have hone : UInt32.ofNat 1 * t.geometry.pageSize = t.geometry.pageSize := UInt32.one_mul _
      -- the first page counts before the others or after them
      rw [hrest, Nat.toUInt32_eq, Nat.toUInt32_eq, UInt32.ofNat_add, UInt32.add_mul, hone,
        UInt32.add_assoc, UInt32.add_comm t.geometry.pageSize]

end PageTable

theorem Bus.mapRange_of_room {ω δ γ : Type} {bus : Bus ω δ γ} {first count : Nat}
    {entry : PageEntry} (htarget : entry.target.index < bus.targets.size) (hcount : 0 < count)
    (hroom : first + count ≤ bus.table.pageCount)
    (hlimit : bus.table.pageCount ≤ PageTable.indexLimit) :
    bus.mapRange first count entry = .ok { bus with table := bus.table.fill first count entry } := by
  unfold mapRange checkTarget PageTable.checkRange
  rw [if_pos htarget, if_neg (by omega), if_neg (by omega), if_neg (by omega)]
  rfl

/-! ## Valid configurations -/

/-- What the check of an I/O page promises: a layout in order, a base on a page boundary, and room on the
bus. -/
theorem IoPageConfig.of_validate {io : IoPageConfig} {g : Geometry} (h : io.validate g = .ok ()) :
    io.layout.isWellFormed = true ∧ io.base.toNat % 2 ^ g.pageShift.toNat = 0 ∧
      io.base.toNat + io.layout.span.toNat ≤ 2 ^ g.addressBits.toNat := by
  unfold validate at h
  dsimp only at h
  rw [Nat.one_shiftLeft, Nat.one_shiftLeft] at h
  split_ifs at h with hlayout haligned hrange
  exact ⟨by simpa using hlayout, by omega, by omega⟩

/-- An I/O page is not empty. -/
theorem IoPageLayout.span_pos {l : IoPageLayout} (h : l.isWellFormed = true) :
    0 < l.span.toNat := by
  unfold isWellFormed at h
  simp only [Bool.and_eq_true, decide_eq_true_eq] at h
  obtain ⟨⟨⟨-, hexpansion⟩, -⟩, -⟩ := h
  exact Nat.zero_lt_of_lt (UInt32.lt_iff_toNat_lt.1 hexpansion)

/-- What the check of a machine promises of its bus and of its I/O page. -/
theorem MachineConfig.of_validate {c : MachineConfig} (h : c.validate = .ok ()) :
    c.bus.geometry.isSupported = true ∧
      ∀ io, c.ioPage = some io → io.validate c.bus.geometry = .ok () := by
  unfold validate at h
  split_ifs at h with hgeometry hslots
  refine ⟨by simpa using hgeometry, fun io hio => ?_⟩
  rw [hio] at h
  exact h

/-- The I/O page of a valid configuration starts with a bus page and does not leave the space. -/
theorem MachineConfig.place_of_validate {c : MachineConfig} (h : c.validate = .ok ()) {io : IoPageConfig}
    (hio : c.ioPage = some io) :
    io.layout.isWellFormed = true ∧ io.base.toNat % c.bus.geometry.pageSize.toNat = 0 ∧
      io.base.toNat + io.layout.span.toNat ≤ 2 ^ c.bus.geometry.addressBits.toNat := by
  obtain ⟨hgeometry, hplace⟩ := of_validate h
  rw [Geometry.toNat_pageSize hgeometry]
  exact IoPageConfig.of_validate (hplace io hio)

/-- An address that the base and a place in the page add up to is not cut. -/
theorem MachineConfig.and_addressMask_of_validate {c : MachineConfig} (h : c.validate = .ok ())
    {io : IoPageConfig} (hio : c.ioPage = some io) {address offset : UInt32}
    (haddress : address.toNat = io.base.toNat + offset.toNat)
    (hoffset : offset.toNat < io.layout.span.toNat) :
    address &&& c.bus.geometry.addressMask = address := by
  obtain ⟨-, -, hend⟩ := place_of_validate h hio
  apply UInt32.toNat_inj.1
  rw [Geometry.toNat_and_addressMask (of_validate h).1, Nat.mod_eq_of_lt (by omega)]

/-- The pages below the base are whole. -/
theorem MachineConfig.pageIndex_base_of_validate {c : MachineConfig} (h : c.validate = .ok ())
    {io : IoPageConfig} (hio : c.ioPage = some io) :
    c.bus.geometry.pageIndex io.base * c.bus.geometry.pageSize.toNat = io.base.toNat := by
  obtain ⟨hlayout, haligned, -⟩ := place_of_validate h hio
  have hself : io.base.toNat = io.base.toNat + (0 : UInt32).toNat := rfl
  rw [Geometry.pageIndex_eq_div, and_addressMask_of_validate h hio hself (IoPageLayout.span_pos hlayout),
    Nat.div_mul_cancel (Nat.dvd_of_mod_eq_zero haligned)]

namespace Machine

variable {ω δ γ : Type}

/-- Entry of bus page `i` of the I/O page. -/
def ioPageEntry (id : TargetId) (g : Geometry) (i : Nat) : PageEntry :=
  ⟨ioPageDevice, .io, .readWrite, IoPage.capabilities, id, i.toUInt32 * g.pageSize⟩

/-- The pages that an I/O page takes: as many as its last byte needs. -/
theorem ioPageCount_eq {layout : IoPageLayout} (h : 0 < layout.span.toNat) (g : Geometry) :
    ioPageCount layout g = (layout.span.toNat - 1) / g.pageSize.toNat + 1 := by
  unfold ioPageCount
  have hround : layout.span.toNat + g.pageSize.toNat - 1 =
      layout.span.toNat - 1 + g.pageSize.toNat := by omega
  rw [hround, Nat.add_div_right _ g.toNat_pageSize_pos]
  exact Nat.max_eq_right (Nat.succ_le_succ (Nat.zero_le _))

/-- The machine has the I/O page of its configuration, which is valid, as target `id`, and all bus pages
of the I/O page lead there. -/
structure HasIoPage (m : Machine ω δ γ) (io : IoPageConfig) (id : TargetId) (p : IoPage δ) : Prop where
  configured : m.config.ioPage = some io
  valid : m.config.validate = .ok ()
  geometry : m.bus.table.geometry = m.config.bus.geometry
  layout : p.layout = io.layout
  target : m.bus.target? id = some (.page p)
  mapped : ∀ i < ioPageCount io.layout m.bus.table.geometry,
    m.bus.table.get? (m.bus.table.geometry.pageIndex io.base + i) =
      some (ioPageEntry id m.bus.table.geometry i)

variable {m : Machine ω δ γ} {io : IoPageConfig} {id : TargetId} {p : IoPage δ}
  {address offset : UInt32}

/-- The place of the I/O page: it starts with a bus page and does not leave the space. -/
theorem HasIoPage.place (h : m.HasIoPage io id p) :
    io.layout.isWellFormed = true ∧ io.base.toNat % m.bus.table.geometry.pageSize.toNat = 0 ∧
      io.base.toNat + io.layout.span.toNat ≤ 2 ^ m.bus.table.geometry.addressBits.toNat := by
  rw [h.geometry]
  exact MachineConfig.place_of_validate h.valid h.configured

/-- The bus sees an address of the I/O page as it is. -/
theorem HasIoPage.and_addressMask (h : m.HasIoPage io id p)
    (haddress : address.toNat = io.base.toNat + offset.toNat)
    (hoffset : offset.toNat < io.layout.span.toNat) :
    address &&& m.bus.table.geometry.addressMask = address := by
  rw [h.geometry]
  exact MachineConfig.and_addressMask_of_validate h.valid h.configured haddress hoffset

/-- An I/O page starts where a page of the bus does. -/
theorem HasIoPage.pageIndex_base (h : m.HasIoPage io id p) :
    m.bus.table.geometry.pageIndex io.base * m.bus.table.geometry.pageSize.toNat = io.base.toNat := by
  rw [h.geometry]
  exact MachineConfig.pageIndex_base_of_validate h.valid h.configured

/-- The base is a whole number of bus pages, from which the offset counts on. -/
theorem HasIoPage.page (h : m.HasIoPage io id p) (haddress : address.toNat = io.base.toNat + offset.toNat) :
    address.toNat / m.bus.table.geometry.pageSize.toNat =
      m.bus.table.geometry.pageIndex io.base +
        offset.toNat / m.bus.table.geometry.pageSize.toNat := by
  rw [haddress, ← h.pageIndex_base, Nat.mul_comm _ m.bus.table.geometry.pageSize.toNat,
    Nat.mul_add_div m.bus.table.geometry.toNat_pageSize_pos]

/-- Every address of the I/O page is mapped to it. -/
theorem HasIoPage.entryFor? (h : m.HasIoPage io id p)
    (haddress : address.toNat = io.base.toNat + offset.toNat)
    (hoffset : offset.toNat < io.layout.span.toNat) :
    m.bus.table.entryFor? address = some (ioPageEntry id m.bus.table.geometry
      (offset.toNat / m.bus.table.geometry.pageSize.toNat)) := by
  have hindex : m.bus.table.geometry.pageIndex address =
      m.bus.table.geometry.pageIndex io.base +
        offset.toNat / m.bus.table.geometry.pageSize.toNat := by
    rw [Geometry.pageIndex_eq_div _ address, h.and_addressMask haddress hoffset, h.page haddress]
  -- as many bus pages are mapped as the last offset needs
  have hpage : offset.toNat / m.bus.table.geometry.pageSize.toNat <
      ioPageCount io.layout m.bus.table.geometry := by
    rw [ioPageCount_eq (by omega)]
    exact Nat.lt_succ_of_le (Nat.div_le_div_right (by omega))
  rw [PageTable.entryFor?, hindex]
  exact h.mapped _ hpage

/-- The page entry leads an address of the I/O page to its place in the page. -/
theorem HasIoPage.deviceOffset (h : m.HasIoPage io id p)
    (haddress : address.toNat = io.base.toNat + offset.toNat) :
    m.bus.routing.deviceOffset (ioPageEntry id m.bus.table.geometry
      (offset.toNat / m.bus.table.geometry.pageSize.toNat)) address = offset := by
  -- the entry gives the whole bus pages below the offset, and the address the rest
  have hdistance := Geometry.toNat_distance _ h.pageIndex_base (h.page haddress)
  apply UInt32.toNat_inj.1
  show (_ * m.bus.table.geometry.pageSize + m.bus.table.geometry.pageOffset address).toNat = _
  omega

/-! ## Installing -/

/-- The bus has the page table that goes with the configuration, and the configuration is valid. -/
structure IsBuilt (m : Machine ω δ γ) : Prop where
  valid : m.config.validate = .ok ()
  geometry : m.bus.table.geometry = m.config.bus.geometry
  pages : m.bus.table.pageCount = m.bus.table.geometry.pageCount

/-- The machine that is built from a valid configuration. -/
def bare (config : MachineConfig) (host : ω) : Machine ω δ γ where
  config := config
  bus :=
    { config := config.bus
      table := ⟨config.bus.geometry, Array.replicate config.bus.geometry.pageCount none⟩
      targets := #[]
      diagnostics := .zero
      backplane :=
        { floating := config.bus.floating.lines
          overrides := #[]
          host := host
          banked := #[]
          rack := .empty config.slotCount } }
  traps := { policy := config.trapPolicy }

/-- A machine is built exactly from a configuration that passes its check. -/
theorem ofConfig?_eq_ok_iff {config : MachineConfig} {host : ω} :
    ofConfig? config host = .ok m ↔ config.validate = .ok () ∧ m = bare config host := by
  unfold ofConfig?
  cases hvalid : config.validate with
  | error e => simp
  | ok _ =>
    dsimp only
    unfold Bus.ofConfig? PageTable.ofGeometry?
    rw [if_pos (MachineConfig.of_validate hvalid).1]
    simp [bare, eq_comm]

/-- A machine that was built has a table of its geometry. -/
theorem isBuilt_of_ofConfig? {config : MachineConfig} {host : ω}
    (h : ofConfig? config host = .ok m) : m.IsBuilt := by
  obtain ⟨hvalid, rfl⟩ := ofConfig?_eq_ok_iff.1 h
  exact ⟨hvalid, rfl, Array.size_replicate⟩

/-- The pages of the I/O page are in the table. -/
theorem IsBuilt.room (h : m.IsBuilt) (hio : m.config.ioPage = some io) :
    m.bus.table.geometry.pageIndex io.base + ioPageCount io.layout m.bus.table.geometry ≤
      m.bus.table.pageCount := by
  obtain ⟨hgeometry, -⟩ := MachineConfig.of_validate h.valid
  obtain ⟨hlayout, -, hend⟩ := MachineConfig.place_of_validate h.valid hio
  have hbase := MachineConfig.pageIndex_base_of_validate h.valid hio
  have hspan := IoPageLayout.span_pos hlayout
  rw [h.pages, h.geometry]
  obtain ⟨hshift, hbits⟩ := Geometry.shift_lt_bits hgeometry
  have hpos := m.config.bus.geometry.toNat_pageSize_pos
  -- the space is a whole number of pages
  have hspace : 2 ^ m.config.bus.geometry.addressBits.toNat =
      m.config.bus.geometry.pageCount * m.config.bus.geometry.pageSize.toNat := by
    rw [Geometry.toNat_pageSize hgeometry, Geometry.pageCount, Nat.one_shiftLeft, ← Nat.pow_add]
    congr 1
    omega
  -- the last byte of the I/O page lies in the space, and so does its bus page
  have hlast : (io.base.toNat + (io.layout.span.toNat - 1)) /
      m.config.bus.geometry.pageSize.toNat < m.config.bus.geometry.pageCount := by
    rw [Nat.div_lt_iff_lt_mul hpos, ← hspace]
    omega
  rw [← hbase, Nat.mul_comm, Nat.mul_add_div hpos] at hlast
  rw [ioPageCount_eq hspan]
  omega

/-- Its pages can be counted by the numbers that name them. -/
theorem IsBuilt.pageCount_le (h : m.IsBuilt) : m.bus.table.pageCount ≤ PageTable.indexLimit := by
  have hsupported := (MachineConfig.of_validate h.valid).1
  unfold Geometry.isSupported at hsupported
  simp only [Bool.and_eq_true, decide_eq_true_eq] at hsupported
  obtain ⟨-, hcount⟩ := hsupported
  rw [h.pages, h.geometry]
  exact hcount.trans (by decide)

variable [Device δ ω]

/-- Installing the I/O page of a valid configuration succeeds, whatever parts are attached to it. -/
theorem hasIoPage_installIoPage (h : m.IsBuilt) (hio : m.config.ioPage = some io)
    {build : IoPage δ → ω → IoPage δ × ω}
    (hbuild : ∀ page host, (build page host).1.layout = page.layout) :
    ∃ id p, (m.installIoPage build).1 = .ok id ∧ (m.installIoPage build).2.HasIoPage io id p := by
  have hroom := h.room hio
  have hlayout := hbuild { layout := io.layout, switches := m.bus.backplane.overrides.size }
    m.bus.backplane.host
  rcases hpage : build { layout := io.layout, switches := m.bus.backplane.overrides.size }
    m.bus.backplane.host with ⟨p, host⟩
  rw [hpage] at hlayout
  -- the page is the last target when its bus pages are mapped
  have hlast : (m.bus.targets.push (.page p))[m.bus.targets.size]? = some (.page p) :=
    Array.getElem?_push_size
  refine ⟨⟨m.bus.targets.size⟩, p, ?_⟩
  unfold installIoPage
  rw [hio]
  dsimp only
  rw [hpage]
  dsimp only [Bus.addTarget, Bus.pageEntry, Bus.target?]
  rw [hlast]
  dsimp only [bind, Except.bind, Target.capabilities]
  -- mapping succeeds, and leaves what the machine is to have; then what mapping asks for
  rw [Bus.mapRange_of_room]
  · refine ⟨rfl, hio, h.valid, ?_, hlayout, hlast, ?_⟩
    · exact (PageTable.geometry_fill _ _ _ _).trans h.geometry
    · intro i hi
      rw [PageTable.geometry_fill] at hi ⊢
      rw [PageTable.get?_fill hi hroom]
      simp [ioPageEntry]
  · simp
  · exact Nat.lt_of_lt_of_le Nat.one_pos (Nat.le_max_left _ _)
  · exact hroom
  · exact h.pageCount_le

end Machine

end Motherboard
