import Motherboard.Proofs.InstalledPage

/-!
# Calls that map pages

The pages of a bus are mapped, singly or as a range, pointed at other targets, and unmapped. This file says
of each call when it is carried out and what it leaves (`_eq_ok_iff`).

A range is checked before the first of its pages is stored. So it makes no difference that its pages are
stored one after the other: after the check none of them is refused (`fillEach_eq`).
-/

namespace Motherboard

/-- A computation that succeeds has succeeded in its first part. -/
theorem exists_of_bind_eq_ok {ε α β : Type} {x : Except ε α} {f : α → Except ε β} {b : β}
    (h : x >>= f = .ok b) : ∃ a, x = .ok a ∧ f a = .ok b := by
  cases x with
  | error e => cases h
  | ok a => exact ⟨a, rfl, h⟩

namespace PageTable

variable {t : PageTable}

/-- A page is written exactly if it is in the table. -/
theorem set_eq_ok_iff {t' : PageTable} {index : Nat} {entry : Option PageEntry} :
    t.set index entry = .ok t' ↔
      index < t.pageCount ∧ { t with entries := t.entries.setIfInBounds index entry } = t' := by
  unfold set
  split_ifs with hindex
  · rw [Except.ok.injEq, and_iff_right hindex]
  · exact iff_of_false nofun fun h => absurd h.1 hindex

theorem set_of_le {index : Nat} (h : t.pageCount ≤ index) (entry : Option PageEntry) :
    t.set index entry = .error (.indexOutOfRange index t.pageCount) := by
  have hout : ¬ index < t.pageCount := by omega
  rw [set, if_neg hout]

/-- The page that was written holds what was written, and the others what they held. -/
theorem get?_of_set {t' : PageTable} {index : Nat} {entry : Option PageEntry}
    (h : t.set index entry = .ok t') (other : Nat) :
    t'.get? other = if other = index then entry else t.get? other := by
  obtain ⟨hindex, rfl⟩ := set_eq_ok_iff.1 h
  have hsize : index < t.entries.size := hindex
  unfold get?
  split_ifs with hsame
  · rw [hsame, Array.getElem?_setIfInBounds_self_of_lt hsize]
    rfl
  · have hother : index ≠ other := fun h => hsame h.symm
    rw [Array.getElem?_setIfInBounds_ne hother]

theorem pageCount_of_set {t' : PageTable} {index : Nat} {entry : Option PageEntry}
    (h : t.set index entry = .ok t') : t'.pageCount = t.pageCount := by
  obtain ⟨-, rfl⟩ := set_eq_ok_iff.1 h
  exact Array.size_setIfInBounds

theorem geometry_of_set {t' : PageTable} {index : Nat} {entry : Option PageEntry}
    (h : t.set index entry = .ok t') : t'.geometry = t.geometry := by
  obtain ⟨-, rfl⟩ := set_eq_ok_iff.1 h
  rfl

/-- Every page of a filled table: the pages of the range lead to the parts of the target. -/
theorem get?_fill_eq {first count : Nat} (hroom : first + count ≤ t.pageCount) (entry : PageEntry)
    (index : Nat) :
    (t.fill first count entry).get? index =
      if first ≤ index ∧ index < first + count then
        some { entry with base := entry.base + (index - first).toUInt32 * t.geometry.pageSize }
      else t.get? index := by
  split_ifs with hin
  · obtain ⟨i, rfl⟩ := Nat.exists_eq_add_of_le hin.1
    have hi : i < count := by omega
    rw [get?_fill hi hroom, Nat.add_sub_cancel_left]
  · rcases Nat.lt_or_ge index first with hbelow | habove
    · exact get?_fill_of_lt hbelow count entry
    · exact get?_fill_of_le (by omega) entry

/-- Filling pages makes none. -/
@[simp] theorem pageCount_fill (t : PageTable) (first count : Nat) (entry : PageEntry) :
    (t.fill first count entry).pageCount = t.pageCount := by
  induction count generalizing t first entry with
  | zero => rfl
  | succ count ih =>
    rw [fill, ih]
    exact Array.size_setIfInBounds

/-- A range is in order if it is not empty and ends inside the table. -/
theorem checkRange_eq_ok_iff {first count : Nat} :
    t.checkRange first count = .ok () ↔
      0 < count ∧ first + count ≤ indexLimit ∧ first + count ≤ t.pageCount := by
  unfold checkRange
  split_ifs with hempty hlimit hend
  · exact iff_of_false nofun (by omega)
  · exact iff_of_false nofun (by omega)
  · exact iff_of_false nofun (by omega)
  · have hfits : 0 < count ∧ first + count ≤ indexLimit ∧ first + count ≤ t.pageCount := by omega
    exact iff_of_true rfl hfits

/-- The pages of a range stored one after the other, in place: the first page refused ends it, and the
pages before stay. -/
def fillEach (t : PageTable) (index : Nat) : Nat → PageEntry → Except MapError Unit × PageTable
  | 0, _ => (.ok (), t)
  | count + 1, entry =>
    match t.set index (some entry) with
    | .error e => (.error e, t)
    | .ok after =>
      after.fillEach (index + 1) count { entry with base := entry.base + t.geometry.pageSize }

/-- Writing the pages of a range one by one fills the range, because every one of them is in the table. -/
theorem fillEach_eq {first count : Nat} (hroom : first + count ≤ t.pageCount) (entry : PageEntry) :
    t.fillEach first count entry = (.ok (), t.fill first count entry) := by
  induction count generalizing t first entry with
  | zero => rfl
  | succ count ih =>
    obtain ⟨after, hset⟩ : ∃ after, t.set first (some entry) = .ok after :=
      ⟨_, set_eq_ok_iff.2 ⟨by omega, rfl⟩⟩
    have hcount := pageCount_of_set hset
    have hrest : first + 1 + count ≤ after.pageCount := by omega
    -- the page just stored takes no room from the rest
    rw [fillEach, hset]
    dsimp only
    rw [ih hrest, fill]
    obtain ⟨-, rfl⟩ := set_eq_ok_iff.1 hset
    rfl

end PageTable

namespace Bus

variable {ω δ γ : Type} {bus after : Bus ω δ γ}

/-! ## What is carried out -/

/-- A target may be mapped exactly if it exists. -/
theorem checkTarget_eq_ok_iff {id : TargetId} :
    bus.checkTarget id = .ok () ↔ id.index < bus.targets.size := by
  unfold checkTarget
  split_ifs with htarget
  · exact iff_of_true rfl htarget
  · exact iff_of_false nofun htarget

/-- When mapping a page succeeds, and what it does then. -/
theorem mapPage_eq_ok_iff {index : Nat} {entry : PageEntry} :
    bus.mapPage index entry = .ok after ↔ entry.target.index < bus.targets.size ∧
      ∃ table, bus.table.set index (some entry) = .ok table ∧ { bus with table := table } = after := by
  unfold mapPage checkTarget
  split_ifs with htarget
  · rw [and_iff_right htarget]
    cases bus.table.set index (some entry) with
    | error e => exact iff_of_false nofun nofun
    | ok table =>
      constructor
      · rintro ⟨⟩
        exact ⟨table, rfl, rfl⟩
      · rintro ⟨_, ⟨⟩, rfl⟩
        rfl
  · -- without the target the page is not looked at
    exact iff_of_false nofun fun h => absurd h.1 htarget

/-- When mapping a range succeeds, and what it does then. -/
theorem mapRange_eq_ok_iff {first count : Nat} {entry : PageEntry} :
    bus.mapRange first count entry = .ok after ↔ entry.target.index < bus.targets.size ∧
      (0 < count ∧ first + count ≤ PageTable.indexLimit ∧ first + count ≤ bus.table.pageCount) ∧
        { bus with table := bus.table.fill first count entry } = after := by
  unfold mapRange checkTarget
  rw [← PageTable.checkRange_eq_ok_iff]
  split_ifs with htarget
  · rw [and_iff_right htarget]
    cases bus.table.checkRange first count with
    | error e => exact iff_of_false nofun nofun
    | ok =>
      constructor
      · rintro ⟨⟩
        exact ⟨rfl, rfl⟩
      · rintro ⟨-, rfl⟩
        rfl
  · -- without the target the range is not looked at
    exact iff_of_false nofun fun h => absurd h.1 htarget

/-- When unmapping a page succeeds, what it hands back, and what it does. -/
theorem unmapPage_eq_ok_iff {index : Nat} {entry : Option PageEntry} :
    bus.unmapPage index = .ok (entry, after) ↔ bus.table.get? index = entry ∧
      ∃ table, bus.table.set index none = .ok table ∧ { bus with table := table } = after := by
  unfold unmapPage
  cases bus.table.set index none with
  | error e => exact iff_of_false nofun nofun
  | ok table =>
    constructor
    · rintro ⟨⟩
      exact ⟨rfl, table, rfl, rfl⟩
    · rintro ⟨rfl, _, ⟨⟩, rfl⟩
      rfl

variable [Device δ ω]

/-- When a page can be led to another target, and what becomes of its entry. -/
theorem remapPage_eq_ok_iff {index : Nat} {id : TargetId} {base : UInt32} :
    bus.remapPage index id base = .ok after ↔ ∃ t entry table,
      bus.target? id = some t ∧ bus.table.get? index = some entry ∧
        bus.table.set index
            (some { entry with target := id, base := base, capabilities := t.capabilities }) =
          .ok table ∧ { bus with table := table } = after := by
  constructor
  · intro h
    unfold remapPage at h
    cases htarget : bus.target? id with
    | none =>
      rw [htarget] at h
      cases h
    | some t =>
      rw [htarget] at h
      dsimp only at h
      split_ifs at h
      -- the bounds are checked before the page is looked at, though an unmapped page is an error as well
      cases hentry : bus.table.get? index with
      | none =>
        rw [hentry] at h
        cases h
      | some entry =>
        rw [hentry] at h
        obtain ⟨table, hset, hafter⟩ := exists_of_bind_eq_ok h
        cases hafter
        exact ⟨t, entry, table, rfl, rfl, hset, rfl⟩
  · rintro ⟨t, entry, table, htarget, hentry, hset, rfl⟩
    have hindex : index < bus.table.pageCount := (PageTable.set_eq_ok_iff.1 hset).1
    unfold remapPage
    rw [htarget, hentry]
    dsimp only
    rw [if_neg (by omega), hset]
    rfl

end Bus

end Motherboard
