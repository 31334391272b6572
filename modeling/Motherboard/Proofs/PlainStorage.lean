import Motherboard.Device.Part
import Motherboard.Proofs.ByteLanes
import Mathlib.Tactic.SplitIfs

/-!
# Plain storage

What loads and stores of a row of bytes give and change, byte by byte. A ROM shows to a look the byte that
it gives to a read (`looksAsRead_rom`).
-/

namespace Motherboard

/-- Taking all of a list succeeds if each item can be taken. -/
theorem mapM_eq_some_iff {α β : Type} {f : α → Option β} {xs : List α} {ys : List β} :
    xs.mapM f = some ys ↔ xs.map f = ys.map some := by
  induction xs generalizing ys with
  | nil => cases ys <;> simp
  | cons x xs ih =>
    rw [List.mapM_cons]
    cases hx : f x with
    | none =>
      -- both sides fail on the first element
      cases ys <;> simp [hx]
    | some y =>
      cases ys with
      | nil =>
        cases xs.mapM f <;> simp
      | cons y' ys =>
        rw [List.map_cons, List.map_cons, hx, List.cons.injEq, ← ih]
        cases xs.mapM f <;> simp

namespace Storage

/-- A window into a storage shows its cells, and all of them exist. -/
theorem window?_eq_some_iff {s : Storage} {offset : UInt32} {count : Nat} {bytes : List UInt8} :
    s.window? offset count = some bytes ↔
      (List.range count).map (fun i => s.cells[offset.toNat + i]?) = bytes.map some :=
  mapM_eq_some_iff

/-- A load succeeds inside the storage and joins the bytes it shows. -/
theorem load_eq_ok_iff {s : Storage} {width : Width} {order : ByteOrder} {offset value : UInt32} :
    s.load width order offset = .ok value ↔
      ∃ bytes, s.window? offset width.bytes = some bytes ∧ value = order.join bytes := by
  unfold load
  cases s.window? offset width.bytes with
  | none => simp
  | some bytes => simp [eq_comm]

/-- Laying bytes over a storage keeps its size. -/
@[simp] theorem size_overlay (s : Storage) (i : Nat) (bytes : List UInt8) :
    (s.overlay i bytes).size = s.size := by
  induction bytes generalizing s i with
  | nil => rfl
  | cons byte bytes ih =>
    rw [overlay, ih]
    exact Array.size_setIfInBounds

/-- A store that succeeds lies inside the storage and lays its bytes over it. -/
theorem store_eq_ok {s s' : Storage} {width : Width} {order : ByteOrder} {offset value : UInt32}
    (h : s.store width order offset value = (.ok (), s')) :
    offset.toNat + width.bytes ≤ s.size ∧
      s' = s.overlay offset.toNat (order.split width.bytes value) := by
  unfold store replace? at h
  rw [ByteOrder.length_split] at h
  split_ifs at h with hfit
  · exact ⟨hfit, by cases h; rfl⟩
  · cases h

/-- A load that succeeds lies inside the storage. -/
theorem fits_of_load {s : Storage} {width : Width} {order : ByteOrder} {offset value : UInt32}
    (h : s.load width order offset = .ok value) : offset.toNat + width.bytes ≤ s.size := by
  obtain ⟨bytes, hbytes, -⟩ := load_eq_ok_iff.1 h
  rw [window?_eq_some_iff] at hbytes
  have hpos := width.bytes_pos
  -- the last byte of the window is there, so the window ends inside
  have hmem : s.cells[offset.toNat + (width.bytes - 1)]? ∈ bytes.map some := by
    rw [← hbytes]
    exact List.mem_map_of_mem (List.mem_range.2 (by omega))
  obtain ⟨byte, -, hlast⟩ := List.mem_map.1 hmem
  obtain ⟨hlt, -⟩ := Array.getElem?_eq_some_iff.1 hlast.symm
  show _ ≤ s.cells.size
  omega

/-- A poke stores a byte inside the storage and does nothing outside of it. -/
theorem poke_snd (s : Storage) (offset : UInt32) (value : UInt8) :
    (s.poke offset value).2 = ⟨s.cells.setIfInBounds offset.toNat value⟩ := by
  unfold poke replace?
  split_ifs with hfit
  · rfl
  · have hout : s.cells.size ≤ offset.toNat := by
      simp only [List.length_singleton, size] at hfit
      omega
    rw [Array.setIfInBounds, dif_neg (by omega)]

end Storage

namespace Part

variable {δ ω : Type} [Device δ ω]

/-- A part shows to a look the byte that it gives to a read. -/
def LooksAsRead (part : Part δ) (board : Board ω) : Prop :=
  ∀ offset access word, (Part.read .byte offset access (part, board)).1 = .ok word →
    (part.peek offset board).1 = some word.toUInt8

/-- A byte that was loaded is in its cell. -/
theorem get?_of_load_byte {store : Storage} {order : ByteOrder} {offset word : UInt32}
    (h : store.load .byte order offset = .ok word) : store.get? offset = some word.toUInt8 := by
  obtain ⟨bytes, hbytes, rfl⟩ := Storage.load_eq_ok_iff.1 h
  rw [Storage.window?_eq_some_iff] at hbytes
  have hlength : bytes.length = 1 := by
    simpa [Width.bytes] using (congrArg List.length hbytes).symm
  obtain ⟨byte, rfl⟩ := List.length_eq_one_iff.1 hlength
  rw [ByteOrder.join_singleton, UInt8.toUInt8_toUInt32]
  exact (List.cons.inj hbytes).1

theorem looksAsRead_rom (store : Storage) (board : Board ω) :
    (rom store : Part δ).LooksAsRead board :=
  fun _ _ _ => get?_of_load_byte

end Part

end Motherboard
