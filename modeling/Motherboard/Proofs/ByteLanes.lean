import Motherboard.Access.Lane
import Mathlib.Tactic.Ring

/-!
# Byte lanes and byte order

There are two ways from bytes to words and back. The lanes of an access fill bytes into a clear
word, or cut them out of it, each at a shift of its own; a byte order joins a list of bytes to a
word, or splits the word into such a list. They agree, whatever the width and the order, and joining
undoes splitting.

Main results:

* `mergeLanes_laneNumbers` — filling the lanes of an access in turn joins their bytes.
* `split_value` — the lane bytes of an access split its value.
* `join_split` — joining the bytes of a word gives the word, cut to the width.
-/

namespace Motherboard

/-! ## Shifts by whole bytes -/

theorem toNat_toUInt32 {n : Nat} (h : n < 2 ^ 32) : n.toUInt32.toNat = n := by
  rw [Nat.toUInt32_eq, UInt32.toNat_ofNat_of_lt' h]

/-- One more may be counted before the others or with them. -/
theorem add_toUInt32_succ (count : UInt32) (n : Nat) :
    count + (n + 1).toUInt32 = count + 1 + n.toUInt32 := by
  rw [Nat.toUInt32_eq, UInt32.ofNat_add, UInt32.add_assoc, UInt32.add_comm 1]
  rfl

/-- A shift by less than four bytes is a shift by that many bits. -/
theorem toNat_byteShift {n : Nat} (h : n < 4) : (n * 8).toUInt32.toNat = n * 8 :=
  toNat_toUInt32 (by omega)

/-- Two shifts by whole bytes are one, as long as they stay within a word. -/
theorem shiftLeft_shiftLeft_bytes {m n : Nat} (word : UInt32) (h : m + n < 4) :
    word <<< (m * 8).toUInt32 <<< (n * 8).toUInt32 = word <<< ((m + n) * 8).toUInt32 := by
  have hm : (m * 8).toUInt32.toNat = m * 8 := toNat_byteShift (by omega)
  have hn : (n * 8).toUInt32.toNat = n * 8 := toNat_byteShift (by omega)
  rw [← UInt32.shiftLeft_add_of_toNat_lt (by omega)]
  congr 1
  simp only [Nat.toUInt32_eq, Nat.add_mul, UInt32.ofNat_add]

/-- Shifts by whole bytes add up. -/
theorem shiftRight_shiftRight_bytes {m n : Nat} (word : UInt32) (h : m + n < 4) :
    word >>> (m * 8).toUInt32 >>> (n * 8).toUInt32 = word >>> ((m + n) * 8).toUInt32 := by
  apply UInt32.toNat_inj.1
  rw [UInt32.toNat_shiftRight, UInt32.toNat_shiftRight, UInt32.toNat_shiftRight,
    toNat_byteShift (by omega), toNat_byteShift (by omega), toNat_byteShift h]
  rw [Nat.mod_eq_of_lt (by omega), Nat.mod_eq_of_lt (by omega), Nat.mod_eq_of_lt (by omega),
    ← Nat.shiftRight_add, Nat.add_mul]

/-! ## Joining and splitting -/

namespace ByteOrder

@[simp] theorem join_nil (order : ByteOrder) : order.join [] = 0 := by
  cases order <;> rfl

@[simp] theorem join_singleton (order : ByteOrder) (byte : UInt8) :
    order.join [byte] = byte.toUInt32 := by
  cases order <;> simp [join]

@[simp] theorem split_one (order : ByteOrder) (word : UInt32) :
    order.split 1 word = [word.toUInt8] := by
  cases order <;> rfl

/-- In little-endian order the first byte is the low one. -/
theorem join_little_cons (byte : UInt8) (bytes : List UInt8) :
    little.join (byte :: bytes) = (little.join bytes <<< 8) ||| byte.toUInt32 := rfl

theorem join_big (bytes : List UInt8) : big.join bytes = little.join bytes.reverse := by
  simp only [join, List.foldr_reverse]

/-- A byte at the end of little-endian bytes stands above them. -/
theorem join_little_concat {bytes : List UInt8} (byte : UInt8) (h : bytes.length < 4) :
    little.join (bytes ++ [byte]) =
      little.join bytes ||| byte.toUInt32 <<< (bytes.length * 8).toUInt32 := by
  induction bytes with
  | nil => simp
  | cons first bytes ih =>
    -- the last byte moves up by one for every byte put before it
    rw [List.length_cons] at h
    rw [List.cons_append, join_little_cons, join_little_cons, ih (by omega), UInt32.shiftLeft_or,
      UInt32.or_assoc, UInt32.or_assoc, UInt32.or_comm first.toUInt32]
    congr 2
    exact shiftLeft_shiftLeft_bytes (n := 1) _ (by omega)

/-- A byte at the front of big-endian bytes stands above them. -/
theorem join_big_cons {bytes : List UInt8} (byte : UInt8) (h : bytes.length < 4) :
    big.join (byte :: bytes) =
      byte.toUInt32 <<< (bytes.length * 8).toUInt32 ||| big.join bytes := by
  rw [join_big, join_big, List.reverse_cons, join_little_concat byte (by simpa using h),
    List.length_reverse, UInt32.or_comm]

@[simp] theorem length_lowFirst (count : Nat) (word : UInt32) :
    (lowFirst count word).length = count := by
  induction count generalizing word with
  | zero => rfl
  | succ count ih => rw [lowFirst, List.length_cons, ih]

@[simp] theorem length_split (order : ByteOrder) (count : Nat) (word : UInt32) :
    (order.split count word).length = count := by
  cases order <;> simp [split]

/-- The low bytes of a word are cut out at the shifts 0, 8, 16, 24. -/
theorem lowFirst_eq_map {count : Nat} (word : UInt32) (h : count ≤ 4) :
    lowFirst count word =
      (List.range count).map fun i => (word >>> (i * 8).toUInt32).toUInt8 := by
  induction count generalizing word with
  | zero => rfl
  | succ count ih =>
    -- the tail is cut out of a word that one byte has been shifted out of
    rw [lowFirst, ih _ (by omega), List.range_succ_eq_map, List.map_cons, List.map_map]
    have htail : ∀ i ∈ List.range count, (word >>> 8 >>> (i * 8).toUInt32).toUInt8 =
        (word >>> ((i + 1) * 8).toUInt32).toUInt8 := by
      intro i hi
      have hi' : i < count := List.mem_range.1 hi
      rw [Nat.add_comm i 1, ← shiftRight_shiftRight_bytes word (by omega)]
      rfl
    rw [List.map_congr_left htail]
    simp

/-- Adding a low byte, as a number. -/
theorem toNat_shiftLeft_or {word : UInt32} (byte : UInt8) (h : word.toNat < 2 ^ 24) :
    ((word <<< 8) ||| byte.toUInt32).toNat = 256 * word.toNat + byte.toNat := by
  have hbyte : byte.toNat < 2 ^ 8 := byte.toNat_lt
  rw [UInt32.toNat_or, UInt32.toNat_shiftLeft, UInt8.toNat_toUInt32]
  show word.toNat <<< 8 % 2 ^ 32 ||| byte.toNat = _
  rw [Nat.mod_eq_of_lt (by rw [Nat.shiftLeft_eq]; omega), ← Nat.shiftLeft_add_eq_or_of_lt hbyte,
    Nat.shiftLeft_eq]
  ring

/-- Splitting and joining leaves the low bytes of a word. -/
theorem toNat_join_lowFirst {count : Nat} (word : UInt32) (h : count ≤ 4) :
    (little.join (lowFirst count word)).toNat = word.toNat % 256 ^ count := by
  induction count generalizing word with
  | zero => simp [lowFirst, Nat.mod_one]
  | succ count ih =>
    -- at most three bytes are joined before the first one, so that no bit is shifted out
    have hrest := ih (word >>> 8) (by omega)
    have hpow : 256 ^ count ≤ 256 ^ 3 := Nat.pow_le_pow_right (by omega) (by omega)
    have hpos : 0 < 256 ^ count := Nat.pow_pos (by omega)
    have hlt := Nat.mod_lt (word >>> 8).toNat hpos
    rw [lowFirst, join_little_cons, toNat_shiftLeft_or _ (by omega), hrest, UInt32.toNat_shiftRight,
      UInt32.toNat_toUInt8]
    show 256 * (word.toNat >>> 8 % 256 ^ count) + word.toNat % 256 = _
    rw [Nat.shiftRight_eq_div_pow, pow_succ' 256 count, Nat.mod_mul, Nat.add_comm]

end ByteOrder

theorem Width.bytes_le (w : Width) : w.bytes ≤ 4 := by
  cases w <;> decide

theorem Width.bytes_pos (w : Width) : 0 < w.bytes := by
  cases w <;> decide

/-- The mask of a width leaves its low bytes. -/
theorem Width.toNat_and_mask (w : Width) (word : UInt32) :
    (word &&& w.mask).toNat = word.toNat % 256 ^ w.bytes := by
  have hword : word.toNat < 2 ^ 32 := word.toNat_lt
  rw [UInt32.toNat_and]
  -- a mask is one less than a power of two
  cases w with
  | byte => exact Nat.and_two_pow_sub_one_eq_mod _ 8
  | word => exact Nat.and_two_pow_sub_one_eq_mod _ 16
  | dword => exact Nat.and_two_pow_sub_one_eq_mod _ 32

/-- Joining undoes splitting, up to the bits that the width cuts off. -/
theorem ByteOrder.join_split (order : ByteOrder) (w : Width) (word : UInt32) :
    order.join (order.split w.bytes word) = word &&& w.mask := by
  have hlow : little.join (lowFirst w.bytes word) = word &&& w.mask := by
    apply UInt32.toNat_inj.1
    rw [toNat_join_lowFirst word w.bytes_le, w.toNat_and_mask]
  cases order with
  | little => exact hlow
  | big => rw [join_big, split, List.reverse_reverse, hlow]

/-! ## Lanes -/

namespace Access

/-- A value with the bytes of several lanes filled in, one after another. -/
def mergeLanes (a : Access) (value : UInt32) : List Nat → List UInt8 → UInt32
  | i :: lanes, byte :: bytes => a.mergeLanes (a.mergeLane value i byte) lanes bytes
  | _, _ => value

variable {a : Access}

/-- Bytes merged into successive little-endian lanes stand above each other. -/
theorem mergeLanes_little (h : a.order = .little) {bytes : List UInt8} {i : Nat} (value : UInt32)
    (hi : i + bytes.length ≤ 4) :
    a.mergeLanes value (List.range' i bytes.length) bytes =
      value ||| ByteOrder.little.join bytes <<< (i * 8).toUInt32 := by
  induction bytes generalizing i value with
  | nil => simp [mergeLanes]
  | cons byte bytes ih =>
    rw [List.length_cons] at hi
    rw [List.length_cons, List.range'_succ, mergeLanes, ih _ (by omega), mergeLane, laneShift, h,
      ByteOrder.join_little_cons, UInt32.shiftLeft_or, UInt32.or_assoc]
    congr 1
    rw [UInt32.or_comm]
    congr 1
    -- the last lane shifts nothing further; for the others both shifts stay within the word
    cases bytes with
    | nil => simp
    | cons next bytes =>
      rw [List.length_cons] at hi
      rw [Nat.add_comm i 1]
      exact (shiftLeft_shiftLeft_bytes _ (by omega)).symm

/-- Bytes merged into successive big-endian lanes stand below each other, down to the last lane. -/
theorem mergeLanes_big (h : a.order = .big) {bytes : List UInt8} {i : Nat} (value : UInt32)
    (hi : i + bytes.length = a.width.bytes) :
    a.mergeLanes value (List.range' i bytes.length) bytes =
      value ||| ByteOrder.big.join bytes := by
  have hw := a.width.bytes_le
  induction bytes generalizing i value with
  | nil => simp [mergeLanes]
  | cons byte bytes ih =>
    rw [List.length_cons] at hi
    -- lane `i` lands above the bytes still to be filled in
    have hshift : a.width.bytes - 1 - i = bytes.length := by omega
    rw [List.length_cons, List.range'_succ, mergeLanes, ih _ (by omega), mergeLane, laneShift, h,
      ByteOrder.join_big_cons _ (by omega), UInt32.or_assoc]
    simp only [hshift]

/-- Merging a byte into each lane joins the bytes in the order of the access. -/
theorem mergeLanes_laneNumbers (a : Access) {bytes : List UInt8}
    (h : bytes.length = a.width.bytes) :
    a.mergeLanes 0 a.laneNumbers bytes = a.order.join bytes := by
  have hw := a.width.bytes_le
  rw [laneNumbers, List.range_eq_range', ← h]
  cases horder : a.order with
  | little => simpa using mergeLanes_little horder 0 (by omega : 0 + bytes.length ≤ 4)
  | big => simpa using mergeLanes_big horder 0 (by omega : 0 + bytes.length = a.width.bytes)

/-- The bytes of a value in the order of the access are those of its lanes. -/
theorem split_value (a : Access) :
    a.order.split a.width.bytes a.value = a.laneNumbers.map a.laneByte := by
  cases horder : a.order with
  | little =>
    rw [ByteOrder.split, ByteOrder.lowFirst_eq_map _ a.width.bytes_le, laneNumbers]
    apply List.map_congr_left
    intro i _
    rw [laneByte, laneShift, horder]
  | big =>
    rw [ByteOrder.split, ByteOrder.lowFirst_eq_map _ a.width.bytes_le, laneNumbers]
    -- the bytes are reversed, so that lane `i` is compared with the byte as far from the end
    apply List.ext_getElem
    · simp
    · intro i hi _
      have hi' : i < a.width.bytes := by simpa using hi
      rw [List.getElem_reverse, List.getElem_map, List.getElem_map, List.getElem_range,
        List.getElem_range, laneByte, laneShift, horder]
      simp

end Access

end Motherboard
