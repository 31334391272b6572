import Motherboard.Proofs.ByteLanes
import Mathlib.Data.Nat.Digits.Defs

/-!
# Lanes take words apart and put them together

A write is taken apart into the bytes of its lanes, and the bytes that a read finds on its lanes are put
together to a word. Every lane has eight bits of the word to itself. So the lanes may be filled in any
order, although filling only sets bits, and the two ways undo each other: what a write takes apart comes
together as its value, cut to the width, and what a read puts together comes apart into the same bytes.

Both are conversions between a word and its bytes in memory order, lowest or highest digit to the base 256
first.

* `ByteOrder.toNat_join_little`, `ByteOrder.split_join` — bytes as digits; splitting undoes joining.
* `fillLanes_perm` — the order of the lanes does not matter.
* `roundTrips` — lanes of every access.
-/

namespace Motherboard

/-! ## Words and their digits -/

namespace ByteOrder

/-- Three bytes leave room for a fourth. -/
theorem ofDigits_lt {bytes : List UInt8} (h : bytes.length ≤ 3) :
    Nat.ofDigits 256 (bytes.map UInt8.toNat) < 2 ^ 24 := by
  have hdigits : ∀ digit ∈ bytes.map UInt8.toNat, digit < 256 := by
    intro digit hdigit
    obtain ⟨byte, -, rfl⟩ := List.mem_map.1 hdigit
    exact byte.toNat_lt
  have hlt := Nat.ofDigits_lt_base_pow_length (by omega) hdigits
  rw [List.length_map] at hlt
  exact hlt.trans_le (Nat.pow_le_pow_right (by omega) h)

/-- The bytes of a word are its digits to the base 256. -/
theorem toNat_join_little {bytes : List UInt8} (h : bytes.length ≤ 4) :
    (little.join bytes).toNat = Nat.ofDigits 256 (bytes.map UInt8.toNat) := by
  induction bytes with
  | nil => rfl
  | cons byte bytes ih =>
    rw [List.length_cons] at h
    have hrest := ih (by omega)
    -- there are at most three bytes above the first one, so that no bit is shifted out
    have hlt : (little.join bytes).toNat < 2 ^ 24 := by
      rw [hrest]
      exact ofDigits_lt (by omega)
    rw [join_little_cons, toNat_shiftLeft_or byte hlt, hrest, List.map_cons, Nat.ofDigits_cons,
      Nat.add_comm]

/-- Splitting undoes joining. -/
theorem lowFirst_join {bytes : List UInt8} (h : bytes.length ≤ 4) :
    lowFirst bytes.length (little.join bytes) = bytes := by
  induction bytes with
  | nil => rfl
  | cons byte bytes ih =>
    rw [List.length_cons] at h
    have hlt : (little.join bytes).toNat < 2 ^ 24 := by
      rw [toNat_join_little (by omega)]
      exact ofDigits_lt (by omega)
    have hword := toNat_shiftLeft_or byte hlt
    have hbyte : byte.toNat < 256 := byte.toNat_lt
    -- the byte at the low end, and the word above it
    have hfirst : (little.join (byte :: bytes)).toUInt8 = byte := by
      apply UInt8.toNat_inj.1
      rw [join_little_cons, UInt32.toNat_toUInt8, hword]
      omega
    have hrest : little.join (byte :: bytes) >>> 8 = little.join bytes := by
      apply UInt32.toNat_inj.1
      rw [join_little_cons, UInt32.toNat_shiftRight, hword]
      show (256 * (little.join bytes).toNat + byte.toNat) >>> 8 = _
      rw [Nat.shiftRight_eq_div_pow]
      omega
    rw [List.length_cons, lowFirst, hfirst, hrest, ih (by omega)]

/-- Splitting undoes joining. -/
theorem split_join (order : ByteOrder) {bytes : List UInt8} (h : bytes.length ≤ 4) :
    order.split bytes.length (order.join bytes) = bytes := by
  cases order with
  | little => exact lowFirst_join h
  | big =>
    have hreverse : lowFirst bytes.reverse.length (little.join bytes.reverse) = bytes.reverse :=
      lowFirst_join (by rwa [List.length_reverse])
    rw [List.length_reverse] at hreverse
    rw [join_big, split, hreverse, List.reverse_reverse]

end ByteOrder

namespace Access

/-- A clear word with the bytes of lanes filled in, one after another. -/
def fillLanes (a : Access) (lanes : List Nat) (bytes : Nat → UInt8) : UInt32 :=
  lanes.foldl (fun value i => a.mergeLane value i (bytes i)) 0

/-- The lanes of an access from the low end of its value upwards. -/
def lanesUpwards (a : Access) : List Nat :=
  match a.order with
  | .little => a.laneNumbers
  | .big => a.laneNumbers.reverse

variable {a b : Access} {lanes : List Nat} {bytes : Nat → UInt8}

/-! ## Filling lanes -/

/-- Filling a lane only sets bits, so two lanes may be filled either way round. -/
theorem fillLanes_perm (h : lanes.Perm a.laneNumbers) (bytes : Nat → UInt8) :
    a.fillLanes lanes bytes = a.fillLanes a.laneNumbers bytes := by
  refine h.foldl_eq' (fun i _ j _ value => ?_) 0
  unfold mergeLane
  rw [UInt32.or_assoc, UInt32.or_comm (_ <<< _), ← UInt32.or_assoc]

/-- Merging bytes that are given for each lane is filling the lanes. -/
theorem mergeLanes_map (a : Access) (value : UInt32) (lanes : List Nat) (bytes : Nat → UInt8) :
    a.mergeLanes value lanes (lanes.map bytes) =
      lanes.foldl (fun value i => a.mergeLane value i (bytes i)) value := by
  induction lanes generalizing value with
  | nil => rfl
  | cons i lanes ih => rw [List.map_cons, mergeLanes, List.foldl_cons, ih]

theorem length_map_laneNumbers (a : Access) (bytes : Nat → UInt8) :
    (a.laneNumbers.map bytes).length = a.width.bytes := by
  rw [List.length_map, laneNumbers, List.length_range]

/-- In whatever order the lanes are filled, their bytes are joined. -/
theorem fillLanes_eq_join (h : lanes.Perm a.laneNumbers) (bytes : Nat → UInt8) :
    a.fillLanes lanes bytes = a.order.join (a.laneNumbers.map bytes) := by
  rw [fillLanes_perm h, fillLanes, ← mergeLanes_map]
  exact a.mergeLanes_laneNumbers (a.length_map_laneNumbers bytes)

/-- In whichever order the lanes are filled, splitting the value gives the bytes back in the order of the
access. -/
theorem split_fillLanes (h : lanes.Perm a.laneNumbers) (bytes : Nat → UInt8) :
    a.order.split a.width.bytes (a.fillLanes lanes bytes) = a.laneNumbers.map bytes := by
  have hlength := a.length_map_laneNumbers bytes
  have hle : (a.laneNumbers.map bytes).length ≤ 4 := by
    rw [hlength]
    exact a.width.bytes_le
  rw [fillLanes_eq_join h, ← hlength, a.order.split_join hle]

/-- Lanes fill no bit above the width. -/
theorem fillLanes_and_mask (h : lanes.Perm a.laneNumbers) (bytes : Nat → UInt8) :
    a.fillLanes lanes bytes &&& a.width.mask = a.fillLanes lanes bytes := by
  -- joining after splitting cuts to the width, and splitting has given the bytes back
  rw [← a.order.join_split, split_fillLanes h, fillLanes_eq_join h]

/-- As a number, the filled lanes are the digits of the value, from the lowest lane up. -/
theorem toNat_fillLanes (h : lanes.Perm a.laneNumbers) (bytes : Nat → UInt8) :
    (a.fillLanes lanes bytes).toNat =
      Nat.ofDigits 256 (a.lanesUpwards.map fun i => (bytes i).toNat) := by
  have hlength : (a.laneNumbers.map bytes).length ≤ 4 := by
    rw [length_map_laneNumbers]
    exact a.width.bytes_le
  rw [fillLanes_eq_join h, lanesUpwards]
  -- the digits go up the lanes in one order and down in the other
  cases a.order with
  | little =>
    rw [ByteOrder.toNat_join_little hlength, List.map_map]
    rfl
  | big =>
    rw [ByteOrder.join_big, ByteOrder.toNat_join_little (by rwa [List.length_reverse]),
      ← List.map_reverse, List.map_map]
    rfl

/-! ## Lanes of a write -/

theorem lane_value_of_write (h : a.intent.isWrite = true) (i : Nat) :
    (a.lane i).value = (a.laneByte i).toUInt32 :=
  if_pos h

/-- The lanes of a write are the bytes of its value. -/
theorem split_value_of_write (h : a.intent.isWrite = true) :
    a.laneNumbers.map (fun i => (a.lane i).value.toUInt8) =
      a.order.split a.width.bytes a.value := by
  rw [split_value]
  apply List.map_congr_left
  intro i _
  rw [lane_value_of_write h, UInt8.toUInt8_toUInt32]

/-- Merging what a write was split into gives its value, cut to the width. -/
theorem fillLanes_of_write (hwrite : a.intent.isWrite = true) (h : lanes.Perm a.laneNumbers) :
    a.fillLanes lanes (fun i => (a.lane i).value.toUInt8) = a.value &&& a.width.mask := by
  rw [fillLanes_eq_join h, split_value_of_write hwrite, ByteOrder.join_split]

/-- A write of the word that was merged splits into the bytes again. -/
theorem lane_value_of_fillLanes (h : lanes.Perm a.laneNumbers) (hwrite : b.intent.isWrite = true)
    (hwidth : b.width = a.width) (horder : b.order = a.order)
    (hvalue : b.value = a.fillLanes lanes bytes) {i : Nat} (hi : i < a.width.bytes) :
    (b.lane i).value = (bytes i).toUInt32 := by
  have hlanes : b.laneNumbers = a.laneNumbers := by rw [laneNumbers, laneNumbers, hwidth]
  -- lane by lane, the bytes of the write are those that were merged
  have hsame : a.laneNumbers.map b.laneByte = a.laneNumbers.map bytes := by
    rw [← split_fillLanes h bytes, ← hvalue, ← horder, ← hwidth, split_value, hlanes]
  rw [lane_value_of_write hwrite]
  exact congrArg UInt8.toUInt32 (List.map_inj_left.1 hsame i (List.mem_range.2 hi))

/-! ## Every access -/

/-- Each lane is a whole byte inside the width. -/
theorem laneShift_lt {i : Nat} (hi : i < a.width.bytes) :
    8 ∣ a.laneShift i ∧ a.laneShift i < a.width.bits := by
  have hbits : a.width.bits = a.width.bytes * 8 := by cases a.width <;> rfl
  unfold laneShift
  cases a.order with
  | little => exact ⟨Nat.dvd_mul_left _ _, by dsimp only; omega⟩
  | big => exact ⟨Nat.dvd_mul_left _ _, by dsimp only; omega⟩

/-- Different lanes are different bytes of the value. -/
theorem eq_of_laneShift_eq {i j : Nat} (hi : i < a.width.bytes) (hj : j < a.width.bytes)
    (h : a.laneShift i = a.laneShift j) : i = j := by
  unfold laneShift at h
  cases horder : a.order with
  | little =>
    rw [horder] at h
    dsimp only at h
    omega
  | big =>
    rw [horder] at h
    dsimp only at h
    omega

/-- Splitting an access into lanes and merging its lanes undo each other. -/
structure RoundTrips (a : Access) : Prop where
  /-- Every lane lies at a byte of the value. -/
  shifts : ∀ i < a.width.bytes, 8 ∣ a.laneShift i ∧ a.laneShift i < a.width.bits
  /-- No two lanes lie at the same byte. -/
  distinct : ∀ i < a.width.bytes, ∀ j < a.width.bytes, a.laneShift i = a.laneShift j → i = j
  /-- The lanes of a write, merged in any order, give its value, cut to the width. -/
  mergeSplit : a.intent.isWrite = true → ∀ lanes, lanes.Perm a.laneNumbers →
    a.fillLanes lanes (fun i => (a.lane i).value.toUInt8) = a.value &&& a.width.mask
  /-- Bytes merged in any order are the lanes of a write of the word that they make. -/
  splitMerge : ∀ lanes bytes, lanes.Perm a.laneNumbers →
    ∀ b : Access, b.intent.isWrite = true → b.width = a.width → b.order = a.order →
      b.value = a.fillLanes lanes bytes →
        ∀ i < a.width.bytes, (b.lane i).value = (bytes i).toUInt32
  /-- Such a word stays within the width, so that no write has to cut it. -/
  within : ∀ lanes bytes, lanes.Perm a.laneNumbers →
    a.fillLanes lanes bytes &&& a.width.mask = a.fillLanes lanes bytes
  /-- Merging joins the bytes in memory order. -/
  joins : ∀ lanes bytes, lanes.Perm a.laneNumbers →
    a.fillLanes lanes bytes = a.order.join (a.laneNumbers.map bytes)
  /-- The bytes are the digits of the word to the base 256. -/
  digits : ∀ lanes bytes, lanes.Perm a.laneNumbers →
    (a.fillLanes lanes bytes).toNat = Nat.ofDigits 256 (a.lanesUpwards.map fun i => (bytes i).toNat)
  /-- The lanes of a write are the bytes of its value in memory order. -/
  splits : a.intent.isWrite = true →
    a.laneNumbers.map (fun i => (a.lane i).value.toUInt8) = a.order.split a.width.bytes a.value

/-- **Lanes and values are inverse to each other.** Whatever the width, the byte order and the order in
which the lanes are filled: filling the lanes of an access and taking them apart again gives the same
bytes, and taking apart a value and filling the lanes with it gives the same value. -/
theorem roundTrips (a : Access) : a.RoundTrips where
  shifts := fun _ hi => laneShift_lt hi
  distinct := fun _ hi _ hj => eq_of_laneShift_eq hi hj
  mergeSplit := fun hwrite _ h => fillLanes_of_write hwrite h
  splitMerge := fun _ _ h _ hwrite hwidth horder hvalue _ hi =>
    lane_value_of_fillLanes h hwrite hwidth horder hvalue hi
  within := fun _ bytes h => fillLanes_and_mask h bytes
  joins := fun _ bytes h => fillLanes_eq_join h bytes
  digits := fun _ bytes h => toNat_fillLanes h bytes
  splits := split_value_of_write

end Access

end Motherboard
