/-!
# Sets of characters

A property of characters is kept as closed ranges of code points, in ascending order and apart, so
that a set has one list of ranges. Looking a character up stops at the first range past it;
`CharSet.contains_iff` says that this finds the characters that lie in some range, and no others.
-/

namespace Motherboard.Text

/-- Every range starts at `low` or later, ends no earlier than it starts, and leaves a gap before
the next one. -/
def isAscendingFrom (low : Nat) : List (Nat × Nat) → Bool
  | [] => true
  | (first, last) :: rest =>
    decide (low ≤ first) && decide (first ≤ last) && isAscendingFrom (last + 2) rest

/-- Some range covers the number; the search ends at a range that starts past it. -/
def covers (n : Nat) : List (Nat × Nat) → Bool
  | [] => false
  | (first, last) :: rest =>
    if n < first then false else decide (n ≤ last) || covers n rest

/-- No range of an ascending list starts before its bound. -/
theorem le_of_isAscendingFrom {low : Nat} {ranges : List (Nat × Nat)}
    (h : isAscendingFrom low ranges = true) {range : Nat × Nat} (hr : range ∈ ranges) :
    low ≤ range.1 := by
  induction ranges generalizing low with
  | nil => cases hr
  | cons head rest ih =>
    simp only [isAscendingFrom, Bool.and_eq_true, decide_eq_true_eq] at h
    rcases List.mem_cons.1 hr with rfl | hr
    · exact h.1.1
    · have := ih h.2 hr
      omega

/-- Stopping early loses nothing when the ranges ascend. -/
theorem covers_iff {low n : Nat} {ranges : List (Nat × Nat)}
    (h : isAscendingFrom low ranges = true) :
    covers n ranges = true ↔ ∃ range ∈ ranges, range.1 ≤ n ∧ n ≤ range.2 := by
  induction ranges generalizing low with
  | nil => simp [covers]
  | cons head rest ih =>
    simp only [isAscendingFrom, Bool.and_eq_true, decide_eq_true_eq] at h
    simp only [covers, List.mem_cons, exists_eq_or_imp]
    -- below the first range the search ends, and all later ranges start higher still
    by_cases hn : n < head.1
    · simp only [if_pos hn, Bool.false_eq_true, false_iff, not_or, not_exists, not_and]
      refine ⟨fun _ => by omega, fun range hr _ => ?_⟩
      have := le_of_isAscendingFrom h.2 hr
      omega
    · simp only [if_neg hn, Bool.or_eq_true, decide_eq_true_eq, ih h.2]
      exact or_congr_left ⟨fun hl => ⟨by omega, hl⟩, And.right⟩

/-- A set of characters as ranges of code points. -/
structure CharSet where
  /-- The first and the last code point of each range. -/
  ranges : List (Nat × Nat)
  /-- The ranges ascend and do not touch. -/
  ascending : isAscendingFrom 0 ranges = true

namespace CharSet

/-- The character lies in the set. -/
def contains (s : CharSet) (c : Char) : Bool := covers c.toNat s.ranges

/-- A set holds the characters whose code point lies in one of its ranges. -/
theorem contains_iff (s : CharSet) (c : Char) :
    s.contains c = true ↔ ∃ range ∈ s.ranges, range.1 ≤ c.toNat ∧ c.toNat ≤ range.2 :=
  covers_iff s.ascending

end CharSet

end Motherboard.Text
