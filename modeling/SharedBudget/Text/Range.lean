/-
# Ranges of characters

A class of characters is a list of ranges of code points, each given by both its
ends.  The ranges are ascending and apart from one another (`isAscending`), so a
search may stop at the first one that begins above a code point (`inRanges_eq_any`).
-/

namespace SharedBudget.Text

/-- Whether a code point is in one of some ascending ranges. -/
def inRanges (n : Nat) : List (Nat × Nat) → Bool
  | [] => false
  | (first, last) :: ranges => first ≤ n && (n ≤ last || inRanges n ranges)

/-- Whether every range is in order and ends below the next one. -/
def isAscending : List (Nat × Nat) → Bool
  | [] => true
  | [(first, last)] => first ≤ last
  | (first, last) :: (next, end') :: ranges =>
    first ≤ last && last < next && isAscending ((next, end') :: ranges)

/-- None of some ascending ranges has a code point below the first one. -/
theorem not_any_of_lt {n first last : Nat} {ranges : List (Nat × Nat)} (h : n < first)
    (asc : isAscending ((first, last) :: ranges)) :
    (((first, last) :: ranges).any fun r => r.1 ≤ n && n ≤ r.2) = false := by
  induction ranges generalizing first last with
  | nil => simp; omega
  | cons r ranges ih =>
    obtain ⟨next, end'⟩ := r
    simp only [isAscending, Bool.and_eq_true, decide_eq_true_eq] at asc
    rw [List.any_cons, ih (Nat.lt_of_lt_of_le h (by omega)) asc.2]
    simp; omega

/-- **Stopping early misses nothing.** -/
theorem inRanges_eq_any (n : Nat) (ranges : List (Nat × Nat)) (asc : isAscending ranges) :
    inRanges n ranges = ranges.any fun r => r.1 ≤ n && n ≤ r.2 := by
  induction ranges with
  | nil => rfl
  | cons r ranges ih =>
    obtain ⟨first, last⟩ := r
    by_cases h : n < first
    · rw [not_any_of_lt h asc, inRanges]
      simp; omega
    · have rest : isAscending ranges := by
        cases ranges with
        | nil => rfl
        | cons next ranges =>
          simp only [isAscending, Bool.and_eq_true] at asc
          exact asc.2
      rw [inRanges, List.any_cons, ih rest]
      have : first ≤ n := by omega
      simp [this]

end SharedBudget.Text
