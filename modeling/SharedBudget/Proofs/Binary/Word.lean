/-
# Words as doubles and back

A word of up to fifty-three bits is a double.  Above, the doubles are a power of two
apart (`Binary.gap`), and a word becomes the nearest multiple of it; half way between
two, the one whose quotient is even.  Back in a word that is the same number, unless
it is `2 ^ 64`, which no word is (`Binary.toWord_ofNat`).  So a word comes back as
itself exactly if it is a multiple of the gap, or the largest word of all
(`Binary.rounded_eq_self_iff`).
-/

import SharedBudget.Proofs.Binary.Exact

namespace SharedBudget

open Format

namespace Binary

variable {m : ℕ}

/-- How far the doubles around a number with as many bits as `m` are apart. -/
def gap (m : ℕ) : ℕ := 2 ^ (m.log2 + 1 - double.precision)

/-- How many gaps the double nearest to `m` is. -/
def gaps (m : ℕ) : ℕ :=
  if gap m < 2 * (m % gap m) ∨ (gap m = 2 * (m % gap m) ∧ m / gap m % 2 = 1) then m / gap m + 1
  else m / gap m

/-- The double nearest to `m`, back in a word. -/
def rounded (m : ℕ) : ℕ := min (gaps m * gap m) (2 ^ 64 - 1)

theorem gap_pos (m : ℕ) : 0 < gap m := Nat.two_pow_pos _

theorem gap_of_lt (hm : m < 2 ^ double.precision) : gap m = 1 := by
  have hlog : m.log2 + 1 - double.precision = 0 := by
    rcases Nat.eq_zero_or_pos m with rfl | hpos
    · rfl
    · have := (Nat.log2_lt hpos.ne').2 hm
      omega
  rw [gap, hlog, Nat.pow_zero]

/-! ## What rounding does -/

/-- A multiple of the gap is not rounded. -/
theorem gaps_mul_gap_of_dvd (h : gap m ∣ m) : gaps m * gap m = m := by
  have hpos := gap_pos m
  rw [gaps, Nat.mod_eq_zero_of_dvd h, if_neg (by omega), Nat.div_mul_cancel h]

/-- Rounding goes no further than half a gap. -/
theorem gaps_mul_gap_bounds (m : ℕ) :
    2 * m ≤ 2 * (gaps m * gap m) + gap m ∧ 2 * (gaps m * gap m) ≤ 2 * m + gap m := by
  have hpos := gap_pos m
  have hdivision := Nat.div_add_mod m (gap m)
  have hremainder := Nat.mod_lt m hpos
  rw [Nat.mul_comm] at hdivision
  unfold gaps
  split_ifs with h
  · rw [Nat.add_mul, Nat.one_mul]
    omega
  · omega

/-- **A word comes back as itself** exactly if it is a multiple of the gap, or the largest one. -/
theorem rounded_eq_self_iff (hm : m < 2 ^ 64) :
    rounded m = m ↔ gap m ∣ m ∨ m = 2 ^ 64 - 1 := by
  unfold rounded
  constructor
  · intro h
    rcases Nat.le_total (gaps m * gap m) (2 ^ 64 - 1) with hle | hle
    · rw [Nat.min_eq_left hle] at h
      exact .inl ⟨gaps m, by rw [Nat.mul_comm, h]⟩
    · rw [Nat.min_eq_right hle] at h
      exact .inr h.symm
  · rintro (hdvd | rfl)
    · rw [gaps_mul_gap_of_dvd hdvd]
      exact Nat.min_eq_left (Nat.le_sub_one_of_lt hm)
    · decide +kernel

/-- A word is off by no more than half a gap. -/
theorem rounded_bounds (hm : m < 2 ^ 64) :
    2 * m ≤ 2 * rounded m + gap m ∧ 2 * rounded m ≤ 2 * m + gap m := by
  have h := gaps_mul_gap_bounds m
  unfold rounded
  omega

/-! ## The double nearest to a word -/

theorem log2_mul_two_pow (hm : m ≠ 0) (k : ℕ) : (m * 2 ^ k).log2 = m.log2 + k := by
  rw [Nat.log2_eq_iff (Nat.mul_ne_zero hm (Nat.two_pow_pos k).ne'), Nat.add_right_comm,
    Nat.pow_add, Nat.pow_add]
  exact ⟨Nat.mul_le_mul_right _ (Nat.log2_self_le hm),
    Nat.mul_lt_mul_of_pos_right Nat.lt_log2_self (Nat.two_pow_pos k)⟩

/-- The rank of the double nearest to a number that does not fit the significand. -/
theorem nearest_of_le (hm : 2 ^ double.precision ≤ m) :
    double.nearest (m * 2 ^ double.scale) 1 =
      min ((m.log2 + 1 - double.precision + double.scale) * double.binade + gaps m)
        double.infinity := by
  have hm0 : m ≠ 0 := by
    rintro rfl
    exact absurd hm (by decide)
  have hlog : double.precision ≤ m.log2 := (Nat.le_log2 hm0).2 hm
  have hshift : (m * 2 ^ double.scale).log2 + 1 - double.precision =
      m.log2 + 1 - double.precision + double.scale := by
    rw [log2_mul_two_pow hm0]
    omega
  have hpos : 0 < 2 ^ double.scale := Nat.two_pow_pos _
  unfold nearest gaps gap
  simp only [Nat.div_one, Nat.one_mul, hshift]
  rw [Nat.pow_add]
  generalize 2 ^ double.scale = unit at hpos ⊢
  rw [Nat.mul_div_mul_right _ _ hpos, Nat.mul_mod_mul_right, ← Nat.mul_assoc 2]
  simp only [Nat.mul_lt_mul_right hpos, Nat.mul_left_inj hpos.ne']

theorem gaps_range (hm : 2 ^ double.precision ≤ m) :
    double.binade ≤ gaps m ∧ gaps m ≤ 2 * double.binade := by
  have hm0 : m ≠ 0 := by
    rintro rfl
    exact absurd hm (by decide)
  have hlog : double.precision ≤ m.log2 := (Nat.le_log2 hm0).2 hm
  have hsplit : 2 ^ m.log2 = double.binade * gap m := by
    rw [binade, gap, ← Nat.pow_add]
    congr 1
    have : double.precision = 53 := rfl
    omega
  have hlow : double.binade ≤ m / gap m :=
    (Nat.le_div_iff_mul_le (gap_pos m)).2 (hsplit ▸ Nat.log2_self_le hm0)
  have hhigh : m / gap m < 2 * double.binade := by
    rw [Nat.div_lt_iff_lt_mul (gap_pos m), Nat.mul_assoc, ← hsplit, ← Nat.pow_succ']
    exact Nat.lt_log2_self
  unfold gaps
  split_ifs <;> omega

/-- **A word as a double** is finite, and so many gaps. -/
theorem units_ofNat_word (hm : m < 2 ^ 64) : (ofNat .double m).isFinite ∧
    (ofNat .double m).units = gaps m * gap m * 2 ^ double.scale := by
  rcases Nat.lt_or_ge m (2 ^ double.precision) with hlt | hge
  · have hwhole := isWhole_ofNat isWide_double hlt
    have hdvd : gap m ∣ m := by
      rw [gap_of_lt hlt]
      exact Nat.one_dvd m
    refine ⟨hwhole.isFinite, ?_⟩
    rw [hwhole.units_eq, Int.natAbs_natCast, gaps_mul_gap_of_dvd hdvd]
  · obtain ⟨hlow, hhigh⟩ := gaps_range hge
    have hlog : m.log2 < 64 := by
      have hm0 : m ≠ 0 := (Nat.lt_of_lt_of_le (by decide) hge).ne'
      exact (Nat.log2_lt hm0).2 hm
    have hfinite : (m.log2 + 1 - double.precision + double.scale) * double.binade + gaps m <
        double.infinity := by
      have hshift : m.log2 + 1 - double.precision + double.scale ≤ 1085 := by
        have hprecision : double.precision = 53 := rfl
        have hscale : double.scale = 1074 := by decide
        omega
      have hbinade := Nat.mul_le_mul_right double.binade hshift
      have hlimit : 1085 * double.binade + 2 * double.binade < double.infinity := by
        decide +kernel
      omega
    have hrank : (ofNat .double m).rank =
        (m.log2 + 1 - double.precision + double.scale) * double.binade + gaps m := by
      rw [ofNat, ofRatio, rank_ofUnits, nearest_of_le hge, Nat.min_eq_left hfinite.le]
    refine ⟨by rw [isFinite, hrank]; exact decide_eq_true hfinite, ?_⟩
    rw [units, hrank, units_shift hhigh (.inr hlow), Nat.pow_add, ← Nat.mul_assoc, gap]

/-- **A word that becomes a double and a word again** is rounded. -/
theorem toWord_ofNat (hm : m < 2 ^ 64) : (ofNat .double m).toWord = rounded m := by
  obtain ⟨hfinite, hunits⟩ := units_ofNat_word hm
  have hsign : (ofNat .double m).negative = false := rfl
  rw [toWord, isNaN_of_isFinite hfinite, isInfinite_of_isFinite hfinite, hsign, hunits,
    Nat.mul_div_cancel _ (Nat.two_pow_pos _)]
  rfl

end Binary
end SharedBudget
