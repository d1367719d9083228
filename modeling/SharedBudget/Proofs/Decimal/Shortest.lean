/-
# Seventeen digits suffice

The search for the shortest decimal looks at seventeen grids, the first being that
of the leading digit.  On the last one the points are so close that one of them
lies in the interval of every magnitude (`Decimal.isSome_onGrid`).  So the search
never comes back empty: a shortest decimal is positive and has at most seventeen
digits (`Decimal.shortest_spec`), and the number nearest to it is the one that it
was made for (`Decimal.nearest_shortest`).  The digits of a whole number are all
written (`Decimal.shortest_whole`).
-/

import SharedBudget.Decimal.Shortest
import SharedBudget.Proofs.Binary.Rounding
import Mathlib.Algebra.Order.Field.Power
import Mathlib.Data.Rat.Cast.Order
import Mathlib.Tactic.FieldSimp
import Mathlib.Tactic.Linarith
import Mathlib.Tactic.NormNum

namespace SharedBudget

namespace Format

variable {f : Format}

/-- The step up to a positive magnitude is not small against it. -/
theorem units_le_mul_step_below (hp : 0 < f.precision) {r : ℕ} (hr : 0 < r) :
    f.units r ≤ 2 ^ f.precision * (f.units r - f.units (r - 1)) := by
  obtain ⟨s, q, hrank, hq, hs⟩ := f.exists_shift (r - 1)
  have hsucc : f.units r = (q + 1) * 2 ^ s := by
    rw [show r = s * f.binade + (q + 1) by omega, units_shift (by omega) (by omega)]
  rw [hrank, hsucc, units_shift (by omega) hs, ← Nat.mul_sub_right_distrib, Nat.add_sub_cancel_left,
    Nat.one_mul, ← two_mul_binade hp]
  exact Nat.mul_le_mul_right _ (by omega)

/-- The step up from a magnitude is not small against it. -/
theorem units_le_mul_step_above (hp : 0 < f.precision) (r : ℕ) :
    f.units r ≤ 2 ^ f.precision * (f.units (r + 1) - f.units r) := by
  obtain ⟨s, q, rfl, hq, hs⟩ := f.exists_shift r
  rw [Nat.add_assoc, units_shift (by omega) hs, units_shift (by omega) (by omega),
    ← Nat.mul_sub_right_distrib, Nat.add_sub_cancel_left, Nat.one_mul, ← two_mul_binade hp]
  exact Nat.mul_le_mul_right _ (by omega)

/-- The step up from a magnitude that fits the significand after a shift is at most the last bit
of the shift. -/
theorem units_succ_le (hp : 0 < f.precision) {r k : ℕ} (h : f.units r < 2 ^ f.precision * 2 ^ k) :
    f.units (r + 1) ≤ f.units r + 2 ^ k := by
  obtain ⟨s, q, rfl, hq, hs⟩ := f.exists_shift r
  rw [Nat.add_assoc, units_shift (by omega) (by omega), units_shift (by omega) hs]
  rw [units_shift (by omega) hs, ← two_mul_binade hp] at h
  have hstep : 2 ^ s ≤ 2 ^ k := by
    refine Nat.pow_le_pow_right (by decide) (hs.elim (by omega) fun hq' => ?_)
    have hlow : f.binade * 2 ^ s ≤ q * 2 ^ s := Nat.mul_le_mul_right _ hq'
    have hpow : f.binade * 2 ^ s < f.binade * 2 ^ (k + 1) := by
      rw [Nat.pow_succ']
      linarith
    exact Nat.le_of_lt_succ ((Nat.pow_lt_pow_iff_right (by decide)).1
      (Nat.lt_of_mul_lt_mul_left hpow))
  rw [Nat.succ_mul]
  omega

/-- What writing needs of a format: seventeen digits tell its numbers apart, and they are not
further from one than those of a double. -/
structure IsNarrow (f : Format) : Prop where
  one_lt_precision : 1 < f.precision
  precision_lt : 2 ^ f.precision < 10 ^ 16
  one_lt_exponentBits : 1 < f.exponentBits
  bits_le : f.precision + 2 ^ f.exponentBits ≤ 2101

theorem IsNarrow.precision_pos (hf : f.IsNarrow) : 0 < f.precision :=
  Nat.zero_lt_of_lt hf.one_lt_precision

theorem isNarrow_double : IsNarrow double := ⟨by decide, by decide, by decide, by decide⟩

theorem isNarrow_single : IsNarrow single := ⟨by decide, by decide, by decide, by decide⟩

end Format

namespace Decimal

variable {f : Format} {tie : Tie} {rank : ℕ}

/-! ## The leading digit -/

theorem length_digits_le_iff {n k : ℕ} (hk : 0 < k) : (digits n).length ≤ k ↔ n < 10 ^ k :=
  Nat.length_toDigits_le_iff (by decide) hk

theorem length_digits_pos (n : ℕ) : 0 < (digits n).length := Nat.length_toDigits_pos

theorem lt_pow_length_digits (n : ℕ) : n < 10 ^ (digits n).length :=
  (length_digits_le_iff (length_digits_pos n)).1 le_rfl

/-- A positive number is at least the power of ten at its leading digit. -/
theorem pow_le_of_length_digits {n k : ℕ} (hn : 0 < n) (h : (digits n).length = k + 1) :
    10 ^ k ≤ n := by
  rcases Nat.eq_zero_or_pos k with rfl | hk
  · exact hn
  · by_contra hlt
    have := (length_digits_le_iff hk).2 (Nat.lt_of_not_le hlt)
    omega

/-- A number with zeros behind it is below a power of ten that is as long as they are. -/
theorem mul_pow_lt_of_length {n e k : ℕ} (h : (digits n).length + e ≤ k) :
    n * 10 ^ e < 10 ^ k :=
  calc n * 10 ^ e < 10 ^ (digits n).length * 10 ^ e :=
        Nat.mul_lt_mul_of_pos_right (lt_pow_length_digits n) (Nat.pow_pos (by decide))
    _ = 10 ^ ((digits n).length + e) := (Nat.pow_add ..).symm
    _ ≤ 10 ^ k := Nat.pow_le_pow_right (by decide) h

/-- Digits with zeros behind them are as long as their number is. -/
theorem length_digits_add_le {c e k : ℕ} (hk : 0 < k) (hc : 0 < c ∨ e = 0)
    (h : c * 10 ^ e < 10 ^ k) : (digits c).length + e ≤ k := by
  rcases hc with hc | rfl
  · have he : e < k :=
      (Nat.pow_lt_pow_iff_right (by decide)).1 ((Nat.le_mul_of_pos_left _ hc).trans_lt h)
    have hpow : 10 ^ k = 10 ^ (k - e) * 10 ^ e := by
      rw [← Nat.pow_add, Nat.sub_add_cancel he.le]
    rw [hpow] at h
    have := (length_digits_le_iff (Nat.sub_pos_of_lt he)).2 (Nat.lt_of_mul_lt_mul_right h)
    omega
  · rw [Nat.pow_zero, Nat.mul_one] at h
    exact (length_digits_le_iff hk).2 h

/-- **The leading exponent** is the largest power of ten that does not exceed the quotient. -/
theorem leadingExponent_spec {n d : ℕ} (hn : 0 < n) (hd : 0 < d) :
    (10 : ℚ) ^ leadingExponent n d * d ≤ n ∧ n < (10 : ℚ) ^ (leadingExponent n d + 1) * d := by
  unfold leadingExponent
  split
  · rename_i hle
    obtain ⟨k, hk⟩ : ∃ k, (digits (n / d)).length = k + 1 :=
      ⟨_, (Nat.sub_add_cancel (length_digits_pos (n / d))).symm⟩
    have hlow := pow_le_of_length_digits (Nat.div_pos hle hd) hk
    have hhigh := lt_pow_length_digits (n / d)
    rw [hk] at hhigh ⊢
    rw [Nat.le_div_iff_mul_le hd] at hlow
    rw [Nat.div_lt_iff_lt_mul hd] at hhigh
    rw [Nat.cast_add, Nat.cast_one, add_sub_cancel_right, zpow_natCast, ← Nat.cast_one,
      ← Nat.cast_add, zpow_natCast]
    exact ⟨by exact_mod_cast hlow, by exact_mod_cast hhigh⟩
  · rename_i hlt
    obtain ⟨k, hk⟩ : ∃ k, (digits ((d - 1) / n)).length = k + 1 :=
      ⟨_, (Nat.sub_add_cancel (length_digits_pos ((d - 1) / n))).symm⟩
    have hlow := pow_le_of_length_digits (Nat.div_pos (by omega) hn) hk
    have hhigh := lt_pow_length_digits ((d - 1) / n)
    rw [hk] at hhigh ⊢
    rw [Nat.le_div_iff_mul_le hn] at hlow
    rw [Nat.div_lt_iff_lt_mul hn] at hhigh
    have hlow' : ((10 ^ k * n : ℕ) : ℚ) < d := by exact_mod_cast (by omega : 10 ^ k * n < d)
    have hhigh' : (d : ℚ) ≤ (10 ^ (k + 1) * n : ℕ) := by
      exact_mod_cast (by omega : d ≤ 10 ^ (k + 1) * n)
    push_cast at hlow' hhigh'
    have hpow : (0 : ℚ) < 10 ^ k := by positivity
    have hpow' : (0 : ℚ) < 10 ^ (k + 1) := by positivity
    rw [show (-((k + 1 : ℕ) : ℤ) + 1) = -(k : ℤ) by push_cast; ring, zpow_neg, zpow_neg,
      zpow_natCast, zpow_natCast, inv_mul_le_iff₀ hpow', lt_inv_mul_iff₀ hpow]
    exact ⟨hhigh', hlow'⟩

/-! ## Grids -/

/-- What a grid multiplies magnitudes by, so that they and its points are natural numbers. -/
def gridScale (exponent : ℤ) : ℕ := 10 ^ (-exponent).toNat

/-- The distance of the points of a grid, multiplied likewise. -/
def gridStep (f : Format) (exponent : ℤ) : ℕ := 2 ^ f.scale * 10 ^ exponent.toNat

theorem gridScale_pos (exponent : ℤ) : 0 < gridScale exponent := Nat.pow_pos (by decide)

theorem gridStep_pos (f : Format) (exponent : ℤ) : 0 < gridStep f exponent :=
  Nat.mul_pos (Nat.two_pow_pos _) (Nat.pow_pos (by decide))

@[simp] theorem gridScale_zero : gridScale 0 = 1 := rfl

@[simp] theorem gridStep_zero (f : Format) : gridStep f 0 = 2 ^ f.scale := Nat.mul_one _

theorem cast_gridStep (f : Format) (exponent : ℤ) :
    (gridStep f exponent : ℚ) = (10 : ℚ) ^ exponent * 2 ^ f.scale * gridScale exponent := by
  have hten : ((10 ^ exponent.toNat : ℕ) : ℚ) = (10 : ℚ) ^ exponent * gridScale exponent := by
    unfold gridScale
    push_cast
    rw [← zpow_natCast, ← zpow_natCast, ← zpow_add₀ (by norm_num)]
    congr 1
    omega
  rw [gridStep, Nat.cast_mul, hten]
  push_cast
  ring

/-- The exponent of the leading digit of a magnitude. -/
def lead (f : Format) (rank : ℕ) : ℤ := leadingExponent (f.units rank) (2 ^ f.scale)

/-- **A magnitude has one digit on the grid of its leading digit,** and one more on every
finer one. -/
theorem pow_mul_gridStep_le (hr : 0 < rank) (k : ℕ) :
    10 ^ k * gridStep f (lead f rank - k) ≤ f.units rank * gridScale (lead f rank - k) ∧
      f.units rank * gridScale (lead f rank - k) <
        10 ^ (k + 1) * gridStep f (lead f rank - k) := by
  have hunits : 0 < f.units rank := by
    have := f.units_strictMono hr
    rwa [Format.units_zero] at this
  obtain ⟨hlow, hhigh⟩ := leadingExponent_spec hunits (Nat.two_pow_pos f.scale)
  rw [← lead] at hlow hhigh
  have hscale : (0 : ℚ) < gridScale (lead f rank - k) := by exact_mod_cast gridScale_pos _
  have hshift (j : ℕ) : (10 : ℚ) ^ j * gridStep f (lead f rank - k) =
      (10 : ℚ) ^ (lead f rank - k + j) * (2 ^ f.scale : ℕ) * gridScale (lead f rank - k) := by
    rw [cast_gridStep, zpow_add₀ (by norm_num), zpow_natCast]
    push_cast
    ring
  have h1 := hshift k
  have h2 := hshift (k + 1)
  rw [sub_add_cancel] at h1
  rw [show lead f rank - k + (k + 1 : ℕ) = lead f rank + 1 by push_cast; ring] at h2
  constructor
  · have := mul_le_mul_of_nonneg_right hlow hscale.le
    rw [← h1] at this
    exact_mod_cast this
  · have := mul_lt_mul_of_pos_right hhigh hscale
    rw [← h2] at this
    exact_mod_cast this

/-- The point of a grid that is found is one of the two next to the magnitude. -/
theorem onGrid_bounds {exponent : ℤ} {c : ℕ} (h : onGrid f tie rank exponent = some c) :
    f.units rank * gridScale exponent / gridStep f exponent ≤ c ∧
      c ≤ f.units rank * gridScale exponent / gridStep f exponent + 1 := by
  unfold onGrid at h
  simp only at h
  rw [← gridScale, ← gridStep] at h
  generalize f.units rank * gridScale exponent / gridStep f exponent = below at h ⊢
  split at h
  · cases h
    split
    · omega
    split
    · omega
    split
    · omega
    split <;> omega
  · cases h
    omega
  · cases h
    omega
  · cases h

/-- **A point is found** on a grid that is finer than the distances to the neighbours. -/
theorem isSome_onGrid {exponent : ℤ}
    (hbelow : gridStep f exponent <
      (f.units rank - f.units (rank - 1)) * gridScale exponent)
    (habove : gridStep f exponent ≤
      (f.units (rank + 1) - f.units rank) * gridScale exponent) :
    (onGrid f tie rank exponent).isSome := by
  have hstep := gridStep_pos f exponent
  have hmono : f.units rank < f.units (rank + 1) := f.units_lt_units_succ rank
  have hmono' : f.units (rank - 1) ≤ f.units rank :=
    f.units_strictMono.monotone (Nat.sub_le ..)
  have hdiv := Nat.div_add_mod (f.units rank * gridScale exponent) (gridStep f exponent)
  have hmod := Nat.mod_lt (f.units rank * gridScale exponent) hstep
  rw [Nat.sub_mul] at hbelow habove
  have hlow := Nat.mul_le_mul_right (gridScale exponent) hmono'
  have hhigh := Nat.mul_le_mul_right (gridScale exponent) hmono.le
  unfold onGrid
  simp only
  rw [← gridScale, ← gridStep, Nat.add_mul, Nat.add_mul]
  generalize f.units rank * gridScale exponent = n at *
  generalize f.units (rank - 1) * gridScale exponent = n₁ at *
  generalize f.units (rank + 1) * gridScale exponent = n₂ at *
  generalize gridStep f exponent = step at *
  generalize n / step = below at *
  generalize n % step = remainder at *
  have hpoint : 2 * below * step = 2 * (step * below) := by ring
  have hpoint' : 2 * (below + 1) * step = 2 * (step * below) + 2 * step := by ring
  rw [hpoint, hpoint']
  generalize step * below = p at *
  split
  · rfl
  · rfl
  · rfl
  · rename_i hout hout'
    -- The nearer one of the two points is less than half a step away.
    rcases Nat.lt_or_ge step (2 * remainder) with h | h
    · split at hout' <;>
      · rw [Bool.and_eq_false_iff, decide_eq_false_iff_not, decide_eq_false_iff_not] at hout'
        omega
    · split at hout <;>
      · rw [Bool.and_eq_false_iff, decide_eq_false_iff_not, decide_eq_false_iff_not] at hout
        omega

/-- **On the seventeenth grid a point is found,** in a format of at most 53 bits. -/
theorem isSome_onGrid_seventeenth (hp : 0 < f.precision) (hf : 2 ^ f.precision < 10 ^ 16)
    (hr : 0 < rank) : (onGrid f tie rank (lead f rank - 16)).isSome := by
  have hstep := gridStep_pos f (lead f rank - 16)
  have hfine := (pow_mul_gridStep_le (f := f) hr 16).1
  rw [Nat.cast_ofNat] at hfine
  -- A step of the grid is `10 ^ 16` times smaller than the magnitude, a step of ranks is not.
  have key {gap : ℕ} (hgap : f.units rank ≤ 2 ^ f.precision * gap) :
      gridStep f (lead f rank - 16) < gap * gridScale (lead f rank - 16) := by
    by_contra hle
    have hle := Nat.le_of_not_lt hle
    have : 10 ^ 16 * gridStep f (lead f rank - 16) ≤
        2 ^ f.precision * gridStep f (lead f rank - 16) :=
      calc _ ≤ f.units rank * gridScale (lead f rank - 16) := hfine
        _ ≤ 2 ^ f.precision * gap * gridScale (lead f rank - 16) := Nat.mul_le_mul_right _ hgap
        _ = 2 ^ f.precision * (gap * gridScale (lead f rank - 16)) := Nat.mul_assoc ..
        _ ≤ _ := Nat.mul_le_mul_left _ hle
    exact absurd (Nat.le_of_mul_le_mul_right this hstep) (Nat.not_le.2 hf)
  exact isSome_onGrid (key (Format.units_le_mul_step_below hp hr))
    (key (Format.units_le_mul_step_above hp rank)).le

/-! ## The search -/

/-- A search that comes to a grid with a point ends on this grid or an earlier one. -/
theorem exists_onGrid_of_search {j grids : ℕ} (hj : j < grids) {exponent : ℤ}
    (h : (onGrid f tie rank (exponent - j)).isSome) :
    ∃ k ≤ j, ∃ c, onGrid f tie rank (exponent - k) = some c ∧
      search f tie rank grids exponent =
        if c % 10 = 0 then ⟨c / 10, exponent - k + 1⟩ else ⟨c, exponent - k⟩ := by
  induction j generalizing grids exponent with
  | zero =>
    obtain ⟨grids, rfl⟩ := Nat.exists_eq_add_of_lt hj
    obtain ⟨c, hc⟩ := Option.isSome_iff_exists.1 h
    refine ⟨0, le_rfl, c, hc, ?_⟩
    rw [Nat.cast_zero, sub_zero] at hc ⊢
    rw [search, hc]
  | succ j ih =>
    obtain ⟨grids, rfl⟩ := Nat.exists_eq_add_of_lt hj
    rw [search]
    cases hc : onGrid f tie rank exponent with
    | some c =>
      refine ⟨0, Nat.zero_le _, c, ?_, ?_⟩
      · rwa [Nat.cast_zero, sub_zero]
      · rw [Nat.cast_zero, sub_zero]
    | none =>
      have hnext : exponent - 1 - (j : ℤ) = exponent - (j + 1 : ℕ) := by push_cast; ring
      rw [← hnext] at h
      obtain ⟨k, hk, c, hc', hsearch⟩ := ih (by omega : j < j + 1 + grids) h
      have hk' : exponent - 1 - (k : ℤ) = exponent - (k + 1 : ℕ) := by push_cast; ring
      rw [hk'] at hc' hsearch
      exact ⟨k + 1, by omega, c, hc', hsearch⟩

/-- **A shortest decimal** is positive, has at most seventeen digits, and its last digit stands
on one of the seventeen grids or is a one before them. -/
theorem shortest_spec (tie : Tie) (hp : 0 < f.precision) (hf : 2 ^ f.precision < 10 ^ 16)
    (hr : 0 < rank) :
    0 < (shortest f tie rank).coefficient ∧ (shortest f tie rank).coefficient < 10 ^ 17 ∧
      lead f rank - 16 ≤ (shortest f tie rank).exponent ∧
        (shortest f tie rank).exponent ≤ lead f rank + 1 := by
  have hlast : (onGrid f tie rank (lead f rank - (16 : ℕ))).isSome :=
    isSome_onGrid_seventeenth hp hf hr
  obtain ⟨k, hk, c, hc, hsearch⟩ := exists_onGrid_of_search (Nat.lt_succ_self 16) hlast
  rw [shortest, ← lead, hsearch]
  obtain ⟨hbelow, habove⟩ := onGrid_bounds hc
  obtain ⟨hlow, hhigh⟩ := pow_mul_gridStep_le (f := f) hr k
  have hstep := gridStep_pos f (lead f rank - k)
  have hone : 1 ≤ 10 ^ k := Nat.one_le_pow' ..
  have hpow : 10 ^ (k + 1) ≤ 10 ^ 17 := Nat.pow_le_pow_right (by decide) (by omega)
  have h1 := (Nat.le_div_iff_mul_le hstep).2 hlow
  have h2 := (Nat.div_lt_iff_lt_mul hstep).2 hhigh
  split <;> dsimp only
  · exact ⟨Nat.div_pos (by omega) (by decide), by omega, by omega, by omega⟩
  · exact ⟨by omega, by omega, by omega, by omega⟩

/-- The leading digit is not further from the point than there are bits. -/
theorem natAbs_lead_le (hf : f.IsNarrow) (hr : rank < f.infinity) : (lead f rank).natAbs ≤ 2098 := by
  obtain ⟨k, hk⟩ : ∃ k, f.precision - 1 + (2 ^ f.exponentBits - 2) = k := ⟨_, rfl⟩
  have hp := hf.precision_pos
  have hbits := hf.bits_le
  have hE : 2 * 2 ^ (f.exponentBits - 1) = 2 ^ f.exponentBits := by
    rw [← Nat.pow_succ', Nat.succ_eq_add_one, Nat.sub_add_cancel hf.one_lt_exponentBits.le]
  have h2 : 2 ^ 1 ≤ 2 ^ (f.exponentBits - 1) :=
    Nat.pow_le_pow_right (by decide) (Nat.le_sub_one_of_lt hf.one_lt_exponentBits)
  have hunits : f.units rank < 2 ^ k := by
    have h := f.units_strictMono hr
    rwa [Format.units_infinity hf.one_lt_exponentBits, hk] at h
  have hscale : 2 ^ f.scale ≤ 2 ^ k :=
    Nat.pow_le_pow_right (by decide) (by rw [Format.scale]; omega)
  have hlength {n : ℕ} (h : n < 2 ^ k) : (digits n).length ≤ k :=
    (length_digits_le_iff (by omega)).2 (h.trans_le (Nat.pow_le_pow_left (by decide) _))
  unfold lead leadingExponent
  split
  · have h1 := hlength ((Nat.div_le_self (f.units rank) (2 ^ f.scale)).trans_lt hunits)
    have h2 := length_digits_pos (f.units rank / 2 ^ f.scale)
    omega
  · have hpos := Nat.two_pow_pos f.scale
    have h1 := hlength (n := (2 ^ f.scale - 1) / f.units rank)
      ((Nat.div_le_self ..).trans_lt (by omega))
    omega

/-- **What a shortest decimal looks like:** one to seventeen digits, and exponents that are far
from the limits. -/
theorem shortest_bounds (tie : Tie) (hf : f.IsNarrow) (hr : 0 < rank) (hr' : rank < f.infinity) :
    0 < (shortest f tie rank).coefficient ∧ (shortest f tie rank).coefficient < 10 ^ 17 ∧
      (shortest f tie rank).exponent.natAbs ≤ 2114 := by
  obtain ⟨h1, h2, h3, h4⟩ := shortest_spec tie hf.precision_pos hf.precision_lt hr
  have hlead := natAbs_lead_le hf hr'
  exact ⟨h1, h2, by omega⟩

/-! ## Whole numbers -/

/-- The point that is found lies in the interval of the magnitude, and not at an end of it if the
rank is odd. -/
theorem inside_of_onGrid {exponent : ℤ} {c : ℕ} (h : onGrid f tie rank exponent = some c) :
    ((f.units (rank - 1) + f.units rank) * gridScale exponent ≤ 2 * c * gridStep f exponent ∧
      2 * c * gridStep f exponent ≤
        (f.units rank + f.units (rank + 1)) * gridScale exponent) ∧
    (rank % 2 = 1 →
      (f.units (rank - 1) + f.units rank) * gridScale exponent < 2 * c * gridStep f exponent ∧
        2 * c * gridStep f exponent <
          (f.units rank + f.units (rank + 1)) * gridScale exponent) := by
  have key {a b x : ℕ} (hin : (if rank % 2 = 0 then decide (a ≤ x) && decide (x ≤ b)
      else decide (a < x) && decide (x < b)) = true) :
      (a ≤ x ∧ x ≤ b) ∧ (rank % 2 = 1 → a < x ∧ x < b) := by
    split at hin <;>
    · rw [Bool.and_eq_true, decide_eq_true_eq, decide_eq_true_eq] at hin
      omega
  unfold onGrid at h
  simp only at h
  rw [← gridScale, ← gridStep] at h
  split at h
  · rename_i hbelow habove
    have hbelow := key hbelow
    have habove := key habove
    cases h
    split
    · exact hbelow
    split
    · exact habove
    split
    · exact habove
    split
    · exact hbelow
    · exact habove
  · rename_i hbelow _
    cases h
    exact key hbelow
  · rename_i _ habove
    cases h
    exact key habove
  · cases h

/-- The magnitude nearest to the point that is found is the one that it was found for. -/
theorem nearest_onGrid (hp : 1 < f.precision) (hr : 0 < rank) (hr' : rank < f.infinity)
    {exponent : ℤ} {c : ℕ} (h : onGrid f tie rank exponent = some c) :
    f.nearest (c * gridStep f exponent) (gridScale exponent) = rank := by
  obtain ⟨⟨hlow, hhigh⟩, hodd⟩ := inside_of_onGrid h
  rw [Nat.mul_assoc] at hlow hhigh hodd
  exact Format.nearest_of_inside hp hr hr' (gridScale_pos exponent) hlow hhigh hodd

/-- A point with a zero behind it is a point of the next coarser grid. -/
theorem nearest_coarser (c : ℕ) (exponent : ℤ) :
    f.nearest (c * gridStep f (exponent + 1)) (gridScale (exponent + 1)) =
      f.nearest (10 * c * gridStep f exponent) (gridScale exponent) := by
  unfold gridStep gridScale
  rcases lt_or_ge exponent 0 with h | h
  · obtain ⟨k, hk⟩ : ∃ k, (-exponent).toNat = k + 1 := ⟨(-exponent).toNat - 1, by omega⟩
    rw [show (exponent + 1).toNat = 0 by omega, show (-(exponent + 1)).toNat = k by omega,
      show exponent.toNat = 0 by omega, hk, Nat.pow_succ', Nat.mul_assoc 10,
      Format.nearest_mul_mul_left (by decide)]
  · rw [show (exponent + 1).toNat = exponent.toNat + 1 by omega,
      show (-(exponent + 1)).toNat = 0 by omega, show (-exponent).toNat = 0 by omega,
      Nat.pow_succ']
    congr 1
    ring

/-- A point with zeros behind it is a point of a coarser grid. -/
theorem nearest_mul_pow (c : ℕ) (exponent : ℤ) (zeros : ℕ) :
    f.nearest (c * 10 ^ zeros * gridStep f exponent) (gridScale exponent) =
      f.nearest (c * gridStep f (exponent + zeros)) (gridScale (exponent + zeros)) := by
  induction zeros generalizing c with
  | zero => rw [Nat.pow_zero, Nat.mul_one, Nat.cast_zero, add_zero]
  | succ zeros ih =>
    rw [Nat.cast_succ, ← add_assoc, nearest_coarser, ← ih, Nat.pow_succ, Nat.mul_comm (10 ^ zeros),
      ← Nat.mul_assoc, Nat.mul_comm c]

/-- **The number nearest to a shortest decimal** is the one that it was made for. -/
theorem nearest_shortest (tie : Tie) (hf : f.IsNarrow) (hr : 0 < rank) (hr' : rank < f.infinity) :
    f.nearest ((shortest f tie rank).coefficient * gridStep f (shortest f tie rank).exponent)
      (gridScale (shortest f tie rank).exponent) = rank := by
  have hlast : (onGrid f tie rank (lead f rank - (16 : ℕ))).isSome :=
    isSome_onGrid_seventeenth hf.precision_pos hf.precision_lt hr
  obtain ⟨k, _, c, hc, hsearch⟩ := exists_onGrid_of_search (Nat.lt_succ_self 16) hlast
  have hnearest := nearest_onGrid hf.one_lt_precision hr hr' hc
  rw [shortest, ← lead, hsearch]
  split
  · rename_i hten
    rw [nearest_coarser, Nat.mul_div_cancel' (Nat.dvd_of_mod_eq_zero hten)]
    exact hnearest
  · exact hnearest

/-- A magnitude that is itself a point of the grid is found. -/
theorem isSome_onGrid_of_eq (hr : 0 < rank) {exponent : ℤ} {n : ℕ}
    (h : f.units rank * gridScale exponent = n * gridStep f exponent) :
    (onGrid f tie rank exponent).isSome := by
  have hstep := gridStep_pos f exponent
  have hlow := Nat.mul_lt_mul_of_pos_right (f.units_strictMono (Nat.sub_one_lt hr.ne'))
    (gridScale_pos exponent)
  have hhigh := Nat.mul_lt_mul_of_pos_right (f.units_lt_units_succ rank) (gridScale_pos exponent)
  rw [h] at hlow hhigh
  unfold onGrid
  simp only
  rw [← gridScale, ← gridStep, Nat.add_mul, Nat.add_mul, h, Nat.mul_div_cancel _ hstep,
    Nat.mul_assoc 2 n]
  split
  · rfl
  · rfl
  · rfl
  · rename_i hout _
    split at hout <;>
    · rw [Bool.and_eq_false_iff, decide_eq_false_iff_not, decide_eq_false_iff_not] at hout
      omega

section

variable {n : ℕ} (h : f.units rank = n * 2 ^ f.scale)
include h

theorem rank_pos_of_whole (hn : 0 < n) : 0 < rank := by
  rw [← f.units_strictMono.lt_iff_lt, Format.units_zero, h]
  exact Nat.mul_pos hn (Nat.two_pow_pos _)

/-- The leading digit of a whole number is that of its digits. -/
theorem lead_whole (hn : 0 < n) : lead f rank = (digits n).length - 1 := by
  unfold lead leadingExponent
  rw [h, if_pos (Nat.le_mul_of_pos_left _ hn), Nat.mul_div_cancel _ (Nat.two_pow_pos _)]

/-- On the grid of the ones a whole number is a point. -/
theorem isSome_onGrid_ones (hn : 0 < n) : (onGrid f tie rank 0).isSome := by
  refine isSome_onGrid_of_eq (rank_pos_of_whole h hn) (n := n) ?_
  rw [h, gridScale_zero, gridStep_zero, Nat.mul_one]

/-- **On a grid of ones or larger steps** nothing but a whole number itself is found for it. -/
theorem mul_pow_of_onGrid (hp : 0 < f.precision) (hn : 0 < n) (hfits : n < 2 ^ f.precision)
    {c e : ℕ} (hc : onGrid f tie rank e = some c) : c * 10 ^ e = n := by
  have hscale := Nat.two_pow_pos f.scale
  have hr := rank_pos_of_whole h hn
  have hbits : f.units rank < 2 ^ f.precision * 2 ^ f.scale :=
    h ▸ Nat.mul_lt_mul_of_pos_right hfits hscale
  -- Neither neighbour is further away than one, so the ends of the interval are within a half.
  have habove := Format.units_succ_le hp hbits
  have hbelow := Format.units_succ_le hp ((f.units_strictMono (Nat.sub_one_lt hr.ne')).trans hbits)
  rw [Nat.sub_add_cancel hr] at hbelow
  obtain ⟨⟨hlow, hhigh⟩, _⟩ := inside_of_onGrid hc
  have hones : gridScale e = 1 := by simp [gridScale]
  have hpoint : 2 * c * gridStep f e = 2 * (c * 10 ^ e) * 2 ^ f.scale := by
    rw [gridStep, Int.toNat_natCast]
    ring
  rw [hones, Nat.mul_one, hpoint] at hlow hhigh
  have hlow' : (2 * n) * 2 ^ f.scale ≤ (2 * (c * 10 ^ e) + 1) * 2 ^ f.scale := by
    rw [Nat.add_mul, Nat.one_mul, Nat.mul_assoc, ← h]
    omega
  have hhigh' : (2 * (c * 10 ^ e)) * 2 ^ f.scale ≤ (2 * n + 1) * 2 ^ f.scale := by
    rw [Nat.add_mul (2 * n), Nat.one_mul, Nat.mul_assoc 2 n, ← h]
    omega
  have h1 := Nat.le_of_mul_le_mul_right hlow' hscale
  have h2 := Nat.le_of_mul_le_mul_right hhigh' hscale
  omega

/-- **A whole number that fits the significand is written with its own digits.** -/
theorem shortest_whole (tie : Tie) (hp : 0 < f.precision) (hn : 0 < n)
    (hfits : n < 2 ^ f.precision) (hdigits : n < 10 ^ 17) :
    ∃ c e : ℕ, shortest f tie rank = ⟨c, e⟩ ∧ c * 10 ^ e = n := by
  obtain ⟨j, hj⟩ : ∃ j, (digits n).length = j + 1 :=
    ⟨_, (Nat.sub_add_cancel (length_digits_pos n)).symm⟩
  have hj17 : j < 17 := by
    have := (length_digits_le_iff (by decide)).2 hdigits
    omega
  have hlead : lead f rank = j := by
    rw [lead_whole h hn, hj, Nat.cast_succ, add_sub_cancel_right]
  -- The search ends on the grid of the ones or before.
  have hones : (onGrid f tie rank (lead f rank - j)).isSome := by
    rw [hlead, sub_self]
    exact isSome_onGrid_ones h hn
  obtain ⟨k, hk, c, hc, hsearch⟩ := exists_onGrid_of_search hj17 hones
  obtain ⟨e, he⟩ : ∃ e : ℕ, lead f rank - k = e := ⟨j - k, by omega⟩
  rw [he] at hc hsearch
  have hvalue := mul_pow_of_onGrid h hp hn hfits hc
  rw [shortest, ← lead, hsearch]
  split
  · rename_i hten
    refine ⟨c / 10, e + 1, by rw [Nat.cast_succ], ?_⟩
    rw [Nat.pow_succ', ← Nat.mul_assoc, Nat.div_mul_cancel (Nat.dvd_of_mod_eq_zero hten), hvalue]
  · exact ⟨c, e, rfl, hvalue⟩

end

end Decimal
end SharedBudget
