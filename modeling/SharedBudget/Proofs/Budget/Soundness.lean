/-
# Shares that a mechanism can use

The share of a mechanism is one rounded quotient.  Whatever the epsilon, the delta,
the threshold and the number of mechanisms that pass the checks, both shares are
finite numbers between zero and the whole, and the share of epsilon does not exceed
the threshold.  It is above zero too, with one exception: an epsilon below the
threshold can be spread so thin that a share is at most half of the least positive
number, and rounding leaves nothing of it (`Budget.split_bounds`).
-/

import SharedBudget.Proofs.Budget.Shares

namespace SharedBudget

open Format

namespace Budget

/-! ## Numbers from zero on -/

/-- A number is at least zero if it has no sign, or is a zero. -/
theorem zero_le_iff {x : Double} :
    (Binary.zero .double false).le x ↔ x.isNaN = false ∧ (x.negative → x.rank = 0) := by
  have hzero : (Binary.zero .double false).isNaN = false := rfl
  simp only [Binary.le, hzero, place_zero, Bool.not_false, Bool.true_and, Bool.and_eq_true,
    Bool.not_eq_true', decide_eq_true_eq]
  refine and_congr_right fun _ => ?_
  cases hx : x.negative <;> simp [Binary.place, hx]

theorem zero_lt_iff {x : Double} : (Binary.zero .double false).lt x ↔
    x.isNaN = false ∧ x.negative = false ∧ x.rank ≠ 0 := by
  constructor
  · intro h
    obtain ⟨hnan, hsign⟩ := negative_of_zero_lt h
    exact ⟨hnan, hsign, of_decide_eq_false (isZero_of_zero_lt h)⟩
  · rintro ⟨hnan, hsign, hrank⟩
    have hzero : (Binary.zero .double false).isNaN = false := rfl
    have hplace : x.place = x.rank := by rw [Binary.place, hsign]; rfl
    simpa [Binary.lt, hzero, place_zero, hnan, hplace, Nat.pos_iff_ne_zero] using hrank

theorem zero_le_of_zero_lt {x : Double} (h : (Binary.zero .double false).lt x) :
    (Binary.zero .double false).le x := by
  obtain ⟨hnan, hsign, _⟩ := zero_lt_iff.1 h
  refine zero_le_iff.2 ⟨hnan, fun h => ?_⟩
  rw [hsign] at h
  cases h

/-! ## One division -/

variable {x : Double} {n : ℕ}

/-- The number of mechanisms has no sign, so a share has that of the whole. -/
theorem negative_div_ofNat (hx : x.isFinite) (hn : n ≠ 0) :
    (x.div (.ofNat .double n)).negative = x.negative := by
  rw [Binary.div_eq_ofRank hx (Binary.isNaN_ofNat n)
    (Binary.scale_le_units_ofNat isWide_double (by decide) hn)]
  exact Bool.xor_false _

/-- **A share of a finite number from zero on** is one too, and no larger than the whole. -/
theorem div_ofNat_bounds (hx : x.isFinite) (hzero : (Binary.zero .double false).le x)
    (hn : n ≠ 0) : (x.div (.ofNat .double n)).isFinite ∧
      (Binary.zero .double false).le (x.div (.ofNat .double n)) ∧
        (x.div (.ofNat .double n)).le x := by
  have hrank : (x.div (.ofNat .double n)).rank ≤ x.rank :=
    Binary.rank_div_le (by decide) hx (Binary.isNaN_ofNat n)
      (Binary.scale_le_units_ofNat isWide_double (by decide) hn)
  have hsign := negative_div_ofNat hx hn
  obtain ⟨hnan, hnegative⟩ := zero_le_iff.1 hzero
  have hfinite : (x.div (.ofNat .double n)).isFinite :=
    decide_eq_true (hrank.trans_lt (of_decide_eq_true hx))
  have hnan' := Binary.isNaN_of_isFinite hfinite
  refine ⟨hfinite, zero_le_iff.2 ⟨hnan', fun h => ?_⟩, ?_⟩
  · have := hnegative (hsign ▸ h)
    omega
  · simp only [Binary.le, hnan, hnan', Binary.place, hsign, Bool.not_false, Bool.and_self,
      Bool.true_and, decide_eq_true_eq]
    split
    · rename_i h
      have := hnegative h
      omega
    · exact_mod_cast hrank

/-- **Something is left** of a number above zero exactly if its share is more than half a unit. -/
theorem zero_lt_div_ofNat_iff (hx : x.isFinite) (hpos : (Binary.zero .double false).lt x)
    (hn : n ≠ 0) : (Binary.zero .double false).lt (x.div (.ofNat .double n)) ↔
      (Binary.ofNat .double n).isInfinite = false ∧
        (Binary.ofNat .double n).toRat < 2 * x.units := by
  have hnan := Binary.isNaN_of_isFinite (div_ofNat_bounds hx (zero_le_of_zero_lt hpos) hn).1
  have hsign := (negative_div_ofNat hx hn).trans (negative_of_zero_lt hpos).2
  have hvalue : |(Binary.ofNat .double n).toRat| = (Binary.ofNat .double n).toRat :=
    abs_of_nonneg (Binary.toRat_nonneg rfl)
  rw [zero_lt_iff, Ne, Binary.rank_div_eq_zero_iff (by decide) isWide_double.infinity_pos hx
    (Binary.isNaN_ofNat n) (Binary.scale_le_units_ofNat isWide_double (by decide) hn), hvalue,
    not_or, not_le, Bool.not_eq_true]
  exact ⟨fun h => h.2.2, fun h => ⟨hnan, hsign, h⟩⟩

/-! ## The shares -/

variable {epsilon delta threshold : Double}

/-- The share of epsilon is finite, at least zero, and no more than epsilon or the threshold. -/
theorem epsilon_shares_bounds (hepsilon : isEpsilon epsilon)
    (hthreshold : Config.checkThreshold threshold = .ok ()) (hn : n ≠ 0) :
    (shares epsilon delta n threshold).epsilon.isFinite ∧
      (Binary.zero .double false).le (shares epsilon delta n threshold).epsilon ∧
        (shares epsilon delta n threshold).epsilon.le epsilon ∧
          (shares epsilon delta n threshold).epsilon.le threshold := by
  obtain ⟨hfinite, hpos⟩ := isFinite_of_checkThreshold hthreshold
  by_cases hcap : threshold.le epsilon
  · rw [epsilon_shares_of_le hcap]
    have hself : threshold.le threshold := by
      simp [Binary.le, (negative_of_zero_lt hpos).1]
    exact ⟨hfinite, zero_le_of_zero_lt hpos, hcap, hself⟩
  · rw [epsilon_shares_of_not_le hcap]
    have hfinite' := isFinite_of_not_le hepsilon hthreshold hcap
    obtain ⟨hshare, hzero, hle⟩ := div_ofNat_bounds hfinite' (zero_le_of_zero_lt hepsilon) hn
    refine ⟨hshare, hzero, hle, ?_⟩
    -- The share is at most epsilon, and epsilon is below the threshold.
    have hlimit := (negative_of_zero_lt hpos).1
    have hpart := Binary.isNaN_of_isFinite hshare
    have hwhole := Binary.isNaN_of_isFinite hfinite'
    rw [Binary.le_iff_toRat_le hlimit hwhole, not_le] at hcap
    rw [Binary.le_iff_toRat_le hpart hwhole] at hle
    exact (Binary.le_iff_toRat_le hpart hlimit).2 (hle.trans hcap.le)

/-- The share of epsilon is above zero if it is the threshold, or more than half a unit. -/
theorem zero_lt_epsilon_shares_iff (hepsilon : isEpsilon epsilon)
    (hthreshold : Config.checkThreshold threshold = .ok ()) (hn : n ≠ 0) :
    (Binary.zero .double false).lt (shares epsilon delta n threshold).epsilon ↔
      threshold.le epsilon ∨ (Binary.ofNat .double n).isInfinite = false ∧
        (Binary.ofNat .double n).toRat < 2 * epsilon.units := by
  by_cases hcap : threshold.le epsilon
  · rw [epsilon_shares_of_le hcap]
    exact iff_of_true (isFinite_of_checkThreshold hthreshold).2 (Or.inl hcap)
  · rw [epsilon_shares_of_not_le hcap, or_iff_right hcap]
    exact zero_lt_div_ofNat_iff (isFinite_of_not_le hepsilon hthreshold hcap) hepsilon hn

/-- **The shares are sound.**  Any budget that passes the checks is split among any number of
mechanisms, under any finite threshold above zero.  Both shares are finite, at least zero and at
most the whole, and the share of epsilon is at most the threshold.  It is above zero exactly if it
is the threshold, or if twice epsilon, counted in units, exceeds the number of mechanisms as a
double. -/
theorem split_bounds {parameters : List Parameter}
    (hparameters : ofParameters parameters = .ok (epsilon, delta))
    (hfinite : threshold.isFinite) (hpos : (Binary.zero .double false).lt threshold)
    (hn : n ≠ 0) :
    ∃ s, (split epsilon delta n threshold).outcome = .ok s ∧
      (s.epsilon.isFinite ∧ (Binary.zero .double false).le s.epsilon ∧
        s.epsilon.le epsilon ∧ s.epsilon.le threshold) ∧
      (s.delta.isFinite ∧ (Binary.zero .double false).le s.delta ∧ s.delta.le delta) ∧
      ((Binary.zero .double false).lt s.epsilon ↔ threshold.le epsilon ∨
        (Binary.ofNat .double n).isInfinite = false ∧
          (Binary.ofNat .double n).toRat < 2 * epsilon.units) := by
  obtain ⟨hepsilon, hdelta⟩ := isEpsilon_of_ofParameters hparameters
  have hthreshold : Config.checkThreshold threshold = .ok () := if_pos (by rw [hfinite, hpos]; rfl)
  have hdelta0 : (Binary.zero .double false).le delta := by
    rw [isDelta, Bool.and_eq_true] at hdelta
    exact hdelta.1
  exact ⟨shares epsilon delta n threshold, Factory.outcome_split hn,
    epsilon_shares_bounds hepsilon hthreshold hn,
    div_ofNat_bounds (isFinite_of_isDelta hdelta) hdelta0 hn,
    zero_lt_epsilon_shares_iff hepsilon hthreshold hn⟩

/-- Four mechanisms can use an epsilon of three units: twice three is more than four. -/
theorem three_units_split :
    let epsilon : Double := .ofBits .double 3
    let delta : Double := .zero .double false
    let threshold : Double := .ofNat .double 1
    ∃ s, (split epsilon delta 4 threshold).outcome = .ok s ∧
      (Binary.zero .double false).lt s.epsilon ∧ s.epsilon.le epsilon ∧ s.epsilon.le threshold := by
  intro epsilon delta threshold
  have hparameters : ofParameters [.f64 epsilon, .f64 delta] = .ok (epsilon, delta) := by
    decide +kernel
  have hfinite : threshold.isFinite := by decide +kernel
  have hpos : (Binary.zero .double false).lt threshold := by decide +kernel
  obtain ⟨s, hs, ⟨_, _, hle, hthreshold⟩, _, hiff⟩ :=
    split_bounds hparameters hfinite hpos (by decide : 4 ≠ 0)
  have hfour : (Binary.ofNat .double 4).toRat = 4 := by
    exact_mod_cast (Binary.isWhole_ofNat (n := 4) isWide_double (by decide)).toRat_eq
  have hunits : epsilon.units = 3 := by decide +kernel
  refine ⟨s, hs, hiff.2 (Or.inr ⟨by decide +kernel, ?_⟩), hle, hthreshold⟩
  rw [hfour, hunits]
  norm_num

/-- The least epsilon above zero passes the checks, and two mechanisms get none of it. -/
theorem least_epsilon_vanishes :
    let epsilon : Double := .ofBits .double 1
    let delta : Double := .zero .double false
    let threshold : Double := .ofNat .double 1
    (Binary.zero .double false).lt epsilon ∧
      ofParameters [.f64 epsilon, .f64 delta] = .ok (epsilon, delta) ∧
      Config.checkThreshold threshold = .ok () ∧
      (split epsilon delta 2 threshold).outcome = .ok (shares epsilon delta 2 threshold) ∧
      (shares epsilon delta 2 threshold).epsilon = .zero .double false := by
  decide +kernel

end Budget
end SharedBudget
