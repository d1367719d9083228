/-
# Ranks, units and rounding

A rank is a *shift* `s` and a *significand* `q` with `rank = s · binade + q`, and
then its magnitude is `q · 2 ^ s` units (`Format.units_shift`).  All else about a
format follows from this one equation: the order of ranks is the order of
magnitudes (`Format.units_strictMono`), a magnitude that the format has is
rounded to itself (`Format.nearest_units_mul`), and rounding a quotient looks at
its value alone (`Format.nearest_mul_mul_left`).
-/

import SharedBudget.Binary.Arithmetic
import Mathlib.Order.Monotone.Basic
import Mathlib.Tactic.Ring

namespace SharedBudget
namespace Format

variable {f : Format}

theorem two_mul_binade (hp : 0 < f.precision) : 2 * f.binade = 2 ^ f.precision := by
  rw [binade, ← Nat.pow_succ', Nat.succ_eq_add_one, Nat.sub_add_cancel hp]

/-- **The magnitude of a rank.**  With the shift `s` and the significand `q` it is
`q · 2 ^ s` units; a shift above zero needs a significand with its leading bit. -/
theorem units_shift {s q : ℕ} (hq : q ≤ 2 * f.binade) (hs : s = 0 ∨ f.binade ≤ q) :
    f.units (s * f.binade + q) = q * 2 ^ s := by
  have hb := f.binade_pos
  rcases Nat.lt_or_ge q f.binade with hlt | hge
  · obtain rfl : s = 0 := by omega
    rw [Nat.zero_mul, Nat.zero_add, units, if_pos hlt, Nat.pow_zero, Nat.mul_one]
  · have hr : f.binade ≤ s * f.binade + q := by omega
    rw [units, if_neg (by omega)]
    rcases Nat.lt_or_ge q (2 * f.binade) with h2 | h2
    · have hsplit : s * f.binade + q = (q - f.binade) + (s + 1) * f.binade := by
        rw [Nat.add_mul]; omega
      rw [hsplit, Nat.add_mul_mod_self_right, Nat.add_mul_div_right _ _ hb,
        Nat.mod_eq_of_lt (by omega), Nat.div_eq_of_lt (by omega), Nat.sub_add_cancel hge]
      congr 2
      omega
    · obtain rfl : q = 2 * f.binade := by omega
      have hsplit : s * f.binade + 2 * f.binade = (s + 2) * f.binade := (Nat.add_mul ..).symm
      rw [hsplit, Nat.mul_mod_left, Nat.mul_div_cancel _ hb, Nat.zero_add,
        show s + 2 - 1 = s + 1 from rfl, Nat.pow_succ]
      ring

/-- Every rank has a shift and a significand. -/
theorem exists_shift (r : ℕ) :
    ∃ s q, r = s * f.binade + q ∧ q < 2 * f.binade ∧ (s = 0 ∨ f.binade ≤ q) := by
  have hb := f.binade_pos
  rcases Nat.lt_or_ge r f.binade with h | h
  · exact ⟨0, r, by omega, by omega, Or.inl rfl⟩
  · have hd := Nat.div_add_mod r f.binade
    have hm := Nat.mod_lt r hb
    obtain ⟨k, hk⟩ : ∃ k, r / f.binade = k + 1 :=
      ⟨r / f.binade - 1, by have := Nat.div_pos h hb; omega⟩
    refine ⟨k, f.binade + r % f.binade, ?_, by omega, Or.inr (by omega)⟩
    rw [hk, Nat.mul_comm, Nat.add_mul] at hd
    omega

theorem units_lt_units_succ (r : ℕ) : f.units r < f.units (r + 1) := by
  obtain ⟨s, q, rfl, hq, hs⟩ := f.exists_shift r
  rw [Nat.add_assoc, units_shift (by omega) hs, units_shift (by omega) (by omega)]
  exact Nat.mul_lt_mul_of_pos_right (by omega) (Nat.two_pow_pos s)

/-- **The order of ranks is the order of magnitudes.** -/
theorem units_strictMono (f : Format) : StrictMono f.units :=
  strictMono_nat_of_lt_succ units_lt_units_succ

@[simp] theorem units_zero : f.units 0 = 0 := by
  rw [units, if_pos f.binade_pos]

/-- A magnitude is at least its rank. -/
theorem le_units (r : ℕ) : r ≤ f.units r := by
  have h := f.units_strictMono.add_le_nat r 0
  rwa [units_zero, Nat.add_zero] at h

/-- Below two binades a rank is its own magnitude. -/
theorem units_of_lt {r : ℕ} (h : r < 2 * f.binade) : f.units r = r := by
  have := units_shift (f := f) (s := 0) h.le (Or.inl rfl)
  rwa [Nat.zero_mul, Nat.zero_add, Nat.pow_zero, Nat.mul_one] at this

/-- The shift of a magnitude `q · 2 ^ s` whose significand is not longer than the format
allows, and has its leading bit if the shift is not zero. -/
theorem log2_shift (hp : 0 < f.precision) {s q : ℕ} (hq : q < 2 * f.binade)
    (hs : s = 0 ∨ f.binade ≤ q) : (q * 2 ^ s).log2 + 1 - f.precision = s := by
  rw [two_mul_binade hp] at hq
  rcases Nat.lt_or_ge q f.binade with hlt | hge
  · obtain rfl : s = 0 := by omega
    rw [Nat.pow_zero, Nat.mul_one]
    rcases Nat.eq_zero_or_pos q with rfl | hpos
    · rw [Nat.log2_zero]; omega
    · have := (Nat.log2_lt (by omega)).2 hq
      omega
  · have hpos : q ≠ 0 := by have := f.binade_pos; omega
    have hlog : (q * 2 ^ s).log2 = f.precision - 1 + s := by
      rw [Nat.log2_eq_iff (Nat.mul_ne_zero hpos (Nat.two_pow_pos s).ne'), Nat.pow_add,
        Nat.add_right_comm, Nat.sub_add_cancel hp, Nat.pow_add]
      exact ⟨Nat.mul_le_mul_right _ hge, Nat.mul_lt_mul_of_pos_right hq (Nat.two_pow_pos s)⟩
    omega

/-- **A magnitude that the format has is rounded to itself.** -/
theorem nearest_units_mul (hp : 0 < f.precision) {r d : ℕ} (hr : r ≤ f.infinity) (hd : 0 < d) :
    f.nearest (f.units r * d) d = r := by
  obtain ⟨s, q, rfl, hq, hs⟩ := f.exists_shift r
  have hstep : 0 < d * 2 ^ s := Nat.mul_pos hd (Nat.two_pow_pos s)
  have hshift : (q * 2 ^ s * d / d).log2 + 1 - f.precision = s := by
    rw [Nat.mul_div_cancel _ hd, log2_shift hp hq hs]
  have hn : q * 2 ^ s * d = q * (d * 2 ^ s) := by ring
  unfold nearest
  rw [units_shift hq.le hs]
  simp only [hshift]
  rw [hn, Nat.mul_mod_left, Nat.mul_div_cancel _ hstep, if_neg (by omega), Nat.min_eq_left hr]

/-- The shift of a magnitude that has this significand in front of its last bits. -/
theorem log2_shift_div (hp : 0 < f.precision) {m s q : ℕ} (hm : m / 2 ^ s = q)
    (hq : q < 2 * f.binade) (hs : s = 0 ∨ f.binade ≤ q) : m.log2 + 1 - f.precision = s := by
  have hlow : q * 2 ^ s ≤ m := hm ▸ Nat.div_mul_le_self m _
  have hhigh : m < (q + 1) * 2 ^ s := by
    rw [← Nat.div_lt_iff_lt_mul (Nat.two_pow_pos s), hm]
    exact q.lt_succ_self
  rcases Nat.eq_zero_or_pos s with rfl | hpos
  · obtain rfl : m = q := by omega
    have h := log2_shift (s := 0) hp hq (Or.inl rfl)
    rwa [Nat.pow_zero, Nat.mul_one] at h
  · have hbinade : f.binade ≤ q := hs.resolve_left hpos.ne'
    have hm0 : m ≠ 0 := by
      have := Nat.mul_pos (f.binade_pos.trans_le hbinade) (Nat.two_pow_pos s)
      omega
    have hlog : m.log2 = f.precision - 1 + s := by
      rw [Nat.log2_eq_iff hm0, Nat.pow_add, Nat.add_right_comm, Nat.sub_add_cancel hp, Nat.pow_add,
        ← two_mul_binade hp]
      exact ⟨(Nat.mul_le_mul_right _ hbinade).trans hlow,
        hhigh.trans_le (Nat.mul_le_mul_right _ hq)⟩
    omega

/-- **Rounding between two neighbours** goes to the nearer one, and to the even one from the
middle. -/
theorem nearest_of_between (hp : 1 < f.precision) {r n d : ℕ} (hd : 0 < d)
    (hlow : f.units r * d ≤ n) (hhigh : n < f.units (r + 1) * d) :
    f.nearest n d = min (if (f.units r + f.units (r + 1)) * d < 2 * n ∨
      ((f.units r + f.units (r + 1)) * d = 2 * n ∧ r % 2 = 1) then r + 1 else r) f.infinity := by
  obtain ⟨s, q, rfl, hq, hs⟩ := f.exists_shift r
  rw [Nat.add_assoc] at hhigh ⊢
  rw [units_shift hq.le hs] at hlow ⊢
  rw [units_shift (by omega) (by omega)] at hhigh ⊢
  have hstep : 0 < d * 2 ^ s := Nat.mul_pos hd (Nat.two_pow_pos s)
  have hunits (k : ℕ) : k * 2 ^ s * d = k * (d * 2 ^ s) := by ring
  rw [hunits] at hlow hhigh
  have hquotient : n / (d * 2 ^ s) = q := Nat.div_eq_of_lt_le hlow hhigh
  have hshift : (n / d).log2 + 1 - f.precision = s := by
    refine log2_shift_div (by omega) ?_ hq hs
    rw [Nat.div_div_eq_div_mul, hquotient]
  -- A rank is even exactly if its significand is, because a binade has an even number of ranks.
  have hparity : (s * f.binade + q) % 2 = q % 2 := by
    have hbinade : f.binade = 2 * 2 ^ (f.precision - 2) := by
      rw [binade, ← Nat.pow_succ']
      congr 1
      omega
    rw [hbinade, ← Nat.mul_assoc, Nat.mul_comm s 2, Nat.mul_assoc, Nat.mul_add_mod]
  have hmiddle : (q * 2 ^ s + (q + 1) * 2 ^ s) * d = (2 * q + 1) * (d * 2 ^ s) := by
    rw [← Nat.add_mul, hunits]
    congr 1
    omega
  have hdivision := Nat.div_add_mod n (d * 2 ^ s)
  unfold nearest
  dsimp only
  rw [hshift, hparity, hmiddle, hquotient]
  rw [hquotient] at hdivision
  generalize d * 2 ^ s = step at *
  have hcompare : (2 * q + 1) * step = 2 * (step * q) + step := by ring
  rw [hcompare]
  congr 1
  split <;> split <;> omega

/-- **A quotient is rounded to a magnitude that is nearer than the neighbours,** or as near, if
the rank is even. -/
theorem nearest_of_inside (hp : 1 < f.precision) {r n d : ℕ} (hr : 0 < r) (hr' : r < f.infinity)
    (hd : 0 < d) (hlow : (f.units (r - 1) + f.units r) * d ≤ 2 * n)
    (hhigh : 2 * n ≤ (f.units r + f.units (r + 1)) * d)
    (hodd : r % 2 = 1 → (f.units (r - 1) + f.units r) * d < 2 * n ∧
      2 * n < (f.units r + f.units (r + 1)) * d) : f.nearest n d = r := by
  obtain ⟨k, rfl⟩ : ∃ k, r = k + 1 := ⟨r - 1, (Nat.sub_add_cancel hr).symm⟩
  rw [Nat.add_sub_cancel] at hlow hodd
  have hstep := Nat.mul_lt_mul_of_pos_right (f.units_lt_units_succ k) hd
  have hstep' := Nat.mul_lt_mul_of_pos_right (f.units_lt_units_succ (k + 1)) hd
  rw [Nat.add_mul] at hlow hhigh hodd
  rcases Nat.lt_or_ge n (f.units (k + 1) * d) with hlt | hge
  · rw [nearest_of_between hp hd (by omega) hlt, Nat.add_mul, if_pos (by omega)]
    omega
  · rw [Nat.add_mul] at hodd
    rw [nearest_of_between hp hd hge (by omega), Nat.add_mul, if_neg (by omega)]
    omega

/-- Every quotient lies between two neighbours. -/
theorem exists_between {d : ℕ} (hd : 0 < d) (n : ℕ) :
    ∃ r, f.units r * d ≤ n ∧ n < f.units (r + 1) * d := by
  have hlarge : ∃ r, n < f.units r * d :=
    ⟨n + 1, Nat.lt_of_lt_of_le (f.le_units (n + 1)) (Nat.le_mul_of_pos_right _ hd)⟩
  obtain ⟨r, hr⟩ : ∃ r, Nat.find hlarge = r + 1 := by
    refine Nat.exists_eq_succ_of_ne_zero fun h => ?_
    have hzero := Nat.find_spec hlarge
    rw [h, units_zero, Nat.zero_mul] at hzero
    exact Nat.not_lt_zero n hzero
  refine ⟨r, Nat.not_lt.1 (Nat.find_min hlarge ?_), hr ▸ Nat.find_spec hlarge⟩
  rw [hr]
  exact r.lt_succ_self

/-- **Rounding is monotone:** what is at most a magnitude of the format is not rounded above it. -/
theorem nearest_le_of_le (hp : 1 < f.precision) {r n d : ℕ} (hd : 0 < d)
    (h : n ≤ f.units r * d) : f.nearest n d ≤ r := by
  obtain ⟨k, hlow, hhigh⟩ := f.exists_between hd n
  rw [nearest_of_between hp hd hlow hhigh]
  refine (Nat.min_le_left ..).trans ?_
  have hk : k ≤ r := f.units_strictMono.le_iff_le.1 (Nat.le_of_mul_le_mul_right (hlow.trans h) hd)
  rcases Nat.lt_or_eq_of_le hk with hlt | rfl
  · split <;> omega
  · rw [Nat.add_mul, if_neg (by omega)]

/-- What is at least a magnitude of the format is not rounded below it. -/
theorem le_nearest_of_le (hp : 1 < f.precision) {r n d : ℕ} (hr : r ≤ f.infinity) (hd : 0 < d)
    (h : f.units r * d ≤ n) : r ≤ f.nearest n d := by
  obtain ⟨k, hlow, hhigh⟩ := f.exists_between hd n
  rw [nearest_of_between hp hd hlow hhigh]
  have hk : r < k + 1 :=
    f.units_strictMono.lt_iff_lt.1 (Nat.lt_of_mul_lt_mul_right (h.trans_lt hhigh))
  refine Nat.le_min.2 ⟨?_, hr⟩
  split <;> omega

/-- **Rounding a quotient looks at its value alone:** a common factor does not matter. -/
theorem nearest_mul_mul_left {k : ℕ} (hk : 0 < k) (n d : ℕ) :
    f.nearest (k * n) (k * d) = f.nearest n d := by
  unfold nearest
  simp only [Nat.mul_div_mul_left _ _ hk, Nat.mul_assoc, Nat.mul_mod_mul_left,
    Nat.mul_left_comm 2 k, Nat.mul_lt_mul_left hk, Nat.mul_right_inj hk.ne']

/-- A quotient of at least one is not rounded to zero. -/
theorem nearest_pos (hf : 0 < f.infinity) {n d : ℕ} (hd : 0 < d) (h : d ≤ n) :
    0 < f.nearest n d := by
  unfold nearest
  refine Nat.lt_min.2 ⟨?_, hf⟩
  rcases Nat.eq_zero_or_pos ((n / d).log2 + 1 - f.precision) with hs | hs
  · have hq : 0 < n / d := Nat.div_pos h hd
    simp only [hs, Nat.pow_zero, Nat.mul_one]
    split <;> omega
  · exact Nat.add_pos_left (Nat.mul_pos hs f.binade_pos) _

/-- **A quotient is rounded to zero** exactly if it is at most half a unit: the middle between zero
and one unit goes to zero, whose rank is even. -/
theorem nearest_eq_zero_iff (hp : 1 < f.precision) (hf : 0 < f.infinity) {n d : ℕ} (hd : 0 < d) :
    f.nearest n d = 0 ↔ 2 * n ≤ d := by
  have hone : f.units 1 = 1 := units_of_lt (by have := f.binade_pos; omega)
  rcases Nat.lt_or_ge n d with hlt | hge
  · rw [nearest_of_between hp (r := 0) hd (by rw [units_zero]; omega) (by rwa [hone, Nat.one_mul]),
      units_zero, hone]
    split <;> omega
  · have := nearest_pos hf hd hge
    omega

/-- A quotient below a power of two is not rounded beyond the next one. -/
theorem nearest_le_of_lt (hp : 0 < f.precision) {n d k : ℕ}
    (h : n / d < 2 ^ (f.precision + k)) : f.nearest n d ≤ (k + 2) * f.binade := by
  have hlog : (n / d).log2 + 1 - f.precision ≤ k := by
    rcases Nat.eq_zero_or_pos (n / d) with h0 | hpos
    · rw [h0, Nat.log2_zero]
      omega
    · have := (Nat.log2_lt hpos.ne').2 h
      omega
  unfold nearest
  dsimp only
  generalize hshift : (n / d).log2 + 1 - f.precision = shift at hlog ⊢
  have hquotient : n / (d * 2 ^ shift) < 2 * f.binade := by
    rw [← Nat.div_div_eq_div_mul, Nat.div_lt_iff_lt_mul (Nat.two_pow_pos _), two_mul_binade hp,
      ← Nat.pow_add]
    exact Nat.lt_log2_self.trans_le (Nat.pow_le_pow_right (by decide) (by omega))
  refine (Nat.min_le_left ..).trans ?_
  rw [Nat.add_mul]
  have := Nat.mul_le_mul_right f.binade hlog
  split <;> omega

/-- A significand that is not longer than the format allows, shifted to the left, is a
magnitude of the format. -/
theorem exists_units_eq (hp : 0 < f.precision) {k : ℕ} (e : ℕ) (hk : k < 2 ^ f.precision) :
    ∃ r, f.units r = k * 2 ^ e := by
  rw [← two_mul_binade hp] at hk
  induction e generalizing k with
  | zero => exact ⟨k, by rw [units_of_lt hk, Nat.pow_zero, Nat.mul_one]⟩
  | succ e ih =>
    rcases Nat.lt_or_ge k f.binade with h | h
    · obtain ⟨r, hr⟩ := ih (k := 2 * k) (by omega)
      exact ⟨r, by rw [hr, Nat.pow_succ]; ring⟩
    · exact ⟨(e + 1) * f.binade + k, units_shift hk.le (Or.inr h)⟩

/-- The magnitude at the rank of infinity. -/
theorem units_infinity (h : 1 < f.exponentBits) :
    f.units f.infinity = 2 ^ (f.precision - 1 + (2 ^ f.exponentBits - 2)) := by
  have h4 : 2 ^ 2 ≤ 2 ^ f.exponentBits := Nat.pow_le_pow_right (by decide) h
  obtain ⟨k, hk⟩ : ∃ k, 2 ^ f.exponentBits = k + 2 := ⟨2 ^ f.exponentBits - 2, by omega⟩
  have hsplit : f.infinity = k * f.binade + f.binade := by
    rw [infinity, hk, show k + 2 - 1 = k + 1 from rfl, Nat.add_mul, Nat.one_mul]
  rw [hsplit, units_shift (by omega) (Or.inr le_rfl), hk, show k + 2 - 2 = k from rfl, Nat.pow_add]
  rfl

/-- What arithmetic needs of a format: at least one bit, and a range that holds all integers
with as many bits as a significand. -/
structure IsWide (f : Format) : Prop where
  precision_pos : 0 < f.precision
  precision_le : f.precision + 3 ≤ 2 ^ (f.exponentBits - 1)
  one_lt_exponentBits : 1 < f.exponentBits

theorem IsWide.infinity_pos (hf : f.IsWide) : 0 < f.infinity :=
  Nat.mul_pos (Nat.sub_pos_of_lt (Nat.one_lt_two_pow (Nat.ne_zero_of_lt hf.one_lt_exponentBits)))
    f.binade_pos

theorem isWide_double : IsWide double := ⟨by decide, by decide, by decide⟩

/-- An integer whose absolute value fits a significand is a finite number of the format. -/
theorem IsWide.exists_units_eq_scale (hf : f.IsWide) {k : ℕ} (hk : k < 2 ^ f.precision) :
    ∃ r < f.infinity, f.units r = k * 2 ^ f.scale := by
  obtain ⟨r, hr⟩ := exists_units_eq hf.precision_pos f.scale hk
  refine ⟨r, f.units_strictMono.lt_iff_lt.1 ?_, hr⟩
  rw [hr, units_infinity hf.one_lt_exponentBits]
  have hE : 2 * 2 ^ (f.exponentBits - 1) = 2 ^ f.exponentBits := by
    rw [← Nat.pow_succ', Nat.succ_eq_add_one, Nat.sub_add_cancel hf.one_lt_exponentBits.le]
  have h1 := hf.precision_le
  have h2 := hf.precision_pos
  calc k * 2 ^ f.scale < 2 ^ f.precision * 2 ^ f.scale :=
        Nat.mul_lt_mul_of_pos_right hk (Nat.two_pow_pos _)
    _ = 2 ^ (f.precision + f.scale) := (Nat.pow_add ..).symm
    _ ≤ _ := Nat.pow_le_pow_right (by decide) (by rw [scale]; omega)

end Format

end SharedBudget
