/-
# Binary numbers as exact numbers

A number that is finite has an exact value, `Binary.toRat`.  Comparisons compare
these values (`Binary.le_iff_toRat_le`), a quotient is the exact quotient rounded
once (`Binary.div_eq_ofRat`), and arithmetic on integers that fit the significand
is not rounded at all (`Binary.IsWhole.add`, `Binary.isWhole_sum`).
-/

import SharedBudget.Proofs.Binary.Rounding
import Mathlib.Algebra.BigOperators.Group.List.Basic
import Mathlib.Algebra.Order.Field.Basic
import Mathlib.Algebra.Order.Ring.Rat
import Mathlib.Data.Rat.Lemmas
import Mathlib.Tactic.FieldSimp
import Mathlib.Tactic.Linarith

namespace SharedBudget
namespace Binary

open Format

variable {f : Format}

/-- The value of a finite number. -/
def toRat (x : Binary f) : ℚ := x.toInt / 2 ^ f.scale

/-- The number nearest to the magnitude of `q`, with this sign. -/
def ofRat (f : Format) (negative : Bool) (q : ℚ) : Binary f :=
  ofRatio f negative q.num.natAbs q.den

theorem natAbs_toInt (x : Binary f) : x.toInt.natAbs = x.units := by
  cases h : x.negative <;> simp [toInt, h]

theorem abs_toRat (x : Binary f) : |x.toRat| = x.units / 2 ^ f.scale := by
  have hpos : (0 : ℚ) < 2 ^ f.scale := by positivity
  rw [toRat, abs_div, abs_of_pos hpos, ← natAbs_toInt, Nat.cast_natAbs, Int.cast_abs]

theorem toRat_nonneg {x : Binary f} (h : x.negative = false) : 0 ≤ x.toRat := by
  have hvalue : x.toRat = x.units / 2 ^ f.scale := by simp [toRat, toInt, h]
  rw [hvalue]
  positivity

theorem isNaN_of_isFinite {x : Binary f} (h : x.isFinite) : x.isNaN = false := by
  simp only [isFinite, isNaN, decide_eq_true_eq, decide_eq_false_iff_not] at h ⊢
  omega

theorem isInfinite_of_isFinite {x : Binary f} (h : x.isFinite) : x.isInfinite = false := by
  simp only [isFinite, isInfinite, decide_eq_true_eq, decide_eq_false_iff_not] at h ⊢
  omega

/-! ## Order -/

/-- The order of values is the order of places. -/
theorem toInt_le_toInt_iff (x y : Binary f) : x.toInt ≤ y.toInt ↔ x.place ≤ y.place := by
  have hxy := f.units_strictMono.le_iff_le (a := x.rank) (b := y.rank)
  have hyx := f.units_strictMono.le_iff_le (a := y.rank) (b := x.rank)
  have hx0 := f.units_strictMono.le_iff_le (a := x.rank) (b := 0)
  have hy0 := f.units_strictMono.le_iff_le (a := y.rank) (b := 0)
  rw [units_zero] at hx0 hy0
  unfold toInt place units
  cases x.negative <;> cases y.negative <;> simp <;> omega

theorem toRat_le_toRat_iff (x y : Binary f) : x.toRat ≤ y.toRat ↔ x.place ≤ y.place := by
  have hpos : (0 : ℚ) < 2 ^ f.scale := by positivity
  rw [toRat, toRat, div_le_div_iff_of_pos_right hpos, Int.cast_le, toInt_le_toInt_iff]

/-- **Comparing two numbers compares their values,** unless one is a NaN. -/
theorem le_iff_toRat_le {x y : Binary f} (hx : x.isNaN = false) (hy : y.isNaN = false) :
    x.le y ↔ x.toRat ≤ y.toRat := by
  rw [toRat_le_toRat_iff]
  simp [le, hx, hy]

theorem lt_iff_toRat_lt {x y : Binary f} (hx : x.isNaN = false) (hy : y.isNaN = false) :
    x.lt y ↔ x.toRat < y.toRat := by
  rw [← not_le, toRat_le_toRat_iff]
  simp [lt, hx, hy]

/-- A number that is not a NaN is equal to itself. -/
theorem eq_self {x : Binary f} (hx : x.isNaN = false) : x.eq x := by
  simp [Binary.eq, hx]

theorem eq_symm {x y : Binary f} (h : x.eq y) : y.eq x := by
  simp only [Binary.eq, Bool.and_eq_true, decide_eq_true_eq] at h ⊢
  exact ⟨h.1.symm, h.2.symm⟩

theorem eq_trans {x y z : Binary f} (h : x.eq y) (h' : y.eq z) : x.eq z := by
  simp only [Binary.eq, Bool.and_eq_true, decide_eq_true_eq] at h h' ⊢
  exact ⟨⟨h.1.1, h'.1.2⟩, h.2.trans h'.2⟩

/-! ## Rounding -/

/-- **A number that is not a NaN is the nearest one to itself,** whatever the quotient it is
written as. -/
theorem ofUnits_units (hp : 0 < f.precision) {x : Binary f} (hx : x.isNaN = false) {d : ℕ}
    (hd : 0 < d) : ofUnits f x.negative (x.units * d) d = x := by
  have hr : x.rank ≤ f.infinity := by simpa [isNaN] using hx
  have hn : f.nearest (x.units * d) d = x.rank := nearest_units_mul hp hr hd
  ext
  · rfl
  · rw [ofUnits, hn]
    exact Nat.min_eq_left hr

@[simp] theorem isNaN_ofRank (negative : Bool) (rank : ℕ) :
    (ofRank f negative rank).isNaN = false :=
  decide_eq_false (Nat.not_lt.2 (Nat.min_le_right rank f.infinity))

@[simp] theorem isNaN_ofUnits (negative : Bool) (n d : ℕ) :
    (ofUnits f negative n d).isNaN = false := isNaN_ofRank ..

@[simp] theorem isNaN_ofNat (n : ℕ) : (ofNat f n).isNaN = false := isNaN_ofRank ..

theorem isZero_ofNat (hf : f.IsWide) {n : ℕ} (h : n ≠ 0) : (ofNat f n).isZero = false := by
  have hone : 1 ≤ n * 2 ^ f.scale := Nat.mul_pos (Nat.pos_of_ne_zero h) (Nat.two_pow_pos _)
  have hpos := nearest_pos hf.infinity_pos Nat.one_pos hone
  have hrank : (ofNat f n).rank = f.nearest (n * 2 ^ f.scale) 1 :=
    Nat.min_eq_left (nearest_le ..)
  exact decide_eq_false (by omega)

/-- A quotient is a NaN only if a side is, or both are infinite, or both are zero. -/
theorem isNaN_div {x y : Binary f} (hx : x.isNaN = false) (hy : y.isNaN = false)
    (hinfinite : x.isInfinite = false ∨ y.isInfinite = false)
    (hzero : x.isZero = false ∨ y.isZero = false) : (x.div y).isNaN = false := by
  unfold div
  rw [hx, hy]
  simp only [Bool.or_self, Bool.false_eq_true, if_false]
  split
  · rename_i hx'
    rw [if_neg (by simpa [hx'] using hinfinite)]
    exact isNaN_ofRank ..
  split
  · exact isNaN_ofRank ..
  split
  · rename_i hy'
    rw [if_neg (by simpa [hy'] using hzero)]
    exact isNaN_ofRank ..
  · exact isNaN_ofUnits ..

/-- A product with a finite number other than zero is a NaN only if the other side is. -/
theorem isNaN_mul (hf : 0 < f.infinity) {x y : Binary f} (hx : x.isNaN = false) (hy : y.isFinite)
    (hy' : y.isZero = false) : (x.mul y).isNaN = false := by
  unfold mul
  rw [hx, isNaN_of_isFinite hy, isInfinite_of_isFinite hy, hy']
  simp only [Bool.or_self, Bool.or_false, Bool.false_eq_true, if_false]
  split
  · rename_i hx'
    have h0 : x.isZero = false := by
      simp only [isInfinite, isZero, decide_eq_true_eq, decide_eq_false_iff_not] at hx' ⊢
      omega
    rw [if_neg (by simp [h0])]
    exact isNaN_ofRank ..
  · exact isNaN_ofUnits ..

@[simp] theorem rank_ofUnits (negative : Bool) (n d : ℕ) :
    (ofUnits f negative n d).rank = f.nearest n d := Nat.min_eq_left (nearest_le ..)

/-- **A finite number divided by one that is at least one:** nothing is left over an infinite one,
and otherwise the quotient of the magnitudes is rounded once. -/
theorem div_eq_ofRank {x y : Binary f} (hx : x.isFinite) (hy : y.isNaN = false)
    (hone : 2 ^ f.scale ≤ y.units) :
    x.div y = ofRank f (x.negative != y.negative)
      (if y.isInfinite then 0 else f.nearest (x.units * 2 ^ f.scale) y.units) := by
  have hzero : y.isZero = false := by
    refine decide_eq_false fun h => ?_
    rw [units, h, units_zero] at hone
    exact absurd hone (Nat.not_le.2 (Nat.two_pow_pos _))
  unfold div
  rw [isNaN_of_isFinite hx, isInfinite_of_isFinite hx, hy, hzero]
  simp only [Bool.or_self, Bool.false_eq_true, if_false]
  split <;> rfl

/-- Such a quotient is no larger than the number that is divided. -/
theorem rank_div_le (hp : 1 < f.precision) {x y : Binary f} (hx : x.isFinite)
    (hy : y.isNaN = false) (hone : 2 ^ f.scale ≤ y.units) : (x.div y).rank ≤ x.rank := by
  rw [div_eq_ofRank hx hy hone]
  refine (Nat.min_le_left ..).trans ?_
  split
  · exact Nat.zero_le _
  · exact nearest_le_of_le hp ((Nat.two_pow_pos _).trans_le hone) (Nat.mul_le_mul_left _ hone)

/-- **Such a quotient is rounded to zero** exactly if it is at most half a unit. -/
theorem rank_div_eq_zero_iff (hp : 1 < f.precision) (hf : 0 < f.infinity) {x y : Binary f}
    (hx : x.isFinite) (hy : y.isNaN = false) (hone : 2 ^ f.scale ≤ y.units) :
    (x.div y).rank = 0 ↔ y.isInfinite ∨ 2 * (x.units : ℚ) ≤ |y.toRat| := by
  have hd : 0 < y.units := (Nat.two_pow_pos _).trans_le hone
  have hvalue : 2 * (x.units * 2 ^ f.scale) ≤ y.units ↔ 2 * (x.units : ℚ) ≤ |y.toRat| := by
    rw [abs_toRat, le_div_iff₀ (by positivity), mul_assoc]
    exact_mod_cast Iff.rfl
  rw [div_eq_ofRank hx hy hone, ofRank, ← hvalue, ← nearest_eq_zero_iff hp hf hd]
  cases y.isInfinite
  · simp [Nat.min_eq_left (f.nearest_le _ _)]
  · simp

/-- A number from one on is not rounded below one. -/
theorem scale_le_units_ofNat (hf : f.IsWide) (hp : 1 < f.precision) {n : ℕ} (hn : n ≠ 0) :
    2 ^ f.scale ≤ (ofNat f n).units := by
  obtain ⟨r, hr, hunits⟩ := hf.exists_units_eq_scale (Nat.one_lt_two_pow hf.precision_pos.ne')
  rw [Nat.one_mul] at hunits
  have hle : f.units r * 1 ≤ n * 2 ^ f.scale := by
    rw [hunits, Nat.mul_one]
    exact Nat.le_mul_of_pos_left _ (Nat.pos_of_ne_zero hn)
  rw [← hunits, units, ofNat, ofRatio, rank_ofUnits]
  exact f.units_strictMono.monotone (le_nearest_of_le hp hr.le Nat.one_pos hle)

/-- Converting a number to its own format changes nothing. -/
theorem convert_self (hp : 0 < f.precision) {x : Binary f} (hx : x.isNaN = false) :
    x.convert f = x := by
  unfold convert
  rw [hx, if_neg Bool.false_ne_true]
  split
  · rename_i h
    ext
    · rfl
    · simp only [isInfinite, decide_eq_true_eq] at h
      simp [infinity, ofRank, h]
  · exact ofUnits_units hp hx (Nat.two_pow_pos _)

theorem isZero_iff_toInt_eq_zero (x : Binary f) : x.isZero ↔ x.toInt = 0 := by
  rw [← Int.natAbs_eq_zero, natAbs_toInt, units, ← f.units_zero, f.units_strictMono.injective.eq_iff]
  simp [isZero]

theorem isZero_of_toInt_ne_zero {x : Binary f} (h : x.toInt ≠ 0) : x.isZero = false :=
  Bool.eq_false_iff.2 (mt (isZero_iff_toInt_eq_zero x).1 h)

/-- The rounding of a quotient of two numbers of units. -/
theorem ofUnits_mul_eq_ofRat (negative : Bool) {n d : ℤ} (hd : d ≠ 0) :
    ofUnits f negative (n.natAbs * 2 ^ f.scale) d.natAbs = ofRat f negative (n / d) := by
  obtain ⟨c, hn, hdc⟩ := Rat.exists_eq_mul_div_num_and_eq_mul_div_den n hd
  have hc : 0 < c.natAbs := Int.natAbs_pos.2 fun h => hd (by rw [hdc, h, Int.zero_mul])
  have hn' : n.natAbs = c.natAbs * (n / d : ℚ).num.natAbs := by
    rw [← Int.natAbs_mul, ← hn]
  have hd' : d.natAbs = c.natAbs * (n / d : ℚ).den := by
    rw [← Int.natAbs_natCast (n / d : ℚ).den, ← Int.natAbs_mul, ← hdc]
  rw [ofRat, ofRatio, ofUnits, ofUnits]
  conv_lhs => rw [hn', hd', Nat.mul_assoc, nearest_mul_mul_left hc]

/-- **A quotient is the exact quotient, rounded once.** -/
theorem div_eq_ofRat {x y : Binary f} (hx : x.isFinite) (hy : y.isFinite) (h0 : y.toInt ≠ 0) :
    x.div y = ofRat f (x.negative != y.negative) (x.toRat / y.toRat) := by
  have hz := isZero_of_toInt_ne_zero h0
  have hq : x.toRat / y.toRat = (x.toInt : ℚ) / y.toInt := by
    unfold toRat
    have h1 : (2 : ℚ) ^ f.scale ≠ 0 := by positivity
    have h2 : (y.toInt : ℚ) ≠ 0 := by exact_mod_cast h0
    field_simp
  rw [hq, ← ofUnits_mul_eq_ofRat _ h0, natAbs_toInt, natAbs_toInt, div, isNaN_of_isFinite hx,
    isNaN_of_isFinite hy, isInfinite_of_isFinite hx, isInfinite_of_isFinite hy, hz]
  rfl

/-- A finite number is its own value, rounded. -/
theorem ofRat_toRat (hp : 0 < f.precision) {x : Binary f} (hx : x.isFinite) :
    ofRat f x.negative x.toRat = x := by
  have hc : x.toRat = (x.toInt : ℚ) / ((2 ^ f.scale : ℤ) : ℚ) := by rw [toRat]; norm_cast
  rw [hc, ← ofUnits_mul_eq_ofRat _ (by positivity), natAbs_toInt, Int.natAbs_pow]
  exact ofUnits_units hp (isNaN_of_isFinite hx) (Nat.two_pow_pos _)

/-! ## Integers -/

/-- A finite number whose value is the integer `z`. -/
structure IsWhole (x : Binary f) (z : ℤ) : Prop where
  isFinite : x.isFinite
  toInt_eq : x.toInt = z * 2 ^ f.scale

theorem IsWhole.toRat_eq {x : Binary f} {z : ℤ} (h : x.IsWhole z) : x.toRat = z := by
  rw [toRat, h.toInt_eq]
  push_cast
  field_simp

theorem IsWhole.units_eq {x : Binary f} {z : ℤ} (h : x.IsWhole z) :
    x.units = z.natAbs * 2 ^ f.scale := by
  rw [← natAbs_toInt, h.toInt_eq, Int.natAbs_mul, Int.natAbs_pow]
  rfl

theorem IsWhole.isZero_iff {x : Binary f} {z : ℤ} (h : x.IsWhole z) : x.isZero ↔ z = 0 := by
  rw [isZero_iff_toInt_eq_zero, h.toInt_eq, mul_eq_zero, or_iff_left (by positivity)]

theorem IsWhole.isZero_eq_false {x : Binary f} {z : ℤ} (h : x.IsWhole z) (hz : z ≠ 0) :
    x.isZero = false :=
  Bool.eq_false_iff.2 fun h0 => hz (h.isZero_iff.1 h0)

/-- The quotient of two integers is rounded once. -/
theorem IsWhole.div {x y : Binary f} {a b : ℤ} (hx : x.IsWhole a) (hy : y.IsWhole b) (hb : b ≠ 0) :
    x.div y = ofRatio f (x.negative != y.negative) a.natAbs b.natAbs := by
  have hquotient : x.units * 2 ^ f.scale = 2 ^ f.scale * (a.natAbs * 2 ^ f.scale) := by
    rw [hx.units_eq, Nat.mul_comm]
  unfold Binary.div
  rw [isNaN_of_isFinite hx.isFinite, isNaN_of_isFinite hy.isFinite,
    isInfinite_of_isFinite hx.isFinite, isInfinite_of_isFinite hy.isFinite,
    hy.isZero_eq_false hb, hquotient, hy.units_eq, Nat.mul_comm b.natAbs]
  simp only [Bool.or_self, Bool.false_eq_true, if_false]
  rw [ofRatio, ofUnits, ofUnits, nearest_mul_mul_left (Nat.two_pow_pos _)]

/-- The product of two integers is rounded once. -/
theorem IsWhole.mul {x y : Binary f} {a b : ℤ} (hx : x.IsWhole a) (hy : y.IsWhole b) :
    x.mul y = ofRatio f (x.negative != y.negative) (a.natAbs * b.natAbs) 1 := by
  have hproduct : x.units * y.units = 2 ^ f.scale * (a.natAbs * b.natAbs * 2 ^ f.scale) := by
    rw [hx.units_eq, hy.units_eq]
    ring
  unfold Binary.mul
  rw [isNaN_of_isFinite hx.isFinite, isNaN_of_isFinite hy.isFinite,
    isInfinite_of_isFinite hx.isFinite, isInfinite_of_isFinite hy.isFinite, hproduct]
  simp only [Bool.or_self, Bool.false_eq_true, if_false]
  have hcancel := nearest_mul_mul_left (f := f) (Nat.two_pow_pos f.scale)
    (a.natAbs * b.natAbs * 2 ^ f.scale) 1
  rw [Nat.mul_one] at hcancel
  rw [ofRatio, ofUnits, ofUnits, hcancel]

theorem isWhole_zero (hf : f.IsWide) (negative : Bool) : (zero f negative).IsWhole 0 := by
  constructor
  · simpa [zero, ofRank, isFinite] using hf.infinity_pos
  · simp [zero, ofRank, toInt, units]

theorem ofInt_zero (hp : 0 < f.precision) : ofInt f 0 = zero f false := by
  have h := nearest_units_mul hp (Nat.zero_le f.infinity) Nat.one_pos
  rw [units_zero, Nat.zero_mul] at h
  ext
  · rfl
  · simp [zero, ofInt, ofRatio, ofUnits, ofRank, h]

theorem ofNat_eq_ofInt (n : ℕ) : ofNat f n = ofInt f n := by
  rw [ofNat, ofInt, Int.natAbs_natCast, decide_eq_false (by omega)]

/-- **An integer that fits the significand is not rounded.** -/
theorem isWhole_ofInt (hf : f.IsWide) {z : ℤ} (hz : z.natAbs < 2 ^ f.precision) :
    (ofInt f z).IsWhole z := by
  obtain ⟨r, hr, hu⟩ := hf.exists_units_eq_scale hz
  have hn : f.nearest (z.natAbs * 2 ^ f.scale) 1 = r := by
    have := nearest_units_mul hf.precision_pos hr.le Nat.one_pos
    rwa [Nat.mul_one, hu] at this
  have hx : ofInt f z = ⟨z < 0, r, hr.trans f.infinity_lt_ranks⟩ := by
    ext
    · rfl
    · rw [ofInt, ofRatio, ofUnits, hn]
      exact Nat.min_eq_left hr.le
  rw [hx]
  constructor
  · exact decide_eq_true hr
  · simp only [toInt, units, hu, decide_eq_true_eq]
    push_cast
    split
    · rw [abs_of_neg ‹_›, neg_mul, neg_neg]
    · rw [abs_of_nonneg (by omega)]

theorem isWhole_ofNat (hf : f.IsWide) {n : ℕ} (hn : n < 2 ^ f.precision) :
    (ofNat f n).IsWhole n := by
  rw [ofNat_eq_ofInt]
  exact isWhole_ofInt hf hn

/-- The sum of two integers, rounded once; only its sign is left open when it is zero. -/
theorem add_of_isWhole {x y : Binary f} {a b : ℤ} (hx : x.IsWhole a) (hy : y.IsWhole b) :
    x.add y = if a + b = 0 then zero f (x.negative && y.negative) else ofInt f (a + b) := by
  have hpos : (0 : ℤ) < 2 ^ f.scale := by positivity
  have hsum : x.toInt + y.toInt = (a + b) * 2 ^ f.scale := by
    rw [hx.toInt_eq, hy.toInt_eq, add_mul]
  have hzero : (a + b) * 2 ^ f.scale = 0 ↔ a + b = 0 := by
    rw [mul_eq_zero, or_iff_left hpos.ne']
  have hneg : (a + b) * 2 ^ f.scale < 0 ↔ a + b < 0 := by
    rw [Int.mul_neg_iff]; omega
  unfold add
  rw [isNaN_of_isFinite hx.isFinite, isNaN_of_isFinite hy.isFinite,
    isInfinite_of_isFinite hx.isFinite, isInfinite_of_isFinite hy.isFinite]
  simp only [Bool.or_self, Bool.false_eq_true, if_false, hsum, hzero, hneg, Int.natAbs_mul]
  rfl

theorem IsWhole.add (hf : f.IsWide) {x y : Binary f} {a b : ℤ} (hx : x.IsWhole a)
    (hy : y.IsWhole b) (h : (a + b).natAbs < 2 ^ f.precision) : (x.add y).IsWhole (a + b) := by
  rw [add_of_isWhole hx hy]
  split
  · rename_i h0
    rw [h0]
    exact isWhole_zero hf _
  · exact isWhole_ofInt hf h

/-- **Adding to an integer that fits the significand gives the double of the sum,** the
positive zero if the sum is zero. -/
theorem ofInt_add (hf : f.IsWide) {y : Binary f} {a b : ℤ} (ha : a.natAbs < 2 ^ f.precision)
    (hy : y.IsWhole b) : (ofInt f a).add y = ofInt f (a + b) := by
  rw [add_of_isWhole (isWhole_ofInt hf ha) hy]
  split
  · rename_i h0
    have hsign : ((ofInt f a).negative && y.negative) = false := by
      rcases lt_or_ge a 0 with h | h
      · have hb : 0 < y.toInt := by
          rw [hy.toInt_eq]
          have : 0 < b := by omega
          positivity
        have : y.negative = false := by
          cases hn : y.negative with
          | false => rfl
          | true => rw [toInt, hn, if_pos rfl] at hb; omega
        rw [this, Bool.and_false]
      · have : (ofInt f a).negative = false := decide_eq_false (by omega)
        rw [this, Bool.false_and]
    rw [hsign, h0, ofInt_zero hf.precision_pos]
  · rfl

/-- **A sum of integers whose absolute values add up to less than `2 ^ precision` is exact.** -/
theorem isWhole_sum (hf : f.IsWide) {xs : List (Binary f)} {zs : List ℤ}
    (h : List.Forall₂ IsWhole xs zs) (hz : (zs.map Int.natAbs).sum < 2 ^ f.precision) :
    (sum xs).IsWhole zs.sum := by
  -- The induction is on the summands that are still to come; `a` is what has been added so far.
  have key : ∀ (xs : List (Binary f)) (zs : List ℤ), List.Forall₂ IsWhole xs zs →
      ∀ (x : Binary f) (a : ℤ), x.IsWhole a →
        a.natAbs + (zs.map Int.natAbs).sum < 2 ^ f.precision →
          (xs.foldl Binary.add x).IsWhole (a + zs.sum) := by
    intro xs zs h
    induction h with
    | nil =>
      intro x a hx _
      rwa [List.sum_nil, add_zero]
    | cons hy _ ih =>
      rename_i y b ys bs _
      intro x a hx hbound
      rw [List.map_cons, List.sum_cons] at hbound
      have hadd := hx.add hf hy (by omega)
      have := ih _ (a + b) hadd (by omega)
      rwa [List.sum_cons, ← add_assoc]
  have := key xs zs h (zero f true) 0 (isWhole_zero hf true) (by simpa using hz)
  rwa [zero_add] at this

end Binary
end SharedBudget
