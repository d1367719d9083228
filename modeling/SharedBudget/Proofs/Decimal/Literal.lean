/-
# Literals that are rounded once

A literal is read with two operations: its significand is made a double, which is
then divided or multiplied by a power of ten.  If the significand fits a double and
the power is at most `10 ^ 22`, both are exact, and only the result is rounded
(`Decimal.Literal.toDouble_of_isShort`).  Such a literal denotes the nearest double.
-/

import SharedBudget.Decimal.Literal
import SharedBudget.Proofs.Binary.Exact
import SharedBudget.Proofs.Decimal.Shortest

namespace SharedBudget
namespace Decimal
namespace Literal

variable {l : Literal}

/-- Neither the significand nor the power of ten has to be rounded. -/
structure IsShort (l : Literal) : Prop where
  significand_lt : l.significand < 2 ^ Format.double.precision
  exponent_le : l.exponent.natAbs ≤ 22

/-- The powers of ten that are doubles. -/
theorem isWhole_powerOfTen {k : ℕ} (hk : k ≤ 22) : (powerOfTen k).IsWhole (10 ^ k : ℕ) := by
  have hall : ∀ k : Fin 23, (powerOfTen k).isFinite ∧
      (powerOfTen k).toInt = (10 ^ k.val : ℕ) * 2 ^ Format.double.scale := by decide +kernel
  obtain ⟨hfinite, hvalue⟩ := hall ⟨k, Nat.lt_succ_of_le hk⟩
  exact ⟨hfinite, hvalue⟩

/-- The number of the rank that a quotient is rounded to. -/
theorem ofRatio_eq {x : Double} {n d : ℕ}
    (h : Format.double.nearest (n * 2 ^ Format.double.scale) d = x.rank) :
    Binary.ofRatio .double false n d = { x with negative := false } := by
  have hle := h ▸ Format.double.nearest_le (n * 2 ^ Format.double.scale) d
  ext
  · rfl
  · change min (Format.double.nearest (n * 2 ^ Format.double.scale) d) _ = x.rank
    rw [h, Nat.min_eq_left hle]

/-- **A short literal is rounded once:** it denotes the nearest double. -/
theorem toDouble_of_isShort (hl : l.IsShort) {x : Double} (hx : x.isFinite)
    (hsign : x.negative = l.negative)
    (hnearest : Format.double.nearest (l.significand * gridStep .double l.exponent)
      (gridScale l.exponent) = x.rank) : l.toDouble = some x := by
  have hsignificand := Binary.isWhole_ofNat Format.isWide_double hl.significand_lt
  have hmagnitude : magnitude l.significand l.exponent = some { x with negative := false } := by
    have hexponent := hl.exponent_le
    unfold magnitude
    dsimp only
    split
    · rename_i hneg
      have htimes : (l.exponent.natAbs - 1) / largestPower = 0 :=
        Nat.div_eq_of_lt (by unfold largestPower; omega)
      have hstep : gridStep .double l.exponent = 2 ^ Format.double.scale := by
        rw [gridStep, Int.toNat_of_nonpos hneg.le, Nat.pow_zero, Nat.mul_one]
      have hscale : gridScale l.exponent = 10 ^ l.exponent.natAbs := by
        rw [gridScale, show (-l.exponent).toNat = l.exponent.natAbs by omega]
      rw [hstep, hscale] at hnearest
      rw [htimes, shrink, Nat.zero_mul, Nat.sub_zero,
        hsignificand.div (isWhole_powerOfTen hexponent) (by positivity)]
      exact congrArg some (ofRatio_eq hnearest)
    · rename_i hneg
      have hscale : gridScale l.exponent = 1 := by
        rw [gridScale, Int.toNat_of_nonpos (by omega), Nat.pow_zero]
      have hstep : l.significand * gridStep .double l.exponent =
          l.significand * 10 ^ l.exponent.toNat * 2 ^ Format.double.scale := by
        rw [gridStep, Nat.mul_comm (2 ^ _), Nat.mul_assoc]
      rw [hstep, hscale] at hnearest
      have hproduct : (Binary.ofNat .double l.significand).mul (powerOfTen l.exponent.toNat) =
          { x with negative := false } := by
        rw [hsignificand.mul (isWhole_powerOfTen (by omega))]
        exact ofRatio_eq hnearest
      have hfinite : Binary.isInfinite (f := .double) { x with negative := false } = false :=
        Binary.isInfinite_of_isFinite hx
      rw [if_pos (by unfold largestPower; omega), hproduct, hfinite, if_neg Bool.false_ne_true]
  rw [toDouble, hmagnitude]
  cases x with
  | mk negative rank hrank =>
    obtain rfl : negative = l.negative := hsign
    cases l.negative <;> rfl

end Literal
end Decimal
end SharedBudget
