/-
# The double that a decimal literal denotes

Literals are read with few operations rather than with one exact rounding: the
significand, which fits a 64-bit word, is converted to a double and then
multiplied or divided by a power of ten that is itself a double.  Up to two
roundings happen, so the result can be a neighbour of the nearest double.
-/
import SharedBudget.Binary.Arithmetic

namespace SharedBudget.Decimal

/-- The literal `significand · 10 ^ exponent` with its sign. -/
structure Literal where
  negative : Bool
  significand : Nat
  exponent : Int
deriving DecidableEq, Repr

namespace Literal

/-- The largest exponent whose power of ten is a finite double. -/
def largestPower : Nat := 308

/-- The double nearest to a power of ten. -/
def powerOfTen (exponent : Nat) : Double := .ofNat .double (10 ^ exponent)

/-- Divides by the largest power of ten `times` times, or until nothing is left. -/
def shrink : (times : Nat) → Double → Double
  | 0, x => x
  | times + 1, x => if x.isZero then x else shrink times (x.div (powerOfTen largestPower))

/-- The magnitude of a literal; `none` if it is out of range. -/
def magnitude (significand : Nat) (exponent : Int) : Option Double :=
  let x : Double := .ofNat .double significand
  if exponent < 0 then
    let times := (exponent.natAbs - 1) / largestPower
    some ((shrink times x).div (powerOfTen (exponent.natAbs - times * largestPower)))
  else if exponent ≤ largestPower then
    let product := x.mul (powerOfTen exponent.toNat)
    if product.isInfinite then none else some product
  else if x.isZero then some x
  else none

/-- The double that a literal denotes; `none` if it is out of range. -/
def toDouble (l : Literal) : Option Double :=
  (magnitude l.significand l.exponent).map fun x => if l.negative then x.neg else x

end Literal

end SharedBudget.Decimal
