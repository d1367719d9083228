/-
# Arithmetic and conversions of binary floating-point numbers

Every operation computes its result exactly, as a quotient of two natural
numbers of units, and rounds it once with `Format.nearest`.
-/
import SharedBudget.Binary.Format

namespace SharedBudget.Binary

variable {f : Format}

/-- The number nearest to `numerator / denominator` units, with this sign. -/
def ofUnits (f : Format) (negative : Bool) (numerator denominator : Nat) : Binary f :=
  ofRank f negative (f.nearest numerator denominator)

/-- The number nearest to `numerator / denominator`, with this sign. -/
def ofRatio (f : Format) (negative : Bool) (numerator denominator : Nat) : Binary f :=
  ofUnits f negative (numerator * 2 ^ f.scale) denominator

/-- The number nearest to an integer. -/
def ofInt (f : Format) (z : Int) : Binary f := ofRatio f (z < 0) z.natAbs 1

/-- The number nearest to a natural number. -/
def ofNat (f : Format) (n : Nat) : Binary f := ofRatio f false n 1

/-- The sum, rounded once.  A sum that is exactly zero is positive unless both
sides are negative. -/
def add (x y : Binary f) : Binary f :=
  if x.isNaN || y.isNaN then nan f
  else if x.isInfinite then
    if y.isInfinite && x.negative != y.negative then nan f else x
  else if y.isInfinite then y
  else
    let sum := x.toInt + y.toInt
    if sum = 0 then zero f (x.negative && y.negative)
    else ofUnits f (sum < 0) sum.natAbs 1

/-- The product, rounded once. -/
def mul (x y : Binary f) : Binary f :=
  let negative := x.negative != y.negative
  if x.isNaN || y.isNaN then nan f
  else if x.isInfinite || y.isInfinite then
    if x.isZero || y.isZero then nan f else infinity f negative
  else ofUnits f negative (x.units * y.units) (2 ^ f.scale)

/-- The quotient, rounded once. -/
def div (x y : Binary f) : Binary f :=
  let negative := x.negative != y.negative
  if x.isNaN || y.isNaN then nan f
  else if x.isInfinite then
    if y.isInfinite then nan f else infinity f negative
  else if y.isInfinite then zero f negative
  else if y.isZero then
    if x.isZero then nan f else infinity f negative
  else ofUnits f negative (x.units * 2 ^ f.scale) y.units

/-- The nearest number of another format.  A NaN stays one, and keeps its sign. -/
def convert {f : Format} (g : Format) (x : Binary f) : Binary g :=
  if x.isNaN then { nan g with negative := x.negative }
  else if x.isInfinite then infinity g x.negative
  else ofUnits g x.negative (x.units * 2 ^ g.scale) (2 ^ f.scale)

/-- The integer part of a number as a 64-bit word: what lies below zero becomes
zero, what lies above the largest word becomes that word, and a NaN becomes zero. -/
def toWord (x : Binary f) : Nat :=
  if x.isNaN || x.negative then 0
  else if x.isInfinite then 2 ^ 64 - 1
  else min (x.units / 2 ^ f.scale) (2 ^ 64 - 1)

/-- The sum of a list from the left.  The sum of nothing is negative zero, the
neutral element of addition. -/
def sum (xs : List (Binary f)) : Binary f := xs.foldl add (zero f true)

end SharedBudget.Binary
