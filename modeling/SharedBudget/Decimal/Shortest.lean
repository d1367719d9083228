/-
# The shortest decimal of a binary number

Every finite rank owns an interval of reals: those that are nearer to its
magnitude than to the neighbouring ones, and the two ends as well if the rank
is even.  `Decimal.shortest` looks at the grids of one digit, two digits and so
on.  On each it tests the two grid points next to the magnitude, which suffices:
if any point of a grid lies in the interval, one of these two does.  The first
grid with a hit wins, and of two hits the one nearer to the magnitude.  All of
it is exact arithmetic on natural numbers.
-/
import SharedBudget.Binary.Format

namespace SharedBudget

/-- The positive decimal number `coefficient · 10 ^ exponent`. -/
structure Decimal where
  coefficient : Nat
  exponent : Int
deriving DecidableEq, Repr

namespace Decimal

/-- The decimal digits of a natural number, the leading one first. -/
def digits (n : Nat) : List Char := Nat.toDigits 10 n

/-- The exponent of the leading digit. -/
def magnitude (x : Decimal) : Int := x.exponent + (digits x.coefficient).length - 1

/-- What decides between two shortest decimals that are equally near. -/
inductive Tie where
  /-- The one with the even last digit. -/
  | even
  /-- The larger one. -/
  | up
deriving DecidableEq, Repr

/-- The largest `e` with `10 ^ e ≤ numerator / denominator`, for a positive quotient. -/
def leadingExponent (numerator denominator : Nat) : Int :=
  if denominator ≤ numerator then ((digits (numerator / denominator)).length : Int) - 1
  else -((digits ((denominator - 1) / numerator)).length : Int)

/-- The point of the grid `10 ^ exponent` that stands for the magnitude with this
rank, if one of the two points next to it lies in the rank's interval. -/
def onGrid (f : Format) (tie : Tie) (rank : Nat) (exponent : Int) : Option Nat :=
  let up := 10 ^ (-exponent).toNat
  let point := 2 ^ f.scale * 10 ^ exponent.toNat
  let lowest := (f.units (rank - 1) + f.units rank) * up
  let highest := (f.units rank + f.units (rank + 1)) * up
  let inside (c : Nat) : Bool :=
    if rank % 2 = 0 then lowest ≤ 2 * c * point && 2 * c * point ≤ highest
    else lowest < 2 * c * point && 2 * c * point < highest
  let below := f.units rank * up / point
  let remainder := f.units rank * up % point
  let nearer : Nat :=
    if 2 * remainder < point then below
    else if point < 2 * remainder then below + 1
    else match tie with
      | .up => below + 1
      | .even => if below % 2 = 0 then below else below + 1
  match inside below, inside (below + 1) with
  | true, true => some nearer
  | true, false => some below
  | false, true => some (below + 1)
  | false, false => none

/-- The point found on the first of the grids `exponent`, `exponent - 1`, … that
has one, among at most `grids` of them.  A coefficient that ends in zero is a 10
on the very first grid, and is written with one digit. -/
def search (f : Format) (tie : Tie) (rank : Nat) : (grids : Nat) → (exponent : Int) → Decimal
  | 0, exponent => ⟨0, exponent⟩
  | grids + 1, exponent =>
    match onGrid f tie rank exponent with
    | some c => if c % 10 = 0 then ⟨c / 10, exponent + 1⟩ else ⟨c, exponent⟩
    | none => search f tie rank grids (exponent - 1)

/-- The shortest decimal that reads back as the magnitude with this positive
finite rank, the nearest one if there are several.  Seventeen digits always
suffice for a double. -/
def shortest (f : Format) (tie : Tie) (rank : Nat) : Decimal :=
  search f tie rank 17 (leadingExponent (f.units rank) (2 ^ f.scale))

end Decimal

end SharedBudget
