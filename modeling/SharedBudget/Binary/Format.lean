/-
# Binary floating-point numbers as exact integers

A finite number of a binary format is a whole number of *units*, a unit being
the smallest positive number of the format (`2⁻¹⁰⁷⁴` for doubles).  The
magnitudes of a format are numbered in ascending order: this number is the
magnitude's *rank*, and it is also the bit pattern without the sign.

  rank                        magnitude
  `r < binade`                `r` units
  `binade ≤ r < infinity`     `(r % binade + binade) · 2^(r / binade − 1)` units
  `infinity`                  infinity
  `infinity < r`              not a number, `r − infinity` is its payload

So every question about a float is a question about natural numbers: order is
the order of ranks (`Format.units_strictMono`), and rounding is one division
(`SharedBudget.Binary.Arithmetic`).
-/

import SharedBudget.Powers

namespace SharedBudget

/-- A binary interchange format. -/
structure Format where
  /-- Bits of the significand, counting the leading one. -/
  precision : Nat
  /-- Bits of the exponent field. -/
  exponentBits : Nat
deriving DecidableEq, Repr

namespace Format

/-- Double precision, 64 bits. -/
def double : Format := ⟨53, 11⟩

/-- Single precision, 32 bits. -/
def single : Format := ⟨24, 8⟩

/-- Ranks from one power of two to the next. -/
def binade (f : Format) : Nat := 2 ^ (f.precision - 1)

/-- The rank of infinity, one above that of the largest finite number. -/
def infinity (f : Format) : Nat := (2 ^ f.exponentBits - 1) * f.binade

/-- The number of ranks: the weight of the sign bit in a bit pattern. -/
def ranks (f : Format) : Nat := 2 ^ f.exponentBits * f.binade

/-- A unit is `2 ^ (- scale)`. -/
def scale (f : Format) : Nat := 2 ^ (f.exponentBits - 1) - 3 + f.precision

theorem binade_pos (f : Format) : 0 < f.binade := Nat.two_pow_pos _

theorem infinity_lt_ranks (f : Format) : f.infinity < f.ranks :=
  Nat.mul_lt_mul_of_pos_right (Nat.sub_lt (Nat.two_pow_pos _) Nat.one_pos) f.binade_pos

theorem ranks_pos (f : Format) : 0 < f.ranks := Nat.zero_lt_of_lt f.infinity_lt_ranks

/-- The magnitude of a finite rank in units.  At `infinity` it gives the power
of two that the next binade would begin with. -/
def units (f : Format) (rank : Nat) : Nat :=
  if rank < f.binade then rank
  else (rank % f.binade + f.binade) * 2 ^ (rank / f.binade - 1)

/-- The rank of the magnitude nearest to `numerator / denominator` units.  Of two
equally near ones the even rank is taken, and from half a step above the
largest finite number on it is infinity. -/
def nearest (f : Format) (numerator denominator : Nat) : Nat :=
  let shift := (numerator / denominator).log2 + 1 - f.precision
  let step := denominator * 2 ^ shift
  let quotient := numerator / step
  let remainder := numerator % step
  let rounded :=
    if step < 2 * remainder ∨ (step = 2 * remainder ∧ quotient % 2 = 1) then quotient + 1
    else quotient
  min (shift * f.binade + rounded) f.infinity

theorem nearest_le (f : Format) (n d : Nat) : f.nearest n d ≤ f.infinity := Nat.min_le_right _ _

end Format

/-- A number of the format `f`: its sign and its rank. -/
@[ext] structure Binary (f : Format) where
  negative : Bool
  rank : Nat
  rank_lt : rank < f.ranks
deriving DecidableEq

/-- A double-precision number. -/
abbrev Double := Binary .double

/-- A single-precision number. -/
abbrev Single := Binary .single

namespace Binary

variable {f : Format}

/-- The number with the bit pattern `bits`, read modulo the width of the format. -/
def ofBits (f : Format) (bits : Nat) : Binary f :=
  ⟨bits / f.ranks % 2 = 1, bits % f.ranks, Nat.mod_lt _ f.ranks_pos⟩

/-- The bit pattern: the sign bit above the rank. -/
def toBits (x : Binary f) : Nat := (if x.negative then f.ranks else 0) + x.rank

theorem ofBits_toBits (x : Binary f) : ofBits f x.toBits = x := by
  obtain ⟨s, r, h⟩ := x
  have hp := f.ranks_pos
  cases s
  · simp [ofBits, toBits, Nat.mod_eq_of_lt h, Nat.div_eq_of_lt h]
  · simp [ofBits, toBits, Nat.mod_eq_of_lt h, Nat.add_div_left _ hp, Nat.div_eq_of_lt h]

/-- The number with this sign whose rank is given, cut off at infinity. -/
def ofRank (f : Format) (negative : Bool) (rank : Nat) : Binary f :=
  ⟨negative, min rank f.infinity, Nat.lt_of_le_of_lt (Nat.min_le_right _ _) f.infinity_lt_ranks⟩

/-- The quiet not-a-number without payload. -/
def nan (f : Format) : Binary f := ofBits f (f.infinity + f.binade / 2)

/-- Infinity with this sign. -/
def infinity (f : Format) (negative : Bool) : Binary f := ofRank f negative f.infinity

/-- Zero with this sign. -/
def zero (f : Format) (negative : Bool) : Binary f := ofRank f negative 0

def isNaN (x : Binary f) : Bool := f.infinity < x.rank

def isInfinite (x : Binary f) : Bool := x.rank = f.infinity

def isFinite (x : Binary f) : Bool := x.rank < f.infinity

def isZero (x : Binary f) : Bool := x.rank = 0

/-- The magnitude of a finite number in units. -/
def units (x : Binary f) : Nat := f.units x.rank

/-- A finite number in units, with its sign. -/
def toInt (x : Binary f) : Int := if x.negative then -(x.units : Int) else x.units

/-- The number with the sign reversed. -/
def neg (x : Binary f) : Binary f := { x with negative := !x.negative }

/-- The place of a number that is not a NaN in the order of all numbers; both zeros are at 0. -/
def place (x : Binary f) : Int := if x.negative then -(x.rank : Int) else x.rank

/-- Numeric order; false when either side is not a number. -/
def lt (x y : Binary f) : Bool := !x.isNaN && !y.isNaN && x.place < y.place

/-- Numeric order; false when either side is not a number. -/
def le (x y : Binary f) : Bool := !x.isNaN && !y.isNaN && x.place ≤ y.place

/-- Numeric equality: the zeros are equal, and a NaN equals nothing. -/
def eq (x y : Binary f) : Bool := !x.isNaN && !y.isNaN && x.place = y.place

end Binary

end SharedBudget
