/-
# Numbers in JSON

An integer that fits 64 bits is read exactly, and every other number as a
double.  The digits of a float go into a 64-bit significand while they fit, so a
float with many digits may come out beside the nearest double
(`SharedBudget.Decimal.Literal`).
-/

import SharedBudget.Decimal.Literal
import SharedBudget.Json.Reader

namespace SharedBudget
namespace Json

/-- An integer that fits 64 bits, or a double. -/
inductive Number where
  | integer (value : Int)
  | float (value : Double)
deriving DecidableEq

/-- Appends digits to a number for as long as it stays below `limit`.  The
result comes with the number of digits that were not taken. -/
def absorb (limit : Nat) : Nat → Bytes → Nat × Nat
  | n, [] => (n, 0)
  | n, b :: rest =>
    let n' := 10 * n + (b.toNat - 0x30)
    if n' < limit then absorb limit n' rest else (n, rest.length + 1)

/-- Significands and integers are 64-bit words. -/
def wordLimit : Nat := 2 ^ 64

/-- Exponents are 31-bit numbers. -/
def exponentLimit : Nat := 2 ^ 31

/-- The double of a literal. -/
def float (l : Decimal.Literal) : Reader Number := fun s =>
  match l.toDouble with
  | some x => .ok (.float x, s)
  | none => stop .numberOutOfRange s

/-- The exponent after its letter, and with it the value.  An exponent beyond
the limit is infinitely far away: it makes a number zero or out of range. -/
def exponentPart (negative : Bool) (significand : Nat) (exponent : Int) : Reader Number :=
  fun s =>
    let below := s.head? = some minus
    match if s.head? = some plus ∨ below then s.tail else s with
    | [] => stop .endOfValue []
    | b :: rest =>
      if isDigit b then
        let row := (b :: rest).takeWhile isDigit
        let (written, untaken) := absorb exponentLimit 0 row
        if untaken = 0 then
          let total := if below then exponent - written else exponent + written
          float ⟨negative, significand, total⟩ ((b :: rest).drop row.length)
        else if significand = 0 ∨ below then
          float ⟨negative, 0, 0⟩ ((b :: rest).drop row.length)
        else stop .numberOutOfRange ((b :: rest).drop (row.length - untaken + 1))
      else stop .invalidNumber rest

/-- Whether an exponent follows. -/
def beginsExponent (s : Bytes) : Bool := s.head? = some lowerE || s.head? = some upperE

/-- What follows the digits of a number that is a float: perhaps an exponent. -/
def afterDigits (negative : Bool) (significand : Nat) (exponent : Int) : Reader Number :=
  fun s =>
    if beginsExponent s then exponentPart negative significand exponent s.tail
    else float ⟨negative, significand, exponent⟩ s

/-- The fraction after its point.  Its digits go into the significand while they fit, and
lower the exponent; the others are dropped. -/
def fractionPart (negative : Bool) (significand : Nat) (exponent : Int) : Reader Number :=
  fun s =>
    let row := s.takeWhile isDigit
    if row.isEmpty then
      if s.isEmpty then stop .endOfValue [] else stopAt .invalidNumber s
    else
      let (significand, untaken) := absorb wordLimit significand row
      afterDigits negative significand (exponent - (row.length - untaken : Nat)) (s.drop row.length)

/-- The integer with this magnitude, which is a double if it does not fit 64 bits with its
sign, and also if it is a negative zero. -/
def wholeNumber (negative : Bool) (magnitude : Nat) : Number :=
  if negative then
    if magnitude = 0 ∨ 2 ^ 63 < magnitude then .float (Binary.ofNat .double magnitude).neg
    else .integer (-magnitude)
  else .integer magnitude

/-- A number after its sign.  Integer digits go into the significand while they fit, and
the others raise the exponent by one each. -/
def number (negative : Bool) : Reader Number := fun s =>
  match s with
  | [] => stop .endOfValue []
  | b :: rest =>
    if isDigit b then
      let row := s.takeWhile isDigit
      if b = zero ∧ 1 < row.length then stopAt .invalidNumber rest
      else
        let (significand, untaken) := absorb wordLimit 0 row
        let rest := s.drop row.length
        if rest.head? = some point then fractionPart negative significand untaken rest.tail
        else if untaken = 0 ∧ !beginsExponent rest then
          .ok (wholeNumber negative significand, rest)
        else afterDigits negative significand untaken rest
    else stop .invalidNumber rest

end Json
end SharedBudget
