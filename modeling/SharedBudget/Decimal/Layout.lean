/-
# How numbers are written

The digits of a number are its shortest decimal; what remains to be decided is
listed once per kind of text in a `Decimal.Layout`:

  layout      used for                     positional       1      1e16
  `plain`     error messages               always           `1`    `10000000000000000`
  `inspect`   logs, diagnostic texts       1e-4 ≤ x < 1e16  `1.0`  `1e16`
  `json f`    JSON documents               1e-5 ≤ x < 1e16  `1.0`  `1e+16`
-/
import SharedBudget.Decimal.Shortest

namespace SharedBudget.Decimal

/-- The decisions that turn a binary number into text. -/
structure Layout where
  /-- Which of two equally near shortest decimals is written. -/
  tie : Tie
  /-- The exponents of the leading digit for which no exponent is written. -/
  positional : Int → Bool
  /-- Whether a whole number in positional form ends in `.0`. -/
  marksWhole : Bool
  /-- Whether a positive exponent has a plus sign. -/
  signsExponent : Bool
  nan : String
  infinity : String
  negativeInfinity : String

namespace Layout

/-- Numbers inside messages: no exponent, no mark on whole numbers. -/
def plain : Layout where
  tie := .up
  positional _ := true
  marksWhole := false
  signsExponent := false
  nan := "NaN"
  infinity := "inf"
  negativeInfinity := "-inf"

/-- Numbers in logs and diagnostic texts: whole numbers are marked. -/
def inspect : Layout where
  tie := .up
  positional e := -4 ≤ e && e ≤ 15
  marksWhole := true
  signsExponent := false
  nan := "NaN"
  infinity := "inf"
  negativeInfinity := "-inf"

/-- Numbers in JSON, which has no infinities and no NaN: `null` stands for them.
Single precision changes to exponents at other places than double precision. -/
def json (f : Format) : Layout where
  tie := .even
  positional e := if f = .single then -6 ≤ e && e ≤ 12 else -5 ≤ e && e ≤ 15
  marksWhole := true
  signsExponent := true
  nan := "null"
  infinity := "null"
  negativeInfinity := "null"

/-- Digits with the leading one at `10 ^ magnitude`, without an exponent. -/
def positionalChars (l : Layout) (digits : List Char) (magnitude : Int) : List Char :=
  if magnitude < 0 then
    '0' :: '.' :: List.replicate (-magnitude - 1).toNat '0' ++ digits
  else
    let whole := magnitude.toNat + 1
    if digits.length ≤ whole then
      digits ++ List.replicate (whole - digits.length) '0' ++ if l.marksWhole then ['.', '0'] else []
    else digits.take whole ++ '.' :: digits.drop whole

/-- Digits with the leading one before the point, and the exponent. -/
def exponentialChars (l : Layout) (digits : List Char) (magnitude : Int) : List Char :=
  let significand := match digits with
    | [] => []
    | [d] => [d]
    | d :: rest => d :: '.' :: rest
  let sign := if magnitude < 0 then ['-'] else if l.signsExponent then ['+'] else []
  significand ++ 'e' :: sign ++ Decimal.digits magnitude.natAbs

/-- The text of a magnitude given by digits and the exponent of the leading one. -/
def digitChars (l : Layout) (digits : List Char) (magnitude : Int) : List Char :=
  if l.positional magnitude then l.positionalChars digits magnitude
  else l.exponentialChars digits magnitude

/-- The text of a number. -/
def chars {f : Format} (l : Layout) (x : Binary f) : List Char :=
  if x.isNaN then l.nan.toList
  else if x.isInfinite then (if x.negative then l.negativeInfinity else l.infinity).toList
  else
    let magnitudeChars :=
      if x.isZero then l.digitChars ['0'] 0
      else
        let d := shortest f l.tie x.rank
        l.digitChars (Decimal.digits d.coefficient) d.magnitude
    if x.negative then '-' :: magnitudeChars else magnitudeChars

/-- The text of a number. -/
def text {f : Format} (l : Layout) (x : Binary f) : String := String.ofList (l.chars x)

end Layout

end SharedBudget.Decimal
