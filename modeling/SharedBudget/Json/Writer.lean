/-
# Writing JSON

Documents are written compactly: no blanks, members in the order in which they
are given.
-/

import SharedBudget.Decimal.Layout
import SharedBudget.Text.Quoted
import SharedBudget.Text.Utf8

namespace SharedBudget
namespace Json
namespace Writer

/-- A string. -/
def text (s : String) : List Char := Quoted.json s.toList

/-- A natural number. -/
def natural (n : Nat) : List Char := Decimal.digits n

/-- An integer. -/
def integer (z : Int) : List Char :=
  if z < 0 then '-' :: Decimal.digits z.natAbs else Decimal.digits z.natAbs

/-- A floating-point number; `null` if it is not finite. -/
def float {f : Format} (x : Binary f) : List Char := (Decimal.Layout.json f).chars x

/-- A boolean. -/
def boolean (b : Bool) : List Char := if b then ['t', 'r', 'u', 'e'] else ['f', 'a', 'l', 's', 'e']

/-- The word `null`. -/
def null : List Char := ['n', 'u', 'l', 'l']

/-- Values with commas between them. -/
def separated : List (List Char) → List Char
  | [] => []
  | [x] => x
  | x :: xs => x ++ ',' :: separated xs

/-- A list. -/
def list (xs : List (List Char)) : List Char := '[' :: separated xs ++ [']']

/-- A member of an object. -/
def member (name : String) (value : List Char) : List Char := text name ++ ':' :: value

/-- An object. -/
def object (members : List (String × List Char)) : List Char :=
  '\x7b' :: separated (members.map fun (name, value) => member name value) ++ ['\x7d']

end Writer
end Json
end SharedBudget
