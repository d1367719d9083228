/-
# Quoted text

Two ways to write a string between double quotes.  `Quoted.json` is JSON: it
escapes the quote, the backslash and the characters below U+0020.
`Quoted.inspect` is for diagnostics: it escapes every hidden character.
-/
import SharedBudget.Text.Hex
import SharedBudget.Text.Hidden

namespace SharedBudget.Quoted

/-- A character inside a JSON string. -/
def jsonChar (c : Char) : List Char :=
  match c with
  | '"' => ['\\', '"']
  | '\\' => ['\\', '\\']
  | '\n' => ['\\', 'n']
  | '\r' => ['\\', 'r']
  | '\t' => ['\\', 't']
  | c =>
    if c.toNat = 0x08 then ['\\', 'b']
    else if c.toNat = 0x0C then ['\\', 'f']
    else if c.toNat < 0x20 then '\\' :: 'u' :: Hex.digits 4 c.toNat
    else [c]

/-- A JSON string. -/
def json (cs : List Char) : List Char := '"' :: cs.flatMap jsonChar ++ ['"']

/-- The hexadecimal digits of a code point without leading zeros. -/
def codePoint (c : Char) : List Char := Nat.toDigits 16 c.toNat

/-- A character inside a diagnostic string. -/
def inspectChar (c : Char) : List Char :=
  match c with
  | '"' => ['\\', '"']
  | '\\' => ['\\', '\\']
  | '\n' => ['\\', 'n']
  | '\r' => ['\\', 'r']
  | '\t' => ['\\', 't']
  | c =>
    if c.toNat = 0 then ['\\', '0']
    else if Text.isHidden c then '\\' :: 'u' :: '\x7b' :: codePoint c ++ ['\x7d']
    else [c]

/-- A diagnostic string. -/
def inspectChars (cs : List Char) : List Char := '"' :: cs.flatMap inspectChar ++ ['"']

/-- A diagnostic string. -/
def inspect (s : String) : String := String.ofList (inspectChars s.toList)

end SharedBudget.Quoted
