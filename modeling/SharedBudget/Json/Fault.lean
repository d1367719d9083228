/-
# What can be wrong with a JSON document

A `Cause` says what is wrong, a `Fault` also where: it counts the bytes that are
left behind the place.  `Fault.locate` turns this count into the line and the
column of the document, which an `Error` shows.
-/

import SharedBudget.Decimal.Layout
import SharedBudget.Text.Quoted
import SharedBudget.Text.Utf8

namespace SharedBudget
namespace Json

/-- What stands at the place of a value: a scalar, or the beginning of a
container. -/
inductive Found where
  | null
  | boolean (value : Bool)
  | integer (value : Int)
  | float (value : Double)
  | text (value : String)
  | sequence
  | map
deriving DecidableEq

/-- How a message names what was found. -/
def Found.message : Found → String
  | .null => "null"
  | .boolean value => s!"boolean `{value}`"
  | .integer value => s!"integer `{value}`"
  | .float value => s!"floating point `{(Decimal.Layout.json .double).text value}`"
  | .text value => s!"string {Quoted.inspect value}"
  | .sequence => "sequence"
  | .map => "map"

/-- What can be wrong with a document. -/
inductive Cause where
  /-- The document ends where a value is due. -/
  | endOfValue
  | endOfList
  | endOfObject
  | endOfString
  /-- No value begins with this byte. -/
  | expectedValue
  /-- Neither `true` nor `false` nor `null`. -/
  | expectedIdent
  | expectedColon
  | expectedListSeparator
  | expectedObjectSeparator
  | keyNotString
  | trailingComma
  | trailingCharacters
  | invalidNumber
  | numberOutOfRange
  | invalidEscape
  | controlCharacter
  /-- The second half of a surrogate pair without the first, or the first without the second. -/
  | loneSurrogate
  /-- The first half of a surrogate pair is not followed by an escape. -/
  | endOfHexEscape
  /-- A string is not UTF-8. -/
  | invalidCodePoint
  | recursionLimit
  | invalidType (found : Found) (expected : String)
  | invalidValue (found : Found) (expected : String)
  | invalidLength (length : Nat) (expected : String)
  | unknownVariant (name : String) (variants : List String)
  | missingField (name : String)
  | duplicateField (name : String)
  /-- A value that could be read, but that its field does not accept, for this reason. -/
  | refused (reason : String)
deriving DecidableEq

/-- The alternatives of a choice, each in backquotes. -/
def alternatives : List String → String
  | [] => "there are no variants"
  | [a] => s!"`{a}`"
  | [a, b] => s!"`{a}` or `{b}`"
  | names => "one of " ++ ", ".intercalate (names.map fun name => s!"`{name}`")

/-- The wording of a cause. -/
def Cause.message : Cause → String
  | .endOfValue => "EOF while parsing a value"
  | .endOfList => "EOF while parsing a list"
  | .endOfObject => "EOF while parsing an object"
  | .endOfString => "EOF while parsing a string"
  | .expectedValue => "expected value"
  | .expectedIdent => "expected ident"
  | .expectedColon => "expected `:`"
  | .expectedListSeparator => "expected `,` or `]`"
  | .expectedObjectSeparator => "expected `,` or `\x7d`"
  | .keyNotString => "key must be a string"
  | .trailingComma => "trailing comma"
  | .trailingCharacters => "trailing characters"
  | .invalidNumber => "invalid number"
  | .numberOutOfRange => "number out of range"
  | .invalidEscape => "invalid escape"
  | .controlCharacter =>
    "control character (\\u0000-\\u001F) found while parsing a string"
  | .loneSurrogate => "lone leading surrogate in hex escape"
  | .endOfHexEscape => "unexpected end of hex escape"
  | .invalidCodePoint => "invalid unicode code point"
  | .recursionLimit => "recursion limit exceeded"
  | .invalidType found expected => s!"invalid type: {found.message}, expected {expected}"
  | .invalidValue found expected => s!"invalid value: {found.message}, expected {expected}"
  | .invalidLength length expected => s!"invalid length {length}, expected {expected}"
  | .unknownVariant name variants =>
    s!"unknown variant `{name}`, expected {alternatives variants}"
  | .missingField name => s!"missing field `{name}`"
  | .duplicateField name => s!"duplicate field `{name}`"
  | .refused reason => reason

/-- A cause and its place, given by the number of bytes behind it. -/
structure Fault where
  cause : Cause
  left : Nat
deriving DecidableEq

/-- A fault of a document, with its place as line and column. -/
structure Error where
  cause : Cause
  line : Nat
  column : Nat
deriving DecidableEq

/-- The wording of an error. -/
def Error.message (e : Error) : String :=
  s!"{e.cause.message} at line {e.line} column {e.column}"

/-- The line and column of a fault: lines are counted from one, and the column
is the number of bytes of the line up to the place. -/
def Fault.locate (document : Bytes) (f : Fault) : Error :=
  let before := document.take (document.length - f.left)
  { cause := f.cause
    line := before.count 0x0A + 1
    column := (before.reverse.takeWhile (· ≠ 0x0A)).length }

end Json
end SharedBudget
