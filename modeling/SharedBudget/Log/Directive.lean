/-
# Directives of a log filter

A directive says up to which level events are logged, and which events it is
about: `level`, `target`, `target=level` or `target[span{field}]=level`, where
everything in the brackets may be left out.  Without a level it stands for
the most detailed one.

A directive is read character by character by an automaton: a `Directive.Place`
says where the next character stands, and `Directive.Place.move?` what that
character does.  Blanks around the directive are not read, but the words are cut
out of the text with its blanks, at the places counted without the blanks in front.
So blanks in front shift the words, and blanks at the end belong to the last one.
-/

import SharedBudget.Log.Event
import SharedBudget.Log.Setup
import SharedBudget.Text.Pattern

namespace SharedBudget
namespace Log

/-- The rank of a level: events of this rank or below are logged. -/
def Level.rank : Level → Nat
  | .off => 0
  | .error => 1
  | .warn => 2
  | .info => 3
  | .debug => 4
  | .trace => 5

/-- The rank that a word gives as a number: digits, perhaps after a plus sign, that make up
at most the highest rank. -/
def numericRank? (word : List Char) : Option Nat :=
  let digits := match word with
    | '+' :: digits => digits
    | digits => digits
  let rank := digits.foldl (fun n c => 10 * n + (c.toNat - '0'.toNat)) 0
  if !digits.isEmpty && digits.all Char.isDigit && rank ≤ Level.trace.rank then some rank else none

/-- The rank that a word stands for: the name of a level, or a number. -/
def rankOf? (word : List Char) : Option Nat :=
  (Level.ofName? (String.ofList word)).map Level.rank <|> numericRank? word

/-! ## Tests of fields -/

/-- What a directive asks for in the fields of an event. -/
structure FieldTest where
  name : String
  /-- Whether the field has to have a certain value. -/
  valued : Bool
deriving DecidableEq, Repr

/-- Whether a text is a decimal number without a sign, in positional or exponential notation, or
one of the words for infinity and not-a-number. -/
def isNumeral (cs : List Char) : Bool :=
  let whole := cs.takeWhile Char.isDigit
  let cs' := cs.drop whole.length
  let fraction := if cs'.head? = some '.' then cs'.tail.takeWhile Char.isDigit else []
  let cs' := if cs'.head? = some '.' then cs'.tail.drop fraction.length else cs'
  let isExponent := match cs' with
    | [] => true
    | e :: cs' =>
      let digits := if cs'.head? = some '+' || cs'.head? = some '-' then cs'.tail else cs'
      (e = 'e' || e = 'E') && !digits.isEmpty && digits.all Char.isDigit
  ["inf", "infinity", "nan"].contains (lowerCase (String.ofList cs)) ||
    (!(whole ++ fraction).isEmpty && isExponent)

/-- Whether a text stands for values: it is a number or a pattern.  A number with a plus sign is
the only one that is no pattern. -/
def isValue (cs : List Char) : Bool :=
  match cs with
  | '+' :: number => isNumeral number
  | cs => Pattern.isWellFormed cs

/-- The test of a field that a word stands for: a name, or a name and a value.  What comes after
a second equality sign is not read. -/
def FieldTest.ofWord? (word : List Char) : Option FieldTest :=
  let name := word.takeWhile (· ≠ '=')
  match word.dropWhile (· ≠ '=') with
  | [] => if name.isEmpty then none else some ⟨String.ofList name, false⟩
  | _ :: rest =>
    if isValue (rest.takeWhile (· ≠ '=')) then some ⟨String.ofList name, true⟩ else none

/-! ## Directives -/

/-- One directive. -/
structure Directive where
  /-- What an event's target has to begin with; nothing for all events. -/
  target : Option String := none
  /-- The span in which an event has to happen. -/
  span : Option String := none
  /-- What is asked for in an event's fields. -/
  field : Option FieldTest := none
  /-- The rank up to which events are logged. -/
  rank : Nat := Level.trace.rank
deriving DecidableEq, Repr

namespace Directive

/-- The characters of a text after its first `n` bytes, unless this place is inside a
character. -/
def dropBytes? : (n : Nat) → List Char → Option (List Char)
  | 0, cs => some cs
  | _ + 1, [] => none
  | n + 1, c :: cs => if c.utf8Size ≤ n + 1 then dropBytes? (n + 1 - c.utf8Size) cs else none

/-- The characters in the first `n` bytes of a text, unless this place is inside a character. -/
def takeBytes? : (n : Nat) → List Char → Option (List Char)
  | 0, _ => some []
  | _ + 1, [] => none
  | n + 1, c :: cs =>
    if c.utf8Size ≤ n + 1 then (takeBytes? (n + 1 - c.utf8Size) cs).map (c :: ·) else none

/-- The word between two places of a text, counted in bytes. -/
def word? (text : List Char) (first last : Nat) : Option (List Char) := do
  takeBytes? (last - first) (← dropBytes? first text)

/-- Whether a directive may begin with this character, brackets apart. -/
def isInitial (c : Char) : Bool := Text.isAlphanumeric c || c = '-' || c = ':' || c = '_'

/-- Where the next character of a directive stands; `first` is where the word began. -/
inductive Place where
  | start
  /-- In a target or in a level that stands alone. -/
  | target (first : Nat)
  | span (first : Nat)
  | field (first : Nat)
  | afterField
  | afterSpan
  | level (first : Nat)
deriving DecidableEq, Repr

/-- The place and the directive after the character `c` at byte `i` of a text, if it may stand
there. -/
def Place.move? (text : List Char) (d : Directive) (i : Nat) (c : Char) :
    Place → Option (Place × Directive)
  | .start =>
    if c = '[' then some (.span (i + 1), d)
    else if isInitial c then some (.target i, d)
    else none
  | .target first =>
    if c = '=' || c = '[' then do
      let target := String.ofList (← word? text first i)
      return (if c = '=' then .level (i + 1) else .span (i + 1), { d with target := some target })
    else some (.target first, d)
  | .span first =>
    if c = ']' then do
      return (.afterSpan, { d with span := some (String.ofList (← word? text first i)) })
    else if c = '\x7b' then do
      let span ← word? text first i
      return (.field (i + 1),
        { d with span := if span.isEmpty then none else some (String.ofList span) })
    else some (.span first, d)
  | .field first =>
    if c = '\x7d' then do
      let test ← FieldTest.ofWord? (← word? text first i)
      return (.afterField, { d with field := some test })
    else some (.field first, d)
  | .afterField => if c = ']' then some (.afterSpan, d) else none
  | .afterSpan => if c = '=' then some (.level (i + 1), d) else none
  | .level first => some (.level first, d)

/-- The directive of a text that ends at a place, if it may end there. -/
def Place.finish? (text : List Char) (d : Directive) : Place → Option Directive
  | .target first => do
    let word ← dropBytes? first text
    match rankOf? word with
    | some rank => return { d with rank }
    | none => return { d with target := some (String.ofList word) }
  | .level first => do
    let word ← dropBytes? first text
    if word.isEmpty then return d else return { d with rank := ← rankOf? word }
  | .afterSpan => some d
  | _ => none

/-- The directive of a text whose characters from byte `i` on are still to be read. -/
def readFrom? (text : List Char) : Place → Directive → (i : Nat) → List Char → Option Directive
  | p, d, _, [] => p.finish? text d
  | p, d, i, c :: cs => do
    let (p, d) ← p.move? text d i c
    readFrom? text p d (i + c.utf8Size) cs

/-- The directive that a text stands for. -/
def ofText? (text : String) : Option Directive :=
  readFrom? text.toList .start {} 0 (Text.trim text.toList)

end Directive

end Log
end SharedBudget
