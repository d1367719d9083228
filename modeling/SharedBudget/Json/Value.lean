/-
# Values in JSON

`scalar` reads what stands at the place of a value.  It reads a scalar whole,
and of a container only says which kind it is: the readers of typed values
(`SharedBudget.Json.Typed`) then accept or refuse what was found.  `whole` reads
any value to its end, and `document` a value with nothing after it.
-/

import SharedBudget.Json.Content
import SharedBudget.Json.Number

namespace SharedBudget
namespace Json

/-- What was found, when it is a number. -/
def Number.found : Number → Found
  | .integer z => .integer z
  | .float x => .float x

/-- What stands at the place of a value.  Scalars are taken, containers stay. -/
def scalar : Reader Found := fun s =>
  match skipBlanks s with
  | [] => stop .endOfValue []
  | b :: rest =>
    if b = quote then (Found.text <$> string) rest
    else if b = minus then (Number.found <$> number true) rest
    else if isDigit b then (Number.found <$> number false) (b :: rest)
    else if b = lowerN then word nullTail .null rest
    else if b = lowerT then word trueTail (.boolean true) rest
    else if b = lowerF then word falseTail (.boolean false) rest
    else if b = openList then .ok (.sequence, b :: rest)
    else if b = openObject then .ok (.map, b :: rest)
    else stopAt .expectedValue (b :: rest)

/-! ## Separators -/

/-- Whether another item of a list follows.  The closing bracket stays. -/
def anotherItem (first : Bool) : Reader Bool := fun s =>
  match skipBlanks s with
  | [] => stop .endOfList []
  | b :: rest =>
    if b = closeList then .ok (false, b :: rest)
    else if first then .ok (true, b :: rest)
    else if b = comma then
      match skipBlanks rest with
      | [] => stop .endOfValue []
      | b :: rest =>
        if b = closeList then stopAt .trailingComma (b :: rest) else .ok (true, b :: rest)
    else stopAt .expectedListSeparator (b :: rest)

/-- Whether another member of an object follows.  The closing brace stays. -/
def anotherMember (first : Bool) : Reader Bool := fun s =>
  match skipBlanks s with
  | [] => stop .endOfObject []
  | b :: rest =>
    if b = closeObject then .ok (false, b :: rest)
    else if first then
      if b = quote then .ok (true, b :: rest) else stopAt .keyNotString (b :: rest)
    else if b = comma then
      match skipBlanks rest with
      | [] => stop .endOfValue []
      | b :: rest =>
        if b = quote then .ok (true, b :: rest)
        else if b = closeObject then stopAt .trailingComma (b :: rest)
        else stopAt .keyNotString (b :: rest)
    else stopAt .expectedObjectSeparator (b :: rest)

/-- The name of a member whose opening quote is next. -/
def memberName : Reader String := fun s => string s.tail

/-- The colon between a name and its value. -/
def separator : Reader Unit := fun s =>
  match skipBlanks s with
  | [] => stop .endOfObject []
  | b :: rest => if b = colon then .ok ((), rest) else stopAt .expectedColon (b :: rest)

/-- The end of a list of which all items wanted have been read. -/
def endList : Reader Unit := fun s =>
  match skipBlanks s with
  | [] => stop .endOfList []
  | b :: rest =>
    if b = closeList then .ok ((), rest)
    else if b = comma then
      let rest := skipBlanks rest
      if rest.head? = some closeList then stopAt .trailingComma rest
      else stopAt .trailingCharacters rest
    else stopAt .trailingCharacters (b :: rest)

/-- The end of an object of which all members have been read. -/
def endObject : Reader Unit := fun s =>
  match skipBlanks s with
  | [] => stop .endOfObject []
  | b :: rest =>
    if b = closeObject then .ok ((), rest)
    else if b = comma then stopAt .trailingComma (b :: rest)
    else stopAt .trailingCharacters (b :: rest)

/-! ## Containers -/

/-- Goes into a container, whose opening byte is next, if there are levels left. -/
def enter {α : Type} (depth : Nat) (inside : (depth : Nat) → Reader α) : Reader α := fun s =>
  match depth with
  | 0 => stopAt .recursionLimit s
  | depth + 1 => inside depth s.tail

/-- The items of a list after its opening bracket, at most `fuel` of them. -/
def items {α : Type} (item : Reader α) : (fuel : Nat) → (first : Bool) → Reader (List α)
  | 0, _ => stop .endOfList
  | fuel + 1, first => do
    if ← anotherItem first then
      let x ← item
      let xs ← items item fuel false
      return x :: xs
    else return []

/-- A list after its opening bracket.  An item takes at least one byte, so there
are no more items than bytes. -/
def list {α : Type} (item : Reader α) : Reader (List α) := fun s =>
  (do let xs ← items item (s.length + 1) true; endList; return xs : Reader (List α)) s

/-! ## Whole values -/

/-- The members of an object of any content, at most `fuel` of them. -/
def members (value : Reader Unit) : (fuel : Nat) → (first : Bool) → Reader Unit
  | 0, _ => stop .endOfObject
  | fuel + 1, first => do
    if ← anotherMember first then
      let _ ← memberName
      separator
      value
      members value fuel false

/-- An object of any content, after its opening brace. -/
def anyObject (value : Reader Unit) : Reader Found := fun s =>
  (do
    members value (s.length + 1) true
    endObject
    return .map : Reader Found) s

/-- A list of any content, after its opening bracket. -/
def anyList (value : Reader Found) : Reader Found := do
  let _ ← list value
  return .sequence

/-- Reads a value whole, whatever it is, down to `depth` levels of containers. -/
def whole : (depth : Nat) → Reader Found
  | 0 => do
    match ← scalar with
    | .sequence => stopAt .recursionLimit
    | .map => stopAt .recursionLimit
    | found => return found
  | depth + 1 => do
    match ← scalar with
    | .sequence => fun s => anyList (whole depth) s.tail
    | .map => fun s => anyObject (do let _ ← whole depth) s.tail
    | found => return found

/-- Levels of containers that a document may have. -/
def depthLimit : Nat := 127

/-- Reads a document: one value, and nothing but blanks after it. -/
def document {α : Type} (value : Reader α) (text : Bytes) : Except Error α :=
  let read : Except Fault α := do
    let (x, rest) ← value text
    match skipBlanks rest with
    | [] => .ok x
    | rest => stopAt .trailingCharacters rest
  read.mapError (Fault.locate text)

end Json
end SharedBudget
