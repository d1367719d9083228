/-
# Reading values of a known type

A typed scalar is a found scalar that is accepted (`accepting`).  A record is an
object whose members may stand in any order, or a list of its fields in the
order of their declaration; its fields fill a draft, and a full draft is the
record (`Record`).  A choice is a name from a list.
-/

import SharedBudget.Json.Skip

namespace SharedBudget
namespace Json

/-! ## Scalars -/

/-- What is found is refused for its type. -/
def refuseType {α : Type} (expected : String) (found : Found) : Except Cause α :=
  .error (.invalidType found expected)

/-- Reads a scalar and accepts or refuses it. -/
def accepting {α : Type} (accept : Found → Except Cause α) : Reader α := fun s => do
  let (found, rest) ← scalar s
  match accept found with
  | .ok x => .ok (x, rest)
  | .error cause => stop cause rest

/-- Accepts an integer from `least` to `greatest`. -/
def acceptInteger (expected : String) (least greatest : Int) : Found → Except Cause Int
  | .integer z =>
    if least ≤ z ∧ z ≤ greatest then .ok z else .error (.invalidValue (.integer z) expected)
  | found => refuseType expected found

/-- Accepts a number, rounded to the format `f`. -/
def acceptFloat (expected : String) (f : Format) : Found → Except Cause (Binary f)
  | .integer z => .ok (.ofInt f z)
  | .float x => .ok (x.convert f)
  | found => refuseType expected found

/-- Accepts a string. -/
def acceptText : Found → Except Cause String
  | .text t => .ok t
  | found => refuseType "a string" found

/-- Accepts a string or `null`. -/
def acceptOptionalText : Found → Except Cause (Option String)
  | .null => .ok none
  | found => some <$> acceptText found

/-- Accepts a boolean. -/
def acceptBoolean : Found → Except Cause Bool
  | .boolean b => .ok b
  | found => refuseType "a boolean" found

/-- Accepts `null`. -/
def acceptNull : Found → Except Cause Unit
  | .null => .ok ()
  | found => refuseType "unit" found

/-- A 64-bit word; `expected` names its type. -/
def natural (expected : String) : Reader Nat :=
  Int.toNat <$> accepting (acceptInteger expected 0 (2 ^ 64 - 1))

/-- A double. -/
def double : Reader Double := accepting (acceptFloat "f64" .double)

/-- A string. -/
def text : Reader String := accepting acceptText

/-- A string or `null`. -/
def optionalText : Reader (Option String) := accepting acceptOptionalText

/-- A boolean. -/
def boolean : Reader Bool := accepting acceptBoolean

/-! ## Lists -/

/-- A list with items of one type, for a document with `depth` levels left. -/
def listOf {α : Type} (item : (depth : Nat) → Reader α) (depth : Nat) : Reader (List α) := fun s =>
  let s := skipBlanks s
  if s.head? = some openList then enter depth (fun depth => list (item depth)) s
  else accepting (refuseType "a sequence") s

/-! ## Choices -/

/-- The value with this name. -/
def choose {α : Type} (choices : List (String × α)) (name : String) : Except Cause α :=
  match choices.find? (·.1 = name) with
  | some (_, x) => .ok x
  | none => .error (.unknownVariant name (choices.map (·.1)))

/-- The name of a choice, just as a string. -/
def acceptChoice {α : Type} (choices : List (String × α)) : Found → Except Cause α
  | .text name => choose choices name
  | found => refuseType "variant identifier" found

/-- A choice as an object, after its opening brace. -/
def choiceObject {α : Type} (choices : List (String × α)) : Reader α := fun s =>
  match skipBlanks s with
  | [] => stop .endOfObject []
  | b :: rest =>
    if b = quote then do
      let (x, rest) ← accepting (acceptChoice choices) (b :: rest)
      let ((), rest) ← separator rest
      let ((), rest) ← accepting acceptNull rest
      match skipBlanks rest with
      | [] => stop .endOfObject []
      | b :: rest => if b = closeObject then .ok (x, rest) else stop .expectedValue (b :: rest)
    else if b = closeObject then stopAt .expectedValue (b :: rest)
    else stopAt .keyNotString (b :: rest)

/-- A choice: its name as a string, or an object with the name for its only
member, whose value is `null`. -/
def choice {α : Type} (choices : List (String × α)) (depth : Nat) : Reader α := fun s =>
  match skipBlanks s with
  | [] => stop .endOfValue []
  | b :: rest =>
    if b = quote then accepting (acceptChoice choices) (b :: rest)
    else if b = openObject then enter depth (fun _ => choiceObject choices) (b :: rest)
    else stopAt .expectedValue (b :: rest)

/-! ## Records -/

/-- A field of a record that is collected in drafts of type `δ`. -/
structure Field (δ : Type) where
  name : String
  /-- Whether the field may be left out at the end of a list. -/
  optional : Bool := false
  /-- Whether a draft has the field already. -/
  present : δ → Bool
  /-- Reads the value into a draft, which may refuse it. -/
  read : (depth : Nat) → δ → Reader (Except Cause δ)

/-- A kind of record: how values of type `α` are read by way of drafts of type `δ`. -/
structure Record (δ α : Type) where
  /-- The kind of record, for messages. -/
  name : String
  fields : List (Field δ)
  draft : δ
  /-- The record of a draft, unless a field is missing. -/
  finish : δ → Except Cause α

/-- A field whose every readable value is accepted. -/
def field {δ β : Type} (name : String) (get : δ → Option β) (set : δ → β → δ)
    (value : (depth : Nat) → Reader β) (optional : Bool := false) : Field δ where
  name
  optional
  present d := (get d).isSome
  read depth d := do return .ok (set d (← value depth))

/-- The value of a field that has to be there. -/
def need {α : Type} (name : String) : Option α → Except Cause α
  | some x => .ok x
  | none => .error (.missingField name)

/-- The place behind an object of which the next thing is not wanted any more. -/
def leaveObject (s : Bytes) : Bytes :=
  let next := skipBlanks s
  if next.head? = some closeObject then next.tail else next

/-- The place behind a list of which the next thing is not wanted any more. -/
def leaveList (s : Bytes) : Bytes :=
  let next := skipBlanks s
  if next.head? = some closeList then next.tail
  else if next.head? = some comma then skipBlanks next.tail
  else next

/-- An object after its opening brace, whose members `members` reads and may refuse. -/
def closingObject {α : Type} (members : Reader (Except Cause α)) : Reader α := fun s => do
  let (x, rest) ← members s
  match x with
  | .ok x => do
    let ((), rest) ← endObject rest
    .ok (x, rest)
  | .error cause => stop cause (leaveObject rest)

/-- A list after its opening bracket, whose items `items` reads and may refuse. -/
def closingList {α : Type} (items : Reader (Except Cause α)) : Reader α := fun s => do
  let (x, rest) ← items s
  match x with
  | .ok x => do
    let ((), rest) ← endList rest
    .ok (x, rest)
  | .error cause => stop cause (leaveList rest)

/-- An object or a list, for a document with `depth` levels left. -/
def objectOrList {α : Type} (expected : String) (depth : Nat)
    (object list : (depth : Nat) → Reader α) : Reader α := fun s =>
  let s := skipBlanks s
  if s.head? = some openObject then enter depth object s
  else if s.head? = some openList then enter depth list s
  else accepting (refuseType expected) s

namespace Record

variable {δ α : Type}

/-- Reads the members of an object into a draft, at most `fuel` of them.  Unknown
members are skipped. -/
def readMembers (r : Record δ α) (depth : Nat) : (fuel : Nat) → (first : Bool) → δ →
    Reader (Except Cause δ)
  | 0, _, _ => stop .endOfObject
  | fuel + 1, first, d => do
    if ← anotherMember first then
      let name ← memberName
      match r.fields.find? (·.name = name) with
      | none =>
        separator
        skip
        readMembers r depth fuel false d
      | some f =>
        if f.present d then return .error (.duplicateField name)
        else
          separator
          match ← f.read depth d with
          | .ok d => readMembers r depth fuel false d
          | .error cause => return .error cause
    else return .ok d

/-- What a list should have been like. -/
def expectedLength (r : Record δ α) : String :=
  let unit := if r.fields.length = 1 then "element" else "elements"
  s!"struct {r.name} with {r.fields.length} {unit}"

/-- Reads the items of a list into a draft, field by field, the next one having number `index`. -/
def readItems (r : Record δ α) (depth : Nat) : List (Field δ) → (index : Nat) → (first : Bool) → δ →
    Reader (Except Cause δ)
  | [], _, _, d => return .ok d
  | f :: fields, index, first, d => do
    if ← anotherItem first then
      match ← f.read depth d with
      | .ok d => readItems r depth fields (index + 1) false d
      | .error cause => return .error cause
    else if f.optional then readItems r depth fields (index + 1) first d
    else return .error (.invalidLength index r.expectedLength)

/-- A record as an object, after its opening brace. -/
def readObject (r : Record δ α) (depth : Nat) : Reader α := fun s =>
  closingObject ((·.bind r.finish) <$> r.readMembers depth (s.length + 1) true r.draft) s

/-- A record as a list, after its opening bracket. -/
def readList (r : Record δ α) (depth : Nat) : Reader α :=
  closingList ((·.bind r.finish) <$> r.readItems depth r.fields 0 true r.draft)

/-- A record, for a document with `depth` levels left. -/
def read (r : Record δ α) (depth : Nat) : Reader α :=
  objectOrList s!"struct {r.name}" depth r.readObject r.readList

end Record

end Json
end SharedBudget
