/-
# Parameters in JSON

A parameter is an object with the members `dtype` and `value`, in either order
and among any others, or a list of the two.  Whatever the layout, the value is
first read as what it is and then accepted by its type (`Parameter.accept`), so
a parameter means the same in every layout.
-/

import SharedBudget.Json.Typed
import SharedBudget.Json.Writer
import SharedBudget.Parameter

namespace SharedBudget

namespace DataType

/-- The types by their names. -/
def choices : List (String × DataType) := all.map fun t => (t.name, t)

/-- A type, for a document with `depth` levels left. -/
def read (depth : Nat) : Json.Reader DataType := Json.choice choices depth

/-- The type in a document. -/
def ofJson (text : Bytes) : Except Json.Error DataType :=
  Json.document (read Json.depthLimit) text

end DataType

namespace Parameter

open Json

/-- A parameter of the given type whose value was found to be this. -/
def accept (t : DataType) (found : Found) : Except Cause Parameter :=
  match t with
  | .f32 => .f32 <$> acceptFloat "f32" .single found
  | .f64 => .f64 <$> acceptFloat "f64" .double found
  | .i32 => (.i32 ∘ Int32.ofInt) <$> acceptInteger "i32" (-2 ^ 31) (2 ^ 31 - 1) found
  | .i64 => (.i64 ∘ Int64.ofInt) <$> acceptInteger "i64" (-2 ^ 63) (2 ^ 63 - 1) found
  | .u64 => (.u64 ∘ UInt64.ofNat ∘ Int.toNat) <$> acceptInteger "u64" 0 (2 ^ 64 - 1) found
  | .string => .string <$> acceptText found

/-- What messages call a parameter. -/
def expected : String := "adjacently tagged enum Parameter"

/-- The members of an object that make a parameter. -/
inductive Member where
  | dataType
  | value
deriving DecidableEq, Repr

/-- The name of a member. -/
def Member.name : Member → String
  | .dataType => "dtype"
  | .value => "value"

/-- Goes to the next member that belongs to a parameter and reads its name; other members
are skipped, at most `fuel` of them. -/
def nextMember : (fuel : Nat) → (first : Bool) → Reader (Option Member)
  | 0, _ => stop .endOfObject
  | fuel + 1, first => do
    if ← anotherMember first then
      let name ← memberName
      if name = Member.dataType.name then return some .dataType
      else if name = Member.value.name then return some .value
      else
        separator
        skip
        nextMember fuel false
    else return none

/-- Reads the members after both parts of a parameter, which may not occur again. -/
def lastMembers (fuel : Nat) (p : Parameter) : Reader (Except Cause Parameter) := do
  match ← nextMember fuel false with
  | none => return .ok p
  | some m => return .error (.duplicateField m.name)

/-- The type, after which the value follows. -/
def typeFirst (fuel depth : Nat) : Reader (Except Cause Parameter) := do
  separator
  let t ← DataType.read depth
  match ← nextMember fuel false with
  | none => return .error (.missingField Member.value.name)
  | some .dataType => return .error (.duplicateField Member.dataType.name)
  | some .value =>
    separator
    let p ← accepting (accept t)
    lastMembers fuel p

/-- The value, after which the type follows. -/
def valueFirst (fuel depth : Nat) : Reader (Except Cause Parameter) := do
  separator
  let found ← whole depth
  match ← nextMember fuel false with
  | none => return .error (.missingField Member.dataType.name)
  | some .value => return .error (.duplicateField Member.value.name)
  | some .dataType =>
    separator
    let t ← DataType.read depth
    match accept t found with
    | .ok p => lastMembers fuel p
    | .error cause => return .error cause

/-- The members of an object that is a parameter. -/
def readMembers (fuel depth : Nat) : Reader (Except Cause Parameter) := do
  match ← nextMember fuel true with
  | none => return .error (.missingField Member.dataType.name)
  | some .dataType => typeFirst fuel depth
  | some .value => valueFirst fuel depth

/-- The items of a list that is a parameter. -/
def readItems : Reader (Except Cause Parameter) := do
  if ← anotherItem true then
    let t ← accepting (acceptChoice DataType.choices)
    if ← anotherItem false then
      let p ← accepting (accept t)
      return .ok p
    else return .error (.invalidLength 1 expected)
  else return .error (.invalidLength 0 expected)

/-- A parameter as an object, after its opening brace. -/
def readObject (depth : Nat) : Reader Parameter := fun s =>
  closingObject (readMembers (s.length + 1) depth) s

/-- A parameter, for a document with `depth` levels left. -/
def read (depth : Nat) : Reader Parameter :=
  objectOrList expected depth readObject fun _ => closingList readItems

/-- The value of a parameter as JSON. -/
def valueJson : Parameter → List Char
  | .f32 x => Writer.float x
  | .f64 x => Writer.float x
  | .i32 z => Writer.integer z.toInt
  | .i64 z => Writer.integer z.toInt
  | .u64 n => Writer.natural n.toNat
  | .string s => Writer.text s

/-- A parameter as JSON. -/
def json (p : Parameter) : List Char :=
  Writer.object [(Member.dataType.name, Writer.text p.dataType.name),
    (Member.value.name, p.valueJson)]

/-- The parameter in a document. -/
def ofJson (text : Bytes) : Except Json.Error Parameter := document (read depthLimit) text

end Parameter

end SharedBudget
