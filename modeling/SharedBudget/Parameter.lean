/-
# Parameters

A parameter is a scalar with a type.  Bundles have two of them, epsilon and
delta; mechanisms may have any.
-/

import SharedBudget.Binary.Arithmetic
import SharedBudget.Decimal.Layout
import SharedBudget.Text.Quoted

namespace SharedBudget

/-- The type of a parameter. -/
inductive DataType where
  | f32
  | f64
  | i32
  | i64
  | u64
  | string
deriving DecidableEq, Repr

namespace DataType

/-- The name of a type. -/
def name : DataType → String
  | .f32 => "f32"
  | .f64 => "f64"
  | .i32 => "i32"
  | .i64 => "i64"
  | .u64 => "u64"
  | .string => "string"

/-- All types. -/
def all : List DataType := [.f32, .f64, .i32, .i64, .u64, .string]

/-- Whether the values of the type are numbers. -/
def isNumeric (t : DataType) : Bool := t ≠ .string

end DataType

/-- A scalar with its type. -/
inductive Parameter where
  | f32 (value : Single)
  | f64 (value : Double)
  | i32 (value : Int32)
  | i64 (value : Int64)
  | u64 (value : UInt64)
  | string (value : String)
deriving DecidableEq

namespace Parameter

/-- The type of a parameter. -/
def dataType : Parameter → DataType
  | .f32 _ => .f32
  | .f64 _ => .f64
  | .i32 _ => .i32
  | .i64 _ => .i64
  | .u64 _ => .u64
  | .string _ => .string

/-- The value as a double, rounded if need be; strings have none. -/
def toDouble? : Parameter → Option Double
  | .f32 x => some (x.convert .double)
  | .f64 x => some x
  | .i32 z => some (.ofInt .double z.toInt)
  | .i64 z => some (.ofInt .double z.toInt)
  | .u64 n => some (.ofNat .double n.toNat)
  | .string _ => none

/-- The value if it is a string. -/
def text? : Parameter → Option String
  | .string s => some s
  | _ => none

/-- The form in which messages show a parameter. -/
def inspect : Parameter → String
  | .f32 x => s!"F32({Decimal.Layout.inspect.text x})"
  | .f64 x => s!"F64({Decimal.Layout.inspect.text x})"
  | .i32 z => s!"I32({z.toInt})"
  | .i64 z => s!"I64({z.toInt})"
  | .u64 n => s!"U64({n.toNat})"
  | .string s => s!"String({Quoted.inspect s})"

theorem isSome_toDouble? (p : Parameter) : p.toDouble?.isSome = p.dataType.isNumeric := by
  cases p <;> rfl

end Parameter

end SharedBudget
