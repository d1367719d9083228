/-
# What can go wrong with a bundle

An error says what went wrong; its kind says what the caller can do about it,
and its code is a stable number:

  10 to 19   the specification
  20 to 29   a checkpoint
  30 to 39   the use of a bundle
  40 to 49   configuration, files and documents
-/

import SharedBudget.Checkpoint.Error
import SharedBudget.Config.Error
import SharedBudget.Parameter

namespace SharedBudget

/-- Why a checkpoint does not belong to a specification. -/
inductive Mismatch where
  /-- The specification has `expected` mechanisms, the checkpoint `actual` entries. -/
  | entryCount (expected actual : Nat)
  /-- Entry `index` is that of a mechanism `tag`, the specification has `identifier` there. -/
  | owner (index : Nat) (tag identifier : String)
  /-- Any other mismatch, in words. -/
  | described (text : String)
deriving DecidableEq

/-- The wording of a mismatch. -/
def Mismatch.message : Mismatch → String
  | .entryCount expected actual => s!"expected {expected} nested states, got {actual}"
  | .owner index tag identifier =>
    s!"nested state {index} belongs to '{tag}', spec expects '{identifier}'"
  | .described text => text

/-- Why two bundles, or two mechanisms, cannot be merged. -/
inductive Incompatibility where
  | mechanismCount (expected actual : Nat)
  /-- The mechanisms take different numbers of inputs. -/
  | arities (ours theirs : List Nat)
  /-- The shares of epsilon and delta differ. -/
  | budget (epsilon delta peerEpsilon peerDelta : Double)
  /-- The mechanisms at `index` are not compatible. -/
  | nested (index : Nat) (identifier : String)
  /-- The peer of a mechanism is of another kind than `expected`. -/
  | otherKind (expected : String)
  /-- Any other reason, in words. -/
  | described (text : String)
deriving DecidableEq

/-- The wording of an incompatibility. -/
def Incompatibility.message : Incompatibility → String
  | .mechanismCount expected actual =>
    s!"expected {expected} nested mechanisms, got {actual}"
  | .arities ours theirs =>
    let row (counts : List Nat) : String :=
      "[" ++ ", ".intercalate (counts.map fun n => s!"{n}") ++ "]"
    s!"input arity mismatch: {row ours} vs {row theirs}"
  | .budget epsilon delta peerEpsilon peerDelta =>
    let text (x : Double) : String := Decimal.Layout.plain.text x
    s!"budget mismatch: ({text epsilon}, {text delta}) vs " ++
      s!"({text peerEpsilon}, {text peerDelta})"
  | .nested index identifier => s!"nested mechanism {index} '{identifier}' is not compatible"
  | .otherKind expected => s!"peer is not {expected}"
  | .described text => text

/-- Why a bundle does not report. -/
inductive Unreadiness where
  /-- The mechanism at `index` cannot report yet. -/
  | nested (index : Nat) (identifier : String)
  /-- Any other reason, in words. -/
  | described (text : String)
deriving DecidableEq

/-- The wording of an unreadiness. -/
def Unreadiness.message : Unreadiness → String
  | .nested index identifier => s!"nested mechanism {index} '{identifier}' cannot report"
  | .described text => text

/-- Why a mechanism failed. -/
inductive Failure where
  /-- The number of contributions to wait for is not given by a non-negative number. -/
  | minimum (parameter : Parameter)
  /-- Any other failure, in words. -/
  | described (text : String)
deriving DecidableEq

/-- The wording of a failure. -/
def Failure.message : Failure → String
  | .minimum parameter =>
    s!"min_contributions must be a non-negative number, got {parameter.inspect}"
  | .described text => text

/-- What a caller can do about an error. -/
inductive ErrorKind where
  /-- Correct the specification, the checkpoint or the inputs. -/
  | invalidArgument
  /-- Wait, or do something else with the bundle. -/
  | failedPrecondition
  /-- Nothing: a mechanism or the machine failed. -/
  | internal
deriving DecidableEq, Repr

/-- The name of a kind. -/
def ErrorKind.name : ErrorKind → String
  | .invalidArgument => "invalid_argument"
  | .failedPrecondition => "failed_precondition"
  | .internal => "internal"

/-- What went wrong. -/
inductive Error where
  | emptyNestedSpecs
  /-- The mechanism at `index` could not be made. -/
  | resolution (index : Nat) (identifier reason : String)
  | notDifferentiallyPrivate (index : Nat) (identifier : String)
  /-- There are not two parameters, but `actual` many. -/
  | parameterCount (actual : Nat)
  /-- The parameter `name` is of the type `dataType`, which has no numbers. -/
  | nonNumericParameter (name : String) (dataType : DataType)
  | nonPositiveEpsilon (value : Double)
  | deltaOutOfRange (value : Double)
  | unknownMechanism (identifier : String)
  | duplicateMechanism (identifier : String)
  | stateMismatch (mismatch : Mismatch)
  | state (error : Checkpoint.Error)
  | inputCount (expected actual : Nat)
  | incompatible (reason : Incompatibility)
  | notReportable (reason : Unreadiness)
  | mechanism (failure : Failure)
  /-- The counter stands at `current` and cannot take `added` more. -/
  | counterOverflow (current added : UInt64)
  | config (error : Config.Error)
  | io (reason : String)
  | json (error : Json.Error)
deriving DecidableEq

namespace Error

/-- The wording of an error. -/
def message : Error → String
  | emptyNestedSpecs => "expected at least one nested mechanism spec, got none"
  | resolution index identifier reason =>
    s!"failed to resolve nested mechanism {index} '{identifier}': {reason}"
  | notDifferentiallyPrivate index identifier =>
    "expected all nested mechanisms to be differentially private, " ++
      s!"got '{identifier}' at index {index}"
  | parameterCount actual => s!"expected 2 parameters (epsilon, delta), got {actual}"
  | nonNumericParameter name dataType => s!"{name} must be numerical, got {dataType.name}"
  | nonPositiveEpsilon value =>
    s!"epsilon must be positive, but got {Decimal.Layout.plain.text value}"
  | deltaOutOfRange value =>
    s!"delta must be non-negative and less than 1, but got {Decimal.Layout.plain.text value}"
  | unknownMechanism identifier => s!"unknown mechanism identifier '{identifier}'"
  | duplicateMechanism identifier =>
    s!"mechanism identifier '{identifier}' is already registered"
  | stateMismatch mismatch =>
    s!"persisted state does not match specification: {mismatch.message}"
  | state error => s!"invalid persisted state: {error.message}"
  | inputCount expected actual => s!"expected {expected} input values, got {actual}"
  | incompatible reason => s!"incompatible bundles: {reason.message}"
  | notReportable reason => s!"bundle cannot report: {reason.message}"
  | mechanism failure => s!"nested mechanism failed: {failure.message}"
  | counterOverflow current added => s!"input counter overflow: {current} + {added} exceeds u64"
  | config error => s!"configuration error: {error.message}"
  | io reason => s!"I/O error: {reason}"
  | json error => s!"JSON error: {error.message}"

/-- The number of an error. -/
def code : Error → Nat
  | emptyNestedSpecs => 10
  | resolution _ _ _ => 11
  | notDifferentiallyPrivate _ _ => 12
  | parameterCount _ => 13
  | nonNumericParameter _ _ => 14
  | nonPositiveEpsilon _ => 15
  | deltaOutOfRange _ => 16
  | unknownMechanism _ => 17
  | duplicateMechanism _ => 18
  | stateMismatch _ => 20
  | state _ => 21
  | inputCount _ _ => 30
  | incompatible _ => 31
  | notReportable _ => 32
  | mechanism _ => 33
  | counterOverflow _ _ => 34
  | config _ => 40
  | io _ => 41
  | json _ => 42

/-- The kind of an error. -/
def kind : Error → ErrorKind
  | notReportable _ => .failedPrecondition
  | counterOverflow _ _ => .failedPrecondition
  | mechanism _ => .internal
  | io _ => .internal
  | _ => .invalidArgument

/-- Whether the caller can help it by correcting what was given. -/
def isInvalidArgument (e : Error) : Bool := e.kind = .invalidArgument

end Error

end SharedBudget
