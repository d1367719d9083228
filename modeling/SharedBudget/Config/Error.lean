/-
# What can be wrong with a configuration
-/

import SharedBudget.Decimal.Layout

namespace SharedBudget
namespace Config

/-- Why a configuration cannot be used. -/
inductive Error where
  /-- The file cannot be read. -/
  | unreadable (reason : String)
  /-- The document is no configuration. -/
  | malformed (reason : String)
  /-- The threshold is not a finite positive number. -/
  | threshold (value : Double)
  /-- A field has a value for which it gives its own reason. -/
  | invalidValue (field reason : String)
  | versionMismatch (expected actual : String)
deriving DecidableEq

namespace Error

/-- The wording of an error. -/
def message : Error → String
  | unreadable reason => s!"I/O error: {reason}"
  | malformed reason => s!"Parse error: {reason}"
  | threshold value =>
    "Invalid value for epsilon_threshold: Must be finite and positive, got " ++
      Decimal.Layout.plain.text value
  | invalidValue field reason => s!"Invalid value for {field}: {reason}"
  | versionMismatch expected actual => s!"Version mismatch: expected {expected}, got {actual}"

/-- The number of an error. -/
def code : Error → Nat
  | unreadable _ => 60
  | malformed _ => 61
  | threshold _ => 65
  | invalidValue _ _ => 65
  | versionMismatch _ _ => 66

end Error

end Config
end SharedBudget
