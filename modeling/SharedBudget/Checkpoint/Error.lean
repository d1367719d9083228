/-
# What can be wrong with a checkpoint
-/

import SharedBudget.Json.Fault

namespace SharedBudget
namespace Checkpoint

/-- Why the frame of an entry does not fit its blob. -/
inductive Damage where
  /-- The checksum of entry `index` does not have sixty-four bytes. -/
  | checksumLength (index : Nat)
  /-- Entry `index` declares another size than its blob has. -/
  | size (index declared actual : Nat)
  /-- Any other damage, in words. -/
  | described (text : String)
deriving DecidableEq

/-- The wording of a damage. -/
def Damage.message : Damage → String
  | .checksumLength index => s!"nested state {index} has invalid checksum length"
  | .size index declared actual =>
    s!"nested state {index} declares {declared} bytes but holds {actual}"
  | .described text => text

/-- Why a checkpoint is refused. -/
inductive Error where
  | json (error : Json.Error)
  /-- The checksum of entry `index` is `expected`, that of its blob is `actual`. -/
  | checksumMismatch (index : Nat) (expected actual : String)
  | unsupportedVersion (version supported : String)
  | corrupted (damage : Damage)
deriving DecidableEq

/-- The wording of an error. -/
def Error.message : Error → String
  | .json error => s!"JSON error: {error.message}"
  | .checksumMismatch index expected actual =>
    s!"checksum mismatch for nested state {index}: expected {expected}, got {actual}"
  | .unsupportedVersion version supported =>
    s!"unsupported state version: {version} (supported: {supported})"
  | .corrupted damage => s!"corrupted state: {damage.message}"

end Checkpoint
end SharedBudget
