/-
# Specifications

A bundle specification lists the nested mechanisms, each with the names of the
input streams it consumes, and the two parameters of the shared budget.
-/

import SharedBudget.Parameter

namespace SharedBudget

/-- One nested mechanism. -/
structure MechanismSpec where
  /-- The name under which the mechanism is registered. -/
  identifier : String
  /-- The names of the input streams, in order. -/
  inputs : List String := []
  /-- Parameters for the mechanism alone. -/
  parameters : List Parameter := []
deriving DecidableEq

/-- The number of values that the mechanism takes from every group of inputs. -/
def MechanismSpec.inputCount (s : MechanismSpec) : Nat := s.inputs.length

/-- A bundle: its mechanisms, and epsilon and delta. -/
structure BundleSpec where
  nested : List MechanismSpec := []
  parameters : List Parameter := []
deriving DecidableEq

namespace BundleSpec

/-- The specification with one more mechanism. -/
def withNested (s : BundleSpec) (m : MechanismSpec) : BundleSpec :=
  { s with nested := s.nested ++ [m] }

/-- The specification with one more parameter. -/
def withParameter (s : BundleSpec) (p : Parameter) : BundleSpec :=
  { s with parameters := s.parameters ++ [p] }

/-- The specification with this epsilon and delta for parameters. -/
def withBudget (s : BundleSpec) (epsilon delta : Double) : BundleSpec :=
  { s with parameters := [.f64 epsilon, .f64 delta] }

/-- The identifiers of the mechanisms, in order. -/
def identifiers (s : BundleSpec) : List String := s.nested.map (·.identifier)

/-- The numbers of inputs of the mechanisms, in order. -/
def inputCounts (s : BundleSpec) : List Nat := s.nested.map (·.inputCount)

end BundleSpec

end SharedBudget
