/-
# The shared budget

A bundle has one privacy budget, epsilon and delta, and gives every mechanism
the same share of it.  By basic composition the shares add up, so each is an
`n`-th of the whole.  An epsilon that reaches the threshold is not divided:
every mechanism then gets the threshold itself.
-/

import SharedBudget.Error
import SharedBudget.Log.Event

namespace SharedBudget
namespace Budget

/-- The shares of a budget. -/
structure Split where
  /-- What one mechanism gets of epsilon. -/
  epsilon : Double
  /-- What one mechanism gets of delta. -/
  delta : Double
  /-- The number of mechanisms. -/
  mechanisms : Nat
  /-- Whether the share of epsilon is the threshold. -/
  capped : Bool
deriving DecidableEq

namespace Split

/-- What all mechanisms together spend of epsilon. -/
def totalEpsilon (s : Split) : Double := s.epsilon.mul (.ofNat .double s.mechanisms)

/-- What all mechanisms together spend of delta. -/
def totalDelta (s : Split) : Double := s.delta.mul (.ofNat .double s.mechanisms)

end Split

/-- The threshold that is used when none is given: 20. -/
def defaultThreshold : Double := .ofNat .double 20

/-- The event of an epsilon that reaches the threshold. -/
def cappedEvent (epsilon threshold : Double) (mechanisms : Nat) : Log.Event where
  severity := .warn
  target := "dpb_core::budget"
  message := "Epsilon at or above threshold; per-mechanism share capped"
  fields := [("requested_epsilon", .float epsilon), ("epsilon_threshold", .float threshold),
    ("mechanisms", .natural mechanisms)]

/-- The shares of `mechanisms` many mechanisms. -/
def shares (epsilon delta : Double) (mechanisms : Nat) (threshold : Double) : Split :=
  let n : Double := .ofNat .double mechanisms
  let capped := threshold.le epsilon
  { epsilon := if capped then threshold else epsilon.div n
    delta := delta.div n
    mechanisms
    capped }

/-- Splits a budget; there has to be a mechanism. -/
def split (epsilon delta : Double) (mechanisms : Nat) (threshold : Double) :
    Attempt Error Split := do
  if mechanisms = 0 then throw .emptyNestedSpecs
  let s := shares epsilon delta mechanisms threshold
  if s.capped then Attempt.emit (cappedEvent epsilon threshold mechanisms)
  return s

/-- The number that a parameter holds. -/
def numeric (name : String) (p : Parameter) : Except Error Double :=
  match p.toDouble? with
  | some x => .ok x
  | none => .error (.nonNumericParameter name p.dataType)

/-- Whether an epsilon can be spent. -/
def isEpsilon (x : Double) : Bool := (Binary.zero .double false).lt x

/-- Whether a delta is a probability below one. -/
def isDelta (x : Double) : Bool := (Binary.zero .double false).le x && x.lt (.ofNat .double 1)

/-- Epsilon and delta of a specification.  The rules are checked in this order: there are
two parameters, epsilon is a number, delta is a number, epsilon is positive, delta is
at least zero and less than one. -/
def ofParameters (parameters : List Parameter) : Except Error (Double × Double) :=
  match parameters with
  | [e, d] => do
    let epsilon ← numeric "epsilon" e
    let delta ← numeric "delta" d
    if isEpsilon epsilon then
      if isDelta delta then .ok (epsilon, delta) else .error (.deltaOutOfRange delta)
    else .error (.nonPositiveEpsilon epsilon)
  | _ => .error (.parameterCount parameters.length)

end Budget
end SharedBudget
