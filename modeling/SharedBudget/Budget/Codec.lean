/-
# Budget shares in JSON and in diagnostics
-/

import SharedBudget.Budget
import SharedBudget.Json.Typed
import SharedBudget.Json.Writer

namespace SharedBudget
namespace Budget
namespace Split

open Json

/-- The fields of shares read so far. -/
structure Draft where
  epsilon : Option Double := none
  delta : Option Double := none
  mechanisms : Option Nat := none
  capped : Option Bool := none

/-- How shares are read. -/
def record : Record Draft Split where
  name := "BudgetSplit"
  draft := {}
  fields := [
    field "epsilon_per_mechanism" (·.epsilon) (fun d x => { d with epsilon := some x })
      (fun _ => double),
    field "delta_per_mechanism" (·.delta) (fun d x => { d with delta := some x })
      (fun _ => double),
    field "mechanisms" (·.mechanisms) (fun d x => { d with mechanisms := some x })
      (fun _ => natural "usize"),
    field "capped" (·.capped) (fun d x => { d with capped := some x }) (fun _ => boolean)]
  finish d := do
    let epsilon ← need "epsilon_per_mechanism" d.epsilon
    let delta ← need "delta_per_mechanism" d.delta
    let mechanisms ← need "mechanisms" d.mechanisms
    let capped ← need "capped" d.capped
    return { epsilon, delta, mechanisms, capped }

/-- The shares in a document. -/
def ofJson (text : Bytes) : Except Json.Error Split := document (record.read depthLimit) text

/-- Shares as JSON. -/
def json (s : Split) : List Char :=
  Writer.object [
    ("epsilon_per_mechanism", Writer.float s.epsilon),
    ("delta_per_mechanism", Writer.float s.delta),
    ("mechanisms", Writer.natural s.mechanisms),
    ("capped", Writer.boolean s.capped)]

/-- The form in which diagnostics show shares. -/
def inspect (s : Split) : String :=
  let number (x : Double) : String := Decimal.Layout.inspect.text x
  s!"BudgetSplit \x7b epsilon_per_mechanism: {number s.epsilon}, " ++
    s!"delta_per_mechanism: {number s.delta}, mechanisms: {s.mechanisms}, " ++
    s!"capped: {s.capped} \x7d"

end Split
end Budget
end SharedBudget
