/-
# Sums

Two mechanisms that add up doubles.  `dp_sum` reports its sum together with the
share of the budget that it was given, and may have to wait for a number of
groups.  `plain_sum` promises no privacy and never reports.
-/

import SharedBudget.Json.Typed
import SharedBudget.Json.Writer
import SharedBudget.Mechanism

namespace SharedBudget

open Json

/-- The state of a `dp_sum` mechanism. -/
structure PrivateSum where
  sum : Double
  /-- The number of groups absorbed. -/
  count : UInt64
  /-- The number of groups to wait for. -/
  minimum : UInt64
deriving DecidableEq

namespace PrivateSum

/-- A sum of nothing that waits for `minimum` groups. -/
def empty (minimum : UInt64) : PrivateSum := ⟨.zero .double false, 0, minimum⟩

/-- The number of groups that a specification asks to wait for: its first parameter, which
has to be a number that is not negative. -/
def minimumOf (s : MechanismSpec) : Except Error UInt64 :=
  match s.parameters with
  | [] => .ok 0
  | p :: _ =>
    match p.toDouble? with
    | some x =>
      if (Binary.zero .double false).le x then .ok (.ofNat x.toWord)
      else .error (.mechanism (.minimum p))
    | none => .error (.mechanism (.minimum p))

/-- The fields of a state read so far. -/
structure Draft where
  sum : Option Double := none
  count : Option UInt64 := none
  minimum : Option UInt64 := none

/-- How a state is read. -/
def record : Record Draft PrivateSum where
  name := "SumMechanism"
  draft := {}
  fields := [
    field "sum" (·.sum) (fun d x => { d with sum := some x }) (fun _ => double),
    field "count" (·.count) (fun d x => { d with count := some x })
      (fun _ => UInt64.ofNat <$> natural "u64"),
    field "min_contributions" (·.minimum) (fun d x => { d with minimum := some x })
      (fun _ => UInt64.ofNat <$> natural "u64")]
  finish d := do
    let sum ← need "sum" d.sum
    let count ← need "count" d.count
    let minimum ← need "min_contributions" d.minimum
    return { sum, count, minimum }

/-- A state as JSON. -/
def json (s : PrivateSum) : List Char :=
  Writer.object [
    ("sum", Writer.float s.sum),
    ("count", Writer.natural s.count.toNat),
    ("min_contributions", Writer.natural s.minimum.toNat)]

/-- The blob of a state. -/
def encode (s : PrivateSum) : Bytes := Utf8.encode s.json

/-- The state in a blob. -/
def decode (blob : Bytes) : Except Json.Error PrivateSum :=
  document (record.read depthLimit) blob

/-- The state after one more group. -/
def absorb (s : PrivateSum) (inputs : List Double) : PrivateSum :=
  { s with sum := s.sum.add (Binary.sum inputs), count := s.count + 1 }

/-- The state with what another one has absorbed. -/
def join (s t : PrivateSum) : PrivateSum :=
  { s with sum := s.sum.add t.sum, count := s.count + t.count }

instance : PrivateMechanism PrivateSum Double where
  refusal _ := .incompatible (.otherKind "a dp_sum mechanism")
  accumulate s inputs := .ok (s.absorb inputs)
  isCompatible s t := t.minimum = s.minimum
  merge s t := .ok (s.join t)
  canReport s := s.minimum ≤ s.count
  serialize s := .ok s.encode
  report s epsilon delta := .ok [s.sum, epsilon, delta]

/-- No group is refused, so a run of groups is absorbed one after the other. -/
theorem foldlM_accumulate (sum : PrivateSum) (groups : List (List Double)) :
    groups.foldlM Mechanism.accumulate sum =
      (.ok (groups.foldl absorb sum) : Except Error PrivateSum) := by
  induction groups generalizing sum with
  | nil => rfl
  | cons group groups ih => exact ih (sum.absorb group)

/-- Makes `dp_sum` mechanisms.  A restored one takes all of its state from the blob. -/
def maker : Maker PrivateSum where
  create s := empty <$> minimumOf s
  restore _ blob := (decode blob).mapError .json

end PrivateSum

/-- The state of a `plain_sum` mechanism. -/
structure PlainSum where
  sum : Double
deriving DecidableEq

namespace PlainSum

/-- The fields of a state read so far. -/
structure Draft where
  sum : Option Double := none

/-- How a state is read. -/
def record : Record Draft PlainSum where
  name := "PlainSumAggregator"
  draft := {}
  fields := [field "sum" (·.sum) (fun d x => { d with sum := some x }) (fun _ => double)]
  finish d := do return ⟨← need "sum" d.sum⟩

/-- A state as JSON. -/
def json (s : PlainSum) : List Char := Writer.object [("sum", Writer.float s.sum)]

instance : Mechanism PlainSum Double where
  refusal _ := .incompatible (.otherKind "a plain_sum aggregator")
  accumulate s inputs := .ok ⟨s.sum.add (Binary.sum inputs)⟩
  isCompatible _ _ := true
  merge s t := .ok ⟨s.sum.add t.sum⟩
  canReport _ := true
  serialize s := .ok (Utf8.encode s.json)

/-- Makes `plain_sum` mechanisms. -/
def maker : Maker PlainSum where
  create _ := .ok ⟨.zero .double false⟩
  restore _ blob := (document (record.read depthLimit) blob).mapError .json

end PlainSum

/-- The sums together. -/
abbrev AnySum := PrivateSum ⊕ PlainSum

namespace AnySum

/-- Makes `dp_sum` mechanisms. -/
def privateMaker : Maker AnySum := PrivateSum.maker.map .inl

/-- Makes `plain_sum` mechanisms. -/
def plainMaker : Maker AnySum := PlainSum.maker.map .inr

/-- The sum as one that promises privacy. -/
def asPrivate? : AnySum → Option PrivateSum
  | .inl s => some s
  | .inr _ => none

end AnySum

namespace MechanismSpec

/-- The identifier of `dp_sum` mechanisms. -/
def privateSumIdentifier : String := "dp_sum"

/-- The identifier of `plain_sum` mechanisms. -/
def plainSumIdentifier : String := "plain_sum"

/-- A `dp_sum` of `inputs` streams. -/
def sum (inputs : Nat) : MechanismSpec where
  identifier := privateSumIdentifier
  inputs := (List.range inputs).map fun i => s!"x{i}"

/-- A `dp_sum` of `inputs` streams that waits for `minimum` groups. -/
def gatedSum (inputs : Nat) (minimum : Int64) : MechanismSpec :=
  { sum inputs with parameters := [.i64 minimum] }

end MechanismSpec

/-- A bundle of `dp_sum` mechanisms with these numbers of streams. -/
def BundleSpec.sums (inputs : List Nat) (epsilon delta : Double) : BundleSpec where
  nested := inputs.map MechanismSpec.sum
  parameters := [.f64 epsilon, .f64 delta]

end SharedBudget
