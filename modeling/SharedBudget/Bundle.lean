/-
# Bundles

A bundle is several private mechanisms that act as one under a shared budget.  A
group of inputs is cut into consecutive parts, one for every mechanism; a report
is the reports of all mechanisms in a row, each made with the same share of the
budget.  The bundle's own state is the number of groups seen.

An operation that changes a bundle returns the bundle in every case: when a
mechanism fails, the ones before it have changed already.

A slot holds what belongs to one mechanism.  `SharedBudget.Bundle.Columns` keeps the
same in three lists side by side, and is proved to do the same.
-/

import SharedBudget.Budget.Codec
import SharedBudget.Checkpoint.Codec
import SharedBudget.Mechanism

namespace SharedBudget

/-- A mechanism in its place in a bundle. -/
structure Slot (π : Type) where
  identifier : String
  /-- The number of values the mechanism takes from every group. -/
  inputs : Nat
  mechanism : π
deriving DecidableEq

/-- A bundle of mechanisms of type `π`. -/
structure Bundle (π : Type) where
  slots : List (Slot π)
  budget : Budget.Split
  /-- The number of groups seen, here, in merged peers and before checkpoints. -/
  total : UInt64
deriving DecidableEq

namespace Bundle

variable {π V : Type}

/-- The number of mechanisms. -/
def size (b : Bundle π) : Nat := b.slots.length

/-- The identifiers of the mechanisms, in order. -/
def identifiers (b : Bundle π) : List String := b.slots.map (·.identifier)

/-- The numbers of inputs of the mechanisms, in order. -/
def inputsPerMechanism (b : Bundle π) : List Nat := b.slots.map (·.inputs)

/-- The number of values in a group. -/
def expectedInputs (b : Bundle π) : Nat := b.inputsPerMechanism.foldr (· + ·) 0

/-- The part of the program that the events of a bundle name. -/
def target : String := "dpb_core::bundle"

/-- The counter after `added` more groups. -/
def counterAfter (b : Bundle π) (added : UInt64) : Except Error UInt64 :=
  if b.total.toNat + added.toNat < 2 ^ 64 then .ok (b.total + added)
  else .error (.counterOverflow b.total added)

/-- Hands every mechanism its part of a group, until one fails. -/
def feed [Mechanism π V] : List (Slot π) → List V → List (Slot π) × Except Error Unit
  | [], _ => ([], .ok ())
  | s :: slots, inputs =>
    match Mechanism.accumulate s.mechanism (inputs.take s.inputs) with
    | .error e => (s :: slots, .error e)
    | .ok m =>
      let (slots, result) := feed slots (inputs.drop s.inputs)
      ({ s with mechanism := m } :: slots, result)

/-- Takes in one group of inputs.  The counter moves when all mechanisms have taken
their parts. -/
def accumulate [Mechanism π V] (b : Bundle π) (inputs : List V) :
    Logged (Bundle π × Except Error Unit) :=
  if inputs.length ≠ b.expectedInputs then
    return (b, .error (.inputCount b.expectedInputs inputs.length))
  else
    match b.counterAfter 1 with
    | .error e => return (b, .error e)
    | .ok total =>
      match feed b.slots inputs with
      | (slots, .error e) => return ({ b with slots }, .error e)
      | (slots, .ok ()) => do
        Logged.emit {
          severity := .trace
          target
          message := "Accumulated input group"
          fields := [("total_inputs_seen", .natural total.toNat)] }
        return ({ b with slots, total }, .ok ())

/-- The first place, from `index` on, where two mechanisms are not compatible. -/
def incompatibleSlot? [Mechanism π V] : (index : Nat) → List (Slot π) → List (Slot π) →
    Option Incompatibility
  | index, s :: slots, t :: peers =>
    if Mechanism.isCompatible s.mechanism t.mechanism then
      incompatibleSlot? (index + 1) slots peers
    else some (.nested index s.identifier)
  | _, _, _ => none

/-- Why a peer cannot be merged into a bundle, if there is a reason: the number of
mechanisms, the numbers of inputs, the shares of the budget, or a pair of mechanisms. -/
def incompatibility? [Mechanism π V] (b peer : Bundle π) : Option Incompatibility :=
  if b.size ≠ peer.size then some (.mechanismCount b.size peer.size)
  else if b.inputsPerMechanism ≠ peer.inputsPerMechanism then
    some (.arities b.inputsPerMechanism peer.inputsPerMechanism)
  else if !b.budget.epsilon.eq peer.budget.epsilon || !b.budget.delta.eq peer.budget.delta then
    some (.budget b.budget.epsilon b.budget.delta peer.budget.epsilon peer.budget.delta)
  else incompatibleSlot? 0 b.slots peer.slots

/-- Whether a peer can be merged into a bundle. -/
def isCompatible [Mechanism π V] (b peer : Bundle π) : Bool := (b.incompatibility? peer).isNone

/-- Merges mechanisms pair by pair, until one fails. -/
def join [Mechanism π V] : List (Slot π) → List (Slot π) → List (Slot π) × Except Error Unit
  | s :: slots, t :: peers =>
    match Mechanism.merge s.mechanism t.mechanism with
    | .error e => (s :: slots, .error e)
    | .ok m =>
      let (slots, result) := join slots peers
      ({ s with mechanism := m } :: slots, result)
  | slots, _ => (slots, .ok ())

/-- Merges a peer into a bundle.  Whether they are compatible, and whether the counter has
room, is checked before any mechanism changes. -/
def merge [Mechanism π V] (b peer : Bundle π) : Logged (Bundle π × Except Error Unit) :=
  match b.incompatibility? peer with
  | some reason => return (b, .error (.incompatible reason))
  | none =>
    match b.counterAfter peer.total with
    | .error e => return (b, .error e)
    | .ok total =>
      match join b.slots peer.slots with
      | (slots, .error e) => return ({ b with slots }, .error e)
      | (slots, .ok ()) => do
        Logged.emit {
          severity := .debug
          target
          message := "Merged bundle"
          fields := [("merged_inputs", .natural peer.total.toNat),
            ("total_inputs_seen", .natural total.toNat)] }
        return ({ b with slots, total }, .ok ())

/-- Whether every mechanism can report. -/
def canReport [Mechanism π V] (b : Bundle π) : Bool :=
  b.slots.all fun s => Mechanism.canReport s.mechanism

/-- The first place, from `index` on, of a mechanism that cannot report. -/
def unreadySlot? [Mechanism π V] : (index : Nat) → List (Slot π) → Option Unreadiness
  | _, [] => none
  | index, s :: slots =>
    if Mechanism.canReport s.mechanism then unreadySlot? (index + 1) slots
    else some (.nested index s.identifier)

/-- The reports of mechanisms in a row, each made with this share of the budget. -/
def reports [PrivateMechanism π V] (epsilon delta : Double) : List (Slot π) →
    Except Error (List V)
  | [] => .ok []
  | s :: slots => do
    let own ← PrivateMechanism.report s.mechanism epsilon delta
    let others ← reports epsilon delta slots
    return own ++ others

/-- The report of a bundle. -/
def report [PrivateMechanism π V] (b : Bundle π) : Attempt Error (List V) := do
  match unreadySlot? 0 b.slots with
  | some reason => throw (.notReportable reason)
  | none =>
    match reports b.budget.epsilon b.budget.delta b.slots with
    | .error e => throw e
    | .ok outputs =>
      Attempt.emit {
        severity := .debug
        target
        message := "Bundle reported"
        fields := [("outputs", .natural outputs.length),
          ("epsilon_per_mechanism", .float b.budget.epsilon),
          ("delta_per_mechanism", .float b.budget.delta)] }
      return outputs

/-- The states of mechanisms as entries of a checkpoint. -/
def entries [Mechanism π V] : List (Slot π) → Except Error (List Checkpoint.Entry)
  | [] => .ok []
  | s :: slots => do
    let blob ← Mechanism.serialize s.mechanism
    let others ← entries slots
    return .ofBlob (some s.identifier) blob :: others

/-- The checkpoint of a bundle, taken at the time `now`. -/
def checkpoint [Mechanism π V] (b : Bundle π) (now : Timestamp) : Attempt Error Checkpoint := do
  match entries b.slots with
  | .error e => throw e
  | .ok entries =>
    Attempt.emit {
      severity := .debug
      target
      message := "Serialized bundle"
      fields := [("nested", .natural entries.length),
        ("total_inputs_seen", .natural b.total.toNat)] }
    return { Checkpoint.empty now b.total with entries }

/-- The document of the checkpoint of a bundle, taken at the time `now`. -/
def checkpointBytes [Mechanism π V] (b : Bundle π) (now : Timestamp) : Attempt Error Bytes := do
  let c ← b.checkpoint now
  ExceptT.lift c.toBytes

/-- The form in which diagnostics show a bundle. -/
def inspect (b : Bundle π) : String :=
  let names := ", ".intercalate (b.identifiers.map Quoted.inspect)
  let counts := ", ".intercalate (b.inputsPerMechanism.map fun n => s!"{n}")
  s!"Bundle \x7b identifiers: [{names}], inputs_per_mechanism: [{counts}], " ++
    s!"budget: {b.budget.inspect}, total_inputs_seen: {b.total.toNat}, .. \x7d"

end Bundle

end SharedBudget
