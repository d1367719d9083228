/-
# Bundles in columns

A bundle may be kept as three lists side by side: the mechanisms, their identifiers
and the numbers of their inputs (`Bundle.Columns`).  The form itself does not say
that the lists have one length, so a number that was counted along one list may find
nothing in another.  A look-up by a number therefore has two ends: the item, or
`Halt.missing`, which no caller sees as an error because the program ends there.

The operations are those of a bundle in slots (`SharedBudget.Bundle`,
`SharedBudget.Bundle.Factory`), less their log.  Where two lists are gone through
together the shorter one ends it, and where a number is looked up it may be missing.
-/

import SharedBudget.Bundle.Factory

namespace SharedBudget

/-- How an operation ends without a result. -/
inductive Halt where
  /-- It is refused. -/
  | error (e : Error)
  /-- It looks up what is not there. -/
  | missing
deriving DecidableEq

namespace Halt

variable {α : Type}

/-- The item with this number. -/
def lookup (xs : List α) (index : Nat) : Except Halt α :=
  match xs[index]? with
  | some x => .ok x
  | none => .error .missing

/-- As many items as `count` says, from number `offset` on. -/
def slice (xs : List α) (offset count : Nat) : Except Halt (List α) :=
  if offset + count ≤ xs.length then .ok ((xs.drop offset).take count) else .error .missing

/-- A result that looks nothing up. -/
def lift (x : Except Error α) : Except Halt α := x.mapError .error

end Halt

namespace Bundle

/-- A bundle of mechanisms of type `π` as three lists side by side. -/
structure Columns (π : Type) where
  nested : List π
  /-- The identifiers of the mechanisms, in order. -/
  identifiers : List String
  /-- The numbers of values the mechanisms take from every group, in order. -/
  inputs : List Nat
  budget : Budget.Split
  total : UInt64
deriving DecidableEq

namespace Columns

open Halt

variable {α π V : Type}

/-! ## Taking in groups -/

/-- The number of values in a group. -/
def expectedInputs (c : Columns π) : Nat := c.inputs.foldr (· + ·) 0

/-- The counter after `added` more groups. -/
def counterAfter (c : Columns π) (added : UInt64) : Except Error UInt64 :=
  if c.total.toNat + added.toNat < 2 ^ 64 then .ok (c.total + added)
  else .error (.counterOverflow c.total added)

/-- Hands every mechanism its slice of a group, the first one from `offset` on, until one fails
or there is no slice. -/
def feed [Mechanism π V] (group : List V) : (offset : Nat) → List π → List Nat →
    List π × Except Halt Unit
  | offset, m :: nested, count :: inputs =>
    match slice group offset count with
    | .error halt => (m :: nested, .error halt)
    | .ok part =>
      match Mechanism.accumulate m part with
      | .error e => (m :: nested, .error (.error e))
      | .ok m =>
        let (nested, result) := feed group (offset + count) nested inputs
        (m :: nested, result)
  | _, nested, _ => (nested, .ok ())

/-- Takes in one group of inputs. -/
def accumulate [Mechanism π V] (c : Columns π) (group : List V) : Columns π × Except Halt Unit :=
  if group.length ≠ c.expectedInputs then
    (c, .error (.error (.inputCount c.expectedInputs group.length)))
  else
    match c.counterAfter 1 with
    | .error e => (c, .error (.error e))
    | .ok total =>
      match feed group 0 c.nested c.inputs with
      | (nested, .error halt) => ({ c with nested }, .error halt)
      | (nested, .ok ()) => ({ c with nested, total }, .ok ())

/-! ## Merging -/

/-- The first place, from `index` on, where two mechanisms are not compatible, with the name that
`identifiers` has for it. -/
def incompatiblePlace? [Mechanism π V] (identifiers : List String) : (index : Nat) → List π →
    List π → Except Halt (Option Incompatibility)
  | index, m :: nested, t :: peers =>
    if Mechanism.isCompatible m t then incompatiblePlace? identifiers (index + 1) nested peers
    else do
      let identifier ← lookup identifiers index
      return some (.nested index identifier)
  | _, _, _ => .ok none

/-- Why a peer cannot be merged into a bundle, if there is a reason. -/
def incompatibility? [Mechanism π V] (c peer : Columns π) : Except Halt (Option Incompatibility) :=
  if c.nested.length ≠ peer.nested.length then
    .ok (some (.mechanismCount c.nested.length peer.nested.length))
  else if c.inputs ≠ peer.inputs then .ok (some (.arities c.inputs peer.inputs))
  else if !c.budget.epsilon.eq peer.budget.epsilon || !c.budget.delta.eq peer.budget.delta then
    .ok (some (.budget c.budget.epsilon c.budget.delta peer.budget.epsilon peer.budget.delta))
  else incompatiblePlace? c.identifiers 0 c.nested peer.nested

/-- Whether a peer can be merged into a bundle. -/
def isCompatible [Mechanism π V] (c peer : Columns π) : Except Halt Bool :=
  Option.isNone <$> c.incompatibility? peer

/-- Merges mechanisms pair by pair, until one fails. -/
def join [Mechanism π V] : List π → List π → List π × Except Halt Unit
  | m :: nested, t :: peers =>
    match Mechanism.merge m t with
    | .error e => (m :: nested, .error (.error e))
    | .ok m =>
      let (nested, result) := join nested peers
      (m :: nested, result)
  | nested, _ => (nested, .ok ())

/-- Merges a peer into a bundle. -/
def merge [Mechanism π V] (c peer : Columns π) : Columns π × Except Halt Unit :=
  match c.incompatibility? peer with
  | .error halt => (c, .error halt)
  | .ok (some reason) => (c, .error (.error (.incompatible reason)))
  | .ok none =>
    match c.counterAfter peer.total with
    | .error e => (c, .error (.error e))
    | .ok total =>
      match join c.nested peer.nested with
      | (nested, .error halt) => ({ c with nested }, .error halt)
      | (nested, .ok ()) => ({ c with nested, total }, .ok ())

/-! ## Reporting -/

/-- Whether every mechanism can report. -/
def canReport [Mechanism π V] (c : Columns π) : Bool := c.nested.all Mechanism.canReport

/-- The report of a bundle. -/
def report [PrivateMechanism π V] (c : Columns π) : Except Halt (List V) := do
  match c.nested.findIdx? fun m => !Mechanism.canReport m with
  | some index =>
    let identifier ← lookup c.identifiers index
    throw (.error (.notReportable (.nested index identifier)))
  | none => lift (reports c.nested)
where
  /-- The reports of mechanisms in a row. -/
  reports : List π → Except Error (List V)
    | [] => .ok []
    | m :: nested => do
      let own ← PrivateMechanism.report m c.budget.epsilon c.budget.delta
      let others ← reports nested
      return own ++ others

/-- The states of mechanisms as entries of a checkpoint. -/
def entries [Mechanism π V] : List String → List π → Except Error (List Checkpoint.Entry)
  | identifier :: identifiers, m :: nested => do
    let blob ← Mechanism.serialize m
    let others ← entries identifiers nested
    return .ofBlob (some identifier) blob :: others
  | _, _ => .ok []

/-- The checkpoint of a bundle, taken at the time `now`. -/
def checkpoint [Mechanism π V] (c : Columns π) (now : Timestamp) : Except Error Checkpoint := do
  let entries ← entries c.identifiers c.nested
  return { Checkpoint.empty now c.total with entries }

/-! ## Making -/

/-- Checks that a checkpoint, if there is one, has an entry per mechanism and is valid. -/
def checkState (s : BundleSpec) : Option Checkpoint → Except Error Unit
  | none => .ok ()
  | some state =>
    if state.entries.length ≠ s.nested.length then
      .error (.stateMismatch (.entryCount s.nested.length state.entries.length))
    else state.check.mapError .state

/-- The entry of the mechanism with number `index`, if there is a checkpoint. -/
def entryOf (state : Option Checkpoint) (index : Nat) : Except Halt (Option Checkpoint.Entry) :=
  match state with
  | none => .ok none
  | some state => some <$> lookup state.entries index

/-- Makes mechanisms from the first to the last, the first one with number `index`, and puts each
behind those of `nested` and the number of its inputs behind those of `inputs`. -/
def resolveAll (f : Factory α π) (state : Option Checkpoint) : (index : Nat) →
    List MechanismSpec → List π → List Nat → Except Halt (List π × List Nat)
  | _, [], nested, inputs => .ok (nested, inputs)
  | index, s :: more, nested, inputs => do
    let entry ← entryOf state index
    let slot ← lift (f.resolve index s entry)
    resolveAll f state (index + 1) more (nested ++ [slot.mechanism]) (inputs ++ [s.inputCount])

/-- Epsilon and delta of a specification. -/
def budgetOf (parameters : List Parameter) : Except Halt (Double × Double) :=
  if parameters.length ≠ 2 then .error (.error (.parameterCount parameters.length))
  else do
    let epsilon ← lift (Budget.numeric "epsilon" (← lookup parameters 0))
    let delta ← lift (Budget.numeric "delta" (← lookup parameters 1))
    if Budget.isEpsilon epsilon then
      if Budget.isDelta delta then .ok (epsilon, delta)
      else .error (.error (.deltaOutOfRange delta))
    else .error (.error (.nonPositiveEpsilon epsilon))

/-- Makes a bundle, from a checkpoint if there is one. -/
def build (f : Factory α π) (s : BundleSpec) (state : Option Checkpoint) :
    Except Halt (Columns π) := do
  lift ((Config.checkThreshold f.threshold).mapError .config)
  if s.nested.isEmpty then throw (.error .emptyNestedSpecs)
  lift (checkState s state)
  let (nested, inputs) ← resolveAll f state 0 s.nested [] []
  let (epsilon, delta) ← budgetOf s.parameters
  let budget ← lift (Budget.split epsilon delta s.nested.length f.threshold).outcome
  let identifiers := s.nested.map (·.identifier)
  return { nested, identifiers, inputs, budget, total := (state.map (·.total)).getD 0 }

/-- Makes a fresh bundle. -/
def create (f : Factory α π) (s : BundleSpec) : Except Halt (Columns π) := build f s none

/-- Makes a bundle from a checkpoint. -/
def restore (f : Factory α π) (s : BundleSpec) (state : Checkpoint) : Except Halt (Columns π) :=
  build f s (some state)

/-- Makes a bundle from the document of a checkpoint. -/
def restoreBytes (f : Factory α π) (s : BundleSpec) (text : Bytes) : Except Halt (Columns π) := do
  let state ← lift ((Checkpoint.ofBytes text).outcome.mapError .state)
  restore f s state

end Columns

end Bundle

end SharedBudget
