/-
# Making bundles

A factory makes a bundle from a specification, fresh or from a checkpoint.  It
checks these rules and stops at the first that does not hold:

1. the threshold is finite and positive;
2. there is a mechanism;
3. the checkpoint, if there is one, has one entry per mechanism and is valid;
4. for every mechanism in turn, the entry is its own, the mechanism can be made,
   and it promises privacy;
5. there are two parameters; they are numbers; epsilon is positive; delta is at
   least zero and less than one.

Whether a bundle was made or not, the last event says so.
-/

import SharedBudget.Bundle
import SharedBudget.Config
import SharedBudget.Registry

namespace SharedBudget

/-- Makes bundles of private mechanisms of type `π` out of mechanisms of type `α`. -/
structure Factory (α π : Type) where
  registry : Registry α
  /-- The mechanism as one that promises privacy, if it does. -/
  asPrivate? : α → Option π
  threshold : Double := Budget.defaultThreshold

namespace Factory

variable {α π V : Type}

/-- The factory with another threshold. -/
def withThreshold (f : Factory α π) (threshold : Double) : Factory α π := { f with threshold }

/-- The factory with the threshold of a configuration. -/
def withConfig (f : Factory α π) (c : Config) : Factory α π := f.withThreshold c.threshold

/-- The event of a mechanism made. -/
def resolvedEvent (index : Nat) (s : MechanismSpec) (restored : Bool) : Log.Event where
  severity := .debug
  target := "dpb_core::factory"
  message := "Resolved nested mechanism"
  fields := [("index", .natural index), ("identifier", .shown s.identifier),
    ("inputs", .natural s.inputCount), ("restored", .boolean restored)]

/-- Checks that an entry is the mechanism's own, or nobody's. -/
def checkOwner (index : Nat) (s : MechanismSpec) (e : Checkpoint.Entry) : Except Error Unit :=
  match e.identifier with
  | some tag =>
    if tag = s.identifier then .ok () else .error (.stateMismatch (.owner index tag s.identifier))
  | none => .ok ()

/-- Makes the mechanism with number `index`, from an entry if there is one. -/
def resolve (f : Factory α π) (index : Nat) (s : MechanismSpec)
    (entry : Option Checkpoint.Entry) : Except Error (Slot π) := do
  let made ← match entry with
    | some e => do
      checkOwner index s e
      pure (f.registry.restore s e.blob)
    | none => pure (f.registry.create s)
  match made with
  | .error e => throw (.resolution index s.identifier e.message)
  | .ok m =>
    match f.asPrivate? m with
    | none => throw (.notDifferentiallyPrivate index s.identifier)
    | some mechanism => return { identifier := s.identifier, inputs := s.inputCount, mechanism }

/-- Makes mechanisms from the first to the last, each with its entry if there are any; the
first one has number `index`. -/
def resolveAll (f : Factory α π) : (index : Nat) →
    List (MechanismSpec × Option Checkpoint.Entry) → Attempt Error (List (Slot π))
  | _, [] => return []
  | index, (s, entry) :: more => do
    let slot ← liftExcept (f.resolve index s entry)
    Attempt.emit (resolvedEvent index s entry.isSome)
    let slots ← resolveAll f (index + 1) more
    return slot :: slots
where
  liftExcept {β : Type} (x : Except Error β) : Attempt Error β := ExceptT.mk (pure x)

/-- Every mechanism with its entry.  The checkpoint, if there is one, is checked here. -/
def pairs (s : BundleSpec) (c : Option Checkpoint) :
    Attempt Error (List (MechanismSpec × Option Checkpoint.Entry)) := do
  match c with
  | none => return s.nested.map fun m => (m, none)
  | some c =>
    if c.entries.length ≠ s.nested.length then
      throw (.stateMismatch (.entryCount s.nested.length c.entries.length))
    ExceptT.mk (Except.mapError Error.state <$> c.validate.run)
    return s.nested.zip (c.entries.map some)

/-- Makes a bundle, from a checkpoint if there is one. -/
def build (f : Factory α π) (s : BundleSpec) (c : Option Checkpoint) :
    Attempt Error (Bundle π) := do
  if let .error e := Config.checkThreshold f.threshold then throw (.config e)
  if s.nested.isEmpty then throw .emptyNestedSpecs
  let pairs ← pairs s c
  let slots ← f.resolveAll 0 pairs
  match Budget.ofParameters s.parameters with
  | .error e => throw e
  | .ok (epsilon, delta) =>
    let budget ← Budget.split epsilon delta s.nested.length f.threshold
    return { slots, budget, total := (c.map (·.total)).getD 0 }

/-- How a bundle is made. -/
inductive Mode where
  | create
  | restore
deriving DecidableEq, Repr

/-- The name of a mode. -/
def Mode.name : Mode → String
  | .create => "create"
  | .restore => "restore"

/-- The last event of making a bundle. -/
def outcomeEvent (s : BundleSpec) (mode : Mode) : Except Error (Bundle π) → Log.Event
  | .ok b => {
      severity := .info
      target := "dpb_core::factory"
      message := "Bundle constructed"
      fields := [("mode", .quoted mode.name), ("mechanisms", .natural b.size),
        ("epsilon_per_mechanism", .float b.budget.epsilon),
        ("delta_per_mechanism", .float b.budget.delta), ("capped", .boolean b.budget.capped),
        ("total_inputs_seen", .natural b.total.toNat)] }
  | .error e => {
      severity := .warn
      target := "dpb_core::factory"
      message := "Bundle construction failed"
      fields := [("mode", .quoted mode.name), ("mechanisms", .natural s.nested.length),
        ("code", .natural e.code), ("kind", .shown e.kind.name), ("error", .shown e.message)] }

/-- An attempt, with its outcome as the last event. -/
def concluded (s : BundleSpec) (mode : Mode) (attempt : Attempt Error (Bundle π)) :
    Attempt Error (Bundle π) := ExceptT.mk do
  let result ← attempt.run
  Logged.emit (outcomeEvent s mode result)
  return result

/-- Makes a fresh bundle. -/
def create (f : Factory α π) (s : BundleSpec) : Attempt Error (Bundle π) :=
  concluded s .create (f.build s none)

/-- Makes a bundle from a checkpoint. -/
def restore (f : Factory α π) (s : BundleSpec) (c : Checkpoint) : Attempt Error (Bundle π) :=
  concluded s .restore (f.build s (some c))

/-- Makes a bundle from the document of a checkpoint. -/
def restoreBytes (f : Factory α π) (s : BundleSpec) (text : Bytes) : Attempt Error (Bundle π) :=
  concluded s .restore do
    let c ← ExceptT.mk (Except.mapError Error.state <$> (Checkpoint.ofBytes text).run)
    f.build s (some c)

end Factory

end SharedBudget
