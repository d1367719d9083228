/-
# The registry of mechanisms

A registry maps identifiers to makers.  The first registration of an identifier
stays: a second one is refused and changes nothing.
-/

import SharedBudget.Log.Event
import SharedBudget.Mechanism

namespace SharedBudget

/-- The makers under their identifiers, in the order of registration. -/
structure Registry (α : Type) where
  makers : List (String × Maker α) := []

namespace Registry

variable {α : Type}

/-- The maker under an identifier. -/
def maker? (r : Registry α) (identifier : String) : Option (Maker α) :=
  (r.makers.find? (·.1 = identifier)).map (·.2)

/-- Whether an identifier is registered. -/
def contains (r : Registry α) (identifier : String) : Bool :=
  r.makers.any (·.1 = identifier)

/-- The registered identifiers in ascending order. -/
def identifiers (r : Registry α) : List String :=
  (r.makers.map (·.1)).mergeSort fun a b => !decide (b < a)

/-- The event of a registration. -/
def registeredEvent (identifier : String) : Log.Event where
  severity := .debug
  target := "dpb_core::resolver"
  message := "Registered mechanism factory"
  fields := [("identifier", .shown identifier)]

/-- Registers a maker, unless the identifier is taken.  The registry is handed back in every
case. -/
def register (r : Registry α) (identifier : String) (m : Maker α) :
    Logged (Registry α × Except Error Unit) :=
  if r.contains identifier then return (r, .error (.duplicateMechanism identifier))
  else do
    Logged.emit (registeredEvent identifier)
    return ({ makers := r.makers ++ [(identifier, m)] }, .ok ())

/-- The maker under an identifier, or an error. -/
def lookup (r : Registry α) (identifier : String) : Except Error (Maker α) :=
  match r.maker? identifier with
  | some m => .ok m
  | none => .error (.unknownMechanism identifier)

/-- A fresh mechanism for a specification. -/
def create (r : Registry α) (s : MechanismSpec) : Except Error α := do
  (← r.lookup s.identifier).create s

/-- A mechanism for a specification with the state in a blob. -/
def restore (r : Registry α) (s : MechanismSpec) (blob : Bytes) : Except Error α := do
  (← r.lookup s.identifier).restore s blob

end Registry

end SharedBudget
