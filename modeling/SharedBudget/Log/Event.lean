/-
# Log events

Operations do not write log lines.  They return the events that they caused
beside their result (`Logged`), in the order in which these happened; which of
them become lines, and how, is decided elsewhere (`SharedBudget.Log.Line`).
-/

import SharedBudget.Binary.Format

namespace SharedBudget
namespace Log

/-- How severe an event is. -/
inductive Severity where
  | error
  | warn
  | info
  | debug
  | trace
deriving DecidableEq, Repr

/-- The rank of a severity: the more detailed, the higher. -/
def Severity.rank : Severity → Nat
  | .error => 1
  | .warn => 2
  | .info => 3
  | .debug => 4
  | .trace => 5

/-- The value of a field. -/
inductive FieldValue where
  /-- Text that is shown as it is. -/
  | shown (text : String)
  /-- Text that is shown in quotes. -/
  | quoted (text : String)
  | natural (value : Nat)
  | float (value : Double)
  | boolean (value : Bool)
deriving DecidableEq

/-- Something that happened. -/
structure Event where
  severity : Severity
  /-- The part of the program in which it happened. -/
  target : String
  message : String
  fields : List (String × FieldValue) := []
deriving DecidableEq

end Log

/-- A value, and the events that led to it. -/
structure Logged (α : Type) where
  value : α
  events : List Log.Event := []

namespace Logged

instance : Monad Logged where
  pure x := ⟨x, []⟩
  bind x f := ⟨(f x.value).value, x.events ++ (f x.value).events⟩

/-- The event alone. -/
def emit (e : Log.Event) : Logged Unit := ⟨(), [e]⟩

@[simp] theorem value_pure {α : Type} (x : α) : (pure x : Logged α).value = x := rfl

@[simp] theorem events_pure {α : Type} (x : α) : (pure x : Logged α).events = [] := rfl

@[simp] theorem value_bind {α β : Type} (x : Logged α) (f : α → Logged β) :
    (x >>= f).value = (f x.value).value := rfl

@[simp] theorem events_bind {α β : Type} (x : Logged α) (f : α → Logged β) :
    (x >>= f).events = x.events ++ (f x.value).events := rfl

end Logged

/-- A computation that may fail with an error of type `ε`, and logs either way. -/
abbrev Attempt (ε : Type) := ExceptT ε Logged

/-- The event alone, as part of an attempt. -/
def Attempt.emit {ε : Type} (e : Log.Event) : Attempt ε Unit := ExceptT.lift (Logged.emit e)

/-- The outcome of an attempt. -/
def Attempt.outcome {ε α : Type} (x : Attempt ε α) : Except ε α := x.run.value

/-- The events of an attempt. -/
def Attempt.events {ε α : Type} (x : Attempt ε α) : List Log.Event := x.run.events

end SharedBudget
