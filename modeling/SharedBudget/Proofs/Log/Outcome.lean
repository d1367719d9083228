/-
# What an attempt comes to

`Attempt.outcome` forgets the events of an attempt.  It commutes with every way
of putting attempts together, so a statement about outcomes is a statement about
`Except` alone.  The events of two attempts in a row are those of the first, and
those of the second if the first succeeds.
-/

import SharedBudget.Log.Event

namespace SharedBudget
namespace Attempt

variable {ε α β : Type}

@[simp] theorem outcome_pure (a : α) : (pure a : Attempt ε α).outcome = .ok a := rfl

@[simp] theorem outcome_throw (e : ε) : (throw e : Attempt ε α).outcome = .error e := rfl

@[simp] theorem outcome_emit (e : Log.Event) : (emit e : Attempt ε Unit).outcome = .ok () := rfl

@[simp] theorem outcome_mk (x : Logged (Except ε α)) : outcome (ExceptT.mk x) = x.value := rfl

@[simp] theorem outcome_lift (x : Logged α) :
    outcome (ExceptT.lift x : Attempt ε α) = .ok x.value := rfl

/-- An attempt whose error is named otherwise. -/
theorem outcome_mapError {ε' : Type} (g : ε → ε') (x : Attempt ε α) :
    outcome (ExceptT.mk (Except.mapError g <$> x.run)) = x.outcome.mapError g := rfl

@[simp] theorem outcome_bind (x : Attempt ε α) (f : α → Attempt ε β) :
    (x >>= f).outcome = x.outcome >>= fun a => (f a).outcome := by
  change Logged.value (x.run >>= ExceptT.bindCont f) = _
  rw [Logged.value_bind]
  cases h : x.run.value with
  | error e => rw [outcome, h]; rfl
  | ok a => rw [outcome, h]; rfl

@[simp] theorem events_pure (a : α) : (pure a : Attempt ε α).events = [] := rfl

@[simp] theorem events_throw (e : ε) : (throw e : Attempt ε α).events = [] := rfl

@[simp] theorem events_emit (e : Log.Event) : (emit e : Attempt ε Unit).events = [e] := rfl

/-- An attempt whose error is named otherwise. -/
theorem events_mapError {ε' : Type} (g : ε → ε') (x : Attempt ε α) :
    events (ExceptT.mk (Except.mapError g <$> x.run)) = x.events := List.append_nil _

theorem events_bind_of_ok {x : Attempt ε α} {a : α} (h : x.outcome = .ok a)
    (f : α → Attempt ε β) : (x >>= f).events = x.events ++ (f a).events := by
  change Logged.events (x.run >>= ExceptT.bindCont f) = _
  rw [Logged.events_bind]
  change x.run.value = .ok a at h
  rw [h]
  rfl

theorem events_bind_of_error {x : Attempt ε α} {e : ε} (h : x.outcome = .error e)
    (f : α → Attempt ε β) : (x >>= f).events = x.events := by
  change Logged.events (x.run >>= ExceptT.bindCont f) = _
  rw [Logged.events_bind]
  change x.run.value = .error e at h
  rw [h]
  exact List.append_nil _

/-- What is done with a result at the end leaves no events. -/
theorem events_bind_pure (x : Attempt ε α) (g : α → β) :
    (x >>= fun a => pure (g a)).events = x.events := by
  cases h : x.outcome with
  | error e => exact events_bind_of_error h _
  | ok a => rw [events_bind_of_ok h, events_pure, List.append_nil]

end Attempt

@[simp] theorem ok_bind {ε α β : Type} (a : α) (f : α → Except ε β) : Except.ok a >>= f = f a := rfl

@[simp] theorem error_bind {ε α β : Type} (e : ε) (f : α → Except ε β) :
    Except.error e >>= f = .error e := rfl

/-- **A chain of two steps succeeds when both do.** -/
theorem bind_eq_ok_iff {ε α β : Type} {x : Except ε α} {f : α → Except ε β} {b : β} :
    x >>= f = .ok b ↔ ∃ a, x = .ok a ∧ f a = .ok b := by
  cases x with
  | error e => simp [bind, Except.bind]
  | ok a => simp [bind, Except.bind]

/-- A result is mapped when there is one. -/
theorem map_eq_ok_iff {ε α β : Type} {x : Except ε α} {f : α → β} {b : β} :
    f <$> x = .ok b ↔ ∃ a, x = .ok a ∧ f a = b := by
  cases x <;> simp [Functor.map, Except.map]

/-- Naming the error otherwise does not change a success. -/
theorem mapError_eq_ok_iff {ε ε' α : Type} {g : ε → ε'} {x : Except ε α} {a : α} :
    x.mapError g = .ok a ↔ x = .ok a := by
  cases x with
  | error e => exact ⟨nofun, nofun⟩
  | ok x => exact ⟨fun h => congrArg _ (Except.ok.inj h), fun h => congrArg _ (Except.ok.inj h)⟩

/-- What is left of a result when the error is forgotten. -/
theorem toOption_eq_some_iff {ε α : Type} {x : Except ε α} {a : α} :
    x.toOption = some a ↔ x = .ok a := by
  cases x <;> simp [Except.toOption]

theorem bind_toOption_ok (ε : Type) {α : Type} (value : Option α) :
    (value.map (Except.ok : α → Except ε α)).bind Except.toOption = value := by
  cases value <;> rfl

end SharedBudget
