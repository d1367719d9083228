/-
# Refused operations

A group or a peer is refused for a reason that can be told beforehand, from the width
of the group, the fit of the peer and the counters; past these checks nothing can
fail.  So what is refused leaves the bundle as it was, and a program is answered the
same if the calls that fail are left out of it (`Bundle.refused_leaves_no_trace`).

Leaving out a call that fails can leave a bundle where the call would have used it
up: a peer that is refused, or a bundle that is asked too early for its report.  So
the run with these calls holds *within* the run without them: what is in a place in
the one is there in the other.
-/

import SharedBudget.Proofs.Bundle.Program

namespace SharedBudget

/-! ## One operation -/

namespace Bundle

variable {b peer : Bundle PrivateSum}

theorem eq_of_accumulate_error (b : Bundle PrivateSum) (inputs : List Double) (e : Error)
    (h : (b.accumulate inputs).value.2 = .error e) : (b.accumulate inputs).value.1 = b := by
  rcases b.accumulate_cases inputs with ⟨_, hvalue⟩ | ⟨_, e', hvalue⟩
  · rw [hvalue] at h
    cases h
  · rw [hvalue]

theorem eq_of_merge_error (b peer : Bundle PrivateSum) (e : Error)
    (h : (b.merge peer).value.2 = .error e) : (b.merge peer).value.1 = b := by
  rcases b.merge_cases peer with ⟨_, hvalue⟩ | ⟨_, e', hvalue⟩
  · rw [hvalue] at h
    cases h
  · rw [hvalue]

end Bundle

namespace Program

variable {places places' : Places} {i : ℕ} {h : Held}

/-! ## Holding more -/

/-- What the first program holds, the second one holds in the same place. -/
def Places.Within (places places' : Places) : Prop :=
  ∀ i h, places i = some h → places' i = some h

theorem Places.Within.refl (places : Places) : Places.Within places places := fun _ _ h => h

theorem Places.Within.trans {places'' : Places} (hw : Places.Within places places')
    (hw' : Places.Within places' places'') : Places.Within places places'' :=
  fun i h hh => hw' i h (hw i h hh)

theorem Places.Within.update (hw : Places.Within places places') (i : ℕ) (held : Option Held) :
    Places.Within (Function.update places i held) (Function.update places' i held) :=
  Places.rel_update (R := fun held held' => ∀ h, held = some h → held' = some h) hw i fun _ => id

theorem Places.within_take (places : Places) (i : ℕ) :
    Places.Within (Function.update places i none) places :=
  (Function.forall_update_iff places fun k held => ∀ h, held = some h → places k = some h).2
    ⟨nofun, fun _ _ _ h => h⟩

/-- The two answers are the same, and the second program holds no less than the first. -/
def Agree (x x' : Logged (Answer × Places)) : Prop :=
  x'.value.1 = x.value.1 ∧ Places.Within x.value.2 x'.value.2

/-- A bundle is made, or is not, wherever it is to be put. -/
theorem agree_install (hw : Places.Within places places') (i : ℕ) (f : SumFactory)
    (s : BundleSpec) (making : Attempt Error (Bundle PrivateSum)) :
    Agree (install places i f s making) (install places' i f s making) := by
  unfold Agree
  cases hmade : making.outcome with
  | ok b =>
    rw [install_ok hmade, install_ok hmade]
    exact ⟨rfl, hw.update i _⟩
  | error e =>
    rw [install_error hmade, install_error hmade]
    exact ⟨rfl, hw⟩

theorem agree_putBack (hw : Places.Within places places') (i : ℕ) (h : Held)
    (operation : Logged (Bundle PrivateSum × Except Error Unit)) :
    Agree (putBack places i h operation) (putBack places' i h operation) := by
  unfold Agree
  rw [value_putBack rfl, value_putBack rfl]
  exact ⟨rfl, hw.update i _⟩

/-- A place that answers holds a bundle, and holds the same one in the second program. -/
theorem agree_visit {held held' : Option Held} {work work' : Held → Logged (Answer × Places)}
    (hheld : ∀ h, held = some h → held' = some h)
    (hwork : ∀ h, held = some h → (work h).value.1 ≠ none → Agree (work h) (work' h))
    (hanswer : (visit places held work).value.1 ≠ none) :
    Agree (visit places held work) (visit places' held' work') := by
  cases held with
  | none => exact absurd rfl hanswer
  | some h =>
    rw [hheld h rfl]
    exact hwork h rfl hanswer

/-- **A call that is answered is answered the same** by a program that holds more. -/
theorem agree_act (hw : Places.Within places places') {step : Step}
    (hanswer : (act places step).value.1 ≠ none) : Agree (act places step) (act places' step) := by
  cases step with
  | create i f s => exact agree_install hw i f s _
  | accumulate i inputs =>
    exact agree_visit (hw i) (fun h _ _ => agree_putBack hw i h _) hanswer
  | merge i j =>
    have hothers := hw.update j none
    exact agree_visit (hw j) (fun peer _ => agree_visit (hothers i) fun h _ _ =>
      agree_putBack hothers i h _) hanswer
  | isCompatible i j =>
    exact agree_visit (hw i) (fun h _ => agree_visit (hw j) fun peer _ _ => ⟨rfl, hw⟩) hanswer
  | canReport i => exact agree_visit (hw i) (fun h _ _ => ⟨rfl, hw⟩) hanswer
  | checkpoint i now => exact agree_visit (hw i) (fun h _ _ => ⟨rfl, hw⟩) hanswer
  | report i => exact agree_visit (hw i) (fun h _ _ => ⟨rfl, hw.update i none⟩) hanswer
  | reload i now => exact agree_visit (hw i) (fun h _ _ => agree_install hw i _ _ _) hanswer

/-! ## Failing -/

/-- Whether an answer is there and is a success. -/
def isSuccess : Answer → Bool
  | some (.ok _) => true
  | _ => false

theorem within_visit {held : Option Held} {work : Held → Logged (Answer × Places)}
    (hwork : ∀ h, held = some h → isSuccess (work h).value.1 = false →
      Places.Within (work h).value.2 places)
    (hfailed : isSuccess (visit places held work).value.1 = false) :
    Places.Within (visit places held work).value.2 places := by
  cases held with
  | none => exact .refl places
  | some h => exact hwork h rfl hfailed

theorem within_install {f : SumFactory} {s : BundleSpec}
    {making : Attempt Error (Bundle PrivateSum)}
    (hfailed : isSuccess (install places i f s making).value.1 = false) :
    Places.Within (install places i f s making).value.2 places := by
  cases hmade : making.outcome with
  | ok b =>
    rw [install_ok hmade] at hfailed
    cases hfailed
  | error e =>
    rw [install_error hmade]
    exact .refl places

/-- An operation that leaves the bundle as it is when it fails leaves its place as it is. -/
theorem within_putBack {operation : Logged (Bundle PrivateSum × Except Error Unit)}
    (hi : places i = some h)
    (hsame : ∀ e, operation.value.2 = .error e → operation.value.1 = h.bundle)
    (hfailed : isSuccess (putBack places i h operation).value.1 = false) :
    Places.Within (putBack places i h operation).value.2 places := by
  rw [value_putBack rfl] at hfailed ⊢
  cases hresult : operation.value.2 with
  | ok _ =>
    rw [hresult] at hfailed
    cases hfailed
  | error e =>
    have hback :
        Function.update places i (some { h with bundle := operation.value.1 }) = places := by
      rw [hsame e hresult, ← hi, Function.update_eq_self]
    rw [hback]
    exact .refl places

/-- **A call that fails leaves no bundle that was not there before.** -/
theorem within_act {step : Step} (hfailed : isSuccess (act places step).value.1 = false) :
    Places.Within (act places step).value.2 places := by
  cases step with
  | create i f s => exact within_install hfailed
  | accumulate i inputs =>
    exact within_visit (fun h hh => within_putBack hh (h.bundle.eq_of_accumulate_error inputs))
      hfailed
  | merge i j =>
    have hothers := places.within_take j
    exact within_visit (fun peer _ => within_visit fun h hh hfailed =>
      (within_putBack hh (h.bundle.eq_of_merge_error peer.bundle) hfailed).trans hothers) hfailed
  | isCompatible i j =>
    exact within_visit (fun h _ => within_visit fun peer _ _ => .refl places) hfailed
  | canReport i => exact within_visit (fun h _ _ => .refl places) hfailed
  | checkpoint i now => exact within_visit (fun h _ _ => .refl places) hfailed
  | report i => exact within_visit (fun h _ _ => places.within_take i) hfailed
  | reload i now => exact within_visit (fun h _ => within_install) hfailed

/-! ## Leaving failures out -/

/-- The moments of a run in which a call succeeds. -/
def successes (places : Places) (steps : List Step) : List Moment :=
  (trace places steps).filter fun moment => isSuccess moment.answer

/-- **A run without its failures** has the answers of the run, and holds no less.  The induction
is on the steps: one that succeeds is taken by both runs, and one that fails brings the first
run nothing that the second does not hold. -/
theorem forall₂_trace_successes (hw : Places.Within places places') (steps : List Step) :
    List.Forall₂ (fun moment moment' => moment'.step = moment.step ∧
        moment'.answer = moment.answer ∧ Places.Within moment.places moment'.places)
      (successes places steps) (trace places' ((successes places steps).map (·.step))) := by
  induction steps generalizing places places' with
  | nil => exact .nil
  | cons step steps ih =>
    cases hanswer : isSuccess (act places step).value.1 with
    | true =>
      have hsome : (act places step).value.1 ≠ none := by
        intro hnone
        rw [hnone] at hanswer
        cases hanswer
      have hagree := agree_act hw hsome
      have hstep : successes places (step :: steps) =
          ⟨step, (act places step).value.1, (act places step).value.2⟩ ::
            successes (act places step).value.2 steps := List.filter_cons_of_pos hanswer
      rw [hstep, List.map_cons, trace]
      exact .cons ⟨rfl, hagree⟩ (ih hagree.2)
    | false =>
      have hstep : successes places (step :: steps) =
          successes (act places step).value.2 steps :=
        List.filter_cons_of_neg (by rw [hanswer]; exact Bool.false_ne_true)
      rw [hstep]
      exact ih ((within_act hanswer).trans hw)

end Program

namespace Bundle

open Program

/-- The answer to a group: its width is checked before the counter. -/
theorem accumulate_answer (b : Bundle PrivateSum) (inputs : List Double) :
    (b.accumulate inputs).value.2 =
      if inputs.length ≠ b.inputsPerMechanism.sum then
        .error (.inputCount b.inputsPerMechanism.sum inputs.length)
      else if b.total.toNat = 2 ^ 64 - 1 then .error (.counterOverflow b.total 1)
      else .ok () := by
  have hword := b.total.toNat_lt
  rw [value_accumulate, show b.expectedInputs = b.inputsPerMechanism.sum from rfl]
  split
  · rfl
  · by_cases hfull : b.total.toNat = 2 ^ 64 - 1
    · rw [if_neg (by omega), if_pos hfull]
    · rw [if_pos (by omega), if_neg hfull]

/-- The answer to a peer that fits depends on the counters alone. -/
theorem merge_answer {b peer : Bundle PrivateSum} (h : b.isCompatible peer) :
    (b.merge peer).value.2 =
      if 2 ^ 64 - 1 < b.total.toNat + peer.total.toNat then
        .error (.counterOverflow b.total peer.total)
      else .ok () := by
  have hfits : b.incompatibility? peer = none := by simpa [isCompatible] using h
  rw [value_merge, hfits]
  by_cases hfull : 2 ^ 64 - 1 < b.total.toNat + peer.total.toNat
  · rw [if_pos hfull]
    simp only [if_neg (show ¬b.total.toNat + peer.total.toNat < 2 ^ 64 by omega)]
  · rw [if_neg hfull]
    simp only [if_pos (show b.total.toNat + peer.total.toNat < 2 ^ 64 by omega)]

/-- A peer is called incompatible exactly if it is. -/
theorem exists_incompatible_iff (b peer : Bundle PrivateSum) :
    (∃ reason, (b.merge peer).value.2 = .error (.incompatible reason)) ↔
      b.isCompatible peer = false := by
  cases hfits : b.incompatibility? peer with
  | some reason => simp [value_merge, isCompatible, hfits]
  | none =>
    have hcompatible : b.isCompatible peer := by simp [isCompatible, hfits]
    rw [merge_answer hcompatible, hcompatible]
    split <;> simp

/-- **What is refused leaves no trace.**  A group is refused for its width, or else for a full
counter, and otherwise taken in.  A peer is refused if it is not compatible, or else if the two
counters together overflow, and otherwise merged.  Whatever the error, the bundle is what it
was.  So if all calls that fail are left out of a run, the others are answered as before, and the
bundles that they leave are the same. -/
theorem refused_leaves_no_trace (b peer : Bundle PrivateSum) (inputs : List Double)
    (places : Places) (steps : List Step) :
    ((b.accumulate inputs).value.2 =
      if inputs.length ≠ b.inputsPerMechanism.sum then
        .error (.inputCount b.inputsPerMechanism.sum inputs.length)
      else if b.total.toNat = 2 ^ 64 - 1 then .error (.counterOverflow b.total 1)
      else .ok ()) ∧
    (∀ e, (b.accumulate inputs).value.2 = .error e → (b.accumulate inputs).value.1 = b) ∧
    ((∃ reason, (b.merge peer).value.2 = .error (.incompatible reason)) ↔
      b.isCompatible peer = false) ∧
    (b.isCompatible peer → (b.merge peer).value.2 =
      if 2 ^ 64 - 1 < b.total.toNat + peer.total.toNat then
        .error (.counterOverflow b.total peer.total)
      else .ok ()) ∧
    (∀ e, (b.merge peer).value.2 = .error e → (b.merge peer).value.1 = b) ∧
    List.Forall₂ (fun moment moment' => moment'.step = moment.step ∧
        moment'.answer = moment.answer ∧ Places.Within moment.places moment'.places)
      (successes places steps) (trace places ((successes places steps).map (·.step))) :=
  ⟨b.accumulate_answer inputs, b.eq_of_accumulate_error inputs, b.exists_incompatible_iff peer,
    merge_answer, b.eq_of_merge_error peer, forall₂_trace_successes (.refl places) steps⟩

end Bundle
end SharedBudget
