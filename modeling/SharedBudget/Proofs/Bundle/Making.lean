/-
# When a bundle is made

The outcome of making a bundle, without the order of its checks: a bundle is made
exactly if the specification grants a budget (`Factory.Grants`) and every
mechanism can be made (`Factory.Makes`), and then it consists of just these
(`Factory.create_eq_ok_iff`, `Factory.restore_eq_ok_iff`,
`Factory.restoreBytes_eq_ok_iff`).
-/

import SharedBudget.Bundle.Factory
import SharedBudget.Proofs.Log.Outcome
import Mathlib.Data.List.Forall2
import Mathlib.Data.Nat.Notation

namespace SharedBudget

/-- What the relation says about the right member of every pair holds for the whole list. -/
theorem forall_mem_of_forall₂ {α β : Type} {R : α → β → Prop} {P : β → Prop} {xs : List α}
    {ys : List β} (h : List.Forall₂ R xs ys) (hP : ∀ x ∈ xs, ∀ y, R x y → P y) :
    ∀ y ∈ ys, P y := by
  induction h with
  | nil => exact nofun
  | cons hxy _ ih =>
    obtain ⟨hx, hxs⟩ := List.forall_mem_cons.1 hP
    exact List.forall_mem_cons.2 ⟨hx _ hxy, ih hxs⟩

/-- What the relation says to be equal about the members of every pair is equal for the lists. -/
theorem map_eq_map_of_forall₂ {α β γ : Type} {R : α → β → Prop} {g : α → γ} {g' : β → γ}
    {xs : List α} {ys : List β} (h : List.Forall₂ R xs ys) (hR : ∀ x y, R x y → g' y = g x) :
    ys.map g' = xs.map g := by
  induction h with
  | nil => rfl
  | cons hxy _ ih => rw [List.map_cons, List.map_cons, hR _ _ hxy, ih]

/-- A relation between the members of two lists at the same places. -/
theorem rel_getElem?_of_forall₂ {α β : Type} {R : α → β → Prop} {xs : List α} {ys : List β}
    (h : List.Forall₂ R xs ys) (i : ℕ) : Option.Rel R xs[i]? ys[i]? := by
  induction h generalizing i with
  | nil => exact .none
  | cons hxy _ ih =>
    cases i with
    | zero => exact .some hxy
    | succ i => exact ih i

namespace Factory

variable {α π : Type} {f : Factory α π} {s : BundleSpec} {b : Bundle π}

/-- A specification of a mechanism, with an entry of a checkpoint if there is one, makes this
slot: the entry is not another mechanism's, and what is made promises privacy. -/
structure Makes (f : Factory α π) (s : MechanismSpec) (entry : Option Checkpoint.Entry)
    (slot : Slot π) : Prop where
  identifier_eq : slot.identifier = s.identifier
  inputs_eq : slot.inputs = s.inputCount
  exists_made : ∃ made, f.asPrivate? made = some slot.mechanism ∧
    match entry with
    | none => f.registry.create s = .ok made
    | some e => (∀ tag, e.identifier = some tag → tag = s.identifier) ∧
        f.registry.restore s e.blob = .ok made

/-- The threshold is sound, there is a mechanism, and the parameters come to these shares. -/
def Grants (f : Factory α π) (s : BundleSpec) (budget : Budget.Split) : Prop :=
  Config.checkThreshold f.threshold = .ok () ∧ s.nested ≠ [] ∧
    ∃ epsilon delta, Budget.ofParameters s.parameters = .ok (epsilon, delta) ∧
      budget = Budget.shares epsilon delta s.nested.length f.threshold

/-- A specification comes to one budget only. -/
theorem Grants.unique {budget budget' : Budget.Split} (h : f.Grants s budget)
    (h' : f.Grants s budget') : budget = budget' := by
  obtain ⟨_, _, epsilon, delta, hparameters, rfl⟩ := h
  obtain ⟨_, _, epsilon', delta', hparameters', rfl⟩ := h'
  obtain ⟨rfl, rfl⟩ := Prod.mk.inj (Except.ok.inj (hparameters.symm.trans hparameters'))
  rfl

theorem checkOwner_eq_ok_iff {index : ℕ} {m : MechanismSpec} {e : Checkpoint.Entry} :
    checkOwner index m e = .ok () ↔ ∀ tag, e.identifier = some tag → tag = m.identifier := by
  unfold checkOwner
  cases e.identifier with
  | none => simp
  | some tag => by_cases h : tag = m.identifier <;> simp [h]

/-- The slot of a mechanism that is made or has failed to be made. -/
def place (f : Factory α π) (index : ℕ) (m : MechanismSpec) : Except Error α → Except Error (Slot π)
  | .error e => .error (.resolution index m.identifier e.message)
  | .ok made =>
    match f.asPrivate? made with
    | none => .error (.notDifferentiallyPrivate index m.identifier)
    | some mechanism => .ok { identifier := m.identifier, inputs := m.inputCount, mechanism }

theorem place_eq_ok_iff {index : ℕ} {m : MechanismSpec} {made : Except Error α} {slot : Slot π} :
    f.place index m made = .ok slot ↔
      slot.identifier = m.identifier ∧ slot.inputs = m.inputCount ∧
        ∃ x, f.asPrivate? x = some slot.mechanism ∧ made = .ok x := by
  cases made with
  | error e => simp [place]
  | ok x =>
    cases hx : f.asPrivate? x with
    | none => simp [place, hx]
    | some mechanism =>
      obtain ⟨identifier, inputs, own⟩ := slot
      simp [place, hx, eq_comm]

theorem resolve_none (f : Factory α π) (index : ℕ) (m : MechanismSpec) :
    f.resolve index m none = f.place index m (f.registry.create m) := by
  unfold place
  rfl

theorem resolve_some (f : Factory α π) (index : ℕ) (m : MechanismSpec) (e : Checkpoint.Entry) :
    f.resolve index m (some e) =
      checkOwner index m e >>= fun _ => f.place index m (f.registry.restore m e.blob) := by
  unfold place
  rfl

/-- One mechanism is made, whatever its number. -/
theorem resolve_eq_ok_iff {index : ℕ} {m : MechanismSpec} {entry : Option Checkpoint.Entry}
    {slot : Slot π} : f.resolve index m entry = .ok slot ↔ f.Makes m entry slot := by
  cases entry with
  | none =>
    rw [resolve_none, place_eq_ok_iff]
    exact ⟨fun ⟨h1, h2, h3⟩ => ⟨h1, h2, h3⟩, fun h => ⟨h.identifier_eq, h.inputs_eq, h.exists_made⟩⟩
  | some e =>
    rw [resolve_some, bind_eq_ok_iff]
    simp only [place_eq_ok_iff]
    constructor
    · rintro ⟨⟨⟩, howner, h1, h2, x, hx, hm⟩
      exact ⟨h1, h2, x, hx, checkOwner_eq_ok_iff.1 howner, hm⟩
    · rintro ⟨h1, h2, x, hx, htag, hm⟩
      exact ⟨(), checkOwner_eq_ok_iff.2 htag, h1, h2, x, hx, hm⟩

theorem outcome_resolveAll_cons (f : Factory α π) (index : ℕ) (m : MechanismSpec)
    (entry : Option Checkpoint.Entry) (more : List (MechanismSpec × Option Checkpoint.Entry)) :
    (f.resolveAll index ((m, entry) :: more)).outcome =
      f.resolve index m entry >>= fun slot =>
        (f.resolveAll (index + 1) more).outcome >>= fun slots => .ok (slot :: slots) := by
  simp [resolveAll, resolveAll.liftExcept]

/-- All mechanisms are made, each with its entry. -/
theorem resolveAll_eq_ok_iff {pairs : List (MechanismSpec × Option Checkpoint.Entry)} :
    ∀ {index : ℕ} {slots : List (Slot π)}, (f.resolveAll index pairs).outcome = .ok slots ↔
      List.Forall₂ (fun pair slot => f.Makes pair.1 pair.2 slot) pairs slots := by
  induction pairs with
  | nil =>
    intro index slots
    rw [List.forall₂_nil_left_iff]
    simp [resolveAll, eq_comm]
  | cons pair pairs ih =>
    intro index slots
    obtain ⟨m, entry⟩ := pair
    rw [List.forall₂_cons_left_iff]
    simp only [outcome_resolveAll_cons, bind_eq_ok_iff, resolve_eq_ok_iff, ih, Except.ok.injEq]
    constructor
    · rintro ⟨slot, hslot, slots', hslots, rfl⟩
      exact ⟨slot, slots', hslot, hslots, rfl⟩
    · rintro ⟨slot, slots', hslot, hslots, rfl⟩
      exact ⟨slot, hslot, slots', hslots, rfl⟩

theorem outcome_split {epsilon delta threshold : Double} {n : ℕ} (hn : n ≠ 0) :
    (Budget.split epsilon delta n threshold).outcome =
      .ok (Budget.shares epsilon delta n threshold) := by
  unfold Budget.split
  rw [if_neg hn]
  by_cases h : (Budget.shares epsilon delta n threshold).capped <;> simp [h]

/-- What a bundle is made of: the granted budget, the mechanisms, and the counter. -/
theorem build_eq_ok_iff {c : Option Checkpoint} :
    (f.build s c).outcome = .ok b ↔
      f.Grants s b.budget ∧ b.total = (c.map (·.total)).getD 0 ∧
        ∃ ps, (pairs s c).outcome = .ok ps ∧
          List.Forall₂ (fun pair slot => f.Makes pair.1 pair.2 slot) ps b.slots := by
  unfold build Grants
  cases hthreshold : Config.checkThreshold f.threshold with
  | error e => simp
  | ok _ =>
    by_cases hn : s.nested = []
    · simp [hn]
    · have hlength : s.nested.length ≠ 0 := fun h => hn (List.length_eq_zero_iff.1 h)
      have hempty : s.nested.isEmpty = false := by simpa using hn
      cases hparameters : Budget.ofParameters s.parameters with
      | error e => simp [hempty, bind_eq_ok_iff]
      | ok x =>
        obtain ⟨epsilon, delta⟩ := x
        simp only [hempty, Bool.false_eq_true, if_false, Attempt.outcome_bind,
          Attempt.outcome_pure, ok_bind, bind_eq_ok_iff, outcome_split hlength,
          resolveAll_eq_ok_iff, Except.ok.injEq, Prod.mk.injEq]
        constructor
        · rintro ⟨ps, hps, slots, hslots, rfl⟩
          exact ⟨⟨trivial, hn, epsilon, delta, ⟨rfl, rfl⟩, rfl⟩, rfl, ps, hps, hslots⟩
        · rintro ⟨⟨_, _, _, _, ⟨rfl, rfl⟩, hbudget⟩, htotal, ps, hps, hslots⟩
          exact ⟨ps, hps, b.slots, hslots, by rw [← hbudget, ← htotal]⟩

theorem outcome_concluded (mode : Mode) (attempt : Attempt Error (Bundle π)) :
    (concluded s mode attempt).outcome = attempt.outcome := rfl

/-- **A fresh bundle** is made exactly if a budget is granted and every mechanism can be made. -/
theorem create_eq_ok_iff :
    (f.create s).outcome = .ok b ↔ f.Grants s b.budget ∧ b.total = 0 ∧
      List.Forall₂ (fun m slot => f.Makes m none slot) s.nested b.slots := by
  rw [create, outcome_concluded, build_eq_ok_iff]
  simp [pairs, List.forall₂_map_left_iff]

/-- The number of the entries is checked first, and then the checkpoint. -/
theorem outcome_pairs_some (s : BundleSpec) (c : Checkpoint) : (pairs s (some c)).outcome =
    if c.entries.length = s.nested.length then
      c.check.mapError Error.state >>= fun _ => .ok (s.nested.zip (c.entries.map some))
    else .error (.stateMismatch (.entryCount s.nested.length c.entries.length)) := by
  unfold pairs
  by_cases hlength : c.entries.length = s.nested.length
  · simp only [hlength, ne_eq, not_true_eq_false, if_false, if_true, Attempt.outcome_bind,
      Attempt.outcome_mapError, Attempt.outcome_pure]
    rfl
  · simp [hlength]

theorem pairs_some_eq_ok_iff {c : Checkpoint}
    {ps : List (MechanismSpec × Option Checkpoint.Entry)} :
    (pairs s (some c)).outcome = .ok ps ↔ c.entries.length = s.nested.length ∧
      c.check = .ok () ∧ ps = s.nested.zip (c.entries.map some) := by
  rw [outcome_pairs_some]
  by_cases hlength : c.entries.length = s.nested.length
  · rw [if_pos hlength, bind_eq_ok_iff, and_iff_right hlength]
    simp only [mapError_eq_ok_iff, Except.ok.injEq]
    exact ⟨fun ⟨(), h1, h2⟩ => ⟨h1, h2.symm⟩, fun ⟨h1, h2⟩ => ⟨(), h1, h2.symm⟩⟩
  · rw [if_neg hlength]
    exact ⟨nofun, fun h => absurd h.1 hlength⟩

/-- **A bundle is restored from a checkpoint** exactly if a budget is granted, the checkpoint is
valid and has one entry per mechanism, and every mechanism can be made with its entry. -/
theorem restore_eq_ok_iff {c : Checkpoint} :
    (f.restore s c).outcome = .ok b ↔ f.Grants s b.budget ∧ b.total = c.total ∧
      c.entries.length = s.nested.length ∧ c.check = .ok () ∧
        List.Forall₂ (fun pair slot => f.Makes pair.1 (some pair.2) slot)
          (s.nested.zip c.entries) b.slots := by
  rw [restore, outcome_concluded, build_eq_ok_iff]
  simp only [pairs_some_eq_ok_iff, Option.map_some, Option.getD_some, List.zip_map_right]
  constructor
  · rintro ⟨hgrants, htotal, _, ⟨hlength, hcheck, rfl⟩, hslots⟩
    exact ⟨hgrants, htotal, hlength, hcheck, List.forall₂_map_left_iff.1 hslots⟩
  · rintro ⟨hgrants, htotal, hlength, hcheck, hslots⟩
    exact ⟨hgrants, htotal, _, ⟨hlength, hcheck, rfl⟩, List.forall₂_map_left_iff.2 hslots⟩

/-- A bundle is restored from a document exactly if it is restored from the checkpoint in it. -/
theorem restoreBytes_eq_ok_iff {text : Bytes} :
    (f.restoreBytes s text).outcome = .ok b ↔
      ∃ c, Checkpoint.decode text = .ok c ∧ (f.restore s c).outcome = .ok b := by
  rw [restoreBytes, outcome_concluded, Attempt.outcome_bind, bind_eq_ok_iff]
  simp only [Attempt.outcome_mapError, mapError_eq_ok_iff]
  rfl

/-- A bundle that is made in one of the three ways. -/
def Builds (f : Factory α π) (s : BundleSpec) (b : Bundle π) : Prop :=
  (f.create s).outcome = .ok b ∨ (∃ c, (f.restore s c).outcome = .ok b) ∨
    ∃ text, (f.restoreBytes s text).outcome = .ok b

/-- However a bundle is made, its budget is the one that its specification grants. -/
theorem Builds.grants (h : f.Builds s b) : f.Grants s b.budget := by
  rcases h with h | ⟨c, h⟩ | ⟨text, h⟩
  · exact (create_eq_ok_iff.1 h).1
  · exact (restore_eq_ok_iff.1 h).1
  · obtain ⟨c, _, hc⟩ := restoreBytes_eq_ok_iff.1 h
    exact (restore_eq_ok_iff.1 hc).1

end Factory
end SharedBudget
