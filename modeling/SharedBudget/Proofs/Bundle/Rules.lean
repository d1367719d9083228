/-
# The first broken rule

Making a bundle checks rules in a fixed order (`Rule.inOrder`): two on the
factory and the number of mechanisms, two on the checkpoint, three for every
mechanism, five on the parameters.  Whether a rule is broken, and with what error,
is a matter of that rule alone (`Factory.breach`).  A bundle is made exactly if no
rule is broken; otherwise the error is that of the first broken rule, whatever
others are broken as well (`Factory.make_eq_first_breach`).

The proof goes along the computation.  A computation obeys a list of rules if it
fails by the first of them that is broken, and succeeds if none is; one step after
another obeys the rules of the one before those of the other (`Obeys.bind`).
-/

import SharedBudget.Proofs.Budget.Shares

namespace SharedBudget

/-! ## Computations that check rules -/

/-- The error unless the condition holds. -/
def errorUnless {ε : Type} (condition : Prop) [Decidable condition] (e : ε) : Option ε :=
  if condition then none else some e

theorem errorUnless_congr {ε : Type} {p q : Prop} [Decidable p] [Decidable q] {e : ε}
    (h : p ↔ q) : errorUnless p e = errorUnless q e := by
  unfold errorUnless
  simp only [h]

theorem errorUnless_eq_some_iff {ε : Type} {p : Prop} [Decidable p] {e e' : ε} :
    errorUnless p e = some e' ↔ ¬p ∧ e = e' := by
  unfold errorUnless
  by_cases h : p <;> simp [h]

section Obeys

variable {ρ ε β γ : Type} {breach : ρ → Option ε} {rule : ρ} {rules more : List ρ}
  {x : Except ε β}

/-- The error of a computation that fails. -/
def errorOf? : Except ε β → Option ε
  | .ok _ => none
  | .error e => some e

/-- The computation fails by the first of these rules that is broken, and succeeds if none is. -/
def Obeys (breach : ρ → Option ε) (rules : List ρ) (x : Except ε β) : Prop :=
  rules.findSome? breach = errorOf? x

theorem Obeys.ok (a : β) : Obeys breach [] (.ok a : Except ε β) := rfl

theorem Obeys.single (h : breach rule = errorOf? x) : Obeys breach [rule] x := by
  rw [Obeys, List.findSome?_singleton, h]

/-- A rule that is checked, and what is done if it holds. -/
theorem Obeys.check (condition : Prop) [Decidable condition] {e : ε}
    (h : breach rule = errorUnless condition e) (hnext : condition → Obeys breach more x) :
    Obeys breach (rule :: more) (if condition then x else .error e) := by
  rw [Obeys, List.findSome?_cons, h]
  by_cases hc : condition
  · rw [errorUnless, if_pos hc, if_pos hc]
    exact hnext hc
  · rw [errorUnless, if_neg hc, if_neg hc]
    rfl

theorem Obeys.bind {next : β → Except ε γ} (hx : Obeys breach rules x)
    (hnext : ∀ a, x = .ok a → Obeys breach more (next a)) :
    Obeys breach (rules ++ more) (x >>= next) := by
  unfold Obeys at hx ⊢
  rw [List.findSome?_append, hx]
  cases x with
  | error e => rfl
  | ok a => exact hnext a rfl

theorem Obeys.bind_ok (hx : Obeys breach rules x) (g : β → γ) :
    Obeys breach rules (x >>= fun a => .ok (g a)) := by
  rw [← List.append_nil rules]
  exact hx.bind fun a _ => .ok (g a)

theorem Obeys.exists_eq_ok_iff (hx : Obeys breach rules x) :
    (∃ a, x = .ok a) ↔ ∀ rule ∈ rules, breach rule = none := by
  rw [← List.findSome?_eq_none_iff, hx]
  cases x <;> simp [errorOf?]

theorem Obeys.eq_error_iff (hx : Obeys breach rules x) (e : ε) :
    x = .error e ↔ rules.findSome? breach = some e := by
  rw [hx]
  cases x <;> simp [errorOf?]

/-- A computation that fails by the first broken rule fails by a broken rule. -/
theorem Obeys.exists_breach (hx : Obeys breach rules x) {e : ε} (he : x = .error e) :
    ∃ rule ∈ rules, breach rule = some e :=
  List.exists_of_findSome?_eq_some ((hx.eq_error_iff e).1 he)

end Obeys

/-! ## The rules -/

/-- A rule that is checked when a bundle is made. -/
inductive Rule where
  /-- The threshold is finite and positive. -/
  | threshold
  /-- There is a mechanism. -/
  | nonempty
  /-- The checkpoint has one entry per mechanism. -/
  | entryCount
  /-- The checkpoint is valid. -/
  | validCheckpoint
  /-- Entry `index` is that of the mechanism, or nobody's. -/
  | owner (index : ℕ)
  /-- Mechanism `index` can be made. -/
  | resolved (index : ℕ)
  /-- Mechanism `index` promises privacy. -/
  | promisesPrivacy (index : ℕ)
  /-- There are two parameters. -/
  | parameterCount
  | numericEpsilon
  | numericDelta
  | positiveEpsilon
  /-- Delta is at least zero and less than one. -/
  | deltaRange
deriving DecidableEq

namespace Rule

/-- The rules for a mechanism. -/
def ofMechanism (index : ℕ) : List Rule := [owner index, resolved index, promisesPrivacy index]

/-- The rules for the parameters. -/
def ofParameters : List Rule :=
  [parameterCount, numericEpsilon, numericDelta, positiveEpsilon, deltaRange]

/-- All rules for a bundle of `mechanisms` many mechanisms, in the order in which they are
checked. -/
def inOrder (mechanisms : ℕ) : List Rule :=
  [threshold, nonempty, entryCount, validCheckpoint] ++
    (List.range mechanisms).flatMap ofMechanism ++ ofParameters

end Rule

namespace Factory

variable {α π : Type}

/-- The entry for mechanism `index`, if there is a checkpoint. -/
def entryAt (c : Option Checkpoint) (index : ℕ) : Option Checkpoint.Entry :=
  c.bind (·.entries[index]?)

/-- What comes of a mechanism's specification, with an entry if there is one. -/
def attempted (f : Factory α π) (m : MechanismSpec) : Option Checkpoint.Entry → Except Error α
  | none => f.registry.create m
  | some e => f.registry.restore m e.blob

/-- The error of a rule that is broken.  A rule about something that is not there is not
broken. -/
def breach (f : Factory α π) (s : BundleSpec) (c : Option Checkpoint) : Rule → Option Error
  | .threshold =>
    errorUnless (f.threshold.isFinite ∧ (Binary.zero .double false).lt f.threshold)
      (.config (.threshold f.threshold))
  | .nonempty => errorUnless (s.nested ≠ []) .emptyNestedSpecs
  | .entryCount => do
    let c ← c
    errorUnless (c.entries.length = s.nested.length)
      (.stateMismatch (.entryCount s.nested.length c.entries.length))
  | .validCheckpoint => do
    match (← c).check with
    | .ok () => none
    | .error e => some (.state e)
  | .owner i => do
    let m ← s.nested[i]?
    let tag ← (← entryAt c i).identifier
    errorUnless (tag = m.identifier) (.stateMismatch (.owner i tag m.identifier))
  | .resolved i => do
    let m ← s.nested[i]?
    match f.attempted m (entryAt c i) with
    | .ok _ => none
    | .error e => some (.resolution i m.identifier e.message)
  | .promisesPrivacy i => do
    let m ← s.nested[i]?
    let made ← (f.attempted m (entryAt c i)).toOption
    errorUnless (f.asPrivate? made).isSome (.notDifferentiallyPrivate i m.identifier)
  | .parameterCount =>
    errorUnless (s.parameters.length = 2) (.parameterCount s.parameters.length)
  | .numericEpsilon => do
    let p ← s.parameters[0]?
    errorUnless p.dataType.isNumeric (.nonNumericParameter "epsilon" p.dataType)
  | .numericDelta => do
    let p ← s.parameters[1]?
    errorUnless p.dataType.isNumeric (.nonNumericParameter "delta" p.dataType)
  | .positiveEpsilon => do
    let x ← (← s.parameters[0]?).toDouble?
    errorUnless (x.isNaN = false ∧ (Binary.zero .double false).lt x) (.nonPositiveEpsilon x)
  | .deltaRange => do
    let x ← (← s.parameters[1]?).toDouble?
    errorUnless ((Binary.zero .double false).le x ∧ x.lt (.ofNat .double 1)) (.deltaOutOfRange x)

variable {f : Factory α π} {s : BundleSpec} {c : Option Checkpoint}

/-! ## The checks one by one -/

theorem obeys_threshold : Obeys (f.breach s c) [.threshold]
    ((Config.checkThreshold f.threshold).mapError Error.config) := by
  have hcheck : (Config.checkThreshold f.threshold).mapError Error.config =
      if f.threshold.isFinite && (Binary.zero .double false).lt f.threshold then .ok ()
      else .error (.config (.threshold f.threshold)) := by
    unfold Config.checkThreshold
    split <;> rfl
  rw [hcheck]
  exact .check _ (errorUnless_congr Bool.and_eq_true_iff.symm) fun _ => .ok ()

theorem obeys_nonempty : Obeys (f.breach s c) [.nonempty]
    (if s.nested ≠ [] then .ok () else .error .emptyNestedSpecs) :=
  .check _ rfl fun _ => .ok ()

theorem obeys_pairs : Obeys (f.breach s c) [.entryCount, .validCheckpoint] (pairs s c).outcome := by
  cases c with
  | none => exact rfl
  | some c =>
    rw [outcome_pairs_some]
    refine .check _ rfl fun _ => .bind_ok (.single ?_) _
    change (match c.check with
      | .ok () => none
      | .error e => some (Error.state e)) = _
    cases c.check <;> rfl

/-- One mechanism, whatever comes of its specification. -/
theorem obeys_place {i : ℕ} {m : MechanismSpec} (hm : s.nested[i]? = some m) :
    Obeys (f.breach s c) [.resolved i, .promisesPrivacy i]
      (f.place i m (f.attempted m (entryAt c i))) := by
  simp only [Obeys, List.findSome?_cons, List.findSome?_nil, breach, hm, Option.bind_eq_bind,
    Option.bind_some, place]
  cases f.attempted m (entryAt c i) with
  | error e => rfl
  | ok made =>
    simp only [Except.toOption, Option.bind_some]
    cases f.asPrivate? made <;> rfl

theorem obeys_owner {i : ℕ} {m : MechanismSpec} {e : Checkpoint.Entry} (hm : s.nested[i]? = some m)
    (he : entryAt c i = some e) : Obeys (f.breach s c) [.owner i] (checkOwner i m e) := by
  refine .single ?_
  simp only [breach, hm, he, Option.bind_eq_bind, Option.bind_some, checkOwner]
  cases e.identifier with
  | none => rfl
  | some tag =>
    change errorUnless _ _ = errorOf? (if _ then _ else _)
    unfold errorUnless
    split <;> rfl

theorem obeys_resolve {i : ℕ} {m : MechanismSpec} (hm : s.nested[i]? = some m) :
    Obeys (f.breach s c) (Rule.ofMechanism i) (f.resolve i m (entryAt c i)) := by
  have hplace := obeys_place (f := f) (c := c) hm
  cases he : entryAt c i with
  | none =>
    rw [resolve_none]
    rw [he] at hplace
    -- Without an entry there is no owner, so the rule about it cannot be broken.
    have howner : f.breach s c (.owner i) = none := by simp [breach, hm, he]
    rw [Obeys, Rule.ofMechanism, List.findSome?_cons, howner]
    exact hplace
  | some e =>
    rw [resolve_some]
    rw [he] at hplace
    exact (obeys_owner hm he).bind fun _ _ => hplace

/-- The mechanisms one after the other.  The induction is on those still to be made, the first of
which has number `index`. -/
theorem obeys_resolveAll {ps : List (MechanismSpec × Option Checkpoint.Entry)} {index : ℕ}
    (hps : ∀ i pair, ps[i]? = some pair →
      s.nested[index + i]? = some pair.1 ∧ pair.2 = entryAt c (index + i)) :
    Obeys (f.breach s c) ((List.range' index ps.length).flatMap Rule.ofMechanism)
      (f.resolveAll index ps).outcome := by
  induction ps generalizing index with
  | nil => exact rfl
  | cons pair ps ih =>
    obtain ⟨m, entry⟩ := pair
    have hfirst := hps 0 (m, entry) rfl
    rw [Nat.add_zero] at hfirst
    obtain ⟨hm, rfl⟩ := hfirst
    have hmore := @ih (index + 1) fun i pair hpair => by
      rw [Nat.add_assoc, Nat.add_comm 1]
      exact hps (i + 1) pair hpair
    rw [outcome_resolveAll_cons, List.length_cons, List.range'_succ, List.flatMap_cons]
    exact (obeys_resolve hm).bind fun slot _ => hmore.bind_ok (slot :: ·)

/-- A parameter is a number if its type is one of numbers. -/
theorem obeys_numeric {rule : Rule} {name : String} {p : Parameter}
    (h : f.breach s c rule =
      errorUnless p.dataType.isNumeric (.nonNumericParameter name p.dataType)) :
    Obeys (f.breach s c) [rule] (Budget.numeric name p) := by
  refine .single ?_
  rw [h, ← p.isSome_toDouble?, Budget.numeric, errorUnless]
  cases p.toDouble? <;> rfl

/-- A number above zero is not a NaN, so nothing else has to be checked. -/
theorem isEpsilon_iff {x : Double} :
    Budget.isEpsilon x ↔ x.isNaN = false ∧ (Binary.zero .double false).lt x :=
  ⟨fun h => ⟨(Budget.negative_of_zero_lt h).1, h⟩, fun h => h.2⟩

theorem isDelta_iff {x : Double} : Budget.isDelta x ↔
    (Binary.zero .double false).le x ∧ x.lt (.ofNat .double 1) := by
  rw [Budget.isDelta, Bool.and_eq_true]

theorem obeys_parameters :
    Obeys (f.breach s c) Rule.ofParameters (Budget.ofParameters s.parameters) := by
  have hcount : Budget.ofParameters s.parameters =
      if s.parameters.length = 2 then Budget.ofParameters s.parameters
      else .error (.parameterCount s.parameters.length) := by
    split
    · rfl
    · unfold Budget.ofParameters
      split
      · simp_all
      · rfl
  rw [hcount]
  refine .check _ rfl fun htwo => ?_
  obtain ⟨e, d, hp⟩ := List.length_eq_two.1 htwo
  rw [hp]
  refine (obeys_numeric (by simp [breach, hp])).bind fun epsilon hepsilon => ?_
  refine (obeys_numeric (by simp [breach, hp])).bind fun delta hdelta => ?_
  rw [Budget.numeric_eq_ok_iff] at hepsilon hdelta
  refine .check (Budget.isEpsilon epsilon) ?_ fun _ =>
    .check (Budget.isDelta delta) ?_ fun _ => .ok _
  · rw [errorUnless_congr isEpsilon_iff]
    simp [breach, hp, hepsilon]
  · rw [errorUnless_congr isDelta_iff]
    simp [breach, hp, hdelta]

/-! ## The whole -/

/-- Makes a bundle, from a checkpoint if there is one. -/
def make (f : Factory α π) (s : BundleSpec) : Option Checkpoint → Attempt Error (Bundle π)
  | none => f.create s
  | some c => f.restore s c

theorem outcome_make : (f.make s c).outcome = (f.build s c).outcome := by
  cases c <;> rfl

/-- The checks of the factory, one after the other. -/
theorem outcome_build : (f.build s c).outcome =
    (Config.checkThreshold f.threshold).mapError Error.config >>= fun _ =>
      (if s.nested ≠ [] then .ok () else .error .emptyNestedSpecs) >>= fun _ =>
        (pairs s c).outcome >>= fun ps =>
          (f.resolveAll 0 ps).outcome >>= fun slots =>
            Budget.ofParameters s.parameters >>= fun x =>
              (Budget.split x.1 x.2 s.nested.length f.threshold).outcome >>= fun budget =>
                .ok { slots, budget, total := (c.map (·.total)).getD 0 } := by
  unfold build
  cases Config.checkThreshold f.threshold with
  | error e => rfl
  | ok _ =>
    by_cases hn : s.nested = []
    · simp [hn, Except.mapError]
    · have hempty : s.nested.isEmpty = false := by simpa using hn
      cases Budget.ofParameters s.parameters <;> simp [hn, hempty, Except.mapError]

/-- A mechanism and its entry are at the same place. -/
theorem getElem?_pairs {ps : List (MechanismSpec × Option Checkpoint.Entry)}
    (h : (pairs s c).outcome = .ok ps) (i : ℕ) :
    ps[i]? = s.nested[i]?.map fun m => (m, entryAt c i) := by
  cases c with
  | none =>
    obtain rfl := Except.ok.inj h
    exact List.getElem?_map ..
  | some c =>
    obtain ⟨hlength, _, rfl⟩ := pairs_some_eq_ok_iff.1 h
    rw [List.zip, List.getElem?_zipWith, List.getElem?_map]
    change _ = s.nested[i]?.map fun m => (m, c.entries[i]?)
    rcases Nat.lt_or_ge i s.nested.length with hi | hi
    · rw [List.getElem?_eq_getElem hi, List.getElem?_eq_getElem (hlength ▸ hi)]
      rfl
    · rw [List.getElem?_eq_none hi]
      rfl

theorem map_fst_pairs {ps : List (MechanismSpec × Option Checkpoint.Entry)}
    (h : (pairs s c).outcome = .ok ps) : ps.map (·.1) = s.nested := by
  refine List.ext_getElem? fun i => ?_
  rw [List.getElem?_map, getElem?_pairs h, Option.map_map]
  exact Option.map_id'

theorem length_pairs {ps : List (MechanismSpec × Option Checkpoint.Entry)}
    (hps : (pairs s c).outcome = .ok ps) : ps.length = s.nested.length := by
  rw [← map_fst_pairs hps, List.length_map]

theorem getElem?_pairs_eq_some {ps : List (MechanismSpec × Option Checkpoint.Entry)}
    (hps : (pairs s c).outcome = .ok ps) {i : ℕ} {m : MechanismSpec}
    {entry : Option Checkpoint.Entry} (h : ps[i]? = some (m, entry)) :
    s.nested[i]? = some m ∧ entry = entryAt c i := by
  rw [getElem?_pairs hps] at h
  obtain ⟨m', hm, h⟩ := Option.map_eq_some_iff.1 h
  cases h
  exact ⟨hm, rfl⟩

/-- Making a bundle obeys the rules in their order. -/
theorem obeys_make : Obeys (f.breach s c) (Rule.inOrder s.nested.length) (f.make s c).outcome := by
  have horder : Rule.inOrder s.nested.length = [.threshold] ++ ([.nonempty] ++
      ([.entryCount, .validCheckpoint] ++
        ((List.range' 0 s.nested.length).flatMap Rule.ofMechanism ++ Rule.ofParameters))) := by
    rw [← List.range_eq_range']
    exact List.append_assoc ..
  rw [outcome_make, outcome_build, horder]
  -- The order of the rules is that of the steps, so each step takes its rules off the list.
  refine obeys_threshold.bind fun _ _ => obeys_nonempty.bind fun _ hnonempty => ?_
  have hn : s.nested.length ≠ 0 := by
    intro h
    rw [List.length_eq_zero_iff.1 h] at hnonempty
    cases hnonempty
  refine obeys_pairs.bind fun ps hps => ?_
  have hlength : s.nested.length = ps.length := (length_pairs hps).symm
  rw [hlength]
  refine (obeys_resolveAll fun i pair hpair => ?_).bind fun slots _ => ?_
  · rw [Nat.zero_add]
    exact getElem?_pairs_eq_some hps hpair
  · rw [← hlength]
    simp only [outcome_split hn, ok_bind]
    exact obeys_parameters.bind_ok _

/-! ## What is made -/

/-- The bundle has the identifiers and the numbers of inputs of the specification, in every place
the mechanism made for it, the shares of the budget, and the counter of the checkpoint. -/
structure Assembled (f : Factory α π) (s : BundleSpec) (c : Option Checkpoint) (b : Bundle π) :
    Prop where
  identifiers_eq : b.identifiers = s.identifiers
  inputs_eq : b.inputsPerMechanism = s.inputCounts
  mechanism_eq : ∀ i : ℕ, b.slots[i]?.map (fun slot => some slot.mechanism) =
    s.nested[i]?.map fun m => (f.attempted m (entryAt c i)).toOption.bind f.asPrivate?
  budget_eq : ∃ epsilon delta, s.parameters.map Parameter.toDouble? = [some epsilon, some delta] ∧
    (Budget.split epsilon delta s.nested.length f.threshold).outcome = .ok b.budget
  total_eq : b.total = (c.map (·.total)).getD 0

theorem Makes.attempted_bind {m : MechanismSpec} {entry : Option Checkpoint.Entry} {slot : Slot π}
    (h : f.Makes m entry slot) :
    (f.attempted m entry).toOption.bind f.asPrivate? = some slot.mechanism := by
  obtain ⟨made, hplace, hmade⟩ := h.exists_made
  have hattempted : f.attempted m entry = .ok made := by
    cases entry with
    | none => exact hmade
    | some e => exact hmade.2
  rw [hattempted]
  exact hplace

theorem assembled_of_make {b : Bundle π} (h : (f.make s c).outcome = .ok b) :
    f.Assembled s c b := by
  rw [outcome_make, build_eq_ok_iff] at h
  obtain ⟨⟨_, hn, epsilon, delta, hparameters, hbudget⟩, htotal, ps, hps, hslots⟩ := h
  -- What is made for a mechanism is in its place.
  have hplace {β : Type} (own : Slot π → β) (i : ℕ) (expected : MechanismSpec → β)
      (h : ∀ m slot, f.Makes m (entryAt c i) slot → own slot = expected m) :
      b.slots[i]?.map own = s.nested[i]?.map expected := by
    have hpair := rel_getElem?_of_forall₂ hslots i
    rw [getElem?_pairs hps] at hpair
    generalize s.nested[i]? = m, b.slots[i]? = slot at hpair ⊢
    cases m with
    | none => cases hpair; rfl
    | some m => cases hpair with | some hmakes => exact congrArg some (h m _ hmakes)
  exact {
    identifiers_eq := List.ext_getElem? fun i => by
      rw [Bundle.identifiers, BundleSpec.identifiers, List.getElem?_map, List.getElem?_map]
      exact hplace _ i _ fun _ _ hmakes => hmakes.identifier_eq
    inputs_eq := List.ext_getElem? fun i => by
      rw [Bundle.inputsPerMechanism, BundleSpec.inputCounts, List.getElem?_map, List.getElem?_map]
      exact hplace _ i _ fun _ _ hmakes => hmakes.inputs_eq
    mechanism_eq := fun i => hplace _ i _ fun _ _ hmakes => hmakes.attempted_bind.symm
    budget_eq := by
      refine ⟨epsilon, delta, (Budget.toDouble?_of_ofParameters hparameters).1, ?_⟩
      rw [hbudget]
      exact outcome_split fun h => hn (List.length_eq_zero_iff.1 h)
    total_eq := htotal }

/-- **The first broken rule.**  A bundle is made from a specification, with a checkpoint or
without one, exactly if no rule is broken, and then it is the one to be expected.  Otherwise the
error is that of the first broken rule. -/
theorem make_eq_first_breach (f : Factory α π) (s : BundleSpec) (c : Option Checkpoint) :
    ((∃ b, (f.make s c).outcome = .ok b) ↔
      ∀ rule ∈ Rule.inOrder s.nested.length, f.breach s c rule = none) ∧
    (∀ e, (f.make s c).outcome = .error e ↔
      (Rule.inOrder s.nested.length).findSome? (f.breach s c) = some e) ∧
    (∀ b, (f.make s c).outcome = .ok b → f.Assembled s c b) :=
  ⟨obeys_make.exists_eq_ok_iff, obeys_make.eq_error_iff, fun _ => assembled_of_make⟩

end Factory
end SharedBudget
