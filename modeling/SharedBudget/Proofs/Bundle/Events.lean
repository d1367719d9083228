/-
# What the log tells of making a bundle

The events of making a bundle are a function of what it comes to
(`Factory.trace`): whoever knows the outcome, the specification, the threshold
and the mode knows every event, and needs neither the registry nor the
checkpoint.  `Factory.events_make_eq_trace` says so, and what the parts of the
trace stand for: the warning of a wrong digest for a check of the checkpoint that
was reached and ended so, the events of mechanisms for those that passed before
the first broken rule, the warning of a capped share for a bundle with such a
share, the last event for the bundle or the error that is returned.  The trace
spells out the severity, the target, the message and the fields of every event.

What links the two is that an error tells the rule that is broken
(`Factory.rule?_of_breach`), and a rule the number of mechanisms made before it is
checked.  `Factory.Course` lists the four courses that making a bundle can take.
-/

import SharedBudget.Proofs.Bundle.Rules

namespace SharedBudget

/-! ## What an error tells -/

namespace Rule

/-- The rules that are checked before the first mechanism. -/
def beforeMechanisms : List Rule := [threshold, nonempty, entryCount, validCheckpoint]

/-- The number of mechanisms, out of `mechanisms` many, that are made before a rule is checked. -/
def mechanismsBefore (mechanisms : ℕ) : Rule → ℕ
  | threshold | nonempty | entryCount | validCheckpoint => 0
  | owner index | resolved index | promisesPrivacy index => index
  | parameterCount | numericEpsilon | numericDelta | positiveEpsilon | deltaRange => mechanisms

theorem mechanismsBefore_of_mem_beforeMechanisms {mechanisms : ℕ} {rule : Rule}
    (h : rule ∈ beforeMechanisms) : rule.mechanismsBefore mechanisms = 0 := by
  simp only [beforeMechanisms, List.mem_cons, List.not_mem_nil, or_false] at h
  rcases h with rfl | rfl | rfl | rfl <;> rfl

theorem mechanismsBefore_of_mem_ofMechanism {mechanisms index : ℕ} {rule : Rule}
    (h : rule ∈ ofMechanism index) : rule.mechanismsBefore mechanisms = index := by
  simp only [ofMechanism, List.mem_cons, List.not_mem_nil, or_false] at h
  rcases h with rfl | rfl | rfl <;> rfl

theorem mechanismsBefore_of_mem_ofParameters {mechanisms : ℕ} {rule : Rule}
    (h : rule ∈ ofParameters) : rule.mechanismsBefore mechanisms = mechanisms := by
  simp only [ofParameters, List.mem_cons, List.not_mem_nil, or_false] at h
  rcases h with rfl | rfl | rfl | rfl | rfl <;> rfl

end Rule

/-- The rule that is broken, if the error is one of making a bundle. -/
def Error.rule? : Error → Option Rule
  | .config _ => some .threshold
  | .emptyNestedSpecs => some .nonempty
  | .stateMismatch (.entryCount _ _) => some .entryCount
  | .state _ => some .validCheckpoint
  | .stateMismatch (.owner index _ _) => some (.owner index)
  | .resolution index _ _ => some (.resolved index)
  | .notDifferentiallyPrivate index _ => some (.promisesPrivacy index)
  | .parameterCount _ => some .parameterCount
  | .nonNumericParameter name _ =>
    if name = "epsilon" then some .numericEpsilon else some .numericDelta
  | .nonPositiveEpsilon _ => some .positiveEpsilon
  | .deltaOutOfRange _ => some .deltaRange
  | _ => none

/-- The warning of a wrong digest, if that is what went wrong. -/
def Error.warning? : Error → Option Log.Event
  | .state (.checksumMismatch index expected actual) => some {
      severity := .warn
      target := "dpb_state::state"
      message := "Nested state checksum mismatch"
      fields := [("index", .natural index), ("expected", .shown expected),
        ("actual", .shown actual)] }
  | _ => none

theorem Error.warning?_eq_some_iff {e : Error} {index : ℕ} {expected actual : String} :
    e.warning? = some (Checkpoint.mismatchEvent index expected actual) ↔
      e = .state (.checksumMismatch index expected actual) := by
  constructor
  · intro h
    unfold Error.warning? at h
    split at h
    · simp only [Checkpoint.mismatchEvent, Option.some.injEq, Log.Event.mk.injEq, List.cons.injEq,
        Prod.mk.injEq, Log.FieldValue.natural.injEq, Log.FieldValue.shown.injEq, true_and,
        and_true] at h
      obtain ⟨rfl, rfl, rfl⟩ := h
      rfl
    · cases h
  · rintro rfl
    rfl

theorem Error.target_of_warning? {e : Error} {event : Log.Event} (h : e.warning? = some event) :
    event.target = "dpb_state::state" := by
  unfold Error.warning? at h
  split at h
  · cases h
    rfl
  · cases h

namespace Factory

variable {α π β : Type}

/-! ## The trace of an outcome -/

/-- The number of mechanisms, out of `mechanisms` many, that were made on the way to an outcome. -/
def mechanismsMade (mechanisms : ℕ) : Except Error β → ℕ
  | .ok _ => mechanisms
  | .error e => (e.rule?.map (·.mechanismsBefore mechanisms)).getD 0

/-- The warning of a wrong digest, if that is why there is no bundle. -/
def mismatchWarning? (outcome : Except Error β) : Option Log.Event :=
  (errorOf? outcome).bind Error.warning?

/-- The events of the first `k` mechanisms. -/
def resolvedEvents (s : BundleSpec) (mode : Mode) (k : ℕ) : List Log.Event :=
  (s.nested.take k).mapIdx fun index m => {
    severity := .debug
    target := "dpb_core::factory"
    message := "Resolved nested mechanism"
    fields := [("index", .natural index), ("identifier", .shown m.identifier),
      ("inputs", .natural m.inputCount), ("restored", .boolean (mode = .restore))] }

/-- The warning of a capped share, if there is a bundle and its share is capped. -/
def capWarning? (threshold : Double) (s : BundleSpec) :
    Except Error (Bundle π) → Option Log.Event
  | .ok b =>
    if b.budget.capped then
      (Budget.ofParameters s.parameters).toOption.map fun (epsilon, _) => {
        severity := .warn
        target := "dpb_core::budget"
        message := "Epsilon at or above threshold; per-mechanism share capped"
        fields := [("requested_epsilon", .float epsilon), ("epsilon_threshold", .float threshold),
          ("mechanisms", .natural s.nested.length)] }
    else none
  | .error _ => none

/-- The event of the outcome. -/
def conclusion (s : BundleSpec) (mode : Mode) : Except Error (Bundle π) → Log.Event
  | .ok b => {
      severity := .info
      target := "dpb_core::factory"
      message := "Bundle constructed"
      fields := [("mode", .quoted (if mode = .restore then "restore" else "create")),
        ("mechanisms", .natural b.slots.length),
        ("epsilon_per_mechanism", .float b.budget.epsilon),
        ("delta_per_mechanism", .float b.budget.delta), ("capped", .boolean b.budget.capped),
        ("total_inputs_seen", .natural b.total.toNat)] }
  | .error e => {
      severity := .warn
      target := "dpb_core::factory"
      message := "Bundle construction failed"
      fields := [("mode", .quoted (if mode = .restore then "restore" else "create")),
        ("mechanisms", .natural s.nested.length), ("code", .natural e.code),
        ("kind", .shown e.kind.name), ("error", .shown e.message)] }

/-- The events of making a bundle, told by the outcome. -/
def trace (threshold : Double) (s : BundleSpec) (mode : Mode)
    (outcome : Except Error (Bundle π)) : List Log.Event :=
  (mismatchWarning? outcome).toList ++
    resolvedEvents s mode (mechanismsMade s.nested.length outcome) ++
    (capWarning? threshold s outcome).toList ++ [conclusion s mode outcome]

/-- A bundle is restored if there is a checkpoint. -/
def modeOf : Option Checkpoint → Mode
  | none => .create
  | some _ => .restore

variable {f : Factory α π} {s : BundleSpec} {c : Option Checkpoint}

/-- Whether a rule is broken. -/
def broken (f : Factory α π) (s : BundleSpec) (c : Option Checkpoint) (rule : Rule) : Bool :=
  (f.breach s c rule).isSome

/-- The number of mechanisms before the first one with a broken rule; none if a rule is broken
that is checked before the mechanisms. -/
def passed (f : Factory α π) (s : BundleSpec) (c : Option Checkpoint) : ℕ :=
  if Rule.beforeMechanisms.any (f.broken s c) then 0
  else (List.range s.nested.length).findIdx fun index =>
    (Rule.ofMechanism index).any (f.broken s c)

/-- The last event of making a bundle is that of the outcome. -/
theorem outcomeEvent_eq_conclusion (s : BundleSpec) (mode : Mode)
    (outcome : Except Error (Bundle π)) :
    outcomeEvent s mode outcome = conclusion s mode outcome := by
  cases mode <;> cases outcome <;> rfl

/-! ## Errors and their rules -/

/-- The error of a broken rule tells the rule. -/
theorem rule?_of_breach {rule : Rule} {e : Error} (h : f.breach s c rule = some e) :
    e.rule? = some rule := by
  cases rule <;>
    simp only [breach, Option.bind_eq_bind, Option.bind_eq_some_iff, errorUnless_eq_some_iff] at h
  case threshold => obtain ⟨-, rfl⟩ := h; rfl
  case nonempty => obtain ⟨-, rfl⟩ := h; rfl
  case entryCount => obtain ⟨_, -, -, rfl⟩ := h; rfl
  case validCheckpoint =>
    obtain ⟨c, -, h⟩ := h
    split at h
    · cases h
    · cases h; rfl
  case owner i => obtain ⟨_, -, _, -, _, -, -, rfl⟩ := h; rfl
  case resolved i =>
    obtain ⟨m, -, h⟩ := h
    split at h
    · cases h
    · cases h; rfl
  case promisesPrivacy i => obtain ⟨_, -, _, -, -, rfl⟩ := h; rfl
  case parameterCount => obtain ⟨-, rfl⟩ := h; rfl
  case numericEpsilon => obtain ⟨_, -, -, rfl⟩ := h; rfl
  case numericDelta => obtain ⟨_, -, -, rfl⟩ := h; rfl
  case positiveEpsilon => obtain ⟨_, -, _, -, -, rfl⟩ := h; rfl
  case deltaRange => obtain ⟨_, -, _, -, -, rfl⟩ := h; rfl

theorem mechanismsMade_of_breach {rule : Rule} {e : Error} (h : f.breach s c rule = some e)
    (mechanisms : ℕ) : mechanismsMade mechanisms (.error e : Except Error β) =
      rule.mechanismsBefore mechanisms := by
  rw [mechanismsMade, rule?_of_breach h]
  rfl

/-- Only a checkpoint that is not valid is warned about. -/
theorem warning?_of_breach {rule : Rule} {e : Error} (h : f.breach s c rule = some e)
    (hrule : rule ≠ .validCheckpoint) : e.warning? = none := by
  cases e with
  | state e => exact absurd (Option.some.inj (rule?_of_breach h)).symm hrule
  | _ => rfl

/-! ## The events of the steps -/

/-- Checking a checkpoint against a specification warns of a wrong digest, and of nothing else. -/
theorem events_pairs : (pairs s c).events = (mismatchWarning? (pairs s c).outcome).toList := by
  cases c with
  | none => rfl
  | some c =>
    rw [outcome_pairs_some]
    unfold pairs
    by_cases hlength : c.entries.length = s.nested.length
    · simp only [hlength, ne_eq, not_true_eq_false, if_false, if_true, Attempt.events_bind_pure,
        Attempt.events_mapError]
      change Checkpoint.checkEvents c.check = _
      cases c.check with
      | ok _ => rfl
      | error e => cases e <;> rfl
    · simp only [hlength, ne_eq, not_false_eq_true, if_true, if_false]
      exact Attempt.events_bind_of_error rfl _

section resolveAll

variable {index : ℕ} {m : MechanismSpec} {entry : Option Checkpoint.Entry}
  {more : List (MechanismSpec × Option Checkpoint.Entry)}

theorem events_resolveAll_of_ok {slot : Slot π} (h : f.resolve index m entry = .ok slot) :
    (f.resolveAll index ((m, entry) :: more)).events =
      resolvedEvent index m entry.isSome :: (f.resolveAll (index + 1) more).events := by
  have hslot : (resolveAll.liftExcept (f.resolve index m entry)).outcome = .ok slot := h
  rw [resolveAll, Attempt.events_bind_of_ok hslot, Attempt.events_bind_of_ok rfl,
    Attempt.events_emit, Attempt.events_bind_pure]
  rfl

theorem events_resolveAll_of_error {e : Error} (h : f.resolve index m entry = .error e) :
    (f.resolveAll index ((m, entry) :: more)).events = [] := by
  have hslot : (resolveAll.liftExcept (f.resolve index m entry)).outcome = .error e := h
  rw [resolveAll, Attempt.events_bind_of_error hslot]
  rfl

/-- `k` of the mechanisms are made one after the other, the first one having number `index`, and
then there are no more, or the next one cannot be made. -/
structure Resolves (f : Factory α π) (index : ℕ)
    (ps : List (MechanismSpec × Option Checkpoint.Entry)) (k : ℕ) : Prop where
  le : k ≤ ps.length
  events_eq : (f.resolveAll index ps).events =
    (ps.take k).mapIdx fun i pair => resolvedEvent (index + i) pair.1 pair.2.isSome
  resolved : ∀ i < k, ∀ m entry, ps[i]? = some (m, entry) →
    ∃ slot, f.resolve (index + i) m entry = .ok slot
  stopped : (k = ps.length ∧ ∃ slots, (f.resolveAll index ps).outcome = .ok slots) ∨
    ∃ m entry e, ps[k]? = some (m, entry) ∧ f.resolve (index + k) m entry = .error e ∧
      (f.resolveAll index ps).outcome = .error e

/-- Every run over the mechanisms stops somewhere.  The induction is on those still to be made, as
in the loop; the number of the first one changes from step to step. -/
theorem exists_resolves (f : Factory α π) (ps : List (MechanismSpec × Option Checkpoint.Entry)) :
    ∀ index, ∃ k, f.Resolves index ps k := by
  induction ps with
  | nil =>
    intro index
    exact ⟨0, le_rfl, rfl, nofun, .inl ⟨rfl, [], rfl⟩⟩
  | cons pair more ih =>
    intro index
    obtain ⟨m, entry⟩ := pair
    cases h : f.resolve index m entry with
    | error e =>
      refine ⟨0, Nat.zero_le _, events_resolveAll_of_error h, nofun,
        .inr ⟨m, entry, e, rfl, h, ?_⟩⟩
      rw [outcome_resolveAll_cons, h, error_bind]
    | ok slot =>
      obtain ⟨k, hk⟩ := ih (index + 1)
      -- Mechanism `i` of those after this one is mechanism `i + 1` from here.
      have hnext (i : ℕ) : index + 1 + i = index + (i + 1) := by omega
      refine ⟨k + 1, Nat.succ_le_succ hk.le, ?_, ?_, ?_⟩
      · rw [events_resolveAll_of_ok h, hk.events_eq, List.take_succ_cons, List.mapIdx_cons]
        simp only [hnext, Nat.add_zero]
      · rintro (_ | i) hi m' entry' hpair
        · cases hpair
          exact ⟨slot, h⟩
        · rw [← hnext]
          exact hk.resolved i (Nat.lt_of_succ_lt_succ hi) m' entry' hpair
      · rw [outcome_resolveAll_cons, h, ok_bind]
        rcases hk.stopped with ⟨hlength, slots, hslots⟩ | ⟨m', entry', e, hpair, hfails, he⟩
        · rw [hslots]
          exact .inl ⟨congrArg (· + 1) hlength, slot :: slots, rfl⟩
        · rw [he, ← hnext]
          exact .inr ⟨m', entry', e, hpair, hfails, rfl⟩

end resolveAll

/-- A capped share is warned about. -/
theorem events_split {epsilon delta threshold : Double} {n : ℕ} (hn : n ≠ 0) :
    (Budget.split epsilon delta n threshold).events =
      if (Budget.shares epsilon delta n threshold).capped then
        [Budget.cappedEvent epsilon threshold n]
      else [] := by
  unfold Budget.split
  rw [if_neg hn]
  by_cases h : (Budget.shares epsilon delta n threshold).capped
  · simp only [h, if_true]
    exact Attempt.events_bind_of_ok rfl _
  · simp only [h, Bool.false_eq_true, if_false]
    rfl

/-- The first step: the mechanisms with their entries, unless a rule is broken that is checked
before the mechanisms. -/
def start (f : Factory α π) (s : BundleSpec) (c : Option Checkpoint) :
    Attempt Error (List (MechanismSpec × Option Checkpoint.Entry)) := do
  if let .error e := Config.checkThreshold f.threshold then throw (.config e)
  if s.nested.isEmpty then throw .emptyNestedSpecs
  pairs s c

/-- The last step: the bundle of these mechanisms, if the parameters are a budget. -/
def funded (f : Factory α π) (s : BundleSpec) (c : Option Checkpoint) (slots : List (Slot π)) :
    Attempt Error (Bundle π) :=
  match Budget.ofParameters s.parameters with
  | .error e => throw e
  | .ok (epsilon, delta) => do
    let budget ← Budget.split epsilon delta s.nested.length f.threshold
    return { slots, budget, total := (c.map (·.total)).getD 0 }

/-- The steps of making a bundle. -/
theorem build_eq_start_bind (f : Factory α π) (s : BundleSpec) (c : Option Checkpoint) :
    f.build s c = f.start s c >>= fun ps => f.resolveAll 0 ps >>= f.funded s c := by
  unfold build start
  cases Config.checkThreshold f.threshold with
  | error e => rfl
  | ok _ =>
    by_cases hn : s.nested.isEmpty
    · simp only [hn, if_true]
      rfl
    · simp only [hn, Bool.false_eq_true, if_false]
      rfl

theorem outcome_start : (f.start s c).outcome =
    (Config.checkThreshold f.threshold).mapError Error.config >>= fun _ =>
      (if s.nested ≠ [] then .ok () else .error .emptyNestedSpecs) >>= fun _ =>
        (pairs s c).outcome := by
  unfold start
  cases Config.checkThreshold f.threshold with
  | error e => rfl
  | ok _ =>
    by_cases hn : s.nested = []
    · simp [hn, Except.mapError]
    · simp [hn, Except.mapError]

theorem obeys_start : Obeys (f.breach s c) Rule.beforeMechanisms (f.start s c).outcome := by
  rw [outcome_start]
  exact obeys_threshold.bind fun _ _ => obeys_nonempty.bind fun _ _ => obeys_pairs

theorem start_eq_ok {ps : List (MechanismSpec × Option Checkpoint.Entry)}
    (h : (f.start s c).outcome = .ok ps) : s.nested ≠ [] ∧ (pairs s c).outcome = .ok ps := by
  rw [outcome_start] at h
  obtain ⟨_, -, h⟩ := bind_eq_ok_iff.1 h
  obtain ⟨_, hn, hps⟩ := bind_eq_ok_iff.1 h
  refine ⟨fun hnil => ?_, hps⟩
  rw [if_neg (not_not_intro hnil)] at hn
  cases hn

theorem events_start : (f.start s c).events = (mismatchWarning? (f.start s c).outcome).toList := by
  unfold start
  cases Config.checkThreshold f.threshold with
  | error e => rfl
  | ok _ =>
    by_cases hn : s.nested.isEmpty
    · simp only [hn, if_true]
      rfl
    · simp only [hn, Bool.false_eq_true, if_false]
      exact events_pairs

/-! ## The courses of making a bundle -/

/-- No rule is broken that is checked before mechanism `k`. -/
structure Passes (f : Factory α π) (s : BundleSpec) (c : Option Checkpoint) (k : ℕ) : Prop where
  beforeMechanisms : ∀ rule ∈ Rule.beforeMechanisms, f.breach s c rule = none
  ofMechanism : ∀ i < k, ∀ rule ∈ Rule.ofMechanism i, f.breach s c rule = none

/-- The outcomes of making a bundle, and the events before the last one. -/
inductive Course (f : Factory α π) (s : BundleSpec) (c : Option Checkpoint) :
    Except Error (Bundle π) → List Log.Event → Prop where
  /-- A rule is broken that is checked before the mechanisms. -/
  | refused {rule : Rule} {e : Error} (hrule : rule ∈ Rule.beforeMechanisms)
      (hbreach : f.breach s c rule = some e) :
      Course f s c (.error e) e.warning?.toList
  /-- The rules before mechanism `k` are passed, and one of its own is broken. -/
  | stopped {k : ℕ} {rule : Rule} {e : Error} (hk : k < s.nested.length) (hpasses : f.Passes s c k)
      (hrule : rule ∈ Rule.ofMechanism k) (hbreach : f.breach s c rule = some e) :
      Course f s c (.error e) (resolvedEvents s (modeOf c) k)
  /-- All mechanisms are made, and a rule about the parameters is broken. -/
  | unfunded {rule : Rule} {e : Error} (hpasses : f.Passes s c s.nested.length)
      (hrule : rule ∈ Rule.ofParameters) (hbreach : f.breach s c rule = some e) :
      Course f s c (.error e) (resolvedEvents s (modeOf c) s.nested.length)
  /-- The bundle is made. -/
  | made {b : Bundle π} (hpasses : f.Passes s c s.nested.length) :
      Course f s c (.ok b) (resolvedEvents s (modeOf c) s.nested.length ++
        (capWarning? f.threshold s (.ok b)).toList)

theorem any_broken_of_mem {rules : List Rule} {rule : Rule} {e : Error} (hrule : rule ∈ rules)
    (hbreach : f.breach s c rule = some e) : rules.any (f.broken s c) := by
  refine List.any_eq_true.2 ⟨rule, hrule, ?_⟩
  rw [broken, hbreach]
  rfl

theorem any_broken_eq_false {rules : List Rule} (h : ∀ rule ∈ rules, f.breach s c rule = none) :
    rules.any (f.broken s c) = false := by
  refine List.any_eq_false.2 fun rule hrule => ?_
  rw [broken, h rule hrule]
  exact Bool.false_ne_true

theorem Passes.passed_eq {k : ℕ} (h : f.Passes s c k) :
    f.passed s c = (List.range s.nested.length).findIdx fun index =>
      (Rule.ofMechanism index).any (f.broken s c) := by
  rw [passed, any_broken_eq_false h.beforeMechanisms]
  rfl

theorem Passes.passed_of_mem_ofMechanism {k : ℕ} (h : f.Passes s c k) (hk : k < s.nested.length)
    {rule : Rule} {e : Error} (hrule : rule ∈ Rule.ofMechanism k)
    (hbreach : f.breach s c rule = some e) : f.passed s c = k := by
  have hlt : k < (List.range s.nested.length).length := by rwa [List.length_range]
  rw [h.passed_eq, List.findIdx_eq hlt]
  simp only [List.getElem_range]
  exact ⟨any_broken_of_mem hrule hbreach, fun i hi => any_broken_eq_false (h.ofMechanism i hi)⟩

theorem Passes.passed_of_all (h : f.Passes s c s.nested.length) :
    f.passed s c = s.nested.length := by
  have hnone : ∀ i ∈ List.range s.nested.length,
      (Rule.ofMechanism i).any (f.broken s c) = false := fun i hi =>
    any_broken_eq_false (h.ofMechanism i (List.mem_range.1 hi))
  rw [h.passed_eq, List.findIdx_eq_length_of_false hnone, List.length_range]

/-- The mechanisms that the outcome tells to be made are those before the first broken rule. -/
theorem Course.mechanismsMade_eq {outcome : Except Error (Bundle π)} {events : List Log.Event}
    (h : f.Course s c outcome events) :
    mechanismsMade s.nested.length outcome = f.passed s c := by
  cases h with
  | refused hrule hbreach =>
    rw [mechanismsMade_of_breach hbreach, Rule.mechanismsBefore_of_mem_beforeMechanisms hrule,
      passed, if_pos (any_broken_of_mem hrule hbreach)]
  | stopped hk hpasses hrule hbreach =>
    rw [mechanismsMade_of_breach hbreach, Rule.mechanismsBefore_of_mem_ofMechanism hrule,
      hpasses.passed_of_mem_ofMechanism hk hrule hbreach]
  | unfunded hpasses hrule hbreach =>
    rw [mechanismsMade_of_breach hbreach, Rule.mechanismsBefore_of_mem_ofParameters hrule,
      hpasses.passed_of_all]
  | made hpasses => exact hpasses.passed_of_all.symm

/-- Along every course, the events are what the outcome tells. -/
theorem Course.append_eq_trace {outcome : Except Error (Bundle π)} {events : List Log.Event}
    (h : f.Course s c outcome events) :
    events ++ [conclusion s (modeOf c) outcome] = trace f.threshold s (modeOf c) outcome := by
  have hnil (mode : Mode) : resolvedEvents s mode 0 = [] := rfl
  unfold trace
  cases h with
  | refused hrule hbreach =>
    rw [mechanismsMade_of_breach hbreach, Rule.mechanismsBefore_of_mem_beforeMechanisms hrule, hnil]
    simp [mismatchWarning?, errorOf?, capWarning?]
  | stopped hk hpasses hrule hbreach =>
    have hwarning := warning?_of_breach hbreach (by rintro rfl; simp [Rule.ofMechanism] at hrule)
    rw [mechanismsMade_of_breach hbreach, Rule.mechanismsBefore_of_mem_ofMechanism hrule]
    simp [mismatchWarning?, errorOf?, hwarning, capWarning?]
  | unfunded hpasses hrule hbreach =>
    have hwarning := warning?_of_breach hbreach (by rintro rfl; simp [Rule.ofParameters] at hrule)
    rw [mechanismsMade_of_breach hbreach, Rule.mechanismsBefore_of_mem_ofParameters hrule]
    simp [mismatchWarning?, errorOf?, hwarning, capWarning?]
  | made hpasses => rfl

theorem isSome_entryAt {ps : List (MechanismSpec × Option Checkpoint.Entry)}
    (hps : (pairs s c).outcome = .ok ps) {i : ℕ} (hi : i < s.nested.length) :
    (entryAt c i).isSome = (modeOf c = .restore : Bool) := by
  cases c with
  | none => rfl
  | some c =>
    obtain ⟨hlength, -, -⟩ := pairs_some_eq_ok_iff.1 hps
    have hentry : i < c.entries.length := by omega
    change c.entries[i]?.isSome = true
    rw [List.getElem?_eq_getElem hentry]
    rfl

/-- The events of the mechanisms that are made are those of the specification. -/
theorem Resolves.events_eq_resolvedEvents {ps : List (MechanismSpec × Option Checkpoint.Entry)}
    {k : ℕ} (h : f.Resolves 0 ps k) (hps : (pairs s c).outcome = .ok ps) :
    (f.resolveAll 0 ps).events = resolvedEvents s (modeOf c) k := by
  rw [h.events_eq]
  refine List.ext_getElem? fun i => ?_
  rw [resolvedEvents, List.getElem?_mapIdx, List.getElem?_mapIdx, List.getElem?_take,
    List.getElem?_take, getElem?_pairs hps]
  by_cases hi : i < k
  · rw [if_pos hi, if_pos hi, Option.map_map, Nat.zero_add]
    rcases Nat.lt_or_ge i s.nested.length with hn | hn
    · rw [List.getElem?_eq_getElem hn]
      simp [isSome_entryAt hps hn, resolvedEvent]
    · rw [List.getElem?_eq_none hn]
      rfl
  · rw [if_neg hi, if_neg hi]
    rfl

theorem Resolves.passes {ps : List (MechanismSpec × Option Checkpoint.Entry)} {k : ℕ}
    (h : f.Resolves 0 ps k) (hps : (pairs s c).outcome = .ok ps)
    (hstart : ∀ rule ∈ Rule.beforeMechanisms, f.breach s c rule = none) : f.Passes s c k where
  beforeMechanisms := hstart
  ofMechanism i hi := by
    have hn : i < s.nested.length := length_pairs hps ▸ lt_of_lt_of_le hi h.le
    have hm : s.nested[i]? = some s.nested[i] := List.getElem?_eq_getElem _
    have hpair : ps[i]? = some (s.nested[i], entryAt c i) := by rw [getElem?_pairs hps, hm]; rfl
    have hslot := h.resolved i hi _ _ hpair
    rw [Nat.zero_add] at hslot
    exact (obeys_resolve hm).exists_eq_ok_iff.1 hslot

/-- The last step, with all mechanisms made. -/
theorem course_funded (hpasses : f.Passes s c s.nested.length) (hn : s.nested.length ≠ 0)
    (slots : List (Slot π)) :
    f.Course s c (f.funded s c slots).outcome
      (resolvedEvents s (modeOf c) s.nested.length ++ (f.funded s c slots).events) := by
  unfold funded
  cases hparameters : Budget.ofParameters s.parameters with
  | error e =>
    obtain ⟨rule, hrule, hbreach⟩ := obeys_parameters.exists_breach hparameters
    rw [Attempt.outcome_throw, Attempt.events_throw, List.append_nil]
    exact .unfunded hpasses hrule hbreach
  | ok x =>
    obtain ⟨epsilon, delta⟩ := x
    set budget := Budget.shares epsilon delta s.nested.length f.threshold with hbudget
    have hsplit : (Budget.split epsilon delta s.nested.length f.threshold).outcome = .ok budget :=
      outcome_split hn
    have hcap (b : Bundle π) (hb : b.budget = budget) :
        (capWarning? f.threshold s (.ok b)).toList =
          (Budget.split epsilon delta s.nested.length f.threshold).events := by
      rw [events_split hn, ← hbudget, capWarning?, hparameters, hb]
      by_cases h : budget.capped <;> simp [h, Except.toOption, Budget.cappedEvent]
    rw [Attempt.outcome_bind, hsplit, Attempt.events_bind_pure, ok_bind]
    rw [← hcap { slots, budget, total := (c.map (·.total)).getD 0 } rfl]
    exact .made hpasses

/-- Making a bundle takes one of the courses. -/
theorem course_build (f : Factory α π) (s : BundleSpec) (c : Option Checkpoint) :
    f.Course s c (f.build s c).outcome (f.build s c).events := by
  rw [build_eq_start_bind, Attempt.outcome_bind]
  cases hstart : (f.start s c).outcome with
  | error e =>
    obtain ⟨rule, hrule, hbreach⟩ := obeys_start.exists_breach hstart
    rw [Attempt.events_bind_of_error hstart, events_start, hstart, error_bind]
    exact .refused hrule hbreach
  | ok ps =>
    obtain ⟨hn, hps⟩ := start_eq_ok hstart
    obtain ⟨k, hk⟩ := exists_resolves f ps 0
    have hpasses := hk.passes hps (obeys_start.exists_eq_ok_iff.1 ⟨ps, hstart⟩)
    have hevents := hk.events_eq_resolvedEvents hps
    rw [Attempt.events_bind_of_ok hstart, events_start, hstart, ok_bind, Attempt.outcome_bind]
    rcases hk.stopped with ⟨rfl, slots, hslots⟩ | ⟨m, entry, e, hpair, hfails, he⟩
    · rw [length_pairs hps] at hpasses hevents
      rw [Attempt.events_bind_of_ok hslots, hslots, hevents]
      exact course_funded hpasses (fun h => hn (List.length_eq_zero_iff.1 h)) slots
    · obtain ⟨hm, rfl⟩ := getElem?_pairs_eq_some hps hpair
      rw [Nat.zero_add] at hfails
      obtain ⟨rule, hrule, hbreach⟩ := (obeys_resolve hm).exists_breach hfails
      rw [Attempt.events_bind_of_error he, he, hevents]
      exact .stopped (List.getElem?_eq_some_iff.1 hm).1 hpasses hrule hbreach

/-! ## What the parts of a trace stand for -/

section Parts

variable {threshold : Double} {mode : Mode} {outcome : Except Error (Bundle π)}
  {event : Log.Event}

theorem target_of_mem_resolvedEvents {k : ℕ} (h : event ∈ resolvedEvents s mode k) :
    event.target = "dpb_core::factory" := by
  obtain ⟨i, hi, rfl⟩ := List.mem_mapIdx.1 h
  rfl

theorem target_of_capWarning? (h : capWarning? threshold s outcome = some event) :
    event.target = "dpb_core::budget" := by
  unfold capWarning? at h
  split at h
  · split at h
    · obtain ⟨_, -, rfl⟩ := Option.map_eq_some_iff.1 h
      rfl
    · cases h
  · cases h

theorem target_of_mismatchWarning? (h : mismatchWarning? outcome = some event) :
    event.target = "dpb_state::state" := by
  obtain ⟨e, -, he⟩ := Option.bind_eq_some_iff.1 h
  exact Error.target_of_warning? he

theorem target_conclusion : (conclusion s mode outcome).target = "dpb_core::factory" := by
  cases outcome <;> rfl

/-- The events of a trace are told apart by where they happen. -/
theorem mem_trace_iff : event ∈ trace threshold s mode outcome ↔
    (event.target = "dpb_state::state" ∧ mismatchWarning? outcome = some event) ∨
      (event.target = "dpb_core::budget" ∧ capWarning? threshold s outcome = some event) ∨
        (event.target = "dpb_core::factory" ∧
          (event ∈ resolvedEvents s mode (mechanismsMade s.nested.length outcome) ∨
            event = conclusion s mode outcome)) := by
  unfold trace
  simp only [List.mem_append, Option.mem_toList, List.mem_singleton]
  constructor
  · rintro (((h | h) | h) | h)
    · exact .inl ⟨target_of_mismatchWarning? h, h⟩
    · exact .inr (.inr ⟨target_of_mem_resolvedEvents h, .inl h⟩)
    · exact .inr (.inl ⟨target_of_capWarning? h, h⟩)
    · exact .inr (.inr ⟨h ▸ target_conclusion, .inr h⟩)
  · rintro (⟨-, h⟩ | ⟨-, h⟩ | ⟨-, h | h⟩)
    · exact .inl (.inl (.inl h))
    · exact .inl (.inr h)
    · exact .inl (.inl (.inr h))
    · exact .inr h

theorem mismatchEvent_mem_trace_iff {index : ℕ} {expected actual : String} :
    Checkpoint.mismatchEvent index expected actual ∈ trace threshold s mode outcome ↔
      outcome = .error (.state (.checksumMismatch index expected actual)) := by
  have htarget : (Checkpoint.mismatchEvent index expected actual).target = "dpb_state::state" := rfl
  rw [mem_trace_iff, htarget]
  simp only [true_and, String.reduceEq, false_and, or_false, mismatchWarning?,
    Option.bind_eq_some_iff, Error.warning?_eq_some_iff]
  cases outcome <;> simp [errorOf?]

theorem cappedEvent_mem_trace_iff {epsilon limit : Double} {mechanisms : ℕ} :
    Budget.cappedEvent epsilon limit mechanisms ∈ trace threshold s mode outcome ↔
      capWarning? threshold s outcome = some (Budget.cappedEvent epsilon limit mechanisms) := by
  have htarget : (Budget.cappedEvent epsilon limit mechanisms).target = "dpb_core::budget" := rfl
  rw [mem_trace_iff, htarget]
  simp

/-- Apart from the warnings of other parts of the program, a trace has the mechanisms that were made
and the outcome. -/
theorem filter_factory_trace :
    (trace threshold s mode outcome).filter (fun event => event.target = "dpb_core::factory") =
      resolvedEvents s mode (mechanismsMade s.nested.length outcome) ++
        [conclusion s mode outcome] := by
  have hmismatch : (mismatchWarning? outcome).toList.filter
      (fun event => event.target = "dpb_core::factory") = [] := by
    refine List.filter_eq_nil_iff.2 fun event h => ?_
    simp [target_of_mismatchWarning? (Option.mem_toList.1 h)]
  have hcap : (capWarning? threshold s outcome).toList.filter
      (fun event => event.target = "dpb_core::factory") = [] := by
    refine List.filter_eq_nil_iff.2 fun event h => ?_
    simp [target_of_capWarning? (Option.mem_toList.1 h)]
  have hresolved (k : ℕ) : (resolvedEvents s mode k).filter
      (fun event => event.target = "dpb_core::factory") = resolvedEvents s mode k :=
    List.filter_eq_self.2 fun event h => decide_eq_true (target_of_mem_resolvedEvents h)
  rw [trace, List.filter_append, List.filter_append, List.filter_append, hmismatch, hcap,
    hresolved, List.nil_append, List.append_nil, List.filter_singleton,
    decide_eq_true target_conclusion]
  rfl

end Parts

/-! ## The whole -/

theorem events_make (f : Factory α π) (s : BundleSpec) (c : Option Checkpoint) :
    (f.make s c).events =
      (f.build s c).events ++ [conclusion s (modeOf c) (f.build s c).outcome] := by
  rw [← outcomeEvent_eq_conclusion]
  cases c <;> rfl

theorem breach_validCheckpoint_iff {e : Checkpoint.Error} :
    f.breach s c .validCheckpoint = some (.state e) ↔
      ∃ state, c = some state ∧ state.validate.outcome = .error e := by
  simp only [breach, Option.bind_eq_bind, Option.bind_eq_some_iff]
  refine exists_congr fun state => and_congr_right fun _ => ?_
  change _ ↔ state.check = .error e
  cases state.check <;> simp

/-- A bundle is refused for its checkpoint exactly if the rules before the check of the checkpoint
are passed and the check ends so. -/
theorem make_eq_state_iff {e : Checkpoint.Error} :
    (f.make s c).outcome = .error (.state e) ↔
      (∀ rule ∈ [Rule.threshold, .nonempty, .entryCount], f.breach s c rule = none) ∧
        ∃ state, c = some state ∧ state.validate.outcome = .error e := by
  have horder : Rule.inOrder s.nested.length = [.threshold, .nonempty, .entryCount] ++
      .validCheckpoint ::
        ((List.range s.nested.length).flatMap Rule.ofMechanism ++ Rule.ofParameters) := rfl
  -- The error tells that the rule about the checkpoint is broken, and no other.
  have honly (rule : Rule) (h : f.breach s c rule = some (.state e)) : .validCheckpoint = rule :=
    Option.some.inj (rule?_of_breach h)
  rw [obeys_make.eq_error_iff, horder, List.findSome?_append, Option.or_eq_some_iff,
    ← breach_validCheckpoint_iff]
  constructor
  · rintro (h | ⟨hbefore, h⟩)
    · obtain ⟨rule, hrule, hbreach⟩ := List.exists_of_findSome?_eq_some h
      obtain rfl := honly rule hbreach
      simp at hrule
    · refine ⟨List.findSome?_eq_none_iff.1 hbefore, ?_⟩
      rw [List.findSome?_cons] at h
      cases hvalid : f.breach s c .validCheckpoint with
      | some e' => rwa [hvalid] at h
      | none =>
        rw [hvalid] at h
        obtain ⟨rule, -, hbreach⟩ := List.exists_of_findSome?_eq_some h
        obtain rfl := honly rule hbreach
        rwa [hvalid] at hbreach
  · rintro ⟨hbefore, h⟩
    refine .inr ⟨List.findSome?_eq_none_iff.2 hbefore, ?_⟩
    rw [List.findSome?_cons, h]

/-- A bundle with a capped share is warned about. -/
theorem exists_capWarning?_iff :
    (∃ epsilon limit mechanisms, capWarning? f.threshold s (f.make s c).outcome =
        some (Budget.cappedEvent epsilon limit mechanisms)) ↔
      ∃ b, (f.make s c).outcome = .ok b ∧ b.budget.capped := by
  cases h : (f.make s c).outcome with
  | error e => simp [capWarning?]
  | ok b =>
    have hbuild : (f.build s c).outcome = .ok b := by rw [← outcome_make, h]
    obtain ⟨⟨-, -, epsilon, delta, hparameters, -⟩, -⟩ := build_eq_ok_iff.1 hbuild
    rw [capWarning?, hparameters]
    by_cases hcapped : b.budget.capped
    · simp only [hcapped, if_true]
      exact ⟨fun _ => ⟨b, rfl, hcapped⟩, fun _ => ⟨epsilon, _, _, rfl⟩⟩
    · simp [hcapped]

/-- **The outcome tells the log.**  The events of making a bundle, fresh or from a checkpoint, are
those that the outcome tells, in this order: the warning of a wrong digest, the mechanisms that
were made, the warning of a capped share, the outcome itself.  The mechanisms are those that
passed before the first broken rule, from number 0 on.  A wrong digest is warned about exactly if
the checkpoint is checked at all and this is how the check ends; a capped share exactly if there
is a bundle and its share is capped.  In no case is there nothing in the log: the last event
informs of the bundle that is returned, or warns with the error that is. -/
theorem events_make_eq_trace (f : Factory α π) (s : BundleSpec) (c : Option Checkpoint) :
    (f.make s c).events = trace f.threshold s (modeOf c) (f.make s c).outcome ∧
    mechanismsMade s.nested.length (f.make s c).outcome = f.passed s c ∧
    ((f.make s c).events.filter fun event => event.target = "dpb_core::factory").dropLast =
      ((s.nested.take (f.passed s c)).mapIdx fun index m =>
        { severity := .debug
          target := "dpb_core::factory"
          message := "Resolved nested mechanism"
          fields := [("index", .natural index), ("identifier", .shown m.identifier),
            ("inputs", .natural m.inputCount), ("restored", .boolean c.isSome)] }) ∧
    (∀ index expected actual,
      { severity := .warn
        target := "dpb_state::state"
        message := "Nested state checksum mismatch"
        fields := [("index", .natural index), ("expected", .shown expected),
          ("actual", .shown actual)] : Log.Event } ∈ (f.make s c).events ↔
        (∀ rule ∈ [Rule.threshold, .nonempty, .entryCount], f.breach s c rule = none) ∧
          ∃ state, c = some state ∧
            state.validate.outcome = .error (.checksumMismatch index expected actual)) ∧
    ((∃ epsilon threshold mechanisms,
        { severity := .warn
          target := "dpb_core::budget"
          message := "Epsilon at or above threshold; per-mechanism share capped"
          fields := [("requested_epsilon", .float epsilon), ("epsilon_threshold", .float threshold),
            ("mechanisms", .natural mechanisms)] : Log.Event } ∈ (f.make s c).events) ↔
      ∃ b, (f.make s c).outcome = .ok b ∧ b.budget.capped) ∧
    (∀ b, (f.make s c).outcome = .ok b → (f.make s c).events.getLast? = some
      { severity := .info
        target := "dpb_core::factory"
        message := "Bundle constructed"
        fields := [("mode", .quoted (if c.isSome then "restore" else "create")),
          ("mechanisms", .natural b.slots.length),
          ("epsilon_per_mechanism", .float b.budget.epsilon),
          ("delta_per_mechanism", .float b.budget.delta), ("capped", .boolean b.budget.capped),
          ("total_inputs_seen", .natural b.total.toNat)] }) ∧
    (∀ e, (f.make s c).outcome = .error e → (f.make s c).events.getLast? = some
      { severity := .warn
        target := "dpb_core::factory"
        message := "Bundle construction failed"
        fields := [("mode", .quoted (if c.isSome then "restore" else "create")),
          ("mechanisms", .natural s.nested.length), ("code", .natural e.code),
          ("kind", .shown e.kind.name), ("error", .shown e.message)] }) := by
  have hcourse := course_build f s c
  have htrace : (f.make s c).events = trace f.threshold s (modeOf c) (f.make s c).outcome := by
    rw [events_make, hcourse.append_eq_trace, outcome_make]
  have hlast : (f.make s c).events.getLast? =
      some (conclusion s (modeOf c) (f.make s c).outcome) := by
    rw [htrace, trace, List.getLast?_append_of_ne_nil _ (List.cons_ne_nil _ _)]
    rfl
  have hmade : mechanismsMade s.nested.length (f.make s c).outcome = f.passed s c := by
    rw [outcome_make]
    exact hcourse.mechanismsMade_eq
  refine ⟨htrace, hmade, ?_, fun index expected actual => ?_, ?_, fun b hb => ?_, fun e he => ?_⟩
  · rw [htrace, filter_factory_trace, hmade, List.dropLast_concat]
    cases c <;> rfl
  · rw [htrace, ← make_eq_state_iff]
    exact mismatchEvent_mem_trace_iff
  · rw [htrace, ← exists_capWarning?_iff]
    exact exists_congr fun epsilon => exists_congr fun limit => exists_congr fun mechanisms =>
      cappedEvent_mem_trace_iff
  · rw [hlast, hb]
    cases c <;> rfl
  · rw [hlast, he]
    cases c <;> rfl

end Factory
end SharedBudget
