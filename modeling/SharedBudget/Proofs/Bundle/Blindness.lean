/-
# What a program shows of its values

A bundle hands its values on and never looks at them.  Two bundles are *alike* if they
differ in nothing but their sums.  An operation on one and the same operation on the
other, with values of its own, end alike: with the same events, and with the same error
or with results that differ in the sums again (`Bundle.Alike.accumulate`,
`Bundle.Alike.merge`, `Bundle.Alike.checkpoint`, `Bundle.Alike.report`).  So two programs
that make the same calls, with groups of the same lengths but any values, cannot be told
apart by their answers, their counters or their events, except where a report shows a sum
(`Program.blind_to_values`).

The calls here do not include that for the document of a checkpoint: it logs the length of
the document, and the digits of a sum are part of that.
-/

import SharedBudget.Proofs.Bundle.Product
import SharedBudget.Proofs.Bundle.Program

namespace SharedBudget

/-! ## Computations that end alike -/

/-- The values are related, and the events are the same. -/
structure Logged.Alike {α β : Type} (R : α → β → Prop) (x : Logged α) (y : Logged β) : Prop where
  value : R x.value y.value
  events_eq : y.events = x.events

namespace Logged.Alike

variable {α β γ δ : Type} {R : α → β → Prop} {S : γ → δ → Prop}

theorem pure {a : α} {b : β} (h : R a b) :
    Logged.Alike R (Pure.pure a : Logged α) (Pure.pure b : Logged β) := ⟨h, rfl⟩

theorem refl (x : Logged α) : Logged.Alike (· = ·) x x := ⟨rfl, rfl⟩

/-- Computations that end alike can be followed by more that do. -/
theorem bind {x : Logged α} {y : Logged β} {next : α → Logged γ} {next' : β → Logged δ}
    (h : Logged.Alike R x y) (hnext : ∀ a b, R a b → Logged.Alike S (next a) (next' b)) :
    Logged.Alike S (x >>= next) (y >>= next') := by
  obtain ⟨hvalue, hevents⟩ := hnext _ _ h.value
  refine ⟨hvalue, ?_⟩
  rw [events_bind, events_bind, h.events_eq, hevents]

end Logged.Alike

/-- Both end with the same error, or with related results. -/
inductive SameFate {α β : Type} (R : α → β → Prop) : Except Error α → Except Error β → Prop where
  | error (e : Error) : SameFate R (.error e) (.error e)
  | ok {a : α} {b : β} : R a b → SameFate R (.ok a) (.ok b)

theorem SameFate.refl {α : Type} (x : Except Error α) : SameFate (· = ·) x x := by
  cases x with
  | error e => exact .error e
  | ok a => exact .ok rfl

theorem SameFate.map {α β γ δ : Type} {R : α → β → Prop} {S : γ → δ → Prop} {f : α → γ}
    {g : β → δ} {x : Except Error α} {y : Except Error β} (h : SameFate R x y)
    (hmap : ∀ a b, R a b → S (f a) (g b)) : SameFate S (x.map f) (y.map g) := by
  cases h with
  | error e => exact .error e
  | ok h => exact .ok (hmap _ _ h)

/-! ## Slots -/

namespace Slot

/-- The two slots differ in their sums only. -/
structure Alike (s s' : Slot PrivateSum) : Prop where
  frame_eq : s'.frame = s.frame
  count_eq : s'.mechanism.count = s.mechanism.count

namespace Alike

variable {s s' t t' : Slot PrivateSum}

theorem identifier_eq (h : s.Alike s') : s'.identifier = s.identifier :=
  congrArg (·.1) h.frame_eq

theorem minimum_eq (h : s.Alike s') : s'.mechanism.minimum = s.mechanism.minimum :=
  congrArg (·.2.2) h.frame_eq

/-- Whether a sum can report depends on how many groups it has seen, not on what was in them. -/
theorem canReport_eq (h : s.Alike s') :
    Mechanism.canReport s'.mechanism = Mechanism.canReport s.mechanism := by
  change decide (s'.mechanism.minimum ≤ s'.mechanism.count) =
    decide (s.mechanism.minimum ≤ s.mechanism.count)
  rw [h.minimum_eq, h.count_eq]

theorem isCompatible_eq (h : s.Alike s') (ht : t.Alike t') :
    Mechanism.isCompatible s'.mechanism t'.mechanism =
      Mechanism.isCompatible s.mechanism t.mechanism := by
  change decide (t'.mechanism.minimum = s'.mechanism.minimum) =
    decide (t.mechanism.minimum = s.mechanism.minimum)
  rw [h.minimum_eq, ht.minimum_eq]

theorem absorb (h : s.Alike s') (inputs inputs' : List Double) :
    Alike { s with mechanism := s.mechanism.absorb inputs }
      { s' with mechanism := s'.mechanism.absorb inputs' } :=
  ⟨h.frame_eq, congrArg (· + 1) h.count_eq⟩

theorem join (h : s.Alike s') (ht : t.Alike t') :
    Alike { s with mechanism := s.mechanism.join t.mechanism }
      { s' with mechanism := s'.mechanism.join t'.mechanism } :=
  ⟨h.frame_eq, congrArg₂ (· + ·) h.count_eq ht.count_eq⟩

end Alike
end Slot

namespace Bundle

variable {slots slots' peers peers' : List (Slot PrivateSum)}

/-- Slots stay alike whatever they are fed with. -/
theorem alike_fed (h : List.Forall₂ Slot.Alike slots slots') (inputs inputs' : List Double) :
    List.Forall₂ Slot.Alike (fed slots inputs) (fed slots' inputs') := by
  induction h generalizing inputs inputs' with
  | nil => exact .nil
  | cons hslot _ ih => exact .cons (hslot.absorb _ _) (ih _ _)

theorem alike_joined (h : List.Forall₂ Slot.Alike slots slots')
    (hpeers : List.Forall₂ Slot.Alike peers peers') :
    List.Forall₂ Slot.Alike (joined slots peers) (joined slots' peers') := by
  induction h generalizing peers peers' with
  | nil => exact .nil
  | cons hslot _ ih =>
    cases hpeers with
    | nil => exact .nil
    | cons hpeer hpeers => exact .cons (hslot.join hpeer) (ih hpeers)

theorem incompatibleSlot?_eq (h : List.Forall₂ Slot.Alike slots slots')
    (hpeers : List.Forall₂ Slot.Alike peers peers') (index : ℕ) :
    incompatibleSlot? index slots' peers' = incompatibleSlot? index slots peers := by
  induction h generalizing peers peers' index with
  | nil => rfl
  | cons hslot _ ih =>
    cases hpeers with
    | nil => rfl
    | cons hpeer hpeers =>
      rw [incompatibleSlot?, incompatibleSlot?, hslot.isCompatible_eq hpeer, ih hpeers,
        hslot.identifier_eq]

theorem all_canReport_eq (h : List.Forall₂ Slot.Alike slots slots') :
    (slots'.all fun s => Mechanism.canReport s.mechanism) =
      slots.all fun s => Mechanism.canReport s.mechanism := by
  induction h with
  | nil => rfl
  | cons hslot _ ih => rw [List.all_cons, List.all_cons, hslot.canReport_eq, ih]

theorem unreadySlot?_eq (h : List.Forall₂ Slot.Alike slots slots') (index : ℕ) :
    unreadySlot? index slots' = unreadySlot? index slots := by
  induction h generalizing index with
  | nil => rfl
  | cons hslot _ ih =>
    rw [unreadySlot?, unreadySlot?, hslot.canReport_eq, ih, hslot.identifier_eq]

/-- The two reports are of one length and differ in their sums only: every third value from the
first on is a sum. -/
structure OutputsAlike (outputs outputs' : List Double) : Prop where
  length_eq : outputs'.length = outputs.length
  getElem?_eq : ∀ k : ℕ, k % 3 ≠ 0 → outputs'[k]? = outputs[k]?

theorem outputsAlike_flatMap (h : List.Forall₂ Slot.Alike slots slots') (epsilon delta : Double) :
    OutputsAlike (slots.flatMap fun slot => [slot.mechanism.sum, epsilon, delta])
      (slots'.flatMap fun slot => [slot.mechanism.sum, epsilon, delta]) := by
  induction h with
  | nil => exact ⟨rfl, fun _ _ => rfl⟩
  | cons _ _ ih =>
    obtain ⟨hlength, hget⟩ := ih
    refine ⟨?_, fun k hk => ?_⟩
    · rw [List.flatMap_cons, List.flatMap_cons, List.length_append, List.length_append, hlength]
      rfl
    · match k with
      | 0 => exact absurd rfl hk
      | 1 => rfl
      | 2 => rfl
      | k + 3 => exact hget k (by omega)

end Bundle

/-! ## Bundles and checkpoints -/

/-- The two checkpoints are of one version, one counter and the same mechanisms. -/
structure Checkpoint.Alike (c c' : Checkpoint) : Prop where
  version_eq : c'.version = c.version
  total_eq : c'.total = c.total
  identifiers_eq : c'.entries.map (·.identifier) = c.entries.map (·.identifier)

namespace Bundle

/-- The two bundles differ in their sums only. -/
structure Alike (b b' : Bundle PrivateSum) : Prop where
  slots : List.Forall₂ Slot.Alike b.slots b'.slots
  budget_eq : b'.budget = b.budget
  total_eq : b'.total = b.total

namespace Alike

variable {b b' peer peer' : Bundle PrivateSum}

theorem refl (b : Bundle PrivateSum) : b.Alike b :=
  ⟨List.forall₂_same.2 fun _ _ => ⟨rfl, rfl⟩, rfl, rfl⟩

theorem size_eq (h : b.Alike b') : b'.size = b.size := h.slots.length_eq.symm

theorem map_frame_eq (h : b.Alike b') : b'.slots.map Slot.frame = b.slots.map Slot.frame :=
  map_eq_map_of_forall₂ h.slots fun _ _ hslot => hslot.frame_eq

theorem inputs_eq (h : b.Alike b') : b'.inputsPerMechanism = b.inputsPerMechanism :=
  Slot.map_eq_of_map_frame (·.2.1) h.map_frame_eq

theorem identifiers_eq (h : b.Alike b') : b'.identifiers = b.identifiers :=
  Slot.map_eq_of_map_frame (·.1) h.map_frame_eq

theorem expectedInputs_eq (h : b.Alike b') : b'.expectedInputs = b.expectedInputs := by
  rw [expectedInputs, expectedInputs, h.inputs_eq]

theorem counterAfter_eq (h : b.Alike b') (added : UInt64) :
    b'.counterAfter added = b.counterAfter added := by
  rw [counterAfter, counterAfter, h.total_eq]

/-- What speaks against a merge is not a matter of sums. -/
theorem incompatibility?_eq (h : b.Alike b') (hpeer : peer.Alike peer') :
    b'.incompatibility? peer' = b.incompatibility? peer := by
  rw [incompatibility?, incompatibility?, h.size_eq, hpeer.size_eq, h.inputs_eq, hpeer.inputs_eq,
    h.budget_eq, hpeer.budget_eq, incompatibleSlot?_eq h.slots hpeer.slots]

theorem isCompatible_eq (h : b.Alike b') (hpeer : peer.Alike peer') :
    b'.isCompatible peer' = b.isCompatible peer := by
  rw [isCompatible, isCompatible, h.incompatibility?_eq hpeer]

theorem canReport_eq (h : b.Alike b') : b'.canReport = b.canReport := all_canReport_eq h.slots

/-- The bundles that an operation leaves are alike, and its answers are the same. -/
def Outcome (r r' : Bundle PrivateSum × Except Error Unit) : Prop := r.1.Alike r'.1 ∧ r'.2 = r.2

/-- **Groups of one length** are taken in, or refused, alike. -/
theorem accumulate (h : b.Alike b') {inputs inputs' : List Double}
    (hlength : inputs'.length = inputs.length) :
    Logged.Alike Outcome (b.accumulate inputs) (b'.accumulate inputs') := by
  unfold Bundle.accumulate
  rw [h.expectedInputs_eq, hlength, h.counterAfter_eq, feed_eq, feed_eq]
  split
  · exact .pure ⟨h, rfl⟩
  · cases b.counterAfter 1 with
    | error e => exact .pure ⟨h, rfl⟩
    | ok total => exact ⟨⟨⟨alike_fed h.slots inputs inputs', h.budget_eq, rfl⟩, rfl⟩, rfl⟩

/-- **Peers that are alike** are merged, or refused, alike. -/
theorem merge (h : b.Alike b') (hpeer : peer.Alike peer') :
    Logged.Alike Outcome (b.merge peer) (b'.merge peer') := by
  unfold Bundle.merge
  rw [h.incompatibility?_eq hpeer, hpeer.total_eq, h.counterAfter_eq]
  cases hfits : b.incompatibility? peer with
  | some reason => exact .pure ⟨h, rfl⟩
  | none =>
    cases b.counterAfter peer.total with
    | error e => exact .pure ⟨h, rfl⟩
    | ok total =>
      have hsize : b.slots.length = peer.slots.length :=
        (incompatibility?_eq_none_iff.1 hfits).length_eq
      have hsize' : b'.slots.length = peer'.slots.length :=
        h.size_eq.trans (hsize.trans hpeer.size_eq.symm)
      rw [join_eq hsize, join_eq hsize']
      exact ⟨⟨⟨alike_joined h.slots hpeer.slots, h.budget_eq, rfl⟩, rfl⟩, rfl⟩

/-- **Checkpoints** are alike, whenever they are taken. -/
theorem checkpoint (h : b.Alike b') (now now' : Timestamp) :
    Logged.Alike (SameFate Checkpoint.Alike) (b.checkpoint now).run (b'.checkpoint now').run := by
  unfold Bundle.checkpoint
  rw [entries_eq, entries_eq, h.total_eq]
  refine ⟨.ok ⟨rfl, rfl, ?_⟩, ?_⟩
  · have hidentifiers := congrArg (List.map some) h.identifiers_eq
    rw [identifiers, identifiers, List.map_map, List.map_map] at hidentifiers
    rw [List.map_map, List.map_map]
    exact hidentifiers
  · have hlength : b'.slots.length = b.slots.length := h.size_eq
    change [_] = [_]
    rw [List.length_map, List.length_map, hlength]

/-- **Reports** are alike: the same error, or values that differ in the sums. -/
theorem report (h : b.Alike b') :
    Logged.Alike (SameFate OutputsAlike) b.report.run b'.report.run := by
  unfold Bundle.report
  rw [unreadySlot?_eq h.slots, h.budget_eq]
  cases unreadySlot? 0 b.slots with
  | some reason => exact .pure (.error _)
  | none =>
    have houtputs := outputsAlike_flatMap h.slots b.budget.epsilon b.budget.delta
    simp only [reports_eq]
    refine ⟨.ok houtputs, ?_⟩
    change [_] = [_]
    rw [houtputs.length_eq]

/-- Diagnostics show no sum. -/
theorem inspect_eq (h : b.Alike b') : b'.inspect = b.inspect := by
  unfold inspect
  rw [h.identifiers_eq, h.inputs_eq, h.budget_eq, h.total_eq]

end Alike
end Bundle

/-! ## Programs -/

namespace Program

/-- The two bundles were made from the same specification by the same factory, and are alike. -/
structure Held.Alike (h h' : Held) : Prop where
  factory_eq : h'.factory = h.factory
  spec_eq : h'.spec = h.spec
  bundle : h.bundle.Alike h'.bundle

/-- The two programs hold bundles that are alike in the same places. -/
def Places.Alike (places places' : Places) : Prop := ∀ i, Option.Rel Held.Alike (places i) (places' i)

/-- What the two calls return differs in sums only. -/
inductive Returned.Alike : Returned → Returned → Prop where
  | nothing : Alike .nothing .nothing
  | truth (value : Bool) : Alike (.truth value) (.truth value)
  | bundle {b b' : Bundle PrivateSum} : b.Alike b' → Alike (.bundle b) (.bundle b')
  | checkpoint {c c' : Checkpoint} : c.Alike c' → Alike (.checkpoint c) (.checkpoint c')
  | outputs {values values' : List Double} :
      Bundle.OutputsAlike values values' → Alike (.outputs values) (.outputs values')

/-- The two steps are the same call, with values of their own and at a time of its own. -/
inductive Step.Alike : Step → Step → Prop where
  | create (i : ℕ) (f : SumFactory) (s : BundleSpec) : Alike (.create i f s) (.create i f s)
  | accumulate (i : ℕ) {inputs inputs' : List Double} :
      inputs'.length = inputs.length → Alike (.accumulate i inputs) (.accumulate i inputs')
  | merge (i j : ℕ) : Alike (.merge i j) (.merge i j)
  | isCompatible (i j : ℕ) : Alike (.isCompatible i j) (.isCompatible i j)
  | canReport (i : ℕ) : Alike (.canReport i) (.canReport i)
  | checkpoint (i : ℕ) (now now' : Timestamp) : Alike (.checkpoint i now) (.checkpoint i now')
  | report (i : ℕ) : Alike (.report i) (.report i)

/-- The two answers are the same error, or show results that are alike. -/
def Answer.Alike (answer answer' : Answer) : Prop :=
  Option.Rel (SameFate Returned.Alike) answer answer'

/-- The two programs stand alike after a step: their answers do, and what they hold. -/
structure StandAlike (r r' : Answer × Places) : Prop where
  answer : Answer.Alike r.1 r'.1
  places : Places.Alike r.2 r'.2

variable {places places' : Places}

theorem Places.alike_empty : Places.Alike .empty .empty := fun _ => .none

theorem Places.Alike.update (hw : Places.Alike places places') (i : ℕ) {held held' : Option Held}
    (hheld : Option.Rel Held.Alike held held') :
    Places.Alike (Function.update places i held) (Function.update places' i held') :=
  Places.rel_update hw i hheld

theorem alike_visit (hw : Places.Alike places places') {held held' : Option Held}
    (hheld : Option.Rel Held.Alike held held') {work work' : Held → Logged (Answer × Places)}
    (hwork : ∀ h h', h.Alike h' → Logged.Alike StandAlike (work h) (work' h')) :
    Logged.Alike StandAlike (visit places held work) (visit places' held' work') := by
  cases hheld with
  | none => exact .pure ⟨.none, hw⟩
  | some h => exact hwork _ _ h

/-- A bundle is made, or is not, without a look at what is held. -/
theorem alike_install (hw : Places.Alike places places') (i : ℕ) (f : SumFactory) (s : BundleSpec)
    (making : Attempt Error (Bundle PrivateSum)) :
    Logged.Alike StandAlike (install places i f s making) (install places' i f s making) := by
  refine (Logged.Alike.refl making.run).bind ?_
  rintro result _ rfl
  cases result with
  | error e => exact .pure ⟨.some (.error e), hw⟩
  | ok b =>
    have hb : b.Alike b := .refl b
    exact .pure ⟨.some (.ok (.bundle hb)), hw.update i (.some ⟨rfl, rfl, hb⟩)⟩

theorem alike_putBack (hw : Places.Alike places places') (i : ℕ) {h h' : Held} (hh : h.Alike h')
    {operation operation' : Logged (Bundle PrivateSum × Except Error Unit)}
    (hoperation : Logged.Alike Bundle.Alike.Outcome operation operation') :
    Logged.Alike StandAlike (putBack places i h operation) (putBack places' i h' operation') := by
  refine hoperation.bind ?_
  rintro ⟨b, _⟩ ⟨b', result⟩ ⟨hb, rfl⟩
  refine .pure ⟨.some ?_, hw.update i (.some ⟨hh.factory_eq, hh.spec_eq, hb⟩)⟩
  exact (SameFate.refl result).map fun _ _ _ => Returned.Alike.nothing

/-- **A call leaves programs alike that were alike before it.** -/
theorem alike_act (hw : Places.Alike places places') {step step' : Step}
    (hstep : step.Alike step') :
    Logged.Alike StandAlike (act places step) (act places' step') := by
  cases hstep with
  | create i f s => exact alike_install hw i f s _
  | accumulate i hlength =>
    exact alike_visit hw (hw i) fun h h' hh =>
      alike_putBack hw i hh (hh.bundle.accumulate hlength)
  | merge i j =>
    have hothers := hw.update j .none
    exact alike_visit hw (hw j) fun peer peer' hpeer =>
      alike_visit hw (hothers i) fun h h' hh =>
        alike_putBack hothers i hh (hh.bundle.merge hpeer.bundle)
  | isCompatible i j =>
    refine alike_visit hw (hw i) fun h h' hh => alike_visit hw (hw j) fun peer peer' hpeer => ?_
    rw [hh.bundle.isCompatible_eq hpeer.bundle]
    exact .pure ⟨.some (.ok (.truth _)), hw⟩
  | canReport i =>
    refine alike_visit hw (hw i) fun h h' hh => ?_
    rw [hh.bundle.canReport_eq]
    exact .pure ⟨.some (.ok (.truth _)), hw⟩
  | checkpoint i now now' =>
    refine alike_visit hw (hw i) fun h h' hh => (hh.bundle.checkpoint now now').bind ?_
    intro result result' hresult
    exact .pure ⟨.some (hresult.map fun _ _ hc => .checkpoint hc), hw⟩
  | report i =>
    refine alike_visit hw (hw i) fun h h' hh => hh.bundle.report.bind ?_
    intro result result' hresult
    exact .pure ⟨.some (hresult.map fun _ _ houtputs => .outputs houtputs), hw.update i .none⟩

/-- The events of a run, step by step. -/
def logs : Places → List Step → List (List Log.Event)
  | _, [] => []
  | places, step :: steps => (act places step).events :: logs (act places step).value.2 steps

/-- The two moments are the same call, answered alike, with bundles that are alike after it. -/
structure Moment.Alike (moment moment' : Moment) : Prop where
  step : moment.step.Alike moment'.step
  answer : Answer.Alike moment.answer moment'.answer
  places : Places.Alike moment.places moment'.places

/-- Runs of the same calls are alike from places on that are alike. -/
theorem alike_run {steps steps' : List Step} (hsteps : List.Forall₂ Step.Alike steps steps')
    (hw : Places.Alike places places') :
    List.Forall₂ Moment.Alike (trace places steps) (trace places' steps') ∧
      logs places' steps' = logs places steps := by
  induction hsteps generalizing places places' with
  | nil => exact ⟨.nil, rfl⟩
  | cons hstep _ ih =>
    obtain ⟨⟨hanswer, hplaces⟩, hevents⟩ := alike_act hw hstep
    obtain ⟨htrace, hlogs⟩ := ih hplaces
    refine ⟨.cons ⟨hstep, hanswer, hplaces⟩ htrace, ?_⟩
    rw [logs, logs, hevents, hlogs]

/-- **A program is blind to its values.**  Two programs make the same calls, with groups of the same
lengths but any values.  Then every call is answered with the same error in both, or with results
that differ in nothing but sums: a report has one length and the same values outside of the first of
every three, and an answer of yes or no is the same.  After each call the same places hold bundles
that differ in nothing but their sums, with the same counters and shares.  And the events are the
same, one by one. -/
theorem blind_to_values {steps steps' : List Step}
    (hsteps : List.Forall₂ Step.Alike steps steps') :
    List.Forall₂ Moment.Alike (trace .empty steps) (trace .empty steps') ∧
      logs .empty steps' = logs .empty steps :=
  alike_run hsteps Places.alike_empty

/-- Two sums take in a NaN and an infinity in one program, and one and two in the other; in both,
the second is merged into the first, which is written down and asked for its report. -/
theorem blind_to_nan :
    let f : SumFactory := ⟨AnySum.factory (.ofNat .double 1), AnySum.isOfSums_factory _⟩
    let s := BundleSpec.sums [1] (.ofNat .double 1) (.zero .double false)
    let calls (x y : Double) : List Step := [.create 0 f s, .accumulate 0 [x], .accumulate 0 [],
      .create 1 f s, .accumulate 1 [y], .isCompatible 0 1, .merge 0 1, .canReport 0,
      .checkpoint 0 .epoch, .report 0]
    let wild := calls (.nan .double) (.infinity .double false)
    let tame := calls (.ofNat .double 1) (.ofNat .double 2)
    List.Forall₂ Moment.Alike (trace .empty wild) (trace .empty tame) ∧
      logs .empty tame = logs .empty wild := by
  intro f s calls wild tame
  have hone (x y : Double) : [y].length = [x].length := rfl
  refine blind_to_values ?_
  refine .cons (.create 0 f s) (.cons (.accumulate 0 (hone _ _)) (.cons (.accumulate 0 rfl) ?_))
  refine .cons (.create 1 f s) (.cons (.accumulate 1 (hone _ _)) (.cons (.isCompatible 0 1) ?_))
  refine .cons (.merge 0 1) (.cons (.canReport 0) (.cons (.checkpoint 0 .epoch .epoch) ?_))
  exact .cons (.report 0) .nil

end Program
end SharedBudget
