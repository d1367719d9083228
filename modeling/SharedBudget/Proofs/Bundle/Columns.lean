/-
# Bundles in columns are bundles in slots

A bundle in columns whose lists have one length is a bundle in slots
(`Bundle.Columns.Aligned`, `Bundle.Columns.aligned_iff`).  Every operation then does
in columns what it does in slots, and none of its look-ups finds nothing
(`Bundle.accumulate_columns`, `Bundle.merge_columns`, `Bundle.report_columns`,
`Bundle.checkpoint_columns`); what is made in columns has lists of one length, whatever
the checkpoint says (`Bundle.Columns.build_eq`).

So a bundle in columns has the shape of its specification from the time it is made,
whatever it takes in or refuses, and no number that an operation looks up is out of
range (`Bundle.Columns.Becomes.keeps_shape`).
-/

import SharedBudget.Bundle.Columns
import SharedBudget.Proofs.Bundle.Shape

namespace SharedBudget

namespace Halt

variable {α β : Type}

@[simp] theorem lift_ok (a : α) : lift (.ok a) = .ok a := rfl

theorem lift_bind (x : Except Error α) (g : α → Except Error β) :
    lift (x >>= g) = lift x >>= fun a => lift (g a) := by
  cases x <;> rfl

/-- What looks nothing up misses nothing. -/
theorem lift_ne_missing (x : Except Error α) : lift x ≠ .error .missing := by
  cases x <;> exact nofun

theorem lookup_of_getElem? {xs : List α} {index : ℕ} {x : α} (h : xs[index]? = some x) :
    lookup xs index = .ok x := by
  rw [lookup, h]

end Halt

namespace Bundle

open Halt

variable {α π V : Type}

/-! ## Columns and slots -/

/-- The columns of a bundle. -/
def columns (b : Bundle π) : Columns π where
  nested := b.slots.map (·.mechanism)
  identifiers := b.identifiers
  inputs := b.inputsPerMechanism
  budget := b.budget
  total := b.total

namespace Columns

/-- The three lists have one length. -/
structure Aligned (c : Columns π) : Prop where
  length_identifiers : c.identifiers.length = c.nested.length
  length_inputs : c.inputs.length = c.nested.length

/-- The slots of three lists. -/
def slots : List π → List String → List ℕ → List (Slot π)
  | mechanism :: nested, identifier :: identifiers, count :: inputs =>
    ⟨identifier, count, mechanism⟩ :: slots nested identifiers inputs
  | _, _, _ => []

/-- The bundle in slots. -/
def bundle (c : Columns π) : Bundle π := ⟨slots c.nested c.identifiers c.inputs, c.budget, c.total⟩

/-- Lists of one length lose nothing when they are put together to slots. -/
theorem unzip_slots {nested : List π} : ∀ {identifiers : List String} {inputs : List ℕ},
    identifiers.length = nested.length → inputs.length = nested.length →
      (slots nested identifiers inputs).map (·.mechanism) = nested ∧
        (slots nested identifiers inputs).map (·.identifier) = identifiers ∧
          (slots nested identifiers inputs).map (·.inputs) = inputs := by
  induction nested with
  | nil =>
    intro identifiers inputs hidentifiers hinputs
    obtain rfl := List.length_eq_zero_iff.1 hidentifiers
    obtain rfl := List.length_eq_zero_iff.1 hinputs
    exact ⟨rfl, rfl, rfl⟩
  | cons mechanism nested ih =>
    intro identifiers inputs hidentifiers hinputs
    obtain ⟨identifier, identifiers, rfl⟩ := List.exists_cons_of_length_eq_add_one hidentifiers
    obtain ⟨count, inputs, rfl⟩ := List.exists_cons_of_length_eq_add_one hinputs
    obtain ⟨h₁, h₂, h₃⟩ := ih (Nat.succ.inj hidentifiers) (Nat.succ.inj hinputs)
    exact ⟨congrArg (mechanism :: ·) h₁, congrArg (identifier :: ·) h₂, congrArg (count :: ·) h₃⟩

theorem Aligned.columns_bundle {c : Columns π} (h : c.Aligned) : c.bundle.columns = c := by
  obtain ⟨h₁, h₂, h₃⟩ := unzip_slots h.length_identifiers h.length_inputs
  have hcolumns : c.bundle.columns =
      { nested := (slots c.nested c.identifiers c.inputs).map (·.mechanism)
        identifiers := (slots c.nested c.identifiers c.inputs).map (·.identifier)
        inputs := (slots c.nested c.identifiers c.inputs).map (·.inputs)
        budget := c.budget
        total := c.total } := rfl
  rw [hcolumns, h₁, h₂, h₃]

end Columns

theorem aligned_columns (b : Bundle π) : b.columns.Aligned where
  length_identifiers := (List.length_map ..).trans (List.length_map ..).symm
  length_inputs := (List.length_map ..).trans (List.length_map ..).symm

/-- **Lists of one length are a bundle in slots.** -/
theorem Columns.aligned_iff {c : Columns π} : c.Aligned ↔ ∃ b : Bundle π, c = b.columns := by
  constructor
  · intro h
    exact ⟨c.bundle, h.columns_bundle.symm⟩
  · rintro ⟨b, rfl⟩
    exact b.aligned_columns

/-- Other mechanisms in the same places leave the other columns as they are. -/
theorem columns_of_places {b : Bundle π} {slots : List (Slot π)} {total : UInt64}
    (hplaces : slots.map Slot.place = b.slots.map Slot.place) :
    columns { b with slots, total } =
      { b.columns with nested := slots.map (·.mechanism), total } := by
  obtain ⟨hidentifiers, hinputs⟩ := Slot.maps_eq_of_places hplaces
  unfold columns identifiers inputsPerMechanism
  rw [hidentifiers, hinputs]

/-! ## Taking in groups -/

/-- **No slice is missing** of a group that is as wide as all of them together. -/
theorem feed_columns [Mechanism π V] {group : List V} {slots : List (Slot π)} {offset : ℕ}
    (h : offset + (slots.map (·.inputs)).sum ≤ group.length) :
    Columns.feed group offset (slots.map (·.mechanism)) (slots.map (·.inputs)) =
      ((feed slots (group.drop offset)).1.map (·.mechanism),
        lift (feed slots (group.drop offset)).2) := by
  induction slots generalizing offset with
  | nil => rfl
  | cons slot slots ih =>
    rw [List.map_cons, List.sum_cons, ← Nat.add_assoc] at h
    have hslice : slice group offset slot.inputs = .ok ((group.drop offset).take slot.inputs) :=
      if_pos ((Nat.le_add_right ..).trans h)
    rw [List.map_cons, List.map_cons, Columns.feed, feed, hslice, ih h, List.drop_drop]
    dsimp only
    cases Mechanism.accumulate slot.mechanism ((group.drop offset).take slot.inputs) <;> rfl

/-- **A group is taken in as it is in slots.** -/
theorem accumulate_columns [Mechanism π V] (b : Bundle π) (group : List V) :
    b.columns.accumulate group =
      ((b.accumulate group).value.1.columns, lift (b.accumulate group).value.2) := by
  have hexpected : b.columns.expectedInputs = b.expectedInputs := rfl
  have hcounter : b.columns.counterAfter 1 = b.counterAfter 1 := rfl
  unfold Columns.accumulate accumulate
  rw [hexpected, hcounter]
  by_cases hwidth : group.length = b.expectedInputs
  · simp only [hwidth, ne_eq, not_true_eq_false, if_false]
    cases b.counterAfter 1 with
    | error e => rfl
    | ok total =>
      have hfits : 0 + (b.slots.map (·.inputs)).sum ≤ group.length := by
        rw [Nat.zero_add]
        exact hwidth.ge
      have hfeed : Columns.feed group 0 b.columns.nested b.columns.inputs = _ := feed_columns hfits
      have hplaces := map_place_feed b.slots group
      rw [List.drop_zero] at hfeed
      rw [hfeed]
      cases hresult : feed b.slots group with
      | mk slots result =>
        rw [hresult] at hplaces
        cases result with
        | error e => exact congrArg (·, _) (columns_of_places hplaces).symm
        | ok _ => exact congrArg (·, _) (columns_of_places hplaces).symm
  · simp only [hwidth, ne_eq, not_false_eq_true, if_true]
    rfl

/-! ## Merging -/

/-- **The name of an incompatible mechanism is there.**  `before` are the names of the places that
have been gone through. -/
theorem incompatiblePlace?_columns [Mechanism π V] (before : List String)
    (slots peers : List (Slot π)) :
    Columns.incompatiblePlace? (before ++ slots.map (·.identifier)) before.length
        (slots.map (·.mechanism)) (peers.map (·.mechanism)) =
      .ok (incompatibleSlot? before.length slots peers) := by
  induction slots generalizing before peers with
  | nil => cases peers <;> rfl
  | cons slot slots ih =>
    cases peers with
    | nil => rfl
    | cons peer peers =>
      simp only [List.map_cons]
      rw [Columns.incompatiblePlace?, incompatibleSlot?]
      by_cases h : Mechanism.isCompatible slot.mechanism peer.mechanism
      · have hnext := ih (before ++ [slot.identifier]) peers
        rw [List.append_assoc, List.singleton_append, List.length_append] at hnext
        rw [if_pos h, if_pos h]
        exact hnext
      · have hname : (before ++ slot.identifier :: slots.map (·.identifier))[before.length]? =
            some slot.identifier := by
          rw [List.getElem?_append_right le_rfl, Nat.sub_self]
          rfl
        rw [if_neg h, if_neg h, lookup_of_getElem? hname]
        rfl

theorem incompatibility?_columns [Mechanism π V] (b peer : Bundle π) :
    b.columns.incompatibility? peer.columns = .ok (b.incompatibility? peer) := by
  have hsize (b : Bundle π) : b.columns.nested.length = b.size := List.length_map ..
  have hplace : Columns.incompatiblePlace? b.columns.identifiers 0 b.columns.nested
      peer.columns.nested = _ := incompatiblePlace?_columns [] b.slots peer.slots
  unfold Columns.incompatibility? incompatibility?
  rw [hsize, hsize, hplace, apply_ite Except.ok, apply_ite Except.ok, apply_ite Except.ok]
  rfl

theorem isCompatible_columns [Mechanism π V] (b peer : Bundle π) :
    b.columns.isCompatible peer.columns = .ok (b.isCompatible peer) := by
  rw [Columns.isCompatible, incompatibility?_columns]
  rfl

theorem join_columns [Mechanism π V] (slots peers : List (Slot π)) :
    Columns.join (slots.map (·.mechanism)) (peers.map (·.mechanism)) =
      ((join slots peers).1.map (·.mechanism), lift (join slots peers).2) := by
  induction slots generalizing peers with
  | nil => cases peers <;> rfl
  | cons slot slots ih =>
    cases peers with
    | nil => rfl
    | cons peer peers =>
      rw [List.map_cons, List.map_cons, Columns.join, join, ih]
      cases Mechanism.merge slot.mechanism peer.mechanism <;> rfl

/-- **A peer is merged as it is in slots.** -/
theorem merge_columns [Mechanism π V] (b peer : Bundle π) :
    b.columns.merge peer.columns =
      ((b.merge peer).value.1.columns, lift (b.merge peer).value.2) := by
  have hcounter : b.columns.counterAfter peer.columns.total = b.counterAfter peer.total := rfl
  have hjoin : Columns.join b.columns.nested peer.columns.nested = _ :=
    join_columns b.slots peer.slots
  have hplaces := map_place_join b.slots peer.slots
  unfold Columns.merge merge
  rw [incompatibility?_columns, hcounter, hjoin]
  cases b.incompatibility? peer with
  | some reason => rfl
  | none =>
    cases b.counterAfter peer.total with
    | error e => rfl
    | ok total =>
      cases hresult : join b.slots peer.slots with
      | mk slots result =>
        rw [hresult] at hplaces
        cases result with
        | error e => exact congrArg (·, _) (columns_of_places hplaces).symm
        | ok _ => exact congrArg (·, _) (columns_of_places hplaces).symm

/-- **Any peer is one in slots, or is refused for its shape.**  The checks before a merge see the
lengths of the peer's lists, and nothing reads its identifiers. -/
theorem Columns.Aligned.refused_or_exists [Mechanism π V] {c : Columns π} (h : c.Aligned)
    (peer : Columns π) : (∃ reason, c.incompatibility? peer = .ok (some reason)) ∨
      ∃ b : Bundle π, c.incompatibility? peer = c.incompatibility? b.columns ∧
        c.merge peer = c.merge b.columns := by
  by_cases hnested : c.nested.length = peer.nested.length
  · by_cases hinputs : c.inputs = peer.inputs
    · have hpeer : Aligned { peer with identifiers := c.identifiers } :=
        ⟨h.length_identifiers.trans hnested, hinputs ▸ h.length_inputs.trans hnested⟩
      obtain ⟨b, hb⟩ := aligned_iff.1 hpeer
      refine .inr ⟨b, ?_, ?_⟩ <;>
        · rw [← hb]
          rfl
    · refine .inl ⟨.arities c.inputs peer.inputs, ?_⟩
      rw [incompatibility?, if_neg (not_not_intro hnested), if_pos hinputs]
  · exact .inl ⟨_, if_pos hnested⟩

/-! ## Reporting -/

theorem canReport_columns [Mechanism π V] (b : Bundle π) : b.columns.canReport = b.canReport :=
  List.all_map

/-- The first mechanism that cannot report, by its number and its name. -/
theorem unreadySlot?_eq_findIdx? [Mechanism π V] (index : ℕ) (slots : List (Slot π)) :
    unreadySlot? index slots =
      ((slots.map (·.mechanism)).findIdx? fun m => !Mechanism.canReport m).bind fun i =>
        (slots.map (·.identifier))[i]?.map (.nested (index + i)) := by
  induction slots generalizing index with
  | nil => rfl
  | cons slot slots ih =>
    rw [unreadySlot?, List.map_cons, List.map_cons, List.findIdx?_cons]
    by_cases h : Mechanism.canReport slot.mechanism
    · have hnumber (i : ℕ) : index + 1 + i = index + (i + 1) := by omega
      simp only [h, if_true, Bool.not_true, Bool.false_eq_true, if_false, ih, Option.bind_map,
        hnumber]
      rfl
    · simp only [h, Bool.false_eq_true, if_false, Bool.not_false, if_true]
      rfl

theorem reports_columns [PrivateMechanism π V] (b : Bundle π) (slots : List (Slot π)) :
    Columns.report.reports b.columns (slots.map (·.mechanism)) =
      reports b.budget.epsilon b.budget.delta slots := by
  induction slots with
  | nil => rfl
  | cons slot slots ih =>
    rw [List.map_cons, Columns.report.reports, reports, ih]
    rfl

/-- **A bundle reports as it does in slots.** -/
theorem report_columns [PrivateMechanism π V] (b : Bundle π) :
    b.columns.report = lift b.report.outcome := by
  have hnested : b.columns.nested = b.slots.map (·.mechanism) := rfl
  unfold Columns.report report
  rw [unreadySlot?_eq_findIdx?, hnested, reports_columns]
  cases hfind : (b.slots.map (·.mechanism)).findIdx? fun m => !Mechanism.canReport m with
  | none =>
    dsimp only [Option.bind_none]
    cases reports b.budget.epsilon b.budget.delta b.slots <;> rfl
  | some i =>
    have hi : i < (b.slots.map (·.identifier)).length := by
      obtain ⟨hi, -⟩ := List.findIdx?_eq_some_iff_getElem.1 hfind
      rwa [List.length_map] at hi ⊢
    have hname : (b.slots.map (·.identifier))[i]? = some _ := List.getElem?_eq_getElem hi
    have hlookup : lookup b.columns.identifiers i = .ok _ := lookup_of_getElem? hname
    dsimp only
    rw [hlookup, Option.bind_some, hname, Nat.zero_add]
    rfl

theorem entries_columns [Mechanism π V] (slots : List (Slot π)) :
    Columns.entries (slots.map (·.identifier)) (slots.map (·.mechanism)) = entries slots := by
  induction slots with
  | nil => rfl
  | cons slot slots ih =>
    rw [List.map_cons, List.map_cons, Columns.entries, entries, ih]

/-- **A bundle is written down as it is in slots.** -/
theorem checkpoint_columns [Mechanism π V] (b : Bundle π) (now : Timestamp) :
    b.columns.checkpoint now = (b.checkpoint now).outcome := by
  have hentries : Columns.entries b.columns.identifiers b.columns.nested = _ :=
    entries_columns b.slots
  unfold Columns.checkpoint checkpoint
  rw [hentries]
  cases entries b.slots <;> rfl

/-! ## Making -/

namespace Columns

/-- A checkpoint is checked as it is when its entries are paired with the mechanisms. -/
theorem checkState_eq (s : BundleSpec) (state : Option Checkpoint) :
    checkState s state = (Factory.pairs s state).outcome >>= fun _ => .ok () := by
  cases state with
  | none => rfl
  | some state =>
    rw [checkState, Factory.outcome_pairs_some]
    by_cases hlength : state.entries.length = s.nested.length
    · rw [if_neg (not_not_intro hlength), if_pos hlength]
      cases state.check <;> rfl
    · rw [if_pos hlength, if_neg hlength]
      rfl

/-- **The entry of every mechanism is there,** once the checkpoint has been checked. -/
theorem entryOf_of_pairs {s : BundleSpec} {state : Option Checkpoint}
    {ps : List (MechanismSpec × Option Checkpoint.Entry)}
    (hps : (Factory.pairs s state).outcome = .ok ps) {i : ℕ} {m : MechanismSpec}
    {entry : Option Checkpoint.Entry} (h : ps[i]? = some (m, entry)) :
    entryOf state i = .ok entry := by
  obtain ⟨hm, rfl⟩ := Factory.getElem?_pairs_eq_some hps h
  cases state with
  | none => rfl
  | some state =>
    obtain ⟨hlength, -, -⟩ := Factory.pairs_some_eq_ok_iff.1 hps
    have hi : i < state.entries.length := hlength ▸ (List.getElem?_eq_some_iff.1 hm).1
    have hentry : state.entries[i]? = some state.entries[i] := List.getElem?_eq_getElem hi
    have hat : Factory.entryAt (some state) i = some state.entries[i] := hentry
    rw [entryOf, lookup_of_getElem? hentry, hat]
    rfl

/-- **Two lists that grow together:** the mechanisms that are made, and the numbers of their inputs,
are those of the slots. -/
theorem resolveAll_eq (f : Factory α π) {state : Option Checkpoint}
    {ps : List (MechanismSpec × Option Checkpoint.Entry)} {index : ℕ}
    (hentries : ∀ i m entry, ps[i]? = some (m, entry) → entryOf state (index + i) = .ok entry)
    (nested : List π) (inputs : List ℕ) :
    resolveAll f state index (ps.map Prod.fst) nested inputs =
      (fun made : List (Slot π) =>
        (nested ++ made.map (·.mechanism), inputs ++ made.map (·.inputs))) <$>
          lift (f.resolveAll index ps).outcome := by
  induction ps generalizing index nested inputs with
  | nil =>
    have hnil : (f.resolveAll index []).outcome = .ok [] := rfl
    rw [hnil, List.map_nil, resolveAll, lift_ok]
    exact congrArg Except.ok (Prod.ext (List.append_nil _).symm (List.append_nil _).symm)
  | cons pair ps ih =>
    obtain ⟨m, entry⟩ := pair
    have hnow : entryOf state index = .ok entry := hentries 0 m entry rfl
    have hlater (i : ℕ) (m' : MechanismSpec) (entry' : Option Checkpoint.Entry)
        (h : ps[i]? = some (m', entry')) : entryOf state (index + 1 + i) = .ok entry' := by
      rw [Nat.add_right_comm, Nat.add_assoc]
      exact hentries (i + 1) m' entry' h
    rw [List.map_cons, resolveAll, hnow, ok_bind, Factory.outcome_resolveAll_cons]
    cases hslot : f.resolve index m entry with
    | error e => rfl
    | ok slot =>
      have hinputs : slot.inputs = m.inputCount := (Factory.resolve_eq_ok_iff.1 hslot).inputs_eq
      rw [lift_ok, ok_bind, ok_bind, ih hlater]
      cases (f.resolveAll (index + 1) ps).outcome with
      | error e => rfl
      | ok made =>
        refine congrArg Except.ok (Prod.ext ?_ ?_)
        · exact List.append_assoc ..
        · rw [← hinputs]
          exact List.append_assoc ..

/-- The loop over all mechanisms looks up their own entries. -/
theorem resolveAll_of_pairs (f : Factory α π) {s : BundleSpec} {state : Option Checkpoint}
    {ps : List (MechanismSpec × Option Checkpoint.Entry)}
    (hps : (Factory.pairs s state).outcome = .ok ps) :
    resolveAll f state 0 s.nested [] [] =
      (fun made : List (Slot π) => (made.map (·.mechanism), made.map (·.inputs))) <$>
        lift (f.resolveAll 0 ps).outcome := by
  have hentries (i : ℕ) (m : MechanismSpec) (entry : Option Checkpoint.Entry)
      (h : ps[i]? = some (m, entry)) : entryOf state (0 + i) = .ok entry := by
    rw [Nat.zero_add]
    exact entryOf_of_pairs hps h
  rw [← Factory.map_fst_pairs hps]
  exact resolveAll_eq f hentries [] []

/-- **The two parameters are there** when they are looked up. -/
theorem budgetOf_eq (parameters : List Parameter) :
    budgetOf parameters = lift (Budget.ofParameters parameters) := by
  by_cases h : parameters.length = 2
  · obtain ⟨e, d, rfl⟩ := List.length_eq_two.1 h
    have hchecks (epsilon delta : Double) :
        lift (if Budget.isEpsilon epsilon then
            if Budget.isDelta delta then .ok (epsilon, delta) else .error (.deltaOutOfRange delta)
          else .error (.nonPositiveEpsilon epsilon)) =
          if Budget.isEpsilon epsilon then
            if Budget.isDelta delta then .ok (epsilon, delta)
            else .error (.error (.deltaOutOfRange delta))
          else .error (.error (.nonPositiveEpsilon epsilon)) := by
      split_ifs <;> rfl
    simp only [Budget.ofParameters, lift_bind, hchecks]
    rfl
  · have hcount : Budget.ofParameters parameters = .error (.parameterCount parameters.length) := by
      unfold Budget.ofParameters
      split
      · exact absurd rfl h
      · rfl
    rw [budgetOf, if_pos h, hcount]
    rfl

/-- Every mechanism that is made has the name of its specification. -/
theorem identifiers_of_resolveAll {f : Factory α π} {s : BundleSpec} {state : Option Checkpoint}
    {ps : List (MechanismSpec × Option Checkpoint.Entry)} {made : List (Slot π)}
    (hps : (Factory.pairs s state).outcome = .ok ps)
    (h : (f.resolveAll 0 ps).outcome = .ok made) :
    made.map (·.identifier) = s.nested.map (·.identifier) := by
  rw [← Factory.map_fst_pairs hps, List.map_map]
  exact map_eq_map_of_forall₂ (Factory.resolveAll_eq_ok_iff.1 h) fun _ _ hmade =>
    hmade.identifier_eq

/-- **What is made in columns is what is made in slots,** or it is refused with the same error; no
number of an entry or a parameter is out of range, whatever the checkpoint is. -/
theorem build_eq (f : Factory α π) (s : BundleSpec) (state : Option Checkpoint) :
    build f s state = lift (columns <$> (f.build s state).outcome) := by
  rw [Factory.outcome_build]
  unfold build
  cases Config.checkThreshold f.threshold with
  | error e => rfl
  | ok _ =>
    by_cases hn : s.nested = []
    · simp only [hn]
      rfl
    · have hempty : s.nested.isEmpty = false := by simpa using hn
      rw [checkState_eq]
      cases hps : (Factory.pairs s state).outcome with
      | error e =>
        simp only [hempty, hn, ne_eq, not_false_eq_true, if_true, Bool.false_eq_true, if_false]
        rfl
      | ok ps =>
        simp only [resolveAll_of_pairs f hps, budgetOf_eq, hempty, hn, ne_eq, not_false_eq_true,
          if_true, Bool.false_eq_true, if_false, ok_bind, lift_ok, Except.mapError]
        cases hmade : (f.resolveAll 0 ps).outcome with
        | error e => rfl
        | ok made =>
          rw [← identifiers_of_resolveAll hps hmade]
          cases Budget.ofParameters s.parameters with
          | error e => rfl
          | ok x =>
            obtain ⟨epsilon, delta⟩ := x
            simp only [ok_bind, lift_ok]
            cases (Budget.split epsilon delta s.nested.length f.threshold).outcome <;> rfl

theorem restoreBytes_eq (f : Factory α π) (s : BundleSpec) (text : Bytes) :
    restoreBytes f s text = lift (columns <$> (f.restoreBytes s text).outcome) := by
  have hslots : (f.restoreBytes s text).outcome =
      (Checkpoint.ofBytes text).outcome.mapError Error.state >>= fun state =>
        (f.build s (some state)).outcome := by
    rw [Factory.restoreBytes, Factory.outcome_concluded, Attempt.outcome_bind,
      Attempt.outcome_mapError]
  rw [hslots, restoreBytes]
  cases (Checkpoint.ofBytes text).outcome with
  | error e => rfl
  | ok state => exact build_eq f s (some state)

/-- **Making a bundle looks up nothing that is not there,** fresh or from any checkpoint. -/
theorem build_ne_missing (f : Factory α π) (s : BundleSpec) (state : Option Checkpoint) :
    build f s state ≠ .error .missing := by
  rw [build_eq]
  exact lift_ne_missing _

theorem restoreBytes_ne_missing (f : Factory α π) (s : BundleSpec) (text : Bytes) :
    restoreBytes f s text ≠ .error .missing := by
  rw [restoreBytes_eq]
  exact lift_ne_missing _

/-- A bundle in columns that is made in one of the three ways. -/
def Builds (f : Factory α π) (s : BundleSpec) (c : Columns π) : Prop :=
  create f s = .ok c ∨ (∃ state, restore f s state = .ok c) ∨ ∃ text, restoreBytes f s text = .ok c

/-- **A bundle is made in columns exactly if it is made in slots.** -/
theorem builds_iff {f : Factory α π} {s : BundleSpec} {c : Columns π} :
    Builds f s c ↔ ∃ b, f.Builds s b ∧ c = b.columns := by
  have hlift (x : Except Error (Bundle π)) :
      lift (columns <$> x) = .ok c ↔ ∃ b, x = .ok b ∧ c = b.columns := by
    rw [lift, mapError_eq_ok_iff, map_eq_ok_iff]
    exact exists_congr fun b => and_congr_right fun _ => eq_comm
  unfold Builds create restore Factory.Builds Factory.create Factory.restore
  simp only [build_eq, restoreBytes_eq, hlift, Factory.outcome_concluded]
  constructor
  · rintro (⟨b, h, rfl⟩ | ⟨state, b, h, rfl⟩ | ⟨text, b, h, rfl⟩)
    · exact ⟨b, .inl h, rfl⟩
    · exact ⟨b, .inr (.inl ⟨state, h⟩), rfl⟩
    · exact ⟨b, .inr (.inr ⟨text, h⟩), rfl⟩
  · rintro ⟨b, h | ⟨state, h⟩ | ⟨text, h⟩, rfl⟩
    · exact .inl ⟨b, h, rfl⟩
    · exact .inr (.inl ⟨state, b, h, rfl⟩)
    · exact .inr (.inr ⟨text, b, h, rfl⟩)

/-! ## Histories -/

/-- The second bundle is what the first becomes by groups of inputs and peers, taken in or
refused. -/
inductive Becomes [Mechanism π V] (start : Columns π) : Columns π → Prop where
  | refl : Becomes start start
  | accumulate {c : Columns π} (group : List V) :
      Becomes start c → Becomes start (c.accumulate group).1
  | merge {c : Columns π} (peer : Columns π) : Becomes start c → Becomes start (c.merge peer).1

/-- Whatever happens in columns happens in slots. -/
theorem Becomes.exists_slots [Mechanism π V] {b : Bundle π} {c : Columns π}
    (h : Becomes b.columns c) : ∃ b' : Bundle π, b.Becomes b' ∧ c = b'.columns := by
  induction h with
  | refl => exact ⟨b, .refl, rfl⟩
  | accumulate group _ ih =>
    obtain ⟨b', hb', rfl⟩ := ih
    rw [accumulate_columns]
    exact ⟨_, hb'.accumulate group, rfl⟩
  | merge peer _ ih =>
    obtain ⟨b', hb', rfl⟩ := ih
    rcases b'.aligned_columns.refused_or_exists peer with ⟨reason, hreason⟩ | ⟨peer', -, hmerge⟩
    · rw [Columns.merge, hreason]
      exact ⟨b', hb', rfl⟩
    · rw [hmerge, merge_columns]
      exact ⟨_, hb'.merge peer', rfl⟩

/-- No operation looks up what is not there: neither the slice of a group nor the name of a
mechanism that an error names. -/
structure InRange [PrivateMechanism π V] (c : Columns π) : Prop where
  accumulate : ∀ group : List V, (c.accumulate group).2 ≠ .error .missing
  incompatibility : ∀ peer : Columns π, c.incompatibility? peer ≠ .error .missing
  merge : ∀ peer : Columns π, (c.merge peer).2 ≠ .error .missing
  report : c.report ≠ .error .missing

/-- **Lists of one length keep every look-up in range.** -/
theorem Aligned.inRange [PrivateMechanism π V] {c : Columns π} (h : c.Aligned) : c.InRange := by
  obtain ⟨b, rfl⟩ := aligned_iff.1 h
  refine ⟨fun group => ?_, fun peer => ?_, fun peer => ?_, ?_⟩
  · rw [accumulate_columns]
    exact lift_ne_missing _
  · rcases h.refused_or_exists peer with ⟨reason, hreason⟩ | ⟨peer', hpeer, -⟩
    · rw [hreason]
      exact nofun
    · rw [hpeer, incompatibility?_columns]
      exact nofun
  · rcases h.refused_or_exists peer with ⟨reason, hreason⟩ | ⟨peer', -, hmerge⟩
    · rw [Columns.merge, hreason]
      exact nofun
    · rw [hmerge, merge_columns]
      exact lift_ne_missing _
  · rw [report_columns]
    exact lift_ne_missing _

/-- A mechanism that cannot report, in lists that have not one length: its name is missing. -/
example : (Columns.report
    { nested := [PrivateSum.empty 1], identifiers := [], inputs := [1],
      budget := Budget.shares (.ofNat .double 1) (.zero .double false) 1 (.ofNat .double 1),
      total := 0 } : Except Halt (List Double)) = .error .missing := rfl

/-! ## The shape of the specification -/

/-- The bundle represents its specification: there is a mechanism, the three lists have one length,
the identifiers and the numbers of inputs are those of the specification, every mechanism is one
that promises privacy, and the shares are those of the specification's own parameters. -/
structure Represents (f : Factory AnySum PrivateSum) (s : BundleSpec) (c : Columns PrivateSum) :
    Prop where
  length_pos : 1 ≤ c.nested.length
  length_nested : c.nested.length = s.nested.length
  length_identifiers : c.identifiers.length = c.nested.length
  length_inputs : c.inputs.length = c.nested.length
  identifiers_eq : c.identifiers = s.identifiers
  inputs_eq : c.inputs = s.inputCounts
  maker_eq : ∀ identifier ∈ c.identifiers,
    f.registry.maker? identifier = some AnySum.privateMaker
  mechanisms_eq : c.budget.mechanisms = c.nested.length
  budget_eq : ∃ epsilon delta, Budget.ofParameters s.parameters = .ok (epsilon, delta) ∧
    (Budget.split epsilon delta c.nested.length f.threshold).outcome = .ok c.budget

variable {f : Factory AnySum PrivateSum} {s : BundleSpec}

/-- The columns of a bundle of a specification represent it. -/
theorem represents_of_isOf {b : Bundle PrivateSum} (h : b.IsOf f s) :
    Represents f s b.columns := by
  obtain ⟨_, hn, epsilon, delta, hparameters, hbudget⟩ := h.grants
  have hslots : b.columns.nested.length = b.slots.length := List.length_map ..
  have hsize : b.columns.nested.length = s.nested.length := hslots.trans h.slots.length_eq.symm
  have hpos : s.nested.length ≠ 0 := fun h0 => hn (List.length_eq_zero_iff.1 h0)
  exact {
    length_pos := hsize ▸ Nat.one_le_iff_ne_zero.2 hpos
    length_nested := hsize
    length_identifiers := b.aligned_columns.length_identifiers
    length_inputs := b.aligned_columns.length_inputs
    identifiers_eq := h.identifiers_eq
    inputs_eq := h.inputs_eq
    maker_eq := by
      refine List.forall_mem_map.2 (forall_mem_of_forall₂ h.slots fun m _ slot hslot => ?_)
      rw [hslot.identifier_eq]
      exact hslot.maker_eq
    mechanisms_eq := by
      have hbudget : b.columns.budget = _ := hbudget
      rw [hbudget, hsize]
      rfl
    budget_eq := by
      have hbudget : b.columns.budget = _ := hbudget
      refine ⟨epsilon, delta, hparameters, ?_⟩
      rw [hsize, Factory.outcome_split hpos, hbudget] }

/-- **The shape of every bundle.**  A bundle that was made in any of the three ways, restored
checkpoints and documents of any origin included, and whatever it has become since by groups and
peers, taken in or refused, represents its specification: its three lists have one length.  Its
shares are still those that it was made with, and its counter never goes back.  No look-up of its
operations is out of range, and none of those by which a bundle is made: the entry of every
mechanism and the two parameters. -/
theorem Becomes.keeps_shape {start c : Columns PrivateSum} (hf : f.IsOfSums)
    (hbuilt : Builds f s start) (h : Becomes start c) :
    Represents f s c ∧ c.budget = start.budget ∧ start.total ≤ c.total ∧
      (∀ c', Becomes c c' → c.total ≤ c'.total) ∧ c.InRange ∧
      (∀ (spec : BundleSpec) (state : Option Checkpoint), build f spec state ≠ .error .missing) ∧
      ∀ (spec : BundleSpec) (text : Bytes), restoreBytes f spec text ≠ .error .missing := by
  obtain ⟨made, hmade, rfl⟩ := builds_iff.1 hbuilt
  obtain ⟨b, hb, rfl⟩ := h.exists_slots
  have hevolves := hb.evolves
  have hown : b.IsOf f s := hb.isOf (isOf_of_builds hf hmade)
  refine ⟨represents_of_isOf hown, hevolves.budget_eq, hevolves.total_le, fun c' hc' => ?_,
    b.aligned_columns.inRange, build_ne_missing f, restoreBytes_ne_missing f⟩
  obtain ⟨b', hb', rfl⟩ := hc'.exists_slots
  exact hb'.evolves.total_le

/-- A sum that comes back from the document of its checkpoint, is offered a group that is too
wide and then merged into a copy of itself. -/
theorem represents_after_restore :
    let f := AnySum.factory (.ofNat .double 1)
    let s := BundleSpec.sums [1] (.ofNat .double 1) (.zero .double false)
    let start := (single (.ofNat .double 1) 1).columns
    let refused := (start.accumulate [Binary.zero .double false, .zero .double false]).1
    let merged := (refused.merge start).1
    f.IsOfSums ∧ Builds f s start ∧ Becomes start merged ∧ Represents f s merged ∧
      merged.total = 2 := by
  intro f s start refused merged
  have hf : f.IsOfSums := AnySum.isOfSums_factory _
  have hwhole : ∀ slot ∈ (single (.ofNat .double 1) 1).slots, ∃ z : ℤ,
      slot.mechanism.sum.IsWhole z ∧ 10 * z.natAbs < 2 ^ Format.double.precision :=
    List.forall_mem_singleton.2
      ⟨1, Binary.isWhole_ofNat Format.isWide_double (by decide), by decide⟩
  have hreach : Reachable f s (single (.ofNat .double 1) 1) := reachable_single (by decide +kernel)
  have hmade : f.Builds s (single (.ofNat .double 1) 1) :=
    Or.inr (Or.inr ⟨_, hreach.restoreBytes_of_isWhole hf hwhole .epoch⟩)
  have hbuilt : Builds f s start := builds_iff.2 ⟨_, hmade, rfl⟩
  have hstart : Becomes start start := .refl
  have hrefused : Becomes start refused :=
    hstart.accumulate [Binary.zero .double false, .zero .double false]
  have hmerged : Becomes start merged := hrefused.merge start
  exact ⟨hf, hbuilt, hmerged, (hmerged.keeps_shape hf hbuilt).1, by decide +kernel⟩

end Columns

end Bundle
end SharedBudget
