/-
# Whose checkpoint it is

Every entry of a bundle's checkpoint carries the identifier of its mechanism.  So a
checkpoint goes to another specification exactly if the identifiers are the same, in
the same order, and that specification has sound parameters; the numbers of inputs
and the parameters of the mechanisms do not matter, and what was counted comes along
(`Bundle.Continued.restores_under_iff`).  A checkpoint of other mechanisms is refused
as such, by the number of the entries or else at the first place where the
identifiers differ: the entries before are read without fault, and the parameters
come later.
-/

import SharedBudget.Proofs.Bundle.Restoring
import SharedBudget.Proofs.Bundle.Rules

namespace SharedBudget

/-! ## The first difference -/

/-- Two lists agree up to place `i`, and there one has `x` and the other has `y`. -/
structure DifferFirstAt {α : Type} (xs ys : List α) (i : ℕ) (x y : α) : Prop where
  left_eq : xs[i]? = some x
  right_eq : ys[i]? = some y
  ne : x ≠ y
  eq_before : ∀ j < i, xs[j]? = ys[j]?

namespace DifferFirstAt

variable {α : Type} {x y x' y' : α} {xs ys : List α} {i : ℕ}

theorem of_zero (h : DifferFirstAt (x :: xs) (y :: ys) 0 x' y') : x = x' ∧ y = y' :=
  ⟨Option.some.inj h.left_eq, Option.some.inj h.right_eq⟩

theorem cons_iff : DifferFirstAt (x :: xs) (y :: ys) (i + 1) x' y' ↔
    x = y ∧ DifferFirstAt xs ys i x' y' := by
  constructor
  · rintro ⟨hleft, hright, hne, hbefore⟩
    exact ⟨Option.some.inj (hbefore 0 i.succ_pos), hleft, hright, hne,
      fun j hj => hbefore (j + 1) (Nat.succ_lt_succ hj)⟩
  · rintro ⟨rfl, hleft, hright, hne, hbefore⟩
    refine ⟨hleft, hright, hne, fun j hj => ?_⟩
    cases j with
    | zero => rfl
    | succ j => exact hbefore j (Nat.lt_of_succ_lt_succ hj)

end DifferFirstAt

/-- Lists of one length are equal or differ at a first place. -/
theorem exists_differFirstAt {α : Type} {xs ys : List α} (hlength : xs.length = ys.length)
    (hne : xs ≠ ys) : ∃ i x y, DifferFirstAt xs ys i x y := by
  classical
  induction xs generalizing ys with
  | nil => exact absurd (List.length_eq_zero_iff.1 hlength.symm).symm hne
  | cons x xs ih =>
    cases ys with
    | nil => cases hlength
    | cons y ys =>
      by_cases hhead : x = y
      · obtain ⟨i, x', y', h⟩ :=
          ih (Nat.succ.inj hlength) fun h => hne (congrArg₂ List.cons hhead h)
        exact ⟨i + 1, x', y', DifferFirstAt.cons_iff.2 ⟨hhead, h⟩⟩
      · exact ⟨0, x, y, rfl, rfl, hhead, nofun⟩

/-! ## Entries -/

namespace Slot

variable {f : Factory AnySum PrivateSum} {m own : MechanismSpec} {slot slot' : Slot PrivateSum}

/-- The entry of a slot in a checkpoint. -/
def entry (slot : Slot PrivateSum) : Checkpoint.Entry :=
  .ofBlob (some slot.identifier) slot.mechanism.encode

/-- The state of the slot can be read back from its blob. -/
def Readable (slot : Slot PrivateSum) : Prop :=
  ∃ state, PrivateSum.decode slot.mechanism.encode = .ok state

/-- The slot has what another one has counted, and waits for as many groups. -/
structure Carries (slot slot' : Slot PrivateSum) : Prop where
  count_eq : slot'.mechanism.count = slot.mechanism.count
  minimum_eq : slot'.mechanism.minimum = slot.mechanism.minimum

/-- What is made with the entry of a slot is for the same identifier, and has its counts. -/
theorem of_makes_entry (hf : f.IsOfSums) (h : f.Makes m (some slot.entry) slot') :
    slot.identifier = m.identifier ∧ slot.Carries slot' := by
  obtain ⟨_, _, _, htag, hdecode⟩ := hf.makes_some_iff.1 h
  obtain ⟨_, hcount, hminimum⟩ := PrivateSum.decode_encode_eq_ok_iff.1 hdecode
  exact ⟨htag _ rfl, hcount, hminimum⟩

/-- A mechanism with the identifier of a slot takes its entry over. -/
theorem IsOf.exists_makes_entry (hf : f.IsOfSums) (h : slot.IsOf f own) (hread : slot.Readable)
    (hm : slot.identifier = m.identifier) : ∃ slot', f.Makes m (some slot.entry) slot' := by
  obtain ⟨state, hstate⟩ := hread
  refine ⟨⟨m.identifier, m.inputCount, state⟩, hf.makes_some_iff.2 ⟨rfl, rfl, ?_, ?_, hstate⟩⟩
  · rw [← hm, h.identifier_eq]
    exact h.maker_eq
  · intro tag htag
    exact (Option.some.inj htag).symm.trans hm

end Slot

namespace Bundle

variable {f : Factory AnySum PrivateSum} {s own : BundleSpec} {b b' : Bundle PrivateSum}
  {specs owners : List MechanismSpec} {slots slots' : List (Slot PrivateSum)}

/-! ## One mechanism after the other -/

/-- Mechanisms made with the entries of slots have the identifiers and the counts of these. -/
theorem identifiers_of_makes (hf : f.IsOfSums) (hlength : slots.length = specs.length)
    (h : List.Forall₂ (fun pair slot => f.Makes pair.1 (some pair.2) slot)
      (specs.zip (slots.map Slot.entry)) slots') :
    specs.map (·.identifier) = slots.map (·.identifier) ∧ List.Forall₂ Slot.Carries slots slots' := by
  induction slots generalizing specs slots' with
  | nil =>
    obtain rfl := List.length_eq_zero_iff.1 hlength.symm
    obtain rfl := List.forall₂_nil_left_iff.1 h
    exact ⟨rfl, .nil⟩
  | cons slot slots ih =>
    cases specs with
    | nil => cases hlength
    | cons m specs =>
      obtain ⟨slot', slots', hslot, hslots, rfl⟩ := List.forall₂_cons_left_iff.1 h
      obtain ⟨htag, hcarries⟩ := Slot.of_makes_entry hf hslot
      obtain ⟨htags, hall⟩ := ih (Nat.succ.inj hlength) hslots
      exact ⟨congrArg₂ _ htag.symm htags, .cons hcarries hall⟩

/-- Mechanisms with the identifiers of slots take their entries over. -/
theorem exists_makes (hf : f.IsOfSums) (hslots : List.Forall₂ (Slot.IsOf f) owners slots)
    (hread : ∀ slot ∈ slots, slot.Readable)
    (hsame : specs.map (·.identifier) = slots.map (·.identifier)) :
    ∃ slots', List.Forall₂ (fun pair slot => f.Makes pair.1 (some pair.2) slot)
      (specs.zip (slots.map Slot.entry)) slots' := by
  induction hslots generalizing specs with
  | nil =>
    obtain rfl := List.map_eq_nil_iff.1 hsame
    exact ⟨[], .nil⟩
  | cons hslot _ ih =>
    obtain ⟨m, specs, rfl, hm, hspecs⟩ := List.map_eq_cons_iff.1 hsame
    obtain ⟨hown, hothers⟩ := List.forall_mem_cons.1 hread
    obtain ⟨slot', hslot'⟩ := hslot.exists_makes_entry hf hown hm.symm
    obtain ⟨slots', hslots'⟩ := ih hothers hspecs
    exact ⟨slot' :: slots', .cons hslot' hslots'⟩

/-- Where the identifiers first differ, the entry is refused as another mechanism's: those before
are taken over.  The induction is on the place, and `index` is the number of the first mechanism. -/
theorem resolveAll_eq_error (hf : f.IsOfSums)
    (hslots : List.Forall₂ (Slot.IsOf f) owners slots) (hread : ∀ slot ∈ slots, slot.Readable)
    {index i : ℕ} {tag identifier : String}
    (h : DifferFirstAt (slots.map (·.identifier)) (specs.map (·.identifier)) i tag identifier) :
    (f.resolveAll index (specs.zip ((slots.map Slot.entry).map some))).outcome =
      .error (.stateMismatch (.owner (index + i) tag identifier)) := by
  induction hslots generalizing specs index i with
  | nil => cases h.left_eq
  | @cons _ slot _ slots hslot _ ih =>
    cases specs with
    | nil => cases h.right_eq
    | cons m specs =>
      obtain ⟨hown, hothers⟩ := List.forall_mem_cons.1 hread
      rw [List.map_cons, List.map_cons, List.zip_cons_cons, Factory.outcome_resolveAll_cons]
      rw [List.map_cons, List.map_cons] at h
      cases i with
      | zero =>
        obtain ⟨rfl, rfl⟩ := h.of_zero
        have howner : Factory.checkOwner index m slot.entry =
            .error (.stateMismatch (.owner index slot.identifier m.identifier)) := if_neg h.ne
        rw [Factory.resolve_some, howner]
        rfl
      | succ i =>
        obtain ⟨hsame, hlater⟩ := DifferFirstAt.cons_iff.1 h
        obtain ⟨slot', hslot'⟩ := hslot.exists_makes_entry hf hown hsame
        rw [Factory.resolve_eq_ok_iff.2 hslot', ok_bind, ih hothers hlater, error_bind,
          Nat.add_assoc, Nat.add_comm 1]

/-! ## Histories -/

/-- The bundle is what a fresh bundle of the specification becomes by groups of inputs and
peers, taken in or refused, and by coming back from its own checkpoints. -/
inductive Continued (f : Factory AnySum PrivateSum) (s : BundleSpec) : Bundle PrivateSum → Prop where
  | create {b : Bundle PrivateSum} : (f.create s).outcome = .ok b → Continued f s b
  | accumulate {b : Bundle PrivateSum} (inputs : List Double) :
      Continued f s b → Continued f s (b.accumulate inputs).value.1
  | merge {b : Bundle PrivateSum} (peer : Bundle PrivateSum) :
      Continued f s b → Continued f s (b.merge peer).value.1
  | restore {b b' : Bundle PrivateSum} {now : Timestamp} {c : Checkpoint} :
      Continued f s b → (b.checkpoint now).outcome = .ok c → (f.restore s c).outcome = .ok b' →
        Continued f s b'
  | reload {b b' : Bundle PrivateSum} {now : Timestamp} {text : Bytes} :
      Continued f s b → (b.checkpointBytes now).outcome = .ok text →
        (f.restoreBytes s text).outcome = .ok b' → Continued f s b'

theorem isOf_of_restore (hf : f.IsOfSums) {c : Checkpoint}
    (h : (f.restore s c).outcome = .ok b) : b.IsOf f s := by
  obtain ⟨hgrants, _, hlength, _, hslots⟩ := Factory.restore_eq_ok_iff.1 h
  refine ⟨hgrants, ?_⟩
  have hplaces : List.Forall₂ (fun (pair : MechanismSpec × Checkpoint.Entry) slot =>
      Slot.IsOf f pair.1 slot) (s.nested.zip c.entries) b.slots := hslots.imp fun pair slot h => by
    obtain ⟨hidentifier, hinputs, hmaker, _⟩ := hf.makes_some_iff.1 h
    exact ⟨hidentifier, hinputs, hmaker⟩
  have hspecs : (s.nested.zip c.entries).map Prod.fst = s.nested := List.map_fst_zip hlength.ge
  rw [← hspecs]
  exact List.forall₂_map_left_iff.2 hplaces

theorem Continued.isOf (hf : f.IsOfSums) (h : Continued f s b) : b.IsOf f s := by
  induction h with
  | create h => exact isOf_of_create hf h
  | accumulate inputs _ ih => exact ih.accumulate inputs
  | merge peer _ ih => exact ih.merge peer
  | restore _ _ h => exact isOf_of_restore hf h
  | reload _ _ h =>
    obtain ⟨c, _, hc⟩ := Factory.restoreBytes_eq_ok_iff.1 h
    exact isOf_of_restore hf hc

/-! ## Under another specification -/

theorem IsOf.identifiers_eq (h : b.IsOf f own) : b.slots.map (·.identifier) = own.identifiers :=
  map_eq_map_of_forall₂ h.slots fun _ _ hslot => hslot.identifier_eq

theorem IsOf.inputs_eq (h : b.IsOf f own) : b.inputsPerMechanism = own.inputCounts :=
  map_eq_map_of_forall₂ h.slots fun _ _ hslot => hslot.inputs_eq

/-- The checkpoint is restored for a specification of the same mechanisms with sound parameters. -/
theorem IsOf.exists_restore_iff (hf : f.IsOfSums) (h : b.IsOf f own)
    (hread : ∀ slot ∈ b.slots, slot.Readable) (hs : s.nested ≠ []) (now : Timestamp) :
    (∃ b', (f.restore s (b.snapshot now)).outcome = .ok b') ↔
      own.identifiers = s.identifiers ∧ ∃ x, Budget.ofParameters s.parameters = .ok x := by
  simp only [Factory.restore_eq_ok_iff]
  constructor
  · rintro ⟨b', ⟨_, _, epsilon, delta, hparameters, _⟩, _, hlength, _, hslots⟩
    refine ⟨?_, _, hparameters⟩
    rw [← h.identifiers_eq]
    exact (identifiers_of_makes hf ((List.length_map ..).symm.trans hlength) hslots).1.symm
  · rintro ⟨hsame, ⟨epsilon, delta⟩, hparameters⟩
    rw [← h.identifiers_eq] at hsame
    obtain ⟨slots', hslots'⟩ := exists_makes hf h.slots hread hsame.symm
    refine ⟨⟨slots', _, b.total⟩, ⟨h.grants.1, hs, epsilon, delta, hparameters, rfl⟩, rfl, ?_,
      b.check_snapshot now, hslots'⟩
    have hlength := congrArg List.length hsame
    rw [List.length_map] at hlength
    exact (List.length_map ..).trans (hlength.trans (List.length_map ..))

/-- The bundle is what another one becomes under a specification: that has the numbers of inputs
and the budget, and what was counted stays. -/
structure Succeeds (f : Factory AnySum PrivateSum) (s : BundleSpec) (b b' : Bundle PrivateSum) :
    Prop where
  inputs_eq : b'.inputsPerMechanism = s.inputCounts
  budget_eq : ∃ epsilon delta, Budget.ofParameters s.parameters = .ok (epsilon, delta) ∧
    (Budget.split epsilon delta s.nested.length f.threshold).outcome = .ok b'.budget
  total_eq : b'.total = b.total
  carries : List.Forall₂ Slot.Carries b.slots b'.slots

theorem succeeds_of_restore (hf : f.IsOfSums) {now : Timestamp}
    (h : (f.restore s (b.snapshot now)).outcome = .ok b') : Succeeds f s b b' := by
  have hassembled : f.Assembled s (some (b.snapshot now)) b' := Factory.assembled_of_make h
  obtain ⟨⟨_, hs, epsilon, delta, hparameters, hbudget⟩, htotal, hlength, _, hslots⟩ :=
    Factory.restore_eq_ok_iff.1 h
  refine ⟨hassembled.inputs_eq, ⟨epsilon, delta, hparameters, ?_⟩, htotal, ?_⟩
  · rw [hbudget, Factory.outcome_split fun h => hs (List.length_eq_zero_iff.1 h)]
  · exact (identifiers_of_makes hf ((List.length_map ..).symm.trans hlength) hslots).2

/-- The checks before the mechanisms let a checkpoint pass that has the right number of entries. -/
theorem IsOf.outcome_restore (h : b.IsOf f own) (hs : s.nested ≠ []) (now : Timestamp) :
    (f.restore s (b.snapshot now)).outcome =
      if own.nested.length = s.nested.length then
        (f.resolveAll 0 (s.nested.zip ((b.slots.map Slot.entry).map some))).outcome >>= fun slots =>
          Budget.ofParameters s.parameters >>= fun x =>
            (Budget.split x.1 x.2 s.nested.length f.threshold).outcome >>= fun budget =>
              .ok { slots, budget, total := b.total }
      else .error (.stateMismatch (.entryCount s.nested.length own.nested.length)) := by
  have hlength : (b.snapshot now).entries.length = own.nested.length :=
    (List.length_map ..).trans h.slots.length_eq.symm
  have hbuild : (f.restore s (b.snapshot now)).outcome = (f.build s (some (b.snapshot now))).outcome :=
    rfl
  rw [hbuild, Factory.outcome_build, h.grants.1, if_pos hs, Factory.outcome_pairs_some, hlength,
    b.check_snapshot now]
  split <;> rfl

/-- **Whose checkpoint it is.**  A bundle of sums whose states can be read back is written down, and
its checkpoint is restored for another specification exactly if that is one of the same mechanisms
and has sound parameters.  Otherwise, if the numbers of mechanisms differ, that is the error, and if
the identifiers do, the error is about the first place where they differ, whatever else is wrong with
the specification.  The restored bundle has the numbers of inputs and the budget of the
specification, and the counters of the bundle. -/
theorem Continued.restores_under_iff (hf : f.IsOfSums) (h : Continued f own b)
    (hread : ∀ slot ∈ b.slots, slot.Readable) (hs : s.nested ≠ []) (now : Timestamp) :
    ∃ c, (b.checkpoint now).outcome = .ok c ∧
      ((∃ b', (f.restore s c).outcome = .ok b') ↔
        own.identifiers = s.identifiers ∧ ∃ x, Budget.ofParameters s.parameters = .ok x) ∧
      (own.identifiers.length ≠ s.identifiers.length → (f.restore s c).outcome =
        .error (.stateMismatch (.entryCount s.identifiers.length own.identifiers.length))) ∧
      (own.identifiers.length = s.identifiers.length → own.identifiers ≠ s.identifiers →
        ∃ i tag identifier, DifferFirstAt own.identifiers s.identifiers i tag identifier ∧
          (f.restore s c).outcome = .error (.stateMismatch (.owner i tag identifier))) ∧
      ∀ b', (f.restore s c).outcome = .ok b' → Succeeds f s b b' := by
  have hown := h.isOf hf
  have hcount (spec : BundleSpec) : spec.identifiers.length = spec.nested.length :=
    List.length_map ..
  refine ⟨b.snapshot now, b.outcome_checkpoint now, hown.exists_restore_iff hf hread hs now,
    fun hlength => ?_, fun hlength hne => ?_, fun b' => succeeds_of_restore hf⟩
  · rw [hcount, hcount] at hlength ⊢
    rw [hown.outcome_restore hs, if_neg hlength]
  · obtain ⟨i, tag, identifier, hdiffer⟩ := exists_differFirstAt hlength hne
    refine ⟨i, tag, identifier, hdiffer, ?_⟩
    rw [hcount, hcount] at hlength
    rw [← hown.identifiers_eq] at hdiffer
    rw [hown.outcome_restore hs, if_pos hlength, resolveAll_eq_error hf hown.slots hread hdiffer,
      error_bind, Nat.zero_add]

/-- The checkpoint of a sum of one stream goes to a sum of two streams with another budget, but not
to a `plain_sum`, whose parameters are missing as well. -/
theorem restores_under_two_streams :
    let f := AnySum.factory (.ofNat .double 1)
    let own := BundleSpec.sums [1] (.ofNat .double 1) (.zero .double false)
    let wider := BundleSpec.sums [2] (.ofNat .double 2) (.zero .double false)
    let plain : BundleSpec := { nested := [{ identifier := "plain_sum" }] }
    let b := single (.ofBits .double 0x3FB999999999999A) 1
    Continued f own b ∧ (∀ slot ∈ b.slots, slot.Readable) ∧
      ∃ c, (b.checkpoint .epoch).outcome = .ok c ∧
        (∃ b', (f.restore wider c).outcome = .ok b' ∧ Succeeds f wider b b') ∧
        (f.restore plain c).outcome = .error (.stateMismatch (.owner 0 "dp_sum" "plain_sum")) := by
  intro f own wider plain b
  have hf : f.IsOfSums := AnySum.isOfSums_factory _
  have hb : Continued f own b := by
    have hfed := (Continued.create create_single).accumulate [.ofBits .double 0x3FB999999999999A]
    rwa [accumulate_single (by decide +kernel)] at hfed
  have hread : ∀ slot ∈ b.slots, slot.Readable :=
    List.forall_mem_singleton.2 ⟨⟨.ofBits .double 0x3FB999999999999A, 1, 0⟩,
      PrivateSum.decode_encode_eq_ok_iff.2 ⟨by decide +kernel, rfl, rfl⟩⟩
  obtain ⟨c, hc, hok, _, _, hsucceeds⟩ :=
    hb.restores_under_iff (s := wider) hf hread (List.cons_ne_nil _ _) .epoch
  obtain ⟨c', hc', _, _, howner, _⟩ :=
    hb.restores_under_iff (s := plain) hf hread (List.cons_ne_nil _ _) .epoch
  obtain rfl := Except.ok.inj (hc.symm.trans hc')
  refine ⟨hb, hread, c, hc, ?_, ?_⟩
  · obtain ⟨b', hb'⟩ := hok.2 ⟨rfl, (.ofNat .double 2, .zero .double false), by decide +kernel⟩
    exact ⟨b', hb', hsucceeds b' hb'⟩
  · obtain ⟨i, tag, identifier, hdiffer, herror⟩ := howner rfl (by decide)
    cases i with
    | zero =>
      obtain ⟨rfl, rfl⟩ := hdiffer.of_zero
      exact herror
    | succ i => cases hdiffer.left_eq

end Bundle
end SharedBudget
