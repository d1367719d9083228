/-
# Spreading groups over bundles

Groups of inputs can be collected in one bundle, or in many that are merged
afterwards.  A `Plan` is one such way: any number of bundles made from one
specification, any order of the groups, any order and bracketing of the merges.

For whole numbers that add up below `2 ^ 53` every plan comes to the same bundle
(`Plan.run_eq_sequence`).  The reason is a closed form: whatever the plan, a slot
holds the double of the exact sum of its inputs, and the number of the groups
(`Plan.run_eq_tallied`).
-/

import SharedBudget.Proofs.Budget.Shares
import SharedBudget.Proofs.Bundle.Sums
import SharedBudget.Proofs.Mechanism.Sums
import Mathlib.Algebra.BigOperators.Ring.Finset
import Mathlib.Algebra.Order.BigOperators.Group.List

namespace SharedBudget

open Format

/-- A way to collect groups of inputs. -/
inductive Plan where
  /-- A bundle just made. -/
  | fresh
  /-- One more group, after a plan. -/
  | feed (p : Plan) (group : List Double)
  /-- The bundle of the second plan, merged into that of the first. -/
  | merge (p q : Plan)

namespace Plan

variable {f : Factory AnySum PrivateSum} {s : BundleSpec} {b : Bundle PrivateSum}

/-- The groups that a plan collects. -/
def groups : Plan → List (List Double)
  | fresh => []
  | feed p group => p.groups ++ [group]
  | merge p q => p.groups ++ q.groups

/-- One bundle takes the groups in, one after the other. -/
def sequence (groups : List (List Double)) : Plan := groups.foldl feed fresh

/-- The bundle after an operation, which has to succeed. -/
def completed (x : Logged (Bundle PrivateSum × Except Error Unit)) :
    Except Error (Bundle PrivateSum) := x.value.2.map fun () => x.value.1

/-- The bundle that a plan comes to if every step succeeds. -/
def run (f : Factory AnySum PrivateSum) (s : BundleSpec) : Plan → Except Error (Bundle PrivateSum)
  | fresh => (f.create s).outcome
  | feed p group => do
    let b ← p.run f s
    completed (b.accumulate group)
  | merge p q => do
    let b ← p.run f s
    let peer ← q.run f s
    completed (b.merge peer)

/-- The values of a group that mechanism `i` takes, the mechanisms taking so many each. -/
def part (arities : List ℕ) (i : ℕ) (group : List Double) : List Double :=
  (group.drop (arities.take i).sum).take (arities.getD i 0)

/-- The mechanisms after the first one share what it leaves. -/
theorem part_succ (n : ℕ) (arities : List ℕ) (i : ℕ) (group : List Double) :
    part (n :: arities) (i + 1) group = part arities i (group.drop n) := by
  simp [part, List.drop_drop]

/-! ## Whole numbers that add up exactly -/

/-- Whole numbers whose absolute values add up to less than `2 ^ 53`. -/
def IsLight (xs : List Double) : Prop :=
  (∀ x ∈ xs, ∃ z, x.IsWhole z) ∧ (xs.map fun x => |x.toRat|).sum < 2 ^ 53

/-- The exact sum of whole numbers. -/
def tally (xs : List Double) : ℤ := (xs.map fun x => x.toRat.num).sum

theorem tally_append (xs ys : List Double) : tally (xs ++ ys) = tally xs + tally ys := by
  simp [tally]

theorem tally_perm {xs ys : List Double} (h : xs.Perm ys) : tally xs = tally ys :=
  (h.map _).sum_eq

theorem IsLight.append {xs ys : List Double} (h : IsLight (xs ++ ys)) :
    IsLight xs ∧ IsLight ys := by
  obtain ⟨hwhole, hsum⟩ := h
  rw [List.map_append, List.sum_append] at hsum
  have hpos (zs : List Double) : 0 ≤ (zs.map fun x => |x.toRat|).sum :=
    List.sum_nonneg (by simp)
  have hx := hpos xs
  have hy := hpos ys
  exact ⟨⟨fun x hx => hwhole x (List.mem_append_left _ hx), by linarith⟩,
    fun x hx => hwhole x (List.mem_append_right _ hx), by linarith⟩

theorem IsLight.perm {xs ys : List Double} (h : IsLight xs) (hp : xs.Perm ys) : IsLight ys :=
  ⟨fun x hx => h.1 x (hp.mem_iff.2 hx), (hp.map fun x => |x.toRat|).sum_eq ▸ h.2⟩

/-- Whole numbers are the doubles of their values, which add up to less than `2 ^ 53`. -/
theorem IsLight.forall₂ {xs : List Double} (h : IsLight xs) :
    List.Forall₂ Binary.IsWhole xs (xs.map fun x => x.toRat.num) ∧
      ((xs.map fun x => x.toRat.num).map Int.natAbs).sum < 2 ^ double.precision := by
  obtain ⟨hwhole, hsum⟩ := h
  have hnum : ∀ x ∈ xs, x.IsWhole x.toRat.num := by
    intro x hx
    obtain ⟨z, hz⟩ := hwhole x hx
    rwa [hz.toRat_eq, Rat.num_intCast]
  refine ⟨List.forall₂_map_right_iff.2 (List.forall₂_same.2 hnum), ?_⟩
  have habs : (xs.map fun x => |x.toRat|) = xs.map fun x => ((x.toRat.num.natAbs : ℕ) : ℚ) :=
    List.map_congr_left fun x hx => by
      rw [Nat.cast_natAbs, Int.cast_abs, ← (hnum x hx).toRat_eq]
  have hcast : (((xs.map fun x => x.toRat.num.natAbs).sum : ℕ) : ℚ) < ((2 ^ 53 : ℕ) : ℚ) := by
    rw [Nat.cast_list_sum, List.map_map]
    rw [habs] at hsum
    exact_mod_cast hsum
  rw [List.map_map]
  exact_mod_cast hcast

/-- The sum of light numbers is their exact sum. -/
theorem IsLight.isWhole_sum {xs : List Double} (h : IsLight xs) :
    (Binary.sum xs).IsWhole (tally xs) :=
  Binary.isWhole_sum isWide_double h.forall₂.1 h.forall₂.2

theorem IsLight.natAbs_tally_lt {xs : List Double} (h : IsLight xs) :
    (tally xs).natAbs < 2 ^ double.precision := by
  refine Nat.lt_of_le_of_lt ?_ h.forall₂.2
  unfold tally
  generalize (xs.map fun x => x.toRat.num) = zs
  induction zs with
  | nil => simp
  | cons z zs ih =>
    simp only [List.sum_cons, List.map_cons]
    omega

/-! ## The closed form -/

/-- The inputs of every mechanism are light. -/
def AllLight (arities : List ℕ) (groups : List (List Double)) : Prop :=
  ∀ i, IsLight (groups.flatMap (part arities i))

theorem AllLight.append {arities : List ℕ} {groups more : List (List Double)}
    (h : AllLight arities (groups ++ more)) : AllLight arities groups ∧ AllLight arities more := by
  have hi (i : ℕ) : IsLight (groups.flatMap (part arities i)) ∧
      IsLight (more.flatMap (part arities i)) := by
    have := h i
    rw [List.flatMap_append] at this
    exact this.append
  exact ⟨fun i => (hi i).1, fun i => (hi i).2⟩

/-- The first mechanism takes the values in front, and the others share the rest. -/
theorem AllLight.cons {n : ℕ} {arities : List ℕ} {groups : List (List Double)}
    (h : AllLight (n :: arities) groups) :
    IsLight (groups.flatMap (·.take n)) ∧ AllLight arities (groups.map (·.drop n)) := by
  refine ⟨h 0, fun i => ?_⟩
  rw [List.flatMap_map]
  simp only [← part_succ]
  exact h (i + 1)

/-- The slots after groups, in whatever order: a sum is the double of the exact sum. -/
def tallied : List (Slot PrivateSum) → List (List Double) → List (Slot PrivateSum)
  | [], _ => []
  | s :: slots, groups =>
    { s with mechanism := { s.mechanism with
        sum := .ofInt .double (tally (groups.flatMap (·.take s.inputs)))
        count := .ofNat groups.length } } :: tallied slots (groups.map (·.drop s.inputs))

@[simp] theorem map_frame_tallied (slots : List (Slot PrivateSum)) (groups : List (List Double)) :
    (tallied slots groups).map Slot.frame = slots.map Slot.frame := by
  induction slots generalizing groups with
  | nil => rfl
  | cons s slots ih =>
    rw [tallied, List.map_cons, List.map_cons, ih]
    rfl

theorem count_of_mem_tallied {slots : List (Slot PrivateSum)} {groups : List (List Double)} :
    ∀ slot ∈ tallied slots groups, slot.mechanism.count = .ofNat groups.length := by
  induction slots generalizing groups with
  | nil => exact nofun
  | cons s slots ih =>
    refine List.forall_mem_cons.2 ⟨rfl, fun slot hslot => ?_⟩
    rw [ih slot hslot, List.length_map]

theorem tallied_perm {slots : List (Slot PrivateSum)} {groups more : List (List Double)}
    (h : groups.Perm more) : tallied slots groups = tallied slots more := by
  induction slots generalizing groups more with
  | nil => rfl
  | cons s slots ih =>
    rw [tallied, tallied, ih (h.map _), tally_perm (h.flatMap_right _), h.length_eq]

/-- Nothing has been added up in a bundle just made. -/
theorem tallied_nil {slots : List (Slot PrivateSum)}
    (h : ∀ slot ∈ slots, ∃ minimum, slot.mechanism = .empty minimum) : tallied slots [] = slots := by
  induction slots with
  | nil => rfl
  | cons s slots ih =>
    obtain ⟨minimum, hs⟩ := h s (List.mem_cons_self ..)
    rw [tallied, List.map_nil, ih fun slot hslot => h slot (List.mem_cons_of_mem _ hslot)]
    obtain ⟨identifier, inputs, mechanism⟩ := s
    obtain rfl : mechanism = .empty minimum := hs
    have hsum : Binary.ofInt .double (tally []) = .zero .double false :=
      Binary.ofInt_zero isWide_double.precision_pos
    rw [List.flatMap_nil, List.length_nil, hsum]
    rfl

/-- One group more. -/
theorem fed_tallied {slots : List (Slot PrivateSum)} {groups : List (List Double)}
    {group : List Double} (h : AllLight (slots.map (·.inputs)) (groups ++ [group])) :
    Bundle.fed (tallied slots groups) group = tallied slots (groups ++ [group]) := by
  induction slots generalizing groups group with
  | nil => rfl
  | cons s slots ih =>
    obtain ⟨hown, hothers⟩ := h.cons
    rw [List.map_append, List.map_singleton] at hothers
    rw [List.flatMap_append, List.flatMap_singleton] at hown
    obtain ⟨hbefore, hgroup⟩ := hown.append
    rw [tallied, Bundle.fed, ih hothers, tallied]
    simp only [PrivateSum.absorb, List.flatMap_append, List.flatMap_singleton, tally_append,
      List.length_append, List.length_singleton, List.map_append, List.map_singleton,
      UInt64.ofNat_add]
    rw [Binary.ofInt_add isWide_double hbefore.natAbs_tally_lt hgroup.isWhole_sum]
    rfl

/-- The groups of two bundles. -/
theorem joined_tallied {slots : List (Slot PrivateSum)} {groups more : List (List Double)}
    (h : AllLight (slots.map (·.inputs)) (groups ++ more)) :
    Bundle.joined (tallied slots groups) (tallied slots more) = tallied slots (groups ++ more) := by
  induction slots generalizing groups more with
  | nil => rfl
  | cons s slots ih =>
    obtain ⟨hown, hothers⟩ := h.cons
    rw [List.map_append] at hothers
    rw [List.flatMap_append] at hown
    obtain ⟨hours, htheirs⟩ := hown.append
    have ih := ih hothers
    unfold Bundle.joined at ih ⊢
    rw [tallied, tallied, List.zipWith_cons_cons, ih, tallied]
    simp only [PrivateSum.join, List.flatMap_append, tally_append, List.length_append,
      List.map_append, UInt64.ofNat_add]
    rw [Binary.ofInt_add isWide_double hours.natAbs_tally_lt
      (Binary.isWhole_ofInt isWide_double htheirs.natAbs_tally_lt)]

/-! ## Plans -/

/-- The bundle after groups, in whatever order. -/
def talliedBundle (b : Bundle PrivateSum) (groups : List (List Double)) : Bundle PrivateSum :=
  { b with slots := tallied b.slots groups, total := .ofNat groups.length }

/-- The width of a group is the sum of the numbers of inputs. -/
theorem expectedInputs_eq (b : Bundle PrivateSum) : b.expectedInputs = b.inputsPerMechanism.sum :=
  rfl

theorem inputsPerMechanism_talliedBundle (b : Bundle PrivateSum) (groups : List (List Double)) :
    (talliedBundle b groups).inputsPerMechanism = b.inputsPerMechanism :=
  Slot.map_eq_of_map_frame (·.2.1) (map_frame_tallied b.slots groups)

theorem toNat_total_talliedBundle {b : Bundle PrivateSum} {groups : List (List Double)}
    (h : groups.length < 2 ^ 64) : (talliedBundle b groups).total.toNat = groups.length :=
  UInt64.toNat_ofNat_of_lt' h

theorem completed_accumulate {b : Bundle PrivateSum} {groups : List (List Double)}
    {group : List Double} (hlight : AllLight b.inputsPerMechanism (groups ++ [group]))
    (hwidth : group.length = b.expectedInputs) (hlength : groups.length + 1 < 2 ^ 64) :
    completed ((talliedBundle b groups).accumulate group) =
      .ok (talliedBundle b (groups ++ [group])) := by
  have hadmits : (talliedBundle b groups).Admits group := by
    refine ⟨?_, ?_⟩
    · rw [hwidth, expectedInputs_eq, expectedInputs_eq, inputsPerMechanism_talliedBundle]
    · rwa [toNat_total_talliedBundle (by omega)]
  obtain ⟨_, hvalue⟩ | ⟨hnot, _⟩ := (talliedBundle b groups).accumulate_cases group
  · rw [completed, hvalue]
    simp only [talliedBundle, fed_tallied hlight, List.length_append, List.length_singleton,
      UInt64.ofNat_add]
    rfl
  · exact absurd hadmits hnot

theorem completed_merge {b : Bundle PrivateSum} {groups more : List (List Double)}
    (hepsilon : b.budget.epsilon.isNaN = false) (hdelta : b.budget.delta.isNaN = false)
    (hlight : AllLight b.inputsPerMechanism (groups ++ more))
    (hlength : groups.length + more.length < 2 ^ 64) :
    completed ((talliedBundle b groups).merge (talliedBundle b more)) =
      .ok (talliedBundle b (groups ++ more)) := by
  have hminimum (groups : List (List Double)) :
      (tallied b.slots groups).map (·.mechanism.minimum) =
        b.slots.map (·.mechanism.minimum) :=
    Slot.map_eq_of_map_frame (·.2.2) (map_frame_tallied b.slots groups)
  have hwelcomes : (talliedBundle b groups).Welcomes (talliedBundle b more) := by
    refine ⟨⟨?_, Binary.eq_self hepsilon, Binary.eq_self hdelta, ?_⟩, ?_⟩
    · rw [inputsPerMechanism_talliedBundle, inputsPerMechanism_talliedBundle]
    · exact (hminimum groups).trans (hminimum more).symm
    · rwa [toNat_total_talliedBundle (by omega), toNat_total_talliedBundle (by omega)]
  obtain ⟨_, hvalue⟩ | ⟨hnot, _⟩ := (talliedBundle b groups).merge_cases (talliedBundle b more)
  · rw [completed, hvalue]
    simp only [talliedBundle, joined_tallied hlight, List.length_append, UInt64.ofNat_add]
    rfl
  · exact absurd hwelcomes hnot

/-- **Every plan comes to the closed form.**  The induction is on the plan; groups that are
light together are light on either side of a merge. -/
theorem run_eq_tallied (hf : f.IsOfSums) (hb : (f.create s).outcome = .ok b) (plan : Plan)
    (hlength : plan.groups.length < 2 ^ 64)
    (hwidth : ∀ group ∈ plan.groups, group.length = b.expectedInputs)
    (hlight : AllLight b.inputsPerMechanism plan.groups) :
    plan.run f s = .ok (talliedBundle b plan.groups) := by
  obtain ⟨hgrants, htotal, _⟩ := Factory.create_eq_ok_iff.1 hb
  induction plan with
  | fresh =>
    rw [run, hb, groups, talliedBundle, tallied_nil (hf.empty_of_create hb), List.length_nil]
    obtain ⟨slots, budget, total⟩ := b
    obtain rfl : total = 0 := htotal
    rfl
  | feed p group ih =>
    rw [groups, List.length_append, List.length_singleton] at hlength
    rw [groups] at hwidth hlight
    have hp := ih (by omega) (fun g hg => hwidth g (List.mem_append_left _ hg)) hlight.append.1
    rw [run, hp, ok_bind]
    exact completed_accumulate hlight
      (hwidth group (List.mem_append_right _ (List.mem_singleton_self group))) hlength
  | merge p q ihp ihq =>
    rw [groups, List.length_append] at hlength
    rw [groups] at hwidth hlight
    have hp := ihp (by omega) (fun g hg => hwidth g (List.mem_append_left _ hg)) hlight.append.1
    have hq := ihq (by omega) (fun g hg => hwidth g (List.mem_append_right _ hg)) hlight.append.2
    rw [run, hp, ok_bind, hq, ok_bind]
    exact completed_merge hgrants.isNaN_epsilon hgrants.isNaN_delta hlight hlength

theorem groups_sequence (groups : List (List Double)) : (sequence groups).groups = groups := by
  -- The induction is on the groups still to come; `p` has collected those before.
  have key : ∀ (groups : List (List Double)) (p : Plan),
      (groups.foldl feed p).groups = p.groups ++ groups := by
    intro groups
    induction groups with
    | nil => simp
    | cons group groups ih =>
      intro p
      rw [List.foldl_cons, ih, Plan.groups, List.append_assoc, List.singleton_append]
  exact key groups fresh

/-- A bundle just made takes what its specification says. -/
theorem inputsPerMechanism_of_create (hb : (f.create s).outcome = .ok b) :
    b.inputsPerMechanism = s.inputCounts := by
  obtain ⟨_, _, hslots⟩ := Factory.create_eq_ok_iff.1 hb
  rw [Bundle.inputsPerMechanism, BundleSpec.inputCounts]
  generalize s.nested = specs, b.slots = slots at hslots
  induction hslots with
  | nil => rfl
  | cons hmakes _ ih => rw [List.map_cons, List.map_cons, ih, hmakes.inputs_eq]

/-- **Every plan comes to the same bundle.**  For groups of the right width, fewer than
`2 ^ 64`, with whole numbers of which those of one mechanism add up to less than `2 ^ 53` in
absolute value: however the groups are spread over bundles made from one specification, in
whatever order these take them in and are merged, every step succeeds, and the result is the
bundle that takes the groups in one after the other.  So the counter, the counts, the sums,
whether it can report, and its report are the same. -/
theorem run_eq_sequence (hf : f.IsOfSums) (hb : (f.create s).outcome = .ok b)
    {groups : List (List Double)} (hlength : groups.length < 2 ^ 64)
    (hwidth : ∀ group ∈ groups, group.length = s.inputCounts.sum)
    (hwhole : ∀ group ∈ groups, ∀ x ∈ group, ∃ z, x.IsWhole z)
    (hlight : ∀ i, ((groups.flatMap (part s.inputCounts i)).map fun x => |x.toRat|).sum < 2 ^ 53)
    (plan : Plan) (hplan : plan.groups.Perm groups) :
    ∃ final, plan.run f s = .ok final ∧ (sequence groups).run f s = .ok final ∧
      final.total.toNat = groups.length ∧
        ∀ slot ∈ final.slots, slot.mechanism.count = final.total := by
  have harities := inputsPerMechanism_of_create hb
  have halllight : AllLight b.inputsPerMechanism groups := by
    rw [harities]
    refine fun i => ⟨fun x hx => ?_, hlight i⟩
    obtain ⟨group, hgroup, hx⟩ := List.mem_flatMap.1 hx
    exact hwhole group hgroup x (List.mem_of_mem_drop (List.mem_of_mem_take hx))
  have hrun (plan : Plan) (hplan : plan.groups.Perm groups) :
      plan.run f s = .ok (talliedBundle b groups) := by
    have hclosed := run_eq_tallied hf hb plan (hplan.length_eq ▸ hlength)
      (fun group hgroup => by
        rw [hwidth group (hplan.mem_iff.1 hgroup), expectedInputs_eq, harities])
      (fun i => (halllight i).perm (hplan.symm.flatMap_right _))
    rw [hclosed, talliedBundle, tallied_perm hplan, hplan.length_eq, talliedBundle]
  refine ⟨talliedBundle b groups, hrun plan hplan, hrun _ (by rw [groups_sequence]),
    toNat_total_talliedBundle hlength, ?_⟩
  exact count_of_mem_tallied

/-- Two sums, of one stream and of two: a bundle that takes in the second group before a bundle
with the first one is merged into it comes to the same as one bundle with both. -/
theorem run_eq_sequence_two_groups :
    let f := AnySum.factory (.ofNat .double 1)
    let s := BundleSpec.sums [1, 2] (.ofNat .double 3) (.zero .double false)
    let first := [1, 2, -3].map (Binary.ofInt .double)
    let second := [-1, 0, 5].map (Binary.ofInt .double)
    ∃ final, (merge (feed fresh second) (feed fresh first)).run f s = .ok final ∧
      (sequence [first, second]).run f s = .ok final ∧ final.total.toNat = 2 := by
  intro f s first second
  have hcreate : (f.create s).outcome = .ok {
      slots := [⟨"dp_sum", 1, .empty 0⟩, ⟨"dp_sum", 2, .empty 0⟩]
      budget := Budget.shares (.ofNat .double 3) (.zero .double false) 2 (.ofNat .double 1)
      total := 0 } := by decide +kernel
  have hwhole (z : ℤ) (hz : z.natAbs < 2 ^ 53 := by decide) : (Binary.ofInt .double z).IsWhole z :=
    Binary.isWhole_ofInt isWide_double hz
  have hlight : ∀ i, (([first, second].flatMap (part s.inputCounts i)).map
      fun x => |x.toRat|).sum < 2 ^ 53 := by
    intro i
    match i with
    | 0 =>
      change |(Binary.ofInt .double 1).toRat| + (|(Binary.ofInt .double (-1)).toRat| + 0) < 2 ^ 53
      rw [(hwhole 1).toRat_eq, (hwhole (-1)).toRat_eq]
      norm_num
    | 1 =>
      change |(Binary.ofInt .double 2).toRat| + (|(Binary.ofInt .double (-3)).toRat| +
        (|(Binary.ofInt .double 0).toRat| + (|(Binary.ofInt .double 5).toRat| + 0))) < 2 ^ 53
      rw [(hwhole 2).toRat_eq, (hwhole (-3)).toRat_eq, (hwhole 0).toRat_eq, (hwhole 5).toRat_eq]
      norm_num
    | i + 2 =>
      have hpart (group : List Double) : part s.inputCounts (i + 2) group = [] := by
        change (group.drop _).take 0 = []
        rw [List.take_zero]
      simp [hpart]
  have hints : ∀ group ∈ [first, second], ∀ x ∈ group, ∃ z, x.IsWhole z := by
    simp only [first, second, List.mem_cons, List.not_mem_nil, or_false, forall_eq_or_imp,
      forall_eq, List.map_cons, List.map_nil]
    exact ⟨⟨⟨1, hwhole 1⟩, ⟨2, hwhole 2⟩, ⟨-3, hwhole (-3)⟩⟩,
      ⟨-1, hwhole (-1)⟩, ⟨0, hwhole 0⟩, ⟨5, hwhole 5⟩⟩
  obtain ⟨final, hplan, hsequence, htotal, _⟩ := run_eq_sequence (AnySum.isOfSums_factory _) hcreate
    (by decide) (by simp [first, second, s, BundleSpec.sums, BundleSpec.inputCounts,
      MechanismSpec.sum, MechanismSpec.inputCount]) hints hlight
    (merge (feed fresh second) (feed fresh first)) (List.Perm.swap ..)
  exact ⟨final, hplan, hsequence, htotal⟩

end Plan
end SharedBudget
