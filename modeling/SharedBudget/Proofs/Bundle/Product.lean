/-
# A bundle is the product of its mechanisms

A bundle cuts every group into consecutive parts, one for each of its mechanisms, and
that is all they have to do with each other.  Each mechanism is in the state in which
it would be on its own, fed with nothing but its parts (`PrivateSum.alone`); the
bundle can report as soon as each could, and its report is their reports in a row, all
made with one and the same share of the budget (`Plan.sequence_is_product`).
-/

import SharedBudget.Proofs.Bundle.Sharding

namespace SharedBudget

/-- A sum of its own, made from a specification, that takes in these groups one by one. -/
def PrivateSum.alone (m : MechanismSpec) (groups : List (List Double)) :
    Except Error PrivateSum := do
  let fresh ← maker.create m
  groups.foldlM Mechanism.accumulate fresh

/-- No sum refuses a group, so only making it can fail. -/
theorem PrivateSum.alone_eq (m : MechanismSpec) (groups : List (List Double)) :
    alone m groups = (fun fresh => groups.foldl absorb fresh) <$> maker.create m := by
  unfold alone
  simp only [foldlM_accumulate]
  rfl

/-- The slot after its mechanism has absorbed these groups. -/
def Slot.absorb (slot : Slot PrivateSum) (groups : List (List Double)) : Slot PrivateSum :=
  { slot with mechanism := groups.foldl PrivateSum.absorb slot.mechanism }

theorem Slot.absorb_append (slot : Slot PrivateSum) (groups more : List (List Double)) :
    slot.absorb (groups ++ more) = (slot.absorb groups).absorb more := by
  simp [absorb]

/-! ## Reports -/

namespace Bundle

variable {π V : Type} [Mechanism π V]

/-- No mechanism is unready exactly if all can report. -/
theorem unreadySlot?_eq_none_iff (index : ℕ) {slots : List (Slot π)} :
    unreadySlot? index slots = none ↔ ∀ slot ∈ slots, Mechanism.canReport slot.mechanism := by
  induction slots generalizing index with
  | nil => exact ⟨fun _ => List.forall_mem_nil _, fun _ => rfl⟩
  | cons slot slots ih =>
    rw [unreadySlot?, List.forall_mem_cons]
    by_cases hready : Mechanism.canReport slot.mechanism
    · rw [if_pos hready, ih, and_iff_right hready]
    · rw [if_neg hready]
      exact ⟨nofun, fun h => absurd h.1 hready⟩

/-- The first mechanism that cannot report is named. -/
theorem unreadySlot?_eq_some (index : ℕ) {i : ℕ} {slots : List (Slot π)} {slot : Slot π}
    (hi : slots[i]? = some slot) (hunready : ¬Mechanism.canReport slot.mechanism)
    (hbefore : ∀ j < i, ∀ slot', slots[j]? = some slot' → Mechanism.canReport slot'.mechanism) :
    unreadySlot? index slots = some (.nested (index + i) slot.identifier) := by
  induction slots generalizing index i with
  | nil => cases hi
  | cons first slots ih =>
    rw [unreadySlot?]
    cases i with
    | zero =>
      obtain rfl : first = slot := Option.some.inj hi
      rw [if_neg hunready]
      rfl
    | succ i =>
      rw [if_pos (hbefore 0 (Nat.succ_pos i) first rfl),
        ih (index + 1) hi fun j hj => hbefore (j + 1) (Nat.succ_lt_succ hj), Nat.add_right_comm]
      rfl

/-- Every sum reports itself and its share. -/
theorem reports_eq (epsilon delta : Double) (slots : List (Slot PrivateSum)) :
    reports epsilon delta slots =
      .ok (slots.flatMap fun slot => [slot.mechanism.sum, epsilon, delta]) := by
  induction slots with
  | nil => rfl
  | cons slot slots ih =>
    have hown : PrivateMechanism.report slot.mechanism epsilon delta =
      .ok [slot.mechanism.sum, epsilon, delta] := rfl
    rw [reports, hown, ok_bind, ih, ok_bind]
    rfl

/-- **The report of a bundle of sums:** the first mechanism that cannot report, or the reports of
all. -/
theorem outcome_report (b : Bundle PrivateSum) :
    b.report.outcome =
      match unreadySlot? 0 b.slots with
      | some reason => .error (.notReportable reason)
      | none => .ok (b.slots.flatMap fun slot =>
          [slot.mechanism.sum, b.budget.epsilon, b.budget.delta]) := by
  unfold report
  cases unreadySlot? 0 b.slots with
  | some reason => rfl
  | none =>
    rw [reports_eq]
    rfl

theorem exists_report_iff {b : Bundle PrivateSum} : (∃ outputs, b.report.outcome = .ok outputs) ↔
    ∀ slot ∈ b.slots, Mechanism.canReport slot.mechanism := by
  rw [← unreadySlot?_eq_none_iff 0, outcome_report]
  cases unreadySlot? 0 b.slots <;> simp

theorem length_of_report {b : Bundle PrivateSum} {outputs : List Double}
    (h : b.report.outcome = .ok outputs) : outputs.length = 3 * b.slots.length := by
  rw [outcome_report] at h
  split at h
  · cases h
  · obtain rfl := Except.ok.inj h
    rw [List.length_flatMap]
    simp [Nat.mul_comm]

/-- Block `i` of a report: the three values that belong to mechanism `i`. -/
def block (outputs : List Double) (i : ℕ) : List Double := (outputs.drop (3 * i)).take 3

theorem block_flatMap {epsilon delta : Double} {slots : List (Slot PrivateSum)} (i : ℕ) :
    block (slots.flatMap fun slot => [slot.mechanism.sum, epsilon, delta]) i =
      (slots[i]?.map fun slot => [slot.mechanism.sum, epsilon, delta]).getD [] := by
  induction slots generalizing i with
  | nil => simp [block]
  | cons slot slots ih =>
    cases i with
    | zero => rfl
    | succ i =>
      rw [List.getElem?_cons_succ, ← ih i, block, block, List.flatMap_cons, Nat.mul_succ,
        Nat.add_comm, ← List.drop_drop]
      rfl

end Bundle

/-! ## The parts of a group -/

namespace Plan

/-- **The parts cover the group,** one after the other. -/
theorem flatMap_part {arities : List ℕ} {group : List Double} (h : group.length = arities.sum) :
    (List.range arities.length).flatMap (part arities · group) = group := by
  induction arities generalizing group with
  | nil => exact (List.eq_nil_of_length_eq_zero h).symm
  | cons n arities ih =>
    have hrest : (group.drop n).length = arities.sum := by
      rw [List.length_drop, h, List.sum_cons, Nat.add_sub_cancel_left]
    rw [List.length_cons, List.range_succ_eq_map, List.flatMap_cons, List.flatMap_map]
    simp only [Nat.succ_eq_add_one, part_succ, ih hrest]
    exact List.take_append_drop n group

theorem length_part {arities : List ℕ} {group : List Double} (h : group.length = arities.sum)
    (i : ℕ) : (part arities i group).length = arities.getD i 0 := by
  induction arities generalizing group i with
  | nil => simp [part]
  | cons n arities ih =>
    rw [List.sum_cons] at h
    cases i with
    | zero =>
      change (group.take n).length = n
      rw [List.length_take, h]
      omega
    | succ i =>
      rw [part_succ, ih (by rw [List.length_drop]; omega), List.getD_cons_succ]

/-! ## The slots -/

theorem getElem?_fed (slots : List (Slot PrivateSum)) (group : List Double) (i : ℕ) :
    (Bundle.fed slots group)[i]? =
      slots[i]?.map (·.absorb [part (slots.map (·.inputs)) i group]) := by
  induction slots generalizing group i with
  | nil => rfl
  | cons slot slots ih =>
    cases i with
    | zero => rfl
    | succ i =>
      rw [Bundle.fed, List.getElem?_cons_succ, List.getElem?_cons_succ, ih, List.map_cons]
      simp only [part_succ]

/-! ## The groups in sequence -/

variable {f : Factory AnySum PrivateSum} {s : BundleSpec} {start b b' : Bundle PrivateSum}
  {groups groups' : List (List Double)}

theorem sequence_concat (groups : List (List Double)) (group : List Double) :
    sequence (groups ++ [group]) = feed (sequence groups) group := by
  unfold sequence
  rw [List.foldl_append, List.foldl_cons, List.foldl_nil]

/-- The bundle `b` is what `start` becomes by these groups: every mechanism has absorbed its own
parts, and nothing else. -/
structure Absorbed (start : Bundle PrivateSum) (groups : List (List Double))
    (b : Bundle PrivateSum) : Prop where
  budget_eq : b.budget = start.budget
  inputs_eq : b.inputsPerMechanism = start.inputsPerMechanism
  length_eq : ∀ group ∈ groups, group.length = start.inputsPerMechanism.sum
  slot_eq : ∀ i : ℕ, b.slots[i]? =
    start.slots[i]?.map (·.absorb (groups.map (part start.inputsPerMechanism i)))

theorem Absorbed.nil (start : Bundle PrivateSum) : Absorbed start [] start where
  budget_eq := rfl
  inputs_eq := rfl
  length_eq := List.forall_mem_nil _
  slot_eq _ := Option.map_id'.symm

/-- One group more: a step appends to what every mechanism has absorbed. -/
theorem Absorbed.concat (h : Absorbed start groups b) {group : List Double}
    (hadmits : b.Admits group) :
    Absorbed start (groups ++ [group])
      { b with slots := Bundle.fed b.slots group, total := b.total + 1 } where
  budget_eq := h.budget_eq
  inputs_eq := (Slot.map_eq_of_map_frame (·.2.1) (Bundle.map_frame_fed b.slots group)).trans
    h.inputs_eq
  length_eq := by
    refine List.forall_mem_append.2 ⟨h.length_eq, List.forall_mem_singleton.2 ?_⟩
    rw [hadmits.1, expectedInputs_eq, h.inputs_eq]
  slot_eq i := by
    have hinputs : b.slots.map (·.inputs) = start.inputsPerMechanism := h.inputs_eq
    rw [getElem?_fed, h.slot_eq, Option.map_map, hinputs]
    simp only [List.map_append, List.map_singleton, Slot.absorb_append]
    rfl

/-- **The groups in sequence** are absorbed by a bundle just made. -/
theorem exists_absorbed (hrun : (sequence groups).run f s = .ok b) :
    ∃ start, (f.create s).outcome = .ok start ∧ Absorbed start groups b := by
  induction groups using List.reverseRecOn generalizing b with
  | nil => exact ⟨b, hrun, .nil b⟩
  | append_singleton groups group ih =>
    rw [sequence_concat, run, bind_eq_ok_iff] at hrun
    obtain ⟨before, hbefore, hstep⟩ := hrun
    obtain ⟨start, hstart, habsorbed⟩ := ih hbefore
    refine ⟨start, hstart, ?_⟩
    rcases before.accumulate_cases group with ⟨hadmits, hvalue⟩ | ⟨_, e, hvalue⟩
    · rw [completed, hvalue] at hstep
      obtain rfl := Except.ok.inj hstep
      exact habsorbed.concat hadmits
    · rw [completed, hvalue] at hstep
      cases hstep

/-! ## The mechanisms on their own -/

/-- Mechanism `i` of a specification on its own, fed with its parts of the groups. -/
def standalone (s : BundleSpec) (groups : List (List Double)) (i : ℕ) :
    Option (Except Error PrivateSum) :=
  s.nested[i]?.map fun m => PrivateSum.alone m (groups.map (part s.inputCounts i))

/-- A mechanism just made, followed by its parts of the groups. -/
theorem alone_of_makes (hf : f.IsOfSums) {m : MechanismSpec} {slot : Slot PrivateSum}
    (hmakes : f.Makes m none slot) (parts : List (List Double)) :
    PrivateSum.alone m parts = .ok (parts.foldl PrivateSum.absorb slot.mechanism) := by
  obtain ⟨_, _, _, hmade⟩ := hf.makes_none_iff.1 hmakes
  have hcreate : PrivateSum.maker.create m = .ok slot.mechanism := hmade
  rw [PrivateSum.alone_eq, hcreate]
  rfl

/-- **Every mechanism is in the state that it has on its own,** under its own identifier. -/
theorem rel_alone (hf : f.IsOfSums) (hrun : (sequence groups).run f s = .ok b) (i : ℕ) :
    Option.Rel (fun m slot => slot.identifier = m.identifier ∧
        PrivateSum.alone m (groups.map (part s.inputCounts i)) = .ok slot.mechanism)
      s.nested[i]? b.slots[i]? := by
  obtain ⟨start, hstart, habsorbed⟩ := exists_absorbed hrun
  obtain ⟨_, _, hslots⟩ := Factory.create_eq_ok_iff.1 hstart
  have hplace := rel_getElem?_of_forall₂ hslots i
  rw [habsorbed.slot_eq, inputsPerMechanism_of_create hstart]
  generalize s.nested[i]? = spec, start.slots[i]? = slot at hplace
  cases hplace with
  | none => exact .none
  | some hmakes => exact .some ⟨hmakes.identifier_eq, alone_of_makes hf hmakes _⟩

theorem standalone_eq (hf : f.IsOfSums) (hrun : (sequence groups).run f s = .ok b) (i : ℕ) :
    standalone s groups i = b.slots[i]?.map fun slot => .ok slot.mechanism := by
  have hplace := rel_alone hf hrun i
  unfold standalone
  generalize s.nested[i]? = spec, b.slots[i]? = slot at hplace
  cases hplace with
  | none => rfl
  | some h => exact congrArg some h.2

theorem exists_slot_of_standalone (hf : f.IsOfSums) (hrun : (sequence groups).run f s = .ok b)
    {i : ℕ} {sum : PrivateSum} (h : standalone s groups i = some (.ok sum)) :
    ∃ slot, b.slots[i]? = some slot ∧ slot.mechanism = sum := by
  rw [standalone_eq hf hrun] at h
  obtain ⟨slot, hslot, hsum⟩ := Option.map_eq_some_iff.1 h
  exact ⟨slot, hslot, Except.ok.inj hsum⟩

/-- The block of a report that belongs to a mechanism is its own report. -/
theorem block_of_standalone (hf : f.IsOfSums) (hrun : (sequence groups).run f s = .ok b)
    {outputs : List Double} (hreport : b.report.outcome = .ok outputs) (i : ℕ) :
    Bundle.block outputs i = match standalone s groups i with
      | some (.ok sum) => [sum.sum, b.budget.epsilon, b.budget.delta]
      | _ => [] := by
  rw [Bundle.outcome_report] at hreport
  split at hreport
  · cases hreport
  · obtain rfl := Except.ok.inj hreport
    rw [Bundle.block_flatMap, standalone_eq hf hrun]
    cases b.slots[i]? <;> rfl

theorem exists_spec_of_slot (hf : f.IsOfSums) (hrun : (sequence groups).run f s = .ok b) {i : ℕ}
    {slot : Slot PrivateSum} (h : b.slots[i]? = some slot) :
    ∃ m, s.nested[i]? = some m ∧ slot.identifier = m.identifier := by
  have hplace := rel_alone hf hrun i
  rw [h] at hplace
  generalize s.nested[i]? = spec at hplace ⊢
  cases hplace with
  | some hm => exact ⟨_, rfl, hm.1⟩

/-- Every group that is taken in is covered by its parts. -/
theorem forall_cover (hrun : (sequence groups).run f s = .ok b) : ∀ group ∈ groups,
    (List.range s.nested.length).flatMap (part s.inputCounts · group) = group ∧
      ∀ i, (part s.inputCounts i group).length = s.inputCounts.getD i 0 := by
  obtain ⟨start, hstart, habsorbed⟩ := exists_absorbed hrun
  intro group hgroup
  have hlength : group.length = s.inputCounts.sum :=
    inputsPerMechanism_of_create hstart ▸ habsorbed.length_eq group hgroup
  have hcover := flatMap_part hlength
  rw [BundleSpec.inputCounts, List.length_map] at hcover
  exact ⟨hcover, length_part hlength⟩

theorem length_slots (hrun : (sequence groups).run f s = .ok b) :
    b.slots.length = s.nested.length := by
  obtain ⟨start, hstart, habsorbed⟩ := exists_absorbed hrun
  have hlength := congrArg List.length
    (habsorbed.inputs_eq.trans (inputsPerMechanism_of_create hstart))
  rwa [Bundle.inputsPerMechanism, BundleSpec.inputCounts, List.length_map,
    List.length_map] at hlength

/-- The shares are a matter of the specification. -/
theorem budget_eq (hrun : (sequence groups).run f s = .ok b)
    (hrun' : (sequence groups').run f s = .ok b') : b'.budget = b.budget := by
  obtain ⟨start, hstart, habsorbed⟩ := exists_absorbed hrun
  obtain ⟨start', hstart', habsorbed'⟩ := exists_absorbed hrun'
  obtain rfl := Except.ok.inj (hstart.symm.trans hstart')
  rw [habsorbed.budget_eq, habsorbed'.budget_eq]

/-- **A bundle is the product of its mechanisms.**  Take a bundle that takes in groups one after
the other, all of them accepted.

The parts of every group are consecutive and cover it, each as long as its mechanism takes.
Every mechanism is in the state that it has on its own, fed with its parts alone.  The bundle
reports exactly if every mechanism on its own can, and else names the first that cannot; its report
has three values for each mechanism: its own sum, and the same two shares for all.  So what a
mechanism reports does not depend on the parts of the others. -/
theorem sequence_is_product (hf : f.IsOfSums) (hrun : (sequence groups).run f s = .ok b) :
    (∀ group ∈ groups,
      (List.range s.nested.length).flatMap (part s.inputCounts · group) = group ∧
        ∀ i, (part s.inputCounts i group).length = s.inputCounts.getD i 0) ∧
    (∀ i : ℕ, standalone s groups i = b.slots[i]?.map fun slot => .ok slot.mechanism) ∧
    ((∃ outputs, b.report.outcome = .ok outputs) ↔
      ∀ i sum, standalone s groups i = some (.ok sum) → Mechanism.canReport sum) ∧
    (∀ i sum, standalone s groups i = some (.ok sum) → ¬Mechanism.canReport sum →
      (∀ j < i, ∀ sum', standalone s groups j = some (.ok sum') → Mechanism.canReport sum') →
        ∃ m, s.nested[i]? = some m ∧
          b.report.outcome = .error (.notReportable (.nested i m.identifier))) ∧
    (∀ outputs, b.report.outcome = .ok outputs → outputs.length = 3 * s.nested.length ∧
      ∀ i sum, standalone s groups i = some (.ok sum) →
        Bundle.block outputs i = [sum.sum, b.budget.epsilon, b.budget.delta]) ∧
    (∀ groups' b', (sequence groups').run f s = .ok b' →
      ∀ i, groups'.map (part s.inputCounts i) = groups.map (part s.inputCounts i) →
        ∀ outputs outputs', b.report.outcome = .ok outputs → b'.report.outcome = .ok outputs' →
          Bundle.block outputs' i = Bundle.block outputs i) := by
  refine ⟨forall_cover hrun, standalone_eq hf hrun, ?_, ?_, fun outputs hreport => ⟨?_, ?_⟩, ?_⟩
  · rw [Bundle.exists_report_iff]
    constructor
    · intro h i sum hsum
      obtain ⟨slot, hslot, rfl⟩ := exists_slot_of_standalone hf hrun hsum
      exact h slot (List.mem_of_getElem? hslot)
    · intro h slot hslot
      obtain ⟨i, hi⟩ := List.getElem?_of_mem hslot
      exact h i slot.mechanism (by rw [standalone_eq hf hrun, hi]; rfl)
  · intro i sum hsum hunready hbefore
    obtain ⟨slot, hslot, rfl⟩ := exists_slot_of_standalone hf hrun hsum
    obtain ⟨m, hm, hidentifier⟩ := exists_spec_of_slot hf hrun hslot
    have hfirst := Bundle.unreadySlot?_eq_some 0 hslot hunready fun j hj slot' hslot' =>
      hbefore j hj slot'.mechanism (by rw [standalone_eq hf hrun, hslot']; rfl)
    refine ⟨m, hm, ?_⟩
    rw [Bundle.outcome_report, hfirst, Nat.zero_add, hidentifier]
  · rw [Bundle.length_of_report hreport, length_slots hrun]
  · intro i sum hsum
    rw [block_of_standalone hf hrun hreport, hsum]
  · intro groups' b' hrun' i hparts outputs outputs' hreport hreport'
    rw [block_of_standalone hf hrun hreport, block_of_standalone hf hrun' hreport', standalone,
      standalone, hparts, budget_eq hrun hrun']

/-- Three sums, of one stream, of none, and of two: the third waits for two groups, and keeps the
bundle from reporting after one. -/
theorem sequence_is_product_gated :
    let f := AnySum.factory (.ofNat .double 1)
    let s : BundleSpec := {
      nested := [.sum 1, .sum 0, .gatedSum 2 2]
      parameters := [.f64 (.ofNat .double 3), .f64 (.zero .double false)] }
    let group := [1, 2, 3].map (Binary.ofInt .double)
    ∃ b, (sequence [group]).run f s = .ok b ∧
      standalone s [group] 2 = some (.ok ⟨.ofInt .double 5, 1, 2⟩) ∧
        b.report.outcome = .error (.notReportable (.nested 2 "dp_sum")) := by
  intro f s group
  have hfirst : standalone s [group] 0 = some (.ok ⟨.ofInt .double 1, 1, 0⟩) := by decide +kernel
  have hsecond : standalone s [group] 1 = some (.ok ⟨.zero .double false, 1, 0⟩) := by
    decide +kernel
  have hthird : standalone s [group] 2 = some (.ok ⟨.ofInt .double 5, 1, 2⟩) := by decide +kernel
  obtain ⟨b, hb⟩ : ∃ b, (sequence [group]).run f s = .ok b :=
    ⟨{ slots := [⟨"dp_sum", 1, .ofInt .double 1, 1, 0⟩, ⟨"dp_sum", 0, .zero .double false, 1, 0⟩,
        ⟨"dp_sum", 2, .ofInt .double 5, 1, 2⟩]
       budget := Budget.shares (.ofNat .double 3) (.zero .double false) 3 (.ofNat .double 1)
       total := 1 }, by decide +kernel⟩
  obtain ⟨_, _, _, hunready, _⟩ := sequence_is_product (AnySum.isOfSums_factory _) hb
  obtain ⟨m, hm, hreport⟩ := hunready 2 _ hthird (by decide) fun j hj sum hsum => by
    obtain rfl | rfl : j = 0 ∨ j = 1 := by omega
    · obtain rfl := Except.ok.inj (Option.some.inj (hfirst.symm.trans hsum))
      decide
    · obtain rfl := Except.ok.inj (Option.some.inj (hsecond.symm.trans hsum))
      decide
  obtain rfl : MechanismSpec.gatedSum 2 2 = m := Option.some.inj hm
  exact ⟨b, hb, hthird, hreport⟩

end Plan
end SharedBudget
