/-
# What the operations do to a bundle of sums

A sum absorbs every group and merges with every sum.  So a bundle of sums takes a
group in, or merges a peer, exactly if the checks before let it, and is left as it
is if they do not (`Bundle.accumulate_cases`, `Bundle.merge_cases`).  Either way
the frame of a slot stays: its identifier, its number of inputs, and the number of
groups it waits for.
-/

import SharedBudget.Bundle
import SharedBudget.Mechanism.Sum
import Mathlib.Data.List.Forall2
import Mathlib.Data.Nat.Notation

namespace SharedBudget

/-- What no operation changes about the slot of a sum. -/
def Slot.frame (s : Slot PrivateSum) : String × ℕ × UInt64 :=
  (s.identifier, s.inputs, s.mechanism.minimum)

/-- What the frames of slots say stays if the frames stay. -/
theorem Slot.map_eq_of_map_frame {β : Type} (own : String × ℕ × UInt64 → β)
    {slots slots' : List (Slot PrivateSum)} (h : slots'.map frame = slots.map frame) :
    slots'.map (fun slot => own slot.frame) = slots.map fun slot => own slot.frame := by
  have hown := congrArg (List.map own) h
  rwa [List.map_map, List.map_map] at hown

namespace Bundle

variable {b peer : Bundle PrivateSum} {inputs : List Double}

/-! ## Slots -/

/-- The slots after a group. -/
def fed : List (Slot PrivateSum) → List Double → List (Slot PrivateSum)
  | [], _ => []
  | s :: slots, inputs =>
    { s with mechanism := s.mechanism.absorb (inputs.take s.inputs) } ::
      fed slots (inputs.drop s.inputs)

/-- The slots with what the slots of a peer have absorbed. -/
def joined (slots peers : List (Slot PrivateSum)) : List (Slot PrivateSum) :=
  List.zipWith (fun s t => { s with mechanism := s.mechanism.join t.mechanism }) slots peers

/-- No sum refuses its part of a group. -/
theorem feed_eq (slots : List (Slot PrivateSum)) (inputs : List Double) :
    feed slots inputs = (fed slots inputs, .ok ()) := by
  induction slots generalizing inputs with
  | nil => rfl
  | cons s slots ih =>
    simp only [feed, fed, Mechanism.accumulate]
    rw [ih]

/-- No sum refuses another one. -/
theorem join_eq {slots peers : List (Slot PrivateSum)} (h : slots.length = peers.length) :
    join slots peers = (joined slots peers, .ok ()) := by
  induction slots generalizing peers with
  | nil => cases peers <;> rfl
  | cons s slots ih =>
    cases peers with
    | nil => cases h
    | cons t peers =>
      simp only [join, joined, List.zipWith_cons_cons, Mechanism.merge]
      rw [ih (Nat.succ.inj h)]
      rfl

@[simp] theorem map_frame_fed (slots : List (Slot PrivateSum)) (inputs : List Double) :
    (fed slots inputs).map Slot.frame = slots.map Slot.frame := by
  induction slots generalizing inputs with
  | nil => rfl
  | cons s slots ih =>
    rw [fed, List.map_cons, List.map_cons, ih]
    rfl

theorem map_frame_joined {slots peers : List (Slot PrivateSum)}
    (h : slots.length = peers.length) :
    (joined slots peers).map Slot.frame = slots.map Slot.frame := by
  induction slots generalizing peers with
  | nil => rfl
  | cons s slots ih =>
    cases peers with
    | nil => cases h
    | cons t peers =>
      rw [joined, List.zipWith_cons_cons, List.map_cons, List.map_cons, ← ih (Nat.succ.inj h)]
      rfl

/-- A count after a group is one of the counts before, and one more. -/
theorem exists_count_of_mem_fed {slots : List (Slot PrivateSum)} {t : Slot PrivateSum}
    (h : t ∈ fed slots inputs) : ∃ s ∈ slots, t.mechanism.count = s.mechanism.count + 1 := by
  induction slots generalizing inputs with
  | nil => cases h
  | cons s slots ih =>
    rcases List.mem_cons.1 h with rfl | h
    · exact ⟨s, List.mem_cons_self .., rfl⟩
    · obtain ⟨s', hs', hcount⟩ := ih h
      exact ⟨s', List.mem_cons_of_mem _ hs', hcount⟩

/-- A count after a merge is the sum of a count of either side. -/
theorem exists_count_of_mem_joined {slots peers : List (Slot PrivateSum)} {r : Slot PrivateSum}
    (h : r ∈ joined slots peers) : ∃ s ∈ slots, ∃ t ∈ peers,
      r.mechanism.count = s.mechanism.count + t.mechanism.count := by
  induction slots generalizing peers with
  | nil => cases h
  | cons s slots ih =>
    cases peers with
    | nil => cases h
    | cons t peers =>
      rw [joined, List.zipWith_cons_cons] at h
      rcases List.mem_cons.1 h with rfl | h
      · exact ⟨s, List.mem_cons_self .., t, List.mem_cons_self .., rfl⟩
      · obtain ⟨s', hs', t', ht', hcount⟩ := ih h
        exact ⟨s', List.mem_cons_of_mem _ hs', t', List.mem_cons_of_mem _ ht', hcount⟩

/-! ## Groups -/

/-- A group has the right width, and the counter has room for one more. -/
def Admits (b : Bundle PrivateSum) (inputs : List Double) : Prop :=
  inputs.length = b.expectedInputs ∧ b.total.toNat + 1 < 2 ^ 64

/-- What comes of a group: its width is checked, then the counter, and no sum refuses. -/
theorem value_accumulate (b : Bundle PrivateSum) (inputs : List Double) :
    (b.accumulate inputs).value =
      if inputs.length ≠ b.expectedInputs then
        (b, .error (.inputCount b.expectedInputs inputs.length))
      else if b.total.toNat + 1 < 2 ^ 64 then
        ({ b with slots := fed b.slots inputs, total := b.total + 1 }, .ok ())
      else (b, .error (.counterOverflow b.total 1)) := by
  unfold accumulate
  by_cases hwidth : inputs.length = b.expectedInputs
  · rw [if_neg (not_not.2 hwidth), if_neg (not_not.2 hwidth), counterAfter, feed_eq]
    by_cases hroom : b.total.toNat + 1 < 2 ^ 64
    · rw [if_pos (by simpa using hroom), if_pos hroom]
      rfl
    · rw [if_neg (by simpa using hroom), if_neg hroom]
      rfl
  · rw [if_pos hwidth, if_pos hwidth]
    rfl

/-- **A group is taken in** exactly if it is admitted; if it is not, nothing changes. -/
theorem accumulate_cases (b : Bundle PrivateSum) (inputs : List Double) :
    (b.Admits inputs ∧ (b.accumulate inputs).value =
        ({ b with slots := fed b.slots inputs, total := b.total + 1 }, .ok ())) ∨
      (¬b.Admits inputs ∧ ∃ e, (b.accumulate inputs).value = (b, .error e)) := by
  rw [value_accumulate]
  split
  · rename_i hwidth
    exact Or.inr ⟨fun h => hwidth h.1, _, rfl⟩
  · rename_i hwidth
    split
    · rename_i hroom
      exact Or.inl ⟨⟨not_not.1 hwidth, hroom⟩, rfl⟩
    · rename_i hroom
      exact Or.inr ⟨fun h => hroom h.2, _, rfl⟩

/-! ## Peers -/

/-- Two bundles of sums fit together: slot by slot they take as many inputs and wait for as
many groups, and their shares of the budget are equal. -/
structure Fits (b peer : Bundle PrivateSum) : Prop where
  inputs_eq : b.inputsPerMechanism = peer.inputsPerMechanism
  epsilon_eq : b.budget.epsilon.eq peer.budget.epsilon
  delta_eq : b.budget.delta.eq peer.budget.delta
  minimum_eq : b.slots.map (·.mechanism.minimum) = peer.slots.map (·.mechanism.minimum)

theorem Fits.length_eq (h : b.Fits peer) : b.slots.length = peer.slots.length := by
  simpa [inputsPerMechanism] using congrArg List.length h.inputs_eq

theorem incompatibleSlot?_eq_none_iff {index : ℕ} {slots peers : List (Slot PrivateSum)}
    (h : slots.length = peers.length) :
    incompatibleSlot? index slots peers = none ↔
      slots.map (·.mechanism.minimum) = peers.map (·.mechanism.minimum) := by
  induction slots generalizing index peers with
  | nil =>
    cases peers with
    | nil => simp [incompatibleSlot?]
    | cons t peers => cases h
  | cons s slots ih =>
    cases peers with
    | nil => cases h
    | cons t peers =>
      have hcompatible : Mechanism.isCompatible s.mechanism t.mechanism =
          decide (t.mechanism.minimum = s.mechanism.minimum) := rfl
      rw [incompatibleSlot?, hcompatible, List.map_cons, List.map_cons, List.cons.injEq]
      by_cases hminimum : t.mechanism.minimum = s.mechanism.minimum
      · simp [hminimum, ih (Nat.succ.inj h)]
      · simp [hminimum, eq_comm (a := s.mechanism.minimum)]

/-- Nothing speaks against merging two bundles of sums exactly if they fit together. -/
theorem incompatibility?_eq_none_iff : b.incompatibility? peer = none ↔ b.Fits peer := by
  unfold incompatibility?
  by_cases hinputs : b.inputsPerMechanism = peer.inputsPerMechanism
  · have hsize : b.size = peer.size := by
      simpa [inputsPerMechanism, size] using congrArg List.length hinputs
    rw [if_neg (not_not.2 hsize), if_neg (not_not.2 hinputs)]
    by_cases hbudget : b.budget.epsilon.eq peer.budget.epsilon ∧
        b.budget.delta.eq peer.budget.delta
    · rw [if_neg (by simp [hbudget.1, hbudget.2]), incompatibleSlot?_eq_none_iff hsize]
      exact ⟨fun h => ⟨hinputs, hbudget.1, hbudget.2, h⟩, Fits.minimum_eq⟩
    · rw [if_pos (by simpa [Classical.or_iff_not_imp_left] using hbudget)]
      exact ⟨nofun, fun h => absurd ⟨h.epsilon_eq, h.delta_eq⟩ hbudget⟩
  · refine ⟨fun h => ?_, fun h => absurd h.inputs_eq hinputs⟩
    rw [if_pos hinputs] at h
    split at h <;> cases h

/-- A peer fits, and the counter has room for its groups. -/
def Welcomes (b peer : Bundle PrivateSum) : Prop :=
  b.Fits peer ∧ b.total.toNat + peer.total.toNat < 2 ^ 64

/-- What comes of a peer: whether it fits is checked, then the counter, and no sum refuses. -/
theorem value_merge (b peer : Bundle PrivateSum) :
    (b.merge peer).value =
      match b.incompatibility? peer with
      | some reason => (b, .error (.incompatible reason))
      | none =>
        if b.total.toNat + peer.total.toNat < 2 ^ 64 then
          ({ b with slots := joined b.slots peer.slots, total := b.total + peer.total }, .ok ())
        else (b, .error (.counterOverflow b.total peer.total)) := by
  unfold merge
  cases hfits : b.incompatibility? peer with
  | some reason => rfl
  | none =>
    rw [counterAfter, join_eq (incompatibility?_eq_none_iff.1 hfits).length_eq]
    by_cases hroom : b.total.toNat + peer.total.toNat < 2 ^ 64
    · simp only [if_pos hroom]
      rfl
    · simp only [if_neg hroom]
      rfl

/-- **A peer is merged** exactly if it is welcome; if it is not, nothing changes. -/
theorem merge_cases (b peer : Bundle PrivateSum) :
    (b.Welcomes peer ∧ (b.merge peer).value =
        ({ b with slots := joined b.slots peer.slots, total := b.total + peer.total },
          .ok ())) ∨
      (¬b.Welcomes peer ∧ ∃ e, (b.merge peer).value = (b, .error e)) := by
  rw [value_merge]
  unfold Welcomes
  rw [← incompatibility?_eq_none_iff]
  split
  · rename_i reason hfits
    exact Or.inr ⟨fun h => (nomatch hfits.symm.trans h.1), _, rfl⟩
  · rename_i hfits
    split
    · rename_i hroom
      exact Or.inl ⟨⟨hfits, hroom⟩, rfl⟩
    · rename_i hroom
      exact Or.inr ⟨fun h => hroom h.2, _, rfl⟩

end Bundle
end SharedBudget
