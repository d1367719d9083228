/-
# The counter and the counts

The counter of a bundle of sums and the counts of its mechanisms are kept apart, in
the bundle's own state and in theirs.  They agree all the same: a fresh bundle has
seen nothing, and no operation moves one without the others
(`Bundle.Seen.counts`).  A mechanism does not look whether its count has room; the
bundle looks at its counter, and that is enough.
-/

import SharedBudget.Proofs.Bundle.Restoring

namespace SharedBudget
namespace Bundle

variable {b b' peer : Bundle PrivateSum} {n m : ℕ}

/-! ## Histories -/

/-- A history of the bundle counts so many groups.  A fresh bundle has seen nothing; a group
that is taken in counts once, and what a merged peer has seen is added; an operation that fails
counts nothing, and neither does a restored checkpoint. -/
inductive Seen : Bundle PrivateSum → ℕ → Prop where
  | created {f : Factory AnySum PrivateSum} {s : BundleSpec} {b : Bundle PrivateSum} :
      f.IsOfSums → (f.create s).outcome = .ok b → Seen b 0
  | accumulated {b b' : Bundle PrivateSum} {n : ℕ} {inputs : List Double} :
      Seen b n → (b.accumulate inputs).value = (b', .ok ()) → Seen b' (n + 1)
  | refused {b b' : Bundle PrivateSum} {n : ℕ} {inputs : List Double} {e : Error} :
      Seen b n → (b.accumulate inputs).value = (b', .error e) → Seen b' n
  | merged {b b' peer : Bundle PrivateSum} {n m : ℕ} :
      Seen b n → Seen peer m → (b.merge peer).value = (b', .ok ()) → Seen b' (n + m)
  | repelled {b b' peer : Bundle PrivateSum} {n : ℕ} {e : Error} :
      Seen b n → (b.merge peer).value = (b', .error e) → Seen b' n
  | restored {f : Factory AnySum PrivateSum} {s : BundleSpec} {b b' : Bundle PrivateSum} {n : ℕ}
      {now : Timestamp} {c : Checkpoint} :
      f.IsOfSums → Seen b n → (b.checkpoint now).outcome = .ok c →
        (f.restore s c).outcome = .ok b' → Seen b' n
  | reloaded {f : Factory AnySum PrivateSum} {s : BundleSpec} {b b' : Bundle PrivateSum} {n : ℕ}
      {now : Timestamp} {text : Bytes} :
      f.IsOfSums → Seen b n → (b.checkpointBytes now).outcome = .ok text →
        (f.restoreBytes s text).outcome = .ok b' → Seen b' n

/-- The counter shows this number, and so does every count. -/
structure Tallies (b : Bundle PrivateSum) (n : ℕ) : Prop where
  total_eq : b.total.toNat = n
  count_eq : ∀ slot ∈ b.slots, slot.mechanism.count = b.total

theorem tallies_of_create {f : Factory AnySum PrivateSum} (hf : f.IsOfSums) {s : BundleSpec}
    (h : (f.create s).outcome = .ok b) : b.Tallies 0 := by
  obtain ⟨_, htotal, _⟩ := Factory.create_eq_ok_iff.1 h
  refine ⟨by rw [htotal]; rfl, fun slot hslot => ?_⟩
  obtain ⟨minimum, hempty⟩ := hf.empty_of_create h slot hslot
  rw [hempty, htotal]
  rfl

theorem toNat_add {x y : UInt64} (h : x.toNat + y.toNat < 2 ^ 64) :
    (x + y).toNat = x.toNat + y.toNat := by
  rw [UInt64.toNat_add, Nat.mod_eq_of_lt h]

/-- A group that is taken in moves the counter and every count by one. -/
theorem Tallies.fed (h : b.Tallies n) (hroom : b.total.toNat + 1 < 2 ^ 64) (inputs : List Double) :
    Tallies { b with slots := fed b.slots inputs, total := b.total + 1 } (n + 1) := by
  refine ⟨?_, fun slot hslot => ?_⟩
  · rw [← h.total_eq]
    exact toNat_add hroom
  · obtain ⟨own, hown, hcount⟩ := exists_count_of_mem_fed hslot
    rw [hcount, h.count_eq own hown]

/-- A peer that is merged moves the counter and every count by what it has seen. -/
theorem Tallies.joined (h : b.Tallies n) (hpeer : peer.Tallies m)
    (hroom : b.total.toNat + peer.total.toNat < 2 ^ 64) :
    Tallies { b with slots := joined b.slots peer.slots, total := b.total + peer.total }
      (n + m) := by
  refine ⟨?_, fun slot hslot => ?_⟩
  · rw [← h.total_eq, ← hpeer.total_eq]
    exact toNat_add hroom
  · obtain ⟨own, hown, other, hother, hcount⟩ := exists_count_of_mem_joined hslot
    rw [hcount, h.count_eq own hown, hpeer.count_eq other hother]

/-- A bundle that comes back from its checkpoint has the counter and the counts it had. -/
theorem Tallies.restored {f : Factory AnySum PrivateSum} (hf : f.IsOfSums) {s : BundleSpec}
    {now : Timestamp} (h : b.Tallies n) (hback : (f.restore s (b.snapshot now)).outcome = .ok b') :
    b'.Tallies n := by
  obtain ⟨htotal, hcounts⟩ := counts_of_restore hf hback
  refine ⟨htotal ▸ h.total_eq, fun slot' hslot' => ?_⟩
  obtain ⟨slot, hslot, hcount⟩ := hcounts slot' hslot'
  rw [hcount, htotal, h.count_eq slot hslot]

/-- **The counter and the counts agree with the history.** -/
theorem Seen.tallies (h : Seen b n) : b.Tallies n := by
  induction h with
  | created hf h => exact tallies_of_create hf h
  | @accumulated b b' n inputs _ h ih =>
    rcases b.accumulate_cases inputs with ⟨⟨_, hroom⟩, hvalue⟩ | ⟨_, e, hvalue⟩
    · obtain ⟨rfl, _⟩ := Prod.mk.inj (hvalue.symm.trans h)
      exact ih.fed hroom inputs
    · cases hvalue.symm.trans h
  | @refused b b' n inputs e _ h ih =>
    rcases b.accumulate_cases inputs with ⟨_, hvalue⟩ | ⟨_, e, hvalue⟩
    · cases hvalue.symm.trans h
    · obtain ⟨rfl, _⟩ := Prod.mk.inj (hvalue.symm.trans h)
      exact ih
  | @merged b b' peer n m _ _ h ih ihpeer =>
    rcases b.merge_cases peer with ⟨⟨_, hroom⟩, hvalue⟩ | ⟨_, e, hvalue⟩
    · obtain ⟨rfl, _⟩ := Prod.mk.inj (hvalue.symm.trans h)
      exact ih.joined ihpeer hroom
    · cases hvalue.symm.trans h
  | @repelled b b' peer n e _ h ih =>
    rcases b.merge_cases peer with ⟨_, hvalue⟩ | ⟨_, e, hvalue⟩
    · cases hvalue.symm.trans h
    · obtain ⟨rfl, _⟩ := Prod.mk.inj (hvalue.symm.trans h)
      exact ih
  | restored hf _ hcheckpoint hback ih =>
    rw [outcome_checkpoint] at hcheckpoint
    obtain rfl := Except.ok.inj hcheckpoint
    exact ih.restored hf hback
  | reloaded hf _ hcheckpoint hback ih =>
    rw [outcome_checkpointBytes] at hcheckpoint
    obtain rfl := Except.ok.inj hcheckpoint
    exact ih.restored hf (restoreBytes_snapshot_iff.1 hback)

/-! ## Reports -/

/-- The largest number of groups that a mechanism of the bundle waits for. -/
def largestMinimum (b : Bundle PrivateSum) : ℕ :=
  (b.slots.map fun slot => slot.mechanism.minimum.toNat).foldr max 0

theorem foldr_max_le_iff {xs : List ℕ} : xs.foldr max 0 ≤ n ↔ ∀ x ∈ xs, x ≤ n := by
  induction xs with
  | nil => simp
  | cons x xs ih => rw [List.foldr_cons, Nat.max_le, ih, List.forall_mem_cons]

/-- A bundle can report once it has seen as many groups as any of its mechanisms waits for. -/
theorem Tallies.canReport_iff (h : b.Tallies n) : b.canReport ↔ b.largestMinimum ≤ n := by
  unfold canReport largestMinimum
  rw [foldr_max_le_iff, List.all_eq_true, List.forall_mem_map]
  refine forall₂_congr fun slot hslot => ?_
  have hready : Mechanism.canReport slot.mechanism =
      decide (slot.mechanism.minimum ≤ slot.mechanism.count) := rfl
  rw [hready, decide_eq_true_eq, UInt64.le_iff_toNat_le, h.count_eq slot hslot, h.total_eq]

/-- **The counter, the counts and the history agree.**  The counter of a bundle is what its
history counts, and so is the count of every mechanism.  So no count overflows, although no
mechanism looks: a group is refused, and changes nothing, or every count has room for it; and a
peer is refused, and changes nothing, or every count has room for any count of the peer.  And a
bundle can report exactly if the counter has reached the largest number that a mechanism
waits for. -/
theorem Seen.counts (h : Seen b n) :
    b.total.toNat = n ∧ (∀ slot ∈ b.slots, slot.mechanism.count.toNat = n) ∧
      (∀ inputs, (∃ e, (b.accumulate inputs).value = (b, .error e)) ∨
        (b.accumulate inputs).value.2 = .ok () ∧
          ∀ slot ∈ b.slots, slot.mechanism.count.toNat + 1 < 2 ^ 64) ∧
      (∀ peer m, Seen peer m → (∃ e, (b.merge peer).value = (b, .error e)) ∨
        (b.merge peer).value.2 = .ok () ∧ ∀ slot ∈ b.slots, ∀ other ∈ peer.slots,
          slot.mechanism.count.toNat + other.mechanism.count.toNat < 2 ^ 64) ∧
      (b.canReport ↔ b.largestMinimum ≤ b.total.toNat) := by
  have htallies := h.tallies
  refine ⟨htallies.total_eq, fun slot hslot => ?_, fun inputs => ?_, fun peer m hpeer => ?_, ?_⟩
  · rw [htallies.count_eq slot hslot, htallies.total_eq]
  · rcases b.accumulate_cases inputs with ⟨⟨_, hroom⟩, hvalue⟩ | ⟨_, e, hvalue⟩
    · refine Or.inr ⟨by rw [hvalue], fun slot hslot => ?_⟩
      rwa [htallies.count_eq slot hslot]
    · exact Or.inl ⟨e, hvalue⟩
  · rcases b.merge_cases peer with ⟨⟨_, hroom⟩, hvalue⟩ | ⟨_, e, hvalue⟩
    · refine Or.inr ⟨by rw [hvalue], fun slot hslot other hother => ?_⟩
      rwa [htallies.count_eq slot hslot, hpeer.tallies.count_eq other hother]
    · exact Or.inl ⟨e, hvalue⟩
  · rw [htallies.total_eq]
    exact htallies.canReport_iff

/-- A sum that takes in one group, is merged into a copy of itself and comes back from its
checkpoint has seen two groups. -/
theorem counts_two_groups :
    let b := single (.ofBits .double 0x3FC999999999999A) 2
    Seen b 2 ∧ b.total.toNat = 2 ∧ (∀ slot ∈ b.slots, slot.mechanism.count.toNat = 2) ∧
      (b.canReport ↔ b.largestMinimum ≤ b.total.toNat) := by
  intro b
  have hf : (AnySum.factory (.ofNat .double 1)).IsOfSums := AnySum.isOfSums_factory _
  have hone : Seen (single (.ofBits .double 0x3FB999999999999A) 1) 1 :=
    (Seen.created hf create_single).accumulated (accumulate_single (by decide +kernel))
  have htwo : Seen b 2 := hone.merged hone (by decide +kernel)
  have hread : b.reread = some b := by decide +kernel
  have hplace : b.IsOf (AnySum.factory (.ofNat .double 1))
      (.sums [1] (.ofNat .double 1) (.zero .double false)) :=
    (isOf_of_create hf create_single).of_frames rfl rfl
  have hagain : Seen b 2 := htwo.restored hf (b.outcome_checkpoint .epoch)
    ((hplace.restore_snapshot_iff hf .epoch).2 hread)
  obtain ⟨htotal, hcounts, _, _, hreport⟩ := hagain.counts
  exact ⟨hagain, htotal, hcounts, hreport⟩

end Bundle
end SharedBudget
