/-
# What a checkpoint keeps of a bundle

A bundle of sums can always be written down.  Restored with its own specification,
it comes back with everything but its sums, and every sum comes back as what a
document makes of a double (`Json.reread`); if that is nothing for one of them, the
bundle does not come back at all.  So a checkpoint loses nothing exactly if every
sum is read back as itself (`Bundle.Reachable.restores_iff`), which holds of whole
sums below `2 ^ 53 / 10` (`Bundle.Reachable.restoreBytes_of_isWhole`).
-/

import SharedBudget.Proofs.Bundle.Sums
import SharedBudget.Proofs.Checkpoint.Frames
import SharedBudget.Proofs.Mechanism.Blobs
import SharedBudget.Proofs.Mechanism.Sums

namespace SharedBudget

/-! ## Slots -/

namespace Slot

variable {f : Factory AnySum PrivateSum} {m : MechanismSpec} {slot slot' : Slot PrivateSum}

/-- The slot as it comes back from a checkpoint, if it does. -/
def reread (slot : Slot PrivateSum) : Option (Slot PrivateSum) :=
  (Json.reread slot.mechanism.sum).map fun sum =>
    { slot with mechanism := { slot.mechanism with sum } }

/-- The slot stands in the place of a mechanism that makes sums. -/
structure IsOf (f : Factory AnySum PrivateSum) (m : MechanismSpec) (slot : Slot PrivateSum) :
    Prop where
  identifier_eq : slot.identifier = m.identifier
  inputs_eq : slot.inputs = m.inputCount
  maker_eq : f.registry.maker? m.identifier = some AnySum.privateMaker

/-- The place of a slot is a matter of its frame. -/
theorem IsOf.of_frame (h : slot.IsOf f m) (hframe : slot'.frame = slot.frame) : slot'.IsOf f m where
  identifier_eq := (congrArg (·.1) hframe).trans h.identifier_eq
  inputs_eq := (congrArg (·.2.1) hframe).trans h.inputs_eq
  maker_eq := h.maker_eq

/-- In its own place a slot comes back as it is read. -/
theorem IsOf.makes_iff (hf : f.IsOfSums) (h : slot.IsOf f m) :
    f.Makes m (some (.ofBlob (some slot.identifier) slot.mechanism.encode)) slot' ↔
      slot.reread = some slot' := by
  rw [hf.makes_some_iff]
  simp only [Checkpoint.Entry.ofBlob, PrivateSum.decode_encode_eq_ok_iff, reread]
  obtain ⟨identifier, inputs, mechanism⟩ := slot
  obtain ⟨identifier', inputs', sum', count', minimum'⟩ := slot'
  obtain ⟨rfl, rfl, hmaker⟩ := h
  cases Json.reread mechanism.sum with
  | none => simp
  | some x => simp [hmaker, eq_comm]

/-- The two slots are the same, any NaN being the same as any other. -/
structure Same (slot slot' : Slot PrivateSum) : Prop where
  identifier_eq : slot'.identifier = slot.identifier
  inputs_eq : slot'.inputs = slot.inputs
  sum_eq : slot'.mechanism.sum = slot.mechanism.sum ∨
    slot'.mechanism.sum.isNaN ∧ slot.mechanism.sum.isNaN
  count_eq : slot'.mechanism.count = slot.mechanism.count
  minimum_eq : slot'.mechanism.minimum = slot.mechanism.minimum

theorem Same.refl (slot : Slot PrivateSum) : slot.Same slot := ⟨rfl, rfl, Or.inl rfl, rfl, rfl⟩

theorem reread_eq_self_iff :
    slot.reread = some slot ↔ Json.reread slot.mechanism.sum = some slot.mechanism.sum := by
  obtain ⟨identifier, inputs, sum, count, minimum⟩ := slot
  simp [reread]

/-- A slot that comes back the same comes back as itself: no NaN comes back. -/
theorem reread_eq_self_of_same (h : slot.reread = some slot') (hsame : slot.Same slot') :
    slot.reread = some slot := by
  obtain ⟨x, hx, rfl⟩ := Option.map_eq_some_iff.1 h
  rw [reread_eq_self_iff, hx]
  rcases hsame.sum_eq with hsum | hsum
  · exact congrArg some hsum
  · exact absurd hsum.1 (by simp [Json.isNaN_reread hx])

end Slot

namespace Bundle

variable {f : Factory AnySum PrivateSum} {s : BundleSpec} {b b' peer : Bundle PrivateSum}

/-! ## Writing down -/

/-- The checkpoint of a bundle of sums. -/
def snapshot (b : Bundle PrivateSum) (now : Timestamp) : Checkpoint :=
  { Checkpoint.empty now b.total with
    entries := b.slots.map fun slot => .ofBlob (some slot.identifier) slot.mechanism.encode }

theorem entries_eq (slots : List (Slot PrivateSum)) : entries slots =
    .ok (slots.map fun slot => .ofBlob (some slot.identifier) slot.mechanism.encode) := by
  induction slots with
  | nil => rfl
  | cons slot slots ih =>
    have hblob : Mechanism.serialize slot.mechanism = .ok slot.mechanism.encode := rfl
    rw [entries, hblob, ok_bind, ih, ok_bind]
    rfl

/-- **A bundle of sums can be written down.** -/
theorem outcome_checkpoint (b : Bundle PrivateSum) (now : Timestamp) :
    (b.checkpoint now).outcome = .ok (b.snapshot now) := by
  unfold checkpoint
  rw [entries_eq]
  rfl

theorem outcome_checkpointBytes (b : Bundle PrivateSum) (now : Timestamp) :
    (b.checkpointBytes now).outcome = .ok (b.snapshot now).encode := by
  unfold checkpointBytes
  rw [Attempt.outcome_bind, outcome_checkpoint]
  rfl

theorem check_snapshot (b : Bundle PrivateSum) (now : Timestamp) :
    (b.snapshot now).check = .ok () := by
  have hframes : ∀ e ∈ (b.snapshot now).entries, e.IsFrame := by
    intro e he
    obtain ⟨slot, _, rfl⟩ := List.mem_map.1 he
    exact Checkpoint.Entry.isFrame_ofBlob slot.mechanism.length_encode_lt
  exact Checkpoint.check_eq_ok_iff.2 ⟨rfl, hframes⟩

/-! ## Coming back -/

/-- It makes no difference whether the checkpoint of a bundle is handed over as it is or as a
document. -/
theorem restoreBytes_snapshot_iff {now : Timestamp} :
    (f.restoreBytes s (b.snapshot now).encode).outcome = .ok b' ↔
      (f.restore s (b.snapshot now)).outcome = .ok b' := by
  rw [Factory.restoreBytes_eq_ok_iff, Checkpoint.decode_encode (b.check_snapshot now)]
  simp

/-- A bundle comes back with its counter and with its counts, whatever the specification. -/
theorem counts_of_restore (hf : f.IsOfSums) {now : Timestamp}
    (h : (f.restore s (b.snapshot now)).outcome = .ok b') : b'.total = b.total ∧
      ∀ slot' ∈ b'.slots, ∃ slot ∈ b.slots, slot'.mechanism.count = slot.mechanism.count := by
  obtain ⟨_, htotal, _, _, hslots⟩ := Factory.restore_eq_ok_iff.1 h
  refine ⟨htotal, forall_mem_of_forall₂ hslots fun ⟨m, e⟩ hpair slot' hmakes => ?_⟩
  obtain ⟨slot, hslot, rfl⟩ := List.mem_map.1 (List.of_mem_zip hpair).2
  obtain ⟨_, _, _, _, hdecode⟩ := hf.makes_some_iff.1 hmakes
  exact ⟨slot, hslot, (PrivateSum.decode_encode_eq_ok_iff.1 hdecode).2.1⟩

/-! ## Coming back to one's own place -/

/-- The bundle as it comes back from a checkpoint, if it does. -/
def reread (b : Bundle PrivateSum) : Option (Bundle PrivateSum) :=
  (b.slots.mapM Slot.reread).map fun slots => { b with slots }

/-- The bundle is one of this specification: it has the budget and the slots for it. -/
structure IsOf (f : Factory AnySum PrivateSum) (s : BundleSpec) (b : Bundle PrivateSum) : Prop where
  grants : f.Grants s b.budget
  slots : List.Forall₂ (Slot.IsOf f) s.nested b.slots

theorem IsOf.of_frames (h : b.IsOf f s) (hbudget : b'.budget = b.budget)
    (hframes : b'.slots.map Slot.frame = b.slots.map Slot.frame) : b'.IsOf f s where
  grants := hbudget ▸ h.grants
  slots := by
    have hplaces : List.Forall₂ (fun m frame => ∀ slot : Slot PrivateSum, slot.frame = frame →
        slot.IsOf f m) s.nested (b.slots.map Slot.frame) :=
      List.forall₂_map_right_iff.2 (h.slots.imp fun m slot hslot slot' => hslot.of_frame)
    rw [← hframes] at hplaces
    exact (List.forall₂_map_right_iff.1 hplaces).imp fun m slot hslot => hslot slot rfl

/-- **Restored with its own specification,** a bundle comes back as it is read. -/
theorem IsOf.restore_snapshot_iff (hf : f.IsOfSums) (h : b.IsOf f s) (now : Timestamp) :
    (f.restore s (b.snapshot now)).outcome = .ok b' ↔ b.reread = some b' := by
  have hslots (specs : List MechanismSpec) (slots slots' : List (Slot PrivateSum))
      (hplaces : List.Forall₂ (Slot.IsOf f) specs slots) :
      List.Forall₂ (fun pair slot => f.Makes pair.1 (some pair.2) slot)
        (specs.zip (slots.map fun slot =>
          .ofBlob (some slot.identifier) slot.mechanism.encode)) slots' ↔
        List.Forall₂ (fun slot slot' => slot.reread = some slot') slots slots' := by
    induction hplaces generalizing slots' with
    | nil => simp
    | cons hslot _ ih =>
      rw [List.map_cons, List.zip_cons_cons, List.forall₂_cons_left_iff,
        List.forall₂_cons_left_iff]
      simp only [ih, hslot.makes_iff hf]
  rw [Factory.restore_eq_ok_iff, reread, Option.map_eq_some_iff]
  simp only [Json.mapM_eq_some_iff]
  constructor
  · rintro ⟨hgrants, htotal, _, _, hmade⟩
    refine ⟨b'.slots, (hslots _ _ _ h.slots).1 hmade, ?_⟩
    have htotal : b.total = b'.total := htotal.symm
    rw [h.grants.unique hgrants, htotal]
  · rintro ⟨slots', hreread, rfl⟩
    refine ⟨h.grants, rfl, ?_, b.check_snapshot now, (hslots _ _ _ h.slots).2 hreread⟩
    rw [h.slots.length_eq]
    exact List.length_map ..

/-- The two bundles are the same, any NaN being the same as any other. -/
structure Same (b b' : Bundle PrivateSum) : Prop where
  budget_eq : b'.budget = b.budget
  total_eq : b'.total = b.total
  slots : List.Forall₂ Slot.Same b.slots b'.slots

theorem reread_eq_self (h : ∀ slot ∈ b.slots, slot.reread = some slot) : b.reread = some b := by
  rw [reread, Json.mapM_eq_self_iff.2 h]
  rfl

/-- A bundle comes back the same exactly if every sum is read as itself. -/
theorem exists_same_iff : (∃ b', b.reread = some b' ∧ b.Same b') ↔
    ∀ slot ∈ b.slots, Json.reread slot.mechanism.sum = some slot.mechanism.sum := by
  simp only [← Slot.reread_eq_self_iff]
  constructor
  · rintro ⟨b', hreread, hsame⟩
    obtain ⟨slots', hslots, rfl⟩ := Option.map_eq_some_iff.1 hreread
    have hself : List.Forall₂ (fun slot slot' => slot.reread = some slot ∧ slot.Same slot')
        b.slots slots' :=
      List.Forall₂.mp (fun slot slot' h hsame => ⟨Slot.reread_eq_self_of_same h hsame, hsame⟩)
        (Json.mapM_eq_some_iff.1 hslots) hsame.slots
    exact ((List.forall₂_and_left _ _).1 hself).1
  · intro h
    exact ⟨b, reread_eq_self h, rfl, rfl, List.forall₂_same.2 fun slot _ => .refl slot⟩

/-! ## Histories -/

/-- The bundle is what a fresh bundle of the specification becomes by groups of inputs and
peers, taken in or refused. -/
inductive Reachable (f : Factory AnySum PrivateSum) (s : BundleSpec) : Bundle PrivateSum → Prop where
  | create {b : Bundle PrivateSum} : (f.create s).outcome = .ok b → Reachable f s b
  | accumulate {b : Bundle PrivateSum} (inputs : List Double) :
      Reachable f s b → Reachable f s (b.accumulate inputs).value.1
  | merge {b : Bundle PrivateSum} (peer : Bundle PrivateSum) :
      Reachable f s b → Reachable f s (b.merge peer).value.1

theorem isOf_of_create (hf : f.IsOfSums) (h : (f.create s).outcome = .ok b) : b.IsOf f s := by
  obtain ⟨hgrants, _, hslots⟩ := Factory.create_eq_ok_iff.1 h
  refine ⟨hgrants, hslots.imp fun m slot hmakes => ?_⟩
  obtain ⟨hidentifier, hinputs, hmaker, _⟩ := hf.makes_none_iff.1 hmakes
  exact ⟨hidentifier, hinputs, hmaker⟩

theorem IsOf.accumulate (h : b.IsOf f s) (inputs : List Double) :
    (b.accumulate inputs).value.1.IsOf f s := by
  rcases b.accumulate_cases inputs with ⟨_, hvalue⟩ | ⟨_, e, hvalue⟩
  · rw [hvalue]
    exact h.of_frames rfl (map_frame_fed b.slots inputs)
  · rw [hvalue]
    exact h

theorem IsOf.merge (h : b.IsOf f s) (peer : Bundle PrivateSum) :
    (b.merge peer).value.1.IsOf f s := by
  rcases b.merge_cases peer with ⟨hwelcome, hvalue⟩ | ⟨_, e, hvalue⟩
  · rw [hvalue]
    exact h.of_frames rfl (map_frame_joined hwelcome.1.length_eq)
  · rw [hvalue]
    exact h

/-- No group and no peer changes the specification of a bundle. -/
theorem Reachable.isOf (hf : f.IsOfSums) (h : Reachable f s b) : b.IsOf f s := by
  induction h with
  | create h => exact isOf_of_create hf h
  | accumulate inputs _ ih => exact ih.accumulate inputs
  | merge peer _ ih => exact ih.merge peer

theorem Reachable.restoreBytes_iff (hf : f.IsOfSums) (h : Reachable f s b) {now : Timestamp} :
    (f.restoreBytes s (b.snapshot now).encode).outcome = .ok b' ↔ b.reread = some b' :=
  restoreBytes_snapshot_iff.trans ((h.isOf hf).restore_snapshot_iff hf now)

/-- **Small whole sums are kept:** while ten times of every sum fits the significand, a bundle
comes back as itself. -/
theorem Reachable.restoreBytes_of_isWhole (hf : f.IsOfSums) (h : Reachable f s b)
    (hsums : ∀ slot ∈ b.slots, ∃ z : ℤ, slot.mechanism.sum.IsWhole z ∧
      10 * z.natAbs < 2 ^ Format.double.precision) (now : Timestamp) :
    (f.restoreBytes s (b.snapshot now).encode).outcome = .ok b := by
  refine (h.restoreBytes_iff hf).2 (reread_eq_self fun slot hslot => ?_)
  obtain ⟨z, hwhole, hz⟩ := hsums slot hslot
  exact Slot.reread_eq_self_iff.2 (Json.reread_of_isWhole hwhole hz)

/-- **What a checkpoint keeps.**  Every bundle of sums can be written down at any time.  Restored
with its own specification it comes back as it is read; and it comes back the same exactly if
every sum is read as itself. -/
theorem Reachable.restores_iff (hf : f.IsOfSums) (h : Reachable f s b) (now : Timestamp) :
    ∃ text, (b.checkpointBytes now).outcome = .ok text ∧
      (∀ b', (f.restoreBytes s text).outcome = .ok b' ↔ b.reread = some b') ∧
      ((∃ b', (f.restoreBytes s text).outcome = .ok b' ∧ b.Same b') ↔
        ∀ slot ∈ b.slots, Json.reread slot.mechanism.sum = some slot.mechanism.sum) := by
  refine ⟨(b.snapshot now).encode, b.outcome_checkpointBytes now,
    fun b' => h.restoreBytes_iff hf, ?_⟩
  simp only [h.restoreBytes_iff hf]
  exact exists_same_iff

/-- A bundle of one sum of one stream under an epsilon of one. -/
def single (sum : Double) (count : UInt64) : Bundle PrivateSum where
  slots := [⟨"dp_sum", 1, ⟨sum, count, 0⟩⟩]
  budget := Budget.shares (.ofNat .double 1) (.zero .double false) 1 (.ofNat .double 1)
  total := count

theorem create_single :
    ((AnySum.factory (.ofNat .double 1)).create
      (.sums [1] (.ofNat .double 1) (.zero .double false))).outcome =
        .ok (single (.zero .double false) 0) := by decide +kernel

theorem accumulate_single {x : Double}
    (hx : (Binary.zero .double false).add (Binary.sum [x]) = x) :
    ((single (.zero .double false) 0).accumulate [x]).value = (single x 1, .ok ()) := by
  rcases accumulate_cases (single (.zero .double false) 0) [x] with ⟨_, hvalue⟩ | ⟨hrefused, _⟩
  · rw [hvalue]
    simp [single, fed, PrivateSum.absorb, hx]
  · exact absurd ⟨rfl, by decide⟩ hrefused

theorem reachable_single {x : Double}
    (hx : (Binary.zero .double false).add (Binary.sum [x]) = x) :
    Reachable (AnySum.factory (.ofNat .double 1))
      (.sums [1] (.ofNat .double 1) (.zero .double false)) (single x 1) := by
  have hreach := (Reachable.create create_single).accumulate [x]
  rwa [accumulate_single hx] at hreach

/-- A sum of one tenth comes back the same. -/
theorem restores_one_tenth :
    let f := AnySum.factory (.ofNat .double 1)
    let s := BundleSpec.sums [1] (.ofNat .double 1) (.zero .double false)
    let tenth : Double := .ofBits .double 0x3FB999999999999A
    ∃ text, ((single tenth 1).checkpointBytes .epoch).outcome = .ok text ∧
      ∃ b, (f.restoreBytes s text).outcome = .ok b ∧ (single tenth 1).Same b := by
  intro f s tenth
  have hreach : Reachable f s (single tenth 1) := reachable_single (by decide +kernel)
  obtain ⟨text, htext, _, hsame⟩ := hreach.restores_iff (AnySum.isOfSums_factory _) .epoch
  refine ⟨text, htext, hsame.2 (List.forall_mem_singleton.2 ?_)⟩
  decide +kernel

/-- A sum of `2 ^ 53 - 1` comes back as `2 ^ 53 - 2`, and an infinite sum does not come back. -/
theorem checkpoints_lose :
    let f := AnySum.factory (.ofNat .double 1)
    let s := BundleSpec.sums [1] (.ofNat .double 1) (.zero .double false)
    let large := single (.ofNat .double 9007199254740991) 1
    let infinite := single (.infinity .double false) 1
    Reachable f s large ∧ Reachable f s infinite ∧
      ∀ now, ∃ text text', (large.checkpointBytes now).outcome = .ok text ∧
        (infinite.checkpointBytes now).outcome = .ok text' ∧
          (f.restoreBytes s text).outcome = .ok (single (.ofNat .double 9007199254740990) 1) ∧
            ¬large.Same (single (.ofNat .double 9007199254740990) 1) ∧
              ∀ b, (f.restoreBytes s text').outcome ≠ .ok b := by
  intro f s large infinite
  have hf : f.IsOfSums := AnySum.isOfSums_factory _
  have hlarge : Reachable f s large := reachable_single (by decide +kernel)
  have hinfinite : Reachable f s infinite := reachable_single (by decide +kernel)
  refine ⟨hlarge, hinfinite, fun now => ⟨_, _, large.outcome_checkpointBytes now,
    infinite.outcome_checkpointBytes now, ?_, fun hsame => ?_, fun b hb => ?_⟩⟩
  · rw [hlarge.restoreBytes_iff hf]
    decide +kernel
  · obtain ⟨hslot, _⟩ := List.forall₂_cons.1 hsame.slots
    have hsum := hslot.sum_eq
    revert hsum
    decide +kernel
  · have hnone : infinite.reread = none := by decide +kernel
    rw [hinfinite.restoreBytes_iff hf, hnone] at hb
    cases hb

end Bundle
end SharedBudget
