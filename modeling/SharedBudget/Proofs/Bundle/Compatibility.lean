/-
# Which bundles can be merged

Whether two bundles of sums can be merged is a matter of their frames and of their
shares (`Bundle.Fits`), and no operation changes these.  So the answer for a pair
never changes (`Bundle.Becomes.isCompatible_eq`).  Shares are compared as floating
point numbers, of which a NaN would not even equal itself; but the checks of a
specification leave no NaN, and among the bundles that can be made compatibility is
an equivalence (`Bundle.isCompatible_equivalence`).
-/

import SharedBudget.Proofs.Budget.Shares
import SharedBudget.Proofs.Bundle.Shape

namespace SharedBudget
namespace Bundle

variable {b b' c c' d peer : Bundle PrivateSum} {f f' : Factory AnySum PrivateSum}
  {s : BundleSpec} {start start' : Bundle PrivateSum}

/-! ## What is compared -/

theorem isCompatible_iff_fits : b.isCompatible c ↔ b.Fits c := by
  rw [isCompatible, Option.isNone_iff_eq_none, incompatibility?_eq_none_iff]

/-- A bundle fits itself, unless a share is a NaN. -/
theorem Fits.refl (hepsilon : b.budget.epsilon.isNaN = false)
    (hdelta : b.budget.delta.isNaN = false) : b.Fits b :=
  ⟨rfl, Binary.eq_self hepsilon, Binary.eq_self hdelta, rfl⟩

theorem Fits.symm (h : b.Fits c) : c.Fits b where
  inputs_eq := h.inputs_eq.symm
  epsilon_eq := Binary.eq_symm h.epsilon_eq
  delta_eq := Binary.eq_symm h.delta_eq
  minimum_eq := h.minimum_eq.symm

theorem Fits.trans (h : b.Fits c) (h' : c.Fits d) : b.Fits d where
  inputs_eq := h.inputs_eq.trans h'.inputs_eq
  epsilon_eq := Binary.eq_trans h.epsilon_eq h'.epsilon_eq
  delta_eq := Binary.eq_trans h.delta_eq h'.delta_eq
  minimum_eq := h.minimum_eq.trans h'.minimum_eq

/-! ## What stays -/

/-- The second bundle has the frames and the shares of the first. -/
structure Resembles (b b' : Bundle PrivateSum) : Prop where
  frames_eq : b'.slots.map Slot.frame = b.slots.map Slot.frame
  budget_eq : b'.budget = b.budget

theorem Resembles.inputs_eq (h : b.Resembles b') :
    b'.inputsPerMechanism = b.inputsPerMechanism :=
  Slot.map_eq_of_map_frame (fun frame => frame.2.1) h.frames_eq

theorem Resembles.minimum_eq (h : b.Resembles b') :
    b'.slots.map (·.mechanism.minimum) = b.slots.map (·.mechanism.minimum) :=
  Slot.map_eq_of_map_frame (fun frame => frame.2.2) h.frames_eq

theorem Resembles.refl (b : Bundle PrivateSum) : b.Resembles b := ⟨rfl, rfl⟩

theorem Resembles.symm (h : b.Resembles b') : b'.Resembles b :=
  ⟨h.frames_eq.symm, h.budget_eq.symm⟩

theorem Resembles.trans (h : b.Resembles b') (h' : b'.Resembles d) : b.Resembles d :=
  ⟨h'.frames_eq.trans h.frames_eq, h'.budget_eq.trans h.budget_eq⟩

/-- Two bundles still fit if their frames and their shares are still the same. -/
theorem Fits.of_resembles (h : b.Fits c) (hb : b.Resembles b') (hc : c.Resembles c') :
    b'.Fits c' := by
  refine ⟨?_, ?_, ?_, ?_⟩
  · rw [hb.inputs_eq, hc.inputs_eq, h.inputs_eq]
  · rw [hb.budget_eq, hc.budget_eq, h.epsilon_eq]
  · rw [hb.budget_eq, hc.budget_eq, h.delta_eq]
  · rw [hb.minimum_eq, hc.minimum_eq, h.minimum_eq]

theorem resembles_accumulate (b : Bundle PrivateSum) (inputs : List Double) :
    b.Resembles (b.accumulate inputs).value.1 := by
  rcases b.accumulate_cases inputs with ⟨_, hvalue⟩ | ⟨_, e, hvalue⟩
  · rw [hvalue]
    exact ⟨map_frame_fed b.slots inputs, rfl⟩
  · rw [hvalue]
    exact .refl b

theorem resembles_merge (b peer : Bundle PrivateSum) : b.Resembles (b.merge peer).value.1 := by
  rcases b.merge_cases peer with ⟨hwelcome, hvalue⟩ | ⟨_, e, hvalue⟩
  · rw [hvalue]
    exact ⟨map_frame_joined hwelcome.1.length_eq, rfl⟩
  · rw [hvalue]
    exact .refl b

/-- **No group and no peer changes a frame or a share.** -/
theorem Becomes.resembles (h : Becomes b b') : b.Resembles b' := by
  induction h with
  | refl => exact .refl b
  | accumulate inputs _ ih => exact ih.trans (resembles_accumulate _ inputs)
  | merge peer _ ih => exact ih.trans (resembles_merge _ peer)

/-- **The answer for a pair never changes,** whatever the two take in or refuse. -/
theorem Becomes.isCompatible_eq (hb : Becomes b b') (hc : Becomes c c') :
    b'.isCompatible c' = b.isCompatible c := by
  rw [Bool.eq_iff_iff, isCompatible_iff_fits, isCompatible_iff_fits]
  constructor
  · intro h
    exact h.of_resembles hb.resembles.symm hc.resembles.symm
  · intro h
    exact h.of_resembles hb.resembles hc.resembles

/-! ## Bundles of one specification -/

/-- A fresh mechanism waits for as many groups as its specification says. -/
theorem minimum_of_create (hf : f.IsOfSums) (h : (f.create s).outcome = .ok b) :
    b.slots.map (fun slot => Except.ok slot.mechanism.minimum) =
      s.nested.map PrivateSum.minimumOf := by
  obtain ⟨_, _, hslots⟩ := Factory.create_eq_ok_iff.1 h
  refine map_eq_map_of_forall₂ hslots fun m slot hmakes => ?_
  obtain ⟨_, _, _, hmade⟩ := hf.makes_none_iff.1 hmakes
  obtain ⟨minimum, hminimum, hempty⟩ := map_eq_ok_iff.1 hmade
  rw [hminimum, ← hempty]
  rfl

/-- **Fresh bundles of one specification fit,** if they are made with the same threshold. -/
theorem fits_of_create (hf : f.IsOfSums) (hf' : f'.IsOfSums) (hthreshold : f.threshold = f'.threshold)
    (h : (f.create s).outcome = .ok b) (h' : (f'.create s).outcome = .ok b') : b.Fits b' := by
  have hinputs : b.inputsPerMechanism = b'.inputsPerMechanism :=
    (isOf_of_create hf h).inputs_eq.trans (isOf_of_create hf' h').inputs_eq.symm
  have hgrants : f.Grants s b.budget := (Factory.create_eq_ok_iff.1 h).1
  have hbudget : b.budget = b'.budget := by
    have hgrants' : f.Grants s b'.budget := by
      have := (Factory.create_eq_ok_iff.1 h').1
      unfold Factory.Grants at this ⊢
      rwa [hthreshold]
    exact hgrants.unique hgrants'
  have hminimum : b.slots.map (·.mechanism.minimum) = b'.slots.map (·.mechanism.minimum) := by
    have hok : Function.Injective (Except.ok : UInt64 → Except Error UInt64) :=
      fun _ _ => Except.ok.inj
    have hmap := (minimum_of_create hf h).trans (minimum_of_create hf' h').symm
    refine hok.list_map ?_
    rwa [List.map_map, List.map_map]
  refine ⟨hinputs, ?_, ?_, hminimum⟩
  · rw [← hbudget]
    exact Binary.eq_self hgrants.isNaN_epsilon
  · rw [← hbudget]
    exact Binary.eq_self hgrants.isNaN_delta

/-- A bundle of sums that was made in one of the three ways, and what has become of it. -/
def Formed (b : Bundle PrivateSum) : Prop :=
  ∃ f s start, Factory.IsOfSums f ∧ f.Builds s start ∧ Becomes start b

/-- No share of such a bundle is a NaN, so it fits itself. -/
theorem Formed.fits_self (h : b.Formed) : b.Fits b := by
  obtain ⟨f, s, start, _, hbuilt, hbecomes⟩ := h
  have hgrants : f.Grants s b.budget := hbecomes.resembles.budget_eq ▸ hbuilt.grants
  exact .refl hgrants.isNaN_epsilon hgrants.isNaN_delta

/-- **Compatibility is a stable equivalence.**  Among the bundles that can be made, and whatever
has become of them, it is reflexive, symmetric and transitive.  The answer for a pair stays when
either side takes in or refuses groups and peers.  And two fresh bundles of the same
specification, made with the same threshold, remain compatible whatever each of them absorbs. -/
theorem isCompatible_equivalence :
    Equivalence (fun b c : { b : Bundle PrivateSum // b.Formed } => b.1.isCompatible c.1) ∧
      (∀ b b' c c' : Bundle PrivateSum, Becomes b b' → Becomes c c' →
        b'.isCompatible c' = b.isCompatible c) ∧
      ∀ (f f' : Factory AnySum PrivateSum) (s : BundleSpec) (start start' b b' : Bundle PrivateSum),
        f.IsOfSums → f'.IsOfSums → f.threshold = f'.threshold →
          (f.create s).outcome = .ok start → (f'.create s).outcome = .ok start' →
            Becomes start b → Becomes start' b' → b.isCompatible b' := by
  refine ⟨⟨?_, ?_, ?_⟩, ?_, ?_⟩
  · rintro ⟨b, hb⟩
    exact isCompatible_iff_fits.2 hb.fits_self
  · intro b c h
    exact isCompatible_iff_fits.2 (isCompatible_iff_fits.1 h).symm
  · intro b c d h h'
    exact isCompatible_iff_fits.2 ((isCompatible_iff_fits.1 h).trans (isCompatible_iff_fits.1 h'))
  · intro b b' c c' hb hc
    exact hb.isCompatible_eq hc
  · intro f f' s start start' b b' hf hf' hthreshold h h' hb hb'
    rw [hb.isCompatible_eq hb', isCompatible_iff_fits]
    exact fits_of_create hf hf' hthreshold h h'

/-- Two bundles of one specification, of which one has taken in a group and the other has merged
the first one and refused a group that is too wide. -/
theorem isCompatible_after_merge :
    let f := AnySum.factory (.ofNat .double 1)
    let s := BundleSpec.sums [1] (.ofNat .double 1) (.zero .double false)
    let start := single (.zero .double false) 0
    let fed := (start.accumulate [.ofNat .double 1]).value.1
    let merged := (start.merge fed).value.1
    let refused := (merged.accumulate [.zero .double false, .zero .double false]).value.1
    f.IsOfSums ∧ (f.create s).outcome = .ok start ∧ Becomes start fed ∧
      Becomes start refused ∧ Formed fed ∧ Formed refused ∧ fed.isCompatible refused ∧
        refused.isCompatible fed ∧ refused.isCompatible fed = start.isCompatible start := by
  intro f s start fed merged refused
  have hf : f.IsOfSums := AnySum.isOfSums_factory _
  have hstart : Becomes start start := .refl
  have hfed : Becomes start fed := hstart.accumulate [Binary.ofNat .double 1]
  have hmerged : Becomes start merged := hstart.merge fed
  have hrefused : Becomes start refused := hmerged.accumulate _
  have hformed {b : Bundle PrivateSum} (h : Becomes start b) : Formed b :=
    ⟨f, s, start, hf, .inl create_single, h⟩
  -- From here on only what is known about the two bundles matters, not what they hold.
  clear_value refused merged fed
  obtain ⟨hequivalence, hstable, hsame⟩ := isCompatible_equivalence
  have hcompatible : fed.isCompatible refused :=
    hsame f f s start start fed refused hf hf rfl create_single create_single hfed hrefused
  refine ⟨hf, create_single, hfed, hrefused, hformed hfed, hformed hrefused, hcompatible, ?_, ?_⟩
  · exact hequivalence.symm (x := ⟨fed, hformed hfed⟩) (y := ⟨refused, hformed hrefused⟩)
      hcompatible
  · exact hstable start refused start fed hrefused hfed

end Bundle
end SharedBudget
