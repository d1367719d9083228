/-
# Factories of sums

The registry of the two sums under their own identifiers, and the factories whose
identifiers, whatever they are, stand for one of the two sums.  Only a `dp_sum`
has a place in a bundle: what such a factory makes is a fresh one
(`Factory.IsOfSums.makes_none_iff`) or the one in an entry's blob
(`Factory.IsOfSums.makes_some_iff`).
-/

import SharedBudget.Mechanism.Sum
import SharedBudget.Proofs.Bundle.Making

namespace SharedBudget

namespace AnySum

/-- The two sums under their own identifiers. -/
def registry : Registry AnySum where
  makers := [(MechanismSpec.privateSumIdentifier, privateMaker),
    (MechanismSpec.plainSumIdentifier, plainMaker)]

/-- The factory of bundles of the two sums with a threshold. -/
def factory (threshold : Double) : Factory AnySum PrivateSum where
  registry
  asPrivate?
  threshold

end AnySum

/-- Every identifier of the factory stands for one of the two sums. -/
structure Factory.IsOfSums (f : Factory AnySum PrivateSum) : Prop where
  asPrivate_eq : f.asPrivate? = AnySum.asPrivate?
  isSum : ∀ entry ∈ f.registry.makers,
    entry.2 = AnySum.privateMaker ∨ entry.2 = AnySum.plainMaker

theorem AnySum.isOfSums_factory (threshold : Double) : (factory threshold).IsOfSums where
  asPrivate_eq := rfl
  isSum := by simp [factory, registry]

namespace Factory
namespace IsOfSums

variable {f : Factory AnySum PrivateSum} {m : MechanismSpec} {slot : Slot PrivateSum}

theorem isSum_of_maker? (hf : f.IsOfSums) {identifier : String} {maker : Maker AnySum}
    (h : f.registry.maker? identifier = some maker) :
    maker = AnySum.privateMaker ∨ maker = AnySum.plainMaker := by
  unfold Registry.maker? at h
  obtain ⟨entry, hentry, rfl⟩ := Option.map_eq_some_iff.1 h
  exact hf.isSum entry (List.mem_of_find?_eq_some hentry)

/-- What is made by the maker under an identifier has a place in a bundle exactly if the maker
makes `dp_sum` mechanisms and one is made. -/
theorem exists_made_iff (hf : f.IsOfSums) (identifier : String) (sum : PrivateSum)
    (make : Maker AnySum → Except Error AnySum) (own : Except Error PrivateSum)
    (hprivate : make AnySum.privateMaker = .inl <$> own)
    (hplain : ∀ t, make AnySum.plainMaker ≠ .ok (.inl t)) :
    (∃ made, f.asPrivate? made = some sum ∧ f.registry.lookup identifier >>= make = .ok made) ↔
      f.registry.maker? identifier = some AnySum.privateMaker ∧ own = .ok sum := by
  have hplace : ∀ made, f.asPrivate? made = some sum ↔ made = .inl sum := by
    rw [hf.asPrivate_eq]
    rintro (t | t) <;> simp [AnySum.asPrivate?]
  have hown : make AnySum.privateMaker = .ok (.inl sum) ↔ own = .ok sum := by
    rw [hprivate]
    cases own <;> simp [Functor.map, Except.map]
  simp only [hplace, exists_eq_left]
  unfold Registry.lookup
  cases h : f.registry.maker? identifier with
  | none => simp
  | some maker =>
    rw [ok_bind, Option.some.injEq]
    rcases hf.isSum_of_maker? h with rfl | rfl
    · simp [hown]
    · refine ⟨fun hmade => absurd hmade (hplain sum), fun hmaker => ?_⟩
      exact absurd (hmaker.1 ▸ hown.2 hmaker.2) (hplain sum)

/-- **A fresh mechanism** is a `dp_sum` of nothing. -/
theorem makes_none_iff (hf : f.IsOfSums) :
    f.Makes m none slot ↔ slot.identifier = m.identifier ∧ slot.inputs = m.inputCount ∧
      f.registry.maker? m.identifier = some AnySum.privateMaker ∧
        PrivateSum.empty <$> PrivateSum.minimumOf m = .ok slot.mechanism := by
  have hmade := hf.exists_made_iff m.identifier slot.mechanism (·.create m)
    (PrivateSum.empty <$> PrivateSum.minimumOf m) rfl nofun
  constructor
  · intro h
    exact ⟨h.identifier_eq, h.inputs_eq, hmade.1 h.exists_made⟩
  · rintro ⟨hidentifier, hinputs, h⟩
    exact ⟨hidentifier, hinputs, hmade.2 h⟩

/-- Every mechanism of a bundle just made is a sum of nothing. -/
theorem empty_of_create (hf : f.IsOfSums) {s : BundleSpec} {b : Bundle PrivateSum}
    (hb : (f.create s).outcome = .ok b) :
    ∀ slot ∈ b.slots, ∃ minimum, slot.mechanism = .empty minimum := by
  obtain ⟨_, _, hslots⟩ := create_eq_ok_iff.1 hb
  refine forall_mem_of_forall₂ hslots fun m _ slot hmakes => ?_
  obtain ⟨_, _, _, hmade⟩ := hf.makes_none_iff.1 hmakes
  obtain ⟨minimum, _, hempty⟩ := map_eq_ok_iff.1 hmade
  exact ⟨minimum, hempty.symm⟩

/-- **A restored mechanism** is the `dp_sum` in its entry's blob. -/
theorem makes_some_iff (hf : f.IsOfSums) {e : Checkpoint.Entry} :
    f.Makes m (some e) slot ↔ slot.identifier = m.identifier ∧ slot.inputs = m.inputCount ∧
      f.registry.maker? m.identifier = some AnySum.privateMaker ∧
        (∀ tag, e.identifier = some tag → tag = m.identifier) ∧
          PrivateSum.decode e.blob = .ok slot.mechanism := by
  have hplain : ∀ t, AnySum.plainMaker.restore m e.blob ≠ .ok (.inl t) := by
    intro t h
    unfold AnySum.plainMaker Maker.map at h
    simp only at h
    cases hr : PlainSum.maker.restore m e.blob <;> rw [hr] at h <;> cases h
  have hmade := hf.exists_made_iff m.identifier slot.mechanism (·.restore m e.blob)
    ((PrivateSum.decode e.blob).mapError .json) rfl hplain
  rw [mapError_eq_ok_iff] at hmade
  constructor
  · intro h
    obtain ⟨made, hplace, htag, hrestore⟩ := h.exists_made
    obtain ⟨hmaker, hown⟩ := hmade.1 ⟨made, hplace, hrestore⟩
    exact ⟨h.identifier_eq, h.inputs_eq, hmaker, htag, hown⟩
  · rintro ⟨hidentifier, hinputs, hmaker, htag, hown⟩
    obtain ⟨made, hplace, hrestore⟩ := hmade.2 ⟨hmaker, hown⟩
    exact ⟨hidentifier, hinputs, made, hplace, htag, hrestore⟩

end IsOfSums
end Factory

end SharedBudget
