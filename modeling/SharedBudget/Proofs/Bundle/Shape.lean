/-
# The shape of a bundle

A bundle keeps the identifiers, the numbers of inputs and the shares that it was made
with, whatever it takes in or refuses and from whatever document it came; only its
mechanisms and its counter change, and the counter does not go back
(`Bundle.Becomes.evolves`).  So a bundle that was made for a specification is one of that
specification at all times (`Bundle.Becomes.isOf`).
-/

import SharedBudget.Proofs.Bundle.Counting
import SharedBudget.Proofs.Bundle.Ownership

namespace SharedBudget

variable {π V : Type}

/-- What no operation changes about the slot of any mechanism. -/
def Slot.place (slot : Slot π) : String × ℕ := (slot.identifier, slot.inputs)

/-- Slots in the same places have the same identifiers and the same numbers of inputs. -/
theorem Slot.maps_eq_of_places {slots slots' : List (Slot π)}
    (h : slots'.map place = slots.map place) :
    slots'.map (·.identifier) = slots.map (·.identifier) ∧
      slots'.map (·.inputs) = slots.map (·.inputs) := by
  have hown {β : Type} (own : String × ℕ → β) :
      slots'.map (own ∘ place) = slots.map (own ∘ place) := by
    rw [← List.map_map, ← List.map_map, h]
  exact ⟨hown Prod.fst, hown Prod.snd⟩

namespace Bundle

/-! ## Slots -/

/-- Taking in a group leaves every mechanism in its place, also if one of them fails. -/
theorem map_place_feed [Mechanism π V] (slots : List (Slot π)) (inputs : List V) :
    (feed slots inputs).1.map Slot.place = slots.map Slot.place := by
  induction slots generalizing inputs with
  | nil => rfl
  | cons slot slots ih =>
    rw [feed]
    cases Mechanism.accumulate slot.mechanism (inputs.take slot.inputs) with
    | error e => rfl
    | ok m => exact congrArg (slot.place :: ·) (ih (inputs.drop slot.inputs))

/-- Merging leaves every mechanism in its place, also if one of them fails. -/
theorem map_place_join [Mechanism π V] (slots peers : List (Slot π)) :
    (join slots peers).1.map Slot.place = slots.map Slot.place := by
  induction slots generalizing peers with
  | nil => cases peers <;> rfl
  | cons slot slots ih =>
    cases peers with
    | nil => rfl
    | cons peer peers =>
      rw [join]
      cases Mechanism.merge slot.mechanism peer.mechanism with
      | error e => rfl
      | ok m => exact congrArg (slot.place :: ·) (ih peers)

/-! ## Histories -/

/-- The second bundle has the shape of the first, and has seen no less. -/
structure Evolves (b b' : Bundle π) : Prop where
  identifiers_eq : b'.identifiers = b.identifiers
  inputs_eq : b'.inputsPerMechanism = b.inputsPerMechanism
  budget_eq : b'.budget = b.budget
  total_le : b.total ≤ b'.total

namespace Evolves

variable {b b' b'' : Bundle π}

theorem refl (b : Bundle π) : b.Evolves b := ⟨rfl, rfl, rfl, UInt64.le_refl _⟩

theorem trans (h : b.Evolves b') (h' : b'.Evolves b'') : b.Evolves b'' where
  identifiers_eq := h'.identifiers_eq.trans h.identifiers_eq
  inputs_eq := h'.inputs_eq.trans h.inputs_eq
  budget_eq := h'.budget_eq.trans h.budget_eq
  total_le := UInt64.le_trans h.total_le h'.total_le

/-- Other mechanisms in the same places, and a counter that has not gone back. -/
theorem of_places {slots : List (Slot π)} {total : UInt64}
    (hplaces : slots.map Slot.place = b.slots.map Slot.place) (htotal : b.total ≤ total) :
    b.Evolves { b with slots, total } := by
  obtain ⟨hidentifiers, hinputs⟩ := Slot.maps_eq_of_places hplaces
  exact ⟨hidentifiers, hinputs, rfl, htotal⟩

end Evolves

theorem le_of_counterAfter {b : Bundle π} {added total : UInt64}
    (h : b.counterAfter added = .ok total) : b.total ≤ total := by
  unfold counterAfter at h
  split at h
  · rename_i hroom
    obtain rfl := Except.ok.inj h
    rw [UInt64.le_iff_toNat_le, toNat_add hroom]
    exact Nat.le_add_right ..
  · cases h

theorem evolves_accumulate [Mechanism π V] (b : Bundle π) (inputs : List V) :
    b.Evolves (b.accumulate inputs).value.1 := by
  unfold accumulate
  split
  · exact .refl b
  · cases hcounter : b.counterAfter 1 with
    | error e => exact .refl b
    | ok total =>
      have hplaces := map_place_feed b.slots inputs
      cases hfeed : feed b.slots inputs with
      | mk slots result =>
        rw [hfeed] at hplaces
        cases result with
        | error e => exact .of_places hplaces (UInt64.le_refl _)
        | ok _ => exact .of_places hplaces (le_of_counterAfter hcounter)

theorem evolves_merge [Mechanism π V] (b peer : Bundle π) :
    b.Evolves (b.merge peer).value.1 := by
  unfold merge
  cases b.incompatibility? peer with
  | some reason => exact .refl b
  | none =>
    cases hcounter : b.counterAfter peer.total with
    | error e => exact .refl b
    | ok total =>
      have hplaces := map_place_join b.slots peer.slots
      cases hjoin : join b.slots peer.slots with
      | mk slots result =>
        rw [hjoin] at hplaces
        cases result with
        | error e => exact .of_places hplaces (UInt64.le_refl _)
        | ok _ => exact .of_places hplaces (le_of_counterAfter hcounter)

/-- The second bundle is what the first becomes by groups of inputs and peers, taken in or
refused. -/
inductive Becomes [Mechanism π V] (b : Bundle π) : Bundle π → Prop where
  | refl : Becomes b b
  | accumulate {b' : Bundle π} (inputs : List V) :
      Becomes b b' → Becomes b (b'.accumulate inputs).value.1
  | merge {b' : Bundle π} (peer : Bundle π) : Becomes b b' → Becomes b (b'.merge peer).value.1

/-- **No group and no peer changes the shape,** and none takes the counter back. -/
theorem Becomes.evolves [Mechanism π V] {b b' : Bundle π} (h : Becomes b b') : b.Evolves b' := by
  induction h with
  | refl => exact .refl b
  | accumulate inputs _ ih => exact ih.trans (evolves_accumulate _ inputs)
  | merge peer _ ih => exact ih.trans (evolves_merge _ peer)

/-! ## The shape of the specification -/

section Specification

variable {f : Factory AnySum PrivateSum} {s : BundleSpec} {start b : Bundle PrivateSum}

/-- However a bundle is made, it is one of its specification. -/
theorem isOf_of_builds (hf : f.IsOfSums) (h : f.Builds s b) : b.IsOf f s := by
  rcases h with h | ⟨c, h⟩ | ⟨text, h⟩
  · exact isOf_of_create hf h
  · exact isOf_of_restore hf h
  · obtain ⟨c, _, hc⟩ := Factory.restoreBytes_eq_ok_iff.1 h
    exact isOf_of_restore hf hc

/-- What a bundle of a specification becomes is one of that specification. -/
theorem Becomes.isOf (hstart : start.IsOf f s) (h : Becomes start b) : b.IsOf f s := by
  induction h with
  | refl => exact hstart
  | accumulate inputs _ ih => exact ih.accumulate inputs
  | merge peer _ ih => exact ih.merge peer

end Specification

end Bundle
end SharedBudget
