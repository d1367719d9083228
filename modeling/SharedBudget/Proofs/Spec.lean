/-
# Specifications saved and loaded

A specification that is written down and read again keeps its identifiers, the
names of its inputs, and every parameter that is an integer or a string.  A
floating-point parameter becomes what a document makes of it
(`Parameter.reread`), which may be the number next to it.  So a specification comes
back as itself exactly if every parameter does (`BundleSpec.loads_iff`).
-/

import SharedBudget.Proofs.Budget.Shares
import SharedBudget.Proofs.Bundle.Sums
import SharedBudget.Proofs.Mechanism.Sums
import SharedBudget.Proofs.Parameter
import SharedBudget.Spec.Codec

namespace SharedBudget

open Json

/-! ## Mechanisms -/

namespace MechanismSpec

variable {m : MechanismSpec}

/-- The specification as it comes back from a document, if it does. -/
def reread (m : MechanismSpec) : Option MechanismSpec :=
  (m.parameters.mapM Parameter.reread).map fun parameters => { m with parameters }

theorem readsAs_parameters (ps : List Parameter) (depth : ℕ) :
    ReadsAs (listOf Parameter.read (depth + 2)) (Writer.list (ps.map Parameter.json))
      (ps.mapM Parameter.reread) :=
  readsAs_listOf (fun p _ => p.readsAs_json depth) fun p _ => p.begins_json

theorem readsAs_json (m : MechanismSpec) (depth : ℕ) :
    ReadsAs (record.read (depth + 3)) m.json m.reread := by
  have hinputs : Reads (listOf (fun _ => Json.text) (depth + 2))
      (Writer.list (m.inputs.map Writer.text)) m.inputs :=
    reads_listOf (fun t _ => reads_text t) fun t _ => begins_text t
  have hparameters := readsAs_parameters m.parameters depth
  unfold reread
  cases h : m.parameters.mapM Parameter.reread with
  | none =>
    rw [h] at hparameters
    exact (Record.Spoils.later rfl rfl (reads_field _ (reads_text m.identifier)) <|
      .later rfl rfl (reads_field _ hinputs) <|
        .here rfl rfl (refuses_field _ hparameters.refuses)).refuses
  | some ps =>
    rw [h] at hparameters
    exact (Record.Fills.cons rfl rfl (reads_field _ (reads_text m.identifier)) <|
      .cons rfl rfl (reads_field _ hinputs) <|
        .cons rfl rfl (reads_field _ hparameters.reads) <| .nil _).reads nofun rfl

theorem begins_json (m : MechanismSpec) : Begins m.json := begins_object _

/-- A specification comes back as itself exactly if its parameters do. -/
theorem reread_eq_self_iff : m.reread = some m ↔ ∀ p ∈ m.parameters, p.reread = some p := by
  obtain ⟨identifier, inputs, parameters⟩ := m
  rw [← mapM_eq_self_iff, reread, Option.map_eq_some_iff]
  simp

end MechanismSpec

/-! ## Bundles -/

namespace BundleSpec

variable {s s' : BundleSpec}

/-- The specification as it comes back from a document, if it does. -/
def reread (s : BundleSpec) : Option BundleSpec :=
  (s.nested.mapM MechanismSpec.reread).bind fun nested =>
    (s.parameters.mapM Parameter.reread).map fun parameters => { nested, parameters }

/-- The parameters of the bundle and of its mechanisms. -/
def allParameters (s : BundleSpec) : List Parameter :=
  s.parameters ++ s.nested.flatMap (·.parameters)

theorem readsAs_json (s : BundleSpec) (depth : ℕ) :
    ReadsAs (record.read (depth + 5)) s.json s.reread := by
  have hnested : ReadsAs (listOf MechanismSpec.record.read (depth + 4))
      (Writer.list (s.nested.map MechanismSpec.json)) (s.nested.mapM MechanismSpec.reread) :=
    readsAs_listOf (fun m _ => m.readsAs_json depth) fun m _ => m.begins_json
  have hparameters := MechanismSpec.readsAs_parameters s.parameters (depth + 2)
  unfold reread
  cases h : s.nested.mapM MechanismSpec.reread with
  | none =>
    rw [h] at hnested
    exact (Record.Spoils.here rfl rfl (refuses_field _ hnested.refuses)).refuses
  | some ms =>
    rw [h] at hnested
    cases h' : s.parameters.mapM Parameter.reread with
    | none =>
      rw [h'] at hparameters
      exact (Record.Spoils.later rfl rfl (reads_field _ hnested.reads) <|
        .here rfl rfl (refuses_field _ hparameters.refuses)).refuses
    | some ps =>
      rw [h'] at hparameters
      exact (Record.Fills.cons rfl rfl (reads_field _ hnested.reads) <|
        .cons rfl rfl (reads_field _ hparameters.reads) <| .nil _).reads nofun rfl

/-- **A saved specification is loaded as it is read.** -/
theorem ofJson_json_iff : ofJson (Utf8.encode s.json) = .ok s' ↔ s.reread = some s' :=
  (s.readsAs_json 122).document_iff s'

/-- A specification comes back as itself exactly if all parameters do. -/
theorem reread_eq_self_iff : s.reread = some s ↔ ∀ p ∈ s.allParameters, p.reread = some p := by
  obtain ⟨nested, parameters⟩ := s
  have hnested : nested.mapM MechanismSpec.reread = some nested ↔
      ∀ m ∈ nested, ∀ p ∈ m.parameters, p.reread = some p := by
    simp only [mapM_eq_self_iff, MechanismSpec.reread_eq_self_iff]
  have hall : (∀ p ∈ allParameters ⟨nested, parameters⟩, p.reread = some p) ↔
      (∀ p ∈ parameters, p.reread = some p) ∧
        ∀ m ∈ nested, ∀ p ∈ m.parameters, p.reread = some p := by
    rw [allParameters, List.forall_mem_append, List.forall_mem_flatMap]
  rw [hall, ← hnested, ← mapM_eq_self_iff, reread, Option.bind_eq_some_iff]
  simp [and_comm]

/-- A bundle of sums can be merged with one that was made like it. -/
theorem isCompatible_of_create {f : Factory AnySum PrivateSum} {b : Bundle PrivateSum}
    (hb : (f.create s).outcome = .ok b) : b.isCompatible b := by
  have hgrants := (Factory.create_eq_ok_iff.1 hb).1
  have hfits : b.Fits b := ⟨rfl, Binary.eq_self hgrants.isNaN_epsilon,
    Binary.eq_self hgrants.isNaN_delta, rfl⟩
  rw [Bundle.isCompatible, Bundle.incompatibility?_eq_none_iff.2 hfits]
  rfl

/-- **What is left of a specification that is saved and loaded.**  The loaded specification is the
saved one with every parameter as it is read; if there is nothing for one of them, loading fails.
So the specification comes back as itself exactly if every parameter does, which integers, strings
and numbers with few digits do; and then bundles of sums made from the two can be merged. -/
theorem loads_iff (s : BundleSpec) :
    (∀ s', ofJson (Utf8.encode s.json) = .ok s' ↔ s.reread = some s') ∧
      (ofJson (Utf8.encode s.json) = .ok s ↔ ∀ p ∈ s.allParameters, p.reread = some p) ∧
      ((∀ p ∈ s.allParameters, p.IsPlain) → ofJson (Utf8.encode s.json) = .ok s) ∧
      (ofJson (Utf8.encode s.json) = .ok s → ∀ (f : Factory AnySum PrivateSum) (s' : BundleSpec) b b',
        ofJson (Utf8.encode s.json) = .ok s' → (f.create s).outcome = .ok b →
          (f.create s').outcome = .ok b' → b.isCompatible b') := by
  have hself : ofJson (Utf8.encode s.json) = .ok s ↔ ∀ p ∈ s.allParameters, p.reread = some p :=
    ofJson_json_iff.trans reread_eq_self_iff
  refine ⟨fun s' => ofJson_json_iff, hself, fun hplain => ?_, fun hsame f s' b b' hs' hb hb' => ?_⟩
  · exact hself.2 fun p hp => Parameter.reread_of_isPlain (hplain p hp)
  · obtain rfl := Except.ok.inj (hsame.symm.trans hs')
    obtain rfl := Except.ok.inj (hb.symm.trans hb')
    exact isCompatible_of_create hb

/-- A fresh bundle of one sum of one stream, which has a small epsilon for itself. -/
def freshSum (epsilon : Double) : Bundle PrivateSum where
  slots := [⟨MechanismSpec.privateSumIdentifier, 1, .empty 0⟩]
  budget := Budget.shares epsilon (.zero .double false) 1 (.ofNat .double 1)
  total := 0

/-- An epsilon of `1e-23` is loaded as the double above it, and the bundles made from the two
specifications cannot be merged. -/
theorem loads_another :
    let f := AnySum.factory (.ofNat .double 1)
    let s := sums [1] (.ofBits .double 0x3B282DB34012B251) (.zero .double false)
    let s' := sums [1] (.ofBits .double 0x3B282DB34012B252) (.zero .double false)
    (∀ p ∈ s.allParameters, ∃ x, p = .f64 x ∧ x.isFinite) ∧
      ofJson (Utf8.encode s.json) = .ok s' ∧ s' ≠ s ∧
        ∃ b b', (f.create s).outcome = .ok b ∧ (f.create s').outcome = .ok b' ∧
          b.isCompatible b' = false ∧ b'.isCompatible b = false := by
  intro f s s'
  have hfinite : ∀ p ∈ s.allParameters, ∃ x, p = .f64 x ∧ x.isFinite := by
    have hall : s.allParameters =
        [.f64 (.ofBits .double 0x3B282DB34012B251), .f64 (.zero .double false)] := rfl
    rw [hall, List.forall_mem_cons, List.forall_mem_singleton]
    exact ⟨⟨_, rfl, by decide⟩, _, rfl, by decide⟩
  have hreread : s.reread = some s' := by decide +kernel
  exact ⟨hfinite, ofJson_json_iff.2 hreread, by decide +kernel,
    freshSum (.ofBits .double 0x3B282DB34012B251), freshSum (.ofBits .double 0x3B282DB34012B252),
    by decide +kernel, by decide +kernel, by decide +kernel, by decide +kernel⟩

end BundleSpec
end SharedBudget
