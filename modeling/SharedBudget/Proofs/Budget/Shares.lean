/-
# Parameters, thresholds and shares

What the checks of a specification leave: a positive epsilon, a delta below one, a
finite positive threshold.  So the shares of a granted budget are numbers, each
equal to itself (`Factory.Grants.isNaN_epsilon`, `Factory.Grants.isNaN_delta`).
-/

import SharedBudget.Proofs.Binary.Exact
import SharedBudget.Proofs.Bundle.Making

namespace SharedBudget

open Format

namespace Budget

theorem place_zero (negative : Bool) : (Binary.zero .double negative).place = 0 := by
  cases negative <;> rfl

/-- A number above zero is not a NaN and has no sign. -/
theorem negative_of_zero_lt {x : Double} (h : (Binary.zero .double false).lt x) :
    x.isNaN = false ∧ x.negative = false := by
  simp only [Binary.lt, place_zero, Bool.and_eq_true, Bool.not_eq_true',
    decide_eq_true_eq] at h
  refine ⟨h.1.2, ?_⟩
  cases hx : x.negative with
  | false => rfl
  | true => rw [Binary.place, hx, if_pos rfl] at h; omega

theorem isZero_of_zero_lt {x : Double} (h : (Binary.zero .double false).lt x) :
    x.isZero = false := by
  simp only [Binary.lt, place_zero, Bool.and_eq_true, decide_eq_true_eq] at h
  refine decide_eq_false fun h0 => ?_
  have : x.place = 0 := by cases hx : x.negative <;> simp [Binary.place, hx, h0]
  omega

/-- A delta is a finite number. -/
theorem isFinite_of_isDelta {x : Double} (h : isDelta x) : x.isFinite := by
  have hone : (Binary.ofNat .double 1).place = 1023 * 2 ^ 52 := by decide +kernel
  have hinf : Format.double.infinity = 2047 * 2 ^ 52 := by decide +kernel
  simp only [isDelta, Binary.le, Binary.lt, place_zero, hone, Bool.and_eq_true,
    decide_eq_true_eq] at h
  obtain ⟨⟨_, h0⟩, _, h1⟩ := h
  rw [Binary.isFinite, hinf, decide_eq_true_eq]
  cases hx : x.negative with
  | false => rw [Binary.place, hx, if_neg Bool.false_ne_true] at h1; omega
  | true => rw [Binary.place, hx, if_pos rfl] at h0; omega

theorem numeric_eq_ok_iff {name : String} {p : Parameter} {x : Double} :
    numeric name p = .ok x ↔ p.toDouble? = some x := by
  unfold numeric
  cases p.toDouble? <;> simp

/-- The parameters that are accepted are two numbers, a positive epsilon and a delta below one. -/
theorem toDouble?_of_ofParameters {parameters : List Parameter} {epsilon delta : Double}
    (h : ofParameters parameters = .ok (epsilon, delta)) :
    parameters.map Parameter.toDouble? = [some epsilon, some delta] ∧
      isEpsilon epsilon ∧ isDelta delta := by
  unfold ofParameters at h
  split at h
  · obtain ⟨x, hx, h⟩ := bind_eq_ok_iff.1 h
    obtain ⟨y, hy, h⟩ := bind_eq_ok_iff.1 h
    rw [numeric_eq_ok_iff] at hx hy
    split at h
    · split at h
      · obtain ⟨rfl, rfl⟩ := Prod.mk.inj (Except.ok.inj h)
        rw [List.map_cons, List.map_singleton, hx, hy]
        exact ⟨rfl, ‹_›, ‹_›⟩
      · cases h
    · cases h
  · cases h

/-- The parameters of a specification come to a positive epsilon and a delta below one. -/
theorem isEpsilon_of_ofParameters {parameters : List Parameter} {epsilon delta : Double}
    (h : ofParameters parameters = .ok (epsilon, delta)) : isEpsilon epsilon ∧ isDelta delta :=
  (toDouble?_of_ofParameters h).2

theorem isFinite_of_checkThreshold {threshold : Double}
    (h : Config.checkThreshold threshold = .ok ()) :
    threshold.isFinite ∧ (Binary.zero .double false).lt threshold := by
  unfold Config.checkThreshold at h
  split at h
  · rename_i hc
    simpa using hc
  · cases h

/-- An epsilon below the threshold is finite. -/
theorem isFinite_of_not_le {epsilon threshold : Double} (hepsilon : isEpsilon epsilon)
    (hthreshold : Config.checkThreshold threshold = .ok ()) (h : ¬threshold.le epsilon) :
    epsilon.isFinite := by
  obtain ⟨hfinite, hpos⟩ := isFinite_of_checkThreshold hthreshold
  obtain ⟨hnan, hsign⟩ := negative_of_zero_lt hepsilon
  obtain ⟨hnan', hsign'⟩ := negative_of_zero_lt hpos
  simp only [Binary.le, hnan, hnan', Binary.place, hsign, hsign', Bool.false_eq_true, if_false,
    Bool.not_false, Bool.and_self, Bool.true_and, decide_eq_true_eq, not_le, Nat.cast_lt] at h
  exact decide_eq_true (h.trans (of_decide_eq_true hfinite))

variable {epsilon delta threshold : Double} {n : ℕ}

/-- An epsilon that reaches the threshold gives every mechanism the threshold. -/
theorem epsilon_shares_of_le (h : threshold.le epsilon) :
    (shares epsilon delta n threshold).epsilon = threshold := if_pos h

/-- An epsilon below the threshold is divided. -/
theorem epsilon_shares_of_not_le (h : ¬threshold.le epsilon) :
    (shares epsilon delta n threshold).epsilon = epsilon.div (.ofNat .double n) := if_neg h

end Budget

namespace Factory

variable {α π : Type} {f : Factory α π} {s : BundleSpec} {budget : Budget.Split}

/-- The share of epsilon is a number. -/
theorem Grants.isNaN_epsilon (h : f.Grants s budget) : budget.epsilon.isNaN = false := by
  obtain ⟨hthreshold, _, epsilon, delta, hparameters, rfl⟩ := h
  have hepsilon := (Budget.isEpsilon_of_ofParameters hparameters).1
  by_cases hcap : f.threshold.le epsilon
  · rw [Budget.epsilon_shares_of_le hcap]
    exact (Budget.negative_of_zero_lt (Budget.isFinite_of_checkThreshold hthreshold).2).1
  · rw [Budget.epsilon_shares_of_not_le hcap]
    have hfinite := Budget.isFinite_of_not_le hepsilon hthreshold hcap
    exact Binary.isNaN_div (Binary.isNaN_of_isFinite hfinite) (Binary.isNaN_ofNat _)
      (Or.inl (Binary.isInfinite_of_isFinite hfinite)) (Or.inl (Budget.isZero_of_zero_lt hepsilon))

/-- The share of delta is a number. -/
theorem Grants.isNaN_delta (h : f.Grants s budget) : budget.delta.isNaN = false := by
  obtain ⟨_, hn, epsilon, delta, hparameters, rfl⟩ := h
  have hdelta := (Budget.isEpsilon_of_ofParameters hparameters).2
  have h0 : s.nested.length ≠ 0 := fun h => hn (List.length_eq_zero_iff.1 h)
  have hfinite := Budget.isFinite_of_isDelta hdelta
  exact Binary.isNaN_div (Binary.isNaN_of_isFinite hfinite) (Binary.isNaN_ofNat _)
    (Or.inl (Binary.isInfinite_of_isFinite hfinite))
    (Or.inr (Binary.isZero_ofNat isWide_double h0))

end Factory
end SharedBudget
