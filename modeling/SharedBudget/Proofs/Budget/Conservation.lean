/-
# What the shares of a budget add up to

By basic composition `n` mechanisms with the same share spend `n` times the share.
The shares are read here as exact numbers, with quotients that are not rounded
(`Budget.exactEpsilon`, `Budget.exactDelta`); those that a bundle carries are
these, rounded once.

Delta is always kept to.  Epsilon is kept to unless the threshold lies between the
`n`-th part of epsilon and epsilon: there the threshold is the share of every
mechanism, and `n` shares come to more than the whole
(`Factory.conserves_iff`).
-/

import SharedBudget.Proofs.Budget.Shares
import SharedBudget.Proofs.Mechanism.Sums

namespace SharedBudget

open Format

namespace Budget

/-- What one of `n` mechanisms gets of epsilon, its quotient not rounded. -/
def exactEpsilon (epsilon : Double) (n : ℕ) (threshold : Double) : ℚ :=
  if threshold.le epsilon then threshold.toRat else epsilon.toRat / n

/-- What one of `n` mechanisms gets of delta, its quotient not rounded. -/
def exactDelta (delta : Double) (n : ℕ) : ℚ := delta.toRat / n

/-- What is spent does not exceed a limit; an infinite limit bounds nothing. -/
def Within (spent : ℚ) (limit : Double) : Prop := limit.isInfinite ∨ spent ≤ limit.toRat

/-- A quotient by the number of mechanisms is the exact one, rounded once. -/
theorem div_ofNat_eq {x : Double} (hx : x.isFinite) {n : ℕ} (h0 : n ≠ 0) (hn : n < 2 ^ 53) :
    x.div (.ofNat .double n) = .ofRat .double x.negative (x.toRat / n) := by
  have hw := Binary.isWhole_ofNat Format.isWide_double hn
  have hne : (Binary.ofNat .double n).toInt ≠ 0 := by
    rw [hw.toInt_eq]
    positivity
  rw [Binary.div_eq_ofRat hx hw.isFinite hne, hw.toRat_eq, Int.cast_natCast]
  congr 1
  exact Bool.xor_false _

/-- **The shares are the exact ones, rounded once.** -/
theorem shares_eq_ofRat {epsilon delta threshold : Double} {n : ℕ} (h0 : n ≠ 0) (hn : n < 2 ^ 53)
    (hepsilon : isEpsilon epsilon) (hdelta : isDelta delta)
    (hthreshold : Config.checkThreshold threshold = .ok ()) :
    (shares epsilon delta n threshold).epsilon =
        .ofRat .double false (exactEpsilon epsilon n threshold) ∧
      (shares epsilon delta n threshold).delta =
        .ofRat .double delta.negative (exactDelta delta n) := by
  obtain ⟨hfinite, hpos⟩ := isFinite_of_checkThreshold hthreshold
  refine ⟨?_, div_ofNat_eq (isFinite_of_isDelta hdelta) h0 hn⟩
  unfold exactEpsilon
  by_cases hcap : threshold.le epsilon
  · rw [if_pos hcap, ← (negative_of_zero_lt hpos).2,
      Binary.ofRat_toRat isWide_double.precision_pos hfinite]
    exact epsilon_shares_of_le hcap
  · have hdiv := div_ofNat_eq (isFinite_of_not_le hepsilon hthreshold hcap) h0 hn
    rw [if_neg hcap, ← (negative_of_zero_lt hepsilon).2, ← hdiv]
    exact epsilon_shares_of_not_le hcap

/-- Delta is kept to: the shares add up to it. -/
theorem within_exactDelta {delta : Double} {n : ℕ} (h0 : n ≠ 0) :
    Within (n * exactDelta delta n) delta := by
  refine Or.inr (le_of_eq ?_)
  unfold exactDelta
  field_simp

/-- Below the threshold epsilon is kept to, and from the threshold on the question is whether
`n` thresholds are. -/
theorem within_exactEpsilon_iff {epsilon threshold : Double} {n : ℕ} (h0 : n ≠ 0) :
    Within (n * exactEpsilon epsilon n threshold) epsilon ↔
      ¬threshold.le epsilon ∨ Within (n * threshold.toRat) epsilon := by
  unfold exactEpsilon
  by_cases hcap : threshold.le epsilon
  · simp [hcap]
  · simp only [hcap, Bool.false_eq_true, if_false, not_false_eq_true, true_or, iff_true]
    refine Or.inr (le_of_eq ?_)
    field_simp

end Budget

/-- **What the shares of a bundle add up to.**  Every share is the exact one, rounded once, as
long as the number of mechanisms is itself a double.  The exact shares of delta never exceed
delta.  Those of epsilon do not exceed epsilon if it is infinite, if it is below the threshold,
and if `n` thresholds do not exceed it; between the threshold and `n` thresholds they do. -/
theorem Factory.conserves_iff {α π : Type} {f : Factory α π} {s : BundleSpec} {b : Bundle π}
    (h : f.Builds s b) :
    ∃ epsilon delta, Budget.ofParameters s.parameters = .ok (epsilon, delta) ∧
      b.budget = Budget.shares epsilon delta s.nested.length f.threshold ∧
      (s.nested.length < 2 ^ 53 →
        b.budget.epsilon =
            .ofRat .double false (Budget.exactEpsilon epsilon s.nested.length f.threshold) ∧
          b.budget.delta =
            .ofRat .double delta.negative (Budget.exactDelta delta s.nested.length)) ∧
      Budget.Within (s.nested.length * Budget.exactDelta delta s.nested.length) delta ∧
      (Budget.Within
          (s.nested.length * Budget.exactEpsilon epsilon s.nested.length f.threshold) epsilon ↔
        epsilon.isInfinite ∨ epsilon.toRat < f.threshold.toRat ∨
          s.nested.length * f.threshold.toRat ≤ epsilon.toRat) := by
  obtain ⟨hthreshold, hn, epsilon, delta, hparameters, hbudget⟩ := h.grants
  have h0 : s.nested.length ≠ 0 := fun h => hn (List.length_eq_zero_iff.1 h)
  obtain ⟨hepsilon, hdelta⟩ := Budget.isEpsilon_of_ofParameters hparameters
  refine ⟨epsilon, delta, hparameters, hbudget, fun hlt => ?_, Budget.within_exactDelta h0, ?_⟩
  · rw [hbudget]
    exact Budget.shares_eq_ofRat h0 hlt hepsilon hdelta hthreshold
  · have hnan := Budget.negative_of_zero_lt (Budget.isFinite_of_checkThreshold hthreshold).2
    rw [Budget.within_exactEpsilon_iff h0, Binary.le_iff_toRat_le hnan.1
      (Budget.negative_of_zero_lt hepsilon).1, not_le, Budget.Within]
    tauto

/-- Three sums under an epsilon of 3 and a threshold of 1 spend no more than it, although it is
above the threshold. -/
theorem Factory.conserves_three_sums :
    let f := AnySum.factory (.ofNat .double 1)
    let s := BundleSpec.sums [1, 1, 1] (.ofNat .double 3) (.zero .double false)
    ∃ b, f.Builds s b ∧ ∃ epsilon delta,
      Budget.ofParameters s.parameters = .ok (epsilon, delta) ∧
        Budget.Within (3 * Budget.exactDelta delta 3) delta ∧
          Budget.Within (3 * Budget.exactEpsilon epsilon 3 f.threshold) epsilon := by
  intro f s
  have hmade : (f.create s).outcome = .ok {
      slots := List.replicate 3 ⟨"dp_sum", 1, .empty 0⟩
      budget := Budget.shares (.ofNat .double 3) (.zero .double false) 3 (.ofNat .double 1)
      total := 0 } := by decide +kernel
  obtain ⟨epsilon, delta, hparameters, _, _, hdelta, hepsilon⟩ :=
    Factory.conserves_iff (Or.inl hmade)
  refine ⟨_, Or.inl hmade, epsilon, delta, hparameters, hdelta, hepsilon.2 (Or.inr (Or.inr ?_))⟩
  obtain ⟨rfl, rfl⟩ := Prod.mk.inj (Except.ok.inj
    ((by decide +kernel : Budget.ofParameters s.parameters =
      .ok (.ofNat .double 3, .zero .double false)).symm.trans hparameters))
  have h1 : f.threshold.toRat = 1 := by
    exact_mod_cast (Binary.isWhole_ofNat (n := 1) Format.isWide_double (by decide)).toRat_eq
  have h3 : (Binary.ofNat .double 3).toRat = 3 := by
    exact_mod_cast (Binary.isWhole_ofNat (n := 3) Format.isWide_double (by decide)).toRat_eq
  rw [h1, h3]
  norm_num [s, BundleSpec.sums]

/-- Four sums under an epsilon of 1 and a threshold of 1 get an epsilon of 1 each, and together
spend four times what was requested. -/
theorem Budget.four_sums_overspend :
    let one : Double := .ofNat .double 1
    let shares := Budget.shares one (.zero .double false) 4 one
    ((AnySum.factory one).create (.sums [1, 1, 1, 1] one (.zero .double false))).outcome =
        .ok { slots := List.replicate 4 ⟨"dp_sum", 1, .empty 0⟩, budget := shares, total := 0 } ∧
      shares.epsilon = one ∧ ¬Budget.Within (4 * Budget.exactEpsilon one 4 one) one := by
  intro one shares
  have hcap : one.le one := by decide +kernel
  have hone : one.toRat = 1 := by
    exact_mod_cast (Binary.isWhole_ofNat (n := 1) Format.isWide_double (by decide)).toRat_eq
  have hfinite : one.isInfinite = false := by decide +kernel
  refine ⟨by decide +kernel, by decide +kernel, ?_⟩
  rw [Budget.Within, Budget.exactEpsilon, if_pos hcap, hone, hfinite]
  norm_num

end SharedBudget
