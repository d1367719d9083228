/-
# Gates

A `dp_sum` may be asked to wait for a number of groups.  The number is a parameter,
and a parameter is read as a double, so what the sum waits for is the number rounded
(`Binary.rounded`): it opens at that group and not before (`PrivateSum.OpensAt`).
This is the number asked for if a double holds it, and also for the largest word of
all; any other number above `2 ^ 53` is missed by up to half the gap between doubles,
to either side (`PrivateSum.gatedSum_opensAt`).
-/

import SharedBudget.Mechanism.Sum
import SharedBudget.Proofs.Binary.Word
import SharedBudget.Proofs.Budget.Shares

namespace SharedBudget

open Format

/-- The number that a parameter of 64 bits holds. -/
def Parameter.word? : Parameter → Option ℤ
  | .i64 z => some z.toInt
  | .u64 n => some n.toNat
  | _ => none

theorem Parameter.toDouble?_of_word? {p : Parameter} {z : ℤ} (h : p.word? = some z) :
    p.toDouble? = some (.ofInt .double z) := by
  cases p with
  | i64 m =>
    obtain rfl := Option.some.inj h
    rfl
  | u64 n =>
    obtain rfl := Option.some.inj h
    exact congrArg some (Binary.ofNat_eq_ofInt n.toNat)
  | _ => cases h

theorem Parameter.lt_of_word? {p : Parameter} {z : ℤ} (h : p.word? = some z) : z < 2 ^ 64 := by
  cases p with
  | i64 m =>
    obtain rfl := Option.some.inj h
    have := m.toInt_lt
    omega
  | u64 n =>
    obtain rfl := Option.some.inj h
    have := n.toNat_lt
    omega
  | _ => cases h

/-- Rounding keeps the sign. -/
theorem Binary.zero_le_ofInt_iff {z : ℤ} :
    (zero .double false).le (ofInt .double z) ↔ 0 ≤ z := by
  have hzero : (zero .double false).isNaN = false := by decide +kernel
  have hnumber : (ofInt .double z).isNaN = false := isNaN_ofUnits ..
  have hsign : (ofInt .double z).negative = decide (z < 0) := rfl
  rw [Binary.le, hzero, hnumber, Budget.place_zero, place, hsign]
  simp only [Bool.not_false, Bool.and_self, Bool.true_and, decide_eq_true_eq]
  split_ifs with hneg
  · have hrank : 0 < (ofInt .double z).rank := by
      rw [ofInt, ofRatio, rank_ofUnits]
      refine nearest_pos isWide_double.infinity_pos Nat.one_pos ?_
      exact Nat.mul_pos (Int.natAbs_pos.2 hneg.ne) (Nat.two_pow_pos _)
    omega
  · omega

namespace PrivateSum

variable {s : MechanismSpec} {p : Parameter} {z : ℤ} {n n' : ℕ} {sum : PrivateSum}

/-! ## Groups -/

theorem minimum_foldl_absorb (sum : PrivateSum) (groups : List (List Double)) :
    (groups.foldl absorb sum).minimum = sum.minimum := by
  induction groups generalizing sum with
  | nil => rfl
  | cons group groups ih => exact ih (sum.absorb group)

theorem count_foldl_absorb (sum : PrivateSum) (groups : List (List Double)) :
    (groups.foldl absorb sum).count = sum.count + .ofNat groups.length := by
  induction groups generalizing sum with
  | nil => simp
  | cons group groups ih =>
    rw [List.foldl_cons, ih, List.length_cons, Nat.add_comm, UInt64.ofNat_add, ← UInt64.add_assoc]
    rfl

/-- The sum can report after `n` groups and more, and not before, whatever is in them. -/
def OpensAt (sum : PrivateSum) (n : ℕ) : Prop :=
  ∀ groups : List (List Double), groups.length < 2 ^ 64 →
    ∃ after, groups.foldlM Mechanism.accumulate sum = (.ok after : Except Error PrivateSum) ∧
      (Mechanism.canReport after ↔ n ≤ groups.length)

/-- **A sum of nothing opens** at the number of groups that it is to wait for. -/
theorem opensAt_empty (minimum : UInt64) : (empty minimum).OpensAt minimum.toNat := by
  intro groups hgroups
  refine ⟨_, foldlM_accumulate .., ?_⟩
  have hcount : ((groups.foldl absorb (empty minimum)).count).toNat = groups.length := by
    rw [count_foldl_absorb]
    simp [empty, Nat.mod_eq_of_lt hgroups]
  change decide _ = true ↔ _
  rw [decide_eq_true_iff, UInt64.le_iff_toNat_le, hcount, minimum_foldl_absorb]
  rfl

/-- A sum opens at one number only. -/
theorem OpensAt.unique (h : sum.OpensAt n) (h' : sum.OpensAt n') (hn : n < 2 ^ 64)
    (hn' : n' < 2 ^ 64) : n = n' := by
  have hiff {k : ℕ} (hk : k < 2 ^ 64) : n ≤ k ↔ n' ≤ k := by
    have hlength : (List.replicate k ([] : List Double)).length = k := List.length_replicate
    obtain ⟨after, hafter, hreport⟩ := h (List.replicate k []) (by rwa [hlength])
    obtain ⟨after', hafter', hreport'⟩ := h' (List.replicate k []) (by rwa [hlength])
    obtain rfl := Except.ok.inj (hafter.symm.trans hafter')
    rw [hlength] at hreport hreport'
    exact hreport.symm.trans hreport'
  exact Nat.le_antisymm ((hiff hn').2 le_rfl) ((hiff hn).1 le_rfl)

/-! ## Gates -/

/-- A negative number of groups is refused. -/
theorem create_of_neg (hp : s.parameters.head? = some p) (hz : p.word? = some z) (hneg : z < 0) :
    maker.create s = .error (.mechanism (.minimum p)) := by
  obtain ⟨more, hmore⟩ := List.head?_eq_some_iff.1 hp
  have hrefused : ¬(Binary.zero .double false).le (.ofInt .double z) := by
    rw [Binary.zero_le_ofInt_iff]
    omega
  simp only [maker, minimumOf, hmore, Parameter.toDouble?_of_word? hz, if_neg hrefused]
  rfl

/-- **A number of groups is rounded,** and that is what a sum waits for. -/
theorem create_of_nonneg (hp : s.parameters.head? = some p) (hz : p.word? = some z)
    (hpos : 0 ≤ z) : maker.create s = .ok (empty (.ofNat (Binary.rounded z.toNat))) := by
  obtain ⟨more, hmore⟩ := List.head?_eq_some_iff.1 hp
  have haccepted : (Binary.zero .double false).le (.ofInt .double z) :=
    Binary.zero_le_ofInt_iff.2 hpos
  have hword : (Binary.ofInt .double z).toWord = Binary.rounded z.toNat := by
    have hlt := Parameter.lt_of_word? hz
    rw [← Binary.toWord_ofNat (by omega), Binary.ofNat_eq_ofInt, Int.toNat_of_nonneg hpos]
  simp only [maker, minimumOf, hmore, Parameter.toDouble?_of_word? hz, if_pos haccepted, hword]
  rfl

/-- The specification makes a sum that waits for `n` groups as nearly as a double can say it: it
opens at the rounded number, and at `n` itself exactly if `n` is a multiple of the gap between the
doubles around it, or the largest word. -/
def Gated (s : MechanismSpec) (n : ℕ) : Prop :=
  ∃ sum, maker.create s = .ok sum ∧ sum.minimum.toNat = Binary.rounded n ∧
    sum.OpensAt (Binary.rounded n) ∧ (sum.OpensAt n ↔ Binary.gap n ∣ n ∨ n = 2 ^ 64 - 1)

theorem gated_of_nonneg (hp : s.parameters.head? = some p) (hz : p.word? = some z)
    (hpos : 0 ≤ z) : Gated s z.toNat := by
  have hlt : z.toNat < 2 ^ 64 := by
    have := Parameter.lt_of_word? hz
    omega
  have hrounded : Binary.rounded z.toNat < 2 ^ 64 :=
    (Nat.min_le_right ..).trans_lt (by decide)
  have hminimum : (UInt64.ofNat (Binary.rounded z.toNat)).toNat = Binary.rounded z.toNat := by
    rw [UInt64.toNat_ofNat', Nat.mod_eq_of_lt hrounded]
  have hopens := opensAt_empty (.ofNat (Binary.rounded z.toNat))
  rw [hminimum] at hopens
  refine ⟨_, create_of_nonneg hp hz hpos, hminimum, hopens, ?_⟩
  rw [← Binary.rounded_eq_self_iff hlt]
  constructor
  · intro h
    exact hopens.unique h hrounded hlt
  · intro h
    rw [h] at hopens ⊢
    exact hopens

/-- **What a gate is.**  For every number of streams, a negative gate is refused.  Any other one,
signed or not, is rounded to a double, and the sum can report from the rounded number of groups
on.  That is the number asked for exactly if it is a multiple of the gap between the doubles around
it, as all numbers up to `2 ^ 53` are, or the largest word. -/
theorem gatedSum_opensAt (inputs : ℕ) :
    (∀ m : Int64, m < 0 →
      maker.create (.gatedSum inputs m) = .error (.mechanism (.minimum (.i64 m)))) ∧
    (∀ m : Int64, 0 ≤ m → Gated (.gatedSum inputs m) m.toInt.toNat) ∧
    ∀ n : UInt64, Gated { MechanismSpec.sum inputs with parameters := [.u64 n] } n.toNat := by
  refine ⟨fun m hm => ?_, fun m hm => ?_, fun n => ?_⟩
  · exact create_of_neg (z := m.toInt) rfl rfl (Int64.lt_iff_toInt_lt.1 hm)
  · exact gated_of_nonneg (z := m.toInt) rfl rfl (Int64.le_iff_toInt_le.1 hm)
  · exact gated_of_nonneg (z := n.toNat) rfl rfl (Int.natCast_nonneg _)

/-- A gate of two groups opens at the second one, and one of minus one is refused. -/
theorem gatedSum_two :
    (∃ sum, maker.create (.gatedSum 1 2) = .ok sum ∧ sum.OpensAt 2) ∧
      maker.create (.gatedSum 1 (-1)) = .error (.mechanism (.minimum (.i64 (-1)))) := by
  obtain ⟨hneg, hpos, _⟩ := gatedSum_opensAt 1
  obtain ⟨sum, hsum, _, _, hopens⟩ := hpos 2 (by decide)
  exact ⟨⟨sum, hsum, hopens.2 (.inl (by decide +kernel))⟩, hneg (-1) (by decide)⟩

/-- A gate of `2 ^ 53 + 1` groups opens one group too early. -/
theorem gatedSum_opens_early :
    ∃ sum, maker.create (.gatedSum 1 9007199254740993) = .ok sum ∧
      sum.minimum = 9007199254740992 ∧ sum.OpensAt 9007199254740992 ∧
        ¬sum.OpensAt 9007199254740993 := by
  have hgate : (Int64.toInt 9007199254740993).toNat = 9007199254740993 := by decide
  have hrounded : Binary.rounded 9007199254740993 = 9007199254740992 := by decide +kernel
  obtain ⟨sum, hsum, hminimum, hopens, _⟩ :=
    gated_of_nonneg (s := .gatedSum 1 9007199254740993) (z := Int64.toInt 9007199254740993)
      rfl rfl (by decide)
  rw [hgate, hrounded] at hminimum hopens
  refine ⟨sum, hsum, UInt64.toNat_inj.1 hminimum, hopens, fun h => ?_⟩
  exact absurd (hopens.unique h (by decide) (by decide)) (by decide)

end PrivateSum
end SharedBudget
