/-
# Points in time read back

The text of a point in time has one form, and reading it goes through the form part
by part: every number is a row of digits that ends at a sign, and every sign is the
one that is expected.  So the text of a point in time is read back as that point
in time (`Calendar.read_chars`), leap seconds and far years included.
-/

import SharedBudget.Calendar.Reading
import SharedBudget.Proofs.Log.Outcome
import Mathlib.Data.Int.Notation
import Mathlib.Data.List.TakeWhile

namespace SharedBudget

namespace Timestamp

/-! ## Rows of digits -/

theorem length_padded (width n : ℕ) : (padded width n).length = width := by
  induction width generalizing n with
  | zero => rfl
  | succ width ih => rw [padded, List.length_append, ih, List.length_singleton]

theorem digit_spec : ∀ d < 10, (Char.ofNat (0x30 + d)).isDigit ∧
    (Char.ofNat (0x30 + d)).toNat - 0x30 = d := by decide

theorem isDigit_padded (width n : ℕ) : ∀ c ∈ padded width n, c.isDigit := by
  induction width generalizing n with
  | zero => exact nofun
  | succ width ih =>
    rw [padded, List.forall_mem_append]
    exact ⟨ih _, List.forall_mem_singleton.2 (digit_spec _ (Nat.mod_lt _ (by decide))).1⟩

theorem digitsValue_padded (width n : ℕ) : Calendar.digitsValue (padded width n) = n % 10 ^ width := by
  induction width generalizing n with
  | zero => simp [padded, Calendar.digitsValue, Nat.mod_one]
  | succ width ih =>
    have hlast := (digit_spec (n % 10) (Nat.mod_lt _ (by decide))).2
    unfold Calendar.digitsValue at ih ⊢
    rw [padded, List.foldl_append, List.foldl_cons, List.foldl_nil, ih, hlast, Nat.pow_succ']
    rw [Nat.mod_mul]
    omega

end Timestamp

namespace Calendar

open Timestamp

variable {α β : Type}

theorem bind_reading {r : Reading α} {cs cs' : List Char} {x : α} (h : r cs = .ok (x, cs'))
    (f : α → Reading β) : (r >>= f) cs = f x cs' := by
  change r cs >>= (fun p => f p.1 p.2) = _
  rw [h]
  rfl

theorem digitsValue_digits (n : ℕ) : digitsValue (Nat.toDigits 10 n) = n :=
  Nat.ofDigitChars_ten_toDigits

/-- What follows a row of digits does not continue it. -/
def EndsDigits (rest : List Char) : Prop := ∀ c ∈ rest.head?, c.isDigit = false

theorem endsDigits_cons {c : Char} (h : c.isDigit = false) (rest : List Char) :
    EndsDigits (c :: rest) := by
  intro c' hc'
  obtain rfl := Option.some.inj hc'
  exact h

/-- A digit is not blank. -/
theorem not_isBlankChar_of_isDigit {c : Char} (h : c.isDigit) : Text.isBlankChar c = false := by
  have hc : 48 ≤ c.toNat ∧ c.toNat ≤ 57 := by
    simp only [Char.isDigit, Bool.and_eq_true, decide_eq_true_eq] at h
    exact h
  have hall : ∀ n < 58, 48 ≤ n → Text.inRanges n Text.blankRanges = false := by decide
  exact hall c.toNat (by omega) hc.1

theorem skipBlanks_cons {c : Char} (h : Text.isBlankChar c = false) (rest : List Char) :
    skipBlanks (c :: rest) = c :: rest := List.dropWhile_cons_of_neg (by simp [h])

section Rows

variable {ds rest : List Char}

theorem skipBlanks_digits (h : ∀ c ∈ ds, c.isDigit) (hne : ds ≠ []) :
    skipBlanks (ds ++ rest) = ds ++ rest := by
  obtain ⟨c, ds, rfl⟩ := List.exists_cons_of_ne_nil hne
  exact skipBlanks_cons (not_isBlankChar_of_isDigit (h c (List.mem_cons_self ..))) _

/-- **A row of digits is taken whole,** if it is not too long. -/
theorem digitRow_digits (most : ℕ) (h : ∀ c ∈ ds, c.isDigit) (hne : ds ≠ [])
    (hrest : EndsDigits rest) (hmost : ds.length ≤ most) : digitRow most (ds ++ rest) = .ok (ds, rest) := by
  have hrow : ((ds ++ rest).take most).takeWhile Char.isDigit = ds := by
    have hall : ds.takeWhile Char.isDigit = ds := by
      rw [List.takeWhile_eq_self_iff]
      exact h
    rw [List.take_append, List.take_of_length_le hmost, List.takeWhile_append, hall, if_pos rfl]
    cases rest with
    | nil => simp
    | cons c rest =>
      cases most - ds.length with
      | zero => simp
      | succ k =>
        rw [List.take_succ_cons, List.takeWhile_cons_of_neg (by simp [hrest c rfl]), List.append_nil]
  obtain ⟨c, ds, rfl⟩ := List.exists_cons_of_ne_nil hne
  rw [List.cons_append] at *
  rw [digitRow]
  simp only [h c (List.mem_cons_self ..), if_true, hrow]
  rw [← List.cons_append, List.drop_left]

end Rows

/-! ## The parts of a text -/

/-- A number of two digits within its bounds. -/
theorem bounded_padded {least greatest n : ℕ} (hleast : least ≤ n) (hgreatest : n ≤ greatest)
    (hn : n < 100) {rest : List Char} (hrest : EndsDigits rest) :
    bounded 2 least greatest (padded 2 n ++ rest) = .ok (n, rest) := by
  have hdigits := isDigit_padded 2 n
  have hne : padded 2 n ≠ [] := by
    rw [← List.length_pos_iff, length_padded]
    decide
  have hvalue : digitsValue (padded 2 n) = n := by
    rw [digitsValue_padded, Nat.mod_eq_of_lt (by omega)]
  unfold bounded
  rw [skipBlanks_digits hdigits hne,
    digitRow_digits 2 hdigits hne hrest (length_padded 2 n).le, ok_bind]
  simp only [hvalue, if_pos (And.intro hleast hgreatest)]

theorem separator_cons {c : Char} (h : Text.isBlankChar c = false) (rest : List Char) :
    separator c (c :: rest) = .ok ((), rest) := by
  rw [separator, skipBlanks_cons h]
  simp only [if_true]

theorem dayEnd_cons (rest : List Char) : dayEnd ('T' :: rest) = .ok ((), rest) := by
  rw [dayEnd]
  simp

theorem zone_utc : zone ['Z'] = .ok (0, []) := by
  rw [zone, skipBlanks_cons (by decide)]
  simp

/-- A year of at most four digits has no sign. -/
theorem year_digits {ds rest : List Char} (h : ∀ c ∈ ds, c.isDigit) (hne : ds ≠ [])
    (hrest : EndsDigits rest) (hlength : ds.length ≤ 4) :
    year (ds ++ rest) = .ok ((digitsValue ds : ℤ), rest) := by
  have hrow := digitRow_digits 4 h hne hrest hlength
  unfold year
  rw [skipBlanks_digits h hne]
  obtain ⟨c, ds, rfl⟩ := List.exists_cons_of_ne_nil hne
  have hc := h c (List.mem_cons_self ..)
  rw [List.cons_append] at *
  split
  · rename_i heq
    obtain ⟨rfl, _⟩ := List.cons.inj heq
    cases hc
  · rename_i heq
    obtain ⟨rfl, _⟩ := List.cons.inj heq
    cases hc
  · rw [hrow, ok_bind]

section Signs

variable {ds rest : List Char} {y : ℤ}

/-- A year behind a minus sign. -/
theorem year_minus (h : ∀ c ∈ ds, c.isDigit) (hne : ds ≠ []) (hrest : EndsDigits rest)
    (hfirst : -2 ^ 31 ≤ y) (hlast : y < 2 ^ 31) (hy : -(digitsValue ds : ℤ) = y) :
    year ('-' :: (ds ++ rest)) = .ok (y, rest) := by
  have hrow := digitRow_digits (ds ++ rest).length h hne hrest (by simp)
  have hvalue : (if true = true then -(digitsValue ds : ℤ) else digitsValue ds) = y := hy
  unfold year
  rw [skipBlanks_cons (by decide)]
  -- The bounds stay powers of two: the kernel cannot unfold their values.
  dsimp only [ -Int.reducePow, -Int.reduceNeg]
  split
  · rename_i heq
    obtain ⟨_, rfl⟩ := List.cons.inj heq
    rw [hrow, ok_bind]
    rw [hvalue, if_pos ⟨hfirst, hlast⟩]
  · rename_i heq
    cases (List.cons.inj heq).1
  · rename_i hminus _
    exact absurd rfl (hminus _)

/-- A year behind a plus sign. -/
theorem year_plus (h : ∀ c ∈ ds, c.isDigit) (hne : ds ≠ []) (hrest : EndsDigits rest)
    (hfirst : -2 ^ 31 ≤ y) (hlast : y < 2 ^ 31) (hy : (digitsValue ds : ℤ) = y) :
    year ('+' :: (ds ++ rest)) = .ok (y, rest) := by
  have hrow := digitRow_digits (ds ++ rest).length h hne hrest (by simp)
  have hvalue : (if false = true then -(digitsValue ds : ℤ) else digitsValue ds) = y := hy
  unfold year
  rw [skipBlanks_cons (by decide)]
  dsimp only [ -Int.reducePow, -Int.reduceNeg]
  split
  · rename_i heq
    cases (List.cons.inj heq).1
  · rename_i heq
    obtain ⟨_, rfl⟩ := List.cons.inj heq
    rw [hrow, ok_bind]
    rw [hvalue, if_pos ⟨hfirst, hlast⟩]
  · rename_i hplus
    exact absurd rfl (hplus _)

end Signs

/-- **A year is read back,** with or without its sign. -/
theorem year_yearChars {y : ℤ} (hfirst : firstYear ≤ y) (hlast : y ≤ lastYear) {rest : List Char}
    (hrest : EndsDigits rest) : year (yearChars y ++ rest) = .ok (y, rest) := by
  have hpadded {n : ℕ} (hn : n ≤ 9999) : digitsValue (padded 4 n) = n := by
    rw [digitsValue_padded, Nat.mod_eq_of_lt (by omega)]
  have hne (n : ℕ) : padded 4 n ≠ [] := by
    rw [← List.length_pos_iff, length_padded]
    decide
  unfold firstYear at hfirst
  unfold lastYear at hlast
  unfold yearChars
  split
  · rename_i hshort
    rw [year_digits (isDigit_padded 4 _) (hne _) hrest (length_padded 4 _).le,
      hpadded (by omega), Int.toNat_of_nonneg hshort.1]
  · rename_i hlong
    obtain ⟨ds, hds, hdigits, hne, hvalue⟩ : ∃ ds,
        (if y.natAbs ≤ 9999 then padded 4 y.natAbs else Nat.toDigits 10 y.natAbs) = ds ∧
          (∀ c ∈ ds, c.isDigit) ∧ ds ≠ [] ∧ digitsValue ds = y.natAbs := by
      split
      · rename_i hn
        exact ⟨_, rfl, isDigit_padded 4 _, hne _, hpadded hn⟩
      · exact ⟨_, rfl, fun c hc => Nat.isDigit_of_mem_toDigits (by decide) (by decide) hc,
          Nat.toDigits_ne_nil, digitsValue_digits _⟩
    rw [hds]
    by_cases hneg : y < 0
    · rw [if_pos hneg]
      exact year_minus hdigits hne hrest (by omega) (by omega) (by omega)
    · rw [if_neg hneg]
      exact year_plus hdigits hne hrest (by omega) (by omega) (by omega)

/-- The fraction of a second whose digits stand for so many nanoseconds each. -/
theorem fraction_padded {width n : ℕ} (h0 : 0 < width) (hwidth : width ≤ 9) (hn : n < 10 ^ width) :
    fraction ('.' :: padded width n ++ ['Z']) = .ok (n * 10 ^ (9 - width), ['Z']) := by
  have hne : padded width n ≠ [] := by
    rw [← List.length_pos_iff, length_padded]
    exact h0
  have hrow := digitRow_digits 9 (isDigit_padded width n) hne (endsDigits_cons (c := 'Z') rfl [])
    (by rwa [length_padded])
  have hvalue : digitsValue (padded width n) = n := by
    rw [digitsValue_padded, Nat.mod_eq_of_lt hn]
  rw [List.cons_append, fraction, hrow, ok_bind]
  simp only [hvalue, length_padded]
  rfl

/-- **A fraction of a second is read back,** with as many digits as it needs. -/
theorem fraction_fractionChars {n : ℕ} (hn : n < 1000000000) :
    fraction (fractionChars n ++ ['Z']) = .ok (n, ['Z']) := by
  unfold fractionChars
  split
  · rename_i h
    rw [h]
    rfl
  split
  · rw [fraction_padded (by decide) (by decide) (by omega)]
    congr 2
    omega
  split
  · rw [fraction_padded (by decide) (by decide) (by omega)]
    congr 2
    omega
  · rw [fraction_padded (by decide) (by decide) (by omega)]
    congr 2
    omega

/-! ## Points in time -/

/-- The parts of a point in time. -/
def partsOf (t : Timestamp) : Parts where
  year := t.date.year
  month := t.date.month
  day := t.date.day
  hour := t.hour
  minute := t.minute
  second := t.second
  nanosecond := t.nanosecond
  ahead := 0

/-- The text of a point in time has the parts of the point in time. -/
theorem parts_chars (t : Timestamp) : parts t.chars = .ok (partsOf t, []) := by
  obtain ⟨⟨year, month, day, ⟨hfirst, hlast⟩, ⟨hmonth, hmonth'⟩, ⟨hday, hday'⟩⟩, hour, minute, second,
    nanosecond⟩ := t
  have hday'' : day ≤ 31 := hday'.trans (by unfold daysInMonth; split <;> (try split) <;> decide)
  have hminus : Text.isBlankChar '-' = false := by decide
  have hcolon : Text.isBlankChar ':' = false := by decide
  have hfraction : EndsDigits (fractionChars nanosecond ++ ['Z']) := by
    unfold fractionChars
    split
    · exact endsDigits_cons rfl _
    split
    · exact endsDigits_cons rfl _
    split <;> exact endsDigits_cons rfl _
  unfold Timestamp.chars parts
  simp only [List.append_assoc, List.cons_append]
  have hhour := hour.isLt
  have hminute := minute.isLt
  have hsecond := second.isLt
  rw [bind_reading (year_yearChars hfirst hlast (endsDigits_cons rfl _)),
    bind_reading (separator_cons hminus _),
    bind_reading (bounded_padded hmonth hmonth' (by omega) (endsDigits_cons rfl _)),
    bind_reading (separator_cons hminus _),
    bind_reading (bounded_padded hday hday'' (by omega) (endsDigits_cons rfl _)),
    bind_reading (dayEnd_cons _),
    bind_reading (bounded_padded (Nat.zero_le _) (Nat.le_of_lt_succ hhour) (by omega)
      (endsDigits_cons rfl _)),
    bind_reading (separator_cons hcolon _),
    bind_reading (bounded_padded (Nat.zero_le _) (Nat.le_of_lt_succ hminute) (by omega)
      (endsDigits_cons rfl _)),
    bind_reading (separator_cons hcolon _),
    bind_reading (bounded_padded (Nat.zero_le _) (Nat.le_of_lt_succ hsecond) (by omega) hfraction),
    bind_reading (fraction_fractionChars nanosecond.isLt), bind_reading zone_utc]
  rfl

theorem minuteOfDay_partsOf (t : Timestamp) :
    (partsOf t).minuteOfDay = (t.hour * 60 + t.minute : ℕ) := by
  simp [Parts.minuteOfDay, partsOf]

/-- The parts of a point in time name that point in time. -/
theorem timestamp_partsOf (t : Timestamp) : (partsOf t).timestamp = .ok t := by
  have hhour := t.hour.isLt
  have hminute := t.minute.isLt
  have hdate : Date.of? (partsOf t).year (partsOf t).month (partsOf t).day = some t.date :=
    dif_pos t.date.hasDay
  have hahead : (partsOf t).ahead.natAbs < 1440 := Nat.zero_lt_succ _
  have hutc : (partsOf t).utcDate? t.date = some t.date := by
    rw [Parts.utcDate?, minuteOfDay_partsOf, if_neg (by omega), if_pos (by omega)]
  have hmoment : ((partsOf t).minuteOfDay % 1440).toNat = t.hour * 60 + t.minute := by
    rw [minuteOfDay_partsOf]
    omega
  have hhour' : (t.hour * 60 + t.minute : ℕ) / 60 % 24 = t.hour := by omega
  have hminute' : (t.hour * 60 + t.minute : ℕ) % 60 = t.minute := by omega
  have hsecond : (partsOf t).second % 61 = t.second := Nat.mod_eq_of_lt t.second.isLt
  have hnanosecond : (partsOf t).nanosecond % 1000000000 = t.nanosecond :=
    Nat.mod_eq_of_lt t.nanosecond.isLt
  unfold Parts.timestamp
  simp only [hdate, if_pos hahead, hutc, hmoment, hhour', hminute', hsecond, hnanosecond]

/-- **The text of a point in time is read back as that point in time.** -/
theorem read_chars (t : Timestamp) : read t.chars = .ok t := by
  rw [read, parts_chars, ok_bind]
  exact timestamp_partsOf t

end Calendar
end SharedBudget
