/-
# Numbers read back

A number is read digit by digit, so what counts about its text is the row of its
digits and the place of the point.  The text of a finite number is, in each of the
forms that `Decimal.Layout.json` chooses from, the text of one literal
(`Json.literalOf`), and reading it comes down to the double which that literal
denotes (`Json.number_digitChars`).  A natural number is read as itself
(`Json.number_natural`).
-/

import SharedBudget.Json.Number
import SharedBudget.Json.Writer
import SharedBudget.Proofs.Binary.Exact
import SharedBudget.Proofs.Decimal.Shortest
import SharedBudget.Proofs.Json.Strings

namespace SharedBudget
namespace Json

/-- What may follow a value in a compact document: nothing, or the end of a list or an object
or of one of their items. -/
def Closes (rest : Bytes) : Prop :=
  ∀ b ∈ rest.head?, b = comma ∨ b = closeList ∨ b = closeObject

theorem closes_nil : Closes [] := nofun

theorem closes_comma (rest : Bytes) : Closes (comma :: rest) := by simp [Closes]

theorem closes_closeList (rest : Bytes) : Closes (closeList :: rest) := by simp [Closes]

theorem closes_closeObject (rest : Bytes) : Closes (closeObject :: rest) := by simp [Closes]

/-! ## Rows of digits -/

/-- What follows a row of digits does not continue it. -/
def EndsRow (s : Bytes) : Prop := ∀ b ∈ s.head?, isDigit b = false

theorem Closes.endsRow {rest : Bytes} (h : Closes rest) : EndsRow rest := by
  intro b hb
  rcases h b hb with rfl | rfl | rfl <;> rfl

theorem Closes.head?_ne {rest : Bytes} (h : Closes rest) :
    rest.head? ≠ some point ∧ beginsExponent rest = false := by
  cases rest with
  | nil => exact ⟨nofun, rfl⟩
  | cons b rest =>
    rcases h b rfl with rfl | rfl | rfl
    · exact ⟨fun h => absurd (Option.some.inj h) (by decide), rfl⟩
    · exact ⟨fun h => absurd (Option.some.inj h) (by decide), rfl⟩
    · exact ⟨fun h => absurd (Option.some.inj h) (by decide), rfl⟩

/-- A digit is one byte, which is a digit and is not a sign. -/
theorem isDigit_byte {c : Char} (h : c.isDigit) :
    c.toNat < 0x80 ∧ isDigit (UInt8.ofNat c.toNat) ∧ (UInt8.ofNat c.toNat).toNat = c.toNat := by
  have hc : 48 ≤ c.toNat ∧ c.toNat ≤ 57 := by
    simp only [Char.isDigit, Bool.and_eq_true, decide_eq_true_eq] at h
    exact h
  have hb : (UInt8.ofNat c.toNat).toNat = c.toNat := by
    rw [UInt8.toNat_ofNat', Nat.mod_eq_of_lt (by omega)]
  refine ⟨by omega, ?_, hb⟩
  rw [isDigit, hb, Bool.and_eq_true, decide_eq_true_eq, decide_eq_true_eq]
  exact hc

theorem length_encode_digits {ds : List Char} (h : ∀ c ∈ ds, c.isDigit) :
    (Utf8.encode ds).length = ds.length := by
  induction ds with
  | nil => rfl
  | cons c ds ih =>
    obtain ⟨hc, hds⟩ := List.forall_mem_cons.1 h
    rw [Utf8.encode_cons_of_lt (isDigit_byte hc).1, List.length_cons, List.length_cons, ih hds]

theorem isEmpty_encode_digits {ds : List Char} (h : ∀ c ∈ ds, c.isDigit) (hne : ds ≠ []) :
    (Utf8.encode ds).isEmpty = false := by
  rw [List.isEmpty_eq_false_iff, ← List.length_pos_iff, length_encode_digits h,
    List.length_pos_iff]
  exact hne

theorem drop_encode_digits {ds : List Char} (h : ∀ c ∈ ds, c.isDigit) (s : Bytes) :
    (Utf8.encode ds ++ s).drop ds.length = s := by rw [← length_encode_digits h, List.drop_left]

/-- A row of digits is taken whole. -/
theorem takeWhile_digits {ds : List Char} (h : ∀ c ∈ ds, c.isDigit) {s : Bytes} (hs : EndsRow s) :
    (Utf8.encode ds ++ s).takeWhile isDigit = Utf8.encode ds := by
  induction ds with
  | nil =>
    cases s with
    | nil => rfl
    | cons b s => simp [hs b rfl]
  | cons c ds ih =>
    obtain ⟨hc, hds⟩ := List.forall_mem_cons.1 h
    rw [Utf8.encode_cons_of_lt (isDigit_byte hc).1, List.cons_append,
      List.takeWhile_cons_of_pos (isDigit_byte hc).2.1, ih hds]

theorem le_ofDigitChars (ds : List Char) (n : ℕ) : n ≤ Nat.ofDigitChars 10 ds n := by
  rw [Nat.ofDigitChars_eq_ofDigitChars_zero]
  exact Nat.le_add_right_of_le (Nat.le_mul_of_pos_left n (Nat.pow_pos (by decide)))

/-- A row of digits goes into a number that stays below the limit. -/
theorem absorb_digits {ds : List Char} (h : ∀ c ∈ ds, c.isDigit) {limit n : ℕ}
    (hlimit : Nat.ofDigitChars 10 ds n < limit) :
    absorb limit n (Utf8.encode ds) = (Nat.ofDigitChars 10 ds n, 0) := by
  induction ds generalizing n with
  | nil => rfl
  | cons c ds ih =>
    obtain ⟨hc, hds⟩ := List.forall_mem_cons.1 h
    rw [Nat.ofDigitChars_cons] at hlimit ⊢
    have hlt : 10 * n + (c.toNat - 0x30) < limit := (le_ofDigitChars ds _).trans_lt hlimit
    rw [Utf8.encode_cons_of_lt (isDigit_byte hc).1, absorb, (isDigit_byte hc).2.2]
    simp only [if_pos hlt]
    exact ih hds hlimit

/-- A row of digits that reaches the limit does not go into the number as a whole. -/
theorem absorb_untaken {ds : List Char} (h : ∀ c ∈ ds, c.isDigit) {limit n : ℕ} (hn : n < limit)
    (hlimit : limit ≤ Nat.ofDigitChars 10 ds n) : (absorb limit n (Utf8.encode ds)).2 ≠ 0 := by
  induction ds generalizing n with
  | nil => exact absurd hlimit (Nat.not_le_of_lt hn)
  | cons c ds ih =>
    obtain ⟨hc, hds⟩ := List.forall_mem_cons.1 h
    rw [Nat.ofDigitChars_cons] at hlimit
    rw [Utf8.encode_cons_of_lt (isDigit_byte hc).1, absorb, (isDigit_byte hc).2.2]
    split
    · rename_i hlt
      exact ih hds hlt hlimit
    · exact Nat.succ_ne_zero _

/-! ## The parts of a number -/

section Parts

variable {negative : Bool} {significand : ℕ} {exponent : ℤ} {ds : List Char} {s : Bytes}

/-- The digits in front of the point have no leading zero. -/
def HasNoLeadingZero (ds : List Char) : Prop := ∀ cs, ds = '0' :: cs → cs = []

/-- A zero in front of other digits is what readers look for. -/
theorem HasNoLeadingZero.not_leads {c : Char} {cs : List Char} (hzero : HasNoLeadingZero (c :: cs))
    (hc : c.isDigit) : ¬(UInt8.ofNat c.toNat = zero ∧ 1 < (c :: cs).length) := by
  rintro ⟨hb, hlong⟩
  have hc0 : c.toNat = 0x30 := by
    rw [← (isDigit_byte hc).2.2, hb]
    rfl
  have : c = '0' := Char.toNat_inj.1 hc0
  rw [hzero cs (by rw [this])] at hlong
  simp at hlong

/-- **The digits in front of the point,** and what is done with the rest.  The digits that do not
fit the significand raise the exponent by one each. -/
theorem number_row (h : ∀ c ∈ ds, c.isDigit) (hne : ds ≠ []) (hzero : HasNoLeadingZero ds)
    (hs : EndsRow s) :
    number negative (Utf8.encode ds ++ s) =
      if s.head? = some point then
        fractionPart negative (absorb wordLimit 0 (Utf8.encode ds)).1
          (absorb wordLimit 0 (Utf8.encode ds)).2 s.tail
      else if (absorb wordLimit 0 (Utf8.encode ds)).2 = 0 ∧ !beginsExponent s then
        .ok (wholeNumber negative (absorb wordLimit 0 (Utf8.encode ds)).1, s)
      else afterDigits negative (absorb wordLimit 0 (Utf8.encode ds)).1
        (absorb wordLimit 0 (Utf8.encode ds)).2 s := by
  have hrow := takeWhile_digits h hs
  have hlength := length_encode_digits h
  cases ds with
  | nil => exact absurd rfl hne
  | cons c cs =>
    obtain ⟨hc, _⟩ := List.forall_mem_cons.1 h
    rw [Utf8.encode_cons_of_lt (isDigit_byte hc).1] at hrow hlength ⊢
    have hlead := hzero.not_leads hc
    unfold number
    simp only [List.cons_append] at hrow ⊢
    rw [if_pos (isDigit_byte hc).2.1]
    simp only [hrow, hlength, if_neg hlead]
    have hdrop : List.drop (c :: cs).length (UInt8.ofNat c.toNat :: (Utf8.encode cs ++ s)) = s := by
      rw [← hlength, ← List.cons_append, List.drop_left]
    rw [hdrop]

/-- The digits in front of the point when all of them fit the significand. -/
theorem number_digits (h : ∀ c ∈ ds, c.isDigit) (hne : ds ≠ []) (hzero : HasNoLeadingZero ds)
    (hs : EndsRow s) (hlimit : Nat.ofDigitChars 10 ds 0 < wordLimit) :
    number negative (Utf8.encode ds ++ s) =
      if s.head? = some point then
        fractionPart negative (Nat.ofDigitChars 10 ds 0) 0 s.tail
      else if !beginsExponent s then
        .ok (wholeNumber negative (Nat.ofDigitChars 10 ds 0), s)
      else afterDigits negative (Nat.ofDigitChars 10 ds 0) 0 s := by
  rw [number_row h hne hzero hs, absorb_digits h hlimit]
  simp

/-- The digits behind the point lower the exponent by one each, as far as they fit the
significand. -/
theorem fractionPart_row (h : ∀ c ∈ ds, c.isDigit) (hne : ds ≠ []) (hs : EndsRow s) :
    fractionPart negative significand exponent (Utf8.encode ds ++ s) =
      afterDigits negative (absorb wordLimit significand (Utf8.encode ds)).1
        (exponent - (ds.length - (absorb wordLimit significand (Utf8.encode ds)).2 : ℕ)) s := by
  unfold fractionPart
  simp only [takeWhile_digits h hs, isEmpty_encode_digits h hne, length_encode_digits h,
    drop_encode_digits h, Bool.false_eq_true, if_false]

/-- **The digits behind the point** when all of them fit the significand. -/
theorem fractionPart_digits (h : ∀ c ∈ ds, c.isDigit) (hne : ds ≠ []) (hs : EndsRow s)
    (hlimit : Nat.ofDigitChars 10 ds significand < wordLimit) :
    fractionPart negative significand exponent (Utf8.encode ds ++ s) =
      afterDigits negative (Nat.ofDigitChars 10 ds significand) (exponent - ds.length) s := by
  rw [fractionPart_row h hne hs, absorb_digits h hlimit, Nat.sub_zero]

/-- Without an exponent the value is complete. -/
theorem afterDigits_closes (hs : Closes s) :
    afterDigits negative significand exponent s = float ⟨negative, significand, exponent⟩ s := by
  unfold afterDigits
  rw [if_neg (by simp [hs.head?_ne.2])]

/-- An exponent is read by its sign and the row of its digits. -/
theorem exponentPart_row (h : ∀ c ∈ ds, c.isDigit) (hne : ds ≠ []) (hs : EndsRow s)
    {sign : Option UInt8} (hsign : ∀ b ∈ sign, b = plus ∨ b = minus) :
    exponentPart negative significand exponent (sign.toList ++ (Utf8.encode ds ++ s)) =
      if (absorb exponentLimit 0 (Utf8.encode ds)).2 = 0 then
        float ⟨negative, significand, if sign = some minus
          then exponent - (absorb exponentLimit 0 (Utf8.encode ds)).1
          else exponent + (absorb exponentLimit 0 (Utf8.encode ds)).1⟩ s
      else if significand = 0 ∨ sign = some minus then float ⟨negative, 0, 0⟩ s
      else stop .numberOutOfRange ((Utf8.encode ds ++ s).drop
        (ds.length - (absorb exponentLimit 0 (Utf8.encode ds)).2 + 1)) := by
  have hrow := takeWhile_digits h hs
  have hlength := length_encode_digits h
  have hdrop := drop_encode_digits h s
  obtain ⟨c, cs, rfl⟩ := List.exists_cons_of_ne_nil hne
  obtain ⟨hlt, hdigit, -⟩ := isDigit_byte (h c (List.mem_cons_self ..))
  rw [Utf8.encode_cons_of_lt hlt, List.cons_append] at *
  generalize UInt8.ofNat c.toNat = b at *
  unfold exponentPart
  cases sign with
  | none =>
    have hplus : b ≠ plus := by rintro rfl; cases hdigit
    have hminus : b ≠ minus := by rintro rfl; cases hdigit
    simp only [Option.toList_none, List.nil_append, List.head?_cons, Option.some.injEq, hplus,
      hminus, or_self, if_false, hdigit, if_true, hrow, hlength, hdrop, reduceCtorEq, or_false]
  | some sign =>
    have hsigned : some sign = some plus ∨ some sign = some minus := by
      simpa using hsign sign rfl
    simp only [Option.toList_some, List.singleton_append, List.head?_cons, hsigned, if_true,
      List.tail_cons, hdigit, hrow, hlength, hdrop]

/-- **The exponent,** after its letter and its sign. -/
theorem afterDigits_exponent (h : ∀ c ∈ ds, c.isDigit) (hne : ds ≠ []) (hs : Closes s)
    (hlimit : Nat.ofDigitChars 10 ds 0 < exponentLimit) (below : Bool) :
    afterDigits negative significand exponent
        (lowerE :: (if below then minus else plus) :: (Utf8.encode ds ++ s)) =
      float ⟨negative, significand, if below then exponent - Nat.ofDigitChars 10 ds 0
        else exponent + Nat.ofDigitChars 10 ds 0⟩ s := by
  have hsign : ∀ b ∈ some (if below then minus else plus), b = plus ∨ b = minus := by
    cases below <;> simp
  have hbelow : some (if below then minus else plus) = some minus ↔ below := by
    cases below <;> decide
  have hafter : afterDigits negative significand exponent
      (lowerE :: (if below then minus else plus) :: (Utf8.encode ds ++ s)) =
        exponentPart negative significand exponent
          ((some (if below then minus else plus)).toList ++ (Utf8.encode ds ++ s)) := rfl
  rw [hafter, exponentPart_row h hne hs.endsRow hsign, absorb_digits h hlimit, if_pos rfl]
  simp only [hbelow]

/-- **A number with a point** and without an exponent. -/
theorem number_point (negative : Bool) (ws fs : List Char) (hws : ∀ c ∈ ws, c.isDigit) (hfs : ∀ c ∈ fs, c.isDigit)
    (hws' : ws ≠ []) (hfs' : fs ≠ []) (hzero : HasNoLeadingZero ws) (hs : EndsRow s)
    (hlimit : Nat.ofDigitChars 10 (ws ++ fs) 0 < wordLimit) :
    number negative (Utf8.encode (ws ++ '.' :: fs) ++ s) =
      afterDigits negative (Nat.ofDigitChars 10 (ws ++ fs) 0) (-(fs.length : ℤ)) s := by
  rw [Nat.ofDigitChars_append] at hlimit ⊢
  have hpoint : Utf8.encode (ws ++ '.' :: fs) ++ s =
      Utf8.encode ws ++ (point :: (Utf8.encode fs ++ s)) := by
    rw [Utf8.encode_append, Utf8.encode_cons_of_lt (by decide), List.append_assoc]
    rfl
  have hends : EndsRow (point :: (Utf8.encode fs ++ s)) := by
    intro b hb
    obtain rfl := Option.some.inj hb
    rfl
  rw [hpoint, number_digits hws hws' hzero hends ((le_ofDigitChars fs _).trans_lt hlimit),
    List.head?_cons, if_pos rfl, List.tail_cons, fractionPart_digits hfs hfs' hs hlimit, zero_sub]

/-- **A number with an exponent.** -/
theorem number_exponent (negative : Bool) {es : List Char} {c : Char} (h : ∀ c' ∈ c :: ds, c'.isDigit)
    (hes : ∀ c ∈ es, c.isDigit) (hes' : es ≠ []) (hs : Closes s)
    (hlimit : Nat.ofDigitChars 10 (c :: ds) 0 < wordLimit)
    (hlimit' : Nat.ofDigitChars 10 es 0 < exponentLimit) (below : Bool) :
    number negative (Utf8.encode ((match c :: ds with
        | [] => []
        | [d] => [d]
        | d :: rest => d :: '.' :: rest) ++ 'e' :: (if below then '-' else '+') :: es) ++ s) =
      float ⟨negative, Nat.ofDigitChars 10 (c :: ds) 0,
        if below then -(ds.length : ℤ) - Nat.ofDigitChars 10 es 0
          else -(ds.length : ℤ) + Nat.ofDigitChars 10 es 0⟩ s := by
  have hletter : Utf8.encode ('e' :: (if below then '-' else '+') :: es) ++ s =
      lowerE :: (if below then minus else plus) :: (Utf8.encode es ++ s) := by
    cases below <;> rfl
  have hends : EndsRow (Utf8.encode ('e' :: (if below then '-' else '+') :: es) ++ s) := by
    rw [hletter]
    intro b hb
    obtain rfl := Option.some.inj hb
    rfl
  have hlead : HasNoLeadingZero [c] := by
    intro cs hcs
    exact (List.cons.inj hcs).2.symm
  obtain ⟨hc, hds⟩ := List.forall_mem_cons.1 h
  rw [Utf8.encode_append, List.append_assoc]
  cases ds with
  | nil =>
    have hpoint : (lowerE :: (if below then minus else plus) :: (Utf8.encode es ++ s)).head? ≠
        some point := fun h => absurd (Option.some.inj h) (by decide)
    rw [number_digits h (by simp) hlead hends hlimit, hletter, if_neg hpoint,
      if_neg (by rw [beginsExponent]; simp), afterDigits_exponent hes hes' hs hlimit' below]
    simp
  | cons d ds =>
    have hpoint := number_point negative [c] (d :: ds) (by simpa using hc) hds (by simp) (by simp)
      hlead hends hlimit
    rw [List.singleton_append, List.singleton_append] at hpoint
    rw [hpoint, hletter, afterDigits_exponent hes hes' hs hlimit' below]

end Parts

/-! ## Natural numbers -/

theorem isDigit_digits (n : ℕ) : ∀ c ∈ Decimal.digits n, c.isDigit := fun _ hc =>
  Nat.isDigit_of_mem_toDigits (by decide) (by decide) hc

theorem digits_ne_nil (n : ℕ) : Decimal.digits n ≠ [] := Nat.toDigits_ne_nil

theorem ofDigitChars_digits (n : ℕ) : Nat.ofDigitChars 10 (Decimal.digits n) 0 = n :=
  Nat.ofDigitChars_ten_toDigits

theorem hasNoLeadingZero_digits (n : ℕ) : HasNoLeadingZero (Decimal.digits n) := by
  intro cs h
  rcases Nat.lt_or_ge n 10 with hlt | hge
  · rw [Decimal.digits, Nat.toDigits_of_lt_base hlt] at h
    exact (List.cons.inj h).2.symm
  · have hinit : Decimal.digits n = Decimal.digits (n / 10) ++ [(n % 10).digitChar] :=
      Nat.toDigits_of_base_le (by decide) hge
    obtain ⟨c, front, hfront⟩ := List.exists_cons_of_ne_nil (digits_ne_nil (n / 10))
    rw [hinit, hfront] at h
    obtain ⟨rfl, _⟩ := List.cons.inj h
    -- The leading zero is already one of the tenth part, which would then be zero.
    rw [hasNoLeadingZero_digits (n / 10) front hfront] at hfront
    have hzero := ofDigitChars_digits (n / 10)
    rw [hfront] at hzero
    have : Nat.ofDigitChars 10 ['0'] 0 = 0 := rfl
    omega

/-- What follows a positive number does not give it a leading zero. -/
theorem hasNoLeadingZero_digits_append {n : ℕ} (hn : 0 < n) (ds : List Char) :
    HasNoLeadingZero (Decimal.digits n ++ ds) := by
  intro cs h
  obtain ⟨c, front, hfront⟩ := List.exists_cons_of_ne_nil (digits_ne_nil n)
  rw [hfront] at h
  obtain ⟨rfl, _⟩ := List.cons.inj h
  have hvalue := ofDigitChars_digits n
  rw [hasNoLeadingZero_digits _ front hfront] at hfront
  rw [hfront] at hvalue
  exact absurd hvalue hn.ne

/-- **A natural number that fits 64 bits is read as itself.** -/
theorem number_natural (negative : Bool) {n : ℕ} (hn : n < 2 ^ 64) {s : Bytes} (hs : Closes s) :
    number negative (Utf8.encode (Decimal.digits n) ++ s) =
      .ok (wholeNumber negative n, s) := by
  have hvalue := ofDigitChars_digits n
  rw [number_digits (isDigit_digits n) (digits_ne_nil n) (hasNoLeadingZero_digits n) hs.endsRow
    (by rwa [hvalue]), hvalue, if_neg hs.head?_ne.1, if_pos (by simp [hs.head?_ne.2])]

/-! ## Floating-point numbers -/

section Floats

variable {f : Format}

/-- The decimal as which a finite number is written. -/
def decimalOf (x : Binary f) : Decimal :=
  if x.isZero then ⟨0, 0⟩ else Decimal.shortest f .even x.rank

/-- The literal whose text stands for a finite number in a document.  A whole number that is
written out has one zero behind the point. -/
def literalOf (x : Binary f) : Decimal.Literal :=
  if 0 ≤ (decimalOf x).exponent ∧ (Decimal.Layout.json f).positional (decimalOf x).magnitude then
    ⟨x.negative, (decimalOf x).coefficient * 10 ^ ((decimalOf x).exponent.toNat + 1), -1⟩
  else ⟨x.negative, (decimalOf x).coefficient, (decimalOf x).exponent⟩

/-- The decimal as which a finite double is written. -/
def decimal (x : Double) : Decimal :=
  if x.isZero then ⟨0, 0⟩ else Decimal.shortest .double .even x.rank

/-- The literal whose text stands for a finite double in a document.  A whole number below
`10 ^ 16` is written out, with one zero behind the point. -/
def literal (x : Double) : Decimal.Literal :=
  if 0 ≤ (decimal x).exponent ∧ (decimal x).magnitude ≤ 15 then
    ⟨x.negative, (decimal x).coefficient * 10 ^ ((decimal x).exponent.toNat + 1), -1⟩
  else ⟨x.negative, (decimal x).coefficient, (decimal x).exponent⟩

theorem positional_double (magnitude : ℤ) : (Decimal.Layout.json .double).positional magnitude =
    (decide (-5 ≤ magnitude) && decide (magnitude ≤ 15)) := rfl

/-- For a double the two literals are one: a whole number is not below the digits that are
written out. -/
theorem literalOf_double (x : Double) : literalOf x = literal x := by
  have hlength := Decimal.length_digits_pos (decimal x).coefficient
  have hmagnitude : (decimal x).magnitude =
      (decimal x).exponent + (Decimal.digits (decimal x).coefficient).length - 1 := rfl
  have hcondition : (0 ≤ (decimal x).exponent ∧
      (Decimal.Layout.json .double).positional (decimal x).magnitude) ↔
        0 ≤ (decimal x).exponent ∧ (decimal x).magnitude ≤ 15 := by
    rw [positional_double, Bool.and_eq_true, decide_eq_true_eq, decide_eq_true_eq]
    omega
  exact if_congr hcondition rfl rfl

/-- What the text of a decimal relies on: there is a leading digit unless all is zero, the digits
fit the significand of the reader, and the exponent is far from its limits. -/
structure IsWritable (d : Decimal) : Prop where
  coefficient_pos : 0 < d.coefficient ∨ d.exponent = 0
  coefficient_lt : d.coefficient < 10 ^ 17
  exponent_le : d.exponent.natAbs ≤ 2114

theorem isWritable_decimalOf (hf : f.IsNarrow) {x : Binary f} (hx : x.isFinite) :
    IsWritable (decimalOf x) := by
  unfold decimalOf
  by_cases h0 : x.isZero
  · rw [if_pos h0]
    exact ⟨Or.inr rfl, by decide, by decide⟩
  · rw [if_neg h0]
    have hpos : 0 < x.rank := by
      simp only [Binary.isZero, decide_eq_true_eq] at h0
      omega
    obtain ⟨h1, h2, h3⟩ := Decimal.shortest_bounds .even hf hpos (of_decide_eq_true hx)
    exact ⟨Or.inl h1, h2, h3⟩

/-- The number nearest to the decimal as which a finite number is written is that number. -/
theorem nearest_decimalOf (hf : f.IsNarrow) {x : Binary f} (hx : x.isFinite) :
    f.nearest ((decimalOf x).coefficient * Decimal.gridStep f (decimalOf x).exponent)
      (Decimal.gridScale (decimalOf x).exponent) = x.rank := by
  unfold decimalOf
  by_cases h0 : x.isZero
  · have hrank : x.rank = 0 := of_decide_eq_true h0
    have hzero := Format.nearest_units_mul hf.precision_pos (Nat.zero_le f.infinity)
      (Decimal.gridScale_pos 0)
    rw [Format.units_zero, Nat.zero_mul] at hzero
    rw [if_pos h0, hrank, Nat.zero_mul]
    exact hzero
  · rw [if_neg h0]
    have hpos : 0 < x.rank := Nat.pos_of_ne_zero fun h => h0 (decide_eq_true h)
    exact Decimal.nearest_shortest .even hf hpos (of_decide_eq_true hx)

/-- **What is written is right:** the number nearest to the literal of a finite number is that
number. -/
theorem nearest_literalOf (hf : f.IsNarrow) {x : Binary f} (hx : x.isFinite) :
    f.nearest ((literalOf x).significand * Decimal.gridStep f (literalOf x).exponent)
      (Decimal.gridScale (literalOf x).exponent) = x.rank := by
  rw [← nearest_decimalOf hf hx, literalOf]
  split
  · rename_i h
    have hzeros : (-1 : ℤ) + ((decimalOf x).exponent.toNat + 1 : ℕ) = (decimalOf x).exponent := by
      omega
    rw [Decimal.nearest_mul_pow, hzeros]
  · rfl

/-- **The literal of a whole number** that fits the significand, and that is written out, is made
of its own digits. -/
theorem literalOf_of_isWhole (hf : f.IsNarrow) {x : Binary f} {z : ℤ} {k : ℕ} (hx : x.IsWhole z)
    (hfits : z.natAbs < 2 ^ f.precision) (hk : 0 < k) (hz : z.natAbs < 10 ^ k)
    (hpositional : ∀ m : ℤ, 0 ≤ m → m < k → (Decimal.Layout.json f).positional m) :
    literalOf x = ⟨x.negative, 10 * z.natAbs, -1⟩ := by
  have key : ∃ c e : ℕ, decimalOf x = ⟨c, e⟩ ∧ c * 10 ^ e = z.natAbs := by
    unfold decimalOf
    split
    · rename_i h0
      rw [hx.isZero_iff] at h0
      exact ⟨0, 0, rfl, by rw [h0, Nat.zero_mul]; rfl⟩
    · rename_i h0
      rw [hx.isZero_iff] at h0
      have hdigits : z.natAbs < 10 ^ 17 :=
        (hfits.trans hf.precision_lt).trans (Nat.pow_lt_pow_right (by decide) (by decide))
      exact Decimal.shortest_whole hx.units_eq .even hf.precision_pos (Int.natAbs_pos.2 h0) hfits
        hdigits
  obtain ⟨c, e, hdecimal, hvalue⟩ := key
  have hleading : 0 < c ∨ (e : ℤ) = 0 := by
    have := (isWritable_decimalOf hf hx.isFinite).coefficient_pos
    rwa [hdecimal] at this
  have hlength := Decimal.length_digits_add_le hk (hleading.imp_right Int.ofNat_eq_zero.1)
    (hvalue ▸ hz)
  have hpos := Decimal.length_digits_pos c
  have hmagnitude : (Decimal.mk c e).magnitude = e + (Decimal.digits c).length - 1 := rfl
  have hwritten : (Decimal.Layout.json f).positional (Decimal.mk c e).magnitude :=
    hpositional _ (by omega) (by omega)
  unfold literalOf
  rw [hdecimal, if_pos ⟨Int.natCast_nonneg e, hwritten⟩, Int.toNat_natCast, Nat.pow_succ,
    ← Nat.mul_assoc, hvalue, Nat.mul_comm]

/-- The text of a finite number is that of its decimal behind its sign. -/
theorem chars_eq {x : Binary f} (hx : x.isFinite) :
    Writer.float x = (if x.negative then ['-'] else []) ++
      (Decimal.Layout.json f).digitChars (Decimal.digits (decimalOf x).coefficient)
        (decimalOf x).magnitude := by
  unfold Writer.float Decimal.Layout.chars decimalOf
  rw [Binary.isNaN_of_isFinite hx, Binary.isInfinite_of_isFinite hx]
  by_cases h0 : x.isZero
  · cases hsign : x.negative <;> simp [h0, Decimal.magnitude, Decimal.digits]
  · cases hsign : x.negative <;> simp [h0, Decimal.Layout.json]

/-- A number that is not finite has no text of its own. -/
theorem float_eq_null {x : Binary f} (hx : ¬x.isFinite) : Writer.float x = Writer.null := by
  have hnull : "null".toList = Writer.null := rfl
  unfold Writer.float Decimal.Layout.chars
  split
  · exact hnull
  split
  · cases x.negative <;> exact hnull
  · rename_i hnan hinfinite
    simp only [Binary.isNaN, Binary.isInfinite, Binary.isFinite, decide_eq_true_eq] at *
    omega

/-- Numbers that are written out have their leading digit near the point. -/
theorem magnitude_bounds {magnitude : ℤ} (h : (Decimal.Layout.json f).positional magnitude) :
    -6 ≤ magnitude ∧ magnitude ≤ 15 := by
  unfold Decimal.Layout.json at h
  dsimp only at h
  split at h <;>
  · simp only [Bool.and_eq_true, decide_eq_true_eq] at h
    omega

section Digits

variable {d : Decimal} {s : Bytes}

/-- The number of digits of a decimal that can be written. -/
theorem IsWritable.length_le (hd : IsWritable d) : (Decimal.digits d.coefficient).length ≤ 17 :=
  (Decimal.length_digits_le_iff (by decide)).2 hd.coefficient_lt

theorem isDigit_replicate_zero (k : ℕ) : ∀ c ∈ List.replicate k '0', c.isDigit := by
  intro c hc
  rw [List.eq_of_mem_replicate hc]
  rfl

/-- Digits behind zeros and the point. -/
theorem number_fraction (negative : Bool) (hd : IsWritable d) (hm : d.magnitude < 0)
    (hs : Closes s) :
    number negative (Utf8.encode ((Decimal.Layout.json f).positionalChars
        (Decimal.digits d.coefficient) d.magnitude) ++ s) =
      float ⟨negative, d.coefficient, d.exponent⟩ s := by
  have hlt := hd.coefficient_lt
  have hvalue : Nat.ofDigitChars 10 (['0'] ++ (List.replicate (-d.magnitude - 1).toNat '0' ++
      Decimal.digits d.coefficient)) 0 = d.coefficient := by
    rw [Nat.ofDigitChars_append, Nat.ofDigitChars_append, Nat.ofDigitChars_replicate_zero]
    exact ofDigitChars_digits d.coefficient
  have hdigits : ∀ c ∈ List.replicate (-d.magnitude - 1).toNat '0' ++
      Decimal.digits d.coefficient, c.isDigit :=
    List.forall_mem_append.2 ⟨isDigit_replicate_zero _, isDigit_digits _⟩
  have hpoint := number_point negative ['0'] _ (by simp) hdigits (by simp)
    (by simp [digits_ne_nil]) (fun cs h => (List.cons.inj h).2.symm) hs.endsRow
    (by rw [hvalue, wordLimit]; omega)
  rw [hvalue, afterDigits_closes hs] at hpoint
  unfold Decimal.Layout.positionalChars
  rw [if_pos hm]
  refine hpoint.trans ?_
  congr 2
  rw [List.length_append, List.length_replicate]
  unfold Decimal.magnitude at hm ⊢
  omega

/-- Digits and zeros before the point, and one zero behind it. -/
theorem number_whole (negative : Bool) (hd : IsWritable d) (he : 0 ≤ d.exponent)
    (hm : d.magnitude ≤ 15) (hs : Closes s) :
    number negative (Utf8.encode ((Decimal.Layout.json f).positionalChars
        (Decimal.digits d.coefficient) d.magnitude) ++ s) =
      float ⟨negative, d.coefficient * 10 ^ (d.exponent.toNat + 1), -1⟩ s := by
  have hlength := Decimal.length_digits_pos d.coefficient
  have hmagnitude : d.magnitude.toNat + 1 =
      d.exponent.toNat + (Decimal.digits d.coefficient).length := by
    unfold Decimal.magnitude at hm ⊢
    omega
  have hvalue : Nat.ofDigitChars 10 (Decimal.digits d.coefficient ++
      List.replicate d.exponent.toNat '0' ++ ['0']) 0 =
        d.coefficient * 10 ^ (d.exponent.toNat + 1) := by
    rw [Nat.ofDigitChars_append, Nat.ofDigitChars_append, ofDigitChars_digits,
      Nat.ofDigitChars_replicate_zero, Nat.ofDigitChars_cons, Nat.ofDigitChars_nil, Nat.pow_succ]
    simp only [Nat.sub_self, Nat.add_zero]
    ring
  have hlimit : d.coefficient * 10 ^ (d.exponent.toNat + 1) < wordLimit :=
    (Decimal.mul_pow_lt_of_length (k := 17) (by omega)).trans (by decide)
  have hdigits : ∀ c ∈ Decimal.digits d.coefficient ++ List.replicate d.exponent.toNat '0',
      c.isDigit := List.forall_mem_append.2 ⟨isDigit_digits _, isDigit_replicate_zero _⟩
  have hzero : HasNoLeadingZero
      (Decimal.digits d.coefficient ++ List.replicate d.exponent.toNat '0') := by
    rcases hd.coefficient_pos with hpos | he0
    · exact hasNoLeadingZero_digits_append hpos _
    · rw [he0, Int.toNat_zero, List.replicate_zero, List.append_nil]
      exact hasNoLeadingZero_digits _
  have hpoint := number_point negative _ ['0'] hdigits (by simp) (by simp [digits_ne_nil])
    (by simp) hzero hs.endsRow (by rwa [hvalue])
  rw [hvalue, afterDigits_closes hs] at hpoint
  unfold Decimal.Layout.positionalChars
  rw [if_neg (by unfold Decimal.magnitude; omega), if_pos (by omega), hmagnitude,
    Nat.add_sub_cancel]
  exact hpoint

/-- Digits before the point and behind it. -/
theorem number_split (negative : Bool) (hd : IsWritable d) (he : d.exponent < 0)
    (hm : 0 ≤ d.magnitude) (hs : Closes s) :
    number negative (Utf8.encode ((Decimal.Layout.json f).positionalChars
        (Decimal.digits d.coefficient) d.magnitude) ++ s) =
      float ⟨negative, d.coefficient, d.exponent⟩ s := by
  have hmagnitude : (d.magnitude.toNat + 1 : ℤ) =
      d.exponent + (Decimal.digits d.coefficient).length := by
    unfold Decimal.magnitude at hm ⊢
    omega
  have hlt := hd.coefficient_lt
  unfold Decimal.Layout.positionalChars
  rw [if_neg (by omega)]
  dsimp only
  rw [if_neg (by omega)]
  generalize d.magnitude.toNat = whole at hmagnitude ⊢
  have hall := isDigit_digits d.coefficient
  have hvalue : Nat.ofDigitChars 10 ((Decimal.digits d.coefficient).take (whole + 1) ++
      (Decimal.digits d.coefficient).drop (whole + 1)) 0 = d.coefficient := by
    rw [List.take_append_drop, ofDigitChars_digits]
  have hzero : HasNoLeadingZero ((Decimal.digits d.coefficient).take (whole + 1)) := by
    intro cs h
    obtain ⟨c, front, hfront⟩ := List.exists_cons_of_ne_nil (digits_ne_nil d.coefficient)
    rw [hfront, List.take_succ_cons] at h
    obtain ⟨rfl, rfl⟩ := List.cons.inj h
    rw [hasNoLeadingZero_digits _ front hfront, List.take_nil]
  have hpoint := number_point negative ((Decimal.digits d.coefficient).take (whole + 1))
    ((Decimal.digits d.coefficient).drop (whole + 1))
    (fun c hc => hall c (List.mem_of_mem_take hc)) (fun c hc => hall c (List.mem_of_mem_drop hc))
    (by simp [digits_ne_nil]) (by simp only [ne_eq, List.drop_eq_nil_iff]; omega) hzero hs.endsRow
    (by rw [hvalue, wordLimit]; omega)
  rw [hvalue, afterDigits_closes hs] at hpoint
  refine hpoint.trans ?_
  congr 2
  rw [List.length_drop]
  omega

/-- Digits with the point behind the first one, and an exponent. -/
theorem number_exponential (negative : Bool) (hd : IsWritable d) (hs : Closes s) :
    number negative (Utf8.encode ((Decimal.Layout.json f).exponentialChars
        (Decimal.digits d.coefficient) d.magnitude) ++ s) =
      float ⟨negative, d.coefficient, d.exponent⟩ s := by
  have hlt := hd.coefficient_lt
  have hlength := hd.length_le
  have hexponent := hd.exponent_le
  have hvalue := ofDigitChars_digits d.coefficient
  have hvalue' := ofDigitChars_digits d.magnitude.natAbs
  have hall := isDigit_digits d.coefficient
  have hmagnitude : d.magnitude = d.exponent + (Decimal.digits d.coefficient).length - 1 := rfl
  obtain ⟨c, ds, hds⟩ := List.exists_cons_of_ne_nil (digits_ne_nil d.coefficient)
  rw [hds] at hall hvalue hlength hmagnitude
  rw [List.length_cons] at hlength hmagnitude
  have hparts := number_exponent negative hall (isDigit_digits d.magnitude.natAbs)
    (digits_ne_nil _) hs (by rw [hvalue, wordLimit]; omega)
    (by rw [hvalue', exponentLimit]; omega) (decide (d.magnitude < 0))
  rw [hvalue, hvalue'] at hparts
  have hsign : (if d.magnitude < 0 then ['-']
      else if (Decimal.Layout.json f).signsExponent then ['+'] else []) =
      [if decide (d.magnitude < 0) then '-' else '+'] := by
    by_cases h : d.magnitude < 0 <;> simp [h, Decimal.Layout.json]
  unfold Decimal.Layout.exponentialChars
  dsimp only
  rw [hds, hsign, List.append_assoc, List.cons_append, List.singleton_append]
  refine hparts.trans ?_
  congr 2
  by_cases h : d.magnitude < 0
  · simp only [h, decide_true, if_true]
    omega
  · simp only [h, decide_false, Bool.false_eq_true, if_false]
    omega

/-- **The digits of a decimal are read as its literal,** in every form of its text. -/
theorem number_digitChars (negative : Bool) (hd : IsWritable d) (hs : Closes s) :
    number negative (Utf8.encode ((Decimal.Layout.json f).digitChars
        (Decimal.digits d.coefficient) d.magnitude) ++ s) =
      float (if 0 ≤ d.exponent ∧ (Decimal.Layout.json f).positional d.magnitude then
          ⟨negative, d.coefficient * 10 ^ (d.exponent.toNat + 1), -1⟩
        else ⟨negative, d.coefficient, d.exponent⟩) s := by
  unfold Decimal.Layout.digitChars
  by_cases hpositional : (Decimal.Layout.json f).positional d.magnitude
  · obtain ⟨_, hle⟩ := magnitude_bounds hpositional
    rw [if_pos hpositional]
    by_cases he : 0 ≤ d.exponent
    · rw [if_pos ⟨he, hpositional⟩]
      exact number_whole negative hd he hle hs
    · rw [if_neg (fun h => he h.1)]
      rcases lt_or_ge d.magnitude 0 with hm | hm
      · exact number_fraction negative hd hm hs
      · exact number_split negative hd (not_le.1 he) hm hs
  · rw [if_neg hpositional, if_neg (fun h => hpositional h.2)]
    exact number_exponential negative hd hs

/-- The digits of a decimal begin with a digit. -/
theorem exists_digitChars_eq_cons (d : Decimal) : ∃ c cs, c.isDigit ∧
    (Decimal.Layout.json f).digitChars (Decimal.digits d.coefficient) d.magnitude =
      c :: cs := by
  obtain ⟨c, ds, hds⟩ := List.exists_cons_of_ne_nil (digits_ne_nil d.coefficient)
  have hc : c.isDigit := isDigit_digits d.coefficient c (hds ▸ List.mem_cons_self ..)
  unfold Decimal.Layout.digitChars Decimal.Layout.positionalChars Decimal.Layout.exponentialChars
  rw [hds]
  split
  · split
    · exact ⟨'0', _, rfl, rfl⟩
    · dsimp only
      split
      · exact ⟨c, _, hc, rfl⟩
      · exact ⟨c, _, hc, rfl⟩
  · dsimp only
    split
    · rename_i h
      cases h
    · rename_i h
      obtain ⟨rfl, _⟩ := List.cons.inj h
      exact ⟨c, _, hc, rfl⟩
    · rename_i h
      obtain ⟨rfl, _⟩ := List.cons.inj h
      exact ⟨c, _, hc, rfl⟩

/-- The text of a decimal is short. -/
theorem length_digitChars_le (hd : IsWritable d) : ((Decimal.Layout.json f).digitChars
    (Decimal.digits d.coefficient) d.magnitude).length ≤ 60 := by
  have hlength := hd.length_le
  have hexponent := hd.exponent_le
  have hmagnitude : d.magnitude = d.exponent + (Decimal.digits d.coefficient).length - 1 := rfl
  have hdigits : (Decimal.digits d.magnitude.natAbs).length ≤ 4 :=
    (Decimal.length_digits_le_iff (by decide)).2 (by omega)
  generalize Decimal.digits d.coefficient = ds at *
  unfold Decimal.Layout.digitChars
  split
  · rename_i h
    have hrange := magnitude_bounds h
    unfold Decimal.Layout.positionalChars
    split
    · simp
      omega
    dsimp only
    split
    · simp [Decimal.Layout.json]
      omega
    · simp
      omega
  · unfold Decimal.Layout.exponentialChars
    dsimp only
    rw [List.length_append, List.length_append, List.length_cons]
    have hsign : (if d.magnitude < 0 then ['-']
        else if (Decimal.Layout.json f).signsExponent then ['+'] else []).length = 1 := by
      by_cases h : d.magnitude < 0 <;> simp [h, Decimal.Layout.json]
    rw [hsign]
    split <;> simp_all <;> omega

end Digits

/-- **The text of a floating-point number is short.** -/
theorem length_float_le (hf : f.IsNarrow) (x : Binary f) : (Writer.float x).length ≤ 61 := by
  by_cases hx : x.isFinite
  · have h := length_digitChars_le (f := f) (isWritable_decimalOf hf hx)
    rw [chars_eq hx, List.length_append]
    split <;> simp only [List.length_singleton, List.length_nil] <;> omega
  · rw [float_eq_null hx]
    decide

end Floats

end Json
end SharedBudget
