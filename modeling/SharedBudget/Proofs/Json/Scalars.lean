/-
# Scalars read back

A reader *reads* a text as a value if it takes the text off the front and leaves
what follows, whatever may follow a value (`Json.Reads`), and *refuses* it if it
always fails (`Json.Refuses`).  `Json.ReadsAs` is one or the other, by whether
there is a value.  Strings and integers of 64 bits are read as themselves.  A
double is read as what `Json.reread` says: as the double that its literal denotes,
and not at all if it is not finite.  That is the same double if the literal has few
digits (`Json.reread_of_isShort`), as that of a whole number has which is not too
large (`Json.reread_of_isWhole`).  A number of another format is that double,
rounded once more (`Json.recover`).
-/

import SharedBudget.Json.Typed
import SharedBudget.Proofs.Decimal.Literal
import SharedBudget.Proofs.Json.Numbers

namespace SharedBudget
namespace Json

variable {α β : Type} {r : Reader α} {text : List Char} {s rest : Bytes}

/-- The reader takes the text off the front as this value. -/
def Reads (r : Reader α) (text : List Char) (x : α) : Prop :=
  ∀ rest, Closes rest → r (Utf8.encode text ++ rest) = .ok (x, rest)

/-- The reader fails on the text. -/
def Refuses (r : Reader α) (text : List Char) : Prop :=
  ∀ rest, Closes rest → ∃ fault, r (Utf8.encode text ++ rest) = .error fault

/-- What reading comes to: the value that is to be read, if there is one, with the rest behind it,
and a fault if there is none. -/
def Gives (outcome : Except Fault (α × Bytes)) (rest : Bytes) : Option α → Prop
  | some x => outcome = .ok (x, rest)
  | none => ∃ fault, outcome = .error fault

/-- The reader reads the text as this value if there is one, and refuses it if there is none. -/
def ReadsAs (r : Reader α) (text : List Char) (value : Option α) : Prop :=
  ∀ rest, Closes rest → Gives (r (Utf8.encode text ++ rest)) rest value

theorem ReadsAs.reads {x : α} (h : ReadsAs r text (some x)) : Reads r text x := h

theorem ReadsAs.refuses (h : ReadsAs r text none) : Refuses r text := h

theorem Reads.readsAs {x : α} (h : Reads r text x) : ReadsAs r text (some x) := h

theorem Refuses.readsAs (h : Refuses r text) : ReadsAs r text none := h

theorem bind_reader {s s' : Bytes} {x : α} (h : r s = .ok (x, s')) (f : α → Reader β) :
    (r >>= f) s = f x s' := by
  change r s >>= (fun p => f p.1 p.2) = _
  rw [h]
  rfl

theorem bind_reader_error {s : Bytes} {fault : Fault} (h : r s = .error fault) (f : α → Reader β) :
    (r >>= f) s = .error fault := by
  change r s >>= (fun p => f p.1 p.2) = _
  rw [h]
  rfl

theorem map_reader (f : α → β) (r : Reader α) (s : Bytes) :
    (f <$> r) s = (fun p => (f p.1, p.2)) <$> r s := by
  change r s >>= (fun p => .ok (f p.1, p.2)) = _
  cases r s <;> rfl

/-- **What is read in two steps** is read by the second from where the first one stops. -/
theorem Gives.bind {mid : Bytes} {value : Option α} {k : α → Option β} {f : α → Reader β}
    (h : Gives (r s) mid value) (hf : ∀ x, value = some x → Gives (f x mid) rest (k x)) :
    Gives ((r >>= f) s) rest (value.bind k) := by
  cases value with
  | none =>
    obtain ⟨fault, hfault⟩ := h
    exact ⟨fault, bind_reader_error hfault f⟩
  | some x =>
    rw [bind_reader h]
    exact hf x rfl

theorem Gives.map {value : Option α} (h : Gives (r s) rest value) (f : α → β) :
    Gives ((f <$> r) s) rest (value.map f) := by
  rw [map_reader]
  cases value with
  | none =>
    obtain ⟨fault, hfault⟩ := h
    rw [hfault]
    exact ⟨fault, rfl⟩
  | some x =>
    rw [show r s = .ok (x, rest) from h]
    exact rfl

/-- The value that was read is turned into another one. -/
theorem ReadsAs.map {value : Option α} (h : ReadsAs r text value) (f : α → β) :
    ReadsAs (f <$> r) text (value.map f) := fun rest hrest => (h rest hrest).map f

theorem Reads.map {x : α} (h : Reads r text x) (f : α → β) : Reads (f <$> r) text (f x) :=
  h.readsAs.map f

theorem skipBlanks_cons {b : UInt8} (h : isBlank b = false) (s : Bytes) :
    skipBlanks (b :: s) = b :: s := List.dropWhile_cons_of_neg (by simp [h])

/-! ## What was found -/

/-- What is found is accepted or refused. -/
theorem Gives.accepting {found : Option Found} (h : Gives (scalar s) rest found)
    (accept : Found → Except Cause α) :
    Gives (accepting accept s) rest (found.bind fun found => (accept found).toOption) := by
  unfold Json.accepting
  cases found with
  | none =>
    obtain ⟨fault, hfault⟩ := h
    exact ⟨fault, by rw [hfault, error_bind]⟩
  | some found =>
    rw [show scalar s = .ok (found, rest) from h, ok_bind]
    dsimp only [Option.bind_some]
    cases accept found with
    | error cause => exact ⟨_, rfl⟩
    | ok x => exact rfl

theorem ReadsAs.accepting {found : Option Found} (h : ReadsAs scalar text found)
    (accept : Found → Except Cause α) :
    ReadsAs (accepting accept) text (found.bind fun found => (accept found).toOption) :=
  fun rest hrest => (h rest hrest).accepting accept

/-- What is found is accepted. -/
theorem Reads.accepting {found : Found} (h : Reads scalar text found)
    (accept : Found → Except Cause α) {x : α} (hx : accept found = .ok x) :
    Reads (accepting accept) text x := by
  have haccepting := h.readsAs.accepting accept
  rwa [Option.bind_some, hx] at haccepting

/-- What is found is refused. -/
theorem Reads.refuses {found : Found} (h : Reads scalar text found)
    (accept : Found → Except Cause α) {cause : Cause} (hcause : accept found = .error cause) :
    Refuses (Json.accepting accept) text := by
  have haccepting := h.readsAs.accepting accept
  rwa [Option.bind_some, hcause] at haccepting

/-- Nothing is found. -/
theorem Refuses.accepting (h : Refuses scalar text) (accept : Found → Except Cause α) :
    Refuses (accepting accept) text := h.readsAs.accepting accept

/-- What is accepted may be turned into something else before or after. -/
theorem accepting_map (accept : Found → Except Cause α) (f : α → β) :
    accepting (fun found => f <$> accept found) = f <$> accepting accept := by
  funext s
  rw [map_reader]
  unfold accepting
  cases scalar s with
  | error fault => rfl
  | ok x =>
    simp only [ok_bind]
    cases accept x.1 <;> rfl

theorem encode_quoted (cs : List Char) (rest : Bytes) : Utf8.encode (Quoted.json cs) ++ rest =
    quote :: (Utf8.encode (cs.flatMap Quoted.jsonChar) ++ quote :: rest) := by
  rw [Quoted.json, Utf8.encode_append, List.append_assoc, Utf8.encode_cons_of_lt (by decide)]
  rfl

theorem reads_scalar_quoted (cs : List Char) :
    Reads scalar (Quoted.json cs) (.text (String.ofList cs)) := by
  intro rest _
  rw [encode_quoted]
  unfold scalar
  rw [skipBlanks_cons rfl]
  simp only [if_true]
  rw [map_reader, string_quoted]
  rfl

theorem isBlank_of_isDigit {b : UInt8} (h : isDigit b) : isBlank b = false := by
  simp only [isBlank, Bool.or_eq_false_iff, decide_eq_false_iff_not]
  refine ⟨⟨⟨?_, ?_⟩, ?_⟩, ?_⟩ <;>
  · rintro rfl
    cases h

/-- A digit at the place of a value begins a number. -/
theorem scalar_digit {c : Char} (hc : c.isDigit) (cs : List Char) (rest : Bytes) :
    scalar (Utf8.encode (c :: cs) ++ rest) =
      (Number.found <$> number false) (Utf8.encode (c :: cs) ++ rest) := by
  obtain ⟨hlt, hdigit, -⟩ := isDigit_byte hc
  rw [Utf8.encode_cons_of_lt hlt, List.cons_append]
  generalize UInt8.ofNat c.toNat = b at hdigit
  have hquote : b ≠ quote := by rintro rfl; cases hdigit
  have hminus : b ≠ minus := by rintro rfl; cases hdigit
  unfold scalar
  rw [skipBlanks_cons (isBlank_of_isDigit hdigit)]
  simp only [if_neg hquote, if_neg hminus, hdigit, if_true]

/-- A minus sign at the place of a value begins a number. -/
theorem scalar_minus (cs : List Char) (rest : Bytes) :
    scalar (Utf8.encode ('-' :: cs) ++ rest) =
      (Number.found <$> number true) (Utf8.encode cs ++ rest) := by
  rw [Utf8.encode_cons_of_lt (by decide)]
  rfl

theorem scalar_digits (n : ℕ) (rest : Bytes) : scalar (Utf8.encode (Decimal.digits n) ++ rest) =
    (Number.found <$> number false) (Utf8.encode (Decimal.digits n) ++ rest) := by
  obtain ⟨c, cs, hcs⟩ := List.exists_cons_of_ne_nil (digits_ne_nil n)
  rw [hcs, scalar_digit (isDigit_digits n c (hcs ▸ List.mem_cons_self ..))]

theorem reads_scalar_natural {n : ℕ} (hn : n < 2 ^ 64) :
    Reads scalar (Writer.natural n) (.integer n) := by
  intro rest hrest
  rw [Writer.natural, scalar_digits, map_reader, number_natural false hn hrest]
  rfl

/-- **An integer of 64 bits is found as itself,** with a sign or without one. -/
theorem reads_scalar_integer {z : ℤ} (hz : -2 ^ 63 ≤ z) (hz' : z < 2 ^ 64) :
    Reads scalar (Writer.integer z) (.integer z) := by
  intro rest hrest
  unfold Writer.integer
  split
  · rename_i hneg
    have hwhole : wholeNumber true z.natAbs = .integer z := by
      rw [wholeNumber, if_pos rfl, if_neg (by omega)]
      congr 1
      omega
    rw [scalar_minus, map_reader, number_natural true (by omega) hrest, hwhole]
    rfl
  · have hwhole : wholeNumber false z.natAbs = .integer z := by
      rw [wholeNumber, if_neg Bool.false_ne_true]
      congr 1
      omega
    rw [scalar_digits, map_reader, number_natural false (by omega) hrest, hwhole]
    rfl

section Floats

variable {f : Format} {x : Binary f}

/-- **A finite number is looked for in the literal of its text.** -/
theorem scalar_float (hf : f.IsNarrow) (hx : x.isFinite) {rest : Bytes} (hrest : Closes rest) :
    scalar (Utf8.encode (Writer.float x) ++ rest) =
      (Number.found <$> float (literalOf x)) rest := by
  have hd := isWritable_decimalOf hf hx
  obtain ⟨c, cs, hc, hcs⟩ := exists_digitChars_eq_cons (f := f) (decimalOf x)
  have hnumber := number_digitChars (f := f) x.negative hd hrest
  rw [chars_eq hx]
  cases hsign : x.negative with
  | false =>
    rw [hsign] at hnumber
    rw [if_neg Bool.false_ne_true, List.nil_append, hcs, scalar_digit hc, ← hcs, map_reader,
      hnumber, map_reader, literalOf, hsign]
  | true =>
    rw [hsign] at hnumber
    rw [if_pos rfl, List.singleton_append, scalar_minus, map_reader, hnumber, map_reader,
      literalOf, hsign]

/-- A finite number is found as the double that its literal denotes. -/
theorem reads_scalar_float (hf : f.IsNarrow) (hx : x.isFinite) {y : Double}
    (hy : (literalOf x).toDouble = some y) : Reads scalar (Writer.float x) (.float y) := by
  intro rest hrest
  rw [scalar_float hf hx hrest, map_reader, float]
  simp only [hy]
  rfl

/-- A literal out of range is refused. -/
theorem refuses_scalar_float (hf : f.IsNarrow) (hx : x.isFinite)
    (hnone : (literalOf x).toDouble = none) : Refuses scalar (Writer.float x) := by
  intro rest hrest
  rw [scalar_float hf hx hrest, map_reader, float]
  simp only [hnone]
  exact ⟨_, rfl⟩

end Floats

theorem reads_scalar_null : Reads scalar Writer.null .null := fun _ _ => rfl

/-! ## Typed scalars -/

/-- **A string is read as itself.** -/
theorem reads_text (s : String) : Reads Json.text (Writer.text s) s := by
  have h := (reads_scalar_quoted s.toList).accepting acceptText rfl
  rwa [String.ofList_toList] at h

theorem reads_optionalText (s : String) : Reads optionalText (Writer.text s) (some s) := by
  have h := (reads_scalar_quoted s.toList).accepting acceptOptionalText rfl
  rwa [String.ofList_toList] at h

/-- An integer in range is accepted. -/
theorem acceptInteger_eq_ok {expected : String} {least greatest z : ℤ} (h : least ≤ z)
    (h' : z ≤ greatest) : acceptInteger expected least greatest (.integer z) = .ok z :=
  if_pos ⟨h, h'⟩

/-- **A 64-bit number is read as itself.** -/
theorem reads_natural (expected : String) {n : ℕ} (hn : n < 2 ^ 64) :
    Reads (natural expected) (Writer.natural n) n := by
  have haccept : acceptInteger expected 0 (2 ^ 64 - 1) (.integer n) = .ok (n : ℤ) :=
    acceptInteger_eq_ok (by omega) (by omega)
  exact ((reads_scalar_natural hn).accepting _ haccept).map Int.toNat

/-- The powers of ten by which literals are multiplied and divided are finite. -/
theorem isFinite_powerOfTen {e : ℕ} (he : e ≤ Decimal.Literal.largestPower) :
    (Decimal.Literal.powerOfTen e).isFinite ∧ (Decimal.Literal.powerOfTen e).isZero = false := by
  refine ⟨?_, Binary.isZero_ofNat Format.isWide_double (Nat.pow_pos (by decide)).ne'⟩
  rcases Nat.lt_or_eq_of_le he with hlt | rfl
  · have hpow : 10 ^ e * 2 ^ Format.double.scale / 1 < 2 ^ (Format.double.precision + 2042) := by
      have h10 {k : ℕ} (h : e ≤ k) : 10 ^ e ≤ 10 ^ k := Nat.pow_le_pow_right (by decide) h
      rw [Nat.div_one]
      exact (Nat.mul_le_mul_right _ (h10 (Nat.le_of_lt_succ hlt))).trans_lt (by decide +kernel)
    have hnearest := Format.nearest_le_of_lt (by decide) hpow
    have hinfinity : (2042 + 2) * Format.double.binade < Format.double.infinity := by
      decide +kernel
    exact decide_eq_true ((Nat.min_le_left ..).trans_lt (hnearest.trans_lt hinfinity))
  · decide +kernel

theorem isNaN_shrink {x : Double} (hx : x.isNaN = false) (times : ℕ) :
    (Decimal.Literal.shrink times x).isNaN = false := by
  induction times generalizing x with
  | zero => exact hx
  | succ times ih =>
    unfold Decimal.Literal.shrink
    split
    · exact hx
    · obtain ⟨hfinite, hzero⟩ := isFinite_powerOfTen le_rfl
      exact ih (Binary.isNaN_div hx (Binary.isNaN_of_isFinite hfinite)
        (Or.inr (Binary.isInfinite_of_isFinite hfinite)) (Or.inr hzero))

/-- No literal denotes a NaN. -/
theorem isNaN_toDouble {l : Decimal.Literal} {x : Double} (h : l.toDouble = some x) :
    x.isNaN = false := by
  have key {y : Double} (hy : Decimal.Literal.magnitude l.significand l.exponent = some y) :
      y.isNaN = false := by
    unfold Decimal.Literal.magnitude at hy
    split at hy
    · obtain rfl := Option.some.inj hy
      obtain ⟨hfinite, hzero⟩ := isFinite_powerOfTen (e := l.exponent.natAbs -
        (l.exponent.natAbs - 1) / Decimal.Literal.largestPower * Decimal.Literal.largestPower)
        (by unfold Decimal.Literal.largestPower; omega)
      exact Binary.isNaN_div (isNaN_shrink (Binary.isNaN_ofNat _) _)
        (Binary.isNaN_of_isFinite hfinite) (Or.inr (Binary.isInfinite_of_isFinite hfinite))
        (Or.inr hzero)
    split at hy
    · rename_i hle
      obtain ⟨hfinite, hzero⟩ := isFinite_powerOfTen (e := l.exponent.toNat) (by omega)
      have hproduct := Binary.isNaN_mul Format.isWide_double.infinity_pos
        (Binary.isNaN_ofNat l.significand) hfinite hzero
      dsimp only at hy
      split at hy
      · cases hy
      · obtain rfl := Option.some.inj hy
        exact hproduct
    · dsimp only at hy
      split at hy
      · obtain rfl := Option.some.inj hy
        exact Binary.isNaN_ofNat _
      · cases hy
  obtain ⟨y, hy, rfl⟩ := Option.map_eq_some_iff.1 h
  split
  · exact (key hy : y.isNaN = false)
  · exact key hy

/-- What a double is read as from a document: the double that its literal denotes, and nothing
if it is not finite, or if its literal is out of range. -/
def reread (x : Double) : Option Double := if x.isFinite then (literal x).toDouble else none

/-- No double is read as a NaN. -/
theorem isNaN_reread {x y : Double} (h : reread x = some y) : y.isNaN = false := by
  unfold reread at h
  split at h
  · exact isNaN_toDouble h
  · cases h

/-- **A double whose literal is short comes back as itself:** the literal is rounded once, and the
nearest double to it is the one that was written. -/
theorem reread_of_isShort {x : Double} (hx : x.isFinite) (h : (literal x).IsShort) :
    reread x = some x := by
  have hnearest := nearest_literalOf Format.isNarrow_double hx
  rw [literalOf_double] at hnearest
  have hsign : x.negative = (literal x).negative := by
    unfold literal
    split <;> rfl
  rw [reread, if_pos hx]
  exact Decimal.Literal.toDouble_of_isShort h hx hsign hnearest

/-- **A whole number comes back as itself** while ten times of it fits the significand: its
literal has one zero behind the point, and the reader divides by ten. -/
theorem reread_of_isWhole {x : Double} {z : ℤ} (hx : x.IsWhole z)
    (hz : 10 * z.natAbs < 2 ^ Format.double.precision) : reread x = some x := by
  have hpositional (m : ℤ) (h : 0 ≤ m) (h' : m < (16 : ℕ)) :
      (Decimal.Layout.json .double).positional m := by
    rw [positional_double, decide_eq_true (by omega), decide_eq_true (by omega)]
    rfl
  have hbound : 2 ^ Format.double.precision < 10 ^ 16 := by decide
  have hliteral := literalOf_of_isWhole Format.isNarrow_double hx (by omega) (by decide) (by omega)
    hpositional
  rw [literalOf_double] at hliteral
  exact reread_of_isShort hx.isFinite (hliteral ▸ ⟨hz, show (-1 : ℤ).natAbs ≤ 22 by decide⟩)

/-! ## Numbers of any format -/

section Recover

variable {f : Format}

/-- What a number is read as from a document: the double that its literal denotes, rounded to its
format, and nothing if it is not finite, or if its literal is out of range. -/
def recover (x : Binary f) : Option (Binary f) :=
  if x.isFinite then (literalOf x).toDouble.map (·.convert f) else none

/-- A double that was read is not rounded again. -/
theorem recover_double (x : Double) : recover x = reread x := by
  unfold recover reread
  rw [literalOf_double]
  split
  · cases h : (literal x).toDouble with
    | none => rfl
    | some y => exact congrArg some (Binary.convert_self (by decide) (isNaN_toDouble h))
  · rfl

/-- A whole number is converted from its absolute value in another format. -/
theorem convert_of_isWhole (hf : f.IsNarrow) {g : Format} {x : Binary f} {y : Binary g} {z : ℤ}
    (hx : x.IsWhole z) (hy : y.IsWhole z.natAbs) :
    Binary.convert f { y with negative := x.negative } = x := by
  have hfinite : Binary.isFinite { y with negative := x.negative } := hy.isFinite
  have hunits : Binary.units { y with negative := x.negative } * 2 ^ f.scale =
      x.units * 2 ^ g.scale := by
    change y.units * 2 ^ f.scale = _
    rw [hx.units_eq, hy.units_eq, Nat.mul_right_comm]
    rfl
  unfold Binary.convert
  rw [Binary.isNaN_of_isFinite hfinite, Binary.isInfinite_of_isFinite hfinite, hunits]
  exact Binary.ofUnits_units hf.precision_pos (Binary.isNaN_of_isFinite hx.isFinite)
    (Nat.two_pow_pos _)

/-- **A whole number comes back as itself** while ten times of it fits the significand of a
double: its literal has one zero behind the point, and the reader divides by ten. -/
theorem recover_of_isWhole (hf : f.IsNarrow) {x : Binary f} {z : ℤ} {k : ℕ} (hx : x.IsWhole z)
    (hfits : z.natAbs < 2 ^ f.precision) (hk : 0 < k) (hz : z.natAbs < 10 ^ k)
    (hpositional : ∀ m : ℤ, 0 ≤ m → m < k → (Decimal.Layout.json f).positional m)
    (hten : 10 * z.natAbs < 2 ^ Format.double.precision) : recover x = some x := by
  have hliteral := literalOf_of_isWhole hf hx hfits hk hz hpositional
  have hwhole : (Binary.ofNat .double z.natAbs).IsWhole z.natAbs :=
    Binary.isWhole_ofNat Format.isWide_double (by omega)
  have hunits := hwhole.units_eq
  rw [Int.natAbs_natCast] at hunits
  have hnearest : Format.double.nearest (10 * z.natAbs * Decimal.gridStep .double (-1))
      (Decimal.gridScale (-1)) = (Binary.ofNat .double z.natAbs).rank := by
    have hzero := Decimal.nearest_mul_pow (f := .double) z.natAbs (-1) 1
    rw [Nat.pow_one, Nat.mul_comm z.natAbs, Nat.cast_one, neg_add_cancel, Decimal.gridScale_zero,
      Decimal.gridStep_zero] at hzero
    have hone := Format.nearest_units_mul (f := .double) (by decide)
      (of_decide_eq_true hwhole.isFinite).le Nat.one_pos
    rw [Nat.mul_one, ← Binary.units, hunits] at hone
    exact hzero.trans hone
  have hdouble : (literalOf x).toDouble =
      some { Binary.ofNat .double z.natAbs with negative := x.negative } := by
    rw [hliteral]
    exact Decimal.Literal.toDouble_of_isShort ⟨hten, show (-1 : ℤ).natAbs ≤ 22 by decide⟩
      hwhole.isFinite rfl hnearest
  unfold recover
  rw [if_pos hx.isFinite, hdouble, Option.map_some, convert_of_isWhole hf hx hwhole]

/-- **A number is read as what its literal denotes,** rounded to its format. -/
theorem readsAs_float (hf : f.IsNarrow) (expected : String) (x : Binary f) :
    ReadsAs (accepting (acceptFloat expected f)) (Writer.float x) (recover x) := by
  unfold recover
  split
  · rename_i hx
    cases h : (literalOf x).toDouble with
    | none => exact (refuses_scalar_float hf hx h).accepting _
    | some y => exact (reads_scalar_float hf hx h).accepting _ rfl
  · rename_i hx
    rw [float_eq_null hx]
    exact reads_scalar_null.refuses _ rfl

end Recover

/-- **A double is read as what its literal denotes.** -/
theorem readsAs_double (x : Double) : ReadsAs double (Writer.float x) (reread x) := by
  rw [← recover_double]
  exact readsAs_float Format.isNarrow_double "f64" x

end Json
end SharedBudget
