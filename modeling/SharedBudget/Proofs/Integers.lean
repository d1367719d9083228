/-
# Integers in documents

An integer in plain digits is read as itself or refused, however many digits it has.
It is the value of a parameter if it lies between the bounds of the parameter's type
(`Parameter.meaning_integer`), and a counter of a checkpoint if it fits 64 bits
(`Checkpoint.Form.isSome_value?_iff`, `Checkpoint.Form.counters_of_value?`).  A number
with a fraction or an exponent is none of these, whatever its value.
-/

import SharedBudget.Proofs.Checkpoint.Layouts
import SharedBudget.Proofs.Parameter.Layouts

namespace SharedBudget

open Json

/-! ## Parameters -/

/-- The least and the greatest integer of a type of integers. -/
def DataType.bounds : DataType → Option (ℤ × ℤ)
  | .i32 => some (-2 ^ 31, 2 ^ 31 - 1)
  | .i64 => some (-2 ^ 63, 2 ^ 63 - 1)
  | .u64 => some (0, 2 ^ 64 - 1)
  | _ => none

namespace Parameter

variable {t : DataType} {least greatest : ℤ} {document : Bytes} {n : Numeral}

/-- The value if it is an integer. -/
def integer? : Parameter → Option ℤ
  | .i32 z => some z.toInt
  | .i64 z => some z.toInt
  | .u64 n => some n.toNat
  | _ => none

/-- A type of integers accepts the integers between its bounds, each as the parameter that holds
it. -/
theorem accept_of_bounds (h : t.bounds = some (least, greatest)) :
    ∃ make : ℤ → Parameter,
      accept t = (fun found => make <$> acceptInteger t.name least greatest found) ∧
        ∀ z, least ≤ z ∧ z ≤ greatest → (make z).dataType = t ∧ (make z).integer? = some z := by
  cases t with
  | i32 =>
    obtain ⟨rfl, rfl⟩ := Prod.mk.inj (Option.some.inj h)
    exact ⟨.i32 ∘ Int32.ofInt, rfl, fun z hz =>
      ⟨rfl, congrArg some (Int32.toInt_ofInt_of_le hz.1 (by omega))⟩⟩
  | i64 =>
    obtain ⟨rfl, rfl⟩ := Prod.mk.inj (Option.some.inj h)
    exact ⟨.i64 ∘ Int64.ofInt, rfl, fun z hz =>
      ⟨rfl, congrArg some (Int64.toInt_ofInt_of_le hz.1 (by omega))⟩⟩
  | u64 =>
    obtain ⟨rfl, rfl⟩ := Prod.mk.inj (Option.some.inj h)
    refine ⟨.u64 ∘ UInt64.ofNat ∘ Int.toNat, rfl, fun z hz => ⟨rfl, ?_⟩⟩
    have hword : (UInt64.ofNat z.toNat).toNat = z.toNat :=
      UInt64.toNat_ofNat_of_lt' (by simp only [UInt64.size]; omega)
    simp only [integer?, Function.comp_apply, hword, Int.toNat_of_nonneg hz.1]
  | f32 | f64 | string => cases h

/-- The bounds of a type fit the integers of a document. -/
theorem bounds_le (h : t.bounds = some (least, greatest)) :
    -2 ^ 63 ≤ least ∧ greatest < 2 ^ 64 := by
  cases t with
  | i32 | i64 | u64 =>
    obtain ⟨rfl, rfl⟩ := Prod.mk.inj (Option.some.inj h)
    decide
  | f32 | f64 | string => cases h

/-- **An integer is the value of a parameter or refused.**  With a type of integers, a number means
the parameter that holds the integer for which it stands, if that lies between the bounds. -/
theorem meaning_integer (h : t.bounds = some (least, greatest)) {found : Option Found}
    (hvalue : Value n.text found) :
    (meaning t.name found).map (fun p => (p.dataType, p.integer?)) =
      (n.integer?.filter fun z => least ≤ z ∧ z ≤ greatest).map fun z => (t, some z) := by
  obtain ⟨make, haccept, hmake⟩ := accept_of_bounds h
  obtain ⟨hleast, hgreatest⟩ := bounds_le h
  have hinteger := (n.yields_acceptInteger t.name least greatest hleast hgreatest).map make
  rw [← accepting_map, ← haccept] at hinteger
  have hmeaning : meaning t.name found =
      (n.integer?.filter fun z => least ≤ z ∧ z ≤ greatest).map make := by
    rw [meaning, t.choose_name]
    exact Yields.unique (hvalue.accepted t) hinteger
  rw [hmeaning, Option.map_map]
  refine Option.map_congr fun z hz => ?_
  obtain ⟨-, hrange⟩ := Option.filter_eq_some_iff.1 hz
  obtain ⟨htype, hholds⟩ := hmake z (of_decide_eq_true hrange)
  exact Prod.ext htype hholds

/-- What is read for a number is the integer for which it stands. -/
theorem holds_of_ofJson (h : t.bounds = some (least, greatest))
    (hlayout : IsLayout t.name n.text document) {p : Parameter} (hp : ofJson document = .ok p) :
    p.dataType = t ∧
      ∃ z, n.integer? = some z ∧ (least ≤ z ∧ z ≤ greatest) ∧ p.integer? = some z := by
  obtain ⟨found, hvalue⟩ := exists_value (.number n)
  have hread := toOption_ofJson hvalue hlayout
  rw [hp, Except.toOption] at hread
  have hmeaning := meaning_integer h hvalue
  rw [← hread, Option.map_some] at hmeaning
  obtain ⟨z, hz, heq⟩ := Option.map_eq_some_iff.1 hmeaning.symm
  obtain ⟨hz, hrange⟩ := Option.filter_eq_some_iff.1 hz
  obtain ⟨htype, hholds⟩ := Prod.mk.inj heq
  exact ⟨htype.symm, z, hz, of_decide_eq_true hrange, hholds.symm⟩

/-- A number that stands for an integer between the bounds is read. -/
theorem exists_ofJson (h : t.bounds = some (least, greatest))
    (hlayout : IsLayout t.name n.text document) {z : ℤ} (hz : n.integer? = some z)
    (hrange : least ≤ z ∧ z ≤ greatest) : ∃ p, ofJson document = .ok p := by
  obtain ⟨found, hvalue⟩ := exists_value (.number n)
  have hmeaning := meaning_integer h hvalue
  rw [hz, Option.filter_some, if_pos (decide_eq_true hrange), Option.map_some] at hmeaning
  obtain ⟨p, hp, -⟩ := Option.map_eq_some_iff.1 hmeaning
  exact ⟨p, toOption_eq_some_iff.1 ((toOption_ofJson hvalue hlayout).trans hp)⟩

end Parameter

/-! ## Checkpoints -/

namespace Checkpoint

/-- The counters of a checkpoint: the number of groups, and the length of every blob. -/
def counters (c : Checkpoint) : List ℤ :=
  (c.total :: c.entries.map (·.size)).map fun n => (n.toNat : ℤ)

namespace Form

/-- The numbers that a document gives for the counters. -/
def numerals (c : Form) : List Numeral := c.total :: c.entries.map (·.size)

variable {c : Form} {x : Checkpoint}

theorem value?_eq_some_iff : c.value? = some x ↔ x.version = c.version ∧
    x.createdAt = c.createdAt ∧ c.total.word? = some x.total ∧
      c.entries.mapM Entry.Form.value? = some x.entries := by
  unfold value?
  simp only [bind, Option.bind_eq_some_iff]
  constructor
  · rintro ⟨total, htotal, entries, hentries, hx⟩
    obtain rfl := Option.some.inj hx
    exact ⟨rfl, rfl, htotal, hentries⟩
  · obtain ⟨version, createdAt, total, entries⟩ := x
    rintro ⟨rfl, rfl, htotal, hentries⟩
    exact ⟨total, htotal, entries, hentries, rfl⟩

/-- The fields are those of a checkpoint exactly if all numbers are words of 64 bits. -/
theorem isSome_value?_iff : c.value?.isSome ↔ ∀ n ∈ c.numerals, n.word?.isSome := by
  have hentry (e : Entry.Form) : e.value?.isSome ↔ e.size.word?.isSome := by
    simp [Entry.Form.value?]
  have hentries : (c.entries.mapM Entry.Form.value?).isSome ↔
      ∀ n ∈ c.entries.map (·.size), n.word?.isSome := by
    simp only [isSome_mapM_iff, List.forall_mem_map, hentry]
  rw [numerals, List.forall_mem_cons, ← hentries]
  unfold value?
  cases c.total.word? with
  | none => simp
  | some total => cases c.entries.mapM Entry.Form.value? <;> simp

/-- **The counters are the integers for which the numbers stand.** -/
theorem counters_of_value? (h : c.value? = some x) :
    c.numerals.map Numeral.integer? = x.counters.map some := by
  obtain ⟨-, -, htotal, hentries⟩ := value?_eq_some_iff.1 h
  have hsizes : (c.entries.map fun e => e.size.integer?) =
      x.entries.map fun e => some (e.size.toNat : ℤ) := by
    rw [← List.forall₂_eq_eq_eq, List.forall₂_map_left_iff, List.forall₂_map_right_iff]
    refine (mapM_eq_some_iff.1 hentries).imp fun e y hy => ?_
    obtain ⟨size, hsize, rfl⟩ := Option.map_eq_some_iff.1 hy
    exact Numeral.word?_eq_some_iff.1 hsize
  rw [counters, numerals, List.map_cons, List.map_cons, List.map_cons,
    Numeral.word?_eq_some_iff.1 htotal]
  simp only [List.map_map]
  exact congrArg _ hsizes

end Form

end Checkpoint

/-! ## Exactness -/

/-- **Integers are read exactly or refused.**  A parameter of a type of integers, whose value is
written in plain digits, is read if the integer lies between the bounds of the type, and then it
holds this very integer.  A checkpoint is read if the number of groups and the lengths are integers
of 64 bits, and then it counts as many.  A number with a fraction or an exponent is refused for
all of them, also if its value is an integer. -/
theorem integers_exact_or_refused :
    (∀ t least greatest, DataType.bounds t = some (least, greatest) →
      ∀ z document, Parameter.IsLayout t.name (Numeral.ofInt z).text document →
        ((∃ p, Parameter.ofJson document = .ok p) ↔ least ≤ z ∧ z ≤ greatest) ∧
          ∀ p, Parameter.ofJson document = .ok p → p.dataType = t ∧ p.integer? = some z) ∧
    (∀ c : Checkpoint.Form, ∀ zs, c.numerals = zs.map Numeral.ofInt →
      ∀ document, c.IsLayout document →
        ((∃ x, Checkpoint.ofJson document = .ok x) ↔ ∀ z ∈ zs, 0 ≤ z ∧ z ≤ 2 ^ 64 - 1) ∧
          ∀ x, Checkpoint.ofJson document = .ok x → x.counters = zs) ∧
    ∀ n : Numeral, n.isPlain = false →
      (∀ t, (DataType.bounds t).isSome →
        ∀ document, Parameter.IsLayout t.name n.text document →
          ∃ e, Parameter.ofJson document = .error e) ∧
      ∀ c : Checkpoint.Form, n ∈ c.numerals →
        ∀ document, c.IsLayout document → ∃ e, Checkpoint.ofJson document = .error e := by
  refine ⟨fun t least greatest ht z document hlayout => ?_, fun c zs hc document hlayout => ?_,
    fun n hn => ⟨fun t ht document hlayout => ?_, fun c hc document hlayout => ?_⟩⟩
  · -- The value of a parameter.
    have hholds (p : Parameter) (hp : Parameter.ofJson document = .ok p) :
        p.dataType = t ∧ (least ≤ z ∧ z ≤ greatest) ∧ p.integer? = some z := by
      obtain ⟨htype, y, hy, hrange, hinteger⟩ := Parameter.holds_of_ofJson ht hlayout hp
      obtain rfl : z = y := Option.some.inj ((Numeral.integer?_ofInt z).symm.trans hy)
      exact ⟨htype, hrange, hinteger⟩
    refine ⟨⟨?_, Parameter.exists_ofJson ht hlayout (Numeral.integer?_ofInt z)⟩, fun p hp => ?_⟩
    · rintro ⟨p, hp⟩
      exact (hholds p hp).2.1
    · exact ⟨(hholds p hp).1, (hholds p hp).2.2⟩
  · -- The counters of a checkpoint, all at once.
    have hread : (∃ x, Checkpoint.ofJson document = .ok x) ↔ c.value?.isSome := by
      simp only [hlayout.ofJson_iff, Option.isSome_iff_exists]
    refine ⟨?_, fun x hx => ?_⟩
    · rw [hread, Checkpoint.Form.isSome_value?_iff, hc]
      simp only [List.forall_mem_map, Numeral.isSome_word?_ofInt_iff, Int.le_sub_one_iff]
    · have hcounters := Checkpoint.Form.counters_of_value? ((hlayout.ofJson_iff x).1 hx)
      rw [hc, List.map_map] at hcounters
      have hsome : Numeral.integer? ∘ Numeral.ofInt = some := funext Numeral.integer?_ofInt
      rw [hsome] at hcounters
      exact (List.map_injective_iff.2 (Option.some_injective ℤ) hcounters).symm
  · -- Fractions and exponents, which stand for no integer.
    cases hread : Parameter.ofJson document with
    | error e => exact ⟨e, rfl⟩
    | ok p =>
      obtain ⟨⟨least, greatest⟩, hbounds⟩ := Option.isSome_iff_exists.1 ht
      obtain ⟨-, z, hz, -⟩ := Parameter.holds_of_ofJson hbounds hlayout hread
      rw [Numeral.integer?_of_not_isPlain hn] at hz
      cases hz
  · cases hread : Checkpoint.ofJson document with
    | error e => exact ⟨e, rfl⟩
    | ok x =>
      have hwords := Checkpoint.Form.isSome_value?_iff.1
        (Option.isSome_of_eq_some ((hlayout.ofJson_iff x).1 hread)) n hc
      rw [Numeral.word?_of_not_isPlain hn] at hwords
      cases hwords

/-- The greatest word of 64 bits is read as a parameter and as a number of groups, and the next
integer is not; `1e2` is refused for both. -/
theorem integers_exact_at_the_limit :
    let list (number : List Char) := Utf8.encode (Writer.list [Writer.text "u64", number])
    let groups (n : Numeral) : Checkpoint.Form := ⟨"1.0.0", .epoch, n, []⟩
    ((∃ p, Parameter.ofJson (list (Writer.integer (2 ^ 64 - 1))) = .ok p) ∧
      ¬∃ p, Parameter.ofJson (list (Writer.integer (2 ^ 64))) = .ok p) ∧
    ((∃ x, Checkpoint.ofJson (groups (.ofInt (2 ^ 64 - 1))).encode = .ok x) ∧
      ¬∃ x, Checkpoint.ofJson (groups (.ofInt (2 ^ 64))).encode = .ok x) ∧
    ∃ n : Numeral, n.chars = ['1', 'e', '2'] ∧
      (∃ e, Parameter.ofJson (list n.chars) = .error e) ∧
        ∃ e, Checkpoint.ofJson (groups n).encode = .error e := by
  intro list groups
  obtain ⟨hparameter, hcheckpoint, hrefused⟩ := integers_exact_or_refused
  have hlist (n : Numeral) : Parameter.IsLayout DataType.u64.name n.text (list n.chars) :=
    Parameter.isLayout_list _ (.number n)
  have hread (z : ℤ) := hparameter .u64 _ _ rfl z _ (hlist (.ofInt z))
  simp only [Numeral.chars_ofInt] at hread
  have hgroups (z : ℤ) := hcheckpoint (groups (.ofInt z)) [z] rfl _
    (groups (.ofInt z)).isLayout_encode
  let hundred : Numeral := {
    Numeral.ofInt 1 with exponent := some ⟨false, none, _, ⟨isDigit_digits 2, digits_ne_nil 2⟩⟩ }
  obtain ⟨hparameter, hcheckpoint⟩ := hrefused hundred rfl
  refine ⟨⟨(hread _).1.2 (by omega), fun h => ?_⟩,
    ⟨(hgroups _).1.2 (List.forall_mem_singleton.2 (by omega)), fun h => ?_⟩,
    hundred, rfl, hparameter .u64 rfl _ (hlist hundred), ?_⟩
  · have hrange := (hread _).1.1 h
    omega
  · have hrange := List.forall_mem_singleton.1 ((hgroups _).1.1 h)
    omega
  · exact hcheckpoint (groups hundred) (List.mem_cons_self ..) _ (groups hundred).isLayout_encode

end SharedBudget
