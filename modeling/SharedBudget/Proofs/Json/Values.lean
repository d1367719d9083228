/-
# Whatever is a value

Whatever is a value by the grammar is skipped whole, to any depth and in any
surroundings (`Json.IsValue.yields_skip`).  The induction is on the grammar, and the
length of the text is fuel enough for it.  A value that is read is a scalar, which is
found as one thing, or the beginning of a container (`Json.IsValue.scalar_or_container`).
-/

import SharedBudget.Proofs.Json.Extension
import SharedBudget.Proofs.Json.Yielding

namespace SharedBudget
namespace Json

variable {text rest w : Bytes} {texts values : List Bytes} {first : Bool}

/-! ## How values begin -/

/-- The text begins with a byte that is neither a blank nor the end of a list. -/
def Starts (text : Bytes) : Prop := ∃ b s, text = b :: s ∧ isBlank b = false ∧ b ≠ closeList

theorem starts_quoted (content : Bytes) : Starts (quoted content) :=
  ⟨quote, _, rfl, by decide, by decide⟩

theorem IsString.starts {cs : List Char} (h : IsString cs text) : Starts text := by
  obtain ⟨content, -, rfl⟩ := h
  exact starts_quoted content

theorem IsOptionalString.starts {s : Option String} (h : IsOptionalString s text) :
    Starts text := by
  cases s with
  | none => exact ⟨lowerN, nullTail, h, by decide, by decide⟩
  | some s => exact IsString.starts h

theorem IsList.starts (h : IsList texts text) : Starts text := by
  obtain ⟨inside, -, rfl⟩ := h
  exact ⟨openList, _, rfl, by decide, by decide⟩

theorem IsObject.starts (h : IsObject texts text) : Starts text := by
  obtain ⟨inside, -, rfl⟩ := h
  exact ⟨openObject, _, rfl, by decide, by decide⟩

theorem Numeral.starts (n : Numeral) : Starts n.text := by
  unfold Numeral.text Numeral.chars
  cases n.negative with
  | true => exact ⟨minus, _, Utf8.encode_cons_of_lt (by decide) _, by decide, by decide⟩
  | false =>
    obtain ⟨c, cs, hcs, hc⟩ := n.exists_unsignedChars
    obtain ⟨hlt, hdigit, -⟩ := isDigit_byte hc
    rw [if_neg Bool.false_ne_true, hcs]
    refine ⟨_, _, Utf8.encode_cons_of_lt hlt _, ?_, ?_⟩
    · exact isBlank_of_isDigit hdigit
    · rintro h
      rw [h] at hdigit
      cases hdigit

theorem IsValue.starts (h : IsValue text) : Starts text := by
  cases h with
  | null => exact ⟨_, _, rfl, by decide, by decide⟩
  | trueWord => exact ⟨_, _, rfl, by decide, by decide⟩
  | falseWord => exact ⟨_, _, rfl, by decide, by decide⟩
  | number n => exact n.starts
  | string h => exact starts_quoted _
  | list h _ => exact h.starts
  | object h _ _ => exact h.starts

/-! ## What is between values -/

/-- What follows an item ends it. -/
theorem Items.ends (h : Items false texts text) (hrest : Ends rest) : Ends (text ++ rest) := by
  cases h with
  | nil hw => exact hrest.append_blank hw
  | next hw _ _ =>
    rw [List.append_assoc]
    exact Ends.append_blank (.of_closes (closes_comma _)) hw

/-- Every text but the first one has its comma. -/
theorem Items.length_le (h : Items first texts text) :
    texts.length ≤ text.length + first.toNat := by
  induction h with
  | nil _ => exact Nat.zero_le _
  | first _ _ ih | next _ _ _ ih =>
    simp only [List.length_append, List.length_cons, Bool.toNat_true, Bool.toNat_false] at ih ⊢
    omega

theorem Items.length_le_of_mem (h : Items first texts text) :
    ∀ x ∈ texts, x.length ≤ text.length := by
  induction h with
  | nil _ => exact nofun
  | first _ _ ih | next _ _ _ ih =>
    refine List.forall_mem_cons.2 ⟨?_, fun x hx => ?_⟩
    · simp only [List.length_append, List.length_cons]
      omega
    · have := ih x hx
      simp only [List.length_append, List.length_cons]
      omega

/-- The colon between a name and its value. -/
theorem separator_blank (hw : AreBlank w) (s : Bytes) :
    separator (w ++ colon :: s) = .ok ((), s) := by
  unfold separator
  rw [skipBlanks_append_blank hw, skipBlanks_cons (by decide)]
  rfl

theorem exists_mem_of_forall₂ {α β : Type} {R : α → β → Prop} {xs : List α} {ys : List β}
    (h : List.Forall₂ R xs ys) : ∀ x ∈ xs, ∃ y ∈ ys, R x y := by
  induction h with
  | nil => exact nofun
  | cons hxy _ ih =>
    refine List.forall_mem_cons.2 ⟨⟨_, List.mem_cons_self .., hxy⟩, fun x hx => ?_⟩
    obtain ⟨y, hy, hR⟩ := ih x hx
    exact ⟨y, List.mem_cons_of_mem _ hy, hR⟩

/-- The values in an object take no more bytes than it has. -/
theorem IsMember.length_le {isKey : Bytes → Prop}
    (hmembers : List.Forall₂ (IsMember isKey) values texts) (h : Items first texts text) :
    ∀ v ∈ values, v.length ≤ text.length := by
  intro v hv
  obtain ⟨x, hx, hmember⟩ := exists_mem_of_forall₂ hmembers v hv
  have hle := h.length_le_of_mem x hx
  obtain ⟨key, w₁, w₂, -, -, -, rfl⟩ := hmember
  simp only [List.length_cons, List.length_append] at hle
  omega

/-! ## Skipping -/

section Skipping

variable {item value : Reader Unit} {x v : Bytes} {fuel : ℕ}

/-- The items from the beginning of one on are skipped, up to the closing bracket. -/
theorem Items.skipItems (h : Items false texts text) (hx : Yields item x (some ()))
    (hitems : ∀ y ∈ texts, Yields item y (some ())) (hfuel : texts.length < fuel)
    (hw : AreBlank w) (rest : Bytes) :
    Json.skipItems item fuel (w ++ (x ++ (text ++ closeList :: rest))) = .ok ((), rest) := by
  induction texts generalizing text x w fuel with
  | nil =>
    obtain ⟨fuel, rfl⟩ := Nat.exists_eq_add_one_of_ne_zero (Nat.ne_zero_of_lt hfuel)
    have hends := h.ends (.of_closes (closes_closeList rest))
    cases h with
    | nil hw' =>
      rw [skipItems_succ, bind_reader (hx w _ hw hends), skipBlanks_append_blank hw',
        skipBlanks_cons (by decide)]
      rfl
  | cons y texts ih =>
    obtain ⟨fuel, rfl⟩ := Nat.exists_eq_add_one_of_ne_zero (Nat.ne_zero_of_lt hfuel)
    have hends := h.ends (.of_closes (closes_closeList rest))
    cases h with
    | @next w₁ w₂ _ t _ hw₁ hw₂ h =>
      obtain ⟨hy, hitems⟩ := List.forall_mem_cons.1 hitems
      rw [skipItems_succ, bind_reader (hx w _ hw hends), List.append_assoc,
        skipBlanks_append_blank hw₁, List.cons_append, skipBlanks_cons (by decide)]
      simp only [List.append_assoc]
      exact ih h hy hitems (Nat.lt_of_succ_lt_succ hfuel) hw₂

/-- A member is skipped like its value. -/
theorem IsMember.skipMembers_succ (h : IsMember IsContent v x) (hv : Yields value v (some ()))
    (hw : AreBlank w) (hrest : Ends rest) :
    skipMembers value (fuel + 1) (w ++ (x ++ rest)) =
      match skipBlanks rest with
      | [] => stop .endOfObject []
      | b :: rest =>
        if b = closeObject then .ok ((), rest)
        else if b = comma then skipMembers value fuel rest
        else stopAt .expectedObjectSeparator (b :: rest) := by
  obtain ⟨key, w₁, w₂, hkey, hw₁, hw₂, rfl⟩ := h
  rw [Json.skipMembers_succ]
  dsimp only
  rw [skipBlanks_append_blank hw, List.cons_append, skipBlanks_cons (by decide)]
  simp only [List.append_assoc, List.cons_append, if_true]
  rw [bind_reader (hkey.skipString _), bind_reader (separator_blank hw₁ _)]
  exact bind_reader (hv w₂ rest hw₂ hrest) _

/-- The members from the beginning of one on are skipped, up to the closing brace. -/
theorem Items.skipMembers (h : Items false texts text) (hx : IsMember IsContent v x)
    (hmembers : List.Forall₂ (IsMember IsContent) values texts) (hv : Yields value v (some ()))
    (hvalues : ∀ v ∈ values, Yields value v (some ())) (hfuel : texts.length < fuel)
    (hw : AreBlank w) (rest : Bytes) :
    Json.skipMembers value fuel (w ++ (x ++ (text ++ closeObject :: rest))) = .ok ((), rest) := by
  induction hmembers generalizing text x v w fuel with
  | nil =>
    obtain ⟨fuel, rfl⟩ := Nat.exists_eq_add_one_of_ne_zero (Nat.ne_zero_of_lt hfuel)
    rw [hx.skipMembers_succ hv hw (h.ends (.of_closes (closes_closeObject rest)))]
    cases h with
    | nil hw' =>
      rw [skipBlanks_append_blank hw', skipBlanks_cons (by decide)]
      rfl
  | @cons v' x' values texts hx' _ ih =>
    obtain ⟨fuel, rfl⟩ := Nat.exists_eq_add_one_of_ne_zero (Nat.ne_zero_of_lt hfuel)
    obtain ⟨hv', hvalues⟩ := List.forall_mem_cons.1 hvalues
    rw [hx.skipMembers_succ hv hw (h.ends (.of_closes (closes_closeObject rest)))]
    cases h with
    | next hw₁ hw₂ h =>
      rw [List.append_assoc, skipBlanks_append_blank hw₁, List.cons_append,
        skipBlanks_cons (by decide)]
      simp only [List.append_assoc]
      exact ih h hx' hv' hvalues (Nat.lt_of_succ_lt_succ hfuel) hw₂

/-- A list is skipped if its items are. -/
theorem IsList.skipList {inside : Bytes} (h : Items true texts inside)
    (hstarts : ∀ x ∈ texts, Starts x) (hitems : ∀ x ∈ texts, Yields item x (some ())) (fuel : ℕ)
    (hfuel : texts.length ≤ fuel) (rest : Bytes) :
    skipList (skipItems item fuel) (inside ++ closeList :: rest) = .ok ((), rest) := by
  unfold Json.skipList
  cases h with
  | nil hw =>
    rw [skipBlanks_append_blank hw, skipBlanks_cons (by decide)]
    rfl
  | @first w x t texts hw h =>
    obtain ⟨hx, hmore⟩ := List.forall_mem_cons.1 hitems
    obtain ⟨b, front, rfl, hblank, hne⟩ := hstarts x (List.mem_cons_self ..)
    rw [List.append_assoc, skipBlanks_append_blank hw, List.append_assoc, List.cons_append,
      skipBlanks_cons hblank]
    simp only [if_neg hne]
    exact h.skipItems (w := []) hx hmore hfuel areBlank_nil rest

/-- An object is skipped if the values of its members are. -/
theorem IsObject.skipObject {inside : Bytes} (h : Items true texts inside)
    (hmembers : List.Forall₂ (IsMember IsContent) values texts)
    (hvalues : ∀ v ∈ values, Yields value v (some ())) (fuel : ℕ) (hfuel : texts.length ≤ fuel)
    (rest : Bytes) :
    skipObject (skipMembers value fuel) (inside ++ closeObject :: rest) = .ok ((), rest) := by
  unfold Json.skipObject
  cases h with
  | nil hw =>
    rw [skipBlanks_append_blank hw, skipBlanks_cons (by decide)]
    rfl
  | @first w x t texts hw h =>
    obtain ⟨v, values, hx, hmore, rfl⟩ := List.forall₂_cons_right_iff.1 hmembers
    obtain ⟨hv, hmorev⟩ := List.forall_mem_cons.1 hvalues
    have hskip := h.skipMembers (w := []) hx hmore hv hmorev hfuel areBlank_nil rest
    obtain ⟨key, w₁, w₂, -, -, -, rfl⟩ := hx
    rw [List.append_assoc, skipBlanks_append_blank hw, List.append_assoc, List.cons_append,
      skipBlanks_cons (by decide)]
    exact hskip

end Skipping

/-! ## Skipping numbers -/

namespace Numeral

theorem dropWhile_digits {ds : List Char} (h : IsRow ds) (hrest : EndsRow rest) :
    (Utf8.encode ds ++ rest).dropWhile isDigit = rest := by
  rw [← drop_row, takeWhile_digits h.isDigit hrest, List.drop_left]

theorem skipExponent_digits (e : Exponent) (hrest : EndsRow rest) :
    skipExponent (Utf8.encode (e.signChars ++ e.digits) ++ rest) = .ok ((), rest) := by
  obtain ⟨upper, sign, ds, hds⟩ := e
  have hdrop := dropWhile_digits hds hrest
  obtain ⟨c, cs, rfl⟩ := List.exists_cons_of_ne_nil hds.ne_nil
  obtain ⟨hlt, hdigit, -⟩ := isDigit_byte (hds.isDigit c (List.mem_cons_self ..))
  rw [Utf8.encode_append, List.append_assoc]
  dsimp only
  rw [Utf8.encode_cons_of_lt hlt, List.cons_append] at hdrop ⊢
  generalize UInt8.ofNat c.toNat = b at *
  have hplus : b ≠ plus := by rintro rfl; cases hdigit
  have hminus : b ≠ minus := by rintro rfl; cases hdigit
  rw [List.dropWhile_cons_of_pos hdigit] at hdrop
  have htail (s : Bytes) (hs : (if s.head? = some plus ∨ s.head? = some minus then s.tail else s) =
      b :: (Utf8.encode cs ++ rest)) : skipExponent s = .ok ((), rest) := by
    unfold skipExponent
    rw [hs]
    simp only [hdigit, if_true, hdrop]
  rcases sign with _ | _ | _
  · exact htail _ (by simp [Exponent.signChars, hplus, hminus])
  · exact htail _ rfl
  · exact htail _ rfl

theorem skipAfterDigits_exponent (e : Option Exponent) (hrest : Ends rest) :
    skipAfterDigits (Utf8.encode (exponentChars e) ++ rest) = .ok ((), rest) := by
  cases e with
  | none =>
    change skipAfterDigits rest = _
    unfold skipAfterDigits
    rw [hrest.head?_ne.2, if_neg Bool.false_ne_true]
  | some e =>
    have hletter : skipAfterDigits (Utf8.encode (exponentChars (some e)) ++ rest) =
        skipExponent (Utf8.encode (e.signChars ++ e.digits) ++ rest) := by
      rw [encode_exponentChars]
      cases e.upper <;> rfl
    rw [hletter, skipExponent_digits e hrest.endsRow]

/-- The digits in front of the point are skipped. -/
theorem skipNumber_row {ds : List Char} {s : Bytes} (h : IsRow ds) (hzero : HasNoLeadingZero ds)
    (hs : EndsRow s) : skipNumber (Utf8.encode ds ++ s) =
      if s.head? = some point then
        if (s.tail.takeWhile isDigit).isEmpty then stopAt .invalidNumber s.tail
        else skipAfterDigits (s.tail.dropWhile isDigit)
      else skipAfterDigits s := by
  have htake := takeWhile_digits h.isDigit hs
  have hlength := length_encode_digits h.isDigit
  have hdrop := drop_encode_digits h.isDigit s
  obtain ⟨c, cs, rfl⟩ := List.exists_cons_of_ne_nil h.ne_nil
  have hc := h.isDigit c (List.mem_cons_self ..)
  rw [Utf8.encode_cons_of_lt (isDigit_byte hc).1] at *
  unfold skipNumber
  simp only [List.cons_append] at *
  simp only [htake, hlength, if_pos (isDigit_byte hc).2.1, if_neg (hzero.not_leads hc), hdrop]

/-- **A number is skipped whole,** whatever its size. -/
theorem skipNumber_unsigned (n : Numeral) (hrest : Ends rest) :
    skipNumber (Utf8.encode n.unsignedChars ++ rest) = .ok ((), rest) := by
  have hends := endsRow_exponentChars n.exponent hrest
  have hskip := skipAfterDigits_exponent n.exponent hrest
  rw [encode_unsignedChars]
  cases hfraction : n.fraction with
  | none =>
    exact (skipNumber_row n.isRow_whole n.hasNoLeadingZero hends).trans
      ((if_neg (head?_exponentChars_ne n.exponent hrest)).trans hskip)
  | some ds =>
    have hds := n.isRow_fraction ds hfraction
    rw [encode_fractionChars, skipNumber_row n.isRow_whole n.hasNoLeadingZero
      (fun b hb => by obtain rfl := Option.some.inj hb; rfl), List.head?_cons, if_pos rfl,
      List.tail_cons, takeWhile_digits hds.isDigit hends,
      isEmpty_encode_digits hds.isDigit hds.ne_nil, if_neg Bool.false_ne_true,
      dropWhile_digits hds hends, hskip]

theorem skipValue_text (n : Numeral) (hrest : Ends rest) (fuel : ℕ) :
    skipValue (fuel + 1) (n.text ++ rest) = .ok ((), rest) := by
  have hskip := n.skipNumber_unsigned hrest
  unfold text chars
  cases n.negative with
  | true =>
    rw [if_pos rfl, Utf8.encode_cons_of_lt (by decide)]
    exact hskip
  | false =>
    obtain ⟨c, cs, hcs, hc⟩ := n.exists_unsignedChars
    obtain ⟨hlt, hdigit, -⟩ := isDigit_byte hc
    rw [hcs, Utf8.encode_cons_of_lt hlt, List.cons_append] at hskip
    rw [if_neg Bool.false_ne_true, hcs, Utf8.encode_cons_of_lt hlt, List.cons_append]
    generalize UInt8.ofNat c.toNat = b at *
    have hquote : b ≠ quote := by rintro rfl; cases hdigit
    have hminus : b ≠ minus := by rintro rfl; cases hdigit
    unfold skipValue
    rw [skipBlanks_cons (isBlank_of_isDigit hdigit)]
    simp only [if_neg hquote, if_neg hminus, hdigit, if_true]
    exact hskip

end Numeral

/-! ## Values -/

/-- A value is skipped with fuel for every byte. -/
theorem IsValue.yields_skipValue (h : IsValue text) {fuel : ℕ} (hfuel : text.length ≤ fuel) :
    Yields (skipValue (fuel + 1)) text (some ()) := by
  refine .of_ignoresBlanks (ignoresBlanks_skipValue fuel) fun rest hrest => ?_
  -- A container costs one unit of fuel and has two brackets, so what is left is enough for
  -- whatever is in it.
  induction h generalizing fuel rest with
  | null => exact rfl
  | trueWord => exact rfl
  | falseWord => exact rfl
  | number n => exact n.skipValue_text hrest fuel
  | @string content h =>
    have hskip := h.skipString rest
    rw [quoted, List.cons_append, List.append_assoc]
    exact hskip
  | @list texts text h hvalues ih =>
    obtain ⟨inside, hinside, rfl⟩ := h
    simp only [List.length_cons, List.length_append] at hfuel
    obtain ⟨fuel, rfl⟩ := Nat.exists_eq_add_one_of_ne_zero (n := fuel) (by omega)
    have hitems : ∀ x ∈ texts, Yields (skipValue (fuel + 1)) x (some ()) := fun x hx =>
      .of_ignoresBlanks (ignoresBlanks_skipValue fuel) fun rest hrest =>
        ih x hx (by have := hinside.length_le_of_mem x hx; omega) rest hrest
    have hskip := IsList.skipList hinside (fun x hx => (hvalues x hx).starts) hitems
      (fuel + 1 + 1) (by have := hinside.length_le; rw [Bool.toNat_true] at this; omega) rest
    rw [List.cons_append, List.append_assoc]
    exact hskip
  | @object values texts text h hmembers _ ih =>
    obtain ⟨inside, hinside, rfl⟩ := h
    simp only [List.length_cons, List.length_append] at hfuel
    obtain ⟨fuel, rfl⟩ := Nat.exists_eq_add_one_of_ne_zero (n := fuel) (by omega)
    have hvalues : ∀ v ∈ values, Yields (skipValue (fuel + 1)) v (some ()) := fun v hv =>
      .of_ignoresBlanks (ignoresBlanks_skipValue fuel) fun rest hrest =>
        ih v hv (by have := IsMember.length_le hmembers hinside v hv; omega) rest hrest
    have hskip := IsObject.skipObject hinside hmembers hvalues
      (fuel + 1 + 1) (by have := hinside.length_le; rw [Bool.toNat_true] at this; omega) rest
    rw [List.cons_append, List.append_assoc]
    exact hskip

/-- **Whatever is a value is skipped whole,** nested to any depth. -/
theorem IsValue.yields_skip (h : IsValue text) : Yields skip text (some ()) := by
  intro w rest hw hrest
  refine h.yields_skipValue ?_ w rest hw hrest
  simp only [List.length_append]
  omega

/-- What was found is the beginning of a container. -/
def Found.isContainer : Found → Bool
  | .sequence | .map => true
  | _ => false

/-- **A value is a scalar,** which comes to the same whatever stands around it, or a container,
of which only the beginning is found. -/
theorem IsValue.scalar_or_container (h : IsValue text) :
    (∃ found : Option Found, Yields scalar text found ∧ ∀ x ∈ found, x.isContainer = false) ∨
      ∃ found : Found, found.isContainer ∧
        ∀ w rest, AreBlank w → scalar (w ++ (text ++ rest)) = .ok (found, text ++ rest) := by
  have hword {found : Found} (hfound : found.isContainer = false)
      (h : ∀ rest, scalar (text ++ rest) = .ok (found, rest)) :
      ∃ found : Option Found, Yields scalar text found ∧ ∀ x ∈ found, x.isContainer = false :=
    ⟨some found, .of_ignoresBlanks ignoresBlanks_scalar fun rest _ => h rest, by simpa⟩
  cases h with
  | null => exact Or.inl (hword rfl fun rest => rfl)
  | trueWord => exact Or.inl (hword rfl fun rest => rfl)
  | falseWord => exact Or.inl (hword rfl fun rest => rfl)
  | number n =>
    obtain ⟨value, hvalue, -⟩ := n.exists_found
    refine Or.inl ⟨_, hvalue, fun found hfound => ?_⟩
    obtain ⟨x, -, rfl⟩ := Option.map_eq_some_iff.1 hfound
    cases x <;> rfl
  | @string content h =>
    obtain ⟨value, hvalue⟩ := h.exists_string
    refine Or.inl ⟨value.map Found.text, .of_ignoresBlanks ignoresBlanks_scalar fun rest _ => ?_,
      fun found hfound => ?_⟩
    · have hscalar : scalar (quoted content ++ rest) =
          (Found.text <$> Json.string) (content ++ quote :: rest) := by
        rw [quoted, List.cons_append, List.append_assoc]
        rfl
      exact hscalar ▸ (hvalue rest).map Found.text
    · obtain ⟨x, -, rfl⟩ := Option.map_eq_some_iff.1 hfound
      rfl
  | list h _ =>
    obtain ⟨inside, -, rfl⟩ := h
    refine Or.inr ⟨.sequence, rfl, fun w rest hw => ?_⟩
    rw [ignoresBlanks_scalar w _ hw]
    rfl
  | object h _ _ =>
    obtain ⟨inside, -, rfl⟩ := h
    refine Or.inr ⟨.map, rfl, fun w rest hw => ?_⟩
    rw [ignoresBlanks_scalar w _ hw]
    rfl

/-! ## Whole values -/

theorem whole_of_not_isContainer {s : Bytes} {found : Found} (h : scalar s = .ok (found, rest))
    (hfound : found.isContainer = false) (depth : ℕ) : whole depth s = .ok (found, rest) := by
  cases depth <;>
  · rw [whole, bind_reader h]
    cases found <;> first | rfl | cases hfound

/-- A scalar is read whole as what it is. -/
theorem yields_whole {found : Option Found} (h : Yields scalar text found)
    (hfound : ∀ x ∈ found, x.isContainer = false) (depth : ℕ) :
    Yields (whole depth) text found := by
  intro w rest hw hrest
  have hscalar := h w rest hw hrest
  cases found with
  | none =>
    obtain ⟨fault, hfault⟩ := hscalar
    exact ⟨fault, by cases depth <;> exact bind_reader_error hfault _⟩
  | some found => exact whole_of_not_isContainer hscalar (hfound found rfl) depth

/-- A container that is read whole is nothing else but a container. -/
theorem isContainer_of_whole {depth : ℕ} {s s' : Bytes} {found found' : Found}
    (h : scalar s = .ok (found, s')) (hfound : found.isContainer)
    (hwhole : whole depth s = .ok (found', rest)) : found'.isContainer := by
  cases depth with
  | zero =>
    rw [whole, bind_reader h] at hwhole
    cases found with
    | sequence => exact absurd hwhole (nofun : stopAt .recursionLimit s' ≠ .ok (found', rest))
    | map => exact absurd hwhole (nofun : stopAt .recursionLimit s' ≠ .ok (found', rest))
    | _ => cases hfound
  | succ depth =>
    rw [whole, bind_reader h] at hwhole
    cases found with
    | sequence =>
      obtain ⟨xs, t, -, hfound'⟩ := bind_reader_eq_ok_iff.1 hwhole
      cases hfound'
      rfl
    | map =>
      obtain ⟨xs, t, -, hmap⟩ := bind_reader_eq_ok_iff.1 hwhole
      obtain ⟨xs, t, -, hfound'⟩ := bind_reader_eq_ok_iff.1 hmap
      cases hfound'
      rfl
    | _ => cases hfound

end Json
end SharedBudget
