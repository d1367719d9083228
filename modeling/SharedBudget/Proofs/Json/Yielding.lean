/-
# Strings and numbers in any surroundings

What follows a text may begin with a blank here (`Json.Ends`), and blanks may stand
before it: a reader *yields* a value for a text if it takes the text off the front
whatever stands around it (`Json.Yields`).  A string is read as the characters that it
spells (`Json.Spells.string`), and a number as one thing, which is an integer exactly if
the text is a plain integer of 64 bits (`Json.Numeral.exists_found`).  So the readers of
integers are exact (`Json.Numeral.yields_acceptInteger`).
-/

import SharedBudget.Json.Typed
import SharedBudget.Proofs.Json.Grammar
import SharedBudget.Proofs.Json.Scalars

namespace SharedBudget
namespace Json

variable {α β : Type} {r : Reader α} {s rest w text : Bytes}

/-! ## What is around a value -/

/-- What may follow a value: nothing, a blank, or the end of a list or an object or of one of
their items. -/
def Ends (rest : Bytes) : Prop :=
  ∀ b ∈ rest.head?, isBlank b ∨ b = comma ∨ b = closeList ∨ b = closeObject

theorem Ends.of_closes (h : Closes rest) : Ends rest := fun b hb => Or.inr (h b hb)

theorem Ends.append_blank (h : Ends rest) (hw : AreBlank w) : Ends (w ++ rest) := by
  cases w with
  | nil => exact h
  | cons b w =>
    intro c hc
    obtain rfl := Option.some.inj hc
    exact Or.inl (hw b (List.mem_cons_self ..))

theorem Ends.endsRow (h : Ends rest) : EndsRow rest := by
  intro b hb
  rcases h b hb with hblank | rfl | rfl | rfl
  · simp only [isBlank, Bool.or_eq_true, decide_eq_true_eq] at hblank
    rcases hblank with ((rfl | rfl) | rfl) | rfl <;> rfl
  · rfl
  · rfl
  · rfl

/-- Neither a fraction nor an exponent begins where a value ends. -/
theorem Ends.head?_ne (h : Ends rest) :
    rest.head? ≠ some point ∧ beginsExponent rest = false := by
  cases rest with
  | nil => exact ⟨nofun, rfl⟩
  | cons b rest =>
    have hne {c : UInt8} (hc : ¬isBlank c) (hc' : c ≠ comma ∧ c ≠ closeList ∧ c ≠ closeObject) :
        b ≠ c := by
      rintro rfl
      rcases h b rfl with hblank | rfl | rfl | rfl
      · exact hc hblank
      · exact hc'.1 rfl
      · exact hc'.2.1 rfl
      · exact hc'.2.2 rfl
    simp [beginsExponent, hne (c := point) (by decide) (by decide),
      hne (c := lowerE) (by decide) (by decide), hne (c := upperE) (by decide) (by decide)]

theorem skipBlanks_append_blank (hw : AreBlank w) (s : Bytes) :
    skipBlanks (w ++ s) = skipBlanks s := List.dropWhile_append_of_pos hw

/-- The reader does not care for blanks at the front. -/
def IgnoresBlanks (r : Reader α) : Prop := ∀ w s, AreBlank w → r (w ++ s) = r s

theorem ignoresBlanks_scalar : IgnoresBlanks scalar := by
  intro w s hw
  unfold scalar
  rw [skipBlanks_append_blank hw]

theorem IgnoresBlanks.bind (h : IgnoresBlanks r) (f : α → Reader β) : IgnoresBlanks (r >>= f) := by
  intro w s hw
  change r (w ++ s) >>= _ = r s >>= _
  rw [h w s hw]

theorem ignoresBlanks_skipValue (fuel : ℕ) : IgnoresBlanks (skipValue (fuel + 1)) := by
  intro w s hw
  unfold skipValue
  rw [skipBlanks_append_blank hw]

/-! ## Yielding -/

/-- The reader takes the text off the front as this value, or fails if there is none, whatever
stands around it. -/
def Yields (r : Reader α) (text : Bytes) (value : Option α) : Prop :=
  ∀ w rest, AreBlank w → Ends rest → Gives (r (w ++ (text ++ rest))) rest value

theorem Yields.of_ignoresBlanks {value : Option α} (hr : IgnoresBlanks r)
    (h : ∀ rest, Ends rest → Gives (r (text ++ rest)) rest value) : Yields r text value := by
  intro w rest hw hrest
  rw [hr w _ hw]
  exact h rest hrest

theorem Yields.gives {value : Option α} (h : Yields r text value) (hrest : Ends rest) :
    Gives (r (text ++ rest)) rest value := h [] rest areBlank_nil hrest

/-- A reader does not yield two values for one text. -/
theorem Yields.unique {value value' : Option α} (h : Yields r text value)
    (h' : Yields r text value') : value = value' := by
  have hends : Ends [] := nofun
  have hgives := h.gives hends
  have hgives' := h'.gives hends
  cases value with
  | none =>
    obtain ⟨fault, hfault⟩ := hgives
    rw [hfault] at hgives'
    cases value' with
    | none => rfl
    | some x => cases hgives'
  | some x =>
    rw [show r _ = .ok (x, []) from hgives] at hgives'
    cases value' with
    | none => exact absurd hgives' nofun
    | some y =>
      have heq : (x, ([] : Bytes)) = (y, []) := Except.ok.inj hgives'
      exact congrArg some (Prod.ext_iff.1 heq).1

theorem Yields.map {value : Option α} (h : Yields r text value) (f : α → β) :
    Yields (f <$> r) text (value.map f) := fun w rest hw hrest => (h w rest hw hrest).map f

theorem Yields.accepting {found : Option Found} (h : Yields scalar text found)
    (accept : Found → Except Cause α) :
    Yields (accepting accept) text (found.bind fun found => (accept found).toOption) :=
  fun w rest hw hrest => (h w rest hw hrest).accepting accept

/-! ## Strings -/

/-- The character of an escape with one letter is one byte. -/
theorem utf8EncodeChar_escaped {l b : UInt8} (h : escaped? l = some b) :
    String.utf8EncodeChar (Char.ofNat b.toNat) = [b] := by
  have hall : ∀ p ∈ escapes, String.utf8EncodeChar (Char.ofNat p.2.toNat) = [p.2] := by
    simp only [escapes, List.forall_mem_cons]
    exact ⟨rfl, rfl, rfl, rfl, rfl, rfl, rfl, rfl, nofun⟩
  obtain ⟨before, after, hmem, -⟩ := List.lookup_eq_some_iff.1 h
  exact hall (l, b) (hmem ▸ List.mem_append_right _ (List.mem_cons_self ..))

/-- What spells characters is a content. -/
theorem Spells.isContent {cs : List Char} {content : Bytes} (h : Spells cs content) :
    IsContent content := by
  have hplain {front s : Bytes} (hfront : ∀ b ∈ front, b ≠ quote ∧ b ≠ backslash ∧ ¬b < 0x20)
      (hs : IsContent s) : IsContent (front ++ s) := by
    induction front with
    | nil => exact hs
    | cons b front ih =>
      obtain ⟨⟨hquote, hbackslash, hcontrol⟩, hfront⟩ := List.forall_mem_cons.1 hfront
      exact .plain hquote hbackslash hcontrol (ih hfront)
  induction h with
  | nil => exact .nil
  | plain hquote hbackslash hcontrol _ ih =>
    exact hplain (plain_of_mem_utf8EncodeChar hquote hbackslash hcontrol) ih
  | letter h _ ih => exact .letter (by rw [h]; rfl) ih
  | number h _ _ _ ih => exact .number (by rw [h]; rfl) ih
  | pair h h' _ _ _ ih => exact .number (by rw [h]; rfl) (.number (by rw [h']; rfl) ih)

/-- **A content is read as the characters that it spells.** -/
theorem Spells.contentFrom {cs : List Char} {content : Bytes} (h : Spells cs content)
    (rest : Bytes) :
    contentFrom .plain (content ++ quote :: rest) = .ok (Utf8.encode cs, rest) := by
  induction h with
  | nil => rfl
  | @plain c cs s hquote hbackslash hcontrol _ ih =>
    rw [List.append_assoc,
      contentFrom_append (plain_of_mem_utf8EncodeChar hquote hbackslash hcontrol), ih,
      Utf8.encode_cons]
    rfl
  | @letter l b cs s h _ ih =>
    rw [List.cons_append, List.cons_append, contentFrom_escape l h, ih, Utf8.encode_cons,
      utf8EncodeChar_escaped h]
    rfl
  | @number x y z w n cs s h hhigh hlow _ ih =>
    have hread := contentFrom_number h hhigh hlow (s ++ quote :: rest)
    rw [ih] at hread
    rw [Utf8.encode_cons]
    exact hread
  | @pair x y z w x' y' z' w' high low cs s h h' hhigh hlow _ ih =>
    have hlow' : isLowSurrogate high = false := by
      simp only [isHighSurrogate, isLowSurrogate, Bool.and_eq_true, Bool.and_eq_false_iff,
        decide_eq_true_eq, decide_eq_false_iff_not] at hhigh ⊢
      omega
    have hfirst : Place.move w (.digits none [x, y, z]) = .go [] (.half high) := by
      simp [Place.move, Move.ofNumber, h, hhigh, hlow']
    have hsecond : Place.move w' (.digits (some high) [x', y', z']) =
        .go (codePointBytes (pairedCodePoint high low)) .plain := by
      simp [Place.move, Move.ofNumber, h', hlow]
    have hback : Place.move backslash (.half high) = .go [] (.halfEscape high) := rfl
    have hletter : Place.move lowerU (.halfEscape high) = .go [] (.digits (some high) []) := rfl
    simp only [List.cons_append]
    rw [contentFrom_escapeNumber, contentFrom_digits, Json.contentFrom, hfirst]
    simp only [onto_nil]
    rw [Json.contentFrom, hback]
    simp only [onto_nil]
    rw [Json.contentFrom, hletter]
    simp only [onto_nil]
    rw [contentFrom_digits, Json.contentFrom, hsecond]
    simp only [ih, Utf8.encode_cons]
    rfl

/-- A lone half of a surrogate pair spells no characters, or it would be read as these. -/
theorem not_spells_loneHalf (cs : List Char) : ¬Spells cs loneHalf := by
  intro h
  have hread := h.contentFrom []
  have hfault : (Json.contentFrom .plain (loneHalf ++ [quote])).toOption = none := by decide
  rw [hread] at hfault
  cases hfault

/-- **A string is read as the characters that its content spells.** -/
theorem Spells.string {cs : List Char} {content : Bytes} (h : Spells cs content) (rest : Bytes) :
    string (content ++ quote :: rest) = .ok (String.ofList cs, rest) := by
  have htext : Utf8.toString? (Utf8.encode cs) = some (String.ofList cs) := by
    rw [Utf8.toString?, Utf8.decode_encode, Option.map_some]
  unfold Json.string
  rw [h.contentFrom, ok_bind]
  simp only [htext]

/-- **A string is found as its characters,** in every spelling. -/
theorem IsString.yields_scalar {cs : List Char} (h : IsString cs text) :
    Yields scalar text (some (.text (String.ofList cs))) := by
  obtain ⟨content, hcontent, rfl⟩ := h
  refine .of_ignoresBlanks ignoresBlanks_scalar fun rest _ => ?_
  have hscalar : scalar (quoted content ++ rest) =
      (Found.text <$> Json.string) (content ++ quote :: rest) := by
    rw [quoted, List.cons_append, List.append_assoc]
    rfl
  rw [hscalar, map_reader, hcontent.string]
  exact rfl

/-- A string is accepted for its characters. -/
theorem IsString.yields_accepting {cs : List Char} (h : IsString cs text)
    {accept : Found → Except Cause α} {x : α}
    (haccept : accept (.text (String.ofList cs)) = .ok x) :
    Yields (Json.accepting accept) text (some x) := by
  have hyields := h.yields_scalar.accepting accept
  rwa [Option.bind_some, haccept] at hyields

theorem IsString.yields_text {s : String} (h : IsString s.toList text) :
    Yields Json.text text (some s) := h.yields_accepting (by rw [String.ofList_toList]; rfl)

theorem IsOptionalString.yields {s : Option String} (h : IsOptionalString s text) :
    Yields optionalText text (some s) := by
  cases s with
  | none =>
    obtain rfl : text = _ := h
    have hnull : Yields scalar (lowerN :: nullTail) (some .null) :=
      .of_ignoresBlanks ignoresBlanks_scalar fun rest _ => rfl
    exact hnull.accepting acceptOptionalText
  | some s => exact IsString.yields_accepting h (by rw [String.ofList_toList]; rfl)

/-- From this place on, the content is read as the same bytes whatever follows its closing quote,
or always comes to a fault. -/
def ComesTo (p : Place) (content : Bytes) (value : Option Bytes) : Prop :=
  ∀ rest, Gives (contentFrom p (content ++ quote :: rest)) rest value

section ComesTo

variable {p next : Place} {b : UInt8} {content front : Bytes}

theorem comesTo_fault {cause : Cause} (h : p.move b = .fault cause) :
    ComesTo p (b :: content) none := by
  intro rest
  rw [List.cons_append, contentFrom, h]
  exact ⟨_, rfl⟩

theorem ComesTo.go {value : Option Bytes} (hs : ComesTo next content value)
    (h : p.move b = .go front next) : ComesTo p (b :: content) (value.map (front ++ ·)) := by
  intro rest
  have hrest := hs rest
  rw [List.cons_append, contentFrom, h]
  dsimp only
  cases value with
  | none =>
    obtain ⟨fault, hfault⟩ := hrest
    rw [hfault]
    exact ⟨fault, rfl⟩
  | some bytes =>
    rw [show contentFrom next _ = _ from hrest]
    exact rfl

/-- The digits of an escape are a fault, or they complete a character or half a pair. -/
theorem Move.ofNumber_cases (high n : Option ℕ) :
    (∃ cause, Move.ofNumber high n = .fault cause) ∨
      (∃ front, Move.ofNumber high n = .go front .plain) ∨
        ∃ half, Move.ofNumber high n = .go [] (.half half) := by
  unfold Move.ofNumber
  split
  · exact Or.inl ⟨_, rfl⟩
  split
  · split
    · exact Or.inl ⟨_, rfl⟩
    split
    · exact Or.inr (Or.inr ⟨_, rfl⟩)
    · exact Or.inr (Or.inl ⟨_, rfl⟩)
  · split
    · exact Or.inr (Or.inl ⟨_, rfl⟩)
    · exact Or.inl ⟨_, rfl⟩

/-- A content that comes to something wherever a character may begin also does so behind the
digits of an escape. -/
theorem exists_comesTo_digits (high : Option ℕ) (x y z w : UInt8)
    (hplain : ∃ value, ComesTo .plain content value)
    (hhalf : ∀ half, ∃ value, ComesTo (.half half) content value) :
    ∃ value, ComesTo (.digits high []) (x :: y :: z :: w :: content) value := by
  have hlast : ∃ value, ComesTo (.digits high [x, y, z]) (w :: content) value := by
    rcases Move.ofNumber_cases high (hexQuad? x y z w) with ⟨cause, h⟩ | ⟨front, h⟩ | ⟨half, h⟩
    · exact ⟨none, comesTo_fault h⟩
    · obtain ⟨value, hvalue⟩ := hplain
      exact ⟨_, hvalue.go h⟩
    · obtain ⟨value, hvalue⟩ := hhalf half
      exact ⟨_, hvalue.go h⟩
  obtain ⟨value, hvalue⟩ := hlast
  refine ⟨value, fun rest => ?_⟩
  simp only [List.cons_append, contentFrom_digits]
  exact hvalue rest

/-- **Every content comes to the same whatever follows it,** also behind half a pair of
surrogates. -/
theorem IsContent.exists_comesTo (h : IsContent content) :
    (∃ value, ComesTo .plain content value) ∧
      ∀ half, ∃ value, ComesTo (.half half) content value := by
  induction h with
  | nil => exact ⟨⟨some [], fun rest => rfl⟩, fun half => ⟨none, fun rest => ⟨_, rfl⟩⟩⟩
  | @plain b s hquote hbackslash hcontrol _ ih =>
    obtain ⟨⟨value, hvalue⟩, -⟩ := ih
    have hmove : Place.move b .plain = .go [b] .plain := by
      simp only [Place.move, if_neg hquote, if_neg hbackslash, if_neg hcontrol]
    have hmove' (half : ℕ) : Place.move b (.half half) = .fault .endOfHexEscape := if_neg hbackslash
    exact ⟨⟨_, hvalue.go hmove⟩, fun half => ⟨none, comesTo_fault (hmove' half)⟩⟩
  | @letter l s h _ ih =>
    obtain ⟨⟨value, hvalue⟩, -⟩ := ih
    obtain ⟨c, hc⟩ := Option.isSome_iff_exists.1 h
    have hu : l ≠ lowerU := by rintro rfl; cases hc
    have hmove : Place.move l .escape = .go [c] .plain := by simp only [Place.move, if_neg hu, hc]
    have hmove' (half : ℕ) : Place.move l (.halfEscape half) = .fault .endOfHexEscape := if_neg hu
    exact ⟨⟨_, (hvalue.go hmove).go rfl⟩, fun half => ⟨_, (comesTo_fault (hmove' half)).go rfl⟩⟩
  | @number x y z w s _ _ ih =>
    obtain ⟨value, hvalue⟩ := exists_comesTo_digits none x y z w ih.1 ih.2
    refine ⟨⟨_, (hvalue.go rfl).go rfl⟩, fun half => ?_⟩
    obtain ⟨value, hvalue⟩ := exists_comesTo_digits (some half) x y z w ih.1 ih.2
    exact ⟨_, (hvalue.go rfl).go rfl⟩

/-- A string comes to the same whatever follows it. -/
theorem IsContent.exists_string (h : IsContent content) :
    ∃ value : Option String, ∀ rest, Gives (string (content ++ quote :: rest)) rest value := by
  obtain ⟨⟨value, hvalue⟩, -⟩ := h.exists_comesTo
  cases value with
  | none =>
    refine ⟨none, fun rest => ?_⟩
    obtain ⟨fault, hfault⟩ := hvalue rest
    exact ⟨fault, by rw [string, hfault, error_bind]⟩
  | some bytes =>
    refine ⟨Utf8.toString? bytes, fun rest => ?_⟩
    unfold string
    rw [show contentFrom .plain _ = _ from hvalue rest, ok_bind]
    dsimp only
    cases Utf8.toString? bytes with
    | none => exact ⟨_, rfl⟩
    | some text => exact rfl

/-- The digits of an escape are skipped whatever number they denote. -/
theorem skipContent_digits {x y z w : UInt8} (h : (hexQuad? x y z w).isSome) (s : Bytes) :
    skipContent (.digits none []) (x :: y :: z :: w :: s) = skipContent .plain s := by
  have hfirst : Place.move x (.digits none []) = .go [] (.digits none [x]) := rfl
  have hsecond : Place.move y (.digits none [x]) = .go [] (.digits none [x, y]) := rfl
  have hthird : Place.move z (.digits none [x, y]) = .go [] (.digits none [x, y, z]) := rfl
  have hlast : Place.move w (.digits none [x, y, z]) = .ofNumber none (hexQuad? x y z w) := rfl
  obtain ⟨n, hn⟩ := Option.isSome_iff_exists.1 h
  simp only [skipContent, hfirst, hsecond, hthird, hlast, hn, Move.ofNumber]
  split_ifs <;> rfl

/-- **A content is skipped up to its closing quote.** -/
theorem IsContent.skipString (h : IsContent content) (rest : Bytes) :
    skipString (content ++ quote :: rest) = .ok ((), rest) := by
  change skipContent .plain _ = _
  have hback : Place.move backslash .plain = .go [] .escape := rfl
  induction h with
  | nil => rfl
  | @plain b s hquote hbackslash hcontrol _ ih =>
    have hmove : Place.move b .plain = .go [b] .plain := by
      simp only [Place.move, if_neg hquote, if_neg hbackslash, if_neg hcontrol]
    rw [List.cons_append, skipContent, hmove]
    exact ih
  | @letter l s h _ ih =>
    obtain ⟨c, hc⟩ := Option.isSome_iff_exists.1 h
    have hne : l ≠ lowerU := by rintro rfl; cases hc
    have hmove : Place.move l .escape = .go [c] .plain := by simp only [Place.move, if_neg hne, hc]
    rw [List.cons_append, List.cons_append, skipContent, hback]
    dsimp only
    rw [skipContent, hmove]
    exact ih
  | @number x y z w s h _ ih =>
    have hletter : Place.move lowerU .escape = .go [] (.digits none []) := rfl
    simp only [List.cons_append]
    rw [skipContent, hback]
    dsimp only
    rw [skipContent, hletter]
    exact (skipContent_digits h _).trans ih

end ComesTo

/-! ## Numbers -/

namespace Numeral

variable {negative : Bool} {significand : ℕ} {exponent : ℤ}

/-- What is read in front of the rest is one double whatever the rest is, or always a fault. -/
def ComesToFloat (r : Reader Number) : Prop :=
  ∃ value : Option Double, ∀ rest, Ends rest → Gives (r rest) rest (value.map Number.float)

theorem ComesToFloat.of_float {r : Reader Number} {l : Decimal.Literal}
    (h : ∀ rest, Ends rest → r rest = float l rest) : ComesToFloat r := by
  refine ⟨l.toDouble, fun rest hrest => ?_⟩
  rw [h rest hrest]
  unfold float
  cases l.toDouble with
  | none => exact ⟨_, rfl⟩
  | some x => exact rfl

theorem ComesToFloat.congr {r r' : Reader Number} (h : ComesToFloat r)
    (hr : ∀ rest, Ends rest → r' rest = r rest) : ComesToFloat r' := by
  obtain ⟨value, hvalue⟩ := h
  exact ⟨value, fun rest hrest => hr rest hrest ▸ hvalue rest hrest⟩

theorem encode_unsignedChars (n : Numeral) (rest : Bytes) :
    Utf8.encode n.unsignedChars ++ rest = Utf8.encode n.whole ++
      (Utf8.encode (fractionChars n.fraction) ++ (Utf8.encode (exponentChars n.exponent) ++ rest)) := by
  rw [unsignedChars, Utf8.encode_append, Utf8.encode_append, List.append_assoc, List.append_assoc]

/-- Behind its sign, a number begins with a digit. -/
theorem exists_unsignedChars (n : Numeral) :
    ∃ c cs, n.unsignedChars = c :: cs ∧ c.isDigit := by
  obtain ⟨c, cs, hcs⟩ := List.exists_cons_of_ne_nil n.isRow_whole.ne_nil
  have hc := n.isRow_whole.isDigit c (hcs ▸ List.mem_cons_self ..)
  exact ⟨c, _, by rw [unsignedChars, hcs, List.cons_append], hc⟩

/-- The sign of an exponent is one byte, if there is one. -/
theorem Exponent.exists_signByte (e : Exponent) : ∃ sign : Option UInt8,
    Utf8.encode e.signChars = sign.toList ∧ ∀ b ∈ sign, b = plus ∨ b = minus := by
  obtain ⟨upper, _ | _ | _, ds, hds⟩ := e
  · exact ⟨none, rfl, nofun⟩
  · exact ⟨some plus, rfl, by simp⟩
  · exact ⟨some minus, rfl, by simp⟩

theorem encode_exponentChars (e : Exponent) (rest : Bytes) :
    Utf8.encode (exponentChars (some e)) ++ rest =
      (if e.upper then upperE else lowerE) :: (Utf8.encode (e.signChars ++ e.digits) ++ rest) := by
  obtain ⟨_ | _, sign, ds, hds⟩ := e <;> rfl

theorem encode_fractionChars (ds : List Char) (rest : Bytes) :
    Utf8.encode (fractionChars (some ds)) ++ rest = point :: (Utf8.encode ds ++ rest) := rfl

/-- What follows the digits of a number makes it a double, or a fault. -/
theorem comesToFloat_afterDigits (e : Option Exponent) (negative : Bool) (significand : ℕ)
    (exponent : ℤ) : ComesToFloat fun rest =>
      afterDigits negative significand exponent (Utf8.encode (exponentChars e) ++ rest) := by
  cases e with
  | none =>
    have hplain (rest : Bytes) (hrest : Ends rest) :
        afterDigits negative significand exponent rest =
          float ⟨negative, significand, exponent⟩ rest := by
      unfold afterDigits
      rw [hrest.head?_ne.2, if_neg Bool.false_ne_true]
    exact .of_float hplain
  | some e =>
    have hletter (rest : Bytes) : afterDigits negative significand exponent
        (Utf8.encode (exponentChars (some e)) ++ rest) =
          exponentPart negative significand exponent
            (Utf8.encode (e.signChars ++ e.digits) ++ rest) := by
      rw [encode_exponentChars]
      cases e.upper <;> rfl
    obtain ⟨sign, hencode, hsign⟩ := e.exists_signByte
    obtain ⟨hdigits, hne⟩ := e.isRow
    simp only [hletter, Utf8.encode_append, List.append_assoc, hencode]
    -- Which case it is does not depend on the rest.
    by_cases hlimit : (absorb exponentLimit 0 (Utf8.encode e.digits)).2 = 0
    · exact .of_float fun rest hrest => by
        rw [exponentPart_row hdigits hne hrest.endsRow hsign, if_pos hlimit]
    by_cases hzero : significand = 0 ∨ sign = some minus
    · exact .of_float fun rest hrest => by
        rw [exponentPart_row hdigits hne hrest.endsRow hsign, if_neg hlimit, if_pos hzero]
    · refine ⟨none, fun rest hrest => ?_⟩
      dsimp only
      rw [exponentPart_row hdigits hne hrest.endsRow hsign, if_neg hlimit, if_neg hzero]
      exact ⟨_, rfl⟩

/-- An exponent or the end does not continue a row of digits. -/
theorem endsRow_exponentChars (e : Option Exponent) (hrest : Ends rest) :
    EndsRow (Utf8.encode (exponentChars e) ++ rest) := by
  cases e with
  | none => exact hrest.endsRow
  | some e =>
    rw [encode_exponentChars]
    intro b hb
    obtain rfl := Option.some.inj hb
    split <;> rfl

/-- An exponent or the end does not begin with a point. -/
theorem head?_exponentChars_ne (e : Option Exponent) (hrest : Ends rest) :
    (Utf8.encode (exponentChars e) ++ rest).head? ≠ some point := by
  cases e with
  | none => exact hrest.head?_ne.1
  | some e =>
    have hne : lowerE ≠ point ∧ upperE ≠ point := by decide
    rw [encode_exponentChars, List.head?_cons, ne_eq, Option.some.injEq]
    split
    · exact hne.2
    · exact hne.1

/-- A fraction makes a number a double, or a fault. -/
theorem comesToFloat_fractionPart {ds : List Char} (hds : IsRow ds) (e : Option Exponent)
    (negative : Bool) (significand : ℕ) (exponent : ℤ) : ComesToFloat fun rest =>
      fractionPart negative significand exponent
        (Utf8.encode ds ++ (Utf8.encode (exponentChars e) ++ rest)) :=
  (comesToFloat_afterDigits e negative _ _).congr fun _ hrest =>
    fractionPart_row hds.isDigit hds.ne_nil (endsRow_exponentChars e hrest)

/-- A number without a fraction and an exponent is an integer if it fits 64 bits. -/
theorem wholeNumber_eq_integer_iff {negative : Bool} {magnitude : ℕ} (h : magnitude < wordLimit)
    (z : ℤ) : wholeNumber negative magnitude = .integer z ↔
      ¬(negative ∧ magnitude = 0) ∧ z = (if negative then -(magnitude : ℤ) else magnitude) ∧
        -2 ^ 63 ≤ z ∧ z < 2 ^ 64 := by
  unfold wholeNumber wordLimit at *
  cases negative with
  | false =>
    simp only [Bool.false_eq_true, if_false, Number.integer.injEq, false_and, not_false_eq_true,
      true_and]
    omega
  | true =>
    simp only [if_true, true_and]
    split
    · simp only [reduceCtorEq, false_iff]
      omega
    · simp only [Number.integer.injEq]
      omega

/-- A number that is not plain is a double, or a fault. -/
theorem comesToFloat_number {n : Numeral} (h : n.isPlain = false) :
    ComesToFloat fun rest => number n.negative (Utf8.encode n.unsignedChars ++ rest) := by
  obtain ⟨negative, whole, fraction, e, hwhole, hzero, hfraction⟩ := n
  simp only [encode_unsignedChars]
  cases fraction with
  | some ds =>
    refine (comesToFloat_fractionPart (hfraction ds rfl) e negative
      (absorb wordLimit 0 (Utf8.encode whole)).1
      (absorb wordLimit 0 (Utf8.encode whole)).2).congr fun rest _ => ?_
    rw [encode_fractionChars, number_row hwhole.isDigit hwhole.ne_nil hzero
      (fun b hb => by obtain rfl := Option.some.inj hb; rfl), List.head?_cons, if_pos rfl]
    rfl
  | none =>
    cases e with
    | none => cases h
    | some e =>
      refine (comesToFloat_afterDigits (some e) negative
        (absorb wordLimit 0 (Utf8.encode whole)).1
        (absorb wordLimit 0 (Utf8.encode whole)).2).congr fun rest hrest => ?_
      have hletter : beginsExponent (Utf8.encode (exponentChars (some e)) ++ rest) := by
        rw [encode_exponentChars]
        cases e.upper <;> rfl
      change number negative (Utf8.encode whole ++
        (Utf8.encode (exponentChars (some e)) ++ rest)) = _
      rw [number_row hwhole.isDigit hwhole.ne_nil hzero (endsRow_exponentChars _ hrest),
        if_neg (head?_exponentChars_ne _ hrest), if_neg (by simp [hletter])]

/-- A plain number is an integer if it fits 64 bits, and otherwise a double, or a fault. -/
theorem exists_number_of_isPlain {n : Numeral} (h : n.isPlain) :
    ∃ value : Option Number, (∀ rest, Ends rest →
      Gives (number n.negative (Utf8.encode n.unsignedChars ++ rest)) rest value) ∧
    ∀ z : ℤ, value = some (.integer z) ↔ n.integer? = some z ∧ -2 ^ 63 ≤ z ∧ z < 2 ^ 64 := by
  obtain ⟨negative, whole, fraction, e, hwhole, hzero, hfraction⟩ := n
  obtain ⟨rfl, rfl⟩ : fraction = none ∧ e = none := by
    simpa [isPlain] using h
  have hunsigned (rest : Bytes) :
      Utf8.encode (whole ++ (fractionChars none ++ exponentChars none)) ++ rest =
        Utf8.encode whole ++ rest := by
    rw [fractionChars, exponentChars, List.append_nil, List.append_nil]
  simp only [unsignedChars, hunsigned]
  generalize hm : Nat.ofDigitChars 10 whole 0 = magnitude
  have hinteger (z : ℤ) :
      integer? ⟨negative, whole, none, none, hwhole, hzero, hfraction⟩ = some z ↔
        ¬(negative ∧ magnitude = 0) ∧ z = if negative then -(magnitude : ℤ) else magnitude := by
    unfold integer? Numeral.magnitude
    rw [hm]
    simp [isPlain, eq_comm]
  rcases Nat.lt_or_ge magnitude wordLimit with hlt | hge
  · refine ⟨some (wholeNumber negative magnitude), fun rest hrest => ?_, fun z => ?_⟩
    · rw [number_digits hwhole.isDigit hwhole.ne_nil hzero hrest.endsRow (hm ▸ hlt), hm,
        if_neg hrest.head?_ne.1, if_pos (by simp [hrest.head?_ne.2])]
      exact rfl
    · rw [Option.some.injEq, wholeNumber_eq_integer_iff hlt, hinteger, and_assoc]
  · -- Digits that do not fit a word are left over, and then the number is a double.
    have huntaken := absorb_untaken hwhole.isDigit (by decide) (hm ▸ hge)
    obtain ⟨value, hvalue⟩ := comesToFloat_afterDigits none negative
      (absorb wordLimit 0 (Utf8.encode whole)).1 (absorb wordLimit 0 (Utf8.encode whole)).2
    refine ⟨value.map Number.float, fun rest hrest => ?_, fun z => ?_⟩
    · rw [number_row hwhole.isDigit hwhole.ne_nil hzero hrest.endsRow, if_neg hrest.head?_ne.1,
        if_neg fun h => huntaken h.1]
      exact hvalue rest hrest
    · rw [hinteger]
      unfold wordLimit at hge
      cases value <;> cases negative <;> simp <;> omega

/-- **A number comes to the same whatever follows it.**  It comes to an integer exactly if it is
written as one and fits 64 bits. -/
theorem exists_number (n : Numeral) : ∃ value : Option Number,
    (∀ rest, Ends rest →
      Gives (number n.negative (Utf8.encode n.unsignedChars ++ rest)) rest value) ∧
    ∀ z : ℤ, value = some (.integer z) ↔ n.integer? = some z ∧ -2 ^ 63 ≤ z ∧ z < 2 ^ 64 := by
  cases h : n.isPlain with
  | true => exact exists_number_of_isPlain h
  | false =>
    obtain ⟨value, hvalue⟩ := comesToFloat_number h
    refine ⟨_, hvalue, fun z => ?_⟩
    rw [integer?_of_not_isPlain h]
    cases value <;> simp

/-- A number is found behind its sign. -/
theorem scalar_text (n : Numeral) (rest : Bytes) : scalar (n.text ++ rest) =
    (Number.found <$> number n.negative) (Utf8.encode n.unsignedChars ++ rest) := by
  unfold text chars
  cases n.negative with
  | true => exact scalar_minus _ rest
  | false =>
    obtain ⟨c, cs, hcs, hc⟩ := n.exists_unsignedChars
    rw [if_neg Bool.false_ne_true, hcs]
    exact scalar_digit hc _ rest

/-- **A number is found as one thing,** whatever stands around it: as an integer exactly if it is
written as one and fits 64 bits, and otherwise as a double, if at all. -/
theorem exists_found (n : Numeral) : ∃ value : Option Number,
    Yields scalar n.text (value.map Number.found) ∧
      ∀ z : ℤ, value = some (.integer z) ↔ n.integer? = some z ∧ -2 ^ 63 ≤ z ∧ z < 2 ^ 64 := by
  obtain ⟨value, hvalue, hinteger⟩ := n.exists_number
  refine ⟨value, .of_ignoresBlanks ignoresBlanks_scalar fun rest hrest => ?_, hinteger⟩
  rw [scalar_text]
  exact (hvalue rest hrest).map Number.found

theorem toOption_acceptInteger_iff {expected : String} {least greatest z : ℤ} {found : Found} :
    (acceptInteger expected least greatest found).toOption = some z ↔
      found = .integer z ∧ least ≤ z ∧ z ≤ greatest := by
  unfold acceptInteger
  split
  · rename_i y
    split
    · rename_i hy
      exact ⟨fun h => by obtain rfl := Option.some.inj h; exact ⟨rfl, hy⟩,
        fun h => by obtain rfl := Found.integer.inj h.1; rfl⟩
    · rename_i hy
      exact ⟨nofun, fun h => by obtain rfl := Found.integer.inj h.1; exact absurd h.2 hy⟩
  · rename_i hne
    exact ⟨nofun, fun h => absurd h.1 (hne z)⟩

/-- **An integer is read exactly or refused:** what is accepted is the integer as which the number
is written, if it lies in the range. -/
theorem yields_acceptInteger (n : Numeral) (expected : String) (least greatest : ℤ)
    (hleast : -2 ^ 63 ≤ least) (hgreatest : greatest < 2 ^ 64) :
    Yields (accepting (acceptInteger expected least greatest)) n.text
      (n.integer?.filter fun z => least ≤ z ∧ z ≤ greatest) := by
  obtain ⟨value, hvalue, hinteger⟩ := n.exists_found
  have haccept := hvalue.accepting (acceptInteger expected least greatest)
  suffices h : ((value.map Number.found).bind fun found =>
      (acceptInteger expected least greatest found).toOption) =
        n.integer?.filter fun z => least ≤ z ∧ z ≤ greatest by
    rwa [h] at haccept
  have hfound (x : Number) (z : ℤ) : x.found = .integer z ↔ x = .integer z := by
    cases x <;> simp [Number.found]
  ext z
  simp only [Option.bind_eq_some_iff, Option.map_eq_some_iff, toOption_acceptInteger_iff,
    Option.filter_eq_some_iff, decide_eq_true_eq]
  constructor
  · rintro ⟨_, ⟨x, hx, rfl⟩, hz, hrange⟩
    rw [(hfound x z).1 hz] at hx
    exact ⟨((hinteger z).1 hx).1, hrange⟩
  · rintro ⟨hz, hrange⟩
    exact ⟨_, ⟨_, (hinteger z).2 ⟨hz, by omega, by omega⟩, rfl⟩, rfl, hrange⟩

end Numeral

end Json
end SharedBudget
