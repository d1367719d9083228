/-
# The grammar of JSON

`Json.IsValue` is the grammar of a value, one constructor for every alternative, and
says nothing about what a value is read as.  Blanks may stand around every token
(`Json.Items`, `Json.IsMember`).  A number is a `Json.Numeral`, which carries the
proofs that its parts are rows of digits; a string is a content of plain bytes and
escapes (`Json.IsContent`).  `Json.Spells` says which characters a content stands for,
in whatever spelling.  A lone half of a surrogate pair, or a byte that is no UTF-8,
may stand in a content, but no characters are spelled so (`Json.not_spells_loneHalf`
says so of `Json.loneHalf`).
-/

import SharedBudget.Json.Content
import SharedBudget.Proofs.Json.Numbers

namespace SharedBudget
namespace Json

/-- Blanks, as they may stand between two tokens. -/
def AreBlank (w : Bytes) : Prop := ∀ b ∈ w, isBlank b

theorem areBlank_nil : AreBlank [] := nofun

/-! ## Strings -/

/-- What stands between the quotes of a string: plain bytes, escapes with one letter and escapes
with four hexadecimal digits. -/
inductive IsContent : Bytes → Prop where
  | nil : IsContent []
  | plain {b : UInt8} {s : Bytes} (hquote : b ≠ quote) (hbackslash : b ≠ backslash)
      (hcontrol : ¬b < 0x20) : IsContent s → IsContent (b :: s)
  | letter {l : UInt8} {s : Bytes} (h : (escaped? l).isSome) :
      IsContent s → IsContent (backslash :: l :: s)
  | number {x y z w : UInt8} {s : Bytes} (h : (hexQuad? x y z w).isSome) :
      IsContent s → IsContent (backslash :: lowerU :: x :: y :: z :: w :: s)

/-- The characters for which the content of a string stands: each is written as itself, as an
escape with one letter, as its number, or as a pair of surrogates. -/
inductive Spells : List Char → Bytes → Prop where
  | nil : Spells [] []
  | plain {c : Char} {cs : List Char} {s : Bytes} (hquote : c ≠ '"') (hbackslash : c ≠ '\\')
      (hcontrol : 0x20 ≤ c.toNat) : Spells cs s → Spells (c :: cs) (String.utf8EncodeChar c ++ s)
  | letter {l b : UInt8} {cs : List Char} {s : Bytes} (h : escaped? l = some b) :
      Spells cs s → Spells (Char.ofNat b.toNat :: cs) (backslash :: l :: s)
  | number {x y z w : UInt8} {n : ℕ} {cs : List Char} {s : Bytes} (h : hexQuad? x y z w = some n)
      (hhigh : isHighSurrogate n = false) (hlow : isLowSurrogate n = false) :
      Spells cs s → Spells (Char.ofNat n :: cs) (backslash :: lowerU :: x :: y :: z :: w :: s)
  | pair {x y z w x' y' z' w' : UInt8} {high low : ℕ} {cs : List Char} {s : Bytes}
      (h : hexQuad? x y z w = some high) (h' : hexQuad? x' y' z' w' = some low)
      (hhigh : isHighSurrogate high) (hlow : isLowSurrogate low) :
      Spells cs s → Spells (Char.ofNat (pairedCodePoint high low) :: cs)
        (backslash :: lowerU :: x :: y :: z :: w ::
          backslash :: lowerU :: x' :: y' :: z' :: w' :: s)

/-- The escape of the first half of a surrogate pair, without the second half. -/
def loneHalf : Bytes := Utf8.encode "\\ud800".toList

theorem isContent_loneHalf : IsContent loneHalf := .number (by decide) .nil

/-- A content between its quotes. -/
def quoted (content : Bytes) : Bytes := quote :: (content ++ [quote])

/-- A text that is a string of these characters. -/
def IsString (cs : List Char) (text : Bytes) : Prop :=
  ∃ content, Spells cs content ∧ text = quoted content

/-- A text that is a string or `null`. -/
def IsOptionalString : Option String → Bytes → Prop
  | none, text => text = lowerN :: nullTail
  | some s, text => IsString s.toList text

/-! ## Numbers -/

/-- Digits, at least one. -/
structure IsRow (ds : List Char) : Prop where
  isDigit : ∀ c ∈ ds, c.isDigit
  ne_nil : ds ≠ []

/-- The exponent of a number. -/
structure Numeral.Exponent where
  upper : Bool
  /-- The sign if there is one; a minus sign if it is `true`. -/
  sign : Option Bool
  digits : List Char
  isRow : IsRow digits

/-- A number as it is written. -/
structure Numeral where
  negative : Bool
  /-- The digits before the point. -/
  whole : List Char
  /-- The digits behind the point, if there is a point. -/
  fraction : Option (List Char)
  exponent : Option Numeral.Exponent
  isRow_whole : IsRow whole
  hasNoLeadingZero : HasNoLeadingZero whole
  isRow_fraction : ∀ ds ∈ fraction, IsRow ds

namespace Numeral

/-- The sign of an exponent. -/
def Exponent.signChars (e : Exponent) : List Char :=
  match e.sign with
  | none => []
  | some true => ['-']
  | some false => ['+']

/-- An exponent with its letter, if there is one. -/
def exponentChars : Option Exponent → List Char
  | none => []
  | some e => (if e.upper then 'E' else 'e') :: (e.signChars ++ e.digits)

/-- A fraction with its point, if there is one. -/
def fractionChars : Option (List Char) → List Char
  | none => []
  | some ds => '.' :: ds

/-- What stands behind the sign of a number. -/
def unsignedChars (n : Numeral) : List Char :=
  n.whole ++ (fractionChars n.fraction ++ exponentChars n.exponent)

/-- The characters of a number. -/
def chars (n : Numeral) : List Char :=
  if n.negative then '-' :: n.unsignedChars else n.unsignedChars

/-- The text of a number. -/
def text (n : Numeral) : Bytes := Utf8.encode n.chars

/-- The number that the digits before the point denote. -/
def magnitude (n : Numeral) : ℕ := Nat.ofDigitChars 10 n.whole 0

/-- Whether there is neither a fraction nor an exponent. -/
def isPlain (n : Numeral) : Bool := n.fraction.isNone && n.exponent.isNone

/-- The integer for which a number stands: none if it has a fraction or an exponent, whatever its
value, and none if it is a negative zero. -/
def integer? (n : Numeral) : Option ℤ :=
  if n.isPlain ∧ ¬(n.negative ∧ n.magnitude = 0) then
    some (if n.negative then -(n.magnitude : ℤ) else n.magnitude)
  else none

/-- The word of 64 bits for which a number stands. -/
def word? (n : Numeral) : Option UInt64 :=
  (n.integer?.filter fun z => 0 ≤ z ∧ z < 2 ^ 64).map fun z => UInt64.ofNat z.toNat

/-- An integer in plain digits. -/
def ofInt (z : ℤ) : Numeral where
  negative := z < 0
  whole := Decimal.digits z.natAbs
  fraction := none
  exponent := none
  isRow_whole := ⟨isDigit_digits _, digits_ne_nil _⟩
  hasNoLeadingZero := hasNoLeadingZero_digits _
  isRow_fraction := nofun

/-- **An integer in plain digits** is what the writer writes for it. -/
theorem chars_ofInt (z : ℤ) : (ofInt z).chars = Writer.integer z := by
  have hunsigned : (ofInt z).unsignedChars = Decimal.digits z.natAbs := List.append_nil _
  rw [chars, hunsigned, Writer.integer]
  by_cases hz : z < 0 <;> simp [ofInt, hz]

theorem text_ofInt (z : ℤ) : (ofInt z).text = Utf8.encode (Writer.integer z) := by
  rw [text, chars_ofInt]

theorem chars_ofInt_natCast (n : ℕ) : (ofInt n).chars = Writer.natural n := by
  rw [chars_ofInt, Writer.integer, if_neg (by omega)]
  rfl

theorem magnitude_ofInt (z : ℤ) : (ofInt z).magnitude = z.natAbs := ofDigitChars_digits _

/-- **An integer in plain digits stands for itself.** -/
theorem integer?_ofInt (z : ℤ) : (ofInt z).integer? = some z := by
  have hplain : (ofInt z).isPlain := rfl
  have hnegative : (ofInt z).negative = decide (z < 0) := rfl
  unfold integer?
  rw [magnitude_ofInt, hnegative, if_pos ⟨hplain, by simp only [decide_eq_true_eq]; omega⟩]
  by_cases hz : z < 0
  · rw [if_pos (decide_eq_true hz)]
    exact congrArg some (by omega)
  · rw [if_neg (by simpa using hz)]
    exact congrArg some (by omega)

/-- A number with a fraction or an exponent stands for no integer. -/
theorem integer?_of_not_isPlain {n : Numeral} (h : n.isPlain = false) : n.integer? = none := by
  unfold integer?
  rw [if_neg (by simp [h])]

/-- A word of 64 bits stands for itself. -/
theorem word?_ofInt (n : UInt64) : (ofInt n.toNat).word? = some n := by
  have hlt := n.toNat_lt
  unfold word?
  rw [integer?_ofInt, Option.filter_some, if_pos (by simp only [decide_eq_true_eq]; omega),
    Option.map_some, Int.toNat_natCast, UInt64.ofNat_toNat]

/-- An integer in plain digits stands for a word if it fits 64 bits. -/
theorem isSome_word?_ofInt_iff (z : ℤ) : (ofInt z).word?.isSome ↔ 0 ≤ z ∧ z < 2 ^ 64 := by
  unfold word?
  rw [integer?_ofInt, Option.isSome_map, Option.filter_some]
  split <;> simp_all

/-- A number with a fraction or an exponent stands for no word. -/
theorem word?_of_not_isPlain {n : Numeral} (h : n.isPlain = false) : n.word? = none := by
  rw [word?, integer?_of_not_isPlain h]
  rfl

/-- The word of a number is the integer for which it stands, which fits 64 bits. -/
theorem word?_eq_some_iff {n : Numeral} {x : UInt64} :
    n.word? = some x ↔ n.integer? = some (x.toNat : ℤ) := by
  have hlt := x.toNat_lt
  unfold word?
  rw [Option.map_eq_some_iff]
  constructor
  · rintro ⟨z, hz, rfl⟩
    obtain ⟨hz, hrange⟩ := Option.filter_eq_some_iff.1 hz
    simp only [decide_eq_true_eq] at hrange
    rw [hz, UInt64.toNat_ofNat_of_lt' (by simp only [UInt64.size]; omega)]
    exact congrArg some (by omega)
  · intro h
    refine ⟨_, Option.filter_eq_some_iff.2 ⟨h, ?_⟩, ?_⟩
    · simp only [decide_eq_true_eq]
      omega
    · rw [Int.toNat_natCast, UInt64.ofNat_toNat]

end Numeral

/-! ## Values -/

/-- What stands between the brackets of a list, or between the braces of an object: these texts,
with commas between them and blanks anywhere.  `first` says that no text stands before. -/
inductive Items : (first : Bool) → List Bytes → Bytes → Prop where
  | nil {first : Bool} {w : Bytes} : AreBlank w → Items first [] w
  | first {w x t : Bytes} {texts : List Bytes} :
      AreBlank w → Items false texts t → Items true (x :: texts) (w ++ (x ++ t))
  | next {w w' x t : Bytes} {texts : List Bytes} : AreBlank w → AreBlank w' →
      Items false texts t → Items false (x :: texts) (w ++ comma :: (w' ++ (x ++ t)))

/-- A text that is a member of an object, with such a key and this value. -/
def IsMember (isKey : Bytes → Prop) (value text : Bytes) : Prop :=
  ∃ key w w', isKey key ∧ AreBlank w ∧ AreBlank w' ∧
    text = quote :: (key ++ quote :: (w ++ colon :: (w' ++ value)))

/-- A text that is a list of these texts. -/
def IsList (texts : List Bytes) (text : Bytes) : Prop :=
  ∃ inside, Items true texts inside ∧ text = openList :: (inside ++ [closeList])

/-- A text that is an object with these texts for its members. -/
def IsObject (texts : List Bytes) (text : Bytes) : Prop :=
  ∃ inside, Items true texts inside ∧ text = openObject :: (inside ++ [closeObject])

/-- The grammar of a value. -/
inductive IsValue : Bytes → Prop where
  | null : IsValue (lowerN :: nullTail)
  | trueWord : IsValue (lowerT :: trueTail)
  | falseWord : IsValue (lowerF :: falseTail)
  | number (n : Numeral) : IsValue n.text
  | string {content : Bytes} : IsContent content → IsValue (quoted content)
  | list {texts : List Bytes} {text : Bytes} :
      IsList texts text → (∀ value ∈ texts, IsValue value) → IsValue text
  | object {values texts : List Bytes} {text : Bytes} : IsObject texts text →
      List.Forall₂ (IsMember IsContent) values texts → (∀ value ∈ values, IsValue value) →
        IsValue text

/-- A text with blanks around it. -/
def Padded (isText : Bytes → Prop) (document : Bytes) : Prop :=
  ∃ w text w', AreBlank w ∧ isText text ∧ AreBlank w' ∧ document = w ++ (text ++ w')

end Json
end SharedBudget
