/-
# Strings read back

Every text can be written as a JSON string, and the string is read back as the
text (`Json.string_quoted`).  The automaton is at the place `plain` before and
after every character, so the proof goes character by character
(`Json.contentFrom_jsonChar`): a character is written as its own bytes, which the
automaton takes as they are, or as an escape, which it resolves.
-/

import SharedBudget.Json.Content
import SharedBudget.Proofs.Log.Outcome
import SharedBudget.Text.Quoted

namespace SharedBudget

namespace Utf8

@[simp] theorem encode_nil : encode [] = [] := rfl

theorem encode_cons (c : Char) (cs : List Char) :
    encode (c :: cs) = String.utf8EncodeChar c ++ encode cs := List.flatMap_cons

@[simp] theorem encode_append (cs ds : List Char) : encode (cs ++ ds) = encode cs ++ encode ds :=
  List.flatMap_append

/-- A character takes at most four bytes. -/
theorem length_encode_le (cs : List Char) : (encode cs).length ≤ 4 * cs.length := by
  induction cs with
  | nil => exact Nat.le_refl 0
  | cons c cs ih =>
    have hc : (String.utf8EncodeChar c).length ≤ 4 := by
      rw [String.length_utf8EncodeChar]
      exact c.utf8Size_le_four
    rw [encode_cons, List.length_append, List.length_cons]
    omega

/-- A character below U+0080 is one byte. -/
theorem utf8EncodeChar_of_lt {c : Char} (h : c.toNat < 0x80) :
    String.utf8EncodeChar c = [UInt8.ofNat c.toNat] := by
  unfold String.utf8EncodeChar
  simp only [show c.val.toNat = c.toNat from rfl]
  rw [if_pos (by omega)]

theorem encode_cons_of_lt {c : Char} (h : c.toNat < 0x80) (cs : List Char) :
    encode (c :: cs) = UInt8.ofNat c.toNat :: encode cs := by
  rw [encode_cons, utf8EncodeChar_of_lt h, List.singleton_append]

/-- The bytes of any other character are above the ASCII range. -/
theorem le_of_mem_utf8EncodeChar {c : Char} (h : 0x80 ≤ c.toNat) :
    ∀ b ∈ String.utf8EncodeChar c, 0x80 ≤ b.toNat := by
  have hlt := toNat_lt c
  unfold String.utf8EncodeChar
  simp only [show c.val.toNat = c.toNat from rfl]
  rw [if_neg (by omega)]
  split
  · simp
    omega
  split <;>
  · simp
    omega

end Utf8

namespace Hex

theorem digits_four (n : Nat) : digits 4 n =
    [digit (n / 4096 % 16), digit (n / 256 % 16), digit (n / 16 % 16), digit (n % 16)] := by
  simp [digits, Nat.div_div_eq_div_mul]

/-- A digit is one byte, which has the value of the digit. -/
theorem value?_digit : ∀ n < 16, ∃ b, String.utf8EncodeChar (digit n) = [b] ∧
    value? b = some n := by
  have h : ∀ n < 16, (digit n).toNat < 0x80 ∧
      value? (UInt8.ofNat (digit n).toNat) = some n := by decide
  intro n hn
  exact ⟨_, Utf8.utf8EncodeChar_of_lt (h n hn).1, (h n hn).2⟩

end Hex

namespace Json

@[simp] theorem onto_nil (r : Except Fault (Bytes × Bytes)) : onto [] r = r := by
  cases r <;> rfl

theorem onto_append (front more : Bytes) (r : Except Fault (Bytes × Bytes)) :
    onto (front ++ more) r = onto front (onto more r) := by
  cases r <;> simp [onto, Except.map]

/-- Bytes that are neither quotes nor backslashes nor control characters are content. -/
theorem contentFrom_append {bs : Bytes} (h : ∀ b ∈ bs, b ≠ quote ∧ b ≠ backslash ∧ ¬b < 0x20)
    (s : Bytes) : contentFrom .plain (bs ++ s) = onto bs (contentFrom .plain s) := by
  induction bs with
  | nil => rw [List.nil_append, onto_nil]
  | cons b bs ih =>
    obtain ⟨hquote, hbackslash, hcontrol⟩ := h b (List.mem_cons_self ..)
    have hmove : Place.move b .plain = .go [b] .plain := by
      simp only [Place.move, if_neg hquote, if_neg hbackslash, if_neg hcontrol]
    rw [List.cons_append, contentFrom, hmove]
    simp only
    rw [ih fun b' hb' => h b' (List.mem_cons_of_mem _ hb'), ← onto_append, List.singleton_append]

/-- An escape with one letter is one byte of content. -/
theorem contentFrom_escape (letter : UInt8) {content : UInt8} (h : escaped? letter = some content)
    (s : Bytes) : contentFrom .plain (backslash :: letter :: s) =
      onto [content] (contentFrom .plain s) := by
  have hu : letter ≠ lowerU := by rintro rfl; cases h
  have hmove : Place.move letter .escape = .go [content] .plain := by
    simp only [Place.move, if_neg hu, h]
  have hback : Place.move backslash .plain = .go [] .escape := rfl
  rw [contentFrom, hback]
  simp only [onto_nil]
  rw [contentFrom, hmove]

/-- The first three of four digits are only collected. -/
theorem contentFrom_digits (high : Option Nat) (x y z : UInt8) (s : Bytes) :
    contentFrom (.digits high []) (x :: y :: z :: s) = contentFrom (.digits high [x, y, z]) s := by
  have hfirst : Place.move x (.digits high []) = .go [] (.digits high [x]) := rfl
  have hsecond : Place.move y (.digits high [x]) = .go [] (.digits high [x, y]) := rfl
  have hthird : Place.move z (.digits high [x, y]) = .go [] (.digits high [x, y, z]) := rfl
  simp only [contentFrom, hfirst, hsecond, hthird, onto_nil]

/-- An escape with a number is read from its digits on. -/
theorem contentFrom_escapeNumber (s : Bytes) :
    contentFrom .plain (backslash :: lowerU :: s) = contentFrom (.digits none []) s := by
  have hback : Place.move backslash .plain = .go [] .escape := rfl
  have hletter : Place.move lowerU .escape = .go [] (.digits none []) := rfl
  simp only [contentFrom, hback, hletter, onto_nil]

/-- An escape with the number of a character that is no surrogate is that character. -/
theorem contentFrom_number {x y z w : UInt8} {n : Nat} (h : hexQuad? x y z w = some n)
    (hhigh : isHighSurrogate n = false) (hlow : isLowSurrogate n = false) (s : Bytes) :
    contentFrom .plain (backslash :: lowerU :: x :: y :: z :: w :: s) =
      onto (codePointBytes n) (contentFrom .plain s) := by
  have hmove : Place.move w (.digits none [x, y, z]) = .go (codePointBytes n) .plain := by
    simp [Place.move, Move.ofNumber, h, hlow, hhigh]
  rw [contentFrom_escapeNumber, contentFrom_digits, contentFrom, hmove]

/-- A number of sixteen bits is written with four digits. -/
theorem exists_hexQuad {n : Nat} (h : n < 0x10000) : ∃ x y z w,
    Utf8.encode (Hex.digits 4 n) = [x, y, z, w] ∧ hexQuad? x y z w = some n := by
  obtain ⟨x, hx, hx'⟩ := Hex.value?_digit (n / 4096 % 16) (by omega)
  obtain ⟨y, hy, hy'⟩ := Hex.value?_digit (n / 256 % 16) (by omega)
  obtain ⟨z, hz, hz'⟩ := Hex.value?_digit (n / 16 % 16) (by omega)
  obtain ⟨w, hw, hw'⟩ := Hex.value?_digit (n % 16) (by omega)
  refine ⟨x, y, z, w, ?_, ?_⟩
  · rw [Hex.digits_four, Utf8.encode_cons, Utf8.encode_cons, Utf8.encode_cons, Utf8.encode_cons,
      hx, hy, hz, hw]
    rfl
  · simp only [hexQuad?, hx', hy', hz', hw', bind, Option.bind, pure]
    congr 1
    omega

theorem not_isSurrogate {n : Nat} (h : n < 0xD800) :
    isHighSurrogate n = false ∧ isLowSurrogate n = false := by
  simp only [isHighSurrogate, isLowSurrogate, Bool.and_eq_false_iff, decide_eq_false_iff_not]
  omega

theorem contentFrom_codePoint {n : Nat} (h : n < 0xD800) (s : Bytes) :
    contentFrom .plain (backslash :: lowerU :: (Utf8.encode (Hex.digits 4 n) ++ s)) =
      onto (codePointBytes n) (contentFrom .plain s) := by
  obtain ⟨x, y, z, w, hdigits, hnumber⟩ := exists_hexQuad (n := n) (by omega)
  obtain ⟨hhigh, hlow⟩ := not_isSurrogate h
  rw [hdigits]
  exact contentFrom_number hnumber hhigh hlow s

/-- The bytes of a character that needs no escape need none. -/
theorem plain_of_mem_utf8EncodeChar {c : Char} (hquote : c ≠ '"') (hbackslash : c ≠ '\\')
    (hcontrol : 0x20 ≤ c.toNat) :
    ∀ b ∈ String.utf8EncodeChar c, b ≠ quote ∧ b ≠ backslash ∧ ¬b < 0x20 := by
  intro b hb
  -- The byte of an ASCII character is none of these, and other bytes are too large for it.
  suffices h : b.toNat ≠ 0x22 ∧ b.toNat ≠ 0x5C ∧ 0x20 ≤ b.toNat by
    exact ⟨fun e => h.1 (by rw [e]; rfl), fun e => h.2.1 (by rw [e]; rfl),
      UInt8.not_lt.2 (UInt8.le_iff_toNat_le.2 h.2.2)⟩
  rcases Nat.lt_or_ge c.toNat 0x80 with hlt | hge
  · rw [Utf8.utf8EncodeChar_of_lt hlt, List.mem_singleton] at hb
    have hb' : b.toNat = c.toNat := by rw [hb, UInt8.toNat_ofNat', Nat.mod_eq_of_lt (by omega)]
    rw [hb']
    exact ⟨fun e => hquote (Char.toNat_inj.1 e), fun e => hbackslash (Char.toNat_inj.1 e),
      hcontrol⟩
  · have := Utf8.le_of_mem_utf8EncodeChar hge b hb
    omega

/-- **A character of a JSON string is read back as its own bytes,** whatever follows. -/
theorem contentFrom_jsonChar (c : Char) (s : Bytes) :
    contentFrom .plain (Utf8.encode (Quoted.jsonChar c) ++ s) =
      onto (String.utf8EncodeChar c) (contentFrom .plain s) := by
  unfold Quoted.jsonChar
  split
  · exact contentFrom_escape quote rfl s
  · exact contentFrom_escape _ rfl s
  · exact contentFrom_escape _ rfl s
  · exact contentFrom_escape _ rfl s
  · exact contentFrom_escape _ rfl s
  · rename_i hquote hbackslash _ _ _
    split
    · rename_i h
      rw [Utf8.utf8EncodeChar_of_lt (by omega), h]
      exact contentFrom_escape _ rfl s
    split
    · rename_i h
      rw [Utf8.utf8EncodeChar_of_lt (by omega), h]
      exact contentFrom_escape _ rfl s
    split
    · have h := contentFrom_codePoint (n := c.toNat) (by omega) s
      rwa [codePointBytes, Char.ofNat_toNat] at h
    · rename_i hcontrol
      rw [Utf8.encode_cons, Utf8.encode_nil, List.append_nil]
      exact contentFrom_append (plain_of_mem_utf8EncodeChar hquote hbackslash (by omega)) s

/-- The characters of a JSON string and its closing quote. -/
theorem contentFrom_quoted (cs : List Char) (rest : Bytes) :
    contentFrom .plain (Utf8.encode (cs.flatMap Quoted.jsonChar) ++ quote :: rest) =
      .ok (Utf8.encode cs, rest) := by
  induction cs with
  | nil => rfl
  | cons c cs ih =>
    rw [List.flatMap_cons, Utf8.encode_append, List.append_assoc, contentFrom_jsonChar, ih,
      Utf8.encode_cons]
    rfl

/-- **A JSON string is read back as its text.** -/
theorem string_quoted (cs : List Char) (rest : Bytes) :
    string (Utf8.encode (cs.flatMap Quoted.jsonChar) ++ quote :: rest) =
      .ok (String.ofList cs, rest) := by
  have htext : Utf8.toString? (Utf8.encode cs) = some (String.ofList cs) := by
    rw [Utf8.toString?, Utf8.decode_encode, Option.map_some]
  unfold string
  rw [contentFrom_quoted, ok_bind]
  simp only [htext]

end Json
end SharedBudget
