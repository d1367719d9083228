/-
# Texts in the order of their bytes

Strings are ordered by their characters, and characters by their code points.  UTF-8
keeps this order: a character with a smaller code point has smaller bytes, whatever
comes after them (`Utf8.utf8EncodeChar_append_lt`), and so has a smaller text
(`Utf8.ofString_lt_ofString`).
-/

import SharedBudget.Text.Utf8
import Mathlib.Data.Nat.Notation
import Mathlib.Tactic.SplitIfs

namespace SharedBudget
namespace Utf8

/-- The smaller one of two numbers has the smaller quotient, or else the smaller remainder. -/
theorem div_lt_or_mod_lt {m n : ℕ} (h : m < n) :
    m / 64 < n / 64 ∨ m / 64 = n / 64 ∧ m % 64 < n % 64 := by
  omega

/-- **The bytes of a smaller character are smaller,** whatever follows. -/
theorem utf8EncodeChar_append_lt {c d : Char} (h : c < d) (bs bs' : Bytes) :
    String.utf8EncodeChar c ++ bs < String.utf8EncodeChar d ++ bs' := by
  have hlt : c.toNat < d.toNat := h
  have hc := toNat_lt c
  have hd := toNat_lt d
  have hdigits := div_lt_or_mod_lt hlt
  have hlead {c : Char} (h : c.toNat < 0x110000) : c.toNat / 262144 % 8 = c.toNat / 262144 := by
    omega
  have hbyte {n : ℕ} (h : n < 256) : (UInt8.ofNat n).toNat = n :=
    UInt8.toNat_ofNat_of_lt' h
  unfold String.utf8EncodeChar
  simp only [show c.val.toNat = c.toNat from rfl, show d.val.toNat = d.toNat from rfl, hlead hc,
    hlead hd]
  -- A character with more bytes has a larger first byte; with the same number of bytes, these
  -- are the digits of the code points to base 64.
  split_ifs
  all_goals
    simp only [List.cons_append, List.nil_append, List.cons_lt_cons_iff, UInt8.lt_iff_toNat_lt,
      ← UInt8.toNat_inj]
    simp (disch := omega) only [hbyte]
    omega

/-- **The bytes of a smaller text are smaller.** -/
theorem encode_lt_encode {cs ds : List Char} (h : cs < ds) : encode cs < encode ds := by
  induction h with
  | @nil d ds =>
    obtain ⟨b, bs, hbytes⟩ : ∃ b bs, String.utf8EncodeChar d = b :: bs :=
      List.exists_cons_of_ne_nil (List.ne_nil_of_length_pos (by simp [Char.utf8Size_pos]))
    rw [encode, encode, List.flatMap_cons, hbytes]
    exact List.nil_lt_cons ..
  | rel h =>
    rw [encode, encode, List.flatMap_cons, List.flatMap_cons]
    exact utf8EncodeChar_append_lt h ..
  | cons h ih =>
    rw [encode, encode, List.flatMap_cons, List.flatMap_cons]
    exact List.append_left_lt ih

theorem ofString_lt_ofString {a b : String} (h : a < b) : ofString a < ofString b :=
  encode_lt_encode (String.lt_iff.1 h)

end Utf8
end SharedBudget
