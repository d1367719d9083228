/-
# Base64 read back

The text of a byte string consists of symbols and padding signs, all of them ASCII,
and it is read back as the byte string (`Base64.decode_encode`).  The recursion
takes three bytes and four symbols at a time; what is left at the end are one, two
or three bytes, whose group `Base64.decodeLast` reads.
-/

import SharedBudget.Proofs.Log.Outcome
import SharedBudget.Text.Base64
import Mathlib.Data.Nat.Notation

namespace SharedBudget
namespace Base64

theorem symbol_spec : ∀ n < 64, value? (symbol n) = some n ∧ symbol n ≠ padding ∧
    (symbol n).toNat < 0x80 := by decide

theorem symbolAt_symbol (offset : ℕ) {n : ℕ} (h : n < 64) : symbolAt offset (symbol n) = .ok n := by
  rw [symbolAt, (symbol_spec n h).1]

/-- A symbol of the last group stands in front of the others. -/
theorem lastGroup_symbol {offset index n signs : ℕ} {ns : List ℕ} {rest : Bytes} (h : n < 64)
    (hrest : lastGroup offset (index + 1) rest = .ok (ns, signs)) :
    lastGroup offset index (symbol n :: rest) = .ok (n :: ns, signs) := by
  rw [lastGroup, if_neg (symbol_spec n h).2.1, symbolAt_symbol _ h, ok_bind, hrest]
  rfl

theorem byte_lt (b : UInt8) : b.toNat < 256 := b.toNat_lt

theorem ofNat_eq_byte {n : ℕ} {b : UInt8} (h : n = b.toNat) : UInt8.ofNat n = b := by
  rw [h, UInt8.ofNat_toNat]

/-! ## The last group -/

theorem decodeLast_one (offset : ℕ) (a : UInt8) : decodeLast offset (encode [a]) = .ok [a] := by
  have ha := byte_lt a
  have hgroup : lastGroup offset 0 (encode [a]) = .ok ([a.toNat / 4, a.toNat % 4 * 16], 2) :=
    lastGroup_symbol (by omega) (lastGroup_symbol (by omega) rfl)
  have hbytes : lastBytes [a.toNat / 4, a.toNat % 4 * 16] = ([a], 0) := by
    rw [lastBytes, ofNat_eq_byte (b := a) (by omega), show a.toNat % 4 * 16 % 16 = 0 by omega]
  rw [decodeLast, hgroup, ok_bind]
  simp [hbytes]
  rfl

theorem decodeLast_two (offset : ℕ) (a b : UInt8) :
    decodeLast offset (encode [a, b]) = .ok [a, b] := by
  have ha := byte_lt a
  have hb := byte_lt b
  have hgroup : lastGroup offset 0 (encode [a, b]) =
      .ok ([a.toNat / 4, a.toNat % 4 * 16 + b.toNat / 16, b.toNat % 16 * 4], 1) :=
    lastGroup_symbol (by omega) (lastGroup_symbol (by omega) (lastGroup_symbol (by omega) rfl))
  have hbytes : lastBytes [a.toNat / 4, a.toNat % 4 * 16 + b.toNat / 16, b.toNat % 16 * 4] =
      ([a, b], 0) := by
    rw [lastBytes, ofNat_eq_byte (b := a) (by omega), ofNat_eq_byte (b := b) (by omega),
      show b.toNat % 16 * 4 % 4 = 0 by omega]
  rw [decodeLast, hgroup, ok_bind]
  simp [hbytes]
  rfl

theorem decodeLast_three (offset : ℕ) (a b c : UInt8) :
    decodeLast offset (encode [a, b, c]) = .ok [a, b, c] := by
  have ha := byte_lt a
  have hb := byte_lt b
  have hc := byte_lt c
  have hgroup : lastGroup offset 0 (encode [a, b, c]) =
      .ok ([a.toNat / 4, a.toNat % 4 * 16 + b.toNat / 16, b.toNat % 16 * 4 + c.toNat / 64,
        c.toNat % 64], 0) :=
    lastGroup_symbol (by omega) (lastGroup_symbol (by omega) (lastGroup_symbol (by omega)
      (lastGroup_symbol (by omega) rfl)))
  have hbytes : lastBytes [a.toNat / 4, a.toNat % 4 * 16 + b.toNat / 16,
      b.toNat % 16 * 4 + c.toNat / 64, c.toNat % 64] = ([a, b, c], 0) := by
    rw [lastBytes, ofNat_eq_byte (b := a) (by omega), ofNat_eq_byte (b := b) (by omega),
      ofNat_eq_byte (b := c) (by omega)]
  rw [decodeLast, hgroup, ok_bind]
  simp [hbytes]
  rfl

/-! ## All groups -/

theorem encode_ne_nil {blob : Bytes} (h : blob ≠ []) : encode blob ≠ [] := by
  unfold encode
  split
  · exact absurd rfl h
  · exact nofun
  · exact nofun
  · exact nofun

/-- The groups of a byte string that is not empty are read back. -/
theorem decodeGroups_encode {blob : Bytes} (h : blob ≠ []) (offset : ℕ) :
    decodeGroups offset (encode blob) = .ok blob := by
  induction blob using encode.induct generalizing offset with
  | case1 => exact absurd rfl h
  | case2 a => exact decodeLast_one offset a
  | case3 a b => exact decodeLast_two offset a b
  | case4 a b c rest ih =>
    rcases List.eq_nil_or_concat rest with rfl | hrest
    · exact decodeLast_three offset a b c
    · have hne : rest ≠ [] := by
        obtain ⟨front, last, rfl⟩ := hrest
        simp
      have ha := byte_lt a
      have hb := byte_lt b
      have hc := byte_lt c
      have hmore := ih hne (offset + 4)
      obtain ⟨e, more, hencode⟩ := List.exists_cons_of_ne_nil (encode_ne_nil hne)
      rw [hencode] at hmore
      rw [encode, hencode, decodeGroups, symbolAt_symbol _ (by omega), ok_bind,
        symbolAt_symbol _ (by omega), ok_bind, symbolAt_symbol _ (by omega), ok_bind,
        symbolAt_symbol _ (by omega), ok_bind, hmore, ok_bind, ofNat_eq_byte (b := a) (by omega),
        ofNat_eq_byte (b := b) (by omega), ofNat_eq_byte (b := c) (by omega)]
      rfl

theorem length_encode (blob : Bytes) : (encode blob).length % 4 = 0 := by
  induction blob using encode.induct with
  | case1 => rfl
  | case2 a => simp [encode]
  | case3 a b => simp [encode]
  | case4 a b c rest ih =>
    rw [encode, List.length_cons, List.length_cons, List.length_cons, List.length_cons]
    omega

/-- **The text of a byte string is read back as the byte string.** -/
theorem decode_encode (blob : Bytes) : decode (encode blob) = .ok blob := by
  have hlength := length_encode blob
  unfold decode
  split
  · rename_i last hlast
    rw [if_neg (by omega)]
    refine decodeGroups_encode ?_ 0
    rintro rfl
    cases hlast
  · rename_i hlast
    cases blob with
    | nil => rfl
    | cons b blob =>
      exact absurd (List.getLast?_eq_none_iff.1 hlast) (encode_ne_nil (List.cons_ne_nil b blob))

/-- The text of a byte string is ASCII. -/
theorem toNat_lt_of_mem_encode {blob : Bytes} : ∀ b ∈ encode blob, b.toNat < 0x80 := by
  have hsymbol {n : ℕ} (h : n < 64) : (symbol n).toNat < 0x80 := (symbol_spec n h).2.2
  have hpadding : padding.toNat < 0x80 := by decide
  induction blob using encode.induct with
  | case1 => exact nofun
  | case2 a =>
    have ha := byte_lt a
    simp only [encode, List.forall_mem_cons, List.not_mem_nil, false_imp_iff, implies_true, and_true]
    exact ⟨hsymbol (by omega), hsymbol (by omega), hpadding, hpadding⟩
  | case3 a b =>
    have ha := byte_lt a
    have hb := byte_lt b
    simp only [encode, List.forall_mem_cons, List.not_mem_nil, false_imp_iff, implies_true, and_true]
    exact ⟨hsymbol (by omega), hsymbol (by omega), hsymbol (by omega), hpadding⟩
  | case4 a b c rest ih =>
    have ha := byte_lt a
    have hb := byte_lt b
    have hc := byte_lt c
    simp only [encode, List.forall_mem_cons]
    exact ⟨hsymbol (by omega), hsymbol (by omega), hsymbol (by omega), hsymbol (by omega), ih⟩

end Base64
end SharedBudget
