/-
# Base64 has one text for each byte string

A text is Base64 for a byte string if it writes its bits down (`Base64.IsTextOf`): with
two zero bits for each of at most two padding signs behind them, the bits are cut into
digits of six, and the text consists of the symbols of the digits and then the padding
signs.  The bytes settle the digits, so there is only one such text
(`Base64.IsTextOf.unique`), and the one that is written (`Base64.isTextOf_encode`) is
the only one that is read (`Base64.decode_eq_ok_iff`).
-/

import SharedBudget.Proofs.Text.Base64
import Mathlib.Data.Nat.Digits.Defs
import Mathlib.Tactic.Ring

namespace SharedBudget
namespace Base64

/-! ## What is read was written -/

theorem symbol_of_value? {b : UInt8} {n : ℕ} (h : value? b = some n) : n < 64 ∧ symbol n = b := by
  have hall : ∀ m < 256, ∀ n ∈ value? (.ofNat m), n < 64 ∧ symbol n = .ofNat m := by
    decide +kernel
  have hb := hall b.toNat b.toNat_lt
  rw [UInt8.ofNat_toNat] at hb
  exact hb n h

theorem symbol_of_symbolAt {offset n : ℕ} {b : UInt8} (h : symbolAt offset b = .ok n) :
    n < 64 ∧ symbol n = b := by
  unfold symbolAt at h
  split at h
  · rename_i m hm
    obtain rfl := Except.ok.inj h
    exact symbol_of_value? hm
  · cases h

/-- The last group consists of the symbols that are read and the padding signs counted. -/
theorem eq_of_lastGroup {offset index signs : ℕ} {group : Bytes} {ns : List ℕ}
    (h : lastGroup offset index group = .ok (ns, signs)) :
    group = ns.map symbol ++ List.replicate signs padding ∧ ∀ n ∈ ns, n < 64 := by
  induction group generalizing index ns signs with
  | nil =>
    obtain ⟨rfl, rfl⟩ := Prod.mk.inj (Except.ok.inj h)
    exact ⟨rfl, nofun⟩
  | cons b rest ih =>
    rw [lastGroup] at h
    split_ifs at h with hpadding hindex hall
    · obtain ⟨rfl, rfl⟩ := Prod.mk.inj (Except.ok.inj h)
      refine ⟨List.eq_replicate_iff.2 ⟨rfl, ?_⟩, nofun⟩
      rw [List.forall_mem_cons]
      exact ⟨hpadding, by simpa using hall⟩
    · obtain ⟨n, hn, h⟩ := bind_eq_ok_iff.1 h
      obtain ⟨⟨more, signs'⟩, hrest, h⟩ := bind_eq_ok_iff.1 h
      obtain ⟨rfl, rfl⟩ := Prod.mk.inj (Except.ok.inj h)
      obtain ⟨hlt, hsymbol⟩ := symbol_of_symbolAt hn
      obtain ⟨hgroup, hmore⟩ := ih hrest
      exact ⟨by rw [hgroup, ← hsymbol]; rfl, List.forall_mem_cons.2 ⟨hlt, hmore⟩⟩

/-- A last group is read only if it has two symbols or more, is filled up, and leaves no bits
over. -/
theorem exists_of_decodeLast {offset : ℕ} {group blob : Bytes}
    (h : decodeLast offset group = .ok blob) : ∃ ns signs,
      lastGroup offset 0 group = .ok (ns, signs) ∧ 2 ≤ ns.length ∧ (ns.length + signs) % 4 = 0 ∧
        lastBytes ns = (blob, 0) := by
  unfold decodeLast at h
  obtain ⟨⟨ns, signs⟩, hgroup, h⟩ := bind_eq_ok_iff.1 h
  dsimp only at h
  by_cases hfew : ns.length < 2
  · rw [if_pos hfew] at h
    cases h
  rw [if_neg hfew] at h
  by_cases hfull : (ns.length + signs) % 4 ≠ 0
  · rw [if_pos hfull] at h
    cases h
  rw [if_neg hfull] at h
  by_cases hleft : (lastBytes ns).2 ≠ 0
  · rw [if_pos hleft] at h
    cases h
  rw [if_neg hleft] at h
  refine ⟨ns, signs, hgroup, not_lt.1 hfew, not_not.1 hfull, ?_⟩
  rw [← Except.ok.inj h, ← not_not.1 hleft]

theorem toNat_ofNat_byte {n : ℕ} (h : n < 256) : (UInt8.ofNat n).toNat = n :=
  UInt8.toNat_ofNat_of_lt' h

/-- Four symbols in a row are the text of the three bytes that they are read as. -/
theorem encode_symbols {a b c d : ℕ} (ha : a < 64) (hb : b < 64) (hc : c < 64) (hd : d < 64)
    (rest : Bytes) :
    encode (UInt8.ofNat (a * 4 + b / 16) :: UInt8.ofNat (b % 16 * 16 + c / 4) ::
        UInt8.ofNat (c % 4 * 64 + d) :: rest) =
      symbol a :: symbol b :: symbol c :: symbol d :: encode rest := by
  rw [encode, toNat_ofNat_byte (n := a * 4 + b / 16) (by omega),
    toNat_ofNat_byte (n := b % 16 * 16 + c / 4) (by omega),
    toNat_ofNat_byte (n := c % 4 * 64 + d) (by omega), show (a * 4 + b / 16) / 4 = a by omega,
    show (a * 4 + b / 16) % 4 * 16 + (b % 16 * 16 + c / 4) / 16 = b by omega,
    show (b % 16 * 16 + c / 4) % 16 * 4 + (c % 4 * 64 + d) / 64 = c by omega,
    show (c % 4 * 64 + d) % 64 = d by omega]

/-- A last group is read only if it is the text of its bytes. -/
theorem eq_encode_of_decodeLast {offset : ℕ} {group blob : Bytes} (hlength : group.length ≤ 4)
    (h : decodeLast offset group = .ok blob) : group = encode blob := by
  obtain ⟨ns, signs, hgroup, hfew, hfull, hbytes⟩ := exists_of_decodeLast h
  obtain ⟨rfl, hlt⟩ := eq_of_lastGroup hgroup
  rw [List.length_append, List.length_map, List.length_replicate] at hlength
  have hfour : ns.length + signs = 4 := by omega
  match ns, hfew with
  | [a, b], _ =>
    obtain rfl : signs = 2 := Nat.add_left_cancel hfour
    simp only [List.forall_mem_cons, List.not_mem_nil] at hlt
    obtain ⟨rfl, hleft⟩ := Prod.mk.inj hbytes
    rw [encode, toNat_ofNat_byte (n := a * 4 + b / 16) (by omega),
      show (a * 4 + b / 16) / 4 = a by omega, show (a * 4 + b / 16) % 4 * 16 = b by omega]
    rfl
  | [a, b, c], _ =>
    obtain rfl : signs = 1 := Nat.add_left_cancel hfour
    simp only [List.forall_mem_cons, List.not_mem_nil] at hlt
    obtain ⟨rfl, hleft⟩ := Prod.mk.inj hbytes
    rw [encode, toNat_ofNat_byte (n := a * 4 + b / 16) (by omega),
      toNat_ofNat_byte (n := b % 16 * 16 + c / 4) (by omega),
      show (a * 4 + b / 16) / 4 = a by omega,
      show (a * 4 + b / 16) % 4 * 16 + (b % 16 * 16 + c / 4) / 16 = b by omega,
      show (b % 16 * 16 + c / 4) % 16 * 4 = c by omega]
    rfl
  | [a, b, c, d], _ =>
    obtain rfl : signs = 0 := Nat.add_left_cancel hfour
    simp only [List.forall_mem_cons, List.not_mem_nil] at hlt
    obtain ⟨rfl, -⟩ := Prod.mk.inj hbytes
    rw [encode_symbols hlt.1 hlt.2.1 hlt.2.2.1 hlt.2.2.2.1]
    rfl
  | _ :: _ :: _ :: _ :: _ :: _, _ =>
    simp only [List.length_cons] at hfour
    omega

theorem exists_of_four_lt {text : Bytes} (h : 4 < text.length) :
    ∃ a b c d e rest, text = a :: b :: c :: d :: e :: rest := by
  rcases text with _ | ⟨a, _ | ⟨b, _ | ⟨c, _ | ⟨d, _ | ⟨e, rest⟩⟩⟩⟩⟩
  · simp at h
  · simp at h
  · simp at h
  · simp at h
  · simp at h
  · exact ⟨a, b, c, d, e, rest, rfl⟩

/-- Groups are read only if they are the text of their bytes. -/
theorem eq_encode_of_decodeGroups {offset : ℕ} {text blob : Bytes}
    (h : decodeGroups offset text = .ok blob) : text = encode blob := by
  induction offset, text using decodeGroups.induct generalizing blob with
  | case1 offset a b c d e rest ih =>
    rw [decodeGroups] at h
    obtain ⟨n₁, h₁, h⟩ := bind_eq_ok_iff.1 h
    obtain ⟨n₂, h₂, h⟩ := bind_eq_ok_iff.1 h
    obtain ⟨n₃, h₃, h⟩ := bind_eq_ok_iff.1 h
    obtain ⟨n₄, h₄, h⟩ := bind_eq_ok_iff.1 h
    obtain ⟨more, hmore, h⟩ := bind_eq_ok_iff.1 h
    obtain rfl := Except.ok.inj h
    obtain ⟨hlt₁, rfl⟩ := symbol_of_symbolAt h₁
    obtain ⟨hlt₂, rfl⟩ := symbol_of_symbolAt h₂
    obtain ⟨hlt₃, rfl⟩ := symbol_of_symbolAt h₃
    obtain ⟨hlt₄, rfl⟩ := symbol_of_symbolAt h₄
    rw [encode_symbols hlt₁ hlt₂ hlt₃ hlt₄, ← ih hmore]
  | case2 offset group hshort =>
    rw [decodeGroups.eq_2 _ _ hshort] at h
    refine eq_encode_of_decodeLast ?_ h
    by_contra hlong
    obtain ⟨a, b, c, d, e, rest, rfl⟩ := exists_of_four_lt (not_le.1 hlong)
    exact hshort a b c d e rest rfl

/-- **A text is read as its bytes and nothing else is read:** what is read is the text of what
it is read as. -/
theorem decode_eq_ok_iff {text blob : Bytes} : decode text = .ok blob ↔ text = encode blob := by
  refine ⟨fun h => ?_, fun h => h ▸ decode_encode blob⟩
  unfold decode at h
  split at h
  · split_ifs at h
    exact eq_encode_of_decodeGroups h
  · rename_i hlast
    obtain rfl := Except.ok.inj h
    exact List.getLast?_eq_none_iff.1 hlast

/-! ## What a text says -/

/-- The number that digits stand for in a base, the first digit being the greatest. -/
def number (base : ℕ) (digits : List ℕ) : ℕ := Nat.ofDigits base digits.reverse

theorem number_nil (base : ℕ) : number base [] = 0 := rfl

theorem number_cons (base d : ℕ) (digits : List ℕ) :
    number base (d :: digits) = d * base ^ digits.length + number base digits := by
  rw [number, Nat.ofDigits_reverse_cons, number, Nat.mul_comm, Nat.add_comm]

/-- Digits of the same length that stand for the same number are the same. -/
theorem number_inj {base : ℕ} {digits digits' : List ℕ} (hbase : 1 < base)
    (hlength : digits.length = digits'.length) (hlt : ∀ d ∈ digits, d < base)
    (hlt' : ∀ d ∈ digits', d < base) (h : number base digits = number base digits') :
    digits = digits' := by
  refine List.reverse_inj.1 (Nat.ofDigits_inj_of_len_eq hbase ?_ ?_ ?_ h)
  · simpa using hlength
  · simpa using hlt
  · simpa using hlt'

/-- The text writes the bits of the byte string down, six by six: there are digits below 64 whose
symbols come first, and at most two padding signs after them, which fill up the last of the groups
of four places, each for three bytes.  The digits are the bytes with two zero bits behind them for
every padding sign. -/
def IsTextOf (text blob : Bytes) : Prop :=
  ∃ (digits : List ℕ) (signs groups : ℕ),
    text = digits.map symbol ++ List.replicate signs padding ∧ (∀ d ∈ digits, d < 64) ∧
      signs < 3 ∧ digits.length + signs = 4 * groups ∧ blob.length + signs = 3 * groups ∧
        number 64 digits = number 256 (blob.map UInt8.toNat) * 4 ^ signs

/-- Three bytes in front are four digits in front. -/
theorem IsTextOf.cons {text blob : Bytes} (h : IsTextOf text blob) (a b c : UInt8) :
    IsTextOf (symbol (a.toNat / 4) :: symbol (a.toNat % 4 * 16 + b.toNat / 16) ::
      symbol (b.toNat % 16 * 4 + c.toNat / 64) :: symbol (c.toNat % 64) :: text)
      (a :: b :: c :: blob) := by
  obtain ⟨digits, signs, groups, rfl, hlt, hsigns, hplaces, hbytes, hnumber⟩ := h
  have ha := byte_lt a
  have hb := byte_lt b
  have hc := byte_lt c
  refine ⟨a.toNat / 4 :: (a.toNat % 4 * 16 + b.toNat / 16) ::
    (b.toNat % 16 * 4 + c.toNat / 64) :: c.toNat % 64 :: digits, signs, groups + 1, rfl, ?_,
    hsigns, ?_, ?_, ?_⟩
  · simp only [List.forall_mem_cons]
    exact ⟨by omega, by omega, by omega, by omega, hlt⟩
  · simp only [List.length_cons]
    omega
  · simp only [List.length_cons]
    omega
  · have hpower : 64 ^ digits.length = 256 ^ blob.length * 4 ^ signs := by
      rw [show 64 = 4 ^ 3 from rfl, show 256 = 4 ^ 4 from rfl, ← pow_mul, ← pow_mul, ← pow_add,
        show 3 * digits.length = 4 * blob.length + signs by omega]
    have hthree : a.toNat / 4 * 64 ^ 3 + (a.toNat % 4 * 16 + b.toNat / 16) * 64 ^ 2 +
        (b.toNat % 16 * 4 + c.toNat / 64) * 64 + c.toNat % 64 =
        a.toNat * 256 ^ 2 + b.toNat * 256 + c.toNat := by omega
    simp only [List.map_cons, number_cons, List.length_cons, List.length_map, hnumber]
    calc _ = (a.toNat / 4 * 64 ^ 3 + (a.toNat % 4 * 16 + b.toNat / 16) * 64 ^ 2 +
          (b.toNat % 16 * 4 + c.toNat / 64) * 64 + c.toNat % 64) * 64 ^ digits.length +
            number 256 (blob.map UInt8.toNat) * 4 ^ signs := by ring
      _ = _ := by
        rw [hthree, hpower]
        ring

/-- **What is written is the text of the bytes.** -/
theorem isTextOf_encode (blob : Bytes) : IsTextOf (encode blob) blob := by
  induction blob using encode.induct with
  | case1 => exact ⟨[], 0, 0, rfl, List.forall_mem_nil _, by decide, rfl, rfl, rfl⟩
  | case2 a =>
    have ha := byte_lt a
    refine ⟨[a.toNat / 4, a.toNat % 4 * 16], 2, 1, rfl, ?_, by decide, rfl, rfl, ?_⟩
    · simp only [List.forall_mem_cons, List.not_mem_nil, false_imp_iff, implies_true, and_true]
      omega
    · simp only [List.map_cons, List.map_nil, number_cons, number_nil, List.length_cons,
        List.length_nil]
      omega
  | case3 a b =>
    have ha := byte_lt a
    have hb := byte_lt b
    refine ⟨[a.toNat / 4, a.toNat % 4 * 16 + b.toNat / 16, b.toNat % 16 * 4], 1, 1, rfl, ?_,
      by decide, rfl, rfl, ?_⟩
    · simp only [List.forall_mem_cons, List.not_mem_nil, false_imp_iff, implies_true, and_true]
      omega
    · simp only [List.map_cons, List.map_nil, number_cons, number_nil, List.length_cons,
        List.length_nil]
      omega
  | case4 a b c rest ih => exact ih.cons a b c

/-- **There is one text of the bytes only.** -/
theorem IsTextOf.unique {text text' blob : Bytes} (h : IsTextOf text blob)
    (h' : IsTextOf text' blob) : text = text' := by
  obtain ⟨digits, signs, groups, rfl, hlt, hsigns, hplaces, hbytes, hnumber⟩ := h
  obtain ⟨digits', signs', groups', rfl, hlt', hsigns', hplaces', hbytes', hnumber'⟩ := h'
  -- The number of bytes leaves one number of padding signs below three.
  obtain rfl : signs = signs' := by omega
  have hdigits : digits = digits' :=
    number_inj (by decide) (by omega) hlt hlt' (hnumber.trans hnumber'.symm)
  rw [hdigits]

theorem isTextOf_iff {text blob : Bytes} : IsTextOf text blob ↔ text = encode blob := by
  constructor
  · intro h
    exact h.unique (isTextOf_encode blob)
  · rintro rfl
    exact isTextOf_encode blob

end Base64
end SharedBudget
