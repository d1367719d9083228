/-
# Text as bytes

Documents, checkpoints and blobs are byte strings; text inside them is UTF-8.
`Utf8.decode` accepts exactly the well-formed byte strings: the shortest form of
every character, no surrogates, nothing above U+10FFFF.  It undoes `Utf8.encode`
(`Utf8.decode_encode`).
-/

namespace SharedBudget

/-- A byte string. -/
abbrev Bytes := List UInt8

namespace Utf8

/-- The bytes of a text. -/
def encode (cs : List Char) : Bytes := cs.flatMap String.utf8EncodeChar

/-- The bytes of a string. -/
def ofString (s : String) : Bytes := encode s.toList

/-- The six payload bits of a continuation byte. -/
def continuation? (b : UInt8) : Option Nat :=
  if 0x80 ≤ b.toNat ∧ b.toNat < 0xC0 then some (b.toNat - 0x80) else none

/-- The character with this code point, unless it is below `least`, a surrogate
or too large. -/
def scalar? (least code : Nat) : Option Char :=
  if h : code.isValidChar then
    if least ≤ code then some (Char.ofNatAux code h) else none
  else none

/-- The first character of a byte string, read from a lead byte and the bytes after it. -/
def decode : Bytes → Option (List Char)
  | [] => some []
  | a :: as =>
    if a.toNat < 0x80 then (decode as).map (Char.ofNat a.toNat :: ·)
    else if a.toNat < 0xC0 then none
    else if a.toNat < 0xE0 then
      match as with
      | b :: bs => do
        let b ← continuation? b
        let c ← scalar? 0x80 ((a.toNat - 0xC0) * 64 + b)
        (decode bs).map (c :: ·)
      | _ => none
    else if a.toNat < 0xF0 then
      match as with
      | b :: c :: cs => do
        let b ← continuation? b
        let c ← continuation? c
        let d ← scalar? 0x800 (((a.toNat - 0xE0) * 64 + b) * 64 + c)
        (decode cs).map (d :: ·)
      | _ => none
    else if a.toNat < 0xF8 then
      match as with
      | b :: c :: d :: ds => do
        let b ← continuation? b
        let c ← continuation? c
        let d ← continuation? d
        let e ← scalar? 0x10000 ((((a.toNat - 0xF0) * 64 + b) * 64 + c) * 64 + d)
        (decode ds).map (e :: ·)
      | _ => none
    else none

/-- The string with these bytes, if they are well-formed. -/
def toString? (b : Bytes) : Option String := (decode b).map String.ofList

/-- The number of bytes of the first character, if a character comes first. -/
def leadingLength? (b : Bytes) : Option Nat :=
  [1, 2, 3, 4].find? fun n => (b.take n).length = n && (decode (b.take n)).isSome

/-- The number of well-formed bytes in front, `skip` bytes of a character being still ahead. -/
def validLengthFrom : (skip : Nat) → Bytes → Nat
  | _, [] => 0
  | skip + 1, _ :: bs => validLengthFrom skip bs + 1
  | 0, b :: bs =>
    match leadingLength? (b :: bs) with
    | some n => validLengthFrom (n - 1) bs + 1
    | none => 0

/-- The number of bytes before the first one that no character accounts for. -/
def validLength (b : Bytes) : Nat := validLengthFrom 0 b

theorem scalar?_toNat (c : Char) (least : Nat) (h : least ≤ c.toNat) :
    scalar? least c.toNat = some c := by
  have hv : c.toNat.isValidChar := c.valid
  rw [scalar?, dif_pos hv, if_pos h]
  rfl

theorem continuation?_ofNat {n : Nat} (h : n < 64) :
    continuation? (UInt8.ofNat (n + 0x80)) = some n := by
  have h1 : (UInt8.ofNat (n + 0x80)).toNat = n + 0x80 := by simp; omega
  rw [continuation?, h1, if_pos (by omega)]
  simp

theorem toNat_lt (c : Char) : c.toNat < 0x110000 := by
  rcases c.valid with h | h
  · exact Nat.lt_trans h (by decide)
  · exact h.2

/-- The first character is decoded from its own bytes, whatever follows. -/
theorem decode_utf8EncodeChar_append (c : Char) (bs : Bytes) :
    decode (String.utf8EncodeChar c ++ bs) = (decode bs).map (c :: ·) := by
  have hlt := toNat_lt c
  have lead {n : Nat} (h : n < 256) : (UInt8.ofNat n).toNat = n := by simp; omega
  unfold String.utf8EncodeChar
  simp only [show c.val.toNat = c.toNat from rfl]
  split
  · rw [List.singleton_append, decode.eq_def]
    simp only [lead (n := c.toNat) (by omega)]
    rw [if_pos (by omega), Char.ofNat_toNat]
  split
  · rw [List.cons_append, List.singleton_append, decode.eq_def]
    simp only [lead (n := c.toNat / 64 % 32 + 192) (by omega),
      continuation?_ofNat (n := c.toNat % 64) (by omega)]
    rw [if_neg (by omega), if_neg (by omega), if_pos (by omega)]
    have : (c.toNat / 64 % 32 + 192 - 0xC0) * 64 + c.toNat % 64 = c.toNat := by omega
    simp only [bind, Option.bind, this, scalar?_toNat c 0x80 (by omega)]
  split
  · rw [List.cons_append, List.cons_append, List.singleton_append, decode.eq_def]
    simp only [lead (n := c.toNat / 4096 % 16 + 224) (by omega),
      continuation?_ofNat (n := c.toNat / 64 % 64) (by omega),
      continuation?_ofNat (n := c.toNat % 64) (by omega)]
    rw [if_neg (by omega), if_neg (by omega), if_neg (by omega), if_pos (by omega)]
    have : ((c.toNat / 4096 % 16 + 224 - 0xE0) * 64 + c.toNat / 64 % 64) * 64 + c.toNat % 64 =
        c.toNat := by omega
    simp only [bind, Option.bind, this, scalar?_toNat c 0x800 (by omega)]
  · rw [List.cons_append, List.cons_append, List.cons_append, List.singleton_append, decode.eq_def]
    simp only [lead (n := c.toNat / 262144 % 8 + 240) (by omega),
      continuation?_ofNat (n := c.toNat / 4096 % 64) (by omega),
      continuation?_ofNat (n := c.toNat / 64 % 64) (by omega),
      continuation?_ofNat (n := c.toNat % 64) (by omega)]
    rw [if_neg (by omega), if_neg (by omega), if_neg (by omega), if_neg (by omega),
      if_pos (by omega)]
    have : (((c.toNat / 262144 % 8 + 240 - 0xF0) * 64 + c.toNat / 4096 % 64) * 64 +
        c.toNat / 64 % 64) * 64 + c.toNat % 64 = c.toNat := by omega
    simp only [bind, Option.bind, this, scalar?_toNat c 0x10000 (by omega)]

/-- **Decoding undoes encoding.** -/
theorem decode_encode (cs : List Char) : decode (encode cs) = some cs := by
  induction cs with
  | nil => rfl
  | cons c cs ih =>
    rw [encode, List.flatMap_cons, decode_utf8EncodeChar_append]
    rw [encode] at ih
    rw [ih]
    rfl

end Utf8

end SharedBudget
