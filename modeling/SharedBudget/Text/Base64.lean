/-
# Base64 with padding

The standard alphabet, four symbols for three bytes, the last group filled up
with `=`.  Reading accepts canonical text only: padding is required, and the bits
of the last symbol that stand for no byte are zero.
-/
import SharedBudget.Text.Utf8

namespace SharedBudget.Base64

/-- The symbol of a number below 64. -/
def symbol (n : Nat) : UInt8 :=
  if n < 26 then UInt8.ofNat (0x41 + n)
  else if n < 52 then UInt8.ofNat (0x61 + (n - 26))
  else if n < 62 then UInt8.ofNat (0x30 + (n - 52))
  else if n = 62 then 0x2B
  else 0x2F

/-- The number of a symbol. -/
def value? (b : UInt8) : Option Nat :=
  if 0x41 ≤ b.toNat ∧ b.toNat ≤ 0x5A then some (b.toNat - 0x41)
  else if 0x61 ≤ b.toNat ∧ b.toNat ≤ 0x7A then some (b.toNat - 0x61 + 26)
  else if 0x30 ≤ b.toNat ∧ b.toNat ≤ 0x39 then some (b.toNat - 0x30 + 52)
  else if b = 0x2B then some 62
  else if b = 0x2F then some 63
  else none

/-- The sign `=` that fills up the last group. -/
def padding : UInt8 := 0x3D

/-- The Base64 text of a byte string. -/
def encode : Bytes → Bytes
  | [] => []
  | [a] =>
    [symbol (a.toNat / 4), symbol (a.toNat % 4 * 16), padding, padding]
  | [a, b] =>
    [symbol (a.toNat / 4), symbol (a.toNat % 4 * 16 + b.toNat / 16),
      symbol (b.toNat % 16 * 4), padding]
  | a :: b :: c :: rest =>
    symbol (a.toNat / 4) :: symbol (a.toNat % 4 * 16 + b.toNat / 16) ::
      symbol (b.toNat % 16 * 4 + c.toNat / 64) :: symbol (c.toNat % 64) :: encode rest

/-- Why a text is not the encoding of any byte string. -/
inductive Error where
  /-- A byte that may not stand at this offset. -/
  | invalidSymbol (byte : UInt8) (offset : Nat)
  /-- A last group with fewer than two symbols; `length` counts the symbols of the text. -/
  | invalidLength (length : Nat)
  /-- The bits of the last symbol that stand for no byte are not zero. -/
  | invalidLastSymbol (byte : UInt8) (offset : Nat)
  /-- The last group is not filled up to four. -/
  | invalidPadding
deriving DecidableEq, Repr

/-- The wording of an error. -/
def Error.message : Error → String
  | .invalidSymbol byte offset => s!"Invalid symbol {byte.toNat}, offset {offset}."
  | .invalidLength length => s!"Invalid input length: {length}"
  | .invalidLastSymbol byte offset => s!"Invalid last symbol {byte.toNat}, offset {offset}."
  | .invalidPadding => "Invalid padding"

/-- The value of the symbol at `offset`. -/
def symbolAt (offset : Nat) (b : UInt8) : Except Error Nat :=
  match value? b with
  | some n => .ok n
  | none => .error (.invalidSymbol b offset)

/-- The symbols of the last group from its position `index` on, and the number of padding
signs after them.  A padding sign belongs into the third or fourth place; a byte
other than a padding sign after one makes the first padding sign the invalid byte. -/
def lastGroup (offset index : Nat) : Bytes → Except Error (List Nat × Nat)
  | [] => .ok ([], 0)
  | b :: rest =>
    if b = padding then
      if index < 2 then .error (.invalidSymbol b (offset + index))
      else if rest.all (· = padding) then .ok ([], rest.length + 1)
      else .error (.invalidSymbol b (offset + index))
    else do
      let n ← symbolAt (offset + index) b
      let (ns, signs) ← lastGroup offset (index + 1) rest
      return (n :: ns, signs)

/-- The bytes of a last group with these symbols, and the bits left over. -/
def lastBytes : List Nat → Bytes × Nat
  | [a, b] => ([UInt8.ofNat (a * 4 + b / 16)], b % 16)
  | [a, b, c] => ([UInt8.ofNat (a * 4 + b / 16), UInt8.ofNat (b % 16 * 16 + c / 4)], c % 4)
  | [a, b, c, d] =>
    ([UInt8.ofNat (a * 4 + b / 16), UInt8.ofNat (b % 16 * 16 + c / 4),
      UInt8.ofNat (c % 4 * 64 + d)], 0)
  | _ => ([], 0)

/-- Reads the last group, at most four bytes, which begins at `offset`. -/
def decodeLast (offset : Nat) (group : Bytes) : Except Error Bytes := do
  let (symbols, signs) ← lastGroup offset 0 group
  if symbols.length < 2 then throw (.invalidLength (offset + symbols.length))
  if (symbols.length + signs) % 4 ≠ 0 then throw .invalidPadding
  let (bytes, left) := lastBytes symbols
  if left ≠ 0 then
    throw (.invalidLastSymbol (group.getD (symbols.length - 1) 0) (offset + symbols.length - 1))
  return bytes

/-- Reads the groups of a text from `offset` on, all but the last one being full. -/
def decodeGroups (offset : Nat) : Bytes → Except Error Bytes
  | a :: b :: c :: d :: e :: rest => do
    let a ← symbolAt offset a
    let b ← symbolAt (offset + 1) b
    let c ← symbolAt (offset + 2) c
    let d ← symbolAt (offset + 3) d
    let bytes ← decodeGroups (offset + 4) (e :: rest)
    return UInt8.ofNat (a * 4 + b / 16) :: UInt8.ofNat (b % 16 * 16 + c / 4) ::
      UInt8.ofNat (c % 4 * 64 + d) :: bytes
  | group => decodeLast offset group

/-- The bytes that a text encodes.  A text with one byte too many, which is
neither a symbol nor a padding sign, is refused for that byte first of all. -/
def decode (text : Bytes) : Except Error Bytes :=
  match text.getLast? with
  | some last =>
    if text.length % 4 = 1 ∧ last ≠ padding ∧ value? last = none then
      .error (.invalidSymbol last (text.length - 1))
    else decodeGroups 0 text
  | none => .ok []

end SharedBudget.Base64
