/-
# Strings in JSON

A string is read byte by byte by an automaton: a `Place` says where the next
byte stands, and `Place.move` what that byte does.  The content is UTF-8 only if
it decodes after the escapes are resolved, so a fault in an escape comes before
one in the encoding.  The place of a fault in the encoding is as far before the
end of the string as the first byte at fault is before the end of the content.
-/

import SharedBudget.Json.Reader
import SharedBudget.Text.Hex

namespace SharedBudget
namespace Json

/-- The letters of the escapes with one letter, and their characters. -/
def escapes : List (UInt8 × UInt8) :=
  [(quote, quote), (backslash, backslash), (slash, slash), (lowerB, 0x08), (lowerF, 0x0C),
    (lowerN, 0x0A), (lowerR, 0x0D), (lowerT, 0x09)]

/-- The character of an escape with one letter. -/
def escaped? (letter : UInt8) : Option UInt8 := escapes.lookup letter

/-- The number that four hexadecimal digits denote. -/
def hexQuad? (a b c d : UInt8) : Option Nat := do
  let a ← Hex.value? a
  let b ← Hex.value? b
  let c ← Hex.value? c
  let d ← Hex.value? d
  return ((a * 16 + b) * 16 + c) * 16 + d

def isHighSurrogate (n : Nat) : Bool := 0xD800 ≤ n && n < 0xDC00

def isLowSurrogate (n : Nat) : Bool := 0xDC00 ≤ n && n < 0xE000

/-- The code point of a pair of surrogates. -/
def pairedCodePoint (high low : Nat) : Nat := 0x10000 + (high - 0xD800) * 0x400 + (low - 0xDC00)

/-- The UTF-8 bytes of a code point. -/
def codePointBytes (n : Nat) : Bytes := String.utf8EncodeChar (Char.ofNat n)

/-- Puts bytes in front of a string that is read after them. -/
def onto (front : Bytes) (r : Except Fault (Bytes × Bytes)) : Except Fault (Bytes × Bytes) :=
  r.map fun (content, rest) => (front ++ content, rest)

/-- Where the next byte of a string stands. -/
inductive Place where
  | plain
  /-- After a backslash. -/
  | escape
  /-- After a backslash, the letter `u` and these digits; `high` is the first half of a pair if
  this is the second one. -/
  | digits (high : Option Nat) (taken : Bytes)
  /-- After the first half of a pair. -/
  | half (high : Nat)
  /-- After the first half of a pair and a backslash. -/
  | halfEscape (high : Nat)
deriving DecidableEq

/-- What a byte of a string does. -/
inductive Move where
  /-- It is the closing quote. -/
  | close
  /-- It completes these bytes of the content, and leads to a place. -/
  | go (content : Bytes) (place : Place)
  | fault (cause : Cause)
deriving DecidableEq

/-- What the last of four digits does when they denote this number, if they denote one. -/
def Move.ofNumber (high : Option Nat) : Option Nat → Move
  | none => .fault .invalidEscape
  | some n =>
    match high with
    | none =>
      if isLowSurrogate n then .fault .loneSurrogate
      else if isHighSurrogate n then .go [] (.half n)
      else .go (codePointBytes n) .plain
    | some high =>
      if isLowSurrogate n then .go (codePointBytes (pairedCodePoint high n)) .plain
      else .fault .loneSurrogate

/-- What a byte does at a place. -/
def Place.move (b : UInt8) : Place → Move
  | .plain =>
    if b = quote then .close
    else if b = backslash then .go [] .escape
    else if b < 0x20 then .fault .controlCharacter
    else .go [b] .plain
  | .escape =>
    if b = lowerU then .go [] (.digits none [])
    else
      match escaped? b with
      | some c => .go [c] .plain
      | none => .fault .invalidEscape
  | .digits high [x, y, z] => .ofNumber high (hexQuad? x y z b)
  | .digits high taken => .go [] (.digits high (taken ++ [b]))
  | .half high => if b = backslash then .go [] (.halfEscape high) else .fault .endOfHexEscape
  | .halfEscape high =>
    if b = lowerU then .go [] (.digits (some high) []) else .fault .endOfHexEscape

/-- The content of a string from a place on, as bytes with the escapes resolved. -/
def contentFrom : Place → Reader Bytes
  | _, [] => stop .endOfString []
  | p, b :: rest =>
    match p.move b with
    | .close => .ok ([], rest)
    | .go content next => onto content (contentFrom next rest)
    | .fault cause => stop cause rest

/-- A string after its opening quote. -/
def string : Reader String := fun s => do
  let (content, rest) ← contentFrom .plain s
  match Utf8.toString? content with
  | some text => .ok (text, rest)
  | none => .error ⟨.invalidCodePoint, rest.length + (content.length - Utf8.validLength content)⟩

end Json
end SharedBudget
