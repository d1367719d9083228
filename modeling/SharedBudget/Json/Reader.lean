/-
# Reading JSON from the left

A `Reader` takes a value off the front of a byte string.  The first fault in the
order of the bytes ends the reading, so a document with several faults always
shows the leftmost one.
-/

import SharedBudget.Json.Fault

namespace SharedBudget
namespace Json

/-- Takes a value off the front of a byte string. -/
abbrev Reader := StateT Bytes (Except Fault)

/-- A fault at the place where `rest` begins. -/
def stop {α : Type} (cause : Cause) (rest : Bytes) : Except Fault α :=
  .error ⟨cause, rest.length⟩

/-- A fault at the byte that `rest` begins with, or at the end of the document. -/
def stopAt {α : Type} (cause : Cause) (rest : Bytes) : Except Fault α :=
  .error ⟨cause, rest.tail.length⟩

/-- Space, tab, line feed and carriage return. -/
def isBlank (b : UInt8) : Bool := b = 0x20 || b = 0x09 || b = 0x0A || b = 0x0D

/-- The bytes after the blanks at the front. -/
def skipBlanks (s : Bytes) : Bytes := s.dropWhile isBlank

/-! The ASCII characters that have a role in JSON. -/

abbrev quote : UInt8 := 0x22
abbrev plus : UInt8 := 0x2B
abbrev comma : UInt8 := 0x2C
abbrev minus : UInt8 := 0x2D
abbrev point : UInt8 := 0x2E
abbrev slash : UInt8 := 0x2F
abbrev zero : UInt8 := 0x30
abbrev colon : UInt8 := 0x3A
abbrev upperE : UInt8 := 0x45
abbrev openList : UInt8 := 0x5B
abbrev backslash : UInt8 := 0x5C
abbrev closeList : UInt8 := 0x5D
abbrev lowerB : UInt8 := 0x62
abbrev lowerE : UInt8 := 0x65
abbrev lowerF : UInt8 := 0x66
abbrev lowerN : UInt8 := 0x6E
abbrev lowerR : UInt8 := 0x72
abbrev lowerT : UInt8 := 0x74
abbrev lowerU : UInt8 := 0x75
abbrev openObject : UInt8 := 0x7B
abbrev closeObject : UInt8 := 0x7D

/-- The ten digits. -/
def isDigit (b : UInt8) : Bool := 0x30 ≤ b.toNat && b.toNat ≤ 0x39

/-! ## Words -/

/-- Expects these letters. -/
def letters : Bytes → Reader Unit
  | [] => pure ()
  | expected :: more => fun s =>
    match s with
    | [] => stop .endOfValue []
    | b :: rest => if b = expected then letters more rest else stop .expectedIdent rest

/-- The word `null` after its first letter. -/
def nullTail : Bytes := [0x75, 0x6C, 0x6C]

/-- The word `true` after its first letter. -/
def trueTail : Bytes := [0x72, 0x75, 0x65]

/-- The word `false` after its first letter. -/
def falseTail : Bytes := [0x61, 0x6C, 0x73, 0x65]

/-- The rest of a word, and what the word stands for. -/
def word (tail : Bytes) (found : Found) : Reader Found := do
  letters tail
  return found

end Json
end SharedBudget
