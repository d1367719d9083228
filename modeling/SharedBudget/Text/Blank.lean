/-
# Blank text

The characters with the Unicode property White_Space.
-/
import SharedBudget.Text.Range

namespace SharedBudget.Text

/-- The ranges of White_Space. -/
def blankRanges : List (Nat × Nat) :=
  [(0x09, 0x0D), (0x20, 0x20), (0x85, 0x85), (0xA0, 0xA0), (0x1680, 0x1680), (0x2000, 0x200A),
    (0x2028, 0x2029), (0x202F, 0x202F), (0x205F, 0x205F), (0x3000, 0x3000)]

theorem isAscending_blankRanges : isAscending blankRanges := by decide

/-- White_Space. -/
def isBlankChar (c : Char) : Bool := inRanges c.toNat blankRanges

/-- Whether a string holds nothing but White_Space. -/
def isBlank (s : String) : Bool := s.toList.all isBlankChar

/-- A text without the White_Space at both ends. -/
def trim (cs : List Char) : List Char :=
  ((cs.dropWhile isBlankChar).reverse.dropWhile isBlankChar).reverse

end SharedBudget.Text
