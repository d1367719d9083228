/-
# Symbols of patterns

A symbol stands for one character of a text or for a place in it.  A `Mode` says
how a pattern is taken, and which symbols it admits.

Nothing is known of characters beyond ASCII but their code points.  So a pattern
about characters has no symbols for kinds of characters or for the boundaries of
words, and if it ignores case it has no characters at all.  A pattern about
bytes has all of these for ASCII, but nothing that could match a byte which is only
a part of a character.
-/
import SharedBudget.Text.Blank
import SharedBudget.Text.Hex

namespace SharedBudget.Pattern

/-- What a symbol stands for. -/
inductive Symbol where
  /-- A character; `isByte` if it is written with two hexadecimal digits. -/
  | literal (c : Char) (isByte : Bool := false)
  /-- The digits, the blanks or the characters of words, or all others. -/
  | kind (negated : Bool)
  /-- Any character of a line. -/
  | any
  /-- The beginning or the end of a text or a line. -/
  | edge
  /-- A boundary of a word, or a place that is none. -/
  | boundary
deriving DecidableEq, Repr

/-- How a pattern is taken. -/
structure Mode where
  /-- Whether upper and lower case are the same. -/
  caseless : Bool := false
  /-- Whether the pattern is about characters, not about bytes. -/
  unicode : Bool := true
  /-- Whether blanks and comments in the pattern are passed over. -/
  spaced : Bool := false
deriving DecidableEq, Repr

namespace Mode

/-- Whether a symbol may stand outside of classes. -/
def admits (m : Mode) : Symbol → Bool
  | .literal c isByte => if m.unicode then !m.caseless else !isByte || c.toNat < 0x80
  | .kind negated => !m.unicode && !negated
  | .any => m.unicode
  | .edge => true
  | .boundary => !m.unicode

/-- Whether a symbol may be a member of a class. -/
def admitsMember (m : Mode) : Symbol → Bool
  | .literal c _ => if m.unicode then !m.caseless else c.toNat < 0x80
  | .kind negated => !m.unicode && !negated
  | _ => false

/-- Whether a class with a name, such as the letters of ASCII, may be a member of a class. -/
def admitsNamed (m : Mode) (negated : Bool) : Bool := if m.unicode then !m.caseless else !negated

/-- Whether a class may be the complement of its members. -/
def admitsComplement (m : Mode) : Bool := m.unicode

/-- Switches what a letter stands for on or off, if it stands for something that is of account
here. -/
def switch (m : Mode) (on : Bool) (flag : Char) : Mode :=
  if flag = 'i' then { m with caseless := on }
  else if flag = 'u' then { m with unicode := on }
  else if flag = 'x' then { m with spaced := on }
  else m

/-- The mode after some flags: those before a minus sign are switched on, those after it off. -/
def apply (m : Mode) (flags : List Char) : Mode :=
  let on := flags.takeWhile (· ≠ '-')
  let off := flags.drop on.length
  off.foldl (·.switch false ·) (on.foldl (·.switch true ·) m)

/-! ## Blanks and comments -/

/-- What follows blanks and comments; a comment goes from its sign to the end of the line. -/
def afterBlanks : (inComment : Bool) → List Char → List Char
  | _, [] => []
  | true, c :: cs => afterBlanks (c ≠ '\n') cs
  | false, c :: cs =>
    if Text.isBlankChar c then afterBlanks false cs
    else if c = '#' then afterBlanks true cs
    else c :: cs

/-- What follows all that is passed over. -/
def skip (m : Mode) (cs : List Char) : List Char := if m.spaced then afterBlanks false cs else cs

/-- The next character, looked up from the middle of a range.  Here a comment is not passed over
but for its sign. -/
def peek? (m : Mode) (cs : List Char) : Option Char :=
  if m.spaced then
    let cs := cs.dropWhile Text.isBlankChar
    (if cs.head? = some '#' then cs.tail.dropWhile Text.isBlankChar else cs).head?
  else cs.head?

/-! ## Escapes -/

/-- The number that `n` hexadecimal digits denote, and what is left. -/
def hexNumber? (m : Mode) : (n : Nat) → List Char → Option (Nat × List Char)
  | 0, cs => some (0, cs)
  | n + 1, cs =>
    match m.skip cs with
    | [] => none
    | c :: cs => do
      let d ← if c.isAlphanum then Hex.value? (UInt8.ofNat c.toNat) else none
      let (number, rest) ← hexNumber? m n cs
      return (d * 16 ^ n + number, rest)

/-- The character whose code point has `n` hexadecimal digits, and what is left. -/
def codePoint? (m : Mode) (n : Nat) (cs : List Char) : Option (Symbol × List Char) := do
  let (code, rest) ← m.hexNumber? n cs
  if code.isValidChar then return (.literal (Char.ofNat code) (n = 2), rest) else none

/-- The escapes of control characters. -/
def controls : List (Char × Char) :=
  [('a', '\x07'), ('f', '\x0C'), ('t', '\t'), ('n', '\n'), ('r', '\r'), ('v', '\x0B')]

/-- The symbol of an escape after its backslash, and what is left.  Letters and digits without a
meaning are no escapes. -/
def escape? (m : Mode) : List Char → Option (Symbol × List Char)
  | [] => none
  | c :: cs =>
    if c = 'x' then m.codePoint? 2 cs
    else if c = 'u' then m.codePoint? 4 cs
    else if c = 'U' then m.codePoint? 8 cs
    else if "dsw".toList.contains c then some (.kind false, cs)
    else if "DSW".toList.contains c then some (.kind true, cs)
    else if "Az".toList.contains c then some (.edge, cs)
    else if "bB<>".toList.contains c then some (.boundary, cs)
    else
      match controls.lookup c with
      | some control => some (.literal control, cs)
      | none => if c.isAlphanum || 0x80 ≤ c.toNat then none else some (.literal c, cs)

/-- The symbol outside of classes that begins with `c`, and what is left. -/
def symbol? (m : Mode) (c : Char) (cs : List Char) : Option (Symbol × List Char) := do
  let (symbol, rest) ←
    if c = '\\' then m.escape? cs
    else if c = '.' then some (.any, cs)
    else if c = '^' || c = '$' then some (.edge, cs)
    else some (.literal c, cs)
  if m.admits symbol then return (symbol, rest) else none

end Mode

end SharedBudget.Pattern
