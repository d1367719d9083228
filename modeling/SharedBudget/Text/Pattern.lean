/-
# Well-formed patterns

Which texts are regular expressions that can be searched for in one pass
(`Pattern.isWellFormed`):

* groups are closed, `(…)`, `(?flags:…)`, `(?<name>…)` or `(?P<name>…)`; names
  are not used twice, and there is no looking around;
* `?`, `*` and `+` stand after something that they can repeat, and may be
  followed by another `?`; a count in braces is not part of these patterns;
* classes are closed, their ranges ascend, and escapes are known;
* every symbol is admitted by the mode at its place: flags count up to the end of
  the group that they are in;
* the pattern is not too deep.  Groups, repetitions and classes make a level, and
  so do things or branches side by side, unless there is only one of them.
-/
import SharedBudget.Text.Alphanumeric
import SharedBudget.Text.Pattern.Class

namespace SharedBudget.Pattern

/-- The greatest depth of patterns. -/
def depthLimit : Nat := 250

/-! ## Names and flags -/

/-- Whether the name of a group may begin with a character. -/
def beginsName (c : Char) : Bool := c = '_' || Text.isAlphabetic c

/-- Whether the name of a group may go on with a character. -/
def continuesName (c : Char) : Bool :=
  c = '_' || c = '.' || c = '[' || c = ']' || Text.isAlphanumeric c

/-- The name of a group up to its closing sign, and what is left. -/
def name? (cs : List Char) : Option (List Char × List Char) :=
  match cs.takeWhile (· ≠ '>'), cs.dropWhile (· ≠ '>') with
  | c :: name, _ :: rest =>
    if beginsName c && name.all continuesName then some (c :: name, rest) else none
  | _, _ => none

/-- Whether flags are known, none stands twice, and one that is switched off follows the minus
sign. -/
def areFlags (flags : List Char) : Bool :=
  flags.all ("imsUuRx-".toList.contains ·) && flags.Nodup && flags.getLast? ≠ some '-'

/-! ## Branches -/

/-- A part of a branch. -/
structure Part where
  depth : Nat := 0
  /-- Whether it may be repeated, which flags may not. -/
  isRepeatable : Bool := true

/-- The branches of a pattern or of a group, as far as they have been read. -/
structure Branches where
  /-- The depths of the branches before the last one. -/
  finished : List Nat := []
  /-- The parts of the last branch, the last one first. -/
  parts : List Part := []

namespace Branches

/-- The depth of some branches. -/
def depth (b : Branches) : Nat := sideBySide (sideBySide (b.parts.map Part.depth) :: b.finished)

/-- Branches with one more part. -/
def add (b : Branches) (part : Part) : Branches := { b with parts := part :: b.parts }

/-- Branches with one more, which is empty. -/
def fork (b : Branches) : Branches :=
  { finished := sideBySide (b.parts.map Part.depth) :: b.finished, parts := [] }

/-- Branches with their last part repeated, if it may be. -/
def repeat? (b : Branches) : Option Branches :=
  match b.parts with
  | part :: parts =>
    if part.isRepeatable then some { b with parts := { depth := part.depth + 1 } :: parts } else none
  | [] => none

end Branches

/-! ## Patterns -/

/-- How far a pattern has been read. -/
structure State where
  mode : Mode := {}
  /-- The names of groups. -/
  names : List (List Char) := []
  /-- The branches of the group that is being read. -/
  inner : Branches := {}
  /-- The modes and branches around it. -/
  outer : List (Mode × Branches) := []

namespace State

/-- The state with one more part. -/
def add (s : State) (part : Part) : State := { s with inner := s.inner.add part }

/-- The state in a new group with a mode. -/
def enter (s : State) (mode : Mode) : State :=
  { s with mode, inner := {}, outer := (s.mode, s.inner) :: s.outer }

/-- The state after the end of a group, if there is one. -/
def leave? (s : State) : Option State :=
  match s.outer with
  | (mode, branches) :: outer =>
    some { s with mode, inner := branches.add { depth := s.inner.depth + 1 }, outer }
  | [] => none

/-- Reads the beginning of a group with a name. -/
def openNamed? (s : State) (cs : List Char) : Option (State × List Char) := do
  let (name, rest) ← name? cs
  if s.names.contains name then none
  else return ({ s.enter s.mode with names := name :: s.names }, rest)

/-- Reads the beginning of a group with flags, or the flags for what follows. -/
def openFlagged? (s : State) (cs : List Char) : Option (State × List Char) :=
  let isFlag (c : Char) : Bool := c ≠ ':' && c ≠ ')'
  let flags := cs.takeWhile isFlag
  match cs.dropWhile isFlag with
  | [] => none
  | c :: rest =>
    let mode := s.mode.apply flags
    if !areFlags flags then none
    else if c = ':' then some (s.enter mode, rest)
    else if flags.isEmpty then none
    else some ({ s.add { isRepeatable := false } with mode }, rest)

/-- Reads the beginning of a group after its bracket. -/
def open? (s : State) : List Char → Option (State × List Char)
  | '?' :: 'P' :: '<' :: cs => s.openNamed? cs
  | '?' :: '<' :: cs => s.openNamed? cs
  | '?' :: cs => s.openFlagged? cs
  | cs => some (s.enter s.mode, cs)

/-- Reads what begins with the character `c`. -/
def step? (s : State) (c : Char) (cs : List Char) : Option (State × List Char) :=
  if c = '(' then s.open? (s.mode.skip cs)
  else if c = ')' then do return (← s.leave?, cs)
  else if c = '|' then some ({ s with inner := s.inner.fork }, cs)
  else if c = '?' || c = '*' || c = '+' then do
    return ({ s with inner := ← s.inner.repeat? }, if cs.head? = some '?' then cs.tail else cs)
  else if c = '\x7b' then none
  else if c = '[' then do
    let (depth, rest) ← s.mode.class? cs
    return (s.add { depth }, rest)
  else do
    let (_, rest) ← s.mode.symbol? c cs
    return (s.add {}, rest)

/-- Whether a pattern may end here. -/
def isFinal (s : State) : Bool := s.outer.isEmpty && s.inner.depth ≤ depthLimit

/-- Whether the rest of a pattern is well-formed, if it takes fewer than `fuel` steps. -/
def accepts : (fuel : Nat) → State → List Char → Bool
  | 0, _, _ => false
  | fuel + 1, s, cs =>
    match s.mode.skip cs with
    | [] => s.isFinal
    | c :: cs =>
      match s.step? c cs with
      | some (s, rest) => accepts fuel s rest
      | none => false

end State

/-- Whether a text is a pattern. -/
def isWellFormed (cs : List Char) : Bool := State.accepts (cs.length + 1) {} cs

end SharedBudget.Pattern
