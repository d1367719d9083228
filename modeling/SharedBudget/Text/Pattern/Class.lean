/-
# Classes in patterns

A class stands in brackets.  Its members are symbols, ranges of characters,
classes with names such as `[:alpha:]`, and classes; the operators `&&`, `--` and
`~~` combine the members before them with those after them.

What matters of a class is how deep it is, as the depth of patterns is limited.
Things side by side make one level, unless there is only one of them.
-/
import SharedBudget.Text.Pattern.Symbol

namespace SharedBudget.Pattern

/-- The depth of things of these depths side by side. -/
def sideBySide : List Nat → Nat
  | [] => 0
  | [depth] => depth
  | depth :: depths => depths.foldl max depth + 1

/-- How far a class has been read. -/
structure Class where
  /-- Whether there are only minus signs so far, which stand for themselves at the beginning. -/
  isFresh : Bool := true
  /-- The depth of what the last operator has before it. -/
  left : Option Nat := none
  /-- The depths of the members after the last operator. -/
  members : List Nat := []

namespace Class

/-- A class with one more member. -/
def add (k : Class) (depth : Nat) : Class :=
  { k with isFresh := false, members := depth :: k.members }

/-- The depth of what is in a class. -/
def depth (k : Class) : Nat :=
  match k.left with
  | none => sideBySide k.members
  | some left => max left (sideBySide k.members) + 1

/-- A class after an operator. -/
def operate (k : Class) : Class := { isFresh := false, left := some k.depth, members := [] }

end Class

/-- The names that classes may have. -/
def classNames : List String :=
  ["alnum", "alpha", "ascii", "blank", "cntrl", "digit", "graph", "lower", "print", "punct",
    "space", "upper", "word", "xdigit"]

/-- Reads a class with a name after its bracket: whether it is negated, and what is left. -/
def named? : List Char → Option (Bool × List Char)
  | ':' :: cs =>
    let negated := cs.head? = some '^'
    let cs := if negated then cs.tail else cs
    let name := cs.takeWhile (· ≠ ':')
    match cs.drop name.length with
    | ':' :: ']' :: rest =>
      if classNames.contains (String.ofList name) then some (negated, rest) else none
    | _ => none
  | _ => none

/-- Whether an operator begins with `c`. -/
def isOperator (c : Char) (cs : List Char) : Bool :=
  (c = '&' || c = '-' || c = '~') && cs.head? = some c

/-- Whether two symbols are the ends of a range. -/
def isRange : Symbol → Symbol → Bool
  | .literal first _, .literal last _ => first ≤ last
  | _, _ => false

namespace Mode

/-- The symbol that a class goes on with, and what is left. -/
def member? (m : Mode) : List Char → Option (Symbol × List Char)
  | [] => none
  | c :: cs => do
    let (symbol, rest) ← if c = '\\' then m.escape? cs else some (.literal c, cs)
    if m.admitsMember symbol then return (symbol, rest) else none

/-- What is left after a member of a class or a range of them.  A minus sign before a bracket
that closes, or before another minus sign, makes no range. -/
def afterMember? (m : Mode) (cs : List Char) : Option (List Char) := do
  let (first, rest) ← m.member? cs
  match m.skip rest with
  | '-' :: more =>
    if m.peek? more = some ']' || m.peek? more = some '-' then return '-' :: more
    else do
      let (last, rest) ← m.member? (m.skip more)
      if isRange first last then return rest else none
  | rest => return rest

/-- Reads the beginning of a class after its bracket. -/
def openClass? (m : Mode) (cs : List Char) : Option (List Char) :=
  let cs := m.skip cs
  if cs.head? = some '^' then if m.admitsComplement then some cs.tail else none else some cs

/-- Reads the class `k`, which is inside of `outer`, in at most `fuel` steps: the depth of the
outermost class, and what is left. -/
def readClass? (m : Mode) : (fuel : Nat) → (k : Class) → (outer : List Class) → List Char →
    Option (Nat × List Char)
  | 0, _, _, _ => none
  | fuel + 1, k, outer, cs =>
    match m.skip cs with
    | [] => none
    | c :: cs =>
      if k.isFresh && c = '-' then
        if m.admitsMember (.literal c) then
          m.readClass? fuel { k.add 0 with isFresh := true } outer cs
        else none
      else if k.isFresh && k.members.isEmpty && c = ']' then
        if m.admitsMember (.literal c) then m.readClass? fuel (k.add 0) outer cs else none
      else if c = '[' then
        match named? cs with
        | some (negated, rest) =>
          if m.admitsNamed negated then m.readClass? fuel (k.add 0) outer rest else none
        | none => do m.readClass? fuel {} (k :: outer) (← m.openClass? cs)
      else if c = ']' then
        match outer with
        | [] => some (k.depth + 1, cs)
        | k' :: outer => m.readClass? fuel (k'.add (k.depth + 1)) outer cs
      else if isOperator c cs then m.readClass? fuel k.operate outer cs.tail
      else do m.readClass? fuel (k.add 0) outer (← m.afterMember? (c :: cs))

/-- Reads a class after its bracket: its depth, and what is left. -/
def class? (m : Mode) (cs : List Char) : Option (Nat × List Char) := do
  m.readClass? (cs.length + 1) {} [] (← m.openClass? cs)

end Mode

end SharedBudget.Pattern
