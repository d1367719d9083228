/-
# Values that nobody reads

The value of an unknown member is skipped.  Skipping checks less than reading:
containers may be nested to any depth, strings may hold any bytes and lone
surrogates, and numbers may have any size.  Some faults have other names here.
-/

import SharedBudget.Json.Value

namespace SharedBudget
namespace Json

/-- Skips a string from a place on.  Half a pair is as good as a character. -/
def skipContent : Place → Reader Unit
  | _, [] => stop .endOfString []
  | p, b :: rest =>
    match p.move b with
    | .close => .ok ((), rest)
    | .go _ (.half _) => skipContent .plain rest
    | .go _ next => skipContent next rest
    | .fault .loneSurrogate => skipContent .plain rest
    | .fault .controlCharacter => stop .controlCharacter (b :: rest)
    | .fault cause => stop cause rest

/-- Skips a string after its opening quote. -/
def skipString : Reader Unit := skipContent .plain

/-- Skips an exponent after its letter. -/
def skipExponent : Reader Unit := fun s =>
  match if s.head? = some plus ∨ s.head? = some minus then s.tail else s with
  | [] => stop .invalidNumber []
  | b :: rest =>
    if isDigit b then .ok ((), rest.dropWhile isDigit) else stop .invalidNumber rest

/-- Skips what may follow the digits of a number: an exponent. -/
def skipAfterDigits : Reader Unit := fun s =>
  if beginsExponent s then skipExponent s.tail else .ok ((), s)

/-- Skips a number after its sign. -/
def skipNumber : Reader Unit := fun s =>
  match s with
  | [] => stop .invalidNumber []
  | b :: rest =>
    if isDigit b then
      let row := s.takeWhile isDigit
      if b = zero ∧ 1 < row.length then stopAt .invalidNumber rest
      else
        let rest := s.drop row.length
        if rest.head? = some point then
          let fraction := rest.tail
          if (fraction.takeWhile isDigit).isEmpty then stopAt .invalidNumber fraction
          else skipAfterDigits (fraction.dropWhile isDigit)
        else skipAfterDigits rest
    else stop .invalidNumber rest

/-- Skips the items of a list from the beginning of one, at most `fuel` of them. -/
def skipItems (item : Reader Unit) : (fuel : Nat) → Reader Unit
  | 0 => stop .endOfList
  | fuel + 1 => fun s => do
    let ((), s) ← item s
    match skipBlanks s with
    | [] => stop .endOfList []
    | b :: rest =>
      if b = closeList then .ok ((), rest)
      else if b = comma then skipItems item fuel rest
      else stopAt .expectedListSeparator (b :: rest)

/-- Skips the members of an object from the beginning of one, at most `fuel` of them. -/
def skipMembers (value : Reader Unit) : (fuel : Nat) → Reader Unit
  | 0 => stop .endOfObject
  | fuel + 1 => fun s =>
    match skipBlanks s with
    | [] => stop .endOfObject []
    | b :: rest =>
      if b = quote then do
        let ((), s) ← skipString rest
        let ((), s) ← separator s
        let ((), s) ← value s
        match skipBlanks s with
        | [] => stop .endOfObject []
        | b :: rest =>
          if b = closeObject then .ok ((), rest)
          else if b = comma then skipMembers value fuel rest
          else stopAt .expectedObjectSeparator (b :: rest)
      else stopAt .keyNotString (b :: rest)

/-- Skips a list after its opening bracket. -/
def skipList (items : Reader Unit) : Reader Unit := fun s =>
  match skipBlanks s with
  | [] => stop .endOfList []
  | b :: rest => if b = closeList then .ok ((), rest) else items (b :: rest)

/-- Skips an object after its opening brace. -/
def skipObject (members : Reader Unit) : Reader Unit := fun s =>
  match skipBlanks s with
  | [] => stop .endOfObject []
  | b :: rest => if b = closeObject then .ok ((), rest) else members (b :: rest)

/-- Skips a value with at most `fuel` levels of containers and `fuel` items in each. -/
def skipValue : (fuel : Nat) → Reader Unit
  | 0 => stop .endOfValue
  | fuel + 1 => fun s =>
    match skipBlanks s with
    | [] => stop .endOfValue []
    | b :: rest =>
      if b = quote then skipString rest
      else if b = minus then skipNumber rest
      else if isDigit b then skipNumber (b :: rest)
      else if b = lowerN then letters nullTail rest
      else if b = lowerT then letters trueTail rest
      else if b = lowerF then letters falseTail rest
      else if b = openList then skipList (skipItems (skipValue fuel) (fuel + 1)) rest
      else if b = openObject then skipObject (skipMembers (skipValue fuel) (fuel + 1)) rest
      else stopAt .expectedValue (b :: rest)

/-- Skips a value.  A level of containers takes a byte, and so does an item, so there are no
more of either than bytes. -/
def skip : Reader Unit := fun s => skipValue (s.length + 1) s

end Json
end SharedBudget
