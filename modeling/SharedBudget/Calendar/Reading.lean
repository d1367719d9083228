/-
# Reading points in time

The accepted texts are RFC 3339 and some relaxations of it: numbers may have
fewer digits than usual, blanks may stand before numbers, separators and the
zone, the year may have a sign and then any number of digits, and the zone's
colon may be missing.  The first fault from the left decides the error; whether
the calendar has the day, and whether the zone is less than a day away, is asked
last.
-/
import SharedBudget.Calendar
import SharedBudget.Powers
import SharedBudget.Text.Blank

namespace SharedBudget.Calendar

/-- Why a text is not a point in time. -/
inductive Error where
  | invalid
  | tooShort
  | tooLong
  | outOfRange
  /-- The time is beyond the ends of the calendar once it is brought to UTC. -/
  | impossible
deriving DecidableEq, Repr

/-- The wording of an error. -/
def Error.message : Error → String
  | .invalid => "input contains invalid characters"
  | .tooShort => "premature end of input"
  | .tooLong => "trailing input"
  | .outOfRange => "input is out of range"
  | .impossible => "no possible date and time matching input"

/-- A reader of the text that is left. -/
abbrev Reading := StateT (List Char) (Except Error)

/-- The text without the blanks it begins with. -/
def skipBlanks (cs : List Char) : List Char := cs.dropWhile Text.isBlankChar

/-- The value of a row of decimal digits. -/
def digitsValue (ds : List Char) : Nat := ds.foldl (fun n c => 10 * n + (c.toNat - 0x30)) 0

/-- A row of digits, at most `most` of them, and the text after it. -/
def digitRow (most : Nat) (cs : List Char) : Except Error (List Char × List Char) :=
  match cs with
  | [] => .error .tooShort
  | c :: _ =>
    if c.isDigit then
      let row := (cs.take most).takeWhile Char.isDigit
      .ok (row, cs.drop row.length)
    else .error .invalid

/-- A number of at most `most` digits between `least` and `greatest`, after blanks. -/
def bounded (most least greatest : Nat) : Reading Nat := fun cs => do
  let (row, rest) ← digitRow most (skipBlanks cs)
  let n := digitsValue row
  if least ≤ n ∧ n ≤ greatest then .ok (n, rest) else .error .outOfRange

/-- A year: at most four digits, or a sign and any number of them. -/
def year : Reading Int := fun cs => do
  let signed (negative : Bool) (cs : List Char) : Except Error (Int × List Char) := do
    let (row, rest) ← digitRow cs.length cs
    let y : Int := if negative then -(digitsValue row : Int) else digitsValue row
    if -2 ^ 31 ≤ y ∧ y < 2 ^ 31 then .ok (y, rest) else .error .outOfRange
  match skipBlanks cs with
  | '-' :: cs => signed true cs
  | '+' :: cs => signed false cs
  | cs => do
    let (row, rest) ← digitRow 4 cs
    .ok ((digitsValue row : Int), rest)

/-- A separator, after blanks. -/
def separator (c : Char) : Reading Unit := fun cs =>
  match skipBlanks cs with
  | [] => .error .tooShort
  | d :: rest => if d = c then .ok ((), rest) else .error .invalid

/-- The sign between the day and the hour. -/
def dayEnd : Reading Unit := fun cs =>
  match cs with
  | [] => .error .tooShort
  | c :: rest => if c = 'T' ∨ c = 't' ∨ c = ' ' then .ok ((), rest) else .error .invalid

/-- The fraction of a second in nanoseconds, if there is one; digits after the ninth are dropped. -/
def fraction : Reading Nat := fun cs =>
  match cs with
  | '.' :: rest => do
    let (row, rest) ← digitRow 9 rest
    .ok (digitsValue row * 10 ^ (9 - row.length), rest.dropWhile Char.isDigit)
  | cs => .ok (0, cs)

/-- Two digits in a row. -/
def digitPair (cs : List Char) : Except Error (Nat × Nat × List Char) :=
  match cs with
  | [] => .error .tooShort
  | [c] => .error (if c.toNat < 0x80 then .tooShort else .invalid)
  | c :: d :: rest =>
    if c.isDigit ∧ d.isDigit then .ok (c.toNat - 0x30, d.toNat - 0x30, rest) else .error .invalid

/-- The hours and minutes of a zone, in minutes. -/
def zoneDistance : Reading Nat := fun cs => do
  let (h, h', cs) ← digitPair cs
  let (m, m', cs) ← digitPair (cs.dropWhile fun c => c = ':' || Text.isBlankChar c)
  if m < 6 then .ok ((10 * h + h') * 60 + (10 * m + m'), cs) else .error .outOfRange

/-- The zone: how many minutes its clocks are ahead of UTC. -/
def zone : Reading Int := fun cs =>
  match skipBlanks cs with
  | [] => .error .tooShort
  | c :: rest =>
    if c = 'Z' ∨ c = 'z' then .ok (0, rest)
    else if (c :: rest.take 2).map Char.toUpper = ['U', 'T', 'C'] then .ok (0, rest.drop 2)
    else if c = '+' then do
      let (n, rest) ← zoneDistance rest
      .ok ((n : Int), rest)
    else if c = '-' ∨ c = '−' then do
      let (n, rest) ← zoneDistance rest
      .ok (-(n : Int), rest)
    else .error .invalid

/-- The parts of a text: the local time and how many minutes it is ahead of UTC. -/
structure Parts where
  year : Int
  month : Nat
  day : Nat
  hour : Nat
  minute : Nat
  second : Nat
  nanosecond : Nat
  ahead : Int

/-- Reads all parts of a text from the left. -/
def parts : Reading Parts := do
  let year ← year
  separator '-'
  let month ← bounded 2 1 12
  separator '-'
  let day ← bounded 2 1 31
  dayEnd
  let hour ← bounded 2 0 23
  separator ':'
  let minute ← bounded 2 0 59
  separator ':'
  let second ← bounded 2 0 60
  let nanosecond ← fraction
  let ahead ← zone
  return { year, month, day, hour, minute, second, nanosecond, ahead }

/-- The minute of the day in UTC, counted from the start of the local day. -/
def Parts.minuteOfDay (p : Parts) : Int := ((p.hour * 60 + p.minute : Nat) : Int) - p.ahead

/-- The day in UTC, which is the local day or one beside it. -/
def Parts.utcDate? (p : Parts) (localDate : Date) : Option Date :=
  if p.minuteOfDay < 0 then localDate.previous?
  else if p.minuteOfDay < 1440 then some localDate
  else localDate.next?

/-- The point in time that the parts name. -/
def Parts.timestamp (p : Parts) : Except Error Timestamp :=
  match Date.of? p.year p.month p.day with
  | none => .error .outOfRange
  | some localDate =>
    if p.ahead.natAbs < 1440 then
      match p.utcDate? localDate with
      | none => .error .impossible
      | some date =>
        let minute := (p.minuteOfDay % 1440).toNat
        .ok {
          date
          hour := ⟨minute / 60 % 24, Nat.mod_lt _ (by decide)⟩
          minute := ⟨minute % 60, Nat.mod_lt _ (by decide)⟩
          second := ⟨p.second % 61, Nat.mod_lt _ (by decide)⟩
          nanosecond := ⟨p.nanosecond % 1000000000, Nat.mod_lt _ (by decide)⟩ }
    else .error .outOfRange

/-- The point in time that a text names. -/
def read (cs : List Char) : Except Error Timestamp := do
  let (p, rest) ← parts cs
  if (skipBlanks rest).isEmpty then p.timestamp else .error .tooLong

end SharedBudget.Calendar
