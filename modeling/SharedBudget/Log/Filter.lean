/-
# Which events are logged

A filter is a list of directives, separated by commas in its text.  The most
specific directive about an event decides: the one with the longest target, and of
those one that asks for a field.  Without one the event is dropped.
-/

import SharedBudget.Log.Directive

namespace SharedBudget
namespace Log

/-- The names of an event's fields; the message is one of them. -/
def Event.fieldNames (e : Event) : List String := "message" :: e.fields.map (·.1)

namespace Directive

/-- Whether a directive is about an event.  Events happen outside of spans, and values of
fields are asked for in spans only. -/
def covers (d : Directive) (e : Event) : Bool :=
  d.span.isNone &&
    (match d.target with
      | none => true
      | some t => t.toList.isPrefixOf e.target.toList) &&
    match d.field with
    | none => true
    | some test => !test.valued && e.fieldNames.contains test.name

/-- The length of a directive's target, counted so that no target is the shortest one. -/
def targetWeight (d : Directive) : Nat :=
  match d.target with
  | none => 0
  | some t => t.utf8ByteSize + 1

/-- The field that a directive asks for; no field comes first in the order of names. -/
def fieldName (d : Directive) : String := (d.field.map FieldTest.name).getD ""

/-- Whether of two directives about an event the second one is at least as specific.  Of two
that ask for a field it is the one with the larger name. -/
def yieldsTo (d d' : Directive) : Bool :=
  d.targetWeight < d'.targetWeight ||
    (d.targetWeight = d'.targetWeight && d.fieldName ≤ d'.fieldName)

end Directive

/-- The directives that decide about events. -/
abbrev Filter := List Directive

namespace Filter

/-- The directives of a text, unless one of them is malformed. -/
def ofText? (text : String) : Option Filter :=
  ((text.splitToList (· = ',')).filter fun d => !d.isEmpty).mapM Directive.ofText?

/-- The most specific directive about an event; of two equally specific ones the later. -/
def deciding? (f : Filter) (e : Event) : Option Directive :=
  f.foldl (fun best d =>
    if d.covers e then
      match best with
      | some b => if b.yieldsTo d then some d else some b
      | none => some d
    else best) none

/-- Whether an event is logged. -/
def admits (f : Filter) (e : Event) : Bool :=
  match f.deciding? e with
  | some d => e.severity.rank ≤ d.rank
  | none => false

/-- The filter of a setup: its directives, or if one of them is malformed those of its
level. -/
def ofSetup (s : Setup) : Filter :=
  match ofText? s.filterDirectives with
  | some f => f
  | none => (ofText? (defaultDirectives s.level)).getD []

end Filter

end Log
end SharedBudget
