/-
# Log lines

An entry for people has the severity, the message and the fields one after the
other; an entry for machines is a JSON object.  The time in front of an entry is
not part of it.  A line feed ends an entry, so an entry that has line feeds of its
own makes several lines.
-/

import SharedBudget.Json.Writer
import SharedBudget.Log.Filter
import SharedBudget.Text.Line

namespace SharedBudget
namespace Log

/-- The name of a severity, in five columns. -/
def Severity.label : Severity → String
  | .error => "ERROR"
  | .warn => " WARN"
  | .info => " INFO"
  | .debug => "DEBUG"
  | .trace => "TRACE"

/-- The name of a severity. -/
def Severity.name : Severity → String
  | .error => "ERROR"
  | .warn => "WARN"
  | .info => "INFO"
  | .debug => "DEBUG"
  | .trace => "TRACE"

namespace FieldValue

/-- A value in an entry for people. -/
def human : FieldValue → String
  | shown text => text
  | quoted text => Quoted.inspect text
  | natural value => s!"{value}"
  | float value => Decimal.Layout.inspect.text value
  | boolean value => s!"{value}"

/-- A value in an entry for machines. -/
def json : FieldValue → List Char
  | shown text => Json.Writer.text text
  | quoted text => Json.Writer.text text
  | natural value => Json.Writer.natural value
  | float value => Json.Writer.float value
  | boolean value => Json.Writer.boolean value

end FieldValue

namespace Event

/-- The entry for people. -/
def human (e : Event) : String :=
  s!"{e.severity.label} {e.message}" ++
    String.join (e.fields.map fun (name, value) => s!" {name}={value.human}")

/-- The entry for machines. -/
def json (e : Event) : String :=
  let fields := ("message", Json.Writer.text e.message) ::
    e.fields.map fun (name, value) => (name, value.json)
  String.ofList (Json.Writer.object [
    ("level", Json.Writer.text e.severity.name),
    ("fields", Json.Writer.object fields),
    ("target", Json.Writer.text e.target)])

/-- The entry of an event in a format. -/
def entry (format : LineFormat) (e : Event) : String :=
  match format with
  | .human => e.human
  | .jsonl => e.json

end Event

/-- The lines of events under a setup. -/
def Setup.lines (s : Setup) (events : List Event) : List String :=
  (events.filter (Filter.ofSetup s).admits).flatMap fun e => Text.lines (e.entry s.format)

/-- Installs setups one after the other: the first one stays, the others change nothing.
Says for each whether it was installed. -/
def install : List Setup → Option Setup × List Bool
  | [] => (none, [])
  | s :: others => (some s, true :: others.map fun _ => false)

end Log
end SharedBudget
