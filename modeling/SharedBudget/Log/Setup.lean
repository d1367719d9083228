/-
# What is logged, and how

A setup has a level and a format.  The level comes from the first of these that
is there: the caller, the variable `DPB_LOG`, the variable `RUST_LOG`, whose
directives are then taken as they are, the default.  The format comes from the
caller, the variable `DPB_LOG_FORMAT` or the default, whatever the level's
source.
-/

import SharedBudget.Json.Typed
import SharedBudget.Text.Blank

namespace SharedBudget
namespace Log

/-- The least severe events that are logged. -/
inductive Level where
  | trace
  | debug
  | info
  | warn
  | error
  | off
deriving DecidableEq, Repr

/-- How log lines look. -/
inductive LineFormat where
  | human
  /-- One JSON object per line. -/
  | jsonl
deriving DecidableEq, Repr

/-- A string with its ASCII letters in lower case. -/
def lowerCase (s : String) : String := String.ofList (s.toList.map Char.toLower)

namespace Level

/-- The name of a level. -/
def name : Level → String
  | trace => "trace"
  | debug => "debug"
  | info => "info"
  | warn => "warn"
  | error => "error"
  | off => "off"

/-- All levels. -/
def all : List Level := [trace, debug, info, warn, error, off]

/-- The level with this name, in any case of letters. -/
def ofName? (s : String) : Option Level := all.find? fun l => l.name = lowerCase s

/-- The level with this name, or the message that there is none. -/
def ofName (s : String) : Except String Level :=
  match ofName? s with
  | some l => .ok l
  | none => .error s!"unknown log level: {s}"

/-- The level in a document. -/
def ofJson (text : Bytes) : Except Json.Error Level :=
  Json.document (Json.choice (all.map fun l => (l.name, l)) Json.depthLimit) text

end Level

namespace LineFormat

/-- The name of a format. -/
def name : LineFormat → String
  | human => "human"
  | jsonl => "jsonl"

/-- The names of formats, some of which have two. -/
def names : List (String × LineFormat) := [("human", human), ("jsonl", jsonl), ("json", jsonl)]

/-- The format with this name, in any case of letters. -/
def ofName? (s : String) : Option LineFormat :=
  (names.find? fun n => n.1 = lowerCase s).map (·.2)

/-- The format with this name, or the message that there is none. -/
def ofName (s : String) : Except String LineFormat :=
  match ofName? s with
  | some f => .ok f
  | none => .error s!"unknown log format: {s}"

/-- The format in a document. -/
def ofJson (text : Bytes) : Except Json.Error LineFormat :=
  Json.document (Json.choice [("human", human), ("jsonl", jsonl)] Json.depthLimit) text

end LineFormat

/-- The parts of the program whose events a level is about. -/
def targets : List String := ["dpb_core", "dpb_config", "dpb_state"]

/-- The directives that set one level for the whole program. -/
def defaultDirectives (l : Level) : String :=
  ",".intercalate (targets.map fun t => s!"{t}={l.name}")

/-- A setup of the log. -/
structure Setup where
  format : LineFormat := .human
  level : Level := .info
  /-- Whether lines begin with the time. -/
  timestamps : Bool := true
  /-- Directives that are taken as they are, instead of the level. -/
  directives : Option String := none
deriving DecidableEq

namespace Setup

/-- The level and the directives that the caller and the variables ask for. -/
def levelOf (environment : String → Option String) (level : Option Level) :
    Level × Option String :=
  match level, environment "DPB_LOG" with
  | some l, _ => (l, none)
  | none, some name => ((Level.ofName? name).getD .info, none)
  | none, none => (.info, (environment "RUST_LOG").filter fun d => !Text.isBlank d)

/-- The format that the caller and the variables ask for. -/
def formatOf (environment : String → Option String) (format : Option LineFormat) : LineFormat :=
  (format <|> (environment "DPB_LOG_FORMAT").bind LineFormat.ofName?).getD .human

/-- The setup that the caller and the variables ask for. -/
def ofEnvironment (environment : String → Option String) (level : Option Level)
    (format : Option LineFormat) : Setup where
  format := formatOf environment format
  level := (levelOf environment level).1
  directives := (levelOf environment level).2

/-- The setup with another format. -/
def withFormat (s : Setup) (format : LineFormat) : Setup := { s with format }

/-- The setup with another level; directives that were taken as they are no longer count. -/
def withLevel (s : Setup) (level : Level) : Setup := { s with level, directives := none }

/-- The directives that decide which events are logged. -/
def filterDirectives (s : Setup) : String := s.directives.getD (defaultDirectives s.level)

end Setup

end Log
end SharedBudget
