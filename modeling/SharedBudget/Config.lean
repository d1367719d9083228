/-
# Configurations

A configuration holds the epsilon threshold for all bundles of a process.
-/

import SharedBudget.Budget
import SharedBudget.Config.Error
import SharedBudget.Json.Typed
import SharedBudget.Json.Writer

namespace SharedBudget

namespace Config

/-- The version of the format. -/
def supportedVersion : String := "1.0.0"

/-- Checks that a threshold is finite and positive. -/
def checkThreshold (threshold : Double) : Except Error Unit :=
  if threshold.isFinite && (Binary.zero .double false).lt threshold then .ok ()
  else .error (.threshold threshold)

end Config

/-- A configuration. -/
structure Config where
  version : String
  description : Option String
  /-- The largest share of epsilon that a mechanism gets. -/
  threshold : Double
deriving DecidableEq

namespace Config

open Json

/-- The configuration that is used when there is none. -/
def default : Config where
  version := supportedVersion
  description := none
  threshold := Budget.defaultThreshold

/-- The configuration with another threshold. -/
def withThreshold (c : Config) (threshold : Double) : Config := { c with threshold }

/-- Checks the version, and then the threshold. -/
def check (c : Config) : Except Error Unit :=
  if c.version = supportedVersion then checkThreshold c.threshold
  else .error (.versionMismatch supportedVersion c.version)

/-- The fields of a configuration read so far. -/
structure Draft where
  version : Option String := none
  description : Option (Option String) := none
  threshold : Option Double := none

/-- How a configuration is read. -/
def record : Record Draft Config where
  name := "BundleConfig"
  draft := {}
  fields := [
    field "schema_version" (·.version) (fun d x => { d with version := some x })
      (fun _ => Json.text),
    field "description" (·.description) (fun d x => { d with description := some x })
      (fun _ => optionalText) true,
    field "epsilon_threshold" (·.threshold) (fun d x => { d with threshold := some x })
      (fun _ => double) true]
  finish d := do
    let version ← need "schema_version" d.version
    return {
      version
      description := d.description.getD none
      threshold := d.threshold.getD Budget.defaultThreshold }

/-- The configuration in a document, unchecked. -/
def ofJson (text : Bytes) : Except Error Config :=
  match document (record.read depthLimit) text with
  | .ok c => .ok c
  | .error e => .error (.malformed s!"Invalid JSON: {e.message}")

/-- A configuration as JSON. -/
def json (c : Config) : List Char :=
  Writer.object [
    ("schema_version", Writer.text c.version),
    ("description", match c.description with | some t => Writer.text t | none => Writer.null),
    ("epsilon_threshold", Writer.float c.threshold)]

end Config

end SharedBudget
