/-
# Specifications in JSON
-/

import SharedBudget.Parameter.Codec
import SharedBudget.Spec

namespace SharedBudget

open Json

namespace MechanismSpec

/-- The fields of a mechanism specification read so far. -/
structure Draft where
  identifier : Option String := none
  inputs : Option (List String) := none
  parameters : Option (List Parameter) := none

/-- How a mechanism specification is read. -/
def record : Record Draft MechanismSpec where
  name := "MechanismSpec"
  draft := {}
  fields := [
    field "identifier" (·.identifier) (fun d x => { d with identifier := some x })
      (fun _ => Json.text),
    field "inputs" (·.inputs) (fun d x => { d with inputs := some x })
      (listOf fun _ => Json.text) true,
    field "parameters" (·.parameters) (fun d x => { d with parameters := some x })
      (listOf Parameter.read) true]
  finish d := do
    let identifier ← need "identifier" d.identifier
    return { identifier, inputs := d.inputs.getD [], parameters := d.parameters.getD [] }

/-- A mechanism specification as JSON. -/
def json (s : MechanismSpec) : List Char :=
  Writer.object [
    ("identifier", Writer.text s.identifier),
    ("inputs", Writer.list (s.inputs.map Writer.text)),
    ("parameters", Writer.list (s.parameters.map Parameter.json))]

end MechanismSpec

namespace BundleSpec

/-- The fields of a bundle specification read so far. -/
structure Draft where
  nested : Option (List MechanismSpec) := none
  parameters : Option (List Parameter) := none

/-- How a bundle specification is read. -/
def record : Record Draft BundleSpec where
  name := "BundleSpec"
  draft := {}
  fields := [
    field "nested_specs" (·.nested) (fun d x => { d with nested := some x })
      (listOf MechanismSpec.record.read) true,
    field "parameters" (·.parameters) (fun d x => { d with parameters := some x })
      (listOf Parameter.read) true]
  finish d := .ok { nested := d.nested.getD [], parameters := d.parameters.getD [] }

/-- The specification in a document. -/
def ofJson (text : Bytes) : Except Json.Error BundleSpec :=
  document (record.read depthLimit) text

/-- A bundle specification as JSON. -/
def json (s : BundleSpec) : List Char :=
  Writer.object [
    ("nested_specs", Writer.list (s.nested.map MechanismSpec.json)),
    ("parameters", Writer.list (s.parameters.map Parameter.json))]

end BundleSpec

end SharedBudget
