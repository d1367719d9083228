/-
# Checkpoints as documents

A checkpoint is written as compact JSON, with blobs in Base64 and the time of
its creation as text.  Reading checks the frames at once: what is decoded is
valid.
-/

import SharedBudget.Calendar.Reading
import SharedBudget.Checkpoint
import SharedBudget.Json.Typed
import SharedBudget.Json.Writer
import SharedBudget.Text.Base64

namespace SharedBudget
namespace Checkpoint

open Json

/-- A 64-bit counter. -/
def counter : Reader UInt64 := UInt64.ofNat <$> natural "u64"

/-- Accepts the text of a point in time. -/
def acceptTimestamp : Found → Except Cause Timestamp
  | .text t =>
    match Calendar.read t.toList with
    | .ok time => .ok time
    | .error e => .error (.refused e.message)
  | found => refuseType "an RFC 3339 formatted date and time string" found

/-- The text of a blob. -/
def blobText (blob : Bytes) : List Char :=
  (Base64.encode blob).map fun b => Char.ofNat b.toNat

/-- The blob of a text. -/
def blobOfText (text : String) : Except Cause Bytes :=
  match Base64.decode (Utf8.ofString text) with
  | .ok blob => .ok blob
  | .error e => .error (.refused e.message)

namespace Entry

/-- The fields of an entry read so far. -/
structure Draft where
  identifier : Option (Option String) := none
  sha256 : Option String := none
  size : Option UInt64 := none
  blob : Option Bytes := none

/-- The field of the blob, which accepts canonical Base64 only. -/
def blobField : Json.Field Draft where
  name := "blob"
  present d := d.blob.isSome
  read _ d := do return (fun b => { d with blob := some b }) <$> blobOfText (← Json.text)

/-- How an entry is read. -/
def record : Record Draft Entry where
  name := "NestedState"
  draft := {}
  fields := [
    field "identifier" (·.identifier) (fun d x => { d with identifier := some x })
      (fun _ => optionalText) true,
    field "sha256" (·.sha256) (fun d x => { d with sha256 := some x }) (fun _ => Json.text),
    field "bytes" (·.size) (fun d x => { d with size := some x }) (fun _ => counter),
    blobField]
  finish d := do
    let sha256 ← need "sha256" d.sha256
    let size ← need "bytes" d.size
    let blob ← need "blob" d.blob
    return { identifier := d.identifier.getD none, sha256, size, blob }

/-- An entry as JSON; an identifier that is not on record is left out. -/
def json (e : Entry) : List Char :=
  let identifier := match e.identifier with
    | some name => [("identifier", Writer.text name)]
    | none => []
  Writer.object (identifier ++ [
    ("sha256", Writer.text e.sha256),
    ("bytes", Writer.natural e.size.toNat),
    ("blob", Quoted.json (blobText e.blob))])

end Entry

/-- The fields of a checkpoint read so far. -/
structure Draft where
  version : Option String := none
  createdAt : Option Timestamp := none
  total : Option UInt64 := none
  entries : Option (List Entry) := none

/-- How a checkpoint is read. -/
def record : Record Draft Checkpoint where
  name := "BundleState"
  draft := {}
  fields := [
    field "schema_version" (·.version) (fun d x => { d with version := some x })
      (fun _ => Json.text),
    field "created_at" (·.createdAt) (fun d x => { d with createdAt := some x })
      (fun _ => accepting acceptTimestamp),
    field "total_inputs_seen" (·.total) (fun d x => { d with total := some x })
      (fun _ => counter),
    field "nested" (·.entries) (fun d x => { d with entries := some x })
      (listOf Entry.record.read) true]
  finish d := do
    let version ← need "schema_version" d.version
    let createdAt ← need "created_at" d.createdAt
    let total ← need "total_inputs_seen" d.total
    return { version, createdAt, total, entries := d.entries.getD [] }

/-- The checkpoint in a document, unchecked. -/
def ofJson (text : Bytes) : Except Json.Error Checkpoint :=
  document (record.read depthLimit) text

/-- A checkpoint as JSON. -/
def json (c : Checkpoint) : List Char :=
  Writer.object [
    ("schema_version", Writer.text c.version),
    ("created_at", Quoted.json c.createdAt.chars),
    ("total_inputs_seen", Writer.natural c.total.toNat),
    ("nested", Writer.list (c.entries.map Entry.json))]

/-- The document of a checkpoint. -/
def encode (c : Checkpoint) : Bytes := Utf8.encode c.json

/-- The checkpoint of a document, which is valid. -/
def decode (text : Bytes) : Except Error Checkpoint :=
  match ofJson text with
  | .error e => .error (.json e)
  | .ok c => do
    c.check
    return c

/-- The event of writing a checkpoint. -/
def encodedEvent (c : Checkpoint) : Log.Event where
  severity := .debug
  target := "dpb_state::state"
  message := "Encoded bundle state"
  fields := [("nested", .natural c.entries.length), ("total_inputs_seen", .natural c.total.toNat),
    ("bytes", .natural c.encode.length)]

/-- The event of reading a checkpoint. -/
def decodedEvent (c : Checkpoint) : Log.Event where
  severity := .debug
  target := "dpb_state::state"
  message := "Decoded bundle state"
  fields := [("nested", .natural c.entries.length), ("total_inputs_seen", .natural c.total.toNat)]

/-- Writes a checkpoint, with its event. -/
def toBytes (c : Checkpoint) : Logged Bytes := do
  Logged.emit c.encodedEvent
  return c.encode

/-- What reading a checkpoint leaves in the log. -/
def decodeEvents : Except Error Checkpoint → List Log.Event
  | .ok c => [c.decodedEvent]
  | .error e => checkEvents (.error e)

/-- Reads a checkpoint, with its events. -/
def ofBytes (text : Bytes) : Attempt Error Checkpoint :=
  ExceptT.mk ⟨decode text, decodeEvents (decode text)⟩

end Checkpoint
end SharedBudget
