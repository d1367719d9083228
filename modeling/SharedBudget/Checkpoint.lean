/-
# Checkpoints

A checkpoint holds what a bundle needs to go on later: the number of input
groups it has seen, and one entry per mechanism with the mechanism's own state
as a blob.  Every blob is framed by its length and its SHA-256 digest, and
`Checkpoint.check` refuses a checkpoint unless every frame is the one that
`Entry.ofBlob` makes for the blob.
-/

import SharedBudget.Calendar
import SharedBudget.Checkpoint.Error
import SharedBudget.Digest
import SharedBudget.Log.Event

namespace SharedBudget

namespace Checkpoint

/-- The version of the format. -/
def supportedVersion : String := "1.0.0"

/-- The state of one mechanism in its frame. -/
structure Entry where
  /-- The mechanism to which the blob belongs, if that is on record. -/
  identifier : Option String
  /-- The digest of the blob, in hexadecimal digits. -/
  sha256 : String
  /-- The length of the blob. -/
  size : UInt64
  blob : Bytes
deriving DecidableEq

namespace Entry

/-- A blob in its frame. -/
def ofBlob (identifier : Option String) (blob : Bytes) : Entry where
  identifier
  sha256 := Digest.sha256 blob
  size := .ofNat blob.length
  blob

/-- Whether the digest on record is that of the blob. -/
def verify (e : Entry) : Bool := e.sha256 = Digest.sha256 e.blob

/-- Checks the frame of the entry with number `index`. -/
def check (index : Nat) (e : Entry) : Except Error Unit :=
  if e.sha256.utf8ByteSize ≠ 64 then .error (.corrupted (.checksumLength index))
  else if e.size.toNat ≠ e.blob.length then
    .error (.corrupted (.size index e.size.toNat e.blob.length))
  else if e.verify then .ok ()
  else .error (.checksumMismatch index e.sha256 (Digest.sha256 e.blob))

end Entry

/-- Checks the frames of entries, the first one having number `index`. -/
def checkEntries : (index : Nat) → List Entry → Except Error Unit
  | _, [] => .ok ()
  | index, e :: entries => do
    e.check index
    checkEntries (index + 1) entries

end Checkpoint

/-- A checkpoint. -/
structure Checkpoint where
  version : String
  createdAt : Timestamp
  /-- The number of input groups seen. -/
  total : UInt64
  entries : List Checkpoint.Entry
deriving DecidableEq

namespace Checkpoint

/-- A checkpoint without entries. -/
def empty (createdAt : Timestamp) (total : UInt64) : Checkpoint where
  version := supportedVersion
  createdAt
  total
  entries := []

/-- The checkpoint with the state of one more mechanism. -/
def push (c : Checkpoint) (identifier : Option String) (blob : Bytes) : Checkpoint :=
  { c with entries := c.entries ++ [Entry.ofBlob identifier blob] }

/-- The blob of the entry with this number. -/
def blob? (c : Checkpoint) (index : Nat) : Option Bytes := c.entries[index]?.map (·.blob)

/-- Checks the version, and then the frames from the first to the last. -/
def check (c : Checkpoint) : Except Error Unit :=
  if c.version = supportedVersion then checkEntries 0 c.entries
  else .error (.unsupportedVersion c.version supportedVersion)

/-- The event of a digest that is not that of the blob. -/
def mismatchEvent (index : Nat) (expected actual : String) : Log.Event where
  severity := .warn
  target := "dpb_state::state"
  message := "Nested state checksum mismatch"
  fields := [("index", .natural index), ("expected", .shown expected), ("actual", .shown actual)]

/-- What checking a checkpoint leaves in the log: a wrong digest, and nothing else. -/
def checkEvents : Except Error Unit → List Log.Event
  | .error (.checksumMismatch index expected actual) => [mismatchEvent index expected actual]
  | _ => []

/-- Checks a checkpoint, and logs a wrong digest. -/
def validate (c : Checkpoint) : Attempt Error Unit :=
  ExceptT.mk ⟨c.check, checkEvents c.check⟩

end Checkpoint

end SharedBudget
