/-
# Checkpoints read back

A checkpoint that is written and read again is the same checkpoint
(`Checkpoint.ofJson_encode`): the blobs come back through Base64, the time of its
creation through its text, and the rest through JSON.  So a document is refused for
nothing but what is wrong with the checkpoint in it (`Checkpoint.ofBytes_toBytes`),
and one that passes the check is accepted (`Checkpoint.decode_encode`).
-/

import SharedBudget.Checkpoint.Codec
import SharedBudget.Proofs.Calendar
import SharedBudget.Proofs.Json.Records
import SharedBudget.Proofs.Text.Base64.Canonical

namespace SharedBudget

namespace Checkpoint

open Json

/-! ## Blobs as text -/

/-- The character of an ASCII byte. -/
theorem utf8EncodeChar_ofNat {b : UInt8} (h : b.toNat < 0x80) :
    String.utf8EncodeChar (Char.ofNat b.toNat) = [b] := by
  have hchar : ∀ n < 0x80, (Char.ofNat n).toNat = n := by decide
  rw [Utf8.utf8EncodeChar_of_lt (by rwa [hchar _ h]), hchar _ h, UInt8.ofNat_toNat]

theorem encode_blobText (blob : Bytes) : Utf8.encode (blobText blob) = Base64.encode blob := by
  have hascii : ∀ b ∈ Base64.encode blob, b.toNat < 0x80 := Base64.toNat_lt_of_mem_encode
  unfold blobText Utf8.encode
  rw [List.flatMap_map, List.flatMap_congr fun b hb => utf8EncodeChar_ofNat (hascii b hb),
    List.flatMap_singleton']

/-- **A blob is read back** from its text. -/
theorem blobOfText_blobText (blob : Bytes) :
    blobOfText (String.ofList (blobText blob)) = .ok blob := by
  have htext : Utf8.ofString (String.ofList (blobText blob)) = Base64.encode blob := by
    rw [Utf8.ofString, String.toList_ofList, encode_blobText]
  rw [blobOfText, htext, Base64.decode_encode]

/-- Text is read as the blob that its bytes are Base64 for. -/
theorem blobOfText_eq_ok_iff_isTextOf {text : String} {blob : Bytes} :
    blobOfText text = .ok blob ↔ Base64.IsTextOf (Utf8.ofString text) blob := by
  rw [Base64.isTextOf_iff, ← Base64.decode_eq_ok_iff]
  unfold blobOfText
  cases Base64.decode (Utf8.ofString text) with
  | error e => exact iff_of_false nofun nofun
  | ok read => rw [Except.ok.injEq, Except.ok.injEq]

theorem blobOfText_eq_ok_iff {text : String} {blob : Bytes} :
    blobOfText text = .ok blob ↔ text = String.ofList (blobText blob) := by
  constructor
  · intro h
    have hbytes := Base64.isTextOf_iff.1 (blobOfText_eq_ok_iff_isTextOf.1 h)
    rw [← encode_blobText, Utf8.ofString] at hbytes
    have hchars := congrArg Utf8.decode hbytes
    rw [Utf8.decode_encode, Utf8.decode_encode] at hchars
    rw [← Option.some.inj hchars, String.ofList_toList]
  · rintro rfl
    exact blobOfText_blobText blob

/-- **The text of a blob is canonical.**  Every blob is read back from its text, and nothing else
is read as a blob: text that is read is the text that is written for what it is read as, so no two
texts are read as the same blob.  What is written, and what is read, is Base64 in full
(`Base64.IsTextOf`): symbols of the alphabet only, then as many padding signs as are missing to
whole groups of four, and no bits that stand for no byte but zeros. -/
theorem blobText_canonical :
    (∀ blob, blobOfText (String.ofList (blobText blob)) = .ok blob) ∧
    (∀ text blob, blobOfText text = .ok blob ↔ text = String.ofList (blobText blob)) ∧
    (∀ text blob, blobOfText text = .ok blob ↔ Base64.IsTextOf (Utf8.ofString text) blob) ∧
    ∀ text text' blob, blobOfText text = .ok blob → blobOfText text' = .ok blob →
      text = text' := by
  refine ⟨blobOfText_blobText, fun text blob => blobOfText_eq_ok_iff,
    fun text blob => blobOfText_eq_ok_iff_isTextOf, fun text text' blob h h' => ?_⟩
  rw [blobOfText_eq_ok_iff.1 h, blobOfText_eq_ok_iff.1 h']

/-- A bit that stands for no byte. -/
example : blobOfText "AR==" = .error (.refused "Invalid last symbol 82, offset 1.") := by
  decide +kernel

/-! ## Entries -/

namespace Entry

variable {e : Entry}

theorem reads_blobField (blob : Bytes) (depth : ℕ) (d : Draft) :
    Reads (blobField.read depth d) (Quoted.json (blobText blob))
      (.ok { d with blob := some blob }) := by
  have htext : Reads Json.text (Quoted.json (blobText blob)) (String.ofList (blobText blob)) :=
    (reads_scalar_quoted (blobText blob)).accepting acceptText rfl
  intro rest hrest
  change (Json.text >>= fun t => pure ((fun b => { d with blob := some b }) <$> blobOfText t) :
    Reader (Except Cause Draft)) _ = _
  rw [bind_reader (htext rest hrest), blobOfText_blobText]
  rfl

/-- The fields of an entry after its identifier fill the draft. -/
theorem fills_frame (e : Entry) (depth : ℕ) (identifier : Option (Option String)) :
    record.Fills depth { identifier }
      [("sha256", Writer.text e.sha256), ("bytes", Writer.natural e.size.toNat),
        ("blob", Quoted.json (blobText e.blob))]
      ⟨identifier, some e.sha256, some e.size, some e.blob⟩ := by
  have hsize : UInt64.ofNat e.size.toNat = e.size := UInt64.ofNat_toNat
  refine .cons rfl rfl (reads_field _ (reads_text e.sha256)) ?_
  refine .cons rfl rfl (reads_field _ ((reads_natural "u64" e.size.toNat_lt).map _)) ?_
  refine .cons rfl rfl (reads_blobField e.blob depth _) ?_
  rw [hsize]
  exact .nil _

/-- **An entry is read back,** with or without an identifier. -/
theorem reads_json (e : Entry) (depth : ℕ) : Reads (record.read (depth + 1)) e.json e := by
  obtain ⟨_ | identifier, sha256, size, blob⟩ := e
  · exact (fills_frame _ depth none).reads nofun rfl
  · exact (Record.Fills.cons rfl rfl (reads_field _ (reads_optionalText identifier))
      (fills_frame _ depth (some (some identifier)))).reads nofun rfl

theorem begins_json (e : Entry) : Begins e.json := begins_object _

end Entry

/-! ## Checkpoints -/

variable {c : Checkpoint}

theorem acceptTimestamp_chars (t : Timestamp) :
    acceptTimestamp (.text (String.ofList t.chars)) = .ok t := by
  rw [acceptTimestamp, String.toList_ofList, Calendar.read_chars]

theorem reads_json (c : Checkpoint) (depth : ℕ) : Reads (record.read (depth + 3)) c.json c := by
  have htotal : UInt64.ofNat c.total.toNat = c.total := UInt64.ofNat_toNat
  have hcreated : Reads (accepting acceptTimestamp) (Quoted.json c.createdAt.chars) c.createdAt :=
    (reads_scalar_quoted _).accepting _ (acceptTimestamp_chars c.createdAt)
  have hentries : Reads (listOf Entry.record.read (depth + 2))
      (Writer.list (c.entries.map Entry.json)) c.entries :=
    reads_listOf (fun e _ => e.reads_json depth) fun e _ => e.begins_json
  have hfills : record.Fills (depth + 2) {} [("schema_version", Writer.text c.version),
      ("created_at", Quoted.json c.createdAt.chars),
      ("total_inputs_seen", Writer.natural c.total.toNat),
      ("nested", Writer.list (c.entries.map Entry.json))]
      ⟨some c.version, some c.createdAt, some c.total, some c.entries⟩ := by
    refine .cons rfl rfl (reads_field _ (reads_text c.version)) ?_
    refine .cons rfl rfl (reads_field _ hcreated) ?_
    refine .cons rfl rfl (reads_field _ ((reads_natural "u64" c.total.toNat_lt).map _)) ?_
    refine .cons rfl rfl (reads_field _ hentries) ?_
    rw [htotal]
    exact .nil _
  exact hfills.reads nofun rfl

/-- **A checkpoint is read back** from its document. -/
theorem ofJson_encode (c : Checkpoint) : ofJson c.encode = .ok c := by
  have hdocument := (c.reads_json 124).document
  exact hdocument

/-! ## Documents -/

/-- The document of a checkpoint is read as the checkpoint, and only then checked. -/
theorem decode_encode_eq (c : Checkpoint) : decode c.encode = c.check >>= fun _ => .ok c := by
  rw [decode, ofJson_encode]
  rfl

/-- **The library's own checkpoints are accepted:** what is read back from the document of a
valid checkpoint is the checkpoint. -/
theorem decode_encode (h : c.check = .ok ()) : decode c.encode = .ok c := by
  rw [decode_encode_eq, h, ok_bind]

/-- What a document is read as has passed the check. -/
theorem check_of_decode {text : Bytes} (h : decode text = .ok c) : c.check = .ok () := by
  unfold decode at h
  split at h
  · cases h
  · obtain ⟨⟨⟩, hcheck, hread⟩ := bind_eq_ok_iff.1 h
    obtain rfl := Except.ok.inj hread
    exact hcheck

theorem outcome_validate (c : Checkpoint) : c.validate.outcome = c.check := rfl

theorem value_toBytes (c : Checkpoint) : c.toBytes.value = c.encode := rfl

theorem outcome_ofBytes (text : Bytes) : (ofBytes text).outcome = decode text := rfl

/-- **Writing and reading is exact.**  The document of a checkpoint is read as that checkpoint,
the same in everything it holds, if the checkpoint passes the check; and if not, it is refused
with the error of the check.  So whatever document a checkpoint was read from, it comes back the
same when it is written down and read again. -/
theorem ofBytes_toBytes (c : Checkpoint) :
    (c.validate.outcome = .ok () → (ofBytes c.toBytes.value).outcome = .ok c) ∧
      (∀ e, c.validate.outcome = .error e → (ofBytes c.toBytes.value).outcome = .error e) ∧
        ∀ text, (ofBytes text).outcome = .ok c → (ofBytes c.toBytes.value).outcome = .ok c := by
  simp only [outcome_validate, outcome_ofBytes, value_toBytes, decode_encode_eq]
  refine ⟨fun hvalid => ?_, fun e hinvalid => ?_, fun text htext => ?_⟩
  · rw [hvalid, ok_bind]
  · rw [hinvalid, error_bind]
  · rw [check_of_decode htext, ok_bind]

end Checkpoint
end SharedBudget
