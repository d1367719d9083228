/-
# Torn checkpoints

The document of a checkpoint ends where its object ends.  So a file to which only a
part of it was written is not taken for a checkpoint with less in it, wherever the
part ends, and neither is one in which something else stands behind it
(`Checkpoint.ofBytes_torn_or_overlong`).
-/

import SharedBudget.Proofs.Checkpoint
import SharedBudget.Proofs.Json.Cut

namespace SharedBudget
namespace Checkpoint

open Json

theorem stable_counter : Stable counter counter :=
  ((stable_accepting _).map Int.toNat).map UInt64.ofNat

theorem Entry.isStable_record : Entry.record.IsStable := by
  have hblob (depth : ℕ) (d : Entry.Draft) :
      Stable (Entry.blobField.read depth d) (Entry.blobField.read depth d) :=
    (stable_accepting acceptText).bind fun _ => stable_pure _
  simp only [Record.IsStable, Entry.record, List.forall_mem_cons]
  refine ⟨stable_field fun _ => ?_, stable_field fun _ => ?_, stable_field fun _ => ?_, hblob,
    nofun⟩
  · exact stable_accepting acceptOptionalText
  · exact stable_accepting acceptText
  · exact stable_counter

theorem isStable_record : record.IsStable := by
  simp only [Record.IsStable, record, List.forall_mem_cons]
  refine ⟨stable_field fun _ => ?_, stable_field fun _ => ?_, stable_field fun _ => ?_,
    stable_field fun depth => ?_, nofun⟩
  · exact stable_accepting acceptText
  · exact stable_accepting acceptTimestamp
  · exact stable_counter
  · exact (sealed_listOf (fun depth => (Entry.isStable_record.sealed_read depth).stable)
      depth).stable

/-- Checking frames does not find fault with the document. -/
theorem checkEntries_ne_json (index : ℕ) (entries : List Entry) (e : Json.Error) :
    checkEntries index entries ≠ .error (.json e) := by
  induction entries generalizing index with
  | nil => exact nofun
  | cons entry entries ih =>
    unfold checkEntries Entry.check
    split_ifs
    · exact nofun
    · exact nofun
    · exact ih (index + 1)
    · exact nofun

/-- What is no document of a checkpoint is refused as such, and nothing else is. -/
theorem outcome_ofBytes_json_iff {text : Bytes} :
    (∃ e, (ofBytes text).outcome = .error (.json e)) ↔ ∃ e, ofJson text = .error e := by
  rw [outcome_ofBytes, decode]
  cases hread : ofJson text with
  | error e => exact ⟨fun _ => ⟨e, rfl⟩, fun _ => ⟨e, rfl⟩⟩
  | ok c =>
    constructor
    · rintro ⟨e, he⟩
      have hcheck : c.check = .error (.json e) := by
        cases hc : c.check with
        | error e' => simpa [hc] using he
        | ok _ => simp [hc] at he
      unfold check at hcheck
      split_ifs at hcheck
      · exact absurd hcheck (checkEntries_ne_json 0 c.entries e)
      · cases hcheck
    · rintro ⟨e, he⟩
      cases he

/-- **The document of a checkpoint is all of it.**  No proper part of it from the front, wherever
it ends, is a document of a checkpoint, whatever texts and blobs the checkpoint holds.  And what
stands behind it is blank, or the whole is none. -/
theorem ofBytes_torn_or_overlong (c : Checkpoint) :
    (∀ n, (∃ e, (ofBytes (c.toBytes.value.take n)).outcome = .error (.json e)) ↔
      n < c.toBytes.value.length) ∧
    ∀ more, (∃ e, (ofBytes (c.toBytes.value ++ more)).outcome = .error (.json e)) ↔
      ∃ b ∈ more, b ≠ 0x20 ∧ b ≠ 0x09 ∧ b ≠ 0x0A ∧ b ≠ 0x0D := by
  have hsealed : Sealed (record.read depthLimit) (record.read depthLimit) :=
    isStable_record.sealed_read depthLimit
  have hread : record.read depthLimit c.encode = .ok (c, []) := by
    have h := c.reads_json 124 [] closes_nil
    rwa [List.append_nil] at h
  rw [value_toBytes]
  constructor
  · intro n
    rw [outcome_ofBytes_json_iff]
    constructor
    · rintro ⟨e, he⟩
      by_contra hge
      rw [List.take_of_length_le (not_lt.1 hge), ofJson_encode] at he
      cases he
    · intro hn
      exact hsealed.document_take hread hn
  · intro more
    have hblank (b : UInt8) : ¬isBlank b ↔ b ≠ 0x20 ∧ b ≠ 0x09 ∧ b ≠ 0x0A ∧ b ≠ 0x0D := by
      simp [isBlank, and_assoc]
    simp only [outcome_ofBytes_json_iff, ← hblank]
    rcases hsealed.document_append hread more with ⟨hok, hall⟩ | ⟨herror, hsome⟩
    · constructor
      · rintro ⟨e, he⟩
        rw [ofJson, hok] at he
        cases he
      · rintro ⟨b, hb, hnot⟩
        exact absurd (hall b hb) hnot
    · exact ⟨fun _ => hsome, fun _ => herror⟩

end Checkpoint
end SharedBudget
