/-
# The blob of a sum

A sum that is written into a blob and read back keeps its count and the number of
groups it waits for.  The sum itself becomes what a document makes of a double
(`Json.reread`), and if that is nothing the blob is refused
(`PrivateSum.decode_encode_eq_ok_iff`).
-/

import SharedBudget.Mechanism.Sum
import SharedBudget.Proofs.Json.Records

namespace SharedBudget
namespace PrivateSum

open Json

variable {s t : PrivateSum}

theorem readsAs_json (s : PrivateSum) (depth : ℕ) :
    ReadsAs (record.read (depth + 1)) s.json ((reread s.sum).map fun x => { s with sum := x }) := by
  have hread := readsAs_double s.sum
  cases h : reread s.sum with
  | none =>
    rw [h] at hread
    exact (Record.Spoils.here rfl rfl (refuses_field _ hread.refuses)).refuses
  | some x =>
    rw [h] at hread
    have hcount : UInt64.ofNat s.count.toNat = s.count := UInt64.ofNat_toNat
    have hminimum : UInt64.ofNat s.minimum.toNat = s.minimum := UInt64.ofNat_toNat
    have hfills : record.Fills depth {} [("sum", Writer.float s.sum),
        ("count", Writer.natural s.count.toNat),
        ("min_contributions", Writer.natural s.minimum.toNat)]
        ⟨some x, some s.count, some s.minimum⟩ := by
      refine .cons rfl rfl (reads_field _ hread.reads) ?_
      refine .cons rfl rfl (reads_field _ ((reads_natural "u64" s.count.toNat_lt).map _)) ?_
      refine .cons rfl rfl (reads_field _ ((reads_natural "u64" s.minimum.toNat_lt).map _)) ?_
      rw [hcount, hminimum]
      exact .nil _
    exact hfills.reads nofun rfl

/-- **What a blob is read as:** the same count, the same number of groups to wait for, and for the
sum what a document makes of it. -/
theorem decode_encode_eq_ok_iff :
    decode s.encode = .ok t ↔
      reread s.sum = some t.sum ∧ t.count = s.count ∧ t.minimum = s.minimum := by
  refine ((s.readsAs_json 126).document_iff t).trans ?_
  rw [Option.map_eq_some_iff]
  constructor
  · rintro ⟨x, hx, rfl⟩
    exact ⟨hx, rfl, rfl⟩
  · rintro ⟨hsum, hcount, hminimum⟩
    exact ⟨t.sum, hsum, by rw [← hcount, ← hminimum]⟩

/-- A blob is short: its length fits a 64-bit word. -/
theorem length_encode_lt (s : PrivateSum) : s.encode.length < 2 ^ 64 := by
  have hword (n : UInt64) : (Writer.natural n.toNat).length ≤ 20 :=
    (Decimal.length_digits_le_iff (by decide)).2 (n.toNat_lt.trans (by decide))
  have hsum := length_float_le Format.isNarrow_double s.sum
  have hcount := hword s.count
  have hminimum := hword s.minimum
  have hname : (Writer.text "sum").length = 5 := rfl
  have hname' : (Writer.text "count").length = 7 := rfl
  have hname'' : (Writer.text "min_contributions").length = 19 := rfl
  have hjson : s.json.length ≤ 200 := by
    simp only [json, Writer.object, List.map_cons, List.map_nil, Writer.separated, Writer.member,
      List.length_cons, List.length_append, List.length_nil, hname, hname', hname'']
    omega
  have hbytes := Utf8.length_encode_le s.json
  unfold encode
  omega

end PrivateSum
end SharedBudget
