/-
# The frames that pass the check

An entry is a frame if `Entry.ofBlob` makes it: its digest and its length are those of
its blob.  The check of a checkpoint accepts exactly the checkpoints of the supported
version whose entries are all frames, and what it reports otherwise is the version, or
what is wrong with the first entry that is no frame (`Checkpoint.validate_iff_frames`).
So what the library puts into a checkpoint is accepted, and a blob that is replaced by
one with another digest is not.
-/

import SharedBudget.Proofs.Checkpoint

namespace SharedBudget

/-! ## Digests -/

namespace Hex

/-- The sixteen digits in lower case, in ascending order. -/
def alphabet : List Char :=
  ['0', '1', '2', '3', '4', '5', '6', '7', '8', '9', 'a', 'b', 'c', 'd', 'e', 'f']

theorem mem_alphabet_of_mem_digits {width n : ℕ} : ∀ c ∈ digits width n, c ∈ alphabet := by
  have hdigit : ∀ n < 16, digit n ∈ alphabet := by decide
  induction width generalizing n with
  | zero => exact nofun
  | succ width ih =>
    rw [digits, List.forall_mem_append]
    exact ⟨ih, List.forall_mem_singleton.2 (hdigit _ (Nat.mod_lt _ (by decide)))⟩

theorem length_digits (width n : ℕ) : (digits width n).length = width := by
  induction width generalizing n with
  | zero => rfl
  | succ width ih => rw [digits, List.length_append, ih, List.length_singleton]

/-- Every digit takes one byte. -/
theorem utf8ByteSize_ofList {cs : List Char} (h : ∀ c ∈ cs, c ∈ alphabet) :
    (String.ofList cs).utf8ByteSize = cs.length := by
  have hall : alphabet.all fun c => c.utf8Size = 1 := by decide
  induction cs with
  | nil => rfl
  | cons c cs ih =>
    obtain ⟨hc, hcs⟩ := List.forall_mem_cons.1 h
    have hsize : c.utf8Size = 1 := of_decide_eq_true (List.all_eq_true.1 hall c hc)
    rw [String.ofList_cons, String.utf8ByteSize_append, String.utf8ByteSize_singleton, hsize,
      ih hcs, List.length_cons, Nat.add_comm]

end Hex

namespace Checkpoint

/-- Sixty-four lower-case hexadecimal digits. -/
structure IsHexDigest (text : String) : Prop where
  utf8ByteSize_eq : text.utf8ByteSize = 64
  mem_alphabet : ∀ c ∈ text.toList, c ∈ Hex.alphabet

/-- A digest is written in eight groups of eight digits. -/
theorem isHexDigest_sha256 (message : Bytes) : IsHexDigest (Digest.sha256 message) := by
  have hdigits : ∀ c ∈ (Digest.sha256Words message).flatMap fun w => Hex.digits 8 w.toNat,
      c ∈ Hex.alphabet := by
    intro c hc
    obtain ⟨w, _, hc⟩ := List.mem_flatMap.1 hc
    exact Hex.mem_alphabet_of_mem_digits c hc
  unfold Digest.sha256
  constructor
  · rw [Hex.utf8ByteSize_ofList hdigits, List.length_flatMap]
    simp only [Hex.length_digits, List.map_const', List.sum_replicate]
    rfl
  · rwa [String.toList_ofList]

/-! ## One entry -/

namespace Entry

variable {e : Entry}

/-- An entry that `ofBlob` makes for its blob, the length of the blob fitting its word. -/
structure IsFrame (e : Entry) : Prop where
  eq_ofBlob : e = .ofBlob e.identifier e.blob
  length_lt : e.blob.length < 2 ^ 64

/-- A frame carries the digest and the length of its blob. -/
theorem isFrame_iff :
    e.IsFrame ↔ e.sha256 = Digest.sha256 e.blob ∧ e.size.toNat = e.blob.length := by
  constructor
  · rintro ⟨heq, hlength⟩
    refine ⟨congrArg sha256 heq, ?_⟩
    have hsize : e.size = .ofNat e.blob.length := congrArg size heq
    rw [hsize, UInt64.toNat_ofNat_of_lt' hlength]
  · rintro ⟨hdigest, hsize⟩
    have hword : UInt64.ofNat e.blob.length = e.size := by rw [← hsize, UInt64.ofNat_toNat]
    refine ⟨?_, hsize ▸ e.size.toNat_lt⟩
    rw [ofBlob, hword, ← hdigest]

theorem isFrame_ofBlob {identifier : Option String} {blob : Bytes} (h : blob.length < 2 ^ 64) :
    (ofBlob identifier blob).IsFrame := ⟨rfl, h⟩

/-- What is wrong with entry `index` if it is no frame. -/
def defect (index : ℕ) (e : Entry) : Error :=
  if e.sha256.utf8ByteSize ≠ 64 then .corrupted (.checksumLength index)
  else if e.size.toNat ≠ e.blob.length then
    .corrupted (.size index e.size.toNat e.blob.length)
  else .checksumMismatch index e.sha256 (Digest.sha256 e.blob)

theorem IsFrame.check_eq (h : e.IsFrame) (index : ℕ) : e.check index = .ok () := by
  obtain ⟨hdigest, hsize⟩ := isFrame_iff.1 h
  have hchecksum : e.sha256.utf8ByteSize = 64 := by
    rw [hdigest]
    exact (isHexDigest_sha256 e.blob).utf8ByteSize_eq
  unfold check
  rw [if_neg (not_not.2 hchecksum), if_neg (not_not.2 hsize)]
  exact if_pos (decide_eq_true hdigest)

/-- The check finds out everything but a frame: a digest of another length is not the one of the
blob, and neither is any other digest than that one. -/
theorem check_of_not_isFrame (h : ¬e.IsFrame) (index : ℕ) :
    e.check index = .error (e.defect index) := by
  rw [isFrame_iff] at h
  unfold check defect
  split
  · rfl
  split
  · rfl
  · rename_i hsize
    have hdigest : e.sha256 ≠ Digest.sha256 e.blob := fun hd => h ⟨hd, not_not.1 hsize⟩
    rw [if_neg (by simpa [verify] using hdigest)]

end Entry

/-! ## All entries -/

/-- Entry `index` is `e`, which is no frame, and the entries before it are frames. -/
structure FirstFault (entries : List Entry) (index : ℕ) (e : Entry) : Prop where
  get : entries[index]? = some e
  not_isFrame : ¬e.IsFrame
  before : ∀ j < index, ∀ x, entries[j]? = some x → x.IsFrame

theorem firstFault_nil (index : ℕ) (e : Entry) : ¬FirstFault [] index e := by
  rintro ⟨hget, _, _⟩
  cases hget

/-- The first fault is at the first entry, or that entry is a frame and the fault comes later. -/
theorem firstFault_cons_iff {x e : Entry} {entries : List Entry} {index : ℕ} :
    FirstFault (x :: entries) index e ↔
      (index = 0 ∧ x = e ∧ ¬x.IsFrame) ∨
        ∃ j, index = j + 1 ∧ x.IsFrame ∧ FirstFault entries j e := by
  constructor
  · rintro ⟨hget, hnot, hbefore⟩
    cases index with
    | zero =>
      obtain rfl := Option.some.inj hget
      exact Or.inl ⟨rfl, rfl, hnot⟩
    | succ j =>
      have hx : x.IsFrame := hbefore 0 j.succ_pos x rfl
      refine Or.inr ⟨j, rfl, hx, hget, hnot, fun k hk y hy => ?_⟩
      exact hbefore (k + 1) (Nat.succ_lt_succ hk) y hy
  · rintro (⟨rfl, rfl, hnot⟩ | ⟨j, rfl, hx, hget, hnot, hbefore⟩)
    · exact ⟨rfl, hnot, fun k hk => absurd hk k.not_lt_zero⟩
    · refine ⟨hget, hnot, fun k hk y hy => ?_⟩
      cases k with
      | zero =>
        obtain rfl := Option.some.inj hy
        exact hx
      | succ k => exact hbefore k (Nat.lt_of_succ_lt_succ hk) y hy

/-- The check goes through the entries exactly if all of them are frames. -/
theorem checkEntries_eq_ok_iff {entries : List Entry} (index : ℕ) :
    checkEntries index entries = .ok () ↔ ∀ e ∈ entries, e.IsFrame := by
  induction entries generalizing index with
  | nil => exact iff_of_true rfl (List.forall_mem_nil _)
  | cons e entries ih =>
    rw [checkEntries, List.forall_mem_cons]
    by_cases he : e.IsFrame
    · rw [he.check_eq, ok_bind, ih, and_iff_right he]
    · rw [Entry.check_of_not_isFrame he, error_bind]
      constructor
      · intro h
        cases h
      · rintro ⟨he', _⟩
        exact absurd he' he

/-- The check stops at the first fault. -/
theorem checkEntries_eq_error_iff {entries : List Entry} {error : Error} (index : ℕ) :
    checkEntries index entries = .error error ↔
      ∃ i e, FirstFault entries i e ∧ error = e.defect (index + i) := by
  induction entries generalizing index with
  | nil => simp [checkEntries, firstFault_nil]
  | cons x entries ih =>
    rw [checkEntries]
    by_cases hx : x.IsFrame
    · rw [hx.check_eq, ok_bind, ih]
      constructor
      · rintro ⟨i, e, hfault, rfl⟩
        refine ⟨i + 1, e, firstFault_cons_iff.2 (Or.inr ⟨i, rfl, hx, hfault⟩), ?_⟩
        rw [Nat.add_assoc, Nat.add_comm 1 i]
      · rintro ⟨i, e, hfault, rfl⟩
        obtain ⟨_, _, hnot⟩ | ⟨j, rfl, _, hfault⟩ := firstFault_cons_iff.1 hfault
        · exact absurd hx hnot
        · refine ⟨j, e, hfault, ?_⟩
          rw [Nat.add_assoc, Nat.add_comm 1 j]
    · rw [Entry.check_of_not_isFrame hx, error_bind, Except.error.injEq]
      constructor
      · rintro rfl
        exact ⟨0, x, firstFault_cons_iff.2 (Or.inl ⟨rfl, rfl, hx⟩), rfl⟩
      · rintro ⟨i, e, hfault, rfl⟩
        obtain ⟨rfl, rfl, _⟩ | ⟨_, _, hx', _⟩ := firstFault_cons_iff.1 hfault
        · rfl
        · exact absurd hx' hx

/-! ## Checkpoints -/

variable {c : Checkpoint}

theorem check_eq_ok_iff :
    c.check = .ok () ↔ c.version = supportedVersion ∧ ∀ e ∈ c.entries, e.IsFrame := by
  unfold check
  split
  · rename_i hversion
    rw [checkEntries_eq_ok_iff, and_iff_right hversion]
  · rename_i hversion
    exact iff_of_false nofun fun h => hversion h.1

theorem check_eq_error_iff {error : Error} :
    c.check = .error error ↔
      (c.version ≠ supportedVersion ∧
          error = .unsupportedVersion c.version supportedVersion) ∨
        (c.version = supportedVersion ∧
          ∃ i e, FirstFault c.entries i e ∧ error = e.defect i) := by
  unfold check
  split
  · rename_i hversion
    simp only [checkEntries_eq_error_iff, Nat.zero_add, hversion, ne_eq, not_true_eq_false,
      false_and, true_and, false_or]
  · rename_i hversion
    simp only [Except.error.injEq, hversion, ne_eq, not_false_eq_true, true_and, false_and,
      or_false, eq_comm]

/-- The checkpoint with the states of more mechanisms. -/
def pushAll (c : Checkpoint) (states : List (Option String × Bytes)) : Checkpoint :=
  states.foldl (fun c state => c.push state.1 state.2) c

/-- Pushing adds frames, and leaves the version as it is. -/
theorem check_pushAll {states : List (Option String × Bytes)}
    (hstates : ∀ state ∈ states, state.2.length < 2 ^ 64) (hc : c.check = .ok ()) :
    (c.pushAll states).check = .ok () := by
  induction states generalizing c with
  | nil => exact hc
  | cons state states ih =>
    obtain ⟨hstate, hrest⟩ := List.forall_mem_cons.1 hstates
    refine ih hrest ?_
    obtain ⟨hversion, hentries⟩ := check_eq_ok_iff.1 hc
    refine check_eq_ok_iff.2 ⟨hversion, List.forall_mem_append.2 ⟨hentries, ?_⟩⟩
    exact List.forall_mem_singleton.2 (Entry.isFrame_ofBlob hstate)

/-- The checkpoint in which entry `index` holds another blob under the digest on record, and
declares this size. -/
def tamper (c : Checkpoint) (index : ℕ) (blob : Bytes) (size : UInt64) : Checkpoint :=
  { c with entries := c.entries.modify index fun e => { e with blob, size } }

/-- In a valid checkpoint whose blob is replaced, the first fault is where the blob was. -/
theorem firstFault_tamper {index : ℕ} {e : Entry} {blob : Bytes} {size : UInt64}
    (hc : c.check = .ok ()) (he : c.entries[index]? = some e)
    (hdigest : Digest.sha256 blob ≠ Digest.sha256 e.blob) :
    FirstFault (c.tamper index blob size).entries index { e with blob, size } := by
  obtain ⟨_, hentries⟩ := check_eq_ok_iff.1 hc
  obtain ⟨hstored, _⟩ := Entry.isFrame_iff.1 (hentries e (List.mem_of_getElem? he))
  refine ⟨?_, fun hframe => ?_, fun j hj x hx => ?_⟩
  · rw [tamper, List.getElem?_modify_eq, he]
    rfl
  · have hdigest' : e.sha256 = Digest.sha256 blob := (Entry.isFrame_iff.1 hframe).1
    exact hdigest (hdigest'.symm.trans hstored)
  · rw [tamper, List.getElem?_modify_ne _ _ hj.ne'] at hx
    exact hentries x (List.mem_of_getElem? hx)

/-- **The check accepts exactly the frames.**  A checkpoint is accepted if it has the supported
version and each of its entries is what `Entry.ofBlob` makes for its blob, the length and the
hexadecimal digest of it.  Otherwise the error is the version, and if the version is supported,
what is wrong with the first entry that is not.  So every checkpoint that is put together by
pushing blobs is accepted, and one in which a blob is replaced by a blob with another digest is
refused for that entry, whatever size it declares. -/
theorem validate_iff_frames (c : Checkpoint) :
    (c.validate.outcome = .ok () ↔ c.version = supportedVersion ∧
      ∀ e ∈ c.entries, e = .ofBlob e.identifier e.blob ∧ e.blob.length < 2 ^ 64) ∧
    (c.validate.outcome = .ok () → ∀ e ∈ c.entries, e.size.toNat = e.blob.length ∧
      e.sha256 = Digest.sha256 e.blob ∧ IsHexDigest e.sha256) ∧
    (∀ error, c.validate.outcome = .error error ↔
      (c.version ≠ supportedVersion ∧ error = .unsupportedVersion c.version supportedVersion) ∨
        (c.version = supportedVersion ∧
          ∃ i e, FirstFault c.entries i e ∧ error = e.defect i)) ∧
    (∀ now total states, (∀ state ∈ states, state.2.length < 2 ^ 64) →
      ((empty now total).pushAll states).validate.outcome = .ok ()) ∧
    (∀ i e blob size, c.validate.outcome = .ok () → c.entries[i]? = some e →
      Digest.sha256 blob ≠ Digest.sha256 e.blob →
        (c.tamper i blob size).validate.outcome =
          .error ({ e with blob, size }.defect i)) := by
  simp only [outcome_validate]
  refine ⟨?_, fun hc e he => ?_, fun error => check_eq_error_iff,
    fun now total states hstates => ?_, fun i e blob size hc he hdigest => ?_⟩
  · rw [check_eq_ok_iff]
    have hframe : ∀ e : Entry, e.IsFrame ↔
        e = .ofBlob e.identifier e.blob ∧ e.blob.length < 2 ^ 64 :=
      fun e => ⟨fun h => ⟨h.eq_ofBlob, h.length_lt⟩, fun h => ⟨h.1, h.2⟩⟩
    simp only [hframe]
  · have hframe : e.IsFrame := (check_eq_ok_iff.1 hc).2 e he
    obtain ⟨hdigest, hsize⟩ := Entry.isFrame_iff.1 hframe
    exact ⟨hsize, hdigest, hdigest ▸ isHexDigest_sha256 e.blob⟩
  · exact check_pushAll hstates rfl
  · have hversion : c.version = supportedVersion := (check_eq_ok_iff.1 hc).1
    exact check_eq_error_iff.2 (Or.inr ⟨hversion, i, _, firstFault_tamper hc he hdigest, rfl⟩)

end Checkpoint
end SharedBudget
