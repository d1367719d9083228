/-
# Checkpoints in any layout

A document may give a checkpoint with its fields in any order, with any values under
other names that are strings, and with an untagged entry's identifier left out or `null`;
the checkpoint and its entries may also be lists.  A `Checkpoint.Form` is what such a
document gives, with its numbers in any form: it is read as the checkpoint of which it
gives the fields (`Checkpoint.Form.yields_value?`), if its numbers are words of 64 bits, and
otherwise it is refused.  So whoever wrote a document, it is decoded as the library's own
one is.

A document with a name that spells no string is none of these, and need not be decoded
(`Checkpoint.not_decoded_beside_loneHalf`).
-/

import SharedBudget.Proofs.Checkpoint.Frames
import SharedBudget.Proofs.Json.Written

namespace SharedBudget

namespace Checkpoint

open Json

/-- A counter is read as the word for which a number stands. -/
theorem yields_counter (n : Numeral) : Yields counter n.text n.word? := by
  have hinteger := n.yields_acceptInteger "u64" 0 (2 ^ 64 - 1) (by decide) (by decide)
  have h := (hinteger.map Int.toNat).map UInt64.ofNat
  have hword : ((n.integer?.filter fun z => 0 ≤ z ∧ z ≤ 2 ^ 64 - 1).map Int.toNat).map
      UInt64.ofNat = n.word? := by
    have hrange : (fun z : ℤ => decide (0 ≤ z ∧ z ≤ 2 ^ 64 - 1)) =
        fun z => decide (0 ≤ z ∧ z < 2 ^ 64) := funext fun z => decide_eq_decide.2 (by omega)
    rw [Option.map_map, hrange]
    rfl
  rwa [hword] at h

namespace Entry

/-- What a document gives for an entry: its fields, with the length as a number in any form. -/
structure Form where
  identifier : Option String
  sha256 : String
  size : Numeral
  blob : Bytes

namespace Form

variable (e : Form)

/-- The entry, if the length is a word of 64 bits. -/
def value? : Option Entry := e.size.word?.map fun size => ⟨e.identifier, e.sha256, size, e.blob⟩

/-- The fields of an entry in a document. -/
def parts : List Part := [
  { name := "identifier"
    isText := IsOptionalString e.identifier
    starts := IsOptionalString.starts
    optional := e.identifier = none },
  { name := "sha256"
    isText := IsString e.sha256.toList
    starts := IsString.starts },
  { name := "bytes"
    isText := fun text => text = e.size.text
    starts := fun h => h ▸ e.size.starts },
  { name := "blob"
    isText := IsString (blobText e.blob)
    starts := IsString.starts }]

theorem names_parts : names e.parts = ["identifier", "sha256", "bytes", "blob"] := rfl

/-- The draft after the fields with these names. -/
def fill (seen : List String) : Option Draft := do
  let identifier ← whenSeen "identifier" (some e.identifier) seen
  let sha256 ← whenSeen "sha256" (some e.sha256) seen
  let size ← whenSeen "bytes" e.size.word? seen
  let blob ← whenSeen "blob" (some e.blob) seen
  return { identifier, sha256, size, blob }

variable {e} {seen : List String} {d : Draft}

theorem fill_eq_some_iff : e.fill seen = some d ↔
    whenSeen "identifier" (some e.identifier) seen = some d.identifier ∧
      whenSeen "sha256" (some e.sha256) seen = some d.sha256 ∧
        whenSeen "bytes" e.size.word? seen = some d.size ∧
          whenSeen "blob" (some e.blob) seen = some d.blob := by
  unfold fill
  simp only [bind, Option.bind_eq_some_iff]
  constructor
  · rintro ⟨identifier, hidentifier, sha256, hsha256, size, hsize, blob, hblob, hd⟩
    obtain rfl := Option.some.inj hd
    exact ⟨hidentifier, hsha256, hsize, hblob⟩
  · rintro ⟨hidentifier, hsha256, hsize, hblob⟩
    exact ⟨_, hidentifier, _, hsha256, _, hsize, _, hblob, rfl⟩

/-- A draft that was refused stays refused. -/
theorem fill_lost (name : String) (h : e.fill seen = none) : e.fill (name :: seen) = none := by
  rw [Option.eq_none_iff_forall_ne_some] at h ⊢
  intro d hd
  obtain ⟨h₁, h₂, h₃, h₄⟩ := fill_eq_some_iff.1 hd
  obtain ⟨identifier, h₁⟩ := exists_whenSeen h₁
  obtain ⟨sha256, h₂⟩ := exists_whenSeen h₂
  obtain ⟨size, h₃⟩ := exists_whenSeen h₃
  obtain ⟨blob, h₄⟩ := exists_whenSeen h₄
  exact h ⟨identifier, sha256, size, blob⟩ (fill_eq_some_iff.2 ⟨h₁, h₂, h₃, h₄⟩)

/-- The blob is read back from its text. -/
theorem takes_blobField (e : Form) (depth : ℕ) : blobField.Takes depth e.fill
    { name := "blob", isText := IsString (blobText e.blob), starts := IsString.starts } := by
  refine ⟨rfl, fun seen d hd => ?_⟩
  obtain ⟨h₁, h₂, h₃, h₄⟩ := fill_eq_some_iff.1 hd
  have hfill : e.fill ("blob" :: seen) = some { d with blob := some e.blob } := by
    simp [fill, whenSeen_cons_of_ne, h₁, h₂, h₃]
  refine ⟨isSome_of_whenSeen h₄, fun text htext => ?_⟩
  have hblob : (fun b => { d with blob := some b }) <$>
      blobOfText (String.ofList (blobText e.blob)) = .ok { d with blob := some e.blob } := by
    rw [blobOfText_blobText]
    rfl
  have htext : Yields Json.text text (some (String.ofList (blobText e.blob))) :=
    htext.yields_accepting rfl
  have hread := htext.map fun t => (fun b => { d with blob := some b }) <$> blobOfText t
  rw [hfill, Option.map_some, ← hblob]
  exact hread

theorem takes (e : Form) (depth : ℕ) : Entry.record.Takes depth e.parts e.fill e.value? where
  start := rfl
  fields := by
    refine .cons ?_ (.cons ?_ (.cons ?_ (.cons (takes_blobField e depth) .nil)))
    · refine takes_field rfl (fun seen d hd => isSome_of_whenSeen (fill_eq_some_iff.1 hd).1)
        (fun seen d hd => ?_) fun text htext => IsOptionalString.yields htext
      obtain ⟨-, h₂, h₃, h₄⟩ := fill_eq_some_iff.1 hd
      simp [fill, whenSeen_cons_of_ne, h₂, h₃, h₄]
    · refine takes_field rfl (fun seen d hd => isSome_of_whenSeen (fill_eq_some_iff.1 hd).2.1)
        (fun seen d hd => ?_) fun text htext => IsString.yields_text htext
      obtain ⟨h₁, -, h₃, h₄⟩ := fill_eq_some_iff.1 hd
      simp [fill, whenSeen_cons_of_ne, h₁, h₃, h₄]
    · refine takes_field rfl (fun seen d hd => isSome_of_whenSeen (fill_eq_some_iff.1 hd).2.2.1)
        (fun seen d hd => ?_) fun text htext => htext ▸ yields_counter e.size
      obtain ⟨h₁, h₂, -, h₄⟩ := fill_eq_some_iff.1 hd
      cases hsize : e.size.word? <;> simp [fill, whenSeen_cons_of_ne, h₁, h₂, h₄, hsize]
  ignores name seen hname := by
    simp only [names_parts, List.mem_cons, List.not_mem_nil, or_false, not_or] at hname
    obtain ⟨h₁, h₂, h₃, h₄⟩ := hname
    unfold fill
    rw [whenSeen_cons_of_ne (Ne.symm h₁), whenSeen_cons_of_ne (Ne.symm h₂),
      whenSeen_cons_of_ne (Ne.symm h₃), whenSeen_cons_of_ne (Ne.symm h₄)]
  lost name seen h := fill_lost name h
  finish seen hseen := by
    simp only [parts, List.forall_mem_cons] at hseen
    obtain ⟨h₁, h₂, h₃, h₄, -⟩ := hseen
    -- An identifier that was left out counts as none, and only an untagged entry may do so.
    obtain ⟨identifier, hidentifier, hget⟩ : ∃ x,
        whenSeen "identifier" (some e.identifier) seen = some x ∧ x.getD none = e.identifier := by
      by_cases hmem : "identifier" ∈ seen
      · exact ⟨_, whenSeen_of_mem hmem, rfl⟩
      · exact ⟨none, if_neg hmem, (not_not.1 fun hneed => hmem (h₁ hneed)).symm⟩
    have hfill : e.fill seen =
        e.size.word?.map fun size => ⟨identifier, some e.sha256, some size, some e.blob⟩ := by
      unfold fill
      rw [hidentifier, whenSeen_of_mem (h₂ id), whenSeen_of_mem (h₃ id), whenSeen_of_mem (h₄ id)]
      cases e.size.word? <;> rfl
    rw [hfill, value?, ← hget]
    cases e.size.word? <;> rfl

/-- **An entry is read as its fields say,** in every layout. -/
theorem yields_value? (e : Form) {t : Bytes} (ht : IsRecord e.parts t) (depth : ℕ) :
    Yields (Entry.record.read (depth + 1)) t e.value? := (e.takes depth).yields ht

/-- The fields of an entry in the writer's order. -/
def members (e : Form) : List (String × List Char) :=
  (match e.identifier with
    | some name => [("identifier", Writer.text name)]
    | none => []) ++ [
    ("sha256", Writer.text e.sha256),
    ("bytes", e.size.chars),
    ("blob", Quoted.json (blobText e.blob))]

theorem nodup_names (e : Form) : (names e.parts).Nodup := by
  rw [names_parts]
  decide

theorem madeOf_members (e : Form) : MadeOf e.parts (memberBytes e.members) := by
  have hnames := e.nodup_names
  obtain ⟨_ | identifier, sha256, size, blob⟩ := e
  · exact .skip (.of_forall₂ hnames.of_cons (.cons ⟨rfl, isString_json _⟩ (.cons ⟨rfl, rfl⟩
      (.cons ⟨rfl, isString_json _⟩ .nil)))) rfl (by simp [members, memberBytes])
  · exact .of_forall₂ hnames (.cons ⟨rfl, isString_json _⟩ (.cons ⟨rfl, isString_json _⟩
      (.cons ⟨rfl, rfl⟩ (.cons ⟨rfl, isString_json _⟩ .nil))))

end Form

/-- What a document gives for this very entry. -/
def form (e : Entry) : Form := ⟨e.identifier, e.sha256, .ofInt e.size.toNat, e.blob⟩

theorem value?_form (e : Entry) : e.form.value? = some e := by
  rw [Form.value?, form, Numeral.word?_ofInt]
  rfl

end Entry

/-! ## Checkpoints -/

/-- What a document gives for a checkpoint: its fields, with the number of groups in any form. -/
structure Form where
  version : String
  createdAt : Timestamp
  total : Numeral
  entries : List Entry.Form

namespace Form

variable (c : Form)

/-- The checkpoint, if the numbers are words of 64 bits. -/
def value? : Option Checkpoint := do
  let total ← c.total.word?
  let entries ← c.entries.mapM Entry.Form.value?
  return { version := c.version, createdAt := c.createdAt, total, entries }

/-- A text that is a list of these entries, each in any layout. -/
def AreEntries (entries : List Entry.Form) (text : Bytes) : Prop :=
  ∃ texts, List.Forall₂ (fun e => IsRecord e.parts) entries texts ∧ IsList texts text

theorem AreEntries.starts {entries : List Entry.Form} {text : Bytes} (h : AreEntries entries text) :
    Starts text := by
  obtain ⟨texts, -, hlist⟩ := h
  exact hlist.starts

/-- The fields of a checkpoint in a document. -/
def parts : List Part := [
  { name := "schema_version"
    isText := IsString c.version.toList
    starts := IsString.starts },
  { name := "created_at"
    isText := IsString c.createdAt.chars
    starts := IsString.starts },
  { name := "total_inputs_seen"
    isText := fun text => text = c.total.text
    starts := fun h => h ▸ c.total.starts },
  { name := "nested"
    isText := AreEntries c.entries
    starts := AreEntries.starts }]

theorem names_parts :
    names c.parts = ["schema_version", "created_at", "total_inputs_seen", "nested"] := rfl

/-- The draft after the fields with these names. -/
def fill (seen : List String) : Option Draft := do
  let version ← whenSeen "schema_version" (some c.version) seen
  let createdAt ← whenSeen "created_at" (some c.createdAt) seen
  let total ← whenSeen "total_inputs_seen" c.total.word? seen
  let entries ← whenSeen "nested" (c.entries.mapM Entry.Form.value?) seen
  return { version, createdAt, total, entries }

variable {c} {seen : List String} {d : Draft} {text : Bytes}

theorem fill_eq_some_iff : c.fill seen = some d ↔
    whenSeen "schema_version" (some c.version) seen = some d.version ∧
      whenSeen "created_at" (some c.createdAt) seen = some d.createdAt ∧
        whenSeen "total_inputs_seen" c.total.word? seen = some d.total ∧
          whenSeen "nested" (c.entries.mapM Entry.Form.value?) seen = some d.entries := by
  unfold fill
  simp only [bind, Option.bind_eq_some_iff]
  constructor
  · rintro ⟨version, hversion, createdAt, hcreatedAt, total, htotal, entries, hentries, hd⟩
    obtain rfl := Option.some.inj hd
    exact ⟨hversion, hcreatedAt, htotal, hentries⟩
  · rintro ⟨hversion, hcreatedAt, htotal, hentries⟩
    exact ⟨_, hversion, _, hcreatedAt, _, htotal, _, hentries, rfl⟩

/-- A draft that was refused stays refused. -/
theorem fill_lost (name : String) (h : c.fill seen = none) : c.fill (name :: seen) = none := by
  rw [Option.eq_none_iff_forall_ne_some] at h ⊢
  intro d hd
  obtain ⟨h₁, h₂, h₃, h₄⟩ := fill_eq_some_iff.1 hd
  obtain ⟨version, h₁⟩ := exists_whenSeen h₁
  obtain ⟨createdAt, h₂⟩ := exists_whenSeen h₂
  obtain ⟨total, h₃⟩ := exists_whenSeen h₃
  obtain ⟨entries, h₄⟩ := exists_whenSeen h₄
  exact h ⟨version, createdAt, total, entries⟩ (fill_eq_some_iff.2 ⟨h₁, h₂, h₃, h₄⟩)

/-- The entries are read each as its fields say. -/
theorem AreEntries.yields {entries : List Entry.Form} (h : AreEntries entries text) (depth : ℕ) :
    Yields (listOf Entry.record.read (depth + 2)) text (entries.mapM Entry.Form.value?) := by
  obtain ⟨texts, htexts, hlist⟩ := h
  exact yields_listOf htexts (fun e _ text htext => htext.starts)
    (fun e _ text htext => e.yields_value? htext depth) hlist

theorem takes (c : Form) (depth : ℕ) : record.Takes (depth + 2) c.parts c.fill c.value? where
  start := rfl
  fields := by
    refine .cons ?_ (.cons ?_ (.cons ?_ (.cons ?_ .nil)))
    · refine takes_field rfl (fun seen d hd => isSome_of_whenSeen (fill_eq_some_iff.1 hd).1)
        (fun seen d hd => ?_) fun text htext => IsString.yields_text htext
      obtain ⟨-, h₂, h₃, h₄⟩ := fill_eq_some_iff.1 hd
      simp [fill, whenSeen_cons_of_ne, h₂, h₃, h₄]
    · refine takes_field (x := some c.createdAt) rfl
        (fun seen d hd => isSome_of_whenSeen (fill_eq_some_iff.1 hd).2.1)
        (fun seen d hd => ?_) fun text htext => ?_
      · obtain ⟨h₁, -, h₃, h₄⟩ := fill_eq_some_iff.1 hd
        simp [fill, whenSeen_cons_of_ne, h₁, h₃, h₄]
      · exact IsString.yields_accepting htext (acceptTimestamp_chars c.createdAt)
    · refine takes_field rfl (fun seen d hd => isSome_of_whenSeen (fill_eq_some_iff.1 hd).2.2.1)
        (fun seen d hd => ?_) fun text htext => htext ▸ yields_counter c.total
      obtain ⟨h₁, h₂, -, h₄⟩ := fill_eq_some_iff.1 hd
      cases htotal : c.total.word? <;> simp [fill, whenSeen_cons_of_ne, h₁, h₂, h₄, htotal]
    · refine takes_field rfl (fun seen d hd => isSome_of_whenSeen (fill_eq_some_iff.1 hd).2.2.2)
        (fun seen d hd => ?_) fun text htext => AreEntries.yields htext depth
      obtain ⟨h₁, h₂, h₃, -⟩ := fill_eq_some_iff.1 hd
      cases hentries : c.entries.mapM Entry.Form.value? <;>
        simp [fill, whenSeen_cons_of_ne, h₁, h₂, h₃, hentries]
  ignores name seen hname := by
    simp only [names_parts, List.mem_cons, List.not_mem_nil, or_false, not_or] at hname
    obtain ⟨h₁, h₂, h₃, h₄⟩ := hname
    unfold fill
    rw [whenSeen_cons_of_ne (Ne.symm h₁), whenSeen_cons_of_ne (Ne.symm h₂),
      whenSeen_cons_of_ne (Ne.symm h₃), whenSeen_cons_of_ne (Ne.symm h₄)]
  lost name seen h := fill_lost name h
  finish seen hseen := by
    simp only [parts, List.forall_mem_cons] at hseen
    obtain ⟨h₁, h₂, h₃, h₄, -⟩ := hseen
    unfold fill value?
    rw [whenSeen_of_mem (h₁ id), whenSeen_of_mem (h₂ id), whenSeen_of_mem (h₃ id),
      whenSeen_of_mem (h₄ id)]
    cases c.total.word? with
    | none => rfl
    | some total => cases c.entries.mapM Entry.Form.value? <;> rfl

/-- **A checkpoint is read as its fields say,** in every layout. -/
theorem yields_value? (c : Form) (ht : IsRecord c.parts text) (depth : ℕ) :
    Yields (record.read (depth + 3)) text c.value? := (c.takes depth).yields ht

/-- A document that gives these fields, in any layout, and whose other names spell strings. -/
def IsLayout (c : Form) (document : Bytes) : Prop := Padded (IsRecord c.parts) document

/-- **A document is the checkpoint of which it gives the fields,** and none if a number is no word
of 64 bits. -/
theorem IsLayout.ofJson_iff {document : Bytes} (h : c.IsLayout document) (x : Checkpoint) :
    ofJson document = .ok x ↔ c.value? = some x := by
  obtain ⟨w, t, w', hw, ht, hw', rfl⟩ := h
  exact (c.yields_value? ht 124).document_iff hw hw' x

/-- The fields of a checkpoint in the writer's order. -/
def members (c : Form) : List (String × List Char) := [
  ("schema_version", Writer.text c.version),
  ("created_at", Quoted.json c.createdAt.chars),
  ("total_inputs_seen", c.total.chars),
  ("nested", Writer.list (c.entries.map fun e => Writer.object e.members))]

/-- The document in the writer's layout. -/
def encode (c : Form) : Bytes := Utf8.encode (Writer.object c.members)

theorem areEntries_list (entries : List Entry.Form) : AreEntries entries
    (Utf8.encode (Writer.list (entries.map fun e => Writer.object e.members))) := by
  refine ⟨_, ?_, isList_list _⟩
  rw [List.map_map, List.forall₂_map_right_iff, List.forall₂_same]
  exact fun e _ => isRecord_object e.madeOf_members

theorem nodup_names (c : Form) : (names c.parts).Nodup := by
  rw [names_parts]
  decide

theorem madeOf_members (c : Form) : MadeOf c.parts (memberBytes c.members) :=
  .of_forall₂ c.nodup_names (.cons ⟨rfl, isString_json _⟩ (.cons ⟨rfl, isString_json _⟩
    (.cons ⟨rfl, rfl⟩ (.cons ⟨rfl, areEntries_list c.entries⟩ .nil))))

/-- **Whatever fields there are, there is a document that gives them.** -/
theorem isLayout_encode (c : Form) : c.IsLayout c.encode :=
  ⟨[], _, [], areBlank_nil, isRecord_object c.madeOf_members, areBlank_nil,
    (List.append_nil _).symm⟩

end Form

/-- What a document gives for this very checkpoint. -/
def form (c : Checkpoint) : Form :=
  ⟨c.version, c.createdAt, .ofInt c.total.toNat, c.entries.map Entry.form⟩

theorem value?_form (c : Checkpoint) : c.form.value? = some c := by
  have hentries : (c.entries.map Entry.form).mapM Entry.Form.value? = some c.entries := by
    rw [mapM_eq_some_iff, List.forall₂_map_left_iff, List.forall₂_same]
    exact fun e _ => e.value?_form
  unfold Form.value? form
  simp [Numeral.word?_ofInt, hentries]

/-- The document that the library writes is in one of the layouts. -/
theorem encode_form (c : Checkpoint) : c.form.encode = c.encode := by
  have hentry (e : Entry) : Writer.object e.form.members = e.json := by
    obtain ⟨_ | identifier, sha256, size, blob⟩ := e
    · simp [Entry.form, Entry.Form.members, Entry.json, Numeral.chars_ofInt_natCast]
    · simp [Entry.form, Entry.Form.members, Entry.json, Numeral.chars_ofInt_natCast]
  have hentries : (c.entries.map Entry.form).map (fun e => Writer.object e.members) =
      c.entries.map Entry.json := by
    rw [List.map_map]
    exact List.map_congr_left fun e _ => hentry e
  simp only [Form.encode, Form.members, form, encode, json, Numeral.chars_ofInt_natCast, hentries]

/-- **Decoding depends only on what the fields hold.**  Every document that gives a checkpoint,
with its fields and those of its entries in any order, any values under other names that spell
strings and blanks anywhere, the identifier of an untagged entry left out or `null`, or the
checkpoint or its entries as lists, is read with the same result as the library's own document of
it. -/
theorem ofBytes_of_isLayout {c : Checkpoint} {document : Bytes} (h : c.form.IsLayout document) :
    ofBytes document = ofBytes c.toBytes.value := by
  have hread : ofJson document = .ok c := (h.ofJson_iff c).2 c.value?_form
  have hdecode : decode document = decode c.encode := by
    unfold decode
    rw [hread, ofJson_encode]
  rw [value_toBytes, ofBytes, hdecode]
  rfl

/-- A checkpoint with one untagged entry, in a document that gives the entries first, as lists, and
has a member that is no field. -/
theorem ofBytes_of_isLayout_untagged :
    let c := (empty .epoch 7).push none [1, 2, 3]
    let entry := Writer.list [Writer.null, Writer.text (Digest.sha256 [1, 2, 3]),
      Writer.integer 3, Quoted.json (blobText [1, 2, 3])]
    let members := [("nested", Writer.list [entry]), ("note", Writer.list [Writer.null]),
      ("schema_version", Writer.text "1.0.0"), ("created_at", Quoted.json Timestamp.epoch.chars),
      ("total_inputs_seen", Writer.integer 7)]
    let document := Utf8.encode (Writer.object members) ++ [0x0A]
    c.form.IsLayout document ∧ (ofBytes document).outcome = .ok c := by
  intro c entry members document
  have hitems : IsList [lowerN :: nullTail, Utf8.encode (Writer.text (Digest.sha256 [1, 2, 3])),
      Utf8.encode (Writer.integer 3), Utf8.encode (Quoted.json (blobText [1, 2, 3]))]
      (Utf8.encode entry) := isList_list [Writer.null, _, _, _]
  have hentry : IsRecord (Entry.ofBlob none [1, 2, 3]).form.parts (Utf8.encode entry) :=
    .list (.cons rfl (.cons (isString_json _) (.cons (Numeral.text_ofInt 3).symm
      (.cons (isString_json _) .nil)))) hitems
  have hentries : Form.AreEntries c.form.entries (Utf8.encode (Writer.list [entry])) :=
    ⟨_, .cons hentry .nil, isList_list [entry]⟩
  have hnote : IsValue (Utf8.encode (Writer.list [Writer.null])) :=
    .list (isList_list [Writer.null]) (List.forall_mem_singleton.2 .null)
  have hfields : MadeOf c.form.parts (memberBytes [("schema_version", Writer.text "1.0.0"),
      ("created_at", Quoted.json Timestamp.epoch.chars),
      ("total_inputs_seen", Writer.integer 7), ("nested", Writer.list [entry])]) :=
    .of_forall₂ c.form.nodup_names (.cons ⟨rfl, isString_json _⟩ (.cons ⟨rfl, isString_json _⟩
      (.cons ⟨rfl, (Numeral.text_ofInt 7).symm⟩ (.cons ⟨rfl, hentries⟩ .nil))))
  have hname : "note" ∉ names c.form.parts := by
    rw [Form.names_parts]
    decide
  have hmade : MadeOf c.form.parts (memberBytes members) :=
    (hfields.other hname hnote).perm (@List.perm_append_comm _ [_, _, _, _] [_])
  have hlayout : c.form.IsLayout document :=
    ⟨[], _, [0x0A], areBlank_nil, isRecord_object hmade, List.forall_mem_singleton.2 rfl, rfl⟩
  have hcheck : c.check = .ok () := by
    have hpush : ((empty .epoch 7).pushAll [(none, [1, 2, 3])]).check = .ok () :=
      check_pushAll (by simp) rfl
    exact hpush
  refine ⟨hlayout, ?_⟩
  rw [ofBytes_of_isLayout hlayout, value_toBytes, outcome_ofBytes]
  exact decode_encode hcheck

/-- A name that spells no string is not passed over.  The object has the very members that the
library writes for a checkpoint and one more in front, whose name is a content that spells no
characters; the library's document is decoded, and the object is refused. -/
theorem not_decoded_beside_loneHalf :
    let c := empty .epoch 7
    let other := "\"\\ud800\":0".toList
    let members := other :: c.form.members.map fun (name, value) => Writer.member name value
    let object := Utf8.encode ('\x7b' :: Writer.separated members ++ ['\x7d'])
    IsValue object ∧ IsObject (members.map Utf8.encode) object ∧
      IsMember (· = loneHalf) (Utf8.encode (Writer.integer 0)) (Utf8.encode other) ∧
      IsContent loneHalf ∧ (∀ cs, ¬Spells cs loneHalf) ∧
      (ofBytes c.toBytes.value).outcome = .ok c ∧ (ofBytes object).outcome.toOption = none := by
  intro c other members object
  have hother : IsMember (· = loneHalf) (Utf8.encode (Writer.integer 0)) (Utf8.encode other) :=
    ⟨_, [], [], rfl, areBlank_nil, areBlank_nil, rfl⟩
  have hobject : IsObject (members.map Utf8.encode) object := isObject_separated members
  have hnested : IsValue (Utf8.encode (Writer.list [])) := .list (isList_list []) nofun
  have hvalue : IsValue object := by
    refine .object hobject (.cons ⟨_, [], [], isContent_loneHalf, areBlank_nil, areBlank_nil, rfl⟩
      (.cons (isMember_isContent _ _) (.cons (isMember_isContent _ _)
        (.cons (isMember_isContent _ _) (.cons (isMember_isContent _ _) .nil))))) ?_
    simp only [List.forall_mem_cons]
    exact ⟨isValue_integer 0, isValue_json _, isValue_json Timestamp.epoch.chars,
      .number c.form.total, hnested, nofun⟩
  have hcheck : c.check = .ok () := rfl
  have hdecode : (ofBytes c.toBytes.value).outcome = .ok c := by
    rw [value_toBytes, outcome_ofBytes]
    exact decode_encode hcheck
  exact ⟨hvalue, hobject, hother, isContent_loneHalf, not_spells_loneHalf, hdecode,
    by decide +kernel⟩

end Checkpoint
end SharedBudget
