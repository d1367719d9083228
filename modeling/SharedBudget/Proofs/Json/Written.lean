/-
# What the writer writes

The writer's texts are some of those that the grammar allows: its strings spell what
they were written for (`Json.isString_json`), and its lists and objects are lists and
objects of what it was given, without blanks (`Json.isList_list`,
`Json.isRecord_object`).
-/

import SharedBudget.Proofs.Json.Layouts

namespace SharedBudget
namespace Json

/-! ## Strings -/

/-- A character of a written string spells itself. -/
theorem Spells.jsonChar (c : Char) {cs : List Char} {s : Bytes} (h : Spells cs s) :
    Spells (c :: cs) (Utf8.encode (Quoted.jsonChar c) ++ s) := by
  unfold Quoted.jsonChar
  split
  · exact h.letter (l := quote) rfl
  · exact h.letter (l := backslash) rfl
  · exact h.letter (l := lowerN) rfl
  · exact h.letter (l := lowerR) rfl
  · exact h.letter (l := lowerT) rfl
  · rename_i hquote hbackslash _ _ _
    split
    · rename_i hc
      obtain rfl : c = Char.ofNat 0x08 := Char.toNat_inj.1 hc
      exact h.letter (l := lowerB) rfl
    split
    · rename_i hc
      obtain rfl : c = Char.ofNat 0x0C := Char.toNat_inj.1 hc
      exact h.letter (l := lowerF) rfl
    split
    · rename_i hc
      obtain ⟨x, y, z, w, hdigits, hnumber⟩ := exists_hexQuad (n := c.toNat) (by omega)
      obtain ⟨hhigh, hlow⟩ := not_isSurrogate (n := c.toNat) (by omega)
      have hspells := h.number hnumber hhigh hlow
      have hbytes : Utf8.encode ('\\' :: 'u' :: Hex.digits 4 c.toNat) =
          [backslash, lowerU, x, y, z, w] := by
        rw [Utf8.encode_cons_of_lt (by decide), Utf8.encode_cons_of_lt (by decide), hdigits]
        rfl
      rw [hbytes]
      rwa [Char.ofNat_toNat] at hspells
    · rename_i hcontrol
      rw [Utf8.encode_cons, Utf8.encode_nil, List.append_nil]
      exact h.plain hquote hbackslash (by omega)

theorem spells_json (cs : List Char) : Spells cs (Utf8.encode (cs.flatMap Quoted.jsonChar)) := by
  induction cs with
  | nil => exact .nil
  | cons c cs ih =>
    rw [List.flatMap_cons, Utf8.encode_append]
    exact ih.jsonChar c

/-- **A written string spells its text.** -/
theorem isString_json (cs : List Char) : IsString cs (Utf8.encode (Quoted.json cs)) := by
  refine ⟨_, spells_json cs, ?_⟩
  have hquoted := encode_quoted cs []
  rw [List.append_nil] at hquoted
  rw [hquoted, quoted]

theorem isValue_json (cs : List Char) : IsValue (Utf8.encode (Quoted.json cs)) := by
  obtain ⟨content, hcontent, htext⟩ := isString_json cs
  rw [htext]
  exact .string hcontent.isContent

theorem isValue_integer (n : ℤ) : IsValue (Utf8.encode (Writer.integer n)) :=
  Numeral.text_ofInt n ▸ .number _

/-! ## Lists and objects -/

theorem items_others (texts : List (List Char)) :
    Items false (texts.map Utf8.encode) (Utf8.encode (others texts)) := by
  induction texts with
  | nil => exact .nil areBlank_nil
  | cons text texts ih =>
    have h := encode_others_cons text texts []
    rw [List.append_nil, List.append_nil] at h
    rw [h]
    exact @Items.next [] [] _ _ _ areBlank_nil areBlank_nil ih

theorem items_separated (texts : List (List Char)) :
    Items true (texts.map Utf8.encode) (Utf8.encode (Writer.separated texts)) := by
  cases texts with
  | nil => exact .nil areBlank_nil
  | cons text texts =>
    rw [separated_cons, Utf8.encode_append]
    exact @Items.first [] _ _ _ areBlank_nil (items_others texts)

/-- **A written list** is a list of what was written. -/
theorem isList_list (texts : List (List Char)) :
    IsList (texts.map Utf8.encode) (Utf8.encode (Writer.list texts)) := by
  refine ⟨_, items_separated texts, ?_⟩
  rw [Writer.list, Utf8.encode_append, Utf8.encode_cons_of_lt (by decide)]
  rfl

/-- The members of an object as bytes. -/
def memberBytes (members : List (String × List Char)) : List (String × Bytes) :=
  members.map fun (name, value) => (name, Utf8.encode value)

theorem isMember_member (name : String) (value : List Char) :
    IsMember (Spells name.toList) (Utf8.encode value) (Utf8.encode (Writer.member name value)) := by
  have hmember := encode_member name value []
  rw [List.append_nil, List.append_nil] at hmember
  exact ⟨_, [], [], spells_json _, areBlank_nil, areBlank_nil, hmember⟩

/-- A written member is one of the grammar. -/
theorem isMember_isContent (name : String) (value : List Char) :
    IsMember IsContent (Utf8.encode value) (Utf8.encode (Writer.member name value)) := by
  obtain ⟨key, w, w', hkey, hmember⟩ := isMember_member name value
  exact ⟨key, w, w', hkey.isContent, hmember⟩

theorem members_separated (members : List (String × List Char)) :
    Members true (memberBytes members) (Utf8.encode
      (Writer.separated (members.map fun (name, value) => Writer.member name value))) := by
  refine ⟨_, ?_, items_separated _⟩
  rw [memberBytes, List.map_map, List.forall₂_map_left_iff, List.forall₂_map_right_iff,
    List.forall₂_same]
  exact fun m _ => isMember_member m.1 m.2

/-- These texts between braces are an object that has them for its members. -/
theorem isObject_separated (texts : List (List Char)) : IsObject (texts.map Utf8.encode)
    (Utf8.encode ('\x7b' :: Writer.separated texts ++ ['\x7d'])) := by
  refine ⟨_, items_separated texts, ?_⟩
  rw [Utf8.encode_append, Utf8.encode_cons_of_lt (by decide)]
  rfl

/-- **A written object** is a record of what was written. -/
theorem isRecord_object {parts : List Part} {members : List (String × List Char)}
    (h : MadeOf parts (memberBytes members)) :
    IsRecord parts (Utf8.encode (Writer.object members)) := by
  have hobject := IsRecord.object h (members_separated members)
  rw [Writer.object, Utf8.encode_append, Utf8.encode_cons_of_lt (by decide)]
  exact hobject

end Json
end SharedBudget
