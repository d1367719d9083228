/-
# Records, lists and documents read back

A record is read member by member.  `Json.Record.Fills` says that members fill a
draft one after the other, each being read by its own field; then an object with
these members is read as the record of the full draft (`Json.Record.Fills.reads`).
If one of them is refused instead, so is the object (`Json.Record.Spoils.refuses`).
A list is read item by item (`Json.readsAs_listOf`), and a document is what its
text is read as (`Json.ReadsAs.document_iff`).
-/

import SharedBudget.Proofs.Json.Scalars
import Mathlib.Data.List.Forall2

namespace SharedBudget
namespace Json

variable {α δ : Type}

/-! ## What is between values -/

/-- Values after the first one, each behind its comma. -/
def others (texts : List (List Char)) : List Char := texts.flatMap fun text => ',' :: text

theorem others_cons (text : List Char) (texts : List (List Char)) :
    others (text :: texts) = ',' :: (text ++ others texts) := by
  rw [others, List.flatMap_cons, List.cons_append]
  rfl

theorem separated_cons (text : List Char) (texts : List (List Char)) :
    Writer.separated (text :: texts) = text ++ others texts := by
  induction texts generalizing text with
  | nil => simp [Writer.separated, others]
  | cons text' texts ih =>
    rw [Writer.separated, ih, others_cons]
    exact nofun

theorem encode_others_cons (text : List Char) (texts : List (List Char)) (s : Bytes) :
    Utf8.encode (others (text :: texts)) ++ s =
      comma :: (Utf8.encode text ++ (Utf8.encode (others texts) ++ s)) := by
  rw [others_cons, Utf8.encode_cons_of_lt (by decide), Utf8.encode_append, List.cons_append,
    List.append_assoc]
  rfl

/-- The values that are left, and then something that may follow a value, may follow a value. -/
theorem closes_others (texts : List (List Char)) {s : Bytes} (hs : Closes s) :
    Closes (Utf8.encode (others texts) ++ s) := by
  cases texts with
  | nil => exact hs
  | cons text texts =>
    rw [encode_others_cons]
    exact closes_comma _

/-- Every value takes at least one byte, and its comma another one. -/
theorem length_le_others (texts : List (List Char)) :
    texts.length ≤ (Utf8.encode (others texts)).length := by
  induction texts with
  | nil => exact Nat.zero_le _
  | cons text texts ih =>
    have h := congrArg List.length (encode_others_cons text texts [])
    rw [List.append_nil, List.append_nil, List.length_cons, List.length_append] at h
    rw [List.length_cons]
    omega

/-! ## Records -/

/-- A member with its name and its value, as the writer puts them together. -/
def memberTexts (members : List (String × List Char)) : List (List Char) :=
  members.map fun (name, value) => Writer.member name value

theorem encode_member (name : String) (value : List Char) (s : Bytes) :
    Utf8.encode (Writer.member name value) ++ s =
      quote :: (Utf8.encode (name.toList.flatMap Quoted.jsonChar) ++
        quote :: colon :: (Utf8.encode value ++ s)) := by
  rw [Writer.member, Writer.text, Utf8.encode_append, List.append_assoc,
    Utf8.encode_cons_of_lt (by decide), encode_quoted]
  rfl

theorem anotherMember_first (name : String) (value : List Char) (s : Bytes) :
    anotherMember true (Utf8.encode (Writer.member name value) ++ s) =
      .ok (true, Utf8.encode (Writer.member name value) ++ s) := by
  rw [encode_member]
  rfl

theorem anotherMember_next (name : String) (value : List Char) (s : Bytes) :
    anotherMember false (comma :: (Utf8.encode (Writer.member name value) ++ s)) =
      .ok (true, Utf8.encode (Writer.member name value) ++ s) := by
  rw [encode_member]
  rfl

/-- The name of a member is read up to the colon. -/
theorem memberName_member (name : String) (value : List Char) (s : Bytes) :
    memberName (Utf8.encode (Writer.member name value) ++ s) =
      .ok (name, colon :: (Utf8.encode value ++ s)) := by
  rw [encode_member, memberName, List.tail_cons, string_quoted, String.ofList_toList]

theorem separator_colon (s : Bytes) : separator (colon :: s) = .ok ((), s) := rfl

/-- Members fill a draft one after the other: every name is that of a field which the draft does
not have yet, and the field reads the value into the draft. -/
inductive Record.Fills (r : Record δ α) (depth : ℕ) : δ → List (String × List Char) → δ → Prop where
  | nil (d : δ) : r.Fills depth d [] d
  | cons {d d' d'' : δ} {f : Field δ} {name : String} {value : List Char}
      {members : List (String × List Char)} :
      r.fields.find? (·.name = name) = some f → f.present d = false →
        Reads (f.read depth d) value (.ok d') → r.Fills depth d' members d'' →
          r.Fills depth d ((name, value) :: members) d''

section Members

variable {r : Record δ α} {depth fuel : ℕ} {d d' : δ} {f : Field δ} {name : String}
  {value : List Char} {s : Bytes}

/-- A member that follows is read up to its value. -/
theorem readMembers_member (hf : r.fields.find? (·.name = name) = some f)
    (hpresent : f.present d = false) {first : Bool} {t : Bytes}
    (ht : anotherMember first t =
      .ok (true, Utf8.encode (Writer.member name value) ++ s)) :
    r.readMembers depth (fuel + 1) first d t =
      f.read depth d (Utf8.encode value ++ s) >>= fun
        | (.ok d, s) => r.readMembers depth fuel false d s
        | (.error cause, s) => .ok (.error cause, s) := by
  rw [Record.readMembers, bind_reader ht, if_pos rfl, bind_reader (memberName_member ..)]
  simp only [hf, hpresent, Bool.false_eq_true, if_false]
  rw [bind_reader (separator_colon _)]
  change f.read depth d (Utf8.encode value ++ s) >>= _ = _
  congr 1
  funext ⟨x, s⟩
  cases x <;> rfl

/-- A member that follows is read into the draft. -/
theorem readMembers_reads (hf : r.fields.find? (·.name = name) = some f)
    (hpresent : f.present d = false) (hread : Reads (f.read depth d) value (.ok d'))
    (hs : Closes s) {first : Bool} {t : Bytes}
    (ht : anotherMember first t =
      .ok (true, Utf8.encode (Writer.member name value) ++ s)) :
    r.readMembers depth (fuel + 1) first d t = r.readMembers depth fuel false d' s := by
  rw [readMembers_member hf hpresent ht, hread s hs, ok_bind]

/-- The members after the first one are read, up to the closing brace. -/
theorem Record.Fills.readMembers_others {members : List (String × List Char)}
    (h : r.Fills depth d members d') (rest : Bytes) (hfuel : members.length < fuel) :
    r.readMembers depth fuel false d
        (Utf8.encode (others (memberTexts members)) ++ closeObject :: rest) =
      .ok (.ok d', closeObject :: rest) := by
  induction h generalizing fuel with
  | nil d =>
    cases fuel with
    | zero => cases hfuel
    | succ fuel => rfl
  | @cons d d' d'' f name value members hf hpresent hread _ ih =>
    cases fuel with
    | zero => cases hfuel
    | succ fuel =>
      have hnext := anotherMember_next name value
        (Utf8.encode (others (memberTexts members)) ++ closeObject :: rest)
      rw [← encode_others_cons] at hnext
      exact (readMembers_reads hf hpresent hread (closes_others _ (closes_closeObject rest))
        hnext).trans (ih (Nat.lt_of_succ_lt_succ hfuel))

/-- An object and what is inside it. -/
theorem encode_object_cons (name : String) (value : List Char)
    (members : List (String × List Char)) (rest : Bytes) :
    Utf8.encode (Writer.object ((name, value) :: members)) ++ rest =
      openObject :: (Utf8.encode (Writer.member name value) ++
        (Utf8.encode (others (memberTexts members)) ++ closeObject :: rest)) := by
  rw [Writer.object, List.map_cons, separated_cons, Utf8.encode_append, List.append_assoc,
    Utf8.encode_cons_of_lt (by decide), Utf8.encode_append, List.cons_append, List.append_assoc]
  rfl

/-- A record is looked for in the object that begins here. -/
theorem read_object (r : Record δ α) (depth : ℕ) (s : Bytes) :
    r.read (depth + 1) (openObject :: s) =
      closingObject ((·.bind r.finish) <$> r.readMembers depth (s.length + 1) true r.draft) s := rfl

section ClosingObject

variable {β : Type} {members members' : Reader (Except Cause β)} {s' rest : Bytes}

/-- An object is what its members are read as, up to the closing brace. -/
theorem closingObject_of_ok {x : β} (h : members s = .ok (.ok x, closeObject :: rest)) :
    closingObject members s = .ok (x, rest) := by
  unfold closingObject
  rw [h]
  rfl

theorem closingObject_of_error {fault : Fault} (h : members s = .error fault) :
    closingObject members s = .error fault := by
  unfold closingObject
  rw [h, error_bind]

/-- An object is what its members come to, up to the closing brace. -/
theorem Gives.closingObject {value : Option (Except Cause β)}
    (h : Gives (members s) (closeObject :: rest) value) :
    Gives (closingObject members s) rest (value.bind Except.toOption) := by
  rcases value with _ | (cause | x)
  · obtain ⟨fault, hfault⟩ := h
    exact ⟨fault, closingObject_of_error hfault⟩
  · unfold Json.closingObject
    rw [show members s = _ from h]
    exact ⟨_, rfl⟩
  · exact closingObject_of_ok h

/-- What an object comes to is a matter of what its members come to. -/
theorem closingObject_congr (h : members s = members' s') :
    closingObject members s = closingObject members' s' := by
  rw [closingObject, h]
  rfl

end ClosingObject

/-- **An object whose first member is read** comes to what the other members come to.  There is
fuel for all of them. -/
theorem read_object_cons (hf : r.fields.find? (·.name = name) = some f)
    (hpresent : f.present r.draft = false) (hread : Reads (f.read depth r.draft) value (.ok d))
    (members : List (String × List Char)) (rest : Bytes) :
    ∃ fuel > members.length,
      r.read (depth + 1) (Utf8.encode (Writer.object ((name, value) :: members)) ++ rest) =
        closingObject ((·.bind r.finish) <$> r.readMembers depth fuel false d)
          (Utf8.encode (others (memberTexts members)) ++ closeObject :: rest) := by
  have hnext := anotherMember_first name value
    (Utf8.encode (others (memberTexts members)) ++ closeObject :: rest)
  rw [encode_object_cons, read_object]
  generalize hs : Utf8.encode (Writer.member name value) ++
    (Utf8.encode (others (memberTexts members)) ++ closeObject :: rest) = s
  nth_rewrite 1 [hs] at hnext
  refine ⟨s.length, ?_, closingObject_congr ?_⟩
  · have hlength := length_le_others (memberTexts members)
    rw [memberTexts, List.length_map, ← memberTexts] at hlength
    rw [← hs, List.length_append, List.length_append, List.length_cons]
    omega
  · rw [map_reader, map_reader, readMembers_reads hf hpresent hread
      (closes_others _ (closes_closeObject rest)) hnext]

/-- **A record is read back** if its members fill a draft that has all it needs. -/
theorem Record.Fills.reads {members : List (String × List Char)}
    (h : r.Fills depth r.draft members d) (hne : members ≠ []) {x : α}
    (hfinish : r.finish d = .ok x) : Reads (r.read (depth + 1)) (Writer.object members) x := by
  intro rest _
  cases h with
  | nil => exact absurd rfl hne
  | @cons _ d' _ f name value members hf hpresent hread hmore =>
    obtain ⟨fuel, hfuel, hobject⟩ := read_object_cons hf hpresent hread members rest
    have hdraft : ((·.bind r.finish) <$> r.readMembers depth fuel false d')
        (Utf8.encode (others (memberTexts members)) ++ closeObject :: rest) =
          .ok (.ok x, closeObject :: rest) := by
      rw [map_reader, hmore.readMembers_others rest hfuel, ← hfinish]
      rfl
    rw [hobject]
    exact closingObject_of_ok hdraft

/-- **A record is refused** if its first member is. -/
theorem refuses_object (hf : r.fields.find? (·.name = name) = some f)
    (hpresent : f.present r.draft = false) (hread : Refuses (f.read depth r.draft) value)
    (members : List (String × List Char)) :
    Refuses (r.read (depth + 1)) (Writer.object ((name, value) :: members)) := by
  intro rest _
  rw [encode_object_cons, read_object]
  obtain ⟨fault, hfault⟩ := hread _ (closes_others (memberTexts members) (closes_closeObject rest))
  refine ⟨fault, closingObject_of_error ?_⟩
  rw [map_reader, readMembers_member hf hpresent (anotherMember_first name value _), hfault]
  rfl

/-- One of the members is refused, and those before it are read. -/
inductive Record.Spoils (r : Record δ α) (depth : ℕ) : δ → List (String × List Char) → Prop where
  | here {d : δ} {f : Field δ} {name : String} {value : List Char}
      {members : List (String × List Char)} :
      r.fields.find? (·.name = name) = some f → f.present d = false →
        Refuses (f.read depth d) value → r.Spoils depth d ((name, value) :: members)
  | later {d d' : δ} {f : Field δ} {name : String} {value : List Char}
      {members : List (String × List Char)} :
      r.fields.find? (·.name = name) = some f → f.present d = false →
        Reads (f.read depth d) value (.ok d') → r.Spoils depth d' members →
          r.Spoils depth d ((name, value) :: members)

/-- What is refused behind the first member is refused, too. -/
theorem Record.Spoils.readMembers_others {members : List (String × List Char)}
    (h : r.Spoils depth d members) (rest : Bytes) (hfuel : members.length < fuel) :
    ∃ fault, r.readMembers depth fuel false d
      (Utf8.encode (others (memberTexts members)) ++ closeObject :: rest) = .error fault := by
  induction h generalizing fuel with
  | @here d f name value members hf hpresent hread =>
    cases fuel with
    | zero => cases hfuel
    | succ fuel =>
      have hnext := anotherMember_next name value
        (Utf8.encode (others (memberTexts members)) ++ closeObject :: rest)
      rw [← encode_others_cons] at hnext
      obtain ⟨fault, hfault⟩ := hread _ (closes_others (memberTexts members)
        (closes_closeObject rest))
      exact ⟨fault, (readMembers_member hf hpresent hnext).trans (by rw [hfault, error_bind])⟩
  | @later d d' f name value members hf hpresent hread _ ih =>
    cases fuel with
    | zero => cases hfuel
    | succ fuel =>
      have hnext := anotherMember_next name value
        (Utf8.encode (others (memberTexts members)) ++ closeObject :: rest)
      rw [← encode_others_cons] at hnext
      obtain ⟨fault, hfault⟩ := ih (Nat.lt_of_succ_lt_succ hfuel)
      exact ⟨fault, (readMembers_reads hf hpresent hread (closes_others _
        (closes_closeObject rest)) hnext).trans hfault⟩

/-- **A record is refused** if one of its members is. -/
theorem Record.Spoils.refuses {members : List (String × List Char)}
    (h : r.Spoils depth r.draft members) :
    Refuses (r.read (depth + 1)) (Writer.object members) := by
  cases h with
  | here hf hpresent hread => exact refuses_object hf hpresent hread _
  | @later _ d' f name value members hf hpresent hread hmore =>
    intro rest _
    obtain ⟨fuel, hfuel, hobject⟩ := read_object_cons hf hpresent hread members rest
    obtain ⟨fault, hfault⟩ := hmore.readMembers_others rest hfuel
    rw [hobject]
    refine ⟨fault, closingObject_of_error ?_⟩
    rw [map_reader, hfault]
    rfl

end Members

/-! ## Fields -/

/-- A field whose every value is accepted reads what its reader reads. -/
theorem reads_field {β : Type} {name : String} {get : δ → Option β} {set : δ → β → δ}
    {read : ℕ → Reader β} {optional : Bool} {depth : ℕ} {text : List Char} {x : β} (d : δ)
    (h : Reads (read depth) text x) :
    Reads ((field name get set read optional).read depth d) text (.ok (set d x)) := by
  intro rest hrest
  change (read depth >>= fun x => (pure (.ok (set d x)) : Reader (Except Cause δ))) _ = _
  rw [bind_reader (h rest hrest)]
  rfl

theorem refuses_field {β : Type} {name : String} {get : δ → Option β} {set : δ → β → δ}
    {read : ℕ → Reader β} {optional : Bool} {depth : ℕ} {text : List Char} (d : δ)
    (h : Refuses (read depth) text) :
    Refuses ((field name get set read optional).read depth d) text := by
  intro rest hrest
  obtain ⟨fault, hfault⟩ := h rest hrest
  refine ⟨fault, ?_⟩
  change (read depth >>= fun x => (pure (.ok (set d x)) : Reader (Except Cause δ))) _ = _
  rw [bind_reader_error hfault]

/-! ## Lists -/

/-- A value begins with a byte that is neither a blank nor the end of a list. -/
def Begins (text : List Char) : Prop :=
  ∃ b s, Utf8.encode text = b :: s ∧ isBlank b = false ∧ b ≠ closeList

theorem begins_object (members : List (String × List Char)) : Begins (Writer.object members) :=
  ⟨openObject, _, Utf8.encode_cons_of_lt (by decide) _, by decide, by decide⟩

theorem begins_text (t : String) : Begins (Writer.text t) :=
  ⟨quote, _, Utf8.encode_cons_of_lt (by decide) _, by decide, by decide⟩

section Items

variable {text : List Char} {s : Bytes}

theorem Begins.anotherItem_first (h : Begins text) :
    anotherItem true (Utf8.encode text ++ s) = .ok (true, Utf8.encode text ++ s) := by
  obtain ⟨b, front, htext, hblank, hne⟩ := h
  rw [htext, List.cons_append, anotherItem, skipBlanks_cons hblank]
  simp only [if_neg hne, if_true]

theorem Begins.anotherItem_next (h : Begins text) :
    anotherItem false (comma :: (Utf8.encode text ++ s)) = .ok (true, Utf8.encode text ++ s) := by
  obtain ⟨b, front, htext, hblank, hne⟩ := h
  have hcomma : (comma = closeList) = False := eq_false (by decide)
  rw [htext, List.cons_append, anotherItem, skipBlanks_cons rfl]
  simp only [hcomma, Bool.false_eq_true, if_false, if_true, skipBlanks_cons hblank, if_neg hne]

/-- An item that follows is read in front of the others, if it and they are read. -/
theorem gives_items_succ {item : Reader α} {value : Option α} {values : Option (List α)}
    (hitem : ReadsAs item text value) (hs : Closes s) {first : Bool} {t : Bytes}
    (ht : anotherItem first t = .ok (true, Utf8.encode text ++ s)) {fuel : ℕ} {rest : Bytes}
    (hmore : Gives (items item fuel false s) rest values) :
    Gives (items item (fuel + 1) first t) rest
      (value.bind fun x => values.map fun xs => x :: xs) := by
  rw [items, bind_reader ht, if_pos rfl]
  refine (hitem s hs).bind fun x _ => ?_
  exact hmore.map fun xs => x :: xs

variable {β : Type} {item : Reader α} {write : β → List Char} {back : β → Option α} {bs : List β}

theorem mapM_cons_option (b : β) (bs : List β) :
    (b :: bs).mapM back = (back b).bind fun x => (bs.mapM back).map fun xs => x :: xs := by
  rw [List.mapM_cons]
  cases back b with
  | none => rfl
  | some x => cases bs.mapM back <;> rfl

/-- Values come back together if each of them does. -/
theorem mapM_eq_some_iff {xs : List α} :
    bs.mapM back = some xs ↔ List.Forall₂ (fun b x => back b = some x) bs xs := by
  induction bs generalizing xs with
  | nil => simp [eq_comm]
  | cons b bs ih =>
    rw [List.forall₂_cons_left_iff, mapM_cons_option]
    simp only [Option.bind_eq_some_iff, Option.map_eq_some_iff, ih]
    constructor
    · rintro ⟨x, hx, xs, hxs, rfl⟩
      exact ⟨x, xs, hx, hxs, rfl⟩
    · rintro ⟨x, xs, hx, hxs, rfl⟩
      exact ⟨x, hx, xs, hxs, rfl⟩

theorem isSome_mapM_iff : (bs.mapM back).isSome ↔ ∀ b ∈ bs, (back b).isSome := by
  induction bs with
  | nil => simp
  | cons b bs ih =>
    rw [mapM_cons_option, List.forall_mem_cons, ← ih]
    cases back b <;> simp

/-- Values come back as themselves exactly if each of them does. -/
theorem mapM_eq_self_iff {back : α → Option α} {xs : List α} :
    xs.mapM back = some xs ↔ ∀ x ∈ xs, back x = some x := by
  rw [mapM_eq_some_iff, List.forall₂_same]

/-- The items after the first one, up to the closing bracket. -/
theorem gives_items (h : ∀ b ∈ bs, ReadsAs item (write b) (back b))
    (hbegins : ∀ b ∈ bs, Begins (write b)) (rest : Bytes) {fuel : ℕ} (hfuel : bs.length < fuel) :
    Gives (items item fuel false (Utf8.encode (others (bs.map write)) ++ closeList :: rest))
      (closeList :: rest) (bs.mapM back) := by
  induction bs generalizing fuel with
  | nil =>
    cases fuel with
    | zero => cases hfuel
    | succ fuel => exact rfl
  | cons b bs ih =>
    cases fuel with
    | zero => cases hfuel
    | succ fuel =>
      obtain ⟨hb, hbs⟩ := List.forall_mem_cons.1 h
      obtain ⟨hfirst, hmore⟩ := List.forall_mem_cons.1 hbegins
      rw [List.map_cons, encode_others_cons, mapM_cons_option]
      exact gives_items_succ hb (closes_others _ (closes_closeList rest)) hfirst.anotherItem_next
        (ih hbs hmore (Nat.lt_of_succ_lt_succ hfuel))

/-- **A list is read as what its items are read as,** and refused if one of them is. -/
theorem readsAs_listOf {item : ℕ → Reader α} {depth : ℕ}
    (h : ∀ b ∈ bs, ReadsAs (item depth) (write b) (back b))
    (hbegins : ∀ b ∈ bs, Begins (write b)) :
    ReadsAs (listOf item (depth + 1)) (Writer.list (bs.map write)) (bs.mapM back) := by
  intro rest _
  have hlist (s : Bytes) : listOf item (depth + 1) (openList :: s) =
      (items (item depth) (s.length + 1) true >>= fun xs => endList >>= fun _ => pure xs) s := rfl
  have hend {s : Bytes} {values : Option (List α)}
      (hitems : Gives (items (item depth) (s.length + 1) true s) (closeList :: rest) values) :
      Gives (listOf item (depth + 1) (openList :: s)) rest values := by
    rw [hlist, ← Option.bind_fun_some (x := values)]
    exact hitems.bind fun xs _ => rfl
  rw [Writer.list, Utf8.encode_append, List.append_assoc, Utf8.encode_cons_of_lt (by decide),
    List.cons_append]
  refine hend ?_
  cases bs with
  | nil => exact rfl
  | cons b bs =>
    obtain ⟨hb, hbs⟩ := List.forall_mem_cons.1 h
    obtain ⟨hfirst, hmore⟩ := List.forall_mem_cons.1 hbegins
    have hclose : Utf8.encode [']'] ++ rest = closeList :: rest := rfl
    have hlength := length_le_others (bs.map write)
    rw [List.length_map] at hlength
    rw [List.map_cons, separated_cons, Utf8.encode_append, List.append_assoc, hclose,
      mapM_cons_option]
    refine gives_items_succ hb (closes_others _ (closes_closeList rest)) hfirst.anotherItem_first
      (gives_items hbs hmore rest ?_)
    rw [List.length_append, List.length_append, List.length_cons]
    omega

/-- **A list is read back** if its items are. -/
theorem reads_listOf {item : ℕ → Reader α} {depth : ℕ} {write : α → List Char} {xs : List α}
    (h : ∀ x ∈ xs, Reads (item depth) (write x) x) (hbegins : ∀ x ∈ xs, Begins (write x)) :
    Reads (listOf item (depth + 1)) (Writer.list (xs.map write)) xs := by
  have hsome : xs.mapM some = some xs := by
    rw [show xs.mapM some = some (xs.map id) from List.mapM_pure, List.map_id]
  have hlist : ReadsAs (listOf item (depth + 1)) (Writer.list (xs.map write)) (xs.mapM some) :=
    readsAs_listOf h hbegins
  rwa [hsome] at hlist

end Items

/-! ## Documents -/

/-- **A document is what its text is read as.** -/
theorem Reads.document {r : Reader α} {text : List Char} {x : α} (h : Reads r text x) :
    document r (Utf8.encode text) = .ok x := by
  have hread := h [] closes_nil
  rw [List.append_nil] at hread
  unfold Json.document
  rw [hread]
  rfl

/-- A document whose text is refused has no value. -/
theorem Refuses.document {r : Reader α} {text : List Char} (h : Refuses r text) :
    ∃ e, document r (Utf8.encode text) = .error e := by
  obtain ⟨fault, hfault⟩ := h [] closes_nil
  rw [List.append_nil] at hfault
  unfold Json.document
  rw [hfault]
  exact ⟨_, rfl⟩

/-- **A document has the value that its text is read as,** and none if it is refused. -/
theorem ReadsAs.document_iff {r : Reader α} {text : List Char} {value : Option α}
    (h : ReadsAs r text value) (x : α) : document r (Utf8.encode text) = .ok x ↔ value = some x := by
  cases value with
  | none =>
    obtain ⟨e, he⟩ := Refuses.document h
    simp [he]
  | some y =>
    have hy : document r (Utf8.encode text) = .ok y := Reads.document h
    simp [hy]

end Json
end SharedBudget
