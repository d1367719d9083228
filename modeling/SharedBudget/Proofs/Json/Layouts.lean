/-
# Records in any layout

A record may be written as an object, with its fields in any order and any values under
other names between them, or as a list of its fields (`Json.IsRecord`).  What a record
is read as depends on its parts alone (`Json.Record.Takes.yields`): after some members
have been read the draft is a matter of which names have been seen, and not of their
order, and a member of another name changes nothing.  `Json.Record.Takes` says so of one
member; the induction is on the members.

A name, other than a value, is always read as a string, also if it is that of no field.
So the names of an object have to spell strings of characters here (`Json.Members`).  A
content that spells none, such as a lone half of a surrogate pair (`Json.loneHalf`), may
stand in a value under another name, but is no name.
-/

import SharedBudget.Proofs.Json.Cut
import SharedBudget.Proofs.Json.Values

namespace SharedBudget
namespace Json

variable {α β δ : Type} {text t s rest w : Bytes} {texts : List Bytes} {first : Bool}

/-! ## Layouts -/

/-- A field of a record in a document: its name, and the texts that may stand for it. -/
structure Part where
  name : String
  isText : Bytes → Prop
  starts : ∀ {text}, isText text → Starts text
  /-- Whether an object may do without it. -/
  optional : Prop := False

/-- The names of the parts. -/
def names (parts : List Part) : List String := parts.map Part.name

theorem name_mem {parts : List Part} {p : Part} (h : p ∈ parts) : p.name ∈ names parts :=
  List.mem_map_of_mem h

/-- These members make up a record: every part once, in any order, and any values under other
names.  The other names are strings, and no content that spells none is among them
(`Json.loneHalf`). -/
structure MadeOf (parts : List Part) (members : List (String × Bytes)) : Prop where
  once : members.Pairwise fun m m' => m.1 = m'.1 → m.1 ∉ names parts
  complete : ∀ p ∈ parts, ¬p.optional → p.name ∈ members.map Prod.fst
  isText : ∀ m ∈ members, ∀ p ∈ parts, p.name = m.1 → p.isText m.2
  isValue : ∀ m ∈ members, m.1 ∉ names parts → IsValue m.2

namespace MadeOf

variable {parts : List Part} {p : Part} {members members' : List (String × Bytes)}

/-- No other member has the name of a part that is already there. -/
theorem ne_of_split {before after : List (String × Bytes)} {m : String × Bytes}
    (h : MadeOf parts members) (hsplit : members = before ++ m :: after)
    (hm : m.1 ∈ names parts) : ∀ m' ∈ before ++ after, m'.1 ≠ m.1 := by
  have hsymm {a b : String × Bytes} (h : a.1 = b.1 → a.1 ∉ names parts) (heq : b.1 = a.1) :
      b.1 ∉ names parts := heq ▸ h heq.symm
  have honce := h.once
  rw [hsplit, List.pairwise_middle hsymm, List.pairwise_cons] at honce
  exact fun m' hm' heq => honce.1 m' hm' heq.symm hm

/-- The members may be in another order. -/
theorem perm (h : MadeOf parts members) (hperm : members.Perm members') :
    MadeOf parts members' where
  once := (hperm.pairwise_iff fun h heq => heq ▸ h heq.symm).1 h.once
  complete p hp hneed := (hperm.map Prod.fst).subset (h.complete p hp hneed)
  isText m hm := h.isText m (hperm.symm.subset hm)
  isValue m hm := h.isValue m (hperm.symm.subset hm)

/-- A member of another name may stand anywhere. -/
theorem other {name : String} {v : Bytes} (h : MadeOf parts members) (hname : name ∉ names parts)
    (hv : IsValue v) : MadeOf parts ((name, v) :: members) where
  once := List.pairwise_cons.2 ⟨fun _ _ _ => hname, h.once⟩
  complete p hp hneed := List.mem_cons_of_mem _ (h.complete p hp hneed)
  isText := List.forall_mem_cons.2
    ⟨fun p hp heq => (hname ((show p.name = name from heq) ▸ name_mem hp)).elim, h.isText⟩
  isValue := List.forall_mem_cons.2 ⟨fun _ => hv, h.isValue⟩

/-- Another part asks nothing of members that have not its name. -/
theorem once_cons (h : MadeOf parts members) (hname : p.name ∉ members.map Prod.fst) :
    members.Pairwise fun m m' => m.1 = m'.1 → m.1 ∉ names (p :: parts) := by
  refine h.once.imp_of_mem fun {m} {m'} hm _ honce heq => ?_
  have hne : m.1 ≠ p.name := fun h => hname (h ▸ List.mem_map_of_mem hm)
  exact List.not_mem_cons_of_ne_of_not_mem hne (honce heq)

theorem isText_cons (h : MadeOf parts members) (hname : p.name ∉ members.map Prod.fst) :
    ∀ m ∈ members, ∀ q ∈ p :: parts, q.name = m.1 → q.isText m.2 := fun m hm =>
  List.forall_mem_cons.2 ⟨fun heq => absurd (heq ▸ List.mem_map_of_mem hm) hname, h.isText m hm⟩

/-- An optional part may be left out. -/
theorem skip (h : MadeOf parts members) (hp : p.optional) (hname : p.name ∉ members.map Prod.fst) :
    MadeOf (p :: parts) members where
  once := h.once_cons hname
  complete := List.forall_mem_cons.2 ⟨fun hneed => absurd hp hneed, h.complete⟩
  isText := h.isText_cons hname
  isValue m hm hnot := h.isValue m hm (List.not_mem_of_not_mem_cons hnot)

/-- A part stands for itself. -/
theorem cons {x : Bytes} (h : MadeOf parts members) (hpart : p.name ∉ names parts)
    (hname : p.name ∉ members.map Prod.fst) (hx : p.isText x) :
    MadeOf (p :: parts) ((p.name, x) :: members) where
  once := List.pairwise_cons.2
    ⟨fun m hm heq => (hname ((show p.name = m.1 from heq) ▸ List.mem_map_of_mem hm)).elim,
      h.once_cons hname⟩
  complete := List.forall_mem_cons.2 ⟨fun _ => List.mem_cons_self .., fun q hq hneed =>
    List.mem_cons_of_mem _ (h.complete q hq hneed)⟩
  isText := List.forall_mem_cons.2 ⟨List.forall_mem_cons.2 ⟨fun _ => hx, fun q hq heq =>
    (hpart ((show q.name = p.name from heq) ▸ name_mem hq)).elim⟩, h.isText_cons hname⟩
  isValue := List.forall_mem_cons.2 ⟨fun hnot => absurd (List.mem_cons_self ..) hnot,
    fun m hm hnot => h.isValue m hm (List.not_mem_of_not_mem_cons hnot)⟩

/-- All parts, one after the other, make up a record. -/
theorem of_forall₂ (hnames : (names parts).Nodup)
    (h : List.Forall₂ (fun p m => m.1 = p.name ∧ p.isText m.2) parts members) :
    MadeOf parts members := by
  induction h with
  | nil => exact ⟨.nil, nofun, nofun, nofun⟩
  | @cons p m parts members hm hmore ih =>
    obtain ⟨hpart, hnames⟩ := List.nodup_cons.1 hnames
    have hmap : names parts = members.map Prod.fst := by
      rw [names, ← List.forall₂_eq_eq_eq, List.forall₂_map_left_iff, List.forall₂_map_right_iff]
      exact hmore.imp fun _ _ h => h.1.symm
    obtain ⟨name, x⟩ := m
    obtain ⟨rfl, hx⟩ := hm
    exact (ih hnames).cons hpart (hmap ▸ hpart) hx

end MadeOf

/-- What stands between the braces of an object with these members, whose names are spelled in
any way.  A content that spells no string is not a name of any of them. -/
def Members (first : Bool) (members : List (String × Bytes)) (text : Bytes) : Prop :=
  ∃ texts, List.Forall₂ (fun m => IsMember (Spells m.1.toList) m.2) members texts ∧
    Items first texts text

/-- A text that is a record: an object or a list. -/
inductive IsRecord (parts : List Part) : Bytes → Prop where
  | object {members : List (String × Bytes)} {inside : Bytes} : MadeOf parts members →
      Members true members inside → IsRecord parts (openObject :: (inside ++ [closeObject]))
  | list {texts : List Bytes} {text : Bytes} : List.Forall₂ Part.isText parts texts →
      IsList texts text → IsRecord parts text

theorem IsRecord.starts {parts : List Part} (h : IsRecord parts text) : Starts text := by
  cases h with
  | object _ _ => exact ⟨openObject, _, rfl, by decide, by decide⟩
  | list _ h => exact h.starts

/-! ## The next item, the next member -/

theorem Items.anotherItem_nil (h : Items first [] t) (rest : Bytes) :
    anotherItem first (t ++ closeList :: rest) = .ok (false, closeList :: rest) := by
  cases h with
  | nil hw =>
    unfold anotherItem
    rw [skipBlanks_append_blank hw, skipBlanks_cons (by decide)]
    rfl

theorem Items.anotherItem_cons {x : Bytes} (h : Items first (x :: texts) t) (hx : Starts x)
    (s : Bytes) : ∃ t', Items false texts t' ∧
      anotherItem first (t ++ s) = .ok (true, x ++ (t' ++ s)) := by
  obtain ⟨b, front, rfl, hblank, hne⟩ := hx
  cases h with
  | first hw h =>
    refine ⟨_, h, ?_⟩
    unfold anotherItem
    rw [List.append_assoc, skipBlanks_append_blank hw, List.append_assoc, List.cons_append,
      skipBlanks_cons hblank]
    simp only [if_neg hne, if_true]
  | next hw hw' h =>
    have hcomma : (comma = closeList) = False := eq_false (by decide)
    refine ⟨_, h, ?_⟩
    unfold anotherItem
    rw [List.append_assoc, skipBlanks_append_blank hw, List.cons_append,
      skipBlanks_cons (by decide)]
    simp only [hcomma, Bool.false_eq_true, if_false, if_true]
    rw [List.append_assoc, skipBlanks_append_blank hw', List.append_assoc, List.cons_append,
      skipBlanks_cons hblank]
    simp only [if_neg hne]

theorem Members.anotherMember_nil (h : Members first [] t) (rest : Bytes) :
    anotherMember first (t ++ closeObject :: rest) = .ok (false, closeObject :: rest) := by
  obtain ⟨texts, hmembers, h⟩ := h
  cases hmembers
  cases h with
  | nil hw =>
    unfold anotherMember
    rw [skipBlanks_append_blank hw, skipBlanks_cons (by decide)]
    rfl

/-- **The next member** is found, and its name is read up to the colon. -/
theorem Members.anotherMember_cons {m : String × Bytes} {members : List (String × Bytes)}
    (h : Members first (m :: members) t) (s : Bytes) :
    ∃ u w w' t', anotherMember first (t ++ s) = .ok (true, u) ∧
      memberName u = .ok (m.1, w ++ colon :: (w' ++ (m.2 ++ (t' ++ s)))) ∧
        AreBlank w ∧ AreBlank w' ∧ Members false members t' := by
  obtain ⟨texts, hmembers, h⟩ := h
  obtain ⟨x, texts, hx, hmore, rfl⟩ := List.forall₂_cons_left_iff.1 hmembers
  obtain ⟨key, w, w', hkey, hw, hw', rfl⟩ := hx
  have hname (s : Bytes) : memberName (quote :: (key ++ quote :: s)) = .ok (m.1, s) := by
    have hread := hkey.string s
    rwa [String.ofList_toList] at hread
  have hquote : (quote = closeObject) = False := eq_false (by decide)
  have hcomma : (comma = closeObject) = False := eq_false (by decide)
  cases h with
  | @first w₁ _ t' _ hw₁ h =>
    refine ⟨_, w, w', t', ?_, hname _, hw, hw', _, hmore, h⟩
    unfold anotherMember
    rw [List.append_assoc, skipBlanks_append_blank hw₁, List.append_assoc, List.cons_append,
      skipBlanks_cons (by decide)]
    simp [hquote]
  | @next w₁ w₂ _ t' _ hw₁ hw₂ h =>
    refine ⟨_, w, w', t', ?_, hname _, hw, hw', _, hmore, h⟩
    unfold anotherMember
    rw [List.append_assoc, skipBlanks_append_blank hw₁, List.cons_append,
      skipBlanks_cons (by decide)]
    simp only [hcomma, Bool.false_eq_true, if_false, if_true]
    rw [List.append_assoc, skipBlanks_append_blank hw₂, List.append_assoc, List.cons_append,
      skipBlanks_cons (by decide)]
    simp

/-- What follows a member ends its value. -/
theorem Members.ends {members : List (String × Bytes)} (h : Members false members t)
    (hrest : Ends rest) : Ends (t ++ rest) := by
  obtain ⟨texts, -, h⟩ := h
  exact h.ends hrest

theorem Members.length_le {members : List (String × Bytes)} (h : Members first members t) :
    members.length ≤ t.length + first.toNat := by
  obtain ⟨texts, hmembers, h⟩ := h
  exact hmembers.length_eq ▸ h.length_le

/-! ## Closing -/

section Closing

variable {inside : Reader (Except Cause α)} {value : Option (Except Cause α)} {w : Bytes}

/-- A list is what its items come to, up to the closing bracket. -/
theorem Gives.closingList (hw : AreBlank w) (h : Gives (inside s) (w ++ closeList :: rest) value) :
    Gives (closingList inside s) rest (value.bind Except.toOption) := by
  unfold Json.closingList
  rcases value with _ | (cause | x)
  · obtain ⟨fault, hfault⟩ := h
    exact ⟨fault, by rw [hfault, error_bind]⟩
  · rw [show inside s = _ from h]
    exact ⟨_, rfl⟩
  · have hend : endList (w ++ closeList :: rest) = .ok ((), rest) := by
      unfold endList
      rw [skipBlanks_append_blank hw, skipBlanks_cons (by decide)]
      rfl
    rw [show inside s = _ from h, ok_bind]
    dsimp only
    rw [hend]
    exact rfl

end Closing

theorem ignoresBlanks_objectOrList (expected : String) (depth : ℕ) (object list : ℕ → Reader α) :
    IgnoresBlanks (objectOrList expected depth object list) := by
  intro w s hw
  unfold objectOrList
  rw [skipBlanks_append_blank hw]

/-! ## Records -/

/-- The field takes the texts of a part: once the fields with some names have been read, the draft
is the one that `fill` gives, and reading one more of them adds its name. -/
def Field.Takes (f : Field δ) (depth : ℕ) (fill : List String → Option δ) (p : Part) : Prop :=
  f.name = p.name ∧ ∀ seen d, fill seen = some d → f.present d = decide (p.name ∈ seen) ∧
    ∀ text, p.isText text → Yields (f.read depth d) text ((fill (p.name :: seen)).map Except.ok)

/-- The record takes these parts as this value: `fill` gives the draft for the names of the
members that have been read, and nothing if one of them was refused. -/
structure Record.Takes (r : Record δ α) (depth : ℕ) (parts : List Part)
    (fill : List String → Option δ) (value : Option α) : Prop where
  start : fill [] = some r.draft
  fields : List.Forall₂ (fun f p => f.Takes depth fill p) r.fields parts
  ignores : ∀ name seen, name ∉ names parts → fill (name :: seen) = fill seen
  lost : ∀ name seen, fill seen = none → fill (name :: seen) = none
  finish : ∀ seen, (∀ p ∈ parts, ¬p.optional → p.name ∈ seen) →
    (fill seen).bind (fun d => (r.finish d).toOption) = value

section Takes

variable {r : Record δ α} {depth fuel : ℕ} {parts : List Part} {fill : List String → Option δ}
  {value : Option α} {d : δ} {seen : List String}

/-- The field with this name, if there is one, takes the part with this name. -/
theorem find?_takes {fields : List (Field δ)}
    (h : List.Forall₂ (fun f p => f.Takes depth fill p) fields parts) (name : String) :
    (fields.find? (·.name = name) = none ∧ name ∉ names parts) ∨
      ∃ f, ∃ p ∈ parts, fields.find? (·.name = name) = some f ∧ p.name = name ∧
        f.Takes depth fill p := by
  induction h with
  | nil => exact Or.inl ⟨rfl, nofun⟩
  | @cons f p fields parts hf _ ih =>
    by_cases hname : p.name = name
    · refine Or.inr ⟨f, p, List.mem_cons_self .., ?_, hname, hf⟩
      exact List.find?_cons_of_pos (by simpa [hf.1] using hname)
    · have hskip : (f :: fields).find? (·.name = name) = fields.find? (·.name = name) :=
        List.find?_cons_of_neg (by simpa [hf.1] using hname)
      rcases ih with ⟨hnone, hnot⟩ | ⟨f', p', hp', hsome, hname', hf'⟩
      · refine Or.inl ⟨hskip.trans hnone, ?_⟩
        rw [names, List.map_cons, List.mem_cons]
        rintro (rfl | hmem)
        · exact hname rfl
        · exact hnot hmem
      · exact Or.inr ⟨f', p', List.mem_cons_of_mem _ hp', hskip.trans hsome, hname', hf'⟩

theorem Record.Takes.lost_append (h : r.Takes depth parts fill value) (hnone : fill seen = none)
    (more : List String) : fill (more ++ seen) = none := by
  induction more with
  | nil => exact hnone
  | cons name more ih => exact h.lost name _ ih

/-- **The members are read,** in whatever order they stand. -/
theorem Record.Takes.gives_readMembers (h : r.Takes depth parts fill value)
    {members : List (String × Bytes)}
    (hisText : ∀ m ∈ members, ∀ p ∈ parts, p.name = m.1 → p.isText m.2)
    (hisValue : ∀ m ∈ members, m.1 ∉ names parts → IsValue m.2)
    (honce : members.Pairwise fun m m' => m.1 = m'.1 → m.1 ∉ names parts)
    (hfresh : ∀ m ∈ members, m.1 ∈ names parts → m.1 ∉ seen)
    (ht : Members first members t) (hd : fill seen = some d) (hfuel : members.length < fuel)
    (rest : Bytes) :
    Gives (r.readMembers depth fuel first d (t ++ closeObject :: rest)) (closeObject :: rest)
      ((fill ((members.map Prod.fst).reverse ++ seen)).map Except.ok) := by
  -- The names that have been seen grow by one with every member.  What later members need is
  -- that none of the parts among them has been seen.
  induction members generalizing t first seen d fuel with
  | nil =>
    obtain ⟨fuel, rfl⟩ := Nat.exists_eq_add_one_of_ne_zero (Nat.ne_zero_of_lt hfuel)
    rw [Record.readMembers, bind_reader (ht.anotherMember_nil rest), List.map_nil,
      List.reverse_nil, List.nil_append, hd]
    exact rfl
  | cons m members ih =>
    obtain ⟨fuel, rfl⟩ := Nat.exists_eq_add_one_of_ne_zero (Nat.ne_zero_of_lt hfuel)
    obtain ⟨u, w, w', t', hnext, hname, hw, hw', ht'⟩ :=
      ht.anotherMember_cons (closeObject :: rest)
    have hends := ht'.ends (.of_closes (closes_closeObject rest))
    obtain ⟨htext, htexts⟩ := List.forall_mem_cons.1 hisText
    obtain ⟨hvalue, hvalues⟩ := List.forall_mem_cons.1 hisValue
    obtain ⟨honce, honces⟩ := List.pairwise_cons.1 honce
    obtain ⟨hfresh, hfreshs⟩ := List.forall_mem_cons.1 hfresh
    have hlater : ∀ m' ∈ members, m'.1 ∈ names parts → m'.1 ∉ m.1 :: seen := by
      intro m' hm' hmem
      rw [List.mem_cons, not_or]
      exact ⟨fun heq => honce m' hm' heq.symm (heq ▸ hmem), hfreshs m' hm' hmem⟩
    have hseen : ((m :: members).map Prod.fst).reverse ++ seen =
        (members.map Prod.fst).reverse ++ m.1 :: seen := by
      rw [List.map_cons, List.reverse_cons, List.append_assoc, List.singleton_append]
    have hmore {d : δ} (hd : fill (m.1 :: seen) = some d) := ih htexts hvalues honces hlater ht' hd
      (Nat.lt_of_succ_lt_succ hfuel)
    rw [Record.readMembers, bind_reader hnext, if_pos rfl, bind_reader hname, hseen]
    rcases find?_takes h.fields m.1 with ⟨hnone, hnot⟩ | ⟨f, p, hp, hsome, hpname, -, hf⟩
    · have hskip := (hvalue hnot).yields_skip w' _ hw' hends
      simp only [hnone]
      rw [bind_reader (separator_blank hw _), bind_reader hskip]
      exact hmore ((h.ignores m.1 seen hnot).trans hd)
    · obtain ⟨hpresent, hread⟩ := hf seen d hd
      have hmem : m.1 ∈ names parts := hpname ▸ name_mem hp
      rw [hpname, decide_eq_false (hfresh hmem)] at hpresent
      have hgives := hread m.2 (htext p hp hpname) w' _ hw' hends
      rw [hpname] at hgives
      simp only [hsome, hpresent, Bool.false_eq_true, if_false]
      rw [bind_reader (separator_blank hw _)]
      cases hfill : fill (m.1 :: seen) with
      | none =>
        -- The field is refused, and no later member makes good for it.
        rw [hfill] at hgives
        obtain ⟨fault, hfault⟩ := hgives
        rw [h.lost_append hfill]
        exact ⟨fault, bind_reader_error hfault _⟩
      | some d' =>
        rw [hfill] at hgives
        rw [bind_reader hgives]
        exact hmore hfill

/-- **The items are read,** one for every field. -/
theorem Record.Takes.gives_readItems (h : r.Takes depth parts fill value) {fields : List (Field δ)}
    {more : List Part} (hfields : List.Forall₂ (fun f p => f.Takes depth fill p) fields more)
    (htexts : List.Forall₂ Part.isText more texts) (ht : Items first texts t)
    (hd : fill seen = some d) (index : ℕ) (rest : Bytes) :
    ∃ w, AreBlank w ∧ Gives (r.readItems depth fields index first d (t ++ closeList :: rest))
      (w ++ closeList :: rest) ((fill ((names more).reverse ++ seen)).map Except.ok) := by
  induction hfields generalizing t first seen d texts index with
  | nil =>
    cases htexts
    cases ht with
    | nil hw =>
      refine ⟨_, hw, ?_⟩
      rw [names, List.map_nil, List.reverse_nil, List.nil_append, hd]
      exact rfl
  | @cons f p fields more hf _ ih =>
    obtain ⟨x, texts, hx, hmore, rfl⟩ := List.forall₂_cons_left_iff.1 htexts
    obtain ⟨t', ht', hnext⟩ := ht.anotherItem_cons (p.starts hx) (closeList :: rest)
    have hends := ht'.ends (.of_closes (closes_closeList rest))
    have hgives := ((hf.2 seen d hd).2 x hx).gives hends
    have hseen : (names (p :: more)).reverse ++ seen = (names more).reverse ++ p.name :: seen := by
      rw [names, List.map_cons, List.reverse_cons, List.append_assoc, List.singleton_append]
      rfl
    rw [Record.readItems, bind_reader hnext, if_pos rfl, hseen]
    cases hfill : fill (p.name :: seen) with
    | none =>
      rw [hfill] at hgives
      obtain ⟨fault, hfault⟩ := hgives
      rw [h.lost_append hfill]
      exact ⟨[], areBlank_nil, fault, bind_reader_error hfault _⟩
    | some d' =>
      rw [hfill] at hgives
      obtain ⟨w, hw, hmore⟩ := ih hmore ht' hfill (index + 1)
      refine ⟨w, hw, ?_⟩
      rw [bind_reader hgives]
      exact hmore

/-- **A record is read as the same in every layout.** -/
theorem Record.Takes.yields (h : r.Takes depth parts fill value) (ht : IsRecord parts t) :
    Yields (r.read (depth + 1)) t value := by
  refine .of_ignoresBlanks (ignoresBlanks_objectOrList _ _ _ _) fun rest _ => ?_
  have hfinish {seen : List String} (hseen : ∀ p ∈ parts, ¬p.optional → p.name ∈ seen) :
      (((fill seen).map Except.ok).map (·.bind r.finish)).bind Except.toOption = value := by
    rw [← h.finish seen hseen]
    cases fill seen <;> rfl
  cases ht with
  | @object members inside hmade hmembers =>
    have hread (s : Bytes) : r.read (depth + 1) (openObject :: s) =
        closingObject ((·.bind r.finish) <$> r.readMembers depth (s.length + 1) true r.draft) s :=
      rfl
    have hgives (fuel : ℕ) (hfuel : members.length < fuel) := h.gives_readMembers hmade.isText
      hmade.isValue hmade.once (fun _ _ _ => List.not_mem_nil) hmembers h.start hfuel rest
    have hlength := hmembers.length_le
    rw [Bool.toNat_true] at hlength
    rw [List.cons_append, hread, List.append_assoc, List.singleton_append]
    have hclosing := ((hgives ((inside ++ closeObject :: rest).length + 1)
      (by rw [List.length_append, List.length_cons]; omega)).map (·.bind r.finish)).closingObject
    rwa [hfinish fun p hp hneed => List.mem_append_left _
      (List.mem_reverse.2 (hmade.complete p hp hneed))] at hclosing
  | @list texts _ htexts hlist =>
    obtain ⟨inside, hinside, rfl⟩ := hlist
    have hread (s : Bytes) : r.read (depth + 1) (openList :: s) =
        closingList ((·.bind r.finish) <$> r.readItems depth r.fields 0 true r.draft) s := rfl
    obtain ⟨w, hw, hgives⟩ := h.gives_readItems h.fields htexts hinside h.start 0 rest
    rw [List.cons_append, hread, List.append_assoc, List.singleton_append]
    have hclosing := (hgives.map (·.bind r.finish)).closingList hw
    rwa [hfinish fun p hp _ => List.mem_append_left _
      (List.mem_reverse.2 (name_mem hp))] at hclosing

end Takes

/-- A field whose every value is accepted takes a part if its reader reads the texts of the part,
and the draft then has the value. -/
theorem takes_field {name : String} {get : δ → Option β} {set : δ → β → δ}
    {read : ℕ → Reader β} {optional : Bool} {depth : ℕ} {fill : List String → Option δ} {p : Part}
    {x : Option β} (hname : name = p.name)
    (hget : ∀ seen d, fill seen = some d → (get d).isSome = decide (p.name ∈ seen))
    (hset : ∀ seen d, fill seen = some d → fill (p.name :: seen) = x.map (set d))
    (hread : ∀ text, p.isText text → Yields (read depth) text x) :
    (field name get set read optional).Takes depth fill p := by
  refine ⟨hname, fun seen d hd => ⟨hget seen d hd, fun text htext => ?_⟩⟩
  have hyields := (hread text htext).map fun x => (Except.ok (set d x) : Except Cause δ)
  rw [hset seen d hd, Option.map_map]
  exact hyields

/-! ## Drafts -/

section WhenSeen

variable {name other : String} {value : Option α} {seen : List String} {x : Option α}

/-- The value of a field in a draft after the fields with these names have been read: none before
it is its turn.  There is no draft any more if the field is refused. -/
def whenSeen (name : String) (value : Option α) (seen : List String) : Option (Option α) :=
  if name ∈ seen then value.map some else some none

@[simp] theorem whenSeen_cons_self : whenSeen name value (name :: seen) = value.map some :=
  if_pos (List.mem_cons_self ..)

theorem whenSeen_of_mem (h : name ∈ seen) : whenSeen name value seen = value.map some := if_pos h

theorem whenSeen_cons_of_ne (h : name ≠ other) :
    whenSeen name value (other :: seen) = whenSeen name value seen := by
  simp [whenSeen, h]

theorem isSome_of_whenSeen (h : whenSeen name value seen = some x) :
    x.isSome = decide (name ∈ seen) := by
  unfold whenSeen at h
  split at h
  · rename_i hmem
    obtain ⟨y, -, rfl⟩ := Option.map_eq_some_iff.1 h
    simp [hmem]
  · rename_i hmem
    obtain rfl := Option.some.inj h
    simp [hmem]

/-- What is refused stays refused. -/
theorem exists_whenSeen (h : whenSeen name value (other :: seen) = some x) :
    ∃ y, whenSeen name value seen = some y := by
  by_cases hmem : name ∈ seen
  · exact ⟨x, by rwa [whenSeen_of_mem (List.mem_cons_of_mem _ hmem), ← whenSeen_of_mem hmem] at h⟩
  · exact ⟨none, if_neg hmem⟩

end WhenSeen

/-! ## Lists -/

/-- The items after those that have been read, up to the closing bracket. -/
theorem gives_items_of_forall₂ {item : Reader α} {isText : β → Bytes → Prop}
    {back : β → Option α} {xs : List β} (htexts : List.Forall₂ isText xs texts)
    (hstarts : ∀ x ∈ xs, ∀ text, isText x text → Starts text)
    (hread : ∀ x ∈ xs, ∀ text, isText x text → Yields item text (back x))
    (ht : Items first texts t) (fuel : ℕ) (hfuel : texts.length < fuel) (rest : Bytes) :
    Gives (items item fuel first (t ++ closeList :: rest)) (closeList :: rest) (xs.mapM back) := by
  induction htexts generalizing t first fuel with
  | nil =>
    obtain ⟨fuel, rfl⟩ := Nat.exists_eq_add_one_of_ne_zero (Nat.ne_zero_of_lt hfuel)
    rw [items, bind_reader (ht.anotherItem_nil rest)]
    exact rfl
  | @cons x text xs texts hx _ ih =>
    obtain ⟨fuel, rfl⟩ := Nat.exists_eq_add_one_of_ne_zero (Nat.ne_zero_of_lt hfuel)
    obtain ⟨hstart, hstarts⟩ := List.forall_mem_cons.1 hstarts
    obtain ⟨hfirst, hmore⟩ := List.forall_mem_cons.1 hread
    obtain ⟨t', ht', hnext⟩ := ht.anotherItem_cons (hstart text hx) (closeList :: rest)
    have hends := ht'.ends (.of_closes (closes_closeList rest))
    rw [items, bind_reader hnext, if_pos rfl, mapM_cons_option]
    refine ((hfirst text hx).gives hends).bind fun x _ => ?_
    have hitems := ih hstarts hmore ht' fuel (Nat.lt_of_succ_lt_succ hfuel)
    exact hitems.map fun xs => x :: xs

/-- **A list is read as what its items are read as,** whatever stands between them. -/
theorem yields_listOf {item : ℕ → Reader α} {depth : ℕ} {isText : β → Bytes → Prop}
    {back : β → Option α} {xs : List β} (htexts : List.Forall₂ isText xs texts)
    (hstarts : ∀ x ∈ xs, ∀ text, isText x text → Starts text)
    (hread : ∀ x ∈ xs, ∀ text, isText x text → Yields (item depth) text (back x))
    (ht : IsList texts t) : Yields (listOf item (depth + 1)) t (xs.mapM back) := by
  have hignores : IgnoresBlanks (listOf item (depth + 1)) := by
    intro w s hw
    unfold listOf
    rw [skipBlanks_append_blank hw]
  refine .of_ignoresBlanks hignores fun rest _ => ?_
  obtain ⟨inside, hinside, rfl⟩ := ht
  have hlist (s : Bytes) : listOf item (depth + 1) (openList :: s) =
      (items (item depth) (s.length + 1) true >>= fun xs => endList >>= fun _ => pure xs) s := rfl
  have hlength := hinside.length_le
  rw [Bool.toNat_true] at hlength
  rw [List.cons_append, hlist, List.append_assoc, List.singleton_append]
  have hitems := gives_items_of_forall₂ htexts hstarts hread hinside
    ((inside ++ closeList :: rest).length + 1)
    (by rw [List.length_append, List.length_cons]; omega) rest
  rw [← Option.bind_fun_some (x := xs.mapM back)]
  exact hitems.bind fun xs _ => rfl

/-! ## Documents -/

/-- **A document has the value that its text yields,** whatever blanks stand around it. -/
theorem Yields.document_iff {r : Reader α} {value : Option α} (h : Yields r text value)
    {w w' : Bytes} (hw : AreBlank w) (hw' : AreBlank w') (x : α) :
    document r (w ++ (text ++ w')) = .ok x ↔ value = some x := by
  have hends : Ends w' := by
    have hnil : Ends [] := nofun
    simpa using hnil.append_blank hw'
  have hread := h w w' hw hends
  rw [document_eq_ok_iff]
  cases value with
  | none =>
    obtain ⟨fault, hfault⟩ := hread
    simp [hfault]
  | some y =>
    rw [show r _ = _ from hread]
    constructor
    · rintro ⟨rest, heq, -⟩
      exact congrArg some (Prod.ext_iff.1 (Except.ok.inj heq)).1
    · intro heq
      exact ⟨w', by rw [Option.some.inj heq], hw'⟩

end Json
end SharedBudget
