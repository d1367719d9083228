/-
# Parameters in any layout

An object that is a parameter may give its type first or its value first, with any other
members around them whose names are strings, and a list gives the type first.  If the
value comes first, it is read before its type is known, and accepted later.  Both ways
come to the same (`Parameter.yields_meaning`): a scalar is found as one thing, and a
container is refused by every type, whether it could be read whole or not.

A member whose name spells no string belongs to none of these layouts, and need not be
passed over (`Parameter.refused_beside_loneHalf`).
-/

import SharedBudget.Parameter.Codec
import SharedBudget.Proofs.Json.Written
import SharedBudget.Proofs.Parameter

namespace SharedBudget

open Json

/-- **A type is read by its name,** in every spelling. -/
theorem DataType.yields_name {d : String} {text : Bytes} (h : IsString d.toList text) (depth : ℕ) :
    Yields (DataType.read depth) text (choose choices d).toOption := by
  have hyields := h.yields_scalar.accepting (acceptChoice choices)
  rw [String.ofList_toList] at hyields
  obtain ⟨content, -, rfl⟩ := h
  intro w rest hw hrest
  have hgives := hyields.gives hrest
  unfold DataType.read choice
  rw [skipBlanks_append_blank hw]
  exact hgives

namespace Parameter

variable {d : String} {v t : Bytes}

/-- The parts of a parameter: the name of its type, and this value. -/
def parts (d : String) (v : Bytes) : List Part := [
  { name := Member.dataType.name
    isText := IsString d.toList
    starts := IsString.starts },
  { name := Member.value.name
    isText := fun text => text = v ∧ IsValue text
    starts := fun h => h.2.starts }]

theorem names_parts (d : String) (v : Bytes) : names (parts d v) = ["dtype", "value"] := rfl

theorem nodup_names (d : String) (v : Bytes) : (names (parts d v)).Nodup := by
  rw [names_parts]
  decide

/-- A document that gives the name of the type and the value: an object in which they stand in
either order, with any values under other names anywhere, or a list of the two.  The other names
spell strings: `{"\ud800":0,"dtype":"i32","value":1}` is no such document, although it is an
object that has the two members. -/
def IsLayout (d : String) (v document : Bytes) : Prop := Padded (IsRecord (parts d v)) document

/-! ## What a value comes to -/

/-- What is found for the value is the same whether its type is known when it is read or not. -/
structure Value (v : Bytes) (found : Option Found) : Prop where
  accepted : ∀ t,
    Yields (accepting (accept t)) v (found.bind fun found => (accept t found).toOption)
  whole : ∀ depth, Yields (whole depth) v found ∨ found = none ∧
    ∀ w rest, AreBlank w → ∀ container s, whole depth (w ++ (v ++ rest)) = .ok (container, s) →
      container.isContainer

/-- No type accepts a container. -/
theorem accept_of_isContainer {found : Found} (h : found.isContainer) (t : DataType) :
    ∃ cause, accept t found = .error cause := by
  cases found with
  | sequence => cases t <;> exact ⟨_, rfl⟩
  | map => cases t <;> exact ⟨_, rfl⟩
  | _ => cases h

/-- **Every value comes to something.** -/
theorem exists_value (hv : IsValue v) : ∃ found, Value v found := by
  rcases hv.scalar_or_container with ⟨found, hfound, hscalar⟩ | ⟨found, hcontainer, hfound⟩
  · exact ⟨found, fun t => hfound.accepting (accept t),
      fun depth => Or.inl (yields_whole hfound hscalar depth)⟩
  · refine ⟨none, fun t w rest hw _ => ?_,
      fun depth => Or.inr ⟨rfl, fun w rest hw found' s h => ?_⟩⟩
    · obtain ⟨cause, hcause⟩ := accept_of_isContainer hcontainer t
      unfold accepting
      rw [hfound w rest hw, ok_bind]
      simp only [hcause]
      exact ⟨_, rfl⟩
    · exact isContainer_of_whole (hfound w rest hw) hcontainer h

/-! ## Members -/

section Members

variable {fuel depth : ℕ} {first : Bool} {rest s : Bytes} {x : Bytes}
  {before middle after : List (String × Bytes)} {found : Option Found}

/-- These members do not belong to a parameter, and have values. -/
def AreOther (members : List (String × Bytes)) : Prop :=
  ∀ m ∈ members, (∀ member : Member, m.1 ≠ member.name) ∧ IsValue m.2

/-- A member that does not belong to a parameter is skipped. -/
theorem nextMember_other {m : String × Bytes} (h : Members first (m :: after) t) (fuel : ℕ)
    (hname : ∀ member : Member, m.1 ≠ member.name) (hvalue : IsValue m.2) (hrest : Ends rest) :
    ∃ t', Members false after t' ∧
      nextMember (fuel + 1) first (t ++ rest) = nextMember fuel false (t' ++ rest) := by
  obtain ⟨u, w, w', t', hnext, hread, hw, hw', ht'⟩ := h.anotherMember_cons rest
  have hskip := hvalue.yields_skip w' _ hw' (ht'.ends hrest)
  refine ⟨t', ht', ?_⟩
  rw [nextMember, bind_reader hnext, if_pos rfl, bind_reader hread, if_neg (hname .dataType),
    if_neg (hname .value), bind_reader (separator_blank hw _), bind_reader hskip]

/-- The next member that belongs to a parameter is found behind the others, up to its colon. -/
theorem nextMember_found (member : Member)
    (h : Members first (before ++ (member.name, x) :: after) t) (hbefore : AreOther before)
    (fuel : ℕ) (hfuel : before.length < fuel) (hrest : Ends rest) :
    ∃ w w' t', AreBlank w ∧ AreBlank w' ∧ Members false after t' ∧
      nextMember fuel first (t ++ rest) =
        .ok (some member, w ++ colon :: (w' ++ (x ++ (t' ++ rest)))) := by
  induction before generalizing first t fuel with
  | nil =>
    obtain ⟨fuel, rfl⟩ := Nat.exists_eq_add_one_of_ne_zero (Nat.ne_zero_of_lt hfuel)
    obtain ⟨u, w, w', t', hnext, hread, hw, hw', ht'⟩ := h.anotherMember_cons rest
    refine ⟨w, w', t', hw, hw', ht', ?_⟩
    rw [nextMember, bind_reader hnext, if_pos rfl, bind_reader hread]
    cases member <;> rfl
  | cons m before ih =>
    obtain ⟨fuel, rfl⟩ := Nat.exists_eq_add_one_of_ne_zero (Nat.ne_zero_of_lt hfuel)
    obtain ⟨⟨hname, hvalue⟩, hothers⟩ := List.forall_mem_cons.1 hbefore
    obtain ⟨t', ht', hskip⟩ := nextMember_other h fuel hname hvalue hrest
    rw [hskip]
    exact ih ht' hothers fuel (Nat.lt_of_succ_lt_succ hfuel)

/-- There is no member left that belongs to a parameter. -/
theorem nextMember_none (h : Members first after t) (hafter : AreOther after)
    (hfuel : after.length < fuel) (rest : Bytes) :
    nextMember fuel first (t ++ closeObject :: rest) = .ok (none, closeObject :: rest) := by
  induction after generalizing first t fuel with
  | nil =>
    obtain ⟨fuel, rfl⟩ := Nat.exists_eq_add_one_of_ne_zero (Nat.ne_zero_of_lt hfuel)
    rw [nextMember, bind_reader (h.anotherMember_nil rest)]
    rfl
  | cons m after ih =>
    obtain ⟨fuel, rfl⟩ := Nat.exists_eq_add_one_of_ne_zero (Nat.ne_zero_of_lt hfuel)
    obtain ⟨⟨hname, hvalue⟩, hothers⟩ := List.forall_mem_cons.1 hafter
    obtain ⟨t', ht', hskip⟩ := nextMember_other h fuel hname hvalue
      (.of_closes (closes_closeObject rest))
    rw [hskip]
    exact ih ht' hothers (Nat.lt_of_succ_lt_succ hfuel)

/-- What the members come to: the parameter if there is one, and anything but a parameter if there
is none. -/
def Settles (outcome : Except Fault (Except Cause Parameter × Bytes)) (rest : Bytes) :
    Option Parameter → Prop
  | some p => outcome = .ok (.ok p, rest)
  | none => ∀ p s, outcome ≠ .ok (.ok p, s)

theorem Settles.of_gives {α : Type} {r : Reader α} {mid : Bytes} {value : Option α}
    {k : α → Option Parameter} {f : α → Reader (Except Cause Parameter)}
    (h : Gives (r s) mid value) (hf : ∀ x, value = some x → Settles (f x mid) rest (k x)) :
    Settles ((r >>= f) s) rest (value.bind k) := by
  cases value with
  | none =>
    obtain ⟨fault, hfault⟩ := h
    rw [bind_reader_error hfault]
    exact nofun
  | some x =>
    rw [bind_reader h]
    exact hf x rfl

/-- An object is the parameter that its members come to. -/
theorem Settles.gives {members : Reader (Except Cause Parameter)} {value : Option Parameter}
    (h : Settles (members s) (closeObject :: rest) value) :
    Gives (closingObject members s) rest value := by
  cases value with
  | some p => exact closingObject_of_ok h
  | none =>
    unfold closingObject
    cases hmembers : members s with
    | error fault => exact ⟨fault, rfl⟩
    | ok result =>
      obtain ⟨cause | p, s'⟩ := result
      · exact ⟨_, rfl⟩
      · exact absurd hmembers (h p s')

/-- Nothing more belongs to the parameter. -/
theorem lastMembers_none (h : Members false after t) (hafter : AreOther after)
    (hfuel : after.length < fuel) (p : Parameter) (rest : Bytes) :
    lastMembers fuel p (t ++ closeObject :: rest) = .ok (.ok p, closeObject :: rest) := by
  rw [lastMembers, bind_reader (nextMember_none h hafter hfuel rest)]
  rfl

/-- The parameter with this type and this value. -/
def meaning (d : String) (found : Option Found) : Option Parameter :=
  (choose DataType.choices d).toOption.bind fun t =>
    found.bind fun found => (accept t found).toOption

/-- **The type, and then the value:** the value is read by its type. -/
theorem settles_typeFirst (hvalue : Value v found) (hd : IsString d.toList x)
    (h : Members false (middle ++ (Member.value.name, v) :: after) t)
    (hmiddle : AreOther middle) (hafter : AreOther after)
    (hfuel : middle.length + after.length < fuel) {w w' : Bytes} (hw : AreBlank w)
    (hw' : AreBlank w') (rest : Bytes) :
    Settles (typeFirst fuel depth (w ++ colon :: (w' ++ (x ++ (t ++ closeObject :: rest)))))
      (closeObject :: rest) (meaning d found) := by
  have hclose : Ends (closeObject :: rest) := .of_closes (closes_closeObject rest)
  obtain ⟨w₁, w₂, t', hw₁, hw₂, ht', hnext⟩ := nextMember_found .value h hmiddle fuel
    (by omega) hclose
  rw [typeFirst, bind_reader (separator_blank hw _)]
  refine .of_gives (DataType.yields_name hd depth w' _ hw' (h.ends hclose)) fun dataType _ => ?_
  rw [bind_reader hnext]
  change Settles ((separator >>= fun _ => accepting (accept dataType) >>= lastMembers fuel) _) _ _
  rw [bind_reader (separator_blank hw₁ _)]
  rw [← Option.bind_fun_some (x := found.bind fun found => (accept dataType found).toOption)]
  exact .of_gives (hvalue.accepted dataType w₂ _ hw₂ (ht'.ends hclose))
    fun p _ => lastMembers_none ht' hafter (by omega) p rest

/-- What is done behind the value, once it has been read whole. -/
theorem valueFirst_eq (fuel depth : ℕ) : valueFirst fuel depth =
    separator >>= fun _ => whole depth >>= fun found => nextMember fuel false >>= fun
      | none => pure (.error (.missingField Member.dataType.name))
      | some .value => pure (.error (.duplicateField Member.value.name))
      | some .dataType => separator >>= fun _ => DataType.read depth >>= fun t =>
        match accept t found with
        | .ok p => lastMembers fuel p
        | .error cause => pure (.error cause) := rfl

/-- A container in front of its type never makes a parameter. -/
theorem valueFirst_container
    (h : ∀ container s', whole depth s = .ok (container, s') → container.isContainer)
    (hsep : separator t = .ok ((), s)) (p : Parameter) (s' : Bytes) :
    valueFirst fuel depth t ≠ .ok (.ok p, s') := by
  intro hread
  rw [valueFirst_eq, bind_reader hsep] at hread
  obtain ⟨container, s₁, hwhole, hread⟩ := bind_reader_eq_ok_iff.1 hread
  obtain ⟨member, s₂, -, hread⟩ := bind_reader_eq_ok_iff.1 hread
  match member, hread with
  | some .dataType, hread =>
    obtain ⟨_, s₃, -, hread⟩ := bind_reader_eq_ok_iff.1 hread
    obtain ⟨dataType, s₄, -, hread⟩ := bind_reader_eq_ok_iff.1 hread
    obtain ⟨cause, hcause⟩ := accept_of_isContainer (h container s₁ hwhole) dataType
    simp only [hcause] at hread
    cases hread

/-- **The value, and then the type:** the value is read whole, and accepted later. -/
theorem settles_valueFirst (hvalue : Value v found) (hd : IsString d.toList x)
    (h : Members false (middle ++ (Member.dataType.name, x) :: after) t)
    (hmiddle : AreOther middle) (hafter : AreOther after)
    (hfuel : middle.length + after.length < fuel) {w w' : Bytes} (hw : AreBlank w)
    (hw' : AreBlank w') (rest : Bytes) :
    Settles (valueFirst fuel depth (w ++ colon :: (w' ++ (v ++ (t ++ closeObject :: rest)))))
      (closeObject :: rest) (meaning d found) := by
  have hclose : Ends (closeObject :: rest) := .of_closes (closes_closeObject rest)
  -- A container may fail to be read whole, so here the value has no fixed outcome; but it never
  -- gets as far as a parameter.
  rcases hvalue.whole depth with hwhole | ⟨rfl, hcontainer⟩
  · obtain ⟨w₁, w₂, t', hw₁, hw₂, ht', hnext⟩ := nextMember_found .dataType h hmiddle fuel
      (by omega) hclose
    rw [meaning, Option.bind_comm, valueFirst_eq, bind_reader (separator_blank hw _)]
    refine .of_gives (hwhole w' _ hw' (h.ends hclose)) fun found _ => ?_
    rw [bind_reader hnext]
    dsimp only
    rw [bind_reader (separator_blank hw₁ _)]
    refine .of_gives (DataType.yields_name hd depth w₂ _ hw₂ (ht'.ends hclose)) fun t _ => ?_
    cases accept t found with
    | error cause => exact nofun
    | ok p => exact lastMembers_none ht' hafter (by omega) p rest
  · have hnone : meaning d none = none := by simp [meaning]
    rw [hnone]
    exact valueFirst_container (fun container s' => hcontainer w' _ hw' container s')
      (separator_blank hw _)

end Members

/-! ## Parameters -/

section Records

variable {found : Option Found} {members : List (String × Bytes)}

/-- Between and around the two members that belong to a parameter there are only others. -/
theorem areOther_of_split (h : MadeOf (parts d v) members) (member member' : Member)
    (hne : member ≠ member') {before middle after : List (String × Bytes)} {x x' : Bytes}
    (hsplit : members = before ++ (member.name, x) :: (middle ++ (member'.name, x') :: after)) :
    AreOther before ∧ AreOther middle ∧ AreOther after := by
  have hmem (member : Member) : member.name ∈ names (parts d v) := by
    cases member <;> simp [names_parts, Member.name]
  have hfirst := h.ne_of_split hsplit (hmem member)
  have hsplit' : members =
      (before ++ (member.name, x) :: middle) ++ (member'.name, x') :: after := by
    rw [hsplit, List.append_assoc, List.cons_append]
  have hsecond := h.ne_of_split hsplit' (hmem member')
  have hother (m : String × Bytes) (hm : m ∈ before ∨ m ∈ middle ∨ m ∈ after) :
      (∀ q : Member, m.1 ≠ q.name) ∧ IsValue m.2 := by
    have hm₁ := hfirst m (by rcases hm with hm | hm | hm <;> simp [hm])
    have hm₂ := hsecond m (by rcases hm with hm | hm | hm <;> simp [hm])
    have hname (q : Member) : m.1 ≠ q.name := by
      cases q <;> cases member <;> cases member' <;> first | exact absurd rfl hne | assumption
    refine ⟨hname, h.isValue m (by rcases hm with hm | hm | hm <;> simp [hsplit, hm]) ?_⟩
    rw [names_parts]
    exact List.not_mem_cons_of_ne_of_not_mem (hname .dataType)
      (List.not_mem_cons_of_ne_of_not_mem (hname .value) nofun)
  exact ⟨fun m hm => hother m (.inl hm), fun m hm => hother m (.inr (.inl hm)),
    fun m hm => hother m (.inr (.inr hm))⟩

/-- An object that is a parameter has its two members in one order or the other, and besides them
only others. -/
theorem exists_split (h : MadeOf (parts d v) members) :
    ∃ (before middle after : List (String × Bytes)) (x : Bytes), IsString d.toList x ∧
      AreOther before ∧ AreOther middle ∧ AreOther after ∧
        (members = before ++ (Member.dataType.name, x) ::
            (middle ++ (Member.value.name, v) :: after) ∨
          members = before ++ (Member.value.name, v) ::
            (middle ++ (Member.dataType.name, x) :: after)) := by
  have hmember (p : Part) (hp : p ∈ parts d v) (hneed : ¬p.optional) :
      ∃ x, (p.name, x) ∈ members ∧ p.isText x := by
    obtain ⟨m, hm, hname⟩ := List.mem_map.1 (h.complete p hp hneed)
    refine ⟨m.2, ?_, h.isText m hm p hp hname.symm⟩
    rwa [← hname]
  obtain ⟨x, hx, htext⟩ := hmember _ (List.mem_cons_self ..) id
  obtain ⟨y, hy, hvalue⟩ := hmember _ (List.mem_cons_of_mem _ (List.mem_cons_self ..)) id
  obtain ⟨rfl, -⟩ := hvalue
  obtain ⟨before, after, hsplit⟩ := List.append_of_mem hx
  rw [hsplit, List.mem_append, List.mem_cons] at hy
  rcases hy with hy | hy | hy
  · obtain ⟨before, middle, rfl⟩ := List.append_of_mem hy
    rw [List.append_assoc, List.cons_append] at hsplit
    obtain ⟨hbefore, hmiddle, hafter⟩ := areOther_of_split h .value .dataType nofun hsplit
    exact ⟨before, middle, after, x, htext, hbefore, hmiddle, hafter, Or.inr hsplit⟩
  · have hne : Member.value.name ≠ Member.dataType.name := by decide
    exact absurd (Prod.ext_iff.1 hy).1 hne
  · obtain ⟨middle, after, rfl⟩ := List.append_of_mem hy
    obtain ⟨hbefore, hmiddle, hafter⟩ := areOther_of_split h .dataType .value nofun hsplit
    exact ⟨before, middle, after, x, htext, hbefore, hmiddle, hafter, Or.inl hsplit⟩

/-- The members of an object come to the meaning of its value, in either order. -/
theorem settles_readMembers (hvalue : Value v found) (hmade : MadeOf (parts d v) members)
    (ht : Members true members t) {fuel : ℕ} (hfuel : members.length < fuel) (depth : ℕ)
    (rest : Bytes) : Settles (readMembers fuel depth (t ++ closeObject :: rest))
      (closeObject :: rest) (meaning d found) := by
  have hclose : Ends (closeObject :: rest) := .of_closes (closes_closeObject rest)
  obtain ⟨before, middle, after, x, hx, hbefore, hmiddle, hafter, rfl | rfl⟩ := exists_split hmade
  · simp only [List.length_append, List.length_cons] at hfuel
    obtain ⟨w, w', t', hw, hw', ht', hnext⟩ := nextMember_found .dataType ht hbefore fuel
      (by omega) hclose
    rw [readMembers, bind_reader hnext]
    exact settles_typeFirst hvalue hx ht' hmiddle hafter (by omega) hw hw' rest
  · simp only [List.length_append, List.length_cons] at hfuel
    obtain ⟨w, w', t', hw, hw', ht', hnext⟩ := nextMember_found .value ht hbefore fuel
      (by omega) hclose
    rw [readMembers, bind_reader hnext]
    exact settles_valueFirst hvalue hx ht' hmiddle hafter (by omega) hw hw' rest

/-- The items of a list come to the meaning of its value. -/
theorem gives_readItems {x : Bytes} (hvalue : Value v found) (hv : IsValue v)
    (hx : IsString d.toList x) (ht : Items true [x, v] t) (rest : Bytes) :
    ∃ w, AreBlank w ∧ Gives (readItems (t ++ closeList :: rest)) (w ++ closeList :: rest)
      ((meaning d found).map Except.ok) := by
  have hclose : Ends (closeList :: rest) := .of_closes (closes_closeList rest)
  have hchoice := hx.yields_scalar.accepting (acceptChoice DataType.choices)
  rw [String.ofList_toList] at hchoice
  obtain ⟨t₁, ht₁, hfirst⟩ := ht.anotherItem_cons hx.starts (closeList :: rest)
  obtain ⟨t₂, ht₂, hsecond⟩ := ht₁.anotherItem_cons hv.starts (closeList :: rest)
  cases ht₂ with
  | nil hw =>
    refine ⟨t₂, hw, ?_⟩
    rw [readItems, bind_reader hfirst, if_pos rfl, meaning, Option.map_bind]
    refine (hchoice.gives (ht₁.ends hclose)).bind fun dataType _ => ?_
    rw [bind_reader hsecond, if_pos rfl]
    exact ((hvalue.accepted dataType).gives (hclose.append_blank hw)).map Except.ok

/-- **A value has one meaning with a type,** in every layout. -/
theorem yields_meaning (hvalue : Value v found) (ht : IsRecord (parts d v) t) (depth : ℕ) :
    Yields (read (depth + 1)) t (meaning d found) := by
  refine .of_ignoresBlanks (ignoresBlanks_objectOrList _ _ _ _) fun rest _ => ?_
  cases ht with
  | @object members inside hmade hmembers =>
    have hread (s : Bytes) : read (depth + 1) (openObject :: s) =
        closingObject (readMembers (s.length + 1) depth) s := rfl
    have hlength := hmembers.length_le
    rw [Bool.toNat_true] at hlength
    rw [List.cons_append, hread, List.append_assoc, List.singleton_append]
    exact (settles_readMembers hvalue hmade hmembers
      (by rw [List.length_append, List.length_cons]; omega) depth rest).gives
  | @list texts _ htexts hlist =>
    obtain ⟨inside, hinside, rfl⟩ := hlist
    have hread (s : Bytes) : read (depth + 1) (openList :: s) = closingList readItems s := rfl
    obtain ⟨x, texts, hx, hmore, rfl⟩ := List.forall₂_cons_left_iff.1 htexts
    obtain ⟨y, texts, ⟨rfl, hv⟩, hnil, rfl⟩ := List.forall₂_cons_left_iff.1 hmore
    cases hnil
    obtain ⟨w, hw, hgives⟩ := gives_readItems hvalue hv hx hinside rest
    rw [List.cons_append, hread, List.append_assoc, List.singleton_append]
    have hclosing := hgives.closingList hw
    rwa [bind_toOption_ok] at hclosing

end Records

/-! ## Documents -/

/-- The writer's list of a type and a value is one of their documents. -/
theorem isLayout_list (d : String) {value : List Char} (hv : IsValue (Utf8.encode value)) :
    IsLayout d (Utf8.encode value) (Utf8.encode (Writer.list [Writer.text d, value])) :=
  ⟨[], _, [], areBlank_nil, .list (.cons (isString_json _) (.cons ⟨rfl, hv⟩ .nil))
    (isList_list [Writer.text d, value]), areBlank_nil, (List.append_nil _).symm⟩

/-- A document that gives a type and a value is read as the parameter that they mean. -/
theorem toOption_ofJson {found : Option Found} (hvalue : Value v found) {document : Bytes}
    (h : IsLayout d v document) : (ofJson document).toOption = meaning d found := by
  obtain ⟨w, t, w', hw, ht, hw', rfl⟩ := h
  have hiff := (yields_meaning hvalue ht 126).document_iff hw hw'
  ext p
  exact toOption_eq_some_iff.trans (hiff p)

/-- **A parameter means the same in every layout.**  Whatever the name of the type and the value
are, two documents that give them, as an object in either order with any values anywhere under
other names, each of which spells a string, or as a list, are read as the same parameter, or both
refused. -/
theorem same_in_every_layout (hv : IsValue v) {document document' : Bytes}
    (h : IsLayout d v document) (h' : IsLayout d v document') :
    (ofJson document).toOption = (ofJson document').toOption := by
  obtain ⟨found, hvalue⟩ := exists_value hv
  rw [toOption_ofJson hvalue h, toOption_ofJson hvalue h']

/-- The value `-7` in front of its type, with another member between them, and the two as a list. -/
theorem same_in_both_layouts_of_seven :
    let value := Utf8.encode (Writer.integer (-7))
    let members := [("value", Writer.integer (-7)), ("note", Writer.list [Writer.null]),
      ("dtype", Writer.text "i32")]
    let object := Utf8.encode (Writer.object members)
    let list := Utf8.encode (Writer.list [Writer.text "i32", Writer.integer (-7)])
    IsValue value ∧ IsLayout "i32" value object ∧ IsLayout "i32" value list ∧
      (ofJson object).toOption = (ofJson list).toOption ∧
        (ofJson list).toOption = some (.i32 (-7)) := by
  intro value members object list
  have hvalue : IsValue (Utf8.encode (Writer.integer (-7))) := isValue_integer (-7)
  have hnote : IsValue (Utf8.encode (Writer.list [Writer.null])) :=
    .list (isList_list [Writer.null]) (List.forall_mem_singleton.2 .null)
  have hparts : MadeOf (parts "i32" value)
      (memberBytes [("dtype", Writer.text "i32"), ("value", Writer.integer (-7))]) :=
    .of_forall₂ (nodup_names "i32" value)
      (.cons ⟨rfl, isString_json _⟩ (.cons ⟨rfl, rfl, hvalue⟩ .nil))
  have hname : "note" ∉ names (parts "i32" value) := by
    rw [names_parts]
    decide
  have hmade : MadeOf (parts "i32" value) (memberBytes members) :=
    (hparts.other hname hnote).perm (@List.perm_append_comm _ [_, _] [_])
  have hobject : IsLayout "i32" value object :=
    ⟨[], _, [], areBlank_nil, isRecord_object hmade, areBlank_nil, (List.append_nil _).symm⟩
  have hlist : IsLayout "i32" value list := isLayout_list "i32" hvalue
  exact ⟨hvalue, hobject, hlist, same_in_every_layout hvalue hobject hlist, by decide⟩

/-- A name that spells no string is not passed over.  The object is a value of the grammar, gives
the type and the value of the list, and has another member, whose name is a content that spells no
characters; the list is read, and the object is refused. -/
theorem refused_beside_loneHalf :
    let value := Writer.integer 1
    let other := "\"\\ud800\":0".toList
    let members := [other, Writer.member "dtype" (Writer.text "i32"), Writer.member "value" value]
    let object := Utf8.encode ('\x7b' :: Writer.separated members ++ ['\x7d'])
    let list := Utf8.encode (Writer.list [Writer.text "i32", value])
    IsLayout "i32" (Utf8.encode value) list ∧ IsValue object ∧
      IsObject (members.map Utf8.encode) object ∧
      IsMember (· = loneHalf) (Utf8.encode (Writer.integer 0)) (Utf8.encode other) ∧
      IsContent loneHalf ∧ (∀ cs, ¬Spells cs loneHalf) ∧
      ofJson list = .ok (.i32 1) ∧ (ofJson object).toOption = none := by
  intro value other members object list
  have hother : IsMember (· = loneHalf) (Utf8.encode (Writer.integer 0)) (Utf8.encode other) :=
    ⟨_, [], [], rfl, areBlank_nil, areBlank_nil, rfl⟩
  have hobject : IsObject (members.map Utf8.encode) object := isObject_separated members
  have hvalue : IsValue object := by
    refine .object hobject (.cons ?_ (.cons (isMember_isContent _ _) (.cons (isMember_isContent _ _)
      .nil))) (List.forall_mem_cons.2 ⟨isValue_integer 0, List.forall_mem_cons.2
        ⟨isValue_json "i32".toList, List.forall_mem_singleton.2 (isValue_integer 1)⟩⟩)
    exact ⟨_, [], [], isContent_loneHalf, areBlank_nil, areBlank_nil, rfl⟩
  exact ⟨isLayout_list "i32" (isValue_integer 1), hvalue, hobject, hother, isContent_loneHalf,
    not_spells_loneHalf, by decide, by decide⟩

end Parameter
end SharedBudget
