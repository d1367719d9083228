/-
# Documents that were cut short, or that go on

A list and an object end at their closing byte, so their readers are sealed as soon
as those of the items and the fields are stable (`sealed_listOf`, `Record.sealed_read`).
-/

import Mathlib.Data.List.TakeWhile
import SharedBudget.Proofs.Json.Extension
import SharedBudget.Proofs.Json.Records

namespace SharedBudget
namespace Json

variable {α β δ : Type}

/-! ## Typed scalars -/

/-- Reads on with `next` if something was accepted; otherwise stops at the bytes that `leave`
gives. -/
def settle (next : α → Reader β) (leave : Bytes → Bytes) : Except Cause α → Reader β
  | .ok x => next x
  | .error cause => fun s => stop cause (leave s)

theorem stable_accepting (accept : Found → Except Cause α) :
    Stable (accepting accept) (accepting accept) := by
  have heq : accepting accept = scalar >>= fun found => settle pure id (accept found) := by
    funext s
    refine bind_congr fun p => ?_
    obtain ⟨found, t⟩ := p
    dsimp only
    cases accept found <;> rfl
  rw [heq]
  refine stable_scalar.bind fun found => ?_
  cases accept found with
  | ok x => exact stable_pure x
  | error cause => exact (sealed_stop cause).stable

/-- What is refused for its type is always refused. -/
theorem refuses_type (expected : String) (s : Bytes) (p : α × Bytes) :
    accepting (refuseType expected) s ≠ .ok p := by
  unfold accepting
  intro h
  obtain ⟨⟨found, t⟩, -, ht⟩ := bind_eq_ok_iff.1 h
  cases ht

/-! ## Lists -/

section Items

variable {item wideItem : Reader α} {fuel fuel' : ℕ}

theorem stable_items (h : Stable item wideItem) (hfuel : fuel ≤ fuel') (first : Bool) :
    Stable (items item fuel first) (items wideItem fuel' first) := by
  induction fuel generalizing fuel' first with
  | zero => exact (sealed_stop .endOfList).stable
  | succ fuel ih =>
    obtain ⟨fuel', rfl⟩ := Nat.exists_eq_add_one_of_ne_zero (Nat.ne_zero_of_lt hfuel)
    unfold items
    refine (stable_anotherItem first).bind fun another => ?_
    split_ifs
    · exact h.bind fun x => (ih (Nat.le_of_succ_le_succ hfuel) false).bind fun xs => stable_pure _
    · exact stable_pure []

/-- **A list ends at its closing bracket.** -/
theorem sealed_list (h : Stable item wideItem) : Sealed (list item) (list wideItem) := by
  have hlist {fuel fuel' : ℕ} (hfuel : fuel ≤ fuel') :
      Sealed (items item fuel true >>= fun xs => endList >>= fun _ => pure xs)
        (items wideItem fuel' true >>= fun xs => endList >>= fun _ => pure xs) :=
    (stable_items h hfuel true).bind_sealed fun xs =>
      sealed_endList.bind fun hs more => leave_append hs more
  constructor
  · exact (hlist le_rfl).nil
  · intro s x rest hs more
    exact (hlist (Nat.succ_le_succ (List.length_append ▸ Nat.le_add_right ..))).append hs more

end Items

theorem sealed_enter {depth : ℕ} {inside wideInside : ℕ → Reader α}
    (h : ∀ depth, Sealed (inside depth) (wideInside depth)) :
    Sealed (enter depth inside) (enter depth wideInside) := by
  cases depth with
  | zero => exact sealed_of_fails fun _ _ => nofun
  | succ depth =>
    constructor
    · intro p
      exact (h depth).nil
    · rintro (_ | ⟨b, s⟩) x rest hs more
      · exact absurd hs (h depth).nil
      · exact (h depth).append hs more

theorem sealed_listOf {item : ℕ → Reader α} (h : ∀ depth, Stable (item depth) (item depth))
    (depth : ℕ) : Sealed (listOf item depth) (listOf item depth) := by
  constructor
  · intro p
    exact refuses_type "a sequence" [] p
  · intro s x rest hs more
    unfold listOf at hs ⊢
    dsimp only at hs ⊢
    cases hblanks : skipBlanks s with
    | nil =>
      simp only [hblanks, List.head?_nil, reduceCtorEq, if_false] at hs
      exact absurd hs (refuses_type _ _ _)
    | cons b t =>
      simp only [hblanks, skipBlanks_append hblanks, List.head?_cons] at hs ⊢
      split_ifs at hs ⊢
      · exact (sealed_enter fun depth => sealed_list (h depth)).append hs more
      · exact absurd hs (refuses_type _ _ _)

/-! ## Records -/

section Closing

variable {inside wideInside : Reader (Except Cause α)}

/-- What is read up to a sealed end. -/
theorem Stable.settle_sealed {finish : Reader Unit} (h : Stable inside wideInside)
    (hfinish : Sealed finish finish) (leave : Bytes → Bytes) :
    Sealed (inside >>= settle (fun x => finish >>= fun _ => pure x) leave)
      (wideInside >>= settle (fun x => finish >>= fun _ => pure x) leave) := by
  refine h.bind_sealed fun x => ?_
  cases x with
  | ok x => exact hfinish.bind fun hs more => leave_append hs more
  | error cause =>
    refine sealed_of_fails fun s p hs => ?_
    cases hs

theorem sealed_closingObject (h : Stable inside wideInside) :
    Sealed (closingObject inside) (closingObject wideInside) := by
  have heq (inside : Reader (Except Cause α)) : closingObject inside =
      inside >>= settle (fun x => endObject >>= fun _ => pure x) leaveObject := by
    funext s
    refine bind_congr fun p => ?_
    obtain ⟨x, t⟩ := p
    cases x <;> rfl
  rw [heq, heq]
  exact h.settle_sealed sealed_endObject leaveObject

theorem sealed_closingList (h : Stable inside wideInside) :
    Sealed (closingList inside) (closingList wideInside) := by
  have heq (inside : Reader (Except Cause α)) : closingList inside =
      inside >>= settle (fun x => endList >>= fun _ => pure x) leaveList := by
    funext s
    refine bind_congr fun p => ?_
    obtain ⟨x, t⟩ := p
    cases x <;> rfl
  rw [heq, heq]
  exact h.settle_sealed sealed_endList leaveList

end Closing

theorem sealed_objectOrList {object list : ℕ → Reader α} (expected : String) (depth : ℕ)
    (hobject : ∀ depth, Sealed (object depth) (object depth))
    (hlist : ∀ depth, Sealed (list depth) (list depth)) :
    Sealed (objectOrList expected depth object list) (objectOrList expected depth object list) := by
  constructor
  · intro p
    exact refuses_type expected [] p
  · intro s x rest hs more
    unfold objectOrList at hs ⊢
    dsimp only at hs ⊢
    cases hblanks : skipBlanks s with
    | nil =>
      simp only [hblanks, List.head?_nil, reduceCtorEq, if_false] at hs
      exact absurd hs (refuses_type _ _ _)
    | cons b t =>
      simp only [hblanks, skipBlanks_append hblanks, List.head?_cons] at hs ⊢
      split_ifs at hs ⊢
      · exact (sealed_enter hobject).append hs more
      · exact (sealed_enter hlist).append hs more
      · exact absurd hs (refuses_type _ _ _)

namespace Record

variable {r : Record δ α} {depth fuel fuel' : ℕ}

/-- The values of all fields are read without looking at the end of the text. -/
def IsStable (r : Record δ α) : Prop :=
  ∀ f ∈ r.fields, ∀ depth d, Stable (f.read depth d) (f.read depth d)

theorem IsStable.readMembers (h : r.IsStable) (hfuel : fuel ≤ fuel') (first : Bool) (d : δ) :
    Stable (r.readMembers depth fuel first d) (r.readMembers depth fuel' first d) := by
  induction fuel generalizing fuel' first d with
  | zero => exact (sealed_stop .endOfObject).stable
  | succ fuel ih =>
    obtain ⟨fuel', rfl⟩ := Nat.exists_eq_add_one_of_ne_zero (Nat.ne_zero_of_lt hfuel)
    unfold Record.readMembers
    refine (stable_anotherMember first).bind fun another => ?_
    split_ifs
    · refine sealed_memberName.stable.bind fun name => ?_
      cases hfind : r.fields.find? (·.name = name) with
      | none =>
        exact sealed_separator.stable.bind fun _ => stable_skip.bind fun _ =>
          ih (Nat.le_of_succ_le_succ hfuel) false d
      | some f =>
        have hf : f ∈ r.fields := List.mem_of_find?_eq_some hfind
        dsimp only
        split_ifs
        · exact stable_pure _
        · refine sealed_separator.stable.bind fun _ => (h f hf depth d).bind fun read => ?_
          cases read with
          | ok d => exact ih (Nat.le_of_succ_le_succ hfuel) false d
          | error cause => exact stable_pure _
    · exact stable_pure _

theorem stable_readItems {fields : List (Field δ)}
    (h : ∀ f ∈ fields, ∀ depth d, Stable (f.read depth d) (f.read depth d)) (index : ℕ)
    (first : Bool) (d : δ) :
    Stable (r.readItems depth fields index first d) (r.readItems depth fields index first d) := by
  induction fields generalizing index first d with
  | nil => exact stable_pure _
  | cons f fields ih =>
    obtain ⟨hf, hfields⟩ := List.forall_mem_cons.1 h
    unfold Record.readItems
    refine (stable_anotherItem first).bind fun another => ?_
    split_ifs
    · refine (hf depth d).bind fun read => ?_
      cases read with
      | ok d => exact ih hfields (index + 1) false d
      | error cause => exact stable_pure _
    · exact ih hfields (index + 1) first d
    · exact stable_pure _

/-- **A record ends at its closing byte** if the values of its fields are read without looking at
the end of the text. -/
theorem IsStable.sealed_read (h : r.IsStable) (depth : ℕ) :
    Sealed (r.read depth) (r.read depth) := by
  have hobject {depth fuel fuel' : ℕ} (hfuel : fuel ≤ fuel') :
      Sealed (closingObject ((·.bind r.finish) <$> r.readMembers depth fuel true r.draft))
        (closingObject ((·.bind r.finish) <$> r.readMembers depth fuel' true r.draft)) :=
    sealed_closingObject ((h.readMembers hfuel true r.draft).map _)
  refine sealed_objectOrList _ depth (fun depth => ?_) fun depth => ?_
  · constructor
    · exact (hobject le_rfl).nil
    · intro s x rest hs more
      exact (hobject (Nat.succ_le_succ (List.length_append ▸ Nat.le_add_right ..))).append hs more
  · exact sealed_closingList ((stable_readItems h 0 true r.draft).map _)

end Record

theorem stable_field {name : String} {get : δ → Option β} {set : δ → β → δ}
    {value : ℕ → Reader β} {optional : Bool} (h : ∀ depth, Stable (value depth) (value depth))
    (depth : ℕ) (d : δ) :
    Stable ((field name get set value optional).read depth d)
      ((field name get set value optional).read depth d) :=
  (h depth).bind fun x => stable_pure (Except.ok (set d x))

/-! ## Documents -/

section Documents

variable {r : Reader α} {text more : Bytes} {x : α}

/-- A document is a value with blanks behind it. -/
theorem document_eq_ok_iff : document r text = .ok x ↔
    ∃ rest, r text = .ok (x, rest) ∧ ∀ b ∈ rest, isBlank b := by
  unfold document
  dsimp only
  rw [mapError_eq_ok_iff, bind_eq_ok_iff]
  constructor
  · rintro ⟨⟨y, rest⟩, hread, hrest⟩
    cases hblanks : skipBlanks rest with
    | nil =>
      simp only [hblanks] at hrest
      obtain rfl := Except.ok.inj hrest
      exact ⟨rest, hread, List.dropWhile_eq_nil_iff.1 hblanks⟩
    | cons b t =>
      simp only [hblanks] at hrest
      cases hrest
  · rintro ⟨rest, hread, hblank⟩
    refine ⟨(x, rest), hread, ?_⟩
    have hblanks : skipBlanks rest = [] := List.dropWhile_eq_nil_iff.2 hblank
    simp only [hblanks]

/-- **A document that is cut short is none.**  Whatever is taken of the shorter text is taken of
the whole one, and there all of it is taken. -/
theorem Sealed.document_take (h : Sealed r r) (htext : r text = .ok (x, [])) {n : ℕ}
    (hn : n < text.length) : ∃ e, document r (text.take n) = .error e := by
  cases hshort : document r (text.take n) with
  | error e => exact ⟨e, rfl⟩
  | ok y =>
    obtain ⟨rest, hread, -⟩ := document_eq_ok_iff.1 hshort
    have hwhole := h.append hread (text.drop n)
    rw [List.take_append_drop, htext] at hwhole
    have hnil : rest ++ text.drop n = [] := rest_of_ok hwhole
    have hdrop : text.drop n = [] := (List.append_eq_nil_iff.1 hnil).2
    exact absurd (List.drop_eq_nil_iff.1 hdrop) (not_le.2 hn)

/-- **A document may be followed by blanks,** which say nothing, and by nothing else. -/
theorem Sealed.document_append (h : Sealed r r) (htext : r text = .ok (x, [])) (more : Bytes) :
    document r (text ++ more) = .ok x ∧ (∀ b ∈ more, isBlank b) ∨
      (∃ e, document r (text ++ more) = .error e) ∧ ∃ b ∈ more, ¬isBlank b := by
  have hread : r (text ++ more) = .ok (x, more) := h.append htext more
  by_cases hmore : ∀ b ∈ more, isBlank b
  · exact .inl ⟨document_eq_ok_iff.2 ⟨more, hread, hmore⟩, hmore⟩
  · obtain ⟨b, hb, hnot⟩ : ∃ b ∈ more, ¬isBlank b := by
      simpa only [not_forall, exists_prop] using hmore
    refine .inr ⟨?_, b, hb, hnot⟩
    cases hlong : document r (text ++ more) with
    | error e => exact ⟨e, rfl⟩
    | ok y =>
      obtain ⟨rest, hread', hblank⟩ := document_eq_ok_iff.1 hlong
      rw [hread] at hread'
      obtain rfl := rest_of_ok hread'
      exact absurd (hblank b hb) hnot

end Documents

end Json
end SharedBudget
