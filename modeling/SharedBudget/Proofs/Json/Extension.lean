/-
# A text that goes on

A reader does not know where the text ends before it gets there.  So what it takes
off the front of a text it also takes when more follows, as long as something is
left behind the value: such a reader is *stable* (`Json.Stable`).  A number is read
to the byte after it and may become longer, but a string, a list and an object have
a closing byte: their readers are *sealed* (`Json.Sealed`), and what they have taken
is final even at the very end of the text.

A sequence of stable readers is stable, and it is sealed if its last part is
(`Stable.bind`, `Stable.bind_sealed`).  The readers with fuel get more of it from a
longer text, so both notions compare a reader with one that has at least its fuel.
A document whose reader is sealed can neither be cut short nor be continued, except
by blanks (`Sealed.document_take`, `Sealed.document_append`).
-/

import SharedBudget.Proofs.Json.Scalars

namespace SharedBudget
namespace Json

variable {α β : Type} {r wide : Reader α}

/-- What the reader takes in front of something, the wider one takes in front of more. -/
structure Stable (r wide : Reader α) : Prop where
  /-- Of nothing, nothing is left. -/
  nil : ∀ {x rest}, r [] = .ok (x, rest) → rest = []
  append : ∀ {s x rest}, r s = .ok (x, rest) → rest ≠ [] →
    ∀ more, wide (s ++ more) = .ok (x, rest ++ more)

/-- What the reader takes, the wider one takes in front of more. -/
structure Sealed (r wide : Reader α) : Prop where
  /-- There is a byte to take. -/
  nil : ∀ {p}, r [] ≠ .ok p
  append : ∀ {s x rest}, r s = .ok (x, rest) →
    ∀ more, wide (s ++ more) = .ok (x, rest ++ more)

/-! ## Sequences -/

theorem bind_reader_eq_ok_iff {f : α → Reader β} {s : Bytes} {p : β × Bytes} :
    (r >>= f) s = .ok p ↔ ∃ x t, r s = .ok (x, t) ∧ f x t = .ok p := by
  change (r s >>= fun q => f q.1 q.2) = .ok p ↔ _
  rw [bind_eq_ok_iff]
  constructor
  · rintro ⟨⟨x, t⟩, hr, hf⟩
    exact ⟨x, t, hr, hf⟩
  · rintro ⟨x, t, hr, hf⟩
    exact ⟨(x, t), hr, hf⟩

/-- What is left may be left in front of more. -/
theorem leave_append {x y : α} {s rest : Bytes}
    (h : (Except.ok (x, s) : Except Fault (α × Bytes)) = .ok (y, rest)) (more : Bytes) :
    (Except.ok (x, s ++ more) : Except Fault (α × Bytes)) = .ok (y, rest ++ more) := by
  obtain ⟨rfl, rfl⟩ := Prod.ext_iff.1 (Except.ok.inj h)
  rfl

theorem rest_of_ok {x y : α} {s rest : Bytes}
    (h : (Except.ok (x, s) : Except Fault (α × Bytes)) = .ok (y, rest)) : rest = s :=
  (Prod.ext_iff.1 (Except.ok.inj h)).2.symm

theorem Sealed.stable (h : Sealed r wide) : Stable r wide where
  nil hnil := absurd hnil h.nil
  append hs _ more := h.append hs more

theorem stable_pure (x : α) : Stable (pure x : Reader α) (pure x) where
  nil hnil := rest_of_ok hnil
  append hs _ more := leave_append hs more

/-- A reader that always fails. -/
theorem sealed_of_fails (h : ∀ s p, r s ≠ .ok p) : Sealed r wide where
  nil := h _ _
  append hs := absurd hs (h _ _)

/-- A reader that only stops. -/
theorem sealed_stop (cause : Cause) : Sealed (stop cause) wide :=
  sealed_of_fails fun _ _ => nofun

section Bind

variable {f g : α → Reader β}

/-- **A sequence of stable readers is stable.**  If the second one leaves something, the first
one has left something for it. -/
theorem Stable.bind (h : Stable r wide) (hf : ∀ x, Stable (f x) (g x)) :
    Stable (r >>= f) (wide >>= g) where
  nil hnil := by
    obtain ⟨x, t, hx, hfx⟩ := bind_reader_eq_ok_iff.1 hnil
    obtain rfl := h.nil hx
    exact (hf x).nil hfx
  append hs hrest more := by
    obtain ⟨x, t, hx, hfx⟩ := bind_reader_eq_ok_iff.1 hs
    have ht : t ≠ [] := by
      rintro rfl
      exact hrest ((hf x).nil hfx)
    rw [bind_reader (h.append hx ht more), (hf x).append hfx hrest more]

/-- **A sequence is sealed by its last part.** -/
theorem Stable.bind_sealed (h : Stable r wide) (hf : ∀ x, Sealed (f x) (g x)) :
    Sealed (r >>= f) (wide >>= g) where
  nil hnil := by
    obtain ⟨x, t, hx, hfx⟩ := bind_reader_eq_ok_iff.1 hnil
    obtain rfl := h.nil hx
    exact (hf x).nil hfx
  append hs more := by
    obtain ⟨x, t, hx, hfx⟩ := bind_reader_eq_ok_iff.1 hs
    have ht : t ≠ [] := by
      rintro rfl
      exact (hf x).nil hfx
    rw [bind_reader (h.append hx ht more), (hf x).append hfx more]

/-- What is taken stays sealed if it is only looked at. -/
theorem Sealed.bind (h : Sealed r wide)
    (hf : ∀ {x s y rest}, f x s = .ok (y, rest) → ∀ more, g x (s ++ more) = .ok (y, rest ++ more)) :
    Sealed (r >>= f) (wide >>= g) where
  nil hnil := by
    obtain ⟨x, t, hx, -⟩ := bind_reader_eq_ok_iff.1 hnil
    exact h.nil hx
  append hs more := by
    obtain ⟨x, t, hx, hfx⟩ := bind_reader_eq_ok_iff.1 hs
    rw [bind_reader (h.append hx more), hf hfx more]

theorem Stable.map (h : Stable r wide) (f : α → β) : Stable (f <$> r) (f <$> wide) := by
  rw [← bind_pure_comp, ← bind_pure_comp]
  exact h.bind fun x => stable_pure (f x)

theorem Sealed.map (h : Sealed r wide) (f : α → β) : Sealed (f <$> r) (f <$> wide) := by
  rw [← bind_pure_comp, ← bind_pure_comp]
  exact h.bind fun hs more => leave_append hs more

end Bind

/-! ## The next byte -/

theorem skipBlanks_append {s t : Bytes} {b : UInt8} (h : skipBlanks s = b :: t) (more : Bytes) :
    skipBlanks (s ++ more) = b :: (t ++ more) := by
  unfold skipBlanks at h ⊢
  rw [List.dropWhile_append, h]
  rfl

section ByNext

variable {empty : Cause} {k wideK : UInt8 → Reader α}

/-- A reader that goes by the next byte is stable if it is so for every byte. -/
theorem stable_byNext (h : ∀ {b s x rest}, k b s = .ok (x, rest) → rest ≠ [] →
      ∀ more, wideK b (s ++ more) = .ok (x, rest ++ more)) :
    Stable (fun s => match skipBlanks s with | [] => stop empty [] | b :: t => k b t)
      (fun s => match skipBlanks s with | [] => stop empty [] | b :: t => wideK b t) where
  nil := nofun
  append {s x rest} hs hrest more := by
    cases hblanks : skipBlanks s with
    | nil =>
      rw [hblanks] at hs
      cases hs
    | cons b t =>
      rw [hblanks] at hs
      rw [skipBlanks_append hblanks more]
      exact h hs hrest more

/-- A reader that goes by the next byte is sealed if it is so for every byte. -/
theorem sealed_byNext (h : ∀ {b s x rest}, k b s = .ok (x, rest) →
      ∀ more, wideK b (s ++ more) = .ok (x, rest ++ more)) :
    Sealed (fun s => match skipBlanks s with | [] => stop empty [] | b :: t => k b t)
      (fun s => match skipBlanks s with | [] => stop empty [] | b :: t => wideK b t) where
  nil := nofun
  append {s x rest} hs more := by
    cases hblanks : skipBlanks s with
    | nil =>
      rw [hblanks] at hs
      cases hs
    | cons b t =>
      rw [hblanks] at hs
      rw [skipBlanks_append hblanks more]
      exact h hs more

end ByNext

theorem stable_anotherItem (first : Bool) : Stable (anotherItem first) (anotherItem first) := by
  unfold anotherItem
  refine stable_byNext fun {b s x rest} hs hrest more => ?_
  split_ifs at hs ⊢
  · exact leave_append hs more
  · exact leave_append hs more
  · refine (sealed_byNext fun {b s x rest} hs more => ?_).append hs more
    split_ifs at hs ⊢
    · cases hs
    · exact leave_append hs more
  · cases hs

theorem stable_anotherMember (first : Bool) :
    Stable (anotherMember first) (anotherMember first) := by
  unfold anotherMember
  refine stable_byNext fun {b s x rest} hs hrest more => ?_
  split_ifs at hs ⊢
  · exact leave_append hs more
  · exact leave_append hs more
  · cases hs
  · refine (sealed_byNext fun {b s x rest} hs more => ?_).append hs more
    split_ifs at hs ⊢
    · exact leave_append hs more
    · cases hs
    · cases hs
  · cases hs

theorem sealed_separator : Sealed separator separator := by
  unfold separator
  refine sealed_byNext fun {b s x rest} hs more => ?_
  split_ifs at hs ⊢
  · exact leave_append hs more
  · cases hs

theorem sealed_endList : Sealed endList endList := by
  unfold endList
  refine sealed_byNext fun {b s x rest} hs more => ?_
  split_ifs at hs ⊢
  · exact leave_append hs more
  · dsimp only at hs
    split_ifs at hs <;> cases hs
  · cases hs

theorem sealed_endObject : Sealed endObject endObject := by
  unfold endObject
  refine sealed_byNext fun {b s x rest} hs more => ?_
  split_ifs at hs ⊢
  · exact leave_append hs more
  · cases hs
  · cases hs

/-! ## Words and strings -/

theorem stable_letters (word : Bytes) : Stable (letters word) (letters word) := by
  induction word with
  | nil => exact stable_pure ()
  | cons expected word ih =>
    constructor
    · nofun
    · rintro (_ | ⟨b, s⟩) x rest hs hrest more
      · cases hs
      · unfold letters at hs ⊢
        simp only [List.cons_append] at hs ⊢
        split_ifs at hs ⊢
        · exact ih.append hs hrest more
        · cases hs

theorem stable_word (tail : Bytes) (found : Found) :
    Stable (word tail found) (word tail found) :=
  (stable_letters tail).bind fun _ => stable_pure found

theorem onto_eq_ok_iff {front content rest : Bytes} {r : Except Fault (Bytes × Bytes)} :
    onto front r = .ok (content, rest) ↔ ∃ c, r = .ok (c, rest) ∧ front ++ c = content := by
  rcases r with fault | ⟨c, t⟩
  · exact ⟨nofun, nofun⟩
  · simp only [onto, Except.map, Except.ok.injEq, Prod.mk.injEq]
    constructor
    · rintro ⟨rfl, rfl⟩
      exact ⟨c, ⟨rfl, rfl⟩, rfl⟩
    · rintro ⟨c', ⟨rfl, rfl⟩, rfl⟩
      exact ⟨rfl, rfl⟩

theorem sealed_contentFrom (p : Place) : Sealed (contentFrom p) (contentFrom p) := by
  constructor
  · intro x h
    cases h
  · intro s
    induction s generalizing p with
    | nil =>
      intro content rest hs
      cases hs
    | cons b s ih =>
      intro content rest hs more
      unfold contentFrom at hs ⊢
      simp only [List.cons_append] at hs ⊢
      cases hmove : p.move b with
      | close =>
        rw [hmove] at hs
        exact leave_append hs more
      | go front next =>
        rw [hmove] at hs
        obtain ⟨c, hc, hfront⟩ := onto_eq_ok_iff.1 hs
        exact onto_eq_ok_iff.2 ⟨c, ih next hc more, hfront⟩
      | fault cause =>
        rw [hmove] at hs
        cases hs

/-- **A string ends at its closing quote.** -/
theorem sealed_string : Sealed string string := by
  constructor
  · nofun
  · intro s text rest hs more
    unfold string at hs ⊢
    obtain ⟨⟨content, t⟩, hcontent, hs⟩ := bind_eq_ok_iff.1 hs
    rw [(sealed_contentFrom .plain).append hcontent more, ok_bind]
    cases htext : Utf8.toString? content with
    | none =>
      simp only [htext] at hs
      cases hs
    | some text =>
      simp only [htext] at hs ⊢
      exact leave_append hs more

/-- The name of a member is a string after its opening quote. -/
theorem sealed_memberName : Sealed memberName memberName := by
  constructor
  · nofun
  · rintro (_ | ⟨b, s⟩) name rest hs more
    · cases hs
    · exact sealed_string.append hs more

/-! ## Numbers -/

section Numbers

variable {negative : Bool}

/-- What is behind a row of digits. -/
theorem drop_row (p : UInt8 → Bool) (s : Bytes) :
    s.drop (s.takeWhile p).length = s.dropWhile p :=
  calc s.drop (s.takeWhile p).length
    _ = (s.takeWhile p ++ s.dropWhile p).drop (s.takeWhile p).length := by
      rw [List.takeWhile_append_dropWhile]
    _ = s.dropWhile p := List.drop_left

/-- A row of digits that ends before the text does is the same row in a longer text. -/
theorem row_append {p : UInt8 → Bool} {s : Bytes} (h : s.dropWhile p ≠ []) (more : Bytes) :
    (s ++ more).takeWhile p = s.takeWhile p ∧
      (s ++ more).dropWhile p = s.dropWhile p ++ more := by
  induction s with
  | nil => exact absurd rfl h
  | cons b s ih =>
    by_cases hb : p b
    · rw [List.dropWhile_cons_of_pos hb] at h
      obtain ⟨htake, hdrop⟩ := ih h
      simp only [List.cons_append, List.takeWhile_cons_of_pos hb, List.dropWhile_cons_of_pos hb,
        htake, hdrop, and_self]
    · simp only [List.cons_append, List.takeWhile_cons_of_neg hb, List.dropWhile_cons_of_neg hb,
        and_self]

theorem float_append {l : Decimal.Literal} {s rest : Bytes} {x : Number}
    (h : float l s = .ok (x, rest)) (more : Bytes) :
    float l (s ++ more) = .ok (x, rest ++ more) := by
  unfold float at h ⊢
  split at h
  · exact leave_append h more
  · cases h

theorem rest_of_float {l : Decimal.Literal} {s rest : Bytes} {x : Number}
    (h : float l s = .ok (x, rest)) : rest = s := by
  unfold float at h
  split at h
  · exact rest_of_ok h
  · cases h

theorem head?_append {s : Bytes} (h : s ≠ []) (more : Bytes) : (s ++ more).head? = s.head? := by
  obtain ⟨b, t, rfl⟩ := List.exists_cons_of_ne_nil h
  rfl

/-- What comes after a sign, if there is one. -/
theorem unsigned_append {s : Bytes} (h : s ≠ []) (more : Bytes) :
    (if (s ++ more).head? = some plus ∨ (s ++ more).head? = some minus then (s ++ more).tail
      else s ++ more) =
    (if s.head? = some plus ∨ s.head? = some minus then s.tail else s) ++ more := by
  rw [head?_append h, List.tail_append_of_ne_nil h]
  split_ifs <;> rfl

theorem stable_exponentPart (significand : ℕ) (exponent : ℤ) :
    Stable (exponentPart negative significand exponent)
      (exponentPart negative significand exponent) := by
  constructor
  · nofun
  · intro s x rest hs hrest more
    have hne : s ≠ [] := by
      rintro rfl
      cases hs
    unfold exponentPart at hs ⊢
    dsimp only at hs ⊢
    rw [unsigned_append hne, head?_append hne]
    generalize (if s.head? = some plus ∨ s.head? = some minus then s.tail else s) = t at hs ⊢
    rcases t with _ | ⟨b, t⟩
    · cases hs
    · simp only [List.cons_append, drop_row] at hs ⊢
      have hrow : (b :: t).dropWhile isDigit ≠ [] := by
        intro hnil
        simp only [hnil] at hs
        split_ifs at hs
        · exact hrest (rest_of_float hs)
        · exact hrest (rest_of_float hs)
        · exact hrest (rest_of_float hs)
        · cases hs
        · cases hs
      obtain ⟨htake, hdrop⟩ := row_append hrow more
      rw [List.cons_append] at htake hdrop
      rw [htake, hdrop]
      split_ifs at hs ⊢
      · exact float_append hs more
      · exact float_append hs more
      · exact float_append hs more
      · cases hs
      · cases hs

theorem stable_afterDigits (significand : ℕ) (exponent : ℤ) :
    Stable (afterDigits negative significand exponent)
      (afterDigits negative significand exponent) := by
  constructor
  · intro x rest hs
    exact rest_of_float hs
  · intro s x rest hs hrest more
    rcases s with _ | ⟨b, s⟩
    · exact absurd (rest_of_float hs) hrest
    · have hbegins : beginsExponent (b :: s ++ more) = beginsExponent (b :: s) := rfl
      unfold afterDigits at hs ⊢
      rw [hbegins]
      split_ifs at hs ⊢
      · exact (stable_exponentPart significand exponent).append hs hrest more
      · exact float_append hs more

theorem stable_fractionPart (significand : ℕ) (exponent : ℤ) :
    Stable (fractionPart negative significand exponent)
      (fractionPart negative significand exponent) := by
  constructor
  · nofun
  · intro s x rest hs hrest more
    unfold fractionPart at hs ⊢
    simp only [drop_row] at hs ⊢
    split_ifs at hs with hempty
    · cases hs
    · cases hs
    · have hrow : s.dropWhile isDigit ≠ [] := by
        intro hnil
        rw [hnil] at hs
        exact hrest ((stable_afterDigits _ _).nil hs)
      obtain ⟨htake, hdrop⟩ := row_append hrow more
      rw [htake, hdrop, if_neg hempty]
      exact (stable_afterDigits _ _).append hs hrest more

/-- **A number ends before the next byte,** so there has to be one. -/
theorem stable_number (negative : Bool) : Stable (number negative) (number negative) := by
  constructor
  · nofun
  · rintro (_ | ⟨b, t⟩) x rest hs hrest more
    · cases hs
    · unfold number at hs ⊢
      simp only [List.cons_append, drop_row] at hs ⊢
      have hrow : (b :: t).dropWhile isDigit ≠ [] := by
        intro hnil
        simp only [hnil, List.head?_nil, reduceCtorEq, if_false] at hs
        split_ifs at hs
        · cases hs
        · exact hrest (rest_of_ok hs)
        · exact hrest ((stable_afterDigits _ _).nil hs)
        · cases hs
      obtain ⟨htake, hdrop⟩ := row_append hrow more
      obtain ⟨c, u, hu⟩ := List.exists_cons_of_ne_nil hrow
      have hbegins : beginsExponent (c :: (u ++ more)) = beginsExponent (c :: u) := rfl
      rw [List.cons_append] at htake hdrop
      simp only [htake, hdrop, hu, List.cons_append, List.head?_cons, List.tail_cons,
        hbegins] at hs ⊢
      split_ifs at hs ⊢
      · cases hs
      · exact (stable_fractionPart _ _).append hs hrest more
      · exact leave_append hs more
      · exact (stable_afterDigits _ _).append hs hrest more
      · cases hs

end Numbers

/-- What stands at the place of a value is found again in a longer text. -/
theorem stable_scalar : Stable scalar scalar := by
  unfold scalar
  refine stable_byNext fun {b s x rest} hs hrest more => ?_
  split_ifs at hs ⊢
  · exact (sealed_string.map Found.text).append hs more
  · exact ((stable_number true).map Number.found).append hs hrest more
  · exact ((stable_number false).map Number.found).append hs hrest more
  · exact (stable_word nullTail _).append hs hrest more
  · exact (stable_word trueTail _).append hs hrest more
  · exact (stable_word falseTail _).append hs hrest more
  · exact leave_append hs more
  · exact leave_append hs more
  · cases hs

/-! ## Values that nobody reads -/

theorem sealed_skipContent (p : Place) : Sealed (skipContent p) (skipContent p) := by
  constructor
  · unfold skipContent
    nofun
  · intro s
    induction s generalizing p with
    | nil =>
      unfold skipContent
      nofun
    | cons b s ih =>
      intro content rest hs more
      unfold skipContent at hs ⊢
      simp only [List.cons_append] at hs ⊢
      split at hs
      · exact leave_append hs more
      · exact ih _ hs more
      · exact ih _ hs more
      · exact ih _ hs more
      · cases hs
      · cases hs

theorem stable_skipExponent : Stable skipExponent skipExponent := by
  constructor
  · nofun
  · intro s x rest hs hrest more
    have hne : s ≠ [] := by
      rintro rfl
      cases hs
    unfold skipExponent at hs ⊢
    rw [unsigned_append hne]
    generalize (if s.head? = some plus ∨ s.head? = some minus then s.tail else s) = t at hs ⊢
    rcases t with _ | ⟨b, t⟩
    · cases hs
    · simp only [List.cons_append] at hs ⊢
      split_ifs at hs ⊢
      · obtain rfl := rest_of_ok hs
        rw [(row_append hrest more).2]
      · cases hs

theorem stable_skipAfterDigits : Stable skipAfterDigits skipAfterDigits := by
  constructor
  · intro x rest hs
    exact rest_of_ok hs
  · intro s x rest hs hrest more
    rcases s with _ | ⟨b, s⟩
    · exact absurd (rest_of_ok hs) hrest
    · have hbegins : beginsExponent (b :: s ++ more) = beginsExponent (b :: s) := rfl
      unfold skipAfterDigits at hs ⊢
      rw [hbegins]
      split_ifs at hs ⊢
      · exact stable_skipExponent.append hs hrest more
      · exact leave_append hs more

theorem stable_skipNumber : Stable skipNumber skipNumber := by
  constructor
  · nofun
  · rintro (_ | ⟨b, t⟩) x rest hs hrest more
    · cases hs
    · unfold skipNumber at hs ⊢
      simp only [List.cons_append, drop_row] at hs ⊢
      have hrow : (b :: t).dropWhile isDigit ≠ [] := by
        intro hnil
        simp only [hnil, List.head?_nil, reduceCtorEq, if_false] at hs
        split_ifs at hs
        · cases hs
        · exact hrest (stable_skipAfterDigits.nil hs)
        · cases hs
      obtain ⟨htake, hdrop⟩ := row_append hrow more
      obtain ⟨c, u, hu⟩ := List.exists_cons_of_ne_nil hrow
      rw [List.cons_append] at htake hdrop
      simp only [htake, hdrop, hu, List.cons_append, List.head?_cons, List.tail_cons] at hs ⊢
      split_ifs at hs with hdigit hzero hpoint hempty
      · cases hs
      · cases hs
      · have hfraction : u.dropWhile isDigit ≠ [] := by
          intro hnil
          rw [hnil] at hs
          exact hrest (stable_skipAfterDigits.nil hs)
        obtain ⟨htake, hdrop⟩ := row_append hfraction more
        rw [if_pos hdigit, if_neg hzero, if_pos hpoint, htake, hdrop, if_neg hempty]
        exact stable_skipAfterDigits.append hs hrest more
      · rw [if_pos hdigit, if_neg hzero, if_neg hpoint]
        exact stable_skipAfterDigits.append hs hrest more
      · cases hs

section Skip

variable {fuel fuel' : ℕ}

theorem skipItems_succ (item : Reader Unit) (fuel : ℕ) : skipItems item (fuel + 1) =
    item >>= fun _ s => match skipBlanks s with
      | [] => stop .endOfList []
      | b :: rest =>
        if b = closeList then .ok ((), rest)
        else if b = comma then skipItems item fuel rest
        else stopAt .expectedListSeparator (b :: rest) := rfl

theorem sealed_skipItems {item wideItem : Reader Unit} (h : Stable item wideItem)
    (hfuel : fuel ≤ fuel') : Sealed (skipItems item fuel) (skipItems wideItem fuel') := by
  induction fuel generalizing fuel' with
  | zero => exact sealed_stop .endOfList
  | succ fuel ih =>
    obtain ⟨fuel', rfl⟩ := Nat.exists_eq_add_one_of_ne_zero (Nat.ne_zero_of_lt hfuel)
    rw [skipItems_succ, skipItems_succ]
    refine h.bind_sealed fun _ => sealed_byNext fun {b s x rest} hs more => ?_
    split_ifs at hs ⊢
    · exact leave_append hs more
    · exact (ih (Nat.le_of_succ_le_succ hfuel)).append hs more
    · cases hs

theorem skipMembers_succ (value : Reader Unit) (fuel : ℕ) : skipMembers value (fuel + 1) =
    fun s => match skipBlanks s with
      | [] => stop .endOfObject []
      | b :: rest =>
        if b = quote then
          (skipString >>= fun _ => separator >>= fun _ => value >>= fun _ s =>
            match skipBlanks s with
            | [] => stop .endOfObject []
            | b :: rest =>
              if b = closeObject then .ok ((), rest)
              else if b = comma then skipMembers value fuel rest
              else stopAt .expectedObjectSeparator (b :: rest)) rest
        else stopAt .keyNotString (b :: rest) := rfl

theorem sealed_skipMembers {value wideValue : Reader Unit} (h : Stable value wideValue)
    (hfuel : fuel ≤ fuel') : Sealed (skipMembers value fuel) (skipMembers wideValue fuel') := by
  induction fuel generalizing fuel' with
  | zero => exact sealed_stop .endOfObject
  | succ fuel ih =>
    obtain ⟨fuel', rfl⟩ := Nat.exists_eq_add_one_of_ne_zero (Nat.ne_zero_of_lt hfuel)
    rw [skipMembers_succ, skipMembers_succ]
    refine sealed_byNext fun {b s x rest} hs more => ?_
    split_ifs at hs ⊢
    · refine Sealed.append ?_ hs more
      refine (sealed_skipContent .plain).stable.bind_sealed fun _ =>
        sealed_separator.stable.bind_sealed fun _ => h.bind_sealed fun _ =>
          sealed_byNext fun {b s x rest} hs more => ?_
      split_ifs at hs ⊢
      · exact leave_append hs more
      · exact (ih (Nat.le_of_succ_le_succ hfuel)).append hs more
      · cases hs
    · cases hs

theorem sealed_skipList {items wideItems : Reader Unit} (h : Sealed items wideItems) :
    Sealed (skipList items) (skipList wideItems) := by
  unfold skipList
  refine sealed_byNext fun {b s x rest} hs more => ?_
  split_ifs at hs ⊢
  · exact leave_append hs more
  · exact h.append hs more

theorem sealed_skipObject {members wideMembers : Reader Unit} (h : Sealed members wideMembers) :
    Sealed (skipObject members) (skipObject wideMembers) := by
  unfold skipObject
  refine sealed_byNext fun {b s x rest} hs more => ?_
  split_ifs at hs ⊢
  · exact leave_append hs more
  · exact h.append hs more

theorem stable_skipValue (hfuel : fuel ≤ fuel') :
    Stable (skipValue fuel) (skipValue fuel') := by
  induction fuel generalizing fuel' with
  | zero =>
    rw [skipValue]
    exact (sealed_stop .endOfValue).stable
  | succ fuel ih =>
    obtain ⟨fuel', rfl⟩ := Nat.exists_eq_add_one_of_ne_zero (Nat.ne_zero_of_lt hfuel)
    have hvalue : Stable (skipValue fuel) (skipValue fuel') := ih (Nat.le_of_succ_le_succ hfuel)
    unfold skipValue
    refine stable_byNext fun {b s x rest} hs hrest more => ?_
    split_ifs at hs ⊢
    · exact (sealed_skipContent .plain).append hs more
    · exact stable_skipNumber.append hs hrest more
    · exact stable_skipNumber.append hs hrest more
    · exact (stable_letters nullTail).append hs hrest more
    · exact (stable_letters trueTail).append hs hrest more
    · exact (stable_letters falseTail).append hs hrest more
    · exact (sealed_skipList (sealed_skipItems hvalue hfuel)).append hs more
    · exact (sealed_skipObject (sealed_skipMembers hvalue hfuel)).append hs more
    · cases hs

end Skip

/-- A value that is skipped may be nested deeper, and have more items, in a longer text. -/
theorem stable_skip : Stable skip skip where
  nil := (stable_skipValue le_rfl).nil
  append hs hrest more :=
    (stable_skipValue (Nat.succ_le_succ (List.length_append ▸ Nat.le_add_right ..))).append hs
      hrest more

end Json
end SharedBudget
