/-
# What registrations leave behind

A registry is built by registrations on an empty one (`Registry.ofEntries`).  A
registration is refused exactly if an earlier one has the same identifier, and then it
leaves the registry as it was (`Registry.eq_of_register_error`) and is as if it had never
been made.  So what stands under an identifier is the maker of
its first registration (`Registry.IsFirst`), and the identifiers are listed once each,
in the order of their bytes (`Registry.first_registration_stays`).
-/

import SharedBudget.Registry
import SharedBudget.Proofs.Log.Outcome
import SharedBudget.Proofs.Text.Order
import Mathlib.Data.List.Induction
import Mathlib.Data.List.Nodup

namespace SharedBudget
namespace Registry

variable {α : Type} {r : Registry α} {entry : String × Maker α} {identifier : String}
  {m : Maker α} {entries : List (String × Maker α)}

/-! ## One registration -/

theorem contains_iff : r.contains identifier = true ↔ ∃ e ∈ r.makers, e.1 = identifier := by
  simp [contains]

theorem contains_eq_isSome : r.contains identifier =
    (r.makers.find? (·.1 = identifier)).isSome := by
  rw [List.isSome_find?, contains]

/-- A registration that is refused hands back the registry as it was. -/
theorem value_register_of_contains (h : r.contains identifier = true) :
    (r.register identifier m).value = (r, .error (.duplicateMechanism identifier)) := by
  rw [register, if_pos h, Logged.value_pure]

theorem events_register_of_contains (h : r.contains identifier = true) :
    (r.register identifier m).events = [] := by
  rw [register, if_pos h, Logged.events_pure]

theorem value_register_of_not_contains (h : r.contains identifier = false) :
    (r.register identifier m).value = ({ makers := r.makers ++ [(identifier, m)] }, .ok ()) := by
  rw [register, if_neg (by rw [h]; exact Bool.false_ne_true)]
  rfl

/-- **A registry is changed by no call that fails.** -/
theorem eq_of_register_error {e : Error} (h : (r.register identifier m).value.2 = .error e) :
    (r.register identifier m).value.1 = r := by
  cases hcontains : r.contains identifier with
  | true => rw [value_register_of_contains hcontains]
  | false =>
    rw [value_register_of_not_contains hcontains] at h
    cases h

/-! ## All registrations -/

/-- The registry that registrations build, one after the other, on an empty one. -/
def ofEntries (entries : List (String × Maker α)) : Registry α :=
  entries.foldl (fun r entry => (r.register entry.1 entry.2).value.1) {}

theorem ofEntries_concat (entries : List (String × Maker α)) (entry : String × Maker α) :
    ofEntries (entries ++ [entry]) =
      ((ofEntries entries).register entry.1 entry.2).value.1 := by
  rw [ofEntries, List.foldl_concat]
  rfl

/-- **The first registration stays:** what is found under an identifier is what is found first
among all registrations. -/
theorem find?_ofEntries (entries : List (String × Maker α)) (identifier : String) :
    (ofEntries entries).makers.find? (·.1 = identifier) =
      entries.find? (·.1 = identifier) := by
  induction entries using List.reverseRecOn with
  | nil => rfl
  | append_singleton entries entry ih =>
    rw [ofEntries_concat, List.find?_append]
    cases h : (ofEntries entries).contains entry.1 with
    | false => rw [value_register_of_not_contains h, List.find?_append, ih]
    | true =>
      rw [value_register_of_contains h, ih]
      by_cases hentry : entry.1 = identifier
      · -- The identifier is taken, so something is found before the refused registration.
        rw [contains_eq_isSome, hentry, ih] at h
        rw [Option.or_of_isSome h]
      · simp [hentry]

/-- Every identifier is listed once. -/
theorem nodup_ofEntries (entries : List (String × Maker α)) :
    ((ofEntries entries).makers.map (·.1)).Nodup := by
  induction entries using List.reverseRecOn with
  | nil => exact List.nodup_nil
  | append_singleton entries entry ih =>
    rw [ofEntries_concat]
    cases h : (ofEntries entries).contains entry.1 with
    | true => rwa [value_register_of_contains h]
    | false =>
      have hnew : entry.1 ∉ (ofEntries entries).makers.map (·.1) := by
        intro hmem
        rw [contains_iff.2 (List.mem_map.1 hmem)] at h
        cases h
      rw [value_register_of_not_contains h, List.map_append, List.map_singleton,
        ← List.concat_eq_append]
      exact ih.concat hnew

theorem contains_ofEntries_iff :
    (ofEntries entries).contains identifier = true ↔ ∃ e ∈ entries, e.1 = identifier := by
  rw [contains_eq_isSome, find?_ofEntries]
  simp

/-! ## Makers -/

/-- The first of the registrations with this identifier has this maker. -/
def IsFirst (entries : List (String × Maker α)) (identifier : String) (m : Maker α) : Prop :=
  ∃ before after, entries = before ++ (identifier, m) :: after ∧
    ∀ e ∈ before, e.1 ≠ identifier

theorem maker?_ofEntries_eq_some_iff :
    (ofEntries entries).maker? identifier = some m ↔ IsFirst entries identifier m := by
  rw [maker?, find?_ofEntries, Option.map_eq_some_iff]
  constructor
  · rintro ⟨⟨name, m⟩, hfind, rfl⟩
    obtain ⟨hname, before, after, hentries, hbefore⟩ := List.find?_eq_some_iff_append.1 hfind
    obtain rfl : name = identifier := by simpa using hname
    exact ⟨before, after, hentries, by simpa using hbefore⟩
  · rintro ⟨before, after, hentries, hbefore⟩
    refine ⟨(identifier, m), List.find?_eq_some_iff_append.2 ?_, rfl⟩
    exact ⟨by simp, before, after, hentries, by simpa using hbefore⟩

theorem maker?_ofEntries_eq_none_iff :
    (ofEntries entries).maker? identifier = none ↔ ∀ e ∈ entries, e.1 ≠ identifier := by
  rw [maker?, find?_ofEntries]
  simp

/-- The registry makes the mechanisms with this identifier, fresh or from a blob, as the maker
does. -/
def Uses (r : Registry α) (identifier : String) (m : Maker α) : Prop :=
  ∀ s : MechanismSpec, s.identifier = identifier →
    r.create s = m.create s ∧ ∀ blob, r.restore s blob = m.restore s blob

/-- The registry makes no mechanisms with this identifier, as it is unknown. -/
def Lacks (r : Registry α) (identifier : String) : Prop :=
  ∀ s : MechanismSpec, s.identifier = identifier →
    r.create s = .error (.unknownMechanism identifier) ∧
      ∀ blob, r.restore s blob = .error (.unknownMechanism identifier)

theorem uses_of_maker? (h : r.maker? identifier = some m) : r.Uses identifier m := by
  rintro s rfl
  have hlookup : r.lookup s.identifier = .ok m := by rw [lookup, h]
  refine ⟨?_, fun blob => ?_⟩
  · rw [create, hlookup, ok_bind]
  · rw [restore, hlookup, ok_bind]

theorem lacks_of_maker? (h : r.maker? identifier = none) : r.Lacks identifier := by
  rintro s rfl
  have hlookup : r.lookup s.identifier = .error (.unknownMechanism s.identifier) := by
    rw [lookup, h]
  refine ⟨?_, fun blob => ?_⟩
  · rw [create, hlookup, error_bind]
  · rw [restore, hlookup, error_bind]

/-! ## Identifiers -/

theorem mem_identifiers_iff : identifier ∈ r.identifiers ↔ ∃ e ∈ r.makers, e.1 = identifier := by
  rw [identifiers, (List.mergeSort_perm ..).mem_iff, List.mem_map]

/-- Identifiers that are registered once each are listed in the order of their bytes. -/
theorem pairwise_identifiers (h : (r.makers.map (·.1)).Nodup) :
    r.identifiers.Pairwise fun a b => Utf8.ofString a < Utf8.ofString b := by
  have hordered : r.identifiers.Pairwise fun a b => !decide (b < a) := by
    refine List.pairwise_mergeSort (fun a b c hab hbc => ?_) (fun a b => ?_) _
    · simp only [Bool.not_eq_true', decide_eq_false_iff_not, String.not_lt] at hab hbc ⊢
      exact String.le_trans hab hbc
    · simp only [Bool.or_eq_true, Bool.not_eq_true', decide_eq_false_iff_not, String.not_lt]
      exact String.le_total a b
  have hnodup : r.identifiers.Nodup := (List.mergeSort_perm ..).nodup_iff.2 h
  refine (hordered.and hnodup).imp fun {a b} ⟨hab, hne⟩ => Utf8.ofString_lt_ofString ?_
  simp only [Bool.not_eq_true', decide_eq_false_iff_not] at hab
  exact Std.lt_of_le_of_ne (String.not_lt.1 hab) hne

/-! ## The first registration -/

section Taken

variable {before after : List (String × Maker α)}

theorem value_register_of_taken (h : ∃ e ∈ before, e.1 = entry.1) :
    ((ofEntries before).register entry.1 entry.2).value =
      (ofEntries before, .error (.duplicateMechanism entry.1)) :=
  value_register_of_contains (contains_ofEntries_iff.2 h)

/-- A registration of a taken identifier is as if it had never been made. -/
theorem ofEntries_of_taken (h : ∃ e ∈ before, e.1 = entry.1) :
    ofEntries (before ++ entry :: after) = ofEntries (before ++ after) := by
  have hkept : ((ofEntries before).register entry.1 entry.2).value.1 = ofEntries before := by
    rw [value_register_of_taken h]
  unfold ofEntries at hkept ⊢
  rw [List.foldl_append, List.foldl_append, List.foldl_cons, hkept]

theorem value_register_of_new (h : ∀ e ∈ before, e.1 ≠ entry.1) :
    ((ofEntries before).register entry.1 entry.2).value =
      (ofEntries (before ++ [entry]), .ok ()) := by
  have hfree : (ofEntries before).contains entry.1 = false := by
    rw [← Bool.not_eq_true, contains_ofEntries_iff]
    rintro ⟨e, he, hidentifier⟩
    exact h e he hidentifier
  rw [ofEntries_concat, value_register_of_not_contains hfree]

end Taken

/-- **The first registration stays.**  Of registrations one after the other on an empty registry,
one is refused exactly if its identifier is that of an earlier one; then nothing is logged, the
registry is handed back as it was, and in the end it comes out as it does without this one.  In the
end the maker of the first registration with an identifier makes the mechanisms with this
identifier, fresh ones and those from blobs, and all other identifiers are unknown.  Exactly the
identifiers that were registered are contained, and they are listed without repetition in the order
of their UTF-8 bytes. -/
theorem first_registration_stays (entries : List (String × Maker α)) :
    (∀ before entry after, entries = before ++ entry :: after →
      (((ofEntries before).register entry.1 entry.2).value.2 =
        .error (.duplicateMechanism entry.1) ↔ ∃ e ∈ before, e.1 = entry.1) ∧
      ((∃ e ∈ before, e.1 = entry.1) →
        ((ofEntries before).register entry.1 entry.2).value.1 = ofEntries before ∧
          ((ofEntries before).register entry.1 entry.2).events = [] ∧
            ofEntries entries = ofEntries (before ++ after)) ∧
      ((∀ e ∈ before, e.1 ≠ entry.1) →
        ((ofEntries before).register entry.1 entry.2).value =
          (ofEntries (before ++ [entry]), .ok ()))) ∧
    (∀ identifier m, IsFirst entries identifier m → (ofEntries entries).Uses identifier m) ∧
    (∀ identifier, (∀ e ∈ entries, e.1 ≠ identifier) → (ofEntries entries).Lacks identifier) ∧
    (∀ identifier, (ofEntries entries).contains identifier = true ↔
      ∃ e ∈ entries, e.1 = identifier) ∧
    (∀ identifier, identifier ∈ (ofEntries entries).identifiers ↔
      ∃ e ∈ entries, e.1 = identifier) ∧
    (ofEntries entries).identifiers.Pairwise fun a b => Utf8.ofString a < Utf8.ofString b := by
  refine ⟨?_, fun identifier m h => uses_of_maker? (maker?_ofEntries_eq_some_iff.2 h),
    fun identifier h => lacks_of_maker? (maker?_ofEntries_eq_none_iff.2 h),
    fun identifier => contains_ofEntries_iff, fun identifier => ?_,
    pairwise_identifiers (nodup_ofEntries entries)⟩
  · rintro before entry after rfl
    refine ⟨⟨fun hrefused => ?_, fun htaken => ?_⟩, fun htaken => ?_, value_register_of_new⟩
    · by_contra hfree
      rw [value_register_of_new fun e he hidentifier => hfree ⟨e, he, hidentifier⟩] at hrefused
      cases hrefused
    · rw [value_register_of_taken htaken]
    · have hrefused := value_register_of_taken htaken
      exact ⟨eq_of_register_error (congrArg Prod.snd hrefused),
        events_register_of_contains (contains_ofEntries_iff.2 htaken), ofEntries_of_taken htaken⟩
  · rw [mem_identifiers_iff, ← contains_iff, contains_ofEntries_iff]

end Registry
end SharedBudget
