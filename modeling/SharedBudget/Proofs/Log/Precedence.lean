/-
# Who decides what is logged

A setup is made from what the caller and the variables ask for, and may be changed
afterwards (`Log.Origin`).  Of those that speak about the level the first in this order
decides (`Log.Origin.DecidedBy`): the last change of the level, the caller, the
variable `DPB_LOG`, even if it names no level, the variable `RUST_LOG`, unless it is
blank.  What comes after the one that decides is not heard, and the format never is
(`Log.Origin.level_precedence`).
-/

import SharedBudget.Log.Setup
import Mathlib.Data.List.Forall2
import Mathlib.Data.List.Induction
import Mathlib.Tactic.SplitIfs

namespace SharedBudget
namespace Log

/-! ## Names of levels -/

theorem toNat_toLower (c : Char) :
    c.toLower.toNat = if 65 ≤ c.toNat ∧ c.toNat ≤ 90 then c.toNat + 32 else c.toNat := by
  unfold Char.toLower
  split_ifs with h h' h'
  · change (c.val + 32).toNat = c.toNat + 32
    rw [UInt32.toNat_add]
    change (c.toNat + 32) % 2 ^ 32 = c.toNat + 32
    omega
  · exact absurd h h'
  · exact absurd h' h
  · rfl

theorem toNat_toUpper (c : Char) :
    c.toUpper.toNat = if 97 ≤ c.toNat ∧ c.toNat ≤ 122 then c.toNat - 32 else c.toNat := by
  unfold Char.toUpper
  split_ifs with h h' h'
  -- The distance of the cases is subtracted by adding its complement.
  · change (c.val + 4294967264).toNat = c.toNat - 32
    rw [UInt32.toNat_add]
    change (c.toNat + 4294967264) % 2 ^ 32 = c.toNat - 32
    omega
  · exact absurd h h'
  · exact absurd h' h
  · rfl

/-- What becomes a small letter is this letter or its capital. -/
theorem toLower_eq_iff {c d : Char} (hd : d.isLower = true) :
    c.toLower = d ↔ c = d ∨ c = d.toUpper := by
  obtain ⟨ha, hz⟩ := Bool.and_eq_true_iff.1 hd
  have hletter : 97 ≤ d.toNat ∧ d.toNat ≤ 122 := ⟨of_decide_eq_true ha, of_decide_eq_true hz⟩
  rw [← Char.toNat_inj, ← Char.toNat_inj, ← Char.toNat_inj, toNat_toLower, toNat_toUpper]
  split_ifs <;> omega

/-- Letter by letter, what becomes these small letters is made of them and their capitals. -/
theorem forall₂_letters_iff {cs ds : List Char} (hds : ∀ d ∈ ds, d.isLower = true) :
    List.Forall₂ (fun c d => c = d ∨ c = d.toUpper) cs ds ↔ cs.map Char.toLower = ds := by
  induction cs generalizing ds with
  | nil => cases ds <;> simp
  | cons c cs ih =>
    cases ds with
    | nil => simp
    | cons d ds =>
      obtain ⟨hd, hds⟩ := List.forall_mem_cons.1 hds
      rw [List.forall₂_cons, ih hds, List.map_cons, List.cons.injEq, toLower_eq_iff hd]

namespace Level

-- Beyond ASCII only the Kelvin sign has an ASCII letter, `k`, for its lower case, and no name of
-- a level is spelled with it.
/-- The text is the name of the level, some of its letters perhaps written as capitals. -/
def IsNamed (l : Level) (text : String) : Prop :=
  List.Forall₂ (fun c d => c = d ∨ c = d.toUpper) text.toList l.name.toList

theorem isLower_of_mem_name (l : Level) : ∀ d ∈ l.name.toList, d.isLower = true := by
  have hall : l.name.toList.all Char.isLower = true := by cases l <;> rfl
  exact List.all_eq_true.1 hall

theorem name_inj {l l' : Level} (h : l.name = l'.name) : l = l' := by
  revert h
  cases l <;> cases l' <;> decide

theorem isNamed_iff {l : Level} {text : String} : l.IsNamed text ↔ l.name = lowerCase text := by
  rw [IsNamed, forall₂_letters_iff l.isLower_of_mem_name, lowerCase, ← String.toList_inj,
    String.toList_ofList]
  exact eq_comm

theorem ofName?_eq_some_iff {l : Level} {text : String} :
    ofName? text = some l ↔ l.IsNamed text := by
  rw [isNamed_iff]
  constructor
  · intro h
    simpa using List.find?_some h
  · intro h
    have hfound : ofName? text ≠ none := by
      rw [ofName?, Ne, List.find?_eq_none]
      intro hnone
      have hmem : l ∈ all := by cases l <;> decide
      exact hnone l hmem (decide_eq_true h)
    obtain ⟨l', hl'⟩ := Option.ne_none_iff_exists'.1 hfound
    have hname : l'.name = lowerCase text := by simpa using List.find?_some hl'
    rw [hl', name_inj (hname.trans h.symm)]

theorem ofName?_eq_none_iff {text : String} : ofName? text = none ↔ ∀ l, ¬IsNamed l text := by
  rw [Option.eq_none_iff_forall_ne_some]
  exact forall_congr' fun l => not_congr ofName?_eq_some_iff

end Level

/-! ## What is asked for in the beginning -/

namespace Setup

variable {environment : String → Option String} {format : Option LineFormat} {name : String}

theorem filterDirectives_of_caller (l : Level) :
    (ofEnvironment environment (some l) format).filterDirectives = defaultDirectives l := rfl

theorem filterDirectives_of_variable (h : environment "DPB_LOG" = some name) :
    (ofEnvironment environment none format).filterDirectives =
      defaultDirectives ((Level.ofName? name).getD .info) := by
  simp [filterDirectives, ofEnvironment, levelOf, h]

theorem filterDirectives_of_fallback (h : environment "DPB_LOG" = none) :
    (ofEnvironment environment none format).filterDirectives =
      ((environment "RUST_LOG").filter fun text => !Text.isBlank text).getD
        (defaultDirectives .info) := by
  simp [filterDirectives, ofEnvironment, levelOf, h]

end Setup

/-! ## Changes of a setup -/

/-- A change of a setup. -/
inductive Change where
  | format (f : LineFormat)
  | level (l : Level)

namespace Change

/-- The setup after a change. -/
def apply (s : Setup) : Change → Setup
  | format f => s.withFormat f
  | level l => s.withLevel l

/-- The level that a change is about. -/
def level? : Change → Option Level
  | format _ => none
  | level l => some l

/-- The format that a change is about. -/
def format? : Change → Option LineFormat
  | format f => some f
  | level _ => none

/-- The part of interest of the last change that has one. -/
def last? {β : Type} (part : Change → Option β) (changes : List Change) : Option β :=
  changes.reverse.findSome? part

variable {β : Type} {part : Change → Option β} {changes : List Change}

theorem last?_concat (c : Change) :
    last? part (changes ++ [c]) = (part c).or (last? part changes) := by
  rw [last?, List.reverse_append, List.reverse_singleton, List.singleton_append,
    List.findSome?_cons]
  cases part c <;> rfl

theorem last?_eq_some_iff {b : β} : last? part changes = some b ↔
    ∃ before c after, changes = before ++ c :: after ∧ part c = some b ∧
      ∀ c ∈ after, part c = none := by
  rw [last?, List.findSome?_eq_some_iff]
  constructor
  · rintro ⟨after, c, before, hchanges, hc, hafter⟩
    refine ⟨before.reverse, c, after.reverse, ?_, hc,
      fun c' hc' => hafter c' (List.mem_reverse.1 hc')⟩
    rw [← List.reverse_reverse changes, hchanges]
    simp
  · rintro ⟨before, c, after, rfl, hc, hafter⟩
    exact ⟨after.reverse, c, before.reverse, by simp, hc,
      fun c' hc' => hafter c' (List.mem_reverse.1 hc')⟩

theorem last?_eq_none_iff : last? part changes = none ↔ ∀ c ∈ changes, part c = none := by
  rw [last?, List.findSome?_eq_none_iff]
  simp only [List.mem_reverse]

/-- The last level, with the changes before and after it. -/
theorem last?_level?_eq_some_iff {l : Level} : last? level? changes = some l ↔
    ∃ before after, changes = before ++ level l :: after ∧ ∀ c ∈ after, c.level? = none := by
  rw [last?_eq_some_iff]
  constructor
  · rintro ⟨before, c, after, hchanges, hc, hafter⟩
    cases c with
    | format f => cases hc
    | level l' =>
      cases hc
      exact ⟨before, after, hchanges, hafter⟩
  · rintro ⟨before, after, hchanges, hafter⟩
    exact ⟨before, level l, after, hchanges, rfl, hafter⟩

/-- If every change sets a view of the setup to its part, or leaves the view as it is when it has
no such part, then all changes together set it to the last part. -/
theorem view_foldl {view : Setup → β} (hstep : ∀ s c, view (apply s c) = (part c).getD (view s))
    (changes : List Change) (s : Setup) :
    view (changes.foldl apply s) = (last? part changes).getD (view s) := by
  induction changes using List.reverseRecOn with
  | nil => rfl
  | append_singleton changes c ih =>
    rw [List.foldl_concat, hstep, ih, last?_concat]
    cases part c <;> rfl

theorem filterDirectives_apply (s : Setup) (c : Change) :
    (apply s c).filterDirectives = (c.level?.map defaultDirectives).getD s.filterDirectives := by
  cases c <;> rfl

theorem format_apply (s : Setup) (c : Change) :
    (apply s c).format = c.format?.getD s.format := by
  cases c <;> rfl

/-- The last level is the one that is logged, whatever was before it. -/
theorem filterDirectives_foldl (changes : List Change) (s : Setup) :
    (changes.foldl apply s).filterDirectives =
      ((last? level? changes).map defaultDirectives).getD s.filterDirectives := by
  rw [view_foldl filterDirectives_apply, last?, last?, List.map_findSome?]
  rfl

end Change

/-! ## Who decides -/

/-- All that a setup is made from. -/
structure Origin where
  environment : String → Option String
  /-- The level that the caller asks for. -/
  level : Option Level
  /-- The format that the caller asks for. -/
  format : Option LineFormat
  /-- The changes that are made afterwards. -/
  changes : List Change

/-- Who decides what is logged. -/
inductive Authority where
  | change (l : Level)
  | caller (l : Level)
  /-- The variable `DPB_LOG`, which names a level. -/
  | named (l : Level)
  /-- The variable `DPB_LOG`, which names no level. -/
  | unnamed
  /-- The variable `RUST_LOG`. -/
  | verbatim (text : String)
  | nobody

namespace Authority

/-- What an authority wants to be logged. -/
def directives : Authority → String
  | change l => defaultDirectives l
  | caller l => defaultDirectives l
  | named l => defaultDirectives l
  | unnamed => defaultDirectives .info
  | verbatim text => text
  | nobody => defaultDirectives .info

/-- How many sources come before the one that speaks with this authority. -/
def rank : Authority → ℕ
  | change _ => 0
  | caller _ => 1
  | named _ => 2
  | unnamed => 2
  | verbatim _ => 3
  | nobody => 3

end Authority

namespace Origin

variable {o o' : Origin} {a : Authority}

/-- The setup that is made. -/
def setup (o : Origin) : Setup :=
  o.changes.foldl Change.apply (Setup.ofEnvironment o.environment o.level o.format)

/-- Who decides what is logged: the first in the order of the constructors. -/
inductive DecidedBy (o : Origin) : Authority → Prop
  | change {before after : List Change} {l : Level}
      (hchanges : o.changes = before ++ Change.level l :: after)
      (hlast : ∀ c ∈ after, c.level? = none) : DecidedBy o (.change l)
  | caller {l : Level} (hchanges : ∀ c ∈ o.changes, c.level? = none)
      (hcaller : o.level = some l) : DecidedBy o (.caller l)
  | named {name : String} {l : Level} (hchanges : ∀ c ∈ o.changes, c.level? = none)
      (hcaller : o.level = none) (hvariable : o.environment "DPB_LOG" = some name)
      (hname : l.IsNamed name) : DecidedBy o (.named l)
  | unnamed {name : String} (hchanges : ∀ c ∈ o.changes, c.level? = none)
      (hcaller : o.level = none) (hvariable : o.environment "DPB_LOG" = some name)
      (hname : ∀ l : Level, ¬l.IsNamed name) : DecidedBy o .unnamed
  | verbatim {text : String} (hchanges : ∀ c ∈ o.changes, c.level? = none)
      (hcaller : o.level = none) (hvariable : o.environment "DPB_LOG" = none)
      (htext : o.environment "RUST_LOG" = some text) (hblank : Text.isBlank text = false) :
      DecidedBy o (.verbatim text)
  | nobody (hchanges : ∀ c ∈ o.changes, c.level? = none) (hcaller : o.level = none)
      (hvariable : o.environment "DPB_LOG" = none)
      (htext : ∀ text, o.environment "RUST_LOG" = some text → Text.isBlank text = true) :
      DecidedBy o .nobody

/-- It is always settled who decides. -/
theorem exists_decidedBy (o : Origin) : ∃ a, o.DecidedBy a := by
  cases hlast : Change.last? Change.level? o.changes with
  | some l =>
    obtain ⟨before, after, hchanges, hafter⟩ := Change.last?_level?_eq_some_iff.1 hlast
    exact ⟨_, .change hchanges hafter⟩
  | none =>
    have hchanges := Change.last?_eq_none_iff.1 hlast
    cases hcaller : o.level with
    | some l => exact ⟨_, .caller hchanges hcaller⟩
    | none =>
      cases hvariable : o.environment "DPB_LOG" with
      | some name =>
        by_cases hname : ∃ l : Level, l.IsNamed name
        · obtain ⟨l, hl⟩ := hname
          exact ⟨_, .named hchanges hcaller hvariable hl⟩
        · exact ⟨_, .unnamed hchanges hcaller hvariable (not_exists.1 hname)⟩
      | none =>
        by_cases htext : ∃ text, o.environment "RUST_LOG" = some text ∧ Text.isBlank text = false
        · obtain ⟨text, htext, hblank⟩ := htext
          exact ⟨_, .verbatim hchanges hcaller hvariable htext hblank⟩
        · refine ⟨_, .nobody hchanges hcaller hvariable fun text h => ?_⟩
          by_contra hblank
          exact htext ⟨text, h, Bool.eq_false_iff.2 hblank⟩

theorem filterDirectives_of_decidedBy (h : o.DecidedBy a) :
    o.setup.filterDirectives = a.directives := by
  rw [setup, Change.filterDirectives_foldl]
  cases h with
  | change hchanges hlast =>
    rw [Change.last?_level?_eq_some_iff.2 ⟨_, _, hchanges, hlast⟩]
    rfl
  | caller hchanges hcaller =>
    rw [Change.last?_eq_none_iff.2 hchanges, hcaller]
    exact Setup.filterDirectives_of_caller _
  | named hchanges hcaller hvariable hname =>
    rw [Change.last?_eq_none_iff.2 hchanges, hcaller]
    refine (Setup.filterDirectives_of_variable hvariable).trans ?_
    rw [Level.ofName?_eq_some_iff.2 hname]
    rfl
  | unnamed hchanges hcaller hvariable hname =>
    rw [Change.last?_eq_none_iff.2 hchanges, hcaller]
    refine (Setup.filterDirectives_of_variable hvariable).trans ?_
    rw [Level.ofName?_eq_none_iff.2 hname]
    rfl
  | verbatim hchanges hcaller hvariable htext hblank =>
    rw [Change.last?_eq_none_iff.2 hchanges, hcaller]
    refine (Setup.filterDirectives_of_fallback hvariable).trans ?_
    rw [htext, Option.filter_some, hblank]
    rfl
  | nobody hchanges hcaller hvariable htext =>
    have hnothing : (o.environment "RUST_LOG").filter (fun text => !Text.isBlank text) = none := by
      rw [Option.filter_eq_none_iff]
      intro text h
      rw [htext text h]
      decide
    rw [Change.last?_eq_none_iff.2 hchanges, hcaller]
    refine (Setup.filterDirectives_of_fallback hvariable).trans ?_
    rw [hnothing]
    rfl

/-- Two origins do not differ in the sources of the level up to this one.  They may differ in
all others, and in all that is about the format. -/
structure AgreeUpTo (rank : ℕ) (o o' : Origin) : Prop where
  change : Change.last? Change.level? o'.changes = Change.last? Change.level? o.changes
  caller : 1 ≤ rank → o'.level = o.level
  named : 2 ≤ rank → o'.environment "DPB_LOG" = o.environment "DPB_LOG"
  verbatim : 3 ≤ rank → o'.environment "RUST_LOG" = o.environment "RUST_LOG"

/-- The sources after the one that decides are not heard. -/
theorem DecidedBy.of_agree (h : o.DecidedBy a) (hagree : AgreeUpTo a.rank o o') :
    o'.DecidedBy a := by
  have hsilent : (∀ c ∈ o.changes, c.level? = none) → ∀ c ∈ o'.changes, c.level? = none := by
    intro hchanges
    rw [← Change.last?_eq_none_iff, hagree.change]
    exact Change.last?_eq_none_iff.2 hchanges
  cases h with
  | change hchanges hlast =>
    have hlevel := Change.last?_level?_eq_some_iff.2 ⟨_, _, hchanges, hlast⟩
    obtain ⟨before, after, hchanges', hlast'⟩ :=
      Change.last?_level?_eq_some_iff.1 (hagree.change.trans hlevel)
    exact .change hchanges' hlast'
  | caller hchanges hcaller =>
    have hcaller' := (hagree.caller (Nat.le_refl 1)).trans hcaller
    exact .caller (hsilent hchanges) hcaller'
  | named hchanges hcaller hvariable hname =>
    have hcaller' := (hagree.caller (Nat.le_succ 1)).trans hcaller
    have hvariable' := (hagree.named (Nat.le_refl 2)).trans hvariable
    exact .named (hsilent hchanges) hcaller' hvariable' hname
  | unnamed hchanges hcaller hvariable hname =>
    have hcaller' := (hagree.caller (Nat.le_succ 1)).trans hcaller
    have hvariable' := (hagree.named (Nat.le_refl 2)).trans hvariable
    exact .unnamed (hsilent hchanges) hcaller' hvariable' hname
  | verbatim hchanges hcaller hvariable htext hblank =>
    have hcaller' := (hagree.caller (Nat.le_add_left 1 2)).trans hcaller
    have hvariable' := (hagree.named (Nat.le_succ 2)).trans hvariable
    have htext' := (hagree.verbatim (Nat.le_refl 3)).trans htext
    exact .verbatim (hsilent hchanges) hcaller' hvariable' htext' hblank
  | nobody hchanges hcaller hvariable htext =>
    have hcaller' := (hagree.caller (Nat.le_add_left 1 2)).trans hcaller
    have hvariable' := (hagree.named (Nat.le_succ 2)).trans hvariable
    have htext' := hagree.verbatim (Nat.le_refl 3)
    exact .nobody (hsilent hchanges) hcaller' hvariable'
      fun text h => htext text (htext'.symm.trans h)

/-- Two origins do not differ in what is about the format.  They may differ in all that is about
the level. -/
structure AgreeOnFormat (o o' : Origin) : Prop where
  change : Change.last? Change.format? o'.changes = Change.last? Change.format? o.changes
  caller : o'.format = o.format
  named : o'.environment "DPB_LOG_FORMAT" = o.environment "DPB_LOG_FORMAT"

/-- The format is that of the last change, of the caller, of the variable, or the default. -/
theorem format_setup (o : Origin) : o.setup.format =
    ((Change.last? Change.format? o.changes).or
      (o.format.or ((o.environment "DPB_LOG_FORMAT").bind LineFormat.ofName?))).getD .human := by
  rw [setup, Change.view_foldl Change.format_apply]
  cases Change.last? Change.format? o.changes with
  | some f => rfl
  | none =>
    change Setup.formatOf o.environment o.format = _
    rw [Setup.formatOf, Option.orElse_eq_orElse, Option.orElse_eq_or, Option.none_or]

theorem format_of_agree (hagree : AgreeOnFormat o o') : o'.setup.format = o.setup.format := by
  rw [format_setup, format_setup, hagree.change, hagree.caller, hagree.named]

/-- **The first who speaks about the level decides it.**  There is always one who decides, what
is logged is what this one wants, and neither the sources after this one nor anything about
the format changes it.  The format has an order of its own, and is not a matter of the level
either. -/
theorem level_precedence (o : Origin) :
    (∃ a, o.DecidedBy a) ∧
      (∀ a, o.DecidedBy a → o.setup.filterDirectives = a.directives ∧
        ∀ o', AgreeUpTo a.rank o o' →
          o'.setup.filterDirectives = o.setup.filterDirectives) ∧
      o.setup.format = ((Change.last? Change.format? o.changes).or
        (o.format.or ((o.environment "DPB_LOG_FORMAT").bind LineFormat.ofName?))).getD .human ∧
      ∀ o', AgreeOnFormat o o' → o'.setup.format = o.setup.format := by
  refine ⟨o.exists_decidedBy, fun a h => ?_, o.format_setup,
    fun o' hagree => format_of_agree hagree⟩
  have hdirectives := filterDirectives_of_decidedBy h
  refine ⟨hdirectives, fun o' hagree => ?_⟩
  rw [hdirectives, filterDirectives_of_decidedBy (h.of_agree hagree)]

/-- A variable `DPB_LOG` that names no level still hides `RUST_LOG`. -/
example : (Origin.mk (fun _ => some "loud") none none [.format .jsonl]).setup.filterDirectives =
    "dpb_core=info,dpb_config=info,dpb_state=info" := by decide +kernel

end Origin

end Log
end SharedBudget
