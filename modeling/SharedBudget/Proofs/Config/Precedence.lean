/-
# Which configuration is used

There are four places where a configuration may be (`Config.Place`).  The first of
them at which something exists is chosen (`Config.ChosenAt`), and from then on the
choice is final: what is there is the configuration, or there is none.  So the
places after the chosen one say nothing (`Config.load_eq_of_agree`), whatever
files they lead to.

A configuration that was loaded has passed the check, and the check of a factory is
the same one.  No bundle made under a loaded configuration is refused for its
threshold (`Factory.ne_config_of_check`).
-/

import SharedBudget.Config.Discovery
import SharedBudget.Proofs.Bundle.Events

namespace SharedBudget

/-! ## What a checked configuration promises -/

namespace Factory

variable {α π : Type} {f : Factory α π} {s : BundleSpec}

/-- Only the threshold of a factory is a matter of configuration. -/
theorem breach_threshold_of_config {c : Option Checkpoint} {e : Config.Error}
    (h : (f.make s c).outcome = .error (.config e)) :
    f.breach s c .threshold = some (.config e) := by
  obtain ⟨rule, -, hbreach⟩ := obeys_make.exists_breach h
  have hrule : some Rule.threshold = some rule := rule?_of_breach hbreach
  obtain rfl := Option.some.inj hrule
  exact hbreach

/-- **A factory with a checked configuration never fails for its configuration,** whether it
makes a fresh bundle or restores one. -/
theorem ne_config_of_check {config : Config} (h : config.check = .ok ()) (f : Factory α π)
    (s : BundleSpec) (c : Option Checkpoint) (e : Config.Error) :
    ((f.withConfig config).make s c).outcome ≠ .error (.config e) := by
  intro herror
  have hthreshold : Config.checkThreshold (f.withConfig config).threshold = .ok () := by
    unfold Config.check at h
    split at h
    · exact h
    · cases h
  have hkept : (f.withConfig config).breach s c .threshold = none := by
    have hobeys := obeys_threshold (f := f.withConfig config) (s := s) (c := c)
    rw [hthreshold, Obeys, List.findSome?_singleton] at hobeys
    exact hobeys
  rw [breach_threshold_of_config herror] at hkept
  cases hkept

/-- The same, for a checkpoint that comes as a document. -/
theorem restoreBytes_ne_config_of_check {config : Config} (h : config.check = .ok ())
    (f : Factory α π) (s : BundleSpec) (text : Bytes) (e : Config.Error) :
    ((f.withConfig config).restoreBytes s text).outcome ≠ .error (.config e) := by
  rw [restoreBytes, outcome_concluded, Attempt.outcome_bind, Attempt.outcome_mapError]
  cases (Checkpoint.ofBytes text).outcome with
  | error e' =>
    intro h
    cases h
  | ok c =>
    have hmake := ne_config_of_check h f s (some c) e
    rwa [outcome_make] at hmake

end Factory

namespace Config

/-! ## Places -/

/-- A place where a configuration may be. -/
inductive Place where
  /-- The path given by the caller. -/
  | argument
  /-- The path in a variable. -/
  | namedFile
  /-- Below the directory in a variable. -/
  | namedDirectory
  /-- Below the user's configuration directory. -/
  | userDirectory
deriving DecidableEq, Repr

namespace Place

/-- How many places come before. -/
def rank : Place → ℕ
  | argument => 0
  | namedFile => 1
  | namedDirectory => 2
  | userDirectory => 3

/-- What a configuration found at the place is said to come from. -/
def source : Place → Source
  | argument => .argument
  | namedFile => .environment
  | namedDirectory => .environment
  | userDirectory => .userDirectory

/-- All places, the most important first. -/
def inOrder : List Place := [argument, namedFile, namedDirectory, userDirectory]

theorem mem_inOrder (place : Place) : place ∈ inOrder := by cases place <;> decide

theorem pairwise_inOrder : inOrder.Pairwise fun place place' => place.rank < place'.rank := by
  decide

end Place

variable {m m' : Machine} {argument argument' : Option String} {place : Place} {path : String}

/-- The path that belongs to a place. -/
def path? (m : Machine) (argument : Option String) : Place → Option String
  | .argument => argument
  | .namedFile => m.environment "DPB_CONFIG"
  | .namedDirectory => (m.environment "DPB_CONFIG_DIR").map (Machine.joinPath · fileName)
  | .userDirectory =>
    m.configHome?.map fun home => Machine.joinPath (Machine.joinPath home "dp-bundle") fileName

/-- The path is the one of the place, something exists there, and nothing exists at the places
before it. -/
structure ChosenAt (m : Machine) (argument : Option String) (place : Place) (path : String) :
    Prop where
  path?_eq : path? m argument place = some path
  exists_eq : m.pathExists path = true
  first : ∀ earlier, earlier.rank < place.rank →
    ∀ other ∈ path? m argument earlier, m.pathExists other = false

/-- What is found at a place. -/
def found? (m : Machine) (argument : Option String) (place : Place) : Option (String × Source) :=
  ((path? m argument place).filter m.pathExists).map fun path => (path, place.source)

theorem found?_eq_some_iff {source : Source} : found? m argument place = some (path, source) ↔
    path? m argument place = some path ∧ m.pathExists path = true ∧ place.source = source := by
  simp only [found?, Option.map_eq_some_iff, Option.filter_eq_some_iff, Prod.mk.injEq]
  constructor
  · rintro ⟨path, ⟨hpath, hexists⟩, rfl, rfl⟩
    exact ⟨hpath, hexists, rfl⟩
  · rintro ⟨hpath, hexists, rfl⟩
    exact ⟨path, ⟨hpath, hexists⟩, rfl, rfl⟩

theorem found?_eq_none_iff : found? m argument place = none ↔
    ∀ path ∈ path? m argument place, m.pathExists path = false := by
  simp [found?]

/-- The candidates are looked through place by place. -/
theorem find?_eq_findSome? (m : Machine) (argument : Option String) :
    find? m argument = Place.inOrder.findSome? (found? m argument) := by
  have hcandidates : candidates m argument = Place.inOrder.flatMap fun place =>
      ((path? m argument place).map fun path => (path, place.source)).toList := by
    simp [candidates, Place.inOrder, path?, Place.source, Machine.configDirectory?,
      Function.comp_def]
  rw [find?, hcandidates, List.find?_flatMap]
  congr 1
  funext place
  unfold found?
  cases path? m argument place with
  | none => rfl
  | some path => by_cases h : m.pathExists path <;> simp [h]

/-- **The first place at which something exists** is where the configuration is found. -/
theorem find?_eq_some_iff {source : Source} : find? m argument = some (path, source) ↔
    ∃ place, ChosenAt m argument place path ∧ place.source = source := by
  rw [find?_eq_findSome?, List.findSome?_eq_some_iff]
  have hsorted := Place.pairwise_inOrder
  constructor
  · rintro ⟨before, place, after, horder, hfound, hbefore⟩
    obtain ⟨hpath, hexists, hsource⟩ := found?_eq_some_iff.1 hfound
    refine ⟨place, ⟨hpath, hexists, fun earlier hearlier => found?_eq_none_iff.1 ?_⟩, hsource⟩
    -- A place of a lower rank can only stand before the chosen one.
    rw [horder, List.pairwise_append, List.pairwise_cons] at hsorted
    have hmem := Place.mem_inOrder earlier
    rw [horder, List.mem_append, List.mem_cons] at hmem
    rcases hmem with hmem | rfl | hmem
    · exact hbefore earlier hmem
    · exact absurd hearlier (lt_irrefl _)
    · exact absurd hearlier (hsorted.2.1.1 earlier hmem).not_gt
  · rintro ⟨place, hchosen, hsource⟩
    obtain ⟨before, after, horder⟩ := List.append_of_mem (Place.mem_inOrder place)
    have hfound := found?_eq_some_iff.2 ⟨hchosen.path?_eq, hchosen.exists_eq, hsource⟩
    refine ⟨before, place, after, horder, hfound, fun earlier hearlier => ?_⟩
    rw [horder, List.pairwise_append] at hsorted
    exact found?_eq_none_iff.2
      (hchosen.first earlier (hsorted.2.2 earlier hearlier place (List.mem_cons_self ..)))

theorem find?_eq_none_iff : find? m argument = none ↔
    ∀ place, ∀ path ∈ path? m argument place, m.pathExists path = false := by
  rw [find?_eq_findSome?, List.findSome?_eq_none_iff]
  simp only [found?_eq_none_iff]
  exact ⟨fun h place => h place (Place.mem_inOrder place), fun h place _ => h place⟩

theorem ChosenAt.find?_eq (h : ChosenAt m argument place path) :
    find? m argument = some (path, place.source) := find?_eq_some_iff.2 ⟨place, h, rfl⟩

/-! ## Loading -/

/-- Two machines do not differ in the places up to this one: the same paths belong to them, and
the same of these paths exist. -/
structure AgreeUpTo (place : Place) (m m' : Machine) (argument argument' : Option String) :
    Prop where
  path?_eq : ∀ earlier, earlier.rank ≤ place.rank →
    path? m' argument' earlier = path? m argument earlier
  exists_eq : ∀ earlier, earlier.rank ≤ place.rank →
    ∀ path ∈ path? m argument earlier, m'.pathExists path = m.pathExists path

/-- What is chosen is a matter of the places up to the chosen one. -/
theorem ChosenAt.of_agree (h : ChosenAt m argument place path)
    (hagree : AgreeUpTo place m m' argument argument') : ChosenAt m' argument' place path where
  path?_eq := (hagree.path?_eq place le_rfl).trans h.path?_eq
  exists_eq := (hagree.exists_eq place le_rfl path h.path?_eq).trans h.exists_eq
  first earlier hearlier other hother := by
    rw [hagree.path?_eq earlier hearlier.le] at hother
    rw [hagree.exists_eq earlier hearlier.le other hother]
    exact h.first earlier hearlier other hother

/-- **The places after the chosen one say nothing.**  Loading comes to the same result and the
same events on every machine that does not differ up to the chosen place and has the same content
there. -/
theorem load_eq_of_agree (h : ChosenAt m argument place path)
    (hagree : AgreeUpTo place m m' argument argument') (hread : m'.read path = m.read path) :
    load m' argument' = load m argument := by
  have hfile : ofFile m' path = ofFile m path := by
    unfold ofFile Machine.readText
    rw [hread]
  unfold load source
  rw [(h.of_agree hagree).find?_eq, h.find?_eq]
  dsimp only
  rw [hfile]

/-- A file holds a configuration if it can be read, is text, and the text is one. -/
theorem ofFile_eq_ok_iff {c : Config} : ofFile m path = .ok c ↔
    ∃ text, m.readText path = .ok text ∧ ofJson (Utf8.ofString text) = .ok c := by
  unfold ofFile
  cases m.readText path with
  | error reason => exact ⟨nofun, nofun⟩
  | ok text => simp

/-- Loading goes through the chosen file and the check. -/
theorem ChosenAt.outcome_load (h : ChosenAt m argument place path) :
    (load m argument).outcome = ofFile m path >>= fun c => c.check >>= fun _ => .ok c := by
  unfold load
  rw [h.find?_eq]
  simp

theorem check_default : default.check = .ok () := by decide +kernel

/-- There is a configuration only if the chosen file holds one that passes the check. -/
theorem ChosenAt.load_eq_ok_iff (h : ChosenAt m argument place path) {c : Config} :
    (load m argument).outcome = .ok c ↔ ∃ text, m.readText path = .ok text ∧
      ofJson (Utf8.ofString text) = .ok c ∧ c.check = .ok () := by
  rw [h.outcome_load, bind_eq_ok_iff]
  simp only [bind_eq_ok_iff, ofFile_eq_ok_iff]
  constructor
  · rintro ⟨c', ⟨text, hread, hjson⟩, ⟨⟩, hcheck, hc⟩
    obtain rfl := Except.ok.inj hc
    exact ⟨text, hread, hjson, hcheck⟩
  · rintro ⟨text, hread, hjson, hcheck⟩
    exact ⟨c, ⟨text, hread, hjson⟩, (), hcheck, rfl⟩

theorem outcome_load_of_none (h : find? m argument = none) :
    (load m argument).outcome = .ok default := by
  unfold load
  rw [h]
  simp [check_default]

/-- A configuration that was loaded has passed the check. -/
theorem check_of_load {c : Config} (h : (load m argument).outcome = .ok c) : c.check = .ok () := by
  cases hfind : find? m argument with
  | none =>
    rw [outcome_load_of_none hfind] at h
    obtain rfl := Except.ok.inj h
    exact check_default
  | some found =>
    obtain ⟨place, hchosen, -⟩ := find?_eq_some_iff.1 hfind
    obtain ⟨text, -, -, hcheck⟩ := hchosen.load_eq_ok_iff.1 h
    exact hcheck

/-- **The first configuration that is found is final, and safe to use.**  What is found is what
exists at the first of the four places, and its source is that place; if there is nothing at any
of them, the default is used.  A chosen file that cannot be read, is no configuration or does not
pass the check is never passed over: there is a configuration only if that very file holds one,
and nothing behind the chosen place changes the result.  A loaded configuration passes the check,
and no factory with it fails for its configuration. -/
theorem loads_first_found (m : Machine) (argument : Option String) :
    (∀ path source, find? m argument = some (path, source) ↔
      ∃ place, ChosenAt m argument place path ∧ place.source = source) ∧
    (find? m argument = none ↔
      ∀ place, ∀ path ∈ path? m argument place, m.pathExists path = false) ∧
    (∀ place path, ChosenAt m argument place path →
      source m argument = place.source ∧
      (∀ c, (load m argument).outcome = .ok c ↔ ∃ text, m.readText path = .ok text ∧
        ofJson (Utf8.ofString text) = .ok c ∧ c.check = .ok ()) ∧
      ∀ m' argument', AgreeUpTo place m m' argument argument' → m'.read path = m.read path →
        load m' argument' = load m argument) ∧
    (find? m argument = none →
      source m argument = .builtin ∧ (load m argument).outcome = .ok default) ∧
    ∀ c, (load m argument).outcome = .ok c → c.check = .ok () ∧
      ∀ (α π : Type) (f : Factory α π) (s : BundleSpec) (e : Error),
        ((f.withConfig c).create s).outcome ≠ .error (.config e) ∧
        (∀ state, ((f.withConfig c).restore s state).outcome ≠ .error (.config e)) ∧
        ∀ text, ((f.withConfig c).restoreBytes s text).outcome ≠ .error (.config e) := by
  refine ⟨fun path source => find?_eq_some_iff, find?_eq_none_iff, fun place path h => ?_,
    fun h => ?_, fun c h => ?_⟩
  · refine ⟨?_, fun c => h.load_eq_ok_iff, fun m' argument' => load_eq_of_agree h⟩
    rw [source, h.find?_eq]
    rfl
  · refine ⟨?_, outcome_load_of_none h⟩
    rw [source, h]
    rfl
  · have hcheck := check_of_load h
    exact ⟨hcheck, fun α π f s e => ⟨Factory.ne_config_of_check hcheck f s none e,
      fun state => Factory.ne_config_of_check hcheck f s (some state) e,
      fun text => Factory.restoreBytes_ne_config_of_check hcheck f s text e⟩⟩

end Config
end SharedBudget
