/-
# Programs over bundles

A program holds any number of bundles of sums, each in a place of its own, and
works on them step by step.  A step is a call of a factory or of a bundle, or it
*reloads* a bundle: it puts in its place what the bundle's own factory restores from
the bundle's own checkpoint.  A bundle that is merged into another one, or asked for
its report, is used up by that, whether it succeeds or not.  A step on an empty place
is no call at all: nothing answers, and nothing changes.

Reloading changes nothing either while the sums are whole and small, so a program may
be stopped and resumed anywhere (`Program.reload_transparent`).
-/

import SharedBudget.Proofs.Bundle.Restoring
import Mathlib.Logic.Function.Basic

namespace SharedBudget
namespace Program

/-! ## Steps -/

/-- A factory all of whose identifiers stand for one of the two sums. -/
abbrev SumFactory := {f : Factory AnySum PrivateSum // f.IsOfSums}

/-- A bundle, and what it was made from. -/
structure Held where
  factory : SumFactory
  spec : BundleSpec
  bundle : Bundle PrivateSum

/-- What a program holds in its places. -/
abbrev Places := ℕ → Option Held

/-- A program that has not begun holds nothing. -/
def Places.empty : Places := fun _ => none

/-- A step of a program.  The places are the first arguments. -/
inductive Step where
  | create (place : ℕ) (factory : SumFactory) (spec : BundleSpec)
  | accumulate (place : ℕ) (inputs : List Double)
  /-- Merges the bundle at `peer` into the one at `place`. -/
  | merge (place peer : ℕ)
  | isCompatible (place peer : ℕ)
  | canReport (place : ℕ)
  | checkpoint (place : ℕ) (now : Timestamp)
  | report (place : ℕ)
  /-- Puts in the place of a bundle what is restored from its checkpoint. -/
  | reload (place : ℕ) (now : Timestamp)

/-- Whether a step is no call of the program's own but the reload of a bundle. -/
def Step.isReload : Step → Bool
  | reload .. => true
  | _ => false

/-- What a call returns when it succeeds. -/
inductive Returned where
  | nothing
  | truth (value : Bool)
  | bundle (b : Bundle PrivateSum)
  | checkpoint (c : Checkpoint)
  | outputs (values : List Double)

/-- What a step is answered with: nothing if its place is empty. -/
abbrev Answer := Option (Except Error Returned)

/-- Restores a bundle from its own checkpoint. -/
def Held.reload (h : Held) (now : Timestamp) : Attempt Error (Bundle PrivateSum) := do
  let text ← h.bundle.checkpointBytes now
  h.factory.1.restoreBytes h.spec text

variable {places : Places} {i j : ℕ} {h peer : Held}

/-- Puts a bundle into a place if it was made; if not, the place keeps what it has. -/
def install (places : Places) (i : ℕ) (factory : SumFactory) (spec : BundleSpec)
    (making : Attempt Error (Bundle PrivateSum)) : Logged (Answer × Places) := do
  match ← making.run with
  | .ok b => return (some (.ok (.bundle b)), Function.update places i (some ⟨factory, spec, b⟩))
  | .error e => return (some (.error e), places)

/-- Puts the bundle that an operation returns back into its place. -/
def putBack (places : Places) (i : ℕ) (h : Held)
    (operation : Logged (Bundle PrivateSum × Except Error Unit)) : Logged (Answer × Places) := do
  let (bundle, result) ← operation
  return (some (result.map fun () => .nothing),
    Function.update places i (some { h with bundle }))

/-- Works on what is in a place; if that is empty, nothing happens. -/
def visit (places : Places) (held : Option Held) (work : Held → Logged (Answer × Places)) :
    Logged (Answer × Places) :=
  match held with
  | some h => work h
  | none => return (none, places)

/-- The answer to a step, and what the program holds after it. -/
def act (places : Places) : Step → Logged (Answer × Places)
  | .create i f s => install places i f s (f.1.create s)
  | .accumulate i inputs =>
    visit places (places i) fun h => putBack places i h (h.bundle.accumulate inputs)
  | .merge i j =>
    -- The peer is taken out first, so no bundle can be merged into itself.
    let others := Function.update places j none
    visit places (places j) fun peer =>
      visit places (others i) fun h => putBack others i h (h.bundle.merge peer.bundle)
  | .isCompatible i j =>
    visit places (places i) fun h => visit places (places j) fun peer =>
      return (some (.ok (.truth (h.bundle.isCompatible peer.bundle))), places)
  | .canReport i =>
    visit places (places i) fun h => return (some (.ok (.truth h.bundle.canReport)), places)
  | .checkpoint i now =>
    visit places (places i) fun h => do
      let result ← (h.bundle.checkpoint now).run
      return (some (result.map .checkpoint), places)
  | .report i =>
    visit places (places i) fun h => do
      let result ← h.bundle.report.run
      return (some (result.map .outputs), Function.update places i none)
  | .reload i now =>
    visit places (places i) fun h => install places i h.factory h.spec (h.reload now)

/-- A moment of a run: the step taken, its answer, and what the program holds then. -/
structure Moment where
  step : Step
  answer : Answer
  places : Places

/-- The moments of a run. -/
def trace : Places → List Step → List Moment
  | _, [] => []
  | places, step :: steps =>
    ⟨step, (act places step).value.1, (act places step).value.2⟩ ::
      trace (act places step).value.2 steps

/-! ## What a step does -/

theorem install_ok {factory : SumFactory} {spec : BundleSpec}
    {making : Attempt Error (Bundle PrivateSum)} {b : Bundle PrivateSum}
    (hmade : making.outcome = .ok b) :
    (install places i factory spec making).value =
      (some (.ok (.bundle b)), Function.update places i (some ⟨factory, spec, b⟩)) := by
  unfold Attempt.outcome at hmade
  simp only [install, Logged.value_bind, hmade]
  rfl

theorem install_error {factory : SumFactory} {spec : BundleSpec}
    {making : Attempt Error (Bundle PrivateSum)} {e : Error}
    (hfailed : making.outcome = .error e) :
    (install places i factory spec making).value = (some (.error e), places) := by
  unfold Attempt.outcome at hfailed
  simp only [install, Logged.value_bind, hfailed]
  rfl

theorem value_act_create {factory : SumFactory} {spec : BundleSpec} {b : Bundle PrivateSum}
    (hmade : (factory.1.create spec).outcome = .ok b) :
    (act places (.create i factory spec)).value =
      (some (.ok (.bundle b)), Function.update places i (some ⟨factory, spec, b⟩)) :=
  install_ok hmade

theorem value_putBack {operation : Logged (Bundle PrivateSum × Except Error Unit)}
    {bundle : Bundle PrivateSum} {result : Except Error Unit}
    (hvalue : operation.value = (bundle, result)) :
    (putBack places i h operation).value = (some (result.map fun () => .nothing),
      Function.update places i (some { h with bundle })) := by
  simp only [putBack, Logged.value_bind, hvalue]
  rfl

theorem value_act_accumulate {inputs : List Double} {bundle : Bundle PrivateSum}
    {result : Except Error Unit} (hh : places i = some h)
    (hvalue : (h.bundle.accumulate inputs).value = (bundle, result)) :
    (act places (.accumulate i inputs)).value = (some (result.map fun () => .nothing),
      Function.update places i (some { h with bundle })) := by
  rw [act, hh]
  exact value_putBack hvalue

theorem value_act_merge {bundle : Bundle PrivateSum} {result : Except Error Unit}
    (hpeer : places j = some peer) (hh : Function.update places j none i = some h)
    (hvalue : (h.bundle.merge peer.bundle).value = (bundle, result)) :
    (act places (.merge i j)).value = (some (result.map fun () => .nothing),
      Function.update (Function.update places j none) i (some { h with bundle })) := by
  rw [act, hpeer]
  simp only [hh]
  exact value_putBack hvalue

/-- A bundle is used up by the question for its report, whatever the answer. -/
theorem places_act_report (hh : places i = some h) :
    (act places (.report i)).value.2 = Function.update places i none := by
  rw [act, hh]
  rfl

/-- What relates two programs place by place still does after both put something into one place,
if it relates what they put there. -/
theorem Places.rel_update {R : Option Held → Option Held → Prop} {places places' : Places}
    (hw : ∀ k, R (places k) (places' k)) (i : ℕ) {held held' : Option Held} (hheld : R held held')
    (k : ℕ) : R (Function.update places i held k) (Function.update places' i held' k) := by
  by_cases hk : k = i
  · subst hk
    rwa [Function.update_self, Function.update_self]
  · rw [Function.update_of_ne hk, Function.update_of_ne hk]
    exact hw k

/-! ## Properties of all bundles of a program -/

/-- All bundles that a program holds have this property. -/
def Places.All (P : Held → Prop) (places : Places) : Prop := ∀ i h, places i = some h → P h

variable {P : Held → Prop}

theorem Places.all_empty : Places.All P Places.empty := fun _ _ h => nomatch h

theorem Places.All.update (hall : Places.All P places) (i : ℕ) {held : Option Held}
    (hnew : ∀ h, held = some h → P h) : Places.All P (Function.update places i held) :=
  (Function.forall_update_iff places fun _ held => ∀ h, held = some h → P h).2
    ⟨hnew, fun k _ => hall k⟩

theorem Places.All.put (hall : Places.All P places) (i : ℕ) (hnew : P h) :
    Places.All P (Function.update places i (some h)) :=
  hall.update i fun _ hh => Option.some.inj hh ▸ hnew

theorem Places.All.take (hall : Places.All P places) (i : ℕ) :
    Places.All P (Function.update places i none) := hall.update i nofun

theorem all_visit (hall : Places.All P places) {held : Option Held}
    {work : Held → Logged (Answer × Places)}
    (hwork : ∀ h, held = some h → Places.All P (work h).value.2) :
    Places.All P (visit places held work).value.2 := by
  cases held with
  | none => exact hall
  | some h => exact hwork h rfl

/-- The bundle is what a bundle that its factory made has become. -/
def Held.IsReachable (h : Held) : Prop := Bundle.Reachable h.factory.1 h.spec h.bundle

theorem all_isReachable_putBack (hall : Places.All Held.IsReachable places) (i : ℕ) {h : Held}
    {operation : Logged (Bundle PrivateSum × Except Error Unit)}
    (hnew : Bundle.Reachable h.factory.1 h.spec operation.value.1) :
    Places.All Held.IsReachable (putBack places i h operation).value.2 := by
  rw [value_putBack rfl]
  exact hall.put i hnew

/-- **Calls keep the histories of all bundles.** -/
theorem all_isReachable_act (hall : Places.All Held.IsReachable places) {step : Step}
    (hcall : step.isReload = false) : Places.All Held.IsReachable (act places step).value.2 := by
  cases step with
  | create i f s =>
    cases hmade : (f.1.create s).outcome with
    | error e =>
      rw [act]
      rwa [install_error hmade]
    | ok b =>
      rw [value_act_create hmade]
      exact hall.put i (.create hmade)
  | accumulate i inputs =>
    exact all_visit hall fun h hh =>
      all_isReachable_putBack hall i (.accumulate inputs (hall i h hh))
  | merge i j =>
    have hothers := hall.take j
    exact all_visit hall fun peer _ => all_visit hall fun h hh =>
      all_isReachable_putBack hothers i (.merge peer.bundle (hothers i h hh))
  | isCompatible i j => exact all_visit hall fun _ _ => all_visit hall fun _ _ => hall
  | canReport i => exact all_visit hall fun _ _ => hall
  | checkpoint i now => exact all_visit hall fun _ _ => hall
  | report i => exact all_visit hall fun _ _ => hall.take i
  | reload i now => cases hcall

/-! ## Reloading -/

/-- Every sum is whole and, in absolute value, below `2 ^ 53 / 10`. -/
def IsSmall (b : Bundle PrivateSum) : Prop :=
  ∀ slot ∈ b.slots, ∃ z : ℤ, slot.mechanism.sum.IsWhole z ∧
    10 * z.natAbs < 2 ^ Format.double.precision

/-- A bundle with small sums is reloaded as it is. -/
theorem Held.outcome_reload (hreach : h.IsReachable) (hsmall : IsSmall h.bundle)
    (now : Timestamp) : (h.reload now).outcome = .ok h.bundle := by
  rw [reload, Attempt.outcome_bind, Bundle.outcome_checkpointBytes, ok_bind]
  exact hreach.restoreBytes_of_isWhole h.factory.2 hsmall now

/-- Bundles with small sums are reloaded, and nothing changes. -/
theorem value_act_reload (hreach : Places.All Held.IsReachable places)
    (hsmall : Places.All (fun h => IsSmall h.bundle) places) (i : ℕ) (now : Timestamp) :
    (act places (.reload i now)).value =
      ((places i).map fun h => .ok (.bundle h.bundle), places) := by
  rw [act]
  cases hi : places i with
  | none => rfl
  | some h =>
    change (install places i h.factory h.spec (h.reload now)).value = _
    rw [install_ok (h.outcome_reload (hreach i h hi) (hsmall i h hi) now)]
    exact congrArg _ (hi ▸ Function.update_eq_self i places)

/-- The run with reloads from any places on.  The induction is on the steps; as long as the sums
are small a reload leaves the places to the next step as they are. -/
theorem trace_of_small {steps : List Step} (hreach : Places.All Held.IsReachable places)
    (hnow : Places.All (fun h => IsSmall h.bundle) places)
    (hsmall : ∀ moment ∈ trace places (steps.filter fun step => !step.isReload),
      Places.All (fun h => IsSmall h.bundle) moment.places) :
    (∀ moment ∈ trace places steps, ∀ i now, moment.step = .reload i now →
      moment.answer = (moment.places i).map fun h => .ok (.bundle h.bundle)) ∧
    (trace places steps).filter (fun moment => !moment.step.isReload) =
      trace places (steps.filter fun step => !step.isReload) := by
  induction steps generalizing places with
  | nil => exact ⟨List.forall_mem_nil _, rfl⟩
  | cons step steps ih =>
    cases hstep : step.isReload with
    | true =>
      cases step with
      | reload i now =>
        have hvalue := value_act_reload hreach hnow i now
        have hskip : (Step.reload i now :: steps).filter (fun step => !step.isReload) =
            steps.filter fun step => !step.isReload := rfl
        rw [hskip] at hsmall ⊢
        obtain ⟨hreloads, htrace⟩ := ih hreach hnow hsmall
        rw [trace, hvalue]
        refine ⟨List.forall_mem_cons.2 ⟨fun k now' hk => ?_, hreloads⟩, htrace⟩
        obtain ⟨rfl, _⟩ := Step.reload.inj hk
        rfl
      | _ => cases hstep
    | false =>
      have hkeep : (step :: steps).filter (fun step => !step.isReload) =
          step :: steps.filter fun step => !step.isReload :=
        List.filter_cons_of_pos (by rw [hstep]; rfl)
      rw [hkeep, trace, List.forall_mem_cons] at hsmall
      obtain ⟨hreloads, htrace⟩ := ih (all_isReachable_act hreach hstep) hsmall.1 hsmall.2
      rw [hkeep, trace, trace]
      refine ⟨List.forall_mem_cons.2 ⟨fun k now hk => ?_, hreloads⟩, ?_⟩
      · obtain rfl : step = .reload k now := hk
        cases hstep
      · rw [List.filter_cons_of_pos (by rw [hstep]; rfl), htrace]

/-- **Reloading is transparent.**  Take any program whose calls, run by themselves, leave no
sum but whole ones below `2 ^ 53 / 10` in absolute value, and reload any bundles at any
points of it.  Then every bundle is there after its reload, and without the reloads the run is
that of the calls by themselves: the same calls with the same answers, and after each of
them the same bundles in the same places. -/
theorem reload_transparent (steps : List Step)
    (hsmall : ∀ moment ∈ trace .empty (steps.filter fun step => !step.isReload),
      Places.All (fun h => IsSmall h.bundle) moment.places) :
    (∀ moment ∈ trace .empty steps, ∀ i now, moment.step = .reload i now →
      moment.answer = (moment.places i).map fun h => .ok (.bundle h.bundle)) ∧
    (trace .empty steps).filter (fun moment => !moment.step.isReload) =
      trace .empty (steps.filter fun step => !step.isReload) :=
  trace_of_small Places.all_empty Places.all_empty hsmall

/-- Two sums are reloaded while they take in groups, before one is merged into the other, and
after. -/
theorem reload_transparent_merge :
    let f : SumFactory := ⟨AnySum.factory (.ofNat .double 1), AnySum.isOfSums_factory _⟩
    let s := BundleSpec.sums [1] (.ofNat .double 1) (.zero .double false)
    let steps := [.create 0 f s, .accumulate 0 [.ofInt .double 3], .reload 0 .epoch,
      .create 1 f s, .reload 1 .epoch, .accumulate 1 [.ofInt .double (-5)], .reload 1 .epoch,
      .merge 0 1, .reload 0 .epoch, .report 0]
    (trace .empty steps).filter (fun moment => !moment.step.isReload) =
      trace .empty [.create 0 f s, .accumulate 0 [.ofInt .double 3], .create 1 f s,
        .accumulate 1 [.ofInt .double (-5)], .merge 0 1, .report 0] := by
  intro f s steps
  let held (x : Double) (n : UInt64) : Held := ⟨f, s, .single x n⟩
  have hempty (n : UInt64) : IsSmall (held (.zero .double false) n).bundle :=
    List.forall_mem_singleton.2 ⟨0, Binary.isWhole_zero Format.isWide_double false, by decide⟩
  have hsmall (z : ℤ) (n : UInt64) (hz : 10 * z.natAbs < 2 ^ 53) :
      IsSmall (held (.ofInt .double z) n).bundle := by
    refine List.forall_mem_singleton.2 ⟨z, ?_, hz⟩
    exact Binary.isWhole_ofInt Format.isWide_double (Nat.lt_of_le_of_lt (by omega) hz)
  have hcreate (places : Places) (i : ℕ) : (act places (.create i f s)).value.2 =
      Function.update places i (some (held (.zero .double false) 0)) := by
    have hmade : (f.1.create s).outcome = .ok (.single (.zero .double false) 0) :=
      Bundle.create_single
    rw [value_act_create hmade]
  have hfeed (places : Places) (i : ℕ) (x : Double)
      (hi : places i = some (held (.zero .double false) 0))
      (hx : (Binary.zero .double false).add (Binary.sum [x]) = x) :
      (act places (.accumulate i [x])).value.2 =
        Function.update places i (some (held x 1)) := by
    rw [value_act_accumulate hi (Bundle.accumulate_single hx)]
  have hmerge (places : Places) (h0 : places 0 = some (held (.ofInt .double 3) 1))
      (h1 : places 1 = some (held (.ofInt .double (-5)) 1)) :
      (act places (.merge 0 1)).value.2 = Function.update (Function.update places 1 none) 0
        (some (held (.ofInt .double (-2)) 2)) := by
    have hvalue : ((Bundle.single (.ofInt .double 3) 1).merge
        (.single (.ofInt .double (-5)) 1)).value =
          (.single (.ofInt .double (-2)) 2, .ok ()) := by decide +kernel
    rw [← Function.update_of_ne (f := places) (v := none) Nat.zero_ne_one] at h0
    rw [value_act_merge h1 h0 hvalue]
  refine (reload_transparent steps ?_).2
  change ∀ moment ∈ trace .empty [.create 0 f s, .accumulate 0 [.ofInt .double 3], .create 1 f s,
    .accumulate 1 [.ofInt .double (-5)], .merge 0 1, .report 0], _
  simp only [trace, List.forall_mem_cons, hcreate]
  rw [hfeed _ 0 _ rfl (by decide +kernel), hfeed _ 1 _ rfl (by decide +kernel),
    hmerge _ rfl rfl, places_act_report rfl]
  -- The program holds small sums before every call, so only what the call puts back counts.
  let P (h : Held) : Prop := IsSmall h.bundle
  have first := Places.all_empty.put (P := P) 0 (hempty 0)
  have fed := first.put 0 (hsmall 3 1 (by decide))
  have second := fed.put 1 (hempty 0)
  have both := second.put 1 (hsmall (-5) 1 (by decide))
  have merged := (both.take 1).put 0 (hsmall (-2) 2 (by decide))
  exact ⟨first, fed, second, both, merged, merged.take 0, List.forall_mem_nil _⟩

end Program
end SharedBudget
