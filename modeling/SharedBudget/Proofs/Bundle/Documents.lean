/-
# From a document or as it is

A factory takes a checkpoint as it is or as its document.  A document is checked while
it is read, before anything else; a checkpoint as it is comes to its check only after
the threshold, the number of mechanisms and the number of entries.  So the rules are
met in two orders, and a checkpoint that is not valid may be refused with two errors.
That is all the difference (`Factory.restoreBytes_iff_restore`): the same bundles are
made either way, and with a valid checkpoint the errors are the same as well.
-/

import SharedBudget.Proofs.Bundle.Rules
import SharedBudget.Proofs.Checkpoint

namespace SharedBudget
namespace Factory

variable {α π : Type} {f : Factory α π} {s : BundleSpec} {c : Checkpoint}

/-- The document of a checkpoint is checked first, and then it is as good as the checkpoint. -/
theorem outcome_restoreBytes_encode (f : Factory α π) (s : BundleSpec) (c : Checkpoint) :
    (f.restoreBytes s c.encode).outcome =
      c.check.mapError Error.state >>= fun _ => (f.restore s c).outcome := by
  rw [restoreBytes, outcome_concluded, Attempt.outcome_bind, Attempt.outcome_mapError,
    Checkpoint.outcome_ofBytes, Checkpoint.decode_encode_eq]
  cases c.check <;> rfl

/-- A checkpoint that is not valid is refused as it is: by a rule that comes before its check, and
for what is wrong with it if none of these is broken. -/
theorem restore_of_check_error {e : Checkpoint.Error} (h : c.check = .error e) :
    (f.restore s c).outcome = .error
      (([.threshold, .nonempty, .entryCount].findSome? (f.breach s (some c))).getD (.state e)) := by
  have hcheck : f.breach s (some c) .validCheckpoint = some (.state e) := by simp [breach, h]
  have horder : Rule.inOrder s.nested.length =
      [.threshold, .nonempty, .entryCount] ++ ([.validCheckpoint] ++
        ((List.range s.nested.length).flatMap Rule.ofMechanism ++ Rule.ofParameters)) :=
    List.append_assoc ..
  have hobeys : Obeys (f.breach s (some c)) (Rule.inOrder s.nested.length)
      (f.restore s c).outcome := obeys_make
  refine (hobeys.eq_error_iff _).2 ?_
  rw [horder, List.findSome?_append, List.findSome?_append, List.findSome?_singleton, hcheck]
  cases [Rule.threshold, .nonempty, .entryCount].findSome? (f.breach s (some c)) <;> rfl

/-- **A document is as good as its checkpoint.**  A bundle is made from the document of a
checkpoint exactly if it is made from the checkpoint, and it is the same bundle.  If the
checkpoint is valid the errors are the same too.  If it is not, its document is refused for what
is wrong with it, and so is the checkpoint as it is, unless the threshold, the number of
mechanisms or the number of entries is already wrong. -/
theorem restoreBytes_iff_restore (f : Factory α π) (s : BundleSpec) (c : Checkpoint) :
    (∀ b, (f.restoreBytes s c.toBytes.value).outcome = .ok b ↔ (f.restore s c).outcome = .ok b) ∧
    (c.validate.outcome = .ok () →
      (f.restoreBytes s c.toBytes.value).outcome = (f.restore s c).outcome) ∧
    ∀ e, c.validate.outcome = .error e →
      (f.restoreBytes s c.toBytes.value).outcome = .error (.state e) ∧
        (f.restore s c).outcome = .error (([.threshold, .nonempty, .entryCount].findSome?
          (f.breach s (some c))).getD (.state e)) := by
  rw [Checkpoint.outcome_validate, Checkpoint.value_toBytes, outcome_restoreBytes_encode]
  cases hcheck : c.check with
  | ok _ => exact ⟨fun b => Iff.rfl, fun _ => rfl, nofun⟩
  | error e =>
    have hrefused := restore_of_check_error (f := f) (s := s) hcheck
    refine ⟨fun b => ?_, nofun, fun e' he => ?_⟩
    · rw [hrefused]
      exact ⟨nofun, nofun⟩
    · obtain rfl := Except.error.inj he
      exact ⟨rfl, hrefused⟩

end Factory
end SharedBudget
