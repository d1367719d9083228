/-
# Mechanisms

A mechanism absorbs groups of values, can be merged with another one, and can be
written down and read back.  Only some mechanisms promise differential privacy;
these can report, and only these may be nested in a bundle.  `V` is the type of
the values, which a bundle hands on and never looks at.

Mechanisms of different kinds live together in a sum type and do not mix.
-/

import SharedBudget.Error
import SharedBudget.Spec

namespace SharedBudget

/-- A kind of mechanism that absorbs values of type `V`. -/
class Mechanism (μ : Type) (V : outParam Type) where
  /-- The error of merging a mechanism of another kind into this one. -/
  refusal : μ → Error
  /-- The mechanism after one more group of values. -/
  accumulate : μ → List V → Except Error μ
  /-- Whether the second mechanism can be merged into the first. -/
  isCompatible : μ → μ → Bool
  /-- The first mechanism with what the second has absorbed. -/
  merge : μ → μ → Except Error μ
  /-- Whether enough has been absorbed for a report. -/
  canReport : μ → Bool
  /-- The state of the mechanism as a blob. -/
  serialize : μ → Except Error Bytes

/-- A kind of mechanism that promises differential privacy. -/
class PrivateMechanism (μ : Type) (V : outParam Type) extends Mechanism μ V where
  /-- The result, with noise according to a share of the budget. -/
  report : μ → (epsilon delta : Double) → Except Error (List V)

namespace Mechanism

variable {α β V : Type}

instance [Mechanism α V] [Mechanism β V] : Mechanism (α ⊕ β) V where
  refusal
    | .inl a => refusal a
    | .inr b => refusal b
  accumulate
    | .inl a, inputs => .inl <$> accumulate a inputs
    | .inr b, inputs => .inr <$> accumulate b inputs
  isCompatible
    | .inl a, .inl a' => isCompatible a a'
    | .inr b, .inr b' => isCompatible b b'
    | _, _ => false
  merge
    | .inl a, .inl a' => .inl <$> merge a a'
    | .inr b, .inr b' => .inr <$> merge b b'
    | .inl a, .inr _ => .error (refusal a)
    | .inr b, .inl _ => .error (refusal b)
  canReport
    | .inl a => canReport a
    | .inr b => canReport b
  serialize
    | .inl a => serialize a
    | .inr b => serialize b

instance [PrivateMechanism α V] [PrivateMechanism β V] : PrivateMechanism (α ⊕ β) V where
  report
    | .inl a => PrivateMechanism.report a
    | .inr b => PrivateMechanism.report b

end Mechanism

/-- How mechanisms of type `α` are made for one identifier. -/
structure Maker (α : Type) where
  /-- A fresh mechanism. -/
  create : MechanismSpec → Except Error α
  /-- A mechanism with the state in a blob. -/
  restore : MechanismSpec → Bytes → Except Error α

/-- A maker whose mechanisms become part of a larger type. -/
def Maker.map {α β : Type} (f : α → β) (m : Maker α) : Maker β where
  create s := f <$> m.create s
  restore s blob := f <$> m.restore s blob

end SharedBudget
