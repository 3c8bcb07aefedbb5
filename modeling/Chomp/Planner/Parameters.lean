import Mathlib

/-! CHOMP parameters as the planner reads them, and the escalation the recovery loop applies
after a failed attempt. Floating-point fields are exact field elements.
-/

namespace Chomp.Planner

variable {α : Type}

/-- `ChompParameters`: the fields the planner reads. The cost weights and step settings are
read only by the optimizer, which the planner consults as a collaborator, and are left out.
-/
structure ChompParameters (α : Type) where
  learningRate : α
  ridgeFactor : α
  planningTimeLimit : α
  maxIterations : Int
  enableFailureRecovery : Bool
  maxRecoveryAttempts : Int
  trajectoryInitializationMethod : String
  demoType : String

namespace ChompParameters

/-- Modelled from the spec: `setRecoveryParams` (in the parameters source, not among the
sources) sets the four recovery-relevant fields and keeps the others.
-/
def setRecoveryParams (p : ChompParameters α) (learningRate ridgeFactor planningTimeLimit : α)
    (maxIterations : Int) : ChompParameters α :=
  { p with learningRate, ridgeFactor, planningTimeLimit, maxIterations }

variable [LinearOrderedField α]

/-- The escalation of one failed attempt: `setRecoveryParams(learning_rate_ + 0.02,
ridge_factor_ + 0.002, planning_time_limit_ + 5, max_iterations_ + 50)`.
-/
def escalate (p : ChompParameters α) : ChompParameters α :=
  p.setRecoveryParams (p.learningRate + 0.02) (p.ridgeFactor + 0.002) (p.planningTimeLimit + 5)
    (p.maxIterations + 50)

/-- The parameters after `k` escalations, in closed form. -/
def escalated (p : ChompParameters α) (k : Nat) : ChompParameters α :=
  { p with
    learningRate := p.learningRate + 0.02 * k
    ridgeFactor := p.ridgeFactor + 0.002 * k
    planningTimeLimit := p.planningTimeLimit + 5 * k
    maxIterations := p.maxIterations + 50 * k }

@[simp] theorem escalated_zero (p : ChompParameters α) : p.escalated 0 = p := by
  simp [escalated]

/-- One more escalation adds one more step to every escalated field, by ring arithmetic. -/
theorem escalate_escalated (p : ChompParameters α) (k : Nat)
    : (p.escalated k).escalate = p.escalated (k + 1) := by
  simp only [escalate, escalated, setRecoveryParams, Nat.cast_succ, ChompParameters.mk.injEq]
  exact ⟨by ring, by ring, by ring, by ring, trivial, trivial, trivial, trivial⟩

@[simp] theorem escalated_enableFailureRecovery (p : ChompParameters α) (k : Nat)
    : (p.escalated k).enableFailureRecovery = p.enableFailureRecovery :=
  rfl

@[simp] theorem escalated_maxRecoveryAttempts (p : ChompParameters α) (k : Nat)
    : (p.escalated k).maxRecoveryAttempts = p.maxRecoveryAttempts :=
  rfl

/-- Setting the four fields back to the values captured from `p` restores `p` after any
number of escalations.
-/
theorem escalated_setRecoveryParams (p : ChompParameters α) (k : Nat)
    : (p.escalated k).setRecoveryParams p.learningRate p.ridgeFactor p.planningTimeLimit
        p.maxIterations = p :=
  rfl

end ChompParameters

end Chomp.Planner
