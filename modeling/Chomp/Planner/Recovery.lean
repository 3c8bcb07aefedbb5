import Chomp.Planner.Parameters
import Chomp.Trajectory.GroupTrajectory

/-! The recovery loop of `ChompPlanner::solve`: a fresh optimizer per attempt, parameters
escalated after each failed attempt while recovery is enabled and attempts remain. The loop
body is a step function; the `while (true)` loop runs it until it leaves, which it does
because every repeated pass raises `replan_count` towards `max_recovery_attempts_`.
-/

namespace Chomp.Planner

open Chomp.Trajectory

variable {α : Type}

/-- Modelled from the spec: the `ChompOptimizer` of attempt `k` reports `isInitialized k` and
`optimize k`, and turns the buffer's padded copy into `workingCopy k`, whose free rows merge back.
-/
structure OptimizerBehaviour (α : Type) where
  diffRuleLength : Int
  isInitialized : Nat → Bool
  optimize : Nat → Bool
  workingCopy : Nat → ChompTrajectory α → Nat → Nat → α
  isCollisionFree : Nat → Bool

/-- The buffer after `optimize()` of attempt `k`. -/
def OptimizerBehaviour.optimizedTrajectory [Semiring α] (opt : OptimizerBehaviour α) (k : Nat)
    (groupName : String) (t : ChompTrajectory α) : ChompTrajectory α :=
  let group := t.ofSource groupName opt.diffRuleLength
  t.updateFromGroupTrajectory { group with trajectory := opt.workingCopy k group }

/-- How the loop ends: an optimizer that fails to initialize returns from `solve`, and
`break` leaves the loop.
-/
inductive LoopExit
  | initFailed
  | broke
  deriving DecidableEq, Repr

/-- Locals of the loop: `params_nonconst`, `replan_count`, `replan_flag` and the buffer.
`constructedWith` lists the parameters each constructed optimizer was bound to, in order.
-/
structure RecoveryState (α : Type) where
  params : ChompParameters α
  replanCount : Int
  replanFlag : Bool
  trajectory : ChompTrajectory α
  constructedWith : List (ChompParameters α)

namespace RecoveryState

/-- Before the loop: `replan_count = 0`, `replan_flag = false`, `params_nonconst = params`. -/
def init (p : ChompParameters α) (t : ChompTrajectory α) : RecoveryState α where
  params := p
  replanCount := 0
  replanFlag := false
  trajectory := t
  constructedWith := []

/-- The parameters the next optimizer is bound to, escalated first when `replan_flag` is set. -/
def attemptParams [LinearOrderedField α] (s : RecoveryState α) : ChompParameters α :=
  if s.replanFlag then s.params.escalate else s.params

end RecoveryState

variable [LinearOrderedField α]

/-- One pass of the loop body: escalate if replanning, construct optimizer `k`, return on a
failed initialization, optimize, then replan or `break`.
-/
def recoveryStep (opt : OptimizerBehaviour α) (groupName : String) (s : RecoveryState α)
    : RecoveryState α ⊕ (LoopExit × RecoveryState α) :=
  let params := s.attemptParams
  let k := s.constructedWith.length
  let s := { s with params, constructedWith := s.constructedWith ++ [params] }
  if opt.isInitialized k = false then .inr (.initFailed, s)
  else
    let optimizationResult := opt.optimize k
    let s := { s with trajectory := opt.optimizedTrajectory k groupName s.trajectory }
    if params.enableFailureRecovery then
      if optimizationResult = false ∧ s.replanCount < params.maxRecoveryAttempts then
        .inl { s with replanCount := s.replanCount + 1, replanFlag := true }
      else .inr (.broke, s)
    else .inr (.broke, s)

section Step

variable {opt : OptimizerBehaviour α} {groupName : String} {s next : RecoveryState α}

@[simp] theorem attemptParams_maxRecoveryAttempts (s : RecoveryState α)
    : s.attemptParams.maxRecoveryAttempts = s.params.maxRecoveryAttempts := by
  unfold RecoveryState.attemptParams; split <;> rfl

/-- A pass that loops again had an initialized optimizer whose `optimize()` failed, with
recovery enabled and attempts left; it records the attempt and counts one replan.
-/
theorem recoveryStep_eq_inl (h : recoveryStep opt groupName s = .inl next)
    : opt.isInitialized s.constructedWith.length = true
      ∧ s.attemptParams.enableFailureRecovery = true
      ∧ opt.optimize s.constructedWith.length = false
      ∧ s.replanCount < s.attemptParams.maxRecoveryAttempts
      ∧ next = { params := s.attemptParams
                 replanCount := s.replanCount + 1
                 replanFlag := true
                 trajectory := opt.optimizedTrajectory s.constructedWith.length groupName s.trajectory
                 constructedWith := s.constructedWith ++ [s.attemptParams] } := by
  simp only [recoveryStep] at h
  split_ifs at h with hi he hr
  cases h
  simp_all

/-- A pass that leaves the loop records its attempt; it leaves by `initFailed` exactly when
that optimizer did not initialize, and by `break` when it did and recovery is off, the attempt
succeeded or no attempts are left.
-/
theorem recoveryStep_eq_inr {exit : LoopExit} {final : RecoveryState α}
    (h : recoveryStep opt groupName s = .inr (exit, final))
    : final.params = s.attemptParams
      ∧ final.constructedWith = s.constructedWith ++ [s.attemptParams]
      ∧ (exit = .initFailed ↔ opt.isInitialized s.constructedWith.length = false)
      ∧ (exit = .broke →
          s.attemptParams.enableFailureRecovery = false
          ∨ opt.optimize s.constructedWith.length = true
          ∨ s.attemptParams.maxRecoveryAttempts ≤ s.replanCount) := by
  simp only [recoveryStep] at h
  split_ifs at h with hi he hr <;> cases h <;> simp_all
  exact (Bool.eq_false_or_eq_true _).imp_right hr

/-- The loop measure `max_recovery_attempts_ - replan_count` falls on every repeated pass. -/
theorem recoveryStep_decreasing (h : recoveryStep opt groupName s = .inl next)
    : (next.params.maxRecoveryAttempts - next.replanCount).toNat
      < (s.params.maxRecoveryAttempts - s.replanCount).toNat := by
  obtain ⟨-, -, -, hr, rfl⟩ := recoveryStep_eq_inl h
  simp only [attemptParams_maxRecoveryAttempts] at hr ⊢
  omega

end Step

/-- The `while (true)` loop: run the body until it leaves. -/
def recoveryLoop (opt : OptimizerBehaviour α) (groupName : String) (s : RecoveryState α)
    : LoopExit × RecoveryState α :=
  match h : recoveryStep opt groupName s with
  | .inl next => recoveryLoop opt groupName next
  | .inr done => done
termination_by (s.params.maxRecoveryAttempts - s.replanCount).toNat
decreasing_by exact recoveryStep_decreasing h

-----------------------------------------------------------------------------------------
-- The run law
-----------------------------------------------------------------------------------------

/-- Optimizers the loop may construct: `max(max_recovery_attempts_, 0) + 1` with recovery
enabled, one without.
-/
def attemptBudget (p : ChompParameters α) : Nat :=
  if p.enableFailureRecovery then p.maxRecoveryAttempts.toNat + 1 else 1

/-- The first of attempts `0 .. bound - 1` whose `optimize()` succeeds, or `bound` when none
does.
-/
def firstSuccess (succeeds : Nat → Bool) (bound : Nat) : Nat :=
  Nat.find (p := fun k => k = bound ∨ succeeds k = true) ⟨bound, .inl rfl⟩

theorem firstSuccess_le (succeeds : Nat → Bool) (bound : Nat)
    : firstSuccess succeeds bound ≤ bound :=
  Nat.find_min' _ (.inl rfl)

/-- After `j` failures within the bound, the first success is not before `j`. -/
theorem le_firstSuccess {succeeds : Nat → Bool} {bound j : Nat}
    (failed : ∀ k < j, succeeds k = false) (hj : j ≤ bound)
    : j ≤ firstSuccess succeeds bound :=
  (Nat.le_find_iff _ _).mpr fun k hk hp => by
    rcases hp with hp | hp
    · omega
    · simp [failed k hk] at hp

/-- The loop before attempt `j`: `j` replans counted, attempts `0 .. j - 1` bound to
`0 .. j - 1` escalations, each initialized and failed, the next one bound to `j`
escalations, and `j` inside the budget.
-/
structure AtAttempt (opt : OptimizerBehaviour α) (p : ChompParameters α) (j : Nat)
    (s : RecoveryState α) : Prop where
  replanCount_eq : s.replanCount = j
  constructedWith_eq : s.constructedWith = (List.range j).map p.escalated
  attemptParams_eq : s.attemptParams = p.escalated j
  earlier : ∀ k < j, opt.isInitialized k = true ∧ opt.optimize k = false
  within : j < attemptBudget p

theorem AtAttempt.init (opt : OptimizerBehaviour α) (p : ChompParameters α)
    (t : ChompTrajectory α) : AtAttempt opt p 0 (RecoveryState.init p t) :=
  ⟨rfl, rfl, by simp [RecoveryState.init, RecoveryState.attemptParams],
    fun _ h => absurd h (Nat.not_lt_zero _), by unfold attemptBudget; split <;> omega⟩

/-- A repeated pass moves the loop from attempt `j` to attempt `j + 1`. -/
theorem AtAttempt.step {opt : OptimizerBehaviour α} {p : ChompParameters α} {groupName : String}
    {j : Nat} {s next : RecoveryState α} (at_j : AtAttempt opt p j s)
    (h : recoveryStep opt groupName s = .inl next) : AtAttempt opt p (j + 1) next := by
  obtain ⟨hi, he, ho, hr, rfl⟩ := recoveryStep_eq_inl h
  have hlen : s.constructedWith.length = j := by simp [at_j.constructedWith_eq]
  rw [at_j.attemptParams_eq] at he hr
  rw [at_j.replanCount_eq] at hr
  refine ⟨by simp [at_j.replanCount_eq], ?_, ?_, fun k hk => ?_, ?_⟩
  · simp [at_j.constructedWith_eq, at_j.attemptParams_eq, List.range_succ]
  · exact (congrArg ChompParameters.escalate at_j.attemptParams_eq).trans
      (ChompParameters.escalate_escalated p j)
  · rcases Nat.lt_succ_iff_lt_or_eq.mp hk with hk | rfl
    · exact at_j.earlier k hk
    · exact ⟨hlen ▸ hi, hlen ▸ ho⟩
  · simp only [attemptBudget, ChompParameters.escalated_enableFailureRecovery,
      ChompParameters.escalated_maxRecoveryAttempts] at he hr ⊢
    simp only [he, if_true]
    omega

/-- What the loop has done when it leaves: optimizer `k` bound to `k` escalations, all but the
last initialized and failed, `initFailed` exactly when the last did not initialize, and after
`break` `min(k₀ + 1, budget)` optimizers, `k₀` the first success.
-/
structure RunLaw (opt : OptimizerBehaviour α) (p : ChompParameters α) (exit : LoopExit)
    (s : RecoveryState α) : Prop where
  constructedWith_eq : s.constructedWith = (List.range s.constructedWith.length).map p.escalated
  params_eq : s.params = p.escalated (s.constructedWith.length - 1)
  attempts_pos : 0 < s.constructedWith.length
  attempts_le : s.constructedWith.length ≤ attemptBudget p
  earlier
    : ∀ k, k + 1 < s.constructedWith.length →
        opt.isInitialized k = true ∧ opt.optimize k = false
  initFailed_iff : exit = .initFailed ↔ opt.isInitialized (s.constructedWith.length - 1) = false
  broke_attempts
    : exit = .broke →
        s.constructedWith.length
          = min (firstSuccess opt.optimize (attemptBudget p) + 1) (attemptBudget p)

/-- A pass from attempt `j` that leaves the loop ends in a state satisfying the run law, by
the three ways a `break` happens.
-/
theorem AtAttempt.exit {opt : OptimizerBehaviour α} {p : ChompParameters α} {groupName : String}
    {j : Nat} {s final : RecoveryState α} {exit : LoopExit} (at_j : AtAttempt opt p j s)
    (h : recoveryStep opt groupName s = .inr (exit, final)) : RunLaw opt p exit final := by
  obtain ⟨hp, hc, hinit, hbroke⟩ := recoveryStep_eq_inr h
  have hlen : s.constructedWith.length = j := by simp [at_j.constructedWith_eq]
  have hfinal : final.constructedWith = (List.range (j + 1)).map p.escalated := by
    rw [hc, at_j.constructedWith_eq, at_j.attemptParams_eq, List.range_succ, List.map_append,
      List.map_singleton]
  have hflen : final.constructedWith.length = j + 1 := by simp [hfinal]
  have within := at_j.within
  refine ⟨by rw [hflen]; exact hfinal, by rw [hflen, Nat.add_sub_cancel, hp, at_j.attemptParams_eq],
    by omega, by omega, fun k hk => at_j.earlier k (by omega),
    by rw [hflen, Nat.add_sub_cancel, hinit, hlen], fun hb => ?_⟩
  rw [hflen]
  have failed : ∀ k < j, opt.optimize k = false := fun k hk => (at_j.earlier k hk).2
  rw [at_j.attemptParams_eq, at_j.replanCount_eq, ← hlen] at hbroke
  rcases hbroke hb with hoff | hsucc | hmax
  · have : attemptBudget p = 1 := by simp [attemptBudget, ← hoff]
    omega
  · have : firstSuccess opt.optimize (attemptBudget p) = j :=
      le_antisymm (Nat.find_min' _ (.inr (hlen ▸ hsucc))) (le_firstSuccess failed within.le)
    omega
  · rw [ChompParameters.escalated_maxRecoveryAttempts] at hmax
    have := le_firstSuccess failed within.le
    have := firstSuccess_le opt.optimize (attemptBudget p)
    have : attemptBudget p ≤ p.maxRecoveryAttempts.toNat + 1 := by
      unfold attemptBudget; split <;> omega
    omega

/-- From any attempt `j`, the loop ends in a state satisfying the run law, by the loop's own
induction: each repeated pass moves to attempt `j + 1`, the leaving pass is `AtAttempt.exit`.
-/
theorem recoveryLoop_runLaw (opt : OptimizerBehaviour α) (p : ChompParameters α)
    (groupName : String) (s : RecoveryState α) (j : Nat) (at_j : AtAttempt opt p j s)
    : RunLaw opt p (recoveryLoop opt groupName s).1 (recoveryLoop opt groupName s).2 := by
  induction s using recoveryLoop.induct opt groupName generalizing j with
  | case1 s next h ih =>
      rw [recoveryLoop, h]
      exact ih (j + 1) (at_j.step h)
  | case2 s done h =>
      rw [recoveryLoop, h]
      exact at_j.exit h

/-- The run law of the loop as `solve` starts it, at attempt 0. -/
theorem recoveryLoop_init_runLaw (opt : OptimizerBehaviour α) (p : ChompParameters α)
    (groupName : String) (t : ChompTrajectory α)
    : RunLaw opt p (recoveryLoop opt groupName (.init p t)).1
        (recoveryLoop opt groupName (.init p t)).2 :=
  recoveryLoop_runLaw opt p groupName _ 0 (AtAttempt.init opt p t)

/-- The loop keeps the buffer's point count, since every optimizer writes back in place, by
the loop's own induction.
-/
theorem recoveryLoop_numPoints (opt : OptimizerBehaviour α) (groupName : String)
    (s : RecoveryState α)
    : (recoveryLoop opt groupName s).2.trajectory.numPoints = s.trajectory.numPoints := by
  induction s using recoveryLoop.induct opt groupName with
  | case1 s next h ih =>
      rw [recoveryLoop, h, ih]
      obtain ⟨-, -, -, -, rfl⟩ := recoveryStep_eq_inl h
      rfl
  | case2 s done h =>
      rw [recoveryLoop, h]
      simp only [recoveryStep] at h
      split_ifs at h <;> cases h <;> rfl

-----------------------------------------------------------------------------------------
-- The buffer through the loop
-----------------------------------------------------------------------------------------

/-- One pass of the body leaves the buffer as it was or as the attempt's write-back left it;
either way a pass over the free rows.
-/
theorem recoveryStep_keepsFixedRows (opt : OptimizerBehaviour α) (groupName : String)
    (s : RecoveryState α)
    : ChompTrajectory.KeepsFixedRows s.trajectory
        ((recoveryStep opt groupName s).elim RecoveryState.trajectory fun done => done.2.trajectory) := by
  simp only [recoveryStep]
  split_ifs <;>
    first
    | exact .refl _
    | exact ChompTrajectory.updateFromGroupTrajectory_keepsFixedRows _ _

/-- Whatever the optimizers do, a run of the recovery loop changes only the free rows of the
planner's buffer: its shape and every row outside `start_index_ .. end_index_`, the start and
goal rows among them, are as before the loop. By the loop's own induction from the step lemma.
-/
theorem recoveryLoop_keepsFixedRows (opt : OptimizerBehaviour α) (groupName : String)
    (s : RecoveryState α)
    : ChompTrajectory.KeepsFixedRows s.trajectory (recoveryLoop opt groupName s).2.trajectory := by
  induction s using recoveryLoop.induct opt groupName with
  | case1 s next h ih =>
      have step := recoveryStep_keepsFixedRows opt groupName s
      rw [h] at step
      rw [recoveryLoop, h]
      exact step.trans ih
  | case2 s done h =>
      have step := recoveryStep_keepsFixedRows opt groupName s
      rw [h] at step
      rw [recoveryLoop, h]
      exact step

/-- The loop's invariant on the buffer, field by field: after any run, from any loop state
and whatever the optimizers do, the buffer differs from the one the run started with only in
its matrix, and only in rows `start_index_ .. end_index_`.
-/
theorem recoveryLoop_fixed_rows (opt : OptimizerBehaviour α) (groupName : String)
    (s : RecoveryState α)
    : (recoveryLoop opt groupName s).2.trajectory
        = { s.trajectory with trajectory := (recoveryLoop opt groupName s).2.trajectory.trajectory }
      ∧ ∀ i : Nat, ((i : Int) < s.trajectory.startIndex ∨ s.trajectory.endIndex < i) →
          (recoveryLoop opt groupName s).2.trajectory.trajectory i = s.trajectory.trajectory i :=
  ⟨(recoveryLoop_keepsFixedRows opt groupName s).shape,
    (recoveryLoop_keepsFixedRows opt groupName s).fixed_rows⟩

/-- A run applies the results of attempts `L .. L + n - 1` in order to its buffer, each built
on the last one's, and builds `n` optimizers, one more when the last fails to initialize.
-/
theorem recoveryLoop_chain (opt : OptimizerBehaviour α) (groupName : String) (s : RecoveryState α)
    : ∃ n, (recoveryLoop opt groupName s).2.trajectory
          = (List.range' s.constructedWith.length n).foldl
              (fun t k => opt.optimizedTrajectory k groupName t) s.trajectory
        ∧ (recoveryLoop opt groupName s).2.constructedWith.length
          = s.constructedWith.length + n
            + if (recoveryLoop opt groupName s).1 = .initFailed then 1 else 0 := by
  induction s using recoveryLoop.induct opt groupName with
  | case1 s next h ih =>
      rw [recoveryLoop, h]
      dsimp only
      obtain ⟨-, -, -, -, rfl⟩ := recoveryStep_eq_inl h
      obtain ⟨n, trajectory, attempts⟩ := ih
      simp only [List.length_append, List.length_singleton] at trajectory attempts
      refine ⟨n + 1, ?_, by rw [attempts]; omega⟩
      rw [trajectory, List.range'_succ, List.foldl_cons]
  | case2 s done h =>
      rw [recoveryLoop, h]
      simp only [recoveryStep] at h
      split_ifs at h <;> cases h
      · exact ⟨0, rfl, by simp⟩
      · exact ⟨1, rfl, by simp⟩
      · exact ⟨1, rfl, by simp⟩

end Chomp.Planner
