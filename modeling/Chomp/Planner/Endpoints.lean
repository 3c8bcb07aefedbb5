import Chomp.Planner.Output
import Chomp.Planner.WrapAround

/-! What the planner's buffer carries from its preparation to the answer. The optimizers
write back only free rows, so the start row and the goal row the preparation writes reach the
output untouched: an accepted plan starts at the start state and ends at the goal with the
wrap-around fix (with the file-backed initialization, at the file's first and last rows), and
the goal-constraint gate answers as it would have on the prepared buffer. The interpolating
fills read only the rows around the free range, so initializing is idempotent, leaves nothing
of `init()`'s memory, and moves every joint monotonically from start to goal; the recovery
attempts are chained, each optimizing the buffer the one before it left.
-/

namespace Chomp.Planner

open Chomp.Robot Chomp.Trajectory

variable {α : Type} [LinearOrderedField α]

-----------------------------------------------------------------------------------------
-- The last waypoint
-----------------------------------------------------------------------------------------

/-- The last waypoint of the output is the inner loop on the last row, with the boundary
velocities of `initial_vel`.
-/
theorem outputTrajectory_getLastD (env : PlanningEnvironment α) (groupName : String)
    (t : ChompTrajectory α) (points : 0 < t.numPoints) (d : RobotState α)
    : (outputTrajectory env groupName t).waypoints.getLastD d
      = waypointState (t.trajectory (t.numPoints - 1))
          (fun k => (List.replicate 7 0).getD k (env.initialVelPastEnd k))
          (env.robotModel.getActiveJointModels groupName) 0 env.startState := by
  have last := outputTrajectory_getWayPoint env groupName t (i := t.numPoints - 1) (by omega)
  rw [RobotTrajectory.getWayPoint?] at last
  rw [List.getLastD_eq_getLast?, List.getLast?_eq_getElem?, outputTrajectory_length, last]
  simp only [or_true, if_true, Option.getD_some]

/-- The goal-constraint loop reads a buffer only through its point count and its last row. -/
theorem goalConstraintsSatisfied_congr (env : PlanningEnvironment α) (goal : Constraints α)
    (groupName : String) {t t' : ChompTrajectory α} (points : t'.numPoints = t.numPoints)
    (positive : 0 < t.numPoints)
    (last : t'.trajectory (t.numPoints - 1) = t.trajectory (t.numPoints - 1))
    : goalConstraintsSatisfied env goal (outputTrajectory env groupName t')
      = goalConstraintsSatisfied env goal (outputTrajectory env groupName t) := by
  unfold goalConstraintsSatisfied
  rw [outputTrajectory_getLastD env groupName t' (by omega),
    outputTrajectory_getLastD env groupName t positive, points, last]

-----------------------------------------------------------------------------------------
-- The arm with optimizers that find no collision
-----------------------------------------------------------------------------------------

/-- The arm environment whose optimizers report no collision. -/
def acceptingEnvironment : PlanningEnvironment ℚ :=
  { collidingEnvironment with
    optimizer := { collidingEnvironment.optimizer with isCollisionFree := fun _ => true } }

theorem acceptingEnvironment_valid : ValidRequest acceptingEnvironment armRequest armGoal :=
  ⟨rfl, rfl, rfl, List.cons_ne_nil _ _, rfl, rfl, rfl⟩

/-- The arm's request is accepted, by the gate cases: the one optimizer initializes, reports
no collision, and every goal constraint holds.
-/
theorem acceptingEnvironment_accepts (method : String)
    : (solve acceptingEnvironment armRequest (armParams method) emptyResponse).1 = true := by
  rw [solve_of_valid _ _ acceptingEnvironment_valid]
  rcases optimizeAndRespond_cases acceptingEnvironment armRequest (armParams method)
      emptyResponse armGoal (prepareTrajectory acceptingEnvironment armRequest (armParams method)
        (goalStateOf acceptingEnvironment armGoal))
    with ⟨exit, s, run, ⟨failed, -⟩ | ⟨-, collision, -⟩ | ⟨-, -, goals, -⟩ | ⟨-, -, -, h⟩⟩
  · have law := recoveryLoop_init_runLaw acceptingEnvironment.optimizer (armParams method)
      armRequest.groupName (prepareTrajectory acceptingEnvironment armRequest (armParams method)
        (goalStateOf acceptingEnvironment armGoal))
    rw [run] at law
    exact Bool.noConfusion (law.initFailed_iff.mp failed : true = false)
  · exact Bool.noConfusion (collision : true = false)
  · exact Bool.noConfusion (goals : true = false)
  · rw [h]

-----------------------------------------------------------------------------------------
-- The prepared buffer
-----------------------------------------------------------------------------------------

/-- The start row and the goal row once the start state, the goal state and the wrap-around
fix are written: the start state's group positions, and the goal state's with each continuous
joint moved to the start plus the angular distance to its goal.
-/
theorem adjustGoal_boundary_rows (shortestAngularDistance : α → α → α)
    (group : List JointModel) (start goal : RobotState α) (t : ChompTrajectory α)
    (two : 2 ≤ t.numPoints) {k : Nat} (hk : k < group.length)
    : let adjusted := adjustGoal shortestAngularDistance group
        (robotStateToArray goal group (robotStateToArray start group t 0) (t.numPoints - 1))
        (t.numPoints - 1)
      adjusted.trajectory 0 k = start.position group[k].firstVariableIndex
      ∧ adjusted.trajectory (t.numPoints - 1) k
        = if group[k].type = .revolute true then
            start.position group[k].firstVariableIndex
              + shortestAngularDistance (start.position group[k].firstVariableIndex)
                (goal.position group[k].firstVariableIndex)
          else goal.position group[k].firstVariableIndex := by
  have apart : 0 ≠ t.numPoints - 1 := by omega
  have found : group[k]? = some group[k] := List.getElem?_eq_getElem hk
  refine ⟨?_, ?_⟩
  · rw [adjustGoal_trajectory, if_neg fun h => apart h.1, robotStateToArray_trajectory,
      writeRow_of_ne _ _ apart, robotStateToArray_trajectory, writeRow_map_self _ _ _ _ hk]
    rfl
  · rw [adjustGoal_trajectory, robotStateToArray_trajectory, writeRow_of_ne _ _ apart,
      robotStateToArray_trajectory, writeRow_map_self _ _ _ _ hk, writeRow_map_self _ _ _ _ hk,
      found]
    simp only [true_and, Option.map_some', Option.some.injEq]
    rfl

/-- The same two rows after every initialization but the file-backed one, which writes free
rows only once the free range leaves out the first and last rows.
-/
theorem initializeTrajectory_boundary_rows (env : PlanningEnvironment α)
    {params : ChompParameters α} (method : params.trajectoryInitializationMethod ≠ "equal")
    (group : List JointModel) (start goal : RobotState α) (t : ChompTrajectory α)
    (two : 2 ≤ t.numPoints) (first : 1 ≤ t.startIndex)
    (last : t.endIndex < ((t.numPoints - 1 : Nat) : Int)) {k : Nat} (hk : k < group.length)
    : let prepared := initializeTrajectory env params
        (adjustGoal env.shortestAngularDistance group
          (robotStateToArray goal group (robotStateToArray start group t 0) (t.numPoints - 1))
          (t.numPoints - 1))
      prepared.trajectory 0 k = start.position group[k].firstVariableIndex
      ∧ prepared.trajectory (t.numPoints - 1) k
        = if group[k].type = .revolute true then
            start.position group[k].firstVariableIndex
              + env.shortestAngularDistance (start.position group[k].firstVariableIndex)
                (goal.position group[k].firstVariableIndex)
          else goal.position group[k].firstVariableIndex := by
  intro prepared
  have keeps := initializeTrajectory_keepsFixedRows env
    (t := adjustGoal env.shortestAngularDistance group
      (robotStateToArray goal group (robotStateToArray start group t 0) (t.numPoints - 1))
      (t.numPoints - 1)) method first
  have rows := adjustGoal_boundary_rows env.shortestAngularDistance group start goal t two hk
  rw [keeps.fixed_rows 0 (.inl (by simp only [adjustGoal, robotStateToArray]; omega)),
    keeps.fixed_rows _ (.inr last)]
  exact rows

/-- Each interpolating initialization of an unpadded buffer moves every joint along a weight
`w` rising from 0 at the first row to 1 at the last: row `r` holds `x₀ + (x_g - x₀) w(r)`.
-/
theorem initializeTrajectory_schedule (env : PlanningEnvironment α) {params : ChompParameters α}
    (method : params.trajectoryInitializationMethod = "quintic-spline"
      ∨ params.trajectoryInitializationMethod = "linear"
      ∨ params.trajectoryInitializationMethod = "cubic")
    (t : ChompTrajectory α) (unpadded : t.startIndex = 1) (last : t.endIndex = t.numPoints - 2)
    (points : 3 ≤ t.numPoints) (disc : 0 < t.discretization) {k : Nat} (hk : k < t.numJoints)
    : ∃ w : Nat → α, w 0 = 0 ∧ w (t.numPoints - 1) = 1
        ∧ (∀ r r', r ≤ r' → r' < t.numPoints → w r ≤ w r')
        ∧ ∀ r < t.numPoints, (initializeTrajectory env params t).trajectory r k
          = t.trajectory 0 k + (t.trajectory (t.numPoints - 1) k - t.trajectory 0 k) * w r := by
  have interpolating : params.trajectoryInitializationMethod ≠ "equal" := by
    rcases method with h | h | h <;> rw [h] <;> decide
  have keeps := initializeTrajectory_keepsFixedRows env (t := t) interpolating (by omega)
  obtain ⟨start, goal, divisor⟩ := ChompTrajectory.unpadded_divisor (α := α) unpadded last points
  -- Rows 0 and `N - 1` are kept, so a weight through 0 and 1 that gives the free rows gives
  -- every row.
  suffices free : ∃ w : Nat → α, w 0 = 0 ∧ w (t.numPoints - 1) = 1
      ∧ (∀ r r', r ≤ r' → r' < t.numPoints → w r ≤ w r')
      ∧ ∀ r, 1 ≤ r → r ≤ t.numPoints - 2 → (initializeTrajectory env params t).trajectory r k
        = t.trajectory 0 k + (t.trajectory (t.numPoints - 1) k - t.trajectory 0 k) * w r by
    obtain ⟨w, w0, w1, mono, free⟩ := free
    refine ⟨w, w0, w1, mono, fun r hr => ?_⟩
    by_cases inside : 1 ≤ r ∧ r ≤ t.numPoints - 2
    · exact free r inside.1 inside.2
    rcases (show r = 0 ∨ r = t.numPoints - 1 by omega) with rfl | rfl
    · rw [keeps.fixed_rows 0 (.inl (by omega)), w0]
      ring
    · rw [keeps.fixed_rows _ (.inr (by omega)), w1]
      ring
  rcases method with h | h | h
  · -- The quintic's weight at the row's share `r / (N - 1)` of the fill's duration.
    refine ⟨fun r => minJerkWeight (cappedRatio (t.numPoints - 1) r), by simp,
      by beta_reduce; rw [cappedRatio_of_ge (by omega) le_rfl, minJerkWeight_one],
      fun r r' h _ => minJerkWeight_mono (cappedRatio_mono _ h), fun r r1 r2 => ?_⟩
    have time : t.fillTime r / t.fillDuration = cappedRatio (t.numPoints - 1) r := by
      have elapsed : ((((r : Int) - (t.startIndex - 1)) : Int) : α) = r := by
        rw [unpadded]
        push_cast
        ring
      have total : ((t.endIndex + 1 - (t.startIndex - 1) : Int) : α)
          = ((t.numPoints - 1 : Nat) : α) := by
        rw [unpadded, last, Nat.cast_sub (by omega)]
        push_cast
        ring
      rw [ChompTrajectory.fillTime, ChompTrajectory.fillDuration, elapsed, total,
        mul_div_mul_right _ _ disc.ne', cappedRatio_of_le (by omega) (by omega)]
    rw [show initializeTrajectory env params t = t.fillInMinJerk by
        simp [initializeTrajectory, h],
      ChompTrajectory.fillInMinJerk_trajectory t (by omega), if_pos ⟨by omega, by omega, hk⟩,
      minJerkPosition_eq_weight, time]
    simp only [ChompTrajectory.fillStart, ChompTrajectory.fillEnd, start, goal]
  · -- The row's share `r / (N - 2)` of the planner's divisor, capped on the goal row.
    refine ⟨cappedRatio (t.numPoints - 2), cappedRatio_zero _,
      cappedRatio_of_ge (by omega) (by omega), fun r r' h _ => cappedRatio_mono _ h,
      fun r r1 r2 => ?_⟩
    rw [show initializeTrajectory env params t = t.fillInLinearInterpolation by
        simp [initializeTrajectory, h],
      ChompTrajectory.fillInLinearInterpolation_trajectory t (by omega),
      if_pos ⟨hk, by omega, by omega⟩, start, goal, divisor, cappedRatio_of_le (by omega) r2]
    ring
  · -- The smoothstep of that capped share.
    refine ⟨fun r => smoothstep (cappedRatio (t.numPoints - 2) r), by simp,
      by beta_reduce; rw [cappedRatio_of_ge (by omega) (by omega), smoothstep_one],
      fun r r' h _ => smoothstep_mono (cappedRatio_mem _ _).1 (cappedRatio_mono _ h)
        (cappedRatio_mem _ _).2,
      fun r r1 r2 => ?_⟩
    beta_reduce
    rw [show initializeTrajectory env params t = t.fillInCubicInterpolation by
        simp [initializeTrajectory, h],
      ChompTrajectory.fillInCubicInterpolation_trajectory t (by omega),
      if_pos ⟨hk, by omega, by omega⟩, start, goal, divisor,
      ChompTrajectory.cubicPosition_steps _ _ (by norm_num), cappedRatio_of_le (by omega) r2,
      smoothstep]

/-- On a buffer the fills can run on, a valid free range from row 1 on, initializing twice is
initializing once: each fill reads only rows it does not write.
-/
theorem initializeTrajectory_idempotent (env : PlanningEnvironment α) (params : ChompParameters α)
    {t : ChompTrajectory α} (fillable : t.FreeRangeValid ∧ 1 ≤ t.startIndex)
    : initializeTrajectory env params (initializeTrajectory env params t)
      = initializeTrajectory env params t := by
  obtain ⟨-, start⟩ := fillable
  by_cases minJerk : params.trajectoryInitializationMethod = "quintic-spline"
  · simp only [initializeTrajectory, if_pos minJerk]
    exact ChompTrajectory.fillInMinJerk_freeRowsFill.idempotent start
  by_cases linear : params.trajectoryInitializationMethod = "linear"
  · simp only [initializeTrajectory, if_neg minJerk, if_pos linear]
    exact ChompTrajectory.fillInLinearInterpolation_freeRowsFill.idempotent start
  by_cases cubic : params.trajectoryInitializationMethod = "cubic"
  · simp only [initializeTrajectory, if_neg minJerk, if_neg linear, if_pos cubic]
    exact ChompTrajectory.fillInCubicInterpolation_freeRowsFill.idempotent start
  simp only [initializeTrajectory, if_neg minJerk, if_neg linear, if_neg cubic]
  split_ifs <;> rfl

/-- The four-point buffer, initialized linearly a second time, is as after the first time. -/
theorem initializeTrajectory_idempotent_four
    : (fourPointTrajectory.FreeRangeValid ∧ 1 ≤ fourPointTrajectory.startIndex)
      ∧ initializeTrajectory collidingEnvironment (armParams "linear")
          (initializeTrajectory collidingEnvironment (armParams "linear") fourPointTrajectory)
        = initializeTrajectory collidingEnvironment (armParams "linear") fourPointTrajectory := by
  have fillable : fourPointTrajectory.FreeRangeValid ∧ 1 ≤ fourPointTrajectory.startIndex :=
    ⟨⟨by decide, by decide, by decide⟩, le_rfl⟩
  exact ⟨fillable, initializeTrajectory_idempotent _ _ fillable⟩

/-- On a buffer with free rows `1 .. N - 2`, the start row, the goal row and a known
initialization leave nothing of the earlier matrix in the rows and the group's columns.
-/
theorem initializeTrajectory_unpadded_congr (env : PlanningEnvironment α)
    {params : ChompParameters α}
    (method : params.trajectoryInitializationMethod ∈ initializationMethods)
    (group : List JointModel) (start goal : RobotState α) (t t' : ChompTrajectory α)
    (shape : t' = { t with trajectory := t'.trajectory }) (unpadded : t.startIndex = 1)
    (last : t.endIndex = t.numPoints - 2) (two : 2 ≤ t.numPoints) {r k : Nat}
    (hr : r < t.numPoints) (hk : k < group.length) (columns : k < t.numJoints)
    : let adjusted := fun t : ChompTrajectory α => adjustGoal env.shortestAngularDistance group
        (robotStateToArray goal group (robotStateToArray start group t 0) (t.numPoints - 1))
        (t.numPoints - 1)
      (initializeTrajectory env params (adjusted t')).trajectory r k
        = (initializeTrajectory env params (adjusted t)).trajectory r k := by
  intro adjusted
  obtain ⟨m, rfl⟩ : ∃ m, t' = { t with trajectory := m } := ⟨_, shape⟩
  obtain ⟨first, goalRow⟩ :=
    adjustGoal_boundary_rows env.shortestAngularDistance group start goal t two hk
  obtain ⟨first', goalRow'⟩ := adjustGoal_boundary_rows env.shortestAngularDistance group start
    goal { t with trajectory := m } two hk
  have rows : ∀ i : Nat, (i = 0 ∨ i = t.numPoints - 1) →
      (adjusted { t with trajectory := m }).trajectory i k = (adjusted t).trajectory i k := by
    rintro i (rfl | rfl)
    · exact first'.trans first.symm
    · exact goalRow'.trans goalRow.symm
  refine initializeTrajectory_entry_congr env (t := adjusted t) rfl (by show 1 ≤ t.startIndex; omega)
    method columns
    (rows _ (.inl (show (t.startIndex - 1).toNat = 0 by omega)))
    (rows _ (.inr (show (t.endIndex + 1).toNat = t.numPoints - 1 by omega))) fun fixed => rows r ?_
  have fixed : (r : Int) < t.startIndex ∨ t.endIndex < r := fixed
  omega

section Prepared

variable [FloorRing α] (env : PlanningEnvironment α) (req : MotionPlanRequest α)
  (params : ChompParameters α) (goalState : RobotState α)

@[simp] theorem prepareTrajectory_startIndex
    : (prepareTrajectory env req params goalState).startIndex = 1 := by
  rw [prepareTrajectory, initializeTrajectory_shape]
  rfl

@[simp] theorem prepareTrajectory_endIndex
    : (prepareTrajectory env req params goalState).endIndex = 87 := by
  rw [prepareTrajectory, initializeTrajectory_shape]
  show (((⌊(3.0 : α) / 0.03409⌋₊ + 1 : Nat) : Int) - 2) = 87
  rw [floor_duration_div_discretization]
  rfl

/-- The start row and the goal row of the buffer `solve` prepares, by the boundary-row lemma
on its 89-point base buffer.
-/
theorem prepareTrajectory_boundary_rows
    (method : params.trajectoryInitializationMethod ≠ "equal") {k : Nat}
    (hk : k < (env.robotModel.getActiveJointModels req.groupName).length)
    : let group := env.robotModel.getActiveJointModels req.groupName
      (prepareTrajectory env req params goalState).trajectory 0 k
          = env.startState.position group[k].firstVariableIndex
        ∧ (prepareTrajectory env req params goalState).trajectory 88 k
          = if group[k].type = .revolute true then
              env.startState.position group[k].firstVariableIndex
                + env.shortestAngularDistance (env.startState.position group[k].firstVariableIndex)
                  (goalState.position group[k].firstVariableIndex)
            else goalState.position group[k].firstVariableIndex := by
  have points : (ChompTrajectory.ofDuration env.robotModel (3.0 : α) 0.03409 req.groupName
      env.storage).numPoints = 89 := by
    simp [floor_duration_div_discretization]
  have rows := initializeTrajectory_boundary_rows env method _ env.startState goalState
    (ChompTrajectory.ofDuration env.robotModel 3.0 0.03409 req.groupName env.storage)
    (by omega) (le_refl 1)
    (by simp [ChompTrajectory.ofDuration, ChompTrajectory.ofNumPoints,
      floor_duration_div_discretization]) hk
  rw [show 88 = (ChompTrajectory.ofDuration env.robotModel (3.0 : α) 0.03409 req.groupName
    env.storage).numPoints - 1 by rw [points]]
  exact rows

/-- With a method `solve` knows, the prepared buffer's rows and group columns do not depend on
what `init()` left in the matrix: the optimizer never starts from memory the planner did not
write. With any other method name the free rows are that memory.
-/
theorem prepareTrajectory_storage_irrelevant (storage : Nat → Nat → α)
    (method : params.trajectoryInitializationMethod ∈ initializationMethods) {r k : Nat}
    (hr : r < 89) (hk : k < (env.robotModel.getActiveJointModels req.groupName).length)
    : (prepareTrajectory { env with storage := storage } req params goalState).trajectory r k
      = (prepareTrajectory env req params goalState).trajectory r k := by
  have points : (ChompTrajectory.ofDuration env.robotModel (3.0 : α) 0.03409 req.groupName
      env.storage).numPoints = 89 := by
    simp [floor_duration_div_discretization]
  exact initializeTrajectory_unpadded_congr env method _ env.startState goalState
    (ChompTrajectory.ofDuration env.robotModel 3.0 0.03409 req.groupName env.storage)
    (ChompTrajectory.ofDuration env.robotModel 3.0 0.03409 req.groupName storage) rfl rfl rfl
    (by omega) (by omega) hk hk

/-- The arm's buffer prepared over a matrix of ones is the one prepared over zeros. -/
theorem prepareTrajectory_storage_irrelevant_arm
    : (armParams "linear").trajectoryInitializationMethod ∈ initializationMethods
      ∧ (prepareTrajectory { collidingEnvironment with storage := fun _ _ => 1 } armRequest
          (armParams "linear") (goalStateOf collidingEnvironment armGoal)).trajectory 44 0
        = (prepareTrajectory collidingEnvironment armRequest (armParams "linear")
          (goalStateOf collidingEnvironment armGoal)).trajectory 44 0 := by
  refine ⟨by decide, prepareTrajectory_storage_irrelevant _ _ _ _ _ (by decide) (by decide)
    (by decide)⟩

/-- Over exact arithmetic, each interpolating initialization moves every joint of the prepared
buffer monotonically from its start row to its goal row. In double precision the rows next to
the goal can round past it, which this field-valued model does not show.
-/
theorem prepareTrajectory_monotone
    (method : params.trajectoryInitializationMethod = "quintic-spline"
      ∨ params.trajectoryInitializationMethod = "linear"
      ∨ params.trajectoryInitializationMethod = "cubic")
    {k : Nat} (hk : k < (env.robotModel.getActiveJointModels req.groupName).length)
    {r r' : Nat} (hrr : r ≤ r') (hr' : r' < 89)
    : let prepared := prepareTrajectory env req params goalState
      (prepared.trajectory 0 k ≤ prepared.trajectory 88 k
          → prepared.trajectory r k ≤ prepared.trajectory r' k)
        ∧ (prepared.trajectory 88 k ≤ prepared.trajectory 0 k
          → prepared.trajectory r' k ≤ prepared.trajectory r k) := by
  intro prepared
  let base := ChompTrajectory.ofDuration env.robotModel (3.0 : α) 0.03409 req.groupName env.storage
  let group := env.robotModel.getActiveJointModels req.groupName
  let adjusted := adjustGoal env.shortestAngularDistance group
    (robotStateToArray goalState group (robotStateToArray env.startState group base 0)
      (base.numPoints - 1)) (base.numPoints - 1)
  have points : adjusted.numPoints = 89 := by
    simp [adjusted, base, floor_duration_div_discretization]
  obtain ⟨w, w0, w1, mono, row⟩ := initializeTrajectory_schedule env method adjusted rfl rfl
    (by omega) (show (0 : α) < 0.03409 by norm_num) hk
  rw [points] at w1 mono row
  have entry : ∀ i < 89, prepared.trajectory i k
      = adjusted.trajectory 0 k + (adjusted.trajectory 88 k - adjusted.trajectory 0 k) * w i :=
    row
  rw [entry r (by omega), entry r' hr', entry 0 (by omega), entry 88 (by omega), w0,
    show w 88 = 1 from w1]
  have step := mono r r' hrr hr'
  constructor
  · intro up
    exact add_le_add_left (mul_le_mul_of_nonneg_left step (by linarith only [up])) _
  · intro down
    exact add_le_add_left (mul_le_mul_of_nonpos_left step (by linarith only [down])) _

/-- Rows 10 and 50 of the arm's cubic initial path, towards the goal `1` from `0`. -/
theorem prepareTrajectory_monotone_arm
    : ((armParams "cubic").trajectoryInitializationMethod = "quintic-spline"
        ∨ (armParams "cubic").trajectoryInitializationMethod = "linear"
        ∨ (armParams "cubic").trajectoryInitializationMethod = "cubic")
      ∧ let prepared := prepareTrajectory collidingEnvironment armRequest (armParams "cubic")
          (goalStateOf collidingEnvironment armGoal)
        (prepared.trajectory 0 0 ≤ prepared.trajectory 88 0
            → prepared.trajectory 10 0 ≤ prepared.trajectory 50 0)
          ∧ (prepared.trajectory 88 0 ≤ prepared.trajectory 0 0
            → prepared.trajectory 50 0 ≤ prepared.trajectory 10 0) := by
  refine ⟨.inr (.inr rfl), prepareTrajectory_monotone _ _ _ _ (.inr (.inr rfl)) (by decide)
    (by decide) (by decide)⟩

/-- For a valid request, `solve` answers `true` exactly when the loop breaks, the last optimizer
reports no collision, and the goal holds on the prepared buffer's output: no optimizer writes
the goal row the gate reads.
-/
theorem solve_goal_verdict_prepared (env : PlanningEnvironment α) (req : MotionPlanRequest α)
    (params : ChompParameters α) (res : MotionPlanDetailedResponse α) (goal : Constraints α)
    (valid : ValidRequest env req goal)
    : let prepared := prepareTrajectory env req params (goalStateOf env goal)
      let run := recoveryLoop env.optimizer req.groupName (.init params prepared)
      (solve env req params res).1 = true
        ↔ run.1 = .broke
          ∧ env.optimizer.isCollisionFree (run.2.constructedWith.length - 1) = true
          ∧ goalConstraintsSatisfied env goal (outputTrajectory env req.groupName prepared)
            = true := by
  intro prepared run
  rw [solve_of_valid params res valid]
  obtain ⟨exit, s, hrun, cases⟩ :=
    optimizeAndRespond_cases env req params res goal prepared
  have keeps : ChompTrajectory.KeepsFixedRows prepared s.trajectory := by
    have := recoveryLoop_keepsFixedRows env.optimizer req.groupName (.init params prepared)
    rwa [hrun] at this
  have verdict := goalConstraintsSatisfied_congr env goal req.groupName keeps.numPoints_eq
    (by simp [prepared]) (keeps.fixed_rows _ (.inr (by simp [prepared])))
  simp only [run, hrun]
  rcases cases with ⟨rfl, h⟩ | ⟨rfl, collision, h⟩ | ⟨rfl, collision, goals, h⟩
    | ⟨rfl, collision, goals, h⟩ <;>
    simp_all

/-- The arm's request answered as its prepared goal row decides. -/
theorem solve_goal_verdict_prepared_arm
    : ValidRequest acceptingEnvironment armRequest armGoal
      ∧ let prepared := prepareTrajectory acceptingEnvironment armRequest (armParams "linear")
          (goalStateOf acceptingEnvironment armGoal)
        let run := recoveryLoop acceptingEnvironment.optimizer armRequest.groupName
          (.init (armParams "linear") prepared)
        (solve acceptingEnvironment armRequest (armParams "linear") emptyResponse).1 = true
          ↔ run.1 = .broke
            ∧ acceptingEnvironment.optimizer.isCollisionFree (run.2.constructedWith.length - 1)
              = true
            ∧ goalConstraintsSatisfied acceptingEnvironment armGoal
                (outputTrajectory acceptingEnvironment armRequest.groupName prepared) = true :=
  ⟨acceptingEnvironment_valid,
    solve_goal_verdict_prepared _ _ _ _ _ acceptingEnvironment_valid⟩

/-- An accepted answer holds the output of a final buffer of 89 points whose start row and goal
row are those of the buffer prepared for the request's one goal: the optimizers write back
free rows only.
-/
theorem solve_accepted_rows (res : MotionPlanDetailedResponse α)
    (accepted : (solve env req params res).1 = true)
    : ∃ goal t, ValidRequest env req goal
        ∧ (solve env req params res).2.trajectory = [outputTrajectory env req.groupName t]
        ∧ t.numPoints = 89
        ∧ ∀ r, (r = 0 ∨ r = 88) → t.trajectory r
          = (prepareTrajectory env req params (goalStateOf env goal)).trajectory r := by
  obtain ⟨goal, s, plan⟩ := acceptedPlan_of_solve accepted
  have keeps : ChompTrajectory.KeepsFixedRows
      (prepareTrajectory env req params (goalStateOf env goal)) s.trajectory := by
    have := recoveryLoop_keepsFixedRows env.optimizer req.groupName
      (.init params (prepareTrajectory env req params (goalStateOf env goal)))
    rwa [plan.broke] at this
  refine ⟨goal, s.trajectory, plan.valid, plan.trajectory_eq, by rw [keeps.numPoints_eq]; simp,
    ?_⟩
  rintro r (rfl | rfl)
  · exact keeps.fixed_rows 0 (.inl (by simp))
  · exact keeps.fixed_rows 88 (.inr (by simp))

/-- An accepted plan is the output of `n` chained optimizer results on the prepared buffer, the
first `n - 1` of them failed: each attempt starts from the buffer the one before it left.
-/
theorem solve_accepted_chain (env : PlanningEnvironment α) (req : MotionPlanRequest α)
    (params : ChompParameters α) (res : MotionPlanDetailedResponse α)
    (accepted : (solve env req params res).1 = true)
    : ∃ goal n, req.goalConstraints = [goal] ∧ 0 < n
        ∧ (∀ k, k + 1 < n → env.optimizer.optimize k = false)
        ∧ (solve env req params res).2.trajectory
          = [outputTrajectory env req.groupName ((List.range n).foldl
              (fun t k => env.optimizer.optimizedTrajectory k req.groupName t)
              (prepareTrajectory env req params (goalStateOf env goal)))] := by
  obtain ⟨goal, s, plan⟩ := acceptedPlan_of_solve accepted
  have law := recoveryLoop_init_runLaw env.optimizer params req.groupName
    (prepareTrajectory env req params (goalStateOf env goal))
  obtain ⟨n, chained, attempts⟩ := recoveryLoop_chain env.optimizer req.groupName
    (.init params (prepareTrajectory env req params (goalStateOf env goal)))
  rw [plan.broke] at law chained attempts
  simp only [RecoveryState.init, List.length_nil, zero_add, reduceCtorEq, if_false,
    add_zero] at attempts chained
  refine ⟨goal, n, plan.valid.single_goal, attempts ▸ law.attempts_pos,
    fun k hk => (law.earlier k (attempts ▸ hk)).2, ?_⟩
  rw [plan.trajectory_eq, chained, List.range_eq_range']

/-- With any initialization but the file-backed one, an accepted plan starts at the start
state and ends, at each joint of the group, at the goal with the wrap-around fix.
-/
theorem solve_accepted_endpoints (env : PlanningEnvironment α) (req : MotionPlanRequest α)
    (params : ChompParameters α) (res : MotionPlanDetailedResponse α)
    (group : SingleVariableGroup env.robotModel req.groupName)
    (method : params.trajectoryInitializationMethod ≠ "equal")
    (accepted : (solve env req params res).1 = true)
    : ∃ goal out first last, req.goalConstraints = [goal]
        ∧ (solve env req params res).2.trajectory = [out]
        ∧ out.getWayPoint? 0 = some first ∧ out.getLastWayPoint? = some last
        ∧ first.position = env.startState.position
        ∧ ∀ jm ∈ env.robotModel.getActiveJointModels req.groupName,
            last.position jm.firstVariableIndex
              = if jm.type = .revolute true then
                  env.startState.position jm.firstVariableIndex
                    + env.shortestAngularDistance (env.startState.position jm.firstVariableIndex)
                      ((goalStateOf env goal).position jm.firstVariableIndex)
                else (goalStateOf env goal).position jm.firstVariableIndex := by
  obtain ⟨goal, t, valid, stored, points, row⟩ := solve_accepted_rows env req params res accepted
  refine ⟨goal, _, _, _, valid.single_goal, stored,
    outputTrajectory_getWayPoint env req.groupName t (by omega),
    outputTrajectory_getLastWayPoint _ (by omega), ?first, ?last⟩
  case first =>
    funext v
    by_cases member : v ∈ (env.robotModel.getActiveJointModels req.groupName).map
        (·.firstVariableIndex)
    · obtain ⟨jm, hjm, rfl⟩ := List.mem_map.mp member
      obtain ⟨k, hk, rfl⟩ := List.getElem_of_mem hjm
      rw [(waypointState_joint _ _ _ 0 _ group.firstVariableIndex_nodup hk).1, Nat.zero_add,
        row 0 (.inl rfl),
        (prepareTrajectory_boundary_rows env req params _ method hk).1]
    · exact (waypointState_of_not_mem _ _ _ 0 env.startState member).1
  case last =>
    intro jm hjm
    obtain ⟨k, hk, rfl⟩ := List.getElem_of_mem hjm
    rw [outputTrajectory_getLastD _ _ _ (by omega),
      (waypointState_joint _ _ _ 0 _ group.firstVariableIndex_nodup hk).1, Nat.zero_add, points,
      row 88 (.inr rfl), (prepareTrajectory_boundary_rows env req params _ method hk).2]

/-- With the file-backed initialization an accepted plan runs from the file's row 0 to its
row 88, whatever the start state: `setTrajectory` replaces the start and goal rows.
-/
theorem solve_accepted_file_endpoints (env : PlanningEnvironment α) (req : MotionPlanRequest α)
    (params : ChompParameters α) (res : MotionPlanDetailedResponse α)
    (group : SingleVariableGroup env.robotModel req.groupName)
    (method : params.trajectoryInitializationMethod = "equal")
    (accepted : (solve env req params res).1 = true)
    : ∃ out first last, (solve env req params res).2.trajectory = [out]
        ∧ out.getWayPoint? 0 = some first ∧ out.getLastWayPoint? = some last
        ∧ ∀ k (hk : k < (env.robotModel.getActiveJointModels req.groupName).length),
            first.position (env.robotModel.getActiveJointModels req.groupName)[k].firstVariableIndex
                = env.csvRead (fillPathname params) 0 k
              ∧ last.position
                  (env.robotModel.getActiveJointModels req.groupName)[k].firstVariableIndex
                = env.csvRead (fillPathname params) 88 k := by
  obtain ⟨goal, t, -, stored, points, row⟩ := solve_accepted_rows env req params res accepted
  have file : ∀ r, (prepareTrajectory env req params (goalStateOf env goal)).trajectory r
      = env.csvRead (fillPathname params) r := fun r => by
    rw [prepareTrajectory, initializeTrajectory_of_equal _ _ method]
    rfl
  refine ⟨_, _, _, stored, outputTrajectory_getWayPoint env req.groupName t (by omega),
    outputTrajectory_getLastWayPoint _ (by omega), fun k hk => ⟨?_, ?_⟩⟩
  · rw [(waypointState_joint _ _ _ 0 _ group.firstVariableIndex_nodup hk).1, Nat.zero_add,
      row 0 (.inl rfl), file]
  · rw [outputTrajectory_getLastD _ _ _ (by omega),
      (waypointState_joint _ _ _ 0 _ group.firstVariableIndex_nodup hk).1, Nat.zero_add, points,
      row 88 (.inr rfl), file]

end Prepared

/-- The arm's accepted plan starts at the start position `0` of `joint1` and ends at its goal
position `1`.
-/
theorem solve_accepted_endpoints_arm
    : SingleVariableGroup armModel "arm"
      ∧ (armParams "linear").trajectoryInitializationMethod ≠ "equal"
      ∧ (solve acceptingEnvironment armRequest (armParams "linear") emptyResponse).1 = true
      ∧ ∃ out first last,
          (solve acceptingEnvironment armRequest (armParams "linear") emptyResponse).2.trajectory
            = [out]
          ∧ out.getWayPoint? 0 = some first ∧ out.getLastWayPoint? = some last
          ∧ first.position 0 = 0 ∧ last.position 0 = 1 := by
  have group : SingleVariableGroup armModel "arm" := ⟨by decide, by decide⟩
  have method : (armParams "linear").trajectoryInitializationMethod ≠ "equal" := by decide
  have accepted := acceptingEnvironment_accepts "linear"
  obtain ⟨goal, out, first, last, single, stored, found, found_last, start, ends⟩ :=
    solve_accepted_endpoints acceptingEnvironment armRequest (armParams "linear") emptyResponse
      group method accepted
  obtain rfl : goal = armGoal := (List.cons.inj single).1.symm
  exact ⟨group, method, accepted, out, first, last, stored, found, found_last,
    congrFun start 0, ends _ (List.mem_singleton_self _)⟩

/-- The arm's accepted plan is the output of its first optimizer's result on the prepared
buffer, or of a longer chain.
-/
theorem solve_accepted_chain_arm
    : (solve acceptingEnvironment armRequest (armParams "linear") emptyResponse).1 = true
      ∧ ∃ goal n, armRequest.goalConstraints = [goal] ∧ 0 < n
        ∧ (∀ k, k + 1 < n → acceptingEnvironment.optimizer.optimize k = false)
        ∧ (solve acceptingEnvironment armRequest (armParams "linear") emptyResponse).2.trajectory
          = [outputTrajectory acceptingEnvironment armRequest.groupName ((List.range n).foldl
              (fun t k => acceptingEnvironment.optimizer.optimizedTrajectory k
                armRequest.groupName t)
              (prepareTrajectory acceptingEnvironment armRequest (armParams "linear")
                (goalStateOf acceptingEnvironment goal)))] :=
  ⟨acceptingEnvironment_accepts "linear",
    solve_accepted_chain _ _ _ _ (acceptingEnvironment_accepts "linear")⟩

/-- The arm's plan from the file of zeros is accepted and ends at `0`, not at the goal
position `1` of `joint1`: only the constraint evaluator, which here accepts every state,
stands between the file and the answer.
-/
theorem solve_accepted_file_endpoints_arm
    : SingleVariableGroup armModel "arm"
      ∧ (armParams "equal").trajectoryInitializationMethod = "equal"
      ∧ (solve acceptingEnvironment armRequest (armParams "equal") emptyResponse).1 = true
      ∧ ∃ out first last,
          (solve acceptingEnvironment armRequest (armParams "equal") emptyResponse).2.trajectory
            = [out]
          ∧ out.getWayPoint? 0 = some first ∧ out.getLastWayPoint? = some last
          ∧ first.position 0 = 0 ∧ last.position 0 = 0 := by
  have group : SingleVariableGroup armModel "arm" := ⟨by decide, by decide⟩
  have accepted := acceptingEnvironment_accepts "equal"
  obtain ⟨out, first, last, stored, found, found_last, ends⟩ :=
    solve_accepted_file_endpoints acceptingEnvironment armRequest (armParams "equal")
      emptyResponse group rfl accepted
  exact ⟨group, rfl, accepted, out, first, last, stored, found, found_last,
    (ends 0 (by decide)).1, (ends 0 (by decide)).2⟩

-----------------------------------------------------------------------------------------
-- Continuous joints take the short way round
-----------------------------------------------------------------------------------------

section ShortWay

open Real

/-- On an unpadded buffer, the wrapped goal row and an interpolating initialization keep each
continuous joint within half a turn of its start in every row.
-/
theorem initializeTrajectory_within_half_turn (env : PlanningEnvironment ℝ)
    {params : ChompParameters ℝ}
    (shortest : IsShortestAngularDistance env.shortestAngularDistance)
    (method : params.trajectoryInitializationMethod = "quintic-spline"
      ∨ params.trajectoryInitializationMethod = "linear"
      ∨ params.trajectoryInitializationMethod = "cubic")
    (group : List JointModel) (start goal : RobotState ℝ) (t : ChompTrajectory ℝ)
    (unpadded : t.startIndex = 1) (last : t.endIndex = t.numPoints - 2)
    (points : 3 ≤ t.numPoints) (disc : 0 < t.discretization) (columns : t.numJoints = group.length)
    {k : Nat} (hk : k < group.length) (continuous : group[k].type = .revolute true)
    {r : Nat} (hr : r < t.numPoints)
    : |(initializeTrajectory env params
          (adjustGoal env.shortestAngularDistance group
            (robotStateToArray goal group (robotStateToArray start group t 0) (t.numPoints - 1))
            (t.numPoints - 1))).trajectory r k
        - start.position group[k].firstVariableIndex| ≤ π := by
  obtain ⟨w, w0, w1, mono, row⟩ := initializeTrajectory_schedule env method
    (adjustGoal env.shortestAngularDistance group
      (robotStateToArray goal group (robotStateToArray start group t 0) (t.numPoints - 1))
      (t.numPoints - 1)) unpadded last points disc (columns ▸ hk)
  simp only [adjustGoal_numPoints, robotStateToArray_numPoints] at w1 mono row
  have low : 0 ≤ w r := w0 ▸ mono 0 r (Nat.zero_le r) hr
  have high : w r ≤ 1 := w1 ▸ mono r _ (by omega) (by omega)
  obtain ⟨first, final⟩ :=
    adjustGoal_boundary_rows env.shortestAngularDistance group start goal t (by omega) hk
  rw [if_pos continuous] at final
  have near := shortest.range (start.position group[k].firstVariableIndex)
    (goal.position group[k].firstVariableIndex)
  rw [row r hr, first, final]
  calc |_| = |env.shortestAngularDistance (start.position group[k].firstVariableIndex)
          (goal.position group[k].firstVariableIndex)| * w r := by
        rw [← abs_of_nonneg low, ← abs_mul, abs_of_nonneg low]
        ring_nf
    _ ≤ |env.shortestAngularDistance (start.position group[k].firstVariableIndex)
          (goal.position group[k].firstVariableIndex)| * 1 :=
        mul_le_mul_of_nonneg_left high (abs_nonneg _)
    _ ≤ π := by rw [mul_one]; exact abs_le.mpr ⟨near.1.le, near.2⟩

/-- The buffer `solve` prepares keeps each continuous joint of the group within half a turn of
its start in every row, for every interpolating initialization, by the general lemma on its
89-point base buffer.
-/
theorem prepareTrajectory_within_half_turn (env : PlanningEnvironment ℝ)
    (req : MotionPlanRequest ℝ) (params : ChompParameters ℝ) (goalState : RobotState ℝ)
    (shortest : IsShortestAngularDistance env.shortestAngularDistance)
    (method : params.trajectoryInitializationMethod = "quintic-spline"
      ∨ params.trajectoryInitializationMethod = "linear"
      ∨ params.trajectoryInitializationMethod = "cubic")
    {k : Nat} (hk : k < (env.robotModel.getActiveJointModels req.groupName).length)
    (continuous : (env.robotModel.getActiveJointModels req.groupName)[k].type = .revolute true)
    {r : Nat} (hr : r < 89)
    : |(prepareTrajectory env req params goalState).trajectory r k
        - env.startState.position
            (env.robotModel.getActiveJointModels req.groupName)[k].firstVariableIndex| ≤ π := by
  have points : (ChompTrajectory.ofDuration env.robotModel (3.0 : ℝ) 0.03409 req.groupName
      env.storage).numPoints = 89 := by
    simp [floor_duration_div_discretization]
  exact initializeTrajectory_within_half_turn env shortest method _ env.startState goalState
    (ChompTrajectory.ofDuration env.robotModel 3.0 0.03409 req.groupName env.storage) rfl rfl
    (by omega) (show (0 : ℝ) < 0.03409 by norm_num) rfl hk continuous (by omega)

/-- One continuous revolute joint, the only joint of every group. -/
def continuousArmModel : RobotModel where
  joints := [("joint1", .revolute true)]
  groups := fun _ => [0]

/-- The accepting arm's collaborators on the continuous arm, starting at `3`, with the given
angular distance.
-/
def continuousArmEnvironment (shortestAngularDistance : α → α → α) : PlanningEnvironment α where
  planningScene := true
  robotModel := continuousArmModel
  startState := ⟨fun _ => 3, fun _ => 0⟩
  satisfiesBounds := fun _ => true
  getVariableIndex := fun _ => 0
  shortestAngularDistance := shortestAngularDistance
  storage := fun _ _ => 0
  csvRead := fun _ _ _ => 0
  optimizer :=
    { diffRuleLength := 7
      isInitialized := fun _ => true
      optimize := fun _ => true
      workingCopy := fun _ group => group.trajectory
      isCollisionFree := fun _ => true }
  diffMatrix := fun _ _ _ => 0
  initialVelPastEnd := fun _ => 0
  elapsed := 1
  configure := fun _ => true
  satisfied := fun _ _ => true

/-- CHOMP's configured defaults with the linear initialization. -/
def linearParams : ChompParameters α where
  learningRate := 0.01
  ridgeFactor := 0
  planningTimeLimit := 10
  maxIterations := 200
  enableFailureRecovery := true
  maxRecoveryAttempts := 5
  trajectoryInitializationMethod := "linear"
  demoType := "head"

/-- From `3` to the goal `-3`, row 44 of the linear initial path is within half a turn of the
start: the path heads for `2π - 3` rather than back across zero.
-/
theorem prepareTrajectory_within_half_turn_three
    : IsShortestAngularDistance (fun a b : ℝ => toIocMod two_pi_pos (-π) (b - a))
      ∧ (linearParams : ChompParameters ℝ).trajectoryInitializationMethod = "linear"
      ∧ |(prepareTrajectory (continuousArmEnvironment fun a b : ℝ => toIocMod two_pi_pos (-π) (b - a))
            ⟨"arm", []⟩ linearParams ⟨fun _ => -3, fun _ => 0⟩).trajectory 44 0 - 3| ≤ π := by
  refine ⟨isShortestAngularDistance_toIocMod, rfl, ?_⟩
  exact prepareTrajectory_within_half_turn
    (continuousArmEnvironment fun a b : ℝ => toIocMod two_pi_pos (-π) (b - a)) ⟨"arm", []⟩
    linearParams ⟨fun _ => -3, fun _ => 0⟩ isShortestAngularDistance_toIocMod (.inr (.inl rfl))
    (k := 0) (by decide) (by decide) (by decide)

end ShortWay

end Chomp.Planner
