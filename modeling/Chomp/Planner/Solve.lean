import Chomp.Planner.Recovery
import Chomp.Trajectory.Resample
import Chomp.Trajectory.MinJerk
import Chomp.Trajectory.Interpolation

/-! `ChompPlanner::solve`: validation of the request, set-up of the buffer, the recovery
loop, the output waypoints and the two acceptance gates. Every answer of a collaborator
(planning scene, bounds checks, optimizer, constraint evaluator, clock) is an input, so each
theorem holds for every way they may answer.
-/

namespace Chomp.Planner

open Chomp.Robot Chomp.Trajectory

variable {α : Type}

/-- The `moveit_msgs::MoveItErrorCodes` values `solve` sets; `other` is any value a caller
left in the response.
-/
inductive MoveItErrorCode
  | success
  | failure
  | planningFailed
  | invalidMotionPlan
  | goalConstraintsViolated
  | invalidGoalConstraints
  | invalidRobotState
  | other (val : Int)
  deriving DecidableEq, Repr

/-- A joint-space goal constraint; the tolerances are read by the constraint evaluator. -/
structure JointConstraint (α : Type) where
  jointName : String
  position : α
  toleranceAbove : α
  toleranceBelow : α

/-- One goal's constraints; of the position and orientation constraints `solve` reads only
how many there are.
-/
structure Constraints (α : Type) where
  jointConstraints : List (JointConstraint α)
  positionConstraints : Nat
  orientationConstraints : Nat

/-- The request fields `solve` reads; the start state message reaches it already applied to
the scene's current state, see `PlanningEnvironment.startState`.
-/
structure MotionPlanRequest (α : Type) where
  groupName : String
  goalConstraints : List (Constraints α)

/-- `MotionPlanDetailedResponse`: the trajectories, their processing times and the error
code.
-/
structure MotionPlanDetailedResponse (α : Type) where
  trajectory : List (RobotTrajectory α)
  processingTime : List α
  errorCode : MoveItErrorCode

/-- What `solve`'s collaborators answer, from the planning scene to the constraint evaluator;
`storage` is what `init()` leaves in a new buffer and `initialVelPastEnd` what a read past
`initial_vel` yields, undefined in C++.
-/
structure PlanningEnvironment (α : Type) where
  planningScene : Bool
  robotModel : RobotModel
  startState : RobotState α
  satisfiesBounds : RobotState α → Bool
  getVariableIndex : String → Nat
  shortestAngularDistance : α → α → α
  storage : Nat → Nat → α
  csvRead : String → Nat → Nat → α
  optimizer : OptimizerBehaviour α
  diffMatrix : Nat → Nat → Nat → α
  initialVelPastEnd : Nat → α
  elapsed : α
  configure : JointConstraint α → Bool
  satisfied : JointConstraint α → RobotState α → Bool

-----------------------------------------------------------------------------------------
-- Setting up the buffer
-----------------------------------------------------------------------------------------

/-- `goal_state`: the start state with each joint constraint's position set by joint name. -/
def goalStateOf (env : PlanningEnvironment α) (goal : Constraints α) : RobotState α :=
  goal.jointConstraints.foldl
    (fun state c => state.setVariablePosition (env.getVariableIndex c.jointName) c.position)
    env.startState

/-- The checks `solve` makes before it builds a buffer, all passed with the single goal
`goal`.
-/
structure ValidRequest (env : PlanningEnvironment α) (req : MotionPlanRequest α)
    (goal : Constraints α) : Prop where
  scene : env.planningScene = true
  start_bounds : env.satisfiesBounds env.startState = true
  single_goal : req.goalConstraints = [goal]
  joint_goal : goal.jointConstraints ≠ []
  no_position : goal.positionConstraints = 0
  no_orientation : goal.orientationConstraints = 0
  goal_bounds : env.satisfiesBounds (goalStateOf env goal) = true

/-- Passing each check `solve` makes, with the single goal `goal`, is a valid request. -/
theorem validRequest_of_checks {env : PlanningEnvironment α} {req : MotionPlanRequest α}
    {goal : Constraints α} (scene : ¬env.planningScene = false)
    (start : ¬env.satisfiesBounds env.startState = false) (single : req.goalConstraints = [goal])
    (shape : ¬(goal.jointConstraints.isEmpty = true ∨ goal.positionConstraints ≠ 0
      ∨ goal.orientationConstraints ≠ 0))
    (bounds : ¬env.satisfiesBounds (goalStateOf env goal) = false)
    : ValidRequest env req goal := by
  simp only [Bool.not_eq_false, not_or, not_not, List.isEmpty_eq_true] at scene start shape bounds
  exact ⟨scene, start, single, shape.1, shape.2.1, shape.2.2, bounds⟩

/-- The wrap-around fix of the goal row: for the `i`-th active joint, when it is a continuous
revolute joint, `trajectory(goal_index, i) = start + shortestAngularDistance(start, end)`.
-/
def adjustGoal [Add α] (shortestAngularDistance : α → α → α) (group : List JointModel)
    (t : ChompTrajectory α) (goalIndex : Nat) : ChompTrajectory α :=
  { t with
    trajectory := forRange
      (fun i m =>
        match group[i]? with
        | some jm =>
            if jm.type = .revolute true then
              setEntry m goalIndex i (m 0 i + shortestAngularDistance (m 0 i) (m goalIndex i))
            else m
        | none => m)
      0 group.length t.trajectory }

@[simp] theorem adjustGoal_numPoints [Add α] (shortestAngularDistance : α → α → α)
    (group : List JointModel) (t : ChompTrajectory α) (goalIndex : Nat)
    : (adjustGoal shortestAngularDistance group t goalIndex).numPoints = t.numPoints :=
  rfl

/-- The wrap-around fix entry by entry: only the goal row's entries in the columns of
continuous revolute joints change, each to the start plus the distance from it to the old
goal. Each column is written once, so the value read is the one before the loop.
-/
theorem adjustGoal_trajectory [Add α] (shortestAngularDistance : α → α → α)
    (group : List JointModel) (t : ChompTrajectory α) (goalIndex r c : Nat)
    : (adjustGoal shortestAngularDistance group t goalIndex).trajectory r c
      = if r = goalIndex ∧ group[c]?.map JointModel.type = some (.revolute true) then
          t.trajectory 0 c + shortestAngularDistance (t.trajectory 0 c) (t.trajectory goalIndex c)
        else t.trajectory r c := by
  dsimp only [adjustGoal]
  rw [forRange_columns _ fun i col r =>
    if r = goalIndex ∧ group[i]?.map JointModel.type = some (.revolute true) then
      col 0 + shortestAngularDistance (col 0) (col goalIndex)
    else col r]
  · by_cases hc : c < group.length
    · simp [hc]
    · simp [hc, List.getElem?_eq_none (Nat.le_of_not_lt hc)]
  · intro i m
    funext r' c'
    cases found : group[i]? with
    | none => by_cases c' = i <;> simp_all
    | some jm =>
        by_cases continuous : jm.type = .revolute true <;>
          by_cases c' = i <;> simp_all [setEntry]

/-- The wrap-around fix writes only the goal row. -/
theorem adjustGoal_trajectory_of_ne [Add α] (shortestAngularDistance : α → α → α)
    (group : List JointModel) (t : ChompTrajectory α) {goalIndex i : Nat} (h : i ≠ goalIndex)
    : (adjustGoal shortestAngularDistance group t goalIndex).trajectory i = t.trajectory i := by
  funext c
  rw [adjustGoal_trajectory, if_neg fun fixed => h fixed.1]

/-- The file the `"equal"` initialization reads, built from the demo type. -/
def fillPathname (params : ChompParameters α) : String :=
  "/home/deng/ros/ws_moveit/src/moveit/moveit_planners/resource/average_datas/Pdtw_"
    ++ params.demoType ++ "_forward_" ++ "average.csv"

/-- The names `solve` knows an initialization for. -/
def initializationMethods : List String :=
  ["quintic-spline", "linear", "cubic", "equal"]

variable [LinearOrderedField α]

/-- The initialization chosen by `trajectory_initialization_method_`; any other name is only
logged, and the buffer is optimized as it stands.
-/
def initializeTrajectory (env : PlanningEnvironment α) (params : ChompParameters α)
    (t : ChompTrajectory α) : ChompTrajectory α :=
  if params.trajectoryInitializationMethod = "quintic-spline" then t.fillInMinJerk
  else if params.trajectoryInitializationMethod = "linear" then t.fillInLinearInterpolation
  else if params.trajectoryInitializationMethod = "cubic" then t.fillInCubicInterpolation
  else if params.trajectoryInitializationMethod = "equal" then
    t.setTrajectory (env.csvRead (fillPathname params))
  else t

@[simp] theorem initializeTrajectory_numPoints (env : PlanningEnvironment α)
    (params : ChompParameters α) (t : ChompTrajectory α)
    : (initializeTrajectory env params t).numPoints = t.numPoints := by
  unfold initializeTrajectory
  split_ifs <;> rfl

theorem initializeTrajectory_of_unknown (env : PlanningEnvironment α)
    {params : ChompParameters α} (t : ChompTrajectory α)
    (unknown : params.trajectoryInitializationMethod ∉ initializationMethods)
    : initializeTrajectory env params t = t := by
  simp only [initializationMethods, List.mem_cons, List.not_mem_nil, or_false, not_or] at unknown
  obtain ⟨h1, h2, h3, h4⟩ := unknown
  simp [initializeTrajectory, h1, h2, h3, h4]

/-- The file-backed initialization replaces the whole matrix by the file's. -/
theorem initializeTrajectory_of_equal (env : PlanningEnvironment α) {params : ChompParameters α}
    (t : ChompTrajectory α) (method : params.trajectoryInitializationMethod = "equal")
    : initializeTrajectory env params t = t.setTrajectory (env.csvRead (fillPathname params)) := by
  simp [initializeTrajectory, method]

/-- Every initialization keeps the buffer's shape. -/
theorem initializeTrajectory_shape (env : PlanningEnvironment α) (params : ChompParameters α)
    (t : ChompTrajectory α)
    : initializeTrajectory env params t
      = { t with trajectory := (initializeTrajectory env params t).trajectory } := by
  unfold initializeTrajectory
  split_ifs <;> rfl

/-- Every initialization but the file-backed one is a pass over the free rows, once the start
row lies inside the buffer; the file-backed one replaces the whole matrix.
-/
theorem initializeTrajectory_keepsFixedRows (env : PlanningEnvironment α)
    {params : ChompParameters α} {t : ChompTrajectory α}
    (method : params.trajectoryInitializationMethod ≠ "equal") (start : 1 ≤ t.startIndex)
    : ChompTrajectory.KeepsFixedRows t (initializeTrajectory env params t) := by
  unfold initializeTrajectory
  split_ifs
  · exact ChompTrajectory.fillInMinJerk_keepsFixedRows t start
  · exact ChompTrajectory.fillInLinearInterpolation_keepsFixedRows t start
  · exact ChompTrajectory.fillInCubicInterpolation_keepsFixedRows t start
  · exact .refl t

/-- With a known method, buffers of one shape that agree in a group column on the two rows
around the free range, and at a fixed row `r`, agree at `r` once initialized.
-/
theorem initializeTrajectory_entry_congr (env : PlanningEnvironment α)
    {params : ChompParameters α} {t t' : ChompTrajectory α}
    (shape : t' = { t with trajectory := t'.trajectory }) (start : 1 ≤ t.startIndex)
    (method : params.trajectoryInitializationMethod ∈ initializationMethods) {r c : Nat}
    (hc : c < t.numJoints)
    (first : t'.trajectory (t.startIndex - 1).toNat c = t.trajectory (t.startIndex - 1).toNat c)
    (last : t'.trajectory (t.endIndex + 1).toNat c = t.trajectory (t.endIndex + 1).toNat c)
    (here : ((r : Int) < t.startIndex ∨ t.endIndex < r) → t'.trajectory r c = t.trajectory r c)
    : (initializeTrajectory env params t').trajectory r c
      = (initializeTrajectory env params t).trajectory r c := by
  unfold initializeTrajectory
  split_ifs
  · exact ChompTrajectory.fillInMinJerk_freeRowsFill.entry_congr shape start hc first last here
  · exact ChompTrajectory.fillInLinearInterpolation_freeRowsFill.entry_congr shape start hc first
      last here
  · exact ChompTrajectory.fillInCubicInterpolation_freeRowsFill.entry_congr shape start hc first
      last here
  · rfl
  · simp [initializationMethods, *] at method

section Prepare

variable [FloorRing α]

/-- The buffer handed to the first optimizer: 89 points from `(3.0, 0.03409)`, the start
state in row 0, the wrapped goal state in the last row, then the configured initialization.
-/
def prepareTrajectory (env : PlanningEnvironment α) (req : MotionPlanRequest α)
    (params : ChompParameters α) (goalState : RobotState α) : ChompTrajectory α :=
  let group := env.robotModel.getActiveJointModels req.groupName
  let trajectory :=
    ChompTrajectory.ofDuration env.robotModel 3.0 0.03409 req.groupName env.storage
  let trajectory := robotStateToArray env.startState group trajectory 0
  let goalIndex := trajectory.numPoints - 1
  let trajectory := robotStateToArray goalState group trajectory goalIndex
  let trajectory := adjustGoal env.shortestAngularDistance group trajectory goalIndex
  initializeTrajectory env params trajectory

/-- `static_cast<size_t>(3.0 / 0.03409) = 88`: the buffer has 89 points. -/
theorem floor_duration_div_discretization : ⌊(3.0 : α) / 0.03409⌋₊ = 88 := by
  rw [Nat.floor_eq_iff (by norm_num), le_div_iff₀ (by norm_num), div_lt_iff₀ (by norm_num)]
  norm_num

@[simp] theorem prepareTrajectory_numPoints (env : PlanningEnvironment α)
    (req : MotionPlanRequest α) (params : ChompParameters α) (goalState : RobotState α)
    : (prepareTrajectory env req params goalState).numPoints = 89 := by
  simp [prepareTrajectory, floor_duration_div_discretization]

/-- With a method name `solve` does not know, free rows `1 .. N - 2` still hold what `init()`
left, by the frame lemmas of the start row, the goal row and the wrap-around fix.
-/
theorem prepareTrajectory_unknown_method (env : PlanningEnvironment α)
    (req : MotionPlanRequest α) {params : ChompParameters α} (goalState : RobotState α)
    (unknown : params.trajectoryInitializationMethod ∉ initializationMethods)
    {i : Nat} (free : 1 ≤ i ∧ i + 1 < (prepareTrajectory env req params goalState).numPoints)
    : (prepareTrajectory env req params goalState).trajectory i = env.storage i := by
  rw [prepareTrajectory_numPoints] at free
  simp only [prepareTrajectory, initializeTrajectory_of_unknown _ _ unknown,
    robotStateToArray_numPoints, ChompTrajectory.ofDuration_numPoints,
    floor_duration_div_discretization]
  rw [adjustGoal_trajectory_of_ne _ _ _ (by omega), robotStateToArray_trajectory,
    writeRow_of_ne _ _ (by omega), robotStateToArray_trajectory, writeRow_of_ne _ _ (by omega),
    ChompTrajectory.ofDuration_trajectory]

end Prepare

-----------------------------------------------------------------------------------------
-- Output and acceptance
-----------------------------------------------------------------------------------------

/-- `velocity_matrix`: column `c` is `diff_matrix · getJointTrajectory(c)`. -/
def velocityMatrix (diffMatrix : Nat → Nat → α) (t : ChompTrajectory α) : Nat → Nat → α :=
  fun r c => ((List.range t.numPoints).map fun k => diffMatrix r k * t.trajectory k c).sum

/-- The inner loop of one output waypoint: the `k`-th active joint gets position
`positions k` and velocity `velocities k` at its first variable index.
-/
def waypointState (positions velocities : Nat → α)
    : List JointModel → Nat → RobotState α → RobotState α
  | [], _, state => state
  | jm :: rest, k, state =>
      waypointState positions velocities rest (k + 1)
        ((state.setVariablePosition jm.firstVariableIndex (positions k)).setVariableVelocity
          jm.firstVariableIndex (velocities k))

/-- The output loop over `result`, a trajectory of the request's group: waypoint `i` is the
start state with row `i`'s positions and the velocities of `velocity_matrix`, or of the
seven-entry `initial_vel` on the first and last waypoint; each has duration `0.1`.
-/
def outputTrajectory (env : PlanningEnvironment α) (groupName : String)
    (t : ChompTrajectory α) : RobotTrajectory α :=
  let group := env.robotModel.getActiveJointModels groupName
  let numPoint := t.numPoints
  let initialVel : List α := List.replicate 7 0
  let velocity := velocityMatrix (env.diffMatrix numPoint) t
  forRange
    (fun i result =>
      let velocities : Nat → α := fun k =>
        if i = 0 ∨ i = numPoint - 1 then initialVel.getD k (env.initialVelPastEnd k)
        else velocity i k
      result.addSuffixWayPoint (waypointState (t.trajectory i) velocities group 0 env.startState)
        0.1)
    0 numPoint { group, waypoints := [], durations := [] }

/-- The output has one waypoint per buffer row. -/
theorem outputTrajectory_length (env : PlanningEnvironment α) (groupName : String)
    (t : ChompTrajectory α) : (outputTrajectory env groupName t).waypoints.length = t.numPoints :=
  (forRange_waypoints_length (fun _ _ => by simp [RobotTrajectory.addSuffixWayPoint]) _ _ _).trans
    (Nat.zero_add _)

/-- The response once the output is assembled: the one trajectory, `SUCCESS` and one
processing time.
-/
def storeResult (env : PlanningEnvironment α) (res : MotionPlanDetailedResponse α)
    (result : RobotTrajectory α) : MotionPlanDetailedResponse α :=
  { res with trajectory := [result], errorCode := .success, processingTime := [env.elapsed] }

/-- The goal-constraint loop: every joint constraint configures and is satisfied by the
last waypoint.
-/
def goalConstraintsSatisfied (env : PlanningEnvironment α) (goal : Constraints α)
    (result : RobotTrajectory α) : Bool :=
  goal.jointConstraints.all fun c =>
    env.configure c && env.satisfied c (result.waypoints.getLastD env.startState)

/-- From the recovery loop on: `PLANNING_FAILED` if an optimizer does not initialize, else the
output stored with `SUCCESS`, then `INVALID_MOTION_PLAN` on a collision and
`GOAL_CONSTRAINTS_VIOLATED` on a failed goal constraint.
-/
def optimizeAndRespond (env : PlanningEnvironment α) (req : MotionPlanRequest α)
    (params : ChompParameters α) (res : MotionPlanDetailedResponse α) (goal : Constraints α)
    (trajectory : ChompTrajectory α) : Bool × MotionPlanDetailedResponse α :=
  match recoveryLoop env.optimizer req.groupName (.init params trajectory) with
  | (.initFailed, _) => (false, { res with errorCode := .planningFailed })
  | (.broke, s) =>
      let result := outputTrajectory env req.groupName s.trajectory
      let res := storeResult env res result
      if env.optimizer.isCollisionFree (s.constructedWith.length - 1) = false then
        (false, { res with errorCode := .invalidMotionPlan })
      else if goalConstraintsSatisfied env goal result then (true, res)
      else (false, { res with errorCode := .goalConstraintsViolated })

-----------------------------------------------------------------------------------------
-- The gates after the loop
-----------------------------------------------------------------------------------------

section Gates

variable {env : PlanningEnvironment α} {req : MotionPlanRequest α} {params : ChompParameters α}
  {res : MotionPlanDetailedResponse α} {goal : Constraints α} {t : ChompTrajectory α}

/-- What the end of the loop decides: `PLANNING_FAILED` after an initialization failure,
else the stored output with `INVALID_MOTION_PLAN`, `GOAL_CONSTRAINTS_VIOLATED` or `SUCCESS`,
by the exit and the two gates.
-/
theorem optimizeAndRespond_cases (env : PlanningEnvironment α) (req : MotionPlanRequest α)
    (params : ChompParameters α) (res : MotionPlanDetailedResponse α) (goal : Constraints α)
    (t : ChompTrajectory α)
    : ∃ exit s, recoveryLoop env.optimizer req.groupName (.init params t) = (exit, s)
    ∧ ((exit = .initFailed
        ∧ optimizeAndRespond env req params res goal t
          = (false, { res with errorCode := .planningFailed }))
      ∨ (exit = .broke ∧ env.optimizer.isCollisionFree (s.constructedWith.length - 1) = false
        ∧ optimizeAndRespond env req params res goal t
          = (false, { storeResult env res (outputTrajectory env req.groupName s.trajectory) with
                      errorCode := .invalidMotionPlan }))
      ∨ (exit = .broke ∧ env.optimizer.isCollisionFree (s.constructedWith.length - 1) = true
        ∧ goalConstraintsSatisfied env goal (outputTrajectory env req.groupName s.trajectory) = false
        ∧ optimizeAndRespond env req params res goal t
          = (false, { storeResult env res (outputTrajectory env req.groupName s.trajectory) with
                      errorCode := .goalConstraintsViolated }))
      ∨ (exit = .broke ∧ env.optimizer.isCollisionFree (s.constructedWith.length - 1) = true
        ∧ goalConstraintsSatisfied env goal (outputTrajectory env req.groupName s.trajectory) = true
        ∧ optimizeAndRespond env req params res goal t
          = (true, storeResult env res (outputTrajectory env req.groupName s.trajectory)))) := by
  obtain ⟨⟨exit, s⟩, run⟩ : ∃ r, recoveryLoop env.optimizer req.groupName (.init params t) = r :=
    ⟨_, rfl⟩
  refine ⟨exit, s, run, ?_⟩
  unfold optimizeAndRespond
  rw [run]
  cases exit with
  | initFailed => exact .inl ⟨rfl, rfl⟩
  | broke =>
      cases collision : env.optimizer.isCollisionFree (s.constructedWith.length - 1) <;>
      cases goals : goalConstraintsSatisfied env goal (outputTrajectory env req.groupName s.trajectory) <;>
      simp [collision, goals]

/-- The answer is `true` exactly when the code is `SUCCESS`: each rejection sets its own
code, by the gate cases.
-/
theorem optimizeAndRespond_true_iff
    : (optimizeAndRespond env req params res goal t).1 = true
      ↔ (optimizeAndRespond env req params res goal t).2.errorCode = .success := by
  rcases optimizeAndRespond_cases env req params res goal t
    with ⟨_, _, -, ⟨-, h⟩ | ⟨-, -, h⟩ | ⟨-, -, -, h⟩ | ⟨-, -, -, h⟩⟩ <;> simp [h, storeResult]

/-- The output of a buffer with points ends in the waypoint the goal gate reads. -/
theorem outputTrajectory_getLastWayPoint (groupName : String) (points : 0 < t.numPoints)
    : (outputTrajectory env groupName t).getLastWayPoint?
      = some ((outputTrajectory env groupName t).waypoints.getLastD env.startState) := by
  have nonempty : (outputTrajectory env groupName t).waypoints ≠ [] := by
    rw [← List.length_pos, outputTrajectory_length]
    exact points
  simp [RobotTrajectory.getLastWayPoint?, List.getLastD_eq_getLast?,
    List.getLast?_eq_getLast _ nonempty]

end Gates

variable [FloorRing α]

/-- `ChompPlanner::solve(planning_scene, req, params, res)`. -/
def solve (env : PlanningEnvironment α) (req : MotionPlanRequest α) (params : ChompParameters α)
    (res : MotionPlanDetailedResponse α) : Bool × MotionPlanDetailedResponse α :=
  if env.planningScene = false then (false, { res with errorCode := .failure })
  else if env.satisfiesBounds env.startState = false then
    (false, { res with errorCode := .invalidRobotState })
  else
    match req.goalConstraints with
    | [goal] =>
        if goal.jointConstraints.isEmpty ∨ goal.positionConstraints ≠ 0
            ∨ goal.orientationConstraints ≠ 0 then
          (false, { res with errorCode := .invalidGoalConstraints })
        else if env.satisfiesBounds (goalStateOf env goal) = false then
          (false, { res with errorCode := .invalidRobotState })
        else
          optimizeAndRespond env req params res goal
            (prepareTrajectory env req params (goalStateOf env goal))
    | _ => (false, { res with errorCode := .invalidGoalConstraints })

-----------------------------------------------------------------------------------------
-- Validation
-----------------------------------------------------------------------------------------

section Validation

variable {env : PlanningEnvironment α} {req : MotionPlanRequest α} {goal : Constraints α}
  (params : ChompParameters α) (res : MotionPlanDetailedResponse α)

/-- A request that passes every check reaches the loop with the prepared buffer. -/
theorem solve_of_valid (valid : ValidRequest env req goal)
    : solve env req params res
      = optimizeAndRespond env req params res goal
          (prepareTrajectory env req params (goalStateOf env goal)) := by
  have nonempty : goal.jointConstraints.isEmpty = false :=
    List.isEmpty_eq_false.mpr valid.joint_goal
  simp [solve, valid.scene, valid.start_bounds, valid.single_goal, nonempty, valid.no_position,
    valid.no_orientation, valid.goal_bounds]

/-- A request that fails a check gets the caller's response with `FAILURE`,
`INVALID_ROBOT_STATE` or `INVALID_GOAL_CONSTRAINTS`, by the order of the checks.
-/
theorem solve_of_invalid (invalid : ∀ goal, ¬ValidRequest env req goal)
    : ∃ code ∈ [MoveItErrorCode.failure, .invalidRobotState, .invalidGoalConstraints],
        solve env req params res = (false, { res with errorCode := code }) := by
  unfold solve
  split_ifs with scene start
  · exact ⟨_, by simp, rfl⟩
  · exact ⟨_, by simp, rfl⟩
  · split
    · rename_i goal single
      split_ifs with shape bounds
      · exact ⟨_, by simp, rfl⟩
      · exact ⟨_, by simp, rfl⟩
      · exact absurd (validRequest_of_checks scene start single shape bounds) (invalid goal)
    · exact ⟨_, by simp, rfl⟩

/-- A request that fails a check gets the same answer whatever the optimizers do, by the
same checks on both sides: none of them reads the optimizer.
-/
theorem solve_optimizer_irrelevant (invalid : ∀ goal, ¬ValidRequest env req goal)
    (opt : OptimizerBehaviour α)
    : solve { env with optimizer := opt } req params res = solve env req params res := by
  unfold solve
  dsimp only
  split_ifs with scene start <;> try rfl
  split
  · rename_i goal single
    have same : goalStateOf { env with optimizer := opt } goal = goalStateOf env goal := rfl
    rw [same]
    split_ifs with shape bounds <;> try rfl
    exact absurd (validRequest_of_checks scene start single shape bounds) (invalid goal)
  · rfl

end Validation


/-- What a `true` answer certifies for the goal `goal` and the loop's final state `s`: a
`break`, no collision, the final buffer's output stored, and every goal constraint met.
-/
structure AcceptedPlan (env : PlanningEnvironment α) (req : MotionPlanRequest α)
    (params : ChompParameters α) (goal : Constraints α) (s : RecoveryState α)
    (out : MotionPlanDetailedResponse α) : Prop where
  valid : ValidRequest env req goal
  broke
    : recoveryLoop env.optimizer req.groupName
        (.init params (prepareTrajectory env req params (goalStateOf env goal))) = (.broke, s)
  collision_free : env.optimizer.isCollisionFree (s.constructedWith.length - 1) = true
  trajectory_eq : out.trajectory = [outputTrajectory env req.groupName s.trajectory]
  goal_satisfied
    : ∃ last, (outputTrajectory env req.groupName s.trajectory).getLastWayPoint? = some last
        ∧ ∀ c ∈ goal.jointConstraints, env.configure c = true ∧ env.satisfied c last = true

/-- A valid request answered `true` has an accepted plan: only the last gate case answers
`true`, and the buffer keeps its 89 points through the loop.
-/
theorem acceptedPlan_of_valid {env : PlanningEnvironment α} {req : MotionPlanRequest α}
    {params : ChompParameters α} {res : MotionPlanDetailedResponse α} {goal : Constraints α}
    (valid : ValidRequest env req goal)
    (accepted : (optimizeAndRespond env req params res goal
      (prepareTrajectory env req params (goalStateOf env goal))).1 = true)
    : ∃ s, AcceptedPlan env req params goal s (optimizeAndRespond env req params res goal
        (prepareTrajectory env req params (goalStateOf env goal))).2 := by
  rcases optimizeAndRespond_cases env req params res goal
      (prepareTrajectory env req params (goalStateOf env goal))
    with ⟨exit, s, run, ⟨-, h⟩ | ⟨-, -, h⟩ | ⟨-, -, -, h⟩ | ⟨rfl, collision, goals, h⟩⟩
  iterate 3 simp [h] at accepted
  have points : s.trajectory.numPoints = 89 :=
    (congrArg (fun r => r.2.trajectory.numPoints) run).symm.trans
      ((recoveryLoop_numPoints _ _ _).trans (prepareTrajectory_numPoints _ _ _ _))
  refine ⟨s, valid, run, collision, by rw [h]; rfl, _,
    outputTrajectory_getLastWayPoint _ (by omega), fun c member => ?_⟩
  simpa using List.all_eq_true.mp goals c member

/-- Any `true` answer has an accepted plan: a request that fails a check is answered `false`.
-/
theorem acceptedPlan_of_solve {env : PlanningEnvironment α} {req : MotionPlanRequest α}
    {params : ChompParameters α} {res : MotionPlanDetailedResponse α}
    (accepted : (solve env req params res).1 = true)
    : ∃ goal s, AcceptedPlan env req params goal s (solve env req params res).2 := by
  obtain ⟨goal, valid⟩ : ∃ goal, ValidRequest env req goal := by
    by_contra none
    obtain ⟨code, -, rejected⟩ := solve_of_invalid params res (not_exists.mp none)
    rw [rejected] at accepted
    exact Bool.noConfusion accepted
  rw [solve_of_valid params res valid] at accepted ⊢
  exact ⟨goal, acceptedPlan_of_valid valid accepted⟩

-----------------------------------------------------------------------------------------
-- The laws of `solve`
-----------------------------------------------------------------------------------------

/-- The recovery loop as `solve` runs it on a valid request obeys the run law, an
initialization failure answers `PLANNING_FAILED`, and restoring the four recovery fields
gives back the caller's parameters. By the run law of the loop and the gate cases.
-/
theorem solve_recovery_run_law (env : PlanningEnvironment α) (req : MotionPlanRequest α)
    (params : ChompParameters α) (res : MotionPlanDetailedResponse α) (goal : Constraints α)
    (valid : ValidRequest env req goal)
    : let run := recoveryLoop env.optimizer req.groupName
        (.init params (prepareTrajectory env req params (goalStateOf env goal)))
      RunLaw env.optimizer params run.1 run.2
      ∧ (run.1 = .initFailed
          → solve env req params res = (false, { res with errorCode := .planningFailed }))
      ∧ run.2.params.setRecoveryParams params.learningRate params.ridgeFactor
          params.planningTimeLimit params.maxIterations = params := by
  have law := recoveryLoop_init_runLaw env.optimizer params req.groupName
    (prepareTrajectory env req params (goalStateOf env goal))
  refine ⟨law, fun failed => ?_,
    by rw [law.params_eq]; exact ChompParameters.escalated_setRecoveryParams _ _⟩
  rw [solve_of_valid params res valid]
  rcases optimizeAndRespond_cases env req params res goal
      (prepareTrajectory env req params (goalStateOf env goal))
    with ⟨exit, s, run, ⟨-, h⟩ | ⟨broke, -⟩ | ⟨broke, -⟩ | ⟨broke, -⟩⟩
  · exact h
  all_goals simp [run, broke] at failed

/-- The acceptance gate of `solve`: `true` exactly with `SUCCESS`; a `true` answer comes with
an accepted plan; a request failing a check gets a validation code, and the same answer
whatever the optimizers do. By the validation lemmas and the gate cases.
-/
theorem solve_acceptance_gate (env : PlanningEnvironment α) (req : MotionPlanRequest α)
    (params : ChompParameters α) (res : MotionPlanDetailedResponse α)
    : ((solve env req params res).1 = true ↔ (solve env req params res).2.errorCode = .success)
      ∧ ((solve env req params res).1 = true →
          ∃ goal s, AcceptedPlan env req params goal s (solve env req params res).2)
      ∧ ((∀ goal, ¬ValidRequest env req goal) →
          (∃ code ∈ [MoveItErrorCode.failure, .invalidRobotState, .invalidGoalConstraints],
            solve env req params res = (false, { res with errorCode := code }))
          ∧ ∀ opt, solve { env with optimizer := opt } req params res
              = solve env req params res) := by
  by_cases hv : ∃ goal, ValidRequest env req goal
  · obtain ⟨goal, valid⟩ := hv
    rw [solve_of_valid params res valid]
    exact ⟨optimizeAndRespond_true_iff, fun h => ⟨goal, acceptedPlan_of_valid valid h⟩,
      fun invalid => absurd valid (invalid goal)⟩
  · have invalid := not_exists.mp hv
    obtain ⟨code, member, h⟩ := solve_of_invalid params res invalid
    refine ⟨?_, by simp [h], fun _ => ⟨⟨code, member, h⟩,
      solve_optimizer_irrelevant params res invalid⟩⟩
    simp only [List.mem_cons, List.not_mem_nil, or_false] at member
    rcases member with rfl | rfl | rfl <;> simp [h]

/-- A `false` answer is the caller's response with a validation or `PLANNING_FAILED` code, or,
after a `break`, the stored output with `INVALID_MOTION_PLAN` or `GOAL_CONSTRAINTS_VIOLATED`.
-/
theorem solve_rejection_response (env : PlanningEnvironment α) (req : MotionPlanRequest α)
    (params : ChompParameters α) (res : MotionPlanDetailedResponse α)
    (rejected : (solve env req params res).1 = false)
    : (∃ code ∈ [MoveItErrorCode.failure, .invalidRobotState, .invalidGoalConstraints,
          .planningFailed],
        (solve env req params res).2 = { res with errorCode := code })
      ∨ ∃ goal s, ValidRequest env req goal
        ∧ recoveryLoop env.optimizer req.groupName
            (.init params (prepareTrajectory env req params (goalStateOf env goal))) = (.broke, s)
        ∧ ∃ code ∈ [MoveItErrorCode.invalidMotionPlan, .goalConstraintsViolated],
          (solve env req params res).2
            = { storeResult env res (outputTrajectory env req.groupName s.trajectory) with
                errorCode := code } := by
  by_cases hv : ∃ goal, ValidRequest env req goal
  · obtain ⟨goal, valid⟩ := hv
    rw [solve_of_valid params res valid] at rejected ⊢
    rcases optimizeAndRespond_cases env req params res goal
        (prepareTrajectory env req params (goalStateOf env goal))
      with ⟨exit, s, run, ⟨-, h⟩ | ⟨rfl, -, h⟩ | ⟨rfl, -, -, h⟩ | ⟨-, -, -, h⟩⟩
    · exact .inl ⟨.planningFailed, by simp, by rw [h]⟩
    · exact .inr ⟨goal, s, valid, run, .invalidMotionPlan, by simp, by rw [h]⟩
    · exact .inr ⟨goal, s, valid, run, .goalConstraintsViolated, by simp, by rw [h]⟩
    · simp [h] at rejected
  · obtain ⟨code, member, h⟩ := solve_of_invalid params res (not_exists.mp hv)
    refine .inl ⟨code, ?_, by rw [h]⟩
    simp only [List.mem_cons, List.not_mem_nil, or_false] at member ⊢
    tauto

/-- With a method name `solve` does not know, a valid request reaches the loop, and so the
first optimizer, with free rows `1 .. N - 2` still holding what `init()` left. By the
validation lemma and the frame lemmas of the buffer's set-up.
-/
theorem solve_optimizes_unwritten_rows (env : PlanningEnvironment α)
    (req : MotionPlanRequest α) (params : ChompParameters α) (res : MotionPlanDetailedResponse α)
    (goal : Constraints α) (valid : ValidRequest env req goal)
    (unknown : params.trajectoryInitializationMethod ∉ initializationMethods)
    : solve env req params res
        = optimizeAndRespond env req params res goal
            (prepareTrajectory env req params (goalStateOf env goal))
      ∧ ∀ i, 1 ≤ i ∧ i + 1 < (prepareTrajectory env req params (goalStateOf env goal)).numPoints →
          (prepareTrajectory env req params (goalStateOf env goal)).trajectory i = env.storage i :=
  ⟨solve_of_valid params res valid,
    fun _ free => prepareTrajectory_unknown_method env req _ unknown free⟩

-----------------------------------------------------------------------------------------
-- A one-joint arm whose optimizer reports a collision
-----------------------------------------------------------------------------------------

/-- One revolute joint, `joint1`, the only joint of every group. -/
def armModel : RobotModel where
  joints := [("joint1", .revolute false)]
  groups := fun _ => [0]

/-- Every check passes; each optimizer initializes, succeeds at once, leaves the buffer as
it is and reports a collision.
-/
def collidingEnvironment : PlanningEnvironment ℚ where
  planningScene := true
  robotModel := armModel
  startState := ⟨fun _ => 0, fun _ => 0⟩
  satisfiesBounds := fun _ => true
  getVariableIndex := fun _ => 0
  shortestAngularDistance := fun start goal => goal - start
  storage := fun _ _ => 0
  csvRead := fun _ _ _ => 0
  optimizer :=
    { diffRuleLength := 7
      isInitialized := fun _ => true
      optimize := fun _ => true
      workingCopy := fun _ group => group.trajectory
      isCollisionFree := fun _ => false }
  diffMatrix := fun _ _ _ => 0
  initialVelPastEnd := fun _ => 0
  elapsed := 1
  configure := fun _ => true
  satisfied := fun _ _ => true

/-- `joint1` to position 1. -/
def armGoal : Constraints ℚ where
  jointConstraints :=
    [{ jointName := "joint1", position := 1, toleranceAbove := 0.1, toleranceBelow := 0.1 }]
  positionConstraints := 0
  orientationConstraints := 0

/-- A request for group `arm` with the one goal. -/
def armRequest : MotionPlanRequest ℚ where
  groupName := "arm"
  goalConstraints := [armGoal]

/-- CHOMP's configured defaults with the initialization method `method`. -/
def armParams (method : String) : ChompParameters ℚ where
  learningRate := 0.01
  ridgeFactor := 0
  planningTimeLimit := 10
  maxIterations := 200
  enableFailureRecovery := true
  maxRecoveryAttempts := 5
  trajectoryInitializationMethod := method
  demoType := "head"

/-- A response as a caller first passes it. -/
def emptyResponse : MotionPlanDetailedResponse ℚ where
  trajectory := []
  processingTime := []
  errorCode := .other 0

theorem armRequest_valid : ValidRequest collidingEnvironment armRequest armGoal :=
  ⟨rfl, rfl, rfl, List.cons_ne_nil _ _, rfl, rfl, rfl⟩

/-- The arm's plan is stored and then rejected at the collision gate, by the gate cases: the
optimizer initializes and reports a collision.
-/
theorem collidingEnvironment_solve (method : String) (res : MotionPlanDetailedResponse ℚ)
    : ∃ s : RecoveryState ℚ, solve collidingEnvironment armRequest (armParams method) res
      = (false, { storeResult collidingEnvironment res
                    (outputTrajectory collidingEnvironment "arm" s.trajectory) with
                  errorCode := .invalidMotionPlan }) := by
  rw [solve_of_valid _ _ armRequest_valid]
  rcases optimizeAndRespond_cases collidingEnvironment armRequest (armParams method) res armGoal
      (prepareTrajectory collidingEnvironment armRequest (armParams method)
        (goalStateOf collidingEnvironment armGoal))
    with ⟨exit, s, run, ⟨failed, -⟩ | ⟨-, -, h⟩ | ⟨-, collision, -⟩ | ⟨-, collision, -⟩⟩
  · have law := recoveryLoop_init_runLaw collidingEnvironment.optimizer (armParams method)
      armRequest.groupName
      (prepareTrajectory collidingEnvironment armRequest (armParams method)
        (goalStateOf collidingEnvironment armGoal))
    rw [run] at law
    exact Bool.noConfusion (law.initFailed_iff.mp failed : true = false)
  · exact ⟨s, h⟩
  all_goals exact Bool.noConfusion (collision : false = true)

/-- The plan rejected at the collision gate is still in the response. -/
theorem solve_rejected_plan_stored
    : (solve collidingEnvironment armRequest (armParams "linear") emptyResponse).1 = false
      ∧ (solve collidingEnvironment armRequest (armParams "linear") emptyResponse).2.trajectory
        ≠ emptyResponse.trajectory := by
  obtain ⟨s, h⟩ := collidingEnvironment_solve "linear" emptyResponse
  rw [h]
  simp [storeResult, emptyResponse]

theorem solve_rejection_response_arm
    : (solve collidingEnvironment armRequest (armParams "linear") emptyResponse).1 = false
      ∧ ((∃ code ∈ [MoveItErrorCode.failure, .invalidRobotState, .invalidGoalConstraints,
            .planningFailed],
          (solve collidingEnvironment armRequest (armParams "linear") emptyResponse).2
            = { emptyResponse with errorCode := code })
        ∨ ∃ goal s, ValidRequest collidingEnvironment armRequest goal
          ∧ recoveryLoop collidingEnvironment.optimizer armRequest.groupName
              (.init (armParams "linear") (prepareTrajectory collidingEnvironment armRequest
                (armParams "linear") (goalStateOf collidingEnvironment goal))) = (.broke, s)
          ∧ ∃ code ∈ [MoveItErrorCode.invalidMotionPlan, .goalConstraintsViolated],
            (solve collidingEnvironment armRequest (armParams "linear") emptyResponse).2
              = { storeResult collidingEnvironment emptyResponse
                    (outputTrajectory collidingEnvironment armRequest.groupName s.trajectory) with
                  errorCode := code }) := by
  have rejected : (solve collidingEnvironment armRequest (armParams "linear") emptyResponse).1
      = false := by
    obtain ⟨s, h⟩ := collidingEnvironment_solve "linear" emptyResponse
    rw [h]
  exact ⟨rejected, solve_rejection_response _ _ _ _ rejected⟩

theorem solve_recovery_run_law_arm
    : ValidRequest collidingEnvironment armRequest armGoal
      ∧ let run := recoveryLoop collidingEnvironment.optimizer armRequest.groupName
          (.init (armParams "linear") (prepareTrajectory collidingEnvironment armRequest
            (armParams "linear") (goalStateOf collidingEnvironment armGoal)))
        RunLaw collidingEnvironment.optimizer (armParams "linear") run.1 run.2
        ∧ (run.1 = .initFailed
            → solve collidingEnvironment armRequest (armParams "linear") emptyResponse
              = (false, { emptyResponse with errorCode := .planningFailed }))
        ∧ run.2.params.setRecoveryParams (armParams "linear").learningRate
            (armParams "linear").ridgeFactor (armParams "linear").planningTimeLimit
            (armParams "linear").maxIterations = armParams "linear" :=
  ⟨armRequest_valid, solve_recovery_run_law _ _ _ _ _ armRequest_valid⟩

theorem solve_optimizes_unwritten_rows_arm
    : ValidRequest collidingEnvironment armRequest armGoal
      ∧ (armParams "foo").trajectoryInitializationMethod ∉ initializationMethods
      ∧ solve collidingEnvironment armRequest (armParams "foo") emptyResponse
          = optimizeAndRespond collidingEnvironment armRequest (armParams "foo") emptyResponse
              armGoal (prepareTrajectory collidingEnvironment armRequest (armParams "foo")
                (goalStateOf collidingEnvironment armGoal))
      ∧ ∀ i, 1 ≤ i ∧ i + 1 < (prepareTrajectory collidingEnvironment armRequest
            (armParams "foo") (goalStateOf collidingEnvironment armGoal)).numPoints →
          (prepareTrajectory collidingEnvironment armRequest (armParams "foo")
            (goalStateOf collidingEnvironment armGoal)).trajectory i
            = collidingEnvironment.storage i := by
  have unknown : (armParams "foo").trajectoryInitializationMethod ∉ initializationMethods := by
    decide
  exact ⟨armRequest_valid, unknown,
    solve_optimizes_unwritten_rows _ _ _ _ _ armRequest_valid unknown⟩

end Chomp.Planner
