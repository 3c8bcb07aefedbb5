import Chomp.Planner.Solve

/-! The output stage of `solve`: one waypoint per buffer row, each the start state with the
row's positions and velocities written at the active joints' first variables. The boundary
waypoints take their velocities from the seven-entry `initial_vel`, so for a group of more
than seven joints they read past its end.
-/

namespace Chomp.Planner

open Chomp.Robot Chomp.Trajectory

variable {α : Type}

-----------------------------------------------------------------------------------------
-- One waypoint
-----------------------------------------------------------------------------------------

section Waypoint

variable (positions velocities : Nat → α)

/-- A variable no joint of the loop owns keeps the state's position and velocity, by
induction on the joint list.
-/
theorem waypointState_of_not_mem (group : List JointModel) (k : Nat) (state : RobotState α)
    {v : Nat} (outside : v ∉ group.map (·.firstVariableIndex))
    : (waypointState positions velocities group k state).position v = state.position v
      ∧ (waypointState positions velocities group k state).velocity v = state.velocity v := by
  induction group generalizing k state with
  | nil => exact ⟨rfl, rfl⟩
  | cons jm rest ih =>
      simp only [List.map_cons, List.mem_cons, not_or] at outside
      obtain ⟨position, velocity⟩ := ih (k + 1) _ outside.2
      refine ⟨position.trans ?_, velocity.trans ?_⟩ <;>
        simp [RobotState.setVariablePosition, RobotState.setVariableVelocity, outside.1]

/-- With distinct first variables, the `n`-th joint of the loop gets position
`positions (k + n)` and velocity `velocities (k + n)`, by induction on the joint list and the
frame lemma for the joints after it.
-/
theorem waypointState_joint (group : List JointModel) (k : Nat) (state : RobotState α)
    (distinct : (group.map (·.firstVariableIndex)).Nodup) {n : Nat} (hn : n < group.length)
    : (waypointState positions velocities group k state).position group[n].firstVariableIndex
        = positions (k + n)
      ∧ (waypointState positions velocities group k state).velocity group[n].firstVariableIndex
        = velocities (k + n) := by
  induction group generalizing k state n with
  | nil => exact absurd hn (Nat.not_lt_zero _)
  | cons jm rest ih =>
      simp only [List.map_cons, List.nodup_cons] at distinct
      cases n with
      | zero =>
          obtain ⟨position, velocity⟩ :=
            waypointState_of_not_mem positions velocities rest (k + 1) _ distinct.1
          refine ⟨position.trans ?_, velocity.trans ?_⟩ <;>
            simp [RobotState.setVariablePosition, RobotState.setVariableVelocity]
      | succ n =>
          have shifted : k + (n + 1) = k + 1 + n := by omega
          rw [shifted]
          exact ih (k + 1) _ distinct.2 (by simpa using hn)

end Waypoint

-----------------------------------------------------------------------------------------
-- The output loop
-----------------------------------------------------------------------------------------

variable [LinearOrderedField α]

/-- `initial_vel[k]` of the seven zeros, and past them whatever the read yields. -/
theorem initialVel_getD (env : PlanningEnvironment α) (k : Nat)
    : (List.replicate 7 (0 : α)).getD k (env.initialVelPastEnd k)
      = if k < 7 then 0 else env.initialVelPastEnd k := by
  rw [List.getD_eq_getElem?_getD, List.getElem?_replicate]
  split_ifs <;> rfl

/-- Waypoint `i` of the output is the inner loop run on row `i` from the start state. -/
theorem outputTrajectory_getWayPoint (env : PlanningEnvironment α) (groupName : String)
    (t : ChompTrajectory α) {i : Nat} (hi : i < t.numPoints)
    : (outputTrajectory env groupName t).getWayPoint? i
      = some (waypointState (t.trajectory i)
          (fun k => if i = 0 ∨ i = t.numPoints - 1 then
              (List.replicate 7 0).getD k (env.initialVelPastEnd k)
            else velocityMatrix (env.diffMatrix t.numPoints) t i k)
          (env.robotModel.getActiveJointModels groupName) 0 env.startState) := by
  rw [RobotTrajectory.getWayPoint?, outputTrajectory, forRange_addSuffixWayPoint]
  simp [← List.range_eq_range', List.getElem?_range hi]

/-- Waypoint `i` of the output: at the `k`-th joint's first variable, position row `i`'s entry
`k` and velocity `initial_vel[k]` on the end waypoints, `velocity_matrix(i, k)` between;
every other variable as in the start state.
-/
structure OutputWaypoint (env : PlanningEnvironment α) (groupName : String)
    (t : ChompTrajectory α) (i : Nat) (w : RobotState α) : Prop where
  position : ∀ k (hk : k < (env.robotModel.getActiveJointModels groupName).length),
    w.position (env.robotModel.getActiveJointModels groupName)[k].firstVariableIndex
      = t.trajectory i k
  velocity : ∀ k (hk : k < (env.robotModel.getActiveJointModels groupName).length),
    w.velocity (env.robotModel.getActiveJointModels groupName)[k].firstVariableIndex
      = if i = 0 ∨ i = t.numPoints - 1 then (if k < 7 then 0 else env.initialVelPastEnd k)
        else velocityMatrix (env.diffMatrix t.numPoints) t i k
  others : ∀ v ∉ (env.robotModel.getActiveJointModels groupName).map (·.firstVariableIndex),
    w.position v = env.startState.position v ∧ w.velocity v = env.startState.velocity v

/-- On a group of single-variable joints the output has one waypoint per row, each as
`OutputWaypoint` says; the end waypoints read `initial_vel[k]` in bounds only for `k < 7`.
-/
theorem outputTrajectory_boundary_initialVel (env : PlanningEnvironment α) (groupName : String)
    (t : ChompTrajectory α) (group : SingleVariableGroup env.robotModel groupName)
    : (outputTrajectory env groupName t).getWayPointCount = t.numPoints
      ∧ ∀ i < t.numPoints, ∃ w, (outputTrajectory env groupName t).getWayPoint? i = some w
          ∧ OutputWaypoint env groupName t i w := by
  refine ⟨outputTrajectory_length env groupName t, fun i hi => ⟨_, outputTrajectory_getWayPoint
    env groupName t hi, ?_⟩⟩
  refine ⟨fun k hk => ?_, fun k hk => ?_, fun v outside =>
    waypointState_of_not_mem (t.trajectory i) _ _ 0 env.startState outside⟩
  · rw [(waypointState_joint _ _ _ 0 _ group.firstVariableIndex_nodup hk).1, Nat.zero_add]
  · rw [(waypointState_joint _ _ _ 0 _ group.firstVariableIndex_nodup hk).2, Nat.zero_add,
      initialVel_getD]

-----------------------------------------------------------------------------------------
-- Reading the output back into a buffer
-----------------------------------------------------------------------------------------

/-- The output is a trajectory of the request's active joints. -/
theorem outputTrajectory_group (env : PlanningEnvironment α) (groupName : String)
    (t : ChompTrajectory α)
    : (outputTrajectory env groupName t).group = env.robotModel.getActiveJointModels groupName :=
  forRange_addSuffixWayPoint_group _ _ _ _ _

/-- The row `assign` reads from waypoint `i < N` of the output is row `i` of the buffer on the
group's columns, once each joint's joint index is its first variable index.
-/
theorem assignedRow_outputTrajectory (env : PlanningEnvironment α) (groupName : String)
    (t : ChompTrajectory α) (group : SingleVariableGroup env.robotModel groupName)
    (aligned : ∀ jm ∈ env.robotModel.getActiveJointModels groupName,
      jm.jointIndex = jm.firstVariableIndex)
    {i : Nat} (hi : i < t.numPoints)
    : assignedRow (outputTrajectory env groupName t) i
      = (List.range (env.robotModel.getActiveJointModels groupName).length).map
          (t.trajectory i) := by
  rw [assignedRow, outputTrajectory_getWayPoint env groupName t hi, outputTrajectory_group]
  refine List.ext_getElem (by simp) fun k hk _ => ?_
  simp only [List.getElem_map, List.getElem_range, RobotState.getVariablePosition]
  rw [aligned _ (List.getElem_mem _),
    (waypointState_joint _ _ _ 0 _ group.firstVariableIndex_nodup (by simpa using hk)).1,
    Nat.zero_add]

variable [FloorRing α]

/-- Resampling a buffer's output into a buffer of the same size copies back the group's
columns, one waypoint per row, once each joint's joint index is its first variable index.
-/
theorem fillInFromTrajectory_outputTrajectory (env : PlanningEnvironment α) (groupName : String)
    (t target : ChompTrajectory α) (group : SingleVariableGroup env.robotModel groupName)
    (aligned : ∀ jm ∈ env.robotModel.getActiveJointModels groupName,
      jm.jointIndex = jm.firstVariableIndex)
    (points : target.numPoints = t.numPoints) (two : 2 ≤ t.numPoints)
    : target.fillInFromTrajectory (outputTrajectory env groupName t)
      = (true,
          { target with
            trajectory := fun i j =>
              if i < t.numPoints ∧ j < (env.robotModel.getActiveJointModels groupName).length then
                t.trajectory i j
              else target.trajectory i j }) := by
  have count : (outputTrajectory env groupName t).getWayPointCount = t.numPoints :=
    outputTrajectory_length env groupName t
  have sources : (resampleCalls α t.numPoints t.numPoints).map Prod.fst = List.range t.numPoints := by
    rw [resampleCalls_repeat le_rfl, Nat.div_self (by omega), Nat.mod_self]
    simp
  rw [fillInFromTrajectory_eq target _ (by omega), count, points, sources]
  congr
  funext i j
  by_cases hi : i < t.numPoints
  · have row : (List.range t.numPoints).getD i 0 = i := by
      rw [List.getD_eq_getElem?_getD, List.getElem?_range hi, Option.getD_some]
    rw [if_pos hi, row, assignedRow_outputTrajectory env groupName t group aligned hi,
      getD_map_range]
    simp only [hi, true_and]
  · simp [hi]

/-- The one-joint arm's four-row buffer comes back unchanged from its own output. -/
theorem fillInFromTrajectory_outputTrajectory_four
    : SingleVariableGroup armModel "arm"
      ∧ (∀ jm ∈ armModel.getActiveJointModels "arm", jm.jointIndex = jm.firstVariableIndex)
      ∧ fourPointTrajectory.fillInFromTrajectory
          (outputTrajectory collidingEnvironment "arm" fourPointTrajectory)
        = (true, fourPointTrajectory) := by
  have group : SingleVariableGroup armModel "arm" := ⟨by decide, by decide⟩
  have aligned : ∀ jm ∈ armModel.getActiveJointModels "arm",
      jm.jointIndex = jm.firstVariableIndex := by decide
  refine ⟨group, aligned, ?_⟩
  rw [fillInFromTrajectory_outputTrajectory collidingEnvironment "arm" _ _ group aligned rfl
    (by decide)]
  simp only [ite_self]

-----------------------------------------------------------------------------------------
-- An eight-joint group
-----------------------------------------------------------------------------------------

/-- Eight revolute joints, together the group of every name. -/
def eightJointModel : RobotModel where
  joints := List.replicate 8 ("joint", .revolute false)
  groups := fun _ => List.range 8

/-- The arm environment on the eight-joint model, where a read past `initial_vel` yields `1`. -/
def eightJointEnvironment : PlanningEnvironment ℚ :=
  { collidingEnvironment with robotModel := eightJointModel, initialVelPastEnd := fun _ => 1 }

/-- On a four-row buffer of the eight joints, the first waypoint's eighth velocity is the
value read past the end of `initial_vel`, not zero.
-/
theorem outputTrajectory_boundary_initialVel_eight
    : SingleVariableGroup eightJointModel "arm"
      ∧ ∃ w, (outputTrajectory eightJointEnvironment "arm"
          (ChompTrajectory.ofNumPoints eightJointModel 4 1 "arm" fun _ _ => 0)).getWayPoint? 0
          = some w
        ∧ w.velocity 7 = 1 := by
  have group : SingleVariableGroup eightJointModel "arm" := ⟨by decide, by decide⟩
  obtain ⟨-, each⟩ := outputTrajectory_boundary_initialVel eightJointEnvironment "arm"
    (ChompTrajectory.ofNumPoints eightJointModel 4 1 "arm" fun _ _ => 0) group
  obtain ⟨w, found, spec⟩ := each 0 (by decide)
  exact ⟨group, w, found, spec.velocity 7 (by decide)⟩

end Chomp.Planner
