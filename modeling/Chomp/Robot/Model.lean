import Mathlib

/-! Robot model, robot state and robot trajectory of `moveit_core`, which is not among the
sources, as far as the CHOMP planner reads them.
Joints are laid out in model order, and each joint's variables follow those of the joints
before it, so a joint's joint index and its first variable index differ as soon as an
earlier joint owns other than one variable.
-/

namespace Chomp.Robot

/-- Modelled from the spec: the joint kinds of `moveit::core::JointModel`; a revolute joint
is continuous when it has no travel bounds and wraps at a full turn.
-/
inductive JointType
  | revolute (continuous : Bool)
  | prismatic
  | fixed
  | planar
  | floating
  deriving DecidableEq, Repr

/-- Modelled from the spec: the number of state variables a joint of each kind owns. -/
def JointType.variableCount : JointType → Nat
  | .revolute _ => 1
  | .prismatic => 1
  | .fixed => 0
  | .planar => 3
  | .floating => 7

/-- Modelled from the spec: a joint model with the two indices the robot model assigns it. -/
structure JointModel where
  name : String
  type : JointType
  jointIndex : Nat
  firstVariableIndex : Nat
  deriving DecidableEq, Repr

/-- Modelled from the spec: `JointModel::getVariableCount`. -/
def JointModel.getVariableCount (jm : JointModel) : Nat :=
  jm.type.variableCount

/-- Modelled from the spec: the robot model numbers its joints in model order from joint
`jointIndex`, whose first variable is `firstVariable`, each after the last one's variables.
-/
def layoutJoints : List (String × JointType) → Nat → Nat → List JointModel
  | [], _, _ => []
  | (name, type) :: rest, jointIndex, firstVariable =>
      { name, type, jointIndex, firstVariableIndex := firstVariable }
        :: layoutJoints rest (jointIndex + 1) (firstVariable + type.variableCount)

/-- Modelled from the spec: a robot model's joints in model order, and the active joints of
each named group as positions in that order.
-/
structure RobotModel where
  joints : List (String × JointType)
  groups : String → List Nat

/-- Modelled from the spec: `RobotModel::getJointModels`. -/
def RobotModel.getJointModels (model : RobotModel) : List JointModel :=
  layoutJoints model.joints 0 0

/-- Modelled from the spec: `getJointModelGroup(group)->getActiveJointModels()`. -/
def RobotModel.getActiveJointModels (model : RobotModel) (group : String) : List JointModel :=
  (model.groups group).filterMap fun k => model.getJointModels[k]?

/-- Joint `k` of the laid-out model has joint index `jointIndex + k`, by induction on the
joint list.
-/
theorem layoutJoints_jointIndex (joints : List (String × JointType)) (jointIndex first : Nat)
    (k : Nat) (jm : JointModel) (found : (layoutJoints joints jointIndex first)[k]? = some jm)
    : jm.jointIndex = jointIndex + k := by
  induction joints generalizing jointIndex first k with
  | nil => simp [layoutJoints] at found
  | cons joint rest ih =>
      cases k with
      | zero => simp [layoutJoints] at found; rw [← found]; rfl
      | succ k =>
          have := ih (jointIndex + 1) _ k (by simpa [layoutJoints] using found)
          omega

/-- Every joint laid out from variable `first` starts at or after it, by induction on the
joint list.
-/
theorem layoutJoints_first_le (joints : List (String × JointType)) (jointIndex first : Nat)
    (jm : JointModel) (member : jm ∈ layoutJoints joints jointIndex first)
    : first ≤ jm.firstVariableIndex := by
  induction joints generalizing jointIndex first with
  | nil => simp [layoutJoints] at member
  | cons joint rest ih =>
      rcases List.mem_cons.mp member with rfl | later
      · exact le_rfl
      · have := ih _ _ later
        omega

/-- A later joint of the layout starts after every variable of an earlier one, by induction on
the joint list.
-/
theorem layoutJoints_variables_before (joints : List (String × JointType))
    (jointIndex first : Nat) {a b : Nat} (hab : a < b) {ja jb : JointModel}
    (found_a : (layoutJoints joints jointIndex first)[a]? = some ja)
    (found_b : (layoutJoints joints jointIndex first)[b]? = some jb)
    : ja.firstVariableIndex + ja.getVariableCount ≤ jb.firstVariableIndex := by
  induction joints generalizing jointIndex first a b with
  | nil => simp [layoutJoints] at found_a
  | cons joint rest ih =>
      obtain ⟨b, rfl⟩ : ∃ b', b = b' + 1 := ⟨b - 1, by omega⟩
      cases a with
      | zero =>
          simp only [layoutJoints, List.getElem?_cons_zero, Option.some.injEq,
            List.getElem?_cons_succ] at found_a found_b
          subst found_a
          exact layoutJoints_first_le _ _ _ _ (List.getElem?_mem found_b)
      | succ a =>
          simp only [layoutJoints, List.getElem?_cons_succ] at found_a found_b
          exact ih _ _ (by omega) found_a found_b

/-- A group as the output loop asserts it: each joint listed once, and each owning a single
variable (`jm->getVariableCount() == 1`).
-/
structure SingleVariableGroup (model : RobotModel) (group : String) : Prop where
  nodup : (model.groups group).Nodup
  single : ∀ jm ∈ model.getActiveJointModels group, jm.getVariableCount = 1

/-- The joints of such a group own pairwise distinct variables: distinct joints of the layout
start at distinct variables once the earlier one owns a variable.
-/
theorem SingleVariableGroup.firstVariableIndex_nodup {model : RobotModel} {group : String}
    (h : SingleVariableGroup model group)
    : ((model.getActiveJointModels group).map (·.firstVariableIndex)).Nodup := by
  have joints : (model.getActiveJointModels group).Nodup :=
    h.nodup.filterMap fun a a' jm ha ha' => by
      have := layoutJoints_jointIndex _ _ _ _ _ ha
      have := layoutJoints_jointIndex _ _ _ _ _ ha'
      omega
  refine joints.map_on fun x hx y hy same => ?_
  obtain ⟨a, -, ha⟩ := List.mem_filterMap.mp hx
  obtain ⟨b, -, hb⟩ := List.mem_filterMap.mp hy
  have one_x := h.single x hx
  have one_y := h.single y hy
  rcases lt_trichotomy a b with lt | rfl | gt
  · have := layoutJoints_variables_before _ _ _ lt ha hb
    omega
  · exact Option.some_injective _ (ha.symm.trans hb)
  · have := layoutJoints_variables_before _ _ _ gt hb ha
    omega

/-- Modelled from the spec: a robot state, one position and one velocity per variable. -/
structure RobotState (α : Type) where
  position : Nat → α
  velocity : Nat → α

namespace RobotState

variable {α : Type}

/-- Modelled from the spec: `RobotState::getVariablePosition(index)`. -/
def getVariablePosition (state : RobotState α) (index : Nat) : α :=
  state.position index

/-- Modelled from the spec: `RobotState::setVariablePosition(index, value)`. -/
def setVariablePosition (state : RobotState α) (index : Nat) (value : α) : RobotState α :=
  { state with position := Function.update state.position index value }

/-- Modelled from the spec: `RobotState::setVariableVelocity(index, value)`. -/
def setVariableVelocity (state : RobotState α) (index : Nat) (value : α) : RobotState α :=
  { state with velocity := Function.update state.velocity index value }

@[simp] theorem getVariablePosition_setVariablePosition (state : RobotState α) (index k : Nat)
    (value : α)
    : (state.setVariablePosition index value).getVariablePosition k
      = if k = index then value else state.getVariablePosition k := by
  simp [getVariablePosition, setVariablePosition, Function.update_apply]

@[simp] theorem getVariablePosition_setVariableVelocity (state : RobotState α) (index k : Nat)
    (value : α)
    : (state.setVariableVelocity index value).getVariablePosition k
      = state.getVariablePosition k :=
  rfl

end RobotState

/-- Modelled from the spec: a robot trajectory of one group, its active joints, waypoints and
each waypoint's duration from the previous one.
-/
structure RobotTrajectory (α : Type) where
  group : List JointModel
  waypoints : List (RobotState α)
  durations : List α

namespace RobotTrajectory

variable {α : Type}

/-- Modelled from the spec: `RobotTrajectory::getWayPointCount`. -/
def getWayPointCount (trajectory : RobotTrajectory α) : Nat :=
  trajectory.waypoints.length

/-- Modelled from the spec: `RobotTrajectory::getWayPoint(index)`; `none` past the end. -/
def getWayPoint? (trajectory : RobotTrajectory α) (index : Nat) : Option (RobotState α) :=
  trajectory.waypoints[index]?

/-- Modelled from the spec: `RobotTrajectory::addSuffixWayPoint(state, dt)`. -/
def addSuffixWayPoint (trajectory : RobotTrajectory α) (state : RobotState α) (dt : α)
    : RobotTrajectory α :=
  { trajectory with
    waypoints := trajectory.waypoints ++ [state]
    durations := trajectory.durations ++ [dt] }

/-- Modelled from the spec: `RobotTrajectory::getLastWayPoint`; `none` when empty. -/
def getLastWayPoint? (trajectory : RobotTrajectory α) : Option (RobotState α) :=
  trajectory.waypoints.getLast?

end RobotTrajectory

end Chomp.Robot
