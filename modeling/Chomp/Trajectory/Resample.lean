import Chomp.Trajectory.Buffer

/-! Filling the buffer from an input trajectory of any length. The two loops of
`fillInFromTrajectory` are modelled as the sequence of `(input point, CHOMP point)` calls
they make to `assignCHOMPTrajectoryPointFromInputTrajectoryPoint`; the buffer is what those
calls write, in order. The decimation factor is computed exactly.
-/

namespace Chomp.Trajectory

open Chomp.Robot

variable {α : Type}

-----------------------------------------------------------------------------------------
-- Rows copied from robot states
-----------------------------------------------------------------------------------------

/-- Modelled from the spec: `robotStateToArray` (chomp utilities, not among the sources)
writes the group's active-joint positions, in group order, into a buffer row, reading each
joint's variable at its first variable index.
-/
def robotStateToArray (state : RobotState α) (group : List JointModel) (t : ChompTrajectory α)
    (row : Nat) : ChompTrajectory α :=
  { t with
    trajectory := writeRow t.trajectory row
      (group.map fun jm => state.getVariablePosition jm.firstVariableIndex) }

@[simp] theorem robotStateToArray_numPoints (state : RobotState α) (group : List JointModel)
    (t : ChompTrajectory α) (row : Nat)
    : (robotStateToArray state group t row).numPoints = t.numPoints :=
  rfl

@[simp] theorem robotStateToArray_trajectory (state : RobotState α) (group : List JointModel)
    (t : ChompTrajectory α) (row : Nat)
    : (robotStateToArray state group t row).trajectory
      = writeRow t.trajectory row
          (group.map fun jm => state.getVariablePosition jm.firstVariableIndex) :=
  rfl

namespace ChompTrajectory

/-- `assignCHOMPTrajectoryPointFromInputTrajectoryPoint(trajectory, i, j)`: CHOMP point `j`
takes waypoint `i`'s positions of the trajectory's group joints, in group order, each read
at the joint's joint index.
-/
def assignCHOMPTrajectoryPointFromInputTrajectoryPoint (t : ChompTrajectory α)
    (trajectory : RobotTrajectory α) (trajectoryPointIndex chompTrajectoryPointIndex : Nat)
    : ChompTrajectory α :=
  match trajectory.getWayPoint? trajectoryPointIndex with
  | some source =>
      { t with
        trajectory := writeRow t.trajectory chompTrajectoryPointIndex
          (trajectory.group.map fun jm => source.getVariablePosition jm.jointIndex) }
  | none => t

end ChompTrajectory

/-- The row an `assign` call writes from waypoint `i`; nothing past the last waypoint. -/
def assignedRow (trajectory : RobotTrajectory α) (i : Nat) : List α :=
  match trajectory.getWayPoint? i with
  | some source => trajectory.group.map fun jm => source.getVariablePosition jm.jointIndex
  | none => []

/-- An `assign` call writes `assignedRow`, whether or not the waypoint exists. -/
theorem assign_eq_writeRow (t : ChompTrajectory α) (trajectory : RobotTrajectory α) (i j : Nat)
    : t.assignCHOMPTrajectoryPointFromInputTrajectoryPoint trajectory i j
      = { t with trajectory := writeRow t.trajectory j (assignedRow trajectory i) } := by
  unfold ChompTrajectory.assignCHOMPTrajectoryPointFromInputTrajectoryPoint assignedRow
  split
  · rfl
  · rw [writeRow_nil]

/-- A sequence of row writes aimed at `lo, lo + 1, …` in order, with values that do not depend
on the matrix, leaves target row `lo + k` holding the values of the `k`-th write and every
other row as it was, by induction on the writes.
-/
theorem foldl_writeRow (values : Nat → List α) (calls : List (Nat × Nat)) (lo : Nat)
    (targets : calls.map Prod.snd = List.range' lo calls.length) (m : Nat → Nat → α)
    : calls.foldl (fun m call => writeRow m call.2 (values call.1)) m
      = fun i j =>
          if lo ≤ i ∧ i < lo + calls.length then
            (values ((calls.map Prod.fst).getD (i - lo) 0)).getD j (m i j)
          else m i j := by
  induction calls generalizing lo m with
  | nil => funext i j; simp only [List.length_nil]; split_ifs <;> first | rfl | omega
  | cons call rest ih =>
      simp only [List.map_cons, List.length_cons, List.range'_succ, List.cons.injEq] at targets
      rw [List.foldl_cons, ih (lo + 1) targets.2]
      funext i j
      by_cases hi : i = lo
      · subst hi; simp [writeRow, targets.1]
      · have hne : i ≠ call.2 := targets.1 ▸ hi
        simp only [writeRow, hne, if_false, List.length_cons]
        split_ifs with h1 h2 h2
        · simp only [List.map_cons]
          rw [show i - lo = (i - (lo + 1)) + 1 by omega]
          rfl
        · omega
        · omega
        · rfl

-----------------------------------------------------------------------------------------
-- The calls of the two branches
-----------------------------------------------------------------------------------------

/-- Calls of the repeat branch for input points `i .. i + count - 1`, the first written to
CHOMP point `responsePointId`: each point `repeated_factor` times, then once more while
`i < repeated_balance_factor`.
-/
def repeatCalls (repeatedFactor repeatedBalanceFactor : Nat)
    : Nat → Nat → Nat → List (Nat × Nat)
  | _, 0, _ => []
  | i, count + 1, responsePointId =>
      let repeated := (List.range repeatedFactor).map fun k => (i, responsePointId + k)
      let balance :=
        if i < repeatedBalanceFactor then [(i, responsePointId + repeatedFactor)] else []
      repeated ++ balance
        ++ repeatCalls repeatedFactor repeatedBalanceFactor (i + 1) count
            (responsePointId + repeatedFactor + balance.length)

/-- Calls of the decimation branch: CHOMP point `i` takes input point
`floor(i * decimation_sampling_factor)`, the factor being `num_input / num_chomp`.
-/
def decimationCalls (α : Type) [LinearOrderedField α] [FloorRing α]
    (numInputPoints numChompPoints : Nat) : List (Nat × Nat) :=
  let decimationSamplingFactor : α := (numInputPoints : α) / (numChompPoints : α)
  (List.range numChompPoints).map fun (i : Nat) => (⌊(i : α) * decimationSamplingFactor⌋₊, i)

/-- The calls `fillInFromTrajectory` makes once the input has at least two points. -/
def resampleCalls (α : Type) [LinearOrderedField α] [FloorRing α]
    (numChompTrajectoryPoints numInputPoints : Nat) : List (Nat × Nat) :=
  if numChompTrajectoryPoints ≥ numInputPoints then
    repeatCalls (numChompTrajectoryPoints / numInputPoints)
      (numChompTrajectoryPoints % numInputPoints) 0 numInputPoints 0
  else decimationCalls α numInputPoints numChompTrajectoryPoints

/-- `fillInFromTrajectory(trajectory)`: `false` for an input of fewer than two points,
otherwise every call of the selected branch, in order.
-/
def ChompTrajectory.fillInFromTrajectory [LinearOrderedField α] [FloorRing α]
    (t : ChompTrajectory α) (trajectory : RobotTrajectory α) : Bool × ChompTrajectory α :=
  let numChompTrajectoryPoints := t.numPoints
  let numInputPoints := trajectory.getWayPointCount
  if numInputPoints < 2 then (false, t)
  else
    (true, (resampleCalls α numChompTrajectoryPoints numInputPoints).foldl
      (fun t call =>
        t.assignCHOMPTrajectoryPointFromInputTrajectoryPoint trajectory call.1 call.2) t)

/-- Copies of input point `i` the repeat branch writes. -/
def repeatCopies (repeatedFactor repeatedBalanceFactor i : Nat) : Nat :=
  repeatedFactor + if i < repeatedBalanceFactor then 1 else 0

section RepeatBranch

variable (q r : Nat)

/-- The repeat branch writes CHOMP points `id, id + 1, …`, one per call, by induction on the
input points.
-/
theorem repeatCalls_targets (i count id : Nat)
    : (repeatCalls q r i count id).map Prod.snd
      = List.range' id ((List.range' i count).map (repeatCopies q r)).sum := by
  induction count generalizing i id with
  | zero => rfl
  | succ count ih =>
      simp only [repeatCalls, List.map_append, ih, List.range'_succ, List.map_cons, List.sum_cons]
      have hrep : ((List.range q).map fun k => (i, id + k)).map Prod.snd = List.range' id q := by
        simp [List.map_map, Function.comp_def, List.range'_eq_map_range]
      rw [hrep, repeatCopies]
      split_ifs
      · simp only [List.map_cons, List.map_nil, List.length_singleton]
        rw [← List.range'_1_concat, show id + q + 1 = id + (q + 1) by omega, List.range'_append_1]
        congr 1
        omega
      · simp only [List.map_nil, List.append_nil, List.length_nil, Nat.add_zero, List.range'_append_1]
        congr 1
        omega

/-- The repeat branch reads input point `i` exactly `repeatCopies` times, in a block, points in
order, by induction on the input points.
-/
theorem repeatCalls_sources (i count id : Nat)
    : (repeatCalls q r i count id).map Prod.fst
      = (List.range' i count).flatMap fun i => List.replicate (repeatCopies q r i) i := by
  induction count generalizing i id with
  | zero => rfl
  | succ count ih =>
      simp only [repeatCalls, List.map_append, ih, List.range'_succ, List.flatMap_cons,
        repeatCopies, List.replicate_add, List.append_assoc]
      congr 1
      · simp [List.map_map, Function.comp_def, List.map_const']
      · split_ifs <;> rfl

/-- The copies add up to `count * q` plus the balance points among `i .. i + count - 1`. -/
theorem sum_repeatCopies (i count : Nat)
    : ((List.range' i count).map (repeatCopies q r)).sum + min i r = count * q + min (i + count) r := by
  induction count generalizing i with
  | zero => simp
  | succ count ih =>
      have := ih (i + 1)
      simp only [List.range'_succ, List.map_cons, List.sum_cons, repeatCopies] at this ⊢
      split_ifs at this ⊢ <;> rw [Nat.succ_mul] <;> omega

/-- With `m > 0` input points the copies add up to `N`: `m * (N / m) + N % m`. -/
theorem sum_repeatCopies_total (N m : Nat) (hm : 0 < m)
    : ((List.range' 0 m).map (repeatCopies (N / m) (N % m))).sum = N := by
  have h := sum_repeatCopies (N / m) (N % m) 0 m
  rw [Nat.min_eq_left (Nat.zero_le _), Nat.add_zero, Nat.zero_add,
    Nat.min_eq_right (Nat.mod_lt N hm).le] at h
  rw [h, Nat.div_add_mod]

/-- Input points read in blocks of equal points in increasing order never decrease. -/
theorem sorted_flatMap_replicate (c : Nat → Nat) (i count : Nat)
    : ((List.range' i count).flatMap fun i => List.replicate (c i) i).Sorted (· ≤ ·) :=
  List.pairwise_flatMap.mpr
    ⟨fun a _ => List.pairwise_replicate.mpr (.inr (Nat.le_refl a)),
      (List.pairwise_lt_range' i count).imp fun hab x hx y hy => by
        rw [List.eq_of_mem_replicate hx, List.eq_of_mem_replicate hy]
        exact hab.le⟩

end RepeatBranch

section DecimationBranch

/-- The exact decimation index is `floor(i * m / N)`. -/
theorem decimationCalls_eq [LinearOrderedField α] [FloorRing α] (m N : Nat)
    : decimationCalls α m N = (List.range N).map fun k => (k * m / N, k) := by
  simp only [decimationCalls]
  congr 1
  funext k
  rw [← mul_div_assoc, ← Nat.cast_mul, Nat.floor_div_eq_div]

/-- With more input points than CHOMP points, consecutive samples skip at least one input
point each step, so the sampled indices strictly increase.
-/
theorem decimation_index_lt {k k' m N : Nat} (hN : 0 < N) (hm : N ≤ m) (hk : k < k')
    : k * m / N < k' * m / N := by
  have step := Nat.mul_le_mul_right m hk
  rw [Nat.succ_mul] at step
  calc k * m / N < k * m / N + 1 := Nat.lt_succ_self _
    _ = (k * m + N) / N := (Nat.add_div_right _ hN).symm
    _ ≤ k' * m / N := Nat.div_le_div_right (by omega)

/-- Every sampled index lies inside the input. -/
theorem decimation_index_lt_input {k m N : Nat} (hm : 0 < m) (hk : k < N) : k * m / N < m :=
  Nat.div_lt_of_lt_mul (Nat.mul_lt_mul_of_pos_right hk hm)

end DecimationBranch

-----------------------------------------------------------------------------------------
-- The buffer after the calls
-----------------------------------------------------------------------------------------

/-- Running `assign` calls writes, in order, the rows `assignedRow` gives. -/
theorem foldl_assign (trajectory : RobotTrajectory α) (calls : List (Nat × Nat))
    (t : ChompTrajectory α)
    : calls.foldl (fun t call =>
        t.assignCHOMPTrajectoryPointFromInputTrajectoryPoint trajectory call.1 call.2) t
      = { t with
          trajectory := calls.foldl (fun m call => writeRow m call.2 (assignedRow trajectory call.1))
            t.trajectory } := by
  induction calls generalizing t with
  | nil => rfl
  | cons call rest ih => rw [List.foldl_cons, ih, assign_eq_writeRow]; rfl

variable [LinearOrderedField α] [FloorRing α]

/-- Either branch writes CHOMP points `0 .. N - 1`, each once and in order. -/
theorem resampleCalls_targets (N m : Nat) (hm : 0 < m)
    : (resampleCalls α N m).map Prod.snd = List.range N := by
  unfold resampleCalls
  split
  · rw [repeatCalls_targets, sum_repeatCopies_total N m hm, List.range_eq_range']
  · simp [decimationCalls_eq, List.map_map, Function.comp_def]

/-- With at least two input points the fill succeeds, and CHOMP point `i < N` holds the row of
the input point its call reads; nothing past the buffer is written.
-/
theorem fillInFromTrajectory_eq (t : ChompTrajectory α) (trajectory : RobotTrajectory α)
    (hm : 2 ≤ trajectory.getWayPointCount)
    : t.fillInFromTrajectory trajectory
      = (true,
          { t with
            trajectory := fun i j =>
              if i < t.numPoints then
                (assignedRow trajectory
                  (((resampleCalls α t.numPoints trajectory.getWayPointCount).map Prod.fst).getD i 0)).getD
                  j (t.trajectory i j)
              else t.trajectory i j }) := by
  have targets := resampleCalls_targets (α := α) t.numPoints trajectory.getWayPointCount (by omega)
  have hlen : (resampleCalls α t.numPoints trajectory.getWayPointCount).length = t.numPoints := by
    simpa using congrArg List.length targets
  simp only [ChompTrajectory.fillInFromTrajectory, show ¬trajectory.getWayPointCount < 2 by omega,
    if_false, foldl_assign]
  rw [foldl_writeRow (assignedRow trajectory) _ 0 (by rw [targets, hlen, List.range_eq_range'])]
  simp only [hlen, Nat.zero_le, true_and, Nat.zero_add, Nat.sub_zero]

section Calls

variable {N m : Nat}

/-- With `N ≥ m` the calls read input point `i` in one block of `⌊N / m⌋ + [i < N mod m]`. -/
theorem resampleCalls_repeat (hle : m ≤ N)
    : (resampleCalls α N m).map Prod.fst
      = (List.range m).flatMap fun i => List.replicate (N / m + if i < N % m then 1 else 0) i := by
  simp only [resampleCalls, if_pos hle, repeatCalls_sources, List.range_eq_range', repeatCopies]

/-- With `N < m` CHOMP point `k` reads input point `⌊k m / N⌋`. -/
theorem resampleCalls_decimation (hlt : N < m)
    : resampleCalls α N m = (List.range N).map (fun k => (k * m / N, k)) := by
  simp only [resampleCalls, if_neg (Nat.not_le.mpr hlt), decimationCalls_eq]

theorem resampleCalls_decimation_sorted (hN : 0 < N) (hlt : N < m)
    : ((resampleCalls α N m).map Prod.fst).Sorted (· < ·) := by
  rw [resampleCalls_decimation hlt, List.map_map]
  exact List.pairwise_map.mpr ((List.pairwise_lt_range N).imp (decimation_index_lt hN hlt.le))

/-- Every call reads an input point that exists. -/
theorem resampleCalls_sources_lt (hm : 0 < m) : ∀ call ∈ resampleCalls α N m, call.1 < m := by
  intro call hcall
  by_cases hle : m ≤ N
  · have hmem : call.1 ∈ (resampleCalls α N m).map Prod.fst := List.mem_map_of_mem _ hcall
    rw [resampleCalls_repeat hle] at hmem
    obtain ⟨i, hi, hrep⟩ := List.mem_flatMap.mp hmem
    rw [List.eq_of_mem_replicate hrep]
    exact List.mem_range.mp hi
  · rw [resampleCalls_decimation (by omega)] at hcall
    obtain ⟨k, hk, rfl⟩ := List.mem_map.mp hcall
    exact decimation_index_lt_input hm (List.mem_range.mp hk)

/-- The input points read never go back in time. -/
theorem resampleCalls_sources_sorted (hN : 0 < N)
    : ((resampleCalls α N m).map Prod.fst).Sorted (· ≤ ·) := by
  by_cases hle : m ≤ N
  · rw [resampleCalls_repeat hle, List.range_eq_range']
    exact sorted_flatMap_replicate _ 0 m
  · exact (resampleCalls_decimation_sorted hN (by omega)).imp Nat.le_of_lt

/-- With `N ≥ m` every input point is read. -/
theorem resampleCalls_onto (hm : 0 < m) (hle : m ≤ N)
    : ∀ i < m, i ∈ (resampleCalls α N m).map Prod.fst := by
  intro i hi
  rw [resampleCalls_repeat hle]
  have : 0 < N / m := Nat.div_pos hle hm
  exact List.mem_flatMap.mpr ⟨i, List.mem_range.mpr hi, List.mem_replicate.mpr ⟨by omega, rfl⟩⟩

end Calls

/-- The resampling law for `N` points and `m ≥ 2` waypoints: point `k` is written once, in order,
from waypoint `σ k < m`, `σ` never decreasing; for `N ≥ m` waypoint `i` fills
`⌊N / m⌋ + [i < N mod m]` points, and for `N < m`, `σ k = ⌊k m / N⌋`.
-/
structure ResampleLaw (t : ChompTrajectory α) (trajectory : RobotTrajectory α)
    (calls : List (Nat × Nat)) (result : Bool × ChompTrajectory α) : Prop where
  succeeds : result.1 = true
  targets : calls.map Prod.snd = List.range t.numPoints
  rows
    : result.2
      = { t with
          trajectory := fun i j =>
            if i < t.numPoints then
              (assignedRow trajectory ((calls.map Prod.fst).getD i 0)).getD j (t.trajectory i j)
            else t.trajectory i j }
  sources_lt : ∀ call ∈ calls, call.1 < trajectory.getWayPointCount
  sources_sorted : (calls.map Prod.fst).Sorted (· ≤ ·)
  repeat_blocks
    : trajectory.getWayPointCount ≤ t.numPoints →
        calls.map Prod.fst
          = (List.range trajectory.getWayPointCount).flatMap fun i =>
              List.replicate
                (t.numPoints / trajectory.getWayPointCount
                  + if i < t.numPoints % trajectory.getWayPointCount then 1 else 0) i
  onto
    : trajectory.getWayPointCount ≤ t.numPoints →
        ∀ i < trajectory.getWayPointCount, i ∈ calls.map Prod.fst
  decimation
    : t.numPoints < trajectory.getWayPointCount →
        calls = (List.range t.numPoints).map (fun k => (k * trajectory.getWayPointCount / t.numPoints, k))
        ∧ (calls.map Prod.fst).Sorted (· < ·)

/-- `fillInFromTrajectory` on every buffer of at least two points: an input of fewer than two
waypoints is refused and nothing is written; any other input is resampled by `ResampleLaw`.
-/
theorem fillInFromTrajectory_resample_law (t : ChompTrajectory α) (trajectory : RobotTrajectory α)
    (hN : 2 ≤ t.numPoints)
    : (trajectory.getWayPointCount < 2 → t.fillInFromTrajectory trajectory = (false, t))
      ∧ (2 ≤ trajectory.getWayPointCount →
          ResampleLaw t trajectory (resampleCalls α t.numPoints trajectory.getWayPointCount)
            (t.fillInFromTrajectory trajectory)) := by
  refine ⟨fun hm => by simp [ChompTrajectory.fillInFromTrajectory, hm], fun hm =>
    ⟨by rw [fillInFromTrajectory_eq t trajectory hm], resampleCalls_targets _ _ (by omega),
      by rw [fillInFromTrajectory_eq t trajectory hm], resampleCalls_sources_lt (by omega),
      resampleCalls_sources_sorted (by omega), resampleCalls_repeat, resampleCalls_onto (by omega),
      fun hlt => ⟨resampleCalls_decimation hlt, resampleCalls_decimation_sorted (by omega) hlt⟩⟩⟩

/-- An all-zero one-joint buffer of `n` points in the planner's unpadded shape. -/
def zeroTrajectory (n : Nat) : ChompTrajectory ℚ where
  planningGroupName := "arm"
  numPoints := n
  numJoints := 1
  discretization := 1
  duration := n - 1
  trajectory := fun _ _ => 0
  startIndex := 1
  endIndex := (n : Int) - 2
  fullTrajectoryIndex := []

/-- A one-joint input of `m` waypoints; waypoint `i` holds `i` in every variable. -/
def countingTrajectory (m : Nat) : RobotTrajectory ℚ where
  group := [{ name := "joint1", type := .revolute false, jointIndex := 0, firstVariableIndex := 0 }]
  waypoints := (List.range m).map fun (i : Nat) => ⟨fun _ => (i : ℚ), fun _ => 0⟩
  durations := List.replicate m 0

theorem assignedRow_counting {m i : Nat} (hi : i < m)
    : assignedRow (countingTrajectory m) i = [(i : ℚ)] := by
  simp only [assignedRow, countingTrajectory, RobotTrajectory.getWayPoint?, List.getElem?_map,
    List.getElem?_range hi, Option.map_some', List.map_cons, List.map_nil,
    RobotState.getVariablePosition]

/-- Five CHOMP points from three waypoints: the repeat branch with a balance. -/
theorem fillInFromTrajectory_resample_law_counting
    : 2 ≤ (zeroTrajectory 5).numPoints
      ∧ (((countingTrajectory 3).getWayPointCount < 2 →
            (zeroTrajectory 5).fillInFromTrajectory (countingTrajectory 3) = (false, zeroTrajectory 5))
        ∧ (2 ≤ (countingTrajectory 3).getWayPointCount →
            ResampleLaw (zeroTrajectory 5) (countingTrajectory 3)
              (resampleCalls ℚ (zeroTrajectory 5).numPoints (countingTrajectory 3).getWayPointCount)
              ((zeroTrajectory 5).fillInFromTrajectory (countingTrajectory 3)))) :=
  ⟨by decide, fillInFromTrajectory_resample_law _ _ (by decide)⟩

-----------------------------------------------------------------------------------------
-- The boundary rows
-----------------------------------------------------------------------------------------

/-- A non-decreasing list that contains `0` starts with `0`. -/
theorem sorted_getD_zero {l : List Nat} (sorted : l.Sorted (· ≤ ·)) (bottom : 0 ∈ l)
    : l.getD 0 0 = 0 := by
  obtain ⟨k, hk, hx⟩ := List.getElem_of_mem bottom
  have h0 : 0 < l.length := by omega
  have := sorted.rel_get_of_le (a := ⟨0, h0⟩) (b := ⟨k, hk⟩) (Nat.zero_le _)
  simp only [List.get_eq_getElem, hx] at this
  simp only [List.getD_eq_getElem?_getD, List.getElem?_eq_getElem h0, Option.getD_some]
  omega

/-- A non-decreasing list below `bound` that contains `bound - 1` ends with `bound - 1`. -/
theorem sorted_getD_last {l : List Nat} {bound : Nat} (sorted : l.Sorted (· ≤ ·))
    (below : ∀ x ∈ l, x < bound) (top : bound - 1 ∈ l)
    : l.getD (l.length - 1) 0 = bound - 1 := by
  obtain ⟨k, hk, hx⟩ := List.getElem_of_mem top
  have hlast : l.length - 1 < l.length := by omega
  have := sorted.rel_get_of_le (a := ⟨k, hk⟩) (b := ⟨l.length - 1, hlast⟩) (by simp; omega)
  have := below _ (List.getElem_mem hlast)
  simp only [List.get_eq_getElem, hx] at *
  simp only [List.getD_eq_getElem?_getD, List.getElem?_eq_getElem hlast, Option.getD_some]
  omega

/-- What the fill leaves in the buffer's first and last rows: the first holds `assign`'s row of
waypoint 0; the last that of waypoint `m - 1` when `N ≥ m`, and when `N < m` that of waypoint
`⌊(N - 1) m / N⌋`, which comes before waypoint `m - 1`.
-/
theorem fillInFromTrajectory_boundary_rows (t : ChompTrajectory α)
    (trajectory : RobotTrajectory α) (hN : 2 ≤ t.numPoints) (hm : 2 ≤ trajectory.getWayPointCount)
    : (∀ j, (t.fillInFromTrajectory trajectory).2.trajectory 0 j
          = (assignedRow trajectory 0).getD j (t.trajectory 0 j))
      ∧ (trajectory.getWayPointCount ≤ t.numPoints → ∀ j,
          (t.fillInFromTrajectory trajectory).2.trajectory (t.numPoints - 1) j
            = (assignedRow trajectory (trajectory.getWayPointCount - 1)).getD j
                (t.trajectory (t.numPoints - 1) j))
      ∧ (t.numPoints < trajectory.getWayPointCount →
          (t.numPoints - 1) * trajectory.getWayPointCount / t.numPoints
            < trajectory.getWayPointCount - 1
          ∧ ∀ j, (t.fillInFromTrajectory trajectory).2.trajectory (t.numPoints - 1) j
            = (assignedRow trajectory
                ((t.numPoints - 1) * trajectory.getWayPointCount / t.numPoints)).getD j
                (t.trajectory (t.numPoints - 1) j)) := by
  rw [fillInFromTrajectory_eq t trajectory hm]
  set N := t.numPoints
  set m := trajectory.getWayPointCount
  have hlen : ((resampleCalls α N m).map Prod.fst).length = N := by
    simpa using congrArg List.length (resampleCalls_targets (α := α) N m (by omega))
  have sorted := resampleCalls_sources_sorted (α := α) (m := m) (N := N) (by omega)
  refine ⟨fun j => ?_, fun hle j => ?_, fun hlt => ⟨?_, fun j => ?_⟩⟩
  · have bottom : 0 ∈ (resampleCalls α N m).map Prod.fst := by
      by_cases hle : m ≤ N
      · exact resampleCalls_onto (by omega) hle 0 (by omega)
      · rw [resampleCalls_decimation (by omega)]
        exact List.mem_map.mpr ⟨(0, 0), List.mem_map.mpr ⟨0, by simp; omega, by simp⟩, rfl⟩
    simp only [if_pos (show 0 < N by omega), sorted_getD_zero sorted bottom]
  · have last := sorted_getD_last sorted
      (fun x hx => by
        obtain ⟨call, hcall, rfl⟩ := List.mem_map.mp hx
        exact resampleCalls_sources_lt (by omega) call hcall)
      (resampleCalls_onto (by omega) hle (m - 1) (by omega))
    rw [hlen] at last
    simp only [if_pos (show N - 1 < N by omega), last]
  · have : m ≤ N * m := Nat.le_mul_of_pos_left m (by omega)
    exact Nat.div_lt_of_lt_mul (by rw [Nat.sub_one_mul, Nat.mul_sub_one]; omega)
  · simp only [if_pos (show N - 1 < N by omega), resampleCalls_decimation hlt, List.map_map,
      Function.comp_def, List.getD_eq_getElem?_getD, List.getElem?_map,
      List.getElem?_range (show N - 1 < N by omega), Option.map_some', Option.getD_some]

/-- Two CHOMP points from three waypoints: decimation sampling. -/
theorem fillInFromTrajectory_boundary_rows_counting
    : 2 ≤ (zeroTrajectory 2).numPoints ∧ 2 ≤ (countingTrajectory 3).getWayPointCount
      ∧ (∀ j, ((zeroTrajectory 2).fillInFromTrajectory (countingTrajectory 3)).2.trajectory 0 j
            = (assignedRow (countingTrajectory 3) 0).getD j ((zeroTrajectory 2).trajectory 0 j))
      ∧ ((countingTrajectory 3).getWayPointCount ≤ (zeroTrajectory 2).numPoints → ∀ j,
          ((zeroTrajectory 2).fillInFromTrajectory (countingTrajectory 3)).2.trajectory
              ((zeroTrajectory 2).numPoints - 1) j
            = (assignedRow (countingTrajectory 3) ((countingTrajectory 3).getWayPointCount - 1)).getD j
                ((zeroTrajectory 2).trajectory ((zeroTrajectory 2).numPoints - 1) j))
      ∧ ((zeroTrajectory 2).numPoints < (countingTrajectory 3).getWayPointCount →
          ((zeroTrajectory 2).numPoints - 1) * (countingTrajectory 3).getWayPointCount
              / (zeroTrajectory 2).numPoints
            < (countingTrajectory 3).getWayPointCount - 1
          ∧ ∀ j, ((zeroTrajectory 2).fillInFromTrajectory (countingTrajectory 3)).2.trajectory
                ((zeroTrajectory 2).numPoints - 1) j
            = (assignedRow (countingTrajectory 3)
                (((zeroTrajectory 2).numPoints - 1) * (countingTrajectory 3).getWayPointCount
                  / (zeroTrajectory 2).numPoints)).getD j
                ((zeroTrajectory 2).trajectory ((zeroTrajectory 2).numPoints - 1) j)) :=
  ⟨by decide, by decide, fillInFromTrajectory_boundary_rows _ _ (by decide) (by decide)⟩

/-- Decimating three waypoints onto two CHOMP points leaves waypoint 1, not the goal
waypoint 2, in the last row.
-/
theorem fillInFromTrajectory_goal_row_dropped
    : ((zeroTrajectory 2).fillInFromTrajectory (countingTrajectory 3)).2.trajectory 1 0
      ≠ (assignedRow (countingTrajectory 3) 2).getD 0 0 := by
  have hm : (countingTrajectory 3).getWayPointCount = 3 := rfl
  rw [fillInFromTrajectory_eq _ _ (by decide), hm,
    resampleCalls_decimation (show (zeroTrajectory 2).numPoints < 3 by decide)]
  simp [zeroTrajectory, assignedRow_counting]

-----------------------------------------------------------------------------------------
-- Joint index against first variable index
-----------------------------------------------------------------------------------------

/-- A robot on a floating base: the base owns variables 0 .. 6, the arm joint variable 7. -/
def floatingBaseRobot : RobotModel where
  joints := [("base", .floating), ("joint1", .revolute false)]
  groups := fun _ => [1]

/-- A state whose variable `v` holds `v`. -/
def indexState : RobotState ℚ := ⟨fun v => v, fun _ => 0⟩

/-- On the floating-base robot `assign` copies variable 1, the arm joint's joint index, where
`robotStateToArray` and the planner's output copy variable 7, its first variable index.
-/
theorem assign_reads_jointIndex
    : ((zeroTrajectory 2).assignCHOMPTrajectoryPointFromInputTrajectoryPoint
          ⟨floatingBaseRobot.getActiveJointModels "arm", [indexState], [0]⟩ 0 0).trajectory 0 0 = 1
      ∧ (robotStateToArray indexState (floatingBaseRobot.getActiveJointModels "arm")
          (zeroTrajectory 2) 0).trajectory 0 0 = 7 := by
  simp [ChompTrajectory.assignCHOMPTrajectoryPointFromInputTrajectoryPoint, robotStateToArray,
    RobotModel.getActiveJointModels, RobotModel.getJointModels, floatingBaseRobot, layoutJoints,
    JointType.variableCount, RobotTrajectory.getWayPoint?, RobotState.getVariablePosition,
    indexState, writeRow]

end Chomp.Trajectory
