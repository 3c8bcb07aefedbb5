import Chomp.Trajectory.Buffer

/-! The padded group trajectory the optimizer works on, and the write-back of its free rows.
The padded copy replicates the source's first and last rows so that a finite-difference rule
of length `diff_rule_length` has context at both ends of the free range; the write-back
copies the free rows home again. Both offsets are exact integers here: the C++ `int`/`size_t`
mixture wraps modulo the word size and lands on the same values.
-/

namespace Chomp.Trajectory

namespace ChompTrajectory

variable {α : Type}

-----------------------------------------------------------------------------------------
-- The padded copy
-----------------------------------------------------------------------------------------

/-- `start_extra`: rows the padded copy adds before the source's first row. -/
def startExtra (source : ChompTrajectory α) (diffRuleLength : Int) : Int :=
  (diffRuleLength - 1) - source.startIndex

/-- `end_extra`: rows the padded copy adds after the source's last row. -/
def endExtra (source : ChompTrajectory α) (diffRuleLength : Int) : Int :=
  (diffRuleLength - 1) - (((source.numPoints : Int) - 1) - source.endIndex)

/-- Body of the copy loop: the source row that padded row `i` copies, `i - start_extra`
pushed into the source's rows.
-/
def sourceTrajPoint (sourceNumPoints : Nat) (startExtra : Int) (i : Nat) : Int :=
  let point := (i : Int) - startExtra
  let point := if point < 0 then 0 else point
  if point.toNat ≥ sourceNumPoints then (sourceNumPoints : Int) - 1 else point

/-- `ChompTrajectory(source_traj, group_name, diff_rule_length)`. The loop writes every row of
the new matrix, so nothing `init()` left survives; `full_trajectory_index_` records the source
row of each padded row.
-/
def ofSource [Semiring α] (source : ChompTrajectory α) (groupName : String)
    (diffRuleLength : Int) : ChompTrajectory α :=
  let numPoints :=
    ((source.numPoints : Int) + source.startExtra diffRuleLength
      + source.endExtra diffRuleLength).toNat
  { planningGroupName := groupName
    numPoints := numPoints
    numJoints := source.numJoints
    discretization := source.discretization
    duration := ((numPoints - 1 : Nat) : α) * source.discretization
    trajectory := fun i =>
      source.trajectory (sourceTrajPoint source.numPoints (source.startExtra diffRuleLength) i).toNat
    startIndex := diffRuleLength - 1
    endIndex := ((numPoints : Int) - 1) - (diffRuleLength - 1)
    fullTrajectoryIndex :=
      (List.range numPoints).map
        (sourceTrajPoint source.numPoints (source.startExtra diffRuleLength)) }

/-- The copy loop clamps `i - start_extra` into `[0, num_points_ - 1]`, by the two branches. -/
theorem sourceTrajPoint_eq (n : Nat) (extra : Int) (i : Nat)
    : sourceTrajPoint n extra i = min (max ((i : Int) - extra) 0) ((n : Int) - 1) := by
  simp only [sourceTrajPoint]
  split_ifs <;> omega

/-- Later padded rows copy later source rows, by the clamped form. -/
theorem sourceTrajPoint_mono (n : Nat) (extra : Int) {i i' : Nat} (h : i ≤ i')
    : sourceTrajPoint n extra i ≤ sourceTrajPoint n extra i' := by
  simp only [sourceTrajPoint_eq]
  omega

/-- Padded free row `d - 1 + k` copies source free row `s + k`, by the clamped form. -/
theorem sourceTrajPoint_free {S : ChompTrajectory α} {d : Int} (valid : S.FreeRangeValid)
    (hd : 1 ≤ d) (k : Nat) (hk : (k : Int) ≤ S.endIndex - S.startIndex)
    : sourceTrajPoint S.numPoints (S.startExtra d) (d - 1 + k).toNat = S.startIndex + k := by
  have := valid.start_nonneg
  have := valid.end_lt
  rw [sourceTrajPoint_eq, startExtra]
  omega

section Padding

variable [Semiring α] (S : ChompTrajectory α) (groupName : String) (d : Int)

@[simp] theorem ofSource_startIndex : (S.ofSource groupName d).startIndex = d - 1 :=
  rfl

@[simp] theorem ofSource_numJoints : (S.ofSource groupName d).numJoints = S.numJoints :=
  rfl

theorem ofSource_fullTrajectoryIndex
    : (S.ofSource groupName d).fullTrajectoryIndex
      = (List.range (S.ofSource groupName d).numPoints).map
          (sourceTrajPoint S.numPoints (S.startExtra d)) :=
  rfl

theorem ofSource_trajectory (i : Nat)
    : (S.ofSource groupName d).trajectory i
      = S.trajectory (min (max ((i : Int) - S.startExtra d) 0) ((S.numPoints : Int) - 1)).toNat := by
  simp only [ofSource, sourceTrajPoint_eq]

variable {S d}

/-- For a valid source and `d ≥ 1` the padded size `n + start_extra + end_extra` is not
negative, so no wrap-around happens: it equals `2d - 1 + (e - s)`.
-/
theorem ofSource_numPoints (valid : S.FreeRangeValid) (hd : 1 ≤ d)
    : ((S.ofSource groupName d).numPoints : Int) = S.numPoints + S.startExtra d + S.endExtra d := by
  have := valid.start_le
  simp only [ofSource, startExtra, endExtra]
  omega

/-- The padded copy's free range has the source's length, and ends `d - 1` rows before its
last row.
-/
theorem ofSource_endIndex (valid : S.FreeRangeValid) (hd : 1 ≤ d)
    : (S.ofSource groupName d).endIndex = (S.ofSource groupName d).numPoints - d
      ∧ (S.ofSource groupName d).endIndex = d - 1 + (S.endIndex - S.startIndex) := by
  have := ofSource_numPoints groupName valid hd
  simp only [startExtra, endExtra] at this
  simp only [ofSource] at this ⊢
  omega

end Padding

-----------------------------------------------------------------------------------------
-- Writing the free rows back
-----------------------------------------------------------------------------------------

/-- `updateFromGroupTrajectory(group_trajectory)`: the block of this buffer's free rows, over
all joints, takes the same number of rows of `group_trajectory` from its `start_index_` on.
-/
def updateFromGroupTrajectory (t group : ChompTrajectory α) : ChompTrajectory α :=
  let numVarsFree := t.endIndex - t.startIndex + 1
  { t with
    trajectory := fun i j =>
      if t.startIndex ≤ i ∧ (i : Int) < t.startIndex + numVarsFree ∧ j < t.numJoints then
        group.trajectory ((i : Int) - t.startIndex + group.startIndex).toNat j
      else t.trajectory i j }

section WriteBack

variable (t group : ChompTrajectory α)

/-- Free row `s + k` of the written-back buffer holds row `start_index_ + k` of the group
trajectory, on every joint column.
-/
theorem updateFromGroupTrajectory_free (start : 0 ≤ t.startIndex) (k : Nat)
    (hk : (k : Int) ≤ t.endIndex - t.startIndex) {j : Nat} (hj : j < t.numJoints)
    : (t.updateFromGroupTrajectory group).trajectory (t.startIndex + k).toNat j
      = group.trajectory (group.startIndex + k).toNat j := by
  simp only [updateFromGroupTrajectory]
  rw [if_pos (by omega)]
  congr 2
  omega

/-- Rows outside the free range keep their contents. -/
theorem updateFromGroupTrajectory_outside {i : Nat}
    (hi : (i : Int) < t.startIndex ∨ t.endIndex < i)
    : (t.updateFromGroupTrajectory group).trajectory i = t.trajectory i := by
  funext j
  simp only [updateFromGroupTrajectory]
  rw [if_neg (by omega)]

/-- The write-back is a pass over the free rows: it keeps the shape and every other row. -/
theorem updateFromGroupTrajectory_keepsFixedRows
    : KeepsFixedRows t (t.updateFromGroupTrajectory group) :=
  ⟨rfl, fun _ hi => updateFromGroupTrajectory_outside t group hi⟩

/-- The write-back reads the group trajectory only through its `start_index_` and the rows
from there on, as many as the free range has.
-/
theorem updateFromGroupTrajectory_congr {group' : ChompTrajectory α}
    (nonneg : 0 ≤ group.startIndex) (start : group'.startIndex = group.startIndex)
    (rows : ∀ i : Nat, group.startIndex ≤ i → (i : Int) ≤ group.startIndex + (t.endIndex - t.startIndex)
      → group'.trajectory i = group.trajectory i)
    : t.updateFromGroupTrajectory group' = t.updateFromGroupTrajectory group := by
  simp only [updateFromGroupTrajectory, start, ChompTrajectory.mk.injEq, and_true, true_and]
  funext i j
  split_ifs with h
  · rw [rows _ (by omega) (by omega)]
  · rfl

end WriteBack

section RoundTrip

variable [Semiring α] {S : ChompTrajectory α} (groupName : String) {d : Int}

/-- Writing the unmodified padded copy back restores every row, since each padded free row
copies the source free row it is written to.
-/
theorem updateFromGroupTrajectory_ofSource_self (valid : S.FreeRangeValid) (hd : 1 ≤ d)
    : S.updateFromGroupTrajectory (S.ofSource groupName d) = S := by
  have := valid.start_nonneg
  cases S
  simp only [updateFromGroupTrajectory, ChompTrajectory.mk.injEq, and_true, true_and]
  funext i j
  split_ifs with h
  · obtain ⟨k, hk⟩ := Int.le.dest h.1
    have free := sourceTrajPoint_free valid hd k (by simp only at h ⊢; omega)
    simp only [ofSource, startExtra] at free ⊢
    rw [show (i : Int) - _ + (d - 1) = d - 1 + k by omega, free]
    congr 1
    omega
  · rfl

/-- A five-point, one-joint buffer in the planner's unpadded shape, free rows 1 .. 3, whose
rows hold their own index.
-/
def rampTrajectory : ChompTrajectory Int where
  planningGroupName := "arm"
  numPoints := 5
  numJoints := 1
  discretization := 1
  duration := 4
  trajectory := fun i _ => i
  startIndex := 1
  endIndex := 3
  fullTrajectoryIndex := []

theorem rampTrajectory_valid : rampTrajectory.FreeRangeValid :=
  ⟨by decide, by decide, by decide⟩

/-- The padded copy `P = ChompTrajectory(S, group, d)`: `n + start_extra + end_extra` rows, a free
range `[d - 1, num_points_ - d]` of the source's length, and row `i` the source row
`clamp(i - start_extra, 0, n - 1)` that `full_trajectory_index_` records.
-/
structure PaddedCopyOf (P S : ChompTrajectory α) (d : Int) : Prop where
  numPoints_eq
    : (P.numPoints : Int)
      = S.numPoints + (d - 1 - S.startIndex) + (d - 1 - ((S.numPoints : Int) - 1 - S.endIndex))
  startIndex_eq : P.startIndex = d - 1
  endIndex_eq : P.endIndex = P.numPoints - d
  free_length : P.endIndex - P.startIndex + 1 = S.endIndex - S.startIndex + 1
  index_length : P.fullTrajectoryIndex.length = P.numPoints
  rows
    : ∀ i < P.numPoints,
        P.fullTrajectoryIndex[i]?
          = some (min (max ((i : Int) - (d - 1 - S.startIndex)) 0) ((S.numPoints : Int) - 1))
        ∧ P.trajectory i
          = S.trajectory
              (min (max ((i : Int) - (d - 1 - S.startIndex)) 0) ((S.numPoints : Int) - 1)).toNat
  index_sorted : P.fullTrajectoryIndex.Sorted (· ≤ ·)
  free_rows
    : ∀ k : Nat, (k : Int) ≤ S.endIndex - S.startIndex →
        P.fullTrajectoryIndex[(P.startIndex + k).toNat]? = some (S.startIndex + k)
  first_rows : ∀ i : Nat, (i : Int) < d - 1 - S.startIndex → P.trajectory i = S.trajectory 0
  last_rows
    : ∀ i : Nat, i < P.numPoints →
        (P.numPoints : Int) - (d - 1 - ((S.numPoints : Int) - 1 - S.endIndex)) ≤ i →
        P.trajectory i = S.trajectory (S.numPoints - 1)

/-- The padded copy of a source with a valid free range, for every stencil length `d ≥ 1`,
has the shape and rows `PaddedCopyOf` lists, by the clamped form of the copy loop.
-/
theorem ofSource_padded_copy (valid : S.FreeRangeValid) (hd : 1 ≤ d)
    : PaddedCopyOf (S.ofSource groupName d) S d := by
  have size := ofSource_numPoints groupName valid hd
  have ends := ofSource_endIndex groupName valid hd
  simp only [startExtra, endExtra] at size
  have := valid.start_nonneg
  have := valid.end_lt
  refine ⟨size, rfl, ends.1, by rw [ends.2, ofSource_startIndex]; omega, by simp [ofSource],
    ?rows, ?sorted, ?free, ?first, ?last⟩
  case rows =>
    intro i hi
    refine ⟨?_, ofSource_trajectory S groupName d i⟩
    rw [ofSource_fullTrajectoryIndex, List.getElem?_map, List.getElem?_range hi, Option.map_some',
      sourceTrajPoint_eq, startExtra]
  case sorted =>
    exact List.pairwise_map.mpr
      ((List.pairwise_lt_range _).imp fun h => sourceTrajPoint_mono _ _ (Nat.le_of_lt h))
  case free =>
    intro k hk
    have hlt : (d - 1 + k).toNat < (S.ofSource groupName d).numPoints := by omega
    rw [ofSource_startIndex, ofSource_fullTrajectoryIndex, List.getElem?_map,
      List.getElem?_range hlt, Option.map_some', sourceTrajPoint_free valid hd k hk]
  case first =>
    intro i hi
    rw [ofSource_trajectory, startExtra]
    exact congrArg S.trajectory (by omega)
  case last =>
    intro i _ hi
    rw [ofSource_trajectory, startExtra]
    exact congrArg S.trajectory (by omega)

/-- The ramp buffer padded for the CHOMP rule length 7. -/
theorem ofSource_padded_copy_ramp
    : rampTrajectory.FreeRangeValid ∧ (1 : Int) ≤ 7
      ∧ PaddedCopyOf (rampTrajectory.ofSource "arm" 7) rampTrajectory 7 :=
  ⟨rampTrajectory_valid, by decide, ofSource_padded_copy "arm" rampTrajectory_valid (by decide)⟩

/-- Writing a working copy `P'` of the padded copy `P` back into `S`: free row `s + k` of `S`
takes row `P.start_index_ + k` of `P'`, a row inside `P`; every row outside the free range is
kept; and rows of `P'` outside `[0, P.num_points_)` are never read.
-/
structure WriteBackOf (S P P' : ChompTrajectory α) : Prop where
  free_rows
    : ∀ k : Nat, (k : Int) ≤ S.endIndex - S.startIndex →
        (P.startIndex + k).toNat < P.numPoints
        ∧ ∀ j < S.numJoints,
            (S.updateFromGroupTrajectory P').trajectory (S.startIndex + k).toNat j
              = P'.trajectory (P.startIndex + k).toNat j
  outside_rows
    : ∀ i : Nat, ((i : Int) < S.startIndex ∨ S.endIndex < i) →
        (S.updateFromGroupTrajectory P').trajectory i = S.trajectory i
  reads_inside
    : ∀ P'' : ChompTrajectory α, P''.startIndex = P.startIndex →
        (∀ i < P.numPoints, P''.trajectory i = P'.trajectory i) →
        S.updateFromGroupTrajectory P'' = S.updateFromGroupTrajectory P'

/-- Every working copy with the padded copy's `start_index_` is written back as `WriteBackOf`
says, and writing back the padded copy itself leaves `S` as it was.
-/
theorem updateFromGroupTrajectory_padded (valid : S.FreeRangeValid) (hd : 1 ≤ d)
    (P' : ChompTrajectory α) (shape : P'.startIndex = (S.ofSource groupName d).startIndex)
    : WriteBackOf S (S.ofSource groupName d) P'
      ∧ S.updateFromGroupTrajectory (S.ofSource groupName d) = S := by
  have ends := ofSource_endIndex groupName valid hd
  refine ⟨⟨fun k hk => ⟨by simp only [ofSource_startIndex]; omega, fun j hj => ?_⟩,
    fun i hi => updateFromGroupTrajectory_outside S P' hi,
    fun P'' start rows =>
      updateFromGroupTrajectory_congr S P' (by rw [shape]; simp; omega) (start.trans shape.symm) ?_⟩,
    updateFromGroupTrajectory_ofSource_self groupName valid hd⟩
  · rw [updateFromGroupTrajectory_free S P' valid.start_nonneg k hk hj, shape]
  · intro i hi hi'
    exact rows i (by rw [shape] at hi hi'; simp only [ofSource_startIndex] at hi hi'; omega)

/-- Writing back an all-zero working copy of the ramp buffer's padded copy. -/
theorem updateFromGroupTrajectory_padded_ramp
    : rampTrajectory.FreeRangeValid ∧ (1 : Int) ≤ 7
      ∧ ({ rampTrajectory.ofSource "arm" 7 with trajectory := fun _ _ => 0 } : ChompTrajectory Int).startIndex
        = (rampTrajectory.ofSource "arm" 7).startIndex
      ∧ WriteBackOf rampTrajectory (rampTrajectory.ofSource "arm" 7)
          { rampTrajectory.ofSource "arm" 7 with trajectory := fun _ _ => 0 }
      ∧ rampTrajectory.updateFromGroupTrajectory (rampTrajectory.ofSource "arm" 7) = rampTrajectory :=
  ⟨rampTrajectory_valid, by decide, rfl,
    updateFromGroupTrajectory_padded "arm" rampTrajectory_valid (by decide) _ rfl⟩

end RoundTrip

end ChompTrajectory

end Chomp.Trajectory
