import Chomp.Robot.Model
import Mathlib

/-! The CHOMP trajectory buffer: a points-by-joints matrix with a free index range.
The matrix is a function of row and column; the planner never reads an entry outside the
buffer's shape, and the contents `init()` leaves behind are a parameter, because Eigen's
resize does not specify them.
-/

namespace Chomp.Trajectory

open Chomp.Robot

variable {α σ : Type}

-----------------------------------------------------------------------------------------
-- Matrix writes and counted loops
-----------------------------------------------------------------------------------------

/-- `(*this)(row, col) = value`. -/
def setEntry (m : Nat → Nat → α) (row col : Nat) (value : α) : Nat → Nat → α :=
  fun i j => if i = row ∧ j = col then value else m i j

theorem setEntry_of_ne (m : Nat → Nat → α) {row col i : Nat} (value : α) (h : i ≠ row) (j : Nat)
    : setEntry m row col value i j = m i j := by
  simp [setEntry, h]

/-- `row[k++] = v` for each `v` of `values` in turn: the first `values.length` entries of
`row` are overwritten, the rest of the matrix is kept.
-/
def writeRow (m : Nat → Nat → α) (row : Nat) (values : List α) : Nat → Nat → α :=
  fun i j => if i = row then values.getD j (m i j) else m i j

@[simp] theorem writeRow_nil (m : Nat → Nat → α) (row : Nat) : writeRow m row [] = m := by
  funext i j
  simp [writeRow]

/-- Entry `j` of a row listed for columns `0 .. n - 1`, with a fallback past the last column. -/
theorem getD_map_range (f : Nat → α) (n j : Nat) (d : α)
    : ((List.range n).map f).getD j d = if j < n then f j else d := by
  split_ifs with h
  · simp [List.getElem?_range h]
  · rw [List.getD_eq_getElem?_getD, List.getElem?_map,
      List.getElem?_eq_none (by simpa using Nat.le_of_not_lt h)]
    rfl

/-- `for (i = lo; i < lo + count; ++i) body(i)` over a state threaded through the body. -/
def forRange (body : Nat → σ → σ) : Nat → Nat → σ → σ
  | _, 0, s => s
  | lo, count + 1, s => forRange body (lo + 1) count (body lo s)

@[simp] theorem forRange_zero (body : Nat → σ → σ) (lo : Nat) (s : σ)
    : forRange body lo 0 s = s :=
  rfl

theorem forRange_succ (body : Nat → σ → σ) (lo count : Nat) (s : σ)
    : forRange body lo (count + 1) s = forRange body (lo + 1) count (body lo s) :=
  rfl

/-- A loop whose pass `i` writes row `i` with values that do not depend on the matrix
leaves rows `lo .. lo + count - 1` holding those values and every other row as it was, by
induction on the count.
-/
theorem forRange_writeRow (values : Nat → List α) (lo count : Nat) (m : Nat → Nat → α)
    : forRange (fun i m => writeRow m i (values i)) lo count m
      = fun i j => if lo ≤ i ∧ i < lo + count then (values i).getD j (m i j) else m i j := by
  induction count generalizing lo m with
  | zero => funext i j; simp only [forRange_zero, Nat.add_zero]; split_ifs <;> first | rfl | omega
  | succ count ih =>
      rw [forRange_succ, ih]
      funext i j
      by_cases hi : i = lo
      · subst hi; simp [writeRow]
      · simp only [writeRow, hi, if_false]
        congr 1
        apply propext
        omega

/-- A loop whose pass `j` writes entry `(j, col)` with a value that reads no entry of rows
`lo ..` leaves those rows of column `col` holding their values on the original matrix and
every other entry as it was, by induction on the count.
-/
theorem forRange_setEntry (value : Nat → (Nat → Nat → α) → α) (col lo count : Nat)
    (m : Nat → Nat → α)
    (reads : ∀ j m r x, lo ≤ r → value j (setEntry m r col x) = value j m)
    : forRange (fun j m => setEntry m j col (value j m)) lo count m
      = fun r c => if c = col ∧ lo ≤ r ∧ r < lo + count then value r m else m r c := by
  induction count generalizing lo m with
  | zero =>
      funext r c
      rw [forRange_zero, if_neg (by omega)]
  | succ count ih =>
      rw [forRange_succ, ih (lo + 1) _ fun j m r x h => reads j m r x (by omega)]
      funext r c
      simp only [setEntry, reads r m lo _ le_rfl]
      by_cases hr : r = lo
      · subst hr
        by_cases hc : c = col <;> simp [hc]
      · by_cases hc : c = col
        · simp only [hc, hr, true_and, false_and, if_false]
          congr 1
          apply propext
          omega
        · simp [hc]

/-- A loop whose pass `i` rewrites column `i` from that column alone leaves columns
`lo .. lo + count - 1` so rewritten and the others as they were, by induction on the count.
-/
theorem forRange_columns (body : Nat → (Nat → Nat → α) → Nat → Nat → α)
    (column : Nat → (Nat → α) → Nat → α) (lo count : Nat) (m : Nat → Nat → α)
    (writes : ∀ i m, body i m = fun r c => if c = i then column i (fun r => m r i) r else m r c)
    : forRange body lo count m
      = fun r c => if lo ≤ c ∧ c < lo + count then column c (fun r => m r c) r else m r c := by
  induction count generalizing lo m with
  | zero =>
      funext r c
      rw [forRange_zero, if_neg (by omega)]
  | succ count ih =>
      rw [forRange_succ, ih]
      funext r c
      by_cases hc : c = lo
      · subst hc
        simp [writes]
      · have same : (fun r => body lo m r c) = fun r => m r c := by
          funext r
          simp [writes, hc]
        rw [same, writes]
        simp only [hc, if_false]
        congr 1
        apply propext
        omega

/-- A loop whose every pass appends one waypoint appends `count`, by induction on the count. -/
theorem forRange_waypoints_length {body : Nat → RobotTrajectory α → RobotTrajectory α}
    (appends : ∀ i r, (body i r).waypoints.length = r.waypoints.length + 1)
    (lo count : Nat) (r : RobotTrajectory α)
    : (forRange body lo count r).waypoints.length = r.waypoints.length + count := by
  induction count generalizing lo r with
  | zero => rfl
  | succ count ih =>
      rw [forRange_succ, ih, appends]
      omega

/-- A loop that appends one waypoint per index appends them in index order. -/
theorem forRange_addSuffixWayPoint (state : Nat → RobotState α) (dt : α) (lo count : Nat)
    (r : RobotTrajectory α)
    : (forRange (fun i r => r.addSuffixWayPoint (state i) dt) lo count r).waypoints
      = r.waypoints ++ (List.range' lo count).map state := by
  induction count generalizing lo r with
  | zero => simp
  | succ count ih =>
      rw [forRange_succ, ih, List.range'_succ]
      simp [RobotTrajectory.addSuffixWayPoint]

/-- Appending waypoints keeps the trajectory's group. -/
theorem forRange_addSuffixWayPoint_group (state : Nat → RobotState α) (dt : α) (lo count : Nat)
    (r : RobotTrajectory α)
    : (forRange (fun i r => r.addSuffixWayPoint (state i) dt) lo count r).group = r.group := by
  induction count generalizing lo r with
  | zero => rfl
  | succ count ih => rw [forRange_succ, ih]; rfl

/-- Entry `k` of a row written from a list mapped over joints is the `k`-th joint's value. -/
theorem writeRow_map_self {β : Type} (m : Nat → Nat → α) (row : Nat) (l : List β) (f : β → α)
    {k : Nat} (hk : k < l.length) : writeRow m row (l.map f) row k = f l[k] := by
  simp [writeRow, List.getD_eq_getElem?_getD, hk]

@[simp] theorem writeRow_of_ne (m : Nat → Nat → α) (values : List α) {row i : Nat}
    (h : i ≠ row) : writeRow m row values i = m i := by
  funext j
  simp [writeRow, h]

-----------------------------------------------------------------------------------------
-- The buffer
-----------------------------------------------------------------------------------------

/-- `ChompTrajectory`: rows are trajectory points in time order, columns are the group's
joints; rows `start_index_ .. end_index_` are the free rows the optimizer may change.
`full_trajectory_index_` is filled only by the padded copy.
-/
structure ChompTrajectory (α : Type) where
  planningGroupName : String
  numPoints : Nat
  numJoints : Nat
  discretization : α
  duration : α
  trajectory : Nat → Nat → α
  startIndex : Int
  endIndex : Int
  fullTrajectoryIndex : List Int

namespace ChompTrajectory

/-- `ChompTrajectory(robot_model, num_points, discretization, group_name)`; `storage` is what
`init()`'s resize leaves in the matrix.
-/
def ofNumPoints [Semiring α] (robotModel : RobotModel) (numPoints : Nat) (discretization : α)
    (groupName : String) (storage : Nat → Nat → α) : ChompTrajectory α where
  planningGroupName := groupName
  numPoints := numPoints
  numJoints := (robotModel.getActiveJointModels groupName).length
  discretization := discretization
  duration := ((numPoints - 1 : Nat) : α) * discretization
  trajectory := storage
  startIndex := 1
  endIndex := (numPoints : Int) - 2
  fullTrajectoryIndex := []

/-- `ChompTrajectory(robot_model, duration, discretization, group_name)`: the point count is
`static_cast<size_t>(duration / discretization) + 1`.
-/
def ofDuration [LinearOrderedSemifield α] [FloorSemiring α] (robotModel : RobotModel)
    (duration discretization : α) (groupName : String) (storage : Nat → Nat → α)
    : ChompTrajectory α :=
  ofNumPoints robotModel (⌊duration / discretization⌋₊ + 1) discretization groupName storage

@[simp] theorem ofDuration_numPoints [LinearOrderedSemifield α] [FloorSemiring α]
    (robotModel : RobotModel) (duration discretization : α) (groupName : String)
    (storage : Nat → Nat → α)
    : (ofDuration robotModel duration discretization groupName storage).numPoints
      = ⌊duration / discretization⌋₊ + 1 :=
  rfl

@[simp] theorem ofDuration_trajectory [LinearOrderedSemifield α] [FloorSemiring α]
    (robotModel : RobotModel) (duration discretization : α) (groupName : String)
    (storage : Nat → Nat → α)
    : (ofDuration robotModel duration discretization groupName storage).trajectory = storage :=
  rfl

/-- `getJointTrajectory(joint)`: the column of one joint. -/
def getJointTrajectory (t : ChompTrajectory α) (joint : Nat) : Nat → α :=
  fun i => t.trajectory i joint

/-- The free range lies inside the buffer: `0 ≤ start_index_ ≤ end_index_ + 1 ≤ num_points_`.
-/
structure FreeRangeValid (t : ChompTrajectory α) : Prop where
  start_nonneg : 0 ≤ t.startIndex
  start_le : t.startIndex ≤ t.endIndex + 1
  end_lt : t.endIndex + 1 ≤ t.numPoints

/-- What a pass over the free rows may change of a buffer: only the matrix, and in it no row
outside `start_index_ .. end_index_`.
-/
structure KeepsFixedRows (t t' : ChompTrajectory α) : Prop where
  shape : t' = { t with trajectory := t'.trajectory }
  fixed_rows
    : ∀ i : Nat, ((i : Int) < t.startIndex ∨ t.endIndex < i) → t'.trajectory i = t.trajectory i

namespace KeepsFixedRows

variable {t t' t'' : ChompTrajectory α}

theorem refl (t : ChompTrajectory α) : KeepsFixedRows t t :=
  ⟨rfl, fun _ _ => rfl⟩

theorem numPoints_eq (h : KeepsFixedRows t t') : t'.numPoints = t.numPoints :=
  by rw [h.shape]

theorem numJoints_eq (h : KeepsFixedRows t t') : t'.numJoints = t.numJoints :=
  by rw [h.shape]

theorem startIndex_eq (h : KeepsFixedRows t t') : t'.startIndex = t.startIndex :=
  by rw [h.shape]

theorem endIndex_eq (h : KeepsFixedRows t t') : t'.endIndex = t.endIndex :=
  by rw [h.shape]

/-- Passes compose: the second keeps the rows outside the same free range. -/
theorem trans (h1 : KeepsFixedRows t t') (h2 : KeepsFixedRows t' t'') : KeepsFixedRows t t'' := by
  refine ⟨h2.shape.trans (by rw [h1.shape]), fun i hi => ?_⟩
  rw [h2.fixed_rows i (by rw [h1.startIndex_eq, h1.endIndex_eq]; exact hi), h1.fixed_rows i hi]

/-- A pass that leaves every entry as it was leaves the buffer as it was. -/
theorem eq_of_trajectory (h : KeepsFixedRows t t')
    (same : ∀ i j : Nat, t'.trajectory i j = t.trajectory i j) : t' = t := by
  rw [h.shape, funext fun i => funext (same i)]

end KeepsFixedRows

/-- What the three interpolating fills share once the free range starts at row 1 or later:
they keep the fixed rows, and each column's free rows depend only on its entries in rows
`start_index_ - 1` and `end_index_ + 1`.
-/
structure FreeRowsFill (fill : ChompTrajectory α → ChompTrajectory α) : Prop where
  keepsFixedRows : ∀ t : ChompTrajectory α, 1 ≤ t.startIndex → KeepsFixedRows t (fill t)
  reads_boundary
    : ∀ {t t' : ChompTrajectory α}, t' = { t with trajectory := t'.trajectory } →
        1 ≤ t.startIndex → ∀ r c : Nat,
        t'.trajectory (t.startIndex - 1).toNat c = t.trajectory (t.startIndex - 1).toNat c →
        t'.trajectory (t.endIndex + 1).toNat c = t.trajectory (t.endIndex + 1).toNat c →
        (fill t').trajectory r c
          = if c < t.numJoints ∧ t.startIndex ≤ r ∧ (r : Int) ≤ t.endIndex then
              (fill t).trajectory r c
            else t'.trajectory r c

namespace FreeRowsFill

variable {fill : ChompTrajectory α → ChompTrajectory α} {t t' : ChompTrajectory α}

/-- Filling twice is filling once: the second pass reads only rows the first did not write. -/
theorem idempotent (hf : FreeRowsFill fill) (start : 1 ≤ t.startIndex) : fill (fill t) = fill t := by
  have once := hf.keepsFixedRows t start
  refine (hf.keepsFixedRows (fill t) (once.startIndex_eq ▸ start)).eq_of_trajectory fun r c => ?_
  rw [hf.reads_boundary once.shape start r c (congrFun (once.fixed_rows _ (by omega)) c)
    (congrFun (once.fixed_rows _ (by omega)) c), ite_self]

/-- Two buffers of one shape that agree, in a column of the group, on the two rows around the
free range and on a fixed row `r`, agree after the fill at `r`; a free row `r` needs no
agreement there.
-/
theorem entry_congr (hf : FreeRowsFill fill) (shape : t' = { t with trajectory := t'.trajectory })
    (start : 1 ≤ t.startIndex) {r c : Nat} (hc : c < t.numJoints)
    (first : t'.trajectory (t.startIndex - 1).toNat c = t.trajectory (t.startIndex - 1).toNat c)
    (last : t'.trajectory (t.endIndex + 1).toNat c = t.trajectory (t.endIndex + 1).toNat c)
    (here : ((r : Int) < t.startIndex ∨ t.endIndex < r) → t'.trajectory r c = t.trajectory r c)
    : (fill t').trajectory r c = (fill t).trajectory r c := by
  rw [hf.reads_boundary shape start r c first last]
  split_ifs with free
  · rfl
  · have fixed : (r : Int) < t.startIndex ∨ t.endIndex < r := by omega
    rw [here fixed, congrFun ((hf.keepsFixedRows t start).fixed_rows r fixed) c]

end FreeRowsFill

-----------------------------------------------------------------------------------------
-- The duration constructor
-----------------------------------------------------------------------------------------

section Duration

variable [LinearOrderedSemifield α] [FloorSemiring α]

end Duration

end ChompTrajectory

end Chomp.Trajectory
