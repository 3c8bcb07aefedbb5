import Chomp.Trajectory.Buffer

/-! The linear and cubic fills and the file-backed fill of the buffer's free rows. Both
interpolations read the rows just outside the free range, which no pass of their loops
writes; the cubic fill times its rows with its own step of `0.001`, whatever the buffer's
`discretization_`.
-/

namespace Chomp.Trajectory

namespace ChompTrajectory

variable {α : Type} [LinearOrderedField α]

/-- `fillInLinearInterpolation()`: for each joint `i`, `theta = (x(end, i) - x(start, i)) /
(end_index - 1)` and free row `j` becomes `x(start, i) + j * theta`, with `start_index =
start_index_ - 1` and `end_index = end_index_ + 1`.
-/
def fillInLinearInterpolation (t : ChompTrajectory α) : ChompTrajectory α :=
  let startIndex := t.startIndex - 1
  let endIndex := t.endIndex + 1
  { t with
    trajectory := forRange
      (fun i m =>
        let theta := (m endIndex.toNat i - m startIndex.toNat i) / ((endIndex : α) - 1)
        forRange (fun j m => setEntry m j i (m startIndex.toNat i + (j : α) * theta))
          (startIndex + 1).toNat (endIndex - startIndex - 1).toNat m)
      0 t.numJoints t.trajectory }

/-- `fillInCubicInterpolation()`: for each joint, the cubic `coeffs[0] + coeffs[2] t² +
coeffs[3] t³` with `total_time = (end_index - 1) · dt` and free row `j` at `t = j · dt`,
`dt = 0.001`.
-/
def fillInCubicInterpolation (t : ChompTrajectory α) : ChompTrajectory α :=
  let startIndex := t.startIndex - 1
  let endIndex := t.endIndex + 1
  let dt : α := 0.001
  let totalTime := ((endIndex : α) - 1) * dt
  { t with
    trajectory := forRange
      (fun i m =>
        let coeffs0 := m startIndex.toNat i
        let coeffs2 := (3 / totalTime ^ 2) * (m endIndex.toNat i - m startIndex.toNat i)
        let coeffs3 := (-2 / totalTime ^ 3) * (m endIndex.toNat i - m startIndex.toNat i)
        forRange
          (fun j m => setEntry m j i (coeffs0 + coeffs2 * ((j : α) * dt) ^ 2
            + coeffs3 * ((j : α) * dt) ^ 3))
          (startIndex + 1).toNat (endIndex - startIndex - 1).toNat m)
      0 t.numJoints t.trajectory }

/-- Modelled from the spec: `setTrajectory` (declared in the trajectory header, not among the
sources) replaces the stored matrix by the one read from the file.
-/
def setTrajectory (t : ChompTrajectory α) (fillTrajectory : Nat → Nat → α) : ChompTrajectory α :=
  { t with trajectory := fillTrajectory }

-----------------------------------------------------------------------------------------
-- Closed forms of the two interpolations
-----------------------------------------------------------------------------------------

/-- The cubic of `coeffs[0..3]`, `x0 + (3 / T²)(x1 - x0) t² - (2 / T³)(x1 - x0) t³`: from `x0`
at time 0 to `x1` at time `T`, with zero velocity at both ends.
-/
def cubicPosition (x0 x1 T time : α) : α :=
  x0 + 3 / T ^ 2 * (x1 - x0) * time ^ 2 + -2 / T ^ 3 * (x1 - x0) * time ^ 3

/-- Over `n` steps of a nonzero `dt`, the cubic at step `k` is the smoothstep of `k / n`: the
step cancels from `k / n = (k dt) / (n dt)`, and the rest is ring arithmetic in `(n dt)⁻¹`.
-/
theorem cubicPosition_steps (x0 x1 : α) {n dt : α} (hdt : dt ≠ 0) (k : α)
    : cubicPosition x0 x1 (n * dt) (k * dt) = x0 + (x1 - x0) * (3 * (k / n) ^ 2 - 2 * (k / n) ^ 3) := by
  rw [← mul_div_mul_right k n hdt, cubicPosition]
  ring

omit [LinearOrderedField α] in
/-- The rows both loops visit are the free rows, once the start row lies inside the buffer. -/
theorem fill_rows_iff (t : ChompTrajectory α) (start : 1 ≤ t.startIndex) (r : Nat)
    : ((t.startIndex - 1 + 1).toNat ≤ r
        ∧ r < (t.startIndex - 1 + 1).toNat + (t.endIndex + 1 - (t.startIndex - 1) - 1).toNat)
      ↔ (t.startIndex ≤ r ∧ (r : Int) ≤ t.endIndex) := by
  omega

/-- The linear fill sets free row `r` of joint `c` to `x(start_index_ - 1, c) + r · θ`, `θ`
the difference of the two fixed rows over `end_index_`, and keeps every other entry, by the
column-loop and row-loop lemmas: no pass writes the fixed start row it reads.
-/
theorem fillInLinearInterpolation_trajectory (t : ChompTrajectory α) (start : 1 ≤ t.startIndex)
    (r c : Nat)
    : t.fillInLinearInterpolation.trajectory r c
      = if c < t.numJoints ∧ t.startIndex ≤ r ∧ (r : Int) ≤ t.endIndex then
          t.trajectory (t.startIndex - 1).toNat c
            + r * ((t.trajectory (t.endIndex + 1).toNat c - t.trajectory (t.startIndex - 1).toNat c)
              / (((t.endIndex + 1 : Int) : α) - 1))
        else t.trajectory r c := by
  simp only [fillInLinearInterpolation]
  rw [forRange_columns _ (fun i col r =>
      if (t.startIndex - 1 + 1).toNat ≤ r
          ∧ r < (t.startIndex - 1 + 1).toNat + (t.endIndex + 1 - (t.startIndex - 1) - 1).toNat then
        col (t.startIndex - 1).toNat
          + r * ((col (t.endIndex + 1).toNat - col (t.startIndex - 1).toNat)
            / (((t.endIndex + 1 : Int) : α) - 1))
      else col r) _ _ _ fun i m => ?_]
  · simp only [fill_rows_iff t start, Nat.zero_le, true_and, zero_add]
    by_cases hc : c < t.numJoints <;> simp only [hc, true_and, false_and, if_true, if_false]
  · rw [forRange_setEntry _ _ _ _ _ fun j m r x hr => by
      simp (disch := omega) only [setEntry_of_ne]]
    funext r c
    by_cases hc : c = i <;> simp only [hc, true_and, false_and, if_true, if_false]

/-- The cubic fill sets free row `r` of joint `c` to the cubic from the fixed start row to the
fixed end row over `end_index_ · 0.001`, at time `r · 0.001`, and keeps every other entry, by
the column-loop and row-loop lemmas: its coefficients are read before each column's loop.
-/
theorem fillInCubicInterpolation_trajectory (t : ChompTrajectory α) (start : 1 ≤ t.startIndex)
    (r c : Nat)
    : t.fillInCubicInterpolation.trajectory r c
      = if c < t.numJoints ∧ t.startIndex ≤ r ∧ (r : Int) ≤ t.endIndex then
          cubicPosition (t.trajectory (t.startIndex - 1).toNat c)
            (t.trajectory (t.endIndex + 1).toNat c) ((((t.endIndex + 1 : Int) : α) - 1) * 0.001)
            (r * 0.001)
        else t.trajectory r c := by
  simp only [fillInCubicInterpolation]
  rw [forRange_columns _ (fun i col r =>
      if (t.startIndex - 1 + 1).toNat ≤ r
          ∧ r < (t.startIndex - 1 + 1).toNat + (t.endIndex + 1 - (t.startIndex - 1) - 1).toNat then
        cubicPosition (col (t.startIndex - 1).toNat) (col (t.endIndex + 1).toNat)
          ((((t.endIndex + 1 : Int) : α) - 1) * 0.001) (r * 0.001)
      else col r) _ _ _ fun i m => ?_]
  · simp only [fill_rows_iff t start, Nat.zero_le, true_and, zero_add]
    by_cases hc : c < t.numJoints <;> simp only [hc, true_and, false_and, if_true, if_false]
  · rw [forRange_setEntry]
    · funext r c
      by_cases hc : c = i <;> simp only [hc, true_and, false_and, if_true, if_false, cubicPosition]
    · exact fun _ _ _ _ _ => rfl

/-- The linear fill is a pass over the free rows once the start row lies inside the buffer. -/
theorem fillInLinearInterpolation_keepsFixedRows (t : ChompTrajectory α) (start : 1 ≤ t.startIndex)
    : KeepsFixedRows t t.fillInLinearInterpolation :=
  ⟨rfl, fun i hi => funext fun c => by
    rw [fillInLinearInterpolation_trajectory t start, if_neg (by omega)]⟩

/-- The cubic fill is a pass over the free rows once the start row lies inside the buffer. -/
theorem fillInCubicInterpolation_keepsFixedRows (t : ChompTrajectory α) (start : 1 ≤ t.startIndex)
    : KeepsFixedRows t t.fillInCubicInterpolation :=
  ⟨rfl, fun i hi => funext fun c => by
    rw [fillInCubicInterpolation_trajectory t start, if_neg (by omega)]⟩

/-- The linear fill is a fill of the free rows: in column `c` it reads only the two fixed
rows around them.
-/
theorem fillInLinearInterpolation_freeRowsFill
    : FreeRowsFill (@fillInLinearInterpolation α _) := by
  refine ⟨fillInLinearInterpolation_keepsFixedRows, fun {t t'} shape start r c first last => ?_⟩
  obtain ⟨m, rfl⟩ : ∃ m, t' = { t with trajectory := m } := ⟨_, shape⟩
  rw [fillInLinearInterpolation_trajectory t start,
    fillInLinearInterpolation_trajectory { t with trajectory := m } start]
  dsimp only at first last ⊢
  rw [first, last]
  split_ifs <;> rfl

/-- The cubic fill reads, in column `c`, only the two fixed rows. -/
theorem fillInCubicInterpolation_freeRowsFill
    : FreeRowsFill (@fillInCubicInterpolation α _) := by
  refine ⟨fillInCubicInterpolation_keepsFixedRows, fun {t t'} shape start r c first last => ?_⟩
  obtain ⟨m, rfl⟩ : ∃ m, t' = { t with trajectory := m } := ⟨_, shape⟩
  rw [fillInCubicInterpolation_trajectory t start,
    fillInCubicInterpolation_trajectory { t with trajectory := m } start]
  dsimp only at first last ⊢
  rw [first, last]
  split_ifs <;> rfl

-----------------------------------------------------------------------------------------
-- The planner's unpadded buffer
-----------------------------------------------------------------------------------------

section Unpadded

variable {t : ChompTrajectory α} {j : Nat}

/-- In the unpadded shape the fixed rows are rows 0 and `N - 1`, and the divisor
`end_index_ + 1 - 1` of both fills is `N - 2`.
-/
theorem unpadded_divisor (unpadded : t.startIndex = 1) (last : t.endIndex = t.numPoints - 2)
    (points : 3 ≤ t.numPoints)
    : (t.startIndex - 1).toNat = 0 ∧ (t.endIndex + 1).toNat = t.numPoints - 1
      ∧ ((t.endIndex + 1 : Int) : α) - 1 = ((t.numPoints - 2 : Nat) : α) := by
  refine ⟨by omega, by omega, ?_⟩
  rw [last, Nat.cast_sub (by omega)]
  push_cast
  ring

/-- On an unpadded buffer of `N ≥ 3` points the linear fill sets row `k` of `1 .. N - 2` to
`x_s + k (x_g - x_s) / (N - 2)`, so row `N - 2` already holds the goal value `x_g`; rows 0
and `N - 1` are kept. By the closed form of the fill.
-/
theorem fillInLinearInterpolation_unpadded (unpadded : t.startIndex = 1)
    (last : t.endIndex = t.numPoints - 2) (points : 3 ≤ t.numPoints) (hj : j < t.numJoints)
    : (∀ k : Nat, t.fillInLinearInterpolation.trajectory k j
        = if 1 ≤ k ∧ k ≤ t.numPoints - 2 then
            t.trajectory 0 j + k * ((t.trajectory (t.numPoints - 1) j - t.trajectory 0 j)
              / ((t.numPoints - 2 : Nat) : α))
          else t.trajectory k j)
      ∧ t.fillInLinearInterpolation.trajectory (t.numPoints - 2) j
        = t.trajectory (t.numPoints - 1) j := by
  obtain ⟨start, goal, divisor⟩ := unpadded_divisor (α := α) unpadded last points
  have closed : ∀ k : Nat, t.fillInLinearInterpolation.trajectory k j
      = if 1 ≤ k ∧ k ≤ t.numPoints - 2 then
          t.trajectory 0 j + k * ((t.trajectory (t.numPoints - 1) j - t.trajectory 0 j)
            / ((t.numPoints - 2 : Nat) : α))
        else t.trajectory k j := fun k => by
    rw [fillInLinearInterpolation_trajectory t (by omega), start, goal, divisor]
    exact if_congr (by omega) rfl rfl
  refine ⟨closed, ?_⟩
  have steps : ((t.numPoints - 2 : Nat) : α) ≠ 0 := Nat.cast_ne_zero.mpr (by omega)
  rw [closed, if_pos (by omega), mul_div_cancel₀ _ steps, add_sub_cancel]

end Unpadded

end ChompTrajectory

-----------------------------------------------------------------------------------------
-- The weights of the two fills on the planner's buffer
-----------------------------------------------------------------------------------------

section Weights

variable {α : Type} [LinearOrderedField α]

/-- The cubic fill's weight `3s² - 2s³` at the elapsed share `s` of its duration. -/
def smoothstep (s : α) : α :=
  3 * s ^ 2 - 2 * s ^ 3

@[simp] theorem smoothstep_zero : smoothstep (0 : α) = 0 := by
  simp [smoothstep]

@[simp] theorem smoothstep_one : smoothstep (1 : α) = 1 := by
  norm_num [smoothstep]

/-- On `[0, 1]` the smoothstep only grows: its difference quotient is
`2a(1 - a) + 2b(1 - b) + a(1 - b) + b(1 - a)`.
-/
theorem smoothstep_mono {a b : α} (h0 : 0 ≤ a) (hab : a ≤ b) (h1 : b ≤ 1)
    : smoothstep a ≤ smoothstep b := by
  have quotient : smoothstep b - smoothstep a
      = (b - a) * (2 * a * (1 - a) + 2 * b * (1 - b) + a * (1 - b) + b * (1 - a)) := by
    unfold smoothstep
    ring
  have a1 : 0 ≤ 1 - a := sub_nonneg.mpr (hab.trans h1)
  have b0 : 0 ≤ b := h0.trans hab
  have b1 : 0 ≤ 1 - b := sub_nonneg.mpr h1
  have inside : 0 ≤ 2 * a * (1 - a) + 2 * b * (1 - b) + a * (1 - b) + b * (1 - a) :=
    add_nonneg (add_nonneg (add_nonneg (mul_nonneg (mul_nonneg zero_le_two h0) a1)
      (mul_nonneg (mul_nonneg zero_le_two b0) b1)) (mul_nonneg h0 b1)) (mul_nonneg b0 a1)
  rw [← sub_nonneg, quotient]
  exact mul_nonneg (sub_nonneg.mpr hab) inside

/-- Row `r`'s share `r / n` of `n` steps, capped at `1` past the last step. -/
def cappedRatio (n r : Nat) : α :=
  min ((r : α) / n) 1

@[simp] theorem cappedRatio_zero (n : Nat) : cappedRatio n 0 = (0 : α) := by
  simp [cappedRatio]

theorem cappedRatio_of_le {n r : Nat} (hn : 0 < n) (h : r ≤ n) : cappedRatio n r = (r : α) / n :=
  min_eq_left ((div_le_one (Nat.cast_pos.mpr hn)).mpr (Nat.cast_le.mpr h))

theorem cappedRatio_of_ge {n r : Nat} (hn : 0 < n) (h : n ≤ r) : cappedRatio n r = (1 : α) :=
  min_eq_right ((one_le_div (Nat.cast_pos.mpr hn)).mpr (Nat.cast_le.mpr h))

theorem cappedRatio_mem (n r : Nat) : 0 ≤ (cappedRatio n r : α) ∧ (cappedRatio n r : α) ≤ 1 :=
  ⟨le_min (div_nonneg (Nat.cast_nonneg _) (Nat.cast_nonneg _)) zero_le_one, min_le_right _ _⟩

theorem cappedRatio_mono (n : Nat) {r r' : Nat} (h : r ≤ r')
    : (cappedRatio n r : α) ≤ cappedRatio n r' :=
  min_le_min_right 1 (div_le_div_of_nonneg_right (Nat.cast_le.mpr h) (Nat.cast_nonneg _))

end Weights

/-- A four-point, one-joint buffer in the planner's unpadded shape, at 0 in its first row
and at 3 in its last.
-/
def fourPointTrajectory : ChompTrajectory ℚ where
  planningGroupName := "arm"
  numPoints := 4
  numJoints := 1
  discretization := 1
  duration := 3
  trajectory := fun i _ => if i = 3 then 3 else 0
  startIndex := 1
  endIndex := 2
  fullTrajectoryIndex := []


/-- The four-point buffer's linear fill: rows `0, 3/2, 3, 3`, the goal value one row early. -/
theorem fillInLinearInterpolation_unpadded_four
    : fourPointTrajectory.startIndex = 1
      ∧ fourPointTrajectory.endIndex = fourPointTrajectory.numPoints - 2
      ∧ 3 ≤ fourPointTrajectory.numPoints ∧ 0 < fourPointTrajectory.numJoints
      ∧ (∀ k : Nat, fourPointTrajectory.fillInLinearInterpolation.trajectory k 0
          = if 1 ≤ k ∧ k ≤ fourPointTrajectory.numPoints - 2 then
              fourPointTrajectory.trajectory 0 0
                + k * ((fourPointTrajectory.trajectory (fourPointTrajectory.numPoints - 1) 0
                    - fourPointTrajectory.trajectory 0 0)
                  / ((fourPointTrajectory.numPoints - 2 : Nat) : ℚ))
            else fourPointTrajectory.trajectory k 0)
      ∧ fourPointTrajectory.fillInLinearInterpolation.trajectory
          (fourPointTrajectory.numPoints - 2) 0
        = fourPointTrajectory.trajectory (fourPointTrajectory.numPoints - 1) 0 :=
  ⟨rfl, rfl, by decide, by decide,
    ChompTrajectory.fillInLinearInterpolation_unpadded rfl rfl (by decide) (by decide)⟩

/-- The four-point buffer runs from `0` to `3`, yet its linear fill takes the step `3/2`, not
`1`, and row 2 already holds the goal.
-/
theorem fillInLinearInterpolation_four_goal_early
    : fourPointTrajectory.trajectory 0 0 ≠ fourPointTrajectory.trajectory 3 0
      ∧ fourPointTrajectory.fillInLinearInterpolation.trajectory 1 0 = 3 / 2
      ∧ fourPointTrajectory.fillInLinearInterpolation.trajectory 2 0
        = fourPointTrajectory.trajectory 3 0 := by
  simp only [ChompTrajectory.fillInLinearInterpolation_trajectory fourPointTrajectory le_rfl]
  simp [fourPointTrajectory]
  norm_num

end Chomp.Trajectory
