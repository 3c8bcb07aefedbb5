import Chomp.Trajectory.Buffer

/-! The minimum-jerk fill: each joint's free rows follow the quintic of zero boundary
velocity and acceleration through the rows just outside the free range. The code sums
`ti[k] * coeff[j][k]` over powers of the time since the start row; over exact arithmetic that
sum is the classic closed form `x0 + (x1 - x0)(10σ³ - 15σ⁴ + 6σ⁵)`.
-/

namespace Chomp.Trajectory

variable {α : Type} [LinearOrderedField α]

/-- `coeff[j][0..5]` for one joint through `x0` and `x1`, `td` the powers of the duration:
the special case of zero start and end velocity and acceleration.
-/
def minJerkCoeff (x0 x1 : α) (td : Nat → α) : Nat → α
  | 0 => x0
  | 3 => (-20 * x0 + 20 * x1) / (2 * td 3)
  | 4 => (30 * x0 - 30 * x1) / (2 * td 4)
  | 5 => (-12 * x0 + 12 * x1) / (2 * td 5)
  | _ => 0

/-- `fillInMinJerk()`: `td[k]` and `ti[k]` are the powers of the duration `(end - start) · dt`
and of the time `(i - start) · dt`; free row `i` of joint `j` becomes `Σ ti[k] · coeff[j][k]`.
-/
def ChompTrajectory.fillInMinJerk (t : ChompTrajectory α) : ChompTrajectory α :=
  let startIndex := t.startIndex - 1
  let endIndex := t.endIndex + 1
  let td : Nat → α := fun k => (((endIndex - startIndex : Int) : α) * t.discretization) ^ k
  let coeff : Nat → Nat → α := fun j =>
    minJerkCoeff (t.trajectory startIndex.toNat j) (t.trajectory endIndex.toNat j) td
  { t with
    trajectory := forRange
      (fun i m => writeRow m i ((List.range t.numJoints).map fun j =>
        let ti : Nat → α := fun k => ((((i : Int) - startIndex : Int) : α) * t.discretization) ^ k
        (List.range 6).foldl (fun acc k => acc + ti k * coeff j k) 0))
      (startIndex + 1).toNat (endIndex - startIndex - 1).toNat t.trajectory }

/-- The minimum-jerk position at time `t` from `x0` to `x1` over duration `T`. -/
def minJerkPosition (x0 x1 T t : α) : α :=
  x0 + (x1 - x0) * (10 * (t / T) ^ 3 - 15 * (t / T) ^ 4 + 6 * (t / T) ^ 5)

/-- Its velocity, `30 (x1 - x0) σ² (1 - σ)² / T`. -/
def minJerkVelocity (x0 x1 T t : α) : α :=
  (x1 - x0) * (30 * (t / T) ^ 2 - 60 * (t / T) ^ 3 + 30 * (t / T) ^ 4) / T

/-- Its acceleration, `60 (x1 - x0) σ (1 - σ) (1 - 2σ) / T²`. -/
def minJerkAcceleration (x0 x1 T t : α) : α :=
  (x1 - x0) * (60 * (t / T) - 180 * (t / T) ^ 2 + 120 * (t / T) ^ 3) / T ^ 2

/-- The code's sum of six terms is the closed form, by ring arithmetic in `T⁻¹`. -/
theorem minJerk_sum_eq (x0 x1 T t : α)
    : (List.range 6).foldl (fun acc k => acc + t ^ k * minJerkCoeff x0 x1 (fun k => T ^ k) k) 0
      = minJerkPosition x0 x1 T t := by
  simp only [List.range_succ, List.range_zero, List.nil_append, List.foldl_append,
    List.foldl_cons, List.foldl_nil, minJerkCoeff, minJerkPosition]
  ring

namespace ChompTrajectory

/-- Row `start_index_ - 1` of joint `j`: the fixed start of the fill. -/
def fillStart (t : ChompTrajectory α) (j : Nat) : α :=
  t.trajectory (t.startIndex - 1).toNat j

/-- Row `end_index_ + 1` of joint `j`: the fixed end of the fill. -/
def fillEnd (t : ChompTrajectory α) (j : Nat) : α :=
  t.trajectory (t.endIndex + 1).toNat j

/-- The fill's duration `(end_index_ + 1 - (start_index_ - 1)) · discretization_`. -/
def fillDuration (t : ChompTrajectory α) : α :=
  ((t.endIndex + 1 - (t.startIndex - 1) : Int) : α) * t.discretization

/-- The time of row `i`, `(i - (start_index_ - 1)) · discretization_`. -/
def fillTime (t : ChompTrajectory α) (i : Nat) : α :=
  (((i : Int) - (t.startIndex - 1) : Int) : α) * t.discretization

/-- Free row `i` of joint `j` holds the quintic at the row's time, and every other entry is
kept, by the row-loop lemma and the sum identity.
-/
theorem fillInMinJerk_trajectory (t : ChompTrajectory α) (start : 1 ≤ t.startIndex) (i j : Nat)
    : t.fillInMinJerk.trajectory i j
      = if t.startIndex ≤ i ∧ (i : Int) ≤ t.endIndex ∧ j < t.numJoints then
          minJerkPosition (t.fillStart j) (t.fillEnd j) t.fillDuration (t.fillTime i)
        else t.trajectory i j := by
  simp only [fillInMinJerk, forRange_writeRow, getD_map_range, mul_pow]
  have hrange : ((t.startIndex - 1 + 1).toNat ≤ i
      ∧ i < (t.startIndex - 1 + 1).toNat + (t.endIndex + 1 - (t.startIndex - 1) - 1).toNat)
      ↔ (t.startIndex ≤ i ∧ (i : Int) ≤ t.endIndex) := by omega
  by_cases hi : t.startIndex ≤ i ∧ (i : Int) ≤ t.endIndex
  · by_cases hj : j < t.numJoints
    · rw [if_pos (hrange.mpr hi), if_pos hj, if_pos ⟨hi.1, hi.2, hj⟩, ← minJerk_sum_eq]
      simp only [fillDuration, fillTime, fillStart, fillEnd, mul_pow]
    · rw [if_pos (hrange.mpr hi), if_neg hj, if_neg (by tauto)]
  · rw [if_neg (mt hrange.mp hi), if_neg (by tauto)]

/-- The minimum-jerk fill is a pass over the free rows once the start row lies inside the
buffer.
-/
theorem fillInMinJerk_keepsFixedRows (t : ChompTrajectory α) (start : 1 ≤ t.startIndex)
    : KeepsFixedRows t t.fillInMinJerk :=
  ⟨rfl, fun i hi => funext fun j => by rw [fillInMinJerk_trajectory t start, if_neg (by omega)]⟩

/-- The minimum-jerk fill reads, in column `j`, only the two fixed rows. -/
theorem fillInMinJerk_freeRowsFill : FreeRowsFill (@fillInMinJerk α _) := by
  refine ⟨fillInMinJerk_keepsFixedRows, fun {t t'} shape start i j first last => ?_⟩
  obtain ⟨m, rfl⟩ : ∃ m, t' = { t with trajectory := m } := ⟨_, shape⟩
  rw [fillInMinJerk_trajectory t start, fillInMinJerk_trajectory { t with trajectory := m } start]
  simp only [fillStart, fillEnd, fillDuration, fillTime] at first last ⊢
  rw [first, last]
  by_cases free : j < t.numJoints ∧ t.startIndex ≤ i ∧ (i : Int) ≤ t.endIndex
  · rw [if_pos ⟨free.2.1, free.2.2, free.1⟩, if_pos free, if_pos ⟨free.2.1, free.2.2, free.1⟩]
  · rw [if_neg (by tauto), if_neg free]

end ChompTrajectory

section Quintic

/-- The quintic's weight `10s³ - 15s⁴ + 6s⁵` at the elapsed share `s` of its duration. -/
def minJerkWeight (s : α) : α :=
  10 * s ^ 3 - 15 * s ^ 4 + 6 * s ^ 5

@[simp] theorem minJerkWeight_zero : minJerkWeight (0 : α) = 0 := by
  simp [minJerkWeight]

@[simp] theorem minJerkWeight_one : minJerkWeight (1 : α) = 1 := by
  norm_num [minJerkWeight]

theorem minJerkPosition_eq_weight (x0 x1 T t : α)
    : minJerkPosition x0 x1 T t = x0 + (x1 - x0) * minJerkWeight (t / T) :=
  rfl

/-- The quintic's weight never decreases: its difference quotient is `30` times the mean of
`(s (1 - s))²` along `[a, b]`, a sum of squares.
-/
theorem minJerkWeight_mono {a b : α} (hab : a ≤ b) : minJerkWeight a ≤ minJerkWeight b := by
  have quotient : minJerkWeight b - minJerkWeight a
      = (b - a) * (30 * ((a - a ^ 2 + (b - a) * (1 - 2 * a) / 2 - (b - a) ^ 2 / 3) ^ 2
          + ((b - a) * (1 - 2 * a) - (b - a) ^ 2) ^ 2 / 12 + ((b - a) ^ 2) ^ 2 / 180)) := by
    unfold minJerkWeight
    ring
  rw [← sub_nonneg, quotient]
  exact mul_nonneg (sub_nonneg.mpr hab) (by positivity)

/-- The quintic starts at `x0`. -/
@[simp] theorem minJerkPosition_zero (x0 x1 T : α) : minJerkPosition x0 x1 T 0 = x0 := by
  simp [minJerkPosition]

/-- The quintic ends at `x1` after a nonzero duration. -/
theorem minJerkPosition_duration (x0 x1 T : α) (hT : T ≠ 0) : minJerkPosition x0 x1 T T = x1 := by
  simp only [minJerkPosition, div_self hT]
  ring

theorem minJerkVelocity_zero (x0 x1 T : α) : minJerkVelocity x0 x1 T 0 = 0 := by
  simp [minJerkVelocity]

theorem minJerkVelocity_duration (x0 x1 T : α) (hT : T ≠ 0) : minJerkVelocity x0 x1 T T = 0 := by
  simp only [minJerkVelocity, div_self hT]
  ring

theorem minJerkAcceleration_zero (x0 x1 T : α) : minJerkAcceleration x0 x1 T 0 = 0 := by
  simp [minJerkAcceleration]

theorem minJerkAcceleration_duration (x0 x1 T : α) (hT : T ≠ 0)
    : minJerkAcceleration x0 x1 T T = 0 := by
  simp only [minJerkAcceleration, div_self hT]
  ring

/-- Moving towards a higher end, the velocity `30 (x1 - x0) (σ (1 - σ))² / T` is never
negative.
-/
theorem minJerkVelocity_nonneg {x0 x1 T : α} (h : x0 ≤ x1) (hT : 0 < T) (t : α)
    : 0 ≤ minJerkVelocity x0 x1 T t := by
  have square : 30 * (t / T) ^ 2 - 60 * (t / T) ^ 3 + 30 * (t / T) ^ 4
      = 30 * ((t / T) * (1 - t / T)) ^ 2 := by ring
  rw [minJerkVelocity, square]
  exact div_nonneg (mul_nonneg (sub_nonneg.mpr h) (by positivity)) hT.le

end Quintic

section Derivatives

variable (x0 x1 T : ℝ)

/-- The velocity is the derivative of the position, by the chain rule on `σ = t / T`. -/
theorem hasDerivAt_minJerkPosition (t : ℝ)
    : HasDerivAt (minJerkPosition x0 x1 T) (minJerkVelocity x0 x1 T t) t := by
  have hσ : HasDerivAt (fun t => t / T) (1 / T) t := (hasDerivAt_id' t).div_const T
  have h := ((((hσ.pow 3).const_mul 10).sub ((hσ.pow 4).const_mul 15)).add
    ((hσ.pow 5).const_mul 6)).const_mul (x1 - x0) |>.const_add x0
  exact h.congr_deriv (by unfold minJerkVelocity; ring)

/-- The acceleration is the derivative of the velocity, by the chain rule on `σ = t / T`. -/
theorem hasDerivAt_minJerkVelocity (t : ℝ)
    : HasDerivAt (minJerkVelocity x0 x1 T) (minJerkAcceleration x0 x1 T t) t := by
  have hσ : HasDerivAt (fun t => t / T) (1 / T) t := (hasDerivAt_id' t).div_const T
  have h := (((((hσ.pow 2).const_mul 30).sub ((hσ.pow 3).const_mul 60)).add
    ((hσ.pow 4).const_mul 30)).const_mul (x1 - x0)).div_const T
  exact h.congr_deriv (by unfold minJerkAcceleration; ring)

theorem deriv_minJerkPosition
    : deriv (minJerkPosition x0 x1 T) = minJerkVelocity x0 x1 T :=
  funext fun t => (hasDerivAt_minJerkPosition x0 x1 T t).deriv

theorem deriv_deriv_minJerkPosition
    : deriv (deriv (minJerkPosition x0 x1 T)) = minJerkAcceleration x0 x1 T := by
  rw [deriv_minJerkPosition x0 x1 T]
  exact funext fun t => (hasDerivAt_minJerkVelocity x0 x1 T t).deriv

/-- Towards a higher end the quintic never decreases, since its velocity is never negative. -/
theorem minJerkPosition_monotone {x0 x1 T : ℝ} (h : x0 ≤ x1) (hT : 0 < T)
    : Monotone (minJerkPosition x0 x1 T) :=
  monotone_of_deriv_nonneg
    (fun t => (hasDerivAt_minJerkPosition x0 x1 T t).differentiableAt)
    fun t => by
      rw [deriv_minJerkPosition x0 x1 T]
      exact minJerkVelocity_nonneg h hT t

/-- Towards a lower end the quintic never increases: it is the mirror of the rising one. -/
theorem minJerkPosition_antitone {x0 x1 T : ℝ} (h : x1 ≤ x0) (hT : 0 < T)
    : Antitone (minJerkPosition x0 x1 T) := by
  intro s t hst
  have := minJerkPosition_monotone (neg_le_neg h) hT hst
  simp only [minJerkPosition] at this ⊢
  linarith

end Derivatives

namespace ChompTrajectory

section Column

variable {t : ChompTrajectory ℝ} {j : Nat}

/-- Row times grow with the row index when the time step is positive. -/
theorem fillTime_mono (disc : 0 < t.discretization) {i i' : Nat} (h : i ≤ i')
    : t.fillTime i ≤ t.fillTime i' :=
  mul_le_mul_of_nonneg_right (Int.cast_le.mpr (by omega)) disc.le

theorem fillDuration_pos (range : t.startIndex ≤ t.endIndex + 1) (disc : 0 < t.discretization)
    : 0 < t.fillDuration :=
  mul_pos (Int.cast_pos.mpr (by omega)) disc

/-- From the start row to the end row, joint `j`'s column after the fill is the quintic at the
row's time: the fixed rows are its two ends, by the closed form of the fill.
-/
theorem fillInMinJerk_column (start : 1 ≤ t.startIndex) (range : t.startIndex ≤ t.endIndex + 1)
    (disc : 0 < t.discretization) (hj : j < t.numJoints) {i : Nat}
    (lo : (t.startIndex - 1).toNat ≤ i) (hi : i ≤ (t.endIndex + 1).toNat)
    : t.fillInMinJerk.trajectory i j
      = minJerkPosition (t.fillStart j) (t.fillEnd j) t.fillDuration (t.fillTime i) := by
  have hT := (fillDuration_pos range disc).ne'
  rw [fillInMinJerk_trajectory t start]
  split_ifs with h
  · rfl
  · rcases (show (i : Int) = t.startIndex - 1 ∨ (i : Int) = t.endIndex + 1 by omega) with ha | hb
    · have hi : i = (t.startIndex - 1).toNat := by omega
      have zero : t.fillTime i = 0 := by simp [fillTime, ha]
      rw [zero, minJerkPosition_zero, fillStart, hi]
    · have hi : i = (t.endIndex + 1).toNat := by omega
      have whole : t.fillTime i = t.fillDuration := by simp only [fillTime, fillDuration, hb]
      rw [whole, minJerkPosition_duration _ _ _ hT, fillEnd, hi]

end Column

/-- What the min-jerk fill does to joint `j`, `p` the quintic from row `a = start_index_ - 1` to
row `b = end_index_ + 1`: free row `i` becomes `p((i - a) · dt)`, other rows are kept, `p` has
zero velocity and acceleration at both ends, and the column is monotone and bounded.
-/
structure MinJerkFill (t : ChompTrajectory ℝ) (j : Nat) : Prop where
  rows
    : ∀ i : Nat, t.fillInMinJerk.trajectory i j
        = if t.startIndex ≤ i ∧ (i : Int) ≤ t.endIndex then
            minJerkPosition (t.fillStart j) (t.fillEnd j) t.fillDuration (t.fillTime i)
          else t.trajectory i j
  start_value : minJerkPosition (t.fillStart j) (t.fillEnd j) t.fillDuration 0 = t.fillStart j
  end_value
    : minJerkPosition (t.fillStart j) (t.fillEnd j) t.fillDuration t.fillDuration = t.fillEnd j
  velocity_zero
    : deriv (minJerkPosition (t.fillStart j) (t.fillEnd j) t.fillDuration) 0 = 0
      ∧ deriv (minJerkPosition (t.fillStart j) (t.fillEnd j) t.fillDuration) t.fillDuration = 0
  acceleration_zero
    : deriv (deriv (minJerkPosition (t.fillStart j) (t.fillEnd j) t.fillDuration)) 0 = 0
      ∧ deriv (deriv (minJerkPosition (t.fillStart j) (t.fillEnd j) t.fillDuration))
          t.fillDuration = 0
  monotone
    : t.fillStart j ≤ t.fillEnd j →
        MonotoneOn (fun i : Nat => t.fillInMinJerk.trajectory i j)
          (Set.Icc (t.startIndex - 1).toNat (t.endIndex + 1).toNat)
  antitone
    : t.fillEnd j ≤ t.fillStart j →
        AntitoneOn (fun i : Nat => t.fillInMinJerk.trajectory i j)
          (Set.Icc (t.startIndex - 1).toNat (t.endIndex + 1).toNat)
  bounded
    : ∀ i : Nat, (t.startIndex - 1).toNat ≤ i → i ≤ (t.endIndex + 1).toNat →
        min (t.fillStart j) (t.fillEnd j) ≤ t.fillInMinJerk.trajectory i j
        ∧ t.fillInMinJerk.trajectory i j ≤ max (t.fillStart j) (t.fillEnd j)

/-- Over exact reals, `fillInMinJerk` on every buffer with `1 ≤ start_index_ ≤ end_index_ + 1`
and a positive time step fills every joint as `MinJerkFill` says; the end row need not lie
inside the buffer for this to hold.
-/
theorem fillInMinJerk_min_jerk {t : ChompTrajectory ℝ} {j : Nat} (start : 1 ≤ t.startIndex)
    (range : t.startIndex ≤ t.endIndex + 1) (disc : 0 < t.discretization) (hj : j < t.numJoints)
    : MinJerkFill t j := by
  have hT := fillDuration_pos range disc
  have column := fun {i} => @fillInMinJerk_column t j start range disc hj i
  have time_range : ∀ {i : Nat}, (t.startIndex - 1).toNat ≤ i → i ≤ (t.endIndex + 1).toNat →
      0 ≤ t.fillTime i ∧ t.fillTime i ≤ t.fillDuration := fun lo hi =>
    ⟨mul_nonneg (Int.cast_nonneg.mpr (by omega)) disc.le,
      mul_le_mul_of_nonneg_right (Int.cast_le.mpr (by omega)) disc.le⟩
  refine ⟨fun i => by simp only [fillInMinJerk_trajectory t start, hj, and_true],
    minJerkPosition_zero _ _ _, minJerkPosition_duration _ _ _ hT.ne', ?_, ?_, ?_, ?_, ?_⟩
  · rw [deriv_minJerkPosition]
    exact ⟨minJerkVelocity_zero _ _ _, minJerkVelocity_duration _ _ _ hT.ne'⟩
  · rw [deriv_deriv_minJerkPosition]
    exact ⟨minJerkAcceleration_zero _ _ _, minJerkAcceleration_duration _ _ _ hT.ne'⟩
  · intro h i hi i' hi' hle
    simp only [column hi.1 hi.2, column hi'.1 hi'.2]
    exact minJerkPosition_monotone h hT (fillTime_mono disc hle)
  · intro h i hi i' hi' hle
    simp only [column hi.1 hi.2, column hi'.1 hi'.2]
    exact minJerkPosition_antitone h hT (fillTime_mono disc hle)
  · intro i lo hi
    obtain ⟨t0, tT⟩ := time_range lo hi
    rw [column lo hi]
    rcases le_total (t.fillStart j) (t.fillEnd j) with h | h
    · have low := minJerkPosition_monotone h hT t0
      have high := minJerkPosition_monotone h hT tT
      rw [minJerkPosition_zero] at low
      rw [minJerkPosition_duration _ _ _ hT.ne'] at high
      exact ⟨min_le_of_left_le low, le_max_of_le_right high⟩
    · have low := minJerkPosition_antitone h hT tT
      have high := minJerkPosition_antitone h hT t0
      rw [minJerkPosition_duration _ _ _ hT.ne'] at low
      rw [minJerkPosition_zero] at high
      exact ⟨min_le_of_right_le low, le_max_of_le_left high⟩

/-- A five-point, one-joint buffer in the planner's unpadded shape that steps from 0 to 1 in
its last row.
-/
def stepTrajectory (α : Type) [Semiring α] : ChompTrajectory α where
  planningGroupName := "arm"
  numPoints := 5
  numJoints := 1
  discretization := 1
  duration := 4
  trajectory := fun i _ => if i = 4 then 1 else 0
  startIndex := 1
  endIndex := 3
  fullTrajectoryIndex := []

/-- The step buffer's single joint is filled by the quintic from 0 to 1 over four steps. -/
theorem fillInMinJerk_min_jerk_step
    : 1 ≤ (stepTrajectory ℝ).startIndex
      ∧ (stepTrajectory ℝ).startIndex ≤ (stepTrajectory ℝ).endIndex + 1
      ∧ 0 < (stepTrajectory ℝ).discretization ∧ 0 < (stepTrajectory ℝ).numJoints
      ∧ MinJerkFill (stepTrajectory ℝ) 0 :=
  ⟨by decide, by decide, zero_lt_one, by decide,
    fillInMinJerk_min_jerk (by decide) (by decide) zero_lt_one (by decide)⟩

end ChompTrajectory

end Chomp.Trajectory
