import Chomp.Planner.Solve

/-! The wrap-around fix of the goal row over the reals. With `shortestAngularDistance` the
signed distance in `(-π, π]` that reaches the goal modulo a full turn, each continuous joint's
goal moves by whole turns to within half a turn of the start, and a second pass finds
nothing left to move.
-/

namespace Chomp.Planner

open Chomp.Robot Chomp.Trajectory Real

/-- Modelled from the spec: `angles::shortest_angular_distance(a, b)` returns the signed
distance `d ∈ (-π, π]` with `a + d ≡ b (mod 2π)`.
-/
structure IsShortestAngularDistance (shortestAngularDistance : ℝ → ℝ → ℝ) : Prop where
  congr : ∀ a b, ∃ n : ℤ, a + shortestAngularDistance a b = b + n * (2 * π)
  range : ∀ a b, -π < shortestAngularDistance a b ∧ shortestAngularDistance a b ≤ π

/-- Whole turns strictly between `m - 1` and `m + 1` turns are `m` turns. -/
theorem turns_eq_of_near {n m : ℤ} (above : ((m : ℝ) - 1) * (2 * π) < n * (2 * π))
    (below : (n : ℝ) * (2 * π) < (m + 1) * (2 * π)) : n = m := by
  have : m - 1 < n := by exact_mod_cast lt_of_mul_lt_mul_right above two_pi_pos.le
  have : n < m + 1 := by exact_mod_cast lt_of_mul_lt_mul_right below two_pi_pos.le
  omega

namespace IsShortestAngularDistance

variable {shortestAngularDistance : ℝ → ℝ → ℝ}

/-- Within half a turn the distance is the plain difference: two values of `(-π, π]` that
differ by whole turns differ by none.
-/
theorem eq_sub (h : IsShortestAngularDistance shortestAngularDistance) {a b : ℝ}
    (lo : -π < b - a) (hi : b - a ≤ π) : shortestAngularDistance a b = b - a := by
  obtain ⟨n, turns⟩ := h.congr a b
  obtain ⟨dlo, dhi⟩ := h.range a b
  have zero : n = 0 := turns_eq_of_near (by push_cast; linarith) (by push_cast; linarith)
  rw [zero, Int.cast_zero, zero_mul, add_zero] at turns
  linarith

end IsShortestAngularDistance

/-- The representative of `b - a` modulo a full turn in `(-π, π]` is such a distance. -/
theorem isShortestAngularDistance_toIocMod
    : IsShortestAngularDistance fun a b => toIocMod two_pi_pos (-π) (b - a) := by
  refine ⟨fun a b => ⟨-toIocDiv two_pi_pos (-π) (b - a), ?_⟩, fun a b => ?_⟩
  · rw [← self_sub_toIocDiv_zsmul, zsmul_eq_mul]
    push_cast
    ring
  · have := toIocMod_mem_Ioc two_pi_pos (-π) (b - a)
    exact ⟨this.1, by linarith [this.2]⟩

section Adjusted

variable {shortestAngularDistance : ℝ → ℝ → ℝ}
  (shortest : IsShortestAngularDistance shortestAngularDistance)
  (group : List JointModel) (t : ChompTrajectory ℝ) (goalIndex : Nat)

include shortest

/-- A continuous joint's adjusted goal lies within half a turn of the start: the distance
added to the start is in `(-π, π]`.
-/
theorem adjustGoal_near_start {c : Nat}
    (continuous : group[c]?.map JointModel.type = some (.revolute true))
    : -π < (adjustGoal shortestAngularDistance group t goalIndex).trajectory goalIndex c
          - t.trajectory 0 c
      ∧ (adjustGoal shortestAngularDistance group t goalIndex).trajectory goalIndex c
          - t.trajectory 0 c ≤ π := by
  rw [adjustGoal_trajectory, if_pos ⟨rfl, continuous⟩, add_sub_cancel_left]
  exact shortest.range _ _

/-- A continuous joint's adjusted goal differs from the old goal by whole turns. -/
theorem adjustGoal_turns {c : Nat}
    (continuous : group[c]?.map JointModel.type = some (.revolute true))
    : ∃ n : ℤ, (adjustGoal shortestAngularDistance group t goalIndex).trajectory goalIndex c
        = t.trajectory goalIndex c + n * (2 * π) := by
  rw [adjustGoal_trajectory, if_pos ⟨rfl, continuous⟩]
  exact shortest.congr _ _

/-- A second pass of the fix leaves the buffer as the first left it: each adjusted goal is
within half a turn of the row-0 entry the second pass reads, so the distance it adds back is
the plain difference.
-/
theorem adjustGoal_adjustGoal
    : adjustGoal shortestAngularDistance group (adjustGoal shortestAngularDistance group t goalIndex)
        goalIndex
      = adjustGoal shortestAngularDistance group t goalIndex := by
  set adjusted := adjustGoal shortestAngularDistance group t goalIndex
  have same : (adjustGoal shortestAngularDistance group adjusted goalIndex).trajectory
      = adjusted.trajectory := by
    funext r c
    rw [adjustGoal_trajectory]
    split_ifs with fixed
    · obtain ⟨rfl, continuous⟩ := fixed
      have near := adjustGoal_near_start shortest group t r continuous
      have start : adjusted.trajectory 0 c = t.trajectory 0 c
          ∨ adjusted.trajectory 0 c = adjusted.trajectory r c := by
        by_cases r0 : r = 0
        · exact .inr (by rw [r0])
        · exact .inl (by rw [adjustGoal_trajectory, if_neg fun h => r0 h.1.symm])
      rw [shortest.eq_sub] <;> rcases start with start | start <;> rw [start] <;> linarith
    · rfl
  calc adjustGoal shortestAngularDistance group adjusted goalIndex
      = { adjusted with trajectory := (adjustGoal shortestAngularDistance group adjusted
          goalIndex).trajectory } := rfl
    _ = adjusted := by rw [same]

end Adjusted

/-- The wrap-around fix of `solve` on the goal row `N - 1`: it changes no entry outside that
row's continuous-joint columns; in such a column the new goal differs from the old by whole
turns and lies within half a turn of the start; and a second pass changes nothing.
-/
theorem adjustGoal_wrap_around (shortestAngularDistance : ℝ → ℝ → ℝ)
    (shortest : IsShortestAngularDistance shortestAngularDistance) (group : List JointModel)
    (t : ChompTrajectory ℝ)
    : (∀ r c, ¬(r = t.numPoints - 1 ∧ group[c]?.map JointModel.type = some (.revolute true)) →
        (adjustGoal shortestAngularDistance group t (t.numPoints - 1)).trajectory r c
          = t.trajectory r c)
      ∧ (∀ c, group[c]?.map JointModel.type = some (.revolute true) →
        (∃ n : ℤ, (adjustGoal shortestAngularDistance group t (t.numPoints - 1)).trajectory
            (t.numPoints - 1) c = t.trajectory (t.numPoints - 1) c + n * (2 * π))
          ∧ -π < (adjustGoal shortestAngularDistance group t (t.numPoints - 1)).trajectory
            (t.numPoints - 1) c - t.trajectory 0 c
          ∧ (adjustGoal shortestAngularDistance group t (t.numPoints - 1)).trajectory
            (t.numPoints - 1) c - t.trajectory 0 c ≤ π)
      ∧ adjustGoal shortestAngularDistance group
          (adjustGoal shortestAngularDistance group t (t.numPoints - 1)) (t.numPoints - 1)
        = adjustGoal shortestAngularDistance group t (t.numPoints - 1) :=
  ⟨fun r c kept => by rw [adjustGoal_trajectory, if_neg kept],
    fun c continuous => ⟨adjustGoal_turns shortest group t _ continuous,
      adjustGoal_near_start shortest group t _ continuous⟩,
    adjustGoal_adjustGoal shortest group t _⟩

/-- A continuous joint at `3` with goal `-3` is sent to `2π - 3`, a little more than `3`, rather
than back across zero to `-3`.
-/
theorem adjustGoal_wrap_around_three
    : IsShortestAngularDistance (fun a b => toIocMod two_pi_pos (-π) (b - a))
      ∧ (adjustGoal (fun a b => toIocMod two_pi_pos (-π) (b - a))
          [⟨"joint1", .revolute true, 0, 0⟩]
          (ChompTrajectory.ofNumPoints armModel 2 1 "arm" fun r _ => if r = 0 then 3 else -3)
          1).trajectory 1 0
        = 2 * π - 3 := by
  obtain ⟨-, near, -⟩ := adjustGoal_wrap_around _ isShortestAngularDistance_toIocMod
    [⟨"joint1", .revolute true, 0, 0⟩]
    (ChompTrajectory.ofNumPoints armModel 2 1 "arm" fun r _ => if r = 0 then 3 else -3)
  obtain ⟨⟨n, turns⟩, lo, hi⟩ := near 0 rfl
  refine ⟨isShortestAngularDistance_toIocMod, ?_⟩
  simp only [ChompTrajectory.ofNumPoints, Nat.add_one_sub_one, one_ne_zero, if_false,
    if_true] at turns lo hi ⊢
  have one : n = 1 := turns_eq_of_near (by push_cast; linarith [pi_le_four])
    (by push_cast; linarith [pi_gt_three])
  rw [turns, one, Int.cast_one]
  ring

end Chomp.Planner
