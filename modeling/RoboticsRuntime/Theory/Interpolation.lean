import Mathlib.Algebra.Order.Round
import Mathlib.Data.Int.ConditionallyCompleteOrder
import Mathlib.Order.Interval.Set.Basic
import Mathlib.Order.Monotone.Basic
import Mathlib.Tactic.Linarith
import Mathlib.Tactic.Ring

/-!
# Interpolation between the values at the integers

Between two neighbouring integers the interpolation of a function is the line between its values
there. It keeps the order that the function has on the integers of an interval.
-/

namespace RoboticsRuntime.Theory

variable {K : Type} [Field K] [LinearOrder K] [IsStrictOrderedRing K] [FloorRing K]
  {f : ℤ → K} {x y : K} {n : ℤ}

/-- The line between the values at the floor and at the ceiling. -/
def interpolate (f : ℤ → K) (x : K) : K := f ⌊x⌋ + (f ⌈x⌉ - f ⌊x⌋) * (x - ⌊x⌋)

omit [IsStrictOrderedRing K] in
theorem interpolate_of_floor_eq_ceil (h : ⌊x⌋ = ⌈x⌉) : interpolate f x = f ⌊x⌋ := by
  rw [interpolate, ← h, sub_self, zero_mul, add_zero]

@[simp] theorem interpolate_intCast (f : ℤ → K) (k : ℤ) : interpolate f (k : K) = f k := by
  rw [interpolate_of_floor_eq_ceil (by simp), Int.floor_intCast]

/-- Between the integers of an interval, the floor and the ceiling lie in it. -/
theorem floor_ceil_mem (h : x ∈ Set.Icc (0 : K) n) :
    0 ≤ ⌊x⌋ ∧ ⌊x⌋ ≤ ⌈x⌉ ∧ ⌈x⌉ ≤ n :=
  ⟨Int.floor_nonneg.2 h.1, Int.floor_le_ceil x, Int.ceil_le.2 h.2⟩

theorem floor_mem (h : x ∈ Set.Icc (0 : K) n) : ⌊x⌋ ∈ Set.Icc 0 n := by
  obtain ⟨h0, hle, hn⟩ := floor_ceil_mem h
  exact ⟨h0, hle.trans hn⟩

theorem ceil_mem (h : x ∈ Set.Icc (0 : K) n) : ⌈x⌉ ∈ Set.Icc 0 n := by
  obtain ⟨h0, hle, hn⟩ := floor_ceil_mem h
  exact ⟨h0.trans hle, hn⟩

theorem le_interpolate (hf : MonotoneOn f (Set.Icc 0 n)) (h : x ∈ Set.Icc (0 : K) n) :
    f ⌊x⌋ ≤ interpolate f x := by
  have hcell := hf (floor_mem h) (ceil_mem h) (Int.floor_le_ceil x)
  exact le_add_of_nonneg_right (mul_nonneg (sub_nonneg.2 hcell) (sub_nonneg.2 (Int.floor_le x)))

theorem interpolate_le (hf : MonotoneOn f (Set.Icc 0 n)) (h : x ∈ Set.Icc (0 : K) n) :
    interpolate f x ≤ f ⌈x⌉ := by
  have hcell := hf (floor_mem h) (ceil_mem h) (Int.floor_le_ceil x)
  have hfract : x - ⌊x⌋ ≤ 1 := by
    have := Int.lt_floor_add_one x
    linarith
  calc interpolate f x ≤ f ⌊x⌋ + (f ⌈x⌉ - f ⌊x⌋) * 1 :=
        add_le_add_right (mul_le_mul_of_nonneg_left hfract (sub_nonneg.2 hcell)) _
    _ = f ⌈x⌉ := by ring

/-- The interpolation of a monotone function is monotone: within one cell it is a line that does
not fall, and an integer separates the arguments of different cells. -/
theorem interpolate_monotoneOn (hf : MonotoneOn f (Set.Icc 0 n)) :
    MonotoneOn (interpolate f) (Set.Icc (0 : K) n) := by
  intro x hx y hy hxy
  rcases (Int.floor_mono hxy).eq_or_lt with hcell | hcell
  · rcases (Int.floor_le_ceil x).eq_or_lt with hint | hfrac
    · rw [interpolate_of_floor_eq_ceil hint, hcell]
      exact le_interpolate hf hy
    · have hceil : ⌈x⌉ = ⌈y⌉ := by
        have hx1 : ⌈x⌉ = ⌊x⌋ + 1 := le_antisymm (Int.ceil_le_floor_add_one x) hfrac
        refine le_antisymm (Int.ceil_mono hxy) ?_
        rw [hx1, hcell]
        exact Int.ceil_le_floor_add_one y
      have hrise := sub_nonneg.2 (hf (floor_mem hx) (ceil_mem hx) (Int.floor_le_ceil x))
      rw [interpolate, interpolate, ← hcell, ← hceil]
      exact add_le_add_right
        (mul_le_mul_of_nonneg_left (sub_le_sub_right hxy _) hrise) _
  · have hstep : ⌈x⌉ ≤ ⌊y⌋ := (Int.ceil_le_floor_add_one x).trans hcell
    calc interpolate f x ≤ f ⌈x⌉ := interpolate_le hf hx
      _ ≤ f ⌊y⌋ := hf (ceil_mem hx) (floor_mem hy) hstep
      _ ≤ interpolate f y := le_interpolate hf hy

/-- The interpolation stays between the values at the ends. -/
theorem interpolate_mem_Icc (hf : MonotoneOn f (Set.Icc 0 n)) (h : x ∈ Set.Icc (0 : K) n) :
    interpolate f x ∈ Set.Icc (f 0) (f n) := by
  have hn : 0 ≤ n := (floor_mem h).1.trans (floor_mem h).2
  exact ⟨(hf ⟨le_refl 0, hn⟩ (floor_mem h) (floor_mem h).1).trans (le_interpolate hf h),
    (interpolate_le hf h).trans (hf (ceil_mem h) ⟨hn, le_refl n⟩ (ceil_mem h).2)⟩

end RoboticsRuntime.Theory
