import Mathlib.Algebra.Order.Floor.Ring
import Mathlib.Data.Rat.Floor
import Mathlib.Tactic.Linarith
import Mathlib.Tactic.NormNum
import Mathlib.Tactic.Ring

/-!
# Rounding to integers

Rounding of a rational number to the nearest integer, ties to the even one.
-/

namespace RoboticsRuntime.Theory

/-- The nearest integer, the even one of two at equal distance. -/
def roundHalfEven (q : ℚ) : ℤ :=
  let below := ⌊q⌋
  let rest := q - below
  if rest < 1 / 2 then below
  else if 1 / 2 < rest then below + 1
  else if below % 2 = 0 then below else below + 1

@[simp] theorem roundHalfEven_intCast (n : ℤ) : roundHalfEven n = n := by
  simp [roundHalfEven]

theorem floor_le_roundHalfEven (q : ℚ) : ⌊q⌋ ≤ roundHalfEven q := by
  unfold roundHalfEven
  dsimp only
  split_ifs <;> omega

/-! ## The nearest integer -/

/-- Rounding half to even gives `k`. -/
def RoundsTo (x : ℚ) (k : ℤ) : Prop := |x - k| < 1 / 2 ∨ |x - k| = 1 / 2 ∧ k % 2 = 0

theorem roundsTo_roundHalfEven (x : ℚ) : RoundsTo x (roundHalfEven x) := by
  have hle := Int.floor_le x
  have hlt := Int.lt_floor_add_one x
  unfold roundHalfEven RoundsTo
  dsimp only
  split_ifs with h₁ h₂ h₃
  · exact .inl (abs_lt.2 ⟨by linarith, h₁⟩)
  · exact .inl (abs_lt.2 ⟨by push_cast; linarith, by push_cast; linarith⟩)
  · have hhalf : x - ⌊x⌋ = 1 / 2 := le_antisymm (not_lt.1 h₂) (not_lt.1 h₁)
    exact .inr ⟨by rw [hhalf, abs_of_pos (by norm_num)], h₃⟩
  · have hhalf : x - ⌊x⌋ = 1 / 2 := le_antisymm (not_lt.1 h₂) (not_lt.1 h₁)
    refine .inr ⟨?_, by omega⟩
    rw [show x - ((⌊x⌋ + 1 : ℤ) : ℚ) = -(1 / 2) by push_cast; linarith, abs_neg,
      abs_of_pos (by norm_num)]

theorem RoundsTo.abs_sub_le {x : ℚ} {k : ℤ} (h : RoundsTo x k) : |x - k| ≤ 1 / 2 :=
  h.elim le_of_lt fun h => h.1.le

theorem RoundsTo.neg {x : ℚ} {k : ℤ} (h : RoundsTo x k) : RoundsTo (-x) (-k) := by
  have habs : |-x - ((-k : ℤ) : ℚ)| = |x - k| := by
    rw [← abs_neg]
    congr 1
    push_cast
    ring
  unfold RoundsTo
  rw [habs]
  exact h.imp_right fun h => ⟨h.1, by omega⟩

theorem RoundsTo.unique {x : ℚ} {k j : ℤ} (hk : RoundsTo x k) (hj : RoundsTo x j) : k = j := by
  have htriangle : |((k - j : ℤ) : ℚ)| ≤ |x - k| + |x - j| := by
    have : ((k - j : ℤ) : ℚ) = (x - j) - (x - k) := by push_cast; ring
    rw [this, add_comm]
    exact abs_sub _ _
  have hle := hk.abs_sub_le
  have hle' := hj.abs_sub_le
  -- Two different integers are at distance one, and then both are at equal distance and even.
  have hone : |k - j| ≤ 1 := by
    have : |((k - j : ℤ) : ℚ)| ≤ 1 := htriangle.trans (by linarith)
    exact_mod_cast this
  rcases hk with hk | ⟨-, hk⟩
  · have : |((k - j : ℤ) : ℚ)| < 1 := htriangle.trans_lt (by linarith)
    have : |k - j| < 1 := by exact_mod_cast this
    rw [abs_lt] at this
    omega
  · rcases hj with hj | ⟨-, hj⟩
    · have : |((k - j : ℤ) : ℚ)| < 1 := htriangle.trans_lt (by linarith)
      have : |k - j| < 1 := by exact_mod_cast this
      rw [abs_lt] at this
      omega
    · rw [abs_le] at hone
      omega

theorem roundHalfEven_eq_iff {x : ℚ} {k : ℤ} : roundHalfEven x = k ↔ RoundsTo x k :=
  ⟨fun h => h ▸ roundsTo_roundHalfEven x, fun h => (roundsTo_roundHalfEven x).unique h⟩

theorem abs_sub_roundHalfEven_le (x : ℚ) : |x - roundHalfEven x| ≤ 1 / 2 :=
  (roundsTo_roundHalfEven x).abs_sub_le

theorem roundHalfEven_neg (x : ℚ) : roundHalfEven (-x) = -roundHalfEven x :=
  roundHalfEven_eq_iff.2 (roundsTo_roundHalfEven x).neg

theorem roundHalfEven_mono {x y : ℚ} (hxy : x ≤ y) : roundHalfEven x ≤ roundHalfEven y := by
  by_contra hlt
  have hone : roundHalfEven y + 1 ≤ roundHalfEven x := by omega
  have hcast : (roundHalfEven y : ℚ) + 1 ≤ roundHalfEven x := by exact_mod_cast hone
  have hx := abs_le.1 (abs_sub_roundHalfEven_le x)
  have hy := abs_le.1 (abs_sub_roundHalfEven_le y)
  -- Only at one point can both be at distance a half.
  obtain rfl : x = y := by linarith
  omega

/-- Half of an integer rounds to its half, or to the even one of the two nearest integers. -/
theorem roundHalfEven_half (n : ℤ) :
    2 * roundHalfEven (n / 2) = n ∨ roundHalfEven (n / 2) % 2 = 0 ∧
      |n - 2 * roundHalfEven (n / 2)| = 1 := by
  have h := roundsTo_roundHalfEven (n / 2)
  generalize roundHalfEven (n / 2) = r at h ⊢
  have htwice : (|n - 2 * r| : ℤ) = 2 * |(n / 2 - r : ℚ)| := by
    rw [← abs_of_pos (two_pos : (0 : ℚ) < 2), ← abs_mul, abs_of_pos (two_pos : (0 : ℚ) < 2)]
    push_cast
    congr 1
    ring
  rcases h with h | ⟨h, heven⟩
  · have hlt : (|n - 2 * r| : ℤ) < (1 : ℚ) := by rw [htwice]; linarith
    have hlt : |n - 2 * r| < 1 := by exact_mod_cast hlt
    have := abs_lt.1 hlt
    exact .inl (by omega)
  · refine .inr ⟨heven, ?_⟩
    have hone : (|n - 2 * r| : ℤ) = (1 : ℚ) := by rw [htwice, h]; norm_num
    exact_mod_cast hone

/-! ## Quotients -/

/-- Rounding a quotient up, with the floor division of integers. -/
theorem ceil_div_eq (n : ℤ) {d : ℕ} (hd : 0 < d) : ⌈(n / d : ℚ)⌉ = (n + d - 1) / (d : ℤ) := by
  have hd' : (0 : ℤ) < d := Int.natCast_pos.2 hd
  have hr := Int.emod_lt_of_pos (-n) hd'
  have hr' := Int.emod_nonneg (-n) hd'.ne'
  have hsplit : n + d - 1 = (d - 1 - -n % d) + d * -(-n / d) := by
    have := Int.emod_add_mul_ediv (-n) d
    linarith
  have hzero : (d - 1 - -n % d) / (d : ℤ) = 0 :=
    Int.ediv_eq_zero_of_lt (by linarith) (by linarith)
  rw [Rat.ceil_intCast_div_natCast, hsplit, Int.add_mul_ediv_left _ _ hd'.ne', hzero, zero_add]

end RoboticsRuntime.Theory
