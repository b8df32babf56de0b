import Mathlib.Algebra.Order.Field.Power
import Mathlib.Tactic.FieldSimp
import Mathlib.Tactic.Positivity
import RoboticsRuntime.Theory.Rounding

/-!
# Rounding to a binary precision

The nearest number with a bounded number of significant binary digits, where the last digit never
stands below a least exponent. Ties go to the even significand. There is no greatest number here.
-/

namespace RoboticsRuntime.Theory

/-- A power of two. -/
def twoPow (e : ℤ) : ℚ :=
  if 0 ≤ e then ((2 ^ e.toNat : ℕ) : ℚ) else 1 / ((2 ^ (-e).toNat : ℕ) : ℚ)

theorem twoPow_eq (e : ℤ) : twoPow e = (2 : ℚ) ^ e := by
  unfold twoPow
  split
  · next h =>
    obtain ⟨n, rfl⟩ := Int.eq_ofNat_of_zero_le h
    simp
  · next h =>
    obtain ⟨n, hn⟩ := Int.eq_ofNat_of_zero_le (by omega : 0 ≤ -e)
    obtain rfl : e = -(n : ℤ) := by omega
    simp

/-- The exponent of the leading binary digit. -/
def binaryExponent (q : ℚ) : ℤ :=
  let e : ℤ := q.num.natAbs.log2 - q.den.log2
  if twoPow e ≤ |q| then e else e - 1

/-- The exponent of the last digit of a number. -/
def unitExponent (precision : ℕ) (least : ℤ) (q : ℚ) : ℤ :=
  max (binaryExponent q + 1 - precision) least

/-- The nearest number of a precision. -/
def roundToPrecision (precision : ℕ) (least : ℤ) (q : ℚ) : ℚ :=
  let unit := twoPow (unitExponent precision least q)
  roundHalfEven (q / unit) * unit

/-! ## The exponent -/

theorem two_zpow_pos (e : ℤ) : (0 : ℚ) < 2 ^ e := by positivity

theorem abs_eq_div (q : ℚ) : |q| = (q.num.natAbs : ℚ) / q.den := by
  conv_lhs => rw [← Rat.num_div_den q]
  rw [abs_div, Nat.abs_cast, Nat.cast_natAbs, Int.cast_abs]

/-- A natural number lies between the powers of two of its binary logarithm. -/
theorem log2_spec {n : ℕ} (hn : n ≠ 0) :
    (2 : ℚ) ^ (n.log2 : ℤ) ≤ n ∧ (n : ℚ) < 2 ^ ((n.log2 : ℤ) + 1) := by
  rw [← Nat.cast_succ, zpow_natCast, zpow_natCast]
  exact ⟨by exact_mod_cast Nat.log2_self_le hn, by exact_mod_cast Nat.lt_log2_self (n := n)⟩

theorem binaryExponent_spec {q : ℚ} (hq : q ≠ 0) :
    (2 : ℚ) ^ binaryExponent q ≤ |q| ∧ |q| < 2 ^ (binaryExponent q + 1) := by
  obtain ⟨hnumLow, hnumHigh⟩ := log2_spec (n := q.num.natAbs) (by simpa using hq)
  obtain ⟨hdenLow, hdenHigh⟩ := log2_spec q.den_ne_zero
  have hden : (0 : ℚ) < q.den := by exact_mod_cast q.den_pos
  have habs := abs_eq_div q
  unfold binaryExponent
  dsimp only
  rw [twoPow_eq]
  generalize (q.num.natAbs.log2 : ℤ) = a at *
  generalize (q.den.log2 : ℤ) = b at *
  -- The quotient of two such numbers lies within one digit of the quotient of the powers.
  have hlow : (2 : ℚ) ^ (a - b - 1) < |q| := by
    rw [habs, lt_div_iff₀ hden]
    calc (2 : ℚ) ^ (a - b - 1) * q.den < 2 ^ (a - b - 1) * 2 ^ (b + 1) :=
          mul_lt_mul_of_pos_left hdenHigh (two_zpow_pos _)
      _ = 2 ^ a := by rw [← zpow_add₀ two_ne_zero]; congr 1; ring
      _ ≤ q.num.natAbs := hnumLow
  have hhigh : |q| < (2 : ℚ) ^ (a - b + 1) := by
    rw [habs, div_lt_iff₀ hden]
    calc (q.num.natAbs : ℚ) < 2 ^ (a + 1) := hnumHigh
      _ = 2 ^ (a - b + 1) * 2 ^ b := by rw [← zpow_add₀ two_ne_zero]; congr 1; ring
      _ ≤ 2 ^ (a - b + 1) * q.den := mul_le_mul_of_nonneg_left hdenLow (two_zpow_pos _).le
  split
  · next h => exact ⟨h, hhigh⟩
  · next h =>
    rw [sub_add_cancel]
    exact ⟨hlow.le, not_le.1 h⟩

@[simp] theorem binaryExponent_neg (q : ℚ) : binaryExponent (-q) = binaryExponent q := by
  simp [binaryExponent]

theorem binaryExponent_lt {q : ℚ} {m : ℤ} (hq : q ≠ 0) (h : |q| < 2 ^ m) : binaryExponent q < m :=
  (zpow_lt_zpow_iff_right₀ one_lt_two).1 ((binaryExponent_spec hq).1.trans_lt h)

theorem le_binaryExponent {q : ℚ} {m : ℤ} (hq : q ≠ 0) (h : 2 ^ m ≤ |q|) :
    m ≤ binaryExponent q :=
  Int.le_of_lt_add_one
    ((zpow_lt_zpow_iff_right₀ one_lt_two).1 (h.trans_lt (binaryExponent_spec hq).2))

/-! ## The nearest number -/

section
variable {precision : ℕ} {least : ℤ}

theorem roundToPrecision_eq (q : ℚ) : roundToPrecision precision least q =
    roundHalfEven (q / 2 ^ unitExponent precision least q) *
      2 ^ unitExponent precision least q := by
  rw [roundToPrecision, twoPow_eq]

@[simp] theorem roundToPrecision_zero : roundToPrecision precision least 0 = 0 := by
  have h := roundHalfEven_intCast 0
  rw [Int.cast_zero] at h
  rw [roundToPrecision_eq, zero_div, h, Int.cast_zero, zero_mul]

theorem roundToPrecision_neg (q : ℚ) :
    roundToPrecision precision least (-q) = -roundToPrecision precision least q := by
  have hunit : unitExponent precision least (-q) = unitExponent precision least q := by
    rw [unitExponent, binaryExponent_neg, unitExponent]
  rw [roundToPrecision_eq, roundToPrecision_eq, hunit, neg_div, roundHalfEven_neg]
  push_cast
  ring

/-- The rounding error is at most half of the last digit. -/
theorem abs_sub_roundToPrecision_le (q : ℚ) :
    |q - roundToPrecision precision least q| ≤ 2 ^ unitExponent precision least q / 2 := by
  rw [roundToPrecision_eq]
  generalize unitExponent precision least q = u
  have hpos := two_zpow_pos u
  have hscaled : q - roundHalfEven (q / 2 ^ u) * 2 ^ u =
      (q / 2 ^ u - roundHalfEven (q / 2 ^ u)) * 2 ^ u := by
    field_simp
  rw [hscaled, abs_mul, abs_of_pos hpos, div_eq_mul_one_div (2 ^ u : ℚ), mul_comm]
  exact mul_le_mul_of_nonneg_left (abs_sub_roundHalfEven_le _) hpos.le

/-- Relative to a number whose digits all stand above the least exponent, the error is at most half
of the last digit. -/
theorem abs_sub_roundToPrecision_le_mul {q : ℚ} (hq : 2 ^ (least + precision - 1) ≤ |q|) :
    |q - roundToPrecision precision least q| ≤ |q| * 2 ^ (-precision : ℤ) := by
  have hne : q ≠ 0 := by
    rintro rfl
    rw [abs_zero] at hq
    exact absurd hq (not_le.2 (two_zpow_pos _))
  have hexponent := le_binaryExponent hne hq
  have hunit : unitExponent precision least q = binaryExponent q + 1 - precision := by
    unfold unitExponent
    omega
  refine (abs_sub_roundToPrecision_le q).trans ?_
  calc (2 : ℚ) ^ unitExponent precision least q / 2
      = 2 ^ binaryExponent q * 2 ^ (-precision : ℤ) := by
        rw [hunit, ← zpow_add₀ two_ne_zero, div_eq_mul_inv, ← zpow_neg_one,
          ← zpow_add₀ two_ne_zero]
        congr 1
        ring
    _ ≤ |q| * 2 ^ (-precision : ℤ) :=
        mul_le_mul_of_nonneg_right (binaryExponent_spec hne).1 (two_zpow_pos _).le

/-- A number with enough room below its last digit is kept, and so is the order to it. -/
theorem le_roundToPrecision {q : ℚ} {k u : ℤ} (hu : unitExponent precision least q ≤ u)
    (h : k * 2 ^ u ≤ q) : k * 2 ^ u ≤ roundToPrecision precision least q := by
  obtain ⟨n, hn⟩ := Int.eq_ofNat_of_zero_le (sub_nonneg.2 hu)
  have hpos := two_zpow_pos (unitExponent precision least q)
  have hsplit : (k * 2 ^ u : ℚ) =
      ((k * 2 ^ n : ℤ) : ℚ) * 2 ^ unitExponent precision least q := by
    have : u = n + unitExponent precision least q := by omega
    conv_lhs => rw [this, zpow_add₀ two_ne_zero, zpow_natCast]
    push_cast
    ring
  rw [hsplit] at h ⊢
  rw [roundToPrecision_eq]
  refine mul_le_mul_of_nonneg_right ?_ hpos.le
  have hmono := roundHalfEven_mono ((le_div_iff₀ hpos).2 h)
  rw [roundHalfEven_intCast] at hmono
  exact_mod_cast hmono

theorem roundToPrecision_le {q : ℚ} {k u : ℤ} (hu : unitExponent precision least q ≤ u)
    (h : q ≤ k * 2 ^ u) : roundToPrecision precision least q ≤ k * 2 ^ u := by
  have hunit : unitExponent precision least (-q) ≤ u := by
    rwa [unitExponent, binaryExponent_neg, ← unitExponent]
  have hneg := le_roundToPrecision (k := -k) hunit (by push_cast; linarith)
  rw [roundToPrecision_neg] at hneg
  push_cast at hneg
  linarith

/-- A number of the precision is its own nearest one. -/
theorem roundToPrecision_of_multiple {q : ℚ} {k u : ℤ}
    (hu : unitExponent precision least q ≤ u) (h : q = k * 2 ^ u) :
    roundToPrecision precision least q = q :=
  le_antisymm ((roundToPrecision_le hu h.le).trans h.ge)
    (h.le.trans (le_roundToPrecision hu h.ge))

theorem roundToPrecision_nonneg {q : ℚ} (h : 0 ≤ q) : 0 ≤ roundToPrecision precision least q := by
  have := @le_roundToPrecision precision least q 0 _ le_rfl
    (by simpa using h)
  simpa using this

/-- Rounding keeps the order of numbers that are not negative. -/
theorem roundToPrecision_le_of_nonneg (hprecision : 0 < precision) {q r : ℚ} (hq : 0 ≤ q)
    (hqr : q ≤ r) : roundToPrecision precision least q ≤ roundToPrecision precision least r := by
  rcases hq.eq_or_lt with rfl | hpos
  · rw [roundToPrecision_zero]
    exact roundToPrecision_nonneg hqr
  have hne := hpos.ne'
  have hne' := (hpos.trans_le hqr).ne'
  have hspec := (binaryExponent_spec hne').1
  rw [abs_of_pos (hpos.trans_le hqr)] at hspec
  have hle : binaryExponent q ≤ binaryExponent r := by
    refine le_binaryExponent hne' ?_
    rw [abs_of_pos (hpos.trans_le hqr)]
    exact ((abs_of_pos hpos) ▸ (binaryExponent_spec hne).1).trans hqr
  by_cases hunit : unitExponent precision least q = unitExponent precision least r
  · rw [roundToPrecision_eq, roundToPrecision_eq, hunit]
    have hunitPos := two_zpow_pos (unitExponent precision least r)
    refine mul_le_mul_of_nonneg_right ?_ hunitPos.le
    exact_mod_cast roundHalfEven_mono (div_le_div_of_nonneg_right hqr hunitPos.le)
  · -- A power of two between the numbers has room in both units.
    have hlt : binaryExponent q < binaryExponent r := by
      refine lt_of_le_of_ne hle fun heq => hunit ?_
      rw [unitExponent, unitExponent, heq]
    have hunits : unitExponent precision least r = binaryExponent r + 1 - precision ∧
        unitExponent precision least q ≤ binaryExponent r ∧
        unitExponent precision least r ≤ binaryExponent r := by
      unfold unitExponent at hunit ⊢
      omega
    have hbelow : q ≤ (1 : ℤ) * 2 ^ binaryExponent r := by
      have hhigh := (binaryExponent_spec hne).2
      rw [abs_of_pos hpos] at hhigh
      rw [Int.cast_one, one_mul]
      exact hhigh.le.trans (zpow_le_zpow_right₀ one_le_two hlt)
    refine (roundToPrecision_le hunits.2.1 hbelow).trans (le_roundToPrecision hunits.2.2 ?_)
    rwa [Int.cast_one, one_mul]

theorem roundToPrecision_mono (hprecision : 0 < precision) :
    Monotone (roundToPrecision precision least) := by
  intro q r hqr
  rcases le_total 0 q with hq | hq
  · exact roundToPrecision_le_of_nonneg hprecision hq hqr
  · rcases le_total 0 r with hr | hr
    · have hneg := @roundToPrecision_nonneg precision least _ (neg_nonneg.2 hq)
      rw [roundToPrecision_neg] at hneg
      exact (neg_nonneg.1 hneg).trans (roundToPrecision_nonneg hr)
    · have h := @roundToPrecision_le_of_nonneg precision least hprecision _ _ (neg_nonneg.2 hr)
        (neg_le_neg hqr)
      rw [roundToPrecision_neg, roundToPrecision_neg] at h
      exact neg_le_neg_iff.1 h

/-- Integers of at most so many digits are numbers of the precision. -/
theorem roundToPrecision_intCast (hleast : least ≤ 0) {n : ℤ} (hn : |n| < 2 ^ precision) :
    roundToPrecision precision least n = n := by
  by_cases hzero : n = 0
  · rw [hzero, Int.cast_zero, roundToPrecision_zero]
  have hlt := binaryExponent_lt (q := n) (m := precision) (by exact_mod_cast hzero)
    (by rw [zpow_natCast]; exact_mod_cast hn)
  refine roundToPrecision_of_multiple (k := n) (u := 0) ?_ (by rw [zpow_zero, mul_one])
  unfold unitExponent
  omega

/-- So are powers of two down to the least exponent. -/
theorem roundToPrecision_two_zpow (hprecision : 0 < precision) {m : ℤ} (hm : least ≤ m) :
    roundToPrecision precision least (2 ^ m) = 2 ^ m := by
  have hlt := binaryExponent_lt (q := 2 ^ m) (m := m + 1) (two_zpow_pos m).ne' (by
    rw [abs_of_pos (two_zpow_pos m)]
    exact zpow_lt_zpow_right₀ one_lt_two (Int.lt_succ m))
  refine roundToPrecision_of_multiple (k := 1) (u := m) ?_ (by rw [Int.cast_one, one_mul])
  unfold unitExponent
  omega

end

end RoboticsRuntime.Theory
