import Mathlib.Algebra.Order.Floor.Ring
import Mathlib.Algebra.Order.Ring.Unbundled.Rat
import Mathlib.Data.Rat.Floor
import Mathlib.Order.WithBotTop
import RoboticsRuntime.Python
import RoboticsRuntime.Theory.Precision

/-!
# Floats

Rounding to the nearest float, the conversions that raise `OverflowError` because a result is out
of the range of floats, and the sums of `sum` and `math.fsum`. A float operation is its exact
result, rounded once.
-/

namespace RoboticsRuntime
open Theory

/-! ## Rounding -/

/-- The float of double precision that is nearest to an exact result in the range of floats. -/
def double (value : ℚ) : ℚ := roundToPrecision 53 (-1074) value

/-- From here on an exact result is rounded to infinity. -/
def floatLimit : ℚ := 2 ^ 1024 - 2 ^ 970

/-- An exact result is not rounded to an infinity. -/
def InRange (value : ℚ) : Prop := |value| < floatLimit

instance (value : ℚ) : Decidable (InRange value) := inferInstanceAs (Decidable (_ < _))

/-- A float that is not NaN: a rational number or an infinity. -/
abbrev ExtendedFloat := WithBotTop ℚ

/-- `math.isfinite`. -/
def isFinite (value : ExtendedFloat) : Bool := value ≠ ⊥ && value ≠ ⊤

/-- The float that an exact result is rounded to. -/
def roundFloat (value : ℚ) : ExtendedFloat :=
  if floatLimit ≤ value then ⊤ else if value ≤ -floatLimit then ⊥ else (double value : ℚ)

/-! ## Conversions -/

/-- An exact result that is rounded, where infinity is an error with some message. -/
def toFloat (fl : ℚ → ℚ) (message : String) (value : ℚ) : Except OverflowError ℚ :=
  if floatLimit ≤ |value| then .error ⟨message⟩ else .ok (fl value)

/-- `float(value)` of a number. -/
def numberToFloat (fl : ℚ → ℚ) (value : ℚ) : Except OverflowError ℚ :=
  toFloat fl "int too large to convert to float" value

/-- `int(value)` of a float. -/
def truncate (value : ℚ) : ℤ := if 0 ≤ value then ⌊value⌋ else ⌈value⌉

/-- `int(seconds * 1_000_000_000)` of a float. -/
def toNanoseconds (fl : ℚ → ℚ) (seconds : ℚ) : Except OverflowError ℤ :=
  (toFloat fl "cannot convert float infinity to integer" (seconds * 1000000000)).map truncate

/-- `ns / 1_000_000_000`. -/
def toSeconds (fl : ℚ → ℚ) (ns : ℤ) : Except OverflowError ℚ :=
  toFloat fl "integer division result too large for a float" (ns / 1000000000)

theorem toFloat_eq_ok {fl : ℚ → ℚ} {message : String} {value result : ℚ} :
    toFloat fl message value = .ok result ↔ InRange value ∧ fl value = result := by
  unfold toFloat InRange
  split_ifs with h
  · exact ⟨nofun, fun hr => absurd hr.1 (not_lt.2 h)⟩
  · rw [Except.ok.injEq]
    exact ⟨fun hr => ⟨not_le.1 h, hr⟩, And.right⟩

theorem toFloat_of_not {fl : ℚ → ℚ} {value : ℚ} (h : ¬ InRange value) (message : String) :
    toFloat fl message value = .error ⟨message⟩ :=
  if_pos (not_lt.1 h)

theorem InRange.of_le {value limit : ℚ} (hlimit : InRange limit) (hnonneg : 0 ≤ value)
    (hle : value ≤ limit) : InRange value := by
  unfold InRange
  rw [abs_of_nonneg hnonneg]
  exact (hle.trans (le_abs_self limit)).trans_lt hlimit

/-- A time that is no longer than one in range is a number of seconds in range. -/
theorem InRange.seconds {ns limit : ℤ} (hlimit : InRange limit) (hnonneg : 0 ≤ ns)
    (hle : ns ≤ limit) : InRange (ns / 1000000000) := by
  have hns : (0 : ℚ) ≤ ns := by exact_mod_cast hnonneg
  have hcast : (ns : ℚ) ≤ limit := by exact_mod_cast hle
  have hquotient : (ns / 1000000000 : ℚ) ≤ ns := div_le_self hns (by norm_num)
  exact hlimit.of_le (div_nonneg hns (by norm_num)) (hquotient.trans hcast)

/-! ## Sums -/

/-- The sum of two floats, the first of which may be infinite. -/
def addFloat : ExtendedFloat → ℚ → ExtendedFloat
  | ⊥, _ => ⊥
  | ⊤, _ => ⊤
  | (total : ℚ), value => roundFloat (total + value)

/-- `f_result` and `c` of `sum`: the total, and the sum of its rounding errors while that is
finite. -/
structure CompensatedSum where
  total : ExtendedFloat
  compensation : Option ℚ

/-- One round of `sum`: the rounding error is what the addition lost of the smaller number. -/
def CompensatedSum.add (state : CompensatedSum) (value : ℚ) : CompensatedSum :=
  match state.total with
  | ⊥ => state
  | ⊤ => state
  | (total : ℚ) =>
    match roundFloat (total + value) with
    | ⊥ => ⟨⊥, none⟩
    | ⊤ => ⟨⊤, none⟩
    | (sum : ℚ) =>
      let lost := if |value| ≤ |total| then double (double (total - sum) + value)
        else double (double (value - sum) + total)
      ⟨sum, state.compensation.bind fun c =>
        if InRange (c + lost) then some (double (c + lost)) else none⟩

/-- What `sum` returns. -/
def CompensatedSum.result (state : CompensatedSum) : ExtendedFloat :=
  match state.compensation with
  | none => state.total
  | some c => if c = 0 then state.total else addFloat state.total c

/-- `sum` of floats. -/
def floatSum (values : List ℚ) : ExtendedFloat :=
  (values.foldl CompensatedSum.add ⟨0, some 0⟩).result

/-- The partial sums of `math.fsum` after a value is added to them. -/
def fsumPartials (value : ℚ) : List ℚ → Except OverflowError (List ℚ)
  | [] => .ok (if value = 0 then [] else [value])
  | summed :: partials => do
    let (larger, smaller) := if |value| < |summed| then (summed, value) else (value, summed)
    let high ← toFloat double "intermediate overflow in fsum" (larger + smaller)
    let low := double (smaller - double (high - larger))
    let rest ← fsumPartials high partials
    return if low = 0 then rest else low :: rest

/-- `math.fsum`: its partial sums add up to the exact sum, which is rounded once. -/
def fsum (values : List ℚ) : Except OverflowError ℚ := do
  let partials ← values.foldlM (fun partials value => fsumPartials value partials) []
  return double partials.sum

/-- `statistics.fmean` of at least one float. -/
def fmean (values : List ℚ) : Except OverflowError ℚ :=
  (fsum values).map fun total => double (total / values.length)

/-! ## What rounding keeps -/

theorem double_mono : Monotone double := roundToPrecision_mono (by decide)

@[simp] theorem double_zero : double 0 = 0 := roundToPrecision_zero

theorem double_neg (value : ℚ) : double (-value) = -double value := roundToPrecision_neg value

theorem double_nonneg {value : ℚ} (h : 0 ≤ value) : 0 ≤ double value := roundToPrecision_nonneg h

theorem floatLimit_eq : floatLimit = (2 ^ 54 - 1) * 2 ^ (970 : ℤ) := by
  rw [floatLimit, show 1024 = 54 + 970 from rfl, pow_add, zpow_ofNat, sub_mul, one_mul]

/-- What is not rounded to infinity is rounded to a number that is not either. -/
theorem double_lt_floatLimit {value : ℚ} (h : value < floatLimit) : double value < floatLimit := by
  obtain ⟨half, hhalf⟩ : ∃ half : ℚ, half = 2 ^ (970 : ℤ) := ⟨_, rfl⟩
  have hpositive : 0 < half := hhalf ▸ two_zpow_pos 970
  have hpower : ∀ n : ℕ, (2 : ℚ) ^ (n + 970 : ℤ) = 2 ^ n * half := fun n => by
    rw [zpow_add₀ two_ne_zero, zpow_natCast, hhalf]
  have hdigit : (2 : ℚ) ^ (971 : ℤ) = 2 ^ 1 * half := hpower 1
  have hleading : (2 : ℚ) ^ (1023 : ℤ) = 2 ^ 53 * half := hpower 53
  have hnext : (2 : ℚ) ^ (1024 : ℤ) = 2 ^ 54 * half := hpower 54
  rw [floatLimit_eq, ← hhalf] at h ⊢
  rcases lt_or_ge value (2 ^ (1023 : ℤ)) with hsmall | hlarge
  · have hmono := double_mono hsmall.le
    rw [show double (2 ^ (1023 : ℤ)) = 2 ^ (1023 : ℤ) from
      roundToPrecision_two_zpow (by decide) (by decide)] at hmono
    rw [hleading] at hmono
    linarith only [hmono, hpositive]
  · -- The greatest float has 53 digits, and the limit lies half a digit above it.
    have hpos : 0 < value := (two_zpow_pos 1023).trans_le hlarge
    have hunit : unitExponent 53 (-1074) value = 971 := by
      have hlow := le_binaryExponent hpos.ne' (m := 1023) (by rwa [abs_of_pos hpos])
      have hhigh := binaryExponent_lt hpos.ne' (m := 1024) (by
        rw [abs_of_pos hpos, hnext]
        linarith only [h, hpositive])
      unfold unitExponent
      omega
    have herror := (abs_le.1 (abs_sub_roundHalfEven_le (value / 2 ^ (971 : ℤ)))).1
    have hquotient : value / 2 ^ (971 : ℤ) < 2 ^ 53 - 1 / 2 := by
      rw [div_lt_iff₀ (two_zpow_pos 971), hdigit]
      linarith only [h]
    have hdigits : roundHalfEven (value / 2 ^ (971 : ℤ)) ≤ 2 ^ 53 - 1 := by
      generalize value / 2 ^ (971 : ℤ) = quotient at herror hquotient
      have : (roundHalfEven quotient : ℚ) < (2 ^ 53 : ℤ) := by
        push_cast
        linarith only [herror, hquotient]
      have := Int.cast_lt.1 this
      omega
    have hcast : (roundHalfEven (value / 2 ^ (971 : ℤ)) : ℚ) ≤ (2 ^ 53 - 1 : ℤ) :=
      Int.cast_le.2 hdigits
    rw [double, roundToPrecision_eq, hunit]
    refine (mul_le_mul_of_nonneg_right hcast (two_zpow_pos 971).le).trans_lt ?_
    rw [hdigit]
    push_cast
    linarith only [hpositive]

theorem InRange.double {value : ℚ} (h : InRange value) : InRange (double value) := by
  obtain ⟨hlow, hhigh⟩ := abs_lt.1 h
  refine abs_lt.2 ⟨?_, double_lt_floatLimit hhigh⟩
  have := double_lt_floatLimit (neg_lt.1 hlow)
  rw [double_neg] at this
  exact neg_lt.1 this

/-- Integers of at most 53 digits are floats. -/
theorem double_intCast {n : ℤ} (h : |n| < 2 ^ 53) : double n = n :=
  roundToPrecision_intCast (by decide) h

theorem PyOps.exact_nearest : PyOps.exact.Nearest where
  mono := monotone_id
  zero := rfl
  one := rfl
  neg := fun _ hx => hx.trans_lt (by norm_num [PyOps.exact])

/-- Rounding to double precision keeps order, zero, one and the sign of normal floats. -/
theorem PyOps.nearest_of_double {py : PyOps} (h : py.fl = double) : py.Nearest := by
  constructor <;> rw [h]
  · exact double_mono
  · exact double_zero
  · exact_mod_cast double_intCast (n := 1) (by decide)
  · intro value hvalue
    have hleast : double (2 ^ (-1022 : ℤ)) = 2 ^ (-1022 : ℤ) :=
      roundToPrecision_two_zpow (by decide) (by decide)
    have hle := double_mono hvalue
    rw [← zpow_natCast, one_div, ← zpow_neg, double_neg] at hle
    refine hle.trans_lt ?_
    rw [show (-((1022 : ℕ) : ℤ)) = -1022 from rfl, hleast]
    exact neg_lt_zero.2 (two_zpow_pos _)

/-- Conversions keep the order. -/
theorem PyOps.Nearest.toFloat_le {py : PyOps} (hpy : py.Nearest) {message message' : String}
    {value value' result result' : ℚ} (h : toFloat py.fl message value = .ok result)
    (h' : toFloat py.fl message' value' = .ok result') (hle : value ≤ value') :
    result ≤ result' := by
  obtain ⟨-, rfl⟩ := toFloat_eq_ok.1 h
  obtain ⟨-, rfl⟩ := toFloat_eq_ok.1 h'
  exact hpy.mono hle

/-- Floats of double precision, in a notation that leaves long numbers out. -/
def PyOps.short : PyOps where
  fl := double
  number x := if (toString x).length ≤ 24 then toString x else "0"
  declared x := if (toString x).length ≤ 24 then toString x else "0"
  text text := "'" ++ text ++ "'"

theorem PyOps.short_shortNumbers : PyOps.short.ShortNumbers := by
  have hlength : ∀ x : ℚ, (if (toString x).length ≤ 24 then toString x else "0").length ≤ 24 := by
    intro x
    split
    · assumption
    · decide
  exact ⟨hlength, fun x _ _ => hlength x⟩

/-- A float has a relative error of at most half of its last digit. -/
theorem abs_sub_double_le {value : ℚ} (h : 2 ^ (-1022 : ℤ) ≤ |value|) :
    |value - double value| ≤ |value| * 2 ^ (-53 : ℤ) :=
  abs_sub_roundToPrecision_le_mul h

end RoboticsRuntime
