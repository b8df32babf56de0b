import RoboticsRuntime.Harness.Metrics.Percentiles
import RoboticsRuntime.Theory.Interpolation

/-!
# Interpolated percentiles

For a quantile between zero and one the percentile is the interpolation of the sorted list, so it
keeps the order of the quantiles and stays between the least and the greatest value.
-/

namespace RoboticsRuntime.Harness
open Theory Contracts

variable {values : List ℚ} {quantile : ℚ}

/-- The value of a rank, counted from zero, in sorted order. -/
def valueAt (values : List ℚ) (rank : ℤ) : ℚ := (sortBy id values).getD rank.toNat 0

theorem sorted_length (values : List ℚ) : (sortBy id values).length = values.length :=
  (sortBy_perm id values).length_eq

theorem item_of_lt {rank : ℤ} (h0 : 0 ≤ rank) (h : rank < values.length) :
    item (sortBy id values) rank = some (valueAt values rank) := by
  have hlt : rank.toNat < (sortBy id values).length := by
    rw [sorted_length]
    omega
  rw [item, if_pos h0, valueAt, List.getD_eq_getElem _ _ hlt, List.getElem?_eq_getElem hlt]

theorem valueAt_mem {rank : ℤ} (h0 : 0 ≤ rank) (h : rank < values.length) :
    valueAt values rank ∈ values := by
  have hitem := item_of_lt h0 h
  rw [item, if_pos h0] at hitem
  exact mem_sortBy.1 (List.mem_of_getElem? hitem)

theorem valueAt_monotoneOn (values : List ℚ) :
    MonotoneOn (valueAt values) (Set.Icc 0 (values.length - 1)) := by
  intro i hi j hj hij
  have hj' : j.toNat < (sortBy id values).length := by
    rw [sorted_length]
    have := hj.2
    have := hj.1
    omega
  have hi' : i.toNat ≤ j.toNat := Int.toNat_le_toNat hij
  rw [valueAt, valueAt, List.getD_eq_getElem _ _ (hi'.trans_lt hj'), List.getD_eq_getElem _ _ hj']
  rcases hi'.eq_or_lt with he | hlt
  · simp only [he, le_refl]
  · exact List.pairwise_iff_getElem.1 (pairwise_le_sortBy id values) _ _ _ hj' hlt

/-- Every value has a rank. -/
theorem exists_valueAt {value : ℚ} (h : value ∈ values) :
    ∃ rank : ℤ, 0 ≤ rank ∧ rank < values.length ∧ valueAt values rank = value := by
  obtain ⟨i, hi, he⟩ := List.mem_iff_getElem.1 (mem_sortBy.2 h : value ∈ sortBy id values)
  refine ⟨i, Int.natCast_nonneg i, ?_, ?_⟩
  · rw [sorted_length] at hi
    exact_mod_cast hi
  · rw [valueAt, Int.toNat_natCast, List.getD_eq_getElem _ _ hi, he]

section
variable (hne : values ≠ [])
include hne

theorem length_pos : 0 < (values.length : ℤ) := by
  exact_mod_cast List.length_pos_of_ne_nil hne

theorem aggregate_min : aggregate .min values = valueAt values 0 := by
  have hpos := length_pos hne
  have hmin : values.min? = some (valueAt values 0) := by
    refine List.min?_eq_some_iff.2 ⟨valueAt_mem (le_refl 0) hpos, fun value hv => ?_⟩
    obtain ⟨rank, h0, hlt, rfl⟩ := exists_valueAt hv
    exact valueAt_monotoneOn values ⟨le_refl 0, by omega⟩ ⟨h0, by omega⟩ h0
  rw [aggregate, hmin, Option.getD_some]

theorem aggregate_max : aggregate .max values = valueAt values (values.length - 1) := by
  have hpos := length_pos hne
  have hmax : values.max? = some (valueAt values (values.length - 1)) := by
    refine List.max?_eq_some_iff.2 ⟨valueAt_mem (by omega) (by omega), fun value hv => ?_⟩
    obtain ⟨rank, h0, hlt, rfl⟩ := exists_valueAt hv
    exact valueAt_monotoneOn values ⟨h0, by omega⟩ ⟨by omega, le_refl _⟩ (by omega)
  rw [aggregate, hmax, Option.getD_some]

/-- A quantile between zero and one is a position between the first and the last rank. -/
theorem position_mem (hq : quantile ∈ Set.Icc 0 1) :
    percentilePosition values quantile ∈ Set.Icc (0 : ℚ) ((values.length - 1 : ℤ) : ℚ) := by
  have hlast : (0 : ℚ) ≤ values.length - 1 := by
    have := length_pos hne
    exact_mod_cast (by omega : (0 : ℤ) ≤ values.length - 1)
  push_cast
  exact ⟨mul_nonneg hlast hq.1, mul_le_of_le_one_right hlast hq.2⟩

theorem percentilePosition_mono {q q' : ℚ} (h : q ≤ q') :
    percentilePosition values q ≤ percentilePosition values q' := by
  have hlast : (0 : ℚ) ≤ values.length - 1 := by
    have := length_pos hne
    exact_mod_cast (by omega : (0 : ℤ) ≤ values.length - 1)
  exact mul_le_mul_of_nonneg_left h hlast

/-- The percentile is the interpolation of the values by rank. -/
theorem percentile_eq (hq : quantile ∈ Set.Icc 0 1) :
    percentile values quantile =
      interpolate (valueAt values) (percentilePosition values quantile) := by
  have hmem := position_mem hne hq
  obtain ⟨hlower, hle, hupper⟩ := floor_ceil_mem hmem
  simp only [percentile, sorted_length]
  rw [← percentilePosition]
  by_cases hone : values.length = 1
  · have hzero : percentilePosition values quantile = ((0 : ℤ) : ℚ) := by
      rw [percentilePosition, hone]
      push_cast
      ring
    rw [if_pos hone, hzero, interpolate_intCast]
    rfl
  · rw [if_neg hone]
    have hcast : ((⌊percentilePosition values quantile⌋.toNat : ℕ) : ℚ) =
        (⌊percentilePosition values quantile⌋ : ℚ) := by
      exact_mod_cast congrArg (Int.cast : ℤ → ℚ) (Int.toNat_of_nonneg hlower)
    by_cases hint : ⌊percentilePosition values quantile⌋ = ⌈percentilePosition values quantile⌉
    · rw [if_pos (congrArg Int.toNat hint), interpolate_of_floor_eq_ceil hint]
      rfl
    · rw [if_neg (by omega), hcast]
      rfl

/-- Both neighbours of the position are in the list. -/
theorem neighbours_lt (hq : quantile ∈ Set.Icc 0 1) :
    0 ≤ ⌊percentilePosition values quantile⌋ ∧
      ⌊percentilePosition values quantile⌋ < values.length ∧
      0 ≤ ⌈percentilePosition values quantile⌉ ∧
      ⌈percentilePosition values quantile⌉ < values.length := by
  obtain ⟨hlower, hle, hupper⟩ := floor_ceil_mem (position_mem hne hq)
  refine ⟨hlower, ?_, ?_, ?_⟩ <;> omega

theorem indexedPercentile_eq (hq : quantile ∈ Set.Icc 0 1) :
    indexedPercentile values quantile = some (percentile values quantile) := by
  obtain ⟨hlower, hlower', hupper, hupper'⟩ := neighbours_lt hne hq
  have hposition : percentilePosition (sortBy id values) quantile =
      percentilePosition values quantile := by rw [percentilePosition, sorted_length]; rfl
  have hpos := length_pos hne
  rw [percentile_eq hne hq]
  simp only [indexedPercentile, hposition, sorted_length]
  by_cases hone : values.length = 1
  · have hzero : percentilePosition values quantile = ((0 : ℤ) : ℚ) := by
      rw [percentilePosition, hone]
      push_cast
      ring
    rw [if_pos hone, item_of_lt (le_refl 0) hpos, hzero, interpolate_intCast]
  · rw [if_neg hone]
    split
    · rename_i hint
      rw [item_of_lt hlower hlower', interpolate_of_floor_eq_ceil hint]
    · rw [item_of_lt hlower hlower', item_of_lt hupper hupper']
      rfl

theorem percentile_monotoneOn : MonotoneOn (percentile values) (Set.Icc 0 1) := by
  intro q hq q' hq' hle
  rw [percentile_eq hne hq, percentile_eq hne hq']
  exact interpolate_monotoneOn (valueAt_monotoneOn values) (position_mem hne hq)
    (position_mem hne hq') (percentilePosition_mono hne hle)

theorem percentile_mem_Icc (hq : quantile ∈ Set.Icc 0 1) :
    percentile values quantile ∈ Set.Icc (aggregate .min values) (aggregate .max values) := by
  rw [percentile_eq hne hq, aggregate_min hne, aggregate_max hne]
  exact interpolate_mem_Icc (valueAt_monotoneOn values) (position_mem hne hq)

end

/-- The percentile depends on the values only, not on their order. -/
theorem percentile_perm {values' : List ℚ} (h : values.Perm values') :
    percentile values quantile = percentile values' quantile := by
  simp only [percentile, sortBy_eq_of_perm_of_injective Function.injective_id h]

theorem indexedPercentile_perm {values' : List ℚ} (h : values.Perm values') :
    indexedPercentile values quantile = indexedPercentile values' quantile := by
  simp only [indexedPercentile, sortBy_eq_of_perm_of_injective Function.injective_id h]

/-- Percentiles of quantiles between zero and one are found in the list, do not depend on the order
of the values, and grow with the quantile from the least value to the greatest. -/
theorem percentile_wellBehaved (hne : values ≠ []) :
    (∀ q ∈ Set.Icc (0 : ℚ) 1,
      0 ≤ ⌊percentilePosition values q⌋ ∧ ⌊percentilePosition values q⌋ < values.length ∧
      0 ≤ ⌈percentilePosition values q⌉ ∧ ⌈percentilePosition values q⌉ < values.length ∧
      indexedPercentile values q = some (percentile values q)) ∧
    (∀ q values', values.Perm values' → percentile values q = percentile values' q ∧
      indexedPercentile values q = indexedPercentile values' q) ∧
    MonotoneOn (percentile values) (Set.Icc 0 1) ∧
    aggregate .min values ≤ aggregate .p50 values ∧
    aggregate .p50 values ≤ aggregate .p95 values ∧
    aggregate .p95 values ≤ aggregate .p99 values ∧
    aggregate .p99 values ≤ aggregate .max values := by
  have h50 : (1 / 2 : ℚ) ∈ Set.Icc (0 : ℚ) 1 := by constructor <;> norm_num
  have h95 : (19 / 20 : ℚ) ∈ Set.Icc (0 : ℚ) 1 := by constructor <;> norm_num
  have h99 : (99 / 100 : ℚ) ∈ Set.Icc (0 : ℚ) 1 := by constructor <;> norm_num
  have hmono := percentile_monotoneOn hne
  refine ⟨fun q hq => ?_, fun q values' h => ⟨percentile_perm h, indexedPercentile_perm h⟩, hmono,
    (percentile_mem_Icc hne h50).1, hmono h50 h95 (by norm_num), hmono h95 h99 (by norm_num),
    (percentile_mem_Icc hne h99).2⟩
  obtain ⟨hlower, hlower', hupper, hupper'⟩ := neighbours_lt hne hq
  exact ⟨hlower, hlower', hupper, hupper', indexedPercentile_eq hne hq⟩

theorem percentile_wellBehaved_three :
    indexedPercentile [3, 1, 2] (3 / 4) = some (percentile [3, 1, 2] (3 / 4)) ∧
      aggregate .p50 [3, 1, 2] ≤ aggregate .p95 [3, 1, 2] :=
  have h : ([3, 1, 2] : List ℚ) ≠ [] := List.cons_ne_nil 3 [1, 2]
  ⟨((percentile_wellBehaved h).1 (3 / 4) (by constructor <;> norm_num)).2.2.2.2,
    (percentile_wellBehaved h).2.2.2.2.1⟩

end RoboticsRuntime.Harness
