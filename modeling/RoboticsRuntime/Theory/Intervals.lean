import Mathlib

/-!
# Lists of intervals of integers

Intervals that are open below and closed above, given by two functions on their carrier. The
gaps between intervals that follow each other add up to the instants that none of them contains.
-/

namespace RoboticsRuntime.Theory

variable (lo hi : α → ℤ)

/-- An instant lies in an interval. -/
def Inside (a : α) (t : ℤ) : Prop := lo a < t ∧ t ≤ hi a

instance (a : α) (t : ℤ) : Decidable (Inside lo hi a t) := inferInstanceAs (Decidable (_ ∧ _))

/-- No interval is empty, and each ends before the next starts. -/
def Successive (l : List α) : Prop := (∀ a ∈ l, lo a < hi a) ∧ l.IsChain fun a b => hi a ≤ lo b

/-- The number of instants after `p` up to `q` that lie in none of the intervals. -/
noncomputable def uncovered (l : List α) (p q : ℤ) : ℕ :=
  ((Finset.Ioc p q).filter fun t => ∀ a ∈ l, ¬ Inside lo hi a t).card

/-- The time from `p` to the first interval and between the intervals, and then until `q`. -/
def gaps (q : ℤ) : ℤ → List α → ℤ
  | p, [] => q - p
  | p, a :: l => (lo a - p) + gaps q (hi a) l

variable {lo hi}

theorem Successive.cons (h : Successive lo hi (a :: l)) : Successive lo hi l :=
  ⟨fun b hb => h.1 b (List.mem_cons_of_mem _ hb), h.2.of_cons⟩

theorem Successive.le_of_mem (h : Successive lo hi (a :: l)) (hb : b ∈ l) : hi a ≤ lo b := by
  induction l generalizing a with
  | nil => cases hb
  | cons c l ih =>
    have hac : hi a ≤ lo c := (List.isChain_cons_cons.1 h.2).1
    rcases List.mem_cons.1 hb with rfl | hb
    · exact hac
    · have hcb := ih h.cons hb
      have hc := h.1 c (by simp)
      omega

theorem Successive.pairwise (h : Successive lo hi l) : l.Pairwise fun a b => hi a ≤ lo b := by
  induction l with
  | nil => exact .nil
  | cons a l ih => exact List.pairwise_cons.2 ⟨fun b hb => h.le_of_mem hb, ih h.cons⟩

/-- No instant lies in two intervals that follow each other. -/
theorem not_inside_of_le (h : hi a ≤ lo b) (t : ℤ) : ¬ (Inside lo hi a t ∧ Inside lo hi b t) := by
  rintro ⟨⟨-, ha⟩, hb, -⟩
  omega

/-- What is left uncovered does not depend on the order of the intervals. -/
theorem uncovered_perm {l l' : List α} (h : l.Perm l') (p q : ℤ) :
    uncovered lo hi l p q = uncovered lo hi l' p q := by
  simp only [uncovered, h.mem_iff]

theorem uncovered_nil (h : p ≤ q) : (uncovered lo hi [] p q : ℤ) = q - p := by
  simp [uncovered, Int.toNat_of_nonneg (sub_nonneg.2 h)]

/-- The first interval leaves out the instants before it. -/
theorem uncovered_cons (h : Successive lo hi (a :: l)) (hp : p ≤ lo a) (hq : hi a ≤ q) :
    (uncovered lo hi (a :: l) p q : ℤ) = (lo a - p) + uncovered lo hi l (hi a) q := by
  have ha := h.1 a List.mem_cons_self
  have hsplit : ((Finset.Ioc p q).filter fun t => ∀ b ∈ a :: l, ¬ Inside lo hi b t) =
      Finset.Ioc p (lo a) ∪ (Finset.Ioc (hi a) q).filter fun t => ∀ b ∈ l, ¬ Inside lo hi b t := by
    ext t
    simp only [List.mem_cons, forall_eq_or_imp, Finset.mem_filter, Finset.mem_Ioc,
      Finset.mem_union]
    constructor
    · rintro ⟨⟨hpt, htq⟩, hta, htl⟩
      rcases le_or_gt t (lo a) with hle | hgt
      · exact .inl ⟨hpt, hle⟩
      · have : hi a < t := by
          by_contra hle
          exact hta ⟨hgt, not_lt.1 hle⟩
        exact .inr ⟨⟨this, htq⟩, htl⟩
    · rintro (⟨hpt, hta⟩ | ⟨⟨hat, htq⟩, htl⟩)
      · refine ⟨⟨hpt, by omega⟩, fun hin => by have := hin.1; omega, fun b hb hin => ?_⟩
        have := h.le_of_mem hb
        have := hin.1
        omega
      · exact ⟨⟨by omega, htq⟩, fun hin => by have := hin.2; omega, htl⟩
  have hdisjoint : Disjoint (Finset.Ioc p (lo a))
      ((Finset.Ioc (hi a) q).filter fun t => ∀ b ∈ l, ¬ Inside lo hi b t) := by
    rw [Finset.disjoint_left]
    intro t ht ht'
    rw [Finset.mem_Ioc] at ht
    have := (Finset.mem_Ioc.1 (Finset.mem_filter.1 ht').1).1
    omega
  rw [uncovered, hsplit, Finset.card_union_of_disjoint hdisjoint, Int.card_Ioc, Nat.cast_add,
    Int.toNat_of_nonneg (sub_nonneg.2 hp), uncovered]

/-- The gaps between successive intervals are what they leave uncovered. -/
theorem uncovered_eq_gaps (h : Successive lo hi l) (hpq : p ≤ q) (hp : ∀ a ∈ l, p ≤ lo a)
    (hq : ∀ a ∈ l, hi a ≤ q) : (uncovered lo hi l p q : ℤ) = gaps lo hi q p l := by
  induction l generalizing p with
  | nil => exact uncovered_nil hpq
  | cons a l ih =>
    rw [uncovered_cons h (hp a List.mem_cons_self) (hq a List.mem_cons_self), gaps,
      ih h.cons (hq a List.mem_cons_self) (fun b hb => h.le_of_mem hb)
        fun b hb => hq b (List.mem_cons_of_mem _ hb)]

/-! ## Gaps in a window

The intervals may reach beyond the window, and a gap may lie partly outside it.
-/

end RoboticsRuntime.Theory
