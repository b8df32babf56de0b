import Mathlib.Data.List.Sort
import Mathlib.Algebra.Order.Floor.Defs
import Mathlib.Algebra.BigOperators.Group.List.Basic

/-!
# Order statistics of a list

The element of a given rank in sorted order, and how a monotone classification of the elements
into numbered classes finds the class of that element from the sizes of the classes alone.
-/

namespace RoboticsRuntime.Theory

section
variable [LinearOrder α]

/-- The element of rank `r`, counted from one, in sorted order. -/
def orderStatistic (l : List α) (r : ℕ) : Option α := (l.insertionSort (· ≤ ·))[r - 1]?

/-- Fewer than `r` elements are below `v`, and at least `r` are not above it. -/
def HasRank (l : List α) (r : ℕ) (v : α) : Prop :=
  l.countP (· < v) < r ∧ r ≤ l.countP (· ≤ v)

theorem HasRank.of_perm {l l' : List α} (h : l.Perm l') (hr : HasRank l r v) : HasRank l' r v := by
  unfold HasRank at *
  rwa [← h.countP_eq, ← h.countP_eq]

/-- In a sorted list an element has the rank of its position. -/
theorem hasRank_of_sorted {a b : List α} (h : (a ++ v :: b).Pairwise (· ≤ ·)) :
    HasRank (a ++ v :: b) (a.length + 1) v := by
  obtain ⟨-, hb, hab⟩ := List.pairwise_append.1 h
  have ha : a.countP (· ≤ v) = a.length := List.countP_eq_length.2 fun x hx => by
    simpa using hab x hx v List.mem_cons_self
  have hb : b.countP (· < v) = 0 := List.countP_eq_zero.2 fun x hx => by
    simpa using (List.pairwise_cons.1 hb).1 x hx
  constructor
  · rw [List.countP_append, List.countP_cons_of_neg (by simp), hb]
    exact Nat.lt_succ_of_le List.countP_le_length
  · rw [List.countP_append, List.countP_cons_of_pos (by simp), ha]
    omega

theorem orderStatistic_hasRank {l : List α} {r : ℕ} (h1 : 1 ≤ r) (h2 : r ≤ l.length) :
    ∃ v, orderStatistic l r = some v ∧ HasRank l r v := by
  have hperm := List.perm_insertionSort (· ≤ ·) l
  have hsorted := List.pairwise_insertionSort (· ≤ ·) l
  have hi : r - 1 < (l.insertionSort (· ≤ ·)).length := by
    rw [hperm.length_eq]
    omega
  refine ⟨_, List.getElem?_eq_getElem hi, ?_⟩
  generalize hv : (l.insertionSort (· ≤ ·))[r - 1] = v
  have hsplit := List.take_append_drop (r - 1) (l.insertionSort (· ≤ ·))
  rw [List.drop_eq_getElem_cons hi, hv, Nat.sub_add_cancel h1] at hsplit
  rw [← hsplit] at hsorted hperm
  have hrank := hasRank_of_sorted hsorted
  rw [List.length_take_of_le hi.le, Nat.sub_add_cancel h1] at hrank
  exact hrank.of_perm hperm

theorem mem_of_orderStatistic {l : List α} (h : orderStatistic l r = some v) : v ∈ l :=
  (List.mem_insertionSort (· ≤ ·)).1 (List.mem_of_getElem? h)

/-- The least element has rank one. -/
theorem hasRank_one {l : List α} (hv : v ∈ l) (h : ∀ x ∈ l, v ≤ x) : HasRank l 1 v := by
  constructor
  · rw [Nat.lt_one_iff, List.countP_eq_zero]
    exact fun x hx => by simpa using h x hx
  · rw [Nat.one_le_iff_ne_zero, ← Nat.pos_iff_ne_zero, List.countP_pos_iff]
    exact ⟨v, hv, by simp⟩

/-- The greatest element has the last rank. -/
theorem hasRank_length {l : List α} (hv : v ∈ l) (h : ∀ x ∈ l, x ≤ v) :
    HasRank l l.length v := by
  constructor
  · refine lt_of_le_of_ne List.countP_le_length fun he => ?_
    have := List.countP_eq_length.1 he v hv
    simp at this
  · rw [List.countP_eq_length.2]
    exact fun x hx => by simpa using h x hx

/-- A monotone classification puts the element of a rank into the class at which the cumulated
sizes reach the rank. -/
theorem HasRank.class_eq {l : List α} {f : α → ℕ} (hf : Monotone f) (h : HasRank l r v)
    (h1 : l.countP (f · < i) < r) (h2 : r ≤ l.countP (f · ≤ i)) : f v = i := by
  obtain ⟨hlt, hle⟩ := h
  rcases lt_trichotomy (f v) i with hfv | hfv | hfv
  · have : l.countP (· ≤ v) ≤ l.countP (f · < i) := List.countP_mono_left fun x _ hx => by
      simp only [decide_eq_true_eq] at hx ⊢
      exact (hf hx).trans_lt hfv
    omega
  · exact hfv
  · have : l.countP (f · ≤ i) ≤ l.countP (· < v) := List.countP_mono_left fun x _ hx => by
      simp only [decide_eq_true_eq] at hx ⊢
      by_contra hge
      exact absurd (hf (not_lt.1 hge)) (by omega)
    omega

/-- An increasing list starts with its least element. -/
theorem head?_eq_of_le {l : List α} (hl : l.Pairwise (· < ·)) (ha : a ∈ l)
    (h : ∀ b ∈ l, a ≤ b) : l.head? = some a := by
  cases l with
  | nil => cases ha
  | cons b l =>
    rcases List.mem_cons.1 ha with rfl | hm
    · rfl
    · have hlt := (List.pairwise_cons.1 hl).1 a hm
      exact absurd (h b List.mem_cons_self) (not_le.2 hlt)

/-- An increasing list ends with its greatest element. -/
theorem getLast?_eq_of_le {l : List α} (hl : l.Pairwise (· < ·)) (ha : a ∈ l)
    (h : ∀ b ∈ l, b ≤ a) : l.getLast? = some a := by
  rw [← List.head?_reverse]
  exact head?_eq_of_le (α := αᵒᵈ) (List.pairwise_reverse.2 hl) (List.mem_reverse.2 ha)
    fun b hb => h b (List.mem_reverse.1 hb)

end

/-- In a list in order every element is the last one or comes before it. -/
theorem eq_or_rel_getLast? {R : α → α → Prop} {l : List α} (h : l.Pairwise R)
    (hb : l.getLast? = some b) (ha : a ∈ l) : a = b ∨ R a b := by
  obtain ⟨before, rfl⟩ := List.getLast?_eq_some_iff.1 hb
  rcases List.mem_append.1 ha with ha | ha
  · exact .inr ((List.pairwise_append.1 h).2.2 a ha b List.mem_cons_self)
  · exact .inl (List.mem_singleton.1 ha)

/-- In a list in order every element is the first one or comes after it. -/
theorem eq_or_rel_head? {R : α → α → Prop} {l : List α} (h : l.Pairwise R)
    (hb : l.head? = some b) (ha : a ∈ l) : a = b ∨ R b a := by
  obtain ⟨rest, rfl⟩ := List.head?_eq_some_iff.1 hb
  rcases List.mem_cons.1 ha with ha | ha
  · exact .inl ha
  · exact .inr ((List.pairwise_cons.1 h).1 a ha)

theorem countP_lt_succ (l : List α) (f : α → ℕ) (k : ℕ) :
    l.countP (f · < k + 1) = l.countP (f · < k) + l.countP (f · = k) := by
  induction l with
  | nil => rfl
  | cons x l ih =>
    simp only [List.countP_cons, ih, decide_eq_true_eq]
    split_ifs <;> omega

/-- The sizes of the first classes add up to the number of elements in them. -/
theorem sum_class_sizes (l : List α) (f : α → ℕ) (k : ℕ) :
    ((List.range k).map fun i => l.countP (f · = i)).sum = l.countP (f · < k) := by
  induction k with
  | zero => simp
  | succ k ih =>
    rw [List.range_succ, List.map_append, List.sum_append, ih]
    simp only [List.map_cons, List.map_nil, List.sum_cons, List.sum_nil, add_zero]
    exact (countP_lt_succ l f k).symm

end RoboticsRuntime.Theory
