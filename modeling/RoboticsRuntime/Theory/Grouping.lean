import Mathlib.Algebra.BigOperators.Group.Finset.Basic
import Mathlib.Algebra.Order.BigOperators.Group.Finset
import Mathlib.Algebra.Ring.Nat
import Mathlib.Data.List.Nodup
import Mathlib.Data.List.Perm.Basic

/-!
# Grouping a list by a key

The dictionary that a loop over a list fills by appending each element to the entry of its key:
keys in the order of their first element, and under each key its elements in order.
-/

namespace RoboticsRuntime.Theory

variable {α β κ : Type}

/-- Disjoint tests select their elements side by side. -/
theorem filter_append_filter_perm {p q : β → Bool} {l : List β}
    (h : ∀ b ∈ l, ¬ (p b = true ∧ q b = true)) :
    (l.filter p ++ l.filter q).Perm (l.filter fun b => p b || q b) := by
  induction l with
  | nil => exact .nil
  | cons b l ih =>
    have ih := ih fun b hb => h b (List.mem_cons_of_mem _ hb)
    have hb := h b List.mem_cons_self
    cases hp : p b with
    | true =>
      have hq : ¬ q b = true := fun hq => hb ⟨hp, hq⟩
      rw [List.filter_cons_of_pos hp, List.filter_cons_of_neg hq,
        List.filter_cons_of_pos (by simp [hp])]
      exact ih.cons b
    | false =>
      cases hq : q b with
      | true =>
        rw [List.filter_cons_of_neg (by simp [hp]), List.filter_cons_of_pos hq,
          List.filter_cons_of_pos (by simp [hq])]
        exact List.perm_middle.trans (ih.cons b)
      | false =>
        rw [List.filter_cons_of_neg (by simp [hp]), List.filter_cons_of_neg (by simp [hq]),
          List.filter_cons_of_neg (by simp [hp, hq])]
        exact ih

/-- What pairwise disjoint tests select one after another is what one of them selects. -/
theorem flatMap_filter_perm (p : α → β → Prop) [∀ a, DecidablePred (p a)] {l : List α} (m : List β)
    (h : l.Pairwise fun a b => ∀ x, ¬ (p a x ∧ p b x)) :
    (l.flatMap fun a => m.filter fun x => p a x).Perm (m.filter fun x => ∃ a ∈ l, p a x) := by
  induction l with
  | nil => simp
  | cons a l ih =>
    obtain ⟨ha, hl⟩ := List.pairwise_cons.1 h
    rw [List.flatMap_cons]
    refine ((ih hl).append_left _).trans ((filter_append_filter_perm ?_).trans ?_)
    · intro x _ hx
      simp only [decide_eq_true_eq] at hx
      obtain ⟨hxa, b, hb, hxb⟩ := hx
      exact ha b hb x ⟨hxa, hxb⟩
    · apply List.Perm.of_eq
      apply List.filter_congr
      intro x _
      simp

variable [DecidableEq κ]

/-- The distinct elements of a list, each at its first occurrence. -/
def firsts : List κ → List κ
  | [] => []
  | k :: ks => k :: (firsts ks).filter (· ≠ k)

@[simp] theorem mem_firsts {k : κ} {ks : List κ} : k ∈ firsts ks ↔ k ∈ ks := by
  induction ks with
  | nil => simp [firsts]
  | cons k' ks ih =>
    simp only [firsts, List.mem_cons, List.mem_filter, ih, decide_eq_true_eq]
    by_cases h : k = k' <;> simp [h]

theorem nodup_firsts (ks : List κ) : (firsts ks).Nodup := by
  induction ks with
  | nil => exact List.nodup_nil
  | cons k ks ih => exact List.nodup_cons.2 ⟨by simp, ih.filter _⟩

/-- The elements of `l` by their keys. -/
def groups (key : α → κ) (l : List α) : List (κ × List α) :=
  (firsts (l.map key)).map fun k => (k, l.filter fun a => key a = k)

variable {key : α → κ} {l : List α}

theorem mem_groups {g : κ × List α} :
    g ∈ groups key l ↔ (∃ a ∈ l, key a = g.1) ∧ g.2 = l.filter fun a => key a = g.1 := by
  obtain ⟨k, as⟩ := g
  dsimp only
  simp only [groups, List.mem_map, mem_firsts, Prod.mk.injEq]
  constructor
  · rintro ⟨k', hk, rfl, rfl⟩
    exact ⟨hk, rfl⟩
  · rintro ⟨hk, h⟩
    exact ⟨k, hk, rfl, h.symm⟩

theorem mem_of_mem_groups {g : κ × List α} (hg : g ∈ groups key l) {a : α} (ha : a ∈ g.2) :
    a ∈ l ∧ key a = g.1 := by
  rw [(mem_groups.1 hg).2, List.mem_filter] at ha
  exact ⟨ha.1, by simpa using ha.2⟩

/-- Every element has a group. -/
theorem exists_mem_groups (key : α → κ) {a : α} (ha : a ∈ l) : ∃ g ∈ groups key l, g.1 = key a :=
  ⟨(key a, l.filter fun b => key b = key a), mem_groups.2 ⟨⟨a, ha, rfl⟩, rfl⟩, rfl⟩

/-- No group is empty. -/
theorem groups_ne_nil {g : κ × List α} (hg : g ∈ groups key l) : g.2 ≠ [] := by
  obtain ⟨⟨a, ha, hk⟩, h⟩ := mem_groups.1 hg
  rw [h]
  exact List.ne_nil_of_mem (List.mem_filter.2 ⟨ha, by simpa using hk⟩)

/-- No key has two groups. -/
theorem distinct_groups : ((groups key l).map (·.1)).Nodup := by
  simpa [groups, List.map_map, Function.comp_def] using nodup_firsts (l.map key)

/-- The groups hold the elements of the list. -/
theorem groups_perm (key : α → κ) (l : List α) : ((groups key l).flatMap (·.2)).Perm l := by
  have hdisjoint : (firsts (l.map key)).Pairwise fun k k' => ∀ a, ¬ (key a = k ∧ key a = k') :=
    (nodup_firsts _).imp fun hne a h => hne (h.1.symm.trans h.2)
  have hall : l.filter (fun a => ∃ k ∈ firsts (l.map key), key a = k) = l := by
    apply List.filter_eq_self.2
    intro a ha
    simpa using ⟨a, ha, rfl⟩
  have h := flatMap_filter_perm (fun k a => key a = k) l hdisjoint
  rw [hall] at h
  rwa [groups, List.flatMap_map]

/-! ## Groups of two lists

What two lists have in common, and what one has beyond the other, counted key by key.
-/

/-- The group of a key is empty when no element has it. -/
theorem lookup_groups (key : α → κ) (l : List α) (k : κ) :
    ((groups key l).lookup k).getD [] = l.filter fun a => key a = k := by
  have hlookup : ∀ ks : List κ,
      ((ks.map fun k => (k, l.filter fun a => key a = k)).lookup k).getD [] =
        if k ∈ ks then l.filter fun a => key a = k else [] := by
    intro ks
    induction ks with
    | nil => rfl
    | cons k' ks ih =>
      rw [List.map_cons, List.lookup_cons]
      rcases eq_or_ne k k' with rfl | hne
      · simp
      · rw [beq_eq_false_iff_ne.2 hne]
        simpa [hne] using ih
  rw [groups, hlookup]
  split_ifs with hk
  · rfl
  · rw [mem_firsts, List.mem_map] at hk
    symm
    apply List.filter_eq_nil_iff.2
    intro a ha hka
    exact hk ⟨a, ha, by simpa using hka⟩

/-- A sum over the groups is a sum over the keys. -/
theorem sum_groups (key : α → κ) (l : List α) (f : ℕ → κ → ℕ) :
    ((groups key l).map fun g => f g.2.length g.1).sum =
      ∑ k ∈ (l.map key : Multiset κ).toFinset, f ((l.map key : Multiset κ).count k) k := by
  have hkeys : (firsts (l.map key)).toFinset = (l.map key).toFinset := by
    ext k
    simp
  have hlength : ∀ k, (l.filter fun a => key a = k).length = (l.map key).count k := by
    intro k
    rw [← List.countP_eq_length_filter, List.count, List.countP_map]
    exact List.countP_congr fun a _ => by simp
  rw [List.toFinset_coe, ← hkeys, List.sum_toFinset _ (nodup_firsts _), groups, List.map_map]
  simp only [Function.comp_def, hlength, Multiset.coe_count]

/-- What is in a multiset beyond another, key by key. -/
theorem card_sub_eq_sum (s t : Multiset κ) :
    (s - t).card = ∑ k ∈ s.toFinset, (s.count k - t.count k) := by
  rw [← Multiset.toFinset_sum_count_eq]
  simp only [Multiset.count_sub]
  apply Finset.sum_subset
  · intro k hk
    rw [Multiset.mem_toFinset] at hk ⊢
    exact Multiset.mem_of_le (Multiset.sub_le_self _ _) hk
  · intro k _ hk
    rw [Multiset.mem_toFinset, ← Multiset.count_eq_zero, Multiset.count_sub] at hk
    exact hk

/-- What two multisets have in common, key by key. -/
theorem card_inter_eq_sum (s t : Multiset κ) :
    (s ∩ t).card = ∑ k ∈ s.toFinset, min (s.count k) (t.count k) := by
  rw [← Multiset.toFinset_sum_count_eq]
  simp only [Multiset.count_inter]
  apply Finset.sum_subset
  · intro k hk
    rw [Multiset.mem_toFinset] at hk ⊢
    exact (Multiset.mem_inter.1 hk).1
  · intro k _ hk
    rw [Multiset.mem_toFinset, ← Multiset.count_eq_zero, Multiset.count_inter] at hk
    exact hk

end RoboticsRuntime.Theory
