import Mathlib.Data.List.Dedup
import Mathlib.Data.List.Sort
import RoboticsRuntime.Theory.Checks

/-!
# Sorting by a key without ties

Where the elements of a list have distinct keys, sorting it by the key depends on its elements only:
the position of an element is its rank, the number of elements with a smaller key.
-/

namespace RoboticsRuntime.Theory

variable {α β κ κ' : Type} [LinearOrder κ] [LinearOrder κ'] {key : α → κ} {key' : β → κ'}
  {l : List α}

/-- The number of elements with a smaller key. -/
def keyRank (key : α → κ) (l : List α) (a : α) : ℕ := l.countP fun b => key b < key a

/-- The elements in the order of their keys. -/
def sortBy (key : α → κ) (l : List α) : List α := l.insertionSort fun a b => key a ≤ key b

theorem keyRank_of_perm (h : l.Perm l') (a : α) : keyRank key l a = keyRank key l' a := h.countP_eq _

theorem sortBy_perm (key : α → κ) (l : List α) : (sortBy key l).Perm l :=
  List.perm_insertionSort _ l

theorem mem_sortBy {a : α} : a ∈ sortBy key l ↔ a ∈ l := (sortBy_perm key l).mem_iff

theorem map_sortBy (key : β → κ) (f : α → β) (l : List α) :
    sortBy key (l.map f) = (sortBy (fun a => key (f a)) l).map f :=
  (List.map_insertionSort _ _ f l fun _ _ _ _ => Iff.rfl).symm

/-- A sorted list stays as it is. -/
theorem sortBy_sortBy (key : α → κ) (l : List α) : sortBy key (sortBy key l) = sortBy key l := by
  have : Std.Total fun a b : α => key a ≤ key b := ⟨fun a b => le_total (key a) (key b)⟩
  have : IsTrans α fun a b => key a ≤ key b := ⟨fun _ _ _ => le_trans⟩
  exact (List.pairwise_insertionSort (fun a b => key a ≤ key b) l).insertionSort_eq

theorem pairwise_le_sortBy (key : α → κ) (l : List α) :
    (sortBy key l).Pairwise fun a b => key a ≤ key b := by
  have : Std.Total fun a b : α => key a ≤ key b := ⟨fun a b => le_total (key a) (key b)⟩
  have : IsTrans α fun a b => key a ≤ key b := ⟨fun _ _ _ => le_trans⟩
  exact List.pairwise_insertionSort _ l

theorem pairwise_sortBy (h : Distinct key l) :
    (sortBy key l).Pairwise fun a b => key a < key b := by
  have hle := pairwise_le_sortBy key l
  have hne : (sortBy key l).Pairwise fun a b => key a ≠ key b :=
    List.pairwise_map.1 (((sortBy_perm key l).map key).nodup_iff.2 h)
  exact (hle.and hne).imp fun h => lt_of_le_of_ne h.1 h.2

/-- Lists of the same elements with distinct keys are sorted to the same list. -/
theorem sortBy_eq_of_perm (h : Distinct key l) (hperm : l.Perm l') : sortBy key l = sortBy key l' := by
  have h' : Distinct key l' := ((hperm.map key).nodup_iff.1 h)
  refine List.Perm.eq_of_pairwise (fun a b _ _ hab hba => ?_) (pairwise_sortBy h)
    (pairwise_sortBy h') (((sortBy_perm key l).trans hperm).trans (sortBy_perm key l').symm)
  exact absurd hab (lt_asymm hba)

/-- Where the key determines the element, ties are between equal elements. -/
theorem sortBy_eq_of_perm_of_injective (hkey : Function.Injective key) (hperm : l.Perm l') :
    sortBy key l = sortBy key l' := by
  refine List.Perm.eq_of_pairwise (fun a b _ _ hab hba => hkey (le_antisymm hab hba))
    (pairwise_le_sortBy key l) (pairwise_le_sortBy key l')
    (((sortBy_perm key l).trans hperm).trans (sortBy_perm key l').symm)

/-- A lookup by the key depends on the elements only as well. -/
theorem find?_key_of_perm (h : Distinct key l) (hperm : l.Perm l') (k : κ) :
    l.find? (fun a => key a = k) = l'.find? (fun a => key a = k) := by
  have h' : Distinct key l' := (hperm.map key).nodup_iff.1 h
  cases hf : l.find? (fun a => key a = k) with
  | none =>
    symm
    apply List.find?_eq_none.2
    intro a ha
    exact List.find?_eq_none.1 hf a (hperm.mem_iff.2 ha)
  | some a =>
    have hk : key a = k := by simpa using List.find?_some hf
    rw [← hk, h'.find?_eq (hperm.mem_iff.1 (List.mem_of_find?_eq_some hf))]

/-- The elements of a list in order, each of them once. -/
def sortedDistinct (l : List κ) : List κ := sortBy id l.dedup

@[simp] theorem mem_sortedDistinct {l : List κ} {a : κ} : a ∈ sortedDistinct l ↔ a ∈ l := by
  rw [sortedDistinct, mem_sortBy, List.mem_dedup]

/-- Only the set of the elements counts. -/
theorem sortedDistinct_congr {l l' : List κ} (h : ∀ a, a ∈ l ↔ a ∈ l') :
    sortedDistinct l = sortedDistinct l' :=
  sortBy_eq_of_perm (by simpa [Distinct] using l.nodup_dedup)
    ((List.perm_ext_iff_of_nodup l.nodup_dedup l'.nodup_dedup).2 fun a => by
      rw [List.mem_dedup, List.mem_dedup, h])

/-- In a list in the order of its keys, the rank of an element is its position. -/
theorem getElem?_eq_some_iff_rank (h : l.Pairwise fun a b => key a < key b) {k : ℕ} {a : α} :
    l[k]? = some a ↔ a ∈ l ∧ keyRank key l a = k := by
  induction l generalizing k with
  | nil => simp
  | cons b l ih =>
    obtain ⟨hb, hl⟩ := List.pairwise_cons.1 h
    have hfirst : keyRank key (b :: l) b = 0 := List.countP_eq_zero.2 fun c hc => by
      rcases List.mem_cons.1 hc with rfl | hc
      · simp
      · simpa using (hb c hc).le
    have hrest : ∀ c ∈ l, keyRank key (b :: l) c = keyRank key l c + 1 := fun c hc =>
      List.countP_cons_of_pos (by simpa using hb c hc)
    cases k with
    | zero =>
      rw [List.getElem?_cons_zero, Option.some.injEq]
      constructor
      · rintro rfl
        exact ⟨List.mem_cons_self, hfirst⟩
      · rintro ⟨hm, hzero⟩
        rcases List.mem_cons.1 hm with rfl | hm
        · rfl
        · rw [hrest a hm] at hzero
          cases hzero
    | succ k =>
      rw [List.getElem?_cons_succ, ih hl]
      constructor
      · rintro ⟨hm, rfl⟩
        exact ⟨List.mem_cons_of_mem b hm, hrest a hm⟩
      · rintro ⟨hm, hk⟩
        rcases List.mem_cons.1 hm with rfl | hm
        · rw [hfirst] at hk
          cases hk
        · rw [hrest a hm] at hk
          exact ⟨hm, Nat.succ.inj hk⟩

theorem getElem?_sortBy (h : Distinct key l) {k : ℕ} {a : α} :
    (sortBy key l)[k]? = some a ↔ a ∈ l ∧ keyRank key l a = k := by
  rw [getElem?_eq_some_iff_rank (pairwise_sortBy h), mem_sortBy, keyRank_of_perm (sortBy_perm key l)]

theorem eq_of_rank_eq (h : Distinct key l) {a b : α} (ha : a ∈ l) (hb : b ∈ l)
    (heq : keyRank key l a = keyRank key l b) : a = b :=
  Option.some.inj (((getElem?_sortBy h).2 ⟨ha, heq⟩).symm.trans ((getElem?_sortBy h).2 ⟨hb, rfl⟩))

/-- Ranks are in the order of the keys. -/
theorem rank_lt_iff (h : Distinct key l) {a b : α} (ha : a ∈ l) (hb : b ∈ l) :
    keyRank key l a < keyRank key l b ↔ key a < key b := by
  have hlt : ∀ {a b : α}, a ∈ l → b ∈ l → keyRank key l a < keyRank key l b → key a < key b := by
    intro a b ha hb hrank
    obtain ⟨hi, hai⟩ := List.getElem?_eq_some_iff.1 ((getElem?_sortBy h).2 ⟨ha, rfl⟩)
    obtain ⟨hj, hbj⟩ := List.getElem?_eq_some_iff.1 ((getElem?_sortBy h).2 ⟨hb, rfl⟩)
    have := List.pairwise_iff_getElem.1 (pairwise_sortBy h) _ _ hi hj hrank
    rwa [hai, hbj] at this
  refine ⟨hlt ha hb, fun hkey => ?_⟩
  rcases lt_trichotomy (keyRank key l a) (keyRank key l b) with hrank | hrank | hrank
  · exact hrank
  · rw [eq_of_rank_eq h ha hb hrank] at hkey
    exact absurd hkey (lt_irrefl _)
  · exact absurd (hlt hb ha hrank) (lt_asymm hkey)

/-- Two sorted lists side by side pair the elements of equal rank. -/
theorem mem_zip_sortBy {m : List β} (h : Distinct key l) (h' : Distinct key' m) {a : α} {b : β} :
    (a, b) ∈ (sortBy key l).zip (sortBy key' m) ↔
      a ∈ l ∧ b ∈ m ∧ keyRank key l a = keyRank key' m b := by
  rw [List.mem_iff_getElem?]
  simp only [List.getElem?_zip_eq_some, getElem?_sortBy h, getElem?_sortBy h']
  constructor
  · rintro ⟨k, ⟨ha, hka⟩, hb, hkb⟩
    exact ⟨ha, hb, hka.trans hkb.symm⟩
  · rintro ⟨ha, hb, heq⟩
    exact ⟨_, ⟨ha, heq⟩, hb, rfl⟩

/-- No element is paired twice. -/
theorem nodup_zip_sortBy {m : List β} (h : Distinct key l) :
    ((sortBy key l).zip (sortBy key' m)).Nodup := by
  have hnodup : (sortBy key l).Nodup := (sortBy_perm key l).nodup_iff.2 h.of_map
  rw [List.Nodup, List.pairwise_iff_getElem]
  intro i j hi hj hij heq
  have hfst := congrArg Prod.fst heq
  simp only [List.getElem_zip] at hfst
  exact List.pairwise_iff_getElem.1 hnodup i j _ _ hij hfst

/-! ## Elements below an earlier one -/

/-- The number of positions whose element lies below the greatest one before it. -/
def belowRunningMaximum (l : List ℕ) : ℕ :=
  (List.range l.length).countP fun k => l.getD k 0 < (l.take k).max?.getD 0

theorem lt_max?_getD {l : List ℕ} {x : ℕ} : x < l.max?.getD 0 ↔ ∃ y ∈ l, x < y := by
  cases hmax : l.max? with
  | none => simp [List.max?_eq_none_iff.1 hmax]
  | some m =>
    obtain ⟨hm, hle⟩ := List.max?_eq_some_iff.1 hmax
    rw [Option.getD_some]
    exact ⟨fun h => ⟨m, hm, h⟩, fun ⟨y, hy, h⟩ => h.trans_le (hle y hy)⟩

/-- No element lies below an earlier one when the list is in order. -/
theorem belowRunningMaximum_eq_zero {l : List ℕ} :
    belowRunningMaximum l = 0 ↔ l.Pairwise (· ≤ ·) := by
  rw [belowRunningMaximum, List.countP_eq_zero, List.pairwise_iff_getElem]
  simp only [List.mem_range, decide_eq_true_eq, lt_max?_getD, not_exists, not_and, not_lt]
  constructor
  · intro h i j hi hj hij
    have hle := h j hj l[i] (List.mem_take_iff_getElem.2 ⟨i, by omega, rfl⟩)
    rwa [List.getD_eq_getElem?_getD, List.getElem?_eq_getElem hj, Option.getD_some] at hle
  · intro h k hk y hy
    obtain ⟨i, hi, rfl⟩ := List.mem_take_iff_getElem.1 hy
    rw [List.getD_eq_getElem?_getD, List.getElem?_eq_getElem hk, Option.getD_some]
    exact h i k (by omega) hk (by omega)

end RoboticsRuntime.Theory
