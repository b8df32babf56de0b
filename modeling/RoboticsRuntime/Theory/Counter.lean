import Mathlib.Algebra.BigOperators.Group.Finset.Basic
import Mathlib.Algebra.BigOperators.Group.List.Basic
import Mathlib.Algebra.Ring.Nat
import RoboticsRuntime.Theory.Dictionary

/-!
# Counters

A dictionary of counts, in which a missing key counts 0.
-/

namespace RoboticsRuntime.Theory

variable {κ : Type} [DecidableEq κ] {counter counter' : List (κ × ℕ)}

/-- The count of a key. -/
def countOf (counter : List (κ × ℕ)) (key : κ) : ℕ := (counter.lookup key).getD 0

/-- `counter[key] += 1`. -/
def increment (counter : List (κ × ℕ)) (key : κ) : List (κ × ℕ) :=
  assign counter key (countOf counter key + 1)

/-- `counter[key] += count`. -/
def addCount (counter : List (κ × ℕ)) (entry : κ × ℕ) : List (κ × ℕ) :=
  assign counter entry.1 (countOf counter entry.1 + entry.2)

/-- `sum(counter.values())`. -/
def totalCount (counter : List (κ × ℕ)) : ℕ := (counter.map (·.2)).sum

/-- `+counter`: the positive counts. -/
def positiveCounts (counter : List (κ × ℕ)) : List (κ × ℕ) := counter.filter fun entry => 0 < entry.2

/-- `counter == counter'`: all counts agree. -/
def CountsAgree (counter counter' : List (κ × ℕ)) : Prop :=
  ∀ entry ∈ counter ++ counter', countOf counter entry.1 = countOf counter' entry.1

instance : Decidable (CountsAgree counter counter') :=
  inferInstanceAs (Decidable (∀ entry ∈ _, _))

theorem countOf_of_not_mem {key : κ} (h : key ∉ counter.map (·.1)) : countOf counter key = 0 := by
  rw [countOf, lookup_eq_none.2 h, Option.getD_none]

theorem countOf_increment (counter : List (κ × ℕ)) (key key' : κ) :
    countOf (increment counter key) key' =
      countOf counter key' + if key' = key then 1 else 0 := by
  rw [increment, countOf, lookup_assign]
  split
  · next h => rw [h, Option.getD_some]
  · rfl

theorem nodup_increment (h : (counter.map (·.1)).Nodup) (key : κ) :
    ((increment counter key).map (·.1)).Nodup := nodup_assign h key _

/-- The new count of a key replaces its old one in the total. -/
theorem totalCount_assign (h : (counter.map (·.1)).Nodup) (key : κ) (value : ℕ) :
    totalCount (assign counter key value) + countOf counter key = totalCount counter + value := by
  by_cases hm : key ∈ counter.map (·.1)
  · rw [assign, if_pos hm, totalCount, totalCount, List.map_map]
    induction counter with
    | nil => cases hm
    | cons entry counter ih =>
      obtain ⟨hentry, hcounter⟩ := List.nodup_cons.1 h
      by_cases hkey : entry.1 = key
      · have hrest : (counter.map fun entry => (if entry.1 = key then (key, value) else entry).2) =
            counter.map (·.2) := by
          refine List.map_congr_left fun other hother => ?_
          rw [if_neg fun he => hentry ?_]
          exact List.mem_map.2 ⟨other, hother, he.trans hkey.symm⟩
        have hcount : countOf (entry :: counter) key = entry.2 := by
          rw [countOf, List.lookup_cons, beq_iff_eq.2 hkey.symm]
          rfl
        have hrest' : ((fun entry => entry.2) ∘ fun entry : κ × ℕ =>
            if entry.1 = key then (key, value) else entry) =
            fun entry => (if entry.1 = key then (key, value) else entry).2 := rfl
        rw [hrest', List.map_cons, hrest, hcount, if_pos hkey, List.map_cons, List.sum_cons,
          List.sum_cons]
        omega
      · have hm' : key ∈ counter.map (·.1) :=
          (List.mem_cons.1 hm).resolve_left fun he => hkey he.symm
        have hne : (key == entry.1) = false := beq_eq_false_iff_ne.2 (Ne.symm hkey)
        have hcount : countOf (entry :: counter) key = countOf counter key := by
          rw [countOf, List.lookup_cons, hne]
          rfl
        have ih := ih hcounter hm'
        rw [List.map_cons, List.map_cons, List.sum_cons, List.sum_cons, hcount]
        simp only [Function.comp_apply, if_neg hkey]
        omega
  · rw [assign, if_neg hm, countOf_of_not_mem hm]
    simp [totalCount]

theorem totalCount_increment (h : (counter.map (·.1)).Nodup) (key : κ) :
    totalCount (increment counter key) = totalCount counter + 1 := by
  have hassign := totalCount_assign h key (countOf counter key + 1)
  rw [increment]
  omega

theorem countOf_positiveCounts (h : (counter.map (·.1)).Nodup) (key : κ) :
    countOf (positiveCounts counter) key = countOf counter key := by
  have hpositive : ((positiveCounts counter).map (·.1)).Nodup :=
    h.sublist (List.filter_sublist.map _)
  cases hlookup : counter.lookup key with
  | none =>
    have hm : key ∉ (positiveCounts counter).map (·.1) := fun hm =>
      lookup_eq_none.1 hlookup ((List.filter_sublist.map _).subset hm)
    rw [countOf_of_not_mem hm, countOf, hlookup, Option.getD_none]
  | some value =>
    rw [countOf, countOf, hlookup, Option.getD_some]
    by_cases hvalue : 0 < value
    · rw [lookup_of_mem hpositive (List.mem_filter.2 ⟨mem_of_lookup hlookup, by simpa using hvalue⟩),
        Option.getD_some]
    · have hm : key ∉ (positiveCounts counter).map (·.1) := by
        rintro hm
        obtain ⟨⟨_, other⟩, hother, rfl⟩ := List.mem_map.1 hm
        obtain ⟨hmem, hpos⟩ := List.mem_filter.1 hother
        rw [lookup_of_mem h hmem] at hlookup
        obtain rfl := Option.some.inj hlookup
        exact hvalue (by simpa using hpos)
      rw [lookup_eq_none.2 hm, Option.getD_none]
      omega

/-- Counters are equal when every key has the same count. -/
theorem countsAgree_iff :
    CountsAgree counter counter' ↔ ∀ key, countOf counter key = countOf counter' key := by
  constructor
  · intro h key
    by_cases hm : key ∈ (counter ++ counter').map (·.1)
    · obtain ⟨entry, hentry, rfl⟩ := List.mem_map.1 hm
      exact h entry hentry
    · rw [List.map_append, List.mem_append, not_or] at hm
      rw [countOf_of_not_mem hm.1, countOf_of_not_mem hm.2]
  · exact fun h entry _ => h entry.1

/-- A run of additions adds all counts to the total. -/
theorem foldl_addCount (h : (counter.map (·.1)).Nodup) (entries : List (κ × ℕ)) :
    ((entries.foldl addCount counter).map (·.1)).Nodup ∧
      totalCount (entries.foldl addCount counter) = totalCount counter + totalCount entries := by
  induction entries generalizing counter with
  | nil => exact ⟨h, rfl⟩
  | cons entry entries ih =>
    have hassign := totalCount_assign h entry.1 (countOf counter entry.1 + entry.2)
    have hadded : ((addCount counter entry).map (·.1)).Nodup := nodup_assign h _ _
    obtain ⟨hnodup, htotal⟩ := ih hadded
    refine ⟨hnodup, ?_⟩
    rw [List.foldl_cons, htotal, addCount]
    simp only [totalCount, List.map_cons, List.sum_cons] at hassign ⊢
    omega

/-- The total is the sum of the counts over any keys that include those of the counter. -/
theorem totalCount_eq_sum (h : (counter.map (·.1)).Nodup) {keys : Finset κ}
    (hkeys : ∀ entry ∈ counter, entry.1 ∈ keys) : totalCount counter = ∑ key ∈ keys, countOf counter key := by
  have hsubset : (counter.map (·.1)).toFinset ⊆ keys := by
    intro key hkey
    obtain ⟨entry, hentry, rfl⟩ := List.mem_map.1 (List.mem_toFinset.1 hkey)
    exact hkeys entry hentry
  calc totalCount counter = ((counter.map (·.1)).map (countOf counter)).sum := by
        rw [totalCount, List.map_map]
        refine congrArg List.sum (List.map_congr_left fun entry hentry => ?_)
        rw [Function.comp_apply, countOf, lookup_of_mem h hentry, Option.getD_some]
    _ = ∑ key ∈ (counter.map (·.1)).toFinset, countOf counter key := (List.sum_toFinset _ h).symm
    _ = ∑ key ∈ keys, countOf counter key :=
        Finset.sum_subset hsubset fun key _ hkey =>
          countOf_of_not_mem fun hm => hkey (List.mem_toFinset.2 hm)

/-- Equal counters have equal totals. -/
theorem CountsAgree.totalCount_eq (h : (counter.map (·.1)).Nodup)
    (h' : (counter'.map (·.1)).Nodup) (hagree : CountsAgree counter counter') :
    totalCount counter = totalCount counter' := by
  have hkeys (entry : κ × ℕ) (hentry : entry ∈ counter ++ counter') :
      entry.1 ∈ ((counter ++ counter').map (·.1)).toFinset :=
    List.mem_toFinset.2 (List.mem_map_of_mem hentry)
  rw [totalCount_eq_sum h fun entry hentry => hkeys entry (List.mem_append_left _ hentry),
    totalCount_eq_sum h' fun entry hentry => hkeys entry (List.mem_append_right _ hentry)]
  exact Finset.sum_congr rfl fun key _ => countsAgree_iff.1 hagree key

end RoboticsRuntime.Theory
