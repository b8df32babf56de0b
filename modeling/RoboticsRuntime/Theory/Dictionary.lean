import Mathlib.Data.List.Dedup
import Mathlib.Data.List.Perm.Subperm
import Mathlib.Data.List.Range

/-!
# Dictionaries

A dictionary is the list of its items in the order of their insertion. `setDefault` keeps the first
value of a key, so that a run of insertions leaves the first entry of every key; a search for an
unused key ends when the candidates differ.
-/

namespace RoboticsRuntime.Theory

variable {κ ν : Type} [DecidableEq κ]

/-- `dict.setdefault`. -/
def setDefault (dict : List (κ × ν)) (key : κ) (value : ν) : List (κ × ν) :=
  if key ∈ dict.map (·.1) then dict else dict ++ [(key, value)]

/-- The entries whose key has no entry before them. -/
def firstEntries : List (κ × ν) → List (κ × ν)
  | [] => []
  | entry :: entries => entry :: (firstEntries entries).filter (·.1 ≠ entry.1)

/-- A run of `setdefault` leaves the first entry of each key. -/
theorem foldl_setDefault (dict entries : List (κ × ν)) :
    entries.foldl (fun dict entry => setDefault dict entry.1 entry.2) dict =
      dict ++ (firstEntries entries).filter (·.1 ∉ dict.map (·.1)) := by
  induction entries generalizing dict with
  | nil => simp [firstEntries]
  | cons entry entries ih =>
    rw [List.foldl_cons, ih, firstEntries]
    unfold setDefault
    split
    · next hm =>
      rw [List.filter_cons_of_neg (by simpa using hm), List.filter_filter]
      congr 1
      apply List.filter_congr
      intro e _
      rw [Bool.eq_iff_iff]
      simp only [Bool.and_eq_true, decide_eq_true_eq]
      exact ⟨fun h => ⟨h, fun he => h (he ▸ hm)⟩, fun h => h.1⟩
    · next hm =>
      rw [List.filter_cons_of_pos (by simpa using hm), List.filter_filter, List.append_assoc,
        List.singleton_append]
      congr 2
      apply List.filter_congr
      intro e _
      rw [Bool.eq_iff_iff]
      simp only [Bool.and_eq_true, decide_eq_true_eq, List.map_append, List.mem_append,
        List.map_cons, List.map_nil, List.mem_singleton, not_or]

theorem firstEntries_eq_nil {entries : List (κ × ν)} : firstEntries entries = [] ↔ entries = [] := by
  cases entries <;> simp [firstEntries]

/-! ## Lookups -/

theorem mem_of_lookup {dict : List (κ × ν)} {key : κ} {value : ν}
    (h : dict.lookup key = some value) : (key, value) ∈ dict := by
  obtain ⟨before, after, rfl, -⟩ := List.lookup_eq_some_iff.1 h
  exact List.mem_append_right _ List.mem_cons_self

/-- Where no key has two entries, a lookup finds every entry. -/
theorem lookup_of_mem {dict : List (κ × ν)} (hnodup : (dict.map (·.1)).Nodup) {key : κ} {value : ν}
    (h : (key, value) ∈ dict) : dict.lookup key = some value := by
  obtain ⟨before, after, rfl⟩ := List.append_of_mem h
  refine List.lookup_eq_some_iff.2 ⟨before, after, rfl, fun entry hentry => ?_⟩
  rw [List.map_append, List.nodup_append] at hnodup
  have hne := hnodup.2.2 entry.1 (List.mem_map_of_mem hentry) key (by simp)
  simpa using hne.symm

/-- A key without a value has no entry. -/
theorem lookup_eq_none {dict : List (κ × ν)} {key : κ} :
    dict.lookup key = none ↔ key ∉ dict.map (·.1) := by
  simp only [List.lookup_eq_none_iff, bne_iff_ne, List.mem_map, not_exists, not_and]
  exact ⟨fun h entry hm he => h entry hm he.symm, fun h entry hm he => h entry hm he.symm⟩

theorem isSome_lookup {dict : List (κ × ν)} {key : κ} :
    (dict.lookup key).isSome = true ↔ key ∈ dict.map (·.1) := by
  rw [← not_iff_not, ← lookup_eq_none, Bool.not_eq_true, Option.isSome_eq_false_iff,
    Option.isNone_iff_eq_none]

theorem lookup_append (dict dict' : List (κ × ν)) (key : κ) :
    (dict ++ dict').lookup key = (dict.lookup key).or (dict'.lookup key) := by
  induction dict with
  | nil => rfl
  | cons entry dict ih =>
    rw [List.cons_append, List.lookup_cons, List.lookup_cons, ih]
    split <;> rfl

/-! ## Changes -/

/-- `dict[key] = value`: the value of a key that is there is replaced in its place. -/
def assign (dict : List (κ × ν)) (key : κ) (value : ν) : List (κ × ν) :=
  if key ∈ dict.map (·.1) then
    dict.map fun entry => if entry.1 = key then (key, value) else entry
  else dict ++ [(key, value)]

/-- `dict.pop(key, None)`. -/
def remove (dict : List (κ × ν)) (key : κ) : List (κ × ν) := dict.filter (·.1 ≠ key)

theorem mem_assign {dict : List (κ × ν)} {key : κ} {value : ν} {entry : κ × ν} :
    entry ∈ assign dict key value ↔ entry = (key, value) ∨ entry ∈ dict ∧ entry.1 ≠ key := by
  unfold assign
  split
  · next hm =>
    obtain ⟨old, hold, hkey⟩ := List.mem_map.1 hm
    rw [List.mem_map]
    constructor
    · rintro ⟨other, hother, rfl⟩
      split
      · exact .inl rfl
      · next hne => exact .inr ⟨hother, hne⟩
    · rintro (rfl | ⟨hentry, hne⟩)
      · exact ⟨old, hold, if_pos hkey⟩
      · exact ⟨entry, hentry, if_neg hne⟩
  · next hm =>
    rw [List.mem_append, List.mem_singleton]
    constructor
    · rintro (hentry | rfl)
      · exact .inr ⟨hentry, fun he => hm (he ▸ List.mem_map_of_mem hentry)⟩
      · exact .inl rfl
    · rintro (rfl | ⟨hentry, -⟩)
      · exact .inr rfl
      · exact .inl hentry

theorem keys_assign (dict : List (κ × ν)) (key : κ) (value : ν) :
    (assign dict key value).map (·.1) =
      if key ∈ dict.map (·.1) then dict.map (·.1) else dict.map (·.1) ++ [key] := by
  unfold assign
  split
  · rw [List.map_map]
    refine List.map_congr_left fun entry _ => ?_
    dsimp only [Function.comp]
    split
    · next he => exact he.symm
    · rfl
  · rw [List.map_append, List.map_cons, List.map_nil]

theorem nodup_assign {dict : List (κ × ν)} (h : (dict.map (·.1)).Nodup) (key : κ) (value : ν) :
    ((assign dict key value).map (·.1)).Nodup := by
  rw [keys_assign]
  split
  · exact h
  · next hm =>
    refine List.nodup_append.2 ⟨h, List.nodup_singleton key, fun k hk k' hk' he => hm ?_⟩
    rwa [← List.mem_singleton.1 hk', ← he]

/-- New keys are added at the end. -/
theorem foldl_assign {dict entries : List (κ × ν)}
    (h : ((dict ++ entries).map (·.1)).Nodup) :
    entries.foldl (fun dict entry => assign dict entry.1 entry.2) dict = dict ++ entries := by
  induction entries generalizing dict with
  | nil => simp
  | cons entry entries ih =>
    have hnew : entry.1 ∉ dict.map (·.1) := by
      rw [List.map_append, List.map_cons] at h
      exact fun hm => (List.nodup_append.1 h).2.2 _ hm _ List.mem_cons_self rfl
    have hassign : assign dict entry.1 entry.2 = dict ++ [entry] := by rw [assign, if_neg hnew]
    rw [List.foldl_cons, hassign, ih (by rwa [List.append_assoc, List.singleton_append]),
      List.append_assoc, List.singleton_append]

theorem nodup_remove {dict : List (κ × ν)} (h : (dict.map (·.1)).Nodup) (key : κ) :
    ((remove dict key).map (·.1)).Nodup := h.sublist (List.filter_sublist.map _)

theorem lookup_assign (dict : List (κ × ν)) (key : κ) (value : ν) (key' : κ) :
    (assign dict key value).lookup key' = if key' = key then some value else dict.lookup key' := by
  unfold assign
  split
  · next hm =>
    induction dict with
    | nil => cases hm
    | cons entry dict ih =>
      rw [List.map_cons, List.lookup_cons, List.lookup_cons]
      by_cases hentry : entry.1 = key
      · by_cases hkey : key' = key
        · simp [hentry, hkey]
        · have hne : (key' == key) = false := beq_eq_false_iff_ne.2 hkey
          have hrest : (dict.map fun entry => if entry.1 = key then (key, value) else entry).lookup
              key' = dict.lookup key' := by
            by_cases hm' : key ∈ dict.map (·.1)
            · rw [ih hm', if_neg hkey]
            · congr 1
              refine (List.map_congr_left fun e he => ?_).trans (List.map_id dict)
              rw [if_neg fun h => hm' (List.mem_map.2 ⟨e, he, h⟩)]
              rfl
          simp [hentry, hne, hrest, hkey]
      · have hm' : key ∈ dict.map (·.1) :=
          (List.mem_cons.1 hm).resolve_left fun h => hentry h.symm
        rw [if_neg hentry, ih hm']
        by_cases hkey : key' = entry.1
        · have hne : key' ≠ key := fun h => hentry (hkey.symm.trans h)
          simp [hkey, hentry]
        · have hne : (key' == entry.1) = false := beq_eq_false_iff_ne.2 hkey
          simp [hne]
  · next hm =>
    rw [lookup_append]
    by_cases hkey : key' = key
    · rw [hkey, lookup_eq_none.2 hm]
      simp
    · have hne : (key' == key) = false := beq_eq_false_iff_ne.2 hkey
      simp [List.lookup_cons, hne, hkey]

theorem lookup_remove (dict : List (κ × ν)) (key key' : κ) :
    (remove dict key).lookup key' = if key' = key then none else dict.lookup key' := by
  unfold remove
  induction dict with
  | nil => simp
  | cons entry dict ih =>
    by_cases hentry : entry.1 = key
    · rw [List.filter_cons_of_neg (by simpa using hentry), ih, List.lookup_cons]
      by_cases hkey : key' = key
      · simp [hkey]
      · have hne : (key' == entry.1) = false := beq_eq_false_iff_ne.2 (hentry ▸ hkey)
        simp [hkey, hne]
    · rw [List.filter_cons_of_pos (by simpa using hentry), List.lookup_cons, List.lookup_cons, ih]
      by_cases hkey : key' = entry.1
      · have hne : entry.1 ≠ key := hentry
        simp [hkey, hne]
      · have hne : (key' == entry.1) = false := beq_eq_false_iff_ne.2 hkey
        simp [hne]

/-- Removing a key that is not there changes nothing. -/
theorem remove_eq_self {dict : List (κ × ν)} {key : κ} (h : dict.lookup key = none) :
    remove dict key = dict := by
  refine List.filter_eq_self.2 fun entry hm => ?_
  rw [lookup_eq_none] at h
  have hne : entry.1 ≠ key := fun he => h (List.mem_map.2 ⟨entry, hm, he⟩)
  simpa using hne

/-- Assigning the value that is there changes nothing. -/
theorem assign_eq_self {dict : List (κ × ν)} (hnodup : (dict.map (·.1)).Nodup) {key : κ} {value : ν}
    (h : dict.lookup key = some value) : assign dict key value = dict := by
  have hmem := mem_of_lookup h
  rw [assign, if_pos (List.mem_map.2 ⟨_, hmem, rfl⟩)]
  refine (List.map_congr_left fun entry hm => ?_).trans (List.map_id dict)
  split
  · next he =>
    have hentry := lookup_of_mem hnodup hm
    rw [he, h] at hentry
    exact Prod.ext he.symm (Option.some.inj hentry)
  · rfl

/-! ## Unused keys -/

/-- The first of a sequence of candidates that is not in use. -/
def firstUnused (used : List κ) (candidate : ℕ → κ) : κ :=
  (((List.range (used.length + 1)).map candidate).find? (· ∉ used)).getD (candidate 0)

/-- Among different candidates one is not in use. -/
theorem firstUnused_not_mem (used : List κ) {candidate : ℕ → κ}
    (h : Function.Injective candidate) : firstUnused used candidate ∉ used := by
  unfold firstUnused
  cases hfound : ((List.range (used.length + 1)).map candidate).find? (· ∉ used) with
  | some key => simpa using List.find?_some hfound
  | none =>
    exfalso
    have hall : (List.range (used.length + 1)).map candidate ⊆ used := by
      intro key hkey
      simpa using List.find?_eq_none.1 hfound key hkey
    have hnodup := (List.nodup_range (n := used.length + 1)).map h
    have hle := (hnodup.subperm hall).length_le
    simp only [List.length_map, List.length_range] at hle
    omega

/-! ## Matching -/

/-- Where every element of a list has a partner of its own in a list of the same length, the
partners are the whole list. -/
theorem exists_perm_forall₂ {α β : Type} {R : α → β → Prop} {l : List α} {m : List β} (hl : l.Nodup)
    (hlen : l.length = m.length) (h : ∀ a ∈ l, ∃ b ∈ m, R a b)
    (hR : ∀ a a' b, R a b → R a' b → a = a') : ∃ m', m'.Perm m ∧ List.Forall₂ R l m' := by
  choose partner hmem hpartner using h
  have hnodup : (l.attach.map fun a => partner a.1 a.2).Nodup :=
    (List.nodup_attach.2 hl).map_on fun a _ b _ he =>
      Subtype.ext (hR _ _ _ (hpartner a.1 a.2) (he ▸ hpartner b.1 b.2))
  refine ⟨l.attach.map fun a => partner a.1 a.2, ?_, ?_⟩
  · refine (List.subperm_of_subset hnodup fun b hb => ?_).perm_of_length_le ?_
    · obtain ⟨a, -, rfl⟩ := List.mem_map.1 hb
      exact hmem a.1 a.2
    · rw [List.length_map, List.length_attach, hlen]
  · rw [List.forall₂_map_right_iff]
    have hattach : List.Forall₂ (fun (a : α) (b : {x // x ∈ l}) => a = b.1) l l.attach := by
      rw [← List.forall₂_map_right_iff, List.attach_map_subtype_val]
      exact List.forall₂_refl l
    exact hattach.imp fun a b he => he ▸ hpartner b.1 b.2

end RoboticsRuntime.Theory
