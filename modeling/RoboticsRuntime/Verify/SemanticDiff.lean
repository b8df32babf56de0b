import RoboticsRuntime.Contracts.MergePatch

/-!
# Semantic differences

What a patch does to an object, key by key. A patch cannot put a null where the source has none, and
everything else can be put, so that the constructed patch succeeds wherever some patch does: this is
an induction on the target, since an object in it may have to be reached from any object.
-/

namespace RoboticsRuntime.Contracts
open Theory Json

variable {α : Type} [DecidableEq α]

/-! ## Equality -/

theorem jsonEqualItems_iff {left right : List (Json α)} :
    jsonEqualItems left right = true ↔ List.Forall₂ (fun a b => jsonEqual a b = true) left right := by
  induction left generalizing right with
  | nil => cases right <;> simp [jsonEqualItems]
  | cons item left ih =>
    cases right with
    | nil => simp [jsonEqualItems]
    | cons other right => simp [jsonEqualItems, ih]

theorem jsonEqualMembers_iff {left right : Members α} :
    jsonEqualMembers right left = true ↔
      ∀ entry ∈ left, ∃ other, right.lookup entry.1 = some other ∧ jsonEqual entry.2 other = true := by
  induction left with
  | nil => simp [jsonEqualMembers]
  | cons entry left ih =>
    obtain ⟨key, value⟩ := entry
    rw [jsonEqualMembers, Bool.and_eq_true, ih, List.forall_mem_cons]
    refine and_congr_left' ?_
    cases right.lookup key <;> simp

/-- Two values under one key are equal, or both are missing. -/
def EqualAt : Option (Json α) → Option (Json α) → Prop
  | none, none => True
  | some left, some right => jsonEqual left right = true
  | _, _ => False

/-- Equal objects are equal key by key. -/
theorem jsonEqual_dict {left right : Members α} (hleft : (left.map (·.1)).Nodup) :
    jsonEqual (dict left) (dict right) = true ↔
      ∀ key, EqualAt (left.lookup key) (right.lookup key) := by
  simp only [jsonEqual, sameKeys, Bool.and_eq_true, decide_eq_true_eq, jsonEqualMembers_iff]
  constructor
  · rintro ⟨⟨-, hkeys⟩, hmembers⟩ key
    cases hl : left.lookup key with
    | some value =>
      obtain ⟨other, hr, heq⟩ := hmembers _ (mem_of_lookup hl)
      rw [hr]
      exact heq
    | none =>
      have hnot : key ∉ right.map (·.1) := fun hm => lookup_eq_none.1 hl (hkeys key hm)
      rw [lookup_eq_none.2 hnot]
      trivial
  · intro h
    have hsome : ∀ key, key ∈ left.map (·.1) ↔ key ∈ right.map (·.1) := by
      intro key
      rw [← isSome_lookup, ← isSome_lookup]
      have := h key
      cases hl : left.lookup key <;> cases hr : right.lookup key <;> simp_all [EqualAt]
    refine ⟨⟨fun key => (hsome key).1, fun key => (hsome key).2⟩, fun entry hm => ?_⟩
    have hkey := h entry.1
    rw [lookup_of_mem hleft hm] at hkey
    cases hr : right.lookup entry.1 with
    | none =>
      rw [hr] at hkey
      exact hkey.elim
    | some other =>
      rw [hr] at hkey
      exact ⟨other, rfl, hkey⟩

theorem jsonEqual_refl {value : Json α} (h : value.WellFormed) : jsonEqual value value = true := by
  induction h with
  | null => rfl
  | bool | int | float | str => simp [jsonEqual]
  | list _ ih =>
    rw [jsonEqual, jsonEqualItems_iff]
    exact List.forall₂_same.2 ih
  | dict hnodup _ ih =>
    refine (jsonEqual_dict hnodup).2 fun key => ?_
    cases hl : List.lookup key _ with
    | none => trivial
    | some value => exact ih _ (mem_of_lookup hl)

/-- Only null is equal to null. -/
theorem jsonEqual_null {value : Json α} (h : jsonEqual value null = true) : value.isNull = true := by
  cases value <;> simp_all [jsonEqual, isNull]

/-! ## What a patch does under a key -/

/-- The value under a key of an object with `old` there, after a patch. -/
def mergedAt (old : Option (Json α)) : Option (Json α) → Option (Json α)
  | none => old
  | some value => if value.isNull then none else some (mergePatch (old.getD null) value)

theorem lookup_mergeMembers {patch : Members α} (hpatch : (patch.map (·.1)).Nodup)
    (result : Members α) (key : α) :
    (mergeMembers result patch).lookup key = mergedAt (result.lookup key) (patch.lookup key) := by
  induction patch generalizing result with
  | nil => rfl
  | cons entry patch ih =>
    obtain ⟨key', value⟩ := entry
    obtain ⟨hnot, hpatch⟩ := List.nodup_cons.1 hpatch
    rw [mergeMembers, ih hpatch, List.lookup_cons]
    by_cases hkey : key = key'
    · subst hkey
      rw [lookup_eq_none.2 hnot, beq_self_eq_true]
      split_ifs with hnull
      · simp [mergedAt, hnull, lookup_remove]
      · simp [mergedAt, hnull, lookup_assign]
    · rw [beq_eq_false_iff_ne.2 hkey]
      split_ifs with hnull
      · rw [lookup_remove, if_neg hkey]
      · rw [lookup_assign, if_neg hkey]

theorem nodup_mergeMembers {result : Members α} (h : (result.map (·.1)).Nodup) (patch : Members α) :
    ((mergeMembers result patch).map (·.1)).Nodup := by
  induction patch generalizing result with
  | nil => exact h
  | cons entry patch ih =>
    obtain ⟨key, value⟩ := entry
    rw [mergeMembers]
    apply ih
    split_ifs
    · exact nodup_remove h key
    · exact nodup_assign h key _

/-- A patch other than null leaves no null. -/
theorem isNull_mergePatch (target : Json α) {patch : Json α} (h : patch.isNull = false) :
    (mergePatch target patch).isNull = false := by
  cases patch <;> simp_all [mergePatch, isNull]

/-! ## The constructed patch -/

theorem keys_changedMembers (source target : Members α) :
    ((changedMembers source target).map (·.1)).Sublist (target.map (·.1)) := by
  induction target with
  | nil => exact .slnil
  | cons entry target ih =>
    obtain ⟨key, value⟩ := entry
    rw [changedMembers]
    split
    · exact ih.cons key
    · exact ih.cons_cons key

theorem keys_removedMembers (source target : Members α) :
    (removedMembers source target).map (·.1) =
      (source.map (·.1)).filter fun key => key ∉ target.map (·.1) := by
  rw [removedMembers, List.map_map, List.filter_map]
  rfl

theorem nodup_createPatch {source target : Members α} (hs : (source.map (·.1)).Nodup)
    (ht : (target.map (·.1)).Nodup) : ((createPatch source target).map (·.1)).Nodup := by
  rw [createPatch, List.map_append, keys_removedMembers]
  refine List.nodup_append.2 ⟨hs.filter _, ht.sublist (keys_changedMembers source target), ?_⟩
  rintro key hkey _ hkey' rfl
  have hnot := of_decide_eq_true (List.mem_filter.1 hkey).2
  exact hnot ((keys_changedMembers source target).subset hkey')

theorem lookup_changedMembers {target : Members α} (ht : (target.map (·.1)).Nodup)
    (source : Members α) (key : α) : (changedMembers source target).lookup key =
      (target.lookup key).bind fun value => if unchanged source key value then none
        else some (changedValue (previousMembers source key) value) := by
  induction target with
  | nil => rfl
  | cons entry target ih =>
    obtain ⟨key', value⟩ := entry
    obtain ⟨hnot, ht⟩ := List.nodup_cons.1 ht
    rw [changedMembers, List.lookup_cons]
    by_cases hkey : key = key'
    · subst hkey
      have hnone : (changedMembers source target).lookup key = none :=
        lookup_eq_none.2 fun hm => hnot ((keys_changedMembers source target).subset hm)
      split_ifs with h
      · simp [hnone, h]
      · simp [h]
    · rw [beq_eq_false_iff_ne.2 hkey, ← ih ht]
      split_ifs with h
      · rfl
      · rw [List.lookup_cons, beq_eq_false_iff_ne.2 hkey]

/-- The constructed patch under a key. -/
theorem lookup_createPatch {source target : Members α} (ht : (target.map (·.1)).Nodup) (key : α) :
    (createPatch source target).lookup key = match target.lookup key with
      | none => if key ∈ source.map (·.1) then some null else none
      | some value => if unchanged source key value then none
        else some (changedValue (previousMembers source key) value) := by
  have hremoved : ∀ value, (removedMembers source target).lookup key = some value → value = null := by
    intro value h
    obtain ⟨entry, -, he⟩ := List.mem_map.1 (mem_of_lookup h)
    exact (Prod.mk.inj he).2.symm
  rw [createPatch, lookup_append, lookup_changedMembers ht]
  cases htarget : target.lookup key with
  | none =>
    have hnot := lookup_eq_none.1 htarget
    rw [Option.bind_none, Option.or_none]
    split_ifs with hm
    · have hm' : key ∈ (removedMembers source target).map (·.1) := by
        rw [keys_removedMembers]
        exact List.mem_filter.2 ⟨hm, decide_eq_true hnot⟩
      obtain ⟨value, hvalue⟩ := Option.isSome_iff_exists.1 (isSome_lookup.2 hm')
      rw [hvalue, hremoved value hvalue]
    · refine lookup_eq_none.2 fun hm' => ?_
      rw [keys_removedMembers] at hm'
      exact hm (List.mem_filter.1 hm').1
  | some value =>
    have hnone : (removedMembers source target).lookup key = none := by
      refine lookup_eq_none.2 fun hm => ?_
      rw [keys_removedMembers] at hm
      refine of_decide_eq_true (List.mem_filter.1 hm).2 ?_
      rw [← isSome_lookup, htarget]
      rfl
    rw [hnone, Option.none_or, Option.bind_some]

theorem wellFormed_previousMembers {source : Members α} (hs : (dict source).WellFormed) (key : α) :
    (dict (previousMembers source key)).WellFormed := by
  unfold previousMembers
  split
  · next previous h => exact (wellFormed_dict.1 hs).2 _ (mem_of_lookup h)
  · exact .dict List.nodup_nil fun _ h => absurd h List.not_mem_nil

theorem mem_changedMembers {source target : Members α} {entry : α × Json α}
    (h : entry ∈ changedMembers source target) :
    ∃ value, (entry.1, value) ∈ target ∧
      entry.2 = changedValue (previousMembers source entry.1) value := by
  induction target with
  | nil => cases h
  | cons head target ih =>
    obtain ⟨key, value⟩ := head
    have hrest : entry ∈ changedMembers source target → ∃ other,
        (entry.1, other) ∈ (key, value) :: target ∧
          entry.2 = changedValue (previousMembers source entry.1) other := fun hm => by
      obtain ⟨other, hother, he⟩ := ih hm
      exact ⟨other, List.mem_cons_of_mem _ hother, he⟩
    rw [changedMembers] at h
    split at h
    · exact hrest h
    · rcases List.mem_cons.1 h with rfl | hm
      · exact ⟨value, List.mem_cons_self, rfl⟩
      · exact hrest hm

/-- The constructed patch is an object without repeated keys, and so is every object in it. -/
theorem wellFormed_changedValue {value : Json α} (h : value.WellFormed) {previous : Members α}
    (hp : (dict previous).WellFormed) : (changedValue previous value).WellFormed := by
  induction h generalizing previous with
  | null => exact .null
  | bool => exact .bool
  | int => exact .int
  | float => exact .float
  | str => exact .str
  | list h => exact .list h
  | dict hnodup _ ih =>
    refine .dict (nodup_createPatch (wellFormed_dict.1 hp).1 hnodup) fun entry hm => ?_
    rcases List.mem_append.1 hm with hm | hm
    · obtain ⟨_, -, rfl⟩ := List.mem_map.1 hm
      exact .null
    · obtain ⟨value, hv, he⟩ := mem_changedMembers hm
      rw [he]
      exact ih _ hv (wellFormed_previousMembers hp entry.1)

theorem wellFormed_createPatch {source target : Members α} (hs : (dict source).WellFormed)
    (ht : (dict target).WellFormed) : (dict (createPatch source target)).WellFormed :=
  wellFormed_changedValue ht hs

/-! ## Completeness -/

/-- A patch makes the target of the source. -/
def Patches (source target patch : Members α) : Prop :=
  jsonEqual (mergePatch (dict source) (dict patch)) (dict target) = true

theorem patches_iff {source : Members α} (hs : (source.map (·.1)).Nodup) {patch : Members α}
    (hpatch : (patch.map (·.1)).Nodup) (target : Members α) : Patches source target patch ↔
      ∀ key, EqualAt (mergedAt (source.lookup key) (patch.lookup key)) (target.lookup key) := by
  rw [Patches, mergePatch, jsonEqual_dict (nodup_mergeMembers hs patch)]
  simp only [lookup_mergeMembers hpatch]

/-- The object that a patch is applied to under a key. -/
theorem mergePatch_dict (source patch : Members α) (key : α) :
    mergePatch ((source.lookup key).getD null) (dict patch) =
      mergePatch (dict (previousMembers source key)) (dict patch) := by
  cases hsource : source.lookup key with
  | none => simp [mergePatch, previousMembers, hsource]
  | some value => cases value <;> simp [mergePatch, previousMembers, hsource]

/-- A value that a patch leaves under a key where the source does not have it was put there. -/
theorem exists_put {source patch : Members α} {key : α} {value : Json α}
    (hchanged : unchanged source key value = false)
    (h : EqualAt (mergedAt (source.lookup key) (patch.lookup key)) (some value)) :
    ∃ put, patch.lookup key = some put ∧ put.isNull = false ∧
      jsonEqual (mergePatch ((source.lookup key).getD null) put) value = true := by
  cases hpatch : patch.lookup key with
  | none =>
    rw [hpatch, mergedAt] at h
    cases hsource : source.lookup key with
    | none =>
      rw [hsource] at h
      exact h.elim
    | some old =>
      rw [hsource] at h
      rw [unchanged, hsource, Option.any_some] at hchanged
      rw [show jsonEqual old value = true from h] at hchanged
      cases hchanged
  | some put =>
    rw [hpatch, mergedAt] at h
    split_ifs at h with hnull
    · exact h.elim
    · exact ⟨put, rfl, by simpa using hnull, h⟩

/-- Where some patch makes the target of the source, the constructed one does. -/
theorem patches_createPatch {source target patch : Members α} (hs : (dict source).WellFormed)
    (ht : (dict target).WellFormed) (hpatch : (dict patch).WellFormed)
    (h : Patches source target patch) : Patches source target (createPatch source target) := by
  generalize hvalue : dict target = value at ht
  induction ht generalizing source target patch with
  | null | bool | int | float | str | list => cases hvalue
  | @dict members hnodup hmembers ih =>
    cases hvalue
    have hsource := (wellFormed_dict.1 hs).1
    rw [patches_iff hsource (wellFormed_dict.1 hpatch).1] at h
    rw [patches_iff hsource (nodup_createPatch hsource hnodup)]
    intro key
    have hkey := h key
    rw [lookup_createPatch hnodup]
    cases htarget : members.lookup key with
    | none =>
      dsimp only
      split_ifs with hm
      · trivial
      · rw [lookup_eq_none.2 hm]
        trivial
    | some value =>
      rw [htarget] at hkey
      have hmem := mem_of_lookup htarget
      dsimp only
      split_ifs with hchanged
      · -- The source already has the value.
        cases hold : source.lookup key with
        | none => simp [unchanged, hold] at hchanged
        | some old =>
          rw [unchanged, hold] at hchanged
          exact hchanged
      · obtain ⟨put, hput, hnull, heq⟩ := exists_put (by simpa using hchanged) hkey
        cases value with
        | dict inner =>
          -- The patch puts an object there too, so that the induction applies to it.
          have hobject : ∃ change, put = dict change := by
            cases put with
            | dict change => exact ⟨change, rfl⟩
            | _ => simp [mergePatch, jsonEqual] at heq
          obtain ⟨change, rfl⟩ := hobject
          rw [mergePatch_dict] at heq
          have hchange := (wellFormed_dict.1 hpatch).2 _ (mem_of_lookup hput)
          have hinner := ih _ hmem (wellFormed_previousMembers hs key) hchange heq rfl
          simp only [changedValue, mergedAt, isNull, Bool.false_eq_true, if_false]
          rw [mergePatch_dict]
          exact hinner
        | null =>
          have := isNull_mergePatch ((source.lookup key).getD null) hnull
          rw [jsonEqual_null heq] at this
          cases this
        | _ =>
          simp only [changedValue, mergedAt, isNull, Bool.false_eq_true, if_false, mergePatch]
          exact jsonEqual_refl (hmembers _ hmem)

/-- The patch is empty when nothing has to be changed. -/
theorem createPatch_eq_nil {source target : Members α} (hs : (source.map (·.1)).Nodup)
    (ht : (target.map (·.1)).Nodup) :
    createPatch source target = [] ↔ jsonEqual (dict source) (dict target) = true := by
  rw [jsonEqual_dict hs]
  have hempty : createPatch source target = [] ↔
      ∀ key, (createPatch source target).lookup key = none := by
    simp only [lookup_eq_none]
    exact ⟨fun h key => by simp [h], fun h => List.eq_nil_iff_forall_not_mem.2 fun entry hm =>
      h entry.1 (List.mem_map_of_mem hm)⟩
  rw [hempty]
  refine forall_congr' fun key => ?_
  rw [lookup_createPatch ht]
  cases htarget : target.lookup key with
  | none =>
    cases hsource : source.lookup key with
    | none => simp [lookup_eq_none.1 hsource, EqualAt]
    | some old =>
      have hm : key ∈ source.map (·.1) := by rw [← isSome_lookup, hsource]; rfl
      simp only [hm, if_true, EqualAt, reduceCtorEq]
  | some value =>
    cases hsource : source.lookup key with
    | none => simp [unchanged, hsource, EqualAt]
    | some old => simp [unchanged, hsource, EqualAt]

/-! ## Main result -/

/-- `semantic_diff` returns a patch that makes the target of the source, whenever there is one, and
otherwise fails as unrepresentable; the patch is empty when the objects are equal. -/
theorem semanticDiff_exact (source target : Members α) (hs : (dict source).WellFormed)
    (ht : (dict target).WellFormed) :
    (∀ patch, semanticDiff source target = .ok patch → (dict patch).WellFormed ∧
      jsonEqual (mergePatch (dict source) (dict patch)) (dict target) = true) ∧
    ((∃ patch, semanticDiff source target = .ok patch) ↔
      ∃ patch, (dict patch).WellFormed ∧
        jsonEqual (mergePatch (dict source) (dict patch)) (dict target) = true) ∧
    (∀ error, semanticDiff source target = .error error →
      error.errorId = "diff.unrepresentable") ∧
    (semanticDiff source target = .ok [] ↔ jsonEqual (dict source) (dict target) = true) := by
  have hnodup := (wellFormed_dict.1 hs).1
  have hok : ∀ patch, semanticDiff source target = .ok patch ↔
      Patches source target (createPatch source target) ∧ createPatch source target = patch := by
    intro patch
    unfold semanticDiff
    dsimp only
    split_ifs with h
    · exact ⟨fun he => ⟨h, Except.ok.inj he⟩, fun he => congrArg Except.ok he.2⟩
    · exact ⟨fun he => (nomatch he), fun he => absurd he.1 h⟩
  refine ⟨?_, ⟨?_, ?_⟩, ?_, ?_⟩
  · intro patch h
    obtain ⟨hpatches, rfl⟩ := (hok patch).1 h
    exact ⟨wellFormed_createPatch hs ht, hpatches⟩
  · rintro ⟨patch, h⟩
    obtain ⟨hpatches, rfl⟩ := (hok patch).1 h
    exact ⟨_, wellFormed_createPatch hs ht, hpatches⟩
  · rintro ⟨patch, hpatch, h⟩
    exact ⟨_, (hok _).2 ⟨patches_createPatch hs ht hpatch h, rfl⟩⟩
  · intro error h
    unfold semanticDiff at h
    dsimp only at h
    split_ifs at h
    obtain rfl := Except.error.inj h
    rfl
  · rw [hok, createPatch_eq_nil hnodup (wellFormed_dict.1 ht).1]
    refine ⟨And.right, fun h => ⟨?_, h⟩⟩
    rw [(createPatch_eq_nil hnodup (wellFormed_dict.1 ht).1).2 h]
    exact h

/-- The number of the source becomes an empty object. -/
theorem semanticDiff_exact_emptyObject :
    let source := [("mode", str "fast"), ("limits", int 3)]
    let target := [("limits", dict []), ("mode", str "fast")]
    semanticDiff source target = .ok [("limits", dict [])] ∧
      jsonEqual (mergePatch (dict source) (dict [("limits", dict [])])) (dict target) = true := by
  have h := semanticDiff_exact [("mode", str "fast"), ("limits", int 3)]
    [("limits", dict []), ("mode", str "fast")]
    (.dict (by decide) (by simp only [List.forall_mem_cons]; exact ⟨.str, .int, List.forall_mem_nil _⟩))
    (.dict (by decide) (by
      simp only [List.forall_mem_cons]
      exact ⟨.dict .nil (List.forall_mem_nil _), .str, List.forall_mem_nil _⟩))
  have hrun : semanticDiff [("mode", str "fast"), ("limits", int 3)]
      [("limits", dict []), ("mode", str "fast")] = .ok [("limits", dict [])] := rfl
  exact ⟨hrun, (h.1 _ hrun).2⟩

end RoboticsRuntime.Contracts
