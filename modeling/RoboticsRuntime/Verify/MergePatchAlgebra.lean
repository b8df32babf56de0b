import RoboticsRuntime.Verify.SemanticDiff

/-!
# What a merge patch does

An RFC 7396 patch, applied twice, does no more than once: after the first time every key that it
removes is missing, and every other one holds what the patch makes of it. What the result holds under
a path of keys is read off the patch and the target by walking along the path.
-/

namespace RoboticsRuntime.Contracts
open Theory Json

variable {α : Type} [DecidableEq α]

/-! ## Application twice -/

/-- The members of a target that a patch is applied to. -/
def targetMembers : Json α → Members α
  | dict members => members
  | _ => []

theorem mergePatch_object (target : Json α) (patch : Members α) :
    mergePatch target (dict patch) = dict (mergeMembers (targetMembers target) patch) := by
  cases target <;> rfl

omit [DecidableEq α] in
theorem nodup_targetMembers {target : Json α} (h : target.WellFormed) :
    ((targetMembers target).map (·.1)).Nodup := by
  cases target with
  | dict members => exact (wellFormed_dict.1 h).1
  | _ => exact List.nodup_nil

theorem wellFormed_lookup {target : Json α} (h : target.WellFormed) (key : α) :
    (((targetMembers target).lookup key).getD null).WellFormed := by
  cases target with
  | dict members =>
    cases hlookup : members.lookup key with
    | none => simpa [targetMembers, hlookup] using WellFormed.null
    | some value =>
      simpa [targetMembers, hlookup] using (wellFormed_dict.1 h).2 _ (mem_of_lookup hlookup)
  | _ => exact WellFormed.null

/-- A patch changes nothing where each of its removals is missing, and each of its other entries is
what the patch makes of it. -/
theorem mergeMembers_eq_self {result patch : Members α} (hresult : (result.map (·.1)).Nodup)
    (h : ∀ entry ∈ patch, if entry.2.isNull then result.lookup entry.1 = none else
      ∃ old, result.lookup entry.1 = some old ∧ mergePatch old entry.2 = old) :
    mergeMembers result patch = result := by
  induction patch with
  | nil => rfl
  | cons entry patch ih =>
    obtain ⟨key, value⟩ := entry
    obtain ⟨hentry, hpatch⟩ := List.forall_mem_cons.1 h
    rw [mergeMembers]
    dsimp only at hentry
    split_ifs at hentry ⊢
    · rw [remove_eq_self hentry]
      exact ih hpatch
    · obtain ⟨old, hold, hfixed⟩ := hentry
      rw [hold, Option.getD_some, hfixed, assign_eq_self hresult hold]
      exact ih hpatch

/-- A patch that is applied again changes nothing. -/
theorem mergePatch_idempotent {target patch : Json α} (htarget : target.WellFormed)
    (hpatch : patch.WellFormed) :
    mergePatch (mergePatch target patch) patch = mergePatch target patch := by
  induction hpatch generalizing target with
  | null | bool | int | float | str | list => rfl
  | @dict members hnodup hmembers ih =>
    rw [mergePatch_object, mergePatch_object, targetMembers]
    congr 1
    refine mergeMembers_eq_self (nodup_mergeMembers (nodup_targetMembers htarget) members)
      fun entry hm => ?_
    rw [lookup_mergeMembers hnodup, lookup_of_mem hnodup hm, mergedAt]
    split_ifs
    · rfl
    · exact ⟨_, rfl, ih entry hm (wellFormed_lookup htarget entry.1)⟩

/-! ## Paths -/

/-- The value under a path of keys. -/
def valueAt : Json α → List α → Option (Json α)
  | value, [] => some value
  | dict members, key :: keys => (members.lookup key).bind (valueAt · keys)
  | _, _ :: _ => none
termination_by structural _ keys => keys

/-- What a patch says about a path of keys. -/
inductive PatchEntry (α : Type) where
  /-- An object of the patch on the way has no such key. -/
  | untouched
  | removed
  | merged (patch : Members α)
  | replaced (value : Json α)
  /-- A value of the patch on the way is not an object. -/
  | overwritten

def entryAt : Json α → List α → PatchEntry α
  | null, [] => .removed
  | dict patch, [] => .merged patch
  | value, [] => .replaced value
  | dict patch, key :: keys =>
    match patch.lookup key with
    | none => .untouched
    | some value => entryAt value keys
  | _, _ :: _ => .overwritten
termination_by structural _ keys => keys

/-- What RFC 7396 prescribes under a path, where the target has `old`. -/
def PatchEntry.prescribed (old : Option (Json α)) : PatchEntry α → Option (Json α)
  | untouched => old
  | removed => none
  | merged patch => some (mergePatch (old.getD null) (dict patch))
  | replaced value => some value
  | overwritten => none

theorem valueAt_cons (target : Json α) (key : α) (keys : List α) :
    valueAt target (key :: keys) = ((targetMembers target).lookup key).bind (valueAt · keys) := by
  cases target <;> rfl

/-- A missing value is as good a target as null. -/
theorem prescribed_null (patch : Json α) (keys : List α) :
    (entryAt patch keys).prescribed (valueAt null keys) = (entryAt patch keys).prescribed none := by
  cases keys with
  | nil => cases patch <;> rfl
  | cons key keys => rfl

theorem valueAt_mergePatch (target : Json α) {patch : Json α} (hpatch : patch.WellFormed)
    (hnull : patch.isNull = false) (keys : List α) :
    valueAt (mergePatch target patch) keys = (entryAt patch keys).prescribed (valueAt target keys) := by
  induction keys generalizing target patch with
  | nil => cases patch <;> first | rfl | cases hnull
  | cons key keys ih =>
    cases patch with
    | dict members =>
      obtain ⟨hnodup, hmembers⟩ := wellFormed_dict.1 hpatch
      rw [mergePatch_object, valueAt_cons, valueAt_cons target, targetMembers,
        lookup_mergeMembers hnodup, entryAt]
      cases hlookup : members.lookup key with
      | none => rfl
      | some value =>
        rw [mergedAt]
        split_ifs with hvalue
        · obtain rfl : value = null := by cases value <;> first | rfl | cases hvalue
          cases keys <;> rfl
        · rw [Option.bind_some, ih _ (hmembers _ (mem_of_lookup hlookup)) (by simpa using hvalue)]
          cases (targetMembers target).lookup key with
          | none => exact prescribed_null value keys
          | some old => rfl
    | _ => rfl

/-- An object patch puts no null where it says something. -/
theorem prescribed_ne_null {patch : Json α} (hpatch : patch.WellFormed) {keys : List α}
    {old : Option (Json α)} (h : (entryAt patch keys).prescribed old = some null) : old = some null := by
  induction keys generalizing patch with
  | nil => cases patch <;> cases h
  | cons key keys ih =>
    cases patch with
    | dict members =>
      rw [entryAt] at h
      cases hlookup : members.lookup key with
      | none =>
        rw [hlookup] at h
        exact h
      | some value =>
        rw [hlookup] at h
        exact ih ((wellFormed_dict.1 hpatch).2 _ (mem_of_lookup hlookup)) h
    | _ => cases h

/-- A patch that is applied again changes nothing. The result of an object patch is an object that
holds under every path of keys what RFC 7396 prescribes, and no null that the target does not
hold there. -/
theorem mergePatch_algebra (target patch : Json α) (htarget : target.WellFormed)
    (hpatch : patch.WellFormed) :
    mergePatch (mergePatch target patch) patch = mergePatch target patch ∧
    ∀ members, patch = dict members →
      (∃ result, mergePatch target patch = dict result) ∧
      ∀ keys, valueAt (mergePatch target patch) keys =
          (entryAt patch keys).prescribed (valueAt target keys) ∧
        (valueAt (mergePatch target patch) keys = some null → valueAt target keys = some null) := by
  refine ⟨mergePatch_idempotent htarget hpatch, ?_⟩
  rintro members rfl
  refine ⟨⟨_, mergePatch_object target members⟩, fun keys => ?_⟩
  have hvalue := valueAt_mergePatch target hpatch rfl keys
  exact ⟨hvalue, fun hnull => prescribed_ne_null hpatch (hvalue ▸ hnull)⟩

/-! ## Nulls in arrays -/

mutual

/-- Some object in the value has a null member. -/
def hasNullMember : Json α → Bool
  | list items => hasNullMemberItems items
  | dict members => hasNullMemberMembers members
  | _ => false
termination_by structural value => value

def hasNullMemberItems : List (Json α) → Bool
  | [] => false
  | item :: items => hasNullMember item || hasNullMemberItems items
termination_by structural items => items

def hasNullMemberMembers : Members α → Bool
  | [] => false
  | (_, value) :: members => value.isNull || hasNullMember value || hasNullMemberMembers members
termination_by structural members => members

end

/-- `{"steps": [{"limit": null}]}`. -/
def arrayPatch : Json String := dict [("steps", list [dict [("limit", null)]])]

theorem wellFormed_arrayPatch : arrayPatch.WellFormed := by
  simp [arrayPatch, wellFormed_dict, wellFormed_list, WellFormed.null]

/-- The patch puts an object with a null member into an array of an empty object. -/
theorem mergePatch_algebra_array :
    mergePatch (mergePatch (dict []) arrayPatch) arrayPatch = mergePatch (dict []) arrayPatch ∧
      valueAt (mergePatch (dict []) arrayPatch) ["steps"] =
        some (list [dict [("limit", null)]]) := by
  have h := mergePatch_algebra (dict []) arrayPatch (wellFormed_dict.2 (by simp))
    wellFormed_arrayPatch
  exact ⟨h.1, ((h.2 _ rfl).2 ["steps"]).1⟩

/-- The null of an object in an array of the patch is data. -/
theorem hasNullMember_mergePatch :
    ¬ ∀ target patch : Json String, target.WellFormed → patch.WellFormed →
      (∃ members, patch = dict members) → hasNullMember target = false →
      hasNullMember (mergePatch target patch) = false := by
  intro h
  exact absurd (h (dict []) arrayPatch (wellFormed_dict.2 (by simp)) wellFormed_arrayPatch
    ⟨_, rfl⟩ rfl) (by decide)

end RoboticsRuntime.Contracts
