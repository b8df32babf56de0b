import RoboticsRuntime.Contracts.Errors
import RoboticsRuntime.Contracts.Json
import RoboticsRuntime.Theory.Dictionary

/-!
# Merge patches

`_merge_patch.py` and `document_ops.semantic_diff`: the application of an RFC 7396 patch, and the
construction of an object patch between two objects. Copies are not told apart.
-/

namespace RoboticsRuntime.Contracts
open Theory Json

variable {α : Type} [DecidableEq α]

/-! ## Equality -/

/-- `left.keys() == right.keys()`. -/
def sameKeys (left right : Members α) : Bool :=
  (∀ key ∈ left.map (·.1), key ∈ right.map (·.1)) && ∀ key ∈ right.map (·.1), key ∈ left.map (·.1)

mutual

/-- `json_equal`: equality without coercion between Booleans, integers and floats. -/
def jsonEqual : Json α → Json α → Bool
  | .null, .null => true
  | .bool left, .bool right => left = right
  | .int left, .int right => left = right
  | .float left, .float right => left.value = right.value
  | .str left, .str right => left = right
  | .list left, .list right => jsonEqualItems left right
  | .dict left, .dict right => sameKeys left right && jsonEqualMembers right left
  | _, _ => false
termination_by structural left => left

/-- Two lists are equal when they have as many items and each pair of items is equal. -/
def jsonEqualItems : List (Json α) → List (Json α) → Bool
  | [], [] => true
  | left :: lefts, right :: rights => jsonEqual left right && jsonEqualItems lefts rights
  | _, _ => false
termination_by structural lefts => lefts

/-- `all(json_equal(value, right[key]) for key, value in left.items())`. -/
def jsonEqualMembers (right : Members α) : Members α → Bool
  | [] => true
  | (key, value) :: left =>
    (match right.lookup key with
      | some other => jsonEqual value other
      | none => false) && jsonEqualMembers right left
termination_by structural left => left

end

/-! ## Application -/

mutual

/-- `merge_patch`. -/
def mergePatch (target : Json α) : Json α → Json α
  | dict patch => dict (mergeMembers (match target with | dict result => result | _ => []) patch)
  | patch => patch
termination_by structural patch => patch

/-- The loop over the items of a patch. -/
def mergeMembers (result : Members α) : Members α → Members α
  | [] => result
  | (key, value) :: patch =>
    mergeMembers (if value.isNull then remove result key
      else assign result key (mergePatch ((result.lookup key).getD null) value)) patch
termination_by structural patch => patch

end

/-! ## Construction -/

/-- `{key: None for key in source if key not in target}`. -/
def removedMembers (source target : Members α) : Members α :=
  (source.filter fun entry => entry.1 ∉ target.map (·.1)).map fun entry => (entry.1, null)

/-- `key in source and json_equal(source[key], value)`. -/
def unchanged (source : Members α) (key : α) (value : Json α) : Bool :=
  (source.lookup key).any (jsonEqual · value)

/-- The members of the source under a key, when it has an object there. -/
def previousMembers (source : Members α) (key : α) : Members α :=
  match source.lookup key with
  | some (dict previous) => previous
  | _ => []

mutual

/-- The value of a patch for a changed key. An empty patch is kept, since it makes an object of a
scalar or of a missing key. -/
def changedValue (previous : Members α) : Json α → Json α
  | dict target => dict (removedMembers previous target ++ changedMembers previous target)
  | value => value
termination_by structural value => value

/-- The loop of `create_patch` over the items of the target. -/
def changedMembers (source : Members α) : Members α → Members α
  | [] => []
  | (key, value) :: target =>
    if unchanged source key value then changedMembers source target
    else (key, changedValue (previousMembers source key) value) :: changedMembers source target
termination_by structural target => target

end

/-- `create_patch`. -/
def createPatch (source target : Members α) : Members α :=
  removedMembers source target ++ changedMembers source target

/-- `semantic_diff`. -/
def semanticDiff (source target : Members α) : Except ContractError (Members α) :=
  let patch := createPatch source target
  if jsonEqual (mergePatch (dict source) (dict patch)) (dict target) then .ok patch
  else .error {
    message := "target cannot be represented by RFC 7396 because null denotes member removal"
    errorId := "diff.unrepresentable" }

end RoboticsRuntime.Contracts
