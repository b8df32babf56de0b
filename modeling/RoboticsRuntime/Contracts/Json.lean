import Mathlib.Algebra.Order.Ring.Unbundled.Rat
import Mathlib.Data.List.Nodup

/-!
# JSON values

The values that the standard library parses JSON into. A dictionary is the list of its items in the
order of their insertion; a string is of an arbitrary type, since most functions only compare
strings.
-/

namespace RoboticsRuntime.Contracts

/-- A finite float of Python. The sign of zero is kept, but does not count in comparisons. -/
structure FiniteFloat where
  negative : Bool
  magnitude : ℚ
  magnitude_nonneg : 0 ≤ magnitude
  deriving DecidableEq

/-- The number that comparisons see. -/
def FiniteFloat.value (float : FiniteFloat) : ℚ :=
  if float.negative then -float.magnitude else float.magnitude

/-- `JSONValue`. -/
inductive Json (α : Type) where
  | null
  | bool (value : Bool)
  | int (value : ℤ)
  | float (value : FiniteFloat)
  | str (value : α)
  | list (items : List (Json α))
  | dict (members : List (α × Json α))

namespace Json
variable {α : Type}

/-- The items of a dictionary. -/
abbrev Members (α : Type) := List (α × Json α)

/-- `value is None`. -/
def isNull : Json α → Bool
  | null => true
  | _ => false

section
variable {motive : Json α → Prop} (leaf : ∀ value, (∀ items, value ≠ list items) →
    (∀ members, value ≠ dict members) → motive value)
  (list : ∀ items, (∀ item ∈ items, motive item) → motive (list items))
  (dict : ∀ members, (∀ entry ∈ members, motive entry.2) → motive (dict members))
include leaf list dict

/-- Induction over the parts of a value. -/
@[elab_as_elim]
theorem parts_induction : ∀ value, motive value
  | .null | .bool _ | .int _ | .float _ | .str _ => leaf _ (by simp) (by simp)
  | .list items => list items fun item _ => parts_induction item
  | .dict members => dict members fun (_, value) _ => parts_induction value
decreasing_by
  · have := List.sizeOf_lt_of_mem ‹item ∈ items›
    simp only [Json.list.sizeOf_spec]
    omega
  · have := List.sizeOf_lt_of_mem ‹(_, value) ∈ members›
    simp only [Prod.mk.sizeOf_spec, Json.dict.sizeOf_spec] at this ⊢
    omega

end

/-- No dictionary in the value has two items with one key. -/
inductive WellFormed : Json α → Prop where
  | null : WellFormed null
  | bool : WellFormed (bool value)
  | int : WellFormed (int value)
  | float : WellFormed (float value)
  | str : WellFormed (str value)
  | list : (∀ item ∈ items, WellFormed item) → WellFormed (list items)
  | dict : (members.map (·.1)).Nodup → (∀ entry ∈ members, WellFormed entry.2) →
      WellFormed (dict members)

theorem wellFormed_list {items : List (Json α)} :
    (list items).WellFormed ↔ ∀ item ∈ items, item.WellFormed :=
  ⟨fun h => by cases h; assumption, .list⟩

theorem wellFormed_dict {members : Members α} : (dict members).WellFormed ↔
    (members.map (·.1)).Nodup ∧ ∀ entry ∈ members, entry.2.WellFormed :=
  ⟨fun h => by cases h; exact ⟨‹_›, ‹_›⟩, fun h => .dict h.1 h.2⟩

end Json

end RoboticsRuntime.Contracts
