import Mathlib.Data.List.Lex
import RoboticsRuntime.Theory.Ranking

/-!
# Python objects that a JSON encoder accepts or refuses

A string is a sequence of code points, with surrogates among them; a float is a finite one of an
arbitrary type, or one that JSON has no spelling for; a dictionary is the list of its items in the
order of their insertion.
-/

namespace RoboticsRuntime.Python
open Theory

/-- A code point of a string: a Unicode scalar value or a surrogate. -/
inductive CodePoint where
  | scalar (c : Char)
  | surrogate (offset : Fin 0x800)
  deriving DecidableEq

/-- `ord`. -/
def CodePoint.ord : CodePoint → ℕ
  | .scalar c => c.toNat
  | .surrogate offset => 0xd800 + offset

/-- The character that a code point is, unless it is a surrogate. -/
def CodePoint.toChar : CodePoint → Option Char
  | .scalar c => some c
  | .surrogate _ => none

/-- `str`. -/
abbrev PyStr := List CodePoint

/-- A string without surrogates. -/
def text (s : String) : PyStr := s.toList.map .scalar

def hexDigit (n : ℕ) : CodePoint := .scalar n.digitChar

def hexValue : CodePoint → Option ℕ
  | .scalar c =>
    if c.isDigit then some (c.toNat - '0'.toNat)
    else if 'a' ≤ c ∧ c ≤ 'f' then some (c.toNat - 'a'.toNat + 10)
    else if 'A' ≤ c ∧ c ≤ 'F' then some (c.toNat - 'A'.toNat + 10)
    else none
  | .surrogate _ => none

/-- `str.encode("utf-8")`; a surrogate is a `UnicodeEncodeError`. -/
def encodeUtf8 (s : PyStr) : Option ByteArray := do
  let chars ← s.mapM CodePoint.toChar
  some (String.ofList chars).toUTF8

/-- `bytes.decode("utf-8")`; invalid bytes are a `UnicodeDecodeError`. -/
def decodeUtf8 (bytes : ByteArray) : Option PyStr := (String.fromUTF8? bytes).map text

/-- `float`, over a type of finite floats. -/
inductive PyFloat (φ : Type) where
  | finite (value : φ)
  | infinity (negative : Bool)
  | nan
  deriving DecidableEq

/-- Objects without parts. The last case stands for every other type of object. -/
inductive PyScalar (φ : Type) where
  | none
  | bool (value : Bool)
  | int (value : ℤ)
  | float (value : PyFloat φ)
  | str (value : PyStr)
  | other (typeName : String)
  deriving DecidableEq

/-- Keys of a dictionary. The last case stands for every other hashable object. -/
inductive Key where
  | str (value : PyStr)
  | other (identity : ℕ)
  deriving DecidableEq

inductive PyValue (φ : Type) where
  | scalar (value : PyScalar φ)
  | list (items : List (PyValue φ))
  | dict (items : List (Key × PyValue φ))

namespace PyValue
variable {φ : Type}

/-- Items of a dictionary. -/
abbrev Items (φ : Type) := List (Key × PyValue φ)

section
variable {motive : PyValue φ → Prop} (scalar : ∀ value, motive (.scalar value))
  (list : ∀ items, (∀ item ∈ items, motive item) → motive (.list items))
  (dict : ∀ items, (∀ entry ∈ items, motive entry.2) → motive (.dict items))
include scalar list dict

/-- Induction over the parts of an object. -/
@[elab_as_elim]
theorem parts_induction : ∀ value, motive value
  | .scalar value => scalar value
  | .list items => list items fun item _ => parts_induction item
  | .dict items => dict items fun (_, value) _ => parts_induction value
decreasing_by
  · have := List.sizeOf_lt_of_mem ‹item ∈ items›
    simp only [PyValue.list.sizeOf_spec]
    omega
  · have := List.sizeOf_lt_of_mem ‹(_, value) ∈ items›
    simp only [Prod.mk.sizeOf_spec, PyValue.dict.sizeOf_spec] at this ⊢
    omega

end

/-- What Python keeps of every dictionary: no two items have one key. -/
inductive WellFormed : PyValue φ → Prop where
  | scalar {value : PyScalar φ} : WellFormed (.scalar value)
  | list {items : List (PyValue φ)} : (∀ item ∈ items, WellFormed item) → WellFormed (.list items)
  | dict {items : Items φ} : (items.map (·.1)).Nodup → (∀ entry ∈ items, WellFormed entry.2) →
      WellFormed (.dict items)

/-- Equality node by node with exact types. It differs from `==` in that a Boolean is not an integer,
an integer is not a float, and the sign of zero counts. -/
inductive Identical : PyValue φ → PyValue φ → Prop where
  | scalar {value : PyScalar φ} : Identical (.scalar value) (.scalar value)
  | list {left right : List (PyValue φ)} : left.length = right.length →
      (∀ pair ∈ left.zip right, Identical pair.1 pair.2) → Identical (.list left) (.list right)
  | dict {left right : Items φ} : (∀ key, key ∈ left.map (·.1) ↔ key ∈ right.map (·.1)) →
      (∀ key value other, (key, value) ∈ left → (key, other) ∈ right → Identical value other) →
      Identical (.dict left) (.dict right)

end PyValue

end RoboticsRuntime.Python
