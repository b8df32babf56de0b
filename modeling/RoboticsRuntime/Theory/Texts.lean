import Mathlib

/-!
# Lengths of texts

The number of characters of a printed number, and of texts that are put together from parts.
-/

namespace RoboticsRuntime.Theory

/-- The number of characters of a printed number. -/
def digits (n : ℕ) : ℕ := n.repr.length

theorem toString_string (s : String) : toString s = s := rfl

theorem length_toString (n : ℕ) : (toString n).length = digits n := by
  rw [Nat.toString_eq_repr, digits]

theorem length_toString_int {i : ℤ} (h : 0 ≤ i) : (toString i).length = digits i.toNat := by
  rw [Int.toString_eq_repr, Int.repr_eq_if, if_pos h, digits]

theorem digits_le {n k : ℕ} (hk : 0 < k) (h : n < 10 ^ k) : digits n ≤ k :=
  (Nat.length_repr_le_iff hk).2 h

/-- A text has between one and `bound` characters. -/
def TextWithin (bound : ℕ) (message : String) : Prop :=
  1 ≤ message.length ∧ message.length ≤ bound

instance (bound : ℕ) (message : String) : Decidable (TextWithin bound message) :=
  inferInstanceAs (Decidable (_ ∧ _))

end RoboticsRuntime.Theory
