import Mathlib.Data.Rat.Defs
import RoboticsRuntime.Theory.Rounding

/-!
# What the model takes from Python

Floats are rationals. The operations whose value the model does not fix are collected in `PyOps`:
how the exact result of a float operation is rounded, and how numbers and texts are printed in
messages. Times are whole microseconds in the range of `datetime`.
-/

namespace RoboticsRuntime
open Theory

/-- Host operations of Python that the results below leave open. -/
structure PyOps where
  /-- The float nearest to an exact result. -/
  fl : ℚ → ℚ
  /-- `str` of a float. -/
  number : ℚ → String
  /-- `str` of a number of a document, which is an integer or a float. -/
  declared : ℚ → String
  /-- `repr` of a string. -/
  text : String → String

/-- `repr` of a list of strings. -/
def reprList (py : PyOps) (items : List String) : String :=
  "[" ++ ", ".intercalate (items.map py.text) ++ "]"

/-- Operations that do not round. -/
def PyOps.exact : PyOps := ⟨id, toString, toString, id⟩

/-- What rounding to the nearest float keeps: order, zero and one, and the sign of a number in the
range of normal floats. -/
structure PyOps.Nearest (py : PyOps) : Prop where
  mono : Monotone py.fl
  zero : py.fl 0 = 0
  one : py.fl 1 = 1
  neg : ∀ x : ℚ, x ≤ -(1 / 2 ^ 1022) → py.fl x < 0

/-- The lengths of printed numbers: a float has at most 24 characters, and so has a number of a
document below 10 ^ 24. -/
structure PyOps.ShortNumbers (py : PyOps) : Prop where
  number : ∀ x, (py.number x).length ≤ 24
  declared : ∀ x, 0 ≤ x → x < 10 ^ 24 → (py.declared x).length ≤ 24

/-- `OverflowError` of `datetime` arithmetic. -/
structure OverflowError where
  message : String
  deriving DecidableEq, Repr

/-- `datetime.min` and `datetime.max` in UTC, in microseconds since the epoch. -/
def minDatetimeUs : ℤ := -62135596800000000

def maxDatetimeUs : ℤ := 253402300799999999

/-- A `datetime` in UTC. -/
structure Timestamp where
  us : ℤ
  min_le : minDatetimeUs ≤ us
  le_max : us ≤ maxDatetimeUs
  deriving DecidableEq, Repr

/-- `_UNIX_EPOCH`. -/
def Timestamp.epoch : Timestamp := ⟨0, by decide, by decide⟩

/-- The `datetime` that many microseconds after the epoch. -/
def Timestamp.ofUs (us : ℤ) : Except OverflowError Timestamp :=
  if h : minDatetimeUs ≤ us ∧ us ≤ maxDatetimeUs then .ok ⟨us, h.1, h.2⟩
  else .error ⟨"date value out of range"⟩

theorem Timestamp.ofUs_eq_ok {us : ℤ} {t : Timestamp} :
    Timestamp.ofUs us = .ok t ↔ t.us = us := by
  unfold Timestamp.ofUs
  obtain ⟨v, h1, h2⟩ := t
  split
  · simp [eq_comm]
  · next h =>
    simp only [reduceCtorEq, false_iff]
    rintro rfl
    exact h ⟨h1, h2⟩

theorem Timestamp.exists_ofUs {us : ℤ} :
    (∃ t, Timestamp.ofUs us = .ok t) ↔ minDatetimeUs ≤ us ∧ us ≤ maxDatetimeUs :=
  ⟨fun ⟨t, h⟩ => Timestamp.ofUs_eq_ok.1 h ▸ ⟨t.min_le, t.le_max⟩,
    fun h => ⟨⟨us, h.1, h.2⟩, Timestamp.ofUs_eq_ok.2 rfl⟩⟩

/-- The microseconds of `timedelta(seconds=seconds)`: whole seconds exactly, and the fraction
rounded half to even. -/
def timedeltaUs (py : PyOps) (seconds : ℚ) : ℤ :=
  ⌊seconds⌋ * 1000000 + roundHalfEven (py.fl ((seconds - ⌊seconds⌋) * 1000000))

/-- `(finished - started).total_seconds()`. -/
def totalSeconds (py : PyOps) (started finished : Timestamp) : ℚ :=
  py.fl ((finished.us - started.us : ℤ) / 1000000)

end RoboticsRuntime
