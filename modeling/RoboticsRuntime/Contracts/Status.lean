import Mathlib.Order.Basic
import Mathlib.Data.List.MinMax
import RoboticsRuntime.Contracts.Errors

/-!
# Outcome statuses and their worst element

`status.py`: an outcome is one of six statuses, ordered by how bad it is, and a collection of
outcomes has the status of its worst member. The fold depends only on which statuses occur
(`worstStatus_congr`), so a Python set of statuses is modelled by the list of its insertions.
-/

namespace RoboticsRuntime.Contracts

/-- `status.OutcomeStatus`, in the order of its definition. -/
inductive OutcomeStatus where
  | passed
  | skipped
  | cancelled
  | incomplete
  | failed
  | error
  deriving DecidableEq, Repr

namespace OutcomeStatus

/-- `status._PRIORITY`. -/
def priority : OutcomeStatus → ℕ
  | passed => 0
  | skipped => 1
  | cancelled => 2
  | incomplete => 3
  | failed => 4
  | error => 5

/-- The value of a status as `StrEnum`. -/
def name : OutcomeStatus → String
  | passed => "passed"
  | skipped => "skipped"
  | cancelled => "cancelled"
  | incomplete => "incomplete"
  | failed => "failed"
  | error => "error"

theorem priority_injective : Function.Injective priority := by
  intro a b h
  cases a <;> cases b <;> first | rfl | cases h

instance : LinearOrder OutcomeStatus := LinearOrder.lift' priority priority_injective

theorem le_error (a : OutcomeStatus) : a ≤ error := by
  cases a <;> decide

theorem passed_le (a : OutcomeStatus) : passed ≤ a := by
  cases a <;> decide

end OutcomeStatus

/-- `status.worst_status`. -/
def worstStatus (statuses : List OutcomeStatus) (collapseCancelled : Bool) :
    Except ContractError OutcomeStatus :=
  match statuses.max? with
  | none => .error { message := "at least one status is required", errorId := "status.invalid" }
  | some status =>
    if collapseCancelled && status = .cancelled then .ok .incomplete else .ok status

/-- The worst status is a bound of the collection that belongs to it. -/
theorem max?_eq_some {statuses : List OutcomeStatus} {a : OutcomeStatus} :
    statuses.max? = some a ↔ a ∈ statuses ∧ ∀ b ∈ statuses, b ≤ a :=
  List.max?_eq_some_iff

theorem max?_congr {l l' : List OutcomeStatus} (h : ∀ a, a ∈ l ↔ a ∈ l') : l.max? = l'.max? := by
  cases hl : l.max? with
  | none =>
    rw [List.max?_eq_none_iff] at hl
    subst hl
    cases l' with
    | nil => rfl
    | cons a _ => exact absurd ((h a).2 List.mem_cons_self) List.not_mem_nil
  | some a =>
    obtain ⟨hm, hb⟩ := max?_eq_some.1 hl
    exact (max?_eq_some.2 ⟨(h a).1 hm, fun b hb' => hb b ((h b).2 hb')⟩).symm

/-- The worst status depends only on the set of statuses. -/
theorem worstStatus_congr {l l' : List OutcomeStatus} (h : ∀ a, a ∈ l ↔ a ∈ l') (c : Bool) :
    worstStatus l c = worstStatus l' c := by
  simp only [worstStatus, max?_congr h]

/-- Without a cancelled member, the worst status is the greatest member. -/
theorem worstStatus_eq_ok {l : List OutcomeStatus} (hc : .cancelled ∉ l) {c : Bool}
    {a : OutcomeStatus} : worstStatus l c = .ok a ↔ a ∈ l ∧ ∀ b ∈ l, b ≤ a := by
  rw [← max?_eq_some, worstStatus]
  cases hm : l.max? with
  | none => simp
  | some b =>
    have hb : b ≠ .cancelled := fun h => hc (h ▸ (max?_eq_some.1 hm).1)
    simp [hb]

/-- A nonempty collection has a worst status. -/
theorem exists_worstStatus {l : List OutcomeStatus} (hl : l ≠ []) (c : Bool) :
    ∃ a, worstStatus l c = .ok a := by
  unfold worstStatus
  cases hm : l.max? with
  | none => exact absurd (List.max?_eq_none_iff.1 hm) hl
  | some b =>
    dsimp only
    split
    · exact ⟨_, rfl⟩
    · exact ⟨_, rfl⟩

/-- A least element may be added to a nonempty collection. -/
theorem worstStatus_passed_cons {l : List OutcomeStatus} (hl : l ≠ []) (c : Bool) :
    worstStatus (.passed :: l) c = worstStatus l c := by
  cases hm : l.max? with
  | none => exact absurd (List.max?_eq_none_iff.1 hm) hl
  | some a =>
    have hcons : (OutcomeStatus.passed :: l).max? = some a := by
      obtain ⟨hmem, hb⟩ := max?_eq_some.1 hm
      refine max?_eq_some.2 ⟨List.mem_cons_of_mem _ hmem, fun b hb' => ?_⟩
      rcases List.mem_cons.1 hb' with rfl | hb'
      · exact a.passed_le
      · exact hb b hb'
    simp only [worstStatus, hcons, hm]

end RoboticsRuntime.Contracts
