import Mathlib.Data.List.Nodup

/-!
# Tables of rows

A table is a list of rows. A query selects the rows that meet a condition, and an update changes
them. Rows are addressed by attributes, of which the key of a table identifies a row.
-/

namespace RoboticsRuntime.Theory

variable {ρ κ α : Type} [DecidableEq κ]

/-- The rows with a value of an attribute. -/
def rowsWith (key : ρ → κ) (k : κ) (table : List ρ) : List ρ := table.filter fun r => key r = k

/-- The rows with a value of an attribute, changed. -/
def updateWith (key : ρ → κ) (k : κ) (f : ρ → ρ) (table : List ρ) : List ρ :=
  table.map fun r => if key r = k then f r else r

variable {key : ρ → κ} {attr : ρ → α} {k : κ} {f : ρ → ρ} {table : List ρ}

@[simp] theorem mem_rowsWith : r ∈ rowsWith key k table ↔ r ∈ table ∧ key r = k := by
  simp [rowsWith]

theorem rowsWith_append (t t' : List ρ) :
    rowsWith key k (t ++ t') = rowsWith key k t ++ rowsWith key k t' :=
  List.filter_append ..

theorem mem_updateWith : r ∈ updateWith key k f table ↔
    ∃ r' ∈ table, r = if key r' = k then f r' else r' := by
  simp [updateWith, eq_comm]

/-- An update keeps an attribute that it keeps in each row. -/
theorem map_updateWith (h : ∀ r, attr (f r) = attr r) :
    (updateWith key k f table).map attr = table.map attr := by
  unfold updateWith
  rw [List.map_map]
  apply List.map_congr_left
  intro r _
  dsimp only [Function.comp]
  split
  · exact h r
  · rfl

@[simp] theorem length_updateWith : (updateWith key k f table).length = table.length :=
  List.length_map ..

/-- An update of rows selects the same rows by an attribute that it keeps. -/
theorem rowsWith_updateWith [DecidableEq α] (h : ∀ r, attr (f r) = attr r) (a : α) :
    rowsWith attr a (updateWith key k f table) = updateWith key k f (rowsWith attr a table) := by
  unfold rowsWith updateWith
  rw [List.filter_map]
  congr 1
  apply List.filter_congr
  intro r _
  dsimp only [Function.comp]
  split
  · rw [h r]
  · rfl

/-- Rows with another key are not updated. -/
theorem rowsWith_updateWith_of_ne (h : ∀ r, key (f r) = key r) (hne : k' ≠ k) :
    rowsWith key k' (updateWith key k f table) = rowsWith key k' table := by
  rw [rowsWith_updateWith h]
  unfold updateWith
  apply (List.map_congr_left _).trans (List.map_id _)
  intro r hr
  rw [if_neg fun hk => hne ((mem_rowsWith.1 hr).2.symm.trans hk)]
  rfl

theorem rowsWith_updateWith_self (h : ∀ r, key (f r) = key r) :
    rowsWith key k (updateWith key k f table) = (rowsWith key k table).map f := by
  rw [rowsWith_updateWith h]
  unfold updateWith
  apply List.map_congr_left
  intro r hr
  rw [if_pos (mem_rowsWith.1 hr).2]

/-- A row that is replaced by one with the same attribute. -/
theorem map_set_of_eq {r r' : ρ} {i : ℕ} (h : table[i]? = some r) (hattr : attr r' = attr r) :
    (table.set i r').map attr = table.map attr := by
  obtain ⟨hi, rfl⟩ := List.getElem?_eq_some_iff.1 h
  rw [List.map_set, hattr, ← List.getElem_map attr, List.set_getElem_self]
  simpa using hi

end RoboticsRuntime.Theory
