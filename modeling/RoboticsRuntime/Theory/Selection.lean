import Mathlib.Data.List.Basic
import Mathlib.Data.List.Forall2

/-!
# First admissible selections

A selection takes one element from each layer of a list of layers. `selections` lists them in
lexicographic order of the positions of their elements. A backtracking search looks for the first
one whose consecutive elements are related; `FirstIn` says that an answer is that one, and its
rules follow the recursion of such a search: try the elements of a layer in order, search the
remaining layers, and fail when no element of the layer leads anywhere.
-/

namespace RoboticsRuntime.Theory

variable {γ : Type}

/-- The selections of one element per layer, in lexicographic order. -/
def selections : List (List γ) → List (List γ)
  | [] => [[]]
  | layer :: layers => layer.flatMap fun a => (selections layers).map (a :: ·)

theorem mem_selections_cons {layer : List γ} {layers : List (List γ)} {x : List γ} :
    x ∈ selections (layer :: layers) ↔ ∃ a ∈ layer, ∃ y ∈ selections layers, x = a :: y := by
  simp only [selections, List.mem_flatMap, List.mem_map]
  exact ⟨fun ⟨a, ha, y, hy, h⟩ => ⟨a, ha, y, hy, h.symm⟩,
    fun ⟨a, ha, y, hy, h⟩ => ⟨a, ha, y, hy, h.symm⟩⟩

/-- A selection takes its elements from the layers, position by position. -/
theorem mem_selections_iff {layers : List (List γ)} {x : List γ} :
    x ∈ selections layers ↔ List.Forall₂ (· ∈ ·) x layers := by
  induction layers generalizing x with
  | nil =>
    rw [List.forall₂_nil_right_iff]
    simp [selections]
  | cons layer layers ih =>
    rw [mem_selections_cons]
    constructor
    · rintro ⟨a, ha, y, hy, rfl⟩
      exact .cons ha (ih.1 hy)
    · rintro (_ | ⟨ha, hy⟩)
      exact ⟨_, ha, _, ih.2 hy, rfl⟩

/-! ## The first element with a property -/

/-- `o` is the first element of `l` with `P`, or says that there is none. -/
def FirstIn (P : γ → Prop) (l : List γ) : Option γ → Prop
  | none => ∀ x ∈ l, ¬ P x
  | some a => ∃ before after, l = before ++ a :: after ∧ P a ∧ ∀ x ∈ before, ¬ P x

namespace FirstIn
variable {P Q : γ → Prop} {l l₁ l₂ : List γ} {o : Option γ} {a : γ}

theorem mem (h : FirstIn P l (some a)) : a ∈ l := by
  obtain ⟨_, _, rfl, -, -⟩ := h
  exact List.mem_append_right _ List.mem_cons_self

theorem holds (h : FirstIn P l (some a)) : P a := by
  obtain ⟨_, _, -, h, -⟩ := h
  exact h

/-- There is an answer exactly when an element has the property. -/
theorem isSome_iff (h : FirstIn P l o) : o.isSome ↔ ∃ x ∈ l, P x := by
  cases o with
  | none => simpa [FirstIn] using h
  | some a => simpa using ⟨a, h.mem, h.holds⟩

theorem congr (hPQ : ∀ x ∈ l, P x ↔ Q x) (h : FirstIn P l o) : FirstIn Q l o := by
  cases o with
  | none => exact fun x hx hq => h x hx ((hPQ x hx).2 hq)
  | some a =>
    obtain ⟨before, after, rfl, ha, hb⟩ := h
    refine ⟨before, after, rfl, (hPQ a (by simp)).1 ha, fun x hx hq => ?_⟩
    exact hb x hx ((hPQ x (List.mem_append_left _ hx)).2 hq)

/-- The first element with a property is unique. -/
theorem unique {o' : Option γ} (h : FirstIn P l o) (h' : FirstIn P l o') : o = o' := by
  induction l generalizing o o' with
  | nil =>
    cases o with
    | some a => exact absurd h.mem List.not_mem_nil
    | none =>
      cases o' with
      | some a => exact absurd h'.mem List.not_mem_nil
      | none => rfl
  | cons b l ih =>
    have head {o : Option γ} (h : FirstIn P (b :: l) o) :
        (P b ∧ o = some b) ∨ (¬ P b ∧ FirstIn P l o) := by
      cases o with
      | none => exact .inr ⟨h b List.mem_cons_self, fun x hx => h x (List.mem_cons_of_mem _ hx)⟩
      | some a =>
        obtain ⟨before, after, hl, ha, hb⟩ := h
        cases before with
        | nil => cases hl; exact .inl ⟨ha, rfl⟩
        | cons c before =>
          cases hl
          exact .inr ⟨hb _ List.mem_cons_self, before, after, rfl, ha,
            fun x hx => hb x (List.mem_cons_of_mem _ hx)⟩
    rcases head h with ⟨hb, rfl⟩ | ⟨hb, h⟩ <;> rcases head h' with ⟨hb', rfl⟩ | ⟨hb', h'⟩
    · rfl
    · exact absurd hb hb'
    · exact absurd hb' hb
    · exact ih h h'

theorem append_left (h : FirstIn P l₁ (some a)) : FirstIn P (l₁ ++ l₂) (some a) := by
  obtain ⟨before, after, rfl, ha, hb⟩ := h
  exact ⟨before, after ++ l₂, by simp, ha, hb⟩

theorem append_right (h₁ : ∀ x ∈ l₁, ¬ P x) (h : FirstIn P l₂ o) : FirstIn P (l₁ ++ l₂) o := by
  cases o with
  | none =>
    intro x hx
    rcases List.mem_append.1 hx with hx | hx
    · exact h₁ x hx
    · exact h x hx
  | some a =>
    obtain ⟨before, after, rfl, ha, hb⟩ := h
    refine ⟨l₁ ++ before, after, by simp, ha, fun x hx => ?_⟩
    rcases List.mem_append.1 hx with hx | hx
    · exact h₁ x hx
    · exact hb x hx

/-- The first element of a concatenation lies in the first list, or the first list has none. -/
theorem of_append (h : FirstIn P (l₁ ++ l₂) o) :
    (∃ a, o = some a ∧ FirstIn P l₁ (some a)) ∨ (∀ x ∈ l₁, ¬ P x) ∧ FirstIn P l₂ o := by
  by_cases hn : ∀ x ∈ l₁, ¬ P x
  · refine .inr ⟨hn, ?_⟩
    cases o with
    | none => exact fun x hx => h x (List.mem_append_right _ hx)
    | some a =>
      obtain ⟨before, after, hl, ha, hb⟩ := h
      rcases List.append_eq_append_iff.1 hl with ⟨c, rfl, rfl⟩ | ⟨c, rfl, hc⟩
      · exact ⟨c, after, rfl, ha, fun x hx => hb x (List.mem_append_right _ hx)⟩
      · cases c with
        | nil => exact ⟨[], after, by simpa using hc.symm, ha, fun _ h => absurd h List.not_mem_nil⟩
        | cons b c =>
          cases hc
          exact absurd ha (hn a (by simp))
  · push Not at hn
    obtain ⟨x, hx, hPx⟩ := hn
    cases o with
    | none => exact absurd hPx (h x (List.mem_append_left _ hx))
    | some a =>
      obtain ⟨before, after, hl, ha, hb⟩ := h
      refine .inl ⟨a, rfl, ?_⟩
      rcases List.append_eq_append_iff.1 hl with ⟨c, rfl, rfl⟩ | ⟨c, rfl, hc⟩
      · exact absurd hPx (hb x (List.mem_append_left _ hx))
      · cases c with
        | nil =>
          rw [List.append_nil] at hx
          exact absurd hPx (hb x hx)
        | cons b c =>
          cases hc
          exact ⟨before, c, rfl, ha, hb⟩

theorem map {δ : Type} {f : γ → δ} {P : δ → Prop} (h : FirstIn (fun x => P (f x)) l o) :
    FirstIn P (l.map f) (o.map f) := by
  cases o with
  | none =>
    intro y hy
    obtain ⟨x, hx, rfl⟩ := List.mem_map.1 hy
    exact h x hx
  | some a =>
    obtain ⟨before, after, rfl, ha, hb⟩ := h
    refine ⟨before.map f, after.map f, by simp, ha, fun y hy => ?_⟩
    obtain ⟨x, hx, rfl⟩ := List.mem_map.1 hy
    exact hb x hx

end FirstIn

/-! ## Selections whose consecutive elements are related

An element leaves a state behind (`out`), and `R` says which elements may come next in a state. -/

variable {σ : Type} {R : σ → γ → Prop} {out : γ → σ}

/-- `a` may come next; at the start every element may. -/
def MayFollow (R : σ → γ → Prop) : Option σ → γ → Prop
  | none, _ => True
  | some state, a => R state a

/-- Each element of the selection may follow what comes before it. -/
def Linked (R : σ → γ → Prop) (out : γ → σ) : Option σ → List γ → Prop
  | _, [] => True
  | previous, a :: x => MayFollow R previous a ∧ Linked R out (some (out a)) x

/-- From the start, a selection is linked when it is a chain. -/
theorem linked_none_iff {x : List γ} :
    Linked R out none x ↔ x.IsChain fun a b => R (out a) b := by
  cases x with
  | nil => simp [Linked]
  | cons a x =>
    simp only [Linked, MayFollow, true_and]
    induction x generalizing a with
    | nil => simp [Linked]
    | cons b x ih => simp only [Linked, MayFollow, List.isChain_cons_cons, ih]

/-- What follows a state depends only on what may come right after it. -/
theorem linked_congr {p q : σ} (h : ∀ a, R p a ↔ R q a) (x : List γ) :
    Linked R out (some p) x ↔ Linked R out (some q) x := by
  cases x with
  | nil => rfl
  | cons a x => simp only [Linked, MayFollow, h]

/-! The rules of a search at a layer: no element left, an element below which the search
succeeds, one below which it fails, and the elements that may not follow at all. -/

section
variable {previous : Option σ} {a : γ} {layer : List γ} {layers : List (List γ)}
  {o : Option (List γ)} {y : List γ}

theorem firstIn_nil : FirstIn (Linked R out previous) (selections ([] :: layers)) none :=
  fun _ h => absurd h List.not_mem_nil

private theorem not_linked_of_dead
    (h : ¬ MayFollow R previous a ∨ FirstIn (Linked R out (some (out a))) (selections layers) none) :
    ∀ x ∈ (selections layers).map (a :: ·), ¬ Linked R out previous x := by
  intro x hx hl
  obtain ⟨z, hz, rfl⟩ := List.mem_map.1 hx
  obtain ⟨hf, hl⟩ := hl
  rcases h with h | h
  · exact h hf
  · exact h z hz hl

theorem firstIn_found (hf : MayFollow R previous a)
    (h : FirstIn (Linked R out (some (out a))) (selections layers) (some y)) :
    FirstIn (Linked R out previous) (selections ((a :: layer) :: layers)) (some (a :: y)) := by
  simp only [selections, List.flatMap_cons]
  have hmap : FirstIn (Linked R out previous) ((selections layers).map (a :: ·))
      ((some y).map (a :: ·)) :=
    FirstIn.map (h.congr fun x _ => by simp [Linked, hf])
  exact hmap.append_left

theorem firstIn_dead
    (h : ¬ MayFollow R previous a ∨ FirstIn (Linked R out (some (out a))) (selections layers) none)
    (ih : FirstIn (Linked R out previous) (selections (layer :: layers)) o) :
    FirstIn (Linked R out previous) (selections ((a :: layer) :: layers)) o := by
  simp only [selections, List.flatMap_cons] at ih ⊢
  exact ih.append_right (not_linked_of_dead h)

/-- A search may look only at the elements that may follow. -/
theorem firstIn_filter {p : γ → Bool} (hp : ∀ a ∈ layer, p a = true ↔ MayFollow R previous a)
    (h : FirstIn (Linked R out previous) (selections (layer.filter p :: layers)) o) :
    FirstIn (Linked R out previous) (selections (layer :: layers)) o := by
  induction layer generalizing o with
  | nil => exact h
  | cons a layer ih =>
    obtain ⟨ha, hp⟩ := List.forall_mem_cons.1 hp
    by_cases hf : MayFollow R previous a
    · rw [List.filter_cons_of_pos (ha.2 hf)] at h
      simp only [selections, List.flatMap_cons] at h ⊢
      rcases h.of_append with ⟨y, rfl, hy⟩ | ⟨hn, hrest⟩
      · exact hy.append_left
      · exact (ih hp hrest).append_right hn
    · rw [List.filter_cons_of_neg (mt ha.1 hf)] at h
      exact firstIn_dead (.inl hf) (ih hp h)

end

end RoboticsRuntime.Theory
