import RoboticsRuntime.Theory.Checks

/-!
# Folds that may fail

A fold over a stream judges each element by what came before it. Where an invariant relates the state
to the elements read, and decides which element may come next, the fold succeeds on the streams whose
elements are all permitted in their place.
-/

namespace RoboticsRuntime.Theory

variable {ε α σ : Type} {P : List α → α → Prop}

/-- Every element of a stream satisfies a condition on it and what is before it. -/
def EachAfter (P : List α → α → Prop) (l : List α) : Prop :=
  ∀ before a after, l = before ++ a :: after → P before a

theorem eachAfter_nil : EachAfter P [] := fun _ _ _ h => by simp at h

theorem eachAfter_concat {l : List α} {a : α} : EachAfter P (l ++ [a]) ↔ EachAfter P l ∧ P l a := by
  constructor
  · intro h
    refine ⟨fun before b after hl => h before b (after ++ [a]) ?_, h l a [] rfl⟩
    rw [hl, List.append_assoc, List.cons_append]
  · rintro ⟨hl, ha⟩ before b after h
    rcases List.eq_nil_or_concat after with rfl | ⟨rest, c, rfl⟩
    · obtain ⟨rfl, hab⟩ := List.append_inj' h rfl
      cases hab
      exact ha
    · rw [List.concat_eq_append, ← List.cons_append, ← List.append_assoc] at h
      obtain ⟨rfl, -⟩ := List.append_inj' h rfl
      exact hl before b rest rfl

/-- Elements of one key agree when each agrees with those before it. -/
theorem eq_of_eachAfter {β κ : Type} {l : List α} (h : EachAfter P l) {f : β → α}
    (hf : Function.Injective f) {key : β → κ}
    (hP : ∀ before b b', P before (f b) → f b' ∈ before → key b' = key b → b' = b) {b b' : β}
    (hb : f b ∈ l) (hb' : f b' ∈ l) (hkey : key b = key b') : b = b' := by
  obtain ⟨before, after, rfl⟩ := List.append_of_mem hb
  rcases List.mem_append.1 hb' with hm | hm
  · exact (hP before b b' (h before _ after rfl) hm hkey.symm).symm
  rcases List.mem_cons.1 hm with he | hm
  · exact hf he.symm
  · obtain ⟨rest, tail, rfl⟩ := List.append_of_mem hm
    exact hP (before ++ f b :: rest) b' b (h _ _ tail (by simp)) (by simp) hkey

/-- A fold succeeds when every element is permitted after those before it, and then keeps its
invariant. -/
theorem foldlM_eachAfter {step : σ → α → Except ε σ} {initial : σ} (Inv : σ → List α → Prop)
    (hinitial : Inv initial [])
    (hpermitted : ∀ s l a, Inv s l → ((∃ s', step s a = .ok s') ↔ P l a))
    (hstep : ∀ s l a s', Inv s l → step s a = .ok s' → Inv s' (l ++ [a])) (l : List α) :
    ((∃ s, l.foldlM step initial = .ok s) ↔ EachAfter P l) ∧
      ∀ s, l.foldlM step initial = .ok s → Inv s l := by
  induction l using List.reverseRecOn with
  | nil =>
    refine ⟨⟨fun _ => eachAfter_nil, fun _ => ⟨initial, rfl⟩⟩, fun s h => ?_⟩
    obtain rfl := Except.ok.inj h
    exact hinitial
  | append_singleton l a ih =>
    obtain ⟨haccepts, hinv⟩ := ih
    have hrun (s : σ) : (l ++ [a]).foldlM step initial = .ok s ↔
        ∃ s', l.foldlM step initial = .ok s' ∧ step s' a = .ok s := by
      simp only [List.foldlM_append, List.foldlM_cons, List.foldlM_nil, bind_pure, bind_eq_ok]
    rw [eachAfter_concat, ← haccepts]
    constructor
    · constructor
      · rintro ⟨s, hs⟩
        obtain ⟨s', hs', ha⟩ := (hrun s).1 hs
        exact ⟨⟨s', hs'⟩, (hpermitted s' l a (hinv s' hs')).1 ⟨s, ha⟩⟩
      · rintro ⟨⟨s', hs'⟩, hp⟩
        obtain ⟨s, ha⟩ := (hpermitted s' l a (hinv s' hs')).2 hp
        exact ⟨s, (hrun s).2 ⟨s', hs', ha⟩⟩
    · intro s hs
      obtain ⟨s', hs', ha⟩ := (hrun s).1 hs
      exact hstep s' l a s (hinv s' hs') ha

end RoboticsRuntime.Theory
