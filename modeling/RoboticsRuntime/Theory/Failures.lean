import RoboticsRuntime.Theory.Checks

/-!
# The errors of a program

What the errors of a program in `Except` have in common. The rules are equivalences, so that they
compute the weakest condition under which a program fails only in permitted ways.
-/

namespace RoboticsRuntime.Theory

variable {ε ε' α β : Type}

/-- Every error of a program is permitted. -/
def FailsOnly (P : ε → Prop) (x : Except ε α) : Prop := ∀ e, x = .error e → P e

namespace FailsOnly
variable {P : ε → Prop}

@[simp] theorem ok (a : α) : FailsOnly P (.ok a : Except ε α) := nofun

@[simp] theorem pure (a : α) : FailsOnly P (Pure.pure a : Except ε α) := nofun

theorem error_iff {e : ε} : FailsOnly P (.error e : Except ε α) ↔ P e :=
  ⟨fun h => h e rfl, fun h _ he => Except.error.inj he ▸ h⟩

theorem require_iff {p : Prop} [Decidable p] {e : ε} : FailsOnly P (require p e) ↔ p ∨ P e := by
  unfold require
  split
  · next h => exact ⟨fun _ => .inl h, fun _ => ok ()⟩
  · next h => rw [error_iff, or_iff_right h]

theorem demand {o : Option α} {e : ε} (h : P e) : FailsOnly P (Theory.demand o e) := by
  cases o with
  | none => exact error_iff.2 h
  | some a => exact ok a

theorem bind_iff {x : Except ε α} {f : α → Except ε β} :
    FailsOnly P (x >>= f) ↔ FailsOnly P x ∧ ∀ a, x = .ok a → FailsOnly P (f a) := by
  constructor
  · intro h
    exact ⟨fun e he => h e (bind_eq_error.2 (.inl he)),
      fun a ha e he => h e (bind_eq_error.2 (.inr ⟨a, ha, he⟩))⟩
  · intro ⟨hx, hf⟩ e he
    rcases bind_eq_error.1 he with he | ⟨a, ha, he⟩
    · exact hx e he
    · exact hf a ha e he

/-- After a check with a permitted error, its condition can be assumed. -/
theorem require_bind_iff {p : Prop} [Decidable p] {e : ε} (he : P e) {f : Unit → Except ε α} :
    FailsOnly P (require p e >>= f) ↔ (p → FailsOnly P (f ())) := by
  rw [bind_iff, and_iff_right (require_iff.2 (.inr he))]
  exact ⟨fun h hp => h () (require_of hp), fun h _ hp => h (require_eq_ok.1 hp)⟩

theorem bind {x : Except ε α} {f : α → Except ε β} (hx : FailsOnly P x)
    (hf : ∀ a, x = .ok a → FailsOnly P (f a)) : FailsOnly P (x >>= f) :=
  bind_iff.2 ⟨hx, hf⟩

theorem mono {Q : ε → Prop} {x : Except ε α} (h : FailsOnly P x) (hPQ : ∀ e, P e → Q e) :
    FailsOnly Q x :=
  fun e he => hPQ e (h e he)

/-- A check of every element fails as one of the checks does. -/
theorem forM {l : List α} {f : α → Except ε Unit} (h : ∀ a ∈ l, FailsOnly P (f a)) :
    FailsOnly P (ForM.forM l f) := by
  induction l with
  | nil => exact ok ()
  | cons a l ih =>
    obtain ⟨ha, hl⟩ := List.forall_mem_cons.1 h
    rw [List.forM_cons]
    exact ha.bind fun _ _ => ih hl

/-- A function over a list fails at the first element where it does. -/
theorem mapM_iff {l : List α} {f : α → Except ε β} :
    FailsOnly P (l.mapM f) ↔ ∀ before a after, l = before ++ a :: after →
      (∀ b ∈ before, ∃ r, f b = .ok r) → FailsOnly P (f a) := by
  induction l with
  | nil => exact ⟨fun _ before a after h => by simp at h, fun _ => ok []⟩
  | cons a l ih =>
    rw [List.mapM_cons, bind_iff]
    constructor
    · rintro ⟨ha, hl⟩ before b after heq hbefore
      cases before with
      | nil =>
        obtain ⟨rfl, -⟩ := List.cons.inj heq
        exact ha
      | cons c before =>
        obtain ⟨rfl, htail⟩ : a = c ∧ l = before ++ b :: after := by simpa using heq
        obtain ⟨⟨r, hr⟩, hbefore⟩ := List.forall_mem_cons.1 hbefore
        exact ih.1 (bind_iff.1 (hl r hr)).1 before b after htail hbefore
    · intro h
      refine ⟨h [] a l rfl (by simp), fun r hr => bind ?_ fun _ _ => pure _⟩
      refine ih.2 fun before b after heq hbefore => ?_
      exact h (a :: before) b after (by rw [heq, List.cons_append])
        (List.forall_mem_cons.2 ⟨⟨r, hr⟩, hbefore⟩)

theorem mapM {l : List α} {f : α → Except ε β} (h : ∀ a ∈ l, FailsOnly P (f a)) :
    FailsOnly P (l.mapM f) :=
  mapM_iff.2 fun before a after heq _ => h a (heq ▸ by simp)

end FailsOnly

end RoboticsRuntime.Theory
