import Mathlib.Logic.Function.Basic
import RoboticsRuntime.Theory.Transition

/-!
# Interleaved threads that hold locks

Threads take turns over a shared state. What a thread holds follows from its local state, and a
step that needs a lock waits until no other thread holds it. A proof of such a system gives an
invariant of the shared state and an assertion about it for each local state: a step keeps the
invariant, establishes the assertion of its thread, and keeps the assertion of every thread that
holds none of its locks.
-/

namespace RoboticsRuntime.Theory
open Relation

/-- The steps of one thread, and the locks that its local state holds. -/
structure Threads (σ τ κ : Type) where
  step : σ → τ → σ → τ → Prop
  holds : τ → κ → Prop

namespace Threads

variable {σ τ κ ι : Type} [DecidableEq ι] (S : Threads σ τ κ)

/-- A shared state with the local state of every thread. -/
structure Config (σ τ ι : Type) where
  shared : σ
  thread : ι → τ

/-- One thread takes a step, and holds no lock afterwards that another one holds. -/
inductive Step : Config σ τ ι → Config σ τ ι → Prop where
  | intro (c : Config σ τ ι) (i : ι) (s : σ) (t : τ) (step : S.step c.shared (c.thread i) s t)
      (free : ∀ k, S.holds t k → ∀ j ≠ i, ¬ S.holds (c.thread j) k) :
      Step c ⟨s, Function.update c.thread i t⟩

/-- The local state `u` holds no lock that a step from `t` to `t'` uses. -/
def Apart (u t t' : τ) : Prop := ∀ k, S.holds u k → ¬ (S.holds t k ∨ S.holds t' k)

/-- An invariant and assertions that every step keeps. -/
structure Keeps (inv : σ → Prop) (assertion : τ → σ → Prop) : Prop where
  shared : ∀ {s t s' t'}, S.step s t s' t' → inv s → assertion t s → inv s'
  own : ∀ {s t s' t'}, S.step s t s' t' → inv s → assertion t s → assertion t' s'
  other : ∀ {s t s' t' u}, S.step s t s' t' → inv s → assertion t s → assertion u s →
    S.Apart u t t' → assertion u s'

/-- No lock has two holders, and the invariant and every assertion hold. -/
structure Consistent (inv : σ → Prop) (assertion : τ → σ → Prop) (c : Config σ τ ι) : Prop where
  exclusive : ∀ i j k, S.holds (c.thread i) k → S.holds (c.thread j) k → i = j
  shared : inv c.shared
  own : ∀ i, assertion (c.thread i) c.shared

variable {S} {inv : σ → Prop} {assertion : τ → σ → Prop} {c c' : Config σ τ ι}

theorem Keeps.step (h : S.Keeps inv assertion) (hs : S.Step c c')
    (hc : S.Consistent inv assertion c) : S.Consistent inv assertion c' := by
  obtain ⟨i, s, t, hstep, hfree⟩ := hs
  have hown := hc.own i
  constructor
  · intro a b k ha hb
    dsimp only at ha hb
    rcases eq_or_ne a i with rfl | hai <;> rcases eq_or_ne b a with rfl | hba
    · rfl
    · rw [Function.update_self] at ha
      rw [Function.update_of_ne hba] at hb
      exact absurd hb (hfree k ha b hba)
    · rfl
    · rw [Function.update_of_ne hai] at ha
      rcases eq_or_ne b i with rfl | hbi
      · rw [Function.update_self] at hb
        exact absurd ha (hfree k hb a hai)
      · rw [Function.update_of_ne hbi] at hb
        exact hc.exclusive a b k ha hb
  · exact h.shared hstep hc.shared hown
  · intro j
    dsimp only
    rcases eq_or_ne j i with rfl | hji
    · rw [Function.update_self]
      exact h.own hstep hc.shared hown
    · rw [Function.update_of_ne hji]
      apply h.other hstep hc.shared hown (hc.own j)
      intro k hk hused
      rcases hused with hk' | hk'
      · exact hji (hc.exclusive j i k hk hk')
      · exact hfree k hk' j hji hk

/-- The invariant and the assertions hold in every reachable configuration. -/
theorem Keeps.reachable {init : Config σ τ ι → Prop} (h : S.Keeps inv assertion)
    (hinit : ∀ c, init c → S.Consistent inv assertion c) (hr : Reachable init S.Step c) :
    S.Consistent inv assertion c :=
  hr.invariant hinit fun _ _ => h.step

end Threads

end RoboticsRuntime.Theory
