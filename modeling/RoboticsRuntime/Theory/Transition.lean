import Mathlib.Logic.Relation

/-!
# Runs of a step relation

States reached from an initial state, and the two rules by which a fact about one step becomes a
fact about every run: an invariant holds wherever a run leads, and a relation that every step
respects relates the ends of a run.
-/

namespace RoboticsRuntime.Theory
open Relation

variable {σ : Type} {start : σ → Prop} {step : σ → σ → Prop}

/-- A state that some run from an initial state leads to. -/
def Reachable (start : σ → Prop) (step : σ → σ → Prop) (s : σ) : Prop :=
  ∃ s₀, start s₀ ∧ ReflTransGen step s₀ s

theorem Reachable.of_start (h : start s) : Reachable start step s := ⟨s, h, .refl⟩

theorem Reachable.steps (h : Reachable start step s) (hs : ReflTransGen step s s') :
    Reachable start step s' := by
  obtain ⟨s₀, h₀, hr⟩ := h
  exact ⟨s₀, h₀, hr.trans hs⟩

/-- An invariant that holds initially and that every step keeps holds in every reachable state. -/
theorem Reachable.invariant {inv : σ → Prop} (hstart : ∀ s, start s → inv s)
    (hstep : ∀ s s', step s s' → inv s → inv s') (h : Reachable start step s) : inv s := by
  obtain ⟨s₀, h₀, hr⟩ := h
  induction hr with
  | refl => exact hstart s₀ h₀
  | tail _ hs ih => exact hstep _ _ hs ih

/-- An invariant that holds initially and that every step from a reachable state keeps, such as one
that builds on another invariant, holds in every reachable state. -/
theorem Reachable.builds {inv : σ → Prop} (hstart : ∀ s, start s → inv s)
    (hstep : ∀ s s', Reachable start step s → step s s' → inv s → inv s')
    (h : Reachable start step s) : inv s := by
  obtain ⟨s₀, h₀, hr⟩ := h
  induction hr with
  | refl => exact hstart s₀ h₀
  | tail hr hs ih => exact hstep _ _ ⟨s₀, h₀, hr⟩ hs ih

/-- A preorder that every step from a reachable state respects relates the ends of a run. -/
theorem Reachable.related {R : σ → σ → Prop} (hrefl : ∀ s, R s s)
    (htrans : ∀ {a b c}, R a b → R b c → R a c)
    (hstep : ∀ s s', Reachable start step s → step s s' → R s s')
    (h : Reachable start step s) (hs : ReflTransGen step s s') : R s s' := by
  induction hs with
  | refl => exact hrefl s
  | tail hr hs ih => exact htrans ih (hstep _ _ (h.steps hr) hs)

/-- The steps of a machine that takes events. -/
def Takes {ε : Type} (next : σ → ε → Option σ) (s s' : σ) : Prop := ∃ event, next s event = some s'

/-- A state that events lead to from an initial state. -/
theorem Reachable.of_events {ε : Type} {next : σ → ε → Option σ} {events : List ε}
    (h : Reachable start (Takes next) s) (hrun : events.foldlM next s = some s') :
    Reachable start (Takes next) s' := by
  induction events generalizing s with
  | nil =>
    obtain rfl := Option.some.inj hrun
    exact h
  | cons event events ih =>
    rw [List.foldlM_cons] at hrun
    obtain ⟨s₁, hnext, hrest⟩ := Option.bind_eq_some_iff.1 hrun
    exact ih (h.steps (.single ⟨event, hnext⟩)) hrest

end RoboticsRuntime.Theory
