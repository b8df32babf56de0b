import Mathlib.Algebra.Order.Group.Defs
import Mathlib.Algebra.Order.Group.Unbundled.Basic
import Mathlib.Order.Bounds.Basic
import Mathlib.Tactic.Abel

/-!
# Runs of a piecewise constant signal

A signal with two values is scanned from segment to segment, each of constant value. What the scan
keeps is the run that is not over yet and the length of the longest run of each value so far.
-/

namespace RoboticsRuntime.Theory

variable {τ : Type} [AddCommGroup τ] [LinearOrder τ]

/-- The signal has one value from `a` until `b`. -/
def Constant (signal : τ → Option Bool) (value : Bool) (a b : τ) : Prop :=
  ∀ t, a ≤ t → t < b → signal t = some value

/-- The lengths of the stretches of one value between two times. -/
def runLengths (signal : τ → Option Bool) (value : Bool) (start finish : τ) : Set τ :=
  {length | ∃ a b, start ≤ a ∧ a ≤ b ∧ b ≤ finish ∧ Constant signal value a b ∧ b - a = length}

/-- The value and the length of the current run, and the longest runs of each value. -/
@[ext] structure RunState (τ : Type) where
  value : Option Bool
  length : τ
  longest : Bool → τ

namespace RunState

/-- No run yet. -/
def initial : RunState τ := ⟨none, 0, fun _ => 0⟩

/-- One more segment. -/
def extend (s : RunState τ) (length : τ) (value : Bool) : RunState τ :=
  let run := (if s.value = some value then s.length else 0) + length
  ⟨some value, run, fun v => if v = value then max (s.longest v) run else s.longest v⟩

end RunState

/-- The state of a scan that began at `start` and reached `now`. -/
structure Scanned (signal : τ → Option Bool) (start now : τ) (s : RunState τ) : Prop where
  start_le : start ≤ now
  longest : ∀ value, IsGreatest (runLengths signal value start now) (s.longest value)
  fresh : s.value = none → now = start
  current : ∀ value, s.value = some value →
    start ≤ now - s.length ∧ now - s.length < now ∧ Constant signal value (now - s.length) now ∧
      ∀ a, start ≤ a → a < now → Constant signal value a now → now - s.length ≤ a

variable [IsOrderedAddMonoid τ] {signal : τ → Option Bool} {start now later : τ} {s : RunState τ}

theorem Scanned.initial : Scanned signal start start RunState.initial where
  start_le := le_rfl
  longest value := by
    constructor
    · exact ⟨start, start, le_rfl, le_rfl, le_rfl, fun t h h' => absurd h' (not_lt.2 h), sub_self _⟩
    · rintro length ⟨a, b, ha, -, hb, -, rfl⟩
      exact sub_nonpos.2 (hb.trans ha)
  fresh _ := rfl
  current value h := by cases h

namespace Scanned

omit [IsOrderedAddMonoid τ] in
/-- The run after a segment starts where the run before it did, or with the segment. -/
theorem current_extend (h : Scanned signal start now s) (hlt : now < later)
    (hconstant : Constant signal value now later) :
    start ≤ later - (s.extend (later - now) value).length ∧
      later - (s.extend (later - now) value).length ≤ now ∧
      Constant signal value (later - (s.extend (later - now) value).length) later ∧
      ∀ a, start ≤ a → a < later → Constant signal value a later →
        later - (s.extend (later - now) value).length ≤ a := by
  by_cases hv : s.value = some value
  · obtain ⟨hstart, hrun, hprevious, hleast⟩ := h.current value hv
    have hlength : later - (s.extend (later - now) value).length = now - s.length := by
      simp only [RunState.extend, if_pos hv]
      abel
    rw [hlength]
    refine ⟨hstart, hrun.le, fun t ha hb => ?_, fun a ha _ hconst => ?_⟩
    · rcases lt_or_ge t now with hnow | hnow
      · exact hprevious t ha hnow
      · exact hconstant t hnow hb
    · rcases lt_or_ge a now with hnow | hnow
      · exact hleast a ha hnow fun t hat htn => hconst t hat (htn.trans hlt)
      · exact hrun.le.trans hnow
  · have hlength : later - (s.extend (later - now) value).length = now := by
      simp only [RunState.extend, if_neg hv]
      abel
    rw [hlength]
    refine ⟨h.start_le, le_rfl, hconstant, fun a ha _ hconst => ?_⟩
    -- A stretch that began before the segment would share an instant with the run of the other value.
    by_contra hnow
    rw [not_le] at hnow
    cases hvalue : s.value with
    | none =>
      rw [h.fresh hvalue] at hnow
      exact absurd ha (not_le.2 hnow)
    | some other =>
      obtain ⟨-, hrun, hprevious, -⟩ := h.current other hvalue
      have hlast := max_lt hnow hrun
      have hone := hconst _ (le_max_left _ _) (hlast.trans hlt)
      have hother := hprevious _ (le_max_right _ _) hlast
      rw [hone] at hother
      exact hv (hvalue.trans hother.symm)

/-- A segment of constant value is counted to the run of its value. -/
theorem extend (h : Scanned signal start now s) (hlt : now < later)
    (hconstant : Constant signal value now later) :
    Scanned signal start later (s.extend (later - now) value) := by
  obtain ⟨hstart, hle, hrun, hleast⟩ := h.current_extend hlt hconstant
  refine ⟨h.start_le.trans hlt.le, fun v => ?_, fun hnone => absurd hnone (Option.some_ne_none _),
    fun v hv => ?_⟩
  · obtain ⟨⟨a, b, ha, hab, hb, hconst, hlength⟩, hgreatest⟩ := h.longest v
    by_cases hv : v = value
    · subst hv
      have hlongest : (s.extend (later - now) v).longest v =
          max (s.longest v) (s.extend (later - now) v).length := if_pos rfl
      rw [hlongest]
      constructor
      · rcases max_choice (s.longest v) (s.extend (later - now) v).length with hmax | hmax
        · exact ⟨a, b, ha, hab, hb.trans hlt.le, hconst, hlength.trans hmax.symm⟩
        · exact ⟨_, later, hstart, hle.trans hlt.le, le_rfl, hrun, by rw [hmax]; abel⟩
      · rintro length ⟨c, d, hc, hcd, hd, hconst', rfl⟩
        rcases le_or_gt d now with hdn | hnd
        · exact le_max_of_le_left (hgreatest ⟨c, d, hc, hcd, hdn, hconst', rfl⟩)
        · refine le_max_of_le_right ?_
          -- A stretch that reaches into the segment can be prolonged to its end.
          rcases hcd.eq_or_lt with rfl | hcd
          · rw [sub_self]
            exact (sub_pos.2 (hle.trans_lt hlt)).le.trans_eq (by abel)
          · have hprolonged : Constant signal v c later := fun t hct htl => by
              rcases lt_or_ge t d with htd | hdt
              · exact hconst' t hct htd
              · exact hconstant t (hnd.le.trans hdt) htl
            have hstarts := hleast c hc (hcd.trans_le hd) hprolonged
            calc d - c ≤ later - (later - (s.extend (later - now) v).length) :=
                  sub_le_sub hd hstarts
              _ = (s.extend (later - now) v).length := by abel
    · have hlongest : (s.extend (later - now) value).longest v = s.longest v := if_neg hv
      rw [hlongest]
      refine ⟨⟨a, b, ha, hab, hb.trans hlt.le, hconst, hlength⟩, ?_⟩
      rintro length ⟨c, d, hc, hcd, hd, hconst', rfl⟩
      rcases le_or_gt d now with hdn | hnd
      · exact hgreatest ⟨c, d, hc, hcd, hdn, hconst', rfl⟩
      · -- A stretch of the other value has no instant of the segment.
        rcases hcd.eq_or_lt with rfl | hcd
        · rw [sub_self, ← hlength]
          exact sub_nonneg.2 hab
        · have hlast := max_lt hcd hnd
          have hone := hconst' _ (le_max_left _ _) hlast
          have hother := hconstant _ (le_max_right _ _) (hlast.trans_le hd)
          rw [hone] at hother
          exact absurd (Option.some.inj hother) hv
  · obtain rfl : value = v := Option.some.inj hv
    exact ⟨hstart, hle.trans_lt hlt, hrun, hleast⟩

end Scanned

end RoboticsRuntime.Theory
