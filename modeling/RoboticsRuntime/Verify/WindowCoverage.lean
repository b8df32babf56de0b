import RoboticsRuntime.Harness.Metrics.Windows

/-!
# What a window coverage is accepted for

`require_window_coverage` against the set of instants that the intervals of each series leave
uncovered. The intervals may reach beyond the window.
-/

namespace RoboticsRuntime.Harness
open Theory

/-- The start of the first interval. -/
def FirstStart (intervals : List Coverage) (startNs : ℤ) : Prop :=
  (∃ interval ∈ intervals, interval.startNs = startNs) ∧
    ∀ interval ∈ intervals, startNs ≤ interval.startNs

/-- The end of the last interval. -/
def LastEnd (intervals : List Coverage) (endNs : ℤ) : Prop :=
  (∃ interval ∈ intervals, interval.endNs = endNs) ∧
    ∀ interval ∈ intervals, interval.endNs ≤ endNs

/-- Every instant between two intervals lies in one. -/
def Contiguous (intervals : List Coverage) : Prop :=
  ∀ before ∈ intervals, ∀ after ∈ intervals, ∀ t, before.startNs < t → t ≤ after.endNs →
    ∃ interval ∈ intervals, interval.Contains t

/-- The intervals of one series cover a window up to a tolerance. -/
structure CoversWindow (temporality : Option MetricTemporality) (window : Window) (tolerance : ℤ)
    (intervals : List Coverage) : Prop where
  positive : ∀ interval ∈ intervals, interval.startNs < interval.endNs
  disjoint : intervals.Pairwise fun a b => ∀ t, ¬ (a.Contains t ∧ b.Contains t)
  contiguous : temporality ≠ some .delta → Contiguous intervals
  first : ∃ startNs, FirstStart intervals startNs ∧ |startNs - window.startNs| ≤ tolerance
  last : ∃ endNs, LastEnd intervals endNs ∧ |endNs - window.endNs| ≤ tolerance
  uncovered : (uncovered Coverage.startNs Coverage.endNs intervals window.startNs window.endNs : ℤ) ≤
    tolerance

/-! ## Consecutive intervals -/

/-- The check of two consecutive intervals. -/
def Follows (temporality : Option MetricTemporality) (a b : Coverage) : Prop :=
  a.endNs ≤ b.startNs ∧ (b.startNs ≤ a.endNs ∨ temporality = some .delta)

theorem disjoint_symm {a b : Coverage} (h : ∀ t, ¬ (a.Contains t ∧ b.Contains t)) :
    ∀ t, ¬ (b.Contains t ∧ a.Contains t) := fun t ht => h t ht.symm

theorem Contiguous.of_perm {intervals intervals' : List Coverage} (hp : intervals.Perm intervals')
    (h : Contiguous intervals) : Contiguous intervals' := by
  intro a ha b hb t hat htb
  obtain ⟨c, hc, hcontains⟩ := h a (hp.mem_iff.2 ha) b (hp.mem_iff.2 hb) t hat htb
  exact ⟨c, hp.mem_iff.1 hc, hcontains⟩

theorem CoversWindow.of_perm {intervals intervals' : List Coverage} (hp : intervals.Perm intervals')
    (h : CoversWindow temporality window tolerance intervals) :
    CoversWindow temporality window tolerance intervals' where
  positive interval hi := h.positive interval (hp.mem_iff.2 hi)
  disjoint := (hp.pairwise_iff disjoint_symm).1 h.disjoint
  contiguous hne := (h.contiguous hne).of_perm hp
  first := by simpa only [FirstStart, hp.mem_iff] using h.first
  last := by simpa only [LastEnd, hp.mem_iff] using h.last
  uncovered := by simpa only [uncovered_perm hp] using h.uncovered

section
variable {first : Coverage} {rest : List Coverage}

end

end RoboticsRuntime.Harness
