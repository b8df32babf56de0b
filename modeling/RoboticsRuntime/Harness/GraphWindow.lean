import RoboticsRuntime.Harness.Assertions
import RoboticsRuntime.Harness.Readiness
import RoboticsRuntime.Theory.Dictionary
import RoboticsRuntime.Theory.Rounding

/-!
# The expected graph during the measurement

`graph_window.py`: the issues that the snapshots of the measurement window show, each with the time
it was first observed, and the assertion that reports them.
-/

namespace RoboticsRuntime.Harness
open Theory

/-- `ExpectedGraphMonitor`, with the condition that its `__init__` checks. -/
structure ExpectedGraphMonitor where
  expectedGraph : ExpectedGraph
  startNs : ℤ
  endNs : ℤ
  start_lt_end : startNs < endNs

/-- `_samples` and `_issues` of a monitor. -/
structure MonitorState where
  samples : ℕ
  issues : List (GraphIssue × ℤ)
  deriving DecidableEq

namespace ExpectedGraphMonitor
variable (py : PyOps) (monitor : ExpectedGraphMonitor)

/-- The snapshot was taken in the measurement window. -/
def InWindow (snapshot : GraphSnapshot) : Prop :=
  monitor.startNs ≤ snapshot.observedAtNs ∧ snapshot.observedAtNs < monitor.endNs

instance (snapshot : GraphSnapshot) : Decidable (monitor.InWindow snapshot) :=
  inferInstanceAs (Decidable (_ ∧ _))

/-- `observe`. -/
def observe (state : MonitorState) (snapshot : GraphSnapshot) : MonitorState :=
  if ¬ monitor.InWindow snapshot then state
  else
    { samples := state.samples + 1
      issues := (evaluateGraph py monitor.expectedGraph snapshot).foldl
        (fun issues issue => setDefault issues issue snapshot.observedAtNs) state.issues }

/-- The state after some snapshots. -/
def run (snapshots : List GraphSnapshot) : MonitorState :=
  snapshots.foldl (monitor.observe py) ⟨0, []⟩

end ExpectedGraphMonitor

/-! ## The assertion -/

/-- The candidates of `_assertion_id`. -/
def graphAssertionId : ℕ → String
  | 0 => "expected-ros-graph"
  | suffix => s!"expected-ros-graph-{suffix}"

/-- `_assertion_id`, from the identifiers in use. -/
def assertionId (used : List String) : String := firstUnused used graphAssertionId

/-- `_issue_detail`, with the time to which `offset_ns` is printed. -/
def issueDetail (issue : GraphIssue) (offset : Option String) : String :=
  let detail := issue.jsonPath ++ ": " ++ issue.message
  match offset with
  | none => detail
  | some offset => detail ++ " (first observed " ++ offset ++ " s into the measurement)"

/-- A number of seconds, printed with three decimals. -/
def showMilliseconds (milliseconds : ℕ) : String :=
  let fraction := toString (milliseconds % 1000)
  toString (milliseconds / 1000) ++ "." ++ "".pushn '0' (3 - fraction.length) ++ fraction

/-- `f"{offset_ns / 1_000_000_000:.3f}"`, of an offset that is not negative. -/
def showOffset (py : PyOps) (offsetNs : ℤ) : String :=
  showMilliseconds (roundHalfEven (py.fl (offsetNs / 1000000000) * 1000)).toNat

/-- The issue of a measurement without a snapshot. -/
def noSnapshotIssue : GraphIssue :=
  .error "$.expected_ros_graph" "no graph snapshot inside measurement window"

namespace ExpectedGraphMonitor
variable (py : PyOps) (monitor : ExpectedGraphMonitor)

/-- The issues that `assertions` reports, each with the time of its first observation. -/
def reportedIssues (state : MonitorState) : List (GraphIssue × Option ℤ) :=
  let observed := state.issues.map fun (issue, observedAtNs) => (issue, some observedAtNs)
  if state.samples = 0 ∧ monitor.expectedGraph.anything then
    observed ++ [(noSnapshotIssue, none)]
  else observed

/-- `assertions`, from the identifiers in use. -/
def assertions (state : MonitorState) (used : List String) : List AssertionEvaluation :=
  let issues := monitor.reportedIssues state
  if issues = [] then []
  else
    let details := issues.map fun (issue, observedAtNs) =>
      issueDetail issue (observedAtNs.map fun ns => showOffset py (ns - monitor.startNs))
    [{ assertionId := assertionId used
       status := if issues.any (·.1.status = .error) then .error else .failed
       observedValue := none
       unit := "1"
       message := "expected ROS graph during measurement: " ++ "; ".intercalate details }]

/-! ## What the monitor retains -/

/-- The issues of the snapshots of the window, with the time of their snapshot. -/
def observations (snapshots : List GraphSnapshot) : List (GraphIssue × ℤ) :=
  (snapshots.filter monitor.InWindow).flatMap fun snapshot =>
    (evaluateGraph py monitor.expectedGraph snapshot).map (·, snapshot.observedAtNs)

/-- One snapshot adds its issues to those that are retained. -/
theorem observe_eq (state : MonitorState) (snapshot : GraphSnapshot) :
    monitor.observe py state snapshot =
      ⟨state.samples + ([snapshot].filter monitor.InWindow).length,
        (monitor.observations py [snapshot]).foldl
          (fun dict entry => setDefault dict entry.1 entry.2) state.issues⟩ := by
  unfold observe observations
  by_cases h : monitor.InWindow snapshot
  · simp only [h, not_true_eq_false, if_false, List.filter_cons, decide_true, if_true,
      List.filter_nil, List.length_cons, List.length_nil, List.flatMap_cons, List.flatMap_nil,
      List.append_nil, List.foldl_map, Nat.zero_add]
  · simp [h]

theorem observations_cons (snapshot : GraphSnapshot) (snapshots : List GraphSnapshot) :
    monitor.observations py (snapshot :: snapshots) =
      monitor.observations py [snapshot] ++ monitor.observations py snapshots := by
  unfold observations
  rw [← List.flatMap_append, ← List.filter_append, List.singleton_append]

theorem foldl_observe (state : MonitorState) (snapshots : List GraphSnapshot) :
    snapshots.foldl (monitor.observe py) state =
      ⟨state.samples + (snapshots.filter monitor.InWindow).length,
        (monitor.observations py snapshots).foldl
          (fun dict entry => setDefault dict entry.1 entry.2) state.issues⟩ := by
  induction snapshots generalizing state with
  | nil => rfl
  | cons snapshot snapshots ih =>
    have hlength : (snapshot :: snapshots).filter monitor.InWindow =
        [snapshot].filter monitor.InWindow ++ snapshots.filter monitor.InWindow := by
      rw [← List.filter_append, List.singleton_append]
    rw [List.foldl_cons, ih, observe_eq, observations_cons _ _ snapshot snapshots,
      List.foldl_append, hlength, List.length_append, Nat.add_assoc]

/-- A run of the monitor retains the first observation of every issue. -/
theorem run_eq (snapshots : List GraphSnapshot) :
    monitor.run py snapshots =
      ⟨(snapshots.filter monitor.InWindow).length,
        firstEntries (monitor.observations py snapshots)⟩ := by
  rw [run, foldl_observe, foldl_setDefault]
  simp

/-- The monitor reports nothing when every snapshot of the window shows the expected graph, and
there is one if anything is expected. -/
theorem reportedIssues_eq_nil (snapshots : List GraphSnapshot) :
    monitor.reportedIssues (monitor.run py snapshots) = [] ↔
      (∀ snapshot ∈ snapshots, monitor.InWindow snapshot →
        evaluateGraph py monitor.expectedGraph snapshot = []) ∧
      (monitor.expectedGraph.anything = true →
        ∃ snapshot ∈ snapshots, monitor.InWindow snapshot) := by
  have hissues : (firstEntries (monitor.observations py snapshots)).map (fun (issue, observedAtNs) =>
      (issue, some observedAtNs)) = [] ↔ ∀ snapshot ∈ snapshots, monitor.InWindow snapshot →
        evaluateGraph py monitor.expectedGraph snapshot = [] := by
    rw [List.map_eq_nil_iff, firstEntries_eq_nil, observations, List.flatMap_eq_nil_iff]
    simp only [List.mem_filter, decide_eq_true_eq, List.map_eq_nil_iff, and_imp]
  have hsamples : (snapshots.filter monitor.InWindow).length = 0 ↔
      ¬ ∃ snapshot ∈ snapshots, monitor.InWindow snapshot := by
    rw [List.length_eq_zero_iff, List.filter_eq_nil_iff]
    simp
  rw [run_eq, reportedIssues]
  dsimp only
  split
  · next h =>
    refine iff_of_false (by simp) fun hclean => ?_
    exact hsamples.1 h.1 (hclean.2 h.2)
  · next h =>
    rw [hissues]
    exact (and_iff_left fun hany => by_contra fun hnone => h ⟨hsamples.2 hnone, hany⟩).symm

/-- Nothing is asserted when nothing is reported. -/
theorem assertions_eq_nil (state : MonitorState) (used : List String) :
    monitor.assertions py state used = [] ↔ monitor.reportedIssues state = [] := by
  unfold assertions
  dsimp only
  split <;> simp_all

/-- The monitor never asserts that the graph passed. -/
theorem not_passed_of_mem_assertions {state : MonitorState} {used : List String}
    (h : evaluation ∈ monitor.assertions py state used) :
    evaluation.status = .failed ∨ evaluation.status = .error := by
  unfold assertions at h
  dsimp only at h
  split at h
  · cases h
  · obtain rfl := List.mem_singleton.1 h
    dsimp only
    split
    · exact .inr rfl
    · exact .inl rfl

end ExpectedGraphMonitor

end RoboticsRuntime.Harness
