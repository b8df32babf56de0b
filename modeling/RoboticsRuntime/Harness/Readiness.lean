import Mathlib.Data.List.Dedup
import Mathlib.Data.List.Sort
import Mathlib.Data.String.Basic
import RoboticsRuntime.Harness.Timing.Realtime

/-!
# The ROS graph of one snapshot

`readiness.py` and `forbidden_graph.py`: what a snapshot lacks of the expected graph, and the
forbidden interfaces it shows.
-/

namespace RoboticsRuntime.Harness

/-! ## Snapshots -/

/-- `TopicObservation`. -/
structure TopicObservation where
  types : List String
  publishers : ℤ
  subscribers : ℤ
  firstMessageAtNs : Option ℤ
  qosCompatible : Bool
  deriving DecidableEq, Repr

/-- `EndpointObservation`. -/
structure EndpointObservation where
  types : List String
  serverNodes : ℤ
  clientNodes : ℤ
  deriving DecidableEq, Repr

/-- `LifecycleObservation`. -/
structure LifecycleObservation where
  state : String
  observedAtNs : ℤ
  deriving DecidableEq, Repr

/-- `GraphSnapshot`. A mapping is the list of its items. -/
structure GraphSnapshot where
  observedAtNs : ℤ
  topics : List (String × TopicObservation)
  services : List (String × EndpointObservation)
  actions : List (String × EndpointObservation)
  lifecycleNodes : List (String × LifecycleObservation)
  nodeNames : Option (List String)
  deriving DecidableEq, Repr

/-! ## The expected graph -/

/-- `topicExpectation`. -/
structure TopicExpectation where
  name : String
  type : String
  minPublishers : ℤ
  minSubscribers : ℤ
  deriving DecidableEq, Repr

/-- `graphEndpoint`. -/
structure EndpointExpectation where
  name : String
  type : String
  deriving DecidableEq, Repr

/-- `lifecycleNode`. -/
structure LifecycleExpectation where
  name : String
  requiredState : String
  deriving DecidableEq, Repr

/-- `expected_ros_graph`. -/
structure ExpectedGraph where
  topics : List TopicExpectation
  services : List EndpointExpectation
  actions : List EndpointExpectation
  lifecycleNodes : List LifecycleExpectation
  deriving DecidableEq, Repr

/-- `any(expected_graph.values())`. -/
def ExpectedGraph.anything (expected : ExpectedGraph) : Bool :=
  expected.topics ≠ [] || expected.services ≠ [] || expected.actions ≠ [] ||
    expected.lifecycleNodes ≠ []

/-- `status` of a `ReadinessIssue`. -/
inductive IssueStatus where
  | failed
  | error
  deriving DecidableEq, Repr

/-- A `ReadinessIssue` with its status. An issue of timing never has another one than `failed`. -/
structure GraphIssue extends ReadinessIssue where
  status : IssueStatus
  deriving DecidableEq, Repr

/-- `ReadinessIssue(json_path, message)`. -/
def GraphIssue.failed (jsonPath message : String) : GraphIssue := ⟨⟨jsonPath, message⟩, .failed⟩

/-- `ReadinessIssue(json_path, message, status="error")`. -/
def GraphIssue.error (jsonPath message : String) : GraphIssue := ⟨⟨jsonPath, message⟩, .error⟩

/-- `repr` of a tuple of strings. -/
def reprTuple (py : PyOps) : List String → String
  | [item] => "(" ++ py.text item ++ ",)"
  | items => "(" ++ ", ".intercalate (items.map py.text) ++ ")"

/-- The issues of one expected topic. -/
def checkTopic (py : PyOps) (snapshot : GraphSnapshot) (expected : TopicExpectation) (index : ℕ) :
    List GraphIssue :=
  let path := s!"$.expected_ros_graph.topics[{index}]"
  match snapshot.topics.lookup expected.name with
  | none => [.failed path s!"topic {expected.name} is absent"]
  | some observed =>
    (if expected.type ∉ observed.types then
      [.failed (path ++ ".type")
        (s!"expected {expected.type}; observed " ++ reprTuple py observed.types)] else []) ++
    (if observed.publishers < expected.minPublishers then
      [.failed (path ++ ".min_publishers")
        s!"expected at least {expected.minPublishers}; observed {observed.publishers}"] else []) ++
    (if observed.subscribers < expected.minSubscribers then
      [.failed (path ++ ".min_subscribers")
        s!"expected at least {expected.minSubscribers}; observed {observed.subscribers}"]
      else []) ++
    (if ¬ observed.qosCompatible then
      [.failed (path ++ ".qos_profile")
        "publisher QoS is incompatible with the observer subscription"] else []) ++
    (if observed.firstMessageAtNs = none then
      [.error (path ++ ".first_message_timeout_sec") "no message has been observed"] else [])

/-- `_check_topics`. -/
def checkTopics (py : PyOps) (expectedTopics : List TopicExpectation) (snapshot : GraphSnapshot) :
    List GraphIssue :=
  expectedTopics.zipIdx.flatMap fun (expected, index) => checkTopic py snapshot expected index

/-- `_check_endpoints`, for the kind in the plural and in the singular. -/
def checkEndpoints (py : PyOps) (kind singular : String)
    (expectedEndpoints : List EndpointExpectation)
    (observedEndpoints : List (String × EndpointObservation)) : List GraphIssue :=
  expectedEndpoints.zipIdx.flatMap fun (expected, index) =>
    let path := s!"$.expected_ros_graph.{kind}[{index}]"
    let absent := [GraphIssue.failed path s!"{singular} server {expected.name} is absent"]
    match observedEndpoints.lookup expected.name with
    | none => absent
    | some observed =>
      if observed.serverNodes < 1 then absent
      else if expected.type ∉ observed.types then
        [.failed (path ++ ".type")
          (s!"expected {expected.type}; observed " ++ reprTuple py observed.types)]
      else []

/-- The issue of one managed node. -/
def checkLifecycleNode (snapshot : GraphSnapshot) (expected : LifecycleExpectation) (index : ℕ) :
    List GraphIssue :=
  let path := s!"$.expected_ros_graph.lifecycle_nodes[{index}]"
  let name := expected.name
  let unavailable := [GraphIssue.error path s!"managed node {name} state is unavailable"]
  if snapshot.nodeNames.any (name ∉ ·) then [.failed path s!"managed node {name} is absent"]
  else match snapshot.lifecycleNodes.lookup name with
    | none => unavailable
    | some observed =>
      if observed.state = "unknown" then unavailable
      else if observed.state ≠ expected.requiredState then
        [.failed (path ++ ".required_state")
          (s!"managed node {name}: expected {expected.requiredState}; " ++
            s!"observed {observed.state}")]
      else []

/-- `_check_lifecycle`. -/
def checkLifecycle (expectedNodes : List LifecycleExpectation) (snapshot : GraphSnapshot) :
    List GraphIssue :=
  expectedNodes.zipIdx.flatMap fun (expected, index) => checkLifecycleNode snapshot expected index

/-- `evaluate_graph`. -/
def evaluateGraph (py : PyOps) (expected : ExpectedGraph) (snapshot : GraphSnapshot) :
    List GraphIssue :=
  checkTopics py expected.topics snapshot ++
    checkEndpoints py "services" "service" expected.services snapshot.services ++
    checkEndpoints py "actions" "action" expected.actions snapshot.actions ++
    checkLifecycle expected.lifecycleNodes snapshot

/-! ## The forbidden graph -/

/-- `forbidden_ros_graph`. -/
structure ForbiddenGraph where
  topics : List String
  services : List String
  actions : List String
  deriving DecidableEq, Repr

/-- `kind` of a violation. -/
inductive InterfaceKind where
  | action
  | service
  | topic
  deriving DecidableEq, Repr

/-- `ForbiddenGraphViolation`. -/
structure ForbiddenGraphViolation where
  kind : InterfaceKind
  name : String
  deriving DecidableEq, Repr

/-- `ForbiddenGraphObservation`. -/
structure ForbiddenGraphObservation where
  checkedTopics : List String
  checkedServices : List String
  checkedActions : List String
  violations : List ForbiddenGraphViolation
  deriving DecidableEq, Repr

/-- `ForbiddenGraphObservation.passed`. -/
def ForbiddenGraphObservation.passed (observation : ForbiddenGraphObservation) : Bool :=
  observation.violations = []

/-- `find_forbidden_graph_violations`, before they are sorted. -/
def findForbiddenGraphViolations (forbidden : ForbiddenGraph) (snapshot : GraphSnapshot) :
    List ForbiddenGraphViolation :=
  (forbidden.topics.filter fun name =>
      (snapshot.topics.lookup name).any fun observed => 0 < observed.publishers).map (⟨.topic, ·⟩) ++
    (forbidden.services.filter fun name =>
      (snapshot.services.lookup name).any fun observed => 0 < observed.serverNodes).map
        (⟨.service, ·⟩) ++
    (forbidden.actions.filter fun name =>
      (snapshot.actions.lookup name).any fun observed => 0 < observed.serverNodes).map
        (⟨.action, ·⟩)

/-- The position of a kind in the order of its text. -/
def InterfaceKind.rank : InterfaceKind → ℕ
  | action => 0
  | service => 1
  | topic => 2

/-- The order of `sorted` on violations. -/
def ForbiddenGraphViolation.le (a b : ForbiddenGraphViolation) : Prop :=
  a.kind.rank < b.kind.rank ∨ a.kind.rank = b.kind.rank ∧ a.name ≤ b.name

instance (a b : ForbiddenGraphViolation) : Decidable (a.le b) :=
  inferInstanceAs (Decidable (_ ∨ _))

/-- `ForbiddenGraphMonitor.result`, after the monitor has observed some snapshots. A set of
violations is the list of its members. -/
def forbiddenGraphObservation (forbidden : ForbiddenGraph) (snapshots : List GraphSnapshot) :
    ForbiddenGraphObservation where
  checkedTopics := forbidden.topics.insertionSort (· ≤ ·)
  checkedServices := forbidden.services.insertionSort (· ≤ ·)
  checkedActions := forbidden.actions.insertionSort (· ≤ ·)
  violations := ((snapshots.flatMap (findForbiddenGraphViolations forbidden)).dedup.insertionSort
    ForbiddenGraphViolation.le)

/-- The monitor passes when no snapshot shows a forbidden interface. -/
theorem forbiddenGraphObservation_passed (forbidden : ForbiddenGraph)
    (snapshots : List GraphSnapshot) :
    (forbiddenGraphObservation forbidden snapshots).passed = true ↔
      ∀ snapshot ∈ snapshots, findForbiddenGraphViolations forbidden snapshot = [] := by
  rw [ForbiddenGraphObservation.passed, decide_eq_true_eq, forbiddenGraphObservation,
    ← List.length_eq_zero_iff, List.length_insertionSort, List.length_eq_zero_iff,
    List.dedup_eq_nil, List.flatMap_eq_nil_iff]

end RoboticsRuntime.Harness
