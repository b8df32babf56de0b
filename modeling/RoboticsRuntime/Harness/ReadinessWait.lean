import RoboticsRuntime.Harness.Readiness
import RoboticsRuntime.Python.Floats
import RoboticsRuntime.Theory.Checks

/-!
# Waiting for readiness

`wait_for_readiness`, over the snapshots and the times of its polls. The loop is given fuel, one for
each poll.
-/

namespace RoboticsRuntime.Harness
open Theory

/-- `topicExpectation`, with the time until its first message. -/
structure TopicReadiness extends TopicExpectation where
  firstMessageTimeoutSec : ℚ
  deriving DecidableEq, Repr

/-- `lifecycleNode`, with the times to reach and to keep its state. -/
structure LifecycleReadiness extends LifecycleExpectation where
  timeoutSec : ℚ
  stableForSec : ℚ
  deriving DecidableEq, Repr

/-- `expected_ros_graph`, with its times. -/
structure ReadinessGraph where
  topics : List TopicReadiness
  services : List EndpointExpectation
  actions : List EndpointExpectation
  lifecycleNodes : List LifecycleReadiness

/-- What `evaluate_graph` reads of the expected graph. -/
def ReadinessGraph.expected (graph : ReadinessGraph) : ExpectedGraph where
  topics := graph.topics.map (·.toTopicExpectation)
  services := graph.services
  actions := graph.actions
  lifecycleNodes := graph.lifecycleNodes.map (·.toLifecycleExpectation)

/-- No message of a topic has been observed. -/
def TopicReadiness.silent (topic : TopicReadiness) (snapshot : GraphSnapshot) : Prop :=
  ∀ observed ∈ snapshot.topics.lookup topic.name, observed.firstMessageAtNs = none

instance (topic : TopicReadiness) (snapshot : GraphSnapshot) : Decidable (topic.silent snapshot) :=
  inferInstanceAs (Decidable (∀ observed ∈ _, _))

/-- A node has not reached its state. -/
def LifecycleReadiness.unmet (node : LifecycleReadiness) (snapshot : GraphSnapshot) : Prop :=
  ∀ observed ∈ snapshot.lifecycleNodes.lookup node.name, observed.state ≠ node.requiredState

instance (node : LifecycleReadiness) (snapshot : GraphSnapshot) : Decidable (node.unmet snapshot) :=
  inferInstanceAs (Decidable (∀ observed ∈ _, _))

/-- The issue of a topic whose first message is late. -/
def expiredTopic (py : PyOps) (snapshot : GraphSnapshot) (elapsedSec : ℚ) (expected : TopicReadiness)
    (index : ℕ) : Except OverflowError (List GraphIssue) := do
  let timeoutSec ← numberToFloat py.fl expected.firstMessageTimeoutSec
  if timeoutSec ≤ elapsedSec ∧ expected.silent snapshot then
    return [.failed s!"$.expected_ros_graph.topics[{index}].first_message_timeout_sec"
      s!"no message before {py.declared expected.firstMessageTimeoutSec} seconds"]
  else return []

/-- The issue of a node whose state is late. -/
def expiredNode (py : PyOps) (snapshot : GraphSnapshot) (elapsedSec : ℚ)
    (expected : LifecycleReadiness) (index : ℕ) : Except OverflowError (List GraphIssue) := do
  let timeoutSec ← numberToFloat py.fl expected.timeoutSec
  if timeoutSec ≤ elapsedSec ∧ expected.unmet snapshot then
    let state := ((snapshot.lifecycleNodes.lookup expected.name).map (·.state)).getD "unavailable"
    return [.failed s!"$.expected_ros_graph.lifecycle_nodes[{index}].timeout_sec"
      s!"required state {expected.requiredState} not reached; observed {state}"]
  else return []

/-- `_expired_readiness_issues`. -/
def expiredReadinessIssues (py : PyOps) (graph : ReadinessGraph) (snapshot : GraphSnapshot)
    (elapsedSec : ℚ) : Except OverflowError (List GraphIssue) := do
  let topics ← graph.topics.zipIdx.mapM fun entry =>
    expiredTopic py snapshot elapsedSec entry.1 entry.2
  let nodes ← graph.lifecycleNodes.zipIdx.mapM fun entry =>
    expiredNode py snapshot elapsedSec entry.1 entry.2
  return topics.flatten ++ nodes.flatten

/-- `ReadinessResult`. -/
structure ReadinessResult where
  snapshot : GraphSnapshot
  firstReadyAtNs : ℤ
  stableForSec : ℚ
  deriving DecidableEq, Repr

/-- How a wait ends: with a result, a `GraphReadinessTimeout` or an `OverflowError`. -/
inductive WaitOutcome where
  | ready (result : ReadinessResult)
  | timeout (issues : List GraphIssue)
  | overflow (error : OverflowError)
  deriving DecidableEq, Repr

/-- One turn of the loop: a snapshot, and the reading of the clock after it. -/
structure Poll where
  snapshot : GraphSnapshot
  currentNs : ℤ

/-- The arguments of `wait_for_readiness` and its first reading of the clock. -/
structure Wait where
  graph : ReadinessGraph
  timeoutSec : ℚ
  stableForSec : ℚ
  startedAtNs : ℤ

namespace Wait
variable (py : PyOps) (wait : Wait)

/-- `required_stability`. -/
def requiredStability : Except OverflowError ℚ := do
  let nodes ← wait.graph.lifecycleNodes.mapM fun node => numberToFloat py.fl node.stableForSec
  return max wait.stableForSec (nodes.max?.getD 0)

/-- `first_ready_at_ns` after a poll with some issues, unless the wait returns. -/
def windowStart (requiredStability : ℚ) (firstReadyAtNs : Option ℤ) (poll : Poll)
    (lastIssues : List GraphIssue) : Except WaitOutcome (Option ℤ) :=
  if lastIssues ≠ [] then .ok none
  else do
    let first := firstReadyAtNs.getD poll.currentNs
    let stableNs := poll.currentNs - first
    let requiredNs ← (toNanoseconds py.fl requiredStability).mapError .overflow
    require (stableNs < requiredNs) (.ready ⟨poll.snapshot, first, py.fl (stableNs / 1000000000)⟩)
    return some first

/-- The body of the loop: the wait ends on the left, and goes on with `first_ready_at_ns` on the
right. -/
def step (requiredStability : ℚ) (deadlineNs : ℤ) (firstReadyAtNs : Option ℤ) (poll : Poll) :
    Except WaitOutcome (Option ℤ) := do
  let lastIssues := evaluateGraph py wait.graph.expected poll.snapshot
  let elapsedSec ← (toSeconds py.fl (poll.currentNs - wait.startedAtNs)).mapError .overflow
  let expiredIssues ← (expiredReadinessIssues py wait.graph poll.snapshot elapsedSec).mapError
    .overflow
  require (expiredIssues = []) (.timeout expiredIssues)
  let firstReadyAtNs ← windowStart py requiredStability firstReadyAtNs poll lastIssues
  require (poll.currentNs < deadlineNs) (.timeout lastIssues)
  return firstReadyAtNs

/-- The loop, from a poll on: the number of polls that it has made when it ends. -/
def loop (requiredStability : ℚ) (deadlineNs : ℤ) (polls : ℕ → Poll) :
    ℕ → ℕ → Option ℤ → Option (ℕ × WaitOutcome)
  | 0, _, _ => none
  | fuel + 1, index, firstReadyAtNs =>
    match wait.step py requiredStability deadlineNs firstReadyAtNs (polls index) with
    | .error outcome => some (index + 1, outcome)
    | .ok firstReadyAtNs => loop requiredStability deadlineNs polls fuel (index + 1) firstReadyAtNs

/-- The values that the loop starts with. -/
def setup : Except OverflowError (ℚ × ℤ) := do
  let requiredStability ← wait.requiredStability py
  let timeoutNs ← toNanoseconds py.fl wait.timeoutSec
  return (requiredStability, wait.startedAtNs + timeoutNs)

/-- `wait_for_readiness`, for no more polls than there is fuel. -/
def waitForReadiness (polls : ℕ → Poll) (fuel : ℕ) : Option (ℕ × WaitOutcome) :=
  match wait.setup py with
  | .error error => some (0, .overflow error)
  | .ok (requiredStability, deadlineNs) =>
    wait.loop py requiredStability deadlineNs polls fuel 0 none

end Wait

end RoboticsRuntime.Harness
