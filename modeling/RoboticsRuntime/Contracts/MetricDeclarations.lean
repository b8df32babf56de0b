import RoboticsRuntime.Harness.Metrics.Evaluation
import RoboticsRuntime.Contracts.Errors

/-!
# Declared metrics

`_validate_metric_declarations` of `semantics.py`: the instruments that a scenario or the controls of
an assessment declare, and the assertions that refer to them.
-/

namespace RoboticsRuntime.Contracts
open Theory Harness

/-- `_require_unique`. -/
def requireDistinct {α : Type} (schemaName : String) (items : List α) (key : String)
    (f : α → String) (path : String) : Except SemanticFailure Unit :=
  require (Distinct f items) (.semantic schemaName path s!"{key} values must be unique")

/-- `instrument_kind` of a metric definition. -/
inductive DeclaredInstrument where
  | gauge | sum | histogram
  deriving DecidableEq, Repr

def DeclaredInstrument.text : DeclaredInstrument → String
  | gauge => "gauge"
  | sum => "sum"
  | histogram => "histogram"

/-- `temporality` of a metric definition. -/
inductive DeclaredTemporality where
  | instantaneous | delta | cumulative | unspecified
  deriving DecidableEq, Repr

def DeclaredTemporality.text : DeclaredTemporality → String
  | instantaneous => "instantaneous"
  | delta => "delta"
  | cumulative => "cumulative"
  | unspecified => "unspecified"

/-- An entry of `metric_definitions`. -/
structure MetricDefinition where
  metricName : String
  unit : String
  instrumentKind : DeclaredInstrument
  temporality : DeclaredTemporality
  monotonic : Bool := false
  deriving DecidableEq, Repr

/-- `RESERVED_METRIC_NAMES`. -/
def reservedMetricNames : List String :=
  ["robotics.clock.source", "robotics.clock.sync_protocol", "robotics.hardware.clock.drift",
    "robotics.hardware.clock.monotonic", "robotics.hardware.clock.offset",
    "robotics.hardware.message.age", "robotics.inference.latency", "robotics.message.age",
    "robotics.message.loss_ratio", "robotics.message.lost", "robotics.message.received",
    "robotics.message.sequence_error", "robotics.simulation.deadline_miss_ratio",
    "robotics.time_authority.delivery_latency"]

/-- `text.startswith(prefix)`. -/
def startsWith (text start : String) : Bool := start.toList.isPrefixOf text.toList

/-- `_validate_metric_definition`. -/
def validateMetricDefinition (schemaName : String) (entry : MetricDefinition × ℕ) :
    Except SemanticFailure Unit := do
  let definition := entry.1
  let path := s!"$.metric_definitions[{entry.2}]"
  require (startsWith definition.metricName "robotics." → definition.metricName ∈ reservedMetricNames)
    (.semantic schemaName (path ++ ".metric_name") "uses the reserved robotics.* namespace")
  require (startsWith definition.metricName "robotics." ∨ 2 ≤ definition.metricName.toList.count '.')
    (.semantic schemaName (path ++ ".metric_name")
      "product metrics require a reverse-domain namespace")
  require (definition.instrumentKind = .gauge → definition.temporality = .instantaneous)
    (.semantic schemaName (path ++ ".temporality")
      "gauge instruments require instantaneous temporality")
  require (definition.temporality = .instantaneous → definition.instrumentKind = .gauge)
    (.semantic schemaName (path ++ ".temporality")
      "sum and histogram instruments require OTLP aggregation temporality")
  require (definition.monotonic → definition.instrumentKind = .sum)
    (.semantic schemaName (path ++ ".monotonic") "only sum instruments can be monotonic")

/-- `_validate_declared_metric_assertion`. -/
def validateDeclaredMetricAssertion (schemaName : String) (definitions : List MetricDefinition)
    (entry : MetricAssertion × ℕ) : Except SemanticFailure Unit := do
  let assertion := entry.1
  let path := s!"$.assertions[{entry.2}]"
  let definition ← demand
    (definitions.reverse.find? fun definition => definition.metricName = assertion.metricName)
    (.semantic schemaName (path ++ ".metric_name") "has no metric_definitions entry")
  require (assertion.unit = definition.unit)
    (.semantic schemaName (path ++ ".unit") "must match the declared metric unit")
  match assertion.predicate with
  | .metric _ => return
  | .metricDuration maxSampleGapSec requirement =>
    require (definition.instrumentKind = .gauge)
      (.semantic schemaName (path ++ ".metric_name") "duration predicates require a gauge instrument")
    require (requirement.durationSec ≤ assertion.windowSec)
      (.semantic schemaName (path ++ ".duration_requirement.duration_sec")
        "must not exceed window_sec")
    require (maxSampleGapSec ≤ assertion.windowSec)
      (.semantic schemaName (path ++ ".max_sample_gap_sec") "must not exceed window_sec")

/-- `_validate_metric_declarations`. -/
def validateMetricDeclarations (schemaName : String) (definitions : List MetricDefinition)
    (assertions : List MetricAssertion) : Except SemanticFailure Unit := do
  requireDistinct schemaName definitions "metric_name" (·.metricName) "$.metric_definitions"
  definitions.zipIdx.forM (validateMetricDefinition schemaName)
  assertions.zipIdx.forM (validateDeclaredMetricAssertion schemaName definitions)

end RoboticsRuntime.Contracts
