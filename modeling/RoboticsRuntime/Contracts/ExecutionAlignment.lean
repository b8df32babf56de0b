import RoboticsRuntime.Contracts.AcceptanceResult

/-!
# The bundle verifier's clauses about clocks

The clauses of `_qualification._validate_execution_alignment` that judge the clocks of a result again:
the real-time policy of a passed one, and the hardware clock of one that has it.
-/

namespace RoboticsRuntime.Contracts
open Theory

/-- `clock` of a runtime manifest. -/
structure RuntimeClock where
  syncProtocol : String
  offsetMs : ℚ
  driftPpm : ℚ
  deriving DecidableEq, Repr

/-- `_require_equal`, for values that are printed by `repr`. -/
def requireEqual {α : Type} [DecidableEq α] (repr : α → String) (label : String)
    (expected actual : α) : Except QualificationError Unit :=
  require (expected = actual)
    { message := label ++ " does not match: expected " ++ repr expected ++ ", received " ++
        repr actual }

theorem requireEqual_eq_ok {α : Type} [DecidableEq α] {repr : α → String} {label : String}
    {expected actual : α} : requireEqual repr label expected actual = .ok () ↔ expected = actual :=
  require_eq_ok

/-- `realtime_within_policy`. -/
def realtimeWithinPolicy (policy : TimePolicy) (clock : ClockDocument) : Bool :=
  policy.minRealtimeFactor.getD 0 ≤ clock.realTimeFactor &&
    clock.deadlineMissRatio ≤ policy.maxDeadlineMissRatio.getD 1

/-- The clauses about a hardware clock. A policy of hardware in real time declares its protocol. -/
def validateHardwareClock (py : PyOps) (domainId : String) (policy : TimePolicy)
    (runtimeClock : RuntimeClock) (monotonic : Bool) (hardware : HardwareClockDocument) :
    Except QualificationError Unit := do
  let expectedProtocol := policy.clockSyncProtocol.getD ""
  let label (name : String) := "result " ++ domainId ++ " " ++ name
  requireEqual py.text (label "runtime clock protocol") expectedProtocol runtimeClock.syncProtocol
  requireEqual py.text (label "hardware clock protocol") expectedProtocol hardware.syncProtocol
  requireEqual py.number (label "hardware clock offset") runtimeClock.offsetMs hardware.offsetMs
  requireEqual py.number (label "hardware clock drift") runtimeClock.driftPpm hardware.driftPpm
  requireEqual (fun verdict => if verdict then "True" else "False") (label "hardware-clock policy verdict")
    (hardwareClockWithinPolicy policy hardware.sampleCount hardware.offsetMs hardware.driftPpm
      hardware.maxSampleAgeMs monotonic)
    hardware.withinPolicy

/-- The clauses of `_validate_execution_alignment` about the clocks of a result. -/
def validateClockAlignment (py : PyOps) (domainId : String) (policy : TimePolicy)
    (runtimeClock : RuntimeClock) (result : AcceptanceResult) : Except QualificationError Unit := do
  let clock := result.clockObservation
  require (result.status = .passed → realtimeWithinPolicy policy clock = true)
    { message := s!"result {domainId} violates its real-time policy" }
  match result.hardwareClockObservation with
  | some hardware =>
    validateHardwareClock py domainId policy runtimeClock clock.monotonic hardware
  | none => return

end RoboticsRuntime.Contracts
