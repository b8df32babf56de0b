import RoboticsRuntime.Verify.HistogramWindow
import RoboticsRuntime.Verify.CounterWindow
import RoboticsRuntime.Verify.RealTimeFactor
import RoboticsRuntime.Verify.ChannelDelivery
import RoboticsRuntime.Verify.TransportVerdict
import RoboticsRuntime.Verify.CausalChain
import RoboticsRuntime.Verify.CausalPath
import RoboticsRuntime.Verify.ObservationDocument
import RoboticsRuntime.Verify.Custody
import RoboticsRuntime.Verify.TimeAuthority
import RoboticsRuntime.Verify.NoFalsePass
import RoboticsRuntime.Verify.ClockPolicy
import RoboticsRuntime.Verify.RecordedRun
import RoboticsRuntime.Harness.Aggregate
import RoboticsRuntime.Verify.DeliveryAccounting
import RoboticsRuntime.Verify.MergePatchAlgebra
import RoboticsRuntime.Verify.LatencyOrder
import RoboticsRuntime.Verify.RealTimeSweep
import RoboticsRuntime.Verify.RunIdentifiers
import RoboticsRuntime.Verify.IdempotentCreation
import RoboticsRuntime.Verify.CanonicalRoundTrip
import RoboticsRuntime.Verify.WindowCoverage
import RoboticsRuntime.Verify.LineFraming
import RoboticsRuntime.Verify.Identifiers
import RoboticsRuntime.Verify.Attribution
import RoboticsRuntime.Verify.McapObservations
import RoboticsRuntime.Verify.McapCrc
import RoboticsRuntime.Verify.ReadinessWait
import RoboticsRuntime.Verify.DurationRuns
import RoboticsRuntime.Verify.MetricTotality
import RoboticsRuntime.Verify.SteppedClock
import RoboticsRuntime.Verify.Campaign
import RoboticsRuntime.Verify.Percentiles
import RoboticsRuntime.Verify.Capture
import RoboticsRuntime.Verify.BagConservation
import RoboticsRuntime.Verify.WheelClosure
import RoboticsRuntime.Verify.AssertionIdentifiers
import RoboticsRuntime.Verify.ArchiveCoverage
import RoboticsRuntime.Verify.NativeVerdict
import RoboticsRuntime.Verify.ArchiveComparison
import RoboticsRuntime.Verify.ArchiveResults
import RoboticsRuntime.Verify.CanonicalForm
import RoboticsRuntime.Verify.SourceBinding
import RoboticsRuntime.Verify.ArchiveOrder
