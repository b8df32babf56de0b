import RoboticsRuntime.Python.Lines
import RoboticsRuntime.Theory.Checks

/-!
# Newline-delimited OTLP JSON

`otel.read_otlp_json_lines`, which the trace and the metric reader take their records from, and the
framing of `signalflag_emissions.read_emissions`.
-/

namespace RoboticsRuntime.Harness
open Theory Python

/-- The fields of `fstat` that are compared. -/
structure FileStat where
  sizeBytes : ℕ
  mtimeNs : ℤ
  ctimeNs : ℤ
  deriving DecidableEq, Repr

/-- What reading an evidence file yields: its state before, the bytes, and its state after. -/
structure EvidenceRead where
  before : FileStat
  payload : ByteArray
  after : FileStat

/-- The errors of the reader: `HarnessInputError`, and the `error_type` of its caller. -/
inductive OtlpReadError where
  | input (message : String)
  | evidence (message : String)
  deriving DecidableEq, Repr

/-- The digest of a payload, and the text of `UnicodeDecodeError`. -/
structure OtlpOps where
  sha256 : ByteArray → String
  decodeError : ByteArray → String

/-- `_validate_raw_evidence_budget`, of an integer. -/
def validateRawEvidenceBudget (maxRawEvidenceBytes : Option ℤ) : Except OtlpReadError Unit :=
  require (∀ limit ∈ maxRawEvidenceBytes, 0 < limit)
    (.input "max_raw_evidence_bytes must be a positive integer or None")

/-- The checks of the file while it is read, with the errors that are reported as one. -/
def checkEvidenceRead (read : EvidenceRead) (maxRawEvidenceBytes : Option ℤ) :
    Except String ByteArray := do
  require (∀ limit ∈ maxRawEvidenceBytes, (read.before.sizeBytes : ℤ) ≤ limit)
    "OTLP raw evidence exceeds max_raw_evidence_bytes"
  require (∀ limit ∈ maxRawEvidenceBytes, (read.payload.size : ℤ) ≤ limit)
    "OTLP raw evidence exceeds max_raw_evidence_bytes"
  require (read.payload.size = read.before.sizeBytes ∧ read.before = read.after)
    "OTLP evidence changed while being read"
  return read.payload

/-- `read_otlp_json_lines`, where opening the file fails with a text or yields what is read. -/
def readOtlpJsonLines (ops : OtlpOps) (source : String) (opened : Except String EvidenceRead)
    (expectedSha256 : Option String) (maxRawEvidenceBytes : Option ℤ) :
    Except OtlpReadError (List String) := do
  validateRawEvidenceBudget maxRawEvidenceBytes
  let payload ← (opened >>= fun read => checkEvidenceRead read maxRawEvidenceBytes).mapError
    fun error => .evidence s!"cannot read {source}: {error}"
  let observed := ops.sha256 payload
  let expected := expectedSha256.getD ""
  require (∀ expected ∈ expectedSha256, observed = expected)
    (.evidence s!"{source} digest differs: expected {expected}; observed {observed}")
  let text ← demand (String.fromUTF8? payload)
    (.evidence s!"cannot decode {source} as UTF-8: {ops.decodeError payload}")
  return splitLines text

/-- `lines` of `read_emissions`: what line feeds separate, without an empty last line. -/
def emissionLines (source : ByteArray) : List (List UInt8) :=
  let lines := splitAtLineFeeds (bytes source)
  if lines.getLast? = some [] then lines.dropLast else lines

end RoboticsRuntime.Harness
