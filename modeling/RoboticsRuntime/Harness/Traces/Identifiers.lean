import RoboticsRuntime.Contracts.Json
import RoboticsRuntime.Python.Encodings
import RoboticsRuntime.Theory.Checks

/-!
# OTLP identifiers

`traces._normalize_otlp_json`: OTLP writes the identifiers of spans in hexadecimal, where the JSON of
protobuf has base64. Errors are given by the text of the `TraceInputError`.
-/

namespace RoboticsRuntime.Harness
open Theory Python Contracts Json

/-- `_OTLP_IDENTIFIER_LENGTHS`. -/
def otlpIdentifierLengths : List (PyStr × ℕ) :=
  [(text "traceId", 16), (text "spanId", 8), (text "parentSpanId", 8)]

/-- `_protobuf_identifier`, of a field with identifiers of some length. -/
def protobufIdentifier (value : Json PyStr) (field path : PyStr) (expectedBytes : ℕ) :
    Except PyStr PyStr :=
  match value with
  | .str value =>
    if value = [] ∧ field = text "parentSpanId" then .ok []
    else do
      let decoded ← demand (fromhex value) (path ++ text "." ++ field ++ text " is not hexadecimal")
      require (decoded.length = expectedBytes)
        (path ++ text "." ++ field ++ text s!" must encode exactly {expectedBytes} bytes")
      return b64encode decoded
  | _ => .error (path ++ text "." ++ field ++ text " must be a hexadecimal string")

mutual

/-- `_normalize_otlp_json`. -/
def normalizeOtlpJson (path : PyStr) : Json PyStr → Except PyStr (Json PyStr)
  | .list items => do return .list (← normalizeItems path 0 items)
  | .dict members => do return .dict (← normalizeMembers path members)
  | value => .ok value
termination_by structural value => value

/-- The items of a list, from an index on. -/
def normalizeItems (path : PyStr) (index : ℕ) : List (Json PyStr) → Except PyStr (List (Json PyStr))
  | [] => .ok []
  | item :: items => do
    let normalized ← normalizeOtlpJson (path ++ text s!"[{index}]") item
    return normalized :: (← normalizeItems path (index + 1) items)
termination_by structural items => items

/-- The items of a dictionary. -/
def normalizeMembers (path : PyStr) : Members PyStr → Except PyStr (Members PyStr)
  | [] => .ok []
  | (key, value) :: members => do
    let normalized : Json PyStr ← match otlpIdentifierLengths.lookup key with
      | some expectedBytes => (protobufIdentifier value key path expectedBytes).map Json.str
      | none => normalizeOtlpJson (path ++ text "." ++ key) value
    return (key, normalized) :: (← normalizeMembers path members)
termination_by structural members => members

end

/-- The identifier of a span or a link that is recovered from a normalized value: the bytes that the
parser of protobuf decodes, printed in hexadecimal. -/
def recoveredIdentifier (parse : PyStr → Option (List UInt8)) (normalized : PyStr) : Option PyStr :=
  (parse normalized).map hexText

end RoboticsRuntime.Harness
