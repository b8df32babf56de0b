import RoboticsRuntime.Python.JsonText
import RoboticsRuntime.Theory.Checks

/-!
# Reading documents

`serialization.py`: the limits of documents and `loads_mapping`. A path is kept as its members,
before it is printed. The YAML branch is left open.
-/

namespace RoboticsRuntime.Contracts
open Theory Python

def maxDocumentBytes : ℕ := 8 * 1024 * 1024
def maxDocumentDepth : ℕ := 64
def maxDocumentNodes : ℕ := 100000

inductive PathMember where
  | key (key : Key)
  | index (index : ℕ)
  deriving DecidableEq

abbrev Path := List PathMember

/-- What reading or writing a document raises. -/
inductive DocumentFailure where
  | limit (message : String) (path : Path)
  | duplicateKey (key : Key) (path : Path)
  | nonFinite (path : Path)
  | invalidUnicode (path : Path)
  | invalidType (message : String) (path : Path)
  /-- `cannot parse {source_name}`, with the text of the parser's error. -/
  | parseFailed (sourceName : String)
  /-- `{source_name} must contain an object`. -/
  | notObject (sourceName : String)
  /-- `TypeError` or `ValueError` of the standard encoder. -/
  | encoder
  deriving DecidableEq

/-- The `error_id` of a contract error. -/
def DocumentFailure.errorId : DocumentFailure → Option String
  | limit .. => some "input.limit_exceeded"
  | duplicateKey .. => some "input.duplicate_key"
  | nonFinite .. => some "input.non_finite_number"
  | invalidUnicode .. => some "input.invalid_unicode"
  | invalidType .. => some "input.invalid_type"
  | parseFailed _ | notObject _ => some "input.parse_failed"
  | encoder => none

variable {φ : Type}

/-- `source` of `loads_mapping`. -/
inductive Source where
  | str (text : PyStr)
  | bytes (bytes : ByteArray)

/-- `_check_size`. -/
def checkSize (sourceName : String) : Source → Except DocumentFailure Unit
  | .bytes bytes =>
    require (bytes.size ≤ maxDocumentBytes) (.limit "document exceeds 8388608 UTF-8 bytes" [])
  | .str s => do
    require (s.length ≤ maxDocumentBytes) (.limit "document exceeds 8388608 UTF-8 bytes" [])
    let bytes ← demand (encodeUtf8 s) (.parseFailed sourceName)
    require (bytes.size ≤ maxDocumentBytes) (.limit "document exceeds 8388608 UTF-8 bytes" [])

/-- The count and the check of a node at the start of `_json_value`. -/
def countNode (path : Path) (depth count : ℕ) : Except DocumentFailure ℕ :=
  if maxDocumentDepth < depth ∨ maxDocumentNodes < count + 1 then
    .error (.limit "document exceeds nesting or node limit" path)
  else .ok (count + 1)

/-- `ensure_finite_numbers` of an object without parts. -/
def ensureFinite (path : Path) : PyScalar φ → Except DocumentFailure Unit
  | .float (.infinity _) | .float .nan => .error (.nonFinite path)
  | _ => .ok ()

mutual

/-- `_json_value`, with the number of nodes counted so far. -/
def jsonValue (path : Path) (depth count : ℕ) :
    PyValue φ → Except DocumentFailure (PyValue φ × ℕ)
  | .scalar value => do
    let count ← countNode path depth count
    ensureFinite path value
    .ok (.scalar value, count)
  | .list items => do
    let count ← countNode path depth count
    let (items, count) ← jsonItems path 0 depth count items
    .ok (.list items, count)
  | .dict items => do
    let count ← countNode path depth count
    let (items, count) ← jsonMembers path [] depth count items
    .ok (.dict items, count)
termination_by structural value => value

def jsonItems (path : Path) (index depth count : ℕ) :
    List (PyValue φ) → Except DocumentFailure (List (PyValue φ) × ℕ)
  | [] => .ok ([], count)
  | item :: items => do
    let (item, count) ← jsonValue (path ++ [.index index]) (depth + 1) count item
    let (items, count) ← jsonItems path (index + 1) depth count items
    .ok (item :: items, count)
termination_by structural items => items

/-- The loop over the pairs of an object, with the keys that the result has so far. -/
def jsonMembers (path : Path) (result : List Key) (depth count : ℕ) :
    PyValue.Items φ → Except DocumentFailure (PyValue.Items φ × ℕ)
  | [] => .ok ([], count)
  | (key, value) :: items => do
    let childPath := path ++ [.key key]
    require (key ∉ result) (.duplicateKey key childPath)
    let count ← countNode childPath (depth + 1) count
    let (value, count) ← jsonValue childPath (depth + 1) count value
    let (items, count) ← jsonMembers path (key :: result) depth count items
    .ok ((key, value) :: items, count)
termination_by structural items => items

end

/-- `str.isspace` of a character. -/
def isSpace (c : CodePoint) : Bool :=
  c.ord ∈ List.range' 0x09 5 ++ List.range' 0x1c 5 ++ [0x85, 0xa0, 0x1680] ++ List.range' 0x2000 11 ++
    [0x2028, 0x2029, 0x202f, 0x205f, 0x3000]

/-- Whether a document is read as JSON: by the suffix of its name, or else by its first character. -/
def useJson (suffix : String) (s : PyStr) : Bool :=
  suffix = ".json" || (suffix ∉ [".yaml", ".yml"] &&
    ((s.dropWhile isSpace).head? = some openBrace || (s.dropWhile isSpace).head? = some openBracket))

/-- The text of a source. -/
def Source.decode (sourceName : String) : Source → Except DocumentFailure PyStr
  | .str s => .ok s
  | .bytes encoded => demand (decodeUtf8 encoded) (.parseFailed sourceName)

/-- `loads_mapping`, given the lower-case suffix of the name of the source, which is empty for the
default name. `yaml` reads the text of a YAML document. -/
def loadsMapping (py : Interpreter φ) (yaml : PyStr → Except DocumentFailure (PyValue φ))
    (sourceName suffix : String) (source : Source) :
    Except DocumentFailure (PyValue.Items φ) := do
  checkSize sourceName source
  let s ← source.decode sourceName
  let value ← if useJson suffix s then do
      let raw ← demand (loads py s) (.parseFailed sourceName)
      let (value, _) ← jsonValue [] 1 0 raw
      .ok value
    else yaml s
  match value with
  | .dict items => .ok items
  | _ => .error (.notObject sourceName)

end RoboticsRuntime.Contracts
