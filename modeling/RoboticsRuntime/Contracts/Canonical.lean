import RoboticsRuntime.Contracts.Serialization

/-!
# Canonical JSON

`canonical.dumps_canonical`. The check comes before the encoder: it counts nodes, among them the keys
of objects, and a lower bound of the bytes.
-/

namespace RoboticsRuntime.Contracts
open Theory Python

variable {φ : Type} (py : Interpreter φ)

/-- `_check_string`. The path of a key is that of its object, but the key is in the path of an error
about its characters. -/
def checkString (value : PyStr) (path : Path) (key : Bool) : Except DocumentFailure ℕ := do
  require (value.length ≤ maxDocumentBytes) (.limit "string exceeds the document byte limit" path)
  let encoded ← demand (encodeUtf8 value)
    (.invalidUnicode (if key then path ++ [.key (.str value)] else path))
  require (encoded.size ≤ maxDocumentBytes)
    (.limit "string exceeds the document UTF-8 byte limit" path)
  .ok encoded.size

/-- `int.bit_length`. -/
def bitLength (value : ℤ) : ℕ := if value = 0 then 0 else value.natAbs.log2 + 1

/-- `_check_integer`. -/
def checkInteger (value : ℤ) (path : Path) : Except DocumentFailure ℕ := do
  require (bitLength value ≤ 4 * maxDocumentBytes)
    (.limit "integer exceeds the document byte limit" path)
  let spelling ← demand (py.intRepr value)
    (.limit "integer exceeds the interpreter's decimal conversion limit" path)
  require (spelling.length ≤ maxDocumentBytes)
    (.limit "integer exceeds the document byte limit" path)
  .ok spelling.length

/-- `_check_scalar`. -/
def checkScalar (path : Path) : PyScalar φ → Except DocumentFailure ℕ
  | .str value => checkString value path false
  | .int value => checkInteger py value path
  | .float (.finite _) | .none | .bool _ => .ok 1
  | .float _ => .error (.nonFinite path)
  | .other typeName => .error (.invalidType ("unsupported JSON value type: " ++ typeName) path)

/-- `budget`: the nodes and a lower bound of the bytes. -/
structure Budget where
  nodes : ℕ
  bytes : ℕ
  deriving DecidableEq

/-- The end of `_check_value`, for an object without parts. -/
def checkLeaf (path : Path) (value : PyScalar φ) (budget : Budget) :
    Except DocumentFailure Budget := do
  let size ← checkScalar py path value
  require (budget.bytes + size ≤ maxDocumentBytes)
    (.limit "document values exceed the UTF-8 byte limit" path)
  .ok { budget with bytes := budget.bytes + size }

/-- `_check_string` of a key of an object. -/
def checkKey (path : Path) : Key → Except DocumentFailure PyStr
  | .str key => do
    let _ ← checkString key path true
    .ok key
  | .other _ => .error (.invalidType "object keys must be strings" path)

mutual

/-- `_check_value`. -/
def checkValue (path : Path) (depth : ℕ) (budget : Budget) :
    PyValue φ → Except DocumentFailure Budget
  | .scalar value => do
    let nodes ← countNode path depth budget.nodes
    checkLeaf py path value { budget with nodes }
  | .list items => do
    let nodes ← countNode path depth budget.nodes
    checkItems path 0 depth { budget with nodes } items
  | .dict items => do
    let nodes ← countNode path depth budget.nodes
    checkMembers path depth { budget with nodes } items
termination_by structural value => value

def checkItems (path : Path) (index depth : ℕ) (budget : Budget) :
    List (PyValue φ) → Except DocumentFailure Budget
  | [] => .ok budget
  | item :: items => do
    let budget ← checkValue (path ++ [.index index]) (depth + 1) budget item
    checkItems path (index + 1) depth budget items
termination_by structural items => items

/-- The loop over the items of an object. A key is a node of the level of its value. -/
def checkMembers (path : Path) (depth : ℕ) (budget : Budget) :
    PyValue.Items φ → Except DocumentFailure Budget
  | [] => .ok budget
  | (key, value) :: items => do
    let name ← checkKey path key
    let childPath := path ++ [.key key]
    let nodes ← countNode childPath (depth + 1) budget.nodes
    let budget ← checkLeaf py childPath (.str name) { budget with nodes }
    let budget ← checkValue childPath (depth + 1) budget value
    checkMembers path depth budget items
termination_by structural items => items

end

/-- `dumps_canonical`. -/
def dumpsCanonical (document : PyValue φ) : Except DocumentFailure ByteArray := do
  let _ ← checkValue py [] 1 ⟨0, 0⟩ document
  let encoded ← demand (encode py document) .encoder
  let bytes ← demand (encodeUtf8 encoded) .encoder
  require (bytes.size ≤ maxDocumentBytes)
    (.limit "serialized document exceeds the UTF-8 byte limit" [])
  .ok bytes

end RoboticsRuntime.Contracts
