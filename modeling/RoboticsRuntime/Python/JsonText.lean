import RoboticsRuntime.Python.Values

/-!
# JSON texts

The encoder and the decoder of the standard library: `json.JSONEncoder` without spaces, with sorted
keys and with `ensure_ascii` and `allow_nan` off, and `json.loads`. The spelling of floats is left
open. A failure of either is `none`.
-/

namespace RoboticsRuntime.Python
open Theory

/-! ## Characters -/

def quote : CodePoint := .scalar '\x22'
def backslash : CodePoint := .scalar '\x5c'
def openBrace : CodePoint := .scalar '\x7b'
def closeBrace : CodePoint := .scalar '\x7d'
def openBracket : CodePoint := .scalar '['
def closeBracket : CodePoint := .scalar ']'
def comma : CodePoint := .scalar ','
def colon : CodePoint := .scalar ':'
def minus : CodePoint := .scalar '-'

def CodePoint.isDigit : CodePoint → Bool
  | .scalar c => c.isDigit
  | .surrogate _ => false

/-- Characters that a string must escape, apart from the quote and the backslash. -/
def CodePoint.isControl (c : CodePoint) : Bool := c.ord < 0x20

/-- The white space between the tokens of a text. -/
def CodePoint.isBlank (c : CodePoint) : Bool := c ∈ text " \t\n\r"

def skip (s : PyStr) : PyStr := s.dropWhile CodePoint.isBlank

/-- What follows a token at the start of a text. -/
def after (token : PyStr) (s : PyStr) : Option PyStr :=
  if token.isPrefixOf s then some (s.drop token.length) else none

/-- `chr`. -/
def chr (n : ℕ) : CodePoint :=
  if h : 0xd800 ≤ n ∧ n < 0xe000 then .surrogate ⟨n - 0xd800, by omega⟩ else .scalar (Char.ofNat n)

/-! ## Numbers -/

/-- What the results below leave open of an interpreter. -/
structure Interpreter (φ : Type) where
  /-- `float.__repr__` of a finite float. -/
  repr : φ → PyStr
  /-- `float` of a text. -/
  float : PyStr → PyFloat φ
  /-- `sys.get_int_max_str_digits()`, with zero for no limit. -/
  intMaxStrDigits : ℕ

variable {φ : Type} (py : Interpreter φ)

/-- Whether an integer has too many digits to be converted from or to a text. -/
def Interpreter.tooLong (digits : ℕ) : Bool := py.intMaxStrDigits ≠ 0 && py.intMaxStrDigits < digits

def decimalDigits (n : ℕ) : PyStr := (Nat.toDigits 10 n).map .scalar

/-- `str` of an integer; too many digits are a `ValueError`. -/
def Interpreter.intRepr (value : ℤ) : Option PyStr :=
  let digits := decimalDigits value.natAbs
  if py.tooLong digits.length then none
  else some (if value < 0 then minus :: digits else digits)

/-- The number that digits spell. -/
def digitsValue (s : PyStr) : ℕ := Nat.ofDigitChars 10 (s.filterMap CodePoint.toChar) 0

/-- `int` of a text with an optional sign; too many digits are a `ValueError`. -/
def Interpreter.int (s : PyStr) : Option ℤ :=
  match s with
  | [] => none
  | c :: digits =>
    if c = minus then if py.tooLong digits.length then none else some (-digitsValue digits)
    else if py.tooLong s.length then none else some (digitsValue s)

/-- The groups of a match of `NUMBER_RE`. -/
structure NumberMatch where
  integer : PyStr
  fraction : PyStr
  exponent : PyStr

/-- The match of `-?`. -/
def matchSign : PyStr → PyStr × PyStr
  | [] => ([], [])
  | c :: rest => if c = minus then ([minus], rest) else ([], c :: rest)

/-- The match of `0|[1-9][0-9]*`. -/
def matchDigits : PyStr → Option (PyStr × PyStr)
  | [] => none
  | c :: rest =>
    if c = .scalar '0' then some ([c], rest)
    else if c.isDigit then
      some (c :: rest.takeWhile CodePoint.isDigit, rest.dropWhile CodePoint.isDigit)
    else none

/-- The match of `(\.[0-9]+)?`. -/
def matchFraction : PyStr → PyStr × PyStr
  | [] => ([], [])
  | c :: rest =>
    if c = .scalar '.' ∧ rest.takeWhile CodePoint.isDigit ≠ [] then
      (c :: rest.takeWhile CodePoint.isDigit, rest.dropWhile CodePoint.isDigit)
    else ([], c :: rest)

/-- The match of `[-+]?`. -/
def matchExponentSign : PyStr → PyStr × PyStr
  | [] => ([], [])
  | c :: rest => if c ∈ text "-+" then ([c], rest) else ([], c :: rest)

/-- The match of `([eE][-+]?[0-9]+)?`. -/
def matchExponent : PyStr → PyStr × PyStr
  | [] => ([], [])
  | c :: rest =>
    let signed := matchExponentSign rest
    if c ∈ text "eE" ∧ signed.2.takeWhile CodePoint.isDigit ≠ [] then
      (c :: (signed.1 ++ signed.2.takeWhile CodePoint.isDigit),
        signed.2.dropWhile CodePoint.isDigit)
    else ([], c :: rest)

/-- `NUMBER_RE.match`, and what follows the match. -/
def matchNumber (s : PyStr) : Option (NumberMatch × PyStr) := do
  let signed := matchSign s
  let digits ← matchDigits signed.2
  let fraction := matchFraction digits.2
  let exponent := matchExponent fraction.2
  some (⟨signed.1 ++ digits.1, fraction.1, exponent.1⟩, exponent.2)

/-- The number that a match spells. -/
def NumberMatch.value (number : NumberMatch) : Option (PyScalar φ) :=
  if number.fraction = [] ∧ number.exponent = [] then (py.int number.integer).map .int
  else some (.float (py.float (number.integer ++ number.fraction ++ number.exponent)))

/-- A text that is matched as a whole, with a fraction or an exponent. -/
def IsFloatLiteral (s : PyStr) : Prop :=
  ∃ number : NumberMatch, matchNumber s = some (number, []) ∧
    (number.fraction ≠ [] ∨ number.exponent ≠ []) ∧
    s = number.integer ++ number.fraction ++ number.exponent

/-- The spelling of a float is a literal of a float, which is read as that float. -/
structure Interpreter.Lawful : Prop where
  literal : ∀ value, IsFloatLiteral (py.repr value)
  inverse : ∀ value, py.float (py.repr value) = .finite value

/-! ## Strings -/

/-- `ESCAPE_DCT`, or the character itself. -/
def escape (c : CodePoint) : PyStr :=
  if c = quote then [backslash, quote]
  else if c = backslash then [backslash, backslash]
  else if c = .scalar '\n' then [backslash, .scalar 'n']
  else if c = .scalar '\r' then [backslash, .scalar 'r']
  else if c = .scalar '\t' then [backslash, .scalar 't']
  else if c = .scalar '\x08' then [backslash, .scalar 'b']
  else if c = .scalar '\x0c' then [backslash, .scalar 'f']
  else if c.isControl then
    [backslash, .scalar 'u', .scalar '0', .scalar '0', hexDigit (c.ord / 16), hexDigit (c.ord % 16)]
  else [c]

/-- `encode_basestring`. -/
def encodeString (s : PyStr) : PyStr := quote :: (s.flatMap escape ++ [quote])

/-- `_decode_uXXXX`. -/
def decodeUnit : PyStr → Option (ℕ × PyStr)
  | a :: b :: c :: d :: rest => do
    let a ← hexValue a
    let b ← hexValue b
    let c ← hexValue c
    let d ← hexValue d
    some (((a * 16 + b) * 16 + c) * 16 + d, rest)
  | _ => none

/-- What follows a backslash. Escapes of a high and a low surrogate are one character. -/
def scanEscape : PyStr → Option (CodePoint × PyStr)
  | [] => none
  | c :: rest =>
    if c = .scalar 'u' then do
      let (unit, rest) ← decodeUnit rest
      if 0xd800 ≤ unit ∧ unit ≤ 0xdbff then
        match after (text "\\u") rest with
        | none => some (chr unit, rest)
        | some second => do
          let (low, joined) ← decodeUnit second
          if 0xdc00 ≤ low ∧ low ≤ 0xdfff then
            some (chr (0x10000 + (unit - 0xd800) * 0x400 + (low - 0xdc00)), joined)
          else some (chr unit, rest)
      else some (chr unit, rest)
    else if c ∈ [quote, backslash, .scalar '/'] then some (c, rest)
    else if c = .scalar 'b' then some (.scalar '\x08', rest)
    else if c = .scalar 'f' then some (.scalar '\x0c', rest)
    else if c = .scalar 'n' then some (.scalar '\n', rest)
    else if c = .scalar 'r' then some (.scalar '\r', rest)
    else if c = .scalar 't' then some (.scalar '\t', rest)
    else none

/-- `scanstring` after the opening quote. Every step consumes a character, so that the length of the
text is fuel enough. -/
def scanString : ℕ → PyStr → Option (PyStr × PyStr)
  | 0, _ => none
  | _ + 1, [] => none
  | fuel + 1, c :: rest =>
    if c = quote then some ([], rest)
    else if c.isControl then none
    else do
      let (c, rest) ← if c = backslash then scanEscape rest else some (c, rest)
      let (s, rest) ← scanString fuel rest
      some (c :: s, rest)

/-! ## Encoding -/

/-- The spelling of an object without parts. -/
def encodeScalar : PyScalar φ → Option PyStr
  | .none => some (text "null")
  | .bool true => some (text "true")
  | .bool false => some (text "false")
  | .int value => py.intRepr value
  | .float (.finite value) => some (py.repr value)
  | .str value => some (encodeString value)
  -- `allow_nan` is off, and there is no default for other types.
  | .float _ | .other _ => none

/-- A member of an object. -/
def encodeMember (member : PyStr × PyStr) : PyStr := encodeString member.1 ++ colon :: member.2

/-- `dct.items()` in the order of the keys, which are compared by their code points. -/
def sortMembers (members : List (PyStr × PyStr)) : List (PyStr × PyStr) :=
  sortBy (fun member => member.1.map CodePoint.ord) members

mutual

/-- `JSONEncoder.iterencode`, as one text. -/
def encode : PyValue φ → Option PyStr
  | .scalar value => encodeScalar py value
  | .list items => do
    let chunks ← encodeItems items
    some (openBracket :: ([comma].intercalate chunks ++ [closeBracket]))
  | .dict items => do
    let members ← encodeMembers items
    some (openBrace :: ([comma].intercalate ((sortMembers members).map encodeMember) ++ [closeBrace]))
termination_by structural value => value

def encodeItems : List (PyValue φ) → Option (List PyStr)
  | [] => some []
  | item :: items => do
    let chunk ← encode item
    let chunks ← encodeItems items
    some (chunk :: chunks)
termination_by structural items => items

/-- The members of an object before they are sorted. -/
def encodeMembers : PyValue.Items φ → Option (List (PyStr × PyStr))
  | [] => some []
  | (.str key, value) :: items => do
    let chunk ← encode value
    let members ← encodeMembers items
    some ((key, chunk) :: members)
  | (.other _, _) :: _ => none
termination_by structural items => items

end

/-! ## Decoding -/

/-- The part of `scan_once` for objects without parts, apart from strings. -/
def scanScalar (s : PyStr) : Option (PyScalar φ × PyStr) :=
  match after (text "null") s, after (text "true") s, after (text "false") s with
  | some rest, _, _ => some (.none, rest)
  | none, some rest, _ => some (.bool true, rest)
  | none, none, some rest => some (.bool false, rest)
  | none, none, none =>
    match matchNumber s with
    | some (number, rest) => (number.value py).map fun value => (value, rest)
    | none =>
      match after (text "NaN") s, after (text "Infinity") s, after (text "-Infinity") s with
      | some rest, _, _ => some (.float .nan, rest)
      | none, some rest, _ => some (.float (.infinity false), rest)
      | none, none, some rest => some (.float (.infinity true), rest)
      | none, none, none => none

mutual

/-- `scan_once`. The items of an object are kept as they stand, also when two have one key. -/
def scanOnce : ℕ → PyStr → Option (PyValue φ × PyStr)
  | 0, _ => none
  | _ + 1, [] => none
  | fuel + 1, c :: rest =>
    if c = quote then do
      let (value, rest) ← scanString rest.length rest
      some (.scalar (.str value), rest)
    else if c = openBrace then
      if (skip rest).head? = some closeBrace then some (.dict [], (skip rest).tail)
      else do
        let (items, rest) ← scanMembers fuel (skip rest)
        some (.dict items, rest)
    else if c = openBracket then
      if (skip rest).head? = some closeBracket then some (.list [], (skip rest).tail)
      else do
        let (items, rest) ← scanItems fuel (skip rest)
        some (.list items, rest)
    else do
      let (value, rest) ← scanScalar py (c :: rest)
      some (.scalar value, rest)

/-- The loop of `JSONObject`. -/
def scanMembers : ℕ → PyStr → Option (PyValue.Items φ × PyStr)
  | 0, _ => none
  | fuel + 1, s => do
    let rest ← after [quote] s
    let (key, rest) ← scanString rest.length rest
    let rest ← after [colon] (skip rest)
    let (value, rest) ← scanOnce fuel (skip rest)
    match skip rest with
    | [] => none
    | c :: rest =>
      if c = closeBrace then some ([(.str key, value)], rest)
      else if c = comma then do
        let (items, rest) ← scanMembers fuel (skip rest)
        some ((.str key, value) :: items, rest)
      else none

/-- The loop of `JSONArray`. -/
def scanItems : ℕ → PyStr → Option (List (PyValue φ) × PyStr)
  | 0, _ => none
  | fuel + 1, s => do
    let (value, rest) ← scanOnce fuel s
    match skip rest with
    | [] => none
    | c :: rest =>
      if c = closeBracket then some ([value], rest)
      else if c = comma then do
        let (items, rest) ← scanItems fuel (skip rest)
        some (value :: items, rest)
      else none

end

/-- `json.loads`. A text must not start with a byte order mark. -/
def loads (s : PyStr) : Option (PyValue φ) :=
  if s.head? = some (.scalar '\ufeff') then none
  else do
    let (value, rest) ← scanOnce py (s.length + 1) (skip s)
    if skip rest = [] then some value else none

end RoboticsRuntime.Python
