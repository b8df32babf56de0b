import RoboticsRuntime.Harness.Traces.Identifiers

/-!
# OTLP identifiers in a document

A document is normalized when `bytes.fromhex` reads each of its identifiers as bytes of the right
number; nothing but the identifiers changes. Since `bytes.fromhex` skips white space, that is more
than the documents whose identifiers are hexadecimal digits.
-/

namespace RoboticsRuntime.Harness
open Theory Python Contracts Json

/-- A value is stored under an identifier key, at any depth of objects and lists. -/
inductive HasIdentifier : Json PyStr → PyStr → Json PyStr → Prop
  | here {members : Members PyStr} {field : PyStr} {value : Json PyStr}
      (hmem : (field, value) ∈ members) (hfield : (otlpIdentifierLengths.lookup field).isSome) :
      HasIdentifier (dict members) field value
  | member {members : Members PyStr} {entry : PyStr × Json PyStr} {field : PyStr}
      {value : Json PyStr} (hmem : entry ∈ members) (hkey : otlpIdentifierLengths.lookup entry.1 = none)
      (h : HasIdentifier entry.2 field value) : HasIdentifier (dict members) field value
  | item {items : List (Json PyStr)} {item : Json PyStr} {field : PyStr} {value : Json PyStr}
      (hmem : item ∈ items) (h : HasIdentifier item field value) :
      HasIdentifier (list items) field value

/-- The identifiers that the claim of the format permits: two hexadecimal digits for each byte, or
nothing for the parent of a span. -/
def ExactIdentifier (field : PyStr) (value : Json PyStr) : Prop :=
  ∃ s, value = str s ∧ (s = [] ∧ field = text "parentSpanId" ∨
    ∃ n, otlpIdentifierLengths.lookup field = some n ∧ s.length = 2 * n ∧
      ∀ c ∈ s, (hexValue c).isSome)

/-- The identifiers that `bytes.fromhex` reads as bytes of the right number. -/
def DecodedIdentifier (field : PyStr) (value : Json PyStr) : Prop :=
  ∃ s, value = str s ∧ (s = [] ∧ field = text "parentSpanId" ∨
    ∃ n bytes, otlpIdentifierLengths.lookup field = some n ∧ fromhex s = some bytes ∧
      bytes.length = n)

/-- A change of a string; other values stay. -/
def mapString (f : PyStr → PyStr) : Json PyStr → Json PyStr
  | str s => str (f s)
  | value => value

mutual

/-- A change of the strings that are stored under identifier keys. -/
def mapIdentifiers (f : PyStr → PyStr) : Json PyStr → Json PyStr
  | list items => list (mapIdentifierItems f items)
  | dict members => dict (mapIdentifierMembers f members)
  | value => value
termination_by structural value => value

def mapIdentifierItems (f : PyStr → PyStr) : List (Json PyStr) → List (Json PyStr)
  | [] => []
  | item :: items => mapIdentifiers f item :: mapIdentifierItems f items
termination_by structural items => items

def mapIdentifierMembers (f : PyStr → PyStr) : Members PyStr → Members PyStr
  | [] => []
  | (key, value) :: members =>
    (key, if (otlpIdentifierLengths.lookup key).isSome then mapString f value
      else mapIdentifiers f value) :: mapIdentifierMembers f members
termination_by structural members => members

end

/-- The base64 of the bytes that an identifier is read as. -/
def encodeIdentifier (s : PyStr) : PyStr := b64encode ((fromhex s).getD [])

/-! ## One identifier -/

theorem protobufIdentifier_eq_ok {value : Json PyStr} {field : PyStr} (path : PyStr) {n : ℕ}
    (hfield : otlpIdentifierLengths.lookup field = some n) {encoded : PyStr} :
    protobufIdentifier value field path n = .ok encoded ↔
      ∃ s, value = str s ∧ DecodedIdentifier field value ∧ encoded = encodeIdentifier s := by
  cases value with
  | str s =>
    rw [protobufIdentifier]
    split_ifs with hempty
    · obtain ⟨rfl, hparent⟩ := hempty
      constructor
      · intro h
        obtain rfl := Except.ok.inj h
        exact ⟨[], rfl, ⟨[], rfl, .inl ⟨rfl, hparent⟩⟩, rfl⟩
      · rintro ⟨s, hs, -, rfl⟩
        cases hs
        rfl
    · simp only [bind_eq_ok, demand_eq_ok, require_eq_ok, exists_const]
      constructor
      · rintro ⟨bytes, hbytes, hlength, h⟩
        obtain rfl := Except.ok.inj h
        exact ⟨s, rfl, ⟨s, rfl, .inr ⟨n, bytes, hfield, hbytes, hlength⟩⟩, by
          rw [encodeIdentifier, hbytes, Option.getD_some]⟩
      · rintro ⟨s', hs, ⟨s'', hs', hdecoded⟩, rfl⟩
        cases hs
        cases hs'
        rcases hdecoded with hnil | ⟨n', bytes, hn, hbytes, hlength⟩
        · exact absurd hnil hempty
        · rw [hfield] at hn
          obtain rfl := Option.some.inj hn
          exact ⟨bytes, hbytes, hlength, by rw [encodeIdentifier, hbytes, Option.getD_some]; rfl⟩
  | _ =>
    constructor
    · intro h
      cases h
    · rintro ⟨s, hs, -⟩
      cases hs

/-- Without white space, what is read as bytes of the right number is two digits for each byte. -/
theorem exactIdentifier_iff {field : PyStr} {value : Json PyStr} :
    ExactIdentifier field value ↔
      DecodedIdentifier field value ∧ ∀ s, value = str s → ∀ c ∈ s, isAsciiSpace c = false := by
  constructor
  · rintro ⟨s, rfl, hs⟩
    rcases hs with ⟨rfl, hparent⟩ | ⟨n, hn, hlength, hdigits⟩
    · refine ⟨⟨[], rfl, .inl ⟨rfl, hparent⟩⟩, fun s hs => ?_⟩
      cases hs
      exact List.forall_mem_nil _
    · obtain ⟨bytes, hbytes, hcount⟩ := exists_fromhex hlength hdigits
      refine ⟨⟨s, rfl, .inr ⟨n, bytes, hn, hbytes, hcount⟩⟩, fun s' hs c hc => ?_⟩
      cases hs
      obtain ⟨v, hv⟩ := Option.isSome_iff_exists.1 (hdigits c hc)
      exact isAsciiSpace_of_hexValue hv
  · rintro ⟨⟨s, rfl, hs⟩, hspaces⟩
    have hspaces := hspaces s rfl
    rcases hs with ⟨rfl, hparent⟩ | ⟨n, bytes, hn, hbytes, rfl⟩
    · exact ⟨[], rfl, .inl ⟨rfl, hparent⟩⟩
    · refine ⟨s, rfl, .inr ⟨_, hn, ?_, fun c hc => hexValue_of_fromhex hbytes c hc (hspaces c hc)⟩⟩
      have hfilter : s.filter (fun c => ! isAsciiSpace c) = s :=
        List.filter_eq_self.2 fun c hc => by simp [hspaces c hc]
      have htext := congrArg List.length (hexText_fromhex hbytes)
      rwa [hfilter, length_hexText, lower, List.length_map, eq_comm] at htext

/-- The identifier that is recovered from the base64 is the identifier in lower case, without its
white space. -/
theorem recoveredIdentifier_encode {parse : PyStr → Option (List UInt8)}
    (hparse : ∀ bytes, parse (b64encode bytes) = some bytes) {field s : PyStr}
    (h : DecodedIdentifier field (str s)) :
    recoveredIdentifier parse (encodeIdentifier s) =
      some (lower (s.filter fun c => ! isAsciiSpace c)) := by
  obtain ⟨s', hs, hdecoded⟩ := h
  cases hs
  rw [recoveredIdentifier, encodeIdentifier, hparse, Option.map_some]
  rcases hdecoded with ⟨rfl, -⟩ | ⟨n, bytes, -, hbytes, -⟩
  · rfl
  · rw [hbytes, Option.getD_some, hexText_fromhex hbytes]

/-! ## Documents -/

/-- Every identifier in a document is read as bytes. -/
def Decoded (tree : Json PyStr) : Prop :=
  ∀ field value, HasIdentifier tree field value → DecodedIdentifier field value

/-- A document is normalized, by changing its identifiers, when each of them is read as bytes. -/
def Normalized (tree : Json PyStr) : Prop :=
  ∀ path normalized, normalizeOtlpJson path tree = .ok normalized ↔
    Decoded tree ∧ normalized = mapIdentifiers encodeIdentifier tree

theorem decoded_list {items : List (Json PyStr)} :
    Decoded (list items) ↔ ∀ item ∈ items, Decoded item := by
  constructor
  · exact fun h item hi field value hv => h field value (.item hi hv)
  · intro h field value hv
    cases hv with
    | item hi hv => exact h _ hi field value hv

/-- What is required of one entry of an object. -/
def DecodedEntry (entry : PyStr × Json PyStr) : Prop :=
  if (otlpIdentifierLengths.lookup entry.1).isSome then DecodedIdentifier entry.1 entry.2
  else Decoded entry.2

theorem decoded_dict {members : Members PyStr} :
    Decoded (dict members) ↔ ∀ entry ∈ members, DecodedEntry entry := by
  constructor
  · intro h entry hm
    unfold DecodedEntry
    split_ifs with hfield
    · exact h entry.1 entry.2 (.here hm hfield)
    · exact fun field value hv => h field value (.member hm (Option.not_isSome_iff_eq_none.1 hfield) hv)
  · intro h field value hv
    cases hv with
    | here hm hfield => exact (if_pos hfield).mp (h _ hm)
    | member hm hkey hv => exact (if_neg (by simp [hkey])).mp (h _ hm) field value hv

theorem normalizeItems_eq_ok {items : List (Json PyStr)} (h : ∀ item ∈ items, Normalized item)
    (path : PyStr) (index : ℕ) (normalized : List (Json PyStr)) :
    normalizeItems path index items = .ok normalized ↔
      (∀ item ∈ items, Decoded item) ∧ normalized = mapIdentifierItems encodeIdentifier items := by
  induction items generalizing index normalized with
  | nil => simp [normalizeItems, mapIdentifierItems, eq_comm]
  | cons item items ih =>
    obtain ⟨hitem, hitems⟩ := List.forall_mem_cons.1 h
    simp only [normalizeItems, bind_eq_ok, hitem _ _, ih hitems, List.forall_mem_cons,
      mapIdentifierItems]
    constructor
    · rintro ⟨_, ⟨hdecoded, rfl⟩, _, ⟨hrest, rfl⟩, hok⟩
      exact ⟨⟨hdecoded, hrest⟩, (Except.ok.inj hok).symm⟩
    · rintro ⟨⟨hdecoded, hrest⟩, rfl⟩
      exact ⟨_, ⟨hdecoded, rfl⟩, _, ⟨hrest, rfl⟩, rfl⟩

/-- The changed value of one entry of an object. -/
def normalizedEntry (key : PyStr) (value : Json PyStr) : Json PyStr :=
  if (otlpIdentifierLengths.lookup key).isSome then mapString encodeIdentifier value
  else mapIdentifiers encodeIdentifier value

@[simp] theorem mapString_str (f : PyStr → PyStr) (s : PyStr) : mapString f (str s) = str (f s) := rfl

theorem normalizeMembers_cons {key : PyStr} {value : Json PyStr} {members : Members PyStr}
    (h : Normalized value) (path : PyStr) (normalized : Members PyStr) :
    normalizeMembers path ((key, value) :: members) = .ok normalized ↔
      DecodedEntry (key, value) ∧ ∃ rest, normalizeMembers path members = .ok rest ∧
        normalized = (key, normalizedEntry key value) :: rest := by
  rw [normalizeMembers, DecodedEntry, normalizedEntry]
  dsimp only
  cases hkey : otlpIdentifierLengths.lookup key with
  | some n =>
    simp only [Option.isSome_some, if_true, bind_eq_ok]
    constructor
    · rintro ⟨w, hw, rest, hrest, hok⟩
      cases hp : protobufIdentifier value key path n with
      | error e =>
        rw [hp] at hw
        cases hw
      | ok encoded =>
        rw [hp] at hw
        obtain rfl := Except.ok.inj hw
        obtain ⟨s, rfl, hdecoded, rfl⟩ := (protobufIdentifier_eq_ok path hkey).1 hp
        exact ⟨hdecoded, rest, hrest, (Except.ok.inj hok).symm⟩
    · rintro ⟨hdecoded, rest, hrest, rfl⟩
      obtain ⟨s, rfl, -⟩ := id hdecoded
      have hp := (protobufIdentifier_eq_ok path hkey).2 ⟨s, rfl, hdecoded, rfl⟩
      exact ⟨_, by rw [hp]; rfl, rest, hrest, rfl⟩
  | none =>
    simp only [Option.isSome_none, Bool.false_eq_true, if_false, bind_eq_ok, h _ _]
    constructor
    · rintro ⟨w, ⟨hdecoded, rfl⟩, rest, hrest, hok⟩
      exact ⟨hdecoded, rest, hrest, (Except.ok.inj hok).symm⟩
    · rintro ⟨hdecoded, rest, hrest, rfl⟩
      exact ⟨_, ⟨hdecoded, rfl⟩, rest, hrest, rfl⟩

theorem normalizeMembers_eq_ok {members : Members PyStr} (h : ∀ entry ∈ members, Normalized entry.2)
    (path : PyStr) (normalized : Members PyStr) :
    normalizeMembers path members = .ok normalized ↔
      (∀ entry ∈ members, DecodedEntry entry) ∧
        normalized = mapIdentifierMembers encodeIdentifier members := by
  induction members generalizing normalized with
  | nil => simp [normalizeMembers, mapIdentifierMembers, eq_comm]
  | cons entry members ih =>
    obtain ⟨key, value⟩ := entry
    obtain ⟨hvalue, hmembers⟩ := List.forall_mem_cons.1 h
    simp only [normalizeMembers_cons hvalue, ih hmembers, List.forall_mem_cons, mapIdentifierMembers]
    constructor
    · rintro ⟨hentry, _, ⟨hrest, rfl⟩, rfl⟩
      exact ⟨⟨hentry, hrest⟩, rfl⟩
    · rintro ⟨⟨hentry, hrest⟩, rfl⟩
      exact ⟨hentry, _, ⟨hrest, rfl⟩, rfl⟩

/-- This is an induction over the document, with the paths of errors left open. -/
theorem normalized (tree : Json PyStr) : Normalized tree := by
  induction tree using parts_induction with
  | leaf value hlist hdict =>
    intro path normalized
    have hdecoded : Decoded value := by
      intro field other hv
      cases hv with
      | here | member => exact absurd rfl (hdict _)
      | item => exact absurd rfl (hlist _)
    cases value with
    | list items => exact absurd rfl (hlist items)
    | dict members => exact absurd rfl (hdict members)
    | _ => simp [normalizeOtlpJson, mapIdentifiers, hdecoded, eq_comm]
  | list items ih =>
    intro path normalized
    simp only [normalizeOtlpJson, bind_eq_ok, normalizeItems_eq_ok ih, mapIdentifiers, decoded_list]
    constructor
    · rintro ⟨_, ⟨hdecoded, rfl⟩, hok⟩
      exact ⟨hdecoded, (Except.ok.inj hok).symm⟩
    · rintro ⟨hdecoded, rfl⟩
      exact ⟨_, ⟨hdecoded, rfl⟩, rfl⟩
  | dict members ih =>
    intro path normalized
    simp only [normalizeOtlpJson, bind_eq_ok, normalizeMembers_eq_ok ih, mapIdentifiers, decoded_dict]
    constructor
    · rintro ⟨_, ⟨hdecoded, rfl⟩, hok⟩
      exact ⟨hdecoded, (Except.ok.inj hok).symm⟩
    · rintro ⟨hdecoded, rfl⟩
      exact ⟨_, ⟨hdecoded, rfl⟩, rfl⟩

/-! ## Exactness -/

/-- The document is accepted when its identifiers are hexadecimal digits of the right number, nothing
but its identifiers changes, and what is recovered from them are the identifiers up to case. -/
structure NormalizesExactly (parse : PyStr → Option (List UInt8)) (tree : Json PyStr) : Prop where
  accepts_iff : (∃ normalized, normalizeOtlpJson (text "$") tree = .ok normalized) ↔
    ∀ field value, HasIdentifier tree field value → ExactIdentifier field value
  recovers : ∀ normalized, normalizeOtlpJson (text "$") tree = .ok normalized →
    ∃ encode, normalized = mapIdentifiers encode tree ∧
      (∀ field s, HasIdentifier tree field (str s) →
        recoveredIdentifier parse (encode s) = some (lower s)) ∧
      ∀ field s field' s', HasIdentifier tree field (str s) → HasIdentifier tree field' (str s') →
        (recoveredIdentifier parse (encode s) = recoveredIdentifier parse (encode s') ↔
          lower s = lower s')

theorem exists_normalized_iff {tree : Json PyStr} :
    (∃ normalized, normalizeOtlpJson (text "$") tree = .ok normalized) ↔ Decoded tree := by
  simp [normalized tree (text "$")]

/-- Some identifier has white space, where `bytes.fromhex` skips it. -/
def HasSpacedIdentifier (tree : Json PyStr) : Prop :=
  ∃ field s, HasIdentifier tree field (str s) ∧ ∃ c ∈ s, isAsciiSpace c = true

theorem noSpace_of_not_hasSpacedIdentifier {tree : Json PyStr} (h : ¬ HasSpacedIdentifier tree)
    {field s : PyStr} (hs : HasIdentifier tree field (str s)) : ∀ c ∈ s, isAsciiSpace c = false := by
  intro c hc
  rw [← Bool.not_eq_true]
  exact fun hspace => h ⟨field, s, hs, c, hc, hspace⟩

/-- Normalization is exact unless it reads all identifiers of a document in which some of them has
white space. -/
theorem normalizeOtlpJson_exact (parse : PyStr → Option (List UInt8))
    (hparse : ∀ bytes, parse (b64encode bytes) = some bytes) (tree : Json PyStr) :
    NormalizesExactly parse tree ↔ ¬ (Decoded tree ∧ HasSpacedIdentifier tree) := by
  constructor
  · rintro h ⟨hdecoded, field, s, hs, c, hc, hspace⟩
    have hexact := h.accepts_iff.1 (exists_normalized_iff.2 hdecoded) field _ hs
    have hfalse := (exactIdentifier_iff.1 hexact).2 s rfl c hc
    rw [hspace] at hfalse
    cases hfalse
  · intro h
    have hspaces (hdecoded : Decoded tree) {field s : PyStr}
        (hs : HasIdentifier tree field (str s)) : ∀ c ∈ s, isAsciiSpace c = false :=
      noSpace_of_not_hasSpacedIdentifier (fun hspaced => h ⟨hdecoded, hspaced⟩) hs
    refine ⟨?_, ?_⟩
    · rw [exists_normalized_iff]
      constructor
      · intro hdecoded field value hv
        refine exactIdentifier_iff.2 ⟨hdecoded field value hv, ?_⟩
        rintro s rfl
        exact hspaces hdecoded hv
      · exact fun hexact field value hv => (exactIdentifier_iff.1 (hexact field value hv)).1
    · intro normal hnormal
      obtain ⟨hdecoded, rfl⟩ := (normalized tree _ _).1 hnormal
      have hrecovers {field s : PyStr} (hs : HasIdentifier tree field (str s)) :
          recoveredIdentifier parse (encodeIdentifier s) = some (lower s) := by
        have hfilter : s.filter (fun c => ! isAsciiSpace c) = s :=
          List.filter_eq_self.2 fun c hc => by simp [hspaces hdecoded hs c hc]
        rw [recoveredIdentifier_encode hparse (hdecoded field _ hs), hfilter]
      refine ⟨encodeIdentifier, rfl, fun field s hs => hrecovers hs, fun field s field' s' hs hs' => ?_⟩
      rw [hrecovers hs, hrecovers hs', Option.some_inj]

/-- A document of one span. -/
def spanDocument (traceId : String) : Json PyStr :=
  list [dict [(text "traceId", str (text traceId)), (text "parentSpanId", str [])]]

theorem normalizeOtlpJson_exact_upperCase :
    (∀ bytes, b64decode (b64encode bytes) = some bytes) ∧
    NormalizesExactly b64decode (spanDocument "0AF7651916CD43DD8448EB211C80319C") := by
  refine ⟨b64decode_b64encode, (normalizeOtlpJson_exact b64decode b64decode_b64encode _).2 ?_⟩
  rintro ⟨-, field, s, hs, hspace⟩
  revert hspace
  cases hs with
  | item hmem hs =>
    obtain rfl := List.mem_singleton.1 hmem
    cases hs with
    | here hmem _ =>
      simp only [List.mem_cons, List.not_mem_nil, or_false, Prod.mk.injEq] at hmem
      obtain ⟨-, h⟩ | ⟨-, h⟩ := hmem <;> cases h <;> decide
    | member hmem _ hs =>
      simp only [List.mem_cons, List.not_mem_nil, or_false] at hmem
      obtain rfl | rfl := hmem <;> cases hs

theorem normalizeOtlpJson_space :
    ¬ NormalizesExactly b64decode (spanDocument "0af7 651916cd43dd8448eb211c80319c") := by
  intro h
  have hmem : HasIdentifier (spanDocument "0af7 651916cd43dd8448eb211c80319c") (text "traceId")
      (str (text "0af7 651916cd43dd8448eb211c80319c")) :=
    .item List.mem_cons_self (.here List.mem_cons_self rfl)
  have hexact := h.accepts_iff.1 ⟨_, rfl⟩ _ _ hmem
  have hfalse := (exactIdentifier_iff.1 hexact).2 _ rfl (CodePoint.scalar ' ') (by decide)
  revert hfalse
  decide

end RoboticsRuntime.Harness
