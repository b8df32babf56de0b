import Mathlib.Data.Finset.Card
import RoboticsRuntime.Contracts.Mcap.Observations
import RoboticsRuntime.Theory.Prefixes

/-!
# The records of an MCAP stream

`Observations` against what a stream of records is: which definitions are made before which records,
and the statistics of the records before its `DataEnd`.
-/

namespace RoboticsRuntime.Contracts.Mcap
open Theory

/-! ## Streams -/

/-- The records before `DataEnd`. -/
def dataRecords (records : List McapRecord) : List McapRecord :=
  records.takeWhile fun record => record ≠ .dataEnd

def McapRecord.schema? : McapRecord → Option Schema
  | .schema record => some record
  | _ => none

def McapRecord.channel? : McapRecord → Option Channel
  | .channel record => some record
  | _ => none

def McapRecord.message? : McapRecord → Option Message
  | .message record => some record
  | _ => none

def schemasOf (records : List McapRecord) : List Schema := records.filterMap McapRecord.schema?

def channelsOf (records : List McapRecord) : List Channel := records.filterMap McapRecord.channel?

def messagesOf (records : List McapRecord) : List Message := records.filterMap McapRecord.message?

/-- What may come after `DataEnd`, but for another one: definitions that repeat one made before it,
and records of the other types. -/
def McapRecord.Repeats (before : List McapRecord) : McapRecord → Prop
  | .schema record => .schema record ∈ before
  | .channel record => .channel record ∈ before
  | .message _ | .attachment | .metadata => False
  | .dataEnd | .other => True

/-- A stream whose definitions come before their uses and agree, and which has one `DataEnd` with
only repeated definitions after it. -/
structure WellFormed (records : List McapRecord) : Prop where
  schema_id_ne_zero : ∀ schema, .schema schema ∈ records → schema.id ≠ 0
  channel_defined : ∀ before channel after, records = before ++ .channel channel :: after →
    channel.schemaId ≠ 0 ∧ ∃ schema, .schema schema ∈ before ∧ schema.id = channel.schemaId
  message_defined : ∀ before message after, records = before ++ .message message :: after →
    ∃ channel, .channel channel ∈ before ∧ channel.id = message.channelId
  schema_eq : ∀ schema schema', .schema schema ∈ records → .schema schema' ∈ records →
    schema.id = schema'.id → schema = schema'
  channel_eq : ∀ channel channel', .channel channel ∈ records → .channel channel' ∈ records →
    channel.id = channel'.id → channel = channel'
  dataEnd_once : records.count .dataEnd = 1
  summary : ∀ before after, records = before ++ .dataEnd :: after →
    ∀ record ∈ after, record.Repeats before

/-- The statistics of some records. -/
def referenceStatistics (records : List McapRecord) : RecordStatistics where
  messageCount := (messagesOf records).length
  schemaCount := ((schemasOf records).map (·.id)).toFinset.card
  channelCount := ((channelsOf records).map (·.id)).toFinset.card
  attachmentCount := records.count .attachment
  metadataCount := records.count .metadata
  messageStartTimeNs := ((messagesOf records).map (·.logTime)).min?.getD 0
  messageEndTimeNs := ((messagesOf records).map (·.logTime)).max?.getD 0

/-- The number of messages of a channel. -/
def channelMessages (records : List McapRecord) (id : ℕ) : ℕ :=
  (messagesOf records).countP fun message => message.channelId = id

@[simp] theorem messagesOf_append (records records' : List McapRecord) :
    messagesOf (records ++ records') = messagesOf records ++ messagesOf records' :=
  List.filterMap_append

@[simp] theorem mem_schemasOf {records : List McapRecord} {schema : Schema} :
    schema ∈ schemasOf records ↔ .schema schema ∈ records := by
  rw [schemasOf, List.mem_filterMap]
  constructor
  · rintro ⟨record, hmem, hrecord⟩
    cases record <;> cases hrecord
    exact hmem
  · exact fun h => ⟨_, h, rfl⟩

@[simp] theorem mem_channelsOf {records : List McapRecord} {channel : Channel} :
    channel ∈ channelsOf records ↔ .channel channel ∈ records := by
  rw [channelsOf, List.mem_filterMap]
  constructor
  · rintro ⟨record, hmem, hrecord⟩
    cases record <;> cases hrecord
    exact hmem
  · exact fun h => ⟨_, h, rfl⟩

theorem dataRecords_subset (records : List McapRecord) : dataRecords records ⊆ records :=
  List.takeWhile_subset _

theorem dataRecords_append {records : List McapRecord} (h : .dataEnd ∉ records)
    (after : List McapRecord) : dataRecords (records ++ after) = records ++ dataRecords after := by
  refine List.takeWhile_append_of_pos fun record hm => decide_eq_true ?_
  rintro rfl
  exact h hm

theorem dataRecords_eq_self {records : List McapRecord} (h : .dataEnd ∉ records) :
    dataRecords records = records := by
  have happend := dataRecords_append h []
  rwa [List.append_nil, show dataRecords [] = [] from rfl, List.append_nil] at happend

theorem dataRecords_append_dataEnd {records : List McapRecord} (h : .dataEnd ∉ records)
    (after : List McapRecord) : dataRecords (records ++ .dataEnd :: after) = records := by
  rw [dataRecords_append h, show dataRecords (.dataEnd :: after) = [] from rfl, List.append_nil]

/-- Nothing is added to the data of a stream that has ended. -/
theorem dataRecords_concat_of_mem {records : List McapRecord} (h : .dataEnd ∈ records)
    (record : McapRecord) : dataRecords (records ++ [record]) = dataRecords records := by
  obtain ⟨before, after, rfl, hbefore⟩ := List.eq_append_cons_of_mem h
  rw [List.append_assoc, List.cons_append, dataRecords_append_dataEnd hbefore,
    dataRecords_append_dataEnd hbefore]

/-! ## Definitions -/

/-- A dictionary holds the records made so far by their ids. -/
structure Defines {ρ : Type} (definitions : List (ℕ × ρ)) (id : ρ → ℕ) (made : ρ → Prop) : Prop where
  nodup : (definitions.map (·.1)).Nodup
  lookup_iff : ∀ key record, definitions.lookup key = some record ↔ made record ∧ id record = key

section Definitions
variable {ρ : Type} [DecidableEq ρ] {definitions definitions' : List (ℕ × ρ)} {id : ρ → ℕ}
  {made : ρ → Prop}

omit [DecidableEq ρ] in
theorem Defines.mem_keys (h : Defines definitions id made) {key : ℕ} :
    key ∈ definitions.map (·.1) ↔ ∃ record, made record ∧ id record = key := by
  rw [← isSome_lookup, Option.isSome_iff_exists]
  simp only [h.lookup_iff]

/-- A definition is accepted when it agrees with the earlier one of its id, which the summary must
have. -/
theorem exists_definition (h : Defines definitions id made) (typeName : String) (record : ρ)
    (inSummary : Bool) :
    (∃ definitions', definition typeName id definitions record inSummary = .ok definitions') ↔
      (∀ record', made record' → id record' = id record → record' = record) ∧
        (inSummary = true → made record) := by
  unfold definition
  cases hlookup : definitions.lookup (id record) with
  | some previous =>
    obtain ⟨hmade, hid⟩ := (h.lookup_iff _ _).1 hlookup
    dsimp only
    split_ifs with hne
    · constructor
      · rintro ⟨_, he⟩
        cases he
      · rintro ⟨hagree, -⟩
        exact absurd (hagree previous hmade hid).symm hne
    · rw [ne_eq, not_not] at hne
      subst hne
      refine ⟨fun _ => ⟨fun record' hmade' hid' => ?_, fun _ => hmade⟩, fun _ => ⟨_, rfl⟩⟩
      have hlookup' := (h.lookup_iff _ _).2 ⟨hmade', hid'⟩
      rw [hlookup] at hlookup'
      exact (Option.some.inj hlookup').symm
  | none =>
    have hnew : ∀ record', made record' → id record' ≠ id record := fun record' hmade hid => by
      rw [(h.lookup_iff _ _).2 ⟨hmade, hid⟩] at hlookup
      cases hlookup
    dsimp only
    split_ifs with hsummary
    · constructor
      · rintro ⟨_, he⟩
        cases he
      · rintro ⟨-, hmade⟩
        exact absurd rfl (hnew record (hmade hsummary))
    · exact ⟨fun _ => ⟨fun record' hmade hid => absurd hid (hnew record' hmade),
        fun hs => absurd hs hsummary⟩, fun _ => ⟨_, rfl⟩⟩

/-- An accepted definition has been made. -/
theorem Defines.definition {typeName : String} {record : ρ} {inSummary : Bool}
    (h : Defines definitions id made)
    (hok : definition typeName id definitions record inSummary = .ok definitions') :
    Defines definitions' id fun record' => made record' ∨ record' = record := by
  obtain ⟨hagree, -⟩ := (exists_definition h _ _ _).1 ⟨_, hok⟩
  unfold Mcap.definition at hok
  cases hlookup : definitions.lookup (id record) with
  | some previous =>
    obtain ⟨hmade, hid⟩ := (h.lookup_iff _ _).1 hlookup
    obtain rfl := hagree previous hmade hid
    rw [hlookup] at hok
    dsimp only at hok
    rw [if_neg (not_not.2 rfl)] at hok
    obtain rfl := Except.ok.inj hok
    refine ⟨h.nodup, fun key record' => ?_⟩
    rw [h.lookup_iff]
    constructor
    · exact fun ⟨hm, he⟩ => ⟨.inl hm, he⟩
    · rintro ⟨hm | rfl, he⟩
      · exact ⟨hm, he⟩
      · exact ⟨hmade, he⟩
  | none =>
    rw [hlookup] at hok
    dsimp only at hok
    split_ifs at hok
    obtain rfl := Except.ok.inj hok
    refine ⟨nodup_assign h.nodup _ _, fun key record' => ?_⟩
    rw [lookup_assign]
    split_ifs with hkey
    · subst hkey
      rw [Option.some.injEq]
      constructor
      · rintro rfl
        exact ⟨.inr rfl, rfl⟩
      · rintro ⟨hm | rfl, he⟩
        · exact (hagree record' hm he).symm
        · rfl
    · rw [h.lookup_iff]
      constructor
      · exact fun ⟨hm, he⟩ => ⟨.inl hm, he⟩
      · rintro ⟨hm | rfl, he⟩
        · exact ⟨hm, he⟩
        · exact absurd he.symm hkey

end Definitions

/-! ## The fold -/

/-- A record may come after the records before it. -/
def Permitted (before : List McapRecord) : McapRecord → Prop
  | .schema schema => schema.id ≠ 0 ∧
      (∀ schema', .schema schema' ∈ before → schema'.id = schema.id → schema' = schema) ∧
      (.dataEnd ∈ before → .schema schema ∈ dataRecords before)
  | .channel channel => channel.schemaId ≠ 0 ∧
      (∃ schema, .schema schema ∈ before ∧ schema.id = channel.schemaId) ∧
      (∀ channel', .channel channel' ∈ before → channel'.id = channel.id → channel' = channel) ∧
      (.dataEnd ∈ before → .channel channel ∈ dataRecords before)
  | .message message => .dataEnd ∉ before ∧
      ∃ channel, .channel channel ∈ before ∧ channel.id = message.channelId
  | .attachment | .metadata | .dataEnd => .dataEnd ∉ before
  | .other => True

/-- What is counted of the records before `DataEnd`. -/
structure Counted (observed : Observations) (data : List McapRecord) : Prop where
  nodup : (observed.messages.map (·.1)).Nodup
  messages : ∀ id, countOf observed.messages id = channelMessages data id
  total : totalCount observed.messages = (messagesOf data).length
  attachments : observed.attachments = data.count .attachment
  metadata : observed.metadata = data.count .metadata
  start : observed.start = ((messagesOf data).map (·.logTime)).min?
  finish : observed.finish = ((messagesOf data).map (·.logTime)).max?.getD 0

/-- What has been observed of the records read so far. -/
structure Observed (observed : Observations) (records : List McapRecord) : Prop where
  schemas : Defines observed.schemas Schema.id fun schema => .schema schema ∈ records
  channels : Defines observed.channels Channel.id fun channel => .channel channel ∈ records
  schema_data : ∀ schema, .schema schema ∈ records → .schema schema ∈ dataRecords records
  channel_data : ∀ channel, .channel channel ∈ records → .channel channel ∈ dataRecords records
  inSummary : observed.inSummary = true ↔ .dataEnd ∈ records
  counted : Counted observed (dataRecords records)

theorem observed_initial : Observed .initial [] where
  schemas := ⟨List.nodup_nil, fun key record => by simp [Observations.initial]⟩
  channels := ⟨List.nodup_nil, fun key record => by simp [Observations.initial]⟩
  schema_data := fun _ h => by cases h
  channel_data := fun _ h => by cases h
  inSummary := by simp [Observations.initial]
  counted := ⟨List.nodup_nil, fun _ => rfl, rfl, rfl, rfl, rfl, rfl⟩

theorem exists_schemaDefinition {observed : Observations} {records : List McapRecord}
    (h : Observed observed records) (schema : Schema) :
    (∃ observed', observed.schemaDefinition schema = .ok observed') ↔
      Permitted records (.schema schema) := by
  have hdefinition := exists_definition h.schemas "Schema" schema observed.inSummary
  have hsummary : (observed.inSummary = true → .schema schema ∈ records) ↔
      (.dataEnd ∈ records → .schema schema ∈ dataRecords records) :=
    imp_congr h.inSummary ⟨h.schema_data schema, fun hm => dataRecords_subset records hm⟩
  rw [hsummary] at hdefinition
  rw [Permitted, ← hdefinition]
  simp only [Observations.schemaDefinition, bind_eq_ok, require_eq_ok, exists_const]
  constructor
  · rintro ⟨_, hid, schemas, hschemas, -⟩
    exact ⟨hid, schemas, hschemas⟩
  · rintro ⟨hid, schemas, hschemas⟩
    exact ⟨_, hid, schemas, hschemas, rfl⟩

theorem exists_channelDefinition {observed : Observations} {records : List McapRecord}
    (h : Observed observed records) (channel : Channel) :
    (∃ observed', observed.channelDefinition channel = .ok observed') ↔
      Permitted records (.channel channel) := by
  have hdefinition := exists_definition h.channels "Channel" channel observed.inSummary
  have hsummary : (observed.inSummary = true → .channel channel ∈ records) ↔
      (.dataEnd ∈ records → .channel channel ∈ dataRecords records) :=
    imp_congr h.inSummary ⟨h.channel_data channel, fun hm => dataRecords_subset records hm⟩
  rw [hsummary] at hdefinition
  rw [Permitted, ← hdefinition, ← h.schemas.mem_keys]
  simp only [Observations.channelDefinition, bind_eq_ok, require_eq_ok, exists_const]
  constructor
  · rintro ⟨_, hid, hschema, channels, hchannels, -⟩
    exact ⟨hid, hschema, channels, hchannels⟩
  · rintro ⟨hid, hschema, channels, hchannels⟩
    exact ⟨_, hid, hschema, channels, hchannels, rfl⟩

/-- A step succeeds when its record is permitted. -/
theorem exists_observe {observed : Observations} {records : List McapRecord}
    (h : Observed observed records) (record : McapRecord) :
    (∃ observed', observed.observe record = .ok observed') ↔ Permitted records record := by
  have hactive : observed.inSummary = false ↔ .dataEnd ∉ records := by
    rw [← h.inSummary, Bool.not_eq_true]
  cases record with
  | schema schema => exact exists_schemaDefinition h schema
  | channel channel => exact exists_channelDefinition h channel
  | message message =>
    rw [Permitted, ← hactive, ← h.channels.mem_keys]
    simp only [Observations.observe, Observations.message, seq_eq_ok, require_eq_ok]
    constructor
    · rintro ⟨_, hs, hc, -⟩
      exact ⟨hs, hc⟩
    · rintro ⟨hs, hc⟩
      exact ⟨_, hs, hc, rfl⟩
  | attachment | metadata | dataEnd =>
    rw [Permitted, ← hactive]
    simp only [Observations.observe, seq_eq_ok, require_eq_ok]
    constructor
    · rintro ⟨_, hs, -⟩
      exact hs
    · exact fun hs => ⟨_, hs, rfl⟩
  | other => exact ⟨fun _ => trivial, fun _ => ⟨_, rfl⟩⟩

/-! ### What a step keeps -/

theorem min?_concat (l : List ℕ) (a : ℕ) :
    (l ++ [a]).min? = some ((l.min?.map (min · a)).getD a) := by
  cases l with
  | nil => rfl
  | cons b l =>
    rw [List.cons_append, List.min?_cons', List.min?_cons', List.foldl_append]
    rfl

theorem max?_concat (l : List ℕ) (a : ℕ) : (l ++ [a]).max?.getD 0 = max (l.max?.getD 0) a := by
  cases l with
  | nil => simp
  | cons b l =>
    rw [List.cons_append, List.max?_cons', List.max?_cons', List.foldl_append]
    rfl

/-- A record other than a message changes no count of messages. -/
theorem Counted.auxiliary {observed : Observations} {data : List McapRecord}
    (h : Counted observed data) {record : McapRecord} (hmessage : record.message? = none)
    {attachments metadata : ℕ} (hattachments : attachments = (data ++ [record]).count .attachment)
    (hmetadata : metadata = (data ++ [record]).count .metadata) :
    Counted { observed with attachments, metadata } (data ++ [record]) := by
  have hmessages : messagesOf (data ++ [record]) = messagesOf data := by
    rw [messagesOf_append, messagesOf, messagesOf, List.filterMap_cons_none hmessage,
      List.filterMap_nil, List.append_nil]
  refine ⟨h.nodup, fun id => ?_, ?_, hattachments, hmetadata, ?_, ?_⟩
  · rw [channelMessages, hmessages]
    exact h.messages id
  · rw [hmessages]
    exact h.total
  · rw [hmessages]
    exact h.start
  · rw [hmessages]
    exact h.finish

/-- Only messages, attachments and metadata are counted. -/
theorem Counted.concat {observed : Observations} {data : List McapRecord}
    (h : Counted observed data) {record : McapRecord} (hmessage : record.message? = none)
    (hattachment : record ≠ .attachment) (hmetadata : record ≠ .metadata) :
    Counted observed (data ++ [record]) := by
  have hcount {counted : McapRecord} (hne : record ≠ counted) :
      (data ++ [record]).count counted = data.count counted := by
    rw [List.count_append, List.count_singleton, if_neg (by simpa using hne), Nat.add_zero]
  exact h.auxiliary hmessage (h.attachments.trans (hcount hattachment).symm)
    (h.metadata.trans (hcount hmetadata).symm)

theorem Counted.message {observed observed' : Observations} {data : List McapRecord}
    (h : Counted observed data) {message : Message} (hok : observed.message message = .ok observed') :
    Counted observed' (data ++ [.message message]) := by
  simp only [Observations.message, bind_eq_ok, require_eq_ok, exists_const] at hok
  obtain ⟨-, -, hok⟩ := hok
  obtain rfl := Except.ok.inj hok
  have hmessages : messagesOf (data ++ [.message message]) = messagesOf data ++ [message] :=
    messagesOf_append data [.message message]
  constructor
  · exact nodup_increment h.nodup _
  · intro id
    rw [countOf_increment, h.messages, channelMessages, channelMessages, hmessages,
      List.countP_append, List.countP_singleton]
    by_cases hid : id = message.channelId
    · simp [hid]
    · simp [hid, Ne.symm hid]
  · rw [totalCount_increment h.nodup, h.total, hmessages, List.length_append, List.length_singleton]
  · simpa using h.attachments
  · simpa using h.metadata
  · rw [hmessages, List.map_append, List.map_singleton, min?_concat, h.start]
  · rw [hmessages, List.map_append, List.map_singleton, max?_concat, h.finish]

theorem dataRecords_concat {records : List McapRecord} (h : .dataEnd ∉ records) {record : McapRecord}
    (hne : record ≠ .dataEnd) : dataRecords (records ++ [record]) = dataRecords records ++ [record] := by
  have hdata : dataRecords [record] = [record] := by
    simp [dataRecords, hne]
  rw [dataRecords_append h, dataRecords_eq_self h, hdata]

/-- What a record that is not counted leaves of the counts. -/
theorem Counted.dataRecords {observed : Observations} {records : List McapRecord}
    (h : Counted observed (dataRecords records)) (record : McapRecord)
    (hmessage : record.message? = none) (hattachment : record ≠ .attachment)
    (hmetadata : record ≠ .metadata) : Counted observed (dataRecords (records ++ [record])) := by
  by_cases hended : .dataEnd ∈ records
  · rw [dataRecords_concat_of_mem hended]
    exact h
  · by_cases hdataEnd : record = .dataEnd
    · rw [hdataEnd, dataRecords_append_dataEnd hended]
      rwa [dataRecords_eq_self hended] at h
    · rw [dataRecords_concat hended hdataEnd]
      exact h.concat hmessage hattachment hmetadata

theorem mem_concat {records : List McapRecord} {record record' : McapRecord} :
    record' ∈ records ++ [record] ↔ record' ∈ records ∨ record' = record := by
  rw [List.mem_append, List.mem_singleton]

/-- A definition that is permitted is made before `DataEnd`. -/
theorem mem_dataRecords_concat {records : List McapRecord} {record record' : McapRecord}
    (hne : record' ≠ .dataEnd) (hdata : record' ∈ records → record' ∈ dataRecords records)
    (hpermitted : record' = record → .dataEnd ∈ records → record' ∈ dataRecords records)
    (hmem : record' ∈ records ++ [record]) : record' ∈ dataRecords (records ++ [record]) := by
  by_cases hended : .dataEnd ∈ records
  · rw [dataRecords_concat_of_mem hended]
    rcases mem_concat.1 hmem with hm | he
    · exact hdata hm
    · exact hpermitted he hended
  · by_cases hdataEnd : record = .dataEnd
    · rw [hdataEnd, dataRecords_append_dataEnd hended]
      exact (mem_concat.1 hmem).resolve_right fun he => hne (he.trans hdataEnd)
    · rw [dataRecords_concat hended hdataEnd, dataRecords_eq_self hended]
      exact hmem

theorem Defines.congr {ρ : Type} {definitions : List (ℕ × ρ)} {id : ρ → ℕ} {made made' : ρ → Prop}
    (h : Defines definitions id made) (hmade : ∀ record, made record ↔ made' record) :
    Defines definitions id made' :=
  ⟨h.nodup, fun key record => by rw [h.lookup_iff, hmade]⟩

/-- A permitted record keeps the invariant where the dictionaries, the phase and the counts follow
it. -/
theorem Observed.concat {observed observed' : Observations} {records : List McapRecord}
    {record : McapRecord} (h : Observed observed records) (hpermitted : Permitted records record)
    (hschemas : Defines observed'.schemas Schema.id fun schema =>
      .schema schema ∈ records ∨ .schema schema = record)
    (hchannels : Defines observed'.channels Channel.id fun channel =>
      .channel channel ∈ records ∨ .channel channel = record)
    (hsummary : observed'.inSummary = true ↔ observed.inSummary = true ∨ .dataEnd = record)
    (hcounted : Counted observed' (dataRecords (records ++ [record]))) :
    Observed observed' (records ++ [record]) where
  schemas := hschemas.congr fun _ => mem_concat.symm
  channels := hchannels.congr fun _ => mem_concat.symm
  schema_data schema := mem_dataRecords_concat (by simp) (h.schema_data schema) (by
    rintro rfl
    exact hpermitted.2.2)
  channel_data channel := mem_dataRecords_concat (by simp) (h.channel_data channel) (by
    rintro rfl
    exact hpermitted.2.2.2)
  inSummary := by rw [hsummary, h.inSummary, mem_concat]
  counted := hcounted

theorem Observed.schemaDefinition {observed observed' : Observations} {records : List McapRecord}
    (h : Observed observed records) {schema : Schema}
    (hok : observed.schemaDefinition schema = .ok observed') :
    Observed observed' (records ++ [.schema schema]) := by
  have hpermitted := (exists_schemaDefinition h schema).1 ⟨_, hok⟩
  simp only [Observations.schemaDefinition, bind_eq_ok, require_eq_ok, exists_const] at hok
  obtain ⟨-, schemas, hschemas, hok⟩ := hok
  obtain rfl := Except.ok.inj hok
  have hcounted := h.counted.dataRecords (.schema schema) rfl (by simp) (by simp)
  refine h.concat hpermitted ?_ ?_ (by simp) ⟨hcounted.nodup, hcounted.messages, hcounted.total,
    hcounted.attachments, hcounted.metadata, hcounted.start, hcounted.finish⟩
  · exact (h.schemas.definition hschemas).congr fun _ => by simp
  · exact h.channels.congr fun _ => by simp

theorem Observed.channelDefinition {observed observed' : Observations} {records : List McapRecord}
    (h : Observed observed records) {channel : Channel}
    (hok : observed.channelDefinition channel = .ok observed') :
    Observed observed' (records ++ [.channel channel]) := by
  have hpermitted := (exists_channelDefinition h channel).1 ⟨_, hok⟩
  simp only [Observations.channelDefinition, bind_eq_ok, require_eq_ok, exists_const] at hok
  obtain ⟨-, -, channels, hchannels, hok⟩ := hok
  obtain rfl := Except.ok.inj hok
  have hcounted := h.counted.dataRecords (.channel channel) rfl (by simp) (by simp)
  refine h.concat hpermitted ?_ ?_ (by simp) ⟨hcounted.nodup, hcounted.messages, hcounted.total,
    hcounted.attachments, hcounted.metadata, hcounted.start, hcounted.finish⟩
  · exact h.schemas.congr fun _ => by simp
  · exact (h.channels.definition hchannels).congr fun _ => by simp

/-- A step keeps what has been observed. -/
theorem Observed.observe {observed observed' : Observations} {records : List McapRecord}
    {record : McapRecord} (h : Observed observed records)
    (hok : observed.observe record = .ok observed') : Observed observed' (records ++ [record]) := by
  have hpermitted := (exists_observe h record).1 ⟨_, hok⟩
  have hsame {observed'' : Observations} (hs : observed''.schemas = observed.schemas)
      (hc : observed''.channels = observed.channels) (hschema : ∀ schema, .schema schema ≠ record)
      (hchannel : ∀ channel, .channel channel ≠ record)
      (hsummary : observed''.inSummary = true ↔ observed.inSummary = true ∨ .dataEnd = record)
      (hcounted : Counted observed'' (dataRecords (records ++ [record]))) :
      Observed observed'' (records ++ [record]) :=
    h.concat hpermitted (hs ▸ h.schemas.congr fun schema => by simp [hschema])
      (hc ▸ h.channels.congr fun channel => by simp [hchannel]) hsummary hcounted
  cases record with
  | schema schema => exact h.schemaDefinition hok
  | channel channel => exact h.channelDefinition hok
  | message message =>
    have hactive : .dataEnd ∉ records := hpermitted.1
    have hcounted := h.counted.message hok
    rw [← dataRecords_concat hactive (by simp)] at hcounted
    simp only [Observations.observe, Observations.message, bind_eq_ok, require_eq_ok,
      exists_const] at hok
    obtain ⟨-, -, hok⟩ := hok
    obtain rfl := Except.ok.inj hok
    exact hsame rfl rfl (by simp) (by simp) (by simp) hcounted
  | attachment | metadata =>
    have hactive : .dataEnd ∉ records := hpermitted
    simp only [Observations.observe, bind_eq_ok, require_eq_ok, exists_const] at hok
    obtain ⟨-, hok⟩ := hok
    obtain rfl := Except.ok.inj hok
    refine hsame rfl rfl (by simp) (by simp) (by simp) ?_
    rw [dataRecords_concat hactive (by simp)]
    exact h.counted.auxiliary rfl (by simp [h.counted.attachments]) (by simp [h.counted.metadata])
  | dataEnd =>
    simp only [Observations.observe, bind_eq_ok, require_eq_ok, exists_const] at hok
    obtain ⟨-, hok⟩ := hok
    obtain rfl := Except.ok.inj hok
    have hcounted := h.counted.dataRecords .dataEnd rfl (by simp) (by simp)
    exact hsame rfl rfl (by simp) (by simp) (by simp) ⟨hcounted.nodup, hcounted.messages,
      hcounted.total, hcounted.attachments, hcounted.metadata, hcounted.start, hcounted.finish⟩
  | other =>
    obtain rfl := Except.ok.inj hok
    exact hsame rfl rfl (by simp) (by simp) (by simp)
      (h.counted.dataRecords .other rfl (by simp) (by simp))

theorem observedStatistics_eachAfter (records : List McapRecord) :
    ((∃ observed, observedStatistics records = .ok observed) ↔ EachAfter Permitted records) ∧
      ∀ observed, observedStatistics records = .ok observed → Observed observed records :=
  foldlM_eachAfter Observed observed_initial (fun _ _ record h => exists_observe h record)
    (fun _ _ _ _ h hok => h.observe hok) records

/-! ## Well-formed streams -/

theorem WellFormed.eachAfter {records : List McapRecord} (h : WellFormed records) :
    EachAfter Permitted records := by
  rintro before record after rfl
  have hmem : record ∈ before ++ record :: after := by simp
  have hbefore {earlier : McapRecord} (hm : earlier ∈ before) : earlier ∈ before ++ record :: after :=
    List.mem_append_left _ hm
  -- After `DataEnd` the record repeats one from before it.
  have hrepeats (hended : .dataEnd ∈ before) : record.Repeats (dataRecords before) := by
    obtain ⟨data, rest, rfl, hdata⟩ := List.eq_append_cons_of_mem hended
    rw [dataRecords_append_dataEnd hdata]
    exact h.summary data (rest ++ record :: after) (by simp) record (by simp)
  cases record with
  | schema schema =>
    exact ⟨h.schema_id_ne_zero schema hmem, fun schema' hm => h.schema_eq _ _ (hbefore hm) hmem,
      hrepeats⟩
  | channel channel =>
    obtain ⟨hid, hschema⟩ := h.channel_defined _ _ _ rfl
    exact ⟨hid, hschema, fun channel' hm => h.channel_eq _ _ (hbefore hm) hmem, hrepeats⟩
  | message message => exact ⟨hrepeats, h.message_defined _ _ _ rfl⟩
  | attachment | metadata => exact hrepeats
  | dataEnd =>
    intro hended
    have hcount := h.dataEnd_once
    rw [List.count_append, List.count_cons_self] at hcount
    have hpos := List.count_pos_iff.2 hended
    omega
  | other => trivial

theorem wellFormed_iff {records : List McapRecord} :
    WellFormed records ↔ EachAfter Permitted records ∧ .dataEnd ∈ records := by
  constructor
  · intro h
    refine ⟨h.eachAfter, List.count_pos_iff.1 ?_⟩
    rw [h.dataEnd_once]
    exact Nat.one_pos
  · rintro ⟨h, hended⟩
    constructor
    · intro schema hm
      obtain ⟨before, after, he⟩ := List.append_of_mem hm
      exact (h _ _ _ he).1
    · exact fun before channel after he => ⟨(h _ _ _ he).1, (h _ _ _ he).2.1⟩
    · exact fun before message after he => (h _ _ _ he).2
    · exact fun schema schema' hm hm' => eq_of_eachAfter h (fun _ _ => McapRecord.schema.inj)
        (fun _ _ _ hp => hp.2.1 _) hm hm'
    · exact fun channel channel' hm hm' => eq_of_eachAfter h (fun _ _ => McapRecord.channel.inj)
        (fun _ _ _ hp => hp.2.2.1 _) hm hm'
    · obtain ⟨before, after, rfl, hbefore⟩ := List.eq_append_cons_of_mem hended
      have hafter : .dataEnd ∉ after := by
        intro hm
        obtain ⟨rest, tail, rfl⟩ := List.append_of_mem hm
        exact h (before ++ .dataEnd :: rest) .dataEnd tail (by simp) (by simp)
      rw [List.count_append, List.count_cons_self, List.count_eq_zero_of_not_mem hbefore,
        List.count_eq_zero_of_not_mem hafter]
    · rintro before after rfl record hm
      obtain ⟨rest, tail, rfl⟩ := List.append_of_mem hm
      have hbefore : .dataEnd ∉ before := h before .dataEnd _ rfl
      have hpermitted := h (before ++ .dataEnd :: rest) record tail (by simp)
      have hafter : .dataEnd ∈ before ++ .dataEnd :: rest := by simp
      have hdata := dataRecords_append_dataEnd hbefore rest
      cases record with
      | schema schema =>
        have hmade := hpermitted.2.2 hafter
        rwa [hdata] at hmade
      | channel channel =>
        have hmade := hpermitted.2.2.2 hafter
        rwa [hdata] at hmade
      | message message => exact hpermitted.1 hafter
      | attachment | metadata => exact hpermitted hafter
      | dataEnd | other => trivial

/-! ## Statistics -/

/-- The keys of a dictionary of records are the ids of the records. -/
theorem Defines.length {ρ : Type} {definitions : List (ℕ × ρ)} {id : ρ → ℕ} {made : ρ → Prop}
    (h : Defines definitions id made) {records : List ρ} (hmade : ∀ record, made record ↔ record ∈ records) :
    definitions.length = (records.map id).toFinset.card := by
  classical
  have hkeys : (definitions.map (·.1)).toFinset = (records.map id).toFinset := by
    ext key
    simp only [List.mem_toFinset, h.mem_keys, hmade, List.mem_map]
  rw [← hkeys, List.toFinset_card_of_nodup h.nodup, List.length_map]

theorem Observed.schema_iff {observed : Observations} {records : List McapRecord}
    (h : Observed observed records) (schema : Schema) :
    .schema schema ∈ records ↔ schema ∈ schemasOf (dataRecords records) := by
  rw [mem_schemasOf]
  exact ⟨h.schema_data schema, fun hm => dataRecords_subset records hm⟩

theorem Observed.channel_iff {observed : Observations} {records : List McapRecord}
    (h : Observed observed records) (channel : Channel) :
    .channel channel ∈ records ↔ channel ∈ channelsOf (dataRecords records) := by
  rw [mem_channelsOf]
  exact ⟨h.channel_data channel, fun hm => dataRecords_subset records hm⟩

theorem Observed.statistics {observed : Observations} {records : List McapRecord}
    (h : Observed observed records) {statistics : RecordStatistics}
    (hok : observed.statistics = .ok statistics) :
    statistics = referenceStatistics (dataRecords records) := by
  obtain ⟨-, hok⟩ := seq_eq_ok.1 hok
  obtain rfl := Except.ok.inj hok
  simp only [referenceStatistics, h.schemas.length h.schema_iff, h.channels.length h.channel_iff,
    h.counted.total, h.counted.attachments, h.counted.metadata, h.counted.start, h.counted.finish]

/-! ## The counts of channels -/

/-- What declared counts are accepted for: they are missing, or they are of channels and give every
channel the number of its messages. -/
def TrueCounts (counts : ChannelMessageCounts) (data : List McapRecord) : Prop :=
  counts.items = [] ∨
    (∀ id ∈ counts.items.map (·.1), ∃ channel ∈ channelsOf data, channel.id = id) ∧
      ∀ channel ∈ channelsOf data, countOf counts.items channel.id = channelMessages data channel.id

/-- Messages are of channels that the data defines. -/
theorem WellFormed.message_channel {records : List McapRecord} (h : WellFormed records)
    {observed : Observations} (hobserved : Observed observed records) {message : Message}
    (hm : message ∈ messagesOf (dataRecords records)) :
    ∃ channel ∈ channelsOf (dataRecords records), channel.id = message.channelId := by
  obtain ⟨record, hrecord, hmessage⟩ := List.mem_filterMap.1 hm
  cases record <;> cases hmessage
  obtain ⟨before, after, he⟩ := List.append_of_mem (dataRecords_subset records hrecord)
  obtain ⟨channel, hchannel, hid⟩ := h.message_defined before _ after he
  refine ⟨channel, (hobserved.channel_iff channel).1 ?_, hid⟩
  rw [he]
  exact List.mem_append_left _ hchannel

theorem checkChannelCounts_eq_ok {records : List McapRecord} (h : WellFormed records)
    {observed : Observations} (hobserved : Observed observed records)
    (counts : ChannelMessageCounts) :
    checkChannelCounts counts observed = .ok () ↔ TrueCounts counts (dataRecords records) := by
  have hagree : CountsAgree (positiveCounts counts.items) observed.messages ↔
      ∀ id, countOf counts.items id = channelMessages (dataRecords records) id := by
    simp only [countsAgree_iff, countOf_positiveCounts counts.nodup, hobserved.counted.messages]
  have hkeys : counts.items.map (·.1) ⊆ observed.channels.map (·.1) ↔
      ∀ id ∈ counts.items.map (·.1), ∃ channel ∈ channelsOf (dataRecords records),
        channel.id = id := by
    refine forall₂_congr fun id _ => ?_
    simp only [hobserved.channels.mem_keys, hobserved.channel_iff]
  rw [checkChannelCounts, require_eq_ok, not_and_or, not_not, not_or, not_not, not_not, hagree,
    hkeys, TrueCounts]
  refine or_congr_right (Iff.trans and_comm (and_congr_right fun hchannels => ?_))
  refine ⟨fun hcounts channel _ => hcounts _, fun hcounts id => ?_⟩
  by_cases hid : ∃ channel ∈ channelsOf (dataRecords records), channel.id = id
  · obtain ⟨channel, hchannel, rfl⟩ := hid
    exact hcounts channel hchannel
  · -- An id without a channel has neither a declared count nor a message.
    rw [countOf_of_not_mem fun hm => hid (hchannels id hm), channelMessages, eq_comm,
      List.countP_eq_zero]
    intro message hm hmessage
    obtain ⟨channel, hchannel, he⟩ := h.message_channel hobserved hm
    exact hid ⟨channel, hchannel, he.trans (by simpa using hmessage)⟩

/-- The entries of the channels that some records define, in the order of their topics. -/
def referenceChannels (data : List McapRecord) : List ChannelSummary :=
  (sortBy (fun channel => toLex (channel.topic, channel.id)) (channelsOf data).dedup).map
    fun channel => {
      topic := channel.topic
      messageEncoding := channel.messageEncoding
      schemaName := (((schemasOf data).find? (·.id = channel.schemaId)).map (·.name)).getD ""
      messageCount := channelMessages data channel.id }

theorem Defines.mem_values {ρ : Type} {definitions : List (ℕ × ρ)} {id : ρ → ℕ} {made : ρ → Prop}
    (h : Defines definitions id made) {record : ρ} :
    record ∈ definitions.map (·.2) ↔ made record := by
  rw [List.mem_map]
  constructor
  · rintro ⟨⟨key, record⟩, hm, rfl⟩
    exact ((h.lookup_iff key record).1 (lookup_of_mem h.nodup hm)).1
  · intro hmade
    exact ⟨_, mem_of_lookup ((h.lookup_iff _ record).2 ⟨hmade, rfl⟩), rfl⟩

/-- Records of one dictionary have different ids. -/
theorem Defines.distinct {ρ : Type} {definitions : List (ℕ × ρ)} {id : ρ → ℕ} {made : ρ → Prop}
    (h : Defines definitions id made) : ((definitions.map (·.2)).map id).Nodup := by
  have hids : (definitions.map (·.2)).map id = definitions.map (·.1) := by
    rw [List.map_map]
    refine List.map_congr_left fun entry hm => ?_
    exact ((h.lookup_iff _ _).1 (lookup_of_mem h.nodup hm)).2
  rw [hids]
  exact h.nodup

theorem WellFormed.schema_of_channel {records : List McapRecord} (h : WellFormed records)
    {channel : Channel} (hm : .channel channel ∈ records) :
    ∃ schema, .schema schema ∈ records ∧ schema.id = channel.schemaId := by
  obtain ⟨before, after, he⟩ := List.append_of_mem hm
  obtain ⟨-, schema, hschema, hid⟩ := h.channel_defined before channel after he
  refine ⟨schema, ?_, hid⟩
  rw [he]
  exact List.mem_append_left _ hschema

theorem channels_eq_ok {records : List McapRecord} (h : WellFormed records)
    {observed : Observations} (hobserved : Observed observed records) :
    channels observed = .ok (referenceChannels (dataRecords records)) := by
  have hdistinct := hobserved.channels.distinct
  have hperm : (observed.channels.map (·.2)).Perm (channelsOf (dataRecords records)).dedup := by
    refine (List.perm_ext_iff_of_nodup hdistinct.of_map (List.nodup_dedup _)).2 fun channel => ?_
    rw [hobserved.channels.mem_values, hobserved.channel_iff, List.mem_dedup]
  have hkey : Distinct (fun channel : Channel => toLex (channel.topic, channel.id))
      (observed.channels.map (·.2)) := by
    refine List.Nodup.of_map (fun key => (ofLex key).2) ?_
    rw [List.map_map]
    exact hdistinct
  rw [channels, sortBy_eq_of_perm hkey hperm, referenceChannels, mapM_eq_ok,
    List.forall₂_map_right_iff]
  refine List.forall₂_same.2 fun channel hm => ?_
  rw [mem_sortBy, List.mem_dedup, ← hobserved.channel_iff] at hm
  obtain ⟨schema, hschema, hid⟩ := h.schema_of_channel hm
  have hfind : (schemasOf (dataRecords records)).find? (·.id = channel.schemaId) = some schema := by
    have hsome : ((schemasOf (dataRecords records)).find? (·.id = channel.schemaId)).isSome :=
      List.find?_isSome.2 ⟨schema, (hobserved.schema_iff schema).1 hschema, by simpa using hid⟩
    obtain ⟨schema', hfind⟩ := Option.isSome_iff_exists.1 hsome
    have hschema' := (hobserved.schema_iff schema').2 (List.mem_of_find?_eq_some hfind)
    have hid' : schema'.id = channel.schemaId := by simpa using List.find?_some hfind
    rw [hfind, h.schema_eq _ _ hschema' hschema (hid'.trans hid.symm)]
  rw [(hobserved.schemas.lookup_iff _ _).2 ⟨hschema, hid⟩, hfind, hobserved.counted.messages]
  rfl

/-- The fold accepts the well-formed streams, and its statistics, the check of the declared counts of
channels and the entries of the channels are those of the records before `DataEnd`. -/
structure MatchesReference (records : List McapRecord) : Prop where
  accepts_iff : (∃ observed statistics, observedStatistics records = .ok observed ∧
    observed.statistics = .ok statistics) ↔ WellFormed records
  statistics : ∀ observed statistics, observedStatistics records = .ok observed →
    observed.statistics = .ok statistics → statistics = referenceStatistics (dataRecords records)
  counts : ∀ observed statistics, observedStatistics records = .ok observed →
    observed.statistics = .ok statistics → ∀ counts, checkChannelCounts counts observed = .ok () ↔
      TrueCounts counts (dataRecords records)
  channels : ∀ observed statistics, observedStatistics records = .ok observed →
    observed.statistics = .ok statistics →
      Mcap.channels observed = .ok (referenceChannels (dataRecords records))

theorem observations_matchReference (records : List McapRecord) : MatchesReference records := by
  obtain ⟨haccepts, hobserved⟩ := observedStatistics_eachAfter records
  have hended {observed : Observations} (h : observedStatistics records = .ok observed) :
      (∃ statistics, observed.statistics = .ok statistics) ↔ .dataEnd ∈ records := by
    rw [← (hobserved observed h).inSummary]
    simp only [Observations.statistics, seq_eq_ok, require_eq_ok]
    constructor
    · rintro ⟨_, hs, -⟩
      exact hs
    · exact fun hs => ⟨_, hs, rfl⟩
  have hwellFormed {observed : Observations} {statistics : RecordStatistics}
      (h : observedStatistics records = .ok observed) (hs : observed.statistics = .ok statistics) :
      WellFormed records :=
    wellFormed_iff.2 ⟨haccepts.1 ⟨observed, h⟩, (hended h).1 ⟨statistics, hs⟩⟩
  constructor
  · constructor
    · rintro ⟨observed, statistics, h, hs⟩
      exact hwellFormed h hs
    · intro h
      obtain ⟨heach, hmem⟩ := wellFormed_iff.1 h
      obtain ⟨observed, hok⟩ := haccepts.2 heach
      obtain ⟨statistics, hs⟩ := (hended hok).2 hmem
      exact ⟨observed, statistics, hok, hs⟩
  · exact fun observed statistics h hs => (hobserved observed h).statistics hs
  · exact fun observed statistics h hs counts =>
      checkChannelCounts_eq_ok (hwellFormed h hs) (hobserved observed h) counts
  · exact fun observed statistics h hs =>
      channels_eq_ok (hwellFormed h hs) (hobserved observed h)

end RoboticsRuntime.Contracts.Mcap
