import Mathlib.Algebra.BigOperators.Ring.Finset
import Mathlib.Algebra.Order.Ring.Rat
import RoboticsRuntime.Contracts.BagDataset

/-!
# Conservation of the messages of a bag

An accepted manifest, its summaries and its native metadata agree on the messages of each file and
on the messages of each channel. Nothing but the summaries ties the two views together.
-/

namespace RoboticsRuntime.Contracts
open Theory

variable {document : DatasetManifest} {metadata : NativeValue} {summaries : List RecordingSummary}
  {expectedRunId : Option String}

/-! ## What the summaries say -/

/-- The messages of all files. -/
def fileTotal (summaries : List RecordingSummary) : ℕ :=
  (summaries.map (·.statistics.messageCount)).sum

/-- The messages of all channels of all files. -/
def channelTotal (summaries : List RecordingSummary) : ℕ :=
  (summaries.map fun summary => (summary.channels.map (·.messageCount)).sum).sum

/-- The messages of the channels of the manifest. -/
def DatasetManifest.channelTotal (document : DatasetManifest) : ℕ :=
  (document.channels.map (·.messageCount)).sum

theorem totalCount_flatMap (summaries : List RecordingSummary) :
    totalCount (summaries.flatMap (·.channelCounts)) = channelTotal summaries := by
  induction summaries with
  | nil => rfl
  | cons summary summaries ih =>
    simp only [totalCount, channelTotal, RecordingSummary.channelCounts, List.flatMap_cons,
      List.map_append, List.sum_append, List.map_cons, List.sum_cons, List.map_map] at ih ⊢
    rw [ih]
    rfl

/-- The dictionary of the channels has their counts, since their topics are distinct. -/
theorem channelCounts_eq (h : Distinct (·.topic) document.channels) :
    document.channelCounts =
      document.channels.map fun channel => ((channel.topic, channel.type), channel.messageCount) := by
  have hnodup : (document.channels.map fun channel => (channel.topic, channel.type)).Nodup :=
    List.Nodup.of_map Prod.fst (by rwa [List.map_map])
  have hfold := @foldl_assign _ _ _ [] (document.channels.map fun channel =>
    ((channel.topic, channel.type), channel.messageCount)) (by rwa [List.nil_append, List.map_map])
  rwa [List.foldl_map, List.nil_append] at hfold

/-- What `validate_bag_summaries` establishes. -/
structure SummariesBound (document : DatasetManifest) (summaries : List RecordingSummary) : Prop where
  length : document.bag.members.length = summaries.length
  total : document.bag.messageCount = fileTotal summaries
  channels : CountsAgree document.channelCounts
    ((summaries.flatMap (·.channelCounts)).foldl addCount [])
  start : some document.time.startNs = ((summaries.filterMap (·.interval?)).map (·.1)).min?
  finish : some document.time.endNs = ((summaries.filterMap (·.interval?)).map (·.2)).max?

theorem validateBagSummaries_bound (h : validateBagSummaries document summaries = .ok ()) :
    SummariesBound document summaries := by
  simp only [validateBagSummaries, seq_eq_ok, require_eq_ok] at h
  obtain ⟨-, hlength, -, htotal, hchannels, -, hstart, hfinish⟩ := h
  exact ⟨hlength, htotal, hchannels, hstart, hfinish⟩

/-! ## What the native metadata says -/

/-- The values of `message_count` in a listing of the native metadata. -/
def nativeCounts (key : String) (metadata : NativeValue) :
    Except DatasetValidationError (List NativeValue) := do
  let info ← metadata.item "rosbag2_bagfile_information"
  let listing ← info.item key
  let items ← listing.iterate
  items.mapM (NativeValue.item "message_count")

/-- The counts of a listing are numbers, and this is their sum. -/
def NativeTotal (key : String) (metadata : NativeValue) (total : ℕ) : Prop :=
  ∃ values numbers, nativeCounts key metadata = .ok values ∧
    List.Forall₂ (fun value number => value.number? = some number) values numbers ∧
    numbers.sum = (total : ℚ)

theorem isInt_eq_true {value : NativeValue} {number : ℤ} :
    value.isInt number = true ↔ value = .int number := by
  cases value <;> simp [NativeValue.isInt]

theorem isText_eq_true {value : NativeValue} {text : String} :
    value.isText text = true ↔ value = .str text := by
  cases value <;> simp [NativeValue.isText]

/-- The counts of the files are the counts of their summaries. -/
theorem checkNativeFile_count {entry : NativeValue × RecordingSummary}
    (h : checkNativeFile entry = .ok ()) :
    entry.1.item "message_count" = .ok (.int entry.2.statistics.messageCount) := by
  obtain ⟨value, hvalue, h⟩ := bind_eq_ok.1 h
  obtain ⟨hcount, -⟩ := seq_eq_ok.1 h
  rw [hvalue, isInt_eq_true.1 (require_eq_ok.1 hcount)]

theorem nativeFiles_total {items : List NativeValue} (hlength : items.length = summaries.length)
    (h : (items.zip summaries).forM checkNativeFile = .ok ()) :
    ∃ values numbers, items.mapM (NativeValue.item "message_count") = .ok values ∧
      List.Forall₂ (fun value number => NativeValue.number? value = some number) values numbers ∧
      numbers.sum = (fileTotal summaries : ℚ) := by
  refine ⟨summaries.map fun summary => .int summary.statistics.messageCount,
    summaries.map fun summary => (summary.statistics.messageCount : ℚ), ?_, ?_, ?_⟩
  · refine mapM_eq_ok.2 (List.forall₂_map_right_iff.2 (List.forall₂_iff_zip.2 ⟨hlength, ?_⟩))
    intro item summary hmem
    exact checkNativeFile_count (forM_eq_ok.1 h (item, summary) hmem)
  · refine List.forall₂_map_left_iff.2 (List.forall₂_map_right_iff.2 (List.forall₂_same.2 ?_))
    exact fun summary _ => congrArg some (by push_cast; rfl)
  · rw [fileTotal, Nat.cast_list_sum, List.map_map]
    rfl

theorem nativeTopic_count {item : NativeValue} {topic : NativeTopic}
    (h : nativeTopic item = .ok topic) : item.item "message_count" = .ok topic.messageCount := by
  obtain ⟨topicMetadata, -, h⟩ := bind_eq_ok.1 h
  obtain ⟨name, -, h⟩ := bind_eq_ok.1 h
  obtain ⟨type, -, h⟩ := bind_eq_ok.1 h
  obtain ⟨messageCount, hcount, h⟩ := bind_eq_ok.1 h
  obtain ⟨-, h⟩ := seq_eq_ok.1 h
  cases h
  exact hcount

/-- The topic has the name, the type and the count of an entry. -/
def NativeTopic.Has (topic : NativeTopic) (entry : (String × String) × ℕ) : Prop :=
  topic.name = .str entry.1.1 ∧ topic.type = .str entry.1.2 ∧
    topic.messageCount.number? = some (entry.2 : ℚ)

theorem NativeTopic.Has.unique {topic : NativeTopic} {a b : (String × String) × ℕ}
    (ha : topic.Has a) (hb : topic.Has b) : a = b := by
  obtain ⟨⟨name, type⟩, count⟩ := a
  obtain ⟨⟨name', type'⟩, count'⟩ := b
  obtain ⟨hname, htype, hcount⟩ := ha
  obtain ⟨hname', htype', hcount'⟩ := hb
  cases hname.symm.trans hname'
  cases htype.symm.trans htype'
  obtain rfl : count = count' := Nat.cast_injective (Option.some.inj (hcount.symm.trans hcount'))
  rfl

/-- The counts of the native topics are those of the channels, in some order: each channel has a
topic of its own, and there are no more topics than channels. -/
theorem nativeTopics_total {items : List NativeValue} {topics : List NativeTopic}
    {expected : List ((String × String) × ℕ)} (hnodup : (expected.map (·.1)).Nodup)
    (htopics : items.mapM nativeTopic = .ok topics) (hequal : NativeCountsEqual expected topics) :
    ∃ values numbers, items.mapM (NativeValue.item "message_count") = .ok values ∧
      List.Forall₂ (fun value number => NativeValue.number? value = some number) values numbers ∧
      numbers.sum = (totalCount expected : ℚ) := by
  obtain ⟨hlength, hfound⟩ := hequal
  have hpartner : ∀ entry ∈ expected, ∃ topic ∈ topics, topic.Has entry := by
    intro entry hentry
    obtain ⟨topic, htopic, hname, htype, hcount⟩ := hfound entry hentry
    exact ⟨topic, htopic, isText_eq_true.1 hname, isText_eq_true.1 htype, hcount⟩
  obtain ⟨partners, hperm, hpartners⟩ := exists_perm_forall₂ (hnodup.of_map _) hlength hpartner
    fun _ _ _ ha hb => ha.unique hb
  have hnumber (topic : NativeTopic) (htopic : topic ∈ topics) :
      topic.messageCount.number? = some (topic.messageCount.number?.getD 0) := by
    obtain ⟨entry, -, -, -, hcount⟩ := exists_of_forall₂_mem hpartners (hperm.mem_iff.2 htopic)
    rw [hcount, Option.getD_some]
  refine ⟨topics.map (·.messageCount), topics.map fun topic => topic.messageCount.number?.getD 0,
    ?_, ?_, ?_⟩
  · rw [mapM_eq_ok, List.forall₂_map_right_iff]
    exact (mapM_eq_ok.1 htopics).imp fun item topic h => nativeTopic_count h
  · rw [List.forall₂_map_left_iff, List.forall₂_map_right_iff, List.forall₂_same]
    exact hnumber
  · rw [← (hperm.map _).sum_eq, totalCount, Nat.cast_list_sum, List.map_map]
    refine congrArg List.sum (map_eq_of_forall₂ (fun entry topic h => ?_) hpartners).symm
    rw [h.2.2, Option.getD_some]
    rfl

/-- What `validate_bag_metadata` establishes. -/
structure MetadataBound (document : DatasetManifest) (metadata : NativeValue)
    (summaries : List RecordingSummary) : Prop extends SummariesBound document summaries where
  files : NativeTotal "files" metadata (fileTotal summaries)
  topics : (document.channelCounts.map (·.1)).Nodup →
    NativeTotal "topics_with_message_count" metadata (totalCount document.channelCounts)

theorem validateBagMetadata_bound
    (h : validateBagMetadata document metadata summaries expectedRunId = .ok ()) :
    MetadataBound document metadata summaries := by
  obtain ⟨hsummaries, h⟩ := seq_eq_ok.1 h
  obtain ⟨info, hinfo, h⟩ := bind_eq_ok.1 h
  obtain ⟨storage, -, h⟩ := bind_eq_ok.1 h
  obtain ⟨-, h⟩ := seq_eq_ok.1 h
  obtain ⟨paths, -, h⟩ := bind_eq_ok.1 h
  obtain ⟨-, h⟩ := seq_eq_ok.1 h
  obtain ⟨files, hfiles, h⟩ := bind_eq_ok.1 h
  obtain ⟨items, hitems, h⟩ := bind_eq_ok.1 h
  obtain ⟨filePaths, -, h⟩ := bind_eq_ok.1 h
  obtain ⟨-, h⟩ := seq_eq_ok.1 h
  obtain ⟨messageCount, -, h⟩ := bind_eq_ok.1 h
  obtain ⟨-, h⟩ := seq_eq_ok.1 h
  obtain ⟨hcounts, h⟩ := seq_eq_ok.1 h
  obtain ⟨hlength, h⟩ := seq_eq_ok.1 h
  obtain ⟨startingTime, -, h⟩ := bind_eq_ok.1 h
  obtain ⟨nanosecondsSinceEpoch, -, h⟩ := bind_eq_ok.1 h
  obtain ⟨-, h⟩ := seq_eq_ok.1 h
  obtain ⟨duration, -, h⟩ := bind_eq_ok.1 h
  obtain ⟨nanoseconds, -, h⟩ := bind_eq_ok.1 h
  obtain ⟨-, h⟩ := seq_eq_ok.1 h
  obtain ⟨topicItems, htopicItems, h⟩ := bind_eq_ok.1 h
  obtain ⟨topicValues, htopicValues, h⟩ := bind_eq_ok.1 h
  obtain ⟨topics, htopics, h⟩ := bind_eq_ok.1 h
  obtain ⟨-, h⟩ := seq_eq_ok.1 h
  obtain ⟨hequal, -⟩ := seq_eq_ok.1 h
  have hlisting {key : String} {listing : NativeValue} {values : List NativeValue}
      (hkey : info.item key = .ok listing) (hvalues : listing.iterate = .ok values) :
      nativeCounts key metadata = values.mapM (NativeValue.item "message_count") := by
    rw [nativeCounts, hinfo, ok_bind, hkey, ok_bind, hvalues, ok_bind]
  refine ⟨validateBagSummaries_bound hsummaries, ?_, fun hnodup => ?_⟩
  · rw [NativeTotal, hlisting hfiles hitems]
    exact nativeFiles_total (require_eq_ok.1 hlength) hcounts
  · rw [NativeTotal, hlisting htopicItems htopicValues]
    exact nativeTopics_total hnodup htopics (require_eq_ok.1 hequal)

/-! ## Conservation -/

/-- The documents are accepted by the semantics of their kinds and with each other. -/
structure AcceptedBag (document : DatasetManifest) (metadata : NativeValue)
    (summaries : List RecordingSummary) (expectedRunId : Option String) : Prop where
  manifest : validateDataset document = .ok ()
  finalized : ∀ summary ∈ summaries, validateRecordingSummary summary = .ok ()
  native : validateBagMetadata document metadata summaries expectedRunId = .ok ()

/-- All counts are of the same messages, and the recorded time is that of the members with
messages. -/
structure Conserved (document : DatasetManifest) (metadata : NativeValue)
    (summaries : List RecordingSummary) : Prop where
  members : document.bag.messageCount = fileTotal summaries
  nativeFiles : NativeTotal "files" metadata document.bag.messageCount
  channels : document.bag.messageCount = document.channelTotal
  nativeTopics : NativeTotal "topics_with_message_count" metadata document.bag.messageCount
  inside : ∀ summary ∈ summaries, summary.statistics.messageCount ≠ 0 →
    document.time.startNs ≤ summary.statistics.messageStartTimeNs ∧
      summary.statistics.messageStartTimeNs ≤ summary.statistics.messageEndTimeNs ∧
      summary.statistics.messageEndTimeNs ≤ document.time.endNs
  startAttained : ∃ summary ∈ summaries, summary.statistics.messageCount ≠ 0 ∧
    summary.statistics.messageStartTimeNs = document.time.startNs
  endAttained : ∃ summary ∈ summaries, summary.statistics.messageCount ≠ 0 ∧
    summary.statistics.messageEndTimeNs = document.time.endNs

theorem interval?_eq_some {summary : RecordingSummary} {interval : ℕ × ℕ} :
    summary.interval? = some interval ↔ summary.statistics.messageCount ≠ 0 ∧
      interval = (summary.statistics.messageStartTimeNs, summary.statistics.messageEndTimeNs) := by
  simp [RecordingSummary.interval?, eq_comm]

namespace SummariesBound

variable (H : SummariesBound document summaries)
include H

theorem startAttained : ∃ summary ∈ summaries, summary.statistics.messageCount ≠ 0 ∧
    summary.statistics.messageStartTimeNs = document.time.startNs := by
  obtain ⟨hmem, -⟩ := List.min?_eq_some_iff.1 H.start.symm
  obtain ⟨interval, hinterval, he⟩ := List.mem_map.1 hmem
  obtain ⟨summary, hsummary, hsome⟩ := List.mem_filterMap.1 hinterval
  obtain ⟨hcount, rfl⟩ := interval?_eq_some.1 hsome
  exact ⟨summary, hsummary, hcount, he⟩

theorem endAttained : ∃ summary ∈ summaries, summary.statistics.messageCount ≠ 0 ∧
    summary.statistics.messageEndTimeNs = document.time.endNs := by
  obtain ⟨hmem, -⟩ := List.max?_eq_some_iff.1 H.finish.symm
  obtain ⟨interval, hinterval, he⟩ := List.mem_map.1 hmem
  obtain ⟨summary, hsummary, hsome⟩ := List.mem_filterMap.1 hinterval
  obtain ⟨hcount, rfl⟩ := interval?_eq_some.1 hsome
  exact ⟨summary, hsummary, hcount, he⟩

theorem inside {summary : RecordingSummary} (hsummary : summary ∈ summaries)
    (hcount : summary.statistics.messageCount ≠ 0) :
    document.time.startNs ≤ summary.statistics.messageStartTimeNs ∧
      summary.statistics.messageEndTimeNs ≤ document.time.endNs := by
  have hinterval := List.mem_filterMap.2 ⟨summary, hsummary, interval?_eq_some.2 ⟨hcount, rfl⟩⟩
  exact ⟨(List.min?_eq_some_iff.1 H.start.symm).2 _ (List.mem_map_of_mem hinterval),
    (List.max?_eq_some_iff.1 H.finish.symm).2 _ (List.mem_map_of_mem hinterval)⟩

/-- The channels of the manifest have the messages of the channels of the summaries. -/
theorem channelTotal_eq (h : Distinct (·.topic) document.channels) :
    document.channelTotal = channelTotal summaries := by
  have hcounts := channelCounts_eq h
  have hnodup : (document.channelCounts.map (·.1)).Nodup := by
    rw [hcounts, List.map_map]
    exact List.Nodup.of_map Prod.fst (by rwa [List.map_map])
  have hfold := @foldl_addCount _ _ ([] : List ((String × String) × ℕ)) List.nodup_nil
    (summaries.flatMap (·.channelCounts))
  have hagree := H.channels.totalCount_eq hnodup hfold.1
  rw [hfold.2, totalCount_flatMap, hcounts, totalCount, List.map_map] at hagree
  simpa [totalCount, DatasetManifest.channelTotal, Function.comp_def] using hagree

end SummariesBound

namespace AcceptedBag

variable (H : AcceptedBag document metadata summaries expectedRunId)
include H

theorem distinct_topics : Distinct (·.topic) document.channels := by
  obtain ⟨-, hfacts⟩ := seq_eq_ok.1 H.manifest
  obtain ⟨hdistinct, -⟩ := seq_eq_ok.1 (mapError_eq_ok.1 hfacts)
  exact require_eq_ok.1 hdistinct

theorem start_le_end {summary : RecordingSummary} (hsummary : summary ∈ summaries) :
    summary.statistics.messageStartTimeNs ≤ summary.statistics.messageEndTimeNs := by
  obtain ⟨-, h⟩ := seq_eq_ok.1 (H.finalized summary hsummary)
  obtain ⟨-, h⟩ := seq_eq_ok.1 h
  exact require_eq_ok.1 h

theorem nodup_channelCounts : (document.channelCounts.map (·.1)).Nodup := by
  rw [channelCounts_eq H.distinct_topics, List.map_map]
  exact List.Nodup.of_map Prod.fst (by rw [List.map_map]; exact H.distinct_topics)

theorem totalCount_channelCounts : totalCount document.channelCounts = document.channelTotal := by
  rw [channelCounts_eq H.distinct_topics, totalCount, List.map_map]
  rfl

/-- The messages of an accepted bag are conserved just when the summaries count as many messages in
their channels as in their files. -/
theorem conserved_iff : Conserved document metadata summaries ↔
    channelTotal summaries = fileTotal summaries := by
  have hbound := validateBagMetadata_bound H.native
  have hchannels := hbound.channelTotal_eq H.distinct_topics
  constructor
  · intro h
    rw [← hchannels, ← h.channels, h.members]
  · intro h
    have htotal : document.bag.messageCount = document.channelTotal := by
      rw [hchannels, h, hbound.total]
    have htopics := hbound.topics H.nodup_channelCounts
    rw [H.totalCount_channelCounts, ← htotal] at htopics
    exact {
      members := hbound.total
      nativeFiles := hbound.total ▸ hbound.files
      channels := htotal
      nativeTopics := htopics
      inside := fun summary hsummary hcount =>
        ⟨(hbound.inside hsummary hcount).1, H.start_le_end hsummary,
          (hbound.inside hsummary hcount).2⟩
      startAttained := hbound.startAttained
      endAttained := hbound.endAttained }

end AcceptedBag

/-! ## A summary that counts more messages in its channels -/

/-- A digest of one repeated digit. -/
def repeatedDigest (digit : Char) : String := String.ofList (List.replicate 64 digit)

/-- A manifest of one file and one channel. -/
def clockManifest (fileCount channelCount : ℕ) (h : 0 < fileCount) : DatasetManifest where
  bag := {
    metadata := ⟨"file:///metadata.yaml", repeatedDigest '0'⟩
    members := [⟨0, "recording_0.mcap", ⟨"file:///recording_0.mcap", repeatedDigest '1'⟩,
      ⟨"file:///summary_0.json", repeatedDigest '2'⟩⟩]
    messageCount := fileCount
    members_ne_nil := List.cons_ne_nil _ _
    messageCount_pos := h }
  channels := [⟨"/clock", "rosgraph_msgs/msg/Clock", "RIHS01_" ++ repeatedDigest 'a', .sensorData,
    none, channelCount⟩]
  time := ⟨.systemTime, 100, 110, []⟩
  capturedAt := "2025-01-01T00:00:00Z"
  governance := ⟨"CC0-1.0", .public, "short-term"⟩
  topicRemaps := []
  channels_ne_nil := List.cons_ne_nil _ _

def clockSummary (fileCount channelCount : ℕ) : RecordingSummary where
  sourceSha256 := repeatedDigest '1'
  statistics := ⟨fileCount, 1, 100, 110⟩
  channels := [⟨"/clock", "rosgraph_msgs/msg/Clock", channelCount⟩]

/-- The native metadata of that file. -/
def clockMetadata (fileCount channelCount : ℕ) : NativeValue :=
  .dict [("rosbag2_bagfile_information", .dict [
    ("storage_identifier", .str "mcap"),
    ("relative_file_paths", .list [.str "recording_0.mcap"]),
    ("files", .list [.dict [
      ("path", .str "recording_0.mcap"),
      ("starting_time", .dict [("nanoseconds_since_epoch", .int 100)]),
      ("duration", .dict [("nanoseconds", .int 10)]),
      ("message_count", .int fileCount)]]),
    ("starting_time", .dict [("nanoseconds_since_epoch", .int 100)]),
    ("duration", .dict [("nanoseconds", .int 10)]),
    ("message_count", .int fileCount),
    ("topics_with_message_count", .list [.dict [
      ("topic_metadata", .dict [
        ("name", .str "/clock"),
        ("type", .str "rosgraph_msgs/msg/Clock"),
        ("type_description_hash", .str ("RIHS01_" ++ repeatedDigest 'a')),
        ("offered_qos_profiles", .list [])]),
      ("message_count", .int channelCount)]]),
    ("custom_data", .dict [
      ("run_id", .str "source-run"),
      ("record_timestamp_basis", .str "system_time"),
      ("dataset_license", .str "CC0-1.0"),
      ("data_classification", .str "public"),
      ("retention_class", .str "short-term"),
      ("captured_at", .str "2025-01-01T00:00:00Z")])])]

theorem acceptedBag_clock : AcceptedBag (clockManifest 2 2 (by decide)) (clockMetadata 2 2)
    [clockSummary 2 2] (some "source-run") where
  manifest := by decide +kernel
  finalized := by decide +kernel
  native := by decide +kernel

theorem acceptedBag_overcounted : AcceptedBag (clockManifest 2 3 (by decide)) (clockMetadata 2 3)
    [clockSummary 2 3] (some "source-run") where
  manifest := by decide +kernel
  finalized := by decide +kernel
  native := by decide +kernel

theorem conserved_iff_clock :
    Conserved (clockManifest 2 2 (by decide)) (clockMetadata 2 2) [clockSummary 2 2] :=
  acceptedBag_clock.conserved_iff.2 rfl

theorem not_conserved_overcounted : ¬ ∀ document metadata summaries expectedRunId,
    AcceptedBag document metadata summaries expectedRunId →
      Conserved document metadata summaries := by
  intro h
  have hchannels := (h _ _ _ _ acceptedBag_overcounted).channels
  exact absurd hchannels (by decide)

end RoboticsRuntime.Contracts
