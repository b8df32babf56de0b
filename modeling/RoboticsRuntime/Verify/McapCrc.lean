import RoboticsRuntime.Contracts.Mcap.Crc

/-!
# The checksums of a recording

The recordings that `verify_extra_crcs` accepts: between its magics a recording is a sequence of
records, whose attachments and whose footer have the checksum of the bytes they stand for, or none.
-/

namespace RoboticsRuntime.Contracts.Mcap
open Theory Python Reader

/-! ## Recordings -/

/-- A record as it stands in a recording. -/
structure Envelope where
  opcode : UInt8
  length : List UInt8
  body : List UInt8

def Envelope.bytes (record : Envelope) : List UInt8 := record.opcode :: (record.length ++ record.body)

/-- A field is preceded by its length, in some number of bytes. -/
def Prefixed (size : ℕ) (length field : List UInt8) : Prop :=
  length.length = size ∧ field.length = littleEndian length

/-- A stored checksum is zero, or that of some data. -/
def Stores (crc data : List UInt8) : Prop :=
  littleEndian crc = 0 ∨ littleEndian crc = (crc32 data 0).toNat

/-- Two times, two strings and the data of an attachment with their checksum; more may follow. -/
def AttachmentBody (body : List UInt8) : Prop :=
  ∃ times nameLength name typeLength type dataLength data crc extension : List UInt8,
    body = times ++ (nameLength ++ (name ++ (typeLength ++ (type ++ (dataLength ++ (data ++
      (crc ++ extension))))))) ∧
    times.length = 16 ∧ Prefixed 4 nameLength name ∧ Prefixed 4 typeLength type ∧
    Prefixed 8 dataLength data ∧ crc.length = 4 ∧
    Stores crc (times ++ (nameLength ++ (name ++ (typeLength ++ (type ++ (dataLength ++ data))))))

/-- The checksum of a footer that begins at a position is that of the bytes before it, from the start
of the summary or, without a summary, from the footer on. -/
def FooterBody (bytes : List UInt8) (position : ℕ) (body : List UInt8) : Prop :=
  body.length = 20 ∧ ∃ summaryStart, summaryStart = littleEndian (body.take 8) ∧
    (summaryStart = 0 ∨ magicSize ≤ summaryStart ∧ summaryStart ≤ position) ∧
    ∃ first, first = (if summaryStart = 0 then position else summaryStart) ∧
      Stores (body.drop 16) (between bytes first (position + 25))

/-- What is required of records from a position of a recording on. -/
def ValidFrom (bytes : List UInt8) : ℕ → List Envelope → Prop
  | _, [] => True
  | position, record :: records =>
    Prefixed 8 record.length record.body ∧
    (record.opcode.toNat = attachmentOpcode → AttachmentBody record.body) ∧
    (record.opcode.toNat = footerOpcode → records = [] ∧ FooterBody bytes position record.body) ∧
    ValidFrom bytes (position + record.bytes.length) records

/-- The bytes between the magics are records with valid checksums. -/
def CrcsValid (bytes : List UInt8) : Prop :=
  ∃ records : List Envelope,
    between bytes magicSize (bytes.length - magicSize) = records.flatMap Envelope.bytes ∧
    ValidFrom bytes magicSize records

/-! ## Fields -/

section Fields
variable {bytes : List UInt8} {lower limit : ℕ} (hlimit : limit ≤ bytes.length)
include hlimit

theorem computes_readInteger {size stop position : ℕ} (hlo : lower ≤ position)
    (hstop : stop ≤ limit) (hfits : position + size ≤ stop) :
    Computes bytes lower limit (readInteger size stop) position
      (some (littleEndian (slice bytes position size), position + size)) :=
  (computes_tell position).bind ((computes_ensure hfits _ _).bind
    ((computes_read hlo (hfits.trans hstop) hlimit).bind
      ((computes_ensure (length_slice (by omega)) _ _).bind (computes_pure _ _))))

omit hlimit in
theorem computes_readInteger_none {size stop position : ℕ} (hfits : ¬ position + size ≤ stop) :
    Computes bytes lower limit (readInteger size stop) position none :=
  (computes_tell position).bind ((computes_ensure_of_not hfits _ _).bind_none _)

omit hlimit in
theorem computes_skip {size stop position : ℕ} (hfits : position + size ≤ stop) :
    Computes bytes lower limit (skip size stop) position (some ((), position + size)) :=
  (computes_tell position).bind ((computes_ensure hfits _ _).bind (computes_seek _ _))

omit hlimit in
theorem computes_skip_none {size stop position : ℕ} (hfits : ¬ position + size ≤ stop) :
    Computes bytes lower limit (skip size stop) position none :=
  (computes_tell position).bind ((computes_ensure_of_not hfits _ _).bind_none _)

/-- Where a field ends that begins with its length. -/
def fieldEnd (bytes : List UInt8) (size position : ℕ) : ℕ :=
  position + size + littleEndian (slice bytes position size)

theorem computes_skipPrefixed {size stop position : ℕ} (hlo : lower ≤ position)
    (hstop : stop ≤ limit) (hfits : fieldEnd bytes size position ≤ stop) :
    Computes bytes lower limit (skipPrefixed size stop) position
      (some ((), fieldEnd bytes size position)) :=
  (computes_readInteger hlimit hlo hstop (by unfold fieldEnd at hfits; omega)).bind
    (computes_skip hfits)

theorem computes_skipPrefixed_none {size stop position : ℕ} (hlo : lower ≤ position)
    (hstop : stop ≤ limit) (hfits : ¬ fieldEnd bytes size position ≤ stop) :
    Computes bytes lower limit (skipPrefixed size stop) position none := by
  by_cases hlength : position + size ≤ stop
  · exact (computes_readInteger hlimit hlo hstop hlength).bind (computes_skip_none hfits)
  · exact (computes_readInteger_none hlength).bind_none _

/-- The blocks of a range do not matter for its checksum. -/
theorem computes_crcBlocks {blockSize : ℕ} (hblock : 0 < blockSize) (label : String)
    {fuel remaining position : ℕ} (hfuel : remaining ≤ fuel) (hlo : lower ≤ position)
    (hhi : position + remaining ≤ limit) (actual : UInt32) :
    Computes bytes lower limit (crcBlocks blockSize label fuel remaining actual) position
      (some (crc32 (slice bytes position remaining) actual, position + remaining)) := by
  induction fuel generalizing remaining position actual with
  | zero =>
    obtain rfl := Nat.le_zero.1 hfuel
    rw [crcBlocks, slice, List.take_zero, crc32_nil]
    exact computes_pure _ _
  | succ fuel ih =>
    cases remaining with
    | zero =>
      rw [crcBlocks, slice, List.take_zero, crc32_nil]
      exact computes_pure _ _
    | succ remaining =>
      have hmin : 0 < min (remaining + 1) blockSize ∧ min (remaining + 1) blockSize ≤ remaining + 1 :=
        ⟨lt_min (Nat.succ_pos _) hblock, min_le_left _ _⟩
      rw [crcBlocks]
      generalize min (remaining + 1) blockSize = size at hmin
      have hlength : (slice bytes position size).length = size := length_slice (by omega)
      have hne : slice bytes position size ≠ [] := by
        rw [← List.length_pos_iff, hlength]
        exact hmin.1
      refine (computes_read hlo (by omega) hlimit).bind ((computes_ensure hne _ _).bind ?_)
      rw [hlength]
      have hrest := @ih (remaining + 1 - size) (position + size) (by omega) (by omega) (by omega)
        (crc32 (slice bytes position size) actual)
      rw [← crc32_append, ← slice_add, Nat.add_assoc, Nat.add_sub_cancel' hmin.2] at hrest
      exact hrest

theorem decides_checkCrc {blockSize fuel start stop : ℕ} (hblock : 0 < blockSize)
    (hfuel : stop ≤ fuel) (hlo : lower ≤ start) (hle : start ≤ stop) (hhi : stop + 4 ≤ limit)
    (label : String) (position : ℕ) :
    Decides bytes lower limit (checkCrc blockSize fuel start stop label) position
      (Stores (slice bytes stop 4) (between bytes start stop)) := by
  refine (computes_seek stop position).decides
    ((computes_readInteger hlimit (hlo.trans hle) hhi (Nat.le_refl _)).decides ?_)
  rw [Stores]
  split_ifs with hzero
  · exact (decides_pure _).congr (by simp [hzero])
  · refine (computes_seek start _).decides ((computes_crcBlocks hlimit hblock label (by omega) hlo
      (by omega) 0).decides ?_)
    refine (decides_ensure _ _ _).congr ?_
    rw [or_iff_right hzero]
    exact eq_comm

/-! ## Attachments -/

omit hlimit in
theorem le_fieldEnd (bytes : List UInt8) (size position : ℕ) :
    position + size ≤ fieldEnd bytes size position := Nat.le_add_right _ _

omit hlimit in
/-- A field with its length, in front of the rest up to a position, ends where its length says. -/
theorem append_eq_between_of_prefixed {size position stop : ℕ} {length field rest : List UInt8}
    (h : length ++ (field ++ rest) = between bytes position stop) (hle : position ≤ stop)
    (hstop : stop ≤ bytes.length) (hfield : Prefixed size length field) :
    fieldEnd bytes size position ≤ stop ∧
      length ++ field = between bytes position (fieldEnd bytes size position) ∧
      rest = between bytes (fieldEnd bytes size position) stop := by
  obtain ⟨hsize, hlength⟩ := hfield
  obtain ⟨-, hfront, -⟩ := append_eq_between h hle hstop
  rw [hsize, between, Nat.add_sub_cancel_left] at hfront
  rw [← List.append_assoc] at h
  have hparts := append_eq_between h hle hstop
  rw [List.length_append, hsize, hlength, hfront, ← Nat.add_assoc] at hparts
  rw [hfront]
  exact hparts

omit hlimit in
theorem prefixed_slice (size position : ℕ) (hend : fieldEnd bytes size position ≤ bytes.length) :
    Prefixed size (slice bytes position size)
      (slice bytes (position + size) (littleEndian (slice bytes position size))) :=
  ⟨length_slice ((le_fieldEnd bytes size position).trans hend), length_slice hend⟩

omit hlimit in
theorem between_fieldEnd (bytes : List UInt8) (size position : ℕ) : between bytes position (fieldEnd bytes size position) =
    slice bytes position size ++
      slice bytes (position + size) (littleEndian (slice bytes position size)) := by
  rw [between, fieldEnd, Nat.add_assoc, Nat.add_sub_cancel_left, slice_add]

/-- The place of the checksum of an attachment. -/
def attachmentCrcOffset (bytes : List UInt8) (start : ℕ) : ℕ :=
  fieldEnd bytes 8 (fieldEnd bytes 4 (fieldEnd bytes 4 (start + 16)))

omit hlimit in
theorem attachmentBody_iff {start stop : ℕ} (hle : start ≤ stop) (hstop : stop ≤ bytes.length) :
    AttachmentBody (between bytes start stop) ↔
      attachmentCrcOffset bytes start + 4 ≤ stop ∧
        Stores (slice bytes (attachmentCrcOffset bytes start) 4)
          (between bytes start (attachmentCrcOffset bytes start)) := by
  have hname := le_fieldEnd bytes 4 (start + 16)
  have htype := le_fieldEnd bytes 4 (fieldEnd bytes 4 (start + 16))
  have hdata := le_fieldEnd bytes 8 (fieldEnd bytes 4 (fieldEnd bytes 4 (start + 16)))
  have hnameEnd := between_fieldEnd bytes 4 (start + 16)
  have htypeEnd := between_fieldEnd bytes 4 (fieldEnd bytes 4 (start + 16))
  have hdataEnd := between_fieldEnd bytes 8 (fieldEnd bytes 4 (fieldEnd bytes 4 (start + 16)))
  rw [attachmentCrcOffset]
  constructor
  · rintro ⟨times, nameLength, name, typeLength, type, dataLength, data, crc, extension, hbody,
      htimes, hnameField, htypeField, hdataField, hcrc, hstores⟩
    obtain ⟨hle₁, htimes', h⟩ := append_eq_between hbody.symm hle hstop
    rw [htimes] at hle₁ htimes' h
    obtain ⟨hle₂, hname', h⟩ := append_eq_between_of_prefixed h hle₁ hstop hnameField
    obtain ⟨hle₃, htype', h⟩ := append_eq_between_of_prefixed h hle₂ hstop htypeField
    obtain ⟨hle₄, hdata', h⟩ := append_eq_between_of_prefixed h hle₃ hstop hdataField
    obtain ⟨hle₅, hcrc', -⟩ := append_eq_between h hle₄ hstop
    rw [hcrc, between, Nat.add_sub_cancel_left] at hcrc'
    rw [hcrc] at hle₅
    refine ⟨hle₅, ?_⟩
    rw [hcrc', htimes', ← List.append_assoc nameLength, hname', ← List.append_assoc typeLength, htype',
      hdata', between_append _ (by omega) (by omega), between_append _ (by omega) (by omega),
      between_append _ (by omega) (by omega)] at hstores
    exact hstores
  · rintro ⟨hfits, hstores⟩
    have hnameField := prefixed_slice 4 (start + 16) (by omega : _ ≤ bytes.length)
    have htypeField := prefixed_slice 4 (fieldEnd bytes 4 (start + 16)) (by omega : _ ≤ bytes.length)
    have hdataField := prefixed_slice 8 (fieldEnd bytes 4 (fieldEnd bytes 4 (start + 16)))
      (by omega : _ ≤ bytes.length)
    generalize fieldEnd bytes 8 (fieldEnd bytes 4 (fieldEnd bytes 4 (start + 16))) = crcOffset at *
    generalize fieldEnd bytes 4 (fieldEnd bytes 4 (start + 16)) = dataStart at *
    generalize fieldEnd bytes 4 (start + 16) = typeStart at *
    have hparts : between bytes start crcOffset = slice bytes start 16 ++
        (between bytes (start + 16) typeStart ++ (between bytes typeStart dataStart ++
          between bytes dataStart crcOffset)) := by
      rw [between_append _ (by omega) (by omega), between_append _ (by omega) (by omega),
        ← between_append bytes (Nat.le_add_right start 16) (by omega), between, Nat.add_sub_cancel_left]
    have hcrc : between bytes crcOffset stop =
        slice bytes crcOffset 4 ++ between bytes (crcOffset + 4) stop := by
      rw [← between_append bytes (Nat.le_add_right _ 4) hfits, between, Nat.add_sub_cancel_left]
    rw [hnameEnd, htypeEnd, hdataEnd] at hparts
    refine ⟨slice bytes start 16, _, _, _, _, _, _, slice bytes crcOffset 4,
      between bytes (crcOffset + 4) stop, ?_, length_slice (by omega), hnameField, htypeField,
      hdataField, length_slice (by omega), ?_⟩
    · rw [← between_append bytes (by omega : start ≤ crcOffset) (by omega), hparts, hcrc]
      simp only [List.append_assoc]
    · rw [hparts] at hstores
      simpa only [List.append_assoc] using hstores

theorem decides_attachmentCrc {blockSize fuel start stop : ℕ} (hblock : 0 < blockSize)
    (hfuel : limit ≤ fuel) (hlo : magicSize ≤ start) (hle : start ≤ stop) (hstop : stop ≤ limit)
    (position : ℕ) : Decides bytes magicSize limit (attachmentCrc blockSize fuel start stop) position
      (AttachmentBody (between bytes start stop)) := by
  have hname := le_fieldEnd bytes 4 (start + 16)
  have htype := le_fieldEnd bytes 4 (fieldEnd bytes 4 (start + 16))
  have hdata := le_fieldEnd bytes 8 (fieldEnd bytes 4 (fieldEnd bytes 4 (start + 16)))
  refine Decides.congr ?_ (attachmentBody_iff hle (hstop.trans hlimit)).symm
  rw [attachmentCrcOffset]
  refine (computes_seek start position).decides ?_
  by_cases htimes : start + 16 ≤ stop
  swap
  · exact (computes_skip_none htimes).decides_none _ (by omega)
  refine (computes_skip htimes).decides ?_
  by_cases hnameFits : fieldEnd bytes 4 (start + 16) ≤ stop
  swap
  · exact (computes_skipPrefixed_none hlimit (by omega) hstop hnameFits).decides_none _ (by omega)
  refine (computes_skipPrefixed hlimit (by omega) hstop hnameFits).decides ?_
  by_cases htypeFits : fieldEnd bytes 4 (fieldEnd bytes 4 (start + 16)) ≤ stop
  swap
  · exact (computes_skipPrefixed_none hlimit (by omega) hstop htypeFits).decides_none _ (by omega)
  refine (computes_skipPrefixed hlimit (by omega) hstop htypeFits).decides ?_
  by_cases hdataFits : fieldEnd bytes 8 (fieldEnd bytes 4 (fieldEnd bytes 4 (start + 16))) ≤ stop
  swap
  · exact (computes_skipPrefixed_none hlimit (by omega) hstop hdataFits).decides_none _ (by omega)
  refine (computes_skipPrefixed hlimit (by omega) hstop hdataFits).decides
    ((computes_tell _).decides ?_)
  generalize fieldEnd bytes 8 (fieldEnd bytes 4 (fieldEnd bytes 4 (start + 16))) = crcOffset at *
  by_cases hcrc : crcOffset + 4 ≤ stop
  swap
  · exact (computes_ensure_of_not hcrc _ _).decides_none _ fun h => hcrc h.1
  refine (computes_ensure hcrc _ _).decides ?_
  refine (decides_checkCrc hlimit hblock (by omega) hlo (by omega) (by omega) _ _).congr ?_
  rw [and_iff_right hcrc]

/-! ## The footer -/

/-- The first byte of the summary that the footer at a position names, or of the footer itself. -/
def summaryFirst (bytes : List UInt8) (position : ℕ) : ℕ :=
  if littleEndian (slice bytes (position + 9) 8) = 0 then position
  else littleEndian (slice bytes (position + 9) 8)

/-- The check of a footer reads nothing before the summary. -/
theorem decides_footerCrc {blockSize fuel position stop : ℕ} (hblock : 0 < blockSize)
    (hfuel : limit ≤ fuel) (hlo : lower ≤ position) (hle : position + 9 ≤ stop)
    (hstop : stop ≤ limit)
    (hfirst : magicSize ≤ summaryFirst bytes position → lower ≤ summaryFirst bytes position)
    (hposition : magicSize ≤ position) (place : ℕ) :
    Decides bytes lower limit (footerCrc blockSize fuel (position + 9) stop) place
      (FooterBody bytes position (between bytes (position + 9) stop)) := by
  have hlength : (between bytes (position + 9) stop).length = stop - (position + 9) :=
    length_between (hstop.trans hlimit)
  rw [FooterBody, hlength]
  by_cases hsize : stop - (position + 9) = 20
  swap
  · exact (computes_ensure_of_not hsize _ _).decides_none _ fun h => hsize h.1
  obtain rfl : stop = position + 9 + 20 := by omega
  have hbody : between bytes (position + 9) (position + 9 + 20) =
      slice bytes (position + 9) 8 ++ (slice bytes (position + 9 + 8) 8 ++
        slice bytes (position + 9 + 16) 4) := by
    rw [between, Nat.add_sub_cancel_left, show 20 = 8 + (8 + 4) from rfl, slice_add, slice_add]
  have hstart : (between bytes (position + 9) (position + 9 + 20)).take 8 =
      slice bytes (position + 9) 8 := by
    rw [hbody, List.take_left' (length_slice (by omega))]
  have hcrc : (between bytes (position + 9) (position + 9 + 20)).drop 16 =
      slice bytes (position + 9 + 16) 4 := by
    rw [hbody, ← List.append_assoc, List.drop_left' (by
      rw [List.length_append, length_slice (by omega), length_slice (by omega)])]
  rw [hstart, hcrc]
  refine (computes_ensure hsize _ _).decides ((computes_seek _ _).decides
    ((computes_readInteger hlimit (by omega) hstop (by omega)).decides ?_))
  rw [summaryFirst] at hfirst
  generalize littleEndian (slice bytes (position + 9) 8) = summaryStart at hfirst ⊢
  by_cases hrange : summaryStart = 0 ∨ magicSize ≤ summaryStart ∧ summaryStart ≤ position
  swap
  · refine (computes_ensure_of_not hrange _ _).decides_none _ ?_
    rintro ⟨-, _, rfl, hrange', -⟩
    exact hrange hrange'
  refine (computes_ensure hrange _ _).decides ?_
  have hsummary : magicSize ≤ (if summaryStart = 0 then position else summaryStart) ∧
      (if summaryStart = 0 then position else summaryStart) ≤ position := by
    split_ifs with hzero
    · exact ⟨hposition, Nat.le_refl _⟩
    · exact hrange.resolve_left hzero
  refine (decides_checkCrc hlimit hblock (by omega) (hfirst hsummary.1) (by omega) (by omega) _
    _).congr ?_
  simp only [hrange, true_and, exists_eq_left, hsize]
  rfl

/-! ## Records -/

theorem decides_recordCrc {blockSize fuel opcode position stop : ℕ} (hblock : 0 < blockSize)
    (hfuel : limit ≤ fuel) (hlo : magicSize ≤ position) (hle : position + 9 ≤ stop)
    (hstop : stop ≤ limit) (place : ℕ) :
    Decides bytes magicSize limit (recordCrc blockSize fuel limit opcode (position + 9) stop) place
      ((opcode = attachmentOpcode → AttachmentBody (between bytes (position + 9) stop)) ∧
        (opcode = footerOpcode → stop = limit ∧
          FooterBody bytes position (between bytes (position + 9) stop))) := by
  rw [recordCrc]
  split_ifs with hattachment hfooter
  · refine (decides_attachmentCrc hlimit hblock hfuel (by omega) hle hstop place).congr ?_
    simp only [hattachment, true_imp_iff]
    exact (and_iff_left fun h => absurd h (by decide)).symm
  · have hiff (p q : Prop) : (opcode = attachmentOpcode → p) ∧ (opcode = footerOpcode → q) ↔ q :=
      ⟨fun h => h.2 hfooter, fun hq => ⟨fun h => absurd h hattachment, fun _ => hq⟩⟩
    rw [hiff]
    by_cases hlast : stop = limit
    swap
    · exact (computes_ensure_of_not hlast _ _).decides_none _ fun h => hlast h.1
    refine (computes_ensure hlast _ _).decides ?_
    exact (decides_footerCrc hlimit hblock hfuel hlo hle hstop id hlo _).congr
      (and_iff_right hlast).symm
  · exact (decides_pure _).congr (by simp [hattachment, hfooter])

omit hlimit in
/-- A record in front of the rest of a recording, which says where it ends. -/
theorem append_eq_between_of_framed {position : ℕ} {record : Envelope} {rest : List UInt8}
    (h : record.bytes ++ rest = between bytes position limit) (hle : position ≤ limit)
    (hlimit : limit ≤ bytes.length) (hframed : Prefixed 8 record.length record.body) :
    slice bytes position 1 = [record.opcode] ∧ fieldEnd bytes 8 (position + 1) ≤ limit ∧
      record.length = slice bytes (position + 1) 8 ∧
      record.body = between bytes (position + 9) (fieldEnd bytes 8 (position + 1)) ∧
      position + record.bytes.length = fieldEnd bytes 8 (position + 1) ∧
      rest = between bytes (fieldEnd bytes 8 (position + 1)) limit := by
  have hopcode : [record.opcode] ++ (record.length ++ (record.body ++ rest)) =
      between bytes position limit := by
    rw [← h, Envelope.bytes]
    simp
  obtain ⟨hfirst, hop, hfields⟩ := append_eq_between hopcode hle hlimit
  rw [List.length_singleton] at hfirst hop hfields
  obtain ⟨hend, hboth, hrest⟩ := append_eq_between_of_prefixed hfields hfirst hlimit hframed
  rw [between_fieldEnd] at hboth
  have hlength : (slice bytes (position + 1) 8).length = 8 := by
    have hle := le_fieldEnd bytes 8 (position + 1)
    exact length_slice (by omega)
  obtain ⟨hlengthField, hbody⟩ := List.append_inj hboth (hframed.1.trans hlength.symm)
  have hend' : fieldEnd bytes 8 (position + 1) =
      position + 9 + littleEndian (slice bytes (position + 1) 8) := rfl
  refine ⟨?_, hend, hlengthField, ?_, ?_, hrest⟩
  · rw [hop, between, Nat.add_sub_cancel_left]
  · rw [hbody, between, hend', Nat.add_sub_cancel_left]
  · have hbodyLength := hframed.2
    rw [hlengthField] at hbodyLength
    rw [Envelope.bytes, List.length_cons, List.length_append, hframed.1, hbodyLength, hend']
    omega

omit hlimit in
/-- There is nothing between two positions when no record is. -/
theorem records_eq_nil_iff {position : ℕ} {records : List Envelope} (hle : position ≤ limit)
    (hlimit : limit ≤ bytes.length)
    (h : between bytes position limit = records.flatMap Envelope.bytes) :
    records = [] ↔ position = limit := by
  have hlength := congrArg List.length h
  rw [length_between hlimit] at hlength
  cases records with
  | nil =>
    rw [List.flatMap_nil, List.length_nil] at hlength
    exact ⟨fun _ => by omega, fun _ => rfl⟩
  | cons record records =>
    rw [List.flatMap_cons, List.length_append, Envelope.bytes, List.length_cons] at hlength
    exact iff_of_false (List.cons_ne_nil _ _) (by omega)

/-- The records from a position on are a record there and those after it. -/
theorem exists_records_iff {position : ℕ} (hlt : position < limit) :
    (∃ records : List Envelope, between bytes position limit = records.flatMap Envelope.bytes ∧
        ValidFrom bytes position records) ↔
      fieldEnd bytes 8 (position + 1) ≤ limit ∧
        ((littleEndian (slice bytes position 1) = attachmentOpcode →
            AttachmentBody (between bytes (position + 9) (fieldEnd bytes 8 (position + 1)))) ∧
          (littleEndian (slice bytes position 1) = footerOpcode →
            fieldEnd bytes 8 (position + 1) = limit ∧ FooterBody bytes position
              (between bytes (position + 9) (fieldEnd bytes 8 (position + 1))))) ∧
        ∃ records : List Envelope, between bytes (fieldEnd bytes 8 (position + 1)) limit =
            records.flatMap Envelope.bytes ∧
          ValidFrom bytes (fieldEnd bytes 8 (position + 1)) records := by
  have hopcode (opcode : UInt8) : littleEndian [opcode] = opcode.toNat := rfl
  constructor
  · rintro ⟨records, hbetween, hvalid⟩
    cases records with
    | nil => exact absurd ((records_eq_nil_iff hlt.le hlimit hbetween).1 rfl) hlt.ne
    | cons record records =>
      obtain ⟨hframed, hattachment, hfooter, hvalid⟩ := hvalid
      rw [List.flatMap_cons] at hbetween
      obtain ⟨hop, hend, -, hbody, hplace, hrest⟩ :=
        append_eq_between_of_framed hbetween.symm hlt.le hlimit hframed
      rw [hplace] at hvalid
      rw [hop, hopcode, ← hbody]
      refine ⟨hend, ⟨hattachment, fun h => ?_⟩, records, hrest.symm, hvalid⟩
      exact ⟨(records_eq_nil_iff hend hlimit hrest.symm).1 (hfooter h).1, (hfooter h).2⟩
  · rintro ⟨hend, ⟨hattachment, hfooter⟩, records, hbetween, hvalid⟩
    have hle := le_fieldEnd bytes 8 (position + 1)
    have hone : (slice bytes position 1).length = 1 := length_slice (by omega)
    obtain ⟨opcode, hop⟩ := List.length_eq_one_iff.1 hone
    have hframed := prefixed_slice 8 (position + 1) (hend.trans hlimit)
    have hbody := between_fieldEnd bytes 8 (position + 1)
    have hend' : fieldEnd bytes 8 (position + 1) =
        position + 9 + littleEndian (slice bytes (position + 1) 8) := rfl
    have hfield : slice bytes (position + 1 + 8) (littleEndian (slice bytes (position + 1) 8)) =
        between bytes (position + 9) (fieldEnd bytes 8 (position + 1)) := by
      rw [between, hend', Nat.add_sub_cancel_left]
    rw [hfield] at hframed hbody
    rw [hop, hopcode] at hattachment hfooter
    have hbytes : (Envelope.mk opcode (slice bytes (position + 1) 8) (between bytes (position + 9)
        (fieldEnd bytes 8 (position + 1)))).bytes =
          between bytes position (fieldEnd bytes 8 (position + 1)) := by
      have hsingle : between bytes position (position + 1) = [opcode] := by
        rw [between, Nat.add_sub_cancel_left, hop]
      rw [← between_append bytes (Nat.le_add_right position 1) (by omega), hbody, hsingle]
      rfl
    have hplace := congrArg List.length hbytes
    rw [length_between (hend.trans hlimit)] at hplace
    refine ⟨Envelope.mk opcode (slice bytes (position + 1) 8) (between bytes (position + 9)
      (fieldEnd bytes 8 (position + 1))) :: records, ?_, hframed, hattachment, fun h => ?_, ?_⟩
    · rw [List.flatMap_cons, ← hbetween, hbytes, between_append bytes (by omega) hend]
    · exact ⟨(records_eq_nil_iff hend hlimit hbetween).2 (hfooter h).1, (hfooter h).2⟩
    · rw [hplace, Nat.add_sub_cancel' (by omega)]
      exact hvalid

/-- The loop decides whether the records from its position on are valid, when it has fuel for the
bytes from there on. -/
theorem decides_verifyRecords {blockSize blocks fuel position : ℕ} (hblock : 0 < blockSize)
    (hblocks : limit ≤ blocks) (hfuel : limit ≤ position + fuel) (hlo : magicSize ≤ position)
    (hle : position ≤ limit) (place : ℕ) :
    Decides bytes magicSize limit (verifyRecords blockSize blocks limit fuel position) place
      (∃ records : List Envelope, between bytes position limit = records.flatMap Envelope.bytes ∧
        ValidFrom bytes position records) := by
  induction fuel generalizing position place with
  | zero =>
    obtain rfl : position = limit := by omega
    rw [verifyRecords, if_neg (Nat.lt_irrefl _)]
    refine (decides_pure _).congr (iff_of_true trivial ⟨[], ?_, trivial⟩)
    rw [between, Nat.sub_self, slice, List.take_zero]
    rfl
  | succ fuel ih =>
    rw [verifyRecords]
    split_ifs with hlt
    swap
    · obtain rfl : position = limit := by omega
      refine (decides_pure _).congr (iff_of_true trivial ⟨[], ?_, trivial⟩)
      rw [between, Nat.sub_self, slice, List.take_zero]
      rfl
    have hend := le_fieldEnd bytes 8 (position + 1)
    rw [exists_records_iff hlimit hlt]
    refine (computes_seek position place).decides
      ((computes_readInteger hlimit hlo (Nat.le_refl _) hlt).decides ?_)
    by_cases hheader : position + 1 + 8 ≤ limit
    swap
    · exact (computes_readInteger_none hheader).decides_none _ fun h => hheader (hend.trans h.1)
    refine (computes_readInteger hlimit (by omega) (Nat.le_refl _) hheader).decides
      ((computes_tell _).decides ?_)
    by_cases hfits : fieldEnd bytes 8 (position + 1) ≤ limit
    swap
    · exact (computes_ensure_of_not hfits _ _).decides_none _ fun h => hfits h.1
    refine (computes_ensure hfits _ _).decides ?_
    rw [and_iff_right hfits]
    exact (decides_recordCrc hlimit hblock hblocks hlo hend hfits _).seq fun place =>
      ih (by omega) (by omega) hfits place

end Fields

/-! ## Exactness -/

/-- The checker ends with a verdict on a recording, accepts it when its checksums are valid, and
reads nothing but what is between its magics. Of a footer it reads nothing before the summary and
nothing behind the checksum, with which the footer ends. -/
structure LocatesCrcs (blockSize fuel : ℕ) (bytes : List UInt8) : Prop where
  verdict : (verifyExtraCrcs blockSize fuel ⟨bytes, 0, []⟩).1 = .ok () ∧ CrcsValid bytes ∨
    (∃ e, (verifyExtraCrcs blockSize fuel ⟨bytes, 0, []⟩).1 = .error (.raised e)) ∧ ¬ CrcsValid bytes
  reads_within : (verifyExtraCrcs blockSize fuel ⟨bytes, 0, []⟩).2.ReadsWithin magicSize
    (bytes.length - magicSize)
  footer_reads_within : ∀ position stop place, magicSize ≤ position → position + 9 ≤ stop →
    stop ≤ bytes.length - magicSize → summaryFirst bytes position ≤ position →
      (footerCrc blockSize fuel (position + 9) stop ⟨bytes, place, []⟩).2.ReadsWithin
        (summaryFirst bytes position) stop

/-- This holds with enough fuel for the bytes of the recording, whatever the size of the blocks. -/
theorem verifyExtraCrcs_exact (bytes : List UInt8) (hbytes : 2 * magicSize ≤ bytes.length)
    (blockSize fuel : ℕ) (hblock : 0 < blockSize) (hfuel : bytes.length ≤ fuel) :
    LocatesCrcs blockSize fuel bytes := by
  have hlimit : bytes.length - magicSize ≤ bytes.length := Nat.sub_le _ _
  have hdecides : Decides bytes magicSize (bytes.length - magicSize)
      (verifyExtraCrcs blockSize fuel) 0 (CrcsValid bytes) := by
    refine (computes_seekEnd 0).decides ?_
    have hseek (place : ℕ) : Decides bytes magicSize (bytes.length - magicSize)
        (seek 0 : BytesReader Unit) place True := fun s hc _ hw => ⟨hc, hw, .inl ⟨rfl, trivial⟩⟩
    refine Decides.congr ((decides_verifyRecords hlimit hblock (hlimit.trans hfuel) (by omega)
      (Nat.le_refl _) (by omega) _).seq hseek) ?_
    rw [and_true, CrcsValid]
  obtain ⟨-, hreads, hverdict⟩ := hdecides ⟨bytes, 0, []⟩ rfl rfl (List.forall_mem_nil _)
  refine ⟨hverdict, hreads, fun position stop place hposition hle hstop hfirst => ?_⟩
  have hstopFuel : stop ≤ fuel := (hstop.trans hlimit).trans hfuel
  have hfooter := decides_footerCrc (hstop.trans hlimit) hblock hstopFuel hfirst hle (Nat.le_refl _)
    (fun _ => Nat.le_refl _) hposition place
  exact (hfooter ⟨bytes, place, []⟩ rfl rfl (List.forall_mem_nil _)).2.1

/-- A recording of an attachment, a record of the summary and the footer, with their checksums. -/
def summarisedRecording : List UInt8 :=
  let magic : List UInt8 := [0x89, 0x4d, 0x43, 0x41, 0x50, 0x30, 0x0d, 0x0a]
  let attachment : List UInt8 := [0x09, 39, 0, 0, 0, 0, 0, 0, 0] ++ List.replicate 16 0 ++
    [1, 0, 0, 0, 0x61] ++ [0, 0, 0, 0] ++ [2, 0, 0, 0, 0, 0, 0, 0, 0x68, 0x69] ++
    [0x0a, 0xa1, 0x60, 0xb8]
  let summary : List UInt8 := [0x0e, 1, 0, 0, 0, 0, 0, 0, 0, 3]
  let footer : List UInt8 := [0x02, 20, 0, 0, 0, 0, 0, 0, 0] ++ [56, 0, 0, 0, 0, 0, 0, 0] ++
    List.replicate 8 0 ++ [0x1c, 0x2d, 0xbf, 0xdd]
  magic ++ attachment ++ summary ++ footer ++ magic

theorem verifyExtraCrcs_exact_summarised :
    (verifyExtraCrcs crcBlockSize 103 ⟨summarisedRecording, 0, []⟩).1 = .ok () ∧
      LocatesCrcs crcBlockSize 103 summarisedRecording :=
  ⟨by decide +kernel, verifyExtraCrcs_exact summarisedRecording (by decide) crcBlockSize 103
    (by decide) (by decide)⟩

end RoboticsRuntime.Contracts.Mcap
