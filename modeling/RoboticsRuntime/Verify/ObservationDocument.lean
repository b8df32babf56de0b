import Mathlib.Tactic.GCongr
import Mathlib.Tactic.NormNum
import Mathlib.Tactic.Positivity
import RoboticsRuntime.Contracts.ChannelObservation
import RoboticsRuntime.Python.Floats
import RoboticsRuntime.Theory.Texts
import RoboticsRuntime.Verify.ChannelDelivery

/-!
# Which channel observations can be written

`write_contract_json` checks the document of a channel before it is written. The counters of every
set of spans agree, since the groups of equal message ids of two lists of spans are what one has
beyond the other, and what both have in common. What the evaluator does not keep in the ranges of
the schema are the ages, the texts and the times.
-/

namespace RoboticsRuntime.Harness
open Theory Contracts

variable {py : PyOps} {contract : TransportChannel} {w : DeliveryWindow}

/-! ## Counters -/

/-- The message ids of some spans. -/
def messageTexts (spans : List TraceSpan) : Multiset String := spans.map messageText

theorem groupOf_groups (spans : List TraceSpan) (messageId : String) :
    (groupOf (groups messageText spans) messageId).length =
      (messageTexts spans).count messageId := by
  unfold groupOf
  rw [lookup_groups, messageTexts, Multiset.coe_count, List.count, List.countP_map,
    ← List.countP_eq_length_filter]
  exact List.countP_congr fun span _ => by simp

/-- The elements of the groups beyond those of the other groups. -/
theorem excess_groups (items others : List TraceSpan) :
    excess (groups messageText items) (groups messageText others) =
      (messageTexts items - messageTexts others).card := by
  unfold excess
  simp only [groupOf_groups]
  rw [sum_groups messageText items fun n k => n - (messageTexts others).count k,
    card_sub_eq_sum]
  rfl

theorem length_matchGroups (producers consumers : List TraceSpan) :
    (matchGroups (groups messageText producers) (groups messageText consumers)).length =
      (messageTexts producers ∩ messageTexts consumers).card := by
  unfold matchGroups
  simp only [List.length_flatMap, List.length_zip, sortGroup, List.length_insertionSort,
    groupOf_groups]
  rw [sum_groups messageText producers fun n k => min n ((messageTexts consumers).count k),
    card_inter_eq_sum]
  rfl

theorem card_sub_add_card_inter (s t : Multiset String) :
    (s - t).card + (s ∩ t).card = s.card := by
  rw [← Multiset.card_add, Multiset.sub_add_inter]

theorem countOutOfOrder_le (highest : ℤ) (order : List ℕ) :
    countOutOfOrder highest order ≤ order.length := by
  induction order generalizing highest with
  | nil => exact Nat.le_refl 0
  | cons index order ih =>
    have := ih (max highest index)
    simp only [countOutOfOrder, List.length_cons]
    split <;> omega

/-- The pairs of a window, and what was lost and duplicated. -/
theorem length_matched (w : DeliveryWindow) :
    excess (groups messageText w.producers) (groups messageText w.consumers) + w.matched.length =
        w.producers.length ∧
      excess (groups messageText w.consumers) (groups messageText w.producers) + w.matched.length =
        w.consumers.length := by
  have hcard : ∀ spans : List TraceSpan, (messageTexts spans).card = spans.length := by
    intro spans
    simp [messageTexts]
  have hmatched : w.matched.length =
      (messageTexts w.producers ∩ messageTexts w.consumers).card :=
    length_matchGroups w.producers w.consumers
  constructor
  · rw [excess_groups, hmatched, card_sub_add_card_inter, hcard]
  · rw [excess_groups, hmatched, Multiset.inter_comm, card_sub_add_card_inter, hcard]

theorem outOfOrderCount_le (py : PyOps) (w : DeliveryWindow) :
    (measuredCounters py w).outOfOrderCount ≤ w.matched.length := by
  refine (countOutOfOrder_le _ _).trans ?_
  rw [receivedOrder, List.length_map, List.length_insertionSort]

/-! ## Texts -/

/-- `ambiguous_ids`: the message ids that several producers carry. -/
def DeliveryWindow.ambiguousIds (w : DeliveryWindow) : List String :=
  (((groups messageText w.producers).filter fun g => 1 < g.2.length).map (·.1)).insertionSort
    (· ≤ ·)

/-- Where the window is exceeded, ids are repeated or source messages are missing, what is printed
about it leaves the text of the violation within 512 characters. -/
structure TextsFit (py : PyOps) (delivery : Delivery) (w : DeliveryWindow) : Prop where
  outside : w.outside ≠ [] →
    digits w.outside.length + (py.declared delivery.observationWindowSec).length ≤ 445
  ambiguous : w.ambiguousIds ≠ [] → (reprList py w.ambiguousIds).length ≤ 467
  insufficient : w.producers.length < delivery.minimumSourceMessages →
    digits w.producers.length + digits delivery.minimumSourceMessages ≤ 476

/-- The counters of the spans of a file: the ratio is one, the counts are lengths, and the age is
the one of 64-bit times. -/
structure CountersBounded (c : DeliveryCounters) : Prop where
  lossRatio : c.lossRatio ≤ 1
  duplicateCount : c.duplicateCount < 2 ^ 63
  outOfOrderCount : c.outOfOrderCount < 2 ^ 63
  maxMessageAgeMs : c.maxMessageAgeMs ≤ 2 ^ 45

/-- The structural violations fit when what they print about the window and the ids does. -/
theorem textWithin_structuralViolations :
    (∀ violation ∈ structuralViolations py contract w, TextWithin 512 violation.message) ↔
      (w.outside ≠ [] → digits w.outside.length +
        (py.declared contract.delivery.observationWindowSec).length ≤ 445) ∧
      (w.ambiguousIds ≠ [] → (reprList py w.ambiguousIds).length ≤ 467) := by
  have houtside : TextWithin 512 (s!"{w.outside.length} channel spans fall outside the declared "
      ++ py.declared contract.delivery.observationWindowSec ++ " second observation window") ↔
        digits w.outside.length +
          (py.declared contract.delivery.observationWindowSec).length ≤ 445 := by
    have h1 : " channel spans fall outside the declared ".length = 41 := rfl
    have h2 : " second observation window".length = 26 := rfl
    simp only [TextWithin, String.length_append, length_toString, toString_string, h1, h2]
    omega
  have hambiguous : TextWithin 512 ("producer message identifiers are not unique: "
      ++ reprList py w.ambiguousIds) ↔ (reprList py w.ambiguousIds).length ≤ 467 := by
    have h1 : "producer message identifiers are not unique: ".length = 45 := rfl
    simp only [TextWithin, String.length_append, h1]
    omega
  have hprecedes : TextWithin 512 "consumer timestamp precedes producer completion" := by decide
  have hids : w.ambiguousIds = (((groups messageText w.producers).filter
    fun g => 1 < g.2.length).map (·.1)).insertionSort (· ≤ ·) := rfl
  unfold structuralViolations
  dsimp only
  rw [← hids, List.forall_mem_append, List.forall_mem_append]
  split_ifs <;> simp_all

/-- A count below `2 ^ 63` and the limit it exceeds are printed in at most 19 digits each. -/
theorem textWithin_exceeds {subject : String} {count limit : ℕ} (hsubject : subject.length ≤ 32)
    (hcount : count < 2 ^ 63) (hlt : limit < count) :
    TextWithin 512 s!"{subject}{count} exceeds {limit}" := by
  have hcountDigits : digits count ≤ 19 := digits_le (by decide) (by omega)
  have hlimitDigits : digits limit ≤ 19 := digits_le (by decide) (by omega)
  have hexceeds : " exceeds ".length = 9 := rfl
  simp only [TextWithin, String.length_append, length_toString, toString_string, hexceeds]
  omega

/-- Of the derived codes only the text about missing source messages may be too long. -/
theorem textWithin_deliveryMessage (hpy : py.ShortNumbers) {c : DeliveryCounters}
    (hc : CountersBounded c) {delivery : Delivery} :
    (∀ code, (code, false) ∈ deliveryChecks delivery c → ∀ message,
        deliveryMessage py delivery c code = .ok message → TextWithin 512 message) ↔
      (c.sentCount < delivery.minimumSourceMessages →
        digits c.sentCount + digits delivery.minimumSourceMessages ≤ 476) := by
  have hsent : TextWithin 512
      s!"observed {c.sentCount} source messages; requires {delivery.minimumSourceMessages}" ↔
        digits c.sentCount + digits delivery.minimumSourceMessages ≤ 476 := by
    have h1 : "observed ".length = 9 := rfl
    have h2 : " source messages; requires ".length = 27 := rfl
    simp only [TextWithin, String.length_append, length_toString, toString_string, h1, h2]
    omega
  have hloss : delivery.maxLossRatio < c.lossRatio → TextWithin 512 ("loss ratio "
      ++ py.number c.lossRatio ++ " exceeds " ++ py.declared delivery.maxLossRatio) := by
    intro hlt
    have hratio := hpy.number c.lossRatio
    have hlimit := hpy.declared _ delivery.maxLossRatio_nonneg
      ((delivery.maxLossRatio_le_one).trans_lt (by norm_num))
    have h1 : "loss ratio ".length = 11 := rfl
    have h2 : " exceeds ".length = 9 := rfl
    simp only [TextWithin, String.length_append, h1, h2]
    omega
  have hduplicate : delivery.maxDuplicateCount < c.duplicateCount → TextWithin 512
      s!"duplicate count {c.duplicateCount} exceeds {delivery.maxDuplicateCount}" :=
    textWithin_exceeds (by decide) hc.duplicateCount
  have horder : delivery.maxOutOfOrderCount < c.outOfOrderCount → TextWithin 512
      s!"out-of-order count {c.outOfOrderCount} exceeds {delivery.maxOutOfOrderCount}" :=
    textWithin_exceeds (by decide) hc.outOfOrderCount
  have hage : delivery.maxMessageAgeMs < c.maxMessageAgeMs → TextWithin 512 ("message age "
      ++ py.number c.maxMessageAgeMs ++ " ms exceeds " ++ py.declared delivery.maxMessageAgeMs
      ++ " ms") := by
    intro hlt
    have hnumber := hpy.number c.maxMessageAgeMs
    have hlimit := hpy.declared _ delivery.maxMessageAgeMs_nonneg
      ((hlt.trans_le hc.maxMessageAgeMs).trans (by norm_num))
    have h1 : "message age ".length = 12 := rfl
    have h2 : " ms exceeds ".length = 12 := rfl
    have h3 : " ms".length = 3 := rfl
    simp only [TextWithin, String.length_append, h1, h2, h3]
    omega
  rw [← hsent]
  constructor
  · intro h hlt
    exact h .insufficientMessages (by simpa [deliveryChecks] using hlt) _ rfl
  · intro h code hcode message hmessage
    cases code <;> simp only [deliveryMessage, Except.ok.injEq, reduceCtorEq] at hmessage <;>
      subst hmessage <;> simp [deliveryChecks] at hcode
    · exact hduplicate hcode
    · exact h hcode
    · exact hloss hcode
    · exact hage hcode
    · exact horder hcode

/-- The codes derived from the counters alone are those of the failed checks. -/
theorem mem_derivedCodes_sdiff {code : ChannelViolationCode}
    (hcode : code ∉ channelErrorViolations) :
    code ∈ derivedCodes py contract w \ structuralCodes py contract w ↔
      (code, false) ∈ deliveryChecks contract.delivery (measuredCounters py w) := by
  have hs : code ∉ structuralCodes py contract w := fun h => hcode (structuralCodes_spec.1 h)
  rw [Finset.mem_sdiff, derivedCodes, mem_deriveChannelViolations]
  exact ⟨fun h => h.1.resolve_right fun h => hcode h.2, fun h => ⟨.inl h, hs⟩⟩

/-- The violations of an identified window, as a list of the structural ones and one for each code
derived besides. -/
theorem measuredViolations_spec {violations : List (ChainViolation ChannelViolationCode)}
    (h : measuredViolations py contract w = .ok violations) :
    ∃ derived, violations = structuralViolations py contract w ++ derived ∧
      List.Forall₂ (fun code violation =>
          derivedViolation py contract (measuredCounters py w) code = .ok violation)
        (ChannelViolationCode.sorted
          (derivedCodes py contract w \ structuralCodes py contract w)) derived := by
  obtain ⟨derived, hd, h⟩ := bind_eq_ok.1 h
  obtain rfl := Except.ok.inj h
  exact ⟨derived, rfl, mapM_eq_ok.1 hd⟩

theorem derivedViolation_eq_ok {c : DeliveryCounters} {code : ChannelViolationCode}
    {violation : ChainViolation ChannelViolationCode} :
    derivedViolation py contract c code = .ok violation ↔
      ∃ message, deliveryMessage py contract.delivery c code = .ok message ∧
        violation = ⟨code, message, some contract.channelId⟩ := by
  rw [derivedViolation, bind_eq_ok]
  refine exists_congr fun message => and_congr_right fun _ => ?_
  exact ⟨fun h => (Except.ok.inj h).symm, fun h => h ▸ rfl⟩

/-- The violations of a window fit when what is printed about it does. -/
theorem textWithin_measuredViolations (hpy : py.ShortNumbers)
    (hc : CountersBounded (measuredCounters py w))
    {violations : List (ChainViolation ChannelViolationCode)}
    (h : measuredViolations py contract w = .ok violations) :
    (∀ violation ∈ violations, TextWithin 512 violation.message) ↔
      TextsFit py contract.delivery w := by
  obtain ⟨derived, rfl, hd⟩ := measuredViolations_spec h
  have hderived : (∀ violation ∈ derived, TextWithin 512 violation.message) ↔
      ∀ code, (code, false) ∈ deliveryChecks contract.delivery (measuredCounters py w) →
        ∀ message, deliveryMessage py contract.delivery (measuredCounters py w) code =
          .ok message → TextWithin 512 message := by
    constructor
    · intro hall code hcode message hmessage
      have herror : code ∉ channelErrorViolations :=
        exists_derivedViolation.1 ⟨_, derivedViolation_eq_ok.2 ⟨message, hmessage, rfl⟩⟩
      have hmem := ChannelViolationCode.mem_sorted.2 ((mem_derivedCodes_sdiff herror).2 hcode)
      obtain ⟨violation, hm, hv⟩ := exists_of_forall₂_mem hd.flip hmem
      obtain ⟨message', hmessage', rfl⟩ := derivedViolation_eq_ok.1 hv
      obtain rfl := Except.ok.inj (hmessage.symm.trans hmessage')
      exact hall _ hm
    · intro hall violation hm
      obtain ⟨code, hcode, hv⟩ := exists_of_forall₂_mem hd hm
      have herror : code ∉ channelErrorViolations := exists_derivedViolation.1 ⟨_, hv⟩
      obtain ⟨message, hmessage, rfl⟩ := derivedViolation_eq_ok.1 hv
      rw [ChannelViolationCode.mem_sorted, mem_derivedCodes_sdiff herror] at hcode
      exact hall code hcode message hmessage
  rw [List.forall_mem_append, hderived, textWithin_structuralViolations,
    textWithin_deliveryMessage hpy hc]
  constructor
  · rintro ⟨⟨houtside, hambiguous⟩, hinsufficient⟩
    exact ⟨houtside, hambiguous, hinsufficient⟩
  · rintro ⟨houtside, hambiguous, hinsufficient⟩
    exact ⟨⟨houtside, hambiguous⟩, hinsufficient⟩

/-- No code is reported twice. -/
theorem nodup_measuredViolations {violations : List (ChainViolation ChannelViolationCode)}
    (h : measuredViolations py contract w = .ok violations) :
    (violations.map (·.code)).Nodup := by
  obtain ⟨derived, rfl, hd⟩ := measuredViolations_spec h
  have hcodes := map_eq_of_forall₂ (f := id) (g := (·.code))
    (fun _ _ h => (derivedViolation_code h).symm) hd
  rw [List.map_append, ← hcodes, List.map_id]
  apply List.Nodup.append
  · unfold structuralViolations
    dsimp only
    split_ifs <;> simp
  · exact List.Nodup.filter _ (by decide)
  · intro code hs hc
    rw [ChannelViolationCode.mem_sorted, Finset.mem_sdiff] at hc
    exact hc.2 (List.mem_toFinset.2 hs)

/-! ## Ages -/

/-- Some message was delivered after it was produced, when any was delivered. -/
def Delivered (w : DeliveryWindow) : Prop :=
  w.matched = [] ∨ ∃ pair ∈ w.matched, pair.1.endTimeUnixNano ≤ pair.2.startTimeUnixNano

theorem messageAgeMs_nonneg_iff (hpy : py.Nearest) (pair : MessagePair) :
    0 ≤ messageAgeMs py pair ↔ pair.1.endTimeUnixNano ≤ pair.2.startTimeUnixNano := by
  unfold messageAgeMs
  constructor
  · intro h
    by_contra hlt
    refine (hpy.neg _ ?_).not_ge h
    have hle : ((pair.2.startTimeUnixNano : ℤ) - pair.1.endTimeUnixNano : ℤ) ≤ -1 := by omega
    have hcast : (((pair.2.startTimeUnixNano : ℤ) - pair.1.endTimeUnixNano : ℤ) : ℚ) ≤ -1 := by
      exact_mod_cast hle
    calc (((pair.2.startTimeUnixNano : ℤ) - pair.1.endTimeUnixNano : ℤ) : ℚ) / 1000000
        ≤ -1 / 1000000 := by gcongr
      _ ≤ -(1 / 2 ^ 1022) := by
        have hpow : (2 : ℚ) ^ 20 ≤ 2 ^ 1022 := pow_le_pow_right₀ (by norm_num) (by norm_num)
        have hinv := one_div_le_one_div_of_le (by positivity) hpow
        rw [neg_div, neg_le_neg_iff]
        exact hinv.trans (by norm_num)
  · intro h
    rw [← hpy.zero]
    apply hpy.mono
    have hnonneg : (0 : ℤ) ≤ (pair.2.startTimeUnixNano : ℤ) - pair.1.endTimeUnixNano := by omega
    positivity

theorem maxAge_nonneg_iff (ages : List ℚ) : 0 ≤ maxAge ages ↔ ages = [] ∨ ∃ age ∈ ages, 0 ≤ age := by
  unfold maxAge
  cases hmax : ages.max? with
  | none => simp [List.max?_eq_none_iff.1 hmax]
  | some age =>
    obtain ⟨hmem, hle⟩ := List.max?_eq_some_iff.1 hmax
    constructor
    · exact fun h => .inr ⟨age, hmem, h⟩
    · rintro (rfl | ⟨age', hm, h⟩)
      · cases hmem
      · exact h.trans (hle age' hm)

theorem maxMessageAgeMs_nonneg_iff (hpy : py.Nearest) :
    0 ≤ (measuredCounters py w).maxMessageAgeMs ↔ Delivered w := by
  have hcounters : (measuredCounters py w).maxMessageAgeMs =
      maxAge (w.matched.map (messageAgeMs py)) := rfl
  rw [hcounters, maxAge_nonneg_iff, List.map_eq_nil_iff, Delivered]
  simp only [List.mem_map, exists_exists_and_eq_and, messageAgeMs_nonneg_iff hpy]

/-! ## Bounds -/

/-- The spans of a run as they are read: their times are 64-bit integers, and those of a domain form
a list. -/
structure ReadSpans (spans : SpansByDomain) : Prop where
  start_lt : ∀ span ∈ spans.values, span.startTimeUnixNano < 2 ^ 64
  length_lt : ∀ domain, (spans.get domain).length < 2 ^ 63

theorem snd_mem_of_mem_matchGroups {producers consumers : List TraceSpan} {pair : MessagePair}
    (h : pair ∈ matchGroups (groups messageText producers) (groups messageText consumers)) :
    pair.2 ∈ consumers := by
  obtain ⟨g, -, hpair⟩ := List.mem_flatMap.1 h
  have hmem := List.mem_insertionSort (fun a b => groupKey a ≤ groupKey b) |>.1
    (List.of_mem_zip hpair).2
  rw [groupOf, lookup_groups] at hmem
  exact (List.mem_filter.1 hmem).1

theorem lossRatio_le_one (hpy : py.Nearest) (w : DeliveryWindow) :
    (measuredCounters py w).lossRatio ≤ 1 := by
  obtain ⟨hsent, -⟩ := length_matched w
  unfold measuredCounters
  dsimp only
  split_ifs with h0
  · have hle : ((excess (groups messageText w.producers) (groups messageText w.consumers) : ℕ) : ℚ) /
        w.producers.length ≤ 1 :=
      div_le_one_of_le₀ (by exact_mod_cast (by omega)) (by positivity)
    exact hpy.one ▸ hpy.mono hle
  · exact zero_le_one

theorem messageAgeMs_le (hfl : py.fl = double) {pair : MessagePair}
    (h : pair.2.startTimeUnixNano < 2 ^ 64) : messageAgeMs py pair ≤ 2 ^ 45 := by
  have hfloat : double (35184372088832 : ℤ) = (35184372088832 : ℤ) := double_intCast (by decide)
  have hdiff : (pair.2.startTimeUnixNano : ℤ) - pair.1.endTimeUnixNano ≤ 2 ^ 64 := by omega
  have hcast : (((pair.2.startTimeUnixNano : ℤ) - pair.1.endTimeUnixNano : ℤ) : ℚ) ≤ 2 ^ 64 := by
    exact_mod_cast hdiff
  have hquotient : (((pair.2.startTimeUnixNano : ℤ) - pair.1.endTimeUnixNano : ℤ) : ℚ) / 1000000 ≤
      (35184372088832 : ℤ) := by
    rw [div_le_iff₀ (by norm_num)]
    exact hcast.trans (by norm_num)
  rw [messageAgeMs, hfl]
  exact (double_mono hquotient).trans (hfloat.le.trans (by norm_num))

/-- The counters of spans that were read are bounded. -/
theorem countersBounded (hfl : py.fl = double) {spans : SpansByDomain} (hspans : ReadSpans spans)
    (contract : TransportChannel) :
    CountersBounded (measuredCounters py (deliveryWindow py contract spans)) := by
  set w := deliveryWindow py contract spans with hw
  obtain ⟨hsent, hreceived⟩ := length_matched w
  have hconsumers : ∀ span ∈ w.consumers, span.startTimeUnixNano < 2 ^ 64 := fun span hspan =>
    hspans.start_lt span (mem_selectSpans (List.mem_filter.1 hspan).1).1
  have hlength : ∀ side, (selectSpans spans side).length < 2 ^ 63 := fun side =>
    (List.length_filter_le _ _).trans_lt (hspans.length_lt _)
  have hproducers : w.producers.length < 2 ^ 63 :=
    (List.length_filter_le _ _).trans_lt (hlength _)
  have hreceivedLength : w.consumers.length < 2 ^ 63 :=
    (List.length_filter_le _ _).trans_lt (hlength _)
  have horder := outOfOrderCount_le py w
  refine ⟨lossRatio_le_one (PyOps.nearest_of_double hfl) w, ?_, by omega, ?_⟩
  · show excess (groups messageText w.consumers) (groups messageText w.producers) < 2 ^ 63
    omega
  · have hages : ∀ age ∈ w.matched.map (messageAgeMs py), age ≤ 2 ^ 45 := by
      rintro _ hage
      obtain ⟨pair, hpair, rfl⟩ := List.mem_map.1 hage
      exact messageAgeMs_le hfl (hconsumers _ (snd_mem_of_mem_matchGroups hpair))
    show maxAge (w.matched.map (messageAgeMs py)) ≤ 2 ^ 45
    unfold maxAge
    cases hmax : (w.matched.map (messageAgeMs py)).max? with
    | none => norm_num
    | some age => exact hages age (List.max?_mem hmax)

/-! ## Documents -/

/-- The times of an observation can be written, and differ when they are. -/
def Separated (py : PyOps) (delivery : Delivery) (evaluatedAt : Timestamp)
    (startedAtNs finishedAtNs : ℕ) : Prop :=
  Writable py delivery evaluatedAt startedAtNs finishedAtNs ∧
    0 < writtenDurationUs py delivery startedAtNs finishedAtNs

theorem exists_observationTimes {delivery : Delivery} {evaluatedAt : Timestamp}
    {startedAtNs finishedAtNs : ℕ} :
    (∃ times, observationTimes py delivery evaluatedAt startedAtNs finishedAtNs = .ok times ∧
        times.1.us < times.2.us) ↔
      Separated py delivery evaluatedAt startedAtNs finishedAtNs := by
  have hspec : (∃ times, observationTimes py delivery evaluatedAt startedAtNs finishedAtNs =
      .ok times ∧ True) ↔ _ := observationTimes_spec (p := fun _ => True)
  have hduration : ∀ times, observationTimes py delivery evaluatedAt startedAtNs finishedAtNs =
      .ok times → times.2.us - times.1.us = writtenDurationUs py delivery startedAtNs
        finishedAtNs := by
    intro times h
    unfold observationTimes at h
    unfold writtenDurationUs
    split_ifs at h ⊢ with h0
    · obtain ⟨started, hs, h⟩ := bind_eq_ok.1 h
      obtain ⟨finished, hf, h⟩ := bind_eq_ok.1 h
      obtain rfl := Except.ok.inj h
      rw [utcDatetimeFromUnixNs_eq, Timestamp.ofUs_eq_ok] at hs hf
      rw [hs, hf]
    · obtain ⟨started, hs, h⟩ := bind_eq_ok.1 h
      obtain rfl := Except.ok.inj h
      rw [Timestamp.ofUs_eq_ok] at hs
      rw [hs, sub_sub_cancel]
  simp only [and_true] at hspec
  unfold Separated
  constructor
  · rintro ⟨times, ht, hlt⟩
    exact ⟨hspec.1 ⟨times, ht⟩, hduration times ht ▸ sub_pos.2 hlt⟩
  · rintro ⟨hw, hpos⟩
    obtain ⟨times, ht⟩ := hspec.2 hw
    exact ⟨times, ht, sub_pos.1 (hduration times ht ▸ hpos)⟩

/-- What the schema and the validator ask of an evaluation, its times apart. -/
structure Conforms (py : PyOps) (observation : ChannelObservationEvaluation) : Prop where
  counters : observation.lostCount ≤ observation.sentCount ∧
    observation.receivedCount =
      observation.sentCount - observation.lostCount + observation.duplicateCount ∧
    observation.outOfOrderCount ≤ observation.sentCount - observation.lostCount
  sent_of_passed : observation.status = .passed → observation.sentCount ≠ 0
  lossRatio : observation.lossRatio = if observation.sentCount ≠ 0 then
    py.fl (observation.lostCount / observation.sentCount) else 0
  maxMessageAgeMs_nonneg : 0 ≤ observation.maxMessageAgeMs
  codes : (observation.violations.map (·.code)).Nodup
  messages : ∀ violation ∈ observation.violations, TextWithin 512 violation.message
  passed_iff : observation.status = .passed ↔ observation.violations = []

theorem conforms_emptyObservation : Conforms py (emptyObservation contract) where
  counters := by simp [emptyObservation]
  sent_of_passed := by simp [emptyObservation]
  lossRatio := by simp [emptyObservation]
  maxMessageAgeMs_nonneg := le_rfl
  codes := by simp [emptyObservation]
  messages := by
    intro violation hv
    rw [List.mem_singleton.1 hv]
    exact (by decide : TextWithin 512 "no producer or consumer spans were observed")
  passed_iff := by simp [emptyObservation]

theorem conforms_unidentifiedObservation : Conforms py (unidentifiedObservation py contract w) where
  counters := by simp [unidentifiedObservation]
  sent_of_passed := by simp [unidentifiedObservation]
  lossRatio := by simp [unidentifiedObservation]
  maxMessageAgeMs_nonneg := le_rfl
  codes := by simp [unidentifiedObservation]
  messages := by
    intro violation hv
    rw [List.mem_singleton.1 hv]
    exact (by decide : TextWithin 512 "every span must carry messaging.message.id")
  passed_iff := by simp [unidentifiedObservation]

/-- The counters measured in a window agree, whatever its spans. -/
theorem conforms_measuredObservation (hpy : py.Nearest) (hshort : py.ShortNumbers)
    (hbounded : CountersBounded (measuredCounters py w))
    {violations : List (ChainViolation ChannelViolationCode)}
    (h : measuredViolations py contract w = .ok violations) :
    Conforms py (measuredObservation py w violations) ↔
      Delivered w ∧ TextsFit py contract.delivery w := by
  obtain ⟨hsent, hreceived⟩ := length_matched w
  have horder := outOfOrderCount_le py w
  have hempty : violationCodes violations = ∅ ↔ violations = [] := by
    rw [violationCodes, List.toFinset_eq_empty_iff, List.map_eq_nil_iff]
  have hpassed : channelObservationStatus (violationCodes violations) = .passed ↔
      violations = [] := by
    unfold channelObservationStatus
    rw [← hempty]
    split_ifs <;> simp_all
  constructor
  · intro hc
    exact ⟨(maxMessageAgeMs_nonneg_iff hpy).1 hc.maxMessageAgeMs_nonneg,
      (textWithin_measuredViolations hshort hbounded h).1 hc.messages⟩
  · rintro ⟨hdelivered, htexts⟩
    refine ⟨⟨?_, ?_, ?_⟩, ?_, ?_, (maxMessageAgeMs_nonneg_iff hpy).2 hdelivered,
      nodup_measuredViolations h, (textWithin_measuredViolations hshort hbounded h).2 htexts, hpassed⟩
    · show excess _ _ ≤ w.producers.length
      omega
    · show w.consumers.length = w.producers.length - excess _ _ + excess _ _
      omega
    · show (measuredCounters py w).outOfOrderCount ≤ w.producers.length - excess _ _
      omega
    · -- a passed observation has at least the required number of source messages
      intro hs h0
      have hcodes : derivedCodes py contract w = ∅ := by
        rw [← violationCodes_measuredViolations h, hempty, ← hpassed]
        exact hs
      have hmin := contract.delivery.minimumSourceMessages_pos
      have hmem : .insufficientMessages ∈ derivedCodes py contract w := by
        rw [derivedCodes, mem_deriveChannelViolations]
        have hzero : (measuredCounters py w).sentCount = 0 := h0
        simp [deliveryChecks, hzero]
        omega
      rw [hcodes] at hmem
      exact absurd hmem (Finset.notMem_empty _)
    · have hne : w.producers.length ≠ 0 ↔ w.producers ≠ [] := List.length_eq_zero_iff.not
      show (measuredCounters py w).lossRatio = if w.producers.length ≠ 0 then _ else _
      rw [if_congr hne rfl rfl]
      rfl

variable {runId observationId sha256 : String} {evaluatedAt : Timestamp}
  {spans : SpansByDomain} {search : String → String → Bool}

/-- The identifiers that the runtime puts into a document have the patterns of the schema. -/
structure Identified (search : String → String → Bool)
    (runId observationId sha256 channelId : String) : Prop where
  observationId : search observationIdPattern observationId
  runId : search runIdPattern runId
  sha256 : search sha256Pattern sha256
  channelId : IsIdentifier search channelId

/-- The document of a channel is written, and passes the schema and the validator. -/
def Written (py : PyOps) (search : String → String → Bool)
    (runId observationId sha256 : String) (evaluatedAt : Timestamp) (contract : TransportChannel)
    (spans : SpansByDomain) : Prop :=
  ∃ document, channelObservationDocument py runId observationId sha256 evaluatedAt contract
      spans = .ok document ∧ ChannelObservationSchema search document ∧
    validateTransportChannelObservation py document = .ok ()

/-- A document that passes has separate times, no negative age and texts that fit. -/
theorem evaluation_of_written
    (h : Written py search runId observationId sha256 evaluatedAt contract spans) :
    ∃ observation, evaluateChannelDelivery py contract spans = .ok observation ∧
      Separated py contract.delivery evaluatedAt observation.startedAtNs
        observation.finishedAtNs ∧ 0 ≤ observation.maxMessageAgeMs ∧
      ∀ violation ∈ observation.violations, TextWithin 512 violation.message := by
  obtain ⟨document, hd, hschema, hvalid⟩ := h
  obtain ⟨observation, ho, times, ht, rfl⟩ := channelObservationDocument_eq_ok.1 hd
  obtain ⟨hlt, -⟩ := validateTransportChannelObservation_eq_ok.1 hvalid
  refine ⟨observation, ho, exists_observationTimes.1 ⟨times, ht, hlt⟩,
    hschema.maxMessageAgeMs_nonneg, ?_⟩
  intro violation hv
  exact hschema.messages _ (List.mem_map.2 ⟨violation, hv, rfl⟩)

/-- The document of an evaluation that conforms passes when its times are separate. -/
theorem written_of_conforms (hpy : py.Nearest)
    (hid : Identified search runId observationId sha256 contract.channelId)
    {observation : ChannelObservationEvaluation}
    (ho : evaluateChannelDelivery py contract spans = .ok observation)
    (hs : Separated py contract.delivery evaluatedAt observation.startedAtNs
      observation.finishedAtNs) (hc : Conforms py observation) :
    Written py search runId observationId sha256 evaluatedAt contract spans := by
  obtain ⟨times, ht, hlt⟩ := exists_observationTimes.2 hs
  obtain ⟨hlost, hreceived, horder⟩ := hc.counters
  have hratio : 0 ≤ observation.lossRatio ∧ observation.lossRatio ≤ 1 := by
    rw [hc.lossRatio]
    split_ifs with h0
    · have hle : (observation.lostCount : ℚ) / observation.sentCount ≤ 1 :=
        div_le_one_of_le₀ (by exact_mod_cast hlost) (by positivity)
      exact ⟨hpy.zero ▸ hpy.mono (by positivity), hpy.one ▸ hpy.mono hle⟩
    · exact ⟨le_rfl, zero_le_one⟩
  refine ⟨_, channelObservationDocument_eq_ok.2 ⟨observation, ho, times, ht, rfl⟩, ?_,
    validateTransportChannelObservation_eq_ok.2 ⟨hlt, ?_⟩⟩
  · refine ⟨hid.observationId, hid.runId, hid.channelId, hid.sha256, hratio.1, hratio.2,
      hc.maxMessageAgeMs_nonneg, ?_, ?_, ?_⟩
    · apply List.Nodup.of_map Prod.fst
      rw [List.map_map]
      exact hc.codes
    · intro written hw
      obtain ⟨violation, hv, rfl⟩ := List.mem_map.1 hw
      exact hc.messages violation hv
    · rw [List.map_eq_nil_iff]
      exact hc.passed_iff
  · refine ⟨hlost, hreceived, horder, hc.sent_of_passed, ?_⟩
    dsimp only
    rw [← hc.lossRatio, sub_self, hpy.zero, abs_zero]
    exact hpy.zero ▸ hpy.mono (by norm_num)

/-- When the observation of a channel can be recorded. The times of the document must differ, to
the microsecond. Where every span is identified, the window must be exceeded by a span or not at
all, some message must not be delivered before it was produced when any was delivered, and what is
printed about exceeded limits must fit. -/
def Recordable (py : PyOps) (evaluatedAt : Timestamp) (contract : TransportChannel)
    (w : DeliveryWindow) : Prop :=
  if w.allSpans = [] then Separated py contract.delivery evaluatedAt 0 0
  else if w.unidentified then Separated py contract.delivery evaluatedAt w.startNs w.endNs
  else
    (w.outside ≠ [] ∨ w.KeepsDuration py contract.delivery) ∧
      Separated py contract.delivery evaluatedAt w.startNs w.endNs ∧
      Delivered w ∧ TextsFit py contract.delivery w

/-- The observation document of a channel is written, if and only if it is recordable in the sense
above. -/
theorem channelObservation_written_iff (py : PyOps) (search : String → String → Bool)
    (runId observationId sha256 : String) (evaluatedAt : Timestamp) (contract : TransportChannel)
    (spans : SpansByDomain) (hfl : py.fl = double) (hshort : py.ShortNumbers)
    (hspans : ReadSpans spans)
    (hid : Identified search runId observationId sha256 contract.channelId) :
    Written py search runId observationId sha256 evaluatedAt contract spans ↔
      Recordable py evaluatedAt contract (deliveryWindow py contract spans) := by
  have hpy := PyOps.nearest_of_double hfl
  have hbounded := countersBounded hfl hspans contract
  unfold Recordable
  constructor
  · intro h
    obtain ⟨observation, ho, hs, hage, htexts⟩ := evaluation_of_written h
    unfold evaluateChannelDelivery at ho
    dsimp only at ho
    split_ifs at ho ⊢
    · obtain rfl := Except.ok.inj ho
      exact hs
    · obtain rfl := Except.ok.inj ho
      exact hs
    · obtain ⟨violations, hv, ho⟩ := bind_eq_ok.1 ho
      obtain rfl := Except.ok.inj ho
      exact ⟨exists_measuredViolations.1 ⟨violations, hv⟩, hs,
        (maxMessageAgeMs_nonneg_iff hpy).1 hage,
        (textWithin_measuredViolations hshort hbounded hv).1 htexts⟩
  · intro h
    have heval : evaluateChannelDelivery py contract spans = evaluateChannelDelivery py contract
      spans := rfl
    conv_rhs at heval => unfold evaluateChannelDelivery
    dsimp only at heval
    split_ifs at h heval
    · exact written_of_conforms hpy hid heval h conforms_emptyObservation
    · exact written_of_conforms hpy hid heval h conforms_unidentifiedObservation
    · obtain ⟨hwindow, hs, hdelivered, htexts⟩ := h
      obtain ⟨violations, hv⟩ := exists_measuredViolations.2 hwindow
      rw [hv] at heval
      exact written_of_conforms hpy hid heval hs
        ((conforms_measuredObservation hpy hshort hbounded hv).2 ⟨hdelivered, htexts⟩)

/-! A message whose consumer starts before its producer has ended: the evaluator reports
`invalid_observation`, and a negative age that the schema rejects. -/

private theorem exampleIdentified :
    Identified (fun _ _ => true) "run" "observation" "hash" (exampleChannel "x" true).data.channelId :=
  ⟨rfl, rfl, rfl, rfl, by decide⟩

/-- A producer from `1` to `end'` and a consumer that starts at `2`. -/
private def overlappingSpans (end' : ℕ) : SpansByDomain where
  domains := [("a", [{ exampleSpan "p" "send" "a" 1 [] with endTimeUnixNano := end' }]),
    ("b", [exampleSpan "c" "receive" "b" 2 ["p"]])]
  distinct := by simp [Distinct]
  domainId_eq := by simp [exampleSpan]

/-- Two producers of one message, of which one is received. -/
private def repeatedSpans : SpansByDomain where
  domains := [("a", [exampleSpan "p" "send" "a" 1 [], exampleSpan "q" "send" "a" 2 []]),
    ("b", [exampleSpan "c" "receive" "b" 3 ["p"]])]
  distinct := by simp [Distinct]
  domainId_eq := by simp [exampleSpan]

private theorem readSpans_of {spans : SpansByDomain}
    (hstart : ∀ span ∈ spans.values, span.startTimeUnixNano < 2 ^ 64)
    (hlength : ∀ entry ∈ spans.domains, entry.2.length < 2 ^ 63) : ReadSpans spans := by
  refine ⟨hstart, fun domain => ?_⟩
  unfold SpansByDomain.get
  cases h : spans.domains.find? fun entry => entry.1 = domain with
  | none => decide
  | some entry => exact hlength entry (List.mem_of_find?_eq_some h)

theorem channelObservation_not_written :
    ¬ ∀ (py : PyOps) (search : String → String → Bool) (runId observationId sha256 : String)
      (evaluatedAt : Timestamp) (contract : TransportChannel) (spans : SpansByDomain),
      py.fl = double → py.ShortNumbers → ReadSpans spans →
        Identified search runId observationId sha256 contract.channelId →
        validateTransportChannel contract = .ok () → validateTraceSet py spans = .ok () →
          Written py search runId observationId sha256 evaluatedAt contract spans := by
  intro h
  have hw := h .short (fun _ _ => true) "run" "observation" "hash" .epoch
    (exampleChannel "x" true).data (overlappingSpans 5) rfl PyOps.short_shortNumbers
    (readSpans_of (by decide +kernel) (by decide +kernel)) exampleIdentified
    (exampleChannel "x" true).accepted (by decide +kernel)
  obtain ⟨observation, ho, -, hage, -⟩ := evaluation_of_written hw
  obtain ⟨observation', ho', hneg⟩ := exists_ok_of_any (by decide +kernel :
    (evaluateChannelDelivery .short (exampleChannel "x" true).data
      (overlappingSpans 5)).toOption.any (fun observation =>
        decide (observation.maxMessageAgeMs < 0)) = true)
  obtain rfl := Except.ok.inj (ho.symm.trans ho')
  exact (of_decide_eq_true hneg).not_ge hage

/-- The delivery is recorded with the repeated message id, the lost message and the policy on both. -/
theorem channelObservation_written_iff_repeated :
    Written .short (fun _ _ => true) "run" "observation" "hash" .epoch
        (exampleChannel "x" true).data repeatedSpans ∧
      (evaluateChannelDelivery .short (exampleChannel "x" true).data
        repeatedSpans).toOption.any (fun observation =>
          decide (observation.violations.map (·.code) = [.ambiguousMessageId, .lossRatioExceeded])) =
        true := by
  refine ⟨(channelObservation_written_iff .short (fun _ _ => true) "run" "observation" "hash"
    .epoch (exampleChannel "x" true).data repeatedSpans rfl PyOps.short_shortNumbers
    (readSpans_of (by decide +kernel) (by decide +kernel)) exampleIdentified).2 ?_,
    by decide +kernel⟩
  rw [Recordable, if_neg (by decide +kernel), if_neg (by decide +kernel)]
  refine ⟨.inr (by decide +kernel), ⟨?_, by decide +kernel⟩, .inr (by decide +kernel), ?_⟩
  · rw [Writable, if_pos (by decide +kernel)]
    constructor <;> decide +kernel
  · constructor <;> decide +kernel

end RoboticsRuntime.Harness
