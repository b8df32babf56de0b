import RoboticsRuntime.Theory.Ranking
import RoboticsRuntime.Verify.ObservationDocument

/-!
# The accounting of a channel

The counters of a channel in terms of its spans alone: what is lost and duplicated is counted id by
id, and the deliveries are the producers and consumers of one id that have the same rank among the
producers and among the consumers of the id. None of this depends on the order in which the spans
of a domain are recorded, since no two spans share an identity.
-/

namespace RoboticsRuntime.Harness
open Theory Contracts

/-! ## Deliveries -/

/-- The spans with the message id of a span. -/
def sameMessage (spans : List TraceSpan) (span : TraceSpan) : List TraceSpan :=
  spans.filter fun other => messageText other = messageText span

/-- A producer and a consumer of one message id with the same rank among those of the id. -/
structure Matched (producers consumers : List TraceSpan) (pair : MessagePair) : Prop where
  producer_mem : pair.1 ∈ producers
  consumer_mem : pair.2 ∈ consumers
  messageText_eq : messageText pair.1 = messageText pair.2
  rank_eq : keyRank groupKey (sameMessage producers pair.1) pair.1 =
    keyRank groupKey (sameMessage consumers pair.2) pair.2

/-- The position of a producer among the producers. -/
def producerIndex (producers : List TraceSpan) (pair : MessagePair) : ℕ :=
  keyRank orderKey producers pair.1

variable {producers consumers : List TraceSpan}

theorem distinct_groupKey (h : Distinct TraceSpan.key l) : Distinct groupKey l :=
  List.Nodup.of_map (fun k => ((ofLex (ofLex k).2).1, (ofLex (ofLex k).2).2)) (by
    rwa [List.map_map])

theorem distinct_orderKey (h : Distinct TraceSpan.key l) : Distinct orderKey l :=
  List.Nodup.of_map (fun k =>
    ((ofLex (ofLex (ofLex k).2).2).1, (ofLex (ofLex (ofLex k).2).2).2)) (by rwa [List.map_map])

theorem distinct_sameMessage (h : Distinct TraceSpan.key l) (span : TraceSpan) :
    Distinct TraceSpan.key (sameMessage l span) :=
  h.sublist (List.filter_sublist.map _)

/-- The deliveries of a message id. -/
theorem matchGroups_eq (producers consumers : List TraceSpan) :
    matchGroups (groups messageText producers) (groups messageText consumers) =
      (groups messageText producers).flatMap fun g =>
        (sortBy groupKey (producers.filter fun span => messageText span = g.1)).zip
          (sortBy groupKey (consumers.filter fun span => messageText span = g.1)) := by
  refine List.flatMap_congr fun g hg => ?_
  rw [(mem_groups.1 hg).2, groupOf, lookup_groups]
  rfl

theorem mem_matchGroups (hp : Distinct TraceSpan.key producers)
    (hc : Distinct TraceSpan.key consumers) {pair : MessagePair} :
    pair ∈ matchGroups (groups messageText producers) (groups messageText consumers) ↔
      Matched producers consumers pair := by
  have hzip (text : String) := mem_zip_sortBy
    (distinct_groupKey (hp.sublist ((List.filter_sublist
      (p := fun span => decide (messageText span = text))).map _)))
    (distinct_groupKey (hc.sublist ((List.filter_sublist
      (p := fun span => decide (messageText span = text))).map _)))
    (a := pair.1) (b := pair.2)
  simp only [Prod.mk.eta, List.mem_filter, decide_eq_true_eq] at hzip
  rw [matchGroups_eq, List.mem_flatMap]
  simp only [hzip]
  constructor
  · rintro ⟨g, -, ⟨hproducer, hg⟩, ⟨hconsumer, hg'⟩, hrank⟩
    rw [← hg] at hrank
    exact ⟨hproducer, hconsumer, hg.trans hg'.symm, by rwa [sameMessage, sameMessage, hg', ← hg]⟩
  · intro h
    obtain ⟨g, hg, hkey⟩ := exists_mem_groups messageText h.producer_mem
    have hrank := h.rank_eq
    rw [sameMessage, sameMessage, ← h.messageText_eq, ← hkey] at hrank
    exact ⟨g, hg, ⟨h.producer_mem, hkey.symm⟩, ⟨h.consumer_mem, h.messageText_eq.symm.trans hkey.symm⟩,
      hrank⟩

theorem nodup_matchGroups (hp : Distinct TraceSpan.key producers) (consumers : List TraceSpan) :
    (matchGroups (groups messageText producers) (groups messageText consumers)).Nodup := by
  rw [matchGroups_eq, List.nodup_flatMap]
  refine ⟨fun g _ => nodup_zip_sortBy (distinct_groupKey
    (hp.sublist (List.filter_sublist.map _))), ?_⟩
  -- Two groups have different ids.
  have hids : ((groups messageText producers).map (·.1)).Nodup := distinct_groups
  refine (List.pairwise_map.1 hids).imp ?_
  intro g g' hne pair hm hm'
  have hid : messageText pair.1 = g.1 := by
    simpa using (List.mem_filter.1 (mem_sortBy.1 (List.of_mem_zip hm).1)).2
  have hid' : messageText pair.1 = g'.1 := by
    simpa using (List.mem_filter.1 (mem_sortBy.1 (List.of_mem_zip hm').1)).2
  exact hne (hid.symm.trans hid')

/-- A consumer is delivered once. -/
theorem Matched.eq_of_consumer (hp : Distinct TraceSpan.key producers) {pair pair' : MessagePair}
    (h : Matched producers consumers pair) (h' : Matched producers consumers pair')
    (heq : pair.2 = pair'.2) : pair = pair' := by
  have hsame : sameMessage producers pair.1 = sameMessage producers pair'.1 := by
    rw [sameMessage, sameMessage, h.messageText_eq, heq, h'.messageText_eq]
  have hrank := h.rank_eq
  rw [heq, ← h'.rank_eq, hsame] at hrank
  have hmem : pair.1 ∈ sameMessage producers pair'.1 :=
    hsame ▸ List.mem_filter.2 ⟨h.producer_mem, by simp⟩
  have hmem' : pair'.1 ∈ sameMessage producers pair'.1 :=
    List.mem_filter.2 ⟨h'.producer_mem, by simp⟩
  exact Prod.ext (eq_of_rank_eq (distinct_groupKey (distinct_sameMessage hp _)) hmem hmem' hrank) heq

/-- A producer is delivered once. -/
theorem Matched.eq_of_producer (hc : Distinct TraceSpan.key consumers) {pair pair' : MessagePair}
    (h : Matched producers consumers pair) (h' : Matched producers consumers pair')
    (heq : pair.1 = pair'.1) : pair = pair' := by
  have hsame : sameMessage consumers pair.2 = sameMessage consumers pair'.2 := by
    rw [sameMessage, sameMessage, ← h.messageText_eq, heq, h'.messageText_eq]
  have hrank := h.rank_eq
  rw [heq, h'.rank_eq, hsame] at hrank
  have hmem : pair.2 ∈ sameMessage consumers pair'.2 :=
    hsame ▸ List.mem_filter.2 ⟨h.consumer_mem, by simp⟩
  have hmem' : pair'.2 ∈ sameMessage consumers pair'.2 :=
    List.mem_filter.2 ⟨h'.consumer_mem, by simp⟩
  exact Prod.ext heq
    (eq_of_rank_eq (distinct_groupKey (distinct_sameMessage hc _)) hmem hmem' hrank.symm)

/-- The deliveries have distinct consumers. -/
theorem distinct_matched (hp : Distinct TraceSpan.key producers)
    (hc : Distinct TraceSpan.key consumers) :
    Distinct (fun pair : MessagePair => orderKey pair.2)
      (matchGroups (groups messageText producers) (groups messageText consumers)) := by
  refine List.Nodup.map_on (fun pair hm pair' hm' heq => ?_) (nodup_matchGroups hp consumers)
  have h := (mem_matchGroups hp hc).1 hm
  have h' := (mem_matchGroups hp hc).1 hm'
  exact h.eq_of_consumer hp h'
    ((distinct_orderKey hc).eq_of_mem h.consumer_mem h'.consumer_mem heq)

/-! ## The order of the deliveries -/

theorem producerOrder_eq (hp : Distinct TraceSpan.key producers) {span : TraceSpan}
    (hm : span ∈ producers) : producerOrder producers span.key = keyRank orderKey producers span := by
  have hindex : ∀ entry : TraceSpan × ℕ, entry ∈ (sortBy orderKey producers).zipIdx →
      entry.1.key = span.key → entry.2 = keyRank orderKey producers span := by
    intro entry hentry hkey
    have hget := List.mem_zipIdx_iff_getElem?.1 hentry
    obtain ⟨hmem, hrank⟩ := (getElem?_sortBy (distinct_orderKey hp)).1 hget
    rw [← hrank, hp.eq_of_mem hmem hm hkey]
  unfold producerOrder
  dsimp only
  cases hfind : ((sortBy orderKey producers).zipIdx.reverse.find?
      fun entry => entry.1.key = span.key) with
  | none =>
    have hget := (getElem?_sortBy (distinct_orderKey hp)).2 ⟨hm, rfl⟩
    have hentry : (span, keyRank orderKey producers span) ∈
        (sortBy orderKey producers).zipIdx.reverse :=
      List.mem_reverse.2 (List.mem_zipIdx_iff_getElem?.2 hget)
    simpa using List.find?_eq_none.1 hfind _ hentry
  | some entry =>
    have hfound := hindex entry (List.mem_reverse.1 (List.mem_of_find?_eq_some hfind))
      (by simpa using List.find?_some hfind)
    rw [sortBy] at hfind
    rw [hfind]
    exact hfound

/-- The positions of the producers in the order of their consumers. -/
theorem receivedOrder_eq (hp : Distinct TraceSpan.key producers)
    (hpairs : ∀ pair ∈ pairs, pair.1 ∈ producers) : receivedOrder producers pairs =
      (sortBy (fun pair : MessagePair => orderKey pair.2) pairs).map (producerIndex producers) := by
  unfold receivedOrder sortBy
  refine List.map_congr_left fun pair hm => ?_
  exact producerOrder_eq hp (hpairs pair ((List.mem_insertionSort _).1 hm))

/-- The loop counts the positions below the highest one before them. -/
theorem countOutOfOrder_eq (highest : ℤ) (order : List ℕ) : countOutOfOrder highest order =
    (List.range order.length).countP fun k =>
      (order.getD k 0 : ℤ) < highest ∨ order.getD k 0 < (order.take k).max?.getD 0 := by
  induction order generalizing highest with
  | nil => rfl
  | cons index order ih =>
    rw [countOutOfOrder, ih, List.length_cons, List.range_succ_eq_map, List.countP_cons,
      List.countP_map, Nat.add_comm]
    congr 1
    · refine List.countP_congr fun k _ => ?_
      simp only [Function.comp_apply, List.getD_cons_succ, List.take_succ_cons, decide_eq_true_eq,
        lt_max?_getD, List.mem_cons, exists_eq_or_imp, lt_max_iff, Nat.cast_lt]
      exact or_assoc
    · simp

theorem countOutOfOrder_eq_belowRunningMaximum (order : List ℕ) :
    countOutOfOrder (-1) order = belowRunningMaximum order := by
  rw [countOutOfOrder_eq, belowRunningMaximum]
  refine List.countP_congr fun k _ => ?_
  simp only [decide_eq_true_eq]
  exact or_iff_right (by omega)

/-- The deliveries of a window, in the order of their consumers. -/
def DeliveryWindow.deliveries (w : DeliveryWindow) : List MessagePair :=
  sortBy (fun pair => orderKey pair.2) w.matched

variable {w : DeliveryWindow}

theorem mem_deliveries (hp : Distinct TraceSpan.key w.producers)
    (hc : Distinct TraceSpan.key w.consumers) {pair : MessagePair} :
    pair ∈ w.deliveries ↔ Matched w.producers w.consumers pair := by
  rw [DeliveryWindow.deliveries, mem_sortBy, DeliveryWindow.matched, mem_matchGroups hp hc]

theorem outOfOrderCount_eq (py : PyOps) (hp : Distinct TraceSpan.key w.producers)
    (hc : Distinct TraceSpan.key w.consumers) :
    (measuredCounters py w).outOfOrderCount =
      belowRunningMaximum (w.deliveries.map (producerIndex w.producers)) := by
  have hpairs : ∀ pair ∈ w.matched, pair.1 ∈ w.producers := fun pair hm =>
    ((mem_matchGroups hp hc).1 hm).producer_mem
  rw [DeliveryWindow.deliveries, ← receivedOrder_eq hp hpairs,
    ← countOutOfOrder_eq_belowRunningMaximum]
  rfl

/-! ## Lost and duplicated messages -/

/-- What is in the groups of one list beyond those of another, id by id. -/
theorem excess_eq_sum (items others : List TraceSpan) :
    excess (groups messageText items) (groups messageText others) =
      ∑ id ∈ (messageTexts (items ++ others)).toFinset,
        ((messageTexts items).count id - (messageTexts others).count id) := by
  rw [excess_groups, card_sub_eq_sum]
  refine Finset.sum_subset (fun id hid => ?_) fun id _ hid => ?_
  · rw [Multiset.mem_toFinset] at hid ⊢
    simp only [messageTexts, Multiset.mem_coe, List.map_append, List.mem_append] at hid ⊢
    exact .inl hid
  · rw [Multiset.mem_toFinset, ← Multiset.count_eq_zero] at hid
    rw [hid, Nat.zero_sub]

/-- The accounting of the spans in a window. -/
structure Accounted (w : DeliveryWindow) (observation : ChannelObservationEvaluation) : Prop where
  sent : observation.sentCount = w.producers.length
  received : observation.receivedCount = w.consumers.length
  /-- The excess of the producers over the consumers, id by id. -/
  lost : observation.lostCount = ∑ id ∈ (messageTexts (w.producers ++ w.consumers)).toFinset,
    ((messageTexts w.producers).count id - (messageTexts w.consumers).count id)
  /-- The excess of the consumers over the producers, id by id. -/
  duplicated : observation.duplicateCount =
    ∑ id ∈ (messageTexts (w.consumers ++ w.producers)).toFinset,
      ((messageTexts w.consumers).count id - (messageTexts w.producers).count id)
  lost_le : observation.lostCount ≤ observation.sentCount
  balance : observation.receivedCount =
    observation.sentCount - observation.lostCount + observation.duplicateCount
  /-- The deliveries in the order of their consumers, and those that were overtaken. -/
  deliveries : ∃ deliveries : List MessagePair,
    (∀ pair, pair ∈ deliveries ↔ Matched w.producers w.consumers pair) ∧
    (deliveries.Pairwise fun a b => orderKey a.2 < orderKey b.2) ∧
    deliveries.length = observation.sentCount - observation.lostCount ∧
    observation.outOfOrderCount =
      belowRunningMaximum (deliveries.map (producerIndex w.producers)) ∧
    (observation.outOfOrderCount = 0 ↔
      deliveries.Pairwise fun a b => orderKey a.1 < orderKey b.1) ∧
    observation.outOfOrderCount ≤ observation.sentCount - observation.lostCount

theorem pairwise_deliveries (hp : Distinct TraceSpan.key w.producers)
    (hc : Distinct TraceSpan.key w.consumers) :
    w.deliveries.Pairwise fun a b => orderKey a.2 < orderKey b.2 :=
  pairwise_sortBy (distinct_matched hp hc)

/-- Indices in order are producers in order, since no producer is delivered twice. -/
theorem pairwise_producerIndex (hp : Distinct TraceSpan.key w.producers)
    (hc : Distinct TraceSpan.key w.consumers) :
    (w.deliveries.map (producerIndex w.producers)).Pairwise (· ≤ ·) ↔
      w.deliveries.Pairwise fun a b => orderKey a.1 < orderKey b.1 := by
  have hkeys := distinct_orderKey hp
  rw [List.pairwise_map]
  constructor
  · intro h
    refine (h.and (pairwise_deliveries hp hc)).imp_of_mem fun {a b} hma hmb hab => ?_
    have ha := (mem_deliveries hp hc).1 hma
    have hb := (mem_deliveries hp hc).1 hmb
    rcases lt_trichotomy (orderKey a.1) (orderKey b.1) with hlt | heq | hgt
    · exact hlt
    · have := ha.eq_of_producer hc hb (hkeys.eq_of_mem ha.producer_mem hb.producer_mem heq)
      rw [this] at hab
      exact absurd hab.2 (lt_irrefl _)
    · exact absurd hab.1 (not_le.2 ((rank_lt_iff hkeys hb.producer_mem ha.producer_mem).2 hgt))
  · intro h
    refine h.imp_of_mem fun {a b} hma hmb hab => ?_
    have ha := (mem_deliveries hp hc).1 hma
    have hb := (mem_deliveries hp hc).1 hmb
    exact ((rank_lt_iff hkeys ha.producer_mem hb.producer_mem).2 hab).le

theorem length_deliveries (w : DeliveryWindow) : w.deliveries.length = w.matched.length :=
  (sortBy_perm _ _).length_eq

/-- An identified window is accounted for. -/
theorem accounted_measuredObservation (py : PyOps) (hp : Distinct TraceSpan.key w.producers)
    (hc : Distinct TraceSpan.key w.consumers)
    (violations : List (ChainViolation ChannelViolationCode)) :
    Accounted w (measuredObservation py w violations) := by
  obtain ⟨hlost, hduplicated⟩ := length_matched w
  have horder := outOfOrderCount_eq py hp hc
  have hle := outOfOrderCount_le py w
  have hlength := length_deliveries w
  have hcounters : (measuredCounters py w).sentCount = w.producers.length ∧
      (measuredCounters py w).duplicateCount =
        excess (groups messageText w.consumers) (groups messageText w.producers) := ⟨rfl, rfl⟩
  refine ⟨rfl, rfl, excess_eq_sum _ _, excess_eq_sum _ _, ?_, ?_, w.deliveries,
    fun pair => mem_deliveries hp hc, pairwise_deliveries hp hc, ?_, horder, ?_, ?_⟩
  · simp only [measuredObservation, hcounters]
    omega
  · simp only [measuredObservation, hcounters]
    omega
  · simp only [measuredObservation, hcounters]
    omega
  · rw [← pairwise_producerIndex hp hc, ← belowRunningMaximum_eq_zero, ← horder]
    rfl
  · simp only [measuredObservation, hcounters]
    omega

/-- A channel without spans is accounted for. -/
theorem accounted_emptyObservation (hnil : w.allSpans = []) :
    Accounted w (emptyObservation contract) := by
  obtain ⟨hproducers, hconsumers⟩ := List.append_eq_nil_iff.1 hnil
  have hp : w.producers = [] := by rw [DeliveryWindow.producers, hproducers, List.filter_nil]
  have hc : w.consumers = [] := by rw [DeliveryWindow.consumers, hconsumers, List.filter_nil]
  refine ⟨by rw [hp]; rfl, by rw [hc]; rfl, by rw [hp, hc]; rfl, by rw [hp, hc]; rfl, le_rfl, rfl, [],
    fun pair => ⟨fun h => (nomatch h), fun h => ?_⟩, .nil, rfl, rfl, iff_of_true rfl .nil, le_rfl⟩
  have hm := h.producer_mem
  rw [hp] at hm
  cases hm

/-! ## The order of the spans -/

/-- Two windows with the same spans in another order. -/
structure SameSpans (w w' : DeliveryWindow) : Prop where
  producers : w'.allProducers.Perm w.allProducers
  consumers : w'.allConsumers.Perm w.allConsumers
  startNs : w'.startNs = w.startNs
  endNs : w'.endNs = w.endNs

theorem ne_nil_iff_of_perm {l l' : List α} (h : l'.Perm l) : l' ≠ [] ↔ l ≠ [] := by
  rw [← List.length_pos_iff, ← List.length_pos_iff, h.length_eq]

theorem min?_eq_of_perm {l l' : List ℕ} (h : l'.Perm l) : l'.min? = l.min? := by
  cases hmin : l.min? with
  | none =>
    rw [List.min?_eq_none_iff] at hmin ⊢
    exact (hmin ▸ h).eq_nil
  | some m =>
    rw [List.min?_eq_some_iff] at hmin ⊢
    exact ⟨h.mem_iff.2 hmin.1, fun x hx => hmin.2 x (h.mem_iff.1 hx)⟩

theorem max?_eq_of_perm {l l' : List ℚ} (h : l'.Perm l) : l'.max? = l.max? := by
  cases hmax : l.max? with
  | none =>
    rw [List.max?_eq_none_iff] at hmax ⊢
    exact (hmax ▸ h).eq_nil
  | some m =>
    rw [List.max?_eq_some_iff] at hmax ⊢
    exact ⟨h.mem_iff.2 hmax.1, fun x hx => hmax.2 x (h.mem_iff.1 hx)⟩

theorem minStart_eq_of_perm (h : l'.Perm l) : minStart l' = minStart l := by
  rw [minStart, minStart, min?_eq_of_perm (h.map _)]

/-- The spans of a channel in another order. -/
theorem sameSpans_deliveryWindow (py : PyOps) (contract : TransportChannel)
    {spans spans' : SpansByDomain}
    (hperm : ∀ domain, (spans'.get domain).Perm (spans.get domain)) :
    SameSpans (deliveryWindow py contract spans) (deliveryWindow py contract spans') := by
  have hselect : ∀ side, (selectSpans spans' side).Perm (selectSpans spans side) := fun side =>
    (hperm side.domain).filter _
  have hp := hselect (endpointSpans contract).1
  have hc := hselect (endpointSpans contract).2
  have hstart : (deliveryWindow py contract spans').startNs =
      (deliveryWindow py contract spans).startNs := by
    simp only [deliveryWindow, channelSpans]
    rw [minStart_eq_of_perm hp, minStart_eq_of_perm (hp.append hc)]
    exact if_congr (ne_nil_iff_of_perm hp) rfl rfl
  refine ⟨hp, hc, hstart, ?_⟩
  have hend : ∀ spans : SpansByDomain, (deliveryWindow py contract spans).endNs =
      (deliveryWindow py contract spans).startNs + windowDurationNs py contract.delivery :=
    fun _ => rfl
  rw [hend, hend, hstart]

namespace SameSpans
variable {w w' : DeliveryWindow}

theorem contains (h : SameSpans w w') : w'.contains = w.contains := by
  funext span
  rw [DeliveryWindow.contains, DeliveryWindow.contains, h.startNs, h.endNs]

theorem allSpans (h : SameSpans w w') : w'.allSpans.Perm w.allSpans :=
  h.producers.append h.consumers

theorem inside_producers (h : SameSpans w w') : w'.producers.Perm w.producers := by
  rw [DeliveryWindow.producers, DeliveryWindow.producers, h.contains]
  exact h.producers.filter _

theorem inside_consumers (h : SameSpans w w') : w'.consumers.Perm w.consumers := by
  rw [DeliveryWindow.consumers, DeliveryWindow.consumers, h.contains]
  exact h.consumers.filter _

theorem outside (h : SameSpans w w') : w'.outside.Perm w.outside := by
  rw [DeliveryWindow.outside, DeliveryWindow.outside, h.contains]
  exact h.allSpans.filter _

theorem unidentified (h : SameSpans w w') : w'.unidentified = w.unidentified :=
  (h.inside_producers.append h.inside_consumers).any_eq

theorem unidentifiedObservation (h : SameSpans w w') (py : PyOps) (contract : TransportChannel) :
    unidentifiedObservation py contract w' = unidentifiedObservation py contract w := by
  simp only [Harness.unidentifiedObservation, h.startNs, h.endNs, h.inside_producers.length_eq,
    h.inside_consumers.length_eq]
  rw [if_congr (ne_nil_iff_of_perm h.inside_producers) rfl rfl]

theorem excess_eq {items items' others others' : List TraceSpan} (hitems : items'.Perm items)
    (hothers : others'.Perm others) :
    excess (groups messageText items') (groups messageText others') =
      excess (groups messageText items) (groups messageText others) := by
  have htexts : ∀ {l l' : List TraceSpan}, l'.Perm l → messageTexts l' = messageTexts l :=
    fun hl => Multiset.coe_eq_coe.2 (hl.map _)
  rw [excess_groups, excess_groups, htexts hitems, htexts hothers]

/-- A delivery is one of the spans in any order. -/
theorem matched_iff (hp : producers'.Perm producers) (hc : consumers'.Perm consumers)
    {pair : MessagePair} :
    Matched producers' consumers' pair ↔ Matched producers consumers pair := by
  have hranks : keyRank groupKey (sameMessage producers' pair.1) pair.1 =
      keyRank groupKey (sameMessage consumers' pair.2) pair.2 ↔
      keyRank groupKey (sameMessage producers pair.1) pair.1 =
        keyRank groupKey (sameMessage consumers pair.2) pair.2 := by
    have hp' : (sameMessage producers' pair.1).Perm (sameMessage producers pair.1) := hp.filter _
    have hc' : (sameMessage consumers' pair.2).Perm (sameMessage consumers pair.2) := hc.filter _
    rw [keyRank_of_perm hp', keyRank_of_perm hc']
  exact ⟨fun h => ⟨hp.mem_iff.1 h.1, hc.mem_iff.1 h.2, h.3, hranks.1 h.4⟩,
    fun h => ⟨hp.mem_iff.2 h.1, hc.mem_iff.2 h.2, h.3, hranks.2 h.4⟩⟩

theorem matched (h : SameSpans w w') (hp : Distinct TraceSpan.key w.producers)
    (hc : Distinct TraceSpan.key w.consumers) : w'.matched.Perm w.matched := by
  have hp' : Distinct TraceSpan.key w'.producers := (h.inside_producers.map _).nodup_iff.2 hp
  have hc' : Distinct TraceSpan.key w'.consumers := (h.inside_consumers.map _).nodup_iff.2 hc
  refine (List.perm_ext_iff_of_nodup (nodup_matchGroups hp' _) (nodup_matchGroups hp _)).2
    fun pair => ?_
  rw [mem_matchGroups hp' hc', mem_matchGroups hp hc,
    matched_iff h.inside_producers h.inside_consumers]

theorem outOfOrderCount (h : SameSpans w w') (py : PyOps) (hp : Distinct TraceSpan.key w.producers)
    (hc : Distinct TraceSpan.key w.consumers) :
    (measuredCounters py w').outOfOrderCount = (measuredCounters py w).outOfOrderCount := by
  have hp' : Distinct TraceSpan.key w'.producers := (h.inside_producers.map _).nodup_iff.2 hp
  have hc' : Distinct TraceSpan.key w'.consumers := (h.inside_consumers.map _).nodup_iff.2 hc
  have hindex : producerIndex w'.producers = producerIndex w.producers := by
    funext pair
    exact keyRank_of_perm h.inside_producers _
  have hdeliveries : w'.deliveries = w.deliveries :=
    sortBy_eq_of_perm (distinct_matched hp' hc') (h.matched hp hc)
  rw [outOfOrderCount_eq py hp' hc', outOfOrderCount_eq py hp hc, hdeliveries, hindex]

theorem measuredCounters (h : SameSpans w w') (py : PyOps)
    (hp : Distinct TraceSpan.key w.producers) (hc : Distinct TraceSpan.key w.consumers) :
    measuredCounters py w' = measuredCounters py w := by
  have horder := h.outOfOrderCount py hp hc
  have hages : maxAge (w'.matched.map (messageAgeMs py)) = maxAge (w.matched.map (messageAgeMs py)) := by
    rw [maxAge, maxAge, max?_eq_of_perm ((h.matched hp hc).map _)]
  simp only [Harness.measuredCounters] at horder ⊢
  rw [horder, hages, excess_eq h.inside_producers h.inside_consumers,
    excess_eq h.inside_consumers h.inside_producers, h.inside_producers.length_eq, h.startNs, h.endNs,
    if_congr (ne_nil_iff_of_perm h.inside_producers) rfl rfl]

theorem ambiguousIds (h : SameSpans w w') : w'.ambiguousIds = w.ambiguousIds := by
  have hnodup : ∀ l : List TraceSpan,
      (((groups messageText l).filter fun g => 1 < g.2.length).map (·.1)).Nodup := fun l =>
    distinct_groups.sublist (List.filter_sublist.map _)
  have hmem : ∀ (l : List TraceSpan) (id : String),
      id ∈ ((groups messageText l).filter fun g => 1 < g.2.length).map (·.1) ↔
        1 < l.countP fun span => messageText span = id := by
    intro l id
    simp only [List.mem_map, List.mem_filter, decide_eq_true_eq, mem_groups]
    constructor
    · rintro ⟨g, ⟨⟨-, hg⟩, hlength⟩, rfl⟩
      rwa [hg, ← List.countP_eq_length_filter] at hlength
    · intro hcount
      obtain ⟨span, hspan, hid⟩ := List.countP_pos_iff.1 (Nat.lt_of_succ_lt hcount)
      refine ⟨(id, l.filter fun span => messageText span = id),
        ⟨⟨⟨span, hspan, by simpa using hid⟩, rfl⟩, ?_⟩, rfl⟩
      rwa [← List.countP_eq_length_filter]
  have hperm : (((groups messageText w'.producers).filter fun g => 1 < g.2.length).map (·.1)).Perm
      (((groups messageText w.producers).filter fun g => 1 < g.2.length).map (·.1)) := by
    refine (List.perm_ext_iff_of_nodup (hnodup _) (hnodup _)).2 fun id => ?_
    rw [hmem, hmem, h.inside_producers.countP_eq]
  exact sortBy_eq_of_perm (show Distinct id _ by simpa [Distinct] using hnodup w'.producers) hperm

theorem structuralViolations (h : SameSpans w w') (py : PyOps) (contract : TransportChannel)
    (hp : Distinct TraceSpan.key w.producers) (hc : Distinct TraceSpan.key w.consumers) :
    structuralViolations py contract w' = structuralViolations py contract w := by
  have hany : (w'.matched.map (messageAgeMs py)).any (· < 0) =
      (w.matched.map (messageAgeMs py)).any (· < 0) := ((h.matched hp hc).map _).any_eq
  have hids := h.ambiguousIds
  simp only [DeliveryWindow.ambiguousIds] at hids
  simp only [Harness.structuralViolations, hany, hids, h.outside.length_eq]
  rw [if_congr (ne_nil_iff_of_perm h.outside) rfl rfl]

theorem measuredViolations (h : SameSpans w w') (py : PyOps) (contract : TransportChannel)
    (hp : Distinct TraceSpan.key w.producers) (hc : Distinct TraceSpan.key w.consumers) :
    measuredViolations py contract w' = measuredViolations py contract w := by
  simp only [Harness.measuredViolations, derivedCodes, structuralCodes,
    h.measuredCounters py hp hc, h.structuralViolations py contract hp hc]

theorem measuredObservation (h : SameSpans w w') (py : PyOps)
    (hp : Distinct TraceSpan.key w.producers) (hc : Distinct TraceSpan.key w.consumers)
    (violations : List (ChainViolation ChannelViolationCode)) :
    measuredObservation py w' violations = measuredObservation py w violations := by
  simp only [Harness.measuredObservation, h.measuredCounters py hp hc, h.startNs, h.endNs,
    h.inside_consumers.length_eq, excess_eq h.inside_producers h.inside_consumers]

end SameSpans

/-! ## Main result -/

theorem distinct_selectSpans {spans : SpansByDomain} (h : Distinct TraceSpan.key spans.values)
    (side : EndpointSpan) : Distinct TraceSpan.key (selectSpans spans side) := by
  have hget : Distinct TraceSpan.key (spans.get side.domain) := by
    unfold SpansByDomain.get
    cases hfind : spans.domains.find? fun entry => entry.1 = side.domain with
    | none => exact List.nodup_nil
    | some entry =>
      have hsublist : entry.2.Sublist spans.values := by
        obtain ⟨before, after, heq⟩ := List.append_of_mem (List.mem_of_find?_eq_some hfind)
        rw [SpansByDomain.values, heq, List.flatMap_append, List.flatMap_cons]
        exact (List.sublist_append_left _ _).trans (List.sublist_append_right _ _)
      exact h.sublist (hsublist.map _)
  exact hget.sublist (List.filter_sublist.map _)

/-- The accounting of every channel is exact, and does not depend on the order of the spans. -/
theorem delivery_accounted (py : PyOps) (contract : TransportChannel) (spans : SpansByDomain)
    (hunique : Distinct TraceSpan.key spans.values) :
    ((∀ span ∈ spans.values, span.messageId ≠ none) → ∀ observation,
      evaluateChannelDelivery py contract spans = .ok observation →
        Accounted (deliveryWindow py contract spans) observation) ∧
    ∀ spans' : SpansByDomain, (∀ domain, (spans'.get domain).Perm (spans.get domain)) →
      evaluateChannelDelivery py contract spans' = evaluateChannelDelivery py contract spans := by
  have hp : Distinct TraceSpan.key (deliveryWindow py contract spans).producers :=
    (distinct_selectSpans hunique _).sublist (List.filter_sublist.map _)
  have hc : Distinct TraceSpan.key (deliveryWindow py contract spans).consumers :=
    (distinct_selectSpans hunique _).sublist (List.filter_sublist.map _)
  constructor
  · intro hids observation h
    unfold evaluateChannelDelivery at h
    dsimp only at h
    split at h
    · next hnil =>
      obtain rfl := Except.ok.inj h
      exact accounted_emptyObservation hnil
    · have hidentified : (deliveryWindow py contract spans).unidentified = false := by
        simp only [DeliveryWindow.unidentified, List.any_eq_false, decide_eq_true_eq]
        intro span hspan
        rcases List.mem_append.1 hspan with hm | hm
        · exact hids span (mem_selectSpans (List.mem_of_mem_filter hm)).1
        · exact hids span (mem_selectSpans (List.mem_of_mem_filter hm)).1
      rw [if_neg (by simp [hidentified])] at h
      obtain ⟨violations, -, h⟩ := bind_eq_ok.1 h
      obtain rfl := Except.ok.inj h
      exact accounted_measuredObservation py hp hc violations
  · intro spans' hperm
    have hsame := sameSpans_deliveryWindow py contract hperm
    have hnil : (deliveryWindow py contract spans').allSpans = [] ↔
        (deliveryWindow py contract spans).allSpans = [] :=
      not_iff_not.1 (ne_nil_iff_of_perm hsame.allSpans)
    simp only [evaluateChannelDelivery, hsame.unidentified, hsame.unidentifiedObservation py contract,
      hsame.measuredViolations py contract hp hc, hsame.measuredObservation py hp hc]
    exact if_congr hnil rfl rfl

/-- Two messages that arrive in the other order, each domain recorded in one of two orders. -/
def crossingSpans (order : List TraceSpan → List TraceSpan)
    (horder : ∀ spans, (order spans).Perm spans) : SpansByDomain where
  domains := [("a", order [exampleSpan "p" "send" "a" 1 [],
      { exampleSpan "q" "send" "a" 2 [] with messageId := "n" }]),
    ("b", order [exampleSpan "c" "receive" "b" 4 ["p"],
      { exampleSpan "d" "receive" "b" 3 ["q"] with messageId := "n" }])]
  distinct := by simp [Distinct]
  domainId_eq := by
    simp only [List.forall_mem_cons, (horder _).mem_iff]
    simp [exampleSpan]

theorem get_crossingSpans (order : List TraceSpan → List TraceSpan)
    (horder : ∀ spans, (order spans).Perm spans) (domain : String) :
    ((crossingSpans order horder).get domain).Perm
      ((crossingSpans id fun _ => .refl _).get domain) := by
  unfold SpansByDomain.get crossingSpans
  by_cases ha : "a" = domain
  · subst ha
    exact horder _
  · by_cases hb : "b" = domain
    · subst hb
      exact horder _
    · simp [ha, hb]

theorem delivery_accounted_crossingSpans :
    (∃ observation, evaluateChannelDelivery examplePy (exampleChannel "x" true).data
        (crossingSpans id fun _ => .refl _) = .ok observation ∧
      Accounted (deliveryWindow examplePy (exampleChannel "x" true).data
        (crossingSpans id fun _ => .refl _)) observation) ∧
    evaluateChannelDelivery examplePy (exampleChannel "x" true).data
        (crossingSpans List.reverse List.reverse_perm) =
      evaluateChannelDelivery examplePy (exampleChannel "x" true).data
        (crossingSpans id fun _ => .refl _) := by
  have h := delivery_accounted examplePy (exampleChannel "x" true).data
    (crossingSpans id fun _ => .refl _) (by decide +kernel)
  obtain ⟨observation, hok, -⟩ := exists_ok_of_any (by decide +kernel :
    (evaluateChannelDelivery examplePy (exampleChannel "x" true).data
      (crossingSpans id fun _ => .refl _)).toOption.any (fun _ => true) = true)
  exact ⟨⟨observation, hok, h.1 (by decide +kernel) observation hok⟩,
    h.2 _ (get_crossingSpans _ _)⟩

end RoboticsRuntime.Harness
