import RoboticsRuntime.Harness.Traces.Delivery
import RoboticsRuntime.Verify.CausalChain

/-!
# The attribution of spans to channels

`require_attributable_channels`: channels that select a common span name one topic on the side that
selects it, on whichever sides of the two channels that is.
-/

namespace RoboticsRuntime.Harness
open Theory Contracts

/-- A side of a channel. -/
def IsSide (contract : TransportChannel) (side : EndpointSpan) : Prop :=
  side = (endpointSpans contract).1 ∨ side = (endpointSpans contract).2

theorem mem_allEndpointSpans {contracts : List TransportChannel} {side : EndpointSpan} :
    side ∈ allEndpointSpans contracts ↔ ∃ contract ∈ contracts, IsSide contract side := by
  simp [allEndpointSpans, IsSide]

/-- No side of one channel names a topic of the other. -/
def DifferentTopics (left right : TransportChannel) : Prop :=
  ∀ side side', IsSide left side → IsSide right side' → side.topic ≠ side'.topic

/-- What the channels of a run claim of its spans is unambiguous. -/
structure Unambiguous (contracts : List TransportChannel) (spans : SpansByDomain) : Prop where
  topic_eq : ∀ left ∈ contracts, ∀ right ∈ contracts, ∀ side side', IsSide left side →
    IsSide right side' → ∀ span, span ∈ selectSpans spans side → span ∈ selectSpans spans side' →
      side.topic = side'.topic
  delivery_disjoint : ∀ left ∈ contracts, ∀ right ∈ contracts, DifferentTopics left right →
    ∀ py, (deliveryWindow py left spans).allSpans.Disjoint (deliveryWindow py right spans).allSpans
  pairs_disjoint : ∀ left ∈ contracts, ∀ right ∈ contracts, DifferentTopics left right →
    ∀ pair ∈ (channelPairs left spans).1, ∀ pair' ∈ (channelPairs right spans).1,
      [pair.1, pair.2].Disjoint [pair'.1, pair'.2]

/-- Sides of one domain and name are checked together: they name one topic, or every span of the
name tells its destination. -/
theorem requireAttributableChannels_eq_ok {py : PyOps} {contracts : List TransportChannel}
    {spans : SpansByDomain} (h : requireAttributableChannels py contracts spans = .ok ())
    {side side' : EndpointSpan} (hside : side ∈ allEndpointSpans contracts)
    (hside' : side' ∈ allEndpointSpans contracts) (hdomain : side.domain = side'.domain)
    (hname : side.name = side'.name) :
    side.topic = side'.topic ∨
      ∀ span ∈ spans.get side.domain, span.name = side.name → span.destination ≠ none := by
  have hkey : toLex (side.domain, side.name) ∈ (((allEndpointSpans contracts).map fun side =>
      toLex (side.domain, side.name)).dedup.insertionSort (· ≤ ·)) := by
    rw [List.mem_insertionSort, List.mem_dedup]
    exact List.mem_map_of_mem hside
  have hchecked := require_eq_ok.1 (forM_eq_ok.1 h _ hkey)
  rcases hchecked with hcard | hcount
  · left
    rw [← List.card_toFinset] at hcard
    refine Finset.card_le_one.1 (Nat.le_of_lt_succ hcard) _ ?_ _ ?_
    · rw [List.mem_toFinset]
      exact List.mem_map_of_mem (List.mem_filter.2 ⟨hside, by simp⟩)
    · rw [List.mem_toFinset]
      exact List.mem_map_of_mem (List.mem_filter.2 ⟨hside', by simp [hdomain, hname]⟩)
  · right
    intro span hspan hspanName hnone
    exact List.countP_eq_zero.1 hcount span hspan (by simp [hspanName, hnone])

/-- A span that two sides select carries their topic, or both of them stand for it by name. -/
theorem topic_eq_of_selected {py : PyOps} {contracts : List TransportChannel}
    {spans : SpansByDomain}
    (h : requireAttributableChannels py contracts spans = .ok ()) {side side' : EndpointSpan}
    (hside : side ∈ allEndpointSpans contracts) (hside' : side' ∈ allEndpointSpans contracts)
    {span : TraceSpan} (hs : span ∈ selectSpans spans side) (hs' : span ∈ selectSpans spans side') :
    side.topic = side'.topic := by
  obtain ⟨-, hdomain, hname⟩ := mem_selectSpans hs
  obtain ⟨-, hdomain', hname'⟩ := mem_selectSpans hs'
  obtain ⟨hget, hselected⟩ := List.mem_filter.1 hs
  obtain ⟨-, hselected'⟩ := List.mem_filter.1 hs'
  simp only [Bool.and_eq_true, Bool.or_eq_true, decide_eq_true_eq] at hselected hselected'
  cases hdestination : span.destination with
  | none =>
    rcases requireAttributableChannels_eq_ok h hside hside' (hdomain.symm.trans hdomain')
      (hname.symm.trans hname') with htopic | htold
    · exact htopic
    · exact absurd hdestination (htold span hget hname)
  | some topic =>
    rw [hdestination] at hselected hselected'
    simp only [reduceCtorEq, false_or, Option.some.injEq] at hselected hselected'
    exact hselected.2.symm.trans hselected'.2

/-- The spans that count for the delivery of a channel are those that its sides select. -/
theorem mem_allSpans {py : PyOps} {contract : TransportChannel} {spans : SpansByDomain}
    {span : TraceSpan} : span ∈ (deliveryWindow py contract spans).allSpans ↔
      ∃ side, IsSide contract side ∧ span ∈ selectSpans spans side := by
  simp only [DeliveryWindow.allSpans, deliveryWindow, channelSpans, List.mem_append, IsSide]
  constructor
  · rintro (h | h)
    · exact ⟨_, .inl rfl, h⟩
    · exact ⟨_, .inr rfl, h⟩
  · rintro ⟨_, rfl | rfl, h⟩
    · exact .inl h
    · exact .inr h

theorem exists_side_of_mem_pair {contract : TransportChannel} {spans : SpansByDomain}
    {pair : MessagePair} (h : pair ∈ (channelPairs contract spans).1) {span : TraceSpan}
    (hspan : span ∈ [pair.1, pair.2]) :
    ∃ side, IsSide contract side ∧ span ∈ selectSpans spans side := by
  have hpair := channelPair_of_mem h
  simp only [List.mem_cons, List.not_mem_nil, or_false] at hspan
  rcases hspan with rfl | rfl
  · exact ⟨_, .inl rfl, hpair.producer_mem⟩
  · exact ⟨_, .inr rfl, hpair.consumer_mem⟩

theorem requireAttributableChannels_unambiguous (py : PyOps) (contracts : List TransportChannel)
    (spans : SpansByDomain) (h : requireAttributableChannels py contracts spans = .ok ()) :
    Unambiguous contracts spans := by
  have htopic : ∀ left ∈ contracts, ∀ right ∈ contracts, ∀ side side', IsSide left side →
      IsSide right side' → ∀ span, span ∈ selectSpans spans side →
        span ∈ selectSpans spans side' → side.topic = side'.topic := by
    intro left hleft right hright side side' hside hside' span hs hs'
    exact topic_eq_of_selected h (mem_allEndpointSpans.2 ⟨left, hleft, hside⟩)
      (mem_allEndpointSpans.2 ⟨right, hright, hside'⟩) hs hs'
  constructor
  · exact htopic
  · intro left hleft right hright hdifferent py span hl hr
    obtain ⟨side, hside, hs⟩ := mem_allSpans.1 hl
    obtain ⟨side', hside', hs'⟩ := mem_allSpans.1 hr
    exact hdifferent side side' hside hside'
      (htopic left hleft right hright side side' hside hside' span hs hs')
  · intro left hleft right hright hdifferent pair hpair pair' hpair' span hl hr
    obtain ⟨side, hside, hs⟩ := exists_side_of_mem_pair hpair hl
    obtain ⟨side', hside', hs'⟩ := exists_side_of_mem_pair hpair' hr
    exact hdifferent side side' hside hside'
      (htopic left hleft right hright side side' hside hside' span hs hs')

/-! Two channels from `a` to `b` share their span names, and the spans tell their topics. -/

private def topicChannel (topic : String) : TransportChannel :=
  ⟨topic, { exampleEndpoint true with topic }, { exampleEndpoint false with topic },
    exampleDelivery, ⟨.link, "send", "receive"⟩⟩

private def toldSpan (spanId name domainId topic : String) (causes : List String) : TraceSpan :=
  { exampleSpan spanId name domainId 1 causes with destination := some topic }

private def toldSpans : SpansByDomain where
  domains := [("a", [toldSpan "p" "send" "a" "/left" [], toldSpan "q" "send" "a" "/right" []]),
    ("b", [toldSpan "c" "receive" "b" "/left" ["p"], toldSpan "d" "receive" "b" "/right" ["q"]])]
  distinct := by decide
  domainId_eq := by decide

theorem requireAttributableChannels_unambiguous_sharedNames :
    requireAttributableChannels examplePy [topicChannel "/left", topicChannel "/right"] toldSpans = .ok () ∧
    (channelPairs (topicChannel "/left") toldSpans).1.length = 1 ∧
    Unambiguous [topicChannel "/left", topicChannel "/right"] toldSpans := by
  have hok : requireAttributableChannels examplePy [topicChannel "/left", topicChannel "/right"] toldSpans =
      .ok () := by
    decide +kernel
  exact ⟨hok, by decide +kernel, requireAttributableChannels_unambiguous _ _ _ hok⟩

end RoboticsRuntime.Harness
