import RoboticsRuntime.Harness.Traces.CausalChain

/-!
# The causal path search is sound and complete

Between hops the search remembers a consumer only by its span identity, so its answer is the
first admissible selection of pairs when consumers of one identity agree on their domain and
start. `validate_trace_set`, which every evaluation runs first, establishes that.
-/

namespace RoboticsRuntime.Harness
open Theory Contracts

variable {graph : TraceGraph} {pairsByChannel : List (List MessagePair)}

/-- The selections that are linked from the start are the admissible ones. -/
theorem linked_iff_admissible {selection : List MessagePair} :
    Linked (Continues graph) Prod.snd none selection ↔ Admissible graph selection :=
  linked_none_iff

/-- The search answers with the first admissible selection. -/
theorem chainPathSearch_first (h : ConsumersAgree pairsByChannel) :
    FirstIn (Admissible graph) (selections pairsByChannel)
      (chainPathSearch pairsByChannel graph).1 :=
  ((chainPathSearch_spec pairsByChannel graph).first h).congr fun _ _ => linked_iff_admissible

/-- Whatever the pairs, an answer of the search is an admissible selection. -/
theorem chainPathSearch_sound {selection : List MessagePair}
    (h : (chainPathSearch pairsByChannel graph).1 = some selection) :
    selection ∈ selections pairsByChannel ∧ Admissible graph selection := by
  obtain ⟨hsel, hlink⟩ := (chainPathSearch_spec pairsByChannel graph).sound selection h
  exact ⟨hsel, linked_iff_admissible.1 hlink⟩

/-- The pairs of channels over spans with distinct identities agree on their consumers. -/
theorem consumersAgree_of_distinct {spans : SpansByDomain} (h : Distinct TraceSpan.key spans.values)
    (contracts : List TransportChannel) :
    ConsumersAgree (contracts.map fun contract => (channelPairs contract spans).1) := by
  have hmem : ∀ pair ∈ (contracts.map fun contract => (channelPairs contract spans).1).flatten,
      pair.2 ∈ spans.values := by
    intro pair hp
    obtain ⟨_, hl, hp⟩ := List.mem_flatten.1 hp
    obtain ⟨contract, -, rfl⟩ := List.mem_map.1 hl
    exact (mem_selectSpans (channelPair_of_mem hp).consumer_mem).1
  intro a ha b hb hk
  have : a.2 = b.2 := h.eq_of_mem (hmem a ha) (hmem b hb) hk
  simp [this]

/-- So do those over an accepted set of spans. -/
theorem consumersAgree_channelPairs {py : PyOps} {spans : SpansByDomain}
    (h : validateTraceSet py spans = .ok ()) (contracts : List TransportChannel) :
    ConsumersAgree (contracts.map fun contract => (channelPairs contract spans).1) :=
  consumersAgree_of_distinct (validateTraceSet_eq_ok.1 h) contracts

/-! ## The search over arbitrary pair lists -/

/-- The search terminates: its reachability loop never runs out of pending nodes to account for,
and what it caches is reachability. A path it returns is an admissible selection. Where consumers
of one identity agree, it returns a path exactly when there is an admissible selection, and then
the first one. -/
theorem chainPathSearch_correct (pairsByChannel : List (List MessagePair)) (graph : TraceGraph) :
    (∀ source, ∃ cached, closure graph.get graph.fuel [source] [] = some cached ∧
      ∀ a, a ∈ cached ↔ graph.Reaches source a) ∧
    (∀ selection, (chainPathSearch pairsByChannel graph).1 = some selection →
      List.Forall₂ (· ∈ ·) selection pairsByChannel ∧ Admissible graph selection) ∧
    (ConsumersAgree pairsByChannel →
      ((chainPathSearch pairsByChannel graph).1.isSome ↔
        ∃ selection, List.Forall₂ (· ∈ ·) selection pairsByChannel ∧
          Admissible graph selection) ∧
      FirstIn (Admissible graph) (selections pairsByChannel)
        (chainPathSearch pairsByChannel graph).1) := by
  refine ⟨fun source => ?_, fun selection h => ?_, fun h => ⟨?_, chainPathSearch_first h⟩⟩
  · obtain ⟨cached, hc⟩ := graph.closure_isSome source
    exact ⟨cached, hc, mem_closure_iff hc⟩
  · obtain ⟨hsel, hadm⟩ := chainPathSearch_sound h
    exact ⟨mem_selections_iff.1 hsel, hadm⟩
  · rw [(chainPathSearch_first h).isSome_iff]
    simp only [mem_selections_iff]

/-! Two consumers of one identity in different domains: the first one is a dead end, and the memo
then drops the second, from which the next channel continues. -/

/-- A span of one trace that carries one message and links to its causes. -/
def exampleSpan (spanId name domainId : String) (start : ℕ) (causes : List String) : TraceSpan :=
  ⟨"t", spanId, "", name, "run", domainId, some "m", start, start,
    causes.map fun cause => ⟨"t", cause, none⟩, none⟩

private def producer := exampleSpan "p" "send" "a" 1 []

private def nextProducer := exampleSpan "c" "send" "d" 2 []

private def nextConsumer := exampleSpan "e" "receive" "f" 3 []

theorem chainPathSearch_incomplete :
    ¬ ∀ (pairsByChannel : List (List MessagePair)) (graph : TraceGraph),
      (chainPathSearch pairsByChannel graph).1.isSome ↔
        ∃ selection, List.Forall₂ (· ∈ ·) selection pairsByChannel ∧
          Admissible graph selection := by
  intro h
  let pairs : List (List MessagePair) :=
    [[(producer, exampleSpan "c" "receive" "b" 2 []), (producer, nextProducer)],
      [(nextProducer, nextConsumer)]]
  have hnone : (chainPathSearch pairs []).1.isSome = false := by decide
  have hsome := (h pairs []).2 ⟨[(producer, nextProducer), (nextProducer, nextConsumer)],
    by simp [pairs], .cons_cons ⟨rfl, Nat.le_refl _, .refl⟩ (.singleton _)⟩
  rw [hnone] at hsome
  cases hsome

/-- Two channels, the second reached along an edge of the graph. -/
theorem chainPathSearch_correct_two_channels :
    (chainPathSearch [[(producer, exampleSpan "c" "receive" "b" 2 [])],
      [(exampleSpan "q" "send" "b" 3 [], nextConsumer)]] [(("t", "c"), [("t", "q")])]).1.isSome :=
  ((chainPathSearch_correct _ _).2.2 (by decide)).1.2
    ⟨[(producer, exampleSpan "c" "receive" "b" 2 []), (exampleSpan "q" "send" "b" 3 [],
      nextConsumer)], by simp, .cons_cons ⟨rfl, by decide,
        .single (by decide : _ ∈ TraceGraph.get _ _)⟩ (.singleton _)⟩

end RoboticsRuntime.Harness
