import RoboticsRuntime.Theory.Selection
import RoboticsRuntime.Theory.Worklist
import RoboticsRuntime.Harness.Traces.Spans

/-!
# The search for a causal path

`_trace_graph` and `_ChainPathSearch`. The search object's attributes are the fields of
`SearchState`, threaded through the recursion over the remaining channels: the reachability cache,
the memo of dead ends and the diagnosis of the failure.
-/

namespace RoboticsRuntime.Harness
open Theory Contracts

/-! ## The trace graph -/

/-- A trace graph: each span identity with its causal successors. -/
abbrev TraceGraph := List (SpanKey × List SpanKey)

namespace TraceGraph
variable (graph : TraceGraph)

/-- `graph.get(node, ())`. -/
def get (node : SpanKey) : List SpanKey := (List.lookup node graph).getD []

/-- The number of edges, and the node the search starts from. -/
def fuel : ℕ := 1 + openEdges graph.get (graph.map (·.1)) []

/-- `target` is reachable from `source`. -/
def Reaches (source target : SpanKey) : Prop :=
  Relation.ReflTransGen (Edge graph.get) source target

theorem get_eq_nil {node : SpanKey} (h : node ∉ graph.map (·.1)) : graph.get node = [] := by
  have : List.lookup node graph = none := by
    refine List.lookup_eq_none_iff.2 fun p hp => ?_
    simpa using fun he => h (List.mem_map.2 ⟨p, hp, he.symm⟩)
  simp [get, this]

/-- The reachability loop stops, on cyclic graphs as well. -/
theorem closure_isSome (source : SpanKey) :
    ∃ r, closure graph.get graph.fuel [source] [] = some r :=
  Theory.closure_isSome (fun _ => graph.get_eq_nil) (Nat.le_refl _)

end TraceGraph

/-- `known_spans[key]`: of two spans with one identity the later one. -/
def knownSpan (spans : SpansByDomain) (key : SpanKey) : Option TraceSpan :=
  spans.values.reverse.find? fun span => span.key = key

/-- The causal predecessors a span names: its parent and its links. -/
def TraceSpan.causes (span : TraceSpan) : List SpanKey :=
  (if span.parentSpanId = "" then [] else [(span.traceId, span.parentSpanId)]) ++
    span.links.map fun link => (link.traceId, link.spanId)

/-- The edges into a span, from the known spans among its causes that do not start after it. -/
def edgesInto (spans : SpansByDomain) (span : TraceSpan) : List (SpanKey × SpanKey) :=
  (span.causes.filter fun cause =>
    match knownSpan spans cause with
    | some source => source.startTimeUnixNano ≤ span.startTimeUnixNano
    | none => false).map (·, span.key)

/-- `_trace_graph`. -/
def traceGraph (spans : SpansByDomain) : TraceGraph :=
  let edges := spans.values.flatMap (edgesInto spans)
  spans.values.map fun span =>
    (span.key, (edges.filter fun edge => edge.1 = span.key).map (·.2))

/-- The successors of a known span are the spans with an edge from it. -/
theorem mem_traceGraph_get {spans : SpansByDomain} {source : TraceSpan}
    (hs : source ∈ spans.values) {target : SpanKey} :
    target ∈ (traceGraph spans).get source.key ↔
      (source.key, target) ∈ spans.values.flatMap (edgesInto spans) := by
  have hlookup : ∀ values : List TraceSpan, source ∈ values →
      List.lookup source.key (values.map fun span => (span.key,
        ((spans.values.flatMap (edgesInto spans)).filter fun edge => edge.1 = span.key).map
          (·.2))) = some (((spans.values.flatMap (edgesInto spans)).filter
            fun edge => edge.1 = source.key).map (·.2)) := by
    intro values hm
    induction values with
    | nil => cases hm
    | cons span values ih =>
      rw [List.map_cons, List.lookup_cons]
      by_cases he : source.key = span.key
      · simp [he]
      · have hne : span ≠ source := fun h => he (h ▸ rfl)
        rw [beq_eq_false_iff_ne.2 he]
        exact ih ((List.mem_cons.1 hm).resolve_left hne.symm)
  simp only [TraceGraph.get, traceGraph, hlookup _ hs, Option.getD_some, List.mem_map,
    List.mem_filter, decide_eq_true_eq]
  constructor
  · rintro ⟨⟨a, b⟩, ⟨hm, rfl⟩, rfl⟩
    exact hm
  · exact fun hm => ⟨_, ⟨hm, rfl⟩, rfl⟩

/-- Where no identity appears twice, a known span is the one with its identity. -/
theorem knownSpan_key {spans : SpansByDomain} (hset : Distinct TraceSpan.key spans.values)
    {source : TraceSpan} (hs : source ∈ spans.values) :
    knownSpan spans source.key = some source := by
  have hd : Distinct TraceSpan.key spans.values.reverse := by
    rw [Distinct, List.map_reverse, List.nodup_reverse]
    exact hset
  exact hd.find?_eq (List.mem_reverse.2 hs)

/-- A span that does not start before a known cause of it is a successor of that cause. -/
theorem reaches_of_cause {spans : SpansByDomain} (hset : Distinct TraceSpan.key spans.values)
    {source span : TraceSpan} (hs : source ∈ spans.values) (hm : span ∈ spans.values)
    (hc : source.key ∈ span.causes) (ht : source.startTimeUnixNano ≤ span.startTimeUnixNano) :
    (traceGraph spans).Reaches source.key span.key := by
  have hknown := knownSpan_key hset hs
  refine .single ((mem_traceGraph_get hs).2 (List.mem_flatMap.2 ⟨span, hm, ?_⟩))
  refine List.mem_map.2 ⟨source.key, List.mem_filter.2 ⟨hc, ?_⟩, rfl⟩
  simpa only [hknown, decide_eq_true_eq] using ht

/-- An edge runs from a known cause of a span to the span, which does not start before it. -/
theorem exists_cause_of_edge {spans : SpansByDomain} (hset : Distinct TraceSpan.key spans.values)
    {a b : SpanKey} (h : Edge (traceGraph spans).get a b) :
    ∃ source ∈ spans.values, ∃ span ∈ spans.values, source.key = a ∧ span.key = b ∧
      source.key ∈ span.causes ∧ source.startTimeUnixNano ≤ span.startTimeUnixNano := by
  have hknown : a ∈ (traceGraph spans).map (·.1) := by
    by_contra hc
    rw [Edge, TraceGraph.get_eq_nil _ hc] at h
    cases h
  rw [traceGraph, List.map_map] at hknown
  obtain ⟨source, hs, rfl⟩ := List.mem_map.1 hknown
  obtain ⟨span, hm, hedge⟩ := List.mem_flatMap.1 ((mem_traceGraph_get hs).1 h)
  obtain ⟨cause, hc, he⟩ := List.mem_map.1 hedge
  obtain ⟨rfl, rfl⟩ := Prod.mk.inj he
  obtain ⟨hc, hstarts⟩ := List.mem_filter.1 hc
  simp only [knownSpan_key hset hs, decide_eq_true_eq] at hc hstarts
  exact ⟨source, hs, span, hm, rfl, rfl, hc, hstarts⟩

/-! ## The search -/

/-- The attributes of `_ChainPathSearch` that change. -/
structure SearchState where
  descendants : List (SpanKey × List SpanKey)
  deadEnds : List (ℕ × SpanKey)
  failedIndex : ℕ
  sawEarlierProducer : Bool
  deriving Repr

/-- `__init__`. -/
def SearchState.initial : SearchState := ⟨[], [], 0, false⟩

/-- `_reachable_from`. -/
def reachableFrom (graph : TraceGraph) (source : SpanKey) (s : SearchState) :
    List SpanKey × SearchState :=
  match s.descendants.lookup source with
  | some cached => (cached, s)
  | none =>
    let cached := (closure graph.get graph.fuel [source] []).getD []
    (cached, { s with descendants := (source, cached) :: s.descendants })

/-- `_candidates`. -/
def candidates (graph : TraceGraph) (pairs : List MessagePair) (previous : Option TraceSpan)
    (s : SearchState) : (List MessagePair × Bool) × SearchState :=
  match previous with
  | none => ((pairs, false), s)
  | some previous =>
    let (descendants, s) := reachableFrom graph previous.key s
    let sameDomain := pairs.filter fun pair => pair.1.domainId = previous.domainId
    let earlier := sameDomain.any fun pair =>
      pair.1.startTimeUnixNano < previous.startTimeUnixNano
    ((sameDomain.filter fun pair =>
      previous.startTimeUnixNano ≤ pair.1.startTimeUnixNano && pair.1.key ∈ descendants,
      earlier), s)

/-- `_record_failure`. -/
def recordFailure (index : ℕ) (earlier : Bool) (s : SearchState) : SearchState :=
  if s.failedIndex < index then { s with failedIndex := index, sawEarlierProducer := earlier }
  else if index = s.failedIndex then
    { s with sawEarlierProducer := s.sawEarlierProducer || earlier }
  else s

/-- The loop over the candidates of a channel. -/
def tryCandidates (search : TraceSpan → SearchState → Option (List MessagePair) × SearchState) :
    List MessagePair → SearchState → Option (List MessagePair) × SearchState
  | [], s => (none, s)
  | (producer, consumer) :: more, s =>
    match search consumer s with
    | (some rest, s) => (some ((producer, consumer) :: rest), s)
    | (none, s) => tryCandidates search more s

/-- `path`, on the pair lists of the channels from `index` on. -/
def path (graph : TraceGraph) : List (List MessagePair) → ℕ → Option TraceSpan → SearchState →
    Option (List MessagePair) × SearchState
  | [], _, _, s => (some [], s)
  | pairs :: rest, index, previous, s =>
    let memo := previous.map fun span => (index, span.key)
    if memo.any fun m => m ∈ s.deadEnds then (none, s)
    else
      let found := candidates graph pairs previous s
      match tryCandidates (fun consumer => path graph rest (index + 1) (some consumer))
        found.1.1 found.2 with
      | (some hops, s) => (some hops, s)
      | (none, s) =>
        (none, recordFailure index found.1.2 { s with deadEnds := memo.toList ++ s.deadEnds })

/-- `_ChainPathSearch(pairs_by_channel, graph).path()` with the state it leaves behind. -/
def chainPathSearch (pairsByChannel : List (List MessagePair)) (graph : TraceGraph) :
    Option (List MessagePair) × SearchState :=
  path graph pairsByChannel 0 none .initial

/-! ## What the search decides -/

/-- A pair may continue from the consumer before it: its producer is in the same domain, starts no
earlier and is reachable in the graph. -/
def Continues (graph : TraceGraph) (previous : TraceSpan) (pair : MessagePair) : Prop :=
  pair.1.domainId = previous.domainId ∧
    previous.startTimeUnixNano ≤ pair.1.startTimeUnixNano ∧
    graph.Reaches previous.key pair.1.key

/-- A selection of pairs in which every producer continues from the consumer before it. -/
def Admissible (graph : TraceGraph) (selection : List MessagePair) : Prop :=
  selection.IsChain fun a b => Continues graph a.2 b

/-- Consumers with one identity agree on the domain and the start. Every set of spans that
`validate_trace_set` accepts has this property. -/
def ConsumersAgree (pairsByChannel : List (List MessagePair)) : Prop :=
  ∀ a ∈ pairsByChannel.flatten, ∀ b ∈ pairsByChannel.flatten, a.2.key = b.2.key →
    a.2.domainId = b.2.domainId ∧ a.2.startTimeUnixNano = b.2.startTimeUnixNano

instance (pairsByChannel : List (List MessagePair)) : Decidable (ConsumersAgree pairsByChannel) :=
  inferInstanceAs (Decidable (∀ _ ∈ _, _))

/-- The invariant of the search state: cached descendants are reachability, and below a recorded
dead end no selection is linked, whichever consumer of that identity comes before it. -/
structure SearchInv (graph : TraceGraph) (layers : List (List MessagePair)) (s : SearchState) :
    Prop where
  descendants : ∀ source cached, s.descendants.lookup source = some cached →
    ∀ a, a ∈ cached ↔ graph.Reaches source a
  deadEnds : ConsumersAgree layers → ∀ index key, (index, key) ∈ s.deadEnds →
    ∀ pair ∈ layers.flatten, pair.2.key = key →
      FirstIn (Linked (Continues graph) Prod.snd (some pair.2)) (selections (layers.drop index))
        none

namespace SearchInv
variable {graph : TraceGraph} {layers : List (List MessagePair)} {s : SearchState}

theorem initial : SearchInv graph layers .initial :=
  ⟨fun _ _ h => (nomatch h), fun _ _ _ h => (nomatch h)⟩

theorem recordFailure (h : SearchInv graph layers s) (index : ℕ) (earlier : Bool) :
    SearchInv graph layers (recordFailure index earlier s) := by
  unfold Harness.recordFailure
  split
  · exact ⟨h.descendants, h.deadEnds⟩
  split
  · exact ⟨h.descendants, h.deadEnds⟩
  · exact h

theorem reachableFrom (h : SearchInv graph layers s) (source : SpanKey) :
    SearchInv graph layers (reachableFrom graph source s).2 ∧
      ∀ a, a ∈ (Harness.reachableFrom graph source s).1 ↔ graph.Reaches source a := by
  unfold Harness.reachableFrom
  cases hl : s.descendants.lookup source with
  | some cached => exact ⟨h, h.descendants source cached hl⟩
  | none =>
    obtain ⟨r, hr⟩ := graph.closure_isSome source
    have hmem := mem_closure_iff hr
    simp only [hr, Option.getD_some]
    refine ⟨⟨fun source' cached hc => ?_, h.deadEnds⟩, hmem⟩
    rw [List.lookup_cons] at hc
    split at hc
    · next he =>
      cases hc
      rw [eq_of_beq he]
      exact hmem
    · exact h.descendants source' cached hc

/-- The candidates of a channel are its pairs that may follow, in their order. -/
theorem candidates (h : SearchInv graph layers s) (pairs : List MessagePair)
    (previous : Option TraceSpan) :
    SearchInv graph layers (candidates graph pairs previous s).2 ∧
      ∃ p : MessagePair → Bool, (Harness.candidates graph pairs previous s).1.1 = pairs.filter p ∧
        ∀ a ∈ pairs, p a = true ↔ MayFollow (Continues graph) previous a := by
  cases previous with
  | none => exact ⟨h, fun _ => true, by simp [Harness.candidates], fun _ _ => by simp [MayFollow]⟩
  | some previous =>
    obtain ⟨h', hmem⟩ := h.reachableFrom previous.key
    refine ⟨h', fun pair => (previous.startTimeUnixNano ≤ pair.1.startTimeUnixNano &&
      pair.1.key ∈ (Harness.reachableFrom graph previous.key s).1) &&
        pair.1.domainId = previous.domainId, List.filter_filter, fun a _ => ?_⟩
    simp only [Bool.and_eq_true, decide_eq_true_eq, hmem, MayFollow, Continues]
    exact and_comm

end SearchInv

/-! ### The recursion -/

/-- What a call of the search below `previous` guarantees. -/
structure PathSpec (graph : TraceGraph) (layers rest : List (List MessagePair))
    (previous : Option TraceSpan) (o : Option (List MessagePair) × SearchState) : Prop where
  inv : SearchInv graph layers o.2
  sound : ∀ selection, o.1 = some selection →
    selection ∈ selections rest ∧ Linked (Continues graph) Prod.snd previous selection
  first : ConsumersAgree layers →
    FirstIn (Linked (Continues graph) Prod.snd previous) (selections rest) o.1

section
variable {graph : TraceGraph} {layers rest : List (List MessagePair)}

theorem tryCandidates_spec {previous : Option TraceSpan}
    {search : TraceSpan → SearchState → Option (List MessagePair) × SearchState}
    (hsearch : ∀ pair ∈ layers.flatten, ∀ s, SearchInv graph layers s →
      PathSpec graph layers rest (some pair.2) (search pair.2 s)) :
    ∀ {pairs : List MessagePair}, (∀ pair ∈ pairs, pair ∈ layers.flatten) →
      (∀ pair ∈ pairs, MayFollow (Continues graph) previous pair) →
      ∀ {s}, SearchInv graph layers s →
        PathSpec graph layers (pairs :: rest) previous (tryCandidates search pairs s) := by
  intro pairs
  induction pairs with
  | nil => exact fun _ _ _ h => ⟨h, fun _ h => (nomatch h), fun _ => firstIn_nil⟩
  | cons pair more ih =>
    obtain ⟨producer, consumer⟩ := pair
    intro hmem hfollow s h
    have hp := hmem _ List.mem_cons_self
    have hf := hfollow _ List.mem_cons_self
    have spec := hsearch _ hp s h
    unfold tryCandidates
    cases hs : search consumer s with
    | mk o s' =>
      rw [hs] at spec
      cases o with
      | some found =>
        obtain ⟨hsel, hlink⟩ := spec.sound found rfl
        refine ⟨spec.inv, fun selection he => ?_, fun ha => firstIn_found hf (spec.first ha)⟩
        cases he
        exact ⟨mem_selections_cons.2 ⟨_, List.mem_cons_self, _, hsel, rfl⟩, hf, hlink⟩
      | none =>
        have rest := ih (fun p hp => hmem p (List.mem_cons_of_mem _ hp))
          (fun p hp => hfollow p (List.mem_cons_of_mem _ hp)) spec.inv
        refine ⟨rest.inv, fun selection he => ?_,
          fun ha => firstIn_dead (.inr (spec.first ha)) (rest.first ha)⟩
        obtain ⟨hsel, hlink⟩ := rest.sound selection he
        obtain ⟨a, ha, y, hy, rfl⟩ := mem_selections_cons.1 hsel
        exact ⟨mem_selections_cons.2 ⟨a, List.mem_cons_of_mem _ ha, y, hy, rfl⟩, hlink⟩

/-- One consumer of an identity speaks for all of them. -/
theorem ConsumersAgree.continues_iff (ha : ConsumersAgree layers) {a b : MessagePair}
    (hma : a ∈ layers.flatten) (hmb : b ∈ layers.flatten) (hk : a.2.key = b.2.key)
    (pair : MessagePair) : Continues graph a.2 pair ↔ Continues graph b.2 pair := by
  obtain ⟨hd, ht⟩ := ha a hma b hmb hk
  simp only [Continues, hd, ht, hk]

/-- A failed channel is recorded as a dead end: below every consumer of the memoised identity the
search has no answer. -/
theorem SearchInv.record {index : ℕ} {previous : Option TraceSpan} {s : SearchState}
    {earlier : Bool} (h : SearchInv graph layers s)
    (hprev : ∀ span ∈ previous, ∃ pair ∈ layers.flatten, pair.2 = span)
    (hdead : ConsumersAgree layers →
      FirstIn (Linked (Continues graph) Prod.snd previous) (selections (layers.drop index)) none) :
    SearchInv graph layers (Harness.recordFailure index earlier
      { s with
        deadEnds := (previous.map fun span => (index, span.key)).toList ++ s.deadEnds }) := by
  suffices hmemo : SearchInv graph layers { s with
      deadEnds := (previous.map fun span => (index, span.key)).toList ++ s.deadEnds } from
    hmemo.recordFailure index earlier
  refine ⟨h.descendants, fun ha index' key hk pair hp he => ?_⟩
  rcases List.mem_append.1 hk with hk | hk
  · cases previous with
    | none => simp at hk
    | some span =>
      obtain ⟨pair', hp', rfl⟩ := hprev span rfl
      simp only [Option.map_some, Option.toList_some, List.mem_singleton, Prod.mk.injEq] at hk
      obtain ⟨rfl, rfl⟩ := hk
      refine (hdead ha).congr fun x _ => ?_
      exact linked_congr (fun a => ha.continues_iff hp' hp he.symm a) x
  · exact h.deadEnds ha index' key hk pair hp he

theorem path_spec : ∀ {rest : List (List MessagePair)} {index : ℕ} {previous : Option TraceSpan}
    {s : SearchState}, layers.drop index = rest →
      (∀ span ∈ previous, ∃ pair ∈ layers.flatten, pair.2 = span) → SearchInv graph layers s →
        PathSpec graph layers rest previous (path graph rest index previous s) := by
  intro rest
  induction rest with
  | nil =>
    intro index previous s _ _ h
    refine ⟨h, fun selection he => ?_, fun _ => ⟨[], [], rfl, trivial, by simp⟩⟩
    cases he
    exact ⟨by simp [selections], trivial⟩
  | cons pairs rest ih =>
    intro index previous s hdrop hprev h
    have hpairs : ∀ pair ∈ pairs, pair ∈ layers.flatten := fun pair hp =>
      List.mem_flatten.2 ⟨pairs, List.mem_of_mem_drop (hdrop ▸ List.mem_cons_self), hp⟩
    have hrest : layers.drop (index + 1) = rest := by
      rw [← List.drop_drop, hdrop]; rfl
    unfold path
    dsimp only
    split
    · -- the memo says that the channel is a dead end after this consumer
      next hmemo =>
      refine ⟨h, by simp, fun ha => ?_⟩
      cases previous with
      | none => simp at hmemo
      | some span =>
        obtain ⟨pair, hp, rfl⟩ := hprev span rfl
        have hdead : (index, pair.2.key) ∈ s.deadEnds := by simpa using hmemo
        rw [← hdrop]
        exact h.deadEnds ha index _ hdead pair hp rfl
    · obtain ⟨hinv, p, hfilter, hp⟩ := h.candidates pairs previous
      have hsearch : ∀ pair ∈ layers.flatten, ∀ s, SearchInv graph layers s →
          PathSpec graph layers rest (some pair.2) (path graph rest (index + 1) (some pair.2) s) :=
        fun pair hm s hs => ih hrest (fun _ he => ⟨pair, hm, Option.some.inj he⟩) hs
      have spec : PathSpec graph layers (pairs.filter p :: rest) previous
          (tryCandidates (fun consumer => path graph rest (index + 1) (some consumer))
            (candidates graph pairs previous s).1.1 (candidates graph pairs previous s).2) := by
        rw [hfilter]
        refine tryCandidates_spec hsearch (fun pair hm => hpairs pair (List.mem_of_mem_filter hm))
          (fun pair hm => ?_) hinv
        obtain ⟨hm, hpm⟩ := List.mem_filter.1 hm
        exact (hp pair hm).1 hpm
      have hfirst := fun ha => firstIn_filter hp (spec.first ha)
      split
      · next found s' hr =>
        rw [hr] at spec hfirst
        refine ⟨spec.inv, fun selection he => ?_, hfirst⟩
        obtain ⟨hsel, hlink⟩ := spec.sound selection he
        obtain ⟨a, ha, y, hy, rfl⟩ := mem_selections_cons.1 hsel
        exact ⟨mem_selections_cons.2 ⟨a, List.mem_of_mem_filter ha, y, hy, rfl⟩, hlink⟩
      · next s' hr =>
        rw [hr] at spec hfirst
        exact ⟨spec.inv.record hprev (by rwa [hdrop]), by simp, hfirst⟩

/-- The search started on all channels. -/
theorem chainPathSearch_spec (pairsByChannel : List (List MessagePair)) (graph : TraceGraph) :
    PathSpec graph pairsByChannel pairsByChannel none (chainPathSearch pairsByChannel graph) :=
  path_spec rfl (fun _ h => (nomatch h)) .initial

end

end RoboticsRuntime.Harness
