import Mathlib.Data.List.Permutation
import RoboticsRuntime.Contracts.ArchiveResults
import RoboticsRuntime.Theory.Loops
import RoboticsRuntime.Theory.Ranking
import RoboticsRuntime.Verify.ArchiveComparison

/-!
# Which result of an archive is the original one

The two results of each domain are found by their digests only: every supplied result is chosen for
one domain and one of the two aggregates, and the order in which artifacts are supplied does not
decide which of them is the original one.
-/

namespace RoboticsRuntime.Contracts
open Theory

variable {ν : Type} {results : List (ResultArtifact ν)} {aggregate first second : AggregateArtifact}
  {aggregates : List AggregateArtifact} {supplied : List (SuppliedResult ν)} {registry : Registry ν}
  {pair : ResultPair ν}

/-! ## Registries -/

/-- The reference that an entry of a registry resolves. -/
def resolvedReference (entry : String × ResultArtifact ν) : DomainReference :=
  ⟨entry.1, entry.2.sha256⟩

/-- A registry resolves the references of its aggregate among the results. -/
structure Resolves (results : List (ResultArtifact ν)) (references : List DomainReference)
    (registry : Registry ν) : Prop where
  references : registry.map resolvedReference = references
  distinct : (registry.map (·.1)).Nodup
  supplied : ∀ entry ∈ registry, entry.2 ∈ results
  domain : ∀ entry ∈ registry, entry.2.document.domainId = entry.1

theorem selectReference_eq_ok {selected selected' : Registry ν} {reference : DomainReference} :
    selectReference results selected reference = .ok selected' ↔
      reference.domainId ∉ selected.map (·.1) ∧
      ∃ artifact, results.find? (·.sha256 = reference.resultSha256) = some artifact ∧
        artifact.document.domainId = reference.domainId ∧
        selected' = selected ++ [(reference.domainId, artifact)] := by
  unfold selectReference
  rw [seq_eq_ok, require_eq_ok, bind_eq_ok]
  refine and_congr_right fun _ => exists_congr fun artifact => ?_
  rw [demand_eq_ok, seq_eq_ok, require_eq_ok]
  exact and_congr_right fun _ => and_congr_right fun _ =>
    ⟨fun h => (Except.ok.inj h).symm, fun h => h ▸ rfl⟩

/-- Each step of the loop resolves one more reference. -/
theorem Resolves.extend {references : List DomainReference} {selected selected' : Registry ν}
    {reference : DomainReference} (hresolves : Resolves results references selected)
    (h : selectReference results selected reference = .ok selected') :
    Resolves results (references ++ [reference]) selected' := by
  obtain ⟨hnew, artifact, hfind, hdomain, rfl⟩ := selectReference_eq_ok.1 h
  have hsha256 : artifact.sha256 = reference.resultSha256 := by
    simpa using List.find?_some hfind
  constructor
  · rw [List.map_append, hresolves.references, List.map_singleton, resolvedReference, hsha256]
  · rw [List.map_append, List.map_singleton]
    exact hresolves.distinct.append (List.nodup_singleton _) (by simpa using hnew)
  · intro entry hentry
    rcases List.mem_append.1 hentry with hentry | hentry
    · exact hresolves.supplied entry hentry
    · cases List.mem_singleton.1 hentry
      exact List.mem_of_find?_eq_some hfind
  · intro entry hentry
    rcases List.mem_append.1 hentry with hentry | hentry
    · exact hresolves.domain entry hentry
    · cases List.mem_singleton.1 hentry
      exact hdomain

theorem resolves_foldlM {references references' : List DomainReference} {selected : Registry ν}
    (hresolves : Resolves results references selected)
    (h : references'.foldlM (selectReference results) selected = .ok registry) :
    Resolves results (references ++ references') registry := by
  induction references' generalizing references selected with
  | nil =>
    cases h
    rwa [List.append_nil]
  | cons reference references' ih =>
    obtain ⟨selected', hfirst, hrest⟩ := bind_eq_ok.1 h
    have := ih (hresolves.extend hfirst) hrest
    rwa [List.append_assoc] at this

theorem aggregateResults_resolves (h : aggregateResults results aggregate = .ok registry) :
    Resolves results aggregate.perDomainResults registry := by
  have hempty : Resolves results [] [] := ⟨rfl, List.nodup_nil, by simp, by simp⟩
  exact resolves_foldlM hempty h

/-- Results are found by their digests, in whatever order they stand. -/
theorem aggregateResults_perm {results' : List (ResultArtifact ν)}
    (hdistinct : Distinct (·.sha256) results) (hperm : results.Perm results')
    (aggregate : AggregateArtifact) :
    aggregateResults results aggregate = aggregateResults results' aggregate := by
  have hselect : selectReference results = selectReference results' := by
    funext selected reference
    unfold selectReference
    rw [find?_key_of_perm hdistinct hperm]
  rw [aggregateResults, hselect, aggregateResults]

/-! ## The one candidate -/

theorem only?_eq_some {α : Type} {l : List α} {a : α} : only? l = some a ↔ l = [a] := by
  match l with
  | [] => simp [only?]
  | [b] => simp [only?]
  | b :: c :: l => simp [only?]

theorem two?_eq_some {α : Type} {l : List α} {a b : α} : two? l = some (a, b) ↔ l = [a, b] := by
  match l with
  | [] => simp [two?]
  | [c] => simp [two?]
  | [c, d] => simp [two?]
  | c :: d :: e :: l => simp [two?]

/-- The two registries of a pair, where only the first one can be that of the originals. -/
structure ChosenFrom (first second : AggregateArtifact × Registry ν) (pair : ResultPair ν) :
    Prop where
  original : isOriginalPair first.2 second.2
  not_reversed : ¬ isOriginalPair second.2 first.2
  eq : pair = ⟨first.1, first.2, second.1, second.2⟩

theorem pairCandidates_eq_singleton {first second : AggregateArtifact × Registry ν} :
    pairCandidates first second = [pair] ↔
      ChosenFrom first second pair ∨ ChosenFrom second first pair := by
  unfold pairCandidates
  by_cases h : isOriginalPair first.2 second.2
  · by_cases h' : isOriginalPair second.2 first.2
    · simp only [h, h', if_true, List.singleton_append, List.cons.injEq, reduceCtorEq, and_false,
        false_iff, not_or]
      exact ⟨fun hchosen => hchosen.not_reversed h', fun hchosen => hchosen.not_reversed h⟩
    · simp only [h, h', if_true, if_false, List.append_nil, List.cons.injEq, and_true]
      constructor
      · exact fun heq => .inl ⟨h, h', heq.symm⟩
      · exact fun hchosen => hchosen.elim (·.eq.symm) fun hchosen => absurd hchosen.original h'
  · by_cases h' : isOriginalPair second.2 first.2
    · simp only [h, h', if_true, if_false, List.nil_append, List.cons.injEq, and_true]
      constructor
      · exact fun heq => .inr ⟨h', h, heq.symm⟩
      · exact fun hchosen => hchosen.elim (fun hchosen => absurd hchosen.original h) (·.eq.symm)
    · simp only [h, h', if_false, List.append_nil, reduceCtorEq, false_iff, not_or]
      exact ⟨fun hchosen => h hchosen.original, fun hchosen => h' hchosen.original⟩

/-- What the checks of a candidate establish. -/
structure Checked (results : List (ResultArtifact ν)) (pair : ResultPair ν) : Prop where
  schema : ∀ entry ∈ pair.originals, entry.2.document.schemaName = "acceptance-result.v2"
  length : pair.selected.length = results.length
  distinct : Distinct (·.sha256) pair.selected

theorem checkPair_eq_ok {pair' : ResultPair ν} :
    checkPair results pair = .ok pair' ↔ Checked results pair ∧ pair = pair' := by
  unfold checkPair
  rw [seq_eq_ok, require_eq_ok, seq_eq_ok, require_eq_ok]
  constructor
  · rintro ⟨hschema, ⟨hlength, hdistinct⟩, h⟩
    exact ⟨⟨hschema, hlength, hdistinct⟩, Except.ok.inj h⟩
  · rintro ⟨⟨hschema, hlength, hdistinct⟩, rfl⟩
    exact ⟨hschema, ⟨hlength, hdistinct⟩, rfl⟩

theorem choosePair_eq_ok : choosePair results first second = .ok pair ↔
    ∃ registry registry', aggregateResults results first = .ok registry ∧
      aggregateResults results second = .ok registry' ∧
      (ChosenFrom (first, registry) (second, registry') pair ∨
        ChosenFrom (second, registry') (first, registry) pair) ∧ Checked results pair := by
  unfold choosePair
  rw [bind_eq_ok]
  refine exists_congr fun registry => ?_
  rw [bind_eq_ok, ← exists_and_left]
  refine exists_congr fun registry' => and_congr_right fun _ => and_congr_right fun _ => ?_
  rw [bind_eq_ok]
  constructor
  · rintro ⟨candidate, hcandidate, hcheck⟩
    obtain ⟨hchecked, rfl⟩ := checkPair_eq_ok.1 hcheck
    rw [demand_eq_ok, only?_eq_some, pairCandidates_eq_singleton] at hcandidate
    exact ⟨hcandidate, hchecked⟩
  · rintro ⟨hcandidate, hchecked⟩
    refine ⟨pair, ?_, checkPair_eq_ok.2 ⟨hchecked, rfl⟩⟩
    rwa [demand_eq_ok, only?_eq_some, pairCandidates_eq_singleton]

/-- The position of an aggregate does not make it the original one. -/
theorem choosePair_swap (h : choosePair results first second = .ok pair) :
    choosePair results second first = .ok pair := by
  obtain ⟨registry, registry', hfirst, hsecond, hchosen, hchecked⟩ := choosePair_eq_ok.1 h
  exact choosePair_eq_ok.2 ⟨registry', registry, hsecond, hfirst, hchosen.symm, hchecked⟩

theorem nativeArtifact_eq_ok {result : SuppliedResult ν} {artifact : ResultArtifact ν} :
    nativeArtifact result = .ok artifact ↔ result = .native artifact := by
  cases result <;> simp [nativeArtifact]

theorem resultPair_eq_ok : resultPair aggregates supplied = .ok pair ↔
    ∃ results first second, supplied.mapM nativeArtifact = .ok results ∧
      Distinct (·.sha256) results ∧ aggregates = [first, second] ∧
      choosePair results first second = .ok pair := by
  unfold resultPair
  rw [bind_eq_ok]
  refine exists_congr fun results => ?_
  rw [seq_eq_ok, require_eq_ok, bind_eq_ok]
  simp only [Prod.exists, demand_eq_ok, two?_eq_some, exists_and_left]

/-! ## The pair of an archive -/

/-- The pair of an archive does not depend on the order of its aggregates and results. -/
theorem resultPair_perm {aggregates' : List AggregateArtifact} {supplied' : List (SuppliedResult ν)}
    (haggregates : aggregates.Perm aggregates') (hsupplied : supplied.Perm supplied')
    (h : resultPair aggregates supplied = .ok pair) :
    resultPair aggregates' supplied' = .ok pair := by
  obtain ⟨results, first, second, hresults, hdistinct, rfl, hchosen⟩ := resultPair_eq_ok.1 h
  obtain ⟨results', hresults', hperm⟩ :=
    List.perm_comp_forall₂ hsupplied.symm (mapM_eq_ok.1 hresults)
  have hchosen' : choosePair results' first second = .ok pair := by
    obtain ⟨registry, registry', hfirst, hsecond, hpair, hchecked⟩ := choosePair_eq_ok.1 hchosen
    rw [aggregateResults_perm hdistinct hperm.symm] at hfirst hsecond
    exact choosePair_eq_ok.2 ⟨registry, registry', hfirst, hsecond, hpair, hchecked.schema,
      hchecked.length.trans hperm.length_eq.symm, hchecked.distinct⟩
  have hdistinct' : Distinct (·.sha256) results' := (hperm.map _).nodup_iff.2 hdistinct
  refine resultPair_eq_ok.2 ?_
  rcases List.perm_pair.1 haggregates.symm with rfl | rfl
  · exact ⟨results', first, second, mapM_eq_ok.2 hresults', hdistinct', rfl, hchosen'⟩
  · exact ⟨results', second, first, mapM_eq_ok.2 hresults', hdistinct', rfl,
      choosePair_swap hchosen'⟩

/-- The assessment of a domain is a result of its own that names the original one. -/
structure Reassessed (pair : ResultPair ν) (domain : String) (original : ResultArtifact ν) :
    Prop where
  schema : original.document.schemaName = "acceptance-result.v2"
  ofDomain : original.document.domainId = domain
  assessed : ∃ assessment, pair.assessments.lookup domain = some assessment ∧
    assessment.document.domainId = domain ∧ assessment.sha256 ≠ original.sha256 ∧
    assessment.document.originalExecution.originalResultSha256 = some original.sha256

/-- The registries of a pair are those of its aggregates. -/
structure PairResolves (results : List (ResultArtifact ν)) (pair : ResultPair ν) : Prop where
  originals : Resolves results pair.originalAggregate.perDomainResults pair.originals
  assessments : Resolves results pair.aggregate.perDomainResults pair.assessments
  original : isOriginalPair pair.originals pair.assessments
  not_reversed : ¬ isOriginalPair pair.assessments pair.originals

theorem choosePair_resolves (h : choosePair results first second = .ok pair) :
    PairResolves results pair ∧
      [pair.originalAggregate, pair.aggregate].Perm [first, second] := by
  obtain ⟨registry, registry', hfirst, hsecond, hchosen, -⟩ := choosePair_eq_ok.1 h
  have hresolves := aggregateResults_resolves hfirst
  have hresolves' := aggregateResults_resolves hsecond
  rcases hchosen with ⟨horiginal, hnot, rfl⟩ | ⟨horiginal, hnot, rfl⟩
  · exact ⟨⟨hresolves, hresolves', horiginal, hnot⟩, .refl _⟩
  · exact ⟨⟨hresolves', hresolves, horiginal, hnot⟩, .swap _ _ _⟩

/-- As many distinct results as there are, chosen among them, are all of them. -/
theorem selected_perm (hresolves : PairResolves results pair) (hchecked : Checked results pair) :
    pair.selected.Perm results := by
  have hnodup : pair.selected.Nodup := hchecked.distinct.of_map _
  have hsubset : pair.selected ⊆ results := by
    intro artifact hartifact
    rcases List.mem_append.1 hartifact with hartifact | hartifact
    · obtain ⟨entry, hentry, rfl⟩ := List.mem_map.1 hartifact
      exact hresolves.originals.supplied entry hentry
    · obtain ⟨entry, hentry, rfl⟩ := List.mem_map.1 hartifact
      exact hresolves.assessments.supplied entry hentry
  exact (List.subperm_of_subset hnodup hsubset).perm_of_length_le hchecked.length.ge

theorem reassessed (hresolves : PairResolves results pair) (hchecked : Checked results pair)
    {entry : String × ResultArtifact ν} (hentry : entry ∈ pair.originals) :
    Reassessed pair entry.1 entry.2 := by
  have hassessed := hresolves.original.2.2 entry hentry
  obtain ⟨assessment, hlookup, hsha256⟩ : ∃ assessment,
      pair.assessments.lookup entry.1 = some assessment ∧
        decide (assessment.document.originalExecution.originalResultSha256 =
          some entry.2.sha256) = true := by
    cases hlookup : pair.assessments.lookup entry.1 with
    | none =>
      rw [hlookup] at hassessed
      cases hassessed
    | some assessment =>
      rw [hlookup] at hassessed
      exact ⟨assessment, rfl, hassessed⟩
  have hmem := mem_of_lookup hlookup
  refine ⟨hchecked.schema entry hentry, hresolves.originals.domain entry hentry, assessment,
    hlookup, hresolves.assessments.domain _ hmem, fun hsame => ?_, of_decide_eq_true hsha256⟩
  have hnodup := hchecked.distinct
  rw [Distinct, ResultPair.selected, List.map_append] at hnodup
  have hdisjoint := (List.nodup_append.1 hnodup).2.2
  exact hdisjoint _ (List.mem_map_of_mem (List.mem_map_of_mem hentry)) _
    (List.mem_map_of_mem (List.mem_map_of_mem hmem)) hsame.symm

/-- A pair that an archive identifies uses every supplied result once: each domain has an original
result and an assessment of it, and no other reading of the two aggregates is possible. -/
theorem resultPair_partition (h : resultPair aggregates supplied = .ok pair) :
    [pair.originalAggregate, pair.aggregate].Perm aggregates ∧
      (pair.selected.map SuppliedResult.native).Perm supplied ∧
      pair.originals.map resolvedReference = pair.originalAggregate.perDomainResults ∧
      pair.assessments.map resolvedReference = pair.aggregate.perDomainResults ∧
      (pair.originals.map (·.1)).Perm (pair.assessments.map (·.1)) ∧
      (∀ entry ∈ pair.originals, Reassessed pair entry.1 entry.2) ∧
      ¬ isOriginalPair pair.assessments pair.originals := by
  obtain ⟨results, first, second, hresults, -, rfl, hchosen⟩ := resultPair_eq_ok.1 h
  obtain ⟨hresolves, haggregates⟩ := choosePair_resolves hchosen
  obtain ⟨registry, registry', -, -, -, hchecked⟩ := choosePair_eq_ok.1 hchosen
  have hsupplied : supplied = results.map .native := by
    have hnative : List.Forall₂ (fun result artifact => result = .native artifact) supplied
        results := (mapM_eq_ok.1 hresults).imp fun _ _ => nativeArtifact_eq_ok.1
    exact List.forall₂_eq_eq_eq ▸ List.forall₂_map_right_iff.2 hnative
  refine ⟨haggregates, hsupplied ▸ (selected_perm hresolves hchecked).map _,
    hresolves.originals.references, hresolves.assessments.references, ?_,
    fun entry hentry => reassessed hresolves hchecked hentry, hresolves.not_reversed⟩
  refine (List.perm_ext_iff_of_nodup hresolves.originals.distinct
    hresolves.assessments.distinct).2 fun domain => ⟨fun hdomain => ?_, fun hdomain => ?_⟩
  · obtain ⟨entry, hentry, rfl⟩ := List.mem_map.1 hdomain
    exact hresolves.original.1 entry hentry
  · obtain ⟨entry, hentry, rfl⟩ := List.mem_map.1 hdomain
    exact hresolves.original.2.1 entry hentry

/-! ## The archive of the lab -/

/-- The first result of the lab. -/
def labOriginal : ResultArtifact Unit := ⟨"original-result", "aa", labResult .passed⟩

/-- The assessment that names it. -/
def labAssessment : ResultArtifact Unit where
  subjectName := "assessment-result"
  sha256 := "bb"
  document := { labResult .failed with
    originalExecution := { (labResult .failed).originalExecution with
      originalResultSha256 := some "aa" } }

/-- The aggregate of one of the results. -/
def labAggregate (subjectName resultSha256 : String) : AggregateArtifact :=
  ⟨subjectName, subjectName ++ "-sha256", [⟨Harness.labInputs.domainId, resultSha256⟩]⟩

def labPair : Except QualificationError (ResultPair Unit) :=
  resultPair [labAggregate "original" "aa", labAggregate "assessment" "bb"]
    [.native labOriginal, .native labAssessment]

theorem exists_labPair :
    ∃ pair, labPair = .ok pair ∧ pair.originalAggregate.subjectName = "original" := by
  have h : (labPair.toOption.any fun pair =>
      decide (pair.originalAggregate.subjectName = "original")) = true := by
    decide +kernel
  obtain ⟨pair, h, hname⟩ := exists_ok_of_any h
  exact ⟨pair, h, of_decide_eq_true hname⟩

/-- The lab supplies its assessment first. -/
theorem resultPair_perm_lab : ∃ pair,
    resultPair [labAggregate "assessment" "bb", labAggregate "original" "aa"]
        [.native labAssessment, .native labOriginal] = .ok pair ∧
      pair.originalAggregate.subjectName = "original" := by
  obtain ⟨pair, h, hname⟩ := exists_labPair
  exact ⟨pair, resultPair_perm (.swap _ _ _) (.swap _ _ _) h, hname⟩

theorem resultPair_partition_lab : ∃ pair, labPair = .ok pair ∧
    (pair.selected.map SuppliedResult.native).Perm
      [.native labOriginal, .native labAssessment] := by
  obtain ⟨pair, h, -⟩ := exists_labPair
  exact ⟨pair, h, (resultPair_partition h).2.1⟩

end RoboticsRuntime.Contracts
