import RoboticsRuntime.Harness.Otel

/-!
# Framing of newline-delimited JSON

Texts that are joined with line feeds come back from the framing of emissions, which splits the bytes
at line feeds. The OTLP reader splits the decoded text at every line boundary of Unicode, of which
JSON permits some inside strings.
-/

namespace RoboticsRuntime.Harness
open Theory Python

/-- The file that holds texts joined with line feeds, as it is read when it stays as it is. -/
def joinedFile (texts : List String) (mtimeNs ctimeNs : ℤ) : EvidenceRead :=
  let payload := ("\n".intercalate texts).toUTF8
  ⟨⟨payload.size, mtimeNs, ctimeNs⟩, payload, ⟨payload.size, mtimeNs, ctimeNs⟩⟩

theorem fromUTF8?_toUTF8 (text : String) : String.fromUTF8? text.toUTF8 = some text := by
  rw [String.toUTF8_eq_toByteArray, String.fromUTF8?, dif_pos text.isValidUTF8]
  rfl

/-- The lines of the file, when neither its size nor its digest is objected to. -/
theorem readOtlpJsonLines_joinedFile (ops : OtlpOps) (source : String) (texts : List String)
    (mtimeNs ctimeNs : ℤ) {expectedSha256 : Option String} {maxRawEvidenceBytes : Option ℤ}
    (hdigest : ∀ expected ∈ expectedSha256, ops.sha256 ("\n".intercalate texts).toUTF8 = expected)
    (hbudget : ∀ limit ∈ maxRawEvidenceBytes,
      0 < limit ∧ ((("\n".intercalate texts).toUTF8.size : ℕ) : ℤ) ≤ limit) :
    readOtlpJsonLines ops source (.ok (joinedFile texts mtimeNs ctimeNs)) expectedSha256
      maxRawEvidenceBytes = .ok (splitLines ("\n".intercalate texts)) := by
  have hread : checkEvidenceRead (joinedFile texts mtimeNs ctimeNs) maxRawEvidenceBytes =
      .ok ("\n".intercalate texts).toUTF8 := by
    have hsize : ∀ limit ∈ maxRawEvidenceBytes,
        ((("\n".intercalate texts).toUTF8.size : ℕ) : ℤ) ≤ limit := fun limit hl => (hbudget limit hl).2
    exact seq_eq_ok.2 ⟨require_of hsize, seq_eq_ok.2 ⟨require_of hsize,
      seq_eq_ok.2 ⟨require_of ⟨rfl, rfl⟩, rfl⟩⟩⟩
  simp only [readOtlpJsonLines, validateRawEvidenceBudget, bind_eq_ok, require_eq_ok,
    mapError_eq_ok, demand_eq_ok, exists_const]
  exact ⟨fun limit hl => (hbudget limit hl).1, _, ⟨_, rfl, hread⟩, hdigest, _, fromUTF8?_toUTF8 _, rfl⟩

/-- The lines of joined texts are the texts when no text holds a line boundary. -/
theorem splitLines_intercalate_iff {texts : List String}
    (hne : ∀ text ∈ texts, text ≠ "") :
    splitLines ("\n".intercalate texts) = texts ↔
      ∀ text ∈ texts, ∀ c ∈ text.toList, isLineBoundary c = false := by
  constructor
  · intro h text ht
    rw [← h, splitLines, List.mem_map] at ht
    obtain ⟨line, hline, rfl⟩ := ht
    rw [String.toList_ofList]
    exact not_isLineBoundary_of_mem (List.forall_mem_nil _) hline
  · intro h
    have hlines : splitLineChars [] (['\n'].intercalate (texts.map String.toList)) =
        texts.map String.toList := by
      apply splitLineChars_intercalate
      · simpa using hne
      · simpa using h
    rw [splitLines, String.toList_intercalate]
    change (splitLineChars [] (['\n'].intercalate (texts.map String.toList))).map _ = _
    rw [hlines, List.map_map]
    exact (List.map_congr_left fun text _ => String.ofList_toList).trans (List.map_id texts)

/-- The framing of emissions finds every list of texts without line feeds again. -/
theorem emissionLines_intercalate {texts : List String} (hne : ∀ text ∈ texts, text ≠ "")
    (hlf : ∀ text ∈ texts, '\n' ∉ text.toList) :
    emissionLines ("\n".intercalate texts).toUTF8 = texts.map fun text => bytes text.toUTF8 := by
  rcases eq_or_ne texts [] with rfl | htexts
  · decide
  · have hlast : (texts.map fun text => bytes text.toUTF8).getLast? ≠ some [] := by
      intro h
      obtain ⟨text, ht, hempty⟩ := List.mem_map.1 (List.mem_of_getLast? h)
      rw [bytes_toUTF8, List.flatMap_eq_nil_iff] at hempty
      refine hne text ht (String.toList_eq_nil_iff.1 (List.eq_nil_iff_forall_not_mem.2 fun c hc => ?_))
      have hlength := congrArg List.length (hempty c hc)
      rw [String.length_utf8EncodeChar] at hlength
      exact absurd hlength (Nat.pos_iff_ne_zero.1 c.utf8Size_pos)
    rw [emissionLines, splitAtLineFeeds_intercalate htexts hlf, if_neg hlast]

/-- The OTLP reader finds texts that were joined with line feeds again, and so agrees with the
framing of emissions on where records end, exactly when no text holds a line boundary of Unicode. -/
theorem readOtlpJsonLines_exact (ops : OtlpOps) (source : String) (texts : List String)
    (mtimeNs ctimeNs : ℤ) (expectedSha256 : Option String) (maxRawEvidenceBytes : Option ℤ)
    (hne : ∀ text ∈ texts, text ≠ "")
    (hlf : ∀ text ∈ texts, '\n' ∉ text.toList ∧ '\r' ∉ text.toList)
    (hdigest : ∀ expected ∈ expectedSha256, ops.sha256 ("\n".intercalate texts).toUTF8 = expected)
    (hbudget : ∀ limit ∈ maxRawEvidenceBytes,
      0 < limit ∧ ((("\n".intercalate texts).toUTF8.size : ℕ) : ℤ) ≤ limit) :
    (readOtlpJsonLines ops source (.ok (joinedFile texts mtimeNs ctimeNs)) expectedSha256
        maxRawEvidenceBytes = .ok texts ∧
      emissionLines ("\n".intercalate texts).toUTF8 = texts.map fun text => bytes text.toUTF8) ↔
    ∀ text ∈ texts, ∀ c ∈ text.toList,
      c ∉ ['\x0b', '\x0c', '\x1c', '\x1d', '\x1e', '\u0085', '\u2028', '\u2029'] := by
  rw [and_iff_left (emissionLines_intercalate hne fun text ht => (hlf text ht).1),
    readOtlpJsonLines_joinedFile ops source texts mtimeNs ctimeNs hdigest hbudget, Except.ok.injEq,
    splitLines_intercalate_iff hne]
  refine forall₂_congr fun text ht => forall₂_congr fun c hc => ?_
  obtain ⟨hn, hr⟩ := hlf text ht
  have hcn : c ≠ '\n' := fun h => hn (h ▸ hc)
  have hcr : c ≠ '\r' := fun h => hr (h ▸ hc)
  rw [isLineBoundary, decide_eq_false_iff_not, List.mem_cons, List.mem_cons, not_or, not_or,
    and_iff_right hcn, and_iff_right hcr]

/-- A digest and an error text that no check looks at. -/
def exampleOtlpOps : OtlpOps := ⟨fun _ => "", fun _ => ""⟩

theorem readOtlpJsonLines_exact_ascii :
    readOtlpJsonLines exampleOtlpOps "traces.jsonl" (.ok (joinedFile ["1", "[2]"] 0 0)) none none =
        .ok ["1", "[2]"] ∧
      emissionLines ("\n".intercalate ["1", "[2]"]).toUTF8 =
        ["1", "[2]"].map fun text => bytes text.toUTF8 :=
  (readOtlpJsonLines_exact exampleOtlpOps "traces.jsonl" ["1", "[2]"] 0 0 none none (by decide)
    (by decide) (by simp) (by simp)).2 (by simp)

/-- A string with a line separator is read as two records. -/
theorem readOtlpJsonLines_lineSeparator :
    readOtlpJsonLines exampleOtlpOps "traces.jsonl" (.ok (joinedFile ["\"\u2028\""] 0 0)) none none =
        .ok ["\"", "\""] ∧
      emissionLines ("\n".intercalate ["\"\u2028\""]).toUTF8 = [bytes "\"\u2028\"".toUTF8] := by
  rw [readOtlpJsonLines_joinedFile exampleOtlpOps "traces.jsonl" _ 0 0 (by simp) (by simp),
    emissionLines_intercalate (by decide) (by decide)]
  exact ⟨by decide, rfl⟩

end RoboticsRuntime.Harness
