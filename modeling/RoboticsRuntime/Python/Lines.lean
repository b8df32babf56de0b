import Mathlib.Data.List.Basic

/-!
# Lines of texts and of bytes

`str.splitlines()` and `bytes.split(b"\n")`. The first splits a text at more characters than the
second splits its encoding at.
-/

namespace RoboticsRuntime.Python

/-- The characters that `str.splitlines` splits at. -/
def isLineBoundary (c : Char) : Bool :=
  c ∈ ['\n', '\r', '\x0b', '\x0c', '\x1c', '\x1d', '\x1e', '\u0085', '\u2028', '\u2029']

/-- The lines of a text, from the line that is not over yet on. A carriage return and a line feed
are one boundary. -/
def splitLineChars (line : List Char) : List Char → List (List Char)
  | [] => if line = [] then [] else [line]
  | '\r' :: '\n' :: rest => line :: splitLineChars [] rest
  | c :: rest =>
    if isLineBoundary c then line :: splitLineChars [] rest else splitLineChars (line ++ [c]) rest

/-- `text.splitlines()`. -/
def splitLines (text : String) : List String := (splitLineChars [] text.toList).map String.ofList

/-- `source.split(b"\n")`. -/
def splitAtLineFeeds (source : List UInt8) : List (List UInt8) := source.splitOn 10

/-- The bytes of an array. -/
def bytes (source : ByteArray) : List UInt8 := source.data.toList

/-! ## Lines of a text -/

/-- No line holds a boundary. -/
theorem not_isLineBoundary_of_mem {line cs l : List Char} (hline : ∀ c ∈ line, isLineBoundary c = false)
    (h : l ∈ splitLineChars line cs) : ∀ c ∈ l, isLineBoundary c = false := by
  fun_induction splitLineChars line cs with
  | case1 => cases h
  | case2 line hne =>
    obtain rfl := List.mem_singleton.1 h
    exact hline
  | case3 line rest ih =>
    rcases List.mem_cons.1 h with rfl | h
    · exact hline
    · exact ih (List.forall_mem_nil _) h
  | case4 line c rest _ _ ih =>
    rcases List.mem_cons.1 h with rfl | h
    · exact hline
    · exact ih (List.forall_mem_nil _) h
  | case5 line c rest _ hc ih =>
    refine ih (fun d hd => ?_) h
    rcases List.mem_append.1 hd with hd | hd
    · exact hline d hd
    · rw [List.mem_singleton.1 hd]
      simpa using hc

/-- Characters that are no boundaries belong to the line. -/
theorem splitLineChars_append {line text : List Char} (h : ∀ c ∈ text, isLineBoundary c = false)
    (rest : List Char) : splitLineChars line (text ++ rest) = splitLineChars (line ++ text) rest := by
  induction text generalizing line with
  | nil => simp
  | cons c text ih =>
    obtain ⟨hc, htext⟩ := List.forall_mem_cons.1 h
    have hstep : splitLineChars line (c :: (text ++ rest)) =
        splitLineChars (line ++ [c]) (text ++ rest) := by
      rw [splitLineChars.eq_3 _ _ _ (by
        rintro cs rfl hcs
        simp [isLineBoundary] at hc), if_neg (by simp [hc])]
    rw [List.cons_append, hstep, ih htext, List.append_assoc, List.singleton_append]

theorem splitLineChars_lineFeed (line rest : List Char) :
    splitLineChars line ('\n' :: rest) = line :: splitLineChars [] rest := by
  rw [splitLineChars.eq_3 _ _ _ (by simp)]
  rfl

/-- Texts without boundaries, joined with line feeds, are the lines of the whole. -/
theorem splitLineChars_intercalate {texts : List (List Char)} (hne : ∀ text ∈ texts, text ≠ [])
    (h : ∀ text ∈ texts, ∀ c ∈ text, isLineBoundary c = false) :
    splitLineChars [] (['\n'].intercalate texts) = texts := by
  induction texts with
  | nil => rfl
  | cons text texts ih =>
    obtain ⟨htext, htexts⟩ := List.forall_mem_cons.1 h
    obtain ⟨hnil, hnils⟩ := List.forall_mem_cons.1 hne
    cases texts with
    | nil =>
      have hlast := @splitLineChars_append [] text htext []
      rw [List.append_nil, List.nil_append] at hlast
      rw [List.intercalate_singleton, hlast, splitLineChars, if_neg hnil]
    | cons next texts =>
      rw [List.intercalate_cons_cons, List.append_assoc, splitLineChars_append htext,
        List.nil_append, List.singleton_append, splitLineChars_lineFeed, ih hnils htexts]

/-! ## Line feeds of an encoded text -/

/-- Only the line feed has the byte of the line feed in its encoding. -/
theorem lineFeed_mem_utf8EncodeChar {c : Char} (h : 10 ∈ String.utf8EncodeChar c) : c = '\n' := by
  have hbyte : ∀ n : ℕ, (10 : UInt8) = UInt8.ofNat n → n % 256 = 10 := fun n hn => by
    have := congrArg UInt8.toNat hn
    simpa using this.symm
  have hval : c.val.toNat = 10 := by
    unfold String.utf8EncodeChar at h
    dsimp only at h
    split_ifs at h with h1 h2 h3 <;> simp only [List.mem_cons, List.not_mem_nil, or_false] at h
    · have := hbyte _ h
      omega
    · rcases h with h | h
      all_goals
        have := hbyte _ h
        omega
    · rcases h with h | h | h
      all_goals
        have := hbyte _ h
        omega
    · rcases h with h | h | h | h
      all_goals
        have := hbyte _ h
        omega
  exact Char.ext (UInt32.toNat_inj.1 hval)

theorem bytes_toUTF8 (text : String) : bytes text.toUTF8 = text.toList.flatMap String.utf8EncodeChar := by
  rw [bytes, String.toUTF8_eq_toByteArray, ← String.utf8Encode_toList, List.utf8Encode,
    List.toList_data_toByteArray]

theorem flatMap_intercalate {α β : Type} (f : α → List β) (separator : List α) (l : List (List α)) :
    (separator.intercalate l).flatMap f =
      (separator.flatMap f).intercalate (l.map fun xs => xs.flatMap f) := by
  induction l with
  | nil => rfl
  | cons xs l ih =>
    cases l with
    | nil => simp
    | cons ys l =>
      rw [List.intercalate_cons_cons, List.flatMap_append, List.flatMap_append, ih]
      simp [List.intercalate_cons_cons]

/-- Texts without line feeds, joined with line feeds, are found again in the bytes of the whole. -/
theorem splitAtLineFeeds_intercalate {texts : List String} (hne : texts ≠ [])
    (h : ∀ text ∈ texts, '\n' ∉ text.toList) :
    splitAtLineFeeds (bytes ("\n".intercalate texts).toUTF8) =
      texts.map fun text => bytes text.toUTF8 := by
  have hjoined : bytes ("\n".intercalate texts).toUTF8 =
      [10].intercalate (texts.map fun text => bytes text.toUTF8) := by
    rw [bytes_toUTF8, String.toList_intercalate, flatMap_intercalate, List.map_map]
    simp only [bytes_toUTF8]
    rfl
  rw [splitAtLineFeeds, hjoined, List.splitOn_intercalate]
  · intro line hline hmem
    obtain ⟨text, htext, rfl⟩ := List.mem_map.1 hline
    rw [bytes_toUTF8, List.mem_flatMap] at hmem
    obtain ⟨c, hc, hbyte⟩ := hmem
    rw [lineFeed_mem_utf8EncodeChar hbyte] at hc
    exact h text htext hc
  · simpa using hne

end RoboticsRuntime.Python
