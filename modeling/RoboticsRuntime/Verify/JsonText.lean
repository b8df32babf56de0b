import Mathlib.Data.List.TakeWhile
import RoboticsRuntime.Python.JsonText

/-!
# Reading back what was written

The decoder reads every spelling of the encoder as the object it was made of, with the items of its
dictionaries in the order of their keys. A spelling is read with what follows it in a larger text,
which starts with a character that no scalar contains.
-/

namespace RoboticsRuntime.Python
open Theory

variable {φ : Type} {py : Interpreter φ}

/-- What may follow an object in a text. -/
def Delimited (rest : PyStr) : Prop := ∀ c ∈ rest.head?, c = comma ∨ c = closeBracket ∨ c = closeBrace

theorem delimited_nil : Delimited [] := nofun

theorem delimited_cons {c : CodePoint} {rest : PyStr} :
    Delimited (c :: rest) ↔ c = comma ∨ c = closeBracket ∨ c = closeBrace := by simp [Delimited]

/-! ## Tokens -/

theorem after_append (token rest : PyStr) : after token (token ++ rest) = some rest := by
  rw [after, if_pos (by simp), List.drop_left]

theorem after_of_ne {c d : CodePoint} (h : c ≠ d) (token rest : PyStr) :
    after (d :: token) (c :: rest) = none := by
  simp [after, Ne.symm h]

theorem skip_cons {c : CodePoint} (h : c.isBlank = false) (rest : PyStr) :
    skip (c :: rest) = c :: rest := by simp [skip, h]

theorem skip_of_delimited {rest : PyStr} (h : Delimited rest) : skip rest = rest := by
  cases rest with
  | nil => rfl
  | cons c rest =>
    refine skip_cons ?_ rest
    rcases delimited_cons.1 h with rfl | rfl | rfl <;> decide

/-! ## Strings -/

theorem hexValue_hexDigit {n : ℕ} (h : n < 16) : hexValue (hexDigit n) = some n := by
  revert n
  decide

theorem chr_ord (c : CodePoint) (h : c.isControl = true) : chr c.ord = c := by
  cases c with
  | surrogate offset =>
    have hc : 0xd800 + offset.val < 0x20 := of_decide_eq_true h
    omega
  | scalar c =>
    have hc : c.toNat < 0x20 := of_decide_eq_true h
    rw [CodePoint.ord, chr, dif_neg (by omega), Char.ofNat_toNat]

/-- A character stands for itself or is escaped. -/
theorem escape_cases (c : CodePoint) :
    (escape c = [c] ∧ c ≠ quote ∧ c ≠ backslash ∧ c.isControl = false) ∨
      ∃ tail, escape c = backslash :: tail ∧ ∀ rest, scanEscape (tail ++ rest) = some (c, rest) := by
  unfold escape
  split_ifs with hquote hback hn hr ht hb hf hcontrol
  · exact .inr ⟨_, rfl, fun rest => by subst hquote; rfl⟩
  · exact .inr ⟨_, rfl, fun rest => by subst hback; rfl⟩
  · exact .inr ⟨_, rfl, fun rest => by subst hn; rfl⟩
  · exact .inr ⟨_, rfl, fun rest => by subst hr; rfl⟩
  · exact .inr ⟨_, rfl, fun rest => by subst ht; rfl⟩
  · exact .inr ⟨_, rfl, fun rest => by subst hb; rfl⟩
  · exact .inr ⟨_, rfl, fun rest => by subst hf; rfl⟩
  · refine .inr ⟨_, rfl, fun rest => ?_⟩
    have hord : c.ord < 0x20 := of_decide_eq_true hcontrol
    have hunit : ∀ rest, decodeUnit (.scalar '0' :: .scalar '0' :: hexDigit (c.ord / 16) ::
        hexDigit (c.ord % 16) :: rest) = some (c.ord, rest) := fun rest => by
      have hzero : hexValue (.scalar '0') = some 0 := rfl
      simp only [decodeUnit, hzero, hexValue_hexDigit (show c.ord / 16 < 16 by omega),
        hexValue_hexDigit (show c.ord % 16 < 16 by omega), bind, Option.bind_some]
      congr 2
      omega
    simp only [List.cons_append, List.nil_append, scanEscape, if_true, hunit, bind, Option.bind_some]
    rw [if_neg (by omega), chr_ord c hcontrol]
  · exact .inl ⟨rfl, hquote, hback, by simpa using hcontrol⟩

theorem scanString_encode (s rest : PyStr) {fuel : ℕ} (h : s.length < fuel) :
    scanString fuel (s.flatMap escape ++ quote :: rest) = some (s, rest) := by
  induction s generalizing fuel with
  | nil =>
    obtain ⟨fuel, rfl⟩ := Nat.exists_eq_add_of_lt h
    simp [scanString]
  | cons c s ih =>
    obtain ⟨fuel, rfl⟩ : ∃ fuel', fuel = fuel' + 1 := ⟨fuel - 1, by omega⟩
    have hrest := ih (Nat.lt_of_succ_lt_succ h)
    rw [List.flatMap_cons, List.append_assoc]
    rcases escape_cases c with ⟨he, hquote, hback, hcontrol⟩ | ⟨tail, he, hscan⟩
    · rw [he, List.singleton_append, scanString, if_neg hquote, if_neg (by simp [hcontrol]),
        if_neg hback]
      simp only [bind, Option.bind_some, hrest]
    · rw [he, List.cons_append, scanString, if_neg (by decide), if_neg (by decide), if_pos rfl, hscan]
      simp only [bind, Option.bind_some, hrest]

theorem length_le_flatMap_escape (s : PyStr) : s.length ≤ (s.flatMap escape).length := by
  induction s with
  | nil => exact le_rfl
  | cons c s ih =>
    have : 0 < (escape c).length := by
      rcases escape_cases c with ⟨he, -⟩ | ⟨tail, he, -⟩ <;> simp [he]
    simp only [List.flatMap_cons, List.length_append, List.length_cons]
    omega

/-- A spelling of a string is read after its opening quote. -/
theorem scanString_encodeString (s rest : PyStr) :
    scanString (s.flatMap escape ++ [quote] ++ rest).length (s.flatMap escape ++ [quote] ++ rest) =
      some (s, rest) := by
  rw [List.append_assoc, List.singleton_append]
  refine scanString_encode s rest ?_
  have := length_le_flatMap_escape s
  simp only [List.length_append, List.length_cons]
  omega

/-! ## Numbers -/

theorem isDigit_eq_false_of_delimited {c : CodePoint} {rest : PyStr} (h : Delimited (c :: rest)) :
    c.isDigit = false := by
  rcases delimited_cons.1 h with rfl | rfl | rfl <;> decide

theorem takeWhile_isDigit_append {rest : PyStr} (h : Delimited rest) (s : PyStr) :
    (s ++ rest).takeWhile CodePoint.isDigit = s.takeWhile CodePoint.isDigit := by
  induction s with
  | nil =>
    cases rest with
    | nil => rfl
    | cons c rest => simp [isDigit_eq_false_of_delimited h]
  | cons c s ih => simp only [List.cons_append, List.takeWhile_cons, ih]

theorem dropWhile_isDigit_append {rest : PyStr} (h : Delimited rest) (s : PyStr) :
    (s ++ rest).dropWhile CodePoint.isDigit = s.dropWhile CodePoint.isDigit ++ rest := by
  induction s with
  | nil =>
    cases rest with
    | nil => rfl
    | cons c rest => simp [isDigit_eq_false_of_delimited h]
  | cons c s ih =>
    simp only [List.cons_append, List.dropWhile_cons, ih]
    split <;> rfl

theorem matchSign_append {rest : PyStr} (h : Delimited rest) (s : PyStr) :
    matchSign (s ++ rest) = ((matchSign s).1, (matchSign s).2 ++ rest) := by
  cases s with
  | nil =>
    cases rest with
    | nil => rfl
    | cons c rest =>
      have hne : c ≠ minus := by rcases delimited_cons.1 h with rfl | rfl | rfl <;> decide
      simp [matchSign, hne]
  | cons c s =>
    simp only [List.cons_append, matchSign]
    split_ifs <;> rfl

theorem matchDigits_append {rest : PyStr} (h : Delimited rest) {s m r : PyStr}
    (hs : matchDigits s = some (m, r)) : matchDigits (s ++ rest) = some (m, r ++ rest) := by
  cases s with
  | nil => cases hs
  | cons c s =>
    simp only [List.cons_append, matchDigits, takeWhile_isDigit_append h,
      dropWhile_isDigit_append h] at hs ⊢
    split_ifs at hs ⊢ with hzero hdigit
    · cases hs
      rfl
    · cases hs
      rfl

theorem matchFraction_append {rest : PyStr} (h : Delimited rest) (s : PyStr) :
    matchFraction (s ++ rest) = ((matchFraction s).1, (matchFraction s).2 ++ rest) := by
  cases s with
  | nil =>
    cases rest with
    | nil => rfl
    | cons c rest =>
      have hne : c ≠ .scalar '.' := by rcases delimited_cons.1 h with rfl | rfl | rfl <;> decide
      simp [matchFraction, hne]
  | cons c s =>
    simp only [List.cons_append, matchFraction, takeWhile_isDigit_append h,
      dropWhile_isDigit_append h]
    split_ifs <;> rfl

theorem matchExponentSign_append {rest : PyStr} (h : Delimited rest) (s : PyStr) :
    matchExponentSign (s ++ rest) =
      ((matchExponentSign s).1, (matchExponentSign s).2 ++ rest) := by
  cases s with
  | nil =>
    cases rest with
    | nil => rfl
    | cons c rest =>
      have hne : c ∉ text "-+" := by rcases delimited_cons.1 h with rfl | rfl | rfl <;> decide
      simp [matchExponentSign, hne]
  | cons c s =>
    simp only [List.cons_append, matchExponentSign]
    split_ifs <;> rfl

theorem matchExponent_append {rest : PyStr} (h : Delimited rest) (s : PyStr) :
    matchExponent (s ++ rest) = ((matchExponent s).1, (matchExponent s).2 ++ rest) := by
  cases s with
  | nil =>
    cases rest with
    | nil => rfl
    | cons c rest =>
      have hne : c ∉ text "eE" := by rcases delimited_cons.1 h with rfl | rfl | rfl <;> decide
      simp [matchExponent, hne]
  | cons c s =>
    simp only [List.cons_append, matchExponent, matchExponentSign_append h,
      takeWhile_isDigit_append h, dropWhile_isDigit_append h]
    split_ifs <;> rfl

/-- A match does not reach into what follows a text. -/
theorem matchNumber_append {rest : PyStr} (h : Delimited rest) {s r : PyStr} {number : NumberMatch}
    (hs : matchNumber s = some (number, r)) : matchNumber (s ++ rest) = some (number, r ++ rest) := by
  simp only [matchNumber, bind, Option.bind_eq_some_iff] at hs
  obtain ⟨⟨digits, tail⟩, hdigits, hs⟩ := hs
  obtain ⟨rfl, rfl⟩ := Prod.mk.inj (Option.some.inj hs)
  simp only [matchNumber, matchSign_append h, matchDigits_append h hdigits, matchFraction_append h,
    matchExponent_append h, bind, Option.bind_some]

/-- The characters that a number starts with. -/
def NumberStart (c : CodePoint) : Prop := c = minus ∨ c.isDigit = true

theorem numberStart_of_match {s r : PyStr} {number : NumberMatch}
    (hs : matchNumber s = some (number, r)) : ∃ c tail, s = c :: tail ∧ NumberStart c := by
  simp only [matchNumber, bind, Option.bind_eq_some_iff] at hs
  obtain ⟨digits, hdigits, -⟩ := hs
  cases s with
  | nil => cases hdigits
  | cons c tail =>
    refine ⟨c, tail, rfl, ?_⟩
    by_cases hminus : c = minus
    · exact .inl hminus
    · rw [matchSign, if_neg hminus, matchDigits] at hdigits
      split_ifs at hdigits with hzero hdigit
      · exact .inr (by rw [hzero]; decide)
      · exact .inr hdigit

theorem NumberStart.ne {c d : CodePoint} (h : NumberStart c) (hminus : d ≠ minus)
    (hdigit : d.isDigit = false) : c ≠ d := by
  rintro rfl
  rcases h with rfl | h
  · exact hminus rfl
  · rw [h] at hdigit
    cases hdigit

/-- A decimal spelling starts with another digit than zero, unless it is that of zero. -/
theorem toDigits_head {n : ℕ} (h : 0 < n) :
    ∃ c cs, Nat.toDigits 10 n = c :: cs ∧ c ≠ '0' := by
  induction n using Nat.strong_induction_on with
  | _ n ih =>
    rw [Nat.toDigits_eq_if (by decide)]
    split_ifs with hlt
    · have hne : ∀ m < 10, 0 < m → m.digitChar ≠ '0' := by decide
      exact ⟨n.digitChar, [], rfl, hne n hlt h⟩
    · obtain ⟨c, cs, hcs, hc⟩ := ih (n / 10) (by omega) (by omega)
      exact ⟨c, cs ++ [(n % 10).digitChar], by rw [hcs]; rfl, hc⟩

theorem isDigit_of_mem_decimalDigits {n : ℕ} {c : CodePoint} (h : c ∈ decimalDigits n) :
    c.isDigit = true := by
  obtain ⟨c, hc, rfl⟩ := List.mem_map.1 h
  exact Nat.isDigit_of_mem_toDigits (by decide) (by decide) hc

theorem matchDigits_decimalDigits (n : ℕ) :
    matchDigits (decimalDigits n) = some (decimalDigits n, []) := by
  rcases Nat.eq_zero_or_pos n with rfl | hpos
  · rfl
  · obtain ⟨c, cs, hcs, hc⟩ := toDigits_head hpos
    have hdigits : ∀ d ∈ decimalDigits n, d.isDigit = true := fun d => isDigit_of_mem_decimalDigits
    rw [decimalDigits, hcs, List.map_cons] at hdigits ⊢
    rw [List.forall_mem_cons] at hdigits
    rw [matchDigits, if_neg (by simpa using hc), if_pos hdigits.1,
      List.takeWhile_eq_self_iff.2 hdigits.2, List.dropWhile_eq_nil_iff.2 hdigits.2]

theorem digitsValue_decimalDigits (n : ℕ) : digitsValue (decimalDigits n) = n := by
  have hfilter : (decimalDigits n).filterMap CodePoint.toChar = Nat.toDigits 10 n := by
    rw [decimalDigits, List.filterMap_map]
    exact List.filterMap_some
  rw [digitsValue, hfilter, Nat.ofDigitChars_ten_toDigits]

/-- The spelling of an integer is matched as a whole and read as the integer. -/
theorem match_intRepr {value : ℤ} {s : PyStr} (hs : py.intRepr value = some s) :
    matchNumber s = some (⟨s, [], []⟩, []) ∧ py.int s = some value := by
  have hminus : ∀ d ∈ decimalDigits value.natAbs, d ≠ minus := fun d hd he => by
    have := isDigit_of_mem_decimalDigits hd
    rw [he] at this
    cases this
  simp only [Interpreter.intRepr] at hs
  split_ifs at hs with hlong hneg
  · cases hs
    constructor
    · simp [matchNumber, matchSign, matchDigits_decimalDigits, matchFraction, matchExponent]
    · rw [Interpreter.int, if_pos rfl, if_neg hlong, digitsValue_decimalDigits]
      congr 1
      omega
  · cases hs
    generalize hdigits : decimalDigits value.natAbs = digits at hminus hlong ⊢
    have hmatch := matchDigits_decimalDigits value.natAbs
    have hvalue := digitsValue_decimalDigits value.natAbs
    rw [hdigits] at hmatch hvalue
    cases digits with
    | nil => cases hmatch
    | cons c digits =>
      have hc := hminus c List.mem_cons_self
      constructor
      · simp [matchNumber, matchSign, hc, hmatch, matchFraction, matchExponent]
      · rw [Interpreter.int, if_neg hc, if_neg hlong, hvalue]
        congr 1
        omega

/-! ## Objects without parts -/

/-- The first character of a spelling: not blank, not the end of an array, and not a byte order
mark. -/
def ValueStart (c : CodePoint) : Prop :=
  c.isBlank = false ∧ c ≠ closeBracket ∧ c ≠ .scalar '\ufeff'

theorem NumberStart.valueStart {c : CodePoint} (h : NumberStart c) : ValueStart c := by
  refine ⟨?_, h.ne (by decide) (by decide), h.ne (by decide) (by decide)⟩
  rw [CodePoint.isBlank, decide_eq_false_iff_not]
  intro hm
  have hblank : ∀ d ∈ text " \t\n\r", d ≠ minus ∧ d.isDigit = false := by decide
  exact h.ne (hblank c hm).1 (hblank c hm).2 rfl

/-- A keyword does not start like a number. -/
theorem after_keyword {c : CodePoint} (h : NumberStart c) {d : Char} {token : List Char} (rest : PyStr)
    (hminus : CodePoint.scalar d ≠ minus) (hdigit : d.isDigit = false) :
    after ((d :: token).map .scalar) (c :: rest) = none :=
  after_of_ne (h.ne hminus hdigit) _ rest

theorem scanScalar_of_match {s : PyStr} {number : NumberMatch} {value : PyScalar φ}
    (hs : matchNumber s = some (number, [])) (hvalue : number.value py = some value) {rest : PyStr}
    (h : Delimited rest) : scanScalar py (s ++ rest) = some (value, rest) := by
  have hmatch := matchNumber_append h hs
  obtain ⟨c, tail, rfl, hc⟩ := numberStart_of_match hs
  rw [List.nil_append] at hmatch
  rw [List.cons_append] at hmatch ⊢
  have hnull : after (text "null") (c :: (tail ++ rest)) = none :=
    after_keyword hc _ (by decide) (by decide)
  have htrue : after (text "true") (c :: (tail ++ rest)) = none :=
    after_keyword hc _ (by decide) (by decide)
  have hfalse : after (text "false") (c :: (tail ++ rest)) = none :=
    after_keyword hc _ (by decide) (by decide)
  simp only [scanScalar, hnull, htrue, hfalse, hmatch, hvalue, Option.map_some]

/-- What the decoder needs of a spelling of an object that is not a string. -/
structure Spells (py : Interpreter φ) (s : PyStr) (value : PyScalar φ) : Prop where
  scan : ∀ {rest}, Delimited rest → scanScalar py (s ++ rest) = some (value, rest)
  start : ∃ c tail, s = c :: tail ∧ ValueStart c ∧ c ≠ quote ∧ c ≠ openBrace ∧ c ≠ openBracket

theorem spells_of_match {s : PyStr} {number : NumberMatch} {value : PyScalar φ}
    (hs : matchNumber s = some (number, [])) (hvalue : number.value py = some value) :
    Spells py s value where
  scan h := scanScalar_of_match hs hvalue h
  start := by
    obtain ⟨c, tail, rfl, hc⟩ := numberStart_of_match hs
    exact ⟨c, tail, rfl, hc.valueStart, hc.ne (by decide) (by decide),
      hc.ne (by decide) (by decide), hc.ne (by decide) (by decide)⟩

theorem spells_encodeScalar (hpy : py.Lawful) {value : PyScalar φ} {s : PyStr}
    (hs : encodeScalar py value = some s) (hstr : ∀ v, value ≠ .str v) : Spells py s value := by
  cases value with
  | none =>
    cases hs
    exact ⟨fun _ => rfl, .scalar 'n', text "ull", rfl, ⟨by decide, by decide, by decide⟩,
      by decide, by decide, by decide⟩
  | bool value =>
    cases value with
    | false =>
      cases hs
      exact ⟨fun _ => rfl, .scalar 'f', text "alse", rfl, ⟨by decide, by decide, by decide⟩,
        by decide, by decide, by decide⟩
    | true =>
      cases hs
      exact ⟨fun _ => rfl, .scalar 't', text "rue", rfl, ⟨by decide, by decide, by decide⟩,
        by decide, by decide, by decide⟩
  | int value =>
    obtain ⟨hmatch, hint⟩ := match_intRepr hs
    exact spells_of_match hmatch (by simp [NumberMatch.value, hint])
  | float value =>
    cases value with
    | finite value =>
      cases hs
      obtain ⟨number, hmatch, hparts, htext⟩ := hpy.literal value
      refine spells_of_match hmatch ?_
      rw [NumberMatch.value, if_neg (by tauto), ← htext, hpy.inverse]
    | infinity | nan => cases hs
  | str value => exact absurd rfl (hstr value)
  | other => cases hs

end RoboticsRuntime.Python
