import Mathlib.Data.List.Basic
import RoboticsRuntime.Python.Values

/-!
# Bytes as text

`bytes.fromhex`, `bytes.hex` and base64. `bytes.fromhex` skips the white space of ASCII between the
bytes.
-/

namespace RoboticsRuntime.Python
open Theory

/-! ## Hexadecimal text -/

/-- `Py_ISSPACE`. -/
def isAsciiSpace (c : CodePoint) : Bool :=
  c ∈ [' ', '\t', '\n', '\x0b', '\x0c', '\r'].map CodePoint.scalar

/-- `str.lower` of an ASCII character. -/
def CodePoint.toLower : CodePoint → CodePoint
  | .scalar c => .scalar c.toLower
  | .surrogate offset => .surrogate offset

/-- `str.lower` of an ASCII text. -/
def lower (s : PyStr) : PyStr := s.map CodePoint.toLower

/-- `bytes.fromhex`; anything else is a `ValueError`. -/
def fromhex : PyStr → Option (List UInt8)
  | [] => some []
  | [c] => if isAsciiSpace c then some [] else none
  | c :: d :: rest =>
    if isAsciiSpace c then fromhex (d :: rest)
    else do
      let top ← hexValue c
      let bottom ← hexValue d
      return UInt8.ofNat (16 * top + bottom) :: (← fromhex rest)

/-- `bytes.hex`. -/
def hexText (bytes : List UInt8) : PyStr :=
  bytes.flatMap fun byte => [hexDigit (byte.toNat / 16), hexDigit (byte.toNat % 16)]

/-- A digit has the value of its lower case. -/
theorem hexValue_eq_some {c : CodePoint} {n : ℕ} (h : hexValue c = some n) :
    n < 16 ∧ hexDigit n = c.toLower := by
  have hascii : ∀ k < 128, ∀ value ∈ hexValue (.scalar (Char.ofNat k)),
      value < 16 ∧ hexDigit value = (CodePoint.scalar (Char.ofNat k)).toLower := by decide +kernel
  cases c with
  | surrogate => cases h
  | scalar c =>
    have hc : c.toNat < 128 := by
      unfold hexValue at h
      dsimp only at h
      split_ifs at h with hdigit hlower hupper
      · rw [Char.isDigit, Bool.and_eq_true, decide_eq_true_eq, decide_eq_true_eq] at hdigit
        exact (UInt32.le_iff_toNat_le.1 hdigit.2).trans_lt (by decide)
      · exact (UInt32.le_iff_toNat_le.1 hlower.2).trans_lt (by decide)
      · exact (UInt32.le_iff_toNat_le.1 hupper.2).trans_lt (by decide)
    have hvalue := hascii c.toNat hc n
    rw [Char.ofNat_toNat] at hvalue
    exact hvalue h

/-- A digit is no space. -/
theorem isAsciiSpace_of_hexValue {c : CodePoint} {n : ℕ} (h : hexValue c = some n) : isAsciiSpace c = false := by
  have hnone : ∀ space ∈ [' ', '\t', '\n', '\x0b', '\x0c', '\r'],
      hexValue (.scalar space) = none := by
    simp only [List.forall_mem_cons]
    exact ⟨rfl, rfl, rfl, rfl, rfl, rfl, List.forall_mem_nil _⟩
  rw [← Bool.not_eq_true, isAsciiSpace, decide_eq_true_eq, List.mem_map]
  rintro ⟨space, hspace, rfl⟩
  rw [hnone space hspace] at h
  cases h

/-- What is read as bytes is, without its spaces and in lower case, the text of the bytes. -/
theorem hexText_fromhex {s : PyStr} {bytes : List UInt8} (h : fromhex s = some bytes) :
    hexText bytes = lower (s.filter fun c => ! isAsciiSpace c) := by
  fun_induction fromhex s generalizing bytes with
  | case1 =>
    obtain rfl := Option.some.inj h
    rfl
  | case2 c hc =>
    obtain rfl := Option.some.inj h
    simp [hc, hexText, lower]
  | case3 => cases h
  | case4 c d rest hc ih =>
    rw [List.filter_cons_of_neg (by simp [hc])]
    exact ih h
  | case5 c d rest hc ih =>
    simp only [Option.bind_eq_bind, Option.bind_eq_some_iff, Option.pure_def,
      Option.some.injEq] at h
    obtain ⟨top, htop, bottom, hbottom, tail, htail, rfl⟩ := h
    obtain ⟨htop16, htopDigit⟩ := hexValue_eq_some htop
    obtain ⟨hbottom16, hbottomDigit⟩ := hexValue_eq_some hbottom
    have hbyte : (UInt8.ofNat (16 * top + bottom)).toNat = 16 * top + bottom := by
      rw [UInt8.toNat_ofNat']
      omega
    rw [List.filter_cons_of_pos (by simp [hc]),
      List.filter_cons_of_pos (by simp [isAsciiSpace_of_hexValue hbottom]), hexText, List.flatMap_cons,
      hbyte]
    have hdiv : (16 * top + bottom) / 16 = top := by omega
    have hmod : (16 * top + bottom) % 16 = bottom := by omega
    rw [hdiv, hmod, htopDigit, hbottomDigit]
    have htailText := ih htail
    rw [hexText] at htailText
    rw [htailText]
    rfl

/-- Digits of an even number are read as bytes. -/
theorem exists_fromhex {n : ℕ} {s : PyStr} (hlength : s.length = 2 * n)
    (hdigits : ∀ c ∈ s, (hexValue c).isSome) :
    ∃ bytes, fromhex s = some bytes ∧ bytes.length = n := by
  induction n generalizing s with
  | zero =>
    obtain rfl := List.length_eq_zero_iff.1 hlength
    exact ⟨[], rfl, rfl⟩
  | succ n ih =>
    match s, hlength, hdigits with
    | c :: d :: rest, hlength, hdigits =>
      obtain ⟨hc, hrest⟩ := List.forall_mem_cons.1 hdigits
      obtain ⟨hd, hrest⟩ := List.forall_mem_cons.1 hrest
      obtain ⟨top, htop⟩ := Option.isSome_iff_exists.1 hc
      obtain ⟨bottom, hbottom⟩ := Option.isSome_iff_exists.1 hd
      simp only [List.length_cons] at hlength
      obtain ⟨bytes, hbytes, hn⟩ := ih (by omega) hrest
      refine ⟨UInt8.ofNat (16 * top + bottom) :: bytes, ?_, by simp [hn]⟩
      simp [fromhex, isAsciiSpace_of_hexValue htop, htop, hbottom, hbytes]

/-- What is read as bytes consists of digits and spaces. -/
theorem hexValue_of_fromhex {s : PyStr} {bytes : List UInt8} (h : fromhex s = some bytes) :
    ∀ c ∈ s, isAsciiSpace c = false → (hexValue c).isSome := by
  fun_induction fromhex s generalizing bytes with
  | case1 => exact List.forall_mem_nil _
  | case2 c hc => simp [hc]
  | case3 => cases h
  | case4 c d rest hc ih =>
    exact List.forall_mem_cons.2 ⟨fun hspace => absurd hc (by simp [hspace]), ih h⟩
  | case5 c d rest hc ih =>
    simp only [Option.bind_eq_bind, Option.bind_eq_some_iff, Option.pure_def,
      Option.some.injEq] at h
    obtain ⟨top, htop, bottom, hbottom, tail, htail, rfl⟩ := h
    refine List.forall_mem_cons.2 ⟨fun _ => by simp [htop], List.forall_mem_cons.2
      ⟨fun _ => by simp [hbottom], ih htail⟩⟩

theorem length_hexText (bytes : List UInt8) : (hexText bytes).length = 2 * bytes.length := by
  induction bytes with
  | nil => rfl
  | cons byte bytes ih =>
    rw [hexText, List.flatMap_cons, List.length_append, ← hexText, ih]
    simp only [List.length_cons, List.length_nil]
    omega

/-! ## Base64 -/

def base64Alphabet : List Char :=
  "ABCDEFGHIJKLMNOPQRSTUVWXYZabcdefghijklmnopqrstuvwxyz0123456789+/".toList

/-- The symbol of six bits. -/
def sextet (n : ℕ) : CodePoint := .scalar (base64Alphabet.getD n 'A')

def padding : CodePoint := .scalar '='

/-- `base64.b64encode`. -/
def b64encode : List UInt8 → PyStr
  | [] => []
  | [a] => [sextet (a.toNat / 4), sextet (a.toNat % 4 * 16), padding, padding]
  | [a, b] =>
    [sextet (a.toNat / 4), sextet (a.toNat % 4 * 16 + b.toNat / 16), sextet (b.toNat % 16 * 4), padding]
  | a :: b :: c :: rest =>
    sextet (a.toNat / 4) :: sextet (a.toNat % 4 * 16 + b.toNat / 16) ::
      sextet (b.toNat % 16 * 4 + c.toNat / 64) :: sextet (c.toNat % 64) :: b64encode rest

/-- The six bits of a symbol. -/
def sextetValue : CodePoint → Option ℕ
  | .scalar c => base64Alphabet.idxOf? c
  | .surrogate _ => none

/-- `base64.b64decode` of a padded text. -/
def b64decode : PyStr → Option (List UInt8)
  | [] => some []
  | p :: q :: r :: s :: rest => do
    let p ← sextetValue p
    let q ← sextetValue q
    let a := UInt8.ofNat (p * 4 + q / 16)
    if s = padding then
      if r = padding then if rest = [] then some [a] else none
      else do
        let r ← sextetValue r
        if rest = [] then some [a, UInt8.ofNat (q % 16 * 16 + r / 4)] else none
    else do
      let r ← sextetValue r
      let s ← sextetValue s
      return a :: UInt8.ofNat (q % 16 * 16 + r / 4) :: UInt8.ofNat (r % 4 * 64 + s) ::
        (← b64decode rest)
  | _ => none

theorem sextetValue_sextet : ∀ n < 64, sextetValue (sextet n) = some n := by
  decide +kernel

theorem sextet_ne_padding : ∀ n < 64, sextet n ≠ padding := by
  decide +kernel

theorem ofNat_eq {a : UInt8} {n : ℕ} (h : n = a.toNat) : UInt8.ofNat n = a := by
  rw [h, UInt8.ofNat_toNat]

/-- Encoded bytes are decoded to themselves. -/
theorem b64decode_b64encode (bytes : List UInt8) : b64decode (b64encode bytes) = some bytes := by
  fun_induction b64encode bytes with
  | case1 => rfl
  | case2 a =>
    have ha := a.toNat_lt
    rw [b64decode, sextetValue_sextet _ (by omega), sextetValue_sextet _ (by omega)]
    have hfirst : UInt8.ofNat (a.toNat / 4 * 4 + a.toNat % 4 * 16 / 16) = a := ofNat_eq (by omega)
    simp only [Option.bind_eq_bind, Option.bind_some, if_true, hfirst]
  | case3 a b =>
    have ha := a.toNat_lt
    have hb := b.toNat_lt
    rw [b64decode, sextetValue_sextet _ (by omega), sextetValue_sextet _ (by omega),
      sextetValue_sextet _ (by omega)]
    have hfirst : UInt8.ofNat (a.toNat / 4 * 4 + (a.toNat % 4 * 16 + b.toNat / 16) / 16) = a :=
      ofNat_eq (by omega)
    have hsecond : UInt8.ofNat ((a.toNat % 4 * 16 + b.toNat / 16) % 16 * 16 + b.toNat % 16 * 4 / 4) =
        b := ofNat_eq (by omega)
    have hne := sextet_ne_padding (b.toNat % 16 * 4) (by omega)
    simp only [Option.bind_eq_bind, Option.bind_some, if_true, if_neg hne, hfirst, hsecond]
  | case4 a b c rest ih =>
    have ha := a.toNat_lt
    have hb := b.toNat_lt
    have hc := c.toNat_lt
    rw [b64decode, sextetValue_sextet _ (by omega), sextetValue_sextet _ (by omega),
      sextetValue_sextet _ (by omega), sextetValue_sextet _ (by omega), ih]
    have hfirst : UInt8.ofNat (a.toNat / 4 * 4 + (a.toNat % 4 * 16 + b.toNat / 16) / 16) = a :=
      ofNat_eq (by omega)
    have hsecond : UInt8.ofNat ((a.toNat % 4 * 16 + b.toNat / 16) % 16 * 16 +
        (b.toNat % 16 * 4 + c.toNat / 64) / 4) = b := ofNat_eq (by omega)
    have hthird : UInt8.ofNat ((b.toNat % 16 * 4 + c.toNat / 64) % 4 * 64 + c.toNat % 64) = c :=
      ofNat_eq (by omega)
    have hne := sextet_ne_padding (c.toNat % 64) (by omega)
    simp only [Option.bind_eq_bind, Option.bind_some, Option.pure_def, if_neg hne, hfirst, hsecond,
      hthird]

end RoboticsRuntime.Python
