import Mathlib.Algebra.Ring.Nat
import Mathlib.Data.List.Basic
import RoboticsRuntime.Theory.Checks

/-!
# Loops with positions

Rules for a loop over a list that may fail, with positions and without, and for the two kinds of
inner loop that advance a position into the list: one that runs until an element stops it, and so
fails at the end of the list, and one that looks one element ahead and stops before a given position.
-/

namespace RoboticsRuntime.Theory

/-- A loop over the elements of a list and their positions succeeds, and keeps an invariant that
every step succeeds from and keeps. -/
theorem foldlM_zipIdx_rule (f : σ → α × ℕ → Option σ) {l : List α} (P : ℕ → σ → Prop) {s : σ}
    (h0 : P 0 s)
    (hstep : ∀ i a s, l[i]? = some a → P i s → ∃ s', f s (a, i) = some s' ∧ P (i + 1) s') :
    ∃ s', l.zipIdx.foldlM f s = some s' ∧ P l.length s' := by
  suffices h : ∀ (rest done : List α) (s : σ), done ++ rest = l → P done.length s →
      ∃ s', (rest.zipIdx done.length).foldlM f s = some s' ∧ P l.length s' from
    h l [] s rfl h0
  intro rest
  induction rest with
  | nil =>
    rintro done s rfl hs
    exact ⟨s, rfl, by simpa using hs⟩
  | cons a rest ih =>
    rintro done s rfl hs
    obtain ⟨s₁, hf, hs₁⟩ := hstep done.length a s (by simp) hs
    obtain ⟨s', hrest, hs'⟩ := ih (done ++ [a]) s₁ (by simp) (by simpa using hs₁)
    refine ⟨s', ?_, hs'⟩
    rw [List.zipIdx_cons, List.foldlM_cons, hf]
    simpa using hrest

section
variable {α σ ε : Type} {step : σ → α → Except ε σ}

/-- Where a loop that may fail leads: an invariant that every step keeps holds at its end, and what
every failing step from the invariant gives holds of its failure. -/
theorem foldlM_rule {Inv : σ → Prop} {Fails : ε → Prop}
    (hok : ∀ s a s', Inv s → step s a = .ok s' → Inv s')
    (herr : ∀ s a e, Inv s → step s a = .error e → Fails e) (l : List α) (h : Inv s) :
    (∀ s', l.foldlM step s = .ok s' → Inv s') ∧ ∀ e, l.foldlM step s = .error e → Fails e := by
  induction l generalizing s with
  | nil =>
    constructor
    · rintro s' ⟨⟩
      exact h
    · rintro e ⟨⟩
  | cons a l ih =>
    rw [List.foldlM_cons]
    cases hs : step s a with
    | ok s₁ => exact ih (hok s a s₁ h hs)
    | error e =>
      constructor
      · rintro s' ⟨⟩
      · rintro _ ⟨⟩
        exact herr s a e h hs

/-- An invariant that every step keeps holds at the end of the loop. -/
theorem foldlM_invariant {I : σ → Prop} (hstep : ∀ s a s', I s → step s a = .ok s' → I s')
    {l : List α} (hs : I s) (h : l.foldlM step s = .ok s') : I s' := by
  induction l generalizing s with
  | nil =>
    cases h
    exact hs
  | cons a l ih =>
    obtain ⟨s₁, hfirst, hrest⟩ := bind_eq_ok.1 h
    exact ih (hstep s a s₁ hs hfirst) hrest

/-- What every step from the invariant establishes of its element holds of all elements. -/
theorem foldlM_forall {Inv : σ → Prop} {Q : α → Prop}
    (hstep : ∀ s a s', Inv s → step s a = .ok s' → Inv s' ∧ Q a) {l : List α} (hs : Inv s)
    (h : l.foldlM step s = .ok s') : Inv s' ∧ ∀ a ∈ l, Q a := by
  induction l generalizing s with
  | nil =>
    cases h
    exact ⟨hs, List.forall_mem_nil _⟩
  | cons a l ih =>
    obtain ⟨s₁, hfirst, hrest⟩ := bind_eq_ok.1 h
    obtain ⟨hs₁, ha⟩ := hstep s a s₁ hs hfirst
    obtain ⟨hs', hl⟩ := ih hs₁ hrest
    exact ⟨hs', List.forall_mem_cons.2 ⟨ha, hl⟩⟩

/-- Every element has its step, between states that a preorder relates to the ends of the loop. -/
theorem foldlM_steps {R : σ → σ → Prop} (hrefl : ∀ s, R s s)
    (htrans : ∀ {a b c}, R a b → R b c → R a c) {l : List α}
    (hstep : ∀ s, ∀ a ∈ l, ∀ s', step s a = .ok s' → R s s') (h : l.foldlM step s = .ok s') :
    R s s' ∧ ∀ a ∈ l, ∃ s₁ s₂, R s s₁ ∧ step s₁ a = .ok s₂ ∧ R s₂ s' := by
  induction l generalizing s with
  | nil =>
    cases h
    exact ⟨hrefl _, List.forall_mem_nil _⟩
  | cons a l ih =>
    obtain ⟨s₁, hfirst, hrest⟩ := bind_eq_ok.1 h
    obtain ⟨hlast, hl⟩ := ih (fun s b hb => hstep s b (List.mem_cons_of_mem _ hb)) hrest
    have hone := hstep s a List.mem_cons_self s₁ hfirst
    refine ⟨htrans hone hlast, List.forall_mem_cons.2 ⟨⟨s, s₁, hrefl s, hfirst, hlast⟩, ?_⟩⟩
    intro b hb
    obtain ⟨s₂, s₃, hbefore, hb, hafter⟩ := hl b hb
    exact ⟨s₂, s₃, htrans hone hbefore, hb, hafter⟩

/-- A measure that each step takes down by its weight, but not below zero, is taken down by the
loop by the weight of the list. -/
theorem foldlM_measure (m : σ → ℕ) (weight : α → ℕ)
    (hstep : ∀ s a s', step s a = .ok s' → m s' ≤ m s - weight a) {l : List α}
    (h : l.foldlM step s = .ok s') : m s' ≤ m s - (l.map weight).sum := by
  induction l generalizing s with
  | nil =>
    cases h
    exact Nat.le_refl _
  | cons a l ih =>
    obtain ⟨s₁, hs, hrest⟩ := bind_eq_ok.1 h
    rw [List.map_cons, List.sum_cons, ← Nat.sub_sub]
    exact (ih hrest).trans (Nat.sub_le_sub_right (hstep s a s₁ hs) _)

end

/-- `while test(l[position]): position += 1`, from a position on. -/
def advanceFrom (test : α → Bool) : ℕ → List α → Option ℕ
  | _, [] => none
  | position, a :: l => if test a then advanceFrom test (position + 1) l else some position

/-- `while test(l[position]): position += 1`. It fails when it leaves the list. -/
def advance (test : α → Bool) (l : List α) (position : ℕ) : Option ℕ :=
  advanceFrom test position (l.drop position)

/-- The loop stops at the first position from the start on whose element fails the test. -/
theorem advance_eq_some (test : α → Bool) {l : List α} {k : ℕ} {a : α} (hk : l[k]? = some a)
    (ha : test a = false) (hle : position ≤ k) :
    ∃ j b, advance test l position = some j ∧ l[j]? = some b ∧ test b = false ∧ j ≤ k ∧
      ∀ i, position ≤ i → i < j → ∀ c, l[i]? = some c → test c = true := by
  obtain ⟨d, rfl⟩ := Nat.exists_eq_add_of_le hle
  induction d generalizing position with
  | zero =>
    rw [Nat.add_zero] at hk ⊢
    refine ⟨position, a, ?_, hk, ha, Nat.le_refl _, fun i hi hij => by omega⟩
    obtain ⟨hlt, rfl⟩ := List.getElem?_eq_some_iff.1 hk
    rw [advance, List.drop_eq_getElem_cons hlt, advanceFrom, ha]
    rfl
  | succ d ih =>
    have hlt : position < l.length := by
      obtain ⟨hlt, -⟩ := List.getElem?_eq_some_iff.1 hk
      omega
    rw [advance, List.drop_eq_getElem_cons hlt, advanceFrom]
    split
    · next htest =>
      have hk' : l[position + 1 + d]? = some a := by rwa [Nat.add_assoc, Nat.add_comm 1]
      obtain ⟨j, b, hj, hb, hstop, hjk, hbefore⟩ := ih hk' (by omega)
      refine ⟨j, b, hj, hb, hstop, by omega, fun i hi hij c hc => ?_⟩
      rcases Nat.eq_or_lt_of_le hi with rfl | hi
      · rw [List.getElem?_eq_getElem hlt] at hc
        exact Option.some.inj hc ▸ htest
      · exact hbefore i hi hij c hc
    · next htest =>
      exact ⟨position, _, rfl, List.getElem?_eq_getElem hlt, by simpa using htest, by omega,
        fun i hi hij => by omega⟩

/-- `while position + 1 < stop and test(l[position + 1]): position += 1`. -/
def lookAhead (test : α → Bool) (l : List α) (stop position : ℕ) : ℕ :=
  position + (((l.take stop).drop (position + 1)).takeWhile test).length

/-- The loop does not go back, and stops before its end unless it started there. -/
theorem lookAhead_le (test : α → Bool) (l : List α) (stop position : ℕ) :
    position ≤ lookAhead test l stop position ∧
      (lookAhead test l stop position = position ∨ lookAhead test l stop position < stop) := by
  have hle := (List.takeWhile_sublist test (l := (l.take stop).drop (position + 1))).length_le
  rw [List.length_drop, List.length_take] at hle
  unfold lookAhead
  omega

theorem lookAhead_eq (test : α → Bool) (l : List α) (stop position : ℕ) :
    lookAhead test l stop position =
      position + ((l.take stop).drop (position + 1)).findIdx (!test ·) := by
  rw [lookAhead, List.takeWhile_eq_take_findIdx_not, List.length_take,
    Nat.min_eq_left List.findIdx_le_length]

theorem getElem?_drop_take {l : List α} {stop position i : ℕ} (hlt : position < i) (hi : i < stop) :
    ((l.take stop).drop (position + 1))[i - (position + 1)]? = l[i]? := by
  rw [List.getElem?_drop, show position + 1 + (i - (position + 1)) = i by omega,
    List.getElem?_take_of_lt hi]

/-- The elements that the loop passes satisfy the test. -/
theorem lookAhead_passed {test : α → Bool} {l : List α} {stop position : ℕ}
    (hlt : position < i) (hle : i ≤ lookAhead test l stop position) (hc : l[i]? = some c) :
    test c = true := by
  have hi : i < stop := by
    have := (lookAhead_le test l stop position).2
    omega
  rw [lookAhead_eq] at hle
  rw [← getElem?_drop_take hlt hi] at hc
  obtain ⟨_, rfl⟩ := List.getElem?_eq_some_iff.1 hc
  simpa using List.not_of_lt_findIdx (p := (!test ·)) (by omega :
    i - (position + 1) < ((l.take stop).drop (position + 1)).findIdx (!test ·))

/-- The element after the one where the loop ends early fails the test. -/
theorem lookAhead_stopped {test : α → Bool} {l : List α} {stop position : ℕ}
    (hlt : lookAhead test l stop position + 1 < stop)
    (hc : l[lookAhead test l stop position + 1]? = some c) : test c = false := by
  have hle := (lookAhead_le test l stop position).1
  rw [← getElem?_drop_take (Nat.lt_succ_of_le hle) hlt] at hc
  obtain ⟨hrange, rfl⟩ := List.getElem?_eq_some_iff.1 hc
  have hidx : lookAhead test l stop position + 1 - (position + 1) =
      ((l.take stop).drop (position + 1)).findIdx (!test ·) := by
    rw [lookAhead_eq]
    omega
  simp only [hidx] at hrange ⊢
  simpa using List.findIdx_getElem (w := hrange)

/-- Where the loop ends. -/
theorem lookAhead_spec (test : α → Bool) (l : List α) (stop position : ℕ) :
    ∃ j, lookAhead test l stop position = j ∧ position ≤ j ∧ (j = position ∨ j < stop) ∧
      (∀ i c, position < i → i ≤ j → l[i]? = some c → test c = true) ∧
      ∀ c, j + 1 < stop → l[j + 1]? = some c → test c = false :=
  ⟨_, rfl, (lookAhead_le test l stop position).1, (lookAhead_le test l stop position).2,
    fun _ _ hlt hle hc => lookAhead_passed hlt hle hc, fun _ hlt hc => lookAhead_stopped hlt hc⟩

end RoboticsRuntime.Theory
