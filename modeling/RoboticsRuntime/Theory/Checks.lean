import Mathlib.Data.List.Nodup
import Mathlib.Data.List.Basic
import Mathlib.Data.List.Chain
import Mathlib.Data.List.Forall2

/-!
# Programs of checks

A checker is a sequence of checks in `Except`: it stops at the first check that fails. The rules
below say when such a sequence accepts, so that a proof about a checker never unfolds the monad.
-/

namespace RoboticsRuntime.Theory

variable {ε α β : Type}

/-- Fail with `e` unless `p` holds. -/
def require (p : Prop) [Decidable p] (e : ε) : Except ε Unit :=
  if p then .ok () else .error e

@[simp] theorem require_eq_ok {p : Prop} [Decidable p] {e : ε} {u : Unit} :
    require p e = .ok u ↔ p := by
  unfold require; split <;> simp_all

theorem require_of {p : Prop} [Decidable p] {e : ε} (h : p) : require p e = .ok () :=
  require_eq_ok.2 h

theorem require_eq_error {p : Prop} [Decidable p] {e e' : ε} :
    require p e = .error e' ↔ ¬ p ∧ e = e' := by
  unfold require; split <;> simp_all

/-- Look up an optional value, failing with `e` when it is absent. -/
def demand (o : Option α) (e : ε) : Except ε α :=
  match o with
  | some a => .ok a
  | none => .error e

@[simp] theorem demand_eq_ok {o : Option α} {e : ε} {a : α} : demand o e = .ok a ↔ o = some a := by
  cases o <;> simp [demand]

theorem bind_eq_ok {x : Except ε α} {f : α → Except ε β} {b : β} :
    (x >>= f) = .ok b ↔ ∃ a, x = .ok a ∧ f a = .ok b := by
  cases x with
  | error e => exact ⟨(nomatch ·), fun ⟨_, h, _⟩ => (nomatch h)⟩
  | ok a =>
    refine ⟨fun h => ⟨a, rfl, h⟩, ?_⟩
    rintro ⟨_, h, h'⟩
    cases h; exact h'

@[simp] theorem ok_bind (a : α) (f : α → Except ε β) : (Except.ok a >>= f) = f a := rfl

/-- What holds of the result of a program, for a program that returns at once. -/
theorem exists_pure_eq_ok {a : α} {p : α → Prop} :
    (∃ b, (pure a : Except ε α) = .ok b ∧ p b) ↔ p a :=
  ⟨fun ⟨_, h, hp⟩ => Except.ok.inj h ▸ hp, fun h => ⟨a, rfl, h⟩⟩

theorem exists_bind_eq_ok {x : Except ε α} {f : α → Except ε β} {p : β → Prop} :
    (∃ b, (x >>= f) = .ok b ∧ p b) ↔ ∃ a, x = .ok a ∧ ∃ b, f a = .ok b ∧ p b := by
  simp only [bind_eq_ok]
  exact ⟨fun ⟨b, ⟨a, hx, hf⟩, hp⟩ => ⟨a, hx, b, hf, hp⟩,
    fun ⟨a, hx, b, hf, hp⟩ => ⟨b, ⟨a, hx, hf⟩, hp⟩⟩

/-- A sequence of two checks accepts when both do. -/
theorem seq_eq_ok {x : Except ε Unit} {y : Except ε β} {b : β} :
    (x >>= fun _ => y) = .ok b ↔ x = .ok () ∧ y = .ok b := by
  rw [bind_eq_ok]
  exact ⟨fun ⟨_, h, h'⟩ => ⟨h, h'⟩, fun ⟨h, h'⟩ => ⟨(), h, h'⟩⟩

/-- A sequence of two checks fails with the error of the first of them that does. -/
theorem seq_eq_error {x : Except ε Unit} {y : Except ε β} {e : ε} :
    (x >>= fun _ => y) = .error e ↔ x = .error e ∨ x = .ok () ∧ y = .error e := by
  cases x with
  | error e' => simp [bind, Except.bind]
  | ok u => simp [bind, Except.bind]

/-- A check made at every element of a list accepts when it accepts each of them. -/
theorem forM_eq_ok {l : List α} {f : α → Except ε Unit} :
    forM l f = .ok () ↔ ∀ a ∈ l, f a = .ok () := by
  induction l with
  | nil => exact ⟨fun _ _ h => (nomatch h), fun _ => rfl⟩
  | cons a l ih =>
    rw [List.forM_cons, seq_eq_ok, ih]
    simp only [List.mem_cons, forall_eq_or_imp]

/-- Positions only label the checks of the elements. -/
theorem forM_zipIdx_eq_ok {P : α → Prop} {l : List α} {k : ℕ} {f : α × ℕ → Except ε Unit}
    (hf : ∀ a i, f (a, i) = .ok () ↔ P a) :
    forM (l.zipIdx k) f = .ok () ↔ ∀ a ∈ l, P a := by
  induction l generalizing k with
  | nil => exact ⟨fun _ _ h => (nomatch h), fun _ => rfl⟩
  | cons a l ih =>
    rw [List.zipIdx_cons, List.forM_cons, seq_eq_ok, ih, hf, List.forall_mem_cons]

/-- The consecutive elements of a list are related when the list is a chain. -/
theorem forall_zip_tail {R : α → α → Prop} {l : List α} :
    (∀ e ∈ l.zip l.tail, R e.1 e.2) ↔ l.IsChain R := by
  induction l with
  | nil => simp
  | cons a l ih =>
    cases l with
    | nil => simp
    | cons b l =>
      rw [List.isChain_cons_cons, ← ih]
      simp only [List.tail_cons, List.zip_cons_cons, List.forall_mem_cons]

/-- A function that may fail, run over a list, succeeds when it does at every element. -/
theorem mapM_eq_ok {l : List α} {f : α → Except ε β} {r : List β} :
    l.mapM f = .ok r ↔ List.Forall₂ (fun a b => f a = .ok b) l r := by
  induction l generalizing r with
  | nil =>
    rw [List.forall₂_nil_left_iff]
    exact ⟨fun h => (Except.ok.inj h).symm, fun h => h ▸ rfl⟩
  | cons a l ih =>
    rw [List.mapM_cons, bind_eq_ok]
    constructor
    · rintro ⟨b, hb, h⟩
      obtain ⟨bs, hbs, h⟩ := bind_eq_ok.1 h
      cases h
      exact .cons hb (ih.1 hbs)
    · rintro (_ | ⟨hb, hbs⟩)
      exact ⟨_, hb, bind_eq_ok.2 ⟨_, ih.2 hbs, rfl⟩⟩

theorem exists_mapM_eq_ok {l : List α} {f : α → Except ε β} :
    (∃ r, l.mapM f = .ok r) ↔ ∀ a ∈ l, ∃ b, f a = .ok b := by
  simp only [mapM_eq_ok]
  induction l with
  | nil => exact ⟨fun _ _ h => (nomatch h), fun _ => ⟨[], .nil⟩⟩
  | cons a l ih =>
    rw [List.forall_mem_cons, ← ih]
    constructor
    · rintro ⟨_, _ | ⟨hb, h⟩⟩
      exact ⟨⟨_, hb⟩, ⟨_, h⟩⟩
    · rintro ⟨⟨b, hb⟩, ⟨r, h⟩⟩
      exact ⟨b :: r, .cons hb h⟩

theorem map_eq_of_forall₂ {γ : Type} {R : α → β → Prop} {f : α → γ} {g : β → γ} {l : List α}
    {r : List β} (hf : ∀ a b, R a b → f a = g b) (h : List.Forall₂ R l r) : l.map f = r.map g := by
  induction h with
  | nil => rfl
  | cons h _ ih => rw [List.map_cons, List.map_cons, hf _ _ h, ih]

/-- Every element on the right is related to one on the left. -/
theorem exists_of_forall₂_mem {R : α → β → Prop} {l : List α} {r : List β}
    (h : List.Forall₂ R l r) {b : β} (hb : b ∈ r) : ∃ a ∈ l, R a b := by
  induction h with
  | nil => cases hb
  | cons ha _ ih =>
    rcases List.mem_cons.1 hb with rfl | hb
    · exact ⟨_, List.mem_cons_self, ha⟩
    · obtain ⟨a, hm, h⟩ := ih hb
      exact ⟨a, List.mem_cons_of_mem _ hm, h⟩

/-- Relations between the earlier and the later elements of two related lists. -/
theorem pairwise_and_of_forall₂ {R : α → β → Prop} {S : α → α → Prop} {T : β → β → Prop}
    {l : List α} {r : List β} (h : List.Forall₂ R l r) (hl : l.Pairwise S) (hr : r.Pairwise T) :
    r.Pairwise fun b b' => ∃ a a', R a b ∧ R a' b' ∧ S a a' ∧ T b b' := by
  induction h with
  | nil => exact .nil
  | @cons a b l r hab hrest ih =>
    obtain ⟨ha, hl⟩ := List.pairwise_cons.1 hl
    obtain ⟨hb, hr⟩ := List.pairwise_cons.1 hr
    refine List.pairwise_cons.2 ⟨fun b' hb' => ?_, ih hl hr⟩
    obtain ⟨a', ha', hab'⟩ := exists_of_forall₂_mem hrest hb'
    exact ⟨a, a', hab, hab', ha a' ha', hb b' hb'⟩

/-- A function that computes where its condition holds computes every element of a list. -/
theorem mapM_eq_ok_map {f : α → Except ε β} {p : α → Prop} {g : α → β}
    (h : ∀ a b, f a = .ok b ↔ p a ∧ b = g a) {l : List α} {bs : List β} :
    l.mapM f = .ok bs ↔ (∀ a ∈ l, p a) ∧ bs = l.map g := by
  rw [mapM_eq_ok]
  induction l generalizing bs with
  | nil => simp [List.forall₂_nil_left_iff]
  | cons a l ih =>
    rw [List.forall₂_cons_left_iff, List.forall_mem_cons, List.map_cons]
    constructor
    · rintro ⟨b, bs, hb, hbs, rfl⟩
      obtain ⟨ha, rfl⟩ := (h a b).1 hb
      obtain ⟨hl, rfl⟩ := ih.1 hbs
      exact ⟨⟨ha, hl⟩, rfl⟩
    · rintro ⟨⟨ha, hl⟩, rfl⟩
      exact ⟨g a, l.map g, (h a _).2 ⟨ha, rfl⟩, ih.2 ⟨hl, rfl⟩, rfl⟩

@[simp] theorem toOption_eq_some {x : Except ε α} {a : α} :
    x.toOption = some a ↔ x = .ok a := by
  cases x <;> simp [Except.toOption]

@[simp] theorem mapError_eq_ok {ε' : Type} {x : Except ε α} {f : ε → ε'} {a : α} :
    x.mapError f = .ok a ↔ x = .ok a := by
  cases x <;> simp [Except.mapError]

theorem mapError_eq_error {ε' : Type} {x : Except ε α} {f : ε → ε'} {e : ε'} :
    x.mapError f = .error e ↔ ∃ e', x = .error e' ∧ e = f e' := by
  cases x with
  | error e' =>
    simp only [Except.mapError, Except.error.injEq, exists_eq_left']
    exact eq_comm
  | ok a => simp [Except.mapError]

/-- A program fails in its first part, or in the rest of it. -/
theorem bind_eq_error {x : Except ε α} {f : α → Except ε β} {e : ε} :
    (x >>= f) = .error e ↔ x = .error e ∨ ∃ a, x = .ok a ∧ f a = .error e := by
  cases x with
  | error e' => simp [bind, Except.bind]
  | ok a => simp [bind, Except.bind]

/-- A computed result passes a test that is run on it. -/
theorem exists_ok_of_any {x : Except ε α} {p : α → Bool} (h : x.toOption.any p = true) :
    ∃ a, x = .ok a ∧ p a = true := by
  cases x with
  | error e => cases h
  | ok a => exact ⟨a, rfl, h⟩

/-- The elements of a list whose images under `f` are distinct. -/
def Distinct (f : α → β) (l : List α) : Prop := (l.map f).Nodup

instance [DecidableEq β] (f : α → β) (l : List α) : Decidable (Distinct f l) :=
  inferInstanceAs (Decidable (l.map f).Nodup)

theorem Distinct.eq_of_mem {f : α → β} {l : List α} (h : Distinct f l) {a b : α} (ha : a ∈ l)
    (hb : b ∈ l) (hab : f a = f b) : a = b :=
  List.inj_on_of_nodup_map h ha hb hab

/-- In a list with distinct keys a lookup finds every element under its key. -/
theorem Distinct.find?_eq [DecidableEq β] {f : α → β} {l : List α} (h : Distinct f l) {a : α}
    (ha : a ∈ l) : l.find? (fun b => f b = f a) = some a := by
  cases hf : l.find? (fun b => f b = f a) with
  | none => simpa using List.find?_eq_none.1 hf a ha
  | some b =>
    have hb : f b = f a := by simpa using List.find?_some hf
    rw [h.eq_of_mem (List.mem_of_find?_eq_some hf) ha hb]

end RoboticsRuntime.Theory
