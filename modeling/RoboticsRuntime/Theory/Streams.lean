import Mathlib.Data.List.Basic

/-!
# Programs that read a seekable stream

A program moves over a stream and may raise an error; a loop that has used up its fuel diverges. The
stream records what is read of it. `Computes` and `Decides` describe what a program does from a
position by a partial value or a proposition, and bound what it reads; their rules follow the program.
-/

namespace RoboticsRuntime.Theory

variable {β ε α γ : Type}

/-- Some elements of a list, from a position on. -/
def slice (l : List β) (position size : ℕ) : List β := (l.drop position).take size

theorem length_slice {l : List β} {position size : ℕ} (h : position + size ≤ l.length) :
    (slice l position size).length = size := by
  rw [slice, List.length_take, List.length_drop]
  omega

theorem slice_add (l : List β) (position m n : ℕ) :
    slice l position (m + n) = slice l position m ++ slice l (position + m) n := by
  rw [slice, slice, slice, List.take_add, List.drop_drop]

/-- The elements of a list from one position to another. -/
def between (l : List β) (start stop : ℕ) : List β := slice l start (stop - start)

theorem length_between {l : List β} {start stop : ℕ} (hstop : stop ≤ l.length) :
    (between l start stop).length = stop - start := by
  rw [between, slice, List.length_take, List.length_drop]
  omega

theorem between_append (l : List β) {start middle stop : ℕ} (hstart : start ≤ middle)
    (hstop : middle ≤ stop) : between l start middle ++ between l middle stop = between l start stop := by
  obtain ⟨m, rfl⟩ := Nat.exists_eq_add_of_le hstart
  obtain ⟨n, rfl⟩ := Nat.exists_eq_add_of_le hstop
  rw [between, between, between, Nat.add_sub_cancel_left, Nat.add_sub_cancel_left, Nat.add_assoc,
    Nat.add_sub_cancel_left, slice_add]

/-- The parts of what is between two positions meet at a position. -/
theorem append_eq_between {l : List β} {start stop : ℕ} {front back : List β}
    (h : front ++ back = between l start stop) (hstart : start ≤ stop) (hstop : stop ≤ l.length) :
    start + front.length ≤ stop ∧ front = between l start (start + front.length) ∧
      back = between l (start + front.length) stop := by
  have hle : start + front.length ≤ stop := by
    have hlength := congrArg List.length h
    rw [List.length_append, length_between hstop] at hlength
    omega
  rw [← between_append l (Nat.le_add_right start front.length) hle] at h
  exact ⟨hle, List.append_inj h (by
    rw [length_between (Nat.le_trans hle hstop), Nat.add_sub_cancel_left])⟩

/-! ## Streams -/

/-- A stream, with the place and the number of elements of each read that was made of it. -/
structure Stream (β : Type) where
  contents : List β
  position : ℕ
  reads : List (ℕ × ℕ)

/-- All that was read lies between two positions. -/
def Stream.ReadsWithin (s : Stream β) (lo hi : ℕ) : Prop :=
  ∀ read ∈ s.reads, lo ≤ read.1 ∧ read.1 + read.2 ≤ hi

/-- How a program ends other than with a value. -/
inductive Failure (ε : Type) where
  | raised (error : ε)
  | diverged
  deriving DecidableEq, Repr

/-- A program that reads a stream. -/
def Reader (β ε α : Type) : Type := Stream β → Except (Failure ε) α × Stream β

namespace Reader

/-- The rest of a program after its first part has ended. -/
def andThen (f : α → Reader β ε γ) : Except (Failure ε) α × Stream β →
    Except (Failure ε) γ × Stream β
  | (.ok a, s) => f a s
  | (.error e, s) => (.error e, s)

instance : Monad (Reader β ε) where
  pure a := fun s => (.ok a, s)
  bind x f := fun s => andThen f (x s)

def raise (e : ε) : Reader β ε α := fun s => (.error (.raised e), s)

def diverge : Reader β ε α := fun s => (.error .diverged, s)

/-- Raise an error unless a condition holds. -/
def ensure (p : Prop) [Decidable p] (e : ε) : Reader β ε Unit := if p then pure () else raise e

/-- `stream.seek(position)`. -/
def seek (position : ℕ) : Reader β ε Unit := fun s => (.ok (), { s with position })

/-- `stream.seek(0, 2)`: the position is the length of the stream. -/
def seekEnd : Reader β ε ℕ := fun s =>
  (.ok s.contents.length, { s with position := s.contents.length })

/-- `stream.tell()`. -/
def tell : Reader β ε ℕ := fun s => (.ok s.position, s)

/-- `stream.read(size)`: no more than what is left of the stream. -/
def read (size : ℕ) : Reader β ε (List β) := fun s =>
  let block := slice s.contents s.position size
  (.ok block, { s with
    position := s.position + block.length
    reads := s.reads ++ [(s.position, block.length)] })

theorem bind_of_ok {x : Reader β ε α} {f : α → Reader β ε γ} {s : Stream β} {a : α}
    (h : (x s).1 = .ok a) : (x >>= f) s = f a (x s).2 := by
  have hx : x s = (.ok a, (x s).2) := Prod.ext h rfl
  have hrun : (x >>= f) s = andThen f (x s) := rfl
  rw [hrun, hx, andThen]

theorem bind_of_error {x : Reader β ε α} {f : α → Reader β ε γ} {s : Stream β} {e : Failure ε}
    (h : (x s).1 = .error e) : (x >>= f) s = (.error e, (x s).2) := by
  have hx : x s = (.error e, (x s).2) := Prod.ext h rfl
  have hrun : (x >>= f) s = andThen f (x s) := rfl
  rw [hrun, hx, andThen]

/-- An outcome is what a program ends with: a value and a position, or an error. -/
def Ends (result : Except (Failure ε) α) (position : ℕ) : Option (α × ℕ) → Prop
  | some (value, stop) => result = .ok value ∧ position = stop
  | none => ∃ e, result = .error (.raised e)

section Rules
variable {contents : List β} {lo hi : ℕ}

/-- From a position, a program ends with an outcome and reads nothing outside a window. -/
def Computes (contents : List β) (lo hi : ℕ) (x : Reader β ε α) (position : ℕ)
    (outcome : Option (α × ℕ)) : Prop :=
  ∀ s : Stream β, s.contents = contents → s.position = position → s.ReadsWithin lo hi →
    (x s).2.contents = contents ∧ (x s).2.ReadsWithin lo hi ∧ Ends (x s).1 (x s).2.position outcome

/-- From a position, a program accepts when a proposition holds and raises an error otherwise, and
reads nothing outside a window. -/
def Decides (contents : List β) (lo hi : ℕ) (x : Reader β ε Unit) (position : ℕ) (p : Prop) : Prop :=
  ∀ s : Stream β, s.contents = contents → s.position = position → s.ReadsWithin lo hi →
    (x s).2.contents = contents ∧ (x s).2.ReadsWithin lo hi ∧
      ((x s).1 = .ok () ∧ p ∨ (∃ e, (x s).1 = .error (.raised e)) ∧ ¬ p)

theorem computes_pure (a : α) (position : ℕ) :
    Computes contents lo hi (pure a : Reader β ε α) position (some (a, position)) :=
  fun _ hc hp hw => ⟨hc, hw, rfl, hp⟩

theorem computes_raise (e : ε) (position : ℕ) :
    Computes contents lo hi (raise e : Reader β ε α) position none :=
  fun _ hc _ hw => ⟨hc, hw, e, rfl⟩

theorem computes_seek (target position : ℕ) :
    Computes contents lo hi (seek target : Reader β ε Unit) position (some ((), target)) :=
  fun _ hc _ hw => ⟨hc, hw, rfl, rfl⟩

theorem computes_seekEnd (position : ℕ) :
    Computes contents lo hi (seekEnd : Reader β ε ℕ) position
      (some (contents.length, contents.length)) :=
  fun _ hc _ hw => ⟨hc, hw, by rw [← hc]; rfl, by rw [← hc]; rfl⟩

theorem computes_tell (position : ℕ) :
    Computes contents lo hi (tell : Reader β ε ℕ) position (some (position, position)) :=
  fun _ hc hp hw => ⟨hc, hw, by rw [← hp]; rfl, hp⟩

theorem computes_ensure {p : Prop} [Decidable p] (h : p) (e : ε) (position : ℕ) :
    Computes contents lo hi (ensure p e : Reader β ε Unit) position (some ((), position)) := by
  rw [ensure, if_pos h]
  exact computes_pure () position

theorem computes_ensure_of_not {p : Prop} [Decidable p] (h : ¬ p) (e : ε) (position : ℕ) :
    Computes contents lo hi (ensure p e : Reader β ε Unit) position none := by
  rw [ensure, if_neg h]
  exact computes_raise e position

/-- A read inside the window yields all that it asks for. -/
theorem computes_read {size position : ℕ} (hlo : lo ≤ position) (hhi : position + size ≤ hi)
    (hlength : hi ≤ contents.length) :
    Computes contents lo hi (read size : Reader β ε (List β)) position
      (some (slice contents position size, position + size)) := by
  rintro s rfl rfl hw
  have hsize : (slice s.contents s.position size).length = size := length_slice (by omega)
  refine ⟨rfl, ?_, rfl, congrArg (s.position + ·) hsize⟩
  intro read hread
  rcases List.mem_append.1 hread with hread | hread
  · exact hw read hread
  · obtain rfl := List.mem_singleton.1 hread
    exact ⟨hlo, by rwa [hsize]⟩

/-- A program goes on from where its first part ends. -/
theorem Computes.bind {x : Reader β ε α} {f : α → Reader β ε γ} {position stop : ℕ} {a : α}
    {outcome : Option (γ × ℕ)} (hx : Computes contents lo hi x position (some (a, stop)))
    (hf : Computes contents lo hi (f a) stop outcome) :
    Computes contents lo hi (x >>= f) position outcome := by
  intro s hc hp hw
  obtain ⟨hc', hw', ha, hstop⟩ := hx s hc hp hw
  rw [bind_of_ok ha]
  exact hf _ hc' hstop hw'

theorem Computes.bind_none {x : Reader β ε α} {position : ℕ}
    (hx : Computes contents lo hi x position none) (f : α → Reader β ε γ) :
    Computes contents lo hi (x >>= f) position none := by
  intro s hc hp hw
  obtain ⟨hc', hw', e, he⟩ := hx s hc hp hw
  rw [bind_of_error he]
  exact ⟨hc', hw', e, rfl⟩

theorem Computes.decides {x : Reader β ε α} {f : α → Reader β ε Unit} {position stop : ℕ} {a : α}
    {p : Prop} (hx : Computes contents lo hi x position (some (a, stop)))
    (hf : Decides contents lo hi (f a) stop p) : Decides contents lo hi (x >>= f) position p := by
  intro s hc hp hw
  obtain ⟨hc', hw', ha, hstop⟩ := hx s hc hp hw
  rw [bind_of_ok ha]
  exact hf _ hc' hstop hw'

theorem Computes.decides_none {x : Reader β ε α} {position : ℕ}
    (hx : Computes contents lo hi x position none) (f : α → Reader β ε Unit) {p : Prop} (hp : ¬ p) :
    Decides contents lo hi (x >>= f) position p := by
  intro s hc hposition hw
  obtain ⟨hc', hw', e, he⟩ := hx s hc hposition hw
  rw [bind_of_error he]
  exact ⟨hc', hw', .inr ⟨⟨e, rfl⟩, hp⟩⟩

theorem Decides.congr {x : Reader β ε Unit} {position : ℕ} {p q : Prop}
    (h : Decides contents lo hi x position p) (hpq : p ↔ q) : Decides contents lo hi x position q :=
  propext hpq ▸ h

/-- A program that ignores where the first one ends accepts after it when both do. -/
theorem Decides.seq {x y : Reader β ε Unit} {position : ℕ} {p q : Prop}
    (hx : Decides contents lo hi x position p) (hy : ∀ stop, Decides contents lo hi y stop q) :
    Decides contents lo hi (x >>= fun _ => y) position (p ∧ q) := by
  intro s hc hp hw
  obtain ⟨hc', hw', hdecides⟩ := hx s hc hp hw
  rcases hdecides with ⟨hok, hp⟩ | ⟨⟨e, he⟩, hp⟩
  · rw [bind_of_ok hok]
    simpa only [hp, true_and] using hy _ _ hc' rfl hw'
  · rw [bind_of_error he]
    exact ⟨hc', hw', .inr ⟨⟨e, rfl⟩, fun h => hp h.1⟩⟩

theorem decides_pure (position : ℕ) :
    Decides contents lo hi (pure () : Reader β ε Unit) position True :=
  fun _ hc _ hw => ⟨hc, hw, .inl ⟨rfl, trivial⟩⟩

theorem decides_ensure (p : Prop) [Decidable p] (e : ε) (position : ℕ) :
    Decides contents lo hi (ensure p e : Reader β ε Unit) position p := by
  intro s hc _ hw
  unfold ensure
  split
  · next h => exact ⟨hc, hw, .inl ⟨rfl, h⟩⟩
  · next h => exact ⟨hc, hw, .inr ⟨⟨e, rfl⟩, h⟩⟩

end Rules

end Reader

end RoboticsRuntime.Theory
