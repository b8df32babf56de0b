import Mathlib.Algebra.Order.BigOperators.Group.List
import Mathlib.Algebra.Order.Ring.Nat
import Mathlib.Algebra.Order.Ring.Rat
import RoboticsRuntime.Harness.Capture
import RoboticsRuntime.Theory.Loops

/-!
# The captured output does not depend on the scheduling

Whatever the operating system delivers and when, the buffers stay within the limits, and a capture
that ends before its deadline ends as the whole output says.
-/

namespace RoboticsRuntime.Harness
open Theory

variable {limits : ByteLimits} {output : Pipe → List UInt8} {st st' : CaptureState}
  {round : CaptureRound} {rounds : List CaptureRound} {pipe : Pipe}

/-! ## Sizes -/

/-- The bytes of both pipes. -/
def size (bytes : Pipe → List UInt8) : ℕ := (bytes .stdout).length + (bytes .stderr).length

theorem size_le (h : ∀ pipe, ((f pipe).length ≤ (g pipe).length)) : size f ≤ size g :=
  Nat.add_le_add (h .stdout) (h .stderr)

theorem size_extend (f : Pipe → List UInt8) (pipe : Pipe) (chunk : List UInt8) :
    size (Function.update f pipe (f pipe ++ chunk)) = size f + chunk.length := by
  cases pipe with
  | stdout => simp [size, Nat.add_right_comm]
  | stderr => simp [size, Nat.add_assoc]

namespace ByteLimits

/-- The bytes of each pipe are within its limit, and all of them within the shared limit. -/
def Fits (limits : ByteLimits) (bytes : Pipe → List UInt8) : Prop :=
  (∀ pipe, (bytes pipe).length ≤ limits.stream pipe) ∧
    ∀ shared ∈ limits.shared, size bytes ≤ shared

/-- `available` counts the bytes that fit. -/
theorem le_available {n : ℕ} : (n : ℤ) ≤ limits.available st pipe ↔
    (st.buffers pipe).length + n ≤ limits.stream pipe ∧
      ∀ shared ∈ limits.shared, size st.buffers + n ≤ shared := by
  unfold available
  cases limits.shared with
  | none =>
    simp only [Option.mem_def, reduceCtorEq, false_implies, implies_true, and_true]
    omega
  | some shared =>
    simp only [Option.mem_def, Option.some.injEq, forall_eq', le_min_iff, size]
    rw [CaptureState.total]
    omega

theorem Fits.available_nonneg (h : limits.Fits st.buffers) (pipe : Pipe) :
    0 ≤ limits.available st pipe :=
  (@le_available limits st pipe 0).2 ⟨h.1 pipe, h.2⟩

/-- What the capture gives: both outputs when they fit, and otherwise the error of a byte too
many. -/
noncomputable def captured (limits : ByteLimits) (output : Pipe → List UInt8) :
    Except CaptureError (List UInt8 × List UInt8) :=
  open Classical in
  if limits.Fits output then .ok (output .stdout, output .stderr) else .error limits.exceeded

end ByteLimits

/-! ## One read -/

/-- The buffers fit and hold what has been read, and a pipe that is unregistered is read to its
end. -/
structure Capturing (limits : ByteLimits) (output : Pipe → List UInt8) (st : CaptureState) :
    Prop where
  fits : limits.Fits st.buffers
  split : ∀ pipe, st.buffers pipe ++ st.unread pipe = output pipe
  ended : ∀ pipe, st.registered pipe = false → st.unread pipe = []

theorem Capturing.start (limits : ByteLimits) (output : Pipe → List UInt8) :
    Capturing limits output (.start output) where
  fits := ⟨fun _ => Nat.zero_le _, fun _ _ => Nat.zero_le _⟩
  split _ := rfl
  ended _ h := by cases h

theorem readPipe_cases {key : Pipe × Arrival} (h : readPipe limits st key = r) :
    r = .ok st ∧ key.2 = .blocked ∨
    ∃ more chunk, key.2 = .bytes more ∧
      chunk = (st.unread key.1).take
        (min (min (64 * 1024) (limits.available st key.1 + 1)).toNat (more + 1)) ∧
      (chunk = [] ∧ r = .ok (st.unregister key.1) ∨
        chunk ≠ [] ∧ limits.available st key.1 < chunk.length ∧ r = .error limits.exceeded ∨
        chunk ≠ [] ∧ chunk.length ≤ limits.available st key.1 ∧ r = .ok (st.extend key.1 chunk)) := by
  subst h
  obtain ⟨pipe, arrival⟩ := key
  cases arrival with
  | blocked => exact .inl ⟨rfl, rfl⟩
  | bytes more =>
    refine .inr ⟨more, _, rfl, rfl, ?_⟩
    simp only [readPipe, osRead]
    split
    · next hempty => exact .inl ⟨hempty, rfl⟩
    · next hne =>
      refine .inr ?_
      split
      · next hlt => exact .inl ⟨hne, hlt, rfl⟩
      · next hle => exact .inr ⟨hne, Int.not_lt.1 hle, rfl⟩

namespace Capturing

variable {key : Pipe × Arrival} (H : Capturing limits output st)
include H

/-- No bytes are read at the end of the output only, since a read asks for one byte at least. -/
theorem unread_eq_nil {more : ℕ} (h : (st.unread pipe).take
    (min (min (64 * 1024) (limits.available st pipe + 1)).toNat (more + 1)) = []) :
    st.unread pipe = [] := by
  have havailable := H.fits.available_nonneg pipe
  rcases List.take_eq_nil_iff.1 h with hzero | hnil
  · omega
  · exact hnil

theorem unregister (h : st.unread pipe = []) : Capturing limits output (st.unregister pipe) where
  fits := H.fits
  split := H.split
  ended other hother := by
    by_cases he : other = pipe
    · exact he ▸ h
    · exact H.ended other (by simpa [CaptureState.unregister, he] using hother)

/-- A chunk that is available and comes next is appended. -/
theorem extend {chunk : List UInt8} (hleads : chunk <+: st.unread pipe)
    (havailable : chunk.length ≤ limits.available st pipe) :
    Capturing limits output (st.extend pipe chunk) where
  fits := by
    obtain ⟨hown, hshared⟩ := ByteLimits.le_available.1 havailable
    constructor
    · intro other
      by_cases he : other = pipe
      · subst he
        simpa [CaptureState.extend] using hown
      · simpa [CaptureState.extend, he] using H.fits.1 other
    · intro shared hs
      rw [CaptureState.extend, size_extend]
      exact hshared shared hs
  split other := by
    by_cases he : other = pipe
    · subst he
      obtain ⟨rest, hrest⟩ := hleads
      rw [← H.split other, ← hrest]
      simp [CaptureState.extend, ← hrest]
    · simpa [CaptureState.extend, he] using H.split other
  ended other hother := by
    have hnil := H.ended other hother
    by_cases he : other = pipe
    · subst he
      simp [CaptureState.extend, hnil]
    · simpa [CaptureState.extend, he] using hnil

/-- A chunk that is not available does not fit with what is read before it. -/
theorem not_fits {chunk : List UInt8} (hleads : chunk <+: st.unread pipe)
    (havailable : limits.available st pipe < chunk.length) : ¬ limits.Fits output := by
  rintro ⟨hstream, hshared⟩
  refine absurd (ByteLimits.le_available.2 ⟨?_, fun shared hs => ?_⟩) (Int.not_le.2 havailable)
  · calc (st.buffers pipe).length + chunk.length
        ≤ (st.buffers pipe).length + (st.unread pipe).length :=
          Nat.add_le_add_left hleads.length_le _
      _ = (output pipe).length := by rw [← H.split, List.length_append]
      _ ≤ limits.stream pipe := hstream pipe
  · rw [← size_extend st.buffers pipe chunk]
    refine (size_le fun other => ?_).trans (hshared shared hs)
    rw [← H.split other]
    by_cases he : other = pipe
    · subst he
      simpa using hleads.length_le
    · simp [he]

/-- One read keeps the invariant, and fails where the output does not fit. -/
theorem readPipe_ok (h : readPipe limits st key = .ok st') : Capturing limits output st' := by
  obtain ⟨hr, -⟩ | ⟨more, chunk, -, rfl, hr⟩ := readPipe_cases h
  · cases hr
    exact H
  · obtain ⟨hempty, hr⟩ | ⟨-, -, hr⟩ | ⟨-, hle, hr⟩ := hr
    · cases hr
      exact H.unregister (H.unread_eq_nil hempty)
    · cases hr
    · cases hr
      exact H.extend (List.take_prefix _ _) hle

theorem readPipe_error {e : CaptureError} (h : readPipe limits st key = .error e) :
    e = limits.exceeded ∧ ¬ limits.Fits output := by
  obtain ⟨hr, -⟩ | ⟨more, chunk, -, rfl, hr⟩ := readPipe_cases h
  · cases hr
  · obtain ⟨-, hr⟩ | ⟨-, hlt, hr⟩ | ⟨-, -, hr⟩ := hr
    · cases hr
    · cases hr
      exact ⟨rfl, H.not_fits (List.take_prefix _ _) hlt⟩
    · cases hr

/-! ## The loop -/

/-- The reads of one round, or the first of them. -/
theorem readAll (keys : List (Pipe × Arrival)) :
    (∀ st', keys.foldlM (readPipe limits) st = .ok st' → Capturing limits output st') ∧
      ∀ e, keys.foldlM (readPipe limits) st = .error e →
        e = limits.exceeded ∧ ¬ limits.Fits output :=
  foldlM_rule (fun _ _ _ H => H.readPipe_ok) (fun _ _ _ H => H.readPipe_error) keys H

theorem captureRound_ok (h : captureRound limits st round = .ok st') :
    Capturing limits output st' := by
  unfold captureRound at h
  split at h
  · cases h
  · exact (H.readAll _).1 st' h

theorem captureRound_error {e : CaptureError} (h : captureRound limits st round = .error e) :
    e = .timeoutExpired ∧ round.remaining ≤ 0 ∨ e = limits.exceeded ∧ ¬ limits.Fits output := by
  unfold captureRound at h
  split at h
  · next hlate =>
    cases h
    exact .inl ⟨rfl, hlate⟩
  · exact .inr ((H.readAll _).2 e h)

theorem captureLoop_ok (h : captureLoop limits rounds st = .ok st') :
    Capturing limits output st' := by
  induction rounds generalizing st with
  | nil =>
    cases h
    exact H
  | cons round rounds ih =>
    rw [captureLoop] at h
    split at h
    · obtain ⟨st₁, hround, hrest⟩ := bind_eq_ok.1 h
      exact ih (H.captureRound_ok hround) hrest
    · cases h
      exact H

theorem captureLoop_error {e : CaptureError} (h : captureLoop limits rounds st = .error e) :
    e = .timeoutExpired ∧ (∃ round ∈ rounds, round.remaining ≤ 0) ∨
      e = limits.exceeded ∧ ¬ limits.Fits output := by
  induction rounds generalizing st with
  | nil => cases h
  | cons round rounds ih =>
    rw [captureLoop] at h
    split at h
    · obtain hround | ⟨st₁, hround, hrest⟩ := bind_eq_error.1 h
      · obtain ⟨he, hlate⟩ | hlimit := H.captureRound_error hround
        · exact .inl ⟨he, round, List.mem_cons_self, hlate⟩
        · exact .inr hlimit
      · obtain ⟨he, late, hlate, hneg⟩ | hlimit := ih (H.captureRound_ok hround) hrest
        · exact .inl ⟨he, late, List.mem_cons_of_mem _ hlate, hneg⟩
        · exact .inr hlimit
    · cases h

/-- Where no pipe is registered the buffers hold the whole output. -/
theorem buffers_eq (h : st.waiting = false) : st.buffers = output := by
  obtain ⟨hout, herr⟩ := Bool.or_eq_false_iff.1 h
  funext pipe
  have hended : st.unread pipe = [] := by
    cases pipe with
    | stdout => exact H.ended _ hout
    | stderr => exact H.ended _ herr
  rw [← H.split pipe, hended, List.append_nil]

end Capturing

/-! ## Progress -/

/-- The reads of a pipe that are left at most: one for each byte, and one for the end. -/
def CaptureState.pending (pipe : Pipe) (st : CaptureState) : ℕ :=
  if st.registered pipe then (st.unread pipe).length + 1 else 0

/-- The key lets a pipe be read. -/
def offersPipe (pipe : Pipe) (key : Pipe × Arrival) : Bool :=
  key.1 = pipe ∧ key.2 ≠ .blocked

/-- The round lets a pipe be read. -/
def CaptureRound.offers (pipe : Pipe) (round : CaptureRound) : Bool :=
  round.ready.any (offersPipe pipe)

theorem pending_unregister (st : CaptureState) (other : Pipe) :
    (st.unregister other).pending pipe = if other = pipe then 0 else st.pending pipe := by
  by_cases he : pipe = other
  · subst he
    simp [CaptureState.pending, CaptureState.unregister]
  · simp [CaptureState.pending, CaptureState.unregister, he, Ne.symm he]

theorem pending_extend (st : CaptureState) (other : Pipe) {chunk : List UInt8} (hne : chunk ≠ [])
    (hleads : chunk <+: st.unread other) :
    (st.extend other chunk).pending pipe ≤ st.pending pipe - (if other = pipe then 1 else 0) := by
  have hpos := List.length_pos_of_ne_nil hne
  have hle := hleads.length_le
  by_cases he : pipe = other
  · subst he
    simp only [CaptureState.pending, CaptureState.extend, Function.update_self, List.length_drop,
      if_true]
    split <;> omega
  · simp [CaptureState.pending, CaptureState.extend, he, Ne.symm he]

theorem readPipe_pending {key : Pipe × Arrival} (h : readPipe limits st key = .ok st') :
    st'.pending pipe ≤ st.pending pipe - (if offersPipe pipe key then 1 else 0) := by
  obtain ⟨hr, hblocked⟩ | ⟨more, chunk, harrival, rfl, hr⟩ := readPipe_cases h
  · cases hr
    simp [offersPipe, hblocked]
  · have hoffers : offersPipe pipe key = decide (key.1 = pipe) := by
      simp [offersPipe, harrival]
    simp only [hoffers, decide_eq_true_eq]
    obtain ⟨-, hr⟩ | ⟨-, -, hr⟩ | ⟨hne, -, hr⟩ := hr
    · cases hr
      rw [pending_unregister]
      split <;> omega
    · cases hr
    · cases hr
      exact pending_extend st key.1 hne (List.take_prefix _ _)

theorem captureRound_pending (h : captureRound limits st round = .ok st') :
    st'.pending pipe ≤ st.pending pipe - (if round.offers pipe then 1 else 0) := by
  unfold captureRound at h
  split at h
  · cases h
  · have hdrop := foldlM_measure (CaptureState.pending pipe)
      (fun key => if offersPipe pipe key then 1 else 0) (fun _ _ _ => readPipe_pending) h
    cases hregistered : st.registered pipe with
    | false =>
      have hzero : st.pending pipe = 0 := by simp [CaptureState.pending, hregistered]
      omega
    | true =>
      refine hdrop.trans (Nat.sub_le_sub_left ?_ _)
      split
      · next hoffers =>
        obtain ⟨key, hkey, hoffer⟩ := List.any_eq_true.1 hoffers
        have hpipe : key.1 = pipe := by
          simp only [offersPipe, ne_eq, decide_eq_true_eq] at hoffer
          exact hoffer.1
        refine List.single_le_sum (fun _ _ => Nat.zero_le _) 1 (List.mem_map.2 ⟨key, ?_, ?_⟩)
        · exact List.mem_filter.2 ⟨hkey, by rw [hpipe, hregistered]⟩
        · rw [if_pos hoffer]
      · exact Nat.zero_le _

/-- A pipe that the loop waits for has been offered fewer times than there were reads left. -/
theorem captureLoop_pending (h : captureLoop limits rounds st = .ok st') (hw : st'.waiting = true) :
    st'.pending pipe ≤ st.pending pipe - rounds.countP (·.offers pipe) := by
  induction rounds generalizing st with
  | nil =>
    cases h
    exact Nat.le_refl _
  | cons round rounds ih =>
    rw [captureLoop] at h
    split at h
    · obtain ⟨st₁, hround, hrest⟩ := bind_eq_ok.1 h
      have hstep : st₁.pending pipe ≤ _ := captureRound_pending hround
      have hrec := ih hrest
      rw [List.countP_cons]
      omega
    · next hdone =>
      cases h
      exact absurd hw hdone

theorem pending_start (output : Pipe → List UInt8) (pipe : Pipe) :
    (CaptureState.start output).pending pipe = (output pipe).length + 1 := rfl

/-- Rounds that offer each pipe often enough end the loop. -/
theorem captureLoop_done (hoffers : ∀ pipe, (output pipe).length < rounds.countP (·.offers pipe))
    (h : captureLoop limits rounds (.start output) = .ok st) : st.waiting = false := by
  by_contra hw
  rw [Bool.not_eq_false] at hw
  have hzero (pipe : Pipe) : st.registered pipe = false := by
    have hpending : st.pending pipe ≤ _ := captureLoop_pending h hw
    have hoffer := hoffers pipe
    rw [pending_start] at hpending
    rw [← Bool.not_eq_true]
    intro hregistered
    rw [CaptureState.pending, if_pos hregistered] at hpending
    omega
  rw [CaptureState.waiting, hzero, hzero] at hw
  exact Bool.false_ne_true hw

/-! ## The capture -/

variable {settlement : Settlement}

/-- No reading of the clock reaches the deadline, and the process exits before it. -/
def DeadlineAhead (rounds : List CaptureRound) (settlement : Settlement) : Prop :=
  (∀ round ∈ rounds, 0 < round.remaining) ∧ 0 < settlement.remaining ∧ settlement.exits = true

theorem captureStreams_eq_error {e : CaptureError}
    (h : captureStreams limits output rounds settlement = .error e) :
    e = .timeoutExpired ∧ ¬ DeadlineAhead rounds settlement ∨
      e = limits.exceeded ∧ ¬ limits.Fits output := by
  obtain hloop | ⟨st, -, hend⟩ := bind_eq_error.1 h
  · obtain ⟨he, late, hlate, hneg⟩ | hlimit :=
      (Capturing.start limits output).captureLoop_error hloop
    · exact .inl ⟨he, fun hahead => absurd (hahead.1 late hlate) (not_lt.2 hneg)⟩
    · exact .inr hlimit
  · split at hend
    · cases hend
    · split at hend
      · next hlate =>
        cases hend
        exact .inl ⟨rfl, fun hahead => absurd hahead.2.1 (not_lt.2 hlate)⟩
      · split at hend
        · cases hend
        · next hruns =>
          cases hend
          exact .inl ⟨rfl, fun hahead => hruns hahead.2.2⟩

theorem captureStreams_eq_ok {result : Option (List UInt8 × List UInt8)}
    (h : captureStreams limits output rounds settlement = .ok result) :
    result = none ∨ result = some (output .stdout, output .stderr) ∧ limits.Fits output := by
  obtain ⟨st, hloop, hend⟩ := bind_eq_ok.1 h
  have H := (Capturing.start limits output).captureLoop_ok hloop
  split at hend
  · cases hend
    exact .inl rfl
  · next hw =>
    have hbuffers := H.buffers_eq (Bool.not_eq_true _ ▸ hw)
    split at hend
    · cases hend
    · split at hend
      · cases hend
        rw [← hbuffers]
        exact .inr ⟨rfl, H.fits⟩
      · cases hend

theorem captureStreams_ne_waiting
    (hoffers : ∀ pipe, (output pipe).length < rounds.countP (·.offers pipe)) :
    captureStreams limits output rounds settlement ≠ .ok none := by
  intro h
  obtain ⟨st, hloop, hend⟩ := bind_eq_ok.1 h
  rw [captureLoop_done hoffers hloop, if_neg Bool.false_ne_true] at hend
  split at hend
  · cases hend
  · split at hend
    · cases hend
    · cases hend

/-- A capture expires, waits for more rounds, or ends as the output says. It does not expire before
its deadline, it does not wait once each pipe has been offered one time more than it has bytes, and
at no read do the buffers hold more than the limits. -/
theorem captureStreams_independent (limits : ByteLimits) (output : Pipe → List UInt8)
    (rounds : List CaptureRound) (settlement : Settlement) :
    (captureStreams limits output rounds settlement = .error .timeoutExpired ∨
      captureStreams limits output rounds settlement = .ok none ∨
      captureStreams limits output rounds settlement = (limits.captured output).map some) ∧
    (DeadlineAhead rounds settlement →
      captureStreams limits output rounds settlement ≠ .error .timeoutExpired) ∧
    ((∀ pipe, (output pipe).length < rounds.countP (·.offers pipe)) →
      captureStreams limits output rounds settlement ≠ .ok none) ∧
    ∀ past round future st keys st', rounds = past ++ round :: future →
      captureLoop limits past (.start output) = .ok st → keys <+: select st round →
      keys.foldlM (readPipe limits) st = .ok st' → limits.Fits st'.buffers := by
  refine ⟨?_, fun hahead h => ?_, captureStreams_ne_waiting, ?_⟩
  · cases h : captureStreams limits output rounds settlement with
    | error e =>
      obtain ⟨rfl, -⟩ | ⟨rfl, hfits⟩ := captureStreams_eq_error h
      · exact .inl rfl
      · rw [ByteLimits.captured, if_neg hfits]
        exact .inr (.inr rfl)
    | ok result =>
      obtain rfl | ⟨rfl, hfits⟩ := captureStreams_eq_ok h
      · exact .inr (.inl rfl)
      · rw [ByteLimits.captured, if_pos hfits]
        exact .inr (.inr rfl)
  · obtain ⟨-, hlate⟩ | ⟨he, -⟩ := captureStreams_eq_error h
    · exact hlate hahead
    · cases he
  · intro past round future st keys st' _ hpast _ hkeys
    have H := (Capturing.start limits output).captureLoop_ok hpast
    exact ((H.readAll keys).1 st' hkeys).fits

/-- A byte on each pipe, both limits met exactly, with a spurious report of the first pipe. -/
def exactRounds : List CaptureRound :=
  [⟨3, [(.stdout, .blocked), (.stderr, .bytes 9)], by decide⟩,
    ⟨2, [(.stdout, .bytes 0), (.stderr, .bytes 0)], by decide⟩, ⟨1, [(.stdout, .bytes 0)], by decide⟩]

theorem captureStreams_independent_exact :
    captureStreams ⟨fun _ => 1, some 2⟩ (fun _ => [7]) exactRounds ⟨1, true⟩ =
      .ok (some ([7], [7])) := by
  obtain ⟨hend, htime, hdone, -⟩ :=
    captureStreams_independent ⟨fun _ => 1, some 2⟩ (fun _ => [7]) exactRounds ⟨1, true⟩
  have hahead : DeadlineAhead exactRounds ⟨1, true⟩ := by
    simp [DeadlineAhead, exactRounds]
  have hoffers (pipe : Pipe) : [(7 : UInt8)].length < exactRounds.countP (·.offers pipe) := by
    cases pipe <;> decide
  have hfits : ByteLimits.Fits ⟨fun _ => 1, some 2⟩ fun _ => [7] := by
    simp [ByteLimits.Fits, size]
  obtain h | h | h := hend
  · exact absurd h (htime hahead)
  · exact absurd h (hdone hoffers)
  · rw [h, ByteLimits.captured, if_pos hfits]
    rfl

end RoboticsRuntime.Harness
