import Mathlib.Data.Rat.Defs
import RoboticsRuntime.Theory.Checks

/-!
# Capture of the output of a verifier

`_capture_streams` of `evaluator_trust.py`. What the operating system decides is an argument: the
time at each call of `select`, the streams that it reports, in their order, and how much a read of
each of them delivers.
-/

namespace RoboticsRuntime.Harness
open Theory

/-- `key.data`: the two pipes of the process. -/
inductive Pipe where
  | stdout | stderr
  deriving DecidableEq, Repr

/-- `byte_limits`. -/
structure ByteLimits where
  stream : Pipe → ℕ
  shared : Option ℕ

inductive CaptureError where
  | evaluatorTrust (message : String)
  | timeoutExpired
  deriving DecidableEq, Repr

/-- What a read finds: no bytes yet, or at most one byte more than the number. -/
inductive Arrival where
  | blocked
  | bytes (more : ℕ)
  deriving DecidableEq, Repr

/-- One round of the loop: the time that remains and what `select` returns. -/
structure CaptureRound where
  remaining : ℚ
  ready : List (Pipe × Arrival)
  nodup : (ready.map Prod.fst).Nodup

/-- The two buffers, what the process writes beyond them, and the map of the selector. -/
structure CaptureState where
  buffers : Pipe → List UInt8
  unread : Pipe → List UInt8
  registered : Pipe → Bool

namespace CaptureState

/-- Nothing is read, and both pipes are registered. -/
def start (output : Pipe → List UInt8) : CaptureState := ⟨fun _ => [], output, fun _ => true⟩

/-- `sum(map(len, buffers))`. -/
def total (st : CaptureState) : ℕ := (st.buffers .stdout).length + (st.buffers .stderr).length

/-- `selector.get_map()` is not empty. -/
def waiting (st : CaptureState) : Bool := st.registered .stdout || st.registered .stderr

/-- `selector.unregister(key.fileobj)`. -/
def unregister (st : CaptureState) (pipe : Pipe) : CaptureState :=
  { st with registered := Function.update st.registered pipe false }

/-- `buffer.extend(chunk)`. -/
def extend (st : CaptureState) (pipe : Pipe) (chunk : List UInt8) : CaptureState :=
  { st with
    buffers := Function.update st.buffers pipe (st.buffers pipe ++ chunk)
    unread := Function.update st.unread pipe ((st.unread pipe).drop chunk.length) }

end CaptureState

namespace ByteLimits

/-- `available`. -/
def available (limits : ByteLimits) (st : CaptureState) (pipe : Pipe) : ℤ :=
  let own : ℤ := limits.stream pipe - (st.buffers pipe).length
  match limits.shared with
  | none => own
  | some shared => min own (shared - st.total)

/-- The error of a byte too many. -/
def exceeded (limits : ByteLimits) : CaptureError :=
  let label := if limits.shared.isSome then "combined verifier audit" else "verifier output"
  .evaluatorTrust (label ++ " exceeds its byte limit")

end ByteLimits

/-- `os.read` of a pipe that does not block, nothing where it raises `BlockingIOError`. At the end
of what the process writes it returns no bytes. -/
def osRead (unread : List UInt8) (count : ℤ) : Arrival → Option (List UInt8)
  | .blocked => none
  | .bytes more => some (unread.take (min count.toNat (more + 1)))

/-- The body of the loop over the reported streams. -/
def readPipe (limits : ByteLimits) (st : CaptureState) (key : Pipe × Arrival) :
    Except CaptureError CaptureState :=
  let available := limits.available st key.1
  match osRead (st.unread key.1) (min (64 * 1024) (available + 1)) key.2 with
  | none => .ok st
  | some chunk =>
    if chunk = [] then .ok (st.unregister key.1)
    else if available < chunk.length then .error limits.exceeded
    else .ok (st.extend key.1 chunk)

/-- `selector.select` reports streams that are registered. -/
def select (st : CaptureState) (round : CaptureRound) : List (Pipe × Arrival) :=
  round.ready.filter fun key => st.registered key.1

/-- One round of the loop. -/
def captureRound (limits : ByteLimits) (st : CaptureState) (round : CaptureRound) :
    Except CaptureError CaptureState :=
  if round.remaining ≤ 0 then .error .timeoutExpired
  else (select st round).foldlM (readPipe limits) st

/-- The loop, as far as the rounds go. -/
def captureLoop (limits : ByteLimits) : List CaptureRound → CaptureState →
    Except CaptureError CaptureState
  | [], st => .ok st
  | round :: rounds, st =>
    if st.waiting then do
      let st' ← captureRound limits st round
      captureLoop limits rounds st'
    else .ok st

/-- The end of the process: the time that remains, and whether it exits in that time. -/
structure Settlement where
  remaining : ℚ
  exits : Bool

/-- `_capture_streams`, nothing while the loop waits for more rounds. -/
def captureStreams (limits : ByteLimits) (output : Pipe → List UInt8) (rounds : List CaptureRound)
    (settlement : Settlement) : Except CaptureError (Option (List UInt8 × List UInt8)) := do
  let st ← captureLoop limits rounds (.start output)
  if st.waiting then return none
  else if settlement.remaining ≤ 0 then throw .timeoutExpired
  else if settlement.exits then return some (st.buffers .stdout, st.buffers .stderr)
  else throw .timeoutExpired

end RoboticsRuntime.Harness
