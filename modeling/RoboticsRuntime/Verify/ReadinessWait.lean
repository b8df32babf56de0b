import RoboticsRuntime.Harness.ReadinessWait

/-!
# Uninterrupted readiness

What holds of the polls of a wait that returns, and when a wait has ended.
-/

namespace RoboticsRuntime.Harness
open Theory

/-- The first message of a topic or the state of a node is late at a poll. -/
def Wait.Expired (wait : Wait) (poll : Poll) : Prop :=
  (∃ topic ∈ wait.graph.topics, topic.silent poll.snapshot ∧
    topic.firstMessageTimeoutSec ≤ ((poll.currentNs - wait.startedAtNs : ℤ) : ℚ) / 1000000000) ∨
  ∃ node ∈ wait.graph.lifecycleNodes, node.unmet poll.snapshot ∧
    node.timeoutSec ≤ ((poll.currentNs - wait.startedAtNs : ℤ) : ℚ) / 1000000000

/-- The greatest time for which readiness is to be stable. -/
def Wait.longestStability (wait : Wait) : ℚ :=
  (wait.graph.lifecycleNodes.map (·.stableForSec)).foldl max wait.stableForSec

/-- The clock advances at least by the greatest stability, exactly. -/
def Wait.AdvancedExactly (wait : Wait) (ns : ℤ) : Prop := wait.longestStability ≤ ns / 1000000000

/-- The clock advances at least by the whole nanoseconds of the required stability. -/
def Wait.Advanced (py : PyOps) (wait : Wait) (ns : ℤ) : Prop :=
  ∃ stability requiredNs, wait.requiredStability py = .ok stability ∧
    toNanoseconds py.fl stability = .ok requiredNs ∧ requiredNs ≤ ns

/-- The deadline has passed at a poll. -/
def Wait.PastDeadline (py : PyOps) (wait : Wait) (poll : Poll) : Prop :=
  ∀ timeoutNs, toNanoseconds py.fl wait.timeoutSec = .ok timeoutNs →
    wait.startedAtNs + timeoutNs ≤ poll.currentNs

/-- What holds of the last poll of a wait that returns, and of the polls before it. -/
structure Wait.ReadyAt (py : PyOps) (wait : Wait) (Advanced : ℤ → Prop) (polls : ℕ → Poll)
    (result : ReadinessResult) (n : ℕ) : Prop where
  snapshot : result.snapshot = (polls n).snapshot
  stable : ∃ k ≤ n, (polls k).currentNs = result.firstReadyAtNs ∧
    (∀ i, k ≤ i → i ≤ n → evaluateGraph py wait.graph.expected (polls i).snapshot = []) ∧
    Advanced ((polls n).currentNs - (polls k).currentNs)
  met : ∀ i ≤ n, ¬ wait.Expired (polls i)

/-- Readiness is uninterrupted readiness, and a wait has ended at the first poll past its deadline. -/
structure Wait.Uninterrupted (py : PyOps) (wait : Wait) (Advanced : ℤ → Prop) (polls : ℕ → Poll) :
    Prop where
  returned : ∀ fuel count result, wait.waitForReadiness py polls fuel = some (count, .ready result) →
    ∃ n, count = n + 1 ∧ wait.ReadyAt py Advanced polls result n
  ends : ∀ n, wait.PastDeadline py (polls n) →
    ∃ count outcome, wait.waitForReadiness py polls (n + 1) = some (count, outcome) ∧ count ≤ n + 1

/-! ## One poll -/

section Step
variable {py : PyOps} {wait : Wait} {stability : ℚ} {deadlineNs : ℤ} {firstReadyAtNs : Option ℤ}
  {poll : Poll}

/-- A topic without an issue is not late. -/
theorem expiredTopic_eq_nil (hpy : py.Nearest) {snapshot : GraphSnapshot} {elapsedSec exact : ℚ}
    {message : String} {topic : TopicReadiness} {index : ℕ}
    (helapsed : toFloat py.fl message exact = .ok elapsedSec)
    (h : expiredTopic py snapshot elapsedSec topic index = .ok []) :
    ¬ (topic.silent snapshot ∧ topic.firstMessageTimeoutSec ≤ exact) := by
  rintro ⟨hsilent, hle⟩
  obtain ⟨timeoutSec, htimeout, h⟩ := bind_eq_ok.1 h
  rw [if_pos ⟨hpy.toFloat_le htimeout helapsed hle, hsilent⟩] at h
  cases h

/-- A node without an issue is not late. -/
theorem expiredNode_eq_nil (hpy : py.Nearest) {snapshot : GraphSnapshot} {elapsedSec exact : ℚ}
    {message : String} {node : LifecycleReadiness} {index : ℕ}
    (helapsed : toFloat py.fl message exact = .ok elapsedSec)
    (h : expiredNode py snapshot elapsedSec node index = .ok []) :
    ¬ (node.unmet snapshot ∧ node.timeoutSec ≤ exact) := by
  rintro ⟨hunmet, hle⟩
  obtain ⟨timeoutSec, htimeout, h⟩ := bind_eq_ok.1 h
  rw [if_pos ⟨hpy.toFloat_le htimeout helapsed hle, hunmet⟩] at h
  cases h

/-- No element of a list has an issue when there are none altogether. -/
theorem eq_nil_of_mapM_zipIdx {ε α β : Type} {l : List α} {f : α × ℕ → Except ε (List β)}
    {r : List (List β)} (h : l.zipIdx.mapM f = .ok r) (hnil : r.flatten = []) {a : α} (ha : a ∈ l) :
    ∃ index, f (a, index) = .ok [] := by
  obtain ⟨index, hindex⟩ := List.mem_iff_getElem?.1 ha
  obtain ⟨issues, hmem, hok⟩ := exists_of_forall₂_mem (mapM_eq_ok.1 h).flip
    (List.mk_mem_zipIdx_iff_getElem?.2 hindex)
  obtain rfl := List.flatten_eq_nil_iff.1 hnil issues hmem
  exact ⟨index, hok⟩

/-- At a poll without issues of time nothing is late. -/
theorem not_expired (hpy : py.Nearest) {elapsedSec : ℚ}
    (helapsed : toSeconds py.fl (poll.currentNs - wait.startedAtNs) = .ok elapsedSec)
    (h : expiredReadinessIssues py wait.graph poll.snapshot elapsedSec = .ok []) :
    ¬ wait.Expired poll := by
  obtain ⟨topics, htopics, h⟩ := bind_eq_ok.1 h
  obtain ⟨nodes, hnodes, h⟩ := bind_eq_ok.1 h
  obtain ⟨htopicsNil, hnodesNil⟩ := List.append_eq_nil_iff.1 (Except.ok.inj h)
  rintro (⟨topic, hm, hlate⟩ | ⟨node, hm, hlate⟩)
  · obtain ⟨index, hok⟩ := eq_nil_of_mapM_zipIdx htopics htopicsNil hm
    exact expiredTopic_eq_nil hpy helapsed hok hlate
  · obtain ⟨index, hok⟩ := eq_nil_of_mapM_zipIdx hnodes hnodesNil hm
    exact expiredNode_eq_nil hpy helapsed hok hlate

/-- The start of the window of readiness after a poll. -/
def Wait.nextReady (py : PyOps) (wait : Wait) (firstReadyAtNs : Option ℤ) (poll : Poll) : Option ℤ :=
  if evaluateGraph py wait.graph.expected poll.snapshot = [] then
    some (firstReadyAtNs.getD poll.currentNs)
  else none

theorem Wait.windowStart_eq_ok {issues : List GraphIssue} {next : Option ℤ}
    (h : Wait.windowStart py stability firstReadyAtNs poll issues = .ok next) :
    next = if issues = [] then some (firstReadyAtNs.getD poll.currentNs) else none := by
  unfold Wait.windowStart at h
  split_ifs at h with hissues
  · rw [if_neg hissues]
    exact (Except.ok.inj h).symm
  · simp only [bind_eq_ok, require_eq_ok, exists_const] at h
    obtain ⟨-, -, -, h⟩ := h
    rw [if_pos (not_not.1 hissues)]
    exact (Except.ok.inj h).symm

theorem Wait.windowStart_eq_ready {issues : List GraphIssue} {result : ReadinessResult}
    (h : Wait.windowStart py stability firstReadyAtNs poll issues = .error (.ready result)) :
    issues = [] ∧ result.snapshot = poll.snapshot ∧
      result.firstReadyAtNs = firstReadyAtNs.getD poll.currentNs ∧
      ∃ requiredNs, toNanoseconds py.fl stability = .ok requiredNs ∧
        requiredNs ≤ poll.currentNs - result.firstReadyAtNs := by
  unfold Wait.windowStart at h
  split_ifs at h with hissues
  rcases bind_eq_error.1 h with h | ⟨requiredNs, hrequired, h⟩
  · obtain ⟨_, -, h⟩ := mapError_eq_error.1 h
    cases h
  rcases seq_eq_error.1 h with h | ⟨-, h⟩
  · obtain ⟨hstable, h⟩ := require_eq_error.1 h
    obtain rfl := WaitOutcome.ready.inj h
    exact ⟨not_not.1 hissues, rfl, rfl, requiredNs, mapError_eq_ok.1 hrequired, not_lt.1 hstable⟩
  · cases h

/-- A wait goes on after a poll at which nothing is late and the deadline has not passed. -/
theorem Wait.step_eq_ok (hpy : py.Nearest) {next : Option ℤ}
    (h : wait.step py stability deadlineNs firstReadyAtNs poll = .ok next) :
    ¬ wait.Expired poll ∧ poll.currentNs < deadlineNs ∧ next = wait.nextReady py firstReadyAtNs poll := by
  simp only [Wait.step, bind_eq_ok, mapError_eq_ok, require_eq_ok, exists_const] at h
  obtain ⟨elapsedSec, helapsed, expired, hexpired, rfl, next', hnext, hdeadline, h⟩ := h
  obtain rfl := Except.ok.inj h
  exact ⟨not_expired hpy helapsed hexpired, hdeadline, Wait.windowStart_eq_ok hnext⟩

/-- A wait returns at a poll without issues, at which nothing is late, when readiness has lasted for
the whole nanoseconds of the required stability. -/
theorem Wait.step_eq_ready (hpy : py.Nearest) {result : ReadinessResult}
    (h : wait.step py stability deadlineNs firstReadyAtNs poll = .error (.ready result)) :
    ¬ wait.Expired poll ∧ evaluateGraph py wait.graph.expected poll.snapshot = [] ∧
      result.snapshot = poll.snapshot ∧
      result.firstReadyAtNs = firstReadyAtNs.getD poll.currentNs ∧
      ∃ requiredNs, toNanoseconds py.fl stability = .ok requiredNs ∧
        requiredNs ≤ poll.currentNs - result.firstReadyAtNs := by
  rw [Wait.step] at h
  rcases bind_eq_error.1 h with h | ⟨elapsedSec, helapsed, h⟩
  · obtain ⟨_, -, h⟩ := mapError_eq_error.1 h
    cases h
  rcases bind_eq_error.1 h with h | ⟨expired, hexpired, h⟩
  · obtain ⟨_, -, h⟩ := mapError_eq_error.1 h
    cases h
  rcases seq_eq_error.1 h with h | ⟨hnone, hrest⟩
  · obtain ⟨-, h⟩ := require_eq_error.1 h
    cases h
  rcases bind_eq_error.1 hrest with hwindow | ⟨_, -, hrest⟩
  · rw [require_eq_ok.1 hnone] at hexpired
    exact ⟨not_expired hpy (mapError_eq_ok.1 helapsed) (mapError_eq_ok.1 hexpired),
      Wait.windowStart_eq_ready hwindow⟩
  rcases seq_eq_error.1 hrest with h | ⟨-, h⟩
  · obtain ⟨-, h⟩ := require_eq_error.1 h
    cases h
  · cases h

end Step

/-! ## The run -/

section Loop
variable {py : PyOps} {wait : Wait} {stability : ℚ} {deadlineNs : ℤ} {polls : ℕ → Poll}

/-- The polls before an index, since `first_ready_at_ns`, had no issue, and at none of them anything
was late. -/
structure Wait.Watched (py : PyOps) (wait : Wait) (polls : ℕ → Poll) (index : ℕ)
    (firstReadyAtNs : Option ℤ) : Prop where
  met : ∀ i < index, ¬ wait.Expired (polls i)
  ready : ∀ first, firstReadyAtNs = some first → ∃ k < index, (polls k).currentNs = first ∧
    ∀ i, k ≤ i → i < index → evaluateGraph py wait.graph.expected (polls i).snapshot = []

theorem Wait.watched_zero : wait.Watched py polls 0 none :=
  ⟨fun _ h => absurd h (Nat.not_lt_zero _), fun _ h => by cases h⟩

/-- A poll without issues prolongs the window of readiness, or starts it. -/
theorem Wait.Watched.ready_succ {index : ℕ} {firstReadyAtNs : Option ℤ}
    (h : wait.Watched py polls index firstReadyAtNs)
    (hready : evaluateGraph py wait.graph.expected (polls index).snapshot = []) :
    ∃ k ≤ index, (polls k).currentNs = firstReadyAtNs.getD (polls index).currentNs ∧
      ∀ i, k ≤ i → i ≤ index → evaluateGraph py wait.graph.expected (polls i).snapshot = [] := by
  cases firstReadyAtNs with
  | none =>
    refine ⟨index, Nat.le_refl _, rfl, fun i hle hge => ?_⟩
    obtain rfl := Nat.le_antisymm hge hle
    exact hready
  | some first =>
    obtain ⟨k, hk, hfirst, hall⟩ := h.ready first rfl
    refine ⟨k, hk.le, hfirst, fun i hle hge => ?_⟩
    rcases Nat.lt_or_eq_of_le hge with hlt | rfl
    · exact hall i hle hlt
    · exact hready

theorem Wait.Watched.succ (hpy : py.Nearest) {index : ℕ} {firstReadyAtNs next : Option ℤ}
    (h : wait.Watched py polls index firstReadyAtNs)
    (hstep : wait.step py stability deadlineNs firstReadyAtNs (polls index) = .ok next) :
    wait.Watched py polls (index + 1) next := by
  obtain ⟨hmet, -, rfl⟩ := Wait.step_eq_ok hpy hstep
  constructor
  · intro i hi
    rcases Nat.lt_or_eq_of_le (Nat.le_of_lt_succ hi) with hlt | rfl
    · exact h.met i hlt
    · exact hmet
  · intro first hfirst
    unfold Wait.nextReady at hfirst
    split_ifs at hfirst with hready
    obtain rfl := Option.some.inj hfirst
    obtain ⟨k, hk, hclock, hall⟩ := h.ready_succ hready
    exact ⟨k, Nat.lt_succ_of_le hk, hclock, fun i hle hlt => hall i hle (Nat.le_of_lt_succ hlt)⟩

/-- This is an induction on the fuel; the invariant holds of the polls made so far. -/
theorem Wait.loop_ready (hpy : py.Nearest) (hrequired : wait.requiredStability py = .ok stability)
    {fuel index count : ℕ} {firstReadyAtNs : Option ℤ} {result : ReadinessResult}
    (hwatched : wait.Watched py polls index firstReadyAtNs)
    (h : wait.loop py stability deadlineNs polls fuel index firstReadyAtNs =
      some (count, .ready result)) :
    ∃ n, count = n + 1 ∧ wait.ReadyAt py (wait.Advanced py) polls result n := by
  induction fuel generalizing index firstReadyAtNs with
  | zero => cases h
  | succ fuel ih =>
    unfold Wait.loop at h
    generalize hstep : wait.step py stability deadlineNs firstReadyAtNs (polls index) = next at h
    cases next with
    | ok next => exact ih (hwatched.succ hpy hstep) h
    | error outcome =>
      obtain ⟨rfl, rfl⟩ := Prod.mk.inj (Option.some.inj h)
      obtain ⟨hmet, hready, hsnapshot, hfirst, requiredNs, hns, hadvanced⟩ :=
        Wait.step_eq_ready hpy hstep
      obtain ⟨k, hk, hclock, hall⟩ := hwatched.ready_succ hready
      refine ⟨index, rfl, hsnapshot, ⟨k, hk, hclock.trans hfirst.symm, hall, stability, requiredNs,
        hrequired, hns, ?_⟩, fun i hi => ?_⟩
      · rw [hclock, ← hfirst]
        exact hadvanced
      · rcases Nat.lt_or_eq_of_le hi with hlt | rfl
        · exact hwatched.met i hlt
        · exact hmet

/-- The loop has ended after a poll past its deadline. -/
theorem Wait.loop_ends (hpy : py.Nearest) {n fuel index : ℕ} {firstReadyAtNs : Option ℤ}
    (hdeadline : deadlineNs ≤ (polls n).currentNs) (hfuel : index + fuel = n + 1)
    (hindex : index ≤ n) : ∃ count outcome,
      wait.loop py stability deadlineNs polls fuel index firstReadyAtNs = some (count, outcome) ∧
        count ≤ n + 1 := by
  induction fuel generalizing index firstReadyAtNs with
  | zero => omega
  | succ fuel ih =>
    unfold Wait.loop
    generalize hstep : wait.step py stability deadlineNs firstReadyAtNs (polls index) = next
    cases next with
    | error outcome => exact ⟨index + 1, outcome, rfl, by omega⟩
    | ok next =>
      obtain ⟨-, hbefore, -⟩ := Wait.step_eq_ok hpy hstep
      have hne : index ≠ n := by
        rintro rfl
        exact absurd hdeadline (not_le.2 hbefore)
      exact ih (by omega) (by omega)

end Loop

theorem waitForReadiness_uninterrupted (py : PyOps) (hpy : py.Nearest) (wait : Wait)
    (polls : ℕ → Poll) : wait.Uninterrupted py (wait.Advanced py) polls := by
  constructor
  · intro fuel count result h
    unfold Wait.waitForReadiness at h
    generalize hsetup : wait.setup py = values at h
    cases values with
    | error error => cases h
    | ok values =>
      obtain ⟨stability, deadlineNs⟩ := values
      obtain ⟨_, hrequired, hsetup⟩ := bind_eq_ok.1 hsetup
      obtain ⟨timeoutNs, -, hsetup⟩ := bind_eq_ok.1 hsetup
      obtain ⟨rfl, -⟩ := Prod.mk.inj (Except.ok.inj hsetup)
      exact Wait.loop_ready hpy hrequired Wait.watched_zero h
  · intro n hdeadline
    unfold Wait.waitForReadiness
    generalize hsetup : wait.setup py = values
    cases values with
    | error error => exact ⟨0, _, rfl, Nat.zero_le _⟩
    | ok values =>
      obtain ⟨stability, deadlineNs⟩ := values
      obtain ⟨_, -, hsetup⟩ := bind_eq_ok.1 hsetup
      obtain ⟨timeoutNs, htimeout, hsetup⟩ := bind_eq_ok.1 hsetup
      obtain ⟨-, rfl⟩ := Prod.mk.inj (Except.ok.inj hsetup)
      exact Wait.loop_ends hpy (hdeadline timeoutNs htimeout) (Nat.zero_add _) (Nat.zero_le _)

/-! A topic whose first message is observed at the second poll. The polls are a second apart. -/

/-- A wait for a topic, for some time. -/
def topicWait (stableForSec : ℚ) : Wait where
  graph := ⟨[⟨⟨"/scan", "std_msgs/String", 1, 0⟩, 5⟩], [], [], []⟩
  timeoutSec := 10
  stableForSec := stableForSec
  startedAtNs := 0

/-- The topic at a poll. -/
def topicSnapshot (firstMessageAtNs : Option ℤ) : GraphSnapshot :=
  ⟨0, [("/scan", ⟨["std_msgs/String"], 1, 0, firstMessageAtNs, true⟩)], [], [], [], none⟩

/-- The polls of the topic. -/
def topicPolls (i : ℕ) : Poll :=
  ⟨topicSnapshot (if i = 0 then none else some 1000000000), i * 1000000000⟩

theorem waitForReadiness_uninterrupted_topic :
    ((topicWait 2).waitForReadiness PyOps.exact topicPolls 4).any (·.1 = 4) = true ∧
      (topicWait 2).Uninterrupted PyOps.exact ((topicWait 2).Advanced PyOps.exact) topicPolls :=
  ⟨by decide +kernel,
    waitForReadiness_uninterrupted PyOps.exact PyOps.exact_nearest (topicWait 2) topicPolls⟩

/-- Readiness for half a nanosecond is readiness at one poll. -/
theorem waitForReadiness_halfNanosecond :
    ¬ (topicWait (1 / 2000000000)).Uninterrupted PyOps.exact
      (topicWait (1 / 2000000000)).AdvancedExactly topicPolls := by
  intro h
  have hreturns : (topicWait (1 / 2000000000)).waitForReadiness PyOps.exact topicPolls 2 =
      some (2, .ready ⟨topicSnapshot (some 1000000000), 1000000000, 0⟩) := by
    decide +kernel
  obtain ⟨n, hn, hready⟩ := h.returned _ _ _ hreturns
  obtain rfl : n = 1 := by omega
  obtain ⟨k, hk, hfirst, -, hadvanced⟩ := hready.stable
  have hzero : (topicPolls 1).currentNs - (topicPolls k).currentNs = 0 := by
    rw [hfirst]
    rfl
  rw [hzero] at hadvanced
  norm_num [Wait.AdvancedExactly, Wait.longestStability, topicWait] at hadvanced

end RoboticsRuntime.Harness
