import RoboticsRuntime.Verify.RunOwner

/-!
# Who holds a run ID

An ID is reserved while its profile is being admitted, and from then on by one run until this run
has verified its cleanup. It is released once.
-/

namespace RoboticsRuntime.Host
open Theory OwnedRun

/-- The fiber was observed as `DISPOSED`, and every resource was cleaned up and its release evidenced. -/
structure RunCompletion.Released (completion : RunCompletion) : Prop where
  disposed : ⟨.disposing, .passed, none⟩ ∈ completion.phases
  observed : completion.resourceOutcomes ≠ []
  outcomes : ∀ outcome ∈ completion.resourceOutcomes, outcome.evidenced

namespace OwnedRun
variable {run run' : OwnedRun} {caught : String → Option String}

theorem runId_of_touches (h : Touches caught run run') : run'.runId = run.runId := by
  cases h with
  | carries _ hc => exact hc.runId
  | admits => rfl
  | concludes => rfl
  | provideResources => rfl
  | track => rfl
  | cleanupEffect => unfold cleanupEffect; split <;> rfl
  | cleanupFailed i record message =>
    cases caught message with
    | none => rfl
    | some logged => exact (carries_log _ logged).runId

/-- A run releases its ID when it records a completion that verifies its cleanup. -/
theorem releases_of_touches (h : Touches caught run run') :
    run'.releases = run.releases ∨ run.releases = 0 ∧ run'.releases = 1 ∧
      ∃ completion, run'.completions = run.completions ++ [completion] ∧ completion.Released := by
  cases h with
  | carries _ hc => exact .inl hc.releases
  | admits => exact .inl rfl
  | concludes awaits disposalComplete outcomes hat =>
    obtain ⟨-, hu, -, hdisposed, -⟩ := hat
    by_cases hverified : (disposalComplete && !outcomes.isEmpty && outcomes.all (·.evidenced)) = true
    · right
      refine ⟨hu.releases, ?_, _, rfl, ?_⟩
      · simp only [concluded]
        rw [if_pos hverified]
        exact congrArg (· + 1) hu.releases
      · simp only [Bool.and_eq_true, Bool.not_eq_true', List.isEmpty_eq_false_iff,
          List.all_eq_true] at hverified
        obtain ⟨⟨hcomplete, hobserved⟩, hall⟩ := hverified
        exact ⟨List.mem_append_left _ (hdisposed hcomplete), hobserved, hall⟩
    · left
      simp only [concluded]
      exact if_neg hverified
  | provideResources => exact .inl rfl
  | track => exact .inl rfl
  | cleanupEffect => unfold cleanupEffect; split <;> exact .inl rfl
  | cleanupFailed i record message =>
    cases caught message with
    | none => exact .inl rfl
    | some logged => exact .inl (carries_log _ logged).releases

end OwnedRun

namespace RunOwner
variable {owner owner' : RunOwner} {runId : String} {caught : String → Option String}

/-- The run of an ID, which it has not released. -/
def Holds (owner : RunOwner) (i : ℕ) (runId : String) : Prop :=
  ∃ run, owner.runs[i]? = some run ∧ run.releases = 0 ∧ run.runId = runId

/-- An ID is held by an admission or by one run, and is active then. -/
structure Exclusive (caught : String → Option String) (owner : RunOwner) : Prop where
  runs : ∀ run ∈ owner.runs, Reachable Created (Takes (OwnedRun.step caught)) run
  admissions : owner.admissions.Nodup
  active : ∀ runId ∈ owner.admissions, runId ∈ owner.active
  held : ∀ (i : ℕ) (runId : String), owner.Holds i runId →
    runId ∈ owner.active ∧ runId ∉ owner.admissions
  unique : ∀ (i j : ℕ) (runId : String), owner.Holds i runId → owner.Holds j runId → i = j

/-- A step of the `i`-th run of an owner. -/
structure RunStep (caught : String → Option String) (owner owner' : RunOwner) (i : ℕ)
    (run run' : OwnedRun) : Prop where
  run_eq : owner.runs[i]? = some run
  step : Takes (OwnedRun.step caught) run run'
  runs : owner'.runs = owner.runs.set i run'
  admissions : owner'.admissions = owner.admissions
  active : owner'.active = if run.releases < run'.releases then
    owner.active.filter (· ≠ run.runId) else owner.active

theorem runStep_of_event (h : owner.step caught (.run i event) = some owner') :
    ∃ run run', RunStep caught owner owner' i run run' := by
  simp only [step, Option.bind_eq_bind, Option.bind_eq_some_iff] at h
  obtain ⟨run, hrun, run', hstep, h⟩ := h
  obtain rfl := Option.some.inj h
  refine ⟨run, run', hrun, ⟨event, hstep⟩, ?_, ?_, ?_⟩
  · split_ifs <;> rfl
  · split_ifs <;> rfl
  · split_ifs <;> rfl

namespace RunStep
variable {i : ℕ} {run run' : OwnedRun}

theorem touches (h : RunStep caught owner owner' i run run') (he : Exclusive caught owner) :
    Touches caught run run' := by
  obtain ⟨event, hstep⟩ := h.step
  exact touches_of_step (step_of_event hstep)
    (inv_reachable (he.runs run (List.mem_of_getElem? h.run_eq)))

/-- A run that holds an ID after the step has held it before. -/
theorem holds (h : RunStep caught owner owner' i run run') (he : Exclusive caught owner)
    (hholds : owner'.Holds j runId) : owner.Holds j runId ∧ (j = i → run'.releases = 0) := by
  obtain ⟨other, hother, hreleases, hid⟩ := hholds
  rw [h.runs, List.getElem?_set] at hother
  split_ifs at hother with hij
  · obtain rfl := Option.some.inj hother
    subst hij
    refine ⟨⟨run, h.run_eq, ?_, (runId_of_touches (h.touches he)).symm.trans hid⟩, fun _ => hreleases⟩
    rcases releases_of_touches (h.touches he) with heq | ⟨hzero, -⟩
    · exact heq.symm.trans hreleases
    · exact hzero
  · exact ⟨⟨other, hother, hreleases, hid⟩, fun hji => absurd hji.symm hij⟩

/-- What a run releases is held by no admission, and by no other run. -/
theorem alone (h : RunStep caught owner owner' i run run') (he : Exclusive caught owner)
    (hreleases : run.releases = 0) :
    run.runId ∉ owner.admissions ∧ ∀ j, owner.Holds j run.runId → j = i := by
  have hholds : owner.Holds i run.runId := ⟨run, h.run_eq, hreleases, rfl⟩
  exact ⟨(he.held i _ hholds).2, fun j hj => he.unique j i _ hj hholds⟩

theorem exclusive (h : RunStep caught owner owner' i run run') (he : Exclusive caught owner) :
    Exclusive caught owner' := by
  have hruns : ∀ other ∈ owner'.runs, Reachable Created (Takes (OwnedRun.step caught)) other := by
    intro other hm
    rw [h.runs] at hm
    rcases List.mem_or_eq_of_mem_set hm with hm | rfl
    · exact he.runs other hm
    · exact (he.runs run (List.mem_of_getElem? h.run_eq)).steps (.single h.step)
  -- An ID that is held after the step is not the one that is released.
  have hkept : ∀ runId, runId ∈ owner.active →
      (run.releases < run'.releases → runId ≠ run.runId) → runId ∈ owner'.active := by
    intro runId hm hne
    rw [h.active]
    split_ifs with hlt
    · exact List.mem_filter.2 ⟨hm, by simpa using hne hlt⟩
    · exact hm
  have hreleased : run.releases < run'.releases → run.releases = 0 ∧ run'.releases = 1 := by
    intro hlt
    rcases releases_of_touches (h.touches he) with heq | ⟨hzero, hone, -⟩
    · omega
    · exact ⟨hzero, hone⟩
  refine ⟨hruns, by rw [h.admissions]; exact he.admissions, fun runId hm => ?_,
    fun j runId hj => ?_, fun j k runId hj hk => ?_⟩
  · rw [h.admissions] at hm
    refine hkept runId (he.active runId hm) fun hlt heq => ?_
    exact (h.alone he (hreleased hlt).1).1 (heq ▸ hm)
  · obtain ⟨hold, hzero⟩ := h.holds he hj
    obtain ⟨hactive, hadmissions⟩ := he.held j runId hold
    rw [h.admissions]
    refine ⟨hkept runId hactive fun hlt heq => ?_, hadmissions⟩
    obtain ⟨hbefore, hone⟩ := hreleased hlt
    subst heq
    rw [hzero ((h.alone he hbefore).2 j hold)] at hone
    cases hone
  · exact he.unique j k runId (h.holds he hj).1 (h.holds he hk).1

end RunStep

theorem exclusive_start (h : owner.start runId = .ok owner') (he : Exclusive caught owner) :
    Exclusive caught owner' := by
  unfold start at h
  split_ifs at h with hactive
  obtain rfl := Except.ok.inj h
  have hnew : runId ∉ owner.admissions := fun hm => hactive (he.active runId hm)
  refine ⟨he.runs, ?_, ?_, ?_, he.unique⟩
  · exact he.admissions.append (List.nodup_singleton runId) (by simpa using hnew)
  · intro other hm
    rcases List.mem_append.1 hm with hm | hm
    · exact List.mem_append_left _ (he.active other hm)
    · exact List.mem_append_right _ hm
  · intro i other hholds
    obtain ⟨hm, hnot⟩ := he.held i other hholds
    refine ⟨List.mem_append_left _ hm, fun hadmitted => ?_⟩
    rcases List.mem_append.1 hadmitted with hadmitted | heq
    · exact hnot hadmitted
    · exact hactive (List.mem_singleton.1 heq ▸ hm)

theorem exclusive_admissionFailed (hm : runId ∈ owner.admissions) (he : Exclusive caught owner) :
    Exclusive caught ({ owner with admissions := owner.admissions.erase runId }.delete runId) := by
  refine ⟨he.runs, he.admissions.erase runId, fun other hother => ?_, fun i other hholds => ?_,
    he.unique⟩
  · obtain ⟨hne, hother⟩ := he.admissions.mem_erase_iff.1 hother
    exact List.mem_filter.2 ⟨he.active other hother, by simpa using hne⟩
  · obtain ⟨hactive, hnot⟩ := he.held i other hholds
    refine ⟨List.mem_filter.2 ⟨hactive, ?_⟩, fun hother => hnot (List.mem_of_mem_erase hother)⟩
    simpa using fun heq : other = runId => hnot (heq ▸ hm)

theorem holds_append {run : OwnedRun}
    (h : Holds { owner with runs := owner.runs ++ [run] } i runId) :
    owner.Holds i runId ∨ i = owner.runs.length ∧ run.runId = runId := by
  obtain ⟨other, hother, hreleases, hid⟩ := h
  rcases Nat.lt_or_ge i owner.runs.length with hi | hi
  · rw [List.getElem?_append_left hi] at hother
    exact .inl ⟨other, hother, hreleases, hid⟩
  · obtain ⟨hlt, -⟩ := List.getElem?_eq_some_iff.1 hother
    rw [List.length_append, List.length_singleton] at hlt
    have heq : i = owner.runs.length := by omega
    subst heq
    rw [List.getElem?_concat_length] at hother
    exact .inr ⟨rfl, (Option.some.inj hother) ▸ hid⟩

theorem exclusive_admitted (hm : runId ∈ owner.admissions) (he : Exclusive caught owner)
    (bindings : List String) :
    Exclusive caught { owner with
      admissions := owner.admissions.erase runId
      runs := owner.runs ++ [.create runId bindings] } := by
  refine ⟨fun run hrun => ?_, he.admissions.erase runId, fun other hother => ?_,
    fun i other hholds => ?_, fun i j other hi hj => ?_⟩
  · rcases List.mem_append.1 hrun with hrun | hrun
    · exact he.runs run hrun
    · exact .of_start ⟨runId, bindings, List.mem_singleton.1 hrun⟩
  · exact he.active other (List.mem_of_mem_erase hother)
  · rcases holds_append hholds with hold | ⟨-, rfl⟩
    · obtain ⟨hactive, hnot⟩ := he.held i other hold
      exact ⟨hactive, fun hother => hnot (List.mem_of_mem_erase hother)⟩
    · exact ⟨he.active _ hm, fun hother => (he.admissions.mem_erase_iff.1 hother).1 rfl⟩
  · -- No run holds the ID of an admission.
    rcases holds_append hi with hold | ⟨hlast, rfl⟩ <;>
      rcases holds_append hj with hold' | ⟨hlast', heq⟩
    · exact he.unique i j other hold hold'
    · exact absurd (heq ▸ hm) (he.held i other hold).2
    · exact absurd hm (he.held j _ hold').2
    · exact hlast.trans hlast'.symm

theorem exclusive_step (h : Takes (step caught) owner owner') (he : Exclusive caught owner) :
    Exclusive caught owner' := by
  obtain ⟨event, h⟩ := h
  cases event with
  | start runId =>
    cases hstart : owner.start runId with
    | error => rw [step, hstart] at h; cases h
    | ok started =>
      rw [step, hstart] at h
      obtain rfl := Option.some.inj h
      exact exclusive_start hstart he
  | admissionFailed runId =>
    simp only [step, Option.ite_none_right_eq_some, Option.some.injEq] at h
    obtain ⟨hm, rfl⟩ := h
    exact exclusive_admissionFailed hm he
  | admitted runId bindings =>
    simp only [step, Option.ite_none_right_eq_some, Option.some.injEq] at h
    obtain ⟨hm, rfl⟩ := h
    exact exclusive_admitted hm he bindings
  | run i event =>
    obtain ⟨run, run', hstep⟩ := runStep_of_event h
    exact hstep.exclusive he

/-- An owner that has not started a run. -/
def Initial (owner : RunOwner) : Prop := owner = ⟨[], [], []⟩

theorem exclusive_reachable (h : Reachable Initial (Takes (step caught)) owner) :
    Exclusive caught owner := by
  refine h.invariant ?_ fun _ _ => exclusive_step
  rintro owner rfl
  exact ⟨nofun, .nil, nofun, fun i runId ⟨run, hrun, _⟩ => by simp at hrun,
    fun i j runId ⟨run, hrun, _⟩ => by simp at hrun⟩

/-! ## Main result -/

/-- At most one run holds an ID, and while it does the ID is active and no admission has it. An ID
becomes available when its admission fails and no run holds it, or when its run records a completion
that verifies the cleanup. What a run releases is held by no other run and no admission. -/
theorem run_identifiers_exclusive (caught : String → Option String) (owner : RunOwner)
    (h : Reachable Initial (Takes (step caught)) owner) :
    (∀ (i j : ℕ) (runId : String), owner.Holds i runId → owner.Holds j runId → i = j) ∧
    (∀ (i : ℕ) (runId : String), owner.Holds i runId →
      runId ∈ owner.active ∧ runId ∉ owner.admissions) ∧
    ∀ event owner', owner.step caught event = some owner' →
      (∀ runId ∈ owner.active, runId ∉ owner'.active →
        (event = .admissionFailed runId ∧ runId ∈ owner.admissions ∧ ∀ i, ¬ owner.Holds i runId) ∨
        ∃ i run run', RunStep caught owner owner' i run run' ∧ run.runId = runId ∧
          ∃ completion, run'.completions = run.completions ++ [completion] ∧
            completion.Released) ∧
      ∀ i run run', RunStep caught owner owner' i run run' → run.releases < run'.releases →
        run.runId ∉ owner.admissions ∧ ∀ j, owner.Holds j run.runId → j = i := by
  have he := exclusive_reachable h
  refine ⟨he.unique, he.held, fun event owner' hstep => ⟨fun runId hm hnot => ?_,
    fun i run run' hrun hlt => ?_⟩⟩
  · cases event with
    | start other =>
      refine absurd ?_ hnot
      cases hstart : owner.start other with
      | error => rw [step, hstart] at hstep; cases hstep
      | ok started =>
        rw [step, hstart] at hstep
        obtain rfl := Option.some.inj hstep
        unfold start at hstart
        split_ifs at hstart
        obtain rfl := Except.ok.inj hstart
        exact List.mem_append_left _ hm
    | admissionFailed other =>
      simp only [step, Option.ite_none_right_eq_some, Option.some.injEq] at hstep
      obtain ⟨hother, rfl⟩ := hstep
      have heq : runId = other := by
        by_contra hne
        exact hnot (List.mem_filter.2 ⟨hm, by simpa using hne⟩)
      subst heq
      exact .inl ⟨rfl, hother, fun i hholds => (he.held i runId hholds).2 hother⟩
    | admitted other bindings =>
      simp only [step, Option.ite_none_right_eq_some, Option.some.injEq] at hstep
      obtain ⟨-, rfl⟩ := hstep
      exact absurd hm hnot
    | run i event =>
      obtain ⟨run, run', hrun⟩ := runStep_of_event hstep
      rw [hrun.active] at hnot
      split_ifs at hnot with hlt
      · have heq : runId = run.runId := by
          by_contra hne
          exact hnot (List.mem_filter.2 ⟨hm, by simpa using hne⟩)
        rcases releases_of_touches (hrun.touches he) with hsame | ⟨-, -, hreleased⟩
        · omega
        · exact .inr ⟨i, run, run', hrun, heq.symm, hreleased⟩
      · exact absurd hm hnot
  · rcases releases_of_touches (hrun.touches he) with hsame | ⟨hzero, -⟩
    · omega
    · exact hrun.alone he hzero

/-- The run of the example, started and admitted by an owner. -/
def exampleOwner (n : ℕ) : Option RunOwner :=
  (([.start "run", .admitted "run" ["backend"]] : List OwnerEvent) ++
    (OwnedRun.exampleEvents.take n).map (OwnerEvent.run 0)).foldlM (step some) ⟨[], [], []⟩

theorem run_identifiers_exclusive_exampleOwner : ∃ owner, exampleOwner 29 = some owner ∧
    (∀ (i j : ℕ) (runId : String), owner.Holds i runId → owner.Holds j runId → i = j) ∧
    (∀ (i : ℕ) (runId : String), owner.Holds i runId →
      runId ∈ owner.active ∧ runId ∉ owner.admissions) ∧
    ∀ event owner', owner.step some event = some owner' →
      (∀ runId ∈ owner.active, runId ∉ owner'.active →
        (event = .admissionFailed runId ∧ runId ∈ owner.admissions ∧ ∀ i, ¬ owner.Holds i runId) ∨
        ∃ i run run', RunStep some owner owner' i run run' ∧ run.runId = runId ∧
          ∃ completion, run'.completions = run.completions ++ [completion] ∧
            completion.Released) ∧
      ∀ i run run', RunStep some owner owner' i run run' → run.releases < run'.releases →
        run.runId ∉ owner.admissions ∧ ∀ j, owner.Holds j run.runId → j = i := by
  obtain ⟨owner, howner⟩ := Option.isSome_iff_exists.1
    (by decide +kernel : (exampleOwner 29).isSome = true)
  exact ⟨owner, howner, run_identifiers_exclusive some owner (.of_events (.of_start rfl) howner)⟩

end RunOwner

end RoboticsRuntime.Host
