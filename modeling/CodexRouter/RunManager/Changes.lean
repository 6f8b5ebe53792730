import CodexRouter.RunManager.Core

/-!
# What an operation changes

An operation is refused before it has changed anything, or it makes one of four changes. What it
does to the log is left to the event that follows.
-/

open Js CodexRouter.Kernel CodexRouter.Store Runs

namespace CodexRouter.RunManager

/-! ## Stored records -/

lemma read_write_run {run : Run} (h : runSchema.Valid run) :
    runFields.read (Json.get? (runFields.write run)) = .ok run := h

lemma read_write_step {step : Step} (h : stepSchema.Valid step) :
    stepFields.read (Json.get? (stepFields.write step)) = .ok step := h

lemma run_ids {run : Run} (h : runSchema.Valid run) : run.runId ≠ [] ∧ run.taskId ≠ [] := by
  obtain ⟨-, ⟨-, hrunId⟩, ⟨-, htaskId⟩, -⟩ := read_runFields.mp (read_write_run h)
  exact ⟨hrunId, htaskId⟩

lemma step_ids {step : Step} (h : stepSchema.Valid step) :
    step.stepId ≠ [] ∧ step.runId ≠ [] ∧ step.taskId ≠ [] := by
  obtain ⟨-, ⟨-, hstepId⟩, ⟨-, hrunId⟩, ⟨-, htaskId⟩, -⟩ := read_stepFields.mp (read_write_step h)
  exact ⟨hstepId, hrunId, htaskId⟩

lemma str_inj {s t : Str} (h : some (Json.str s) = some (Json.str t)) : s = t :=
  Json.str.inj (Option.some.inj h)

/-- The members that move a run: its status, the time, and at its end what it left. -/
def runMove (status : RunStatus) (timestamp : Str) (more : Record) : Record :=
  [(js "status", .str status.text), (js "updatedAt", .str timestamp)] ++ more

def stepMove (status : StepStatus) (timestamp : Str) (output : Option Record) : Record :=
  [(js "status", .str status.text), (js "updatedAt", .str timestamp)]
    ++ Json.member? "output" (output.map .obj)

section

variable {run run' : Run} {runStatus : RunStatus} {step step' : Step} {stepStatus : StepStatus}
  {timestamp : Str} {more : Record} {output : Option Record} {get : Str → Option Json}

lemma moved_run (hrun : runFields.read get = .ok run)
    (hmore : more = [] ∨ ∃ patch, more = ended patch timestamp run)
    (h : runFields.read (Json.before
      ((js "runId", .str run.runId) :: runMove runStatus timestamp more) get) = .ok run') :
    run'.runId = run.runId ∧ run'.taskId = run.taskId ∧ run'.status = runStatus ∧
      timestamp ≠ [] := by
  obtain ⟨-, -, ⟨htask, -⟩, -⟩ := read_runFields.mp hrun
  rcases hmore with rfl | ⟨patch, rfl⟩
  all_goals
    obtain ⟨-, ⟨hrunId, -⟩, ⟨htaskId, -⟩, hstatus, -, -, -, ⟨hupdated, hne⟩, -⟩ :=
      read_runFields.mp h
    have htime : timestamp = run'.updatedAt := str_inj hupdated
    refine ⟨(str_inj hrunId).symm, str_inj (htaskId.symm.trans htask), ?_, htime ▸ hne⟩
    exact Except.ok.inj (hstatus.symm.trans (read_runStatus runStatus))

lemma exists_moved_run (runStatus : RunStatus) (hrun : runFields.read get = .ok run)
    (htime : timestamp ≠ [])
    (hmore : more = [] ∨ ∃ patch, more = ended patch timestamp run) :
    ∃ run', runFields.read (Json.before
      ((js "runId", .str run.runId) :: runMove runStatus timestamp more) get) = .ok run' := by
  obtain ⟨hversion, hrunId, htaskId, -, hpolicy, hmetadata, hcreated, -, hcompleted⟩ :=
    read_runFields.mp hrun
  rcases hmore with rfl | ⟨patch, rfl⟩
  · refine ⟨{ run with status := runStatus, updatedAt := timestamp }, read_runFields.mpr ?_⟩
    exact ⟨hversion, ⟨rfl, hrunId.2⟩, htaskId, read_runStatus runStatus, hpolicy, hmetadata,
      hcreated, ⟨rfl, htime⟩, hcompleted⟩
  · refine ⟨{ run with
      status := runStatus
      updatedAt := timestamp
      completedAt := timestamp
      metadata := some (some ((spread (run.metadata.join.getD []) patch).filter fun e =>
        e.1 ≠ js "__proto__")) }, read_runFields.mpr ?_⟩
    refine ⟨hversion, ⟨rfl, hrunId.2⟩, htaskId, read_runStatus runStatus, hpolicy, rfl, hcreated,
      ⟨rfl, htime⟩, ?_⟩
    exact Parsed.map_eq_ok.mpr ⟨timestamp, Schema.read_nonEmptyString.mpr ⟨rfl, htime⟩, rfl⟩

lemma moved_step (hstep : stepFields.read get = .ok step)
    (h : stepFields.read (Json.before
      ((js "stepId", .str step.stepId) :: stepMove stepStatus timestamp output) get) = .ok step') :
    step'.stepId = step.stepId ∧ step'.runId = step.runId ∧ step'.taskId = step.taskId ∧
      step'.dependsOn = step.dependsOn ∧ step'.status = stepStatus ∧ timestamp ≠ [] := by
  obtain ⟨-, -, ⟨hrun, -⟩, ⟨htask, -⟩, -, -, hdepends, -⟩ := read_stepFields.mp hstep
  cases output
  all_goals
    obtain ⟨-, ⟨hstepId, -⟩, ⟨hrunId, -⟩, ⟨htaskId, -⟩, -, hstatus, hdependsOn, -,
      ⟨hupdated, hne⟩, -⟩ := read_stepFields.mp h
    have htime : timestamp = step'.updatedAt := str_inj hupdated
    refine ⟨(str_inj hstepId).symm, str_inj (hrunId.symm.trans hrun),
      str_inj (htaskId.symm.trans htask), Except.ok.inj (hdependsOn.symm.trans hdepends), ?_,
      htime ▸ hne⟩
    exact Except.ok.inj (hstatus.symm.trans (read_stepStatus stepStatus))

lemma exists_moved_step (stepStatus : StepStatus) (output : Option Record)
    (hstep : stepFields.read get = .ok step) (htime : timestamp ≠ []) :
    ∃ step', stepFields.read (Json.before
      ((js "stepId", .str step.stepId) :: stepMove stepStatus timestamp output) get) =
        .ok step' := by
  obtain ⟨hversion, hstepId, hrunId, htaskId, hkind, -, hdependsOn, hcreated, -, hinput, houtput⟩ :=
    read_stepFields.mp hstep
  cases output with
  | none =>
    refine ⟨{ step with status := stepStatus, updatedAt := timestamp }, read_stepFields.mpr ?_⟩
    exact ⟨hversion, ⟨rfl, hstepId.2⟩, hrunId, htaskId, hkind, read_stepStatus stepStatus,
      hdependsOn, hcreated, ⟨rfl, htime⟩, hinput, houtput⟩
  | some record =>
    refine ⟨{ step with
      status := stepStatus
      updatedAt := timestamp
      output := some (record.filter fun e => e.1 ≠ js "__proto__") }, read_stepFields.mpr ?_⟩
    exact ⟨hversion, ⟨rfl, hstepId.2⟩, hrunId, htaskId, hkind, read_stepStatus stepStatus,
      hdependsOn, hcreated, ⟨rfl, htime⟩, hinput, rfl⟩

lemma new_run {runId taskId principalId : Str} {options : CreateRunOptions}
    (h : runSchema.read (runDocument runId taskId principalId options timestamp) = .ok run) :
    run.runId = runId ∧ run.taskId = taskId ∧ run.status = .queued ∧ timestamp ≠ [] := by
  rw [runDocument, runSchema, Schema.read_object, read_runFields] at h
  cases hpolicy : options.policyDecisionId.filter (· ≠ [])
  all_goals
    rw [hpolicy] at h
    obtain ⟨-, ⟨hrunId, -⟩, ⟨htaskId, -⟩, hstatus, -, -, ⟨hcreated, hne⟩, -⟩ := h
    have htime : timestamp = run.createdAt := str_inj hcreated
    refine ⟨(str_inj hrunId).symm, (str_inj htaskId).symm, ?_, htime ▸ hne⟩
    exact Except.ok.inj (hstatus.symm.trans (read_runStatus .queued))

lemma exists_new_run {runId taskId : Str} (principalId : Str) (options : CreateRunOptions)
    (hrunId : runId ≠ []) (htaskId : taskId ≠ []) (htime : timestamp ≠ []) :
    ∃ run, runSchema.read (runDocument runId taskId principalId options timestamp) = .ok run := by
  let legacy := spread (options.metadata.join.getD []) [(js "createdByPrincipalId", .str principalId)]
  refine ⟨⟨runId, taskId, .queued, options.policyDecisionId.filter (· ≠ []),
    some (some (legacy.filter fun e => e.1 ≠ js "__proto__")), timestamp, timestamp, none⟩, ?_⟩
  rw [runDocument, runSchema, Schema.read_object, read_runFields]
  cases hpolicy : options.policyDecisionId.filter (· ≠ []) with
  | none =>
    exact ⟨rfl, ⟨rfl, hrunId⟩, ⟨rfl, htaskId⟩, read_runStatus .queued, rfl, rfl, ⟨rfl, htime⟩,
      ⟨rfl, htime⟩, rfl⟩
  | some policyDecisionId =>
    have hne : policyDecisionId ≠ [] := by
      simpa using (Option.filter_eq_some_iff.mp hpolicy).2
    refine ⟨rfl, ⟨rfl, hrunId⟩, ⟨rfl, htaskId⟩, read_runStatus .queued, ?_, rfl, ⟨rfl, htime⟩,
      ⟨rfl, htime⟩, rfl⟩
    exact Parsed.map_eq_ok.mpr
      ⟨policyDecisionId, Schema.read_nonEmptyString.mpr ⟨rfl, hne⟩, rfl⟩

/-- An array of texts is read as it is. -/
lemma read_strings (l : List Str) : stringsSlot.read (some (strings l)) = .ok l :=
  Schema.valid_array.mpr fun _ _ => rfl

lemma new_step {stepId runId taskId : Str} {input : CreateStepInput}
    (h : stepSchema.read (stepDocument stepId runId taskId input timestamp) = .ok step) :
    step.stepId = stepId ∧ step.runId = runId ∧ step.taskId = taskId ∧ step.status = .pending ∧
      step.stepId ≠ [] ∧ timestamp ≠ [] := by
  rw [stepDocument, stepSchema, Schema.read_object, read_stepFields] at h
  obtain ⟨-, ⟨hstepId, hne⟩, ⟨hrunId, -⟩, ⟨htaskId, -⟩, -, hstatus, -, ⟨hcreated, htime⟩, -⟩ := h
  have hcreatedAt : timestamp = step.createdAt := str_inj hcreated
  refine ⟨(str_inj hstepId).symm, (str_inj hrunId).symm, (str_inj htaskId).symm, ?_, hne,
    hcreatedAt ▸ htime⟩
  exact Except.ok.inj (hstatus.symm.trans (read_stepStatus .pending))

lemma exists_new_step {stepId runId taskId : Str} (input : CreateStepInput) (hstepId : stepId ≠ [])
    (hrunId : runId ≠ []) (htaskId : taskId ≠ []) (htime : timestamp ≠ []) :
    ∃ step, stepSchema.read (stepDocument stepId runId taskId input timestamp) = .ok step := by
  refine ⟨⟨stepId, runId, taskId, input.kind, .pending, input.dependsOn.getD [], timestamp,
    timestamp, (input.input.getD []).filter fun e => e.1 ≠ js "__proto__", none⟩, ?_⟩
  rw [stepDocument, stepSchema, Schema.read_object, read_stepFields]
  exact ⟨rfl, ⟨rfl, hstepId⟩, ⟨rfl, hrunId⟩, ⟨rfl, htaskId⟩, read_stepKind input.kind,
    read_stepStatus .pending, read_strings _, ⟨rfl, htime⟩, ⟨rfl, htime⟩, rfl, rfl⟩

end

/-! ## Changes -/

/-- A step that has succeeded in the run. -/
def Succeeded (store : InMemoryKernelStore) (runId stepId : Str) : Prop :=
  ∃ step, store.getStep stepId = some step ∧ step.runId = runId ∧ step.status = .succeeded

def Ready (store : InMemoryKernelStore) (step : Step) : Prop :=
  ∀ d ∈ step.dependsOn, Succeeded store step.runId d

/-- The four changes of a store. -/
inductive Change (store : InMemoryKernelStore) : InMemoryKernelStore → Prop
  | newRun (run : Run) (h : runSchema.Valid run) (hnew : store.getRun run.runId = none)
      (hstatus : run.status = .queued) : Change store { store with runs := store.runs.put run h }
  | movedRun (run run' : Run) (h : runSchema.Valid run')
      (hrun : store.getRun run'.runId = some run)
      (hallowed : runTransitionAllowed run.status run'.status = true) :
      Change store { store with runs := store.runs.put run' h }
  | newStep (step : Step) (h : stepSchema.Valid step) (hnew : store.getStep step.stepId = none)
      (hstatus : step.status = .pending) :
      Change store { store with steps := store.steps.put step h }
  | movedStep (step step' : Step) (h : stepSchema.Valid step')
      (hstep : store.getStep step'.stepId = some step) (hrunId : step'.runId = step.runId)
      (hdependsOn : step'.dependsOn = step.dependsOn)
      (hallowed : stepTransitionAllowed step.status step'.status = true)
      (hready : step'.status = .running → Ready store step) :
      Change store { store with steps := store.steps.put step' h }

lemma Change.events {store store' : InMemoryKernelStore} (h : Change store store') :
    store'.events = store.events := by
  cases h <;> rfl

/-- A change shows in the runs or in the steps. -/
lemma Change.shows {store store' : InMemoryKernelStore} (h : Change store store') :
    ¬ (store'.runs = store.runs ∧ store'.steps = store.steps) := by
  intro ⟨hruns, hsteps⟩
  cases h with
  | newRun run hvalid hnew _ => cases hnew.symm.trans (Collection.get?_of_put_eq hvalid hruns)
  | movedRun run run' hvalid hrun hallowed =>
    cases hrun.symm.trans (Collection.get?_of_put_eq hvalid hruns)
    cases hstatus : run.status <;> simp [hstatus, runTransitionAllowed] at hallowed
  | newStep step hvalid hnew _ => cases hnew.symm.trans (Collection.get?_of_put_eq hvalid hsteps)
  | movedStep step step' hvalid hstep _ _ hallowed _ =>
    cases hstep.symm.trans (Collection.get?_of_put_eq hvalid hsteps)
    cases hstatus : step.status <;> simp [hstatus, stepTransitionAllowed] at hallowed

/-- An event that can be recorded. -/
structure EventDraft.Sound (draft : EventDraft) : Prop where
  eventType : draft.eventType ≠ []
  runId : draft.runId ≠ []
  taskId : draft.taskId ≠ []

/-- A change that is made exactly when `admitted` holds, the event drafted for it, and what it
stores. -/
structure Described {α : Type} (change : Operation α) (draft : α → EventDraft)
    (stored : α → Stored) (desk : Desk) (admitted : Prop) (eventType runId : Str)
    (stepId : Option Str) : Prop where
  refused : ¬ admitted → ∃ e counters, change desk = (.error e, ⟨desk.store, counters⟩)
  made : admitted → ∃ a store counters, change desk = (.ok a, ⟨store, counters⟩) ∧
    Change desk.store store ∧ counters.eventSequence = desk.counters.eventSequence ∧
    (draft a).Sound ∧ (draft a).eventType = eventType ∧ (draft a).runId = runId ∧
    (draft a).stepId = stepId ∧ (stored a).runId = (draft a).runId ∧
    (stored a).taskId = (draft a).taskId

/-! ## Checks -/

section

variable {desk : Desk}

lemma requireRun_some {runId : Str} {run : Run} (h : desk.store.getRun runId = some run) :
    requireRun runId desk = (.ok run, desk) := by
  rw [requireRun, h]

lemma requireRun_none {runId : Str} (h : desk.store.getRun runId = none) :
    requireRun runId desk = (fail (js "run_not_found:" ++ runId), desk) := by
  rw [requireRun, h]

lemma requireStep_some {stepId : Str} {step : Step} (h : desk.store.getStep stepId = some step) :
    requireStep stepId desk = (.ok step, desk) := by
  rw [requireStep, h]

lemma requireStep_none {stepId : Str} (h : desk.store.getStep stepId = none) :
    requireStep stepId desk = (fail (js "step_not_found:" ++ stepId), desk) := by
  rw [requireStep, h]

/-- No transition leaves a terminal status. -/
lemma runTransition_of_terminal {status next : RunStatus} (h : RunStatus.terminal status = true) :
    runTransitionAllowed status next = false := by
  cases status <;> first | rfl | cases h

lemma stepTransition_of_terminal {status next : StepStatus}
    (h : StepStatus.terminal status = true) : stepTransitionAllowed status next = false := by
  cases status <;> first | rfl | cases h

lemma assertRunTransition_ok {run : Run} {next : RunStatus}
    (h : runTransitionAllowed run.status next = true) :
    assertRunTransition run next desk = (.ok (), desk) := by
  have hterminal : RunStatus.terminal run.status ≠ true := by
    intro ht
    rw [runTransition_of_terminal ht] at h
    cases h
  unfold assertRunTransition
  rw [if_neg hterminal, if_pos h]
  rfl

lemma assertRunTransition_error {run : Run} {next : RunStatus}
    (h : runTransitionAllowed run.status next ≠ true) :
    ∃ e, assertRunTransition run next desk = (.error e, desk) := by
  unfold assertRunTransition
  rw [if_neg h]
  split
  · exact ⟨_, rfl⟩
  · exact ⟨_, rfl⟩

lemma assertStepTransition_ok {step : Step} {next : StepStatus}
    (h : stepTransitionAllowed step.status next = true) :
    assertStepTransition step next desk = (.ok (), desk) := by
  have hterminal : StepStatus.terminal step.status ≠ true := by
    intro ht
    rw [stepTransition_of_terminal ht] at h
    cases h
  unfold assertStepTransition
  rw [if_neg hterminal, if_pos h]
  rfl

lemma assertStepTransition_error {step : Step} {next : StepStatus}
    (h : stepTransitionAllowed step.status next ≠ true) :
    ∃ e, assertStepTransition step next desk = (.error e, desk) := by
  unfold assertStepTransition
  rw [if_neg h]
  split
  · exact ⟨_, rfl⟩
  · exact ⟨_, rfl⟩

/-- The parent run is there and running. -/
def ParentRunning (store : InMemoryKernelStore) (step : Step) : Prop :=
  ∃ run, store.getRun step.runId = some run ∧ run.status = .running

lemma assertStepParentRunRunning_ok {step : Step} (h : ParentRunning desk.store step) :
    assertStepParentRunRunning step desk = (.ok (), desk) := by
  obtain ⟨run, hrun, hstatus⟩ := h
  unfold assertStepParentRunRunning
  rw [Comp.bind_of_ok (requireRun_some hrun), hstatus]
  rfl

lemma assertStepParentRunRunning_error {step : Step} (h : ¬ ParentRunning desk.store step) :
    ∃ e, assertStepParentRunRunning step desk = (.error e, desk) := by
  unfold assertStepParentRunRunning
  cases hrun : desk.store.getRun step.runId with
  | none => exact ⟨_, Comp.bind_of_error (requireRun_none hrun)⟩
  | some run =>
    have hstatus : run.status ≠ .running := fun hs => h ⟨run, hrun, hs⟩
    rw [Comp.bind_of_ok (requireRun_some hrun), if_pos hstatus]
    split
    · exact ⟨_, rfl⟩
    · exact ⟨_, rfl⟩

lemma assertDependency_ok {step : Step} {d : Str} (h : Succeeded desk.store step.runId d) :
    assertDependency step d desk = (.ok (), desk) := by
  obtain ⟨dependency, hstep, hrun, hstatus⟩ := h
  unfold assertDependency
  rw [Comp.bind_of_ok (requireStep_some hstep), if_neg (not_not.mpr hrun),
    if_neg (not_not.mpr hstatus)]
  rfl

lemma assertDependency_error {step : Step} {d : Str} (h : ¬ Succeeded desk.store step.runId d) :
    ∃ e, assertDependency step d desk = (.error e, desk) := by
  unfold assertDependency
  cases hstep : desk.store.getStep d with
  | none => exact ⟨_, Comp.bind_of_error (requireStep_none hstep)⟩
  | some dependency =>
    rw [Comp.bind_of_ok (requireStep_some hstep)]
    by_cases hrun : dependency.runId = step.runId
    · have hstatus : dependency.status ≠ .succeeded := fun hs => h ⟨dependency, hstep, hrun, hs⟩
      rw [if_neg (not_not.mpr hrun), if_pos hstatus]
      exact ⟨_, rfl⟩
    · rw [if_pos hrun]
      exact ⟨_, rfl⟩

lemma assertStepDependenciesSucceeded_ok {step : Step} {dependsOn : List Str}
    (h : ∀ d ∈ dependsOn, Succeeded desk.store step.runId d) :
    assertStepDependenciesSucceeded step dependsOn desk = (.ok (), desk) := by
  induction dependsOn with
  | nil => rfl
  | cons d dependsOn ih =>
    rw [List.forall_mem_cons] at h
    unfold assertStepDependenciesSucceeded
    rw [Comp.bind_of_ok (assertDependency_ok h.1)]
    exact ih h.2

lemma assertStepDependenciesSucceeded_error {step : Step} {dependsOn : List Str}
    (h : ¬ ∀ d ∈ dependsOn, Succeeded desk.store step.runId d) :
    ∃ e, assertStepDependenciesSucceeded step dependsOn desk = (.error e, desk) := by
  induction dependsOn with
  | nil => simp at h
  | cons d dependsOn ih =>
    unfold assertStepDependenciesSucceeded
    by_cases hd : Succeeded desk.store step.runId d
    · rw [Comp.bind_of_ok (assertDependency_ok hd)]
      apply ih
      intro hrest
      exact h (List.forall_mem_cons.mpr ⟨hd, hrest⟩)
    · obtain ⟨e, he⟩ := assertDependency_error hd
      exact ⟨e, Comp.bind_of_error he⟩

end

end CodexRouter.RunManager
