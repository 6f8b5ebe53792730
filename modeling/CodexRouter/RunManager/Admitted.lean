import CodexRouter.RunManager.Changes

/-!
# When an operation changes the store

The checks of the ten operations, read off the store and the counters before the call.
-/

open Js CodexRouter.Kernel CodexRouter.Store Runs

namespace CodexRouter.RunManager

/-! ## Calls of the store -/

section

variable {store : InMemoryKernelStore} {desk : Desk}

lemma run_found {runId : Str} {run : Run} (h : store.getRun runId = some run) :
    runSchema.Valid run ∧ run.runId = runId := by
  obtain ⟨hmem, hid⟩ := Table.get?_eq_some.mp h
  exact ⟨store.runs.valid run hmem, hid⟩

lemma step_found {stepId : Str} {step : Step} (h : store.getStep stepId = some step) :
    stepSchema.Valid step ∧ step.stepId = stepId := by
  obtain ⟨hmem, hid⟩ := Table.get?_eq_some.mp h
  exact ⟨store.steps.valid step hmem, hid⟩

lemma onStore_ok {α : Type} {f : InMemoryKernelStore → Result (α × InMemoryKernelStore)} {a : α}
    {store : InMemoryKernelStore} (h : f desk.store = .ok (a, store)) :
    onStore f desk = (.ok a, ⟨store, desk.counters⟩) := by
  simp [onStore, Comp.attempt, h, Functor.map, Except.map]

lemma onStore_error {α : Type} {f : InMemoryKernelStore → Result (α × InMemoryKernelStore)}
    {e : Thrown} (h : f desk.store = .error e) : onStore f desk = (.error e, desk) := by
  simp [onStore, Comp.attempt, h, Functor.map, Except.map]

/-- A patch without an id passes the check of its id. -/
lemma checkPatchId_ok {kind idKey : String} {key : Str} {m : Record}
    (h : Json.get? m idKey = none) : checkPatchId kind idKey key (.obj m) = .ok () := by
  simp [checkPatchId, ownMembers, h]

lemma updateRun_ok {run run' : Run} {m : Record} (hrun : store.getRun run.runId = some run)
    (hm : Json.get? m "runId" = none)
    (h : runFields.read (Json.before ((js "runId", .str run.runId) :: m)
      (Json.get? (runFields.write run))) = .ok run') :
    ∃ hvalid : runSchema.Valid run', store.updateRun run.runId (.obj m) =
      .ok (run', { store with runs := store.runs.put run' hvalid }) := by
  have hread : runSchema.read (patched runSchema "runId" run run.runId (.obj m)) = .ok run' :=
    read_patched.mpr h
  have hupdate : store.runs.update "run" "runId" run.runId (.obj m) =
      .ok (run', store.runs.put run' (runSchema.valid_of_read hread)) :=
    Collection.update_eq_ok.mpr ⟨run, hrun, checkPatchId_ok hm, hread, rfl⟩
  refine ⟨runSchema.valid_of_read hread, ?_⟩
  rw [InMemoryKernelStore.updateRun, hupdate]
  rfl

lemma updateRun_error {run : Run} {m : Record} (hrun : store.getRun run.runId = some run)
    (h : ∀ run', runFields.read (Json.before ((js "runId", .str run.runId) :: m)
      (Json.get? (runFields.write run))) ≠ .ok run') :
    ∃ e, store.updateRun run.runId (.obj m) = .error e := by
  unfold InMemoryKernelStore.updateRun
  cases hupdate : store.runs.update "run" "runId" run.runId (.obj m) with
  | error e => exact ⟨e, rfl⟩
  | ok r =>
    obtain ⟨existing, hexisting, -, hread, -⟩ := Collection.update_eq_ok.mp hupdate
    cases hrun.symm.trans hexisting
    exact absurd (read_patched.mp hread) (h r.1)

lemma updateStep_ok {step step' : Step} {m : Record} (hstep : store.getStep step.stepId = some step)
    (hm : Json.get? m "stepId" = none)
    (h : stepFields.read (Json.before ((js "stepId", .str step.stepId) :: m)
      (Json.get? (stepFields.write step))) = .ok step') :
    ∃ hvalid : stepSchema.Valid step', store.updateStep step.stepId (.obj m) =
      .ok (step', { store with steps := store.steps.put step' hvalid }) := by
  have hread : stepSchema.read (patched stepSchema "stepId" step step.stepId (.obj m)) = .ok step' :=
    read_patched.mpr h
  have hupdate : store.steps.update "step" "stepId" step.stepId (.obj m) =
      .ok (step', store.steps.put step' (stepSchema.valid_of_read hread)) :=
    Collection.update_eq_ok.mpr ⟨step, hstep, checkPatchId_ok hm, hread, rfl⟩
  refine ⟨stepSchema.valid_of_read hread, ?_⟩
  rw [InMemoryKernelStore.updateStep, hupdate]
  rfl

lemma updateStep_error {step : Step} {m : Record} (hstep : store.getStep step.stepId = some step)
    (h : ∀ step', stepFields.read (Json.before ((js "stepId", .str step.stepId) :: m)
      (Json.get? (stepFields.write step))) ≠ .ok step') :
    ∃ e, store.updateStep step.stepId (.obj m) = .error e := by
  unfold InMemoryKernelStore.updateStep
  cases hupdate : store.steps.update "step" "stepId" step.stepId (.obj m) with
  | error e => exact ⟨e, rfl⟩
  | ok r =>
    obtain ⟨existing, hexisting, -, hread, -⟩ := Collection.update_eq_ok.mp hupdate
    cases hstep.symm.trans hexisting
    exact absurd (read_patched.mp hread) (h r.1)

lemma createRun_ok {run : Run} (h : runSchema.Valid run) (hnew : store.getRun run.runId = none) :
    store.createRun (runSchema.write run) =
      .ok (run, { store with runs := store.runs.put run h }) := by
  have hcreate : store.runs.create "run" (runSchema.write run) = .ok (run, store.runs.put run h) :=
    Collection.create_eq_ok.mpr ⟨h, hnew, rfl⟩
  rw [InMemoryKernelStore.createRun, hcreate]
  rfl

lemma createRun_error {run : Run} (h : runSchema.Valid run)
    (hold : store.getRun run.runId ≠ none) :
    ∃ e, store.createRun (runSchema.write run) = .error e := by
  unfold InMemoryKernelStore.createRun
  cases hcreate : store.runs.create "run" (runSchema.write run) with
  | error e => exact ⟨e, rfl⟩
  | ok r =>
    obtain ⟨hread, hnew, -⟩ := Collection.create_eq_ok.mp hcreate
    have hsame : run = r.1 := Except.ok.inj (h.symm.trans hread)
    exact absurd (hsame ▸ hnew) hold

lemma createStep_ok {step : Step} (h : stepSchema.Valid step)
    (hnew : store.getStep step.stepId = none) :
    store.createStep (stepSchema.write step) =
      .ok (step, { store with steps := store.steps.put step h }) := by
  have hcreate : store.steps.create "step" (stepSchema.write step) =
      .ok (step, store.steps.put step h) := Collection.create_eq_ok.mpr ⟨h, hnew, rfl⟩
  rw [InMemoryKernelStore.createStep, hcreate]
  rfl

lemma createStep_error {step : Step} (h : stepSchema.Valid step)
    (hold : store.getStep step.stepId ≠ none) :
    ∃ e, store.createStep (stepSchema.write step) = .error e := by
  unfold InMemoryKernelStore.createStep
  cases hcreate : store.steps.create "step" (stepSchema.write step) with
  | error e => exact ⟨e, rfl⟩
  | ok r =>
    obtain ⟨hread, hnew, -⟩ := Collection.create_eq_ok.mp hcreate
    have hsame : step = r.1 := Except.ok.inj (h.symm.trans hread)
    exact absurd (hsame ▸ hnew) hold

/-- A parse inside an operation. -/
lemma lift_parse_ok {α : Type} {schema : Schema α} {j : Json} {a : α} (h : schema.read j = .ok a) :
    (Comp.lift (schema.parse j) : Operation α) desk = (.ok a, desk) := by
  rw [Comp.lift, Schema.parse_eq_ok.mpr h]

lemma lift_parse_error {α : Type} {schema : Schema α} {j : Json} (h : ∀ a, schema.read j ≠ .ok a) :
    ∃ e, (Comp.lift (schema.parse j) : Operation α) desk = (.error e, desk) := by
  unfold Comp.lift
  cases hparse : schema.parse j with
  | error e => exact ⟨e, rfl⟩
  | ok a => exact absurd (Schema.parse_eq_ok.mp hparse) (h a)

end

/-! ## Moves -/

def RunMoves (store : InMemoryKernelStore) (runId : Str) (status : RunStatus) : Prop :=
  ∃ run, store.getRun runId = some run ∧ runTransitionAllowed run.status status = true

/-- The step that a call names may take the status; to start it must be ready. -/
def StepMoves (store : InMemoryKernelStore) (stepId : Str) (status : StepStatus) : Prop :=
  ∃ step, store.getStep stepId = some step ∧ ParentRunning store step ∧
    stepTransitionAllowed step.status status = true ∧ (status = .running → Ready store step)

section

variable {desk : Desk} {timestamp : Str} {eventType : String} {payload : Record}

theorem changeRun_described {runId : Str} {status : RunStatus} {more : Run → Record}
    (hmore : ∀ run, more run = [] ∨ ∃ patch, more run = ended patch timestamp run)
    (htype : js eventType ≠ []) :
    Described (changeRun runId status more timestamp) (runEvent eventType payload) .run desk
      (timestamp ≠ [] ∧ RunMoves desk.store runId status) (js eventType) runId none where
  refused := by
    intro h
    unfold changeRun
    cases hrun : desk.store.getRun runId with
    | none => exact ⟨_, desk.counters, Comp.bind_of_error (requireRun_none hrun)⟩
    | some run =>
      obtain ⟨hvalid, rfl⟩ := run_found hrun
      rw [Comp.bind_of_ok (requireRun_some hrun)]
      by_cases hallowed : runTransitionAllowed run.status status = true
      · rw [Comp.bind_of_ok (assertRunTransition_ok hallowed)]
        have hnone : ∀ run', runFields.read (Json.before
            ((js "runId", .str run.runId) :: runMove status timestamp (more run))
            (Json.get? (runFields.write run))) ≠ .ok run' := by
          intro run' hread
          have htime := (moved_run (read_write_run hvalid) (hmore run) hread).2.2.2
          exact h ⟨htime, run, hrun, hallowed⟩
        obtain ⟨e, he⟩ := updateRun_error hrun hnone
        exact ⟨e, desk.counters, onStore_error he⟩
      · obtain ⟨e, he⟩ := assertRunTransition_error hallowed
        exact ⟨e, desk.counters, Comp.bind_of_error he⟩
  made := by
    intro ⟨htime, run, hrun, hallowed⟩
    obtain ⟨hvalid, rfl⟩ := run_found hrun
    have hread := read_write_run hvalid
    obtain ⟨run', hrun'⟩ := exists_moved_run status hread htime (hmore run)
    obtain ⟨hrunId, htaskId, hstatus, -⟩ := moved_run hread (hmore run) hrun'
    have hm : Json.get? (runMove status timestamp (more run)) "runId" = none := by
      rcases hmore run with hm | ⟨patch, hm⟩ <;> rw [hm] <;> rfl
    obtain ⟨hvalid', hupdate⟩ := updateRun_ok hrun hm hrun'
    refine ⟨run', _, desk.counters, ?_, Change.movedRun run run' hvalid' ?_ ?_, rfl, ?_, rfl,
      hrunId, rfl, rfl, rfl⟩
    · unfold changeRun
      rw [Comp.bind_of_ok (requireRun_some hrun), Comp.bind_of_ok (assertRunTransition_ok hallowed)]
      exact onStore_ok hupdate
    · rw [hrunId]
      exact hrun
    · rw [hstatus]
      exact hallowed
    · exact ⟨htype, (run_ids hvalid').1, (run_ids hvalid').2⟩

/-- What `startStep` checks on top of the others. -/
def StartCheck (status : StepStatus) (check : Step → Operation Unit) : Prop :=
  (status = .running ∧ check = fun step => assertStepDependenciesSucceeded step step.dependsOn) ∨
    (status ≠ .running ∧ check = fun _ => pure ())

lemma check_ok {step : Step} {status : StepStatus} {check : Step → Operation Unit}
    (hcheck : StartCheck status check) (h : status = .running → Ready desk.store step) :
    check step desk = (.ok (), desk) := by
  rcases hcheck with ⟨hstatus, rfl⟩ | ⟨-, rfl⟩
  · exact assertStepDependenciesSucceeded_ok (h hstatus)
  · rfl

lemma check_error {step : Step} {status : StepStatus} {check : Step → Operation Unit}
    (hcheck : StartCheck status check) (h : ¬ (status = .running → Ready desk.store step)) :
    ∃ e, check step desk = (.error e, desk) := by
  rw [Classical.not_imp] at h
  rcases hcheck with ⟨-, rfl⟩ | ⟨hstatus, -⟩
  · exact assertStepDependenciesSucceeded_error h.2
  · exact absurd h.1 hstatus

theorem changeStep_described {stepId : Str} {status : StepStatus}
    {check : Step → Operation Unit} {output : Option Record}
    (hcheck : StartCheck status check) (htype : js eventType ≠ []) :
    Described (changeStep stepId status check output timestamp) (stepEvent eventType payload) .step
      desk (timestamp ≠ [] ∧ StepMoves desk.store stepId status) (js eventType)
      (((desk.store.getStep stepId).map Step.runId).getD []) (some stepId) where
  refused := by
    intro h
    unfold changeStep
    cases hstep : desk.store.getStep stepId with
    | none => exact ⟨_, desk.counters, Comp.bind_of_error (requireStep_none hstep)⟩
    | some step =>
      obtain ⟨hvalid, rfl⟩ := step_found hstep
      rw [Comp.bind_of_ok (requireStep_some hstep)]
      by_cases hparent : ParentRunning desk.store step
      swap
      · obtain ⟨e, he⟩ := assertStepParentRunRunning_error hparent
        exact ⟨e, desk.counters, Comp.bind_of_error he⟩
      rw [Comp.bind_of_ok (assertStepParentRunRunning_ok hparent)]
      by_cases hallowed : stepTransitionAllowed step.status status = true
      swap
      · obtain ⟨e, he⟩ := assertStepTransition_error hallowed
        exact ⟨e, desk.counters, Comp.bind_of_error he⟩
      rw [Comp.bind_of_ok (assertStepTransition_ok hallowed)]
      by_cases hready : status = .running → Ready desk.store step
      · rw [Comp.bind_of_ok (check_ok hcheck hready)]
        have hnone : ∀ step', stepFields.read (Json.before
            ((js "stepId", .str step.stepId) :: stepMove status timestamp output)
            (Json.get? (stepFields.write step))) ≠ .ok step' := by
          intro step' hread
          have htime := (moved_step (read_write_step hvalid) hread).2.2.2.2.2
          exact h ⟨htime, step, hstep, hparent, hallowed, hready⟩
        obtain ⟨e, he⟩ := updateStep_error hstep hnone
        exact ⟨e, desk.counters, onStore_error he⟩
      · obtain ⟨e, he⟩ := check_error hcheck hready
        exact ⟨e, desk.counters, Comp.bind_of_error he⟩
  made := by
    intro ⟨htime, step, hstep, hparent, hallowed, hready⟩
    obtain ⟨hvalid, rfl⟩ := step_found hstep
    have hread := read_write_step hvalid
    obtain ⟨step', hstep'⟩ :=
      exists_moved_step status output hread htime
    obtain ⟨hstepId, hrunId, htaskId, hdependsOn, hstatus, -⟩ := moved_step hread hstep'
    have hm : Json.get? (stepMove status timestamp output) "stepId" = none := by
      cases output <;> rfl
    obtain ⟨hvalid', hupdate⟩ := updateStep_ok hstep hm hstep'
    refine ⟨step', _, desk.counters, ?_, Change.movedStep step step' hvalid' ?_ hrunId hdependsOn
      ?_ ?_, rfl, ?_, rfl, ?_, ?_, rfl, rfl⟩
    · unfold changeStep
      rw [Comp.bind_of_ok (requireStep_some hstep),
        Comp.bind_of_ok (assertStepParentRunRunning_ok hparent),
        Comp.bind_of_ok (assertStepTransition_ok hallowed),
        Comp.bind_of_ok (check_ok hcheck hready)]
      exact onStore_ok hupdate
    · rw [hstepId]
      exact hstep
    · rw [hstatus]
      exact hallowed
    · rw [hstatus]
      exact hready
    · exact ⟨htype, (step_ids hvalid').2.1, (step_ids hvalid').2.2⟩
    · rw [hstep]
      exact hrunId
    · exact congrArg some hstepId

end

/-! ## New runs and steps -/

def nextRunId (counters : Counters) (taskId : Str) (options : CreateRunOptions) : Str :=
  options.runId.getD (runIdOf taskId (counters.runSequence + 1))

def nextStepId (counters : Counters) (runId : Str) (input : CreateStepInput) : Str :=
  input.stepId.getD (stepIdOf runId (counters.stepSequence + 1))

/-- The checks of `createRunFromTask`. -/
def RunCreatable (desk : Desk) (taskId : Str) (options : CreateRunOptions) : Prop :=
  taskId ≠ [] ∧ nextRunId desk.counters taskId options ≠ [] ∧
    desk.store.getRun (nextRunId desk.counters taskId options) = none

/-- The checks of `createStep`. -/
def StepCreatable (desk : Desk) (runId : Str) (input : CreateStepInput) : Prop :=
  (∃ run, desk.store.getRun runId = some run ∧ RunStatus.terminal run.status = false) ∧
    nextStepId desk.counters runId input ≠ [] ∧
    desk.store.getStep (nextStepId desk.counters runId input) = none

section

variable {desk : Desk} {timestamp : Str} {eventType : String}

theorem newRun_described {taskId principalId : Str} {options : CreateRunOptions}
    {payload : Record} (htype : js eventType ≠ []) :
    Described (newRun taskId principalId options timestamp) (runEvent eventType payload) .run desk
      (timestamp ≠ [] ∧ RunCreatable desk taskId options) (js eventType)
      (nextRunId desk.counters taskId options) none := by
  -- The id is chosen first; only a counter changes with it.
  have hchoice : ∃ counters, counters.eventSequence = desk.counters.eventSequence ∧
      newRun taskId principalId options timestamp desk =
        (do
          let run ← Comp.lift (runSchema.parse (runDocument
            (nextRunId desk.counters taskId options) taskId principalId options timestamp))
          onStore (·.createRun (runSchema.write run)) : Operation Run) ⟨desk.store, counters⟩ := by
    unfold newRun nextRunId
    cases options.runId with
    | some runId => exact ⟨desk.counters, rfl, rfl⟩
    | none =>
      exact ⟨{ desk.counters with runSequence := desk.counters.runSequence + 1 }, rfl, rfl⟩
  obtain ⟨counters, hsequence, hchoice⟩ := hchoice
  constructor
  · intro h
    rw [hchoice]
    by_cases hread : ∃ run, runSchema.read (runDocument (nextRunId desk.counters taskId options)
        taskId principalId options timestamp) = .ok run
    · obtain ⟨run, hread⟩ := hread
      obtain ⟨hrunId, htaskId, -, htime⟩ := new_run hread
      have hids := run_ids (runSchema.valid_of_read hread)
      rw [Comp.bind_of_ok (lift_parse_ok hread)]
      have hold : desk.store.getRun run.runId ≠ none := by
        intro hnew
        exact h ⟨htime, htaskId ▸ hids.2, hrunId ▸ hids.1, hrunId ▸ hnew⟩
      obtain ⟨e, he⟩ := createRun_error (runSchema.valid_of_read hread) hold
      exact ⟨e, counters, onStore_error he⟩
    · obtain ⟨e, he⟩ := lift_parse_error (not_exists.mp hread)
      exact ⟨e, counters, Comp.bind_of_error he⟩
  · intro ⟨htime, htaskId, hrunId, hnew⟩
    obtain ⟨run, hread⟩ := exists_new_run principalId options hrunId htaskId htime
    obtain ⟨hrun, -, hstatus, -⟩ := new_run hread
    have hvalid := runSchema.valid_of_read hread
    have hnew' : desk.store.getRun run.runId = none := hrun ▸ hnew
    refine ⟨run, _, counters, ?_, Change.newRun run hvalid hnew' hstatus, hsequence, ?_, rfl, hrun,
      rfl, rfl, rfl⟩
    · rw [hchoice, Comp.bind_of_ok (lift_parse_ok hread)]
      exact onStore_ok (createRun_ok hvalid hnew')
    · exact ⟨htype, (run_ids hvalid).1, (run_ids hvalid).2⟩

theorem newStep_described {runId : Str} {input : CreateStepInput}
    (payload : Step → Record) (htype : js eventType ≠ []) :
    Described (newStep runId input timestamp)
      (fun (stored, run) => runEvent eventType (payload stored) run)
      (fun (stored, _) => .step stored) desk (timestamp ≠ [] ∧ StepCreatable desk runId input) (js eventType) runId none := by
  cases hrun : desk.store.getRun runId with
  | none =>
    constructor
    · intro _
      exact ⟨_, desk.counters, Comp.bind_of_error (requireRun_none hrun)⟩
    · intro ⟨_, ⟨run, hrun', _⟩, _⟩
      cases hrun.symm.trans hrun'
  | some run =>
    obtain ⟨hrunValid, hid⟩ := run_found hrun
    cases hterminal : RunStatus.terminal run.status with
    | true =>
      constructor
      · intro _
        unfold newStep
        rw [Comp.bind_of_ok (requireRun_some hrun), if_pos hterminal]
        exact ⟨_, desk.counters, rfl⟩
      · intro ⟨_, ⟨run', hrun', hlive⟩, _⟩
        cases hrun.symm.trans hrun'
        cases hterminal.symm.trans hlive
    | false =>
      have hchoice : ∃ counters, counters.eventSequence = desk.counters.eventSequence ∧
          newStep runId input timestamp desk =
            (do
              let step ← Comp.lift (stepSchema.parse (stepDocument
                (nextStepId desk.counters runId input) runId run.taskId input timestamp))
              let stored ← onStore (·.createStep (stepSchema.write step))
              return (stored, run) : Operation (Step × Run)) ⟨desk.store, counters⟩ := by
        unfold newStep nextStepId
        rw [Comp.bind_of_ok (requireRun_some hrun), hterminal]
        cases input.stepId with
        | some stepId => exact ⟨desk.counters, rfl, rfl⟩
        | none =>
          exact ⟨{ desk.counters with stepSequence := desk.counters.stepSequence + 1 }, rfl, rfl⟩
      obtain ⟨counters, hsequence, hchoice⟩ := hchoice
      constructor
      · intro h
        rw [hchoice]
        by_cases hread : ∃ step, stepSchema.read (stepDocument
            (nextStepId desk.counters runId input) runId run.taskId input timestamp) = .ok step
        · obtain ⟨step, hread⟩ := hread
          obtain ⟨hstepId, -, -, -, hne, htime⟩ := new_step hread
          rw [Comp.bind_of_ok (lift_parse_ok hread)]
          have hold : desk.store.getStep step.stepId ≠ none := by
            intro hnew
            exact h ⟨htime, ⟨run, hrun, hterminal⟩, hstepId ▸ hne, hstepId ▸ hnew⟩
          obtain ⟨e, he⟩ := createStep_error (stepSchema.valid_of_read hread) hold
          exact ⟨e, counters, Comp.bind_of_error (onStore_error he)⟩
        · obtain ⟨e, he⟩ := lift_parse_error (not_exists.mp hread)
          exact ⟨e, counters, Comp.bind_of_error he⟩
      · intro ⟨htime, _, hstepId, hnew⟩
        obtain ⟨hrunId, htaskId⟩ := run_ids hrunValid
        obtain ⟨step, hread⟩ :=
          exists_new_step input hstepId (hid ▸ hrunId) htaskId htime
        obtain ⟨hstep, hstepRun, hstepTask, hstatus, -⟩ := new_step hread
        have hvalid := stepSchema.valid_of_read hread
        have hnew' : desk.store.getStep step.stepId = none := hstep ▸ hnew
        refine ⟨(step, run), _, counters, ?_, Change.newStep step hvalid hnew' hstatus, hsequence,
          ⟨htype, hrunId, htaskId⟩, rfl, hid, rfl, hstepRun.trans hid.symm, hstepTask⟩
        rw [hchoice, Comp.bind_of_ok (lift_parse_ok hread)]
        rw [Comp.bind_of_ok (onStore_ok (createStep_ok hvalid hnew'))]
        rfl

end

end CodexRouter.RunManager
