import CodexRouter.RunManager.EventLog
import CodexRouter.Runs.Grounded

/-!
# Dependencies of steps

Nothing checks a step's `dependsOn` when the step is created. A step that was ever started is
still safe: its dependencies had succeeded then, and so had theirs.
-/

open Js CodexRouter.Kernel CodexRouter.Store Relation Runs

namespace CodexRouter.RunManager

/-! ## One call -/

/-- What every call keeps of the runs and steps there are. -/
structure Evolves (store store' : InMemoryKernelStore) : Prop where
  runs : ∀ id run, store.getRun id = some run → ∃ run', store'.getRun id = some run' ∧
    (RunStatus.terminal run.status = true → run'.status = run.status)
  steps : ∀ id step, store.getStep id = some step → ∃ step', store'.getStep id = some step' ∧
    step'.runId = step.runId ∧ step'.dependsOn = step.dependsOn ∧
    (StepStatus.terminal step.status = true → step'.status = step.status)

variable {store store' : InMemoryKernelStore}

lemma Evolves.refl (store : InMemoryKernelStore) : Evolves store store where
  runs _ run h := ⟨run, h, fun _ => rfl⟩
  steps _ step h := ⟨step, h, rfl, rfl, fun _ => rfl⟩

lemma Evolves.trans {store'' : InMemoryKernelStore} (h : Evolves store store')
    (h' : Evolves store' store'') : Evolves store store'' where
  runs := by
    intro id run hrun
    obtain ⟨run', hrun', hstatus⟩ := h.runs id run hrun
    obtain ⟨run'', hrun'', hstatus'⟩ := h'.runs id run' hrun'
    refine ⟨run'', hrun'', fun ht => ?_⟩
    rw [hstatus' (hstatus ht ▸ ht), hstatus ht]
  steps := by
    intro id step hstep
    obtain ⟨step', hstep', hrunId, hdependsOn, hstatus⟩ := h.steps id step hstep
    obtain ⟨step'', hstep'', hrunId', hdependsOn', hstatus'⟩ := h'.steps id step' hstep'
    refine ⟨step'', hstep'', hrunId'.trans hrunId, hdependsOn'.trans hdependsOn, fun ht => ?_⟩
    rw [hstatus' (hstatus ht ▸ ht), hstatus ht]

lemma getRun_put (run : Run) (h : runSchema.Valid run) (id : Str) :
    InMemoryKernelStore.getRun { store with runs := store.runs.put run h } id =
      if run.runId = id then some run else store.getRun id :=
  Collection.get?_put store.runs run h id

lemma getStep_put (step : Step) (h : stepSchema.Valid step) (id : Str) :
    InMemoryKernelStore.getStep { store with steps := store.steps.put step h } id =
      if step.stepId = id then some step else store.getStep id :=
  Collection.get?_put store.steps step h id

lemma Change.evolves (h : Change store store') : Evolves store store' := by
  cases h with
  | newRun run hvalid hnew hstatus =>
    refine ⟨fun id r hr => ⟨r, ?_, fun _ => rfl⟩, (Evolves.refl store).steps⟩
    have hne : run.runId ≠ id := by
      intro he
      cases (he ▸ hnew).symm.trans hr
    rw [getRun_put, if_neg hne, hr]
  | movedRun run run' hvalid hrun hallowed =>
    refine ⟨fun id r hr => ?_, (Evolves.refl store).steps⟩
    rw [getRun_put]
    by_cases he : run'.runId = id
    · subst he
      cases hrun.symm.trans hr
      refine ⟨run', if_pos rfl, fun ht => ?_⟩
      rw [runTransition_of_terminal ht] at hallowed
      cases hallowed
    · exact ⟨r, (if_neg he).trans hr, fun _ => rfl⟩
  | newStep step hvalid hnew hstatus =>
    refine ⟨(Evolves.refl store).runs, fun id s hs => ⟨s, ?_, rfl, rfl, fun _ => rfl⟩⟩
    have hne : step.stepId ≠ id := by
      intro he
      cases (he ▸ hnew).symm.trans hs
    rw [getStep_put, if_neg hne, hs]
  | movedStep step step' hvalid hstep hrunId hdependsOn hallowed hready =>
    refine ⟨(Evolves.refl store).runs, fun id s hs => ?_⟩
    rw [getStep_put]
    by_cases he : step'.stepId = id
    · subst he
      cases hstep.symm.trans hs
      refine ⟨step', if_pos rfl, hrunId, hdependsOn, fun ht => ?_⟩
      rw [stepTransition_of_terminal ht] at hallowed
      cases hallowed
    · exact ⟨s, (if_neg he).trans hs, rfl, rfl, fun _ => rfl⟩

/-- A call makes one change of runs and steps, or none. -/
lemma perform_change (readings : Readings) (c : ManagerCall) (desk : Desk) :
    ∃ store, (store = desk.store ∨ Change desk.store store) ∧
      (perform readings c desk).2.store.runs = store.runs ∧
      (perform readings c desk).2.store.steps = store.steps := by
  rcases perform_cases readings c desk with ⟨-, e, counters, he⟩ |
    ⟨-, stored, store, hchange, ⟨-, eventId, counters, events, hok, -⟩ | ⟨-, e, counters, he⟩⟩
  · exact ⟨desk.store, Or.inl rfl, by rw [he], by rw [he]⟩
  · exact ⟨store, Or.inr hchange, by rw [hok], by rw [hok]⟩
  · exact ⟨store, Or.inr hchange, by rw [he], by rw [he]⟩

/-! ## Grounded steps -/

def Depends (store : InMemoryKernelStore) (a b : Str) : Prop :=
  ∃ step, store.getStep a = some step ∧ b ∈ step.dependsOn

def GroundedIn (store : InMemoryKernelStore) (runId d : Str) : Prop :=
  Grounded (Depends store) (Succeeded store runId) d

lemma GroundedIn.evolves {runId d : Str} (hevolves : Evolves store store')
    (h : GroundedIn store runId d) : GroundedIn store' runId d := by
  apply Grounded.mono _ _ h
  · intro a ⟨step, hstep, hrunId, hstatus⟩
    obtain ⟨step', hstep', hrunId', -, hstatus'⟩ := hevolves.steps a step hstep
    have hterminal : StepStatus.terminal step.status = true := by rw [hstatus]; rfl
    exact ⟨step', hstep', hrunId'.trans hrunId, (hstatus' hterminal).trans hstatus⟩
  · intro a b ⟨step, hstep, _, _⟩ ⟨step', hstep', hb⟩
    obtain ⟨step'', hstep'', -, hdependsOn, -⟩ := hevolves.steps a step hstep
    cases hstep'.symm.trans hstep''
    exact ⟨step, hstep, hdependsOn ▸ hb⟩

/-- A status that only a started step can have. -/
def StepStatus.started : StepStatus → Bool
  | .running | .succeeded | .failed => true
  | _ => false

/-- The statuses that a manager gives. -/
def StepStatus.managed : StepStatus → Bool
  | .blocked | .skipped => false
  | _ => true

structure Safe (store : InMemoryKernelStore) : Prop where
  managed : ∀ id step, store.getStep id = some step → StepStatus.managed step.status = true
  grounded : ∀ id step, store.getStep id = some step → StepStatus.started step.status = true →
    ∀ d ∈ step.dependsOn, GroundedIn store step.runId d

lemma Safe.empty : Safe .empty where
  managed _ _ h := by cases h
  grounded _ _ h := by cases h

/-- What a started step needs: its dependencies are grounded, before a change and behind it. -/
lemma Safe.ready (hsafe : Safe store) {step : Step} (h : Ready store step) :
    ∀ d ∈ step.dependsOn, GroundedIn store step.runId d := by
  intro d hd
  obtain ⟨dependency, hstep, hrunId, hstatus⟩ := h d hd
  apply Grounded.intro d ⟨dependency, hstep, hrunId, hstatus⟩
  intro b ⟨dependency', hstep', hb⟩
  cases hstep.symm.trans hstep'
  have hstarted : StepStatus.started dependency.status = true := by rw [hstatus]; rfl
  exact hrunId ▸ hsafe.grounded d dependency hstep hstarted b hb

lemma Change.safe (h : Change store store') (hsafe : Safe store) : Safe store' := by
  have hevolves := h.evolves
  have hold : ∀ id step, store.getStep id = some step → StepStatus.started step.status = true →
      ∀ d ∈ step.dependsOn, GroundedIn store' step.runId d :=
    fun id step hstep hstarted d hd => (hsafe.grounded id step hstep hstarted d hd).evolves hevolves
  cases h with
  | newRun run hvalid hnew hstatus => exact ⟨hsafe.managed, hold⟩
  | movedRun run run' hvalid hrun hallowed => exact ⟨hsafe.managed, hold⟩
  | newStep step hvalid hnew hstatus =>
    constructor
    all_goals
      intro id s hs
      rw [getStep_put] at hs
      split at hs
      · cases hs
        simp [hstatus, StepStatus.managed, StepStatus.started]
    · exact hsafe.managed id s hs
    · exact hold id s hs
  | movedStep step step' hvalid hstep hrunId hdependsOn hallowed hready =>
    constructor
    · intro id s hs
      rw [getStep_put] at hs
      split at hs
      · cases hs
        revert hallowed
        cases step.status <;> cases step'.status <;> decide
      · exact hsafe.managed id s hs
    · intro id s hs
      rw [getStep_put] at hs
      split at hs
      · cases hs
        intro hstarted d hd
        rw [hdependsOn] at hd
        rw [hrunId]
        by_cases hrunning : step'.status = .running
        · exact (hsafe.ready (hready hrunning) d hd).evolves hevolves
        · -- Only a running step succeeds or fails.
          have hwas : StepStatus.started step.status = true := by
            revert hallowed hstarted hrunning
            cases step.status <;> cases step'.status <;> decide
          exact hold _ step hstep hwas d hd
      · exact hold id s hs

/-! ## Steps that can never start -/

/-- The step lies on or reaches a cycle, a missing step or a step of another run. -/
def Doomed (store : InMemoryKernelStore) (step : Step) : Prop :=
  ∃ c, ReflTransGen (Depends store) step.stepId c ∧
    (TransGen (Depends store) c c ∨ store.getStep c = none ∨
      ∃ other, store.getStep c = some other ∧ other.runId ≠ step.runId)

lemma Doomed.not_grounded {step : Step} (hstep : store.getStep step.stepId = some step)
    (h : Doomed store step) : ¬ ∀ d ∈ step.dependsOn, GroundedIn store step.runId d := by
  intro hgrounded
  have hsuccessor : ∀ d, Depends store step.stepId d → GroundedIn store step.runId d := by
    intro d ⟨step', hstep', hd⟩
    cases hstep.symm.trans hstep'
    exact hgrounded d hd
  obtain ⟨c, hreach, hbad⟩ := h
  rcases ReflTransGen.cases_head hreach with rfl | ⟨d, hfirst, hrest⟩
  · rcases hbad with hcycle | hnone | ⟨other, hother, hne⟩
    · obtain ⟨d, hfirst, hback⟩ := TransGen.head'_iff.mp hcycle
      exact (hsuccessor d hfirst).acyclic (TransGen.tail' hback hfirst)
    · cases hstep.symm.trans hnone
    · cases hstep.symm.trans hother
      exact hne rfl
  · have hc := (hsuccessor d hfirst).reaches hrest
    obtain ⟨other', hother', hrunId, -⟩ := hc.holds
    rcases hbad with hcycle | hnone | ⟨other, hother, hne⟩
    · exact hc.acyclic hcycle
    · cases hother'.symm.trans hnone
    · cases hother'.symm.trans hother
      exact hne hrunId

def StepStatus.unstarted : StepStatus → Bool
  | .pending | .cancelled => true
  | _ => false

lemma Safe.unstarted (hsafe : Safe store) {step : Step}
    (hstep : store.getStep step.stepId = some step) (h : Doomed store step) :
    StepStatus.unstarted step.status = true := by
  have hmanaged := hsafe.managed _ step hstep
  have hstarted : ¬ StepStatus.started step.status = true :=
    fun hs => h.not_grounded hstep (hsafe.grounded _ step hstep hs)
  revert hmanaged hstarted
  cases step.status <;> decide

/-- The next change only cancels a doomed step. -/
lemma Change.unstarted (h : Change store store') (hsafe : Safe store) {step : Step}
    (hstep : store.getStep step.stepId = some step) (hdoomed : Doomed store step) :
    ∃ step', store'.getStep step.stepId = some step' ∧
      StepStatus.unstarted step'.status = true := by
  have hunstarted := hsafe.unstarted hstep hdoomed
  cases h with
  | newRun | movedRun => exact ⟨step, hstep, hunstarted⟩
  | newStep new hvalid hnew _ =>
    have hne : new.stepId ≠ step.stepId := by
      intro he
      cases (he ▸ hnew).symm.trans hstep
    refine ⟨step, ?_, hunstarted⟩
    rw [getStep_put, if_neg hne, hstep]
  | movedStep old step' hvalid hold _ _ hallowed hready =>
    by_cases he : step'.stepId = step.stepId
    · cases (he ▸ hold).symm.trans hstep
      refine ⟨step', by rw [getStep_put, if_pos he], ?_⟩
      have hrunning : step'.status ≠ .running :=
        fun hr => hdoomed.not_grounded hstep (hsafe.ready (hready hr))
      revert hallowed hunstarted hrunning
      cases step.status <;> cases step'.status <;> decide
    · refine ⟨step, ?_, hunstarted⟩
      rw [getStep_put, if_neg he, hstep]

/-! ## Runs of calls -/

lemma Safe.of_steps (h : Safe store) (hsteps : store'.steps = store.steps) : Safe store' := by
  cases store
  cases store'
  subst hsteps
  exact ⟨h.managed, h.grounded⟩

lemma Evolves.of_same {store'' : InMemoryKernelStore} (h : Evolves store store')
    (hruns : store''.runs = store'.runs) (hsteps : store''.steps = store'.steps) :
    Evolves store store'' := by
  cases store'
  cases store''
  subst hruns hsteps
  exact ⟨h.runs, h.steps⟩

section

variable {ι : Type} [DecidableEq ι] {managers : Managers ι}

lemma call_safe (c : ι × ManagerCall × Readings) (h : Safe managers.store) :
    Safe (managers.call c).2.store := by
  obtain ⟨store, hstore, -, hsteps⟩ := perform_change c.2.2 c.2.1 (managers.desk c.1)
  rcases hstore with rfl | hchange
  · exact h.of_steps hsteps
  · exact (hchange.safe h).of_steps hsteps

lemma call_evolves (c : ι × ManagerCall × Readings) :
    Evolves managers.store (managers.call c).2.store := by
  obtain ⟨store, hstore, hruns, hsteps⟩ := perform_change c.2.2 c.2.1 (managers.desk c.1)
  rcases hstore with rfl | hchange
  · exact (Evolves.refl managers.store).of_same hruns hsteps
  · exact hchange.evolves.of_same hruns hsteps

lemma call_unstarted (c : ι × ManagerCall × Readings) (h : Safe managers.store) {step : Step}
    (hstep : managers.store.getStep step.stepId = some step)
    (hdoomed : Doomed managers.store step) :
    ∃ step', (managers.call c).2.store.getStep step.stepId = some step' ∧
      StepStatus.unstarted step'.status = true := by
  obtain ⟨store, hstore, -, hsteps⟩ := perform_change c.2.2 c.2.1 (managers.desk c.1)
  have hget : (managers.call c).2.store.getStep step.stepId = store.getStep step.stepId :=
    congrArg (·.get? step.stepId) hsteps
  rw [hget]
  rcases hstore with rfl | hchange
  · exact ⟨step, hstep, h.unstarted hstep hdoomed⟩
  · exact hchange.unstarted h hstep hdoomed

lemma behind_evolves (calls : List (ι × ManagerCall × Readings)) :
    Evolves managers.store (behind Managers.call managers calls).store := by
  have hstep : ∀ (m : Managers ι) (c : ι × ManagerCall × Readings),
      Evolves managers.store m.store → Evolves managers.store (m.call c).2.store :=
    fun m c h => h.trans (call_evolves c)
  exact behind_invariant hstep (Evolves.refl managers.store) calls

/-- Behind any calls on an empty store: all that a started step depends on, however far, has
succeeded in its run; a doomed step is pending or cancelled and stays so in the next call; and no
later call changes a terminal status. -/
theorem dependency_safety (calls : List (ι × ManagerCall × Readings)) :
    let managers := behind Managers.call (Managers.fresh .empty) calls
    (∀ step ∈ managers.store.steps.table.rows, StepStatus.started step.status = true →
      ∀ d, TransGen (Depends managers.store) step.stepId d →
        Succeeded managers.store step.runId d) ∧
    (∀ step ∈ managers.store.steps.table.rows, Doomed managers.store step →
      StepStatus.unstarted step.status = true ∧
      ∀ c, ∃ step', (managers.call c).2.store.getStep step.stepId = some step' ∧
        StepStatus.unstarted step'.status = true) ∧
    ∀ later,
      (∀ run ∈ managers.store.runs.table.rows, RunStatus.terminal run.status = true →
        ∃ run', (behind Managers.call managers later).store.getRun run.runId = some run' ∧
          run'.status = run.status) ∧
      ∀ step ∈ managers.store.steps.table.rows, StepStatus.terminal step.status = true →
        ∃ step', (behind Managers.call managers later).store.getStep step.stepId = some step' ∧
          step'.status = step.status := by
  intro managers
  have hstep : ∀ (m : Managers ι) (c : ι × ManagerCall × Readings), Safe m.store →
      Safe (m.call c).2.store := fun m c h => call_safe c h
  have hsafe : Safe managers.store := behind_invariant hstep Safe.empty calls
  have hget : ∀ step ∈ managers.store.steps.table.rows,
      managers.store.getStep step.stepId = some step :=
    fun step hmem => Table.get?_eq_some.mpr ⟨hmem, rfl⟩
  refine ⟨?_, ?_, fun later => ⟨?_, ?_⟩⟩
  · intro step hmem hstarted d hreach
    obtain ⟨e, ⟨step', hstep', he⟩, hrest⟩ := TransGen.head'_iff.mp hreach
    cases (hget step hmem).symm.trans hstep'
    exact ((hsafe.grounded _ step (hget step hmem) hstarted e he).reaches hrest).holds
  · intro step hmem hdoomed
    exact ⟨hsafe.unstarted (hget step hmem) hdoomed,
      fun c => call_unstarted c hsafe (hget step hmem) hdoomed⟩
  · intro run hmem hterminal
    obtain ⟨run', hrun', hstatus⟩ :=
      (behind_evolves later).runs run.runId run (Table.get?_eq_some.mpr ⟨hmem, rfl⟩)
    exact ⟨run', hrun', hstatus hterminal⟩
  · intro step hmem hterminal
    obtain ⟨step', hstep', -, -, hstatus⟩ :=
      (behind_evolves later).steps step.stepId step (hget step hmem)
    exact ⟨step', hstep', hstatus hterminal⟩

end

end CodexRouter.RunManager
