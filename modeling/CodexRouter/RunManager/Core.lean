import CodexRouter.Js.Map
import CodexRouter.Kernel.Ids
import CodexRouter.Runs.Comp
import CodexRouter.Store.KernelStore

/-!
# Run manager

Every operation of a `RunManager` changes one record of its store and then appends the event
that records the change. A manager has only its three counters; the clock is read once for the
change and once for the event.
-/

open Js CodexRouter.Kernel CodexRouter.Store Runs

namespace CodexRouter.RunManager

/-! ## Ids -/

/-- `value.replace(/[^a-zA-Z0-9]+/g, "_")`; `inside`: the unit before was replaced. -/
def squash (inside : Bool) : Str → Str
  | [] => []
  | c :: s =>
    if isAlphanumeric c then c :: squash false s
    else if inside then squash true s
    else cu '_' :: squash true s

structure Counters where
  runSequence : ℕ
  stepSequence : ℕ
  eventSequence : ℕ
  deriving DecidableEq

def Counters.zero : Counters := ⟨0, 0, 0⟩

/-- The store with the counters of the manager that works on it. -/
structure Desk where
  store : InMemoryKernelStore
  counters : Counters

abbrev Operation (α : Type) := Comp Thrown Desk α

/-- What the clock reads at the change and at the event. -/
structure Readings where
  change : Str
  event : Str

def runIdOf (taskId : Str) (sequence : ℕ) : Str :=
  js "run_" ++ sanitizeIdPart taskId ++ js "_" ++ padStart 3 (Json.natText sequence)

def createRunId (taskId : Str) : Operation Str := fun desk =>
  let n := desk.counters.runSequence + 1
  (.ok (runIdOf taskId n), { desk with counters.runSequence := n })

def stepIdOf (runId : Str) (sequence : ℕ) : Str :=
  js "step_" ++ sanitizeIdPart runId ++ js "_" ++ padStart 3 (Json.natText sequence)

def createStepId (runId : Str) : Operation Str := fun desk =>
  let n := desk.counters.stepSequence + 1
  (.ok (stepIdOf runId n), { desk with counters.stepSequence := n })

def eventIdOf (eventType runId : Str) (stepId : Option Str) (sequence : ℕ) : Str :=
  join (cu '_') ([js "event", squash false eventType, sanitizeIdPart runId]
    ++ (stepId.filter (· ≠ [])).toList.map sanitizeIdPart
    ++ [padStart 4 (Json.natText sequence)])

def createEventId (eventType runId : Str) (stepId : Option Str) : Operation Str := fun desk =>
  let n := desk.counters.eventSequence + 1
  (.ok (eventIdOf eventType runId stepId n), { desk with counters.eventSequence := n })

/-! ## Events -/

/-- `{ ...base, ...patch }`. -/
def spread (base patch : Record) : Record := patch.foldl (fun m e => Map.assign e.1 e.2 m) base

/-- The arguments of `appendEvent`, with the type's dots. -/
structure EventDraft where
  eventType : Str
  runId : Str
  taskId : Str
  payload : Record
  stepId : Option Str

def EventDraft.document (draft : EventDraft) (eventId createdAt : Str) : Json :=
  .obj ([(js "schemaVersion", .str "kernel-event.v1"), (js "eventId", .str eventId),
    (js "eventType", .str draft.eventType), (js "taskId", .str draft.taskId),
    (js "runId", .str draft.runId)]
    ++ Json.member? "stepId" ((draft.stepId.filter (· ≠ [])).map .str)
    ++ [(js "createdAt", .str createdAt), (js "payload", .obj draft.payload)])

/-- A call of the store: a call that throws has left it. -/
def onStore {α : Type} (f : InMemoryKernelStore → Result (α × InMemoryKernelStore)) : Operation α :=
  Comp.attempt fun desk => (fun (a, store) => (a, { desk with store })) <$> f desk.store

def appendEvent (draft : EventDraft) (createdAt : Str) : Operation Event := do
  let eventId ← createEventId draft.eventType draft.runId draft.stepId
  let event ← Comp.lift (eventSchema.parse (draft.document eventId createdAt))
  onStore (·.appendEvent (eventSchema.write event))

/-- A change of the store, then the event that records what was stored. -/
def recorded {α : Type} (change : Operation α) (draft : α → EventDraft) (readings : Readings) :
    Operation α := do
  let stored ← change
  let _ ← appendEvent (draft stored) readings.event
  return stored

def runEvent (eventType : String) (payload : Record) (run : Run) : EventDraft :=
  ⟨eventType, run.runId, run.taskId, payload, none⟩

/-- `appendStepEvent`. -/
def stepEvent (eventType : String) (payload : Record) (step : Step) : EventDraft :=
  ⟨eventType, step.runId, step.taskId, spread payload
    [(js "stepId", .str step.stepId), (js "stepKind", .str step.kind.text)], step.stepId⟩

/-! ## Checks -/

def RunStatus.terminal : RunStatus → Bool
  | .succeeded | .failed | .cancelled => true
  | _ => false

def StepStatus.terminal : StepStatus → Bool
  | .succeeded | .failed | .cancelled | .skipped => true
  | _ => false

def requireRun (runId : Str) : Operation Run := fun desk =>
  match desk.store.getRun runId with
  | none => (fail (js "run_not_found:" ++ runId), desk)
  | some run => (.ok run, desk)

def requireStep (stepId : Str) : Operation Step := fun desk =>
  match desk.store.getStep stepId with
  | none => (fail (js "step_not_found:" ++ stepId), desk)
  | some step => (.ok step, desk)

def runTransitionAllowed : RunStatus → RunStatus → Bool
  | .queued, .running | .queued, .cancelled | .blocked, .running | .running, .succeeded
  | .running, .failed | .running, .cancelled => true
  | _, _ => false

def assertRunTransition (run : Run) (nextStatus : RunStatus) : Operation Unit :=
  Comp.lift <|
    if RunStatus.terminal run.status then fail (js "run_terminal:" ++ run.status.text)
    else if runTransitionAllowed run.status nextStatus then .ok ()
    else fail (js "invalid_run_transition:" ++ run.status.text ++ js "->" ++ nextStatus.text)

def stepTransitionAllowed : StepStatus → StepStatus → Bool
  | .pending, .running | .pending, .cancelled | .running, .succeeded | .running, .failed
  | .running, .cancelled => true
  | _, _ => false

def assertStepTransition (step : Step) (nextStatus : StepStatus) : Operation Unit :=
  Comp.lift <|
    if StepStatus.terminal step.status then fail (js "step_terminal:" ++ step.status.text)
    else if stepTransitionAllowed step.status nextStatus then .ok ()
    else fail (js "invalid_step_transition:" ++ step.status.text ++ js "->" ++ nextStatus.text)

def assertDependency (step : Step) (dependencyStepId : Str) : Operation Unit := do
  let dependency ← requireStep dependencyStepId
  Comp.lift <|
    if dependency.runId ≠ step.runId then
      fail (js "step_dependency_run_mismatch:" ++ dependency.stepId ++ js ":" ++ dependency.runId
        ++ js ":" ++ step.runId)
    else if dependency.status ≠ .succeeded then
      fail (js "step_dependency_not_succeeded:" ++ dependency.stepId ++ js ":"
        ++ dependency.status.text)
    else .ok ()

/-- The loop of `assertStepDependenciesSucceeded` over `step.dependsOn`. -/
def assertStepDependenciesSucceeded (step : Step) : List Str → Operation Unit
  | [] => return ()
  | dependencyStepId :: dependsOn => do
    assertDependency step dependencyStepId
    assertStepDependenciesSucceeded step dependsOn

def assertStepParentRunRunning (step : Step) : Operation Unit := do
  let run ← requireRun step.runId
  Comp.lift <|
    if RunStatus.terminal run.status then fail (js "run_terminal:" ++ run.status.text)
    else if run.status ≠ .running then fail (js "run_not_running:" ++ run.status.text)
    else .ok ()

/-! ## Operations on runs -/

structure CreateRunOptions where
  runId : Option Str
  policyDecisionId : Option Str
  metadata : Option (Option Record)

/-- `{ ...(metadata ?? {}), legacy: { ...(metadata?.legacy ?? {}), ...legacyPatch } }`. -/
def mergeRunMetadata (metadata : Option (Option Record)) (legacyPatch : Record) : Json :=
  .obj [(js "legacy", .obj (spread (metadata.join.getD []) legacyPatch))]

/-- A string, an error with name and message, or a record. -/
inductive FailRunError where
  | text (message : Str)
  | error (name message : Str)
  | record (members : Record)

def normalizeFailure : FailRunError → Record
  | .text message => [(js "message", .str message)]
  | .error name message => [(js "name", .str name), (js "message", .str message)]
  | .record members => members

/-- What `createRunFromTask` parses. -/
def runDocument (runId taskId principalId : Str) (options : CreateRunOptions) (createdAt : Str) :
    Json :=
  .obj ([(js "schemaVersion", .str "kernel-run.v1"), (js "runId", .str runId),
    (js "taskId", .str taskId), (js "status", .str RunStatus.queued.text)]
    ++ Json.member? "policyDecisionId" ((options.policyDecisionId.filter (· ≠ [])).map .str)
    ++ [(js "metadata", mergeRunMetadata options.metadata
        [(js "createdByPrincipalId", .str principalId)]),
      (js "createdAt", .str createdAt), (js "updatedAt", .str createdAt)])

def newRun (taskId principalId : Str) (options : CreateRunOptions) (createdAt : Str) :
    Operation Run := do
  let runId ← match options.runId with
    | some runId => pure runId
    | none => createRunId taskId
  let run ← Comp.lift (runSchema.parse (runDocument runId taskId principalId options createdAt))
  onStore (·.createRun (runSchema.write run))

def createRunFromTask (taskId principalId : Str) (options : CreateRunOptions)
    (readings : Readings) : Operation Run :=
  recorded (newRun taskId principalId options readings.change)
    (runEvent "kernel.run.created" [(js "principalId", .str principalId)]) readings

/-- The patch of an operation that moves a run to `status`. -/
def changeRun (runId : Str) (status : RunStatus) (more : Run → Record) (timestamp : Str) :
    Operation Run := do
  let run ← requireRun runId
  assertRunTransition run status
  onStore (·.updateRun runId (.obj
    ([(js "status", .str status.text), (js "updatedAt", .str timestamp)] ++ more run)))

/-- The end of a run, with what its metadata keep of it. -/
def ended (legacyPatch : Record) (timestamp : Str) (run : Run) : Record :=
  [(js "completedAt", .str timestamp), (js "metadata", mergeRunMetadata run.metadata legacyPatch)]

def startRun (runId : Str) (readings : Readings) : Operation Run :=
  recorded (changeRun runId .running (fun _ => []) readings.change)
    (runEvent "kernel.run.started" []) readings

def completeRun (runId : Str) (result : Record) (readings : Readings) : Operation Run :=
  recorded
    (changeRun runId .succeeded (ended [(js "result", .obj result)] readings.change)
      readings.change)
    (runEvent "kernel.run.completed" [(js "result", .obj result)]) readings

def failRun (runId : Str) (error : FailRunError) (readings : Readings) : Operation Run :=
  recorded
    (changeRun runId .failed (ended [(js "error", .obj (normalizeFailure error))] readings.change)
      readings.change)
    (runEvent "kernel.run.failed" [(js "error", .obj (normalizeFailure error))]) readings

def cancelRun (runId reason : Str) (readings : Readings) : Operation Run :=
  recorded
    (changeRun runId .cancelled (ended [(js "cancelReason", .str reason)] readings.change)
      readings.change)
    (runEvent "kernel.run.cancelled" [(js "reason", .str reason)]) readings

/-! ## Operations on steps -/

structure CreateStepInput where
  stepId : Option Str
  kind : StepKind
  input : Option Record
  dependsOn : Option (List Str)

/-- What `createStep` parses. -/
def stepDocument (stepId runId taskId : Str) (input : CreateStepInput) (createdAt : Str) : Json :=
  .obj [(js "schemaVersion", .str "kernel-step.v1"), (js "stepId", .str stepId),
    (js "runId", .str runId), (js "taskId", .str taskId),
    (js "kind", .str input.kind.text), (js "status", .str StepStatus.pending.text),
    (js "dependsOn", strings (input.dependsOn.getD [])),
    (js "createdAt", .str createdAt), (js "updatedAt", .str createdAt),
    (js "input", .obj (input.input.getD []))]

/-- The step that is stored, with the run of its event. -/
def newStep (runId : Str) (input : CreateStepInput) (createdAt : Str) : Operation (Step × Run) := do
  let run ← requireRun runId
  Comp.lift (if RunStatus.terminal run.status then
    fail (js "run_terminal:" ++ run.status.text) else .ok ())
  let stepId ← match input.stepId with
    | some stepId => pure stepId
    | none => createStepId runId
  let step ← Comp.lift (stepSchema.parse (stepDocument stepId runId run.taskId input createdAt))
  let stored ← onStore (·.createStep (stepSchema.write step))
  return (stored, run)

def createStep (runId : Str) (input : CreateStepInput) (readings : Readings) :
    Operation (Step × Run) :=
  recorded (newStep runId input readings.change)
    (fun (stored, run) => runEvent "kernel.step.created"
      [(js "stepId", .str stored.stepId), (js "stepKind", .str stored.kind.text)] run) readings

/-- The patch of an operation that moves a step to `status`. -/
def changeStep (stepId : Str) (status : StepStatus) (check : Step → Operation Unit)
    (output : Option Record) (timestamp : Str) : Operation Step := do
  let step ← requireStep stepId
  assertStepParentRunRunning step
  assertStepTransition step status
  check step
  onStore (·.updateStep stepId (.obj
    ([(js "status", .str status.text), (js "updatedAt", .str timestamp)]
      ++ Json.member? "output" (output.map .obj))))

def startStep (stepId : Str) (readings : Readings) : Operation Step :=
  recorded
    (changeStep stepId .running (fun step => assertStepDependenciesSucceeded step step.dependsOn)
      none readings.change)
    (stepEvent "kernel.step.started" []) readings

def completeStep (stepId : Str) (output : Record) (readings : Readings) : Operation Step :=
  recorded (changeStep stepId .succeeded (fun _ => pure ()) output readings.change)
    (stepEvent "kernel.step.completed" [(js "output", .obj output)]) readings

def failStep (stepId : Str) (error : FailRunError) (readings : Readings) : Operation Step :=
  recorded
    (changeStep stepId .failed (fun _ => pure ())
      (some [(js "error", .obj (normalizeFailure error))]) readings.change)
    (stepEvent "kernel.step.failed" [(js "error", .obj (normalizeFailure error))]) readings

def cancelStep (stepId reason : Str) (readings : Readings) : Operation Step :=
  recorded
    (changeStep stepId .cancelled (fun _ => pure ()) (some [(js "cancelReason", .str reason)])
      readings.change)
    (stepEvent "kernel.step.cancelled" [(js "reason", .str reason)]) readings

/-! ## Managers over one store -/

inductive ManagerCall where
  | createRunFromTask (taskId principalId : Str) (options : CreateRunOptions)
  | startRun (runId : Str)
  | completeRun (runId : Str) (result : Record)
  | failRun (runId : Str) (error : FailRunError)
  | cancelRun (runId reason : Str)
  | createStep (runId : Str) (input : CreateStepInput)
  | startStep (stepId : Str)
  | completeStep (stepId : Str) (output : Record)
  | failStep (stepId : Str) (error : FailRunError)
  | cancelStep (stepId reason : Str)

/-- What an operation returns. -/
inductive Stored where
  | run (run : Run)
  | step (step : Step)
  deriving DecidableEq

def Stored.runId : Stored → Str
  | run r => r.runId
  | step s => s.runId

def Stored.taskId : Stored → Str
  | run r => r.taskId
  | step s => s.taskId

def perform (readings : Readings) : ManagerCall → Operation Stored
  | .createRunFromTask taskId principalId options =>
    .run <$> createRunFromTask taskId principalId options readings
  | .startRun runId => .run <$> startRun runId readings
  | .completeRun runId result => .run <$> completeRun runId result readings
  | .failRun runId error => .run <$> failRun runId error readings
  | .cancelRun runId reason => .run <$> cancelRun runId reason readings
  | .createStep runId input => (fun (step, _) => .step step) <$> createStep runId input readings
  | .startStep stepId => .step <$> startStep stepId readings
  | .completeStep stepId output => .step <$> completeStep stepId output readings
  | .failStep stepId error => .step <$> failStep stepId error readings
  | .cancelStep stepId reason => .step <$> cancelStep stepId reason readings

/-- A store with the counters of every manager over it. -/
structure Managers (ι : Type) where
  store : InMemoryKernelStore
  counters : ι → Counters

namespace Managers

variable {ι : Type} [DecidableEq ι]

/-- New managers over a store that may hold anything. -/
def fresh (store : InMemoryKernelStore) : Managers ι := ⟨store, fun _ => .zero⟩

def desk (managers : Managers ι) (i : ι) : Desk := ⟨managers.store, managers.counters i⟩

/-- A call of the manager `i`. -/
def call (managers : Managers ι) (c : ι × ManagerCall × Readings) :
    Result Stored × Managers ι :=
  let (result, desk) := perform c.2.2 c.2.1 (managers.desk c.1)
  (result, ⟨desk.store, Function.update managers.counters c.1 desk.counters⟩)

end Managers

end CodexRouter.RunManager
