import CodexRouter.Kernel.Records
import CodexRouter.Store.Collection

/-!
# Kernel stores

`InMemoryKernelStore` keeps five `Map`s, `FileSystemKernelStore` one JSON document that every
call parses and every change replaces. The document is the JSON value that the file's text
denotes; records are values, so clones are the records themselves.
-/

open Js CodexRouter.Kernel

namespace CodexRouter.Store

/-! ## Filters -/

structure KernelTaskFilter where
  taskId : Option Str
  source : Option TaskSource
  createdByPrincipalId : Option Str

structure KernelRunFilter where
  taskId : Option Str
  runId : Option Str
  status : Option RunStatus

structure KernelStepFilter where
  taskId : Option Str
  runId : Option Str
  status : Option StepStatus
  type : Option StepKind

structure KernelEventFilter where
  taskId : Option Str
  runId : Option Str
  type : Option Str

structure KernelArtifactFilter where
  taskId : Option Str
  runId : Option Str
  type : Option ArtifactKind

def matchesOptional {α : Type} [DecidableEq α] (expected actual : Option α) : Bool :=
  expected = none || actual = expected

def matchesTask (task : Task) (filter : KernelTaskFilter) : Bool :=
  matchesOptional filter.taskId task.taskId
    && matchesOptional filter.source task.source
    && matchesOptional filter.createdByPrincipalId (task.createdBy.map (·.principalId))

def matchesRun (run : Run) (filter : KernelRunFilter) : Bool :=
  matchesOptional filter.taskId run.taskId
    && matchesOptional filter.runId run.runId
    && matchesOptional filter.status run.status

def matchesStep (step : Step) (filter : KernelStepFilter) : Bool :=
  matchesOptional filter.taskId step.taskId
    && matchesOptional filter.runId step.runId
    && matchesOptional filter.status step.status
    && matchesOptional filter.type step.kind

def matchesEvent (event : Event) (filter : KernelEventFilter) : Bool :=
  matchesOptional filter.taskId event.taskId
    && matchesOptional filter.runId event.runId
    && matchesOptional filter.type event.eventType

def matchesArtifact (artifact : Artifact) (filter : KernelArtifactFilter) : Bool :=
  matchesOptional filter.taskId artifact.taskId
    && matchesOptional filter.runId artifact.runId
    && matchesOptional filter.type artifact.kind

/-- The steps of one run that match. -/
def stepsOfRun (steps : List Step) (runId : Str) (filter : KernelStepFilter) : List Step :=
  (steps.filter fun step => step.runId = runId).filter fun step =>
    matchesStep step { filter with runId := runId }

/-! ## Calls -/

inductive StoreCall where
  | createTask (task : Json)
  | getTask (taskId : Str)
  | listTasks (filter : KernelTaskFilter)
  | createRun (run : Json)
  | getRun (runId : Str)
  | updateRun (runId : Str) (patch : Json)
  | listRuns (filter : KernelRunFilter)
  | createStep (step : Json)
  | getStep (stepId : Str)
  | updateStep (stepId : Str) (patch : Json)
  | listSteps (runId : Str) (filter : KernelStepFilter)
  | appendEvent (event : Json)
  | listEvents (filter : KernelEventFilter)
  | createArtifact (artifact : Json)
  | getArtifact (artifactId : Str)
  | listArtifacts (filter : KernelArtifactFilter)

inductive StoreAnswer where
  | task (task : Option Task)
  | tasks (tasks : List Task)
  | run (run : Option Run)
  | runs (runs : List Run)
  | step (step : Option Step)
  | steps (steps : List Step)
  | event (event : Event)
  | events (events : List Event)
  | artifact (artifact : Option Artifact)
  | artifacts (artifacts : List Artifact)
  deriving DecidableEq

/-! ## In memory -/

/-- `events` is the array of that name with the set `eventIds`. -/
structure InMemoryKernelStore where
  tasks : Collection taskSchema Task.taskId
  runs : Collection runSchema Run.runId
  steps : Collection stepSchema Step.stepId
  events : Collection eventSchema Event.eventId
  artifacts : Collection artifactSchema Artifact.artifactId

namespace InMemoryKernelStore

def empty : InMemoryKernelStore := ⟨.empty, .empty, .empty, .empty, .empty⟩

variable (store : InMemoryKernelStore)

def createTask (task : Json) : Result (Task × InMemoryKernelStore) := do
  let (task, tasks) ← store.tasks.create "task" task
  return (task, { store with tasks })

def createRun (run : Json) : Result (Run × InMemoryKernelStore) := do
  let (run, runs) ← store.runs.create "run" run
  return (run, { store with runs })

def updateRun (runId : Str) (patch : Json) : Result (Run × InMemoryKernelStore) := do
  let (run, runs) ← store.runs.update "run" "runId" runId patch
  return (run, { store with runs })

def createStep (step : Json) : Result (Step × InMemoryKernelStore) := do
  let (step, steps) ← store.steps.create "step" step
  return (step, { store with steps })

def updateStep (stepId : Str) (patch : Json) : Result (Step × InMemoryKernelStore) := do
  let (step, steps) ← store.steps.update "step" "stepId" stepId patch
  return (step, { store with steps })

def appendEvent (event : Json) : Result (Event × InMemoryKernelStore) := do
  let (event, events) ← store.events.create "event" event
  return (event, { store with events })

def createArtifact (artifact : Json) : Result (Artifact × InMemoryKernelStore) := do
  let (artifact, artifacts) ← store.artifacts.create "artifact" artifact
  return (artifact, { store with artifacts })

def getTask (taskId : Str) : Option Task := store.tasks.get? taskId

def getRun (runId : Str) : Option Run := store.runs.get? runId

def getStep (stepId : Str) : Option Step := store.steps.get? stepId

def getArtifact (artifactId : Str) : Option Artifact := store.artifacts.get? artifactId

def listTasks (filter : KernelTaskFilter) : List Task :=
  store.tasks.table.rows.filter (matchesTask · filter)

def listRuns (filter : KernelRunFilter) : List Run :=
  store.runs.table.rows.filter (matchesRun · filter)

def listSteps (runId : Str) (filter : KernelStepFilter) : List Step :=
  stepsOfRun store.steps.table.rows runId filter

def listEvents (filter : KernelEventFilter) : List Event :=
  store.events.table.rows.filter (matchesEvent · filter)

def listArtifacts (filter : KernelArtifactFilter) : List Artifact :=
  store.artifacts.table.rows.filter (matchesArtifact · filter)

/-- A call that changes the store, or throws and leaves it. -/
def changed {α : Type} (answer : α → StoreAnswer) (result : Result (α × InMemoryKernelStore)) :
    Result StoreAnswer × InMemoryKernelStore :=
  match result with
  | .ok (a, store') => (.ok (answer a), store')
  | .error e => (.error e, store)

def call : StoreCall → Result StoreAnswer × InMemoryKernelStore
  | .createTask task => store.changed (.task ∘ some) (store.createTask task)
  | .getTask taskId => (.ok (.task (store.getTask taskId)), store)
  | .listTasks filter => (.ok (.tasks (store.listTasks filter)), store)
  | .createRun run => store.changed (.run ∘ some) (store.createRun run)
  | .getRun runId => (.ok (.run (store.getRun runId)), store)
  | .updateRun runId patch => store.changed (.run ∘ some) (store.updateRun runId patch)
  | .listRuns filter => (.ok (.runs (store.listRuns filter)), store)
  | .createStep step => store.changed (.step ∘ some) (store.createStep step)
  | .getStep stepId => (.ok (.step (store.getStep stepId)), store)
  | .updateStep stepId patch => store.changed (.step ∘ some) (store.updateStep stepId patch)
  | .listSteps runId filter => (.ok (.steps (store.listSteps runId filter)), store)
  | .appendEvent event => store.changed .event (store.appendEvent event)
  | .listEvents filter => (.ok (.events (store.listEvents filter)), store)
  | .createArtifact artifact => store.changed (.artifact ∘ some) (store.createArtifact artifact)
  | .getArtifact artifactId => (.ok (.artifact (store.getArtifact artifactId)), store)
  | .listArtifacts filter => (.ok (.artifacts (store.listArtifacts filter)), store)

end InMemoryKernelStore

/-! ## In a file -/

/-- What `FileSystemKernelStoreStateSchema` parses. -/
structure FileSystemKernelStoreState where
  tasks : List Task
  runs : List Run
  steps : List Step
  events : List Event
  artifacts : List Artifact
  deriving DecidableEq

def duplicateIssues (path kind : String) (ids : List Str) : List Issue :=
  (findDuplicates ids).map fun id =>
    ([js path], js "duplicate_" ++ js kind ++ js "_id:" ++ id)

def FileSystemKernelStoreState.duplicates (state : FileSystemKernelStoreState) : List Issue :=
  duplicateIssues "tasks" "task" (state.tasks.map Task.taskId)
    ++ duplicateIssues "runs" "run" (state.runs.map Run.runId)
    ++ duplicateIssues "steps" "step" (state.steps.map Step.stepId)
    ++ duplicateIssues "events" "event" (state.events.map Event.eventId)
    ++ duplicateIssues "artifacts" "artifact" (state.artifacts.map Artifact.artifactId)

def kernelStoreStateFields : Fields FileSystemKernelStoreState :=
  (Fields.cons (js "schemaVersion") (.required (.literal "kernel-store-state.v1")) <|
    .cons (js "tasks") (.default (.array taskSchema) [] rfl) <|
    .cons (js "runs") (.required (.array runSchema)) <|
    .cons (js "steps") (.required (.array stepSchema)) <|
    .cons (js "events") (.required (.array eventSchema)) <|
    .cons (js "artifacts") (.required (.array artifactSchema)) .nil).via
    { toFun := fun (_, tasks, runs, steps, events, artifacts, ()) =>
        ⟨tasks, runs, steps, events, artifacts⟩
      invFun := fun state =>
        ((), state.tasks, state.runs, state.steps, state.events, state.artifacts, ())
      left_inv := fun _ => rfl
      right_inv := fun _ => rfl }

/-- `FileSystemKernelStoreStateSchema`. -/
def kernelStoreStateSchema : Schema FileSystemKernelStoreState :=
  (Schema.object kernelStoreStateFields (by decide)).refine (·.duplicates)

/-- The document in the file; `none` before the first write. -/
abbrev FileSystemKernelStore := Option Json

namespace FileSystemKernelStore

variable (file : FileSystemKernelStore)

def readState : Result FileSystemKernelStoreState :=
  match file with
  | none => .ok ⟨[], [], [], [], []⟩
  | some document => kernelStoreStateSchema.parse document

def writeState (state : FileSystemKernelStoreState) : Result Json :=
  kernelStoreStateSchema.write <$> kernelStoreStateSchema.parse (kernelStoreStateSchema.write state)

/-- Nothing is written when the mutation throws. -/
def withStateMutation {α : Type} (answer : α → StoreAnswer)
    (mutate : FileSystemKernelStoreState → Result (α × FileSystemKernelStoreState)) :
    Result StoreAnswer × FileSystemKernelStore :=
  match readState file with
  | .error e => (.error e, file)
  | .ok state =>
    match mutate state with
    | .error e => (.error e, file)
    | .ok (result, state) =>
      match writeState state with
      | .error e => (.error e, file)
      | .ok document => (.ok (answer result), some document)

/-- A call that only reads. -/
def reading (answer : FileSystemKernelStoreState → StoreAnswer) :
    Result StoreAnswer × FileSystemKernelStore :=
  (answer <$> readState file, file)

variable (state : FileSystemKernelStoreState)

def createTask (task : Json) : Result (Task × FileSystemKernelStoreState) := do
  let (task, tasks) ← createIn taskSchema Task.taskId "task" state.tasks task
  return (task, { state with tasks })

def createRun (run : Json) : Result (Run × FileSystemKernelStoreState) := do
  let (run, runs) ← createIn runSchema Run.runId "run" state.runs run
  return (run, { state with runs })

def updateRun (runId : Str) (patch : Json) : Result (Run × FileSystemKernelStoreState) := do
  let (run, runs) ← updateIn runSchema Run.runId "run" "runId" state.runs runId patch
  return (run, { state with runs })

def createStep (step : Json) : Result (Step × FileSystemKernelStoreState) := do
  let (step, steps) ← createIn stepSchema Step.stepId "step" state.steps step
  return (step, { state with steps })

def updateStep (stepId : Str) (patch : Json) : Result (Step × FileSystemKernelStoreState) := do
  let (step, steps) ← updateIn stepSchema Step.stepId "step" "stepId" state.steps stepId patch
  return (step, { state with steps })

def appendEvent (event : Json) : Result (Event × FileSystemKernelStoreState) := do
  let (event, events) ← createIn eventSchema Event.eventId "event" state.events event
  return (event, { state with events })

def createArtifact (artifact : Json) : Result (Artifact × FileSystemKernelStoreState) := do
  let (artifact, artifacts) ←
    createIn artifactSchema Artifact.artifactId "artifact" state.artifacts artifact
  return (artifact, { state with artifacts })

def call : StoreCall → Result StoreAnswer × FileSystemKernelStore
  | .createTask task => withStateMutation file (.task ∘ some) (createTask · task)
  | .getTask taskId => reading file fun state => .task (findRow Task.taskId taskId state.tasks)
  | .listTasks filter => reading file fun state => .tasks (state.tasks.filter (matchesTask · filter))
  | .createRun run => withStateMutation file (.run ∘ some) (createRun · run)
  | .getRun runId => reading file fun state => .run (findRow Run.runId runId state.runs)
  | .updateRun runId patch => withStateMutation file (.run ∘ some) (updateRun · runId patch)
  | .listRuns filter => reading file fun state => .runs (state.runs.filter (matchesRun · filter))
  | .createStep step => withStateMutation file (.step ∘ some) (createStep · step)
  | .getStep stepId => reading file fun state => .step (findRow Step.stepId stepId state.steps)
  | .updateStep stepId patch => withStateMutation file (.step ∘ some) (updateStep · stepId patch)
  | .listSteps runId filter => reading file fun state =>
    .steps (stepsOfRun state.steps runId filter)
  | .appendEvent event => withStateMutation file .event (appendEvent · event)
  | .listEvents filter => reading file fun state =>
    .events (state.events.filter (matchesEvent · filter))
  | .createArtifact artifact =>
    withStateMutation file (.artifact ∘ some) (createArtifact · artifact)
  | .getArtifact artifactId => reading file fun state =>
    .artifact (findRow Artifact.artifactId artifactId state.artifacts)
  | .listArtifacts filter => reading file fun state =>
    .artifacts (state.artifacts.filter (matchesArtifact · filter))

end FileSystemKernelStore

end CodexRouter.Store
