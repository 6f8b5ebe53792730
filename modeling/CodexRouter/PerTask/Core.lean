import CodexRouter.Js.Keyed
import CodexRouter.Js.Map
import CodexRouter.Kernel.Records

/-!
# Stores of one file for each task

The checkpoint ledger, the execution observations and the delegation histories, each in memory and
in a directory. The name of a task's file keeps the ASCII letters and digits of its id, `_` and `-`.
-/

open Js CodexRouter.Kernel

namespace CodexRouter.PerTask

/-! ## Records -/

structure ReversibleActionRef where
  actionId : Str
  kind : Str
  description : Str
  deriving DecidableEq

/-- `requiresHumanReview` is the literal `true`. -/
structure IrreversibleActionRef where
  actionId : Str
  kind : Str
  description : Str
  deriving DecidableEq

structure CheckpointLedgerEntry where
  checkpointId : Str
  taskId : Str
  parentCheckpointId : Option Str
  branchId : Str
  stage : Str
  governanceStateRef : Str
  taskGraphDeltaRef : Option Str
  memorySnapshotRef : Option Str
  evidenceRefs : List Str
  reversibleActions : List ReversibleActionRef
  irreversibleActions : List IrreversibleActionRef
  createdAt : Str
  deriving DecidableEq

inductive ExecutionObservationStatus where
  | started | succeeded | failed | degraded | blocked
  deriving DecidableEq

def ExecutionObservationStatus.text : ExecutionObservationStatus → Str
  | started => js "started"
  | succeeded => js "succeeded"
  | failed => js "failed"
  | degraded => js "degraded"
  | blocked => js "blocked"

structure ExecutionObservationSignals where
  errorClass : Option Str
  contextConflict : Option Bool
  permissionBlocked : Option Bool
  outputDrift : Option Bool
  latencyPressure : Option Js.Num
  deriving DecidableEq

structure ExecutionObservation where
  observationId : Str
  taskId : Str
  primitiveId : Str
  stage : Str
  status : ExecutionObservationStatus
  signals : ExecutionObservationSignals
  evidenceRef : Option Str
  createdAt : Str
  deriving DecidableEq

structure DelegationHistory where
  taskId : Str
  operationClass : Str
  resumeCount : Js.Num
  approvalCount : Js.Num
  rejectionCount : Js.Num
  lastResumeAt : Option Str
  firstCreatedAt : Str
  deriving DecidableEq

/-! ## Schemas -/

/-- `z.literal(true)`. -/
def literalTrue : Schema Unit where
  read j :=
    if j = .bool true then .ok () else .error (issue [] "Invalid literal value, expected true")
  write _ := .bool true
  stable _ := if_pos rfl

/-- `ReversibleActionRefSchema`. -/
def reversibleActionRefSchema : Schema ReversibleActionRef :=
  .object
    ((Fields.cons (js "actionId") (.required .nonEmptyString) <|
      .cons (js "kind") (.required .nonEmptyString) <|
      .cons (js "description") (.required .nonEmptyString) .nil).via
      { toFun := fun (actionId, kind, description, ()) => ⟨actionId, kind, description⟩
        invFun := fun ref => (ref.actionId, ref.kind, ref.description, ())
        left_inv := fun _ => rfl
        right_inv := fun _ => rfl })
    (by decide)

/-- `IrreversibleActionRefSchema`. -/
def irreversibleActionRefSchema : Schema IrreversibleActionRef :=
  .object
    ((Fields.cons (js "actionId") (.required .nonEmptyString) <|
      .cons (js "kind") (.required .nonEmptyString) <|
      .cons (js "description") (.required .nonEmptyString) <|
      .cons (js "requiresHumanReview") (.required literalTrue) .nil).via
      { toFun := fun (actionId, kind, description, _) => ⟨actionId, kind, description⟩
        invFun := fun ref => (ref.actionId, ref.kind, ref.description, (), ())
        left_inv := fun _ => rfl
        right_inv := fun _ => rfl })
    (by decide)

/-- `CheckpointLedgerEntrySchema`. -/
def checkpointLedgerEntrySchema : Schema CheckpointLedgerEntry :=
  .object
    ((Fields.cons (js "schemaVersion") (versionSlot "checkpoint-ledger-entry.v1") <|
      .cons (js "checkpointId") (.required .nonEmptyString) <|
      .cons (js "taskId") (.required .nonEmptyString) <|
      .cons (js "parentCheckpointId") (.optional .nonEmptyString) <|
      .cons (js "branchId") (.required .nonEmptyString) <|
      .cons (js "stage") (.required .nonEmptyString) <|
      .cons (js "governanceStateRef") (.required .nonEmptyString) <|
      .cons (js "taskGraphDeltaRef") (.optional .nonEmptyString) <|
      .cons (js "memorySnapshotRef") (.optional .nonEmptyString) <|
      .cons (js "evidenceRefs") stringsSlot <|
      .cons (js "reversibleActions") (arraySlot reversibleActionRefSchema) <|
      .cons (js "irreversibleActions") (arraySlot irreversibleActionRefSchema) <|
      .cons (js "createdAt") (.required .nonEmptyString) .nil).via
      { toFun := fun (_, checkpointId, taskId, parentCheckpointId, branchId, stage,
          governanceStateRef, taskGraphDeltaRef, memorySnapshotRef, evidenceRefs,
          reversibleActions, irreversibleActions, createdAt, ()) =>
          { checkpointId, taskId, parentCheckpointId, branchId, stage, governanceStateRef,
            taskGraphDeltaRef, memorySnapshotRef, evidenceRefs, reversibleActions,
            irreversibleActions, createdAt }
        invFun := fun entry => ((), entry.checkpointId, entry.taskId, entry.parentCheckpointId,
          entry.branchId, entry.stage, entry.governanceStateRef, entry.taskGraphDeltaRef,
          entry.memorySnapshotRef, entry.evidenceRefs, entry.reversibleActions,
          entry.irreversibleActions, entry.createdAt, ())
        left_inv := fun _ => rfl
        right_inv := fun _ => rfl })
    (by decide)

def executionObservationStatusSchema : Schema ExecutionObservationStatus :=
  .enum [.started, .succeeded, .failed, .degraded, .blocked] ExecutionObservationStatus.text
    (by intro a; cases a <;> decide)

/-- A number that is not negative is at most one when its text is `0`, `1`, a fraction of `0`, or has
a negative exponent. -/
def unitInterval (n : Js.Num) : List Issue :=
  require (n.1.head? ≠ some (cu '-')) [] "Number must be greater than or equal to 0"
    ++ require (n.1 = js "0" || n.1 = js "1" || startsWith n.1 "0." || includes n.1 "e-") []
      "Number must be less than or equal to 1"

/-- `ExecutionObservationSignalsSchema`. -/
def executionObservationSignalsSchema : Schema ExecutionObservationSignals :=
  .object
    ((Fields.cons (js "errorClass") (.optional .nonEmptyString) <|
      .cons (js "contextConflict") (.optional .boolean) <|
      .cons (js "permissionBlocked") (.optional .boolean) <|
      .cons (js "outputDrift") (.optional .boolean) <|
      .cons (js "latencyPressure") (.optional (Schema.number.refine unitInterval)) .nil).via
      { toFun := fun (errorClass, contextConflict, permissionBlocked, outputDrift,
          latencyPressure, ()) =>
          ⟨errorClass, contextConflict, permissionBlocked, outputDrift, latencyPressure⟩
        invFun := fun signals => (signals.errorClass, signals.contextConflict,
          signals.permissionBlocked, signals.outputDrift, signals.latencyPressure, ())
        left_inv := fun _ => rfl
        right_inv := fun _ => rfl })
    (by decide)

/-- `ExecutionObservationSignalsSchema.default({})`. -/
def signalsSlot : Slot ExecutionObservationSignals :=
  .default executionObservationSignalsSchema ⟨none, none, none, none, none⟩ rfl

/-- `ExecutionObservationSchema`. -/
def executionObservationSchema : Schema ExecutionObservation :=
  .object
    ((Fields.cons (js "schemaVersion") (versionSlot "execution-observation.v1") <|
      .cons (js "observationId") (.required .nonEmptyString) <|
      .cons (js "taskId") (.required .nonEmptyString) <|
      .cons (js "primitiveId") (.required .nonEmptyString) <|
      .cons (js "stage") (.required .nonEmptyString) <|
      .cons (js "status") (.required executionObservationStatusSchema) <|
      .cons (js "signals") signalsSlot <|
      .cons (js "evidenceRef") (.optional .nonEmptyString) <|
      .cons (js "createdAt") (.required .nonEmptyString) .nil).via
      { toFun := fun (_, observationId, taskId, primitiveId, stage, status, signals, evidenceRef,
          createdAt, ()) =>
          ⟨observationId, taskId, primitiveId, stage, status, signals, evidenceRef, createdAt⟩
        invFun := fun observation => ((), observation.observationId, observation.taskId,
          observation.primitiveId, observation.stage, observation.status, observation.signals,
          observation.evidenceRef, observation.createdAt, ())
        left_inv := fun _ => rfl
        right_inv := fun _ => rfl })
    (by decide)

/-- `DelegationHistorySchema`. -/
def delegationHistorySchema : Schema DelegationHistory :=
  .object
    ((Fields.cons (js "taskId") (.required .nonEmptyString) <|
      .cons (js "operationClass") (.required .nonEmptyString) <|
      .cons (js "resumeCount") (.required .nonNegativeInt) <|
      .cons (js "approvalCount") (.required .nonNegativeInt) <|
      .cons (js "rejectionCount") (.required .nonNegativeInt) <|
      .cons (js "lastResumeAt") (.optional .nonEmptyString) <|
      .cons (js "firstCreatedAt") (.required .nonEmptyString) .nil).via
      { toFun := fun (taskId, operationClass, resumeCount, approvalCount, rejectionCount,
          lastResumeAt, firstCreatedAt, ()) =>
          ⟨taskId, operationClass, resumeCount, approvalCount, rejectionCount, lastResumeAt,
            firstCreatedAt⟩
        invFun := fun history => (history.taskId, history.operationClass, history.resumeCount,
          history.approvalCount, history.rejectionCount, history.lastResumeAt,
          history.firstCreatedAt, ())
        left_inv := fun _ => rfl
        right_inv := fun _ => rfl })
    (by decide)

/-! ## Files -/

/-- The contents of a directory by file name. -/
abbrev Directory := Map Str Str

def isSafeUnit (c : CodeUnit) : Bool :=
  (0x61 ≤ c.val && c.val ≤ 0x7a) || (0x41 ≤ c.val && c.val ≤ 0x5a) || isDigit c || c = cu '_'
    || c = cu '-'

/-- `taskId.replace(/[^a-zA-Z0-9_-]/g, "_")`. -/
def safeTaskId (taskId : Str) : Str := taskId.map fun c => if isSafeUnit c then c else cu '_'

/-- The name of a task's file in the base directory. -/
def getTaskPath (taskId : Str) : Str := safeTaskId taskId ++ js ".jsonl"

/-- `FileDelegationHistoryStore.getFilePath`. -/
def getFilePath (taskId : Str) : Str := safeTaskId taskId ++ js ".json"

/-- `readFile(path, "utf-8").catch(() => "")`. -/
def readText (directory : Directory) (path : Str) : Str := (directory.get? path).getD []

/-- `writeFile(path, text, { flag: "a" })`. -/
def appendText (directory : Directory) (path text : Str) : Directory :=
  directory.set path (readText directory path ++ text)

/-! ## JSON lines for each task -/

/-- Records with a task. -/
class TaskRecord (α : Type) where
  schema : Schema α
  taskId : α → Str
  taskId_of_read : ∀ {j a}, schema.read j = .ok a →
    ∃ m, j = .obj m ∧ Json.get? m (js "taskId") = some (.str (taskId a))
  keyed : schema.Keyed

section

variable {α : Type} [TaskRecord α]

/-- `input.taskId`, where its `replace` is called. -/
def taskIdOf (input : Json) : Result Str :=
  match input with
  | .obj m =>
    match Json.get? m (js "taskId") with
    | some (.str taskId) => .ok taskId
    | _ => fail "taskId.replace is not a function"
  | _ => fail "taskId.replace is not a function"

/-- The entries in memory. -/
def recordEntry (entries : List α) (input : Json) : Result (List α) := do
  return entries ++ [← TaskRecord.schema.parse input]

def entriesOfTask (entries : List α) (taskId : Str) : List α :=
  entries.filter fun entry => TaskRecord.taskId entry = taskId

/-- One line more in the file of the task. -/
def recordLine (α : Type) [TaskRecord α] (directory : Directory) (input : Json) :
    Result Directory := do
  let taskPath := getTaskPath (← taskIdOf input)
  let entry : α ← TaskRecord.schema.parse input
  let line := Json.stringify (TaskRecord.schema.write entry) ++ [Json.newline]
  return appendText directory taskPath line

/-- A line that is no JSON, or not of the schema, is none. -/
def parseLineSafe (line : Str) : Option α := do
  (TaskRecord.schema.parse (← Json.parse? line)).toOption

def linesOfTask (directory : Directory) (taskId : Str) : List Str :=
  Json.nonEmptyLines (readText directory (getTaskPath taskId))

end

end CodexRouter.PerTask
