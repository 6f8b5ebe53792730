import CodexRouter.Js.Schema
import CodexRouter.Kernel.Governance

/-!
# Records of the kernel

Tasks, runs, steps, artifacts and events with their schemas. A `schemaVersion` is a literal and
appears only in the documents.
-/

open Js

namespace CodexRouter.Kernel

/-- A record of anything, `z.record(z.string(), z.unknown())`. -/
abbrev Record := List (Str × Json)

/-- What a schema copies of a record: not the key `__proto__`. -/
def copied (members : Record) : Record := members.filter fun e => e.1 ≠ js "__proto__"

/-- `schemaVersion: z.literal(version).default(version)`. -/
def versionSlot (version : Str) : Slot Unit := .default (.literal version) () (if_pos rfl)

/-- `z.array(item).default([])`. -/
def arraySlot {α : Type} (item : Schema α) : Slot (List α) := .default item.array [] rfl

/-- `z.array(z.string()).default([])`. -/
def stringsSlot : Slot (List Str) := .default (.array .string) [] rfl

/-- `z.record(z.string(), z.unknown()).default({})`. -/
def recordSlot : Slot Record := .default .record [] rfl

def timestampSchema : Schema Str := .nonEmptyString

inductive PrincipalKind where
  | user | agent | service | system
  deriving DecidableEq

inductive TaskSource where
  | desktopThread | desktopAutomation | cli | api
  deriving DecidableEq

inductive HintField where
  | taskClass | riskHints | tags
  deriving DecidableEq

inductive HintSource where
  | user | agent | system | policy | memory | legacy | unknown
  deriving DecidableEq

inductive RunStatus where
  | queued | running | blocked | succeeded | failed | cancelled
  deriving DecidableEq

inductive StepStatus where
  | pending | running | blocked | succeeded | failed | skipped | cancelled
  deriving DecidableEq

inductive StepKind where
  | tool | executor | approval | checkpoint | system
  deriving DecidableEq

inductive ArtifactKind where
  | file | log | patch | evidence | checkpoint | other
  deriving DecidableEq

def PrincipalKind.text : PrincipalKind → Str
  | user => js "user"
  | agent => js "agent"
  | service => js "service"
  | system => js "system"

def TaskSource.text : TaskSource → Str
  | desktopThread => js "desktop-thread"
  | desktopAutomation => js "desktop-automation"
  | cli => js "cli"
  | api => js "api"

def HintField.text : HintField → Str
  | taskClass => js "taskClass"
  | riskHints => js "riskHints"
  | tags => js "tags"

def HintSource.text : HintSource → Str
  | user => js "user"
  | agent => js "agent"
  | system => js "system"
  | policy => js "policy"
  | memory => js "memory"
  | legacy => js "legacy"
  | unknown => js "unknown"

def RunStatus.text : RunStatus → Str
  | queued => js "queued"
  | running => js "running"
  | blocked => js "blocked"
  | succeeded => js "succeeded"
  | failed => js "failed"
  | cancelled => js "cancelled"

def StepStatus.text : StepStatus → Str
  | pending => js "pending"
  | running => js "running"
  | blocked => js "blocked"
  | succeeded => js "succeeded"
  | failed => js "failed"
  | skipped => js "skipped"
  | cancelled => js "cancelled"

def StepKind.text : StepKind → Str
  | tool => js "tool"
  | executor => js "executor"
  | approval => js "approval"
  | checkpoint => js "checkpoint"
  | system => js "system"

def ArtifactKind.text : ArtifactKind → Str
  | file => js "file"
  | log => js "log"
  | patch => js "patch"
  | evidence => js "evidence"
  | checkpoint => js "checkpoint"
  | other => js "other"

/-- `RunStatusSchema`. -/
def runStatusSchema : Schema RunStatus :=
  .enum [.queued, .running, .blocked, .succeeded, .failed, .cancelled] RunStatus.text
    (by intro a; cases a <;> decide)

/-- `StepStatusSchema`. -/
def stepStatusSchema : Schema StepStatus :=
  .enum [.pending, .running, .blocked, .succeeded, .failed, .skipped, .cancelled] StepStatus.text
    (by intro a; cases a <;> decide)

def stepKindSchema : Schema StepKind :=
  .enum [.tool, .executor, .approval, .checkpoint, .system] StepKind.text
    (by intro a; cases a <;> decide)

lemma read_runStatus (status : RunStatus) :
    runStatusSchema.read (.str status.text) = .ok status := by
  cases status <;> rfl

lemma read_stepStatus (status : StepStatus) :
    stepStatusSchema.read (.str status.text) = .ok status := by
  cases status <;> rfl

lemma read_stepKind (kind : StepKind) : stepKindSchema.read (.str kind.text) = .ok kind := by
  cases kind <;> rfl

/-! ## Tasks -/

structure Principal where
  principalId : Str
  kind : PrincipalKind
  displayName : Option Str
  tenantId : Option Str
  workspaceId : Option Str
  createdAt : Str
  deriving DecidableEq

/-- `PrincipalSchema`. -/
def principalSchema : Schema Principal :=
  .object
    ((Fields.cons (js "schemaVersion") (versionSlot "principal.v1") <|
      .cons (js "principalId") (.required .nonEmptyString) <|
      .cons (js "kind") (.required (.enum [.user, .agent, .service, .system] PrincipalKind.text
        (by intro a; cases a <;> decide))) <|
      .cons (js "displayName") (.optional .nonEmptyString) <|
      .cons (js "tenantId") (.optional .nonEmptyString) <|
      .cons (js "workspaceId") (.optional .nonEmptyString) <|
      .cons (js "createdAt") (.required timestampSchema) .nil).via
      { toFun := fun (_, principalId, kind, displayName, tenantId, workspaceId, createdAt, ()) =>
          ⟨principalId, kind, displayName, tenantId, workspaceId, createdAt⟩
        invFun := fun principal => ((), principal.principalId, principal.kind,
          principal.displayName, principal.tenantId, principal.workspaceId, principal.createdAt, ())
        left_inv := fun _ => rfl
        right_inv := fun _ => rfl })
    (by decide)

structure TaskHintProvenance where
  field : HintField
  value : Str
  source : HintSource
  reason : Option Str
  createdAt : Option Str
  deriving DecidableEq

/-- `TaskHintProvenanceSchema`. -/
def taskHintProvenanceSchema : Schema TaskHintProvenance :=
  .object
    ((Fields.cons (js "field") (.required (.enum [.taskClass, .riskHints, .tags] HintField.text
        (by intro a; cases a <;> decide))) <|
      .cons (js "value") (.required .nonEmptyString) <|
      .cons (js "source") (.default (.enum
        [.user, .agent, .system, .policy, .memory, .legacy, .unknown] HintSource.text
        (by intro a; cases a <;> decide)) .unknown (by rfl)) <|
      .cons (js "reason") (.optional .nonEmptyString) <|
      .cons (js "createdAt") (.optional timestampSchema) .nil).via
      { toFun := fun (field, value, source, reason, createdAt, ()) =>
          ⟨field, value, source, reason, createdAt⟩
        invFun := fun hint =>
          (hint.field, hint.value, hint.source, hint.reason, hint.createdAt, ())
        left_inv := fun _ => rfl
        right_inv := fun _ => rfl })
    (by decide)

structure TaskIntent where
  summary : Str
  requestedAction : Str
  successCriteria : List Str
  outOfScope : List Str
  deriving DecidableEq

def taskIntentSchema : Schema TaskIntent :=
  .object
    ((Fields.cons (js "summary") (.required .nonEmptyString) <|
      .cons (js "requestedAction") (.required .nonEmptyString) <|
      .cons (js "successCriteria") stringsSlot <|
      .cons (js "outOfScope") stringsSlot .nil).via
      { toFun := fun (summary, requestedAction, successCriteria, outOfScope, ()) =>
          ⟨summary, requestedAction, successCriteria, outOfScope⟩
        invFun := fun intent => (intent.summary, intent.requestedAction, intent.successCriteria,
          intent.outOfScope, ())
        left_inv := fun _ => rfl
        right_inv := fun _ => rfl })
    (by decide)

/-- `repo` and `workspace` of a task. -/
structure TaskRepo where
  root : Option Str
  branch : Option Str
  worktreeClean : Option Bool
  protectedBranch : Option Bool
  deriving DecidableEq

def taskRepoSchema : Schema TaskRepo :=
  .object
    ((Fields.cons (js "root") (.optional .nonEmptyString) <|
      .cons (js "branch") (.optional .nonEmptyString) <|
      .cons (js "worktreeClean") (.optional .boolean) <|
      .cons (js "protectedBranch") (.optional .boolean) .nil).via
      { toFun := fun (root, branch, worktreeClean, protectedBranch, ()) =>
          ⟨root, branch, worktreeClean, protectedBranch⟩
        invFun := fun repo =>
          (repo.root, repo.branch, repo.worktreeClean, repo.protectedBranch, ())
        left_inv := fun _ => rfl
        right_inv := fun _ => rfl })
    (by decide)

structure TaskTarget where
  branches : List Str
  files : List Str
  modules : List Str
  deriving DecidableEq

def taskTargetSchema : Schema TaskTarget :=
  .object
    ((Fields.cons (js "branches") stringsSlot <| .cons (js "files") stringsSlot <|
      .cons (js "modules") stringsSlot .nil).via
      { toFun := fun (branches, files, modules, ()) => ⟨branches, files, modules⟩
        invFun := fun target => (target.branches, target.files, target.modules, ())
        left_inv := fun _ => rfl
        right_inv := fun _ => rfl })
    (by decide)

structure TaskHints where
  taskClass : Option Str
  riskHints : List Str
  tags : List Str
  provenance : List TaskHintProvenance
  deriving DecidableEq

def taskHintsSchema : Schema TaskHints :=
  .object
    ((Fields.cons (js "taskClass") (.optional .nonEmptyString) <|
      .cons (js "riskHints") stringsSlot <|
      .cons (js "tags") stringsSlot <|
      .cons (js "provenance") (.default (.array taskHintProvenanceSchema) [] rfl) .nil).via
      { toFun := fun (taskClass, riskHints, tags, provenance, ()) =>
          ⟨taskClass, riskHints, tags, provenance⟩
        invFun := fun hints => (hints.taskClass, hints.riskHints, hints.tags, hints.provenance, ())
        left_inv := fun _ => rfl
        right_inv := fun _ => rfl })
    (by decide)

structure TaskMetadata where
  legacySource : Option Str
  legacyHints : Option Record
  legacy : Option Record
  deriving DecidableEq

def taskMetadataSchema : Schema TaskMetadata :=
  .object
    ((Fields.cons (js "legacySource") (.optional .nonEmptyString) <|
      .cons (js "legacyHints") (.optional .record) <|
      .cons (js "legacy") (.optional .record) .nil).via
      { toFun := fun (legacySource, legacyHints, legacy, ()) => ⟨legacySource, legacyHints, legacy⟩
        invFun := fun metadata =>
          (metadata.legacySource, metadata.legacyHints, metadata.legacy, ())
        left_inv := fun _ => rfl
        right_inv := fun _ => rfl })
    (by decide)

structure Task where
  taskId : Str
  source : TaskSource
  title : Str
  requestedAction : Str
  successCriteria : List Str
  outOfScope : List Str
  intent : Option TaskIntent
  createdBy : Option Principal
  repo : TaskRepo
  workspace : Option TaskRepo
  context : Option Record
  target : TaskTarget
  hints : TaskHints
  constraints : Record
  metadata : Option TaskMetadata
  createdAt : Str
  deriving DecidableEq

lemma find_taskSource (source : TaskSource) :
    [.desktopThread, .desktopAutomation, .cli, .api].find?
      (fun other => TaskSource.text other = TaskSource.text source) = some source := by
  cases source <;> decide

lemma valid_desktopThread :
    (Schema.enum [.desktopThread, .desktopAutomation, .cli, .api] TaskSource.text
      find_taskSource).Valid .desktopThread := by
  rfl

def taskFields : Fields Task :=
  (Fields.cons (js "schemaVersion") (versionSlot "kernel-task.v1") <|
    .cons (js "taskId") (.required .nonEmptyString) <|
    .cons (js "source") (.default (.enum [.desktopThread, .desktopAutomation, .cli, .api]
      TaskSource.text find_taskSource) .desktopThread valid_desktopThread) <|
    .cons (js "title") (.required .nonEmptyString) <|
    .cons (js "requestedAction") (.required .nonEmptyString) <|
    .cons (js "successCriteria") stringsSlot <|
    .cons (js "outOfScope") stringsSlot <|
    .cons (js "intent") (.optional taskIntentSchema) <|
    .cons (js "createdBy") (.optional principalSchema) <|
    .cons (js "repo") (.default taskRepoSchema ⟨none, none, none, none⟩ (by rfl)) <|
    .cons (js "workspace") (.optional taskRepoSchema) <|
    .cons (js "context") (.optional .record) <|
    .cons (js "target") (.default taskTargetSchema ⟨[], [], []⟩ (by rfl)) <|
    .cons (js "hints") (.default taskHintsSchema ⟨none, [], [], []⟩ (by rfl)) <|
    .cons (js "constraints") recordSlot <|
    .cons (js "metadata") (.optional taskMetadataSchema) <|
    .cons (js "createdAt") (.required timestampSchema) .nil).via
    { toFun := fun (_, taskId, source, title, requestedAction, successCriteria, outOfScope, intent,
        createdBy, repo, workspace, context, target, hints, constraints, metadata, createdAt, ()) =>
        ⟨taskId, source, title, requestedAction, successCriteria, outOfScope, intent, createdBy,
          repo, workspace, context, target, hints, constraints, metadata, createdAt⟩
      invFun := fun task => ((), task.taskId, task.source, task.title, task.requestedAction,
        task.successCriteria, task.outOfScope, task.intent, task.createdBy, task.repo,
        task.workspace, task.context, task.target, task.hints, task.constraints, task.metadata,
        task.createdAt, ())
      left_inv := fun _ => rfl
      right_inv := fun _ => rfl }

/-- `TaskSchema`. -/
def taskSchema : Schema Task := .object taskFields (by decide)

/-! ## Runs -/

structure Run where
  runId : Str
  taskId : Str
  status : RunStatus
  policyDecisionId : Option Str
  /-- `metadata`, whose only member is `legacy`. -/
  metadata : Option (Option Record)
  createdAt : Str
  updatedAt : Str
  completedAt : Option Str
  deriving DecidableEq

/-- `z.object({ legacy: z.record(z.string(), z.unknown()).optional() })`. -/
def runMetadataSchema : Schema (Option Record) :=
  .object ((Fields.cons (js "legacy") (.optional .record) .nil).via
    ⟨fun (legacy, ()) => legacy, fun legacy => (legacy, ()), fun _ => rfl, fun _ => rfl⟩)
    (by decide)

def runFields : Fields Run :=
  (Fields.cons (js "schemaVersion") (versionSlot "kernel-run.v1") <|
    .cons (js "runId") (.required .nonEmptyString) <|
    .cons (js "taskId") (.required .nonEmptyString) <|
    .cons (js "status") (.default runStatusSchema .queued (by rfl)) <|
    .cons (js "policyDecisionId") (.optional .nonEmptyString) <|
    .cons (js "metadata") (.optional runMetadataSchema) <|
    .cons (js "createdAt") (.required timestampSchema) <|
    .cons (js "updatedAt") (.required timestampSchema) <|
    .cons (js "completedAt") (.optional timestampSchema) .nil).via
    { toFun := fun (_, runId, taskId, status, policyDecisionId, metadata, createdAt, updatedAt,
        completedAt, ()) =>
        ⟨runId, taskId, status, policyDecisionId, metadata, createdAt, updatedAt, completedAt⟩
      invFun := fun run => ((), run.runId, run.taskId, run.status, run.policyDecisionId,
        run.metadata, run.createdAt, run.updatedAt, run.completedAt, ())
      left_inv := fun _ => rfl
      right_inv := fun _ => rfl }

lemma read_runFields {get : Str → Option Json} {run : Run} :
    runFields.read get = .ok run ↔
      (versionSlot (js "kernel-run.v1")).read (get (js "schemaVersion")) = .ok () ∧
      (get (js "runId") = some (.str run.runId) ∧ run.runId ≠ []) ∧
      (get (js "taskId") = some (.str run.taskId) ∧ run.taskId ≠ []) ∧
      (Slot.default runStatusSchema .queued rfl).read (get (js "status")) = .ok run.status ∧
      (Slot.optional .nonEmptyString).read (get (js "policyDecisionId")) =
        .ok run.policyDecisionId ∧
      (Slot.optional runMetadataSchema).read (get (js "metadata")) = .ok run.metadata ∧
      (get (js "createdAt") = some (.str run.createdAt) ∧ run.createdAt ≠ []) ∧
      (get (js "updatedAt") = some (.str run.updatedAt) ∧ run.updatedAt ≠ []) ∧
      (Slot.optional timestampSchema).read (get (js "completedAt")) = .ok run.completedAt := by
  simp only [runFields, timestampSchema, Fields.read_via, Equiv.coe_fn_symm_mk, Fields.read_cons,
    Fields.read_nil, and_true, Slot.read_required_nonEmptyString]

/-- `RunSchema`. -/
def runSchema : Schema Run := .object runFields (by decide)

/-! ## Steps -/

structure Step where
  stepId : Str
  runId : Str
  taskId : Str
  kind : StepKind
  status : StepStatus
  dependsOn : List Str
  createdAt : Str
  updatedAt : Str
  input : Record
  output : Option Record
  deriving DecidableEq

def stepFields : Fields Step :=
  (Fields.cons (js "schemaVersion") (versionSlot "kernel-step.v1") <|
    .cons (js "stepId") (.required .nonEmptyString) <|
    .cons (js "runId") (.required .nonEmptyString) <|
    .cons (js "taskId") (.required .nonEmptyString) <|
    .cons (js "kind") (.required stepKindSchema) <|
    .cons (js "status") (.default stepStatusSchema .pending (by rfl)) <|
    .cons (js "dependsOn") stringsSlot <|
    .cons (js "createdAt") (.required timestampSchema) <|
    .cons (js "updatedAt") (.required timestampSchema) <|
    .cons (js "input") recordSlot <|
    .cons (js "output") (.optional .record) .nil).via
    { toFun := fun (_, stepId, runId, taskId, kind, status, dependsOn, createdAt, updatedAt, input,
        output, ()) =>
        ⟨stepId, runId, taskId, kind, status, dependsOn, createdAt, updatedAt, input, output⟩
      invFun := fun step => ((), step.stepId, step.runId, step.taskId, step.kind, step.status,
        step.dependsOn, step.createdAt, step.updatedAt, step.input, step.output, ())
      left_inv := fun _ => rfl
      right_inv := fun _ => rfl }

lemma read_stepFields {get : Str → Option Json} {step : Step} :
    stepFields.read get = .ok step ↔
      (versionSlot (js "kernel-step.v1")).read (get (js "schemaVersion")) = .ok () ∧
      (get (js "stepId") = some (.str step.stepId) ∧ step.stepId ≠ []) ∧
      (get (js "runId") = some (.str step.runId) ∧ step.runId ≠ []) ∧
      (get (js "taskId") = some (.str step.taskId) ∧ step.taskId ≠ []) ∧
      (Slot.required stepKindSchema).read (get (js "kind")) = .ok step.kind ∧
      (Slot.default stepStatusSchema .pending rfl).read (get (js "status")) = .ok step.status ∧
      stringsSlot.read (get (js "dependsOn")) = .ok step.dependsOn ∧
      (get (js "createdAt") = some (.str step.createdAt) ∧ step.createdAt ≠ []) ∧
      (get (js "updatedAt") = some (.str step.updatedAt) ∧ step.updatedAt ≠ []) ∧
      recordSlot.read (get (js "input")) = .ok step.input ∧
      (Slot.optional .record).read (get (js "output")) = .ok step.output := by
  simp only [stepFields, timestampSchema, Fields.read_via, Equiv.coe_fn_symm_mk, Fields.read_cons,
    Fields.read_nil, and_true, Slot.read_required_nonEmptyString]

/-- `StepSchema`. -/
def stepSchema : Schema Step := .object stepFields (by decide)

/-! ## Events -/

structure Event where
  eventId : Str
  eventType : Str
  taskId : Option Str
  runId : Option Str
  stepId : Option Str
  principalId : Option Str
  createdAt : Str
  payload : Record
  prevHash : Option Str
  hash : Option Str
  deriving DecidableEq

def eventFields : Fields Event :=
  (Fields.cons (js "schemaVersion") (versionSlot "kernel-event.v1") <|
    .cons (js "eventId") (.required .nonEmptyString) <|
    .cons (js "eventType") (.required .nonEmptyString) <|
    .cons (js "taskId") (.optional .nonEmptyString) <|
    .cons (js "runId") (.optional .nonEmptyString) <|
    .cons (js "stepId") (.optional .nonEmptyString) <|
    .cons (js "principalId") (.optional .nonEmptyString) <|
    .cons (js "createdAt") (.required timestampSchema) <|
    .cons (js "payload") recordSlot <|
    .cons (js "prevHash") (.optional .nonEmptyString) <|
    .cons (js "hash") (.optional .nonEmptyString) .nil).via
    { toFun := fun (_, eventId, eventType, taskId, runId, stepId, principalId, createdAt, payload,
        prevHash, hash, ()) =>
        ⟨eventId, eventType, taskId, runId, stepId, principalId, createdAt, payload, prevHash, hash⟩
      invFun := fun event => ((), event.eventId, event.eventType, event.taskId, event.runId,
        event.stepId, event.principalId, event.createdAt, event.payload, event.prevHash, event.hash,
        ())
      left_inv := fun _ => rfl
      right_inv := fun _ => rfl }

lemma read_eventFields {get : Str → Option Json} {event : Event} :
    eventFields.read get = .ok event ↔
      (versionSlot (js "kernel-event.v1")).read (get (js "schemaVersion")) = .ok () ∧
      (get (js "eventId") = some (.str event.eventId) ∧ event.eventId ≠ []) ∧
      (get (js "eventType") = some (.str event.eventType) ∧ event.eventType ≠ []) ∧
      (Slot.optional .nonEmptyString).read (get (js "taskId")) = .ok event.taskId ∧
      (Slot.optional .nonEmptyString).read (get (js "runId")) = .ok event.runId ∧
      (Slot.optional .nonEmptyString).read (get (js "stepId")) = .ok event.stepId ∧
      (Slot.optional .nonEmptyString).read (get (js "principalId")) = .ok event.principalId ∧
      (get (js "createdAt") = some (.str event.createdAt) ∧ event.createdAt ≠ []) ∧
      recordSlot.read (get (js "payload")) = .ok event.payload ∧
      (Slot.optional .nonEmptyString).read (get (js "prevHash")) = .ok event.prevHash ∧
      (Slot.optional .nonEmptyString).read (get (js "hash")) = .ok event.hash := by
  simp only [eventFields, timestampSchema, Fields.read_via, Equiv.coe_fn_symm_mk, Fields.read_cons,
    Fields.read_nil, and_true, Slot.read_required_nonEmptyString]

/-- `EventSchema`. -/
def eventSchema : Schema Event := .object eventFields (by decide)

/-! ## Artifacts -/

structure Artifact where
  artifactId : Str
  taskId : Str
  runId : Option Str
  kind : ArtifactKind
  uri : Str
  sha256 : Str
  sizeBytes : Js.Num
  createdAt : Str
  metadata : Record
  deriving DecidableEq

/-- `ArtifactSchema`. -/
def artifactSchema : Schema Artifact :=
  .object
    ((Fields.cons (js "schemaVersion") (versionSlot "artifact.v1") <|
      .cons (js "artifactId") (.required .nonEmptyString) <|
      .cons (js "taskId") (.required .nonEmptyString) <|
      .cons (js "runId") (.optional .nonEmptyString) <|
      .cons (js "kind") (.required (.enum [.file, .log, .patch, .evidence, .checkpoint, .other]
        ArtifactKind.text (by intro a; cases a <;> decide))) <|
      .cons (js "uri") (.required .nonEmptyString) <|
      .cons (js "sha256") (.required (Schema.string.refine sha256Issues)) <|
      .cons (js "sizeBytes") (.required .nonNegativeInt) <|
      .cons (js "createdAt") (.required timestampSchema) <|
      .cons (js "metadata") recordSlot .nil).via
      { toFun := fun (_, artifactId, taskId, runId, kind, uri, sha256, sizeBytes, createdAt,
          metadata, ()) =>
          ⟨artifactId, taskId, runId, kind, uri, sha256, sizeBytes, createdAt, metadata⟩
        invFun := fun artifact => ((), artifact.artifactId, artifact.taskId, artifact.runId,
          artifact.kind, artifact.uri, artifact.sha256, artifact.sizeBytes, artifact.createdAt,
          artifact.metadata, ())
        left_inv := fun _ => rfl
        right_inv := fun _ => rfl })
    (by decide)

end CodexRouter.Kernel
