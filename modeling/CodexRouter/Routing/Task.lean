import CodexRouter.Eligibility.Permit

/-!
# Task envelopes

What a caller asks for, with hints and where they come from.
-/

open Js

namespace CodexRouter.Routing

open Kernel Eligibility

inductive HintField where
  | taskClassHint | riskHints | tags
  deriving DecidableEq

inductive HintSource where
  | user | agent | system | policy | operator | memory | legacy | unknown
  deriving DecidableEq

def HintField.text : HintField → Str
  | taskClassHint => js "taskClassHint"
  | riskHints => js "riskHints"
  | tags => js "tags"

def HintSource.text : HintSource → Str
  | user => js "user"
  | agent => js "agent"
  | system => js "system"
  | policy => js "policy"
  | operator => js "operator"
  | memory => js "memory"
  | legacy => js "legacy"
  | unknown => js "unknown"

structure TaskIntent where
  summary : Str
  requestedAction : Str
  successCriteria : List Str
  outOfScope : List Str
  deriving DecidableEq

structure RepoContext where
  repoRoot : Option Str
  branch : Option Str
  worktreeClean : Option Bool
  protectedBranch : Option Bool
  deriving DecidableEq

structure TaskTarget where
  branches : List Str
  files : List Str
  modules : List Str
  deriving DecidableEq

structure TaskConstraints where
  requiresNetwork : Option Bool
  explicitOwnership : Option Bool
  allowBackgroundAutomation : Option Bool
  deriving DecidableEq

structure TaskHintProvenance where
  field : HintField
  value : Str
  source : HintSource
  reason : Option Str
  createdAt : Option Str
  deriving DecidableEq

structure TaskHints where
  taskClassHint : Option TaskClass
  riskHints : List Str
  tags : List Str
  provenance : List TaskHintProvenance
  deriving DecidableEq

structure TaskEnvelope where
  taskId : Str
  source : TaskSource
  intent : TaskIntent
  repoContext : RepoContext
  target : TaskTarget
  constraints : TaskConstraints
  hints : TaskHints
  deriving DecidableEq

/-! ## Schemas -/

def taskClassSchema : Schema TaskClass :=
  .enum [.readOnly, .smallEdit, .engineering, .highRisk, .releaseExternalAction] TaskClass.text
    (by intro a; cases a <;> decide)

def taskIntentSchema : Schema TaskIntent :=
  .object
    ((Fields.cons (js "summary") (.required .nonEmptyString) <|
      .cons (js "requestedAction") (.required .nonEmptyString) <|
      .cons (js "successCriteria") stringsSlot <|
      .cons (js "outOfScope") stringsSlot .nil).via
      { toFun := fun (summary, requestedAction, successCriteria, outOfScope, ()) =>
          ⟨summary, requestedAction, successCriteria, outOfScope⟩
        invFun := fun intent => (intent.summary, intent.requestedAction, intent.successCriteria,
          intent.outOfScope, ())
        left_inv := fun _ => rfl
        right_inv := fun _ => rfl })
    (by decide)

def repoContextSchema : Schema RepoContext :=
  .object
    ((Fields.cons (js "repoRoot") (.optional .nonEmptyString) <|
      .cons (js "branch") (.optional .nonEmptyString) <|
      .cons (js "worktreeClean") (.optional .boolean) <|
      .cons (js "protectedBranch") (.optional .boolean) .nil).via
      { toFun := fun (repoRoot, branch, worktreeClean, protectedBranch, ()) =>
          ⟨repoRoot, branch, worktreeClean, protectedBranch⟩
        invFun := fun context => (context.repoRoot, context.branch, context.worktreeClean,
          context.protectedBranch, ())
        left_inv := fun _ => rfl
        right_inv := fun _ => rfl })
    (by decide)

def taskTargetSchema : Schema TaskTarget :=
  .object
    ((Fields.cons (js "branches") stringsSlot <|
      .cons (js "files") stringsSlot <|
      .cons (js "modules") stringsSlot .nil).via
      { toFun := fun (branches, files, modules, ()) => ⟨branches, files, modules⟩
        invFun := fun target => (target.branches, target.files, target.modules, ())
        left_inv := fun _ => rfl
        right_inv := fun _ => rfl })
    (by decide)

def taskConstraintsSchema : Schema TaskConstraints :=
  .object
    ((Fields.cons (js "requiresNetwork") (.optional .boolean) <|
      .cons (js "explicitOwnership") (.optional .boolean) <|
      .cons (js "allowBackgroundAutomation") (.optional .boolean) .nil).via
      { toFun := fun (requiresNetwork, explicitOwnership, allowBackgroundAutomation, ()) =>
          ⟨requiresNetwork, explicitOwnership, allowBackgroundAutomation⟩
        invFun := fun constraints => (constraints.requiresNetwork, constraints.explicitOwnership,
          constraints.allowBackgroundAutomation, ())
        left_inv := fun _ => rfl
        right_inv := fun _ => rfl })
    (by decide)

def taskHintProvenanceSchema : Schema TaskHintProvenance :=
  .object
    ((Fields.cons (js "field") (.required (.enum [.taskClassHint, .riskHints, .tags] HintField.text
        (by intro a; cases a <;> decide))) <|
      .cons (js "value") (.required .nonEmptyString) <|
      .cons (js "source") (.default (.enum [.user, .agent, .system, .policy, .operator, .memory,
        .legacy, .unknown] HintSource.text (by intro a; cases a <;> decide)) .unknown (by rfl)) <|
      .cons (js "reason") (.optional .nonEmptyString) <|
      .cons (js "createdAt") (.optional .nonEmptyString) .nil).via
      { toFun := fun (field, value, source, reason, createdAt, ()) =>
          ⟨field, value, source, reason, createdAt⟩
        invFun := fun entry => (entry.field, entry.value, entry.source, entry.reason,
          entry.createdAt, ())
        left_inv := fun _ => rfl
        right_inv := fun _ => rfl })
    (by decide)

def taskHintsSchema : Schema TaskHints :=
  .object
    ((Fields.cons (js "taskClassHint") (.optional taskClassSchema) <|
      .cons (js "riskHints") stringsSlot <|
      .cons (js "tags") stringsSlot <|
      .cons (js "provenance") (arraySlot taskHintProvenanceSchema) .nil).via
      { toFun := fun (taskClassHint, riskHints, tags, provenance, ()) =>
          ⟨taskClassHint, riskHints, tags, provenance⟩
        invFun := fun hints => (hints.taskClassHint, hints.riskHints, hints.tags,
          hints.provenance, ())
        left_inv := fun _ => rfl
        right_inv := fun _ => rfl })
    (by decide)

def taskEnvelopeSchema : Schema TaskEnvelope :=
  .object
    ((Fields.cons (js "schemaVersion") (versionSlot "task-envelope.v1") <|
      .cons (js "taskId") (.required .nonEmptyString) <|
      .cons (js "source") (.default (.enum [.desktopThread, .desktopAutomation, .cli, .api]
        TaskSource.text find_taskSource) .desktopThread valid_desktopThread) <|
      .cons (js "intent") (.required taskIntentSchema) <|
      .cons (js "repoContext") (.default repoContextSchema ⟨none, none, none, none⟩ (by rfl)) <|
      .cons (js "target") (.default taskTargetSchema ⟨[], [], []⟩ (by rfl)) <|
      .cons (js "constraints") (.default taskConstraintsSchema ⟨none, none, none⟩ (by rfl)) <|
      .cons (js "hints") (.default taskHintsSchema ⟨none, [], [], []⟩ (by rfl)) .nil).via
      { toFun := fun (_, taskId, source, intent, repoContext, target, constraints, hints, ()) =>
          ⟨taskId, source, intent, repoContext, target, constraints, hints⟩
        invFun := fun task => ((), task.taskId, task.source, task.intent, task.repoContext,
          task.target, task.constraints, task.hints, ())
        left_inv := fun _ => rfl
        right_inv := fun _ => rfl })
    (by decide)

def parseTaskEnvelope (input : Json) : Result TaskEnvelope := taskEnvelopeSchema.parse input

/-- `${summary} ${requestedAction}` in lower case. -/
def TaskEnvelope.haystack [Runtime] (task : TaskEnvelope) : Str :=
  Runtime.toLowerCase (task.intent.summary ++ js " " ++ task.intent.requestedAction)

end CodexRouter.Routing
