import CodexRouter.Authorization.Paths
import CodexRouter.Js.Collation
import CodexRouter.Js.Decimal
import CodexRouter.Provider.Registry

/-!
# Provider execution permits

A permit is issued for the plan of an executor and a manifest, and validated against a plan and a
manifest. There are three kinds: for reading, and two versions for writing in the workspace.
-/

open Js CodexRouter.Kernel

namespace CodexRouter.Provider

/-! ## Plans -/

structure ExecutorExecutionPlan where
  planId : Str
  runId : Str
  providerId : Str
  inputHash : Str
  requiredCapabilities : List Str
  approvalRequired : Bool
  sandboxProfile : SandboxProfile
  createdAt : Str
  taskId : Str
  taskHash : Option Str
  principalId : Option Str
  principalHash : Option Str
  providerExecutionPlanHash : Option Str
  providerManifestHash : Option Str
  policyDecisionHash : Option Str
  sideEffectClass : ProviderSideEffectClass
  metadata : Record

/-- `ExecutorExecutionPlanSchema`. -/
def executorExecutionPlanSchema : Schema ExecutorExecutionPlan :=
  .object
    ((Fields.cons (js "planId") (.required .nonEmptyString) <|
      .cons (js "runId") (.required .nonEmptyString) <|
      .cons (js "providerId") (.required .nonEmptyString) <|
      .cons (js "inputHash") (.required digestSchema) <|
      .cons (js "requiredCapabilities") nonEmptyStringsSlot <|
      .cons (js "approvalRequired") (.required .boolean) <|
      .cons (js "sandboxProfile") (.required sandboxProfileSchema) <|
      .cons (js "createdAt") (.required .nonEmptyString) <|
      .cons (js "schemaVersion") (versionSlot "executor-execution-plan.v1") <|
      .cons (js "kind") (versionSlot "executor") <|
      .cons (js "taskId") (.required .nonEmptyString) <|
      .cons (js "taskHash") (.optional digestSchema) <|
      .cons (js "principalId") (.optional .nonEmptyString) <|
      .cons (js "principalHash") (.optional digestSchema) <|
      .cons (js "providerExecutionPlanHash") (.optional digestSchema) <|
      .cons (js "providerManifestHash") (.optional digestSchema) <|
      .cons (js "policyDecisionHash") (.optional .nonEmptyString) <|
      .cons (js "sideEffectClass") (.required providerSideEffectClassSchema) <|
      .cons (js "metadata") recordSlot .nil).via
      { toFun := fun (planId, runId, providerId, inputHash, requiredCapabilities, approvalRequired,
          sandboxProfile, createdAt, _, _, taskId, taskHash, principalId, principalHash,
          providerExecutionPlanHash, providerManifestHash, policyDecisionHash, sideEffectClass,
          metadata, ()) =>
          { planId, runId, providerId, inputHash, requiredCapabilities, approvalRequired,
            sandboxProfile, createdAt, taskId, taskHash, principalId, principalHash,
            providerExecutionPlanHash, providerManifestHash, policyDecisionHash, sideEffectClass,
            metadata }
        invFun := fun plan => (plan.planId, plan.runId, plan.providerId, plan.inputHash,
          plan.requiredCapabilities, plan.approvalRequired, plan.sandboxProfile, plan.createdAt,
          (), (), plan.taskId, plan.taskHash, plan.principalId, plan.principalHash,
          plan.providerExecutionPlanHash, plan.providerManifestHash, plan.policyDecisionHash,
          plan.sideEffectClass, plan.metadata, ())
        left_inv := fun _ => rfl
        right_inv := fun _ => rfl })
    (by decide)

/-! ## Permits -/

inductive PermitStatus where
  | candidate | approved | blocked
  deriving DecidableEq

/-- The permits for writing have no `not_required`. -/
inductive PermitApprovalStatus where
  | notRequired | approved | pending | rejected | expired
  deriving DecidableEq

def PermitStatus.text : PermitStatus → Str
  | candidate => js "candidate"
  | approved => js "approved"
  | blocked => js "blocked"

def PermitApprovalStatus.text : PermitApprovalStatus → Str
  | notRequired => js "not_required"
  | approved => js "approved"
  | pending => js "pending"
  | rejected => js "rejected"
  | expired => js "expired"

def permitStatusSchema : Schema PermitStatus :=
  .enum [.candidate, .approved, .blocked] PermitStatus.text (by intro a; cases a <;> decide)

def permitApprovalStatusSchema : Schema PermitApprovalStatus :=
  .enum [.notRequired, .approved, .pending, .rejected, .expired] PermitApprovalStatus.text
    (by intro a; cases a <;> decide)

/-- `z.enum(["approved", "pending", "rejected", "expired"])`. -/
def writeApprovalStatusSchema : Schema PermitApprovalStatus :=
  permitApprovalStatusSchema.refine fun status => require (status ≠ .notRequired) []
    "Invalid enum value"

structure ProviderExecutionPermit where
  permitId : Str
  taskId : Str
  taskHash : Option Str
  runId : Str
  planId : Str
  planHash : Str
  providerExecutionPlanHash : Option Str
  providerId : Str
  providerManifestHash : Str
  policyDecisionHash : Option Str
  principalId : Option Str
  principalHash : Option Str
  sideEffectClass : ProviderSideEffectClass
  sandboxProfileId : Str
  status : PermitStatus
  approvalStatus : PermitApprovalStatus
  reasons : List Str
  issuedAt : Str
  expiresAt : Str
  nonce : Str
  consumedAt : Option Str

/-- `ProviderExecutionPermitSchema`. -/
def providerExecutionPermitSchema : Schema ProviderExecutionPermit :=
  .object
    ((Fields.cons (js "schemaVersion") (versionSlot "provider-execution-permit.v1") <|
      .cons (js "permitId") (.required .nonEmptyString) <|
      .cons (js "taskId") (.required .nonEmptyString) <|
      .cons (js "taskHash") (.optional digestSchema) <|
      .cons (js "runId") (.required .nonEmptyString) <|
      .cons (js "planId") (.required .nonEmptyString) <|
      .cons (js "planHash") (.required digestSchema) <|
      .cons (js "providerExecutionPlanHash") (.optional digestSchema) <|
      .cons (js "providerId") (.required .nonEmptyString) <|
      .cons (js "providerManifestHash") (.required digestSchema) <|
      .cons (js "policyDecisionHash") (.optional .nonEmptyString) <|
      .cons (js "principalId") (.optional .nonEmptyString) <|
      .cons (js "principalHash") (.optional digestSchema) <|
      .cons (js "sideEffectClass") (.required providerSideEffectClassSchema) <|
      .cons (js "sandboxProfileId") (.required .nonEmptyString) <|
      .cons (js "status") (.required permitStatusSchema) <|
      .cons (js "approvalStatus") (.required permitApprovalStatusSchema) <|
      .cons (js "reasons") stringsSlot <|
      .cons (js "issuedAt") (.required .nonEmptyString) <|
      .cons (js "expiresAt") (.required .nonEmptyString) <|
      .cons (js "nonce") (.required .nonEmptyString) <|
      .cons (js "consumedAt") (.optional .nonEmptyString) .nil).via
      { toFun := fun (_, permitId, taskId, taskHash, runId, planId, planHash,
          providerExecutionPlanHash, providerId, providerManifestHash, policyDecisionHash,
          principalId, principalHash, sideEffectClass, sandboxProfileId, status, approvalStatus,
          reasons, issuedAt, expiresAt, nonce, consumedAt, ()) =>
          { permitId, taskId, taskHash, runId, planId, planHash, providerExecutionPlanHash,
            providerId, providerManifestHash, policyDecisionHash, principalId, principalHash,
            sideEffectClass, sandboxProfileId, status, approvalStatus, reasons, issuedAt,
            expiresAt, nonce, consumedAt }
        invFun := fun permit => ((), permit.permitId, permit.taskId, permit.taskHash,
          permit.runId, permit.planId, permit.planHash, permit.providerExecutionPlanHash,
          permit.providerId, permit.providerManifestHash, permit.policyDecisionHash,
          permit.principalId, permit.principalHash, permit.sideEffectClass,
          permit.sandboxProfileId, permit.status, permit.approvalStatus, permit.reasons,
          permit.issuedAt, permit.expiresAt, permit.nonce, permit.consumedAt, ())
        left_inv := fun _ => rfl
        right_inv := fun _ => rfl })
    (by decide)

structure PermitRepositoryState where
  branch : Str
  protectedBranch : Bool
  worktreeClean : Bool
  headCommit : Option Str
  deriving DecidableEq

def permitRepositoryStateSchema : Schema PermitRepositoryState :=
  .object
    ((Fields.cons (js "branch") (.required .nonEmptyString) <|
      .cons (js "protectedBranch") (.required .boolean) <|
      .cons (js "worktreeClean") (.required .boolean) <|
      .cons (js "headCommit") (.optional .nonEmptyString) .nil).via
      { toFun := fun (branch, protectedBranch, worktreeClean, headCommit, ()) =>
          ⟨branch, protectedBranch, worktreeClean, headCommit⟩
        invFun := fun state =>
          (state.branch, state.protectedBranch, state.worktreeClean, state.headCommit, ())
        left_inv := fun _ => rfl
        right_inv := fun _ => rfl })
    (by decide)

/-- What a permit allows in the workspace: the fields that both versions share. -/
structure WriteBounds where
  targetFiles : List Str
  maxChangedFiles : Js.Num
  maxDiffLines : Js.Num
  rollbackRequired : Bool
  protectedBranchForbidden : Bool
  dirtyWorktreeForbidden : Bool
  repositoryState : PermitRepositoryState
  deriving DecidableEq

structure WorkspaceWriteProviderExecutionPermit extends WriteBounds where
  permitId : Str
  taskId : Str
  runId : Option Str
  planId : Option Str
  providerId : Str
  providerManifestHash : Option Str
  policyDecisionHash : Option Str
  sandboxProfileId : Str
  status : PermitStatus
  approvalStatus : PermitApprovalStatus
  operatorAuthorizationId : Option Str
  reasons : List Str
  issuedAt : Str

/-- `WorkspaceWriteProviderExecutionPermitSchema`. -/
def workspaceWriteProviderExecutionPermitSchema : Schema WorkspaceWriteProviderExecutionPermit :=
  .object
    ((Fields.cons (js "schemaVersion")
        (versionSlot "provider-workspace-write-execution-permit.v1") <|
      .cons (js "permitId") (.required .nonEmptyString) <|
      .cons (js "taskId") (.required .nonEmptyString) <|
      .cons (js "runId") (.optional .nonEmptyString) <|
      .cons (js "planId") (.optional .nonEmptyString) <|
      .cons (js "providerId") (.required .nonEmptyString) <|
      .cons (js "providerManifestHash") (.optional digestSchema) <|
      .cons (js "policyDecisionHash") (.optional .nonEmptyString) <|
      .cons (js "sideEffectClass") (.required (.literal "workspace_write")) <|
      .cons (js "sandboxProfileId") (.required .nonEmptyString) <|
      .cons (js "sandboxMode") (.required (.literal "workspace-write")) <|
      .cons (js "status") (.required permitStatusSchema) <|
      .cons (js "approvalStatus") (.required writeApprovalStatusSchema) <|
      .cons (js "operatorAuthorizationId") (.optional .nonEmptyString) <|
      .cons (js "targetFiles") nonEmptyStringsSlot <|
      .cons (js "maxChangedFiles") (.required .positiveInt) <|
      .cons (js "maxDiffLines") (.required .positiveInt) <|
      .cons (js "rollbackRequired") (.required .boolean) <|
      .cons (js "protectedBranchForbidden") (.required .boolean) <|
      .cons (js "dirtyWorktreeForbidden") (.required .boolean) <|
      .cons (js "repositoryState") (.required permitRepositoryStateSchema) <|
      .cons (js "reasons") stringsSlot <|
      .cons (js "issuedAt") (.required .nonEmptyString) .nil).via
      { toFun := fun (_, permitId, taskId, runId, planId, providerId, providerManifestHash,
          policyDecisionHash, _, sandboxProfileId, _, status, approvalStatus,
          operatorAuthorizationId, targetFiles, maxChangedFiles, maxDiffLines, rollbackRequired,
          protectedBranchForbidden, dirtyWorktreeForbidden, repositoryState, reasons, issuedAt,
          ()) =>
          { permitId, taskId, runId, planId, providerId, providerManifestHash, policyDecisionHash,
            sandboxProfileId, status, approvalStatus, operatorAuthorizationId, targetFiles,
            maxChangedFiles, maxDiffLines, rollbackRequired, protectedBranchForbidden,
            dirtyWorktreeForbidden, repositoryState, reasons, issuedAt }
        invFun := fun permit => ((), permit.permitId, permit.taskId, permit.runId, permit.planId,
          permit.providerId, permit.providerManifestHash, permit.policyDecisionHash, (),
          permit.sandboxProfileId, (), permit.status, permit.approvalStatus,
          permit.operatorAuthorizationId, permit.targetFiles, permit.maxChangedFiles,
          permit.maxDiffLines, permit.rollbackRequired, permit.protectedBranchForbidden,
          permit.dirtyWorktreeForbidden, permit.repositoryState, permit.reasons, permit.issuedAt,
          ())
        left_inv := fun _ => rfl
        right_inv := fun _ => rfl })
    (by decide)

structure RollbackCommandIdentity where
  commandHash : Str
  affectedFiles : List Str
  deriving DecidableEq

/-- `WorkspaceWritePermitV2RollbackCommandIdentitySchema`. -/
def rollbackCommandIdentitySchema : Schema RollbackCommandIdentity :=
  .object
    ((Fields.cons (js "kind") (.required (.literal "git_restore_from_commit")) <|
      .cons (js "commandHash") (.required digestSchema) <|
      .cons (js "affectedFiles") nonEmptyStringsSlot .nil).via
      { toFun := fun (_, commandHash, affectedFiles, ()) => ⟨commandHash, affectedFiles⟩
        invFun := fun identity => ((), identity.commandHash, identity.affectedFiles, ())
        left_inv := fun _ => rfl
        right_inv := fun _ => rfl })
    (by decide)

structure PermitRollback where
  beforeCommit : Str
  commandIdentity : RollbackCommandIdentity
  deriving DecidableEq

def permitRollbackSchema : Schema PermitRollback :=
  .object
    ((Fields.cons (js "beforeCommit") (.required .nonEmptyString) <|
      .cons (js "commandIdentity") (.required rollbackCommandIdentitySchema) .nil).via
      { toFun := fun (beforeCommit, commandIdentity, ()) => ⟨beforeCommit, commandIdentity⟩
        invFun := fun rollback => (rollback.beforeCommit, rollback.commandIdentity, ())
        left_inv := fun _ => rfl
        right_inv := fun _ => rfl })
    (by decide)

structure WorkspaceWriteProviderExecutionPermitV2 extends WriteBounds where
  permitId : Str
  taskId : Str
  taskHash : Option Str
  runId : Str
  planId : Str
  planHash : Str
  providerExecutionPlanHash : Str
  providerId : Str
  providerManifestHash : Str
  policyDecisionHash : Str
  principalId : Option Str
  principalHash : Str
  sandboxProfileId : Str
  status : PermitStatus
  approvalStatus : PermitApprovalStatus
  operatorAuthorizationId : Option Str
  rollback : PermitRollback
  reasons : List Str
  issuedAt : Str
  expiresAt : Str
  nonce : Str
  consumedAt : Option Str

/-- `WorkspaceWriteProviderExecutionPermitV2Schema`. -/
def workspaceWriteProviderExecutionPermitV2Schema :
    Schema WorkspaceWriteProviderExecutionPermitV2 :=
  .object
    ((Fields.cons (js "schemaVersion")
        (versionSlot "provider-workspace-write-execution-permit.v2") <|
      .cons (js "permitId") (.required .nonEmptyString) <|
      .cons (js "taskId") (.required .nonEmptyString) <|
      .cons (js "taskHash") (.optional digestSchema) <|
      .cons (js "runId") (.required .nonEmptyString) <|
      .cons (js "planId") (.required .nonEmptyString) <|
      .cons (js "planHash") (.required digestSchema) <|
      .cons (js "providerExecutionPlanHash") (.required digestSchema) <|
      .cons (js "providerId") (.required .nonEmptyString) <|
      .cons (js "providerManifestHash") (.required digestSchema) <|
      .cons (js "policyDecisionHash") (.required .nonEmptyString) <|
      .cons (js "principalId") (.optional .nonEmptyString) <|
      .cons (js "principalHash") (.required digestSchema) <|
      .cons (js "sideEffectClass") (.required (.literal "workspace_write")) <|
      .cons (js "sandboxProfileId") (.required .nonEmptyString) <|
      .cons (js "sandboxMode") (.required (.literal "workspace-write")) <|
      .cons (js "status") (.required permitStatusSchema) <|
      .cons (js "approvalStatus") (.required writeApprovalStatusSchema) <|
      .cons (js "operatorAuthorizationId") (.optional .nonEmptyString) <|
      .cons (js "targetFiles") nonEmptyStringsSlot <|
      .cons (js "maxChangedFiles") (.required .positiveInt) <|
      .cons (js "maxDiffLines") (.required .positiveInt) <|
      .cons (js "rollbackRequired") (.required .boolean) <|
      .cons (js "rollback") (.required permitRollbackSchema) <|
      .cons (js "protectedBranchForbidden") (.required .boolean) <|
      .cons (js "dirtyWorktreeForbidden") (.required .boolean) <|
      .cons (js "repositoryState") (.required permitRepositoryStateSchema) <|
      .cons (js "reasons") stringsSlot <|
      .cons (js "issuedAt") (.required .nonEmptyString) <|
      .cons (js "expiresAt") (.required .nonEmptyString) <|
      .cons (js "nonce") (.required .nonEmptyString) <|
      .cons (js "consumedAt") (.optional .nonEmptyString) .nil).via
      { toFun := fun (_, permitId, taskId, taskHash, runId, planId, planHash,
          providerExecutionPlanHash, providerId, providerManifestHash, policyDecisionHash,
          principalId, principalHash, _, sandboxProfileId, _, status, approvalStatus,
          operatorAuthorizationId, targetFiles, maxChangedFiles, maxDiffLines, rollbackRequired,
          rollback, protectedBranchForbidden, dirtyWorktreeForbidden, repositoryState, reasons,
          issuedAt, expiresAt, nonce, consumedAt, ()) =>
          { permitId, taskId, taskHash, runId, planId, planHash, providerExecutionPlanHash,
            providerId, providerManifestHash, policyDecisionHash, principalId, principalHash,
            sandboxProfileId, status, approvalStatus, operatorAuthorizationId, targetFiles,
            maxChangedFiles, maxDiffLines, rollbackRequired, rollback, protectedBranchForbidden,
            dirtyWorktreeForbidden, repositoryState, reasons, issuedAt, expiresAt, nonce,
            consumedAt }
        invFun := fun permit => ((), permit.permitId, permit.taskId, permit.taskHash,
          permit.runId, permit.planId, permit.planHash, permit.providerExecutionPlanHash,
          permit.providerId, permit.providerManifestHash, permit.policyDecisionHash,
          permit.principalId, permit.principalHash, (), permit.sandboxProfileId, (),
          permit.status, permit.approvalStatus, permit.operatorAuthorizationId,
          permit.targetFiles, permit.maxChangedFiles, permit.maxDiffLines,
          permit.rollbackRequired, permit.rollback, permit.protectedBranchForbidden,
          permit.dirtyWorktreeForbidden, permit.repositoryState, permit.reasons, permit.issuedAt,
          permit.expiresAt, permit.nonce, permit.consumedAt, ())
        left_inv := fun _ => rfl
        right_inv := fun _ => rfl })
    (by decide)

end CodexRouter.Provider
