import CodexRouter.Provider.Permits

/-!
# Issuing and validating permits

The reasons against an issue are collected before a permit is made; the reasons against a permit
are collected from the permit, the plan and the manifest.
-/

open Js CodexRouter.Kernel

namespace CodexRouter.Provider

def reasonIf (condition : Bool) (reason : Str) : List Str := if condition then [reason] else []

@[simp] lemma reasonIf_eq_nil {condition : Bool} {reason : Str} :
    reasonIf condition reason = [] ↔ condition = false := by
  cases condition <;> simp [reasonIf]

/-- What only permits ask of the host. -/
class PermitHost where
  /-- `new Date(ms).toISOString()`, without a value where it throws. -/
  toISOString : ℤ → Option Str
  /-- The message of a `ZodError`. -/
  zodMessage : List Issue → Str

/-! ## Paths -/

/-- `isSafeWorkspaceRelativeFilePath(targetFile)`. -/
def isSafeWorkspaceRelativeFilePath (targetFile : Str) : Bool :=
  let slashPath := toSlashes targetFile
  if slashPath = [] || startsWith slashPath "/" || Authorization.hasDrivePrefix slashPath
      || endsWith slashPath "/" then false
  else (split slash slashPath).all fun part => part ≠ [] && part ≠ js "." && part ≠ js ".."

/-- `normalizeWorkspaceWritePermitPathList(paths)`. -/
def normalizePathList [Collation] (paths : List Str) : List Str :=
  sortLocale (distinct (paths.map toSlashes))

/-- `sameProviderCoreStringSet(left, right)`. -/
def sameStringSet [Collation] (left right : List Str) : Bool :=
  normalizePathList left = normalizePathList right

section

variable [Runtime]

/-! ## Digests -/

def hashExecutorExecutionPlan (plan : ExecutorExecutionPlan) : Result Str := do
  return hashProviderObject (executorExecutionPlanSchema.write
    (← executorExecutionPlanSchema.parse (executorExecutionPlanSchema.write plan)))

def createProviderPermitNonce (plan : ExecutorExecutionPlan) (issuedAt expiresAt : Str) :
    Result Str := do
  return (hashProviderObject (.obj [(js "planHash", .str (← hashExecutorExecutionPlan plan)),
    (js "issuedAt", .str issuedAt), (js "expiresAt", .str expiresAt)])).take 24

variable [Collation]

def rollbackCommandHash (beforeCommit : Str) (affectedFiles : List Str) : Str :=
  hashProviderObject (.obj [
    (js "schemaVersion", .str "workspace-write-rollback-command-identity.v2"),
    (js "kind", .str "git_restore_from_commit"), (js "beforeCommit", .str beforeCommit),
    (js "affectedFiles", strings (normalizePathList affectedFiles))])

def createRollbackBinding (beforeCommit : Str) (affectedFiles : List Str) : PermitRollback where
  beforeCommit
  commandIdentity :=
    { commandHash := rollbackCommandHash beforeCommit (normalizePathList affectedFiles)
      affectedFiles := normalizePathList affectedFiles }

/-- `createWorkspaceWriteProviderPermitV2Nonce(permit, planHash)`. -/
def createV2Nonce (permit : WorkspaceWriteProviderExecutionPermitV2) (planHash : Str) : Str :=
  (hashProviderObject (.obj ([
      (js "schemaVersion", .str "workspace-write-provider-execution-permit-nonce.v2"),
      (js "permitId", .str permit.permitId), (js "taskId", .str permit.taskId)]
    ++ Json.member? "taskHash" (permit.taskHash.map .str)
    ++ [(js "runId", .str permit.runId), (js "planId", .str permit.planId),
      (js "planHash", .str planHash),
      (js "providerExecutionPlanHash", .str permit.providerExecutionPlanHash),
      (js "providerId", .str permit.providerId),
      (js "providerManifestHash", .str permit.providerManifestHash),
      (js "policyDecisionHash", .str permit.policyDecisionHash)]
    ++ Json.member? "principalId" (permit.principalId.map .str)
    ++ [(js "principalHash", .str permit.principalHash),
      (js "sandboxProfileId", .str permit.sandboxProfileId)]
    ++ Json.member? "operatorAuthorizationId" (permit.operatorAuthorizationId.map .str)
    ++ [(js "targetFiles", strings (normalizePathList permit.targetFiles)),
      (js "maxChangedFiles", .num permit.maxChangedFiles),
      (js "maxDiffLines", .num permit.maxDiffLines),
      (js "rollback", permitRollbackSchema.write permit.rollback),
      (js "issuedAt", .str permit.issuedAt), (js "expiresAt", .str permit.expiresAt)]))).take 32

/-! ## Reasons against an issue -/

omit [Runtime] [Collation] in
def readOnlyIssuanceBlockers (plan : ExecutorExecutionPlan)
    (approvalStatus : Option PermitApprovalStatus) : List Str :=
  distinct
    (reasonIf (plan.sideEffectClass ≠ .readOnly) "provider_execution_permit_read_only_only"
      ++ reasonIf (plan.sandboxProfile.mode ≠ .readOnly)
        "provider_execution_permit_requires_read_only_sandbox"
      ++ reasonIf (plan.approvalRequired || approvalStatus.any (· ≠ .notRequired))
        "provider_execution_permit_approval_required"
      ++ reasonIf plan.policyDecisionHash.isNone
        "provider_execution_permit_policy_hash_required")

omit [Runtime] [Collation] in
/-- `getWorkspaceWriteProviderExecutionPermitGovernanceBlockers(input, prefix)`. -/
def governanceBlockers (input : WriteBounds) (before : Str) : List Str :=
  let targetFiles := distinct input.targetFiles
  let state := input.repositoryState
  distinct
    (reasonIf (targetFiles = []) (before ++ js "_target_files_required")
      ++ reasonIf (input.maxChangedFiles.exceededBy targetFiles.length)
        (before ++ js "_target_file_count_exceeds_max")
      ++ reasonIf (targetFiles.any fun targetFile => !isSafeWorkspaceRelativeFilePath targetFile)
        (before ++ js "_target_file_out_of_bounds")
      ++ reasonIf (!input.rollbackRequired) (before ++ js "_rollback_required")
      ++ reasonIf (!input.protectedBranchForbidden || state.protectedBranch)
        (before ++ js "_protected_branch_forbidden")
      ++ reasonIf (!input.dirtyWorktreeForbidden || !state.worktreeClean)
        (before ++ js "_dirty_worktree_forbidden"))

omit [Runtime] [Collation] in
/-- What both versions ask of the plan, the manifest and the authorization. -/
def writeIssuanceBlockers (before : Str) (plan : ExecutorExecutionPlan)
    (manifest : ProviderManifest) (approvalStatus : Option PermitApprovalStatus)
    (operatorAuthorizationId : Option Str) : Result (List Str) := do
  let supported ← providerSupportsSandboxProfile manifest
    (sandboxProfileSchema.write plan.sandboxProfile)
  return reasonIf (plan.sideEffectClass ≠ .workspaceWrite)
      (before ++ js "_requires_workspace_write_side_effect")
    ++ reasonIf (plan.sandboxProfile.mode ≠ .workspaceWrite)
      (before ++ js "_requires_workspace_write_sandbox")
    ++ reasonIf (!providerSupportsSideEffectClass manifest .workspaceWrite)
      (before ++ js "_manifest_side_effect_unsupported")
    ++ reasonIf (!supported) (before ++ js "_manifest_sandbox_unsupported")
    ++ reasonIf (approvalStatus ≠ some .approved) (before ++ js "_approval_required")
    ++ reasonIf (operatorAuthorizationId.getD [] = [])
      (before ++ js "_operator_authorization_required")

def writePrefix : Str := js "workspace_write_provider_execution_permit"

def writeV2Prefix : Str := js "workspace_write_provider_execution_permit_v2"

structure ProviderExecutionPermitIssueInput where
  plan : Json
  manifest : Json
  permitId : Option Str
  approvalStatus : Option PermitApprovalStatus
  issuedAt : Str
  expiresAt : Option Str

structure WorkspaceWriteIssueInput extends WriteBounds where
  plan : Json
  manifest : Json
  permitId : Option Str
  approvalStatus : Option PermitApprovalStatus
  operatorAuthorizationId : Option Str
  issuedAt : Str

structure WorkspaceWriteV2IssueInput extends WorkspaceWriteIssueInput where
  beforeCommit : Str
  affectedFiles : Option (List Str)
  expiresAt : Option Str

omit [Runtime] [Collation] in
def workspaceWriteIssuanceBlockers (plan : ExecutorExecutionPlan) (manifest : ProviderManifest)
    (input : WorkspaceWriteIssueInput) : Result (List Str) := do
  let reasons ← writeIssuanceBlockers writePrefix plan manifest input.approvalStatus
    input.operatorAuthorizationId
  return distinct (reasons ++ governanceBlockers input.toWriteBounds writePrefix)

/-- The first reason against the commit to roll back to. -/
def beforeCommitReasons (before : Str) (headCommit : Option Str) (beforeCommit : Str) : List Str :=
  if headCommit.getD [] = [] then [before ++ js "_before_commit_required"]
  else reasonIf (some beforeCommit ≠ headCommit) (before ++ js "_rollback_before_commit_mismatch")

def workspaceWriteV2IssuanceBlockers (plan : ExecutorExecutionPlan) (manifest : ProviderManifest)
    (input : WorkspaceWriteV2IssueInput) : Result (List Str) := do
  let before := writeV2Prefix
  let reasons ← writeIssuanceBlockers before plan manifest input.approvalStatus
    input.operatorAuthorizationId
  let targetFiles := normalizePathList input.targetFiles
  let rollbackAffectedFiles := normalizePathList (input.affectedFiles.getD targetFiles)
  return distinct (reasons
    ++ reasonIf plan.providerExecutionPlanHash.isNone (before ++ js "_provider_plan_hash_required")
    ++ reasonIf (plan.providerManifestHash.any (· ≠ hashProviderManifest manifest))
      (before ++ js "_plan_manifest_hash_mismatch")
    ++ reasonIf plan.policyDecisionHash.isNone (before ++ js "_policy_hash_required")
    ++ reasonIf plan.principalHash.isNone (before ++ js "_principal_hash_required")
    ++ beforeCommitReasons before input.repositoryState.headCommit input.beforeCommit
    ++ reasonIf (!sameStringSet targetFiles rollbackAffectedFiles)
      (before ++ js "_rollback_affected_files_mismatch")
    ++ reasonIf (rollbackAffectedFiles.any fun file => !isSafeWorkspaceRelativeFilePath file)
      (before ++ js "_rollback_affected_file_out_of_bounds")
    ++ governanceBlockers input.toWriteBounds before)

/-! ## Issuing -/

section

variable [PermitHost]

/-- Five minutes later; a time that cannot be read is kept. -/
def createDefaultProviderPermitExpiresAt (issuedAt : Str) : Result Str :=
  match Runtime.dateParse issuedAt with
  | none => .ok issuedAt
  | some issuedAtMs =>
    match PermitHost.toISOString (issuedAtMs + 300000) with
    | some text => .ok text
    | none => fail "Invalid time value"

def expiresAtOf (issuedAt : Str) : Option Str → Result Str
  | some expiresAt => .ok expiresAt
  | none => createDefaultProviderPermitExpiresAt issuedAt

def createProviderExecutionPermit (input : ProviderExecutionPermitIssueInput)
    (status : PermitStatus) (reasons : List Str) : Result ProviderExecutionPermit := do
  let plan ← executorExecutionPlanSchema.parse input.plan
  let manifest ← providerManifestSchema.parse input.manifest
  let expiresAt ← expiresAtOf input.issuedAt input.expiresAt
  let nonce ← createProviderPermitNonce plan input.issuedAt expiresAt
  providerExecutionPermitSchema.parse (providerExecutionPermitSchema.write
    { permitId := input.permitId.getD (js "permit_" ++ plan.planId)
      taskId := plan.taskId
      taskHash := plan.taskHash
      runId := plan.runId
      planId := plan.planId
      planHash := ← hashExecutorExecutionPlan plan
      providerExecutionPlanHash := plan.providerExecutionPlanHash
      providerId := plan.providerId
      providerManifestHash := hashProviderManifest manifest
      policyDecisionHash := plan.policyDecisionHash
      principalId := plan.principalId
      principalHash := plan.principalHash
      sideEffectClass := plan.sideEffectClass
      sandboxProfileId := plan.sandboxProfile.sandboxId
      status
      approvalStatus := input.approvalStatus.getD
        (if plan.approvalRequired then .pending else .notRequired)
      reasons
      issuedAt := input.issuedAt
      expiresAt
      nonce
      consumedAt := none })

def createWorkspaceWriteProviderExecutionPermit (input : WorkspaceWriteIssueInput)
    (status : PermitStatus) (reasons : List Str) :
    Result WorkspaceWriteProviderExecutionPermit := do
  let plan ← executorExecutionPlanSchema.parse input.plan
  let manifest ← providerManifestSchema.parse input.manifest
  workspaceWriteProviderExecutionPermitSchema.parse
    (workspaceWriteProviderExecutionPermitSchema.write
      { input.toWriteBounds with
        permitId := input.permitId.getD (js "workspace_write_permit_" ++ plan.planId)
        taskId := plan.taskId
        runId := some plan.runId
        planId := some plan.planId
        providerId := plan.providerId
        providerManifestHash := some (hashProviderManifest manifest)
        policyDecisionHash := plan.policyDecisionHash
        sandboxProfileId := plan.sandboxProfile.sandboxId
        status
        approvalStatus := input.approvalStatus.getD .pending
        operatorAuthorizationId := input.operatorAuthorizationId
        reasons
        issuedAt := input.issuedAt })

def createWorkspaceWriteProviderExecutionPermitV2 (input : WorkspaceWriteV2IssueInput)
    (status : PermitStatus) (reasons : List Str) :
    Result WorkspaceWriteProviderExecutionPermitV2 := do
  let plan ← executorExecutionPlanSchema.parse input.plan
  let manifest ← providerManifestSchema.parse input.manifest
  let targetFiles := normalizePathList input.targetFiles
  let rollbackAffectedFiles := normalizePathList (input.affectedFiles.getD targetFiles)
  let rollback := createRollbackBinding input.beforeCommit rollbackAffectedFiles
  let expiresAt ← expiresAtOf input.issuedAt input.expiresAt
  let planHash ← hashExecutorExecutionPlan plan
  let draftPermit : WorkspaceWriteProviderExecutionPermitV2 :=
    { input.toWriteBounds with
      permitId := input.permitId.getD (js "workspace_write_permit_v2_" ++ plan.planId)
      taskId := plan.taskId
      taskHash := plan.taskHash
      runId := plan.runId
      planId := plan.planId
      planHash
      providerExecutionPlanHash :=
        plan.providerExecutionPlanHash.getD (List.replicate 64 (cu '0'))
      providerId := plan.providerId
      providerManifestHash := hashProviderManifest manifest
      policyDecisionHash := plan.policyDecisionHash.getD "missing_policy_decision_hash"
      principalId := plan.principalId
      principalHash := plan.principalHash.getD (List.replicate 64 (cu '0'))
      sandboxProfileId := plan.sandboxProfile.sandboxId
      status
      approvalStatus := input.approvalStatus.getD .pending
      operatorAuthorizationId := input.operatorAuthorizationId
      targetFiles
      rollback
      reasons
      issuedAt := input.issuedAt
      expiresAt
      nonce := []
      consumedAt := none }
  workspaceWriteProviderExecutionPermitV2Schema.parse
    (workspaceWriteProviderExecutionPermitV2Schema.write
      { draftPermit with nonce := createV2Nonce draftPermit planHash })

def createApprovedProviderExecutionPermit (input : ProviderExecutionPermitIssueInput) :
    Result ProviderExecutionPermit := do
  let plan ← executorExecutionPlanSchema.parse input.plan
  let reasons := readOnlyIssuanceBlockers plan input.approvalStatus
  if reasons ≠ [] then
    fail (js "provider_execution_permit_not_approvable:" ++ join (cu ',') reasons)
  else createProviderExecutionPermit input .approved []

def createApprovedWorkspaceWriteProviderExecutionPermit (input : WorkspaceWriteIssueInput) :
    Result WorkspaceWriteProviderExecutionPermit := do
  let plan ← executorExecutionPlanSchema.parse input.plan
  let manifest ← providerManifestSchema.parse input.manifest
  let reasons ← workspaceWriteIssuanceBlockers plan manifest input
  if reasons ≠ [] then
    fail (writePrefix ++ js "_not_approvable:" ++ join (cu ',') reasons)
  else createWorkspaceWriteProviderExecutionPermit input .approved []

def createApprovedWorkspaceWriteProviderExecutionPermitV2 (input : WorkspaceWriteV2IssueInput) :
    Result WorkspaceWriteProviderExecutionPermitV2 := do
  let plan ← executorExecutionPlanSchema.parse input.plan
  let manifest ← providerManifestSchema.parse input.manifest
  let reasons ← workspaceWriteV2IssuanceBlockers plan manifest input
  if reasons ≠ [] then
    fail (writeV2Prefix ++ js "_not_approvable:" ++ join (cu ',') reasons)
  else createWorkspaceWriteProviderExecutionPermitV2 input .approved []

end

end

end CodexRouter.Provider
