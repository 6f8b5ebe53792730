import CodexRouter.Provider.Issuance

/-!
# Validating permits

The three validations collect their reasons in the order of the checks.
-/

open Js CodexRouter.Kernel

namespace CodexRouter.Provider

structure ValidationOptions where
  reasonPrefix : Option Str
  now : Option Str

/-- A field that differs, with both its values. -/
def differs (before name permitted planned : Str) : List Str :=
  reasonIf (permitted ≠ planned)
    (before ++ js "_" ++ name ++ js "_mismatch:" ++ permitted ++ js ":" ++ planned)

/-- A field of both that differs, and one of the plan that the permit lacks. -/
def optionDiffers (permitted planned : Option Str) (mismatch required : Str) : List Str :=
  (match permitted, planned with
    | some permitted, some planned => reasonIf (permitted ≠ planned) mismatch
    | _, _ => [])
    ++ reasonIf (planned.isSome && permitted.isNone) required

/-- A field that both must have and share. -/
def bothDiffer (permitted planned : Option Str) (required mismatch : Str) : List Str :=
  match permitted, planned with
  | some permitted, some planned => reasonIf (permitted ≠ planned) mismatch
  | _, _ => [required]

def normalizeProviderCoreError [PermitHost] : Thrown → Str
  | .error message => message
  | .schema issues => PermitHost.zodMessage issues

section

variable [Runtime]

def validateTimestamps (issuedAt expiresAt before : Str) (now : Option Str) : List Str :=
  let issuedAtMs := Runtime.dateParse issuedAt
  let expiresAtMs := Runtime.dateParse expiresAt
  reasonIf issuedAtMs.isNone (before ++ js "_issued_at_invalid")
    ++ reasonIf expiresAtMs.isNone (before ++ js "_expires_at_invalid")
    ++ (match issuedAtMs, expiresAtMs with
      | some issuedAtMs, some expiresAtMs =>
        reasonIf (expiresAtMs ≤ issuedAtMs) (before ++ js "_expires_at_not_after_issued_at")
      | _, _ => [])
    ++ (match now with
      | none => []
      | some now =>
        match Runtime.dateParse now with
        | none => [before ++ js "_validation_time_invalid"]
        | some nowMs =>
          reasonIf (issuedAtMs.any fun issuedAtMs => issuedAtMs > nowMs + 60000)
              (before ++ js "_issued_at_in_future")
            ++ reasonIf (expiresAtMs.any fun expiresAtMs => expiresAtMs ≤ nowMs)
              (before ++ js "_expired"))

/-! ## Reading -/

def readOnlyReasons (before : Str) (permit : ProviderExecutionPermit) (plan : ExecutorExecutionPlan)
    (manifest : ProviderManifest) (expectedPlanHash expectedNonce : Str) (now : Option Str) :
    List Str :=
  distinct
    (reasonIf (permit.status ≠ .approved) (before ++ js "_not_approved:" ++ permit.status.text)
      ++ reasonIf (permit.approvalStatus ≠ .notRequired)
        (before ++ js "_approval_status_must_be_not_required:" ++ permit.approvalStatus.text)
      ++ reasonIf permit.consumedAt.isSome (before ++ js "_already_consumed")
      ++ differs before "provider" permit.providerId plan.providerId
      ++ differs before "task" permit.taskId plan.taskId
      ++ optionDiffers permit.taskHash plan.taskHash (before ++ js "_task_hash_mismatch")
        (before ++ js "_task_hash_required")
      ++ differs before "run" permit.runId plan.runId
      ++ differs before "plan" permit.planId plan.planId
      ++ reasonIf (permit.planHash ≠ expectedPlanHash) (before ++ js "_plan_hash_mismatch")
      ++ reasonIf (permit.nonce ≠ expectedNonce) (before ++ js "_nonce_mismatch")
      ++ optionDiffers permit.providerExecutionPlanHash plan.providerExecutionPlanHash
        (before ++ js "_provider_plan_hash_mismatch") (before ++ js "_provider_plan_hash_required")
      ++ optionDiffers permit.principalId plan.principalId
        (before ++ js "_principal_mismatch:" ++ permit.principalId.getD [] ++ js ":"
          ++ plan.principalId.getD []) (before ++ js "_principal_required")
      ++ optionDiffers permit.principalHash plan.principalHash
        (before ++ js "_principal_hash_mismatch") (before ++ js "_principal_hash_required")
      ++ differs before "side_effect" permit.sideEffectClass.text plan.sideEffectClass.text
      ++ differs before "sandbox" permit.sandboxProfileId plan.sandboxProfile.sandboxId
      ++ reasonIf (permit.providerManifestHash ≠ hashProviderManifest manifest)
        (before ++ js "_manifest_mismatch")
      ++ reasonIf (plan.providerManifestHash.any (permit.providerManifestHash ≠ ·))
        (before ++ js "_plan_manifest_hash_mismatch")
      ++ bothDiffer permit.policyDecisionHash plan.policyDecisionHash
        (before ++ js "_policy_hash_required") (before ++ js "_policy_mismatch")
      ++ validateTimestamps permit.issuedAt permit.expiresAt before now)

variable [PermitHost]

def validateProviderExecutionPermitForPlan (permitInput planInput manifestInput : Json)
    (options : ValidationOptions) : Result (List Str) :=
  let before := options.reasonPrefix.getD "provider_execution_permit"
  match providerExecutionPermitSchema.parse permitInput with
  | .error e => .ok [before ++ js "_invalid:" ++ normalizeProviderCoreError e]
  | .ok permit => do
    let plan ← executorExecutionPlanSchema.parse planInput
    let manifest ← providerManifestSchema.parse manifestInput
    let expectedPlanHash ← hashExecutorExecutionPlan plan
    let expectedNonce ← createProviderPermitNonce plan permit.issuedAt permit.expiresAt
    return readOnlyReasons before permit plan manifest expectedPlanHash expectedNonce options.now

/-! ## Writing, the first version -/

/-- What both versions ask of the plan. -/
def writePlanReasons (before : Str) (sandboxProfileId : Str) (plan : ExecutorExecutionPlan) :
    List Str :=
  differs before "side_effect" "workspace_write" plan.sideEffectClass.text
    ++ reasonIf (plan.sideEffectClass ≠ .workspaceWrite)
      (before ++ js "_requires_workspace_write_side_effect")
    ++ differs before "sandbox" sandboxProfileId plan.sandboxProfile.sandboxId
    ++ reasonIf (plan.sandboxProfile.mode ≠ .workspaceWrite)
      (before ++ js "_requires_workspace_write_sandbox")

omit [PermitHost] in
/-- The governance blockers keep their own prefix. -/
def workspaceWriteReasons (before : Str) (permit : WorkspaceWriteProviderExecutionPermit)
    (plan : ExecutorExecutionPlan) (manifest : ProviderManifest) : List Str :=
  distinct
    (reasonIf (permit.status ≠ .approved) (before ++ js "_not_approved:" ++ permit.status.text)
      ++ differs before "provider" permit.providerId plan.providerId
      ++ differs before "task" permit.taskId plan.taskId
      ++ permit.runId.toList.flatMap (differs before "run" · plan.runId)
      ++ permit.planId.toList.flatMap (differs before "plan" · plan.planId)
      ++ writePlanReasons before permit.sandboxProfileId plan
      ++ reasonIf (permit.providerManifestHash.any (· ≠ hashProviderManifest manifest))
        (before ++ js "_manifest_mismatch")
      ++ reasonIf (permit.policyDecisionHash.any (some · ≠ plan.policyDecisionHash))
        (before ++ js "_policy_mismatch")
      ++ governanceBlockers permit.toWriteBounds writePrefix)

def validateWorkspaceWriteProviderExecutionPermitForPlan
    (permitInput planInput manifestInput : Json) (options : ValidationOptions) :
    Result (List Str) :=
  let before := options.reasonPrefix.getD writePrefix
  match workspaceWriteProviderExecutionPermitSchema.parse permitInput with
  | .error e => .ok [before ++ js "_invalid:" ++ normalizeProviderCoreError e]
  | .ok permit => do
    let plan ← executorExecutionPlanSchema.parse planInput
    let manifest ← providerManifestSchema.parse manifestInput
    return workspaceWriteReasons before permit plan manifest

/-! ## Writing, the second version -/

variable [Collation]

omit [PermitHost] in
/-- `getWorkspaceWriteProviderExecutionPermitV2RollbackBlockers(permit, prefix)`. -/
def rollbackBlockers (permit : WorkspaceWriteProviderExecutionPermitV2) (before : Str) :
    List Str :=
  let targetFiles := normalizePathList permit.targetFiles
  let affectedFiles := normalizePathList permit.rollback.commandIdentity.affectedFiles
  distinct
    (beforeCommitReasons before permit.repositoryState.headCommit permit.rollback.beforeCommit
      ++ reasonIf (!sameStringSet targetFiles affectedFiles)
        (before ++ js "_rollback_affected_files_mismatch")
      ++ reasonIf (affectedFiles.any fun file => !isSafeWorkspaceRelativeFilePath file)
        (before ++ js "_rollback_affected_file_out_of_bounds")
      ++ reasonIf (permit.rollback.commandIdentity.commandHash ≠
          rollbackCommandHash permit.rollback.beforeCommit affectedFiles)
        (before ++ js "_rollback_command_hash_mismatch"))

/-- A hash that the plan must have and the permit must repeat. -/
def requiredDiffers (permitted : Str) (planned : Option Str) (required mismatch : Str) : List Str :=
  match planned with
  | none => [required]
  | some planned => reasonIf (permitted ≠ planned) mismatch

omit [PermitHost] in
def workspaceWriteV2Reasons (before : Str) (permit : WorkspaceWriteProviderExecutionPermitV2)
    (plan : ExecutorExecutionPlan) (manifest : ProviderManifest) (expectedPlanHash : Str)
    (supported : Bool) (now : Option Str) : List Str :=
  distinct
    (reasonIf (permit.status ≠ .approved) (before ++ js "_not_approved:" ++ permit.status.text)
      ++ reasonIf (permit.approvalStatus ≠ .approved)
        (before ++ js "_approval_required:" ++ permit.approvalStatus.text)
      ++ reasonIf permit.consumedAt.isSome (before ++ js "_already_consumed")
      ++ differs before "provider" permit.providerId plan.providerId
      ++ differs before "task" permit.taskId plan.taskId
      ++ optionDiffers permit.taskHash plan.taskHash (before ++ js "_task_hash_mismatch")
        (before ++ js "_task_hash_required")
      ++ differs before "run" permit.runId plan.runId
      ++ differs before "plan" permit.planId plan.planId
      ++ reasonIf (permit.planHash ≠ expectedPlanHash) (before ++ js "_plan_hash_mismatch")
      ++ requiredDiffers permit.providerExecutionPlanHash plan.providerExecutionPlanHash
        (before ++ js "_provider_plan_hash_required") (before ++ js "_provider_plan_hash_mismatch")
      ++ reasonIf (permit.providerManifestHash ≠ hashProviderManifest manifest)
        (before ++ js "_manifest_mismatch")
      ++ reasonIf (plan.providerManifestHash.any (permit.providerManifestHash ≠ ·))
        (before ++ js "_plan_manifest_hash_mismatch")
      ++ requiredDiffers permit.policyDecisionHash plan.policyDecisionHash
        (before ++ js "_policy_hash_required") (before ++ js "_policy_mismatch")
      ++ optionDiffers permit.principalId plan.principalId
        (before ++ js "_principal_mismatch:" ++ permit.principalId.getD [] ++ js ":"
          ++ plan.principalId.getD []) (before ++ js "_principal_required")
      ++ requiredDiffers permit.principalHash plan.principalHash
        (before ++ js "_principal_hash_required") (before ++ js "_principal_hash_mismatch")
      ++ writePlanReasons before permit.sandboxProfileId plan
      ++ reasonIf (!providerSupportsSideEffectClass manifest .workspaceWrite)
        (before ++ js "_manifest_side_effect_unsupported")
      ++ reasonIf (!supported) (before ++ js "_manifest_sandbox_unsupported")
      ++ reasonIf (permit.operatorAuthorizationId.getD [] = [])
        (before ++ js "_operator_authorization_required")
      ++ governanceBlockers permit.toWriteBounds before
      ++ rollbackBlockers permit before
      ++ reasonIf (permit.nonce ≠ createV2Nonce permit expectedPlanHash)
        (before ++ js "_nonce_mismatch")
      ++ validateTimestamps permit.issuedAt permit.expiresAt before now)

def validateWorkspaceWriteProviderExecutionPermitV2ForPlan
    (permitInput planInput manifestInput : Json) (options : ValidationOptions) :
    Result (List Str) :=
  let before := options.reasonPrefix.getD writeV2Prefix
  match workspaceWriteProviderExecutionPermitV2Schema.parse permitInput with
  | .error e => .ok [before ++ js "_invalid:" ++ normalizeProviderCoreError e]
  | .ok permit => do
    let plan ← executorExecutionPlanSchema.parse planInput
    let manifest ← providerManifestSchema.parse manifestInput
    let expectedPlanHash ← hashExecutorExecutionPlan plan
    let supported ← providerSupportsSandboxProfile manifest
      (sandboxProfileSchema.write plan.sandboxProfile)
    return workspaceWriteV2Reasons before permit plan manifest expectedPlanHash supported options.now

end

end CodexRouter.Provider
