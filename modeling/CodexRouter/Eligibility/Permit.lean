import CodexRouter.Capability.Scope
import CodexRouter.Provider.Manifest

/-!
# Policy decisions and approval permits

A permit names the digest of a policy decision and approves scopes.
-/

open Js

namespace CodexRouter.Eligibility

open Kernel Capability Provider

/-! ## Policy decisions -/

inductive TaskClass where
  | readOnly | smallEdit | engineering | highRisk | releaseExternalAction
  deriving DecidableEq

inductive ReasoningEffort where
  | low | medium | high
  deriving DecidableEq

inductive HostRoute where
  | desktop | codexCli
  deriving DecidableEq

def TaskClass.text : TaskClass → Str
  | readOnly => js "read_only"
  | smallEdit => js "small_edit"
  | engineering => js "engineering"
  | highRisk => js "high_risk"
  | releaseExternalAction => js "release_external_action"

def ReasoningEffort.text : ReasoningEffort → Str
  | low => js "low"
  | medium => js "medium"
  | high => js "high"

def HostRoute.text : HostRoute → Str
  | desktop => js "desktop"
  | codexCli => js "codex-cli"

/-- `classification`; its risk level is one of the three levels of an effort. -/
structure PolicyClassification where
  taskClass : TaskClass
  riskLevel : ReasoningEffort
  ambiguityScore : Js.Num
  clarificationRequired : Bool
  riskFactors : List Str
  deriving DecidableEq

structure PolicyRisk where
  level : GovernanceRiskLevel
  factors : List Str
  ambiguityScore : Js.Num
  clarificationRequired : Bool
  deriving DecidableEq

structure PolicyExecution where
  executor : Str
  model : Option Str
  profile : Option Str
  reasoningEffort : Option ReasoningEffort
  sandbox : SandboxProfile
  deriving DecidableEq

structure PolicyApproval where
  required : Bool
  reasons : List Str
  deriving DecidableEq

structure PolicyParallelism where
  allowed : Bool
  maxAgents : Js.Num
  mode : Str
  deriving DecidableEq

structure PolicyLegacy where
  routingDecisionId : Option Str
  taskClass : Option Str
  toolAccess : Option Str
  deriving DecidableEq

structure PolicyDecision where
  decisionId : Str
  taskId : Str
  policyVersion : Str
  classification : Option PolicyClassification
  risk : PolicyRisk
  execution : PolicyExecution
  capabilities : List CapabilityScope
  approval : PolicyApproval
  parallelism : PolicyParallelism
  hostRoute : Option HostRoute
  /-- `metadata`, whose only member is `legacy`. -/
  metadata : Option (Option Record)
  createdAt : Str
  legacy : PolicyLegacy
  deriving DecidableEq

def PolicyClassification.toJson (c : PolicyClassification) : Json :=
  .obj [(js "taskClass", .str c.taskClass.text), (js "riskLevel", .str c.riskLevel.text),
    (js "ambiguityScore", .num c.ambiguityScore),
    (js "clarificationRequired", .bool c.clarificationRequired),
    (js "riskFactors", strings c.riskFactors)]

def PolicyRisk.toJson (risk : PolicyRisk) : Json :=
  .obj [(js "level", .str risk.level.text), (js "factors", strings risk.factors),
    (js "ambiguityScore", .num risk.ambiguityScore),
    (js "clarificationRequired", .bool risk.clarificationRequired)]

def PolicyExecution.toJson (execution : PolicyExecution) : Json :=
  .obj ([(js "executor", .str execution.executor)]
    ++ Json.member? "model" (execution.model.map .str)
    ++ Json.member? "profile" (execution.profile.map .str)
    ++ Json.member? "reasoningEffort" (execution.reasoningEffort.map fun e => .str e.text)
    ++ [(js "sandbox", sandboxProfileSchema.write execution.sandbox)])

def PolicyLegacy.toJson (legacy : PolicyLegacy) : Json :=
  .obj (Json.member? "routingDecisionId" (legacy.routingDecisionId.map .str)
    ++ Json.member? "taskClass" (legacy.taskClass.map .str)
    ++ Json.member? "toolAccess" (legacy.toolAccess.map .str))

def PolicyDecision.members (decision : PolicyDecision) : Record :=
  [(js "schemaVersion", .str "policy-decision.v1"), (js "decisionId", .str decision.decisionId),
    (js "taskId", .str decision.taskId), (js "policyVersion", .str decision.policyVersion)]
    ++ Json.member? "classification" (decision.classification.map (·.toJson))
    ++ [(js "risk", decision.risk.toJson), (js "execution", decision.execution.toJson),
      (js "capabilities", .arr (decision.capabilities.map (·.toJson))),
      (js "approval", .obj [(js "required", .bool decision.approval.required),
        (js "reasons", strings decision.approval.reasons)]),
      (js "parallelism", .obj [(js "allowed", .bool decision.parallelism.allowed),
        (js "maxAgents", .num decision.parallelism.maxAgents),
        (js "mode", .str decision.parallelism.mode)])]
    ++ Json.member? "hostRoute" (decision.hostRoute.map fun route => .str route.text)
    ++ Json.member? "metadata" (decision.metadata.map fun legacy =>
      .obj (Json.member? "legacy" (legacy.map .obj)))
    ++ [(js "createdAt", .str decision.createdAt), (js "legacy", decision.legacy.toJson)]

/-! ## Permits -/

structure ApprovalPermit where
  permitId : Str
  taskId : Str
  runId : Str
  principalId : Option Str
  decisionHash : Str
  policyDecisionHash : Option Str
  planHash : Str
  scopes : List CapabilityScope
  capabilityScopes : List Str
  expiresAt : Str
  revokedAt : Option Str

structure ApprovalPermitValidationContext where
  taskId : Str
  runId : Str
  principalId : Str
  policyDecisionHash : Str
  planHash : Str
  requestedCapabilityScopes : List Str
  now : Str

structure ApprovalPermitValidationResult where
  valid : Bool
  reasons : List Str
  missingCapabilityScopes : List Str
  matchedCapabilityScopes : List Str
  deriving DecidableEq

def getPolicyDecisionHash (permit : ApprovalPermit) : Str :=
  permit.policyDecisionHash.getD permit.decisionHash

def getCapabilityScopes (permit : ApprovalPermit) : Result (List Str) :=
  if permit.capabilityScopes ≠ [] then .ok permit.capabilityScopes
  else permit.scopes.mapM capabilityScopeToCanonicalString

/-- An empty permitted scope implies nothing, so the scope found is truthy. -/
def isPermitted (permittedScopes : List Str) (requestedScope : Str) : Bool :=
  permittedScopes.any fun permitScope =>
    (capabilityImplies permitScope requestedScope).orElse false

section

variable [Runtime]

def hashApprovalScope (input : Json) : Str := Runtime.sha256 input.stableStringify

def permitReasons (permit : ApprovalPermit) (context : ApprovalPermitValidationContext)
    (missingCapabilityScopes : List Str) : List Str :=
  let expiresAtTime := Runtime.dateParse permit.expiresAt
  let nowTime := Runtime.dateParse context.now
  (if permit.taskId ≠ context.taskId then [js "task_id_mismatch"] else [])
    ++ (if permit.runId ≠ context.runId then [js "run_id_mismatch"] else [])
    ++ (if permit.principalId ≠ some context.principalId then [js "principal_id_mismatch"] else [])
    ++ (if getPolicyDecisionHash permit ≠ context.policyDecisionHash then
      [js "policy_decision_hash_mismatch"] else [])
    ++ (if permit.planHash ≠ context.planHash then [js "plan_hash_mismatch"] else [])
    ++ (if expiresAtTime.isNone then [js "invalid_permit_expires_at"] else [])
    ++ (if nowTime.isNone then [js "invalid_validation_now"] else [])
    ++ (match expiresAtTime, nowTime with
      | some expiresAt, some now => if expiresAt ≤ now then [js "permit_expired"] else []
      | _, _ => [])
    ++ (if (permit.revokedAt.filter (· ≠ [])).isSome then [js "permit_revoked"] else [])
    ++ (if missingCapabilityScopes ≠ [] then [js "missing_capability_scope"] else [])

def validateApprovalPermit (permit : ApprovalPermit) (context : ApprovalPermitValidationContext) :
    Result ApprovalPermitValidationResult := do
  let permittedScopes ← getCapabilityScopes permit
  let missing := context.requestedCapabilityScopes.filter fun scope =>
    !isPermitted permittedScopes scope
  let reasons := permitReasons permit context missing
  return {
    valid := reasons = []
    reasons := distinct reasons
    missingCapabilityScopes := missing
    matchedCapabilityScopes := context.requestedCapabilityScopes.filter fun scope =>
      isPermitted permittedScopes scope }

end

end CodexRouter.Eligibility
