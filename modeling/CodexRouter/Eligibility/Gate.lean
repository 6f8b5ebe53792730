import CodexRouter.Eligibility.Admission
import CodexRouter.Eligibility.Grants

/-!
# Execution eligibility

The gate of the kernel: admission, then the grants, then the permits. A permit approves and cannot
stand in for a grant.
-/

open Js

namespace CodexRouter.Eligibility

open Kernel Capability

inductive ExecutionEligibilityStatus where
  | eligible | blocked | waitingApproval
  deriving DecidableEq

structure ExecutionEligibilityDecision where
  status : ExecutionEligibilityStatus
  taskId : Str
  runId : Str
  policyDecisionHash : Str
  reasons : List Str
  missingCapabilities : List Str
  requiredApprovals : List Str
  acceptedPermits : List Str
  rejectedPermits : List Str
  createdAt : Str

structure EvaluateExecutionEligibilityInput where
  task : Task
  run : Run
  principal : Principal
  policyDecision : JudgedPolicyDecision
  capabilityGrants : List CapabilityGrantLike
  approvalPermits : List ApprovalPermit
  requestedScopes : List Str
  planHash : Str
  now : Str

def isTerminalRunStatus : RunStatus → Bool
  | .succeeded | .failed | .cancelled => true
  | _ => false

def capabilityFailureReasons (result : CapabilityCheckResult) : List Str :=
  result.reasons ++ result.ignoredGrantReasons

/-- A result that a deny scope matched. -/
def isDenied (result : CapabilityCheckResult) : Bool :=
  result.reasons.contains (js "matched_deny_scope")

section

variable [Runtime]

/-- A permit with what it gives; the two gates write a rejection differently. -/
def judgePermits (permits : List ApprovalPermit) (context : ApprovalPermitValidationContext) :
    Result (List (ApprovalPermit × ApprovalPermitValidationResult)) :=
  permits.mapM fun permit => do return (permit, ← validateApprovalPermit permit context)

structure PermitEvaluation where
  acceptedPermits : List Str
  rejectedPermits : List Str

/-- The loop of `evaluatePermits` and `evaluateApprovalPermits`. -/
def sortPermits (before : Str) (permits : List ApprovalPermit)
    (context : ApprovalPermitValidationContext) : Result PermitEvaluation := do
  let judged ← judgePermits permits context
  return {
    acceptedPermits := (judged.filter (·.2.valid)).map (·.1.permitId)
    rejectedPermits := (judged.filter (!·.2.valid)).map fun (permit, validation) =>
      before ++ permit.permitId ++ js ":" ++ join (cu ',') validation.reasons }

def evaluatePermits (input : EvaluateExecutionEligibilityInput)
    (requestedCapabilityScopes : List Str) : Result PermitEvaluation :=
  sortPermits [] input.approvalPermits {
    taskId := input.task.taskId
    runId := input.run.runId
    principalId := input.principal.principalId
    policyDecisionHash := hashApprovalScope input.policyDecision.toJson
    planHash := input.planHash
    requestedCapabilityScopes
    now := input.now }

def createBaseDecision (input : EvaluateExecutionEligibilityInput) :
    ExecutionEligibilityDecision where
  status := .blocked
  taskId := input.task.taskId
  runId := input.run.runId
  policyDecisionHash := hashApprovalScope input.policyDecision.toJson
  reasons := []
  missingCapabilities := []
  requiredApprovals := []
  acceptedPermits := []
  rejectedPermits := []
  createdAt := input.now

omit [Runtime] in
/-- What is requested and what the policy decision adds. -/
def effectiveRequestedScopes (input : EvaluateExecutionEligibilityInput) : Result (List Str) := do
  let added ← input.policyDecision.capabilities.mapM capabilityScopeToCanonicalString
  return distinct (input.requestedScopes ++ added)

def EvaluateExecutionEligibilityInput.checkOptions (input : EvaluateExecutionEligibilityInput) :
    CapabilityCheckOptions where
  principalId := input.principal.principalId
  taskId := input.task.taskId
  runId := input.run.runId
  now := input.now

/-- What follows the admission of the task. -/
def decideByGrants (input : EvaluateExecutionEligibilityInput) (admission : AdmissionDecision) :
    Result ExecutionEligibilityDecision := do
  let base := createBaseDecision input
  let effectiveRequestedScopes ← effectiveRequestedScopes input
  let capabilityResults ← effectiveRequestedScopes.mapM fun scope =>
    explainCapabilityDecision input.capabilityGrants scope input.checkOptions
  let denyResults := capabilityResults.filter isDenied
  if denyResults ≠ [] then
    return { base with
      reasons := distinct (js "capability_deny" :: denyResults.flatMap (·.reasons))
      missingCapabilities := denyResults.map (·.requestedScope) }
  else do
    let missing := capabilityResults.filter (!·.allowed)
    let missingCapabilities := missing.map (·.requestedScope)
    let nonCapabilityApprovals := admission.requiredApprovals.filter fun approval =>
      !startsWith approval "capability:"
    let approvalRequired := nonCapabilityApprovals ≠ [] || missingCapabilities ≠ []
    let permitEvaluation ← evaluatePermits input effectiveRequestedScopes
    if missingCapabilities ≠ [] then
      return { base with
        status := .waitingApproval
        reasons := distinct ([js "missing_capability", js "capability_grant_required"]
          ++ (if permitEvaluation.acceptedPermits ≠ [] then
            [js "approval_permit_cannot_expand_capability"] else [])
          ++ missing.flatMap capabilityFailureReasons)
        missingCapabilities
        requiredApprovals := distinct (admission.requiredApprovals
          ++ missingCapabilities.map (js "approval:" ++ ·))
        rejectedPermits := distinct (permitEvaluation.rejectedPermits
          ++ permitEvaluation.acceptedPermits.map (· ++ js ":permit_cannot_expand_capability")) }
    else if approvalRequired && permitEvaluation.acceptedPermits = [] then
      return { base with
        status := .waitingApproval
        reasons := distinct (js "approval_required" :: admission.reasons)
        missingCapabilities
        requiredApprovals := distinct (admission.requiredApprovals
          ++ effectiveRequestedScopes.map (js "approval:" ++ ·))
        rejectedPermits := permitEvaluation.rejectedPermits }
    else if permitEvaluation.acceptedPermits ≠ [] then
      return { base with
        status := .eligible
        reasons := [js "valid_approval_permit"]
        acceptedPermits := permitEvaluation.acceptedPermits
        rejectedPermits := permitEvaluation.rejectedPermits }
    else
      return { base with
        status := .eligible
        reasons := [js "capability_grants_satisfied"]
        rejectedPermits := permitEvaluation.rejectedPermits }

def evaluateExecutionEligibility (input : EvaluateExecutionEligibilityInput) :
    Result ExecutionEligibilityDecision :=
  let base := createBaseDecision input
  let admission := evaluateTaskAdmission {
    task := input.task
    principal := some input.principal
    agent := none
    policyDecision := some input.policyDecision
    now := some input.now }
  if isTerminalRunStatus input.run.status then
    .ok { base with reasons := [js "run_terminal:" ++ input.run.status.text] }
  else if admission.status = .rejected then
    .ok { base with
      reasons := distinct (js "admission_rejected" :: admission.reasons)
      requiredApprovals := admission.requiredApprovals }
  else if admission.status = .needsClarification then
    .ok { base with
      reasons := distinct (js "admission_needs_clarification" :: admission.reasons)
      requiredApprovals := admission.requiredApprovals }
  else if isPolicyBlocked input.policyDecision then
    .ok { base with reasons := [js "policy_blocked"] }
  else decideByGrants input admission

end

end CodexRouter.Eligibility
