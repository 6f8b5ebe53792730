import CodexRouter.Eligibility.Gate
import CodexRouter.Js.Valid

/-!
# Planning a tool invocation

The gate of the tools: the manifest of the tool, the integrity of the run, the sandbox, then the
grants and the permits.
-/

open Js

namespace CodexRouter.Eligibility

open Kernel Capability Provider

/-! ## Tool manifests -/

inductive ToolProvider where
  | builtin | local | mcp | remote
  deriving DecidableEq

inductive ToolSideEffectClass where
  | none | read | localWrite | externalWrite | destructive | secretAccess | unknown
  deriving DecidableEq

inductive Retention where
  | none | ephemeral | run | workspace
  deriving DecidableEq

def ToolProvider.text : ToolProvider → Str
  | builtin => js "builtin"
  | «local» => js "local"
  | mcp => js "mcp"
  | remote => js "remote"

def ToolSideEffectClass.text : ToolSideEffectClass → Str
  | none => js "none"
  | read => js "read"
  | localWrite => js "local_write"
  | externalWrite => js "external_write"
  | destructive => js "destructive"
  | secretAccess => js "secret_access"
  | unknown => js "unknown"

def Retention.text : Retention → Str
  | none => js "none"
  | ephemeral => js "ephemeral"
  | run => js "run"
  | workspace => js "workspace"

structure ToolAuditPolicy where
  recordInvocation : Bool
  recordInput : Bool
  recordOutput : Bool
  retention : Retention

structure ToolRedactionPolicy where
  redactInput : Bool
  redactOutput : Bool
  secretKeys : List Str

structure RegisteredToolManifest where
  toolId : Str
  provider : ToolProvider
  inputSchema : Record
  outputSchema : Record
  sideEffectClass : ToolSideEffectClass
  requiredCapabilities : List Str
  defaultTimeoutMs : Js.Num
  auditPolicy : ToolAuditPolicy
  redactionPolicy : ToolRedactionPolicy
  serverRef : Option Str
  endpointRef : Option Str
  metadata : Record

def isDangerousSideEffectClass : ToolSideEffectClass → Bool
  | .localWrite | .externalWrite | .destructive | .secretAccess | .unknown => true
  | _ => false

def toolAuditPolicySchema : Schema ToolAuditPolicy :=
  .object
    ((Fields.cons (js "recordInvocation") (.default .boolean true (Schema.valid_boolean true)) <|
      .cons (js "recordInput") (.default .boolean false (Schema.valid_boolean false)) <|
      .cons (js "recordOutput") (.default .boolean false (Schema.valid_boolean false)) <|
      .cons (js "retention") (.default (.enum [.none, .ephemeral, .run, .workspace] Retention.text
        (by intro a; cases a <;> decide)) .run (.intro rfl)) .nil).via
      { toFun := fun (recordInvocation, recordInput, recordOutput, retention, ()) =>
          ⟨recordInvocation, recordInput, recordOutput, retention⟩
        invFun := fun policy => (policy.recordInvocation, policy.recordInput, policy.recordOutput,
          policy.retention, ())
        left_inv := fun _ => rfl
        right_inv := fun _ => rfl })
    (by decide)

def toolRedactionPolicySchema : Schema ToolRedactionPolicy :=
  .object
    ((Fields.cons (js "redactInput") (.default .boolean true (Schema.valid_boolean true)) <|
      .cons (js "redactOutput") (.default .boolean true (Schema.valid_boolean true)) <|
      .cons (js "secretKeys") nonEmptyStringsSlot .nil).via
      { toFun := fun (redactInput, redactOutput, secretKeys, ()) =>
          ⟨redactInput, redactOutput, secretKeys⟩
        invFun := fun policy => (policy.redactInput, policy.redactOutput, policy.secretKeys, ())
        left_inv := fun _ => rfl
        right_inv := fun _ => rfl })
    (by decide)

/-- A member that is an object. -/
def hasRecord (metadata : Record) (key : Str) : Bool :=
  match Json.get? metadata key with
  | some (.obj _) => true
  | _ => false

/-- `RegisteredToolManifestSchema`. -/
def registeredToolManifestSchema : Schema RegisteredToolManifest :=
  (Schema.object
    ((Fields.cons (js "schemaVersion") (versionSlot "tool-registry-manifest.v1") <|
      .cons (js "toolId") (.required .nonEmptyString) <|
      .cons (js "provider") (.required (.enum [.builtin, .local, .mcp, .remote] ToolProvider.text
        (by intro a; cases a <;> decide))) <|
      .cons (js "inputSchema") (.required .record) <|
      .cons (js "outputSchema") (.required .record) <|
      .cons (js "sideEffectClass") (.required (.enum [.none, .read, .localWrite, .externalWrite,
        .destructive, .secretAccess, .unknown] ToolSideEffectClass.text
        (by intro a; cases a <;> decide))) <|
      .cons (js "requiredCapabilities") nonEmptyStringsSlot <|
      .cons (js "defaultTimeoutMs") (.required .positiveInt) <|
      .cons (js "auditPolicy") (.required toolAuditPolicySchema) <|
      .cons (js "redactionPolicy") (.required toolRedactionPolicySchema) <|
      .cons (js "serverRef") (.optional .nonEmptyString) <|
      .cons (js "endpointRef") (.optional .nonEmptyString) <|
      .cons (js "metadata") recordSlot .nil).via
      { toFun := fun (_, toolId, provider, inputSchema, outputSchema, sideEffectClass,
          requiredCapabilities, defaultTimeoutMs, auditPolicy, redactionPolicy, serverRef,
          endpointRef, metadata, ()) =>
          { toolId, provider, inputSchema, outputSchema, sideEffectClass, requiredCapabilities,
            defaultTimeoutMs, auditPolicy, redactionPolicy, serverRef, endpointRef, metadata }
        invFun := fun manifest => ((), manifest.toolId, manifest.provider, manifest.inputSchema,
          manifest.outputSchema, manifest.sideEffectClass, manifest.requiredCapabilities,
          manifest.defaultTimeoutMs, manifest.auditPolicy, manifest.redactionPolicy,
          manifest.serverRef, manifest.endpointRef, manifest.metadata, ())
        left_inv := fun _ => rfl
        right_inv := fun _ => rfl })
    (by decide)).refine fun manifest =>
      require (!isDangerousSideEffectClass manifest.sideEffectClass
        || manifest.requiredCapabilities ≠ []) [js "requiredCapabilities"]
        "dangerous tools must declare requiredCapabilities"
      ++ require (manifest.provider ≠ .mcp || manifest.serverRef.isSome
        || hasRecord manifest.metadata "mcp") [js "serverRef"]
        "mcp provider requires serverRef or metadata.mcp"
      ++ require (manifest.provider ≠ .remote || manifest.endpointRef.isSome
        || hasRecord manifest.metadata "remote") [js "endpointRef"]
        "remote provider requires endpointRef or metadata.remote"

/-! ## Sandboxes -/

def deriveSandboxProfile (sideEffectClass : ToolSideEffectClass) : SandboxProfile :=
  let base : SandboxProfile :=
    { sandboxId := js "sandbox_tool_" ++ sideEffectClass.text
      mode := .readOnly
      networkAccess := .none
      writableRoots := []
      envPolicy := ⟨false, []⟩ }
  match sideEffectClass with
  | .localWrite => { base with mode := .workspaceWrite, writableRoots := [js "workspace"] }
  | .externalWrite => { base with networkAccess := .restricted }
  | _ => base

def sandboxModeImplies (policyMode requestedMode : SandboxMode) : Bool :=
  policyMode = requestedMode || policyMode = .dangerFullAccess
    || (policyMode = .workspaceWrite && requestedMode = .readOnly)

/-- Here the roots are compared as they are written. -/
def rawWritableRootImplies (grantedRoot requestedRoot : Str) : Bool :=
  if grantedRoot = requestedRoot || grantedRoot = js "*" then true
  else if endsWith grantedRoot recursiveWildcard then
    let pre := grantedRoot.take (grantedRoot.length - 3)
    requestedRoot = pre || startsWith requestedRoot (pre ++ js "/")
  else false

/-- The first part of the requested sandbox that the policy does not allow. -/
def explainToolSandboxPolicyMismatch (requested policySandboxInput : SandboxProfile) :
    Result (Option Str) := do
  let policySandbox ← sandboxProfileSchema.parse (sandboxProfileSchema.write policySandboxInput)
  if !sandboxModeImplies policySandbox.mode requested.mode then return some (js "mode")
  else if !networkAccessImplies policySandbox.networkAccess requested.networkAccess then
    return some (js "networkAccess")
  else if !requested.writableRoots.all fun root => policySandbox.writableRoots.any fun granted =>
      rawWritableRootImplies granted root then
    return some (js "writableRoots")
  else if !envPolicyImplies policySandbox.envPolicy requested.envPolicy then
    return some (js "envPolicy")
  else return none

/-! ## The plan -/

inductive ToolInvocationPlanStatus where
  | planned | blocked | waitingApproval
  deriving DecidableEq

structure ToolInvocationPlan where
  invocationId : Str
  runId : Str
  stepId : Str
  toolId : Str
  provider : ToolProvider
  inputHash : Str
  requiredCapabilities : List Str
  sideEffectClass : ToolSideEffectClass
  sandboxProfile : SandboxProfile
  approvalRequired : Bool
  status : ToolInvocationPlanStatus
  reasons : List Str

structure PlanToolInvocationInput where
  run : Run
  step : Step
  toolManifest : Json
  proposedInput : Json
  principal : Principal
  capabilityGrants : List CapabilityGrantLike
  approvalPermits : List ApprovalPermit
  policyDecision : PolicyDecision
  planHash : Str
  now : Str

def isTerminalStepStatus : StepStatus → Bool
  | .succeeded | .failed | .skipped | .cancelled => true
  | _ => false

def collectKernelIntegrityReasons (input : PlanToolInvocationInput) : List Str :=
  let run := input.run
  let step := input.step
  let policyDecision := input.policyDecision
  (if isTerminalRunStatus run.status then
      [js "tool_invocation_run_terminal:" ++ run.status.text] else [])
    ++ (if isTerminalStepStatus step.status then
      [js "tool_invocation_step_terminal:" ++ step.status.text] else [])
    ++ (if step.runId ≠ run.runId then
      [js "tool_invocation_step_run_mismatch:" ++ step.runId ++ js ":" ++ run.runId] else [])
    ++ (if step.taskId ≠ run.taskId then
      [js "tool_invocation_step_task_mismatch:" ++ step.taskId ++ js ":" ++ run.taskId] else [])
    ++ (if policyDecision.taskId ≠ run.taskId then
      [js "tool_invocation_policy_task_mismatch:" ++ policyDecision.taskId ++ js ":" ++ run.taskId]
      else [])
    ++ (run.policyDecisionId.toList.filter (· ≠ policyDecision.decisionId)).map fun decisionId =>
      js "tool_invocation_run_policy_decision_mismatch:" ++ decisionId ++ js ":"
        ++ policyDecision.decisionId

def PlanToolInvocationInput.checkOptions (input : PlanToolInvocationInput) :
    CapabilityCheckOptions where
  principalId := input.principal.principalId
  taskId := input.run.taskId
  runId := input.run.runId
  now := input.now

section

variable [Runtime]

def hashToolInvocationInput (input : Json) : Str := Runtime.sha256 input.stableStringify

def createInvocationId (runId stepId toolId inputHash : Str) : Str :=
  js "invocation_" ++ (Runtime.sha256 (Json.obj [(js "runId", .str runId), (js "stepId", .str stepId),
    (js "toolId", .str toolId), (js "inputHash", .str inputHash)]).stableStringify).take 24

def createBasePlan (input : PlanToolInvocationInput) (toolManifest : RegisteredToolManifest)
    (inputHash : Str) : ToolInvocationPlan where
  invocationId := createInvocationId input.run.runId input.step.stepId toolManifest.toolId inputHash
  runId := input.run.runId
  stepId := input.step.stepId
  toolId := toolManifest.toolId
  provider := toolManifest.provider
  inputHash
  requiredCapabilities := toolManifest.requiredCapabilities
  sideEffectClass := toolManifest.sideEffectClass
  sandboxProfile := deriveSandboxProfile toolManifest.sideEffectClass
  approvalRequired := input.policyDecision.approval.required
    || isDangerousSideEffectClass toolManifest.sideEffectClass
  status := .blocked
  reasons := []

/-- What a permit is asked for. -/
def PlanToolInvocationInput.permitContext (input : PlanToolInvocationInput)
    (requiredCapabilities : List Str) : ApprovalPermitValidationContext where
  taskId := input.run.taskId
  runId := input.run.runId
  principalId := input.principal.principalId
  policyDecisionHash := hashApprovalScope (.obj input.policyDecision.members)
  planHash := input.planHash
  requestedCapabilityScopes := requiredCapabilities
  now := input.now

def evaluateApprovalPermits (input : PlanToolInvocationInput) (requiredCapabilities : List Str) :
    Result PermitEvaluation :=
  sortPermits "permit_rejected:" input.approvalPermits (input.permitContext requiredCapabilities)

/-- What follows the denials. -/
def planByPermits (input : PlanToolInvocationInput) (basePlan : ToolInvocationPlan)
    (capabilityResults : List CapabilityCheckResult) : Result ToolInvocationPlan := do
  let missing := capabilityResults.filter (!·.allowed)
  let missingCapabilities := missing.map (·.requestedScope)
  let permitEvaluation ← evaluateApprovalPermits input basePlan.requiredCapabilities
  if missingCapabilities ≠ [] && permitEvaluation.acceptedPermits = [] then
    return { basePlan with
      status := .waitingApproval
      approvalRequired := true
      reasons := distinct (js "missing_capability" :: missing.flatMap capabilityFailureReasons
        ++ permitEvaluation.rejectedPermits) }
  else if basePlan.approvalRequired && permitEvaluation.acceptedPermits = [] then
    return { basePlan with
      status := .waitingApproval
      reasons := distinct (js "approval_required" :: input.policyDecision.approval.reasons
        ++ permitEvaluation.rejectedPermits) }
  else if permitEvaluation.acceptedPermits ≠ [] then
    return { basePlan with
      status := .planned
      reasons := distinct (js "valid_approval_permit" ::
        permitEvaluation.acceptedPermits.map (js "permit:" ++ ·)) }
  else
    return { basePlan with status := .planned, reasons := [js "capability_grants_satisfied"] }

def planToolInvocation (input : PlanToolInvocationInput) : Result ToolInvocationPlan := do
  let toolManifest ← registeredToolManifestSchema.parse input.toolManifest
  let basePlan := createBasePlan input toolManifest (hashToolInvocationInput input.proposedInput)
  let integrityReasons := collectKernelIntegrityReasons input
  if integrityReasons ≠ [] then
    return { basePlan with status := .blocked, reasons := distinct integrityReasons }
  else do
    let capabilityResults ← toolManifest.requiredCapabilities.mapM fun scope =>
      explainCapabilityDecision input.capabilityGrants scope input.checkOptions
    let denyResults := capabilityResults.filter isDenied
    let policySandbox := input.policyDecision.execution.sandbox
    match ← explainToolSandboxPolicyMismatch basePlan.sandboxProfile policySandbox with
    | some policySandboxMismatch =>
      return { basePlan with
        status := .blocked
        reasons := [js "tool_invocation_sandbox_exceeds_policy:" ++ policySandboxMismatch ++ js ":"
          ++ basePlan.sandboxProfile.sandboxId ++ js ":" ++ policySandbox.sandboxId] }
    | none =>
      if denyResults ≠ [] then
        return { basePlan with
          status := .blocked
          reasons := distinct (js "capability_deny" :: denyResults.flatMap (·.reasons)) }
      else planByPermits input basePlan capabilityResults

end

end CodexRouter.Eligibility
