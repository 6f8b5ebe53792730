import CodexRouter.Eligibility.Permit

/-!
# Admission of a task

The words of a task and its policy decision make a task rejected, unclear, in need of approval or
accepted.
-/

open Js

namespace CodexRouter.Eligibility

open Kernel Capability

inductive AdmissionStatus where
  | accepted | rejected | needsClarification | needsApproval
  deriving DecidableEq

structure AdmissionDecision where
  status : AdmissionStatus
  taskId : Str
  principalId : Str
  reasons : List Str
  riskSignals : List Str
  requiredCapabilities : List CapabilityScope
  requiredApprovals : List Str
  createdAt : Str

/-- `PolicyDecision & { status?: string; blocked?: boolean }`. -/
structure JudgedPolicyDecision extends PolicyDecision where
  status : Option Str
  blocked : Option Bool

def JudgedPolicyDecision.toJson (decision : JudgedPolicyDecision) : Json :=
  .obj (decision.members ++ Json.member? "status" (decision.status.map .str)
    ++ Json.member? "blocked" (decision.blocked.map .bool))

/-- An agent manifest is asked for its capabilities only. -/
structure EvaluateTaskAdmissionInput where
  task : Task
  principal : Option Principal
  agent : Option (List CapabilityScope)
  policyDecision : Option JudgedPolicyDecision
  now : Option Str

def isPolicyBlocked (policyDecision : JudgedPolicyDecision) : Bool :=
  let metadata := (policyDecision.metadata.bind id).getD []
  policyDecision.status = some (js "blocked")
    || policyDecision.blocked = some true
    || Json.get? metadata "status" = some (.str "blocked")
    || Json.get? metadata "blocked" = some (.bool true)

/-! ## Signals -/

/-- `String(value)` of a text, a number or a boolean. -/
def scalarText : Json → Option Str
  | .str s => some s
  | .num n => some n.1
  | .bool true => some (js "true")
  | .bool false => some (js "false")
  | _ => none

mutual

/-- `appendRecordValues(values, record)`. -/
def recordValues : Record → List Str
  | [] => []
  | (key, value) :: record => memberValues key value ++ recordValues record

def memberValues (key : Str) : Json → List Str
  | .null => []
  | .bool false => []
  | .arr items => key :: items.filterMap scalarText
  | .obj record => key :: recordValues record
  | value => key :: (scalarText value).toList

end

def hasAnySignal (text : Str) (terms : List Str) : Bool := terms.any fun term => includes text term

section

variable [Runtime]

def collectTaskSignalText (task : Task) : List Str :=
  ([task.title, task.requestedAction]
    ++ task.successCriteria
    ++ task.target.branches
    ++ task.target.files
    ++ task.target.modules
    ++ task.hints.riskHints
    ++ task.hints.tags
    ++ (task.hints.taskClass.filter (· ≠ [])).toList
    ++ recordValues task.constraints
    ++ (match task.metadata with
      | none => []
      | some metadata =>
        (metadata.legacySource.filter (· ≠ [])).toList
          ++ recordValues (metadata.legacyHints.getD [])
          ++ recordValues (metadata.legacy.getD []))).map Runtime.toLowerCase

def taskText (task : Task) : Str := join (cu ' ') (collectTaskSignalText task)

def collectRiskSignals (task : Task) (policyDecision : Option JudgedPolicyDecision) : List Str :=
  let text := taskText task
  (if hasAnySignal text [js "external", js "remote", js "network"] then
      [js "external_side_effect"] else [])
    ++ (if hasAnySignal text [js "destructive", js "delete", js "remove", js "overwrite"] then
      [js "destructive"] else [])
    ++ (if hasAnySignal text [js "production", js "prod", js "release"] then
      [js "production"] else [])
    ++ (if hasAnySignal text [js "secret", js "credential", js "token"] then [js "secret"] else [])
    ++ (if policyDecision.any (·.approval.required) then [js "policy_approval_required"] else [])
    ++ (if policyDecision.any (·.risk.level = .critical) then [js "critical_policy_risk"] else [])

omit [Runtime] in
def inferResources (task : Task) : List Str :=
  if task.target.files ≠ [] then task.target.files
  else
    match task.repo.root.filter (· ≠ []) with
    | some root => [root ++ js "/**"]
    | none => [js "workspace/**"]

omit [Runtime] in
/-- The first capability of each kind, access and resource. -/
def uniqueCapabilities (seen : List Str) : List CapabilityScope → List CapabilityScope
  | [] => []
  | capability :: capabilities =>
    let key := capability.kind.text ++ js ":" ++ capability.access.text ++ js ":"
      ++ capability.resource
    if key ∈ seen then uniqueCapabilities seen capabilities
    else capability :: uniqueCapabilities (key :: seen) capabilities

def collectRequiredCapabilities (task : Task) (policyDecision : Option JudgedPolicyDecision) :
    List CapabilityScope :=
  match policyDecision.map (·.capabilities) with
  | some (capability :: capabilities) => capability :: capabilities
  | _ =>
    let signals := taskText task
    let resources := inferResources task
    uniqueCapabilities []
      (resources.map (fun resource => ⟨.file, resource, .read, []⟩)
        ++ (if hasAnySignal signals [js "write", js "edit", js "modify", js "patch", js "change",
            js "local_write"] then
          resources.map (fun resource => ⟨.file, resource, .write, []⟩) else [])
        ++ (if hasAnySignal signals [js "external", js "network", js "remote"] then
          [⟨.external, js "external_side_effect", .write, []⟩] else [])
        ++ (if hasAnySignal signals [js "secret"] then
          [⟨.secret, js "task_secret", .read, []⟩] else []))

/-! ## The decision -/

omit [Runtime] in
/-- Every signal that is collected requires approval. -/
def isApprovalSignal (signal : Str) : Bool :=
  signal ∈ [js "external_side_effect", js "destructive", js "production", js "secret",
    js "critical_policy_risk", js "policy_approval_required"]

omit [Runtime] in
def resourceMatches (grantedResource requiredResource : Str) : Bool :=
  if grantedResource = js "**" then true
  else
    let granted := normalizeFileResource grantedResource
    let required := normalizeFileResource requiredResource
    if granted = required then true
    else if endsWith granted recursive then
      let pre := granted.take (granted.length - 3)
      required = pre || startsWith required (pre ++ [slash])
    else false

omit [Runtime] in
def agentHasMatchingCapability (agent : Option (List CapabilityScope))
    (requiredScope : CapabilityScope) : Bool :=
  match agent with
  | none => requiredScope.kind = .file && requiredScope.access = .read
  | some capabilities => capabilities.any fun scope =>
    scope.kind = requiredScope.kind && scope.access = requiredScope.access
      && resourceMatches scope.resource requiredScope.resource

omit [Runtime] in
def approvalReasons (riskSignals : List Str) (missingCapabilities : List CapabilityScope) :
    List Str :=
  (if riskSignals.any isApprovalSignal then [js "approval_required_by_task_risk"] else [])
    ++ (if missingCapabilities.any (·.access ≠ .read) then
      [js "missing_required_write_capability"] else [])
    ++ (if missingCapabilities.any (·.access = .read) then
      [js "missing_required_read_capability"] else [])

omit [Runtime] in
/-- The status with its reasons and the required approvals. -/
def admissionOutcome (input : EvaluateTaskAdmissionInput) (riskSignals : List Str)
    (requiredCapabilities : List CapabilityScope) : AdmissionStatus × List Str × List Str :=
  let requiredApprovals := (riskSignals.filter isApprovalSignal).map (js "approval:" ++ ·)
  if input.principal.isNone then (.rejected, [js "missing_principal"], requiredApprovals)
  else if input.task.intent.isNone then
    (.rejected, [js "missing_task_intent"], requiredApprovals)
  else if input.policyDecision.any isPolicyBlocked then
    (.rejected, [js "policy_decision_blocked"], requiredApprovals)
  else if input.policyDecision.any (·.risk.clarificationRequired) then
    (.needsClarification, [js "policy_decision_requires_clarification"], requiredApprovals)
  else
    let missingCapabilities := requiredCapabilities.filter fun scope =>
      !agentHasMatchingCapability input.agent scope
    let capabilityApprovals := missingCapabilities.map fun scope =>
      js "capability:" ++ scope.kind.text ++ js ":" ++ scope.access.text ++ js ":"
        ++ scope.resource
    let approvalReasons := approvalReasons riskSignals missingCapabilities
    if approvalReasons ≠ [] then
      (.needsApproval, approvalReasons, requiredApprovals ++ capabilityApprovals)
    else (.accepted, [], requiredApprovals)

def evaluateTaskAdmission (input : EvaluateTaskAdmissionInput) : AdmissionDecision :=
  let riskSignals := collectRiskSignals input.task input.policyDecision
  let requiredCapabilities := collectRequiredCapabilities input.task input.policyDecision
  let outcome := admissionOutcome input riskSignals requiredCapabilities
  { status := outcome.1
    taskId := input.task.taskId
    principalId := (input.principal.map (·.principalId)).getD "unknown_principal"
    reasons := distinct outcome.2.1
    riskSignals := distinct riskSignals
    requiredCapabilities := uniqueCapabilities [] requiredCapabilities
    requiredApprovals := distinct outcome.2.2
    createdAt := input.now.getD "1970-01-01T00:00:00.000Z" }

end

end CodexRouter.Eligibility
