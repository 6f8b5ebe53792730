import CodexRouter.Routing.Intent

/-!
# Routing decisions and their approval

What a policy grants a classified task, and when a person has to approve it.
-/

open Js

namespace CodexRouter.Routing

open Kernel Eligibility Provider

/-! ## Policies -/

inductive ModelId where
  | gpt54Mini | gpt54 | gpt53CodexSpark | gpt53Codex | gpt51CodexMax
  deriving DecidableEq

inductive ToolAccessLevel where
  | readOnly | localWrite | engineeringWrite | protectedRemote
  deriving DecidableEq

def ToolAccessLevel.text : ToolAccessLevel → Str
  | readOnly => js "read_only"
  | localWrite => js "local_write"
  | engineeringWrite => js "engineering_write"
  | protectedRemote => js "protected_remote"

structure ApprovalRules where
  protectedBranches : List Str
  protectedKeywords : List Str
  protectedToolAccess : List ToolAccessLevel

structure PolicySnapshot where
  policyVersion : Str
  models : TaskClass → Option ModelId
  toolPolicies : TaskClass → Option ToolAccessLevel
  executionProfiles : TaskClass → Option ExecutionProfileName
  hostRoutes : TaskClass → Option HostRoute
  approvalRules : ApprovalRules

/-- `getTaskValue`. -/
def getTaskValue {α : Type} (source : TaskClass → Option α) (taskClass : TaskClass)
    (label : Str) : Result α :=
  match source taskClass with
  | some value => .ok value
  | none => fail (js "Missing " ++ label ++ js " for task class: " ++ taskClass.text)

/-! ## Execution profiles -/

/-- The fields of an execution profile that routing reads. -/
structure ExecutionProfile where
  allowParallel : Bool
  maxParallelAgents : ℕ

def getExecutionProfile : ExecutionProfileName → ExecutionProfile
  | .reconOnly => { allowParallel := true, maxParallelAgents := 3 }
  | .clarifyThenPlan => { allowParallel := false, maxParallelAgents := 1 }
  | .engineering => { allowParallel := true, maxParallelAgents := 2 }
  | .highRiskChange => { allowParallel := false, maxParallelAgents := 1 }
  | .releaseGovernance => { allowParallel := false, maxParallelAgents := 1 }

/-! ## Decisions -/

inductive ParallelismMode where
  | disabled | readOnly | ownedWrite
  deriving DecidableEq

structure RoutingClassification where
  taskClass : TaskClass
  riskLevel : ReasoningEffort
  ambiguityScore : ℚ
  clarificationRequired : Bool
  riskFactors : List Str
  deriving DecidableEq

structure RoutingExecution where
  selectedModel : ModelId
  toolAccess : ToolAccessLevel
  executionProfile : ExecutionProfileName
  reasoningEffort : ReasoningEffort
  deriving DecidableEq

structure RoutingParallelism where
  allowed : Bool
  maxAgents : ℕ
  mode : ParallelismMode
  deriving DecidableEq

structure ProviderGrant where
  grantId : Str
  providerId : Str
  providerKind : ProviderKind
  manifestHash : Option Str
  sideEffectClass : ProviderSideEffectClass
  toolAccess : ToolAccessLevel
  sandboxMode : SandboxMode
  approvalRequired : Bool
  requiredApprovals : List Str
  reasons : List Str
  deriving DecidableEq

structure RoutingDecision where
  decisionId : Str
  taskId : Str
  policyVersion : Str
  classification : RoutingClassification
  execution : RoutingExecution
  approval : PolicyApproval
  parallelism : RoutingParallelism
  hostRoute : HostRoute
  providerGrant : ProviderGrant
  deriving DecidableEq

inductive ApprovalStatus where
  | notRequired | pending | approved | rejected | expired
  deriving DecidableEq

structure ApprovalDecision where
  status : ApprovalStatus
  reasons : List Str
  gateId : Option Str
  deriving DecidableEq

/-! ## The grant -/

def createCodexCliSandboxProfile (mode : SandboxMode) : SandboxProfile where
  sandboxId := js "codex-cli-" ++ mode.text
  mode
  networkAccess := .none
  writableRoots := if mode = .readOnly then [] else [js "workspace/**"]
  envPolicy := { inheritProcessEnv := false, allowlist := [] }

def codexCliProviderManifest : ProviderManifest where
  providerId := js "codex-cli"
  kind := .executor
  displayName := js "Codex CLI Executor"
  version := js "0.1.0"
  capabilities := [js "execution.plan", js "execution.validate", js "codex-cli-host.plan",
    js "fs.read:workspace/**"]
  requiredConfig := { keys := [], optionalKeys := [] }
  securityBoundary :=
    { isolation := .process
      networkAccess := .restricted
      filesystemAccess := .workspaceWrite
      secretAccess := .brokered
      notes := [js "Facade over packages/codex-cli-host.",
        js "Real Codex CLI execution is disabled by default in Phase 3.",
        js "Protected remote and external side effects are not supported without " ++
          js "an explicit approval permit path."] }
  supportedSandboxProfiles := [createCodexCliSandboxProfile .readOnly,
    createCodexCliSandboxProfile .workspaceWrite]
  supportedSideEffectClasses := [.readOnly, .workspaceWrite, .localCommand]
  enabled := true
  metadata := [(js "codexCliHostFacade", .bool true), (js "executionDefault", .str "disabled"),
    (js "promptStorage", .str "inputHash_only"),
    (js "externalSideEffectsDefault", .str "unsupported_without_approval_permit")]

def resolveProviderSideEffectClass : ToolAccessLevel → ProviderSideEffectClass
  | .readOnly => .readOnly
  | .localWrite => .workspaceWrite
  | .engineeringWrite => .localCommand
  | .protectedRemote => .protectedRemote

variable [Runtime]

def createProviderGrant (task : TaskEnvelope) (policyVersion : Str) (hostRoute : HostRoute)
    (toolAccess : ToolAccessLevel) (approvalReasons : List Str) : ProviderGrant :=
  let providerId := if hostRoute = .codexCli then js "codex-cli" else js "codex-desktop"
  { grantId := task.taskId ++ js ":" ++ policyVersion ++ js ":" ++ providerId ++ js ":"
      ++ toolAccess.text
    providerId
    providerKind := .executor
    manifestHash :=
      if hostRoute = .codexCli then some (hashProviderManifest codexCliProviderManifest) else none
    sideEffectClass := resolveProviderSideEffectClass toolAccess
    toolAccess
    sandboxMode := if toolAccess = .readOnly then .readOnly else .workspaceWrite
    approvalRequired := approvalReasons ≠ []
    requiredApprovals := approvalReasons
    reasons := [js "host_route:" ++ hostRoute.text, js "tool_access:" ++ toolAccess.text] }

/-! ## Risk -/

def isRiskClass (taskClass : TaskClass) : Bool :=
  taskClass = .highRisk || taskClass = .releaseExternalAction

structure RiskScore where
  level : ReasoningEffort
  factors : List Str

def scoreRisk (task : TaskEnvelope) (taskClass : TaskClass) : RiskScore :=
  let factors := [js "task_class:" ++ taskClass.text]
  if isRiskClass taskClass then { level := .high, factors }
  else if taskClass = .engineering then
    let factors := factors
      ++ (if includes task.haystack "production" then [js "keyword:production"] else [])
      ++ if includes task.haystack "migration" then [js "keyword:migration"] else []
    { level := if factors.length > 1 then .high else .medium, factors }
  else { level := .low, factors }

def chooseReasoningEffort (riskLevel : ReasoningEffort) (taskClass : TaskClass) :
    ReasoningEffort :=
  if riskLevel = .high || taskClass = .releaseExternalAction then .high
  else if taskClass = .engineering || taskClass = .smallEdit then .medium
  else .low

/-! ## Signals

Both packages read the branches and the keywords of a task in the same way. -/

/-- The reason where it applies. -/
def signalIf (condition : Bool) (reason : Str) : List Str := if condition then [reason] else []

def branchSignals (task : TaskEnvelope) (rules : ApprovalRules) : List Str :=
  (task.target.branches.filter rules.protectedBranches.contains).map (js "protected_branch:" ++ ·)

def activeBranchSignals (task : TaskEnvelope) (rules : ApprovalRules) : List Str :=
  match task.repoContext.branch with
  | some branch =>
    signalIf (branch ≠ [] && rules.protectedBranches.contains branch)
      (js "active_branch:" ++ branch)
  | none => []

def keywordSignals (task : TaskEnvelope) (rules : ApprovalRules) : List Str :=
  (rules.protectedKeywords.filter fun keyword =>
    includes task.haystack (Runtime.toLowerCase keyword)).map (js "keyword:" ++ ·)

def collectApprovalSignals (task : TaskEnvelope) (toolAccess : ToolAccessLevel)
    (policy : PolicySnapshot) (intent : IntentClassification) : List Str :=
  distinct <|
    signalIf (policy.approvalRules.protectedToolAccess.contains toolAccess)
      (js "tool_access:" ++ toolAccess.text)
    ++ signalIf (isRiskClass intent.taskClass) (js "risk:" ++ intent.taskClass.text)
    ++ signalIf intent.clarificationRequired (js "clarification_required")
    ++ branchSignals task policy.approvalRules
    ++ activeBranchSignals task policy.approvalRules
    ++ keywordSignals task policy.approvalRules

/-! ## Routing -/

def resolveHostRoute (taskClass : TaskClass) (policy : PolicySnapshot) : Result HostRoute :=
  getTaskValue policy.hostRoutes taskClass (js "host route")

/-- A task that needs clarification is planned, whatever its class. -/
def chooseExecutionProfile (intent : IntentClassification) (policy : PolicySnapshot) :
    Result ExecutionProfileName :=
  if intent.clarificationRequired then .ok .clarifyThenPlan
  else getTaskValue policy.executionProfiles intent.taskClass (js "execution profile")

/-- The envelope is parsed. -/
def routeParsedTask (task : TaskEnvelope) (intent : IntentClassification)
    (policy : PolicySnapshot) : Result RoutingDecision := do
  let taskClass := intent.taskClass
  let risk := scoreRisk task taskClass
  let selectedModel ← getTaskValue policy.models taskClass (js "model")
  let configuredToolAccess ← getTaskValue policy.toolPolicies taskClass (js "tool policy")
  let toolAccess := if intent.clarificationRequired then .readOnly else configuredToolAccess
  let executionProfile ← chooseExecutionProfile intent policy
  let profile := getExecutionProfile executionProfile
  let approvalReasons := collectApprovalSignals task toolAccess policy intent
  let hostRoute ← resolveHostRoute taskClass policy
  return {
    decisionId := task.taskId ++ js ":" ++ policy.policyVersion
    taskId := task.taskId
    policyVersion := policy.policyVersion
    classification :=
      { taskClass
        riskLevel := risk.level
        ambiguityScore := intent.ambiguityScore
        clarificationRequired := intent.clarificationRequired
        riskFactors := risk.factors }
    execution :=
      { selectedModel, toolAccess, executionProfile
        reasoningEffort := chooseReasoningEffort risk.level taskClass }
    approval := { required := approvalReasons ≠ [], reasons := approvalReasons }
    parallelism :=
      { allowed := profile.allowParallel
        maxAgents := profile.maxParallelAgents
        mode :=
          if !profile.allowParallel then .disabled
          else if toolAccess = .readOnly then .readOnly
          else .ownedWrite }
    hostRoute
    providerGrant :=
      createProviderGrant task policy.policyVersion hostRoute toolAccess approvalReasons }

def routeTask (taskInput : Json) (intent : IntentClassification) (policy : PolicySnapshot) :
    Result RoutingDecision := do
  routeParsedTask (← parseTaskEnvelope taskInput) intent policy

/-! ## The approval gate -/

def toolPolicySignals (taskClass : TaskClass) (policy : PolicySnapshot) : List Str :=
  match policy.toolPolicies taskClass with
  | none => [js "missing_tool_policy:" ++ taskClass.text]
  | some toolAccess =>
    signalIf (policy.approvalRules.protectedToolAccess.contains toolAccess)
      (js "tool_access:" ++ toolAccess.text)

def collectPolicyApprovalSignals (task : TaskEnvelope) (decision : RoutingDecision)
    (policy : PolicySnapshot) : List Str :=
  distinct <|
    toolPolicySignals decision.classification.taskClass policy
    ++ branchSignals task policy.approvalRules
    ++ activeBranchSignals task policy.approvalRules
    ++ keywordSignals task policy.approvalRules

/-- The envelope is parsed. -/
def evaluateParsedApproval (task : TaskEnvelope) (decision : RoutingDecision)
    (policy : PolicySnapshot) : ApprovalDecision :=
  let isWriteCapable : Bool := decision.execution.toolAccess ≠ .readOnly
  let deduped := distinct <|
    decision.approval.reasons
    ++ collectPolicyApprovalSignals task decision policy
    ++ signalIf (isRiskClass decision.classification.taskClass)
      (js "risk:" ++ decision.classification.taskClass.text)
    ++ signalIf decision.classification.clarificationRequired (js "clarification_required")
    ++ signalIf (isWriteCapable && task.repoContext.protectedBranch = some true)
      (js "repo_context:protected_branch")
    ++ signalIf (isWriteCapable && task.repoContext.worktreeClean = some false)
      (js "workspace:dirty")
  { status := if deduped = [] then .notRequired else .pending
    reasons := deduped
    gateId := if deduped = [] then none else some (js "gate-" ++ task.taskId) }

def evaluateApprovalRequirement (taskInput : Json) (decision : RoutingDecision)
    (policy : PolicySnapshot) : Result ApprovalDecision :=
  (parseTaskEnvelope taskInput).map fun task => evaluateParsedApproval task decision policy

/-! ## When a decision is pending -/

/-- The policy has every entry for every class. -/
structure PolicySnapshot.Covers (policy : PolicySnapshot) : Prop where
  models : ∀ taskClass, (policy.models taskClass).isSome
  toolPolicies : ∀ taskClass, (policy.toolPolicies taskClass).isSome
  executionProfiles : ∀ taskClass, (policy.executionProfiles taskClass).isSome
  hostRoutes : ∀ taskClass, (policy.hostRoutes taskClass).isSome

/-- Tool access is protected for the class. -/
def PolicySnapshot.IsProtected (policy : PolicySnapshot) (taskClass : TaskClass) : Prop :=
  ∃ toolAccess, policy.toolPolicies taskClass = some toolAccess ∧
    toolAccess ∈ policy.approvalRules.protectedToolAccess

/-- Tool access is not `read_only` for the class. -/
def PolicySnapshot.IsWriteCapable (policy : PolicySnapshot) (taskClass : TaskClass) : Prop :=
  ∃ toolAccess, policy.toolPolicies taskClass = some toolAccess ∧ toolAccess ≠ .readOnly

/-- The signals of the text and of the branches: no class changes them. -/
def taskSignals (task : TaskEnvelope) (rules : ApprovalRules) : List Str :=
  branchSignals task rules ++ activeBranchSignals task rules ++ keywordSignals task rules

def TaskEnvelope.NeedsCleanTree (task : TaskEnvelope) : Prop :=
  task.repoContext.protectedBranch = some true ∨ task.repoContext.worktreeClean = some false

/-- What makes the gate wait for a person. -/
def IsGated (task : TaskEnvelope) (intent : IntentClassification) (policy : PolicySnapshot) :
    Prop :=
  intent.clarificationRequired = true ∨ isRiskClass intent.taskClass = true ∨
    policy.IsProtected intent.taskClass ∨ taskSignals task policy.approvalRules ≠ [] ∨
    (policy.IsWriteCapable intent.taskClass ∧ task.NeedsCleanTree)

omit [Runtime] in
@[simp] lemma signalIf_eq_nil {condition : Bool} {reason : Str} :
    signalIf condition reason = [] ↔ condition = false := by
  cases condition <;> simp [signalIf]

omit [Runtime] in
@[simp] lemma distinct_eq_nil {reasons : List Str} : distinct reasons = [] ↔ reasons = [] := by
  cases reasons <;> simp [distinct]

omit [Runtime] in
lemma getTaskValue_of_some {α : Type} {source : TaskClass → Option α} {taskClass : TaskClass}
    {label : Str} {value : α} (h : source taskClass = some value) :
    getTaskValue source taskClass label = .ok value := by
  simp only [getTaskValue, h]

/-- The access that routing gives a class. -/
def grantedToolAccess (intent : IntentClassification) (configured : ToolAccessLevel) :
    ToolAccessLevel :=
  if intent.clarificationRequired then .readOnly else configured

/-- A policy that covers the class routes every task of it. -/
lemma routeParsedTask_returns {task : TaskEnvelope} {intent : IntentClassification}
    {policy : PolicySnapshot} (covers : policy.Covers) :
    ∃ decision configured, routeParsedTask task intent policy = .ok decision ∧
      policy.toolPolicies intent.taskClass = some configured ∧
      decision.classification.taskClass = intent.taskClass ∧
      decision.classification.clarificationRequired = intent.clarificationRequired ∧
      decision.execution.toolAccess = grantedToolAccess intent configured ∧
      decision.approval.reasons =
        collectApprovalSignals task (grantedToolAccess intent configured) policy intent := by
  obtain ⟨model, hmodel⟩ := Option.isSome_iff_exists.mp (covers.models intent.taskClass)
  obtain ⟨configured, htool⟩ := Option.isSome_iff_exists.mp (covers.toolPolicies intent.taskClass)
  obtain ⟨profile, hprofile⟩ :=
    Option.isSome_iff_exists.mp (covers.executionProfiles intent.taskClass)
  obtain ⟨route, hroute⟩ := Option.isSome_iff_exists.mp (covers.hostRoutes intent.taskClass)
  have hchosen : chooseExecutionProfile intent policy =
      .ok (if intent.clarificationRequired then .clarifyThenPlan else profile) := by
    rw [chooseExecutionProfile, getTaskValue_of_some hprofile]
    split_ifs <;> rfl
  unfold routeParsedTask resolveHostRoute
  simp only [getTaskValue_of_some hmodel, getTaskValue_of_some htool, hchosen,
    getTaskValue_of_some hroute, bind, Except.bind, pure, Except.pure]
  exact ⟨_, configured, rfl, htool, rfl, rfl, rfl, rfl⟩

lemma collectApprovalSignals_eq_nil {task : TaskEnvelope} {toolAccess : ToolAccessLevel}
    {policy : PolicySnapshot} {intent : IntentClassification} :
    collectApprovalSignals task toolAccess policy intent = [] ↔
      toolAccess ∉ policy.approvalRules.protectedToolAccess ∧
      isRiskClass intent.taskClass = false ∧ intent.clarificationRequired = false ∧
      taskSignals task policy.approvalRules = [] := by
  unfold collectApprovalSignals taskSignals
  rw [distinct_eq_nil]
  simp only [List.append_eq_nil_iff, signalIf_eq_nil, List.contains_eq_mem,
    decide_eq_false_iff_not]
  tauto

lemma collectPolicyApprovalSignals_eq_nil {task : TaskEnvelope} {decision : RoutingDecision}
    {policy : PolicySnapshot} {configured : ToolAccessLevel}
    (htool : policy.toolPolicies decision.classification.taskClass = some configured) :
    collectPolicyApprovalSignals task decision policy = [] ↔
      configured ∉ policy.approvalRules.protectedToolAccess ∧
      taskSignals task policy.approvalRules = [] := by
  unfold collectPolicyApprovalSignals taskSignals toolPolicySignals
  rw [distinct_eq_nil, htool]
  simp only [List.append_eq_nil_iff, signalIf_eq_nil, List.contains_eq_mem,
    decide_eq_false_iff_not]
  tauto

/-- The gate is pending exactly when something asks for a person. -/
lemma route_pending_iff {task : TaskEnvelope} {intent : IntentClassification}
    {policy : PolicySnapshot} (covers : policy.Covers) :
    ∃ decision, routeParsedTask task intent policy = .ok decision ∧
      ((evaluateParsedApproval task decision policy).status = .pending ↔
        IsGated task intent policy) := by
  obtain ⟨decision, configured, hroute, htool, hclass, hclarify, haccess, hreasons⟩ :=
    @routeParsedTask_returns _ task intent policy covers
  refine ⟨decision, hroute, ?_⟩
  have hprotected : policy.IsProtected intent.taskClass ↔
      configured ∈ policy.approvalRules.protectedToolAccess := by
    simp [PolicySnapshot.IsProtected, htool]
  have hwrite : policy.IsWriteCapable intent.taskClass ↔ configured ≠ .readOnly := by
    simp [PolicySnapshot.IsWriteCapable, htool]
  have hpolicy := @collectPolicyApprovalSignals_eq_nil _ task decision policy configured
    (hclass ▸ htool)
  have hstatus : (evaluateParsedApproval task decision policy).status = .pending ↔
      ¬ (evaluateParsedApproval task decision policy).reasons = [] := by
    unfold evaluateParsedApproval
    dsimp only
    split_ifs with hnil
    · exact iff_of_false nofun fun hne => hne hnil
    · exact iff_of_true rfl hnil
  rw [hstatus, IsGated, hprotected, hwrite]
  unfold evaluateParsedApproval TaskEnvelope.NeedsCleanTree
  dsimp only
  rw [distinct_eq_nil]
  simp only [List.append_eq_nil_iff, signalIf_eq_nil, hclass, hclarify, haccess, hreasons,
    collectApprovalSignals_eq_nil, hpolicy, Bool.and_eq_false_iff, decide_eq_false_iff_not,
    grantedToolAccess, ne_eq]
  -- a required clarification gates the task, whatever access it leaves
  cases hrequired : intent.clarificationRequired with
  | true => simp
  | false =>
    simp only [Bool.false_eq_true, if_false, not_not]
    grind

end CodexRouter.Routing
