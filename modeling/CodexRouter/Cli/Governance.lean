import CodexRouter.Js.Runtime
import CodexRouter.Kernel.Governance
import Mathlib.Algebra.Order.Field.Rat

/-!
# Governance of CLI runs

Each run of the CLI gives one observation. The state counts anomalies, adds up risk and carries the
strategy of the last run, which decides whether the next plan may run. Scores are exact rationals.
-/

open Js

namespace CodexRouter.Cli
open Kernel (GovernanceRiskLevel)

/-! ## Tasks and plans -/

/-- The `taskClassHint` of a task. -/
inductive TaskClassHint where
  | readOnly | smallEdit | engineering | highRisk | releaseExternalAction
  deriving DecidableEq

/-- The members of a task envelope that the CLI host reads. -/
structure TaskEnvelope where
  taskId : Str
  summary : Str
  requestedAction : Str
  successCriteria : List Str
  repoRoot : Option Str
  branch : Option Str
  worktreeClean : Option Bool
  targetBranches : List Str
  targetFiles : List Str
  targetModules : List Str
  taskClassHint : Option TaskClassHint
  riskHints : List Str
  deriving DecidableEq

inductive CodexCliSandboxMode where
  | readOnly | workspaceWrite
  deriving DecidableEq

def CodexCliSandboxMode.text : CodexCliSandboxMode → Str
  | readOnly => js "read-only"
  | workspaceWrite => js "workspace-write"

inductive CodexCliApprovalPolicy where
  | untrusted | onRequest | never
  deriving DecidableEq

/-- `CodexCliGovernancePlanLike`: the members that governance reads. -/
structure CodexCliGovernancePlanLike where
  sandbox : CodexCliSandboxMode
  approvalPolicy : CodexCliApprovalPolicy
  model : Option Str
  deriving DecidableEq

/-! ## Observations -/

inductive CodexCliObservationStatus where
  | started | succeeded | failed | blocked | degraded
  deriving DecidableEq

def CodexCliObservationStatus.text : CodexCliObservationStatus → Str
  | started => js "started"
  | succeeded => js "succeeded"
  | failed => js "failed"
  | blocked => js "blocked"
  | degraded => js "degraded"

/-- A signal that is not given is not set. -/
structure CodexCliObservationSignals where
  modelUnavailable : Bool
  sandboxBlocked : Bool
  approvalBlocked : Bool
  parseError : Bool
  outputDrift : Bool
  timeout : Bool
  processError : Bool
  commandUnavailable : Bool
  permissionBlocked : Bool
  stderrWarning : Bool
  writeSandboxRequested : Bool
  deriving DecidableEq

/-- `Object.entries(signals)`, in the order in which the signals are set. -/
def CodexCliObservationSignals.entries (signals : CodexCliObservationSignals) :
    List (Str × Bool) :=
  [(js "modelUnavailable", signals.modelUnavailable), (js "sandboxBlocked", signals.sandboxBlocked),
    (js "approvalBlocked", signals.approvalBlocked), (js "parseError", signals.parseError),
    (js "outputDrift", signals.outputDrift), (js "timeout", signals.timeout),
    (js "processError", signals.processError),
    (js "commandUnavailable", signals.commandUnavailable),
    (js "permissionBlocked", signals.permissionBlocked), (js "stderrWarning", signals.stderrWarning),
    (js "writeSandboxRequested", signals.writeSandboxRequested)]

structure CodexCliExecutionObservation where
  observationId : Str
  taskId : Str
  stage : Str
  status : CodexCliObservationStatus
  sandbox : CodexCliSandboxMode
  approvalPolicy : CodexCliApprovalPolicy
  model : Option Str
  signals : CodexCliObservationSignals
  eventCount : ℕ
  parseErrorCount : ℕ
  blockingReasons : List Str
  warnings : List Str
  evidenceRef : Option Str
  createdAt : Str
  deriving DecidableEq

/-- `CodexCliGovernanceBundleInput` but for the previous state. `observedAt` and `createdAt` are
the first and the second reading of the clock. -/
structure CodexCliObservationInput where
  task : TaskEnvelope
  plan : CodexCliGovernancePlanLike
  stage : Str
  status : CodexCliObservationStatus
  eventCount : Option ℕ
  parseErrorCount : Option ℕ
  blockingReasons : Option (List Str)
  warnings : Option (List Str)
  error : Option Str
  timedOut : Option Bool
  evidenceRef : Option Str
  observedAt : Str
  createdAt : Str

/-- `text ? { text } : {}`. -/
def truthy (text : Option Str) : Option Str := text.filter fun t => t ≠ []

def createCodexCliObservationSignals (plan : CodexCliGovernancePlanLike)
    (blockingReasons warnings : List Str) (parseErrorCount : ℕ) (error : Option Str)
    (timedOut : Bool) [Runtime] : CodexCliObservationSignals :=
  let reasonText :=
    Runtime.toLowerCase (join (cu ' ') blockingReasons ++ js " " ++ error.getD [])
  { modelUnavailable := includes reasonText "model_unavailable" || includes reasonText "model_probe"
    sandboxBlocked := includes reasonText "write_sandbox" || includes reasonText "sandbox"
    approvalBlocked := includes reasonText "approval"
    parseError := parseErrorCount > 0
    outputDrift := parseErrorCount > 0
    timeout := timedOut || includes reasonText "timeout"
    processError := includes reasonText "process_error" || (truthy error).isSome
    commandUnavailable := includes reasonText "enoent" || includes reasonText "command_not_found"
    permissionBlocked := includes reasonText "eperm" || includes reasonText "eacces"
      || includes reasonText "permission"
    stderrWarning := warnings.length > 0
    writeSandboxRequested := plan.sandbox = .workspaceWrite }

section
variable [Runtime]

def createCodexCliExecutionObservation (input : CodexCliObservationInput) :
    CodexCliExecutionObservation :=
  let blockingReasons := distinct (input.blockingReasons.getD [])
  let warnings := distinct (input.warnings.getD [])
  let parseErrorCount := input.parseErrorCount.getD 0
  { observationId :=
      input.task.taskId ++ js ":" ++ input.stage ++ js ":" ++ input.observedAt
    taskId := input.task.taskId
    stage := input.stage
    status := input.status
    sandbox := input.plan.sandbox
    approvalPolicy := input.plan.approvalPolicy
    model := truthy input.plan.model
    signals := createCodexCliObservationSignals input.plan blockingReasons warnings parseErrorCount
      (truthy input.error) (input.timedOut.getD false)
    eventCount := input.eventCount.getD 0
    parseErrorCount
    blockingReasons
    warnings
    evidenceRef := truthy input.evidenceRef
    createdAt := input.observedAt }

end

def isCodexCliAnomalousObservation (observation : CodexCliExecutionObservation) : Bool :=
  observation.status = .failed || observation.status = .blocked
    || (observation.status = .degraded
      && (observation.signals.parseError || observation.signals.timeout
        || observation.signals.processError))

/-! ## Risk -/

structure CodexCliGovernanceRiskScore where
  entanglement : ℚ
  entropy : ℚ
  failureCost : ℚ
  reversibility : ℚ
  contextPressure : ℚ
  historicalTrust : ℚ
  globalCoherence : ℚ
  score : ℚ
  finalRiskLevel : GovernanceRiskLevel
  factors : List Str
  deriving DecidableEq

def clamp01 (value : ℚ) : ℚ := max 0 (min 1 value)

def riskLevelFromScore (score : ℚ) : GovernanceRiskLevel :=
  if score ≥ 85 / 100 then .critical
  else if score ≥ 65 / 100 then .high
  else if score ≥ 35 / 100 then .medium
  else .low

/-- `\w`. -/
def isWordUnit (c : CodeUnit) : Bool :=
  (0x30 ≤ c.val && c.val ≤ 0x39) || (0x41 ≤ c.val && c.val ≤ 0x5a)
    || (0x61 ≤ c.val && c.val ≤ 0x7a) || c = cu '_'

/-- `/\b(…)\b/.test(text)` of words that begin and end with word units. -/
def hasWord (words : List Str) (text : Str) : Bool :=
  (List.range (text.length + 1)).any fun i => words.any fun word =>
    startsWith (text.drop i) word && !(text.take i).getLast?.any isWordUnit
      && !(text.drop (i + word.length)).head?.any isWordUnit

/-- The factor where it applies. -/
def factorIf (condition : Bool) (factor : Str) : List Str := if condition then [factor] else []

def scoreCodexCliGovernanceRisk [Runtime] (task : TaskEnvelope)
    (plan : CodexCliGovernancePlanLike) : CodexCliGovernanceRiskScore :=
  let haystack := Runtime.toLowerCase (task.summary ++ js " " ++ task.requestedAction ++ js " "
    ++ join (cu ' ') task.riskHints)
  let writeRequested := plan.sandbox = .workspaceWrite
  let targetCount :=
    task.targetFiles.length + task.targetModules.length + task.targetBranches.length
  let releaseLike := task.taskClassHint = some .releaseExternalAction
    || hasWord ["release", "prod", "push", "merge"] haystack
  let highRiskLike := task.taskClassHint = some .highRisk
    || hasWord ["secret", "env", "migration", "permission", "production", "delete"] haystack
  let entanglement := clamp01 (targetCount / 8)
  let entropy := clamp01 ((if task.successCriteria.length = 0 then 15 / 100 else 0)
    + (if task.summary.length < 12 then 2 / 10 else 0))
  let failureCost : ℚ :=
    if releaseLike then 1 else if highRiskLike then 75 / 100
    else if writeRequested then 5 / 10 else 15 / 100
  let reversibility : ℚ := if writeRequested then 45 / 100 else 9 / 10
  let contextPressure : ℚ := if (truthy task.repoRoot).isSome then 15 / 100 else 45 / 100
  let historicalTrust : ℚ := 5 / 10
  let globalCoherence : ℚ :=
    if js "codex-cli-host" ∈ task.targetModules then 85 / 100 else 6 / 10
  let score := clamp01 (entanglement * (15 / 100) + entropy * (15 / 100)
    + failureCost * (25 / 100) + (1 - reversibility) * (15 / 100) + contextPressure * (1 / 10)
    + (1 - historicalTrust) * (1 / 10) + (1 - globalCoherence) * (1 / 10))
  { entanglement, entropy, failureCost, reversibility, contextPressure, historicalTrust
    globalCoherence, score
    finalRiskLevel := riskLevelFromScore score
    factors := factorIf writeRequested "workspace_write_requested"
      ++ factorIf releaseLike "release_like_task"
      ++ factorIf highRiskLike "high_risk_keywords"
      ++ factorIf (truthy task.repoRoot).isNone "repo_root_missing"
      ++ factorIf (targetCount > 3) "multi_target_task" }

def signalPressure (signals : CodexCliObservationSignals) : ℚ :=
  if signals.entries.any (·.2) then 1 / 10 else 0

def anomalyPressure (anomalyCount : ℕ) : ℚ := min (35 / 100) (anomalyCount * (12 / 100))

def rescoreCodexCliRiskFromObservation (risk : CodexCliGovernanceRiskScore)
    (observation : CodexCliExecutionObservation) (anomalyCount : ℕ) :
    CodexCliGovernanceRiskScore :=
  let score := clamp01 (risk.score + signalPressure observation.signals
    + anomalyPressure anomalyCount)
  { risk with
    score
    finalRiskLevel := riskLevelFromScore score
    factors := distinct (risk.factors
      ++ factorIf (observation.status = .blocked) "observation_blocked"
      ++ factorIf (observation.status = .failed) "observation_failed"
      ++ factorIf (observation.parseErrorCount > 0) "jsonl_parse_error"
      ++ factorIf observation.signals.timeout "timeout") }

/-! ## States -/

inductive CodexCliGovernancePhase where
  | planning | preflight | execution | verification | recovery | closed
  deriving DecidableEq

def CodexCliGovernancePhase.text : CodexCliGovernancePhase → Str
  | planning => js "planning"
  | preflight => js "preflight"
  | execution => js "execution"
  | verification => js "verification"
  | recovery => js "recovery"
  | closed => js "closed"

structure CodexCliAnomalyEntry where
  observationId : Str
  status : CodexCliObservationStatus
  stage : Str
  reasons : List Str
  createdAt : Str
  deriving DecidableEq

structure CodexCliAnomalyLedger where
  count : ℕ
  entries : List CodexCliAnomalyEntry
  deriving DecidableEq

structure CodexCliApprovalHistory where
  workspaceWriteReleaseApprovalRequired : Bool
  workspaceWriteReleaseApprovalObserved : Bool
  confirmationObserved : Bool
  deriving DecidableEq

inductive CodexCliStrategyAction where
  | continue | verify | lockdown | stepBack | abort
  deriving DecidableEq

inductive VerificationIntensity where
  | none | light | standard | strict
  deriving DecidableEq

inductive CodexCliCheckpointCadence where
  | minimal | stage | observation | riskBoundary
  deriving DecidableEq

structure CodexCliStrategyDecisionV2 where
  decisionId : Str
  taskId : Str
  action : CodexCliStrategyAction
  riskLevel : GovernanceRiskLevel
  verificationIntensity : VerificationIntensity
  checkpointCadence : CodexCliCheckpointCadence
  writeSandboxAllowed : Bool
  reasons : List Str
  createdAt : Str
  deriving DecidableEq

/-- `CodexCliGovernanceState` but for its strategy, which is routed from the rest. -/
structure CodexCliUnroutedState where
  taskId : Str
  branchId : Str
  phase : CodexCliGovernancePhase
  risk : CodexCliGovernanceRiskScore
  anomalies : CodexCliAnomalyLedger
  approvals : CodexCliApprovalHistory
  latestObservation : Option CodexCliExecutionObservation
  createdAt : Str
  updatedAt : Str
  deriving DecidableEq

structure CodexCliGovernanceState extends CodexCliUnroutedState where
  strategy : CodexCliStrategyDecisionV2
  deriving DecidableEq

def createCodexCliBranchId (task : TaskEnvelope) : Str :=
  match truthy task.branch with
  | some branch => task.taskId ++ js ":" ++ branch
  | none => task.taskId ++ js ":cli-default"

def createCodexCliApprovalHistory (plan : CodexCliGovernancePlanLike)
    (confirmationObserved : Bool) : CodexCliApprovalHistory where
  workspaceWriteReleaseApprovalRequired := plan.sandbox = .workspaceWrite
  workspaceWriteReleaseApprovalObserved := plan.sandbox ≠ .workspaceWrite
  confirmationObserved

def resolveCodexCliGovernancePhase (observation : CodexCliExecutionObservation)
    (anomalyCount : ℕ) : CodexCliGovernancePhase :=
  if anomalyCount ≥ 3 then .recovery
  else match observation.status with
    | .blocked => .preflight
    | .succeeded => .closed
    | .degraded => .verification
    | _ => .execution

/-- The strategy reads nothing of the strategy before. -/
def routeCodexCliStrategyV2 (state : CodexCliUnroutedState) (plan : CodexCliGovernancePlanLike) :
    CodexCliStrategyDecisionV2 :=
  let decide (action : CodexCliStrategyAction) (verificationIntensity : VerificationIntensity)
      (checkpointCadence : CodexCliCheckpointCadence) (writeSandboxAllowed : Bool)
      (reason : Str) : CodexCliStrategyDecisionV2 :=
    { decisionId := state.taskId ++ js ":codex-cli-strategy-v2:" ++ state.updatedAt
      taskId := state.taskId
      action
      riskLevel := state.risk.finalRiskLevel
      verificationIntensity
      checkpointCadence
      writeSandboxAllowed
      reasons := distinct [js "risk:" ++ state.risk.finalRiskLevel.text,
        js "sandbox:" ++ plan.sandbox.text, reason]
      createdAt := state.updatedAt }
  let requested := plan.sandbox = .workspaceWrite
  if state.anomalies.count ≥ 3 then
    decide .stepBack .strict .riskBoundary false "three_strike_step_back"
  else if state.anomalies.count = 2 then
    decide (if requested then .lockdown else .verify) .strict .riskBoundary false
      "second_anomaly_arbitration_preview"
  else if state.anomalies.count = 1 then
    decide .verify (if state.risk.finalRiskLevel = .low then .standard else .strict) .riskBoundary
      requested "first_anomaly_silent_audit"
  else match state.risk.finalRiskLevel with
    | .critical => decide .lockdown .strict .riskBoundary false "critical_risk_lockdown"
    | .high => decide .verify .strict .riskBoundary requested "high_risk_requires_strict_verification"
    | .medium => decide .continue .standard .observation requested
        "medium_risk_standard_verification"
    | .low => decide .continue .light .stage requested "low_risk_cli_execution"

section
variable [Runtime]

def createCodexCliGovernanceState (task : TaskEnvelope) (plan : CodexCliGovernancePlanLike)
    (createdAt : Str) : CodexCliGovernanceState :=
  let state : CodexCliUnroutedState :=
    { taskId := task.taskId
      branchId := createCodexCliBranchId task
      phase := .planning
      risk := scoreCodexCliGovernanceRisk task plan
      anomalies := ⟨0, []⟩
      approvals := createCodexCliApprovalHistory plan false
      latestObservation := none
      createdAt
      updatedAt := createdAt }
  { state with strategy := routeCodexCliStrategyV2 state plan }

end

/-- The state that is reduced has its strategy routed next. -/
def reduceCodexCliGovernanceState (state : CodexCliUnroutedState)
    (observation : CodexCliExecutionObservation) (plan : CodexCliGovernancePlanLike) :
    CodexCliUnroutedState :=
  let anomalies : CodexCliAnomalyLedger :=
    if isCodexCliAnomalousObservation observation then
      { count := state.anomalies.count + 1
        entries := state.anomalies.entries ++ [{
          observationId := observation.observationId
          status := observation.status
          stage := observation.stage
          reasons :=
            if observation.blockingReasons.length > 0 then observation.blockingReasons
            else observation.warnings
          createdAt := observation.createdAt }] }
    else state.anomalies
  { state with
    phase := resolveCodexCliGovernancePhase observation anomalies.count
    risk := rescoreCodexCliRiskFromObservation state.risk observation anomalies.count
    anomalies
    approvals := createCodexCliApprovalHistory plan state.approvals.confirmationObserved
    latestObservation := some observation
    updatedAt := observation.createdAt }

/-! ## Bundles -/

structure CodexCliCheckpointLedgerEntry where
  ledgerId : Str
  taskId : Str
  branchId : Str
  stage : Str
  strategyAction : CodexCliStrategyAction
  governanceStateRef : Str
  observationRef : Str
  evidenceRefs : List Str
  reversibleActions : List Str
  createdAt : Str

inductive CodexCliArbitrationTrigger where
  | firstAnomaly | secondAnomaly | thirdAnomaly | manual
  deriving DecidableEq

structure CodexCliArbitrationPacket where
  packetId : Str
  taskId : Str
  trigger : CodexCliArbitrationTrigger
  currentState : CodexCliGovernanceState
  rawEvidenceRefs : List Str
  conflictingSignals : List Str
  recommendation : Str
  createdAt : Str

structure CodexCliGovernanceBundle where
  state : CodexCliGovernanceState
  observation : CodexCliExecutionObservation
  strategy : CodexCliStrategyDecisionV2
  ledgerEntry : CodexCliCheckpointLedgerEntry
  arbitrationPacket : Option CodexCliArbitrationPacket

def createCodexCliCheckpointLedgerEntry (state : CodexCliGovernanceState)
    (observation : CodexCliExecutionObservation) (plan : CodexCliGovernancePlanLike)
    (evidenceRefs : List Str) (createdAt : Str) : CodexCliCheckpointLedgerEntry where
  ledgerId := state.taskId ++ js ":codex-cli-ledger:" ++ createdAt
  taskId := state.taskId
  branchId := state.branchId
  stage := observation.stage
  strategyAction := state.strategy.action
  governanceStateRef := state.taskId ++ js ":" ++ state.updatedAt
  observationRef := observation.observationId
  evidenceRefs
  reversibleActions :=
    if plan.sandbox = .workspaceWrite then
      match state.latestObservation.bind fun latest => truthy (some latest.taskId) with
      | some taskId => [js "bounded_workspace_write:" ++ taskId]
      | none => [js "bounded_workspace_write"]
    else []
  createdAt

def resolveArbitrationTrigger (state : CodexCliGovernanceState) : CodexCliArbitrationTrigger :=
  if state.anomalies.count ≥ 3 then .thirdAnomaly
  else if state.anomalies.count = 2 then .secondAnomaly
  else if state.anomalies.count = 1 then .firstAnomaly
  else .manual

def collectConflictingSignals (observation : CodexCliExecutionObservation) : List Str :=
  (observation.signals.entries.filter (·.2)).map (·.1)

def createCodexCliArbitrationPacket (state : CodexCliGovernanceState)
    (observation : CodexCliExecutionObservation) (evidenceRefs : List Str) (createdAt : Str) :
    CodexCliArbitrationPacket where
  packetId := state.taskId ++ js ":codex-cli-arbitration:" ++ createdAt
  taskId := state.taskId
  trigger := resolveArbitrationTrigger state
  currentState := state
  rawEvidenceRefs := evidenceRefs
  conflictingSignals := collectConflictingSignals observation
  recommendation :=
    if state.strategy.action = .stepBack then
      js "freeze CLI execution and require human arbitration before continuing"
    else if state.strategy.action = .lockdown then
      js "keep read-only verification active and block workspace-write until reviewed"
    else js "continue with stricter verification and review raw evidence"
  createdAt

def shouldCreateCodexCliArbitrationPacket (state : CodexCliGovernanceState) : Bool :=
  state.anomalies.count ≥ 2 || state.strategy.action = .stepBack

def createCodexCliGovernanceBundle [Runtime] (previousState : Option CodexCliGovernanceState)
    (input : CodexCliObservationInput) : CodexCliGovernanceBundle :=
  let observation := createCodexCliExecutionObservation input
  let baseState :=
    previousState.getD (createCodexCliGovernanceState input.task input.plan input.createdAt)
  let state := reduceCodexCliGovernanceState baseState.toCodexCliUnroutedState observation input.plan
  let strategy := routeCodexCliStrategyV2 state input.plan
  let nextState : CodexCliGovernanceState :=
    { state with strategy, updatedAt := observation.createdAt }
  let ledgerEntry := createCodexCliCheckpointLedgerEntry nextState observation input.plan
    observation.evidenceRef.toList observation.createdAt
  { state := nextState
    observation
    strategy
    ledgerEntry
    arbitrationPacket :=
      if shouldCreateCodexCliArbitrationPacket nextState then
        some (createCodexCliArbitrationPacket nextState observation ledgerEntry.evidenceRefs
          observation.createdAt)
      else none }

def getCodexCliGovernancePreRunBlockers (plan : CodexCliGovernancePlanLike)
    (previousState : Option CodexCliGovernanceState) : List Str :=
  match previousState with
  | none => []
  | some previous =>
    distinct
      (factorIf (previous.strategy.action = .stepBack || previous.anomalies.count ≥ 3)
          "codex_cli_governance_step_back_active"
        ++ factorIf (plan.sandbox = .workspaceWrite
            && (previous.strategy.action = .lockdown
              || previous.strategy.writeSandboxAllowed = false))
          "codex_cli_governance_lockdown_write_sandbox")

end CodexRouter.Cli
