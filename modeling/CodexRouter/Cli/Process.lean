import CodexRouter.Cli.Probe

/-!
# Processes of the CLI host

A child says what it does as a list of events, with the answers to what the host asks of it. The
host settles once, by the first of three ways that the events bring about. A plan is spawned after
its checks, and its model is probed before them.
-/

open Js

namespace CodexRouter.Cli

/-! ## Children -/

inductive Signal where
  | sigterm | sigkill
  deriving DecidableEq

/-- A call of the spawner. -/
structure SpawnCall where
  command : Str
  args : List Str
  cwd : Option Str
  env : List (Str × Str)
  deriving DecidableEq

/-- What becomes of `child.stdin?.end(prompt)` and of `child.stdin.destroy()`. -/
inductive StdinAnswer where
  | endThrows (error : Option Str)
  | ended
  | destroyed
  | destroyThrows (error : Option Str)

/-- The answers to the second kill and to the release of the handles. A kill that throws has no
answer. -/
structure ForcedAnswer where
  killed : Option Bool
  stdioDestroyed : Bool
  unrefCalled : Bool

/-- An event that reaches a listener or a timer of the host. -/
inductive ChildEvent where
  | stdout (chunk : Str)
  | stderr (chunk : Str)
  | error (message : Str)
  | close (code : Option ℤ) (signal : Option Str)
  | timeout (killed : Option Bool) (forced : ForcedAnswer)
  | grace (forced : ForcedAnswer)

/-- What a call of the spawner comes to. The value that is thrown is an error or a string with its
text, or anything else. -/
inductive Spawned where
  | throws (error : Option Str)
  /-- `attachError` is thrown where the host attaches its listeners. -/
  | child (stdin : StdinAnswer) (attachError : Option Str) (events : List ChildEvent)

def normalizeCodexCliSpawnError (error : Option Str) : Str :=
  match error with
  | some message => if trim message = [] then "unknown_execution_error" else trim message
  | none => "unknown_execution_error"

/-! ## Results -/

structure StdinLifecycle where
  closed : Bool
  destroyed : Bool
  error : Option Str

structure TerminationLifecycle where
  closeReceived : Bool
  forcedSettled : Bool
  stdioDestroyed : Bool
  unrefCalled : Bool
  timedOut : Bool
  killRequested : Bool
  killed : Bool
  killSignal : Option Signal
  escalated : Bool
  escalationSignal : Option Signal
  escalationKilled : Option Bool
  graceMs : Option ℚ
  closeCode : Option (Option ℤ)
  closeSignal : Option (Option Str)

structure CodexCliProcessLifecycle where
  stdin : StdinLifecycle
  termination : TerminationLifecycle

structure CodexCliProcessRunResult where
  plan : CodexCliExecPlan
  output : CodexCliCommandOutput
  inspection : CodexCliCommandInspection
  timedOut : Bool
  killed : Bool
  lifecycle : CodexCliProcessLifecycle
  modelAvailability : CodexCliModelAvailabilityCheck
  modelProbe : Option CodexCliModelCliProbeEvidence
  governance : Option CodexCliGovernanceBundle
  error : Option Str

/-- `lines.filter(Boolean).join("\n")`. -/
def joinLines (lines : List Str) : Str := join newLine (lines.filter (· ≠ []))

def CodexCliExecPlan.inspectionOptions (plan : CodexCliExecPlan) :
    CodexCliSemanticInspectionOptions where
  sandbox := plan.sandbox
  targetFiles := plan.task.targetFiles
  strictUnknownEvents := some true

section
variable [Runtime] (matchers : Matchers) (host : Host) (plan : CodexCliExecPlan)
  (options : CodexCliProcessRunOptions) (modelProbe : Option CodexCliModelCliProbeEvidence)

def createResult (lifecycle : CodexCliProcessLifecycle) (output : CodexCliCommandOutput)
    (error : Option Str) : CodexCliProcessRunResult :=
  let timedOut := lifecycle.termination.timedOut
  let safeError := error.map matchers.redactText
  let inspection := inspectCodexCliCommandOutput matchers plan.inspectionOptions output
  let blockingReasons := inspection.blockingReasons
    ++ reasonIf timedOut "codex_cli_process_timeout"
    ++ ((truthy safeError).map (js "codex_cli_process_error:" ++ ·)).toList
  let status : CodexCliExecutionStatus :=
    if inspection.blockingReasons = [] ∧ timedOut = false ∧ truthy error = none then .completed
    else .failed
  { plan
    output :=
      { exitCode := output.exitCode
        stdout := matchers.redactText output.stdout
        stderr := output.stderr.map matchers.redactText }
    inspection := { inspection with status, blockingReasons }
    timedOut
    killed := lifecycle.termination.killed
    lifecycle
    modelAvailability := checkCodexCliExecPlanModelAvailability plan options.validation
    modelProbe
    governance :=
      if options.governanceEnabled then
        some (createCodexCliGovernanceBundle options.previousState {
          task := plan.task
          plan := plan.forGovernance
          stage :=
            if status = .completed then js "execution-completed" else js "execution-failed"
          status :=
            if status = .completed then .succeeded
            else if timedOut = true ∨ (truthy error).isSome = true
                ∨ inspection.parseErrors ≠ [] then .failed
            else .degraded
          eventCount := inspection.events.length
          parseErrorCount := inspection.parseErrors.length
          blockingReasons
          warnings := inspection.warnings
          error := truthy safeError
          timedOut
          evidenceRef := truthy (options.governance.bind (·.evidenceRef))
          observedAt := host.observedAt
          createdAt := host.createdAt })
      else none
    error := truthy safeError }

/-! ## Settling -/

/-- What the listeners and the timers of one child share. A timer that is armed has been set and
neither fired nor cleared. -/
structure ChildState where
  stdout : Str
  stderr : Str
  lifecycle : CodexCliProcessLifecycle
  timeoutArmed : Bool
  graceArmed : Bool
  settled : Bool
  /-- What `resolve` has been called with. -/
  resolved : List CodexCliProcessRunResult

namespace ChildState

def terminate (s : ChildState) (update : TerminationLifecycle → TerminationLifecycle) :
    ChildState :=
  { s with lifecycle.termination := update s.lifecycle.termination }

/-- Both timers are cleared. -/
def settle (s : ChildState) (output : CodexCliCommandOutput) (error : Option Str) : ChildState :=
  if s.settled then s
  else
    { s with
      settled := true
      timeoutArmed := false
      graceArmed := false
      resolved := s.resolved
        ++ [createResult matchers host plan options modelProbe s.lifecycle output error] }

def forceSettleAfterTimeout (forced : ForcedAnswer) (s : ChildState) : ChildState :=
  if s.settled then s
  else
    let s := s.terminate fun t =>
      { t with forcedSettled := true, escalated := true, escalationSignal := some .sigkill }
    match forced.killed with
    -- the timer throws, and the host does not settle
    | none => s
    | some escalationKilled =>
      let s := s.terminate fun t =>
        { t with
          escalationKilled := some escalationKilled
          stdioDestroyed := forced.stdioDestroyed
          unrefCalled := forced.unrefCalled }
      s.settle matchers host plan options modelProbe
        { exitCode := 1
          stdout := s.stdout
          stderr := joinLines [s.stderr, "codex_cli_process_forced_settle_after_timeout"] } none

def terminationGraceMs (options : CodexCliProcessRunOptions) : ℚ :=
  options.terminationGraceMs.getD 5000

def onTimeout (killed : Option Bool) (forced : ForcedAnswer) (s : ChildState) : ChildState :=
  let s := { s with timeoutArmed := false }
  let s := s.terminate fun t =>
    { t with timedOut := true, killRequested := true, killSignal := some .sigterm }
  match killed with
  | none => s
  | some killed =>
    let s := s.terminate fun t => { t with killed }
    if terminationGraceMs options ≤ 0 then
      s.forceSettleAfterTimeout matchers host plan options modelProbe forced
    else { s with graceArmed := true }

def onClose (code : Option ℤ) (signal : Option Str) (s : ChildState) : ChildState :=
  let s := s.terminate fun t =>
    { t with closeReceived := true, closeCode := some code, closeSignal := some signal }
  s.settle matchers host plan options modelProbe
    { exitCode := code.getD 1
      stdout := s.stdout
      stderr := joinLines (s.stderr
        :: ((truthy signal).map (js "codex_cli_process_signal:" ++ ·)).toList) } none

/-- Nothing comes of a timer that is not armed. -/
def step (s : ChildState) : ChildEvent → ChildState
  | .stdout chunk => { s with stdout := s.stdout ++ chunk }
  | .stderr chunk => { s with stderr := s.stderr ++ chunk }
  | .error message =>
    s.settle matchers host plan options modelProbe ⟨1, s.stdout, some s.stderr⟩ (some message)
  | .close code signal => s.onClose matchers host plan options modelProbe code signal
  | .timeout killed forced =>
    if s.timeoutArmed then s.onTimeout matchers host plan options modelProbe killed forced else s
  | .grace forced =>
    if s.graceArmed then
      { s with graceArmed := false }.forceSettleAfterTimeout matchers host plan options modelProbe
        forced
    else s

end ChildState

def startedLifecycle (stdin : StdinLifecycle) : CodexCliProcessLifecycle where
  stdin
  termination :=
    { closeReceived := false
      forcedSettled := false
      stdioDestroyed := false
      unrefCalled := false
      timedOut := false
      killRequested := false
      killed := false
      killSignal := none
      escalated := false
      escalationSignal := none
      escalationKilled := none
      graceMs :=
        if 0 < ChildState.terminationGraceMs options then
          some (ChildState.terminationGraceMs options)
        else none
      closeCode := none
      closeSignal := none }

/-- An error is redacted where it is caught and where it is reported. -/
def stdinError (error : Option Str) : Option Str :=
  (truthy (matchers.redactText (normalizeCodexCliSpawnError error))).map matchers.redactText

def StdinAnswer.lifecycle : StdinAnswer → StdinLifecycle
  | endThrows error => ⟨false, false, stdinError matchers error⟩
  | ended => ⟨true, false, none⟩
  | destroyed => ⟨true, true, none⟩
  | destroyThrows error => ⟨true, false, stdinError matchers error⟩

/-- `resolvedOptions.timeoutMs && resolvedOptions.timeoutMs > 0`. -/
def CodexCliProcessRunOptions.hasTimeout (options : CodexCliProcessRunOptions) : Bool :=
  options.timeoutMs.any (0 < ·)

def ChildState.started (stdin : StdinAnswer) : ChildState where
  stdout := []
  stderr := []
  lifecycle := startedLifecycle options (stdin.lifecycle matchers)
  timeoutArmed := options.hasTimeout
  graceArmed := false
  settled := false
  resolved := []

/-- What the call has come to. -/
inductive Outcome where
  | thrown (thrown : Thrown)
  /-- The child of the probe has not settled. -/
  | probing
  /-- What the call has resolved with so far. -/
  | resolved (results : List CodexCliProcessRunResult)

/-- From the call of the spawner. -/
def awaitChild : Spawned → Outcome
  | .throws error =>
    let message := normalizeCodexCliSpawnError error
    .resolved [createResult matchers host plan options modelProbe
      (startedLifecycle options ⟨false, false, none⟩) ⟨1, [], some message⟩ (some message)]
  | .child _ (some message) _ => .thrown (.error message)
  | .child stdin none events =>
    .resolved (events.foldl (ChildState.step matchers host plan options modelProbe)
      (ChildState.started matchers options stdin)).resolved

def spawnCall : SpawnCall where
  command := plan.command
  args := plan.args
  cwd := truthy plan.workdir
  env := resolveCodexCliSpawnEnv host plan.command options.env options.oneShotEnv

/-! ## Runs -/

structure Run where
  probeSpawns : List SpawnCall
  spawns : List SpawnCall
  outcome : Outcome

/-- Why a plan may not be run with the options that are resolved. -/
def validationBlockers : List Str :=
  validateCodexCliExecPlanForRun host.platform plan options.validation
    ++ if options.governanceEnabled then
        getCodexCliGovernancePreRunBlockers plan.forGovernance options.previousState
      else []

/-- The part of `runCodexCliExecPlan` after the probe. -/
def runProbedPlan (spawned : Spawned) : Run :=
  let blockers := validationBlockers host plan options
    ++ getCodexCliModelProbeBlockingReasons modelProbe options
  if blockers ≠ [] then
    { probeSpawns := []
      spawns := []
      outcome := .thrown (.error (js "codex_cli_plan_not_runnable:" ++ join (cu ',') blockers)) }
  else
    { probeSpawns := []
      spawns := [spawnCall host plan options]
      outcome := awaitChild matchers host plan options modelProbe spawned }

/-! ## Probes -/

/-- The message of an event that is one of the agent. -/
def agentMessage (payload : Payload) : Option Str :=
  if stringField payload "type" = some (js "agent_message") then
    (stringField payload "message").or (stringField payload "text")
  else if itemType payload = some (js "agent_message") then
    let item := (itemOf payload).getD []
    (stringField item "text").or (stringField item "message")
  else none

def extractCodexCliUnexpectedProbeToolUses (events : List CodexCliJsonlEvent) : List Str :=
  distinct ((events.flatMap fun event =>
    (stringField event.event "type").toList ++ (itemType event.event).toList).filter
      isCodexCliProbeToolLikeEventType)

def inspectCodexCliModelProbeRun (run : CodexCliProcessRunResult) : List Str :=
  distinct ((if run.inspection.status = .completed then []
      else js "codex_cli_model_probe_failed" :: run.inspection.blockingReasons)
    ++ reasonIf (!run.inspection.events.any fun event =>
        (agentMessage event.event).any fun message => trim message = modelProbeOk)
      "codex_cli_model_probe_unexpected_response"
    ++ (extractCodexCliUnexpectedProbeToolUses run.inspection.events).map
      (js "codex_cli_model_probe_unexpected_tool_use:" ++ ·))

def sanitizeCodexCliModelProbeError : Thrown → Str
  | .error message =>
    if startsWith message "codex_cli_plan_not_runnable:" then message
    else if includes message "ENOENT" then "codex_cli_command_not_found"
    else if includes message "EACCES" || includes message "EPERM" then
      "codex_cli_command_not_executable"
    else "codex_cli_model_probe_error"
  | .schema _ => "codex_cli_model_probe_error"

/-- The options that a probe is run with. -/
def modelProbeRunOptions : CodexCliProcessRunOptions where
  allowWriteSandbox := none
  allowSkipGitRepoCheck := none
  workspaceWritePreflight := none
  timeoutMs := some (options.modelProbeTimeoutMs.getD 180000)
  env := options.env
  oneShotEnv := options.oneShotEnv
  modelProbe := none
  requireModelProbe := none
  autoProbeModelWithCli := none
  modelProbeStrict := none
  modelProbeTimeoutMs := none
  modelProbeCacheTtlMs := none
  disableModelProbeCache := none
  modelCatalog := none
  requireModelCatalog := none
  skipExecutionModelProbe := some true
  terminationGraceMs := options.terminationGraceMs
  governance := none

/-- The evidence of these reasons; `strict` makes them block. -/
def probeEvidence (strict : Bool) (model : Str) (warnings reasons : List Str) :
    CodexCliModelCliProbeEvidence where
  status := if reasons = [] then .passed else if strict then .failed else .unavailable
  model
  warnings
  blockingReasons := if strict then reasons else []

/-- What a probe has come to, with the calls of the spawner. -/
inductive Probed where
  | thrown (thrown : Thrown)
  | waiting (spawns : List SpawnCall)
  | answered (spawns : List SpawnCall) (evidence : Option CodexCliModelCliProbeEvidence)

def ranProbe (strict : Bool) (model : Str) (run : Run) : Probed :=
  match run.outcome with
  | .thrown thrown =>
    let reason := sanitizeCodexCliModelProbeError thrown
    .answered run.spawns (probeEvidence strict model [reason] [reason])
  | .probing | .resolved [] => .waiting run.spawns
  | .resolved (result :: _) =>
    let reasons := inspectCodexCliModelProbeRun result
    .answered run.spawns (probeEvidence strict model
      (if reasons = [] then result.inspection.warnings
        else distinct (result.inspection.warnings ++ reasons)) reasons)

/-- The registry and the cache of the process, its clock, and what the spawner does. -/
structure World where
  descriptors : List CodexCliRuntimeDescriptor
  probeCache : List (Str × CodexCliModelProbeCacheEntry)
  now : ℚ
  probeChild : Spawned
  child : Spawned

/-- `runCodexCliExecPlan(plan, …)` of a probe looks for no further probe. -/
def createCodexCliModelCliProbeEvidence (world : World) (command cwd model : Str)
    (strict : Bool) : Probed :=
  let model := trim model
  if model = [] then
    .answered [] (some (probeEvidence strict [] ["codex_cli_model_probe_model_missing"]
      ["codex_cli_model_probe_model_missing"]))
  else
    match createCodexCliModelProbeExecPlan host.platform world.descriptors command model cwd with
    | .error thrown => .thrown thrown
    | .ok probePlan =>
      ranProbe strict model (runProbedPlan matchers host probePlan (modelProbeRunOptions options)
        none world.probeChild)

/-- The evidence that the cache has for a model. -/
def cachedProbe (world : World) (model : Str) : Option CodexCliModelCliProbeEvidence :=
  if options.disableModelProbeCache = some true then none
  else readCodexCliModelProbeCache world.probeCache world.now
    (createCodexCliModelProbeCacheKey plan.command (plan.workdir.getD host.cwd) model)
    (options.modelProbeCacheTtlMs.getD 300000)

def resolveCodexCliModelProbeForRun (world : World) : Probed :=
  if options.skipExecutionModelProbe = some true then .answered [] none
  else if options.modelProbe.isSome then .answered [] options.modelProbe
  else if options.autoProbeModelWithCli ≠ some true then .answered [] none
  else
    match plan.probedModel with
    | none => .answered [] none
    | some model =>
      match cachedProbe host plan options world model with
      | some evidence => .answered [] (some evidence)
      | none =>
        createCodexCliModelCliProbeEvidence matchers host options world plan.command
          (plan.workdir.getD host.cwd) model
          ((options.modelProbeStrict.or options.requireModelProbe).getD true)

def runCodexCliExecPlan (world : World) : Run :=
  let options := resolveCodexCliProcessRunOptions plan options
  match resolveCodexCliModelProbeForRun matchers host plan options world with
  | .thrown thrown => ⟨[], [], .thrown thrown⟩
  | .waiting probeSpawns => ⟨probeSpawns, [], .probing⟩
  | .answered probeSpawns modelProbe =>
    { runProbedPlan matchers host plan options modelProbe world.child with probeSpawns }

end

end CodexRouter.Cli
