import CodexRouter.Cli.ExecPlan
import CodexRouter.Js.Map
import CodexRouter.Js.Result

/-!
# Children of the CLI host

A plan runs in a child that the spawner starts with an environment of its own. Before that, the
model of the plan may be probed with a plan that the host makes itself.
-/

open Js

namespace CodexRouter.Cli

/-! ## Environments -/

/-- `Object.entries(env)`; a variable may be `undefined`. -/
abbrev ProcessEnv := List (Str × Option Str)

/-- What the process and its libraries give. -/
structure Host where
  platform : Str
  processEnv : ProcessEnv
  cwd : Str
  toUpperCase : Str → Str
  /-- `path.join(left, right)`. -/
  join : Str → Str → Str
  /-- The first and the second reading of the clock for a governance bundle. -/
  observedAt : Str
  createdAt : Str

def childEnvAllowlist : List Str :=
  ["PATH", "HOME", "USERPROFILE", "APPDATA", "LOCALAPPDATA", "TMPDIR", "TEMP", "TMP", "SHELL",
    "COMSPEC", "CODEX_HOME", "CODEX_SQLITE_HOME", "CODEX_CA_CERTIFICATE", "SSL_CERT_FILE",
    "RUST_LOG", "SYSTEMROOT", "WINDIR", "PATHEXT"]

def childEnvSecretKeys : List Str := ["OPENAI_API_KEY", "CODEX_API_KEY", "CODEX_ACCESS_TOKEN"]

def oneShotEnvAllowlist : List Str := ["CODEX_API_KEY"]

section
variable (host : Host)

def buildCodexCliChildEnv (baseEnv : ProcessEnv) : List (Str × Str) :=
  baseEnv.filterMap fun (key, value) =>
    if host.toUpperCase key ∈ childEnvAllowlist ∧ host.toUpperCase key ∉ childEnvSecretKeys then
      value.map (key, ·)
    else none

/-- The variables that are passed on to one child. -/
def oneShotVariables (oneShotEnv : ProcessEnv) : List (Str × Str) :=
  oneShotEnv.filterMap fun (key, value) =>
    if host.toUpperCase key ∈ oneShotEnvAllowlist then value.map (key, ·) else none

def applyCodexCliOneShotEnv (childEnv : List (Str × Str)) (oneShotEnv : Option ProcessEnv) :
    List (Str × Str) :=
  (oneShotVariables host (oneShotEnv.getD [])).foldl
    (fun env entry => Map.assign entry.1 entry.2 env) childEnv

/-- A line terminator, which `.` does not match. -/
def isLineTerminator (c : CodeUnit) : Bool :=
  c.val = 0x0a || c.val = 0x0d || c.val = 0x2028 || c.val = 0x2029

def isSlash (c : CodeUnit) : Bool := c = cu '/' || c = cu '\\'

/-- The group of `/^(.*)[/\\]bin[/\\]codex\.exe$/i`. -/
def windowsCommandRoot (command : Str) : Option Str :=
  let root := command.take (command.length - 14)
  let tail := (command.drop (command.length - 14)).map asciiLower
  if tail.length = 14 ∧ tail.head?.any isSlash ∧ (tail.drop 1).take 3 = js "bin"
      ∧ (tail.drop 4).head?.any isSlash ∧ tail.drop 5 = js "codex.exe"
      ∧ root.any isLineTerminator = false then
    some root
  else none

def resolveWindowsCodexHelperPathForCommand (command : Str) : Option Str :=
  if host.platform = js "win32" then
    ((windowsCommandRoot command).filter (· ≠ [])).map (host.join · "codex-path")
  else none

variable [Runtime]

/-- Of the keys of an environment. -/
def getWindowsPathEnvKey (keys : List Str) : Option Str :=
  keys.find? fun key => Runtime.toLowerCase key = js "path"

def prependCodexCliWindowsHelperPath (childEnv : List (Str × Str)) (baseEnv : ProcessEnv)
    (helperPath : Str) : List (Str × Str) :=
  let pathKey := ((getWindowsPathEnvKey (childEnv.map (·.1))).or
    (getWindowsPathEnvKey (baseEnv.map (·.1)))).getD "PATH"
  let currentPath :=
    ((childEnv.lookup pathKey).or ((baseEnv.lookup pathKey).getD none)).getD []
  let pathEntries := ((split (cu ';') currentPath).map trim).filter (· ≠ [])
  if pathEntries.any fun entry => Runtime.toLowerCase entry = Runtime.toLowerCase helperPath then
    Map.assign pathKey currentPath childEnv
  else
    Map.assign pathKey
      (if currentPath = [] then helperPath else helperPath ++ js ";" ++ currentPath) childEnv

def resolveCodexCliSpawnEnv (command : Str) (baseEnv oneShotEnv : Option ProcessEnv) :
    List (Str × Str) :=
  let baseEnv := baseEnv.getD host.processEnv
  let childEnv := buildCodexCliChildEnv host baseEnv
  let childEnv :=
    match (resolveWindowsCodexHelperPathForCommand host command).filter (· ≠ []) with
    | some helperPath => prependCodexCliWindowsHelperPath childEnv baseEnv helperPath
    | none => childEnv
  applyCodexCliOneShotEnv host childEnv oneShotEnv

end

/-! ## Options -/

inductive CodexCliModelCheckEvidenceStatus where
  | passed | failed | unavailable
  deriving DecidableEq

/-- The members of the evidence that a run reads or reports. -/
structure CodexCliModelCliProbeEvidence where
  status : CodexCliModelCheckEvidenceStatus
  model : Str
  warnings : List Str
  blockingReasons : List Str
  deriving DecidableEq

structure CodexCliGovernanceRunOptions where
  enabled : Option Bool
  previousState : Option CodexCliGovernanceState
  evidenceRef : Option Str

/-- A catalog is its model ids. The sink of telemetry is left out. -/
structure CodexCliProcessRunOptions where
  allowWriteSandbox : Option Bool
  allowSkipGitRepoCheck : Option Bool
  workspaceWritePreflight : Option CodexCliWorkspaceWriteRunPreflight
  timeoutMs : Option ℚ
  env : Option ProcessEnv
  oneShotEnv : Option ProcessEnv
  modelProbe : Option CodexCliModelCliProbeEvidence
  requireModelProbe : Option Bool
  autoProbeModelWithCli : Option Bool
  modelProbeStrict : Option Bool
  modelProbeTimeoutMs : Option ℚ
  modelProbeCacheTtlMs : Option ℚ
  disableModelProbeCache : Option Bool
  modelCatalog : Option (List Str)
  requireModelCatalog : Option Bool
  skipExecutionModelProbe : Option Bool
  terminationGraceMs : Option ℚ
  governance : Option CodexCliGovernanceRunOptions

namespace CodexCliProcessRunOptions

/-- The options of a run that a validation reads. -/
def validation (options : CodexCliProcessRunOptions) : CodexCliValidationOptions where
  allowWriteSandbox := options.allowWriteSandbox
  allowSkipGitRepoCheck := options.allowSkipGitRepoCheck
  workspaceWritePreflight := options.workspaceWritePreflight
  hasModelProbe := options.modelProbe.isSome
  requireModelProbe := options.requireModelProbe
  autoProbeModelWithCli := options.autoProbeModelWithCli
  modelCatalog := options.modelCatalog
  requireModelCatalog := options.requireModelCatalog

def governanceEnabled (options : CodexCliProcessRunOptions) : Bool :=
  options.governance.bind (·.enabled) ≠ some false

def previousState (options : CodexCliProcessRunOptions) : Option CodexCliGovernanceState :=
  options.governance.bind (·.previousState)

end CodexCliProcessRunOptions

/-- The members that governance reads. -/
def CodexCliExecPlan.forGovernance (plan : CodexCliExecPlan) : CodexCliGovernancePlanLike where
  sandbox := plan.sandbox
  approvalPolicy := plan.approvalPolicy
  model := plan.model

/-- The model that a run probes. -/
def CodexCliExecPlan.probedModel (plan : CodexCliExecPlan) : Option Str := truthy plan.checkedModel

def resolveCodexCliProcessRunOptions (plan : CodexCliExecPlan)
    (options : CodexCliProcessRunOptions) : CodexCliProcessRunOptions :=
  if options.skipExecutionModelProbe = some true then options
  else
    match plan.probedModel with
    | none => options
    | some _ =>
      { options with
        autoProbeModelWithCli := options.autoProbeModelWithCli.getD true
        requireModelProbe := options.requireModelProbe.getD true }

def getCodexCliModelProbeBlockingReasons (evidence : Option CodexCliModelCliProbeEvidence)
    (options : CodexCliProcessRunOptions) : List Str :=
  match evidence with
  | none => []
  | some evidence =>
    if evidence.status = .passed then []
    else if options.requireModelProbe ≠ some true ∧ options.modelProbeStrict ≠ some true then []
    else if evidence.blockingReasons = [] then
      [js "codex_cli_model_probe_unavailable:" ++ evidence.model]
    else evidence.blockingReasons

/-! ## The plan of a probe -/

def modelProbeOk : Str := "CODEX_CLI_MODEL_PROBE_OK"

section
variable [Runtime]

def isSafeEvidenceUnit (c : CodeUnit) : Bool :=
  (0x61 ≤ c.val && c.val ≤ 0x7a) || isDigit c || c = cu '.' || c = cu '_' || c = cu '-'

/-- Each run of other units becomes one `-`; `dashed` says that one was just left out. -/
def dashUnsafe : (dashed : Bool) → Str → Str
  | _, [] => []
  | dashed, c :: s =>
    if isSafeEvidenceUnit c then c :: dashUnsafe false s
    else if dashed then dashUnsafe true s
    else cu '-' :: dashUnsafe true s

def toSafeCodexCliEvidencePart (value fallback : Str) : Str :=
  let dashed := dashUnsafe false (Runtime.toLowerCase (trim value))
  let safe := (dashed.dropWhile (· = cu '-')).rdropWhile (· = cu '-')
  if safe = [] then fallback else safe

def probeSuccessCriteria : List Str :=
  [js "final agent message is exactly " ++ modelProbeOk,
    "no shell commands, tool calls, file edits, or external writes are attempted"]

def createCodexCliModelProbeTask (model repoRoot : Str) : TaskEnvelope where
  taskId := js "codex-cli-model-probe-" ++ toSafeCodexCliEvidencePart model "model"
  summary := "probe Codex CLI model availability"
  requestedAction :=
    js "The host runner is probing model " ++ model ++ js ". Reply exactly " ++ modelProbeOk
      ++ js ". Do not inspect, create, update, delete, or run shell commands."
  successCriteria := probeSuccessCriteria
  repoRoot
  branch := none
  worktreeClean := some true
  targetBranches := []
  targetFiles := []
  targetModules := ["codex-cli-host"]
  taskClassHint := some .readOnly
  riskHints := []

/-- The issues of the members that may not be empty. -/
def TaskEnvelope.issues (task : TaskEnvelope) : List Issue :=
  under "taskId" (nonEmpty task.taskId)
    ++ under "intent" (under "summary" (nonEmpty task.summary)
      ++ under "requestedAction" (nonEmpty task.requestedAction))
    ++ under "repoContext" (under "repoRoot" (optionally nonEmpty task.repoRoot)
      ++ under "branch" (optionally nonEmpty task.branch))

def parseTaskEnvelope (task : TaskEnvelope) : Result TaskEnvelope := parse TaskEnvelope.issues task

def texts (values : List Str) : Json := .arr (values.map .str)

/-- The task of a probe with the members that only its prompt shows. -/
def modelProbeTaskJson (model repoRoot : Str) : Json :=
  let task := createCodexCliModelProbeTask model repoRoot
  .obj [
    ("schemaVersion", .str "task-envelope.v1"),
    ("taskId", .str task.taskId),
    ("source", .str "cli"),
    ("intent", .obj [
      ("summary", .str task.summary),
      ("requestedAction", .str task.requestedAction),
      ("successCriteria", texts task.successCriteria),
      ("outOfScope", texts ["file edits", "workspace-write sandbox", "external writes",
        "release actions", "shell commands", "nested Codex CLI execution"])]),
    ("repoContext", .obj [("repoRoot", .str repoRoot), ("worktreeClean", .bool true)]),
    ("target", .obj [
      ("branches", texts task.targetBranches),
      ("files", texts task.targetFiles),
      ("modules", texts task.targetModules)]),
    ("constraints", .obj []),
    ("hints", .obj [
      ("taskClassHint", .str "read_only"),
      ("riskHints", texts task.riskHints),
      ("tags", texts ["codex-cli-model-probe", model]),
      ("provenance", .arr [])])]

def buildCodexCliTaskPrompt (task : Json) : Str :=
  join (cu '\n') [
    "You are running as a Codex CLI host adapter for codex-router.",
    "Follow the task envelope exactly and preserve codex-router safety posture.",
    [],
    "Task envelope:",
    task.text [cu ' ', cu ' '] []]

def createCodexCliModelProbePrompt : Str :=
  js "Reply exactly " ++ modelProbeOk
    ++ js ". Do not run shell commands, inspect files, call tools, or perform any other action."

/-- The registry has at most one descriptor of an id. -/
def resolveDescriptor (platform : Str) (descriptors : List CodexCliRuntimeDescriptor)
    (command : Str) : Result CodexCliRuntimeDescriptor :=
  let descriptor := createCodexCliRuntimeDescriptor platform command
  match descriptors.find? (·.runtimeId = descriptor.runtimeId) with
  | none => .ok descriptor
  | some existing =>
    if hashCodexCliRuntimeDescriptor existing = hashCodexCliRuntimeDescriptor descriptor then
      .ok existing
    else fail (js "codex_cli_runtime_descriptor_conflict:" ++ descriptor.runtimeId)

def modelProbeArgs (model cwd : Str) : List Str :=
  ["exec", "--json", "--sandbox", "read-only", "--model", model, "--cd", cwd, "--ephemeral",
    "--ignore-user-config"]

/-- The assertions of a plan that is made, in their order. -/
def planAssertions (args : List Str) (prompt : Str) : List (Option Str) :=
  [assertNoDuplicateCodexCliSecurityArgs args,
    assertNoCodexCliWorkspaceExpansionArgs args,
    assertNoCodexCliProviderOverrideArgs args,
    assertNoCodexCliOutputWriteArgs args,
    assertNoCodexCliOutputSchemaArgs args,
    assertNoCodexCliImageAttachmentArgs args,
    assertNoCodexCliExecSubcommandArgs args prompt,
    assertNoCodexCliPolicyBypassArgs args,
    assertNoCodexCliFeatureFlagOverrideArgs args,
    assertCodexCliExecPlanArgAllowlist args prompt,
    assertNoGovernedCodexCliConfigOverrides args]

/-- The plan is asserted with the prompt of its task and gets another one. -/
def createCodexCliModelProbeExecPlan (platform : Str)
    (descriptors : List CodexCliRuntimeDescriptor) (command model cwd : Str) :
    Result CodexCliExecPlan := do
  let task ← parseTaskEnvelope (createCodexCliModelProbeTask model cwd)
  let args := modelProbeArgs model cwd
  match (planAssertions args (buildCodexCliTaskPrompt (modelProbeTaskJson model cwd))).reduceOption
    with
  | message :: _ => fail message
  | [] =>
    let descriptor ← resolveDescriptor platform descriptors command
    return {
      command
      args
      prompt := createCodexCliModelProbePrompt
      task
      sandbox := .readOnly
      approvalPolicy := .never
      runtimeBinding :=
        some (createCodexCliRuntimeBindingFromDescriptor descriptor command args (some cwd))
      model := some model
      workdir := some cwd }

end

/-! ## The cache of probes -/

structure CodexCliModelProbeCacheEntry where
  evidence : CodexCliModelCliProbeEvidence
  expiresAtMs : ℚ

def createCodexCliModelProbeCacheKey (command cwd model : Str) : Str :=
  join (cu '\n') [trim command, trim cwd, trim model]

/-- An entry that is too old is deleted, and is not seen again. -/
def readCodexCliModelProbeCache (cache : List (Str × CodexCliModelProbeCacheEntry)) (now : ℚ)
    (key : Str) (ttlMs : ℚ) : Option CodexCliModelCliProbeEvidence :=
  match cache.lookup key with
  | none => none
  | some entry => if ttlMs ≤ 0 ∨ entry.expiresAtMs ≤ now then none else some entry.evidence

end CodexRouter.Cli
