import CodexRouter.Cli.Args
import CodexRouter.Cli.Inspect
import CodexRouter.Js.JsonParse

/-!
# Plans of CLI runs

A plan may be run when no check of it gives a reason against.
-/

open Js

namespace CodexRouter.Cli

def CodexCliApprovalPolicy.text : CodexCliApprovalPolicy → Str
  | untrusted => "untrusted"
  | onRequest => "on-request"
  | never => "never"

/-! ## Plans -/

structure CodexCliRuntimeBinding where
  schemaVersion : Str
  runtimeId : Str
  descriptorHash : Str
  commandHash : Str
  argvShapeHash : Str
  promptChannel : Str
  protocol : Str
  trusted : Bool
  workdirHash : Option Str
  deriving DecidableEq

/-- A plan that a caller has built may lack its binding. -/
structure CodexCliExecPlan where
  command : Str
  args : List Str
  prompt : Str
  task : TaskEnvelope
  sandbox : CodexCliSandboxMode
  approvalPolicy : CodexCliApprovalPolicy
  runtimeBinding : Option CodexCliRuntimeBinding
  model : Option Str
  workdir : Option Str
  deriving DecidableEq

structure CodexCliWorkspaceWriteRunPreflight where
  beforeCommit : Option Str
  rollbackCommand : Option Str
  targetAllowlist : Option (List Str)
  deriving DecidableEq

/-- The options that a validation reads; a catalog is its model ids, and of a model probe only its
presence counts. -/
structure CodexCliValidationOptions where
  allowWriteSandbox : Option Bool
  allowSkipGitRepoCheck : Option Bool
  workspaceWritePreflight : Option CodexCliWorkspaceWriteRunPreflight
  hasModelProbe : Bool
  requireModelProbe : Option Bool
  autoProbeModelWithCli : Option Bool
  modelCatalog : Option (List Str)
  requireModelCatalog : Option Bool
  deriving DecidableEq

/-! ## Runtime bindings -/

def runtimeProtocol : Str := "exec-json-stdin-prompt.v1"

structure CodexCliRuntimeDescriptor where
  runtimeId : Str
  command : Str
  protocol : Str
  platform : Str
  deriving DecidableEq

section
variable [Runtime]

def hashCodexCliRuntimeValue (value : Json) : Str := Runtime.sha256 (Json.stringify value)

def hashCommand (command : Str) : Str :=
  hashCodexCliRuntimeValue (.obj [("codexCliRuntimeCommand", .str command)])

def createCodexCliRuntimeDescriptor (platform command : Str) : CodexCliRuntimeDescriptor where
  runtimeId :=
    if trim command = [] then "codex-cli:invalid-command"
    else if command = js "codex" then "codex-cli:default"
    else js "codex-cli:command:" ++ (hashCommand command).take 16
  command
  protocol := runtimeProtocol
  platform

def hashCodexCliRuntimeDescriptor (descriptor : CodexCliRuntimeDescriptor) : Str :=
  hashCodexCliRuntimeValue (.obj [
    ("schemaVersion", .str "codex-cli-runtime-descriptor.v1"),
    ("runtimeId", .str descriptor.runtimeId),
    ("command", .str descriptor.command),
    ("protocol", .str descriptor.protocol),
    ("platform", .str descriptor.platform)])

def createCodexCliRuntimeBindingFromDescriptor (descriptor : CodexCliRuntimeDescriptor)
    (command : Str) (args : List Str) (workdir : Option Str) : CodexCliRuntimeBinding where
  schemaVersion := "codex-cli-runtime-binding.v1"
  runtimeId := descriptor.runtimeId
  descriptorHash := hashCodexCliRuntimeDescriptor descriptor
  commandHash := hashCommand command
  argvShapeHash :=
    hashCodexCliRuntimeValue (.obj [("codexCliRuntimeArgvShape", .arr (args.map Json.str))])
  promptChannel := "stdin"
  protocol := descriptor.protocol
  trusted := true
  workdirHash := workdir.map fun workdir =>
    hashCodexCliRuntimeValue (.obj [("codexCliRuntimeWorkdir", .str workdir)])

def createCodexCliRuntimeBindingForPlan (platform : Str) (plan : CodexCliExecPlan) :
    CodexCliRuntimeBinding :=
  createCodexCliRuntimeBindingFromDescriptor (createCodexCliRuntimeDescriptor platform plan.command)
    plan.command plan.args plan.workdir

omit [Runtime] in
/-- `/^[a-f0-9]{64}$/`. -/
def isHash (text : Str) : Bool :=
  text.length = 64 && text.all fun c => isDigit c || (0x61 ≤ c.val && c.val ≤ 0x66)

omit [Runtime] in
def isCodexCliRuntimeBinding (binding : CodexCliRuntimeBinding) : Bool :=
  binding.schemaVersion = js "codex-cli-runtime-binding.v1"
    && [binding.descriptorHash, binding.commandHash, binding.argvShapeHash].all isHash
    && binding.workdirHash.all isHash
    && binding.promptChannel = js "stdin"
    && binding.protocol = runtimeProtocol
    && binding.trusted

/-- The last two checks repeat what makes it a binding. -/
def validateCodexCliRuntimeBindingForRun (platform : Str) (plan : CodexCliExecPlan) : List Str :=
  if trim plan.command = [] then []
  else
    match plan.runtimeBinding.filter isCodexCliRuntimeBinding with
    | none => [js "codex_cli_runtime_binding_missing"]
    | some binding =>
      let expected := createCodexCliRuntimeBindingForPlan platform plan
      distinct (
        (if binding.runtimeId = expected.runtimeId then []
          else [js "codex_cli_runtime_binding_runtime_mismatch"])
        ++ (if binding.descriptorHash = expected.descriptorHash then []
          else [js "codex_cli_runtime_binding_descriptor_mismatch"])
        ++ (if binding.commandHash = expected.commandHash then []
          else [js "codex_cli_runtime_binding_command_mismatch"])
        ++ (if binding.argvShapeHash = expected.argvShapeHash then []
          else [js "codex_cli_runtime_binding_argv_shape_mismatch"])
        ++ (if binding.workdirHash = expected.workdirHash then []
          else [js "codex_cli_runtime_binding_workdir_mismatch"])
        ++ (if binding.protocol = runtimeProtocol then []
          else [js "codex_cli_runtime_binding_protocol_unsupported:" ++ binding.protocol])
        ++ (if binding.promptChannel = js "stdin" then []
          else [js "codex_cli_runtime_binding_prompt_channel_mismatch"]))

end

/-! ## Models -/

inductive CodexCliModelAvailabilityStatus where
  | available | missing | notChecked
  deriving DecidableEq

structure CodexCliModelAvailabilityCheck where
  status : CodexCliModelAvailabilityStatus
  model : Option Str
  blockingReasons : List Str
  deriving DecidableEq

def extractOpenAiModelIds (models : List Str) : List Str :=
  uniqueStrings ((models.map trim).filter (· ≠ []))

def checkCodexCliModelAvailability (model : Option Str) (officialModels : Option (List Str))
    (requireCatalog : Option Bool) : CodexCliModelAvailabilityCheck :=
  match model.bind normalizeCodexCliOptionalText with
  | none => ⟨.notChecked, none, []⟩
  | some model =>
    match officialModels with
    | none =>
      ⟨.notChecked, model,
        if requireCatalog = some true then [js "codex_cli_model_catalog_required"] else []⟩
    | some officialModels =>
      if model ∈ extractOpenAiModelIds officialModels then ⟨.available, model, []⟩
      else ⟨.missing, model, [js "codex_cli_model_unavailable:" ++ model]⟩

/-- The model that the availability check and the model probe look at. -/
def CodexCliExecPlan.checkedModel (plan : CodexCliExecPlan) : Option Str :=
  plan.model.or (getCodexCliArgValue "--model" plan.args)

def checkCodexCliExecPlanModelAvailability (plan : CodexCliExecPlan)
    (options : CodexCliValidationOptions) : CodexCliModelAvailabilityCheck :=
  checkCodexCliModelAvailability plan.checkedModel options.modelCatalog
    options.requireModelCatalog

/-! ## Validation -/

def reasonIf (condition : Bool) (reason : Str) : List Str := if condition then [reason] else []

def sandboxReasons (plan : CodexCliExecPlan) : List Str :=
  match (getCodexCliArgValue "--sandbox" plan.args).filter (· ≠ []) with
  | none => [js "codex_cli_plan_must_set_sandbox"]
  | some sandboxArg =>
    if sandboxArg ∉ [js "read-only", js "workspace-write"] then
      [js "codex_cli_unsupported_sandbox_arg:" ++ sandboxArg]
    else if sandboxArg ≠ plan.sandbox.text then
      [js "codex_cli_sandbox_arg_mismatch:" ++ sandboxArg ++ js ":" ++ plan.sandbox.text]
    else []

def skipGitRepoCheckReasons (plan : CodexCliExecPlan) (options : CodexCliValidationOptions) :
    List Str :=
  match findCodexCliArgMatch plan.args ["--skip-git-repo-check"] with
  | none => []
  | some arg =>
    if plan.sandbox = .workspaceWrite
        ∨ getCodexCliArgValue "--sandbox" plan.args = some (js "workspace-write") then
      [js "codex_cli_skip_git_repo_check_not_allowed_for_workspace_write:" ++ arg]
    else if options.allowSkipGitRepoCheck ≠ some true then
      [js "codex_cli_skip_git_repo_check_requires_explicit_allowance:" ++ arg]
    else []

def workspaceWriteReasons (plan : CodexCliExecPlan) (options : CodexCliValidationOptions) :
    List Str :=
  let preflight := options.workspaceWritePreflight
  let optional (text : Option Str) := text.bind normalizeCodexCliOptionalText
  let targetAllowlist :=
    normalizeCodexCliExplicitTargetAllowlist (preflight.bind (·.targetAllowlist))
  reasonIf ((optional plan.task.repoRoot).isNone && (optional plan.workdir).isNone)
      "codex_cli_workspace_write_smoke_requires_repo_root"
    ++ reasonIf (plan.task.worktreeClean ≠ some true)
      "codex_cli_workspace_write_smoke_requires_clean_worktree"
    ++ reasonIf (optional (preflight.bind (·.beforeCommit))).isNone
      "codex_cli_workspace_write_smoke_requires_before_commit"
    ++ reasonIf (optional (preflight.bind (·.rollbackCommand))).isNone
      "codex_cli_workspace_write_smoke_requires_rollback_command"
    ++ reasonIf (plan.task.targetFiles = [] || targetAllowlist = []
        || !plan.task.targetFiles.all targetAllowlist.contains)
      "codex_cli_workspace_write_smoke_target_not_allowlisted"

/-- The approval policy that the words set. -/
def CodexCliExecPlan.approvalArg (plan : CodexCliExecPlan) : Option Str :=
  (getCodexCliArgValue "--ask-for-approval" plan.args).or (getCodexCliArgValue "-a" plan.args)

def approvalReasons (plan : CodexCliExecPlan) : List Str :=
  match plan.approvalArg with
  | none =>
    if plan.sandbox = .readOnly ∧ plan.approvalPolicy = .never then []
    else [js "codex_cli_plan_must_set_approval_policy"]
  | some [] => [js "codex_cli_plan_must_set_approval_policy"]
  | some approvalArg =>
    if approvalArg ∉ [js "untrusted", js "on-request", js "never"] then
      [js "codex_cli_unsupported_approval_policy_arg:" ++ approvalArg]
    else if approvalArg ≠ plan.approvalPolicy.text then
      [js "codex_cli_approval_policy_arg_mismatch:" ++ approvalArg ++ js ":"
        ++ plan.approvalPolicy.text]
    else []

def CodexCliExecPlan.workdirArg (plan : CodexCliExecPlan) : Option Str :=
  ((getCodexCliArgValue "--cd" plan.args).or (getCodexCliArgValue "--cwd" plan.args)).or
    (getCodexCliArgValue "-C" plan.args)

def workdirReasons (plan : CodexCliExecPlan) : List Str :=
  match plan.workdirArg with
  | none => []
  | some workdirArg =>
    if some workdirArg = plan.workdir then []
    else [js "codex_cli_workdir_arg_mismatch:" ++ workdirArg ++ js ":"
      ++ plan.workdir.getD "undefined"]

section
variable [Runtime]

/-- The messages of the assertions that throw, in their order. -/
def argReasons (plan : CodexCliExecPlan) : List Str :=
  ([assertNoDangerousCodexCliArgs plan.args,
    assertNoCodexCliWorkspaceExpansionArgs plan.args,
    assertNoCodexCliProviderOverrideArgs plan.args,
    assertNoCodexCliOutputWriteArgs plan.args,
    assertNoCodexCliOutputSchemaArgs plan.args,
    assertNoCodexCliImageAttachmentArgs plan.args,
    assertNoCodexCliExecSubcommandArgs plan.args plan.prompt,
    assertNoCodexCliPolicyBypassArgs plan.args,
    assertNoCodexCliFeatureFlagOverrideArgs plan.args,
    assertCodexCliExecPlanArgAllowlist plan.args plan.prompt,
    assertNoDuplicateCodexCliSecurityArgs plan.args,
    assertNoGovernedCodexCliConfigOverrides plan.args] : List (Option Str)).reduceOption

/-- A sandbox or an approval policy that is not supported is no value of its type. -/
def validateCodexCliExecPlanForRun (platform : Str) (plan : CodexCliExecPlan)
    (options : CodexCliValidationOptions) : List Str :=
  let isWorkspaceWritePlan : Bool := plan.sandbox = .workspaceWrite
    || getCodexCliArgValue "--sandbox" plan.args = some (js "workspace-write")
  reasonIf (trim plan.command = []) "codex_cli_command_missing"
    ++ reasonIf (!plan.args.contains (js "exec")) "codex_cli_plan_must_use_exec"
    ++ reasonIf (!plan.args.contains (js "--json")) "codex_cli_plan_must_use_json"
    ++ sandboxReasons plan
    ++ reasonIf (plan.sandbox = .workspaceWrite && options.allowWriteSandbox ≠ some true)
      "codex_cli_write_sandbox_requires_explicit_allowance"
    ++ skipGitRepoCheckReasons plan options
    ++ (if isWorkspaceWritePlan then workspaceWriteReasons plan options else [])
    ++ approvalReasons plan
    ++ reasonIf (isWorkspaceWritePlan && plan.approvalPolicy = .never)
      "codex_cli_workspace_write_disallows_approval_policy_never"
    ++ reasonIf (isWorkspaceWritePlan && plan.approvalArg = some (js "never"))
      "codex_cli_workspace_write_disallows_approval_arg_never"
    ++ workdirReasons plan
    ++ reasonIf (plan.args.contains plan.prompt) "codex_cli_prompt_must_use_stdin"
    ++ argReasons plan
    ++ validateCodexCliRuntimeBindingForRun platform plan
    ++ (checkCodexCliExecPlanModelAvailability plan options).blockingReasons
    ++ reasonIf (options.requireModelProbe = some true && !options.hasModelProbe
        && options.autoProbeModelWithCli ≠ some true)
      "codex_cli_model_probe_required"

end

end CodexRouter.Cli
