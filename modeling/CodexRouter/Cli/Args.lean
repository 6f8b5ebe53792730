import CodexRouter.Js.Runtime

/-!
# Arguments of the CLI

A plan carries the words that the CLI is started with. They are looked through by several scanners:
some take each word by itself, some pass over the word that a flag has taken as its value.
-/

open Js

namespace CodexRouter.Cli

/-! ## Flags -/

/-- The word is the flag, or has its value attached to it. -/
def matchesFlag (arg flag : Str) : Bool :=
  arg = flag
    || (startsWith flag "--" && startsWith arg (flag ++ js "="))
    || (startsWith flag "-" && !startsWith flag "--" && startsWith arg flag
      && flag.length < arg.length)

def matchCodexCliSecurityArg (arg : Str) (flags : List Str) : Option Str :=
  flags.find? (matchesFlag arg)

def findCodexCliArgMatch (args flags : List Str) : Option Str :=
  args.find? fun arg => (matchCodexCliSecurityArg arg flags).isSome

structure ArgValue where
  value : Str
  consumedNext : Bool
  deriving DecidableEq

/-- The value that a word has for the first of the flags that it matches; `next` is the word
after it. -/
def getCodexCliArgValueAt (arg : Str) (next : Option Str) : List Str → Option ArgValue
  | [] => none
  | flag :: flags =>
    if arg = flag then next.map (⟨·, true⟩)
    else if startsWith flag "--" && startsWith arg (flag ++ js "=") then
      some ⟨arg.drop (flag.length + 1), false⟩
    else if startsWith flag "-" && !startsWith flag "--" && startsWith arg flag
        && flag.length < arg.length then
      let compactValue := arg.drop flag.length
      some ⟨if startsWith compactValue "=" then compactValue.drop 1 else compactValue, false⟩
    else getCodexCliArgValueAt arg next flags

def getCodexCliArgValue (flag : Str) : List Str → Option Str
  | [] => none
  | arg :: args =>
    match getCodexCliArgValueAt arg args.head? [flag] with
    | some parsed => some parsed.value
    | none => getCodexCliArgValue flag args

/-- What a value flag sets. -/
inductive Setting where
  | approval | config | workdir | model | profile | sandbox
  deriving DecidableEq

def Setting.flags : Setting → List Str
  | approval => ["-a", "--ask-for-approval"]
  | config => ["-c", "--config"]
  | workdir => ["-C", "--cd", "--cwd"]
  | model => ["-m", "--model"]
  | profile => ["-p", "--profile"]
  | sandbox => ["-s", "--sandbox"]

/-- In the order of `valueFlags`. -/
def Setting.all : List Setting := [approval, config, workdir, model, profile, sandbox]

def valueFlags : List Str := Setting.all.flatMap Setting.flags

def booleanFlags : List Str :=
  ["--json", "--skip-git-repo-check", "--ephemeral", "--ignore-user-config"]

/-! ## Assertions

Each gives the message that it throws. -/

/-- `arg.split("=", 1)[0]`. -/
def readCodexCliFlagName (arg : Str) : Str := arg.takeWhile (· ≠ cu '=')

def dangerousCodexCliArgs : List Str :=
  ["--dangerously-bypass-approvals-and-sandbox", "--dangerously-bypass-hook-trust", "--yolo",
    "--full-auto"]

def assertNoDangerousCodexCliArgs (args : List Str) : Option Str :=
  (args.find? fun arg => dangerousCodexCliArgs.contains (readCodexCliFlagName arg)
    || includes arg "danger-full-access").map (js "codex_cli_dangerous_arg_not_allowed:" ++ ·)

/-- The message of an assertion that no word matches these flags. -/
def assertNoMatch (flags : List Str) (message : Str) (args : List Str) : Option Str :=
  (findCodexCliArgMatch args flags).map (message ++ ·)

def assertNoCodexCliWorkspaceExpansionArgs : List Str → Option Str :=
  assertNoMatch ["--add-dir"] "codex_cli_workspace_expansion_arg_not_allowed:"

def assertNoCodexCliPolicyBypassArgs : List Str → Option Str :=
  assertNoMatch ["--ignore-rules"] "codex_cli_policy_bypass_arg_not_allowed:"

def assertNoCodexCliFeatureFlagOverrideArgs : List Str → Option Str :=
  assertNoMatch ["--enable", "--disable"] "codex_cli_feature_flag_override_not_allowed:"

def assertNoCodexCliOutputWriteArgs : List Str → Option Str :=
  assertNoMatch ["-o", "--output-last-message"] "codex_cli_output_write_arg_not_allowed:"

def assertNoCodexCliOutputSchemaArgs : List Str → Option Str :=
  assertNoMatch ["--output-schema"] "codex_cli_output_schema_arg_not_allowed:"

def assertNoCodexCliImageAttachmentArgs : List Str → Option Str :=
  assertNoMatch ["-i", "--image", "--images"] "codex_cli_image_attachment_arg_not_allowed:"

/-- Any `--oss` before any `--local-provider`. -/
def assertNoCodexCliProviderOverrideArgs (args : List Str) : Option Str :=
  ((findCodexCliArgMatch args ["--oss"]).or
    (findCodexCliArgMatch args ["--local-provider"])).map
      (js "codex_cli_provider_override_arg_not_allowed:" ++ ·)

def assertNoCodexCliExecSubcommandArgs (args : List Str) (prompt : Str) : Option Str :=
  (args.find? fun arg => arg ≠ prompt && [js "help", js "resume", js "review"].contains arg).map
    (js "codex_cli_exec_subcommand_arg_not_allowed:" ++ ·)

/-- `skip` says that the first word was taken as a value. -/
def allowlistFrom (prompt : Str) : (skip : Bool) → List Str → Option Str
  | _, [] => none
  | true, _ :: args => allowlistFrom prompt false args
  | false, arg :: args =>
    if arg = js "exec" ∨ arg = prompt ∨ arg ∈ booleanFlags then allowlistFrom prompt false args
    else
      match getCodexCliArgValueAt arg args.head? valueFlags with
      | some parsed => allowlistFrom prompt parsed.consumedNext args
      | none =>
        if startsWith arg "-" then some (js "codex_cli_arg_not_allowlisted:" ++ arg)
        else some (js "codex_cli_positional_arg_not_allowlisted:" ++ arg)

def assertCodexCliExecPlanArgAllowlist (args : List Str) (prompt : Str) : Option Str :=
  allowlistFrom prompt false args

def Setting.name : Setting → Str
  | approval => "approval"
  | config => "config"
  | workdir => "workdir"
  | model => "model"
  | profile => "profile"
  | sandbox => "sandbox"

/-- The flags of a security group that the words match, each by itself. -/
def securityMatches (setting : Setting) (args : List Str) : List Str :=
  args.filterMap (matchCodexCliSecurityArg · setting.flags)

/-- `CODEX_CLI_SECURITY_ARG_GROUPS`: every setting but the config overrides. -/
def securityGroups : List Setting := [.approval, .workdir, .model, .profile, .sandbox]

def assertNoDuplicateCodexCliSecurityArgs (args : List Str) : Option Str :=
  securityGroups.findSome? fun group =>
    if 1 < (securityMatches group args).length then
      some (js "codex_cli_duplicate_security_arg:" ++ group.name ++ js ":"
        ++ join (cu ',') (securityMatches group args))
    else none

def overridesFrom : (skip : Bool) → List Str → List Str
  | _, [] => []
  | true, _ :: args => overridesFrom false args
  | false, arg :: args =>
    match getCodexCliArgValueAt arg args.head? Setting.config.flags with
    | some parsed => parsed.value :: overridesFrom parsed.consumedNext args
    | none => overridesFrom false args

def extractCodexCliConfigOverrides (args : List Str) : List Str := overridesFrom false args

def extractCodexCliConfigKey (override : Str) : Option Str :=
  let key := trim (override.takeWhile (· ≠ cu '='))
  if key = [] then none else some key

section
variable [Runtime]

def governedConfigKeys : List Str :=
  ["approval", "approval_policy", "ask_for_approval", "model", "model_provider", "profile",
    "sandbox", "sandbox_mode", "sandbox_permissions", "sandbox_workspace_write"]

def isGovernedCodexCliConfigKey (key : Str) : Bool :=
  let normalized := Runtime.toLowerCase key
  governedConfigKeys.any fun governedKey =>
    normalized = governedKey || startsWith normalized (governedKey ++ js ".")

/-- The governed key that an override sets. -/
def governedKey (override : Str) : Option Str :=
  (extractCodexCliConfigKey override).filter isGovernedCodexCliConfigKey

def assertNoGovernedCodexCliConfigOverrides (args : List Str) : Option Str :=
  ((extractCodexCliConfigOverrides args).findSome? governedKey).map
    (js "codex_cli_governed_config_override_not_allowed:" ++ ·)

end

end CodexRouter.Cli
