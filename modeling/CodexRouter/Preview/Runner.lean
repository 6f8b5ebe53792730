import CodexRouter.Preview.Policy
import CodexRouter.Runs.Comp
import CodexRouter.Status.Porcelain

/-!
# What the previewer asks of git

Every process is run by a runner, in the source repository or in the clone. What a runner does in
the clone is not known. The state keeps the runs of a preview in order, each with the repository it
found and the one it left.
-/

open Js Runs

namespace CodexRouter.Preview
open Kernel Authorization Status

/-! ## Directories -/

inductive FileKind where
  | file | directory | symbolicLink | other
  deriving DecidableEq

/-- What `realpath(path)` comes to, against the root. -/
inductive RealPath where
  | inside | outside | missing | failed
  deriving DecidableEq

inductive Lstat where
  | missing | failed
  | found (kind : FileKind) (nlink : ℕ) (real : RealPath)
  deriving DecidableEq

/-- The answers of the file system below a root, of which paths are relative. -/
structure Directory where
  /-- The error of `realpath(root)`. -/
  rootError : Option Str
  lstat : Str → Lstat
  /-- Whether `access(path)` returns. -/
  access : Str → Bool
  /-- The digest of `readFile(path)`, or the error. -/
  readHash : Str → Except Str Str

structure Repository where
  branch : Str
  head : Str
  /-- What git status has to report. -/
  entries : List StatusEntry
  files : Directory

/-- The body of the inner loop, over the longer and longer starts of one path. -/
def pathTopologyReasons (files : Directory) (target : Str) (allowMissingFinal : Bool)
    (above : List Str) : List Str → List Str
  | [] => []
  | part :: parts =>
    let final : Bool := parts = []
    match files.lstat (join slash (above ++ [part])) with
    | .missing => if allowMissingFinal then [] else [js "preview_target_missing:" ++ target]
    | .failed => [js "preview_target_topology_check_failed:" ++ target]
    | .found kind nlink real =>
      if kind = .symbolicLink then [js "preview_symlink_target_forbidden:" ++ target]
      else if final ∧ kind = .directory then [js "preview_directory_target_forbidden:" ++ target]
      else if final ∧ kind ≠ .file then [js "preview_non_regular_target_forbidden:" ++ target]
      else if kind = .file ∧ 1 < nlink then [js "preview_hardlink_target_forbidden:" ++ target]
      else
        match real with
        | .outside => [js "preview_target_outside_clone:" ++ target]
        | .missing => if allowMissingFinal then [] else [js "preview_target_missing:" ++ target]
        | .failed => [js "preview_target_topology_check_failed:" ++ target]
        | .inside => pathTopologyReasons files target allowMissingFinal (above ++ [part]) parts

def collectTargetTopologyReasons (files : Directory) (targets : List Str)
    (allowMissingFinal : Bool) : Result (List Str) :=
  match files.rootError with
  | some error => fail error
  | none => return uniqueStrings (targets.flatMap fun target =>
      pathTopologyReasons files target allowMissingFinal [] (split slash target))

/-! ## Processes -/

/-- Where a process works. -/
inductive Place where
  | source | clone
  /-- The directory around the clone. -/
  | cloneRoot
  deriving DecidableEq

abbrev Bytes := List (Fin 256)

-- Numerals of bytes go through this, whatever else is imported.
instance (priority := high) byte_neZero : @NeZero ℕ Zero.ofOfNat0 256 := ⟨by decide⟩

inductive Stdin where
  | text (text : Str)
  | bytes (bytes : Bytes)
  deriving DecidableEq

structure PreviewProcessInput where
  executable : Str
  argv : List Str
  cwd : Place
  stdin : Option Stdin
  timeoutMs : ℕ
  env : List (Str × Str)
  deriving DecidableEq

structure PreviewProcessResult where
  status : PreviewCheckStatus
  exitCode : Option ℤ
  stdout : Str
  stdoutBytes : Option Bytes
  durationMs : ℕ

/-- A run whose promise is rejected has the error. -/
structure PreviewProcessRunner where
  run : ℕ → Repository → PreviewProcessInput → Result PreviewProcessResult × Repository

/-- `command` is the command of the policy that is run, and `none` where the previewer runs git. -/
structure PreviewRun where
  input : PreviewProcessInput
  command : Option (PreviewPhase × ExactArgvCommand)
  started : Repository
  left : Repository
  result : Result PreviewProcessResult

structure PreviewState where
  source : Repository
  clone : Repository
  runs : List PreviewRun
  checks : List PreviewCheckReceipt
  reasons : List Str
  cloneCreated : Bool

abbrev PreviewCall := Comp Thrown PreviewState

/-- What the process gives to a preview. -/
structure PreviewHost where
  platform : Str
  processEnv : Str → Option Str
  tempRoot : Str
  /-- The directory that `mkdtemp` makes, and the clone in it. -/
  cloneRoot : Str
  clonePath : Str
  /-- `resolve(input.repoRoot)`. -/
  repoRoot : Str
  encodeUtf8 : Str → Bytes
  /-- `new TextDecoder("utf-8", \x7b fatal: true \x7d).decode(bytes)`. -/
  decodeUtf8 : Bytes → Option Str

section
variable (host : PreviewHost) (runner : PreviewProcessRunner)

def nullDevice : Str := if host.platform = js "win32" then "NUL" else "/dev/null"

def createSanitizedEnv (tempRoot : Str) : List (Str × Str) :=
  [(js "CI", js "true"), (js "GIT_CONFIG_NOSYSTEM", js "1"),
    (js "GIT_CONFIG_GLOBAL", nullDevice host), (js "GIT_NO_LAZY_FETCH", js "1"),
    (js "GIT_OPTIONAL_LOCKS", js "0"), (js "GIT_TERMINAL_PROMPT", js "0"), (js "HOME", tempRoot),
    (js "TMPDIR", tempRoot), (js "TEMP", tempRoot), (js "TMP", tempRoot)]
  ++ ([js "PATH", js "SystemRoot", js "COMSPEC", js "PATHEXT", js "WINDIR"].filterMap fun key =>
    (host.processEnv key).map (key, ·))

/-- A process of the source leaves it as it is. -/
def runProcess (input : PreviewProcessInput) (command : Option (PreviewPhase × ExactArgvCommand)) :
    PreviewCall PreviewProcessResult := fun s =>
  let started := if input.cwd = .source then s.source else s.clone
  let answer := runner.run s.runs.length started input
  let left := if input.cwd = .source then started else answer.2
  (answer.1,
    { s with
      clone := if input.cwd = .source then s.clone else left
      runs := s.runs ++ [⟨input, command, started, left, answer.1⟩] })

def gitInput (cwd : Place) (argv : List Str) (env : List (Str × Str)) : PreviewProcessInput where
  executable := "git"
  argv
  cwd
  stdin := none
  timeoutMs := 60 * 1000
  env

def runGitAllowFailure (cwd : Place) (argv : List Str) (env : List (Str × Str)) :
    PreviewCall PreviewProcessResult :=
  runProcess runner (gitInput cwd argv env) none

/-- `requireProcessPass`, with the result. -/
def passedProcess (input : PreviewProcessInput) (errorClass : Str) :
    PreviewCall PreviewProcessResult := do
  let result ← runProcess runner input none
  if result.status = .passed then return result else Comp.lift (fail errorClass)

def runGit (cwd : Place) (argv : List Str) (env : List (Str × Str)) :
    PreviewCall PreviewProcessResult :=
  passedProcess runner (gitInput cwd argv env) "preview_git_command_failed"

/-! ## Filters -/

def outputLimit : ℕ := 1024 * 1024

def requireProcessStdoutBytes (result : PreviewProcessResult) (errorClass : Str) :
    Result Bytes :=
  match result.stdoutBytes with
  | some bytes => return bytes
  | none => fail errorClass

def splitNullTerminatedFields (input : Bytes) (errorClass : Str) : Result (List Bytes) :=
  if input = [] then return []
  else if input.getLast? ≠ some 0 then fail errorClass
  else return input.dropLast.splitOn 0

def decodeUtf8Field (input : Bytes) (errorClass : Str) : Result Str :=
  match host.decodeUtf8 input with
  | some text => return text
  | none => fail errorClass

/-- The drivers of fields that come in threes: path, attribute and value. -/
def activeDrivers : List Bytes → Result (List Str)
  | pathField :: attributeField :: value :: fields => do
    let path ← decodeUtf8Field host pathField "preview_git_filter_path_encoding_unsupported"
    if path = [] then fail "preview_git_filter_attribute_schema_drift"
    else do
      let name ← decodeUtf8Field host attributeField
        "preview_git_filter_attribute_encoding_unsupported"
      if name ≠ js "filter" then fail "preview_git_filter_attribute_schema_drift"
      else do
        let driver ← decodeUtf8Field host value "preview_git_filter_driver_encoding_unsupported"
        let drivers ← activeDrivers fields
        return driver :: drivers
  | _ => return []

/-- The group of `/^filter\.(.*)\.(?:clean|smudge|process)$/u`. -/
def configuredDriver (key : Str) : Option Str :=
  if startsWith key "filter." then
    let rest := key.drop 7
    ([js ".clean", js ".smudge", js ".process"].find? (endsWith rest)).bind fun suffix =>
      let driver := rest.take (rest.length - suffix.length)
      if driver.any isLineTerminator then none else some driver
  else none

def hasActiveConfiguredGitFilters (env : List (Str × Str)) (additionalPaths : List Str) :
    PreviewCall Bool := do
  let trackedPaths ← runGit runner .source ["ls-files", "-z"] env
  let trackedPathBytes ← Comp.lift (requireProcessStdoutBytes trackedPaths
    "preview_git_filter_path_inventory_binary_output_missing")
  if outputLimit ≤ trackedPathBytes.length then
    Comp.lift (fail "preview_git_filter_path_inventory_exceeded")
  else do
    let additionalInput :=
      if additionalPaths = [] then [] else host.encodeUtf8 (join 0 additionalPaths ++ [0])
    let pathInput := trackedPathBytes ++ additionalInput
    if pathInput = [] then return false
    else do
      let result ← runProcess runner
        { gitInput .source ["check-attr", "--stdin", "-z", "filter"] env with
          stdin := some (.bytes pathInput) } none
      let attributeBytes ← Comp.lift (requireProcessStdoutBytes result
        "preview_git_filter_attribute_binary_output_missing")
      if result.status ≠ .passed ∨ outputLimit ≤ attributeBytes.length then
        Comp.lift (fail "preview_git_filter_attribute_inspection_failed")
      else do
        let fields ← Comp.lift (splitNullTerminatedFields attributeBytes
          "preview_git_filter_attribute_schema_drift")
        if fields.length % 3 ≠ 0 then
          Comp.lift (fail "preview_git_filter_attribute_schema_drift")
        else do
          let drivers ← Comp.lift (activeDrivers host fields)
          if drivers = [] then return false
          else do
            let configured ← runGitAllowFailure runner .source
              ["config", "--null", "--name-only", "--get-regexp",
                "^filter\\..*\\.(clean|smudge|process)$"] env
            if configured.status = .failed ∧ configured.exitCode = some 1 then return false
            else if configured.status ≠ .passed then
              Comp.lift (fail "preview_git_filter_command_inspection_failed")
            else do
              let configuredBytes ← Comp.lift (requireProcessStdoutBytes configured
                "preview_git_filter_command_binary_output_missing")
              if outputLimit ≤ configuredBytes.length then
                Comp.lift (fail "preview_git_filter_command_inspection_failed")
              else do
                let keyFields ← Comp.lift (splitNullTerminatedFields configuredBytes
                  "preview_git_filter_command_schema_drift")
                let keys ← Comp.lift (keyFields.mapM fun key => decodeUtf8Field host key
                  "preview_git_filter_command_encoding_unsupported")
                return (keys.filterMap configuredDriver).any drivers.contains

/-! ## The source repository -/

structure SourceRepositoryState where
  branch : Str
  headCommit : Str
  status : Str
  shallow : Bool
  hasSubmodules : Bool
  hasActiveConfiguredFilters : Bool
  hasPartialClone : Bool
  hasCustomHooksPath : Bool

def branchArgv : List Str := ["branch", "--show-current"]

def headArgv : List Str := ["rev-parse", "HEAD"]

def sourceStatusArgv : List Str :=
  ["-c", "core.fsmonitor=false", "status", "--porcelain=v1", "-z", "--ignore-submodules=all"]

def cloneStatusArgv : List Str := ["status", "--porcelain=v1", "-z", "--untracked-files=all"]

def inspectPartialClone (env : List (Str × Str)) : PreviewCall Bool := do
  let partialClone ← runGitAllowFailure runner .source
    ["config", "--local", "--get-regexp", "^(extensions\\.partialclone|remote\\..*\\.promisor)$"]
    env
  if partialClone.status = .passed then return trim partialClone.stdout ≠ []
  else if partialClone.status = .failed ∧ partialClone.exitCode = some 1 then return false
  else Comp.lift (fail "preview_partial_clone_inspection_failed")

/-- Status is not asked where it could run a filter. -/
def inspectStatus (env : List (Str × Str)) (hidden : Bool) : PreviewCall Str :=
  if hidden then return []
  else do
    let status ← runGit runner .source sourceStatusArgv env
    return status.stdout

def inspectSourceRepository (additionalFilterPaths : List Str) :
    PreviewCall SourceRepositoryState := do
  let env := createSanitizedEnv host host.tempRoot
  let branch ← runGit runner .source branchArgv env
  let headCommit ← runGit runner .source headArgv env
  let hasActiveConfiguredFilters ← hasActiveConfiguredGitFilters host runner env
    additionalFilterPaths
  let hasPartialClone ← inspectPartialClone runner env
  let status ← inspectStatus runner env (hasActiveConfiguredFilters || hasPartialClone)
  let shallow ← runGit runner .source ["rev-parse", "--is-shallow-repository"] env
  let tracked ← runGit runner .source ["ls-files", "--stage", "-z"] env
  let hooks ← runGitAllowFailure runner .source ["config", "--local", "--get", "core.hooksPath"]
    env
  return {
    branch := trim branch.stdout
    headCommit := trim headCommit.stdout
    status
    shallow := trim shallow.stdout ≠ js "false"
    hasSubmodules := (records tracked.stdout).any fun entry =>
      startsWith entry "160000 " || endsWith entry "\t.gitmodules"
    hasActiveConfiguredFilters
    hasPartialClone
    hasCustomHooksPath := hooks.status = .passed && trim hooks.stdout ≠ [] }

/-- The text behind the first tab of an entry, or the entry. -/
def treeEntryPath (entry : Str) : Str :=
  if cu '\t' ∈ entry then (entry.dropWhile (· ≠ cu '\t')).drop 1 else entry

/-- `entry.slice(0, separator)`, where the separator may be -1. -/
def treeEntryMetadata (entry : Str) : Str :=
  if cu '\t' ∈ entry then entry.takeWhile (· ≠ cu '\t') else entry.dropLast

/-- The first link among the starts of one path. -/
def trackedModeReasons (headCommit target : Str) (env : List (Str × Str)) (above : List Str) :
    List Str → PreviewCall (List Str)
  | [] => return []
  | part :: parts => do
    let treePrefix := join slash (above ++ [part])
    let tree ← runGit runner .source
      ["ls-tree", "-z", headCommit, "--", js ":(top,literal)" ++ treePrefix] env
    let linked := (records tree.stdout).any fun entry =>
      decide (treeEntryPath entry = treePrefix) && startsWith (treeEntryMetadata entry) "120000 "
    if linked then return [js "preview_symlink_target_forbidden:" ++ target]
    else trackedModeReasons headCommit target env (above ++ [part]) parts

def trackedModeReasonsOf (headCommit : Str) (env : List (Str × Str)) :
    List Str → PreviewCall (List Str)
  | [] => return []
  | target :: targets => do
    let reasons ← trackedModeReasons runner headCommit target env [] (split slash target)
    let rest ← trackedModeReasonsOf headCommit env targets
    return reasons ++ rest

def collectTrackedTargetModeReasons (headCommit : Str) (targets : List Str)
    (env : List (Str × Str)) : PreviewCall (List Str) := do
  let reasons ← trackedModeReasonsOf runner headCommit env targets
  return uniqueStrings reasons

variable [Runtime]

omit host runner in
def validateSourceState (state : SourceRepositoryState) (changeSet : GovernedFileChangeSet)
    (facts : CapabilityFacts) : List Str :=
  let reason (condition : Bool) (text : Str) : List Str := if condition then [text] else []
  uniqueStrings (
    reason (state.headCommit ≠ changeSet.baseHead) "preview_source_head_mismatch"
    ++ reason (state.status ≠ []) "preview_source_worktree_not_clean"
    ++ reason (some state.branch ≠ facts.repository.branch) "preview_source_branch_mismatch"
    ++ reason (isProtectedBranch (some state.branch)) "preview_source_protected_branch"
    ++ reason state.shallow "preview_source_shallow_repository"
    ++ reason state.hasSubmodules "preview_source_submodules_unsupported"
    ++ reason state.hasActiveConfiguredFilters "preview_source_filters_unsupported"
    ++ reason state.hasPartialClone "preview_source_partial_clone_unsupported"
    ++ reason state.hasCustomHooksPath "preview_source_hooks_path_unsupported")

end

end CodexRouter.Preview
