import CodexRouter.Js.Map
import CodexRouter.Preview.Runner

/-!
# Previews in a local clone

The changes are applied in a clone of the source, and the commands of a policy rule run there. What
is looked at before and after decides whether the preview passes.
-/

open Js Runs

namespace CodexRouter.Preview
open Kernel Authorization Status

structure PreviewIsolationAttestation where
  networkIsolation : NetworkIsolation
  filesystemIsolation : FilesystemIsolation
  scope : IsolationScope
  enforcerId : Str
  deriving DecidableEq

/-- `PreviewIsolationAttestationSchema`. -/
def PreviewIsolationAttestation.issues (isolation : PreviewIsolationAttestation) : List Issue :=
  under "enforcerId" (nonEmpty isolation.enforcerId)

structure FileChangePreviewInput where
  changeSet : GovernedFileChangeSet
  facts : CapabilityFacts
  policy : PreviewPolicy
  isolation : PreviewIsolationAttestation
  /-- `now()`. -/
  now : Str

/-- What a preview meets: its runner with the attestation that is registered for it, the source now
and when it is inspected again, what is in the place of the clone before, and whether the directory
around the clone can be made and removed. -/
structure PreviewWorld where
  runner : PreviewProcessRunner
  runnerAttestation : Option PreviewIsolationAttestation
  source : Repository
  sourceAfter : Repository
  clone : Repository
  mkdtempError : Option Str
  rmFails : Bool

def pushReasons (reasons : List Str) : PreviewCall Unit :=
  Comp.modify fun s => { s with reasons := s.reasons ++ reasons }

/-- The reason where it applies. -/
def reasonIf (condition : Bool) (reason : Str) : List Str := if condition then [reason] else []

def readReasons : PreviewCall (List Str) := Comp.read (·.reasons)

section
variable [Runtime]

/-! ## Checks of the clone -/

def beforeHashReasons (files : Directory) (change : GovernedFileChange) : List Str :=
  if change.kind = .create then
    if files.access change.path then [js "preview_create_target_exists:" ++ change.path] else []
  else
    match change.beforeHash.join with
    | none => [js "preview_before_hash_missing:" ++ change.path]
    | some beforeHash =>
      match files.readHash change.path with
      | .ok actual =>
        if actual = beforeHash then [] else [js "preview_before_hash_mismatch:" ++ change.path]
      | .error _ => [js "preview_before_target_unreadable:" ++ change.path]

def verifyBeforeHashes (files : Directory) (changeSet : GovernedFileChangeSet) : List Str :=
  uniqueStrings (changeSet.changes.flatMap (beforeHashReasons files))

def readTargetHash (files : Directory) (change : GovernedFileChange) : Result (Str × Str) :=
  match files.readHash change.path with
  | .ok hash => return (change.path, hash)
  | .error message => fail message

def readTargetHashes (files : Directory) (changeSet : GovernedFileChangeSet) :
    Result (Map Str Str) := do
  let hashes ← changeSet.changes.mapM (readTargetHash files)
  return Map.empty.setAll hashes

def verifyDeclaredAfterHashes (changeSet : GovernedFileChangeSet) (hashes : Map Str Str) :
    List Str :=
  changeSet.changes.flatMap fun change =>
    match change.afterHash.join with
    | some afterHash =>
      if hashes.get? change.path = some afterHash then []
      else [js "preview_after_hash_mismatch:" ++ change.path]
    | none => []

def sameHashMap (left right : Map Str Str) : Bool :=
  left.entries.length = right.entries.length
    && left.entries.all fun entry => right.get? entry.1 = some entry.2

variable (host : PreviewHost) (world : PreviewWorld) (changeSet : GovernedFileChangeSet)

def targetPaths : List Str := changeSet.changes.map (·.path)

def cloneEnv : List (Str × Str) := createSanitizedEnv host host.cloneRoot

/-- The paths that git status has reported are the ones that are proposed. -/
def verifyChangedTargetSet : PreviewCall (List Str) := do
  let status ← runGit world.runner .clone cloneStatusArgv (cloneEnv host)
  let actual ← Comp.lift (parsePorcelainPaths status.stdout)
  return if actual = sortUnits (targetPaths changeSet) then []
    else [js "preview_changed_target_set_mismatch"]

/-- The topology of the targets in the clone. -/
def cloneTopologyReasons (allowMissingFinal : Bool) : PreviewCall (List Str) := do
  let clone ← Comp.read (·.clone)
  Comp.lift (collectTargetTopologyReasons clone.files (targetPaths changeSet) allowMissingFinal)

/-! ## Commands of the policy -/

def policyInput (executable : Str) (argv : List Str) (timeoutMs : ℕ) : PreviewProcessInput where
  executable
  argv
  cwd := .clone
  stdin := none
  timeoutMs
  env := createSanitizedEnv host host.cloneRoot

def runPolicyCommand (command : ExactArgvCommand) (phase : PreviewPhase) :
    PreviewCall PreviewCheckReceipt :=
  let argvHash := hashKernelObject (strings command.argv)
  match command.argv with
  | [] =>
    return { phase, argvHash, status := .spawnFailed, exitCode := none, durationMs := 0 }
  | executable :: argv =>
    if trim executable = [] then
      return { phase, argvHash, status := .spawnFailed, exitCode := none, durationMs := 0 }
    else do
      let result ← runProcess world.runner (policyInput host executable argv command.timeoutMs)
        (some (phase, command))
      return {
        phase
        argvHash
        status := result.status
        exitCode := result.exitCode
        durationMs := result.durationMs }

/-- The loop over the commands of a phase, up to one that does not pass. -/
def runPolicyCommands (phase : PreviewPhase) (reason : Str) :
    List ExactArgvCommand → PreviewCall Unit
  | [] => return
  | command :: commands => do
    let receipt ← runPolicyCommand host world command phase
    Comp.modify fun s => { s with checks := s.checks ++ [receipt] }
    if receipt.status ≠ .passed then pushReasons [reason]
    else runPolicyCommands phase reason commands

/-- The commands run where nothing is against the preview so far. -/
def runPhase (phase : PreviewPhase) (reason : Str) (commands : List ExactArgvCommand) :
    PreviewCall Unit := do
  if (← readReasons) = [] then runPolicyCommands host world phase reason commands else return

/-! ## Stages -/

variable (input : FileChangePreviewInput)

/-- What is against the source before anything is made; `none` where there is something. -/
def inspectSource : PreviewCall (Option SourceRepositoryState) := do
  let sourceBefore ← inspectSourceRepository host world.runner (targetPaths changeSet)
  pushReasons (validateSourceState sourceBefore changeSet input.facts)
  if (← readReasons) ≠ [] then return none
  else do
    let source ← Comp.read (·.source)
    let sourceTopologyReasons ← Comp.lift (collectTargetTopologyReasons source.files
      (targetPaths changeSet) true)
    pushReasons sourceTopologyReasons
    if sourceTopologyReasons ≠ [] then return none
    else do
      let trackedModeReasons ← collectTrackedTargetModeReasons world.runner
        sourceBefore.headCommit (targetPaths changeSet) (createSanitizedEnv host host.tempRoot)
      pushReasons trackedModeReasons
      if trackedModeReasons ≠ [] then return none else return some sourceBefore

/-- `mkdtemp`. -/
def makeCloneRoot : PreviewCall Unit :=
  match world.mkdtempError with
  | some error => Comp.lift (fail error)
  | none => Comp.modify fun s => { s with cloneCreated := true }

def cloneInput : PreviewProcessInput where
  executable := "git"
  argv := ["clone", "--no-hardlinks", "--no-checkout", "--config",
    js "core.hooksPath=" ++ nullDevice host, "--config", "submodule.recurse=false", "--",
    host.repoRoot, host.clonePath]
  cwd := .cloneRoot
  stdin := none
  timeoutMs := 2 * 60 * 1000
  env := cloneEnv host

/-- The clone as it is checked out. -/
def prepareClone : PreviewCall Unit := do
  let _ ← passedProcess world.runner (cloneInput host) "preview_clone_failed"
  let _ ← runGit world.runner .clone ["remote", "remove", "origin"] (cloneEnv host)
  let remotes ← runGit world.runner .clone ["remote"] (cloneEnv host)
  pushReasons (reasonIf (trim remotes.stdout ≠ []) "preview_clone_remote_present")
  let clone ← Comp.read (·.clone)
  pushReasons (reasonIf (clone.files.access ".git/objects/info/alternates")
    "preview_clone_alternates_present")
  let _ ← runGit world.runner .clone
    ["checkout", "--detach", "--no-recurse-submodules", changeSet.baseHead] (cloneEnv host)
  let cloneHead ← runGit world.runner .clone headArgv (cloneEnv host)
  pushReasons (reasonIf (trim cloneHead.stdout ≠ changeSet.baseHead) "preview_clone_head_mismatch")
  let cloneStatus ← runGit world.runner .clone ["status", "--porcelain=v1", "-z"] (cloneEnv host)
  pushReasons (reasonIf (cloneStatus.stdout ≠ []) "preview_clone_not_clean")

/-- What is looked at in the clone before the patch. -/
def checkClone : PreviewCall Unit := do
  let topologyReasons ← cloneTopologyReasons changeSet true
  pushReasons topologyReasons
  if topologyReasons ≠ [] then Comp.lift (fail "preview_clone_preflight_failed")
  else do
    let clone ← Comp.read (·.clone)
    pushReasons (verifyBeforeHashes clone.files changeSet)
    if (← readReasons) ≠ [] then Comp.lift (fail "preview_clone_preflight_failed") else return

def patchInput : PreviewProcessInput where
  executable := "git"
  argv := ["apply", "--whitespace=nowarn", "--recount", "-"]
  cwd := .clone
  stdin := some (.text (join (cu '\n') (changeSet.changes.map (·.unifiedDiff))))
  timeoutMs := 60 * 1000
  env := cloneEnv host

/-- The hashes of the targets behind the patch. -/
def applyPatch : PreviewCall (Map Str Str) := do
  let _ ← passedProcess world.runner (patchInput host changeSet) "preview_patch_apply_failed"
  let topologyReasons ← cloneTopologyReasons changeSet false
  pushReasons topologyReasons
  if topologyReasons ≠ [] then Comp.lift (fail "preview_applied_topology_failed")
  else do
    let changedReasons ← verifyChangedTargetSet host world changeSet
    pushReasons changedReasons
    let clone ← Comp.read (·.clone)
    let expectedAfterHashes ← Comp.lift (readTargetHashes clone.files changeSet)
    pushReasons (verifyDeclaredAfterHashes changeSet expectedAfterHashes)
    return expectedAfterHashes

/-- What is looked at in the clone behind the commands. -/
def recheckClone (expectedAfterHashes : Map Str Str) : PreviewCall Unit := do
  if (← readReasons) ≠ [] then return
  else do
    let topologyReasons ← cloneTopologyReasons changeSet false
    pushReasons topologyReasons
    if topologyReasons ≠ [] then return
    else do
      let changedReasons ← verifyChangedTargetSet host world changeSet
      pushReasons changedReasons
      let clone ← Comp.read (·.clone)
      let hashesAfterChecks ← Comp.lift (readTargetHashes clone.files changeSet)
      pushReasons (reasonIf (!sameHashMap expectedAfterHashes hashesAfterChecks)
        "preview_checks_changed_proposed_targets")

/-- Other processes may have worked on the source meanwhile. -/
def recheckSource (sourceBefore : SourceRepositoryState) : PreviewCall Unit := do
  Comp.modify fun s => { s with source := world.sourceAfter }
  let sourceAfter ← inspectSourceRepository host world.runner (targetPaths changeSet)
  pushReasons (reasonIf (sourceAfter.headCommit ≠ sourceBefore.headCommit
      ∨ sourceAfter.branch ≠ sourceBefore.branch ∨ sourceAfter.status ≠ sourceBefore.status)
    "preview_source_repository_drifted")

/-- Behind the inspection of the source. -/
def previewClone (rule : AutoApprovalRule) (sourceBefore : SourceRepositoryState) :
    PreviewCall Unit := do
  makeCloneRoot world
  prepareClone host world changeSet
  checkClone changeSet
  let expectedAfterHashes ← applyPatch host world changeSet
  runPhase host world .prepare "preview_prepare_failed" rule.prepare
  runPhase host world .check "preview_check_failed" rule.checks
  recheckClone host world changeSet expectedAfterHashes
  recheckSource host world changeSet sourceBefore

/-- The body of the `try`. -/
inductive Ending where
  | blocked
  | previewed (passed : Bool)

def previewBody (rule : AutoApprovalRule) : PreviewCall Ending := do
  match ← inspectSource host world changeSet input with
  | none => return .blocked
  | some sourceBefore => do
    previewClone host world changeSet rule sourceBefore
    return .previewed ((← readReasons) = [])

/-! ## Receipts -/

/-- `/^preview_[a-z0-9_]+$/`. -/
def isPreviewMessage (message : Str) : Bool :=
  startsWith message "preview_" && message.drop 8 ≠ []
    && (message.drop 8).all fun c =>
      (0x61 ≤ c.val && c.val ≤ 0x7a) || isDigit c || c = cu '_'

def normalizePreviewError : Thrown → Str
  | .error message => if isPreviewMessage message then message else "preview_unknown_error"
  | .schema _ => "preview_unknown_error"

def blockedReceipt (isolation : PreviewIsolationAttestation) (reasons : List Str) :
    Result PreviewReceipt :=
  parse PreviewReceipt.issues {
    receiptId := js "preview_" ++ changeSet.canonicalHash.take 24
    changeSetHash := changeSet.canonicalHash
    headCommit := changeSet.baseHead
    ruleId := none
    status := .blocked
    networkIsolation := isolation.networkIsolation
    filesystemIsolation := isolation.filesystemIsolation
    isolationScope := isolation.scope
    isolationEnforcerId := isolation.enforcerId
    checks := []
    cleanupStatus := .notCreated
    reasons := uniqueStrings reasons
    createdAt := input.now }

def invalidIsolation : PreviewIsolationAttestation where
  networkIsolation := .unsupported
  filesystemIsolation := .unsupported
  scope := .testOnly
  enforcerId := "invalid-isolation-attestation"

/-- What is against the isolation, none of it where the runner attests to it. -/
def isolationReasons (isolation : PreviewIsolationAttestation) : List Str :=
  let attestation := world.runnerAttestation
  reasonIf (isolation.networkIsolation ≠ .enforcedNone) "preview_network_isolation_unavailable"
    ++ reasonIf (isolation.filesystemIsolation ≠ .cloneOnlyEnforced)
      "preview_filesystem_isolation_unavailable"
    ++ reasonIf (trim isolation.enforcerId = []) "preview_isolation_enforcer_missing"
    ++ reasonIf (attestation.map (·.networkIsolation) ≠ some .enforcedNone)
      "preview_runner_network_isolation_unavailable"
    ++ reasonIf (attestation.map (·.filesystemIsolation) ≠ some .cloneOnlyEnforced)
      "preview_runner_filesystem_isolation_unavailable"
    ++ reasonIf (attestation.map (·.scope) ≠ some isolation.scope) "preview_isolation_scope_mismatch"
    ++ reasonIf (attestation.map (·.enforcerId) ≠ some isolation.enforcerId)
      "preview_isolation_attestation_mismatch"

/-- The `finally`: what was made is removed. -/
def cleanUp : PreviewCall CleanupStatus := do
  if ← Comp.read (·.cloneCreated) then
    if world.rmFails then do
      pushReasons ["preview_cleanup_failed"]
      return .failed
    else return .passed
  else return .notCreated

/-- Behind the `try` and the `catch`. -/
def finish (rule : AutoApprovalRule) (previewPassed : Bool) : PreviewCall PreviewReceipt := do
  let cleanupStatus ← cleanUp world
  let reasons ← readReasons
  let checks ← Comp.read (·.checks)
  let passed : Bool := previewPassed && cleanupStatus = .passed && reasons = []
  Comp.lift (parse PreviewReceipt.issues {
    receiptId := js "preview_" ++ changeSet.canonicalHash.take 24
    changeSetHash := changeSet.canonicalHash
    headCommit := changeSet.baseHead
    ruleId := some rule.ruleId
    status := if passed then .previewPassed else .blocked
    networkIsolation := input.isolation.networkIsolation
    filesystemIsolation := input.isolation.filesystemIsolation
    isolationScope := input.isolation.scope
    isolationEnforcerId := input.isolation.enforcerId
    checks
    cleanupStatus
    reasons := if passed then [] else uniqueStrings reasons
    createdAt := input.now })

/-- The `try` with its `catch`. -/
def previewRule (rule : AutoApprovalRule) : PreviewCall PreviewReceipt := fun s =>
  match previewBody host world changeSet input rule s with
  | (.ok .blocked, s) =>
    match blockedReceipt changeSet input input.isolation s.reasons with
    | .ok receipt => (.ok receipt, s)
    | .error error =>
      finish world changeSet input rule false
        { s with reasons := s.reasons ++ [normalizePreviewError error] }
  | (.ok (.previewed passed), s) => finish world changeSet input rule passed s
  | (.error error, s) =>
    finish world changeSet input rule false
      { s with reasons := s.reasons ++ [normalizePreviewError error] }

omit changeSet in
def previewParsed : PreviewCall PreviewReceipt := do
  let changeSet ← Comp.lift (parse GovernedFileChangeSet.issues input.changeSet)
  if input.isolation.issues ≠ [] then
    Comp.lift (blockedReceipt changeSet input invalidIsolation
      ["preview_isolation_attestation_invalid"])
  else do
    let evaluation ← Comp.lift (evaluateAutoApprovalPolicy changeSet input.facts input.policy)
    match evaluation.eligible, evaluation.rule with
    | true, some rule =>
      if isolationReasons world input.isolation ≠ [] then
        Comp.lift (blockedReceipt changeSet input input.isolation
          (isolationReasons world input.isolation))
      else previewRule host world changeSet input rule
    | _, _ => Comp.lift (blockedReceipt changeSet input input.isolation evaluation.reasons)

omit [Runtime] host changeSet input in
def initialState : PreviewState where
  source := world.source
  clone := world.clone
  runs := []
  checks := []
  reasons := []
  cloneCreated := false

omit changeSet in
/-- `LocalClonePreviewer.preview`. -/
def preview : Result PreviewReceipt × PreviewState :=
  previewParsed host world input (initialState world)

end

end CodexRouter.Preview
