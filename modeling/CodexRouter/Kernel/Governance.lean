import CodexRouter.Js.Sha256
import CodexRouter.Kernel.Core

/-!
# Governance contracts

The records of codex-governance with the checks of their schemas and their JSON documents. A
`schemaVersion` is a literal and appears only in the documents.
-/

open Js

namespace CodexRouter.Kernel

def isSha256 (s : Str) : Bool :=
  s.length = 64 && s.all fun c => isDigit c || (0x61 ≤ c.val && c.val ≤ 0x66)

lemma isSha256_hexWords (words : List Sha256.Word) (h : words.length = 8) :
    isSha256 (words.flatMap Sha256.hexWord) = true := by
  have hdigit : ∀ n, n < 16 → (isDigit (Sha256.hexDigit n)
      || (0x61 ≤ (Sha256.hexDigit n).val && (Sha256.hexDigit n).val ≤ 0x66)) = true := by decide
  have hword : ∀ w, (Sha256.hexWord w).length = 8 ∧ ∀ c ∈ Sha256.hexWord w,
      (isDigit c || (0x61 ≤ c.val && c.val ≤ 0x66)) = true := by
    intro w
    refine ⟨rfl, fun c hc => ?_⟩
    obtain ⟨b, hb, hc⟩ := List.mem_flatMap.mp hc
    have hb : b < 256 := by
      simp only [Sha256.bigEndian, List.nil_append, List.mem_append, List.mem_singleton] at hb
      omega
    simp only [List.mem_cons, List.not_mem_nil, or_false] at hc
    obtain rfl | rfl := hc <;> exact hdigit _ (by omega)
  simp only [isSha256, Bool.and_eq_true, decide_eq_true_eq, List.all_eq_true]
  constructor
  · simp [List.length_flatMap, hword, h]
  · intro c hc
    obtain ⟨w, -, hc⟩ := List.mem_flatMap.mp hc
    exact (hword w).2 c hc

lemma isSha256_hex (s : Str) : isSha256 (Sha256.hex s) = true := isSha256_hexWords _ rfl

/-- `Sha256Schema`. -/
def sha256Issues (s : Str) : List Issue := require (isSha256 s) [] "Invalid"

/-- `Sha256Schema.nullable().optional()`. -/
def hashFieldIssues (hash : Option (Option Str)) : List Issue :=
  optionally (optionally sha256Issues) hash

def nullable (value : Option Str) : Json := (value.map Json.str).getD .null

def strings (l : List Str) : Json := .arr (l.map .str)

/-- `NonEmptyArgvSchema`. -/
def argvIssues (argv : List Str) : List Issue :=
  require (argv ≠ []) [] "Array must contain at least 1 element(s)"
    ++ require (argv.head?.all fun executable => trim executable ≠ []) ["0"]
      "argv executable must be non-empty"

/-! ## Enumerations -/

inductive GovernanceRiskLevel where
  | low | medium | high | critical
  deriving DecidableEq

inductive ApprovalMode where
  | notRequired | policyAuto | humanRequired
  deriving DecidableEq

inductive AuthorizationDisposition where
  | authorized | approvalRequired | blocked
  deriving DecidableEq

inductive GovernedFileChangeKind where
  | create | update | delete | rename
  deriving DecidableEq

inductive AccessFact where
  | none | requested | required | unknown
  deriving DecidableEq

inductive CredentialFact where
  | none | requested | unknown
  deriving DecidableEq

inductive Surface where
  | desktop | provider | codexAppServer | codexSdk
  deriving DecidableEq

inductive FileChangeLifecycleState where
  | proposed | policyChecked | previewing | previewPassed | awaitingApproval | autoApproved
  | acceptedByAppServer | retained | postChecked | blocked | reconciliationRequired
  | rollbackAvailable
  deriving DecidableEq

def GovernanceRiskLevel.text : GovernanceRiskLevel → Str
  | low => js "low"
  | medium => js "medium"
  | high => js "high"
  | critical => js "critical"

def GovernanceRiskLevel.rank : GovernanceRiskLevel → ℕ
  | low => 0
  | medium => 1
  | high => 2
  | critical => 3

def ApprovalMode.text : ApprovalMode → Str
  | notRequired => js "not_required"
  | policyAuto => js "policy_auto"
  | humanRequired => js "human_required"

def AuthorizationDisposition.text : AuthorizationDisposition → Str
  | authorized => js "authorized"
  | approvalRequired => js "approval_required"
  | blocked => js "blocked"

def GovernedFileChangeKind.text : GovernedFileChangeKind → Str
  | create => js "create"
  | update => js "update"
  | delete => js "delete"
  | rename => js "rename"

def AccessFact.text : AccessFact → Str
  | none => js "none"
  | requested => js "requested"
  | required => js "required"
  | unknown => js "unknown"

def CredentialFact.text : CredentialFact → Str
  | none => js "none"
  | requested => js "requested"
  | unknown => js "unknown"

def Surface.text : Surface → Str
  | desktop => js "desktop"
  | provider => js "provider"
  | codexAppServer => js "codex_app_server"
  | codexSdk => js "codex_sdk"

def FileChangeLifecycleState.text : FileChangeLifecycleState → Str
  | proposed => js "proposed"
  | policyChecked => js "policy_checked"
  | previewing => js "previewing"
  | previewPassed => js "preview_passed"
  | awaitingApproval => js "awaiting_approval"
  | autoApproved => js "auto_approved"
  | acceptedByAppServer => js "accepted_by_app_server"
  | retained => js "retained"
  | postChecked => js "post_checked"
  | blocked => js "blocked"
  | reconciliationRequired => js "reconciliation_required"
  | rollbackAvailable => js "rollback_available"

/-! ## Changes and change sets -/

/-- A change without its diff; a hash is absent, `null` or a digest. -/
structure CapabilityFactFileChange where
  path : Str
  kind : GovernedFileChangeKind
  oldPath : Option Str
  beforeHash : Option (Option Str)
  afterHash : Option (Option Str)
  addedLines : ℕ
  deletedLines : ℕ
  deriving DecidableEq

structure GovernedFileChange extends CapabilityFactFileChange where
  unifiedDiff : Str
  deriving DecidableEq

def refineGovernedFileChangeSemantics (change : CapabilityFactFileChange) : List Issue :=
  require (change.kind ≠ .rename ∨ change.oldPath ≠ none) ["oldPath"]
      "rename changes require oldPath"
    ++ require (change.kind = .rename ∨ change.oldPath = none) ["oldPath"]
      "oldPath is only valid for rename changes"
    ++ require (change.kind ≠ .create ∨ change.beforeHash.join = none) ["beforeHash"]
      "create changes cannot declare a beforeHash"
    ++ require (change.kind ≠ .delete ∨ change.afterHash.join = none) ["afterHash"]
      "delete changes cannot declare an afterHash"

/-- `CapabilityFactFileChangeSchema`. -/
def CapabilityFactFileChange.issues (change : CapabilityFactFileChange) : List Issue :=
  under "path" (nonEmpty change.path)
    ++ under "oldPath" (optionally nonEmpty change.oldPath)
    ++ under "beforeHash" (hashFieldIssues change.beforeHash)
    ++ under "afterHash" (hashFieldIssues change.afterHash)
    ++ refineGovernedFileChangeSemantics change

/-- `GovernedFileChangeSchema`. -/
def GovernedFileChange.issues (change : GovernedFileChange) : List Issue :=
  under "unifiedDiff" (nonEmpty change.unifiedDiff)
    ++ change.toCapabilityFactFileChange.issues

def CapabilityFactFileChange.members (change : CapabilityFactFileChange) : List (Str × Json) :=
  [(js "path", .str change.path), (js "kind", .str change.kind.text)]
    ++ Json.member? "oldPath" (change.oldPath.map .str)
    ++ Json.member? "beforeHash" (change.beforeHash.map nullable)
    ++ Json.member? "afterHash" (change.afterHash.map nullable)
    ++ [(js "addedLines", .nat change.addedLines), (js "deletedLines", .nat change.deletedLines)]

def CapabilityFactFileChange.toJson (change : CapabilityFactFileChange) : Json :=
  .obj change.members

def GovernedFileChange.toJson (change : GovernedFileChange) : Json :=
  .obj ((js "unifiedDiff", .str change.unifiedDiff) :: change.members)

structure GovernedFileChangeSet where
  changeSetId : Str
  threadId : Str
  turnId : Str
  itemId : Str
  baseHead : Str
  changes : List GovernedFileChange
  canonicalHash : Str
  proposedAt : Str
  sourceSchemaProfile : Str
  deriving DecidableEq

def governedFileChangeSetContent (baseHead : Str) (changes : List GovernedFileChange) : Json :=
  .obj [(js "schemaVersion", .str "governed-file-change-canonical.v1"),
    (js "baseHead", .str baseHead), (js "changes", .arr (changes.map (·.toJson)))]

def hashGovernedFileChangeSetContent [Runtime] (baseHead : Str)
    (changes : List GovernedFileChange) : Str :=
  hashKernelObject (governedFileChangeSetContent baseHead changes)

/-- `GovernedFileChangeSetSchema`. -/
def GovernedFileChangeSet.issues [Runtime] (changeSet : GovernedFileChangeSet) : List Issue :=
  under "changeSetId" (nonEmpty changeSet.changeSetId)
    ++ under "threadId" (nonEmpty changeSet.threadId)
    ++ under "turnId" (nonEmpty changeSet.turnId)
    ++ under "itemId" (nonEmpty changeSet.itemId)
    ++ under "baseHead" (nonEmpty changeSet.baseHead)
    ++ under "changes" (eachNonEmpty GovernedFileChange.issues changeSet.changes)
    ++ under "canonicalHash" (sha256Issues changeSet.canonicalHash)
    ++ under "proposedAt" (nonEmpty changeSet.proposedAt)
    ++ under "sourceSchemaProfile" (nonEmpty changeSet.sourceSchemaProfile)
    ++ require (changeSet.canonicalHash =
        hashGovernedFileChangeSetContent changeSet.baseHead changeSet.changes)
      ["canonicalHash"] "governed file change set canonical hash mismatch"

/-! ## Facts and decisions -/

structure CapabilityFactCommand where
  argv : List Str
  cwd : Option Str
  deriving DecidableEq

structure RepositoryFacts where
  branch : Option Str
  protectedBranch : Bool
  worktreeClean : Bool
  headCommit : Option Str
  expectedHead : Option Str
  deriving DecidableEq

structure CapabilityFacts where
  subjectId : Str
  fileChanges : List CapabilityFactFileChange
  commands : List CapabilityFactCommand
  permissionRequests : List Str
  repository : RepositoryFacts
  networkAccess : AccessFact
  credentialAccess : CredentialFact
  externalTargets : List Str
  sensitivePaths : List Str
  releaseAction : Bool
  exactTargets : Bool
  ambiguous : Bool
  unknowns : List Str
  observedAt : Str
  deriving DecidableEq

def CapabilityFactCommand.issues (command : CapabilityFactCommand) : List Issue :=
  under "argv" (argvIssues command.argv) ++ under "cwd" (optionally nonEmpty command.cwd)

def RepositoryFacts.issues (repository : RepositoryFacts) : List Issue :=
  under "branch" (optionally nonEmpty repository.branch)
    ++ under "headCommit" (optionally nonEmpty repository.headCommit)
    ++ under "expectedHead" (optionally nonEmpty repository.expectedHead)

/-- `CapabilityFactsSchema`. -/
def CapabilityFacts.issues (facts : CapabilityFacts) : List Issue :=
  under "subjectId" (nonEmpty facts.subjectId)
    ++ under "fileChanges" (each CapabilityFactFileChange.issues facts.fileChanges)
    ++ under "commands" (each CapabilityFactCommand.issues facts.commands)
    ++ under "permissionRequests" (each nonEmpty facts.permissionRequests)
    ++ under "repository" facts.repository.issues
    ++ under "externalTargets" (each nonEmpty facts.externalTargets)
    ++ under "sensitivePaths" (each nonEmpty facts.sensitivePaths)
    ++ under "unknowns" (each nonEmpty facts.unknowns)
    ++ under "observedAt" (nonEmpty facts.observedAt)

def CapabilityFacts.toJson (facts : CapabilityFacts) : Json :=
  .obj [(js "schemaVersion", .str "capability-facts.v1"), (js "subjectId", .str facts.subjectId),
    (js "fileChanges", .arr (facts.fileChanges.map (·.toJson))),
    (js "commands", .arr (facts.commands.map fun command =>
      .obj ((js "argv", strings command.argv)
        :: Json.member? "cwd" (command.cwd.map .str)))),
    (js "permissionRequests", strings facts.permissionRequests),
    (js "repository", .obj (Json.member? "branch" (facts.repository.branch.map .str)
      ++ [(js "protectedBranch", .bool facts.repository.protectedBranch),
        (js "worktreeClean", .bool facts.repository.worktreeClean)]
      ++ Json.member? "headCommit" (facts.repository.headCommit.map .str)
      ++ Json.member? "expectedHead" (facts.repository.expectedHead.map .str))),
    (js "networkAccess", .str facts.networkAccess.text),
    (js "credentialAccess", .str facts.credentialAccess.text),
    (js "externalTargets", strings facts.externalTargets),
    (js "sensitivePaths", strings facts.sensitivePaths),
    (js "releaseAction", .bool facts.releaseAction),
    (js "exactTargets", .bool facts.exactTargets),
    (js "ambiguous", .bool facts.ambiguous),
    (js "unknowns", strings facts.unknowns), (js "observedAt", .str facts.observedAt)]

structure AuthorizationDecision where
  decisionId : Str
  subjectId : Str
  surface : Surface
  factsHash : Str
  semanticRisk : GovernanceRiskLevel
  factualRisk : GovernanceRiskLevel
  effectiveRisk : GovernanceRiskLevel
  requestedCapabilities : List CapabilityScope
  authorizedCapabilities : List CapabilityScope
  approvalMode : ApprovalMode
  disposition : AuthorizationDisposition
  approvalRequired : Bool
  reasons : List Str
  createdAt : Str
  deriving DecidableEq

def sameCapabilityScope (left right : CapabilityScope) : Bool :=
  left.kind = right.kind && left.resource = right.resource && left.access = right.access
    && (Json.obj left.constraints).stableStringify = (Json.obj right.constraints).stableStringify

/-- `AuthorizationDecisionSchema`. -/
def AuthorizationDecision.issues (decision : AuthorizationDecision) : List Issue :=
  under "decisionId" (nonEmpty decision.decisionId)
    ++ under "subjectId" (nonEmpty decision.subjectId)
    ++ under "factsHash" (sha256Issues decision.factsHash)
    ++ under "requestedCapabilities" (each CapabilityScope.issues decision.requestedCapabilities)
    ++ under "authorizedCapabilities" (each CapabilityScope.issues decision.authorizedCapabilities)
    ++ under "reasons" (each nonEmpty decision.reasons)
    ++ under "createdAt" (nonEmpty decision.createdAt)
    ++ require (decision.effectiveRisk =
        if decision.semanticRisk.rank ≥ decision.factualRisk.rank then decision.semanticRisk
        else decision.factualRisk) ["effectiveRisk"]
      "effective risk must equal the maximum semantic and factual risk"
    ++ require (decision.approvalRequired = decide (decision.approvalMode ≠ .notRequired))
      ["approvalRequired"] "approvalRequired must agree with approvalMode"
    ++ require (decide (decision.disposition = .authorized) =
        (decide (decision.approvalMode = .notRequired) && !decision.approvalRequired))
      ["disposition"] "authorized disposition is only valid when approval is not required"
    ++ require (decision.disposition ≠ .approvalRequired ∨ decision.approvalRequired)
      ["disposition"] "approval_required disposition requires approval"
    ++ require (decision.disposition ≠ .blocked ∨ decision.approvalMode = .humanRequired)
      ["approvalMode"] "blocked decisions must remain human-governed"
    ++ require ((decision.effectiveRisk ≠ .high ∧ decision.effectiveRisk ≠ .critical) ∨
        (decision.approvalMode = .humanRequired ∧ decision.approvalRequired
          ∧ decision.disposition ≠ .authorized))
      ["approvalMode"] "high and critical risk decisions require human approval"
    ++ under "authorizedCapabilities" (each
      (fun scope => require (decision.requestedCapabilities.any (sameCapabilityScope · scope)) []
        "authorized capabilities must be a subset of requested capabilities")
      decision.authorizedCapabilities)

def AuthorizationDecision.toJson (decision : AuthorizationDecision) : Json :=
  .obj [(js "schemaVersion", .str "authorization-decision.v1"),
    (js "decisionId", .str decision.decisionId), (js "subjectId", .str decision.subjectId),
    (js "surface", .str decision.surface.text), (js "factsHash", .str decision.factsHash),
    (js "semanticRisk", .str decision.semanticRisk.text),
    (js "factualRisk", .str decision.factualRisk.text),
    (js "effectiveRisk", .str decision.effectiveRisk.text),
    (js "requestedCapabilities", .arr (decision.requestedCapabilities.map (·.toJson))),
    (js "authorizedCapabilities", .arr (decision.authorizedCapabilities.map (·.toJson))),
    (js "approvalMode", .str decision.approvalMode.text),
    (js "disposition", .str decision.disposition.text),
    (js "approvalRequired", .bool decision.approvalRequired),
    (js "reasons", strings decision.reasons), (js "createdAt", .str decision.createdAt)]

/-! ## Preview policies and receipts -/

structure ExactArgvCommand where
  argv : List Str
  timeoutMs : ℕ
  deriving DecidableEq

def shellExecutables : List Str :=
  [js "bash", js "cmd", js "cmd.exe", js "dash", js "fish", js "powershell",
    js "powershell.exe", js "pwsh", js "pwsh.exe", js "sh", js "zsh"]

/-- `ExactArgvCommandSchema`. -/
def ExactArgvCommand.issues [Runtime] (command : ExactArgvCommand) : List Issue :=
  under "argv" (argvIssues command.argv)
    ++ under "timeoutMs" (require (0 < command.timeoutMs) [] "Number must be greater than 0"
      ++ require (command.timeoutMs ≤ 1800000) []
        "Number must be less than or equal to 1800000")
    ++ under "argv" (each (fun argument =>
        require (cu '\x00' ∉ argument ∧ cu '\r' ∉ argument ∧ cu '\n' ∉ argument) []
          "exact argv entries cannot contain control separators") command.argv)
    ++ require (command.argv.head?.all fun executable =>
        Runtime.toLowerCase ((split (cu '/') (toSlashes executable)).getLastD [])
          ∉ shellExecutables) ["argv", "0"]
      "shell interpreters are not permitted in auto-approval commands"

structure AutoApprovalRule where
  ruleId : Str
  allowedPaths : List Str
  operations : List GovernedFileChangeKind
  maxFiles : ℕ
  maxDiffLines : ℕ
  prepare : List ExactArgvCommand
  checks : List ExactArgvCommand
  deriving DecidableEq

/-- `AutoApprovalRuleSchema`. -/
def AutoApprovalRule.issues [Runtime] (rule : AutoApprovalRule) : List Issue :=
  under "ruleId" (nonEmpty rule.ruleId)
    ++ under "allowedPaths" (eachNonEmpty nonEmpty rule.allowedPaths)
    ++ under "operations" (eachNonEmpty
      (fun operation => require (operation = .create ∨ operation = .update) []
        "Invalid enum value. Expected 'create' | 'update'") rule.operations)
    ++ under "maxFiles" (require (0 < rule.maxFiles) [] "Number must be greater than 0")
    ++ under "maxDiffLines" (require (0 < rule.maxDiffLines) [] "Number must be greater than 0")
    ++ under "prepare" (each ExactArgvCommand.issues rule.prepare)
    ++ under "checks" (eachNonEmpty ExactArgvCommand.issues rule.checks)

/-- `PreviewPolicySchema`. -/
structure PreviewPolicy where
  autoApprovalRules : List AutoApprovalRule
  deriving DecidableEq

def PreviewPolicy.issues [Runtime] (policy : PreviewPolicy) : List Issue :=
  under "autoApprovalRules" (each AutoApprovalRule.issues policy.autoApprovalRules)

inductive PreviewPhase where
  | prepare | check
  deriving DecidableEq

inductive PreviewCheckStatus where
  | passed | failed | timedOut | spawnFailed
  deriving DecidableEq

inductive PreviewStatus where
  | previewPassed | blocked
  deriving DecidableEq

inductive NetworkIsolation where
  | enforcedNone | unsupported
  deriving DecidableEq

inductive FilesystemIsolation where
  | cloneOnlyEnforced | unsupported
  deriving DecidableEq

inductive IsolationScope where
  | testOnly | live
  deriving DecidableEq

inductive CleanupStatus where
  | passed | failed | notCreated
  deriving DecidableEq

def PreviewPhase.text : PreviewPhase → Str
  | prepare => js "prepare"
  | check => js "check"

def PreviewCheckStatus.text : PreviewCheckStatus → Str
  | passed => js "passed"
  | failed => js "failed"
  | timedOut => js "timed_out"
  | spawnFailed => js "spawn_failed"

def PreviewStatus.text : PreviewStatus → Str
  | previewPassed => js "preview_passed"
  | blocked => js "blocked"

def NetworkIsolation.text : NetworkIsolation → Str
  | enforcedNone => js "enforced_none"
  | unsupported => js "unsupported"

def FilesystemIsolation.text : FilesystemIsolation → Str
  | cloneOnlyEnforced => js "clone_only_enforced"
  | unsupported => js "unsupported"

def IsolationScope.text : IsolationScope → Str
  | testOnly => js "test_only"
  | live => js "live"

def CleanupStatus.text : CleanupStatus → Str
  | passed => js "passed"
  | failed => js "failed"
  | notCreated => js "not_created"

structure PreviewCheckReceipt where
  phase : PreviewPhase
  argvHash : Str
  status : PreviewCheckStatus
  exitCode : Option ℤ
  durationMs : ℕ
  deriving DecidableEq

structure PreviewReceipt where
  receiptId : Str
  changeSetHash : Str
  headCommit : Str
  ruleId : Option Str
  status : PreviewStatus
  networkIsolation : NetworkIsolation
  filesystemIsolation : FilesystemIsolation
  isolationScope : IsolationScope
  isolationEnforcerId : Str
  checks : List PreviewCheckReceipt
  cleanupStatus : CleanupStatus
  reasons : List Str
  createdAt : Str
  deriving DecidableEq

/-- `PreviewReceiptSchema`. -/
def PreviewReceipt.issues (receipt : PreviewReceipt) : List Issue :=
  under "receiptId" (nonEmpty receipt.receiptId)
    ++ under "changeSetHash" (sha256Issues receipt.changeSetHash)
    ++ under "headCommit" (nonEmpty receipt.headCommit)
    ++ under "ruleId" (optionally nonEmpty receipt.ruleId)
    ++ under "isolationEnforcerId" (nonEmpty receipt.isolationEnforcerId)
    ++ under "checks" (each (fun check => under "argvHash" (sha256Issues check.argvHash))
      receipt.checks)
    ++ under "reasons" (each nonEmpty receipt.reasons)
    ++ under "createdAt" (nonEmpty receipt.createdAt)

def PreviewCheckReceipt.toJson (check : PreviewCheckReceipt) : Json :=
  .obj [(js "phase", .str check.phase.text), (js "argvHash", .str check.argvHash),
    (js "status", .str check.status.text),
    (js "exitCode", (check.exitCode.map Json.int).getD .null),
    (js "durationMs", .nat check.durationMs)]

def PreviewReceipt.toJson (receipt : PreviewReceipt) : Json :=
  .obj ([(js "schemaVersion", .str "preview-receipt.v1"), (js "receiptId", .str receipt.receiptId),
    (js "changeSetHash", .str receipt.changeSetHash),
    (js "headCommit", .str receipt.headCommit)]
    ++ Json.member? "ruleId" (receipt.ruleId.map .str)
    ++ [(js "status", .str receipt.status.text),
      (js "networkIsolation", .str receipt.networkIsolation.text),
      (js "filesystemIsolation", .str receipt.filesystemIsolation.text),
      (js "isolationScope", .str receipt.isolationScope.text),
      (js "isolationEnforcerId", .str receipt.isolationEnforcerId),
      (js "checks", .arr (receipt.checks.map (·.toJson))),
      (js "cleanupStatus", .str receipt.cleanupStatus.text),
      (js "reasons", strings receipt.reasons), (js "createdAt", .str receipt.createdAt)])

/-! ## Permits and receipts -/

structure RetainPermit where
  permitId : Str
  changeSetHash : Str
  authorizationDecisionHash : Str
  previewReceiptHash : Option Str
  approvalMode : ApprovalMode
  headCommit : Str
  targetFiles : List Str
  issuedAt : Str
  expiresAt : Str
  nonceHash : Str
  deriving DecidableEq

/-- `RetainPermitSchema`. -/
def RetainPermit.issues (permit : RetainPermit) : List Issue :=
  under "permitId" (nonEmpty permit.permitId)
    ++ under "changeSetHash" (sha256Issues permit.changeSetHash)
    ++ under "authorizationDecisionHash" (sha256Issues permit.authorizationDecisionHash)
    ++ under "previewReceiptHash" (optionally sha256Issues permit.previewReceiptHash)
    ++ under "approvalMode" (require (permit.approvalMode ≠ .notRequired) []
      "Invalid enum value. Expected 'policy_auto' | 'human_required', received 'not_required'")
    ++ under "headCommit" (nonEmpty permit.headCommit)
    ++ under "targetFiles" (eachNonEmpty nonEmpty permit.targetFiles)
    ++ under "issuedAt" (nonEmpty permit.issuedAt)
    ++ under "expiresAt" (nonEmpty permit.expiresAt)
    ++ under "nonceHash" (sha256Issues permit.nonceHash)

def RetainPermit.toJson (permit : RetainPermit) : Json :=
  .obj ([(js "schemaVersion", .str "retain-permit.v1"), (js "permitId", .str permit.permitId),
    (js "changeSetHash", .str permit.changeSetHash),
    (js "authorizationDecisionHash", .str permit.authorizationDecisionHash)]
    ++ Json.member? "previewReceiptHash" (permit.previewReceiptHash.map .str)
    ++ [(js "approvalMode", .str permit.approvalMode.text),
      (js "headCommit", .str permit.headCommit), (js "targetFiles", strings permit.targetFiles),
      (js "issuedAt", .str permit.issuedAt), (js "expiresAt", .str permit.expiresAt),
      (js "nonceHash", .str permit.nonceHash)])

structure RetainTargetHash where
  path : Str
  beforeHash : Option Str
  afterHash : Str
  deriving DecidableEq

/-- `RetainTargetHashSchema`. -/
def RetainTargetHash.issues (target : RetainTargetHash) : List Issue :=
  under "path" (nonEmpty target.path)
    ++ under "beforeHash" (optionally sha256Issues target.beforeHash)
    ++ under "afterHash" (sha256Issues target.afterHash)

def RetainTargetHash.toJson (target : RetainTargetHash) : Json :=
  .obj [(js "path", .str target.path), (js "beforeHash", nullable target.beforeHash),
    (js "afterHash", .str target.afterHash)]

/-- A receipt; its `noOutsideTargetChanges` is the literal `true`. -/
structure RetainReceipt where
  receiptId : Str
  permitId : Str
  changeSetHash : Str
  previewReceiptHash : Option Str
  headCommit : Str
  repositoryIdentityHash : Str
  targetHashes : List RetainTargetHash
  retainedAt : Str
  deriving DecidableEq

/-- `RetainReceiptSchema`. -/
def RetainReceipt.issues (receipt : RetainReceipt) : List Issue :=
  under "receiptId" (nonEmpty receipt.receiptId)
    ++ under "permitId" (nonEmpty receipt.permitId)
    ++ under "changeSetHash" (sha256Issues receipt.changeSetHash)
    ++ under "previewReceiptHash" (optionally sha256Issues receipt.previewReceiptHash)
    ++ under "headCommit" (nonEmpty receipt.headCommit)
    ++ under "repositoryIdentityHash" (sha256Issues receipt.repositoryIdentityHash)
    ++ under "targetHashes" (eachNonEmpty RetainTargetHash.issues receipt.targetHashes)
    ++ under "retainedAt" (nonEmpty receipt.retainedAt)

def RetainReceipt.toJson (receipt : RetainReceipt) : Json :=
  .obj ([(js "schemaVersion", .str "retain-receipt.v1"), (js "receiptId", .str receipt.receiptId),
    (js "permitId", .str receipt.permitId), (js "changeSetHash", .str receipt.changeSetHash)]
    ++ Json.member? "previewReceiptHash" (receipt.previewReceiptHash.map .str)
    ++ [(js "headCommit", .str receipt.headCommit),
      (js "repositoryIdentityHash", .str receipt.repositoryIdentityHash),
      (js "targetHashes", .arr (receipt.targetHashes.map (·.toJson))),
      (js "noOutsideTargetChanges", .bool true), (js "retainedAt", .str receipt.retainedAt)])

structure RollbackPermit where
  permitId : Str
  receiptId : Str
  receiptHash : Str
  operatorId : Str
  expectedHead : Str
  targetFiles : List Str
  issuedAt : Str
  expiresAt : Str
  nonceHash : Str
  deriving DecidableEq

/-- `RollbackPermitSchema`. -/
def RollbackPermit.issues (permit : RollbackPermit) : List Issue :=
  under "permitId" (nonEmpty permit.permitId)
    ++ under "receiptId" (nonEmpty permit.receiptId)
    ++ under "receiptHash" (sha256Issues permit.receiptHash)
    ++ under "operatorId" (nonEmpty permit.operatorId)
    ++ under "expectedHead" (nonEmpty permit.expectedHead)
    ++ under "targetFiles" (eachNonEmpty nonEmpty permit.targetFiles)
    ++ under "issuedAt" (nonEmpty permit.issuedAt)
    ++ under "expiresAt" (nonEmpty permit.expiresAt)
    ++ under "nonceHash" (sha256Issues permit.nonceHash)

end CodexRouter.Kernel
