import CodexRouter.Authorization.Paths
import CodexRouter.Capability.Scope
import CodexRouter.Kernel.Governance

/-!
# Authorization decisions

Facts are derived from a proposal, scored, and compared with the requested scopes and the
capability ceiling.
-/

open Js

namespace CodexRouter.Authorization
open Kernel Capability

variable [Runtime]

/-! ## Facts -/

structure CapabilityFactsInput where
  subjectId : Str
  fileChanges : Option (List CapabilityFactFileChange)
  commands : Option (List CapabilityFactCommand)
  permissionRequests : Option (List Str)
  repository : RepositoryFacts
  networkAccess : Option AccessFact
  credentialAccess : Option CredentialFact
  externalTargets : Option (List Str)
  releaseAction : Option Bool
  exactTargets : Option Bool
  ambiguous : Option Bool
  unknowns : Option (List Str)
  observedAt : Str

def hasUnsafeGovernedPath (change : CapabilityFactFileChange) : Bool :=
  !isSafeGovernedPath change.path || change.oldPath.any fun path => !isSafeGovernedPath path

omit [Runtime] in
/-- The order of `compareFileChanges`. -/
def fileChangeKey (change : CapabilityFactFileChange) : Str :=
  change.path ++ js "\x00" ++ change.kind.text ++ js "\x00" ++ change.oldPath.getD []

def deriveSensitivePathsFromFileChanges (fileChanges : List CapabilityFactFileChange) :
    List Str :=
  uniqueStrings ((fileChanges.flatMap fun change =>
    normalizeGovernedPath change.path :: (change.oldPath.map normalizeGovernedPath).toList).filter
      fun path => isSensitiveGovernedPath path)

def deriveCapabilityFacts (input : CapabilityFactsInput) : Result CapabilityFacts :=
  let inputFileChanges := input.fileChanges.getD []
  let unsafeGovernedPathDetected := inputFileChanges.any hasUnsafeGovernedPath
  let fileChanges := (inputFileChanges.map fun change =>
    { change with
      path := normalizeGovernedPath change.path
      oldPath := change.oldPath.map normalizeGovernedPath }).insertionSort
        fun left right => fileChangeKey left ≤ fileChangeKey right
  let commands := (input.commands.getD []).insertionSort
    fun left right => join 0 left.argv ≤ join 0 right.argv
  parse CapabilityFacts.issues {
    subjectId := input.subjectId
    fileChanges
    commands
    permissionRequests := uniqueStrings (input.permissionRequests.getD [])
    repository := input.repository
    networkAccess := input.networkAccess.getD .none
    credentialAccess := input.credentialAccess.getD .none
    externalTargets := uniqueStrings (input.externalTargets.getD [])
    sensitivePaths := deriveSensitivePathsFromFileChanges fileChanges
    releaseAction := input.releaseAction.getD false
    exactTargets := input.exactTargets.getD (fileChanges ≠ []) && !unsafeGovernedPathDetected
    ambiguous := input.ambiguous.getD false
    unknowns := uniqueStrings (input.unknowns.getD []
      ++ if unsafeGovernedPathDetected then [js "unsafe_governed_path"] else [])
    observedAt := input.observedAt }

def credentialLikeCompactFragments : List Str :=
  [js "apikey", js "password", js "passwd", js "token", js "clientsecret", js "secret",
    js "secretkey", js "privatekey", js "secretaccesskey", js "githubtoken", js "npmtoken",
    js "authorizationbearer"]

def containsCredentialLikeDiffContent (diff : Str) : Bool :=
  let normalized := Runtime.toLowerCase (Runtime.nfkc diff)
  let compact := normalized.filter fun c => isDigit c || (0x61 ≤ c.val && c.val ≤ 0x7a)
  credentialLikeCompactFragments.any fun fragment => includes compact fragment

/-- The context of a change set; its facts about the diffs are added here. -/
structure ChangeSetContext where
  commands : Option (List CapabilityFactCommand)
  permissionRequests : Option (List Str)
  repository : RepositoryFacts
  networkAccess : Option AccessFact
  credentialAccess : Option CredentialFact
  externalTargets : Option (List Str)
  releaseAction : Option Bool
  exactTargets : Option Bool
  ambiguous : Option Bool
  unknowns : Option (List Str)
  observedAt : Option Str

def deriveCapabilityFactsFromChangeSet (changeSet : GovernedFileChangeSet)
    (context : ChangeSetContext) : Result CapabilityFacts :=
  let diffSignalsCredentialMaterial := changeSet.changes.any fun change =>
    containsCredentialLikeDiffContent change.unifiedDiff
  deriveCapabilityFacts {
    subjectId := changeSet.changeSetId
    fileChanges := some (changeSet.changes.map (·.toCapabilityFactFileChange))
    commands := context.commands
    permissionRequests := context.permissionRequests
    repository := context.repository
    networkAccess := context.networkAccess
    credentialAccess :=
      if diffSignalsCredentialMaterial then some .requested else context.credentialAccess
    externalTargets := context.externalTargets
    releaseAction := context.releaseAction
    exactTargets := context.exactTargets
    ambiguous := context.ambiguous
    unknowns := context.unknowns
    observedAt := context.observedAt.getD changeSet.proposedAt }

/-! ## Risk -/

omit [Runtime] in
def maxRisk (left right : GovernanceRiskLevel) : GovernanceRiskLevel :=
  if left.rank ≥ right.rank then left else right

omit [Runtime] in
def protectedBranches : List Str :=
  [js "main", js "master", js "production", js "release", js "prod/stable"]

def isProtectedBranchName (branch : Option Str) : Bool :=
  match branch with
  | none => true
  | some branch =>
    trim branch ≠ branch ||
      let normalized := Runtime.toLowerCase branch
      normalized ∈ protectedBranches || startsWith normalized "release/"
        || startsWith normalized "production/"

/-- The calls of `raise` in order: each a risk and its reason. -/
def raisedRisks (facts : CapabilityFacts) : List (GovernanceRiskLevel × Str) :=
  let raise (condition : Bool) (risk : GovernanceRiskLevel) (reason : Str) :=
    if condition then [(risk, reason)] else []
  raise (facts.fileChanges ≠ []) .medium "facts:file_changes"
    ++ raise (facts.fileChanges.any hasUnsafeGovernedPath
        || js "unsafe_governed_path" ∈ facts.unknowns) .critical "facts:unsafe_path"
    ++ facts.fileChanges.flatMap (fun change =>
      raise (change.kind = .delete) .high (js "facts:delete:" ++ change.path)
        ++ raise (change.kind = .rename) .high
          (js "facts:rename:" ++ change.oldPath.getD "unknown" ++ js ":" ++ change.path))
    ++ raise (facts.commands ≠ []) .high "facts:command"
    ++ raise (facts.permissionRequests ≠ []) .high "facts:permission"
    ++ raise (facts.repository.protectedBranch || isProtectedBranchName facts.repository.branch)
      .high "facts:protected_branch"
    ++ raise (!facts.repository.worktreeClean) .high "facts:dirty_worktree"
    ++ raise (facts.repository.expectedHead ≠ none
        && facts.repository.headCommit ≠ facts.repository.expectedHead) .high
      "facts:head_mismatch"
    ++ raise (facts.sensitivePaths ≠ []
        || deriveSensitivePathsFromFileChanges facts.fileChanges ≠ []) .critical
      "facts:sensitive_path"
    ++ raise (facts.networkAccess ≠ .none)
      (if facts.networkAccess = .unknown then .high else .critical) "facts:network"
    ++ raise (facts.credentialAccess ≠ .none) .critical "facts:credential"
    ++ raise (facts.externalTargets ≠ []) .critical "facts:external_target"
    ++ raise facts.releaseAction .critical "facts:release_action"
    ++ raise (!facts.exactTargets) .high "facts:inexact_targets"
    ++ raise facts.ambiguous .high "facts:ambiguous"
    ++ raise (facts.unknowns ≠ []) .high "facts:unknown"

def scoreCapabilityFactsRisk (factsInput : CapabilityFacts) :
    Result (GovernanceRiskLevel × List Str) := do
  let facts ← parse CapabilityFacts.issues factsInput
  let raised := raisedRisks facts
  return (raised.foldl (fun level risk => maxRisk level risk.1) .low,
    uniqueStrings (raised.map (·.2)))

def isPolicyAutoCandidate (facts : CapabilityFacts) (risk : GovernanceRiskLevel) : Bool :=
  (risk = .low || risk = .medium)
    && facts.fileChanges ≠ []
    && facts.fileChanges.all (fun change => change.kind = .create || change.kind = .update)
    && facts.fileChanges.all (fun change => !hasUnsafeGovernedPath change)
    && facts.commands = []
    && facts.permissionRequests = []
    && !facts.repository.protectedBranch
    && !isProtectedBranchName facts.repository.branch
    && facts.repository.worktreeClean
    && facts.repository.headCommit ≠ none
    && facts.repository.headCommit = facts.repository.expectedHead
    && facts.networkAccess = .none
    && facts.credentialAccess = .none
    && facts.externalTargets = []
    && facts.sensitivePaths = []
    && deriveSensitivePathsFromFileChanges facts.fileChanges = []
    && !facts.releaseAction
    && facts.exactTargets
    && !facts.ambiguous
    && facts.unknowns = []

/-! ## Scopes -/

section
omit [Runtime]

def capabilityImpliesSafely (grantScope requestedScope : Str) : Bool :=
  (capabilityImplies grantScope requestedScope).orElse false

/-- The first scope of each canonical string. -/
def dedupeCapabilityScopes (seen : List Str) :
    List CapabilityScope → Result (List CapabilityScope)
  | [] => return []
  | scope :: scopes => do
    let key ← capabilityScopeToCanonicalString scope
    if key ∈ seen then dedupeCapabilityScopes seen scopes
    else return scope :: (← dedupeCapabilityScopes (key :: seen) scopes)

structure Narrowed where
  allowed : List CapabilityScope
  missing : List Str
  deriving DecidableEq

/-- The loop over the requested scopes. -/
def narrowLoop (ceilingScopes : List Str) : List CapabilityScope → Result Narrowed
  | [] => return ⟨[], []⟩
  | requested :: rest => do
    let requestedCanonical ← capabilityScopeToCanonicalString requested
    let narrowed ← narrowLoop ceilingScopes rest
    if ceilingScopes.any fun ceilingScope =>
        capabilityImpliesSafely ceilingScope requestedCanonical then
      return { narrowed with allowed := requested :: narrowed.allowed }
    else return { narrowed with missing := requestedCanonical :: narrowed.missing }

def narrowToCapabilityCeiling (requestedCapabilities capabilityCeiling : List CapabilityScope) :
    Result Narrowed := do
  let ceilingScopes ← capabilityCeiling.mapM capabilityScopeToCanonicalString
  let narrowed ← narrowLoop ceilingScopes requestedCapabilities
  let allowed ← dedupeCapabilityScopes [] narrowed.allowed
  return { allowed, missing := uniqueStrings narrowed.missing }

def isSideEffectingCapability (scope : CapabilityScope) : Bool := scope.access ≠ .read

def isReadOnlyCapability (scope : CapabilityScope) : Bool := scope.access = .read

def factualFileWritesAreRequested (facts : CapabilityFacts)
    (requestedCapabilities : List CapabilityScope) : Result Bool :=
  let requestedFileWrites := requestedCapabilities.filter fun scope =>
    scope.kind = .file && scope.access = .write
  facts.fileChanges.allM fun change =>
    (change.path :: change.oldPath.toList).allM fun target =>
      requestedFileWrites.anyM fun scope => do
        capabilityImplies (← capabilityScopeToCanonicalString scope) (js "fs.write:" ++ target)

end

/-! ## The decision -/

structure AuthorizeCapabilityFactsInput where
  decisionId : Option Str
  surface : Surface
  facts : CapabilityFacts
  semanticRisk : GovernanceRiskLevel
  requestedCapabilities : List CapabilityScope
  capabilityCeiling : List CapabilityScope
  createdAt : Str

/-- The conditions the mode and the disposition are read from. -/
structure Findings where
  missing : List Str
  factualFileWriteCapabilityMissing : Bool
  sensitivePathFactsIncomplete : Bool
  unsafeGovernedPathWriteBlocked : Bool
  unknownWriteBlocked : Bool
  sideEffectRequested : Bool

omit [Runtime] in
def Findings.blocked (findings : Findings) : Bool :=
  findings.missing ≠ [] || findings.factualFileWriteCapabilityMissing
    || findings.sensitivePathFactsIncomplete || findings.unsafeGovernedPathWriteBlocked
    || findings.unknownWriteBlocked

omit [Runtime] in
def unknownFacts (facts : CapabilityFacts) : Bool :=
  facts.ambiguous || !facts.exactTargets || facts.unknowns ≠ []
    || facts.networkAccess = .unknown || facts.credentialAccess = .unknown

omit [Runtime] in
def fileWriteCapabilityMissing (facts : CapabilityFacts)
    (requestedCapabilities : List CapabilityScope) : Result Bool :=
  if facts.fileChanges ≠ [] then do
    return !(← factualFileWritesAreRequested facts requestedCapabilities)
  else return false

def findings (facts : CapabilityFacts) (requestedCapabilities : List CapabilityScope)
    (missing : List Str) : Result Findings := do
  let factualFileWriteDetected : Bool := facts.fileChanges ≠ []
  let factualFileWriteCapabilityMissing ←
    fileWriteCapabilityMissing facts requestedCapabilities
  let sideEffectRequested :=
    factualFileWriteDetected || requestedCapabilities.any isSideEffectingCapability
  let unsafeGovernedPathDetected := facts.fileChanges.any hasUnsafeGovernedPath
    || js "unsafe_governed_path" ∈ facts.unknowns
  return {
    missing
    factualFileWriteCapabilityMissing
    sensitivePathFactsIncomplete :=
      (deriveSensitivePathsFromFileChanges facts.fileChanges).any (· ∉ facts.sensitivePaths)
    unsafeGovernedPathWriteBlocked := sideEffectRequested && unsafeGovernedPathDetected
    unknownWriteBlocked := sideEffectRequested && unknownFacts facts
    sideEffectRequested }

def approvalModeOf (facts : CapabilityFacts) (effectiveRisk : GovernanceRiskLevel)
    (findings : Findings) : ApprovalMode :=
  if findings.blocked then .humanRequired
  else if !findings.sideEffectRequested && effectiveRisk ≠ .high && effectiveRisk ≠ .critical then
    .notRequired
  else if isPolicyAutoCandidate facts effectiveRisk && !findings.blocked then .policyAuto
  else .humanRequired

/-- The decision before its schema is applied. -/
def decisionOf (input : AuthorizeCapabilityFactsInput) (facts : CapabilityFacts)
    (factualRisk : GovernanceRiskLevel) (factualReasons : List Str) (ceiling : Narrowed)
    (found : Findings) : AuthorizationDecision :=
  let effectiveRisk := maxRisk input.semanticRisk factualRisk
  let approvalMode := approvalModeOf facts effectiveRisk found
  let approvalRequired : Bool := approvalMode ≠ .notRequired
  let factsHash := hashKernelObject facts.toJson
  { decisionId := input.decisionId.getD
      (js "authorization_" ++ facts.subjectId ++ js "_" ++ factsHash.take 16)
    subjectId := facts.subjectId
    surface := input.surface
    factsHash
    semanticRisk := input.semanticRisk
    factualRisk
    effectiveRisk
    requestedCapabilities := input.requestedCapabilities
    authorizedCapabilities :=
      if found.blocked then ceiling.allowed.filter isReadOnlyCapability else ceiling.allowed
    approvalMode
    disposition :=
      if found.blocked then .blocked else if approvalRequired then .approvalRequired
      else .authorized
    approvalRequired
    reasons := uniqueStrings (factualReasons
      ++ [js "semantic_risk:" ++ input.semanticRisk.text,
        js "factual_risk:" ++ factualRisk.text, js "effective_risk:" ++ effectiveRisk.text]
      ++ ceiling.missing.map (js "capability_ceiling_missing:" ++ ·)
      ++ (if found.factualFileWriteCapabilityMissing then
        [js "factual_file_write_capability_missing"] else [])
      ++ (if found.sensitivePathFactsIncomplete then
        [js "sensitive_path_facts_incomplete"] else [])
      ++ (if found.unsafeGovernedPathWriteBlocked then
        [js "unsafe_governed_path_forbidden"] else [])
      ++ (if found.unknownWriteBlocked then
        [js "unknown_or_ambiguous_write_forbidden"] else []))
    createdAt := input.createdAt }

def authorizeCapabilityFacts (input : AuthorizeCapabilityFactsInput) :
    Result AuthorizationDecision := do
  let facts ← parse CapabilityFacts.issues input.facts
  let (factualRisk, factualReasons) ← scoreCapabilityFactsRisk facts
  let ceiling ← narrowToCapabilityCeiling input.requestedCapabilities input.capabilityCeiling
  let found ← findings facts input.requestedCapabilities ceiling.missing
  parse AuthorizationDecision.issues
    (decisionOf input facts factualRisk factualReasons ceiling found)

end CodexRouter.Authorization
