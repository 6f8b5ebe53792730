import CodexRouter.Capsule.Candidate
import CodexRouter.Capsule.InputSafety

/-!
# The verifier of candidates

A candidate is a capsule with a receipt of what was made of it. The verifier reads both trees, finds
the changes between them, and answers with a change set, or with what blocks the candidate.
-/

open Js Runs CodexRouter.Kernel

namespace CodexRouter.Capsule

/-! ## Assessments -/

inductive AssessmentStatus where
  | verifiedOffline | blocked
  deriving DecidableEq

structure OfflineCapsuleAssessment where
  status : AssessmentStatus
  contractSatisfied : Bool
  reasons : List Str
  manifestHash : Option Str
  outputRoot : Option ContentDigest
  changeSet : Option GovernedFileChangeSet
  deriving DecidableEq

def reasonIf (condition : Bool) (reason : Str) : List Str := if condition then [reason] else []

lemma reasonIf_eq_nil {condition : Bool} {reason : Str} :
    reasonIf condition reason = [] ↔ condition = false := by
  cases condition <;> simp [reasonIf]

/-- The issues of a value that a schema writes. -/
def issuesOf {α : Type} (schema : Schema α) (a : α) : List Issue :=
  match schema.read (schema.write a) with
  | .ok _ => []
  | .error issues => issues

lemma issuesOf_of_valid {α : Type} {schema : Schema α} {a : α} (h : schema.Valid a) :
    issuesOf schema a = [] := by
  unfold issuesOf
  rw [show schema.read (schema.write a) = .ok a from h]

variable [Runtime]

/-- `OfflineCapsuleAssessmentSchema`. -/
def OfflineCapsuleAssessment.issues (assessment : OfflineCapsuleAssessment) : List Issue :=
  under "reasons" (each nonEmpty assessment.reasons)
    ++ under "manifestHash" (optionally sha256Issues assessment.manifestHash)
    ++ under "outputRoot" (optionally (issuesOf contentDigestSchema) assessment.outputRoot)
    ++ under "changeSet" (optionally GovernedFileChangeSet.issues assessment.changeSet)
    ++ if assessment.status = .verifiedOffline then
        require (assessment.contractSatisfied && assessment.manifestHash.isSome
          && assessment.outputRoot.isSome && assessment.changeSet.isSome) []
          "verified offline assessment requires capsule bindings and a canonical change set"
      else
        require (!(assessment.contractSatisfied || assessment.changeSet.isSome)) []
          "blocked offline assessment cannot satisfy the contract"

def blockedAssessment (reasons : List Str) (manifest : Option OfflineExecutionCapsuleManifest)
    (outputRoot : Option ContentDigest) : Result OfflineCapsuleAssessment :=
  parse OfflineCapsuleAssessment.issues
    { status := .blocked
      contractSatisfied := false
      reasons := distinct reasons
      manifestHash := manifest.map (·.manifestHash)
      outputRoot
      changeSet := none }

omit [Runtime] in
/-- `/^offline_[a-z0-9_:.-]+$/u`. -/
def isFailureCode (message : Str) : Bool :=
  startsWith message (js "offline_") && (message.drop 8 ≠ []) && (message.drop 8).all fun c =>
    isLowerAlphanumeric c || c == cu '_' || c == cu ':' || c == cu '.' || c == cu '-'

omit [Runtime] in
def normalizeVerificationFailure (error : Thrown) : Str :=
  match error with
  | .error message =>
    if isFailureCode message then message else js "offline_capsule_verification_failed"
  | .schema _ => js "offline_capsule_verification_failed"

/-! ## Bindings -/

/-- A manifest in a JSON value; `none` is no such value. -/
def parsePassiveManifest (input : Option Json) : Option OfflineExecutionCapsuleManifest :=
  input.bind fun value => (offlineExecutionCapsuleManifestSchema.read value).toOption

omit [Runtime] in
/-- A receipt in a JSON value. -/
def parsePassiveReceipt (input : Option Json) : Option OfflineOutputTreeReceipt :=
  input.bind fun value => (offlineOutputTreeReceiptSchema.read value).toOption

omit [Runtime] in
def sameCanonicalJson (left right : Json) : Bool := left.stableStringify = right.stableStringify

/-- The reasons against the timestamps. -/
def timestampReasons (manifest : OfflineExecutionCapsuleManifest)
    (receipt : OfflineOutputTreeReceipt) (now : Str) : List Str :=
  match Runtime.dateParse manifest.issuedAt, Runtime.dateParse manifest.expiresAt,
    Runtime.dateParse receipt.startedAt, Runtime.dateParse receipt.completedAt,
    Runtime.dateParse now with
  | some issuedAt, some expiresAt, some startedAt, some completedAt, some verifiedAt =>
    if issuedAt ≥ expiresAt || startedAt < issuedAt || completedAt < startedAt
      || completedAt > expiresAt || verifiedAt < completedAt then
      [js "offline_capsule_timestamp_binding_invalid"]
    else reasonIf (verifiedAt > expiresAt || verifiedAt < issuedAt)
      "offline_capsule_manifest_expired_or_not_yet_valid"
  | _, _, _, _, _ => [js "offline_capsule_timestamp_binding_invalid"]

def collectBindingReasons (manifest : OfflineExecutionCapsuleManifest)
    (receipt : OfflineOutputTreeReceipt) (now : Str) : List Str :=
  distinct
    (reasonIf (receipt.capsuleId ≠ manifest.capsuleId) "offline_capsule_identity_mismatch"
      ++ reasonIf (receipt.manifestHash ≠ manifest.manifestHash)
        "offline_capsule_manifest_binding_mismatch"
      ++ reasonIf (receipt.taskDigest ≠ manifest.taskDigest) "offline_capsule_task_digest_mismatch"
      ++ reasonIf (receipt.inputRoot ≠ manifest.inputRoot) "offline_capsule_input_root_mismatch"
      ++ reasonIf (!sameCanonicalJson (repositoryIdentitySchema.write receipt.repository)
          (repositoryIdentitySchema.write manifest.repository))
        "offline_capsule_repository_identity_mismatch"
      ++ reasonIf (receipt.baseHead ≠ manifest.baseHead) "offline_capsule_base_head_mismatch"
      ++ reasonIf (!sameCanonicalJson (correlationSchema.write receipt.correlation)
          (correlationSchema.write manifest.correlation)) "offline_capsule_correlation_mismatch"
      ++ reasonIf (receipt.nonce ≠ manifest.nonce) "offline_capsule_nonce_mismatch"
      ++ reasonIf (receipt.cleanup ≠ .succeeded) "offline_capsule_cleanup_failed"
      ++ timestampReasons manifest receipt now)

def containsCredentialLikeMetadataContent (manifest : OfflineExecutionCapsuleManifest)
    (receipt : OfflineOutputTreeReceipt) : Bool :=
  containsCredentialLikeStringValue (offlineExecutionCapsuleManifestSchema.write manifest)
    || containsCredentialLikeStringValue (offlineOutputTreeReceiptSchema.write receipt)

def containsCredentialLikeTaskContent (task : CapsuleTaskContract) : Bool :=
  ([task.taskId, task.instruction] ++ task.successCriteria ++ task.outOfScope
    ++ task.targetPaths).any containsCredentialLikeText

/-! ## Trees -/

omit [Runtime] in
/-- Whether the blobs fit into the bytes that remain. -/
def blobsFit : ℕ → List ContentTreeEntry → Bool
  | _, [] => true
  | remainingBytes, entry :: entries =>
    entry.blob.size ≤ remainingBytes && blobsFit (remainingBytes - entry.blob.size) entries

omit [Runtime] in
def collectCompleteTreeLimitReasons (inputManifest outputManifest : ContentTreeManifest)
    (manifest : OfflineExecutionCapsuleManifest) : List Str :=
  if inputManifest.entries.length + outputManifest.entries.length
      > manifest.limits.maxTotalTreeFiles then
    [js "offline_capsule_total_tree_file_limit_exceeded"]
  else reasonIf (!blobsFit manifest.limits.maxTotalTreeBytes
      (inputManifest.entries ++ outputManifest.entries))
    "offline_capsule_total_tree_byte_limit_exceeded"

structure CandidateChange where
  before : Option LoadedContentTreeFile
  after : LoadedContentTreeFile
  deriving DecidableEq

omit [Runtime] in
/-- `new Map(files.map((file) => [file.path, file]))`. -/
def byPath (files : List LoadedContentTreeFile) : Map Str LoadedContentTreeFile :=
  Map.empty.setAll (files.map fun file => (file.path, file))

omit [Runtime] in
/-- The reason against an input file that is no output file. -/
def deletionReason (createdFiles : List LoadedContentTreeFile)
    (inputFile : LoadedContentTreeFile) : Str :=
  match createdFiles.find? fun file =>
    file.mode = inputFile.mode && file.digest = inputFile.digest with
  | none => js "offline_capsule_delete_forbidden:" ++ inputFile.path
  | some renamedTo =>
    js "offline_capsule_rename_forbidden:" ++ inputFile.path ++ js ":" ++ renamedTo.path

omit [Runtime] in
/-- The reasons against an output file, and the change it is. -/
def compareFile (inputByPath : Map Str LoadedContentTreeFile) (allowed : List Str)
    (outputFile : LoadedContentTreeFile) : List Str × Option CandidateChange :=
  let outside := reasonIf (outputFile.path ∉ allowed)
    (js "offline_capsule_target_outside_allowlist:" ++ outputFile.path)
  match inputByPath.get? outputFile.path with
  | none =>
    (outside ++ reasonIf (outputFile.mode ≠ .regular)
      (js "offline_capsule_create_mode_forbidden:" ++ outputFile.path), some ⟨none, outputFile⟩)
  | some inputFile =>
    let drift := reasonIf (inputFile.mode ≠ outputFile.mode)
      (js "offline_capsule_mode_drift_forbidden:" ++ outputFile.path)
    if inputFile.digest ≠ outputFile.digest then
      (drift ++ outside, some ⟨some inputFile, outputFile⟩)
    else (drift, none)

omit [Runtime] in
def compareCompleteTrees (inputFiles outputFiles : List LoadedContentTreeFile)
    (allowedTargets : List Str) : List CandidateChange × List Str :=
  let inputByPath := byPath inputFiles
  let outputByPath := byPath outputFiles
  let deletedFiles := inputFiles.filter fun file => !outputByPath.has file.path
  let createdFiles := outputFiles.filter fun file => !inputByPath.has file.path
  let compared := outputFiles.map (compareFile inputByPath allowedTargets)
  (compared.filterMap (·.2),
    distinct (deletedFiles.map (deletionReason createdFiles) ++ compared.flatMap (·.1)))

omit [Runtime] in
/-- The change that the candidate proposes of a file. -/
def governedChangeOf (change : CandidateChange) : Result GovernedFileChange := do
  let afterText ← decodeChangedText change.after.content
  let beforeText ← change.before.mapM fun before => decodeChangedText before.content
  return toGovernedChange change.before change.after beforeText afterText

omit [Runtime] in
def changedBytes (changes : List CandidateChange) : ℕ :=
  (changes.map fun change =>
    (change.before.map (·.content.length)).getD 0 + change.after.content.length).sum

omit [Runtime] in
def diffBytes (changes : List GovernedFileChange) : ℕ :=
  (changes.map fun change => (Sha256.utf8 change.unifiedDiff).length).sum

omit [Runtime] in
/-- `changes.sort((left, right) => compareCodeUnits(left.path, right.path))`. -/
def sortChanges (changes : List GovernedFileChange) : List GovernedFileChange :=
  changes.insertionSort fun left right => left.path ≤ right.path

/-! ## Verifying -/

structure OfflineCapsuleReplayStore (σ : Type) where
  consume : (nonce receiptHash : Str) → Comp Thrown σ Bool

structure VerifyOfflineCapsuleInput (σ : Type) where
  store : ContentAddressedStore σ
  manifest : Option Json
  receipt : Option Json
  replayStore : OfflineCapsuleReplayStore σ
  now : Comp Thrown σ Str

/-- The change set of the changes that a candidate makes. -/
def changeSetOf (manifest : OfflineExecutionCapsuleManifest) (receipt : OfflineOutputTreeReceipt)
    (governedChanges : List GovernedFileChange) : Result GovernedFileChangeSet :=
  let changes := sortChanges governedChanges
  parse GovernedFileChangeSet.issues
    { changeSetId := manifest.capsuleId
      threadId := manifest.correlation.threadId
      turnId := manifest.correlation.turnId
      itemId := manifest.correlation.itemId
      baseHead := manifest.baseHead
      changes
      canonicalHash := hashGovernedFileChangeSetContent manifest.baseHead changes
      proposedAt := receipt.completedAt
      sourceSchemaProfile := js "offline-execution-capsule.v1" }

def verifiedAssessment (manifest : OfflineExecutionCapsuleManifest)
    (receipt : OfflineOutputTreeReceipt) (changeSet : GovernedFileChangeSet) :
    Result OfflineCapsuleAssessment :=
  parse OfflineCapsuleAssessment.issues
    { status := .verifiedOffline
      contractSatisfied := true
      reasons := [js "offline_capsule_contract_verified",
        js "fake_worker_receipt_is_simulated_contract_evidence_only",
        js "content_identity_does_not_prove_worker_fidelity",
        js "live_promotion_remains_unauthorized"]
      manifestHash := some manifest.manifestHash
      outputRoot := some receipt.outputRoot
      changeSet := some changeSet }

section
variable {σ : Type}

/-- The assessment of the changes between two trees that were read. -/
def assessChanges (replayStore : OfflineCapsuleReplayStore σ)
    (manifest : OfflineExecutionCapsuleManifest) (receipt : OfflineOutputTreeReceipt)
    (inputFiles outputFiles : List LoadedContentTreeFile) : Comp Thrown σ OfflineCapsuleAssessment :=
  let block := fun reasons => Comp.lift
    (blockedAssessment reasons (some manifest) (some receipt.outputRoot))
  let (changes, reasons) := compareCompleteTrees inputFiles outputFiles manifest.allowedTargets
  if reasons ≠ [] then block reasons
  else if changes = [] then block [js "offline_capsule_no_change"]
  else if changes.length > manifest.limits.maxChangedFiles then
    block [js "offline_capsule_changed_file_limit_exceeded"]
  else if changedBytes changes > manifest.limits.maxChangedBytes then
    block [js "offline_capsule_changed_byte_limit_exceeded"]
  else do
    let governedChanges ← Comp.lift (changes.mapM governedChangeOf)
    if diffBytes governedChanges > manifest.limits.maxDiffBytes then
      block [js "offline_capsule_diff_limit_exceeded"]
    else
      let changeSet ← Comp.lift (changeSetOf manifest receipt governedChanges)
      let consumed ← Comp.handle (some <$> replayStore.consume manifest.nonce receipt.receiptHash)
        fun _ => pure none
      match consumed with
      | none => block [js "offline_capsule_replay_store_failed"]
      | some false => block [js "offline_capsule_receipt_or_nonce_replay"]
      | some true => Comp.lift (verifiedAssessment manifest receipt changeSet)

/-- The assessment of a candidate whose receipt is bound to its manifest; what is read may fail. -/
def assessContent (store : ContentAddressedStore σ) (replayStore : OfflineCapsuleReplayStore σ)
    (manifest : OfflineExecutionCapsuleManifest) (receipt : OfflineOutputTreeReceipt) :
    Comp Thrown σ OfflineCapsuleAssessment := do
  let block := fun reasons => Comp.lift
    (blockedAssessment reasons (some manifest) (some receipt.outputRoot))
  let task ← loadCapsuleTask store manifest.taskDigest "verification_task"
  if task.taskId ≠ manifest.capsuleId
    || !sameCanonicalJson (canonicalTargetPathsSchema.write task.targetPaths)
      (canonicalTargetPathsSchema.write manifest.allowedTargets) then
    block [js "offline_capsule_task_binding_mismatch"]
  else if containsCredentialLikeTaskContent task then
    block [js "offline_capsule_credential_like_content_forbidden"]
  else
    let inputTreeManifest ← loadContentTreeManifest store manifest.inputRoot "verification_input"
    let outputTreeManifest ← loadContentTreeManifest store receipt.outputRoot "verification_output"
    let treeLimitReasons := collectCompleteTreeLimitReasons inputTreeManifest.manifest
      outputTreeManifest.manifest manifest
    if treeLimitReasons ≠ [] then block treeLimitReasons
    else if (inputTreeManifest.manifest.entries.any fun entry => isSensitiveOfflineTreePath entry.path)
      || outputTreeManifest.manifest.entries.any (fun entry => isSensitiveOfflineTreePath entry.path)
      then block [js "offline_capsule_sensitive_path_forbidden"]
    else
      let inputTree ← loadContentTree store manifest.inputRoot "verification_input"
      let outputTree ← loadContentTree store receipt.outputRoot "verification_output"
      if containsCredentialLikeTreeContent (inputTree.files.map (·.toOfflineContentTreeFile))
        || containsCredentialLikeTreeContent (outputTree.files.map (·.toOfflineContentTreeFile)) then
        block [js "offline_capsule_credential_like_content_forbidden"]
      else assessChanges replayStore manifest receipt inputTree.files outputTree.files

def verifyOfflineCapsuleCandidate (input : VerifyOfflineCapsuleInput σ) :
    Comp Thrown σ OfflineCapsuleAssessment :=
  match parsePassiveManifest input.manifest with
  | none => Comp.lift (blockedAssessment [js "offline_capsule_manifest_invalid"] none none)
  | some manifest =>
    match parsePassiveReceipt input.receipt with
    | none =>
      Comp.lift (blockedAssessment [js "offline_capsule_receipt_invalid"] (some manifest) none)
    | some receipt => do
      let block := fun reasons => Comp.lift
        (blockedAssessment reasons (some manifest) (some receipt.outputRoot))
      match ← Comp.handle (some <$> input.now) fun _ => pure none with
      | none => block [js "offline_capsule_verification_clock_failed"]
      | some verifiedAt =>
        let bindingReasons := collectBindingReasons manifest receipt verifiedAt
        if bindingReasons ≠ [] then block bindingReasons
        else if containsCredentialLikeMetadataContent manifest receipt then
          block [js "offline_capsule_credential_like_content_forbidden"]
        else if manifest.taskDigest.size > manifest.limits.maxTaskBytes then
          block [js "offline_capsule_task_byte_limit_exceeded"]
        else if manifest.inputRoot.size > manifest.limits.maxTreeManifestBytes
          || receipt.outputRoot.size > manifest.limits.maxTreeManifestBytes then
          block [js "offline_capsule_tree_manifest_byte_limit_exceeded"]
        else
          Comp.handle (assessContent input.store input.replayStore manifest receipt) fun error =>
            block [normalizeVerificationFailure error]

end

/-! ## Replay stores in memory -/

omit [Runtime] in
/-- What was consumed. -/
structure Consumed where
  nonces : List Str
  receiptHashes : List Str
  deriving DecidableEq

namespace InMemoryOfflineCapsuleReplayStore

omit [Runtime] in
def consume (nonce receiptHash : Str) : Comp Thrown Consumed Bool := do
  let consumed ← Comp.read id
  if nonce ∈ consumed.nonces || receiptHash ∈ consumed.receiptHashes then return false
  else
    Comp.modify fun consumed => ⟨nonce :: consumed.nonces, receiptHash :: consumed.receiptHashes⟩
    return true

end InMemoryOfflineCapsuleReplayStore

end CodexRouter.Capsule
