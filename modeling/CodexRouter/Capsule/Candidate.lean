import CodexRouter.Capsule.Store
import CodexRouter.Js.Bounded

/-!
# Capsules and receipts

The task that a capsule is about, the manifest of the capsule, which bounds what may be changed,
and the receipt that a worker gives for the tree it has made. A manifest and a receipt carry the
hash of what else is in them.
-/

open Js Runs CodexRouter.Kernel

namespace CodexRouter.Capsule

/-! ## Texts -/

/-- The number of so many digits at the head of a text, and the rest. -/
def readDigits (count : ℕ) (text : Str) : Option (ℕ × Str) :=
  if count ≤ text.length ∧ (text.take count).all isDigit then
    some (natValue (text.take count), text.drop count)
  else none

/-- What follows the head of a text. -/
def after (head : String) (text : Str) : Option Str :=
  if startsWith text (js head) then some (text.drop (js head).length) else none

/-- The days of a month; a month that does not exist has none. -/
def daysOf (year month : ℕ) : ℕ :=
  if month = 2 then
    if year % 4 = 0 ∧ (year % 100 ≠ 0 ∨ year % 400 = 0) then 29 else 28
  else if month ∈ [4, 6, 9, 11] then 30
  else if 1 ≤ month ∧ month ≤ 12 then 31
  else 0

/-- `\.\d+`, where there is a point. -/
def afterFraction (text : Str) : Option Str :=
  match after "." text with
  | none => some text
  | some rest => if rest.head?.any isDigit then some (rest.dropWhile isDigit) else none

/-- The seconds, where there is a colon. -/
def afterSeconds (text : Str) : Option Str :=
  match after ":" text with
  | none => some text
  | some rest => do
    let (seconds, rest) ← readDigits 2 rest
    if seconds ≤ 59 then afterFraction rest else none

/-- `Z`, or an offset. -/
def isZone (text : Str) : Bool :=
  text = js "Z"
    || match (after "+" text).or (after "-" text) with
      | none => false
      | some rest =>
        match readDigits 2 rest with
        | none => false
        | some (_, rest) => (readDigits 2 ((after ":" rest).getD rest)).any fun (_, rest) => rest = []

/-- The format of `z.string().datetime({ offset: true })`. -/
def isDatetime (text : Str) : Bool :=
  (do
    let (year, rest) ← readDigits 4 text
    let (month, rest) ← readDigits 2 (← after "-" rest)
    let (day, rest) ← readDigits 2 (← after "-" rest)
    let (hour, rest) ← readDigits 2 (← after "T" rest)
    let (minute, rest) ← readDigits 2 (← after ":" rest)
    let rest ← afterSeconds rest
    return 1 ≤ day && day ≤ daysOf year month && hour ≤ 23 && minute ≤ 59 && isZone rest).getD false

example : isDatetime (js "2024-02-29T23:59:59.5+01:30") = true := by decide

/-- `CapsuleTimestampSchema`. -/
def capsuleTimestampSchema : Schema Str :=
  Schema.string.refine fun text => require (isDatetime text) [] "Invalid datetime"

/-- `NONCE_PATTERN`. -/
def isNonce (text : Str) : Bool :=
  32 ≤ text.length && text.length ≤ 128 && text.all fun c =>
    isDigit c || (0x61 ≤ c.val && c.val ≤ 0x7a) || (0x41 ≤ c.val && c.val ≤ 0x5a)
      || c == cu '_' || c == cu '-'

def nonceSchema : Schema Str :=
  Schema.string.refine fun text => require (isNonce text) [] "Invalid"

def sha256Schema : Schema Str := Schema.string.refine sha256Issues

/-- An owner and a name. -/
def isFullName (text : Str) : Bool :=
  (split slash text).length = 2 && (split slash text).all fun part =>
    part ≠ [] && !part.any isTrimmed

instance : capsuleTimestampSchema.Keyed := inferInstanceAs (Schema.string.refine _).Keyed

instance : capsuleTimestampSchema.Unordered := inferInstanceAs (Schema.string.refine _).Unordered

instance : capsuleTimestampSchema.Exact := inferInstanceAs (Schema.string.refine _).Exact

instance : nonceSchema.Keyed := inferInstanceAs (Schema.string.refine _).Keyed

instance : nonceSchema.Unordered := inferInstanceAs (Schema.string.refine _).Unordered

instance : nonceSchema.Exact := inferInstanceAs (Schema.string.refine _).Exact

instance : sha256Schema.Keyed := inferInstanceAs (Schema.string.refine _).Keyed

instance : sha256Schema.Unordered := inferInstanceAs (Schema.string.refine _).Unordered

instance : sha256Schema.Exact := inferInstanceAs (Schema.string.refine _).Exact

lemma valid_sha256 {text : Str} : sha256Schema.Valid text ↔ isSha256 text = true := by
  unfold sha256Schema sha256Issues
  rw [Schema.valid_refine, require_eq_nil]
  exact and_iff_right (Schema.valid_string text)

/-! ## Tasks -/

structure CapsuleTaskContract where
  taskId : Str
  instruction : Str
  successCriteria : List Str
  outOfScope : List Str
  targetPaths : List Str
  deriving DecidableEq

section
variable [Runtime]

/-- `CanonicalTargetPathsSchema`. -/
def canonicalTargetPathsSchema : Schema (List Str) :=
  (Schema.boundedArray capsulePathSchema 1 none).refine fun paths => addCanonicalPathSetIssues paths []

/-- `CapsuleTaskContractSchema`. -/
def capsuleTaskContractSchema : Schema CapsuleTaskContract :=
  .strictObject
    ((Fields.cons (js "schemaVersion") (.required (.literal "offline-capsule-task.v1")) <|
      .cons (js "dataClassification") (.required (.literal "synthetic_non_sensitive")) <|
      .cons (js "taskId") (.required (.boundedString 1 (some 256))) <|
      .cons (js "instruction") (.required (.boundedString 1 (some 32768))) <|
      .cons (js "successCriteria")
        (.required (.boundedArray (.boundedString 1 (some 4096)) 1 (some 128))) <|
      .cons (js "outOfScope")
        (.required (.boundedArray (.boundedString 1 (some 4096)) 0 (some 128))) <|
      .cons (js "targetPaths") (.required canonicalTargetPathsSchema) .nil).via
      { toFun := fun ((), (), taskId, instruction, successCriteria, outOfScope, targetPaths, ()) =>
          { taskId, instruction, successCriteria, outOfScope, targetPaths }
        invFun := fun task => ((), (), task.taskId, task.instruction, task.successCriteria,
          task.outOfScope, task.targetPaths, ())
        left_inv := fun _ => rfl
        right_inv := fun _ => rfl })
    (by
      change List.Nodup [js "schemaVersion", js "dataClassification", js "taskId", js "instruction",
        js "successCriteria", js "outOfScope", js "targetPaths"]
      decide)

instance : canonicalTargetPathsSchema.Keyed :=
  inferInstanceAs ((Schema.boundedArray _ _ _).refine _).Keyed

instance : canonicalTargetPathsSchema.Unordered :=
  inferInstanceAs ((Schema.boundedArray _ _ _).refine _).Unordered

instance : canonicalTargetPathsSchema.Exact :=
  inferInstanceAs ((Schema.boundedArray _ _ _).refine _).Exact

instance : capsuleTaskContractSchema.Keyed := by unfold capsuleTaskContractSchema; infer_instance

instance : capsuleTaskContractSchema.Unordered := by
  unfold capsuleTaskContractSchema
  infer_instance

instance : capsuleTaskContractSchema.Exact := by unfold capsuleTaskContractSchema; infer_instance

section
variable {σ : Type} (store : ContentAddressedStore σ)

def storeCapsuleTask (taskInput : CapsuleTaskContract) : Comp Thrown σ ContentDigest := do
  let task ← Comp.lift (capsuleTaskContractSchema.parse (capsuleTaskContractSchema.write taskInput))
  store.put (canonicalJsonBytes (capsuleTaskContractSchema.write task)) none

def loadCapsuleTask (digest : ContentDigest) (context : Str) : Comp Thrown σ CapsuleTaskContract :=
  readCanonicalObject store digest capsuleTaskContractSchema (js "offline_capsule_" ++ context)

end

end

/-! ## Bindings and limits -/

structure OfflineCapsuleRepositoryIdentity where
  repositoryId : Str
  fullName : Str
  deriving DecidableEq

/-- `OfflineCapsuleRepositoryIdentitySchema`. -/
def repositoryIdentitySchema : Schema OfflineCapsuleRepositoryIdentity :=
  .strictObject
    ((Fields.cons (js "repositoryId") (.required (.boundedString 1 (some 256))) <|
      .cons (js "fullName") (.required (Schema.string.refine fun text =>
        lengthIssues "String" " character(s)" 3 (some 512) text.length
          ++ require (isFullName text) [] "Invalid")) .nil).via
      { toFun := fun (repositoryId, fullName, ()) => { repositoryId, fullName }
        invFun := fun repository => (repository.repositoryId, repository.fullName, ())
        left_inv := fun _ => rfl
        right_inv := fun _ => rfl })
    (by decide)

structure OfflineCapsuleCorrelation where
  threadId : Str
  turnId : Str
  itemId : Str
  deriving DecidableEq

/-- `OfflineCapsuleCorrelationSchema`. -/
def correlationSchema : Schema OfflineCapsuleCorrelation :=
  .strictObject
    ((Fields.cons (js "threadId") (.required (.boundedString 1 (some 512))) <|
      .cons (js "turnId") (.required (.boundedString 1 (some 512))) <|
      .cons (js "itemId") (.required (.boundedString 1 (some 512))) .nil).via
      { toFun := fun (threadId, turnId, itemId, ()) => { threadId, turnId, itemId }
        invFun := fun correlation =>
          (correlation.threadId, correlation.turnId, correlation.itemId, ())
        left_inv := fun _ => rfl
        right_inv := fun _ => rfl })
    (by decide)

/-- `OfflineCapsuleRestrictionsSchema`, of literals only. -/
def restrictionsSchema : Schema Unit :=
  .strictObject
    ((Fields.cons (js "networkAccess") (.required (.literal "none")) <|
      .cons (js "credentialAccess") (.required (.literal "none")) <|
      .cons (js "inheritEnvironment") (.required (.literalBool false)) <|
      .cons (js "hostSocketAccess") (.required (.literalBool false)) <|
      .cons (js "sourceWorkspaceMounted") (.required (.literalBool false)) <|
      .cons (js "gitMetadataMounted") (.required (.literalBool false)) <|
      .cons (js "inputTreeAccess") (.required (.literal "immutable_content_tree_only")) <|
      .cons (js "outputForm") (.required (.literal "complete_content_tree")) .nil).via
      { toFun := fun _ => ()
        invFun := fun _ => ((), (), (), (), (), (), (), (), ())
        left_inv := fun _ => rfl
        right_inv := fun _ => rfl })
    (by decide)

structure OfflineCapsuleLimits where
  maxTaskBytes : ℕ
  maxTreeManifestBytes : ℕ
  maxTotalTreeFiles : ℕ
  maxTotalTreeBytes : ℕ
  maxChangedFiles : ℕ
  maxChangedBytes : ℕ
  maxDiffBytes : ℕ
  deriving DecidableEq

/-- `OfflineCapsuleLimitsSchema`. -/
def limitsSchema : Schema OfflineCapsuleLimits :=
  .strictObject
    ((Fields.cons (js "maxTaskBytes") (.required (.positiveUpTo (2 * 1024 * 1024))) <|
      .cons (js "maxTreeManifestBytes") (.required (.positiveUpTo (10 * 1024 * 1024))) <|
      .cons (js "maxTotalTreeFiles") (.required (.positiveUpTo 20000)) <|
      .cons (js "maxTotalTreeBytes") (.required (.positiveUpTo (200 * 1024 * 1024))) <|
      .cons (js "maxChangedFiles") (.required (.positiveUpTo 10000)) <|
      .cons (js "maxChangedBytes") (.required (.positiveUpTo (100 * 1024 * 1024))) <|
      .cons (js "maxDiffBytes") (.required (.positiveUpTo (100 * 1024 * 1024))) .nil).via
      { toFun := fun (maxTaskBytes, maxTreeManifestBytes, maxTotalTreeFiles, maxTotalTreeBytes,
          maxChangedFiles, maxChangedBytes, maxDiffBytes, ()) =>
          { maxTaskBytes, maxTreeManifestBytes, maxTotalTreeFiles, maxTotalTreeBytes
            maxChangedFiles, maxChangedBytes, maxDiffBytes }
        invFun := fun limits => (limits.maxTaskBytes, limits.maxTreeManifestBytes,
          limits.maxTotalTreeFiles, limits.maxTotalTreeBytes, limits.maxChangedFiles,
          limits.maxChangedBytes, limits.maxDiffBytes, ())
        left_inv := fun _ => rfl
        right_inv := fun _ => rfl })
    (by decide)

instance : repositoryIdentitySchema.Keyed := by unfold repositoryIdentitySchema; infer_instance

instance : repositoryIdentitySchema.Unordered := by
  unfold repositoryIdentitySchema
  infer_instance

instance : repositoryIdentitySchema.Exact := by unfold repositoryIdentitySchema; infer_instance

instance : correlationSchema.Keyed := by unfold correlationSchema; infer_instance

instance : correlationSchema.Unordered := by unfold correlationSchema; infer_instance

instance : correlationSchema.Exact := by unfold correlationSchema; infer_instance

instance : restrictionsSchema.Keyed := by unfold restrictionsSchema; infer_instance

instance : restrictionsSchema.Unordered := by unfold restrictionsSchema; infer_instance

instance : restrictionsSchema.Exact := by unfold restrictionsSchema; infer_instance

instance : limitsSchema.Keyed := by unfold limitsSchema; infer_instance

instance : limitsSchema.Unordered := by unfold limitsSchema; infer_instance

instance : limitsSchema.Exact := by unfold limitsSchema; infer_instance

/-! ## Manifests -/

structure OfflineExecutionCapsuleManifestContent where
  capsuleId : Str
  taskDigest : ContentDigest
  inputRoot : ContentDigest
  repository : OfflineCapsuleRepositoryIdentity
  baseHead : Str
  correlation : OfflineCapsuleCorrelation
  allowedTargets : List Str
  limits : OfflineCapsuleLimits
  nonce : Str
  issuedAt : Str
  expiresAt : Str
  deriving DecidableEq

structure OfflineExecutionCapsuleManifest extends OfflineExecutionCapsuleManifestContent where
  manifestHash : Str
  deriving DecidableEq

variable [Runtime]

def manifestContentFields : Fields OfflineExecutionCapsuleManifestContent :=
  (Fields.cons (js "schemaVersion") (.required (.literal "offline-execution-capsule.v1")) <|
    .cons (js "capsuleId") (.required (.boundedString 1 (some 256))) <|
    .cons (js "executionMode") (.required (.literal "test_only_simulated")) <|
    .cons (js "taskDigest") (.required contentDigestSchema) <|
    .cons (js "inputRoot") (.required contentDigestSchema) <|
    .cons (js "repository") (.required repositoryIdentitySchema) <|
    .cons (js "baseHead") (.required (.boundedString 1 (some 512))) <|
    .cons (js "correlation") (.required correlationSchema) <|
    .cons (js "allowedTargets") (.required canonicalTargetPathsSchema) <|
    .cons (js "restrictions") (.required restrictionsSchema) <|
    .cons (js "limits") (.required limitsSchema) <|
    .cons (js "nonce") (.required nonceSchema) <|
    .cons (js "issuedAt") (.required capsuleTimestampSchema) <|
    .cons (js "expiresAt") (.required capsuleTimestampSchema) <|
    .cons (js "policyVersion")
      (.required (.literal "offline-execution-capsule-policy.v1")) .nil).via
    { toFun := fun ((), capsuleId, (), taskDigest, inputRoot, repository, baseHead, correlation,
        allowedTargets, (), limits, nonce, issuedAt, expiresAt, (), ()) =>
        { capsuleId, taskDigest, inputRoot, repository, baseHead, correlation, allowedTargets
          limits, nonce, issuedAt, expiresAt }
      invFun := fun content => ((), content.capsuleId, (), content.taskDigest, content.inputRoot,
        content.repository, content.baseHead, content.correlation, content.allowedTargets, (),
        content.limits, content.nonce, content.issuedAt, content.expiresAt, (), ())
      left_inv := fun _ => rfl
      right_inv := fun _ => rfl }

lemma manifestContentFields_keys : manifestContentFields.keys =
    [js "schemaVersion", js "capsuleId", js "executionMode", js "taskDigest", js "inputRoot",
      js "repository", js "baseHead", js "correlation", js "allowedTargets", js "restrictions",
      js "limits", js "nonce", js "issuedAt", js "expiresAt", js "policyVersion"] := rfl

/-- `OfflineExecutionCapsuleManifestContentSchema`. -/
def manifestContentSchema : Schema OfflineExecutionCapsuleManifestContent :=
  .strictObject manifestContentFields (by
    rw [manifestContentFields_keys]
    decide)

/-- `OfflineExecutionCapsuleManifestSchema`; the hash is that of the other members. -/
def offlineExecutionCapsuleManifestSchema : Schema OfflineExecutionCapsuleManifest :=
  (Schema.strictObject
    ((Fields.cons (js "manifestHash") (.required sha256Schema) manifestContentFields).via
      { toFun := fun (manifestHash, content) => { content with manifestHash }
        invFun := fun manifest =>
          (manifest.manifestHash, manifest.toOfflineExecutionCapsuleManifestContent)
        left_inv := fun _ => rfl
        right_inv := fun _ => rfl })
    (by
      change List.Nodup (js "manifestHash" :: manifestContentFields.keys)
      rw [manifestContentFields_keys]
      decide)).refine fun manifest =>
        require (manifest.manifestHash = (digestCanonicalJson (manifestContentSchema.write
          manifest.toOfflineExecutionCapsuleManifestContent)).hash)
          ["manifestHash"] "offline capsule manifest hash mismatch"

def createOfflineExecutionCapsuleManifest (input : OfflineExecutionCapsuleManifestContent) :
    Result OfflineExecutionCapsuleManifest := do
  let content ← manifestContentSchema.parse (manifestContentSchema.write input)
  let manifestHash := (digestCanonicalJson (manifestContentSchema.write content)).hash
  offlineExecutionCapsuleManifestSchema.parse
    (offlineExecutionCapsuleManifestSchema.write { content with manifestHash })

/-! ## Receipts -/

inductive CleanupStatus where
  | succeeded | failed
  deriving DecidableEq

def CleanupStatus.text : CleanupStatus → Str
  | succeeded => js "succeeded"
  | failed => js "failed"

structure OfflineSimulatedCheckResult where
  checkId : Str
  summary : Str
  deriving DecidableEq

structure OfflineOutputTreeReceiptContent where
  receiptId : Str
  capsuleId : Str
  manifestHash : Str
  taskDigest : ContentDigest
  inputRoot : ContentDigest
  outputRoot : ContentDigest
  repository : OfflineCapsuleRepositoryIdentity
  baseHead : Str
  correlation : OfflineCapsuleCorrelation
  nonce : Str
  startedAt : Str
  completedAt : Str
  checks : List OfflineSimulatedCheckResult
  cleanup : CleanupStatus
  deriving DecidableEq

structure OfflineOutputTreeReceipt extends OfflineOutputTreeReceiptContent where
  receiptHash : Str
  deriving DecidableEq

omit [Runtime] in
/-- `OfflineSimulatedCheckResultSchema`. -/
def simulatedCheckResultSchema : Schema OfflineSimulatedCheckResult :=
  .strictObject
    ((Fields.cons (js "checkId") (.required (.boundedString 1 (some 256))) <|
      .cons (js "status") (.required (.literal "simulated")) <|
      .cons (js "summary") (.required (.boundedString 1 (some 4096))) .nil).via
      { toFun := fun (checkId, (), summary, ()) => { checkId, summary }
        invFun := fun check => (check.checkId, (), check.summary, ())
        left_inv := fun _ => rfl
        right_inv := fun _ => rfl })
    (by decide)

omit [Runtime] in
/-- `OfflineFakeWorkerIdentitySchema`, of literals only. -/
def fakeWorkerIdentitySchema : Schema Unit :=
  .strictObject
    ((Fields.cons (js "workerId") (.required (.literal "offline-test-only-fake-worker")) <|
      .cons (js "workerVersion") (.required (.literal "1")) <|
      .cons (js "scope") (.required (.literal "test_only")) .nil).via
      { toFun := fun _ => ()
        invFun := fun _ => ((), (), (), ())
        left_inv := fun _ => rfl
        right_inv := fun _ => rfl })
    (by decide)

omit [Runtime] in
def cleanupSchema : Schema CleanupStatus :=
  .strictObject
    ((Fields.cons (js "attempted") (.required (.literalBool true)) <|
      .cons (js "status") (.required (.enum [.succeeded, .failed] CleanupStatus.text
        (by intro a; cases a <;> decide))) .nil).via
      { toFun := fun ((), status, ()) => status
        invFun := fun status => ((), status, ())
        left_inv := fun _ => rfl
        right_inv := fun _ => rfl })
    (by decide)

omit [Runtime] in
def receiptContentFields : Fields OfflineOutputTreeReceiptContent :=
  (Fields.cons (js "schemaVersion") (.required (.literal "offline-output-tree-receipt.v1")) <|
    .cons (js "receiptId") (.required (.boundedString 1 (some 512))) <|
    .cons (js "capsuleId") (.required (.boundedString 1 (some 256))) <|
    .cons (js "executionMode") (.required (.literal "test_only_simulated")) <|
    .cons (js "manifestHash") (.required sha256Schema) <|
    .cons (js "taskDigest") (.required contentDigestSchema) <|
    .cons (js "inputRoot") (.required contentDigestSchema) <|
    .cons (js "outputRoot") (.required contentDigestSchema) <|
    .cons (js "repository") (.required repositoryIdentitySchema) <|
    .cons (js "baseHead") (.required (.boundedString 1 (some 512))) <|
    .cons (js "correlation") (.required correlationSchema) <|
    .cons (js "worker") (.required fakeWorkerIdentitySchema) <|
    .cons (js "nonce") (.required nonceSchema) <|
    .cons (js "startedAt") (.required capsuleTimestampSchema) <|
    .cons (js "completedAt") (.required capsuleTimestampSchema) <|
    .cons (js "checks") (.required (.boundedArray simulatedCheckResultSchema 1 (some 128))) <|
    .cons (js "cleanup") (.required cleanupSchema) .nil).via
    { toFun := fun ((), receiptId, capsuleId, (), manifestHash, taskDigest, inputRoot, outputRoot,
        repository, baseHead, correlation, (), nonce, startedAt, completedAt, checks, cleanup, ()) =>
        { receiptId, capsuleId, manifestHash, taskDigest, inputRoot, outputRoot, repository, baseHead
          correlation, nonce, startedAt, completedAt, checks, cleanup }
      invFun := fun content => ((), content.receiptId, content.capsuleId, (), content.manifestHash,
        content.taskDigest, content.inputRoot, content.outputRoot, content.repository,
        content.baseHead, content.correlation, (), content.nonce, content.startedAt,
        content.completedAt, content.checks, content.cleanup, ())
      left_inv := fun _ => rfl
      right_inv := fun _ => rfl }

omit [Runtime] in
lemma receiptContentFields_keys : receiptContentFields.keys =
    [js "schemaVersion", js "receiptId", js "capsuleId", js "executionMode", js "manifestHash",
      js "taskDigest", js "inputRoot", js "outputRoot", js "repository", js "baseHead",
      js "correlation", js "worker", js "nonce", js "startedAt", js "completedAt", js "checks",
      js "cleanup"] := rfl

omit [Runtime] in
/-- `OfflineOutputTreeReceiptContentSchema`. -/
def receiptContentSchema : Schema OfflineOutputTreeReceiptContent :=
  .strictObject receiptContentFields (by
    rw [receiptContentFields_keys]
    decide)

omit [Runtime] in
/-- `OfflineOutputTreeReceiptSchema`; the hash is that of the other members. -/
def offlineOutputTreeReceiptSchema : Schema OfflineOutputTreeReceipt :=
  (Schema.strictObject
    ((Fields.cons (js "receiptHash") (.required sha256Schema) receiptContentFields).via
      { toFun := fun (receiptHash, content) => { content with receiptHash }
        invFun := fun receipt => (receipt.receiptHash, receipt.toOfflineOutputTreeReceiptContent)
        left_inv := fun _ => rfl
        right_inv := fun _ => rfl })
    (by
      change List.Nodup (js "receiptHash" :: receiptContentFields.keys)
      rw [receiptContentFields_keys]
      decide)).refine fun receipt =>
        require (receipt.receiptHash = (digestCanonicalJson (receiptContentSchema.write
          receipt.toOfflineOutputTreeReceiptContent)).hash)
          ["receiptHash"] "offline output receipt hash mismatch"

omit [Runtime] in
def createOfflineOutputTreeReceipt (input : OfflineOutputTreeReceiptContent) :
    Result OfflineOutputTreeReceipt := do
  let content ← receiptContentSchema.parse (receiptContentSchema.write input)
  let receiptHash := (digestCanonicalJson (receiptContentSchema.write content)).hash
  offlineOutputTreeReceiptSchema.parse
    (offlineOutputTreeReceiptSchema.write { content with receiptHash })

end CodexRouter.Capsule
