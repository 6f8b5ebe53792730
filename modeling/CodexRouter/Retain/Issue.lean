import CodexRouter.Retain.Journal

/-!
# Retain permits and pending entries

What is issued for a change set that an operator or the policy accepts.
-/

open Js CodexRouter.Kernel

namespace CodexRouter.Retain

variable [Runtime]

structure IssueRetainPermitInput where
  changeSet : GovernedFileChangeSet
  authorizationDecision : AuthorizationDecision
  previewReceipt : Option PreviewReceipt
  issuedAt : Str
  expiresAt : Str
  nonce : Str

/-- `value === undefined ? undefined : schema.parse(value)`. -/
def parseOptional {α : Type} (check : α → List Issue) (value : Option α) : Result (Option α) :=
  value.mapM (parse check)

def assertValidTimeWindow (issuedAt expiresAt purpose : Str) : Result Unit :=
  if isBefore issuedAt expiresAt then pure () else fail (purpose ++ js "_time_window_invalid")

omit [Runtime] in
/-- A hash that a change of its kind has to declare is missing. -/
def lacksExpectedHash (change : GovernedFileChange) : Bool :=
  change.afterHash.join = none || (change.kind = .update && change.beforeHash.join = none)

omit [Runtime] in
def isAuthorizedTarget (authorization : AuthorizationDecision) (path : Str) : Bool :=
  authorization.authorizedCapabilities.any fun scope =>
    scope.kind = .file && scope.access = .write && scope.resource = path

omit [Runtime] in
/-- The preview that an automatic approval rests on. -/
def isPassedPreview (changeSet : GovernedFileChangeSet) (preview : PreviewReceipt) : Bool :=
  preview.status = .previewPassed && preview.changeSetHash = changeSet.canonicalHash
    && preview.headCommit = changeSet.baseHead

/-- The checks of `issueRetainPermit` on parsed values. -/
def assertPermitIssuable (changeSet : GovernedFileChangeSet)
    (authorization : AuthorizationDecision) (preview : Option PreviewReceipt) : Result Unit :=
  if authorization.subjectId ≠ changeSet.changeSetId then
    fail "retain_permit_authorization_subject_mismatch"
  else if authorization.approvalMode = .notRequired then
    fail "retain_permit_approval_mode_invalid"
  else if authorization.disposition = .blocked then fail "retain_permit_authorization_blocked"
  else if changeSet.changes.any fun change => change.kind ≠ .create && change.kind ≠ .update then
    fail "retain_permit_change_kind_unsupported"
  else if changeSet.changes.any lacksExpectedHash then fail "retain_permit_expected_hash_missing"
  else
    match changeSet.changes.find? fun change => !isAuthorizedTarget authorization change.path with
    | some change => fail (js "retain_permit_authorized_target_missing:" ++ change.path)
    | none =>
      if authorization.approvalMode = .policyAuto
          && !preview.any (isPassedPreview changeSet) then
        fail "retain_permit_preview_required"
      else pure ()

def issueRetainPermit (input : IssueRetainPermitInput) : Result RetainPermit := do
  let changeSet ← parse GovernedFileChangeSet.issues input.changeSet
  let authorization ← parse AuthorizationDecision.issues input.authorizationDecision
  let preview ← parseOptional PreviewReceipt.issues input.previewReceipt
  assertPermitIssuable changeSet authorization preview
  assertValidTimeWindow input.issuedAt input.expiresAt "retain_permit"
  parse RetainPermit.issues {
    permitId := js "retain_" ++ changeSet.canonicalHash.take 20 ++ js "_"
      ++ (Runtime.sha256 input.nonce).take 8
    changeSetHash := changeSet.canonicalHash
    authorizationDecisionHash := hashKernelObject authorization.toJson
    previewReceiptHash := preview.map fun preview => hashKernelObject preview.toJson
    approvalMode := authorization.approvalMode
    headCommit := changeSet.baseHead
    targetFiles := sortUnits (changeSet.changes.map (·.path))
    issuedAt := input.issuedAt
    expiresAt := input.expiresAt
    nonceHash := Runtime.sha256 input.nonce }

structure PendingEntryInput where
  journalId : Str
  requestId : Str
  changeSet : GovernedFileChangeSet
  authorizationDecision : AuthorizationDecision
  retainPermit : RetainPermit
  previewReceipt : Option PreviewReceipt
  now : Str

omit [Runtime] in
/-- A hash of a target that the entry's schema requires. -/
def requiredHash (key : String) : Option (Option Str) → Result Str
  | some (some hash) => pure hash
  | some none => .error (.schema (issue [js key] (js "Expected string, received null")))
  | none => .error (.schema (issue [js key] (js "Required")))

omit [Runtime] in
def pendingTargetHash (change : GovernedFileChange) : Result RetainTargetHash := do
  let beforeHash ←
    if change.kind = .create then pure none
    else
      match change.beforeHash with
      | some beforeHash => pure beforeHash
      | none => .error (.schema (issue [js "beforeHash"] (js "Required")))
  let afterHash ← requiredHash "afterHash" change.afterHash
  return { path := change.path, beforeHash, afterHash }

def createPendingApprovalJournalEntry (input : PendingEntryInput) :
    Result PendingApprovalJournalEntry := do
  let changeSet ← parse GovernedFileChangeSet.issues input.changeSet
  let authorization ← parse AuthorizationDecision.issues input.authorizationDecision
  let permit ← parse RetainPermit.issues input.retainPermit
  let preview ← parseOptional PreviewReceipt.issues input.previewReceipt
  let previewHash := preview.map fun preview => hashKernelObject preview.toJson
  if permit.changeSetHash ≠ changeSet.canonicalHash
      ∨ permit.authorizationDecisionHash ≠ hashKernelObject authorization.toJson
      ∨ permit.previewReceiptHash ≠ previewHash then
    fail "pending_journal_binding_mismatch"
  else do
    let targetHashes ← changeSet.changes.mapM pendingTargetHash
    parse PendingApprovalJournalEntry.issues {
      journalId := input.journalId
      threadId := changeSet.threadId
      turnId := changeSet.turnId
      itemId := changeSet.itemId
      requestId := input.requestId
      changeSetHash := changeSet.canonicalHash
      authorizationDecisionHash := permit.authorizationDecisionHash
      previewReceiptHash := previewHash
      headCommit := changeSet.baseHead
      targetFiles := permit.targetFiles
      targetHashes
      retainPermit := permit
      retainReceipt := none
      state := .pendingAccept
      reasons := []
      createdAt := input.now
      updatedAt := input.now }

end CodexRouter.Retain
