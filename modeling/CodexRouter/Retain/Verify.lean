import CodexRouter.Retain.Workspace

/-!
# Checks before and after an accepted change

`revalidateBaseCheckoutBeforeAcceptance` and `verifyRetainedChange`, over the answers of one
inspection of the workspace.
-/

open Js CodexRouter.Kernel

namespace CodexRouter.Retain

section
variable [Runtime]

def validateRetainPermit (changeSet : GovernedFileChangeSet) (permit : RetainPermit) (now : Str) :
    List Str :=
  uniqueStrings
    (reasonUnless (permit.changeSetHash = changeSet.canonicalHash) "retain_change_set_hash_mismatch"
      ++ reasonUnless (permit.headCommit = changeSet.baseHead) "retain_permit_head_mismatch"
      ++ reasonUnless (sameStringArrays permit.targetFiles
          (sortUnits (changeSet.changes.map (·.path)))) "retain_permit_targets_mismatch"
      ++ reasonUnless (!(isExpired permit.expiresAt now || isBefore now permit.issuedAt))
        "retain_permit_expired_or_not_yet_valid")

/-- `normalizeRetainError`; only an `Error` with a message of this alphabet is shown. -/
def normalizeRetainError : Thrown → Str
  | .error message =>
    if message ≠ [] ∧ message.all (fun c => isDigit c || (0x61 ≤ c.val && c.val ≤ 0x7a)
        || c == cu '_' || c == cu ':' || c == cu '.' || c == cu '-') then message
    else "retain_unknown_error"
  | .schema _ => "retain_unknown_error"

inductive RetainVerificationResult where
  | retained (receipt : RetainReceipt)
  | reconciliationRequired (reasons : List Str)
  deriving DecidableEq

/-- The check made before the target is read. -/
def modeReasons (pathModes : Str → Option FileMode) (change : GovernedFileChange) : List Str :=
  reasonUnless (change.kind ≠ .update
      ∨ (pathModes change.path).all fun mode => mode.worktree = mode.head)
    (js "retain_target_mode_drift:" ++ change.path)

/-- The reasons of one change, and its target hash unless the target is missing. -/
def verifyTarget (basePathExists : Bool) (expectedBeforeHash : Option Str) (after : Option Str)
    (change : GovernedFileChange) : List Str × Option RetainTargetHash :=
  let before := if change.kind = .create then none else change.beforeHash.join
  let createReasons := reasonUnless (change.kind ≠ .create ∨ !basePathExists)
    (js "retain_create_before_present:" ++ change.path)
  let updateReasons :=
    if change.kind = .update then
      reasonUnless basePathExists (js "retain_update_before_missing:" ++ change.path)
        ++ reasonUnless (change.beforeHash.join ≠ none ∧ expectedBeforeHash ≠ none
            ∧ change.beforeHash.join = expectedBeforeHash)
          (js "retain_before_hash_mismatch:" ++ change.path)
    else []
  let reasons := createReasons ++ updateReasons
  match after with
  | none => (reasons ++ [js "retain_after_target_missing:" ++ change.path], none)
  | some after =>
    let afterReasons := match change.afterHash.join with
      | none => [js "retain_after_hash_missing:" ++ change.path]
      | some declared =>
        reasonUnless (declared = after) (js "retain_after_hash_mismatch:" ++ change.path)
    (reasons ++ afterReasons, some ⟨change.path, before, after⟩)

/-- The loop over the changes; a read that throws ends it with the reasons so far. -/
def verifyTargets (reads : WorkspaceReads) (pathModes : Str → Option FileMode)
    (basePathExists : Str → Bool) (baseHashes : Str → Option Str) :
    List GovernedFileChange → List Str × Result (List RetainTargetHash)
  | [] => ([], .ok [])
  | change :: changes =>
    match reads.workspacePathHash change.path with
    | .error e => (modeReasons pathModes change, .error e)
    | .ok after =>
      let (reasons, target) := verifyTarget (basePathExists change.path) (baseHashes change.path)
        after change
      let (reasons', targets) := verifyTargets reads pathModes basePathExists baseHashes changes
      (modeReasons pathModes change ++ reasons ++ reasons', (target.toList ++ ·) <$> targets)

/-- The receipt of a verified change. -/
def retainReceiptOf (changeSet : GovernedFileChangeSet) (permit : RetainPermit) (now : Str)
    (identityHash : Str) (targetHashes : List RetainTargetHash) : RetainReceipt where
  receiptId := js "retained_" ++ changeSet.canonicalHash.take 24
  permitId := permit.permitId
  changeSetHash := changeSet.canonicalHash
  previewReceiptHash := permit.previewReceiptHash
  headCommit := permit.headCommit
  repositoryIdentityHash := identityHash
  targetHashes := targetHashes
  retainedAt := now

/-- The rest of the `try`, behind the check of the head's form. -/
def verifyRetainedWorkspace (reads : WorkspaceReads) (changeSet : GovernedFileChangeSet)
    (permit : RetainPermit) (now : Str) (reasons : List Str) : RetainVerificationResult :=
  let boundary := reads.filterReasons ++ reads.submoduleReasons ++ reads.partialCloneReasons
  let required (reasons : List Str) := RetainVerificationResult.reconciliationRequired
    (uniqueStrings reasons)
  if boundary ≠ [] then required (reasons ++ boundary)
  else
    match reads.repository with
    | .error e => required (reasons ++ boundary ++ [normalizeRetainError e])
    | .ok repository =>
      let reasons := reasons
        ++ reasonUnless (repository.headCommit = permit.headCommit) "retain_head_mismatch"
        ++ reasonUnless (!repository.indexChanged) "retain_index_changed"
        ++ reasonUnless (sameStringArrays repository.changedPaths permit.targetFiles)
          "retain_outside_or_missing_target_changes"
      match reads.topologyReasons with
      | .error e => required (reasons ++ [normalizeRetainError e])
      | .ok topologyReasons =>
        if topologyReasons ≠ [] then required (reasons ++ topologyReasons)
        else
          match changeSet.changes.mapM fun change => reads.commitPathExists change.path with
          | .error e => required (reasons ++ [normalizeRetainError e])
          | .ok _ =>
            match reads.commitWorktreeHashes with
            | .error e => required (reasons ++ [normalizeRetainError e])
            | .ok baseHashes =>
              let (targetReasons, targets) := verifyTargets reads repository.pathModes
                (fun path => (reads.commitPathExists path).orElse false) baseHashes changeSet.changes
              match targets with
              | .error e => required (reasons ++ targetReasons ++ [normalizeRetainError e])
              | .ok targetHashes =>
                if uniqueStrings (reasons ++ targetReasons) ≠ [] then
                  required (reasons ++ targetReasons)
                else
                  match parse RetainReceipt.issues (retainReceiptOf changeSet permit now
                      repository.identityHash targetHashes) with
                  | .error e => required [normalizeRetainError e]
                  | .ok receipt => .retained receipt

def verifyRetainedChange (reads : WorkspaceReads) (changeSetInput : GovernedFileChangeSet)
    (permitInput : RetainPermit) (now : Str) : RetainVerificationResult :=
  match parse GovernedFileChangeSet.issues changeSetInput, parse RetainPermit.issues permitInput with
  | .error e, _ => .reconciliationRequired [normalizeRetainError e]
  | .ok _, .error e => .reconciliationRequired [normalizeRetainError e]
  | .ok changeSet, .ok permit =>
    let reasons := validateRetainPermit changeSet permit now
    if !isGitObjectId permit.headCommit then
      .reconciliationRequired (uniqueStrings (reasons ++ [js "retain_head_object_id_invalid"]))
    else verifyRetainedWorkspace reads changeSet permit now reasons

end

end CodexRouter.Retain
