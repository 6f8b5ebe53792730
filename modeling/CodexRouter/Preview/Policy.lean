import CodexRouter.Preview.ChangeSet

/-!
# The auto-approval policy

A change set is eligible when it crosses no hard boundary and satisfies some rule.
-/

open Js

namespace CodexRouter.Preview
open Kernel Authorization

/-! ## Path patterns -/

/-- The code points of a string; an unpaired surrogate is a code point. -/
def codePoints : Str → List ℕ
  | [] => []
  | [c] => [c.val]
  | c :: d :: s =>
    if Json.isHighSurrogate c && Json.isLowSurrogate d then
      (0x10000 + (c.val - 0xd800) * 0x400 + (d.val - 0xdc00)) :: codePoints s
    else c.val :: codePoints (d :: s)

inductive PatternToken where
  | literal (c : ℕ)
  | star
  | doubleStar
  deriving DecidableEq

def patternTokens : List ℕ → List PatternToken
  | [] => []
  | [c] => [if c = 0x2a then .star else .literal c]
  | c :: d :: s =>
    if c = 0x2a then
      if d = 0x2a then .doubleStar :: patternTokens s else .star :: patternTokens (d :: s)
    else .literal c :: patternTokens (d :: s)

/-- Whether the expression of the tokens matches the whole text: `**` is `.*` and `*` is
`[^/]*`. -/
def matchTokens : List PatternToken → List ℕ → Bool
  | [], text => text = []
  | .literal c :: tokens, text => text.head? = some c && matchTokens tokens text.tail
  | .star :: tokens, text =>
    (List.range (text.length + 1)).any fun n =>
      (text.take n).all (· ≠ 0x2f) && matchTokens tokens (text.drop n)
  | .doubleStar :: tokens, text =>
    (List.range (text.length + 1)).any fun n =>
      (text.take n).all (fun c => c ≠ 0xa && c ≠ 0xd && c ≠ 0x2028 && c ≠ 0x2029)
        && matchTokens tokens (text.drop n)

variable [Runtime]

def normalizeAndAssertPattern (pattern : Str) : Result Str := do
  let normalized := toSlashes pattern
  let withoutGlob := normalized.map fun c => if c = cu '*' then cu 'x' else c
  let _ ← normalizeAndAssertGovernedPath withoutGlob
  return normalized

def pathMatchesPattern (path patternInput : Str) : Bool :=
  match normalizeAndAssertPattern patternInput with
  | .ok pattern => matchTokens (patternTokens (codePoints pattern)) (codePoints path)
  | .error _ => false

/-! ## Hard boundaries -/

omit [Runtime] in
def bindOptionalHash : Option (Option Str) → Str
  | none => "undefined"
  | some none => "null"
  | some (some value) => js "sha256:" ++ value

omit [Runtime] in
/-- The text a change is bound by. -/
def bindChange (change : CapabilityFactFileChange) : Str :=
  join 0 [change.kind.text, change.oldPath.getD [], change.path, Json.natText change.addedLines,
    Json.natText change.deletedLines, bindOptionalHash change.beforeHash,
    bindOptionalHash change.afterHash]

omit [Runtime] in
def factsBindChangeSet (facts : CapabilityFacts) (changeSet : GovernedFileChangeSet) : Bool :=
  facts.subjectId = changeSet.changeSetId
    && sortUnits (facts.fileChanges.map bindChange) =
      sortUnits (changeSet.changes.map fun change => bindChange change.toCapabilityFactFileChange)

/-- This copy does not compare the branch with its trimmed text. -/
def isProtectedBranch (branch : Option Str) : Bool :=
  match branch with
  | none => true
  | some branch =>
    let normalized := Runtime.toLowerCase branch
    normalized ∈ protectedBranches || startsWith normalized "release/"
      || startsWith normalized "production/"

def collectHardBoundaryReasons (changeSet : GovernedFileChangeSet) (facts : CapabilityFacts) :
    List Str :=
  let changes := changeSet.changes
  let reason (condition : Bool) (text : Str) : List Str := if condition then [text] else []
  uniqueStrings (
    reason (changes.any fun change => !isCanonicalGovernedPath change.path
        || change.oldPath.any fun path => !isCanonicalGovernedPath path)
      "auto_approval_unsafe_path_forbidden"
    ++ reason (!isCanonicalGovernedChangeSet changeSet)
      "auto_approval_noncanonical_change_set_forbidden"
    ++ reason (changes.any fun change => change.kind = .delete) "auto_approval_delete_forbidden"
    ++ reason (changes.any fun change => change.kind = .rename) "auto_approval_rename_forbidden"
    ++ reason (changes.any fun change => isGitAttributesControlPath change.path
        || change.oldPath.any fun path => isGitAttributesControlPath path)
      "auto_approval_git_attributes_change_forbidden"
    ++ reason ((changes.any fun change => isSensitiveGovernedPath change.path)
        || facts.sensitivePaths ≠ []) "auto_approval_sensitive_path_forbidden"
    ++ reason (changes.any fun change => change.kind = .update && change.beforeHash.join = none)
      "auto_approval_update_before_hash_required"
    ++ reason (changes.any fun change => (change.kind = .create || change.kind = .update)
        && change.afterHash.join = none) "auto_approval_after_hash_required"
    ++ reason (facts.commands ≠ []) "auto_approval_command_forbidden"
    ++ reason (facts.permissionRequests ≠ []) "auto_approval_permission_forbidden"
    ++ reason (facts.repository.protectedBranch || isProtectedBranch facts.repository.branch)
      "auto_approval_protected_branch_forbidden"
    ++ reason (!facts.repository.worktreeClean) "auto_approval_dirty_worktree_forbidden"
    ++ reason (facts.repository.headCommit = none || facts.repository.expectedHead = none
        || facts.repository.headCommit ≠ facts.repository.expectedHead
        || facts.repository.headCommit ≠ some changeSet.baseHead) "auto_approval_head_mismatch"
    ++ reason (facts.networkAccess ≠ .none) "auto_approval_network_forbidden"
    ++ reason (facts.credentialAccess ≠ .none || changes.any fun change =>
        containsCredentialLikeDiffContent change.unifiedDiff) "auto_approval_credential_forbidden"
    ++ reason (facts.externalTargets ≠ []) "auto_approval_external_target_forbidden"
    ++ reason facts.releaseAction "auto_approval_release_forbidden"
    ++ reason (!facts.exactTargets || facts.ambiguous || facts.unknowns ≠ [])
      "auto_approval_ambiguous_or_unknown_forbidden"
    ++ reason (!factsBindChangeSet facts changeSet) "auto_approval_facts_change_set_mismatch")

/-! ## Rules -/

def collectRuleReasons (changeSet : GovernedFileChangeSet) (rule : AutoApprovalRule) : List Str :=
  let changes := changeSet.changes
  let diffLines := (changes.map fun change => change.addedLines + change.deletedLines).sum
  uniqueStrings (
    (if changes.length > rule.maxFiles then [js "file_limit_exceeded"] else [])
    ++ (if diffLines > rule.maxDiffLines then [js "diff_limit_exceeded"] else [])
    ++ (if changes.any fun change => change.kind ∉ rule.operations then
      [js "operation_not_allowed"] else [])
    ++ (changes.filter fun change => !rule.allowedPaths.any (pathMatchesPattern change.path)).map
      fun change => js "path_not_allowed:" ++ change.path)

structure AutoApprovalEvaluation where
  eligible : Bool
  rule : Option AutoApprovalRule
  reasons : List Str
  deriving DecidableEq

/-- The first rule without a reason against it, or all the reasons. -/
def evaluateRules (changeSet : GovernedFileChangeSet) :
    List AutoApprovalRule → List Str → AutoApprovalRule ⊕ List Str
  | [], ruleFailures => .inr ruleFailures
  | rule :: rules, ruleFailures =>
    match collectRuleReasons changeSet rule with
    | [] => .inl rule
    | reasons =>
      evaluateRules changeSet rules
        (ruleFailures ++ reasons.map fun reason => rule.ruleId ++ js ":" ++ reason)

def evaluateAutoApprovalPolicy (changeSetInput : GovernedFileChangeSet) (facts : CapabilityFacts)
    (policyInput : PreviewPolicy) : Result AutoApprovalEvaluation := do
  let changeSet ← parse GovernedFileChangeSet.issues changeSetInput
  let policy ← parse PreviewPolicy.issues policyInput
  let hardBoundaryReasons := collectHardBoundaryReasons changeSet facts
  if hardBoundaryReasons ≠ [] then
    return { eligible := false, rule := none, reasons := hardBoundaryReasons }
  else
    match evaluateRules changeSet policy.autoApprovalRules [] with
    | .inl rule =>
      return { eligible := true, rule := some rule
               reasons := [js "auto_approval_rule:" ++ rule.ruleId] }
    | .inr ruleFailures =>
      return {
        eligible := false
        rule := none
        reasons := uniqueStrings
          ((if policy.autoApprovalRules = [] then [js "auto_approval_rule_missing"] else [])
            ++ ruleFailures) }

end CodexRouter.Preview
