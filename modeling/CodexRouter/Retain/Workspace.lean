import CodexRouter.Js.Result
import CodexRouter.Kernel.Governance

/-!
# What git and the file system answer

The checks before and after a change read the workspace through subprocesses. One record holds
the answers of one inspection; nothing is assumed about them.
-/

open Js CodexRouter.Kernel

namespace CodexRouter.Retain

structure FileMode where
  head : Str
  index : Str
  worktree : Str

/-- What `inspectRepository` returns. -/
structure RepositoryInspection where
  headCommit : Str
  identityHash : Str
  changedPaths : List Str
  indexChanged : Bool
  pathModes : Str → Option FileMode

structure WorkspaceReads where
  /-- `collectActiveConfiguredGitFilterReasons` -/
  filterReasons : List Str
  /-- `collectTrackedSubmoduleReasons` -/
  submoduleReasons : List Str
  /-- `collectPartialCloneReasons` -/
  partialCloneReasons : List Str
  repository : Result RepositoryInspection
  /-- `collectTargetTopologyReasons` -/
  topologyReasons : Result (List Str)
  /-- `collectTargetTopologyReasons` of created targets, which may be missing -/
  missingTopologyReasons : Result (List Str)
  /-- `commitPathExists` -/
  commitPathExists : Str → Result Bool
  /-- `readCommitWorktreeHashes` -/
  commitWorktreeHashes : Result (Str → Option Str)
  /-- `readWorkspacePathHash`; `none` is `null` -/
  workspacePathHash : Str → Result (Option Str)

/-- `GitObjectIdSchema.safeParse(input).success`. -/
def isGitObjectId (s : Str) : Bool :=
  (s.length = 40 || s.length = 64) && s.all fun c => isDigit c || (0x61 ≤ c.val && c.val ≤ 0x66)

/-- `Date.parse(left) < Date.parse(right)`; a comparison with `NaN` is false. -/
def isBefore [Runtime] (left right : Str) : Bool :=
  match Runtime.dateParse left, Runtime.dateParse right with
  | some l, some r => l < r
  | _, _ => false

def isExpired [Runtime] (expiresAt now : Str) : Bool :=
  match Runtime.dateParse expiresAt, Runtime.dateParse now with
  | some expires, some current => expires ≤ current
  | _, _ => true

def sameStringArrays (left right : List Str) : Bool := sortUnits left = sortUnits right

lemma perm_of_sameStringArrays {left right : List Str} (h : sameStringArrays left right = true) :
    left.Perm right := by
  have hsort : ∀ l : List Str, (sortUnits l).Perm l := List.perm_insertionSort _
  have heq : sortUnits left = sortUnits right := by simpa [sameStringArrays] using h
  exact (hsort left).symm.trans (heq ▸ hsort right)

/-- A reason that is pushed when the condition fails. -/
def reasonUnless (ok : Bool) (reason : Str) : List Str := if ok then [] else [reason]

@[simp] lemma reasonUnless_eq_nil {ok : Bool} {reason : Str} :
    reasonUnless ok reason = [] ↔ ok = true := by
  cases ok <;> simp [reasonUnless]

end CodexRouter.Retain
