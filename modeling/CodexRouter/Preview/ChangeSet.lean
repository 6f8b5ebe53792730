import CodexRouter.Authorization.Decision

/-!
# Canonical change sets

A draft is brought to a normal form: plain paths, `\n` line ends, counted lines, sorted changes.
-/

open Js

namespace CodexRouter.Preview
open Kernel Authorization

structure GovernedFileChangeDraft where
  path : Str
  kind : GovernedFileChangeKind
  oldPath : Option Str
  unifiedDiff : Str
  beforeHash : Option (Option Str)
  afterHash : Option (Option Str)
  deriving DecidableEq

structure GovernedFileChangeSetDraft where
  changeSetId : Str
  threadId : Str
  turnId : Str
  itemId : Str
  baseHead : Str
  changes : List GovernedFileChangeDraft
  proposedAt : Str
  sourceSchemaProfile : Str
  deriving DecidableEq

/-! ## Diffs -/

/-- `diff.replace(/\r\n/g, "\n").replace(/\r/g, "\n")`. -/
def normalizeNewlines : Str → Str
  | [] => []
  | [c] => [if c = cu '\r' then cu '\n' else c]
  | c :: d :: s =>
    if c = cu '\r' then
      if d = cu '\n' then cu '\n' :: normalizeNewlines s
      else cu '\n' :: normalizeNewlines (d :: s)
    else c :: normalizeNewlines (d :: s)

def normalizeUnifiedDiff (diff : Str) : Str :=
  let normalized := normalizeNewlines diff
  if endsWith normalized "\n" then normalized else normalized ++ js "\n"

/-- The indexes of the lines that start with a marker. -/
def linesStarting (marker : Str) (lines : List Str) : List ℕ :=
  lines.zipIdx.filterMap fun (line, index) => if startsWith line marker then some index else none

/-- `/^(?:old mode|new mode|new file mode|deleted file mode)\s/u.test(line)`. -/
def isModeHeader (line : Str) : Bool :=
  [js "old mode", js "new mode", js "new file mode", js "deleted file mode"].any fun marker =>
    startsWith line marker && (line.drop marker.length).head?.any isTrimmed

def assertSupportedFileModeHeaders (headerLines : List Str) (kind : GovernedFileChangeKind) :
    Result Unit :=
  let modeHeaders := headerLines.filter isModeHeader
  if modeHeaders = []
      ∨ (kind = .create ∧ modeHeaders = [js "new file mode 100644"])
      ∨ (kind = .delete ∧ modeHeaders = [js "deleted file mode 100644"]) then return ()
  else fail "governed_change_file_mode_unsupported"

/-- The index of the first hunk of a diff that is about exactly this change. -/
def assertDiffBindsPath (diff path : Str) (kind : GovernedFileChangeKind) (oldPath : Option Str) :
    Result ℕ := do
  let old := oldPath.getD path
  let expectedDiff := js "diff --git a/" ++ old ++ js " b/" ++ path
  let expectedOld := if kind = .create then js "--- /dev/null" else js "--- a/" ++ old
  let expectedNew := if kind = .delete then js "+++ /dev/null" else js "+++ b/" ++ path
  let lines := split (cu '\n') diff
  let firstHunkIndex := lines.findIdx? fun line => startsWith line "@@ "
  let headerLines := lines.take (firstHunkIndex.getD 0)
  match firstHunkIndex, linesStarting "diff --git " lines, linesStarting "--- " headerLines,
      linesStarting "+++ " headerLines with
  | some firstHunk, [diffHeader], [oldHeader], [newHeader] =>
    if diffHeader ≥ oldHeader ∨ newHeader ≠ oldHeader + 1 ∨ lines[diffHeader]? ≠ some expectedDiff
        ∨ headerLines[oldHeader]? ≠ some expectedOld
        ∨ headerLines[newHeader]? ≠ some expectedNew then
      fail "governed_change_diff_path_mismatch"
    else
      assertSupportedFileModeHeaders headerLines kind
      return firstHunk
  | _, _, _, _ => fail "governed_change_diff_path_mismatch"

/-- The added and the deleted lines after the first hunk header. -/
def countDiffLines (diff : Str) (firstHunkIndex : ℕ) : ℕ × ℕ :=
  let lines := (split (cu '\n') diff).drop (firstHunkIndex + 1)
  (lines.countP (startsWith · "+"), lines.countP (startsWith · "-"))

/-! ## Paths -/

section
variable [Runtime]

def normalizeAndAssertGovernedPath (input : Str) : Result Str :=
  if Runtime.nfc input ≠ input then fail "governed_path_unicode_not_nfc"
  else if hasUnpairedUtf16Surrogate input then fail "governed_path_unicode_not_well_formed"
  else
    let slashPath := toSlashes input
    let normalized := normalize slashPath
    let parts := split slash normalized
    if input = []
        || normalized = dot
        || normalized = dotDot
        || startsWith normalized (dotDot ++ [slash])
        || isAbsolute normalized
        || isAbsolute input
        || hasDrivePrefix input
        || startsWith slashPath [slash, slash]
        || normalized ≠ slashPath
        || cu '\x00' ∈ input
        || cu '\n' ∈ input
        || cu '\r' ∈ input
        || parts.any (fun part => part = [] || part = dot || part = dotDot)
        || parts.any (fun part => Runtime.toLowerCase part = js ".git")
        || parts.any (fun part => part.any isUnsafeCharacter)
        || parts.any (fun part => endsWith part "." || endsWith part " ")
        || parts.any isWindowsReserved then
      fail "governed_path_unsafe"
    else return normalized

def isCanonicalGovernedPath (input : Str) : Bool :=
  match normalizeAndAssertGovernedPath input with
  | .ok normalized => normalized = input
  | .error _ => false

def isGitAttributesControlPath (input : Str) : Bool :=
  let basename := (split slash (toSlashes input)).getLastD []
  Runtime.toLowerCase (Runtime.nfc basename) = js ".gitattributes"

/-- The paths a change set touches. -/
def touchedPaths (changes : List GovernedFileChange) : List Str :=
  changes.flatMap fun change => change.path :: change.oldPath.toList

def pathAlias (path : Str) : Str := Runtime.toLowerCase (Runtime.nfc path)

def assertNoPathAliases (changes : List GovernedFileChange) : Result Unit :=
  if ((touchedPaths changes).map pathAlias).Nodup then return ()
  else fail "governed_path_alias_collision"

/-! ## Canonical form -/

def canonicalizeChange (change : GovernedFileChangeDraft) : Result GovernedFileChange := do
  let path ← normalizeAndAssertGovernedPath change.path
  let oldPath ← change.oldPath.mapM normalizeAndAssertGovernedPath
  let unifiedDiff := normalizeUnifiedDiff change.unifiedDiff
  let firstHunkIndex ← assertDiffBindsPath unifiedDiff path change.kind oldPath
  let counts := countDiffLines unifiedDiff firstHunkIndex
  return {
    path
    kind := change.kind
    oldPath
    unifiedDiff
    beforeHash := change.beforeHash
    afterHash := change.afterHash
    addedLines := counts.1
    deletedLines := counts.2 }

omit [Runtime] in
/-- `changes.sort(compareCanonicalChanges)`. -/
def sortChanges (changes : List GovernedFileChange) : List GovernedFileChange :=
  changes.insertionSort fun left right =>
    fileChangeKey left.toCapabilityFactFileChange ≤ fileChangeKey right.toCapabilityFactFileChange

def canonicalizeGovernedFileChangeSet (draft : GovernedFileChangeSetDraft) :
    Result GovernedFileChangeSet :=
  if draft.changes = [] then fail "governed_change_set_empty"
  else do
    let changes := sortChanges (← draft.changes.mapM canonicalizeChange)
    assertNoPathAliases changes
    parse GovernedFileChangeSet.issues {
      changeSetId := draft.changeSetId
      threadId := draft.threadId
      turnId := draft.turnId
      itemId := draft.itemId
      baseHead := draft.baseHead
      changes
      canonicalHash := hashGovernedFileChangeSetContent draft.baseHead changes
      proposedAt := draft.proposedAt
      sourceSchemaProfile := draft.sourceSchemaProfile }

omit [Runtime] in
/-- The draft a change set is canonicalized from again. -/
def redraft (changeSet : GovernedFileChangeSet) : GovernedFileChangeSetDraft where
  changeSetId := changeSet.changeSetId
  threadId := changeSet.threadId
  turnId := changeSet.turnId
  itemId := changeSet.itemId
  baseHead := changeSet.baseHead
  changes := changeSet.changes.map fun change =>
    { path := change.path
      kind := change.kind
      oldPath := change.oldPath
      unifiedDiff := change.unifiedDiff
      beforeHash := change.beforeHash
      afterHash := change.afterHash }
  proposedAt := changeSet.proposedAt
  sourceSchemaProfile := changeSet.sourceSchemaProfile

def isCanonicalGovernedChangeSet (changeSet : GovernedFileChangeSet) : Bool :=
  match canonicalizeGovernedFileChangeSet (redraft changeSet) with
  | .ok canonical => canonical.canonicalHash = changeSet.canonicalHash
  | .error _ => false

omit [Runtime] in
lemma touchedPaths_sublist (changes : List GovernedFileChange) :
    (changes.map (·.path)).Sublist (touchedPaths changes) := by
  induction changes with
  | nil => exact .slnil
  | cons change changes ih =>
    show (change.path :: changes.map (·.path)).Sublist
      ((change.path :: change.oldPath.toList) ++ touchedPaths changes)
    apply List.Sublist.cons_cons
    exact ih.trans (List.sublist_append_right _ _)

/-! ## Canonical paths -/

/-- The path guard of this package accepts what the authorization guard accepts. -/
theorem normalizeAndAssert_eq_ok {input path : Str} :
    normalizeAndAssertGovernedPath input = .ok path ↔
      isSafeGovernedPath input = true ∧ path = toSlashes input := by
  have key : ∀ bad : Bool, (bad = false → normalize (toSlashes input) = toSlashes input) →
      ((if bad then fail "governed_path_unsafe" else return normalize (toSlashes input) :
        Result Str) = .ok path ↔ (!bad) = true ∧ path = toSlashes input) := by
    rintro (_ | _) hbad
    · rw [hbad rfl]
      simp [pure_eq_ok, eq_comm (a := path)]
    · simp
  rw [isSafeGovernedPath]
  by_cases hn : Runtime.nfc input = input
  · by_cases hu : hasUnpairedUtf16Surrogate input = true
    · rw [if_pos (by simp [hu]), normalizeAndAssertGovernedPath, if_neg (by simp [hn]), if_pos hu]
      simp
    · rw [if_neg (by simp [hn, hu]), normalizeAndAssertGovernedPath, if_neg (by simp [hn]),
        if_neg hu]
      refine key _ fun hgood => ?_
      simp only [Bool.or_eq_false_iff, decide_eq_false_iff_not, not_not, and_assoc] at hgood
      exact hgood.2.2.2.2.2.2.2.2.1
  · rw [if_pos (by simp [hn]), normalizeAndAssertGovernedPath, if_pos hn]
    simp

lemma isCanonicalGovernedPath_iff {path : Str} :
    isCanonicalGovernedPath path = true ↔
      isSafeGovernedPath path = true ∧ toSlashes path = path := by
  unfold isCanonicalGovernedPath
  cases h : normalizeAndAssertGovernedPath path with
  | ok normalized =>
    obtain ⟨hsafe, rfl⟩ := normalizeAndAssert_eq_ok.mp h
    simp [hsafe]
  | error e =>
    have hsafe : isSafeGovernedPath path ≠ true := by
      intro hs
      simp [normalizeAndAssert_eq_ok.mpr ⟨hs, rfl⟩] at h
    simp [hsafe]

end

end CodexRouter.Preview
