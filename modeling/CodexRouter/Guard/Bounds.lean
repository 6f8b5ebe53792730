import CodexRouter.Guard.Paths
import CodexRouter.Js.Ascii
import CodexRouter.Provider.Formed
import Mathlib.Algebra.Order.BigOperators.Group.List

/-!
# What the guard bounds

The guard bounds the edit itself exactly when the diff is read back as it was made: each target by
its own path and every line of the contents as a line of the diff.
-/

open Js CodexRouter.Kernel CodexRouter.Provider

namespace CodexRouter.Guard

/-! ## Lines with signs -/

lemma readAs_isCounted {line read : Str} (h : ReadAs line read) :
    isCounted read = isCounted line := by
  unfold isCounted isAdded isRemoved
  rw [h.startsWith (by decide), h.startsWith (by decide), h.startsWith (by decide),
    h.startsWith (by decide)]

lemma diffPath_eq_none {line : Str} (hgit : startsWith line "diff --git a/" = false)
    (hheader : startsWith line "+++ " = false) : diffPath line = none := by
  unfold diffPath readDiffGitPath readDiffHeaderPath
  simp only [hgit, hheader, Bool.false_eq_true, if_false, Option.or_none]

lemma startsWith_head {line p : Str} {c : CodeUnit} (h : startsWith line (c :: p) = true) :
    line.head? = some c := by
  obtain ⟨s, rfl⟩ := startsWith_iff.mp h
  rfl

lemma startsWith_of_head {line p : Str} {c d : CodeUnit} (h : line.head? = some d) (hne : c ≠ d) :
    startsWith line (c :: p) = false := by
  rw [Bool.eq_false_iff]
  intro hstart
  rw [startsWith_head hstart] at h
  exact hne (Option.some.inj h)

/-- A counted line is not taken for a path. -/
lemma diffPath_of_counted {line : Str} (h : isCounted line = true) : diffPath line = none := by
  unfold isCounted isAdded isRemoved at h
  rw [Bool.or_eq_true, Bool.and_eq_true, Bool.and_eq_true, Bool.not_eq_true', Bool.not_eq_true']
    at h
  rcases h with ⟨hsign, hheader⟩ | ⟨hsign, -⟩
  · have hhead : line.head? = some (cu '+') := startsWith_head hsign
    apply diffPath_eq_none (startsWith_of_head hhead (by decide))
    rw [startsWith_eq_false] at hheader ⊢
    intro hleading
    exact hheader (List.IsPrefix.trans (by decide) hleading)
  · have hhead : line.head? = some (cu '-') := startsWith_head hsign
    exact diffPath_eq_none (startsWith_of_head hhead (by decide))
      (startsWith_of_head hhead (by decide))

/-- A line of the content that begins like a header is not counted. -/
lemma isCounted_removedLine (line : Str) :
    isCounted (removedLine line) = !startsWith line "--" := by
  unfold isCounted isAdded isRemoved removedLine startsWith
  simp [js, cu, List.isPrefixOf]

lemma isCounted_addedLine (line : Str) : isCounted (addedLine line) = !startsWith line "++" := by
  unfold isCounted isAdded isRemoved addedLine startsWith
  simp [js, cu, List.isPrefixOf]

/-! ## The lines of one target -/

lemma head_gitLine (path : Str) : (gitLine path).head? = some (cu 'd') := rfl

lemma head_afterLine (path : Str) : (afterLine path).head? = some (cu '+') := rfl

lemma diffPath_gitLine (path : Str) : diffPath (gitLine path) = readDiffGitPath (gitLine path) := by
  have hheader : startsWith (gitLine path) "+++ " = false :=
    startsWith_of_head (head_gitLine path) (by decide)
  unfold diffPath readDiffHeaderPath
  simp only [hheader, Bool.false_eq_true, if_false, Option.or_none]

lemma diffPath_afterLine (path : Str) :
    diffPath (afterLine path) = readDiffHeaderPath (afterLine path) := by
  have hgit : startsWith (afterLine path) "diff --git a/" = false :=
    startsWith_of_head (head_afterLine path) (by decide)
  unfold diffPath readDiffGitPath
  simp only [hgit, Bool.false_eq_true, if_false, Option.none_or]

lemma diffPath_beforeLine (path : Str) : diffPath (js "--- a/" ++ path) = none :=
  diffPath_eq_none (startsWith_of_head (d := cu '-') rfl (by decide))
    (startsWith_of_head (d := cu '-') rfl (by decide))

lemma lastPath_fileHeader (current : Option Str) (path : Str) (before after : Option Str) :
    lastPath current (fileHeader path before after) = (readPath path after).or current := by
  have hfixed : diffPath "new file mode 100644" = none ∧ diffPath "--- /dev/null" = none
      ∧ diffPath "deleted file mode 100644" = none ∧ diffPath "+++ /dev/null" = none
      ∧ diffPath "@@" = none := by decide +kernel
  obtain ⟨hnew, hnull, hdeleted, hgone, hhunk⟩ := hfixed
  unfold fileHeader readPath
  cases before <;> cases after <;>
    simp only [List.cons_append, List.nil_append, lastPath, diffPath_gitLine, diffPath_beforeLine,
      diffPath_afterLine, hnew, hnull, hdeleted, hgone, hhunk, Option.none_or, Option.or_assoc]

lemma fileHeader_not_counted (path : Str) (before after : Option Str) :
    ∀ line ∈ fileHeader path before after, isCounted line = false := by
  have hfixed : isCounted "new file mode 100644" = false ∧ isCounted "--- /dev/null" = false
      ∧ isCounted "deleted file mode 100644" = false ∧ isCounted "+++ /dev/null" = false
      ∧ isCounted "@@" = false := by decide +kernel
  obtain ⟨hnew, hnull, hdeleted, hgone, hhunk⟩ := hfixed
  have hgit : isCounted (gitLine path) = false := by
    have hplus : startsWith (gitLine path) "+" = false :=
      startsWith_of_head (head_gitLine path) (by decide)
    have hminus : startsWith (gitLine path) "-" = false :=
      startsWith_of_head (head_gitLine path) (by decide)
    unfold isCounted isAdded isRemoved
    rw [hplus, hminus]
    rfl
  have hbefore : isCounted (js "--- a/" ++ path) = false := by
    show isCounted (removedLine (js "--" ++ (js " a/" ++ path))) = false
    rw [isCounted_removedLine, startsWith_append_self]
    rfl
  have hafter : isCounted (afterLine path) = false := by
    show isCounted (addedLine (js "++" ++ (js " b/" ++ path))) = false
    rw [isCounted_addedLine, startsWith_append_self]
    rfl
  unfold fileHeader
  cases before <;> cases after <;>
    simp [hgit, hbefore, hafter, hnew, hnull, hdeleted, hgone, hhunk]

/-- A unit of a header that is no unit of the path. -/
lemma fileHeader_units {c : CodeUnit} {path : Str} (hc : c ∉ path)
    (hfixed : c = newLine ∨ c = carriageReturn) (before after : Option Str) :
    ∀ line ∈ fileHeader path before after, c ∉ line := by
  have hnone : ∀ text ∈ [js "diff --git a/", js " b/", js "new file mode 100644",
      js "--- /dev/null", js "--- a/", js "deleted file mode 100644", js "+++ /dev/null",
      js "+++ b/", js "@@"], c ∉ text := by
    rcases hfixed with rfl | rfl
    all_goals decide +kernel
  simp only [List.forall_mem_cons] at hnone
  obtain ⟨hgit, hname, hnew, hnull, hbefore, hdeleted, hgone, hafter, hhunk, -⟩ := hnone
  unfold fileHeader gitLine afterLine
  cases before <;> cases after <;>
    simp [hc, hgit, hname, hnew, hnull, hbefore, hdeleted, hgone, hafter, hhunk]

/-! ## Reading a whole diff -/

/-- Nothing is counted in lines that are not counted. -/
lemma countedPaths_of_not_counted {lines : List Str} (h : ∀ line ∈ lines, isCounted line = false)
    (current : Option Str) : countedPaths current lines = [] := by
  induction lines generalizing current with
  | nil => rfl
  | cons line lines ih =>
    rw [List.forall_mem_cons] at h
    rw [countedPaths, h.1]
    cases diffPath line with
    | some path => exact ih h.2 _
    | none => exact ih h.2 _

/-- Each counted line counts for the current path. -/
lemma countedPaths_of_counted {lines : List Str} (h : ∀ line ∈ lines, isCounted line = true)
    (current : Option Str) : countedPaths current lines = lines.flatMap (fun _ => current.toList)
      ∧ lastPath current lines = current := by
  induction lines with
  | nil => exact ⟨rfl, rfl⟩
  | cons line lines ih =>
    rw [List.forall_mem_cons] at h
    have hpath := diffPath_of_counted h.1
    rw [countedPaths, lastPath, hpath, h.1, List.flatMap_cons]
    dsimp only [Option.none_or]
    rw [if_pos rfl, (ih h.2).1]
    exact ⟨rfl, (ih h.2).2⟩

lemma length_countedPaths_le (current : Option Str) (lines : List Str) :
    (countedPaths current lines).length ≤ lines.countP isCounted := by
  induction lines generalizing current with
  | nil => exact Nat.le_refl 0
  | cons line lines ih =>
    rw [countedPaths, List.countP_cons]
    cases diffPath line with
    | some path => exact (ih (some path)).trans (Nat.le_add_right _ _)
    | none =>
      have hrest := ih current
      dsimp only
      rw [List.length_append]
      cases current <;> split_ifs <;> simp at hrest ⊢ <;> omega

lemma countP_readAs {lines reads : List Str} (h : List.Forall₂ ReadAs lines reads) :
    reads.countP isCounted = lines.countP isCounted := by
  induction h with
  | nil => rfl
  | cons hline _ ih => rw [List.countP_cons, List.countP_cons, readAs_isCounted hline, ih]

lemma counted_readAs {lines reads : List Str} (h : List.Forall₂ ReadAs lines reads)
    (hcounted : ∀ line ∈ lines, isCounted line = true) :
    ∀ read ∈ reads, isCounted read = true := by
  induction h with
  | nil => exact hcounted
  | cons hline _ ih =>
    rw [List.forall_mem_cons] at hcounted ⊢
    exact ⟨(readAs_isCounted hline).trans hcounted.1, ih hcounted.2⟩

lemma flatMap_readAs {α : Type} {lines reads : List Str} (h : List.Forall₂ ReadAs lines reads)
    (l : List α) : (reads.flatMap fun _ => l) = lines.flatMap fun _ => l := by
  induction h with
  | nil => rfl
  | cons _ _ ih => rw [List.flatMap_cons, List.flatMap_cons, ih]

section

variable (targetFiles : List Str) (beforeContents afterContents : Contents)

/-- The targets whose content differs. -/
def changedTargets : List Str :=
  targetFiles.filter fun path => contentOf beforeContents path ≠ contentOf afterContents path

/-- The lines of the edit, with their signs, of one target and of all that changed. -/
def editOf (path : Str) : List Str :=
  signedLines (contentOf beforeContents path) (contentOf afterContents path)

def editLines : List Str :=
  (changedTargets targetFiles beforeContents afterContents).flatMap
    (editOf beforeContents afterContents)

/-- The chunks of the targets that changed. -/
def chunksOf (paths : List Str) : List Str :=
  paths.flatMap fun path =>
    fileHeader path (contentOf beforeContents path) (contentOf afterContents path)
      ++ editOf beforeContents afterContents path

lemma createUnifiedDiff_eq :
    createUnifiedDiffFromContents targetFiles beforeContents afterContents =
      join newLine (chunksOf beforeContents afterContents
        (changedTargets targetFiles beforeContents afterContents)) := by
  unfold createUnifiedDiffFromContents
  congr 1
  induction targetFiles with
  | nil => rfl
  | cons path targetFiles ih =>
    unfold chunksOf changedTargets fileChunks at *
    rw [List.flatMap_cons, ih]
    by_cases hsame : contentOf beforeContents path = contentOf afterContents path
    · rw [if_pos hsame, List.filter_cons_of_neg (by simpa using hsame)]
      rfl
    · rw [if_neg hsame, List.filter_cons_of_pos (by simpa using hsame), List.flatMap_cons]
      rfl

/-- The path each target is read by; an unread target is taken for the one before it. -/
def readPaths : Option Str → List Str → List (Option Str)
  | _, [] => []
  | current, path :: paths =>
    let read := (readPath path (contentOf afterContents path)).or current
    read :: readPaths read paths

lemma editOf_ne_nil {path : Str}
    (h : contentOf beforeContents path ≠ contentOf afterContents path) :
    editOf beforeContents afterContents path ≠ [] := by
  have hlines : ∀ value, splitPatchLines value ≠ [] := by
    intro value
    unfold splitPatchLines split
    split_ifs
    · exact List.cons_ne_nil _ _
    · exact List.splitOn_ne_nil _ _
    · exact List.splitOn_ne_nil _ _
  unfold editOf signedLines patchLines
  cases hbefore : contentOf beforeContents path with
  | some value => simpa using fun hnil => absurd hnil (hlines value)
  | none =>
    cases hafter : contentOf afterContents path with
    | some value => simpa using hlines value
    | none => exact absurd (hbefore.trans hafter.symm) h

lemma newLine_not_mem_editOf (path : Str) :
    ∀ line ∈ editOf beforeContents afterContents path, newLine ∉ line := by
  have hlines : ∀ content, ∀ line ∈ patchLines content, newLine ∉ line := by
    intro content line hline
    cases content with
    | none => exact absurd hline List.not_mem_nil
    | some value =>
      unfold patchLines splitPatchLines at hline
      simp only [Option.map_some, Option.getD_some] at hline
      split_ifs at hline
      · rw [List.mem_singleton.mp hline]
        exact List.not_mem_nil
      · exact newLine_not_mem_split hline
      · exact newLine_not_mem_split hline
  intro line hline
  unfold editOf signedLines at hline
  rcases List.mem_append.mp hline with hline | hline
  · obtain ⟨content, hcontent, rfl⟩ := List.mem_map.mp hline
    rw [removedLine, List.mem_cons, not_or]
    exact ⟨by decide, hlines _ content hcontent⟩
  · obtain ⟨content, hcontent, rfl⟩ := List.mem_map.mp hline
    rw [addedLine, List.mem_cons, not_or]
    exact ⟨by decide, hlines _ content hcontent⟩

end

/-- Every target is read from its header and its lines are counted. -/
theorem countedPaths_chunks (beforeContents afterContents : Contents) {paths reads : List Str}
    (hunits : ∀ path ∈ paths, carriageReturn ∉ path)
    (hcounted : ∀ path ∈ paths, ∀ line ∈ editOf beforeContents afterContents path,
      isCounted line = true)
    (hreads : List.Forall₂ ReadAs (chunksOf beforeContents afterContents paths) reads)
    (current : Option Str) :
    countedPaths current reads =
      (paths.zip (readPaths afterContents current paths)).flatMap fun (path, read) =>
        (editOf beforeContents afterContents path).flatMap fun _ => read.toList := by
  induction paths generalizing reads current with
  | nil =>
    cases hreads
    rfl
  | cons path paths ih =>
    rw [List.forall_mem_cons] at hunits hcounted
    unfold chunksOf at hreads
    rw [List.flatMap_cons, List.append_assoc] at hreads
    obtain ⟨header, rest, hheader, hrest, rfl⟩ := readAs_append hreads
    obtain ⟨edit, tail, hedit, htail, rfl⟩ := readAs_append hrest
    have hheaderEq := readAs_eq hheader (fileHeader_units hunits.1 (.inr rfl) _ _)
    have heditCounted := counted_readAs hedit hcounted.1
    rw [countedPaths_append, countedPaths_append, hheaderEq, lastPath_fileHeader,
      countedPaths_of_not_counted (fileHeader_not_counted _ _ _), List.nil_append,
      (countedPaths_of_counted heditCounted _).1, (countedPaths_of_counted heditCounted _).2,
      ih hunits.2 hcounted.2 htail, flatMap_readAs hedit, readPaths, List.zip_cons_cons,
      List.flatMap_cons]

/-! ## A permit with given bounds -/

/-- An approved permit that allows this much and nothing more. -/
def approvedPermit (targetFiles : List Str) (maxChangedFiles maxDiffLines : ℕ) :
    WorkspaceWriteProviderExecutionPermit where
  permitId := "permit"
  taskId := "task"
  runId := none
  planId := none
  providerId := "provider"
  providerManifestHash := none
  policyDecisionHash := none
  sandboxProfileId := "workspace-write"
  status := .approved
  approvalStatus := .approved
  operatorAuthorizationId := none
  targetFiles
  maxChangedFiles := .ofNat maxChangedFiles
  maxDiffLines := .ofNat maxDiffLines
  rollbackRequired := true
  protectedBranchForbidden := true
  dirtyWorktreeForbidden := true
  repositoryState := ⟨"main", false, true, none⟩
  reasons := []
  issuedAt := "2026-01-01T00:00:00Z"

lemma approvedPermit_formed {targetFiles : List Str} (htargets : ∀ path ∈ targetFiles, path ≠ [])
    {files lines : ℕ} (hfiles : 0 < files) (hlines : 0 < lines) :
    (approvedPermit targetFiles files lines).Formed := by
  have hstate : permitRepositoryStateSchema.Valid ⟨"main", false, true, none⟩ := by
    unfold permitRepositoryStateSchema
    rw [Schema.valid_object, Fields.valid_via]
    simp only [Equiv.coe_fn_symm_mk, Fields.valid_cons, Slot.valid_required, Slot.valid_optional,
      Fields.valid_nil, Schema.valid_nonEmptyString, Schema.valid_boolean]
    decide
  exact
    { permitId := List.cons_ne_nil _ _
      taskId := List.cons_ne_nil _ _
      runId := fun _ h => absurd h (Option.not_mem_none _)
      planId := fun _ h => absurd h (Option.not_mem_none _)
      providerId := List.cons_ne_nil _ _
      providerManifestHash := fun _ h => absurd h (Option.not_mem_none _)
      policyDecisionHash := fun _ h => absurd h (Option.not_mem_none _)
      sandboxProfileId := List.cons_ne_nil _ _
      approvalStatus := by
        intro h
        cases h
      operatorAuthorizationId := fun _ h => absurd h (Option.not_mem_none _)
      targetFiles := htargets
      maxChangedFiles := positiveInt_valid hfiles
      maxDiffLines := positiveInt_valid hlines
      repositoryState := hstate
      issuedAt := List.cons_ne_nil _ _ }

lemma parse_approvedPermit {targetFiles : List Str} (htargets : ∀ path ∈ targetFiles, path ≠ [])
    {files lines : ℕ} (hfiles : 0 < files) (hlines : 0 < lines) :
    parseGuardPermit (workspaceWriteProviderExecutionPermitSchema.write
      (approvedPermit targetFiles files lines)) =
        .ok (.v1 (approvedPermit targetFiles files lines)) := by
  have hread : workspaceWriteProviderExecutionPermitSchema.read
      (workspaceWriteProviderExecutionPermitSchema.write (approvedPermit targetFiles files lines)) =
        .ok (approvedPermit targetFiles files lines) :=
    workspaceWriteProviderExecutionPermit_valid.mpr (approvedPermit_formed htargets hfiles hlines)
  unfold parseGuardPermit
  rw [hread]

/-! ## The edit -/

section

variable (targetFiles : List Str) (beforeContents afterContents : Contents)

/-- What the guard is there to bound. -/
structure EditBounded (redactText : Str → Str) (permit : GuardPermit) : Prop where
  permitted : ∀ path ∈ changedTargets targetFiles beforeContents afterContents,
    path ∈ permit.bounds.targetFiles
  files : permit.bounds.maxChangedFiles.exceededBy
    (changedTargets targetFiles beforeContents afterContents).length = false
  lines : permit.bounds.maxDiffLines.exceededBy
    (editLines targetFiles beforeContents afterContents).length = false
  clean : ∀ line ∈ editLines targetFiles beforeContents afterContents, redactText line = line

/-- The diff is read back as it was made. -/
structure ReadsBack : Prop where
  paths : ∀ path ∈ changedTargets targetFiles beforeContents afterContents,
    readPath path (contentOf afterContents path) = some path
  removed : ∀ path ∈ changedTargets targetFiles beforeContents afterContents,
    ∀ line ∈ patchLines (contentOf beforeContents path), startsWith line "--" = false
  added : ∀ path ∈ changedTargets targetFiles beforeContents afterContents,
    ∀ line ∈ patchLines (contentOf afterContents path), startsWith line "++" = false
  lines : ∀ line ∈ editLines targetFiles beforeContents afterContents,
    line ∈ unifiedLines
      (createUnifiedDiffFromContents targetFiles beforeContents afterContents)

end

lemma readPath_units {path read : Str} {after : Option Str} (h : readPath path after = some read) :
    ∀ c ∈ read, isPathUnit c := by
  cases after with
  | none => exact readDiffGitPath_units h
  | some content =>
    rcases Option.or_eq_some_iff.mp h with h | ⟨-, h⟩
    · exact readDiffHeaderPath_units h
    · exact readDiffGitPath_units h

lemma not_mem_of_units {path : Str} (h : ∀ c ∈ path, isPathUnit c) {c : CodeUnit}
    (hc : isPathUnit c = false) : c ∉ path := by
  intro hmem
  rw [h c hmem] at hc
  exact absurd hc (by decide)

section

variable {targetFiles : List Str} {beforeContents afterContents : Contents}

/-- All lines of the edit are counted when none of them looks like a header. -/
lemma editOf_counted_iff (path : Str) :
    (∀ line ∈ editOf beforeContents afterContents path, isCounted line = true) ↔
      (∀ line ∈ patchLines (contentOf beforeContents path), startsWith line "--" = false)
      ∧ ∀ line ∈ patchLines (contentOf afterContents path), startsWith line "++" = false := by
  unfold editOf signedLines
  rw [List.forall_mem_append, List.forall_mem_map, List.forall_mem_map]
  simp only [isCounted_removedLine, isCounted_addedLine, Bool.not_eq_true']

lemma newLine_not_mem_chunksOf {paths : List Str} (h : ∀ path ∈ paths, newLine ∉ path) :
    ∀ line ∈ chunksOf beforeContents afterContents paths, newLine ∉ line := by
  unfold chunksOf
  intro line hline
  obtain ⟨path, hpath, hline⟩ := List.mem_flatMap.mp hline
  rcases List.mem_append.mp hline with hline | hline
  · exact fileHeader_units (h path hpath) (.inl rfl) _ _ line hline
  · exact newLine_not_mem_editOf _ _ path line hline

/-- The lines of the diff of targets that changed. -/
lemma unifiedLines_diff
    (hne : changedTargets targetFiles beforeContents afterContents ≠ [])
    (h : ∀ path ∈ changedTargets targetFiles beforeContents afterContents, newLine ∉ path) :
    unifiedLines (createUnifiedDiffFromContents targetFiles beforeContents afterContents) =
      chompInit (chunksOf beforeContents afterContents
        (changedTargets targetFiles beforeContents afterContents)) := by
  rw [createUnifiedDiff_eq]
  apply unifiedLines_join (newLine_not_mem_chunksOf h)
  obtain ⟨path, paths, hpaths⟩ := List.exists_cons_of_ne_nil hne
  rw [hpaths]
  exact List.cons_ne_nil _ _

lemma readPaths_of_read {paths : List Str}
    (h : ∀ path ∈ paths, readPath path (contentOf afterContents path) = some path)
    (current : Option Str) : readPaths afterContents current paths = paths.map some := by
  induction paths generalizing current with
  | nil => rfl
  | cons path paths ih =>
    rw [List.forall_mem_cons] at h
    rw [readPaths, h.1, List.map_cons]
    dsimp only [Option.some_or]
    rw [ih h.2]

/-- A diff that is read back counts each line of the edit for its own target. -/
theorem counted_of_readsBack (h : ReadsBack targetFiles beforeContents afterContents)
    (hne : changedTargets targetFiles beforeContents afterContents ≠ []) :
    counted (createUnifiedDiffFromContents targetFiles beforeContents afterContents) =
      (changedTargets targetFiles beforeContents afterContents).flatMap fun path =>
        (editOf beforeContents afterContents path).map fun _ => path := by
  have hunits : ∀ path ∈ changedTargets targetFiles beforeContents afterContents,
      ∀ c ∈ path, isPathUnit c := fun path hpath => readPath_units (h.paths path hpath)
  unfold counted
  rw [unifiedLines_diff hne fun path hpath => not_mem_of_units (hunits path hpath) (by decide),
    countedPaths_chunks beforeContents afterContents
      (fun path hpath => not_mem_of_units (hunits path hpath) (by decide))
      (fun path hpath => (editOf_counted_iff path).mpr ⟨h.removed path hpath, h.added path hpath⟩)
      (chompInit_readAs _), readPaths_of_read h.paths]
  generalize changedTargets targetFiles beforeContents afterContents = paths
  induction paths with
  | nil => rfl
  | cons path paths ih =>
    rw [List.map_cons, List.zip_cons_cons, List.flatMap_cons, List.flatMap_cons, ih,
      List.map_eq_flatMap]
    rfl

lemma changedTargets_differ {path : Str}
    (h : path ∈ changedTargets targetFiles beforeContents afterContents) :
    contentOf beforeContents path ≠ contentOf afterContents path := by
  simpa using (List.mem_filter.mp h).2

/-- A diff that is read back bounds the edit when it passes. -/
theorem editBounded_of_readsBack (hnodup : targetFiles.Nodup)
    (h : ReadsBack targetFiles beforeContents afterContents) {redactText : Str → Str}
    {permit : GuardPermit} (hadmits : Admits redactText permit
      (createUnifiedDiffFromContents targetFiles beforeContents afterContents)) :
    EditBounded targetFiles beforeContents afterContents redactText permit := by
  by_cases hne : changedTargets targetFiles beforeContents afterContents = []
  · have hlines : editLines targetFiles beforeContents afterContents = [] := by
      unfold editLines
      rw [hne]
      rfl
    exact
      { permitted := by simp [hne]
        files := by
          rw [hne]
          exact Js.Num.exceededBy_mono hadmits.files (Nat.zero_le _)
        lines := by
          rw [hlines]
          exact Js.Num.exceededBy_mono hadmits.lines (Nat.zero_le _)
        clean := by simp [hlines] }
  · have hcounted := counted_of_readsBack h hne
    have hmem : ∀ path ∈ changedTargets targetFiles beforeContents afterContents,
        path ∈ counted (createUnifiedDiffFromContents targetFiles beforeContents afterContents) := by
      intro path hpath
      obtain ⟨line, hline⟩ := List.exists_mem_of_ne_nil _
        (editOf_ne_nil beforeContents afterContents (changedTargets_differ hpath))
      rw [hcounted, List.mem_flatMap]
      exact ⟨path, hpath, List.mem_map.mpr ⟨line, hline, rfl⟩⟩
    refine ⟨fun path hpath => hadmits.permitted path (hmem path hpath), ?_, ?_, ?_⟩
    · have hchanged : (changedTargets targetFiles beforeContents afterContents).Nodup :=
        hnodup.filter _
      apply Js.Num.exceededBy_mono hadmits.files
      rw [← List.toFinset_card_of_nodup hchanged]
      apply Finset.card_le_card
      intro path hpath
      exact List.mem_toFinset.mpr (hmem path (List.mem_toFinset.mp hpath))
    · apply Js.Num.exceededBy_mono hadmits.lines
      rw [hcounted]
      unfold editLines
      rw [List.length_flatMap, List.length_flatMap]
      simp
    · intro line hline
      apply hadmits.clean
      unfold searched plainLines
      rw [List.mem_filter]
      refine ⟨h.lines line hline, ?_⟩
      obtain ⟨path, hpath, hedit⟩ := List.mem_flatMap.mp hline
      have hlineCounted := (editOf_counted_iff path).mpr ⟨h.removed path hpath, h.added path hpath⟩
      rw [diffPath_of_counted (hlineCounted line hedit)]
      rfl

/-! ### A diff that is not read back -/

lemma eq_of_sum_le {paths : List Str} {f g : Str → ℕ} (hle : ∀ path ∈ paths, f path ≤ g path)
    (hsum : (paths.map g).sum ≤ (paths.map f).sum) : ∀ path ∈ paths, f path = g path := by
  induction paths with
  | nil => simp
  | cons path paths ih =>
    rw [List.forall_mem_cons] at hle ⊢
    rw [List.map_cons, List.map_cons, List.sum_cons, List.sum_cons] at hsum
    have hrest : (paths.map f).sum ≤ (paths.map g).sum := List.sum_le_sum hle.2
    exact ⟨by omega, ih hle.2 (by omega)⟩

lemma length_readPaths (current : Option Str) (paths : List Str) :
    (readPaths afterContents current paths).length = paths.length := by
  induction paths generalizing current with
  | nil => rfl
  | cons path paths ih => rw [readPaths, List.length_cons, List.length_cons, ih]

/-- Where no path is read twice each target is read by its own header. -/
lemma readPaths_of_nodup {current : Option Str} {paths : List Str}
    (hnodup : (readPaths afterContents current paths).Nodup)
    (hcurrent : current ∉ readPaths afterContents current paths) :
    readPaths afterContents current paths =
      paths.map fun path => readPath path (contentOf afterContents path) := by
  induction paths generalizing current with
  | nil => rfl
  | cons path paths ih =>
    rw [readPaths] at hnodup hcurrent ⊢
    rw [List.nodup_cons] at hnodup
    rw [List.mem_cons, not_or] at hcurrent
    cases hread : readPath path (contentOf afterContents path) with
    | none =>
      rw [hread] at hcurrent
      exact absurd rfl hcurrent.1
    | some read =>
      rw [hread] at hnodup
      rw [List.map_cons, hread]
      exact congrArg _ (ih hnodup.2 hnodup.1)

/-- Targets that are all read, in any order, are read each as itself. -/
theorem readPath_of_all_read {paths : List Str} (hnodup : paths.Nodup)
    (hread : ∀ path ∈ paths, some path ∈ readPaths afterContents none paths) :
    ∀ path ∈ paths, readPath path (contentOf afterContents path) = some path := by
  have hsubset : paths.map some ⊆ readPaths afterContents none paths := by
    intro read hmem
    obtain ⟨path, hpath, rfl⟩ := List.mem_map.mp hmem
    exact hread path hpath
  have hnodupSome : (paths.map some).Nodup := hnodup.map (Option.some_injective Str)
  have hperm : (paths.map some).Perm (readPaths afterContents none paths) := by
    apply (List.subperm_of_subset hnodupSome hsubset).perm_of_length_le
    rw [length_readPaths, List.length_map]
  have hown : readPaths afterContents none paths =
      paths.map fun path => readPath path (contentOf afterContents path) := by
    apply readPaths_of_nodup (hperm.nodup_iff.mp hnodupSome)
    intro hnone
    obtain ⟨path, -, hpath⟩ := List.mem_map.mp (hperm.mem_iff.mpr hnone)
    exact nomatch hpath
  rw [hown] at hperm
  -- Every target is read as some path, which is no longer than it.
  have hsome : ∀ path ∈ paths, ∃ read, readPath path (contentOf afterContents path) = some read
      ∧ read ∈ paths := by
    intro path hpath
    have hmem := hperm.mem_iff.mpr (List.mem_map_of_mem (f := fun path =>
      readPath path (contentOf afterContents path)) hpath)
    obtain ⟨read, hreadMem, hreadEq⟩ := List.mem_map.mp hmem
    exact ⟨read, hreadEq.symm, hreadMem⟩
  have hlength : ∀ path ∈ paths,
      ((readPath path (contentOf afterContents path)).map List.length).getD 0 = path.length := by
    apply eq_of_sum_le
    · intro path hpath
      obtain ⟨read, hreadEq, -⟩ := hsome path hpath
      rw [hreadEq]
      exact (readPath_length hreadEq).1
    · apply le_of_eq
      have hsum := (hperm.map fun read => (read.map List.length).getD 0).sum_eq
      rw [List.map_map, List.map_map] at hsum
      exact hsum
  intro path hpath
  obtain ⟨read, hreadEq, -⟩ := hsome path hpath
  have hlen := hlength path hpath
  rw [hreadEq] at hlen
  -- The target itself was read somewhere, so it has no backslash.
  obtain ⟨other, -, hother⟩ := List.mem_map.mp (hperm.mem_iff.mp (List.mem_map_of_mem hpath))
  have hunits := readPath_units hother
  have hslashes : toSlashes path = path := by
    apply (List.map_congr_left _).trans (List.map_id _)
    intro c hc
    have hunit := hunits c hc
    unfold isPathUnit at hunit
    rw [if_neg (by simpa using (Bool.and_eq_true_iff.mp hunit).2)]
    rfl
  rw [hreadEq, (readPath_length hreadEq).2 hlen, hslashes]

end

section

variable {targetFiles : List Str} {beforeContents afterContents : Contents}

/-- Headers are not counted. -/
lemma countP_chunksOf (paths : List Str) :
    (chunksOf beforeContents afterContents paths).countP isCounted =
      (paths.flatMap (editOf beforeContents afterContents)).countP isCounted := by
  unfold chunksOf
  induction paths with
  | nil => rfl
  | cons path paths ih =>
    have hheader : (fileHeader path (contentOf beforeContents path)
        (contentOf afterContents path)).countP isCounted = 0 := by
      rw [List.countP_eq_zero]
      intro line hline
      simpa using fileHeader_not_counted path _ _ line hline
    rw [List.flatMap_cons, List.flatMap_cons, List.countP_append, List.countP_append,
      List.countP_append, ih, hheader, Nat.zero_add]

/-- No line is counted, or one is for a path that is not safe. -/
def Unreadable (unifiedDiff : Str) : Prop :=
  counted unifiedDiff = [] ∨
    ∃ path ∈ counted unifiedDiff, isSafeWorkspaceRelativeFilePath path = false

variable [Runtime] [Collation]

/-- A diff that can be inspected and whose paths are safe passes under some permit. -/
lemma passes_approvedPermit (hsha : ∀ s, isDigest (Runtime.sha256 s)) {unifiedDiff : Str}
    (hreadable : ¬Unreadable unifiedDiff) {redactText : Str → Str}
    (hclean : ∀ line ∈ searched unifiedDiff, redactText line = line) :
    ∃ permitInput, Passes redactText permitInput unifiedDiff ∧
      parseGuardPermit permitInput = .ok (.v1 (approvedPermit (counted unifiedDiff)
        (counted unifiedDiff).toFinset.card (counted unifiedDiff).length)) := by
  unfold Unreadable at hreadable
  push Not at hreadable
  obtain ⟨hchanged, hsafe⟩ := hreadable
  have hsafe' : ∀ path ∈ counted unifiedDiff, isSafeWorkspaceRelativeFilePath path = true :=
    fun path hpath => by simpa using hsafe path hpath
  have hnonempty : ∀ path ∈ counted unifiedDiff, path ≠ [] := by
    intro path hpath hnil
    have hpathSafe := hsafe' path hpath
    rw [hnil] at hpathSafe
    exact absurd hpathSafe (by decide)
  have hpermit := parse_approvedPermit hnonempty
    (Finset.card_pos.mpr (List.toFinset_nonempty_iff _ |>.mpr hchanged))
    (List.length_pos_iff.mpr hchanged)
  refine ⟨_, (passes_iff redactText).mpr ⟨?_, _, hpermit, ?_⟩, hpermit⟩
  · exact inspect_total redactText hsha hnonempty
  · exact
      { approved := rfl
        changed := hchanged
        files := Js.Num.exceededBy_ofNat.mpr le_rfl
        lines := Js.Num.exceededBy_ofNat.mpr le_rfl
        safe := hsafe'
        permitted := fun path hpath => hpath
        clean := hclean }

/-- A diff that passes only for bounded edits is read back. -/
theorem readsBack_of_bounded (hsha : ∀ s, isDigest (Runtime.sha256 s)) (hnodup : targetFiles.Nodup)
    (hreadable : ¬Unreadable
      (createUnifiedDiffFromContents targetFiles beforeContents afterContents))
    (hall : ∀ redactText permitInput permit, parseGuardPermit permitInput = .ok permit →
      Passes redactText permitInput
        (createUnifiedDiffFromContents targetFiles beforeContents afterContents) →
      EditBounded targetFiles beforeContents afterContents redactText permit) :
    ReadsBack targetFiles beforeContents afterContents := by
  -- The tightest permit under which the diff passes, with no secret at all.
  have hnothing : ∀ line ∈ searched
      (createUnifiedDiffFromContents targetFiles beforeContents afterContents), id line = line :=
    fun _ _ => rfl
  obtain ⟨permitInput, hpasses, hpermit⟩ := passes_approvedPermit hsha hreadable hnothing
  have hbounded := hall id permitInput _ hpermit hpasses
  have hlength : (editLines targetFiles beforeContents afterContents).length ≤
      (counted (createUnifiedDiffFromContents targetFiles beforeContents afterContents)).length :=
    Js.Num.exceededBy_ofNat.mp hbounded.lines
  have hmem : ∀ path ∈ changedTargets targetFiles beforeContents afterContents,
      path ∈ counted (createUnifiedDiffFromContents targetFiles beforeContents afterContents) :=
    hbounded.permitted
  have hne : changedTargets targetFiles beforeContents afterContents ≠ [] := by
    intro hnil
    apply hreadable
    unfold Unreadable
    rw [createUnifiedDiff_eq, hnil]
    exact .inl rfl
  have hunits : ∀ path ∈ changedTargets targetFiles beforeContents afterContents,
      ∀ c ∈ path, isPathUnit c := by
    intro path hpath
    have hnone : ∀ path ∈ (none : Option Str), ∀ c ∈ path, isPathUnit c := by simp
    exact countedPaths_units hnone _ path (hmem path hpath)
  have hcr : ∀ path ∈ changedTargets targetFiles beforeContents afterContents,
      carriageReturn ∉ path := fun path hpath => not_mem_of_units (hunits path hpath) (by decide)
  have hread := unifiedLines_diff hne fun path hpath =>
    not_mem_of_units (hunits path hpath) (c := newLine) (by decide)
  -- No line of the edit is left out of the count.
  have hcountedLines : ∀ line ∈ editLines targetFiles beforeContents afterContents,
      isCounted line = true := by
    rw [← List.countP_eq_length]
    apply Nat.le_antisymm List.countP_le_length
    apply hlength.trans
    unfold counted
    apply (length_countedPaths_le _ _).trans
    rw [hread, countP_readAs (chompInit_readAs _), countP_chunksOf]
    rfl
  have hedit : ∀ path ∈ changedTargets targetFiles beforeContents afterContents,
      ∀ line ∈ editOf beforeContents afterContents path, isCounted line = true :=
    fun path hpath line hline => hcountedLines line (List.mem_flatMap.mpr ⟨path, hpath, hline⟩)
  have hsigns := fun path hpath => (editOf_counted_iff path).mp (hedit path hpath)
  have hpaths : ∀ path ∈ changedTargets targetFiles beforeContents afterContents,
      readPath path (contentOf afterContents path) = some path := by
    apply readPath_of_all_read (hnodup.filter _)
    intro path hpath
    have hpathCounted := hmem path hpath
    unfold counted at hpathCounted
    rw [hread, countedPaths_chunks _ _ hcr hedit (chompInit_readAs _)] at hpathCounted
    obtain ⟨pair, hpair, hpathRead⟩ := List.mem_flatMap.mp hpathCounted
    obtain ⟨line, -, hpathRead⟩ := List.mem_flatMap.mp hpathRead
    rw [Option.mem_toList] at hpathRead
    rw [← hpathRead]
    exact (List.of_mem_zip hpair).2
  refine ⟨hpaths, fun path hpath => (hsigns path hpath).1,
    fun path hpath => (hsigns path hpath).2, ?_⟩
  -- A line that the guard does not see could be the only secret.
  intro line hline
  by_contra hunseen
  have hclean : ∀ seen ∈ searched
      (createUnifiedDiffFromContents targetFiles beforeContents afterContents),
      (if seen = line then cu 'x' :: seen else seen) = seen := by
    intro seen hseen
    apply if_neg
    intro hsame
    apply hunseen
    rw [← hsame]
    exact List.mem_of_mem_filter hseen
  obtain ⟨permitInput', hpasses', hpermit'⟩ := passes_approvedPermit hsha hreadable hclean
  have hsecret := (hall _ permitInput' _ hpermit' hpasses').clean line hline
  rw [if_pos rfl] at hsecret
  exact List.cons_ne_self _ _ hsecret

theorem guard_bounds_iff (hsha : ∀ s, isDigest (Runtime.sha256 s)) (hnodup : targetFiles.Nodup) :
    (∀ redactText permitInput permit, parseGuardPermit permitInput = .ok permit →
      Passes redactText permitInput
        (createUnifiedDiffFromContents targetFiles beforeContents afterContents) →
      EditBounded targetFiles beforeContents afterContents redactText permit) ↔
    ReadsBack targetFiles beforeContents afterContents ∨
      Unreadable (createUnifiedDiffFromContents targetFiles beforeContents afterContents) := by
  constructor
  · intro hall
    by_cases hreadable : Unreadable
        (createUnifiedDiffFromContents targetFiles beforeContents afterContents)
    · exact .inr hreadable
    · exact .inl (readsBack_of_bounded hsha hnodup hreadable hall)
  · intro hcondition redactText permitInput permit hpermit hpasses
    obtain ⟨-, permit', hpermit', hadmits⟩ := (passes_iff redactText).mp hpasses
    rcases hcondition with hreads | hnil | ⟨path, hpath, hrisky⟩
    · rw [hpermit] at hpermit'
      obtain rfl := Except.ok.inj hpermit'
      exact editBounded_of_readsBack hnodup hreads hadmits
    · exact absurd hnil hadmits.changed
    · rw [hadmits.safe path hpath] at hrisky
      exact absurd hrisky (by decide)

end

/-! ## On ASCII text -/

section

attribute [local instance] asciiRuntime codeUnitCollation

/-- One file, written where there was none. -/
def written (path content : Str) : Contents := Map.empty.set path (some content)

def writtenDiff (path content : Str) : Str :=
  createUnifiedDiffFromContents [path] .empty (written path content)

def oneLinePermit : Json :=
  workspaceWriteProviderExecutionPermitSchema.write (approvedPermit ["a.txt"] 1 1)

lemma parse_oneLinePermit :
    parseGuardPermit oneLinePermit = .ok (.v1 (approvedPermit ["a.txt"] 1 1)) :=
  parse_approvedPermit (by decide) Nat.one_pos Nat.one_pos

theorem guard_bounds_one_line :
    EditBounded ["a.txt"] .empty (written "a.txt" "x") id (.v1 (approvedPermit ["a.txt"] 1 1)) := by
  have hreads : ReadsBack [js "a.txt"] .empty (written "a.txt" "x") := by
    refine ⟨?_, ?_, ?_, ?_⟩
    all_goals decide +kernel
  have hpasses : Passes id oneLinePermit (writtenDiff "a.txt" "x") := by
    apply passes_of_evaluate
    decide +kernel
  exact (guard_bounds_iff isDigest_hex (by decide)).mpr (.inl hreads) id oneLinePermit _
    parse_oneLinePermit hpasses

/-- An added line that begins with `++ ` is taken for a header, so two lines are counted as one. -/
theorem guard_exceeded :
    isSafeWorkspaceRelativeFilePath "a.txt" = true ∧
    parseGuardPermit oneLinePermit = .ok (.v1 (approvedPermit ["a.txt"] 1 1)) ∧
    Passes id oneLinePermit (writtenDiff "a.txt" "x\n++ y") ∧
    ¬EditBounded ["a.txt"] .empty (written "a.txt" "x\n++ y") id
      (.v1 (approvedPermit ["a.txt"] 1 1)) := by
  refine ⟨by decide, parse_oneLinePermit, ?_, ?_⟩
  · apply passes_of_evaluate
    decide +kernel
  · intro hbounded
    have hlines := hbounded.lines
    revert hlines
    decide +kernel

end

end CodexRouter.Guard
