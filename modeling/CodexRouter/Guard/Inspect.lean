import CodexRouter.Guard.Diff
import Mathlib.Data.List.Dedup
import Mathlib.Data.List.Count
import Mathlib.Algebra.BigOperators.Group.List.Lemmas

/-!
# What an inspection counts

Each counted line is counted for the path that was read last. An inspection is known from the list
of these paths and from the lines that are no paths.
-/

open Js CodexRouter.Kernel CodexRouter.Provider

namespace CodexRouter.Guard

def isCounted (line : Str) : Bool := isAdded line || isRemoved line

/-- The path of each counted line. -/
def countedPaths : Option Str → List Str → List Str
  | _, [] => []
  | current, line :: lines =>
    match diffPath line with
    | some path => countedPaths (some path) lines
    | none =>
      (if isCounted line then current.toList else []) ++ countedPaths current lines

/-- The path read last. -/
def lastPath : Option Str → List Str → Option Str
  | current, [] => current
  | current, line :: lines => lastPath ((diffPath line).or current) lines

lemma countedPaths_append (current : Option Str) (lines lines' : List Str) :
    countedPaths current (lines ++ lines') =
      countedPaths current lines ++ countedPaths (lastPath current lines) lines' := by
  induction lines generalizing current with
  | nil => rfl
  | cons line lines ih =>
    rw [List.cons_append, countedPaths, countedPaths, lastPath]
    cases diffPath line with
    | some path => exact ih (some path)
    | none =>
      dsimp only [Option.none_or]
      rw [ih current, List.append_assoc]

lemma lastPath_append (current : Option Str) (lines lines' : List Str) :
    lastPath current (lines ++ lines') = lastPath (lastPath current lines) lines' := by
  induction lines generalizing current with
  | nil => rfl
  | cons line lines ih => exact ih _

/-! ## The summaries -/

/-- The summaries after these paths were counted. -/
structure Summarizes (files : Map Str WorkspaceWriteDiffFileSummary) (paths : List Str) : Prop where
  summary : ∀ {path summary}, files.get? path = some summary →
    summary.path = path ∧ summary.changedLines = paths.count path
  listed : ∀ {path}, files.get? path = none → path ∉ paths

lemma get?_ensureDiffFile (files : Map Str WorkspaceWriteDiffFileSummary) (path other : Str) :
    (ensureDiffFile files path).get? other =
      if other = path then some ((files.get? path).getD ⟨path, 0, 0, 0⟩) else files.get? other := by
  unfold ensureDiffFile Map.has
  cases hfile : files.get? path with
  | none =>
    rw [if_neg (by simp), Map.get?_set]
    rfl
  | some summary =>
    show (files.get? other) = _
    split_ifs with h
    · rw [h]
      exact hfile
    · rfl

lemma Summarizes.ensure {files : Map Str WorkspaceWriteDiffFileSummary} {paths : List Str}
    (h : Summarizes files paths) (path : Str) : Summarizes (ensureDiffFile files path) paths where
  summary := by
    intro other summary hget
    rw [get?_ensureDiffFile] at hget
    split_ifs at hget with hother
    · subst hother
      cases hfile : files.get? other with
      | none =>
        rw [hfile] at hget
        obtain rfl := Option.some.inj hget
        exact ⟨rfl, (List.count_eq_zero.mpr (h.listed hfile)).symm⟩
      | some found =>
        rw [hfile] at hget
        obtain rfl := Option.some.inj hget
        exact h.summary hfile
    · exact h.summary hget
  listed := by
    intro other hget
    rw [get?_ensureDiffFile] at hget
    split_ifs at hget
    exact h.listed hget

/-- One more line of a path that has a summary. -/
lemma Summarizes.modify {files : Map Str WorkspaceWriteDiffFileSummary} {paths : List Str}
    (h : Summarizes files paths) {path : Str} (hhas : (files.get? path).isSome)
    {f : WorkspaceWriteDiffFileSummary → WorkspaceWriteDiffFileSummary}
    (hpath : ∀ summary, (f summary).path = summary.path)
    (hchanged : ∀ summary, (f summary).changedLines = summary.changedLines + 1) :
    Summarizes (files.modify path f) (paths ++ [path]) where
  summary := by
    intro other summary hget
    rw [Map.get?_modify] at hget
    split_ifs at hget with hother
    · obtain ⟨found, hfound, rfl⟩ := Option.map_eq_some_iff.mp hget
      obtain ⟨hname, hcount⟩ := h.summary hfound
      rw [hpath, hchanged, hname, hcount, hother, List.count_append, List.count_singleton_self]
      exact ⟨rfl, rfl⟩
    · obtain ⟨hname, hcount⟩ := h.summary hget
      have hnone : [path].count other = 0 := List.count_eq_zero.mpr (by simpa using hother)
      rw [List.count_append, hnone, Nat.add_zero]
      exact ⟨hname, hcount⟩
  listed := by
    intro other hget
    rw [Map.get?_modify] at hget
    split_ifs at hget with hother
    · rw [Option.map_eq_none_iff] at hget
      rw [hget] at hhas
      exact absurd hhas (by decide)
    · rw [List.mem_append, List.mem_singleton, not_or]
      exact ⟨h.listed hget, hother⟩

lemma Summarizes.countLine {files : Map Str WorkspaceWriteDiffFileSummary} {paths : List Str}
    (h : Summarizes files paths) (path line : Str) :
    Summarizes (countLine files path line) (paths ++ if isCounted line then [path] else []) := by
  have hhas : ((ensureDiffFile files path).get? path).isSome := by
    rw [get?_ensureDiffFile, if_pos rfl]
    rfl
  unfold Guard.countLine isCounted
  cases hadded : isAdded line with
  | true =>
    exact (h.ensure path).modify hhas (fun _ => rfl) fun _ => rfl
  | false =>
    cases hremoved : isRemoved line with
    | true => exact (h.ensure path).modify hhas (fun _ => rfl) fun _ => rfl
    | false => simpa using h

/-! ## The loop -/

section

variable (redactText : Str → Str)

/-- The lines that no path is read from. -/
def plainLines (lines : List Str) : List Str := lines.filter fun line => (diffPath line).isNone

/-- The loop over lines, from any state. -/
theorem inspectLine_foldl (lines : List Str) {state : Inspecting} {paths : List Str}
    (h : Summarizes state.files paths) :
    Summarizes (lines.foldl (inspectLine redactText) state).files
        (paths ++ countedPaths state.currentPath lines)
      ∧ (lines.foldl (inspectLine redactText) state).secretMarkerCount =
        state.secretMarkerCount
          + (plainLines lines).countP (lineHasSecretLikeContent redactText) := by
  induction lines generalizing state paths with
  | nil => simpa [countedPaths, plainLines] using h
  | cons line lines ih =>
    rw [List.foldl_cons]
    cases hpath : diffPath line with
    | some path =>
      have hstep : inspectLine redactText state line =
          { state with files := ensureDiffFile state.files path, currentPath := some path } := by
        unfold inspectLine
        rw [hpath]
      have hplain : plainLines (line :: lines) = plainLines lines :=
        List.filter_cons_of_neg (by simp [hpath])
      rw [hstep, hplain, countedPaths, hpath]
      exact ih (h.ensure path)
    | none =>
      have hplain : plainLines (line :: lines) = line :: plainLines lines :=
        List.filter_cons_of_pos (by simp [hpath])
      have hcount : (inspectLine redactText state line).secretMarkerCount
          = state.secretMarkerCount + if lineHasSecretLikeContent redactText line then 1 else 0 := by
        unfold inspectLine
        rw [hpath]
        cases state.currentPath <;> cases lineHasSecretLikeContent redactText line <;> rfl
      have hcurrent : (inspectLine redactText state line).currentPath = state.currentPath := by
        unfold inspectLine
        rw [hpath]
        cases hc : state.currentPath <;> rfl
      have hfiles : Summarizes (inspectLine redactText state line).files
          (paths ++ if isCounted line then state.currentPath.toList else []) := by
        unfold inspectLine
        rw [hpath]
        cases hc : state.currentPath with
        | none => simpa using h
        | some path => exact h.countLine path line
      obtain ⟨hrest, hsecrets⟩ := ih hfiles
      rw [hcurrent, List.append_assoc] at hrest
      rw [countedPaths, hpath, hplain, List.countP_cons]
      refine ⟨hrest, ?_⟩
      rw [hsecrets, hcount]
      omega

end

/-! ## The inspection -/

/-- The paths of the lines that a diff counts. -/
def counted (unifiedDiff : Str) : List Str := countedPaths none (unifiedLines unifiedDiff)

/-- The lines of a diff that are searched for secrets. -/
def searched (unifiedDiff : Str) : List Str := plainLines (unifiedLines unifiedDiff)

/-- The summaries of the counted paths, in any order. -/
structure Inspects (changedFiles : List WorkspaceWriteDiffFileSummary) (paths : List Str) :
    Prop where
  mem : ∀ path, path ∈ changedFiles.map (·.path) ↔ path ∈ paths
  nodup : (changedFiles.map (·.path)).Nodup
  sum : (changedFiles.map (·.changedLines)).sum = paths.length

lemma Inspects.length {changedFiles : List WorkspaceWriteDiffFileSummary} {paths : List Str}
    (h : Inspects changedFiles paths) : changedFiles.length = paths.toFinset.card := by
  rw [← List.length_map (·.path), ← List.toFinset_card_of_nodup h.nodup]
  congr 1
  ext path
  rw [List.mem_toFinset, List.mem_toFinset]
  exact h.mem path

lemma Inspects.perm {changedFiles changedFiles' : List WorkspaceWriteDiffFileSummary}
    {paths : List Str} (h : Inspects changedFiles paths) (hperm : changedFiles'.Perm changedFiles) :
    Inspects changedFiles' paths where
  mem path := by rw [(hperm.map (·.path)).mem_iff]; exact h.mem path
  nodup := (hperm.map (·.path)).nodup_iff.mpr h.nodup
  sum := by rw [(hperm.map (·.changedLines)).sum_eq]; exact h.sum

/-- The files with changed lines are summarized once each. -/
lemma Summarizes.inspects {files : Map Str WorkspaceWriteDiffFileSummary} {paths : List Str}
    (h : Summarizes files paths) :
    Inspects (files.values.filter fun file => file.changedLines > 0) paths := by
  have hentry : ∀ entry ∈ files.entries,
      entry.2.path = entry.1 ∧ entry.2.changedLines = paths.count entry.1 := by
    intro entry hentry
    exact h.summary (Map.get?_eq_some_iff.mpr hentry)
  have hpaths : files.values.map (·.path) = files.entries.map Prod.fst := by
    unfold Map.values
    rw [List.map_map]
    apply List.map_congr_left
    intro entry hmem
    exact (hentry entry hmem).1
  have hnodup : ((files.values.filter fun file => file.changedLines > 0).map (·.path)).Nodup := by
    apply List.Nodup.sublist (List.filter_sublist.map _)
    rw [hpaths]
    exact files.nodup
  have hmem : ∀ path, path ∈ (files.values.filter fun file => file.changedLines > 0).map (·.path)
      ↔ path ∈ paths := by
    intro path
    rw [List.mem_map]
    constructor
    · intro ⟨file, hfile, hpath⟩
      obtain ⟨hvalue, hpositive⟩ := List.mem_filter.mp hfile
      obtain ⟨key, hkey⟩ := Map.mem_values.mp hvalue
      obtain ⟨hname, hcount⟩ := h.summary hkey
      rw [hcount, decide_eq_true_eq, gt_iff_lt, List.count_pos_iff] at hpositive
      rwa [← hpath, hname]
    · intro hpath
      cases hget : files.get? path with
      | none => exact absurd hpath (h.listed hget)
      | some file =>
        obtain ⟨hname, hcount⟩ := h.summary hget
        refine ⟨file, List.mem_filter.mpr ⟨Map.mem_values.mpr ⟨path, hget⟩, ?_⟩, hname⟩
        rw [hcount, decide_eq_true_eq, gt_iff_lt, List.count_pos_iff]
        exact hpath
  refine ⟨hmem, hnodup, ?_⟩
  -- Each summary counts the occurrences of its own path.
  have hcounts : (files.values.filter fun file => file.changedLines > 0).map (·.changedLines) =
      ((files.values.filter fun file => file.changedLines > 0).map (·.path)).map
        (paths.count ·) := by
    rw [List.map_map]
    apply List.map_congr_left
    intro file hfile
    obtain ⟨key, hkey⟩ := Map.mem_values.mp (List.mem_filter.mp hfile).1
    obtain ⟨hname, hcount⟩ := h.summary hkey
    rw [Function.comp_apply, hcount, hname]
  rw [hcounts]
  have hperm : ((files.values.filter fun file => file.changedLines > 0).map (·.path)).Perm
      paths.dedup := by
    rw [List.perm_ext_iff_of_nodup hnodup (List.nodup_dedup paths)]
    intro path
    rw [hmem, List.mem_dedup]
  rw [(hperm.map _).sum_eq]
  convert List.sum_map_count_dedup_eq_length paths
  rfl

section

variable (redactText : Str → Str) [Runtime] [Collation]

/-- An inspection that returns. -/
theorem inspect_spec {unifiedDiff : Str} {inspection : WorkspaceWriteDiffInspection}
    (h : inspectWorkspaceWriteUnifiedDiff redactText unifiedDiff = .ok inspection) :
    Inspects inspection.changedFiles (counted unifiedDiff)
      ∧ inspection.changedFileCount = (counted unifiedDiff).toFinset.card
      ∧ inspection.diffLineCount = (counted unifiedDiff).length
      ∧ (inspection.secretMarkerCount = 0 ↔
        ∀ line ∈ searched unifiedDiff, redactText line = line) := by
  unfold inspectWorkspaceWriteUnifiedDiff at h
  obtain ⟨-, rfl⟩ := parse_eq_ok.mp h
  have hempty : Summarizes (.empty : Map Str WorkspaceWriteDiffFileSummary) [] :=
    { summary := by simp
      listed := by simp }
  obtain ⟨hfiles, hsecrets⟩ := @inspectLine_foldl redactText (unifiedLines unifiedDiff)
    ⟨.empty, none, 0⟩ [] hempty
  have hinspects := hfiles.inspects.perm (List.perm_insertionSort
    (fun left right => localeLe left.path right.path) _)
  refine ⟨hinspects, hinspects.length, hinspects.sum, ?_⟩
  dsimp only
  rw [hsecrets, Nat.zero_add, List.countP_eq_zero]
  unfold lineHasSecretLikeContent searched
  simp

/-- A diff whose counted paths are not empty can be inspected. -/
lemma inspect_total (hsha : ∀ s, isDigest (Runtime.sha256 s)) {unifiedDiff : Str}
    (hpaths : ∀ path ∈ counted unifiedDiff, path ≠ []) :
    ∃ inspection, inspectWorkspaceWriteUnifiedDiff redactText unifiedDiff = .ok inspection := by
  have hempty : Summarizes (.empty : Map Str WorkspaceWriteDiffFileSummary) [] :=
    { summary := by simp
      listed := by simp }
  obtain ⟨hfiles, -⟩ := @inspectLine_foldl redactText (unifiedLines unifiedDiff)
    ⟨.empty, none, 0⟩ [] hempty
  have hinspects := hfiles.inspects.perm (List.perm_insertionSort
    (fun left right => localeLe left.path right.path) _)
  unfold inspectWorkspaceWriteUnifiedDiff
  refine ⟨_, parse_eq_ok.mpr ⟨?_, rfl⟩⟩
  unfold inspectionIssues
  rw [List.append_eq_nil_iff, under_eq_nil, under_eq_nil, each_eq_nil, require_eq_nil]
  refine ⟨hsha _, ?_⟩
  intro file hfile
  rw [under_eq_nil, nonEmpty_eq_nil]
  exact hpaths file.path ((hinspects.mem file.path).mp (List.mem_map_of_mem hfile))

/-! ## The guard -/

/-- The guard passes. -/
def Passes (permitInput : Json) (unifiedDiff : Str) : Prop :=
  ∃ result, evaluateWorkspaceWritePatchGuard redactText permitInput unifiedDiff = .ok result
    ∧ result.ok = true

lemma passes_of_evaluate {permitInput : Json} {unifiedDiff : Str}
    (h : ((evaluateWorkspaceWritePatchGuard redactText permitInput unifiedDiff).map
      (·.ok)).toOption = some true) : Passes redactText permitInput unifiedDiff := by
  unfold Passes
  cases hresult : evaluateWorkspaceWritePatchGuard redactText permitInput unifiedDiff with
  | error e =>
    rw [hresult] at h
    exact nomatch h
  | ok result =>
    rw [hresult] at h
    exact ⟨result, rfl, Option.some.inj h⟩

omit [Runtime] [Collation] in
/-- What lets a diff pass. -/
structure Admits (permit : GuardPermit) (unifiedDiff : Str) : Prop where
  approved : permit.status = .approved
  changed : counted unifiedDiff ≠ []
  files : permit.bounds.maxChangedFiles.exceededBy (counted unifiedDiff).toFinset.card = false
  lines : permit.bounds.maxDiffLines.exceededBy (counted unifiedDiff).length = false
  safe : ∀ path ∈ counted unifiedDiff, isSafeWorkspaceRelativeFilePath path
  permitted : ∀ path ∈ counted unifiedDiff, path ∈ permit.bounds.targetFiles
  clean : ∀ line ∈ searched unifiedDiff, redactText line = line

omit [Runtime] [Collation] in
lemma patchGuardReasons_eq_nil {permit : GuardPermit} {inspection : WorkspaceWriteDiffInspection}
    {unifiedDiff : Str} (hinspects : Inspects inspection.changedFiles (counted unifiedDiff))
    (hfiles : inspection.changedFileCount = (counted unifiedDiff).toFinset.card)
    (hlines : inspection.diffLineCount = (counted unifiedDiff).length)
    (hclean : inspection.secretMarkerCount = 0 ↔
      ∀ line ∈ searched unifiedDiff, redactText line = line) :
    patchGuardReasons permit inspection = [] ↔ Admits redactText permit unifiedDiff := by
  have hpaths : ∀ p : Str → Prop, (∀ file ∈ inspection.changedFiles, p file.path) ↔
      ∀ path ∈ counted unifiedDiff, p path := by
    intro p
    simp only [← hinspects.mem, List.forall_mem_map]
  have hchanged : inspection.changedFileCount = 0 ↔ counted unifiedDiff = [] := by
    rw [hfiles, Finset.card_eq_zero, List.toFinset_eq_empty_iff]
  unfold patchGuardReasons
  simp only [distinct_eq_nil, List.append_eq_nil_iff, reasonIf_eq_nil, List.flatMap_eq_nil_iff,
    ne_eq, decide_not, Bool.not_eq_eq_eq_not, Bool.not_false, decide_eq_true_eq,
    decide_eq_false_iff_not, gt_iff_lt, not_lt, Nat.le_zero, hchanged, hclean]
  rw [hpaths fun path => isSafeWorkspaceRelativeFilePath path = true
    ∧ path ∈ permit.bounds.targetFiles, hfiles, hlines]
  constructor
  · rintro ⟨⟨⟨⟨⟨happroved, hsome⟩, hcount⟩, hlong⟩, hfile⟩, hsecret⟩
    exact ⟨happroved, hsome, hcount, hlong, fun path hpath => (hfile path hpath).1,
      fun path hpath => (hfile path hpath).2, hsecret⟩
  · intro h
    exact ⟨⟨⟨⟨⟨h.approved, h.changed⟩, h.files⟩, h.lines⟩,
      fun path hpath => ⟨h.safe path hpath, h.permitted path hpath⟩⟩, h.clean⟩

/-- The guard passes when the permit admits a diff that can be inspected. -/
theorem passes_iff {permitInput : Json} {unifiedDiff : Str} :
    Passes redactText permitInput unifiedDiff ↔
      (∃ inspection, inspectWorkspaceWriteUnifiedDiff redactText unifiedDiff = .ok inspection)
      ∧ ∃ permit, parseGuardPermit permitInput = .ok permit
        ∧ Admits redactText permit unifiedDiff := by
  unfold Passes evaluateWorkspaceWritePatchGuard
  constructor
  · intro ⟨result, h, hok⟩
    obtain ⟨permit, hpermit, h⟩ := bind_eq_ok.mp h
    obtain ⟨inspection, hinspection, h⟩ := bind_eq_ok.mp h
    obtain ⟨-, rfl⟩ := parse_eq_ok.mp h
    obtain ⟨hinspects, hfiles, hlines, hclean⟩ := inspect_spec redactText hinspection
    refine ⟨⟨inspection, hinspection⟩, permit, hpermit, ?_⟩
    rw [← patchGuardReasons_eq_nil redactText hinspects hfiles hlines hclean]
    simpa using hok
  · intro ⟨⟨inspection, hinspection⟩, permit, hpermit, hadmits⟩
    obtain ⟨hinspects, hfiles, hlines, hclean⟩ := inspect_spec redactText hinspection
    have hnil := (patchGuardReasons_eq_nil redactText hinspects hfiles hlines hclean).mpr hadmits
    have hissues : inspectionIssues inspection = [] := by
      unfold inspectWorkspaceWriteUnifiedDiff at hinspection
      obtain ⟨hissues, rfl⟩ := parse_eq_ok.mp hinspection
      exact hissues
    rw [hpermit, ok_bind, hinspection, ok_bind]
    refine ⟨_, parse_eq_ok.mpr ⟨under_eq_nil.mpr hissues, rfl⟩, ?_⟩
    simp [hnil]

end

end CodexRouter.Guard
