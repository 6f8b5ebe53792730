import CodexRouter.Git.Patch
import CodexRouter.Preview.Agreement

/-!
# The preview patch

A preview sends the diffs of its changes to `git apply --recount` as one text. Each diff ends in a
line break and another joins it to the next, so an empty line stands between them. With the counts
ignored that line is context at the end of the last hunk above it.
-/

open Js Git

namespace CodexRouter.Preview
open Kernel Authorization

/-- `changeSet.changes.map((change) => change.unifiedDiff).join("\n")`. -/
def previewPatch (changeSet : GovernedFileChangeSet) : Str :=
  join newLine (changeSet.changes.map (·.unifiedDiff))

/-- The lines of a diff above its `diff --git` line. -/
def preamble (diff : Str) : List Str := (textLines diff).takeWhile fun line => !opensFile line

/-! ## Lines with a marker -/

def linesFrom (marker : Str) (lines : List Str) (start : ℕ) : List ℕ :=
  (lines.zipIdx start).filterMap fun (line, index) =>
    if startsWith line marker then some index else none

lemma linesFrom_nil {marker : Str} {lines : List Str} {start : ℕ}
    (h : linesFrom marker lines start = []) : ∀ line ∈ lines, startsWith line marker = false := by
  induction lines generalizing start with
  | nil => exact fun line hline => nomatch hline
  | cons line lines ih =>
    unfold linesFrom at h
    rw [List.zipIdx_cons] at h
    cases hmarker : startsWith line marker with
    | true =>
      rw [List.filterMap_cons_some (b := start) (by simp [hmarker])] at h
      exact nomatch h
    | false =>
      rw [List.filterMap_cons_none (by simp [hmarker])] at h
      rw [List.forall_mem_cons]
      exact ⟨hmarker, ih h⟩

/-- The only line with a marker, between lines without it. -/
lemma linesFrom_one {marker : Str} {lines : List Str} {start index : ℕ}
    (h : linesFrom marker lines start = [index]) :
    ∃ above line below, lines = above ++ line :: below ∧ index = start + above.length ∧
      (∀ l ∈ above, startsWith l marker = false) ∧ startsWith line marker = true ∧
      ∀ l ∈ below, startsWith l marker = false := by
  induction lines generalizing start with
  | nil => exact nomatch h
  | cons line lines ih =>
    unfold linesFrom at h
    rw [List.zipIdx_cons] at h
    cases hmarker : startsWith line marker with
    | true =>
      rw [List.filterMap_cons_some (b := start) (by simp [hmarker])] at h
      obtain ⟨hindex, hrest⟩ := List.cons.inj h
      exact ⟨[], line, lines, rfl, hindex.symm, nofun, hmarker, linesFrom_nil hrest⟩
    | false =>
      rw [List.filterMap_cons_none (by simp [hmarker])] at h
      obtain ⟨above, found, below, rfl, hindex, habove, hfound, hbelow⟩ := ih h
      refine ⟨line :: above, found, below, rfl, ?_, ?_, hfound, hbelow⟩
      · rw [hindex, List.length_cons]
        omega
      · rw [List.forall_mem_cons]
        exact ⟨hmarker, habove⟩

/-! ## A diff of one file -/

/-- A diff ends in a line break, so the last of its lines for `split` is the empty one. -/
lemma split_diff {diff : Str} (h : endsWith diff "\n" = true) :
    split newLine diff = textLines diff ++ [[]] := by
  obtain ⟨text, rfl⟩ := List.isSuffixOf_iff_suffix.mp h
  have hsplit : split newLine (text ++ js "\n") = split newLine text ++ [[]] := by
    have htail : js "\n" = newLine :: [] := rfl
    rw [htail]
    show List.splitOn newLine (text ++ newLine :: []) = _
    rw [List.splitOn_append_cons_self]
    rfl
  have hlines : textLines (text ++ js "\n") = split newLine text := by
    unfold textLines
    rw [hsplit]
    simp
  rw [hlines, hsplit]

/-- The lines of joined diffs are the lines of each with an empty line between. -/
lemma textLines_join {diffs : List Str} (hne : diffs ≠ [])
    (h : ∀ diff ∈ diffs, endsWith diff "\n" = true) :
    textLines (join newLine diffs) = List.intercalate [[]] (diffs.map textLines) := by
  have hsplit : split newLine (join newLine diffs) =
      List.intercalate [[]] (diffs.map textLines) ++ [[]] := by
    rw [split_join_texts newLine hne]
    induction diffs with
    | nil => exact absurd rfl hne
    | cons diff diffs ih =>
      rw [List.forall_mem_cons] at h
      rw [List.flatMap_cons, split_diff h.1]
      cases diffs with
      | nil => simp
      | cons next diffs =>
        rw [ih (List.cons_ne_nil next diffs) h.2]
        simp only [List.map_cons, List.intercalate_cons_cons, List.append_assoc]
  unfold textLines at *
  rw [hsplit]
  simp

lemma startsWith_plus_b {line : Str} (h : startsWith line "+++ " = false) :
    startsWith line "+++ b/" = false := by
  rw [← Bool.not_eq_true] at h ⊢
  intro hb
  apply h
  obtain ⟨rest, rfl⟩ := List.isPrefixOf_iff_prefix.mp hb
  exact List.isPrefixOf_iff_prefix.mpr ⟨js "b/" ++ rest, rfl⟩

/-- What `assertDiffBindsPath` finds in the lines of a diff. -/
lemma assertDiffBindsPath_eq_ok {diff path : Str} {kind : GovernedFileChangeKind}
    {oldPath : Option Str} {firstHunk : ℕ}
    (h : assertDiffBindsPath diff path kind oldPath = .ok firstHunk) :
    ∃ diffHeader oldHeader newHeader,
      (split newLine diff).findIdx? (fun line => startsWith line "@@ ") = some firstHunk ∧
      linesFrom "diff --git " (split newLine diff) 0 = [diffHeader] ∧
      linesFrom "+++ " ((split newLine diff).take firstHunk) 0 = [newHeader] ∧
      diffHeader < oldHeader ∧ newHeader = oldHeader + 1 ∧
      ((split newLine diff).take firstHunk)[newHeader]? =
        some (if kind = .delete then js "+++ /dev/null" else js "+++ b/" ++ path) := by
  unfold assertDiffBindsPath at h
  dsimp only at h
  generalize (if kind = .delete then js "+++ /dev/null" else js "+++ b/" ++ path) = new at h ⊢
  generalize (if kind = .create then js "--- /dev/null" else js "--- a/" ++ oldPath.getD path) =
    old at h
  split at h
  case h_2 => exact absurd h fail_ne_ok
  case h_1 index diffHeader oldHeader newHeader hindex hdiff hold hnew =>
    split_ifs at h with hbad
    · exact absurd h fail_ne_ok
    · obtain ⟨_, _, hfirst⟩ := bind_eq_ok.mp h
      obtain rfl := pure_eq_ok.mp hfirst
      simp only [not_or, not_not, not_le] at hbad
      rw [hindex] at hnew hbad
      exact ⟨diffHeader, oldHeader, newHeader, hindex, hdiff, hnew, hbad.1, hbad.2.1,
        hbad.2.2.2.2⟩

lemma targetPath_of_one {above below : List Str} (path : Str)
    (h : ∀ l ∈ above, startsWith l "+++ " = false) :
    targetPath (above ++ (js "+++ b/" ++ path) :: below) = some path := by
  have hnone : targetPath above = none := by
    unfold targetPath
    rw [List.findSome?_eq_none_iff]
    intro line hline
    rw [startsWith_plus_b (h line hline)]
    rfl
  unfold targetPath at *
  rw [List.findSome?_append, hnone, Option.none_or, List.findSome?_cons_of_isSome] <;>
    rw [startsWith_append_self]
  · show some ((js "+++ b/" ++ path).drop (js "+++ b/").length) = _
    rw [List.drop_left]
  · rfl

/-- A diff that is bound to a path writes to it, when it does not delete. -/
theorem exists_fileText {diff path : Str} {kind : GovernedFileChangeKind} {oldPath : Option Str}
    {firstHunk : ℕ} (hends : endsWith diff "\n" = true) (hkind : kind ≠ .delete)
    (h : assertDiffBindsPath diff path kind oldPath = .ok firstHunk) :
    ∃ file : FileText, file.path = path ∧ file.lines = textLines diff ∧
      file.above = preamble diff := by
  obtain ⟨diffHeader, oldHeader, newHeader, hindex, hdiff, hnew, hlt, hnext, hnewLine⟩ :=
    assertDiffBindsPath_eq_ok h
  have hsplit := split_diff hends
  generalize split newLine diff = lines at *
  obtain ⟨above, header, rest, hlines, hd, habove, hheader, hrest⟩ := linesFrom_one hdiff
  obtain ⟨before, target, behind, htake, hp, hbefore, -, -⟩ := linesFrom_one hnew
  rw [Nat.zero_add] at hd hp
  -- the last line is the empty one, and it opens nothing
  obtain ⟨below, rfl, hbelow⟩ : ∃ below, rest = below ++ [[]] ∧
      textLines diff = above ++ header :: below := by
    rw [hsplit] at hlines
    rcases List.eq_nil_or_concat rest with rfl | ⟨below, last, rfl⟩
    · obtain ⟨-, hlast⟩ := List.append_inj' hlines rfl
      rw [← (List.cons.inj hlast).1] at hheader
      exact nomatch hheader
    · rw [List.concat_eq_append] at hlines ⊢
      rw [← List.cons_append, ← List.append_assoc] at hlines
      obtain ⟨htext, hlast⟩ := List.append_inj' hlines rfl
      exact ⟨below, by rw [(List.cons.inj hlast).1], htext⟩
  obtain ⟨hinside, hhunk, hno⟩ := List.findIdx?_eq_some_iff_getElem.mp hindex
  have hcut := List.take_append_drop firstHunk lines
  rw [List.drop_eq_getElem_cons hinside] at hcut
  have hmid : diffHeader < newHeader := by omega
  have hinner : newHeader < (lines.take firstHunk).length := by
    rw [htake, List.length_append, List.length_cons]
    omega
  have hheaderLines : header :: (below ++ [[]]) =
      (lines.take firstHunk).drop diffHeader ++ lines[firstHunk] :: lines.drop (firstHunk + 1) := by
    rw [← List.drop_append_of_le_length (by omega), hcut]
    conv_rhs => rw [hlines, hd]
    exact (List.drop_left ..).symm
  have hopens : ∃ line ∈ header :: below, opensHunk line = true := by
    have hmem : lines[firstHunk] ∈ (header :: below) ++ [[]] := by
      rw [List.cons_append, hheaderLines]
      exact List.mem_append_right _ List.mem_cons_self
    rcases List.mem_append.mp hmem with hmem | hmem
    · exact ⟨_, hmem, hhunk⟩
    · rw [List.mem_singleton.mp hmem] at hhunk
      exact nomatch hhunk
  have hchunk : chunkHeader (header :: below) = (lines.take firstHunk).drop diffHeader := by
    rw [← chunkHeader_append hopens [[]], List.cons_append, hheaderLines]
    refine @takeWhile_above opensHunk _ _ ?_ hhunk _
    intro line hline
    obtain ⟨j, hj, rfl⟩ := List.getElem_of_mem (List.mem_of_mem_drop hline)
    have hjn : j < firstHunk := lt_of_lt_of_le hj (List.length_take_le ..)
    rw [List.getElem_take, ← Bool.not_eq_true]
    exact hno j hjn
  have htarget : targetPath (chunkHeader (header :: below)) = some path := by
    rw [htake, hp, List.getElem?_append_right le_rfl, Nat.sub_self, List.getElem?_cons_zero,
      if_neg hkind] at hnewLine
    rw [hchunk, htake, Option.some.inj hnewLine, List.drop_append_of_le_length (by omega)]
    apply targetPath_of_one
    intro line hline
    exact hbefore line (List.mem_of_mem_drop hline)
  refine ⟨⟨path, above, header, below, habove, hheader, ?_, hopens, htarget⟩, rfl, hbelow.symm,
    ?_⟩
  · intro line hline
    exact hrest line (List.mem_append_left _ hline)
  · unfold preamble
    rw [hbelow]
    exact (takeWhile_above habove hheader below).symm

/-! ## The patch of a change set -/

section
variable [Runtime]

/-- What `canonicalizeChange` leaves: a diff that ends in a line break and is bound to its path. -/
lemma canonicalizeChange_diff {draft : GovernedFileChangeDraft} {change : GovernedFileChange}
    (h : canonicalizeChange draft = .ok change) :
    endsWith change.unifiedDiff "\n" = true ∧
      ∃ firstHunk, assertDiffBindsPath change.unifiedDiff change.path change.kind change.oldPath =
        .ok firstHunk := by
  unfold canonicalizeChange at h
  simp only [bind_eq_ok, pure_eq_ok] at h
  obtain ⟨path, -, oldPath, -, firstHunk, hbinds, rfl⟩ := h
  refine ⟨?_, firstHunk, hbinds⟩
  show endsWith (normalizeUnifiedDiff draft.unifiedDiff) "\n" = true
  unfold normalizeUnifiedDiff
  dsimp only
  split_ifs with hends
  · exact hends
  · exact List.isSuffixOf_iff_suffix.mpr (List.suffix_append _ _)

/-- A canonical change set has no two changes of one path. -/
lemma canonicalize_eq_ok {draft : GovernedFileChangeSetDraft} {changeSet : GovernedFileChangeSet}
    (h : canonicalizeGovernedFileChangeSet draft = .ok changeSet) :
    changeSet.changes ≠ [] ∧ (changeSet.changes.map (·.path)).Nodup ∧
      ∀ change ∈ changeSet.changes, ∃ drafted, canonicalizeChange drafted = .ok change := by
  unfold canonicalizeGovernedFileChangeSet at h
  split_ifs at h with hempty
  · exact absurd h fail_ne_ok
  simp only [bind_eq_ok, parse_eq_ok] at h
  obtain ⟨changes, hchanges, _, halias, -, rfl⟩ := h
  have hperm : (sortChanges changes).Perm changes := List.perm_insertionSort _ changes
  refine ⟨?_, ?_, ?_⟩
  · intro hnil
    rw [show sortChanges changes = [] from hnil, List.nil_perm] at hperm
    subst hperm
    exact hempty (List.length_eq_zero_iff.mp (mapM_eq_ok.mp hchanges).length_eq)
  · unfold assertNoPathAliases at halias
    split_ifs at halias with hnodup
    · exact (List.Nodup.of_map _ hnodup).sublist (touchedPaths_sublist _)
    · exact absurd halias fail_ne_ok
  · intro change hchange
    obtain ⟨drafted, -, _, hdrafted, rfl⟩ :=
      (exists_mem_mapM hchanges (· = change)).mp ⟨change, hperm.mem_iff.mp hchange, rfl⟩
    exact ⟨drafted, hdrafted⟩

/-- The diff of a canonical change, as a patch of one file. -/
lemma exists_fileText_of_change {drafted : GovernedFileChangeDraft} {change : GovernedFileChange}
    (h : canonicalizeChange drafted = .ok change) (hkind : change.kind ≠ .delete) :
    ∃ file : FileText, file.path = change.path ∧ file.lines = textLines change.unifiedDiff ∧
      file.above = preamble change.unifiedDiff := by
  obtain ⟨hends, firstHunk, hbinds⟩ := canonicalizeChange_diff h
  exact exists_fileText hends hkind hbinds

end

/-! ## Two changes -/

section
attribute [local instance] asciiRuntime

def createDiff (path : Str) : Str :=
  js "diff --git a/" ++ path ++ js " b/" ++ path ++ js "\nnew file mode 100644\n"
    ++ js "--- /dev/null\n+++ b/" ++ path ++ js "\n@@ -0,0 +1 @@\n+1\n"

def updateDiff (path : Str) : Str :=
  js "diff --git a/" ++ path ++ js " b/" ++ path
    ++ js "\n--- a/" ++ path ++ js "\n+++ b/" ++ path ++ js "\n@@ -1 +1 @@\n-1\n+2\n"

def created (path : Str) : GovernedFileChange where
  path
  kind := .create
  oldPath := none
  beforeHash := none
  afterHash := none
  addedLines := 1
  deletedLines := 0
  unifiedDiff := createDiff path

def updated (path : Str) : GovernedFileChange where
  path
  kind := .update
  oldPath := none
  beforeHash := none
  afterHash := none
  addedLines := 1
  deletedLines := 1
  unifiedDiff := updateDiff path

def draftOf (changes : List GovernedFileChange) : GovernedFileChangeSetDraft :=
  redraft {
    changeSetId := "changes"
    threadId := "thread"
    turnId := "turn"
    itemId := "item"
    baseHead := "c0ffee"
    changes
    canonicalHash := []
    proposedAt := "2026-01-02T03:04:05Z"
    sourceSchemaProfile := "v2" }

lemma exists_canonical {draft : GovernedFileChangeSetDraft} {changes : List GovernedFileChange}
    (h : (canonicalizeGovernedFileChangeSet draft).map (·.changes) = .ok changes) :
    ∃ changeSet, canonicalizeGovernedFileChangeSet draft = .ok changeSet ∧
      changeSet.changes = changes := by
  cases hdraft : canonicalizeGovernedFileChangeSet draft with
  | error e =>
    rw [hdraft] at h
    exact nomatch h
  | ok changeSet =>
    rw [hdraft] at h
    exact ⟨changeSet, rfl, Except.ok.inj h⟩

/-- A diff that is one file patch, applied alone. -/
lemma applies_alone {place : FilePatch → Option Str → Option Str} {diff path : Str}
    (hone : fileChunks (textLines diff) = [textLines diff])
    (htarget : targetPath (chunkHeader (textLines diff)) = some path) {after : Str → Str}
    {base : Tree} (happly : applyChunk place (textLines diff) (base path) = some (after path)) :
    Git.apply place diff base = some (Function.update base path (some (after path))) :=
  (FileText.applyLines_one hone htarget after base).mpr happly

/-- The first file has an empty line behind its hunk, the second is new. -/
def spacedTree : Tree := Function.update (fun _ => none) (js "a") (some (js "1\n\n"))

def spacedAfter (path : Str) : Str := if path = js "a" then "2\n\n" else "1\n"

end

end CodexRouter.Preview
