import CodexRouter.Capsule.Reading
import CodexRouter.Capsule.Verifier

/-!
# The changes between two trees

When two trees may be compared, and what the changes between them do: applied to the contents of the
one tree, they give those of the other, as long as no content that they touch begins with a byte
order mark.
-/

open Js Runs CodexRouter.Kernel

namespace CodexRouter.Capsule

/-! ## Files by path -/

/-- The element of a list under a key that no two of them share. -/
lemma find?_key {α : Type} {key : α → Str} {l : List α} (hkeys : (l.map key).Nodup) {k : Str}
    {a : α} : (l.find? fun a => key a = k) = some a ↔ a ∈ l ∧ key a = k := by
  constructor
  · intro h
    exact ⟨List.mem_of_find?_eq_some h, by simpa using List.find?_some h⟩
  · rintro ⟨ha, hk⟩
    have hsome : (l.find? fun a => key a = k).isSome := by
      rw [List.find?_isSome]
      exact ⟨a, ha, decide_eq_true hk⟩
    obtain ⟨b, hb⟩ := Option.isSome_iff_exists.mp hsome
    have hkey : key b = k := by simpa using List.find?_some hb
    rw [hb, List.inj_on_of_nodup_map hkeys (List.mem_of_find?_eq_some hb) ha (hkey.trans hk.symm)]

section
variable {files : List LoadedContentTreeFile} {file : LoadedContentTreeFile} {path : Str}

lemma get?_byPath (hpaths : (files.map (·.path)).Nodup) :
    (byPath files).get? path = some file ↔ file ∈ files ∧ file.path = path := by
  have hkeys : ((files.map fun file => (file.path, file)).map Prod.fst).Nodup := by
    rw [List.map_map]
    exact hpaths
  unfold byPath
  rw [Map.get?_eq_some_iff, Map.entries_setAll hkeys fun _ _ => List.not_mem_nil]
  simp [Map.empty, Prod.ext_iff, and_comm, eq_comm]

lemma get?_byPath_eq_none (hpaths : (files.map (·.path)).Nodup) :
    (byPath files).get? path = none ↔ ∀ file ∈ files, file.path ≠ path := by
  rw [Option.eq_none_iff_forall_ne_some]
  constructor
  · intro h file hfile hpath
    exact h file ((get?_byPath hpaths).mpr ⟨hfile, hpath⟩)
  · intro h file hget
    obtain ⟨hfile, hpath⟩ := (get?_byPath hpaths).mp hget
    exact h file hfile hpath

lemma has_byPath (hpaths : (files.map (·.path)).Nodup) :
    (byPath files).has path = true ↔ ∃ file ∈ files, file.path = path := by
  unfold Map.has
  rw [Option.isSome_iff_exists]
  exact exists_congr fun file => get?_byPath hpaths

/-- The content of the file under a path. -/
def contentAt (files : List LoadedContentTreeFile) (path : Str) : Option (List ℕ) :=
  (files.find? fun file => file.path = path).map (·.content)

lemma find?_path (hpaths : (files.map (·.path)).Nodup) :
    (files.find? fun file => file.path = path) = (byPath files).get? path := by
  ext found
  rw [find?_key hpaths, get?_byPath hpaths]

lemma contentAt_eq (hpaths : (files.map (·.path)).Nodup) :
    contentAt files path = ((byPath files).get? path).map (·.content) := by
  unfold contentAt
  rw [find?_path hpaths]

end

/-! ## Comparing trees -/

/-- What may be made of a tree: no file is dropped, renamed or given another mode, and only allowed
targets are changed or created. -/
structure Edits (allowed : List Str) (inputFiles outputFiles : List LoadedContentTreeFile) :
    Prop where
  kept : ∀ file ∈ inputFiles, ∃ file' ∈ outputFiles, file'.path = file.path ∧ file'.mode = file.mode
  created : ∀ file' ∈ outputFiles, (∀ file ∈ inputFiles, file.path ≠ file'.path) →
    file'.path ∈ allowed ∧ file'.mode = .regular
  changed : ∀ file ∈ inputFiles, ∀ file' ∈ outputFiles, file.path = file'.path →
    file.digest ≠ file'.digest → file'.path ∈ allowed

section
variable {allowed : List Str} {inputFiles outputFiles : List LoadedContentTreeFile}
  (hinput : (inputFiles.map (·.path)).Nodup) (houtput : (outputFiles.map (·.path)).Nodup)
include hinput

lemma compareFile_reasons {file : LoadedContentTreeFile} :
    (compareFile (byPath inputFiles) allowed file).1 = [] ↔
      ((∀ before ∈ inputFiles, before.path ≠ file.path) →
        file.path ∈ allowed ∧ file.mode = .regular) ∧
      ∀ before ∈ inputFiles, before.path = file.path →
        before.mode = file.mode ∧ (before.digest ≠ file.digest → file.path ∈ allowed) := by
  unfold compareFile
  dsimp only
  rcases hget : (byPath inputFiles).get? file.path with _ | found
  · have hnone := (get?_byPath_eq_none hinput).mp hget
    dsimp only
    rw [List.append_eq_nil_iff, reasonIf_eq_nil, reasonIf_eq_nil, decide_eq_false_iff_not, not_not,
      decide_eq_false_iff_not, not_not]
    constructor
    · intro h
      exact ⟨fun _ => h, fun before hbefore hpath => absurd hpath (hnone before hbefore)⟩
    · intro h
      exact h.1 hnone
  · obtain ⟨hfound, hpath⟩ := (get?_byPath hinput).mp hget
    have hunique : ∀ before ∈ inputFiles, before.path = file.path → before = found :=
      fun before hbefore h => List.inj_on_of_nodup_map hinput hbefore hfound (h.trans hpath.symm)
    have hall : ((∀ before ∈ inputFiles, before.path ≠ file.path) →
        file.path ∈ allowed ∧ file.mode = .regular) ∧
        (∀ before ∈ inputFiles, before.path = file.path →
          before.mode = file.mode ∧ (before.digest ≠ file.digest → file.path ∈ allowed)) ↔
        found.mode = file.mode ∧ (found.digest ≠ file.digest → file.path ∈ allowed) := by
      constructor
      · intro h
        exact h.2 found hfound hpath
      · intro h
        refine ⟨fun hno => absurd hpath (hno found hfound), fun before hbefore hsame => ?_⟩
        rw [hunique before hbefore hsame]
        exact h
    rw [hall]
    dsimp only
    split_ifs with hdigest
    · rw [List.append_eq_nil_iff, reasonIf_eq_nil, reasonIf_eq_nil, decide_eq_false_iff_not,
        not_not, decide_eq_false_iff_not, not_not]
      exact and_congr_right fun _ => (imp_iff_right hdigest).symm
    · rw [reasonIf_eq_nil, decide_eq_false_iff_not, not_not]
      exact (and_iff_left fun h => absurd h hdigest).symm

include houtput in
/-- The trees are compared without reasons against them when the one is an edit of the other. -/
lemma compareCompleteTrees_reasons :
    (compareCompleteTrees inputFiles outputFiles allowed).2 = [] ↔
      Edits allowed inputFiles outputFiles := by
  unfold compareCompleteTrees
  dsimp only
  rw [distinct_eq_nil, List.append_eq_nil_iff, List.map_eq_nil_iff, List.filter_eq_nil_iff,
    List.flatMap_eq_nil_iff]
  simp only [List.forall_mem_map, compareFile_reasons hinput, Bool.not_eq_true', Bool.not_eq_false]
  constructor
  · rintro ⟨hdeleted, hfiles⟩
    constructor
    · intro file hfile
      obtain ⟨file', hfile', hpath⟩ := (has_byPath houtput).mp (hdeleted file hfile)
      exact ⟨file', hfile', hpath, ((hfiles file' hfile').2 file hfile hpath.symm).1.symm⟩
    · intro file' hfile'
      exact (hfiles file' hfile').1
    · intro file hfile file' hfile' hpath
      exact ((hfiles file' hfile').2 file hfile hpath).2
  · intro h
    constructor
    · intro file hfile
      obtain ⟨file', hfile', hpath, -⟩ := h.kept file hfile
      exact (has_byPath houtput).mpr ⟨file', hfile', hpath⟩
    · intro file' hfile'
      refine ⟨h.created file' hfile', fun file hfile hpath => ⟨?_, h.changed file hfile file' hfile' hpath⟩⟩
      obtain ⟨other, hother, hsame, hmode⟩ := h.kept file hfile
      rw [← hmode, List.inj_on_of_nodup_map houtput hother hfile' (hsame.trans hpath)]

omit hinput in
lemma compareFile_change {inputByPath : Map Str LoadedContentTreeFile}
    {file : LoadedContentTreeFile} {change : CandidateChange} :
    (compareFile inputByPath allowed file).2 = some change ↔
      change = ⟨inputByPath.get? file.path, file⟩ ∧
        (inputByPath.get? file.path).map (·.digest) ≠ some file.digest := by
  unfold compareFile
  dsimp only
  rcases inputByPath.get? file.path with _ | found
  · simp [eq_comm]
  · dsimp only
    split_ifs with hdigest
    · constructor
      · intro h
        exact ⟨(Option.some.inj h).symm, fun hsame => hdigest (Option.some.inj hsame)⟩
      · intro h
        rw [h.1]
    · simp [hdigest]

omit hinput in
/-- A change is of an output file whose digest is not that of the input file at its path. -/
lemma mem_changes {change : CandidateChange} :
    change ∈ (compareCompleteTrees inputFiles outputFiles allowed).1 ↔
      change.after ∈ outputFiles ∧ change.before = (byPath inputFiles).get? change.after.path ∧
        change.before.map (·.digest) ≠ some change.after.digest := by
  unfold compareCompleteTrees
  dsimp only
  rw [List.filterMap_map, List.mem_filterMap]
  constructor
  · rintro ⟨file, hfile, hchange⟩
    obtain ⟨rfl, hdigest⟩ := compareFile_change.mp hchange
    exact ⟨hfile, rfl, hdigest⟩
  · rintro ⟨hfile, hbefore, hdigest⟩
    refine ⟨change.after, hfile, compareFile_change.mpr ⟨?_, hbefore ▸ hdigest⟩⟩
    rw [← hbefore]

omit hinput in
include houtput in
lemma nodup_changes : ((compareCompleteTrees inputFiles outputFiles allowed).1.map
    (·.after.path)).Nodup := by
  have hsublist : ∀ files : List LoadedContentTreeFile,
      ((files.filterMap fun file => (compareFile (byPath inputFiles) allowed file).2).map
        (·.after.path)).Sublist (files.map (·.path)) := by
    intro files
    induction files with
    | nil => exact List.Sublist.refl _
    | cons file files ih =>
      rw [List.filterMap_cons]
      rcases hchange : (compareFile (byPath inputFiles) allowed file).2 with _ | change
      · exact ih.cons _
      · rw [(compareFile_change.mp hchange).1]
        exact ih.cons_cons _
  unfold compareCompleteTrees
  dsimp only
  rw [List.filterMap_map]
  exact (hsublist outputFiles).nodup houtput

end

/-! ## Applying changes -/

/-- The diff of a change, applied to a content. -/
def patched (change : GovernedFileChange) (content : Option (List ℕ)) : Option (List ℕ) :=
  (Unified.readPatch (Sha256.utf8 change.unifiedDiff)).bind fun patch => patch.apply content

/-- The contents after the changes; a path without a change keeps its content. -/
def applyChanges (changes : List GovernedFileChange) (contents : Str → Option (List ℕ))
    (path : Str) : Option (List ℕ) :=
  match changes.find? fun change => change.path = path with
  | none => contents path
  | some change => patched change (contents path)

lemma governedChangeOf_ok {change : CandidateChange} {governed : GovernedFileChange}
    (h : governedChangeOf change = .ok governed) :
    ∃ afterText beforeText, decodeChangedText change.after.content = .ok afterText ∧
      change.before.mapM (fun before => decodeChangedText before.content) = .ok beforeText ∧
      governed = toGovernedChange change.before change.after beforeText afterText := by
  unfold governedChangeOf at h
  obtain ⟨afterText, hafter, hbefore⟩ := bind_eq_ok.mp h
  obtain ⟨beforeText, hbefore, hpure⟩ := bind_eq_ok.mp hbefore
  exact ⟨afterText, beforeText, hafter, hbefore, (pure_eq_ok.mp hpure).symm⟩

lemma governedChangeOf_path {change : CandidateChange} {governed : GovernedFileChange}
    (h : governedChangeOf change = .ok governed) : governed.path = change.after.path := by
  obtain ⟨afterText, beforeText, -, -, rfl⟩ := governedChangeOf_ok h
  rfl

lemma governed_paths {changes : List CandidateChange} {governed : List GovernedFileChange}
    (h : changes.mapM governedChangeOf = .ok governed) :
    governed.map (·.path) = changes.map (·.after.path) := by
  rw [mapM_eq_ok] at h
  induction h with
  | nil => rfl
  | cons hchange _ ih => rw [List.map_cons, List.map_cons, governedChangeOf_path hchange, ih]

/-- No content that a change touches begins with a byte order mark. -/
def Unmarked (change : CandidateChange) : Prop :=
  ¬Marked change.after.content ∧ ∀ file ∈ change.before, ¬Marked file.content

/-- The diff of a change makes the new content of the old one, unless one of them is marked. -/
lemma patched_iff [Runtime] {change : CandidateChange} {governed : GovernedFileChange}
    (h : governedChangeOf change = .ok governed)
    (hpath : isCanonicalCapsulePath change.after.path = true)
    (hdiffer : change.before.map (·.content) ≠ some change.after.content) :
    patched governed (change.before.map (·.content)) = some change.after.content ↔
      Unmarked change := by
  obtain ⟨afterText, beforeText, hafter, hbefore, rfl⟩ := governedChangeOf_ok h
  have hcontents : ∀ content ∈ change.before.map (·.content), ∃ text, beforeText = some text ∧
      decodeChangedText content = .ok text := by
    intro content hcontent
    obtain ⟨file, hfile, rfl⟩ := Option.map_eq_some_iff.mp hcontent
    rw [hfile] at hbefore
    obtain ⟨text, htext, hsome⟩ := map_eq_ok.mp hbefore
    exact ⟨text, hsome.symm, htext⟩
  have hnone : change.before.map (·.content) = none → beforeText = none := by
    intro hcase
    rw [Option.map_eq_none_iff.mp hcase] at hbefore
    exact (pure_eq_ok.mp hbefore).symm
  have hfiles : (∀ content ∈ change.before.map (·.content), ¬Marked content) ↔
      ∀ file ∈ change.before, ¬Marked file.content := by
    cases change.before <;> simp
  have hnewLine : newLine ∉ change.after.path := newLine_not_mem_canonical hpath
  have hread : Unified.readPatch (Sha256.utf8 (createCanonicalUnifiedDiff change.after.path
      beforeText afterText)) = some ⟨beforeText.isNone,
        if beforeText = none ∧ afterText = [] then [] else
          [Unified.replacement (fileLines (beforeText.getD [])) (fileLines afterText)]⟩ := by
    split_ifs with hempty
    · obtain ⟨rfl, rfl⟩ := hempty
      exact readPatch_empty hnewLine
    · exact readPatch_diff hnewLine hempty
  unfold Unmarked patched
  change (Unified.readPatch (Sha256.utf8 (createCanonicalUnifiedDiff change.after.path beforeText
    afterText))).bind _ = _ ↔ _
  rw [hread, Option.bind_some, ← hfiles, ← apply_iff hcontents hnone hafter hdiffer]
  split_ifs with hempty
  · obtain ⟨rfl, rfl⟩ := hempty
    rfl
  · rfl

/-! ## From the one tree to the other -/

section
variable [Runtime] {inputFiles outputFiles : List LoadedContentTreeFile} {allowed : List Str}
  {governed : List GovernedFileChange}

omit [Runtime] in
/-- Under the path of a change stands the change, and under another path none. -/
lemma find?_governed
    (hchanges : (compareCompleteTrees inputFiles outputFiles allowed).1.mapM governedChangeOf =
      .ok governed)
    (houtput : (outputFiles.map (·.path)).Nodup) (path : Str) :
    (∃ change governedChange, change ∈ (compareCompleteTrees inputFiles outputFiles allowed).1 ∧
        change.after.path = path ∧ governedChangeOf change = .ok governedChange ∧
        ((sortChanges governed).find? fun change => change.path = path) = some governedChange) ∨
      (((sortChanges governed).find? fun change => change.path = path) = none ∧
        ∀ change ∈ (compareCompleteTrees inputFiles outputFiles allowed).1,
          change.after.path ≠ path) := by
  have hperm : (sortChanges governed).Perm governed := List.perm_insertionSort _ _
  have hpaths := governed_paths hchanges
  have hkeys : ((sortChanges governed).map (·.path)).Nodup := by
    rw [(hperm.map _).nodup_iff, hpaths]
    exact nodup_changes houtput
  by_cases hsome : ∃ change ∈ (compareCompleteTrees inputFiles outputFiles allowed).1,
      change.after.path = path
  · obtain ⟨change, hchange, hpath⟩ := hsome
    obtain ⟨governedChange, hmem, hgoverned⟩ := exists_of_mapM hchanges change hchange
    refine .inl ⟨change, governedChange, hchange, hpath, hgoverned, ?_⟩
    rw [find?_key hkeys]
    exact ⟨hperm.mem_iff.mpr hmem, (governedChangeOf_path hgoverned).trans hpath⟩
  · push Not at hsome
    refine .inr ⟨?_, hsome⟩
    rw [List.find?_eq_none]
    intro governedChange hmem hpath
    have hin : governedChange.path ∈ governed.map (·.path) :=
      List.mem_map_of_mem (hperm.mem_iff.mp hmem)
    rw [hpaths, List.mem_map] at hin
    obtain ⟨change, hchange, hsame⟩ := hin
    exact hsome change hchange (hsame.trans (of_decide_eq_true hpath))

/-- The changes give the contents of the output tree, unless one of them touches a content that
begins with a byte order mark. -/
theorem applyChanges_eq_iff (hedits : Edits allowed inputFiles outputFiles)
    (hinput : (inputFiles.map (·.path)).Nodup) (houtput : (outputFiles.map (·.path)).Nodup)
    (hcanonical : ∀ file ∈ outputFiles, isCanonicalCapsulePath file.path = true)
    (hdigests : ∀ file ∈ inputFiles, ∀ file' ∈ outputFiles,
      file.digest = file'.digest ↔ file.content = file'.content)
    (hchanges : (compareCompleteTrees inputFiles outputFiles allowed).1.mapM governedChangeOf =
      .ok governed) :
    applyChanges (sortChanges governed) (contentAt inputFiles) = contentAt outputFiles ↔
      ∀ change ∈ (compareCompleteTrees inputFiles outputFiles allowed).1, Unmarked change := by
  have hafter : ∀ change ∈ (compareCompleteTrees inputFiles outputFiles allowed).1,
      contentAt outputFiles change.after.path = some change.after.content := by
    intro change hchange
    rw [contentAt_eq houtput, (get?_byPath houtput).mpr ⟨(mem_changes.mp hchange).1, rfl⟩,
      Option.map_some]
  have hbefore : ∀ change ∈ (compareCompleteTrees inputFiles outputFiles allowed).1,
      contentAt inputFiles change.after.path = change.before.map (·.content) := by
    intro change hchange
    rw [contentAt_eq hinput, (mem_changes.mp hchange).2.1]
  have hdiffer : ∀ change ∈ (compareCompleteTrees inputFiles outputFiles allowed).1,
      change.before.map (·.content) ≠ some change.after.content := by
    intro change hchange hsame
    obtain ⟨hmem, hget, hdigest⟩ := mem_changes.mp hchange
    obtain ⟨file, hfile, hcontent⟩ := Option.map_eq_some_iff.mp hsame
    rw [hfile] at hget hdigest
    have hin := ((get?_byPath hinput).mp hget.symm).1
    rw [Option.map_some, (hdigests file hin change.after hmem).mpr hcontent] at hdigest
    exact hdigest rfl
  have hpatched : ∀ change ∈ (compareCompleteTrees inputFiles outputFiles allowed).1,
      ∀ governedChange, governedChangeOf change = .ok governedChange →
        (patched governedChange (contentAt inputFiles change.after.path) =
          contentAt outputFiles change.after.path ↔ Unmarked change) := by
    intro change hchange governedChange hgoverned
    rw [hafter change hchange, hbefore change hchange]
    exact patched_iff hgoverned (hcanonical _ (mem_changes.mp hchange).1) (hdiffer change hchange)
  constructor
  · intro happly change hchange
    rcases find?_governed hchanges houtput change.after.path with hfound | ⟨-, hnone⟩
    · obtain ⟨other, governedChange, hother, hpath, hgoverned, hfind⟩ := hfound
      have hsame : other = change :=
        List.inj_on_of_nodup_map (nodup_changes houtput) hother hchange hpath
      rw [hsame] at hgoverned
      apply (hpatched change hchange governedChange hgoverned).mp
      rw [← happly]
      unfold applyChanges
      rw [hfind]
    · exact absurd rfl (hnone change hchange)
  · intro hunmarked
    funext path
    unfold applyChanges
    rcases find?_governed hchanges houtput path with hfound | ⟨hfind, hnone⟩
    · obtain ⟨change, governedChange, hchange, rfl, hgoverned, hfind⟩ := hfound
      rw [hfind]
      exact (hpatched change hchange governedChange hgoverned).mpr (hunmarked change hchange)
    · -- A path without a change has the same content in both trees, or none.
      rw [hfind]
      dsimp only
      rw [contentAt_eq hinput, contentAt_eq houtput]
      rcases hget : (byPath outputFiles).get? path with _ | file'
      · have hmissing : ∀ file ∈ inputFiles, file.path ≠ path := by
          intro file hfile hpath
          obtain ⟨file', hfile', hsame, -⟩ := hedits.kept file hfile
          exact (get?_byPath_eq_none houtput).mp hget file' hfile' (hsame.trans hpath)
        rw [(get?_byPath_eq_none hinput).mpr hmissing]
      · obtain ⟨hfile', hpath⟩ := (get?_byPath houtput).mp hget
        have hsame : ((byPath inputFiles).get? path).map (·.digest) = some file'.digest := by
          by_contra hne
          rw [← hpath] at hne
          exact hnone ⟨(byPath inputFiles).get? file'.path, file'⟩
            (mem_changes.mpr ⟨hfile', rfl, hne⟩) hpath
        obtain ⟨file, hfile, hdigest⟩ := Option.map_eq_some_iff.mp hsame
        have hin := ((get?_byPath hinput).mp hfile).1
        rw [hfile, Option.map_some, Option.map_some,
          (hdigests file hin file' hfile').mp hdigest]

end

end CodexRouter.Capsule
