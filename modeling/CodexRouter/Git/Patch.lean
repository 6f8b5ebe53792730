import CodexRouter.Js.Lines
import CodexRouter.Js.Path
import Mathlib.Data.List.Nodup
import Mathlib.Logic.Function.Basic

/-!
# Patches

How `git apply --recount` reads a patch. A `diff --git` line opens a file patch, and a hunk reaches
to the next line that opens a hunk or a file patch; the counts in its header are not used. How the
hunks of one file are placed in its content is a parameter.
-/

open Js

namespace Git

/-! ## Lines -/

/-- The lines of a text; what stands behind the last line break is a line when it is not empty. -/
def textLines (text : Str) : List Str :=
  let lines := split newLine text
  if lines.getLast? = some [] then lines.dropLast else lines

def opensFile (line : Str) : Bool := startsWith line "diff --git "

def opensHunk (line : Str) : Bool := startsWith line "@@ "

/-- A line that a hunk ends at. -/
def endsHunk (line : Str) : Bool := opensHunk line || startsWith line "diff "

/-! ## File patches -/

inductive BodyLine where
  | context (text : Str)
  | removal (text : Str)
  | addition (text : Str)
  | marker (text : Str)
  deriving DecidableEq

/-- An empty line stands for an empty line of context. -/
def readBodyLine : Str → Option BodyLine
  | [] => some (.context [])
  | c :: text =>
    if c = cu ' ' then some (.context text)
    else if c = cu '-' then some (.removal text)
    else if c = cu '+' then some (.addition text)
    else if c = cu '\\' then some (.marker text)
    else none

structure Hunk where
  header : Str
  body : List BodyLine
  deriving DecidableEq

structure FilePatch where
  header : List Str
  hunks : List Hunk
  deriving DecidableEq

/-- The lines from each `diff --git` line to the next. -/
def fileChunks : List Str → List (List Str)
  | [] => []
  | line :: lines =>
    if opensFile line then (line :: lines.takeWhile fun l => !opensFile l) :: fileChunks lines
    else fileChunks lines

/-- The hunks of a chunk; a line of none of the four kinds is an error. -/
def readHunks : List Str → Option (List Hunk)
  | [] => some []
  | line :: lines =>
    if opensHunk line then do
      let body ← (lines.takeWhile fun l => !endsHunk l).mapM readBodyLine
      let hunks ← readHunks lines
      return ⟨line, body⟩ :: hunks
    else readHunks lines

/-- What stands above the first hunk of a chunk. -/
def chunkHeader (chunk : List Str) : List Str := chunk.takeWhile fun line => !opensHunk line

def readChunk (chunk : List Str) : Option FilePatch := do
  let hunks ← readHunks chunk
  return ⟨chunkHeader chunk, hunks⟩

/-- The path that a file patch writes to. -/
def targetPath (header : List Str) : Option Str :=
  header.findSome? fun line => if startsWith line "+++ b/" then some (line.drop 6) else none

/-! ## Applying -/

/-- The contents of the files there are. -/
abbrev Tree := Str → Option Str

section

variable (place : FilePatch → Option Str → Option Str)

/-- The content that a chunk gives its file. -/
def applyChunk (chunk : List Str) (content : Option Str) : Option Str := do
  let patch ← readChunk chunk
  place patch content

/-- A file patch changes one file. -/
def applyChunks : List (List Str) → Tree → Option Tree
  | [], tree => some tree
  | chunk :: chunks, tree => do
    let path ← targetPath (chunkHeader chunk)
    let content ← applyChunk place chunk (tree path)
    applyChunks chunks (Function.update tree path (some content))

/-- A patch is applied as a whole or not at all. -/
def applyLines (lines : List Str) (tree : Tree) : Option Tree :=
  applyChunks place (fileChunks lines) tree

def apply (patch : Str) (tree : Tree) : Option Tree := applyLines place (textLines patch) tree

end

/-! ## Placing hunks -/

namespace BodyLine

def old : BodyLine → Option Str
  | context text | removal text => some text
  | addition _ | marker _ => none

def new : BodyLine → Option Str
  | context text | addition text => some text
  | removal _ | marker _ => none

end BodyLine

/-- A hunk at the first place where its old lines stand; what is above that place comes with it. -/
def placeHunk (old new : List Str) : List Str → Option (List Str × List Str)
  | [] => if old = [] then some (new, []) else none
  | line :: lines =>
    if old.isPrefixOf (line :: lines) then some (new, (line :: lines).drop old.length)
    else do
      let (above, below) ← placeHunk old new lines
      return (line :: above, below)

def placeHunks : List Hunk → List Str → Option (List Str)
  | [], lines => some lines
  | hunk :: hunks, lines => do
    let (above, below) ← placeHunk (hunk.body.filterMap BodyLine.old)
      (hunk.body.filterMap BodyLine.new) lines
    return above ++ (← placeHunks hunks below)

/-- Each hunk below the hunk before it. -/
def placeInOrder (patch : FilePatch) (content : Option Str) : Option Str := do
  let lines ← placeHunks patch.hunks ((content.map textLines).getD [])
  return lines.flatMap (· ++ [newLine])

/-! ## Reading joined lines -/

lemma split_join_texts (c : CodeUnit) {texts : List Str} (h : texts ≠ []) :
    split c (join c texts) = texts.flatMap (split c) := by
  induction texts with
  | nil => exact absurd rfl h
  | cons text texts ih =>
    by_cases hnil : texts = []
    · subst hnil
      simp
    · rw [join_cons c text hnil, List.flatMap_cons, ← ih hnil]
      exact List.splitOn_append_cons_self text _

lemma fileChunks_of_none {lines : List Str} (h : ∀ line ∈ lines, opensFile line = false)
    (rest : List Str) : fileChunks (lines ++ rest) = fileChunks rest := by
  induction lines with
  | nil => rfl
  | cons line lines ih =>
    rw [List.forall_mem_cons] at h
    rw [List.cons_append, fileChunks, h.1, if_neg (by decide), ih h.2]

/-- What stands above the first line with a property. -/
lemma takeWhile_above {opens : Str → Bool} {above : List Str} {line : Str}
    (habove : ∀ l ∈ above, opens l = false) (hline : opens line = true) (below : List Str) :
    (above ++ line :: below).takeWhile (fun l => !opens l) = above := by
  rw [List.takeWhile_append_of_pos, List.takeWhile_cons_of_neg, List.append_nil]
  · rw [hline]
    decide
  · intro l hl
    rw [habove l hl]
    rfl

/-- One file patch, with what follows up to the next. -/
lemma fileChunks_one {above below : List Str} {line : Str}
    (habove : ∀ l ∈ above, opensFile l = false) (hline : opensFile line = true)
    (hbelow : ∀ l ∈ below, opensFile l = false) (rest : List Str) :
    fileChunks (above ++ line :: below ++ rest) =
      (line :: below ++ rest.takeWhile fun l => !opensFile l) :: fileChunks rest := by
  have htake : (below ++ rest).takeWhile (fun l => !opensFile l) =
      below ++ rest.takeWhile fun l => !opensFile l := by
    apply List.takeWhile_append_of_pos
    intro l hl
    rw [hbelow l hl]
    rfl
  rw [List.append_assoc, fileChunks_of_none habove, List.cons_append, fileChunks, hline,
    if_pos rfl, htake, fileChunks_of_none hbelow]
  rfl

/-- The header of a chunk with a hunk does not depend on what follows the hunk. -/
lemma chunkHeader_append {chunk : List Str} (h : ∃ line ∈ chunk, opensHunk line = true)
    (rest : List Str) : chunkHeader (chunk ++ rest) = chunkHeader chunk := by
  induction chunk with
  | nil =>
    obtain ⟨line, hline, -⟩ := h
    exact nomatch hline
  | cons line chunk ih =>
    unfold chunkHeader at *
    cases hopens : opensHunk line with
    | true =>
      rw [List.cons_append, List.takeWhile_cons_of_neg (by simp [hopens]),
        List.takeWhile_cons_of_neg (by simp [hopens])]
    | false =>
      rw [List.cons_append, List.takeWhile_cons_of_pos (by simp [hopens]),
        List.takeWhile_cons_of_pos (by simp [hopens]), ih]
      obtain ⟨other, hother, htrue⟩ := h
      rcases List.mem_cons.mp hother with rfl | hother
      · rw [hopens] at htrue
        exact nomatch htrue
      · exact ⟨other, hother, htrue⟩

/-! ## Trees -/

/-- The tree with these contents at these paths. -/
def overlay (after : Str → Str) (paths : List Str) (base : Tree) : Tree :=
  fun path => if path ∈ paths then some (after path) else base path

section

variable {place : FilePatch → Option Str → Option Str}

/-- Files that no file patch is about stay what they were. -/
lemma applyChunks_frame {chunks : List (List Str)} {tree tree' : Tree}
    (h : applyChunks place chunks tree = some tree') {path : Str}
    (hpath : ∀ chunk ∈ chunks, targetPath (chunkHeader chunk) ≠ some path) :
    tree' path = tree path := by
  induction chunks generalizing tree with
  | nil =>
    obtain rfl := Option.some.inj h
    rfl
  | cons chunk chunks ih =>
    rw [List.forall_mem_cons] at hpath
    rw [applyChunks] at h
    obtain ⟨target, htarget, h⟩ := Option.bind_eq_some_iff.mp h
    obtain ⟨content, -, h⟩ := Option.bind_eq_some_iff.mp h
    rw [ih h hpath.2]
    apply Function.update_of_ne
    rintro rfl
    exact hpath.1 htarget

lemma overlay_cons (after : Str → Str) (path : Str) (paths : List Str) (base : Tree) :
    overlay after (path :: paths) base =
      overlay after paths (Function.update base path (some (after path))) := by
  funext other
  unfold overlay
  by_cases hmem : other ∈ paths
  · rw [if_pos (List.mem_cons_of_mem _ hmem), if_pos hmem]
  · rw [if_neg hmem]
    by_cases hsame : other = path
    · rw [if_pos (List.mem_cons.mpr (.inl hsame)), hsame, Function.update_self]
    · rw [if_neg (List.not_mem_cons_of_ne_of_not_mem hsame hmem), Function.update_of_ne hsame]

/-- File patches of different files are applied each to its own file. -/
theorem applyChunks_iff {chunks : List (List Str)} {paths : List Str}
    (htargets : List.Forall₂ (fun chunk path => targetPath (chunkHeader chunk) = some path)
      chunks paths)
    (hnodup : paths.Nodup) (after : Str → Str) (base : Tree) :
    applyChunks place chunks base = some (overlay after paths base) ↔
      List.Forall₂ (fun chunk path => applyChunk place chunk (base path) = some (after path))
        chunks paths := by
  induction htargets generalizing base with
  | nil => exact iff_of_true rfl .nil
  | @cons chunk path chunks paths htarget htargets ih =>
    rw [List.nodup_cons] at hnodup
    rw [applyChunks, htarget, List.forall₂_cons]
    have hothers : ∀ content, List.Forall₂
        (fun chunk other => applyChunk place chunk
          (Function.update base path (some content) other) = some (after other)) chunks paths ↔
        List.Forall₂ (fun chunk other => applyChunk place chunk (base other) = some (after other))
          chunks paths := by
      intro content
      have hsame : ∀ other ∈ paths, Function.update base path (some content) other = base other := by
        intro other hother
        apply Function.update_of_ne
        rintro rfl
        exact hnodup.1 hother
      constructor
      · intro h
        refine (List.forall₂_iff_zip.mpr ⟨h.length_eq, ?_⟩)
        intro c p hzip
        rw [← hsame p (List.of_mem_zip hzip).2]
        exact (List.forall₂_iff_zip.mp h).2 hzip
      · intro h
        refine (List.forall₂_iff_zip.mpr ⟨h.length_eq, ?_⟩)
        intro c p hzip
        rw [hsame p (List.of_mem_zip hzip).2]
        exact (List.forall₂_iff_zip.mp h).2 hzip
    have hkept : ∀ tree tree', applyChunks place chunks tree = some tree' →
        tree' path = tree path := by
      intro tree tree' h
      apply applyChunks_frame h
      intro other hother hpath
      obtain ⟨i, hi, rfl⟩ := List.getElem_of_mem hother
      have hspec := (List.forall₂_iff_get.mp htargets).2 i hi (htargets.length_eq ▸ hi)
      have hget : targetPath (chunkHeader chunks[i]) =
          some (paths.get ⟨i, htargets.length_eq ▸ hi⟩) := hspec
      rw [hpath] at hget
      exact hnodup.1 (Option.some.inj hget ▸ List.getElem_mem _)
    show (applyChunk place chunk (base path) >>= _) = _ ↔ _
    constructor
    · intro h
      obtain ⟨content, hcontent, h⟩ := Option.bind_eq_some_iff.mp h
      have hat := hkept _ _ h
      rw [Function.update_self] at hat
      unfold overlay at hat
      rw [if_pos List.mem_cons_self] at hat
      obtain rfl := Option.some.inj hat
      refine ⟨hcontent, ?_⟩
      rw [overlay_cons, ih hnodup.2, hothers] at h
      exact h
    · intro ⟨hcontent, hrest⟩
      rw [hcontent, overlay_cons]
      exact (ih hnodup.2 _).mpr ((hothers _).mpr hrest)

end

/-! ## Patches of one file joined with empty lines -/

/-- The lines of a patch about one file; `above` stands before its `diff --git` line. -/
structure FileText where
  path : Str
  above : List Str
  header : Str
  below : List Str
  above_opens : ∀ line ∈ above, opensFile line = false
  header_opens : opensFile header = true
  below_opens : ∀ line ∈ below, opensFile line = false
  hunk_opens : ∃ line ∈ header :: below, opensHunk line = true
  target : targetPath (chunkHeader (header :: below)) = some path

namespace FileText

def chunk (file : FileText) : List Str := file.header :: file.below

def lines (file : FileText) : List Str := file.above ++ file.chunk

/-- A chunk reaches over the empty line to the header of the next file. -/
def gluedChunks : List FileText → List (List Str)
  | [] => []
  | [file] => [file.chunk]
  | file :: next :: files => (file.chunk ++ [] :: next.above) :: gluedChunks (next :: files)

lemma fileChunks_lines (file : FileText) : fileChunks file.lines = [file.chunk] := by
  have h := fileChunks_one file.above_opens file.header_opens file.below_opens []
  rw [List.append_nil, List.takeWhile_nil, List.append_nil] at h
  exact h

lemma gap_opens (next : FileText) : ∀ line ∈ [] :: next.above, opensFile line = false := by
  rw [List.forall_mem_cons]
  exact ⟨rfl, next.above_opens⟩

/-- What stands between a file and the next becomes part of the file's last hunk. -/
lemma fileChunks_gap (file next : FileText) :
    fileChunks (file.lines ++ [] :: next.above) = [file.chunk ++ [] :: next.above] := by
  have h := fileChunks_one file.above_opens file.header_opens file.below_opens
    ([] :: next.above)
  have hnone := fileChunks_of_none next.gap_opens []
  rw [List.append_nil] at hnone
  rw [hnone, List.takeWhile_eq_self_iff.mpr] at h
  · exact h
  · intro line hline
    rw [next.gap_opens line hline]
    rfl

lemma fileChunks_glued (files : List FileText) :
    fileChunks (List.intercalate [[]] (files.map lines)) = gluedChunks files := by
  induction files with
  | nil => rfl
  | cons file files ih =>
    cases files with
    | nil =>
      show fileChunks (file.lines ++ []) = _
      rw [List.append_nil]
      exact file.fileChunks_lines
    | cons next files =>
      have hjoin : List.intercalate [[]] ((file :: next :: files).map lines) =
          file.lines ++ ([] :: List.intercalate [[]] ((next :: files).map lines)) := by
        rw [List.map_cons, List.map_cons, List.intercalate_cons_cons, List.append_assoc,
          List.singleton_append]
      obtain ⟨rest, hrest⟩ : ∃ rest, List.intercalate [[]] ((next :: files).map lines) =
          next.above ++ next.header :: rest := by
        cases files with
        | nil => exact ⟨next.below, List.append_nil _⟩
        | cons last files =>
          rw [List.map_cons, List.map_cons, List.intercalate_cons_cons]
          unfold lines chunk
          simp only [List.append_assoc, List.cons_append]
          exact ⟨_, rfl⟩
      have hone := fileChunks_one file.above_opens file.header_opens file.below_opens
        ([] :: List.intercalate [[]] ((next :: files).map lines))
      have hskip : fileChunks ([] :: List.intercalate [[]] ((next :: files).map lines)) =
          fileChunks (List.intercalate [[]] ((next :: files).map lines)) := by
        rw [fileChunks]
        exact if_neg (by decide)
      rw [hskip, ih] at hone
      rw [hjoin, gluedChunks]
      refine hone.trans ?_
      rw [hrest, ← List.cons_append, takeWhile_above next.gap_opens next.header_opens]
      rfl

lemma target_append (file : FileText) (rest : List Str) :
    targetPath (chunkHeader (file.chunk ++ rest)) = some file.path := by
  unfold chunk
  rw [chunkHeader_append file.hunk_opens]
  exact file.target

lemma gluedChunks_targets (files : List FileText) :
    List.Forall₂ (fun chunk path => targetPath (chunkHeader chunk) = some path)
      (gluedChunks files) (files.map path) := by
  induction files with
  | nil => exact .nil
  | cons file files ih =>
    cases files with
    | nil => exact .cons file.target .nil
    | cons next files => exact .cons (file.target_append _) ih

section

variable {place : FilePatch → Option Str → Option Str}

lemma overlay_one (after : Str → Str) (path : Str) (base : Tree) :
    overlay after [path] base = Function.update base path (some (after path)) := by
  rw [overlay_cons]
  rfl

/-- A text with one file patch changes its file. -/
lemma applyLines_one {lines chunk : List Str} {path : Str} (h : fileChunks lines = [chunk])
    (htarget : targetPath (chunkHeader chunk) = some path) (after : Str → Str) (base : Tree) :
    applyLines place lines base = some (Function.update base path (some (after path))) ↔
      applyChunk place chunk (base path) = some (after path) := by
  unfold applyLines
  rw [h, ← overlay_one, applyChunks_iff (.cons htarget .nil) (List.nodup_singleton path),
    List.forall₂_cons]
  exact and_iff_left .nil

lemma gluedChunks_forall {after : Str → Str} {base : Tree} {files : List FileText}
    (halone : ∀ file ∈ files, applyChunk place file.chunk (base file.path) =
      some (after file.path)) :
    List.Forall₂ (fun chunk path => applyChunk place chunk (base path) = some (after path))
        (gluedChunks files) (files.map path) ↔
      ∀ pair ∈ files.zip files.tail,
        applyChunk place (pair.1.chunk ++ [] :: pair.2.above) (base pair.1.path) =
          some (after pair.1.path) := by
  induction files with
  | nil => exact iff_of_true .nil (by simp)
  | cons file files ih =>
    rw [List.forall_mem_cons] at halone
    cases files with
    | nil => exact iff_of_true (.cons halone.1 .nil) (by simp)
    | cons next files =>
      rw [gluedChunks, List.map_cons, List.forall₂_cons, ih halone.2, List.tail_cons,
        List.tail_cons, List.zip_cons_cons, List.forall_mem_cons]

/-- Joined with empty lines, patches of different files mean what they mean alone exactly when
each of them still does with the empty line and what stands above the next one behind it. -/
theorem applyLines_glued_iff {files : List FileText} (hnodup : (files.map path).Nodup)
    {after : Str → Str} {base : Tree}
    (halone : ∀ file ∈ files, applyLines place file.lines base =
      some (Function.update base file.path (some (after file.path)))) :
    applyLines place (List.intercalate [[]] (files.map lines)) base =
        some (overlay after (files.map path) base) ↔
      ∀ pair ∈ files.zip files.tail,
        applyLines place (pair.1.lines ++ [] :: pair.2.above) base =
          some (Function.update base pair.1.path (some (after pair.1.path))) := by
  have hchunks : ∀ file ∈ files, applyChunk place file.chunk (base file.path) =
      some (after file.path) := by
    intro file hfile
    exact (applyLines_one file.fileChunks_lines file.target after base).mp (halone file hfile)
  unfold applyLines at *
  rw [fileChunks_glued, applyChunks_iff (gluedChunks_targets files) hnodup,
    gluedChunks_forall hchunks]
  apply forall₂_congr
  intro pair _
  exact (applyLines_one (fileChunks_gap pair.1 pair.2) (pair.1.target_append _) after base).symm

end

end FileText

end Git
