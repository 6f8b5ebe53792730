import CodexRouter.Js.Lines
import CodexRouter.Provider.Issuance

/-!
# Diffs and the patch guard

The executor of workspace writes makes a diff of the contents of its targets, and the guard reads
the text of a diff line by line.
-/

open Js CodexRouter.Kernel CodexRouter.Provider

namespace CodexRouter.Guard

/-! ## Making a diff -/

/-- The contents of paths; `none` stands for an absent file. -/
abbrev Contents := Map Str (Option Str)

/-- `contents.get(path) ?? null`. -/
def contentOf (contents : Contents) (path : Str) : Option Str := (contents.get? path).join

/-- `splitPatchLines(value)`. -/
def splitPatchLines (value : Str) : List Str :=
  if value.length = 0 then [[]]
  else if endsWith value "\n" then split newLine value.dropLast
  else split newLine value

/-- The lines of an absent content are none. -/
def patchLines (content : Option Str) : List Str := (content.map splitPatchLines).getD []

def gitLine (path : Str) : Str := js "diff --git a/" ++ path ++ js " b/" ++ path

def afterLine (path : Str) : Str := js "+++ b/" ++ path

/-- The lines above the contents. -/
def fileHeader (path : Str) (before after : Option Str) : List Str :=
  gitLine path ::
    (match before with
      | none => [js "new file mode 100644", js "--- /dev/null"]
      | some _ => [js "--- a/" ++ path])
    ++ (match after with
      | none => [js "deleted file mode 100644", js "+++ /dev/null"]
      | some _ => [afterLine path])
    ++ [js "@@"]

def removedLine (line : Str) : Str := cu '-' :: line

def addedLine (line : Str) : Str := cu '+' :: line

/-- The lines of both contents with their signs. -/
def signedLines (before after : Option Str) : List Str :=
  (patchLines before).map removedLine ++ (patchLines after).map addedLine

/-- The chunks of one target. -/
def fileChunks (path : Str) (before after : Option Str) : List Str :=
  if before = after then [] else fileHeader path before after ++ signedLines before after

def createUnifiedDiffFromContents (targetFiles : List Str) (beforeContents afterContents : Contents) :
    Str :=
  join newLine (targetFiles.flatMap fun path =>
    fileChunks path (contentOf beforeContents path) (contentOf afterContents path))

/-! ## Reading paths -/

/-- What `.` does not match. -/
def isLineTerminator (c : CodeUnit) : Bool :=
  c = newLine || c = carriageReturn || c.val = 0x2028 || c.val = 0x2029

/-- `/^"|"$/g`. -/
def stripQuotes (path : Str) : Str :=
  let rest := if path.head? = some (cu '"') then path.tail else path
  if rest.getLast? = some (cu '"') then rest.dropLast else rest

def normalizeDiffPath (path : Str) : Option Str :=
  let unquoted := stripQuotes path
  let withoutPrefix :=
    if startsWith unquoted "a/" || startsWith unquoted "b/" then unquoted.drop 2 else unquoted
  if withoutPrefix.length = 0 then none else some (toSlashes withoutPrefix)

/-- The second group of `/^(.+) b\/(.+)$/`: the first group is as long as it can be. -/
def lastGroup (names : Str) : Option Str :=
  ((names.tails.filter fun t =>
    startsWith t " b/" && 3 < t.length && t.length < names.length).getLast?).map (·.drop 3)

def readDiffGitPath (line : Str) : Option Str :=
  if startsWith line "diff --git a/" then
    let names := line.drop (js "diff --git a/").length
    if names.any isLineTerminator then none else (lastGroup names).bind normalizeDiffPath
  else none

def readDiffHeaderPath (line : Str) : Option Str :=
  if startsWith line "+++ " then
    let rawPath := line.drop (js "+++ ").length
    if rawPath = [] || rawPath.any isLineTerminator then none
    else if rawPath = js "/dev/null" then none
    else normalizeDiffPath rawPath
  else none

/-- `readDiffGitPath(line) ?? readDiffHeaderPath(line)`. -/
def diffPath (line : Str) : Option Str := (readDiffGitPath line).or (readDiffHeaderPath line)

/-! ## Inspecting a diff -/

structure WorkspaceWriteDiffFileSummary where
  path : Str
  addedLines : ℕ
  removedLines : ℕ
  changedLines : ℕ

structure WorkspaceWriteDiffInspection where
  patchHash : Str
  changedFiles : List WorkspaceWriteDiffFileSummary
  changedFileCount : ℕ
  diffLineCount : ℕ
  secretMarkerCount : ℕ

/-- The checks of `WorkspaceWriteDiffInspectionSchema` that the types leave. -/
def inspectionIssues (inspection : WorkspaceWriteDiffInspection) : List Issue :=
  under "patchHash" (require (isDigest inspection.patchHash) [] "Invalid")
    ++ under "changedFiles" (each (fun file => under "path" (nonEmpty file.path))
      inspection.changedFiles)

/-- What the loop over the lines keeps. -/
structure Inspecting where
  files : Map Str WorkspaceWriteDiffFileSummary
  currentPath : Option Str
  secretMarkerCount : ℕ

def ensureDiffFile (files : Map Str WorkspaceWriteDiffFileSummary) (path : Str) :
    Map Str WorkspaceWriteDiffFileSummary :=
  if files.has path then files else files.set path ⟨path, 0, 0, 0⟩

/-- A line of the content that is added or removed, as the guard tells it. -/
def isAdded (line : Str) : Bool := startsWith line "+" && !startsWith line "+++"

def isRemoved (line : Str) : Bool := startsWith line "-" && !startsWith line "---"

def countLine (files : Map Str WorkspaceWriteDiffFileSummary) (path line : Str) :
    Map Str WorkspaceWriteDiffFileSummary :=
  if isAdded line then
    (ensureDiffFile files path).modify path fun summary =>
      { summary with
        addedLines := summary.addedLines + 1, changedLines := summary.changedLines + 1 }
  else if isRemoved line then
    (ensureDiffFile files path).modify path fun summary =>
      { summary with
        removedLines := summary.removedLines + 1, changedLines := summary.changedLines + 1 }
  else files

section

variable (redactText : Str → Str)

def lineHasSecretLikeContent (line : Str) : Bool := redactText line ≠ line

/-- One turn of the loop. -/
def inspectLine (state : Inspecting) (line : Str) : Inspecting :=
  match diffPath line with
  | some path =>
    { state with files := ensureDiffFile state.files path, currentPath := some path }
  | none =>
    let secretMarkerCount :=
      if lineHasSecretLikeContent redactText line then state.secretMarkerCount + 1
      else state.secretMarkerCount
    match state.currentPath with
    | none => { state with secretMarkerCount }
    | some path => { state with files := countLine state.files path line, secretMarkerCount }

variable [Runtime] [Collation]

def inspectWorkspaceWriteUnifiedDiff (unifiedDiff : Str) : Result WorkspaceWriteDiffInspection :=
  let state := (unifiedLines unifiedDiff).foldl (inspectLine redactText) ⟨.empty, none, 0⟩
  let changedFiles := (state.files.values.filter fun file => file.changedLines > 0).insertionSort
    fun left right => localeLe left.path right.path
  parse inspectionIssues
    { patchHash := Runtime.sha256 unifiedDiff
      changedFiles
      changedFileCount := changedFiles.length
      diffLineCount := (changedFiles.map (·.changedLines)).sum
      secretMarkerCount := state.secretMarkerCount }

/-! ## The guard -/

omit [Runtime] [Collation] in
/-- `WorkspaceWriteGuardPermit`. -/
inductive GuardPermit where
  | v1 (permit : WorkspaceWriteProviderExecutionPermit)
  | v2 (permit : WorkspaceWriteProviderExecutionPermitV2)

def GuardPermit.bounds : GuardPermit → WriteBounds
  | v1 permit => permit.toWriteBounds
  | v2 permit => permit.toWriteBounds

def GuardPermit.status : GuardPermit → PermitStatus
  | v1 permit => permit.status
  | v2 permit => permit.status

/-- `WorkspaceWriteGuardPermitSchema.parse(permit)`: the first version is tried first. -/
def parseGuardPermit (permit : Json) : Result GuardPermit :=
  match workspaceWriteProviderExecutionPermitSchema.read permit with
  | .ok permit => .ok (.v1 permit)
  | .error _ =>
    match workspaceWriteProviderExecutionPermitV2Schema.read permit with
    | .ok permit => .ok (.v2 permit)
    | .error _ => .error (.schema (issue [] "Invalid input"))

structure WorkspaceWritePatchGuardSummary extends WorkspaceWriteDiffInspection where
  maxChangedFiles : Js.Num
  maxDiffLines : Js.Num
  targetFiles : List Str

structure WorkspaceWritePatchGuardResult where
  ok : Bool
  status : Str
  reasons : List Str
  summary : WorkspaceWritePatchGuardSummary

/-- The reasons against a diff. -/
def patchGuardReasons (permit : GuardPermit) (inspection : WorkspaceWriteDiffInspection) :
    List Str :=
  distinct
    (reasonIf (permit.status ≠ .approved)
        (js "workspace_write_patch_guard_permit_not_approved:" ++ permit.status.text)
      ++ reasonIf (inspection.changedFileCount = 0)
        "workspace_write_patch_guard_changed_files_required"
      ++ reasonIf (permit.bounds.maxChangedFiles.exceededBy inspection.changedFileCount)
        "workspace_write_patch_guard_changed_files_exceed_max"
      ++ reasonIf (permit.bounds.maxDiffLines.exceededBy inspection.diffLineCount)
        "workspace_write_patch_guard_diff_lines_exceed_max"
      ++ inspection.changedFiles.flatMap (fun file =>
        reasonIf (!isSafeWorkspaceRelativeFilePath file.path)
            "workspace_write_patch_guard_changed_file_out_of_bounds"
          ++ reasonIf (file.path ∉ permit.bounds.targetFiles)
            (js "workspace_write_patch_guard_changed_file_not_permitted:" ++ file.path))
      ++ reasonIf (inspection.secretMarkerCount > 0)
        "workspace_write_patch_guard_secret_like_content")

def evaluateWorkspaceWritePatchGuard (permitInput : Json) (unifiedDiff : Str) :
    Result WorkspaceWritePatchGuardResult := do
  let permit ← parseGuardPermit permitInput
  let inspection ← inspectWorkspaceWriteUnifiedDiff redactText unifiedDiff
  let uniqueReasons := patchGuardReasons permit inspection
  parse (fun result => under "summary" (inspectionIssues result.summary.toWorkspaceWriteDiffInspection))
    { ok := uniqueReasons.length = 0
      status := if uniqueReasons.length = 0 then js "passed" else js "blocked"
      reasons := uniqueReasons
      summary :=
        { inspection with
          maxChangedFiles := permit.bounds.maxChangedFiles
          maxDiffLines := permit.bounds.maxDiffLines
          targetFiles := permit.bounds.targetFiles } }

end

end CodexRouter.Guard
