import CodexRouter.Authorization.Decision
import CodexRouter.Js.JsonParse
import CodexRouter.Js.Schema

/-!
# Proposed patches

The update that an agent without an environment proposes, and the schema of its JSON text.
-/

open Js CodexRouter.Kernel

namespace CodexRouter.Proposal

def maxPatchBytes : ℕ := 256 * 1024

def maxDiffLines : ℕ := 2000

/-! ## Target paths -/

/-- What `.` does not match. -/
def isLineTerminator (c : CodeUnit) : Bool :=
  c.val == 0xa || c.val == 0xd || c.val == 0x2028 || c.val == 0x2029

/-- The part of the input that `.*` reaches from its start. -/
def reach (s : Str) : Str := s.takeWhile fun c => !isLineTerminator c

/-- What follows `^` or a slash that `.*` reaches. -/
def segmentStarts (s : Str) : List Str :=
  s :: ((List.range (reach s).length).filter fun i => s[i]? = some (cu '/')).map fun i =>
    s.drop (i + 1)

/-- The text is followed by a slash or by the end. -/
def isSegment (text : Str) (s : Str) : Bool :=
  startsWith s text && ((s.drop text.length).isEmpty || (s.drop text.length).head? = some (cu '/'))

def isSafePathUnit (c : CodeUnit) : Bool :=
  !(c.val ≤ 0x1f || c.val == 0x7f)
    && !((js "<>:\"|?*[]").contains c)

/-- `SAFE_PATH`. -/
def isSafePath (s : Str) : Bool :=
  !Authorization.hasDrivePrefix s
    && !startsWith s [cu '/']
    && !(reach s).contains (cu '\\')
    && !(segmentStarts s).any (fun rest =>
      isSegment (js ".") rest || isSegment (js "..") rest || isSegment (js ".git") rest)
    && s ≠ []
    && s.all isSafePathUnit

section
variable [Runtime]

/-- `TargetPathSchema`. -/
def targetPathSchema : Schema Str :=
  Schema.nonEmptyString.refine fun value =>
    let segments := split (cu '/') value
    require (value.length ≤ 1024) [] "String must contain at most 1024 character(s)"
      ++ require (isSafePath value
        && !includes value (js "//")
        && !endsWith value [cu '/']
        && value = Runtime.nfc value
        && !segments.any (fun segment => endsWith segment [cu '.'] || endsWith segment [cu ' '])
        && !segments.any fun segment => Runtime.toLowerCase segment = js ".git")
        [] "proposal target path is unsafe"

/-! ## Patches -/

structure NoEnvironmentProposedPatch where
  targetPath : Str
  baseSha256 : Str
  afterSha256 : Str
  unifiedDiff : Str
  deriving DecidableEq

omit [Runtime] in
def countDiffLines (diff : Str) : ℕ :=
  ((split (cu '\n') diff).filter fun line =>
    startsWith line [cu '+'] || startsWith line [cu '-']).length

omit [Runtime] in
def forbiddenMetadata : List Str :=
  [js "old mode", js "new mode", js "new file mode", js "deleted file mode", js "rename from",
    js "rename to", js "copy from", js "copy to", js "similarity index", js "dissimilarity index",
    js "GIT binary patch", js "Binary files "]

omit [Runtime] in
/-- The places of `^` with the flag `m`. -/
def lineStarts (s : Str) : List Str :=
  s :: (s.zip s.tails.tail).filterMap fun (c, rest) => if isLineTerminator c then some rest else none

omit [Runtime] in
def hasForbiddenMetadata (diff : Str) : Bool :=
  (lineStarts diff).any fun rest => forbiddenMetadata.any fun text => startsWith rest text

/-- The issues of the diff of `NoEnvironmentProposedPatchSchema`. -/
def diffIssues (diff : Str) : List Issue :=
  require (!diff.contains (cu '\x00') && (Sha256.utf8 diff).length ≤ maxPatchBytes) []
      "proposal diff is unsafe"
    ++ require (countDiffLines diff ≤ maxDiffLines) [] "proposal diff is too large"
    ++ require (!hasForbiddenMetadata diff) [] "proposal diff contains forbidden metadata"
    ++ require (!Authorization.containsCredentialLikeDiffContent diff) []
      "proposal diff contains credential-like content"

omit [Runtime] in
def sha256Schema : Schema Str := Schema.string.refine sha256Issues

/-- `NoEnvironmentProposedPatchSchema`. -/
def noEnvironmentProposedPatchSchema : Schema NoEnvironmentProposedPatch :=
  (Schema.strictObject
    ((Fields.cons (js "schemaVersion")
        (.required (.literal "codex-app-server-no-environment-proposal.v1")) <|
      .cons (js "operation") (.required (.literal "update")) <|
      .cons (js "targetPath") (.required targetPathSchema) <|
      .cons (js "baseSha256") (.required sha256Schema) <|
      .cons (js "afterSha256") (.required sha256Schema) <|
      .cons (js "unifiedDiff") (.required (Schema.nonEmptyString.refine fun diff =>
        require (diff.length ≤ maxPatchBytes) []
          "String must contain at most 262144 character(s)")) .nil).via
      { toFun := fun ((), (), targetPath, baseSha256, afterSha256, unifiedDiff, ()) =>
          { targetPath, baseSha256, afterSha256, unifiedDiff }
        invFun := fun patch => ((), (), patch.targetPath, patch.baseSha256, patch.afterSha256,
          patch.unifiedDiff, ())
        left_inv := fun _ => rfl
        right_inv := fun _ => rfl })
    (by
      change List.Nodup [js "schemaVersion", js "operation", js "targetPath", js "baseSha256",
        js "afterSha256", js "unifiedDiff"]
      decide)).refine fun patch => under "unifiedDiff" (diffIssues patch.unifiedDiff)

end

end CodexRouter.Proposal
