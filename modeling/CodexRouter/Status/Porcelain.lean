import CodexRouter.Js.Map
import CodexRouter.Preview.ChangeSet

/-!
# Git status

The two readers of `git status -z`: retain-control reads the second porcelain version, the previewer
the first. Both split at NUL and look at the first units of a record.
-/

open Js

namespace CodexRouter.Status
open Authorization Preview

def nul : CodeUnit := cu '\x00'

/-- `output.split("\0").filter((record) => record !== "")`. -/
def records (output : Str) : List Str := (split nul output).filter (· ≠ [])

/-! ## The second version -/

structure PathModes where
  head : Str
  index : Str
  worktree : Str
  deriving DecidableEq

structure PorcelainV2 where
  paths : List Str
  indexChanged : Bool
  pathModes : Map Str PathModes

/-- `([^ ]+) ` at the start of a text. -/
def readField (text : Str) : Option (Str × Str) :=
  match text.takeWhile (· ≠ cu ' '), text.dropWhile (· ≠ cu ' ') with
  | [], _ => none
  | _, [] => none
  | field, _ :: rest => some (field, rest)

/-- As many fields as given, and the text behind them. -/
def readFields : ℕ → Str → Option (List Str × Str)
  | 0, text => some ([], text)
  | n + 1, text => do
    let (field, rest) ← readField text
    let (fields, path) ← readFields n rest
    return (field :: fields, path)

/-- `/^1 ([^ ]{2}) ([^ ]+) … ([^ ]+) (.*)$/s` with this many fields, and the same of `2`. -/
def readRecord (fieldCount : ℕ) (record : Str) : Option (Str × PathModes × Str) :=
  match readFields fieldCount (record.drop 2) with
  | some (codes :: _ :: head :: index :: worktree :: _, path) =>
    if codes.length = 2 then some (codes, ⟨head, index, worktree⟩, path) else none
  | _ => none

section
variable [Runtime]

/-- The path guard of retain-control. -/
def normalizeAndAssertPath (input : Str) : Result Str :=
  let slashPath := toSlashes input
  let normalized := Js.normalize slashPath
  let parts := split slash normalized
  if Runtime.nfc input ≠ input
      || hasUnpairedUtf16Surrogate input
      || input = []
      || normalized = dot
      || normalized = dotDot
      || startsWith normalized (dotDot ++ [slash])
      || isAbsolute normalized
      || isAbsolute input
      || hasDrivePrefix input
      || startsWith slashPath [slash, slash]
      || nul ∈ input
      || cu '\n' ∈ input
      || cu '\r' ∈ input
      || parts.any (fun part => part.any isUnsafeCharacter)
      || parts.any (fun part => endsWith part "." || endsWith part " ")
      || parts.any isWindowsReserved
      || parts.any (fun part => Runtime.toLowerCase part = js ".git") then
    fail "target_path_unsafe"
  else return normalized

def parseStatusPath (rawPath : Str) : Result Str :=
  if cu '\\' ∈ rawPath then fail "porcelain_v2_path_encoding_unsupported"
  else normalizeAndAssertPath rawPath

/-- The loop over the records; a record of a rename takes the next record too. -/
def parseV2Records (state : PorcelainV2) : List Str → Result PorcelainV2
  | [] => return state
  | record :: rest =>
    if startsWith record "? " then do
      let path ← parseStatusPath (record.drop 2)
      parseV2Records { state with paths := state.paths ++ [path] } rest
    else if startsWith record "1 " then
      match readRecord 7 record with
      | none => fail "porcelain_v2_schema_drift"
      | some (codes, modes, rawPath) => do
        let path ← parseStatusPath rawPath
        parseV2Records
          { paths := state.paths ++ [path]
            indexChanged := state.indexChanged || codes.head? ≠ some (cu '.')
            pathModes := state.pathModes.set path modes } rest
    else if startsWith record "2 " then
      match readRecord 8 record, rest with
      | some (_, modes, rawPath), originalPath :: rest => do
        let path ← parseStatusPath rawPath
        let _ ← parseStatusPath originalPath
        parseV2Records
          { paths := state.paths ++ [path]
            indexChanged := true
            pathModes := state.pathModes.set path modes } rest
      | _, _ => fail "porcelain_v2_schema_drift"
    else fail "porcelain_v2_schema_drift"

def parsePorcelainV2 (output : Str) : Result PorcelainV2 := do
  let state ← parseV2Records ⟨[], false, .empty⟩ (records output)
  return { state with paths := uniqueStrings state.paths }

/-! ## The first version -/

def parsePorcelainRecord (record : Str) : Result Str :=
  if record.length < 4 ∨ record[2]? ≠ some (cu ' ') then fail "preview_git_status_schema_drift"
  else
    let rawPath := record.drop 3
    if cu '\\' ∈ rawPath then fail "preview_git_status_path_encoding_unsupported"
    else normalizeAndAssertGovernedPath rawPath

def parsePorcelainPaths (output : Str) : Result (List Str) := do
  let paths ← (records output).mapM parsePorcelainRecord
  return uniqueStrings paths

end

/-! ## What git writes -/

inductive StatusCode where
  | unmodified | modified | typeChanged | added | deleted | renamed | copied | unmerged
  deriving DecidableEq

def StatusCode.letter : StatusCode → CodeUnit
  | unmodified => cu '.'
  | modified => cu 'M'
  | typeChanged => cu 'T'
  | added => cu 'A'
  | deleted => cu 'D'
  | renamed => cu 'R'
  | copied => cu 'C'
  | unmerged => cu 'U'

/-- The first version has a space for an unmodified side. -/
def StatusCode.letterV1 (code : StatusCode) : CodeUnit :=
  if code = .unmodified then cu ' ' else code.letter

/-- A mode, an object id, a submodule state or a similarity score. -/
structure Field where
  text : Str
  ne_nil : text ≠ []
  no_space : cu ' ' ∉ text
  no_nul : nul ∉ text

structure StatusPath where
  text : Str
  ne_nil : text ≠ []
  no_nul : nul ∉ text

/-- What the records of ordinary and renamed entries begin with. -/
structure StatusFields where
  index : StatusCode
  worktree : StatusCode
  submodule : Field
  modeHead : Field
  modeIndex : Field
  modeWorktree : Field
  objectHead : Field
  objectIndex : Field

def StatusFields.modes (fields : StatusFields) : PathModes :=
  ⟨fields.modeHead.text, fields.modeIndex.text, fields.modeWorktree.text⟩

inductive StatusEntry where
  | ordinary (fields : StatusFields) (path : StatusPath)
  | renamed (fields : StatusFields) (score : Field) (path original : StatusPath)
  | untracked (path : StatusPath)

namespace StatusEntry

def path : StatusEntry → Str
  | ordinary _ path => path.text
  | renamed _ _ path _ => path.text
  | untracked path => path.text

def original : StatusEntry → Option Str
  | renamed _ _ _ original => some original.text
  | _ => none

def fields : StatusEntry → Option StatusFields
  | ordinary fields _ => some fields
  | renamed fields _ _ _ => some fields
  | untracked _ => none

end StatusEntry

/-- Each field with a space behind it. -/
def spaced (fields : List Str) : Str := fields.flatMap (· ++ [cu ' '])

/-- The fields in order. -/
def StatusFields.texts (fields : StatusFields) : List Str :=
  [fields.index.letter, fields.worktree.letter] ::
    [fields.submodule, fields.modeHead, fields.modeIndex, fields.modeWorktree, fields.objectHead,
      fields.objectIndex].map (·.text)

def recordsV2 : StatusEntry → List Str
  | .ordinary fields path => [js "1 " ++ (spaced fields.texts ++ path.text)]
  | .renamed fields score path original =>
    [js "2 " ++ (spaced (fields.texts ++ [score.text]) ++ path.text), original.text]
  | .untracked path => [js "? " ++ path.text]

def recordsV1 : StatusEntry → List Str
  | .ordinary fields path => [[fields.index.letterV1, fields.worktree.letterV1, cu ' '] ++ path.text]
  | .renamed fields _ path original =>
    [[fields.index.letterV1, fields.worktree.letterV1, cu ' '] ++ path.text, original.text]
  | .untracked path => [js "?? " ++ path.text]

/-- Records with a NUL behind each. -/
def terminated (records : List Str) : Str := records.flatMap (· ++ [nul])

/-- `--porcelain=v2 -z`. -/
def encodeV2 (entries : List StatusEntry) : Str := terminated (entries.flatMap recordsV2)

/-- `--porcelain=v1 -z`. -/
def encodeV1 (entries : List StatusEntry) : Str := terminated (entries.flatMap recordsV1)

end CodexRouter.Status
