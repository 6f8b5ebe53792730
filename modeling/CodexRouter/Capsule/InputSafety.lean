import CodexRouter.Authorization.Decision
import CodexRouter.Capsule.Diff

/-!
# What may not be in a capsule

Texts that look like credentials, and paths of files that are known to hold some.
-/

open Js CodexRouter.Authorization

namespace CodexRouter.Capsule

/-! ## Patterns -/

/-- The units that the flags `iu` take for one another, as far as ASCII letters are among them. -/
def foldCase (c : CodeUnit) : CodeUnit :=
  if c.val = 0x17f then cu 's' else if c.val = 0x212a then cu 'k' else asciiLower c

def isLowerAlphanumeric (c : CodeUnit) : Bool := isDigit c || (0x61 ≤ c.val && c.val ≤ 0x7a)

def isUpperAlphanumeric (c : CodeUnit) : Bool := isDigit c || (0x41 ≤ c.val && c.val ≤ 0x5a)

/-- `\w`. -/
def isWordUnit (c : CodeUnit) : Bool :=
  isLowerAlphanumeric c || isUpperAlphanumeric c || c == cu '_'

/-- `\b`, between a unit and the rest. -/
def isBoundary (before : Option CodeUnit) (rest : Str) : Bool :=
  before.any isWordUnit != rest.head?.any isWordUnit

/-- The places of a text: what stands before each, and the rest. -/
def places (text : Str) : List (Option CodeUnit × Str) :=
  (none :: text.map some).zip text.tails

/-- `[body]{8,}\b`. -/
def isTokenBody (body : CodeUnit → Bool) (rest : Str) : Bool :=
  (List.range ((rest.takeWhile body).length + 1)).any fun count =>
    8 ≤ count && isBoundary rest[count - 1]? (rest.drop count)

/-- `\b(?:heads)[body]{8,}\b`. -/
def hasToken (heads : List Str) (body : CodeUnit → Bool) (text : Str) : Bool :=
  (places text).any fun (before, rest) =>
    isBoundary before rest && heads.any fun head =>
      startsWith rest head && isTokenBody body (rest.drop head.length)

/-- `\bbearer\s+[^\s]+`. -/
def hasBearer (text : Str) : Bool :=
  (places text).any fun (before, rest) =>
    isBoundary before rest && startsWith rest (js "bearer")
      && (rest.drop 6).head?.any isTrimmed && !((rest.drop 6).dropWhile isTrimmed).isEmpty

/-- `-----BEGIN(?: [A-Z0-9]+)? PRIVATE KEY-----`. -/
def hasPrivateKey (text : Str) : Bool :=
  text.tails.any fun rest =>
    let inner := rest.drop 10
    startsWith rest (js "-----BEGIN")
      && (startsWith inner (js " PRIVATE KEY-----")
        || (startsWith inner (js " ") && (inner.tail.head?.any isUpperAlphanumeric)
          && startsWith (inner.tail.dropWhile isUpperAlphanumeric) (js " PRIVATE KEY-----")))

def containsRawCredentialMaterial (text : Str) : Bool :=
  let folded := text.map foldCase
  hasToken [js "sk-", js "sk-proj-"]
      (fun c => isLowerAlphanumeric c || c == cu '_' || c == cu '-') folded
    || hasToken [js "ghp_", js "gho_", js "ghu_", js "ghs_", js "ghr_"]
      (fun c => isLowerAlphanumeric c || c == cu '_') folded
    || hasToken [js "AKIA"] isUpperAlphanumeric text
    || hasToken [js "xoxb-", js "xoxa-", js "xoxp-", js "xoxr-", js "xoxs-"]
      (fun c => isLowerAlphanumeric c || c == cu '-') folded
    || hasToken [js "npm_"] isLowerAlphanumeric folded
    || hasBearer folded
    || hasPrivateKey text

/-! ## Contents -/

/-- The units of the bytes from 0x80 to 0x9f. -/
def windows1252 : List CodeUnit :=
  [0x20ac, 0x81, 0x201a, 0x192, 0x201e, 0x2026, 0x2020, 0x2021, 0x2c6, 0x2030, 0x160, 0x2039, 0x152,
    0x8d, 0x17d, 0x8f, 0x90, 0x2018, 0x2019, 0x201c, 0x201d, 0x2022, 0x2013, 0x2014, 0x2dc, 0x2122,
    0x161, 0x203a, 0x153, 0x9d, 0x17e, 0x178]

/-- `new TextDecoder("latin1").decode(bytes)`. -/
def decodeLatin1 (bytes : List ℕ) : Str :=
  bytes.map fun byte =>
    if 0x80 ≤ byte ∧ byte ≤ 0x9f then windows1252.getD (byte - 0x80) 0 else Fin.ofNat _ byte

section
variable [Runtime]

def containsCredentialLikeText (text : Str) : Bool :=
  containsCredentialLikeDiffContent text || containsRawCredentialMaterial text

def containsCredentialLikeTreeContent (files : List OfflineContentTreeFile) : Bool :=
  files.any fun file =>
    let bytePreservingText := decodeLatin1 file.content
    let nullStrippedText := bytePreservingText.filter (· ≠ 0)
    if containsCredentialLikeText bytePreservingText then true
    else if nullStrippedText ≠ bytePreservingText && containsCredentialLikeText nullStrippedText then
      true
    else
      match decodeText file.content with
      | none => false
      | some text => if text.any isBinaryControl then false else containsCredentialLikeText text

/-! ## Values -/

mutual

/-- The values of the members are looked at, and their keys are not. -/
def containsCredentialLikeStringValue : Json → Bool
  | .str text => containsCredentialLikeText text
  | .arr items => someCredentialLikeItem items
  | .obj members => someCredentialLikeMember members
  | _ => false

def someCredentialLikeItem : List Json → Bool
  | [] => false
  | item :: items => containsCredentialLikeStringValue item || someCredentialLikeItem items

def someCredentialLikeMember : List (Str × Json) → Bool
  | [] => false
  | (_, value) :: members =>
    containsCredentialLikeStringValue value || someCredentialLikeMember members

end

/-! ## Paths -/

omit [Runtime] in
/-- `SENSITIVE_OFFLINE_FILE_TOKEN`. -/
def hasSensitiveToken (component : Str) : Bool :=
  let isJoint := fun c : CodeUnit => c == cu '.' || c == cu '_' || c == cu '-'
  (places component).any fun (before, rest) =>
    before.all isJoint
      && [js "credential", js "credentials", js "secret", js "secrets"].any fun word =>
        startsWith rest word && (rest.drop word.length).head?.all isJoint

def isSensitiveOfflineTreePath (path : Str) : Bool :=
  isSensitiveGovernedPath path
    || (split slash (Runtime.toLowerCase (Runtime.nfkc path))).any hasSensitiveToken

end

end CodexRouter.Capsule
