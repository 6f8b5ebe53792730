import CodexRouter.Capsule.Tree
import CodexRouter.Js.Map
import CodexRouter.Js.Utf8
import CodexRouter.Runs.Comp

/-!
# The content-addressed store

A store keeps bytes under their digest. What it hands out is checked against the digest again, so a
store that lies is found out.
-/

open Js Runs

namespace CodexRouter.Capsule

/-! ## Stores -/

/-- A store; what `read` returns may be no byte array. -/
structure ContentAddressedStore (σ : Type) where
  put : List ℕ → Option ContentDigest → Comp Thrown σ ContentDigest
  read : ContentDigest → Comp Thrown σ (Option (List ℕ))

/-- `new Uint8Array(bytes)`. -/
def uint8Array (bytes : List ℕ) : Result (List ℕ) :=
  if bytes.length ≤ maxSafeInteger then return bytes else fail "Invalid typed array length"

/-- `ContentDigestSchema.parse(digest)`. -/
def parseDigest (digest : ContentDigest) : Result ContentDigest :=
  contentDigestSchema.parse (contentDigestSchema.write digest)

/-- The blobs of a store in memory, by hash. -/
abbrev Blobs := Map Str (List ℕ)

namespace InMemoryContentAddressedStore

/-- Whether the digest that a caller expects is the digest. -/
def checkExpected (expectedDigest : Option ContentDigest) (digest : ContentDigest) : Result Unit :=
  match expectedDigest with
  | none => return
  | some expectedDigest => do
    if (← parseDigest expectedDigest) ≠ digest then fail "offline_cas_expected_digest_mismatch"

def put (bytesInput : List ℕ) (expectedDigest : Option ContentDigest) :
    Comp Thrown Blobs ContentDigest := do
  let bytes ← Comp.lift (uint8Array bytesInput)
  let digest := digestBytes bytes
  Comp.lift (checkExpected expectedDigest digest)
  match ← Comp.read (·.get? digest.hash) with
  | some existing =>
    if existing ≠ bytes then Comp.lift (fail "offline_cas_digest_conflict")
    else if digestBytes existing ≠ digest then
      Comp.lift (fail "offline_cas_existing_content_corrupt")
    else return digest
  | none =>
    Comp.modify (·.set digest.hash bytes)
    return digest

def read (digestInput : ContentDigest) : Comp Thrown Blobs (Option (List ℕ)) := do
  let digest ← Comp.lift (parseDigest digestInput)
  match ← Comp.read (·.get? digest.hash) with
  | none => Comp.lift (fail "offline_cas_content_missing")
  | some stored =>
    if digestBytes stored ≠ digest then Comp.lift (fail "offline_cas_content_corrupt")
    else return some stored

end InMemoryContentAddressedStore

/-- `createInMemoryContentAddressedStore()`. -/
def inMemory : ContentAddressedStore Blobs where
  put := InMemoryContentAddressedStore.put
  read := InMemoryContentAddressedStore.read

/-! ## Reading -/

section
variable {σ : Type} (store : ContentAddressedStore σ)

def readVerifiedBytes (digestInput : ContentDigest) (context : Str) : Comp Thrown σ (List ℕ) := do
  let expectedDigest ← Comp.lift (parseDigest digestInput)
  let bytes ← Comp.handle (store.read expectedDigest) fun error =>
    if error = .error "offline_cas_content_missing" then
      Comp.lift (fail (context ++ js "_missing"))
    else Comp.lift (fail (context ++ js "_read_failed"))
  match bytes with
  | none => Comp.lift (fail (context ++ js "_non_bytes"))
  | some bytes =>
    if bytes.length ≠ expectedDigest.size then
      Comp.lift (fail (context ++ js "_digest_mismatch"))
    else if digestBytes bytes ≠ expectedDigest then
      Comp.lift (fail (context ++ js "_digest_mismatch"))
    else return bytes

/-- The value whose canonical JSON the bytes are. -/
def decodeCanonical {α : Type} (schema : Schema α) (context : Str) (bytes : List ℕ) : Result α :=
  match decodeText bytes with
  | none => fail (context ++ js "_utf8_invalid")
  | some text =>
    match Json.parse? text with
    | none => fail (context ++ js "_json_invalid")
    | some raw =>
      match schema.read raw with
      | .error _ => fail (context ++ js "_schema_invalid")
      | .ok data =>
        if bytes ≠ canonicalJsonBytes (schema.write data) then
          fail (context ++ js "_noncanonical_bytes")
        else return data

def readCanonicalObject {α : Type} (digest : ContentDigest) (schema : Schema α) (context : Str) :
    Comp Thrown σ α := do
  let bytes ← readVerifiedBytes store digest context
  Comp.lift (decodeCanonical schema context bytes)

end

/-! ## Trees -/

structure StoredContentTree where
  manifest : ContentTreeManifest
  digest : ContentDigest
  deriving DecidableEq

structure LoadedContentTree extends StoredContentTree where
  files : List LoadedContentTreeFile
  deriving DecidableEq

variable [Runtime]

/-- The copies of the files whose aliases are not among these. -/
def snapshotFiles (aliases : List Str) :
    List OfflineContentTreeFile → Result (List OfflineContentTreeFile)
  | [] => return []
  | file :: files => do
    let pathAlias := canonicalPathAlias file.path
    if aliases.contains pathAlias then fail "offline_capsule_tree_path_alias_collision"
    else
      let content ← uint8Array file.content
      return { file with content } :: (← snapshotFiles (pathAlias :: aliases) files)

/-- `snapshotPassiveFileArray(input)`. -/
def snapshotPassiveFileArray (input : List OfflineContentTreeFile) :
    Result (List OfflineContentTreeFile) := snapshotFiles [] input

omit [Runtime] in
/-- `snapshotPassiveReuseFiles(input)`. -/
def snapshotPassiveReuseFiles (input : Option LoadedContentTree) :
    Result (List LoadedContentTreeFile) :=
  ((input.map (·.files)).getD []).mapM fun file =>
    match parseDigest file.digest, uint8Array file.content with
    | .error _, _ => fail "offline_capsule_reuse_file_invalid"
    | .ok digest, content => return { file with digest, content := ← content }

omit [Runtime] in
def placeholderBlob : ContentDigest := ⟨List.replicate 64 (cu '0'), 0⟩

omit [Runtime] in
def entryOf (file : OfflineContentTreeFile) (blob : ContentDigest) : ContentTreeEntry :=
  { path := file.path, mode := file.mode, blob }

def validateContentTreeFilesBeforeStore (files : List OfflineContentTreeFile) : Result Unit := do
  let _ ← createContentTreeManifest (files.map (entryOf · placeholderBlob))

section
variable {σ : Type} (store : ContentAddressedStore σ)

omit [Runtime] in
/-- The blob of a file; where the tree to reuse has the file, its digest is expected. -/
def storeFile (reuseEntries : Map Str LoadedContentTreeFile) (file : OfflineContentTreeFile) :
    Comp Thrown σ ContentTreeEntry := do
  let reusable := (reuseEntries.get? file.path).filter fun reusable =>
    reusable.mode = file.mode && reusable.content = file.content
  let blob ← store.put file.content (reusable.map (·.digest))
  return entryOf file blob

def storeContentTree (filesInput : List OfflineContentTreeFile)
    (reuseFrom : Option LoadedContentTree) : Comp Thrown σ StoredContentTree := do
  let files ← Comp.lift (snapshotPassiveFileArray filesInput)
  Comp.lift (validateContentTreeFilesBeforeStore files)
  let reuseFiles ← Comp.lift (snapshotPassiveReuseFiles reuseFrom)
  let reuseEntries := reuseFiles.foldl (fun entries file => entries.set file.path file) .empty
  let entries ← files.mapM (storeFile store reuseEntries)
  let manifest ← Comp.lift (createContentTreeManifest entries)
  let digest ← store.put (canonicalJsonBytes (contentTreeManifestSchema.write manifest)) none
  return { manifest, digest }

def loadContentTreeManifest (digest : ContentDigest) (context : Str) :
    Comp Thrown σ StoredContentTree := do
  let manifest ← readCanonicalObject store digest contentTreeManifestSchema
    (js "offline_capsule_" ++ context ++ js "_manifest")
  return { manifest, digest := ← Comp.lift (parseDigest digest) }

omit [Runtime] in
def loadFile (context : Str) (entry : ContentTreeEntry) : Comp Thrown σ LoadedContentTreeFile := do
  let content ← readVerifiedBytes store entry.blob (js "offline_capsule_" ++ context ++ js "_blob")
  return { path := entry.path, mode := entry.mode, digest := entry.blob, content }

def loadContentTree (digest : ContentDigest) (context : Str) :
    Comp Thrown σ LoadedContentTree := do
  let storedTree ← loadContentTreeManifest store digest context
  let files ← storedTree.manifest.entries.mapM (loadFile store context)
  return { storedTree with files }

end

end CodexRouter.Capsule
