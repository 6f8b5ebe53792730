import CodexRouter.Capsule.Contracts
import CodexRouter.Js.Strict
import CodexRouter.Kernel.Governance

/-!
# Manifests of content trees

The manifest of a content tree lists its files by path, each with the digest of its content. The
paths come in order, and no two of them name one file on a file system that folds case.
-/

open Js CodexRouter.Kernel

namespace CodexRouter.Capsule

/-! ## Digests -/

/-- `createHash("sha256").update(bytes).digest("hex")`. -/
def sha256OfBytes (bytes : List ℕ) : Str :=
  let r := Sha256.digest bytes
  [r.a, r.b, r.c, r.d, r.e, r.f, r.g, r.h].flatMap Sha256.hexWord

def digestBytes (bytes : List ℕ) : ContentDigest := ⟨sha256OfBytes bytes, bytes.length⟩

/-- `ContentDigestSchema`. -/
def contentDigestSchema : Schema ContentDigest :=
  .strictObject
    ((Fields.cons (js "algorithm") (.required (.literal "sha256")) <|
      .cons (js "hash") (.required (Schema.string.refine sha256Issues)) <|
      .cons (js "size") (.required (.countUpTo maxSafeInteger)) .nil).via
      { toFun := fun ((), hash, size, ()) => { hash, size }
        invFun := fun digest => ((), digest.hash, digest.size, ())
        left_inv := fun _ => rfl
        right_inv := fun _ => rfl })
    (by decide)

def canonicalJsonBytes (value : Json) : List ℕ := Sha256.utf8 value.stableStringify

def digestCanonicalJson (value : Json) : ContentDigest := digestBytes (canonicalJsonBytes value)

/-! ## Paths -/

/-- The issues of the paths from the `i`-th one on. -/
def pathSetIssues [Runtime] (pathPrefix : List Str) (i : ℕ) (previous : Option Str)
    (aliases : List Str) : List Str → List Issue
  | [] => []
  | path :: paths =>
    require (!previous.any fun previous => path ≤ previous) (pathPrefix ++ [Json.natText i])
        "offline capsule paths must be unique and code-unit sorted"
      ++ require (!aliases.contains (canonicalPathAlias path)) (pathPrefix ++ [Json.natText i])
        "offline capsule path alias collision"
      ++ pathSetIssues pathPrefix (i + 1) (some path) (canonicalPathAlias path :: aliases) paths

/-- `addCanonicalPathSetIssues(paths, ctx, pathPrefix)`. -/
def addCanonicalPathSetIssues [Runtime] (paths : List Str) (pathPrefix : List Str) : List Issue :=
  pathSetIssues pathPrefix 0 none [] paths

/-- `CapsulePathSchema`. -/
def capsulePathSchema [Runtime] : Schema Str :=
  Schema.nonEmptyString.refine fun value =>
    require (isCanonicalCapsulePath value) []
      "offline capsule path must be canonical and repository-relative"

/-! ## Manifests -/

structure ContentTreeEntry where
  path : Str
  mode : FileMode
  blob : ContentDigest
  deriving DecidableEq

structure ContentTreeManifest where
  entries : List ContentTreeEntry
  rootDigest : ContentDigest
  deriving DecidableEq

def fileModeSchema : Schema FileMode :=
  .enum [.regular, .executable] FileMode.text (by intro a; cases a <;> decide)

variable [Runtime]

/-- `ContentTreeEntrySchema`. -/
def contentTreeEntrySchema : Schema ContentTreeEntry :=
  .strictObject
    ((Fields.cons (js "path") (.required capsulePathSchema) <|
      .cons (js "nodeType") (.required (.literal "regular_file")) <|
      .cons (js "mode") (.required fileModeSchema) <|
      .cons (js "blob") (.required contentDigestSchema) .nil).via
      { toFun := fun (path, (), mode, blob, ()) => { path, mode, blob }
        invFun := fun entry => (entry.path, (), entry.mode, entry.blob, ())
        left_inv := fun _ => rfl
        right_inv := fun _ => rfl })
    (by
      change List.Nodup [js "path", js "nodeType", js "mode", js "blob"]
      decide)

/-- What the root digest of a tree is a digest of. -/
def rootJson (entries : List ContentTreeEntry) : Json :=
  .obj [(js "schemaVersion", .str "content-tree-root.v1"),
    (js "entries", contentTreeEntrySchema.array.write entries)]

/-- `ContentTreeManifestSchema`. -/
def contentTreeManifestSchema : Schema ContentTreeManifest :=
  (Schema.strictObject
    ((Fields.cons (js "schemaVersion") (.required (.literal "content-tree-manifest.v1")) <|
      .cons (js "entries") (.required contentTreeEntrySchema.array) <|
      .cons (js "rootDigest") (.required contentDigestSchema) .nil).via
      { toFun := fun ((), entries, rootDigest, ()) => { entries, rootDigest }
        invFun := fun manifest => ((), manifest.entries, manifest.rootDigest, ())
        left_inv := fun _ => rfl
        right_inv := fun _ => rfl })
    (by
      change List.Nodup [js "schemaVersion", js "entries", js "rootDigest"]
      decide)).refine fun manifest =>
        addCanonicalPathSetIssues (manifest.entries.map (·.path)) ["entries"]
          ++ require (manifest.rootDigest = digestCanonicalJson (rootJson manifest.entries))
            ["rootDigest"] "content tree root digest mismatch"

/-- `entries.sort((left, right) => compareCodeUnits(left.path, right.path))`. -/
def sortEntries (entries : List ContentTreeEntry) : List ContentTreeEntry :=
  entries.insertionSort fun left right => left.path ≤ right.path

def createContentTreeManifest (entriesInput : List ContentTreeEntry) :
    Result ContentTreeManifest := do
  let entries := sortEntries
    (← entriesInput.mapM fun entry =>
      contentTreeEntrySchema.parse (contentTreeEntrySchema.write entry))
  let rootDigest := digestCanonicalJson (rootJson entries)
  contentTreeManifestSchema.parse (contentTreeManifestSchema.write { entries, rootDigest })

/-! ## What is valid -/

omit [Runtime] in
lemma isSha256_sha256OfBytes (bytes : List ℕ) : isSha256 (sha256OfBytes bytes) = true :=
  isSha256_hexWords _ rfl

omit [Runtime] in
lemma valid_contentDigest {digest : ContentDigest} : contentDigestSchema.Valid digest ↔
    isSha256 digest.hash = true ∧ digest.size ≤ maxSafeInteger := by
  unfold contentDigestSchema
  rw [Schema.valid_strictObject, Fields.valid_via, Equiv.coe_fn_symm_mk, Fields.valid_cons,
    Fields.valid_cons, Fields.valid_cons]
  simp only [Slot.valid_required, Schema.valid_literal, Schema.valid_refine, Schema.valid_string,
    sha256Issues, require_eq_nil, Schema.valid_countUpTo, Fields.valid_nil, true_and, and_true]

lemma pathSetIssues_eq_nil {pathPrefix : List Str} {i : ℕ} {previous : Option Str}
    {aliases paths : List Str} : pathSetIssues pathPrefix i previous aliases paths = [] ↔
      (previous.toList ++ paths).IsChain (· < ·) ∧ (paths.map canonicalPathAlias).Nodup ∧
        aliases.Disjoint (paths.map canonicalPathAlias) := by
  induction paths generalizing i previous aliases with
  | nil => cases previous <;> simp [pathSetIssues]
  | cons path paths ih =>
    rw [pathSetIssues, List.append_eq_nil_iff, List.append_eq_nil_iff, require_eq_nil,
      require_eq_nil, ih, List.map_cons, List.nodup_cons, List.disjoint_cons_left,
      List.disjoint_cons_right]
    cases previous with
    | none => simp; tauto
    | some previous => simp [List.isChain_cons_cons]; tauto

lemma addCanonicalPathSetIssues_eq_nil {paths pathPrefix : List Str} :
    addCanonicalPathSetIssues paths pathPrefix = [] ↔
      paths.Pairwise (· < ·) ∧ (paths.map canonicalPathAlias).Nodup := by
  unfold addCanonicalPathSetIssues
  rw [pathSetIssues_eq_nil]
  simp [List.isChain_iff_pairwise]

lemma valid_capsulePath {path : Str} :
    capsulePathSchema.Valid path ↔ isCanonicalCapsulePath path = true := by
  unfold capsulePathSchema
  rw [Schema.valid_refine, Schema.valid_nonEmptyString, require_eq_nil]
  constructor
  · exact And.right
  · intro h
    refine ⟨?_, h⟩
    rintro rfl
    unfold isCanonicalCapsulePath at h
    split_ifs at h
    simp at h

omit [Runtime] in
lemma valid_fileMode (mode : FileMode) : fileModeSchema.Valid mode := Schema.valid_enum mode

lemma valid_contentTreeEntry {entry : ContentTreeEntry} : contentTreeEntrySchema.Valid entry ↔
    isCanonicalCapsulePath entry.path = true ∧ contentDigestSchema.Valid entry.blob := by
  unfold contentTreeEntrySchema
  rw [Schema.valid_strictObject, Fields.valid_via, Equiv.coe_fn_symm_mk, Fields.valid_cons,
    Fields.valid_cons, Fields.valid_cons, Fields.valid_cons]
  simp only [Slot.valid_required, valid_capsulePath, Schema.valid_literal, valid_fileMode,
    Fields.valid_nil, true_and, and_true]

/-- The entries come in order, no two of them name one file, and the root digest is theirs. -/
lemma valid_contentTreeManifest {manifest : ContentTreeManifest} :
    contentTreeManifestSchema.Valid manifest ↔
      (∀ entry ∈ manifest.entries, contentTreeEntrySchema.Valid entry) ∧
        contentDigestSchema.Valid manifest.rootDigest ∧
        (manifest.entries.map (·.path)).Pairwise (· < ·) ∧
        (manifest.entries.map fun entry => canonicalPathAlias entry.path).Nodup ∧
        manifest.rootDigest = digestCanonicalJson (rootJson manifest.entries) := by
  unfold contentTreeManifestSchema
  rw [Schema.valid_refine, Schema.valid_strictObject, Fields.valid_via, Equiv.coe_fn_symm_mk,
    Fields.valid_cons, Fields.valid_cons, Fields.valid_cons, List.append_eq_nil_iff, require_eq_nil,
    addCanonicalPathSetIssues_eq_nil, List.map_map, decide_eq_true_eq]
  simp only [Slot.valid_required, Schema.valid_literal, Schema.valid_array, Fields.valid_nil,
    true_and, and_true, and_assoc]
  rfl

instance : contentDigestSchema.Keyed := by unfold contentDigestSchema; infer_instance

instance : contentDigestSchema.Unordered := by unfold contentDigestSchema; infer_instance

instance : contentDigestSchema.Exact := by unfold contentDigestSchema; infer_instance

instance : capsulePathSchema.Keyed := inferInstanceAs (Schema.nonEmptyString.refine _).Keyed

instance : capsulePathSchema.Unordered :=
  inferInstanceAs (Schema.nonEmptyString.refine _).Unordered

instance : capsulePathSchema.Exact := inferInstanceAs (Schema.nonEmptyString.refine _).Exact

instance : fileModeSchema.Keyed := ⟨fun _ => trivial⟩

instance : fileModeSchema.Unordered where
  read_canonical {j _} _ h := by cases j <;> exact h

instance : fileModeSchema.Exact := ⟨Schema.copies_enum⟩

instance : contentTreeEntrySchema.Keyed := by unfold contentTreeEntrySchema; infer_instance

instance : contentTreeEntrySchema.Unordered := by unfold contentTreeEntrySchema; infer_instance

instance : contentTreeEntrySchema.Exact := by unfold contentTreeEntrySchema; infer_instance

instance : contentTreeManifestSchema.Keyed := by unfold contentTreeManifestSchema; infer_instance

instance : contentTreeManifestSchema.Unordered := by
  unfold contentTreeManifestSchema
  infer_instance

instance : contentTreeManifestSchema.Exact := by unfold contentTreeManifestSchema; infer_instance

omit [Runtime] in
lemma perm_sortEntries (entries : List ContentTreeEntry) : (sortEntries entries).Perm entries :=
  List.perm_insertionSort _ entries

/-- The manifest of some entries lists them in order with their root digest. -/
lemma createContentTreeManifest_eq_ok {entries : List ContentTreeEntry}
    {manifest : ContentTreeManifest} : createContentTreeManifest entries = .ok manifest ↔
      manifest = ⟨sortEntries entries, digestCanonicalJson (rootJson (sortEntries entries))⟩ ∧
        contentTreeManifestSchema.Valid manifest := by
  unfold createContentTreeManifest
  simp only [bind_eq_ok, mapM_eq_ok, Schema.parse_write_eq_ok]
  constructor
  · rintro ⟨parsed, hparsed, hvalid, hmanifest⟩
    have hsame : parsed = entries := by
      rw [← List.forall₂_eq_eq_eq]
      exact (hparsed.imp fun _ _ h => h.2.symm).flip.imp fun _ _ h => h.symm
    subst hsame
    exact ⟨hmanifest, hmanifest ▸ hvalid⟩
  · rintro ⟨rfl, hvalid⟩
    refine ⟨entries, ?_, hvalid, rfl⟩
    rw [List.forall₂_same]
    intro entry hentry
    refine ⟨?_, rfl⟩
    exact (valid_contentTreeManifest.mp hvalid).1 entry
      ((perm_sortEntries entries).mem_iff.mpr hentry)

end CodexRouter.Capsule
