import CodexRouter.Capsule.Reading
import CodexRouter.Js.Ascii
import CodexRouter.Runs.StepsAt

/-!
# What is stored is loaded

A tree that was put into a store in memory is loaded from it, whatever is put into the store
afterwards. The digest of the tree depends on its files only, and not on their order.
-/

open Js Runs Comp

namespace CodexRouter.Capsule

/-! ## Blobs stay -/

/-- Every blob is kept under its hash. -/
def Grows (s t : Blobs) : Prop := ∀ hash bytes, s.get? hash = some bytes → t.get? hash = some bytes

instance : IsPreorder Blobs Grows where
  refl _ _ _ h := h
  trans _ _ _ hst htu hash bytes h := htu hash bytes (hst hash bytes h)

lemma steps_put (bytes : List ℕ) (expectedDigest : Option ContentDigest) :
    Steps Grows (inMemory.put bytes expectedDigest) := by
  show Steps Grows (InMemoryContentAddressedStore.put bytes expectedDigest)
  unfold InMemoryContentAddressedStore.put
  refine Steps.bind (Steps.lift _) fun copy => ?_
  dsimp only
  refine Steps.bind (Steps.lift _) fun _ s => ?_
  show StepsAt Grows (Comp.read _ >>= _) s
  apply StepsAt.read_bind
  split
  · exact (Steps.ite (Steps.lift _) (Steps.ite (Steps.lift _) (Steps.pure _))) s
  · -- the hash was free
    rename_i hfree
    intro hash blob hblob
    have hne : hash ≠ (digestBytes copy).hash := by
      rintro rfl
      rw [hfree] at hblob
      exact nomatch hblob
    show (s.set (digestBytes copy).hash copy).get? hash = some blob
    rw [Map.get?_set_of_ne s hne, hblob]

lemma steps_read (digest : ContentDigest) : Steps Grows (inMemory.read digest) := by
  show Steps Grows (InMemoryContentAddressedStore.read digest)
  unfold InMemoryContentAddressedStore.read
  refine Steps.bind (Steps.lift _) fun digest => ?_
  refine Steps.read_bind fun stored => ?_
  split
  · exact Steps.lift _
  · exact Steps.ite (Steps.lift _) (Steps.pure _)

lemma steps_readVerifiedBytes (digest : ContentDigest) (context : Str) :
    Steps Grows (readVerifiedBytes inMemory digest context) := by
  unfold readVerifiedBytes
  refine Steps.bind (Steps.lift _) fun expected => ?_
  refine Steps.bind (Steps.handle (steps_read expected) fun error => ?_) fun answer => ?_
  · exact Steps.ite (Steps.lift _) (Steps.lift _)
  · split
    · exact Steps.lift _
    · exact Steps.ite (Steps.lift _) (Steps.ite (Steps.lift _) (Steps.pure _))

lemma steps_readCanonicalObject {α : Type} (digest : ContentDigest) (schema : Schema α)
    (context : Str) : Steps Grows (readCanonicalObject inMemory digest schema context) :=
  Steps.bind (steps_readVerifiedBytes digest context) fun _ => Steps.lift _

/-! ## What a call has stored -/

/-- The bytes are kept under their hash. -/
def Holds (blobs : Blobs) (bytes : List ℕ) : Prop :=
  bytes.length ≤ maxSafeInteger ∧ blobs.get? (sha256OfBytes bytes) = some bytes

lemma Holds.mono {s t : Blobs} {bytes : List ℕ} (h : Holds s bytes) (hgrows : Grows s t) :
    Holds t bytes :=
  ⟨h.1, hgrows _ _ h.2⟩

lemma parseDigest_digestBytes {bytes : List ℕ} (h : bytes.length ≤ maxSafeInteger) :
    parseDigest (digestBytes bytes) = .ok (digestBytes bytes) :=
  Schema.parse_write_eq_ok.mpr
    ⟨valid_contentDigest.mpr ⟨isSha256_sha256OfBytes bytes, h⟩, rfl⟩

lemma eq_of_uint8Array {bytes copy : List ℕ} (h : uint8Array bytes = .ok copy) :
    bytes.length ≤ maxSafeInteger ∧ copy = bytes := by
  unfold uint8Array at h
  split_ifs at h with hlength
  · exact ⟨hlength, (pure_eq_ok.mp h).symm⟩
  · exact absurd h fail_ne_ok

lemma holds_of_put {bytes : List ℕ} {expectedDigest : Option ContentDigest} {s t : Blobs}
    {digest : ContentDigest} (h : inMemory.put bytes expectedDigest s = (.ok digest, t)) :
    digest = digestBytes bytes ∧ Holds t bytes := by
  replace h : InMemoryContentAddressedStore.put bytes expectedDigest s = (.ok digest, t) := h
  unfold InMemoryContentAddressedStore.put at h
  obtain ⟨copy, u, hcopy, hchecked⟩ := Comp.exists_of_bind_ok h
  obtain ⟨hlength, hsame⟩ := eq_of_uint8Array (Comp.eq_of_lift_ok hcopy).1
  rw [hsame] at hchecked
  obtain ⟨_, v, -, hread⟩ := Comp.exists_of_bind_ok hchecked
  obtain ⟨found, w, hfound, hput⟩ := Comp.exists_of_bind_ok hread
  obtain ⟨hget, hvw⟩ := Comp.eq_of_read_ok hfound
  cases found with
  | some existing =>
    dsimp only at hput
    split_ifs at hput with hconflict hcorrupt
    · exact nomatch hput
    · exact nomatch hput
    · obtain ⟨rfl, rfl⟩ := Comp.eq_of_pure_ok hput
      rw [not_not.mp hconflict, hvw] at hget
      exact ⟨rfl, hlength, hget⟩
  | none =>
    obtain ⟨_, x, hset, hpure⟩ := Comp.exists_of_bind_ok hput
    obtain ⟨rfl, rfl⟩ := Comp.eq_of_pure_ok hpure
    refine ⟨rfl, hlength, ?_⟩
    rw [← Comp.eq_of_modify_ok hset]
    exact Map.get?_set_self _ _ _

lemma readVerifiedBytes_of_holds {blobs : Blobs} {bytes : List ℕ} (h : Holds blobs bytes)
    (context : Str) :
    readVerifiedBytes inMemory (digestBytes bytes) context blobs = (.ok bytes, blobs) := by
  have hparse : (lift (parseDigest (digestBytes bytes)) : Comp Thrown Blobs _) blobs =
      (.ok (digestBytes bytes), blobs) := by
    rw [parseDigest_digestBytes h.1]
    rfl
  have hget : (Comp.read (fun blobs : Blobs => blobs.get? (digestBytes bytes).hash) :
      Comp Thrown Blobs _) blobs = (.ok (some bytes), blobs) := by
    rw [← h.2]
    rfl
  have hsize : bytes.length = (digestBytes bytes).size := rfl
  have hread : inMemory.read (digestBytes bytes) blobs = (.ok (some bytes), blobs) := by
    show InMemoryContentAddressedStore.read (digestBytes bytes) blobs = _
    unfold InMemoryContentAddressedStore.read
    rw [bind_of_ok hparse, bind_of_ok hget]
    dsimp only
    rw [if_neg (not_not.mpr rfl)]
    rfl
  unfold readVerifiedBytes
  rw [bind_of_ok hparse, bind_of_ok (handle_of_ok hread)]
  dsimp only
  rw [if_neg (not_not.mpr hsize), if_neg (not_not.mpr rfl)]
  rfl

/-- A valid object is read back from its canonical JSON. -/
lemma readCanonicalObject_of_holds {α : Type} {schema : Schema α} [schema.Unordered]
    [schema.Keyed] {a : α} {m : List (Str × Json)} (hobj : schema.write a = .obj m)
    (hvalid : schema.Valid a) {blobs : Blobs}
    (h : Holds blobs (canonicalJsonBytes (schema.write a))) (context : Str) :
    readCanonicalObject inMemory (digestCanonicalJson (schema.write a)) schema context blobs =
      (.ok a, blobs) := by
  have hdecode : decodeText (canonicalJsonBytes (schema.write a)) =
      some (schema.write a).stableStringify := by
    unfold canonicalJsonBytes
    have hwell := Json.wellFormed_stableStringify (schema.write a)
    rw [hobj, Json.stableStringify] at hwell ⊢
    exact decodeText_utf8 (by decide) hwell
  obtain ⟨raw, hparse, hread⟩ := Schema.read_stableStringify hvalid
  unfold readCanonicalObject
  rw [digestCanonicalJson, bind_of_ok (readVerifiedBytes_of_holds h context)]
  unfold decodeCanonical
  rw [hdecode]
  dsimp only
  rw [hparse]
  dsimp only
  rw [hread]
  dsimp only
  rw [if_neg (not_not.mpr rfl)]
  rfl

/-! ## Trees -/

section
variable [Runtime]

lemma steps_storeContentTree (files : List OfflineContentTreeFile)
    (reuseFrom : Option LoadedContentTree) :
    Steps Grows (storeContentTree inMemory files reuseFrom) := by
  unfold storeContentTree
  refine Steps.bind (Steps.lift _) fun copies => ?_
  refine Steps.bind (Steps.lift _) fun _ => ?_
  refine Steps.bind (Steps.lift _) fun reuseFiles => ?_
  refine Steps.bind (Steps.mapM fun file _ => ?_) fun entries => ?_
  · exact Steps.bind (steps_put _ _) fun _ => Steps.pure _
  refine Steps.bind (Steps.lift _) fun manifest => ?_
  exact Steps.bind (steps_put _ _) fun _ => Steps.pure _

lemma steps_loadContentTree (digest : ContentDigest) (context : Str) :
    Steps Grows (loadContentTree inMemory digest context) := by
  unfold loadContentTree loadContentTreeManifest
  refine Steps.bind (Steps.bind (steps_readCanonicalObject _ _ _) fun manifest => ?_)
    fun stored => Steps.bind (Steps.mapM fun entry _ => ?_) fun files => Steps.pure _
  · exact Steps.bind (Steps.lift _) fun _ => Steps.pure _
  · exact Steps.bind (steps_readVerifiedBytes _ _) fun _ => Steps.pure _

end

/-! ## Calls of a store -/

inductive StoreCall where
  | put (bytes : List ℕ) (expectedDigest : Option ContentDigest)
  | read (digest : ContentDigest)
  | storeTree (files : List OfflineContentTreeFile) (reuseFrom : Option LoadedContentTree)
  | loadTree (digest : ContentDigest) (context : Str)

/-- The blobs behind a call of a store in memory, whether it returns or throws. -/
def StoreCall.perform [Runtime] (blobs : Blobs) : StoreCall → Blobs
  | put bytes expectedDigest => (inMemory.put bytes expectedDigest blobs).2
  | read digest => (inMemory.read digest blobs).2
  | storeTree files reuseFrom => (storeContentTree inMemory files reuseFrom blobs).2
  | loadTree digest context => (loadContentTree inMemory digest context blobs).2

section
variable [Runtime]

lemma grows_perform (s : Blobs) (call : StoreCall) : Grows s (call.perform s) := by
  cases call with
  | put bytes expectedDigest => exact steps_put bytes expectedDigest s
  | read digest => exact steps_read digest s
  | storeTree files reuseFrom => exact steps_storeContentTree files reuseFrom s
  | loadTree digest context => exact steps_loadContentTree digest context s

lemma grows_calls (s : Blobs) (calls : List StoreCall) :
    Grows s (calls.foldl StoreCall.perform s) := by
  induction calls generalizing s with
  | nil => exact refl s
  | cons call calls ih => exact IsTrans.trans _ _ _ (grows_perform s call) (ih _)

/-! ## A tree that was stored -/

omit [Runtime] in
/-- A file as it is loaded. -/
def loadedFile (file : OfflineContentTreeFile) : LoadedContentTreeFile :=
  { file with digest := digestBytes file.content }

omit [Runtime] in
def storedEntry (file : OfflineContentTreeFile) : ContentTreeEntry :=
  entryOf file (digestBytes file.content)

omit [Runtime] in
def sortFiles (files : List OfflineContentTreeFile) : List OfflineContentTreeFile :=
  files.insertionSort fun left right => left.path ≤ right.path

def manifestOf (files : List OfflineContentTreeFile) : ContentTreeManifest :=
  let entries := sortEntries (files.map storedEntry)
  { entries, rootDigest := digestCanonicalJson (rootJson entries) }

lemma eq_of_snapshotFiles {aliases : List Str} {files copies : List OfflineContentTreeFile}
    (h : snapshotFiles aliases files = .ok copies) : copies = files := by
  induction files generalizing aliases copies with
  | nil => exact (pure_eq_ok.mp h).symm
  | cons file files ih =>
    unfold snapshotFiles at h
    dsimp only at h
    split_ifs at h
    · exact absurd h fail_ne_ok
    · obtain ⟨content, hcontent, hcopy⟩ := bind_eq_ok.mp h
      obtain ⟨rest, hrest, hpure⟩ := bind_eq_ok.mp hcopy
      rw [← pure_eq_ok.mp hpure, ih hrest, (eq_of_uint8Array hcontent).2]

omit [Runtime] in
lemma holds_of_storeFiles {reuse : Map Str LoadedContentTreeFile}
    {files : List OfflineContentTreeFile} {entries : List ContentTreeEntry} {s t : Blobs}
    (h : files.mapM (storeFile inMemory reuse) s = (.ok entries, t)) :
    entries = files.map storedEntry ∧ ∀ file ∈ files, Holds t file.content := by
  induction files generalizing s entries with
  | nil =>
    rw [← (Comp.eq_of_pure_ok h).1]
    exact ⟨rfl, List.forall_mem_nil _⟩
  | cons file files ih =>
    rw [List.mapM_cons] at h
    obtain ⟨entry, u, hfile, htail⟩ := Comp.exists_of_bind_ok h
    obtain ⟨rest, v, hrest, hpure⟩ := Comp.exists_of_bind_ok htail
    obtain ⟨digest, w, hput, hentry⟩ := Comp.exists_of_bind_ok hfile
    obtain ⟨hdigest, hholds⟩ := holds_of_put hput
    obtain ⟨hentries, hfiles⟩ := ih (hrest.trans (by rw [(Comp.eq_of_pure_ok hpure).2]))
    have hgrows : Grows w t := by
      have hsteps : Steps Grows (files.mapM (storeFile inMemory reuse)) :=
        Steps.mapM fun file _ => Steps.bind (steps_put _ _) fun _ => Steps.pure _
      have hlast := hsteps u
      rw [hrest, (Comp.eq_of_pure_ok hpure).2, ← (Comp.eq_of_pure_ok hentry).2] at hlast
      exact hlast
    rw [← (Comp.eq_of_pure_ok hpure).1, ← (Comp.eq_of_pure_ok hentry).1, hdigest, hentries]
    exact ⟨rfl, List.forall_mem_cons.mpr ⟨hholds.mono hgrows, hfiles⟩⟩

lemma holds_of_storeContentTree {files : List OfflineContentTreeFile}
    {reuseFrom : Option LoadedContentTree} {s t : Blobs} {stored : StoredContentTree}
    (h : storeContentTree inMemory files reuseFrom s = (.ok stored, t)) :
    stored.manifest = manifestOf files ∧ contentTreeManifestSchema.Valid stored.manifest ∧
      stored.digest = digestCanonicalJson (contentTreeManifestSchema.write stored.manifest) ∧
      Holds t (canonicalJsonBytes (contentTreeManifestSchema.write stored.manifest)) ∧
      ∀ file ∈ files, Holds t file.content := by
  unfold storeContentTree at h
  obtain ⟨copies, u, hcopies, hvalidate⟩ := Comp.exists_of_bind_ok h
  have hsame : copies = files := eq_of_snapshotFiles (Comp.eq_of_lift_ok hcopies).1
  rw [hsame] at hvalidate
  obtain ⟨_, v, -, hreuse⟩ := Comp.exists_of_bind_ok hvalidate
  obtain ⟨reuseFiles, w, -, hstore⟩ := Comp.exists_of_bind_ok hreuse
  obtain ⟨entries, x, hentries, hcreate⟩ := Comp.exists_of_bind_ok hstore
  obtain ⟨manifest, y, hmanifest, hput⟩ := Comp.exists_of_bind_ok hcreate
  obtain ⟨digest, z, hdigest, hpure⟩ := Comp.exists_of_bind_ok hput
  obtain ⟨hlist, hfiles⟩ := holds_of_storeFiles hentries
  obtain ⟨hlift, hxy⟩ := Comp.eq_of_lift_ok hmanifest
  obtain ⟨heq, hvalid⟩ := createContentTreeManifest_eq_ok.mp hlift
  obtain ⟨hnamed, hholds⟩ := holds_of_put hdigest
  obtain ⟨hstored, hzt⟩ := Comp.eq_of_pure_ok hpure
  have hgrows : Grows x t := by
    have hlast := steps_put (canonicalJsonBytes (contentTreeManifestSchema.write manifest)) none y
    rw [hdigest, hzt, ← hxy] at hlast
    exact hlast
  rw [hzt] at hholds
  rw [← hstored]
  refine ⟨?_, hvalid, hnamed, hholds, fun file hfile => (hfiles file hfile).mono hgrows⟩
  rw [heq, hlist]
  rfl

/-! ## Trees that can be stored -/

/-- The texts whose digests are taken when files are stored. -/
def treeTexts (files : List OfflineContentTreeFile) : List (List ℕ) :=
  canonicalJsonBytes (contentTreeManifestSchema.write (manifestOf files)) ::
    files.map fun file => file.content

/-- The texts fit into byte arrays. -/
def Fit (texts : List (List ℕ)) : Prop := ∀ text ∈ texts, text.length ≤ maxSafeInteger

lemma createContentTreeManifest_returns {entries : List ContentTreeEntry}
    (hvalid : ∀ entry ∈ entries, contentTreeEntrySchema.Valid entry)
    (haliases : (entries.map fun entry => canonicalPathAlias entry.path).Nodup)
    (hfit : (canonicalJsonBytes (rootJson (sortEntries entries))).length ≤ maxSafeInteger) :
    createContentTreeManifest entries =
      .ok ⟨sortEntries entries, digestCanonicalJson (rootJson (sortEntries entries))⟩ := by
  have hperm := perm_sortEntries entries
  have haliases' := ((hperm.map fun entry => canonicalPathAlias entry.path).nodup_iff).mpr haliases
  have hle : ((sortEntries entries).map (·.path)).Pairwise (· ≤ ·) :=
    List.pairwise_map.mpr (List.pairwise_insertionSort _ entries)
  have hne : ((sortEntries entries).map (·.path)).Nodup := by
    apply List.Nodup.of_map canonicalPathAlias
    rw [List.map_map]
    exact haliases'
  rw [createContentTreeManifest_eq_ok]
  refine ⟨rfl, valid_contentTreeManifest.mpr ⟨?_, ?_, ?_, haliases', rfl⟩⟩
  · exact fun entry hentry => hvalid entry (hperm.mem_iff.mp hentry)
  · exact valid_contentDigest.mpr ⟨isSha256_sha256OfBytes _, hfit⟩
  · exact (hle.and hne).imp fun h => lt_of_le_of_ne h.1 h.2

lemma snapshotFiles_returns {aliases : List Str} {files : List OfflineContentTreeFile}
    (haliases : (files.map fun file => canonicalPathAlias file.path).Nodup)
    (hapart : ∀ file ∈ files, canonicalPathAlias file.path ∉ aliases)
    (hfit : ∀ file ∈ files, file.content.length ≤ maxSafeInteger) :
    snapshotFiles aliases files = .ok files := by
  induction files generalizing aliases with
  | nil => rfl
  | cons file files ih =>
    rw [List.map_cons, List.nodup_cons] at haliases
    rw [List.forall_mem_cons] at hapart hfit
    have hrest : snapshotFiles (canonicalPathAlias file.path :: aliases) files = .ok files := by
      apply ih haliases.2 _ hfit.2
      intro other hother hmem
      rcases List.mem_cons.mp hmem with heq | hold
      · exact haliases.1 (List.mem_map.mpr ⟨other, hother, heq⟩)
      · exact hapart.2 other hother hold
    have hcopy : uint8Array file.content = .ok file.content := if_pos hfit.1
    unfold snapshotFiles
    dsimp only
    rw [if_neg (by simpa using hapart.1), hcopy, hrest]
    rfl

omit [Runtime] in
/-- The store has nothing else under the hash. -/
def Free (blobs : Blobs) (bytes : List ℕ) : Prop :=
  ∀ stored, blobs.get? (sha256OfBytes bytes) = some stored → stored = bytes

omit [Runtime] in
lemma put_of_free {blobs : Blobs} {bytes : List ℕ} (hfit : bytes.length ≤ maxSafeInteger)
    (hfree : Free blobs bytes) : ∃ t, inMemory.put bytes none blobs = (.ok (digestBytes bytes), t) ∧
      ∀ other, Free blobs other → (sha256OfBytes other = sha256OfBytes bytes → other = bytes) →
        Free t other := by
  have hcopy : (lift (uint8Array bytes) : Comp Thrown Blobs _) blobs = (.ok bytes, blobs) :=
    congrArg (·, blobs) (if_pos hfit)
  have hcheck : (lift (InMemoryContentAddressedStore.checkExpected none (digestBytes bytes)) :
      Comp Thrown Blobs _) blobs = (.ok (), blobs) := rfl
  have hget : (Comp.read (fun blobs : Blobs => blobs.get? (digestBytes bytes).hash) :
      Comp Thrown Blobs _) blobs = (.ok (blobs.get? (sha256OfBytes bytes)), blobs) := rfl
  have hput : inMemory.put bytes none blobs = _ :=
    (bind_of_ok hcopy).trans ((bind_of_ok hcheck).trans (bind_of_ok hget))
  rw [hput]
  rcases hfound : blobs.get? (sha256OfBytes bytes) with _ | stored
  · refine ⟨_, rfl, ?_⟩
    intro other hother hsep stored hstored
    rw [Map.get?_set] at hstored
    split_ifs at hstored with hhash
    · rw [← Option.some.inj hstored, hsep hhash]
    · exact hother stored hstored
  · have hsame : stored = bytes := hfree stored hfound
    refine ⟨blobs, ?_, fun other hother _ => hother⟩
    dsimp only
    rw [if_neg (not_not.mpr hsame), if_neg (by rw [hsame]; exact not_not.mpr rfl)]
    rfl

omit [Runtime] in
/-- No two of the texts have one hash. -/
def Separate (texts : List (List ℕ)) : Prop :=
  ∀ x ∈ texts, ∀ y ∈ texts, sha256OfBytes x = sha256OfBytes y → x = y

omit [Runtime] in
lemma storeFiles_returns {texts : List (List ℕ)} (hseparate : Separate texts) (hfit : Fit texts)
    {files : List OfflineContentTreeFile} (hfiles : ∀ file ∈ files, file.content ∈ texts)
    {s : Blobs} (hfree : ∀ text ∈ texts, Free s text) :
    ∃ t, files.mapM (storeFile inMemory .empty) s = (.ok (files.map storedEntry), t) ∧
      ∀ text ∈ texts, Free t text := by
  induction files generalizing s with
  | nil => exact ⟨s, rfl, hfree⟩
  | cons file files ih =>
    rw [List.forall_mem_cons] at hfiles
    obtain ⟨t, hput, hkept⟩ := put_of_free (hfit _ hfiles.1) (hfree _ hfiles.1)
    obtain ⟨u, hrest, hlast⟩ := ih hfiles.2 fun text htext =>
      hkept text (hfree text htext) fun h => hseparate text htext _ hfiles.1 h
    have hfile : storeFile inMemory .empty file s = (.ok (storedEntry file), t) := bind_of_ok hput
    refine ⟨u, ?_, hlast⟩
    rw [List.mapM_cons, bind_of_ok hfile, bind_of_ok hrest]
    rfl

/-- The manifest of the files without their digests, and with them, before its own digest. -/
def rootTexts (files : List OfflineContentTreeFile) : List (List ℕ) :=
  [canonicalJsonBytes (rootJson (sortEntries (files.map (entryOf · placeholderBlob)))),
    canonicalJsonBytes (rootJson (sortEntries (files.map storedEntry)))]

/-- Files with canonical paths that no file system takes for one another are stored, where the store
has nothing else under their hashes. -/
theorem storeContentTree_returns {files : List OfflineContentTreeFile}
    (hpaths : ∀ file ∈ files, isCanonicalCapsulePath file.path = true)
    (haliases : (files.map fun file => canonicalPathAlias file.path).Nodup)
    (hfit : Fit (rootTexts files ++ treeTexts files)) (hseparate : Separate (treeTexts files))
    {s : Blobs} (hfree : ∀ text ∈ treeTexts files, Free s text) :
    ∃ t, storeContentTree inMemory files none s = (.ok ⟨manifestOf files,
      digestCanonicalJson (contentTreeManifestSchema.write (manifestOf files))⟩, t) := by
  obtain ⟨hroots, htexts⟩ := List.forall_mem_append.mp hfit
  have hcontents : ∀ file ∈ files, file.content ∈ treeTexts files :=
    fun file hfile => List.mem_cons_of_mem _ (List.mem_map_of_mem hfile)
  have hplaceholder : contentDigestSchema.Valid placeholderBlob :=
    valid_contentDigest.mpr ⟨by decide, by decide⟩
  have hentries : ∀ blob : OfflineContentTreeFile → ContentDigest,
      (∀ file ∈ files, contentDigestSchema.Valid (blob file)) →
      ∀ entry ∈ files.map fun file => entryOf file (blob file),
        contentTreeEntrySchema.Valid entry := by
    intro blob hblob entry hentry
    obtain ⟨file, hfile, rfl⟩ := List.mem_map.mp hentry
    exact valid_contentTreeEntry.mpr ⟨hpaths file hfile, hblob file hfile⟩
  have haliased : ∀ blob : OfflineContentTreeFile → ContentDigest,
      ((files.map fun file => entryOf file (blob file)).map
        fun entry => canonicalPathAlias entry.path).Nodup := by
    intro blob
    rw [List.map_map]
    exact haliases
  have hvalidate := createContentTreeManifest_returns
    (hentries (fun _ => placeholderBlob) fun _ _ => hplaceholder) (haliased _)
    (hroots _ List.mem_cons_self)
  have hblobs : ∀ file ∈ files, contentDigestSchema.Valid (digestBytes file.content) :=
    fun file hfile => valid_contentDigest.mpr
      ⟨isSha256_sha256OfBytes _, htexts _ (hcontents file hfile)⟩
  have hmanifest : createContentTreeManifest (files.map storedEntry) = .ok (manifestOf files) :=
    createContentTreeManifest_returns (hentries _ hblobs) (haliased _)
      (hroots _ (List.mem_cons_of_mem _ List.mem_cons_self))
  obtain ⟨t, hstore, hkept⟩ := storeFiles_returns hseparate htexts hcontents hfree
  obtain ⟨u, hput, -⟩ := put_of_free (htexts _ List.mem_cons_self) (hkept _ List.mem_cons_self)
  refine ⟨u, ?_⟩
  have hsnapshot : snapshotPassiveFileArray files = .ok files :=
    snapshotFiles_returns haliases (fun _ _ => List.not_mem_nil)
      fun file hfile => htexts _ (hcontents file hfile)
  have hlift : ∀ {α : Type} {x : Result α} {a : α} (s : Blobs), x = .ok a →
      (lift x : Comp Thrown Blobs α) s = (.ok a, s) := fun s h => congrArg (·, s) h
  have hvalidated : validateContentTreeFilesBeforeStore files = .ok () := by
    unfold validateContentTreeFilesBeforeStore
    rw [hvalidate]
    rfl
  have hreuse : snapshotPassiveReuseFiles none = .ok [] := rfl
  unfold storeContentTree
  rw [bind_of_ok (hlift s hsnapshot), bind_of_ok (hlift s hvalidated),
    bind_of_ok (hlift s hreuse), List.foldl_nil, bind_of_ok hstore, bind_of_ok (hlift t hmanifest)]
  exact bind_of_ok hput

end

/-- A tree of one file. -/
def sampleFiles : List OfflineContentTreeFile := [⟨js "a", .regular, [0x61]⟩]

section
attribute [local instance] asciiRuntime

lemma separate_sampleFiles : Separate (treeTexts sampleFiles) := by
  have hheads : ((treeTexts sampleFiles).map fun text => (sha256OfBytes text).head?).Nodup := by
    decide +kernel
  intro x hx y hy h
  exact List.inj_on_of_nodup_map hheads hx hy (congrArg List.head? h)

lemma storeContentTree_sampleFiles : ∃ stored t,
    storeContentTree inMemory sampleFiles none .empty = (.ok stored, t) := by
  have hfit : ∀ text ∈ rootTexts sampleFiles ++ treeTexts sampleFiles,
      text.length ≤ maxSafeInteger := by decide +kernel
  obtain ⟨t, h⟩ := storeContentTree_returns (s := .empty) (by decide +kernel) (by decide +kernel)
    hfit separate_sampleFiles fun text _ stored h => (nomatch h)
  exact ⟨_, t, h⟩

end

/-! ## Loading what was stored -/

section
variable [Runtime]

omit [Runtime] in
lemma sortEntries_map (files : List OfflineContentTreeFile) :
    sortEntries (files.map storedEntry) = (sortFiles files).map storedEntry :=
  (List.map_insertionSort (fun left right : OfflineContentTreeFile => left.path ≤ right.path)
    (fun left right : ContentTreeEntry => left.path ≤ right.path) storedEntry files
    fun _ _ _ _ => Iff.rfl).symm

omit [Runtime] in
lemma perm_sortFiles (files : List OfflineContentTreeFile) : (sortFiles files).Perm files :=
  List.perm_insertionSort _ files

omit [Runtime] in
lemma loadFiles_of_holds {blobs : Blobs} {files : List OfflineContentTreeFile}
    (h : ∀ file ∈ files, Holds blobs file.content) (context : Str) :
    (files.map storedEntry).mapM (loadFile inMemory context) blobs =
      (.ok (files.map loadedFile), blobs) := by
  induction files with
  | nil => rfl
  | cons file files ih =>
    rw [List.forall_mem_cons] at h
    have hfile : loadFile inMemory context (storedEntry file) blobs =
        (.ok (loadedFile file), blobs) := by
      unfold loadFile
      exact bind_of_ok (readVerifiedBytes_of_holds h.1 _)
    rw [List.map_cons, List.mapM_cons, bind_of_ok hfile, bind_of_ok (ih h.2)]
    rfl

/-- A tree is loaded as it was stored, whatever the store is asked for in between. -/
theorem load_store {files : List OfflineContentTreeFile} {reuseFrom : Option LoadedContentTree}
    {s t : Blobs} {stored : StoredContentTree}
    (h : storeContentTree inMemory files reuseFrom s = (.ok stored, t)) (calls : List StoreCall)
    (context : Str) :
    loadContentTree inMemory stored.digest context (calls.foldl StoreCall.perform t) =
      (.ok { stored with files := (sortFiles files).map loadedFile },
        calls.foldl StoreCall.perform t) := by
  obtain ⟨hmanifest, hvalid, hdigest, hholds, hfiles⟩ := holds_of_storeContentTree h
  have hgrows : Grows t (calls.foldl StoreCall.perform t) := grows_calls t calls
  generalize calls.foldl StoreCall.perform t = u at hgrows ⊢
  have hread : ∀ context, readCanonicalObject inMemory stored.digest contentTreeManifestSchema
      context u = (.ok stored.manifest, u) := by
    intro context
    rw [hdigest]
    exact readCanonicalObject_of_holds rfl hvalid (hholds.mono hgrows) context
  have hparse : (lift (parseDigest stored.digest) : Comp Thrown Blobs _) u =
      (.ok stored.digest, u) := by
    rw [hdigest]
    exact congrArg (·, u) (parseDigest_digestBytes hholds.1)
  have hload : ∀ context, stored.manifest.entries.mapM (loadFile inMemory context) u =
      (.ok ((sortFiles files).map loadedFile), u) := by
    intro context
    rw [hmanifest]
    change (sortEntries (files.map storedEntry)).mapM (loadFile inMemory context) u = _
    rw [sortEntries_map]
    apply loadFiles_of_holds
    intro file hfile
    exact (hfiles file ((perm_sortFiles files).mem_iff.mp hfile)).mono hgrows
  unfold loadContentTree loadContentTreeManifest
  rw [bind_of_ok ((bind_of_ok (hread _)).trans (bind_of_ok hparse)), bind_of_ok (hload _)]
  rfl

end

section
attribute [local instance] asciiRuntime

theorem load_store_sample : ∃ (stored : StoredContentTree) (t : Blobs),
    storeContentTree inMemory sampleFiles none .empty = (.ok stored, t) ∧
      loadContentTree inMemory stored.digest (js "tree")
          ([StoreCall.put [0x62] none].foldl StoreCall.perform t) =
        (.ok { stored with files := (sortFiles sampleFiles).map loadedFile },
          [StoreCall.put [0x62] none].foldl StoreCall.perform t) := by
  obtain ⟨stored, t, h⟩ := storeContentTree_sampleFiles
  exact ⟨stored, t, h, load_store h [.put [0x62] none] (js "tree")⟩

end

/-! ## The digest of a tree -/

section
variable [Runtime]

omit [Runtime] in
lemma sortEntries_eq_of_perm {entries entries' : List ContentTreeEntry}
    (hperm : entries.Perm entries') (hpaths : (entries.map (·.path)).Nodup) :
    sortEntries entries = sortEntries entries' := by
  have hsorted : ∀ l : List ContentTreeEntry,
      (sortEntries l).Pairwise fun left right => left.path ≤ right.path :=
    fun l => List.pairwise_insertionSort _ l
  apply List.Perm.eq_of_pairwise _ (hsorted entries) (hsorted entries')
    ((perm_sortEntries entries).trans (hperm.trans (perm_sortEntries entries').symm))
  intro a b ha hb hab hba
  exact List.inj_on_of_nodup_map hpaths ((perm_sortEntries entries).mem_iff.mp ha)
    (hperm.mem_iff.mpr ((perm_sortEntries entries').mem_iff.mp hb)) (le_antisymm hab hba)

lemma content_mem_treeTexts {files : List OfflineContentTreeFile} {file : OfflineContentTreeFile}
    (h : file ∈ sortFiles files) : file.content ∈ treeTexts files :=
  List.mem_cons_of_mem _ (List.mem_map_of_mem ((perm_sortFiles files).mem_iff.mp h))

end

section
attribute [local instance] asciiRuntime

end

/-! ## One tree under one digest -/

section
variable [Runtime]

/-- Two trees that were loaded under one digest, from whatever stores, are the same, or two texts in
them collide. -/
theorem loaded_unique {σ σ' : Type} {store : ContentAddressedStore σ}
    {store' : ContentAddressedStore σ'} {digest : ContentDigest} {context context' : Str} {s t : σ}
    {s' t' : σ'} {tree tree' : LoadedContentTree}
    (h : loadContentTree store digest context s = (.ok tree, t))
    (h' : loadContentTree store' digest context' s' = (.ok tree', t')) :
    tree = tree' ∨ Collide tree.texts tree'.texts := by
  obtain ⟨hloaded, hdigest⟩ := isLoaded_of_loadContentTree h
  obtain ⟨hloaded', hdigest'⟩ := isLoaded_of_loadContentTree h'
  by_cases hfree : Collide tree.texts tree'.texts
  · exact .inr hfree
  · exact .inl (hloaded.eq_of_digest hloaded' (hdigest.trans hdigest'.symm) hfree)

end

section
attribute [local instance] asciiRuntime

theorem loaded_unique_sample : ∃ (stored : StoredContentTree) (t t' : Blobs)
    (tree tree' : LoadedContentTree),
    loadContentTree inMemory stored.digest (js "before") t = (.ok tree, t) ∧
      loadContentTree inMemory stored.digest (js "after") t' = (.ok tree', t') ∧
      (tree = tree' ∨ Collide tree.texts tree'.texts) := by
  obtain ⟨stored, t, h⟩ := storeContentTree_sampleFiles
  have hbefore := load_store h [] (js "before")
  have hafter := load_store h [.put [0x62] none] (js "after")
  exact ⟨stored, _, _, _, _, hbefore, hafter, loaded_unique hbefore hafter⟩

end

end CodexRouter.Capsule
