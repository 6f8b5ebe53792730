import CodexRouter.Capsule.Store
import CodexRouter.Js.WellFormed

/-!
# What is read is what the digest names

Whatever a store answers, the bytes that are read have the digest that was asked for. So two trees
that are read under one digest are the same, unless two texts in them have one digest.
-/

open Js Runs

namespace CodexRouter.Capsule

/-! ## Reading from any store -/

section
variable {σ : Type} {store : ContentAddressedStore σ} {digest : ContentDigest} {context : Str}
  {s t : σ}

lemma eq_of_parseDigest {parsed : ContentDigest} (h : parseDigest digest = .ok parsed) :
    contentDigestSchema.Valid digest ∧ parsed = digest := Schema.parse_write_eq_ok.mp h

lemma eq_of_readVerifiedBytes {bytes : List ℕ}
    (h : readVerifiedBytes store digest context s = (.ok bytes, t)) :
    digestBytes bytes = digest := by
  unfold readVerifiedBytes at h
  obtain ⟨expected, u, hlift, hread⟩ := Comp.exists_of_bind_ok h
  have hparse := Comp.eq_of_lift_ok hlift
  rw [(eq_of_parseDigest hparse.1).2] at hread
  obtain ⟨answer, v, -, hcheck⟩ := Comp.exists_of_bind_ok hread
  cases answer with
  | none => exact nomatch hcheck
  | some answer =>
    dsimp only at hcheck
    split_ifs at hcheck with hsize hdigest
    · exact nomatch hcheck
    · exact nomatch hcheck
    · rw [← (Comp.eq_of_pure_ok hcheck).1]
      exact not_not.mp hdigest

/-- The bytes are the canonical JSON of the value. -/
lemma eq_of_decodeCanonical {α : Type} {schema : Schema α} {bytes : List ℕ} {a : α}
    (h : decodeCanonical schema context bytes = .ok a) :
    bytes = canonicalJsonBytes (schema.write a) ∧ schema.Valid a := by
  unfold decodeCanonical at h
  split at h
  · exact absurd h fail_ne_ok
  split at h
  · exact absurd h fail_ne_ok
  split at h
  · exact absurd h fail_ne_ok
  · rename_i data hread
    split_ifs at h with hbytes
    · exact absurd h fail_ne_ok
    · obtain rfl := pure_eq_ok.mp h
      exact ⟨not_not.mp hbytes, schema.valid_of_read hread⟩

lemma eq_of_readCanonicalObject {α : Type} {schema : Schema α} {a : α}
    (h : readCanonicalObject store digest schema context s = (.ok a, t)) :
    digest = digestCanonicalJson (schema.write a) ∧ schema.Valid a := by
  unfold readCanonicalObject at h
  obtain ⟨bytes, u, hbytes, h⟩ := Comp.exists_of_bind_ok h
  obtain ⟨hdecode, -⟩ := Comp.eq_of_lift_ok h
  obtain ⟨hcanonical, hvalid⟩ := eq_of_decodeCanonical hdecode
  refine ⟨?_, hvalid⟩
  rw [← eq_of_readVerifiedBytes hbytes, hcanonical]
  rfl

end

/-! ## Loaded trees -/

variable [Runtime]

/-- The files of a tree are those of its manifest, and every digest in it is right. -/
structure IsLoaded (tree : LoadedContentTree) : Prop where
  valid : contentTreeManifestSchema.Valid tree.manifest
  digest : tree.digest = digestCanonicalJson (contentTreeManifestSchema.write tree.manifest)
  entries : tree.files.map (fun file => entryOf file.toOfflineContentTreeFile file.digest) =
    tree.manifest.entries
  contents : ∀ file ∈ tree.files, digestBytes file.content = file.digest

section
variable {σ : Type} {store : ContentAddressedStore σ} {digest : ContentDigest} {context : Str}
  {s t : σ}

omit [Runtime] in
lemma eq_of_loadFile {entry : ContentTreeEntry} {file : LoadedContentTreeFile}
    (h : loadFile store context entry s = (.ok file, t)) :
    entryOf file.toOfflineContentTreeFile file.digest = entry ∧
      digestBytes file.content = file.digest := by
  unfold loadFile at h
  obtain ⟨content, u, hcontent, hpure⟩ := Comp.exists_of_bind_ok h
  rw [← (Comp.eq_of_pure_ok hpure).1]
  exact ⟨rfl, eq_of_readVerifiedBytes hcontent⟩

omit [Runtime] in
lemma eq_of_loadFiles {entries : List ContentTreeEntry} {files : List LoadedContentTreeFile}
    (h : entries.mapM (loadFile store context) s = (.ok files, t)) :
    files.map (fun file => entryOf file.toOfflineContentTreeFile file.digest) = entries ∧
      ∀ file ∈ files, digestBytes file.content = file.digest := by
  induction entries generalizing s t files with
  | nil =>
    rw [← (Comp.eq_of_pure_ok h).1]
    exact ⟨rfl, List.forall_mem_nil _⟩
  | cons entry entries ih =>
    rw [List.mapM_cons] at h
    obtain ⟨file, u, hfile, htail⟩ := Comp.exists_of_bind_ok h
    obtain ⟨rest, v, hrest, hpure⟩ := Comp.exists_of_bind_ok htail
    obtain ⟨hentry, hcontent⟩ := eq_of_loadFile hfile
    obtain ⟨hentries, hcontents⟩ := ih hrest
    rw [← (Comp.eq_of_pure_ok hpure).1, List.map_cons, hentry, hentries]
    exact ⟨rfl, List.forall_mem_cons.mpr ⟨hcontent, hcontents⟩⟩

/-- A store that lies is found out. -/
theorem isLoaded_of_loadContentTree {tree : LoadedContentTree}
    (h : loadContentTree store digest context s = (.ok tree, t)) :
    IsLoaded tree ∧ tree.digest = digest := by
  unfold loadContentTree loadContentTreeManifest at h
  obtain ⟨stored, u, hstored, hload⟩ := Comp.exists_of_bind_ok h
  obtain ⟨manifest, v, hmanifest, hparsed⟩ := Comp.exists_of_bind_ok hstored
  obtain ⟨parsed, w, hlift, hpure⟩ := Comp.exists_of_bind_ok hparsed
  obtain ⟨files, x, hfiles, hlast⟩ := Comp.exists_of_bind_ok hload
  have hdigest : parsed = digest := (eq_of_parseDigest (Comp.eq_of_lift_ok hlift).1).2
  have htree := (Comp.eq_of_pure_ok hlast).1
  rw [← (Comp.eq_of_pure_ok hpure).1, hdigest] at hfiles htree
  rw [← htree]
  obtain ⟨hnames, hvalid⟩ := eq_of_readCanonicalObject hmanifest
  obtain ⟨hentries, hcontents⟩ := eq_of_loadFiles hfiles
  exact ⟨⟨hvalid, hnames, hentries, hcontents⟩, rfl⟩

end

/-! ## One tree under one digest -/

/-- The texts whose digests stand in a tree. -/
def LoadedContentTree.texts (tree : LoadedContentTree) : List (List ℕ) :=
  canonicalJsonBytes (contentTreeManifestSchema.write tree.manifest) ::
    tree.files.map fun file => file.content

/-- Two different texts with one digest. -/
def Collide (texts texts' : List (List ℕ)) : Prop :=
  ∃ x ∈ texts, ∃ y ∈ texts', x ≠ y ∧ digestBytes x = digestBytes y

omit [Runtime] in
lemma eq_of_not_collide {texts texts' : List (List ℕ)} (h : ¬ Collide texts texts')
    {x y : List ℕ} (hx : x ∈ texts) (hy : y ∈ texts') (hdigest : digestBytes x = digestBytes y) :
    x = y := by
  by_contra hne
  exact h ⟨x, hx, y, hy, hne, hdigest⟩

omit [Runtime] in
/-- Valid values with the same canonical JSON are the same. -/
lemma canonicalJsonBytes_injOn {α : Type} {schema : Schema α} [schema.Unordered] [schema.Keyed]
    {a b : α} (ha : schema.Valid a) (hb : schema.Valid b)
    (h : canonicalJsonBytes (schema.write a) = canonicalJsonBytes (schema.write b)) : a = b :=
  Schema.stableStringify_injOn ha hb
    (utf8_injOn (Json.wellFormed_stableStringify _) (Json.wellFormed_stableStringify _) h)

omit [Runtime] in
lemma files_eq {files files' : List LoadedContentTreeFile}
    (hentries : files.map (fun file => entryOf file.toOfflineContentTreeFile file.digest) =
      files'.map fun file => entryOf file.toOfflineContentTreeFile file.digest)
    (hcontents : ∀ file ∈ files, ∀ file' ∈ files', file.digest = file'.digest →
      file.content = file'.content) : files = files' := by
  induction files generalizing files' with
  | nil => exact (List.map_eq_nil_iff.mp hentries.symm).symm
  | cons file files ih =>
    cases files' with
    | nil => exact nomatch hentries
    | cons file' files' =>
      rw [List.map_cons, List.map_cons, List.cons.injEq] at hentries
      obtain ⟨hentry, hrest⟩ := hentries
      have hcontent : file.digest = file'.digest → file.content = file'.content :=
        hcontents file List.mem_cons_self file' List.mem_cons_self
      have hfile : file = file' := by
        obtain ⟨⟨path, mode, content⟩, digest⟩ := file
        obtain ⟨⟨path', mode', content'⟩, digest'⟩ := file'
        cases hentry
        rw [show content = content' from hcontent rfl]
      rw [hfile, ih hrest]
      intro f hf f' hf'
      exact hcontents f (List.mem_cons_of_mem _ hf) f' (List.mem_cons_of_mem _ hf')

lemma IsLoaded.eq_of_digest {tree tree' : LoadedContentTree} (h : IsLoaded tree)
    (h' : IsLoaded tree') (hsame : tree.digest = tree'.digest)
    (hfree : ¬ Collide tree.texts tree'.texts) : tree = tree' := by
  have hbytes : canonicalJsonBytes (contentTreeManifestSchema.write tree.manifest) =
      canonicalJsonBytes (contentTreeManifestSchema.write tree'.manifest) := by
    apply eq_of_not_collide hfree List.mem_cons_self List.mem_cons_self
    exact h.digest.symm.trans (hsame.trans h'.digest)
  have hmanifest : tree.manifest = tree'.manifest := canonicalJsonBytes_injOn h.valid h'.valid hbytes
  have hfiles : tree.files = tree'.files := by
    apply files_eq
    · rw [h.entries, h'.entries, hmanifest]
    · intro file hfile file' hfile' hdigest
      apply eq_of_not_collide hfree (List.mem_cons_of_mem _ (List.mem_map_of_mem hfile))
        (List.mem_cons_of_mem _ (List.mem_map_of_mem hfile'))
      rw [h.contents file hfile, h'.contents file' hfile', hdigest]
  obtain ⟨⟨manifest, digest⟩, files⟩ := tree
  obtain ⟨⟨manifest', digest'⟩, files'⟩ := tree'
  cases hmanifest
  cases hsame
  cases hfiles
  rfl

end CodexRouter.Capsule
