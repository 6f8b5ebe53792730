import CodexRouter.Capsule.Comparison

/-!
# What a verified candidate is

The verifier answers with a change set only where the receipt is bound to its manifest and in time,
both trees are those that are named, and the one is an edit of the other within the limits of the
manifest.
-/

open Js Runs CodexRouter.Kernel

namespace CodexRouter.Capsule

variable [Runtime]

/-! ## Conditions -/

omit [Runtime] in
/-- The receipt is one for the capsule, and its cleanup succeeded. -/
structure Bound (manifest : OfflineExecutionCapsuleManifest) (receipt : OfflineOutputTreeReceipt) :
    Prop where
  capsuleId : receipt.capsuleId = manifest.capsuleId
  manifestHash : receipt.manifestHash = manifest.manifestHash
  taskDigest : receipt.taskDigest = manifest.taskDigest
  inputRoot : receipt.inputRoot = manifest.inputRoot
  repository : receipt.repository = manifest.repository
  baseHead : receipt.baseHead = manifest.baseHead
  correlation : receipt.correlation = manifest.correlation
  nonce : receipt.nonce = manifest.nonce
  cleanup : receipt.cleanup = .succeeded

/-- The work began and ended while the capsule was valid, and it still is. -/
def Timely (manifest : OfflineExecutionCapsuleManifest) (receipt : OfflineOutputTreeReceipt)
    (now : Str) : Prop :=
  ∃ issuedAt expiresAt startedAt completedAt verifiedAt : ℤ,
    Runtime.dateParse manifest.issuedAt = some issuedAt ∧
    Runtime.dateParse manifest.expiresAt = some expiresAt ∧
    Runtime.dateParse receipt.startedAt = some startedAt ∧
    Runtime.dateParse receipt.completedAt = some completedAt ∧
    Runtime.dateParse now = some verifiedAt ∧
    issuedAt < expiresAt ∧ issuedAt ≤ startedAt ∧ startedAt ≤ completedAt ∧
    completedAt ≤ verifiedAt ∧ verifiedAt ≤ expiresAt

lemma timestampReasons_eq_nil {manifest : OfflineExecutionCapsuleManifest}
    {receipt : OfflineOutputTreeReceipt} {now : Str} :
    timestampReasons manifest receipt now = [] ↔ Timely manifest receipt now := by
  unfold timestampReasons Timely
  split
  · rename_i issuedAt expiresAt startedAt completedAt verifiedAt hi he hs hc hv
    rw [hi, he, hs, hc, hv]
    constructor
    · intro h
      split_ifs at h with horder
      rw [reasonIf_eq_nil] at h
      simp only [Bool.or_eq_true, decide_eq_true_eq, not_or, not_le, not_lt] at horder
      simp only [Bool.or_eq_false_iff, decide_eq_false_iff_not, not_lt] at h
      refine ⟨issuedAt, expiresAt, startedAt, completedAt, verifiedAt, rfl, rfl, rfl, rfl, rfl, ?_⟩
      omega
    · rintro ⟨_, _, _, _, _, hi', he', hs', hc', hv', horder⟩
      cases hi'
      cases he'
      cases hs'
      cases hc'
      cases hv'
      rw [if_neg, reasonIf_eq_nil]
      · simp only [Bool.or_eq_false_iff, decide_eq_false_iff_not, not_lt]
        omega
      · simp only [Bool.or_eq_true, decide_eq_true_eq, not_or, not_le, not_lt]
        omega
  · rename_i hnone
    constructor
    · intro h
      exact nomatch h
    · rintro ⟨_, _, _, _, _, hi, he, hs, hc, hv, -⟩
      exact absurd hv (hnone _ _ _ _ _ hi he hs hc)

omit [Runtime] in
lemma sameCanonicalJson_iff {α : Type} {schema : Schema α} [schema.Unordered] [schema.Keyed]
    {a b : α} (ha : schema.Valid a) (hb : schema.Valid b) :
    sameCanonicalJson (schema.write a) (schema.write b) = true ↔ a = b := by
  unfold sameCanonicalJson
  rw [decide_eq_true_eq]
  constructor
  · exact Schema.stableStringify_injOn ha hb
  · intro h
    rw [h]

/-! ## Valid manifests and receipts -/

/-- What a manifest that was read is known to have. -/
lemma valid_manifest {manifest : OfflineExecutionCapsuleManifest}
    (h : offlineExecutionCapsuleManifestSchema.Valid manifest) :
    isSha256 manifest.manifestHash = true ∧ repositoryIdentitySchema.Valid manifest.repository ∧
      correlationSchema.Valid manifest.correlation ∧
      canonicalTargetPathsSchema.Valid manifest.allowedTargets := by
  unfold offlineExecutionCapsuleManifestSchema at h
  rw [Schema.valid_refine, Schema.valid_strictObject, Fields.valid_via, Equiv.coe_fn_symm_mk,
    Fields.valid_cons] at h
  obtain ⟨⟨hhash, hcontent⟩, -⟩ := h
  unfold manifestContentFields at hcontent
  rw [Fields.valid_via, Equiv.coe_fn_symm_mk] at hcontent
  simp only [Fields.valid_cons, Slot.valid_required] at hcontent
  exact ⟨valid_sha256.mp hhash, hcontent.2.2.2.2.2.1, hcontent.2.2.2.2.2.2.2.1,
    hcontent.2.2.2.2.2.2.2.2.1⟩

omit [Runtime] in
/-- What a receipt that was read is known to have. -/
lemma valid_receipt {receipt : OfflineOutputTreeReceipt}
    (h : offlineOutputTreeReceiptSchema.Valid receipt) :
    repositoryIdentitySchema.Valid receipt.repository ∧
      correlationSchema.Valid receipt.correlation ∧
      contentDigestSchema.Valid receipt.outputRoot := by
  unfold offlineOutputTreeReceiptSchema at h
  rw [Schema.valid_refine, Schema.valid_strictObject, Fields.valid_via, Equiv.coe_fn_symm_mk,
    Fields.valid_cons] at h
  obtain ⟨⟨-, hcontent⟩, -⟩ := h
  unfold receiptContentFields at hcontent
  rw [Fields.valid_via, Equiv.coe_fn_symm_mk] at hcontent
  simp only [Fields.valid_cons, Slot.valid_required] at hcontent
  exact ⟨hcontent.2.2.2.2.2.2.2.2.1, hcontent.2.2.2.2.2.2.2.2.2.2.1, hcontent.2.2.2.2.2.2.2.1⟩

lemma collectBindingReasons_eq_nil {manifest : OfflineExecutionCapsuleManifest}
    {receipt : OfflineOutputTreeReceipt} {now : Str}
    (hmanifest : offlineExecutionCapsuleManifestSchema.Valid manifest)
    (hreceipt : offlineOutputTreeReceiptSchema.Valid receipt) :
    collectBindingReasons manifest receipt now = [] ↔
      Bound manifest receipt ∧ Timely manifest receipt now := by
  obtain ⟨-, hrepository, hcorrelation, -⟩ := valid_manifest hmanifest
  obtain ⟨hrepository', hcorrelation', -⟩ := valid_receipt hreceipt
  unfold collectBindingReasons
  rw [distinct_eq_nil]
  simp only [List.append_eq_nil_iff, reasonIf_eq_nil, decide_eq_false_iff_not, not_not,
    Bool.not_eq_false', sameCanonicalJson_iff hrepository' hrepository,
    sameCanonicalJson_iff hcorrelation' hcorrelation, timestampReasons_eq_nil]
  constructor
  · rintro ⟨⟨⟨⟨⟨⟨⟨⟨⟨hid, hhash⟩, htask⟩, hroot⟩, hrepo⟩, hbase⟩, hcorr⟩, hnonce⟩, hclean⟩, htime⟩
    exact ⟨⟨hid, hhash, htask, hroot, hrepo, hbase, hcorr, hnonce, hclean⟩, htime⟩
  · rintro ⟨hbound, htime⟩
    exact ⟨⟨⟨⟨⟨⟨⟨⟨⟨hbound.capsuleId, hbound.manifestHash⟩, hbound.taskDigest⟩, hbound.inputRoot⟩,
      hbound.repository⟩, hbound.baseHead⟩, hbound.correlation⟩, hbound.nonce⟩, hbound.cleanup⟩,
      htime⟩

/-! ## Candidates -/

omit [Runtime] in
lemma blobsFit_iff {remainingBytes : ℕ} {entries : List ContentTreeEntry} :
    blobsFit remainingBytes entries = true ↔
      (entries.map (·.blob.size)).sum ≤ remainingBytes := by
  induction entries generalizing remainingBytes with
  | nil => simp [blobsFit]
  | cons entry entries ih =>
    rw [blobsFit, Bool.and_eq_true, decide_eq_true_eq, ih, List.map_cons, List.sum_cons]
    omega

/-- What the verifier reads: the manifest of each tree, and then the tree. -/
structure Candidate where
  task : CapsuleTaskContract
  inputManifest : ContentTreeManifest
  outputManifest : ContentTreeManifest
  inputTree : LoadedContentTree
  outputTree : LoadedContentTree

/-- What was read is what the digests name. -/
structure Candidate.Named (candidate : Candidate) (manifest : OfflineExecutionCapsuleManifest)
    (receipt : OfflineOutputTreeReceipt) : Prop where
  task : capsuleTaskContractSchema.Valid candidate.task ∧
    manifest.taskDigest = digestCanonicalJson (capsuleTaskContractSchema.write candidate.task)
  inputManifest : contentTreeManifestSchema.Valid candidate.inputManifest ∧
    manifest.inputRoot = digestCanonicalJson (contentTreeManifestSchema.write candidate.inputManifest)
  outputManifest : contentTreeManifestSchema.Valid candidate.outputManifest ∧
    receipt.outputRoot =
      digestCanonicalJson (contentTreeManifestSchema.write candidate.outputManifest)
  inputTree : IsLoaded candidate.inputTree ∧ candidate.inputTree.digest = manifest.inputRoot
  outputTree : IsLoaded candidate.outputTree ∧ candidate.outputTree.digest = receipt.outputRoot

def Candidate.changes (candidate : Candidate) (manifest : OfflineExecutionCapsuleManifest) :
    List CandidateChange :=
  (compareCompleteTrees candidate.inputTree.files candidate.outputTree.files
    manifest.allowedTargets).1

/-- What the receipt and the manifest must be for anything to be read. -/
structure Readable (manifest : OfflineExecutionCapsuleManifest) (receipt : OfflineOutputTreeReceipt)
    (now : Str) : Prop where
  bound : Bound manifest receipt
  timely : Timely manifest receipt now
  metadata : containsCredentialLikeMetadataContent manifest receipt = false
  taskSize : manifest.taskDigest.size ≤ manifest.limits.maxTaskBytes
  inputSize : manifest.inputRoot.size ≤ manifest.limits.maxTreeManifestBytes
  outputSize : receipt.outputRoot.size ≤ manifest.limits.maxTreeManifestBytes

/-- The changes are some, within the limits, and there is a diff for each. -/
structure Changes (manifest : OfflineExecutionCapsuleManifest) (changes : List CandidateChange)
    (governed : List GovernedFileChange) : Prop where
  some : changes ≠ []
  files : changes.length ≤ manifest.limits.maxChangedFiles
  bytes : changedBytes changes ≤ manifest.limits.maxChangedBytes
  diffs : changes.mapM governedChangeOf = .ok governed
  diffBytes : diffBytes governed ≤ manifest.limits.maxDiffBytes

/-- What was read is acceptable under the manifest. -/
structure Candidate.Acceptable (candidate : Candidate) (manifest : OfflineExecutionCapsuleManifest)
    (governed : List GovernedFileChange) : Prop where
  taskId : candidate.task.taskId = manifest.capsuleId
  targets : candidate.task.targetPaths = manifest.allowedTargets
  taskContent : containsCredentialLikeTaskContent candidate.task = false
  files : candidate.inputManifest.entries.length + candidate.outputManifest.entries.length ≤
    manifest.limits.maxTotalTreeFiles
  bytes : ((candidate.inputManifest.entries ++ candidate.outputManifest.entries).map
    (·.blob.size)).sum ≤ manifest.limits.maxTotalTreeBytes
  paths : ∀ entry ∈ candidate.inputManifest.entries ++ candidate.outputManifest.entries,
    isSensitiveOfflineTreePath entry.path = false
  inputContents : containsCredentialLikeTreeContent
    (candidate.inputTree.files.map (·.toOfflineContentTreeFile)) = false
  outputContents : containsCredentialLikeTreeContent
    (candidate.outputTree.files.map (·.toOfflineContentTreeFile)) = false
  edits : Edits manifest.allowedTargets candidate.inputTree.files candidate.outputTree.files
  changes : Changes manifest (candidate.changes manifest) governed

/-! ## What is verified -/

lemma status_of_blocked {reasons : List Str} {manifest : Option OfflineExecutionCapsuleManifest}
    {outputRoot : Option ContentDigest} {assessment : OfflineCapsuleAssessment} {σ : Type} {s t : σ}
    (h : (Comp.lift (blockedAssessment reasons manifest outputRoot) : Comp Thrown σ _) s =
      (.ok assessment, t)) : assessment.status ≠ .verifiedOffline := by
  obtain ⟨hparse, -⟩ := Comp.eq_of_lift_ok h
  obtain ⟨-, rfl⟩ := parse_eq_ok.mp hparse
  exact nofun

section
variable {σ : Type} {s t : σ} {manifest : OfflineExecutionCapsuleManifest}
  {receipt : OfflineOutputTreeReceipt} {assessment : OfflineCapsuleAssessment}

lemma IsLoaded.nodup_paths {tree : LoadedContentTree} (h : IsLoaded tree) :
    (tree.files.map (·.path)).Nodup := by
  have hpaths := (valid_contentTreeManifest.mp h.valid).2.2.1
  rw [← h.entries, List.map_map] at hpaths
  exact hpaths.imp ne_of_lt

lemma assessChanges_verified {replayStore : OfflineCapsuleReplayStore σ}
    {inputFiles outputFiles : List LoadedContentTreeFile}
    (hinput : (inputFiles.map (·.path)).Nodup) (houtput : (outputFiles.map (·.path)).Nodup)
    (h : assessChanges replayStore manifest receipt inputFiles outputFiles s = (.ok assessment, t))
    (hverified : assessment.status = .verifiedOffline) :
    Edits manifest.allowedTargets inputFiles outputFiles ∧ ∃ governed changeSet,
      Changes manifest (compareCompleteTrees inputFiles outputFiles manifest.allowedTargets).1
        governed ∧ changeSetOf manifest receipt governed = .ok changeSet ∧
      replayStore.consume manifest.nonce receipt.receiptHash s = (.ok true, t) ∧
      verifiedAssessment manifest receipt changeSet = .ok assessment := by
  unfold assessChanges at h
  dsimp only at h
  split_ifs at h with hreasons hnone hfiles hbytes
  · exact absurd hverified (status_of_blocked h)
  · exact absurd hverified (status_of_blocked h)
  · exact absurd hverified (status_of_blocked h)
  · exact absurd hverified (status_of_blocked h)
  obtain ⟨governed, u, hgoverned, hrest⟩ := Comp.exists_of_bind_ok h
  obtain ⟨hdiffs, hsu⟩ := Comp.eq_of_lift_ok hgoverned
  split_ifs at hrest with hlarge
  · exact absurd hverified (status_of_blocked hrest)
  obtain ⟨changeSet, v, hset, hconsume⟩ := Comp.exists_of_bind_ok hrest
  obtain ⟨hparse, huv⟩ := Comp.eq_of_lift_ok hset
  obtain ⟨consumed, w, hhandle, hanswer⟩ := Comp.exists_of_bind_ok hconsume
  refine ⟨(compareCompleteTrees_reasons hinput houtput).mp (not_not.mp hreasons), governed,
    changeSet, ⟨hnone, not_lt.mp hfiles, not_lt.mp hbytes, hdiffs, not_lt.mp hlarge⟩, hparse, ?_⟩
  rcases consumed with _ | ⟨_ | _⟩
  · exact absurd hverified (status_of_blocked hanswer)
  · exact absurd hverified (status_of_blocked hanswer)
  · obtain ⟨hassessment, hwt⟩ := Comp.eq_of_lift_ok hanswer
    refine ⟨?_, hassessment⟩
    rw [← huv, ← hsu] at hhandle
    unfold Comp.handle at hhandle
    rw [Comp.map_apply] at hhandle
    rcases hcall : replayStore.consume manifest.nonce receipt.receiptHash s with ⟨e | b, x⟩
    · rw [hcall] at hhandle
      exact nomatch (Prod.mk.inj hhandle).1
    · rw [hcall] at hhandle
      cases hhandle
      rw [hwt]

lemma named_of_loadContentTreeManifest {store : ContentAddressedStore σ} {digest : ContentDigest}
    {context : Str} {stored : StoredContentTree}
    (h : loadContentTreeManifest store digest context s = (.ok stored, t)) :
    contentTreeManifestSchema.Valid stored.manifest ∧
      digest = digestCanonicalJson (contentTreeManifestSchema.write stored.manifest) := by
  unfold loadContentTreeManifest at h
  obtain ⟨manifest, u, hmanifest, hparsed⟩ := Comp.exists_of_bind_ok h
  obtain ⟨parsed, v, -, hpure⟩ := Comp.exists_of_bind_ok hparsed
  obtain ⟨hdigest, hvalid⟩ := eq_of_readCanonicalObject hmanifest
  rw [← (Comp.eq_of_pure_ok hpure).1]
  exact ⟨hvalid, hdigest⟩

omit [Runtime] in
lemma limitReasons_eq_nil {inputManifest outputManifest : ContentTreeManifest} :
    collectCompleteTreeLimitReasons inputManifest outputManifest manifest = [] ↔
      inputManifest.entries.length + outputManifest.entries.length ≤
          manifest.limits.maxTotalTreeFiles ∧
        ((inputManifest.entries ++ outputManifest.entries).map (·.blob.size)).sum ≤
          manifest.limits.maxTotalTreeBytes := by
  unfold collectCompleteTreeLimitReasons
  split_ifs with hfiles
  · simp only [false_iff, not_and_or, not_le]
    exact .inl hfiles
  · rw [reasonIf_eq_nil, Bool.not_eq_false', blobsFit_iff]
    exact (and_iff_right (not_lt.mp hfiles)).symm

/-- Where the content is assessed and verified, what was read is named and acceptable, and the nonce
and the receipt were consumed last. -/
lemma assessContent_verified {store : ContentAddressedStore σ}
    {replayStore : OfflineCapsuleReplayStore σ}
    (hmanifest : offlineExecutionCapsuleManifestSchema.Valid manifest)
    (h : assessContent store replayStore manifest receipt s = (.ok assessment, t))
    (hverified : assessment.status = .verifiedOffline) :
    ∃ (candidate : Candidate) (governed : List GovernedFileChange)
      (changeSet : GovernedFileChangeSet) (u : σ), candidate.Named manifest receipt ∧
        candidate.Acceptable manifest governed ∧
        changeSetOf manifest receipt governed = .ok changeSet ∧
        replayStore.consume manifest.nonce receipt.receiptHash u = (.ok true, t) ∧
        verifiedAssessment manifest receipt changeSet = .ok assessment := by
  unfold assessContent at h
  obtain ⟨task, u, htask, hrest⟩ := Comp.exists_of_bind_ok h
  obtain ⟨htaskDigest, htaskValid⟩ := eq_of_readCanonicalObject htask
  dsimp only at hrest
  split_ifs at hrest with hbinding hcontent
  · exact absurd hverified (status_of_blocked hrest)
  · exact absurd hverified (status_of_blocked hrest)
  obtain ⟨inputStored, v, hinputManifest, hrest⟩ := Comp.exists_of_bind_ok hrest
  obtain ⟨outputStored, w, houtputManifest, hrest⟩ := Comp.exists_of_bind_ok hrest
  split_ifs at hrest with hlimits hpaths
  · exact absurd hverified (status_of_blocked hrest)
  · exact absurd hverified (status_of_blocked hrest)
  obtain ⟨inputTree, x, hinputTree, hrest⟩ := Comp.exists_of_bind_ok hrest
  obtain ⟨outputTree, y, houtputTree, hrest⟩ := Comp.exists_of_bind_ok hrest
  split_ifs at hrest with hcredentials
  · exact absurd hverified (status_of_blocked hrest)
  have hinputLoaded := isLoaded_of_loadContentTree hinputTree
  have houtputLoaded := isLoaded_of_loadContentTree houtputTree
  obtain ⟨hedits, governed, changeSet, hchanges, hset, hconsume, hassessment⟩ :=
    assessChanges_verified hinputLoaded.1.nodup_paths houtputLoaded.1.nodup_paths hrest hverified
  obtain ⟨hfiles, hbytes⟩ := limitReasons_eq_nil.mp (not_not.mp hlimits)
  have htargets : canonicalTargetPathsSchema.Valid task.targetPaths := by
    unfold capsuleTaskContractSchema at htaskValid
    rw [Schema.valid_strictObject, Fields.valid_via, Equiv.coe_fn_symm_mk] at htaskValid
    simp only [Fields.valid_cons, Slot.valid_required] at htaskValid
    exact htaskValid.2.2.2.2.2.2.1
  simp only [Bool.or_eq_true, decide_eq_true_eq, Bool.not_eq_true', not_or, not_not,
    Bool.not_eq_false, Bool.not_eq_true] at hbinding hpaths hcredentials hcontent
  rw [sameCanonicalJson_iff htargets (valid_manifest hmanifest).2.2.2] at hbinding
  refine ⟨⟨task, inputStored.manifest, outputStored.manifest, inputTree, outputTree⟩, governed,
    changeSet, y, ⟨⟨htaskValid, htaskDigest⟩, named_of_loadContentTreeManifest hinputManifest,
      named_of_loadContentTreeManifest houtputManifest, hinputLoaded, houtputLoaded⟩,
    ⟨hbinding.1, hbinding.2, hcontent, hfiles, hbytes, ?_, hcredentials.1, hcredentials.2, hedits,
      hchanges⟩, hset, hconsume, hassessment⟩
  rw [List.any_eq_false, List.any_eq_false] at hpaths
  intro entry hentry
  rw [← Bool.not_eq_true]
  rcases List.mem_append.mp hentry with hentry | hentry
  · exact hpaths.1 entry hentry
  · exact hpaths.2 entry hentry

end

/-! ## Soundness -/

section
variable {σ : Type} {s t : σ} {input : VerifyOfflineCapsuleInput σ}
  {assessment : OfflineCapsuleAssessment}

omit [Runtime] in
lemma eq_of_toOption {α : Type} {x : Parsed α} {a : α} (h : x.toOption = some a) : x = .ok a := by
  cases x with
  | error e => exact nomatch h
  | ok b => rw [Option.some.inj h]

lemma valid_of_parsePassiveManifest {value : Option Json} {manifest : OfflineExecutionCapsuleManifest}
    (h : parsePassiveManifest value = some manifest) :
    offlineExecutionCapsuleManifestSchema.Valid manifest := by
  obtain ⟨json, -, hread⟩ := Option.bind_eq_some_iff.mp h
  exact Schema.valid_of_read (eq_of_toOption hread)

omit [Runtime] in
lemma valid_of_parsePassiveReceipt {value : Option Json} {receipt : OfflineOutputTreeReceipt}
    (h : parsePassiveReceipt value = some receipt) : offlineOutputTreeReceiptSchema.Valid receipt := by
  obtain ⟨json, -, hread⟩ := Option.bind_eq_some_iff.mp h
  exact Schema.valid_of_read (eq_of_toOption hread)

omit [Runtime] in
lemma exists_of_handle {α : Type} {x : Comp Thrown σ α} {a : α} {u : σ}
    (h : Comp.handle (some <$> x) (fun _ => pure none) s = (.ok (some a), u)) :
    x s = (.ok a, u) := by
  unfold Comp.handle at h
  rw [Comp.map_apply] at h
  rcases hx : x s with ⟨e | b, v⟩
  · rw [hx] at h
    exact nomatch (Prod.mk.inj h).1
  · rw [hx] at h
    cases h
    rfl

/-- A candidate is verified only where its receipt belongs to its manifest and is in time, and what
the digests in them name is acceptable; its nonce and its receipt are then consumed. -/
theorem verified_sound (h : verifyOfflineCapsuleCandidate input s = (.ok assessment, t))
    (hverified : assessment.status = .verifiedOffline) :
    ∃ (manifest : OfflineExecutionCapsuleManifest) (receipt : OfflineOutputTreeReceipt) (now : Str)
      (candidate : Candidate) (governed : List GovernedFileChange)
      (changeSet : GovernedFileChangeSet) (u v : σ),
      parsePassiveManifest input.manifest = some manifest ∧
        parsePassiveReceipt input.receipt = some receipt ∧ input.now s = (.ok now, u) ∧
        Readable manifest receipt now ∧ candidate.Named manifest receipt ∧
        candidate.Acceptable manifest governed ∧
        changeSetOf manifest receipt governed = .ok changeSet ∧
        input.replayStore.consume manifest.nonce receipt.receiptHash v = (.ok true, t) ∧
        verifiedAssessment manifest receipt changeSet = .ok assessment := by
  unfold verifyOfflineCapsuleCandidate at h
  rcases hmanifest : parsePassiveManifest input.manifest with _ | manifest
  · rw [hmanifest] at h
    exact absurd hverified (status_of_blocked h)
  rw [hmanifest] at h
  dsimp only at h
  rcases hreceipt : parsePassiveReceipt input.receipt with _ | receipt
  · rw [hreceipt] at h
    exact absurd hverified (status_of_blocked h)
  rw [hreceipt] at h
  obtain ⟨clock, u, hclock, hrest⟩ := Comp.exists_of_bind_ok h
  cases clock with
  | none => exact absurd hverified (status_of_blocked hrest)
  | some now =>
    dsimp only at hrest
    split_ifs at hrest with hbinding hmetadata htask hroots
    · exact absurd hverified (status_of_blocked hrest)
    · exact absurd hverified (status_of_blocked hrest)
    · exact absurd hverified (status_of_blocked hrest)
    · exact absurd hverified (status_of_blocked hrest)
    have hvalid := valid_of_parsePassiveManifest hmanifest
    obtain ⟨hbound, htimely⟩ := (collectBindingReasons_eq_nil hvalid
      (valid_of_parsePassiveReceipt hreceipt)).mp (not_not.mp hbinding)
    have hassess : assessContent input.store input.replayStore manifest receipt u =
        (.ok assessment, t) := by
      unfold Comp.handle at hrest
      rcases hcontent : assessContent input.store input.replayStore manifest receipt u with ⟨e | a, w⟩
      · rw [hcontent] at hrest
        exact absurd hverified (status_of_blocked hrest)
      · rw [hcontent] at hrest
        exact hrest
    obtain ⟨candidate, governed, changeSet, v, hnamed, hacceptable, hset, hconsume, hassessment⟩ :=
      assessContent_verified hvalid hassess hverified
    simp only [Bool.or_eq_true, decide_eq_true_eq, not_or, not_lt] at hroots
    refine ⟨manifest, receipt, now, candidate, governed, changeSet, u, v, rfl, rfl,
      exists_of_handle hclock, ⟨hbound, htimely, ?_, not_lt.mp htask, hroots.1, hroots.2⟩, hnamed,
      hacceptable, hset, hconsume, hassessment⟩
    rw [← Bool.not_eq_true]
    exact hmetadata

end

/-! ## What the change set does -/

lemma IsLoaded.canonical {tree : LoadedContentTree} (h : IsLoaded tree) :
    ∀ file ∈ tree.files, isCanonicalCapsulePath file.path = true := by
  intro file hfile
  have hentry : entryOf file.toOfflineContentTreeFile file.digest ∈ tree.manifest.entries := by
    rw [← h.entries]
    exact List.mem_map_of_mem hfile
  exact (valid_contentTreeEntry.mp ((valid_contentTreeManifest.mp h.valid).1 _ hentry)).1

/-- Where no two texts collide, files of two trees have one digest when they have one content. -/
lemma IsLoaded.digest_iff {tree tree' : LoadedContentTree} (h : IsLoaded tree)
    (h' : IsLoaded tree') (hfree : ¬ Collide tree.texts tree'.texts) :
    ∀ file ∈ tree.files, ∀ file' ∈ tree'.files,
      file.digest = file'.digest ↔ file.content = file'.content := by
  intro file hfile file' hfile'
  rw [← h.contents file hfile, ← h'.contents file' hfile']
  constructor
  · exact eq_of_not_collide hfree (List.mem_cons_of_mem _ (List.mem_map_of_mem hfile))
      (List.mem_cons_of_mem _ (List.mem_map_of_mem hfile'))
  · intro hcontent
    rw [hcontent]

section
variable {σ : Type} {s t : σ} {input : VerifyOfflineCapsuleInput σ}
  {assessment : OfflineCapsuleAssessment}

/-- The change set of a verified candidate turns the tree that the manifest names into the tree that
the receipt names, as long as no content that is changed begins with a byte order mark, and only
then; unless two texts in the trees collide. -/
theorem verified_transforms (h : verifyOfflineCapsuleCandidate input s = (.ok assessment, t))
    (hverified : assessment.status = .verifiedOffline) :
    ∃ (manifest : OfflineExecutionCapsuleManifest) (receipt : OfflineOutputTreeReceipt)
      (inputTree outputTree : LoadedContentTree) (changeSet : GovernedFileChangeSet),
      parsePassiveManifest input.manifest = some manifest ∧
        parsePassiveReceipt input.receipt = some receipt ∧
        (IsLoaded inputTree ∧ inputTree.digest = manifest.inputRoot) ∧
        (IsLoaded outputTree ∧ outputTree.digest = receipt.outputRoot) ∧
        assessment.changeSet = some changeSet ∧
        (Collide inputTree.texts outputTree.texts ∨
          (applyChanges changeSet.changes (contentAt inputTree.files) =
              contentAt outputTree.files ↔
            ∀ change ∈ (compareCompleteTrees inputTree.files outputTree.files
              manifest.allowedTargets).1, Unmarked change)) := by
  obtain ⟨manifest, receipt, now, candidate, governed, changeSet, -, -, hmanifest, hreceipt, -, -,
    hnamed, hacceptable, hset, -, hassessment⟩ := verified_sound h hverified
  obtain ⟨-, hchangeSet⟩ := parse_eq_ok.mp hset
  obtain ⟨-, heq⟩ := parse_eq_ok.mp hassessment
  refine ⟨manifest, receipt, candidate.inputTree, candidate.outputTree, changeSet, hmanifest,
    hreceipt, hnamed.inputTree, hnamed.outputTree, by rw [← heq], ?_⟩
  by_cases hfree : Collide candidate.inputTree.texts candidate.outputTree.texts
  · exact .inl hfree
  · right
    rw [← hchangeSet]
    exact applyChanges_eq_iff hacceptable.edits hnamed.inputTree.1.nodup_paths
      hnamed.outputTree.1.nodup_paths hnamed.outputTree.1.canonical
      (hnamed.inputTree.1.digest_iff hnamed.outputTree.1 hfree) hacceptable.changes.diffs

end

end CodexRouter.Capsule
