import CodexRouter.Retain.Rollback
import CodexRouter.Retain.Verify

/-!
# What a permit must say before anything happens

A restore and a retained verification imply the bindings of their permits. The time window is
checked from both ends, but an `issuedAt` that is no instant passes.
-/

open Js CodexRouter.Kernel Runs

namespace CodexRouter.Retain

/-! ## Retained verifications -/

/-- What the loop over the changes has found of a change that it has no complaint about. -/
structure Verified (reads : WorkspaceReads) (pathModes : Str → Option FileMode)
    (basePathExists : Str → Bool) (baseHashes : Str → Option Str) (change : GovernedFileChange) :
    Prop where
  mode : modeReasons pathModes change = []
  created : change.kind = .create → basePathExists change.path = false
  updated : change.kind = .update → basePathExists change.path = true ∧
    change.beforeHash.join ≠ none ∧ change.beforeHash.join = baseHashes change.path
  after : ∃ declared, change.afterHash.join = some declared ∧
    reads.workspacePathHash change.path = .ok (some declared)

/-- The target hash of a change that is on disk as declared. -/
def declaredTarget (change : GovernedFileChange) : RetainTargetHash :=
  ⟨change.path, if change.kind = .create then none else change.beforeHash.join,
    change.afterHash.join.getD []⟩

/-- A valid change with an `afterHash` has a valid target hash. -/
lemma declaredTarget_issues {change : GovernedFileChange} (h : change.issues = [])
    (hafter : change.afterHash.join ≠ none) : (declaredTarget change).issues = [] := by
  obtain ⟨declared, hdeclared⟩ := Option.ne_none_iff_exists'.mp hafter
  simp only [GovernedFileChange.issues, CapabilityFactFileChange.issues, List.append_eq_nil_iff,
    under_eq_nil, nonEmpty_eq_nil, hashFieldIssues, optionally_eq_nil] at h
  obtain ⟨-, ⟨⟨⟨hpath, -⟩, hbeforeHash⟩, hafterHash⟩, -⟩ := h
  simp only [declaredTarget, RetainTargetHash.issues, List.append_eq_nil_iff, under_eq_nil,
    nonEmpty_eq_nil, optionally_eq_nil]
  refine ⟨⟨hpath, ?_⟩, ?_⟩
  · intro hash hhash
    split_ifs at hhash with hcreate
    · cases hhash
    · exact hbeforeHash _ (Option.join_eq_some_iff.mp hhash) _ rfl
  · rw [hdeclared]
    exact hafterHash _ (Option.join_eq_some_iff.mp hdeclared) _ rfl

lemma verifyTarget_eq_nil {basePathExists : Bool} {expectedBeforeHash after : Option Str}
    {change : GovernedFileChange} :
    (verifyTarget basePathExists expectedBeforeHash after change).1 = [] ↔
      (change.kind = .create → basePathExists = false) ∧
      (change.kind = .update → basePathExists = true ∧ change.beforeHash.join ≠ none ∧
        change.beforeHash.join = expectedBeforeHash) ∧
      ∃ declared, change.afterHash.join = some declared ∧ after = some declared := by
  unfold verifyTarget
  cases after with
  | none => simp
  | some after =>
    cases hdeclared : change.afterHash.join with
    | none => simp
    | some declared =>
      simp only [List.append_eq_nil_iff, reasonUnless_eq_nil, decide_eq_true_eq]
      have hcreate : (change.kind ≠ .create ∨ (!basePathExists) = true) ↔
          (change.kind = .create → basePathExists = false) := by
        rw [← imp_iff_not_or, Bool.not_eq_true']
      rw [hcreate]
      by_cases hu : change.kind = .update
      · simp [hu]
        grind
      · simp [hu, eq_comm]

/-- Without complaints the target of a change is the declared one. -/
lemma verifyTarget_target {basePathExists : Bool} {expectedBeforeHash : Option Str}
    {change : GovernedFileChange} {declared : Str} (h : change.afterHash.join = some declared) :
    (verifyTarget basePathExists expectedBeforeHash (some declared) change).2 =
      some (declaredTarget change) := by
  simp [verifyTarget, declaredTarget, h]

lemma verifyTargets_eq_nil {reads : WorkspaceReads} {pathModes : Str → Option FileMode}
    {basePathExists : Str → Bool} {baseHashes : Str → Option Str}
    {changes : List GovernedFileChange} {targets : List RetainTargetHash} :
    verifyTargets reads pathModes basePathExists baseHashes changes = ([], .ok targets) ↔
      (∀ change ∈ changes, Verified reads pathModes basePathExists baseHashes change) ∧
      targets = changes.map declaredTarget := by
  induction changes generalizing targets with
  | nil => simp [verifyTargets, eq_comm]
  | cons change changes ih =>
    rw [List.forall_mem_cons, verifyTargets]
    cases hread : reads.workspacePathHash change.path with
    | error e =>
      simp only [Prod.mk.injEq, reduceCtorEq, and_false, false_iff, not_and]
      intro ⟨hverified, _⟩
      obtain ⟨_, -, hread'⟩ := hverified.after
      simp [hread] at hread'
    | ok after =>
      dsimp only
      constructor
      · intro h
        obtain ⟨hreasons, htargets⟩ := Prod.mk.inj h
        obtain ⟨⟨hmode, htarget⟩, hrest⟩ := List.append_eq_nil_iff.mp hreasons |>.imp_left
          List.append_eq_nil_iff.mp
        obtain ⟨hcreated, hupdated, declared, hdeclared, rfl⟩ := verifyTarget_eq_nil.mp htarget
        obtain ⟨rest, hok, rfl⟩ := map_eq_ok.mp htargets
        obtain ⟨hall, rfl⟩ := ih.mp (Prod.ext hrest hok)
        refine ⟨⟨⟨hmode, hcreated, hupdated, declared, hdeclared, hread⟩, hall⟩, ?_⟩
        rw [verifyTarget_target hdeclared]
        rfl
      · rintro ⟨⟨hchange, hall⟩, rfl⟩
        obtain ⟨declared, hdeclared, hread'⟩ := hchange.after
        obtain rfl : after = some declared := by simpa [hread] using hread'
        have htarget := verifyTarget_eq_nil.mpr
          ⟨hchange.created, hchange.updated, declared, hdeclared, rfl⟩
        have hrest := ih.mpr ⟨hall, rfl⟩
        rw [hchange.mode, htarget, hrest, verifyTarget_target hdeclared]
        rfl

/-- Everything that a retained verification has read. -/
structure WorkspaceFound (reads : WorkspaceReads) (changeSet : GovernedFileChangeSet)
    (permit : RetainPermit) (now : Str) (repository : RepositoryInspection)
    (baseHashes : Str → Option Str) : Prop where
  boundary : reads.filterReasons ++ reads.submoduleReasons ++ reads.partialCloneReasons = []
  inspected : reads.repository = .ok repository
  head : repository.headCommit = permit.headCommit
  index : repository.indexChanged = false
  paths : sameStringArrays repository.changedPaths permit.targetFiles = true
  topology : reads.topologyReasons = .ok []
  present : ∃ present, changeSet.changes.mapM
    (fun change => reads.commitPathExists change.path) = .ok present
  base : reads.commitWorktreeHashes = .ok baseHashes
  verified : ∀ change ∈ changeSet.changes, Verified reads repository.pathModes
    (fun path => (reads.commitPathExists path).orElse false) baseHashes change
  receipt : (retainReceiptOf changeSet permit now repository.identityHash
    (changeSet.changes.map declaredTarget)).issues = []

lemma found_of_retained {reads : WorkspaceReads} {changeSet : GovernedFileChangeSet}
    {permit : RetainPermit} {now : Str} {reasons : List Str} {receipt : RetainReceipt}
    (h : verifyRetainedWorkspace reads changeSet permit now reasons = .retained receipt) :
    reasons = [] ∧
      ∃ repository baseHashes, WorkspaceFound reads changeSet permit now repository baseHashes := by
  unfold verifyRetainedWorkspace at h
  dsimp only at h
  split_ifs at h with hboundary
  split at h
  · cases h
  rename_i repository hrepository
  split at h
  · cases h
  rename_i topologyReasons htopology
  split_ifs at h with htop
  obtain rfl : topologyReasons = [] := not_not.mp htop
  split at h
  · cases h
  rename_i present hpresent
  split at h
  · cases h
  rename_i baseHashes hbase
  split at h
  · cases h
  rename_i targets htargets
  split_ifs at h with hreasons
  simp only [not_not, uniqueStrings_eq_nil, List.append_eq_nil_iff, reasonUnless_eq_nil,
    decide_eq_true_eq, Bool.not_eq_true'] at hreasons
  obtain ⟨⟨⟨⟨hnil, hhead⟩, hindex⟩, hpaths⟩, htargetReasons⟩ := hreasons
  obtain ⟨hverified, rfl⟩ := verifyTargets_eq_nil.mp (Prod.ext htargetReasons htargets)
  split at h
  · cases h
  rename_i parsed hparse
  obtain ⟨hissues, -⟩ := parse_eq_ok.mp hparse
  exact ⟨hnil, repository, baseHashes, not_not.mp hboundary, hrepository, hhead, hindex, hpaths,
    htopology, ⟨present, hpresent⟩, hbase, hverified, hissues⟩

lemma WorkspaceFound.retained {reads : WorkspaceReads} {changeSet : GovernedFileChangeSet}
    {permit : RetainPermit} {now : Str} {repository : RepositoryInspection}
    {baseHashes : Str → Option Str}
    (h : WorkspaceFound reads changeSet permit now repository baseHashes) :
    verifyRetainedWorkspace reads changeSet permit now [] = .retained
      (retainReceiptOf changeSet permit now repository.identityHash
        (changeSet.changes.map declaredTarget)) := by
  obtain ⟨present, hpresent⟩ := h.present
  have htargets := verifyTargets_eq_nil.mpr ⟨h.verified, rfl⟩
  unfold verifyRetainedWorkspace
  simp [h.boundary, h.inspected, h.topology, hpresent, h.base, htargets, h.head, h.index, h.paths,
    parse, h.receipt]

/-- A search that some change satisfies finds one that does. -/
lemma find?_of_mem {α : Type} {l : List α} {p : α → Bool} {a : α} (ha : a ∈ l)
    (hp : p a = true) : ∃ found ∈ l, l.find? p = some found ∧ p found = true := by
  cases hfind : l.find? p with
  | none => exact absurd hp (List.find?_eq_none.mp hfind a ha)
  | some found => exact ⟨found, List.mem_of_find?_eq_some hfind, rfl, List.find?_some hfind⟩

/-- What the inspection before a restore has seen when it finds nothing. -/
lemma workspaceState_eq_nil {receipt : RetainReceipt} {reads : WorkspaceReads}
    (h : validateRollbackWorkspaceState receipt reads = []) :
    (∃ restorable, reads.commitWorktreeHashes = .ok restorable ∧
      ∀ target ∈ receipt.targetHashes, target.beforeHash ≠ none →
        restorable target.path = target.beforeHash) ∧
    ∀ target ∈ receipt.targetHashes,
      reads.workspacePathHash target.path = .ok (some target.afterHash) := by
  unfold validateRollbackWorkspaceState at h
  dsimp only at h
  split_ifs at h with hboundary
  · exact absurd (uniqueStrings_eq_nil.mp h) hboundary
  split at h
  · cases h
  split at h
  · simp at h
  split_ifs at h with htopology
  · simp [htopology] at h
  split at h
  · simp at h
  rename_i restorable hrestorable
  split_ifs at h with hreasons
  · exact absurd (uniqueStrings_eq_nil.mp h) hreasons
  rw [not_not, List.append_eq_nil_iff, List.flatMap_eq_nil_iff] at hreasons
  refine ⟨⟨restorable, hrestorable, fun target ht hbefore => ?_⟩,
    hashReasons_eq_nil.mp (uniqueStrings_eq_nil.mp h)⟩
  simpa using hreasons.2 target (List.mem_filter.mpr ⟨ht, by simpa using hbefore⟩)

/-! ## The window -/

section
variable [Runtime]

/-- `time` is an instant. -/
def Parses (time : Str) : Prop := ∃ instant, Runtime.dateParse time = some instant

/-- `issuedAt <= now < expiresAt` as instants. -/
def InWindow (issuedAt expiresAt now : Str) : Prop :=
  ∃ issued current expires, Runtime.dateParse issuedAt = some issued ∧
    Runtime.dateParse now = some current ∧ Runtime.dateParse expiresAt = some expires ∧
    issued ≤ current ∧ current < expires

lemma inWindow_of_checks {issuedAt expiresAt now : Str} (hexpired : isExpired expiresAt now = false)
    (hbefore : isBefore now issuedAt = false) (hissued : Parses issuedAt) :
    InWindow issuedAt expiresAt now := by
  obtain ⟨issued, hissued⟩ := hissued
  unfold isExpired at hexpired
  split at hexpired
  · rename_i expires current hexpires hnow
    rw [isBefore, hnow, hissued] at hbefore
    simp only [decide_eq_false_iff_not] at hexpired hbefore
    exact ⟨issued, current, expires, hissued, hnow, hexpires, by omega, by omega⟩
  · cases hexpired

/-- The verification says `retained` only for hashes as declared, inside the permit's window. -/
def RetainBound (changeSet : GovernedFileChangeSet) (permit : RetainPermit) (now : Str) : Prop :=
  ∀ reads receipt, verifyRetainedChange reads changeSet permit now = .retained receipt →
    InWindow permit.issuedAt permit.expiresAt now ∧ ∀ change ∈ changeSet.changes, ∃ declared,
      change.afterHash = some (some declared) ∧
        reads.workspacePathHash change.path = .ok (some declared)

/-- Nothing in the inputs themselves makes the verification fail: they pass their schemas and the
permit's own checks, every change declares its hashes, and changes of one path agree. -/
structure Retainable (changeSet : GovernedFileChangeSet) (permit : RetainPermit) (now : Str) :
    Prop where
  validChangeSet : changeSet.issues = []
  validPermit : permit.issues = []
  binding : validateRetainPermit changeSet permit now = []
  head : isGitObjectId permit.headCommit = true
  now : now ≠ []
  after : ∀ change ∈ changeSet.changes, change.afterHash.join ≠ none
  before : ∀ change ∈ changeSet.changes, change.kind = .update → change.beforeHash.join ≠ none
  sameAfter : ∀ a ∈ changeSet.changes, ∀ b ∈ changeSet.changes, a.path = b.path →
    a.afterHash.join = b.afterHash.join
  sameBefore : ∀ a ∈ changeSet.changes, ∀ b ∈ changeSet.changes, a.path = b.path →
    a.kind = .update → b.kind = .update → a.beforeHash.join = b.beforeHash.join
  distinctKinds : ∀ a ∈ changeSet.changes, ∀ b ∈ changeSet.changes, a.path = b.path →
    a.kind = .create → b.kind ≠ .update

lemma retained_spec {reads : WorkspaceReads} {changeSet : GovernedFileChangeSet}
    {permit : RetainPermit} {now : Str} {receipt : RetainReceipt}
    (h : verifyRetainedChange reads changeSet permit now = .retained receipt) :
    changeSet.issues = [] ∧ permit.issues = [] ∧ validateRetainPermit changeSet permit now = [] ∧
      isGitObjectId permit.headCommit = true ∧
      ∃ repository baseHashes, WorkspaceFound reads changeSet permit now repository baseHashes := by
  unfold verifyRetainedChange at h
  split at h
  · cases h
  · cases h
  rename_i changeSet' permit' hparse hparse'
  obtain ⟨hchangeSet, rfl⟩ := parse_eq_ok.mp hparse
  obtain ⟨hpermit, rfl⟩ := parse_eq_ok.mp hparse'
  dsimp only at h
  split_ifs at h with hhead
  obtain ⟨hbinding, hfound⟩ := found_of_retained h
  exact ⟨hchangeSet, hpermit, hbinding, by simpa using hhead, hfound⟩

lemma retainable_of_retained {reads : WorkspaceReads} {changeSet : GovernedFileChangeSet}
    {permit : RetainPermit} {now : Str} {receipt : RetainReceipt}
    (h : verifyRetainedChange reads changeSet permit now = .retained receipt) :
    Retainable changeSet permit now := by
  obtain ⟨hchangeSet, hpermit, hbinding, hhead, repository, baseHashes, hfound⟩ := retained_spec h
  have hverified := hfound.verified
  refine ⟨hchangeSet, hpermit, hbinding, hhead, ?_, ?_, ?_, ?_, ?_, ?_⟩
  · have hissues := hfound.receipt
    simp only [RetainReceipt.issues, retainReceiptOf, List.append_eq_nil_iff, under_eq_nil,
      nonEmpty_eq_nil] at hissues
    exact hissues.2
  · intro change hc
    obtain ⟨declared, hdeclared, -⟩ := (hverified change hc).after
    simp [hdeclared]
  · exact fun change hc hu => ((hverified change hc).updated hu).2.1
  · intro a ha b hb hpath
    obtain ⟨x, hx, hreadx⟩ := (hverified a ha).after
    obtain ⟨y, hy, hready⟩ := (hverified b hb).after
    rw [hpath, hready] at hreadx
    obtain rfl : y = x := by simpa using hreadx
    rw [hx, hy]
  · intro a ha b hb hpath hau hbu
    rw [((hverified a ha).updated hau).2.2, ((hverified b hb).updated hbu).2.2, hpath]
  · intro a ha b hb hpath hac hbu
    have hcreated := (hverified a ha).created hac
    rw [hpath, ((hverified b hb).updated hbu).1] at hcreated
    cases hcreated

/-- The permit's own checks, spelled out. -/
lemma validateRetainPermit_eq_nil {changeSet : GovernedFileChangeSet} {permit : RetainPermit}
    {now : Str} : validateRetainPermit changeSet permit now = [] ↔
      permit.changeSetHash = changeSet.canonicalHash ∧ permit.headCommit = changeSet.baseHead ∧
      sameStringArrays permit.targetFiles (sortUnits (changeSet.changes.map (·.path))) = true ∧
      isExpired permit.expiresAt now = false ∧ isBefore now permit.issuedAt = false := by
  simp [validateRetainPermit]

/-- Answers under which a change set with consistent declarations is verified. -/
def agreeingReads (changeSet : GovernedFileChangeSet) (permit : RetainPermit) : WorkspaceReads where
  filterReasons := []
  submoduleReasons := []
  partialCloneReasons := []
  repository := .ok ⟨permit.headCommit, Sha256.hex [], permit.targetFiles, false, fun _ => none⟩
  topologyReasons := .ok []
  missingTopologyReasons := .ok []
  commitPathExists path :=
    .ok (changeSet.changes.any fun change => change.path = path && change.kind = .update)
  commitWorktreeHashes := .ok fun path =>
    (changeSet.changes.find? fun change => change.path = path && change.kind = .update).bind
      (·.beforeHash.join)
  workspacePathHash path :=
    .ok ((changeSet.changes.find? (·.path = path)).bind (·.afterHash.join))

lemma agreeing_verified {changeSet : GovernedFileChangeSet} {permit : RetainPermit} {now : Str}
    (h : Retainable changeSet permit now) {change : GovernedFileChange}
    (hc : change ∈ changeSet.changes) :
    Verified (agreeingReads changeSet permit) (fun _ => none)
      (fun path => ((agreeingReads changeSet permit).commitPathExists path).orElse false)
      (fun path => (changeSet.changes.find? fun change =>
        change.path = path && change.kind = .update).bind (·.beforeHash.join)) change := by
  refine ⟨by simp [modeReasons], ?_, ?_, ?_⟩
  · intro hcreate
    have hnone : ∀ b ∈ changeSet.changes, ¬ (b.path = change.path ∧ b.kind = .update) :=
      fun b hb hbu => h.distinctKinds change hc b hb hbu.1.symm hcreate hbu.2
    simpa [agreeingReads, Result.orElse] using hnone
  · intro hupdate
    obtain ⟨found, hfound, hfind, hp⟩ := find?_of_mem
      (p := fun c : GovernedFileChange =>
      decide (c.path = change.path) && decide (c.kind = .update)) hc (by simp [hupdate])
    rw [Bool.and_eq_true, decide_eq_true_eq, decide_eq_true_eq] at hp
    refine ⟨?_, h.before change hc hupdate, ?_⟩
    · simpa [agreeingReads, Result.orElse] using ⟨change, hc, rfl, hupdate⟩
    · rw [hfind, h.sameBefore change hc found hfound hp.1.symm hupdate hp.2]
      rfl
  · obtain ⟨declared, hdeclared⟩ := Option.ne_none_iff_exists'.mp (h.after change hc)
    obtain ⟨found, hfound, hfind, hp⟩ := find?_of_mem
      (p := fun c : GovernedFileChange =>
      decide (c.path = change.path)) hc (by simp)
    refine ⟨declared, hdeclared, ?_⟩
    rw [decide_eq_true_eq] at hp
    have hsame := h.sameAfter change hc found hfound hp.symm
    simp only [agreeingReads, hfind, Option.bind_some, ← hsame, hdeclared]

lemma agreeing_receipt {changeSet : GovernedFileChangeSet} {permit : RetainPermit} {now : Str}
    (h : Retainable changeSet permit now) :
    (retainReceiptOf changeSet permit now (Sha256.hex [])
      (changeSet.changes.map declaredTarget)).issues = [] := by
  have hset := h.validChangeSet
  have hpermit := h.validPermit
  simp only [GovernedFileChangeSet.issues, RetainPermit.issues, List.append_eq_nil_iff,
    under_eq_nil, nonEmpty_eq_nil, eachNonEmpty_eq_nil, optionally_eq_nil] at hset hpermit
  obtain ⟨⟨⟨⟨-, hchanges⟩, hhash⟩, -⟩, -⟩ := hset.1
  obtain ⟨⟨⟨⟨⟨⟨⟨⟨⟨hid, -⟩, -⟩, hpreview⟩, -⟩, hhead⟩, -⟩, -⟩, -⟩, -⟩ := hpermit
  simp only [RetainReceipt.issues, retainReceiptOf, List.append_eq_nil_iff, under_eq_nil,
    nonEmpty_eq_nil, eachNonEmpty_eq_nil, optionally_eq_nil, List.forall_mem_map]
  refine ⟨⟨⟨⟨⟨⟨⟨by simp [js], hid⟩, hhash⟩, hpreview⟩, hhead⟩, ?_⟩, ?_, ?_⟩, h.now⟩
  · rw [sha256Issues, require_eq_nil]
    exact isSha256_hex []
  · simpa using hchanges.1
  · intro change hc
    exact declaredTarget_issues (hchanges.2 change hc) (h.after change hc)

lemma exists_retained {changeSet : GovernedFileChangeSet} {permit : RetainPermit} {now : Str}
    (h : Retainable changeSet permit now) :
    ∃ receipt, verifyRetainedChange (agreeingReads changeSet permit) changeSet permit now =
      .retained receipt := by
  have hfound : WorkspaceFound (agreeingReads changeSet permit) changeSet permit now _ _ :=
    ⟨rfl, rfl, rfl, rfl, by simp [sameStringArrays], rfl, mapM_returns fun change _ => ⟨_, rfl⟩,
      rfl, fun change hc => agreeing_verified h hc, agreeing_receipt h⟩
  refine ⟨retainReceiptOf changeSet permit now (Sha256.hex [])
    (changeSet.changes.map declaredTarget), ?_⟩
  unfold verifyRetainedChange
  rw [parse_eq_ok.mpr ⟨h.validChangeSet, rfl⟩, parse_eq_ok.mpr ⟨h.validPermit, rfl⟩]
  dsimp only
  rw [h.binding, h.head]
  exact hfound.retained

lemma retainBound_iff (changeSet : GovernedFileChangeSet) (permit : RetainPermit) (now : Str) :
    RetainBound changeSet permit now ↔
      (Parses permit.issuedAt ∨ ¬ Retainable changeSet permit now) := by
  constructor
  · intro hbound
    by_contra hnot
    rw [not_or, not_not] at hnot
    obtain ⟨receipt, hreceipt⟩ := exists_retained hnot.2
    obtain ⟨issued, -, -, hissued, -⟩ := (hbound _ _ hreceipt).1
    exact hnot.1 ⟨issued, hissued⟩
  · intro hcond reads receipt h
    have hparses := hcond.resolve_right (not_not.mpr (retainable_of_retained h))
    obtain ⟨-, -, hbinding, -, repository, baseHashes, hfound⟩ := retained_spec h
    obtain ⟨-, -, -, hexpired, hbefore⟩ := validateRetainPermit_eq_nil.mp hbinding
    refine ⟨inWindow_of_checks hexpired hbefore hparses, fun change hc => ?_⟩
    obtain ⟨declared, hdeclared, hread⟩ := (hfound.verified change hc).after
    exact ⟨declared, Option.join_eq_some_iff.mp hdeclared, hread⟩

/-! ## Restores -/

/-- A restore starts only under a permit bound to the receipt, inside the permit's window. -/
def RestoreBound (receipt : RetainReceipt) (permit : RollbackPermit) (now : Str) : Prop :=
  ∀ storeTrusted events rest,
    (runGovernedRollbackWithPrimitive ⟨receipt, permit, storeTrusted, now⟩).Path events rest →
      0 < events.countP startsRestore →
        permit.receiptId = receipt.receiptId ∧
        permit.receiptHash = hashKernelObject receipt.toJson ∧
        permit.expectedHead = receipt.headCommit ∧
        permit.targetFiles.Perm (receipt.targetHashes.map (·.path)) ∧
        InWindow permit.issuedAt permit.expiresAt now

/-- Nothing in the inputs themselves keeps a restore from starting. -/
structure Restorable (receipt : RetainReceipt) (permit : RollbackPermit) (now : Str) : Prop where
  validReceipt : receipt.issues = []
  validPermit : permit.issues = []
  head : isGitObjectId receipt.headCommit = true
  binding : rollbackBindingReasons receipt permit now = []
  sameAfter : ∀ a ∈ receipt.targetHashes, ∀ b ∈ receipt.targetHashes, a.path = b.path →
    a.afterHash = b.afterHash
  sameBefore : ∀ a ∈ receipt.targetHashes, ∀ b ∈ receipt.targetHashes, a.path = b.path →
    a.beforeHash ≠ none → b.beforeHash ≠ none → a.beforeHash = b.beforeHash

lemma rollbackBindingReasons_eq_nil {receipt : RetainReceipt} {permit : RollbackPermit}
    {now : Str} : rollbackBindingReasons receipt permit now = [] ↔
      (permit.receiptId = receipt.receiptId ∧
        permit.receiptHash = hashKernelObject receipt.toJson) ∧
      permit.expectedHead = receipt.headCommit ∧
      sameStringArrays permit.targetFiles (targetPaths receipt) = true ∧
      isExpired permit.expiresAt now = false ∧ isBefore now permit.issuedAt = false := by
  simp [rollbackBindingReasons, and_assoc]

/-- Answers under which the workspace is as the receipt says. -/
def matchingReads (receipt : RetainReceipt) : WorkspaceReads where
  filterReasons := []
  submoduleReasons := []
  partialCloneReasons := []
  repository := .ok ⟨receipt.headCommit, receipt.repositoryIdentityHash, targetPaths receipt, false,
    fun _ => none⟩
  topologyReasons := .ok []
  missingTopologyReasons := .ok []
  commitPathExists _ := .ok false
  commitWorktreeHashes := .ok fun path =>
    (receipt.targetHashes.find? fun target => target.path = path && target.beforeHash ≠ none).bind
      (·.beforeHash)
  workspacePathHash path :=
    .ok ((receipt.targetHashes.find? (·.path = path)).map (·.afterHash))

lemma matchingReads_state {receipt : RetainReceipt} {permit : RollbackPermit} {now : Str}
    (h : Restorable receipt permit now) :
    validateRollbackWorkspaceState receipt (matchingReads receipt) = [] := by
  have hafter : ∀ target ∈ receipt.targetHashes,
      (matchingReads receipt).workspacePathHash target.path = .ok (some target.afterHash) := by
    intro target ht
    obtain ⟨found, hfound, hfind, hp⟩ := find?_of_mem
      (p := fun other : RetainTargetHash => decide (other.path = target.path)) ht (by simp)
    rw [decide_eq_true_eq] at hp
    simp only [matchingReads, hfind, Option.map_some, h.sameAfter target ht found hfound hp.symm]
  have hbefore : ∀ target ∈ receipt.targetHashes, target.beforeHash ≠ none →
      ((receipt.targetHashes.find? fun other =>
        other.path = target.path && other.beforeHash ≠ none).bind (·.beforeHash)) =
        target.beforeHash := by
    intro target ht hne
    obtain ⟨found, hfound, hfind, hp⟩ := find?_of_mem (p := fun other : RetainTargetHash =>
      decide (other.path = target.path) && decide (other.beforeHash ≠ none)) ht (by simpa using hne)
    rw [Bool.and_eq_true, decide_eq_true_eq, decide_eq_true_eq] at hp
    rw [hfind, h.sameBefore target ht found hfound hp.1.symm hne hp.2]
    rfl
  unfold validateRollbackWorkspaceState
  dsimp only [matchingReads]
  rw [if_neg (by simp), if_neg (by simp), if_neg]
  · exact uniqueStrings_eq_nil.mpr (hashReasons_eq_nil.mpr hafter)
  · rw [not_not, List.append_eq_nil_iff, List.flatMap_eq_nil_iff]
    refine ⟨by simp [sameStringArrays], fun target ht => ?_⟩
    obtain ⟨ht, hne⟩ := List.mem_filter.mp ht
    exact reasonUnless_eq_nil.mpr (decide_eq_true (hbefore target ht (by simpa using hne)))

/-- The events of a rollback up to its restore. -/
def restoreEvents (receipt : RetainReceipt) (permit : RollbackPermit) : List RollbackEvent :=
  [⟨.acquireRollbackLock, true⟩, ⟨.inspectWorkspace receipt, matchingReads receipt⟩,
    ⟨.consumePermit (consumptionKey permit), .ok true⟩,
    ⟨.inspectWorkspace receipt, matchingReads receipt⟩, ⟨.startRestore receipt, ()⟩]

lemma exists_restore {receipt : RetainReceipt} {permit : RollbackPermit} {now : Str}
    (h : Restorable receipt permit now) :
    ∃ rest, (runGovernedRollbackWithPrimitive ⟨receipt, permit, true, now⟩).Path
      (restoreEvents receipt permit) rest := by
  have hstate := matchingReads_state h
  unfold runGovernedRollbackWithPrimitive restoreEvents
  dsimp only
  rw [parse_eq_ok.mpr ⟨h.validReceipt, rfl⟩, parse_eq_ok.mpr ⟨h.validPermit, rfl⟩]
  simp only [Process.pure_eq, Process.query_bind, Bool.not_true, Bool.false_eq_true, if_false]
  apply Process.exists_path_cons
  unfold rollbackUnderLock validateRollbackPreflight
  simp only [h.head, Process.pure_eq, Process.query_bind, Process.ask_bind, Process.done_bind,
    Bool.not_true, Bool.false_eq_true, if_false]
  apply Process.exists_path_cons
  simp only [h.binding, hstate, List.append_nil, uniqueStrings_eq_nil.mpr, ne_eq, not_true_eq_false,
    if_false]
  apply Process.exists_path_cons
  apply Process.exists_path_cons
  simp only [hstate, not_true_eq_false, if_false]
  apply Process.exists_path_cons
  exact ⟨_, Process.Path.nil _⟩

lemma restorable_of_restore {receipt : RetainReceipt} {permit : RollbackPermit} {now : Str}
    {storeTrusted : Bool} {events : List RollbackEvent}
    {rest : RollbackProcess (Result GovernedRollbackResult)}
    (h : (runGovernedRollbackWithPrimitive ⟨receipt, permit, storeTrusted, now⟩).Path events rest)
    (hstarts : 0 < events.countP startsRestore) : Restorable receipt permit now := by
  have haccounted := rollback_accounted _ h
  obtain ⟨hreceipt, hpermit, hhead, hbinding⟩ := haccounted.bound hstarts
  obtain ⟨reads, hreads⟩ := haccounted.inspected hstarts
  obtain ⟨⟨restorable, -, hbefore⟩, hafter⟩ := workspaceState_eq_nil hreads
  refine ⟨hreceipt, hpermit, hhead, hbinding, ?_, ?_⟩
  · intro a ha b hb hpath
    have hread := hafter a ha
    rw [hpath, hafter b hb] at hread
    simpa using hread.symm
  · intro a ha b hb hpath hane hbne
    rw [← hbefore a ha hane, ← hbefore b hb hbne, hpath]

lemma restoreBound_iff (receipt : RetainReceipt) (permit : RollbackPermit) (now : Str) :
    RestoreBound receipt permit now ↔
      (Parses permit.issuedAt ∨ ¬ Restorable receipt permit now) := by
  constructor
  · intro hbound
    by_contra hnot
    rw [not_or, not_not] at hnot
    obtain ⟨rest, hpath⟩ := exists_restore hnot.2
    have hwindow := (hbound true _ rest hpath Nat.one_pos).2.2.2.2
    obtain ⟨issued, -, -, hissued, -⟩ := hwindow
    exact hnot.1 ⟨issued, hissued⟩
  · intro hcond storeTrusted events rest hpath hstarts
    have hrestorable := restorable_of_restore hpath hstarts
    have hparses := hcond.resolve_right (not_not.mpr hrestorable)
    obtain ⟨⟨hid, hhash⟩, hhead, htargets, hexpired, hbefore⟩ :=
      rollbackBindingReasons_eq_nil.mp hrestorable.binding
    refine ⟨hid, hhash, hhead, ?_, inWindow_of_checks hexpired hbefore hparses⟩
    exact (perm_of_sameStringArrays htargets).trans (List.perm_insertionSort _ _)

end

section
attribute [local instance] asciiRuntime

/-- A permit that was issued at no instant at all. -/
def undatedPermit : RollbackPermit := { restorePermit with issuedAt := "soon" }

end

end CodexRouter.Retain
