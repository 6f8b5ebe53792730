import CodexRouter.Js.Normal
import CodexRouter.Provider.Formed
import CodexRouter.Provider.Validation
import CodexRouter.Js.Ascii

/-!
# Issue and validation agree

An issued permit is validated while it lasts, and a validated permit could have been issued. Each
kind has one theorem for either direction; those of the first two kinds state what is missing.
-/

open Js CodexRouter.Kernel

namespace CodexRouter.Provider

/-! ## Lists of paths -/

lemma toSlashes_eq_nil {s : Str} : toSlashes s = [] ↔ s = [] := by
  unfold toSlashes
  exact List.map_eq_nil_iff

lemma isSafe_toSlashes (file : Str) :
    isSafeWorkspaceRelativeFilePath (toSlashes file) = isSafeWorkspaceRelativeFilePath file := by
  unfold isSafeWorkspaceRelativeFilePath
  rw [toSlashes_toSlashes]

section

variable [Collation]

lemma mem_normalizePathList {paths : List Str} {file : Str} :
    file ∈ normalizePathList paths ↔ ∃ path ∈ paths, toSlashes path = file := by
  unfold normalizePathList
  rw [mem_sortLocale, mem_distinct, List.mem_map]

lemma nodup_normalizePathList (paths : List Str) : (normalizePathList paths).Nodup :=
  (sortLocale_perm _).nodup_iff.mpr (nodup_distinct _)

@[simp] lemma normalizePathList_twice (paths : List Str) :
    normalizePathList (normalizePathList paths) = normalizePathList paths := by
  have hslashes : (normalizePathList paths).map toSlashes = normalizePathList paths := by
    apply (List.map_congr_left _).trans (List.map_id _)
    intro file hfile
    obtain ⟨path, -, rfl⟩ := mem_normalizePathList.mp hfile
    exact toSlashes_toSlashes path
  calc normalizePathList (normalizePathList paths)
      = sortLocale (distinct (normalizePathList paths)) := by
        rw [← congrArg distinct hslashes]
        rfl
    _ = sortLocale (normalizePathList paths) := by
        rw [distinct_of_nodup (nodup_normalizePathList paths)]
    _ = normalizePathList paths := sortLocale_sortLocale _

lemma normalizePathList_eq_nil {paths : List Str} : normalizePathList paths = [] ↔ paths = [] := by
  rw [List.eq_nil_iff_forall_not_mem, List.eq_nil_iff_forall_not_mem]
  constructor
  · intro h path hpath
    exact h _ (mem_normalizePathList.mpr ⟨path, hpath, rfl⟩)
  · intro h file hfile
    obtain ⟨path, hpath, -⟩ := mem_normalizePathList.mp hfile
    exact h path hpath

/-- Paths that differ in their slashes alone become one. -/
lemma length_normalizePathList (paths : List Str) :
    (distinct (normalizePathList paths)).length ≤ (distinct paths).length := by
  rw [length_distinct, length_distinct]
  apply (Finset.card_le_card _).trans (Finset.card_image_le (f := toSlashes))
  intro file hfile
  rw [List.mem_toFinset] at hfile
  obtain ⟨path, hpath, rfl⟩ := mem_normalizePathList.mp hfile
  exact Finset.mem_image_of_mem toSlashes (List.mem_toFinset.mpr hpath)

lemma all_normalizePathList {paths : List Str} {p : Str → Prop}
    (hp : ∀ path, p (toSlashes path) ↔ p path) :
    (∀ file ∈ normalizePathList paths, p file) ↔ ∀ path ∈ paths, p path := by
  constructor
  · intro h path hpath
    exact (hp path).mp (h _ (mem_normalizePathList.mpr ⟨path, hpath, rfl⟩))
  · intro h file hfile
    obtain ⟨path, hpath, rfl⟩ := mem_normalizePathList.mp hfile
    exact (hp path).mpr (h path hpath)

end

/-! ## Lists of reasons -/

@[simp] lemma differs_eq_nil {before name permitted planned : Str} :
    differs before name permitted planned = [] ↔ permitted = planned := by
  unfold differs
  simp

@[simp] lemma optionDiffers_eq_nil {permitted planned : Option Str} {mismatch required : Str} :
    optionDiffers permitted planned mismatch required = [] ↔
      planned = none ∨ permitted = planned := by
  unfold optionDiffers
  cases permitted <;> cases planned <;> simp

@[simp] lemma requiredDiffers_eq_nil {permitted : Str} {planned : Option Str}
    {required mismatch : Str} :
    requiredDiffers permitted planned required mismatch = [] ↔ planned = some permitted := by
  unfold requiredDiffers
  cases planned with
  | none => simp
  | some planned => simpa using eq_comm

@[simp] lemma bothDiffer_eq_nil {permitted planned : Option Str} {required mismatch : Str} :
    bothDiffer permitted planned required mismatch = [] ↔
      planned.isSome ∧ permitted = planned := by
  unfold bothDiffer
  cases permitted <;> cases planned <;> simp

lemma beforeCommitReasons_eq_nil {before beforeCommit : Str} {headCommit : Option Str} :
    beforeCommitReasons before headCommit beforeCommit = [] ↔
      headCommit = some beforeCommit ∧ beforeCommit ≠ [] := by
  unfold beforeCommitReasons
  cases headCommit with
  | none => simp
  | some commit =>
    by_cases h : commit = []
    · simp [h]
    · simp only [Option.getD_some, h, if_false, reasonIf_eq_nil, decide_eq_false_iff_not, not_not,
        Option.some.injEq]
      constructor
      · intro he
        exact ⟨he.symm, he ▸ h⟩
      · intro he
        exact he.1.symm

/-- What a write may touch, as issue and validation both ask. -/
@[mk_iff]
structure WriteBounds.Governed (bounds : WriteBounds) : Prop where
  targets : bounds.targetFiles ≠ []
  count : bounds.maxChangedFiles.exceededBy (distinct bounds.targetFiles).length = false
  safe : ∀ file ∈ bounds.targetFiles, isSafeWorkspaceRelativeFilePath file
  rollback : bounds.rollbackRequired
  branchForbidden : bounds.protectedBranchForbidden
  branch : bounds.repositoryState.protectedBranch = false
  worktreeForbidden : bounds.dirtyWorktreeForbidden
  worktree : bounds.repositoryState.worktreeClean

lemma governanceBlockers_eq_nil {bounds : WriteBounds} {before : Str} :
    governanceBlockers bounds before = [] ↔ bounds.Governed := by
  unfold governanceBlockers
  simp only [distinct_eq_nil, List.append_eq_nil_iff, reasonIf_eq_nil, decide_eq_false_iff_not,
    List.any_eq_false, mem_distinct, Bool.not_eq_eq_eq_not, Bool.not_true, Bool.not_false,
    Bool.or_eq_false_iff, Bool.not_eq_false, WriteBounds.governed_iff, ne_eq, and_assoc]

/-- Bounds whose targets are normalized stay governed. -/
lemma WriteBounds.Governed.normalized [Collation] {bounds : WriteBounds} (h : bounds.Governed) :
    { bounds with targetFiles := normalizePathList bounds.targetFiles }.Governed where
  targets := by
    intro hnil
    exact h.targets (normalizePathList_eq_nil.mp hnil)
  count := Js.Num.exceededBy_mono h.count (length_normalizePathList _)
  safe := (all_normalizePathList fun path => by rw [isSafe_toSlashes]).mpr h.safe
  rollback := h.rollback
  branchForbidden := h.branchForbidden
  branch := h.branch
  worktreeForbidden := h.worktreeForbidden
  worktree := h.worktree

/-! ## Plans and times -/

section

variable [Runtime]

def planHash (plan : ExecutorExecutionPlan) : Str :=
  hashProviderObject (executorExecutionPlanSchema.write plan)

omit [Runtime] in
lemma formed_of_parse {planInput : Json} {plan : ExecutorExecutionPlan}
    (h : executorExecutionPlanSchema.parse planInput = .ok plan) : plan.Formed :=
  executorExecutionPlan_valid.mp (Schema.valid_of_read (Schema.parse_eq_ok.mp h))

/-- A plan that was read is read again. -/
lemma hashExecutorExecutionPlan_eq {plan : ExecutorExecutionPlan} (h : plan.Formed) :
    hashExecutorExecutionPlan plan = .ok (planHash plan) := by
  have hvalid := executorExecutionPlan_valid.mpr h
  unfold hashExecutorExecutionPlan
  rw [Schema.parse_eq_ok.mpr hvalid]
  rfl

/-- The nonce of a permit for reading. -/
def permitNonce (plan : ExecutorExecutionPlan) (issuedAt expiresAt : Str) : Str :=
  (hashProviderObject (.obj [(js "planHash", .str (planHash plan)),
    (js "issuedAt", .str issuedAt), (js "expiresAt", .str expiresAt)])).take 24

lemma createProviderPermitNonce_eq {plan : ExecutorExecutionPlan} (h : plan.Formed)
    (issuedAt expiresAt : Str) :
    createProviderPermitNonce plan issuedAt expiresAt = .ok (permitNonce plan issuedAt expiresAt) := by
  unfold createProviderPermitNonce
  rw [hashExecutorExecutionPlan_eq h]
  rfl

omit [Runtime] in
lemma supports_eq {plan : ExecutorExecutionPlan} (h : plan.Formed) (manifest : ProviderManifest) :
    providerSupportsSandboxProfile manifest (sandboxProfileSchema.write plan.sandboxProfile) =
      .ok (supportsParsedProfile manifest plan.sandboxProfile) := by
  unfold providerSupportsSandboxProfile
  rw [Schema.parse_eq_ok.mpr h.sandboxProfile]
  rfl

/-- The permit lasts at `now`; all three times are readable. -/
def Lasts (issuedAt expiresAt now : Str) : Prop :=
  ∃ issuedAtMs expiresAtMs nowMs, Runtime.dateParse issuedAt = some issuedAtMs
    ∧ Runtime.dateParse expiresAt = some expiresAtMs ∧ Runtime.dateParse now = some nowMs
    ∧ issuedAtMs ≤ nowMs ∧ nowMs < expiresAtMs

lemma validateTimestamps_eq_nil {issuedAt expiresAt now : Str} (before : Str)
    (h : Lasts issuedAt expiresAt now) :
    validateTimestamps issuedAt expiresAt before (some now) = [] := by
  obtain ⟨issuedAtMs, expiresAtMs, nowMs, hissued, hexpires, hnow, hle, hlt⟩ := h
  unfold validateTimestamps
  simp only [hissued, hexpires, hnow, List.append_eq_nil_iff, reasonIf_eq_nil, Option.any_some,
    decide_eq_false_iff_not, Option.isNone_some, true_and]
  omega

omit [Runtime] in
/-- Both inputs are read, and the condition holds of what was read. -/
def Reads (planInput manifestInput : Json)
    (condition : ExecutorExecutionPlan → ProviderManifest → Prop) : Prop :=
  ∃ plan manifest, executorExecutionPlanSchema.parse planInput = .ok plan
    ∧ providerManifestSchema.parse manifestInput = .ok manifest ∧ condition plan manifest

omit [Runtime] in
lemma reads_iff {planInput manifestInput : Json} {plan : ExecutorExecutionPlan}
    {manifest : ProviderManifest} (hplan : executorExecutionPlanSchema.parse planInput = .ok plan)
    (hmanifest : providerManifestSchema.parse manifestInput = .ok manifest)
    {condition : ExecutorExecutionPlan → ProviderManifest → Prop} :
    Reads planInput manifestInput condition ↔ condition plan manifest := by
  unfold Reads
  simp only [hplan, hmanifest, Except.ok.injEq]
  constructor
  · intro ⟨_, _, h, h', hcondition⟩
    rwa [h, h']
  · intro hcondition
    exact ⟨plan, manifest, rfl, rfl, hcondition⟩

/-! ## Reading -/

omit [Runtime] in
lemma readOnlyIssuanceBlockers_eq_nil {plan : ExecutorExecutionPlan}
    {approvalStatus : Option PermitApprovalStatus} :
    readOnlyIssuanceBlockers plan approvalStatus = [] ↔
      plan.sideEffectClass = .readOnly ∧ plan.sandboxProfile.mode = .readOnly
      ∧ plan.approvalRequired = false ∧ (∀ status ∈ approvalStatus, status = .notRequired)
      ∧ plan.policyDecisionHash.isSome := by
  unfold readOnlyIssuanceBlockers
  cases approvalStatus <;> simp [and_assoc]

/-- What validation asks of a permit for reading. -/
@[mk_iff]
structure ReadOnlyAccepted (permit : ProviderExecutionPermit) (plan : ExecutorExecutionPlan)
    (manifest : ProviderManifest) : Prop where
  status : permit.status = .approved
  approvalStatus : permit.approvalStatus = .notRequired
  consumedAt : permit.consumedAt = none
  providerId : permit.providerId = plan.providerId
  taskId : permit.taskId = plan.taskId
  taskHash : plan.taskHash = none ∨ permit.taskHash = plan.taskHash
  runId : permit.runId = plan.runId
  planId : permit.planId = plan.planId
  planHash : permit.planHash = planHash plan
  nonce : permit.nonce = permitNonce plan permit.issuedAt permit.expiresAt
  providerExecutionPlanHash : plan.providerExecutionPlanHash = none
    ∨ permit.providerExecutionPlanHash = plan.providerExecutionPlanHash
  principalId : plan.principalId = none ∨ permit.principalId = plan.principalId
  principalHash : plan.principalHash = none ∨ permit.principalHash = plan.principalHash
  sideEffectClass : permit.sideEffectClass.text = plan.sideEffectClass.text
  sandboxProfileId : permit.sandboxProfileId = plan.sandboxProfile.sandboxId
  manifestHash : permit.providerManifestHash = hashProviderManifest manifest
  planManifestHash : ∀ hash ∈ plan.providerManifestHash, permit.providerManifestHash = hash
  policy : plan.policyDecisionHash.isSome ∧ permit.policyDecisionHash = plan.policyDecisionHash

lemma readOnlyReasons_eq_nil {before : Str} {permit : ProviderExecutionPermit}
    {plan : ExecutorExecutionPlan} {manifest : ProviderManifest} {now : Option Str} :
    readOnlyReasons before permit plan manifest (planHash plan)
        (permitNonce plan permit.issuedAt permit.expiresAt) now = [] ↔
      ReadOnlyAccepted permit plan manifest
      ∧ validateTimestamps permit.issuedAt permit.expiresAt before now = [] := by
  unfold readOnlyReasons
  simp only [distinct_eq_nil, List.append_eq_nil_iff, reasonIf_eq_nil, differs_eq_nil,
    optionDiffers_eq_nil, bothDiffer_eq_nil, ne_eq, decide_not, Bool.not_eq_eq_eq_not,
    Bool.not_false, decide_eq_true_eq, Option.isSome_eq_false_iff, Option.isNone_iff_eq_none,
    Option.any_eq_false, readOnlyAccepted_iff, and_assoc]
  rfl

variable [PermitHost]

/-- The permit that the plan, the manifest and the issue make. -/
def readOnlyPermit (plan : ExecutorExecutionPlan) (manifest : ProviderManifest)
    (input : ProviderExecutionPermitIssueInput) (expiresAt : Str) : ProviderExecutionPermit where
  permitId := input.permitId.getD (js "permit_" ++ plan.planId)
  taskId := plan.taskId
  taskHash := plan.taskHash
  runId := plan.runId
  planId := plan.planId
  planHash := planHash plan
  providerExecutionPlanHash := plan.providerExecutionPlanHash
  providerId := plan.providerId
  providerManifestHash := hashProviderManifest manifest
  policyDecisionHash := plan.policyDecisionHash
  principalId := plan.principalId
  principalHash := plan.principalHash
  sideEffectClass := plan.sideEffectClass
  sandboxProfileId := plan.sandboxProfile.sandboxId
  status := .approved
  approvalStatus := input.approvalStatus.getD
    (if plan.approvalRequired then .pending else .notRequired)
  reasons := []
  issuedAt := input.issuedAt
  expiresAt
  nonce := permitNonce plan input.issuedAt expiresAt
  consumedAt := none

/-- An issue for reading returns this permit, where nothing is against it. -/
lemma createApproved_readOnly {input : ProviderExecutionPermitIssueInput}
    {plan : ExecutorExecutionPlan} {manifest : ProviderManifest}
    (hplan : executorExecutionPlanSchema.parse input.plan = .ok plan)
    (hmanifest : providerManifestSchema.parse input.manifest = .ok manifest)
    {permit : ProviderExecutionPermit} :
    createApprovedProviderExecutionPermit input = .ok permit ↔
      readOnlyIssuanceBlockers plan input.approvalStatus = [] ∧ ∃ expiresAt,
        expiresAtOf input.issuedAt input.expiresAt = .ok expiresAt
        ∧ (readOnlyPermit plan manifest input expiresAt).Formed
        ∧ permit = readOnlyPermit plan manifest input expiresAt := by
  have hformed := formed_of_parse hplan
  unfold createApprovedProviderExecutionPermit createProviderExecutionPermit
  simp only [hplan, hmanifest, ok_bind, createProviderPermitNonce_eq hformed,
    hashExecutorExecutionPlan_eq hformed]
  by_cases hblockers : readOnlyIssuanceBlockers plan input.approvalStatus = []
  · rw [if_neg (not_not.mpr hblockers)]
    simp only [bind_eq_ok, Schema.parse_write_eq_ok, providerExecutionPermit_valid, hblockers,
      true_and]
    rfl
  · rw [if_pos hblockers]
    simp only [fail_ne_ok, hblockers, false_and]

omit [PermitHost] in
lemma readOnlyPermit_accepted {plan : ExecutorExecutionPlan} {manifest : ProviderManifest}
    {input : ProviderExecutionPermitIssueInput}
    (h : readOnlyIssuanceBlockers plan input.approvalStatus = []) (expiresAt : Str) :
    ReadOnlyAccepted (readOnlyPermit plan manifest input expiresAt) plan manifest ↔
      ∀ hash ∈ plan.providerManifestHash, hashProviderManifest manifest = hash := by
  obtain ⟨-, -, happroval, hstatus, hpolicy⟩ := readOnlyIssuanceBlockers_eq_nil.mp h
  have happrovalStatus : input.approvalStatus.getD
      (if plan.approvalRequired then .pending else .notRequired) = .notRequired := by
    rw [happroval]
    cases hinput : input.approvalStatus with
    | none => rfl
    | some status => exact hstatus status hinput
  rw [readOnlyAccepted_iff]
  simp only [readOnlyPermit, happrovalStatus, hpolicy, or_true, true_and, and_true]

/-- What validation makes of inputs that are read. -/
lemma validate_readOnly {permitInput planInput manifestInput : Json}
    {permit : ProviderExecutionPermit} {plan : ExecutorExecutionPlan} {manifest : ProviderManifest}
    (hpermit : providerExecutionPermitSchema.parse permitInput = .ok permit)
    (hplan : executorExecutionPlanSchema.parse planInput = .ok plan)
    (hmanifest : providerManifestSchema.parse manifestInput = .ok manifest)
    (options : ValidationOptions) :
    validateProviderExecutionPermitForPlan permitInput planInput manifestInput options = .ok [] ↔
      ReadOnlyAccepted permit plan manifest
      ∧ validateTimestamps permit.issuedAt permit.expiresAt
        (options.reasonPrefix.getD "provider_execution_permit") options.now = [] := by
  have hformed := formed_of_parse hplan
  unfold validateProviderExecutionPermitForPlan
  simp only [hpermit, hplan, hmanifest, ok_bind, createProviderPermitNonce_eq hformed,
    hashExecutorExecutionPlan_eq hformed, pure_eq_ok, readOnlyReasons_eq_nil]

/-- While it lasts, an issued permit is validated when the plan names no other manifest. -/
theorem readOnly_validates_iff {input : ProviderExecutionPermitIssueInput}
    {permit : ProviderExecutionPermit}
    (hissued : createApprovedProviderExecutionPermit input = .ok permit) {now : Str}
    (hlasts : Lasts permit.issuedAt permit.expiresAt now) (before : Option Str) :
    validateProviderExecutionPermitForPlan (providerExecutionPermitSchema.write permit) input.plan
        input.manifest ⟨before, some now⟩ = .ok [] ↔
      Reads input.plan input.manifest fun plan manifest =>
        ∀ hash ∈ plan.providerManifestHash, hashProviderManifest manifest = hash := by
  have hreads : ∃ plan manifest, executorExecutionPlanSchema.parse input.plan = .ok plan
      ∧ providerManifestSchema.parse input.manifest = .ok manifest := by
    have hissue := hissued
    unfold createApprovedProviderExecutionPermit createProviderExecutionPermit at hissue
    obtain ⟨plan, hplan, hissue⟩ := bind_eq_ok.mp hissue
    dsimp only at hissue
    split_ifs at hissue
    · exact absurd hissue fail_ne_ok
    · obtain ⟨_, _, hissue⟩ := bind_eq_ok.mp hissue
      obtain ⟨manifest, hmanifest, -⟩ := bind_eq_ok.mp hissue
      exact ⟨plan, manifest, hplan, hmanifest⟩
  obtain ⟨plan, manifest, hplan, hmanifest⟩ := hreads
  obtain ⟨hblockers, expiresAt, -, hformed, hpermit⟩ :=
    (createApproved_readOnly hplan hmanifest).mp hissued
  subst hpermit
  have hparse := Schema.parse_eq_ok.mpr (providerExecutionPermit_valid.mpr hformed)
  rw [validate_readOnly hparse hplan hmanifest, reads_iff hplan hmanifest,
    readOnlyPermit_accepted hblockers]
  exact and_iff_left (validateTimestamps_eq_nil _ hlasts)

/-- The permit's own fields, for a plan and a manifest. -/
def ProviderExecutionPermit.issueInput (permit : ProviderExecutionPermit)
    (plan manifest : Json) : ProviderExecutionPermitIssueInput where
  plan
  manifest
  permitId := some permit.permitId
  approvalStatus := some permit.approvalStatus
  issuedAt := permit.issuedAt
  expiresAt := some permit.expiresAt

/-- A validated permit is issued again when its plan only reads and needs no approval. -/
theorem readOnly_reissued_iff {permitInput planInput manifestInput : Json}
    {permit : ProviderExecutionPermit} {options : ValidationOptions}
    (hpermit : providerExecutionPermitSchema.parse permitInput = .ok permit)
    (hvalidated : validateProviderExecutionPermitForPlan permitInput planInput manifestInput
      options = .ok []) :
    (∃ reissued, createApprovedProviderExecutionPermit
        (permit.issueInput planInput manifestInput) = .ok reissued) ↔
      Reads planInput manifestInput fun plan _ => plan.sideEffectClass = .readOnly
        ∧ plan.sandboxProfile.mode = .readOnly ∧ plan.approvalRequired = false := by
  have hreads : ∃ plan manifest, executorExecutionPlanSchema.parse planInput = .ok plan
      ∧ providerManifestSchema.parse manifestInput = .ok manifest := by
    have hvalid := hvalidated
    unfold validateProviderExecutionPermitForPlan at hvalid
    rw [hpermit] at hvalid
    dsimp only at hvalid
    obtain ⟨plan, hplan, hvalid⟩ := bind_eq_ok.mp hvalid
    obtain ⟨manifest, hmanifest, -⟩ := bind_eq_ok.mp hvalid
    exact ⟨plan, manifest, hplan, hmanifest⟩
  obtain ⟨plan, manifest, hplan, hmanifest⟩ := hreads
  obtain ⟨haccepted, -⟩ := (validate_readOnly hpermit hplan hmanifest options).mp hvalidated
  have hp : permit.Formed :=
    providerExecutionPermit_valid.mp (Schema.valid_of_read (Schema.parse_eq_ok.mp hpermit))
  have hq := formed_of_parse hplan
  have hplanHash : isDigest (planHash plan) := haccepted.planHash ▸ hp.planHash
  have hmanifestHash : isDigest (hashProviderManifest manifest) :=
    haccepted.manifestHash ▸ hp.providerManifestHash
  have hsandbox : plan.sandboxProfile.sandboxId ≠ [] :=
    haccepted.sandboxProfileId ▸ hp.sandboxProfileId
  have hnonce : permitNonce plan permit.issuedAt permit.expiresAt ≠ [] := haccepted.nonce ▸ hp.nonce
  have hagain : (readOnlyPermit plan manifest (permit.issueInput planInput manifestInput)
      permit.expiresAt).Formed :=
    { permitId := hp.permitId
      taskId := hq.taskId
      taskHash := hq.taskHash
      runId := hq.runId
      planId := hq.planId
      planHash := hplanHash
      providerExecutionPlanHash := hq.providerExecutionPlanHash
      providerId := hq.providerId
      providerManifestHash := hmanifestHash
      policyDecisionHash := hq.policyDecisionHash
      principalId := hq.principalId
      principalHash := hq.principalHash
      sandboxProfileId := hsandbox
      issuedAt := hp.issuedAt
      expiresAt := hp.expiresAt
      nonce := hnonce
      consumedAt := by simp [readOnlyPermit] }
  rw [reads_iff hplan hmanifest]
  constructor
  · intro ⟨reissued, h⟩
    obtain ⟨hblockers, -⟩ := (createApproved_readOnly hplan hmanifest).mp h
    obtain ⟨hclass, hmode, happroval, -⟩ := readOnlyIssuanceBlockers_eq_nil.mp hblockers
    exact ⟨hclass, hmode, happroval⟩
  · intro ⟨hclass, hmode, happroval⟩
    refine ⟨_, (createApproved_readOnly hplan hmanifest).mpr ⟨?_, _, rfl, hagain, rfl⟩⟩
    apply readOnlyIssuanceBlockers_eq_nil.mpr
    refine ⟨hclass, hmode, happroval, ?_, haccepted.policy.1⟩
    intro status hstatus
    exact (Option.some.inj hstatus).symm.trans haccepted.approvalStatus

/-! ## Writing, the first version -/

/-- What an issue for writing asks of the plan and the manifest. -/
@[mk_iff]
structure Writable (plan : ExecutorExecutionPlan) (manifest : ProviderManifest) : Prop where
  sideEffectClass : plan.sideEffectClass = .workspaceWrite
  mode : plan.sandboxProfile.mode = .workspaceWrite
  classSupported : providerSupportsSideEffectClass manifest .workspaceWrite
  profileSupported : supportsParsedProfile manifest plan.sandboxProfile

omit [Runtime] [PermitHost] in
lemma writeIssuanceBlockers_eq {plan : ExecutorExecutionPlan} (h : plan.Formed)
    (manifest : ProviderManifest) (before : Str) (approvalStatus : Option PermitApprovalStatus)
    (operatorAuthorizationId : Option Str) :
    ∃ reasons, writeIssuanceBlockers before plan manifest approvalStatus operatorAuthorizationId =
        .ok reasons
      ∧ (reasons = [] ↔ Writable plan manifest ∧ approvalStatus = some .approved
        ∧ operatorAuthorizationId.getD [] ≠ []) := by
  unfold writeIssuanceBlockers
  rw [supports_eq h]
  refine ⟨_, rfl, ?_⟩
  simp only [List.append_eq_nil_iff, reasonIf_eq_nil, ne_eq, decide_not, Bool.not_eq_eq_eq_not,
    Bool.not_false, decide_eq_true_eq, decide_eq_false_iff_not, writable_iff, and_assoc]

/-- What validation asks of a permit for writing. -/
@[mk_iff]
structure WriteAccepted (permit : WorkspaceWriteProviderExecutionPermit)
    (plan : ExecutorExecutionPlan) (manifest : ProviderManifest) : Prop where
  status : permit.status = .approved
  providerId : permit.providerId = plan.providerId
  taskId : permit.taskId = plan.taskId
  runId : ∀ id ∈ permit.runId, id = plan.runId
  planId : ∀ id ∈ permit.planId, id = plan.planId
  sideEffectClass : plan.sideEffectClass = .workspaceWrite
  sandboxProfileId : permit.sandboxProfileId = plan.sandboxProfile.sandboxId
  mode : plan.sandboxProfile.mode = .workspaceWrite
  manifestHash : ∀ hash ∈ permit.providerManifestHash, hash = hashProviderManifest manifest
  policy : ∀ hash ∈ permit.policyDecisionHash, some hash = plan.policyDecisionHash
  governed : permit.Governed

omit [Runtime] [PermitHost] in
lemma writePlanReasons_eq_nil {before sandboxProfileId : Str} {plan : ExecutorExecutionPlan} :
    writePlanReasons before sandboxProfileId plan = [] ↔
      plan.sideEffectClass = .workspaceWrite
      ∧ sandboxProfileId = plan.sandboxProfile.sandboxId
      ∧ plan.sandboxProfile.mode = .workspaceWrite := by
  unfold writePlanReasons
  simp only [List.append_eq_nil_iff, differs_eq_nil, reasonIf_eq_nil, ne_eq, decide_not,
    Bool.not_eq_eq_eq_not, Bool.not_false, decide_eq_true_eq, and_assoc]
  constructor
  · intro h
    exact h.2
  · intro h
    exact ⟨by rw [h.1]; rfl, h⟩

omit [PermitHost] in
lemma workspaceWriteReasons_eq_nil {before : Str} {permit : WorkspaceWriteProviderExecutionPermit}
    {plan : ExecutorExecutionPlan} {manifest : ProviderManifest} :
    workspaceWriteReasons before permit plan manifest = [] ↔ WriteAccepted permit plan manifest := by
  unfold workspaceWriteReasons
  simp only [distinct_eq_nil, List.append_eq_nil_iff, reasonIf_eq_nil, differs_eq_nil,
    List.flatMap_eq_nil_iff, Option.mem_toList, writePlanReasons_eq_nil, governanceBlockers_eq_nil,
    Option.any_eq_false, ne_eq, decide_not, Bool.not_eq_eq_eq_not, Bool.not_false, decide_eq_true_eq,
    writeAccepted_iff, and_assoc]
  rfl

/-- The permit that the plan, the manifest and the issue make. -/
def writePermit (plan : ExecutorExecutionPlan) (manifest : ProviderManifest)
    (input : WorkspaceWriteIssueInput) : WorkspaceWriteProviderExecutionPermit :=
  { input.toWriteBounds with
    permitId := input.permitId.getD (js "workspace_write_permit_" ++ plan.planId)
    taskId := plan.taskId
    runId := some plan.runId
    planId := some plan.planId
    providerId := plan.providerId
    providerManifestHash := some (hashProviderManifest manifest)
    policyDecisionHash := plan.policyDecisionHash
    sandboxProfileId := plan.sandboxProfile.sandboxId
    status := .approved
    approvalStatus := input.approvalStatus.getD .pending
    operatorAuthorizationId := input.operatorAuthorizationId
    reasons := []
    issuedAt := input.issuedAt }

omit [PermitHost] in
/-- An issue of the first version returns this permit, where nothing is against it. -/
lemma createApproved_write {input : WorkspaceWriteIssueInput} {plan : ExecutorExecutionPlan}
    {manifest : ProviderManifest}
    (hplan : executorExecutionPlanSchema.parse input.plan = .ok plan)
    (hmanifest : providerManifestSchema.parse input.manifest = .ok manifest)
    {permit : WorkspaceWriteProviderExecutionPermit} :
    createApprovedWorkspaceWriteProviderExecutionPermit input = .ok permit ↔
      Writable plan manifest ∧ input.approvalStatus = some .approved
      ∧ input.operatorAuthorizationId.getD [] ≠ [] ∧ input.Governed
      ∧ (writePermit plan manifest input).Formed ∧ permit = writePermit plan manifest input := by
  obtain ⟨reasons, hreasons, hnil⟩ := writeIssuanceBlockers_eq (formed_of_parse hplan) manifest
    writePrefix input.approvalStatus input.operatorAuthorizationId
  have hblocked : distinct (reasons ++ governanceBlockers input.toWriteBounds writePrefix) = [] ↔
      (Writable plan manifest ∧ input.approvalStatus = some .approved
        ∧ input.operatorAuthorizationId.getD [] ≠ []) ∧ input.Governed := by
    rw [distinct_eq_nil, List.append_eq_nil_iff, hnil, governanceBlockers_eq_nil]
  unfold createApprovedWorkspaceWriteProviderExecutionPermit
    createWorkspaceWriteProviderExecutionPermit workspaceWriteIssuanceBlockers
  simp only [hplan, hmanifest, hreasons, ok_bind, pure_bind]
  by_cases hblockers :
      distinct (reasons ++ governanceBlockers input.toWriteBounds writePrefix) = []
  · obtain ⟨⟨hwritable, happroved, hauthorized⟩, hgoverned⟩ := hblocked.mp hblockers
    rw [if_neg (not_not.mpr hblockers), Schema.parse_write_eq_ok,
      workspaceWriteProviderExecutionPermit_valid]
    constructor
    · intro h
      exact ⟨hwritable, happroved, hauthorized, hgoverned, h⟩
    · intro h
      exact h.2.2.2.2
  · rw [if_pos hblockers]
    constructor
    · intro h
      exact absurd h fail_ne_ok
    · intro ⟨hwritable, happroved, hauthorized, hgoverned, _⟩
      exact absurd (hblocked.mpr ⟨⟨hwritable, happroved, hauthorized⟩, hgoverned⟩) hblockers

/-- What validation makes of inputs that are read. -/
lemma validate_write {permitInput planInput manifestInput : Json}
    {permit : WorkspaceWriteProviderExecutionPermit} {plan : ExecutorExecutionPlan}
    {manifest : ProviderManifest}
    (hpermit : workspaceWriteProviderExecutionPermitSchema.parse permitInput = .ok permit)
    (hplan : executorExecutionPlanSchema.parse planInput = .ok plan)
    (hmanifest : providerManifestSchema.parse manifestInput = .ok manifest)
    (options : ValidationOptions) :
    validateWorkspaceWriteProviderExecutionPermitForPlan permitInput planInput manifestInput
      options = .ok [] ↔ WriteAccepted permit plan manifest := by
  unfold validateWorkspaceWriteProviderExecutionPermitForPlan
  simp only [hpermit, hplan, hmanifest, ok_bind, pure_eq_ok, workspaceWriteReasons_eq_nil]

/-- An issued permit is validated. -/
theorem write_validates {input : WorkspaceWriteIssueInput}
    {permit : WorkspaceWriteProviderExecutionPermit}
    (hissued : createApprovedWorkspaceWriteProviderExecutionPermit input = .ok permit)
    (options : ValidationOptions) :
    validateWorkspaceWriteProviderExecutionPermitForPlan
      (workspaceWriteProviderExecutionPermitSchema.write permit) input.plan input.manifest
      options = .ok [] := by
  have hissue := hissued
  unfold createApprovedWorkspaceWriteProviderExecutionPermit at hissue
  obtain ⟨plan, hplan, hissue⟩ := bind_eq_ok.mp hissue
  obtain ⟨manifest, hmanifest, -⟩ := bind_eq_ok.mp hissue
  obtain ⟨hwritable, -, -, hgoverned, hformed, hpermit⟩ :=
    (createApproved_write hplan hmanifest).mp hissued
  subst hpermit
  have hparse := Schema.parse_eq_ok.mpr (workspaceWriteProviderExecutionPermit_valid.mpr hformed)
  apply (validate_write hparse hplan hmanifest options).mpr
  rw [writeAccepted_iff]
  simp only [writePermit, hwritable.sideEffectClass, hwritable.mode, Option.mem_def,
    Option.some.injEq, forall_eq', true_and]
  refine ⟨?_, hgoverned⟩
  intro hash hhash
  exact hhash.symm

/-- The permit's own fields, for a plan and a manifest. -/
def WorkspaceWriteProviderExecutionPermit.issueInput
    (permit : WorkspaceWriteProviderExecutionPermit) (plan manifest : Json) :
    WorkspaceWriteIssueInput :=
  { permit.toWriteBounds with
    plan
    manifest
    permitId := some permit.permitId
    approvalStatus := some permit.approvalStatus
    operatorAuthorizationId := permit.operatorAuthorizationId
    issuedAt := permit.issuedAt }

/-- A validated permit is issued again when the manifest supports the write and the permit is
approved and names its authorization. -/
theorem write_reissued_iff (hsha : ∀ s, isDigest (Runtime.sha256 s))
    {permitInput planInput manifestInput : Json}
    {permit : WorkspaceWriteProviderExecutionPermit} {options : ValidationOptions}
    (hpermit : workspaceWriteProviderExecutionPermitSchema.parse permitInput = .ok permit)
    (hvalidated : validateWorkspaceWriteProviderExecutionPermitForPlan permitInput planInput
      manifestInput options = .ok []) :
    (∃ reissued, createApprovedWorkspaceWriteProviderExecutionPermit
        (permit.issueInput planInput manifestInput) = .ok reissued) ↔
      Reads planInput manifestInput fun plan manifest =>
        providerSupportsSideEffectClass manifest .workspaceWrite
        ∧ supportsParsedProfile manifest plan.sandboxProfile
        ∧ permit.approvalStatus = .approved ∧ permit.operatorAuthorizationId.isSome := by
  have hreads : ∃ plan manifest, executorExecutionPlanSchema.parse planInput = .ok plan
      ∧ providerManifestSchema.parse manifestInput = .ok manifest := by
    have hvalid := hvalidated
    unfold validateWorkspaceWriteProviderExecutionPermitForPlan at hvalid
    rw [hpermit] at hvalid
    obtain ⟨plan, hplan, hvalid⟩ := bind_eq_ok.mp hvalid
    obtain ⟨manifest, hmanifest, -⟩ := bind_eq_ok.mp hvalid
    exact ⟨plan, manifest, hplan, hmanifest⟩
  obtain ⟨plan, manifest, hplan, hmanifest⟩ := hreads
  have haccepted := (validate_write hpermit hplan hmanifest options).mp hvalidated
  have hp : permit.Formed :=
    workspaceWriteProviderExecutionPermit_valid.mp
      (Schema.valid_of_read (Schema.parse_eq_ok.mp hpermit))
  have hq := formed_of_parse hplan
  have hsandbox : plan.sandboxProfile.sandboxId ≠ [] :=
    haccepted.sandboxProfileId ▸ hp.sandboxProfileId
  have hmanifestHash : isDigest (hashProviderManifest manifest) := hsha _
  have hagain : (writePermit plan manifest (permit.issueInput planInput manifestInput)).Formed :=
    { permitId := hp.permitId
      taskId := hq.taskId
      runId := by simpa [writePermit] using hq.runId
      planId := by simpa [writePermit] using hq.planId
      providerId := hq.providerId
      providerManifestHash := by simpa [writePermit] using hmanifestHash
      policyDecisionHash := hq.policyDecisionHash
      sandboxProfileId := hsandbox
      approvalStatus := hp.approvalStatus
      operatorAuthorizationId := hp.operatorAuthorizationId
      targetFiles := hp.targetFiles
      maxChangedFiles := hp.maxChangedFiles
      maxDiffLines := hp.maxDiffLines
      repositoryState := hp.repositoryState
      issuedAt := hp.issuedAt }
  -- An identifier that was read is not empty.
  have hauthorized : permit.operatorAuthorizationId.getD [] ≠ [] ↔
      permit.operatorAuthorizationId.isSome := by
    cases hid : permit.operatorAuthorizationId with
    | none => simp
    | some id => simpa using hp.operatorAuthorizationId id hid
  rw [reads_iff hplan hmanifest]
  constructor
  · intro ⟨reissued, h⟩
    obtain ⟨hwritable, happroved, hid, -⟩ := (createApproved_write hplan hmanifest).mp h
    exact ⟨hwritable.classSupported, hwritable.profileSupported, Option.some.inj happroved,
      hauthorized.mp hid⟩
  · intro ⟨hclass, hprofile, happroved, hid⟩
    exact ⟨_, (createApproved_write hplan hmanifest).mpr
      ⟨⟨haccepted.sideEffectClass, haccepted.mode, hclass, hprofile⟩, congrArg some happroved,
        hauthorized.mpr hid, haccepted.governed, hagain, rfl⟩⟩

/-! ## Writing, the second version -/

variable [Collation]

/-- The commit and the files to roll back are those of the repository and of the targets. -/
@[mk_iff]
structure RollsBack (headCommit : Option Str) (targetFiles : List Str) (beforeCommit : Str)
    (affectedFiles : List Str) : Prop where
  headCommit : headCommit = some beforeCommit
  beforeCommit : beforeCommit ≠ []
  sameFiles : normalizePathList targetFiles = normalizePathList affectedFiles
  safe : ∀ file ∈ affectedFiles, isSafeWorkspaceRelativeFilePath file

omit [Runtime] [PermitHost] in
lemma rollbackReasons_eq_nil (before mismatch outOfBounds : Str) {beforeCommit : Str}
    {headCommit : Option Str} {targetFiles affectedFiles : List Str} :
    beforeCommitReasons before headCommit beforeCommit = []
        ∧ reasonIf (!sameStringSet (normalizePathList targetFiles)
          (normalizePathList affectedFiles)) mismatch = []
        ∧ reasonIf ((normalizePathList affectedFiles).any fun file =>
          !isSafeWorkspaceRelativeFilePath file) outOfBounds = [] ↔
      RollsBack headCommit targetFiles beforeCommit affectedFiles := by
  unfold sameStringSet
  simp only [beforeCommitReasons_eq_nil, reasonIf_eq_nil, normalizePathList_twice,
    Bool.not_eq_eq_eq_not, Bool.not_false, Bool.not_true, decide_eq_true_eq, List.any_eq_false,
    Bool.not_eq_false, rollsBack_iff, and_assoc]
  rw [all_normalizePathList fun path => by rw [isSafe_toSlashes]]

/-- What validation asks of a permit of the second version. -/
@[mk_iff]
structure WriteV2Accepted (permit : WorkspaceWriteProviderExecutionPermitV2)
    (plan : ExecutorExecutionPlan) (manifest : ProviderManifest) : Prop where
  status : permit.status = .approved
  approvalStatus : permit.approvalStatus = .approved
  consumedAt : permit.consumedAt = none
  providerId : permit.providerId = plan.providerId
  taskId : permit.taskId = plan.taskId
  taskHash : plan.taskHash = none ∨ permit.taskHash = plan.taskHash
  runId : permit.runId = plan.runId
  planId : permit.planId = plan.planId
  planHash : permit.planHash = planHash plan
  providerExecutionPlanHash : plan.providerExecutionPlanHash = some permit.providerExecutionPlanHash
  manifestHash : permit.providerManifestHash = hashProviderManifest manifest
  planManifestHash : ∀ hash ∈ plan.providerManifestHash, permit.providerManifestHash = hash
  policy : plan.policyDecisionHash = some permit.policyDecisionHash
  principalId : plan.principalId = none ∨ permit.principalId = plan.principalId
  principalHash : plan.principalHash = some permit.principalHash
  sideEffectClass : plan.sideEffectClass = .workspaceWrite
  sandboxProfileId : permit.sandboxProfileId = plan.sandboxProfile.sandboxId
  mode : plan.sandboxProfile.mode = .workspaceWrite
  classSupported : providerSupportsSideEffectClass manifest .workspaceWrite
  profileSupported : supportsParsedProfile manifest plan.sandboxProfile
  authorized : permit.operatorAuthorizationId.getD [] ≠ []
  governed : permit.Governed
  rollsBack : RollsBack permit.repositoryState.headCommit permit.targetFiles
    permit.rollback.beforeCommit permit.rollback.commandIdentity.affectedFiles
  commandHash : permit.rollback.commandIdentity.commandHash =
    rollbackCommandHash permit.rollback.beforeCommit permit.rollback.commandIdentity.affectedFiles
  nonce : permit.nonce = createV2Nonce permit (Provider.planHash plan)

omit [PermitHost] in
lemma rollbackCommandHash_normalized (beforeCommit : Str) (affectedFiles : List Str) :
    rollbackCommandHash beforeCommit (normalizePathList affectedFiles) =
      rollbackCommandHash beforeCommit affectedFiles := by
  unfold rollbackCommandHash
  rw [normalizePathList_twice]

omit [PermitHost] in
lemma rollbackBlockers_eq_nil {permit : WorkspaceWriteProviderExecutionPermitV2} {before : Str} :
    rollbackBlockers permit before = [] ↔
      RollsBack permit.repositoryState.headCommit permit.targetFiles
          permit.rollback.beforeCommit permit.rollback.commandIdentity.affectedFiles
        ∧ permit.rollback.commandIdentity.commandHash =
          rollbackCommandHash permit.rollback.beforeCommit
            permit.rollback.commandIdentity.affectedFiles := by
  unfold rollbackBlockers
  rw [distinct_eq_nil, List.append_eq_nil_iff, List.append_eq_nil_iff, List.append_eq_nil_iff,
    and_assoc, and_assoc, ← and_assoc (a := beforeCommitReasons _ _ _ = []), ← and_assoc]
  rw [and_assoc (a := beforeCommitReasons _ _ _ = []), rollbackReasons_eq_nil, reasonIf_eq_nil,
    rollbackCommandHash_normalized]
  simp

omit [PermitHost] in
lemma workspaceWriteV2Reasons_eq_nil {before : Str}
    {permit : WorkspaceWriteProviderExecutionPermitV2} {plan : ExecutorExecutionPlan}
    {manifest : ProviderManifest} {now : Option Str} :
    workspaceWriteV2Reasons before permit plan manifest (planHash plan)
        (supportsParsedProfile manifest plan.sandboxProfile) now = [] ↔
      WriteV2Accepted permit plan manifest
      ∧ validateTimestamps permit.issuedAt permit.expiresAt before now = [] := by
  unfold workspaceWriteV2Reasons
  simp only [distinct_eq_nil, List.append_eq_nil_iff, reasonIf_eq_nil, differs_eq_nil,
    optionDiffers_eq_nil, requiredDiffers_eq_nil, writePlanReasons_eq_nil,
    governanceBlockers_eq_nil, rollbackBlockers_eq_nil, ne_eq, decide_not, Bool.not_eq_eq_eq_not,
    Bool.not_false, decide_eq_true_eq, decide_eq_false_iff_not, Option.isSome_eq_false_iff,
    Option.isNone_iff_eq_none, Option.any_eq_false, Option.mem_def, writeV2Accepted_iff, and_assoc]

/-- What an issue of the second version asks besides what validation looks up in the permit. -/
@[mk_iff]
structure WriteV2Issuable (plan : ExecutorExecutionPlan) (manifest : ProviderManifest)
    (input : WorkspaceWriteV2IssueInput) : Prop where
  writable : Writable plan manifest
  approvalStatus : input.approvalStatus = some .approved
  authorized : input.operatorAuthorizationId.getD [] ≠ []
  providerExecutionPlanHash : plan.providerExecutionPlanHash.isSome
  planManifestHash : ∀ hash ∈ plan.providerManifestHash, hash = hashProviderManifest manifest
  policy : plan.policyDecisionHash.isSome
  principalHash : plan.principalHash.isSome
  rollsBack : RollsBack input.repositoryState.headCommit input.targetFiles input.beforeCommit
    (input.affectedFiles.getD (normalizePathList input.targetFiles))
  governed : input.Governed

omit [PermitHost] in
lemma workspaceWriteV2IssuanceBlockers_eq {plan : ExecutorExecutionPlan} (h : plan.Formed)
    (manifest : ProviderManifest) (input : WorkspaceWriteV2IssueInput) :
    ∃ reasons, workspaceWriteV2IssuanceBlockers plan manifest input = .ok reasons
      ∧ (reasons = [] ↔ WriteV2Issuable plan manifest input) := by
  obtain ⟨reasons, hreasons, hnil⟩ := writeIssuanceBlockers_eq h manifest writeV2Prefix
    input.approvalStatus input.operatorAuthorizationId
  unfold workspaceWriteV2IssuanceBlockers
  dsimp only
  rw [hreasons]
  refine ⟨_, rfl, ?_⟩
  rw [distinct_eq_nil]
  simp only [List.append_eq_nil_iff]
  constructor
  · intro ⟨⟨⟨⟨⟨⟨⟨⟨hblocked, hplanHash⟩, hmanifestHash⟩, hpolicy⟩, hprincipal⟩, hcommit⟩, hsame⟩,
      hsafe⟩, hgoverned⟩
    obtain ⟨hwritable, happroved, hauthorized⟩ := hnil.mp hblocked
    exact
      { writable := hwritable
        approvalStatus := happroved
        authorized := hauthorized
        providerExecutionPlanHash := by simpa using hplanHash
        planManifestHash := by simpa [Option.any_eq_false] using hmanifestHash
        policy := by simpa using hpolicy
        principalHash := by simpa using hprincipal
        rollsBack := (rollbackReasons_eq_nil _ _ _).mp ⟨hcommit, hsame, hsafe⟩
        governed := governanceBlockers_eq_nil.mp hgoverned }
  · intro hissuable
    obtain ⟨hcommit, hsame, hsafe⟩ := (rollbackReasons_eq_nil writeV2Prefix
      (writeV2Prefix ++ js "_rollback_affected_files_mismatch")
      (writeV2Prefix ++ js "_rollback_affected_file_out_of_bounds")).mpr hissuable.rollsBack
    have hblocked := hnil.mpr
      ⟨hissuable.writable, hissuable.approvalStatus, hissuable.authorized⟩
    refine ⟨⟨⟨⟨⟨⟨⟨⟨hblocked, ?_⟩, ?_⟩, ?_⟩, ?_⟩, hcommit⟩, hsame⟩, hsafe⟩,
      governanceBlockers_eq_nil.mpr hissuable.governed⟩
    · simpa using hissuable.providerExecutionPlanHash
    · simpa [Option.any_eq_false] using hissuable.planManifestHash
    · simpa using hissuable.policy
    · simpa using hissuable.principalHash

/-- The permit that the plan, the manifest and the issue make. -/
def writeV2Permit (plan : ExecutorExecutionPlan) (manifest : ProviderManifest)
    (input : WorkspaceWriteV2IssueInput) (expiresAt : Str) :
    WorkspaceWriteProviderExecutionPermitV2 :=
  let draftPermit : WorkspaceWriteProviderExecutionPermitV2 :=
    { input.toWriteBounds with
      permitId := input.permitId.getD (js "workspace_write_permit_v2_" ++ plan.planId)
      taskId := plan.taskId
      taskHash := plan.taskHash
      runId := plan.runId
      planId := plan.planId
      planHash := planHash plan
      providerExecutionPlanHash :=
        plan.providerExecutionPlanHash.getD (List.replicate 64 (cu '0'))
      providerId := plan.providerId
      providerManifestHash := hashProviderManifest manifest
      policyDecisionHash := plan.policyDecisionHash.getD "missing_policy_decision_hash"
      principalId := plan.principalId
      principalHash := plan.principalHash.getD (List.replicate 64 (cu '0'))
      sandboxProfileId := plan.sandboxProfile.sandboxId
      status := .approved
      approvalStatus := input.approvalStatus.getD .pending
      operatorAuthorizationId := input.operatorAuthorizationId
      targetFiles := normalizePathList input.targetFiles
      rollback := createRollbackBinding input.beforeCommit
        (normalizePathList (input.affectedFiles.getD (normalizePathList input.targetFiles)))
      reasons := []
      issuedAt := input.issuedAt
      expiresAt
      nonce := []
      consumedAt := none }
  { draftPermit with nonce := createV2Nonce draftPermit (planHash plan) }

/-- An issue of the second version returns this permit, where nothing is against it. -/
lemma createApproved_writeV2 {input : WorkspaceWriteV2IssueInput} {plan : ExecutorExecutionPlan}
    {manifest : ProviderManifest}
    (hplan : executorExecutionPlanSchema.parse input.plan = .ok plan)
    (hmanifest : providerManifestSchema.parse input.manifest = .ok manifest)
    {permit : WorkspaceWriteProviderExecutionPermitV2} :
    createApprovedWorkspaceWriteProviderExecutionPermitV2 input = .ok permit ↔
      WriteV2Issuable plan manifest input ∧ ∃ expiresAt,
        expiresAtOf input.issuedAt input.expiresAt = .ok expiresAt
        ∧ (writeV2Permit plan manifest input expiresAt).Formed
        ∧ permit = writeV2Permit plan manifest input expiresAt := by
  have hformed := formed_of_parse hplan
  obtain ⟨reasons, hreasons, hnil⟩ := workspaceWriteV2IssuanceBlockers_eq hformed manifest input
  unfold createApprovedWorkspaceWriteProviderExecutionPermitV2
    createWorkspaceWriteProviderExecutionPermitV2
  simp only [hplan, hmanifest, hreasons, ok_bind, hashExecutorExecutionPlan_eq hformed]
  by_cases hblockers : reasons = []
  · rw [if_neg (not_not.mpr hblockers)]
    simp only [bind_eq_ok, Schema.parse_write_eq_ok, workspaceWriteProviderExecutionPermitV2_valid,
      hnil.mp hblockers, true_and]
    rfl
  · rw [if_pos hblockers]
    constructor
    · intro h
      exact absurd h fail_ne_ok
    · intro h
      exact absurd (hnil.mpr h.1) hblockers

omit [Runtime] [PermitHost] in
/-- Normalized paths roll back alike. -/
lemma RollsBack.normalized {headCommit : Option Str} {targetFiles affectedFiles : List Str}
    {beforeCommit : Str} (h : RollsBack headCommit targetFiles beforeCommit affectedFiles) :
    RollsBack headCommit (normalizePathList targetFiles) beforeCommit
      (normalizePathList affectedFiles) where
  headCommit := h.headCommit
  beforeCommit := h.beforeCommit
  sameFiles := by simpa using h.sameFiles
  safe := (all_normalizePathList fun path => by rw [isSafe_toSlashes]).mpr h.safe

omit [Runtime] [PermitHost] [Collation] in
lemma eq_some_getD {hash : Option Str} (h : hash.isSome) (other : Str) :
    hash = some (hash.getD other) := by
  obtain ⟨hash, rfl⟩ := Option.isSome_iff_exists.mp h
  rfl

omit [PermitHost] in
lemma writeV2Permit_accepted {plan : ExecutorExecutionPlan} {manifest : ProviderManifest}
    {input : WorkspaceWriteV2IssueInput} (h : WriteV2Issuable plan manifest input)
    (expiresAt : Str) :
    WriteV2Accepted (writeV2Permit plan manifest input expiresAt) plan manifest where
  status := rfl
  approvalStatus := by simp [writeV2Permit, h.approvalStatus]
  consumedAt := rfl
  providerId := rfl
  taskId := rfl
  taskHash := .inr rfl
  runId := rfl
  planId := rfl
  planHash := rfl
  providerExecutionPlanHash := eq_some_getD h.providerExecutionPlanHash _
  manifestHash := rfl
  planManifestHash := fun hash hhash => (h.planManifestHash hash hhash).symm
  policy := eq_some_getD h.policy _
  principalId := .inr rfl
  principalHash := eq_some_getD h.principalHash _
  sideEffectClass := h.writable.sideEffectClass
  sandboxProfileId := rfl
  mode := h.writable.mode
  classSupported := h.writable.classSupported
  profileSupported := h.writable.profileSupported
  authorized := h.authorized
  governed := h.governed.normalized
  rollsBack := by
    have hrollsBack := h.rollsBack.normalized.normalized
    rw [normalizePathList_twice] at hrollsBack
    exact hrollsBack
  commandHash := rfl
  nonce := rfl

/-- What validation makes of inputs that are read. -/
lemma validate_writeV2 {permitInput planInput manifestInput : Json}
    {permit : WorkspaceWriteProviderExecutionPermitV2} {plan : ExecutorExecutionPlan}
    {manifest : ProviderManifest}
    (hpermit : workspaceWriteProviderExecutionPermitV2Schema.parse permitInput = .ok permit)
    (hplan : executorExecutionPlanSchema.parse planInput = .ok plan)
    (hmanifest : providerManifestSchema.parse manifestInput = .ok manifest)
    (options : ValidationOptions) :
    validateWorkspaceWriteProviderExecutionPermitV2ForPlan permitInput planInput manifestInput
        options = .ok [] ↔
      WriteV2Accepted permit plan manifest
      ∧ validateTimestamps permit.issuedAt permit.expiresAt
        (options.reasonPrefix.getD writeV2Prefix) options.now = [] := by
  have hformed := formed_of_parse hplan
  unfold validateWorkspaceWriteProviderExecutionPermitV2ForPlan
  simp only [hpermit, hplan, hmanifest, ok_bind, hashExecutorExecutionPlan_eq hformed,
    supports_eq hformed, pure_eq_ok, workspaceWriteV2Reasons_eq_nil]

/-- While it lasts, an issued permit is validated. -/
theorem writeV2_validates {input : WorkspaceWriteV2IssueInput}
    {permit : WorkspaceWriteProviderExecutionPermitV2}
    (hissued : createApprovedWorkspaceWriteProviderExecutionPermitV2 input = .ok permit) {now : Str}
    (hlasts : Lasts permit.issuedAt permit.expiresAt now) (before : Option Str) :
    validateWorkspaceWriteProviderExecutionPermitV2ForPlan
      (workspaceWriteProviderExecutionPermitV2Schema.write permit) input.plan input.manifest
      ⟨before, some now⟩ = .ok [] := by
  have hissue := hissued
  unfold createApprovedWorkspaceWriteProviderExecutionPermitV2 at hissue
  obtain ⟨plan, hplan, hissue⟩ := bind_eq_ok.mp hissue
  obtain ⟨manifest, hmanifest, -⟩ := bind_eq_ok.mp hissue
  obtain ⟨hissuable, expiresAt, -, hformed, hpermit⟩ :=
    (createApproved_writeV2 hplan hmanifest).mp hissued
  subst hpermit
  have hparse := Schema.parse_eq_ok.mpr (workspaceWriteProviderExecutionPermitV2_valid.mpr hformed)
  apply (validate_writeV2 hparse hplan hmanifest _).mpr
  exact ⟨writeV2Permit_accepted hissuable expiresAt, validateTimestamps_eq_nil _ hlasts⟩

/-- The permit's own fields, for a plan and a manifest. -/
def WorkspaceWriteProviderExecutionPermitV2.issueInput
    (permit : WorkspaceWriteProviderExecutionPermitV2) (plan manifest : Json) :
    WorkspaceWriteV2IssueInput :=
  { permit.toWriteBounds with
    plan
    manifest
    permitId := some permit.permitId
    approvalStatus := some permit.approvalStatus
    operatorAuthorizationId := permit.operatorAuthorizationId
    issuedAt := permit.issuedAt
    beforeCommit := permit.rollback.beforeCommit
    affectedFiles := some permit.rollback.commandIdentity.affectedFiles
    expiresAt := some permit.expiresAt }

omit [PermitHost] [Collation] in
lemma take_digest_ne_nil (hsha : ∀ s, isDigest (Runtime.sha256 s)) (value : Json) :
    (hashProviderObject value).take 32 ≠ [] := by
  intro hnil
  have hlength : (hashProviderObject value).length = 64 := by
    have hdigest := hsha value.stableStringify
    unfold isDigest at hdigest
    exact of_decide_eq_true (Bool.and_eq_true_iff.mp hdigest).1
  have htake := congrArg List.length hnil
  rw [List.length_take, hlength] at htake
  exact absurd htake (by decide)

/-- A validated permit is issued again. -/
theorem writeV2_reissued (hsha : ∀ s, isDigest (Runtime.sha256 s))
    {permitInput planInput manifestInput : Json}
    {permit : WorkspaceWriteProviderExecutionPermitV2} {options : ValidationOptions}
    (hpermit : workspaceWriteProviderExecutionPermitV2Schema.parse permitInput = .ok permit)
    (hvalidated : validateWorkspaceWriteProviderExecutionPermitV2ForPlan permitInput planInput
      manifestInput options = .ok []) :
    ∃ reissued, createApprovedWorkspaceWriteProviderExecutionPermitV2
      (permit.issueInput planInput manifestInput) = .ok reissued := by
  have hreads : ∃ plan manifest, executorExecutionPlanSchema.parse planInput = .ok plan
      ∧ providerManifestSchema.parse manifestInput = .ok manifest := by
    have hvalid := hvalidated
    unfold validateWorkspaceWriteProviderExecutionPermitV2ForPlan at hvalid
    rw [hpermit] at hvalid
    obtain ⟨plan, hplan, hvalid⟩ := bind_eq_ok.mp hvalid
    obtain ⟨manifest, hmanifest, -⟩ := bind_eq_ok.mp hvalid
    exact ⟨plan, manifest, hplan, hmanifest⟩
  obtain ⟨plan, manifest, hplan, hmanifest⟩ := hreads
  obtain ⟨haccepted, -⟩ := (validate_writeV2 hpermit hplan hmanifest options).mp hvalidated
  have hp : permit.Formed :=
    workspaceWriteProviderExecutionPermitV2_valid.mp
      (Schema.valid_of_read (Schema.parse_eq_ok.mp hpermit))
  have hq := formed_of_parse hplan
  have hissuable : WriteV2Issuable plan manifest (permit.issueInput planInput manifestInput) :=
    { writable := ⟨haccepted.sideEffectClass, haccepted.mode, haccepted.classSupported,
        haccepted.profileSupported⟩
      approvalStatus := congrArg some haccepted.approvalStatus
      authorized := haccepted.authorized
      providerExecutionPlanHash := by rw [haccepted.providerExecutionPlanHash]; rfl
      planManifestHash := by
        intro hash hhash
        rw [← haccepted.planManifestHash hash hhash, haccepted.manifestHash]
      policy := by rw [haccepted.policy]; rfl
      principalHash := by rw [haccepted.principalHash]; rfl
      rollsBack := haccepted.rollsBack
      governed := haccepted.governed }
  have hrollback : permit.rollback.Formed := permitRollback_valid.mp hp.rollback
  have hplanHash : isDigest (planHash plan) := hsha _
  have hmanifestHash : isDigest (hashProviderManifest manifest) := hsha _
  have hsandbox : plan.sandboxProfile.sandboxId ≠ [] :=
    haccepted.sandboxProfileId ▸ hp.sandboxProfileId
  have hfiles : ∀ {paths : List Str}, (∀ path ∈ paths, path ≠ []) →
      ∀ file ∈ normalizePathList paths, file ≠ [] := by
    intro paths hpaths
    exact (all_normalizePathList fun path => not_congr toSlashes_eq_nil).mpr hpaths
  have hagain : (writeV2Permit plan manifest (permit.issueInput planInput manifestInput)
      permit.expiresAt).Formed :=
    { permitId := hp.permitId
      taskId := hq.taskId
      taskHash := hq.taskHash
      runId := hq.runId
      planId := hq.planId
      planHash := hplanHash
      providerExecutionPlanHash := by
        simpa [writeV2Permit, haccepted.providerExecutionPlanHash] using
          hp.providerExecutionPlanHash
      providerId := hq.providerId
      providerManifestHash := hmanifestHash
      policyDecisionHash := by
        simpa [writeV2Permit, haccepted.policy] using hp.policyDecisionHash
      principalId := hq.principalId
      principalHash := by
        simpa [writeV2Permit, haccepted.principalHash] using hp.principalHash
      sandboxProfileId := hsandbox
      approvalStatus := hp.approvalStatus
      operatorAuthorizationId := hp.operatorAuthorizationId
      targetFiles := hfiles hp.targetFiles
      maxChangedFiles := hp.maxChangedFiles
      maxDiffLines := hp.maxDiffLines
      rollback := permitRollback_valid.mpr
        { beforeCommit := hrollback.beforeCommit
          commandHash := hsha _
          affectedFiles := hfiles (hfiles hrollback.affectedFiles) }
      repositoryState := hp.repositoryState
      issuedAt := hp.issuedAt
      expiresAt := hp.expiresAt
      nonce := take_digest_ne_nil hsha _
      consumedAt := by simp [writeV2Permit] }
  exact ⟨_, (createApproved_writeV2 hplan hmanifest).mpr ⟨hissuable, _, rfl, hagain, rfl⟩⟩

/-! ## All three kinds -/

/-- Issue and validation agree for the second version. For the first they agree on what is issued;
a validated permit is issued again when the manifest supports the write and the permit is approved
and authorized. A permit for reading is validated when its plan names no other manifest, and issued
again when its plan only reads and needs no approval. -/
theorem permits_agree_iff (hsha : ∀ s, isDigest (Runtime.sha256 s)) :
    (∀ input permit now before,
      createApprovedProviderExecutionPermit input = .ok permit →
      Lasts permit.issuedAt permit.expiresAt now →
      (validateProviderExecutionPermitForPlan (providerExecutionPermitSchema.write permit)
          input.plan input.manifest ⟨before, some now⟩ = .ok [] ↔
        Reads input.plan input.manifest fun plan manifest =>
          ∀ hash ∈ plan.providerManifestHash, hashProviderManifest manifest = hash)) ∧
    (∀ permitInput permit plan manifest options,
      providerExecutionPermitSchema.parse permitInput = .ok permit →
      validateProviderExecutionPermitForPlan permitInput plan manifest options = .ok [] →
      ((∃ reissued, createApprovedProviderExecutionPermit (permit.issueInput plan manifest) =
          .ok reissued) ↔
        Reads plan manifest fun plan _ => plan.sideEffectClass = .readOnly
          ∧ plan.sandboxProfile.mode = .readOnly ∧ plan.approvalRequired = false)) ∧
    (∀ input permit options,
      createApprovedWorkspaceWriteProviderExecutionPermit input = .ok permit →
      validateWorkspaceWriteProviderExecutionPermitForPlan
        (workspaceWriteProviderExecutionPermitSchema.write permit) input.plan input.manifest
        options = .ok []) ∧
    (∀ permitInput permit plan manifest options,
      workspaceWriteProviderExecutionPermitSchema.parse permitInput = .ok permit →
      validateWorkspaceWriteProviderExecutionPermitForPlan permitInput plan manifest options =
        .ok [] →
      ((∃ reissued, createApprovedWorkspaceWriteProviderExecutionPermit
          (permit.issueInput plan manifest) = .ok reissued) ↔
        Reads plan manifest fun plan manifest =>
          providerSupportsSideEffectClass manifest .workspaceWrite
          ∧ supportsParsedProfile manifest plan.sandboxProfile
          ∧ permit.approvalStatus = .approved ∧ permit.operatorAuthorizationId.isSome)) ∧
    (∀ input permit now before,
      createApprovedWorkspaceWriteProviderExecutionPermitV2 input = .ok permit →
      Lasts permit.issuedAt permit.expiresAt now →
      validateWorkspaceWriteProviderExecutionPermitV2ForPlan
        (workspaceWriteProviderExecutionPermitV2Schema.write permit) input.plan input.manifest
        ⟨before, some now⟩ = .ok []) ∧
    ∀ permitInput permit plan manifest options,
      workspaceWriteProviderExecutionPermitV2Schema.parse permitInput = .ok permit →
      validateWorkspaceWriteProviderExecutionPermitV2ForPlan permitInput plan manifest options =
        .ok [] →
      ∃ reissued, createApprovedWorkspaceWriteProviderExecutionPermitV2
        (permit.issueInput plan manifest) = .ok reissued := by
  refine ⟨?_, ?_, ?_, ?_, ?_, ?_⟩
  · intro input permit now before hissued hlasts
    exact readOnly_validates_iff hissued hlasts before
  · intro permitInput permit plan manifest options hpermit hvalidated
    exact readOnly_reissued_iff hpermit hvalidated
  · intro input permit options hissued
    exact write_validates hissued options
  · intro permitInput permit plan manifest options hpermit hvalidated
    exact write_reissued_iff hsha hpermit hvalidated
  · intro input permit now before hissued hlasts
    exact writeV2_validates hissued hlasts before
  · intro permitInput permit plan manifest options hpermit hvalidated
    exact writeV2_reissued hsha hpermit hvalidated

end

/-! ## On ASCII text -/

section

attribute [local instance] asciiRuntime codeUnitCollation

@[reducible] def plainPermitHost : PermitHost := ⟨fun _ => none, fun _ => []⟩

attribute [local instance] plainPermitHost

def zeroDigest : Str := List.replicate 64 (cu '0')

def planMembers (sideEffectClass mode : Str) : Record :=
  [("planId", .str "plan"), ("runId", .str "run"), ("providerId", .str "p"),
    ("inputHash", .str zeroDigest), ("approvalRequired", .bool false),
    ("sandboxProfile", .obj [("sandboxId", .str "s"), ("mode", .str mode)]),
    ("createdAt", .str "t"), ("taskId", .str "task"), ("policyDecisionHash", .str "policy"),
    ("sideEffectClass", .str sideEffectClass)]

def executorManifest : Json := .obj
  [("providerId", .str "p"), ("kind", .str "executor"), ("displayName", .str "P"),
    ("version", .str "1"), ("securityBoundary", .obj [])]

/-- The plan may name a manifest. -/
def readIssue (members : Record) : ProviderExecutionPermitIssueInput where
  plan := .obj (planMembers "read_only" "read-only" ++ members)
  manifest := executorManifest
  permitId := none
  approvalStatus := none
  issuedAt := "2026-01-01T00:00:00Z"
  expiresAt := some "2026-01-01T00:05:00Z"

lemma lasts_readIssue :
    Lasts "2026-01-01T00:00:00Z" "2026-01-01T00:05:00Z" "2026-01-01T00:01:00Z" := by
  refine ⟨1767225600000, 1767225900000, 1767225660000, ?_, ?_, ?_, ?_, ?_⟩
  all_goals decide +kernel

theorem permits_agree_issued : ∃ permit,
    createApprovedProviderExecutionPermit (readIssue []) = .ok permit ∧
    validateProviderExecutionPermitForPlan (providerExecutionPermitSchema.write permit)
      (readIssue []).plan (readIssue []).manifest ⟨none, some "2026-01-01T00:01:00Z"⟩ = .ok [] := by
  have htimes : ((createApprovedProviderExecutionPermit (readIssue [])).map fun permit =>
      (permit.issuedAt, permit.expiresAt)).toOption =
        some (js "2026-01-01T00:00:00Z", js "2026-01-01T00:05:00Z") := by decide +kernel
  have hplan : ((executorExecutionPlanSchema.parse (readIssue []).plan).map
      (·.providerManifestHash)).toOption = some none := by decide +kernel
  have hmanifest : (providerManifestSchema.parse (readIssue []).manifest).returns = true := by
    decide +kernel
  cases hissued : createApprovedProviderExecutionPermit (readIssue []) with
  | error e => simp [hissued, Except.map, Except.toOption] at htimes
  | ok permit =>
    cases hparse : executorExecutionPlanSchema.parse (readIssue []).plan with
    | error e => simp [hparse, Except.map, Except.toOption] at hplan
    | ok plan =>
      obtain ⟨manifest, hmanifest⟩ := Result.exists_ok hmanifest
      have hnone : plan.providerManifestHash = none := by
        simpa [hparse, Except.map, Except.toOption] using hplan
      have hissuedAt : permit.issuedAt = js "2026-01-01T00:00:00Z"
          ∧ permit.expiresAt = js "2026-01-01T00:05:00Z" := by
        simpa [hissued, Except.map, Except.toOption] using htimes
      have hlasts : Lasts permit.issuedAt permit.expiresAt (js "2026-01-01T00:01:00Z") := by
        rw [hissuedAt.1, hissuedAt.2]
        exact lasts_readIssue
      refine ⟨permit, rfl, ?_⟩
      apply ((permits_agree_iff isDigest_hex).1 (readIssue []) permit _ none hissued hlasts).mpr
      apply (reads_iff hparse hmanifest).mpr
      simp [hnone]

lemma isNumberText_one : isNumberText (js "1") = true := by
  decide

/-- A pending permit that names no authorization. -/
def pendingPermit : Json := .obj
  [("permitId", .str "permit"), ("taskId", .str "task"), ("providerId", .str "p"),
    ("sideEffectClass", .str "workspace_write"), ("sandboxProfileId", .str "s"),
    ("sandboxMode", .str "workspace-write"), ("status", .str "approved"),
    ("approvalStatus", .str "pending"), ("targetFiles", .arr [.str "a.txt"]),
    ("maxChangedFiles", .num ⟨js "1", isNumberText_one⟩),
    ("maxDiffLines", .num ⟨js "1", isNumberText_one⟩),
    ("rollbackRequired", .bool true), ("protectedBranchForbidden", .bool true),
    ("dirtyWorktreeForbidden", .bool true),
    ("repositoryState", .obj [("branch", .str "b"), ("protectedBranch", .bool false),
      ("worktreeClean", .bool true)]),
    ("issuedAt", .str "2026-01-01T00:00:00Z")]

def writePlan : Json := .obj (planMembers "workspace_write" "workspace-write")

/-- An issued permit for reading is refused, and a pending permit for writing is accepted that
cannot be issued again. -/
theorem permits_disagree :
    Lasts "2026-01-01T00:00:00Z" "2026-01-01T00:05:00Z" "2026-01-01T00:01:00Z" ∧
    (createApprovedProviderExecutionPermit (readIssue
        [("providerManifestHash", .str zeroDigest)]) >>= fun permit =>
      validateProviderExecutionPermitForPlan (providerExecutionPermitSchema.write permit)
        (readIssue [("providerManifestHash", .str zeroDigest)]).plan executorManifest
        ⟨none, some "2026-01-01T00:01:00Z"⟩).toOption =
      some [js "provider_execution_permit_plan_manifest_hash_mismatch"] ∧
    (validateWorkspaceWriteProviderExecutionPermitForPlan pendingPermit writePlan executorManifest
      ⟨none, none⟩).toOption = some [] ∧
    ((workspaceWriteProviderExecutionPermitSchema.parse pendingPermit).map fun permit =>
      (createApprovedWorkspaceWriteProviderExecutionPermit
        (permit.issueInput writePlan executorManifest)).returns).toOption = some false := by
  refine ⟨lasts_readIssue, ?_, ?_, ?_⟩
  all_goals decide +kernel

end

end CodexRouter.Provider
