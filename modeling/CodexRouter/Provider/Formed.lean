import CodexRouter.Js.Sha256
import CodexRouter.Js.Valid
import CodexRouter.Provider.Permits

/-!
# Well-formed plans and permits

What the schemas ask of the members of a plan and of a permit.
-/

open Js CodexRouter.Kernel

namespace CodexRouter.Provider

/-! ## Digests -/

lemma isHex_hexDigit : ∀ n < 16, (isDigit (Sha256.hexDigit n)
    || (0x61 ≤ (Sha256.hexDigit n).val && (Sha256.hexDigit n).val ≤ 0x66)) = true := by
  decide

lemma lt_of_mem_bigEndian {n x b : ℕ} (h : b ∈ Sha256.bigEndian n x) : b < 256 := by
  induction n generalizing x with
  | zero => simp [Sha256.bigEndian] at h
  | succ n ih =>
    rw [Sha256.bigEndian, List.mem_append, List.mem_singleton] at h
    rcases h with h | h
    · exact ih h
    · omega

lemma length_hexWord (w : Sha256.Word) : (Sha256.hexWord w).length = 8 := by
  simp [Sha256.hexWord, Sha256.bigEndian]

lemma isDigest_hex (s : Str) : isDigest (Sha256.hex s) = true := by
  unfold isDigest Sha256.hex
  rw [Bool.and_eq_true, decide_eq_true_eq, List.all_eq_true]
  constructor
  · simp [length_hexWord]
  · intro c hc
    obtain ⟨w, -, hw⟩ := List.mem_flatMap.mp hc
    unfold Sha256.hexWord at hw
    obtain ⟨b, hb, hc⟩ := List.mem_flatMap.mp hw
    have hlt := lt_of_mem_bigEndian hb
    simp only [List.mem_cons, List.not_mem_nil, or_false] at hc
    rcases hc with rfl | rfl
    · exact isHex_hexDigit _ (by omega)
    · exact isHex_hexDigit _ (by omega)

/-! ## Members -/

lemma digestSchema_valid {s : Str} : digestSchema.Valid s ↔ isDigest s := by
  unfold digestSchema
  rw [Schema.valid_refine, require_eq_nil]
  exact and_iff_right (Schema.valid_string s)

lemma stringsSlot_valid (l : List Str) : stringsSlot.Valid l := by
  show (Schema.array .string).Valid l
  rw [Schema.valid_array]
  exact fun s _ => Schema.valid_string s

lemma nonEmptyStringsSlot_valid {l : List Str} : nonEmptyStringsSlot.Valid l ↔ ∀ s ∈ l, s ≠ [] := by
  show (Schema.array .nonEmptyString).Valid l ↔ _
  rw [Schema.valid_array]
  simp only [Schema.valid_nonEmptyString]

lemma versionSlot_valid (version : Str) (u : Unit) : (versionSlot version).Valid u := if_pos rfl

lemma writeApprovalStatusSchema_valid {status : PermitApprovalStatus} :
    writeApprovalStatusSchema.Valid status ↔ status ≠ .notRequired := by
  unfold writeApprovalStatusSchema permitApprovalStatusSchema
  rw [Schema.valid_refine, require_eq_nil, decide_eq_true_eq]
  exact and_iff_right (Schema.valid_enum status)

lemma permitStatusSchema_valid (status : PermitStatus) : permitStatusSchema.Valid status :=
  Schema.valid_enum status

lemma permitApprovalStatusSchema_valid (status : PermitApprovalStatus) :
    permitApprovalStatusSchema.Valid status := Schema.valid_enum status

lemma providerSideEffectClassSchema_valid (sideEffectClass : ProviderSideEffectClass) :
    providerSideEffectClassSchema.Valid sideEffectClass := Schema.valid_enum sideEffectClass

/-! ## Plans and permits -/

@[mk_iff]
structure ExecutorExecutionPlan.Formed (plan : ExecutorExecutionPlan) : Prop where
  planId : plan.planId ≠ []
  runId : plan.runId ≠ []
  providerId : plan.providerId ≠ []
  inputHash : isDigest plan.inputHash
  requiredCapabilities : ∀ capability ∈ plan.requiredCapabilities, capability ≠ []
  sandboxProfile : sandboxProfileSchema.Valid plan.sandboxProfile
  createdAt : plan.createdAt ≠ []
  taskId : plan.taskId ≠ []
  taskHash : ∀ hash ∈ plan.taskHash, isDigest hash
  principalId : ∀ id ∈ plan.principalId, id ≠ []
  principalHash : ∀ hash ∈ plan.principalHash, isDigest hash
  providerExecutionPlanHash : ∀ hash ∈ plan.providerExecutionPlanHash, isDigest hash
  providerManifestHash : ∀ hash ∈ plan.providerManifestHash, isDigest hash
  policyDecisionHash : ∀ hash ∈ plan.policyDecisionHash, hash ≠ []
  metadata : recordSlot.Valid plan.metadata

theorem executorExecutionPlan_valid {plan : ExecutorExecutionPlan} :
    executorExecutionPlanSchema.Valid plan ↔ plan.Formed := by
  unfold executorExecutionPlanSchema
  rw [Schema.valid_object, Fields.valid_via]
  dsimp only [Equiv.coe_fn_symm_mk]
  simp only [Fields.valid_cons, Slot.valid_required, Slot.valid_optional,
    Fields.valid_nil, Schema.valid_nonEmptyString, Schema.valid_boolean, digestSchema_valid,
    nonEmptyStringsSlot_valid, versionSlot_valid, providerSideEffectClassSchema_valid, true_and,
    and_true, ExecutorExecutionPlan.formed_iff]

@[mk_iff]
structure ProviderExecutionPermit.Formed (permit : ProviderExecutionPermit) : Prop where
  permitId : permit.permitId ≠ []
  taskId : permit.taskId ≠ []
  taskHash : ∀ hash ∈ permit.taskHash, isDigest hash
  runId : permit.runId ≠ []
  planId : permit.planId ≠ []
  planHash : isDigest permit.planHash
  providerExecutionPlanHash : ∀ hash ∈ permit.providerExecutionPlanHash, isDigest hash
  providerId : permit.providerId ≠ []
  providerManifestHash : isDigest permit.providerManifestHash
  policyDecisionHash : ∀ hash ∈ permit.policyDecisionHash, hash ≠ []
  principalId : ∀ id ∈ permit.principalId, id ≠ []
  principalHash : ∀ hash ∈ permit.principalHash, isDigest hash
  sandboxProfileId : permit.sandboxProfileId ≠ []
  issuedAt : permit.issuedAt ≠ []
  expiresAt : permit.expiresAt ≠ []
  nonce : permit.nonce ≠ []
  consumedAt : ∀ time ∈ permit.consumedAt, time ≠ []

theorem providerExecutionPermit_valid {permit : ProviderExecutionPermit} :
    providerExecutionPermitSchema.Valid permit ↔ permit.Formed := by
  unfold providerExecutionPermitSchema
  rw [Schema.valid_object, Fields.valid_via]
  dsimp only [Equiv.coe_fn_symm_mk]
  simp only [Fields.valid_cons, Slot.valid_required, Slot.valid_optional,
    Fields.valid_nil, Schema.valid_nonEmptyString, digestSchema_valid, stringsSlot_valid,
    versionSlot_valid, permitStatusSchema_valid, permitApprovalStatusSchema_valid,
    providerSideEffectClassSchema_valid, true_and, and_true, ProviderExecutionPermit.formed_iff]

@[mk_iff]
structure WorkspaceWriteProviderExecutionPermit.Formed
    (permit : WorkspaceWriteProviderExecutionPermit) : Prop where
  permitId : permit.permitId ≠ []
  taskId : permit.taskId ≠ []
  runId : ∀ id ∈ permit.runId, id ≠ []
  planId : ∀ id ∈ permit.planId, id ≠ []
  providerId : permit.providerId ≠ []
  providerManifestHash : ∀ hash ∈ permit.providerManifestHash, isDigest hash
  policyDecisionHash : ∀ hash ∈ permit.policyDecisionHash, hash ≠ []
  sandboxProfileId : permit.sandboxProfileId ≠ []
  approvalStatus : permit.approvalStatus ≠ .notRequired
  operatorAuthorizationId : ∀ id ∈ permit.operatorAuthorizationId, id ≠ []
  targetFiles : ∀ file ∈ permit.targetFiles, file ≠ []
  maxChangedFiles : Schema.positiveInt.Valid permit.maxChangedFiles
  maxDiffLines : Schema.positiveInt.Valid permit.maxDiffLines
  repositoryState : permitRepositoryStateSchema.Valid permit.repositoryState
  issuedAt : permit.issuedAt ≠ []

theorem workspaceWriteProviderExecutionPermit_valid
    {permit : WorkspaceWriteProviderExecutionPermit} :
    workspaceWriteProviderExecutionPermitSchema.Valid permit ↔ permit.Formed := by
  unfold workspaceWriteProviderExecutionPermitSchema
  rw [Schema.valid_object, Fields.valid_via]
  dsimp only [Equiv.coe_fn_symm_mk]
  simp only [Fields.valid_cons, Slot.valid_required, Slot.valid_optional,
    Fields.valid_nil, Schema.valid_nonEmptyString, Schema.valid_boolean, Schema.valid_literal,
    digestSchema_valid, stringsSlot_valid, nonEmptyStringsSlot_valid, versionSlot_valid,
    permitStatusSchema_valid, writeApprovalStatusSchema_valid, true_and, and_true,
    WorkspaceWriteProviderExecutionPermit.formed_iff]

@[mk_iff]
structure WorkspaceWriteProviderExecutionPermitV2.Formed
    (permit : WorkspaceWriteProviderExecutionPermitV2) : Prop where
  permitId : permit.permitId ≠ []
  taskId : permit.taskId ≠ []
  taskHash : ∀ hash ∈ permit.taskHash, isDigest hash
  runId : permit.runId ≠ []
  planId : permit.planId ≠ []
  planHash : isDigest permit.planHash
  providerExecutionPlanHash : isDigest permit.providerExecutionPlanHash
  providerId : permit.providerId ≠ []
  providerManifestHash : isDigest permit.providerManifestHash
  policyDecisionHash : permit.policyDecisionHash ≠ []
  principalId : ∀ id ∈ permit.principalId, id ≠ []
  principalHash : isDigest permit.principalHash
  sandboxProfileId : permit.sandboxProfileId ≠ []
  approvalStatus : permit.approvalStatus ≠ .notRequired
  operatorAuthorizationId : ∀ id ∈ permit.operatorAuthorizationId, id ≠ []
  targetFiles : ∀ file ∈ permit.targetFiles, file ≠ []
  maxChangedFiles : Schema.positiveInt.Valid permit.maxChangedFiles
  maxDiffLines : Schema.positiveInt.Valid permit.maxDiffLines
  rollback : permitRollbackSchema.Valid permit.rollback
  repositoryState : permitRepositoryStateSchema.Valid permit.repositoryState
  issuedAt : permit.issuedAt ≠ []
  expiresAt : permit.expiresAt ≠ []
  nonce : permit.nonce ≠ []
  consumedAt : ∀ time ∈ permit.consumedAt, time ≠ []

theorem workspaceWriteProviderExecutionPermitV2_valid
    {permit : WorkspaceWriteProviderExecutionPermitV2} :
    workspaceWriteProviderExecutionPermitV2Schema.Valid permit ↔ permit.Formed := by
  unfold workspaceWriteProviderExecutionPermitV2Schema
  rw [Schema.valid_object, Fields.valid_via]
  dsimp only [Equiv.coe_fn_symm_mk]
  simp only [Fields.valid_cons, Slot.valid_required, Slot.valid_optional,
    Fields.valid_nil, Schema.valid_nonEmptyString, Schema.valid_boolean, Schema.valid_literal,
    digestSchema_valid, stringsSlot_valid, nonEmptyStringsSlot_valid, versionSlot_valid,
    permitStatusSchema_valid, writeApprovalStatusSchema_valid, true_and, and_true,
    WorkspaceWriteProviderExecutionPermitV2.formed_iff]

lemma rollbackCommandIdentity_valid {identity : RollbackCommandIdentity} :
    rollbackCommandIdentitySchema.Valid identity ↔
      isDigest identity.commandHash ∧ ∀ file ∈ identity.affectedFiles, file ≠ [] := by
  unfold rollbackCommandIdentitySchema
  rw [Schema.valid_object, Fields.valid_via]
  dsimp only [Equiv.coe_fn_symm_mk]
  simp only [Fields.valid_cons, Slot.valid_required, Fields.valid_nil,
    Schema.valid_literal, digestSchema_valid, nonEmptyStringsSlot_valid, true_and, and_true]

@[mk_iff]
structure PermitRollback.Formed (rollback : PermitRollback) : Prop where
  beforeCommit : rollback.beforeCommit ≠ []
  commandHash : isDigest rollback.commandIdentity.commandHash
  affectedFiles : ∀ file ∈ rollback.commandIdentity.affectedFiles, file ≠ []

theorem permitRollback_valid {rollback : PermitRollback} :
    permitRollbackSchema.Valid rollback ↔ rollback.Formed := by
  unfold permitRollbackSchema
  rw [Schema.valid_object, Fields.valid_via]
  dsimp only [Equiv.coe_fn_symm_mk]
  simp only [Fields.valid_cons, Slot.valid_required, Fields.valid_nil,
    Schema.valid_nonEmptyString, rollbackCommandIdentity_valid, and_true, PermitRollback.formed_iff]

/-! ## Read back exactly -/

instance : permitStatusSchema.Exact := inferInstanceAs (Schema.enum _ _ _).Exact

instance : permitApprovalStatusSchema.Exact := inferInstanceAs (Schema.enum _ _ _).Exact

instance : writeApprovalStatusSchema.Exact :=
  inferInstanceAs (permitApprovalStatusSchema.refine _).Exact

instance : permitRepositoryStateSchema.Exact := inferInstanceAs (Schema.object _ _).Exact

instance : rollbackCommandIdentitySchema.Exact := inferInstanceAs (Schema.object _ _).Exact

instance : permitRollbackSchema.Exact := inferInstanceAs (Schema.object _ _).Exact

instance : stringsSlot.Exact := Slot.exact_default

instance : providerExecutionPermitSchema.Exact := inferInstanceAs (Schema.object _ _).Exact

instance : workspaceWriteProviderExecutionPermitSchema.Exact :=
  inferInstanceAs (Schema.object _ _).Exact

instance : workspaceWriteProviderExecutionPermitV2Schema.Exact :=
  inferInstanceAs (Schema.object _ _).Exact

end CodexRouter.Provider
