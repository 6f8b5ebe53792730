import CodexRouter.Eligibility.Planner
import CodexRouter.Js.Ascii

/-!
# Permits and grants

The planner lets a permit stand in for a grant, and does not ask for the scopes of the policy
decision; the gate of the kernel does neither.
-/

open Js

namespace CodexRouter.Eligibility

open Kernel Capability

/-! ## What the admission says -/

def admissionReasons : List Str :=
  [js "missing_principal", js "missing_task_intent", js "policy_decision_blocked",
    js "policy_decision_requires_clarification", js "approval_required_by_task_risk",
    js "missing_required_write_capability", js "missing_required_read_capability"]

/-- The reasons name a scope that is denied or missing. -/
def Reports (reasons : List Str) : Prop :=
  js "missing_capability" ∈ reasons ∨ js "capability_deny" ∈ reasons

instance (reasons : List Str) : Decidable (Reports reasons) :=
  inferInstanceAs (Decidable (_ ∨ _))

/-- A reason of its own before those of the admission changes nothing. -/
lemma not_reports_cons {reason : Str} {reasons : List Str} (hreason : ¬Reports [reason])
    (h : ¬Reports reasons) : ¬Reports (distinct (reason :: reasons)) := by
  unfold Reports at *
  simp only [mem_distinct, List.mem_cons, List.not_mem_nil, or_false, not_or] at *
  exact ⟨⟨hreason.1, h.1⟩, hreason.2, h.2⟩

lemma not_reports {reasons : List Str} (h : ∀ reason ∈ reasons, reason ∈ admissionReasons) :
    ¬Reports reasons := by
  intro hreports
  rcases hreports with hmissing | hdeny
  · exact absurd (h _ hmissing) (by decide)
  · exact absurd (h _ hdeny) (by decide)

lemma mem_approvalReasons {riskSignals : List Str} {missing : List CapabilityScope} :
    ∀ reason ∈ approvalReasons riskSignals missing, reason ∈ admissionReasons := by
  intro reason hreason
  unfold approvalReasons at hreason
  unfold admissionReasons
  rw [List.mem_append, List.mem_append] at hreason
  rcases hreason with (h | h) | h
  all_goals
    split at h
    · simp_all
    · simp at h

section

variable [Runtime]

lemma admission_reasons (input : EvaluateTaskAdmissionInput) :
    ∀ reason ∈ (evaluateTaskAdmission input).reasons, reason ∈ admissionReasons := by
  intro reason hreason
  rw [evaluateTaskAdmission, mem_distinct] at hreason
  unfold admissionOutcome at hreason
  simp only at hreason
  iterate 4
    split at hreason
    · rw [List.mem_singleton] at hreason
      rw [hreason]
      decide
  split at hreason
  · exact mem_approvalReasons reason hreason
  · simp at hreason

/-- With a principal a task is stopped for its missing intent or by the policy decision. -/
lemma admission_stops {task : Task} {principal : Principal} {decision : JudgedPolicyDecision}
    {now : Option Str} :
    (evaluateTaskAdmission ⟨task, some principal, none, some decision, now⟩).status = .rejected ∨
      (evaluateTaskAdmission ⟨task, some principal, none, some decision, now⟩).status =
        .needsClarification ↔
    task.intent = none ∨ isPolicyBlocked decision = true ∨
      decision.risk.clarificationRequired = true := by
  unfold evaluateTaskAdmission admissionOutcome
  cases hintent : task.intent with
  | none => simp
  | some intent =>
    cases hblocked : isPolicyBlocked decision with
    | true => simp [hblocked]
    | false =>
      cases hclarify : decision.risk.clarificationRequired with
      | true => simp [hblocked, hclarify]
      | false =>
        simp only [Option.isNone_some, Option.any_some, hblocked, hclarify, Bool.false_eq_true,
          if_false]
        split <;> simp

/-! ## What the gate of the kernel reports -/

/-- All scopes are decided. -/
def Decided (grants : List CapabilityGrantLike) (options : CapabilityCheckOptions)
    (scopes : List Str) : Prop :=
  ∀ scope ∈ scopes, ∃ result, explainCapabilityDecision grants scope options = .ok result

/-- All scopes are decided and some is not allowed. -/
def SomeRefused (grants : List CapabilityGrantLike) (options : CapabilityCheckOptions)
    (scopes : List Str) : Prop :=
  Decided grants options scopes ∧
    ∃ scope ∈ scopes, ∃ result, explainCapabilityDecision grants scope options = .ok result ∧
      result.allowed = false

variable {input : EvaluateExecutionEligibilityInput}

lemma decideByGrants_reports {admission : AdmissionDecision}
    {decision : ExecutionEligibilityDecision} (hadmission : ¬Reports admission.reasons)
    (h : decideByGrants input admission = .ok decision) :
    Reports decision.reasons ↔ ∃ scopes, effectiveRequestedScopes input = .ok scopes ∧
      SomeRefused input.capabilityGrants input.checkOptions scopes := by
  unfold decideByGrants at h
  simp only [bind_eq_ok] at h
  obtain ⟨scopes, hscopes, results, hresults, h⟩ := h
  have hrefused : (∃ scopes, effectiveRequestedScopes input = .ok scopes ∧
      SomeRefused input.capabilityGrants input.checkOptions scopes) ↔
      ∃ result ∈ results, result.allowed = false := by
    rw [exists_mem_mapM hresults]
    constructor
    · rintro ⟨other, hother, hsome⟩
      rw [hscopes] at hother
      cases hother
      exact hsome.2
    · intro hsome
      refine ⟨scopes, hscopes, ?_, hsome⟩
      intro scope hscope
      obtain ⟨result, -, hresult⟩ := exists_of_mapM hresults scope hscope
      exact ⟨result, hresult⟩
  rw [hrefused]
  split at h
  · -- a scope is denied
    rename_i hdeny
    rw [pure_eq_ok] at h
    rw [← h]
    obtain ⟨result, hresult⟩ := List.exists_mem_of_ne_nil _ hdeny
    rw [List.mem_filter] at hresult
    obtain ⟨scope, -, denied, hdenied, rfl⟩ :=
      (exists_mem_mapM hresults (· = result)).mp ⟨result, hresult.1, rfl⟩
    have hnot := not_allowed_of_denied hdenied (by simpa [isDenied] using hresult.2)
    exact iff_of_true (.inr (by simp)) ⟨denied, hresult.1, hnot⟩
  · simp only [bind_eq_ok] at h
    obtain ⟨permits, -, h⟩ := h
    split at h
    · -- a scope is missing
      rename_i hmissing
      rw [pure_eq_ok] at h
      rw [← h]
      obtain ⟨_, hscope⟩ := List.exists_mem_of_ne_nil _ hmissing
      obtain ⟨result, hresult, -⟩ := List.mem_map.mp hscope
      rw [List.mem_filter, Bool.not_eq_true'] at hresult
      exact iff_of_true (.inl (by simp)) ⟨result, hresult⟩
    · rename_i hmissing
      rw [not_not, List.map_eq_nil_iff, List.filter_eq_nil_iff] at hmissing
      refine iff_of_false ?_ ?_
      · split at h
        · rw [pure_eq_ok] at h
          rw [← h]
          exact not_reports_cons (by decide) hadmission
        split at h
        · rw [pure_eq_ok] at h
          rw [← h]
          show ¬Reports [js "valid_approval_permit"]
          decide
        · rw [pure_eq_ok] at h
          rw [← h]
          show ¬Reports [js "capability_grants_satisfied"]
          decide
      · rintro ⟨result, hresult, hnot⟩
        exact hmissing result hresult (by rw [hnot]; rfl)

/-- A task that is not stopped is decided by the grants. -/
lemma evaluateExecutionEligibility_reports {decision : ExecutionEligibilityDecision}
    (hrun : isTerminalRunStatus input.run.status = false)
    (h : evaluateExecutionEligibility input = .ok decision) :
    Reports decision.reasons ↔ input.task.intent ≠ none ∧
      isPolicyBlocked input.policyDecision = false ∧
      input.policyDecision.risk.clarificationRequired = false ∧
      ∃ scopes, effectiveRequestedScopes input = .ok scopes ∧
        SomeRefused input.capabilityGrants input.checkOptions scopes := by
  have hstops := @admission_stops _ input.task input.principal input.policyDecision (some input.now)
  have hadmission := not_reports (admission_reasons
    ⟨input.task, some input.principal, none, some input.policyDecision, some input.now⟩)
  unfold evaluateExecutionEligibility at h
  simp only [hrun, Bool.false_eq_true, if_false] at h
  split at h
  · rename_i hrejected
    have hstopped := hstops.mp (.inl hrejected)
    rw [← Except.ok.inj h]
    refine iff_of_false (not_reports_cons (by decide) hadmission) ?_
    intro ⟨hintent, hblocked, hclarify, _⟩
    simp [hintent, hblocked, hclarify] at hstopped
  split at h
  · rename_i hunclear
    have hstopped := hstops.mp (.inr hunclear)
    rw [← Except.ok.inj h]
    refine iff_of_false (not_reports_cons (by decide) hadmission) ?_
    intro ⟨hintent, hblocked, hclarify, _⟩
    simp [hintent, hblocked, hclarify] at hstopped
  rename_i hrejected hunclear
  have hopen := mt hstops.mpr (not_or.mpr ⟨hrejected, hunclear⟩)
  rw [not_or, not_or, Bool.not_eq_true, Bool.not_eq_true] at hopen
  rw [hopen.2.1, if_neg (by simp)] at h
  rw [decideByGrants_reports hadmission h]
  simp only [hopen.2.1, hopen.2.2, ne_eq, hopen.1, not_false_eq_true, true_and]

/-! ## Permits -/

lemma judgePermits_returns {permits : List ApprovalPermit}
    {context : ApprovalPermitValidationContext} :
    (∃ judged, judgePermits permits context = .ok judged) ↔
      ∀ permit ∈ permits, ∃ scopes, getCapabilityScopes permit = .ok scopes := by
  constructor
  · intro ⟨judged, hjudged⟩
    unfold judgePermits at hjudged
    rw [mapM_eq_ok] at hjudged
    induction hjudged with
    | nil => simp
    | cons hpermit _ ih =>
      rw [List.forall_mem_cons]
      refine ⟨?_, ih⟩
      simp only [validateApprovalPermit, bind_eq_ok] at hpermit
      obtain ⟨_, ⟨scopes, hscopes, _⟩, _⟩ := hpermit
      exact ⟨scopes, hscopes⟩
  · intro h
    apply mapM_returns
    intro permit hpermit
    obtain ⟨scopes, hscopes⟩ := h permit hpermit
    exact ⟨_, by simp [validateApprovalPermit, hscopes, pure, Except.pure]; rfl⟩

lemma sortPermits_accepted {before : Str} {permits : List ApprovalPermit}
    {context : ApprovalPermitValidationContext} {evaluation : PermitEvaluation}
    (h : sortPermits before permits context = .ok evaluation) :
    evaluation.acceptedPermits ≠ [] ↔ ∃ permit ∈ permits, ∃ validation,
      validateApprovalPermit permit context = .ok validation ∧ validation.valid = true := by
  unfold sortPermits at h
  simp only [bind_eq_ok, pure_eq_ok] at h
  obtain ⟨judged, hjudged, rfl⟩ := h
  have hvalid := exists_mem_mapM hjudged fun judgement => judgement.2.valid = true
  simp only [bind_eq_ok, pure_eq_ok] at hvalid
  rw [ne_eq, List.map_eq_nil_iff, List.filter_eq_nil_iff]
  push Not
  rw [hvalid]
  constructor
  · rintro ⟨permit, hpermit, _, ⟨validation, hvalidation, rfl⟩, h⟩
    exact ⟨permit, hpermit, validation, hvalidation, h⟩
  · rintro ⟨permit, hpermit, validation, hvalidation, h⟩
    exact ⟨permit, hpermit, _, ⟨validation, hvalidation, rfl⟩, h⟩

lemma sortPermits_returns {before : Str} {permits : List ApprovalPermit}
    {context : ApprovalPermitValidationContext}
    (h : ∀ permit ∈ permits, ∃ scopes, getCapabilityScopes permit = .ok scopes) :
    ∃ evaluation, sortPermits before permits context = .ok evaluation := by
  obtain ⟨judged, hjudged⟩ := judgePermits_returns.mpr h
  exact ⟨_, by rw [sortPermits, hjudged]; rfl⟩

/-! ## What the planner plans -/

variable {plan : ToolInvocationPlan} {asks : PlanToolInvocationInput}
  {manifest : RegisteredToolManifest}

/-- The grants allow the scope. -/
def PlanToolInvocationInput.Granted (input : PlanToolInvocationInput) (scope : Str) : Prop :=
  ∃ result, explainCapabilityDecision input.capabilityGrants scope input.checkOptions =
    .ok result ∧ result.allowed = true

/-- A permit is valid for all of the scopes. -/
def PlanToolInvocationInput.Approved (input : PlanToolInvocationInput) (scopes : List Str) : Prop :=
  ∃ permit ∈ input.approvalPermits, ∃ validation,
    validateApprovalPermit permit (input.permitContext scopes) = .ok validation ∧
      validation.valid = true

/-- The planner gets past the integrity of the run, the sandbox and the denials. -/
structure PlanToolInvocationInput.Open (input : PlanToolInvocationInput)
    (manifest : RegisteredToolManifest) : Prop where
  integrity : collectKernelIntegrityReasons input = []
  sandbox : explainToolSandboxPolicyMismatch (deriveSandboxProfile manifest.sideEffectClass)
    input.policyDecision.execution.sandbox = .ok none
  decided : ∀ scope ∈ manifest.requiredCapabilities, ∃ result,
    explainCapabilityDecision input.capabilityGrants scope input.checkOptions = .ok result ∧
      isDenied result = false
  judged : ∀ permit ∈ input.approvalPermits, ∃ scopes, getCapabilityScopes permit = .ok scopes

def PlanToolInvocationInput.requiresApproval (input : PlanToolInvocationInput)
    (manifest : RegisteredToolManifest) : Bool :=
  input.policyDecision.approval.required || isDangerousSideEffectClass manifest.sideEffectClass

lemma planByPermits_planned {basePlan : ToolInvocationPlan} {results : List CapabilityCheckResult}
    (h : planByPermits asks basePlan results = .ok plan) (hplanned : plan.status = .planned) :
    plan.approvalRequired = basePlan.approvalRequired ∧
      ((∀ result ∈ results, result.allowed = true) ∨
        asks.Approved basePlan.requiredCapabilities) ∧
      (basePlan.approvalRequired = true → asks.Approved basePlan.requiredCapabilities) := by
  unfold planByPermits at h
  simp only [bind_eq_ok] at h
  obtain ⟨permits, hpermits, h⟩ := h
  have haccepted := sortPermits_accepted hpermits
  split at h
  · rw [pure_eq_ok] at h
    simp [← h] at hplanned
  rename_i hmissing
  split at h
  · rw [pure_eq_ok] at h
    simp [← h] at hplanned
  rename_i hrequired
  have happroved : permits.acceptedPermits ≠ [] → asks.Approved basePlan.requiredCapabilities :=
    haccepted.mp
  have hsame : plan.approvalRequired = basePlan.approvalRequired := by
    split at h
    · rw [pure_eq_ok] at h
      rw [← h]
    · rw [pure_eq_ok] at h
      rw [← h]
  refine ⟨hsame, ?_, ?_⟩
  · by_cases hnone : permits.acceptedPermits = []
    · left
      simpa [hnone] using hmissing
    · exact .inr (happroved hnone)
  · intro hbase
    apply happroved
    simpa [hbase] using hrequired

lemma planByPermits_plans {basePlan : ToolInvocationPlan} {results : List CapabilityCheckResult}
    (hjudged : ∀ permit ∈ asks.approvalPermits, ∃ scopes, getCapabilityScopes permit = .ok scopes)
    (hgrants : (∀ result ∈ results, result.allowed = true) ∨
      asks.Approved basePlan.requiredCapabilities)
    (hrequired : basePlan.approvalRequired = true → asks.Approved basePlan.requiredCapabilities) :
    ∃ plan, planByPermits asks basePlan results = .ok plan ∧ plan.status = .planned := by
  obtain ⟨permits, hpermits⟩ := @sortPermits_returns _ (js "permit_rejected:") _
    (asks.permitContext basePlan.requiredCapabilities) hjudged
  have haccepted := sortPermits_accepted hpermits
  unfold planByPermits
  rw [evaluateApprovalPermits, hpermits]
  by_cases hnone : permits.acceptedPermits = []
  · have hno := mt haccepted.mpr (not_not.mpr hnone)
    have hall := hgrants.resolve_right hno
    have hnot : basePlan.approvalRequired = false := by
      rw [← Bool.not_eq_true]
      exact mt hrequired hno
    have hfilter : results.filter (!·.allowed) = [] := by
      rw [List.filter_eq_nil_iff]
      intro result hresult
      simp [hall result hresult]
    refine ⟨_, by simp [hnone, hfilter, hnot, pure, Except.pure]; rfl, rfl⟩
  · refine ⟨_, by simp [hnone, pure, Except.pure]; rfl, rfl⟩

/-- When the planner plans. -/
lemma planToolInvocation_planned
    (hparse : registeredToolManifestSchema.parse asks.toolManifest = .ok manifest)
    (h : planToolInvocation asks = .ok plan) (hplanned : plan.status = .planned) :
    asks.Open manifest ∧ plan.approvalRequired = asks.requiresApproval manifest ∧
      ((∀ scope ∈ manifest.requiredCapabilities, asks.Granted scope) ∨
        asks.Approved manifest.requiredCapabilities) ∧
      (asks.requiresApproval manifest = true → asks.Approved manifest.requiredCapabilities) := by
  rw [planToolInvocation, hparse, ok_bind] at h
  simp only at h
  split at h
  · rw [pure_eq_ok] at h
    simp [← h] at hplanned
  rename_i hintegrity
  simp only [bind_eq_ok] at h
  obtain ⟨results, hresults, mismatch, hmismatch, h⟩ := h
  split at h
  · rw [pure_eq_ok] at h
    simp [← h] at hplanned
  split at h
  · rw [pure_eq_ok] at h
    simp [← h] at hplanned
  rename_i hdenied
  rw [not_not, List.filter_eq_nil_iff] at hdenied
  obtain ⟨hsame, hgrants, hrequired⟩ := planByPermits_planned h hplanned
  have hjudged : ∃ judged, judgePermits asks.approvalPermits
      (asks.permitContext manifest.requiredCapabilities) = .ok judged := by
    simp only [planByPermits, evaluateApprovalPermits, sortPermits, bind_eq_ok] at h
    obtain ⟨_, ⟨judged, hjudged, _⟩, _⟩ := h
    exact ⟨judged, hjudged⟩
  have hscope : ∀ scope ∈ manifest.requiredCapabilities, ∃ result ∈ results,
      explainCapabilityDecision asks.capabilityGrants scope asks.checkOptions = .ok result :=
    exists_of_mapM hresults
  refine ⟨⟨not_not.mp hintegrity, hmismatch, ?_, judgePermits_returns.mp hjudged⟩, hsame, ?_,
    hrequired⟩
  · intro scope hmem
    obtain ⟨result, hresult, hexplained⟩ := hscope scope hmem
    exact ⟨result, hexplained, by simpa using hdenied result hresult⟩
  · refine hgrants.imp_left ?_
    intro hall scope hmem
    obtain ⟨result, hresult, hexplained⟩ := hscope scope hmem
    exact ⟨result, hexplained, hall result hresult⟩

lemma planToolInvocation_plans
    (hparse : registeredToolManifestSchema.parse asks.toolManifest = .ok manifest)
    (hopen : asks.Open manifest)
    (hgrants : (∀ scope ∈ manifest.requiredCapabilities, asks.Granted scope) ∨
      asks.Approved manifest.requiredCapabilities)
    (hrequired : asks.requiresApproval manifest = true →
      asks.Approved manifest.requiredCapabilities) :
    ∃ plan, planToolInvocation asks = .ok plan ∧ plan.status = .planned := by
  obtain ⟨results, hresults⟩ := mapM_returns (f := fun scope =>
    explainCapabilityDecision asks.capabilityGrants scope asks.checkOptions)
    (fun scope hscope => (hopen.decided scope hscope).imp fun _ h => h.1)
  have hscope : ∀ result ∈ results, isDenied result = false ∧
      ((∀ scope ∈ manifest.requiredCapabilities, asks.Granted scope) → result.allowed = true) := by
    intro result hresult
    obtain ⟨scope, hmem, other, hother, rfl⟩ :=
      (exists_mem_mapM hresults (· = result)).mp ⟨result, hresult, rfl⟩
    obtain ⟨decided, hdecided, hdenied⟩ := hopen.decided scope hmem
    rw [hother] at hdecided
    cases hdecided
    refine ⟨hdenied, ?_⟩
    intro hall
    obtain ⟨granted, hgranted, hallowed⟩ := hall scope hmem
    rw [hother] at hgranted
    cases hgranted
    exact hallowed
  have hdenied : results.filter isDenied = [] := by
    rw [List.filter_eq_nil_iff]
    intro result hresult
    simp [(hscope result hresult).1]
  have hplans : ∃ plan, planByPermits asks (createBasePlan asks manifest
      (hashToolInvocationInput asks.proposedInput)) results = .ok plan ∧ plan.status = .planned :=
    planByPermits_plans hopen.judged
      (hgrants.imp_left fun hall result hresult => (hscope result hresult).2 hall) hrequired
  obtain ⟨plan, hplan, hplanned⟩ := hplans
  refine ⟨plan, ?_, hplanned⟩
  rw [planToolInvocation, hparse, ok_bind]
  simp only [hopen.integrity, ne_eq, not_true_eq_false, if_false, hresults, ok_bind]
  have hsandbox : explainToolSandboxPolicyMismatch (createBasePlan asks manifest
      (hashToolInvocationInput asks.proposedInput)).sandboxProfile
      asks.policyDecision.execution.sandbox = .ok none := hopen.sandbox
  rw [hsandbox, ok_bind]
  simp only [hdenied, not_true_eq_false, if_false]
  exact hplan

/-! ## The two gates -/

/-- The same question to the gate of the kernel, about a task of the run. -/
def PlanToolInvocationInput.eligibility (input : PlanToolInvocationInput) (scopes : List Str)
    (task : Task) (status : Option Str) (blocked : Option Bool) :
    EvaluateExecutionEligibilityInput where
  task
  run := input.run
  principal := input.principal
  policyDecision := ⟨input.policyDecision, status, blocked⟩
  capabilityGrants := input.capabilityGrants
  approvalPermits := input.approvalPermits
  requestedScopes := scopes
  planHash := input.planHash
  now := input.now

/-- What is planned is granted, is approved where approval is required, and is not refused by the
gate of the kernel for a scope that is denied or missing. -/
def NeverExpands (input : PlanToolInvocationInput) : Prop :=
  ∀ manifest plan, registeredToolManifestSchema.parse input.toolManifest = .ok manifest →
    planToolInvocation input = .ok plan → plan.status = .planned →
    (∀ scope ∈ manifest.requiredCapabilities, input.Granted scope) ∧
    (plan.approvalRequired = true → input.Approved manifest.requiredCapabilities) ∧
    ∀ task status blocked decision, task.taskId = input.run.taskId →
      evaluateExecutionEligibility
        (input.eligibility manifest.requiredCapabilities task status blocked) = .ok decision →
      ¬Reports decision.reasons

/-- The policy decision stops the task, or the grants allow the scopes it adds. -/
def PolicyGranted (input : PlanToolInvocationInput) : Prop :=
  isPolicyBlocked ⟨input.policyDecision, none, none⟩ = false →
    input.policyDecision.risk.clarificationRequired = false →
    ∀ scopes, input.policyDecision.capabilities.mapM capabilityScopeToCanonicalString =
      .ok scopes →
    Decided input.capabilityGrants input.checkOptions scopes →
    ∀ scope ∈ scopes, input.Granted scope

/-- No valid permit covers a scope that is not granted, and what is granted and approved is granted
for the policy decision too. -/
def PermitsMatchGrants (input : PlanToolInvocationInput) : Prop :=
  ∀ manifest, registeredToolManifestSchema.parse input.toolManifest = .ok manifest →
    input.Open manifest →
    (input.Approved manifest.requiredCapabilities →
      ∀ scope ∈ manifest.requiredCapabilities, input.Granted scope) ∧
    ((∀ scope ∈ manifest.requiredCapabilities, input.Granted scope) →
      (input.requiresApproval manifest = true → input.Approved manifest.requiredCapabilities) →
      PolicyGranted input)

section

variable {task : Task} {status : Option Str} {blocked : Option Bool}

omit [Runtime] in
lemma eligibility_checkOptions {scopes : List Str} (htask : task.taskId = asks.run.taskId) :
    (asks.eligibility scopes task status blocked).checkOptions = asks.checkOptions := by
  unfold EvaluateExecutionEligibilityInput.checkOptions PlanToolInvocationInput.checkOptions
    PlanToolInvocationInput.eligibility
  simp only [htask]

omit [Runtime] in
lemma isPolicyBlocked_plain {decision : PolicyDecision}
    (h : isPolicyBlocked ⟨decision, status, blocked⟩ = false) :
    isPolicyBlocked ⟨decision, none, none⟩ = false := by
  unfold isPolicyBlocked at *
  simp only [Bool.or_eq_false_iff] at h ⊢
  exact ⟨⟨⟨rfl, rfl⟩, h.1.2⟩, h.2⟩

/-- With every required scope granted only a scope of the policy decision is refused. -/
lemma eligibility_refused (htask : task.taskId = asks.run.taskId) {scopes : List Str}
    (hgranted : ∀ scope ∈ scopes, asks.Granted scope) :
    (∃ effective, effectiveRequestedScopes (asks.eligibility scopes task status blocked) =
        .ok effective ∧
      SomeRefused asks.capabilityGrants
        (asks.eligibility scopes task status blocked).checkOptions effective) ↔
    ∃ added, asks.policyDecision.capabilities.mapM capabilityScopeToCanonicalString = .ok added ∧
      SomeRefused asks.capabilityGrants asks.checkOptions added := by
  rw [eligibility_checkOptions htask]
  unfold effectiveRequestedScopes
  simp only [bind_eq_ok, pure_eq_ok]
  constructor
  · rintro ⟨effective, ⟨added, hadded, heffective⟩, hdecided, scope, hscope, result, hresult,
      hrefused⟩
    rw [← heffective] at hscope hdecided
    refine ⟨added, hadded, ?_, scope, ?_, result, hresult, hrefused⟩
    · intro other hother
      exact hdecided other (mem_distinct.mpr (List.mem_append_right _ hother))
    rw [mem_distinct, List.mem_append] at hscope
    apply hscope.resolve_left
    intro hmem
    obtain ⟨other, hother, hallowed⟩ := hgranted scope hmem
    rw [hresult] at hother
    cases hother
    simp [hrefused] at hallowed
  · rintro ⟨added, hadded, hdecided, scope, hscope, hrefused⟩
    refine ⟨_, ⟨added, hadded, rfl⟩, ?_, scope, ?_, hrefused⟩
    · intro other hother
      rw [mem_distinct, List.mem_append] at hother
      rcases hother with hother | hother
      · exact (hgranted other hother).imp fun _ h => h.1
      · exact hdecided other hother
    · rw [mem_distinct, List.mem_append]
      exact .inr hscope

/-- The gate of the kernel gives its decision where all scopes are decided. -/
lemma eligibility_returns (htask : task.taskId = asks.run.taskId) {scopes added : List Str}
    (hjudged : ∀ permit ∈ asks.approvalPermits, ∃ scopes, getCapabilityScopes permit = .ok scopes)
    (hadded : asks.policyDecision.capabilities.mapM capabilityScopeToCanonicalString = .ok added)
    (hdecided : Decided asks.capabilityGrants asks.checkOptions (scopes ++ added)) :
    ∃ decision, evaluateExecutionEligibility (asks.eligibility scopes task status blocked) =
      .ok decision := by
  have heffective : effectiveRequestedScopes (asks.eligibility scopes task status blocked) =
      .ok (distinct (scopes ++ added)) := by
    rw [effectiveRequestedScopes]
    show (asks.policyDecision.capabilities.mapM capabilityScopeToCanonicalString >>= _) = _
    rw [hadded]
    rfl
  obtain ⟨results, hresults⟩ := mapM_returns (l := distinct (scopes ++ added)) (f := fun scope =>
    explainCapabilityDecision asks.capabilityGrants scope asks.checkOptions)
    (fun scope hscope => hdecided scope (mem_distinct.mp hscope))
  have hpermits : ∃ permits, evaluatePermits (asks.eligibility scopes task status blocked)
      (distinct (scopes ++ added)) = .ok permits := sortPermits_returns hjudged
  obtain ⟨permits, hpermits⟩ := hpermits
  unfold evaluateExecutionEligibility
  simp only
  iterate 4
    split
    · exact ⟨_, rfl⟩
  unfold decideByGrants
  rw [heffective, ok_bind, eligibility_checkOptions htask]
  show ∃ decision, ((distinct (scopes ++ added)).mapM (fun scope =>
    explainCapabilityDecision asks.capabilityGrants scope asks.checkOptions) >>= _) = .ok decision
  rw [hresults, ok_bind]
  dsimp only
  split
  · exact ⟨_, rfl⟩
  rw [hpermits, ok_bind]
  iterate 3
    split
    · exact ⟨_, rfl⟩
  exact ⟨_, rfl⟩

end

lemma PlanToolInvocationInput.Open.running {input : PlanToolInvocationInput}
    (h : input.Open manifest) : isTerminalRunStatus input.run.status = false := by
  have hintegrity := h.integrity
  unfold collectKernelIntegrityReasons at hintegrity
  simp only [List.append_eq_nil_iff] at hintegrity
  simpa using hintegrity.1.1.1.1.1

/-- A task with an intent. -/
def taskOf (taskId : Str) : Task where
  taskId
  source := .api
  title := "t"
  requestedAction := "t"
  successCriteria := []
  outOfScope := []
  intent := some ⟨"t", "t", [], []⟩
  createdBy := none
  repo := ⟨none, none, none, none⟩
  workspace := none
  context := none
  target := ⟨[], [], []⟩
  hints := ⟨none, [], [], []⟩
  constraints := []
  metadata := none
  createdAt := "t"

/-- A permit never expands capability in either gate exactly when no permit covers what is not
granted. -/
theorem neverExpands_iff (input : PlanToolInvocationInput) :
    NeverExpands input ↔ PermitsMatchGrants input := by
  constructor
  · intro h manifest hparse hopen
    constructor
    · -- a plan on the strength of a permit must be granted as well
      intro happroved
      obtain ⟨plan, hplan, hplanned⟩ :=
        planToolInvocation_plans hparse hopen (.inr happroved) fun _ => happroved
      exact (h manifest plan hparse hplan hplanned).1
    · intro hgranted hrequired hblocked hclarify scopes hscopes hdecided scope hscope
      obtain ⟨plan, hplan, hplanned⟩ :=
        planToolInvocation_plans hparse hopen (.inl hgranted) hrequired
      obtain ⟨-, -, hreports⟩ := h manifest plan hparse hplan hplanned
      by_contra hnot
      -- a task of the run shows the refusal
      obtain ⟨decision, hdecision⟩ := @eligibility_returns _ input (taskOf input.run.taskId) none
        none rfl manifest.requiredCapabilities scopes hopen.judged hscopes (by
          intro other hother
          rcases List.mem_append.mp hother with hother | hother
          · exact (hgranted other hother).imp fun _ h => h.1
          · exact hdecided other hother)
      apply hreports _ none none decision rfl hdecision
      rw [evaluateExecutionEligibility_reports hopen.running hdecision]
      refine ⟨by simp [PlanToolInvocationInput.eligibility, taskOf], hblocked, hclarify, ?_⟩
      refine (eligibility_refused rfl hgranted).mpr ⟨scopes, hscopes, hdecided, scope, hscope, ?_⟩
      obtain ⟨result, hresult⟩ := hdecided scope hscope
      refine ⟨result, hresult, ?_⟩
      rw [← Bool.not_eq_true]
      intro hallowed
      exact hnot ⟨result, hresult, hallowed⟩
  · intro h manifest plan hparse hplan hplanned
    obtain ⟨hopen, happroval, hgrants, hrequired⟩ :=
      planToolInvocation_planned hparse hplan hplanned
    obtain ⟨hpermit, hpolicy⟩ := h manifest hparse hopen
    have hgranted := hgrants.elim id hpermit
    refine ⟨hgranted, ?_, ?_⟩
    · rw [happroval]
      exact hrequired
    · intro task status blocked decision htask hdecision
      rw [evaluateExecutionEligibility_reports hopen.running hdecision]
      intro ⟨_, hblocked, hclarify, hrefused⟩
      obtain ⟨added, hadded, hdecided, scope, hscope, result, hresult, hnot⟩ :=
        (eligibility_refused htask hgranted).mp hrefused
      obtain ⟨other, hother, hallowed⟩ := hpolicy hgranted hrequired
        (isPolicyBlocked_plain hblocked) hclarify added hadded hdecided scope hscope
      rw [hresult] at hother
      cases hother
      simp [hnot] at hallowed

end

section

attribute [local instance] asciiRuntime

def readPolicy : PolicyDecision where
  decisionId := "d"
  taskId := "t"
  policyVersion := "1"
  classification := none
  risk := ⟨.low, [], ⟨js "0", by decide⟩, false⟩
  execution := ⟨js "e", none, none, none, ⟨js "s", .readOnly, .none, [], ⟨false, []⟩⟩⟩
  capabilities := []
  approval := ⟨false, []⟩
  parallelism := ⟨false, ⟨js "1", by decide⟩, js "disabled"⟩
  hostRoute := none
  metadata := none
  createdAt := "t"
  legacy := ⟨none, none, none⟩

/-- A tool that reads the file `a`, no grant, and a valid permit for the file. -/
def permitWithoutGrant : PlanToolInvocationInput where
  run := ⟨js "r", js "t", .running, none, none, js "t", js "t", none⟩
  step := ⟨js "s", js "r", js "t", .tool, .pending, [], js "t", js "t", [], none⟩
  toolManifest := .obj [("toolId", .str "read"), ("provider", .str "builtin"),
    ("inputSchema", .obj []), ("outputSchema", .obj []), ("sideEffectClass", .str "read"),
    ("requiredCapabilities", .arr [.str "fs.read:a"]), ("defaultTimeoutMs", .nat 1),
    ("auditPolicy", .obj []), ("redactionPolicy", .obj [])]
  proposedInput := .null
  principal := ⟨js "p", .user, none, none, none, js "t"⟩
  capabilityGrants := []
  approvalPermits := [
    { permitId := "permit"
      taskId := "t"
      runId := "r"
      principalId := some "p"
      decisionHash := hashApprovalScope (.obj readPolicy.members)
      policyDecisionHash := none
      planHash := "h"
      scopes := []
      capabilityScopes := ["fs.read:a"]
      expiresAt := "2026-01-02T00:00:00Z"
      revokedAt := none }]
  policyDecision := readPolicy
  planHash := "h"
  now := "2026-01-01T00:00:00Z"

theorem planned_without_grant : ¬NeverExpands permitWithoutGrant := by
  have hplan : ((planToolInvocation permitWithoutGrant).map (·.status)).toOption =
      some .planned := by decide +kernel
  have hparse : ((registeredToolManifestSchema.parse permitWithoutGrant.toolManifest).map
      (·.requiredCapabilities)).toOption = some [js "fs.read:a"] := by decide +kernel
  have hrefused : ((explainCapabilityDecision [] "fs.read:a"
      permitWithoutGrant.checkOptions).map (·.allowed)).toOption = some false := by decide +kernel
  intro h
  cases hp : planToolInvocation permitWithoutGrant with
  | error e => simp [hp, Except.map, Except.toOption] at hplan
  | ok plan =>
    cases hm : registeredToolManifestSchema.parse permitWithoutGrant.toolManifest with
    | error e => simp [hm, Except.map, Except.toOption] at hparse
    | ok manifest =>
      simp only [hp, Except.map, Except.toOption, Option.some.injEq] at hplan
      simp only [hm, Except.map, Except.toOption, Option.some.injEq] at hparse
      obtain ⟨result, hresult, hallowed⟩ := (h manifest plan hm hp hplan).1 (js "fs.read:a")
        (by rw [hparse]; exact List.mem_singleton_self _)
      have hsame : explainCapabilityDecision [] (js "fs.read:a")
          permitWithoutGrant.checkOptions = .ok result := hresult
      simp [hsame, Except.map, Except.toOption, hallowed] at hrefused

end

end CodexRouter.Eligibility
