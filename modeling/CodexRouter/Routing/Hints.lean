import CodexRouter.Js.Ascii
import CodexRouter.Routing.Route

/-!
# Untrusted hints

Whoever fills in the hints of a task may make it graver and less clear, and may not take the
approval of a person away.
-/

open Js

namespace CodexRouter.Routing

open Kernel Eligibility

/-- The property of a class persists in all classes of higher rank. -/
def PersistsUpward (property : TaskClass → Prop) : Prop :=
  ∀ taskClass taskClass', taskClassRank taskClass ≤ taskClassRank taskClass' →
    property taskClass → property taskClass'

lemma isRiskClass_iff_rank (taskClass : TaskClass) :
    isRiskClass taskClass = true ↔ 3 ≤ taskClassRank taskClass := by
  cases taskClass <;> decide

lemma isRiskClass_persists : PersistsUpward fun taskClass => isRiskClass taskClass = true := by
  intro taskClass taskClass' hrank hrisk
  rw [isRiskClass_iff_rank] at hrisk ⊢
  omega

/-- What gates a task gates it under every graver classification. -/
lemma IsGated.of_raises [Runtime] {task task' : TaskEnvelope}
    {intent intent' : IntentClassification} {policy : PolicySnapshot}
    (protectedUp : PersistsUpward policy.IsProtected)
    (writeUp : PersistsUpward policy.IsWriteCapable) (raises : intent.Raises intent')
    (sameSignals : taskSignals task' policy.approvalRules = taskSignals task policy.approvalRules)
    (sameTree : task.NeedsCleanTree → task'.NeedsCleanTree) (gated : IsGated task intent policy) :
    IsGated task' intent' policy := by
  unfold IsGated at gated ⊢
  rw [sameSignals]
  obtain hclarify | hrisk | hprotected | hsignals | ⟨hwrite, htree⟩ := gated
  · exact .inl (raises.clarification hclarify)
  · exact .inr (.inl (isRiskClass_persists _ _ raises.rank hrisk))
  · exact .inr (.inr (.inl (protectedUp _ _ raises.rank hprotected)))
  · exact .inr (.inr (.inr (.inl hsignals)))
  · exact .inr (.inr (.inr (.inr ⟨writeUp _ _ raises.rank hwrite, sameTree htree⟩)))

/-- An untrusted hint leaves the class and the ambiguity score at least as high as they were, and
a pending approval pending. -/
theorem untrustedHint_keeps_gate [Runtime] (policy : PolicySnapshot) (covers : policy.Covers)
    (protectedUp : PersistsUpward policy.IsProtected)
    (writeUp : PersistsUpward policy.IsWriteCapable)
    (input input' : Json) (task : TaskEnvelope) (hint : TaskClass)
    (provenance : List TaskHintProvenance) (unhinted : task.hints.taskClassHint = none)
    (untrusted : Untrusted hint provenance)
    (parsed : parseTaskEnvelope input = .ok task)
    (parsed' : parseTaskEnvelope input' = .ok (task.withHint hint provenance)) :
    ∃ intent intent' decision decision' approval approval',
      classifyIntent input = .ok intent ∧ classifyIntent input' = .ok intent' ∧
      taskClassRank intent.taskClass ≤ taskClassRank intent'.taskClass ∧
      intent.ambiguityScore ≤ intent'.ambiguityScore ∧
      routeTask input intent policy = .ok decision ∧
      routeTask input' intent' policy = .ok decision' ∧
      evaluateApprovalRequirement input decision policy = .ok approval ∧
      evaluateApprovalRequirement input' decision' policy = .ok approval' ∧
      (approval.status = .pending → approval'.status = .pending) := by
  have raises := @classifyTask_raises _ task hint provenance unhinted untrusted
  obtain ⟨decision, hroute, hpending⟩ :=
    @route_pending_iff _ task (classifyTask task) policy covers
  obtain ⟨decision', hroute', hpending'⟩ :=
    @route_pending_iff _ (task.withHint hint provenance)
      (classifyTask (task.withHint hint provenance)) policy covers
  refine ⟨classifyTask task, classifyTask (task.withHint hint provenance), decision, decision',
    evaluateParsedApproval task decision policy,
    evaluateParsedApproval (task.withHint hint provenance) decision' policy,
    ?_, ?_, raises.rank, raises.score, ?_, ?_, ?_, ?_, ?_⟩
  · rw [classifyIntent, parsed]
    rfl
  · rw [classifyIntent, parsed']
    rfl
  · rw [routeTask, parsed]
    exact hroute
  · rw [routeTask, parsed']
    exact hroute'
  · rw [evaluateApprovalRequirement, parsed]
    rfl
  · rw [evaluateApprovalRequirement, parsed']
    rfl
  · intro hstatus
    have hgated := hpending.mp hstatus
    apply hpending'.mpr
    exact hgated.of_raises protectedUp writeUp raises rfl id

/-! ## A policy and a task -/

/-- Reads are open, the gravest class is protected. -/
def samplePolicy : PolicySnapshot where
  policyVersion := js "policy.v1"
  models _ := some .gpt54
  toolPolicies
    | .readOnly => some .readOnly
    | .smallEdit => some .localWrite
    | .engineering | .highRisk => some .engineeringWrite
    | .releaseExternalAction => some .protectedRemote
  executionProfiles taskClass := some (taskClassToProfile taskClass false)
  hostRoutes _ := some .desktop
  approvalRules :=
    { protectedBranches := [js "main"]
      protectedKeywords := [js "secret"]
      protectedToolAccess := [.protectedRemote] }

/-- A review on a protected branch; the agent that asks calls it a release. -/
def sampleTask (hints : Json) : Json :=
  .obj [(js "taskId", .str "t"),
    (js "intent", .obj [(js "summary", .str "Review the parser"),
      (js "requestedAction", .str "report what it does")]),
    (js "target", .obj [(js "branches", .arr [.str "main"])]), (js "hints", hints)]

def releaseHint : Json :=
  .obj [(js "taskClassHint", .str "release_external_action"),
    (js "provenance", .arr [.obj [(js "field", .str "taskClassHint"),
      (js "value", .str "release_external_action"), (js "source", .str "agent")]])]

def sampleEnvelope : TaskEnvelope where
  taskId := js "t"
  source := .desktopThread
  intent :=
    { summary := js "Review the parser"
      requestedAction := js "report what it does"
      successCriteria := []
      outOfScope := [] }
  repoContext := ⟨none, none, none, none⟩
  target := { branches := [js "main"], files := [], modules := [] }
  constraints := ⟨none, none, none⟩
  hints := ⟨none, [], [], []⟩

def agentProvenance : List TaskHintProvenance :=
  [{ field := .taskClassHint, value := js "release_external_action", source := .agent
     reason := none, createdAt := none }]

attribute [local instance] asciiRuntime in
theorem untrustedHint_keeps_gate_release :
    ∃ intent intent' decision decision' approval approval',
      classifyIntent (sampleTask (.obj [])) = .ok intent ∧
      classifyIntent (sampleTask releaseHint) = .ok intent' ∧
      taskClassRank intent.taskClass ≤ taskClassRank intent'.taskClass ∧
      intent.ambiguityScore ≤ intent'.ambiguityScore ∧
      routeTask (sampleTask (.obj [])) intent samplePolicy = .ok decision ∧
      routeTask (sampleTask releaseHint) intent' samplePolicy = .ok decision' ∧
      evaluateApprovalRequirement (sampleTask (.obj [])) decision samplePolicy = .ok approval ∧
      evaluateApprovalRequirement (sampleTask releaseHint) decision' samplePolicy =
        .ok approval' ∧
      (approval.status = .pending → approval'.status = .pending) := by
  apply untrustedHint_keeps_gate samplePolicy
  case covers =>
    constructor <;> intro taskClass <;> cases taskClass <;> rfl
  case protectedUp =>
    intro taskClass taskClass' hrank hprotected
    cases taskClass <;> cases taskClass' <;>
      simp_all [taskClassRank, PolicySnapshot.IsProtected, samplePolicy]
  case writeUp =>
    intro taskClass taskClass' hrank hwrite
    cases taskClass <;> cases taskClass' <;>
      simp_all [taskClassRank, PolicySnapshot.IsWriteCapable, samplePolicy]
  case task => exact sampleEnvelope
  case hint => exact .releaseExternalAction
  case provenance => exact agentProvenance
  case unhinted => rfl
  case untrusted =>
    unfold Untrusted agentProvenance
    decide
  case parsed => decide +kernel
  case parsed' => decide +kernel

end CodexRouter.Routing
