import CodexRouter.Authorization.Valid

/-!
# Riskier inputs are decided at least as strictly

Two runs of the decision on the same changes and the same request, the second with more facts that
speak against it.
-/

open Js

namespace CodexRouter.Authorization
open Kernel Capability

section
variable [Runtime]

/-! ## The orders -/

/-- `none < requested, required < unknown`. -/
def AccessFact.progress : AccessFact → ℕ
  | .none => 0
  | .requested => 1
  | .required => 1
  | .unknown => 2

def CredentialFact.progress : CredentialFact → ℕ
  | .none => 0
  | .requested => 1
  | .unknown => 2

/-- The facts agree on the changes, the sensitive paths and the head, and everything else speaks
at least as much against the second. -/
structure FactsAtLeastAsRisky (facts facts' : CapabilityFacts) : Prop where
  fileChanges : facts.fileChanges = facts'.fileChanges
  sensitivePaths : facts.sensitivePaths = facts'.sensitivePaths
  headCommit : facts.repository.headCommit = facts'.repository.headCommit
  expectedHead : facts.repository.expectedHead = facts'.repository.expectedHead
  branch : isProtectedBranchName facts.repository.branch = true →
    isProtectedBranchName facts'.repository.branch = true
  commands : facts.commands ⊆ facts'.commands
  permissionRequests : facts.permissionRequests ⊆ facts'.permissionRequests
  externalTargets : facts.externalTargets ⊆ facts'.externalTargets
  unknowns : facts.unknowns ⊆ facts'.unknowns
  networkAccess : AccessFact.progress facts.networkAccess
    ≤ AccessFact.progress facts'.networkAccess
  credentialAccess : CredentialFact.progress facts.credentialAccess
    ≤ CredentialFact.progress facts'.credentialAccess
  releaseAction : facts.releaseAction = true → facts'.releaseAction = true
  ambiguous : facts.ambiguous = true → facts'.ambiguous = true
  protectedBranch : facts.repository.protectedBranch = true →
    facts'.repository.protectedBranch = true
  exactTargets : facts'.exactTargets = true → facts.exactTargets = true
  worktreeClean : facts'.repository.worktreeClean = true → facts.repository.worktreeClean = true

structure AtLeastAsRisky (input input' : AuthorizeCapabilityFactsInput) : Prop where
  facts : FactsAtLeastAsRisky input.facts input'.facts
  semanticRisk : input.semanticRisk.rank ≤ input'.semanticRisk.rank
  requestedCapabilities : input.requestedCapabilities = input'.requestedCapabilities
  capabilityCeiling : input'.capabilityCeiling ⊆ input.capabilityCeiling

/-- `not_required < policy_auto < human_required < blocked`. -/
def strictness (decision : AuthorizationDecision) : ℕ :=
  match decision.disposition, decision.approvalMode with
  | .blocked, _ => 3
  | _, .humanRequired => 2
  | _, .policyAuto => 1
  | _, .notRequired => 0

/-! ## Each ingredient is monotone -/

namespace FactsAtLeastAsRisky
variable {facts facts' : CapabilityFacts}

omit [Runtime] in
lemma eq_none {a b : AccessFact} (h : AccessFact.progress a ≤ AccessFact.progress b)
    (hb : b = .none) : a = .none := by
  subst hb
  cases a <;> simp [AccessFact.progress] at h ⊢

omit [Runtime] in
lemma eq_unknown {a b : AccessFact} (h : AccessFact.progress a ≤ AccessFact.progress b)
    (ha : a = .unknown) : b = .unknown := by
  subst ha
  cases b <;> simp [AccessFact.progress] at h ⊢

omit [Runtime] in
lemma credential_eq_none {a b : CredentialFact}
    (h : CredentialFact.progress a ≤ CredentialFact.progress b) (hb : b = .none) : a = .none := by
  subst hb
  cases a <;> simp [CredentialFact.progress] at h ⊢

omit [Runtime] in
lemma credential_eq_unknown {a b : CredentialFact}
    (h : CredentialFact.progress a ≤ CredentialFact.progress b) (ha : a = .unknown) :
    b = .unknown := by
  subst ha
  cases b <;> simp [CredentialFact.progress] at h ⊢

omit [Runtime] in
lemma ne_nil_of_subset {α : Type} {l l' : List α} (h : l ⊆ l') (hl : l ≠ []) : l' ≠ [] := by
  rintro rfl
  exact hl (List.eq_nil_of_subset_nil h)

theorem serious (h : FactsAtLeastAsRisky facts facts') (hs : Serious facts) : Serious facts' := by
  unfold Serious at hs ⊢
  rw [← h.fileChanges, ← h.sensitivePaths, ← h.headCommit, ← h.expectedHead]
  refine hs.imp (Or.imp_right fun hu => h.unknowns hu) ?_
  refine Or.imp_right (Or.imp (ne_nil_of_subset h.commands) ?_)
  refine Or.imp (ne_nil_of_subset h.permissionRequests) (Or.imp (Or.imp h.protectedBranch h.branch)
    (Or.imp ?_ (Or.imp_right (Or.imp_right ?_))))
  · intro hc
    by_contra hc'
    rw [Bool.not_eq_false] at hc'
    simp [h.worktreeClean hc'] at hc
  refine Or.imp (mt (eq_none h.networkAccess)) (Or.imp (mt (credential_eq_none h.credentialAccess))
    (Or.imp (ne_nil_of_subset h.externalTargets) (Or.imp h.releaseAction
      (Or.imp ?_ (Or.imp h.ambiguous (ne_nil_of_subset h.unknowns))))))
  intro he
  by_contra he'
  rw [Bool.not_eq_false] at he'
  simp [h.exactTargets he'] at he

theorem unknownFacts (h : FactsAtLeastAsRisky facts facts')
    (hu : Authorization.unknownFacts facts = true) : Authorization.unknownFacts facts' = true := by
  simp only [Authorization.unknownFacts, Bool.or_eq_true, Bool.not_eq_true', decide_eq_true_eq,
    or_assoc] at hu ⊢
  refine hu.imp h.ambiguous (Or.imp ?_ (Or.imp (ne_nil_of_subset h.unknowns)
    (Or.imp (eq_unknown h.networkAccess) (credential_eq_unknown h.credentialAccess))))
  intro he
  by_contra he'
  rw [Bool.not_eq_false] at he'
  simp [h.exactTargets he'] at he

theorem candidate (h : FactsAtLeastAsRisky facts facts') {risk risk' : GovernanceRiskLevel}
    (hrisk : risk.rank ≤ 1) (hc : isPolicyAutoCandidate facts' risk' = true) :
    isPolicyAutoCandidate facts risk = true := by
  rw [isPolicyAutoCandidate_iff] at hc ⊢
  obtain ⟨-, hchanges, hhead, hexpected, hns⟩ := hc
  rw [h.fileChanges, h.headCommit, h.expectedHead]
  exact ⟨hrisk, hchanges, hhead, hexpected, mt h.serious hns⟩

end FactsAtLeastAsRisky

namespace AtLeastAsRisky
variable {input input' : AuthorizeCapabilityFactsInput} {decision decision' : AuthorizationDecision}

/-- The same changes and request have the same side effects and the same unrequested writes. -/
lemma same_findings (h : AtLeastAsRisky input input') (basis : Basis input decision)
    (basis' : Basis input' decision') :
    basis'.found.sideEffectRequested = basis.found.sideEffectRequested ∧
      basis'.found.factualFileWriteCapabilityMissing
        = basis.found.factualFileWriteCapabilityMissing ∧
      basis'.found.sensitivePathFactsIncomplete = basis.found.sensitivePathFactsIncomplete := by
  obtain ⟨hw, -, hs, he, -, -⟩ := findings_spec basis.finding
  obtain ⟨hw', -, hs', he', -, -⟩ := findings_spec basis'.finding
  have hwrites : fileWriteCapabilityMissing input.facts input.requestedCapabilities
      = fileWriteCapabilityMissing input'.facts input'.requestedCapabilities := by
    simp only [fileWriteCapabilityMissing, factualFileWritesAreRequested, h.facts.fileChanges,
      h.requestedCapabilities]
  rw [hwrites, hw'] at hw
  refine ⟨?_, by simpa using hw, ?_⟩
  · rw [he, he', h.facts.fileChanges, h.requestedCapabilities]
  · rw [hs, hs', h.facts.fileChanges, h.facts.sensitivePaths]

lemma blocked (h : AtLeastAsRisky input input') (basis : Basis input decision)
    (basis' : Basis input' decision') (hb : basis.found.blocked = true) :
    basis'.found.blocked = true := by
  obtain ⟨hside, hwrites, hsens⟩ := h.same_findings basis basis'
  obtain ⟨-, hm, -, -, hu, hk⟩ := findings_spec basis.finding
  obtain ⟨-, hm', -, -, hu', hk'⟩ := findings_spec basis'.finding
  simp only [Findings.blocked, Bool.or_eq_true, decide_eq_true_eq, or_assoc] at hb ⊢
  rw [hside] at hu' hk'
  rw [hwrites, hsens, hu', hk', hm']
  rw [hu, hk, hm] at hb
  refine hb.imp ?_ (Or.imp_right (Or.imp_right (Or.imp ?_ ?_)))
  · intro hne hnil
    rw [narrow_missing_iff basis'.narrow, ← h.requestedCapabilities] at hnil
    exact hne ((narrow_missing_iff basis.narrow).mpr fun a ha =>
      (hnil a ha).mono h.capabilityCeiling)
  · simp only [Bool.and_eq_true, Bool.or_eq_true, decide_eq_true_eq, h.facts.fileChanges]
    exact And.imp_right (Or.imp_right fun hx => h.facts.unknowns hx)
  · simp only [Bool.and_eq_true]
    exact And.imp_right h.facts.unknownFacts

/-- A risk that stays below high for the second input does so for the first. -/
lemma rank_le_one (h : AtLeastAsRisky input input') (basis : Basis input decision)
    (basis' : Basis input' decision')
    (hr : (maxRisk input'.semanticRisk basis'.level).rank ≤ 1) :
    (maxRisk input.semanticRisk basis.level).rank ≤ 1 := by
  rw [maxRisk_rank] at hr ⊢
  have hs := h.semanticRisk
  have hlevel : ¬ 2 ≤ basis.level.rank := by
    rw [score_serious_iff basis.scored]
    intro hserious
    have := (score_serious_iff basis'.scored).mpr (h.facts.serious hserious)
    omega
  omega

end AtLeastAsRisky

/-- The strictness of an input that is not blocked. -/
lemma strictness_of_not_blocked {input : AuthorizeCapabilityFactsInput}
    {decision : AuthorizationDecision} (basis : Basis input decision)
    (hb : basis.found.blocked = false) {risk : GovernanceRiskLevel}
    (hr : maxRisk input.semanticRisk basis.level = risk) :
    strictness decision =
      if basis.found.sideEffectRequested = false ∧ risk.rank ≤ 1 then 0
      else if isPolicyAutoCandidate input.facts risk = true then 1 else 2 := by
  have hd := basis.disposition_eq
  have hm := basis.approvalMode_eq
  have hrank : (risk ≠ .high ∧ risk ≠ .critical) ↔ risk.rank ≤ 1 := by
    cases risk <;> simp [GovernanceRiskLevel.rank]
  rw [hb] at hd
  simp only [approvalModeOf, hb, hr, Bool.and_eq_true, Bool.not_eq_true', decide_eq_true_eq,
    and_assoc, hrank] at hm
  by_cases hlow : basis.found.sideEffectRequested = false ∧ risk.rank ≤ 1
  · rw [if_pos hlow] at hm ⊢
    simp_all [strictness]
  · rw [if_neg hlow] at hm ⊢
    by_cases hc : isPolicyAutoCandidate input.facts risk = true <;> simp_all [strictness]

/-- A riskier input is decided at least as strictly and authorizes no further scope. -/
theorem authorize_monotone {input input' : AuthorizeCapabilityFactsInput}
    {decision decision' : AuthorizationDecision} (h : AtLeastAsRisky input input')
    (hd : authorizeCapabilityFacts input = .ok decision)
    (hd' : authorizeCapabilityFacts input' = .ok decision') :
    strictness decision ≤ strictness decision' ∧
      decision'.authorizedCapabilities ⊆ decision.authorizedCapabilities := by
  obtain ⟨basis⟩ := authorize_basis hd
  obtain ⟨basis'⟩ := authorize_basis hd'
  have hsub : basis'.narrowed.allowed ⊆ basis.narrowed.allowed :=
    narrow_mono h.capabilityCeiling basis.narrow (h.requestedCapabilities ▸ basis'.narrow)
  have hblocked := h.blocked basis basis'
  constructor
  · cases hb' : basis'.found.blocked with
    | true =>
      have : strictness decision' = 3 := by simp [strictness, basis'.disposition_eq, hb']
      rw [this, strictness]
      split <;> omega
    | false =>
      have hb : basis.found.blocked = false := by
        rw [← Bool.not_eq_true]
        exact fun hb => by simp [hblocked hb] at hb'
      obtain ⟨hside, -, -⟩ := h.same_findings basis basis'
      have hrisk := h.rank_le_one basis basis'
      rw [strictness_of_not_blocked basis hb rfl, strictness_of_not_blocked basis' hb' rfl, hside]
      generalize maxRisk input.semanticRisk basis.level = risk at hrisk ⊢
      generalize maxRisk input'.semanticRisk basis'.level = risk' at hrisk ⊢
      by_cases hlow' : risk'.rank ≤ 1
      · have hlow := hrisk hlow'
        have hcand : isPolicyAutoCandidate input'.facts risk' = true →
            isPolicyAutoCandidate input.facts risk = true := h.facts.candidate hlow
        simp only [hlow, hlow', and_true]
        split
        · omega
        · by_cases hc : isPolicyAutoCandidate input'.facts risk' = true
          · simp [hc, hcand hc]
          · simp only [hc]
            split <;> simp
      · have hnc : isPolicyAutoCandidate input'.facts risk' ≠ true := fun hc =>
          hlow' ((isPolicyAutoCandidate_iff _ _).mp hc).1
        have hside' : ¬ (basis.found.sideEffectRequested = false ∧ risk'.rank ≤ 1) :=
          fun hx => hlow' hx.2
        rw [if_neg hside', if_neg hnc]
        split
        · omega
        · split <;> omega
  · rw [basis.authorized_eq, basis'.authorized_eq]
    cases hb : basis.found.blocked with
    | true =>
      rw [hblocked hb]
      exact List.filter_subset _ hsub
    | false =>
      cases basis'.found.blocked with
      | true => exact List.Subset.trans List.filter_sublist.subset hsub
      | false => exact hsub

end

section
attribute [local instance] asciiRuntime

/-- A new file on a clean branch at the expected head. -/
def createInput (commands : List CapabilityFactCommand) (semanticRisk : GovernanceRiskLevel) :
    AuthorizeCapabilityFactsInput where
  decisionId := none
  surface := .codexAppServer
  facts := {
    subjectId := "changes", fileChanges := [⟨"src/a.ts", .create, none, none, none, 1, 0⟩]
    commands, permissionRequests := []
    repository := ⟨some "feature/x", false, true, some "c0ffee", some "c0ffee"⟩
    networkAccess := .none, credentialAccess := .none, externalTargets := []
    sensitivePaths := [], releaseAction := false, exactTargets := true, ambiguous := false
    unknowns := [], observedAt := "2026-01-02T03:04:05Z" }
  semanticRisk
  requestedCapabilities := [fileWriteScope "src/a.ts"]
  capabilityCeiling := [fileWriteScope "src/**"]
  createdAt := "2026-01-02T03:04:05Z"

theorem authorize_command_at_least_as_strict :
    ∃ decision decision', authorizeCapabilityFacts (createInput [] .low) = .ok decision ∧
      authorizeCapabilityFacts (createInput [⟨["ls"], none⟩] .high) = .ok decision' ∧
      strictness decision ≤ strictness decision' ∧
      decision'.authorizedCapabilities ⊆ decision.authorizedCapabilities := by
  have hrisk : AtLeastAsRisky (createInput [] .low) (createInput [⟨["ls"], none⟩] .high) := by
    refine ⟨?_, by decide, rfl, List.Subset.refl _⟩
    constructor <;> simp [createInput]
  have hreturns : (authorizeCapabilityFacts (createInput [] .low)).returns = true := by
    decide +kernel
  have hreturns' :
      (authorizeCapabilityFacts (createInput [⟨["ls"], none⟩] .high)).returns = true := by
    decide +kernel
  obtain ⟨decision, h⟩ := Result.exists_ok hreturns
  obtain ⟨decision', h'⟩ := Result.exists_ok hreturns'
  exact ⟨decision, decision', h, h', authorize_monotone hrisk h h'⟩

end

end CodexRouter.Authorization
