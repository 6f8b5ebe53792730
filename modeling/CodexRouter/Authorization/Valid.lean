import CodexRouter.Authorization.Ceiling
import CodexRouter.Authorization.Risk

/-!
# What a decision is made of

The values a decision is read from, and that it satisfies its own schema.
-/

open Js

namespace CodexRouter.Authorization
open Kernel Capability

variable [Runtime]

/-! ## What a decision was read from -/

/-- The values a decision was computed from. -/
structure Basis (input : AuthorizeCapabilityFactsInput) (decision : AuthorizationDecision) where
  level : GovernanceRiskLevel
  reasons : List Str
  narrowed : Narrowed
  found : Findings
  scored : scoreCapabilityFactsRisk input.facts = .ok (level, reasons)
  narrow : narrowToCapabilityCeiling input.requestedCapabilities input.capabilityCeiling
    = .ok narrowed
  finding : findings input.facts input.requestedCapabilities narrowed.missing = .ok found
  approvalMode_eq : decision.approvalMode
    = approvalModeOf input.facts (maxRisk input.semanticRisk level) found
  disposition_eq : decision.disposition = if found.blocked then .blocked
    else if decision.approvalMode ≠ .notRequired then .approvalRequired else .authorized
  authorized_eq : decision.authorizedCapabilities = if found.blocked
    then narrowed.allowed.filter isReadOnlyCapability else narrowed.allowed

theorem authorize_basis {input : AuthorizeCapabilityFactsInput} {decision : AuthorizationDecision}
    (h : authorizeCapabilityFacts input = .ok decision) : Nonempty (Basis input decision) := by
  simp only [authorizeCapabilityFacts, bind_eq_ok, parse_eq_ok] at h
  obtain ⟨_, ⟨-, rfl⟩, ⟨level, reasons⟩, hs, narrowed, hn, found, hf, -, rfl⟩ := h
  exact ⟨⟨level, reasons, narrowed, found, hs, hn, hf, rfl, by simp [decisionOf], rfl⟩⟩

lemma findings_spec {facts : CapabilityFacts} {requested : List CapabilityScope}
    {missing : List Str} {found : Findings} (h : findings facts requested missing = .ok found) :
    fileWriteCapabilityMissing facts requested = .ok found.factualFileWriteCapabilityMissing ∧
      found.missing = missing ∧
      found.sensitivePathFactsIncomplete =
        (deriveSensitivePathsFromFileChanges facts.fileChanges).any (· ∉ facts.sensitivePaths) ∧
      found.sideEffectRequested =
        (decide (facts.fileChanges ≠ []) || requested.any isSideEffectingCapability) ∧
      found.unsafeGovernedPathWriteBlocked = (found.sideEffectRequested &&
        (facts.fileChanges.any hasUnsafeGovernedPath
          || decide (js "unsafe_governed_path" ∈ facts.unknowns))) ∧
      found.unknownWriteBlocked = (found.sideEffectRequested && unknownFacts facts) := by
  simp only [findings, bind_eq_ok, pure_eq_ok] at h
  obtain ⟨b, hb, rfl⟩ := h
  exact ⟨hb, rfl, rfl, rfl, rfl, rfl⟩

/-! ## The schema of the decision -/

/-- What the caller supplies beside the facts. -/
structure CallerValid (input : AuthorizeCapabilityFactsInput) : Prop where
  decisionId : input.decisionId ≠ some []
  createdAt : input.createdAt ≠ []
  requested : ∀ a ∈ input.requestedCapabilities, a.issues = []

lemma raisedRisks_reason_ne_nil {facts : CapabilityFacts} {risk : GovernanceRiskLevel × Str}
    (h : risk ∈ raisedRisks facts) : risk.2 ≠ [] := by
  have hraise : ∀ (p : Prop) [Decidable p] (level : GovernanceRiskLevel) (reason : Str),
      reason ≠ [] → risk ∈ (if p then [(level, reason)] else []) → risk.2 ≠ [] := by
    intro p _ level reason hne hm
    split at hm
    · simpa [List.mem_singleton.mp hm] using hne
    · simp at hm
  simp only [raisedRisks, List.mem_append, List.mem_flatMap, or_assoc] at h
  rcases h with h | h | ⟨change, -, h | h⟩ | h | h | h | h | h | h | h | h | h | h | h | h | h
  all_goals exact hraise _ _ _ (by simp [js]) h

omit [Runtime] in
lemma risk_text_ne_nil (risk : GovernanceRiskLevel) : risk.text ≠ [] := by
  cases risk <;> decide

lemma score_reasons_ne_nil {facts : CapabilityFacts} {level : GovernanceRiskLevel}
    {reasons : List Str} (h : scoreCapabilityFactsRisk facts = .ok (level, reasons)) :
    ∀ reason ∈ reasons, reason ≠ [] := by
  simp only [scoreCapabilityFactsRisk, bind_eq_ok, pure_eq_ok, parse_eq_ok] at h
  obtain ⟨_, ⟨-, rfl⟩, h⟩ := h
  obtain ⟨-, rfl⟩ := Prod.mk.inj h
  intro reason hr
  obtain ⟨risk, hrisk, rfl⟩ := List.mem_map.mp (mem_uniqueStrings.mp hr)
  exact raisedRisks_reason_ne_nil hrisk

/-- Only a low or medium risk escapes the human mode. -/
lemma approvalModeOf_of_high {facts : CapabilityFacts} {risk : GovernanceRiskLevel}
    {found : Findings} (h : risk = .high ∨ risk = .critical) :
    approvalModeOf facts risk found = .humanRequired := by
  have hc : isPolicyAutoCandidate facts risk = false := by
    rw [Bool.eq_false_iff]
    intro hc
    have := ((isPolicyAutoCandidate_iff facts risk).mp hc).1
    rcases h with rfl | rfl <;> simp [GovernanceRiskLevel.rank] at this
  rcases h with rfl | rfl <;> simp [approvalModeOf, hc]

/-- The decision passes its schema whatever was found. -/
theorem decisionOf_issues (hdigest : ∀ s, isSha256 (Runtime.sha256 s) = true)
    {input : AuthorizeCapabilityFactsInput} (hcaller : CallerValid input)
    (hfacts : input.facts.issues = []) {level : GovernanceRiskLevel} {reasons : List Str}
    (hscore : scoreCapabilityFactsRisk input.facts = .ok (level, reasons)) {narrowed : Narrowed}
    (hnarrow : narrowToCapabilityCeiling input.requestedCapabilities input.capabilityCeiling
      = .ok narrowed) (found : Findings) :
    (decisionOf input input.facts level reasons narrowed found).issues = [] := by
  have hallowed : ∀ a ∈ (decisionOf input input.facts level reasons narrowed
      found).authorizedCapabilities, a ∈ input.requestedCapabilities := by
    intro a ha
    have ha : a ∈ narrowed.allowed := by
      simp only [decisionOf] at ha
      split at ha
      · exact (List.mem_filter.mp ha).1
      · exact ha
    exact ((narrow_spec hnarrow).1 a ha).1
  have hid : (decisionOf input input.facts level reasons narrowed found).decisionId ≠ [] := by
    have := hcaller.decisionId
    simp only [decisionOf]
    cases hd : input.decisionId with
    | none => simp [js]
    | some id => simpa [hd] using this
  have hsubject : input.facts.subjectId ≠ [] := by
    simp only [CapabilityFacts.issues, List.append_eq_nil_iff, under_eq_nil, nonEmpty_eq_nil]
      at hfacts
    tauto
  have hreasons : ∀ reason ∈ (decisionOf input input.facts level reasons narrowed found).reasons,
      reason ≠ [] := by
    intro reason hr
    simp only [decisionOf, mem_uniqueStrings, List.mem_append, List.mem_cons, List.mem_map,
      List.not_mem_nil, or_false, or_assoc, List.mem_ite_nil_right] at hr
    rcases hr with hr | rfl | rfl | rfl | ⟨_, -, rfl⟩ | ⟨-, rfl⟩ | ⟨-, rfl⟩ | ⟨-, rfl⟩ | ⟨-, rfl⟩
    · exact score_reasons_ne_nil hscore reason hr
    all_goals simp [js]
  have hblocked : found.blocked = true →
      approvalModeOf input.facts (maxRisk input.semanticRisk level) found = .humanRequired :=
    fun hb => by simp [approvalModeOf, hb]
  simp only [AuthorizationDecision.issues, List.append_eq_nil_iff, under_eq_nil, nonEmpty_eq_nil,
    require_eq_nil, each_eq_nil, decide_eq_true_eq, and_assoc]
  refine ⟨hid, hsubject, ?_, hcaller.requested, fun a ha => hcaller.requested a (hallowed a ha),
    hreasons, hcaller.createdAt, ?_, ?_, ?_, ?_, ?_, ?_, fun a ha => ?_⟩
  · simp [sha256Issues, decisionOf, hashKernelObject, hdigest]
  · rfl
  · rfl
  · cases hb : found.blocked with
    | true => simp [decisionOf, hb, hblocked hb]
    | false => by_cases hm : approvalModeOf input.facts (maxRisk input.semanticRisk level) found
        = .notRequired <;> simp [decisionOf, hb, hm]
  · cases hb : found.blocked with
    | true => simp [decisionOf, hb]
    | false => by_cases hm : approvalModeOf input.facts (maxRisk input.semanticRisk level) found
        = .notRequired <;> simp [decisionOf, hb, hm]
  · cases hb : found.blocked with
    | true => exact Or.inr (hblocked hb)
    | false =>
      refine Or.inl ?_
      by_cases hm : approvalModeOf input.facts (maxRisk input.semanticRisk level) found
        = .notRequired <;> simp [decisionOf, hb, hm]
  · by_cases hh : maxRisk input.semanticRisk level = .high
        ∨ maxRisk input.semanticRisk level = .critical
    · refine Or.inr ?_
      have hm : approvalModeOf input.facts (maxRisk input.semanticRisk level) found =
          .humanRequired := approvalModeOf_of_high hh
      cases hb : found.blocked <;> simp [decisionOf, hb, hm]
    · exact Or.inl (by simpa [decisionOf, not_or] using hh)
  · refine List.any_eq_true.mpr ⟨a, hallowed a ha, by simp [sameCapabilityScope]⟩

/-- Authorization returns what it assembled, once every ingredient was computed. -/
theorem authorize_eq (hdigest : ∀ s, isSha256 (Runtime.sha256 s) = true)
    {input : AuthorizeCapabilityFactsInput} (hcaller : CallerValid input)
    (hfacts : input.facts.issues = []) {level : GovernanceRiskLevel} {reasons : List Str}
    (hscore : scoreCapabilityFactsRisk input.facts = .ok (level, reasons)) {narrowed : Narrowed}
    (hnarrow : narrowToCapabilityCeiling input.requestedCapabilities input.capabilityCeiling
      = .ok narrowed) {found : Findings}
    (hfound : findings input.facts input.requestedCapabilities narrowed.missing = .ok found) :
    authorizeCapabilityFacts input =
      .ok (decisionOf input input.facts level reasons narrowed found) := by
  have hissues := decisionOf_issues hdigest hcaller hfacts hscore hnarrow found
  simp only [authorizeCapabilityFacts, parse, hfacts, if_true, ok_bind, hscore, hnarrow, hfound,
    hissues]

end CodexRouter.Authorization
