import CodexRouter.Authorization.Decision

/-!
# The factual risk

A decision asks one thing of the risk: whether it is high or critical.
-/

open Js

namespace CodexRouter.Authorization
open Kernel

lemma maxRisk_rank (left right : GovernanceRiskLevel) :
    (maxRisk left right).rank = max left.rank right.rank := by
  unfold maxRisk
  split <;> omega

variable [Runtime]

/-- Some fact raises the risk to high or critical. -/
def Serious (facts : CapabilityFacts) : Prop :=
  (facts.fileChanges.any hasUnsafeGovernedPath = true
      ∨ js "unsafe_governed_path" ∈ facts.unknowns)
    ∨ (∃ change ∈ facts.fileChanges, change.kind = .delete ∨ change.kind = .rename)
    ∨ facts.commands ≠ [] ∨ facts.permissionRequests ≠ []
    ∨ (facts.repository.protectedBranch = true
      ∨ isProtectedBranchName facts.repository.branch = true)
    ∨ facts.repository.worktreeClean = false
    ∨ (facts.repository.expectedHead ≠ none
      ∧ facts.repository.headCommit ≠ facts.repository.expectedHead)
    ∨ (facts.sensitivePaths ≠ [] ∨ deriveSensitivePathsFromFileChanges facts.fileChanges ≠ [])
    ∨ facts.networkAccess ≠ .none ∨ facts.credentialAccess ≠ .none
    ∨ facts.externalTargets ≠ [] ∨ facts.releaseAction = true ∨ facts.exactTargets = false
    ∨ facts.ambiguous = true ∨ facts.unknowns ≠ []

omit [Runtime] in
lemma foldl_maxRisk_rank (n : ℕ) (raised : List (GovernanceRiskLevel × Str))
    (level : GovernanceRiskLevel) :
    n ≤ (raised.foldl (fun level risk => maxRisk level risk.1) level).rank ↔
      n ≤ level.rank ∨ ∃ risk ∈ raised, n ≤ risk.1.rank := by
  induction raised generalizing level with
  | nil => simp
  | cons risk raised ih => simp [ih, maxRisk_rank, or_assoc]

omit [Runtime] in
lemma exists_raise (p : Prop) [Decidable p] (risk : GovernanceRiskLevel) (reason : Str) :
    (∃ r ∈ (if p then [(risk, reason)] else []), 2 ≤ r.1.rank) ↔ p ∧ 2 ≤ risk.rank := by
  by_cases hp : p <;> simp [hp]

omit [Runtime] in
lemma exists_raise_append (l r : List (GovernanceRiskLevel × Str)) :
    (∃ risk ∈ l ++ r, 2 ≤ risk.1.rank) ↔
      (∃ risk ∈ l, 2 ≤ risk.1.rank) ∨ ∃ risk ∈ r, 2 ≤ risk.1.rank := by
  simp [or_and_right, exists_or]

omit [Runtime] in
lemma exists_raise_flatMap {α : Type} (l : List α) (f : α → List (GovernanceRiskLevel × Str)) :
    (∃ r ∈ l.flatMap f, 2 ≤ r.1.rank) ↔ ∃ a ∈ l, ∃ r ∈ f a, 2 ≤ r.1.rank := by
  simp only [List.mem_flatMap]
  constructor
  · rintro ⟨r, ⟨a, ha, hr⟩, h⟩
    exact ⟨a, ha, r, hr, h⟩
  · rintro ⟨a, ha, r, hr, h⟩
    exact ⟨r, ⟨a, ha, hr⟩, h⟩

lemma exists_raised_iff (facts : CapabilityFacts) :
    (∃ risk ∈ raisedRisks facts, 2 ≤ risk.1.rank) ↔ Serious facts := by
  have hnet : 2 ≤ (if facts.networkAccess = .unknown then GovernanceRiskLevel.high
      else .critical).rank := by
    split <;> decide
  simp only [raisedRisks, exists_raise_append, exists_raise, exists_raise_flatMap, hnet,
    Serious, Bool.or_eq_true, Bool.and_eq_true, decide_eq_true_eq, Bool.not_eq_true',
    show ¬ 2 ≤ GovernanceRiskLevel.rank .medium by decide,
    show 2 ≤ GovernanceRiskLevel.rank .high by decide,
    show 2 ≤ GovernanceRiskLevel.rank .critical by decide, and_true, and_false, false_or, or_assoc]

theorem score_serious_iff {facts : CapabilityFacts} {level : GovernanceRiskLevel}
    {reasons : List Str} (h : scoreCapabilityFactsRisk facts = .ok (level, reasons)) :
    2 ≤ level.rank ↔ Serious facts := by
  simp only [scoreCapabilityFactsRisk, bind_eq_ok, pure_eq_ok, parse_eq_ok] at h
  obtain ⟨_, ⟨-, rfl⟩, h⟩ := h
  obtain ⟨rfl, -⟩ := Prod.mk.inj h
  rw [foldl_maxRisk_rank, exists_raised_iff]
  simp [GovernanceRiskLevel.rank]

omit [Runtime] in
lemma rank_le_one {risk : GovernanceRiskLevel} :
    risk.rank ≤ 1 ↔ risk = .low ∨ risk = .medium := by
  cases risk <;> simp [GovernanceRiskLevel.rank]

/-- The automatic mode needs changes on a known head and no serious fact. -/
theorem isPolicyAutoCandidate_iff (facts : CapabilityFacts) (risk : GovernanceRiskLevel) :
    isPolicyAutoCandidate facts risk = true ↔ risk.rank ≤ 1 ∧ facts.fileChanges ≠ [] ∧
      facts.repository.headCommit ≠ none ∧
      facts.repository.headCommit = facts.repository.expectedHead ∧ ¬ Serious facts := by
  have hkind : ∀ kind : GovernedFileChangeKind,
      (kind = .create ∨ kind = .update) ↔ ¬ (kind = .delete ∨ kind = .rename) := by
    intro kind
    cases kind <;> simp
  simp only [isPolicyAutoCandidate, rank_le_one, Serious, Bool.and_eq_true, Bool.or_eq_true,
    decide_eq_true_eq, List.all_eq_true, List.any_eq_true, Bool.not_eq_true', hkind, not_or,
    not_exists, not_and, Bool.not_eq_true, ne_eq, not_not, Bool.not_eq_false, and_assoc]
  constructor
  · rintro ⟨h₁, h₂, h₃, h₄, h₅, h₆, h₇, h₈, h₉, h₁₀, h₁₁, h₁₂, h₁₃, h₁₄, h₁₅, h₁₆, h₁₇, h₁₈, h₁₉,
      h₂₀⟩
    exact ⟨h₁, h₂, h₁₀, h₁₁, h₄, by simp [h₂₀], h₃, h₅, h₆, h₇, h₈, h₉, fun _ => h₁₁, h₁₅, h₁₆,
      h₁₂, h₁₃, h₁₄, h₁₇, h₁₈, h₁₉, h₂₀⟩
  · rintro ⟨h₁, h₂, h₁₀, h₁₁, h₄, -, h₃, h₅, h₆, h₇, h₈, h₉, -, h₁₅, h₁₆, h₁₂, h₁₃, h₁₄, h₁₇, h₁₈,
      h₁₉, h₂₀⟩
    exact ⟨h₁, h₂, h₃, h₄, h₅, h₆, h₇, h₈, h₉, h₁₀, h₁₁, h₁₂, h₁₃, h₁₄, h₁₅, h₁₆, h₁₇, h₁₈, h₁₉,
      h₂₀⟩

end CodexRouter.Authorization
