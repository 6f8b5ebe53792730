import CodexRouter.Authorization.Grants
import CodexRouter.Authorization.Valid
import CodexRouter.Preview.Policy

/-!
# Preview policy and authorization

The hard boundary is written twice: once for the preview policy and once for authorization. The
two agree on every fact but the spelling of the branch and the spelling of a scope.
-/

open Js

namespace CodexRouter.Preview
open Kernel Authorization Capability

/-! ## Binding facts to a change set -/

lemma count_join (c : CodeUnit) {parts : List Str} (h : parts ≠ []) :
    (join c parts).count c + 1 = (parts.map (·.count c)).sum + parts.length := by
  induction parts with
  | nil => exact absurd rfl h
  | cons s parts ih =>
    by_cases hp : parts = []
    · simp [hp]
    · rw [join_cons c s hp, List.count_append, List.count_cons_self, List.map_cons, List.sum_cons,
        List.length_cons]
      have := ih hp
      omega

/-- Joined texts of equal number are equal as soon as one side has no separator in it. -/
lemma join_injective {c : CodeUnit} {l r : List Str} (hlen : l.length = r.length) (hne : r ≠ [])
    (hr : ∀ s ∈ r, c ∉ s) (h : join c l = join c r) : l = r := by
  have hl : l ≠ [] := by
    rintro rfl
    exact hne (List.length_eq_zero_iff.mp hlen.symm)
  have hsum : (r.map (·.count c)).sum = 0 := by
    rw [List.sum_eq_zero_iff_forall_eq_nat]
    simpa [List.count_eq_zero] using hr
  have hcount := count_join c hl
  rw [h, hlen] at hcount
  have hcount' := count_join c hne
  have hzero : (l.map (·.count c)).sum = 0 := by omega
  have hl' : ∀ s ∈ l, c ∉ s := by
    rw [List.sum_eq_zero_iff_forall_eq_nat] at hzero
    simpa [List.count_eq_zero] using hzero
  rw [← split_join hl hl', h, split_join hne hr]

lemma kind_text_injective {k k' : GovernedFileChangeKind} (h : k.text = k'.text) : k = k' := by
  cases k <;> cases k' <;> first | rfl | exact absurd h (by decide)

lemma zero_not_mem_natText (n : ℕ) : (0 : CodeUnit) ∉ Json.natText n := by
  intro h
  obtain ⟨c, hc, h0⟩ := List.mem_map.mp h
  have hd := Json.isDigit_cu (Nat.isDigit_of_mem_toDigits (by omega) (by omega) hc)
  rw [h0] at hd
  exact absurd hd (by decide)

/-- The parts of `bindChange`. -/
def bindParts (change : CapabilityFactFileChange) : List Str :=
  [change.kind.text, change.oldPath.getD [], change.path, Json.natText change.addedLines,
    Json.natText change.deletedLines, bindOptionalHash change.beforeHash,
    bindOptionalHash change.afterHash]

lemma zero_not_mem_hash {hash : Option (Option Str)} (h : hashFieldIssues hash = []) :
    (0 : CodeUnit) ∉ bindOptionalHash hash := by
  match hash, h with
  | none, _ => decide
  | some none, _ => decide
  | some (some value), h =>
    have hv : isSha256 value = true := by
      simpa [hashFieldIssues, sha256Issues] using h
    simp only [isSha256, Bool.and_eq_true, List.all_eq_true] at hv
    simp only [bindOptionalHash, List.mem_append, not_or]
    exact ⟨by decide, fun h0 => absurd (hv.2 0 h0) (by decide)⟩

section
variable [Runtime]

/-- Without renames and with safe paths, no part has a separator in it. -/
lemma zero_not_mem_bindParts {change : CapabilityFactFileChange}
    (hissues : change.issues = []) (hsafe : isSafeGovernedPath change.path = true)
    (hkind : change.kind ≠ .rename) : ∀ s ∈ bindParts change, (0 : CodeUnit) ∉ s := by
  obtain ⟨parts, hparts⟩ := isSafeGovernedPath_iff.mp hsafe
  simp only [CapabilityFactFileChange.issues, refineGovernedFileChangeSemantics,
    List.append_eq_nil_iff, under_eq_nil, require_eq_nil, decide_eq_true_eq] at hissues
  obtain ⟨⟨⟨-, hbefore⟩, hafter⟩, ⟨⟨-, hold⟩, -⟩, -⟩ := hissues
  have hold : change.oldPath = none := hold.resolve_left hkind
  have hkindText : (0 : CodeUnit) ∉ change.kind.text := by
    cases change.kind <;> decide
  intro s hs
  simp only [bindParts, hold, Option.getD_none, List.mem_cons, List.not_mem_nil, or_false] at hs
  obtain rfl | rfl | rfl | rfl | rfl | rfl | rfl := hs
  · exact hkindText
  · simp
  · exact hparts.not_mem (by decide) (by decide) (by decide)
  · exact zero_not_mem_natText _
  · exact zero_not_mem_natText _
  · exact zero_not_mem_hash hbefore
  · exact zero_not_mem_hash hafter

/-- A fact that is bound to a change has its path and its kind, and no old path. -/
lemma bindChange_eq {fact change : CapabilityFactFileChange} (hfact : fact.issues = [])
    (hissues : change.issues = []) (hsafe : isSafeGovernedPath change.path = true)
    (hkind : change.kind ≠ .rename) (h : bindChange fact = bindChange change) :
    fact.path = change.path ∧ fact.kind = change.kind ∧ fact.oldPath = none := by
  have hparts : bindParts fact = bindParts change :=
    join_injective (by rfl) (by simp [bindParts]) (zero_not_mem_bindParts hissues hsafe hkind) h
  simp only [bindParts, List.cons.injEq] at hparts
  have hk := kind_text_injective hparts.1
  simp only [CapabilityFactFileChange.issues, refineGovernedFileChangeSemantics,
    List.append_eq_nil_iff, under_eq_nil, require_eq_nil, decide_eq_true_eq] at hfact
  obtain ⟨-, ⟨⟨-, hold⟩, -⟩, -⟩ := hfact
  exact ⟨hparts.2.2.1, hk, hold.resolve_left (hk ▸ hkind)⟩

/-! ## What an eligible change set satisfies -/

/-- The facts of an eligible change set, as the preview policy checked them. -/
structure Eligible (changeSet : GovernedFileChangeSet) (facts : CapabilityFacts) : Prop where
  changeSet_issues : changeSet.issues = []
  safe : ∀ change ∈ changeSet.changes, isSafeGovernedPath change.path = true ∧
    toSlashes change.path = change.path
  kind : ∀ change ∈ changeSet.changes, change.kind ≠ .delete ∧ change.kind ≠ .rename
  insensitive : ∀ change ∈ changeSet.changes, isSensitiveGovernedPath change.path = false
  sensitivePaths : facts.sensitivePaths = []
  commands : facts.commands = []
  permissionRequests : facts.permissionRequests = []
  protectedBranch : facts.repository.protectedBranch = false
  branch : isProtectedBranch facts.repository.branch = false
  worktreeClean : facts.repository.worktreeClean = true
  headCommit : facts.repository.headCommit = some changeSet.baseHead
  expectedHead : facts.repository.headCommit = facts.repository.expectedHead
  networkAccess : facts.networkAccess = .none
  credentialAccess : facts.credentialAccess = .none
  externalTargets : facts.externalTargets = []
  releaseAction : facts.releaseAction = false
  exactTargets : facts.exactTargets = true
  ambiguous : facts.ambiguous = false
  unknowns : facts.unknowns = []
  bound : factsBindChangeSet facts changeSet = true

theorem eligible_of_evaluate {changeSet : GovernedFileChangeSet} {facts : CapabilityFacts}
    {policy : PreviewPolicy} {evaluation : AutoApprovalEvaluation}
    (h : evaluateAutoApprovalPolicy changeSet facts policy = .ok evaluation)
    (he : evaluation.eligible = true) : Eligible changeSet facts := by
  simp only [evaluateAutoApprovalPolicy, bind_eq_ok, parse_eq_ok] at h
  obtain ⟨_, ⟨hissues, rfl⟩, _, ⟨-, rfl⟩, h⟩ := h
  have hhard : collectHardBoundaryReasons changeSet facts = [] := by
    by_contra hne
    rw [if_pos hne, pure_eq_ok] at h
    simp [← h] at he
  simp only [collectHardBoundaryReasons, uniqueStrings_eq_nil, List.append_eq_nil_iff,
    ite_eq_right_iff, List.cons_ne_nil, imp_false, Bool.not_eq_true, Bool.or_eq_false_iff,
    List.any_eq_false, Bool.not_eq_false', decide_eq_false_iff_not, not_not, and_assoc] at hhard
  obtain ⟨hsafe, -, hdelete, hrename, -, hsensitive, hpaths, -, -, hcommands, hpermission,
    hprotected, hbranch, hclean, -, -, hexpected, hhead, hnetwork, hcredential, -, hexternal,
    hrelease, hexact, hambiguous, hunknowns, hbound⟩ := hhard
  exact
    { changeSet_issues := hissues
      safe := fun change hc => isCanonicalGovernedPath_iff.mp (hsafe change hc).1
      kind := fun change hc => ⟨hdelete change hc, hrename change hc⟩
      insensitive := hsensitive
      sensitivePaths := hpaths
      commands := hcommands
      permissionRequests := hpermission
      protectedBranch := hprotected
      branch := hbranch
      worktreeClean := hclean
      headCommit := hhead
      expectedHead := hexpected
      networkAccess := hnetwork
      credentialAccess := hcredential
      externalTargets := hexternal
      releaseAction := hrelease
      exactTargets := hexact
      ambiguous := hambiguous
      unknowns := hunknowns
      bound := hbound }

namespace Eligible
variable {changeSet : GovernedFileChangeSet} {facts : CapabilityFacts}

lemma change_issues (h : Eligible changeSet facts) :
    changeSet.changes ≠ [] ∧ ∀ change ∈ changeSet.changes,
      change.toCapabilityFactFileChange.issues = [] := by
  have hi := h.changeSet_issues
  simp only [GovernedFileChangeSet.issues, List.append_eq_nil_iff, under_eq_nil,
    eachNonEmpty_eq_nil, GovernedFileChange.issues] at hi
  obtain ⟨⟨⟨⟨⟨-, hne, hall⟩, -⟩, -⟩, -⟩, -⟩ := hi
  exact ⟨hne, fun change hc => (hall change hc).2⟩

/-- Each fact is about a path of the change set. -/
lemma facts_bound (h : Eligible changeSet facts) (hfacts : facts.issues = []) :
    ∀ fact ∈ facts.fileChanges, ∃ change ∈ changeSet.changes,
      fact.path = change.path ∧ fact.kind = change.kind ∧ fact.oldPath = none := by
  intro fact hf
  have hb := h.bound
  simp only [factsBindChangeSet, Bool.and_eq_true, decide_eq_true_eq] at hb
  have hm : bindChange fact ∈ sortUnits (facts.fileChanges.map bindChange) := by
    simpa [sortUnits] using ⟨fact, hf, rfl⟩
  rw [hb.2] at hm
  obtain ⟨change, hc, he⟩ : ∃ change ∈ changeSet.changes,
      bindChange change.toCapabilityFactFileChange = bindChange fact := by
    simpa [sortUnits] using hm
  have hissues : fact.issues = [] := by
    simp only [CapabilityFacts.issues, List.append_eq_nil_iff, under_eq_nil, each_eq_nil] at hfacts
    tauto
  exact ⟨change, hc, bindChange_eq hissues (h.change_issues.2 change hc) (h.safe change hc).1
    (h.kind change hc).2 he.symm⟩

lemma fileChanges_ne_nil (h : Eligible changeSet facts) : facts.fileChanges ≠ [] := by
  have hb := h.bound
  simp only [factsBindChangeSet, Bool.and_eq_true, decide_eq_true_eq] at hb
  have hlen := congrArg List.length hb.2
  simp only [sortUnits, List.length_insertionSort, List.length_map] at hlen
  intro he
  rw [he, List.length_nil, eq_comm, List.length_eq_zero_iff] at hlen
  exact h.change_issues.1 hlen

lemma not_unsafe (h : Eligible changeSet facts) (hfacts : facts.issues = []) :
    facts.fileChanges.any hasUnsafeGovernedPath = false := by
  rw [List.any_eq_false]
  intro fact hf
  obtain ⟨change, hc, hp, -, ho⟩ := h.facts_bound hfacts fact hf
  simp [hasUnsafeGovernedPath, hp, ho, (h.safe change hc).1]

lemma derived_nil (h : Eligible changeSet facts) (hfacts : facts.issues = []) :
    deriveSensitivePathsFromFileChanges facts.fileChanges = [] := by
  rw [deriveSensitivePathsFromFileChanges, uniqueStrings_eq_nil, List.filter_eq_nil_iff]
  intro path hp
  obtain ⟨fact, hf, hpath⟩ := List.mem_flatMap.mp hp
  obtain ⟨change, hc, he, -, ho⟩ := h.facts_bound hfacts fact hf
  obtain ⟨hsafe, hslash⟩ := h.safe change hc
  obtain ⟨parts, hparts⟩ := isSafeGovernedPath_iff.mp hsafe
  have hnorm : normalizeGovernedPath change.path = change.path := by
    rw [normalizeGovernedPath, hparts.normalize_eq, hslash]
  obtain rfl : path = change.path := by
    simpa [ho, he, hnorm] using hpath
  simp [h.insensitive change hc]

/-- An eligible change set has a serious fact only through the spelling of its branch. -/
theorem serious_iff (h : Eligible changeSet facts) (hfacts : facts.issues = []) :
    Serious facts ↔ isProtectedBranchName facts.repository.branch = true := by
  have hkinds : ¬ ∃ change ∈ facts.fileChanges, change.kind = .delete ∨ change.kind = .rename := by
    rintro ⟨fact, hf, hk⟩
    obtain ⟨change, hc, -, he, -⟩ := h.facts_bound hfacts fact hf
    rw [he] at hk
    exact hk.elim (h.kind change hc).1 (h.kind change hc).2
  simp [Serious, h.not_unsafe hfacts, h.derived_nil hfacts, hkinds, h.sensitivePaths, h.commands,
    h.permissionRequests, h.protectedBranch, h.worktreeClean, h.expectedHead, h.networkAccess,
    h.credentialAccess, h.externalTargets, h.releaseAction, h.exactTargets, h.ambiguous, h.unknowns]

end Eligible

/-! ## The two boundaries -/

/-- The branch has no surrounding space. -/
def BranchTrimmed (facts : CapabilityFacts) : Prop :=
  ∀ branch ∈ facts.repository.branch, trim branch = branch

instance (facts : CapabilityFacts) : Decidable (BranchTrimmed facts) := by
  unfold BranchTrimmed
  infer_instance

def changePaths (changeSet : GovernedFileChangeSet) : List Str := changeSet.changes.map (·.path)

/-- A path can be written as a scope: it is not read as white space, nor as the word `deny`
unless another path normalizes to that word. -/
def Grantable (paths : List Str) (path : Str) : Prop :=
  trimEnd path ≠ [] ∧ (trimEnd path = js "deny" → ∃ other ∈ paths,
    trimEnd other ≠ js "deny" ∧ normalizeFileResource (trimEnd other) = js "deny")

/-- Authorization of the facts with exactly the scopes that the change set needs. -/
def grantInput (changeSet : GovernedFileChangeSet) (facts : CapabilityFacts) (surface : Surface)
    (decisionId : Option Str) (createdAt : Str) : AuthorizeCapabilityFactsInput where
  decisionId
  surface
  facts
  semanticRisk := .low
  requestedCapabilities := (changePaths changeSet).map fileWriteScope
  capabilityCeiling := (changePaths changeSet).map fileWriteScope
  createdAt

lemma isProtectedBranch_trimmed {facts : CapabilityFacts}
    (h : isProtectedBranch facts.repository.branch = false) :
    isProtectedBranchName facts.repository.branch = false ↔ BranchTrimmed facts := by
  unfold BranchTrimmed
  cases hb : facts.repository.branch with
  | none => simp [hb, isProtectedBranch] at h
  | some branch =>
    simp only [hb, isProtectedBranch] at h
    simp only [isProtectedBranchName, h, Option.mem_some_iff, forall_eq']
    simp

/-- Under the scopes of all the paths, the scope of one path is admitted when it is grantable. -/
lemma admitted_iff {paths : List Str} (hsafe : ∀ q ∈ paths, isSafeGovernedPath q = true)
    (htrim : ∀ q ∈ paths, trimEnd q ≠ []) {path : Str} (hp : path ∈ paths) :
    Admitted (paths.map fileWriteScope) (fileWriteScope path) ↔ Grantable paths path := by
  have hne : ∀ q ∈ paths, q ≠ [] := fun q hq he => htrim q hq (by rw [he]; rfl)
  have hreach : ∀ q ∈ paths, capabilityImplies (js "fs.write:" ++ q) (js "fs.write:" ++ path) =
      .ok true ↔ trimEnd q ≠ js "deny" ∧
        normalizeFileResource (trimEnd q) = normalizeFileResource (trimEnd path) := by
    intro q hq
    rw [implies_written (htrim q hq) (htrim path hp), Except.ok.injEq, resourceImplies_fileWrite,
      reaches_safe_iff (hsafe q hq) (htrim q hq)]
  constructor
  · rintro ⟨g, hg, t, s, ht, hs, hi⟩
    obtain ⟨q, hq, rfl⟩ := List.mem_map.mp hg
    obtain rfl : js "fs.write:" ++ q = t := by
      simpa [canonical_fileWriteScope (hne q hq)] using ht
    obtain rfl : js "fs.write:" ++ path = s := by
      simpa [canonical_fileWriteScope (hne path hp)] using hs
    obtain ⟨hd, he⟩ := (hreach q hq).mp hi
    refine ⟨htrim path hp, fun hdeny => ⟨q, hq, hd, ?_⟩⟩
    rw [he, hdeny]
    decide
  · rintro ⟨-, hdeny⟩
    have hother : ∃ q ∈ paths, trimEnd q ≠ js "deny" ∧
        normalizeFileResource (trimEnd q) = normalizeFileResource (trimEnd path) := by
      by_cases hd : trimEnd path = js "deny"
      · obtain ⟨q, hq, hqd, he⟩ := hdeny hd
        exact ⟨q, hq, hqd, by rw [he, hd]; decide⟩
      · exact ⟨path, hp, hd, rfl⟩
    obtain ⟨q, hq, hqd⟩ := hother
    exact ⟨_, List.mem_map_of_mem hq, _, _, canonical_fileWriteScope (hne q hq),
      canonical_fileWriteScope (hne path hp), (hreach q hq).mpr hqd⟩

omit [Runtime] in
lemma trimEnd_ne_nil_of_admitted {ceiling : List CapabilityScope} {path : Str} (hne : path ≠ [])
    (h : Admitted ceiling (fileWriteScope path)) : trimEnd path ≠ [] := by
  obtain ⟨g, -, t, s, -, hs, hi⟩ := h
  obtain rfl : js "fs.write:" ++ path = s := by simpa [canonical_fileWriteScope hne] using hs
  simp only [capabilityImplies, bind_eq_ok, parse_fileWrite] at hi
  obtain ⟨-, -, -, ⟨hp, -⟩, -⟩ := hi
  exact hp

/-- The writes of the facts are requested when every path is grantable. -/
lemma writes_requested {changeSet : GovernedFileChangeSet} {facts : CapabilityFacts}
    (h : Eligible changeSet facts) (hfacts : facts.issues = [])
    (hgrant : ∀ path ∈ changePaths changeSet, Grantable (changePaths changeSet) path) :
    fileWriteCapabilityMissing facts ((changePaths changeSet).map fileWriteScope) = .ok false := by
  have hne : ∀ q ∈ changePaths changeSet, q ≠ [] := fun q hq he => (hgrant q hq).1 (by rw [he]; rfl)
  have hsafe : ∀ q ∈ changePaths changeSet, isSafeGovernedPath q = true := by
    intro q hq
    obtain ⟨change, hc, rfl⟩ := List.mem_map.mp hq
    exact (h.safe change hc).1
  have hfilter : ((changePaths changeSet).map fileWriteScope).filter (fun scope =>
      decide (scope.kind = .file) && decide (scope.access = .write)) =
      (changePaths changeSet).map fileWriteScope := by
    rw [List.filter_eq_self]
    simp [fileWriteScope]
  have hrequested : factualFileWritesAreRequested facts
      ((changePaths changeSet).map fileWriteScope) = .ok true := by
    rw [factualFileWritesAreRequested, hfilter]
    refine allM_eq_true fun fact hf => ?_
    obtain ⟨change, hc, hpath, -, hold⟩ := h.facts_bound hfacts fact hf
    have hp : change.path ∈ changePaths changeSet := List.mem_map_of_mem hc
    refine allM_eq_true fun target ht => ?_
    obtain rfl : target = change.path := by simpa [hold, hpath] using ht
    refine anyM_eq_true ?_ ?_
    · simp only [List.forall_mem_map]
      intro q hq
      exact ⟨_, by rw [canonical_fileWriteScope (hne q hq), ok_bind,
        implies_written (hgrant q hq).1 (hgrant _ hp).1]⟩
    · obtain ⟨g, hg, t, s, ht, hs, hi⟩ :=
        (admitted_iff hsafe (fun q hq => (hgrant q hq).1) hp).mpr (hgrant _ hp)
      obtain rfl : js "fs.write:" ++ change.path = s := by
        simpa [canonical_fileWriteScope (hne _ hp)] using hs
      exact ⟨g, hg, by rw [ht, ok_bind, hi]⟩
  rw [fileWriteCapabilityMissing, if_pos h.fileChanges_ne_nil, hrequested]
  rfl

/-- An eligible change set is authorized automatically exactly when its branch has no surrounding
space and each of its paths can be written as a scope. -/
theorem eligible_authorized_iff (hdigest : ∀ s, isSha256 (Runtime.sha256 s) = true)
    {changeSet : GovernedFileChangeSet} {facts : CapabilityFacts} {policy : PreviewPolicy}
    {evaluation : AutoApprovalEvaluation} (hfacts : facts.issues = [])
    (h : evaluateAutoApprovalPolicy changeSet facts policy = .ok evaluation)
    (he : evaluation.eligible = true) (surface : Surface) {decisionId : Option Str}
    (hid : decisionId ≠ some []) {createdAt : Str} (hat : createdAt ≠ []) :
    ((∃ level reasons, scoreCapabilityFactsRisk facts = .ok (level, reasons) ∧
          level.rank ≤ GovernanceRiskLevel.medium.rank) ∧
        ∃ decision, authorizeCapabilityFacts
            (grantInput changeSet facts surface decisionId createdAt) = .ok decision ∧
          decision.approvalMode = .policyAuto) ↔
      BranchTrimmed facts ∧
        ∀ path ∈ changePaths changeSet, Grantable (changePaths changeSet) path := by
  have hel := eligible_of_evaluate h he
  have hserious := hel.serious_iff hfacts
  have htrim := isProtectedBranch_trimmed hel.branch
  have hsafe : ∀ q ∈ changePaths changeSet, isSafeGovernedPath q = true := by
    intro q hq
    obtain ⟨change, hc, rfl⟩ := List.mem_map.mp hq
    exact (hel.safe change hc).1
  have hne : ∀ q ∈ changePaths changeSet, q ≠ [] := by
    intro q hq
    obtain ⟨parts, hparts⟩ := isSafeGovernedPath_iff.mp (hsafe q hq)
    exact hparts.path_ne_nil
  constructor
  · rintro ⟨⟨level, reasons, hscore, hlevel⟩, decision, hd, hmode⟩
    have hns : ¬ Serious facts := by
      rw [← score_serious_iff hscore]
      have hlevel : level.rank ≤ 1 := hlevel
      omega
    refine ⟨htrim.mp (by rw [Bool.eq_false_iff]; exact mt hserious.mpr hns), ?_⟩
    obtain ⟨basis⟩ := authorize_basis hd
    have hb : basis.found.blocked = false := by
      by_contra hb
      rw [Bool.not_eq_false] at hb
      have := basis.approvalMode_eq
      simp [approvalModeOf, hb, hmode] at this
    have hmissing : basis.narrowed.missing = [] := by
      have hm := (findings_spec basis.finding).2.1
      simp only [Findings.blocked, Bool.or_eq_false_iff, decide_eq_false_iff_not, not_not] at hb
      exact hm.symm.trans hb.1.1.1.1
    have hadm := (narrow_missing_iff basis.narrow).mp hmissing
    simp only [grantInput, List.forall_mem_map] at hadm
    exact fun path hp => (admitted_iff hsafe
      (fun q hq => trimEnd_ne_nil_of_admitted (hne q hq) (hadm q hq)) hp).mp (hadm path hp)
  · rintro ⟨hbranch, hgrant⟩
    have hns : ¬ Serious facts := by
      rw [hserious, htrim.mpr hbranch]
      decide
    obtain ⟨⟨level, reasons⟩, hscore⟩ : ∃ r, scoreCapabilityFactsRisk facts = .ok r := by
      simp [scoreCapabilityFactsRisk, parse, hfacts, pure, Except.pure]
    have hlevel : level.rank ≤ 1 := by
      rw [← score_serious_iff hscore] at hns
      omega
    refine ⟨⟨level, reasons, hscore, hlevel⟩, ?_⟩
    have hcanonical : ∀ a ∈ (changePaths changeSet).map fileWriteScope,
        ∃ s, capabilityScopeToCanonicalString a = .ok s := by
      simp only [List.forall_mem_map]
      exact fun q hq => ⟨_, canonical_fileWriteScope (hne q hq)⟩
    obtain ⟨narrowed, hnarrow⟩ := narrow_returns hcanonical hcanonical
    have hmissing : narrowed.missing = [] := by
      rw [narrow_missing_iff hnarrow]
      simp only [List.forall_mem_map]
      exact fun q hq => (admitted_iff hsafe (fun r hr => (hgrant r hr).1) hq).mpr (hgrant q hq)
    have hwrites := writes_requested hel hfacts hgrant
    obtain ⟨found, hfound⟩ : ∃ found, findings facts ((changePaths changeSet).map fileWriteScope)
        narrowed.missing = .ok found := by
      simp [findings, hwrites, pure, Except.pure]
    obtain ⟨hfw, hfm, hfs, hfe, hfu, hfk⟩ := findings_spec hfound
    have hblocked : found.blocked = false := by
      rw [hwrites, Except.ok.injEq] at hfw
      simp [Findings.blocked, hfm, hmissing, ← hfw, hfs, hel.derived_nil hfacts, hfu, hfk,
        hel.not_unsafe hfacts, hel.unknowns, unknownFacts, hel.ambiguous, hel.exactTargets,
        hel.networkAccess, hel.credentialAccess]
    have hcandidate : isPolicyAutoCandidate facts (maxRisk .low level) = true := by
      refine (isPolicyAutoCandidate_iff _ _).mpr ⟨?_, hel.fileChanges_ne_nil, ?_,
        hel.expectedHead, hns⟩
      · rw [maxRisk_rank]
        exact max_le (by decide) hlevel
      · simp [hel.headCommit]
    have hcaller : CallerValid (grantInput changeSet facts surface decisionId createdAt) := by
      refine ⟨hid, hat, ?_⟩
      simp only [grantInput, List.forall_mem_map]
      intro q hq
      simp [CapabilityScope.issues, fileWriteScope, hne q hq]
    refine ⟨_, authorize_eq hdigest hcaller hfacts hscore hnarrow hfound, ?_⟩
    simp [decisionOf, grantInput, approvalModeOf, hblocked, hfe, hel.fileChanges_ne_nil,
      hcandidate]

end

section
attribute [local instance] asciiRuntime

def newFileDiff : Str :=
  js "diff --git a/src/a.ts b/src/a.ts\nnew file mode 100644\n"
    ++ js "--- /dev/null\n+++ b/src/a.ts\n@@ -0,0 +1 @@\n+1\n"

def newFile : GovernedFileChange where
  path := "src/a.ts"
  kind := .create
  oldPath := none
  beforeHash := some none
  afterHash := some (some (Sha256.hex "1\n"))
  addedLines := 1
  deletedLines := 0
  unifiedDiff := newFileDiff

def newFileChangeSet : GovernedFileChangeSet where
  changeSetId := "changes"
  threadId := "thread"
  turnId := "turn"
  itemId := "item"
  baseHead := "c0ffee"
  changes := [newFile]
  canonicalHash := hashGovernedFileChangeSetContent "c0ffee" [newFile]
  proposedAt := "2026-01-02T03:04:05Z"
  sourceSchemaProfile := "v2"

def newFileFacts (branch : Str) : CapabilityFacts where
  subjectId := "changes"
  fileChanges := [newFile.toCapabilityFactFileChange]
  commands := []
  permissionRequests := []
  repository := ⟨some branch, false, true, some "c0ffee", some "c0ffee"⟩
  networkAccess := .none
  credentialAccess := .none
  externalTargets := []
  sensitivePaths := []
  releaseAction := false
  exactTargets := true
  ambiguous := false
  unknowns := []
  observedAt := "2026-01-02T03:04:05Z"

def sourceRule : AutoApprovalRule where
  ruleId := "source"
  allowedPaths := ["src/**"]
  operations := [.create]
  maxFiles := 1
  maxDiffLines := 10
  prepare := []
  checks := [⟨["npm", "test"], 300000⟩]

def sourceEvaluation : AutoApprovalEvaluation where
  eligible := true
  rule := some sourceRule
  reasons := ["auto_approval_rule:source"]

theorem newFile_authorized :
    (∃ level reasons, scoreCapabilityFactsRisk (newFileFacts "feature/x") = .ok (level, reasons) ∧
        level.rank ≤ GovernanceRiskLevel.medium.rank) ∧
      ∃ decision, authorizeCapabilityFacts (grantInput newFileChangeSet (newFileFacts "feature/x")
          .codexAppServer none "2026-01-02T03:04:05Z") = .ok decision ∧
        decision.approvalMode = .policyAuto := by
  have hfacts : (newFileFacts "feature/x").issues = [] := by decide +kernel
  have h : evaluateAutoApprovalPolicy newFileChangeSet (newFileFacts "feature/x")
      ⟨[sourceRule]⟩ = .ok sourceEvaluation := by decide +kernel
  refine (eligible_authorized_iff isSha256_hex hfacts h rfl .codexAppServer (by simp)
    (by decide)).mpr ⟨by decide, ?_⟩
  simp only [changePaths, newFileChangeSet, List.map_cons, List.map_nil, List.mem_singleton,
    forall_eq]
  exact ⟨by decide, fun hd => absurd hd (by decide)⟩

/-- The preview policy accepts a branch whose name is `main` and a space. -/
theorem padded_branch_eligible :
    evaluateAutoApprovalPolicy newFileChangeSet (newFileFacts "main ") ⟨[sourceRule]⟩ =
        .ok sourceEvaluation ∧
      ¬ ∃ level reasons, scoreCapabilityFactsRisk (newFileFacts "main ") = .ok (level, reasons) ∧
        level.rank ≤ GovernanceRiskLevel.medium.rank := by
  refine ⟨by decide +kernel, ?_⟩
  rintro ⟨level, reasons, h, hlevel⟩
  have hscore : scoreCapabilityFactsRisk (newFileFacts "main ") =
      .ok (.high, ["facts:file_changes", "facts:protected_branch"]) := by decide +kernel
  rw [hscore] at h
  obtain ⟨rfl, -⟩ := Prod.mk.inj (Except.ok.inj h)
  exact absurd hlevel (by decide)

end

end CodexRouter.Preview
