import CodexRouter.Authorization.Valid
import CodexRouter.Capability.Canonical

/-!
# When authorization decides

Authorization assembles a decision that its schema accepts, unless it throws on the way. It throws
only where the written paths are compared with the requested writes: a scope and a target are
parsed as texts there, and a text of white space is no scope.
-/

open Js

namespace CodexRouter.Authorization
open Kernel Capability

/-! ## Loops that may throw -/

section
variable {α : Type} {f : α → Result Bool}

/-- A search throws at an element only when no element before it was found. -/
lemma anyM_returns {l : List α} : (l.anyM f).returns = true ↔
    ∀ before a after, l = before ++ a :: after → (∀ b ∈ before, f b ≠ .ok true) →
      (f a).returns = true := by
  induction l with
  | nil =>
    constructor
    · intro _ before a after h
      exact absurd h.symm (List.append_ne_nil_of_right_ne_nil _ (List.cons_ne_nil _ _))
    · exact fun _ => rfl
  | cons c l ih =>
    unfold List.anyM
    cases hc : f c with
    | error e =>
      constructor
      · intro h
        cases h
      · intro h
        have hfirst := h [] c l rfl (List.forall_mem_nil _)
        rw [hc] at hfirst
        cases hfirst
    | ok found =>
      cases found with
      | true =>
        constructor
        · intro _ before a after h hbefore
          cases before with
          | nil =>
            rw [List.nil_append, List.cons.injEq] at h
            rw [← h.1, hc]
            rfl
          | cons b before =>
            rw [List.cons_append, List.cons.injEq] at h
            have hfirst := hbefore b List.mem_cons_self
            rw [← h.1] at hfirst
            exact absurd hc hfirst
        · exact fun _ => rfl
      | false =>
        show (l.anyM f).returns = true ↔ _
        rw [ih]
        constructor
        · intro h before a after hl hbefore
          cases before with
          | nil =>
            rw [List.nil_append, List.cons.injEq] at hl
            rw [← hl.1, hc]
            rfl
          | cons b before =>
            rw [List.cons_append, List.cons.injEq] at hl
            exact h before a after hl.2 fun d hd => hbefore d (List.mem_cons_of_mem b hd)
        · intro h before a after hl hbefore
          apply h (c :: before) a after
          · rw [hl, List.cons_append]
          · intro b hb
            rcases List.mem_cons.mp hb with rfl | hb
            · rw [hc]
              exact fun he => by cases he
            · exact hbefore b hb

lemma anyM_eq_ok {l : List α} {found : Bool} (h : l.anyM f = .ok found) :
    found = true ↔ ∃ a ∈ l, f a = .ok true := by
  induction l with
  | nil =>
    obtain rfl : false = found := pure_eq_ok.mp h
    simp
  | cons c l ih =>
    unfold List.anyM at h
    obtain ⟨b, hb, h⟩ := bind_eq_ok.mp h
    cases b with
    | true =>
      obtain rfl : true = found := pure_eq_ok.mp h
      exact ⟨fun _ => ⟨c, List.mem_cons_self, hb⟩, fun _ => rfl⟩
    | false =>
      rw [ih h]
      constructor
      · intro hex
        obtain ⟨a, ha, hfa⟩ := hex
        exact ⟨a, List.mem_cons_of_mem c ha, hfa⟩
      · intro hex
        obtain ⟨a, ha, hfa⟩ := hex
        rcases List.mem_cons.mp ha with rfl | ha
        · rw [hb] at hfa
          cases hfa
        · exact ⟨a, ha, hfa⟩

lemma allM_cons (c : α) (l : List α) :
    (c :: l).allM f = f c >>= fun passed => if passed then l.allM f else pure false := by
  cases hc : f c with
  | error e =>
    unfold List.allM
    rw [hc]
    rfl
  | ok passed =>
    rw [ok_bind]
    show (f c >>= _) = _
    rw [hc]
    cases passed with
    | false => rfl
    | true => rfl

/-- A check throws at an element only when every element before it passed. -/
lemma allM_returns {l : List α} : (l.allM f).returns = true ↔
    ∀ before a after, l = before ++ a :: after → (∀ b ∈ before, f b = .ok true) →
      (f a).returns = true := by
  induction l with
  | nil =>
    constructor
    · intro _ before a after h
      exact absurd h.symm (List.append_ne_nil_of_right_ne_nil _ (List.cons_ne_nil _ _))
    · exact fun _ => rfl
  | cons c l ih =>
    -- The first element, and the elements behind it once it passed.
    have hsplit : (∀ before a after, c :: l = before ++ a :: after →
          (∀ b ∈ before, f b = .ok true) → (f a).returns = true) ↔
        (f c).returns = true ∧ (f c = .ok true → (l.allM f).returns = true) := by
      rw [ih]
      constructor
      · intro h
        constructor
        · exact h [] c l rfl (List.forall_mem_nil _)
        · intro hc before a after hl hbefore
          apply h (c :: before) a after
          · rw [hl, List.cons_append]
          · exact List.forall_mem_cons.mpr ⟨hc, hbefore⟩
      · intro h before a after hl hbefore
        cases before with
        | nil =>
          rw [List.nil_append, List.cons.injEq] at hl
          rw [← hl.1]
          exact h.1
        | cons b before =>
          rw [List.cons_append, List.cons.injEq] at hl
          obtain ⟨hb, hbefore⟩ := List.forall_mem_cons.mp hbefore
          exact h.2 (by rw [hl.1, hb]) before a after hl.2 hbefore
    rw [hsplit, allM_cons]
    cases hc : f c with
    | error e =>
      constructor
      · intro h
        cases h
      · intro h
        cases h.1
    | ok passed =>
      cases passed with
      | false => exact ⟨fun _ => ⟨rfl, fun h => nomatch h⟩, fun _ => rfl⟩
      | true => exact ⟨fun h => ⟨rfl, fun _ => h⟩, fun h => h.2 rfl⟩

lemma allM_eq_ok {l : List α} {passed : Bool} (h : l.allM f = .ok passed) :
    passed = true ↔ ∀ a ∈ l, f a = .ok true := by
  induction l with
  | nil =>
    obtain rfl : true = passed := pure_eq_ok.mp h
    simp
  | cons c l ih =>
    rw [allM_cons] at h
    obtain ⟨b, hb, h⟩ := bind_eq_ok.mp h
    rw [List.forall_mem_cons, hb]
    cases b with
    | false =>
      obtain rfl : false = passed := pure_eq_ok.mp h
      simp
    | true =>
      rw [ih h]
      simp

lemma allM_append (l r : List α) :
    (l ++ r).allM f = l.allM f >>= fun passed => if passed then r.allM f else pure false := by
  induction l with
  | nil => rfl
  | cons c l ih =>
    rw [List.cons_append, allM_cons, allM_cons]
    cases f c with
    | error e => rfl
    | ok passed =>
      cases passed with
      | false => rfl
      | true => exact ih

lemma allM_flatMap {β : Type} (g : β → List α) (l : List β) :
    (l.allM fun b => (g b).allM f) = (l.flatMap g).allM f := by
  induction l with
  | nil => rfl
  | cons b l ih =>
    rw [List.flatMap_cons, allM_append, allM_cons]
    cases (g b).allM f with
    | error e => rfl
    | ok passed =>
      cases passed with
      | false => rfl
      | true => exact ih

end

/-! ## Requested writes and written paths -/

/-- The requested scopes that write files. -/
def fileWrites (requested : List CapabilityScope) : List CapabilityScope :=
  requested.filter fun scope => scope.kind = .file && scope.access = .write

/-- The paths that the facts say are written, in the order in which they are compared. -/
def writtenTargets (facts : CapabilityFacts) : List Str :=
  facts.fileChanges.flatMap fun change => change.path :: change.oldPath.toList

/-- Whether a scope grants the write of a path. -/
def asks (target : Str) (scope : CapabilityScope) : Result Bool := do
  capabilityImplies (← capabilityScopeToCanonicalString scope) (js "fs.write:" ++ target)

lemma factualFileWritesAreRequested_eq (facts : CapabilityFacts)
    (requested : List CapabilityScope) :
    factualFileWritesAreRequested facts requested =
      (writtenTargets facts).allM fun target => (fileWrites requested).anyM (asks target) :=
  allM_flatMap _ _

lemma asks_eq_true {target : Str} {scope : CapabilityScope} :
    asks target scope = .ok true ↔ Covers scope target := by
  unfold asks Covers
  rw [bind_eq_ok]

lemma capabilityImplies_returns {grant requested : Str} :
    (capabilityImplies grant requested).returns = true ↔
      (parseCapabilityScope grant).returns = true ∧ (parseCapabilityScope requested).returns = true := by
  unfold capabilityImplies
  cases parseCapabilityScope grant with
  | error e => exact ⟨fun h => (nomatch h), fun h => h.1⟩
  | ok parsed =>
    cases parseCapabilityScope requested with
    | error e => exact ⟨fun h => (nomatch h), fun h => h.2⟩
    | ok parsed' => exact ⟨fun _ => ⟨rfl, rfl⟩, fun _ => rfl⟩

lemma parse_fileWrite_returns (path : Str) :
    (parseCapabilityScope (js "fs.write:" ++ path)).returns = true ↔ trimEnd path ≠ [] := by
  constructor
  · intro h
    obtain ⟨parsed, hparsed⟩ := Result.exists_ok h
    exact (parse_fileWrite.mp hparsed).1
  · intro h
    rw [parse_fileWrite.mpr ⟨h, rfl⟩]
    rfl

/-- A scope of file writes is read exactly when its resource is not white space alone. -/
lemma canonical_readable {scope : CapabilityScope} (hissues : scope.issues = [])
    (hkind : scope.kind = .file) (haccess : scope.access = .write) :
    ∃ canonical, capabilityScopeToCanonicalString scope = .ok canonical ∧
      ((parseCapabilityScope canonical).returns = true ↔ trimEnd scope.resource ≠ []) := by
  have haction : capabilityScopeToCanonicalAction scope = js "fs.write" := by
    unfold capabilityScopeToCanonicalAction
    rw [hkind, haccess]
  have hstructured : structuredString scope = js "fs.write:" ++ scope.resource := by
    unfold structuredString
    rw [haction]
    rfl
  rcases canonicalString_cases hissues with ⟨carried, hcarried, -, -, hmatches⟩ | hcanonical
  · use carried, hcarried
    unfold canonicalScopeMatchesStructuredScope at hmatches
    obtain ⟨parsed, hparsed, structured, hread, -⟩ := by simpa only [bind_eq_ok] using hmatches
    change parseCapabilityScope (structuredString scope) = _ at hread
    rw [hparsed]
    rw [hstructured, parse_fileWrite] at hread
    exact ⟨fun _ => hread.1, fun _ => rfl⟩
  · use structuredString scope, hcanonical
    rw [hstructured, parse_fileWrite_returns]

lemma asks_returns {scope : CapabilityScope} (hissues : scope.issues = [])
    (hkind : scope.kind = .file) (haccess : scope.access = .write) (target : Str) :
    (asks target scope).returns = true ↔ trimEnd scope.resource ≠ [] ∧ trimEnd target ≠ [] := by
  obtain ⟨canonical, hcanonical, hread⟩ := canonical_readable hissues hkind haccess
  unfold asks
  rw [hcanonical, ok_bind, capabilityImplies_returns, hread, parse_fileWrite_returns]

/-! ## The condition -/

/-- A requested write is asked about the target, after others that do not cover it, and one of the
two is white space alone. -/
def Unreadable (writes : List CapabilityScope) (target : Str) : Prop :=
  ∃ before scope after, writes = before ++ scope :: after ∧ (∀ g ∈ before, ¬ Covers g target) ∧
    (trimEnd scope.resource = [] ∨ trimEnd target = [])

/-- Behind targets that are all requested there stands no unreadable one. -/
def ReadsTargets (facts : CapabilityFacts) (requested : List CapabilityScope) : Prop :=
  ∀ before target after, writtenTargets facts = before ++ target :: after →
    (∀ t ∈ before, ∃ g ∈ fileWrites requested, Covers g t) →
    ¬ Unreadable (fileWrites requested) target

lemma of_mem_fileWrites {requested : List CapabilityScope} {scope : CapabilityScope}
    (h : scope ∈ fileWrites requested) :
    scope ∈ requested ∧ scope.kind = .file ∧ scope.access = .write := by
  obtain ⟨hmem, hwrites⟩ := List.mem_filter.mp h
  rw [Bool.and_eq_true, decide_eq_true_eq, decide_eq_true_eq] at hwrites
  exact ⟨hmem, hwrites⟩

section
variable {requested : List CapabilityScope} (hissues : ∀ a ∈ requested, a.issues = [])
include hissues

/-- Asking the requested writes about a target. -/
lemma anyM_asks_returns (target : Str) :
    ((fileWrites requested).anyM (asks target)).returns = true ↔
      ¬ Unreadable (fileWrites requested) target := by
  have hreads : ∀ before scope after, fileWrites requested = before ++ scope :: after →
      ((asks target scope).returns = true ↔
        ¬ (trimEnd scope.resource = [] ∨ trimEnd target = [])) := by
    intro before scope after hwrites
    have hmem : scope ∈ fileWrites requested := by
      rw [hwrites]
      exact List.mem_append_right _ List.mem_cons_self
    obtain ⟨hin, hkind, haccess⟩ := of_mem_fileWrites hmem
    rw [asks_returns (hissues scope hin) hkind haccess, not_or]
  rw [anyM_returns]
  constructor
  · intro h hunreadable
    obtain ⟨before, scope, after, hwrites, hbefore, hblank⟩ := hunreadable
    have hreturns := h before scope after hwrites fun g hg => mt asks_eq_true.mp (hbefore g hg)
    exact (hreads before scope after hwrites).mp hreturns hblank
  · intro h before scope after hwrites hbefore
    apply (hreads before scope after hwrites).mpr
    intro hblank
    exact h ⟨before, scope, after, hwrites, fun g hg => mt asks_eq_true.mpr (hbefore g hg), hblank⟩

lemma anyM_asks_eq_true (target : Str) (hreturns : ¬ Unreadable (fileWrites requested) target) :
    (fileWrites requested).anyM (asks target) = .ok true ↔
      ∃ g ∈ fileWrites requested, Covers g target := by
  obtain ⟨found, hfound⟩ := Result.exists_ok ((anyM_asks_returns hissues target).mpr hreturns)
  have hiff := anyM_eq_ok hfound
  simp only [asks_eq_true] at hiff
  rw [← hiff, hfound, Except.ok.injEq]

/-- The comparison of all targets returns exactly when no unreadable one is reached. -/
lemma writesRequested_returns (facts : CapabilityFacts) :
    (factualFileWritesAreRequested facts requested).returns = true ↔
      ReadsTargets facts requested := by
  rw [factualFileWritesAreRequested_eq, allM_returns]
  unfold ReadsTargets
  have hcovered : ∀ t, (fileWrites requested).anyM (asks t) = .ok true →
      ∃ g ∈ fileWrites requested, Covers g t := by
    intro t ht
    have hfound := (anyM_eq_ok ht).mp rfl
    simpa only [asks_eq_true] using hfound
  constructor
  · intro h
    -- Targets that are covered were asked, and passed.
    have hpassed : ∀ before target after, writtenTargets facts = before ++ target :: after →
        (∀ t ∈ before, ∃ g ∈ fileWrites requested, Covers g t) →
        ∀ t ∈ before, (fileWrites requested).anyM (asks t) = .ok true := by
      intro before
      induction before using List.reverseRecOn with
      | nil => exact fun _ _ _ _ => List.forall_mem_nil _
      | append_singleton before last ih =>
        intro target after htargets hbefore
        rw [List.append_assoc, List.singleton_append] at htargets
        have hearlier := ih last (target :: after) htargets
          fun t ht => hbefore t (List.mem_append_left _ ht)
        have hlast := h before last (target :: after) htargets hearlier
        have hreads := (anyM_asks_returns hissues last).mp hlast
        intro t ht
        rcases List.mem_append.mp ht with ht | ht
        · exact hearlier t ht
        · rw [List.mem_singleton.mp ht]
          exact (anyM_asks_eq_true hissues last hreads).mpr
            (hbefore last (List.mem_append_right _ List.mem_cons_self))
    intro before target after htargets hbefore
    exact (anyM_asks_returns hissues target).mp
      (h before target after htargets (hpassed before target after htargets hbefore))
  · intro h before target after htargets hbefore
    exact (anyM_asks_returns hissues target).mpr
      (h before target after htargets fun t ht => hcovered t (hbefore t ht))

omit hissues in
lemma covered_of_requested {facts : CapabilityFacts}
    (h : factualFileWritesAreRequested facts requested = .ok true) :
    ∀ t ∈ writtenTargets facts, ∃ g ∈ fileWrites requested, Covers g t := by
  rw [factualFileWritesAreRequested_eq] at h
  intro t ht
  have hfound := (anyM_eq_ok ((allM_eq_ok h).mp rfl t ht)).mp rfl
  simpa only [asks_eq_true] using hfound

/-- The findings are computed exactly when no unreadable target is reached. -/
lemma findings_returns (facts : CapabilityFacts) [Runtime] (missing : List Str) :
    (findings facts requested missing).returns = true ↔ ReadsTargets facts requested := by
  have hmissing : (findings facts requested missing).returns =
      (fileWriteCapabilityMissing facts requested).returns := by
    unfold findings
    cases fileWriteCapabilityMissing facts requested with
    | error e => rfl
    | ok b => rfl
  rw [hmissing]
  unfold fileWriteCapabilityMissing
  split_ifs with hchanges
  · rw [← writesRequested_returns hissues]
    cases factualFileWritesAreRequested facts requested with
    | error e => rfl
    | ok b => exact Iff.rfl
  · rw [not_not] at hchanges
    have hnone : writtenTargets facts = [] := by
      unfold writtenTargets
      rw [hchanges]
      rfl
    constructor
    · intro _ before target after htargets
      rw [hnone] at htargets
      exact absurd htargets.symm (List.append_ne_nil_of_right_ne_nil _ (List.cons_ne_nil _ _))
    · exact fun _ => rfl

end

/-! ## Blocking -/

section
variable [Runtime]

/-- What has to block a decision. -/
def MustBlock (facts : CapabilityFacts) (requested : List CapabilityScope) : Prop :=
  (∃ change ∈ facts.fileChanges, hasUnsafeGovernedPath change = true) ∨
    (∃ target ∈ writtenTargets facts, ¬ ∃ g ∈ fileWrites requested, Covers g target) ∨
    (∃ path ∈ deriveSensitivePathsFromFileChanges facts.fileChanges,
      path ∉ facts.sensitivePaths) ∨
    (unknownFacts facts = true ∧
      (facts.fileChanges ≠ [] ∨ ∃ scope ∈ requested, isSideEffectingCapability scope = true))

lemma blocked_of_mustBlock {facts : CapabilityFacts} {requested : List CapabilityScope}
    {missing : List Str} {found : Findings} (h : findings facts requested missing = .ok found)
    (hblock : MustBlock facts requested) : found.blocked = true := by
  obtain ⟨hwrite, -, hsensitive, heffect, hrisky, hunknown⟩ := findings_spec h
  unfold Findings.blocked
  simp only [Bool.or_eq_true]
  rcases hblock with ⟨change, hchange, hbad⟩ | ⟨target, htarget, hnone⟩ | ⟨path, hpath, hlisted⟩ |
    ⟨hunknowns, heffects⟩
  · left
    right
    have hchanges := List.ne_nil_of_mem hchange
    have hany := List.any_eq_true.mpr ⟨change, hchange, hbad⟩
    rw [hrisky, heffect, hany]
    simp [hchanges]
  · left
    left
    left
    right
    have hchanges : facts.fileChanges ≠ [] := by
      obtain ⟨change, hchange, -⟩ := List.mem_flatMap.mp htarget
      exact List.ne_nil_of_mem hchange
    unfold fileWriteCapabilityMissing at hwrite
    rw [if_pos hchanges] at hwrite
    obtain ⟨passed, hpassed, hmissing⟩ := bind_eq_ok.mp hwrite
    cases passed with
    | true => exact absurd (covered_of_requested hpassed target htarget) hnone
    | false => exact (pure_eq_ok.mp hmissing).symm
  · left
    left
    right
    rw [hsensitive]
    exact List.any_eq_true.mpr ⟨path, hpath, decide_eq_true hlisted⟩
  · right
    rw [hunknown, heffect, hunknowns, Bool.and_true, Bool.or_eq_true, decide_eq_true_eq,
      List.any_eq_true]
    exact heffects

/-- Authorization returns a decision, blocked where it has to be, exactly when it reaches no target
and no requested write that is white space alone. -/
theorem authorize_decides_iff (hdigest : ∀ s, isSha256 (Runtime.sha256 s) = true)
    {input : AuthorizeCapabilityFactsInput} (hcaller : CallerValid input)
    (hceiling : ∀ a ∈ input.capabilityCeiling, a.issues = []) (hfacts : input.facts.issues = []) :
    ((∃ decision, authorizeCapabilityFacts input = .ok decision) ∧
        ∀ decision, authorizeCapabilityFacts input = .ok decision →
          MustBlock input.facts input.requestedCapabilities →
          decision.disposition = .blocked ∧
            ∀ scope ∈ decision.authorizedCapabilities, scope.access = .read) ↔
      ReadsTargets input.facts input.requestedCapabilities := by
  obtain ⟨⟨level, reasons⟩, hscore⟩ : ∃ r, scoreCapabilityFactsRisk input.facts = .ok r := by
    simp [scoreCapabilityFactsRisk, parse, hfacts, pure, Except.pure]
  have hcanonical : ∀ a : CapabilityScope, a.issues = [] →
      ∃ s, capabilityScopeToCanonicalString a = .ok s := by
    intro a ha
    rcases canonicalString_cases ha with ⟨carried, hcarried, -⟩ | hstructured
    · exact ⟨carried, hcarried⟩
    · exact ⟨_, hstructured⟩
  obtain ⟨narrowed, hnarrow⟩ := narrow_returns
    (fun a ha => hcanonical a (hcaller.requested a ha)) fun a ha => hcanonical a (hceiling a ha)
  have hreturns := findings_returns hcaller.requested input.facts narrowed.missing
  constructor
  · intro h
    obtain ⟨⟨decision, hdecision⟩, -⟩ := h
    obtain ⟨basis⟩ := authorize_basis hdecision
    apply (findings_returns hcaller.requested input.facts basis.narrowed.missing).mp
    rw [basis.finding]
    rfl
  · intro h
    obtain ⟨found, hfound⟩ := Result.exists_ok (hreturns.mpr h)
    constructor
    · exact ⟨_, authorize_eq hdigest hcaller hfacts hscore hnarrow hfound⟩
    · intro decision hdecision hblock
      obtain ⟨basis⟩ := authorize_basis hdecision
      have hblocked := blocked_of_mustBlock basis.finding hblock
      rw [basis.disposition_eq, basis.authorized_eq, if_pos hblocked, if_pos hblocked]
      refine ⟨rfl, ?_⟩
      intro scope hscope
      exact of_decide_eq_true (List.mem_filter.mp hscope).2

end

/-- Without blank paths and blank resources every target is read. -/
lemma readsTargets_of_nonblank {facts : CapabilityFacts} {requested : List CapabilityScope}
    (hpaths : ∀ target ∈ writtenTargets facts, trimEnd target ≠ [])
    (hscopes : ∀ scope ∈ fileWrites requested, trimEnd scope.resource ≠ []) :
    ReadsTargets facts requested := by
  intro before target after htargets _ hunreadable
  obtain ⟨earlier, scope, later, hwrites, -, hblank⟩ := hunreadable
  rcases hblank with hblank | hblank
  · apply hscopes scope _ hblank
    rw [hwrites]
    exact List.mem_append_right _ List.mem_cons_self
  · apply hpaths target _ hblank
    rw [htargets]
    exact List.mem_append_right _ List.mem_cons_self

/-! ## A blank path -/

/-- Facts about writing one file. -/
def oneFileFacts (path : Str) : CapabilityFacts where
  subjectId := "subject"
  fileChanges := [{
    path
    kind := .update
    oldPath := none
    beforeHash := none
    afterHash := none
    addedLines := 1
    deletedLines := 0 }]
  commands := []
  permissionRequests := []
  repository := {
    branch := some "main"
    protectedBranch := false
    worktreeClean := true
    headCommit := some "c0ffee"
    expectedHead := some "c0ffee" }
  networkAccess := .none
  credentialAccess := .none
  externalTargets := []
  sensitivePaths := []
  releaseAction := false
  exactTargets := true
  ambiguous := false
  unknowns := []
  observedAt := "2026-01-02T03:04:05Z"

/-- The write of one file, where writes below `src` are requested and allowed. -/
def oneFileInput (path : Str) : AuthorizeCapabilityFactsInput where
  decisionId := none
  surface := .provider
  facts := oneFileFacts path
  semanticRisk := .low
  requestedCapabilities := [fileWriteScope "src/**"]
  capabilityCeiling := [fileWriteScope "src/**"]
  createdAt := "2026-01-02T03:04:05Z"

attribute [local instance] asciiRuntime in
theorem authorize_decides_iff_source :
    ∃ decision, authorizeCapabilityFacts (oneFileInput "src/a.ts") = .ok decision := by
  have hcaller : CallerValid (oneFileInput "src/a.ts") := by
    refine ⟨nofun, by decide, ?_⟩
    exact List.forall_mem_singleton.mpr (by decide +kernel)
  apply ((authorize_decides_iff isSha256_hex hcaller
    (List.forall_mem_singleton.mpr (by decide +kernel)) (by decide +kernel)).mpr ?_).1
  apply readsTargets_of_nonblank
  · exact List.forall_mem_singleton.mpr (by decide +kernel)
  · exact List.forall_mem_singleton.mpr (by decide +kernel)

attribute [local instance] asciiRuntime in
/-- A path of one space is an unsafe target that nobody requested; authorization throws. -/
theorem blank_path_throws :
    (oneFileInput " ").facts.issues = [] ∧
      (∀ scope ∈ (oneFileInput " ").requestedCapabilities, scope.issues = []) ∧
      (∃ change ∈ (oneFileInput " ").facts.fileChanges, hasUnsafeGovernedPath change = true) ∧
      ¬ ∃ decision, authorizeCapabilityFacts (oneFileInput " ") = .ok decision := by
  refine ⟨by decide +kernel, List.forall_mem_singleton.mpr (by decide +kernel),
    ⟨_, List.mem_cons_self, by decide +kernel⟩, ?_⟩
  intro h
  obtain ⟨decision, hdecision⟩ := h
  have hthrows : (authorizeCapabilityFacts (oneFileInput " ")).returns = false := by
    decide +kernel
  rw [hdecision] at hthrows
  cases hthrows

end CodexRouter.Authorization
