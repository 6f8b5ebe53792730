import CodexRouter.Preview.LocalClone
import CodexRouter.Status.Exact

/-!
# The calls of a preview

What one call of the previewer adds to the runs and to what is against the preview, for calls that
ask git about the repositories and for the inspection of the source.
-/

open Js Runs

namespace CodexRouter.Preview
open Kernel Authorization Status

/-! ## Runs -/

def PreviewRun.IsCloneStatus (run : PreviewRun) : Prop :=
  run.command = none ∧ run.input.cwd = .clone ∧ run.input.argv = cloneStatusArgv

def PreviewRun.IsSourceStatus (run : PreviewRun) : Prop :=
  run.command = none ∧ run.input.cwd = .source ∧ run.input.argv = sourceStatusArgv

/-- Git is asked by the previewer, and not for the status of the clone. -/
structure PreviewRun.Other (run : PreviewRun) : Prop where
  command : run.command = none
  executable : run.input.executable = js "git"
  status : ¬run.IsCloneStatus

/-- Inspections that pass report the repository that they run in. -/
structure PreviewProcessRunner.Truthful (runner : PreviewProcessRunner) : Prop where
  branch : ∀ n repository env result,
    (runner.run n repository (gitInput .source branchArgv env)).1 = .ok result →
      result.status = .passed → trim result.stdout = repository.branch
  head : ∀ n repository env result,
    (runner.run n repository (gitInput .source headArgv env)).1 = .ok result →
      result.status = .passed → trim result.stdout = repository.head
  sourceStatus : ∀ n repository env result,
    (runner.run n repository (gitInput .source sourceStatusArgv env)).1 = .ok result →
      result.status = .passed → result.stdout = encodeV1 repository.entries
  cloneStatus : ∀ n repository env result,
    (runner.run n repository (gitInput .clone cloneStatusArgv env)).1 = .ok result →
      result.status = .passed → result.stdout = encodeV1 repository.entries

/-! ## Calls that only look -/

/-- The runs of a call, all of them with `P`, and what it leaves alone. -/
structure Grows (P : PreviewRun → Prop) (s t : PreviewState) : Prop where
  runs : ∃ runs, t.runs = s.runs ++ runs ∧ ∀ run ∈ runs, P run
  source : t.source = s.source
  reasons : ∃ reasons, t.reasons = s.reasons ++ reasons

section
variable {P Q : PreviewRun → Prop} {s t u : PreviewState}

lemma Grows.refl (s : PreviewState) : Grows P s s :=
  ⟨⟨[], (List.append_nil _).symm, fun _ h => nomatch h⟩, rfl, ⟨[], (List.append_nil _).symm⟩⟩

lemma Grows.trans (hst : Grows P s t) (htu : Grows P t u) : Grows P s u := by
  obtain ⟨first, hfirst, hP⟩ := hst.runs
  obtain ⟨second, hsecond, hP'⟩ := htu.runs
  obtain ⟨old, hold⟩ := hst.reasons
  obtain ⟨new, hnew⟩ := htu.reasons
  refine ⟨⟨first ++ second, ?_, ?_⟩, htu.source.trans hst.source, ⟨old ++ new, ?_⟩⟩
  · rw [hsecond, hfirst, List.append_assoc]
  · intro run hrun
    exact (List.mem_append.mp hrun).elim (hP run) (hP' run)
  · rw [hnew, hold, List.append_assoc]

lemma Grows.mono (h : Grows P s t) (himp : ∀ run, P run → Q run) : Grows Q s t := by
  obtain ⟨runs, hruns, hP⟩ := h.runs
  exact ⟨⟨runs, hruns, fun run hrun => himp run (hP run hrun)⟩, h.source, h.reasons⟩

/-- Where nothing is said in the end, nothing was said before. -/
lemma Grows.reasons_nil (h : Grows P s t) (ht : t.reasons = []) : s.reasons = [] := by
  obtain ⟨reasons, hreasons⟩ := h.reasons
  rw [hreasons] at ht
  exact (List.append_eq_nil_iff.mp ht).1

/-- Nothing has run, and nothing is taken back that is against the preview. -/
structure Still (s t : PreviewState) : Prop where
  runs : t.runs = s.runs
  source : t.source = s.source
  clone : t.clone = s.clone
  reasons : ∃ reasons, t.reasons = s.reasons ++ reasons

lemma Still.grows (h : Still s t) : Grows P s t :=
  ⟨⟨[], by rw [h.runs, List.append_nil], fun _ h => nomatch h⟩, h.source, h.reasons⟩

lemma Still.trans (hst : Still s t) (htu : Still t u) : Still s u := by
  have hgrows : Grows (fun _ => True) s u := hst.grows.trans htu.grows
  obtain ⟨reasons, hreasons⟩ := hgrows.reasons
  exact ⟨htu.runs.trans hst.runs, htu.source.trans hst.source, htu.clone.trans hst.clone,
    reasons, hreasons⟩

lemma pushReasons_ok {reasons : List Str} (h : pushReasons reasons s = (.ok (), t)) :
    Still s t ∧ t.reasons = s.reasons ++ reasons := by
  rw [← Comp.eq_of_modify_ok h]
  exact ⟨⟨rfl, rfl, rfl, ⟨reasons, rfl⟩⟩, rfl⟩

/-- What one run has done. -/
structure Ran (runner : PreviewProcessRunner) (input : PreviewProcessInput)
    (command : Option (PreviewPhase × ExactArgvCommand)) (result : PreviewProcessResult)
    (run : PreviewRun) (s t : PreviewState) : Prop where
  ofInput : run.input = input
  ofCommand : run.command = command
  returned : run.result = .ok result
  answer : (runner.run s.runs.length run.started input).1 = .ok result
  started : run.started = if input.cwd = .source then s.source else s.clone
  runs : t.runs = s.runs ++ [run]
  source : t.source = s.source
  reasons : t.reasons = s.reasons
  clone : t.clone = if input.cwd = .source then s.clone else run.left

variable {runner : PreviewProcessRunner} {input : PreviewProcessInput}
  {command : Option (PreviewPhase × ExactArgvCommand)} {result : PreviewProcessResult}

lemma runProcess_ok (h : runProcess runner input command s = (.ok result, t)) :
    ∃ run, Ran runner input command result run s t := by
  unfold runProcess at h
  dsimp only at h
  obtain ⟨hanswer, rfl⟩ := Prod.mk.inj h
  refine ⟨_, rfl, rfl, hanswer, hanswer, rfl, rfl, rfl, rfl, ?_⟩
  split <;> rfl

lemma passedProcess_ok {errorClass : Str}
    (h : passedProcess runner input errorClass s = (.ok result, t)) :
    result.status = .passed ∧ ∃ run, Ran runner input none result run s t := by
  obtain ⟨answered, s', hrun, h⟩ := Comp.exists_of_bind_ok h
  split at h
  case isTrue hpassed =>
    obtain ⟨rfl, rfl⟩ := Comp.eq_of_pure_ok h
    exact ⟨hpassed, runProcess_ok hrun⟩
  case isFalse => exact absurd (Comp.eq_of_lift_ok h).1 fail_ne_ok

lemma Ran.grows {run : PreviewRun} (h : Ran runner input command result run s t) (hP : P run) :
    Grows P s t := by
  refine ⟨⟨[run], h.runs, ?_⟩, h.source, ⟨[], ?_⟩⟩
  · intro other hother
    rwa [List.mem_singleton.mp hother]
  · rw [h.reasons, List.append_nil]

/-- Any outcome of a run is written down. -/
lemma runProcess_grows (hP : ∀ run : PreviewRun, run.input = input → run.command = command → P run) :
    Grows P s (runProcess runner input command s).2 := by
  refine ⟨⟨_, rfl, ?_⟩, rfl, ⟨[], (List.append_nil _).symm⟩⟩
  intro run hrun
  rw [List.mem_singleton.mp hrun]
  exact hP _ rfl rfl

end

/-- Git is asked, and for no status. -/
structure PreviewRun.Quiet (run : PreviewRun) : Prop extends run.Other where
  sourceStatus : ¬run.IsSourceStatus

/-- A call of the previewer itself that asks for no status. -/
def Steady {α : Type} (x : PreviewCall α) : Prop :=
  Comp.Triple (Grows PreviewRun.Quiet) (fun _ => True) x fun _ _ => True

namespace Steady
variable {α β : Type}

lemma pure (a : α) : Steady (Pure.pure a) := Comp.Triple.pure Grows.refl fun _ _ => trivial

lemma lift (x : Result α) : Steady (Comp.lift x) :=
  Comp.Triple.lift Grows.refl fun _ _ _ _ => trivial

lemma bind {x : PreviewCall α} {f : α → PreviewCall β} (hx : Steady x)
    (hf : ∀ a, Steady (f a)) : Steady (x >>= f) :=
  Comp.Triple.bind (fun _ _ _ => Grows.trans) hx hf

lemma ite {c : Prop} [Decidable c] {x y : PreviewCall α} (hx : Steady x) (hy : Steady y) :
    Steady (if c then x else y) := by
  split
  · exact hx
  · exact hy

lemma grows {x : PreviewCall α} (hx : Steady x) {s t : PreviewState} {a : α}
    (h : x s = (.ok a, t)) : Grows PreviewRun.Quiet s t := by
  have hgrows := (hx s trivial).1
  rwa [h] at hgrows

variable {runner : PreviewProcessRunner}

lemma runProcess {input : PreviewProcessInput} (hgit : input.executable = js "git")
    (hclone : input.argv ≠ cloneStatusArgv) (hsource : input.argv ≠ sourceStatusArgv) :
    Steady (Preview.runProcess runner input none) := by
  intro s _
  refine ⟨runProcess_grows ?_, fun _ _ => trivial⟩
  intro run hinput hcommand
  refine ⟨⟨hcommand, ?_, ?_⟩, ?_⟩
  · rw [hinput]
    exact hgit
  · intro hstatus
    exact hclone (hinput ▸ hstatus.2.2)
  · intro hstatus
    exact hsource (hinput ▸ hstatus.2.2)

lemma passedProcess {input : PreviewProcessInput} {errorClass : Str}
    (hgit : input.executable = js "git") (hclone : input.argv ≠ cloneStatusArgv)
    (hsource : input.argv ≠ sourceStatusArgv) :
    Steady (Preview.passedProcess runner input errorClass) :=
  bind (runProcess hgit hclone hsource) fun _ => ite (pure _) (lift _)

lemma runGit {cwd : Place} {argv : List Str} {env : List (Str × Str)}
    (hclone : argv ≠ cloneStatusArgv) (hsource : argv ≠ sourceStatusArgv) :
    Steady (Preview.runGit runner cwd argv env) :=
  passedProcess rfl hclone hsource

lemma runGitAllowFailure {cwd : Place} {argv : List Str} {env : List (Str × Str)}
    (hclone : argv ≠ cloneStatusArgv) (hsource : argv ≠ sourceStatusArgv) :
    Steady (Preview.runGitAllowFailure runner cwd argv env) :=
  runProcess rfl hclone hsource

lemma hasActiveConfiguredGitFilters {host : PreviewHost} {env : List (Str × Str)}
    {additionalPaths : List Str} :
    Steady (Preview.hasActiveConfiguredGitFilters host runner env additionalPaths) := by
  have hclone : [js "check-attr", js "--stdin", js "-z", js "filter"] ≠ cloneStatusArgv := by decide
  have hsource : [js "check-attr", js "--stdin", js "-z", js "filter"] ≠ sourceStatusArgv := by
    decide
  unfold Preview.hasActiveConfiguredGitFilters
  apply bind (runGit (by decide) (by decide))
  intro trackedPaths
  apply bind (lift _)
  intro trackedPathBytes
  apply ite (lift _)
  dsimp only
  apply ite (pure _)
  apply bind (runProcess rfl hclone hsource)
  intro result
  apply bind (lift _)
  intro attributeBytes
  apply ite (lift _)
  apply bind (lift _)
  intro fields
  apply ite (lift _)
  apply bind (lift _)
  intro drivers
  apply ite (pure _)
  apply bind (runGitAllowFailure (by decide) (by decide))
  intro configured
  apply ite (pure _)
  apply ite (lift _)
  apply bind (lift _)
  intro configuredBytes
  apply ite (lift _)
  apply bind (lift _)
  intro keyFields
  apply bind (lift _)
  intro keys
  exact pure _

lemma inspectPartialClone {env : List (Str × Str)} :
    Steady (Preview.inspectPartialClone runner env) := by
  unfold Preview.inspectPartialClone
  apply bind (runGitAllowFailure (by decide) (by decide))
  intro partialClone
  exact ite (pure _) (ite (pure _) (lift _))

lemma trackedModeReasons {headCommit target : Str} {env : List (Str × Str)} {above : List Str}
    (parts : List Str) :
    Steady (Preview.trackedModeReasons runner headCommit target env above parts) := by
  induction parts generalizing above with
  | nil => exact pure _
  | cons part parts ih =>
    unfold Preview.trackedModeReasons
    dsimp only
    apply bind
    · exact runGit (fun h => absurd (List.head_eq_of_cons_eq h) (by decide))
        (fun h => absurd (List.head_eq_of_cons_eq h) (by decide))
    · intro tree
      exact ite (pure _) ih

lemma collectTrackedTargetModeReasons {headCommit : Str} {targets : List Str}
    {env : List (Str × Str)} :
    Steady (Preview.collectTrackedTargetModeReasons runner headCommit targets env) := by
  apply bind _ fun _ => pure _
  induction targets with
  | nil => exact pure _
  | cons target targets ih =>
    unfold trackedModeReasonsOf
    exact bind (Steady.trackedModeReasons _) fun _ => bind ih fun _ => pure _

end Steady

/-! ## The source -/

section
variable {host : PreviewHost} {runner : PreviewProcessRunner} {s t : PreviewState}

/-- Git is asked; what it has told of the source's status is this text. -/
structure PreviewRun.Tells (text : Str) (run : PreviewRun) : Prop extends run.Other where
  sourceStatus : run.IsSourceStatus → text = encodeV1 run.started.entries

lemma PreviewRun.Quiet.tells {text : Str} {run : PreviewRun} (h : run.Quiet) : run.Tells text :=
  ⟨h.toOther, fun hstatus => absurd hstatus h.sourceStatus⟩

lemma inspectStatus_ok (ht : runner.Truthful) {env : List (Str × Str)} {hidden : Bool}
    {status : Str} (h : inspectStatus runner env hidden s = (.ok status, t)) :
    Grows (PreviewRun.Tells status) s t ∧
      (hidden = true ∨ status = encodeV1 s.source.entries) := by
  unfold inspectStatus at h
  split at h
  case isTrue hhidden =>
    obtain ⟨-, rfl⟩ := Comp.eq_of_pure_ok h
    exact ⟨Grows.refl s, .inl hhidden⟩
  case isFalse =>
    obtain ⟨result, s', hrun, h⟩ := Comp.exists_of_bind_ok h
    obtain ⟨rfl, rfl⟩ := Comp.eq_of_pure_ok h
    obtain ⟨hpassed, run, hran⟩ := passedProcess_ok hrun
    have hstarted : run.started = s.source := hran.started
    have htold := ht.sourceStatus _ _ _ _ hran.answer hpassed
    refine ⟨hran.grows ⟨⟨hran.ofCommand, ?_, ?_⟩, fun _ => htold⟩, .inr (hstarted ▸ htold)⟩
    · rw [hran.ofInput]
      rfl
    · intro hstatus
      have hcwd := hstatus.2.1
      rw [hran.ofInput] at hcwd
      exact nomatch hcwd

/-- What an inspection of the source tells. -/
structure Inspected (state : SourceRepositoryState) (s t : PreviewState) : Prop where
  branch : state.branch = s.source.branch
  headCommit : state.headCommit = s.source.head
  status : state.hasActiveConfiguredFilters = false → state.hasPartialClone = false →
    state.status = encodeV1 s.source.entries
  grows : Grows (PreviewRun.Tells state.status) s t

lemma inspectSourceRepository_ok (ht : runner.Truthful) {paths : List Str}
    {state : SourceRepositoryState}
    (h : inspectSourceRepository host runner paths s = (.ok state, t)) : Inspected state s t := by
  unfold inspectSourceRepository at h
  obtain ⟨branch, s₁, hbranch, h⟩ := Comp.exists_of_bind_ok h
  obtain ⟨head, s₂, hhead, h⟩ := Comp.exists_of_bind_ok h
  obtain ⟨filters, s₃, hfilters, h⟩ := Comp.exists_of_bind_ok h
  obtain ⟨partialClone, s₄, hpartial, h⟩ := Comp.exists_of_bind_ok h
  obtain ⟨status, s₅, hstatus, h⟩ := Comp.exists_of_bind_ok h
  obtain ⟨shallow, s₆, hshallow, h⟩ := Comp.exists_of_bind_ok h
  obtain ⟨tracked, s₇, htracked, h⟩ := Comp.exists_of_bind_ok h
  obtain ⟨hooks, s₈, hhooks, h⟩ := Comp.exists_of_bind_ok h
  obtain ⟨rfl, rfl⟩ := Comp.eq_of_pure_ok h
  obtain ⟨hbranchPassed, branchRun, hbranchRan⟩ := passedProcess_ok hbranch
  obtain ⟨hheadPassed, headRun, hheadRan⟩ := passedProcess_ok hhead
  have hgrows₁ : Grows PreviewRun.Quiet s s₁ :=
    (Steady.runGit (by decide) (by decide)).grows hbranch
  have hgrows₂ : Grows PreviewRun.Quiet s₁ s₂ :=
    (Steady.runGit (by decide) (by decide)).grows hhead
  have hgrows₄ : Grows PreviewRun.Quiet s s₄ :=
    ((hgrows₁.trans hgrows₂).trans (Steady.hasActiveConfiguredGitFilters.grows hfilters)).trans
      (Steady.inspectPartialClone.grows hpartial)
  have hgrows₈ : Grows PreviewRun.Quiet s₅ s₈ :=
    (((Steady.runGit (by decide) (by decide)).grows hshallow).trans
      ((Steady.runGit (by decide) (by decide)).grows htracked)).trans
      ((Steady.runGitAllowFailure (by decide) (by decide)).grows hhooks)
  obtain ⟨hgrows₅, htold⟩ := inspectStatus_ok ht hstatus
  refine ⟨?_, ?_, ?_, ?_⟩
  · have hstarted : branchRun.started = s.source := hbranchRan.started
    rw [← hstarted]
    exact ht.branch _ _ _ _ hbranchRan.answer hbranchPassed
  · have hstarted : headRun.started = s₁.source := hheadRan.started
    rw [← hgrows₁.source, ← hstarted]
    exact ht.head _ _ _ _ hheadRan.answer hheadPassed
  · intro hfilter hclone
    dsimp only at hfilter hclone
    rw [hfilter, hclone] at htold
    rw [← hgrows₄.source]
    exact htold.resolve_left (by decide)
  · exact ((hgrows₄.mono fun _ => PreviewRun.Quiet.tells).trans hgrows₅).trans
      (hgrows₈.mono fun _ => PreviewRun.Quiet.tells)

lemma encodeV1_eq_nil {entries : List StatusEntry} (h : encodeV1 entries = []) : entries = [] := by
  cases entries with
  | nil => rfl
  | cons entry entries =>
    obtain ⟨record, hrecords, -⟩ := recordsV1_eq entry
    unfold encodeV1 terminated at h
    rw [List.flatMap_cons, hrecords] at h
    simp at h

variable [Runtime]

lemma validateSourceState_eq_nil {state : SourceRepositoryState}
    {changeSet : GovernedFileChangeSet} {facts : CapabilityFacts}
    (h : validateSourceState state changeSet facts = []) :
    state.headCommit = changeSet.baseHead ∧ state.status = [] ∧
      isProtectedBranch (some state.branch) = false ∧
      state.hasActiveConfiguredFilters = false ∧ state.hasPartialClone = false := by
  simp only [validateSourceState, uniqueStrings_eq_nil, List.append_eq_nil_iff, ite_eq_right_iff,
    List.cons_ne_nil, imp_false, Bool.not_eq_true, decide_eq_false_iff_not, not_not, and_assoc] at h
  obtain ⟨hhead, hstatus, -, hbranch, -, -, hfilters, hpartial, -⟩ := h
  exact ⟨hhead, hstatus, hbranch, hfilters, hpartial⟩

/-- A source that nothing is against, as it was inspected. -/
structure FitSource (changeSet : GovernedFileChangeSet) (state : SourceRepositoryState)
    (source : Repository) : Prop where
  branch : state.branch = source.branch
  headCommit : state.headCommit = source.head
  status : state.status = []
  entries : source.entries = []
  unprotected : isProtectedBranch (some source.branch) = false
  baseHead : source.head = changeSet.baseHead

lemma inspectSource_ok {world : PreviewWorld} (ht : world.runner.Truthful)
    {changeSet : GovernedFileChangeSet} {input : FileChangePreviewInput}
    {state : SourceRepositoryState}
    (h : inspectSource host world changeSet input s = (.ok (some state), t)) :
    FitSource changeSet state s.source ∧ Grows (PreviewRun.Tells []) s t := by
  unfold inspectSource at h
  obtain ⟨inspected, s₁, hinspect, h⟩ := Comp.exists_of_bind_ok h
  obtain ⟨_, s₂, hpush, h⟩ := Comp.exists_of_bind_ok h
  obtain ⟨reasons, s₃, hread, h⟩ := Comp.exists_of_bind_ok h
  obtain ⟨rfl, rfl⟩ := Comp.eq_of_read_ok hread
  split at h
  case isTrue => exact nomatch (Comp.eq_of_pure_ok h).1
  case isFalse hnone =>
    obtain ⟨source, s₄, hsource, h⟩ := Comp.exists_of_bind_ok h
    obtain ⟨rfl, rfl⟩ := Comp.eq_of_read_ok hsource
    obtain ⟨topology, s₅, htopology, h⟩ := Comp.exists_of_bind_ok h
    obtain ⟨-, rfl⟩ := Comp.eq_of_lift_ok htopology
    obtain ⟨_, s₆, hpush₂, h⟩ := Comp.exists_of_bind_ok h
    split at h
    case isTrue => exact nomatch (Comp.eq_of_pure_ok h).1
    case isFalse =>
      obtain ⟨modes, s₇, hmodes, h⟩ := Comp.exists_of_bind_ok h
      obtain ⟨_, s₈, hpush₃, h⟩ := Comp.exists_of_bind_ok h
      split at h
      case isTrue => exact nomatch (Comp.eq_of_pure_ok h).1
      case isFalse =>
        obtain ⟨hsome, rfl⟩ := Comp.eq_of_pure_ok h
        obtain rfl := Option.some.inj hsome
        have hfound := inspectSourceRepository_ok ht hinspect
        obtain ⟨hstill, hreasons⟩ := pushReasons_ok hpush
        -- nothing is against the source behind the first check
        have hvalid := (List.append_eq_nil_iff.mp (hreasons ▸ not_not.mp hnone)).2
        obtain ⟨hhead, hstatus, hbranch, hfilters, hpartial⟩ := validateSourceState_eq_nil hvalid
        have hentries := hfound.status hfilters hpartial
        rw [hstatus] at hentries
        have hgrows₁ := hfound.grows
        rw [hstatus] at hgrows₁
        refine ⟨⟨hfound.branch, hfound.headCommit, hstatus, encodeV1_eq_nil hentries.symm, ?_, ?_⟩,
          ?_⟩
        · rw [← hfound.branch]
          exact hbranch
        · rw [← hfound.headCommit]
          exact hhead
        · exact (((hgrows₁.trans hstill.grows).trans (pushReasons_ok hpush₂).1.grows).trans
            ((Steady.collectTrackedTargetModeReasons.grows hmodes).mono
              fun _ => PreviewRun.Quiet.tells)).trans (pushReasons_ok hpush₃).1.grows

end

end CodexRouter.Preview
