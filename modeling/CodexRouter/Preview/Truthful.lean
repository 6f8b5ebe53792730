import CodexRouter.Preview.Agreement
import CodexRouter.Preview.Calls

/-!
# What a passed preview tells

Behind a receipt that says passed stands the list of the runs. The clone is looked at between the
patch and the first command, and between the last command and the second look at the source; what
git status has told is told right as far as its text is read right.
-/

open Js Runs

namespace CodexRouter.Preview
open Kernel Authorization Status

/-! ## Statements -/

section
variable [Runtime]

/-- The command of the policy has run in the clone, and has passed. -/
structure RanCommand (phase : PreviewPhase) (command : ExactArgvCommand) (run : PreviewRun) :
    Prop where
  ran : run.command = some (phase, command)
  argv : run.input.executable :: run.input.argv = command.argv
  cwd : run.input.cwd = .clone
  timeoutMs : run.input.timeoutMs = command.timeoutMs
  passed : ∃ result, run.result = .ok result ∧ result.status = .passed

/-- Every target is as its change finds it. -/
def FoundBefore (changeSet : GovernedFileChangeSet) (files : Directory) : Prop :=
  ∀ change ∈ changeSet.changes,
    (change.kind = .create → files.access change.path = false) ∧
      (change.kind ≠ .create → ∃ hash, change.beforeHash = some (some hash) ∧
        files.readHash change.path = .ok hash)

/-- Every target has the hash that its change declares. -/
def LeftAfter (changeSet : GovernedFileChangeSet) (files : Directory) : Prop :=
  ∀ change ∈ changeSet.changes, ∀ hash, change.afterHash = some (some hash) →
    files.readHash change.path = .ok hash

/-- The runs of a preview: git up to the patch, the patch, status, the commands of the rule, status,
git again. -/
structure Told (host : PreviewHost) (changeSet : GovernedFileChangeSet) (rule : AutoApprovalRule)
    (runs : List PreviewRun) : Prop where
  told : ∃ opening patch applied prepare checks checked closing,
    runs = opening ++ patch :: applied :: (prepare ++ checks ++ checked :: closing) ∧
      (∀ run ∈ opening ++ patch :: closing, run.Other) ∧
      (patch.input = patchInput host changeSet ∧ FoundBefore changeSet patch.started.files) ∧
      (applied.IsCloneStatus ∧ LeftAfter changeSet applied.left.files) ∧
      List.Forall₂ (RanCommand .prepare) rule.prepare prepare ∧
      List.Forall₂ (RanCommand .check) rule.checks checks ∧
      (checked.IsCloneStatus ∧ LeftAfter changeSet checked.left.files)

/-- The paths that are reported, original paths of renames too, are the proposed ones. -/
def ReportsExactly (changeSet : GovernedFileChangeSet) (repository : Repository) : Prop :=
  ∀ path, path ∈ allPaths repository.entries ↔ path ∈ targetPaths changeSet

/-- What a receipt of a passed preview says. -/
structure PassedTruthful (host : PreviewHost) (world : PreviewWorld) (input : FileChangePreviewInput)
    (receipt : PreviewReceipt) (runs : List PreviewRun) : Prop where
  isolation : world.runnerAttestation = some input.isolation
  rule : ∃ rule reasons, evaluateAutoApprovalPolicy input.changeSet input.facts input.policy =
      .ok ⟨true, some rule, reasons⟩ ∧ receipt.ruleId = some rule.ruleId ∧
    Told host input.changeSet rule runs
  source : world.source.entries = [] ∧ isProtectedBranch (some world.source.branch) = false ∧
    world.source.head = input.changeSet.baseHead
  sourceAfter : world.sourceAfter.head = world.source.head ∧
    world.sourceAfter.branch = world.source.branch ∧
    world.sourceAfter.entries = world.source.entries
  status : ∀ run ∈ runs, run.IsCloneStatus → ReportsExactly input.changeSet run.started
  cleanup : receipt.cleanupStatus = .passed

/-- Each original path of a rename is read as a path too, and what stands behind its third unit is
reported. -/
def RenamesReadWell (entries : List StatusEntry) : Prop :=
  ∀ original ∈ originals entries,
    (original ∈ entries.map StatusEntry.path ∨ original ∈ (originals entries).map (List.drop 3)) ∧
      original.drop 3 ∈ allPaths entries

omit [Runtime] in
lemma mem_allPaths {entries : List StatusEntry} {path : Str} :
    path ∈ allPaths entries ↔ path ∈ entries.map StatusEntry.path ∨ path ∈ originals entries := by
  unfold allPaths originals StatusEntry.allPaths
  simp only [List.mem_flatMap, List.mem_cons, Option.mem_toList, List.mem_map, List.mem_filterMap]
  constructor
  · rintro ⟨entry, hentry, rfl | horiginal⟩
    · exact .inl ⟨entry, hentry, rfl⟩
    · exact .inr ⟨entry, hentry, horiginal⟩
  · rintro (⟨entry, hentry, rfl⟩ | ⟨entry, hentry, horiginal⟩)
    · exact ⟨entry, hentry, .inl rfl⟩
    · exact ⟨entry, hentry, .inr horiginal⟩

/-- Where the text of a status is read as the proposed paths, it reports them exactly when its
renames are read well. -/
lemma reportsExactly_iff {changeSet : GovernedFileChangeSet} {repository : Repository}
    (h : parsePorcelainPaths (encodeV1 repository.entries) =
      .ok (sortUnits (targetPaths changeSet))) :
    ReportsExactly changeSet repository ↔ RenamesReadWell repository.entries := by
  rcases parsePorcelainPaths_entries repository.entries with ⟨-, hrefused⟩ | ⟨-, -, paths, hread, hmem⟩
  · rw [h] at hrefused
    exact nomatch hrefused
  rw [h] at hread
  have hpaths : ∀ path, path ∈ targetPaths changeSet ↔
      path ∈ repository.entries.map StatusEntry.path ∨
        path ∈ (originals repository.entries).map (List.drop 3) := by
    intro path
    rw [← hmem, ← Except.ok.inj hread]
    exact (List.perm_insertionSort _ _).mem_iff.symm
  constructor
  · intro hexact original horiginal
    refine ⟨?_, ?_⟩
    · rw [← hpaths, ← hexact, mem_allPaths]
      exact .inr horiginal
    · rw [hexact, hpaths]
      exact .inr (List.mem_map_of_mem horiginal)
  · intro hwell path
    rw [hpaths, mem_allPaths]
    constructor
    · rintro (hpath | horiginal)
      · exact .inl hpath
      · exact (hwell path horiginal).1
    · rintro (hpath | hdrop)
      · exact .inl hpath
      · obtain ⟨original, horiginal, rfl⟩ := List.mem_map.mp hdrop
        exact mem_allPaths.mp (hwell original horiginal).2

end

/-! ## The clone -/

section
variable [Runtime] {host : PreviewHost} {world : PreviewWorld} {changeSet : GovernedFileChangeSet}
  {s t : PreviewState}

omit [Runtime] in
lemma beforeHashReasons_eq_nil {files : Directory} {change : GovernedFileChange}
    (h : beforeHashReasons files change = []) :
    (change.kind = .create → files.access change.path = false) ∧
      (change.kind ≠ .create → ∃ hash, change.beforeHash = some (some hash) ∧
        files.readHash change.path = .ok hash) := by
  unfold beforeHashReasons at h
  split at h
  case isTrue hcreate =>
    refine ⟨fun _ => ?_, fun hkind => absurd hcreate hkind⟩
    rw [ite_eq_right_iff] at h
    by_contra haccess
    exact nomatch h (Bool.not_eq_false _ ▸ haccess)
  case isFalse hkind =>
    refine ⟨fun hcreate => absurd hcreate hkind, fun _ => ?_⟩
    split at h
    · exact nomatch h
    · rename_i hash hbefore
      refine ⟨hash, Option.join_eq_some_iff.mp hbefore, ?_⟩
      split at h
      · rename_i actual hread
        rw [ite_eq_left_iff] at h
        rw [hread]
        by_contra hne
        exact nomatch h fun heq => hne (heq ▸ rfl)
      · exact nomatch h

omit [Runtime] in
lemma verifyBeforeHashes_eq_nil {files : Directory} (h : verifyBeforeHashes files changeSet = []) :
    FoundBefore changeSet files := by
  unfold verifyBeforeHashes at h
  rw [uniqueStrings_eq_nil, List.flatMap_eq_nil_iff] at h
  intro change hchange
  exact beforeHashReasons_eq_nil (h change hchange)

omit [Runtime] in
lemma cloneTopologyReasons_ok {allowMissingFinal : Bool} {reasons : List Str}
    (h : cloneTopologyReasons changeSet allowMissingFinal s = (.ok reasons, t)) : s = t := by
  obtain ⟨clone, s₁, hclone, h⟩ := Comp.exists_of_bind_ok h
  obtain ⟨-, rfl⟩ := Comp.eq_of_read_ok hclone
  exact (Comp.eq_of_lift_ok h).2

omit [Runtime] in
lemma checkClone_ok (h : checkClone changeSet s = (.ok (), t)) :
    Still s t ∧ t.reasons = [] ∧ FoundBefore changeSet t.clone.files := by
  unfold checkClone at h
  obtain ⟨topology, s₁, htopology, h⟩ := Comp.exists_of_bind_ok h
  obtain rfl := cloneTopologyReasons_ok htopology
  obtain ⟨_, s₂, hpush, h⟩ := Comp.exists_of_bind_ok h
  split at h
  case isTrue => exact absurd (Comp.eq_of_lift_ok h).1 fail_ne_ok
  case isFalse =>
    obtain ⟨clone, s₃, hclone, h⟩ := Comp.exists_of_bind_ok h
    obtain ⟨rfl, rfl⟩ := Comp.eq_of_read_ok hclone
    obtain ⟨_, s₄, hpush₂, h⟩ := Comp.exists_of_bind_ok h
    obtain ⟨reasons, s₅, hread, h⟩ := Comp.exists_of_bind_ok h
    obtain ⟨rfl, rfl⟩ := Comp.eq_of_read_ok hread
    split at h
    case isTrue => exact absurd (Comp.eq_of_lift_ok h).1 fail_ne_ok
    case isFalse hnone =>
      obtain ⟨-, rfl⟩ := Comp.eq_of_pure_ok h
      obtain ⟨hstill, -⟩ := pushReasons_ok hpush
      obtain ⟨hstill₂, hreasons⟩ := pushReasons_ok hpush₂
      have hnil := not_not.mp hnone
      refine ⟨hstill.trans hstill₂, hnil, ?_⟩
      rw [hstill₂.clone]
      exact verifyBeforeHashes_eq_nil (List.append_eq_nil_iff.mp (hreasons ▸ hnil)).2

/-- The status that a check of the clone has read, and the targets behind it. -/
structure CheckedStatus (changeSet : GovernedFileChangeSet) (run : PreviewRun) : Prop where
  status : run.IsCloneStatus
  reads : parsePorcelainPaths (encodeV1 run.started.entries) =
    .ok (sortUnits (targetPaths changeSet))
  after : LeftAfter changeSet run.left.files

lemma verifyChangedTargetSet_ok (ht : world.runner.Truthful) {reasons : List Str}
    (h : verifyChangedTargetSet host world changeSet s = (.ok reasons, t)) :
    ∃ run result, Ran world.runner (gitInput .clone cloneStatusArgv (cloneEnv host)) none result run
        s t ∧ (reasons = [] → parsePorcelainPaths (encodeV1 run.started.entries) =
          .ok (sortUnits (targetPaths changeSet))) := by
  unfold verifyChangedTargetSet at h
  obtain ⟨result, s₁, hstatus, h⟩ := Comp.exists_of_bind_ok h
  obtain ⟨actual, s₂, hactual, h⟩ := Comp.exists_of_bind_ok h
  obtain ⟨hparse, rfl⟩ := Comp.eq_of_lift_ok hactual
  obtain ⟨rfl, rfl⟩ := Comp.eq_of_pure_ok h
  obtain ⟨hpassed, run, hran⟩ := passedProcess_ok hstatus
  refine ⟨run, result, hran, ?_⟩
  intro hnone
  rw [← ht.cloneStatus _ _ _ _ hran.answer hpassed, hparse]
  rw [ite_eq_left_iff] at hnone
  by_contra hne
  exact nomatch hnone fun heq => hne (heq ▸ rfl)

/-- The hashes are those of the targets in the directory. -/
def HashesOf (files : Directory) (hashes : Map Str Str) : Prop :=
  ∀ path hash, hashes.get? path = some hash → files.readHash path = .ok hash

omit [Runtime] in
lemma readTargetHashes_ok {files : Directory} {hashes : Map Str Str}
    (h : readTargetHashes files changeSet = .ok hashes) : HashesOf files hashes := by
  unfold readTargetHashes at h
  obtain ⟨pairs, hpairs, h⟩ := bind_eq_ok.mp h
  obtain rfl := pure_eq_ok.mp h
  intro path hash hget
  rcases Map.mem_of_get?_setAll hget with hmem | hempty
  swap
  · exact nomatch hempty
  · obtain ⟨change, -, pair, hchange, rfl⟩ :=
      (exists_mem_mapM hpairs (· = (path, hash))).mp ⟨_, hmem, rfl⟩
    unfold readTargetHash at hchange
    split at hchange
    · rename_i actual hread
      obtain ⟨rfl, rfl⟩ := Prod.mk.inj (pure_eq_ok.mp hchange)
      exact hread
    · exact absurd hchange fail_ne_ok

omit [Runtime] in
lemma verifyDeclaredAfterHashes_eq_nil {files : Directory} {hashes : Map Str Str}
    (hhashes : HashesOf files hashes) (h : verifyDeclaredAfterHashes changeSet hashes = []) :
    LeftAfter changeSet files := by
  unfold verifyDeclaredAfterHashes at h
  rw [List.flatMap_eq_nil_iff] at h
  intro change hchange hash hafter
  have hnone := h change hchange
  simp only [hafter, Option.join_some, ite_eq_left_iff, List.cons_ne_nil, imp_false,
    not_not] at hnone
  exact hhashes _ _ hnone

omit [Runtime] in
lemma sameHashMap_hashesOf {files : Directory} {expected actual : Map Str Str}
    (h : sameHashMap expected actual = true) (hactual : HashesOf files actual) :
    HashesOf files expected := by
  unfold sameHashMap at h
  rw [Bool.and_eq_true, List.all_eq_true] at h
  intro path hash hget
  apply hactual
  exact of_decide_eq_true (h.2 (path, hash) (Map.get?_eq_some_iff.mp hget))

/-- What the patch leaves, and what is looked at behind it. -/
structure Patched (host : PreviewHost) (changeSet : GovernedFileChangeSet) (hashes : Map Str Str)
    (patch applied : PreviewRun) (s t : PreviewState) : Prop where
  runs : t.runs = s.runs ++ [patch, applied]
  source : t.source = s.source
  input : patch.input = patchInput host changeSet
  command : patch.command = none
  started : patch.started = s.clone
  status : applied.IsCloneStatus
  hashesOf : HashesOf applied.left.files hashes
  checked : t.reasons = [] → CheckedStatus changeSet applied ∧
    verifyDeclaredAfterHashes changeSet hashes = []

omit [Runtime] in
lemma isCloneStatus_of_ran {result : PreviewProcessResult} {run : PreviewRun}
    (h : Ran world.runner (gitInput .clone cloneStatusArgv (cloneEnv host)) none result run s t) :
    run.IsCloneStatus := by
  refine ⟨h.ofCommand, ?_, ?_⟩
  · rw [h.ofInput]
    rfl
  · rw [h.ofInput]
    rfl

lemma applyPatch_ok (ht : world.runner.Truthful) {hashes : Map Str Str}
    (h : applyPatch host world changeSet s = (.ok hashes, t)) :
    ∃ patch applied, Patched host changeSet hashes patch applied s t := by
  unfold applyPatch at h
  obtain ⟨patched, s₁, hpatch, h⟩ := Comp.exists_of_bind_ok h
  obtain ⟨topology, s₂, htopology, h⟩ := Comp.exists_of_bind_ok h
  obtain rfl := cloneTopologyReasons_ok htopology
  obtain ⟨_, s₃, hpush, h⟩ := Comp.exists_of_bind_ok h
  split at h
  case isTrue => exact absurd (Comp.eq_of_lift_ok h).1 fail_ne_ok
  case isFalse =>
    obtain ⟨changed, s₄, hstatus, h⟩ := Comp.exists_of_bind_ok h
    obtain ⟨_, s₅, hpush₂, h⟩ := Comp.exists_of_bind_ok h
    obtain ⟨clone, s₆, hclone, h⟩ := Comp.exists_of_bind_ok h
    obtain ⟨rfl, rfl⟩ := Comp.eq_of_read_ok hclone
    obtain ⟨found, s₇, hread, h⟩ := Comp.exists_of_bind_ok h
    obtain ⟨hfound, rfl⟩ := Comp.eq_of_lift_ok hread
    obtain ⟨_, s₈, hpush₃, h⟩ := Comp.exists_of_bind_ok h
    obtain ⟨rfl, rfl⟩ := Comp.eq_of_pure_ok h
    obtain ⟨-, patch, hpatch⟩ := passedProcess_ok hpatch
    obtain ⟨applied, result, happlied, hparse⟩ := verifyChangedTargetSet_ok ht hstatus
    obtain ⟨hstill, -⟩ := pushReasons_ok hpush
    obtain ⟨hstill₂, hreasons₂⟩ := pushReasons_ok hpush₂
    obtain ⟨hstill₃, hreasons₃⟩ := pushReasons_ok hpush₃
    have hleft : s₅.clone = applied.left := hstill₂.clone.trans happlied.clone
    have hhashes := readTargetHashes_ok hfound
    rw [hleft] at hhashes
    refine ⟨patch, applied, ?_, ?_, hpatch.ofInput, hpatch.ofCommand, hpatch.started,
      isCloneStatus_of_ran happlied, hhashes, ?_⟩
    · rw [hstill₃.runs, hstill₂.runs, happlied.runs, hstill.runs, hpatch.runs, List.append_assoc]
      rfl
    · rw [hstill₃.source, hstill₂.source, happlied.source, hstill.source, hpatch.source]
    · intro hnil
      rw [hreasons₃, hreasons₂, List.append_eq_nil_iff, List.append_eq_nil_iff] at hnil
      refine ⟨⟨isCloneStatus_of_ran happlied, hparse hnil.1.2, ?_⟩, hnil.2⟩
      exact verifyDeclaredAfterHashes_eq_nil hhashes hnil.2

/-! ## Commands -/

lemma runPolicyCommand_same {command : ExactArgvCommand} {phase : PreviewPhase}
    {receipt : PreviewCheckReceipt}
    (h : runPolicyCommand host world command phase s = (.ok receipt, t)) :
    t.reasons = s.reasons ∧ t.source = s.source := by
  cases hargv : command.argv with
  | nil =>
    simp only [runPolicyCommand, hargv] at h
    obtain ⟨-, rfl⟩ := Comp.eq_of_pure_ok h
    exact ⟨rfl, rfl⟩
  | cons executable argv =>
    simp only [runPolicyCommand, hargv] at h
    split at h
    case isTrue =>
      obtain ⟨-, rfl⟩ := Comp.eq_of_pure_ok h
      exact ⟨rfl, rfl⟩
    case isFalse =>
      obtain ⟨result, s₁, hrun, h⟩ := Comp.exists_of_bind_ok h
      obtain ⟨-, rfl⟩ := Comp.eq_of_pure_ok h
      obtain ⟨run, hran⟩ := runProcess_ok hrun
      exact ⟨hran.reasons, hran.source⟩

lemma runPolicyCommand_ok {command : ExactArgvCommand} {phase : PreviewPhase}
    {receipt : PreviewCheckReceipt}
    (h : runPolicyCommand host world command phase s = (.ok receipt, t))
    (hpassed : receipt.status = .passed) :
    ∃ run, RanCommand phase command run ∧ t.runs = s.runs ++ [run] := by
  cases hargv : command.argv with
  | nil =>
    simp only [runPolicyCommand, hargv] at h
    obtain ⟨rfl, -⟩ := Comp.eq_of_pure_ok h
    exact nomatch hpassed
  | cons executable argv =>
    simp only [runPolicyCommand, hargv] at h
    split at h
    case isTrue =>
      obtain ⟨rfl, -⟩ := Comp.eq_of_pure_ok h
      exact nomatch hpassed
    case isFalse =>
      obtain ⟨result, s₁, hrun, h⟩ := Comp.exists_of_bind_ok h
      obtain ⟨rfl, rfl⟩ := Comp.eq_of_pure_ok h
      obtain ⟨run, hran⟩ := runProcess_ok hrun
      refine ⟨run, ⟨hran.ofCommand, ?_, ?_, ?_, result, hran.returned, hpassed⟩, hran.runs⟩
      · rw [hran.ofInput, hargv]
        rfl
      · rw [hran.ofInput]
        rfl
      · rw [hran.ofInput]
        rfl

/-- Commands that leave nothing against the preview have all run, in order. -/
lemma runPolicyCommands_ok {phase : PreviewPhase} {reason : Str} {commands : List ExactArgvCommand}
    (h : runPolicyCommands host world phase reason commands s = (.ok (), t)) :
    (∃ reasons, t.reasons = s.reasons ++ reasons) ∧ t.source = s.source ∧
      (t.reasons = [] → ∃ runs, t.runs = s.runs ++ runs ∧
        List.Forall₂ (RanCommand phase) commands runs) := by
  induction commands generalizing s with
  | nil =>
    obtain ⟨-, rfl⟩ := Comp.eq_of_pure_ok h
    exact ⟨⟨[], (List.append_nil _).symm⟩, rfl, fun _ => ⟨[], (List.append_nil _).symm, .nil⟩⟩
  | cons command commands ih =>
    unfold runPolicyCommands at h
    obtain ⟨receipt, s₁, hcommand, h⟩ := Comp.exists_of_bind_ok h
    obtain ⟨_, s₂, hmodify, h⟩ := Comp.exists_of_bind_ok h
    have hsame := Comp.eq_of_modify_ok hmodify
    obtain ⟨hreasons₁, hsource₁⟩ := runPolicyCommand_same hcommand
    have hreasons₂ : s₂.reasons = s.reasons := by rw [← hsame, ← hreasons₁]
    have hsource₂ : s₂.source = s.source := by rw [← hsame, ← hsource₁]
    split at h
    case isTrue =>
      obtain ⟨hstill, hpushed⟩ := pushReasons_ok h
      rw [hreasons₂] at hpushed
      refine ⟨⟨[reason], hpushed⟩, hstill.source.trans hsource₂, fun hnil => ?_⟩
      rw [hpushed, List.append_eq_nil_iff] at hnil
      exact nomatch hnil.2
    case isFalse hpassed =>
      obtain ⟨hreasons, hsource, hruns⟩ := ih h
      rw [hreasons₂] at hreasons
      refine ⟨hreasons, hsource.trans hsource₂, fun hnil => ?_⟩
      obtain ⟨run, hran, hruns₁⟩ := runPolicyCommand_ok hcommand (not_not.mp hpassed)
      obtain ⟨runs, hruns₂, hall⟩ := hruns hnil
      refine ⟨run :: runs, ?_, .cons hran hall⟩
      rw [hruns₂, ← hsame, hruns₁, List.append_assoc]
      rfl

/-- A phase that leaves nothing against the preview. -/
lemma runPhase_ok {phase : PreviewPhase} {reason : Str} {commands : List ExactArgvCommand}
    (h : runPhase host world phase reason commands s = (.ok (), t)) :
    (∃ reasons, t.reasons = s.reasons ++ reasons) ∧ t.source = s.source ∧
      (t.reasons = [] → ∃ runs, t.runs = s.runs ++ runs ∧
        List.Forall₂ (RanCommand phase) commands runs) := by
  unfold runPhase at h
  obtain ⟨reasons, s₁, hread, h⟩ := Comp.exists_of_bind_ok h
  obtain ⟨rfl, rfl⟩ := Comp.eq_of_read_ok hread
  split at h
  case isTrue => exact runPolicyCommands_ok h
  case isFalse hsome =>
    obtain ⟨-, rfl⟩ := Comp.eq_of_pure_ok h
    exact ⟨⟨[], (List.append_nil _).symm⟩, rfl, fun hnil => absurd hnil hsome⟩

/-! ## Behind the commands -/

lemma recheckClone_ok (ht : world.runner.Truthful) {expected : Map Str Str}
    (h : recheckClone host world changeSet expected s = (.ok (), t)) :
    (∃ reasons, t.reasons = s.reasons ++ reasons) ∧ t.source = s.source ∧
      (t.reasons = [] → ∃ checked, t.runs = s.runs ++ [checked] ∧
        (verifyDeclaredAfterHashes changeSet expected = [] → CheckedStatus changeSet checked)) := by
  unfold recheckClone at h
  obtain ⟨reasons, s₁, hread, h⟩ := Comp.exists_of_bind_ok h
  obtain ⟨rfl, rfl⟩ := Comp.eq_of_read_ok hread
  split at h
  case isTrue hsome =>
    obtain ⟨-, rfl⟩ := Comp.eq_of_pure_ok h
    exact ⟨⟨[], (List.append_nil _).symm⟩, rfl, fun hnil => absurd hnil hsome⟩
  case isFalse =>
    obtain ⟨topology, s₂, htopology, h⟩ := Comp.exists_of_bind_ok h
    obtain rfl := cloneTopologyReasons_ok htopology
    obtain ⟨_, s₃, hpush, h⟩ := Comp.exists_of_bind_ok h
    obtain ⟨hstill, hreasons⟩ := pushReasons_ok hpush
    split at h
    case isTrue hsome =>
      obtain ⟨-, rfl⟩ := Comp.eq_of_pure_ok h
      refine ⟨hstill.reasons, hstill.source, fun hnil => ?_⟩
      rw [hreasons, List.append_eq_nil_iff] at hnil
      exact absurd hnil.2 hsome
    case isFalse =>
      obtain ⟨changed, s₄, hstatus, h⟩ := Comp.exists_of_bind_ok h
      obtain ⟨_, s₅, hpush₂, h⟩ := Comp.exists_of_bind_ok h
      obtain ⟨clone, s₆, hclone, h⟩ := Comp.exists_of_bind_ok h
      obtain ⟨rfl, rfl⟩ := Comp.eq_of_read_ok hclone
      obtain ⟨actual, s₇, hread, h⟩ := Comp.exists_of_bind_ok h
      obtain ⟨hactual, rfl⟩ := Comp.eq_of_lift_ok hread
      obtain ⟨checked, result, hchecked, hparse⟩ := verifyChangedTargetSet_ok ht hstatus
      obtain ⟨hstill₂, hreasons₂⟩ := pushReasons_ok hpush₂
      obtain ⟨hstill₃, hreasons₃⟩ := pushReasons_ok h
      refine ⟨?_, ?_, fun hnil => ⟨checked, ?_, fun hexpected =>
        ⟨isCloneStatus_of_ran hchecked, ?_, ?_⟩⟩⟩
      · rw [hreasons₃, hreasons₂, hchecked.reasons, hreasons, List.append_assoc, List.append_assoc]
        exact ⟨_, rfl⟩
      · rw [hstill₃.source, hstill₂.source, hchecked.source, hstill.source]
      · rw [hstill₃.runs, hstill₂.runs, hchecked.runs, hstill.runs]
      · rw [hreasons₃, hreasons₂, List.append_eq_nil_iff, List.append_eq_nil_iff] at hnil
        exact hparse hnil.1.2
      · rw [hreasons₃, List.append_eq_nil_iff] at hnil
        have hsame : sameHashMap expected actual = true := by
          by_contra hne
          rw [Bool.not_eq_true] at hne
          rw [hne] at hnil
          exact nomatch hnil.2
        have hleft : s₅.clone = checked.left := hstill₂.clone.trans hchecked.clone
        have hhashes := readTargetHashes_ok hactual
        rw [hleft] at hhashes
        exact verifyDeclaredAfterHashes_eq_nil (sameHashMap_hashesOf hsame hhashes) hexpected

lemma recheckSource_ok (ht : world.runner.Truthful) {before : SourceRepositoryState}
    (hbefore : FitSource changeSet before world.source)
    (h : recheckSource host world changeSet before s = (.ok (), t)) (hnil : t.reasons = []) :
    s.reasons = [] ∧ world.sourceAfter.head = world.source.head ∧
      world.sourceAfter.branch = world.source.branch ∧
      ∃ closing, t.runs = s.runs ++ closing ∧ ∀ run ∈ closing, run.Tells [] := by
  unfold recheckSource at h
  obtain ⟨_, s₁, hmodify, h⟩ := Comp.exists_of_bind_ok h
  have hsame := Comp.eq_of_modify_ok hmodify
  obtain ⟨after, s₂, hinspect, h⟩ := Comp.exists_of_bind_ok h
  obtain ⟨hstill, hreasons⟩ := pushReasons_ok h
  have hfound := inspectSourceRepository_ok ht hinspect
  rw [hreasons, List.append_eq_nil_iff] at hnil
  have hsource : s₁.source = world.sourceAfter := by rw [← hsame]
  have hdrift : after.headCommit = before.headCommit ∧ after.branch = before.branch ∧
      after.status = before.status := by
    have hnone := hnil.2
    unfold reasonIf at hnone
    rw [ite_eq_right_iff] at hnone
    by_contra hne
    apply List.cons_ne_nil _ _ (hnone (decide_eq_true _))
    tauto
  obtain ⟨hhead, hbranch, hstatus⟩ := hdrift
  obtain ⟨closing, hclosing, htells⟩ := hfound.grows.runs
  rw [hstatus, hbefore.status] at htells
  refine ⟨?_, ?_, ?_, closing, ?_, htells⟩
  · have hfirst := hfound.grows.reasons_nil hnil.1
    rw [← hsame] at hfirst
    exact hfirst
  · rw [← hsource, ← hfound.headCommit, hhead, hbefore.headCommit]
  · rw [← hsource, ← hfound.branch, hbranch, hbefore.branch]
  · rw [hstill.runs, hclosing, ← hsame]

/-! ## The whole preview -/

omit [Runtime] in
lemma makeCloneRoot_ok (h : makeCloneRoot world s = (.ok (), t)) : Grows PreviewRun.Quiet s t := by
  unfold makeCloneRoot at h
  cases hmade : world.mkdtempError with
  | some error =>
    simp only [hmade] at h
    exact absurd (Comp.eq_of_lift_ok h).1 fail_ne_ok
  | none =>
    simp only [hmade] at h
    rw [← Comp.eq_of_modify_ok h]
    exact Still.grows ⟨rfl, rfl, rfl, ⟨[], (List.append_nil _).symm⟩⟩

omit [Runtime] in
lemma Steady.pushReasons {reasons : List Str} : Steady (Preview.pushReasons reasons) := by
  intro s _
  exact ⟨(pushReasons_ok rfl).1.grows, fun _ _ => trivial⟩

omit [Runtime] in
lemma Steady.prepareClone : Steady (Preview.prepareClone host world changeSet) := by
  unfold Preview.prepareClone
  apply bind
  · exact passedProcess rfl (fun h => absurd (List.head_eq_of_cons_eq h) (by decide))
      (fun h => absurd (List.head_eq_of_cons_eq h) (by decide))
  intro _
  apply bind (runGit (by decide) (by decide))
  intro _
  apply bind (runGit (by decide) (by decide))
  intro remotes
  apply bind Steady.pushReasons
  intro _
  apply bind (fun s _ => ⟨Grows.refl s, fun _ _ => trivial⟩)
  intro clone
  apply bind Steady.pushReasons
  intro _
  apply bind
  · exact runGit (fun h => absurd (List.head_eq_of_cons_eq h) (by decide))
      (fun h => absurd (List.head_eq_of_cons_eq h) (by decide))
  intro _
  apply bind (runGit (by decide) (by decide))
  intro cloneHead
  apply bind Steady.pushReasons
  intro _
  apply bind (runGit (by decide) (by decide))
  intro cloneStatus
  exact Steady.pushReasons

/-- A run is none that asks the clone for its status, or one that a check of the clone has read. -/
def PreviewRun.Checked (changeSet : GovernedFileChangeSet) (run : PreviewRun) : Prop :=
  run.IsCloneStatus → parsePorcelainPaths (encodeV1 run.started.entries) =
    .ok (sortUnits (targetPaths changeSet))

/-- The runs of a preview that passed. -/
structure Passed (host : PreviewHost) (changeSet : GovernedFileChangeSet) (rule : AutoApprovalRule)
    (runs : List PreviewRun) : Prop where
  told : Told host changeSet rule runs
  checked : ∀ run ∈ runs, run.Checked changeSet
  source : ∀ run ∈ runs, run.IsSourceStatus → run.started.entries = []

omit [Runtime] in
lemma PreviewRun.Tells.entries_nil {run : PreviewRun} (h : run.Tells []) (hrun : run.IsSourceStatus) :
    run.started.entries = [] :=
  encodeV1_eq_nil (h.sourceStatus hrun).symm

omit [Runtime] in
lemma RanCommand.not_status {phase : PreviewPhase} {command : ExactArgvCommand} {run : PreviewRun}
    (h : RanCommand phase command run) : ¬run.IsCloneStatus ∧ ¬run.IsSourceStatus := by
  refine ⟨fun hstatus => ?_, fun hstatus => ?_⟩
  all_goals
    have hnone := hstatus.1
    rw [h.ran] at hnone
    exact nomatch hnone

omit [Runtime] in
lemma forall₂_not_status {phase : PreviewPhase} {commands : List ExactArgvCommand}
    {runs : List PreviewRun} (h : List.Forall₂ (RanCommand phase) commands runs) :
    ∀ run ∈ runs, ¬run.IsCloneStatus ∧ ¬run.IsSourceStatus := by
  induction h with
  | nil => exact fun _ hrun => nomatch hrun
  | cons hran _ ih => exact List.forall_mem_cons.mpr ⟨hran.not_status, ih⟩

/-- Where the opening, the patch, the two checks of the clone and the commands between them, and the
closing are what they should be, so is the whole. -/
lemma passed_of_parts {rule : AutoApprovalRule} {opening prepare checks closing : List PreviewRun}
    {patch applied checked : PreviewRun} (hopening : ∀ run ∈ opening, run.Tells [])
    (hcommand : patch.command = none) (hpatch : patch.input = patchInput host changeSet)
    (hfound : FoundBefore changeSet patch.started.files) (happlied : CheckedStatus changeSet applied)
    (hprepare : List.Forall₂ (RanCommand .prepare) rule.prepare prepare)
    (hchecks : List.Forall₂ (RanCommand .check) rule.checks checks)
    (hchecked : CheckedStatus changeSet checked) (hclosing : ∀ run ∈ closing, run.Tells []) :
    Passed host changeSet rule
      (opening ++ patch :: applied :: (prepare ++ checks ++ checked :: closing)) := by
  have hother : patch.Other := by
    refine ⟨hcommand, ?_, fun hstatus => ?_⟩
    · rw [hpatch]
      rfl
    · have hargv := hstatus.2.2
      rw [hpatch] at hargv
      exact absurd (List.head_eq_of_cons_eq hargv) (by decide)
  have hran : ∀ run ∈ prepare ++ checks, ¬run.IsCloneStatus ∧ ¬run.IsSourceStatus := by
    intro run hrun
    exact (List.mem_append.mp hrun).elim (forall₂_not_status hprepare run)
      (forall₂_not_status hchecks run)
  have hclone : ∀ run : PreviewRun, run.IsCloneStatus → ¬run.IsSourceStatus := by
    intro run hstatus hsource
    have hcwd := hstatus.2.1.symm.trans hsource.2.1
    exact nomatch hcwd
  refine ⟨⟨opening, patch, applied, prepare, checks, checked, closing, rfl, ?_, ⟨hpatch, hfound⟩,
    ⟨happlied.status, happlied.after⟩, hprepare, hchecks, hchecked.status, hchecked.after⟩, ?_, ?_⟩
  · intro run hrun
    rw [List.mem_append, List.mem_cons] at hrun
    rcases hrun with hrun | rfl | hrun
    · exact (hopening run hrun).toOther
    · exact hother
    · exact (hclosing run hrun).toOther
  · intro run hrun hstatus
    rw [List.mem_append, List.mem_cons, List.mem_cons, List.mem_append, List.mem_cons] at hrun
    rcases hrun with hrun | rfl | rfl | hrun | rfl | hrun
    · exact absurd hstatus (hopening run hrun).status
    · exact absurd hstatus hother.status
    · exact happlied.reads
    · exact absurd hstatus (hran run hrun).1
    · exact hchecked.reads
    · exact absurd hstatus (hclosing run hrun).status
  · intro run hrun hstatus
    rw [List.mem_append, List.mem_cons, List.mem_cons, List.mem_append, List.mem_cons] at hrun
    rcases hrun with hrun | rfl | rfl | hrun | rfl | hrun
    · exact (hopening run hrun).entries_nil hstatus
    · have hcwd := hstatus.2.1
      rw [hpatch] at hcwd
      exact nomatch hcwd
    · exact absurd hstatus (hclone _ happlied.status)
    · exact absurd hstatus (hran run hrun).2
    · exact absurd hstatus (hclone _ hchecked.status)
    · exact (hclosing run hrun).entries_nil hstatus

lemma previewClone_ok (ht : world.runner.Truthful) {rule : AutoApprovalRule}
    {before : SourceRepositoryState} (hbefore : FitSource changeSet before world.source)
    (htells : ∀ run ∈ s.runs, run.Tells [])
    (h : previewClone host world changeSet rule before s = (.ok (), t)) (hnil : t.reasons = []) :
    Passed host changeSet rule t.runs ∧ world.sourceAfter.head = world.source.head ∧
      world.sourceAfter.branch = world.source.branch := by
  unfold previewClone at h
  obtain ⟨_, s₁, hroot, h⟩ := Comp.exists_of_bind_ok h
  obtain ⟨_, s₂, hprepareClone, h⟩ := Comp.exists_of_bind_ok h
  obtain ⟨_, s₃, hcheckClone, h⟩ := Comp.exists_of_bind_ok h
  obtain ⟨hashes, s₄, happly, h⟩ := Comp.exists_of_bind_ok h
  obtain ⟨_, s₅, hprepare, h⟩ := Comp.exists_of_bind_ok h
  obtain ⟨_, s₆, hchecks, h⟩ := Comp.exists_of_bind_ok h
  obtain ⟨_, s₇, hrecheck, h⟩ := Comp.exists_of_bind_ok h
  obtain ⟨hstill, -, hfound⟩ := checkClone_ok hcheckClone
  obtain ⟨patch, applied, hpatched⟩ := applyPatch_ok ht happly
  obtain ⟨⟨_, hreasons₅⟩, -, hprepared⟩ := runPhase_ok hprepare
  obtain ⟨⟨_, hreasons₆⟩, -, hranChecks⟩ := runPhase_ok hchecks
  obtain ⟨hnil₇, hhead, hbranch, closing, hclosing, hclosingTells⟩ :=
    recheckSource_ok ht hbefore h hnil
  obtain ⟨⟨_, hreasons₇⟩, -, hrechecked⟩ := recheckClone_ok ht hrecheck
  -- nothing is against the preview at the end, so nothing was before
  have hnil₆ : s₆.reasons = [] := by
    rw [hreasons₇, List.append_eq_nil_iff] at hnil₇
    exact hnil₇.1
  have hnil₅ : s₅.reasons = [] := by
    rw [hreasons₆, List.append_eq_nil_iff] at hnil₆
    exact hnil₆.1
  have hnil₄ : s₄.reasons = [] := by
    rw [hreasons₅, List.append_eq_nil_iff] at hnil₅
    exact hnil₅.1
  obtain ⟨prepared, hruns₅, hprepared⟩ := hprepared hnil₅
  obtain ⟨checks, hruns₆, hchecks⟩ := hranChecks hnil₆
  obtain ⟨checked, hruns₇, hchecked⟩ := hrechecked hnil₇
  obtain ⟨happlied, hdeclared⟩ := hpatched.checked hnil₄
  obtain ⟨made, hmade, hquiet⟩ := ((makeCloneRoot_ok hroot).trans
    (Steady.prepareClone.grows hprepareClone)).runs
  have hopening : ∀ run ∈ s.runs ++ made, run.Tells [] := by
    intro run hrun
    exact (List.mem_append.mp hrun).elim (htells run) fun hrun => (hquiet run hrun).tells
  have hruns : t.runs = (s.runs ++ made) ++
      patch :: applied :: (prepared ++ checks ++ checked :: closing) := by
    rw [hclosing, hruns₇, hruns₆, hruns₅, hpatched.runs, hstill.runs, hmade]
    simp only [List.append_assoc, List.cons_append, List.nil_append]
  refine ⟨?_, hhead, hbranch⟩
  rw [hruns]
  refine passed_of_parts hopening hpatched.command hpatched.input ?_ happlied hprepared hchecks
    (hchecked hdeclared) hclosingTells
  rw [hpatched.started]
  exact hfound

variable {input : FileChangePreviewInput} {receipt : PreviewReceipt}

omit [Runtime] in
lemma blockedReceipt_status {isolation : PreviewIsolationAttestation} {reasons : List Str}
    (h : blockedReceipt changeSet input isolation reasons = .ok receipt) :
    receipt.status = .blocked := by
  rw [← (parse_eq_ok.mp h).2]

/-- A receipt of the end that says passed. -/
structure Finished (rule : AutoApprovalRule) (passed : Bool) (receipt : PreviewReceipt)
    (s t : PreviewState) : Prop where
  passed : passed = true
  reasons : s.reasons = []
  runs : t.runs = s.runs
  ruleId : receipt.ruleId = some rule.ruleId
  cleanupStatus : receipt.cleanupStatus = .passed

omit [Runtime] in
lemma cleanUp_ok {status : CleanupStatus} (h : cleanUp world s = (.ok status, t)) : Still s t := by
  unfold cleanUp at h
  obtain ⟨created, s₁, hread, h⟩ := Comp.exists_of_bind_ok h
  obtain ⟨-, rfl⟩ := Comp.eq_of_read_ok hread
  have hrefl : Still s s := ⟨rfl, rfl, rfl, ⟨[], (List.append_nil _).symm⟩⟩
  split at h
  case isFalse =>
    obtain ⟨-, rfl⟩ := Comp.eq_of_pure_ok h
    exact hrefl
  case isTrue =>
    split at h
    case isFalse =>
      obtain ⟨-, rfl⟩ := Comp.eq_of_pure_ok h
      exact hrefl
    case isTrue =>
      obtain ⟨_, s₂, hpush, h⟩ := Comp.exists_of_bind_ok h
      obtain ⟨-, rfl⟩ := Comp.eq_of_pure_ok h
      exact (pushReasons_ok hpush).1

omit [Runtime] in
lemma finish_ok {rule : AutoApprovalRule} {passed : Bool}
    (h : finish world changeSet input rule passed s = (.ok receipt, t))
    (hpassed : receipt.status = .previewPassed) : Finished rule passed receipt s t := by
  unfold finish at h
  obtain ⟨cleanupStatus, s₁, hclean, h⟩ := Comp.exists_of_bind_ok h
  obtain ⟨reasons, s₂, hreasons, h⟩ := Comp.exists_of_bind_ok h
  obtain ⟨rfl, rfl⟩ := Comp.eq_of_read_ok hreasons
  obtain ⟨checks, s₃, hchecks, h⟩ := Comp.exists_of_bind_ok h
  obtain ⟨-, rfl⟩ := Comp.eq_of_read_ok hchecks
  obtain ⟨hparse, rfl⟩ := Comp.eq_of_lift_ok h
  obtain rfl := (parse_eq_ok.mp hparse).2
  have hstill := cleanUp_ok hclean
  dsimp only at hpassed
  split at hpassed
  case isFalse => exact nomatch hpassed
  case isTrue hall =>
    rw [Bool.and_eq_true, Bool.and_eq_true, decide_eq_true_eq, decide_eq_true_eq] at hall
    exact ⟨hall.1.1, (hstill.grows (P := fun _ => True)).reasons_nil hall.2, hstill.runs, rfl,
      hall.1.2⟩

lemma previewRule_ok (ht : world.runner.Truthful) {rule : AutoApprovalRule}
    (h : previewRule host world changeSet input rule (initialState world) = (.ok receipt, t))
    (hpassed : receipt.status = .previewPassed) :
    ∃ before, FitSource changeSet before world.source ∧ Passed host changeSet rule t.runs ∧
      world.sourceAfter.head = world.source.head ∧
      world.sourceAfter.branch = world.source.branch ∧
      receipt.ruleId = some rule.ruleId ∧ receipt.cleanupStatus = .passed := by
  unfold previewRule at h
  split at h
  · split at h
    · obtain ⟨hblocked, -⟩ := Prod.mk.inj h
      rename_i hreceipt
      rw [← Except.ok.inj hblocked, blockedReceipt_status hreceipt] at hpassed
      exact nomatch hpassed
    · exact nomatch (finish_ok h hpassed).passed
  · rename_i passed s₁ hbody
    have hfinished := finish_ok h hpassed
    obtain rfl := hfinished.passed
    unfold previewBody at hbody
    obtain ⟨inspected, s₂, hinspect, hbody⟩ := Comp.exists_of_bind_ok hbody
    cases inspected with
    | none => exact nomatch (Comp.eq_of_pure_ok hbody).1
    | some before =>
      obtain ⟨_, s₃, hclone, hbody⟩ := Comp.exists_of_bind_ok hbody
      obtain ⟨reasons, s₄, hread, hbody⟩ := Comp.exists_of_bind_ok hbody
      obtain ⟨rfl, rfl⟩ := Comp.eq_of_read_ok hread
      obtain ⟨-, rfl⟩ := Comp.eq_of_pure_ok hbody
      obtain ⟨hfit, hgrows⟩ := inspectSource_ok ht hinspect
      obtain ⟨opening, hopening, htells⟩ := hgrows.runs
      have hall : ∀ run ∈ s₂.runs, run.Tells [] := by
        rw [hopening]
        exact htells
      obtain ⟨hran, hhead, hbranch⟩ := previewClone_ok ht hfit hall hclone hfinished.reasons
      rw [← hfinished.runs] at hran
      exact ⟨before, hfit, hran, hhead, hbranch, hfinished.ruleId, hfinished.cleanupStatus⟩
  · exact nomatch (finish_ok h hpassed).passed

omit [Runtime] in
lemma reasonIf_eq_nil {condition : Bool} {reason : Str} (h : reasonIf condition reason = []) :
    condition = false := by
  unfold reasonIf at h
  rw [ite_eq_right_iff] at h
  by_contra hne
  exact nomatch h (Bool.not_eq_false _ ▸ hne)

omit [Runtime] in
/-- Where nothing is against the isolation, the runner attests to it. -/
lemma isolationReasons_eq_nil {isolation : PreviewIsolationAttestation}
    (h : isolationReasons world isolation = []) : world.runnerAttestation = some isolation := by
  unfold isolationReasons at h
  simp only [List.append_eq_nil_iff, and_assoc] at h
  obtain ⟨hnetwork, hfilesystem, -, hnetwork', hfilesystem', hscope, henforcer⟩ := h
  have hnetwork := not_not.mp (of_decide_eq_false (reasonIf_eq_nil hnetwork))
  have hfilesystem := not_not.mp (of_decide_eq_false (reasonIf_eq_nil hfilesystem))
  have hnetwork' := not_not.mp (of_decide_eq_false (reasonIf_eq_nil hnetwork'))
  have hfilesystem' := not_not.mp (of_decide_eq_false (reasonIf_eq_nil hfilesystem'))
  have hscope := not_not.mp (of_decide_eq_false (reasonIf_eq_nil hscope))
  have henforcer := not_not.mp (of_decide_eq_false (reasonIf_eq_nil henforcer))
  obtain ⟨attestation, hattestation, hnetwork'⟩ := Option.map_eq_some_iff.mp hnetwork'
  simp only [hattestation, Option.map_some, Option.some.injEq] at hfilesystem' hscope henforcer
  rw [hattestation]
  cases attestation
  cases isolation
  simp_all only

/-- A preview that says passed has found, run and looked at what it says, as far as it reads. -/
lemma preview_ok (ht : world.runner.Truthful)
    (h : preview host world input = (.ok receipt, t)) (hpassed : receipt.status = .previewPassed) :
    world.runnerAttestation = some input.isolation ∧
      ∃ rule reasons before, evaluateAutoApprovalPolicy input.changeSet input.facts input.policy =
          .ok ⟨true, some rule, reasons⟩ ∧
        FitSource input.changeSet before world.source ∧ Passed host input.changeSet rule t.runs ∧
        world.sourceAfter.head = world.source.head ∧
        world.sourceAfter.branch = world.source.branch ∧
        receipt.ruleId = some rule.ruleId ∧ receipt.cleanupStatus = .passed := by
  have hblocked : ∀ {changeSet isolation reasons s}, (Comp.lift
      (blockedReceipt changeSet input isolation reasons) : PreviewCall PreviewReceipt) s ≠
        (.ok receipt, t) := by
    intro changeSet isolation reasons s h
    have hstatus := blockedReceipt_status (Comp.eq_of_lift_ok h).1
    rw [hpassed] at hstatus
    exact nomatch hstatus
  unfold preview previewParsed at h
  obtain ⟨changeSet, s₁, hlift, h⟩ := Comp.exists_of_bind_ok h
  obtain ⟨hparse, rfl⟩ := Comp.eq_of_lift_ok hlift
  obtain rfl := (parse_eq_ok.mp hparse).2
  split at h
  case isTrue => exact absurd h hblocked
  case isFalse =>
    obtain ⟨evaluation, s₂, hevaluate, h⟩ := Comp.exists_of_bind_ok h
    obtain ⟨hevaluation, rfl⟩ := Comp.eq_of_lift_ok hevaluate
    obtain ⟨eligible, found, reasons⟩ := evaluation
    dsimp only at h
    split at h
    · rename_i rule
      split at h
      case isTrue => exact absurd h hblocked
      case isFalse hisolated =>
        obtain ⟨before, hran⟩ := previewRule_ok ht h hpassed
        exact ⟨isolationReasons_eq_nil (not_not.mp hisolated), rule, reasons, before,
          hevaluation, hran⟩
    · exact absurd h hblocked

/-- A preview that says passed is truthful exactly when the renames in each status of the clone are
read well, and the source has nothing to report at the end or is asked for it. -/
theorem passedTruthful_iff {host : PreviewHost} {world : PreviewWorld}
    {input : FileChangePreviewInput} {receipt : PreviewReceipt} {s : PreviewState}
    (ht : world.runner.Truthful) (h : preview host world input = (.ok receipt, s))
    (hpassed : receipt.status = .previewPassed) :
    PassedTruthful host world input receipt s.runs ↔
      (∀ run ∈ s.runs, run.IsCloneStatus → RenamesReadWell run.started.entries) ∧
        (world.sourceAfter.entries = [] ∨
          ∃ run ∈ s.runs, run.IsSourceStatus ∧ run.started = world.sourceAfter) := by
  obtain ⟨hisolation, rule, reasons, before, hevaluate, hfit, hran, hhead, hbranch, hruleId,
    hcleanup⟩ := preview_ok ht h hpassed
  constructor
  · intro htruthful
    refine ⟨fun run hrun hstatus => ?_, .inl ?_⟩
    · exact (reportsExactly_iff (hran.checked run hrun hstatus)).mp
        (htruthful.status run hrun hstatus)
    · rw [htruthful.sourceAfter.2.2, hfit.entries]
  · rintro ⟨hrenames, hafter⟩
    have hentries : world.sourceAfter.entries = [] := by
      rcases hafter with hnil | ⟨run, hrun, hstatus, hstarted⟩
      · exact hnil
      · rw [← hstarted]
        exact hran.source run hrun hstatus
    exact {
      isolation := hisolation
      rule := ⟨rule, reasons, hevaluate, hruleId, hran.told⟩
      source := ⟨hfit.entries, hfit.unprotected, hfit.baseHead⟩
      sourceAfter := ⟨hhead, hbranch, hentries.trans hfit.entries.symm⟩
      status := fun run hrun hstatus =>
        (reportsExactly_iff (hran.checked run hrun hstatus)).mpr (hrenames run hrun hstatus)
      cleanup := hcleanup }

end

/-! ## A new file -/

section

attribute [local instance] asciiRuntime

/-- A runner that tells what git tells, where names have no white space around them. -/
def tellingRunner (work : Repository → PreviewProcessInput → Repository) : PreviewProcessRunner where
  run _ repository input :=
    (.ok
      { status := if trim repository.branch = repository.branch
          ∧ trim repository.head = repository.head then .passed else .failed
        exitCode := some 0
        stdout :=
          if input.argv = branchArgv then repository.branch
          else if input.argv = headArgv then repository.head
          else if input.argv = [js "rev-parse", js "--is-shallow-repository"] then "false\n"
          else if js "status" ∈ input.argv then encodeV1 repository.entries
          else []
        stdoutBytes := some []
        durationMs := 1 },
      work repository input)

lemma tellingRunner_truthful (work : Repository → PreviewProcessInput → Repository) :
    (tellingRunner work).Truthful := by
  have hnames : ∀ repository : Repository,
      (if trim repository.branch = repository.branch ∧ trim repository.head = repository.head
        then PreviewCheckStatus.passed else .failed) = .passed →
      trim repository.branch = repository.branch ∧ trim repository.head = repository.head := by
    intro repository hpassed
    by_contra hne
    rw [if_neg hne] at hpassed
    exact nomatch hpassed
  constructor
  all_goals
    intro n repository env result hresult hpassed
    obtain rfl := Except.ok.inj hresult
  · exact (hnames repository hpassed).1
  · exact (hnames repository hpassed).2
  · rfl
  · rfl

def plainHost : PreviewHost where
  platform := "linux"
  processEnv := fun _ => none
  tempRoot := "/tmp"
  cloneRoot := "/tmp/codex-preview-1"
  clonePath := "/tmp/codex-preview-1/clone"
  repoRoot := "/work"
  encodeUtf8 := fun text => text.map fun c => Fin.ofNat 256 c.val
  decodeUtf8 := fun bytes => some (bytes.map fun b => Fin.ofNat _ b.val)

/-- A directory with `src` in it, and with `src/a.ts` where it has this content. -/
def sourceDirectory (content : Option Str) : Directory where
  rootError := none
  lstat := fun path =>
    if path = js "src" then .found .directory 1 .inside
    else if path = js "src/a.ts" ∧ content.isSome then .found .file 1 .inside
    else .missing
  access := fun path => path = js "src/a.ts" && content.isSome
  readHash := fun path =>
    match content with
    | some text => if path = js "src/a.ts" then .ok (Sha256.hex text) else .error "ENOENT"
    | none => .error "ENOENT"

def sourceRepository (entries : List StatusEntry) (content : Option Str) : Repository where
  branch := "feature/x"
  head := "c0ffee"
  entries
  files := sourceDirectory content

def newFileEntry : StatusEntry := .untracked ⟨"src/a.ts", by decide, by decide⟩

/-- The patch of the new file is applied. -/
def applied (repository : Repository) (input : PreviewProcessInput) : Repository :=
  if input.argv.head? = some (js "apply") then sourceRepository [newFileEntry] (some "1\n")
  else repository

def newFileIsolation : PreviewIsolationAttestation where
  networkIsolation := .enforcedNone
  filesystemIsolation := .cloneOnlyEnforced
  scope := .testOnly
  enforcerId := "enforcer"

def newFileWorld (work : Repository → PreviewProcessInput → Repository) : PreviewWorld where
  runner := tellingRunner work
  runnerAttestation := some newFileIsolation
  source := sourceRepository [] none
  sourceAfter := sourceRepository [] none
  clone := sourceRepository [] none
  mkdtempError := none
  rmFails := false

def newFileInput : FileChangePreviewInput where
  changeSet := newFileChangeSet
  facts := newFileFacts "feature/x"
  policy := ⟨[sourceRule]⟩
  isolation := newFileIsolation
  now := "2026-01-02T03:04:05Z"

theorem newFile_passedTruthful :
    ∃ receipt s, preview plainHost (newFileWorld applied) newFileInput = (.ok receipt, s) ∧
      receipt.status = .previewPassed ∧
      PassedTruthful plainHost (newFileWorld applied) newFileInput receipt s.runs := by
  have heval : (preview plainHost (newFileWorld applied) newFileInput).1.toOption.map
        (·.status) = some .previewPassed ∧
      ∀ run ∈ (preview plainHost (newFileWorld applied) newFileInput).2.runs,
        originals run.started.entries = [] := by
    decide +kernel
  cases hpreview : preview plainHost (newFileWorld applied) newFileInput with
  | mk result s =>
    rw [hpreview] at heval
    obtain ⟨hstatus, hruns⟩ := heval
    cases result with
    | error error => exact nomatch hstatus
    | ok receipt =>
      have hpassed := Option.some.inj hstatus
      refine ⟨receipt, s, rfl, hpassed, (passedTruthful_iff (tellingRunner_truthful applied) hpreview
        hpassed).mpr ⟨fun run hrun _ original horiginal => ?_, .inl rfl⟩⟩
      rw [hruns run hrun] at horiginal
      exact nomatch horiginal

/-- The file `my src/a.ts` is renamed to the new one, and the rename is staged. -/
def stolenEntry : StatusEntry :=
  stagedRename (plainField "d00491f" (by decide) (by decide) (by decide))
    ⟨"src/a.ts", by decide, by decide⟩ ⟨"my src/a.ts", by decide, by decide⟩

/-- The tests of the rule stage the rename. -/
def staged (repository : Repository) (input : PreviewProcessInput) : Repository :=
  if input.argv = [js "test"] then sourceRepository [stolenEntry] (some "1\n")
  else applied repository input

/-- A preview passes although the commands of its rule have removed a file that is no target. -/
theorem staged_rename_passes :
    (newFileWorld staged).runner.Truthful ∧
      ∃ receipt s, preview plainHost (newFileWorld staged) newFileInput = (.ok receipt, s) ∧
        receipt.status = .previewPassed ∧
        ¬PassedTruthful plainHost (newFileWorld staged) newFileInput receipt s.runs := by
  have heval : (preview plainHost (newFileWorld staged) newFileInput).1.toOption.map
        (·.status) = some .previewPassed ∧
      ∃ run ∈ (preview plainHost (newFileWorld staged) newFileInput).2.runs,
        (run.command = none ∧ run.input.cwd = .clone ∧ run.input.argv = cloneStatusArgv) ∧
          js "my src/a.ts" ∈ allPaths run.started.entries := by
    decide +kernel
  refine ⟨tellingRunner_truthful staged, ?_⟩
  cases hpreview : preview plainHost (newFileWorld staged) newFileInput with
  | mk result s =>
    rw [hpreview] at heval
    obtain ⟨hstatus, run, hrun, hclone, hpath⟩ := heval
    cases result with
    | error error => exact nomatch hstatus
    | ok receipt =>
      refine ⟨receipt, s, rfl, Option.some.inj hstatus, fun htruthful => ?_⟩
      have htarget := (htruthful.status run hrun hclone (js "my src/a.ts")).mp hpath
      revert htarget
      decide

end

end CodexRouter.Preview
