import CodexRouter.Guard.Inspect
import CodexRouter.Shell.Words

/-!
# The rollback command

The plan for undoing a workspace write records one command line, which an operator runs in a
shell. Its tokens are quoted for that shell.
-/

open Js CodexRouter.Kernel CodexRouter.Provider

namespace CodexRouter.Guard

/-- `/[A-Za-z0-9_./:@-]/`. -/
def isCommandUnit (c : CodeUnit) : Bool :=
  (0x41 ≤ c.val && c.val ≤ 0x5a) || (0x61 ≤ c.val && c.val ≤ 0x7a) ||
    (0x30 ≤ c.val && c.val ≤ 0x39) ||
    c ∈ [cu '_', cu '.', cu '/', cu ':', cu '@', cu '-']

/-- `value.replace(/c/g, replacement)`. -/
def replaceUnit (c : CodeUnit) (replacement value : Str) : Str :=
  value.flatMap fun d => if d = c then replacement else [d]

def quoteCommandToken (token : Str) : Str :=
  if token ≠ [] && token.all isCommandUnit then token
  else
    js "\"" ++ replaceUnit (cu '"') (js "\\\"") (replaceUnit (cu '\\') (js "\\\\") token) ++ js "\""

def createGitRestoreRollbackCommand (beforeCommit : Str) (affectedFiles : List Str) : Str :=
  join (cu ' ') ((js "git" :: js "restore" :: js "--source" :: beforeCommit :: js "--" ::
    affectedFiles).map quoteCommandToken)

/-- The words that restore the files from the commit. -/
def restoreWords (beforeCommit : Str) (affectedFiles : List Str) : List Str :=
  js "git" :: js "restore" :: js "--source" :: beforeCommit :: js "--" :: affectedFiles

def normalizeOptionalString (value : Option Str) : Option Str :=
  value.bind fun value => if (trim value).length = 0 then none else some (trim value)

/-- `affectedFiles` of `createWorkspaceWriteRollbackPlanEvidence`. -/
def affectedFiles (guardResult : WorkspaceWritePatchGuardResult) : List Str :=
  guardResult.summary.changedFiles.map (·.path)

/-- `command` of `createWorkspaceWriteRollbackPlanEvidence`. -/
def rollbackPlanCommand (beforeCommit : Option Str)
    (guardResult : WorkspaceWritePatchGuardResult) : Option Str :=
  match normalizeOptionalString beforeCommit with
  | none => none
  | some commit =>
    if (affectedFiles guardResult).length = 0 then none
    else some (createGitRestoreRollbackCommand commit (affectedFiles guardResult))

/-! ## Reading a token back -/

/-- A unit that is left unquoted has no meaning for the shell. -/
lemma ordinary_of_isCommandUnit {c : CodeUnit} (h : isCommandUnit c = true) :
    Shell.isOrdinary c = true ∧ c ≠ cu '`' ∧ c ≠ cu '$' := by
  have hactive : [cu ' ', cu '\t', cu '$', cu '`', cu '|', cu '&', cu ';', cu '<', cu '>',
      cu '(', cu ')', cu '*', cu '?', cu '[', Shell.newline, cu '#', cu '~', cu '\\', cu '\'',
      cu '"'].all (fun d => !isCommandUnit d) = true := by decide
  have hne : ∀ {d : CodeUnit}, (!isCommandUnit d) = true → c ≠ d := by
    intro d hd hcd
    rw [← hcd, h] at hd
    exact Bool.noConfusion hd
  simp only [List.all_cons, Bool.and_eq_true] at hactive
  unfold Shell.isOrdinary Shell.isBlank Shell.isActive Shell.isActiveFirst
  simp [hne, hactive]

lemma not_expands_of_isCommandUnit {token : Str} (h : ∀ c ∈ token, isCommandUnit c = true) :
    Shell.expands token = false := by
  induction token with
  | nil => rfl
  | cons c token ih =>
    obtain ⟨hc, htoken⟩ := List.forall_mem_cons.mp h
    obtain ⟨-, hquote, hdollar⟩ := ordinary_of_isCommandUnit hc
    simp [Shell.expands, Shell.isExpansion_eq_false hquote hdollar, ih htoken]

lemma replaceUnit_twice (token : Str) :
    replaceUnit (cu '"') (js "\\\"") (replaceUnit (cu '\\') (js "\\\\") token) =
      Shell.escape token := by
  unfold replaceUnit Shell.escape
  rw [List.flatMap_assoc]
  apply List.flatMap_congr
  intro c _
  unfold Shell.escapeUnit
  split_ifs with hslash hquote
  · rfl
  · rw [hquote]; rfl
  · simp [hquote]

/-- A quoted token is one word, unless the token expands. -/
lemma wordsFrom_quote (token rest : Str) :
    Shell.wordsFrom (.outside none) (quoteCommandToken token ++ rest) =
      if Shell.expands token then none else Shell.wordsFrom (.outside (some token)) rest := by
  unfold quoteCommandToken
  split_ifs with hplain hexpands hexpands
  · -- An unquoted token has neither a backquote nor a dollar sign.
    simp only [ne_eq, Bool.and_eq_true, List.all_eq_true] at hplain
    rw [not_expands_of_isCommandUnit hplain.2] at hexpands
    exact Bool.noConfusion hexpands
  · simp only [ne_eq, Bool.and_eq_true, List.all_eq_true, decide_eq_true_eq] at hplain
    obtain ⟨c, token, rfl⟩ := List.exists_cons_of_ne_nil hplain.1
    obtain ⟨hc, htoken⟩ := List.forall_mem_cons.mp hplain.2
    rw [List.cons_append, Shell.wordsFrom_ordinary (ordinary_of_isCommandUnit hc).1,
      Shell.wordsFrom_ordinaries fun d hd => (ordinary_of_isCommandUnit (htoken d hd)).1]
    rfl
  all_goals
    rw [replaceUnit_twice]
    show Shell.wordsFrom (.outside none)
      (cu '"' :: (Shell.escape token ++ [cu '"'] ++ rest)) = _
    rw [Shell.wordsFrom_open, List.append_assoc]
    show Shell.wordsFrom (.double []) (Shell.escape token ++ cu '"' :: rest) = _
    rw [Shell.wordsFrom_escape]
    simp [hexpands]

lemma quoteCommandToken_ne_nil (token : Str) : quoteCommandToken token ≠ [] := by
  unfold quoteCommandToken
  split_ifs with hplain
  · simp only [ne_eq, Bool.and_eq_true, decide_eq_true_eq] at hplain
    exact hplain.1
  · exact List.cons_ne_nil _ _

/-- Tokens that are quoted and joined by blanks are the words, unless one of them expands. -/
lemma words_quoted {tokens : List Str} (hne : tokens ≠ []) :
    Shell.words (join (cu ' ') (tokens.map quoteCommandToken)) =
      if tokens.any Shell.expands then none else some tokens := by
  unfold Shell.words
  induction tokens with
  | nil => exact absurd rfl hne
  | cons token tokens ih =>
    by_cases htokens : tokens = []
    · have hread := wordsFrom_quote token []
      rw [List.append_nil] at hread
      subst htokens
      rw [List.map_singleton, join_singleton, hread]
      simp [Shell.wordsFrom]
    · rw [List.map_cons, join_cons _ _ (by simpa using htokens), wordsFrom_quote,
        Shell.wordsFrom_blank, ih htokens]
      cases hhead : Shell.expands token <;> cases htail : tokens.any Shell.expands <;>
        simp [hhead, htail]

/-! ## The command -/

/-- The command is read as the restore it promises when the commit and the files have no
expansion; with one, the shell reads something else. -/
theorem rollback_command_restores_iff (beforeCommit : Str) (affectedFiles : List Str) :
    Shell.words (createGitRestoreRollbackCommand beforeCommit affectedFiles) =
        some (restoreWords beforeCommit affectedFiles) ↔
      ∀ token ∈ beforeCommit :: affectedFiles, Shell.expands token = false := by
  unfold createGitRestoreRollbackCommand
  rw [words_quoted (List.cons_ne_nil _ _)]
  have hgit : Shell.expands "git" = false := by decide
  have hrestore : Shell.expands "restore" = false := by decide
  have hsource : Shell.expands "--source" = false := by decide
  have hdashes : Shell.expands "--" = false := by decide
  simp only [List.any_cons, hgit, hrestore, hsource, hdashes, Bool.false_or,
    List.forall_mem_cons]
  constructor
  · intro h
    split_ifs at h with hexpands
    simpa using hexpands
  · intro h
    rw [if_neg]
    · rfl
    · simpa using h

/-- The guard lets a file through whose name is a variable to the shell. -/
theorem rollback_command_expands :
    isSafeWorkspaceRelativeFilePath "$HOME" = true ∧
    Shell.words (createGitRestoreRollbackCommand "HEAD" ["$HOME"]) ≠
      some (restoreWords "HEAD" ["$HOME"]) := by
  decide +kernel

section

variable {redactText : Str → Str} [Runtime] [Collation]

lemma affectedFiles_safe {permit : Json} {unifiedDiff : Str}
    {guardResult : WorkspaceWritePatchGuardResult}
    (h : evaluateWorkspaceWritePatchGuard redactText permit unifiedDiff = .ok guardResult)
    (hok : guardResult.ok = true) :
    ∀ file ∈ affectedFiles guardResult, isSafeWorkspaceRelativeFilePath file = true := by
  obtain ⟨hsome, permit, hpermit, hadmits⟩ := (passes_iff redactText).mp ⟨guardResult, h, hok⟩
  unfold evaluateWorkspaceWritePatchGuard at h
  obtain ⟨_, -, h⟩ := bind_eq_ok.mp h
  obtain ⟨inspection, hinspection, h⟩ := bind_eq_ok.mp h
  obtain ⟨-, rfl⟩ := parse_eq_ok.mp h
  obtain ⟨hinspects, -⟩ := inspect_spec redactText hinspection
  intro file hfile
  exact hadmits.safe file ((hinspects.mem file).mp hfile)

/-- The command that is recorded for a diff that passed names safe files only, and is the restore
that it promises when neither they nor the commit has an expansion. -/
theorem recorded_command_restores_iff {permit : Json} {unifiedDiff : Str}
    {guardResult : WorkspaceWritePatchGuardResult} {beforeCommit : Option Str} {command : Str}
    (h : evaluateWorkspaceWritePatchGuard redactText permit unifiedDiff = .ok guardResult)
    (hok : guardResult.ok = true)
    (hcommand : rollbackPlanCommand beforeCommit guardResult = some command) :
    ∃ commit, normalizeOptionalString beforeCommit = some commit ∧
      (∀ file ∈ affectedFiles guardResult, isSafeWorkspaceRelativeFilePath file = true) ∧
      (Shell.words command = some (restoreWords commit (affectedFiles guardResult)) ↔
        ∀ token ∈ commit :: affectedFiles guardResult, Shell.expands token = false) := by
  unfold rollbackPlanCommand at hcommand
  cases hcommit : normalizeOptionalString beforeCommit with
  | none =>
    rw [hcommit] at hcommand
    exact nomatch hcommand
  | some commit =>
    rw [hcommit] at hcommand
    simp only [Option.ite_none_left_eq_some] at hcommand
    obtain ⟨-, hcommand⟩ := hcommand
    rw [← Option.some.inj hcommand]
    exact ⟨commit, rfl, affectedFiles_safe h hok, rollback_command_restores_iff _ _⟩

end

end CodexRouter.Guard
