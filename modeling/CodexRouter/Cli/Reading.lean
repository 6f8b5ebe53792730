import CodexRouter.Cli.ExecPlan
import CodexRouter.Js.Ascii

/-!
# How the words of a plan are read

Read from left to right, a value flag takes the next word whatever it looks like. The scanners of a
validation that take each word by itself find flags where a word is a value.
-/

open Js

namespace CodexRouter.Cli

/-! ## Reading -/

inductive Word where
  | subcommand
  | boolean (flag : Str)
  | setting (setting : Setting) (value : Str)
  | positional (word : Str)
  | unknown (flag : Str)
  deriving DecidableEq

/-- What the word sets, attached or with the next word. -/
def settingAt (arg : Str) (next : Option Str) : Option (Setting × ArgValue) :=
  Setting.all.findSome? fun setting =>
    (getCodexCliArgValueAt arg next setting.flags).map (setting, ·)

/-- `skip` says that the first word was taken as a value. -/
def readFrom : (execSeen skip : Bool) → List Str → List Word
  | _, _, [] => []
  | execSeen, true, _ :: args => readFrom execSeen false args
  | execSeen, false, arg :: args =>
    if arg = js "exec" then
      (if execSeen then .positional arg else .subcommand) :: readFrom true false args
    else if arg ∈ booleanFlags then .boolean arg :: readFrom execSeen false args
    else
      match settingAt arg args.head? with
      | some (setting, parsed) =>
        .setting setting parsed.value :: readFrom execSeen parsed.consumedNext args
      | none =>
        (if startsWith arg "-" then .unknown arg else .positional arg)
          :: readFrom execSeen false args

def readArgs (args : List Str) : List Word := readFrom false false args

def Word.valueOf (setting : Setting) : Word → Option Str
  | .setting other value => if other = setting then some value else none
  | _ => none

/-- The values that the words give a setting. -/
def settings (setting : Setting) (words : List Word) : List Str :=
  words.filterMap (Word.valueOf setting)

section
variable [Runtime]

/-- What the words mean is what the plan says. -/
structure MeansWhatItSays (plan : CodexCliExecPlan) : Prop where
  sandbox : settings .sandbox (readArgs plan.args) = [plan.sandbox.text]
  approval : settings .approval (readArgs plan.args) = [plan.approvalPolicy.text] ∨
    (settings .approval (readArgs plan.args) = [] ∧ plan.sandbox = .readOnly ∧
      plan.approvalPolicy = .never)
  workdir : settings .workdir (readArgs plan.args) = [] ∨
    ∃ workdir, plan.workdir = some workdir ∧ settings .workdir (readArgs plan.args) = [workdir]
  model : ∀ model ∈ settings .model (readArgs plan.args), plan.checkedModel = some model ∧
    trim model ≠ []
  config : ∀ override ∈ settings .config (readArgs plan.args), governedKey override = none
  positional : ∀ word, Word.positional word ∉ readArgs plan.args
  unknown : ∀ flag, Word.unknown flag ∉ readArgs plan.args

/-- The scanners have not been misled: `exec` stands for itself once, what they have found for the
sandbox and for the approval policy is no value of another flag, the model is not set by `-m` or
beside the model of the plan, and an override that they have not found is not governed. -/
structure ReadAsScanned (plan : CodexCliExecPlan) : Prop where
  exec : Word.positional "exec" ∉ readArgs plan.args
  sandbox : settings .sandbox (readArgs plan.args) ≠ []
  approval : (plan.sandbox = .readOnly ∧ plan.approvalPolicy = .never) ∨
    settings .approval (readArgs plan.args) ≠ []
  model : ∀ model ∈ settings .model (readArgs plan.args), trim model ≠ [] ∧
    (plan.model = some model ∨
      (plan.model = none ∧ getCodexCliArgValue "-m" plan.args = none))
  config : ∀ override ∈ settings .config (readArgs plan.args),
    override ∉ extractCodexCliConfigOverrides plan.args → governedKey override = none

end

/-! ## Flags -/

/-- No flag of a list starts another. -/
def PrefixFree (flags : List Str) : Prop := ∀ f ∈ flags, ∀ g ∈ flags, f <+: g → f = g

instance (flags : List Str) : Decidable (PrefixFree flags) :=
  inferInstanceAs (Decidable (∀ f ∈ flags, ∀ g ∈ flags, f <+: g → f = g))

lemma prefixFree_flags (setting : Setting) : PrefixFree setting.flags := by
  cases setting <;> decide

lemma prefix_of_matchesFlag {arg flag : Str} (h : matchesFlag arg flag = true) : flag <+: arg := by
  unfold matchesFlag at h
  simp only [Bool.or_eq_true, Bool.and_eq_true, decide_eq_true_eq, startsWith_iff] at h
  rcases h with (rfl | ⟨-, hlong⟩) | ⟨⟨⟨-, -⟩, hshort⟩, -⟩
  · exact List.prefix_rfl
  · exact (List.prefix_append _ _).trans hlong
  · exact hshort

section

variable {arg : Str} {next : Option Str} {flag : Str} {flags : List Str}

lemma getArgValueAt_cons_of_not (h : matchesFlag arg flag = false) :
    getCodexCliArgValueAt arg next (flag :: flags) = getCodexCliArgValueAt arg next flags := by
  unfold matchesFlag at h
  simp only [Bool.or_eq_false_iff, decide_eq_false_iff_not] at h
  rw [getCodexCliArgValueAt, if_neg h.1.1, if_neg (by rw [h.1.2]; decide),
    if_neg (by rw [h.2]; decide)]

lemma getArgValueAt_cons_of_matches (h : matchesFlag arg flag = true) :
    getCodexCliArgValueAt arg next (flag :: flags) = getCodexCliArgValueAt arg next [flag] := by
  unfold matchesFlag at h
  simp only [Bool.or_eq_true, decide_eq_true_eq] at h
  rw [getCodexCliArgValueAt, getCodexCliArgValueAt]
  by_cases hsame : arg = flag
  · rw [if_pos hsame, if_pos hsame]
  · rw [if_neg hsame, if_neg hsame]
    split_ifs with hlong hshort
    · rfl
    · rfl
    · rcases h with (h | h) | h
      · exact absurd h hsame
      · exact absurd h hlong
      · exact absurd h hshort

/-- Only a word that matches one of the flags has a value for them. -/
lemma getArgValueAt_of_not_matches (h : ∀ flag ∈ flags, matchesFlag arg flag = false) :
    getCodexCliArgValueAt arg next flags = none := by
  induction flags with
  | nil => rfl
  | cons flag flags ih =>
    rw [List.forall_mem_cons] at h
    rw [getArgValueAt_cons_of_not h.1, ih h.2]

/-- A word matches one flag of a list at most. -/
lemma not_matches_other (hfree : PrefixFree flags) (hflag : flag ∈ flags)
    (h : matchesFlag arg flag = true) {other : Str} (hother : other ∈ flags) (hne : other ≠ flag) :
    matchesFlag arg other = false := by
  rw [← Bool.not_eq_true]
  intro hmatches
  rcases List.prefix_or_prefix_of_prefix (prefix_of_matchesFlag hmatches)
      (prefix_of_matchesFlag h) with hleading | hleading
  · exact hne (hfree other hother flag hflag hleading)
  · exact hne (hfree flag hflag other hother hleading).symm

/-- A word that matches one of the flags has the value that it has for that flag alone. -/
lemma getArgValueAt_of_matches (hfree : PrefixFree flags) (hflag : flag ∈ flags)
    (h : matchesFlag arg flag = true) :
    getCodexCliArgValueAt arg next flags = getCodexCliArgValueAt arg next [flag] := by
  induction flags with
  | nil => exact nomatch hflag
  | cons first flags ih =>
    by_cases hsame : flag = first
    · rw [hsame] at h ⊢
      exact getArgValueAt_cons_of_matches h
    · have hno := not_matches_other hfree hflag h List.mem_cons_self (Ne.symm hsame)
      rw [getArgValueAt_cons_of_not hno]
      exact ih (fun f hf g hg => hfree f (List.mem_cons_of_mem _ hf) g (List.mem_cons_of_mem _ hg))
        ((List.mem_cons.mp hflag).resolve_left hsame)

end

/-! ## Settings that are read -/

section

variable {setting : Setting} {value : Str}

lemma getArgValueAt_of_settingAt {arg : Str} {next : Option Str} {parsed : ArgValue}
    (h : settingAt arg next = some (setting, parsed)) :
    getCodexCliArgValueAt arg next setting.flags = some parsed := by
  obtain ⟨other, -, hother⟩ := List.exists_of_findSome?_eq_some h
  obtain ⟨found, hfound, hpair⟩ := Option.map_eq_some_iff.mp hother
  obtain ⟨rfl, rfl⟩ := Prod.mk.inj hpair
  exact hfound

/-- What one word adds to the values of a setting. -/
lemma settings_readFrom_cons (setting : Setting) (execSeen skip : Bool) (arg : Str)
    (args : List Str) :
    ∃ execSeen' skip', settings setting (readFrom execSeen skip (arg :: args)) =
        settings setting (readFrom execSeen' skip' args) ∨
      ∃ parsed, getCodexCliArgValueAt arg args.head? setting.flags = some parsed ∧
        settings setting (readFrom execSeen skip (arg :: args)) =
          parsed.value :: settings setting (readFrom execSeen' skip' args) := by
  cases skip with
  | true => exact ⟨execSeen, false, .inl rfl⟩
  | false =>
    rw [readFrom]
    by_cases hexec : arg = js "exec"
    · rw [if_pos hexec]
      refine ⟨true, false, .inl ?_⟩
      cases execSeen <;> rfl
    rw [if_neg hexec]
    by_cases hboolean : arg ∈ booleanFlags
    · rw [if_pos hboolean]
      exact ⟨execSeen, false, .inl rfl⟩
    rw [if_neg hboolean]
    cases hread : settingAt arg args.head? with
    | none =>
      refine ⟨execSeen, false, .inl ?_⟩
      dsimp only
      split <;> rfl
    | some read =>
      obtain ⟨other, parsed⟩ := read
      refine ⟨execSeen, parsed.consumedNext, ?_⟩
      by_cases hsame : other = setting
      · rw [hsame] at hread ⊢
        refine .inr ⟨parsed, getArgValueAt_of_settingAt hread, ?_⟩
        exact List.filterMap_cons_some (if_pos rfl)
      · refine .inl ?_
        exact List.filterMap_cons_none (if_neg hsame)

/-- A word that has a value for the flags of a setting matches one of them. -/
lemma matches_of_getArgValueAt {arg : Str} {next : Option Str} {flags : List Str}
    {parsed : ArgValue} (h : getCodexCliArgValueAt arg next flags = some parsed) :
    ∃ flag ∈ flags, matchesFlag arg flag = true := by
  by_contra hno
  simp only [not_exists, not_and, Bool.not_eq_true] at hno
  rw [getArgValueAt_of_not_matches hno] at h
  exact nomatch h

lemma securityMatches_cons (setting : Setting) (arg : Str) (args : List Str) :
    securityMatches setting (arg :: args) =
      (matchCodexCliSecurityArg arg setting.flags).toList ++ securityMatches setting args := by
  unfold securityMatches
  cases h : matchCodexCliSecurityArg arg setting.flags with
  | none => exact List.filterMap_cons_none h
  | some flag => exact List.filterMap_cons_some h

/-- The number of words that match a security group bounds what is read of it. -/
lemma length_settings_le (setting : Setting) (execSeen skip : Bool) (args : List Str) :
    (settings setting (readFrom execSeen skip args)).length ≤
      (securityMatches setting args).length := by
  induction args generalizing execSeen skip with
  | nil => cases skip <;> exact Nat.zero_le _
  | cons arg args ih =>
    rw [securityMatches_cons, List.length_append]
    obtain ⟨execSeen', skip', hread | ⟨parsed, hparsed, hread⟩⟩ :=
      settings_readFrom_cons setting execSeen skip arg args
    · rw [hread]
      have := ih execSeen' skip'
      omega
    · have hmatch : (matchCodexCliSecurityArg arg setting.flags).isSome := by
        unfold matchCodexCliSecurityArg
        rw [List.find?_isSome]
        exact matches_of_getArgValueAt hparsed
      obtain ⟨flag, hflag⟩ := Option.isSome_iff_exists.mp hmatch
      rw [hread, hflag, List.length_cons, Option.toList_some, List.length_singleton]
      have := ih execSeen' skip'
      omega

/-- A setting that is read has its flag somewhere. -/
lemma exists_of_mem_settings {args : List Str} {execSeen skip : Bool}
    (h : value ∈ settings setting (readFrom execSeen skip args)) :
    ∃ above arg below parsed, args = above ++ arg :: below ∧
      getCodexCliArgValueAt arg below.head? setting.flags = some parsed ∧
      parsed.value = value := by
  induction args generalizing execSeen skip with
  | nil => cases skip <;> exact nomatch h
  | cons arg args ih =>
    have hlater : ∀ {execSeen' skip'},
        value ∈ settings setting (readFrom execSeen' skip' args) →
        ∃ above other below parsed, arg :: args = above ++ other :: below ∧
          getCodexCliArgValueAt other below.head? setting.flags = some parsed ∧
          parsed.value = value := by
      intro execSeen' skip' hrest
      obtain ⟨above, other, below, parsed, rfl, hparsed, hvalue⟩ := ih hrest
      exact ⟨arg :: above, other, below, parsed, rfl, hparsed, hvalue⟩
    obtain ⟨execSeen', skip', hread | ⟨parsed, hparsed, hread⟩⟩ :=
      settings_readFrom_cons setting execSeen skip arg args
    · rw [hread] at h
      exact hlater h
    · rw [hread, List.mem_cons] at h
      rcases h with rfl | h
      · exact ⟨[], arg, args, parsed, rfl, hparsed, rfl⟩
      · exact hlater h

/-- A scan for a flag passes over the words that do not match it. -/
lemma getArgValue_append {above : List Str} {flag : Str}
    (h : ∀ arg ∈ above, matchesFlag arg flag = false) (below : List Str) :
    getCodexCliArgValue flag (above ++ below) = getCodexCliArgValue flag below := by
  induction above with
  | nil => rfl
  | cons arg above ih =>
    rw [List.forall_mem_cons] at h
    rw [List.cons_append, getCodexCliArgValue,
      getArgValueAt_of_not_matches (List.forall_mem_singleton.mpr h.1)]
    exact ih h.2

lemma getArgValue_of_not_matches {args : List Str} {flag : Str}
    (h : ∀ arg ∈ args, matchesFlag arg flag = false) : getCodexCliArgValue flag args = none := by
  have hskip := getArgValue_append h []
  rw [List.append_nil] at hskip
  exact hskip

lemma not_matches_of_nil {args : List Str} (h : securityMatches setting args = []) :
    ∀ arg ∈ args, ∀ flag ∈ setting.flags, matchesFlag arg flag = false := by
  intro arg harg flag hflag
  have hnone := List.filterMap_eq_nil_iff.mp h arg harg
  unfold matchCodexCliSecurityArg at hnone
  simpa using List.find?_eq_none.mp hnone flag hflag

/-- Of a group that one word matches, a value that is read is the one that a scan for the flag of
that word finds; a scan for another flag of the group finds nothing. -/
lemma scanned_of_mem_settings {args : List Str}
    (hone : (securityMatches setting args).length ≤ 1)
    (h : value ∈ settings setting (readArgs args)) :
    ∃ flag ∈ setting.flags, getCodexCliArgValue flag args = some value ∧
      ∀ other ∈ setting.flags, other ≠ flag → getCodexCliArgValue other args = none := by
  obtain ⟨above, arg, below, parsed, rfl, hparsed, rfl⟩ := exists_of_mem_settings h
  obtain ⟨flag, hflag, hmatches⟩ := matches_of_getArgValueAt hparsed
  -- no other word matches a flag of the group
  have hothers : (∀ other ∈ above, ∀ g ∈ setting.flags, matchesFlag other g = false) ∧
      ∀ other ∈ below, ∀ g ∈ setting.flags, matchesFlag other g = false := by
    have hself : (matchCodexCliSecurityArg arg setting.flags).isSome := by
      unfold matchCodexCliSecurityArg
      rw [List.find?_isSome]
      exact ⟨flag, hflag, hmatches⟩
    obtain ⟨found, hfound⟩ := Option.isSome_iff_exists.mp hself
    have hsplit : securityMatches setting (above ++ arg :: below) =
        securityMatches setting above ++ found :: securityMatches setting below := by
      have hcons := securityMatches_cons setting arg below
      rw [hfound] at hcons
      unfold securityMatches at *
      rw [List.filterMap_append, hcons]
      rfl
    rw [hsplit, List.length_append, List.length_cons] at hone
    exact ⟨not_matches_of_nil (List.length_eq_zero_iff.mp (by omega)),
      not_matches_of_nil (List.length_eq_zero_iff.mp (by omega))⟩
  refine ⟨flag, hflag, ?_, ?_⟩
  · rw [getArgValue_append fun other hother => hothers.1 other hother flag hflag,
      getCodexCliArgValue, ← getArgValueAt_of_matches (prefixFree_flags setting) hflag hmatches,
      hparsed]
  · intro other hother hne
    have hno := not_matches_other (prefixFree_flags setting) hflag hmatches hother hne
    apply getArgValue_of_not_matches
    intro word hword
    rcases List.mem_append.mp hword with hword | hword
    · exact hothers.1 word hword other hother
    · rcases List.mem_cons.mp hword with rfl | hword
      · exact hno
      · exact hothers.2 word hword other hother

/-- Read words are as many as the words of a group, so there is one value at most. -/
lemma settings_le_one {args : List Str} (hone : (securityMatches setting args).length ≤ 1) :
    settings setting (readArgs args) = [] ∨ ∃ value, settings setting (readArgs args) = [value] := by
  have hle := (length_settings_le setting false false args).trans hone
  cases hread : settings setting (readArgs args) with
  | nil => exact .inl rfl
  | cons value values =>
    have hread' : settings setting (readFrom false false args) = value :: values := hread
    rw [hread', List.length_cons] at hle
    have hnil : values = [] := List.length_eq_zero_iff.mp (by omega)
    exact .inr ⟨value, by rw [hnil]⟩

end

/-! ## The allowlist -/

lemma PrefixFree.sublist {flags flags' : List Str} (h : PrefixFree flags)
    (hsub : flags' ⊆ flags) : PrefixFree flags' :=
  fun f hf g hg => h f (hsub hf) g (hsub hg)

lemma getArgValueAt_append_of_not {arg : Str} {next : Option Str} {flags : List Str}
    (h : ∀ flag ∈ flags, matchesFlag arg flag = false) (flags' : List Str) :
    getCodexCliArgValueAt arg next (flags ++ flags') = getCodexCliArgValueAt arg next flags' := by
  induction flags with
  | nil => rfl
  | cons flag flags ih =>
    rw [List.forall_mem_cons] at h
    rw [List.cons_append, getArgValueAt_cons_of_not h.1, ih h.2]

/-- The value for all flags together is the value for the flags of one setting. -/
lemma getArgValueAt_flatMap {arg : Str} {next : Option Str} {all : List Setting}
    (hfree : PrefixFree (all.flatMap Setting.flags)) (hnodup : (all.flatMap Setting.flags).Nodup) :
    getCodexCliArgValueAt arg next (all.flatMap Setting.flags) =
      (all.findSome? fun setting =>
        (getCodexCliArgValueAt arg next setting.flags).map (setting, ·)).map Prod.snd := by
  induction all with
  | nil => rfl
  | cons setting all ih =>
    rw [List.flatMap_cons] at hfree hnodup ⊢
    obtain ⟨-, hnodup', hdisjoint⟩ := List.nodup_append'.mp hnodup
    have hrest := ih (hfree.sublist (List.subset_append_right _ _)) hnodup'
    rw [List.findSome?_cons]
    by_cases hmatch : ∃ flag ∈ setting.flags, matchesFlag arg flag = true
    · obtain ⟨flag, hflag, hmatches⟩ := hmatch
      have hflag' := List.mem_append_left (all.flatMap Setting.flags) hflag
      rw [getArgValueAt_of_matches hfree hflag' hmatches,
        getArgValueAt_of_matches (prefixFree_flags setting) hflag hmatches]
      cases hvalue : getCodexCliArgValueAt arg next [flag] with
      | some parsed => rfl
      | none =>
        -- the flag has no value here, and the word matches no flag of another setting
        refine Eq.trans (Eq.symm ?_) hrest
        apply getArgValueAt_of_not_matches
        intro other hother
        apply not_matches_other hfree hflag' hmatches (List.mem_append_right _ hother)
        rintro rfl
        exact hdisjoint hflag hother
    · simp only [not_exists, not_and, Bool.not_eq_true] at hmatch
      rw [getArgValueAt_append_of_not hmatch, getArgValueAt_of_not_matches hmatch, hrest]
      rfl

lemma getArgValueAt_valueFlags {arg : Str} {next : Option Str} :
    getCodexCliArgValueAt arg next valueFlags = (settingAt arg next).map Prod.snd :=
  getArgValueAt_flatMap (by decide) (by decide)

/-- What the allowlist knows of a word: a word that stands for itself is `exec`. -/
def Word.Accepted : Word → Prop
  | .positional word => word = js "exec"
  | .unknown _ => False
  | .subcommand | .boolean _ | .setting .. => True

/-- Words that the allowlist accepts are flags of the grammar, values, or `exec`. -/
lemma read_of_allowlist {prompt : Str} {args : List Str} (execSeen : Bool) {skip : Bool}
    (h : allowlistFrom prompt skip args = none) (hprompt : prompt ∉ args) :
    ∀ word ∈ readFrom execSeen skip args, word.Accepted := by
  induction args generalizing execSeen skip with
  | nil => cases skip <;> exact fun _ hword => nomatch hword
  | cons arg args ih =>
    rw [List.mem_cons, not_or] at hprompt
    cases skip with
    | true => exact ih execSeen h hprompt.2
    | false =>
      rw [allowlistFrom] at h
      rw [readFrom]
      by_cases hexec : arg = js "exec"
      · rw [if_pos (.inl hexec)] at h
        rw [if_pos hexec, List.forall_mem_cons]
        refine ⟨?_, ih true h hprompt.2⟩
        cases execSeen
        · trivial
        · exact hexec
      by_cases hboolean : arg ∈ booleanFlags
      · rw [if_pos (.inr (.inr hboolean))] at h
        rw [if_neg hexec, if_pos hboolean, List.forall_mem_cons]
        exact ⟨trivial, ih execSeen h hprompt.2⟩
      have hneither : ¬(arg = js "exec" ∨ arg = prompt ∨ arg ∈ booleanFlags) := by
        rintro (h | h | h)
        · exact hexec h
        · exact hprompt.1 h.symm
        · exact hboolean h
      rw [if_neg hneither, getArgValueAt_valueFlags] at h
      rw [if_neg hexec, if_neg hboolean]
      cases hread : settingAt arg args.head? with
      | none =>
        rw [hread] at h
        dsimp only [Option.map_none] at h
        split at h <;> exact nomatch h
      | some read =>
        rw [hread] at h
        rw [List.forall_mem_cons]
        exact ⟨trivial, ih execSeen h hprompt.2⟩

/-! ## Validation -/

section
variable [Runtime] {platform : Str} {plan : CodexCliExecPlan} {options : CodexCliValidationOptions}

omit [Runtime] in
lemma reasonIf_eq_nil {condition : Bool} {reason : Str} :
    reasonIf condition reason = [] ↔ condition = false := by
  unfold reasonIf
  cases condition <;> simp

omit [Runtime] in
lemma sandboxReasons_eq_nil (h : sandboxReasons plan = []) :
    getCodexCliArgValue "--sandbox" plan.args = some plan.sandbox.text := by
  unfold sandboxReasons at h
  split at h
  · exact nomatch h
  · rename_i sandboxArg hfilter
    obtain ⟨hvalue, -⟩ := Option.filter_eq_some_iff.mp hfilter
    split_ifs at h with hkind hsame
    rw [hvalue, not_not.mp hsame]

omit [Runtime] in
lemma approvalReasons_eq_nil (h : approvalReasons plan = []) :
    plan.approvalArg = some plan.approvalPolicy.text ∨
      (plan.approvalArg = none ∧ plan.sandbox = .readOnly ∧ plan.approvalPolicy = .never) := by
  unfold approvalReasons at h
  split at h
  · rename_i hnone
    split_ifs at h with hnever
    exact .inr ⟨hnone, hnever⟩
  · exact nomatch h
  · rename_i approvalArg _ hvalue
    split_ifs at h with hkind hsame
    exact .inl (hvalue.trans (congrArg some (not_not.mp hsame)))

omit [Runtime] in
lemma workdirReasons_eq_nil (h : workdirReasons plan = []) {workdir : Str}
    (hvalue : plan.workdirArg = some workdir) : plan.workdir = some workdir := by
  unfold workdirReasons at h
  rw [hvalue] at h
  dsimp only at h
  split_ifs at h with hsame
  exact hsame.symm

/-- What a plan without a reason against it has passed. -/
structure Passed (plan : CodexCliExecPlan) : Prop where
  sandbox : getCodexCliArgValue "--sandbox" plan.args = some plan.sandbox.text
  approval : plan.approvalArg = some plan.approvalPolicy.text ∨
    (plan.approvalArg = none ∧ plan.sandbox = .readOnly ∧ plan.approvalPolicy = .never)
  workdir : ∀ workdir, plan.workdirArg = some workdir → plan.workdir = some workdir
  prompt : plan.prompt ∉ plan.args
  allowlist : assertCodexCliExecPlanArgAllowlist plan.args plan.prompt = none
  groups : ∀ group ∈ securityGroups, (securityMatches group plan.args).length ≤ 1
  overrides : ∀ override ∈ extractCodexCliConfigOverrides plan.args, governedKey override = none

lemma passed_of_validate (h : validateCodexCliExecPlanForRun platform plan options = []) :
    Passed plan := by
  unfold validateCodexCliExecPlanForRun at h
  simp only [List.append_eq_nil_iff, reasonIf_eq_nil] at h
  obtain ⟨⟨⟨⟨⟨⟨⟨⟨⟨⟨⟨⟨⟨⟨⟨-, -⟩, -⟩, hsandbox⟩, -⟩, -⟩, -⟩, happroval⟩, -⟩, -⟩, hworkdir⟩, hprompt⟩,
    hargs⟩, -⟩, -⟩, -⟩ := h
  unfold argReasons List.reduceOption at hargs
  rw [List.filterMap_eq_nil_iff] at hargs
  simp only [List.forall_mem_cons, id_eq] at hargs
  obtain ⟨-, -, -, -, -, -, -, -, -, hallowlist, hgroups, hoverrides, -⟩ := hargs
  refine ⟨sandboxReasons_eq_nil hsandbox, approvalReasons_eq_nil happroval,
    fun workdir => workdirReasons_eq_nil hworkdir, ?_, hallowlist, ?_, ?_⟩
  · simpa using hprompt
  · intro group hgroup
    unfold assertNoDuplicateCodexCliSecurityArgs at hgroups
    have hone := List.findSome?_eq_none_iff.mp hgroups group hgroup
    split_ifs at hone with hmany
    exact not_lt.mp hmany
  · unfold assertNoGovernedCodexCliConfigOverrides at hoverrides
    rw [Option.map_eq_none_iff, List.findSome?_eq_none_iff] at hoverrides
    exact hoverrides

omit [Runtime] in
lemma approvalArg_of_read (hone : (securityMatches .approval plan.args).length ≤ 1) {value : Str}
    (h : value ∈ settings .approval (readArgs plan.args)) : plan.approvalArg = some value := by
  obtain ⟨flag, hflag, hvalue, hothers⟩ := scanned_of_mem_settings hone h
  unfold CodexCliExecPlan.approvalArg
  rcases List.mem_pair.mp hflag with rfl | rfl
  · rw [hothers "--ask-for-approval" (by decide) (by decide), hvalue]
    rfl
  · rw [hvalue]
    rfl

omit [Runtime] in
lemma workdirArg_of_read (hone : (securityMatches .workdir plan.args).length ≤ 1) {value : Str}
    (h : value ∈ settings .workdir (readArgs plan.args)) : plan.workdirArg = some value := by
  obtain ⟨flag, hflag, hvalue, hothers⟩ := scanned_of_mem_settings hone h
  have hflags : flag = js "-C" ∨ flag = js "--cd" ∨ flag = js "--cwd" := by
    simpa [Setting.flags] using hflag
  unfold CodexCliExecPlan.workdirArg
  rcases hflags with rfl | rfl | rfl
  · rw [hothers "--cd" (by decide) (by decide), hothers "--cwd" (by decide) (by decide), hvalue]
    rfl
  · rw [hvalue]
    rfl
  · rw [hothers "--cd" (by decide) (by decide), hvalue]
    rfl

omit [Runtime] in
/-- A model that is read is the one that is looked at when nothing else names one. -/
lemma checkedModel_iff_of_read (hone : (securityMatches .model plan.args).length ≤ 1)
    {value : Str} (h : value ∈ settings .model (readArgs plan.args)) :
    plan.checkedModel = some value ↔
      plan.model = some value ∨ (plan.model = none ∧ getCodexCliArgValue "-m" plan.args = none) := by
  obtain ⟨flag, hflag, hvalue, hothers⟩ := scanned_of_mem_settings hone h
  unfold CodexCliExecPlan.checkedModel
  cases hmodel : plan.model with
  | some model => simp
  | none =>
    rw [Option.none_or]
    rcases List.mem_pair.mp hflag with rfl | rfl
    · rw [hothers "--model" (by decide) (by decide), hvalue]
      simp
    · rw [hvalue, hothers "-m" (by decide) (by decide)]
      simp

end

/-! ## A hidden override -/

section
attribute [local instance] asciiRuntime

def readOnlyTask : TaskEnvelope where
  taskId := "task"
  summary := "look"
  requestedAction := "look"
  successCriteria := ["seen"]
  repoRoot := none
  branch := none
  worktreeClean := none
  targetBranches := []
  targetFiles := []
  targetModules := []
  taskClassHint := none
  riskHints := []

/-- A read-only plan of these words, bound to them. -/
def boundPlan (args : List Str) (approvalPolicy : CodexCliApprovalPolicy) : CodexCliExecPlan :=
  let plan : CodexCliExecPlan :=
    { command := "codex"
      args
      prompt := "look"
      task := readOnlyTask
      sandbox := .readOnly
      approvalPolicy
      runtimeBinding := none
      model := none
      workdir := none }
  { plan with runtimeBinding := some (createCodexCliRuntimeBindingForPlan "linux" plan) }

def noOptions : CodexCliValidationOptions := ⟨none, none, none, false, none, none, none, none⟩

def plainArgs : List Str := ["exec", "--json", "--sandbox", "read-only"]

/-- `--model` takes the word `-c`, so the last word is an override of the approval policy. -/
def hiddenArgs : List Str :=
  [js "-a", js "on-request"] ++ plainArgs
    ++ [js "--model", js "-c", js "-capproval_policy=never"]

end

end CodexRouter.Cli
