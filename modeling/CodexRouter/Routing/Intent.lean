import CodexRouter.Routing.Task
import Mathlib.Algebra.Order.Field.Rat
import Mathlib.Tactic.Linarith

/-!
# Intent classification

The class of a task by the keywords of its intent, raised by hints, and how ambiguous it is.
-/

open Js

namespace CodexRouter.Routing

open Kernel Eligibility

inductive ExecutionProfileName where
  | reconOnly | clarifyThenPlan | engineering | highRiskChange | releaseGovernance
  deriving DecidableEq

structure IntentClassification where
  taskClass : TaskClass
  ambiguityScore : ℚ
  ambiguityReasons : List Str
  clarificationRequired : Bool
  recommendedProfile : ExecutionProfileName
  deriving DecidableEq

/-! ## Keywords -/

def highRiskKeywords : List Str :=
  [js "auth", js "authentication", js "authorization", js "permission", js "billing",
    js "payment", js "secret", js "env", js "production", js "database", js "migration",
    js "delete", js "删除", js "移除", js "重命名", js "权限", js "凭证", js "密钥", js "私钥",
    js "环境变量", js "生产", js "网络", js "外部"]

def releaseKeywords : List Str :=
  [js "release", js "merge", js "push", js "prod/stable", js "main", js "发布", js "部署",
    js "上线", js "推送", js "合并"]

def engineeringKeywords : List Str :=
  [js "implement", js "multi-file", js "refactor", js "实现", js "重构", js "多文件"]

def smallEditKeywords : List Str :=
  [js "rename", js "typo", js "copy", js "comment", js "single file", js "small fix",
    js "单文件", js "小修改", js "错别字"]

def readOnlyKeywords : List Str :=
  [js "explain", js "review", js "summarize", js "inspect", js "analyze", js "read",
    js "解释", js "审查", js "总结", js "检查", js "分析", js "读取", js "只读"]

def ambiguousShortcuts : List Str :=
  [js "continue", js "do it", js "fix it", js "that one", js "same as before", js "继续",
    js "照做", js "就这样", js "修一下"]

/-- `[a-z0-9_]` under the flag `i`. -/
def isKeywordUnit (c : CodeUnit) : Bool :=
  (0x30 ≤ c.val && c.val ≤ 0x39) || (0x41 ≤ c.val && c.val ≤ 0x5a)
    || (0x61 ≤ c.val && c.val ≤ 0x7a) || c = cu '_'

/-- A keyword of word units stands between units that are none; any other is a substring. -/
def containsKeyword (haystack keyword : Str) : Bool :=
  if keyword = [] || !keyword.all isKeywordUnit then includes haystack keyword
  else
    (List.range (haystack.length + 1)).any fun i =>
      startsWith ((haystack.drop i).map asciiLower) (keyword.map asciiLower)
        && !(haystack.take i).getLast?.any isKeywordUnit
        && !(haystack.drop (i + keyword.length)).head?.any isKeywordUnit

def containsAny (haystack : Str) (keywords : List Str) : Bool :=
  keywords.any (containsKeyword haystack)

/-! ## Classes and hints -/

def taskClassRank : TaskClass → ℕ
  | .readOnly => 0
  | .smallEdit => 1
  | .engineering => 2
  | .highRisk => 3
  | .releaseExternalAction => 4

def trustedHintSources : List Str := [js "system", js "policy", js "operator"]

structure HintTrust where
  canSetNeutralClass : Bool
  sources : List Str

/-- The entries of the provenance that speak of the hint. -/
def hintProvenance (task : TaskEnvelope) (hint : TaskClass) : List TaskHintProvenance :=
  task.hints.provenance.filter fun entry =>
    entry.field = .taskClassHint && entry.value = hint.text

def classifyTaskClassHintTrust (task : TaskEnvelope) (hint : TaskClass) : HintTrust :=
  let provenance := hintProvenance task hint
  if provenance = [] then { canSetNeutralClass := false, sources := [js "unspecified"] }
  else
    let sources := uniqueStrings (provenance.map (·.source.text))
    { canSetNeutralClass := sources.any trustedHintSources.contains, sources }

/-- The class whose keywords the text contains, the gravest first. -/
def matchedTaskClass (haystack : Str) : Option TaskClass :=
  if containsAny haystack releaseKeywords then some .releaseExternalAction
  else if containsAny haystack highRiskKeywords then some .highRisk
  else if containsAny haystack engineeringKeywords then some .engineering
  else if containsAny haystack smallEditKeywords then some .smallEdit
  else if containsAny haystack readOnlyKeywords then some .readOnly
  else none

/-- `if (hint && hint !== taskClass)`: the class after the hint, and the reason it gives. -/
def applyTaskClassHint (task : TaskEnvelope) (matched : Option TaskClass) :
    TaskClass × List Str :=
  let taskClass := matched.getD .engineering
  match task.hints.taskClassHint with
  | none => (taskClass, [])
  | some hint =>
    if hint = taskClass then (taskClass, [])
    else
      match matched with
      | none =>
        let hintTrust := classifyTaskClassHintTrust task hint
        if hintTrust.canSetNeutralClass || taskClassRank hint > taskClassRank taskClass then
          (hint, [])
        else
          (taskClass, [js "task_class_hint_untrusted:" ++ join (cu '+') hintTrust.sources
            ++ js ":" ++ hint.text])
      | some _ =>
        (if taskClassRank hint > taskClassRank taskClass then hint else taskClass,
          [js "task_class_hint_conflict:" ++ hint.text ++ js ":" ++ taskClass.text])

def taskClassToProfile (taskClass : TaskClass) (clarificationRequired : Bool) :
    ExecutionProfileName :=
  if clarificationRequired then .clarifyThenPlan
  else
    match taskClass with
    | .readOnly => .reconOnly
    | .highRisk => .highRiskChange
    | .releaseExternalAction => .releaseGovernance
    | .engineering | .smallEdit => .engineering

/-! ## Classification -/

/-- `Math.min(1, ambiguityReasons.length * 0.35)`. -/
def ambiguityScoreOf (ambiguityReasons : List Str) : ℚ :=
  min 1 (ambiguityReasons.length * (35 / 100))

def buildClassification (taskClass : TaskClass) (ambiguityReasons : List Str) :
    IntentClassification :=
  let ambiguityScore := ambiguityScoreOf ambiguityReasons
  let clarificationRequired : Bool := ambiguityScore ≥ 1 / 2
  { taskClass, ambiguityScore, ambiguityReasons, clarificationRequired
    recommendedProfile := taskClassToProfile taskClass clarificationRequired }

variable [Runtime]

/-- What the text alone makes ambiguous. -/
def textReasons (task : TaskEnvelope) : List Str :=
  (if (trim task.intent.summary).length < 12 then [js "summary_too_short"] else [])
    ++ if containsAny task.haystack ambiguousShortcuts then [js "context_dependent_shortcut"]
      else []

def surfaceReasons (task : TaskEnvelope) (taskClass : TaskClass) : List Str :=
  if taskClass ≠ .readOnly && task.target.files = [] && task.repoContext.repoRoot.all (· = []) then
    [js "missing_target_surface"]
  else []

/-- The envelope is parsed. -/
def classifyTask (task : TaskEnvelope) : IntentClassification :=
  let (taskClass, hintReasons) := applyTaskClassHint task (matchedTaskClass task.haystack)
  buildClassification taskClass (textReasons task ++ hintReasons ++ surfaceReasons task taskClass)

def classifyIntent (taskInput : Json) : Result IntentClassification :=
  (parseTaskEnvelope taskInput).map classifyTask

/-! ## What a hint can do -/

/-- No entry of the provenance lets a trusted source speak for the hint. -/
def Untrusted (hint : TaskClass) (provenance : List TaskHintProvenance) : Prop :=
  ∀ entry ∈ provenance, entry.field = .taskClassHint → entry.value = hint.text →
    entry.source ≠ .system ∧ entry.source ≠ .policy ∧ entry.source ≠ .operator

/-- The task with a hint and where it comes from. -/
def TaskEnvelope.withHint (task : TaskEnvelope) (hint : TaskClass)
    (provenance : List TaskHintProvenance) : TaskEnvelope :=
  { task with hints := { task.hints with taskClassHint := some hint, provenance } }

omit [Runtime] in
lemma source_trusted_iff (source : HintSource) :
    trustedHintSources.contains source.text = true ↔
      source = .system ∨ source = .policy ∨ source = .operator := by
  cases source <;> decide

omit [Runtime] in
lemma Untrusted.cannotSet {task : TaskEnvelope} {hint : TaskClass}
    (untrusted : Untrusted hint task.hints.provenance) :
    (classifyTaskClassHintTrust task hint).canSetNeutralClass = false := by
  unfold classifyTaskClassHintTrust
  dsimp only
  split_ifs
  · rfl
  · show List.any _ _ = false
    rw [List.any_eq_false]
    intro source hsource trusted
    have hmapped := mem_uniqueStrings.mp hsource
    obtain ⟨entry, hentry, rfl⟩ := List.mem_map.mp hmapped
    have hfilter := List.mem_filter.mp hentry
    have hmatches : entry.field = .taskClassHint ∧ entry.value = hint.text := by
      simpa using hfilter.2
    have hnot := untrusted entry hfilter.1 hmatches.1 hmatches.2
    have hsource := (source_trusted_iff entry.source).mp trusted
    tauto

omit [Runtime] in
/-- An untrusted hint only raises the class. -/
lemma rank_le_applyTaskClassHint {task : TaskEnvelope} {matched : Option TaskClass}
    (untrusted : ∀ hint ∈ task.hints.taskClassHint, Untrusted hint task.hints.provenance) :
    taskClassRank (matched.getD .engineering) ≤
      taskClassRank (applyTaskClassHint task matched).1 := by
  unfold applyTaskClassHint
  cases hhint : task.hints.taskClassHint with
  | none => exact le_refl _
  | some hint =>
    cases matched with
    | none =>
      have hset := (untrusted hint hhint).cannotSet
      dsimp only
      rw [hset, Bool.false_or]
      split_ifs with hsame hraised
      · exact le_refl _
      · exact (of_decide_eq_true hraised).le
      · exact le_refl _
    | some taskClass =>
      dsimp only
      split_ifs with hsame hraised
      · exact le_refl _
      · exact hraised.le
      · exact le_refl _

omit [Runtime] in
lemma applyTaskClassHint_unhinted {task : TaskEnvelope} {matched : Option TaskClass}
    (unhinted : task.hints.taskClassHint = none) :
    applyTaskClassHint task matched = (matched.getD .engineering, []) := by
  simp only [applyTaskClassHint, unhinted]

omit [Runtime] in
lemma readOnly_iff_rank (taskClass : TaskClass) :
    taskClass = .readOnly ↔ taskClassRank taskClass = 0 := by
  cases taskClass <;> decide

omit [Runtime] in
/-- A raised class misses a target surface as well. -/
lemma surfaceReasons_length_le {task : TaskEnvelope} {taskClass taskClass' : TaskClass}
    (raised : taskClassRank taskClass ≤ taskClassRank taskClass') :
    (surfaceReasons task taskClass).length ≤ (surfaceReasons task taskClass').length := by
  by_cases hclass : taskClass = .readOnly
  · simp [surfaceReasons, hclass]
  · have hclass' : taskClass' ≠ .readOnly := by
      intro hreadOnly
      rw [readOnly_iff_rank] at hclass hreadOnly
      omega
    simp [surfaceReasons, hclass, hclass']

omit [Runtime] in
lemma ambiguityScoreOf_mono {reasons reasons' : List Str}
    (h : reasons.length ≤ reasons'.length) :
    ambiguityScoreOf reasons ≤ ambiguityScoreOf reasons' := by
  have hcast : (reasons.length : ℚ) ≤ reasons'.length := by exact_mod_cast h
  apply min_le_min_left
  linarith

/-- What a classification may become under an untrusted hint. -/
structure IntentClassification.Raises (intent intent' : IntentClassification) : Prop where
  rank : taskClassRank intent.taskClass ≤ taskClassRank intent'.taskClass
  score : intent.ambiguityScore ≤ intent'.ambiguityScore
  clarification : intent.clarificationRequired = true → intent'.clarificationRequired = true

lemma classifyTask_raises {task : TaskEnvelope} {hint : TaskClass}
    {provenance : List TaskHintProvenance} (unhinted : task.hints.taskClassHint = none)
    (untrusted : Untrusted hint provenance) :
    (classifyTask task).Raises (classifyTask (task.withHint hint provenance)) := by
  -- the hint is invisible to everything but its own stage
  have hhaystack : (task.withHint hint provenance).haystack = task.haystack := rfl
  have htext : textReasons (task.withHint hint provenance) = textReasons task := rfl
  have hsurface : ∀ taskClass, surfaceReasons (task.withHint hint provenance) taskClass =
      surfaceReasons task taskClass := fun _ => rfl
  unfold classifyTask
  rw [hhaystack, htext, applyTaskClassHint_unhinted unhinted]
  have hrank := @rank_le_applyTaskClassHint (task.withHint hint provenance)
    (matchedTaskClass task.haystack) (by
      intro h hmem
      cases hmem
      exact untrusted)
  have hscore : ambiguityScoreOf (textReasons task ++ [] ++
        surfaceReasons task ((matchedTaskClass task.haystack).getD .engineering)) ≤
      ambiguityScoreOf (textReasons task ++
        (applyTaskClassHint (task.withHint hint provenance)
          (matchedTaskClass task.haystack)).2 ++
        surfaceReasons (task.withHint hint provenance)
          (applyTaskClassHint (task.withHint hint provenance)
            (matchedTaskClass task.haystack)).1) := by
    apply ambiguityScoreOf_mono
    have hlength := @surfaceReasons_length_le task _ _ hrank
    rw [hsurface]
    simp only [List.length_append, List.length_nil]
    omega
  exact {
    rank := hrank
    score := hscore
    clarification := by
      intro required
      have hhalf := of_decide_eq_true required
      exact decide_eq_true (le_trans hhalf hscore) }

end CodexRouter.Routing
