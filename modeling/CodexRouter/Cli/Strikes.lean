import CodexRouter.Cli.Governance
import CodexRouter.Js.Ascii
import Mathlib.Algebra.Order.Field.Basic
import Mathlib.Tactic.Linarith
import Mathlib.Tactic.Ring

/-!
# Strikes across runs

The count of anomalies is exact and its locks stay. Without an anomaly a plan is still blocked: by a
last run that only read, and by the risk that each run with write access adds.
-/

open Js

namespace CodexRouter.Cli
open Kernel (GovernanceRiskLevel)

/-! ## Clamped sums -/

lemma clamp01_add {sum pressure : ℚ} (hsum : 0 ≤ sum) (hpressure : 0 ≤ pressure) :
    clamp01 (min 1 sum + pressure) = min 1 (sum + pressure) := by
  unfold clamp01
  have hmin : 0 ≤ min 1 sum := le_min zero_le_one hsum
  rw [max_eq_right (le_min zero_le_one (by linarith))]
  rcases le_total 1 sum with h | h
  · rw [min_eq_left h, min_eq_left (by linarith), min_eq_left (by linarith)]
  · rw [min_eq_right h]

lemma clamp01_nonneg (value : ℚ) : 0 ≤ clamp01 value := le_max_left _ _

lemma clamp01_le_one (value : ℚ) : clamp01 value ≤ 1 := max_le zero_le_one (min_le_left _ _)

lemma riskLevel_critical_iff {score : ℚ} :
    riskLevelFromScore score = .critical ↔ 85 / 100 ≤ score := by
  unfold riskLevelFromScore
  split_ifs with h <;> simp_all

lemma signalPressure_nonneg (signals : CodexCliObservationSignals) :
    0 ≤ signalPressure signals := by
  unfold signalPressure
  split_ifs <;> norm_num

lemma anomalyPressure_nonneg (anomalyCount : ℕ) : 0 ≤ anomalyPressure anomalyCount := by
  unfold anomalyPressure
  exact le_min (by norm_num) (mul_nonneg (Nat.cast_nonneg _) (by norm_num))

/-! ## Strategies -/

lemma route_stepBack_iff {state : CodexCliUnroutedState} {plan : CodexCliGovernancePlanLike} :
    (routeCodexCliStrategyV2 state plan).action = .stepBack ↔ 3 ≤ state.anomalies.count := by
  unfold routeCodexCliStrategyV2
  dsimp only
  split_ifs with hthree htwo hrequested hone
  · exact iff_of_true rfl hthree
  · exact iff_of_false nofun hthree
  · exact iff_of_false nofun hthree
  · exact iff_of_false nofun hthree
  · apply iff_of_false _ hthree
    cases state.risk.finalRiskLevel <;> exact nofun

lemma route_lockdown_iff {state : CodexCliUnroutedState} {plan : CodexCliGovernancePlanLike} :
    (routeCodexCliStrategyV2 state plan).action = .lockdown ↔
      (state.anomalies.count = 2 ∧ plan.sandbox = .workspaceWrite)
      ∨ (state.anomalies.count = 0 ∧ state.risk.finalRiskLevel = .critical) := by
  unfold routeCodexCliStrategyV2
  dsimp only
  split_ifs with hthree htwo hrequested hone
  · apply iff_of_false nofun
    omega
  · exact iff_of_true rfl (.inl ⟨htwo, by simpa using hrequested⟩)
  · apply iff_of_false nofun
    simp_all
  · apply iff_of_false nofun
    omega
  · have hzero : state.anomalies.count = 0 := by omega
    rw [hzero]
    cases state.risk.finalRiskLevel <;> simp

lemma route_writes_iff {state : CodexCliUnroutedState} {plan : CodexCliGovernancePlanLike} :
    (routeCodexCliStrategyV2 state plan).writeSandboxAllowed = true ↔
      plan.sandbox = .workspaceWrite ∧ (state.anomalies.count = 1
        ∨ (state.anomalies.count = 0 ∧ state.risk.finalRiskLevel ≠ .critical)) := by
  unfold routeCodexCliStrategyV2
  dsimp only
  split_ifs with hthree htwo hone
  · apply iff_of_false nofun
    omega
  · apply iff_of_false nofun
    omega
  · simp [hone]
  · simp [hone]
  · have hzero : state.anomalies.count = 0 := by omega
    rw [hzero]
    cases state.risk.finalRiskLevel <;> simp

lemma preRunBlockers_eq_nil {plan : CodexCliGovernancePlanLike}
    {previous : CodexCliGovernanceState} :
    getCodexCliGovernancePreRunBlockers plan (some previous) = [] ↔
      (previous.strategy.action ≠ .stepBack ∧ previous.anomalies.count < 3)
      ∧ (plan.sandbox = .workspaceWrite →
        previous.strategy.action ≠ .lockdown ∧ previous.strategy.writeSandboxAllowed = true) := by
  unfold getCodexCliGovernancePreRunBlockers factorIf
  dsimp only
  rw [distinct_eq_nil, List.append_eq_nil_iff]
  constructor
  · intro ⟨hstep, hwrite⟩
    simp_all
  · intro ⟨hstep, hwrite⟩
    by_cases hplan : plan.sandbox = .workspaceWrite <;> simp_all

/-! ## Chains of runs -/

section
variable [Runtime]

/-- Each returned state is the previous state of the next call. -/
def runBundles (inputs : List CodexCliObservationInput) : Option CodexCliGovernanceState :=
  inputs.foldl (fun previous input => some (createCodexCliGovernanceBundle previous input).state)
    none

/-- The state that an input is reduced from. -/
def baseState (inputs : List CodexCliObservationInput) (input : CodexCliObservationInput) :
    CodexCliGovernanceState :=
  (runBundles inputs).getD (createCodexCliGovernanceState input.task input.plan input.createdAt)

def isStrike (input : CodexCliObservationInput) : Bool :=
  isCodexCliAnomalousObservation (createCodexCliExecutionObservation input)

/-- The anomalous observations of a chain. -/
def strikes (inputs : List CodexCliObservationInput) : ℕ := inputs.countP isStrike

/-- The risk that the observations add, where `count` anomalies came before. -/
def addedRisk (count : ℕ) : List CodexCliObservationInput → ℚ
  | [] => 0
  | input :: inputs =>
    let count' := count + if isStrike input then 1 else 0
    signalPressure (createCodexCliExecutionObservation input).signals + anomalyPressure count'
      + addedRisk count' inputs

lemma addedRisk_append (count : ℕ) (inputs inputs' : List CodexCliObservationInput) :
    addedRisk count (inputs ++ inputs') =
      addedRisk count inputs + addedRisk (count + strikes inputs) inputs' := by
  induction inputs generalizing count with
  | nil => simp [addedRisk, strikes]
  | cons input inputs ih =>
    have hcount : count + strikes (input :: inputs) =
        count + (if isStrike input then 1 else 0) + strikes inputs := by
      unfold strikes
      rw [List.countP_cons]
      omega
    rw [List.cons_append, addedRisk, addedRisk, ih, hcount]
    ring

lemma addedRisk_nonneg (count : ℕ) (inputs : List CodexCliObservationInput) :
    0 ≤ addedRisk count inputs := by
  induction inputs generalizing count with
  | nil => exact le_refl 0
  | cons input inputs ih =>
    exact add_nonneg (add_nonneg (signalPressure_nonneg _) (anomalyPressure_nonneg _)) (ih _)

lemma runBundles_nil : runBundles [] = none := rfl

lemma runBundles_append (inputs : List CodexCliObservationInput)
    (input : CodexCliObservationInput) :
    runBundles (inputs ++ [input]) =
      some (createCodexCliGovernanceBundle (runBundles inputs) input).state := by
  unfold runBundles
  rw [List.foldl_append]
  rfl

/-- The state of a chain in terms of its inputs. -/
structure Follows (inputs : List CodexCliObservationInput) (first last : CodexCliObservationInput)
    (state : CodexCliGovernanceState) : Prop where
  count : state.anomalies.count = strikes inputs
  entries : state.anomalies.entries.map (·.status) =
    (inputs.filter isStrike).map (·.status)
  strategy : state.strategy = routeCodexCliStrategyV2 state.toCodexCliUnroutedState last.plan
  score : state.risk.score =
    min 1 ((scoreCodexCliGovernanceRisk first.task first.plan).score + addedRisk 0 inputs)
  level : state.risk.finalRiskLevel = riskLevelFromScore state.risk.score
  taskId : state.taskId = first.task.taskId
  updatedAt : state.updatedAt = last.observedAt

lemma initialScore_nonneg (task : TaskEnvelope) (plan : CodexCliGovernancePlanLike) :
    0 ≤ (scoreCodexCliGovernanceRisk task plan).score := clamp01_nonneg _

lemma initialScore_le_one (task : TaskEnvelope) (plan : CodexCliGovernancePlanLike) :
    (scoreCodexCliGovernanceRisk task plan).score ≤ 1 := clamp01_le_one _

/-- One more run. -/
lemma follows_step {inputs : List CodexCliObservationInput}
    {first input : CodexCliObservationInput} {base : CodexCliGovernanceState}
    (hcount : base.anomalies.count = strikes inputs)
    (hentries : base.anomalies.entries.map (·.status) = (inputs.filter isStrike).map (·.status))
    (hscore : base.risk.score =
      min 1 ((scoreCodexCliGovernanceRisk first.task first.plan).score + addedRisk 0 inputs))
    (htask : base.taskId = first.task.taskId) (previous : Option CodexCliGovernanceState)
    (hbase : previous.getD (createCodexCliGovernanceState input.task input.plan input.createdAt) =
      base) :
    Follows (inputs ++ [input]) first input (createCodexCliGovernanceBundle previous input).state := by
  have hstrikes : strikes (inputs ++ [input]) =
      strikes inputs + if isStrike input then 1 else 0 := by
    unfold strikes
    rw [List.countP_append, List.countP_singleton]
  have hanomalies : (reduceCodexCliGovernanceState base.toCodexCliUnroutedState
      (createCodexCliExecutionObservation input) input.plan).anomalies.count =
        strikes inputs + if isStrike input then 1 else 0 := by
    unfold reduceCodexCliGovernanceState isStrike
    dsimp only
    split_ifs <;> simp [hcount]
  unfold createCodexCliGovernanceBundle
  rw [hbase]
  refine ⟨?_, ?_, ?_, ?_, rfl, htask, rfl⟩
  · rw [hstrikes]
    exact hanomalies
  · show (reduceCodexCliGovernanceState base.toCodexCliUnroutedState
      (createCodexCliExecutionObservation input) input.plan).anomalies.entries.map (·.status) = _
    unfold reduceCodexCliGovernanceState
    dsimp only
    rw [List.filter_append, List.map_append, ← hentries]
    by_cases hstrike : isCodexCliAnomalousObservation (createCodexCliExecutionObservation input)
    · have hfilter : [input].filter isStrike = [input] := List.filter_cons_of_pos hstrike
      rw [hfilter]
      rw [if_pos hstrike, List.map_append]
      rfl
    · have hfilter : [input].filter isStrike = [] := List.filter_cons_of_neg hstrike
      rw [hfilter]
      rw [if_neg hstrike, List.map_nil, List.append_nil]
  · rfl
  · rw [addedRisk_append, Nat.zero_add, addedRisk, addedRisk, add_zero, ← add_assoc]
    dsimp only
    rw [← clamp01_add (add_nonneg (initialScore_nonneg _ _) (addedRisk_nonneg _ _))
      (add_nonneg (signalPressure_nonneg _) (anomalyPressure_nonneg _)), ← hanomalies, ← hscore,
      ← add_assoc]
    rfl

/-- Every state that a chain reaches is known from its inputs. -/
theorem follows_runBundles (inputs : List CodexCliObservationInput)
    (input : CodexCliObservationInput) :
    ∃ state, runBundles (inputs ++ [input]) = some state
      ∧ Follows (inputs ++ [input]) ((inputs ++ [input]).head (by simp)) input state := by
  induction inputs using List.reverseRecOn generalizing input with
  | nil =>
    refine ⟨_, runBundles_append [] input, ?_⟩
    apply follows_step rfl rfl _ rfl none rfl
    rw [addedRisk, add_zero]
    exact (min_eq_right (initialScore_le_one _ _)).symm
  | append_singleton inputs last ih =>
    obtain ⟨base, hbase, hfollows⟩ := ih last
    refine ⟨_, runBundles_append _ input, ?_⟩
    have hhead : (inputs ++ [last] ++ [input]).head (by simp) = (inputs ++ [last]).head (by simp) :=
      List.head_append_of_ne_nil _
    rw [hhead]
    apply follows_step hfollows.count hfollows.entries hfollows.score hfollows.taskId
    rw [hbase]
    rfl

/-! ## Clean chains -/

omit [Runtime] in
/-- The run succeeded without error, timeout, parse error, warning or blocking reason. -/
structure CodexCliObservationInput.Clean (input : CodexCliObservationInput) : Prop where
  status : input.status = .succeeded
  error : truthy input.error = none
  timedOut : input.timedOut.getD false = false
  parseErrorCount : input.parseErrorCount.getD 0 = 0
  warnings : input.warnings.getD [] = []
  blockingReasons : input.blockingReasons.getD [] = []

/-- The task starts below critical risk, with either sandbox. -/
def StartsBelowCritical (task : TaskEnvelope) : Prop :=
  ∀ plan createdAt,
    (createCodexCliGovernanceState task plan createdAt).risk.finalRiskLevel ≠ .critical

omit [Runtime] in
def writes (input : CodexCliObservationInput) : Bool := input.plan.sandbox = .workspaceWrite

lemma not_strike_of_clean {input : CodexCliObservationInput} (h : input.Clean) :
    isStrike input = false := by
  unfold isStrike isCodexCliAnomalousObservation createCodexCliExecutionObservation
  simp [h.status]

/-- Of a clean run only the request to write is a signal. -/
lemma signalPressure_of_clean (hspace : Runtime.toLowerCase (js " ") = js " ")
    {input : CodexCliObservationInput} (h : input.Clean) :
    signalPressure (createCodexCliExecutionObservation input).signals =
      if writes input then 1 / 10 else 0 := by
  have hreasons : Runtime.toLowerCase (join (cu ' ') (distinct []) ++ js " " ++
      (none : Option Str).getD []) = js " " := hspace
  have hnone : ∀ part ∈ [js "model_unavailable", js "model_probe", js "write_sandbox",
      js "sandbox", js "approval", js "timeout", js "process_error", js "enoent",
      js "command_not_found", js "eperm", js "eacces", js "permission"],
      includes (js " ") part = false := by decide
  simp only [List.forall_mem_cons] at hnone
  have hany : (createCodexCliExecutionObservation input).signals.entries.any (·.2) =
      writes input := by
    unfold createCodexCliExecutionObservation createCodexCliObservationSignals
      CodexCliObservationSignals.entries writes
    dsimp only
    rw [h.error, h.timedOut, h.parseErrorCount, h.warnings, h.blockingReasons, hreasons]
    simp [hnone, truthy, distinct]
  unfold signalPressure
  rw [hany]

lemma addedRisk_of_clean (hspace : Runtime.toLowerCase (js " ") = js " ")
    {inputs : List CodexCliObservationInput} (h : ∀ input ∈ inputs, input.Clean) :
    addedRisk 0 inputs = (inputs.countP writes : ℚ) / 10 := by
  induction inputs with
  | nil => simp [addedRisk]
  | cons input inputs ih =>
    rw [List.forall_mem_cons] at h
    rw [addedRisk, List.countP_cons, not_strike_of_clean h.1, signalPressure_of_clean hspace h.1]
    have hpressure : anomalyPressure 0 = 0 := by
      unfold anomalyPressure
      norm_num
    simp only [Bool.false_eq_true, if_false, hpressure, add_zero, ih h.2]
    split_ifs <;> push_cast <;> ring

lemma strikes_of_clean {inputs : List CodexCliObservationInput}
    (h : ∀ input ∈ inputs, input.Clean) : strikes inputs = 0 := by
  unfold strikes
  rw [List.countP_eq_zero]
  intro input hinput
  simp [not_strike_of_clean (h input hinput)]

lemma strikes_append (inputs inputs' : List CodexCliObservationInput) :
    strikes (inputs ++ inputs') = strikes inputs + strikes inputs' := List.countP_append

/-- What a clean chain blocks. -/
theorem blockers_of_clean (hspace : Runtime.toLowerCase (js " ") = js " ")
    {inputs : List CodexCliObservationInput} {first last : CodexCliObservationInput}
    {state : CodexCliGovernanceState} (hclean : ∀ input ∈ inputs, input.Clean)
    (hfollows : Follows inputs first last state) :
    (∀ plan, getCodexCliGovernancePreRunBlockers plan (some state) = []) ↔
      writes last = true ∧
        (scoreCodexCliGovernanceRisk first.task first.plan).score
          + (inputs.countP writes : ℚ) / 10 < 85 / 100 := by
  have hcount : state.anomalies.count = 0 := hfollows.count.trans (strikes_of_clean hclean)
  have hcritical : state.risk.finalRiskLevel = .critical ↔
      85 / 100 ≤ (scoreCodexCliGovernanceRisk first.task first.plan).score
        + (inputs.countP writes : ℚ) / 10 := by
    rw [hfollows.level, riskLevel_critical_iff, hfollows.score, addedRisk_of_clean hspace hclean,
      le_min_iff]
    exact and_iff_right (by norm_num)
  have hplan : ∀ plan, getCodexCliGovernancePreRunBlockers plan (some state) = [] ↔
      (plan.sandbox = .workspaceWrite →
        writes last = true ∧ ¬state.risk.finalRiskLevel = .critical) := by
    intro plan
    rw [preRunBlockers_eq_nil, hfollows.strategy, route_writes_iff, ne_eq, route_stepBack_iff,
      ne_eq, route_lockdown_iff, hcount]
    simp [writes]
    tauto
  simp only [hplan, hcritical, not_le]
  constructor
  · intro h
    exact h ⟨.workspaceWrite, .never, none⟩ rfl
  · intro h plan _
    exact h

/-! ## The accounts of a chain -/

/-- No strike is lost, no lock is lost, and there is no lock without a strike. -/
structure StrikesAccounted (task : TaskEnvelope) (inputs : List CodexCliObservationInput) :
    Prop where
  counted : ∀ state, runBundles inputs = some state → state.anomalies.count = strikes inputs
  stopped : ∀ before after, inputs = before ++ after → 3 ≤ strikes before → ∀ plan,
    getCodexCliGovernancePreRunBlockers plan (runBundles inputs) ≠ []
  writeStopped : ∀ before after, inputs = before ++ after → 2 ≤ strikes before → ∀ plan,
    plan.sandbox = .workspaceWrite →
      getCodexCliGovernancePreRunBlockers plan (runBundles inputs) ≠ []
  unlocked : StartsBelowCritical task → (∀ input ∈ inputs, input.Clean) → ∀ plan,
    getCodexCliGovernancePreRunBlockers plan (runBundles inputs) = []

/-- Exact when a clean chain ends with a run that writes and the writes have not made the risk
critical. -/
theorem strikes_accounted_iff (hspace : Runtime.toLowerCase (js " ") = js " ")
    {task : TaskEnvelope} {inputs : List CodexCliObservationInput}
    (htask : ∀ input ∈ inputs, input.task = task) :
    StrikesAccounted task inputs ↔
      (StartsBelowCritical task → (∀ input ∈ inputs, input.Clean) →
        ∀ first ∈ inputs.head?, ∀ last ∈ inputs.getLast?,
          writes last = true ∧
            (scoreCodexCliGovernanceRisk task first.plan).score
              + (inputs.countP writes : ℚ) / 10 < 85 / 100) := by
  rcases List.eq_nil_or_concat inputs with rfl | ⟨init, input, rfl⟩
  · apply iff_of_true
    · refine ⟨?_, ?_, ?_, fun _ _ _ => rfl⟩
      · intro state hrun
        rw [runBundles_nil] at hrun
        exact nomatch hrun
      · intro before after happend hthree
        rw [(List.nil_eq_append_iff.mp happend).1] at hthree
        exact absurd hthree (Nat.not_succ_le_zero 2)
      · intro before after happend htwo
        rw [(List.nil_eq_append_iff.mp happend).1] at htwo
        exact absurd htwo (Nat.not_succ_le_zero 1)
    · intro _ _ first hfirst
      exact nomatch hfirst
  · rw [List.concat_eq_append] at htask ⊢
    obtain ⟨state, hrun, hfollows⟩ := follows_runBundles init input
    have hne : init ++ [input] ≠ [] := by simp
    have hfirst := htask _ (List.head_mem hne)
    have hhead : ∀ first, first ∈ (init ++ [input]).head? ↔ first = (init ++ [input]).head hne := by
      intro first
      rw [List.head?_eq_some_head hne, Option.mem_some_iff, eq_comm]
    have hlast : ∀ last, last ∈ (init ++ [input]).getLast? ↔ last = input := by
      intro last
      rw [List.getLast?_append_of_ne_nil _ (List.cons_ne_nil _ _), List.getLast?_singleton,
        Option.mem_some_iff, eq_comm]
    simp only [hhead, hlast, forall_eq]
    have hmono : ∀ before after, init ++ [input] = before ++ after →
        strikes before ≤ state.anomalies.count := by
      intro before after happend
      rw [hfollows.count, happend, strikes_append]
      exact Nat.le_add_right _ _
    constructor
    · intro h hbelow hclean
      have hunlocked := h.unlocked hbelow hclean
      rw [hrun, blockers_of_clean hspace hclean hfollows, hfirst] at hunlocked
      exact hunlocked
    · intro h
      rw [← hfirst] at h
      refine ⟨?_, ?_, ?_, ?_⟩
      · intro state' hstate'
        rw [hrun] at hstate'
        obtain rfl := Option.some.inj hstate'
        exact hfollows.count
      · intro before after happend hthree plan
        rw [hrun, ne_eq, preRunBlockers_eq_nil]
        have hle := hmono before after happend
        intro hnone
        omega
      · intro before after happend htwo plan hplan
        rw [hrun, ne_eq, preRunBlockers_eq_nil]
        have hle := hmono before after happend
        intro hnone
        have hwrites := (hnone.2 hplan).2
        rw [hfollows.strategy, route_writes_iff] at hwrites
        omega
      · intro hbelow hclean
        rw [hrun, blockers_of_clean hspace hclean hfollows]
        rw [hfirst] at h ⊢
        exact h hbelow hclean

end

/-! ## On ASCII text -/

section

attribute [local instance] asciiRuntime

def plainTask : TaskEnvelope where
  taskId := "task"
  summary := "describe the modules"
  requestedAction := "describe"
  successCriteria := ["described"]
  repoRoot := some "/repository"
  branch := none
  worktreeClean := none
  targetBranches := []
  targetFiles := []
  targetModules := []
  taskClassHint := none
  riskHints := []

def plainPlan (sandbox : CodexCliSandboxMode) : CodexCliGovernancePlanLike :=
  ⟨sandbox, .never, none⟩

def plainRun (sandbox : CodexCliSandboxMode) (status : CodexCliObservationStatus) :
    CodexCliObservationInput where
  task := plainTask
  plan := plainPlan sandbox
  stage := "execution-completed"
  status
  eventCount := none
  parseErrorCount := none
  blockingReasons := none
  warnings := none
  error := none
  timedOut := none
  evidenceRef := none
  observedAt := "2026-01-01T00:00:00Z"
  createdAt := "2026-01-01T00:00:00Z"

lemma plainRun_clean (sandbox : CodexCliSandboxMode) : (plainRun sandbox .succeeded).Clean :=
  ⟨rfl, rfl, rfl, rfl, rfl, rfl⟩

lemma plainTask_below : StartsBelowCritical plainTask := by
  have hboth : ∀ sandbox,
      (scoreCodexCliGovernanceRisk plainTask (plainPlan sandbox)).finalRiskLevel ≠ .critical := by
    intro sandbox
    cases sandbox
    all_goals decide +kernel
  intro plan createdAt
  exact hboth plan.sandbox

theorem strikes_accounted_writing :
    StrikesAccounted plainTask [plainRun .workspaceWrite .succeeded] := by
  refine (strikes_accounted_iff (by decide) ?_).mpr ?_
  · intro input hinput
    rw [List.mem_singleton.mp hinput]
    rfl
  · intro _ _ first hfirst last hlast
    obtain rfl := Option.some.inj hfirst
    obtain rfl := Option.some.inj hlast
    decide +kernel

/-- One clean run that only reads locks the next plan that writes. -/
theorem strikes_not_accounted :
    getCodexCliGovernancePreRunBlockers (plainPlan .workspaceWrite)
      (runBundles [plainRun .readOnly .succeeded]) =
        [js "codex_cli_governance_lockdown_write_sandbox"] ∧
    ¬StrikesAccounted plainTask [plainRun .readOnly .succeeded] := by
  have hblocked : getCodexCliGovernancePreRunBlockers (plainPlan .workspaceWrite)
      (runBundles [plainRun .readOnly .succeeded]) =
        [js "codex_cli_governance_lockdown_write_sandbox"] := by
    decide +kernel
  refine ⟨hblocked, ?_⟩
  intro haccounted
  have hunlocked := haccounted.unlocked plainTask_below (by simp [plainRun_clean])
    (plainPlan .workspaceWrite)
  rw [hblocked] at hunlocked
  exact nomatch hunlocked

end

end CodexRouter.Cli
