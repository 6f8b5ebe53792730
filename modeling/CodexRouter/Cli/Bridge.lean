import CodexRouter.Cli.Strikes
import CodexRouter.Js.Result

/-!
# The bridge to the generic router

The CLI counts all anomalies together. The bridge numbers each anomaly by the anomalies of its own
status, and the generic router looks at the highest number.
-/

open Js

namespace CodexRouter.Cli
open Kernel (GovernanceRiskLevel)

/-! ## Generic states -/

structure AnomalyRecord where
  anomalyId : Str
  taskId : Str
  kind : Str
  message : Str
  strikeNumber : ℕ
  createdAt : Str

structure GovernanceRiskScore where
  entanglement : ℚ
  entropy : ℚ
  failureCost : ℚ
  reversibility : ℚ
  contextPressure : ℚ
  historicalTrust : ℚ
  globalCoherence : ℚ
  finalRiskLevel : GovernanceRiskLevel

/-- A state that the bridge builds has no approvals and no evidence. -/
structure GovernanceState where
  taskId : Str
  branchId : Str
  phase : CodexCliGovernancePhase
  centralOrder : ℚ
  distributedVitality : ℚ
  risk : GovernanceRiskScore
  anomalies : List AnomalyRecord
  taskGraphRef : Str
  latestCheckpointId : Option Str
  createdAt : Str
  updatedAt : Str

def bridgeAnomaly (taskId : Str) (entries : List CodexCliAnomalyEntry)
    (entry : CodexCliAnomalyEntry) : AnomalyRecord where
  anomalyId := entry.observationId
  taskId
  kind := entry.status.text
  message := (js "; ").intercalate entry.reasons
  strikeNumber := min 3 (entries.filter fun e => e.status = entry.status).length
  createdAt := entry.createdAt

def bridgeCliStateToGenericState (cliState : CodexCliGovernanceState) : GovernanceState where
  taskId := cliState.taskId
  branchId := cliState.branchId
  phase := cliState.phase
  centralOrder := 1 / 2
  distributedVitality := 1 / 2
  risk :=
    { entanglement := cliState.risk.entanglement
      entropy := cliState.risk.entropy
      failureCost := cliState.risk.failureCost
      reversibility := cliState.risk.reversibility
      contextPressure := cliState.risk.contextPressure
      historicalTrust := cliState.risk.historicalTrust
      globalCoherence := cliState.risk.globalCoherence
      finalRiskLevel := cliState.risk.finalRiskLevel }
  anomalies := cliState.anomalies.entries.map
    (bridgeAnomaly cliState.taskId cliState.anomalies.entries)
  taskGraphRef := js "task-graph:" ++ cliState.taskId
  latestCheckpointId := cliState.latestObservation.map (·.observationId)
  createdAt := cliState.createdAt
  updatedAt := cliState.updatedAt

/-! ## The generic router -/

inductive StrategyActionFamily where
  | execute | verify | simulate | stepBack | fork | abort
  deriving DecidableEq

inductive CheckpointCadence where
  | stage | primitive | riskBoundary
  deriving DecidableEq

structure AgentBudget where
  executor : ℕ
  verifier : ℕ
  shadow : Option ℕ

structure StrategyDecisionV2 where
  taskId : Str
  actionFamily : StrategyActionFamily
  verificationIntensity : VerificationIntensity
  checkpointCadence : CheckpointCadence
  agentBudget : AgentBudget
  reasons : List Str
  createdAt : Str

/-- What `StrategyDecisionV2Schema` asks beyond the types. -/
def StrategyDecisionV2.issues (decision : StrategyDecisionV2) : List Issue :=
  under "taskId" (nonEmpty decision.taskId) ++ under "createdAt" (nonEmpty decision.createdAt)

def parseStrategyDecisionV2 (decision : StrategyDecisionV2) : Result StrategyDecisionV2 :=
  parse StrategyDecisionV2.issues decision

/-- `Math.max(0, ...state.anomalies.map((item) => item.strikeNumber))`. -/
def maxStrike (state : GovernanceState) : ℕ := (state.anomalies.map (·.strikeNumber)).foldr max 0

/-- `routeStrategyV2({ state, now: () => now })`. -/
def routeStrategyV2 (state : GovernanceState) (now : Str) : Result StrategyDecisionV2 :=
  let risk := state.risk
  if maxStrike state ≥ 3 then
    parseStrategyDecisionV2
      { taskId := state.taskId
        actionFamily := .stepBack
        verificationIntensity := .strict
        checkpointCadence := .riskBoundary
        agentBudget := ⟨0, 1, some 1⟩
        reasons := [js "three_strikes_step_back"]
        createdAt := now }
  else if risk.finalRiskLevel = .critical then
    parseStrategyDecisionV2
      { taskId := state.taskId
        actionFamily := .simulate
        verificationIntensity := .strict
        checkpointCadence := .riskBoundary
        agentBudget := ⟨0, 1, some 1⟩
        reasons := [js "risk_level:critical"]
        createdAt := now }
  else if risk.finalRiskLevel = .high ∨ risk.entropy ≥ 6 / 10 ∨ risk.contextPressure ≥ 6 / 10 then
    parseStrategyDecisionV2
      { taskId := state.taskId
        actionFamily := .verify
        verificationIntensity := .standard
        checkpointCadence := .primitive
        agentBudget := ⟨1, 1, none⟩
        reasons := [js "risk_requires_verification"]
        createdAt := now }
  else
    parseStrategyDecisionV2
      { taskId := state.taskId
        actionFamily := .execute
        verificationIntensity := .light
        checkpointCadence := .stage
        agentBudget := ⟨1, 0, none⟩
        reasons := [js "risk_within_execution_bounds"]
        createdAt := now }

def isWriteExecutionAllowed (decision : StrategyDecisionV2) : Bool :=
  decision.actionFamily = .execute || decision.actionFamily = .verify

def bridgeRouteStrategyFromCliState (cliState : CodexCliGovernanceState) :
    Result StrategyDecisionV2 :=
  routeStrategyV2 (bridgeCliStateToGenericState cliState) cliState.updatedAt

/-! ## What the bridge decides -/

/-- Three anomalies are of one status. -/
def Thrice (statuses : List CodexCliObservationStatus) : Prop :=
  ∃ status ∈ statuses, 3 ≤ statuses.count status

lemma le_foldr_max {n : ℕ} (hn : 0 < n) (l : List ℕ) : n ≤ l.foldr max 0 ↔ ∃ k ∈ l, n ≤ k := by
  induction l with
  | nil =>
    simp only [List.foldr_nil, List.not_mem_nil, false_and, exists_false, iff_false]
    omega
  | cons k l ih => simp [ih]

lemma maxStrike_iff (cliState : CodexCliGovernanceState) :
    3 ≤ maxStrike (bridgeCliStateToGenericState cliState) ↔
      Thrice (cliState.anomalies.entries.map (·.status)) := by
  unfold maxStrike bridgeCliStateToGenericState Thrice
  rw [le_foldr_max (by decide), List.map_map]
  simp only [List.mem_map, exists_exists_and_eq_and]
  apply exists_congr
  intro entry
  apply and_congr_right
  intro _
  have hcount : (cliState.anomalies.entries.map (·.status)).count entry.status =
      (cliState.anomalies.entries.filter fun e => e.status = entry.status).length := by
    rw [List.count, List.countP_map, List.countP_eq_length_filter]
    rfl
  show 3 ≤ min 3 _ ↔ _
  rw [hcount, le_min_iff]
  exact and_iff_right le_rfl

/-- The decision of a state with names. -/
theorem bridgeRoute_spec {cliState : CodexCliGovernanceState} (htask : cliState.taskId ≠ [])
    (hupdated : cliState.updatedAt ≠ []) :
    ∃ decision, bridgeRouteStrategyFromCliState cliState = .ok decision
      ∧ (decision.actionFamily = .stepBack ↔
        Thrice (cliState.anomalies.entries.map (·.status)))
      ∧ (isWriteExecutionAllowed decision = false ↔
        Thrice (cliState.anomalies.entries.map (·.status))
          ∨ cliState.risk.finalRiskLevel = .critical) := by
  have hparse : ∀ decision : StrategyDecisionV2, decision.taskId = cliState.taskId →
      decision.createdAt = cliState.updatedAt → parseStrategyDecisionV2 decision = .ok decision := by
    intro decision hid hat
    unfold parseStrategyDecisionV2
    rw [parse_eq_ok]
    refine ⟨?_, rfl⟩
    unfold StrategyDecisionV2.issues
    rw [List.append_eq_nil_iff, under_eq_nil, under_eq_nil, nonEmpty_eq_nil, nonEmpty_eq_nil,
      hid, hat]
    exact ⟨htask, hupdated⟩
  have hrisk : (bridgeCliStateToGenericState cliState).risk.finalRiskLevel =
      cliState.risk.finalRiskLevel := rfl
  rw [← maxStrike_iff]
  unfold bridgeRouteStrategyFromCliState routeStrategyV2
  dsimp only
  rw [hrisk]
  split_ifs with hthrice hcritical hverify
  · exact ⟨_, hparse _ rfl rfl, iff_of_true rfl hthrice, iff_of_true rfl (.inl hthrice)⟩
  · exact ⟨_, hparse _ rfl rfl, iff_of_false nofun hthrice, iff_of_true rfl (.inr hcritical)⟩
  · exact ⟨_, hparse _ rfl rfl, iff_of_false nofun hthrice,
      iff_of_false nofun (not_or.mpr ⟨hthrice, hcritical⟩)⟩
  · exact ⟨_, hparse _ rfl rfl, iff_of_false nofun hthrice,
      iff_of_false nofun (not_or.mpr ⟨hthrice, hcritical⟩)⟩

/-! ## Agreement -/

/-- The bridge escalates where the CLI does. -/
structure BridgeAgrees (cliState : CodexCliGovernanceState) : Prop where
  stepBack : ∀ plan, (∃ decision, bridgeRouteStrategyFromCliState cliState = .ok decision
    ∧ decision.actionFamily = .stepBack) ↔
      (routeCodexCliStrategyV2 cliState.toCodexCliUnroutedState plan).action = .stepBack
  writes : ∀ plan, plan.sandbox = .workspaceWrite →
    (routeCodexCliStrategyV2 cliState.toCodexCliUnroutedState plan).writeSandboxAllowed = false →
      ∃ decision, bridgeRouteStrategyFromCliState cliState = .ok decision
        ∧ isWriteExecutionAllowed decision = false

lemma bridgeAgrees_iff {cliState : CodexCliGovernanceState} (htask : cliState.taskId ≠ [])
    (hupdated : cliState.updatedAt ≠ [])
    (hcount : cliState.anomalies.count = (cliState.anomalies.entries.map (·.status)).length) :
    BridgeAgrees cliState ↔
      (3 ≤ cliState.anomalies.count → Thrice (cliState.anomalies.entries.map (·.status)))
      ∧ (cliState.anomalies.count = 2 → cliState.risk.finalRiskLevel = .critical) := by
  obtain ⟨decision, hroute, hstepBack, hwrite⟩ := bridgeRoute_spec htask hupdated
  have hthree : Thrice (cliState.anomalies.entries.map (·.status)) →
      3 ≤ cliState.anomalies.count := by
    intro ⟨status, _, hstatus⟩
    rw [hcount]
    exact hstatus.trans List.count_le_length
  have hdecision : ∀ p : StrategyDecisionV2 → Prop,
      (∃ d, bridgeRouteStrategyFromCliState cliState = .ok d ∧ p d) ↔ p decision := by
    intro p
    rw [hroute]
    constructor
    · intro ⟨d, hd, hp⟩
      obtain rfl := Except.ok.inj hd
      exact hp
    · intro hp
      exact ⟨decision, rfl, hp⟩
  have hdenied : ∀ plan : CodexCliGovernancePlanLike, plan.sandbox = .workspaceWrite →
      ((routeCodexCliStrategyV2 cliState.toCodexCliUnroutedState plan).writeSandboxAllowed = false ↔
        2 ≤ cliState.anomalies.count
          ∨ (cliState.anomalies.count = 0 ∧ cliState.risk.finalRiskLevel = .critical)) := by
    intro plan hplan
    rw [← Bool.not_eq_true, route_writes_iff, hplan]
    by_cases hcritical : cliState.risk.finalRiskLevel = .critical <;> simp [hcritical] <;> omega
  constructor
  · intro h
    have hstep := h.stepBack ⟨.workspaceWrite, .never, none⟩
    rw [hdecision fun d => d.actionFamily = .stepBack, hstepBack, route_stepBack_iff] at hstep
    refine ⟨hstep.mpr, ?_⟩
    intro htwo
    have hwrites := h.writes ⟨.workspaceWrite, .never, none⟩ rfl ((hdenied _ rfl).mpr (.inl htwo.ge))
    rw [hdecision fun d => isWriteExecutionAllowed d = false, hwrite] at hwrites
    apply hwrites.resolve_left
    intro hthrice
    have hle := hthree hthrice
    omega
  · intro ⟨hthrice, htwo⟩
    refine ⟨?_, ?_⟩
    · intro plan
      rw [hdecision fun d => d.actionFamily = .stepBack, hstepBack, route_stepBack_iff]
      exact ⟨hthree, hthrice⟩
    · intro plan hplan hfalse
      rw [hdecision fun d => isWriteExecutionAllowed d = false, hwrite]
      rcases (hdenied plan hplan).mp hfalse with hstrikes | ⟨-, hcritical⟩
      · rcases hstrikes.eq_or_lt with hexact | hmore
        · exact .inr (htwo hexact.symm)
        · exact .inl (hthrice hmore)
      · exact .inr hcritical

section
variable [Runtime]

/-- The statuses of the anomalous observations of a chain. -/
def strikeStatuses (inputs : List CodexCliObservationInput) : List CodexCliObservationStatus :=
  (inputs.filter isStrike).map (·.status)

/-- Exact when three strikes are three of one status and two strikes are of critical risk. -/
theorem bridge_agrees_iff {task : TaskEnvelope} (hid : task.taskId ≠ [])
    {inputs : List CodexCliObservationInput} (htask : ∀ input ∈ inputs, input.task = task)
    (hclock : ∀ input ∈ inputs, input.observedAt ≠ []) {first : CodexCliObservationInput}
    (hfirst : inputs.head? = some first) {state : CodexCliGovernanceState}
    (hstate : runBundles inputs = some state) :
    BridgeAgrees state ↔
      (3 ≤ strikes inputs → Thrice (strikeStatuses inputs))
      ∧ (strikes inputs = 2 →
        85 / 100 ≤ (scoreCodexCliGovernanceRisk task first.plan).score + addedRisk 0 inputs) := by
  rcases List.eq_nil_or_concat inputs with rfl | ⟨init, input, rfl⟩
  · exact nomatch hfirst
  · rw [List.concat_eq_append] at *
    obtain ⟨state', hrun, hfollows⟩ := follows_runBundles init input
    rw [hrun] at hstate
    obtain rfl := Option.some.inj hstate
    rw [List.head?_eq_some_head (by simp)] at hfirst
    obtain rfl := Option.some.inj hfirst
    have hfirstTask := htask _ (List.head_mem (by simp))
    have hlength : state'.anomalies.count = (state'.anomalies.entries.map (·.status)).length := by
      rw [hfollows.count, hfollows.entries, List.length_map, strikes, List.countP_eq_length_filter]
    have hcritical : state'.risk.finalRiskLevel = .critical ↔
        85 / 100 ≤ (scoreCodexCliGovernanceRisk task
          ((init ++ [input]).head (by simp)).plan).score + addedRisk 0 (init ++ [input]) := by
      rw [hfollows.level, riskLevel_critical_iff, hfollows.score, hfirstTask, le_min_iff]
      exact and_iff_right (by norm_num)
    have hstateId : state'.taskId ≠ [] := by
      rw [hfollows.taskId, hfirstTask]
      exact hid
    have hstateUpdated : state'.updatedAt ≠ [] := by
      rw [hfollows.updatedAt]
      exact hclock input (by simp)
    rw [bridgeAgrees_iff hstateId hstateUpdated hlength, hcritical, hfollows.count,
      hfollows.entries]
    rfl

end

/-! ## On ASCII text -/

section

attribute [local instance] asciiRuntime

def failedThrice : List CodexCliObservationInput :=
  [plainRun .readOnly .failed, plainRun .readOnly .failed, plainRun .readOnly .failed]

def failedAndBlocked : List CodexCliObservationInput :=
  [plainRun .readOnly .failed, plainRun .readOnly .blocked, plainRun .readOnly .failed]

theorem bridge_agrees_failed_thrice :
    ∃ state, runBundles failedThrice = some state ∧ BridgeAgrees state := by
  have htask : ∀ input ∈ failedThrice, input.task = plainTask := by decide +kernel
  have hclock : ∀ input ∈ failedThrice, input.observedAt ≠ [] := by decide +kernel
  have hthrice : Thrice (strikeStatuses failedThrice) := by
    unfold Thrice
    decide +kernel
  have htwo : strikes failedThrice ≠ 2 := by decide +kernel
  cases hrun : runBundles failedThrice with
  | none =>
    have hsome : (runBundles failedThrice).isSome = true := by decide +kernel
    rw [hrun] at hsome
    exact nomatch hsome
  | some state =>
    exact ⟨state, rfl, (bridge_agrees_iff (by decide) htask hclock rfl hrun).mpr
      ⟨fun _ => hthrice, fun h => absurd h htwo⟩⟩

/-- Three strikes of two statuses are no third strike for the generic router. -/
theorem bridge_misses_third_strike :
    ∃ state, runBundles failedAndBlocked = some state
      ∧ (routeCodexCliStrategyV2 state.toCodexCliUnroutedState (plainPlan .readOnly)).action =
        .stepBack
      ∧ (∃ decision, bridgeRouteStrategyFromCliState state = .ok decision
        ∧ decision.actionFamily ≠ .stepBack)
      ∧ ¬BridgeAgrees state := by
  have hdecided : (runBundles failedAndBlocked).map (fun state =>
      ((routeCodexCliStrategyV2 state.toCodexCliUnroutedState (plainPlan .readOnly)).action,
        (bridgeRouteStrategyFromCliState state).toOption.map (·.actionFamily))) =
      some (.stepBack, some .simulate) := by
    decide +kernel
  cases hrun : runBundles failedAndBlocked with
  | none =>
    rw [hrun] at hdecided
    exact nomatch hdecided
  | some state =>
    rw [hrun, Option.map_some, Option.some.injEq, Prod.mk.injEq] at hdecided
    obtain ⟨haction, hbridge⟩ := hdecided
    obtain ⟨decision, hdecision, hfamily⟩ := Option.map_eq_some_iff.mp hbridge
    have hok : bridgeRouteStrategyFromCliState state = .ok decision := by
      cases hroute : bridgeRouteStrategyFromCliState state with
      | error e =>
        rw [hroute] at hdecision
        exact nomatch hdecision
      | ok other =>
        rw [hroute] at hdecision
        exact congrArg _ (Option.some.inj hdecision)
    have hother : decision.actionFamily ≠ .stepBack := by
      rw [hfamily]
      decide
    refine ⟨state, rfl, haction, ⟨decision, hok, hother⟩, ?_⟩
    intro hagrees
    obtain ⟨other, hotherOk, hstep⟩ := (hagrees.stepBack (plainPlan .readOnly)).mpr haction
    rw [hok] at hotherOk
    obtain rfl := Except.ok.inj hotherOk
    exact hother hstep

end

end CodexRouter.Cli
