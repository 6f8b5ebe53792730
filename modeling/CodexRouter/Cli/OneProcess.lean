import CodexRouter.Cli.Overlooked
import CodexRouter.Cli.Process
import CodexRouter.Cli.Reading

/-!
# A plan that is blocked

The model of a plan is probed before the plan is checked, so a plan that is blocked has started a
process exactly when its probe has.
-/

open Js

namespace CodexRouter.Cli

/-! ## Statements -/

def writtenStdout : List ChildEvent → Str
  | [] => []
  | .stdout chunk :: events => chunk ++ writtenStdout events
  | _ :: events => writtenStdout events

def ChildEvent.isTimeout : ChildEvent → Bool
  | .timeout .. => true
  | _ => false

section
variable [Runtime] (matchers : Matchers) (host : Host) (plan : CodexCliExecPlan)
  (options : CodexCliProcessRunOptions) (world : World)

/-- The child has closed with exit code 0, before any timeout, and what it had written by then is
accepted. -/
def ClosedWell (events : List ChildEvent) : Prop :=
  ∃ before signal after, events = before ++ .close (some 0) signal :: after ∧
    (options.hasTimeout = true → ∀ event ∈ before, event.isTimeout = false) ∧
    (inspectCodexCliCommandOutput matchers plan.inspectionOptions
      ⟨0, writtenStdout before, none⟩).status = .completed

/-- The name is on the allowlist, or is a name of the search path, or the variable is the key that is
given for one child. -/
def AllowedVariable (oneShotEnv : Option ProcessEnv) (entry : Str × Str) : Prop :=
  (host.toUpperCase entry.1 ∈ childEnvAllowlist ∧ host.toUpperCase entry.1 ∉ childEnvSecretKeys) ∨
    entry.1 = js "PATH" ∨ Runtime.toLowerCase entry.1 = js "path" ∨
    (host.toUpperCase entry.1 = js "CODEX_API_KEY" ∧
      (entry.1, some entry.2) ∈ oneShotEnv.getD [])

/-- Why the plan may not be run, whether or not governance is asked. -/
def planReasons : List Str :=
  let options := resolveCodexCliProcessRunOptions plan options
  validateCodexCliExecPlanForRun host.platform plan options.validation
    ++ getCodexCliGovernancePreRunBlockers plan.forGovernance options.previousState

structure StartsOneProcess : Prop where
  blocked : planReasons host plan options ≠ [] →
    (∃ thrown, (runCodexCliExecPlan matchers host plan options world).outcome = .thrown thrown) ∧
      (runCodexCliExecPlan matchers host plan options world).probeSpawns = [] ∧
      (runCodexCliExecPlan matchers host plan options world).spawns = []
  spawned : ∀ results,
    (runCodexCliExecPlan matchers host plan options world).outcome = .resolved results →
      ∃ call, (runCodexCliExecPlan matchers host plan options world).spawns = [call] ∧
        call.command = plan.command ∧ call.args = plan.args
  env : ∀ call ∈ (runCodexCliExecPlan matchers host plan options world).probeSpawns
      ++ (runCodexCliExecPlan matchers host plan options world).spawns,
    ∀ entry ∈ call.env, AllowedVariable host options.oneShotEnv entry
  once : ∀ results,
    (runCodexCliExecPlan matchers host plan options world).outcome = .resolved results →
      results.length ≤ 1
  completed : ∀ results,
    (runCodexCliExecPlan matchers host plan options world).outcome = .resolved results →
      ∀ result ∈ results, result.inspection.status = .completed →
        ∃ stdin events, world.child = .child stdin none events ∧
          ClosedWell matchers plan options events

/-- The spawner is called for the probe of the plan. -/
structure ProbeStarts : Prop where
  notSkipped : options.skipExecutionModelProbe ≠ some true
  notGiven : options.modelProbe = none
  notSwitchedOff : options.autoProbeModelWithCli ≠ some false
  named : ∃ model, plan.probedModel = some model ∧ cachedProbe host plan options world model = none ∧
    trim model ≠ [] ∧ ∃ probePlan,
      createCodexCliModelProbeExecPlan host.platform world.descriptors plan.command (trim model)
        (plan.workdir.getD host.cwd) = .ok probePlan ∧
      validateCodexCliExecPlanForRun host.platform probePlan
        (modelProbeRunOptions options).validation = []

/-- The plan is refused by what is asked of it, or by what stands in for its probe. -/
def Refused : Prop :=
  let options := resolveCodexCliProcessRunOptions plan options
  validationBlockers host plan options ≠ [] ∨
    match resolveCodexCliModelProbeForRun matchers host plan options world with
    | .thrown _ => True
    | .waiting _ => False
    | .answered _ evidence => getCodexCliModelProbeBlockingReasons evidence options ≠ []

end

/-! ## Environments -/

section
variable [Runtime] {host : Host}

omit [Runtime] in
lemma allowed_of_buildCodexCliChildEnv {baseEnv : ProcessEnv} {entry : Str × Str}
    (h : entry ∈ buildCodexCliChildEnv host baseEnv) :
    host.toUpperCase entry.1 ∈ childEnvAllowlist ∧ host.toUpperCase entry.1 ∉ childEnvSecretKeys := by
  obtain ⟨⟨key, value⟩, -, hentry⟩ := List.mem_filterMap.mp h
  dsimp only at hentry
  split at hentry
  case isTrue hallowed =>
    obtain ⟨value, -, rfl⟩ := Option.map_eq_some_iff.mp hentry
    exact hallowed
  case isFalse => exact nomatch hentry

omit [Runtime] in
lemma mem_oneShotVariables {oneShotEnv : ProcessEnv} {entry : Str × Str}
    (h : entry ∈ oneShotVariables host oneShotEnv) :
    host.toUpperCase entry.1 = js "CODEX_API_KEY" ∧ (entry.1, some entry.2) ∈ oneShotEnv := by
  obtain ⟨⟨key, value⟩, hmem, hentry⟩ := List.mem_filterMap.mp h
  dsimp only at hentry
  split at hentry
  case isTrue hallowed =>
    obtain ⟨value, rfl, rfl⟩ := Option.map_eq_some_iff.mp hentry
    exact ⟨List.mem_singleton.mp hallowed, hmem⟩
  case isFalse => exact nomatch hentry

lemma getWindowsPathEnvKey_lower {keys : List Str} {key : Str}
    (h : getWindowsPathEnvKey keys = some key) : Runtime.toLowerCase key = js "path" := by
  unfold getWindowsPathEnvKey at h
  simpa using List.find?_some h

/-- Only a name of the search path is set. -/
lemma mem_prependCodexCliWindowsHelperPath {childEnv : List (Str × Str)} {baseEnv : ProcessEnv}
    {helperPath : Str} {entry : Str × Str}
    (h : entry ∈ prependCodexCliWindowsHelperPath childEnv baseEnv helperPath) :
    entry.1 = js "PATH" ∨ Runtime.toLowerCase entry.1 = js "path" ∨ entry ∈ childEnv := by
  have hkey : ∀ pathKey, pathKey = ((getWindowsPathEnvKey (childEnv.map (·.1))).or
      (getWindowsPathEnvKey (baseEnv.map (·.1)))).getD "PATH" →
      pathKey = js "PATH" ∨ Runtime.toLowerCase pathKey = js "path" := by
    intro pathKey hpathKey
    cases hchild : getWindowsPathEnvKey (childEnv.map (·.1)) with
    | some key =>
      rw [hchild] at hpathKey
      exact .inr (hpathKey ▸ getWindowsPathEnvKey_lower hchild)
    | none =>
      rw [hchild] at hpathKey
      cases hbase : getWindowsPathEnvKey (baseEnv.map (·.1)) with
      | some key =>
        rw [hbase] at hpathKey
        exact .inr (hpathKey ▸ getWindowsPathEnvKey_lower hbase)
      | none =>
        rw [hbase] at hpathKey
        exact .inl hpathKey
  unfold prependCodexCliWindowsHelperPath at h
  dsimp only at h
  split at h
  · rcases Map.mem_assign h with rfl | hmem
    · exact (hkey _ rfl).imp_right .inl
    · exact .inr (.inr hmem)
  · rcases Map.mem_assign h with rfl | hmem
    · exact (hkey _ rfl).imp_right .inl
    · exact .inr (.inr hmem)

omit [Runtime] in
lemma mem_applyCodexCliOneShotEnv {childEnv : List (Str × Str)} {oneShotEnv : Option ProcessEnv}
    {entry : Str × Str} (h : entry ∈ applyCodexCliOneShotEnv host childEnv oneShotEnv) :
    entry ∈ oneShotVariables host (oneShotEnv.getD []) ∨ entry ∈ childEnv := by
  unfold applyCodexCliOneShotEnv at h
  generalize oneShotVariables host (oneShotEnv.getD []) = entries at h
  induction entries generalizing childEnv with
  | nil => exact .inr h
  | cons head entries ih =>
    rcases ih h with hmem | hmem
    · exact .inl (List.mem_cons_of_mem _ hmem)
    · rcases Map.mem_assign hmem with rfl | hmem
      · exact .inl List.mem_cons_self
      · exact .inr hmem

lemma allowed_of_resolveCodexCliSpawnEnv {command : Str} {baseEnv oneShotEnv : Option ProcessEnv}
    {entry : Str × Str} (h : entry ∈ resolveCodexCliSpawnEnv host command baseEnv oneShotEnv) :
    AllowedVariable host oneShotEnv entry := by
  unfold resolveCodexCliSpawnEnv at h
  rcases mem_applyCodexCliOneShotEnv h with hshot | hchild
  · exact .inr (.inr (.inr (mem_oneShotVariables hshot)))
  · split at hchild
    · rcases mem_prependCodexCliWindowsHelperPath hchild with hpath | hpath | hmem
      · exact .inr (.inl hpath)
      · exact .inr (.inr (.inl hpath))
      · exact .inl (allowed_of_buildCodexCliChildEnv hmem)
    · exact .inl (allowed_of_buildCodexCliChildEnv hchild)

end

/-! ## Children -/

section
variable [Runtime] {matchers : Matchers} {host : Host} {plan : CodexCliExecPlan}
  {options : CodexCliProcessRunOptions} {modelProbe : Option CodexCliModelCliProbeEvidence}

omit [Runtime] in
lemma writtenStdout_append (left right : List ChildEvent) :
    writtenStdout (left ++ right) = writtenStdout left ++ writtenStdout right := by
  induction left with
  | nil => rfl
  | cons event left ih =>
    cases event with
    | stdout chunk =>
      change chunk ++ writtenStdout (left ++ right) = chunk ++ writtenStdout left ++ _
      rw [ih, List.append_assoc]
    | _ => exact ih

lemma ClosedWell.append {events : List ChildEvent} (h : ClosedWell matchers plan options events)
    (more : List ChildEvent) : ClosedWell matchers plan options (events ++ more) := by
  obtain ⟨before, signal, after, rfl, hrest⟩ := h
  exact ⟨before, signal, after ++ more, by rw [List.append_assoc, List.cons_append], hrest⟩

/-- What a result that completes was made of. -/
lemma completed_of_createResult {lifecycle : CodexCliProcessLifecycle}
    {output : CodexCliCommandOutput} {error : Option Str}
    (h : (createResult matchers host plan options modelProbe lifecycle output error).inspection.status
      = .completed) :
    output.exitCode = 0 ∧ lifecycle.termination.timedOut = false ∧
      (inspectCodexCliCommandOutput matchers plan.inspectionOptions
        ⟨0, output.stdout, none⟩).status = .completed := by
  unfold createResult at h
  dsimp only at h
  rw [ite_eq_left_iff] at h
  obtain ⟨hreasons, htimedOut, -⟩ := not_not.mp fun hne => absurd (h hne) (by decide)
  have hexit : output.exitCode = 0 := by
    have hexit := (List.append_eq_nil_iff.mp (List.append_eq_nil_iff.mp hreasons).1).1
    simpa using hexit
  refine ⟨hexit, htimedOut, ?_⟩
  unfold inspectCodexCliCommandOutput at hreasons ⊢
  rw [hexit] at hreasons
  exact if_pos hreasons

/-- What the listeners and the timers know of the events so far. -/
structure ChildState.Known (matchers : Matchers) (plan : CodexCliExecPlan)
    (options : CodexCliProcessRunOptions) (events : List ChildEvent) (s : ChildState) : Prop where
  stdout : s.stdout = writtenStdout events
  unresolved : s.settled = false → s.resolved = []
  armed : s.settled = false → s.lifecycle.termination.timedOut = false →
    s.timeoutArmed = options.hasTimeout ∧
      (options.hasTimeout = true → ∀ event ∈ events, event.isTimeout = false)
  once : s.resolved.length ≤ 1
  completed : ∀ result ∈ s.resolved, result.inspection.status = .completed →
    ClosedWell matchers plan options events

namespace ChildState

lemma settle_known {events : List ChildEvent} {s : ChildState} {output : CodexCliCommandOutput}
    {error : Option Str} (h : s.Known matchers plan options events)
    (hclosed : output.exitCode = 0 → s.lifecycle.termination.timedOut = false →
      s.settled = false → (inspectCodexCliCommandOutput matchers plan.inspectionOptions
        ⟨0, output.stdout, none⟩).status = .completed → ClosedWell matchers plan options events) :
    (s.settle matchers host plan options modelProbe output error).Known matchers plan options
      events := by
  unfold settle
  split
  · exact h
  · have hunsettled : s.settled = false := by simpa using ‹¬s.settled = true›
    have hnone := h.unresolved hunsettled
    refine ⟨h.stdout, (nomatch ·), (nomatch ·), ?_, ?_⟩
    · rw [hnone]
      exact Nat.le_refl 1
    · intro result hresult hcompleted
      rw [hnone, List.nil_append, List.mem_singleton] at hresult
      subst hresult
      obtain ⟨hexit, htimedOut, haccepted⟩ := completed_of_createResult hcompleted
      exact hclosed hexit htimedOut hunsettled haccepted

/-- Once the timeout has fired, a state stays as far from completion as before. -/
lemma Known.terminate {events : List ChildEvent} {s : ChildState}
    {update : TerminationLifecycle → TerminationLifecycle}
    (h : s.Known matchers plan options events)
    (htimedOut : ∀ t, (update t).timedOut = false → t.timedOut = false) :
    (s.terminate update).Known matchers plan options events :=
  ⟨h.stdout, h.unresolved, fun hs ht => h.armed hs (htimedOut _ ht), h.once, h.completed⟩

lemma settle_known_of_exitCode {events : List ChildEvent} {s : ChildState}
    {output : CodexCliCommandOutput} {error : Option Str}
    (h : s.Known matchers plan options events) (hexit : output.exitCode = 1) :
    (s.settle matchers host plan options modelProbe output error).Known matchers plan options
      events :=
  settle_known h fun hzero => by
    rw [hexit] at hzero
    exact absurd hzero (by decide)

lemma forceSettle_known {events : List ChildEvent} {s : ChildState} {forced : ForcedAnswer}
    (h : s.Known matchers plan options events) :
    (s.forceSettleAfterTimeout matchers host plan options modelProbe forced).Known matchers plan
      options events := by
  unfold forceSettleAfterTimeout
  split
  · exact h
  · have hforced : (s.terminate fun t =>
        { t with forcedSettled := true, escalated := true,
                 escalationSignal := some .sigkill }).Known matchers plan options events :=
      h.terminate fun _ => id
    dsimp only
    split
    · exact hforced
    · apply settle_known_of_exitCode _ rfl
      exact hforced.terminate fun _ => id

/-- The events so far with one that is no timeout that fires. -/
lemma Known.snoc {events : List ChildEvent} {s : ChildState} {event : ChildEvent}
    (h : s.Known matchers plan options events) (hstdout : writtenStdout [event] = [])
    (htimeout : event.isTimeout = false ∨ options.hasTimeout = false) :
    s.Known matchers plan options (events ++ [event]) := by
  refine ⟨?_, h.unresolved, ?_, h.once, ?_⟩
  · rw [writtenStdout_append, hstdout, List.append_nil]
    exact h.stdout
  · intro hsettled htimedOut
    obtain ⟨harmed, hnone⟩ := h.armed hsettled htimedOut
    refine ⟨harmed, ?_⟩
    intro hset other hother
    rcases List.mem_append.mp hother with hother | hother
    · exact hnone hset other hother
    · rw [List.mem_singleton.mp hother]
      exact htimeout.resolve_right (by simp [hset])
  · intro result hresult hcompleted
    exact (h.completed result hresult hcompleted).append _

/-- A state that has timed out or that has settled is not asked about timeouts any more. -/
lemma Known.snoc_of_over {events : List ChildEvent} {s : ChildState} {event : ChildEvent}
    (h : s.Known matchers plan options events) (hstdout : writtenStdout [event] = [])
    (hover : s.settled = false → s.lifecycle.termination.timedOut = true) :
    s.Known matchers plan options (events ++ [event]) := by
  refine ⟨?_, h.unresolved, ?_, h.once, ?_⟩
  · rw [writtenStdout_append, hstdout, List.append_nil]
    exact h.stdout
  · intro hsettled htimedOut
    rw [hover hsettled] at htimedOut
    exact nomatch htimedOut
  · intro result hresult hcompleted
    exact (h.completed result hresult hcompleted).append _

lemma onTimeout_known {events : List ChildEvent} {s : ChildState} {killed : Option Bool}
    {forced : ForcedAnswer} (h : s.Known matchers plan options events) :
    (s.onTimeout matchers host plan options modelProbe killed forced).Known matchers plan options
      (events ++ [.timeout killed forced]) := by
  have hfired : (terminate { s with timeoutArmed := false } fun t =>
      { t with timedOut := true, killRequested := true,
               killSignal := some .sigterm }).Known matchers plan options
      (events ++ [.timeout killed forced]) := by
    refine ⟨?_, h.unresolved, fun _ => (nomatch ·), h.once, ?_⟩
    · rw [writtenStdout_append]
      exact h.stdout.trans (List.append_nil _).symm
    · intro result hresult hcompleted
      exact (h.completed result hresult hcompleted).append _
  unfold onTimeout
  dsimp only
  split
  · exact hfired
  · split
    · apply forceSettle_known
      exact hfired.terminate fun _ => id
    · exact ⟨hfired.stdout, hfired.unresolved, fun _ => (nomatch ·), hfired.once,
        hfired.completed⟩

lemma onClose_known {events : List ChildEvent} {s : ChildState} {code : Option ℤ}
    {signal : Option Str} (h : s.Known matchers plan options events) :
    (s.onClose matchers host plan options modelProbe code signal).Known matchers plan options
      (events ++ [.close code signal]) := by
  unfold onClose
  apply settle_known
  · exact (h.snoc rfl (.inl rfl)).terminate fun _ => id
  · intro hexit htimedOut hsettled haccepted
    have hexit : code.getD 1 = 0 := hexit
    have hcode : code = some 0 := by
      cases code with
      | none => exact absurd hexit (by decide)
      | some code => exact congrArg some hexit
    subst hcode
    refine ⟨events, signal, [], rfl, ?_, ?_⟩
    · intro hset
      exact (h.armed hsettled htimedOut).2 hset
    · rw [← h.stdout]
      exact haccepted

lemma step_known {events : List ChildEvent} {s : ChildState}
    (h : s.Known matchers plan options events) (event : ChildEvent) :
    (s.step matchers host plan options modelProbe event).Known matchers plan options
      (events ++ [event]) := by
  unfold step
  cases event with
  | stdout chunk =>
    refine ⟨?_, h.unresolved, ?_, h.once, ?_⟩
    · rw [writtenStdout_append, ← h.stdout]
      exact congrArg (s.stdout ++ ·) (List.append_nil chunk).symm
    · intro hsettled htimedOut
      obtain ⟨harmed, hnone⟩ := h.armed hsettled htimedOut
      refine ⟨harmed, ?_⟩
      intro hset other hother
      rcases List.mem_append.mp hother with hother | hother
      · exact hnone hset other hother
      · rw [List.mem_singleton.mp hother]
        rfl
    · intro result hresult hcompleted
      exact (h.completed result hresult hcompleted).append _
  | stderr chunk =>
    have hsame : s.Known matchers plan options (events ++ [.stderr chunk]) := h.snoc rfl (.inl rfl)
    exact ⟨hsame.stdout, hsame.unresolved, hsame.armed, hsame.once, hsame.completed⟩
  | error message =>
    apply settle_known_of_exitCode _ rfl
    exact h.snoc rfl (.inl rfl)
  | close code signal => exact onClose_known h
  | timeout killed forced =>
    dsimp only
    split
    case isTrue => exact onTimeout_known h
    case isFalse hunarmed =>
      by_cases hover : s.settled = false → s.lifecycle.termination.timedOut = true
      · exact h.snoc_of_over rfl hover
      · obtain ⟨hsettled, htimedOut⟩ := Classical.not_imp.mp hover
        apply h.snoc rfl (.inr _)
        rw [← (h.armed hsettled (by simpa using htimedOut)).1]
        simpa using hunarmed
  | grace forced =>
    have hsame : s.Known matchers plan options (events ++ [.grace forced]) := h.snoc rfl (.inl rfl)
    dsimp only
    split
    · apply forceSettle_known
      exact ⟨hsame.stdout, hsame.unresolved, hsame.armed, hsame.once, hsame.completed⟩
    · exact hsame

lemma foldl_known {events : List ChildEvent} {s : ChildState}
    (h : s.Known matchers plan options events) (more : List ChildEvent) :
    (more.foldl (step matchers host plan options modelProbe) s).Known matchers plan options
      (events ++ more) := by
  induction more generalizing events s with
  | nil => rwa [List.append_nil]
  | cons event more ih =>
    rw [← List.singleton_append, ← List.append_assoc]
    exact ih (step_known h event)

lemma started_known (stdin : StdinAnswer) :
    (started matchers options stdin).Known matchers plan options [] where
  stdout := rfl
  unresolved _ := rfl
  armed _ _ := ⟨rfl, fun _ _ h => nomatch h⟩
  once := Nat.zero_le 1
  completed _ h := nomatch h

end ChildState

/-- A call resolves at most once, and completed only where the child has closed well. -/
lemma resolved_of_awaitChild {spawned : Spawned} {results : List CodexCliProcessRunResult}
    (h : awaitChild matchers host plan options modelProbe spawned = .resolved results) :
    results.length ≤ 1 ∧ ∀ result ∈ results, result.inspection.status = .completed →
      ∃ stdin events, spawned = .child stdin none events ∧
        ClosedWell matchers plan options events := by
  unfold awaitChild at h
  split at h
  · obtain rfl := Outcome.resolved.inj h
    refine ⟨Nat.le_refl 1, ?_⟩
    intro result hresult hcompleted
    rw [List.mem_singleton] at hresult
    subst hresult
    have hexit : (1 : ℤ) = 0 := (completed_of_createResult hcompleted).1
    exact absurd hexit (by decide)
  · exact nomatch h
  case h_3 stdin events =>
    obtain rfl := Outcome.resolved.inj h
    have hstarted : (ChildState.started matchers options stdin).Known matchers plan options [] :=
      ChildState.started_known stdin
    have hknown := @ChildState.foldl_known _ _ host _ _ modelProbe _ _ hstarted events
    refine ⟨hknown.once, ?_⟩
    intro result hresult hcompleted
    exact ⟨stdin, events, rfl, hknown.completed result hresult hcompleted⟩

/-! ## Probes -/

lemma runProbedPlan_blocked {spawned : Spawned} (h : validationBlockers host plan options
      ++ getCodexCliModelProbeBlockingReasons modelProbe options ≠ []) :
    (∃ thrown, (runProbedPlan matchers host plan options modelProbe spawned).outcome
      = .thrown thrown) ∧
      (runProbedPlan matchers host plan options modelProbe spawned).spawns = [] := by
  unfold runProbedPlan
  dsimp only
  rw [if_pos h]
  exact ⟨⟨_, rfl⟩, rfl⟩

lemma runProbedPlan_spawned {spawned : Spawned} (h : validationBlockers host plan options
      ++ getCodexCliModelProbeBlockingReasons modelProbe options = []) :
    runProbedPlan matchers host plan options modelProbe spawned =
      ⟨[], [spawnCall host plan options],
        awaitChild matchers host plan options modelProbe spawned⟩ := by
  unfold runProbedPlan
  dsimp only
  rw [if_neg (not_not.mpr h)]

/-- The calls of the spawner that a probe has made. -/
def Probed.spawns : Probed → List SpawnCall
  | thrown _ => []
  | waiting spawns => spawns
  | answered spawns _ => spawns

lemma ranProbe_spawns {strict : Bool} {model : Str} {run : Run} :
    (ranProbe strict model run).spawns = run.spawns := by
  unfold ranProbe
  split <;> rfl

lemma validationBlockers_probe (probePlan : CodexCliExecPlan) :
    validationBlockers host probePlan (modelProbeRunOptions options) =
      validateCodexCliExecPlanForRun host.platform probePlan
        (modelProbeRunOptions options).validation :=
  List.append_nil _

variable {world : World}

lemma probeEvidence_spawns {command cwd model : Str} {strict : Bool} :
    (createCodexCliModelCliProbeEvidence matchers host options world command cwd model
        strict).spawns ≠ [] ↔
      trim model ≠ [] ∧ ∃ probePlan,
        createCodexCliModelProbeExecPlan host.platform world.descriptors command (trim model) cwd
          = .ok probePlan ∧
        validateCodexCliExecPlanForRun host.platform probePlan
          (modelProbeRunOptions options).validation = [] := by
  unfold createCodexCliModelCliProbeEvidence
  dsimp only
  by_cases hblank : trim model = []
  · rw [if_pos hblank]
    exact ⟨fun h => absurd rfl h, fun h => absurd hblank h.1⟩
  · rw [if_neg hblank]
    cases hplan : createCodexCliModelProbeExecPlan host.platform world.descriptors command
        (trim model) cwd with
    | error thrown =>
      refine ⟨fun h => absurd rfl h, ?_⟩
      intro ⟨_, _, hsome, _⟩
      exact nomatch hsome
    | ok probePlan =>
      dsimp only
      rw [ranProbe_spawns]
      by_cases hvalid : validateCodexCliExecPlanForRun host.platform probePlan
          (modelProbeRunOptions options).validation = []
      · have hblockers : validationBlockers host probePlan (modelProbeRunOptions options)
            ++ getCodexCliModelProbeBlockingReasons none (modelProbeRunOptions options) = [] := by
          rw [validationBlockers_probe, hvalid]
          rfl
        rw [runProbedPlan_spawned hblockers]
        exact ⟨fun _ => ⟨hblank, probePlan, rfl, hvalid⟩, fun _ => List.cons_ne_nil _ _⟩
      · have hblockers : validationBlockers host probePlan (modelProbeRunOptions options)
            ++ getCodexCliModelProbeBlockingReasons none (modelProbeRunOptions options) ≠ [] := by
          rw [validationBlockers_probe]
          exact List.append_ne_nil_of_left_ne_nil hvalid _
        rw [(runProbedPlan_blocked hblockers).2]
        refine ⟨fun h => absurd rfl h, ?_⟩
        intro ⟨_, other, hother, hvalidOther⟩
        rw [← Except.ok.inj hother] at hvalidOther
        exact absurd hvalidOther hvalid

omit [Runtime] in
/-- The options of a run whose plan names a model. -/
lemma resolved_of_probedModel {model : Str} (hskip : options.skipExecutionModelProbe ≠ some true)
    (hmodel : plan.probedModel = some model) :
    resolveCodexCliProcessRunOptions plan options =
      { options with
        autoProbeModelWithCli := options.autoProbeModelWithCli.getD true
        requireModelProbe := options.requireModelProbe.getD true } := by
  unfold resolveCodexCliProcessRunOptions
  rw [if_neg hskip, hmodel]

omit [Runtime] in
/-- What does not depend on the options that a run resolves. -/
lemma resolved_same :
    (resolveCodexCliProcessRunOptions plan options).hasTimeout = options.hasTimeout ∧
      (resolveCodexCliProcessRunOptions plan options).env = options.env ∧
      (resolveCodexCliProcessRunOptions plan options).oneShotEnv = options.oneShotEnv := by
  unfold resolveCodexCliProcessRunOptions
  split
  · exact ⟨rfl, rfl, rfl⟩
  · split <;> exact ⟨rfl, rfl, rfl⟩

/-- The probe calls the spawner exactly where it starts. -/
lemma probe_spawns : (resolveCodexCliModelProbeForRun matchers host plan
      (resolveCodexCliProcessRunOptions plan options) world).spawns ≠ [] ↔
    ProbeStarts host plan options world := by
  by_cases hskip : options.skipExecutionModelProbe = some true
  · have hresolved : resolveCodexCliProcessRunOptions plan options = options := if_pos hskip
    rw [hresolved]
    unfold resolveCodexCliModelProbeForRun
    rw [if_pos hskip]
    exact ⟨fun h => absurd rfl h, fun h => absurd hskip h.notSkipped⟩
  cases hmodel : plan.probedModel with
  | none =>
    constructor
    · intro h
      unfold resolveCodexCliModelProbeForRun at h
      rw [hmodel] at h
      split_ifs at h <;> exact absurd rfl h
    · intro h
      obtain ⟨model, hnamed, -⟩ := h.named
      rw [hmodel] at hnamed
      cases hnamed
  | some model =>
    rw [resolved_of_probedModel hskip hmodel]
    unfold resolveCodexCliModelProbeForRun
    dsimp only
    rw [if_neg hskip, hmodel]
    by_cases hgiven : options.modelProbe.isSome = true
    · rw [if_pos hgiven]
      refine ⟨fun h => absurd rfl h, ?_⟩
      intro h
      rw [h.notGiven] at hgiven
      cases hgiven
    rw [if_neg hgiven]
    have hnotGiven : options.modelProbe = none := by simpa using hgiven
    by_cases hauto : options.autoProbeModelWithCli = some false
    · rw [hauto]
      rw [if_pos (by decide)]
      exact ⟨fun h => absurd rfl h, fun h => absurd hauto h.notSwitchedOff⟩
    have hon : some (options.autoProbeModelWithCli.getD true) = some true := by
      cases hvalue : options.autoProbeModelWithCli with
      | none => rfl
      | some value =>
        rw [hvalue] at hauto
        cases value with
        | true => rfl
        | false => exact absurd rfl hauto
    have hcache : cachedProbe host plan
        { options with
          autoProbeModelWithCli := options.autoProbeModelWithCli.getD true
          requireModelProbe := options.requireModelProbe.getD true } world model =
        cachedProbe host plan options world model := rfl
    rw [if_neg (not_not.mpr hon)]
    dsimp only
    rw [hcache]
    cases hcached : cachedProbe host plan options world model with
    | some evidence =>
      refine ⟨fun h => absurd rfl h, ?_⟩
      intro h
      obtain ⟨other, hother, hnone, -⟩ := h.named
      rw [hmodel] at hother
      obtain rfl := Option.some.inj hother
      rw [hcached] at hnone
      cases hnone
    | none =>
      dsimp only
      rw [probeEvidence_spawns]
      constructor
      · rintro ⟨hblank, probePlan, hplan, hvalid⟩
        exact ⟨hskip, hnotGiven, hauto, model, hmodel, hcached, hblank, probePlan, hplan, hvalid⟩
      · intro h
        obtain ⟨other, hother, -, hblank, probePlan, hplan, hvalid⟩ := h.named
        rw [hmodel] at hother
        obtain rfl := Option.some.inj hother
        exact ⟨hblank, probePlan, hplan, hvalid⟩

/-! ## Runs -/

lemma eq_spawnCall_of_mem {spawned : Spawned} {call : SpawnCall}
    (h : call ∈ (runProbedPlan matchers host plan options modelProbe spawned).spawns) :
    call = spawnCall host plan options := by
  unfold runProbedPlan at h
  dsimp only at h
  split at h
  · exact nomatch h
  · exact List.mem_singleton.mp h

lemma allowed_of_runProbedPlan {spawned : Spawned} {call : SpawnCall}
    (h : call ∈ (runProbedPlan matchers host plan options modelProbe spawned).spawns) :
    ∀ entry ∈ call.env, AllowedVariable host options.oneShotEnv entry := by
  intro entry hentry
  rw [eq_spawnCall_of_mem h] at hentry
  exact allowed_of_resolveCodexCliSpawnEnv hentry

lemma allowed_of_probe {call : SpawnCall}
    (h : call ∈ (resolveCodexCliModelProbeForRun matchers host plan options world).spawns) :
    ∀ entry ∈ call.env, AllowedVariable host options.oneShotEnv entry := by
  unfold resolveCodexCliModelProbeForRun at h
  split_ifs at h
  · exact nomatch h
  · exact nomatch h
  · exact nomatch h
  · split at h
    · exact nomatch h
    · split at h
      · exact nomatch h
      · unfold createCodexCliModelCliProbeEvidence at h
        dsimp only at h
        split_ifs at h
        · exact nomatch h
        · split at h
          · exact nomatch h
          · rw [ranProbe_spawns] at h
            have hcall : ∀ entry ∈ call.env,
                AllowedVariable host (modelProbeRunOptions options).oneShotEnv entry :=
              allowed_of_runProbedPlan h
            exact hcall

omit [Runtime] in
lemma closedWell_resolved [Runtime] {events : List ChildEvent}
    (h : ClosedWell matchers plan (resolveCodexCliProcessRunOptions plan options) events) :
    ClosedWell matchers plan options events := by
  obtain ⟨before, signal, after, hevents, htimeout, haccepted⟩ := h
  rw [resolved_same.1] at htimeout
  exact ⟨before, signal, after, hevents, htimeout, haccepted⟩

/-- What the checks of a run make of the reasons against its plan. -/
lemma planReasons_of_blocked
    (h : validationBlockers host plan (resolveCodexCliProcessRunOptions plan options) ≠ []) :
    planReasons host plan options ≠ [] := by
  unfold validationBlockers at h
  split at h
  · exact h
  · rw [List.append_nil] at h
    exact List.append_ne_nil_of_left_ne_nil h _

lemma run_thrown {thrown : Thrown} (h : resolveCodexCliModelProbeForRun matchers host plan
      (resolveCodexCliProcessRunOptions plan options) world = .thrown thrown) :
    runCodexCliExecPlan matchers host plan options world = ⟨[], [], .thrown thrown⟩ := by
  unfold runCodexCliExecPlan
  dsimp only
  rw [h]

lemma run_waiting {spawns : List SpawnCall} (h : resolveCodexCliModelProbeForRun matchers host plan
      (resolveCodexCliProcessRunOptions plan options) world = .waiting spawns) :
    runCodexCliExecPlan matchers host plan options world = ⟨spawns, [], .probing⟩ := by
  unfold runCodexCliExecPlan
  dsimp only
  rw [h]

lemma run_answered {spawns : List SpawnCall} (h : resolveCodexCliModelProbeForRun matchers host plan
      (resolveCodexCliProcessRunOptions plan options) world = .answered spawns modelProbe) :
    runCodexCliExecPlan matchers host plan options world =
      ⟨spawns,
        (runProbedPlan matchers host plan (resolveCodexCliProcessRunOptions plan options) modelProbe
          world.child).spawns,
        (runProbedPlan matchers host plan (resolveCodexCliProcessRunOptions plan options) modelProbe
          world.child).outcome⟩ := by
  unfold runCodexCliExecPlan
  dsimp only
  rw [h]

/-- A probe that is waited for has started. -/
lemma spawns_of_waiting {spawns : List SpawnCall} (h : resolveCodexCliModelProbeForRun matchers host
      plan options world = .waiting spawns) : spawns ≠ [] := by
  unfold resolveCodexCliModelProbeForRun at h
  split_ifs at h
  split at h
  · exact nomatch h
  split at h
  · exact nomatch h
  unfold createCodexCliModelCliProbeEvidence at h
  dsimp only at h
  split_ifs at h
  split at h
  · exact nomatch h
  case _ probePlan _ =>
    unfold ranProbe at h
    by_cases hblockers : validationBlockers host probePlan (modelProbeRunOptions options)
        ++ getCodexCliModelProbeBlockingReasons none (modelProbeRunOptions options) = []
    · rw [runProbedPlan_spawned hblockers] at h
      dsimp only at h
      split at h
      · exact nomatch h
      · rw [← Probed.waiting.inj h]
        exact List.cons_ne_nil _ _
      · rw [← Probed.waiting.inj h]
        exact List.cons_ne_nil _ _
      · exact nomatch h
    · obtain ⟨thrown, hthrown⟩ :=
        (@runProbedPlan_blocked _ matchers _ _ _ _ world.probeChild hblockers).1
      rw [hthrown] at h
      exact nomatch h

/-- Where a run has resolved, its plan was not blocked. -/
lemma answered_of_resolved {results : List CodexCliProcessRunResult}
    (h : (runCodexCliExecPlan matchers host plan options world).outcome = .resolved results) :
    ∃ spawns modelProbe, runCodexCliExecPlan matchers host plan options world =
      ⟨spawns, [spawnCall host plan (resolveCodexCliProcessRunOptions plan options)],
        .resolved results⟩ ∧
      awaitChild matchers host plan (resolveCodexCliProcessRunOptions plan options) modelProbe
        world.child = .resolved results := by
  cases hresolve : resolveCodexCliModelProbeForRun matchers host plan
      (resolveCodexCliProcessRunOptions plan options) world with
  | thrown _ =>
    rw [run_thrown hresolve] at h
    exact nomatch h
  | waiting _ =>
    rw [run_waiting hresolve] at h
    exact nomatch h
  | answered spawns modelProbe =>
    rw [run_answered hresolve] at h ⊢
    dsimp only at h
    by_cases hblockers : validationBlockers host plan
        (resolveCodexCliProcessRunOptions plan options)
        ++ getCodexCliModelProbeBlockingReasons modelProbe
          (resolveCodexCliProcessRunOptions plan options) = []
    · rw [runProbedPlan_spawned hblockers] at h ⊢
      dsimp only at h ⊢
      rw [h]
      exact ⟨spawns, modelProbe, rfl, h⟩
    · obtain ⟨thrown, hthrown⟩ := (@runProbedPlan_blocked _ matchers _ _ _ _ world.child hblockers).1
      rw [hthrown] at h
      exact nomatch h

lemma env_of_run : ∀ call ∈ (runCodexCliExecPlan matchers host plan options world).probeSpawns
      ++ (runCodexCliExecPlan matchers host plan options world).spawns,
    ∀ entry ∈ call.env, AllowedVariable host options.oneShotEnv entry := by
  intro call hcall
  rw [← (@resolved_same plan options).2.2]
  cases hresolve : resolveCodexCliModelProbeForRun matchers host plan
      (resolveCodexCliProcessRunOptions plan options) world with
  | thrown _ =>
    rw [run_thrown hresolve] at hcall
    exact nomatch hcall
  | waiting spawns =>
    rw [run_waiting hresolve, List.append_nil] at hcall
    apply @allowed_of_probe _ matchers _ plan _ world
    rw [hresolve]
    exact hcall
  | answered spawns modelProbe =>
    rw [run_answered hresolve] at hcall
    dsimp only at hcall
    rcases List.mem_append.mp hcall with hcall | hcall
    · apply @allowed_of_probe _ matchers _ plan _ world
      rw [hresolve]
      exact hcall
    · exact allowed_of_runProbedPlan hcall

/-- The part of what a run is to do that it always does. -/
lemma startsOneProcess_of_blocked
    (h : planReasons host plan options ≠ [] →
      (∃ thrown, (runCodexCliExecPlan matchers host plan options world).outcome = .thrown thrown) ∧
        (runCodexCliExecPlan matchers host plan options world).probeSpawns = [] ∧
        (runCodexCliExecPlan matchers host plan options world).spawns = []) :
    StartsOneProcess matchers host plan options world := by
  refine ⟨h, ?_, env_of_run, ?_, ?_⟩
  · intro results hresults
    obtain ⟨spawns, modelProbe, hrun, -⟩ := answered_of_resolved hresults
    rw [hrun]
    exact ⟨_, rfl, rfl, rfl⟩
  · intro results hresults
    obtain ⟨spawns, modelProbe, -, hawait⟩ := answered_of_resolved hresults
    exact (resolved_of_awaitChild hawait).1
  · intro results hresults result hresult hcompleted
    obtain ⟨spawns, modelProbe, -, hawait⟩ := answered_of_resolved hresults
    obtain ⟨stdin, events, hchild, hclosed⟩ :=
      (resolved_of_awaitChild hawait).2 result hresult hcompleted
    exact ⟨stdin, events, hchild, closedWell_resolved hclosed⟩

end

/-! ## A model that no catalog has -/

section
attribute [local instance] asciiRuntime

def linuxHost : Host where
  platform := "linux"
  processEnv := []
  cwd := "/"
  toUpperCase := id
  join left right := left ++ js "/" ++ right
  observedAt := "2026-01-01T00:00:00.000Z"
  createdAt := "2026-01-01T00:00:00.000Z"

/-- Runs of the model must find it in a catalog. -/
def catalogOptions : CodexCliProcessRunOptions where
  allowWriteSandbox := none
  allowSkipGitRepoCheck := none
  workspaceWritePreflight := none
  timeoutMs := none
  env := none
  oneShotEnv := none
  modelProbe := none
  requireModelProbe := none
  autoProbeModelWithCli := none
  modelProbeStrict := none
  modelProbeTimeoutMs := none
  modelProbeCacheTtlMs := none
  disableModelProbeCache := none
  modelCatalog := none
  requireModelCatalog := some true
  skipExecutionModelProbe := none
  terminationGraceMs := none
  governance := none

def modelPlan : CodexCliExecPlan :=
  { boundPlan (plainArgs ++ [js "--model", js "gpt-5.4-mini"]) .never with
    model := some "gpt-5.4-mini" }

/-- The spawner always throws. -/
def brokenWorld : World where
  descriptors := []
  probeCache := []
  now := 0
  probeChild := .throws none
  child := .throws none

end

end CodexRouter.Cli
