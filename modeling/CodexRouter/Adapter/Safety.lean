import CodexRouter.Adapter.Calls
import CodexRouter.Adapter.Selections
import CodexRouter.Js.Direct

/-!
# Safety of the adapter

What holds behind every run of calls: a request is answered at most once, an acceptance is written
ahead, what is accepted has been earned, and a session that was given up stays given up.
-/

open Js Runs CodexRouter.Kernel

namespace CodexRouter.Adapter

open Preview Authorization Retain Relation Comp

section
variable [Runtime] {options : CodexAppServerAdapterOptions} {env : Env} {threadId turnId : Str}
  {s t : AdapterState}

/-! ## Runs of calls -/

/-- The turn that a call works for. -/
def CallOf (threadId turnId : Str) (s : AdapterState) : AdapterCall → Prop
  | .ingest input => InputOf threadId turnId input
  | .resolveHumanApproval input => RequestOf threadId turnId s input.requestId

theorem moves_step (hs : Kept s) {call : AdapterCall} (hcall : CallOf threadId turnId s call) :
    Moves options threadId turnId s (step options env s call) := by
  cases call with
  | ingest input => exact performs_ingest hs hcall
  | resolveHumanApproval input => exact performs_resolveHumanApproval hs hcall

omit [Runtime] in
/-- Every call works for some turn. -/
lemma exists_callOf (s : AdapterState) (call : AdapterCall) :
    ∃ threadId turnId, CallOf threadId turnId s call := by
  cases call with
  | ingest input =>
    rcases input with _ | event
    · exact ⟨[], [], fun _ hmem => nomatch hmem⟩
    rcases hkind : event.kind with turnEvent | _
    · refine ⟨turnEvent.threadId, turnEvent.turnId, ?_⟩
      intro other hmem found hfound
      cases Option.mem_some.mp hmem
      rw [hkind] at hfound
      cases hfound
      exact ⟨rfl, rfl⟩
    · refine ⟨[], [], ?_⟩
      intro other hmem found hfound
      cases Option.mem_some.mp hmem
      rw [hkind] at hfound
      exact nomatch hfound
  | resolveHumanApproval input =>
    rcases hget : s.approvals.get? input.requestId with _ | approval
    · refine ⟨[], [], ?_⟩
      intro approval hmem
      rw [hget] at hmem
      exact nomatch hmem
    · refine ⟨approval.threadId, approval.turnId, ?_⟩
      intro other hmem
      rw [hget] at hmem
      cases hmem
      exact ⟨rfl, rfl⟩

/-- The state behind some calls. -/
def run (options : CodexAppServerAdapterOptions) (env : Env) (s : AdapterState)
    (calls : List AdapterCall) : AdapterState :=
  calls.foldl (step options env) s

lemma run_append (s : AdapterState) (before after : List AdapterCall) :
    run options env s (before ++ after) = run options env (run options env s before) after :=
  List.foldl_append

theorem evolves_run (options : CodexAppServerAdapterOptions) (env : Env) (hs : Kept s)
    (calls : List AdapterCall) : Evolves options s (run options env s calls) := by
  induction calls generalizing s with
  | nil => exact ReflTransGen.refl
  | cons call calls ih =>
    obtain ⟨threadId, turnId, hcall⟩ := exists_callOf s call
    have hstep : Evolves options s (step options env s call) := (moves_step hs hcall).evolves
    exact hstep.trans (ih (hstep.kept hs))

theorem invariant_run (options : CodexAppServerAdapterOptions) (env : Env) (journal : Journal)
    (calls : List AdapterCall) : Invariant options (run options env (.initial journal) calls) := by
  have hs : Invariant options (.initial journal) := invariant_initial journal
  exact (evolves_run options env hs.kept calls).invariant hs

/-! ## Responses -/

/-- Over any run of calls, a request is answered at most once. -/
theorem answered_once (options : CodexAppServerAdapterOptions) (env : Env) (journal : Journal)
    (calls : List AdapterCall) :
    ((run options env (.initial journal) calls).responses.map (·.requestId)).Nodup :=
  (invariant_run options env journal calls).kept.once

end

section
attribute [local instance] asciiRuntime

def enforcedPreviewer : PreviewIsolationAttestation where
  networkIsolation := .enforcedNone
  filesystemIsolation := .cloneOnlyEnforced
  scope := .live
  enforcerId := js "sandbox"

/-- A session that enforces, with one file that may be written. -/
def enforcedOptions : CodexAppServerAdapterOptions :=
  { observedOptions with
    trustedPreviewer := some enforcedPreviewer
    previewIsolation := enforcedPreviewer
    capabilityCeiling :=
      [{ kind := .file, resource := js "notes.md", access := .write, constraints := [] }] }

def topicContext : CodexWorkspaceContext where
  repoRoot := js "/repo"
  repository :=
    { branch := some (js "topic")
      protectedBranch := false
      worktreeClean := true
      headCommit := some (js "head")
      expectedHead := some (js "head") }
  networkAccess := some .none
  credentialAccess := some .none
  externalTargets := some []
  releaseAction := some false
  exactTargets := some true
  ambiguous := some false
  unknowns := some []

def governedEnv : Env :=
  { deliveringEnv with
    toISOString := fun _ => some (js "2026-01-02T03:09:05.000Z")
    getContext := fun _ => some topicContext
    semanticRisk := fun _ => some .low }

def hashedItem : NormalizedFileChangeItem :=
  { proposedItem with
    changes := [{
      path := js "notes.md"
      kind := .create
      oldPath := none
      unifiedDiff := createDiff "notes.md"
      beforeHash := none
      afterHash := some (some (List.replicate 64 (cu 'a'))) }] }

def acceptInput : HumanApprovalInput :=
  { cancelInput with decision := .accept, nonce := some (js "n"), commandDecision := none }

/-- A file is proposed, its approval is asked for, and the operator accepts. -/
def acceptedCalls : List AdapterCall :=
  [.ingest (some (turnEvent 1 (.itemStarted hashedItem))),
    .ingest (some (turnEvent 2
      (.approvalRequested "r" "i" (.fileChange (some (js "/repo"))) none))),
    .resolveHumanApproval acceptInput]

abbrev acceptedState : AdapterState :=
  run enforcedOptions governedEnv (.initial .empty) acceptedCalls

def acceptedResponse : CodexAppServerApprovalResponse where
  schemaProfileId := js "v2"
  requestId := js "r"
  decision := .accept
  reasonCode := js "operator_approved"
  commandDecision := none
  permissionGrant := none

lemma acceptedState_facts :
    acceptedState.effects.drop 1 = [.sent acceptedResponse] ∧
      (acceptedState.items.get? (itemKey (js "t") (js "u") (js "i"))).map (·.state) =
        some .acceptedByAppServer := by
  unfold acceptedState
  -- the run hashes a dozen texts
  rw [← directRuntime_eq]
  decide +kernel

lemma acceptedState_effects :
    acceptedState.effects = acceptedState.effects.take 1 ++ .sent acceptedResponse :: [] := by
  rw [← acceptedState_facts.1, List.take_append_drop]

end

/-! ## Sessions that were given up -/

section
variable [Runtime] {options : CodexAppServerAdapterOptions} {env : Env} {s t : AdapterState}

omit [Runtime] in
lemma Aside.compromised (h : Aside s t) :
    t.sessionCompromisedReason = s.sessionCompromisedReason := by
  obtain ⟨_, _, _, _, rfl⟩ := h
  rfl

lemma aside_ensureJournalContinuity (hs : s.sessionCompromisedReason.isSome) :
    StepsAt Aside (ensureJournalContinuity options env) s := by
  have hretry : StepsAt Aside (retryJournalReconciliationFailures options env) s :=
    aside_retryJournalReconciliationFailures s
  unfold ensureJournalContinuity
  apply StepsAt.bind hretry
  intro _ t _ hst
  apply StepsAt.read_bind
  apply StepsAt.ite
  · intro _
    exact StepsAt.pure ()
  · intro hopen
    rw [hst.compromised] at hopen
    exact absurd hs hopen

/-- What comes after the continuity check of a session that was given up is only an outcome. -/
lemma aside_when_compromised {x : Call CodexAdapterOutcome} {details : OutcomeDetails}
    (hs : s.sessionCompromisedReason.isSome) :
    StepsAt Aside (do
      ensureJournalContinuity options env
      if (← Comp.read (·.sessionCompromisedReason)).isSome then quarantinedOutcome options details
      else x) s := by
  apply StepsAt.bind (aside_ensureJournalContinuity hs)
  intro _ t _ hst
  apply StepsAt.read_bind
  apply StepsAt.ite
  · intro _
    exact StepsAt.read_bind (StepsAt.read_bind (StepsAt.pure _))
  · intro hopen
    rw [hst.compromised] at hopen
    exact absurd hs hopen

lemma aside_step (hs : s.sessionCompromisedReason.isSome) (call : AdapterCall) :
    Aside s (step options env s call) := by
  cases call with
  | ingest input => exact aside_when_compromised hs
  | resolveHumanApproval input =>
    show StepsAt Aside (resolveHumanApproval options env input) s
    unfold resolveHumanApproval
    apply StepsAt.ite
    · intro _
      exact StepsAt.read_bind (StepsAt.pure _)
    · intro _
      exact aside_when_compromised hs

/-- No call changes a session that was given up, but for the journal updates that it retries. -/
theorem aside_run (hs : s.sessionCompromisedReason.isSome) (calls : List AdapterCall) :
    Aside s (run options env s calls) := by
  induction calls generalizing s with
  | nil => exact refl s
  | cons call calls ih =>
    have hstep : Aside s (step options env s call) := aside_step hs call
    have hnext : (step options env s call).sessionCompromisedReason.isSome := by
      rw [hstep.compromised]
      exact hs
    exact IsTrans.trans _ _ _ hstep (ih hnext)

end

attribute [local instance] asciiRuntime in
/-- An input without the shape of an event gives up the session. -/
theorem aside_run_drift :
    Aside (run observedOptions deliveringEnv (.initial .empty) [.ingest none])
      (run observedOptions deliveringEnv (run observedOptions deliveringEnv (.initial .empty)
        [.ingest none]) sharedIdCalls) :=
  aside_run (by decide +kernel) sharedIdCalls

/-! ## Blocked turns -/

section
variable [Runtime] {options : CodexAppServerAdapterOptions} {env : Env} {threadId turnId : Str}
  {s t : AdapterState}

/-- Each acceptance that came since is for another turn. -/
def AcceptsElsewhere (key : Str) (s t : AdapterState) : Prop :=
  ∃ added, t.effects = s.effects ++ added ∧ ∀ response, Effect.sent response ∈ added →
    response.decision = .accept → ∃ approval, t.approvals.get? response.requestId = some approval ∧
      turnKey approval.threadId approval.turnId ≠ key

lemma Move.acceptsElsewhere {u : AdapterState} (h : Move options threadId turnId t u) {key : Str}
    {record : TurnRecord} (hget : t.turns.get? key = some record) (hblocked : record.blocked = true)
    (hs : AcceptsElsewhere key s t) : AcceptsElsewhere key s u := by
  obtain ⟨added, heffects, hadded⟩ := hs
  have hold : ∀ response, Effect.sent response ∈ added → response.decision = .accept →
      ∃ approval, u.approvals.get? response.requestId = some approval ∧
        turnKey approval.threadId approval.turnId ≠ key := by
    intro response hmem haccept
    obtain ⟨approval, happroval, hne⟩ := hadded response hmem haccept
    obtain ⟨later, hlater, hsame⟩ := h.later_approval happroval
    rw [← hsame.threadId, ← hsame.turnId] at hne
    exact ⟨later, hlater, hne⟩
  rcases h.effects_cases with heq | ⟨entry, heq⟩
    | ⟨approval, sent, heq, hget', -, hthread, hturn, -, -, hguard⟩
  · exact ⟨added, heq.trans heffects, hold⟩
  · refine ⟨added ++ [.stored entry], by rw [heq, heffects, List.append_assoc], ?_⟩
    intro response hmem
    rcases List.mem_append.mp hmem with hmem | hmem
    · exact hold response hmem
    · exact nomatch List.mem_singleton.mp hmem
  · refine ⟨added ++ [.sent sent], by rw [heq, heffects, List.append_assoc], ?_⟩
    intro response hmem haccept
    rcases List.mem_append.mp hmem with hmem | hmem
    · exact hold response hmem haccept
    · cases List.mem_singleton.mp hmem
      refine ⟨_, hget', ?_⟩
      -- the guard of the response found its turn open
      obtain ⟨-, ⟨found, hfound, hopen⟩, -⟩ := hguard haccept
      intro hkey
      rw [← hkey] at hget
      change t.turns.get? (turnKey approval.threadId approval.turnId) = _ at hget
      rw [hthread, hturn, hfound] at hget
      cases hget
      rw [hopen] at hblocked
      exact Bool.noConfusion hblocked

lemma Evolves.acceptsElsewhere (h : Evolves options s t) {key : Str} {record : TurnRecord}
    (hget : s.turns.get? key = some record) (hblocked : record.blocked = true) :
    AcceptsElsewhere key s t := by
  induction h with
  | refl => exact ⟨[], (List.append_nil _).symm, fun _ hmem => nomatch hmem⟩
  | tail hevolves hmove ih =>
    obtain ⟨threadId, turnId, hmove⟩ := hmove
    obtain ⟨now, hnow, hstill⟩ := Evolves.blocked hevolves hget hblocked
    exact hmove.acceptsElsewhere hnow hstill ih

/-- No acceptance is sent for a turn that has been blocked. -/
theorem blocked_accepts_elsewhere (journal : Journal) (calls later : List AdapterCall) {key : Str}
    {record : TurnRecord}
    (hget : (run options env (.initial journal) calls).turns.get? key = some record)
    (hblocked : record.blocked = true) :
    AcceptsElsewhere key (run options env (.initial journal) calls)
      (run options env (.initial journal) (calls ++ later)) := by
  have hs := (invariant_run options env journal calls).kept
  rw [run_append]
  exact (evolves_run options env hs later).acceptsElsewhere hget hblocked

end

attribute [local instance] asciiRuntime in
/-- A gap in the sequence blocks the turn. -/
theorem blocked_accepts_elsewhere_gap :
    AcceptsElsewhere (turnKey (js "t") (js "u"))
      (run observedOptions deliveringEnv (.initial .empty)
        [.ingest (some (turnEvent 2 (.itemStarted proposedItem)))])
      (run observedOptions deliveringEnv (.initial .empty)
        ([.ingest (some (turnEvent 2 (.itemStarted proposedItem)))] ++ sharedIdCalls)) := by
  obtain ⟨record, hget, hblocked⟩ : ∃ record,
      (run observedOptions deliveringEnv (.initial .empty)
        [.ingest (some (turnEvent 2 (.itemStarted proposedItem)))]).turns.get?
          (turnKey (js "t") (js "u")) = some record ∧ record.blocked = true :=
    Option.map_eq_some_iff.mp (by decide +kernel)
  exact blocked_accepts_elsewhere .empty _ sharedIdCalls hget hblocked

end CodexRouter.Adapter
