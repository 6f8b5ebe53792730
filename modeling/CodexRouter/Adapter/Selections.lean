import CodexRouter.Adapter.Quiet
import CodexRouter.Js.Ascii
import CodexRouter.Preview.Patch

/-!
# Selections of an operator

What an operator selects is what the response says, but for a command decision that declines where
a file item has the id.
-/

open Js Runs CodexRouter.Kernel

namespace CodexRouter.Adapter

open Preview Authorization Retain Comp

/-! ## At most one response -/

/-- The call sends one response with the property, or none. -/
def EmitsFrom {α : Type} (P : CodexAppServerApprovalResponse → Prop) (x : Call α)
    (s : AdapterState) : Prop :=
  ∃ sent, (x s).2.responses = s.responses ++ sent ∧ sent.length ≤ 1 ∧
    ∀ response ∈ sent, P response

section
variable {α β : Type} {P : CodexAppServerApprovalResponse → Prop} {x : Call α}
  {f : α → Call β} {s : AdapterState}

lemma EmitsFrom.of_quiet (hx : Steps Quiet x) : EmitsFrom P x s :=
  ⟨[], by rw [(hx s).responses, List.append_nil], Nat.zero_le 1, List.forall_mem_nil _⟩

/-- What follows the response is silent. -/
lemma EmitsFrom.bind (hx : EmitsFrom P x s) (hf : ∀ a, Steps Silent (f a)) :
    EmitsFrom P (x >>= f) s := by
  obtain ⟨sent, happend, hlength, hsent⟩ := hx
  refine ⟨sent, ?_, hlength, hsent⟩
  rw [← happend, bind_apply]
  split
  · rename_i a t heq
    rw [heq]
    exact hf a t
  · rename_i e t heq
    rw [heq]

/-- What goes before the response is quiet. -/
lemma EmitsFrom.of_bind (hx : Steps Quiet x)
    (hf : ∀ a t, x s = (.ok a, t) → Quiet s t → EmitsFrom P (f a) t) :
    EmitsFrom P (x >>= f) s := by
  have hquiet := hx s
  rcases hcall : x s with ⟨a | a, t⟩
  · rw [hcall] at hquiet
    refine ⟨[], ?_, Nat.zero_le 1, List.forall_mem_nil _⟩
    rw [bind_of_error hcall, hquiet.responses, List.append_nil]
  · rw [hcall] at hquiet
    obtain ⟨sent, happend, hlength, hsent⟩ := hf a t hcall hquiet
    refine ⟨sent, ?_, hlength, hsent⟩
    rw [bind_of_ok hcall, happend, hquiet.responses]

lemma EmitsFrom.ite {c : Prop} [Decidable c] {y : Call α} (hx : c → EmitsFrom P x s)
    (hy : ¬ c → EmitsFrom P y s) : EmitsFrom P (if c then x else y) s := by
  split_ifs with h
  · exact hx h
  · exact hy h

end

section
variable [Runtime] {options : CodexAppServerAdapterOptions} {env : Env}

/-- The fields of a response that an operator selects. -/
def Carries (decision : Decision) (permissionGrant : Option CodexAppServerPermissionGrant)
    (commandDecision : Option CodexCommandApprovalDecision)
    (response : CodexAppServerApprovalResponse) : Prop :=
  response.decision = decision ∧ response.permissionGrant = permissionGrant ∧
    response.commandDecision = commandDecision

lemma silent_awaitDelivery (approval : ApprovalRecord) (decision : Decision) :
    Steps Silent (awaitDelivery options env approval decision) := by
  unfold awaitDelivery
  apply Steps.bind (Quiet.silent (quiet_ask _))
  intro delivered
  apply Steps.ite
  · apply Steps.bind (silent_modifyApproval _ _)
    intro _
    exact Steps.pure _
  · apply Steps.bind (silent_modifyApproval _ _)
    intro _
    apply Steps.bind (Quiet.silent (quiet_markTurnForReconciliation _ _ _))
    intro _
    exact Steps.pure _

lemma emits_deliver {P : CodexAppServerApprovalResponse → Prop} (approval : ApprovalRecord)
    (response : CodexAppServerApprovalResponse) (hresponse : P response) (s : AdapterState) :
    EmitsFrom P (deliver options env approval response) s := by
  refine ⟨[response], ?_, le_refl 1, ?_⟩
  · -- behind the two writes the response is the last effect
    have hsilent := @silent_awaitDelivery _ options env approval response.decision
    refine (hsilent _).trans ?_
    show (s.effects ++ [Effect.sent response]).filterMap _ = _
    rw [List.filterMap_append]
    rfl
  · intro sent hsent
    rw [List.mem_singleton.mp hsent]
    exact hresponse

omit [Runtime] in
lemma quiet_maySend (approval : ApprovalRecord) (decision : Decision) :
    Steps Quiet (maySend approval decision) := by
  cases decision with
  | decline => exact Steps.pure true
  | accept =>
    unfold maySend
    apply Steps.read_bind
    intro compromised
    split_ifs
    · exact Steps.pure false
    · apply Steps.bind (quiet_turn _ _)
      intro record
      exact Steps.pure _

lemma emits_sendDecision (approval : ApprovalRecord) (decision : Decision) (reasonCode : Str)
    (permissionGrant : Option CodexAppServerPermissionGrant)
    (commandDecision : Option CodexCommandApprovalDecision) (s : AdapterState) :
    EmitsFrom (Carries decision permissionGrant commandDecision)
      (sendDecision options env approval decision reasonCode permissionGrant commandDecision)
      s := by
  unfold sendDecision
  apply EmitsFrom.of_bind (Steps.read _)
  intro approval t _ _
  apply EmitsFrom.ite
  · intro _
    exact .of_quiet (Steps.pure _)
  intro _
  apply EmitsFrom.of_bind (quiet_maySend _ _)
  intro allowed t _ _
  apply EmitsFrom.ite
  · intro _
    exact .of_quiet (Steps.pure _)
  intro _
  apply EmitsFrom.of_bind (Steps.lift _)
  intro response t hparse _
  apply emits_deliver
  obtain ⟨hparse, -⟩ := eq_of_lift_ok hparse
  rw [← (parse_eq_ok.mp hparse).2]
  exact ⟨rfl, rfl, rfl⟩

/-! ## The paths of a selection -/

/-- The command decision that an operator's decision sends. -/
def sentCommandDecision (input : HumanApprovalInput) (hasItem : Bool) :
    Option CodexCommandApprovalDecision :=
  if input.decision = .decline && hasItem then none else input.commandDecision

lemma emits_declineFileItem (approval : ApprovalRecord) (item : ItemRecord) (reasonCode : Str)
    (s : AdapterState) :
    EmitsFrom (Carries .decline none none) (declineFileItem options env approval item reasonCode)
      s := by
  unfold declineFileItem
  apply EmitsFrom.bind (emits_sendDecision _ _ _ _ _ s)
  intro delivery
  split_ifs
  · exact (Quiet.silent (quiet_transitionItem _ _)).bind fun _ => Steps.pure _
  · exact (Quiet.silent (quiet_markItemReconciliation _ _)).bind fun _ => Steps.pure _

lemma emits_declineByOperator (input : HumanApprovalInput) (approval : ApprovalRecord)
    (item : Option ItemRecord) (hdecline : input.decision = .decline) (s : AdapterState) :
    EmitsFrom (Carries .decline none (sentCommandDecision input item.isSome))
      (declineByOperator options env input approval item) s := by
  have hreport : ∀ delivery : ApprovalSendResult, Steps Silent (do
      let item ← Comp.read fun state : AdapterState =>
        item.map fun item => (state.items.get? item.key).getD item
      outcome options (if delivery = .sent then .blocked else .reconciliationRequired)
        [if delivery = .sent then js "operator_declined" else js "approval_response_send_failed"]
        { requestId := some input.requestId, itemId := some approval.itemId
          lifecycleState := item.map (·.state) } : Call CodexAdapterOutcome) := by
    intro delivery
    apply Steps.read_bind
    intro item
    exact Quiet.silent (quiet_outcome _ _ _)
  unfold declineByOperator sentCommandDecision
  rw [hdecline]
  cases item with
  | none => exact (emits_sendDecision _ _ _ _ _ s).bind hreport
  | some item => exact (emits_declineFileItem _ _ _ s).bind hreport

lemma emits_acceptByOperator (input : HumanApprovalInput) (approval : ApprovalRecord)
    (s : AdapterState) :
    EmitsFrom (Carries .accept input.permissionGrant input.commandDecision)
      (acceptByOperator options env input approval) s := by
  unfold acceptByOperator
  apply EmitsFrom.bind (emits_sendDecision _ _ _ _ _ s)
  intro delivery
  exact Quiet.silent (quiet_outcome _ _ _)

lemma emits_passSelection {input : HumanApprovalInput} {approval : ApprovalRecord}
    (item : Option ItemRecord) (hkind : approval.proposal.kind ≠ .fileChange)
    (hgrant : input.decision = .decline → input.permissionGrant = none) (s : AdapterState) :
    EmitsFrom (Carries input.decision input.permissionGrant
      (sentCommandDecision input item.isSome)) (passSelection options env input approval item)
      s := by
  unfold passSelection
  cases hdecision : input.decision with
  | decline =>
    rw [hgrant hdecision]
    exact emits_declineByOperator input approval item hdecision s
  | accept =>
    dsimp only
    rw [if_pos hkind, sentCommandDecision, hdecision]
    exact emits_acceptByOperator input approval s

/-- A selection without a reason against it declines without a grant. -/
lemma grant_of_selectionReason {proposal : CodexApprovalProposal} {input : HumanApprovalInput}
    (h : selectionReason proposal input = none) (hdecline : input.decision = .decline) :
    input.permissionGrant = none := by
  cases hgrant : input.permissionGrant with
  | none => rfl
  | some grant =>
    have hreason : permissionGrantReason proposal input =
        some (js "human_permission_grant_unexpected") := by
      simp only [permissionGrantReason, hdecline, hgrant]
    unfold selectionReason at h
    dsimp only at h
    split_ifs at h
    · rw [hreason] at h
      cases hcommand : (commandDecisionReason proposal.availableDecisions input.decision
        input.commandDecision) <;> simp [hcommand] at h
    · rw [hreason] at h
      cases h

/-! ## The call -/

/-- The response says what the operator selected. -/
structure PassesOn (input : HumanApprovalInput) (approval : ApprovalRecord)
    (response : CodexAppServerApprovalResponse) : Prop where
  decision : response.decision = input.decision
  commandDecision : response.commandDecision = input.commandDecision
  permissionGrant : approval.proposal.kind = .permission →
    response.permissionGrant = input.permissionGrant

/-- The record of a file item has the id of the approval. -/
def AdapterState.hasItem (state : AdapterState) (approval : ApprovalRecord) : Bool :=
  (state.items.get? (itemKey approval.threadId approval.turnId approval.itemId)).isSome

lemma emits_resolveHumanApproval {input : HumanApprovalInput} {approval : ApprovalRecord}
    {state : AdapterState} (happroval : state.approvals.get? input.requestId = some approval)
    (hkind : approval.proposal.kind ≠ .fileChange) :
    EmitsFrom (Carries input.decision input.permissionGrant
      (sentCommandDecision input (state.hasItem approval)))
      (resolveHumanApproval options env input) state := by
  unfold resolveHumanApproval
  apply EmitsFrom.ite
  · intro _
    exact .of_quiet (quiet_outcome _ _ _)
  intro _
  unfold resolveHumanApprovalSerialized
  apply EmitsFrom.of_bind quiet_ensureJournalContinuity
  intro _ s _ hcontinuity
  apply EmitsFrom.of_bind (Steps.read _)
  intro compromised t hread _
  obtain ⟨-, rfl⟩ := eq_of_read_ok hread
  apply EmitsFrom.ite
  · intro _
    exact .of_quiet (quiet_quarantinedOutcome _)
  intro _
  apply EmitsFrom.of_bind (Steps.read _)
  intro found t hread _
  obtain ⟨hfound, rfl⟩ := eq_of_read_ok hread
  rw [hcontinuity.approvals, happroval] at hfound
  subst hfound
  apply EmitsFrom.of_bind (quiet_getItem _)
  intro item t hread _
  obtain ⟨hitem, rfl⟩ := eq_of_read_ok hread
  have hhas : state.hasItem approval = item.isSome := by
    rw [← hitem]
    exact (hcontinuity.items _).symm
  rw [hhas]
  apply EmitsFrom.ite
  · intro _
    exact .of_quiet (quiet_outcome _ _ _)
  intro _
  apply EmitsFrom.of_bind (quiet_turn _ _)
  intro record t _ _
  apply EmitsFrom.ite
  · intro _
    exact .of_quiet (quiet_outcome _ _ _)
  intro _
  apply EmitsFrom.ite
  · intro _
    exact .of_quiet (quiet_outcome _ _ _)
  intro _
  split
  · exact .of_quiet (quiet_outcome _ _ _)
  · rename_i hreason
    exact emits_passSelection item hkind (grant_of_selectionReason hreason) t

/-- A response of a call on a command, a network access or permissions says what the operator
selected exactly when the operator does not decline with a command decision while a file item has
the id. -/
theorem passesOn_iff (options : CodexAppServerAdapterOptions) (env : Env) (state : AdapterState)
    (input : HumanApprovalInput) (approval : ApprovalRecord)
    (happroval : state.approvals.get? input.requestId = some approval)
    (hkind : approval.proposal.kind ≠ .fileChange) :
    ∃ sent,
      (resolveHumanApproval options env input state).2.responses = state.responses ++ sent ∧
      sent.length ≤ 1 ∧ ∀ response ∈ sent, PassesOn input approval response ↔
        ¬ (input.decision = .decline ∧ input.commandDecision ≠ none ∧
          state.hasItem approval = true) := by
  obtain ⟨sent, happend, hlength, hsent⟩ :=
    @emits_resolveHumanApproval _ options env input approval state happroval hkind
  refine ⟨sent, happend, hlength, ?_⟩
  intro response hmem
  obtain ⟨hdecision, hgrant, hcommand⟩ := hsent response hmem
  have hselected : response.commandDecision = input.commandDecision ↔
      ¬ (input.decision = .decline ∧ input.commandDecision ≠ none ∧
        state.hasItem approval = true) := by
    rw [hcommand, sentCommandDecision]
    split_ifs with hdropped
    · have hdropped : input.decision = .decline ∧ state.hasItem approval = true := by
        simpa using hdropped
      constructor
      · rintro hnone ⟨-, hsome, -⟩
        exact hsome hnone.symm
      · intro hnot
        by_contra hne
        exact hnot ⟨hdropped.1, fun h => hne h.symm, hdropped.2⟩
    · refine iff_of_true rfl ?_
      rintro ⟨hdecline, -, hitem⟩
      exact hdropped (by simp [hdecline, hitem])
  constructor
  · intro hpasses
    exact hselected.mp hpasses.commandDecision
  · intro hnot
    exact ⟨hdecision, hselected.mpr hnot, fun _ => hgrant⟩

end

/-! ## A dropped cancellation -/

section
attribute [local instance] asciiRuntime

/-- A session that only observes. -/
def observedOptions : CodexAppServerAdapterOptions where
  sessionAttestation :=
    { schemaProfileId := js "v2"
      effectiveApprovalPolicy := .onRequest
      effectiveSandboxPolicy := .workspaceWrite
      fileChangeApprovalInterceptionProven := true
      evidenceSource := .liveAcceptance
      scope := .live }
  trustedPreviewer := none
  previewIsolation :=
    { networkIsolation := .unsupported
      filesystemIsolation := .unsupported
      scope := .live
      enforcerId := js "none" }
  capabilityCeiling := []
  allowTestProfiles := false
  retainPermitTtlMs := 300000
  slot := id

/-- Everything outside answers, and the transport delivers. -/
def deliveringEnv : Env where
  now _ := js "2026-01-02T03:04:05Z"
  nonce _ := js "nonce"
  toISOString _ := none
  sends _ := true
  journalFault _ := .none
  getContext _ := none
  semanticRisk _ := none
  preview _ := none
  baseReasons _ := []
  sourceReasons _ := []
  reads _ :=
    { filterReasons := []
      submoduleReasons := []
      partialCloneReasons := []
      repository := fail "unread"
      topologyReasons := fail "unread"
      missingTopologyReasons := fail "unread"
      commitPathExists := fun _ => fail "unread"
      commitWorktreeHashes := fail "unread"
      workspacePathHash := fun _ => fail "unread" }

def proposedItem : NormalizedFileChangeItem where
  itemId := js "i"
  baseHead := js "head"
  proposedAt := js "2026-01-02T03:04:05Z"
  changes := [{
    path := js "notes.md"
    kind := .create
    oldPath := none
    unifiedDiff := createDiff "notes.md"
    beforeHash := none
    afterHash := none }]

/-- A command that may be accepted, declined or cancelled. -/
def offeredCommand : CommandProposal where
  argv := [js "ls"]
  cwd := none
  environmentId := none
  networkApprovalContext := none
  availableDecisions := some [.accept, .decline, .cancel]
  requestedPermissionScope := none

def turnEvent (sequence : ℕ) (body : TurnEventBody) : CodexAppServerNormalizedEvent where
  schemaProfileId := js "v2"
  eventId := js "event-" ++ Json.natText sequence
  kind := .turn { sequence, threadId := js "t", turnId := js "u", body }

def cancelInput : HumanApprovalInput where
  requestId := js "r"
  decision := .decline
  operatorId := js "operator"
  nonce := none
  commandDecision := some .cancel
  permissionGrant := none

/-- A file item is proposed, and a command is asked for under its id. -/
def sharedIdCalls : List AdapterCall :=
  [.ingest (some (turnEvent 1 (.itemStarted proposedItem))),
    .ingest (some (turnEvent 2 (.approvalRequested "r" "i" (.command offeredCommand) none)))]

def sharedIdState : AdapterState :=
  sharedIdCalls.foldl (step observedOptions deliveringEnv) (.initial .empty)

/-- The command that the operator is asked about. -/
def offeredApproval : ApprovalRecord where
  requestId := js "r"
  threadId := js "t"
  turnId := js "u"
  itemId := js "i"
  proposal := .command offeredCommand
  resolved := false
  deliveryState := .pending
  sentDecision := none

lemma sharedIdState_offered :
    sharedIdState.approvals.get? cancelInput.requestId = some offeredApproval := by
  decide +kernel

/-- The operator cancels the command, and the response only declines it. -/
theorem cancellation_dropped :
    Reachable observedOptions deliveringEnv .empty sharedIdState ∧
      sharedIdState.approvals.get? cancelInput.requestId = some offeredApproval ∧
      ((resolveHumanApproval observedOptions deliveringEnv cancelInput
        sharedIdState).2.responses.map fun response =>
          (response.decision, response.commandDecision)) = [(.decline, none)] ∧
      cancelInput.commandDecision = some .cancel :=
  ⟨⟨sharedIdCalls, by rw [sharedIdState]⟩, sharedIdState_offered, by decide +kernel, rfl⟩

theorem passesOn_iff_cancel :
    ∃ sent, (resolveHumanApproval observedOptions deliveringEnv cancelInput
        sharedIdState).2.responses = sharedIdState.responses ++ sent ∧
      sent.length ≤ 1 ∧ ∀ response ∈ sent, PassesOn cancelInput offeredApproval response ↔
        ¬ (cancelInput.decision = .decline ∧ cancelInput.commandDecision ≠ none ∧
          sharedIdState.hasItem offeredApproval = true) :=
  passesOn_iff observedOptions deliveringEnv sharedIdState cancelInput offeredApproval
    sharedIdState_offered (by decide)

end

end CodexRouter.Adapter
