import CodexRouter.Adapter.Ingest

/-!
# Operators

What the adapter does with the decision of an operator.
-/

open Js Runs CodexRouter.Kernel

namespace CodexRouter.Adapter

open Preview Authorization Retain

/-! ## Checks of the input -/

/-- The decision of a command or network approval: the disposition it has to have, and the
decisions that were offered. -/
def commandDecisionReason [Runtime]
    (availableDecisions : Option (List CodexCommandApprovalDecision)) (decision : Decision)
    (commandDecision : Option CodexCommandApprovalDecision) : Option Str :=
  let selectedDecision := commandDecision.getD decision.asCommand
  if commandApprovalDecisionDisposition selectedDecision ≠ decision then
    some "human_command_decision_disposition_mismatch"
  else
    match availableDecisions with
    | some available =>
      if available.any (commandApprovalDecisionEquals · selectedDecision) then none
      else some "human_command_decision_not_advertised"
    | none =>
      if isPlainCommandApprovalDecision selectedDecision then none
      else some "human_command_decision_not_advertised"

/-- The grant of an accepted permission request. -/
def permissionGrantReason (proposal : CodexApprovalProposal) (input : HumanApprovalInput) :
    Option Str :=
  match proposal, input.decision, input.permissionGrant with
  | _, .decline, some _ => some "human_permission_grant_unexpected"
  | .permission _ _, .accept, none => some "human_permission_grant_required"
  | .permission _ requestedPermissions, .accept, some permissionGrant =>
    if isPermissionGrantSubset requestedPermissions permissionGrant then none
    else some "human_permission_grant_not_subset"
  | _, _, _ => none

/-- Why a selection is not passed on. -/
def selectionReason [Runtime] (proposal : CodexApprovalProposal) (input : HumanApprovalInput) :
    Option Str :=
  let isCommand : Bool := proposal.kind = .command || proposal.kind = .network
  if input.permissionGrant.isSome && proposal.kind ≠ .permission then
    some "human_permission_grant_unexpected"
  else if input.commandDecision.isSome && !isCommand then
    some "human_command_decision_unexpected"
  else
    let commandReason :=
      if isCommand then
        commandDecisionReason proposal.availableDecisions input.decision input.commandDecision
      else none
    commandReason.orElse fun _ => permissionGrantReason proposal input

variable [Runtime] (options : CodexAppServerAdapterOptions) (env : Env)

/-! ## Paths of a selection -/

def declineByOperator (input : HumanApprovalInput) (approval : ApprovalRecord)
    (item : Option ItemRecord) : Call CodexAdapterOutcome := do
  let delivery ← match item with
    | none =>
      sendDecision options env approval .decline "operator_declined" none input.commandDecision
    | some item => declineFileItem options env approval item "operator_declined"
  let item ← Comp.read fun state => item.map fun item => (state.items.get? item.key).getD item
  outcome options (if delivery = .sent then .blocked else .reconciliationRequired)
    [if delivery = .sent then js "operator_declined" else js "approval_response_send_failed"]
    { requestId := some input.requestId, itemId := some approval.itemId
      lifecycleState := item.map (·.state) }

/-- An approval of a command, of a network access or of permissions. -/
def acceptByOperator (input : HumanApprovalInput) (approval : ApprovalRecord) :
    Call CodexAdapterOutcome := do
  let delivery ← sendDecision options env approval .accept "operator_approved"
    input.permissionGrant input.commandDecision
  outcome options (if delivery = .sent then .accepted else .reconciliationRequired)
    [if delivery = .sent then js "human_" ++ approval.proposal.kind.text ++ js "_approval"
      else js "approval_response_send_failed"]
    { requestId := some input.requestId, itemId := some approval.itemId
      approvalProposal := some approval.proposal }

/-- The decision of an operator on a change set that the policy has seen. -/
def humanAuthorizationOf (input : HumanApprovalInput) (decision : AuthorizationDecision) :
    Result AuthorizationDecision :=
  parse AuthorizationDecision.issues { decision with
    approvalMode := .humanRequired
    disposition := .approvalRequired
    approvalRequired := true
    reasons := uniqueStrings (decision.reasons ++ [js "operator_approval:" ++ input.operatorId]) }

def acceptFileByOperator (input : HumanApprovalInput) (approval : ApprovalRecord)
    (item : ItemRecord) : Call CodexAdapterOutcome := do
  if resolveAuthorizationMode options ≠ .authorizationEnforced then do
    let delivery ← sendDecision options env approval .accept "operator_approved_observe_only"
      none none
    if delivery ≠ .sent then
      markItemReconciliation options env item [js "approval_response_send_failed"]
    let item ← current item
    outcome options (if delivery = .sent then .observed else .reconciliationRequired)
      (js "session_observe_only_no_governed_retain_claim"
        :: if delivery = .sent then [] else [js "approval_response_send_failed"])
      { requestId := some input.requestId, itemId := some approval.itemId
        lifecycleState := some item.state }
  else
    match item.authorizationDecision.filter fun _ => item.repoRoot.isSome with
    | none =>
      declineAndReport options env approval item approval.itemId "missing_governance_context"
        [js "missing_governance_context"] none none
    | some decision =>
      if decision.disposition = .blocked then
        declineAndReport options env approval item approval.itemId "authorization_blocked"
          [js "authorization_blocked"] (some decision) none
      else do
        let authorization ← Comp.lift (humanAuthorizationOf input decision)
        modifyItem item.key fun item => { item with authorizationDecision := some authorization }
        let nonce ← match input.nonce with
          | some nonce => pure nonce
          | none => ask env.nonce
        persistAndAccept options env
          { item, approval, authorization, preview := none, nonce
            reasonCode := "operator_approved" }

/-- The selection is passed on. -/
def passSelection (input : HumanApprovalInput) (approval : ApprovalRecord)
    (item : Option ItemRecord) : Call CodexAdapterOutcome :=
  match input.decision with
  | .decline => declineByOperator options env input approval item
  | .accept =>
    if approval.proposal.kind ≠ .fileChange then acceptByOperator options env input approval
    else
      match item with
      | some item => acceptFileByOperator options env input approval item
      | none => do
        let delivery ← sendDecision options env approval .decline "missing_governance_context"
          none none
        outcome options (if delivery = .sent then .blocked else .reconciliationRequired)
          (js "missing_governance_context"
            :: if delivery = .sent then [] else [js "approval_response_send_failed"])
          { requestId := some input.requestId, itemId := some approval.itemId }

/-! ## The whole call -/

/-- The approval cannot be answered. -/
def unavailable (input : HumanApprovalInput) (approval : Option ApprovalRecord)
    (item : Option ItemRecord) : Call CodexAdapterOutcome :=
  let reconciliationRequired := approval.any (fun approval => approval.deliveryState = .uncertain)
    || item.any fun item => item.state = .reconciliationRequired
  outcome options (if reconciliationRequired then .reconciliationRequired else .blocked)
    [js "human_approval_request_unavailable"]
    { requestId := some input.requestId, itemId := approval.map (·.itemId)
      lifecycleState := item.map (·.state) }

def resolveHumanApprovalSerialized (input : HumanApprovalInput) : Call CodexAdapterOutcome := do
  ensureJournalContinuity options env
  if (← Comp.read (·.sessionCompromisedReason)).isSome then
    quarantinedOutcome options { requestId := some input.requestId }
  else
    match ← getApproval input.requestId with
    | none => unavailable options input none none
    | some approval => do
      let item ← getItem (itemKey approval.threadId approval.turnId approval.itemId)
      if approval.resolved || approval.deliveryState ≠ .pending then
        unavailable options input (some approval) item
      else if (← turn approval.threadId approval.turnId).blocked then
        unavailable options input (some approval) item
      else if approval.proposal.kind = .fileChange
          && item.any fun item => item.state ≠ .awaitingApproval then
        unavailable options input (some approval) item
      else
        match selectionReason approval.proposal input with
        | some reason =>
          outcome options .blocked [reason]
            { requestId := some input.requestId, itemId := some approval.itemId
              approvalProposal := some approval.proposal }
        | none => passSelection options env input approval item

def resolveHumanApproval (input : HumanApprovalInput) : Call CodexAdapterOutcome :=
  if input.issues ≠ [] then outcome options .blocked [js "human_approval_input_invalid"] {}
  else resolveHumanApprovalSerialized options env input

/-! ## Runs -/

inductive AdapterCall where
  | ingest (input : Option CodexAppServerNormalizedEvent)
  | resolveHumanApproval (input : HumanApprovalInput)

/-- The state behind a call, whether it returned or threw. -/
def step (state : AdapterState) : AdapterCall → AdapterState
  | .ingest input => (ingest options env input state).2
  | .resolveHumanApproval input => (resolveHumanApproval options env input state).2

/-- The states of an adapter that was made over the journal. -/
def Reachable (journal : Journal) (state : AdapterState) : Prop :=
  ∃ calls : List AdapterCall, state = calls.foldl (step options env) (.initial journal)

end CodexRouter.Adapter
