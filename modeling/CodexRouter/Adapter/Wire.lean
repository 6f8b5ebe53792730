import CodexRouter.Adapter.Selections

/-!
# Responses on the wire

A response becomes the answer to the request that the binding of its id names.
-/

open Js CodexRouter.Kernel

namespace CodexRouter.Adapter

open Preview Authorization Retain

inductive JsonRpcRequestId where
  | text (id : Str)
  | number (id : ℤ)
  deriving DecidableEq

structure ApprovalBinding where
  wireRequestId : JsonRpcRequestId
  approvalKind : ProposalKind
  availableCommandDecisions : Option (List CodexCommandApprovalDecision)
  requestedPermissions : Option CodexAppServerPermissionProfile
  sentDecision : Option Decision
  resolved : Bool
  deriving DecidableEq

/-- The `result` of an answer; permissions are granted for the turn. -/
inductive WireResult where
  | permissions (permissions : CodexAppServerPermissionGrant)
  | decision (decision : CodexCommandApprovalDecision)
  deriving DecidableEq

structure CodexAppServerV2WireApprovalResponse where
  id : JsonRpcRequestId
  result : WireResult
  deriving DecidableEq

/-- The fields of the normalizer that an encoding reads. -/
structure WireSession where
  schemaProfileId : Str
  compromisedReason : Option Str
  approvals : Map Str ApprovalBinding

variable [Runtime]

/-- Why a response to a bound request is not encoded. -/
def encodingReason (binding : ApprovalBinding) (response : CodexAppServerApprovalResponse) :
    Option Str :=
  let isCommandApproval : Bool :=
    binding.approvalKind = .command || binding.approvalKind = .network
  let commandDecision := response.commandDecision.getD response.decision.asCommand
  if binding.resolved || binding.sentDecision.isSome then some "v2_approval_response_replay"
  else if binding.approvalKind ≠ .permission && response.permissionGrant.isSome then
    some "v2_permission_grant_unexpected"
  else if !isCommandApproval && response.commandDecision.isSome then
    some "v2_command_decision_unexpected"
  else if isCommandApproval
      && commandApprovalDecisionDisposition commandDecision ≠ response.decision then
    some "v2_command_decision_disposition_mismatch"
  else if isCommandApproval && binding.availableCommandDecisions.any fun available =>
      !available.any (commandApprovalDecisionEquals · commandDecision) then
    some "v2_command_decision_not_advertised"
  else if isCommandApproval && binding.availableCommandDecisions.isNone
      && !isPlainCommandApprovalDecision commandDecision then
    some "v2_command_decision_not_advertised"
  else if response.decision = .decline && response.permissionGrant.isSome then
    some "v2_permission_grant_unexpected"
  else if binding.approvalKind = .permission && response.decision = .accept then
    match response.permissionGrant with
    | none => some "v2_permission_grant_required"
    | some permissionGrant =>
      if binding.requestedPermissions.any (isPermissionGrantSubset · permissionGrant) then none
      else some "v2_permission_grant_not_subset"
  else none

omit [Runtime] in
/-- The answer to a request of the kind. -/
def wireResult (approvalKind : ProposalKind) (decision : Decision)
    (permissionGrant : Option CodexAppServerPermissionGrant)
    (commandDecision : Option CodexCommandApprovalDecision) : WireResult :=
  match approvalKind with
  | .permission =>
    .permissions
      (if decision = .accept then permissionGrant.getD ⟨none, none⟩ else ⟨none, none⟩)
  | .command | .network => .decision (commandDecision.getD decision.asCommand)
  | .fileChange => .decision decision.asCommand

/-- The answer, or the reasons; the binding remembers what was sent. -/
def encodeApprovalResponse (session : WireSession) (response : CodexAppServerApprovalResponse) :
    Except (List Str) CodexAppServerV2WireApprovalResponse × WireSession :=
  match session.compromisedReason with
  | some reason => (.error [js "v2_session_quarantined", reason], session)
  | none =>
    if response.issues ≠ [] ∨ response.schemaProfileId ≠ session.schemaProfileId then
      (.error [js "v2_approval_response_invalid"], session)
    else
      match session.approvals.get? response.requestId with
      | none => (.error [js "v2_approval_request_id_unknown"], session)
      | some binding =>
        match encodingReason binding response with
        | some reason => (.error [reason], session)
        | none =>
          let answered := { binding with sentDecision := some response.decision }
          (.ok {
            id := binding.wireRequestId
            result := wireResult binding.approvalKind response.decision response.permissionGrant
              response.commandDecision },
          { session with approvals := session.approvals.set response.requestId answered })

/-- An encoded response answers its own request, with the selection it carries. -/
theorem encodeApprovalResponse_ok {session : WireSession}
    {response : CodexAppServerApprovalResponse} {message : CodexAppServerV2WireApprovalResponse}
    (h : (encodeApprovalResponse session response).1 = .ok message) :
    ∃ binding, session.approvals.get? response.requestId = some binding ∧
      message.id = binding.wireRequestId ∧
      message.result = wireResult binding.approvalKind response.decision
        response.permissionGrant response.commandDecision := by
  unfold encodeApprovalResponse at h
  split at h
  · cases h
  · split_ifs at h
    split at h
    · cases h
    · rename_i binding hbinding
      split at h
      · cases h
      · cases h
        exact ⟨binding, hbinding, rfl, rfl⟩

omit [Runtime] in
/-- What an operator selected is what the wire says, once the response says it. -/
theorem PassesOn.wireResult_eq {input : HumanApprovalInput} {approval : ApprovalRecord}
    {response : CodexAppServerApprovalResponse} (h : PassesOn input approval response) :
    wireResult approval.proposal.kind response.decision response.permissionGrant
        response.commandDecision =
      wireResult approval.proposal.kind input.decision input.permissionGrant
        input.commandDecision := by
  unfold wireResult
  rw [h.decision, h.commandDecision]
  split
  · rename_i hkind
    rw [h.permissionGrant hkind]
  · rfl
  · rfl
  · rfl

end CodexRouter.Adapter
