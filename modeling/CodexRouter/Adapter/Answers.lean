import CodexRouter.Adapter.Performs

/-!
# Answers as runs of moves

Every way to answer a request. An acceptance of a change set is sent behind its entry, and the item
is accepted behind the response.
-/

open Js Runs CodexRouter.Kernel

namespace CodexRouter.Adapter

open Preview Authorization Retain Relation Comp

variable {threadId turnId : Str} {s t : AdapterState}

/-- The approval is one of the turn, and the state has it. -/
structure ApprovalOf (threadId turnId : Str) (approval : ApprovalRecord) (s : AdapterState) :
    Prop where
  threadId : approval.threadId = threadId
  turnId : approval.turnId = turnId
  known : ∃ now, s.approvals.get? approval.requestId = some now ∧ LaterApproval approval now

/-- The item is one of the turn, and the state has it. -/
structure ItemOf (threadId turnId : Str) (item : ItemRecord) (s : AdapterState) : Prop where
  key : ∃ itemId, item.key = itemKey threadId turnId itemId
  known : ∃ now, s.items.get? item.key = some now ∧ LaterItem item now

lemma ItemOf.inScope {item : ItemRecord} (h : ItemOf threadId turnId item s) :
    InScope threadId turnId s item.key := .inl h.key

variable [Runtime] {options : CodexAppServerAdapterOptions} {env : Env}

lemma ApprovalOf.moves {approval : ApprovalRecord} {threadId' turnId' : Str}
    (h : ApprovalOf threadId turnId approval s) (hst : Moves options threadId' turnId' s t) :
    ApprovalOf threadId turnId approval t := by
  obtain ⟨now, hnow, hlater⟩ := h.known
  obtain ⟨later, hget, hmoved⟩ := hst.later_approval hnow
  exact ⟨h.threadId, h.turnId, later, hget, hlater.trans hmoved⟩

lemma ItemOf.moves {item : ItemRecord} {threadId' turnId' : Str}
    (h : ItemOf threadId turnId item s) (hst : Moves options threadId' turnId' s t) :
    ItemOf threadId turnId item t := by
  obtain ⟨now, hnow, hlater⟩ := h.known
  obtain ⟨later, hget, hmoved⟩ := hst.later_item hnow
  exact ⟨h.key, later, hget, hlater.trans hmoved⟩

/-- What was written for an acceptance stays written. -/
lemma WrittenAhead.moves {approval later : ApprovalRecord} {threadId' turnId' : Str}
    (h : WrittenAhead s s.effects approval) (hlater : LaterApproval approval later)
    (hst : Moves options threadId' turnId' s t) : WrittenAhead t t.effects later := by
  obtain ⟨item, entry, hget, hentry⟩ := h
  obtain ⟨item', hget', hitem⟩ := hst.later_item hget
  refine ⟨item', entry, ?_, ?_⟩
  · rw [hlater.itemKey_eq]
    exact hget'
  · rw [hlater.requestId]
    exact {
      frozen := hitem.frozen hentry.frozen
      stored := hst.effects.subset hentry.stored
      journalId := hentry.journalId
      changeSet := by
        rw [hitem.changeSet hentry.frozen]
        exact hentry.changeSet
      authorized := hentry.authorized }

/-! ## Sending -/

lemma performs_modifyApproval {approval : ApprovalRecord}
    {f : ApprovalRecord → ApprovalRecord} (h : ApprovalOf threadId turnId approval s)
    (hmove : ∀ now, ApprovalMove now (f now)) :
    Performs options threadId turnId (modifyApproval approval.requestId f) s := by
  have hcall : (modifyApproval approval.requestId f s).2 =
      { s with approvals := s.approvals.modify approval.requestId f } := rfl
  obtain ⟨now, hnow, hlater⟩ := h.known
  unfold Performs StepsAt
  rw [hcall, Map.modify, hnow]
  refine ReflTransGen.single (.moveApproval hnow ⟨?_, ?_⟩ (hmove now))
  · exact hlater.threadId.trans h.threadId
  · exact hlater.turnId.trans h.turnId

lemma performs_awaitDelivery (hs : Kept s) {approval : ApprovalRecord}
    (h : ApprovalOf threadId turnId approval s) (decision : Decision) :
    Performs options threadId turnId (awaitDelivery options env approval decision) s := by
  unfold awaitDelivery
  apply StepsAt.bind (performs_of_aside (aside_ask _))
  intro delivered t _ hst
  have h := h.moves hst
  apply StepsAt.ite
  · intro _
    apply StepsAt.bind
    · exact performs_modifyApproval h fun now =>
        .settle now DeliveryState.noConfusion (some decision)
    · intro _ _ _ _
      exact StepsAt.pure _
  · intro _
    apply StepsAt.bind
    · exact performs_modifyApproval h fun now =>
        .settle now DeliveryState.noConfusion now.sentDecision
    · intro _ u _ htu
      rw [h.threadId, h.turnId]
      apply StepsAt.bind (performs_markTurnForReconciliation (htu.kept (hst.kept hs)) _)
      intro _ _ _ _
      exact StepsAt.pure _

/-- What the response of a decision has to bring. -/
structure Answers (options : CodexAppServerAdapterOptions) (threadId turnId : Str)
    (approval : ApprovalRecord) (decision : Decision) (s : AdapterState) : Prop where
  kept : Kept s
  known : ApprovalOf threadId turnId approval s
  ahead : decision = .accept → approval.proposal.kind = .fileChange →
    resolveAuthorizationMode options = .authorizationEnforced → WrittenAhead s s.effects approval

lemma Answers.moves {approval : ApprovalRecord} {decision : Decision}
    (h : Answers options threadId turnId approval decision s)
    (hst : Moves options threadId turnId s t) :
    Answers options threadId turnId approval decision t where
  kept := hst.kept h.kept
  known := h.known.moves hst
  ahead := fun haccept hkind hmode =>
    (h.ahead haccept hkind hmode).moves (LaterApproval.refl approval) hst

/-- A decline needs nothing written. -/
lemma Answers.decline (hs : Kept s) {approval : ApprovalRecord}
    (h : ApprovalOf threadId turnId approval s) :
    Answers options threadId turnId approval .decline s :=
  ⟨hs, h, fun haccept => nomatch haccept⟩

/-- What is written before the delivery is waited for. -/
lemma deliver_eq {now : ApprovalRecord} {response : CodexAppServerApprovalResponse}
    (hget : s.approvals.get? response.requestId = some now)
    (hid : response.requestId = now.requestId) :
    deliver options env now response s = awaitDelivery options env now response.decision
      { s with
        approvals := s.approvals.set response.requestId { now with deliveryState := .inFlight }
        effects := s.effects ++ [.sent response] } := by
  have hmodify : ∀ f, s.approvals.modify now.requestId f =
      s.approvals.set response.requestId (f now) := by
    intro f
    rw [Map.modify, ← hid, hget]
  show awaitDelivery options env now response.decision { s with
    approvals := s.approvals.modify now.requestId _
    effects := s.effects ++ [.sent response] } = _
  rw [hmodify]

lemma performs_deliver {now : ApprovalRecord} {response : CodexAppServerApprovalResponse}
    (hs : Kept s) (hget : s.approvals.get? response.requestId = some now)
    (hid : response.requestId = now.requestId)
    (hturn : now.threadId = threadId ∧ now.turnId = turnId)
    (hpending : now.deliveryState = .pending) (hopen : now.resolved = false)
    (hsession : response.decision = .accept → s.sessionCompromisedReason = none)
    (hunblocked : response.decision = .accept → ∃ record,
      s.turns.get? (turnKey threadId turnId) = some record ∧ record.blocked = false)
    (hahead : response.decision = .accept → now.proposal.kind = .fileChange →
      resolveAuthorizationMode options = .authorizationEnforced → WrittenAhead s s.effects now) :
    Performs options threadId turnId (deliver options env now response) s := by
  have hmove := ReflTransGen.single
    (Move.send hget hturn hpending hopen hsession hunblocked hahead)
  unfold Performs StepsAt
  rw [deliver_eq hget hid]
  apply hmove.trans
  apply performs_awaitDelivery (Moves.kept hmove hs)
  refine ⟨hturn.1, hturn.2, { now with deliveryState := .inFlight }, ?_, ?_⟩
  · rw [← hid]
    exact Map.get?_set_self _ _ _
  · exact ⟨rfl, rfl, rfl, rfl, rfl, fun _ => DeliveryState.noConfusion⟩

lemma performs_maySend {approval : ApprovalRecord} (hthread : approval.threadId = threadId)
    (hturn : approval.turnId = turnId) (decision : Decision) :
    Performs options threadId turnId (maySend approval decision) s := by
  cases decision with
  | decline => exact StepsAt.pure true
  | accept =>
    apply StepsAt.read_bind
    apply StepsAt.ite
    · intro _
      exact StepsAt.pure false
    · intro _
      rw [hthread, hturn]
      apply StepsAt.bind performs_turn
      intro record t _ _
      exact StepsAt.pure _

omit [Runtime] in
/-- An acceptance may go out in a session that goes on and a turn that is not blocked. -/
lemma maySend_ok {approval : ApprovalRecord} {decision : Decision} {allowed : Bool}
    (h : maySend approval decision s = (.ok allowed, t)) :
    t.approvals = s.approvals ∧ t.items = s.items ∧ (decision = .accept → allowed = true →
      t.sessionCompromisedReason = none ∧ ∃ record,
        t.turns.get? (turnKey approval.threadId approval.turnId) = some record ∧
          record.blocked = false) := by
  cases decision with
  | decline =>
    obtain ⟨-, rfl⟩ := eq_of_pure_ok h
    exact ⟨rfl, rfl, fun haccept => nomatch haccept⟩
  | accept =>
    obtain ⟨reason, u, hread, h⟩ := exists_of_bind_ok h
    obtain ⟨rfl, rfl⟩ := eq_of_read_ok hread
    split_ifs at h with hcompromised
    · obtain ⟨rfl, rfl⟩ := eq_of_pure_ok h
      exact ⟨rfl, rfl, fun _ hallowed => nomatch hallowed⟩
    · obtain ⟨record, u, hrecord, h⟩ := exists_of_bind_ok h
      obtain ⟨rfl, rfl⟩ := eq_of_pure_ok h
      obtain ⟨hget, -, hitems, hsame, hsession⟩ := turn_ok hrecord
      refine ⟨hsame, hitems, fun _ hallowed => ⟨?_, record, hget, by simpa using hallowed⟩⟩
      rw [hsession]
      simpa using hcompromised

lemma performs_sendDecision {approval : ApprovalRecord} {decision : Decision}
    (h : Answers options threadId turnId approval decision s) (reasonCode : Str)
    (permissionGrant : Option CodexAppServerPermissionGrant)
    (commandDecision : Option CodexCommandApprovalDecision) :
    Performs options threadId turnId (sendDecision options env approval decision reasonCode
      permissionGrant commandDecision) s := by
  obtain ⟨now, hnow, hlater⟩ := h.known.known
  have hthread := hlater.threadId.trans h.known.threadId
  have hturn := hlater.turnId.trans h.known.turnId
  unfold sendDecision
  apply StepsAt.read_bind
  rw [hnow, Option.getD_some]
  apply StepsAt.ite
  · intro _
    exact StepsAt.pure _
  intro hopen
  have hopen : now.deliveryState = .pending ∧ now.resolved = false := by
    simpa using hopen
  apply StepsAt.bind (performs_maySend hthread hturn decision)
  intro allowed t hcall hst
  obtain ⟨happrovals, -, hsend⟩ := maySend_ok hcall
  rw [hthread, hturn] at hsend
  apply StepsAt.ite
  · intro _
    exact StepsAt.pure _
  intro hallowed
  have hallowed : allowed = true := by
    simpa using hallowed
  apply StepsAt.lift_bind
  intro response hparse
  have hresponse := (parse_eq_ok.mp hparse).2
  have hdecision : response.decision = decision := by rw [← hresponse]
  have hid : response.requestId = now.requestId := by rw [← hresponse]
  apply performs_deliver (hst.kept h.kept) _ hid ⟨hthread, hturn⟩ hopen.1 hopen.2
  · intro haccept
    exact (hsend (hdecision.symm.trans haccept) hallowed).1
  · intro haccept
    exact (hsend (hdecision.symm.trans haccept) hallowed).2
  · intro haccept hkind hmode
    exact (h.ahead (hdecision.symm.trans haccept) (hlater.proposal ▸ hkind) hmode).moves hlater hst
  · rw [happrovals, hid, hlater.requestId]
    exact hnow

/-- A decision that was sent is among the responses, and no item changed. -/
lemma sent_of_sendDecision {approval : ApprovalRecord} {decision : Decision}
    (h : Answers options threadId turnId approval decision s) {reasonCode : Str}
    {permissionGrant : Option CodexAppServerPermissionGrant}
    {commandDecision : Option CodexCommandApprovalDecision}
    (hcall : sendDecision options env approval decision reasonCode permissionGrant commandDecision
      s = (.ok .sent, t)) :
    t.items = s.items ∧ ∃ response ∈ t.responses, response.requestId = approval.requestId ∧
      response.decision = decision := by
  obtain ⟨now, hnow, hlater⟩ := h.known.known
  unfold sendDecision at hcall
  obtain ⟨current, u, hread, hcall⟩ := exists_of_bind_ok hcall
  obtain ⟨rfl, rfl⟩ := eq_of_read_ok hread
  rw [hnow, Option.getD_some] at hcall
  split_ifs at hcall with hanswered
  · exact nomatch (eq_of_pure_ok hcall).1
  obtain ⟨allowed, u, hmay, hcall⟩ := exists_of_bind_ok hcall
  obtain ⟨happrovals, hitems, -⟩ := maySend_ok hmay
  split_ifs at hcall
  · exact nomatch (eq_of_pure_ok hcall).1
  obtain ⟨response, v, hlift, hcall⟩ := exists_of_bind_ok hcall
  obtain ⟨hparse, rfl⟩ := eq_of_lift_ok hlift
  have hresponse := (parse_eq_ok.mp hparse).2
  have hid : response.requestId = now.requestId := by rw [← hresponse]
  rw [deliver_eq _ hid] at hcall
  · -- the transport has taken it, so only the approval is written behind it
    unfold awaitDelivery at hcall
    obtain ⟨delivered, w, hask, hcall⟩ := exists_of_bind_ok hcall
    obtain ⟨-, rfl⟩ := Prod.mk.inj hask
    split_ifs at hcall with hdelivered
    · obtain ⟨_, w, hmodify, hcall⟩ := exists_of_bind_ok hcall
      rw [← eq_of_modify_ok hmodify] at hcall
      obtain ⟨-, rfl⟩ := eq_of_pure_ok hcall
      refine ⟨hitems, response, ?_, hid.trans hlater.requestId, by rw [← hresponse]⟩
      rw [responses_eq, mem_responsesOf]
      exact List.mem_append_right _ List.mem_cons_self
    · obtain ⟨_, w, -, hcall⟩ := exists_of_bind_ok hcall
      obtain ⟨_, w, -, hcall⟩ := exists_of_bind_ok hcall
      exact nomatch (eq_of_pure_ok hcall).1
  · rw [happrovals, hid, hlater.requestId]
    exact hnow

end CodexRouter.Adapter
