import CodexRouter.Adapter.Answers

/-!
# Acceptances as runs of moves

Declining an item, and the order of an acceptance: entry, response, transition.
-/

open Js Runs CodexRouter.Kernel

namespace CodexRouter.Adapter

open Preview Authorization Retain Relation Comp

variable [Runtime] {options : CodexAppServerAdapterOptions} {env : Env} {threadId turnId : Str}
  {s t : AdapterState}

/-! ## What stays the same beside a call -/

omit [Runtime] in
lemma Aside.items (h : Aside s t) : t.items = s.items := by
  obtain ⟨_, _, _, _, rfl⟩ := h
  rfl

omit [Runtime] in
lemma Aside.approvals (h : Aside s t) : t.approvals = s.approvals := by
  obtain ⟨_, _, _, _, rfl⟩ := h
  rfl

omit [Runtime] in
lemma Aside.effects (h : Aside s t) : t.effects = s.effects := by
  obtain ⟨_, _, _, _, rfl⟩ := h
  rfl

omit [Runtime] in
/-- Where a call that only touches the sides has led. -/
lemma aside_of_call {α : Type} {x : Call α} (hx : Steps Aside x) {r : Except Thrown α}
    (h : x s = (r, t)) : Aside s t := by
  have hstep := hx s
  rw [h] at hstep
  exact hstep

/-! ## Declines -/

lemma performs_declineFileItem (hs : Kept s) {approval : ApprovalRecord} {item : ItemRecord}
    (happroval : ApprovalOf threadId turnId approval s) (hitem : ItemOf threadId turnId item s)
    (reasonCode : Str) :
    Performs options threadId turnId (declineFileItem options env approval item reasonCode) s := by
  unfold declineFileItem
  apply StepsAt.bind (performs_sendDecision (Answers.decline hs happroval) _ _ _)
  intro delivery u _ hsu
  have hkept := hsu.kept hs
  have hscope := (hitem.moves hsu).inScope
  split_ifs
  · apply StepsAt.bind (performs_plainTransition hkept hscope FileChangeLifecycleState.noConfusion
      FileChangeLifecycleState.noConfusion)
    intro _ _ _ _
    exact StepsAt.pure _
  · apply StepsAt.bind (performs_markItemReconciliation hkept hscope _)
    intro _ _ _ _
    exact StepsAt.pure _

lemma performs_declineAndReport (hs : Kept s) {approval : ApprovalRecord} {item : ItemRecord}
    (happroval : ApprovalOf threadId turnId approval s) (hitem : ItemOf threadId turnId item s)
    (itemId reasonCode : Str) (reasons : List Str)
    (authorizationDecision : Option AuthorizationDecision)
    (previewReceipt : Option PreviewReceipt) :
    Performs options threadId turnId (declineAndReport options env approval item itemId reasonCode
      reasons authorizationDecision previewReceipt) s := by
  unfold declineAndReport
  apply StepsAt.bind (performs_declineFileItem hs happroval hitem _)
  intro _ _ _ _
  apply StepsAt.read_bind
  exact performs_outcome _ _ _

lemma performs_declineInvalidRequest (hs : Kept s) {approval : ApprovalRecord}
    (happroval : ApprovalOf threadId turnId approval s) (reason : Str) :
    Performs options threadId turnId (declineInvalidRequest options env approval reason) s := by
  unfold declineInvalidRequest
  apply StepsAt.bind (performs_sendDecision (Answers.decline hs happroval) _ _ _)
  intro _ _ _ _
  exact performs_outcome _ _ _

/-! ## The entry -/

omit [Runtime] in
lemma not_blocked_of_issuable {changeSet : GovernedFileChangeSet}
    {authorization : AuthorizationDecision} {preview : Option PreviewReceipt} {a : Unit}
    (h : assertPermitIssuable changeSet authorization preview = .ok a) :
    authorization.disposition ≠ .blocked := by
  intro hblocked
  unfold assertPermitIssuable at h
  split_ifs at h <;> exact nomatch h

/-- No permit is issued under a decision that blocks. -/
lemma issueRetainPermit_ok {input : IssueRetainPermitInput} {permit : RetainPermit}
    (h : issueRetainPermit input = .ok permit) :
    input.authorizationDecision.disposition ≠ .blocked := by
  obtain ⟨changeSet, -, h⟩ := bind_eq_ok.mp h
  obtain ⟨authorization, hparse, h⟩ := bind_eq_ok.mp h
  obtain ⟨preview, -, h⟩ := bind_eq_ok.mp h
  obtain ⟨_, hissuable, -⟩ := bind_eq_ok.mp h
  rw [(parse_eq_ok.mp hparse).2]
  exact not_blocked_of_issuable hissuable

/-- An entry is bound to its change set and to the decision. -/
lemma createPendingApprovalJournalEntry_ok {input : PendingEntryInput}
    {entry : PendingApprovalJournalEntry}
    (h : createPendingApprovalJournalEntry input = .ok entry) :
    entry.journalId = input.journalId ∧
      entry.changeSetHash = input.changeSet.canonicalHash ∧
      entry.authorizationDecisionHash = hashKernelObject input.authorizationDecision.toJson := by
  obtain ⟨changeSet, hchangeSet, h⟩ := bind_eq_ok.mp h
  obtain ⟨authorization, hauthorization, h⟩ := bind_eq_ok.mp h
  obtain ⟨permit, -, h⟩ := bind_eq_ok.mp h
  obtain ⟨preview, -, h⟩ := bind_eq_ok.mp h
  rw [(parse_eq_ok.mp hchangeSet).2, (parse_eq_ok.mp hauthorization).2]
  dsimp only at h
  split_ifs at h with hbinding
  · exact nomatch h
  · obtain ⟨targetHashes, -, h⟩ := bind_eq_ok.mp h
    have hhash := not_not.mp (not_or.mp (not_or.mp hbinding).2).1
    rw [← (parse_eq_ok.mp h).2]
    exact ⟨rfl, rfl, hhash⟩

/-- The entry of an acceptance speaks of its request, its change set and its decision. -/
lemma issueEntry_ok {input : AcceptInput} {item : ItemRecord} {issuedAt expiresAt : Str}
    {permit : RetainPermit} {entry : PendingApprovalJournalEntry}
    (h : issueEntry input item issuedAt expiresAt = .ok (permit, entry)) :
    entry.journalId = journalIdOf input.approval.requestId ∧
      entry.changeSetHash = item.changeSet.canonicalHash ∧
      input.authorization.disposition ≠ .blocked ∧
      entry.authorizationDecisionHash = hashKernelObject input.authorization.toJson := by
  obtain ⟨permit', hpermit, h⟩ := bind_eq_ok.mp h
  obtain ⟨entry', hentry, h⟩ := bind_eq_ok.mp h
  cases h
  obtain ⟨hjournalId, hchangeSet, hhash⟩ := createPendingApprovalJournalEntry_ok hentry
  exact ⟨hjournalId, hchangeSet, issueRetainPermit_ok hpermit, hhash⟩

lemma performs_journalPut (entry : PendingApprovalJournalEntry) :
    Performs options threadId turnId (journalPut options env entry) s := by
  unfold journalPut
  apply StepsAt.bind (performs_of_aside (aside_ask _))
  intro fault _ _ _
  apply StepsAt.ite
  · intro _
    exact StepsAt.lift _
  intro _
  apply StepsAt.bind
  · apply performs_of_aside
    apply Steps.attempt
    intro s a t h
    obtain ⟨journal, -, h⟩ := bind_eq_ok.mp h
    cases h
    exact ⟨s.asked, journal, s.journalReconciliationFailures, s.ownedJournalIds, rfl⟩
  · intro _ _ _ _
    apply StepsAt.ite
    · intro _
      exact StepsAt.lift _
    · intro _
      exact ReflTransGen.single (.store entry)

/-- What was put is among the effects. -/
lemma journalPut_ok {entry : PendingApprovalJournalEntry} {a : Unit}
    (h : journalPut options env entry s = (.ok a, t)) :
    t.items = s.items ∧ t.approvals = s.approvals ∧ Effect.stored entry ∈ t.effects := by
  unfold journalPut at h
  obtain ⟨fault, u, hask, h⟩ := exists_of_bind_ok h
  have hsu := aside_of_call (aside_ask _) hask
  split_ifs at h with hfault hunsynced
  · exact nomatch (eq_of_lift_ok h).1
  · obtain ⟨_, v, -, h⟩ := exists_of_bind_ok h
    exact nomatch (eq_of_lift_ok h).1
  · obtain ⟨_, v, hput, h⟩ := exists_of_bind_ok h
    rw [← eq_of_modify_ok h]
    have huv : Aside u v := by
      refine aside_of_call (Steps.attempt ?_) hput
      intro s a t h
      obtain ⟨journal, -, h⟩ := bind_eq_ok.mp h
      cases h
      exact ⟨s.asked, journal, s.journalReconciliationFailures, s.ownedJournalIds, rfl⟩
    refine ⟨huv.items.trans hsu.items, huv.approvals.trans hsu.approvals, ?_⟩
    exact List.mem_append_right _ List.mem_cons_self

lemma performs_persistEntry (input : AcceptInput) (issuedAt expiresAt : Str) :
    Performs options threadId turnId (persistEntry options env input issuedAt expiresAt) s := by
  unfold persistEntry
  apply StepsAt.read_bind
  apply StepsAt.handle
  · apply StepsAt.lift_bind
    rintro ⟨permit, entry⟩ -
    apply StepsAt.bind (performs_journalPut entry)
    intro _ u _ _
    apply StepsAt.bind
    · exact ReflTransGen.single (.aside u.asked u.journal u.journalReconciliationFailures _)
    · intro _ _ _ _
      exact StepsAt.pure _
  · intro _ _ _ _
    exact StepsAt.pure _

/-- A permit comes with a stored entry of the item as it is. -/
lemma persistEntry_ok {input : AcceptInput} {issuedAt expiresAt : Str} {permit : RetainPermit}
    {journalId : Str}
    (h : persistEntry options env input issuedAt expiresAt s = (.ok (some (permit, journalId)), t))
    {now : ItemRecord} (hnow : s.items.get? input.item.key = some now) (hfrozen : Frozen now) :
    t.items = s.items ∧ t.approvals = s.approvals ∧
      journalId = journalIdOf input.approval.requestId ∧
      ∃ entry, Journals t.effects input.approval.requestId now entry := by
  unfold persistEntry at h
  obtain ⟨item, u, hread, h⟩ := exists_of_bind_ok h
  obtain ⟨rfl, rfl⟩ := eq_of_read_ok hread
  rw [hnow, Option.getD_some] at h
  unfold Comp.handle at h
  split at h
  · rename_i result u hcall
    cases h
    obtain ⟨⟨permit', entry⟩, v, hlift, hcall⟩ := exists_of_bind_ok hcall
    obtain ⟨hissue, rfl⟩ := eq_of_lift_ok hlift
    obtain ⟨_, v, hput, hcall⟩ := exists_of_bind_ok hcall
    obtain ⟨_, w, hmodify, hcall⟩ := exists_of_bind_ok hcall
    rw [← eq_of_modify_ok hmodify] at hcall
    obtain ⟨hresult, rfl⟩ := eq_of_pure_ok hcall
    cases hresult
    obtain ⟨hjournalId, hchangeSet, hblocked, hhash⟩ := issueEntry_ok hissue
    obtain ⟨hitems, happrovals, hstored⟩ := journalPut_ok hput
    exact ⟨hitems, happrovals, hjournalId, entry, hfrozen, hstored, hjournalId, hchangeSet,
      input.authorization, hblocked, hhash⟩
  · exact nomatch (eq_of_pure_ok h).1

/-! ## The acceptance -/

/-- The approval and the item of an acceptance belong together, in a session that enforces. -/
structure Acceptance (options : CodexAppServerAdapterOptions) (threadId turnId : Str)
    (input : AcceptInput) (s : AdapterState) : Prop where
  kept : Kept s
  approval : ApprovalOf threadId turnId input.approval s
  item : ItemOf threadId turnId input.item s
  same : input.approval.itemKey = input.item.key
  kind : input.approval.proposal.kind = .fileChange
  mode : resolveAuthorizationMode options = .authorizationEnforced

lemma Acceptance.moves {input : AcceptInput} (h : Acceptance options threadId turnId input s)
    (hst : Moves options threadId turnId s t) : Acceptance options threadId turnId input t :=
  ⟨hst.kept h.kept, h.approval.moves hst, h.item.moves hst, h.same, h.kind, h.mode⟩

/-- The item is ready for the response: its entry is written, and it is named in the item. -/
structure Ready (input : AcceptInput) (s : AdapterState) : Prop where
  ahead : WrittenAhead s s.effects input.approval
  named : ∃ now, s.items.get? input.item.key = some now ∧
    now.journalId = some (journalIdOf input.approval.requestId)

omit [Runtime] in
lemma Acceptance.accepted {input : AcceptInput} (h : Acceptance options threadId turnId input s)
    {response : CodexAppServerApprovalResponse} (hmem : response ∈ s.responses)
    (hid : response.requestId = input.approval.requestId) (hdecision : response.decision = .accept)
    {now : ItemRecord} (hnow : s.items.get? input.item.key = some now)
    (hnamed : now.journalId = some (journalIdOf input.approval.requestId)) : Accepted s now := by
  obtain ⟨approval, hget, hlater⟩ := h.approval.known
  have hkey : now.key = input.item.key := (h.kept.item_key hnow).1
  refine ⟨response, hmem, approval, hdecision, hid ▸ hget, ?_, ?_, hid ▸ hnamed⟩
  · rw [hlater.proposal]
    exact h.kind
  · rw [hlater.itemKey_eq, h.same, hkey]

lemma aside_updated (options : CodexAppServerAdapterOptions) (env : Env) (item : ItemRecord)
    (next : PendingApprovalJournalState) (reasons : List Str) :
    Steps Aside (Comp.handle
      (do
        updateJournalState options env item next reasons
        pure true)
      fun _ => pure false) := by
  apply Steps.handle
  · apply Steps.bind (aside_updateJournalState _ _ _)
    intro _
    exact Steps.pure true
  · intro _
    exact Steps.pure false

lemma performs_markAndReport {input : AcceptInput} (h : Acceptance options threadId turnId input s)
    (reasons : List Str) {report : ItemRecord → Call CodexAdapterOutcome}
    (hreport : ∀ item t, Performs options threadId turnId (report item) t) :
    Performs options threadId turnId (do
      markItemReconciliation options env input.item reasons
      let item ← current input.item
      report item) s := by
  apply StepsAt.bind (performs_markItemReconciliation h.kept h.item.inScope _)
  intro _ _ _ _
  apply StepsAt.read_bind
  exact hreport _ _

lemma performs_acceptItem {input : AcceptInput} (h : Acceptance options threadId turnId input s)
    (hready : Ready input s) :
    Performs options threadId turnId (acceptItem options env input) s := by
  have hanswers : Answers options threadId turnId input.approval .accept s :=
    ⟨h.kept, h.approval, fun _ _ _ => hready.ahead⟩
  unfold acceptItem
  apply StepsAt.bind (performs_sendDecision hanswers _ _ _)
  intro delivery u hcall hsu
  have hu := h.moves hsu
  apply StepsAt.ite
  · intro _
    exact performs_markAndReport hu _ fun _ _ => performs_outcome _ _ _
  intro hdelivery
  rw [not_not.mp hdelivery] at hcall
  obtain ⟨hitems, response, hmem, hid, hdecision⟩ := sent_of_sendDecision hanswers hcall
  have haside := aside_updated options env input.item .accepted []
  apply StepsAt.bind (performs_of_aside haside)
  intro updated v hupdated huv
  have hv := hu.moves huv
  apply StepsAt.ite
  · intro _
    -- the journal has changed nothing but itself, so the item is still the one that was answered
    have hsame := aside_of_call haside hupdated
    apply StepsAt.bind
    · apply performs_transitionItem hv.kept hv.item.inScope
      · intro _ now hnow
        obtain ⟨before, hbefore, hnamed⟩ := hready.named
        have hnamed : now.journalId = some (journalIdOf input.approval.requestId) := by
          rw [hsame.items, hitems, hbefore] at hnow
          cases hnow
          exact hnamed
        have hmem : response ∈ v.responses := by
          rw [responses_eq, hsame.effects, ← responses_eq]
          exact hmem
        exact ⟨h.mode, hv.accepted hmem hid hdecision hnow hnamed⟩
      · exact fun hnext => nomatch hnext
    · intro _ _ _ _
      apply StepsAt.read_bind
      exact performs_outcome _ _ _
  · intro _
    exact performs_markAndReport hv _ fun _ _ => performs_outcome _ _ _

lemma performs_declinePreflight {input : AcceptInput}
    (h : Acceptance options threadId turnId input s) (reasons : List Str) :
    Performs options threadId turnId (declinePreflight options env input reasons) s := by
  unfold declinePreflight
  apply StepsAt.bind (performs_of_aside (aside_updated _ _ _ _ _))
  intro updated u _ hsu
  have hu := h.moves hsu
  apply StepsAt.ite
  · intro _
    exact performs_declineAndReport hu.kept hu.approval hu.item _ _ _ _ _
  · intro _
    exact performs_markAndReport hu _ fun _ _ => performs_outcome _ _ _

lemma performs_abandonAcceptance {input : AcceptInput}
    (h : Acceptance options threadId turnId input s) (reason : Str) :
    Performs options threadId turnId (abandonAcceptance options env input reason) s :=
  performs_markAndReport h _ fun _ _ => performs_quarantinedOutcome _

omit [Runtime] in
lemma aside_acceptPreflight (input : AcceptInput) : Steps Aside (acceptPreflight env input) := by
  unfold acceptPreflight
  apply Steps.read_bind
  intro item
  split_ifs
  · exact Steps.pure _
  · apply Steps.bind (aside_ask _)
    intro baseReasons
    split_ifs
    · exact Steps.pure _
    · exact aside_ask _

/-- The item as it is when the permit is granted. -/
lemma ready_of_granted {input : AcceptInput} (now : ItemRecord) (permit : RetainPermit)
    (h : Acceptance options threadId turnId input s) {entry : PendingApprovalJournalEntry}
    (hnow : s.items.get? input.item.key = some
      { now with retainPermit := some permit
                 journalId := some (journalIdOf input.approval.requestId) })
    (hentry : Journals s.effects input.approval.requestId now entry) : Ready input s where
  ahead := by
    have hgranted : Journals s.effects input.approval.requestId
        { now with retainPermit := some permit
                   journalId := some (journalIdOf input.approval.requestId) } entry :=
      ⟨hentry.frozen, hentry.stored, hentry.journalId, hentry.changeSet, hentry.authorized⟩
    exact ⟨_, entry, h.same ▸ hnow, hgranted⟩
  named := ⟨_, hnow, rfl⟩

lemma Ready.aside {input : AcceptInput} (h : Ready input s) (hst : Aside s t) : Ready input t := by
  obtain ⟨⟨item, entry, hget, hentry⟩, hnamed⟩ := h
  constructor
  · refine ⟨item, entry, ?_, hentry.frozen, ?_, hentry.journalId, hentry.changeSet,
      hentry.authorized⟩
    · rw [hst.items]
      exact hget
    · rw [hst.effects]
      exact hentry.stored
  · rw [hst.items]
    exact hnamed

/-- The permit and the preflight, behind the entry. -/
lemma performs_granted {input : AcceptInput} (h : Acceptance options threadId turnId input s)
    {now : ItemRecord} (hnow : s.items.get? input.item.key = some now)
    (hstate : now.state = .awaitingApproval ∨ now.state = .autoApproved)
    {entry : PendingApprovalJournalEntry}
    (hentry : Journals s.effects input.approval.requestId now entry) (permit : RetainPermit) :
    Performs options threadId turnId (do
      modifyItem input.item.key fun item =>
        { item with retainPermit := some permit
                    journalId := some (journalIdOf input.approval.requestId) }
      match ← Comp.read (·.sessionCompromisedReason) with
      | some reason => abandonAcceptance options env input reason
      | none => do
        let reasons ← acceptPreflight env input
        if reasons ≠ [] then declinePreflight options env input reasons
        else acceptItem options env input) s := by
  apply StepsAt.bind
  · apply performs_modifyItem h.item.inScope
    intro item hitem
    rw [hnow] at hitem
    cases hitem
    exact .grant permit _ hstate
  intro _ u hcall hsu
  have hu := h.moves hsu
  have hready : Ready input u := by
    rw [← eq_of_modify_ok hcall] at hu ⊢
    refine ready_of_granted now permit hu ?_ hentry
    show (s.items.modify _ _).get? _ = _
    rw [Map.get?_modify_self, hnow]
    rfl
  apply StepsAt.read_bind
  split
  · exact performs_abandonAcceptance hu _
  · apply StepsAt.bind (performs_of_aside (aside_acceptPreflight input))
    intro reasons v hpreflight huv
    have hv := hu.moves huv
    apply StepsAt.ite
    · intro _
      exact performs_declinePreflight hv _
    · intro _
      exact performs_acceptItem hv
        (hready.aside (aside_of_call (aside_acceptPreflight input) hpreflight))

lemma performs_persistAndAccept {input : AcceptInput}
    (h : Acceptance options threadId turnId input s)
    {now : ItemRecord} (hnow : s.items.get? input.item.key = some now)
    (hstate : now.state = .awaitingApproval ∨ now.state = .autoApproved) :
    Performs options threadId turnId (persistAndAccept options env input) s := by
  unfold persistAndAccept
  apply StepsAt.read_bind
  split
  · exact performs_abandonAcceptance h _
  apply StepsAt.bind (performs_of_aside (aside_ask _))
  intro issuedAt u hask hsu
  have hu := h.moves hsu
  have hunow : u.items.get? input.item.key = some now := by
    rw [(aside_of_call (aside_ask _) hask).items]
    exact hnow
  dsimp only
  split
  · exact StepsAt.lift _
  apply StepsAt.bind (performs_persistEntry _ _ _)
  intro persisted v hpersist huv
  have hv := hu.moves huv
  split
  · exact performs_declineAndReport hv.kept hv.approval hv.item _ _ _ _ _
  · rename_i permit journalId
    have hfrozen : Frozen now := by
      rcases hstate with hstate | hstate
      · exact .inl (hstate ▸ FileChangeLifecycleState.noConfusion)
      · exact .inl (hstate ▸ FileChangeLifecycleState.noConfusion)
    obtain ⟨hitems, -, rfl, entry, hentry⟩ := persistEntry_ok hpersist hunow hfrozen
    apply performs_granted hv _ hstate hentry
    rw [hitems]
    exact hunow

end CodexRouter.Adapter
