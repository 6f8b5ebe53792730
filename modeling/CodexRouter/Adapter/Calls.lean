import CodexRouter.Adapter.Acceptance

/-!
# Calls as runs of moves

What each event and each operator does is a run of moves for one turn: that of the event, or that of
the approval which the operator answers.
-/

open Js Runs CodexRouter.Kernel

namespace CodexRouter.Adapter

open Preview Authorization Retain Relation Comp

variable [Runtime] {options : CodexAppServerAdapterOptions} {env : Env} {threadId turnId : Str}
  {s t : AdapterState}

/-! ## Items -/

lemma performs_reconcileTurn (hs : Kept s) (reason : Str) {x : Call CodexAdapterOutcome}
    (hx : ∀ t, Performs options threadId turnId x t) :
    Performs options threadId turnId (do
      markTurnForReconciliation options env threadId turnId reason
      x) s := by
  apply StepsAt.bind (performs_markTurnForReconciliation hs _)
  intro _ t _ _
  exact hx t

lemma performs_handleItemStarted (hs : Kept s) (schemaProfileId : Str)
    (item : NormalizedFileChangeItem) :
    Performs options threadId turnId
      (handleItemStarted options env schemaProfileId threadId turnId item) s := by
  unfold handleItemStarted
  apply StepsAt.read_bind
  apply StepsAt.ite
  · intro _
    exact performs_reconcileTurn hs _ fun _ => performs_outcome _ _ _
  intro hnew
  split
  · apply StepsAt.bind
    · apply ReflTransGen.single
      apply Move.propose
      simpa using hnew
    · intro _ _ _ _
      exact performs_outcome _ _ _
  · exact performs_reconcileTurn hs _ fun _ => performs_outcome _ _ _

lemma performs_handleItemUpdated (hs : Kept s) (schemaProfileId : Str)
    (update : NormalizedFileChangeItem) :
    Performs options threadId turnId
      (handleItemUpdated options env schemaProfileId threadId turnId update) s := by
  unfold handleItemUpdated
  apply StepsAt.read_bind
  apply StepsAt.bind performs_turn
  intro record u hcall hsu
  have hitems := (turn_ok hcall).2.2.1
  have hkept := hsu.kept hs
  dsimp only
  split
  · apply performs_reconcileTurn hkept
    intro _
    apply StepsAt.read_bind
    exact performs_outcome _ _ _
  · rename_i item hfound
    obtain ⟨hget, hopen⟩ := Option.filter_eq_some_iff.mp hfound
    obtain ⟨⟨hstate, hfree⟩, -⟩ : (item.state = .proposed ∧ item.approvalRequestId = none) ∧
        record.blocked = false := by
      simpa using hopen
    split
    · apply StepsAt.bind
      · apply performs_modifyItem (inScope_itemKey _ _ _ _)
        intro now hnow
        rw [hitems, hget] at hnow
        cases hnow
        exact .replace _ hstate hfree
      · intro _ _ _ _
        exact performs_outcome _ _ _
    · apply performs_reconcileTurn hkept
      intro _
      apply StepsAt.read_bind
      exact performs_outcome _ _ _

/-! ## Approval requests -/

lemma performs_awaitOperator (hs : Kept s) {approval : ApprovalRecord} {item : ItemRecord}
    (hitem : ItemOf threadId turnId item s) (reasons : List Str) (details : OutcomeDetails) :
    Performs options threadId turnId (awaitOperator options approval item reasons details) s := by
  unfold awaitOperator
  apply StepsAt.bind (performs_plainTransition hs hitem.inScope FileChangeLifecycleState.noConfusion
    FileChangeLifecycleState.noConfusion)
  intro _ _ _ _
  apply StepsAt.read_bind
  exact performs_outcome _ _ _

omit [Runtime] in
/-- Behind a transition that returned, the item is in the state. -/
lemma transitionItem_ok {item : ItemRecord} {next : FileChangeLifecycleState} {a : Unit}
    (hs : Kept s) (hknown : ∃ now, s.items.get? item.key = some now)
    (h : transitionItem item next s = (.ok a, t)) :
    ∃ now, t.items.get? item.key = some now ∧ now.state = next := by
  obtain ⟨now, hnow⟩ := hknown
  have hkey : now.key = item.key := (hs.item_key hnow).1
  unfold transitionItem at h
  obtain ⟨current, u, hread, h⟩ := exists_of_bind_ok h
  obtain ⟨rfl, rfl⟩ := eq_of_read_ok hread
  rw [hnow, Option.getD_some] at h
  split_ifs at h with hsame
  · obtain ⟨-, rfl⟩ := eq_of_pure_ok h
    exact ⟨now, hnow, hsame⟩
  · rw [← eq_of_modify_ok h, hkey]
    refine ⟨{ now with state := next }, ?_, rfl⟩
    show (s.items.modify _ _).get? _ = _
    rw [Map.get?_modify_self, hnow]
    rfl
  · exact nomatch (eq_of_lift_ok h).1

lemma performs_previewAndAccept (hs : Kept s) {approval : ApprovalRecord} {item : ItemRecord}
    (happroval : ApprovalOf threadId turnId approval s) (hitem : ItemOf threadId turnId item s)
    (hsame : approval.itemKey = item.key) (hkind : approval.proposal.kind = .fileChange)
    (hmode : resolveAuthorizationMode options = .authorizationEnforced)
    (authorization : AuthorizationDecision) :
    Performs options threadId turnId
      (previewAndAccept options env approval item authorization) s := by
  have hplain : ∀ {next : FileChangeLifecycleState} (t), next ≠ .acceptedByAppServer →
      next ≠ .retained → Moves options threadId turnId s t →
      Performs options threadId turnId (transitionItem item next) t :=
    fun t haccepted hretained hst => performs_plainTransition (hst.kept hs)
      (hitem.moves hst).inScope haccepted hretained
  have hthen : ∀ {t u}, Moves options threadId turnId s t → Moves options threadId turnId t u →
      Moves options threadId turnId s u := fun hst htu => hst.trans htu
  unfold previewAndAccept
  apply StepsAt.bind (hplain s FileChangeLifecycleState.noConfusion
    FileChangeLifecycleState.noConfusion (refl s))
  intro _ t _ hst
  apply StepsAt.bind (performs_of_aside (aside_ask _))
  intro preview u _ htu
  have hsu := hthen hst htu
  split
  · exact performs_declineAndReport (hsu.kept hs) (happroval.moves hsu) (hitem.moves hsu) _ _ _ _ _
  apply StepsAt.bind
  · apply performs_modifyItem (hitem.moves hsu).inScope
    intro now _
    exact .preview now _
  intro _ v _ huv
  have hsv := hthen hsu huv
  apply StepsAt.ite
  · intro _
    exact performs_awaitOperator (hsv.kept hs) (hitem.moves hsv) _ _
  intro _
  apply StepsAt.bind (hplain v FileChangeLifecycleState.noConfusion
    FileChangeLifecycleState.noConfusion hsv)
  intro _ w _ hvw
  have hsw := hthen hsv hvw
  apply StepsAt.bind (hplain w FileChangeLifecycleState.noConfusion
    FileChangeLifecycleState.noConfusion hsw)
  intro _ x hcall hwx
  have hsx := hthen hsw hwx
  -- the transition has returned, so the item is approved when it is accepted
  obtain ⟨before, hbefore, -⟩ := (hitem.moves hsw).known
  obtain ⟨now, hnow, hstate⟩ := transitionItem_ok (hsw.kept hs) ⟨before, hbefore⟩ hcall
  apply StepsAt.bind (performs_of_aside (aside_ask _))
  intro nonce y hask hxy
  have hsy := hthen hsx hxy
  have hynow : y.items.get? item.key = some now := by
    rw [(aside_of_call (aside_ask _) hask).items]
    exact hnow
  exact performs_persistAndAccept ⟨hsy.kept hs, happroval.moves hsy, hitem.moves hsy, hsame, hkind,
    hmode⟩ hynow (.inr hstate)

omit [Runtime] in
lemma aside_lift {α : Type} (r : Result α) : Steps Aside (Comp.lift r : Call α) := Steps.lift r

omit [Runtime] in
lemma aside_askOr {α : Type} (answer : ℕ → Option α) (message : Str) :
    Steps Aside (askOr answer message) := by
  unfold askOr
  apply Steps.bind (aside_ask _)
  intro found
  split
  · exact Steps.pure _
  · exact Steps.lift _

lemma aside_assess (changeSet : GovernedFileChangeSet) :
    Steps Aside (assess options env changeSet) := by
  unfold assess
  apply Steps.bind (aside_askOr _ _)
  intro context
  apply Steps.bind (aside_lift _)
  intro facts
  apply Steps.bind (aside_lift _)
  intro requestedCapabilities
  apply Steps.bind (aside_askOr _ _)
  intro semanticRisk
  apply Steps.bind (aside_ask _)
  intro createdAt
  apply Steps.bind (aside_lift _)
  intro authorization
  exact Steps.pure _

lemma performs_authorizeFileRequest (hs : Kept s) {approval : ApprovalRecord} {item : ItemRecord}
    (happroval : ApprovalOf threadId turnId approval s) (hitem : ItemOf threadId turnId item s)
    (hsame : approval.itemKey = item.key) (hkind : approval.proposal.kind = .fileChange)
    (hmode : resolveAuthorizationMode options = .authorizationEnforced)
    (grantRoot : Option Str) :
    Performs options threadId turnId
      (authorizeFileRequest options env approval item grantRoot) s := by
  have hassess : Steps Aside (Comp.handle (some <$> assess options env item.changeSet)
      fun _ => pure none) := by
    apply Steps.handle
    · exact Steps.map (aside_assess _) some
    · intro _
      exact Steps.pure _
  unfold authorizeFileRequest
  apply StepsAt.bind (performs_of_aside hassess)
  intro assessed t _ hst
  split
  · exact performs_declineAndReport (hst.kept hs) (happroval.moves hst) (hitem.moves hst) _ _ _ _ _
  apply StepsAt.bind
  · apply performs_modifyItem (hitem.moves hst).inScope
    intro now _
    exact .assess now _ _ _
  intro _ u _ htu
  have hsu : Moves options threadId turnId s u := hst.trans htu
  apply StepsAt.bind (performs_plainTransition (hsu.kept hs) (hitem.moves hsu).inScope
    FileChangeLifecycleState.noConfusion FileChangeLifecycleState.noConfusion)
  intro _ v _ huv
  have hsv : Moves options threadId turnId s v := hsu.trans huv
  have hkept := hsv.kept hs
  apply StepsAt.ite
  · intro _
    exact performs_declineAndReport hkept (happroval.moves hsv) (hitem.moves hsv) _ _ _ _ _
  intro _
  apply StepsAt.ite
  · intro _
    exact performs_awaitOperator hkept (hitem.moves hsv) _ _
  intro _
  apply StepsAt.ite
  · intro _
    exact performs_awaitOperator hkept (hitem.moves hsv) _ _
  · intro _
    exact performs_previewAndAccept hkept (happroval.moves hsv) (hitem.moves hsv) hsame hkind hmode _

omit [Runtime] in
lemma itemOf_get (hs : Kept s) {itemId : Str} {item : ItemRecord}
    (hget : s.items.get? (itemKey threadId turnId itemId) = some item) :
    item.key = itemKey threadId turnId itemId ∧ ItemOf threadId turnId item s := by
  have hkey := (hs.item_key hget).1
  exact ⟨hkey, ⟨itemId, hkey⟩, item, hkey ▸ hget, LaterItem.refl item⟩

lemma performs_handleFileApprovalRequested (hs : Kept s) {approval : ApprovalRecord}
    (happroval : ApprovalOf threadId turnId approval s)
    (hkind : approval.proposal.kind = .fileChange) (grantRoot : Option Str) :
    Performs options threadId turnId
      (handleFileApprovalRequested options env approval grantRoot) s := by
  unfold handleFileApprovalRequested
  rw [happroval.threadId, happroval.turnId]
  apply StepsAt.read_bind
  apply StepsAt.bind performs_turn
  intro record t hcall hst
  have hitems := (turn_ok hcall).2.2.1
  have hkept := hst.kept hs
  split
  · apply StepsAt.bind (performs_markTurnForReconciliation hkept _)
    intro _ u _ htu
    exact performs_declineInvalidRequest (htu.kept hkept)
      ((happroval.moves hst).moves htu) _
  rename_i item hfound
  obtain ⟨hget, hopen⟩ := Option.filter_eq_some_iff.mp hfound
  have hfree : item.approvalRequestId = none := by
    rw [Bool.and_eq_true, Bool.and_eq_true] at hopen
    exact of_decide_eq_true hopen.1.1
  obtain ⟨hkey, hitem⟩ := itemOf_get hs hget
  have hsame : approval.itemKey = item.key := by
    rw [hkey, ApprovalRecord.itemKey, happroval.threadId, happroval.turnId]
  apply StepsAt.bind
  · apply performs_modifyItem (hitem.moves hst).inScope
    intro now hnow
    rw [hitems, hkey, hget] at hnow
    cases hnow
    exact .bind _ hfree
  intro _ u _ htu
  have hsu : Moves options threadId turnId s u := hst.trans htu
  have hkept := hsu.kept hs
  split
  · exact performs_declineAndReport hkept (happroval.moves hsu) (hitem.moves hsu) _ _ _ _ _
  apply StepsAt.ite
  · intro _
    exact performs_awaitOperator hkept (hitem.moves hsu) _ _
  · intro hmode
    exact performs_authorizeFileRequest hkept (happroval.moves hsu) (hitem.moves hsu) hsame hkind
      (not_not.mp hmode) _

lemma performs_handleApprovalRequested (hs : Kept s) (requestId itemId : Str)
    (proposal : CodexApprovalProposal) :
    Performs options threadId turnId
      (handleApprovalRequested options env threadId turnId requestId itemId proposal) s := by
  unfold handleApprovalRequested
  apply StepsAt.read_bind
  apply StepsAt.ite
  · intro _
    apply StepsAt.bind (performs_quarantineSession hs _)
    intro _ _ _ _
    exact performs_quarantinedOutcome _
  intro hnew
  apply StepsAt.bind
  · exact ReflTransGen.single (@Move.request _ options threadId turnId s
      { requestId, threadId, turnId, itemId, proposal, resolved := false, deliveryState := .pending
        sentDecision := none } (by simpa using hnew) ⟨rfl, rfl⟩ rfl)
  intro _ t hcall hst
  have hkept := hst.kept hs
  split
  · apply performs_handleFileApprovalRequested hkept _ rfl
    rw [← eq_of_modify_ok hcall]
    exact ⟨rfl, rfl, _, Map.get?_set_self _ _ _, LaterApproval.refl _⟩
  · exact performs_outcome _ _ _

/-! ## Resolutions and completions -/

lemma performs_handleRequestResolved (hs : Kept s) (requestId itemId : Str)
    (resolution : Resolution) :
    Performs options threadId turnId
      (handleRequestResolved options env threadId turnId requestId itemId resolution) s := by
  have hreconcile : ∀ t reason details, Kept t → Performs options threadId turnId (do
      markTurnForReconciliation options env threadId turnId reason
      outcome options .reconciliationRequired [reason] details) t :=
    fun t reason details ht => performs_reconcileTurn ht reason fun _ => performs_outcome _ _ _
  unfold handleRequestResolved
  apply StepsAt.read_bind
  dsimp only
  split
  · exact hreconcile s _ _ hs
  rename_i approval hfound
  obtain ⟨hget, hturn⟩ := Option.filter_eq_some_iff.mp hfound
  obtain ⟨⟨-, hthread⟩, hturn⟩ : (approval.itemId = itemId ∧ approval.threadId = threadId) ∧
      approval.turnId = turnId := by
    simpa using hturn
  have hid : approval.requestId = requestId := hs.approval_key hget
  apply StepsAt.bind
  · rw [← hid]
    exact performs_modifyApproval ⟨hthread, hturn, approval, hid ▸ hget, LaterApproval.refl _⟩
      fun now => .resolve now
  intro _ t _ hst
  have hkept := hst.kept hs
  apply StepsAt.ite
  · intro _
    exact hreconcile t _ _ hkept
  intro _
  apply StepsAt.ite
  · intro _
    exact hreconcile t _ _ hkept
  intro _
  apply StepsAt.ite
  · intro _
    exact hreconcile t _ _ hkept
  intro _
  split
  · exact hreconcile t _ _ hkept
  · apply StepsAt.ite
    · intro _
      exact hreconcile t _ _ hkept
    · intro _
      exact performs_outcome _ _ _

/-- The transition behind the update finds the items that the update found. -/
lemma performs_moveItem (hs : Kept s) {item : ItemRecord} (hitem : ItemOf threadId turnId item s)
    (next : PendingApprovalJournalState) {state : FileChangeLifecycleState} (reasons : List Str)
    (haccepted : state ≠ .acceptedByAppServer)
    (hretained : state = .retained → ∀ now, s.items.get? item.key = some now → Verified now) :
    Performs options threadId turnId (moveItem options env item next state reasons) s := by
  unfold moveItem
  apply StepsAt.handle
  · apply StepsAt.bind (performs_of_aside (aside_updateJournalState _ _ _))
    intro _ t hcall hst
    have hitems := (aside_of_call (aside_updateJournalState _ _ _) hcall).items
    apply StepsAt.bind
    · apply performs_transitionItem (hst.kept hs) (hitem.moves hst).inScope
      · exact fun hnext => absurd hnext haccepted
      · rw [hitems]
        exact hretained
    · intro _ _ _ _
      exact StepsAt.pure _
  · intro _ _ _ _
    exact StepsAt.pure _

lemma performs_reconcileItem (hs : Kept s) {item : ItemRecord}
    (hitem : ItemOf threadId turnId item s) (itemId : Str) (reasons : List Str)
    (retainReceipt : Option RetainReceipt) :
    Performs options threadId turnId
      (reconcileItem options env item itemId reasons retainReceipt) s := by
  unfold reconcileItem
  apply StepsAt.bind (performs_markItemReconciliation hs hitem.inScope _)
  intro _ _ _ _
  apply StepsAt.read_bind
  exact performs_outcome _ _ _

lemma performs_retainItem (hs : Kept s) {item : ItemRecord}
    (hitem : ItemOf threadId turnId item s) (hnow : s.items.get? item.key = some item)
    (hstate : item.state = .acceptedByAppServer) {permit : RetainPermit}
    (hpermit : item.retainPermit = some permit) (itemId : Str) :
    Performs options threadId turnId (retainItem options env item itemId permit) s := by
  unfold retainItem
  apply StepsAt.bind (performs_of_aside (aside_ask _))
  intro now t hask hst
  apply StepsAt.bind (performs_of_aside (aside_ask _))
  intro reads u hask' htu
  have hsu : Moves options threadId turnId s u := hst.trans htu
  have hunow : u.items.get? item.key = some item := by
    rw [(aside_of_call (aside_ask _) hask').items, (aside_of_call (aside_ask _) hask).items]
    exact hnow
  split
  · exact performs_reconcileItem (hsu.kept hs) (hitem.moves hsu) _ _ _
  rename_i receipt hverify
  have hverified : Verified { item with retainReceipt := some receipt } :=
    ⟨permit, receipt, reads, now, hpermit, rfl, hverify⟩
  apply StepsAt.bind
  · apply performs_modifyItem (hitem.moves hsu).inScope
    intro found hfound
    rw [hunow] at hfound
    cases hfound
    exact .retain receipt hstate hverified
  intro _ v hcall huv
  have hsv : Moves options threadId turnId s v := hsu.trans huv
  have hvnow : v.items.get? item.key = some { item with retainReceipt := some receipt } := by
    rw [← eq_of_modify_ok hcall]
    show (u.items.modify _ _).get? _ = _
    rw [Map.get?_modify_self, hunow]
    rfl
  apply StepsAt.bind
  · apply performs_moveItem (hsv.kept hs) (hitem.moves hsv) _ _
      FileChangeLifecycleState.noConfusion
    intro _ found hfound
    rw [hvnow] at hfound
    cases hfound
    exact hverified
  intro moved w _ hvw
  have hsw : Moves options threadId turnId s w := hsv.trans hvw
  apply StepsAt.ite
  · intro _
    exact performs_reconcileItem (hsw.kept hs) (hitem.moves hsw) _ _ _
  intro _
  apply StepsAt.bind
  · exact performs_moveItem (hsw.kept hs) (hitem.moves hsw) _ _
      FileChangeLifecycleState.noConfusion fun hnext => nomatch hnext
  intro checked x _ hwx
  have hsx : Moves options threadId turnId s x := hsw.trans hwx
  apply StepsAt.ite
  · intro _
    exact performs_reconcileItem (hsx.kept hs) (hitem.moves hsx) _ _ _
  · intro _
    apply StepsAt.read_bind
    exact performs_outcome _ _ _

lemma performs_handleItemCompleted (hs : Kept s) (itemId : Str) (applyOutcome : ApplyOutcome) :
    Performs options threadId turnId
      (handleItemCompleted options env threadId turnId itemId applyOutcome) s := by
  unfold handleItemCompleted
  apply StepsAt.bind performs_turn
  intro record t _ hst
  have hkept := hst.kept hs
  apply StepsAt.ite
  · intro _
    exact performs_reconcileTurn hkept _ fun _ => performs_outcome _ _ _
  intro _
  apply StepsAt.bind (performs_modifyTurn fun record _ => .complete record _)
  intro _ u _ htu
  have hkept := htu.kept hkept
  apply StepsAt.read_bind
  split
  · exact performs_reconcileTurn hkept _ fun _ => performs_outcome _ _ _
  rename_i item hget
  obtain ⟨hkey, hitem⟩ := itemOf_get hkept hget
  have hnow : u.items.get? item.key = some item := hkey ▸ hget
  split
  · exact performs_reconcileItem hkept hitem _ _ _
  · dsimp only
    apply StepsAt.bind
    · exact performs_moveItem hkept hitem _ _ FileChangeLifecycleState.noConfusion
        fun hnext => nomatch hnext
    intro moved v _ huv
    apply StepsAt.ite
    · intro _
      apply StepsAt.read_bind
      exact performs_outcome _ _ _
    · intro _
      exact performs_reconcileItem (huv.kept hkept) (hitem.moves huv) _ _ _
  · apply StepsAt.ite
    · intro _
      exact performs_outcome _ _ _
    intro _
    split
    · exact performs_reconcileItem hkept hitem _ _ _
    rename_i permit hpermit
    apply StepsAt.ite
    · intro _
      exact performs_reconcileItem hkept hitem _ _ _
    · intro hready
      have hstate : item.state = .acceptedByAppServer := by
        by_contra hstate
        exact hready (by simp [hstate])
      exact performs_retainItem hkept hitem hnow hstate hpermit _

/-! ## Ingestion -/

lemma performs_handleTurnEvent (hs : Kept s) (schemaProfileId : Str) {event : TurnEvent}
    (hthread : event.threadId = threadId) (hturn : event.turnId = turnId) :
    Performs options threadId turnId (handleTurnEvent options env schemaProfileId event) s := by
  unfold handleTurnEvent
  rw [hthread, hturn]
  apply StepsAt.bind (performs_acceptSequence _)
  intro refused t _ hst
  have hkept := hst.kept hs
  split
  · exact performs_reconcileTurn hkept _ fun _ => performs_outcome _ _ _
  · split
    · exact performs_handleItemStarted hkept _ _
    · exact performs_handleItemUpdated hkept _ _
    · exact performs_handleApprovalRequested hkept _ _ _
    · exact performs_handleRequestResolved hkept _ _ _
    · exact performs_handleItemCompleted hkept _ _

lemma performs_quarantine (hs : Kept s) (reason : Str) :
    Performs options threadId turnId (quarantine options env reason) s := by
  unfold quarantine
  apply StepsAt.bind (performs_quarantineSession hs _)
  intro _ _ _ _
  exact performs_quarantinedOutcome _

/-- The turn that an input works for. An input without one works for each. -/
def InputOf (threadId turnId : Str) (input : Option CodexAppServerNormalizedEvent) : Prop :=
  ∀ event ∈ input, ∀ turnEvent, event.kind = .turn turnEvent →
    turnEvent.threadId = threadId ∧ turnEvent.turnId = turnId

theorem performs_ingest (hs : Kept s) {input : Option CodexAppServerNormalizedEvent}
    (hinput : InputOf threadId turnId input) :
    Performs options threadId turnId (ingest options env input) s := by
  unfold ingest
  apply StepsAt.bind (performs_ensureJournalContinuity hs)
  intro _ t _ hst
  have hkept := hst.kept hs
  apply StepsAt.read_bind
  apply StepsAt.ite
  · intro _
    exact performs_quarantinedOutcome _
  intro _
  split
  · exact performs_quarantine hkept _
  rename_i event hfound
  have hevent := (Option.filter_eq_some_iff.mp hfound).1
  apply StepsAt.ite
  · intro _
    exact performs_quarantine hkept _
  intro _
  apply StepsAt.read_bind
  apply StepsAt.ite
  · intro _
    exact performs_quarantine hkept _
  intro _
  apply StepsAt.bind
  · exact ReflTransGen.single (.see _)
  intro _ u _ htu
  have hkept := htu.kept hkept
  split
  · exact performs_quarantine hkept _
  · rename_i turnEvent hkind
    obtain ⟨hthread, hturn⟩ := hinput event hevent turnEvent hkind
    exact performs_handleTurnEvent hkept _ hthread hturn

/-! ## Operators -/

omit [Runtime] in
/-- The item that an approval is about. -/
lemma ApprovalRecord.itemOf_get (hs : Kept s) {approval : ApprovalRecord}
    (happroval : ApprovalOf threadId turnId approval s) {item : ItemRecord}
    (hget : s.items.get? approval.itemKey = some item) :
    approval.itemKey = item.key ∧ ItemOf threadId turnId item s := by
  rw [ApprovalRecord.itemKey, happroval.threadId, happroval.turnId] at hget ⊢
  obtain ⟨hkey, hitem⟩ := Adapter.itemOf_get hs hget
  exact ⟨hkey.symm, hitem⟩

lemma performs_declineByOperator (hs : Kept s) {approval : ApprovalRecord}
    (happroval : ApprovalOf threadId turnId approval s) {item : Option ItemRecord}
    (hitem : ∀ found ∈ item, ItemOf threadId turnId found s) (input : HumanApprovalInput) :
    Performs options threadId turnId
      (declineByOperator options env input approval item) s := by
  unfold declineByOperator
  dsimp only
  split
  · apply StepsAt.bind (performs_sendDecision (Answers.decline hs happroval) _ _ _)
    intro _ _ _ _
    apply StepsAt.read_bind
    exact performs_outcome _ _ _
  · apply StepsAt.bind (performs_declineFileItem hs happroval (hitem _ rfl) _)
    intro _ _ _ _
    apply StepsAt.read_bind
    exact performs_outcome _ _ _

/-- Nothing has to be written for an acceptance that is not one of a change set. -/
lemma performs_acceptByOperator (hs : Kept s) {approval : ApprovalRecord}
    (happroval : ApprovalOf threadId turnId approval s)
    (hkind : approval.proposal.kind ≠ .fileChange) (input : HumanApprovalInput) :
    Performs options threadId turnId (acceptByOperator options env input approval) s := by
  unfold acceptByOperator
  apply StepsAt.bind
  · exact performs_sendDecision ⟨hs, happroval, fun _ hfile => absurd hfile hkind⟩ _ _ _
  · intro _ _ _ _
    exact performs_outcome _ _ _

lemma performs_acceptFileByOperator (hs : Kept s) {approval : ApprovalRecord} {item : ItemRecord}
    (happroval : ApprovalOf threadId turnId approval s) (hitem : ItemOf threadId turnId item s)
    (hnow : s.items.get? item.key = some item) (hsame : approval.itemKey = item.key)
    (hkind : approval.proposal.kind = .fileChange) (hstate : item.state = .awaitingApproval)
    (input : HumanApprovalInput) :
    Performs options threadId turnId
      (acceptFileByOperator options env input approval item) s := by
  unfold acceptFileByOperator
  apply StepsAt.ite
  · intro hmode
    have hanswers : Answers options threadId turnId approval .accept s :=
      ⟨hs, happroval, fun _ _ henforced => absurd henforced hmode⟩
    apply StepsAt.bind (performs_sendDecision hanswers _ _ _)
    intro delivery t _ hst
    have hreport : ∀ u, Performs options threadId turnId (do
        let item ← current item
        outcome options (if delivery = .sent then .observed else .reconciliationRequired)
          (js "session_observe_only_no_governed_retain_claim"
            :: if delivery = .sent then [] else [js "approval_response_send_failed"])
          { requestId := some input.requestId, itemId := some approval.itemId
            lifecycleState := some item.state }) u := by
      intro u
      apply StepsAt.read_bind
      exact performs_outcome _ _ _
    dsimp only
    apply StepsAt.ite
    · intro _
      apply StepsAt.bind (performs_markItemReconciliation (hst.kept hs) (hitem.moves hst).inScope _)
      intro _ u _ _
      exact hreport u
    · intro _
      exact hreport t
  intro hmode
  split
  · exact performs_declineAndReport hs happroval hitem _ _ _ _ _
  apply StepsAt.ite
  · intro _
    exact performs_declineAndReport hs happroval hitem _ _ _ _ _
  intro _
  apply StepsAt.lift_bind
  intro authorization _
  apply StepsAt.bind
  · apply performs_modifyItem hitem.inScope
    intro now _
    exact .assess now now.repoRoot now.expectedBranch (some authorization)
  intro _ t hcall hst
  have htnow : t.items.get? item.key =
      some { item with authorizationDecision := some authorization } := by
    rw [← eq_of_modify_ok hcall]
    show (s.items.modify _ _).get? _ = _
    rw [Map.get?_modify_self, hnow]
    rfl
  have haccept : ∀ nonce u, Moves options threadId turnId t u → u.items = t.items →
      Performs options threadId turnId (persistAndAccept options env
        { item, approval, authorization, preview := none, nonce
          reasonCode := js "operator_approved" }) u := by
    intro nonce u htu hitems
    have hsu : Moves options threadId turnId s u := hst.trans htu
    have hunow := htnow
    rw [← hitems] at hunow
    exact performs_persistAndAccept ⟨hsu.kept hs, happroval.moves hsu, hitem.moves hsu, hsame,
      hkind, not_not.mp hmode⟩ hunow (.inl hstate)
  split
  · exact haccept _ t (refl t) rfl
  · apply StepsAt.bind (performs_of_aside (aside_ask _))
    intro nonce u hask htu
    exact haccept nonce u htu (aside_of_call (aside_ask _) hask).items

lemma performs_passSelection (hs : Kept s) {approval : ApprovalRecord}
    (happroval : ApprovalOf threadId turnId approval s) {item : Option ItemRecord}
    (hitem : item = s.items.get? approval.itemKey)
    (hstate : approval.proposal.kind = .fileChange → ∀ found ∈ item,
      found.state = .awaitingApproval) (input : HumanApprovalInput) :
    Performs options threadId turnId (passSelection options env input approval item) s := by
  have hfound : ∀ found ∈ item, approval.itemKey = found.key ∧
      ItemOf threadId turnId found s := by
    intro found hmem
    exact approval.itemOf_get hs happroval (hitem.symm.trans hmem)
  unfold passSelection
  split
  · exact performs_declineByOperator hs happroval (fun found hmem => (hfound found hmem).2) input
  apply StepsAt.ite
  · intro hkind
    exact performs_acceptByOperator hs happroval hkind input
  intro hkind
  have hkind := not_not.mp hkind
  split
  · rename_i found
    obtain ⟨hsame, hof⟩ := hfound found rfl
    have hnow : s.items.get? found.key = some found := by
      rw [← hsame, ← hitem]
    exact performs_acceptFileByOperator hs happroval hof hnow hsame hkind
      (hstate hkind found rfl) input
  · apply StepsAt.bind (performs_sendDecision (Answers.decline hs happroval) _ _ _)
    intro _ _ _ _
    exact performs_outcome _ _ _

lemma performs_unavailable (input : HumanApprovalInput) (approval : Option ApprovalRecord)
    (item : Option ItemRecord) :
    Performs options threadId turnId (unavailable options input approval item) s :=
  performs_outcome _ _ _

/-- An approval that is known later was known before, or it is one of the turn. -/
lemma Moves.approval_of_turn (h : Moves options threadId turnId s t) {requestId : Str}
    {approval : ApprovalRecord} (ht : t.approvals.get? requestId = some approval) :
    (∃ before, s.approvals.get? requestId = some before ∧ LaterApproval before approval) ∨
      (approval.threadId = threadId ∧ approval.turnId = turnId) := by
  induction h generalizing approval with
  | refl => exact .inl ⟨approval, ht, LaterApproval.refl approval⟩
  | tail _ hmove ih =>
    rcases hmove.approval_cases requestId with hsame | ⟨later, hthread, hturn, hlater, -⟩
    · exact ih (hsame.symm.trans ht)
    · rw [ht] at hlater
      cases hlater
      exact .inr ⟨hthread, hturn⟩

/-- The turn of the approval that an operator answers. -/
def RequestOf (threadId turnId : Str) (s : AdapterState) (requestId : Str) : Prop :=
  ∀ approval ∈ s.approvals.get? requestId,
    approval.threadId = threadId ∧ approval.turnId = turnId

theorem performs_resolveHumanApproval (hs : Kept s) {input : HumanApprovalInput}
    (hrequest : RequestOf threadId turnId s input.requestId) :
    Performs options threadId turnId (resolveHumanApproval options env input) s := by
  unfold resolveHumanApproval
  apply StepsAt.ite
  · intro _
    exact performs_outcome _ _ _
  intro _
  unfold resolveHumanApprovalSerialized
  apply StepsAt.bind (performs_ensureJournalContinuity hs)
  intro _ t _ hst
  have hkept := hst.kept hs
  apply StepsAt.read_bind
  apply StepsAt.ite
  · intro _
    exact performs_quarantinedOutcome _
  intro _
  apply StepsAt.read_bind
  split
  · exact performs_unavailable _ _ _
  rename_i approval hget
  obtain ⟨hthread, hturn⟩ : approval.threadId = threadId ∧ approval.turnId = turnId := by
    rcases hst.approval_of_turn hget with ⟨before, hbefore, hlater⟩ | hturn
    · obtain ⟨hthread, hturn⟩ := hrequest before hbefore
      exact ⟨hlater.threadId.trans hthread, hlater.turnId.trans hturn⟩
    · exact hturn
  have hid : approval.requestId = input.requestId := hkept.approval_key hget
  have happroval : ApprovalOf threadId turnId approval t :=
    ⟨hthread, hturn, approval, hid ▸ hget, LaterApproval.refl approval⟩
  apply StepsAt.read_bind
  apply StepsAt.ite
  · intro _
    exact performs_unavailable _ _ _
  intro _
  rw [hthread, hturn]
  apply StepsAt.bind performs_turn
  intro record u hcall htu
  have hitems := (turn_ok hcall).2.2.1
  apply StepsAt.ite
  · intro _
    exact performs_unavailable _ _ _
  intro _
  apply StepsAt.ite
  · intro _
    exact performs_unavailable _ _ _
  intro hwaiting
  split
  · exact performs_outcome _ _ _
  · apply performs_passSelection (htu.kept hkept) (happroval.moves htu)
    · rw [hitems, ApprovalRecord.itemKey, hthread, hturn]
    · intro hkind found hfound
      by_contra hstate
      apply hwaiting
      rw [Option.mem_def.mp hfound]
      simp [hkind, hstate]

end CodexRouter.Adapter
