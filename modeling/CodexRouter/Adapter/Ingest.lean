import CodexRouter.Adapter.State

/-!
# Events

What the adapter does with each event of the app server.
-/

open Js Runs CodexRouter.Kernel

namespace CodexRouter.Adapter

open Preview Authorization Retain

variable [Runtime] (options : CodexAppServerAdapterOptions) (env : Env)

/-! ## Items -/

def canonicalizeNormalizedFileChange (schemaProfileId threadId turnId : Str)
    (item : NormalizedFileChangeItem) : Result GovernedFileChangeSet :=
  canonicalizeGovernedFileChangeSet {
    changeSetId := threadId ++ js ":" ++ turnId ++ js ":" ++ item.itemId
    threadId, turnId
    itemId := item.itemId
    baseHead := item.baseHead
    proposedAt := item.proposedAt
    sourceSchemaProfile := schemaProfileId
    changes := item.changes }

/-- The record of an item that has just been proposed. -/
def newItem (threadId turnId itemId : Str) (changeSet : GovernedFileChangeSet) : ItemRecord where
  key := itemKey threadId turnId itemId
  threadId
  turnId
  itemId
  changeSet
  state := .proposed
  approvalRequestId := none
  authorizationDecision := none
  previewReceipt := none
  retainPermit := none
  retainReceipt := none
  journalId := none
  repoRoot := none
  expectedBranch := none

def handleItemStarted (schemaProfileId threadId turnId : Str) (item : NormalizedFileChangeItem) :
    Call CodexAdapterOutcome := do
  let key := itemKey threadId turnId item.itemId
  if (← getItem key).isSome then do
    markTurnForReconciliation options env threadId turnId "duplicate_item_started"
    outcome options .reconciliationRequired [js "duplicate_item_started"]
      { itemId := some item.itemId }
  else
    match canonicalizeNormalizedFileChange schemaProfileId threadId turnId item with
    | .ok changeSet => do
      Comp.modify fun state => { state with
        items := state.items.set key (newItem threadId turnId item.itemId changeSet) }
      outcome options .proposed [] { itemId := some item.itemId, lifecycleState := some .proposed }
    | .error _ => do
      markTurnForReconciliation options env threadId turnId "file_change_canonicalization_failed"
      outcome options .reconciliationRequired [js "file_change_canonicalization_failed"]
        { itemId := some item.itemId }

/-- The snapshot of an update has the head and the date of the item. -/
def updatedChangeSet (schemaProfileId threadId turnId : Str) (update : NormalizedFileChangeItem)
    (item : ItemRecord) : Result GovernedFileChangeSet := do
  let changeSet ← canonicalizeNormalizedFileChange schemaProfileId threadId turnId update
  if changeSet.baseHead ≠ item.changeSet.baseHead
      ∨ changeSet.proposedAt ≠ item.changeSet.proposedAt then
    fail "file_change_update_identity_mismatch"
  else pure changeSet

def handleItemUpdated (schemaProfileId threadId turnId : Str) (update : NormalizedFileChangeItem) :
    Call CodexAdapterOutcome := do
  let key := itemKey threadId turnId update.itemId
  let found ← getItem key
  let blocked := (← turn threadId turnId).blocked
  match found.filter fun item =>
      item.state = .proposed && item.approvalRequestId = none && !blocked with
  | none => do
    markTurnForReconciliation options env threadId turnId "file_change_update_correlation_failed"
    let item ← getItem key
    outcome options .reconciliationRequired [js "file_change_update_correlation_failed"]
      { itemId := some update.itemId, lifecycleState := item.map (·.state) }
  | some item =>
    match updatedChangeSet schemaProfileId threadId turnId update item with
    | .ok changeSet => do
      modifyItem key fun item => { item with changeSet }
      outcome options .proposed []
        { itemId := some update.itemId, lifecycleState := some .proposed }
    | .error _ => do
      markTurnForReconciliation options env threadId turnId
        "file_change_update_canonicalization_failed"
      let item ← current item
      outcome options .reconciliationRequired [js "file_change_update_canonicalization_failed"]
        { itemId := some update.itemId, lifecycleState := some item.state }

/-! ## Declined proposals -/

/-- `declineFileItem` and the outcome that most callers report. -/
def declineAndReport (approval : ApprovalRecord) (item : ItemRecord) (itemId reasonCode : Str)
    (reasons : List Str) (authorizationDecision : Option AuthorizationDecision)
    (previewReceipt : Option PreviewReceipt) : Call CodexAdapterOutcome := do
  let delivery ← declineFileItem options env approval item reasonCode
  let sent := delivery = .sent
  let item ← current item
  outcome options (if sent then .blocked else .reconciliationRequired)
    (reasons ++ if sent then [] else [js "approval_response_send_failed"])
    { requestId := some approval.requestId, itemId := some itemId
      lifecycleState := some item.state, authorizationDecision, previewReceipt }

def declineInvalidRequest (approval : ApprovalRecord) (reason : Str) :
    Call CodexAdapterOutcome := do
  let delivery ← sendDecision options env approval .decline reason none none
  outcome options .reconciliationRequired
    ([reason] ++ if delivery = .sent then [] else [js "approval_response_send_failed"])
    { requestId := some approval.requestId, itemId := some approval.itemId }

/-! ## Acceptance -/

structure AcceptInput where
  item : ItemRecord
  approval : ApprovalRecord
  authorization : AuthorizationDecision
  preview : Option PreviewReceipt
  nonce : Str
  reasonCode : Str

/-- What the outcomes of an acceptance report. -/
def AcceptInput.details (input : AcceptInput) (item : ItemRecord) : OutcomeDetails where
  requestId := some input.approval.requestId
  itemId := some item.itemId
  lifecycleState := some item.state
  authorizationDecision := some input.authorization
  previewReceipt := input.preview

/-- The session was quarantined while something outside was waited for. -/
def abandonAcceptance (input : AcceptInput) (reason : Str) : Call CodexAdapterOutcome := do
  markItemReconciliation options env input.item [reason]
  let item ← current input.item
  quarantinedOutcome options
    { requestId := some input.approval.requestId, itemId := some item.itemId
      lifecycleState := some item.state }

/-- The permit and the entry of an acceptance, before anything is stored. -/
def issueEntry (input : AcceptInput) (item : ItemRecord) (issuedAt expiresAt : Str) :
    Result (RetainPermit × PendingApprovalJournalEntry) := do
  let permit ← issueRetainPermit {
    changeSet := item.changeSet
    authorizationDecision := input.authorization
    previewReceipt := input.preview
    issuedAt, expiresAt
    nonce := input.nonce }
  let entry ← createPendingApprovalJournalEntry {
    journalId := js "journal_" ++ input.approval.requestId
    requestId := input.approval.requestId
    changeSet := item.changeSet
    authorizationDecision := input.authorization
    retainPermit := permit
    previewReceipt := input.preview
    now := issuedAt }
  return (permit, entry)

/-- The permit, once its entry is stored; `none` where a call threw. -/
def persistEntry (input : AcceptInput) (issuedAt expiresAt : Str) :
    Call (Option (RetainPermit × Str)) := do
  let item ← current input.item
  Comp.handle
    (do
      let (permit, entry) ← Comp.lift (issueEntry input item issuedAt expiresAt)
      journalPut options env entry
      Comp.modify fun state => { state with
        ownedJournalIds := distinct (state.ownedJournalIds ++ [entry.journalId]) }
      pure (some (permit, entry.journalId)))
    fun _ => pure none

/-- The checks next to the transport decision. -/
def acceptPreflight (input : AcceptInput) : Call (List Str) := do
  let item ← current input.item
  if item.repoRoot = none ∨ item.expectedBranch = none then
    pure [js "accept_source_context_missing"]
  else do
    let baseReasons ← ask env.baseReasons
    if baseReasons ≠ [] then pure baseReasons else ask env.sourceReasons

def declinePreflight (input : AcceptInput) (reasons : List Str) : Call CodexAdapterOutcome := do
  let reasons := uniqueStrings (js "accept_source_target_preflight_failed" :: reasons)
  let updated ← Comp.handle
    (do
      updateJournalState options env input.item .blocked reasons
      pure true)
    fun _ => pure false
  if updated then
    declineAndReport options env input.approval input.item input.item.itemId
      "accept_source_target_preflight_failed" reasons (some input.authorization) input.preview
  else do
    let reasons := reasons ++ [js "accept_preflight_journal_update_failed"]
    markItemReconciliation options env input.item reasons
    let item ← current input.item
    outcome options .reconciliationRequired reasons (input.details item)

def acceptItem (input : AcceptInput) : Call CodexAdapterOutcome := do
  let delivery ← sendDecision options env input.approval .accept input.reasonCode none none
  if delivery ≠ .sent then do
    markItemReconciliation options env input.item [js "approval_response_send_failed"]
    let item ← current input.item
    outcome options .reconciliationRequired [js "approval_response_send_failed"]
      (input.details item)
  else do
    let updated ← Comp.handle
      (do
        updateJournalState options env input.item .accepted []
        pure true)
      fun _ => pure false
    if updated then do
      transitionItem input.item .acceptedByAppServer
      let item ← current input.item
      outcome options .accepted [] (input.details item)
    else do
      markItemReconciliation options env input.item [js "pending_journal_accept_update_failed"]
      let item ← current input.item
      outcome options .reconciliationRequired [js "pending_journal_accept_update_failed"]
        { requestId := some input.approval.requestId, itemId := some item.itemId
          lifecycleState := some item.state }

def persistAndAccept (input : AcceptInput) : Call CodexAdapterOutcome := do
  match ← Comp.read (·.sessionCompromisedReason) with
  | some reason => abandonAcceptance options env input reason
  | none => do
    let issuedAt ← ask env.now
    let expires := (Runtime.dateParse issuedAt).bind fun issued =>
      env.toISOString (issued + options.retainPermitTtlMs)
    match expires with
    | none => Comp.lift (fail "Invalid time value")
    | some expiresAt => do
      match ← persistEntry options env input issuedAt expiresAt with
      | none =>
        declineAndReport options env input.approval input.item input.item.itemId
          "pending_journal_persist_failed" [js "pending_journal_persist_failed"]
          (some input.authorization) input.preview
      | some (permit, journalId) => do
        modifyItem input.item.key fun item =>
          { item with retainPermit := some permit, journalId := some journalId }
        match ← Comp.read (·.sessionCompromisedReason) with
        | some reason => abandonAcceptance options env input reason
        | none => do
          let reasons ← acceptPreflight env input
          if reasons ≠ [] then declinePreflight options env input reasons
          else acceptItem options env input

/-! ## Approval requests -/

/-- What the policy says of a change set. -/
structure Assessment where
  context : CodexWorkspaceContext
  authorization : AuthorizationDecision

def requestedWrite (change : GovernedFileChange) : Result CapabilityScope :=
  parse CapabilityScope.issues
    { kind := .file, resource := change.path, access := .write, constraints := [] }

def assess (changeSet : GovernedFileChangeSet) : Call Assessment := do
  let context ← askOr env.getContext "workspace_context_unavailable"
  let facts ← Comp.lift (deriveCapabilityFactsFromChangeSet changeSet {
    commands := none
    permissionRequests := none
    repository := context.repository
    networkAccess := context.networkAccess
    credentialAccess := context.credentialAccess
    externalTargets := context.externalTargets
    releaseAction := context.releaseAction
    exactTargets := context.exactTargets
    ambiguous := context.ambiguous
    unknowns := context.unknowns
    observedAt := none })
  let requestedCapabilities ← Comp.lift (changeSet.changes.mapM requestedWrite)
  let semanticRisk ← askOr env.semanticRisk "semantic_risk_unavailable"
  let createdAt ← ask env.now
  let authorization ← Comp.lift (authorizeCapabilityFacts {
    decisionId := none
    surface := .codexAppServer
    facts, semanticRisk, requestedCapabilities
    capabilityCeiling := options.capabilityCeiling
    createdAt })
  pure { context, authorization }

/-- The change sets that no approval can accept. -/
def unsupportedReason (changeSet : GovernedFileChangeSet) : Option Str :=
  if changeSet.changes.any fun change => change.kind = .delete || change.kind = .rename then
    some "destructive_file_change_unsupported"
  else if changeSet.changes.any lacksExpectedHash then some "file_change_expected_hash_missing"
  else none

/-- The request waits for an operator. -/
def awaitOperator (approval : ApprovalRecord) (item : ItemRecord) (reasons : List Str)
    (details : OutcomeDetails) : Call CodexAdapterOutcome := do
  transitionItem item .awaitingApproval
  let item ← current item
  outcome options .manualRequired reasons { details with
    requestId := some approval.requestId
    itemId := some approval.itemId
    lifecycleState := some item.state }

def previewAndAccept (approval : ApprovalRecord) (item : ItemRecord)
    (authorization : AuthorizationDecision) : Call CodexAdapterOutcome := do
  transitionItem item .previewing
  match ← ask env.preview with
  | none =>
    declineAndReport options env approval item approval.itemId "preview_execution_failed"
      [js "preview_execution_failed"] (some authorization) none
  | some preview => do
    modifyItem item.key fun item => { item with previewReceipt := some preview }
    if preview.status ≠ .previewPassed then
      awaitOperator options approval item preview.reasons
        { authorizationDecision := some authorization, previewReceipt := some preview }
    else do
      transitionItem item .previewPassed
      transitionItem item .autoApproved
      let nonce ← ask env.nonce
      persistAndAccept options env
        { item, approval, authorization, preview := some preview, nonce
          reasonCode := "policy_auto_preview_passed" }

def authorizeFileRequest (approval : ApprovalRecord) (item : ItemRecord) (grantRoot : Option Str) :
    Call CodexAdapterOutcome := do
  let assessed ← Comp.handle (some <$> assess options env item.changeSet) fun _ => pure none
  match assessed with
  | none =>
    declineAndReport options env approval item approval.itemId "authorization_evaluation_failed"
      [js "authorization_evaluation_failed"] none none
  | some ⟨context, authorization⟩ => do
    modifyItem item.key fun item => { item with
      repoRoot := some context.repoRoot
      expectedBranch := context.repository.branch.orElse fun _ => item.expectedBranch
      authorizationDecision := some authorization }
    transitionItem item .policyChecked
    if authorization.disposition = .blocked then
      declineAndReport options env approval item approval.itemId "authorization_blocked"
        authorization.reasons (some authorization) none
    else if grantRoot.isSome then
      awaitOperator options approval item
        (uniqueStrings (authorization.reasons
          ++ [js "file_change_grant_root_requires_human_approval"]))
        { authorizationDecision := some authorization, approvalProposal := some approval.proposal }
    else if authorization.approvalMode ≠ .policyAuto then
      awaitOperator options approval item authorization.reasons
        { authorizationDecision := some authorization }
    else previewAndAccept options env approval item authorization

def handleFileApprovalRequested (approval : ApprovalRecord) (grantRoot : Option Str) :
    Call CodexAdapterOutcome := do
  let found ← getItem (itemKey approval.threadId approval.turnId approval.itemId)
  let record ← turn approval.threadId approval.turnId
  match found.filter fun item => item.approvalRequestId = none && !record.blocked
      && !record.completedItems.contains approval.itemId with
  | none => do
    markTurnForReconciliation options env approval.threadId approval.turnId
      "file_approval_correlation_failed"
    declineInvalidRequest options env approval "file_approval_correlation_failed"
  | some item => do
    modifyItem item.key fun item => { item with approvalRequestId := some approval.requestId }
    match unsupportedReason item.changeSet with
    | some reason =>
      declineAndReport options env approval item approval.itemId reason [reason] none none
    | none =>
      if resolveAuthorizationMode options ≠ .authorizationEnforced then
        awaitOperator options approval item [js "session_observe_only"] {}
      else authorizeFileRequest options env approval item grantRoot

def handleApprovalRequested (threadId turnId requestId itemId : Str)
    (proposal : CodexApprovalProposal) : Call CodexAdapterOutcome := do
  if (← getApproval requestId).isSome then do
    quarantineSession options env "duplicate_approval_request_id"
    quarantinedOutcome options { requestId := some requestId, itemId := some itemId }
  else do
    let approval : ApprovalRecord :=
      { requestId, threadId, turnId, itemId, proposal, resolved := false, deliveryState := .pending
        sentDecision := none }
    Comp.modify fun state => { state with approvals := state.approvals.set requestId approval }
    match proposal with
    | .fileChange grantRoot => handleFileApprovalRequested options env approval grantRoot
    | _ =>
      outcome options .manualRequired [proposal.kind.text ++ js "_policy_auto_forbidden"]
        { requestId := some requestId, itemId := some itemId, approvalProposal := some proposal }

/-! ## Resolutions and completions -/

def Resolution.answers : Resolution → Decision → Bool
  | .accept, .accept | .decline, .decline => true
  | _, _ => false

def handleRequestResolved (threadId turnId requestId itemId : Str) (resolution : Resolution) :
    Call CodexAdapterOutcome := do
  let details : OutcomeDetails := { requestId := some requestId, itemId := some itemId }
  let correlated := (← getApproval requestId).filter fun approval =>
    approval.itemId = itemId && approval.threadId = threadId && approval.turnId = turnId
  let resolve := modifyApproval requestId fun approval => { approval with resolved := true }
  let reconcile (reason : Str) : Call CodexAdapterOutcome := do
    markTurnForReconciliation options env threadId turnId reason
    outcome options .reconciliationRequired [reason] details
  match correlated with
  | none => reconcile "approval_resolution_correlation_failed"
  | some approval => do
    resolve
    if approval.resolved then reconcile "approval_resolution_correlation_failed"
    else if approval.deliveryState = .pending && resolution = .cancelled then
      reconcile "approval_request_cancelled"
    else if approval.deliveryState = .sent && resolution = .cancelled then
      reconcile "approval_cancelled_after_decision"
    else
      match approval.sentDecision with
      | none => reconcile "approval_resolution_correlation_failed"
      | some decision =>
        if approval.deliveryState ≠ .sent || !resolution.answers decision then
          reconcile "approval_resolution_correlation_failed"
        else outcome options (if decision = .accept then .accepted else .blocked) [] details

/-- An update of the journal and the transition of the item behind it; what either throws is
caught. -/
def moveItem (item : ItemRecord) (next : PendingApprovalJournalState)
    (state : FileChangeLifecycleState) (reasons : List Str) : Call Bool :=
  Comp.handle
    (do
      updateJournalState options env item next reasons
      transitionItem item state
      pure true)
    fun _ => pure false

/-- The item is reconciled, and the outcome says so. -/
def reconcileItem (item : ItemRecord) (itemId : Str) (reasons : List Str)
    (retainReceipt : Option RetainReceipt) : Call CodexAdapterOutcome := do
  markItemReconciliation options env item reasons
  let item ← current item
  outcome options .reconciliationRequired reasons
    { itemId := some itemId, lifecycleState := some item.state, retainReceipt }

def retainItem (item : ItemRecord) (itemId : Str) (permit : RetainPermit) :
    Call CodexAdapterOutcome := do
  let now ← ask env.now
  let reads ← ask env.reads
  match verifyRetainedChange reads item.changeSet permit now with
  | .reconciliationRequired reasons => reconcileItem options env item itemId reasons none
  | .retained receipt => do
    modifyItem item.key fun item => { item with retainReceipt := some receipt }
    if !(← moveItem options env item .retained .retained []) then
      reconcileItem options env item itemId [js "pending_journal_retained_update_failed"]
        (some receipt)
    else if !(← moveItem options env item .postChecked .postChecked []) then
      reconcileItem options env item itemId [js "pending_journal_post_checked_update_failed"]
        (some receipt)
    else do
      let item ← current item
      outcome options .retained []
        { itemId := some itemId, lifecycleState := some item.state
          retainReceipt := some receipt }

def handleItemCompleted (threadId turnId itemId : Str) (applyOutcome : ApplyOutcome) :
    Call CodexAdapterOutcome := do
  let record ← turn threadId turnId
  if record.completedItems.contains itemId then do
    markTurnForReconciliation options env threadId turnId "duplicate_item_completion"
    outcome options .reconciliationRequired [js "duplicate_item_completion"]
      { itemId := some itemId }
  else do
    modifyTurn (turnKey threadId turnId) fun record =>
      { record with completedItems := record.completedItems ++ [itemId] }
    match ← getItem (itemKey threadId turnId itemId) with
    | none => do
      markTurnForReconciliation options env threadId turnId "item_completion_without_proposal"
      outcome options .reconciliationRequired [js "item_completion_without_proposal"]
        { itemId := some itemId }
    | some item =>
      match applyOutcome with
      | .unknown =>
        reconcileItem options env item itemId [js "app_server_apply_outcome_unknown"] none
      | .notApplied => do
        let reasons := [js "app_server_change_not_applied"]
        if ← moveItem options env item .blocked .blocked reasons then do
          let item ← current item
          outcome options .blocked reasons
            { itemId := some itemId, lifecycleState := some item.state }
        else
          reconcileItem options env item itemId
            (reasons ++ [js "pending_journal_block_update_failed"]) none
      | .applied =>
        if resolveAuthorizationMode options ≠ .authorizationEnforced then
          outcome options .observed [js "session_observe_only_no_governed_retain_claim"]
            { itemId := some itemId, lifecycleState := some item.state }
        else
          match item.retainPermit with
          | none =>
            reconcileItem options env item itemId [js "applied_without_governed_acceptance"] none
          | some permit =>
            if item.state ≠ .acceptedByAppServer || item.repoRoot = none
                || item.journalId = none then
              reconcileItem options env item itemId [js "applied_without_governed_acceptance"] none
            else retainItem options env item itemId permit

/-! ## Ingestion -/

def handleTurnEvent (schemaProfileId : Str) (event : TurnEvent) : Call CodexAdapterOutcome := do
  match ← acceptSequence event.threadId event.turnId event.sequence with
  | some reason => do
    markTurnForReconciliation options env event.threadId event.turnId reason
    outcome options .reconciliationRequired [reason] { itemId := some event.body.itemId }
  | none =>
    match event.body with
    | .itemStarted item =>
      handleItemStarted options env schemaProfileId event.threadId event.turnId item
    | .itemUpdated item =>
      handleItemUpdated options env schemaProfileId event.threadId event.turnId item
    | .approvalRequested requestId itemId proposal _ =>
      handleApprovalRequested options env event.threadId event.turnId requestId itemId proposal
    | .requestResolved requestId itemId resolution =>
      handleRequestResolved options env event.threadId event.turnId requestId itemId resolution
    | .itemCompleted itemId applyOutcome =>
      handleItemCompleted options env event.threadId event.turnId itemId applyOutcome

/-- The session is given up. -/
def quarantine (reason : Str) : Call CodexAdapterOutcome := do
  quarantineSession options env reason
  quarantinedOutcome options {}

/-- `none` is an input without the shape of an event. -/
def ingest (input : Option CodexAppServerNormalizedEvent) : Call CodexAdapterOutcome := do
  ensureJournalContinuity options env
  if (← Comp.read (·.sessionCompromisedReason)).isSome then quarantinedOutcome options {}
  else
    match input.filter fun event => event.issues = [] with
    | none => quarantine options env "app_server_schema_drift"
    | some event =>
      if event.schemaProfileId ≠ options.sessionAttestation.schemaProfileId then
        quarantine options env "app_server_schema_profile_mismatch"
      else do
        let seen ← Comp.read (·.seenEventIds)
        if seen.contains event.eventId then quarantine options env "app_server_event_replay"
        else do
          Comp.modify fun state =>
            { state with seenEventIds := state.seenEventIds ++ [event.eventId] }
          match event.kind with
          | .transportDisconnected =>
            quarantine options env "app_server_transport_disconnected"
          | .turn turnEvent => handleTurnEvent options env event.schemaProfileId turnEvent

end CodexRouter.Adapter
