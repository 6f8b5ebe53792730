import CodexRouter.Adapter.Contracts
import CodexRouter.Preview.LocalClone
import CodexRouter.Retain.Issue
import CodexRouter.Runs.Comp

/-!
# The state of the adapter

Turns, items and approvals with the operations that all handlers share. A record that the source
holds by reference is named by its key and read from its map.
-/

open Js Runs CodexRouter.Kernel

namespace CodexRouter.Adapter

open Preview Authorization Retain

/-! ## Options -/

inductive ApprovalPolicy where
  | onRequest | never | untrusted | unknown
  deriving DecidableEq

inductive SandboxPolicy where
  | readOnly | workspaceWrite | dangerFullAccess | unknown
  deriving DecidableEq

inductive EvidenceSource where
  | fakeFixture | generatedSchema | liveAcceptance
  deriving DecidableEq

/-- The fields of an attestation that the adapter reads. -/
structure AppServerSessionAttestation where
  schemaProfileId : Str
  effectiveApprovalPolicy : ApprovalPolicy
  effectiveSandboxPolicy : SandboxPolicy
  fileChangeApprovalInterceptionProven : Bool
  evidenceSource : EvidenceSource
  scope : IsolationScope
  deriving DecidableEq

inductive AuthorizationMode where
  | authorizationEnforced | observeOnly
  deriving DecidableEq

structure CodexAppServerAdapterOptions where
  sessionAttestation : AppServerSessionAttestation
  /-- `getTrustedPreviewerAttestation(previewer)` -/
  trustedPreviewer : Option PreviewIsolationAttestation
  previewIsolation : PreviewIsolationAttestation
  capabilityCeiling : List CapabilityScope
  allowTestProfiles : Bool
  retainPermitTtlMs : ℤ
  /-- The slot of a journal id in the store. -/
  slot : Str → Str

def isIsolationBound (trustedPreviewer requestedIsolation : PreviewIsolationAttestation) : Bool :=
  trustedPreviewer.networkIsolation = .enforcedNone
    && trustedPreviewer.filesystemIsolation = .cloneOnlyEnforced
    && trustedPreviewer.scope = requestedIsolation.scope
    && trustedPreviewer.enforcerId = requestedIsolation.enforcerId

def resolveAuthorizationMode (options : CodexAppServerAdapterOptions) : AuthorizationMode :=
  let attestation := options.sessionAttestation
  let baseProven := attestation.effectiveApprovalPolicy = .onRequest
    && attestation.effectiveSandboxPolicy = .workspaceWrite
    && attestation.fileChangeApprovalInterceptionProven
  let liveProven := attestation.scope = .live && attestation.evidenceSource = .liveAcceptance
    && options.trustedPreviewer.any fun previewer => previewer.scope = .live
  let testProven := options.allowTestProfiles && attestation.scope = .testOnly
    && attestation.evidenceSource = .fakeFixture
    && options.trustedPreviewer.any fun previewer => previewer.scope = .testOnly
  let isolationBound := options.trustedPreviewer.any fun previewer =>
    isIsolationBound previewer options.previewIsolation
  if baseProven && isolationBound && (liveProven || testProven) then .authorizationEnforced
  else .observeOnly

/-! ## Records -/

structure TurnRecord where
  lastSequence : ℕ
  blocked : Bool
  blockedReason : Option Str
  completedItems : List Str
  deriving DecidableEq

structure ItemRecord where
  key : Str
  threadId : Str
  turnId : Str
  itemId : Str
  changeSet : GovernedFileChangeSet
  state : FileChangeLifecycleState
  approvalRequestId : Option Str
  authorizationDecision : Option AuthorizationDecision
  previewReceipt : Option PreviewReceipt
  retainPermit : Option RetainPermit
  retainReceipt : Option RetainReceipt
  journalId : Option Str
  repoRoot : Option Str
  expectedBranch : Option Str
  deriving DecidableEq

inductive DeliveryState where
  | pending | inFlight | sent | uncertain
  deriving DecidableEq

structure ApprovalRecord where
  requestId : Str
  threadId : Str
  turnId : Str
  itemId : Str
  proposal : CodexApprovalProposal
  resolved : Bool
  deliveryState : DeliveryState
  sentDecision : Option Decision
  deriving DecidableEq

/-- What the adapter has done outside. -/
inductive Effect where
  | stored (entry : PendingApprovalJournalEntry)
  | sent (response : CodexAppServerApprovalResponse)
  deriving DecidableEq

structure AdapterState where
  seenEventIds : List Str
  turns : Map Str TurnRecord
  items : Map Str ItemRecord
  approvals : Map Str ApprovalRecord
  ownedJournalIds : List Str
  /-- The reasons of each item whose journal entry could not be updated. -/
  journalReconciliationFailures : Map Str (List Str)
  sessionCompromisedReason : Option Str
  journal : Journal
  effects : List Effect
  /-- How often something outside was asked. -/
  asked : ℕ

def AdapterState.initial (journal : Journal) : AdapterState where
  seenEventIds := []
  turns := .empty
  items := .empty
  approvals := .empty
  ownedJournalIds := []
  journalReconciliationFailures := .empty
  sessionCompromisedReason := none
  journal
  effects := []
  asked := 0

/-- The responses handed to the transport, in order. -/
def AdapterState.responses (state : AdapterState) : List CodexAppServerApprovalResponse :=
  state.effects.filterMap fun
    | .sent response => some response
    | .stored _ => none

/-! ## Outcomes -/

inductive OutcomeStatus where
  | proposed | manualRequired | accepted | retained | observed | blocked | reconciliationRequired
  deriving DecidableEq

structure OutcomeDetails where
  requestId : Option Str := none
  itemId : Option Str := none
  lifecycleState : Option FileChangeLifecycleState := none
  authorizationDecision : Option AuthorizationDecision := none
  previewReceipt : Option PreviewReceipt := none
  retainReceipt : Option RetainReceipt := none
  approvalProposal : Option CodexApprovalProposal := none
  deriving DecidableEq

structure CodexAdapterOutcome where
  status : OutcomeStatus
  mode : AuthorizationMode
  reasons : List Str
  details : OutcomeDetails
  deriving DecidableEq

/-! ## What is asked outside

The answers are given in the order of the questions; nothing is assumed about them. -/

/-- What may go wrong in a call of the journal store: the lock is not free, the caller's function
has run and nothing is written, or the entry is written and the directory is not synced. -/
inductive JournalFault where
  | none | locked | unwritten | unsynced
  deriving DecidableEq

structure CodexWorkspaceContext where
  repoRoot : Str
  repository : RepositoryFacts
  networkAccess : Option AccessFact
  credentialAccess : Option CredentialFact
  externalTargets : Option (List Str)
  releaseAction : Option Bool
  exactTargets : Option Bool
  ambiguous : Option Bool
  unknowns : Option (List Str)

structure Env where
  now : ℕ → Str
  nonce : ℕ → Str
  /-- `new Date(time).toISOString()`; `none` where it throws. -/
  toISOString : ℤ → Option Str
  /-- `transport.send` resolves. -/
  sends : ℕ → Bool
  journalFault : ℕ → JournalFault
  getContext : ℕ → Option CodexWorkspaceContext
  semanticRisk : ℕ → Option GovernanceRiskLevel
  preview : ℕ → Option PreviewReceipt
  /-- `revalidateBaseCheckoutBeforeAcceptance` -/
  baseReasons : ℕ → List Str
  /-- `revalidateSourceTargetsBeforeAcceptance` -/
  sourceReasons : ℕ → List Str
  reads : ℕ → WorkspaceReads

/-- A call of the adapter. -/
abbrev Call := Comp Thrown AdapterState

/-- The next answer. -/
def ask {α : Type} (answer : ℕ → α) : Call α := fun state =>
  (.ok (answer state.asked), { state with asked := state.asked + 1 })

/-- The next answer of something that may throw. -/
def askOr {α : Type} (answer : ℕ → Option α) (message : Str) : Call α := do
  match ← ask answer with
  | some a => pure a
  | none => Comp.lift (fail message)

/-! ## Keys and records -/

def turnKey (threadId turnId : Str) : Str := threadId ++ [cu '\x00'] ++ turnId

def itemKey (threadId turnId itemId : Str) : Str :=
  threadId ++ [cu '\x00'] ++ turnId ++ [cu '\x00'] ++ itemId

def modifyItem (key : Str) (f : ItemRecord → ItemRecord) : Call Unit :=
  Comp.modify fun state => { state with items := state.items.modify key f }

def modifyTurn (key : Str) (f : TurnRecord → TurnRecord) : Call Unit :=
  Comp.modify fun state => { state with turns := state.turns.modify key f }

def modifyApproval (requestId : Str) (f : ApprovalRecord → ApprovalRecord) : Call Unit :=
  Comp.modify fun state => { state with approvals := state.approvals.modify requestId f }

def getItem (key : Str) : Call (Option ItemRecord) := Comp.read (·.items.get? key)

def getApproval (requestId : Str) : Call (Option ApprovalRecord) :=
  Comp.read (·.approvals.get? requestId)

/-- The item as it is now. -/
def current (item : ItemRecord) : Call ItemRecord :=
  Comp.read fun state => (state.items.get? item.key).getD item

/-- The approval as it is now. -/
def currentApproval (approval : ApprovalRecord) : Call ApprovalRecord :=
  Comp.read fun state => (state.approvals.get? approval.requestId).getD approval

/-- The turn, which is made when it is first named. -/
def turn (threadId turnId : Str) : Call TurnRecord := fun state =>
  match state.turns.get? (turnKey threadId turnId) with
  | some record => (.ok record, state)
  | none =>
    let record : TurnRecord :=
      { lastSequence := 0, blocked := false, blockedReason := none, completedItems := [] }
    (.ok record, { state with turns := state.turns.set (turnKey threadId turnId) record })

def acceptSequence (threadId turnId : Str) (sequence : ℕ) : Call (Option Str) := do
  let record ← turn threadId turnId
  let key := turnKey threadId turnId
  if record.blocked then pure (some (record.blockedReason.getD (js "turn_already_blocked")))
  else if sequence ≠ record.lastSequence + 1 then do
    let reason :=
      if sequence ≤ record.lastSequence then js "app_server_event_out_of_order"
      else js "app_server_event_gap"
    modifyTurn key fun record => { record with blocked := true, blockedReason := some reason }
    pure (some reason)
  else do
    modifyTurn key fun record => { record with lastSequence := sequence }
    pure none

/-! ## Lifecycle -/

/-- The table of `transitionItem`. -/
def allowedTransitions : FileChangeLifecycleState → List FileChangeLifecycleState
  | .proposed => [.policyChecked, .awaitingApproval, .blocked, .reconciliationRequired]
  | .policyChecked => [.previewing, .awaitingApproval, .blocked, .reconciliationRequired]
  | .previewing => [.previewPassed, .awaitingApproval, .blocked, .reconciliationRequired]
  | .previewPassed => [.autoApproved, .awaitingApproval, .blocked, .reconciliationRequired]
  | .awaitingApproval => [.acceptedByAppServer, .blocked, .reconciliationRequired]
  | .autoApproved => [.acceptedByAppServer, .blocked, .reconciliationRequired]
  | .acceptedByAppServer => [.retained, .blocked, .reconciliationRequired, .rollbackAvailable]
  | .retained => [.postChecked, .reconciliationRequired, .rollbackAvailable]
  | .postChecked => [.rollbackAvailable, .reconciliationRequired]
  | .blocked => [.reconciliationRequired]
  | .reconciliationRequired => []
  | .rollbackAvailable => [.reconciliationRequired]

def transitionItem (item : ItemRecord) (next : FileChangeLifecycleState) : Call Unit := do
  let item ← current item
  if item.state = next then pure ()
  else if (Adapter.allowedTransitions item.state).contains next then
    modifyItem item.key fun item => { item with state := next }
  else
    Comp.lift (fail (js "file_change_invalid_transition:" ++ item.state.text ++ js ":"
      ++ next.text))

/-! ## The journal -/

section
variable [Runtime] (options : CodexAppServerAdapterOptions) (env : Env)

omit [Runtime] in
def entryJson (entry : PendingApprovalJournalEntry) : Json :=
  .obj ([(js "schemaVersion", .str "pending-approval-journal.v1"),
      (js "journalId", .str entry.journalId), (js "threadId", .str entry.threadId),
      (js "turnId", .str entry.turnId), (js "itemId", .str entry.itemId),
      (js "requestId", .str entry.requestId), (js "changeSetHash", .str entry.changeSetHash),
      (js "authorizationDecisionHash", .str entry.authorizationDecisionHash)]
    ++ Json.member? "previewReceiptHash" (entry.previewReceiptHash.map .str)
    ++ [(js "headCommit", .str entry.headCommit), (js "targetFiles", strings entry.targetFiles),
      (js "targetHashes", .arr (entry.targetHashes.map (·.toJson))),
      (js "retainPermit", entry.retainPermit.toJson)]
    ++ Json.member? "retainReceipt" (entry.retainReceipt.map (·.toJson))
    ++ [(js "state", .str entry.state.text), (js "reasons", strings entry.reasons),
      (js "createdAt", .str entry.createdAt), (js "updatedAt", .str entry.updatedAt)])

/-- `journalStore.put(entry)`. -/
def journalPut (entry : PendingApprovalJournalEntry) : Call Unit := do
  let fault ← ask env.journalFault
  if fault = .locked ∨ fault = .unwritten then Comp.lift (fail "pending_journal_lock_unavailable")
  else do
    Comp.attempt fun state => do
      let journal ← Retain.put options.slot state.journal entry
      return ((), { state with journal })
    if fault = .unsynced then Comp.lift (fail "pending_journal_directory_fsync_unsupported")
    else Comp.modify fun state => { state with effects := state.effects ++ [.stored entry] }

/-- The entry that `updateJournalState` writes. -/
def updatedEntry (item : ItemRecord) (next : PendingApprovalJournalState) (reasons : List Str)
    (now : Str) (entry : PendingApprovalJournalEntry) : PendingApprovalJournalEntry :=
  { entry with
    state := next
    retainReceipt := item.retainReceipt.orElse fun _ => entry.retainReceipt
    reasons := uniqueStrings (entry.reasons ++ reasons)
    updatedAt := now }

/-- `journalStore.update` with the caller's function, which is run when the lock is free and the
entry is there. -/
def journalUpdate (fault : JournalFault) (journalId : Str)
    (change : PendingApprovalJournalEntry → PendingApprovalJournalEntry) : Call Unit := do
  if fault = .locked ∨ fault = .unwritten then Comp.lift (fail "pending_journal_lock_unavailable")
  else do
    Comp.attempt fun state => do
      let (journal, _) ← Retain.update options.slot state.journal journalId fun entry =>
        pure (change entry)
      return ((), { state with journal })
    if fault = .unsynced then Comp.lift (fail "pending_journal_directory_fsync_unsupported")
    else pure ()

/-- `journalStore.get(journalId)`. -/
def journalGet (journalId : Str) : Call (Option PendingApprovalJournalEntry) := do
  let fault ← ask env.journalFault
  if fault = .none then Comp.read fun state => state.journal.get? (options.slot journalId)
  else Comp.lift (fail "pending_journal_entry_corrupt")

/-- The entry was written although the call failed. -/
def wasWritten (expected persisted : Option PendingApprovalJournalEntry) : Bool :=
  match expected, persisted with
  | some expected, some persisted =>
    hashKernelObject (entryJson persisted) = hashKernelObject (entryJson expected)
  | _, _ => false

def updateJournalState (item : ItemRecord) (next : PendingApprovalJournalState)
    (reasons : List Str) : Call Unit := do
  let item ← current item
  match item.journalId with
  | none => pure ()
  | some journalId => do
    let now ← ask env.now
    let fault ← ask env.journalFault
    let found ← Comp.read fun state => state.journal.get? (options.slot journalId)
    let change := updatedEntry item next reasons now
    -- the caller's function keeps what it returned for the handler
    let expected := if fault = .locked then none else found.map change
    Comp.handle (journalUpdate options fault journalId change) fun error => do
      let persisted ← Comp.handle (journalGet options env journalId) fun _ =>
        Comp.lift (.error error)
      if wasWritten expected persisted then pure () else Comp.lift (.error error)

/-! ## Reconciliation -/

def markItemReconciliation (item : ItemRecord) (reasons : List Str) : Call Unit := do
  let item ← current item
  if item.state ≠ .reconciliationRequired then transitionItem item .reconciliationRequired
  let previous ← Comp.read fun state => state.journalReconciliationFailures.get? item.key
  let combinedReasons := uniqueStrings (previous.getD [] ++ reasons)
  Comp.handle
    (do
      updateJournalState options env item .reconciliationRequired combinedReasons
      Comp.modify fun state => { state with
        journalReconciliationFailures := state.journalReconciliationFailures.delete item.key })
    fun _ => Comp.modify fun state => { state with
      journalReconciliationFailures :=
        state.journalReconciliationFailures.set item.key combinedReasons }

/-- `for (const item of this.items.values())`, the items that the test picks. -/
def markItems (test : ItemRecord → Bool) (reasons : List Str) : Call Unit := do
  let items ← Comp.read fun state => state.items.values
  items.forM fun item => do
    let item ← current item
    if test item then markItemReconciliation options env item reasons else pure ()

def markTurnForReconciliation (threadId turnId reason : Str) : Call Unit := do
  let _ ← turn threadId turnId
  modifyTurn (turnKey threadId turnId) fun record =>
    { record with blocked := true, blockedReason := some (record.blockedReason.getD reason) }
  markItems options env (fun item => item.threadId = threadId && item.turnId = turnId) [reason]

/-- The item is not at an end of its lifecycle. -/
def isOpen (item : ItemRecord) : Bool :=
  item.state ≠ .postChecked && item.state ≠ .blocked && item.state ≠ .reconciliationRequired

def markAllOpenForReconciliation (reason : Str) : Call Unit :=
  markItems options env isOpen [reason]

def quarantineSession (reason : Str) : Call Unit := do
  let compromised ← Comp.read fun state => state.sessionCompromisedReason.getD reason
  Comp.modify fun state => { state with
    sessionCompromisedReason := some compromised
    turns := state.turns.mapValues fun record => { record with
      blocked := true, blockedReason := some (record.blockedReason.getD compromised) } }
  markAllOpenForReconciliation options env compromised

def retryJournalReconciliationFailures : Call Unit := do
  let failures ← Comp.read fun state => state.journalReconciliationFailures.entries
  failures.forM fun (key, reasons) => do
    match ← getItem key with
    | none => pure ()
    | some item =>
      Comp.handle
        (do
          updateJournalState options env item .reconciliationRequired reasons
          Comp.modify fun state => { state with
            journalReconciliationFailures := state.journalReconciliationFailures.delete key })
        fun _ => pure ()

def isUnresolved (owned : List Str) (entry : PendingApprovalJournalEntry) : Bool :=
  !owned.contains entry.journalId
    && (entry.state = .pendingAccept || entry.state = .accepted || entry.state = .retained
      || entry.state = .reconciliationRequired)

/-- The handler also catches what the quarantine throws, and the quarantine throws nothing. -/
def ensureJournalContinuity : Call Unit := do
  retryJournalReconciliationFailures options env
  if (← Comp.read (·.sessionCompromisedReason)).isSome then pure ()
  else do
    let fault ← ask env.journalFault
    if fault ≠ .none then
      quarantineSession options env "pending_journal_continuity_check_failed"
    else do
      let unresolved ← Comp.read fun state =>
        state.journal.values.any (isUnresolved state.ownedJournalIds)
      if unresolved then
        Comp.handle (quarantineSession options env "adapter_restart_with_unresolved_journal")
          fun _ => quarantineSession options env "pending_journal_continuity_check_failed"
      else pure ()

/-! ## Outcomes and responses -/

def outcome (status : OutcomeStatus) (reasons : List Str) (details : OutcomeDetails) :
    Call CodexAdapterOutcome := do
  let failures ← Comp.read fun state => state.journalReconciliationFailures.entries
  return {
    status
    mode := resolveAuthorizationMode options
    reasons := uniqueStrings (reasons
      ++ if status = .reconciliationRequired && failures ≠ [] then
          [js "pending_journal_reconciliation_update_failed"]
        else [])
    details }

def quarantinedOutcome (details : OutcomeDetails) : Call CodexAdapterOutcome := do
  let reason ← Comp.read fun state =>
    state.sessionCompromisedReason.getD (js "app_server_session_quarantined")
  outcome options .reconciliationRequired [js "app_server_session_quarantined", reason] details

inductive ApprovalSendResult where
  | sent | deliveryUncertain | unavailable
  deriving DecidableEq

/-- How `transport.send` settles. -/
def awaitDelivery (approval : ApprovalRecord) (decision : Decision) : Call ApprovalSendResult := do
  if ← ask env.sends then do
    modifyApproval approval.requestId fun approval =>
      { approval with deliveryState := .sent, sentDecision := some decision }
    pure .sent
  else do
    modifyApproval approval.requestId fun approval => { approval with deliveryState := .uncertain }
    markTurnForReconciliation options env approval.threadId approval.turnId
      "approval_response_delivery_uncertain"
    pure .deliveryUncertain

def deliver (approval : ApprovalRecord) (response : CodexAppServerApprovalResponse) :
    Call ApprovalSendResult := do
  modifyApproval approval.requestId fun approval => { approval with deliveryState := .inFlight }
  Comp.modify fun state => { state with effects := state.effects ++ [.sent response] }
  awaitDelivery options env approval response.decision

/-- No accepting response goes into a quarantined session or a blocked turn. -/
def maySend (approval : ApprovalRecord) : Decision → Call Bool
  | .decline => pure true
  | .accept => do
    if (← Comp.read (·.sessionCompromisedReason)).isSome then pure false
    else return !(← turn approval.threadId approval.turnId).blocked

def sendDecision (approval : ApprovalRecord) (decision : Decision) (reasonCode : Str)
    (permissionGrant : Option CodexAppServerPermissionGrant)
    (commandDecision : Option CodexCommandApprovalDecision) : Call ApprovalSendResult := do
  let approval ← currentApproval approval
  if approval.deliveryState ≠ .pending || approval.resolved then pure .unavailable
  else if !(← maySend approval decision) then pure .unavailable
  else do
    let response ← Comp.lift (parse CodexAppServerApprovalResponse.issues {
      schemaProfileId := options.sessionAttestation.schemaProfileId
      requestId := approval.requestId
      decision, reasonCode, commandDecision, permissionGrant })
    deliver options env approval response

def declineFileItem (approval : ApprovalRecord) (item : ItemRecord) (reasonCode : Str) :
    Call ApprovalSendResult := do
  let delivery ← sendDecision options env approval .decline reasonCode none none
  if delivery = .sent then transitionItem item .blocked
  else markItemReconciliation options env item [js "approval_response_send_failed"]
  pure delivery

end

end CodexRouter.Adapter
