import CodexRouter.Adapter.Operator
import CodexRouter.Runs.StepsAt
import Mathlib.Logic.Relation

/-!
# The adapter as a protocol

What a call may do to the turns, items, approvals and responses, one move at a time. A move names
the turn that it works for, and it has the guards that the safety of the protocol rests on.
-/

open Js Runs CodexRouter.Kernel

namespace CodexRouter.Adapter

open Preview Authorization Retain Relation

/-! ## What the guards speak about -/

/-- The change set of the item is not replaced any more. -/
def Frozen (item : ItemRecord) : Prop := item.state ≠ .proposed ∨ item.approvalRequestId ≠ none

/-- The journal id that an acceptance of the request uses. -/
def journalIdOf (requestId : Str) : Str := js "journal_" ++ requestId

/-- The key of the item that an approval is about. -/
def ApprovalRecord.itemKey (approval : ApprovalRecord) : Str :=
  Adapter.itemKey approval.threadId approval.turnId approval.itemId

/-- A file approval of the item was answered by an acceptance, and the item's journal entry is named
after its request. -/
def Accepted (s : AdapterState) (item : ItemRecord) : Prop :=
  ∃ response ∈ s.responses, ∃ approval, response.decision = .accept ∧
    s.approvals.get? response.requestId = some approval ∧ approval.proposal.kind = .fileChange ∧
    approval.itemKey = item.key ∧ item.journalId = some (journalIdOf response.requestId)

section
variable [Runtime]

/-- The receipt of the item is that of a verification under the item's permit. -/
def Verified (item : ItemRecord) : Prop :=
  ∃ permit receipt reads now, item.retainPermit = some permit ∧ item.retainReceipt = some receipt ∧
    verifyRetainedChange reads item.changeSet permit now = .retained receipt

/-- Among the effects is the entry of this item and request, under a decision that does not
block. -/
structure Journals (effects : List Effect) (requestId : Str) (item : ItemRecord)
    (entry : PendingApprovalJournalEntry) : Prop where
  frozen : Frozen item
  stored : Effect.stored entry ∈ effects
  journalId : entry.journalId = journalIdOf requestId
  changeSet : entry.changeSetHash = item.changeSet.canonicalHash
  authorized : ∃ authorization : AuthorizationDecision, authorization.disposition ≠ .blocked ∧
    entry.authorizationDecisionHash = hashKernelObject authorization.toJson

/-- What the acceptance of a change set has written when these are the effects. -/
def WrittenAhead (s : AdapterState) (effects : List Effect) (approval : ApprovalRecord) : Prop :=
  ∃ item entry, s.items.get? approval.itemKey = some item ∧
    Journals effects approval.requestId item entry

/-! ## Moves of one record -/

inductive TurnMove : TurnRecord → TurnRecord → Prop
  | advance {record : TurnRecord} (hopen : record.blocked = false) :
    TurnMove record { record with lastSequence := record.lastSequence + 1 }
  | block (record : TurnRecord) (reason : Str) :
    TurnMove record { record with blocked := true, blockedReason := some reason }
  | complete (record : TurnRecord) (itemId : Str) :
    TurnMove record { record with completedItems := record.completedItems ++ [itemId] }

inductive ItemMove (options : CodexAppServerAdapterOptions) (s : AdapterState) :
    ItemRecord → ItemRecord → Prop
  | transition {item : ItemRecord} {next : FileChangeLifecycleState}
    (hallowed : next ∈ Adapter.allowedTransitions item.state)
    (haccepted : next = .acceptedByAppServer →
      resolveAuthorizationMode options = .authorizationEnforced ∧ Accepted s item)
    (hretained : next = .retained → Verified item) :
    ItemMove options s item { item with state := next }
  | replace {item : ItemRecord} (changeSet : GovernedFileChangeSet)
    (hstate : item.state = .proposed) (hfree : item.approvalRequestId = none) :
    ItemMove options s item { item with changeSet }
  | bind {item : ItemRecord} (requestId : Str) (hfree : item.approvalRequestId = none) :
    ItemMove options s item { item with approvalRequestId := some requestId }
  | assess (item : ItemRecord) (repoRoot expectedBranch : Option Str)
    (authorizationDecision : Option AuthorizationDecision) :
    ItemMove options s item { item with repoRoot, expectedBranch, authorizationDecision }
  | preview (item : ItemRecord) (receipt : PreviewReceipt) :
    ItemMove options s item { item with previewReceipt := some receipt }
  | grant {item : ItemRecord} (permit : RetainPermit) (journalId : Str)
    (hstate : item.state = .awaitingApproval ∨ item.state = .autoApproved) :
    ItemMove options s item { item with retainPermit := some permit, journalId := some journalId }
  | retain {item : ItemRecord} (receipt : RetainReceipt)
    (hstate : item.state = .acceptedByAppServer)
    (hverified : Verified { item with retainReceipt := some receipt }) :
    ItemMove options s item { item with retainReceipt := some receipt }

inductive ApprovalMove : ApprovalRecord → ApprovalRecord → Prop
  | resolve (approval : ApprovalRecord) : ApprovalMove approval { approval with resolved := true }
  | settle (approval : ApprovalRecord) {delivery : DeliveryState} (hsettled : delivery ≠ .pending)
    (sentDecision : Option Decision) :
    ApprovalMove approval { approval with deliveryState := delivery, sentDecision }

/-! ## Moves of the adapter -/

/-- The turn of every record is blocked. -/
def blockAll (reason : Str) (record : TurnRecord) : TurnRecord :=
  { record with blocked := true, blockedReason := some (record.blockedReason.getD reason) }

inductive Move (options : CodexAppServerAdapterOptions) (threadId turnId : Str)
    (s : AdapterState) : AdapterState → Prop
  | aside (asked : ℕ) (journal : Journal) (journalReconciliationFailures : Map Str (List Str))
    (ownedJournalIds : List Str) :
    Move options threadId turnId s
      { s with asked, journal, journalReconciliationFailures, ownedJournalIds }
  | see (eventId : Str) :
    Move options threadId turnId s { s with seenEventIds := s.seenEventIds ++ [eventId] }
  | store (entry : PendingApprovalJournalEntry) :
    Move options threadId turnId s { s with effects := s.effects ++ [.stored entry] }
  | openTurn (hnew : s.turns.get? (turnKey threadId turnId) = none) :
    Move options threadId turnId s { s with
      turns := s.turns.set (turnKey threadId turnId)
        { lastSequence := 0, blocked := false, blockedReason := none, completedItems := [] } }
  | moveTurn {record record' : TurnRecord}
    (hget : s.turns.get? (turnKey threadId turnId) = some record)
    (hmove : TurnMove record record') :
    Move options threadId turnId s { s with
      turns := s.turns.set (turnKey threadId turnId) record' }
  | propose (itemId : Str) (changeSet : GovernedFileChangeSet)
    (hnew : s.items.get? (itemKey threadId turnId itemId) = none) :
    Move options threadId turnId s { s with
      items := s.items.set (itemKey threadId turnId itemId)
        (newItem threadId turnId itemId changeSet) }
  | moveItem {key : Str} {item item' : ItemRecord} (hget : s.items.get? key = some item)
    (hscope : (∃ itemId, key = itemKey threadId turnId itemId)
      ∨ s.sessionCompromisedReason.isSome)
    (hmove : ItemMove options s item item') :
    Move options threadId turnId s { s with items := s.items.set key item' }
  | request {approval : ApprovalRecord} (hnew : s.approvals.get? approval.requestId = none)
    (hturn : approval.threadId = threadId ∧ approval.turnId = turnId)
    (hfresh : approval.deliveryState = .pending) :
    Move options threadId turnId s { s with
      approvals := s.approvals.set approval.requestId approval }
  | moveApproval {requestId : Str} {approval approval' : ApprovalRecord}
    (hget : s.approvals.get? requestId = some approval)
    (hturn : approval.threadId = threadId ∧ approval.turnId = turnId)
    (hmove : ApprovalMove approval approval') :
    Move options threadId turnId s { s with approvals := s.approvals.set requestId approval' }
  | send {approval : ApprovalRecord} {response : CodexAppServerApprovalResponse}
    (hget : s.approvals.get? response.requestId = some approval)
    (hturn : approval.threadId = threadId ∧ approval.turnId = turnId)
    (hpending : approval.deliveryState = .pending) (hopen : approval.resolved = false)
    (hsession : response.decision = .accept → s.sessionCompromisedReason = none)
    (hunblocked : response.decision = .accept → ∃ record,
      s.turns.get? (turnKey threadId turnId) = some record ∧ record.blocked = false)
    (hahead : response.decision = .accept → approval.proposal.kind = .fileChange →
      resolveAuthorizationMode options = .authorizationEnforced →
        WrittenAhead s s.effects approval) :
    Move options threadId turnId s { s with
      approvals := s.approvals.set response.requestId { approval with deliveryState := .inFlight }
      effects := s.effects ++ [.sent response] }
  | quarantine (reason : Str) :
    Move options threadId turnId s { s with
      sessionCompromisedReason := some (s.sessionCompromisedReason.getD reason)
      turns := s.turns.mapValues (blockAll (s.sessionCompromisedReason.getD reason)) }

/-- A run of moves for one turn. -/
def Moves (options : CodexAppServerAdapterOptions) (threadId turnId : Str) :
    AdapterState → AdapterState → Prop :=
  ReflTransGen (Move options threadId turnId)

instance (options : CodexAppServerAdapterOptions) (threadId turnId : Str) :
    IsPreorder AdapterState (Moves options threadId turnId) where
  refl _ := ReflTransGen.refl
  trans _ _ _ := ReflTransGen.trans

/-- A run of moves, each for a turn of its own. -/
def Evolves (options : CodexAppServerAdapterOptions) : AdapterState → AdapterState → Prop :=
  ReflTransGen fun s t => ∃ threadId turnId, Move options threadId turnId s t

lemma Moves.evolves {options : CodexAppServerAdapterOptions} {threadId turnId : Str}
    {s t : AdapterState} (h : Moves options threadId turnId s t) : Evolves options s t :=
  h.lift id fun _ _ hmove => ⟨threadId, turnId, hmove⟩

end

end CodexRouter.Adapter
