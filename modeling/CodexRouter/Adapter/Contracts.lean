import CodexRouter.Authorization.Decision
import CodexRouter.Preview.ChangeSet
import CodexRouter.Retain.Verify

/-!
# Messages of the app server

Events and operator inputs after a first look at their shape, with the checks of their schemas,
and the responses that go back.
-/

open Js CodexRouter.Kernel

namespace CodexRouter.Adapter

open Preview Authorization

/-! ## Command decisions -/

inductive NetworkPolicyAction where
  | allow | deny
  deriving DecidableEq

inductive CodexCommandApprovalDecision where
  | accept | acceptForSession | decline | cancel
  | acceptWithExecpolicyAmendment (amendment : List Str)
  | applyNetworkPolicyAmendment (action : NetworkPolicyAction) (host : Str)
  deriving DecidableEq

inductive Decision where
  | accept | decline
  deriving DecidableEq

def NetworkPolicyAction.text : NetworkPolicyAction → Str
  | allow => js "allow"
  | deny => js "deny"

def CodexCommandApprovalDecision.toJson : CodexCommandApprovalDecision → Json
  | accept => .str "accept"
  | acceptForSession => .str "acceptForSession"
  | decline => .str "decline"
  | cancel => .str "cancel"
  | acceptWithExecpolicyAmendment amendment =>
    .obj [(js "acceptWithExecpolicyAmendment",
      .obj [(js "execpolicy_amendment", strings amendment)])]
  | applyNetworkPolicyAmendment action host =>
    .obj [(js "applyNetworkPolicyAmendment",
      .obj [(js "network_policy_amendment",
        .obj [(js "action", .str action.text), (js "host", .str host)])])]

/-- A plain decision as a command decision. -/
def Decision.asCommand : Decision → CodexCommandApprovalDecision
  | accept => .accept
  | decline => .decline

def commandApprovalDecisionDisposition : CodexCommandApprovalDecision → Decision
  | .decline | .cancel => .decline
  | _ => .accept

def commandApprovalDecisionEquals [Runtime] (left right : CodexCommandApprovalDecision) : Bool :=
  hashKernelObject left.toJson = hashKernelObject right.toJson

def isPlainCommandApprovalDecision (decision : CodexCommandApprovalDecision) : Bool :=
  decision = .accept || decision = .decline

/-! ## Permission profiles

A member that may be absent or `null` is an option of an option. -/

inductive FileSystemSpecialPath where
  | root | minimal | tmpdir | slashTmp
  | projectRoots (subpath : Option (Option Str))
  | unknown (path : Str) (subpath : Option (Option Str))
  deriving DecidableEq

inductive FileSystemPath where
  | path (path : Str)
  | globPattern (pattern : Str)
  | special (value : FileSystemSpecialPath)
  deriving DecidableEq

inductive EntryAccess where
  | read | write | deny | none
  deriving DecidableEq

structure FileSystemSandboxEntry where
  access : EntryAccess
  path : FileSystemPath
  deriving DecidableEq

structure AdditionalFileSystemPermissions where
  read : Option (Option (List Str))
  write : Option (Option (List Str))
  globScanMaxDepth : Option ℕ
  entries : Option (List FileSystemSandboxEntry)
  deriving DecidableEq

structure AdditionalNetworkPermissions where
  enabled : Option (Option Bool)
  deriving DecidableEq

structure CodexAppServerPermissionProfile where
  network : Option (Option AdditionalNetworkPermissions)
  fileSystem : Option (Option AdditionalFileSystemPermissions)
  deriving DecidableEq

structure CodexAppServerPermissionGrant where
  fileSystem : Option AdditionalFileSystemPermissions
  network : Option AdditionalNetworkPermissions
  deriving DecidableEq

def AdditionalFileSystemPermissions.issues (permissions : AdditionalFileSystemPermissions) :
    List Issue :=
  under "globScanMaxDepth" (optionally
    (fun depth => require (1 ≤ depth) [] "Number must be greater than or equal to 1")
    permissions.globScanMaxDepth)

def CodexAppServerPermissionProfile.issues (profile : CodexAppServerPermissionProfile) :
    List Issue :=
  under "fileSystem" (optionally AdditionalFileSystemPermissions.issues profile.fileSystem.join)

def CodexAppServerPermissionGrant.issues (grant : CodexAppServerPermissionGrant) : List Issue :=
  under "fileSystem" (optionally AdditionalFileSystemPermissions.issues grant.fileSystem)

/-- `isArraySubset`; values of these types are structurally equal when they are equal. -/
def isArraySubset {α : Type} [DecidableEq α] (selected requested : List α) : Bool :=
  selected.all requested.contains

def isNetworkGrantSubset (requested : Option AdditionalNetworkPermissions)
    (granted : AdditionalNetworkPermissions) : Bool :=
  requested.any fun requested => granted.enabled = requested.enabled

def isFileSystemGrantSubset (requested : Option AdditionalFileSystemPermissions)
    (granted : AdditionalFileSystemPermissions) : Bool :=
  match requested with
  | none => false
  | some requested =>
    if granted.globScanMaxDepth ≠ requested.globScanMaxDepth then false
    else
      let grantedRead := granted.read.join.getD []
      let grantedWrite := granted.write.join.getD []
      let requestedRead := requested.read.join.getD []
      if !isArraySubset grantedRead requestedRead
          || !isArraySubset grantedWrite (requested.write.join.getD []) then false
      else
        let requestedEntries := requested.entries.getD []
        let grantedEntries := granted.entries.getD []
        if !isArraySubset grantedEntries requestedEntries then false
        else
          let grantsWriteAccess := grantedWrite ≠ []
            || grantedEntries.any fun entry => entry.access = .write
          if grantsWriteAccess && !isArraySubset requestedRead grantedRead then false
          else
            let requiredRestrictions := requestedEntries.filter fun entry =>
              entry.access = .deny || entry.access = .none
                || (grantsWriteAccess && entry.access = .read)
            isArraySubset requiredRestrictions grantedEntries

def isPermissionGrantSubset (requested : CodexAppServerPermissionProfile)
    (granted : CodexAppServerPermissionGrant) : Bool :=
  if requested.issues ≠ [] || granted.issues ≠ [] then false
  else if granted.network.any fun network =>
      !isNetworkGrantSubset requested.network.join network then false
  else granted.fileSystem.all fun fileSystem =>
    isFileSystemGrantSubset requested.fileSystem.join fileSystem

/-! ## Proposals -/

inductive NetworkProtocol where
  | http | https | socks5Tcp | socks5Udp
  deriving DecidableEq

structure NetworkApprovalContext where
  host : Str
  protocol : NetworkProtocol
  deriving DecidableEq

structure CommandProposal where
  argv : List Str
  cwd : Option Str
  environmentId : Option Str
  networkApprovalContext : Option NetworkApprovalContext
  availableDecisions : Option (List CodexCommandApprovalDecision)
  requestedPermissionScope : Option Str
  deriving DecidableEq

structure NetworkProposal where
  host : Str
  protocol : NetworkProtocol
  environmentId : Option Str
  availableDecisions : Option (List CodexCommandApprovalDecision)
  requestedPermissionScope : Option Str
  deriving DecidableEq

inductive CodexApprovalProposal where
  | fileChange (grantRoot : Option Str)
  | command (proposal : CommandProposal)
  | network (proposal : NetworkProposal)
  | permission (scope : Str) (requestedPermissions : CodexAppServerPermissionProfile)
  deriving DecidableEq

inductive ProposalKind where
  | fileChange | command | network | permission
  deriving DecidableEq

def ProposalKind.text : ProposalKind → Str
  | fileChange => js "file_change"
  | command => js "command"
  | network => js "network"
  | permission => js "permission"

def CodexApprovalProposal.kind : CodexApprovalProposal → ProposalKind
  | fileChange _ => .fileChange
  | command _ => .command
  | network _ => .network
  | permission _ _ => .permission

/-- The decisions that the proposal of a command or of a network access lists. -/
def CodexApprovalProposal.availableDecisions : CodexApprovalProposal →
    Option (List CodexCommandApprovalDecision)
  | command proposal => proposal.availableDecisions
  | network proposal => proposal.availableDecisions
  | _ => none

def CodexApprovalProposal.issues : CodexApprovalProposal → List Issue
  | fileChange grantRoot => under "grantRoot" (optionally nonEmpty grantRoot)
  | command proposal =>
    under "argv" (require (proposal.argv ≠ []) [] "Array must contain at least 1 element(s)")
      ++ under "cwd" (optionally nonEmpty proposal.cwd)
      ++ under "environmentId" (optionally nonEmpty proposal.environmentId)
      ++ under "networkApprovalContext" (optionally
        (fun context : NetworkApprovalContext => under "host" (nonEmpty context.host))
        proposal.networkApprovalContext)
      ++ under "requestedPermissionScope" (optionally nonEmpty proposal.requestedPermissionScope)
  | network proposal =>
    under "host" (nonEmpty proposal.host)
      ++ under "environmentId" (optionally nonEmpty proposal.environmentId)
      ++ under "requestedPermissionScope" (optionally nonEmpty proposal.requestedPermissionScope)
  | permission scope requestedPermissions =>
    under "scope" (nonEmpty scope) ++ under "requestedPermissions" requestedPermissions.issues

/-! ## Events -/

structure NormalizedFileChangeItem where
  itemId : Str
  baseHead : Str
  proposedAt : Str
  changes : List GovernedFileChangeDraft
  deriving DecidableEq

inductive Resolution where
  | accept | decline | cancelled | unknown
  deriving DecidableEq

inductive ApplyOutcome where
  | applied | notApplied | unknown
  deriving DecidableEq

inductive TurnEventBody where
  | itemStarted (item : NormalizedFileChangeItem)
  | itemUpdated (item : NormalizedFileChangeItem)
  | approvalRequested (requestId itemId : Str) (proposal : CodexApprovalProposal)
    (semanticContext : Option Str)
  | requestResolved (requestId itemId : Str) (resolution : Resolution)
  | itemCompleted (itemId : Str) (outcome : ApplyOutcome)
  deriving DecidableEq

structure TurnEvent where
  sequence : ℕ
  threadId : Str
  turnId : Str
  body : TurnEventBody
  deriving DecidableEq

inductive EventKind where
  | turn (event : TurnEvent)
  | transportDisconnected
  deriving DecidableEq

structure CodexAppServerNormalizedEvent where
  schemaProfileId : Str
  eventId : Str
  kind : EventKind
  deriving DecidableEq

def normalizedChangeIssues (change : GovernedFileChangeDraft) : List Issue :=
  under "path" (nonEmpty change.path) ++ under "oldPath" (optionally nonEmpty change.oldPath)
    ++ under "unifiedDiff" (nonEmpty change.unifiedDiff)
    ++ under "beforeHash" (hashFieldIssues change.beforeHash)
    ++ under "afterHash" (hashFieldIssues change.afterHash)

def NormalizedFileChangeItem.issues (item : NormalizedFileChangeItem) : List Issue :=
  under "itemId" (nonEmpty item.itemId) ++ under "baseHead" (nonEmpty item.baseHead)
    ++ under "proposedAt" (nonEmpty item.proposedAt)
    ++ under "changes" (eachNonEmpty normalizedChangeIssues item.changes)

def TurnEventBody.issues : TurnEventBody → List Issue
  | itemStarted item | itemUpdated item => under "item" item.issues
  | approvalRequested requestId itemId proposal _ =>
    under "requestId" (nonEmpty requestId) ++ under "itemId" (nonEmpty itemId)
      ++ under "proposal" proposal.issues
  | requestResolved requestId itemId _ =>
    under "requestId" (nonEmpty requestId) ++ under "itemId" (nonEmpty itemId)
  | itemCompleted itemId _ => under "itemId" (nonEmpty itemId)

def TurnEvent.issues (event : TurnEvent) : List Issue :=
  under "sequence" (require (0 < event.sequence) [] "Number must be greater than 0")
    ++ under "threadId" (nonEmpty event.threadId) ++ under "turnId" (nonEmpty event.turnId)
    ++ event.body.issues

/-- `CodexAppServerNormalizedEventSchema`. -/
def CodexAppServerNormalizedEvent.issues (event : CodexAppServerNormalizedEvent) : List Issue :=
  under "schemaProfileId" (nonEmpty event.schemaProfileId)
    ++ under "eventId" (nonEmpty event.eventId)
    ++ match event.kind with
      | .turn turnEvent => turnEvent.issues
      | .transportDisconnected => []

def TurnEventBody.itemId : TurnEventBody → Str
  | itemStarted item | itemUpdated item => item.itemId
  | approvalRequested _ itemId _ _ | requestResolved _ itemId _ | itemCompleted itemId _ => itemId

/-! ## Operators and responses -/

structure HumanApprovalInput where
  requestId : Str
  decision : Decision
  operatorId : Str
  nonce : Option Str
  commandDecision : Option CodexCommandApprovalDecision
  permissionGrant : Option CodexAppServerPermissionGrant
  deriving DecidableEq

/-- `HumanApprovalInputSchema`. -/
def HumanApprovalInput.issues (input : HumanApprovalInput) : List Issue :=
  under "requestId" (nonEmpty input.requestId) ++ under "operatorId" (nonEmpty input.operatorId)
    ++ under "nonce" (optionally nonEmpty input.nonce)
    ++ under "permissionGrant" (optionally CodexAppServerPermissionGrant.issues
      input.permissionGrant)

structure CodexAppServerApprovalResponse where
  schemaProfileId : Str
  requestId : Str
  decision : Decision
  reasonCode : Str
  commandDecision : Option CodexCommandApprovalDecision
  permissionGrant : Option CodexAppServerPermissionGrant
  deriving DecidableEq

/-- `CodexAppServerApprovalResponseSchema`. -/
def CodexAppServerApprovalResponse.issues (response : CodexAppServerApprovalResponse) :
    List Issue :=
  under "schemaProfileId" (nonEmpty response.schemaProfileId)
    ++ under "requestId" (nonEmpty response.requestId)
    ++ under "reasonCode" (nonEmpty response.reasonCode)
    ++ under "permissionGrant" (optionally CodexAppServerPermissionGrant.issues
      response.permissionGrant)

end CodexRouter.Adapter
