import CodexRouter.Js.Ascii
import CodexRouter.Retain.Workspace
import CodexRouter.Runs.Process

/-!
# Governed rollback

`runGovernedRollbackWithPrimitive` as a process: locks, inspections, the consumption of the
permit and the restore are questions, and any number of rollbacks may share one store.
-/

open Js CodexRouter.Kernel Runs

namespace CodexRouter.Retain

/-! ## The checks -/

def targetPaths (receipt : RetainReceipt) : List Str :=
  sortUnits (receipt.targetHashes.map (·.path))

/-- The loop over target hashes; a read that throws ends it. -/
def hashReasons (reads : WorkspaceReads) (expected : RetainTargetHash → Option Str)
    (drift failed : Str) : List RetainTargetHash → List Str
  | [] => []
  | target :: targets =>
    match reads.workspacePathHash target.path with
    | .error _ => [failed]
    | .ok current =>
      reasonUnless (current = expected target) (drift ++ target.path)
        ++ hashReasons reads expected drift failed targets

def validateRollbackWorkspaceState (receipt : RetainReceipt) (reads : WorkspaceReads) :
    List Str :=
  let boundary := reads.filterReasons ++ reads.submoduleReasons ++ reads.partialCloneReasons
  if boundary ≠ [] then uniqueStrings boundary
  else
    match reads.repository with
    | .error _ => [js "rollback_repository_inspection_failed"]
    | .ok repository =>
      let reasons := reasonUnless (repository.headCommit = receipt.headCommit)
          "rollback_head_drift"
        ++ reasonUnless (repository.identityHash = receipt.repositoryIdentityHash)
          "rollback_repository_identity_drift"
        ++ reasonUnless (!repository.indexChanged) "rollback_index_drift"
        ++ reasonUnless (sameStringArrays repository.changedPaths (targetPaths receipt))
          "rollback_outside_or_missing_target_drift"
      match reads.topologyReasons with
      | .error _ => uniqueStrings (reasons ++ [js "rollback_repository_inspection_failed"])
      | .ok topologyReasons =>
        if topologyReasons ≠ [] then uniqueStrings (reasons ++ topologyReasons)
        else
          match reads.commitWorktreeHashes with
          | .error _ => uniqueStrings (reasons ++ [js "rollback_base_worktree_snapshot_failed"])
          | .ok restorable =>
            let updateTargets := receipt.targetHashes.filter fun target => target.beforeHash ≠ none
            let reasons := reasons ++ updateTargets.flatMap fun target =>
              reasonUnless (restorable target.path = target.beforeHash)
                (js "rollback_checkout_configuration_drift:" ++ target.path)
            if reasons ≠ [] then uniqueStrings reasons
            else uniqueStrings (hashReasons reads (fun target => some target.afterHash)
              "rollback_after_hash_drift:" "rollback_repository_inspection_failed"
              receipt.targetHashes)

def verifyRollbackPostState (receipt : RetainReceipt) (reads : WorkspaceReads) : List Str :=
  match reads.repository with
  | .error _ => [js "rollback_post_verification_failed"]
  | .ok repository =>
    let reasons := reasonUnless (repository.headCommit = receipt.headCommit)
        "rollback_post_head_mismatch"
      ++ reasonUnless (repository.changedPaths = [] ∧ !repository.indexChanged)
        "rollback_post_worktree_not_clean"
    match reads.topologyReasons, reads.missingTopologyReasons with
    | .ok updated, .ok created =>
      let topologyReasons := uniqueStrings (updated ++ created)
      if topologyReasons ≠ [] then uniqueStrings (reasons ++ topologyReasons)
      else uniqueStrings (reasons ++ hashReasons reads (·.beforeHash)
        "rollback_post_hash_mismatch:" "rollback_post_verification_failed" receipt.targetHashes)
    | _, _ => uniqueStrings (reasons ++ [js "rollback_post_verification_failed"])

/-- What the check behind a restore has seen when it finds nothing. -/
structure Restored (receipt : RetainReceipt) (reads : WorkspaceReads) : Prop where
  repository : ∃ repository, reads.repository = .ok repository ∧
    repository.headCommit = receipt.headCommit ∧ repository.changedPaths = [] ∧
    repository.indexChanged = false
  topology : reads.topologyReasons = .ok [] ∧ reads.missingTopologyReasons = .ok []
  targets : ∀ target ∈ receipt.targetHashes,
    reads.workspacePathHash target.path = .ok target.beforeHash

lemma hashReasons_eq_nil {reads : WorkspaceReads} {expected : RetainTargetHash → Option Str}
    {drift failed : Str} {targets : List RetainTargetHash} :
    hashReasons reads expected drift failed targets = [] ↔
      ∀ target ∈ targets, reads.workspacePathHash target.path = .ok (expected target) := by
  induction targets with
  | nil => simp [hashReasons]
  | cons target targets ih =>
    rw [hashReasons, List.forall_mem_cons]
    split
    · rename_i e he
      simp [he]
    · rename_i current he
      rw [List.append_eq_nil_iff, reasonUnless_eq_nil, ih, he]
      simp

theorem verifyRollbackPostState_eq_nil {receipt : RetainReceipt} {reads : WorkspaceReads} :
    verifyRollbackPostState receipt reads = [] ↔ Restored receipt reads := by
  unfold verifyRollbackPostState
  split
  · rename_i e he
    simp only [List.cons_ne_nil, false_iff]
    intro h
    obtain ⟨repository, hr, -⟩ := h.repository
    simp [he] at hr
  rename_i repository hrepository
  dsimp only
  split
  · rename_i updated created hupdated hcreated
    split_ifs with htopology
    · -- some topology reason
      rw [uniqueStrings_eq_nil, List.append_eq_nil_iff]
      refine ⟨fun h => absurd h.2 htopology, fun h => absurd ?_ htopology⟩
      have hu : updated = [] := by simpa [hupdated] using h.topology.1
      have hc : created = [] := by simpa [hcreated] using h.topology.2
      simp [hu, hc]
    · obtain ⟨rfl, rfl⟩ : updated = [] ∧ created = [] := by simpa using htopology
      simp only [uniqueStrings_eq_nil, List.append_eq_nil_iff, reasonUnless_eq_nil,
        hashReasons_eq_nil, decide_eq_true_eq, Bool.not_eq_true']
      constructor
      · rintro ⟨⟨hhead, hclean⟩, htargets⟩
        exact ⟨⟨repository, hrepository, hhead, hclean⟩, ⟨hupdated, hcreated⟩, htargets⟩
      · intro h
        obtain ⟨repository', hr, hhead, hclean⟩ := h.repository
        obtain rfl : repository = repository' := by simpa [hrepository] using hr
        exact ⟨⟨hhead, hclean⟩, h.targets⟩
  · rename_i hnot
    simp only [uniqueStrings_eq_nil, List.append_eq_nil_iff, List.cons_ne_nil, and_false,
      false_iff]
    exact fun h => hnot [] [] h.topology.1 h.topology.2

/-! ## The process -/

/-- What a rollback asks of its environment. -/
inductive RollbackOp where
  | acquireRollbackLock
  | inspectWorkspace (receipt : RetainReceipt)
  | consumePermit (key : Str)
  | startRestore (receipt : RetainReceipt)
  | awaitRestore
  | inspectRestored (receipt : RetainReceipt)
  | releaseLock

/-- The answers; a lock that cannot be acquired is `false`. -/
abbrev RollbackOp.Answer : RollbackOp → Type
  | acquireRollbackLock => Bool
  | inspectWorkspace _ => WorkspaceReads
  | consumePermit _ => Result Bool
  | startRestore _ => Unit
  | awaitRestore => Result Unit
  | inspectRestored _ => WorkspaceReads
  | releaseLock => Unit

abbrev RollbackProcess (α : Type) := Process RollbackOp RollbackOp.Answer α

abbrev RollbackEvent := Event RollbackOp RollbackOp.Answer

inductive RollbackStatus where
  | rolledBack | blocked | reconciliationRequired
  deriving DecidableEq

structure GovernedRollbackResult where
  status : RollbackStatus
  reasons : List Str
  permitId : Str
  receiptId : Str
  deriving DecidableEq

/-- `storeTrusted`: the store is one that `trustedRollbackConsumptionOperations` knows. -/
structure RollbackInput where
  receipt : RetainReceipt
  permit : RollbackPermit
  storeTrusted : Bool
  now : Str

section
variable [Runtime]

/-- What a consumption key names: permit id, receipt hash and nonce hash. -/
def permitKey (permit : RollbackPermit) : Str × Str × Str :=
  (permit.permitId, permit.receiptHash, permit.nonceHash)

def consumptionDocument : Str × Str × Str → Json
  | (permitId, receiptHash, nonceHash) =>
    .obj [(js "schemaVersion", .str "rollback-consumption.v1"), (js "permitId", .str permitId),
      (js "receiptHash", .str receiptHash), (js "nonceHash", .str nonceHash)]

def consumptionKey (permit : RollbackPermit) : Str :=
  hashKernelObject (consumptionDocument (permitKey permit))

/-- The part of the preflight that reads only its arguments. -/
def rollbackBindingReasons (receipt : RetainReceipt) (permit : RollbackPermit) (now : Str) :
    List Str :=
  reasonUnless (permit.receiptId = receipt.receiptId
      ∧ permit.receiptHash = hashKernelObject receipt.toJson)
    "rollback_receipt_binding_mismatch"
  ++ reasonUnless (permit.expectedHead = receipt.headCommit)
    "rollback_permit_head_binding_mismatch"
  ++ reasonUnless (sameStringArrays permit.targetFiles (targetPaths receipt))
    "rollback_permit_target_binding_mismatch"
  ++ reasonUnless (!(isExpired permit.expiresAt now || isBefore now permit.issuedAt))
    "rollback_permit_expired_or_not_yet_valid"

def validateRollbackPreflight (receipt : RetainReceipt) (permit : RollbackPermit) (now : Str) :
    RollbackProcess (List Str) :=
  if !isGitObjectId receipt.headCommit then return [js "rollback_head_object_id_invalid"]
  else do
    let reads ← Process.query (RollbackOp.inspectWorkspace receipt)
    return uniqueStrings (rollbackBindingReasons receipt permit now
      ++ validateRollbackWorkspaceState receipt reads)

/-- The body of the `try` whose `finally` releases the lock. -/
def rollbackUnderLock (receipt : RetainReceipt) (permit : RollbackPermit) (now : Str) :
    RollbackProcess GovernedRollbackResult := do
  let result (status : RollbackStatus) (reasons : List Str) : GovernedRollbackResult :=
    ⟨status, reasons, permit.permitId, receipt.receiptId⟩
  let preflight ← validateRollbackPreflight receipt permit now
  if preflight ≠ [] then return result .blocked preflight
  let consumed : Result Bool ← Process.query (RollbackOp.consumePermit (consumptionKey permit))
  match consumed with
  | .error _ => return result .reconciliationRequired [js "rollback_consumption_store_failed"]
  | .ok false => return result .blocked [js "rollback_permit_replay"]
  | .ok true =>
    let reads ← Process.query (RollbackOp.inspectWorkspace receipt)
    let adjacentPreflight := validateRollbackWorkspaceState receipt reads
    if adjacentPreflight ≠ [] then return result .reconciliationRequired adjacentPreflight
    Process.query (RollbackOp.startRestore receipt)
    let restored : Result Unit ← Process.query RollbackOp.awaitRestore
    match restored with
    | .error _ => return result .reconciliationRequired [js "rollback_restore_failed_or_partial"]
    | .ok () =>
      let reads ← Process.query (RollbackOp.inspectRestored receipt)
      let verification := verifyRollbackPostState receipt reads
      if verification ≠ [] then return result .reconciliationRequired verification
      return result .rolledBack []

def runGovernedRollbackWithPrimitive (input : RollbackInput) :
    RollbackProcess (Result GovernedRollbackResult) :=
  match parse RetainReceipt.issues input.receipt, parse RollbackPermit.issues input.permit with
  | .error e, _ => return .error e
  | .ok _, .error e => return .error e
  | .ok receipt, .ok permit => do
    let blocked (reason : Str) : Result GovernedRollbackResult :=
      .ok ⟨.blocked, [reason], permit.permitId, receipt.receiptId⟩
    if !input.storeTrusted then return blocked "rollback_consumption_store_untrusted"
    if !(← Process.query RollbackOp.acquireRollbackLock) then return blocked "rollback_lock_unavailable"
    let result ← rollbackUnderLock receipt permit input.now
    Process.query RollbackOp.releaseLock
    return .ok result

/-! ## What one rollback does -/

def startsRestore : RollbackEvent → Bool
  | ⟨.startRestore _, _⟩ => true
  | _ => false

/-- The permit with this key was consumed. -/
def consumes (key : Str) : RollbackEvent → Bool
  | ⟨.consumePermit k, .ok true⟩ => k = key
  | _ => false

/-- The permit may have been consumed: the store did not say that it had been before. -/
def mayConsume : RollbackEvent → Bool
  | ⟨.consumePermit _, .ok false⟩ => false
  | ⟨.consumePermit _, _⟩ => true
  | _ => false

/-- The events of a rollback that went through. -/
def completeEvents (input : RollbackInput) (first second restored : WorkspaceReads) :
    List RollbackEvent :=
  [⟨.acquireRollbackLock, true⟩, ⟨.inspectWorkspace input.receipt, first⟩,
    ⟨.consumePermit (consumptionKey input.permit), .ok true⟩,
    ⟨.inspectWorkspace input.receipt, second⟩, ⟨.startRestore input.receipt, ()⟩,
    ⟨.awaitRestore, .ok ()⟩, ⟨.inspectRestored input.receipt, restored⟩, ⟨.releaseLock, ()⟩]

/-- What holds at any point of a rollback, and at its end. -/
structure Accounted (input : RollbackInput) (events : List RollbackEvent)
    (rest : RollbackProcess (Result GovernedRollbackResult)) : Prop where
  restores : events.countP startsRestore ≤ 1
  consumed : 0 < events.countP startsRestore →
    0 < events.countP (consumes (consumptionKey input.permit))
  bound : 0 < events.countP startsRestore → RetainReceipt.issues input.receipt = [] ∧
    RollbackPermit.issues input.permit = [] ∧ isGitObjectId input.receipt.headCommit = true ∧
    rollbackBindingReasons input.receipt input.permit input.now = []
  inspected : 0 < events.countP startsRestore →
    ∃ reads, validateRollbackWorkspaceState input.receipt reads = []
  blocked : ∀ result, rest = .done (.ok result) → result.status = .blocked →
    events.countP mayConsume = 0 ∧ events.countP startsRestore = 0
  rolledBack : ∀ result, rest = .done (.ok result) → result.status = .rolledBack →
    ∃ first second restored, events = completeEvents input first second restored ∧
      verifyRollbackPostState input.receipt restored = []

/-- A call that has not started a restore and is not done. -/
lemma Accounted.asking {input : RollbackInput} {events : List RollbackEvent} {op : RollbackOp}
    {next : op.Answer → RollbackProcess (Result GovernedRollbackResult)}
    (h : events.countP startsRestore = 0) : Accounted input events (.ask op next) := by
  constructor <;> simp [h]

/-- A call that ends without a restore. -/
lemma Accounted.ended {input : RollbackInput} {events : List RollbackEvent}
    {result : GovernedRollbackResult} (h : events.countP startsRestore = 0)
    (hblocked : result.status = .blocked → events.countP mayConsume = 0)
    (hstatus : result.status ≠ .rolledBack) : Accounted input events (.done (.ok result)) := by
  refine ⟨by simp [h], by simp [h], by simp [h], by simp [h], ?_, ?_⟩
  · rintro _ ⟨⟩ hb
    exact ⟨hblocked hb, h⟩
  · rintro _ ⟨⟩ hr
    exact absurd hr hstatus

/-- A call with one restore that is still going on, or ended without success. -/
lemma Accounted.restoring {input : RollbackInput} {events : List RollbackEvent}
    {rest : RollbackProcess (Result GovernedRollbackResult)}
    (hone : events.countP startsRestore = 1)
    (hconsumed : 0 < events.countP (consumes (consumptionKey input.permit)))
    (hbound : RetainReceipt.issues input.receipt = [] ∧ RollbackPermit.issues input.permit = [] ∧
      isGitObjectId input.receipt.headCommit = true ∧
      rollbackBindingReasons input.receipt input.permit input.now = [])
    (hinspected : ∃ reads, validateRollbackWorkspaceState input.receipt reads = [])
    (hrest : ∀ result, rest = .done (.ok result) → result.status = .reconciliationRequired) :
    Accounted input events rest := by
  refine ⟨hone.le, fun _ => hconsumed, fun _ => hbound, fun _ => hinspected, ?_, ?_⟩
  · intro result hdone hb
    rw [hrest result hdone] at hb
    cases hb
  · intro result hdone hr
    rw [hrest result hdone] at hr
    cases hr

theorem rollback_accounted (input : RollbackInput) {events : List RollbackEvent}
    {rest : RollbackProcess (Result GovernedRollbackResult)}
    (h : (runGovernedRollbackWithPrimitive input).Path events rest) :
    Accounted input events rest := by
  unfold runGovernedRollbackWithPrimitive at h
  split at h
  · obtain ⟨rfl, rfl⟩ := Process.path_done.mp h
    constructor <;> simp
  · obtain ⟨rfl, rfl⟩ := Process.path_done.mp h
    constructor <;> simp
  rename_i receipt permit hparse hparse'
  obtain ⟨hreceipt, rfl⟩ := parse_eq_ok.mp hparse
  obtain ⟨hpermit, rfl⟩ := parse_eq_ok.mp hparse'
  simp only [Process.pure_eq, Process.query_bind] at h
  split at h
  · obtain ⟨rfl, rfl⟩ := Process.path_done.mp h
    exact Accounted.ended rfl (fun _ => rfl) nofun
  -- the lock
  rcases Process.path_ask.mp h with ⟨rfl, rfl⟩ | ⟨locked, events, rfl, h₁⟩
  · exact Accounted.asking rfl
  split at h₁
  · obtain ⟨rfl, rfl⟩ := Process.path_done.mp h₁
    exact Accounted.ended rfl (fun _ => rfl) nofun
  rename_i hlocked
  obtain rfl : locked = true := by simpa using hlocked
  unfold rollbackUnderLock validateRollbackPreflight at h₁
  split at h₁
  · -- a head that is no object id
    simp only [Process.pure_eq, Process.done_bind, ne_eq, List.cons_ne_nil, not_false_eq_true,
      if_true] at h₁
    rcases Process.path_ask.mp h₁ with ⟨rfl, rfl⟩ | ⟨⟨⟩, events, rfl, h₂⟩
    · exact Accounted.asking rfl
    obtain ⟨rfl, rfl⟩ := Process.path_done.mp h₂
    exact Accounted.ended rfl (fun _ => rfl) nofun
  rename_i hhead
  simp only [Process.pure_eq, Process.query_bind, Process.ask_bind, Process.done_bind] at h₁
  rcases Process.path_ask.mp h₁ with ⟨rfl, rfl⟩ | ⟨first, events, rfl, h₂⟩
  · exact Accounted.asking rfl
  split at h₂
  · simp only [Process.done_bind] at h₂
    rcases Process.path_ask.mp h₂ with ⟨rfl, rfl⟩ | ⟨⟨⟩, events, rfl, h₃⟩
    · exact Accounted.asking rfl
    obtain ⟨rfl, rfl⟩ := Process.path_done.mp h₃
    exact Accounted.ended rfl (fun _ => rfl) nofun
  rename_i hpreflight
  have hbinding : rollbackBindingReasons input.receipt input.permit input.now = [] := by
    have hnil := not_not.mp hpreflight
    rw [uniqueStrings_eq_nil, List.append_eq_nil_iff] at hnil
    exact hnil.1
  have hbound : RetainReceipt.issues input.receipt = [] ∧ RollbackPermit.issues input.permit = [] ∧
      isGitObjectId input.receipt.headCommit = true ∧
      rollbackBindingReasons input.receipt input.permit input.now = [] :=
    ⟨hreceipt, hpermit, by simpa using hhead, hbinding⟩
  -- the consumption
  rcases Process.path_ask.mp h₂ with ⟨rfl, rfl⟩ | ⟨consumed, events, rfl, h₃⟩
  · exact Accounted.asking rfl
  rcases consumed with e | b
  · rcases Process.path_ask.mp h₃ with ⟨rfl, rfl⟩ | ⟨⟨⟩, events, rfl, h₄⟩
    · exact Accounted.asking rfl
    obtain ⟨rfl, rfl⟩ := Process.path_done.mp h₄
    exact Accounted.ended rfl nofun nofun
  rcases b with _ | _
  · rcases Process.path_ask.mp h₃ with ⟨rfl, rfl⟩ | ⟨⟨⟩, events, rfl, h₄⟩
    · exact Accounted.asking rfl
    obtain ⟨rfl, rfl⟩ := Process.path_done.mp h₄
    exact Accounted.ended rfl (fun _ => rfl) nofun
  -- the second inspection
  rcases Process.path_ask.mp h₃ with ⟨rfl, rfl⟩ | ⟨second, events, rfl, h₄⟩
  · exact Accounted.asking rfl
  dsimp only at h₄
  split at h₄
  · rcases Process.path_ask.mp h₄ with ⟨rfl, rfl⟩ | ⟨⟨⟩, events, rfl, h₅⟩
    · exact Accounted.asking rfl
    obtain ⟨rfl, rfl⟩ := Process.path_done.mp h₅
    exact Accounted.ended rfl nofun nofun
  rename_i hadjacent
  have hinspected : ∃ reads, validateRollbackWorkspaceState input.receipt reads = [] :=
    ⟨second, not_not.mp hadjacent⟩
  -- the restore
  rcases Process.path_ask.mp h₄ with ⟨rfl, rfl⟩ | ⟨⟨⟩, events, rfl, h₅⟩
  · exact Accounted.asking rfl
  rcases Process.path_ask.mp h₅ with ⟨rfl, rfl⟩ | ⟨restored, events, rfl, h₆⟩
  · exact Accounted.restoring rfl (by simp [consumes]) hbound hinspected nofun
  rcases restored with e | ⟨⟨⟩⟩
  · rcases Process.path_ask.mp h₆ with ⟨rfl, rfl⟩ | ⟨⟨⟩, events, rfl, h₇⟩
    · exact Accounted.restoring rfl (by simp [consumes]) hbound hinspected nofun
    obtain ⟨rfl, rfl⟩ := Process.path_done.mp h₇
    exact Accounted.restoring rfl (by simp [consumes]) hbound hinspected
      (by rintro _ ⟨⟩; rfl)
  -- the check behind the restore
  rcases Process.path_ask.mp h₆ with ⟨rfl, rfl⟩ | ⟨reads, events, rfl, h₇⟩
  · exact Accounted.restoring rfl (by simp [consumes]) hbound hinspected nofun
  dsimp only at h₇
  split at h₇
  · rcases Process.path_ask.mp h₇ with ⟨rfl, rfl⟩ | ⟨⟨⟩, events, rfl, h₈⟩
    · exact Accounted.restoring rfl (by simp [consumes]) hbound hinspected nofun
    obtain ⟨rfl, rfl⟩ := Process.path_done.mp h₈
    exact Accounted.restoring rfl (by simp [consumes]) hbound hinspected
      (by rintro _ ⟨⟩; rfl)
  rename_i hverified
  rcases Process.path_ask.mp h₇ with ⟨rfl, rfl⟩ | ⟨⟨⟩, events, rfl, h₈⟩
  · exact Accounted.restoring rfl (by simp [consumes]) hbound hinspected nofun
  obtain ⟨rfl, rfl⟩ := Process.path_done.mp h₈
  refine ⟨by rfl, fun _ => by simp [consumes], fun _ => hbound, fun _ => hinspected, ?_, ?_⟩
  · rintro _ ⟨⟩ hb
    cases hb
  · rintro _ ⟨⟩ -
    exact ⟨first, second, reads, rfl, not_not.mp hverified⟩

/-! ## Any number of rollbacks on one store -/

/-- The stores that register themselves as trusted. -/
inductive ConsumptionStore where
  | inMemory | file

/-- What a store keeps of a consumed key. -/
def ConsumptionStore.marker : ConsumptionStore → Str → Str
  | inMemory, key => key
  | file, key => Runtime.sha256 key ++ js ".consumed"

/-- `consumeOperation`: an exclusive creation of the marker. The file system may fail before it,
or behind it when the marker is written and synced. -/
inductive Consumes (store : ConsumptionStore) (key : Str) :
    List Str → Result Bool → List Str → Prop
  | replay {consumed : List Str} (h : store.marker key ∈ consumed) :
      Consumes store key consumed (.ok false) consumed
  | fresh {consumed : List Str} (h : store.marker key ∉ consumed) :
      Consumes store key consumed (.ok true) (store.marker key :: consumed)
  | failed {consumed : List Str} (e : Thrown) (hstore : store = .file) :
      Consumes store key consumed (.error e) consumed
  | failedBehindMarker {consumed : List Str} (e : Thrown) (hstore : store = .file)
      (h : store.marker key ∉ consumed) :
      Consumes store key consumed (.error e) (store.marker key :: consumed)

/-- Inspections, locks and restores may answer anything. -/
def rollbackAnswers (store : ConsumptionStore) (op : RollbackOp) (consumed : List Str)
    (answer : op.Answer) (consumed' : List Str) : Prop :=
  match op, answer with
  | .consumePermit key, answer => Consumes store key consumed answer consumed'
  | _, _ => consumed' = consumed

/-- Each key is consumed at most once, and then its marker is there. -/
def SingleUse {ι : Type} (store : ConsumptionStore) (consumed : List Str)
    (log : List (ι × RollbackEvent)) : Prop :=
  ∀ key, log.countP (fun e => consumes key e.2) ≤ 1 ∧
    (0 < log.countP (fun e => consumes key e.2) → store.marker key ∈ consumed)

/-- An event that consumes nothing, while markers only come in. -/
lemma SingleUse.quiet {ι : Type} {store : ConsumptionStore} {consumed consumed' : List Str}
    {log : List (ι × RollbackEvent)} (h : SingleUse store consumed log)
    (hsub : consumed ⊆ consumed') {e : ι × RollbackEvent} (he : ∀ key, consumes key e.2 = false) :
    SingleUse store consumed' (log ++ [e]) := by
  intro key
  rw [List.countP_append, List.countP_singleton, he key]
  exact ⟨(h key).1, fun hpos => hsub ((h key).2 hpos)⟩

lemma SingleUse.answer {ι : Type} {store : ConsumptionStore} {consumed consumed' : List Str}
    {log : List (ι × RollbackEvent)} (h : SingleUse store consumed log) (i : ι) (op : RollbackOp)
    (answer : op.Answer) (hanswer : rollbackAnswers store op consumed answer consumed') :
    SingleUse store consumed' (log ++ [(i, ⟨op, answer⟩)]) := by
  cases op with
  | consumePermit key' =>
    cases (show Consumes store key' consumed answer consumed' from hanswer) with
    | replay => exact h.quiet (List.Subset.refl _) fun _ => rfl
    | failed => exact h.quiet (List.Subset.refl _) fun _ => rfl
    | failedBehindMarker => exact h.quiet (List.subset_cons_self _ _) fun _ => rfl
    | fresh hfresh =>
      intro key
      have hevent : consumes key ⟨.consumePermit key', .ok true⟩ = decide (key' = key) := rfl
      rw [List.countP_append, List.countP_singleton, hevent]
      by_cases hk : key' = key
      · subst hk
        -- a key consumed before would have its marker
        have hzero : log.countP (fun e => consumes key' e.2) = 0 := by
          by_contra hne
          exact hfresh ((h key').2 (Nat.pos_of_ne_zero hne))
        simp [hzero]
      · rw [decide_eq_false hk]
        exact ⟨(h key).1, fun hpos => List.mem_cons_of_mem _ ((h key).2 hpos)⟩
  | acquireRollbackLock => exact h.quiet (hanswer ▸ List.Subset.refl _) fun _ => rfl
  | inspectWorkspace => exact h.quiet (hanswer ▸ List.Subset.refl _) fun _ => rfl
  | startRestore => exact h.quiet (hanswer ▸ List.Subset.refl _) fun _ => rfl
  | awaitRestore => exact h.quiet (hanswer ▸ List.Subset.refl _) fun _ => rfl
  | inspectRestored => exact h.quiet (hanswer ▸ List.Subset.refl _) fun _ => rfl
  | releaseLock => exact h.quiet (hanswer ▸ List.Subset.refl _) fun _ => rfl

/-- Over any interleaving of rollbacks on one store, whatever markers it holds already, a permit
starts at most one restore; a blocked result means that nothing was consumed or restored, and a
rolled-back one that this call consumed the permit, restored and found the old state. -/
theorem governed_rollback_single_use {ι : Type} [DecidableEq ι] (store : ConsumptionStore)
    (consumed : List Str) (inputs : ι → RollbackInput)
    {pool : Pool RollbackOp RollbackOp.Answer (Result GovernedRollbackResult) (List Str) ι}
    (h : Pool.Reaches (rollbackAnswers store) (· ⊆ ·)
      (Pool.start consumed fun i => runGovernedRollbackWithPrimitive (inputs i)) pool) :
    (∀ permit, pool.log.countP
        (fun e => startsRestore e.2 && permitKey (inputs e.1).permit = permit) ≤ 1) ∧
      ∀ i result, pool.processes i = .done (.ok result) →
        (result.status = .blocked → (pool.events i).countP mayConsume = 0 ∧
          (pool.events i).countP startsRestore = 0) ∧
        (result.status = .rolledBack → ∃ first second restored,
          pool.events i = completeEvents (inputs i) first second restored ∧
            Restored (inputs i).receipt restored) := by
  have haccounted : ∀ i, Accounted (inputs i) (pool.events i) (pool.processes i) :=
    fun i => rollback_accounted (inputs i) (h.path i)
  have hsingle : SingleUse store pool.shared pool.log :=
    h.invariant (I := SingleUse store) (fun _ => ⟨Nat.zero_le 1, nofun⟩)
      (fun _ _ i op answer _ hs ha => hs.answer i op answer ha)
      (fun _ _ _ hs hsub key => ⟨(hs key).1, fun hpos => hsub ((hs key).2 hpos)⟩)
  constructor
  · intro permit
    -- a restore under this permit stands behind a consumption of its key by the same call
    refine le_trans (Pool.countP_le_of_processes pool.log fun i => ?_)
      (hsingle (hashKernelObject (consumptionDocument permit))).1
    have hevents : ∀ f : RollbackEvent → Bool,
        (pool.log.filter (·.1 = i)).countP (fun e => f e.2) = (pool.events i).countP f :=
      fun f => (List.countP_map ..).symm
    by_cases hi : permitKey (inputs i).permit = permit
    · have hle : (pool.log.filter (·.1 = i)).countP
          (fun e => startsRestore e.2 && permitKey (inputs e.1).permit = permit) ≤
            (pool.events i).countP startsRestore := by
        rw [← hevents]
        exact List.countP_mono_left fun e _ he => ((Bool.and_eq_true ..).mp he).1
      refine hle.trans ?_
      rw [hevents]
      have hconsumed := (haccounted i).consumed
      rw [consumptionKey, hi] at hconsumed
      have hone := (haccounted i).restores
      omega
    · have hzero : (pool.log.filter (·.1 = i)).countP
          (fun e => startsRestore e.2 && permitKey (inputs e.1).permit = permit) = 0 := by
        rw [List.countP_eq_zero]
        intro e he
        have hei : e.1 = i := by simpa using (List.mem_filter.mp he).2
        simp [hei, hi]
      omega
  · intro i result hdone
    refine ⟨(haccounted i).blocked result hdone, fun hstatus => ?_⟩
    obtain ⟨first, second, restored, hevents, hverified⟩ :=
      (haccounted i).rolledBack result hdone hstatus
    exact ⟨first, second, restored, hevents, verifyRollbackPostState_eq_nil.mp hverified⟩

end

section
attribute [local instance] asciiRuntime

def restoredReceipt : RetainReceipt where
  receiptId := "retained_1"
  permitId := "retain_1"
  changeSetHash := List.replicate 64 (cu 'c')
  previewReceiptHash := none
  headCommit := List.replicate 40 (cu '0')
  repositoryIdentityHash := List.replicate 64 (cu 'f')
  targetHashes := [⟨"src/a.ts", none, List.replicate 64 (cu 'a')⟩]
  retainedAt := "2026-01-02T03:04:05Z"

def restorePermit : RollbackPermit where
  permitId := "rollback_1"
  receiptId := "retained_1"
  receiptHash := hashKernelObject restoredReceipt.toJson
  operatorId := "operator"
  expectedHead := List.replicate 40 (cu '0')
  targetFiles := ["src/a.ts"]
  issuedAt := "2026-01-02T03:05:00Z"
  expiresAt := "2026-01-02T04:05:00Z"
  nonceHash := List.replicate 64 (cu '9')

def restoreInput : RollbackInput := ⟨restoredReceipt, restorePermit, true, "2026-01-02T03:30:00Z"⟩

/-- The workspace with the created file, or after its removal. -/
def restoreReads (changed : Bool) : WorkspaceReads where
  filterReasons := []
  submoduleReasons := []
  partialCloneReasons := []
  repository := .ok ⟨restoredReceipt.headCommit, restoredReceipt.repositoryIdentityHash,
    if changed then ["src/a.ts"] else [], false, fun _ => none⟩
  topologyReasons := .ok []
  missingTopologyReasons := .ok []
  commitPathExists _ := .ok false
  commitWorktreeHashes := .ok fun _ => none
  workspacePathHash _ := .ok (if changed then some (List.replicate 64 (cu 'a')) else none)

/-- A store in memory, and an environment in which every step succeeds. -/
def restoreReply (op : RollbackOp) (consumed : List Str) : op.Answer × List Str :=
  match op with
  | .acquireRollbackLock => (true, consumed)
  | .inspectWorkspace _ => (restoreReads true, consumed)
  | .consumePermit key =>
    if key ∈ consumed then (.ok false, consumed) else (.ok true, key :: consumed)
  | .startRestore _ => ((), consumed)
  | .awaitRestore => (.ok (), consumed)
  | .inspectRestored _ => (restoreReads false, consumed)
  | .releaseLock => ((), consumed)

lemma restoreReply_answers (op : RollbackOp) (consumed : List Str) :
    rollbackAnswers .inMemory op consumed (restoreReply op consumed).1
      (restoreReply op consumed).2 := by
  cases op with
  | consumePermit key =>
    change Consumes .inMemory key consumed _ _
    unfold restoreReply
    dsimp only
    split
    · exact Consumes.replay ‹_›
    · exact Consumes.fresh ‹_›
  | _ => rfl

/-- Two rollbacks with one permit, the second between the first one's consumption and restore. -/
def restoreTwice :
    Pool RollbackOp RollbackOp.Answer (Result GovernedRollbackResult) (List Str) Bool :=
  Pool.execute restoreReply
    [false, false, false, true, true, true, true, false, false, false, false, false]
    (Pool.start [] fun _ => runGovernedRollbackWithPrimitive restoreInput)

theorem restoreTwice_single_use :
    (∀ permit, restoreTwice.log.countP
        (fun e => startsRestore e.2 && permitKey restoreInput.permit = permit) ≤ 1) ∧
      ∀ i result, restoreTwice.processes i = .done (.ok result) →
        (result.status = .blocked → (restoreTwice.events i).countP mayConsume = 0 ∧
          (restoreTwice.events i).countP startsRestore = 0) ∧
        (result.status = .rolledBack → ∃ first second restored,
          restoreTwice.events i = completeEvents restoreInput first second restored ∧
            Restored restoreInput.receipt restored) :=
  governed_rollback_single_use .inMemory [] (fun _ => restoreInput)
    (Pool.reaches_execute restoreReply_answers _ _)

/-- The status of a rollback that is done. -/
def doneStatus : RollbackProcess (Result GovernedRollbackResult) → Option RollbackStatus
  | .done (.ok result) => some result.status
  | _ => none

example : doneStatus (restoreTwice.processes false) = some .rolledBack ∧
    doneStatus (restoreTwice.processes true) = some .blocked := by
  decide +kernel

end

end CodexRouter.Retain
