import CodexRouter.Kernel.Ids
import CodexRouter.Kernel.Records
import CodexRouter.Runs.Comp
import CodexRouter.Scheduler.Ledger

/-!
# Scheduler

Runs wait in a queue, workers take leases of them. Every call reads a clock whose readings may be
any texts. A file that was written is read back as it was, so the document is the parsed state.
-/

open Js CodexRouter.Kernel Runs

namespace CodexRouter.Scheduler

/-! ## Data -/

def LeaseStatus.text : LeaseStatus → Str
  | active => js "active"
  | released => js "released"
  | expired => js "expired"
  | failed => js "failed"

def QueueItemStatus.text : QueueItemStatus → Str
  | queued => js "queued"
  | leased => js "leased"
  | completed => js "completed"
  | failed => js "failed"
  | exhausted => js "exhausted"

/-- `SchedulerExecutionLease`. -/
structure ExecutionLease where
  leaseId : Str
  runId : Str
  workerId : Str
  acquiredAt : Str
  expiresAt : Str
  heartbeatAt : Option Str
  releasedAt : Option Str
  status : LeaseStatus
  attempt : ℕ
  result : Option Record
  error : Option Record
  deriving DecidableEq

/-- `SchedulerQueueItem`. -/
structure QueueItem where
  runId : Str
  status : QueueItemStatus
  attempts : ℕ
  maxAttempts : ℕ
  leaseDurationMs : ℤ
  enqueuedAt : Str
  updatedAt : Str
  lastLeaseId : Option Str
  lastError : Option Record
  deriving DecidableEq

/-- The fields of both schedulers; a `Map` is the list of its values. -/
structure SchedulerState where
  queue : List QueueItem
  queueOrder : List Str
  leases : List ExecutionLease
  leaseSequence : ℕ
  deriving DecidableEq

def SchedulerState.empty : SchedulerState := ⟨[], [], [], 0⟩

/-- `Date.parse`, without a value for `NaN`, and `new Date(t).toISOString()`, without one where it
throws. What `Date.parse` makes of a text that is no ISO date is the implementation's. -/
structure DateFormat where
  parse : Str → Option ℤ
  toISOString : ℤ → Option Str

structure SchedulerOptions where
  dates : DateFormat
  defaultLeaseDurationMs : ℤ
  defaultMaxAttempts : ℕ

/-- The options that are left out. -/
def SchedulerOptions.default (dates : DateFormat) : SchedulerOptions := ⟨dates, 60000, 1⟩

/-- A record, or what has functions or other parts that `structuredClone` throws at. -/
inductive Payload where
  | record (members : Record)
  | uncloneable (message : Str)

def structuredClone : Payload → Result Record
  | .record members => .ok members
  | .uncloneable message => fail message

/-- The argument of `failLease`; `other` has the text that it is turned into. -/
inductive Failure where
  | error (name message : Str)
  | text (message : Str)
  | record (payload : Payload)
  | date (iso : Option Str)
  | other (text : Str)

def normalizeError : Failure → Result Payload
  | .error name message =>
    .ok (.record [(js "name", .str name), (js "message", .str message)])
  | .text message => .ok (.record [(js "message", .str message)])
  | .record payload => .ok payload
  | .date none => fail "Invalid time value"
  | .date (some iso) => .ok (.record [(js "message", .str iso)])
  | .other text => .ok (.record [(js "message", .str text)])

def formatLeaseId (runId : Str) (attempt sequence : ℕ) : Str :=
  join (cu '_') [js "lease", sanitizeIdPart runId, padStart 3 (Json.natText attempt),
    padStart 4 (Json.natText sequence)]

/-! ## State and clock -/

/-- The state with the readings that the clock has still to give. -/
structure Clocked where
  state : SchedulerState
  clock : ℕ → Str

abbrev Operation (α : Type) := Comp Thrown Clocked α

/-- `this.clock.now()`. -/
def now : Operation Str := fun s => (.ok (s.clock 0), { s with clock := fun n => s.clock (n + 1) })

def look {α : Type} (f : SchedulerState → α) : Operation α := Comp.read fun s => f s.state

def change (f : SchedulerState → SchedulerState) : Operation Unit :=
  Comp.modify fun s => { s with state := f s.state }

/-- What the two schedulers do differently inside a call. -/
structure Backend where
  /-- The `updatedAt` of an item that changes in a call with this time. -/
  stamp : Str → Operation Str
  /-- A new lease among the others. -/
  put : ExecutionLease → List ExecutionLease → List ExecutionLease

/-- The clock is read again for every item, leases are set in a `Map`. -/
def inMemory : Backend := ⟨fun _ => now, setRow ExecutionLease.leaseId⟩

/-- The time of the call is used again, leases are pushed to an array. -/
def inFile : Backend := ⟨pure, fun lease leases => leases ++ [lease]⟩

section

variable (options : SchedulerOptions) (backend : Backend)

def parseTimestamp (timestamp : Str) : Result ℤ :=
  match options.dates.parse timestamp with
  | none => fail (js "invalid_clock_timestamp:" ++ timestamp)
  | some time => .ok time

def addMilliseconds (timestamp : Str) (milliseconds : ℤ) : Result Str := do
  let time ← parseTimestamp options timestamp
  match options.dates.toISOString (time + milliseconds) with
  | none => fail "Invalid time value"
  | some text => return text

/-! ## Parts of the operations -/

def requireLease (leaseId : Str) : Operation ExecutionLease := do
  match ← look fun s => findRow ExecutionLease.leaseId leaseId s.leases with
  | none => Comp.lift (fail (js "lease_not_found:" ++ leaseId))
  | some lease => return lease

def requireQueueItem (runId : Str) : Operation QueueItem := do
  match ← look fun s => findRow QueueItem.runId runId s.queue with
  | none => Comp.lift (fail (js "run_not_queued:" ++ runId))
  | some item => return item

/-- `requireLease`, and the lease is active. -/
def requireActiveLease (leaseId : Str) : Operation ExecutionLease := do
  let lease ← requireLease leaseId
  Comp.lift (if lease.status ≠ .active then fail (js "lease_not_active:" ++ lease.status.text)
    else .ok ())
  return lease

def updateQueueItem (updatedAt : Operation Str) (runId : Str) (patch : QueueItem → QueueItem) :
    Operation Unit := do
  let existing ← requireQueueItem runId
  let updatedAt ← updatedAt
  change fun s =>
    { s with queue := replaceRow QueueItem.runId { patch existing with updatedAt } s.queue }

def replaceLease (lease : ExecutionLease) : Operation Unit :=
  change fun s => { s with leases := replaceRow ExecutionLease.leaseId lease s.leases }

/-- Where an item stands when its lease ends without a result. -/
def retryStatus (item : QueueItem) : QueueItemStatus :=
  if item.maxAttempts ≤ item.attempts then .exhausted else .queued

/-- A lease whose end is not after `time`, or is no time at all, expires. -/
def isExpired (time : ℤ) (lease : ExecutionLease) : Bool :=
  !(options.dates.parse lease.expiresAt).any (time < ·)

def expireLease (nowInput : Str) (time : ℤ) (lease : ExecutionLease) : Operation Unit :=
  if lease.status = .active && isExpired options time lease then do
    replaceLease { lease with status := .expired }
    match ← look fun s => findRow QueueItem.runId lease.runId s.queue with
    | none => return ()
    | some item =>
      if item.status ≠ .leased then return ()
      else updateQueueItem (backend.stamp nowInput) lease.runId fun item =>
        { item with status := retryStatus item }
  else return ()

def expireEach (nowInput : Str) (time : ℤ) : List ExecutionLease → Operation Unit
  | [] => return ()
  | lease :: leases => do
    expireLease options backend nowInput time lease
    expireEach nowInput time leases

def expireLeases : Operation Unit := do
  let nowInput ← now
  let time ← Comp.lift (parseTimestamp options nowInput)
  let leases ← look SchedulerState.leases
  expireEach options backend nowInput time leases

def hasActiveLease (runId : Str) (s : SchedulerState) : Bool :=
  s.leases.any fun lease => lease.runId = runId && lease.status = .active

/-- The lease of a queued item. -/
def issueLease (workerId : Str) (leaseDurationMs : Option ℤ) (item : QueueItem) :
    Operation ExecutionLease := do
  let now ← now
  let attempt := item.attempts + 1
  change fun s => { s with leaseSequence := s.leaseSequence + 1 }
  let sequence ← look SchedulerState.leaseSequence
  let expiresAt ← Comp.lift
    (addMilliseconds options now (leaseDurationMs.getD item.leaseDurationMs))
  let lease : ExecutionLease :=
    { leaseId := formatLeaseId item.runId attempt sequence, runId := item.runId, workerId,
      acquiredAt := now, expiresAt, heartbeatAt := none, releasedAt := none, status := .active,
      attempt, result := none, error := none }
  change fun s => { s with leases := backend.put lease s.leases }
  updateQueueItem (backend.stamp now) item.runId fun item =>
    { item with status := .leased, attempts := attempt, lastLeaseId := lease.leaseId }
  return lease

/-- The loop of `acquireLease` over `queueOrder`. -/
def acquireFrom (workerId : Str) (leaseDurationMs : Option ℤ) :
    List Str → Operation (Option ExecutionLease)
  | [] => return none
  | runId :: queueOrder => do
    match ← look fun s => findRow QueueItem.runId runId s.queue with
    | none => acquireFrom workerId leaseDurationMs queueOrder
    | some item =>
      if item.status ≠ .queued || (← look (hasActiveLease runId)) then
        acquireFrom workerId leaseDurationMs queueOrder
      else if item.maxAttempts ≤ item.attempts then do
        updateQueueItem now runId fun item => { item with status := .exhausted }
        acquireFrom workerId leaseDurationMs queueOrder
      else some <$> issueLease options backend workerId leaseDurationMs item

/-! ## Operations -/

def enqueueRun (runId : Str) (maxAttempts : Option ℕ) (leaseDurationMs : Option ℤ) :
    Operation QueueItem := do
  match ← look fun s => findRow QueueItem.runId runId s.queue with
  | some existing =>
    Comp.lift (if existing.status = .completed || existing.status = .exhausted then
      fail (js "run_not_enqueueable:" ++ existing.status.text) else .ok existing)
  | none =>
    let now ← now
    let item : QueueItem :=
      { runId, status := .queued, attempts := 0,
        maxAttempts := maxAttempts.getD options.defaultMaxAttempts,
        leaseDurationMs := leaseDurationMs.getD options.defaultLeaseDurationMs,
        enqueuedAt := now, updatedAt := now, lastLeaseId := none, lastError := none }
    change fun s =>
      { s with queue := s.queue ++ [item], queueOrder := s.queueOrder ++ [runId] }
    return item

def acquireLease (workerId : Str) (leaseDurationMs : Option ℤ) :
    Operation (Option ExecutionLease) := do
  expireLeases options backend
  let queueOrder ← look SchedulerState.queueOrder
  acquireFrom options backend workerId leaseDurationMs queueOrder

def renewLease (leaseId : Str) (leaseDurationMs : Option ℤ) : Operation ExecutionLease := do
  expireLeases options backend
  let lease ← requireActiveLease leaseId
  let item ← requireQueueItem lease.runId
  let now ← now
  let expiresAt ← Comp.lift
    (addMilliseconds options now (leaseDurationMs.getD item.leaseDurationMs))
  let updated := { lease with heartbeatAt := some now, expiresAt }
  replaceLease updated
  return updated

def releaseLease (leaseId : Str) (result : Payload) : Operation ExecutionLease := do
  expireLeases options backend
  let lease ← requireActiveLease leaseId
  let now ← now
  let result ← Comp.lift (structuredClone result)
  let updated := { lease with status := .released, releasedAt := some now, result := some result }
  replaceLease updated
  updateQueueItem (backend.stamp now) lease.runId fun item => { item with status := .completed }
  return updated

def failLease (leaseId : Str) (error : Failure) : Operation ExecutionLease := do
  expireLeases options backend
  let lease ← requireActiveLease leaseId
  let normalizedError ← Comp.lift (normalizeError error)
  let now ← now
  let error ← Comp.lift (structuredClone normalizedError)
  let updated := { lease with status := .failed, releasedAt := some now, error := some error }
  replaceLease updated
  updateQueueItem (backend.stamp now) lease.runId fun item =>
    { item with status := retryStatus item, lastError := some error }
  return updated

def listQueue : Operation (List QueueItem) := do
  expireLeases options backend
  look fun s => s.queueOrder.filterMap fun runId => findRow QueueItem.runId runId s.queue

def listLeases : Operation (List ExecutionLease) := do
  expireLeases options backend
  look SchedulerState.leases

/-! ## Calls -/

inductive SchedulerCall where
  | enqueueRun (runId : Str) (maxAttempts : Option ℕ) (leaseDurationMs : Option ℤ)
  | acquireLease (workerId : Str) (leaseDurationMs : Option ℤ)
  | renewLease (leaseId : Str) (leaseDurationMs : Option ℤ)
  | releaseLease (leaseId : Str) (result : Payload)
  | failLease (leaseId : Str) (error : Failure)
  | listQueue
  | listLeases

inductive SchedulerAnswer where
  | item (item : QueueItem)
  | lease (lease : Option ExecutionLease)
  | items (items : List QueueItem)
  | leases (leases : List ExecutionLease)
  deriving DecidableEq

def perform : SchedulerCall → Operation SchedulerAnswer
  | .enqueueRun runId maxAttempts leaseDurationMs =>
    .item <$> enqueueRun options runId maxAttempts leaseDurationMs
  | .acquireLease workerId leaseDurationMs =>
    .lease <$> acquireLease options backend workerId leaseDurationMs
  | .renewLease leaseId leaseDurationMs =>
    (.lease ∘ some) <$> renewLease options backend leaseId leaseDurationMs
  | .releaseLease leaseId result => (.lease ∘ some) <$> releaseLease options backend leaseId result
  | .failLease leaseId error => (.lease ∘ some) <$> failLease options backend leaseId error
  | .listQueue => .items <$> listQueue options backend
  | .listLeases => .leases <$> listLeases options backend

end

/-! ## In memory -/

/-- A call of `InMemoryScheduler`, with what the clock reads during it. -/
def InMemoryScheduler.call (options : SchedulerOptions) (s : SchedulerState)
    (c : SchedulerCall × (ℕ → Str)) : Result SchedulerAnswer × SchedulerState :=
  let (result, s) := perform options inMemory c.1 ⟨s, c.2⟩
  (result, s.state)

/-! ## In a file -/

def positive (n : ℤ) : List Issue :=
  require (0 < n) [] "Number must be greater than 0"

/-- `SchedulerQueueItemSchema`. -/
def QueueItem.issues (item : QueueItem) : List Issue :=
  under (js "runId") (nonEmpty item.runId)
    ++ under (js "maxAttempts") (positive item.maxAttempts)
    ++ under (js "leaseDurationMs") (positive item.leaseDurationMs)
    ++ under (js "enqueuedAt") (nonEmpty item.enqueuedAt)
    ++ under (js "updatedAt") (nonEmpty item.updatedAt)
    ++ under (js "lastLeaseId") (optionally nonEmpty item.lastLeaseId)

/-- `SchedulerExecutionLeaseSchema`. -/
def ExecutionLease.issues (lease : ExecutionLease) : List Issue :=
  under (js "leaseId") (nonEmpty lease.leaseId)
    ++ under (js "runId") (nonEmpty lease.runId)
    ++ under (js "workerId") (nonEmpty lease.workerId)
    ++ under (js "acquiredAt") (nonEmpty lease.acquiredAt)
    ++ under (js "expiresAt") (nonEmpty lease.expiresAt)
    ++ under (js "heartbeatAt") (optionally nonEmpty lease.heartbeatAt)
    ++ under (js "releasedAt") (optionally nonEmpty lease.releasedAt)
    ++ under (js "attempt") (positive lease.attempt)

def duplicateIssues (path message : String) (ids : List Str) : List Issue :=
  (findDuplicates ids).map fun id => ([js path], js message ++ id)

/-- `FileSystemSchedulerStateSchema`; its refinement also runs on a state with other issues. -/
def SchedulerState.issues (s : SchedulerState) : List Issue :=
  under (js "queue") (each QueueItem.issues s.queue)
    ++ under (js "queueOrder") (each nonEmpty s.queueOrder)
    ++ under (js "leases") (each ExecutionLease.issues s.leases)
    ++ duplicateIssues "queue" "duplicate_scheduler_queue_run:" (s.queue.map QueueItem.runId)
    ++ duplicateIssues "leases" "duplicate_scheduler_lease:" (s.leases.map ExecutionLease.leaseId)

/-- What the schema copies of a state. -/
def SchedulerState.copied (s : SchedulerState) : SchedulerState where
  queue := s.queue.map fun item => { item with lastError := item.lastError.map Kernel.copied }
  queueOrder := s.queueOrder
  leases := s.leases.map fun lease =>
    { lease with
      result := lease.result.map Kernel.copied
      error := lease.error.map Kernel.copied }
  leaseSequence := s.leaseSequence

/-- The state that the file has; `none` before the first write. -/
abbrev FileSystemScheduler := Option SchedulerState

namespace FileSystemScheduler

def readState (file : FileSystemScheduler) : SchedulerState := file.getD .empty

def writeState (s : SchedulerState) : Result SchedulerState :=
  if s.issues = [] then .ok s.copied else .error (.schema s.issues)

/-- A call of `FileSystemScheduler`: nothing is written when the mutation throws. -/
def call (options : SchedulerOptions) (file : FileSystemScheduler)
    (c : SchedulerCall × (ℕ → Str)) : Result SchedulerAnswer × FileSystemScheduler :=
  match perform options inFile c.1 ⟨readState file, c.2⟩ with
  | (.error e, _) => (.error e, file)
  | (.ok answer, s) =>
    match writeState s.state with
    | .error e => (.error e, file)
    | .ok s => (.ok answer, some s)

end FileSystemScheduler

end CodexRouter.Scheduler
