import CodexRouter.Js.Text
import Mathlib.Logic.Function.Basic

/-!
# Operator action receipts

Processes share one directory of receipt files. A consume call takes the lock directory, reads all
receipt files twice, appends its receipt and gives the lock up. Every call of the file system and
every reading of the clock that a decision rests on is one step of one process.
-/

open Js

namespace CodexRouter.Receipts

/-! ## Files -/

/-- What the store looks at in a receipt. -/
structure Receipt where
  receiptId : Str
  taskId : Str
  actionRef : Str
  deriving DecidableEq

/-- The lock directory, with the token in its `owner.json`. -/
structure LockDir (ι : Type) where
  creator : Option ι
  owner : Option Str
  mtimeMs : ℤ

/-- A receipt file; a line that `parseReceiptLines` refuses has no receipt. -/
structure ReceiptFile where
  name : Str
  lines : List (Option Receipt)

/-- The file with a line more, when it has that name. -/
def ReceiptFile.append (name : Str) (receipt : Receipt) (file : ReceiptFile) : ReceiptFile :=
  if file.name = name then { file with lines := file.lines ++ [some receipt] } else file

structure ReceiptDir (ι : Type) where
  files : List ReceiptFile
  lock : Option (LockDir ι)

namespace ReceiptDir

variable {ι : Type}

/-- `mkdir(lockPath)` where there is none. -/
def makeLock (d : ReceiptDir ι) (creator : ι) (now : ℤ) : ReceiptDir ι :=
  { d with lock := some ⟨creator, none, now⟩ }

/-- `writeFile` of the `owner.json`; a new file changes the time of its directory. -/
def writeOwner (d : ReceiptDir ι) (ownerToken : Str) (now : ℤ) : ReceiptDir ι :=
  { d with lock := d.lock.map fun dir => { dir with owner := ownerToken, mtimeMs := now } }

/-- `rm(lockPath, { recursive: true, force: true })`. -/
def removeLock (d : ReceiptDir ι) : ReceiptDir ι := { d with lock := none }

/-- `readFile` and `parseReceiptLines`; `none` where one of them throws. -/
def read (d : ReceiptDir ι) (name : Str) : Option (List Receipt) := do
  let file ← d.files.find? (·.name = name)
  file.lines.mapM id

/-- `writeFile(path, line, { flag: "a" })`. -/
def append (d : ReceiptDir ι) (name : Str) (receipt : Receipt) : ReceiptDir ι :=
  { d with files :=
      if d.files.any (·.name = name) then d.files.map (ReceiptFile.append name receipt)
      else d.files ++ [⟨name, [some receipt]⟩] }

end ReceiptDir

def lockTimeoutMs : ℤ := 5000

def lockStaleMs : ℤ := 30000

/-! ## Processes -/

/-- A call of `consume` that its process has taken from its queue. The input may be one that
`parseReceiptForStore` throws at. -/
structure ConsumeCall where
  ownerToken : Str
  startedAt : ℤ
  input : Option Receipt

inductive Outcome where
  | stored (receipt : Receipt)
  | replay
  | thrown
  deriving DecidableEq

/-- The two loads of `consumeExclusive`, for `getReceipt` and for `findByActionRef`; the second
knows whether there is an `existingReceipt`. -/
inductive Search where
  | byId
  | byAction (existingReceipt : Bool)

/-- The step that a process takes next. -/
inductive Phase where
  /-- No call has left the queue. -/
  | idle
  /-- `mkdir(lockPath)`. -/
  | making (call : ConsumeCall)
  /-- `stat(lockPath)` of `reclaimStaleFileReceiptConsumeClaim`. -/
  | statting (call : ConsumeCall)
  | testing (call : ConsumeCall) (mtimeMs : ℤ)
  /-- Its `rm`. -/
  | reclaiming (call : ConsumeCall)
  /-- Before the timeout is tested. -/
  | waiting (call : ConsumeCall)
  /-- `writeFile` of the `owner.json`. -/
  | owning (call : ConsumeCall)
  /-- The `rm` after that failed. -/
  | abandoning
  /-- The call is parsed and `readdir` is next. -/
  | listing (call : ConsumeCall) (search : Search)
  | reading (call : ConsumeCall) (receipt : Receipt) (search : Search) (names : List Str)
      (found : List Receipt)
  /-- `writeFile` of the receipt. -/
  | appending (call : ConsumeCall) (receipt : Receipt)
  /-- `readFile` of `releaseFileReceiptConsumeClaim`. -/
  | releasing (call : ConsumeCall) (outcome : Outcome)
  /-- Its `rm`. -/
  | removing (outcome : Outcome)

structure StoreState (ι : Type) where
  dir : ReceiptDir ι
  crashed : ι → Bool
  phase : ι → Phase
  /-- The receipts of the calls that have returned `stored`. -/
  stored : List Receipt

inductive Action (ι : Type) where
  /-- The queue of a process starts its next call. -/
  | call (i : ι) (ownerToken : Str) (input : Option Receipt) (now : ℤ)
  /-- A process takes its next step. -/
  | run (i : ι) (now : ℤ)
  | crash (i : ι)

/-- What a step leaves: the files, the phase of its process and the receipt of a call that returns
`stored` with it. -/
structure Next (ι : Type) where
  dir : ReceiptDir ι
  phase : Phase
  stored : List Receipt

section

variable {ι : Type} [DecidableEq ι] (taskPath : Str → Str)

/-- The end of a call. -/
def Outcome.next (outcome : Outcome) (dir : ReceiptDir ι) : Next ι where
  dir
  phase := .idle
  stored :=
    match outcome with
    | .stored receipt => [receipt]
    | .replay | .thrown => []

/-- What follows a load. -/
def Search.phase (call : ConsumeCall) (receipt : Receipt) (found : List Receipt) : Search → Phase
  | .byId => .listing call (.byAction (found.any fun item => item.receiptId = receipt.receiptId))
  | .byAction existingReceipt =>
    if existingReceipt || found.any fun item => item.actionRef = receipt.actionRef then
      .releasing call .replay
    else .appending call receipt

/-- The next step of the process `i`. -/
def StoreState.next (s : StoreState ι) (i : ι) (now : ℤ) : Next ι :=
  match s.phase i with
  | .idle => ⟨s.dir, .idle, []⟩
  | .making call =>
    match s.dir.lock with
    | some _ => ⟨s.dir, .statting call, []⟩
    | none => ⟨s.dir.makeLock i now, .owning call, []⟩
  | .statting call =>
    match s.dir.lock with
    | none => ⟨s.dir, .waiting call, []⟩
    | some lock => ⟨s.dir, .testing call lock.mtimeMs, []⟩
  | .testing call mtimeMs =>
    if now - mtimeMs < lockStaleMs then ⟨s.dir, .waiting call, []⟩
    else ⟨s.dir, .reclaiming call, []⟩
  | .reclaiming call => ⟨s.dir.removeLock, .waiting call, []⟩
  | .waiting call =>
    if lockTimeoutMs ≤ now - call.startedAt then ⟨s.dir, .idle, []⟩
    else ⟨s.dir, .making call, []⟩
  | .owning call =>
    match s.dir.lock.map LockDir.owner with
    | some none => ⟨s.dir.writeOwner call.ownerToken now, .listing call .byId, []⟩
    -- no directory, or one with an `owner.json` in it
    | none | some (some _) => ⟨s.dir, .abandoning, []⟩
  | .abandoning => ⟨s.dir.removeLock, .idle, []⟩
  | .listing call search =>
    match call.input with
    | none => ⟨s.dir, .releasing call .thrown, []⟩
    | some receipt => ⟨s.dir, .reading call receipt search (s.dir.files.map (·.name)) [], []⟩
  | .reading call receipt search [] found => ⟨s.dir, search.phase call receipt found, []⟩
  | .reading call receipt search (name :: names) found =>
    match s.dir.read name with
    | none => ⟨s.dir, .releasing call .thrown, []⟩
    | some receipts => ⟨s.dir, .reading call receipt search names (found ++ receipts), []⟩
  | .appending call receipt =>
    ⟨s.dir.append (taskPath receipt.taskId) receipt, .releasing call (.stored receipt), []⟩
  | .releasing call outcome =>
    match s.dir.lock.bind LockDir.owner with
    | none => outcome.next s.dir
    | some owner =>
      if owner = call.ownerToken then ⟨s.dir, .removing outcome, []⟩ else outcome.next s.dir
  | .removing outcome => outcome.next s.dir.removeLock

/-- A process takes a step that leaves this. -/
def StoreState.advance (s : StoreState ι) (i : ι) (next : Next ι) : StoreState ι where
  dir := next.dir
  crashed := s.crashed
  phase := Function.update s.phase i next.phase
  stored := s.stored ++ next.stored

/-- A process crashes at any time, and takes no step after that. -/
def StoreState.step (s : StoreState ι) : Action ι → StoreState ι
  | .call i ownerToken input now =>
    match s.crashed i, s.phase i with
    | false, .idle => s.advance i ⟨s.dir, .making ⟨ownerToken, now, input⟩, []⟩
    | _, _ => s
  | .run i now =>
    if s.crashed i then s else s.advance i (s.next taskPath i now)
  | .crash i => { s with crashed := Function.update s.crashed i true }

end

/-- Before any call: the directory may hold receipts, and a lock that was left behind. -/
def StoreState.initial {ι : Type} (files : List ReceiptFile) (left : Option (LockDir ι)) :
    StoreState ι where
  dir := ⟨files, left⟩
  crashed _ := false
  phase _ := .idle
  stored := []

end CodexRouter.Receipts
