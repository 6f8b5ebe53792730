import CodexRouter.Js.Json
import Mathlib.Data.Fintype.Defs
import Mathlib.Data.PNat.Defs
import Mathlib.Logic.Function.Basic

/-!
# File lock

Processes share one lock path. Every call of the file system, every signal and every reading of the
clock that a decision rests on is one step of one process. A file that is unlinked stays what it was
for the process that has it open.
-/

open Js

namespace CodexRouter.Lock

/-! ## Files -/

/-- What is written to a lock file. Process ids are positive. -/
structure LockMetadata where
  token : Str
  pid : ℕ+
  createdAtMs : ℤ
  deriving DecidableEq

/-- The length of its text; a date has 24 characters. -/
def LockMetadata.size (metadata : LockMetadata) : ℕ :=
  (js "\x7b\"token\":\"\",\"pid\":,\"createdAt\":\"1970-01-01T00:00:00.000Z\"\x7d\n").length
    + metadata.token.length + (Json.natText metadata.pid).length

/-- A lock file; it is empty until its creator writes to it. -/
structure LockFile (ι : Type) where
  creator : ι
  raw : Option LockMetadata
  mtimeMs : ℤ
  ctimeMs : ℤ

/-- What `statSync` tells of a lock file. -/
structure LockStat where
  mtimeMs : ℤ
  ctimeMs : ℤ
  size : ℕ
  deriving DecidableEq

def LockFile.stat {ι : Type} (file : LockFile ι) : LockStat :=
  ⟨file.mtimeMs, file.ctimeMs, (file.raw.map LockMetadata.size).getD 0⟩

/-- All lock files there have been, and the one that the lock path leads to. -/
structure LockFiles (ι : Type) where
  files : List (LockFile ι)
  path : Option ℕ

namespace LockFiles

variable {ι : Type}

/-- The file at the lock path. -/
def atPath (d : LockFiles ι) : Option (LockFile ι) := d.path.bind fun f => d.files[f]?

/-- `openSync(lockPath, "wx")` where there is no file. -/
def create (d : LockFiles ι) (creator : ι) (now : ℤ) : LockFiles ι :=
  ⟨d.files ++ [⟨creator, none, now, now⟩], d.files.length⟩

/-- `writeFileSync(fd, text)`. -/
def write (d : LockFiles ι) (fd : ℕ) (metadata : LockMetadata) (now : ℤ) : LockFiles ι :=
  { d with files := d.files.modify fd fun file =>
      { file with raw := metadata, mtimeMs := now, ctimeMs := now } }

/-- `unlinkSync(lockPath)`. -/
def unlink (d : LockFiles ι) : LockFiles ι := { d with path := none }

end LockFiles

/-- `FileLockSnapshot`; `raw` has the `createdAtMs` and the `pid`. -/
structure FileLockSnapshot where
  raw : Option LockMetadata
  stat : LockStat
  deriving DecidableEq

structure LockOptions where
  lockTimeoutMs : ℤ
  lockStaleMs : ℤ

def LockOptions.default : LockOptions := ⟨1000, 30000⟩

def isFileLockSnapshotStale (snapshot : FileLockSnapshot) (lockStaleMs now : ℤ) : Bool :=
  if now - snapshot.stat.mtimeMs < lockStaleMs then false
  else if snapshot.raw.any fun metadata => now - metadata.createdAtMs < lockStaleMs then false
  else true

def isSameFileLockSnapshot (left right : FileLockSnapshot) : Bool :=
  left.raw = right.raw && left.stat = right.stat

/-! ## Processes -/

inductive Status where
  | absent | live | dead
  deriving DecidableEq

/-- A call of `withLock` that waits for the lock. -/
structure LockCall where
  token : Str
  startedAt : ℤ

/-- The step that a process takes next. -/
inductive Phase where
  /-- Outside of `withLock`. -/
  | idle
  /-- `openSync(lockPath, "wx")`. -/
  | opening (call : LockCall)
  /-- `writeFileSync(fd, …)`. -/
  | writing (call : LockCall) (fd : ℕ)
  /-- The end of `fn()`. -/
  | inside (call : LockCall) (fd : ℕ)
  /-- `readFileSync` of `releaseLock`; `fd` is the file that was created. -/
  | releasing (call : LockCall) (fd : ℕ)
  /-- `unlinkSync` of `releaseLock`. -/
  | unlinking (fd : ℕ)
  /-- The first `readFileLockSnapshot` of `removeStaleLock`. -/
  | statting (call : LockCall)
  | reading (call : LockCall) (stat : LockStat)
  | testing (call : LockCall) (staleCandidate : FileLockSnapshot)
  /-- The second one; `file` is the file that was read. -/
  | restatting (call : LockCall) (staleCandidate : FileLockSnapshot)
  | rereading (call : LockCall) (staleCandidate : FileLockSnapshot) (stat : LockStat)
  | retesting (call : LockCall) (staleCandidate current : FileLockSnapshot) (file : ℕ)
  /-- `unlinkSync` of `removeStaleLock`. -/
  | removing (call : LockCall) (current : FileLockSnapshot) (file : ℕ)
  /-- Before the timeout is tested. -/
  | waiting (call : LockCall)

structure LockState (ι : Type) where
  disk : LockFiles ι
  status : ι → Status
  phase : ι → Phase

def LockState.initial (ι : Type) : LockState ι :=
  ⟨⟨[], none⟩, fun _ => .absent, fun _ => .idle⟩

inductive Action (ι : Type) where
  | start (i : ι)
  /-- A process calls `withLock`. -/
  | call (i : ι) (token : Str) (now : ℤ)
  /-- A process takes its next step. -/
  | run (i : ι) (now : ℤ)
  | crash (i : ι)

section

variable {ι : Type} [DecidableEq ι] [Fintype ι] (pid : ι → ℕ+) (options : ι → LockOptions)

/-- `process.kill(pid, 0)` succeeds. -/
def LockState.hasProcess (s : LockState ι) (n : ℕ+) : Bool :=
  ∃ j, s.status j = .live ∧ pid j = n

/-- `isFileLockOwnerAlive(snapshot)` in the process `i`. -/
def isFileLockOwnerAlive (s : LockState ι) (i : ι) (snapshot : FileLockSnapshot) : Bool :=
  match snapshot.raw with
  | none => false
  | some metadata => metadata.pid = pid i || s.hasProcess pid metadata.pid

/-- The next step of the process `i`: what it leaves of the files, and its phase. -/
def LockState.next (s : LockState ι) (i : ι) (now : ℤ) : LockFiles ι × Phase :=
  match s.phase i with
  | .idle => (s.disk, .idle)
  | .opening call =>
    match s.disk.path with
    | some _ => (s.disk, .statting call)
    | none => (s.disk.create i now, .writing call s.disk.files.length)
  | .writing call fd => (s.disk.write fd ⟨call.token, pid i, now⟩ now, .inside call fd)
  | .inside call fd => (s.disk, .releasing call fd)
  | .releasing call fd =>
    match s.disk.atPath with
    | none => (s.disk, .idle)
    | some file =>
      -- an empty text is no JSON, so the call throws
      if file.raw.any fun metadata => metadata.token = call.token then (s.disk, .unlinking fd)
      else (s.disk, .idle)
  | .unlinking _ => (s.disk.unlink, .idle)
  | .statting call =>
    match s.disk.atPath with
    | none => (s.disk, .waiting call)
    | some file => (s.disk, .reading call file.stat)
  | .reading call stat =>
    match s.disk.atPath with
    | none => (s.disk, .waiting call)
    | some file => (s.disk, .testing call ⟨file.raw, stat⟩)
  | .testing call staleCandidate =>
    if isFileLockSnapshotStale staleCandidate (options i).lockStaleMs now
        && !isFileLockOwnerAlive pid s i staleCandidate then
      (s.disk, .restatting call staleCandidate)
    else (s.disk, .waiting call)
  | .restatting call staleCandidate =>
    match s.disk.atPath with
    | none => (s.disk, .waiting call)
    | some file => (s.disk, .rereading call staleCandidate file.stat)
  | .rereading call staleCandidate stat =>
    match s.disk.path, s.disk.atPath with
    | some f, some file => (s.disk, .retesting call staleCandidate ⟨file.raw, stat⟩ f)
    | _, _ => (s.disk, .waiting call)
  | .retesting call staleCandidate current file =>
    if isSameFileLockSnapshot staleCandidate current
        && isFileLockSnapshotStale current (options i).lockStaleMs now
        && !isFileLockOwnerAlive pid s i current then
      (s.disk, .removing call current file)
    else (s.disk, .waiting call)
  | .removing call _ _ => (s.disk.unlink, .waiting call)
  | .waiting call =>
    if (options i).lockTimeoutMs ≤ now - call.startedAt then (s.disk, .idle)
    else (s.disk, .opening call)

/-- A process leaves the files like this and takes that step next. -/
def LockState.advance (s : LockState ι) (i : ι) (disk : LockFiles ι) (phase : Phase) :
    LockState ι :=
  ⟨disk, s.status, Function.update s.phase i phase⟩

/-- Only a live process takes steps, and a dead one stays dead. -/
def LockState.step (s : LockState ι) : Action ι → LockState ι
  | .start i =>
    if s.status i = .absent then
      { s with status := Function.update s.status i .live
               phase := Function.update s.phase i .idle }
    else s
  | .call i token now =>
    match s.status i, s.phase i with
    | .live, .idle => s.advance i s.disk (.opening ⟨token, now⟩)
    | _, _ => s
  | .run i now =>
    if s.status i = .live then
      let (disk, phase) := s.next pid options i now
      s.advance i disk phase
    else s
  | .crash i =>
    if s.status i = .live then { s with status := Function.update s.status i .dead } else s

end

end CodexRouter.Lock
