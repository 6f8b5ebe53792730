import CodexRouter.PerTask.Core
import CodexRouter.Runs.Calls

/-!
# Tasks that share a file

Two task ids with one file name share their file. The stores in directories answer as those in
memory as long as what is read from a file was written for the task that is asked for.
-/

open Js CodexRouter.Kernel

namespace CodexRouter.PerTask

/-! ## Records with a task -/

instance (version : Str) : (versionSlot version).Keyed := Slot.keyed_default

instance : stringsSlot.Keyed := Slot.keyed_default

instance {α : Type} {item : Schema α} [item.Keyed] : (arraySlot item).Keyed := Slot.keyed_default

instance : literalTrue.Keyed := ⟨fun _ => trivial⟩

instance : reversibleActionRefSchema.Keyed := inferInstanceAs (Schema.object _ _).Keyed

instance : irreversibleActionRefSchema.Keyed := inferInstanceAs (Schema.object _ _).Keyed

instance : checkpointLedgerEntrySchema.Keyed := inferInstanceAs (Schema.object _ _).Keyed

instance : executionObservationStatusSchema.Keyed := inferInstanceAs (Schema.enum _ _ _).Keyed

instance : executionObservationSignalsSchema.Keyed := inferInstanceAs (Schema.object _ _).Keyed

instance : signalsSlot.Keyed := Slot.keyed_default

instance : executionObservationSchema.Keyed := inferInstanceAs (Schema.object _ _).Keyed

instance : delegationHistorySchema.Keyed := inferInstanceAs (Schema.object _ _).Keyed

instance : TaskRecord CheckpointLedgerEntry where
  schema := checkpointLedgerEntrySchema
  taskId := CheckpointLedgerEntry.taskId
  taskId_of_read {j a} h := by
    cases j with
    | obj m =>
      rw [checkpointLedgerEntrySchema, Schema.read_object] at h
      simp only [Fields.read_via, Equiv.coe_fn_symm_mk, Fields.read_cons,
        Slot.read_required_nonEmptyString] at h
      exact ⟨m, rfl, h.2.2.1.1⟩
    | _ => cases h
  keyed := inferInstance

instance : TaskRecord ExecutionObservation where
  schema := executionObservationSchema
  taskId := ExecutionObservation.taskId
  taskId_of_read {j a} h := by
    cases j with
    | obj m =>
      rw [executionObservationSchema, Schema.read_object] at h
      simp only [Fields.read_via, Equiv.coe_fn_symm_mk, Fields.read_cons,
        Slot.read_required_nonEmptyString] at h
      exact ⟨m, rfl, h.2.2.1.1⟩
    | _ => cases h
  keyed := inferInstance

/-! ## The stores -/

/-- `RecordingCheckpointLedgerStore`, `RecordingExecutionObservationStore` and
`RecordingDelegationHistoryStore`. -/
structure Recordings where
  entries : List CheckpointLedgerEntry
  observations : List ExecutionObservation
  histories : Map Str DelegationHistory

/-- The base directories of `FileCheckpointLedgerStore`, `FileExecutionObservationStore` and
`FileDelegationHistoryStore`. -/
structure Directories where
  entries : Directory
  observations : Directory
  histories : Directory

namespace Recordings

def empty : Recordings := ⟨[], [], .empty⟩

def record (store : Recordings) (entry : Json) : Result Recordings := do
  return { store with entries := ← recordEntry store.entries entry }

def findLatestForTask (store : Recordings) (taskId : Str) : Option CheckpointLedgerEntry :=
  (entriesOfTask store.entries taskId).getLast?

def emit (store : Recordings) (observation : Json) : Result Recordings := do
  return { store with observations := ← recordEntry store.observations observation }

def findByTaskId (store : Recordings) (taskId : Str) : List ExecutionObservation :=
  entriesOfTask store.observations taskId

def save (store : Recordings) (history : DelegationHistory) : Recordings :=
  { store with histories := store.histories.set history.taskId history }

def load (store : Recordings) (taskId : Str) : Option DelegationHistory :=
  store.histories.get? taskId

end Recordings

namespace Directories

def empty : Directories := ⟨.empty, .empty, .empty⟩

def record (store : Directories) (entry : Json) : Result Directories := do
  return { store with entries := ← recordLine CheckpointLedgerEntry store.entries entry }

def findLatestForTask (store : Directories) (taskId : Str) : Option CheckpointLedgerEntry :=
  (linesOfTask store.entries taskId).getLast?.bind parseLineSafe

def emit (store : Directories) (observation : Json) : Result Directories := do
  return { store with
    observations := ← recordLine ExecutionObservation store.observations observation }

def findByTaskId (store : Directories) (taskId : Str) : List ExecutionObservation :=
  (linesOfTask store.observations taskId).filterMap parseLineSafe

def save (store : Directories) (history : DelegationHistory) : Directories :=
  { store with
    histories := store.histories.set (getFilePath history.taskId)
      (Json.text (js "  ") [] (delegationHistorySchema.write history)) }

def load (store : Directories) (taskId : Str) : Option DelegationHistory := do
  let content ← store.histories.get? (getFilePath taskId)
  (delegationHistorySchema.parse (← Json.parse? content)).toOption

end Directories

/-! ## Calls -/

/-- What a schema accepts. -/
abbrev Accepted {α : Type} (s : Schema α) := {j : Json // ∃ a, s.read j = .ok a}

inductive Call where
  | record (entry : Accepted checkpointLedgerEntrySchema)
  | findLatestForTask (taskId : Str)
  | emit (observation : Accepted executionObservationSchema)
  | findByTaskId (taskId : Str)
  | save (history : {a // delegationHistorySchema.Valid a})
  | load (taskId : Str)

inductive Outcome where
  | written
  | thrown (error : Thrown)
  | latest (entry : Option CheckpointLedgerEntry)
  | found (observations : List ExecutionObservation)
  | loaded (history : Option DelegationHistory)
  deriving DecidableEq

/-- A write that throws leaves the store. -/
def written {σ : Type} (s : σ) : Result σ → Outcome × σ
  | .ok t => (.written, t)
  | .error e => (.thrown e, s)

def Recordings.call (s : Recordings) : Call → Outcome × Recordings
  | .record entry => written s (s.record entry.1)
  | .findLatestForTask taskId => (.latest (s.findLatestForTask taskId), s)
  | .emit observation => written s (s.emit observation.1)
  | .findByTaskId taskId => (.found (s.findByTaskId taskId), s)
  | .save history => (.written, s.save history.1)
  | .load taskId => (.loaded (s.load taskId), s)

def Directories.call (s : Directories) : Call → Outcome × Directories
  | .record entry => written s (s.record entry.1)
  | .findLatestForTask taskId => (.latest (s.findLatestForTask taskId), s)
  | .emit observation => written s (s.emit observation.1)
  | .findByTaskId taskId => (.found (s.findByTaskId taskId), s)
  | .save history => (.written, s.save history.1)
  | .load taskId => (.loaded (s.load taskId), s)

/-! ## What a file holds -/

section

variable {α : Type} [TaskRecord α]

open TaskRecord

/-- Every file has a line for each record of the tasks it belongs to. -/
structure Holds (directory : Directory) (entries : List α) : Prop where
  text : ∀ path, readText directory path = Json.lineFile
    ((entries.filter fun entry => getTaskPath (taskId entry) = path).map schema.write)
  valid : ∀ entry ∈ entries, schema.Valid entry

lemma taskIdOf_read {input : Json} {entry : α} (h : schema.read input = .ok entry) :
    taskIdOf input = .ok (taskId entry) := by
  obtain ⟨m, rfl, hm⟩ := taskId_of_read h
  rw [taskIdOf, hm]

lemma recordEntry_read {input : Json} {entry : α} (h : schema.read input = .ok entry)
    (entries : List α) : recordEntry entries input = .ok (entries ++ [entry]) := by
  rw [recordEntry, Schema.parse_eq_ok.mpr h]
  rfl

lemma recordLine_read {input : Json} {entry : α} (h : schema.read input = .ok entry)
    (directory : Directory) : recordLine α directory input =
      .ok (appendText directory (getTaskPath (taskId entry))
        (Json.stringify (schema.write entry) ++ [Json.newline])) := by
  rw [recordLine, taskIdOf_read h, ok_bind, Schema.parse_eq_ok.mpr h]
  rfl

lemma holds_empty : Holds (.empty : Directory) ([] : List α) where
  text _ := rfl
  valid := by simp

lemma Holds.append {directory : Directory} {entries : List α} (h : Holds directory entries)
    {entry : α} (hentry : schema.Valid entry) :
    Holds (appendText directory (getTaskPath (taskId entry))
      (Json.stringify (schema.write entry) ++ [Json.newline])) (entries ++ [entry]) where
  text := by
    intro path
    rw [readText, appendText, Map.get?_set, List.filter_append, List.map_append]
    by_cases hpath : path = getTaskPath (taskId entry)
    · rw [if_pos hpath, Option.getD_some, ← hpath, h.text, List.filter_singleton,
        decide_eq_true hpath.symm]
      exact (Json.lineFile_concat _ _).symm
    · rw [if_neg hpath, List.filter_singleton, decide_eq_false (Ne.symm hpath)]
      simpa [readText] using h.text path
  valid := by
    intro e he
    rcases List.mem_append.mp he with he | he
    · exact h.valid e he
    · rw [List.mem_singleton.mp he]
      exact hentry

lemma Holds.lines {directory : Directory} {entries : List α} (h : Holds directory entries)
    (task : Str) : linesOfTask directory task =
      (entries.filter fun entry => getTaskPath (taskId entry) = getTaskPath task).map
        fun entry => Json.stringify (schema.write entry) := by
  rw [linesOfTask, h.text, Json.nonEmptyLines_lineFile, List.map_map]
  rfl

lemma parseLineSafe_valid {entry : α} (h : schema.Valid entry) :
    parseLineSafe (Json.stringify (schema.write entry)) = some entry := by
  have hkeyed : (schema.write entry).Keyed := keyed.keyed entry
  have hparse : schema.parse (schema.write entry) = .ok entry := Schema.parse_eq_ok.mpr h
  rw [parseLineSafe, Json.parse_stringify hkeyed]
  show (schema.parse (schema.write entry)).toOption = some entry
  rw [hparse]
  rfl

end

/-! ## What calls leave -/

/-- What the schema makes of an accepted input. -/
def Accepted.value? {α : Type} {s : Schema α} (input : Accepted s) : Option α :=
  (s.read input.1).toOption

lemma Accepted.exists_value {α : Type} {s : Schema α} (input : Accepted s) :
    ∃ a, s.read input.1 = .ok a ∧ input.value? = some a := by
  obtain ⟨j, a, ha⟩ := input
  exact ⟨a, ha, by rw [Accepted.value?, ha]; rfl⟩

def Call.ledgerEntry : Call → Option CheckpointLedgerEntry
  | .record entry => entry.value?
  | _ => none

def Call.observation? : Call → Option ExecutionObservation
  | .emit observation => observation.value?
  | _ => none

def Call.history? : Call → Option DelegationHistory
  | .save history => some history.1
  | _ => none

/-- The stores where these records were written, in this order. -/
structure Left (es : List CheckpointLedgerEntry) (os : List ExecutionObservation)
    (hs : List DelegationHistory) (r : Recordings) (d : Directories) : Prop where
  entries : r.entries = es
  observations : r.observations = os
  histories : ∀ task, r.histories.get? task =
    (hs.filter fun history => history.taskId = task).getLast?
  entryFiles : Holds d.entries es
  observationFiles : Holds d.observations os
  historyFiles : ∀ path, d.histories.get? path =
    (hs.filter fun history => getFilePath history.taskId = path).getLast?.map
      fun history => Json.text (js "  ") [] (delegationHistorySchema.write history)
  valid : ∀ history ∈ hs, delegationHistorySchema.Valid history

lemma left_empty : Left [] [] [] .empty .empty where
  entries := rfl
  observations := rfl
  histories _ := rfl
  entryFiles := holds_empty
  observationFiles := holds_empty
  historyFiles _ := rfl
  valid := by simp

lemma getLast?_filter_concat {α : Type} (p : α → Bool) (l : List α) (a : α) :
    ((l ++ [a]).filter p).getLast? = if p a then some a else (l.filter p).getLast? := by
  by_cases h : p a = true <;> simp [h]

section

variable {es : List CheckpointLedgerEntry} {os : List ExecutionObservation}
  {hs : List DelegationHistory} {r : Recordings} {d : Directories}

lemma Left.record (h : Left es os hs r d) (input : Accepted checkpointLedgerEntrySchema) :
    ∃ r' d', r.record input.1 = .ok r' ∧ d.record input.1 = .ok d' ∧
      Left (es ++ input.value?.toList) os hs r' d' := by
  obtain ⟨entry, hread, hvalue⟩ := input.exists_value
  have hr : r.record input.1 = .ok { r with entries := r.entries ++ [entry] } := by
    rw [Recordings.record, recordEntry_read hread]
    rfl
  have hd : d.record input.1 = .ok { d with
      entries := appendText d.entries (getTaskPath entry.taskId)
        (Json.stringify (checkpointLedgerEntrySchema.write entry) ++ [Json.newline]) } := by
    rw [Directories.record, recordLine_read hread]
    rfl
  refine ⟨_, _, hr, hd, ?_⟩
  rw [hvalue]
  exact { h with
    entries := congrArg (· ++ [entry]) h.entries
    entryFiles := h.entryFiles.append (Schema.valid_of_read hread) }

lemma Left.emit (h : Left es os hs r d) (input : Accepted executionObservationSchema) :
    ∃ r' d', r.emit input.1 = .ok r' ∧ d.emit input.1 = .ok d' ∧
      Left es (os ++ input.value?.toList) hs r' d' := by
  obtain ⟨observation, hread, hvalue⟩ := input.exists_value
  have hr : r.emit input.1 = .ok { r with observations := r.observations ++ [observation] } := by
    rw [Recordings.emit, recordEntry_read hread]
    rfl
  have hd : d.emit input.1 = .ok { d with
      observations := appendText d.observations (getTaskPath observation.taskId)
        (Json.stringify (executionObservationSchema.write observation) ++ [Json.newline]) } := by
    rw [Directories.emit, recordLine_read hread]
    rfl
  refine ⟨_, _, hr, hd, ?_⟩
  rw [hvalue]
  exact { h with
    observations := congrArg (· ++ [observation]) h.observations
    observationFiles := h.observationFiles.append (Schema.valid_of_read hread) }

lemma Left.save (h : Left es os hs r d) {history : DelegationHistory}
    (hvalid : delegationHistorySchema.Valid history) :
    Left es os (hs ++ [history]) (r.save history) (d.save history) where
  entries := h.entries
  observations := h.observations
  histories := by
    intro task
    rw [Recordings.save, Map.get?_set, getLast?_filter_concat, ← h.histories]
    simp [eq_comm]
  entryFiles := h.entryFiles
  observationFiles := h.observationFiles
  historyFiles := by
    intro path
    rw [Directories.save, Map.get?_set, getLast?_filter_concat, h.historyFiles]
    by_cases hpath : path = getFilePath history.taskId
    · simp [hpath]
    · simp [hpath, Ne.symm hpath]
  valid := by
    intro a ha
    rcases List.mem_append.mp ha with ha | ha
    · exact h.valid a ha
    · rw [List.mem_singleton.mp ha]
      exact hvalid

/-- One call in both stores. -/
lemma Left.call (h : Left es os hs r d) (c : Call) :
    Left (es ++ c.ledgerEntry.toList) (os ++ c.observation?.toList) (hs ++ c.history?.toList)
      (r.call c).2 (d.call c).2 := by
  cases c with
  | record entry =>
    obtain ⟨r', d', hr, hd, hleft⟩ := h.record entry
    simp only [Recordings.call, Directories.call, hr, hd, written, Call.observation?,
      Call.history?, Option.toList_none, List.append_nil]
    exact hleft
  | emit observation =>
    obtain ⟨r', d', hr, hd, hleft⟩ := h.emit observation
    simp only [Recordings.call, Directories.call, hr, hd, written, Call.ledgerEntry, Call.history?,
      Option.toList_none, List.append_nil]
    exact hleft
  | save history =>
    simpa [Recordings.call, Directories.call, Call.ledgerEntry, Call.observation?, Call.history?]
      using h.save history.2
  | findLatestForTask task | findByTaskId task | load task =>
    simpa [Recordings.call, Directories.call, Call.ledgerEntry, Call.observation?, Call.history?]
      using h

/-- The stores behind any calls. -/
theorem left_behind (calls : List Call) :
    Left (calls.filterMap Call.ledgerEntry) (calls.filterMap Call.observation?)
      (calls.filterMap Call.history?) (Runs.behind Recordings.call .empty calls)
      (Runs.behind Directories.call .empty calls) := by
  induction calls using List.reverseRecOn with
  | nil => exact left_empty
  | append_singleton calls c ih =>
    have hone {β : Type} (f : Call → Option β) : [c].filterMap f = (f c).toList := by
      cases h : f c <;> simp [h]
    simp only [Runs.behind_concat, List.filterMap_append, hone]
    exact ih.call c

/-! ## Reads -/

/-- The task whose record was written last to the file of `task` is `task`, if there is one. -/
def LastOwn {α : Type} (path : Str → Str) (taskId : α → Str) (written : List α) (task : Str) : Prop :=
  ∀ a ∈ (written.filter fun a => path (taskId a) = path task).getLast?, taskId a = task

lemma getLast?_eq_iff_lastOwn {α : Type} {path : Str → Str} {taskId : α → Str} {l : List α}
    {task : Str} : (l.filter fun a => path (taskId a) = path task).getLast? =
      (l.filter fun a => taskId a = task).getLast? ↔ LastOwn path taskId l task := by
  induction l using List.reverseRecOn with
  | nil => simp [LastOwn]
  | append_singleton l a ih =>
    rw [LastOwn, getLast?_filter_concat, getLast?_filter_concat]
    by_cases hpath : path (taskId a) = path task
    · by_cases htask : taskId a = task
      · simp [htask]
      · rw [if_pos (decide_eq_true hpath), if_neg (by simpa using htask)]
        constructor
        · intro he b hb
          have hlast := hb.symm.trans he
          simpa using (List.mem_filter.mp (List.mem_of_getLast? hlast.symm)).2
        · intro hall
          exact absurd (hall a rfl) htask
    · have htask : taskId a ≠ task := fun he => hpath (he ▸ rfl)
      rw [if_neg (by simpa using hpath), if_neg (by simpa using htask)]
      exact ih

lemma Left.findLatestForTask (h : Left es os hs r d) (task : Str) :
    d.findLatestForTask task =
      (es.filter fun e => getTaskPath e.taskId = getTaskPath task).getLast? := by
  have hlines : linesOfTask d.entries task =
      (es.filter fun e => getTaskPath e.taskId = getTaskPath task).map fun e =>
        Json.stringify (checkpointLedgerEntrySchema.write e) := h.entryFiles.lines task
  rw [Directories.findLatestForTask, hlines, List.getLast?_map]
  cases hlast : (es.filter fun e => getTaskPath e.taskId = getTaskPath task).getLast? with
  | none => rfl
  | some e =>
    have he : e ∈ es := (List.mem_filter.mp (List.mem_of_getLast? hlast)).1
    rw [Option.map_some, Option.bind_some]
    exact parseLineSafe_valid (h.entryFiles.valid e he)

lemma Left.findByTaskId (h : Left es os hs r d) (task : Str) :
    d.findByTaskId task = os.filter fun o => getTaskPath o.taskId = getTaskPath task := by
  rw [Directories.findByTaskId, h.observationFiles.lines, List.filterMap_map]
  have hparse : ∀ o ∈ os.filter (fun o => getTaskPath o.taskId = getTaskPath task),
      parseLineSafe (Json.stringify (executionObservationSchema.write o)) = some o := by
    intro o ho
    exact parseLineSafe_valid (h.observationFiles.valid o (List.mem_filter.mp ho).1)
  exact (List.filterMap_congr hparse).trans List.filterMap_some

lemma Left.load (h : Left es os hs r d) (task : Str) :
    d.load task = (hs.filter fun a => getFilePath a.taskId = getFilePath task).getLast? := by
  rw [Directories.load, h.historyFiles]
  cases hlast : (hs.filter fun a => getFilePath a.taskId = getFilePath task).getLast? with
  | none => rfl
  | some a =>
    have ha : a ∈ hs := (List.mem_filter.mp (List.mem_of_getLast? hlast)).1
    have hblank : Json.Blank (js "  ") := List.all_eq_true.mp (by decide)
    have hparse : delegationHistorySchema.parse (delegationHistorySchema.write a) = .ok a :=
      Schema.parse_eq_ok.mpr (h.valid a ha)
    simp only [Option.map_some, Option.bind_eq_bind, Option.bind_some]
    rw [Schema.parse_text hblank a, Option.bind_some, hparse]
    rfl

end

/-- The files answer the call as the memory does: what is read was written for the task. -/
def ReadsOwn (before : List Call) : Call → Prop
  | .findLatestForTask task =>
    LastOwn getTaskPath CheckpointLedgerEntry.taskId (before.filterMap Call.ledgerEntry) task
  | .findByTaskId task => ∀ o ∈ before.filterMap Call.observation?,
    getTaskPath o.taskId = getTaskPath task → o.taskId = task
  | .load task =>
    LastOwn getFilePath DelegationHistory.taskId (before.filterMap Call.history?) task
  | _ => True

lemma answers_iff (before : List Call) (c : Call) :
    ((Runs.behind Directories.call .empty before).call c).1 =
      ((Runs.behind Recordings.call .empty before).call c).1 ↔ ReadsOwn before c := by
  have h := left_behind before
  cases c with
  | record entry =>
    obtain ⟨r', d', hr, hd, -⟩ := h.record entry
    simp [Recordings.call, Directories.call, hr, hd, written, ReadsOwn]
  | emit observation =>
    obtain ⟨r', d', hr, hd, -⟩ := h.emit observation
    simp [Recordings.call, Directories.call, hr, hd, written, ReadsOwn]
  | save history => simp [Recordings.call, Directories.call, ReadsOwn]
  | findLatestForTask task =>
    rw [Recordings.call, Directories.call, Outcome.latest.injEq, h.findLatestForTask,
      Recordings.findLatestForTask, h.entries]
    exact getLast?_eq_iff_lastOwn
  | findByTaskId task =>
    rw [Recordings.call, Directories.call, Outcome.found.injEq, h.findByTaskId,
      Recordings.findByTaskId, h.observations]
    constructor
    · intro he o ho hpath
      have hmem : o ∈ entriesOfTask (before.filterMap Call.observation?) task := by
        rw [← he]
        exact List.mem_filter.mpr ⟨ho, decide_eq_true hpath⟩
      exact of_decide_eq_true (List.mem_filter.mp hmem).2
    · intro hown
      apply List.filter_congr
      intro o ho
      apply decide_eq_decide.mpr
      exact ⟨hown o ho, fun htask => congrArg getTaskPath htask⟩
  | load task =>
    rw [Recordings.call, Directories.call, Outcome.loaded.injEq, h.load, Recordings.load,
      h.histories]
    exact getLast?_eq_iff_lastOwn

def slashedEntry : CheckpointLedgerEntry where
  checkpointId := "cp-1"
  taskId := "a/b"
  parentCheckpointId := none
  branchId := "main"
  stage := "plan"
  governanceStateRef := "state-1"
  taskGraphDeltaRef := none
  memorySnapshotRef := none
  evidenceRefs := []
  reversibleActions := []
  irreversibleActions := []
  createdAt := "2026-01-01"

lemma slashedEntry_valid : checkpointLedgerEntrySchema.Valid slashedEntry := by
  unfold Schema.Valid
  with_unfolding_all rfl

def slashedInput : Accepted checkpointLedgerEntrySchema :=
  ⟨checkpointLedgerEntrySchema.write slashedEntry, slashedEntry, slashedEntry_valid⟩

end CodexRouter.PerTask
