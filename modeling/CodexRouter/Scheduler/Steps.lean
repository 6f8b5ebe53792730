import CodexRouter.Scheduler.Core

/-!
# The ledger of a scheduler

Whatever an operation does, its clock readings and the way it ends included, its ledger makes
moves.
-/

open Js CodexRouter.Kernel Runs

namespace CodexRouter.Scheduler

/-! ## Ledger of a state -/

def entry (item : QueueItem) : Entry Str Str :=
  ⟨item.runId, item.status, item.attempts, item.maxAttempts, item.lastLeaseId⟩

def grant (lease : ExecutionLease) : Grant Str Str := ⟨lease.leaseId, lease.runId, lease.status⟩

def SchedulerState.ledger (s : SchedulerState) : Ledger Str Str :=
  ⟨s.queue.map entry, s.leases.map grant⟩

/-- The number of a lease. -/
def leaseNumber (lease : ExecutionLease) : ℕ := digitsValue (lastPart lease.leaseId)

structure Kept (s : SchedulerState) : Prop where
  sound : s.ledger.Sound
  numbered : ∀ lease ∈ s.leases, leaseNumber lease ≤ s.leaseSequence

lemma kept_empty : Kept .empty := ⟨Ledger.sound_empty, by simp [SchedulerState.empty]⟩

lemma formatLeaseId_eq (runId : Str) (attempt sequence : ℕ) :
    formatLeaseId runId attempt sequence =
      join (cu '_') [js "lease", sanitizeIdPart runId, padStart 3 (Json.natText attempt)]
        ++ cu '_' :: padStart 4 (Json.natText sequence) := by
  simp [formatLeaseId, join, List.intercalate]

lemma formatLeaseId_ne (runId : Str) (attempt sequence : ℕ) :
    formatLeaseId runId attempt sequence ≠ [] := by
  simp [formatLeaseId_eq]

lemma leaseNumber_format {lease : ExecutionLease} {runId : Str} {attempt sequence : ℕ}
    (h : lease.leaseId = formatLeaseId runId attempt sequence) :
    leaseNumber lease = sequence := by
  rw [leaseNumber, h, formatLeaseId_eq, number_of_id]

section

variable {s : SchedulerState} {lease lease' : ExecutionLease} {item item' : QueueItem}

lemma Kept.queueIds (h : Kept s) : (s.queue.map QueueItem.runId).Nodup := by
  have hruns := h.sound.runs
  rw [SchedulerState.ledger, List.map_map] at hruns
  exact hruns

lemma Kept.leaseIds (h : Kept s) : (s.leases.map ExecutionLease.leaseId).Nodup := by
  have hids := h.sound.ids
  rw [SchedulerState.ledger, List.map_map] at hids
  exact hids

/-- The item of an active lease is there and leased. -/
lemma Kept.item_of_active (h : Kept s) (hlease : lease ∈ s.leases)
    (hactive : lease.status = .active) :
    ∃ item, findRow QueueItem.runId lease.runId s.queue = some item ∧ item.status = .leased := by
  have hgrant : grant lease ∈ s.ledger.grants := List.mem_map_of_mem hlease
  have hknown := h.sound.known _ hgrant
  rw [SchedulerState.ledger, List.map_map] at hknown
  cases hfind : findRow QueueItem.runId lease.runId s.queue with
  | none => exact absurd hknown (findRow_eq_none.mp hfind)
  | some item =>
    obtain ⟨hmem, hid⟩ := findRow_eq_some hfind
    refine ⟨item, rfl, ?_⟩
    exact h.sound.leased_of_active (e := entry item) (List.mem_map_of_mem hmem) hgrant hid.symm
      hactive

/-- The state with a lease and the item of its run replaced. -/
def SchedulerState.replaced (s : SchedulerState) (lease : ExecutionLease) (item : QueueItem) :
    SchedulerState where
  queue := replaceRow QueueItem.runId item s.queue
  queueOrder := s.queueOrder
  leases := replaceRow ExecutionLease.leaseId lease s.leases
  leaseSequence := s.leaseSequence

lemma map_entry_replaceRow (item : QueueItem) (queue : List QueueItem) :
    (replaceRow QueueItem.runId item queue).map entry =
      replaceRow Entry.run (entry item) (queue.map entry) :=
  map_replaceRow_map QueueItem.runId Entry.run entry (fun _ => rfl) item queue

lemma map_grant_replaceRow (lease : ExecutionLease) (leases : List ExecutionLease) :
    (replaceRow ExecutionLease.leaseId lease leases).map grant =
      replaceRow Grant.id (grant lease) (leases.map grant) :=
  map_replaceRow_map ExecutionLease.leaseId Grant.id grant (fun _ => rfl) lease leases

lemma ledger_replaced : (s.replaced lease item).ledger =
    ⟨replaceRow Entry.run (entry item) s.ledger.entries,
      replaceRow Grant.id (grant lease) s.ledger.grants⟩ := by
  unfold SchedulerState.ledger SchedulerState.replaced
  dsimp only
  rw [map_entry_replaceRow, map_grant_replaceRow]

lemma numbered_replaced (h : Kept s) (hlease : lease ∈ s.leases)
    (hid : lease'.leaseId = lease.leaseId) :
    ∀ l ∈ (s.replaced lease' item).leases, leaseNumber l ≤ s.leaseSequence := by
  intro l hl
  rcases mem_replaceRow h.leaseIds hl with rfl | ⟨hl, -⟩
  · rw [leaseNumber, hid]
    exact h.numbered lease hlease
  · exact h.numbered l hl

lemma Kept.finish (h : Kept s) (lease' : ExecutionLease) (item' : QueueItem)
    (hlease : lease ∈ s.leases) (hactive : lease.status = .active)
    (hfind : findRow QueueItem.runId lease.runId s.queue = some item)
    (hgrant : grant lease' = ⟨lease.leaseId, lease.runId, .released⟩)
    (hentry : entry item' =
      ⟨item.runId, .completed, item.attempts, item.maxAttempts, item.lastLeaseId⟩) :
    Kept (s.replaced lease' item') ∧ Ledger.Moves s.ledger (s.replaced lease' item').ledger := by
  obtain ⟨hmem, hid⟩ := findRow_eq_some hfind
  have hmove : Ledger.Move s.ledger (s.replaced lease' item').ledger := by
    rw [ledger_replaced, hgrant, hentry]
    exact .finish (entry item) (grant lease) (List.mem_map_of_mem hmem)
      (List.mem_map_of_mem hlease) hid.symm hactive
  have hsame : lease'.leaseId = lease.leaseId := congrArg Grant.id hgrant
  exact ⟨⟨hmove.sound h.sound, numbered_replaced h hlease hsame⟩, .single hmove⟩

lemma Kept.giveUp (h : Kept s) (lease' : ExecutionLease) (item' : QueueItem)
    (hlease : lease ∈ s.leases) (hactive : lease.status = .active)
    (hfind : findRow QueueItem.runId lease.runId s.queue = some item) {status : LeaseStatus}
    (hstatus : status = .expired ∨ status = .failed)
    (hgrant : grant lease' = ⟨lease.leaseId, lease.runId, status⟩)
    (hentry : entry item' =
      ⟨item.runId, retryStatus item, item.attempts, item.maxAttempts, item.lastLeaseId⟩) :
    Kept (s.replaced lease' item') ∧ Ledger.Moves s.ledger (s.replaced lease' item').ledger := by
  obtain ⟨hmem, hid⟩ := findRow_eq_some hfind
  have hmove : Ledger.Move s.ledger (s.replaced lease' item').ledger := by
    rw [ledger_replaced, hgrant, hentry]
    exact .giveUp (entry item) (grant lease) status (List.mem_map_of_mem hmem)
      (List.mem_map_of_mem hlease) hid.symm hactive hstatus
  have hsame : lease'.leaseId = lease.leaseId := congrArg Grant.id hgrant
  exact ⟨⟨hmove.sound h.sound, numbered_replaced h hlease hsame⟩, .single hmove⟩

/-- Two leases of one id are one lease. -/
lemma Kept.lease_eq (h : Kept s) (hlease : lease ∈ s.leases) (hlease' : lease' ∈ s.leases)
    (hid : lease.leaseId = lease'.leaseId) : lease = lease' := by
  have hfind := findRow_of_mem h.leaseIds hlease
  rw [hid, findRow_of_mem h.leaseIds hlease'] at hfind
  exact (Option.some.inj hfind).symm

/-- An active lease that only changes its times. -/
lemma Kept.renew (h : Kept s) (lease' : ExecutionLease) (hlease : lease ∈ s.leases)
    (hgrant : grant lease' = grant lease) :
    Kept { s with leases := replaceRow ExecutionLease.leaseId lease' s.leases } ∧
      SchedulerState.ledger { s with leases := replaceRow ExecutionLease.leaseId lease' s.leases } =
        s.ledger := by
  have hid : lease'.leaseId = lease.leaseId := congrArg Grant.id hgrant
  have hledger : SchedulerState.ledger
      { s with leases := replaceRow ExecutionLease.leaseId lease' s.leases } = s.ledger := by
    unfold SchedulerState.ledger
    rw [replaceRow_eq_map h.leaseIds, List.map_map]
    congr 1
    apply List.map_congr_left
    intro l hl
    dsimp only [Function.comp_apply]
    split
    · rename_i hsame
      rw [hgrant, h.lease_eq hlease hl (hid.symm.trans hsame.symm)]
    · rfl
  refine ⟨⟨hledger ▸ h.sound, ?_⟩, hledger⟩
  intro l hl
  rcases mem_replaceRow h.leaseIds hl with rfl | ⟨hl, -⟩
  · rw [leaseNumber, hid]
    exact h.numbered lease hlease
  · exact h.numbered l hl

/-- A new lease with a new number. -/
lemma Kept.issue (h : Kept s) (lease : ExecutionLease) (item' : QueueItem)
    (hfind : findRow QueueItem.runId item.runId s.queue = some item)
    (hqueued : item.status = .queued) (hnumber : ∀ l ∈ s.leases, leaseNumber l < leaseNumber lease)
    (hbound : leaseNumber lease ≤ s.leaseSequence)
    (hgrant : grant lease = ⟨lease.leaseId, item.runId, .active⟩)
    (hentry : entry item' = ⟨item.runId, .leased, item.attempts + 1, item.maxAttempts,
      some lease.leaseId⟩) :
    let s' : SchedulerState := { s with
      leases := s.leases ++ [lease]
      queue := replaceRow QueueItem.runId item' s.queue }
    Kept s' ∧ Ledger.Moves s.ledger s'.ledger := by
  intro s'
  obtain ⟨hmem, -⟩ := findRow_eq_some hfind
  have hfresh : lease.leaseId ∉ s.ledger.grants.map Grant.id := by
    rw [SchedulerState.ledger, List.map_map]
    intro hin
    obtain ⟨l, hl, hid⟩ := List.mem_map.mp hin
    have hlt := hnumber l hl
    have hsame : leaseNumber l = leaseNumber lease := congrArg (digitsValue ∘ lastPart) hid
    omega
  have hledger : s'.ledger = ⟨replaceRow Entry.run
      ⟨item.runId, .leased, item.attempts + 1, item.maxAttempts, some lease.leaseId⟩
      s.ledger.entries, s.ledger.grants ++ [⟨lease.leaseId, item.runId, .active⟩]⟩ := by
    unfold SchedulerState.ledger
    dsimp only [s']
    rw [map_entry_replaceRow, hentry, List.map_append, List.map_singleton, hgrant]
  have hmove : Ledger.Move s.ledger s'.ledger := by
    rw [hledger]
    exact .issue (entry item) lease.leaseId (List.mem_map_of_mem hmem) hqueued hfresh
  refine ⟨⟨hmove.sound h.sound, ?_⟩, .single hmove⟩
  intro l hl
  rcases List.mem_append.mp hl with hl | hl
  · exact h.numbered l hl
  · rw [List.mem_singleton.mp hl]
    exact hbound

/-- A new run. -/
lemma Kept.enqueue (h : Kept s) (item : QueueItem)
    (hfind : findRow QueueItem.runId item.runId s.queue = none)
    (hmax : 1 ≤ item.maxAttempts)
    (hentry : entry item = ⟨item.runId, .queued, 0, item.maxAttempts, none⟩) :
    let s' : SchedulerState := { s with
      queue := s.queue ++ [item]
      queueOrder := s.queueOrder ++ [item.runId] }
    Kept s' ∧ Ledger.Moves s.ledger s'.ledger := by
  intro s'
  have hnew : item.runId ∉ s.ledger.entries.map Entry.run := by
    rw [SchedulerState.ledger, List.map_map]
    exact findRow_eq_none.mp hfind
  have hmove : Ledger.Move s.ledger s'.ledger := by
    have hledger : s'.ledger = { s.ledger with
        entries := s.ledger.entries ++ [⟨item.runId, .queued, 0, item.maxAttempts, none⟩] } := by
      unfold SchedulerState.ledger
      rw [List.map_append, List.map_singleton, hentry]
    rw [hledger]
    exact .enqueue item.runId item.maxAttempts hmax hnew
  exact ⟨⟨hmove.sound h.sound, h.numbered⟩, .single hmove⟩

end

end CodexRouter.Scheduler
