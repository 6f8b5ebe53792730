import CodexRouter.Runs.Calls
import CodexRouter.Scheduler.Moves

/-!
# Lease safety

What a sound ledger says of the leases and items themselves, behind any calls of either scheduler.
-/

open Js CodexRouter.Kernel Runs

namespace CodexRouter.Scheduler

/-! ## Statements -/

def SchedulerState.activeLeases (s : SchedulerState) (runId : Str) : List ExecutionLease :=
  s.leases.filter fun lease => lease.runId = runId && lease.status = .active

def SchedulerState.releasedLeases (s : SchedulerState) (runId : Str) : List ExecutionLease :=
  s.leases.filter fun lease => lease.runId = runId && lease.status = .released

def SchedulerState.issuedLeases (s : SchedulerState) (runId : Str) : List ExecutionLease :=
  s.leases.filter fun lease => lease.runId = runId

structure SchedulerState.Safe (s : SchedulerState) : Prop where
  active : ∀ runId, (s.activeLeases runId).length ≤ 1
  leased : ∀ item ∈ s.queue, item.status = .leased ↔
    ∃ lease, s.activeLeases item.runId = [lease] ∧ item.lastLeaseId = some lease.leaseId
  attempts : ∀ item ∈ s.queue, item.attempts = (s.issuedLeases item.runId).length ∧
    item.attempts ≤ item.maxAttempts
  runIds : (s.queue.map QueueItem.runId).Nodup
  leaseIds : (s.leases.map ExecutionLease.leaseId).Nodup
  released : ∀ runId, (s.releasedLeases runId).length ≤ 1

/-- No lease is lost, and a run that was completed or exhausted has no further one. -/
structure SchedulerState.Continues (s s' : SchedulerState) : Prop where
  leases : s.leases.map (fun lease => (lease.leaseId, lease.runId)) <+:
    s'.leases.map fun lease => (lease.leaseId, lease.runId)
  ended : ∀ item ∈ s.queue, item.status = .completed ∨ item.status = .exhausted →
    (∃ item' ∈ s'.queue, item'.runId = item.runId ∧ item'.status = item.status) ∧
      (s'.issuedLeases item.runId).length = (s.issuedLeases item.runId).length

/-! ## From the ledger -/

lemma issued_ledger (s : SchedulerState) (runId : Str) :
    s.ledger.issued runId = (s.issuedLeases runId).length := by
  unfold Ledger.issued SchedulerState.issuedLeases SchedulerState.ledger
  rw [List.countP_map, List.countP_eq_length_filter]
  rfl

lemma withStatus_ledger (s : SchedulerState) (status : LeaseStatus) (runId : Str) :
    s.ledger.withStatus status runId =
      (s.leases.filter fun lease => lease.runId = runId && lease.status = status).length := by
  unfold Ledger.withStatus SchedulerState.ledger
  rw [List.countP_map, List.countP_eq_length_filter]
  rfl

/-- A run has at most one active lease and one released one, a run that is not queued none. -/
lemma withStatus_le_one {s : SchedulerState} (h : Kept s) {status : LeaseStatus}
    (hstatus : status = .active ∨ status = .released) (runId : Str) :
    s.ledger.withStatus status runId ≤ 1 := by
  by_cases hin : runId ∈ s.ledger.entries.map Entry.run
  · obtain ⟨e, he, rfl⟩ := List.mem_map.mp hin
    have hsound := h.sound.entries e he
    rcases hstatus with rfl | rfl
    · by_cases hleased : e.status = .leased
      · exact (hsound.leased hleased).1.le
      · exact (hsound.idle hleased).le.trans (Nat.zero_le 1)
    · by_cases hcompleted : e.status = .completed
      · exact (hsound.completed hcompleted).le
      · exact (hsound.unfinished hcompleted).le.trans (Nat.zero_le 1)
  · have hnone : s.ledger.withStatus status runId = 0 := by
      apply List.countP_eq_zero.mpr
      intro g hg
      have hne : g.run ≠ runId := fun he => hin (he ▸ h.sound.known g hg)
      simp [hne]
    omega

lemma leased_iff {s : SchedulerState} (h : Kept s) {item : QueueItem} (hitem : item ∈ s.queue) :
    item.status = .leased ↔
      ∃ lease, s.activeLeases item.runId = [lease] ∧ item.lastLeaseId = some lease.leaseId := by
  have hsound := h.sound.entries (entry item) (List.mem_map_of_mem hitem)
  constructor
  · intro hleased
    obtain ⟨hone, g, hg, hrun, hactive, hlast⟩ := hsound.leased hleased
    rw [withStatus_ledger] at hone
    obtain ⟨lease, hlease⟩ := List.length_eq_one_iff.mp hone
    obtain ⟨l, hl, rfl⟩ := List.mem_map.mp hg
    have hmem : l ∈ s.activeLeases item.runId := by
      apply List.mem_filter.mpr
      exact ⟨hl, by simpa using ⟨hrun, hactive⟩⟩
    have hsame : l = lease := List.mem_singleton.mp (hlease ▸ hmem)
    exact ⟨lease, hlease, hsame ▸ hlast⟩
  · rintro ⟨lease, hlease, -⟩
    by_contra hnot
    have hnone := hsound.idle hnot
    rw [withStatus_ledger] at hnone
    have hone : (s.activeLeases item.runId).length = 1 := by rw [hlease]; rfl
    exact absurd (hone.symm.trans hnone) (by omega)

lemma Kept.safe {s : SchedulerState} (h : Kept s) : s.Safe where
  active runId := (withStatus_ledger s .active runId).symm.le.trans
    (withStatus_le_one h (Or.inl rfl) runId)
  leased _ hitem := leased_iff h hitem
  attempts item hitem := by
    have hsound := h.sound.entries (entry item) (List.mem_map_of_mem hitem)
    exact ⟨hsound.attempts.trans (issued_ledger s item.runId), hsound.bounded⟩
  runIds := h.queueIds
  leaseIds := h.leaseIds
  released runId := (withStatus_ledger s .released runId).symm.le.trans
    (withStatus_le_one h (Or.inr rfl) runId)

lemma Kept.continues {s s' : SchedulerState} (h : Kept s) (h' : Kept s')
    (hmoves : Ledger.Moves s.ledger s'.ledger) : s.Continues s' := by
  have hevolves := Ledger.Moves.evolves hmoves h.sound
  constructor
  · have hgrants := hevolves.grants
    unfold SchedulerState.ledger at hgrants
    rw [List.map_map, List.map_map] at hgrants
    exact hgrants
  · intro item hitem hended
    obtain ⟨e', he', hrun, -, hkept⟩ :=
      hevolves.entries (entry item) (List.mem_map_of_mem hitem)
    have hsame : e' = entry item := by
      apply hkept
      rcases hended with hended | hended <;> simp [entry, hended, QueueItemStatus.final]
    obtain ⟨item', hitem', heq⟩ := List.mem_map.mp he'
    rw [hsame] at heq
    refine ⟨⟨item', hitem', congrArg Entry.run heq, congrArg Entry.status heq⟩, ?_⟩
    rw [← issued_ledger, ← issued_ledger]
    have hbefore := (h.sound.entries (entry item) (List.mem_map_of_mem hitem)).attempts
    have hbehind := (h'.sound.entries e' he').attempts
    rw [hsame] at hbehind
    exact hbehind.symm.trans hbefore

/-! ## Calls -/

/-- A run is enqueued with at least one attempt. -/
def SchedulerCall.HasAttempt (options : SchedulerOptions) : SchedulerCall → Prop
  | .enqueueRun _ maxAttempts _ => 1 ≤ maxAttempts.getD options.defaultMaxAttempts
  | _ => True

lemma perform_steps (options : SchedulerOptions) {backend : Backend} (hplain : backend.Plain)
    {c : SchedulerCall} (h : c.HasAttempt options) :
    Steps (fun _ => True) (perform options backend c) fun _ _ => True := by
  cases c with
  | enqueueRun runId maxAttempts leaseDurationMs =>
    exact (enqueueRun_steps options runId maxAttempts leaseDurationMs h).map _
  | acquireLease workerId leaseDurationMs =>
    exact (acquireLease_steps options hplain workerId leaseDurationMs).map _
  | renewLease leaseId leaseDurationMs =>
    exact (renewLease_steps options hplain leaseId leaseDurationMs).map _
  | releaseLease leaseId result => exact (releaseLease_steps options hplain leaseId result).map _
  | failLease leaseId error => exact (failLease_steps options hplain leaseId error).map _
  | listQueue =>
    apply Steps.map
    exact (expireLeases_steps options hplain).bind fun _ => (Steps.look _).weaken
      (fun _ h => h) fun _ _ _ => trivial
  | listLeases =>
    apply Steps.map
    exact (expireLeases_steps options hplain).bind fun _ => (Steps.look _).weaken
      (fun _ h => h) fun _ _ _ => trivial

lemma inMemory_follows (options : SchedulerOptions) {c : SchedulerCall × (ℕ → Str)}
    (h : c.1.HasAttempt options) (s : SchedulerState) :
    Follows s (InMemoryScheduler.call options s c).2 := by
  intro hs
  exact (perform_steps options inMemory_plain h ⟨s, c.2⟩ ⟨hs, trivial⟩).1 hs

lemma ledger_copied (s : SchedulerState) : s.copied.ledger = s.ledger := by
  unfold SchedulerState.copied SchedulerState.ledger
  rw [List.map_map, List.map_map]
  rfl

lemma Kept.copied {s : SchedulerState} (h : Kept s) : Kept s.copied := by
  refine ⟨ledger_copied s ▸ h.sound, ?_⟩
  intro lease hlease
  obtain ⟨l, hl, rfl⟩ := List.mem_map.mp hlease
  exact h.numbered l hl

open FileSystemScheduler in
lemma inFile_follows (options : SchedulerOptions) {c : SchedulerCall × (ℕ → Str)}
    (h : c.1.HasAttempt options) (file : FileSystemScheduler) :
    Follows (readState file) (readState (call options file c).2) := by
  intro hs
  have hfollows := (perform_steps options inFile_plain h ⟨readState file, c.2⟩ ⟨hs, trivial⟩).1 hs
  unfold call
  split
  · exact ⟨hs, .refl⟩
  · rename_i answer t hrun
    rw [hrun] at hfollows
    obtain ⟨hkept, hmoves⟩ := hfollows
    unfold writeState
    split
    · exact ⟨hs, .refl⟩
    · rename_i s hwrite
      split at hwrite
      · cases hwrite
        exact ⟨hkept.copied, (ledger_copied t.state).symm ▸ hmoves⟩
      · cases hwrite

lemma safe_of_follows {s s' s'' : SchedulerState} (hs : Kept s) (h : Follows s s')
    (h' : Follows s' s'') : s'.Safe ∧ s'.Continues s'' := by
  obtain ⟨hkept, -⟩ := h hs
  obtain ⟨hkept', hmoves⟩ := h' hkept
  exact ⟨hkept.safe, hkept.continues hkept' hmoves⟩

/-- Behind any calls with any clock, both schedulers are safe and go on from there. -/
theorem lease_safety (options : SchedulerOptions) (before after : List (SchedulerCall × (ℕ → Str)))
    (h : ∀ c ∈ before ++ after, c.1.HasAttempt options) :
    let memory := behind (InMemoryScheduler.call options) .empty
    let file := fun calls =>
      FileSystemScheduler.readState (behind (FileSystemScheduler.call options) none calls)
    ((memory before).Safe ∧ (memory before).Continues (memory (before ++ after))) ∧
      (file before).Safe ∧ (file before).Continues (file (before ++ after)) := by
  rw [List.forall_mem_append] at h
  dsimp only
  rw [behind_append, behind_append]
  constructor
  · have hmemory : ∀ calls : List (SchedulerCall × (ℕ → Str)),
        (∀ c ∈ calls, c.1.HasAttempt options) →
          ∀ s, Follows s (behind (InMemoryScheduler.call options) s calls) := by
      intro calls hcalls
      exact behind_related Follows.refl Follows.trans
        fun c hc => inMemory_follows options (hcalls c hc)
    exact safe_of_follows kept_empty (hmemory before h.1 _) (hmemory after h.2 _)
  · have hfile : ∀ calls : List (SchedulerCall × (ℕ → Str)),
        (∀ c ∈ calls, c.1.HasAttempt options) → ∀ file, Follows
          (FileSystemScheduler.readState file) (FileSystemScheduler.readState
            (behind (FileSystemScheduler.call options) file calls)) := by
      intro calls hcalls
      exact behind_related (R := fun s s' => Follows (FileSystemScheduler.readState s)
        (FileSystemScheduler.readState s')) (fun _ => Follows.refl _) Follows.trans
        fun c hc => inFile_follows options (hcalls c hc)
    exact safe_of_follows kept_empty (hfile before h.1 none) (hfile after h.2 _)

/-- The texts of some times. -/
def tableDates (table : List (Str × ℤ)) : DateFormat where
  parse text := (table.find? fun e => e.1 = text).map Prod.snd
  toISOString time := (table.find? fun e => e.2 = time).map Prod.fst

/-- A run that is leased and completed. -/
theorem lease_safety_of_run :
    let options := SchedulerOptions.default (tableDates
      [(js "1970-01-01T00:00:00.000Z", 0), (js "1970-01-01T00:01:00.000Z", 60000)])
    let clock := fun _ : ℕ => js "1970-01-01T00:00:00.000Z"
    (behind (InMemoryScheduler.call options) .empty
      [(.enqueueRun (js "run-1") (some 2) none, clock), (.acquireLease (js "worker-1") none, clock)]
      ).Safe := by
  intro options clock
  have h := lease_safety options
    [(.enqueueRun (js "run-1") (some 2) none, clock), (.acquireLease (js "worker-1") none, clock)]
    [(.releaseLease (js "lease_run-1_001_0001") (.record []), clock)]
    (by simp [SchedulerCall.HasAttempt])
  exact h.1.1

end CodexRouter.Scheduler
