import CodexRouter.Scheduler.Safety
import CodexRouter.Scheduler.SideBySide

/-!
# Agreement of the two schedulers

The one scheduler keeps the expiry of leases when a call throws, the other drops it with the rest
of the call. Until the next call that returns this shows only where a run with such a lease is
enqueued again.
-/

open Js CodexRouter.Kernel Runs

namespace CodexRouter.Scheduler

/-! ## Statement -/

/-- A call in which the clock stands. -/
def standing (c : SchedulerCall × Str) : SchedulerCall × (ℕ → Str) := (c.1, fun _ => c.2)

/-- The ids of a call are not empty. -/
def SchedulerCall.Named : SchedulerCall → Prop
  | .enqueueRun runId _ _ => runId ≠ []
  | .acquireLease workerId _ => workerId ≠ []
  | _ => True

/-- The lengths of the leases that a call may lead to. -/
def SchedulerCall.durations (options : SchedulerOptions) : SchedulerCall → List ℤ
  | .enqueueRun _ _ leaseDurationMs => [leaseDurationMs.getD options.defaultLeaseDurationMs]
  | .acquireLease _ leaseDurationMs => leaseDurationMs.toList
  | _ => []

structure Regular (options : SchedulerOptions) (calls : List (SchedulerCall × Str)) : Prop where
  named : ∀ c ∈ calls, c.1.Named
  attempts : ∀ c ∈ calls, c.1.HasAttempt options
  positive : ∀ c ∈ calls, ∀ d ∈ c.1.durations options, 0 < d
  clock : ∀ c ∈ calls, (options.dates.parse c.2).isSome
  forward : calls.Pairwise fun c c' =>
    ∀ t ∈ options.dates.parse c.2, ∀ t' ∈ options.dates.parse c'.2, t ≤ t'
  dates : ∀ c ∈ calls, ∀ c' ∈ calls, ∀ t ∈ options.dates.parse c.2,
    ∀ d ∈ c'.1.durations options, (options.dates.toISOString (t + d)).isSome

/-- The same thrown value, or the same answer up to `updatedAt` and what a file does not copy. -/
def SameOutcome (r r' : Result SchedulerAnswer) : Prop :=
  r.map SchedulerAnswer.comparable = r'.map SchedulerAnswer.comparable

/-- The file behind a call, with the time of the last call that threw while it found leases
expired, as long as no call has written the expiry. -/
def watch (options : SchedulerOptions) (w : FileSystemScheduler × Option ℤ)
    (c : SchedulerCall × Str) : FileSystemScheduler × Option ℤ :=
  let (result, file) := FileSystemScheduler.call options w.1 (standing c)
  match c.1, result with
  | .enqueueRun .., _ => (file, w.2)
  | _, .ok _ => (file, none)
  | _, .error _ => (file, options.dates.parse c.2)

/-- A run is enqueued that is still leased in the file, under a lease that was found expired. -/
def outdated (options : SchedulerOptions) (w : FileSystemScheduler × Option ℤ) :
    SchedulerCall → Bool
  | .enqueueRun runId _ _ =>
    (FileSystemScheduler.readState w.1).hasLease (expiredBy options w.2) runId
  | _ => false

/-! ## Simulation -/

/-- The one scheduler and the file of the other, between calls. -/
structure Agree (options : SchedulerOptions) (durations : ℤ → Prop) (s : SchedulerState)
    (w : FileSystemScheduler × Option ℤ) : Prop where
  kept : Kept s
  kept' : Kept (FileSystemScheduler.readState w.1)
  proper : (FileSystemScheduler.readState w.1).Proper durations
  same : s.comparable = ((FileSystemScheduler.readState w.1).overdue options w.2).comparable

section

variable {options : SchedulerOptions} {durations : ℤ → Prop} {s : SchedulerState}

lemma comparable_copied (s : SchedulerState) : s.copied.comparable = s.comparable := by
  have hcopied : ∀ members : Record, copied (copied members) = copied members := by
    intro members
    unfold copied
    rw [List.filter_filter]
    simp
  have hoption : ∀ record : Option Record,
      (record.map copied).map copied = record.map copied := by
    intro record
    cases record with
    | none => rfl
    | some members => exact congrArg some (hcopied members)
  unfold SchedulerState.copied SchedulerState.comparable
  simp only [List.map_map, SchedulerState.mk.injEq, true_and, and_true]
  constructor
  · apply List.map_congr_left
    intro item _
    unfold QueueItem.comparable
    rw [Function.comp_apply, hoption]
  · apply List.map_congr_left
    intro lease _
    unfold ExecutionLease.comparable
    rw [Function.comp_apply, hoption, hoption]

lemma comparable_overdue (expired : Option ℤ) :
    (s.overdue options expired).comparable = s.comparable.expire (expiredBy options expired) :=
  comparable_expire fun _ => rfl

lemma SchedulerState.Proper.copied (h : s.Proper durations) : s.copied.Proper durations where
  queue := by
    intro row hrow
    obtain ⟨item, hitem, rfl⟩ := List.mem_map.mp hrow
    exact h.queue item hitem
  queueOrder := h.queueOrder
  leases := by
    intro row hrow
    obtain ⟨lease, hlease, rfl⟩ := List.mem_map.mp hrow
    exact h.leases lease hlease

/-- A state that both schedulers could be in is written. -/
lemma writeState_ok (hs : Kept s) (h : s.Proper durations) :
    FileSystemScheduler.writeState s = .ok s.copied := by
  unfold FileSystemScheduler.writeState
  rw [if_pos (hs.issues h)]

lemma perform_pair {now : Str} {time : ℤ} {expired : Option ℤ} {file : SchedulerState}
    (hdates : options.dates.Lawful) (htime : options.dates.parse now = some time)
    (htexts : ∀ d, durations d → ∃ text, options.dates.toISOString (time + d) = some text)
    {c : SchedulerCall} (hnamed : c.Named) (hlengths : ∀ d ∈ c.durations options, durations d)
    (hc : ∀ runId maxAttempts leaseDurationMs, c ≠ .enqueueRun runId maxAttempts leaseDurationMs) :
    SideBySide options durations now time expired file SchedulerAnswer.comparable
      (perform options inMemory c) (perform options inFile c) := by
  have hnow : now ≠ [] := by
    rintro rfl
    rw [hdates.parse_nil] at htime
    cases htime
  cases c with
  | enqueueRun runId maxAttempts leaseDurationMs => exact absurd rfl (hc _ _ _)
  | acquireLease workerId leaseDurationMs =>
    apply (acquireLease_pair hnow htime hdates hnamed (fun d hd => hlengths d ?_) htexts).map
    · exact fun a b t t' h => ⟨congrArg SchedulerAnswer.lease h.1, h.2⟩
    · simpa [SchedulerCall.durations] using hd
  | renewLease leaseId leaseDurationMs =>
    apply (renewLease_pair hnow htime hdates leaseId leaseDurationMs).map
    exact fun a b t t' h => ⟨congrArg (SchedulerAnswer.lease ∘ some) h.1, h.2⟩
  | releaseLease leaseId result =>
    apply (releaseLease_pair hnow htime leaseId result).map
    exact fun a b t t' h => ⟨congrArg (SchedulerAnswer.lease ∘ some) h.1, h.2⟩
  | failLease leaseId error =>
    apply (failLease_pair hnow htime leaseId error).map
    exact fun a b t t' h => ⟨congrArg (SchedulerAnswer.lease ∘ some) h.1, h.2⟩
  | listQueue =>
    apply (listQueue_pair hnow htime).map
    exact fun a b t t' h => ⟨congrArg SchedulerAnswer.items h.1, h.2⟩
  | listLeases =>
    apply (listLeases_pair hnow htime).map
    exact fun a b t t' h => ⟨congrArg SchedulerAnswer.leases h.1, h.2⟩

/-- A call that enqueues nothing has the same outcome. -/
lemma call_agree {w : FileSystemScheduler × Option ℤ} {c : SchedulerCall × Str} {time : ℤ}
    (h : Agree options durations s w) (hdates : options.dates.Lawful)
    (htime : options.dates.parse c.2 = some time) (hearlier : ∀ t ∈ w.2, t ≤ time)
    (htexts : ∀ d, durations d → ∃ text, options.dates.toISOString (time + d) = some text)
    (hnamed : c.1.Named) (hlengths : ∀ d ∈ c.1.durations options, durations d)
    (hattempt : c.1.HasAttempt options)
    (hc : ∀ runId maxAttempts leaseDurationMs,
      c.1 ≠ .enqueueRun runId maxAttempts leaseDurationMs) :
    SameOutcome (InMemoryScheduler.call options s (standing c)).1
        (FileSystemScheduler.call options w.1 (standing c)).1 ∧
      Agree options durations (InMemoryScheduler.call options s (standing c)).2
        (watch options w c) := by
  have hkept := (inMemory_follows options (c := standing c) hattempt s h.kept).1
  have hwatch : ∀ result file, FileSystemScheduler.call options w.1 (standing c) = (result, file) →
      watch options w c = (file, match result with
        | .ok _ => none
        | .error _ => options.dates.parse c.2) := by
    intro result file hcall
    unfold watch
    rw [hcall]
    obtain ⟨call, reading⟩ := c
    cases call <;> first | exact absurd rfl (hc _ _ _) | (cases result <;> rfl)
  have hpair := perform_pair hdates htime htexts hnamed hlengths hc
    ⟨s, fun _ => c.2⟩ ⟨FileSystemScheduler.readState w.1, fun _ => c.2⟩
    ⟨rfl, rfl, h.kept, h.kept', h.proper, rfl, h.same, hearlier⟩
  rcases hpair with ⟨a, b, t, t', hx, hy, hsame, halike⟩ | ⟨e, t, t', hx, hy, hstate⟩
  · have hmemory : InMemoryScheduler.call options s (standing c) = (.ok a, t.state) := by
      unfold InMemoryScheduler.call standing
      rw [hx]
    have hfile : FileSystemScheduler.call options w.1 (standing c) =
        (.ok b, some t'.state.copied) := by
      unfold FileSystemScheduler.call standing
      rw [hy]
      dsimp only
      rw [writeState_ok halike.kept' halike.proper]
    rw [hmemory] at hkept ⊢
    rw [hwatch _ _ hfile, hfile]
    refine ⟨congrArg Except.ok hsame, hkept, halike.kept'.copied, halike.proper.copied, ?_⟩
    rw [halike.same, comparable_overdue]
    dsimp only [FileSystemScheduler.readState, Option.getD_some]
    rw [comparable_copied]
    exact (expire_none fun _ _ => rfl).symm
  · have hmemory : InMemoryScheduler.call options s (standing c) = (.error e, t.state) := by
      unfold InMemoryScheduler.call standing
      rw [hx]
    have hfile : FileSystemScheduler.call options w.1 (standing c) = (.error e, w.1) := by
      unfold FileSystemScheduler.call standing
      rw [hy]
    rw [hmemory] at hkept ⊢
    rw [hwatch _ _ hfile, hfile]
    refine ⟨rfl, hkept, h.kept', h.proper, ?_⟩
    dsimp only
    rw [hstate, htime]
    rfl

/-! ## Enqueued runs -/

section

variable {runId : Str} {maxAttempts : Option ℕ} {leaseDurationMs : Option ℤ} {t : Clocked}

/-- What `enqueueRun` answers for a run that there is. -/
def known (existing : QueueItem) : Result QueueItem :=
  if existing.status = .completed || existing.status = .exhausted then
    fail (js "run_not_enqueueable:" ++ existing.status.text)
  else .ok existing

/-- The item of a new run. -/
def newItem (options : SchedulerOptions) (runId now : Str) (maxAttempts : Option ℕ)
    (leaseDurationMs : Option ℤ) : QueueItem :=
  { runId, status := .queued, attempts := 0,
    maxAttempts := maxAttempts.getD options.defaultMaxAttempts,
    leaseDurationMs := leaseDurationMs.getD options.defaultLeaseDurationMs,
    enqueuedAt := now, updatedAt := now, lastLeaseId := none, lastError := none }

def SchedulerState.enqueued (s : SchedulerState) (item : QueueItem) : SchedulerState where
  queue := s.queue ++ [item]
  queueOrder := s.queueOrder ++ [item.runId]
  leases := s.leases
  leaseSequence := s.leaseSequence

variable {backend : Backend}

lemma perform_enqueueRun : perform options backend
    (.enqueueRun runId maxAttempts leaseDurationMs) =
      .item <$> enqueueRun options runId maxAttempts leaseDurationMs := rfl

lemma perform_known {existing : QueueItem}
    (h : findRow QueueItem.runId runId t.state.queue = some existing) :
    perform options backend (.enqueueRun runId maxAttempts leaseDurationMs) t =
      ((known existing).map .item, t) := by
  have hrun : enqueueRun options runId maxAttempts leaseDurationMs t = (known existing, t) := by
    unfold enqueueRun
    rw [look_bind, h]
    rfl
  rw [perform_enqueueRun, Comp.map_apply, hrun]
  cases known existing <;> rfl

lemma perform_new {now : Str} (hclock : t.clock = fun _ => now)
    (h : findRow QueueItem.runId runId t.state.queue = none) :
    perform options backend (.enqueueRun runId maxAttempts leaseDurationMs) t =
      (.ok (.item (newItem options runId now maxAttempts leaseDurationMs)),
        ⟨t.state.enqueued (newItem options runId now maxAttempts leaseDurationMs), t.clock⟩) := by
  obtain ⟨state, clock⟩ := t
  cases hclock
  rw [perform_enqueueRun, Comp.map_apply]
  unfold enqueueRun
  rw [look_bind, h]
  rfl

/-- The runs of two schedulers that agree, up to an expiry that is not written. -/
lemma findItem_overdue {file : SchedulerState} {expired : Option ℤ}
    (h : s.comparable = (file.overdue options expired).comparable) (runId : Str) :
    (findRow QueueItem.runId runId s.queue).map QueueItem.comparable =
      (findRow QueueItem.runId runId file.queue).map fun item =>
        (item.retryIf (file.hasLease (expiredBy options expired) runId)).comparable := by
  have hmap : findRow QueueItem.runId runId (file.overdue options expired).queue =
      (findRow QueueItem.runId runId file.queue).map fun item =>
        item.retryIf (file.hasLease (expiredBy options expired) item.runId) :=
    findRow_map QueueItem.runId QueueItem.runId _ (fun _ => retryIf_runId _ _) runId file.queue
  rw [findItem_same h runId, hmap, Option.map_map]
  cases hfind : findRow QueueItem.runId runId file.queue with
  | none => rfl
  | some item =>
    rw [Option.map_some, Option.map_some, Function.comp_apply, (findRow_eq_some hfind).2]

/-- A new run has no lease that could have expired. -/
lemma no_lease_of_new (hs : Kept s) (hnew : findRow QueueItem.runId runId s.queue = none)
    (p : ExecutionLease → Bool) : s.hasLease p runId = false := by
  rw [Bool.eq_false_iff]
  intro hhas
  obtain ⟨lease, hlease, -, hrun⟩ := hasLease_eq_true.mp hhas
  have hknown := hs.sound.known (grant lease) (List.mem_map_of_mem hlease)
  rw [SchedulerState.ledger, List.map_map] at hknown
  exact findRow_eq_none.mp hnew (hrun ▸ hknown)

lemma overdue_enqueued (expired : Option ℤ) (hs : Kept s) {item : QueueItem}
    (hnew : findRow QueueItem.runId item.runId s.queue = none) :
    (s.enqueued item).overdue options expired = (s.overdue options expired).enqueued item := by
  have hnone := no_lease_of_new hs hnew (expiredBy options expired)
  unfold SchedulerState.overdue SchedulerState.expire SchedulerState.enqueued
  dsimp only
  rw [List.map_append, List.map_singleton]
  unfold SchedulerState.hasLease at hnone ⊢
  rw [hnone]
  rfl

end

lemma SameOutcome.known {existing existing' : QueueItem}
    (h : existing.comparable = existing'.comparable) :
    SameOutcome ((known existing).map .item) ((known existing').map .item) := by
  have hstatus : existing.status = existing'.status := by
    have h := congrArg QueueItem.status h
    exact h
  unfold SameOutcome Scheduler.known
  rw [hstatus]
  split
  · rfl
  · exact congrArg (Except.ok ∘ SchedulerAnswer.item) h

/-- A leased item is answered as it is, one whose lease has expired is not leased. -/
lemma not_sameOutcome_known {existing existing' : QueueItem} (hleased : existing'.status = .leased)
    (h : existing.comparable = (existing'.retryIf true).comparable) :
    ¬SameOutcome ((known existing).map .item) ((known existing').map .item) := by
  have hstatus : existing.status = retryStatus existing' := by
    have h := congrArg QueueItem.status h
    exact h
  have hanswer : known existing' = .ok existing' := by
    unfold known
    rw [hleased]
    rfl
  intro hsame
  unfold SameOutcome at hsame
  rw [hanswer] at hsame
  unfold known at hsame
  split at hsame
  · cases hsame
  · have hitems := SchedulerAnswer.item.inj (Except.ok.inj hsame)
    have hstatuses : existing.status = existing'.status := by
      have h := congrArg QueueItem.status hitems
      exact h
    rw [hstatus, hleased] at hstatuses
    unfold retryStatus at hstatuses
    split at hstatuses <;> cases hstatuses

/-- The item of a lease that could expire is leased. -/
lemma leased_of_hasLease {f : SchedulerState} {expired : Option ℤ} {runId : Str} {item : QueueItem}
    (hs : Kept f) (hfind : findRow QueueItem.runId runId f.queue = some item)
    (h : f.hasLease (expiredBy options expired) runId = true) : item.status = .leased := by
  obtain ⟨lease, hlease, hexpired, rfl⟩ := hasLease_eq_true.mp h
  have hactive : lease.status = .active := by
    cases expired with
    | none => cases hexpired
    | some time =>
      unfold expiredBy expiring at hexpired
      simp_all
  obtain ⟨item', hfind', hleased⟩ := hs.item_of_active hlease hactive
  rw [hfind] at hfind'
  cases hfind'
  exact hleased

/-- What was read is written. -/
lemma Agree.written {w : FileSystemScheduler × Option ℤ} (h : Agree options durations s w) :
    Agree options durations s (some (FileSystemScheduler.readState w.1).copied, w.2) where
  kept := h.kept
  kept' := h.kept'.copied
  proper := h.proper.copied
  same := by
    rw [h.same, comparable_overdue, comparable_overdue]
    dsimp only [FileSystemScheduler.readState, Option.getD_some]
    rw [comparable_copied]

lemma enqueued_kept {runId now : Str} {maxAttempts : Option ℕ} {leaseDurationMs : Option ℤ}
    (h : Kept s) (hnew : findRow QueueItem.runId runId s.queue = none)
    (hmax : 1 ≤ maxAttempts.getD options.defaultMaxAttempts) :
    Kept (s.enqueued (newItem options runId now maxAttempts leaseDurationMs)) :=
  (h.enqueue (newItem options runId now maxAttempts leaseDurationMs) hnew hmax rfl).1

lemma newItem_proper {runId now : Str} {maxAttempts : Option ℕ} {leaseDurationMs : Option ℤ}
    (h : s.Proper durations) (hnow : now ≠ []) (hrun : runId ≠ [])
    (hmax : 1 ≤ maxAttempts.getD options.defaultMaxAttempts)
    (hlength : 0 < leaseDurationMs.getD options.defaultLeaseDurationMs ∧
      durations (leaseDurationMs.getD options.defaultLeaseDurationMs)) :
    (s.enqueued (newItem options runId now maxAttempts leaseDurationMs)).Proper durations where
  queue := by
    intro row hrow
    rcases List.mem_append.mp hrow with hrow | hrow
    · exact h.queue row hrow
    · rw [List.mem_singleton.mp hrow]
      refine ⟨?_, hlength.2⟩
      unfold QueueItem.issues newItem
      simp [positive, hnow, hrun, hlength.1]
      omega
  queueOrder := by
    intro row hrow
    rcases List.mem_append.mp hrow with hrow | hrow
    · exact h.queueOrder row hrow
    · rw [List.mem_singleton.mp hrow]
      exact hrun
  leases := h.leases

lemma comparable_enqueued (s : SchedulerState) (item : QueueItem) :
    (s.enqueued item).comparable = s.comparable.enqueued item.comparable := by
  unfold SchedulerState.enqueued SchedulerState.comparable
  rw [List.map_append, List.map_singleton]
  rfl

lemma enqueue_agree {w : FileSystemScheduler × Option ℤ} {now runId : Str}
    {maxAttempts : Option ℕ} {leaseDurationMs : Option ℤ}
    (h : Agree options durations s w) (hnow : now ≠ []) (hrun : runId ≠ [])
    (hmax : 1 ≤ maxAttempts.getD options.defaultMaxAttempts)
    (hlength : 0 < leaseDurationMs.getD options.defaultLeaseDurationMs ∧
      durations (leaseDurationMs.getD options.defaultLeaseDurationMs)) :
    let c : SchedulerCall × Str := (.enqueueRun runId maxAttempts leaseDurationMs, now)
    (SameOutcome (InMemoryScheduler.call options s (standing c)).1
        (FileSystemScheduler.call options w.1 (standing c)).1 ↔ outdated options w c.1 = false) ∧
      Agree options durations (InMemoryScheduler.call options s (standing c)).2
        (watch options w c) := by
  intro c
  obtain ⟨file, expired⟩ := w
  have hfinds := findItem_overdue h.same runId
  unfold outdated watch InMemoryScheduler.call FileSystemScheduler.call standing
  dsimp only [c] at hfinds ⊢
  cases hfind' : findRow QueueItem.runId runId (FileSystemScheduler.readState file).queue with
  | none =>
    have hfind : findRow QueueItem.runId runId s.queue = none := by
      rw [hfind'] at hfinds
      exact Option.map_eq_none_iff.mp hfinds
    have hwritten := writeState_ok (enqueued_kept h.kept' hfind' hmax)
      (newItem_proper h.proper hnow hrun hmax hlength)
    rw [perform_new rfl hfind, perform_new rfl hfind']
    dsimp only
    rw [hwritten]
    refine ⟨⟨fun _ => no_lease_of_new h.kept' hfind' _, fun _ => rfl⟩,
      Agree.written (w := (some _, expired)) ⟨enqueued_kept h.kept hfind hmax,
        enqueued_kept h.kept' hfind' hmax, newItem_proper h.proper hnow hrun hmax hlength, ?_⟩⟩
    let item := newItem options runId now maxAttempts leaseDurationMs
    have hstates : (s.enqueued item).comparable =
        (((FileSystemScheduler.readState file).enqueued item).overdue options
          expired).comparable := by
      rw [overdue_enqueued expired h.kept' hfind', comparable_enqueued, comparable_enqueued,
        h.same]
    exact hstates
  | some existing' =>
    cases hfind : findRow QueueItem.runId runId s.queue with
    | none =>
      rw [hfind, hfind'] at hfinds
      cases hfinds
    | some existing =>
      rw [hfind, hfind'] at hfinds
      have hitem := Option.some.inj hfinds
      rw [perform_known hfind, perform_known hfind']
      have houtcome : SameOutcome ((known existing).map .item) ((known existing').map .item) ↔
          (FileSystemScheduler.readState file).hasLease (expiredBy options expired) runId =
            false := by
        cases hhas : (FileSystemScheduler.readState file).hasLease
          (expiredBy options expired) runId with
        | false =>
          rw [hhas] at hitem
          exact iff_of_true (SameOutcome.known hitem) rfl
        | true =>
          rw [hhas] at hitem
          have hleased := leased_of_hasLease h.kept' hfind' hhas
          exact iff_of_false (not_sameOutcome_known hleased hitem) nofun
      cases hknown : known existing' with
      | error e =>
        rw [hknown] at houtcome
        exact ⟨houtcome, h⟩
      | ok item =>
        rw [hknown] at houtcome
        dsimp only [Except.map] at houtcome ⊢
        rw [writeState_ok h.kept' h.proper]
        exact ⟨houtcome, h.written⟩

end

/-! ## Runs -/

/-- The calls so far and the next one, on schedulers that agree. -/
lemma step_agree {options : SchedulerOptions} {durations : ℤ → Prop} {s : SchedulerState}
    {w : FileSystemScheduler × Option ℤ} {c : SchedulerCall × Str} {time : ℤ}
    (h : Agree options durations s w) (hdates : options.dates.Lawful)
    (htime : options.dates.parse c.2 = some time) (hearlier : ∀ t ∈ w.2, t ≤ time)
    (htexts : ∀ d, durations d → ∃ text, options.dates.toISOString (time + d) = some text)
    (hnamed : c.1.Named)
    (hlengths : ∀ d ∈ c.1.durations options, 0 < d ∧ durations d)
    (hattempt : c.1.HasAttempt options) :
    (SameOutcome (InMemoryScheduler.call options s (standing c)).1
        (FileSystemScheduler.call options w.1 (standing c)).1 ↔ outdated options w c.1 = false) ∧
      Agree options durations (InMemoryScheduler.call options s (standing c)).2
        (watch options w c) := by
  have hnow : c.2 ≠ [] := by
    intro hnil
    rw [hnil, hdates.parse_nil] at htime
    cases htime
  by_cases hc : ∃ runId maxAttempts leaseDurationMs,
      c.1 = .enqueueRun runId maxAttempts leaseDurationMs
  · obtain ⟨runId, maxAttempts, leaseDurationMs, hc⟩ := hc
    obtain ⟨call, now⟩ := c
    cases hc
    exact enqueue_agree h hnow hnamed hattempt (hlengths _ (List.mem_singleton_self _))
  · have hother : ∀ runId maxAttempts leaseDurationMs,
        c.1 ≠ .enqueueRun runId maxAttempts leaseDurationMs := by
      intro runId maxAttempts leaseDurationMs heq
      exact hc ⟨runId, maxAttempts, leaseDurationMs, heq⟩
    obtain ⟨hsame, hagree⟩ := call_agree h hdates htime hearlier htexts hnamed
      (fun d hd => (hlengths d hd).2) hattempt hother
    have hnot : outdated options w c.1 = false := by
      obtain ⟨call, now⟩ := c
      cases call <;> first | exact absurd rfl (hother _ _ _) | rfl
    exact ⟨iff_of_true hsame hnot, hagree⟩

section

variable {options : SchedulerOptions} (w : FileSystemScheduler × Option ℤ) (c : SchedulerCall × Str)

lemma watch_fst : (watch options w c).1 =
    (FileSystemScheduler.call options w.1 (standing c)).2 := by
  unfold watch
  dsimp only
  split <;> rfl

lemma mem_watch {time : ℤ} (h : time ∈ (watch options w c).2) :
    time ∈ w.2 ∨ options.dates.parse c.2 = some time := by
  unfold watch at h
  dsimp only at h
  split at h
  · exact Or.inl h
  · cases h
  · exact Or.inr h

end

/-- Behind calls that begin a regular sequence the schedulers agree. -/
lemma run_agree {options : SchedulerOptions} (hdates : options.dates.Lawful)
    {calls : List (SchedulerCall × Str)} (h : Regular options calls)
    (before : List (SchedulerCall × Str)) (hbefore : before <+: calls) :
    let w := before.foldl (watch options) (none, none)
    w.1 = behind (FileSystemScheduler.call options) none (before.map standing) ∧
      Agree options (fun d => ∃ c ∈ calls, d ∈ c.1.durations options)
        (behind (InMemoryScheduler.call options) .empty (before.map standing)) w ∧
      ∀ time ∈ w.2, ∃ c ∈ before, options.dates.parse c.2 = some time := by
  induction before using List.reverseRecOn with
  | nil =>
    refine ⟨rfl, ⟨kept_empty, kept_empty, ?_, ?_⟩, nofun⟩
    · exact ⟨nofun, nofun, nofun⟩
    · exact congrArg SchedulerState.comparable (expire_none fun _ _ => rfl).symm
  | append_singleton before c ih =>
    obtain ⟨hfile, hagree, htimes⟩ := ih ((List.prefix_append before [c]).trans hbefore)
    obtain ⟨rest, rfl⟩ := hbefore
    have hc : c ∈ before ++ [c] ++ rest := by simp
    obtain ⟨time, htime⟩ := Option.isSome_iff_exists.mp (h.clock c hc)
    -- No call before this one had a later time.
    have hearlier : ∀ t ∈ (before.foldl (watch options) (none, none)).2, t ≤ time := by
      intro t ht
      obtain ⟨c', hc', htime'⟩ := htimes t ht
      have hforward := (List.pairwise_append.mp (List.pairwise_append.mp h.forward).1).2.2
      exact hforward c' hc' c (List.mem_singleton_self c) t htime' time htime
    have htexts : ∀ d, (∃ c' ∈ before ++ [c] ++ rest, d ∈ c'.1.durations options) →
        ∃ text, options.dates.toISOString (time + d) = some text := by
      rintro d ⟨c', hc', hd⟩
      exact Option.isSome_iff_exists.mp (h.dates c hc c' hc' time htime d hd)
    obtain ⟨-, hnext⟩ := step_agree hagree hdates htime hearlier htexts (h.named c hc)
      (fun d hd => ⟨h.positive c hc d hd, c, hc, hd⟩) (h.attempts c hc)
    rw [List.foldl_concat, List.map_append, List.map_singleton, behind_append, behind_append]
    refine ⟨?_, hnext, ?_⟩
    · rw [watch_fst, hfile]
      rfl
    · intro t ht
      rcases mem_watch _ c ht with ht | ht
      · obtain ⟨c', hc', htime'⟩ := htimes t ht
        exact ⟨c', List.mem_append_left _ hc', htime'⟩
      · exact ⟨c, List.mem_append_right _ (List.mem_singleton_self c), ht⟩

/-- The start and the end of a minute, and the end of the next one. -/
def minutes : List (Str × ℤ) :=
  [(js "1970-01-01T00:00:00.000Z", 0), (js "1970-01-01T00:01:00.000Z", 60000),
    (js "1970-01-01T00:02:00.000Z", 120000)]

/-- A lease is taken and runs out, another one is asked for that there is not. -/
def lapsed : List (SchedulerCall × Str) :=
  [(.enqueueRun (js "run-1") none none, js "1970-01-01T00:00:00.000Z"),
    (.acquireLease (js "worker-1") none, js "1970-01-01T00:00:00.000Z"),
    (.renewLease (js "lease-2") none, js "1970-01-01T00:01:00.000Z")]

lemma minutes_lawful : (tableDates minutes).Lawful where
  parse_nil := by decide +kernel
  parse_toISOString := by
    intro time text h
    obtain ⟨e, he, rfl⟩ := Option.map_eq_some_iff.mp h
    have hback : ∀ e ∈ minutes, (tableDates minutes).parse e.1 = some e.2 := by decide +kernel
    have htime := List.find?_some he
    rw [hback e (List.mem_of_find?_eq_some he)]
    exact congrArg some (of_decide_eq_true htime)

lemma lapsed_regular : Regular (.default (tableDates minutes))
    (lapsed ++ [(.listLeases, js "1970-01-01T00:01:00.000Z")]) where
  named := by simp [lapsed, SchedulerCall.Named, js]
  attempts := by simp [lapsed, SchedulerCall.HasAttempt, SchedulerOptions.default]
  positive := by simp [lapsed, SchedulerCall.durations, SchedulerOptions.default]
  clock := by decide +kernel
  forward := by decide +kernel
  dates := by decide +kernel

end CodexRouter.Scheduler
