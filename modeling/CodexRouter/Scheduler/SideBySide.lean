import CodexRouter.Scheduler.Moves

/-!
# Operations side by side

In states that compare equal, on clocks that stand at the same time, the two schedulers do the
same. Where an operation throws, its only change is that leases have expired.
-/

open Js CodexRouter.Kernel Runs

namespace CodexRouter.Scheduler

def SchedulerAnswer.comparable : SchedulerAnswer → SchedulerAnswer
  | .item row => .item row.comparable
  | .lease row => .lease (row.map ExecutionLease.comparable)
  | .items rows => .items (rows.map QueueItem.comparable)
  | .leases rows => .leases (rows.map ExecutionLease.comparable)

/-- What is known of dates: no date is empty, and a date that is written is read back. -/
structure DateFormat.Lawful (dates : DateFormat) : Prop where
  parse_nil : dates.parse [] = none
  parse_toISOString : ∀ time text, dates.toISOString time = some text → dates.parse text = some time

/-- The state of the one scheduler and that of the other, which is written to a file. -/
structure Alike (durations : ℤ → Prop) (now : Str) (t t' : Clocked) : Prop where
  clock : t.clock = fun _ => now
  clock' : t'.clock = fun _ => now
  kept : Kept t.state
  kept' : Kept t'.state
  proper : t'.state.Proper durations
  same : t.state.comparable = t'.state.comparable

/-! ## Rows -/

section

variable {s s' : SchedulerState} {lease lease' : ExecutionLease} {item item' : QueueItem}

lemma same_lease (h : lease.comparable = lease'.comparable) :
    lease.status = lease'.status ∧ lease.runId = lease'.runId := by
  unfold ExecutionLease.comparable at h
  rw [ExecutionLease.mk.injEq] at h
  exact ⟨h.2.2.2.2.2.2.2.1, h.2.1⟩

lemma findLease_same (h : s.comparable = s'.comparable) (leaseId : Str) :
    (findRow ExecutionLease.leaseId leaseId s.leases).map ExecutionLease.comparable =
      (findRow ExecutionLease.leaseId leaseId s'.leases).map ExecutionLease.comparable := by
  have hmap := findRow_map ExecutionLease.leaseId ExecutionLease.leaseId
    ExecutionLease.comparable (fun _ => rfl) leaseId
  rw [← hmap, ← hmap]
  exact congrArg (fun s => findRow ExecutionLease.leaseId leaseId s.leases) h

lemma findItem_same (h : s.comparable = s'.comparable) (runId : Str) :
    (findRow QueueItem.runId runId s.queue).map QueueItem.comparable =
      (findRow QueueItem.runId runId s'.queue).map QueueItem.comparable := by
  rw [← findRow_map QueueItem.runId QueueItem.runId QueueItem.comparable fun _ => rfl,
    ← findRow_map QueueItem.runId QueueItem.runId QueueItem.comparable fun _ => rfl]
  exact congrArg (fun s => findRow QueueItem.runId runId s.queue) h

lemma hasActiveLease_same (h : s.comparable = s'.comparable) (runId : Str) :
    hasActiveLease runId s = hasActiveLease runId s' := by
  have hmap : ∀ s : SchedulerState, hasActiveLease runId s = hasActiveLease runId s.comparable := by
    intro s
    unfold hasActiveLease SchedulerState.comparable
    rw [List.any_map]
    rfl
  rw [hmap, h, ← hmap]

lemma comparable_replace (h : s.comparable = s'.comparable)
    (hlease : lease.comparable = lease'.comparable) (hitem : item.comparable = item'.comparable) :
    (s.replaced lease item).comparable = (s'.replaced lease' item').comparable := by
  unfold SchedulerState.comparable at h
  rw [SchedulerState.mk.injEq] at h
  unfold SchedulerState.replaced SchedulerState.comparable
  dsimp only
  rw [map_replaceRow_map QueueItem.runId QueueItem.runId QueueItem.comparable fun _ => rfl,
    map_replaceRow_map QueueItem.runId QueueItem.runId QueueItem.comparable fun _ => rfl,
    map_replaceRow_map ExecutionLease.leaseId ExecutionLease.leaseId ExecutionLease.comparable
      fun _ => rfl,
    map_replaceRow_map ExecutionLease.leaseId ExecutionLease.leaseId ExecutionLease.comparable
      fun _ => rfl,
    h.1, h.2.1, h.2.2.1, h.2.2.2, hlease, hitem]

end

section

variable {options : SchedulerOptions} {durations : ℤ → Prop} {now : Str} {time : ℤ}
  {base : SchedulerState}

/-- Alike at a state that compares with `base`. -/
def At (durations : ℤ → Prop) (now : Str) (base : SchedulerState) (t t' : Clocked) : Prop :=
  Alike durations now t t' ∧ t.state.comparable = base

/-- What both calls read is the same. -/
lemma now_pair {P : Clocked → Clocked → Prop} {E : Clocked → Clocked → Prop}
    (h : ∀ t t', P t t' → t.clock = (fun _ => now) ∧ t'.clock = fun _ => now) :
    Comp.Pair P Scheduler.now Scheduler.now (fun a b t t' => (now = a ∧ now = b) ∧ P t t') E := by
  rintro ⟨s, clock⟩ ⟨s', clock'⟩ ht
  obtain ⟨hclock, hclock'⟩ := h _ _ ht
  cases hclock
  cases hclock'
  exact Or.inl ⟨now, now, _, _, rfl, rfl, ⟨rfl, rfl⟩, ht⟩

lemma requireActiveLease_pair (leaseId : Str) :
    Comp.Pair (At durations now base) (requireActiveLease leaseId) (requireActiveLease leaseId)
      (fun lease lease' t t' => (lease.comparable = lease'.comparable ∧ lease.status = .active ∧
        lease ∈ t.state.leases ∧ lease' ∈ t'.state.leases) ∧ At durations now base t t')
      fun t _ => t.state.comparable = base := by
  unfold requireActiveLease requireLease
  apply Comp.Pair.bind (Q := fun lease lease' t t' => (lease.comparable = lease'.comparable ∧
    lease ∈ t.state.leases ∧ lease' ∈ t'.state.leases) ∧ At durations now base t t')
  · apply Comp.Pair.bind (Comp.Pair.read (Q := fun found found' t t' =>
      (found.map ExecutionLease.comparable = found'.map ExecutionLease.comparable ∧
        found = findRow ExecutionLease.leaseId leaseId t.state.leases ∧
        found' = findRow ExecutionLease.leaseId leaseId t'.state.leases) ∧
      At durations now base t t') fun t t' h => ⟨⟨findLease_same h.1.same leaseId, rfl, rfl⟩, h⟩)
    intro found found'
    cases found with
    | none =>
      cases found' with
      | none => exact fun t t' h => Or.inr ⟨_, t, t', rfl, rfl, h.2.2⟩
      | some lease' => exact fun _ _ h => nomatch h.1.1
    | some lease =>
      cases found' with
      | none => exact fun _ _ h => nomatch h.1.1
      | some lease' =>
        apply Comp.Pair.pure
        rintro t t' ⟨⟨hsame, hfind, hfind'⟩, hat⟩
        exact ⟨⟨Option.some.inj hsame, (findRow_eq_some hfind.symm).1,
          (findRow_eq_some hfind'.symm).1⟩, hat⟩
  · intro lease lease' t t' h
    obtain ⟨⟨hsame, hmem, hmem'⟩, hat⟩ := h
    rw [← (same_lease hsame).1]
    by_cases hactive : lease.status = .active
    · rw [if_neg (not_not.mpr hactive)]
      exact Or.inl ⟨lease, lease', t, t', rfl, rfl, ⟨hsame, hactive, hmem, hmem'⟩, hat⟩
    · rw [if_pos hactive]
      exact Or.inr ⟨_, t, t', rfl, rfl, hat.2⟩

/-- How a call ends a lease: what it makes of the lease and of the item of its run. -/
structure Closing (now : Str) (close : ExecutionLease → ExecutionLease)
    (patch : QueueItem → QueueItem) : Prop where
  run : ∀ lease, (close lease).runId = lease.runId
  lease : ∀ lease lease', lease.comparable = lease'.comparable →
    (close lease).comparable = (close lease').comparable
  item : ∀ item item', item.comparable = item'.comparable →
    { patch item with updatedAt := now }.comparable =
      { patch item' with updatedAt := now }.comparable
  leaseIssues : ∀ lease, lease.issues = [] → (close lease).issues = []
  itemIssues : ∀ item, item.issues = [] → { patch item with updatedAt := now }.issues = []
  duration : ∀ item, (patch item).leaseDurationMs = item.leaseDurationMs
  kept : ∀ s lease item, Kept s → lease ∈ s.leases → lease.status = .active →
    findRow QueueItem.runId lease.runId s.queue = some item →
    Kept (s.replaced (close lease) { patch item with updatedAt := now })

lemma close_pair {close : ExecutionLease → ExecutionLease} {patch : QueueItem → QueueItem}
    {lease lease' : ExecutionLease} {E : Clocked → Clocked → Prop}
    (h : Closing now close patch) :
    Comp.Pair (fun t t' => (lease.comparable = lease'.comparable ∧ lease.status = .active ∧
        lease ∈ t.state.leases ∧ lease' ∈ t'.state.leases) ∧ At durations now base t t')
      (do
        replaceLease (close lease)
        updateQueueItem (inMemory.stamp now) lease.runId patch
        return close lease)
      (do
        replaceLease (close lease')
        updateQueueItem (inFile.stamp now) lease'.runId patch
        return close lease')
      (fun a b t t' => a.comparable = b.comparable ∧ Alike durations now t t') E := by
  rintro t t' ⟨⟨hsame, hactive, hmem, hmem'⟩, halike, -⟩
  obtain ⟨hstatus, hruns⟩ := same_lease hsame
  obtain ⟨item, hfind, -⟩ := halike.kept.item_of_active hmem hactive
  have hfinds := findItem_same halike.same lease.runId
  rw [hfind] at hfinds
  cases hfind' : findRow QueueItem.runId lease.runId t'.state.queue with
  | none =>
    rw [hfind'] at hfinds
    cases hfinds
  | some item' =>
    rw [hfind'] at hfinds
    obtain ⟨u, clock, hx, hsteady⟩ := close_run inMemory_plain now (close lease)
      patch (close lease) (h.run lease ▸ hfind)
    obtain ⟨u', clock', hy, hsteady'⟩ := close_run inFile_plain now (close lease')
      patch (close lease') (h.run lease' ▸ hruns ▸ hfind')
    obtain ⟨rfl, rfl⟩ := hsteady halike.clock
    obtain ⟨rfl, rfl⟩ := hsteady' halike.clock'
    rw [h.run] at hx hy
    obtain ⟨hmemItem, -⟩ := findRow_eq_some hfind'
    obtain ⟨hitem, hduration⟩ := halike.proper.queue item' hmemItem
    refine Or.inl ⟨close lease, close lease', _, _, hx, hy, h.lease _ _ hsame, halike.clock,
      halike.clock', h.kept _ _ _ halike.kept hmem hactive hfind,
      h.kept _ _ _ halike.kept' hmem' (hstatus ▸ hactive) (hruns ▸ hfind'), ?_, ?_⟩
    · apply halike.proper.replaced halike.kept'
      · exact h.leaseIssues lease' (halike.proper.leases lease' hmem')
      · exact ⟨h.itemIssues item' hitem, (h.duration item').symm ▸ hduration⟩
    · exact comparable_replace halike.same (h.lease _ _ hsame)
        (h.item item item' (Option.some.inj hfinds))

lemma release_closing (hnow : now ≠ []) (result : Record) :
    Closing now (fun lease => { lease with
      status := .released, releasedAt := some now, result := some result })
      fun item => { item with status := .completed } where
  run _ := rfl
  lease lease lease' h := by
    unfold ExecutionLease.comparable at h ⊢
    simp_all
  item item item' h := by
    unfold QueueItem.comparable at h ⊢
    simp_all
  leaseIssues lease h := by
    unfold ExecutionLease.issues at h ⊢
    simp_all
  itemIssues item h := by
    unfold QueueItem.issues at h ⊢
    simp_all
  duration _ := rfl
  kept s lease item hs hlease hactive hfind := (hs.finish _ _ hlease hactive hfind rfl rfl).1

lemma fail_closing (hnow : now ≠ []) (error : Record) :
    Closing now (fun lease => { lease with
      status := .failed, releasedAt := some now, error := some error })
      fun item => { item with status := retryStatus item, lastError := some error } where
  run _ := rfl
  lease lease lease' h := by
    unfold ExecutionLease.comparable at h ⊢
    simp_all
  item item item' h := by
    unfold QueueItem.comparable at h ⊢
    unfold retryStatus
    simp_all
  leaseIssues lease h := by
    unfold ExecutionLease.issues at h ⊢
    simp_all
  itemIssues item h := by
    unfold QueueItem.issues at h ⊢
    simp_all
  duration _ := rfl
  kept s lease item hs hlease hactive hfind :=
    (hs.giveUp _ _ hlease hactive hfind (Or.inr rfl) rfl rfl).1

/-- The state with a lease for a queued item. -/
def SchedulerState.issued (s : SchedulerState) (lease : ExecutionLease) (item : QueueItem) :
    SchedulerState where
  queue := replaceRow QueueItem.runId { item with
    status := .leased, attempts := item.attempts + 1, lastLeaseId := some lease.leaseId,
    updatedAt := lease.acquiredAt } s.queue
  queueOrder := s.queueOrder
  leases := s.leases ++ [lease]
  leaseSequence := s.leaseSequence + 1

lemma issueLease_run {backend : Backend} (hplain : backend.Plain) (workerId : Str)
    (leaseDurationMs : Option ℤ) {t : Clocked} {item : QueueItem} {expiresAt : Str}
    (h : Kept t.state) (hclock : t.clock = fun _ => now)
    (hfind : findRow QueueItem.runId item.runId t.state.queue = some item)
    (hqueued : item.status = .queued)
    (hadd : addMilliseconds options now (leaseDurationMs.getD item.leaseDurationMs) =
      .ok expiresAt) :
    let lease := newLease workerId now expiresAt item (t.state.leaseSequence + 1)
    issueLease options backend workerId leaseDurationMs item t =
      (.ok lease, ⟨t.state.issued lease item, t.clock⟩) ∧ Kept (t.state.issued lease item) := by
  intro lease
  obtain ⟨s, clock⟩ := t
  cases hclock
  let next : Clocked := ⟨{ s with leaseSequence := s.leaseSequence + 1 }, fun _ => now⟩
  have hnext : Kept next.state := ⟨h.sound, fun l hl => (h.numbered l hl).trans (Nat.le_succ _)⟩
  have hnumber : leaseNumber lease = s.leaseSequence + 1 := leaseNumber_format rfl
  have hbelow : ∀ l ∈ s.leases, leaseNumber l < leaseNumber lease := by
    intro l hl
    have hle : leaseNumber l ≤ s.leaseSequence := h.numbered l hl
    omega
  let patch := fun i : QueueItem =>
    { i with status := .leased, attempts := item.attempts + 1, lastLeaseId := some lease.leaseId }
  obtain ⟨u, clock, hrun, hsteady⟩ := register_run hplain (t := next) now patch
    (fresh_of_number hbelow) hfind
  obtain ⟨rfl, rfl⟩ := hsteady rfl
  obtain ⟨hkept, -⟩ := hnext.issue lease { patch item with updatedAt := u } hfind hqueued hbelow
    hnumber.le rfl rfl
  refine ⟨?_, hkept⟩
  unfold issueLease
  rw [Comp.bind_of_ok (x := now) (a := u) rfl]
  rw [Comp.bind_of_ok (change_apply _ _), look_bind]
  rw [hadd]
  exact hrun

/-- A date that is computed is not empty. -/
lemma addMilliseconds_ne (hdates : options.dates.Lawful) {timestamp text : Str} {milliseconds : ℤ}
    (h : addMilliseconds options timestamp milliseconds = .ok text) : text ≠ [] := by
  rintro rfl
  unfold addMilliseconds at h
  cases hparse : parseTimestamp options timestamp with
  | error e =>
    rw [hparse] at h
    cases h
  | ok start =>
    rw [hparse] at h
    cases htext : options.dates.toISOString (start + milliseconds) with
    | none =>
      simp [bind, Except.bind, htext, fail] at h
    | some text' =>
      have hnil : text' = [] := by simpa [bind, Except.bind, htext, pure, Except.pure] using h
      have hback := hdates.parse_toISOString _ _ htext
      rw [hnil, hdates.parse_nil] at hback
      cases hback

lemma issued_proper {s : SchedulerState} {item : QueueItem} {workerId expiresAt : Str}
    {milliseconds : ℤ} (hnow : now ≠ []) (hdates : options.dates.Lawful) (hworker : workerId ≠ [])
    (h : s.Proper durations) (hs : Kept s) (hitem : item ∈ s.queue)
    (hadd : addMilliseconds options now milliseconds = .ok expiresAt) :
    (s.issued (newLease workerId now expiresAt item (s.leaseSequence + 1)) item).Proper
      durations := by
  obtain ⟨hissues, hduration⟩ := h.queue item hitem
  have htext := addMilliseconds_ne hdates hadd
  have hid := formatLeaseId_ne item.runId (item.attempts + 1) (s.leaseSequence + 1)
  refine ⟨fun row hrow => ?_, h.queueOrder, fun row hrow => ?_⟩
  · rcases mem_replaceRow hs.queueIds hrow with rfl | ⟨hrow, -⟩
    · refine ⟨?_, hduration⟩
      unfold QueueItem.issues at hissues ⊢
      unfold newLease
      simp_all
    · exact h.queue row hrow
  · rcases List.mem_append.mp hrow with hrow | hrow
    · exact h.leases row hrow
    · rw [List.mem_singleton.mp hrow]
      have hrun : item.runId ≠ [] := by
        unfold QueueItem.issues at hissues
        simp_all
      unfold ExecutionLease.issues newLease
      simp [positive, hid, hrun, hworker, hnow, htext]

/-! ## Operations -/

/-- The state of the one scheduler before a call, and `file`, that of the other: leases may have
expired that are still active in the file. -/
structure Start (options : SchedulerOptions) (durations : ℤ → Prop) (now : Str) (time : ℤ)
    (expired : Option ℤ) (file : SchedulerState) (t t' : Clocked) : Prop where
  clock : t.clock = fun _ => now
  clock' : t'.clock = fun _ => now
  kept : Kept t.state
  kept' : Kept t'.state
  proper : t'.state.Proper durations
  state : t'.state = file
  same : t.state.comparable = (file.overdue options expired).comparable
  earlier : ∀ t ∈ expired, t ≤ time

/-- Operations that return the same and leave alike states, or throw when leases have expired. -/
def SideBySide {α : Type} (options : SchedulerOptions) (durations : ℤ → Prop) (now : Str) (time : ℤ)
    (expired : Option ℤ) (file : SchedulerState) (f : α → α) (x y : Operation α) : Prop :=
  Comp.Pair (Start options durations now time expired file) x y
    (fun a b t t' => f a = f b ∧ Alike durations now t t')
    fun t _ => t.state.comparable = (file.expire (expiring options time)).comparable

variable {expired : Option ℤ} {file : SchedulerState}

section

variable (hnow : now ≠ []) (htime : options.dates.parse now = some time)
include hnow htime

lemma expireLeases_pair {E : Clocked → Clocked → Prop} :
    Comp.Pair (Start options durations now time expired file) (expireLeases options inMemory)
      (expireLeases options inFile)
      (fun _ _ => At durations now (file.expire (expiring options time)).comparable) E := by
  rintro t t' h
  obtain ⟨s, clock, hx, hexpires⟩ := expireLeases_run options inMemory_plain h.kept h.clock htime
  obtain ⟨s', clock', hy, hexpires'⟩ := expireLeases_run options inFile_plain h.kept' h.clock' htime
  have hcommute : ∀ s : SchedulerState, (s.expire (expiring options time)).comparable =
      s.comparable.expire (expiring options time) := fun s => comparable_expire fun _ => rfl
  have hs : s.comparable = (file.expire (expiring options time)).comparable := by
    rw [hexpires.comparable, hcommute, h.same, ← hcommute, overdue_expire h.earlier]
  have hs' : s'.comparable = (file.expire (expiring options time)).comparable := by
    rw [hexpires'.comparable, h.state]
  refine Or.inl ⟨(), (), _, _, hx, hy, ⟨?_, ?_, hexpires.kept, hexpires'.kept, ?_,
    hs.trans hs'.symm⟩, hs⟩
  · exact (hexpires.clock h.clock).trans h.clock
  · exact (hexpires'.clock h.clock').trans h.clock'
  · exact hexpires'.proper durations hnow h.clock' h.proper

lemma releaseLease_pair (leaseId : Str) (result : Payload) :
    SideBySide options durations now time expired file ExecutionLease.comparable
      (releaseLease options inMemory leaseId result)
      (releaseLease options inFile leaseId result) := by
  unfold releaseLease
  apply Comp.Pair.bind (expireLeases_pair hnow htime)
  intro _ _
  apply Comp.Pair.bind (requireActiveLease_pair leaseId)
  intro lease lease'
  apply Comp.Pair.bind (now_pair fun t t' h => ⟨h.2.1.clock, h.2.1.clock'⟩)
  intro a b
  apply Comp.Pair.of_fact
  rintro ⟨rfl, rfl⟩
  apply Comp.Pair.bind (Comp.Pair.lift fun _ _ h => h.2.2)
  intro result _
  apply Comp.Pair.of_fact
  rintro ⟨rfl, -⟩
  exact close_pair (release_closing hnow result)

lemma failLease_pair (leaseId : Str) (error : Failure) :
    SideBySide options durations now time expired file ExecutionLease.comparable
      (failLease options inMemory leaseId error) (failLease options inFile leaseId error) := by
  unfold failLease
  apply Comp.Pair.bind (expireLeases_pair hnow htime)
  intro _ _
  apply Comp.Pair.bind (requireActiveLease_pair leaseId)
  intro lease lease'
  apply Comp.Pair.bind (Comp.Pair.lift fun _ _ h => h.2.2)
  intro normalizedError _
  apply Comp.Pair.of_fact
  rintro ⟨rfl, -⟩
  apply Comp.Pair.bind (now_pair fun t t' h => ⟨h.2.1.clock, h.2.1.clock'⟩)
  intro a b
  apply Comp.Pair.of_fact
  rintro ⟨rfl, rfl⟩
  apply Comp.Pair.bind (Comp.Pair.lift fun _ _ h => h.2.2)
  intro error _
  apply Comp.Pair.of_fact
  rintro ⟨rfl, -⟩
  exact close_pair (fail_closing hnow error)

lemma listQueue_pair :
    SideBySide options durations now time expired file (List.map QueueItem.comparable)
      (listQueue options inMemory) (listQueue options inFile) := by
  unfold listQueue
  apply Comp.Pair.bind (expireLeases_pair hnow htime)
  intro _ _
  apply Comp.Pair.read
  rintro t t' ⟨halike, -⟩
  refine ⟨?_, halike⟩
  have hsame := halike.same
  have horder := congrArg SchedulerState.queueOrder hsame
  unfold SchedulerState.comparable at horder
  dsimp only at horder
  rw [List.map_filterMap, List.map_filterMap, horder]
  apply List.filterMap_congr
  intro runId _
  exact findItem_same hsame runId

lemma listLeases_pair :
    SideBySide options durations now time expired file (List.map ExecutionLease.comparable)
      (listLeases options inMemory) (listLeases options inFile) := by
  unfold listLeases
  apply Comp.Pair.bind (expireLeases_pair hnow htime)
  intro _ _
  apply Comp.Pair.read
  rintro t t' ⟨halike, -⟩
  exact ⟨congrArg SchedulerState.leases halike.same, halike⟩

section

variable (hdates : options.dates.Lawful)
include hdates

lemma renewLease_pair (leaseId : Str) (leaseDurationMs : Option ℤ) :
    SideBySide options durations now time expired file ExecutionLease.comparable
      (renewLease options inMemory leaseId leaseDurationMs)
      (renewLease options inFile leaseId leaseDurationMs) := by
  unfold renewLease
  apply Comp.Pair.bind (expireLeases_pair hnow htime)
  intro _ _
  apply Comp.Pair.bind (requireActiveLease_pair leaseId)
  intro lease lease'
  apply Comp.Pair.bind (Q := fun item item' t t' => item.comparable = item'.comparable ∧
    (lease.comparable = lease'.comparable ∧ lease.status = .active ∧ lease ∈ t.state.leases ∧
      lease' ∈ t'.state.leases) ∧
    At durations now (file.expire (expiring options time)).comparable t t')
  · rintro t t' ⟨⟨hsame, hactive, hmem, hmem'⟩, hat⟩
    obtain ⟨item, hfind, -⟩ := hat.1.kept.item_of_active hmem hactive
    obtain ⟨hstatus, hrun⟩ := same_lease hsame
    obtain ⟨item', hfind', -⟩ := hat.1.kept'.item_of_active hmem' (hstatus ▸ hactive)
    have hfinds := findItem_same hat.1.same lease.runId
    rw [hfind, hrun, hfind'] at hfinds
    exact Or.inl ⟨item, item', t, t', requireQueueItem_run hfind, requireQueueItem_run hfind',
      Option.some.inj hfinds, ⟨hsame, hactive, hmem, hmem'⟩, hat⟩
  intro item item'
  apply Comp.Pair.of_fact
  intro hitem
  have hduration : item.leaseDurationMs = item'.leaseDurationMs := by
    unfold QueueItem.comparable at hitem
    simp_all
  rw [hduration]
  apply Comp.Pair.bind (now_pair fun t t' h => ⟨h.2.1.clock, h.2.1.clock'⟩)
  intro a b
  apply Comp.Pair.of_fact
  rintro ⟨rfl, rfl⟩
  apply Comp.Pair.bind (Comp.Pair.lift fun _ _ h => h.2.2)
  intro expiresAt _
  apply Comp.Pair.of_fact
  rintro ⟨rfl, hadd⟩ t t' ⟨⟨hsame, hactive, hmem, hmem'⟩, halike, -⟩
  let renewed := fun lease : ExecutionLease => { lease with heartbeatAt := some now, expiresAt }
  have hrenewed : (renewed lease).comparable = (renewed lease').comparable := by
    unfold ExecutionLease.comparable at hsame ⊢
    dsimp only [renewed]
    simp_all
  refine Or.inl ⟨renewed lease, renewed lease', _, _, rfl, rfl, hrenewed, halike.clock,
    halike.clock', (halike.kept.renew (renewed lease) hmem rfl).1,
    (halike.kept'.renew (renewed lease') hmem' rfl).1, ?_, ?_⟩
  · refine ⟨halike.proper.queue, halike.proper.queueOrder, fun row hrow => ?_⟩
    rcases mem_replaceRow halike.kept'.leaseIds hrow with rfl | ⟨hrow, -⟩
    · have hissues := halike.proper.leases lease' hmem'
      have htext := addMilliseconds_ne hdates hadd
      unfold ExecutionLease.issues at hissues ⊢
      simp_all
    · exact halike.proper.leases row hrow
  · have hstates := halike.same
    unfold SchedulerState.comparable at hstates ⊢
    rw [SchedulerState.mk.injEq] at hstates ⊢
    rw [map_replaceRow_map ExecutionLease.leaseId ExecutionLease.leaseId ExecutionLease.comparable
        fun _ => rfl,
      map_replaceRow_map ExecutionLease.leaseId ExecutionLease.leaseId ExecutionLease.comparable
        fun _ => rfl]
    exact ⟨hstates.1, hstates.2.1, by rw [hstates.2.2.1]; exact congrArg₂ _ hrenewed rfl,
      hstates.2.2.2⟩

end

section

variable {workerId : Str} {leaseDurationMs : Option ℤ}
  (hdates : options.dates.Lawful) (hworker : workerId ≠ [])
  (hlength : ∀ d ∈ leaseDurationMs, durations d)
  (htexts : ∀ d, durations d → ∃ text, options.dates.toISOString (time + d) = some text)
include hdates hworker hlength htexts

lemma issueLease_pair {item item' : QueueItem} (hsame : item.comparable = item'.comparable)
    (hqueued : item.status = .queued) {E : Clocked → Clocked → Prop} :
    Comp.Pair (fun t t' => (findRow QueueItem.runId item.runId t.state.queue = some item ∧
        findRow QueueItem.runId item'.runId t'.state.queue = some item') ∧
        At durations now base t t')
      (issueLease options inMemory workerId leaseDurationMs item)
      (issueLease options inFile workerId leaseDurationMs item')
      (fun a b t t' => a.comparable = b.comparable ∧ Alike durations now t t') E := by
  rintro t t' ⟨⟨hfind, hfind'⟩, halike, -⟩
  obtain ⟨hmem', -⟩ := findRow_eq_some hfind'
  obtain ⟨hissues, hduration⟩ := halike.proper.queue item' hmem'
  have hitems := hsame
  unfold QueueItem.comparable at hitems
  rw [QueueItem.mk.injEq] at hitems
  obtain ⟨hrun, hstatus, hattempts, hmax, hdurations, -⟩ := hitems
  have hsequence : t.state.leaseSequence = t'.state.leaseSequence := by
    have h := congrArg SchedulerState.leaseSequence halike.same
    exact h
  -- The date that both compute.
  have hadd : ∃ expiresAt, addMilliseconds options now
      (leaseDurationMs.getD item'.leaseDurationMs) = .ok expiresAt := by
    obtain ⟨text, htext⟩ := htexts (leaseDurationMs.getD item'.leaseDurationMs) (by
      cases leaseDurationMs with
      | none => exact hduration
      | some d => exact hlength d rfl)
    refine ⟨text, ?_⟩
    unfold addMilliseconds parseTimestamp
    rw [htime]
    dsimp only [bind, Except.bind]
    rw [htext]
    rfl
  obtain ⟨expiresAt, hadd⟩ := hadd
  obtain ⟨hx, hkept⟩ := issueLease_run inMemory_plain workerId leaseDurationMs halike.kept
    halike.clock hfind hqueued (hdurations ▸ hadd)
  obtain ⟨hy, hkept'⟩ := issueLease_run inFile_plain workerId leaseDurationMs halike.kept'
    halike.clock' hfind' (hstatus ▸ hqueued) hadd
  have hlease : newLease workerId now expiresAt item (t.state.leaseSequence + 1) =
      newLease workerId now expiresAt item' (t'.state.leaseSequence + 1) := by
    unfold newLease
    rw [hsequence, hrun, hattempts]
  rw [hlease] at hx hkept
  refine Or.inl ⟨_, _, _, _, hx, hy, rfl, halike.clock, halike.clock', hkept, hkept', ?_, ?_⟩
  · exact issued_proper hnow hdates hworker halike.proper halike.kept' hmem' hadd
  · have hstates := halike.same
    unfold SchedulerState.comparable at hstates ⊢
    rw [SchedulerState.mk.injEq] at hstates ⊢
    refine ⟨?_, hstates.2.1, ?_, congrArg Nat.succ hsequence⟩
    · unfold SchedulerState.issued
      dsimp only
      rw [map_replaceRow_map QueueItem.runId QueueItem.runId QueueItem.comparable fun _ => rfl,
        map_replaceRow_map QueueItem.runId QueueItem.runId QueueItem.comparable fun _ => rfl,
        hstates.1]
      unfold QueueItem.comparable at hsame ⊢
      simp_all
    · unfold SchedulerState.issued
      dsimp only
      rw [List.map_append, List.map_append, hstates.2.2.1]

lemma acquireFrom_pair (queueOrder : List Str) :
    Comp.Pair (At durations now base)
      (acquireFrom options inMemory workerId leaseDurationMs queueOrder)
      (acquireFrom options inFile workerId leaseDurationMs queueOrder)
      (fun a b t t' => a.map ExecutionLease.comparable = b.map ExecutionLease.comparable ∧
        Alike durations now t t')
      fun t _ => t.state.comparable = base := by
  induction queueOrder with
  | nil => exact Comp.Pair.pure fun t t' h => ⟨rfl, h.1⟩
  | cons runId queueOrder ih =>
    unfold acquireFrom
    apply Comp.Pair.bind (Comp.Pair.read (Q := fun found found' t t' =>
      found.map QueueItem.comparable = found'.map QueueItem.comparable ∧
      (found = findRow QueueItem.runId runId t.state.queue ∧
        found' = findRow QueueItem.runId runId t'.state.queue) ∧
      At durations now base t t') fun t t' h => ⟨findItem_same h.1.same runId, ⟨rfl, rfl⟩, h⟩)
    intro found found'
    apply Comp.Pair.of_fact
    intro hsame
    cases found with
    | none =>
      cases found' with
      | none => exact ih.weaken (fun _ _ h => h.2) fun _ _ _ _ h => h
      | some item' => cases hsame
    | some item =>
      cases found' with
      | none => cases hsame
      | some item' =>
        have hitems := Option.some.inj hsame
        have hstatus : item.status = item'.status := by
          have h := congrArg QueueItem.status hitems
          exact h
        dsimp only
        apply Comp.Pair.bind (Comp.Pair.read (Q := fun busy busy' t t' => busy = busy' ∧
          (some item = findRow QueueItem.runId runId t.state.queue ∧
            some item' = findRow QueueItem.runId runId t'.state.queue) ∧
          At durations now base t t') fun t t' h => ⟨hasActiveLease_same h.2.1.same runId, h⟩)
        intro busy busy'
        apply Comp.Pair.of_fact
        rintro rfl
        rw [← hstatus]
        split
        · exact ih.weaken (fun _ _ h => h.2) fun _ _ _ _ h => h
        · rename_i hfree
          have hqueued : item.status = .queued := by simp_all
          have hmore : ¬item.maxAttempts ≤ item.attempts ↔ ¬item'.maxAttempts ≤ item'.attempts := by
            unfold QueueItem.comparable at hitems
            rw [QueueItem.mk.injEq] at hitems
            rw [hitems.2.2.1, hitems.2.2.2.1]
          rintro t t' ⟨⟨hfind, hfind'⟩, hat⟩
          obtain ⟨hmem, hid⟩ := findRow_eq_some hfind.symm
          obtain ⟨-, hid'⟩ := findRow_eq_some hfind'.symm
          have hleft : ¬item.maxAttempts ≤ item.attempts := Nat.not_le.mpr
            ((hat.1.kept.sound.entries (entry item) (List.mem_map_of_mem hmem)).retriable hqueued)
          rw [if_neg hleft, if_neg (hmore.mp hleft)]
          apply (issueLease_pair hnow htime hdates hworker hlength htexts hitems hqueued).map
            (fun a b t t' h => ⟨congrArg some h.1, h.2⟩) t t'
          rw [hid, hid']
          exact ⟨⟨hfind.symm, hfind'.symm⟩, hat⟩

lemma acquireLease_pair :
    SideBySide options durations now time expired file (Option.map ExecutionLease.comparable)
      (acquireLease options inMemory workerId leaseDurationMs)
      (acquireLease options inFile workerId leaseDurationMs) := by
  unfold acquireLease
  apply Comp.Pair.bind (expireLeases_pair hnow htime)
  intro _ _
  apply Comp.Pair.bind (Comp.Pair.read (Q := fun queueOrder queueOrder' t t' =>
    queueOrder = queueOrder' ∧
      At durations now (file.expire (expiring options time)).comparable t t') ?_)
  · intro queueOrder queueOrder'
    apply Comp.Pair.of_fact
    rintro rfl
    exact acquireFrom_pair hnow htime hdates hworker hlength htexts queueOrder
  · intro t t' h
    have horder := congrArg SchedulerState.queueOrder h.1.same
    exact ⟨horder, h⟩

end

end

end

end CodexRouter.Scheduler
