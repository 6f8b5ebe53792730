import CodexRouter.Scheduler.Expiry

/-!
# Operations make moves

Every part of an operation leaves the state kept and changes its ledger only by moves, also where
it throws.
-/

open Js CodexRouter.Kernel Runs

namespace CodexRouter.Scheduler

/-! ## Rules -/

def Follows (s s' : SchedulerState) : Prop :=
  Kept s → Kept s' ∧ Ledger.Moves s.ledger s'.ledger

lemma Follows.refl (s : SchedulerState) : Follows s s := fun h => ⟨h, .refl⟩

lemma Follows.trans {s s' s'' : SchedulerState} (h : Follows s s') (h' : Follows s' s'') :
    Follows s s'' := by
  intro hs
  obtain ⟨hs', hmoves⟩ := h hs
  obtain ⟨hs'', hmoves'⟩ := h' hs'
  exact ⟨hs'', hmoves.trans hmoves'⟩

/-- From a kept state with `P` an operation follows moves to a kept state, with `Q` where it
returns. -/
def Steps {α : Type} (P : SchedulerState → Prop) (x : Operation α)
    (Q : α → SchedulerState → Prop) : Prop :=
  Comp.Triple (fun t t' => Follows t.state t'.state) (fun t => Kept t.state ∧ P t.state) x
    fun a t => Kept t.state ∧ Q a t.state

section

variable {α β : Type} {P : SchedulerState → Prop} {x : Operation α} {f : α → Operation β}
  {Q : α → SchedulerState → Prop} {T : β → SchedulerState → Prop}

lemma Steps.bind (hx : Steps P x Q) (hf : ∀ a, Steps (Q a) (f a) T) : Steps P (x >>= f) T :=
  Comp.Triple.bind (fun _ _ _ => Follows.trans) hx hf

lemma Steps.pure {a : α} (h : ∀ s, P s → Q a s) : Steps P (Pure.pure a : Operation α) Q :=
  Comp.Triple.pure (fun t => Follows.refl t.state) fun t ht => ⟨ht.1, h t.state ht.2⟩

lemma Steps.lift {r : Result α} : Steps P (Comp.lift r) fun a s => P s ∧ r = .ok a :=
  Comp.Triple.lift (fun t => Follows.refl t.state) fun _ _ ht hr => ⟨ht.1, ht.2, hr⟩

lemma Steps.look (g : SchedulerState → α) : Steps P (look g) fun a s => P s ∧ a = g s :=
  Comp.Triple.read (fun t => Follows.refl t.state) fun _ ht => ⟨ht.1, ht.2, rfl⟩

lemma Steps.now : Steps P now fun _ => P := by
  intro t ht
  exact ⟨Follows.refl t.state, fun _ _ => ht⟩

lemma Steps.map (hx : Steps P x Q) (g : α → β) : Steps P (g <$> x) fun _ _ => True :=
  Comp.Triple.map hx fun _ _ hq => ⟨hq.1, trivial⟩

lemma Steps.weaken {P' : SchedulerState → Prop} {Q' : α → SchedulerState → Prop}
    (hx : Steps P x Q) (hP : ∀ s, P' s → P s) (hQ : ∀ a s, Q a s → Q' a s) : Steps P' x Q' :=
  Comp.Triple.weaken hx (fun t ht => ⟨ht.1, hP t.state ht.2⟩)
    fun a t ha => ⟨ha.1, hQ a t.state ha.2⟩

/-- What follows from a condition on the state that is also a fact. -/
lemma Steps.of_fact {φ : Prop} (h : φ → Steps P x Q) : Steps (fun s => P s ∧ φ) x Q := by
  intro t ht
  exact h ht.2.2 t ⟨ht.1, ht.2.1⟩

/-- An operation that is known to return `a` in a state that follows. -/
lemma Steps.of_run (h : ∀ t, Kept t.state → P t.state → ∃ a s clock, x t = (.ok a, ⟨s, clock⟩) ∧
    Kept s ∧ Ledger.Moves t.state.ledger s.ledger ∧ Q a s) : Steps P x Q := by
  intro t ht
  obtain ⟨a, s, clock, hx, hkept, hmoves, hpost⟩ := h t ht.1 ht.2
  rw [hx]
  refine ⟨fun _ => ⟨hkept, hmoves⟩, fun b hb => ?_⟩
  cases hb
  exact ⟨hkept, hpost⟩

end

/-! ## Parts of the operations -/

/-- What both schedulers have in common: a stamp only reads the clock, so it is the time of the
call where the clock stands, and a lease with a new id goes last. -/
structure Backend.Plain (backend : Backend) : Prop where
  stamp : ∀ time t, ∃ u clock, backend.stamp time t = (.ok u, ⟨t.state, clock⟩) ∧
    (t.clock = (fun _ => time) → u = time ∧ clock = t.clock)
  put : ∀ lease leases, lease.leaseId ∉ leases.map ExecutionLease.leaseId →
    backend.put lease leases = leases ++ [lease]

lemma inMemory_plain : inMemory.Plain where
  stamp _ t := by
    refine ⟨t.clock 0, fun n => t.clock (n + 1), rfl, fun h => ?_⟩
    rw [h]
    exact ⟨rfl, rfl⟩
  put _ _ h := if_neg h

lemma inFile_plain : inFile.Plain where
  stamp _ t := ⟨_, t.clock, rfl, fun _ => ⟨rfl, rfl⟩⟩
  put _ _ _ := rfl

lemma look_bind {α β : Type} (g : SchedulerState → α) (f : α → Operation β) (t : Clocked) :
    (look g >>= f) t = f (g t.state) t := rfl

lemma change_apply (f : SchedulerState → SchedulerState) (t : Clocked) :
    change f t = (.ok (), ⟨f t.state, t.clock⟩) := rfl

lemma requireQueueItem_run {t : Clocked} {runId : Str} {item : QueueItem}
    (h : findRow QueueItem.runId runId t.state.queue = some item) :
    requireQueueItem runId t = (.ok item, t) := by
  unfold requireQueueItem
  rw [look_bind, h]
  rfl

lemma updateQueueItem_run {updatedAt : Operation Str} {t : Clocked} {runId u : Str}
    {item : QueueItem} {clock : ℕ → Str} (patch : QueueItem → QueueItem)
    (hstamp : updatedAt t = (.ok u, ⟨t.state, clock⟩))
    (h : findRow QueueItem.runId runId t.state.queue = some item) :
    updateQueueItem updatedAt runId patch t = (.ok (), ⟨{ t.state with
      queue := replaceRow QueueItem.runId { patch item with updatedAt := u } t.state.queue },
      clock⟩) := by
  unfold updateQueueItem
  rw [Comp.bind_of_ok (requireQueueItem_run h), Comp.bind_of_ok hstamp]
  rfl

lemma replaceLease_run (lease : ExecutionLease) (t : Clocked) :
    replaceLease lease t = (.ok (), ⟨{ t.state with
      leases := replaceRow ExecutionLease.leaseId lease t.state.leases }, t.clock⟩) := rfl

/-- Other leases stay. -/
lemma mem_replaced {s : SchedulerState} {lease l : ExecutionLease} {item : QueueItem} (h : Kept s)
    (hl : l ∈ s.leases) (hne : l.leaseId ≠ lease.leaseId) :
    l ∈ (s.replaced lease item).leases := by
  unfold SchedulerState.replaced
  rw [replaceRow_eq_map h.leaseIds]
  exact List.mem_map.mpr ⟨l, hl, if_neg hne⟩

/-- The lease that a call names, when it is active. -/
lemma requireActiveLease_steps (leaseId : Str) :
    Steps (fun _ => True) (requireActiveLease leaseId) fun lease s =>
      lease ∈ s.leases ∧ lease.status = .active := by
  unfold requireActiveLease requireLease
  apply Steps.bind (Q := fun lease s => lease ∈ s.leases)
  · apply Steps.bind (Steps.look _)
    intro found
    cases found with
    | none => exact Steps.lift.weaken (fun _ h => h) fun _ _ h => nomatch h.2
    | some lease => exact Steps.pure fun s h => (findRow_eq_some h.2.symm).1
  · intro lease
    apply Steps.bind Steps.lift
    intro _
    apply Steps.pure
    rintro s ⟨hmem, hactive⟩
    refine ⟨hmem, ?_⟩
    by_contra hnot
    rw [if_pos hnot] at hactive
    cases hactive

lemma fresh_of_number {leases : List ExecutionLease} {lease : ExecutionLease}
    (h : ∀ l ∈ leases, leaseNumber l < leaseNumber lease) :
    lease.leaseId ∉ leases.map ExecutionLease.leaseId := by
  intro hin
  obtain ⟨l, hl, hid⟩ := List.mem_map.mp hin
  have hlt := h l hl
  have hsame : leaseNumber l = leaseNumber lease := congrArg (digitsValue ∘ lastPart) hid
  omega

/-- The lease that a queued item gets. -/
def newLease (workerId now expiresAt : Str) (item : QueueItem) (sequence : ℕ) : ExecutionLease :=
  { leaseId := formatLeaseId item.runId (item.attempts + 1) sequence, runId := item.runId,
    workerId, acquiredAt := now, expiresAt, heartbeatAt := none, releasedAt := none,
    status := .active, attempt := item.attempts + 1, result := none, error := none }

/-- What it comes to that the leases with `p` expire in a call at `nowInput`. -/
structure Expires (nowInput : Str) (p : ExecutionLease → Bool) (t t' : Clocked) : Prop where
  kept : Kept t'.state
  moves : Ledger.Moves t.state.ledger t'.state.ledger
  comparable : t'.state.comparable = (t.state.expire p).comparable
  clock : t.clock = (fun _ => nowInput) → t'.clock = t.clock
  proper : ∀ durations, nowInput ≠ [] → t.clock = (fun _ => nowInput) →
    t.state.Proper durations → t'.state.Proper durations

section

variable {nowInput : Str} {p q : ExecutionLease → Bool} {t t' t'' : Clocked}

lemma Expires.none (h : Kept t.state) (hp : ∀ l ∈ t.state.leases, p l = false) :
    Expires nowInput p t t where
  kept := h
  moves := .refl
  comparable := by rw [expire_none hp]
  clock _ := rfl
  proper _ _ _ h := h

lemma Expires.trans (h : Expires nowInput p t t') (h' : Expires nowInput q t' t'')
    (hq : ∀ l, q l.comparable = q l) : Expires nowInput (fun l => p l || q l) t t'' where
  kept := h'.kept
  moves := h.moves.trans h'.moves
  comparable := by
    rw [h'.comparable, comparable_expire hq, h.comparable, ← comparable_expire hq, expire_expire]
  clock hclock := by rw [h'.clock ((h.clock hclock).trans hclock), h.clock hclock]
  proper durations hnow hclock hproper :=
    h'.proper durations hnow ((h.clock hclock).trans hclock)
      (h.proper durations hnow hclock hproper)

lemma Expires.congr_mem (h : Expires nowInput p t t') (hpq : ∀ l ∈ t.state.leases, p l = q l) :
    Expires nowInput q t t' where
  kept := h.kept
  moves := h.moves
  comparable := by rw [h.comparable, expire_congr hpq]
  clock := h.clock
  proper := h.proper

lemma Expires.congr (h : Expires nowInput p t t') (hpq : ∀ l, p l = q l) :
    Expires nowInput q t t' := h.congr_mem fun l _ => hpq l

end

lemma stamped_issues {item : QueueItem} {u : Str} {status : QueueItemStatus} (hu : u ≠ [])
    (h : item.issues = []) : { item with status, updatedAt := u }.issues = [] := by
  unfold QueueItem.issues at h ⊢
  simp_all

section

variable (options : SchedulerOptions) {backend : Backend} (hplain : backend.Plain)
include hplain

/-- A lease and the item of its run are replaced one after the other. -/
lemma close_run {α : Type} {t : Clocked} {item : QueueItem} (time : Str) (lease : ExecutionLease)
    (patch : QueueItem → QueueItem) (a : α)
    (h : findRow QueueItem.runId lease.runId t.state.queue = some item) :
    ∃ u clock, (do
      replaceLease lease
      updateQueueItem (backend.stamp time) lease.runId patch
      return a : Operation α) t =
        (.ok a, ⟨t.state.replaced lease { patch item with updatedAt := u }, clock⟩) ∧
      (t.clock = (fun _ => time) → u = time ∧ clock = t.clock) := by
  obtain ⟨u, clock, hstamp, hsteady⟩ := hplain.stamp time
    ⟨{ t.state with leases := replaceRow ExecutionLease.leaseId lease t.state.leases }, t.clock⟩
  refine ⟨u, clock, ?_, hsteady⟩
  rw [Comp.bind_of_ok (replaceLease_run lease t),
    Comp.bind_of_ok (updateQueueItem_run patch hstamp h)]
  rfl

/-- A new lease is added and the item of its run replaced. -/
lemma register_run {t : Clocked} {runId : Str} (time : Str) {lease : ExecutionLease} {item : QueueItem}
    (patch : QueueItem → QueueItem)
    (hfresh : lease.leaseId ∉ t.state.leases.map ExecutionLease.leaseId)
    (h : findRow QueueItem.runId runId t.state.queue = some item) :
    ∃ u clock, (do
      change fun s => { s with leases := backend.put lease s.leases }
      updateQueueItem (backend.stamp time) runId patch
      return lease : Operation ExecutionLease) t =
        (.ok lease, ⟨{ t.state with
          leases := t.state.leases ++ [lease]
          queue := replaceRow QueueItem.runId { patch item with updatedAt := u } t.state.queue },
          clock⟩) ∧
      (t.clock = (fun _ => time) → u = time ∧ clock = t.clock) := by
  have hput : change (fun s => { s with leases := backend.put lease s.leases }) t =
      (.ok (), ⟨{ t.state with leases := t.state.leases ++ [lease] }, t.clock⟩) := by
    rw [change_apply, hplain.put lease t.state.leases hfresh]
  obtain ⟨u, clock, hstamp, hsteady⟩ := hplain.stamp time
    ⟨{ t.state with leases := t.state.leases ++ [lease] }, t.clock⟩
  refine ⟨u, clock, ?_, hsteady⟩
  rw [Comp.bind_of_ok hput, Comp.bind_of_ok (updateQueueItem_run _ hstamp h)]
  rfl

/-- A lease is left, or it expires and its run with it. -/
lemma expireLease_run (nowInput : Str) (time : ℤ) {t : Clocked} {lease : ExecutionLease}
    (h : Kept t.state) (hlease : lease ∈ t.state.leases) :
    ∃ s clock, expireLease options backend nowInput time lease t = (.ok (), ⟨s, clock⟩) ∧
      Expires nowInput (fun l => l.leaseId = lease.leaseId && expiring options time l) t
        ⟨s, clock⟩ ∧
      ∀ l ∈ t.state.leases, l.leaseId ≠ lease.leaseId → l ∈ s.leases := by
  have hone : ∀ l ∈ t.state.leases,
      (decide (l.leaseId = lease.leaseId) && expiring options time l) =
        (decide (l.leaseId = lease.leaseId) && expiring options time lease) := by
    intro l hl
    by_cases hid : l.leaseId = lease.leaseId
    · rw [h.lease_eq hl hlease hid]
    · simp [hid]
  unfold expireLease
  split
  · rename_i hexpires
    have hactive : lease.status = .active := by simp_all
    obtain ⟨item, hfind, hleased⟩ := h.item_of_active hlease hactive
    let expired := { lease with status := LeaseStatus.expired }
    obtain ⟨u, clock, hstamp, hsteady⟩ := hplain.stamp nowInput
      ⟨{ t.state with leases := replaceRow ExecutionLease.leaseId expired t.state.leases }, t.clock⟩
    obtain ⟨hkept, hmoves⟩ := h.giveUp expired
      { item with status := retryStatus item, updatedAt := u } hlease hactive hfind
      (Or.inl rfl) rfl rfl
    refine ⟨_, clock, ?_, ⟨hkept, hmoves, ?_, fun hclock => (hsteady hclock).2, ?_⟩,
      fun l hl hne => mem_replaced h hl hne⟩
    · rw [Comp.bind_of_ok (replaceLease_run expired t), look_bind, hfind]
      dsimp only
      rw [if_neg (not_not.mpr hleased), updateQueueItem_run _ hstamp hfind]
    · rw [expire_congr hone]
      unfold expiring
      rw [hexpires]
      simp only [Bool.and_true]
      exact comparable_replaced h hlease hfind u
    · intro durations hnow hclock hproper
      obtain ⟨hitem, -⟩ := findRow_eq_some hfind
      apply hproper.replaced h
      · exact hproper.leases lease hlease
      · rw [(hsteady hclock).1]
        exact ⟨stamped_issues hnow (hproper.queue item hitem).1, (hproper.queue item hitem).2⟩
  · rename_i hstays
    have hnone : ∀ l ∈ t.state.leases,
        (decide (l.leaseId = lease.leaseId) && expiring options time l) = false := by
      intro l hl
      rw [hone l hl]
      unfold expiring
      rw [Bool.eq_false_iff.mpr hstays, Bool.and_false]
    exact ⟨t.state, t.clock, rfl, Expires.none h hnone, fun l hl _ => hl⟩

/-- The loop over the leases as they were at its start. -/
lemma expireEach_run (nowInput : Str) (time : ℤ) (leases : List ExecutionLease) {t : Clocked}
    (h : Kept t.state) (hmem : ∀ l ∈ leases, l ∈ t.state.leases)
    (hids : (leases.map ExecutionLease.leaseId).Nodup) :
    ∃ s clock, expireEach options backend nowInput time leases t = (.ok (), ⟨s, clock⟩) ∧
      Expires nowInput
        (fun l => l.leaseId ∈ leases.map ExecutionLease.leaseId && expiring options time l) t
        ⟨s, clock⟩ := by
  induction leases generalizing t with
  | nil => exact ⟨t.state, t.clock, rfl, Expires.none h fun l _ => by simp⟩
  | cons lease leases ih =>
    rw [List.forall_mem_cons] at hmem
    rw [List.map_cons, List.nodup_cons] at hids
    obtain ⟨s, clock, hrun, hexpires, hothers⟩ :=
      expireLease_run options hplain nowInput time h hmem.1
    -- The leases still to come are those of the start.
    have hrest : ∀ l ∈ leases, l ∈ s.leases := by
      intro l hl
      apply hothers l (hmem.2 l hl)
      intro he
      exact hids.1 (he ▸ List.mem_map_of_mem hl)
    obtain ⟨s', clock', hrun', hexpires'⟩ := ih (t := ⟨s, clock⟩) hexpires.kept hrest hids.2
    refine ⟨s', clock', ?_, ?_⟩
    · unfold expireEach
      rw [Comp.bind_of_ok hrun, hrun']
    · apply (hexpires.trans hexpires' fun _ => rfl).congr
      intro l
      rw [← Bool.and_or_distrib_right, List.map_cons]
      simp [List.mem_cons]

lemma expireLeases_steps : Steps (fun _ => True) (expireLeases options backend)
    fun _ _ => True := by
  unfold expireLeases
  apply Steps.bind Steps.now
  intro nowInput
  apply Steps.bind Steps.lift
  intro time
  apply Steps.bind (Steps.look _)
  intro leases
  apply Steps.of_run
  intro t ht hleases
  obtain ⟨s, clock, hrun, hexpires⟩ := expireEach_run options hplain nowInput time
    leases ht (hleases.2 ▸ fun l hl => hl) (hleases.2 ▸ ht.leaseIds)
  exact ⟨(), s, clock, hrun, hexpires.kept, hexpires.moves, trivial⟩

/-- On a clock that stands, all leases expire whose time has come. -/
lemma expireLeases_run {t : Clocked} {nowInput : Str} {time : ℤ} (h : Kept t.state)
    (hclock : t.clock = fun _ => nowInput) (htime : options.dates.parse nowInput = some time) :
    ∃ s clock, expireLeases options backend t = (.ok (), ⟨s, clock⟩) ∧
      Expires nowInput (expiring options time) t ⟨s, clock⟩ := by
  obtain ⟨state, clock⟩ := t
  cases hclock
  obtain ⟨s, clock, hrun, hexpires⟩ := expireEach_run options hplain nowInput time state.leases
    (t := ⟨state, fun _ => nowInput⟩) h (fun l hl => hl) h.leaseIds
  refine ⟨s, clock, ?_, hexpires.congr_mem fun l hl => ?_⟩
  · have hparse : parseTimestamp options nowInput = .ok time := by
      unfold parseTimestamp
      rw [htime]
    unfold expireLeases
    rw [Comp.bind_of_ok (x := now) (a := nowInput) rfl, hparse]
    exact hrun
  · rw [decide_eq_true (List.mem_map_of_mem hl), Bool.true_and]

lemma issueLease_steps (workerId : Str) (leaseDurationMs : Option ℤ) (item : QueueItem) :
    Steps (fun s => findRow QueueItem.runId item.runId s.queue = some item ∧
      item.status = .queued) (issueLease options backend workerId leaseDurationMs item)
      fun _ _ => True := by
  unfold issueLease
  apply Steps.bind Steps.now
  intro now
  -- The new number is above those of the leases there are.
  apply Steps.bind (Q := fun _ s => (findRow QueueItem.runId item.runId s.queue = some item ∧
    item.status = .queued) ∧ ∀ l ∈ s.leases, leaseNumber l < s.leaseSequence)
  · apply Steps.of_run
    intro t ht hitem
    refine ⟨(), _, t.clock, rfl, ⟨ht.sound, ?_⟩, .refl, hitem, ?_⟩
    · exact fun l hl => (ht.numbered l hl).trans (Nat.le_succ _)
    · exact fun l hl => Nat.lt_succ_of_le (ht.numbered l hl)
  intro _
  apply Steps.bind (Steps.look _)
  intro sequence
  apply Steps.bind Steps.lift
  intro expiresAt
  apply Steps.of_run
  rintro t ht ⟨⟨⟨⟨hfind, hqueued⟩, hnumbers⟩, rfl⟩, -⟩
  let lease := newLease workerId now expiresAt item t.state.leaseSequence
  have hnumber : leaseNumber lease = t.state.leaseSequence := leaseNumber_format rfl
  have hbelow : ∀ l ∈ t.state.leases, leaseNumber l < leaseNumber lease := by
    rw [hnumber]
    exact hnumbers
  let patch := fun i : QueueItem =>
    { i with status := .leased, attempts := item.attempts + 1, lastLeaseId := some lease.leaseId }
  obtain ⟨u, clock, hrun, -⟩ := register_run hplain now patch (fresh_of_number hbelow)
    hfind
  obtain ⟨hkept, hmoves⟩ := ht.issue lease { patch item with updatedAt := u } hfind hqueued hbelow
    hnumber.le rfl rfl
  exact ⟨lease, _, clock, hrun, hkept, hmoves, trivial⟩

/-- A queued run has attempts left, so the loop never exhausts one. -/
lemma acquireFrom_steps (workerId : Str) (leaseDurationMs : Option ℤ) (queueOrder : List Str) :
    Steps (fun _ => True) (acquireFrom options backend workerId leaseDurationMs queueOrder)
      fun _ _ => True := by
  induction queueOrder with
  | nil => exact Steps.pure fun _ h => h
  | cons runId queueOrder ih =>
    unfold acquireFrom
    apply Steps.bind (Steps.look _)
    intro found
    cases found with
    | none => exact ih.weaken (fun _ _ => trivial) fun _ _ h => h
    | some item =>
      dsimp only
      apply Steps.bind (Steps.look _)
      intro busy
      split
      · exact ih.weaken (fun _ _ => trivial) fun _ _ h => h
      · rename_i hfree
        have hqueued : item.status = .queued := by simp_all
        split
        · rename_i hspent
          intro t ht
          obtain ⟨hmem, -⟩ := findRow_eq_some ht.2.1.2.symm
          have hleft := (ht.1.sound.entries (entry item) (List.mem_map_of_mem hmem)).retriable
            hqueued
          exact absurd hspent (Nat.not_le.mpr hleft)
        · apply (issueLease_steps options hplain workerId leaseDurationMs item).map some |>.weaken
          · rintro s ⟨⟨-, hfind⟩, -⟩
            rw [(findRow_eq_some hfind.symm).2]
            exact ⟨hfind.symm, hqueued⟩
          · exact fun _ _ h => h

/-! ## Operations -/

lemma acquireLease_steps (workerId : Str) (leaseDurationMs : Option ℤ) :
    Steps (fun _ => True) (acquireLease options backend workerId leaseDurationMs)
      fun _ _ => True := by
  unfold acquireLease
  apply Steps.bind (expireLeases_steps options hplain)
  intro _
  apply Steps.bind (Steps.look _)
  intro queueOrder
  exact (acquireFrom_steps options hplain workerId leaseDurationMs queueOrder).weaken
    (fun _ _ => trivial) fun _ _ h => h

lemma renewLease_steps (leaseId : Str) (leaseDurationMs : Option ℤ) :
    Steps (fun _ => True) (renewLease options backend leaseId leaseDurationMs)
      fun _ _ => True := by
  unfold renewLease
  apply Steps.bind (expireLeases_steps options hplain)
  intro _
  apply Steps.bind (requireActiveLease_steps leaseId)
  intro lease
  apply Steps.bind (Q := fun _ s => lease ∈ s.leases)
  · unfold requireQueueItem
    apply Steps.bind (Steps.look _)
    intro found
    cases found with
    | none => exact Steps.lift.weaken (fun _ h => h) fun _ _ h => h.1.1.1
    | some item => exact Steps.pure fun s h => h.1.1
  intro item
  apply Steps.bind Steps.now
  intro now
  apply Steps.bind Steps.lift
  intro expiresAt
  apply Steps.of_run
  rintro t ht ⟨hmem, -⟩
  obtain ⟨hkept, hledger⟩ :=
    ht.renew { lease with heartbeatAt := some now, expiresAt } hmem rfl
  exact ⟨_, _, t.clock, rfl, hkept, hledger ▸ .refl, trivial⟩

lemma releaseLease_steps (leaseId : Str) (result : Payload) :
    Steps (fun _ => True) (releaseLease options backend leaseId result) fun _ _ => True := by
  unfold releaseLease
  apply Steps.bind (expireLeases_steps options hplain)
  intro _
  apply Steps.bind (requireActiveLease_steps leaseId)
  intro lease
  apply Steps.bind Steps.now
  intro now
  apply Steps.bind Steps.lift
  intro result
  apply Steps.of_run
  rintro t ht ⟨⟨hmem, hactive⟩, -⟩
  obtain ⟨item, hfind, -⟩ := ht.item_of_active hmem hactive
  let released : ExecutionLease :=
    { lease with status := .released, releasedAt := some now, result := some result }
  obtain ⟨u, clock, hrun, -⟩ := close_run hplain now released
    (fun item => { item with status := .completed }) released hfind
  obtain ⟨hkept, hmoves⟩ := ht.finish released { item with status := .completed, updatedAt := u }
    hmem hactive hfind rfl rfl
  exact ⟨released, _, clock, hrun, hkept, hmoves, trivial⟩

lemma failLease_steps (leaseId : Str) (error : Failure) :
    Steps (fun _ => True) (failLease options backend leaseId error) fun _ _ => True := by
  unfold failLease
  apply Steps.bind (expireLeases_steps options hplain)
  intro _
  apply Steps.bind (requireActiveLease_steps leaseId)
  intro lease
  apply Steps.bind Steps.lift
  intro normalizedError
  apply Steps.bind Steps.now
  intro now
  apply Steps.bind Steps.lift
  intro error
  apply Steps.of_run
  rintro t ht ⟨⟨⟨hmem, hactive⟩, -⟩, -⟩
  obtain ⟨item, hfind, -⟩ := ht.item_of_active hmem hactive
  let failed : ExecutionLease :=
    { lease with status := .failed, releasedAt := some now, error := some error }
  obtain ⟨u, clock, hrun, -⟩ := close_run hplain now failed
    (fun item => { item with status := retryStatus item, lastError := some error }) failed hfind
  obtain ⟨hkept, hmoves⟩ := ht.giveUp failed
    { item with status := retryStatus item, lastError := some error, updatedAt := u }
    hmem hactive hfind (Or.inr rfl) rfl rfl
  exact ⟨failed, _, clock, hrun, hkept, hmoves, trivial⟩

end

lemma enqueueRun_steps (options : SchedulerOptions) (runId : Str) (maxAttempts : Option ℕ)
    (leaseDurationMs : Option ℤ) (hmax : 1 ≤ maxAttempts.getD options.defaultMaxAttempts) :
    Steps (fun _ => True) (enqueueRun options runId maxAttempts leaseDurationMs)
      fun _ _ => True := by
  unfold enqueueRun
  apply Steps.bind (Steps.look _)
  intro found
  cases found with
  | some existing => exact Steps.lift.weaken (fun _ h => h) fun _ _ _ => trivial
  | none =>
    apply Steps.bind Steps.now
    intro now
    apply Steps.of_run
    rintro t ht ⟨-, hfind⟩
    let item : QueueItem :=
      { runId, status := .queued, attempts := 0,
        maxAttempts := maxAttempts.getD options.defaultMaxAttempts,
        leaseDurationMs := leaseDurationMs.getD options.defaultLeaseDurationMs,
        enqueuedAt := now, updatedAt := now, lastLeaseId := none, lastError := none }
    obtain ⟨hkept, hmoves⟩ := ht.enqueue item hfind.symm hmax rfl
    exact ⟨item, _, t.clock, rfl, hkept, hmoves, trivial⟩

end CodexRouter.Scheduler
