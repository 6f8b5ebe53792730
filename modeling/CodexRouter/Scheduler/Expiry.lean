import CodexRouter.Scheduler.Steps

/-!
# Expiry

Leases that expire one after the other expire all at once, and an expiry makes no difference to a
later one. States are compared up to `updatedAt` and what a file does not copy.
-/

open Js CodexRouter.Kernel Runs

namespace CodexRouter.Scheduler

/-! ## Comparison -/

def QueueItem.comparable (item : QueueItem) : QueueItem :=
  { item with updatedAt := [], lastError := item.lastError.map copied }

def ExecutionLease.comparable (lease : ExecutionLease) : ExecutionLease :=
  { lease with result := lease.result.map copied, error := lease.error.map copied }

def SchedulerState.comparable (s : SchedulerState) : SchedulerState where
  queue := s.queue.map QueueItem.comparable
  queueOrder := s.queueOrder
  leases := s.leases.map ExecutionLease.comparable
  leaseSequence := s.leaseSequence

/-! ## Expiry at once -/

def ExecutionLease.expireIf (b : Bool) (lease : ExecutionLease) : ExecutionLease :=
  if b then { lease with status := .expired } else lease

def QueueItem.retryIf (b : Bool) (item : QueueItem) : QueueItem :=
  if b then { item with status := retryStatus item } else item

/-- A lease of the run with `p`. -/
def SchedulerState.hasLease (s : SchedulerState) (p : ExecutionLease → Bool) (runId : Str) : Bool :=
  s.leases.any fun lease => p lease && lease.runId = runId

/-- All leases with `p` expire, with the items of their runs. -/
def SchedulerState.expire (p : ExecutionLease → Bool) (s : SchedulerState) : SchedulerState where
  queue := s.queue.map fun item => item.retryIf (s.hasLease p item.runId)
  queueOrder := s.queueOrder
  leases := s.leases.map fun lease => lease.expireIf (p lease)
  leaseSequence := s.leaseSequence

/-- The leases that a call at `time` finds expired. -/
def expiring (options : SchedulerOptions) (time : ℤ) (lease : ExecutionLease) : Bool :=
  lease.status = .active && isExpired options time lease

section

variable {s : SchedulerState} {p q : ExecutionLease → Bool}

lemma expireIf_expireIf (b b' : Bool) (lease : ExecutionLease) :
    (lease.expireIf b).expireIf b' = lease.expireIf (b || b') := by
  cases b <;> cases b' <;> rfl

lemma retryIf_retryIf (b b' : Bool) (item : QueueItem) :
    (item.retryIf b).retryIf b' = item.retryIf (b || b') := by
  cases b <;> cases b' <;> rfl

@[simp] lemma retryIf_runId (b : Bool) (item : QueueItem) :
    (item.retryIf b).runId = item.runId := by
  cases b <;> rfl

@[simp] lemma expireIf_runId (b : Bool) (lease : ExecutionLease) :
    (lease.expireIf b).runId = lease.runId := by
  cases b <;> rfl

lemma hasLease_eq_true {runId : Str} :
    s.hasLease p runId = true ↔ ∃ lease ∈ s.leases, p lease = true ∧ lease.runId = runId := by
  simp [SchedulerState.hasLease]

lemma hasLease_congr (h : ∀ lease ∈ s.leases, p lease = q lease) : s.hasLease p = s.hasLease q := by
  funext runId
  rw [Bool.eq_iff_iff, hasLease_eq_true, hasLease_eq_true]
  apply exists_congr
  intro lease
  apply and_congr_right
  intro hlease
  rw [h lease hlease]

lemma expire_congr (h : ∀ lease ∈ s.leases, p lease = q lease) : s.expire p = s.expire q := by
  unfold SchedulerState.expire
  rw [hasLease_congr h]
  congr 1
  apply List.map_congr_left
  intro lease hlease
  rw [h lease hlease]

lemma expire_none (h : ∀ lease ∈ s.leases, p lease = false) : s.expire p = s := by
  rw [expire_congr h]
  simp [SchedulerState.expire, SchedulerState.hasLease, QueueItem.retryIf, ExecutionLease.expireIf]

lemma expire_expire : (s.expire p).expire q = s.expire fun lease => p lease || q lease := by
  have hlease : ∀ lease, (p lease || q (lease.expireIf (p lease))) = (p lease || q lease) := by
    intro lease
    cases p lease <;> rfl
  have hrun : ∀ runId, (s.hasLease p runId || (s.expire p).hasLease q runId) =
      s.hasLease (fun lease => p lease || q lease) runId := by
    intro runId
    have hmap : (s.expire p).hasLease q runId =
        s.hasLease (fun lease => q (lease.expireIf (p lease))) runId := by
      unfold SchedulerState.hasLease SchedulerState.expire
      rw [List.any_map]
      congr 1
      funext lease
      rw [Function.comp_apply, expireIf_runId]
    rw [hmap, Bool.eq_iff_iff, Bool.or_eq_true, hasLease_eq_true, hasLease_eq_true,
      hasLease_eq_true, ← exists_or]
    apply exists_congr
    intro lease
    rw [← and_or_left, ← or_and_right, ← Bool.or_eq_true, hlease]
  unfold SchedulerState.expire at hrun ⊢
  simp only [List.map_map, SchedulerState.mk.injEq, true_and, and_true]
  constructor
  · apply List.map_congr_left
    intro item hitem
    rw [Function.comp_apply, retryIf_retryIf, retryIf_runId, hrun]
  · apply List.map_congr_left
    intro lease _
    rw [Function.comp_apply, expireIf_expireIf, hlease]

/-- What has expired has expired at every later time. -/
lemma expiring_later {options : SchedulerOptions} {time time' : ℤ} (h : time ≤ time')
    {lease : ExecutionLease} (hlease : expiring options time lease = true) :
    expiring options time' lease = true := by
  unfold expiring isExpired at hlease ⊢
  cases hparse : options.dates.parse lease.expiresAt with
  | none => simp_all
  | some expiresAt =>
    simp only [hparse, Option.any_some, Bool.and_eq_true, decide_eq_true_eq, Bool.not_eq_true',
      decide_eq_false_iff_not, not_lt] at hlease ⊢
    exact ⟨hlease.1, by omega⟩

/-- The leases that a call at `expired`, if there is one, found expired. -/
def expiredBy (options : SchedulerOptions) (expired : Option ℤ) (lease : ExecutionLease) : Bool :=
  expired.any fun time => expiring options time lease

/-- The state in which they have expired. -/
def SchedulerState.overdue (options : SchedulerOptions) (expired : Option ℤ) (s : SchedulerState) :
    SchedulerState := s.expire (expiredBy options expired)

/-- An expiry takes in every earlier one. -/
lemma overdue_expire {options : SchedulerOptions} {expired : Option ℤ} {time : ℤ}
    (h : ∀ t ∈ expired, t ≤ time) :
    (s.overdue options expired).expire (expiring options time) =
      s.expire (expiring options time) := by
  unfold SchedulerState.overdue
  rw [expire_expire]
  apply expire_congr
  intro lease _
  cases expired with
  | none => rfl
  | some t =>
    unfold expiredBy
    rw [Option.any_some]
    cases hearlier : expiring options t lease with
    | false => rfl
    | true => exact (expiring_later (h t rfl) hearlier).symm

lemma hasLease_comparable (hp : ∀ lease, p lease.comparable = p lease) :
    s.comparable.hasLease p = s.hasLease p := by
  funext runId
  unfold SchedulerState.hasLease SchedulerState.comparable
  rw [List.any_map]
  congr 1
  funext lease
  rw [Function.comp_apply, hp]
  rfl

lemma comparable_expire (hp : ∀ lease, p lease.comparable = p lease) :
    (s.expire p).comparable = s.comparable.expire p := by
  have hitem : ∀ (b : Bool) (item : QueueItem),
      (item.retryIf b).comparable = item.comparable.retryIf b := by
    intro b item
    cases b <;> rfl
  have hlease : ∀ (b : Bool) (lease : ExecutionLease),
      (lease.expireIf b).comparable = lease.comparable.expireIf b := by
    intro b lease
    cases b <;> rfl
  unfold SchedulerState.expire
  rw [hasLease_comparable hp]
  unfold SchedulerState.comparable
  simp only [List.map_map, SchedulerState.mk.injEq, true_and, and_true]
  constructor
  · apply List.map_congr_left
    intro item _
    exact hitem _ item
  · apply List.map_congr_left
    intro lease _
    rw [Function.comp_apply, Function.comp_apply, hlease, hp]

/-- One lease expires with the item of its run. -/
lemma comparable_replaced {lease : ExecutionLease} {item : QueueItem} (h : Kept s)
    (hlease : lease ∈ s.leases) (hfind : findRow QueueItem.runId lease.runId s.queue = some item)
    (u : Str) :
    (s.replaced { lease with status := .expired }
      { item with status := retryStatus item, updatedAt := u }).comparable =
        (s.expire fun l => l.leaseId = lease.leaseId).comparable := by
  obtain ⟨hitem, hid⟩ := findRow_eq_some hfind
  have hhas : ∀ runId, s.hasLease (fun l => l.leaseId = lease.leaseId) runId =
      decide (runId = lease.runId) := by
    intro runId
    rw [Bool.eq_iff_iff, hasLease_eq_true, decide_eq_true_eq]
    constructor
    · rintro ⟨l, hl, hsame, rfl⟩
      rw [h.lease_eq hl hlease (of_decide_eq_true hsame)]
    · rintro rfl
      exact ⟨lease, hlease, decide_eq_true rfl, rfl⟩
  unfold SchedulerState.replaced SchedulerState.expire SchedulerState.comparable
  rw [replaceRow_eq_map h.queueIds, replaceRow_eq_map h.leaseIds]
  simp only [List.map_map, SchedulerState.mk.injEq, true_and, and_true]
  constructor
  · apply List.map_congr_left
    intro row hrow
    rw [Function.comp_apply, Function.comp_apply, hhas]
    by_cases hsame : row.runId = item.runId
    · have hfound := findRow_of_mem h.queueIds hrow
      rw [hsame, hid, hfind] at hfound
      cases hfound
      rw [if_pos rfl, decide_eq_true hid]
      rfl
    · rw [if_neg hsame, decide_eq_false (hid ▸ hsame)]
      rfl
  · apply List.map_congr_left
    intro l hl
    rw [Function.comp_apply, Function.comp_apply]
    by_cases hsame : l.leaseId = lease.leaseId
    · rw [if_pos hsame, decide_eq_true hsame, h.lease_eq hl hlease hsame]
      rfl
    · rw [if_neg hsame, decide_eq_false hsame]
      rfl

end

/-! ## What a file accepts -/

/-- Every part passes its schema, and the lengths of leases are among `durations`. -/
structure SchedulerState.Proper (durations : ℤ → Prop) (s : SchedulerState) : Prop where
  queue : ∀ item ∈ s.queue, item.issues = [] ∧ durations item.leaseDurationMs
  queueOrder : ∀ runId ∈ s.queueOrder, runId ≠ []
  leases : ∀ lease ∈ s.leases, lease.issues = []

lemma Kept.issues {durations : ℤ → Prop} {s : SchedulerState} (h : Kept s)
    (hs : s.Proper durations) : s.issues = [] := by
  have hduplicates : ∀ (path message : String) (ids : List Str), ids.Nodup →
      duplicateIssues path message ids = [] := by
    intro path message ids hids
    rw [duplicateIssues, findDuplicates_eq_nil.mpr hids, List.map_nil]
  unfold SchedulerState.issues
  rw [hduplicates _ _ _ h.queueIds, hduplicates _ _ _ h.leaseIds]
  simp only [List.append_nil, List.append_eq_nil_iff, under_eq_nil, each_eq_nil, nonEmpty_eq_nil]
  exact ⟨⟨fun item hitem => (hs.queue item hitem).1, hs.queueOrder⟩, hs.leases⟩

lemma SchedulerState.Proper.replaced {durations : ℤ → Prop} {s : SchedulerState}
    (h : s.Proper durations) {lease : ExecutionLease} {item : QueueItem} (hs : Kept s)
    (hlease : lease.issues = []) (hitem : item.issues = [] ∧ durations item.leaseDurationMs) :
    (s.replaced lease item).Proper durations where
  queue := by
    intro row hrow
    rcases mem_replaceRow hs.queueIds hrow with rfl | ⟨hrow, -⟩
    · exact hitem
    · exact h.queue row hrow
  queueOrder := h.queueOrder
  leases := by
    intro row hrow
    rcases mem_replaceRow hs.leaseIds hrow with rfl | ⟨hrow, -⟩
    · exact hlease
    · exact h.leases row hrow

end CodexRouter.Scheduler
