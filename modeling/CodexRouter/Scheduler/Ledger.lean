import CodexRouter.Js.Table
import Mathlib.Logic.Relation

/-!
# Ledger of leases

What the scheduler keeps, without times and texts: for every run how it stands and how often it
was tried, and every lease that was ever given. Runs and leases are named by anything.
-/

open Js

set_option linter.unusedSectionVars false

namespace CodexRouter.Scheduler

inductive LeaseStatus where
  | active | released | expired | failed
  deriving DecidableEq

inductive QueueItemStatus where
  | queued | leased | completed | failed | exhausted
  deriving DecidableEq

/-- A run that stands so is never leased again. -/
def QueueItemStatus.final : QueueItemStatus → Bool
  | completed | exhausted => true
  | _ => false

variable {κ ι : Type}

structure Entry (κ ι : Type) where
  run : κ
  status : QueueItemStatus
  attempts : ℕ
  maxAttempts : ℕ
  last : Option ι

structure Grant (κ ι : Type) where
  id : ι
  run : κ
  status : LeaseStatus

structure Ledger (κ ι : Type) where
  entries : List (Entry κ ι)
  grants : List (Grant κ ι)

/-- Where a run stands when its lease ends without a result. -/
def Entry.retry (e : Entry κ ι) : QueueItemStatus :=
  if e.maxAttempts ≤ e.attempts then .exhausted else .queued

namespace Ledger

def empty : Ledger κ ι := ⟨[], []⟩

variable [DecidableEq κ] [DecidableEq ι]

/-- How often the run was leased. -/
def issued (L : Ledger κ ι) (run : κ) : ℕ := L.grants.countP fun g => g.run = run

/-- How many leases of the run have the status. -/
def withStatus (L : Ledger κ ι) (status : LeaseStatus) (run : κ) : ℕ :=
  L.grants.countP fun g => g.run = run && g.status = status

/-- What one step can do: queue a run, lease a queued run, or end an active lease. -/
inductive Move (L : Ledger κ ι) : Ledger κ ι → Prop
  | enqueue (run : κ) (maxAttempts : ℕ) (hmax : 1 ≤ maxAttempts)
      (hnew : run ∉ L.entries.map Entry.run) :
      Move L { L with entries := L.entries ++ [⟨run, .queued, 0, maxAttempts, none⟩] }
  | issue (e : Entry κ ι) (id : ι) (he : e ∈ L.entries) (hqueued : e.status = .queued)
      (hfresh : id ∉ L.grants.map Grant.id) :
      Move L
        ⟨replaceRow Entry.run ⟨e.run, .leased, e.attempts + 1, e.maxAttempts, some id⟩ L.entries,
          L.grants ++ [⟨id, e.run, .active⟩]⟩
  | finish (e : Entry κ ι) (g : Grant κ ι) (he : e ∈ L.entries) (hg : g ∈ L.grants)
      (hrun : g.run = e.run) (hactive : g.status = .active) :
      Move L
        ⟨replaceRow Entry.run ⟨e.run, .completed, e.attempts, e.maxAttempts, e.last⟩ L.entries,
          replaceRow Grant.id ⟨g.id, g.run, .released⟩ L.grants⟩
  | giveUp (e : Entry κ ι) (g : Grant κ ι) (status : LeaseStatus) (he : e ∈ L.entries)
      (hg : g ∈ L.grants) (hrun : g.run = e.run) (hactive : g.status = .active)
      (hstatus : status = .expired ∨ status = .failed) :
      Move L
        ⟨replaceRow Entry.run ⟨e.run, e.retry, e.attempts, e.maxAttempts, e.last⟩ L.entries,
          replaceRow Grant.id ⟨g.id, g.run, status⟩ L.grants⟩

/-! ## Soundness -/

/-- A leased run has one active lease, its last; no other run has one. -/
structure EntrySound (L : Ledger κ ι) (e : Entry κ ι) : Prop where
  attempts : e.attempts = L.issued e.run
  bounded : e.attempts ≤ e.maxAttempts
  retriable : e.status = .queued → e.attempts < e.maxAttempts
  leased : e.status = .leased → L.withStatus .active e.run = 1 ∧
    ∃ g ∈ L.grants, g.run = e.run ∧ g.status = .active ∧ e.last = some g.id
  idle : e.status ≠ .leased → L.withStatus .active e.run = 0
  completed : e.status = .completed → L.withStatus .released e.run = 1
  unfinished : e.status ≠ .completed → L.withStatus .released e.run = 0

structure Sound (L : Ledger κ ι) : Prop where
  runs : (L.entries.map Entry.run).Nodup
  ids : (L.grants.map Grant.id).Nodup
  known : ∀ g ∈ L.grants, g.run ∈ L.entries.map Entry.run
  entries : ∀ e ∈ L.entries, L.EntrySound e

lemma sound_empty : Sound (empty : Ledger κ ι) where
  runs := List.nodup_nil
  ids := List.nodup_nil
  known := by simp [empty]
  entries := by simp [empty]

section

variable {L L' : Ledger κ ι}

/-- A run of which no lease changes stands as it stood. -/
lemma EntrySound.unchanged {e : Entry κ ι} (h : L.EntrySound e)
    (hissued : L'.issued e.run = L.issued e.run)
    (hstatus : ∀ status, L'.withStatus status e.run = L.withStatus status e.run)
    (hgrants : ∀ g ∈ L.grants, g.run = e.run → g ∈ L'.grants) : L'.EntrySound e where
  attempts := h.attempts.trans hissued.symm
  bounded := h.bounded
  retriable := h.retriable
  leased := by
    intro hleased
    obtain ⟨hone, g, hg, hrun, hactive, hlast⟩ := h.leased hleased
    exact ⟨(hstatus .active).trans hone, g, hgrants g hg hrun, hrun, hactive, hlast⟩
  idle := fun hidle => (hstatus .active).trans (h.idle hidle)
  completed := fun hcompleted => (hstatus .released).trans (h.completed hcompleted)
  unfinished := fun hopen => (hstatus .released).trans (h.unfinished hopen)

lemma issued_append (g : Grant κ ι) (run : κ) (entries : List (Entry κ ι)) :
    Ledger.issued ⟨entries, L.grants ++ [g]⟩ run =
      L.issued run + (decide (g.run = run)).toNat := by
  unfold issued
  rw [List.countP_append, List.countP_singleton]
  cases decide (g.run = run) <;> rfl

lemma withStatus_append (g : Grant κ ι) (status : LeaseStatus) (run : κ)
    (entries : List (Entry κ ι)) :
    Ledger.withStatus ⟨entries, L.grants ++ [g]⟩ status run =
      L.withStatus status run + (g.run = run && g.status = status).toNat := by
  unfold withStatus
  rw [List.countP_append, List.countP_singleton]
  cases (decide (g.run = run) && decide (g.status = status)) <;> rfl

lemma issued_replace (hids : (L.grants.map Grant.id).Nodup) {g : Grant κ ι} (hg : g ∈ L.grants)
    (status : LeaseStatus) (run : κ) (entries : List (Entry κ ι)) :
    Ledger.issued ⟨entries, replaceRow Grant.id ⟨g.id, g.run, status⟩ L.grants⟩ run =
      L.issued run := by
  let row : Grant κ ι := ⟨g.id, g.run, status⟩
  have hcount := countP_replaceRow (fun q : Grant κ ι => q.run = run) row hids hg rfl
  exact Nat.add_right_cancel hcount

lemma withStatus_replace (hids : (L.grants.map Grant.id).Nodup) {g : Grant κ ι}
    (hg : g ∈ L.grants) (status status' : LeaseStatus) (run : κ) (entries : List (Entry κ ι)) :
    Ledger.withStatus ⟨entries, replaceRow Grant.id ⟨g.id, g.run, status⟩ L.grants⟩ status' run +
        (g.run = run && g.status = status').toNat =
      L.withStatus status' run + (g.run = run && status = status').toNat :=
  countP_replaceRow (fun q : Grant κ ι => q.run = run && q.status = status') _ hids hg rfl

/-- Other leases stay in the list. -/
lemma mem_replace (hids : (L.grants.map Grant.id).Nodup) {g q : Grant κ ι}
    (status : LeaseStatus) (hq : q ∈ L.grants) (hne : q.id ≠ g.id) :
    q ∈ replaceRow Grant.id ⟨g.id, g.run, status⟩ L.grants := by
  rw [replaceRow_eq_map hids]
  exact List.mem_map.mpr ⟨q, hq, if_neg hne⟩

/-- Two leases of one id are one lease. -/
lemma eq_of_id (hids : (L.grants.map Grant.id).Nodup) {g q : Grant κ ι} (hg : g ∈ L.grants)
    (hq : q ∈ L.grants) (h : g.id = q.id) : g = q := by
  have hfind := findRow_of_mem hids hg
  rw [h, findRow_of_mem hids hq] at hfind
  exact (Option.some.inj hfind).symm

/-- A new run has no leases. -/
lemma Sound.enqueue (h : Sound L) {run : κ} {maxAttempts : ℕ} (hmax : 1 ≤ maxAttempts)
    (hnew : run ∉ L.entries.map Entry.run) :
    Sound { L with entries := L.entries ++ [⟨run, .queued, 0, maxAttempts, none⟩] } := by
  have hnone : ∀ g ∈ L.grants, g.run ≠ run := fun g hg he => hnew (he ▸ h.known g hg)
  have hissued : L.issued run = 0 := by
    unfold issued
    rw [List.countP_eq_zero]
    intro g hg
    simpa using hnone g hg
  have hstatus : ∀ status, L.withStatus status run = 0 := by
    intro status
    unfold withStatus
    rw [List.countP_eq_zero]
    intro g hg
    simp [hnone g hg]
  refine ⟨?_, h.ids, ?_, ?_⟩
  · rw [List.map_append, List.nodup_append]
    refine ⟨h.runs, List.nodup_singleton _, ?_⟩
    intro a ha b hb hab
    rw [List.map_singleton, List.mem_singleton] at hb
    rw [hab, hb] at ha
    exact hnew ha
  · intro g hg
    rw [List.map_append]
    exact List.mem_append_left _ (h.known g hg)
  · intro e he
    rcases List.mem_append.mp he with he | he
    · exact (h.entries e he).unchanged rfl (fun _ => rfl) fun g hg _ => hg
    · rw [List.mem_singleton] at he
      subst he
      exact ⟨hissued.symm, Nat.zero_le _, fun _ => hmax, nofun, fun _ => hstatus _, nofun,
        fun _ => hstatus _⟩

/-- A queued run gets a lease that no run had. -/
lemma Sound.issue (h : Sound L) {e : Entry κ ι} {id : ι} (he : e ∈ L.entries)
    (hqueued : e.status = .queued) (hfresh : id ∉ L.grants.map Grant.id) :
    Sound (⟨replaceRow Entry.run ⟨e.run, .leased, e.attempts + 1, e.maxAttempts, some id⟩
      L.entries, L.grants ++ [⟨id, e.run, .active⟩]⟩ : Ledger κ ι) := by
  have hsound := h.entries e he
  refine ⟨?_, ?_, ?_, ?_⟩
  · rw [map_replaceRow]
    exact h.runs
  · rw [List.map_append, List.nodup_append]
    refine ⟨h.ids, List.nodup_singleton _, ?_⟩
    intro a ha b hb hab
    rw [List.map_singleton, List.mem_singleton] at hb
    rw [hab, hb] at ha
    exact hfresh ha
  · intro g hg
    rw [map_replaceRow]
    rcases List.mem_append.mp hg with hg | hg
    · exact h.known g hg
    · rw [List.mem_singleton] at hg
      exact hg ▸ List.mem_map_of_mem he
  · intro e' he'
    rcases mem_replaceRow h.runs he' with rfl | ⟨he', hne⟩
    · have hidle := hsound.idle (by rw [hqueued]; decide)
      have hopen := hsound.unfinished (by rw [hqueued]; decide)
      have hattempts := hsound.attempts
      have hbound := hsound.retriable hqueued
      constructor
      · rw [issued_append]
        simp [hattempts]
      · exact hbound
      · nofun
      · intro _
        rw [withStatus_append, hidle]
        exact ⟨by simp, _, List.mem_append_right _ (List.mem_singleton_self _), rfl, rfl, rfl⟩
      · exact fun hidle => absurd rfl hidle
      · nofun
      · intro _
        rw [withStatus_append, hopen]
        simp
    · have hother : ¬ e.run = e'.run := fun heq => hne heq.symm
      apply (h.entries e' he').unchanged
      · rw [issued_append]
        simp [hother]
      · intro status
        rw [withStatus_append]
        simp [hother]
      · exact fun g hg _ => List.mem_append_left _ hg

/-- The run of an active lease is leased. -/
lemma Sound.leased_of_active (h : Sound L) {e : Entry κ ι} {g : Grant κ ι} (he : e ∈ L.entries)
    (hg : g ∈ L.grants) (hrun : g.run = e.run) (hactive : g.status = .active) :
    e.status = .leased := by
  by_contra hnot
  have hzero := (h.entries e he).idle hnot
  unfold withStatus at hzero
  rw [List.countP_eq_zero] at hzero
  exact hzero g hg (by simp [hrun, hactive])

/-- An active lease ends, and the run with it stands where it may stand. -/
lemma Sound.close (h : Sound L) {e : Entry κ ι} {g : Grant κ ι} {status : LeaseStatus}
    {next : QueueItemStatus} (he : e ∈ L.entries) (hg : g ∈ L.grants) (hrun : g.run = e.run)
    (hactive : g.status = .active) (hstatus : status ≠ .active) (hleased : next ≠ .leased)
    (hqueued : next = .queued → e.attempts < e.maxAttempts)
    (hcompleted : next = .completed ↔ status = .released) :
    Sound (⟨replaceRow Entry.run ⟨e.run, next, e.attempts, e.maxAttempts, e.last⟩ L.entries,
      replaceRow Grant.id ⟨g.id, g.run, status⟩ L.grants⟩ : Ledger κ ι) := by
  have hsound := h.entries e he
  have hisLeased := h.leased_of_active he hg hrun hactive
  have hone := (hsound.leased hisLeased).1
  have hnone := hsound.unfinished (by rw [hisLeased]; decide)
  refine ⟨?_, ?_, ?_, ?_⟩
  · rw [map_replaceRow]
    exact h.runs
  · rw [map_replaceRow]
    exact h.ids
  · intro q hq
    rw [map_replaceRow]
    rcases mem_replaceRow h.ids hq with rfl | ⟨hq, -⟩
    · exact hrun ▸ List.mem_map_of_mem he
    · exact h.known q hq
  · intro e' he'
    rcases mem_replaceRow h.runs he' with rfl | ⟨he', hne⟩
    · have hact := withStatus_replace h.ids hg status .active e.run
        (replaceRow Entry.run ⟨e.run, next, e.attempts, e.maxAttempts, e.last⟩ L.entries)
      have hrel := withStatus_replace h.ids hg status .released e.run
        (replaceRow Entry.run ⟨e.run, next, e.attempts, e.maxAttempts, e.last⟩ L.entries)
      simp [hrun, hactive, hstatus, hone] at hact
      simp only [hrun, hactive, hnone] at hrel
      refine ⟨?_, hsound.bounded, hqueued, fun hl => absurd hl hleased, fun _ => ?_, ?_, ?_⟩
      · rw [issued_replace h.ids hg]
        exact hsound.attempts
      · rw [hrun]
        exact hact
      · intro hc
        rw [hcompleted.mp hc] at hrel ⊢
        simpa [hrun] using hrel
      · intro hc
        have hne : status ≠ .released := fun hs => hc (hcompleted.mpr hs)
        simpa [hrun, hne] using hrel
    · have hother : ¬ g.run = e'.run := fun heq => hne (heq.symm.trans hrun)
      apply (h.entries e' he').unchanged
      · exact issued_replace h.ids hg _ _ _
      · intro status'
        have hcount := withStatus_replace h.ids hg status status' e'.run
          (replaceRow Entry.run ⟨e.run, next, e.attempts, e.maxAttempts, e.last⟩ L.entries)
        simpa [hother] using hcount
      · intro q hq hqrun
        apply mem_replace h.ids status hq
        intro hid
        exact hother (eq_of_id h.ids hg hq hid.symm ▸ hqrun)

theorem Move.sound (h : Move L L') (hL : Sound L) : Sound L' := by
  cases h with
  | enqueue run maxAttempts hmax hnew => exact hL.enqueue hmax hnew
  | issue e id he hqueued hfresh => exact hL.issue he hqueued hfresh
  | finish e g he hg hrun hactive =>
    exact hL.close he hg hrun hactive (by decide) (by decide) nofun (by decide)
  | giveUp e g status he hg hrun hactive hstatus =>
    unfold Entry.retry
    have hnot : status ≠ .active ∧ status ≠ .released := by
      rcases hstatus with rfl | rfl <;> decide
    split
    · exact hL.close he hg hrun hactive hnot.1 (by decide) nofun (by simp [hnot.2])
    · rename_i hlt
      exact hL.close he hg hrun hactive hnot.1 (by decide) (fun _ => by omega) (by simp [hnot.2])

/-! ## Runs of moves -/

/-- What a step keeps: every run, every lease, and the whole entry of a run that has ended. -/
structure Evolves (L L' : Ledger κ ι) : Prop where
  entries : ∀ e ∈ L.entries, ∃ e' ∈ L'.entries, e'.run = e.run ∧
    e'.maxAttempts = e.maxAttempts ∧ (e.status.final = true → e' = e)
  grants : L.grants.map (fun g => (g.id, g.run)) <+: L'.grants.map fun g => (g.id, g.run)

lemma Evolves.refl (L : Ledger κ ι) : Evolves L L where
  entries e he := ⟨e, he, rfl, rfl, fun _ => rfl⟩
  grants := List.prefix_refl _

lemma Evolves.trans {L'' : Ledger κ ι} (h : Evolves L L') (h' : Evolves L' L'') :
    Evolves L L'' where
  entries := by
    intro e he
    obtain ⟨e', he', hrun, hmax, hkept⟩ := h.entries e he
    obtain ⟨e'', he'', hrun', hmax', hkept'⟩ := h'.entries e' he'
    refine ⟨e'', he'', hrun'.trans hrun, hmax'.trans hmax, fun hfinal => ?_⟩
    rw [hkept' (hkept hfinal ▸ hfinal), hkept hfinal]
  grants := h.grants.trans h'.grants

/-- A row of another run is kept, the row of the run is replaced. -/
lemma evolves_replace (hruns : (L.entries.map Entry.run).Nodup) {e new : Entry κ ι}
    (he : e ∈ L.entries) (hrun : new.run = e.run) (hmax : new.maxAttempts = e.maxAttempts)
    (hfinal : e.status.final = false) : ∀ r ∈ L.entries,
      ∃ r' ∈ replaceRow Entry.run new L.entries, r'.run = r.run ∧
        r'.maxAttempts = r.maxAttempts ∧ (r.status.final = true → r' = r) := by
  intro r hr
  rw [replaceRow_eq_map hruns]
  refine ⟨_, List.mem_map_of_mem hr, ?_⟩
  split
  · rename_i hsame
    have hre : r = e := by
      have hfind := findRow_of_mem hruns hr
      rw [hsame.trans hrun, findRow_of_mem hruns he] at hfind
      exact (Option.some.inj hfind).symm
    subst hre
    exact ⟨hrun, hmax, fun h => by rw [hfinal] at h; cases h⟩
  · exact ⟨rfl, rfl, fun _ => rfl⟩

lemma map_replace (hids : (L.grants.map Grant.id).Nodup) {g : Grant κ ι} (hg : g ∈ L.grants)
    (status : LeaseStatus) :
    (replaceRow Grant.id ⟨g.id, g.run, status⟩ L.grants).map (fun q => (q.id, q.run)) =
      L.grants.map fun q => (q.id, q.run) := by
  rw [replaceRow_eq_map hids, List.map_map]
  apply List.map_congr_left
  intro q hq
  dsimp only [Function.comp_apply]
  split
  · rename_i hid
    rw [eq_of_id hids hq hg hid]
  · rfl

theorem Move.evolves (h : Move L L') (hL : Sound L) : Evolves L L' := by
  cases h with
  | enqueue run maxAttempts hmax hnew =>
    refine ⟨fun e he => ?_, List.prefix_refl _⟩
    exact ⟨e, List.mem_append_left _ he, rfl, rfl, fun _ => rfl⟩
  | issue e id he hqueued hfresh =>
    refine ⟨evolves_replace hL.runs he rfl rfl (by rw [hqueued]; rfl), ?_⟩
    rw [List.map_append]
    exact List.prefix_append _ _
  | finish e g he hg hrun hactive =>
    have hleased := hL.leased_of_active he hg hrun hactive
    refine ⟨evolves_replace hL.runs he rfl rfl (by rw [hleased]; rfl), ?_⟩
    exact (map_replace hL.ids hg _).symm ▸ List.prefix_refl _
  | giveUp e g status he hg hrun hactive hstatus =>
    have hleased := hL.leased_of_active he hg hrun hactive
    refine ⟨evolves_replace hL.runs he rfl rfl (by rw [hleased]; rfl), ?_⟩
    exact (map_replace hL.ids hg _).symm ▸ List.prefix_refl _

/-- Any number of steps. -/
def Moves : Ledger κ ι → Ledger κ ι → Prop := Relation.ReflTransGen Move

theorem Moves.sound (h : Moves L L') (hL : Sound L) : Sound L' := by
  induction h with
  | refl => exact hL
  | tail _ hlast ih => exact hlast.sound ih

theorem Moves.evolves (h : Moves L L') (hL : Sound L) : Evolves L L' := by
  induction h with
  | refl => exact Evolves.refl L
  | tail hfirst hlast ih => exact ih.trans (hlast.evolves (Moves.sound hfirst hL))

end

end Ledger

end CodexRouter.Scheduler
