import CodexRouter.Js.Map
import CodexRouter.Telemetry.Sinks
import Mathlib.Algebra.BigOperators.Group.List.Lemmas
import Mathlib.Algebra.Order.BigOperators.Group.List
import Mathlib.Algebra.Order.Ring.Nat
import Mathlib.Data.List.Sort

/-!
# Delivery metrics

The recording collector keeps its counters twice, per sink and in total. What it was told decides
them, in whatever order the reports of several record calls arrive.
-/

open Js Runs

namespace CodexRouter.Telemetry

/-! ## The recording collector -/

structure DeliveryMetricsTotals where
  events : ℕ
  targetedSinks : ℕ
  attempts : ℕ
  successes : ℕ
  failures : ℕ
  timeouts : ℕ
  retries : ℕ
  deriving DecidableEq

structure DeliverySinkMetrics where
  sinkIndex : ℕ
  sinkLabel : Option Str
  targetedEvents : ℕ
  attempts : ℕ
  successes : ℕ
  failures : ℕ
  timeouts : ℕ
  retries : ℕ
  lastAttemptAt : Option Str
  lastSuccessAt : Option Str
  lastFailureAt : Option Str
  lastError : Option Str
  deriving DecidableEq

structure MetricsCollector where
  totals : DeliveryMetricsTotals
  sinks : Map ℕ DeliverySinkMetrics

def createdSinkMetrics (sinkIndex : ℕ) (sinkLabel : Option Str) : DeliverySinkMetrics where
  sinkIndex := sinkIndex
  sinkLabel := sinkLabel
  targetedEvents := 0
  attempts := 0
  successes := 0
  failures := 0
  timeouts := 0
  retries := 0
  lastAttemptAt := none
  lastSuccessAt := none
  lastFailureAt := none
  lastError := none

/-- The metrics of a sink; the first label that is given stays. -/
def ensureSinkMetrics (sinks : Map ℕ DeliverySinkMetrics) (sinkIndex : ℕ)
    (sinkLabel : Option Str) : DeliverySinkMetrics :=
  match sinks.get? sinkIndex with
  | some existing => { existing with sinkLabel := existing.sinkLabel.or sinkLabel }
  | none => createdSinkMetrics sinkIndex sinkLabel

namespace MetricsCollector

def empty : MetricsCollector := ⟨⟨0, 0, 0, 0, 0, 0, 0⟩, Map.empty⟩

/-- The metrics of a sink, created where they are missing, with a change. -/
def changeSink (s : MetricsCollector) (sinkIndex : ℕ) (sinkLabel : Option Str)
    (change : DeliverySinkMetrics → DeliverySinkMetrics) : Map ℕ DeliverySinkMetrics :=
  s.sinks.set sinkIndex (change (ensureSinkMetrics s.sinks sinkIndex sinkLabel))

def recordEventDispatch (s : MetricsCollector) (sinkCount : ℕ) : MetricsCollector :=
  { s with totals := { s.totals with
      events := s.totals.events + 1
      targetedSinks := s.totals.targetedSinks + sinkCount } }

/-- The first attempt counts its event as targeted, every later one is a retry. -/
def recordSinkAttempt (s : MetricsCollector) (now : Str) (sinkIndex : ℕ) (sinkLabel : Option Str)
    (attempt : ℕ) : MetricsCollector where
  totals := { s.totals with
    attempts := s.totals.attempts + 1
    retries := if attempt = 1 then s.totals.retries else s.totals.retries + 1 }
  sinks := s.changeSink sinkIndex sinkLabel fun sink => { sink with
    attempts := sink.attempts + 1
    lastAttemptAt := some now
    targetedEvents := if attempt = 1 then sink.targetedEvents + 1 else sink.targetedEvents
    retries := if attempt = 1 then sink.retries else sink.retries + 1 }

def recordSinkSuccess (s : MetricsCollector) (now : Str) (sinkIndex : ℕ)
    (sinkLabel : Option Str) : MetricsCollector where
  totals := { s.totals with successes := s.totals.successes + 1 }
  sinks := s.changeSink sinkIndex sinkLabel fun sink => { sink with
    successes := sink.successes + 1
    lastSuccessAt := some now }

def recordSinkFailure (s : MetricsCollector) (now : Str) (sinkIndex : ℕ) (sinkLabel : Option Str)
    (timedOut : Bool) (errorMessage : Str) : MetricsCollector where
  totals := { s.totals with
    failures := s.totals.failures + 1
    timeouts := if timedOut then s.totals.timeouts + 1 else s.totals.timeouts }
  sinks := s.changeSink sinkIndex sinkLabel fun sink => { sink with
    failures := sink.failures + 1
    lastFailureAt := some now
    lastError := some errorMessage
    timeouts := if timedOut then sink.timeouts + 1 else sink.timeouts }

/-- The collector hears a report at a time of its clock. -/
def hear (s : MetricsCollector) : Str × Report → MetricsCollector
  | (_, .dispatch sinkCount) => s.recordEventDispatch sinkCount
  | (now, .attempt sinkIndex sinkLabel attempt) => s.recordSinkAttempt now sinkIndex sinkLabel attempt
  | (now, .success sinkIndex sinkLabel) => s.recordSinkSuccess now sinkIndex sinkLabel
  | (now, .failure sinkIndex sinkLabel timedOut errorMessage) =>
    s.recordSinkFailure now sinkIndex sinkLabel timedOut errorMessage

end MetricsCollector

structure DeliveryMetricsSnapshot where
  totals : DeliveryMetricsTotals
  sinks : List DeliverySinkMetrics

def MetricsCollector.loadSnapshot (s : MetricsCollector) : DeliveryMetricsSnapshot where
  totals := s.totals
  sinks := s.sinks.values.mergeSort fun left right => left.sinkIndex ≤ right.sinkIndex

/-- The collector behind all it heard. -/
def collect (heard : List (Str × Report)) : MetricsCollector :=
  heard.foldl MetricsCollector.hear .empty

/-- The sum of a counter over all sinks. -/
def overSinks (counter : DeliverySinkMetrics → ℕ) (sinks : List DeliverySinkMetrics) : ℕ :=
  (sinks.map counter).sum

/-- The counters agree with each other. -/
structure Consistent (s : DeliveryMetricsSnapshot) : Prop where
  attempts_sum : s.totals.attempts = overSinks (·.attempts) s.sinks
  successes_sum : s.totals.successes = overSinks (·.successes) s.sinks
  failures_sum : s.totals.failures = overSinks (·.failures) s.sinks
  timeouts_sum : s.totals.timeouts = overSinks (·.timeouts) s.sinks
  retries_sum : s.totals.retries = overSinks (·.retries) s.sinks
  attempts : s.totals.attempts = s.totals.successes + s.totals.failures ∧
    ∀ sink ∈ s.sinks, sink.attempts = sink.successes + sink.failures
  retries : (s.totals.retries : ℤ) = s.totals.attempts - overSinks (·.targetedEvents) s.sinks ∧
    ∀ sink ∈ s.sinks, (sink.retries : ℤ) = sink.attempts - sink.targetedEvents
  timeouts : s.totals.timeouts ≤ s.totals.failures ∧
    ∀ sink ∈ s.sinks, sink.timeouts ≤ sink.failures

/-! ## What the collector was told -/

namespace Report

def sinkIndex? : Report → Option ℕ
  | dispatch _ => none
  | attempt sinkIndex _ _ => some sinkIndex
  | success sinkIndex _ => some sinkIndex
  | failure sinkIndex _ _ _ => some sinkIndex

def sinkLabel : Report → Option Str
  | dispatch _ => none
  | attempt _ label _ => label
  | success _ label => label
  | failure _ label _ _ => label

def attempted : Report → ℕ
  | attempt _ _ _ => 1
  | _ => 0

def targeted : Report → ℕ
  | attempt _ _ number => if number = 1 then 1 else 0
  | _ => 0

def retried : Report → ℕ
  | attempt _ _ number => if number = 1 then 0 else 1
  | _ => 0

def succeeded : Report → ℕ
  | success _ _ => 1
  | _ => 0

def failed : Report → ℕ
  | failure _ _ _ _ => 1
  | _ => 0

def timedOut : Report → ℕ
  | failure _ _ late _ => if late then 1 else 0
  | _ => 0

/-- What the report changes in the metrics of its sink. -/
def change (now : Str) : Report → DeliverySinkMetrics → DeliverySinkMetrics
  | dispatch _, sink => sink
  | attempt _ _ number, sink => { sink with
      attempts := sink.attempts + 1
      lastAttemptAt := some now
      targetedEvents := if number = 1 then sink.targetedEvents + 1 else sink.targetedEvents
      retries := if number = 1 then sink.retries else sink.retries + 1 }
  | success _ _, sink => { sink with
      successes := sink.successes + 1
      lastSuccessAt := some now }
  | failure _ _ late errorMessage, sink => { sink with
      failures := sink.failures + 1
      lastFailureAt := some now
      lastError := some errorMessage
      timeouts := if late then sink.timeouts + 1 else sink.timeouts }

end Report

/-- What reports of a sink add up to. -/
def gained (gain : Report → ℕ) (sinkIndex : ℕ) (told : List Report) : ℕ :=
  (told.map fun report => if report.sinkIndex? = some sinkIndex then gain report else 0).sum

/-- The metrics of a sink; all counters are zero where it was never heard of. -/
def MetricsCollector.sinkAt (s : MetricsCollector) (sinkIndex : ℕ) : DeliverySinkMetrics :=
  (s.sinks.get? sinkIndex).getD (createdSinkMetrics sinkIndex none)

/-- A counter starts at zero and does not look at the label. -/
structure IsCounter (counter : DeliverySinkMetrics → ℕ) : Prop where
  created : ∀ sinkIndex sinkLabel, counter (createdSinkMetrics sinkIndex sinkLabel) = 0
  labelled : ∀ sink sinkLabel, counter { sink with sinkLabel } = counter sink

namespace MetricsCollector

variable {s : MetricsCollector} {counter : DeliverySinkMetrics → ℕ}
  {change : DeliverySinkMetrics → DeliverySinkMetrics} {n : ℕ}

lemma counter_ensure (hcounter : IsCounter counter) (sinkIndex : ℕ) (sinkLabel : Option Str) :
    counter (ensureSinkMetrics s.sinks sinkIndex sinkLabel) = counter (s.sinkAt sinkIndex) := by
  unfold ensureSinkMetrics sinkAt
  cases s.sinks.get? sinkIndex with
  | none => rw [hcounter.created, Option.getD_none, hcounter.created]
  | some existing => rw [hcounter.labelled, Option.getD_some]

lemma sum_assign (counter : DeliverySinkMetrics → ℕ) (k : ℕ) (v : DeliverySinkMetrics)
    (l : List (ℕ × DeliverySinkMetrics)) :
    overSinks counter ((Map.assign k v l).map Prod.snd) + ((Map.find k l).map counter).getD 0 =
      overSinks counter (l.map Prod.snd) + counter v := by
  unfold overSinks
  induction l with
  | nil => simp [Map.assign, Map.find]
  | cons entry l ih =>
    unfold Map.assign Map.find
    by_cases h : entry.1 = k
    · rw [if_pos h, if_pos h]
      simp only [List.map_cons, List.sum_cons, Option.map_some, Option.getD_some]
      omega
    · rw [if_neg h, if_neg h]
      simp only [List.map_cons, List.sum_cons]
      omega

/-- A change that adds to the counter of one sink adds as much to the sum. -/
lemma overSinks_changeSink (hcounter : IsCounter counter)
    (hchange : ∀ sink, counter (change sink) = counter sink + n) (sinkIndex : ℕ)
    (sinkLabel : Option Str) :
    overSinks counter (s.changeSink sinkIndex sinkLabel change).values =
      overSinks counter s.sinks.values + n := by
  have hsum := sum_assign counter sinkIndex
    (change (ensureSinkMetrics s.sinks sinkIndex sinkLabel)) s.sinks.entries
  have hold : ((Map.find sinkIndex s.sinks.entries).map counter).getD 0 =
      counter (s.sinkAt sinkIndex) := by
    unfold sinkAt Map.get?
    cases Map.find sinkIndex s.sinks.entries with
    | none => exact (hcounter.created _ _).symm
    | some sink => rfl
  rw [hchange, counter_ensure hcounter, hold] at hsum
  show overSinks counter ((Map.assign _ _ s.sinks.entries).map Prod.snd) =
    overSinks counter (s.sinks.entries.map Prod.snd) + n
  omega

lemma counter_changeSink (hcounter : IsCounter counter)
    (hchange : ∀ sink, counter (change sink) = counter sink + n) (sinkIndex j : ℕ)
    (sinkLabel : Option Str) (totals : DeliveryMetricsTotals) :
    counter (sinkAt ⟨totals, s.changeSink sinkIndex sinkLabel change⟩ j) =
      counter (s.sinkAt j) + if sinkIndex = j then n else 0 := by
  unfold sinkAt changeSink
  dsimp only
  by_cases h : sinkIndex = j
  · subst h
    rw [Map.get?_set_self, if_pos rfl, Option.getD_some, hchange, counter_ensure hcounter]
    rfl
  · rw [Map.get?_set_of_ne _ (Ne.symm h), if_neg h, Nat.add_zero]

/-- A report changes the metrics of its sink, and no other's. -/
lemma hear_sinks (s : MetricsCollector) (now : Str) (report : Report) :
    (s.hear (now, report)).sinks = match report.sinkIndex? with
      | some sinkIndex => s.changeSink sinkIndex report.sinkLabel (report.change now)
      | none => s.sinks := by
  cases report <;> rfl

end MetricsCollector

/-- A counter that every report of its sink raises by a gain. -/
structure Counts (counter : DeliverySinkMetrics → ℕ) (gain : Report → ℕ) : Prop
    extends IsCounter counter where
  change : ∀ report now sink, counter (report.change now sink) = counter sink + gain report
  dispatch : ∀ report, report.sinkIndex? = none → gain report = 0

/-- A total that every report raises by a gain. -/
structure Totals (total : DeliveryMetricsTotals → ℕ) (gain : Report → ℕ) : Prop where
  empty : total MetricsCollector.empty.totals = 0
  hear : ∀ (s : MetricsCollector) now report,
    total (s.hear (now, report)).totals = total s.totals + gain report

section

variable {counter : DeliverySinkMetrics → ℕ} {total : DeliveryMetricsTotals → ℕ}
  {gain : Report → ℕ}

lemma collect_append (heard : List (Str × Report)) (report : Str × Report) :
    collect (heard ++ [report]) = (collect heard).hear report := by
  unfold collect
  rw [List.foldl_append]
  rfl

lemma Counts.sinkAt_hear (h : Counts counter gain) (s : MetricsCollector) (now : Str)
    (report : Report) (k : ℕ) : counter ((s.hear (now, report)).sinkAt k) =
      counter (s.sinkAt k) + if report.sinkIndex? = some k then gain report else 0 := by
  have hsinks := s.hear_sinks now report
  cases hindex : report.sinkIndex? with
  | none =>
    rw [hindex] at hsinks
    unfold MetricsCollector.sinkAt
    rw [hsinks, if_neg nofun, Nat.add_zero]
  | some sinkIndex =>
    rw [hindex] at hsinks
    have hchange := MetricsCollector.counter_changeSink (s := s) h.toIsCounter
      (fun sink => h.change report now sink) sinkIndex k report.sinkLabel s.totals
    unfold MetricsCollector.sinkAt at *
    rw [hsinks, hchange]
    simp only [Option.some.injEq]

lemma Counts.overSinks_hear (h : Counts counter gain) (s : MetricsCollector) (now : Str)
    (report : Report) : overSinks counter (s.hear (now, report)).sinks.values =
      overSinks counter s.sinks.values + gain report := by
  have hsinks := s.hear_sinks now report
  cases hindex : report.sinkIndex? with
  | none =>
    rw [hindex] at hsinks
    rw [hsinks, h.dispatch report hindex, Nat.add_zero]
  | some sinkIndex =>
    rw [hindex] at hsinks
    rw [hsinks]
    exact MetricsCollector.overSinks_changeSink h.toIsCounter
      (fun sink => h.change report now sink) sinkIndex report.sinkLabel

/-- A counter is what the reports of its sink add up to. -/
lemma Counts.sinkAt_collect (h : Counts counter gain) (heard : List (Str × Report)) (k : ℕ) :
    counter ((collect heard).sinkAt k) = gained gain k (heard.map Prod.snd) := by
  induction heard using List.reverseRecOn with
  | nil => exact h.created k none
  | append_singleton heard report ih =>
    rw [collect_append, h.sinkAt_hear, ih]
    unfold gained
    simp only [List.map_append, List.sum_append, List.map_cons, List.map_nil, List.sum_singleton]

/-- A total is the sum of its counter over the sinks. -/
lemma Totals.eq_overSinks (ht : Totals total gain) (hc : Counts counter gain)
    (heard : List (Str × Report)) :
    total (collect heard).totals = overSinks counter (collect heard).sinks.values := by
  induction heard using List.reverseRecOn with
  | nil => exact ht.empty
  | append_singleton heard report ih =>
    rw [collect_append, ht.hear, hc.overSinks_hear, ih]

end

lemma counts_attempts : Counts (·.attempts) Report.attempted :=
  ⟨⟨fun _ _ => rfl, fun _ _ => rfl⟩, fun report _ _ => by cases report <;> rfl,
    fun report h => by cases report <;> first | rfl | exact nomatch h⟩

lemma counts_targeted : Counts (·.targetedEvents) Report.targeted := by
  refine ⟨⟨fun _ _ => rfl, fun _ _ => rfl⟩, fun report now sink => ?_,
    fun report h => by cases report <;> first | rfl | exact nomatch h⟩
  cases report with
  | attempt sinkIndex sinkLabel number =>
    show (if number = 1 then _ else _) = _ + if number = 1 then 1 else 0
    split_ifs <;> rfl
  | _ => rfl

lemma counts_retries : Counts (·.retries) Report.retried := by
  refine ⟨⟨fun _ _ => rfl, fun _ _ => rfl⟩, fun report now sink => ?_,
    fun report h => by cases report <;> first | rfl | exact nomatch h⟩
  cases report with
  | attempt sinkIndex sinkLabel number =>
    show (if number = 1 then _ else _) = _ + if number = 1 then 0 else 1
    split_ifs <;> rfl
  | _ => rfl

lemma counts_successes : Counts (·.successes) Report.succeeded :=
  ⟨⟨fun _ _ => rfl, fun _ _ => rfl⟩, fun report _ _ => by cases report <;> rfl,
    fun report h => by cases report <;> first | rfl | exact nomatch h⟩

lemma counts_failures : Counts (·.failures) Report.failed :=
  ⟨⟨fun _ _ => rfl, fun _ _ => rfl⟩, fun report _ _ => by cases report <;> rfl,
    fun report h => by cases report <;> first | rfl | exact nomatch h⟩

lemma counts_timeouts : Counts (·.timeouts) Report.timedOut := by
  refine ⟨⟨fun _ _ => rfl, fun _ _ => rfl⟩, fun report now sink => ?_,
    fun report h => by cases report <;> first | rfl | exact nomatch h⟩
  cases report with
  | failure sinkIndex sinkLabel late message =>
    show (if late then _ else _) = _ + if late then 1 else 0
    split_ifs <;> rfl
  | _ => rfl

lemma totals_attempts : Totals (·.attempts) Report.attempted :=
  ⟨rfl, fun _ _ report => by cases report <;> rfl⟩

lemma totals_successes : Totals (·.successes) Report.succeeded :=
  ⟨rfl, fun _ _ report => by cases report <;> rfl⟩

lemma totals_failures : Totals (·.failures) Report.failed :=
  ⟨rfl, fun _ _ report => by cases report <;> rfl⟩

lemma totals_retries : Totals (·.retries) Report.retried := by
  refine ⟨rfl, fun s now report => ?_⟩
  cases report with
  | attempt sinkIndex sinkLabel number =>
    show (if number = 1 then _ else _) = _ + if number = 1 then 0 else 1
    split_ifs <;> rfl
  | _ => rfl

lemma totals_timeouts : Totals (·.timeouts) Report.timedOut := by
  refine ⟨rfl, fun s now report => ?_⟩
  cases report with
  | failure sinkIndex sinkLabel late message =>
    show (if late then _ else _) = _ + if late then 1 else 0
    split_ifs <;> rfl
  | _ => rfl

/-! ## Consistency -/

lemma gained_append (gain : Report → ℕ) (k : ℕ) (a b : List Report) :
    gained gain k (a ++ b) = gained gain k a + gained gain k b := by
  unfold gained
  rw [List.map_append, List.sum_append]

lemma gained_perm {gain : Report → ℕ} {k : ℕ} {a b : List Report} (h : a.Perm b) :
    gained gain k a = gained gain k b := (h.map _).sum_eq

/-- Every metrics record of the collector is that of some sink. -/
lemma exists_sinkAt {s : MetricsCollector} {sink : DeliverySinkMetrics} (h : sink ∈ s.sinks.values) :
    ∃ k, sink = s.sinkAt k := by
  obtain ⟨k, hk⟩ := Map.mem_values.mp h
  refine ⟨k, ?_⟩
  unfold MetricsCollector.sinkAt
  rw [hk, Option.getD_some]

lemma attempted_eq (k : ℕ) (told : List Report) : gained Report.attempted k told =
    gained Report.targeted k told + gained Report.retried k told := by
  unfold gained
  rw [← List.sum_map_add]
  congr 1
  apply List.map_congr_left
  intro report _
  cases report with
  | attempt sinkIndex sinkLabel number =>
    unfold Report.attempted Report.targeted Report.retried
    by_cases hnumber : number = 1 <;> simp [hnumber]
  | _ => simp [Report.attempted, Report.targeted, Report.retried]

lemma timedOut_le (k : ℕ) (told : List Report) :
    gained Report.timedOut k told ≤ gained Report.failed k told := by
  unfold gained
  apply List.sum_le_sum
  intro report _
  cases report with
  | failure sinkIndex sinkLabel late message =>
    unfold Report.timedOut Report.failed
    cases late <;> simp
  | _ => simp [Report.timedOut, Report.failed]

lemma overSinks_add {f g h : DeliverySinkMetrics → ℕ} {sinks : List DeliverySinkMetrics}
    (heq : ∀ sink ∈ sinks, f sink = g sink + h sink) :
    overSinks f sinks = overSinks g sinks + overSinks h sinks := by
  unfold overSinks
  rw [List.map_congr_left heq, List.sum_map_add]

lemma overSinks_le {f g : DeliverySinkMetrics → ℕ} {sinks : List DeliverySinkMetrics}
    (hle : ∀ sink ∈ sinks, f sink ≤ g sink) : overSinks f sinks ≤ overSinks g sinks :=
  List.sum_le_sum hle

lemma loadSnapshot_perm (s : MetricsCollector) : s.loadSnapshot.sinks.Perm s.sinks.values :=
  List.mergeSort_perm _ _

lemma overSinks_loadSnapshot (counter : DeliverySinkMetrics → ℕ) (s : MetricsCollector) :
    overSinks counter s.loadSnapshot.sinks = overSinks counter s.sinks.values :=
  ((loadSnapshot_perm s).map counter).sum_eq

/-- The counters agree exactly where every attempt of every sink was told of with its end. -/
lemma consistent_iff (heard : List (Str × Report)) : Consistent (collect heard).loadSnapshot ↔
    ∀ k, gained Report.attempted k (heard.map Prod.snd) =
      gained Report.succeeded k (heard.map Prod.snd) +
        gained Report.failed k (heard.map Prod.snd) := by
  have hattempts := counts_attempts.sinkAt_collect heard
  have hsuccesses := counts_successes.sinkAt_collect heard
  have hfailures := counts_failures.sinkAt_collect heard
  have hsink : ∀ sink ∈ (collect heard).sinks.values,
      sink.attempts = sink.targetedEvents + sink.retries ∧ sink.timeouts ≤ sink.failures := by
    intro sink hmem
    obtain ⟨k, rfl⟩ := exists_sinkAt hmem
    rw [hattempts, counts_targeted.sinkAt_collect, counts_retries.sinkAt_collect,
      counts_timeouts.sinkAt_collect, hfailures]
    exact ⟨attempted_eq k _, timedOut_le k _⟩
  constructor
  · intro hconsistent k
    rw [← hattempts, ← hsuccesses, ← hfailures]
    unfold MetricsCollector.sinkAt
    cases hk : (collect heard).sinks.get? k with
    | none => rfl
    | some sink =>
      apply hconsistent.attempts.2
      exact (loadSnapshot_perm _).mem_iff.mpr (Map.mem_values.mpr ⟨k, hk⟩)
  · intro hall
    have hended : ∀ sink ∈ (collect heard).sinks.values,
        sink.attempts = sink.successes + sink.failures := by
      intro sink hmem
      obtain ⟨k, rfl⟩ := exists_sinkAt hmem
      rw [hattempts, hsuccesses, hfailures]
      exact hall k
    have hattemptsTotal := totals_attempts.eq_overSinks counts_attempts heard
    have hsuccessesTotal := totals_successes.eq_overSinks counts_successes heard
    have hfailuresTotal := totals_failures.eq_overSinks counts_failures heard
    have hretriesTotal := totals_retries.eq_overSinks counts_retries heard
    have htimeoutsTotal := totals_timeouts.eq_overSinks counts_timeouts heard
    have hretries : overSinks (·.attempts) (collect heard).sinks.values =
        overSinks (·.targetedEvents) (collect heard).sinks.values +
          overSinks (·.retries) (collect heard).sinks.values :=
      overSinks_add fun sink hmem => (hsink sink hmem).1
    have hends : overSinks (·.attempts) (collect heard).sinks.values =
        overSinks (·.successes) (collect heard).sinks.values +
          overSinks (·.failures) (collect heard).sinks.values := overSinks_add hended
    have htimeouts : overSinks (·.timeouts) (collect heard).sinks.values ≤
        overSinks (·.failures) (collect heard).sinks.values :=
      overSinks_le fun sink hmem => (hsink sink hmem).2
    have hmem : ∀ sink ∈ (collect heard).loadSnapshot.sinks,
        sink ∈ (collect heard).sinks.values :=
      fun sink h => (loadSnapshot_perm _).mem_iff.mp h
    refine ⟨?_, ?_, ?_, ?_, ?_, ⟨?_, fun sink h => hended sink (hmem sink h)⟩,
      ⟨?_, fun sink h => ?_⟩, ⟨?_, fun sink h => (hsink sink (hmem sink h)).2⟩⟩
    · rw [overSinks_loadSnapshot]
      exact hattemptsTotal
    · rw [overSinks_loadSnapshot]
      exact hsuccessesTotal
    · rw [overSinks_loadSnapshot]
      exact hfailuresTotal
    · rw [overSinks_loadSnapshot]
      exact htimeoutsTotal
    · rw [overSinks_loadSnapshot]
      exact hretriesTotal
    · show (collect heard).totals.attempts =
        (collect heard).totals.successes + (collect heard).totals.failures
      omega
    · rw [overSinks_loadSnapshot]
      show ((collect heard).totals.retries : ℤ) = (collect heard).totals.attempts - _
      omega
    · have hone := (hsink sink (hmem sink h)).1
      omega
    · show (collect heard).totals.timeouts ≤ (collect heard).totals.failures
      omega

/-! ## What a record call tells -/

def Invocation.isUnreadable (invocation : Invocation) : Bool :=
  match invocation.outcome with
  | .error .unreadable => true
  | _ => false

/-- The invocations of a sink whose error cannot be read. -/
def unread (sinkIndex : ℕ) (made : List Invocation) : ℕ :=
  made.countP fun invocation => invocation.sinkIndex = sinkIndex && invocation.isUnreadable

/-- Every attempt is told of with its end, or its error cannot be read. -/
def Balanced (steps : List (Step E)) : Prop :=
  ∀ k, gained Report.attempted k (reports steps) = gained Report.succeeded k (reports steps) +
    gained Report.failed k (reports steps) + unread k (invocations steps)

variable {E : Type}

lemma Balanced.append {a b : List (Step E)} (ha : Balanced a) (hb : Balanced b) :
    Balanced (a ++ b) := by
  intro k
  have ha := ha k
  have hb := hb k
  unfold unread at *
  rw [reports_append, invocations_append, gained_append, gained_append, gained_append,
    List.countP_append]
  omega

lemma balanced_nil : Balanced ([] : List (Step E)) := fun _ => rfl

/-- A round that the collector does not disturb. -/
lemma Delivery.balanced_round {d : Delivery E} {attempt : ℕ} (hbegins : d.Begins attempt)
    (hsuccess : (d.answers attempt).success = .ok ()) : Balanced (d.round attempt []).2 := by
  intro k
  rcases houtcome : d.outcome attempt with e | ⟨⟩
  · have hthrows : d.Throws attempt e := Or.inl houtcome
    obtain ⟨told, hround, htold, hreports⟩ := round_of_throws hbegins hthrows
    have hrecover : invocations (d.recover attempt e []).2 = [] ∧ _ := recover_spec e
    obtain ⟨hmade, -, hfailure⟩ := hrecover
    rw [if_neg (by rw [houtcome]; exact nofun)] at hreports
    have hinvocations : invocations (d.round attempt []).2 = [⟨d.sinkIndex, .error e⟩] := by
      rw [invocations_round hbegins, houtcome]
    have hall : reports (d.round attempt []).2 =
        .attempt d.sinkIndex d.sinkEntry.label attempt :: reports (d.recover attempt e []).2 := by
      rw [hround]
      show _ :: reports (told ++ _) = _
      rw [reports_append, hreports]
      rfl
    rw [hall, hinvocations, hfailure]
    cases e <;> simp [formatTelemetryErrorMessage, gained, unread, Report.attempted,
      Report.succeeded, Report.failed, Report.sinkIndex?, Invocation.isUnreadable]
  · rw [round_of_settles ⟨hbegins, houtcome, hsuccess⟩]
    simp [gained, unread, reports, invocations, Report.attempted, Report.succeeded, Report.failed,
      Report.sinkIndex?, Invocation.isUnreadable]

lemma Delivery.balanced_recordWithPolicy {d : Delivery E}
    (h : ∀ k, d.Begins k ∧ (d.answers k).success = .ok ()) :
    Balanced (d.recordWithPolicy []).2 := by
  have hrounds : ∀ left attempt, Balanced (d.rounds attempt left []).2 := by
    intro left
    induction left with
    | zero => exact fun _ => balanced_nil
    | succ left ih =>
      intro attempt
      have hround := balanced_round (h attempt).1 (h attempt).2
      by_cases hgoes : d.GoesOn attempt
      · rw [rounds_of_goesOn hgoes]
        exact hround.append (ih _)
      · rw [(rounds_of_not_goesOn hgoes).1]
        exact hround
  exact hrounds _ _

/-- The collector does not throw, as the recording one never does; the hook may. -/
def RecordCall.Recorded (c : RecordCall E) : Prop := c.answers.dispatch = .ok () ∧
  ∀ sinkIndex attempt, (c.answers.attempts sinkIndex attempt).attempt = .ok () ∧
    (c.answers.attempts sinkIndex attempt).success = .ok () ∧
    (c.answers.attempts sinkIndex attempt).failure = .ok ()

/-- No sink that the call gets to fails with what `String` does not convert. -/
def Readable (f : Fanout E) (c : RecordCall E) : Prop :=
  ∀ event, f.accepted c = .ok event → c.answers.dispatch = .ok () →
    ∀ d, Tried c.failurePolicy (f.deliveries c event) d →
      ∀ attempt, d.Invoked 1 attempt → d.outcome attempt ≠ .error .unreadable

section

variable {f : Fanout E} {c : RecordCall E}

lemma balanced_recordEach {policy : TelemetryFanoutFailurePolicy} {ds : List (Delivery E)}
    (h : ∀ d ∈ ds, ∀ k, d.Begins k ∧ (d.answers k).success = .ok ()) :
    Balanced (recordEach policy ds []).2 := by
  induction ds with
  | nil => exact balanced_nil
  | cons first rest ih =>
    have hfirst := Delivery.balanced_recordWithPolicy (h first List.mem_cons_self)
    by_cases hpasses : policy = .bestEffort ∨ first.Resolves
    · rw [recordEach_of_passes hpasses]
      exact hfirst.append (ih fun d hd => h d (List.mem_cons_of_mem _ hd))
    · rw [(recordEach_of_not_passes hpasses).2]
      exact hfirst

lemma balanced_record (h : c.Recorded) : Balanced (f.record c []).2 := by
  rcases haccepted : f.accepted c with e | event
  · rw [Fanout.record_of_not_accepted haccepted]
    exact balanced_nil
  · rw [Fanout.record_of_dispatched haccepted h.1]
    have hdispatch : Balanced ([.told (.dispatch c.activeSinks.length)] : List (Step E)) :=
      fun _ => rfl
    refine hdispatch.append (balanced_recordEach fun d hd k => ?_)
    obtain ⟨i, sinkEntry, -, rfl⟩ := Fanout.mem_deliveries.mp hd
    exact ⟨(h.2 i k).1, (h.2 i k).2.1⟩

/-- Every error that the call met can be read. -/
lemma readable_iff_unread (h : c.Recorded) :
    Readable f c ↔ ∀ k, unread k (invocations (f.record c []).2) = 0 := by
  have hall : (∀ k, unread k (invocations (f.record c []).2) = 0) ↔
      ∀ invocation ∈ invocations (f.record c []).2, invocation.outcome ≠ .error .unreadable := by
    constructor
    · intro hzero invocation hmem houtcome
      have hnone := List.countP_eq_zero.mp (hzero invocation.sinkIndex) invocation hmem
      exact hnone (by simp [Invocation.isUnreadable, houtcome])
    · intro hnone k
      apply List.countP_eq_zero.mpr
      intro invocation hmem hboth
      rw [Bool.and_eq_true] at hboth
      apply hnone invocation hmem
      have hunreadable := hboth.2
      unfold Invocation.isUnreadable at hunreadable
      split at hunreadable
      · assumption
      · exact nomatch hunreadable
  rw [hall]
  rcases haccepted : f.accepted c with e | event
  · refine iff_of_true ?_ ?_
    · intro event hevent
      rw [haccepted] at hevent
      exact nomatch hevent
    · rw [Fanout.record_of_not_accepted haccepted]
      exact fun _ hmem => absurd hmem List.not_mem_nil
  · rw [Fanout.record_of_dispatched haccepted h.1]
    show _ ↔ ∀ invocation ∈ invocations (recordEach c.failurePolicy (f.deliveries c event) []).2, _
    constructor
    · intro hreadable invocation hmem
      obtain ⟨d, hd, hmem⟩ := mem_invocations_recordEach.mp hmem
      obtain ⟨k, hk, rfl⟩ := Delivery.mem_invocations_recordWithPolicy.mp hmem
      exact hreadable event haccepted h.1 d hd k hk
    · intro hnone event' hevent _ d hd k hk
      obtain rfl := Except.ok.inj (haccepted.symm.trans hevent)
      exact hnone _ (mem_invocations_recordEach.mpr
        ⟨d, hd, Delivery.mem_invocations_recordWithPolicy.mpr ⟨k, hk, rfl⟩⟩)

end

/-! ## Truthful telemetry -/

/-- Every record call delivers truthfully; where the recording collector heard all of them, however
they came in, its counters agree. -/
def DeliversTruthfully (f : Fanout E) (calls : List (RecordCall E)) : Prop :=
  (∀ c ∈ calls, Truthful f c) ∧
    ((∀ c ∈ calls, c.Recorded) → ∀ heard : List (Str × Report),
      (heard.map Prod.snd).Perm (calls.flatMap fun c => reports (f.record c []).2) →
        Consistent (collect heard).loadSnapshot)

lemma gained_flatMap (gain : Report → ℕ) (k : ℕ) (f : Fanout E) (calls : List (RecordCall E)) :
    gained gain k (calls.flatMap fun c => reports (f.record c []).2) =
      (calls.map fun c => gained gain k (reports (f.record c []).2)).sum := by
  induction calls with
  | nil => rfl
  | cons c rest ih => rw [List.flatMap_cons, gained_append, ih, List.map_cons, List.sum_cons]

/-- What the calls together told is balanced up to the errors that could not be read. -/
lemma balanced_calls {f : Fanout E} {calls : List (RecordCall E)}
    (h : ∀ c ∈ calls, c.Recorded) (k : ℕ) :
    gained Report.attempted k (calls.flatMap fun c => reports (f.record c []).2) =
      gained Report.succeeded k (calls.flatMap fun c => reports (f.record c []).2) +
        gained Report.failed k (calls.flatMap fun c => reports (f.record c []).2) +
          (calls.map fun c => unread k (invocations (f.record c []).2)).sum := by
  rw [gained_flatMap, gained_flatMap, gained_flatMap, ← List.sum_map_add, ← List.sum_map_add]
  congr 1
  exact List.map_congr_left fun c hc => balanced_record (h c hc) k

/-- Telemetry is delivered truthfully exactly where no attempt is repeated behind a success, the
events are admitted, and the recording collector meets errors that it can read. -/
theorem deliversTruthfully_iff (f : Fanout E) (calls : List (RecordCall E)) :
    DeliversTruthfully f calls ↔
      (∀ c ∈ calls, NeverRepeats f c ∧ Admits f c) ∧
        ((∀ c ∈ calls, c.Recorded) → ∀ c ∈ calls, Readable f c) := by
  unfold DeliversTruthfully
  refine and_congr (forall₂_congr fun c _ => truthful_iff) (forall_congr' fun hrecorded => ?_)
  have hheard : ∀ heard : List (Str × Report),
      (heard.map Prod.snd).Perm (calls.flatMap fun c => reports (f.record c []).2) →
        (Consistent (collect heard).loadSnapshot ↔
          ∀ k, (calls.map fun c => unread k (invocations (f.record c []).2)).sum = 0) := by
    intro heard hperm
    rw [consistent_iff]
    refine forall_congr' fun k => ?_
    rw [gained_perm hperm, gained_perm hperm, gained_perm hperm, balanced_calls hrecorded k]
    omega
  have hsum : (∀ k, (calls.map fun c => unread k (invocations (f.record c []).2)).sum = 0) ↔
      ∀ c ∈ calls, Readable f c := by
    constructor
    · intro hzero c hc
      rw [readable_iff_unread (hrecorded c hc)]
      intro k
      exact List.sum_eq_zero_iff.mp (hzero k) _ (List.mem_map_of_mem hc)
    · intro hreadable k
      apply List.sum_eq_zero
      intro n hn
      obtain ⟨c, hc, rfl⟩ := List.mem_map.mp hn
      exact (readable_iff_unread (hrecorded c hc)).mp (hreadable c hc) k
  constructor
  · intro hconsistent
    let told := calls.flatMap fun c => reports (f.record c []).2
    have htold : ((told.map fun report => (js "", report)).map Prod.snd).Perm told := by
      rw [List.map_map]
      exact (List.map_id told).symm ▸ List.Perm.refl _
    exact hsum.mp ((hheard _ htold).mp (hconsistent _ htold))
  · intro hreadable heard hperm
    exact (hheard heard hperm).mpr (hsum.mpr hreadable)

/-- A sink that takes the event at once, a retry left, and a collector that throws when it is told
so for the first time. -/
def unbookedSuccess : RecordCall Unit where
  sinks := [some .sink]
  options := ⟨none, none, some 1, none⟩
  event := ()
  answers :=
    { dispatch := .ok ()
      attempts := fun _ attempt =>
        { attempt := .ok ()
          sink := ⟨.ok (), true⟩
          success := if attempt = 1 then .error (.error (js "disk full")) else .ok ()
          failure := .ok ()
          onSinkError := .ok () } }

/-- The event that the sink took is delivered again. -/
theorem unbookedSuccess_repeats :
    invocations ((Fanout.telemetry .ok).record unbookedSuccess []).2 = [⟨0, .ok ()⟩, ⟨0, .ok ()⟩] ∧
      ¬ DeliversTruthfully (.telemetry .ok) [unbookedSuccess] := by
  have hmade : invocations ((Fanout.telemetry .ok).record unbookedSuccess []).2 =
      [⟨0, .ok ()⟩, ⟨0, .ok ()⟩] := by decide +kernel
  refine ⟨hmade, fun h => ?_⟩
  have hnone := (h.1 _ (List.mem_singleton_self _)).noneAfterSuccess
  rw [hmade] at hnone
  exact (List.pairwise_cons.mp hnone).1 _ (List.mem_singleton_self _) rfl rfl

end CodexRouter.Telemetry
