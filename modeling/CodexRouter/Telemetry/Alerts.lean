import CodexRouter.Js.Decimal
import CodexRouter.Js.JsonText

/-!
# Alerts and their keys

An alert window keeps alerts apart by keys, the texts of their fields with bars between them.
-/

open Js

namespace CodexRouter.Telemetry

/-! ## Numbers -/

/-- A number of JavaScript. -/
inductive Number where
  | finite (n : Js.Num)
  | infinity
  | negativeInfinity
  | nan
  deriving DecidableEq

namespace Number

/-- `String(n)`. -/
def text : Number → Str
  | finite n => n.1
  | infinity => js "Infinity"
  | negativeInfinity => js "-Infinity"
  | nan => js "NaN"

def toJson : Number → Json
  | finite n => .num n
  | _ => .null

/-- `elapsed < n`. -/
def exceeds (n : Number) (elapsed : ℤ) : Bool :=
  match n with
  | finite n => (elapsed : ℚ) < n.value
  | infinity => true
  | _ => false

/-- `n > 0`. -/
def isPositive (n : Number) : Bool := n.exceeds 0

end Number

/-! ## Alerts -/

inductive TelemetryDeliveryAlertLevel where
  | warn | error
  deriving DecidableEq

inductive TelemetryAlertScope where
  | totals | sink
  deriving DecidableEq

inductive TelemetryDeliveryAlertMetric where
  | failures | timeouts | retries | failureRate | timeoutRate
  deriving DecidableEq

def TelemetryDeliveryAlertLevel.text : TelemetryDeliveryAlertLevel → Str
  | warn => js "warn"
  | error => js "error"

def TelemetryAlertScope.text : TelemetryAlertScope → Str
  | totals => js "totals"
  | sink => js "sink"

def TelemetryDeliveryAlertMetric.text : TelemetryDeliveryAlertMetric → Str
  | failures => js "failures"
  | timeouts => js "timeouts"
  | retries => js "retries"
  | failureRate => js "failureRate"
  | timeoutRate => js "timeoutRate"

structure TelemetryDeliveryAlert where
  level : TelemetryDeliveryAlertLevel
  scope : TelemetryAlertScope
  metric : TelemetryDeliveryAlertMetric
  message : Str
  observed : Number
  threshold : Number
  sinkIndex : Option Number
  sinkLabel : Option Str
  deriving DecidableEq

namespace TelemetryDeliveryAlert

variable (alert : TelemetryDeliveryAlert)

def toJson : Json :=
  .obj ([(js "level", .str alert.level.text), (js "scope", .str alert.scope.text),
      (js "metric", .str alert.metric.text), (js "message", .str alert.message),
      (js "observed", alert.observed.toJson), (js "threshold", alert.threshold.toJson)]
    ++ Json.member? (js "sinkIndex") (alert.sinkIndex.map Number.toJson)
    ++ Json.member? (js "sinkLabel") (alert.sinkLabel.map .str))

/-- `alert.sinkLabel ?? ""`. -/
def labelText : Str := alert.sinkLabel.getD []

/-- `alert.sinkIndex ?? ""`. -/
def indexText : Str := (alert.sinkIndex.map Number.text).getD []

end TelemetryDeliveryAlert

def bar : CodeUnit := cu '|'

def createTelemetryAlertExactKey (alert : TelemetryDeliveryAlert) : Str :=
  join bar [alert.level.text, alert.scope.text, alert.metric.text, alert.observed.text,
    alert.threshold.text, alert.labelText, alert.indexText]

def createTelemetryAlertCooldownKey (alert : TelemetryDeliveryAlert) : Str :=
  join bar [alert.level.text, alert.scope.text, alert.metric.text, alert.labelText,
    alert.indexText]

/-! ## Keys keep alerts apart -/

/-- The sink of an alert, where no label counts as the empty one. -/
def TelemetryDeliveryAlert.sinkKey (alert : TelemetryDeliveryAlert) : Str × Option Number :=
  (alert.labelText, alert.sinkIndex)

/-- The sink of an alert, its label and its index. -/
def TelemetryDeliveryAlert.sink (alert : TelemetryDeliveryAlert) : Option Str × Option Number :=
  (alert.sinkLabel, alert.sinkIndex)

lemma Number.text_injective {m n : Number} (h : m.text = n.text) : m = n := by
  have hfinite : ∀ k : Js.Num, k.1 ≠ js "Infinity" ∧ k.1 ≠ js "-Infinity" ∧ k.1 ≠ js "NaN" := by
    intro k
    have hk := k.2
    refine ⟨?_, ?_, ?_⟩ <;>
    · intro hname
      rw [hname] at hk
      exact absurd hk (by decide)
  cases m <;> cases n <;> first
    | rfl
    | exact congrArg finite (Subtype.ext h)
    | exact absurd h (hfinite _).1
    | exact absurd h (hfinite _).2.1
    | exact absurd h (hfinite _).2.2
    | exact absurd h.symm (hfinite _).1
    | exact absurd h.symm (hfinite _).2.1
    | exact absurd h.symm (hfinite _).2.2
    | exact absurd h (by decide)

lemma Number.bar_not_mem_text (n : Number) : bar ∉ n.text := by
  cases n with
  | finite n =>
    intro h
    have hunits := n.2
    unfold isNumberText at hunits
    rw [Bool.and_eq_true] at hunits
    have hbar := List.all_eq_true.mp hunits.1 bar h
    exact absurd hbar (by decide)
  | _ => decide

lemma Number.text_ne_nil (n : Number) : n.text ≠ [] := by
  cases n with
  | finite n =>
    intro h
    have hunits := n.2
    rw [show n.1 = [] from h] at hunits
    exact absurd hunits (by decide)
  | _ => decide

lemma bar_not_mem_indexText (alert : TelemetryDeliveryAlert) : bar ∉ alert.indexText := by
  unfold TelemetryDeliveryAlert.indexText
  cases alert.sinkIndex with
  | none => exact List.not_mem_nil
  | some n => exact n.bar_not_mem_text

lemma indexText_injective {a b : TelemetryDeliveryAlert} (h : a.indexText = b.indexText) :
    a.sinkIndex = b.sinkIndex := by
  unfold TelemetryDeliveryAlert.indexText at h
  cases ha : a.sinkIndex <;> cases hb : b.sinkIndex <;> rw [ha, hb] at h
  · exact absurd h.symm (Number.text_ne_nil _)
  · exact absurd h (Number.text_ne_nil _)
  · exact congrArg some (Number.text_injective h)

lemma join_bar_cons {a b : Str} {l r : List Str} (hl : l ≠ []) (hr : r ≠ []) (ha : bar ∉ a)
    (hb : bar ∉ b) (h : join bar (a :: l) = join bar (b :: r)) :
    a = b ∧ join bar l = join bar r := by
  rw [join_cons _ _ hl, join_cons _ _ hr] at h
  exact append_cons_inj ha hb h

lemma join_bar_last {a b : Str} {x y : Str} (hx : bar ∉ x) (hy : bar ∉ y)
    (h : join bar [a, x] = join bar [b, y]) : a = b ∧ x = y := by
  rw [join_cons _ _ (List.cons_ne_nil _ _), join_cons _ _ (List.cons_ne_nil _ _), join_singleton,
    join_singleton] at h
  exact append_cons_inj_last hx hy h

lemma bar_not_mem_level (level : TelemetryDeliveryAlertLevel) : bar ∉ level.text := by
  cases level <;> decide

lemma bar_not_mem_scope (scope : TelemetryAlertScope) : bar ∉ scope.text := by
  cases scope <;> decide

lemma bar_not_mem_metric (metric : TelemetryDeliveryAlertMetric) : bar ∉ metric.text := by
  cases metric <;> decide

lemma level_text_injective {a b : TelemetryDeliveryAlertLevel} (h : a.text = b.text) : a = b := by
  cases a <;> cases b <;> first | rfl | exact absurd h (by decide)

lemma scope_text_injective {a b : TelemetryAlertScope} (h : a.text = b.text) : a = b := by
  cases a <;> cases b <;> first | rfl | exact absurd h (by decide)

lemma metric_text_injective {a b : TelemetryDeliveryAlertMetric} (h : a.text = b.text) :
    a = b := by
  cases a <;> cases b <;> first | rfl | exact absurd h (by decide)

/-- Equal level, scope and metric. -/
def SameKind (a b : TelemetryDeliveryAlert) : Prop :=
  a.level = b.level ∧ a.scope = b.scope ∧ a.metric = b.metric

/-- Equal numbers. -/
def SameNumbers (a b : TelemetryDeliveryAlert) : Prop :=
  a.observed = b.observed ∧ a.threshold = b.threshold

lemma kind_of_join {a b : TelemetryDeliveryAlert} {l r : List Str} (hl : l ≠ []) (hr : r ≠ [])
    (h : join bar (a.level.text :: a.scope.text :: a.metric.text :: l) =
      join bar (b.level.text :: b.scope.text :: b.metric.text :: r)) :
    SameKind a b ∧ join bar l = join bar r := by
  obtain ⟨hlevel, h⟩ := join_bar_cons (List.cons_ne_nil _ _) (List.cons_ne_nil _ _)
    (bar_not_mem_level _) (bar_not_mem_level _) h
  obtain ⟨hscope, h⟩ := join_bar_cons (List.cons_ne_nil _ _) (List.cons_ne_nil _ _)
    (bar_not_mem_scope _) (bar_not_mem_scope _) h
  obtain ⟨hmetric, h⟩ := join_bar_cons hl hr (bar_not_mem_metric _) (bar_not_mem_metric _) h
  exact ⟨⟨level_text_injective hlevel, scope_text_injective hscope,
    metric_text_injective hmetric⟩, h⟩

lemma sink_of_join {a b : TelemetryDeliveryAlert}
    (h : join bar [a.labelText, a.indexText] = join bar [b.labelText, b.indexText]) :
    a.sinkKey = b.sinkKey := by
  obtain ⟨hlabel, hindex⟩ := join_bar_last (bar_not_mem_indexText a) (bar_not_mem_indexText b) h
  unfold TelemetryDeliveryAlert.sinkKey
  rw [hlabel, indexText_injective hindex]

lemma indexText_congr {a b : TelemetryDeliveryAlert} (h : a.sinkIndex = b.sinkIndex) :
    a.indexText = b.indexText := by
  unfold TelemetryDeliveryAlert.indexText
  rw [h]

/-- The exact key is as good as the fields it is made of. -/
theorem exactKey_eq_iff {a b : TelemetryDeliveryAlert} :
    createTelemetryAlertExactKey a = createTelemetryAlertExactKey b ↔
      SameKind a b ∧ SameNumbers a b ∧ a.sinkKey = b.sinkKey := by
  unfold createTelemetryAlertExactKey
  constructor
  · intro h
    obtain ⟨hkind, h⟩ := kind_of_join (List.cons_ne_nil _ _) (List.cons_ne_nil _ _) h
    obtain ⟨hobserved, h⟩ := join_bar_cons (List.cons_ne_nil _ _) (List.cons_ne_nil _ _)
      (Number.bar_not_mem_text _) (Number.bar_not_mem_text _) h
    obtain ⟨hthreshold, h⟩ := join_bar_cons (List.cons_ne_nil _ _) (List.cons_ne_nil _ _)
      (Number.bar_not_mem_text _) (Number.bar_not_mem_text _) h
    exact ⟨hkind, ⟨Number.text_injective hobserved, Number.text_injective hthreshold⟩,
      sink_of_join h⟩
  · intro ⟨⟨hlevel, hscope, hmetric⟩, ⟨hobserved, hthreshold⟩, hsink⟩
    obtain ⟨hlabel, hindex⟩ := Prod.mk.inj hsink
    rw [hlevel, hscope, hmetric, hobserved, hthreshold, hlabel, indexText_congr hindex]

/-- The cooldown key leaves the numbers out. -/
theorem cooldownKey_eq_iff {a b : TelemetryDeliveryAlert} :
    createTelemetryAlertCooldownKey a = createTelemetryAlertCooldownKey b ↔
      SameKind a b ∧ a.sinkKey = b.sinkKey := by
  unfold createTelemetryAlertCooldownKey
  constructor
  · intro h
    obtain ⟨hkind, h⟩ := kind_of_join (List.cons_ne_nil _ _) (List.cons_ne_nil _ _) h
    exact ⟨hkind, sink_of_join h⟩
  · intro ⟨⟨hlevel, hscope, hmetric⟩, hsink⟩
    obtain ⟨hlabel, hindex⟩ := Prod.mk.inj hsink
    rw [hlevel, hscope, hmetric, hlabel, indexText_congr hindex]

end CodexRouter.Telemetry
