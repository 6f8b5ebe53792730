import CodexRouter.Js.Keyed
import CodexRouter.Js.Map
import CodexRouter.Scheduler.Agreement
import CodexRouter.Telemetry.Alerts

/-!
# Alert delivery windows

An alert is suppressed for some time behind a delivery of its like. One store keeps the times of
deliveries in memory, the other one writes them to a file at every call and reads it once.
-/

open Js
open CodexRouter.Scheduler (DateFormat)

namespace CodexRouter.Telemetry

/-! ## Decisions -/

structure TelemetryAlertDeliveryWindowPolicy where
  dedupeWindowMs : Option Number
  cooldownWindowMs : Option Number

inductive TelemetryAlertDeliverySuppressionReason where
  | dedupe | cooldown
  deriving DecidableEq

def TelemetryAlertDeliverySuppressionReason.text : TelemetryAlertDeliverySuppressionReason → Str
  | dedupe => js "dedupe"
  | cooldown => js "cooldown"

structure TelemetryAlertDeliverySuppression where
  reason : TelemetryAlertDeliverySuppressionReason
  alert : TelemetryDeliveryAlert
  suppressedAt : Str
  previousDeliveredAt : Str
  key : Str
  deriving DecidableEq

def TelemetryAlertDeliverySuppression.toJson (s : TelemetryAlertDeliverySuppression) : Json :=
  .obj [(js "reason", .str s.reason.text), (js "alert", s.alert.toJson),
    (js "suppressedAt", .str s.suppressedAt), (js "previousDeliveredAt", .str s.previousDeliveredAt),
    (js "key", .str s.key)]

structure TelemetryAlertDeliveryWindowDecision where
  alert : TelemetryDeliveryAlert
  shouldDeliver : Bool
  suppression : Option TelemetryAlertDeliverySuppression
  deriving DecidableEq

/-- The state of a store; its suppressions are kept as they are written. -/
structure WindowState where
  exactDeliveries : Map Str Str
  cooldownDeliveries : Map Str Str
  suppressions : List Json

/-- The text of the time of a call, from its argument or from the clock. -/
def normalizeTelemetryTimestamp (dates : DateFormat) (clock : Str) : Option Str → Except Str Str
  | none | some [] => .ok clock
  | some now =>
    match (dates.parse now).bind dates.toISOString with
    | some timestamp => .ok timestamp
    | none => .error (js "invalid_telemetry_timestamp:" ++ now)

def isWithinTelemetryWindow (dates : DateFormat) (previousTimestamp currentTimestamp : Str)
    (windowMs : Number) : Bool :=
  match dates.parse previousTimestamp, dates.parse currentTimestamp with
  | some previous, some current => windowMs.exceeds (current - previous)
  | _, _ => false

/-- The earlier delivery that a window reaches back to. -/
def previousWithin (dates : DateFormat) (deliveries : Map Str Str) (key timestamp : Str)
    (windowMs : Number) : Option Str :=
  if windowMs.isPositive then
    (deliveries.get? key).filter fun previousDeliveredAt =>
      previousDeliveredAt ≠ [] && isWithinTelemetryWindow dates previousDeliveredAt timestamp windowMs
  else none

/-- `windowMs ?? 0`. -/
def windowOf (windowMs : Option Number) : Number := windowMs.getD (.finite (.ofNat 0))

def suppress (state : WindowState) (reason : TelemetryAlertDeliverySuppressionReason)
    (alert : TelemetryDeliveryAlert) (suppressedAt previousDeliveredAt key : Str) :
    TelemetryAlertDeliveryWindowDecision × WindowState :=
  let suppression := ⟨reason, alert, suppressedAt, previousDeliveredAt, key⟩
  (⟨alert, false, some suppression⟩,
    { state with suppressions := state.suppressions ++ [suppression.toJson] })

def evaluateTelemetryAlertDeliveryWindow (dates : DateFormat) (state : WindowState)
    (alert : TelemetryDeliveryAlert) (policy : TelemetryAlertDeliveryWindowPolicy) (clock : Str)
    (now : Option Str) : Except Str (TelemetryAlertDeliveryWindowDecision × WindowState) := do
  let timestamp ← normalizeTelemetryTimestamp dates clock now
  let exactKey := createTelemetryAlertExactKey alert
  let cooldownKey := createTelemetryAlertCooldownKey alert
  match previousWithin dates state.exactDeliveries exactKey timestamp
      (windowOf policy.dedupeWindowMs) with
  | some previousDeliveredAt =>
    return suppress state .dedupe alert timestamp previousDeliveredAt exactKey
  | none =>
    match previousWithin dates state.cooldownDeliveries cooldownKey timestamp
        (windowOf policy.cooldownWindowMs) with
    | some previousDeliveredAt =>
      return suppress state .cooldown alert timestamp previousDeliveredAt cooldownKey
    | none =>
      return (⟨alert, true, none⟩, { state with
        exactDeliveries := state.exactDeliveries.set exactKey timestamp
        cooldownDeliveries := state.cooldownDeliveries.set cooldownKey timestamp })

/-! ## The file -/

structure TelemetryAlertDeliveryWindowState where
  version : Json
  exactDeliveries : List (Str × Str)
  cooldownDeliveries : List (Str × Str)
  suppressions : List Json

def defaultWindowState : TelemetryAlertDeliveryWindowState :=
  ⟨.num (.ofNat 1), [], [], []⟩

def convertToMutable (state : TelemetryAlertDeliveryWindowState) : WindowState where
  exactDeliveries := Map.empty.setAll state.exactDeliveries
  cooldownDeliveries := Map.empty.setAll state.cooldownDeliveries
  suppressions := state.suppressions

def serializeWindowState (state : WindowState) : TelemetryAlertDeliveryWindowState where
  version := .num (.ofNat 1)
  exactDeliveries := state.exactDeliveries.entries
  cooldownDeliveries := state.cooldownDeliveries.entries
  suppressions := state.suppressions

def recordJson (entries : List (Str × Str)) : Json :=
  .obj (entries.map fun entry => (entry.1, .str entry.2))

def TelemetryAlertDeliveryWindowState.toJson (state : TelemetryAlertDeliveryWindowState) : Json :=
  .obj [(js "version", state.version), (js "exactDeliveries", recordJson state.exactDeliveries),
    (js "cooldownDeliveries", recordJson state.cooldownDeliveries),
    (js "suppressions", .arr state.suppressions)]

/-- `JSON.stringify(state, null, 2)`. -/
def windowFileText (state : WindowState) : Str :=
  Json.text (js "  ") [] (serializeWindowState state).toJson

/-- Setting `__proto__` to a text does nothing. The order of keys that are array indices is not
kept here; no key of an alert is one. -/
def safeRecordStrings : Option Json → List (Str × Str)
  | some (.obj members) => members.filterMap fun
    | (key, .str candidate) => if key = js "__proto__" then none else some (key, candidate)
    | _ => none
  | some (.arr items) => items.zipIdx.filterMap fun
    | (.str candidate, index) => some (Json.natText index, candidate)
    | _ => none
  | _ => []

def fieldOf (key : Str) : Json → Option Json
  | .obj members => members.lookup key
  | _ => none

def isObject : Json → Bool
  | .obj _ | .arr _ => true
  | _ => false

def normalizeWindowState (state : Json) (fallback : TelemetryAlertDeliveryWindowState) :
    TelemetryAlertDeliveryWindowState :=
  if isObject state then
    { version := match fieldOf (js "version") state with
        | none | some .null => fallback.version
        | some version => version
      exactDeliveries := safeRecordStrings (fieldOf (js "exactDeliveries") state)
      cooldownDeliveries := safeRecordStrings (fieldOf (js "cooldownDeliveries") state)
      suppressions := match fieldOf (js "suppressions") state with
        | some (.arr suppressions) => suppressions
        | _ => fallback.suppressions }
  else fallback

/-- The text of the file, or no file. -/
def readWindowState (file : Option Str) (fallback : TelemetryAlertDeliveryWindowState) :
    Except Str TelemetryAlertDeliveryWindowState :=
  match file with
  | none => .ok fallback
  | some raw =>
    match Json.parse? raw with
    | some parsed => .ok (normalizeWindowState parsed fallback)
    | none => .error (js "SyntaxError")

/-! ## The two stores -/

/-- A call of `evaluate`. The persisted store has a clock of its own for calls without a time. -/
structure WindowCall where
  alert : TelemetryDeliveryAlert
  policy : TelemetryAlertDeliveryWindowPolicy
  now : Option Str
  optionsNow : Option Str
  clock : Str

abbrev WindowAnswer := Except Str TelemetryAlertDeliveryWindowDecision

/-- `evaluate` of the recording store. -/
def recordingEvaluate (dates : DateFormat) (state : WindowState) (c : WindowCall) :
    WindowAnswer × WindowState :=
  match evaluateTelemetryAlertDeliveryWindow dates state c.alert c.policy c.clock c.now with
  | .ok (decision, state) => (.ok decision, state)
  | .error e => (.error e, state)

/-- The file, and the state of the store once it is loaded. -/
structure PersistedStore where
  file : Option Str
  loaded : Option WindowState

def PersistedStore.ensureStateLoaded (s : PersistedStore) : Except Str WindowState :=
  match s.loaded with
  | some state => .ok state
  | none => (readWindowState s.file defaultWindowState).map convertToMutable

/-- `evaluate` of the persisted store. -/
def persistedEvaluate (dates : DateFormat) (s : PersistedStore) (c : WindowCall) :
    WindowAnswer × PersistedStore :=
  match s.ensureStateLoaded with
  | .error e => (.error e, s)
  | .ok state =>
    match evaluateTelemetryAlertDeliveryWindow dates state c.alert c.policy c.clock
        (c.now.or c.optionsNow) with
    | .error e => (.error e, { s with loaded := some state })
    | .ok (decision, state) => (.ok decision, ⟨some (windowFileText state), some state⟩)

def recordingRun (dates : DateFormat) : WindowState → List WindowCall → List WindowAnswer
  | _, [] => []
  | state, c :: rest =>
    let (answer, state) := recordingEvaluate dates state c
    answer :: recordingRun dates state rest

/-- The calls of a persisted store; where one is marked, the store is created anew before it. -/
def persistedRun (dates : DateFormat) : PersistedStore → List (Bool × WindowCall) →
    List WindowAnswer
  | _, [] => []
  | s, (anew, c) :: rest =>
    let s := if anew then { s with loaded := none } else s
    let (answer, s) := persistedEvaluate dates s c
    answer :: persistedRun dates s rest

/-! ## What is written is read back -/

/-- A state that a file can hold. -/
structure Writable (state : WindowState) : Prop where
  exact : ∀ entry ∈ state.exactDeliveries.entries, entry.1 ≠ js "__proto__"
  cooldown : ∀ entry ∈ state.cooldownDeliveries.entries, entry.1 ≠ js "__proto__"
  suppressions : Json.KeyedItems state.suppressions

lemma keyed_number (n : Number) : n.toJson.Keyed := by
  cases n <;> exact trivial

lemma keys_member? (key : Str) (value : Option Json) :
    ((Json.member? key value).map Prod.fst).Sublist [key] := by
  cases value with
  | none => exact List.nil_sublist _
  | some value => exact List.Sublist.refl _

lemma keyed_member? {key : Str} {value : Option Json} (h : ∀ j ∈ value, Json.Keyed j) :
    Json.KeyedMembers (Json.member? key value) := by
  cases value with
  | none => exact trivial
  | some value => exact ⟨h value rfl, trivial⟩

lemma keyed_alert (alert : TelemetryDeliveryAlert) : alert.toJson.Keyed := by
  constructor
  · have hall : [js "level", js "scope", js "metric", js "message", js "observed", js "threshold",
        js "sinkIndex", js "sinkLabel"].Nodup := by decide
    refine List.Nodup.sublist ?_ hall
    rw [List.map_append, List.map_append]
    exact ((List.Sublist.refl _).append (keys_member? _ _)).append (keys_member? _ _)
  · apply keyedMembers_append.mpr
    refine ⟨keyedMembers_append.mpr ⟨?_, keyed_member? fun j hj => ?_⟩,
      keyed_member? fun j hj => ?_⟩
    · exact ⟨trivial, trivial, trivial, trivial, keyed_number _, keyed_number _, trivial⟩
    · obtain ⟨n, -, rfl⟩ := Option.map_eq_some_iff.mp hj
      exact keyed_number n
    · obtain ⟨label, -, rfl⟩ := Option.map_eq_some_iff.mp hj
      exact trivial

lemma keyed_suppression (s : TelemetryAlertDeliverySuppression) : s.toJson.Keyed := by
  have hkeys : [js "reason", js "alert", js "suppressedAt", js "previousDeliveredAt",
      js "key"].Nodup := by decide
  exact ⟨hkeys, trivial, keyed_alert _, trivial, trivial, trivial, trivial⟩

lemma keyed_recordJson {entries : List (Str × Str)} (h : (entries.map Prod.fst).Nodup) :
    (recordJson entries).Keyed := by
  unfold recordJson
  refine ⟨by rwa [List.map_map], ?_⟩
  clear h
  induction entries with
  | nil => exact trivial
  | cons entry rest ih => exact ⟨trivial, ih⟩

lemma safeRecordStrings_recordJson {entries : List (Str × Str)}
    (h : ∀ entry ∈ entries, entry.1 ≠ js "__proto__") :
    safeRecordStrings (some (recordJson entries)) = entries := by
  unfold recordJson safeRecordStrings
  dsimp only
  rw [List.filterMap_map]
  induction entries with
  | nil => rfl
  | cons entry rest ih =>
    rw [List.forall_mem_cons] at h
    rw [List.filterMap_cons, ih h.2]
    dsimp only [Function.comp]
    rw [if_neg h.1]

/-- The state that was written is the one that is loaded. -/
lemma load_windowFileText {state : WindowState} (h : Writable state) :
    (readWindowState (some (windowFileText state)) defaultWindowState).map convertToMutable =
      .ok state := by
  have hkeys : [js "version", js "exactDeliveries", js "cooldownDeliveries",
      js "suppressions"].Nodup := by decide
  have hblank : Json.Blank (js "  ") := by
    intro c hc
    rw [show js "  " = List.replicate 2 (cu ' ') from rfl] at hc
    rw [List.eq_of_mem_replicate hc]
    decide
  have hkeyed : (serializeWindowState state).toJson.Keyed :=
    ⟨hkeys, trivial, keyed_recordJson state.exactDeliveries.nodup,
      keyed_recordJson state.cooldownDeliveries.nodup, h.suppressions, trivial⟩
  have hparse : Json.parse? (windowFileText state) = some (serializeWindowState state).toJson :=
    Json.parse_text hblank hkeyed
  unfold readWindowState
  dsimp only
  rw [hparse]
  show Except.ok (convertToMutable ⟨.num (.ofNat 1),
    safeRecordStrings (some (recordJson state.exactDeliveries.entries)),
    safeRecordStrings (some (recordJson state.cooldownDeliveries.entries)), state.suppressions⟩) = _
  rw [safeRecordStrings_recordJson h.exact, safeRecordStrings_recordJson h.cooldown]
  unfold convertToMutable
  rw [Map.setAll_entries, Map.setAll_entries]

lemma bar_mem_join {a : Str} {l : List Str} (h : l ≠ []) : bar ∈ join bar (a :: l) := by
  rw [join_cons _ _ h]
  exact List.mem_append_right _ List.mem_cons_self

lemma ne_proto_of_bar {key : Str} (h : bar ∈ key) : key ≠ js "__proto__" := by
  intro hkey
  rw [hkey] at h
  exact absurd h (by decide)

lemma exactKey_ne_proto (alert : TelemetryDeliveryAlert) :
    createTelemetryAlertExactKey alert ≠ js "__proto__" :=
  ne_proto_of_bar (bar_mem_join (List.cons_ne_nil _ _))

lemma cooldownKey_ne_proto (alert : TelemetryDeliveryAlert) :
    createTelemetryAlertCooldownKey alert ≠ js "__proto__" :=
  ne_proto_of_bar (bar_mem_join (List.cons_ne_nil _ _))

lemma writable_suppress {state : WindowState} (h : Writable state)
    (reason : TelemetryAlertDeliverySuppressionReason) (alert : TelemetryDeliveryAlert)
    (suppressedAt previousDeliveredAt key : Str) :
    Writable (suppress state reason alert suppressedAt previousDeliveredAt key).2 := by
  refine ⟨h.exact, h.cooldown, keyedItems_iff.mpr fun j hj => ?_⟩
  rcases List.mem_append.mp hj with hj | hj
  · exact keyedItems_iff.mp h.suppressions j hj
  · rw [List.mem_singleton.mp hj]
    exact keyed_suppression _

lemma writable_deliver {state : WindowState} (h : Writable state) (alert : TelemetryDeliveryAlert)
    (timestamp : Str) : Writable { state with
      exactDeliveries := state.exactDeliveries.set (createTelemetryAlertExactKey alert) timestamp
      cooldownDeliveries :=
        state.cooldownDeliveries.set (createTelemetryAlertCooldownKey alert) timestamp } := by
  refine ⟨fun entry hentry => ?_, fun entry hentry => ?_, h.suppressions⟩
  · rcases Map.mem_assign hentry with rfl | hentry
    · exact exactKey_ne_proto alert
    · exact h.exact entry hentry
  · rcases Map.mem_assign hentry with rfl | hentry
    · exact cooldownKey_ne_proto alert
    · exact h.cooldown entry hentry

/-! ## One call -/

/-- The time of a call, where one is given. -/
def WindowCall.time (dates : DateFormat) (c : WindowCall) : Option ℤ := c.now.bind dates.parse

/-- The call is given a valid time. -/
def WindowCall.Timestamped (dates : DateFormat) (c : WindowCall) : Prop :=
  ∃ time, c.time dates = some time ∧ (dates.toISOString time).isSome

section

variable {dates : DateFormat} {state : WindowState} {c : WindowCall} {time : ℤ} {timestamp : Str}

lemma normalize_of_time (hdates : dates.Lawful) (htime : c.time dates = some time)
    (htext : dates.toISOString time = some timestamp) :
    normalizeTelemetryTimestamp dates c.clock c.now = .ok timestamp := by
  obtain ⟨now, hnow, hparse⟩ := Option.bind_eq_some_iff.mp htime
  rw [hnow]
  cases now with
  | nil =>
    rw [hdates.parse_nil] at hparse
    exact nomatch hparse
  | cons u now =>
    unfold normalizeTelemetryTimestamp
    dsimp only
    rw [hparse, Option.bind_some, htext]

/-- The three ends of a call. -/
lemma evaluate_of_timestamp (state : WindowState)
    (h : normalizeTelemetryTimestamp dates c.clock c.now = .ok timestamp) :
    evaluateTelemetryAlertDeliveryWindow dates state c.alert c.policy c.clock c.now =
      .ok (match previousWithin dates state.exactDeliveries (createTelemetryAlertExactKey c.alert)
          timestamp (windowOf c.policy.dedupeWindowMs) with
        | some previous => suppress state .dedupe c.alert timestamp previous
            (createTelemetryAlertExactKey c.alert)
        | none =>
          match previousWithin dates state.cooldownDeliveries
              (createTelemetryAlertCooldownKey c.alert) timestamp
              (windowOf c.policy.cooldownWindowMs) with
          | some previous => suppress state .cooldown c.alert timestamp previous
              (createTelemetryAlertCooldownKey c.alert)
          | none => (⟨c.alert, true, none⟩, { state with
              exactDeliveries :=
                state.exactDeliveries.set (createTelemetryAlertExactKey c.alert) timestamp
              cooldownDeliveries :=
                state.cooldownDeliveries.set (createTelemetryAlertCooldownKey c.alert)
                  timestamp })) := by
  unfold evaluateTelemetryAlertDeliveryWindow
  rw [h]
  show (match previousWithin _ _ _ _ _ with
    | some _ => _
    | none => _) = _
  split
  · rfl
  · split <;> rfl

/-- Behind a call the state can be written again. -/
lemma writable_evaluate (hstate : Writable state)
    (h : normalizeTelemetryTimestamp dates c.clock c.now = .ok timestamp) :
    ∃ decision state', evaluateTelemetryAlertDeliveryWindow dates state c.alert c.policy c.clock
      c.now = .ok (decision, state') ∧ Writable state' := by
  rw [evaluate_of_timestamp state h]
  refine ⟨_, _, rfl, ?_⟩
  split
  · exact writable_suppress hstate _ _ _ _ _
  · split
    · exact writable_suppress hstate _ _ _ _ _
    · exact writable_deliver hstate _ _

end

/-! ## Restarts -/

/-- The store stands for a state, also when it is created anew. -/
def PersistedStore.StandsFor (s : PersistedStore) (state : WindowState) : Prop :=
  s.ensureStateLoaded = .ok state ∧ { s with loaded := none }.ensureStateLoaded = .ok state

lemma standsFor_written {state : WindowState} (h : Writable state) :
    PersistedStore.StandsFor ⟨some (windowFileText state), some state⟩ state := by
  have hload := load_windowFileText h
  unfold PersistedStore.StandsFor PersistedStore.ensureStateLoaded
  generalize windowFileText state = text at *
  exact ⟨rfl, hload⟩

/-- However often it is created anew, the persisted store answers as the recording one. -/
theorem persistedRun_eq {dates : DateFormat} (hdates : dates.Lawful)
    (calls : List (Bool × WindowCall)) (hcalls : ∀ c ∈ calls, c.2.Timestamped dates)
    (s : PersistedStore) (state : WindowState) (hs : s.StandsFor state) (hstate : Writable state) :
    persistedRun dates s calls = recordingRun dates state (calls.map Prod.snd) := by
  induction calls generalizing s state with
  | nil => rfl
  | cons call rest ih =>
    obtain ⟨anew, c⟩ := call
    rw [List.forall_mem_cons] at hcalls
    obtain ⟨time, htime, htext⟩ := hcalls.1
    obtain ⟨timestamp, htext⟩ := Option.isSome_iff_exists.mp htext
    obtain ⟨decision, state', hevaluate, hstate'⟩ :=
      writable_evaluate hstate (normalize_of_time hdates htime htext)
    have hnow : c.now.or c.optionsNow = c.now := by
      obtain ⟨now, hnow, -⟩ := Option.bind_eq_some_iff.mp htime
      rw [hnow]
      rfl
    have hload : (if anew then { s with loaded := none } else s).ensureStateLoaded =
        .ok state := by
      split_ifs
      · exact hs.2
      · exact hs.1
    have hpersisted : persistedEvaluate dates (if anew then { s with loaded := none } else s) c =
        (.ok decision, ⟨some (windowFileText state'), some state'⟩) := by
      unfold persistedEvaluate
      rw [hload]
      dsimp only
      rw [hnow, hevaluate]
    have hrecording : recordingEvaluate dates state c = (.ok decision, state') := by
      unfold recordingEvaluate
      rw [hevaluate]
    rw [List.map_cons]
    unfold persistedRun recordingRun
    dsimp only
    rw [hpersisted, hrecording]
    dsimp only
    rw [ih hcalls.2 _ state' (standsFor_written hstate') hstate']

/-! ## Histories -/

/-- The alerts that were delivered, each with its time. -/
def deliveredIn (dates : DateFormat) (calls : List WindowCall) (answers : List WindowAnswer) :
    List (TelemetryDeliveryAlert × ℤ) :=
  (calls.zip answers).filterMap fun (c, answer) =>
    match answer, c.time dates with
    | .ok decision, some time => if decision.shouldDeliver then some (c.alert, time) else none
    | _, _ => none

/-- The time of the last delivered alert of a kind. -/
def lastDelivered (same : TelemetryDeliveryAlert → Prop) [DecidablePred same]
    (history : List (TelemetryDeliveryAlert × ℤ)) : Option ℤ :=
  ((history.filter fun e => same e.1).getLast?).map Prod.snd

/-- For a positive window, the last delivered alert of a kind lies less than that before a time. -/
def Reaches (windowMs : Option Number) (same : TelemetryDeliveryAlert → Prop) [DecidablePred same]
    (history : List (TelemetryDeliveryAlert × ℤ)) (time : ℤ) : Prop :=
  ∃ w previous, windowMs = some w ∧ w.isPositive = true ∧
    lastDelivered same history = some previous ∧ w.exceeds (time - previous) = true

instance (a b : TelemetryDeliveryAlert) : Decidable (SameKind a b) :=
  inferInstanceAs (Decidable (_ ∧ _ ∧ _))

instance (a b : TelemetryDeliveryAlert) : Decidable (SameNumbers a b) :=
  inferInstanceAs (Decidable (_ ∧ _))

/-- One of the windows suppresses the alert of a call, given what a sink is. -/
def Suppressed {σ : Type} [DecidableEq σ] (sink : TelemetryDeliveryAlert → σ)
    (history : List (TelemetryDeliveryAlert × ℤ)) (c : WindowCall) (time : ℤ) : Prop :=
  Reaches c.policy.dedupeWindowMs
      (fun a => SameKind a c.alert ∧ SameNumbers a c.alert ∧ sink a = sink c.alert) history time ∨
    Reaches c.policy.cooldownWindowMs (fun a => SameKind a c.alert ∧ sink a = sink c.alert)
      history time

/-- A store recalls the last delivery under each key. -/
def Recalls (dates : DateFormat) (deliveries : Map Str Str) (key : TelemetryDeliveryAlert → Str)
    (history : List (TelemetryDeliveryAlert × ℤ)) : Prop :=
  ∀ alert, (deliveries.get? (key alert)).map dates.parse =
    (lastDelivered (fun a => key a = key alert) history).map some

section

variable {dates : DateFormat} {deliveries : Map Str Str} {key : TelemetryDeliveryAlert → Str}
  {history : List (TelemetryDeliveryAlert × ℤ)} {alert : TelemetryDeliveryAlert} {time : ℤ}
  {timestamp : Str}

lemma lastDelivered_snoc (same : TelemetryDeliveryAlert → Prop) [DecidablePred same]
    (alert : TelemetryDeliveryAlert) (time : ℤ) :
    lastDelivered same (history ++ [(alert, time)]) =
      if same alert then some time else lastDelivered same history := by
  unfold lastDelivered
  rw [List.filter_append]
  by_cases h : same alert
  · rw [if_pos h, List.filter_cons_of_pos (by simpa using h), List.filter_nil,
      List.getLast?_concat]
    rfl
  · rw [if_neg h, List.filter_cons_of_neg (by simpa using h), List.filter_nil, List.append_nil]

lemma lastDelivered_congr {same same' : TelemetryDeliveryAlert → Prop} [DecidablePred same]
    [DecidablePred same'] (h : ∀ a, same a ↔ same' a) :
    lastDelivered same history = lastDelivered same' history := by
  unfold lastDelivered
  have hfilter : (fun e : TelemetryDeliveryAlert × ℤ => decide (same e.1)) =
      fun e => decide (same' e.1) := by
    funext e
    exact decide_eq_decide.mpr (h e.1)
  rw [hfilter]

/-- A delivery is recalled. -/
lemma Recalls.deliver (h : Recalls dates deliveries key history)
    (hparse : dates.parse timestamp = some time) (alert : TelemetryDeliveryAlert) :
    Recalls dates (deliveries.set (key alert) timestamp) key (history ++ [(alert, time)]) := by
  intro other
  rw [Map.get?_set, lastDelivered_snoc]
  by_cases hkey : key alert = key other
  · rw [if_pos hkey.symm, if_pos hkey, Option.map_some, Option.map_some, hparse]
  · rw [if_neg (Ne.symm hkey), if_neg hkey]
    exact h other

/-- A window finds an earlier delivery exactly where it reaches back to the last one. -/
lemma previousWithin_isSome_iff (alert : TelemetryDeliveryAlert) (hdates : dates.Lawful)
    (h : Recalls dates deliveries key history) (hparse : dates.parse timestamp = some time)
    (windowMs : Option Number) :
    (previousWithin dates deliveries (key alert) timestamp (windowOf windowMs)).isSome ↔
      Reaches windowMs (fun a => key a = key alert) history time := by
  unfold Reaches
  cases windowMs with
  | none =>
    have hzero : (windowOf none).isPositive = false := by decide +kernel
    unfold previousWithin
    rw [if_neg (by rw [hzero]; exact Bool.false_ne_true)]
    constructor
    · exact nofun
    · intro ⟨_, _, hw, _⟩
      exact nomatch hw
  | some w =>
    have hrecall := h alert
    show (previousWithin dates deliveries (key alert) timestamp w).isSome ↔ _
    unfold previousWithin
    by_cases hpositive : w.isPositive = true
    · rw [if_pos hpositive]
      cases hget : deliveries.get? (key alert) with
      | none =>
        rw [hget, Option.map_none] at hrecall
        constructor
        · exact nofun
        · intro ⟨_, previous, _, _, hlast, _⟩
          rw [hlast] at hrecall
          exact nomatch hrecall
      | some text =>
        rw [hget, Option.map_some] at hrecall
        cases hlast : lastDelivered (fun a => key a = key alert) history with
        | none =>
          rw [hlast] at hrecall
          exact nomatch hrecall
        | some previous =>
          rw [hlast, Option.map_some] at hrecall
          have htext : dates.parse text = some previous := Option.some.inj hrecall
          have hne : text ≠ [] := by
            intro hnil
            rw [hnil, hdates.parse_nil] at htext
            exact nomatch htext
          have hwithin : isWithinTelemetryWindow dates text timestamp w =
              w.exceeds (time - previous) := by
            unfold isWithinTelemetryWindow
            rw [htext, hparse]
          rw [Option.isSome_filter]
          simp only [Option.any_some, Bool.and_eq_true, decide_eq_true_eq, hwithin]
          constructor
          · intro ⟨_, hexceeds⟩
            exact ⟨w, previous, rfl, hpositive, rfl, hexceeds⟩
          · intro ⟨_, _, hw, _, hprevious, hexceeds⟩
            rw [Option.some.inj hw, Option.some.inj hprevious]
            exact ⟨hne, hexceeds⟩
    · rw [if_neg hpositive]
      constructor
      · exact nofun
      · intro ⟨_, _, hw, hpositive', _⟩
        rw [← Option.some.inj hw] at hpositive'
        exact absurd hpositive' hpositive

lemma reaches_congr {windowMs : Option Number} {same same' : TelemetryDeliveryAlert → Prop}
    [DecidablePred same] [DecidablePred same'] (h : ∀ a, same a ↔ same' a) :
    Reaches windowMs same history time ↔ Reaches windowMs same' history time := by
  unfold Reaches
  rw [lastDelivered_congr h]

end

/-! ## Runs -/

/-- The state of a store remembers what was delivered. -/
structure Remembers (dates : DateFormat) (state : WindowState)
    (history : List (TelemetryDeliveryAlert × ℤ)) : Prop where
  exact : Recalls dates state.exactDeliveries createTelemetryAlertExactKey history
  cooldown : Recalls dates state.cooldownDeliveries createTelemetryAlertCooldownKey history

def emptyWindowState : WindowState := ⟨Map.empty, Map.empty, []⟩

section

variable {dates : DateFormat} {state : WindowState} {c : WindowCall} {time : ℤ}
  {history : List (TelemetryDeliveryAlert × ℤ)}

lemma remembers_empty : Remembers dates emptyWindowState [] :=
  ⟨fun _ => rfl, fun _ => rfl⟩

/-- A call suppresses its alert exactly where a window does, and what is suppressed is not
remembered. -/
lemma recordingEvaluate_spec (hdates : dates.Lawful) (h : Remembers dates state history)
    (htime : c.time dates = some time) (htext : (dates.toISOString time).isSome) :
    ∃ decision state', recordingEvaluate dates state c = (.ok decision, state') ∧
      (decision.shouldDeliver = false ↔
        Suppressed TelemetryDeliveryAlert.sinkKey history c time) ∧
      Remembers dates state'
        (history ++ if decision.shouldDeliver then [(c.alert, time)] else []) := by
  obtain ⟨timestamp, htext⟩ := Option.isSome_iff_exists.mp htext
  have hparse := hdates.parse_toISOString time timestamp htext
  have hexact := previousWithin_isSome_iff c.alert hdates h.exact hparse
    c.policy.dedupeWindowMs
  have hcooldown := previousWithin_isSome_iff c.alert hdates h.cooldown hparse
    c.policy.cooldownWindowMs
  have hsuppressed : Suppressed TelemetryDeliveryAlert.sinkKey history c time ↔
      (previousWithin dates state.exactDeliveries (createTelemetryAlertExactKey c.alert) timestamp
        (windowOf c.policy.dedupeWindowMs)).isSome ∨
      (previousWithin dates state.cooldownDeliveries (createTelemetryAlertCooldownKey c.alert)
        timestamp (windowOf c.policy.cooldownWindowMs)).isSome := by
    rw [hexact, hcooldown]
    exact or_congr (reaches_congr fun a => exactKey_eq_iff.symm)
      (reaches_congr fun a => cooldownKey_eq_iff.symm)
  have hevaluate := evaluate_of_timestamp state
    (normalize_of_time hdates htime htext)
  unfold recordingEvaluate
  rw [hevaluate, hsuppressed]
  cases hfirst : previousWithin dates state.exactDeliveries (createTelemetryAlertExactKey c.alert)
      timestamp (windowOf c.policy.dedupeWindowMs) with
  | some previous =>
    refine ⟨_, _, rfl, iff_of_true rfl (Or.inl rfl), ?_⟩
    show Remembers dates _ (history ++ [])
    rw [List.append_nil]
    exact ⟨h.exact, h.cooldown⟩
  | none =>
    cases hsecond : previousWithin dates state.cooldownDeliveries
        (createTelemetryAlertCooldownKey c.alert) timestamp
        (windowOf c.policy.cooldownWindowMs) with
    | some previous =>
      refine ⟨_, _, rfl, iff_of_true rfl (Or.inr rfl), ?_⟩
      show Remembers dates _ (history ++ [])
      rw [List.append_nil]
      exact ⟨h.exact, h.cooldown⟩
    | none =>
      refine ⟨_, _, rfl, iff_of_false (Bool.noConfusion) ?_, ?_⟩
      · rintro (hsome | hsome)
        · exact nomatch hsome
        · exact nomatch hsome
      · exact ⟨h.exact.deliver hparse c.alert, h.cooldown.deliver hparse c.alert⟩

lemma deliveredIn_cons {decision : TelemetryAlertDeliveryWindowDecision}
    (htime : c.time dates = some time) (rest : List WindowCall) (answers : List WindowAnswer) :
    deliveredIn dates (c :: rest) (.ok decision :: answers) =
      (if decision.shouldDeliver then [(c.alert, time)] else []) ++
        deliveredIn dates rest answers := by
  unfold deliveredIn
  rw [List.zip_cons_cons, List.filterMap_cons]
  dsimp only
  rw [htime]
  obtain ⟨alert, shouldDeliver, suppression⟩ := decision
  cases shouldDeliver <;> rfl

lemma recordingRun_cons (rest : List WindowCall) : recordingRun dates state (c :: rest) =
    (recordingEvaluate dates state c).1 ::
      recordingRun dates (recordingEvaluate dates state c).2 rest := rfl

/-- Every answer of a run suppresses what the windows suppress behind the calls before it. -/
theorem recordingRun_spec (hdates : dates.Lawful) (before : List WindowCall) (c : WindowCall)
    (after : List WindowCall) (hcalls : ∀ call ∈ before ++ c :: after, call.Timestamped dates)
    (state : WindowState) (history : List (TelemetryDeliveryAlert × ℤ))
    (h : Remembers dates state history) (time : ℤ) (htime : c.time dates = some time) :
    ∃ decision, (recordingRun dates state (before ++ c :: after))[before.length]? =
        some (.ok decision) ∧
      (decision.shouldDeliver = false ↔ Suppressed TelemetryDeliveryAlert.sinkKey
        (history ++ deliveredIn dates before (recordingRun dates state (before ++ c :: after)))
        c time) := by
  induction before generalizing state history with
  | nil =>
    rw [List.nil_append, List.forall_mem_cons] at hcalls
    obtain ⟨time', htime', htext⟩ := hcalls.1
    rw [htime] at htime'
    obtain rfl := Option.some.inj htime'
    obtain ⟨decision, state', hevaluate, hiff, -⟩ := recordingEvaluate_spec hdates h htime htext
    refine ⟨decision, ?_, ?_⟩
    · unfold recordingRun
      rw [List.nil_append]
      dsimp only
      rw [hevaluate]
      rfl
    · show _ ↔ Suppressed _ (history ++ []) c time
      rw [List.append_nil]
      exact hiff
  | cons first before ih =>
    rw [List.cons_append, List.forall_mem_cons] at hcalls
    obtain ⟨time', htime', htext⟩ := hcalls.1
    obtain ⟨decision', state', hevaluate, -, hremembers⟩ :=
      recordingEvaluate_spec hdates h htime' htext
    have hrun : recordingRun dates state (first :: before ++ c :: after) =
        .ok decision' :: recordingRun dates state' (before ++ c :: after) := by
      rw [List.cons_append, recordingRun_cons, hevaluate]
    obtain ⟨decision, hanswer, hiff⟩ := ih hcalls.2 state' _ hremembers
    refine ⟨decision, ?_, ?_⟩
    · rw [hrun]
      exact hanswer
    · rw [hrun, deliveredIn_cons htime', ← List.append_assoc]
      exact hiff

end

/-- The windows suppress what they should, given what a sink is, and restarts do not show. -/
def WindowsHold {σ : Type} [DecidableEq σ] (sink : TelemetryDeliveryAlert → σ) (dates : DateFormat)
    (calls : List (Bool × WindowCall)) : Prop :=
  persistedRun dates ⟨none, none⟩ calls =
      recordingRun dates emptyWindowState (calls.map Prod.snd) ∧
    ∀ before c after, calls.map Prod.snd = before ++ c :: after →
      ∀ time, c.time dates = some time →
        ∃ decision, (persistedRun dates ⟨none, none⟩ calls)[before.length]? = some (.ok decision) ∧
          (decision.shouldDeliver = false ↔ Suppressed sink
            (deliveredIn dates before (persistedRun dates ⟨none, none⟩ calls)) c time)

/-- Where no label counts as the empty one, the windows suppress exactly what they should. -/
theorem windows_hold (dates : DateFormat) (hdates : dates.Lawful) (calls : List (Bool × WindowCall))
    (hcalls : ∀ c ∈ calls, c.2.Timestamped dates) :
    WindowsHold TelemetryDeliveryAlert.sinkKey dates calls := by
  have hempty : Writable emptyWindowState :=
    ⟨fun _ h => absurd h List.not_mem_nil, fun _ h => absurd h List.not_mem_nil, trivial⟩
  have hrun := persistedRun_eq hdates calls hcalls ⟨none, none⟩ emptyWindowState ⟨rfl, rfl⟩ hempty
  refine ⟨hrun, fun before c after hsplit time htime => ?_⟩
  rw [hrun, hsplit]
  have hall : ∀ call ∈ before ++ c :: after, call.Timestamped dates := by
    intro call hcall
    rw [← hsplit] at hcall
    obtain ⟨entry, hentry, rfl⟩ := List.mem_map.mp hcall
    exact hcalls entry hentry
  exact recordingRun_spec hdates before c after hall emptyWindowState [] remembers_empty time htime

/-- An alert of one sink, with a label or without one. -/
def failuresAlert (sinkLabel : Option Str) : TelemetryDeliveryAlert where
  level := .warn
  scope := .sink
  metric := .failures
  message := js "failures"
  observed := .finite (.ofNat 3)
  threshold := .finite (.ofNat 2)
  sinkIndex := some (.finite (.ofNat 0))
  sinkLabel := sinkLabel

/-- A call with a window of two minutes for its like. -/
def dedupeCall (sinkLabel : Option Str) (now : Str) : WindowCall where
  alert := failuresAlert sinkLabel
  policy := ⟨some (.finite (.ofNat 120000)), none⟩
  now := some now
  optionsNow := none
  clock := js "1970-01-01T00:00:00.000Z"

/-- The alert again, a minute later and behind a restart. -/
theorem windows_hold_minutes :
    WindowsHold TelemetryDeliveryAlert.sinkKey (Scheduler.tableDates Scheduler.minutes)
      [(false, dedupeCall (some (js "a|b")) (js "1970-01-01T00:00:00.000Z")),
        (true, dedupeCall (some (js "a|b")) (js "1970-01-01T00:01:00.000Z"))] := by
  refine windows_hold _ Scheduler.minutes_lawful _ fun c hc => ?_
  simp only [List.mem_cons, List.not_mem_nil, or_false] at hc
  rcases hc with rfl | rfl
  · exact ⟨0, by decide +kernel, by decide +kernel⟩
  · exact ⟨60000, by decide +kernel, by decide +kernel⟩

/-- A sink without a label and one with the empty label share their keys. -/
theorem empty_label_is_none :
    ¬ WindowsHold TelemetryDeliveryAlert.sink (Scheduler.tableDates Scheduler.minutes)
      [(false, dedupeCall none (js "1970-01-01T00:00:00.000Z")),
        (false, dedupeCall (some []) (js "1970-01-01T00:01:00.000Z"))] := by
  intro h
  let dates := Scheduler.tableDates Scheduler.minutes
  let first := dedupeCall none (js "1970-01-01T00:00:00.000Z")
  let second := dedupeCall (some []) (js "1970-01-01T00:01:00.000Z")
  have hrun : (persistedRun dates ⟨none, none⟩ [(false, first), (false, second)])[1]? =
      some (.ok ⟨failuresAlert (some []), false, some ⟨.dedupe, failuresAlert (some []),
        js "1970-01-01T00:01:00.000Z", js "1970-01-01T00:00:00.000Z",
        createTelemetryAlertExactKey (failuresAlert none)⟩⟩) := by decide +kernel
  have hlast : lastDelivered (fun a => SameKind a second.alert ∧ SameNumbers a second.alert ∧
      a.sink = second.alert.sink) (deliveredIn dates [first]
        (persistedRun dates ⟨none, none⟩ [(false, first), (false, second)])) = none := by
    decide +kernel
  obtain ⟨decision, hdecision, hiff⟩ :=
    h.2 [first] second [] rfl 60000 (by decide +kernel)
  have hshould : decision.shouldDeliver = false := by
    rw [← Except.ok.inj (Option.some.inj (hrun.symm.trans hdecision))]
  rcases hiff.mp hshould with ⟨_, _, _, _, hprevious, _⟩ | ⟨_, _, hwindow, _⟩
  · exact nomatch hlast.symm.trans hprevious
  · exact nomatch hwindow

end CodexRouter.Telemetry
