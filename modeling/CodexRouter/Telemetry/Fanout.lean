import CodexRouter.Js.Decimal
import CodexRouter.Runs.Logged

/-!
# Telemetry fan-out

A record call hands its event to every sink, again after a failure while retries are left. The
delivery, the report of its success and the handler of errors share one loop.
-/

open Js Runs

namespace CodexRouter.Telemetry

/-! ## Values -/

inductive Thrown where
  | error (message : Str)
  | value (text : Str)
  /-- No `Error`, and `String` does not convert it. -/
  | unreadable
  deriving DecidableEq

def formatTelemetryErrorMessage : Thrown → Except Thrown Str
  | .error message => .ok message
  | .value text => .ok text
  | .unreadable => .error (.error (js "Cannot convert object to primitive value"))

structure FanoutTelemetrySinkEntry where
  label : Option Str
  timeoutMs : Option Js.Num
  retries : Option ℤ
  retryDelayMs : Option Js.Num

/-- What the caller lists: a sink, or an entry with its own settings. -/
inductive FanoutSink where
  | sink
  | entry (sinkEntry : FanoutTelemetrySinkEntry)

inductive TelemetryFanoutFailurePolicy where
  | failFast | bestEffort
  deriving DecidableEq

structure FanoutTelemetrySinkOptions where
  failurePolicy : Option TelemetryFanoutFailurePolicy
  defaultTimeoutMs : Option Js.Num
  defaultRetries : Option ℤ
  defaultRetryDelayMs : Option Js.Num

/-- What the metrics collector is told. -/
inductive Report where
  | dispatch (sinkCount : ℕ)
  | attempt (sinkIndex : ℕ) (sinkLabel : Option Str) (attempt : ℕ)
  | success (sinkIndex : ℕ) (sinkLabel : Option Str)
  | failure (sinkIndex : ℕ) (sinkLabel : Option Str) (timedOut : Bool) (errorMessage : Str)
  deriving DecidableEq

structure SinkErrorContext (E : Type) where
  sinkIndex : ℕ
  sinkLabel : Option Str
  event : E
  error : Thrown
  attempt : ℕ
  maxAttempts : ℕ
  timedOut : Bool
  willRetry : Bool

/-- An invocation of a sink and its outcome. -/
structure Invocation where
  sinkIndex : ℕ
  outcome : Except Thrown Unit
  deriving DecidableEq

/-- What a record call does, step by step. -/
inductive Step (E : Type) where
  | told (report : Report)
  | invoked (invocation : Invocation) (event : E)
  | hooked (context : SinkErrorContext E)
  | delayed (ms : Js.Num)

/-! ## The answers from outside

An absent collector or hook answers like one that returns. -/

/-- A sink settles, and the timer of its call, where there is one, fires before or after that. -/
structure SinkAnswer where
  settled : Except Thrown Unit
  inTime : Bool

structure AttemptAnswers where
  attempt : Except Thrown Unit
  sink : SinkAnswer
  success : Except Thrown Unit
  failure : Except Thrown Unit
  onSinkError : Except Thrown Unit

/-- The answers during one record call, to the dispatch and to each attempt of each sink. -/
structure Answers where
  dispatch : Except Thrown Unit
  attempts : ℕ → ℕ → AttemptAnswers

/-! ## One sink -/

variable {E : Type}

abbrev Recording (E : Type) := Comp Thrown (List (Step E))

/-- A step, and the answer to it. -/
def step (s : Step E) (answer : Except Thrown Unit) : Recording E Unit := fun steps =>
  (answer, steps ++ [s])

def timeoutMessage (timeoutError : Str) (sinkLabel : Option Str) (timeoutMs : Js.Num) : Str :=
  match sinkLabel with
  | some label => if label = [] then timeoutError ++ timeoutMs.1
    else timeoutError ++ label ++ js ":" ++ timeoutMs.1
  | none => timeoutError ++ timeoutMs.1

/-- How the call of a sink settles, raced against a timer. -/
def withOptionalTimeout (timeoutError : Str) (answer : SinkAnswer) (timeoutMs : Option Js.Num)
    (sinkLabel : Option Str) : Except Thrown Unit :=
  match timeoutMs with
  | none => answer.settled
  | some ms =>
    if ms.value ≤ 0 then answer.settled
    else if answer.inTime then answer.settled
    else .error (.error (timeoutMessage timeoutError sinkLabel ms))

def isTimeoutError (timeoutError : Str) : Thrown → Bool
  | .error message => startsWith message timeoutError
  | _ => false

/-- One sink in one record call. -/
structure Delivery (E : Type) where
  timeoutError : Str
  sinkIndex : ℕ
  sinkEntry : FanoutTelemetrySinkEntry
  options : FanoutTelemetrySinkOptions
  event : E
  answers : ℕ → AttemptAnswers

namespace Delivery

variable (d : Delivery E)

def maxAttempts : ℕ :=
  (max 1 ((d.sinkEntry.retries.or d.options.defaultRetries).getD 0 + 1)).toNat

def timeoutMs : Option Js.Num := d.sinkEntry.timeoutMs.or d.options.defaultTimeoutMs

def retryDelayMs : Js.Num :=
  (d.sinkEntry.retryDelayMs.or d.options.defaultRetryDelayMs).getD (.ofNat 0)

def outcome (attempt : ℕ) : Except Thrown Unit :=
  withOptionalTimeout d.timeoutError (d.answers attempt).sink d.timeoutMs d.sinkEntry.label

/-- The `try` of an attempt: the call of the sink and the report of its success. -/
def deliver (attempt : ℕ) : Recording E Unit := do
  step (.invoked ⟨d.sinkIndex, d.outcome attempt⟩ d.event) (d.outcome attempt)
  step (.told (.success d.sinkIndex d.sinkEntry.label)) (d.answers attempt).success

/-- The `catch` of an attempt. -/
def recover (attempt : ℕ) (error : Thrown) : Recording E Unit := do
  let timedOut := isTimeoutError d.timeoutError error
  let willRetry := decide (attempt < d.maxAttempts)
  let errorMessage ← Comp.lift (formatTelemetryErrorMessage error)
  step (.told (.failure d.sinkIndex d.sinkEntry.label timedOut errorMessage))
    (d.answers attempt).failure
  step (.hooked { sinkIndex := d.sinkIndex, sinkLabel := d.sinkEntry.label, event := d.event, error,
                  attempt, maxAttempts := d.maxAttempts, timedOut, willRetry })
    (d.answers attempt).onSinkError
  if !willRetry then Comp.lift (.error error)
  else if 0 < d.retryDelayMs.value then step (.delayed d.retryDelayMs) (.ok ())
  else pure ()

/-- One round of the loop; `true` where the loop goes on. -/
def round (attempt : ℕ) : Recording E Bool := do
  step (.told (.attempt d.sinkIndex d.sinkEntry.label attempt)) (d.answers attempt).attempt
  Comp.handle (do d.deliver attempt; return false)
    fun error => do d.recover attempt error; return true

/-- The loop from an attempt on, with the number of rounds left. -/
def rounds (attempt : ℕ) : ℕ → Recording E Unit
  | 0 => pure ()
  | left + 1 => do if ← d.round attempt then rounds (attempt + 1) left

/-- The two copies of the loop differ in the error of a timeout alone. -/
def recordWithPolicy : Recording E Unit := d.rounds 1 d.maxAttempts

end Delivery

def recordTelemetryWithPolicy (sinkEntry : FanoutTelemetrySinkEntry) (event : E)
    (options : FanoutTelemetrySinkOptions) (sinkIndex : ℕ) (answers : ℕ → AttemptAnswers) :
    Recording E Unit :=
  Delivery.recordWithPolicy
    { timeoutError := js "telemetry_sink_timeout:", sinkIndex, sinkEntry, options, event, answers }

def recordTelemetryAlertWithPolicy (sinkEntry : FanoutTelemetrySinkEntry) (alert : E)
    (options : FanoutTelemetrySinkOptions) (sinkIndex : ℕ) (answers : ℕ → AttemptAnswers) :
    Recording E Unit :=
  Delivery.recordWithPolicy
    { timeoutError := js "telemetry_alert_sink_timeout:", sinkIndex, sinkEntry, options,
      event := alert, answers }

/-! ## All sinks -/

def normalizeFanoutSinkEntry : FanoutSink → FanoutTelemetrySinkEntry
  | .sink => ⟨none, none, none, none⟩
  | .entry sinkEntry => sinkEntry

/-- One call of `record`; `none` stands for what is not there in the list. -/
structure RecordCall (E : Type) where
  sinks : List (Option FanoutSink)
  options : FanoutTelemetrySinkOptions
  event : E
  answers : Answers

namespace RecordCall

variable (c : RecordCall E)

def activeSinks : List FanoutTelemetrySinkEntry :=
  (c.sinks.filterMap id).map normalizeFanoutSinkEntry

def failurePolicy : TelemetryFanoutFailurePolicy := c.options.failurePolicy.getD .failFast

/-- The sinks from an index on, in order. -/
def deliverEach (record : FanoutTelemetrySinkEntry → ℕ → Recording E Unit) :
    ℕ → List FanoutTelemetrySinkEntry → Recording E Unit
  | _, [] => pure ()
  | sinkIndex, sinkEntry :: rest => do
    Comp.handle (record sinkEntry sinkIndex) fun error =>
      if c.failurePolicy = .bestEffort then pure () else Comp.lift (.error error)
    deliverEach record (sinkIndex + 1) rest

end RecordCall

/-- `record` of `createFanoutTelemetrySink`. -/
def fanoutTelemetry (sanitizeLogEvent : E → Except Thrown E) (c : RecordCall E) :
    Recording E Unit := do
  let sanitized ← Comp.lift (sanitizeLogEvent c.event)
  step (.told (.dispatch c.activeSinks.length)) c.answers.dispatch
  c.deliverEach (fun sinkEntry sinkIndex => recordTelemetryWithPolicy sinkEntry sanitized c.options
    sinkIndex (c.answers.attempts sinkIndex)) 0 c.activeSinks

/-- `record` of `createFanoutTelemetryAlertSink`. -/
def fanoutTelemetryAlert (c : RecordCall E) : Recording E Unit := do
  step (.told (.dispatch c.activeSinks.length)) c.answers.dispatch
  c.deliverEach (fun sinkEntry sinkIndex => recordTelemetryAlertWithPolicy sinkEntry c.event
    c.options sinkIndex (c.answers.attempts sinkIndex)) 0 c.activeSinks

/-- The two fan-outs. -/
inductive Fanout (E : Type) where
  | telemetry (sanitizeLogEvent : E → Except Thrown E)
  | alert

namespace Fanout

def record : Fanout E → RecordCall E → Recording E Unit
  | telemetry sanitizeLogEvent, c => fanoutTelemetry sanitizeLogEvent c
  | alert, c => fanoutTelemetryAlert c

/-- What goes to the sinks. -/
def accepted : Fanout E → RecordCall E → Except Thrown E
  | telemetry sanitizeLogEvent, c => sanitizeLogEvent c.event
  | alert, c => .ok c.event

def timeoutError : Fanout E → Str
  | telemetry _ => js "telemetry_sink_timeout:"
  | alert => js "telemetry_alert_sink_timeout:"

end Fanout

/-! ## What a record call did -/

def invocations (steps : List (Step E)) : List Invocation :=
  steps.filterMap fun
    | .invoked invocation _ => some invocation
    | _ => none

def reports (steps : List (Step E)) : List Report :=
  steps.filterMap fun
    | .told report => some report
    | _ => none

/-- No sink is invoked again behind its success. -/
def NoneAfterSuccess (made : List Invocation) : Prop :=
  made.Pairwise fun first later => first.outcome = .ok () → later.sinkIndex ≠ first.sinkIndex

def timesInvoked (sinkIndex : ℕ) (made : List Invocation) : ℕ :=
  made.countP fun invocation => invocation.sinkIndex = sinkIndex

/-- The sink had a successful invocation. -/
def Delivered (sinkIndex : ℕ) (made : List Invocation) : Prop :=
  ⟨sinkIndex, .ok ()⟩ ∈ made

/-- Every sink below the bound was tried, in order. -/
def TriedInOrder (sinkCount : ℕ) (made : List Invocation) : Prop :=
  (made.map (·.sinkIndex)).Pairwise (· ≤ ·) ∧
    ∀ sinkIndex, sinkIndex ∈ made.map (·.sinkIndex) ↔ sinkIndex < sinkCount

@[simp] lemma invocations_append (a b : List (Step E)) :
    invocations (a ++ b) = invocations a ++ invocations b := List.filterMap_append

@[simp] lemma reports_append (a b : List (Step E)) : reports (a ++ b) = reports a ++ reports b :=
  List.filterMap_append

lemma logs_step (s : Step E) (answer : Except Thrown Unit) : (step s answer).Logs :=
  .append answer [s]

end CodexRouter.Telemetry
