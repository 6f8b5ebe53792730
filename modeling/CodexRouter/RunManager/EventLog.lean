import CodexRouter.Runs.Calls
import CodexRouter.RunManager.Admitted

/-!
# The event log of a run manager

The event of an operation is appended after its change. It is refused when the log has its id, or
when the clock reads nothing; the change then stays without an event.
-/

open Js CodexRouter.Kernel CodexRouter.Store Runs

namespace CodexRouter.RunManager

/-! ## The event of a draft -/

/-- What the schema reads from a draft's document. -/
def EventDraft.event (draft : EventDraft) (eventId createdAt : Str) : Event where
  eventId
  eventType := draft.eventType
  taskId := draft.taskId
  runId := draft.runId
  stepId := draft.stepId.filter (· ≠ [])
  principalId := none
  createdAt
  payload := draft.payload.filter fun e => e.1 ≠ js "__proto__"
  prevHash := none
  hash := none

lemma read_optional_nonEmpty {s : Str} (h : s ≠ []) :
    (Slot.optional .nonEmptyString).read (some (.str s)) = .ok (some s) :=
  Parsed.map_eq_ok.mpr ⟨s, Schema.read_nonEmptyString.mpr ⟨rfl, h⟩, rfl⟩

lemma read_event {draft : EventDraft} {eventId createdAt : Str} (hdraft : draft.Sound)
    (hid : eventId ≠ []) (htime : createdAt ≠ []) :
    eventSchema.read (draft.document eventId createdAt) = .ok (draft.event eventId createdAt) := by
  rw [EventDraft.document, eventSchema, Schema.read_object, read_eventFields, EventDraft.event]
  have htask := read_optional_nonEmpty hdraft.taskId
  have hrun := read_optional_nonEmpty hdraft.runId
  cases hstep : draft.stepId.filter (· ≠ []) with
  | none =>
    exact ⟨rfl, ⟨rfl, hid⟩, ⟨rfl, hdraft.eventType⟩, htask, hrun, rfl, rfl, ⟨rfl, htime⟩, rfl, rfl,
      rfl⟩
  | some stepId =>
    have hne : stepId ≠ [] := by simpa using (Option.filter_eq_some_iff.mp hstep).2
    exact ⟨rfl, ⟨rfl, hid⟩, ⟨rfl, hdraft.eventType⟩, htask, hrun, read_optional_nonEmpty hne, rfl,
      ⟨rfl, htime⟩, rfl, rfl, rfl⟩

/-- Without a time there is no event. -/
lemma read_event_untimed {draft : EventDraft} {eventId : Str} (event : Event) :
    eventSchema.read (draft.document eventId []) ≠ .ok event := by
  rw [EventDraft.document, eventSchema, ne_eq, Schema.read_object, read_eventFields]
  intro h
  cases hstep : draft.stepId.filter (· ≠ [])
  all_goals
    rw [hstep] at h
    obtain ⟨-, -, -, -, -, -, -, ⟨hcreated, hne⟩, -⟩ := h
    exact hne (str_inj hcreated).symm

/-- The id that the next event gets. -/
def nextEventId (counters : Counters) (eventType runId : Str) (stepId : Option Str) : Str :=
  eventIdOf eventType runId stepId (counters.eventSequence + 1)

lemma nextEventId_ne_nil (counters : Counters) (eventType runId : Str) (stepId : Option Str) :
    nextEventId counters eventType runId stepId ≠ [] := by
  rw [nextEventId, eventIdOf, List.append_assoc]
  exact fun h => by cases h

/-! ## Appending -/

/-- The next event can be appended: it has a time, and the log does not have its id. -/
def Recordable (desk : Desk) (createdAt eventType runId : Str) (stepId : Option Str) : Prop :=
  createdAt ≠ [] ∧ nextEventId desk.counters eventType runId stepId ∉
    desk.store.events.table.rows.map Event.eventId

section

variable {desk : Desk} {draft : EventDraft} {createdAt : Str}

/-- The counter goes up before anything else. -/
lemma appendEvent_eq : appendEvent draft createdAt desk =
    (do
      let event ← Comp.lift (eventSchema.parse (draft.document
        (nextEventId desk.counters draft.eventType draft.runId draft.stepId) createdAt))
      onStore (·.appendEvent (eventSchema.write event)) : Operation Event)
      ⟨desk.store, { desk.counters with eventSequence := desk.counters.eventSequence + 1 }⟩ := rfl

lemma appendEvent_ok (hdraft : draft.Sound)
    (h : Recordable desk createdAt draft.eventType draft.runId draft.stepId) :
    ∃ eventId event counters events, appendEvent draft createdAt desk =
        (.ok event, ⟨{ desk.store with events }, counters⟩) ∧
      events.table.rows = desk.store.events.table.rows ++ [draft.event eventId createdAt] := by
  obtain ⟨eventId, hid⟩ : ∃ eventId, nextEventId desk.counters draft.eventType draft.runId
    draft.stepId = eventId := ⟨_, rfl⟩
  have hread := read_event hdraft (hid ▸ nextEventId_ne_nil _ _ _ _) h.1
  have hvalid := eventSchema.valid_of_read hread
  have hnot : (draft.event eventId createdAt).eventId ∉
      desk.store.events.table.rows.map Event.eventId := hid ▸ h.2
  have hcreate : desk.store.events.create "event"
      (eventSchema.write (draft.event eventId createdAt)) =
      .ok (draft.event eventId createdAt, desk.store.events.put _ hvalid) :=
    Collection.create_eq_ok.mpr ⟨hvalid, Table.get?_eq_none.mpr hnot, rfl⟩
  refine ⟨eventId, draft.event eventId createdAt,
    { desk.counters with eventSequence := desk.counters.eventSequence + 1 },
    desk.store.events.put _ hvalid, ?_, Table.rows_put_of_not_mem hnot⟩
  rw [appendEvent_eq, hid, Comp.bind_of_ok (lift_parse_ok hread)]
  apply onStore_ok
  rw [InMemoryKernelStore.appendEvent, hcreate]
  rfl

lemma appendEvent_error (hdraft : draft.Sound)
    (h : ¬ Recordable desk createdAt draft.eventType draft.runId draft.stepId) :
    ∃ e counters, appendEvent draft createdAt desk = (.error e, ⟨desk.store, counters⟩) := by
  obtain ⟨eventId, hid⟩ : ∃ eventId, nextEventId desk.counters draft.eventType draft.runId
    draft.stepId = eventId := ⟨_, rfl⟩
  rw [appendEvent_eq, hid]
  by_cases htime : createdAt = []
  · subst htime
    obtain ⟨e, he⟩ := lift_parse_error (fun event => read_event_untimed event)
    exact ⟨e, _, Comp.bind_of_error he⟩
  · have hread := read_event hdraft (hid ▸ nextEventId_ne_nil _ _ _ _) htime
    have hold : desk.store.events.get? (draft.event eventId createdAt).eventId ≠ none := by
      intro hnew
      exact h ⟨htime, hid ▸ Table.get?_eq_none.mp hnew⟩
    rw [Comp.bind_of_ok (lift_parse_ok hread)]
    have hvalid := eventSchema.valid_of_read hread
    cases hcreate : desk.store.events.create "event"
        (eventSchema.write (draft.event eventId createdAt)) with
    | error e =>
      refine ⟨e, _, onStore_error ?_⟩
      rw [InMemoryKernelStore.appendEvent, hcreate]
      rfl
    | ok r =>
      obtain ⟨hagain, hnew, -⟩ := Collection.create_eq_ok.mp hcreate
      have hsame := Except.ok.inj (hvalid.symm.trans hagain)
      exact absurd (hsame ▸ hnew) hold

end

/-! ## State and log -/

def ManagerCall.eventType : ManagerCall → Str
  | .createRunFromTask .. => js "kernel.run.created"
  | .startRun .. => js "kernel.run.started"
  | .completeRun .. => js "kernel.run.completed"
  | .failRun .. => js "kernel.run.failed"
  | .cancelRun .. => js "kernel.run.cancelled"
  | .createStep .. => js "kernel.step.created"
  | .startStep .. => js "kernel.step.started"
  | .completeStep .. => js "kernel.step.completed"
  | .failStep .. => js "kernel.step.failed"
  | .cancelStep .. => js "kernel.step.cancelled"

/-- What the event tells of the call. -/
def ManagerCall.details : ManagerCall → Record
  | .createRunFromTask _ principalId _ => [(js "principalId", .str principalId)]
  | .completeRun _ result => [(js "result", .obj result)]
  | .failRun _ error | .failStep _ error => [(js "error", .obj (normalizeFailure error))]
  | .cancelRun _ reason | .cancelStep _ reason => [(js "reason", .str reason)]
  | .completeStep _ output => [(js "output", .obj output)]
  | .startRun _ | .createStep .. | .startStep _ => []

/-- What the event tells of a stored step. -/
def Stored.members : Stored → Record
  | .run _ => []
  | .step s => [(js "stepId", .str s.stepId), (js "stepKind", .str s.kind.text)]

/-- The step that the event itself names. -/
def ManagerCall.eventStepId : ManagerCall → Stored → Option Str
  | .createStep .., _ => none
  | _, .run _ => none
  | _, .step s => some s.stepId

/-- The event that records a call with what it has stored. -/
def ManagerCall.draft (c : ManagerCall) (stored : Stored) : EventDraft :=
  ⟨c.eventType, stored.runId, stored.taskId, spread c.details stored.members, c.eventStepId stored⟩

/-- A call that returns has appended the one event that records it; a call that throws has left
runs, steps and events. -/
def InStep (c : ManagerCall) (readings : Readings) (desk : Desk) : Prop :=
  match perform readings c desk with
  | (.ok stored, desk') => ∃ eventId, desk'.store.events.table.rows =
      desk.store.events.table.rows ++ [(c.draft stored).event eventId readings.event]
  | (.error _, desk') => desk'.store.runs = desk.store.runs ∧
      desk'.store.steps = desk.store.steps ∧ desk'.store.events = desk.store.events

/-- The checks of a call. -/
def Admitted (desk : Desk) (timestamp : Str) (c : ManagerCall) : Prop :=
  timestamp ≠ [] ∧
    match c with
    | .createRunFromTask taskId _ options => RunCreatable desk taskId options
    | .startRun runId => RunMoves desk.store runId .running
    | .completeRun runId _ => RunMoves desk.store runId .succeeded
    | .failRun runId _ => RunMoves desk.store runId .failed
    | .cancelRun runId _ => RunMoves desk.store runId .cancelled
    | .createStep runId input => StepCreatable desk runId input
    | .startStep stepId => StepMoves desk.store stepId .running
    | .completeStep stepId _ => StepMoves desk.store stepId .succeeded
    | .failStep stepId _ => StepMoves desk.store stepId .failed
    | .cancelStep stepId _ => StepMoves desk.store stepId .cancelled

/-- The run and the step that the event of a call names. -/
def ManagerCall.subject (desk : Desk) : ManagerCall → Str × Option Str
  | .createRunFromTask taskId _ options => (nextRunId desk.counters taskId options, none)
  | .startRun runId | .completeRun runId _ | .failRun runId _ | .cancelRun runId _
  | .createStep runId _ => (runId, none)
  | .startStep stepId | .completeStep stepId _ | .failStep stepId _ | .cancelStep stepId _ =>
    (((desk.store.getStep stepId).map Step.runId).getD [], some stepId)

section

variable {α : Type} {change : Operation α} {draft : α → EventDraft} {stored : α → Stored}
  {desk : Desk} {admitted : Prop} {eventType runId : Str} {stepId : Option Str}
  {readings : Readings}

/-- The three ways a call can go. -/
lemma recorded_cases (h : Described change draft stored desk admitted eventType runId stepId) :
    (¬ admitted ∧ ∃ e counters,
      (stored <$> recorded change draft readings) desk = (.error e, ⟨desk.store, counters⟩)) ∨
    (admitted ∧ ∃ a store, Change desk.store store ∧ (stored a).runId = (draft a).runId ∧
      (stored a).taskId = (draft a).taskId ∧
      ((Recordable desk readings.event eventType runId stepId ∧ ∃ eventId counters events,
        (stored <$> recorded change draft readings) desk =
          (.ok (stored a), ⟨{ store with events }, counters⟩) ∧
        events.table.rows = desk.store.events.table.rows ++
          [(draft a).event eventId readings.event]) ∨
      (¬ Recordable desk readings.event eventType runId stepId ∧ ∃ e counters,
        (stored <$> recorded change draft readings) desk = (.error e, ⟨store, counters⟩)))) := by
  by_cases hadmitted : admitted
  swap
  · obtain ⟨e, counters, he⟩ := h.refused hadmitted
    exact Or.inl ⟨hadmitted, e, counters, Comp.bind_of_error (Comp.bind_of_error he)⟩
  obtain ⟨a, store, counters, ha, hchange, hsequence, hdraft, rfl, rfl, rfl, hrun, htask⟩ :=
    h.made hadmitted
  refine Or.inr ⟨hadmitted, a, store, hchange, hrun, htask, ?_⟩
  have hrecordable : Recordable ⟨store, counters⟩ readings.event (draft a).eventType
      (draft a).runId (draft a).stepId ↔
      Recordable desk readings.event (draft a).eventType (draft a).runId (draft a).stepId := by
    unfold Recordable nextEventId
    rw [hchange.events, hsequence]
  by_cases hnext : Recordable desk readings.event (draft a).eventType (draft a).runId
    (draft a).stepId
  · obtain ⟨eventId, event, counters', events, hevent, hrows⟩ :=
      appendEvent_ok hdraft (hrecordable.mpr hnext)
    refine Or.inl ⟨hnext, eventId, counters', events, ?_, ?_⟩
    · exact Comp.bind_of_ok ((Comp.bind_of_ok ha).trans (Comp.bind_of_ok hevent))
    · rw [hrows, hchange.events]
  · obtain ⟨e, counters', he⟩ := appendEvent_error hdraft (fun hr => hnext (hrecordable.mp hr))
    refine Or.inr ⟨hnext, e, counters', ?_⟩
    exact Comp.bind_of_error ((Comp.bind_of_ok ha).trans (Comp.bind_of_error he))

end

/-- Each of the ten operations is a change with its event. -/
lemma perform_described (readings : Readings) (c : ManagerCall) (desk : Desk) :
    ∃ (α : Type) (change : Operation α) (draft : α → EventDraft) (stored : α → Stored),
      perform readings c = stored <$> recorded change draft readings ∧
      Described change draft stored desk (Admitted desk readings.change c) c.eventType
        (c.subject desk).1 (c.subject desk).2 ∧
      ∀ a, (stored a).runId = (draft a).runId → (stored a).taskId = (draft a).taskId →
        draft a = c.draft (stored a) := by
  cases c with
  | createRunFromTask taskId principalId options =>
    exact ⟨_, _, _, _, rfl, newRun_described (by decide), fun _ _ _ => rfl⟩
  | startRun runId =>
    refine ⟨_, _, _, _, rfl, changeRun_described ?_ (by decide), fun _ _ _ => rfl⟩
    exact fun _ => Or.inl rfl
  | completeRun runId result =>
    refine ⟨_, _, _, _, rfl, changeRun_described ?_ (by decide), fun _ _ _ => rfl⟩
    exact fun _ => Or.inr ⟨_, rfl⟩
  | failRun runId error =>
    refine ⟨_, _, _, _, rfl, changeRun_described ?_ (by decide), fun _ _ _ => rfl⟩
    exact fun _ => Or.inr ⟨_, rfl⟩
  | cancelRun runId reason =>
    refine ⟨_, _, _, _, rfl, changeRun_described ?_ (by decide), fun _ _ _ => rfl⟩
    exact fun _ => Or.inr ⟨_, rfl⟩
  | createStep runId input =>
    have htype : js "kernel.step.created" ≠ [] := by decide
    refine ⟨_, _, _, _, rfl, newStep_described (fun stored =>
      [(js "stepId", .str stored.stepId), (js "stepKind", .str stored.kind.text)]) htype, ?_⟩
    intro ⟨step, run⟩ hrunId htaskId
    -- The event names the run and the task of the run, which are the step's.
    have hrun : run.runId = step.runId := hrunId.symm
    have htask : run.taskId = step.taskId := htaskId.symm
    simp only [runEvent, hrun, htask]
    rfl
  | startStep stepId =>
    refine ⟨_, _, _, _, rfl, changeStep_described ?_ (by decide), fun _ _ _ => rfl⟩
    exact Or.inl ⟨rfl, rfl⟩
  | completeStep stepId output =>
    refine ⟨_, _, _, _, rfl, changeStep_described ?_ (by decide), fun _ _ _ => rfl⟩
    exact Or.inr ⟨by decide, rfl⟩
  | failStep stepId error =>
    refine ⟨_, _, _, _, rfl, changeStep_described ?_ (by decide), fun _ _ _ => rfl⟩
    exact Or.inr ⟨by decide, rfl⟩
  | cancelStep stepId reason =>
    refine ⟨_, _, _, _, rfl, changeStep_described ?_ (by decide), fun _ _ _ => rfl⟩
    exact Or.inr ⟨by decide, rfl⟩

/-- What a call can do: it is refused, it is recorded, or its change stays without an event. -/
theorem perform_cases (readings : Readings) (c : ManagerCall) (desk : Desk) :
    (¬ Admitted desk readings.change c ∧ ∃ e counters,
      perform readings c desk = (.error e, ⟨desk.store, counters⟩)) ∨
    (Admitted desk readings.change c ∧ ∃ stored store, Change desk.store store ∧
      ((Recordable desk readings.event c.eventType (c.subject desk).1 (c.subject desk).2 ∧
        ∃ eventId counters events,
          perform readings c desk = (.ok stored, ⟨{ store with events }, counters⟩) ∧
          events.table.rows = desk.store.events.table.rows ++
            [(c.draft stored).event eventId readings.event]) ∨
      (¬ Recordable desk readings.event c.eventType (c.subject desk).1 (c.subject desk).2 ∧
        ∃ e counters, perform readings c desk = (.error e, ⟨store, counters⟩)))) := by
  obtain ⟨α, change, draft, stored, hperform, hdescribed, hdraft⟩ :=
    perform_described readings c desk
  rw [hperform]
  rcases recorded_cases hdescribed with hrefused |
    ⟨hadmitted, a, store, hchange, hrun, htask, hevent⟩
  · exact Or.inl hrefused
  · refine Or.inr ⟨hadmitted, stored a, store, hchange, ?_⟩
    rw [← hdraft a hrun htask]
    exact hevent

/-- In every store that managers can reach from any store, a call keeps state and log in step
exactly when its checks fail or the next event can be appended. -/
theorem in_step_iff {ι : Type} [DecidableEq ι] (store : InMemoryKernelStore)
    (before : List (ι × ManagerCall × Readings)) (i : ι) (c : ManagerCall) (readings : Readings) :
    let desk := (behind Managers.call (Managers.fresh store) before).desk i
    InStep c readings desk ↔ (Admitted desk readings.change c →
      Recordable desk readings.event c.eventType (c.subject desk).1 (c.subject desk).2) := by
  intro desk
  unfold InStep
  rcases perform_cases readings c desk with ⟨hrefused, e, counters, he⟩ |
    ⟨hadmitted, stored, store', hchange, ⟨hnext, eventId, counters, events, hok, hrows⟩ |
      ⟨hnext, e, counters, he⟩⟩
  · rw [he]
    simp [hrefused]
  · rw [hok]
    simp only [hnext, implies_true, iff_true]
    exact ⟨eventId, hrows⟩
  · rw [he]
    simp only [hadmitted, hnext, imp_false, not_true_eq_false, iff_false]
    exact fun h => hchange.shows ⟨h.1, h.2.1⟩

/-- A call that throws with more or fewer steps behind it is out of step. -/
lemma not_inStep {c : ManagerCall} {readings : Readings} {desk : Desk} {e : Thrown}
    (hthrows : (perform readings c desk).1 = .error e)
    (hsteps : (perform readings c desk).2.store.steps.table.rows.length ≠
      desk.store.steps.table.rows.length) : ¬ InStep c readings desk := by
  unfold InStep
  split
  · rename_i stored desk' hok
    rw [hok] at hthrows
    cases hthrows
  · rename_i e' desk' herror
    rw [herror] at hsteps
    intro ⟨_, hsame, _⟩
    rw [hsame] at hsteps
    exact hsteps rfl

/-- Managers created one after the other over a store with the run `r` both number their first
event 1: the step of the second is stored, its event has the id of the first one's and is
refused. -/
theorem step_without_event :
    let readings : Readings := ⟨js "t0", js "t1"⟩
    let step (stepId : String) : ManagerCall :=
      .createStep (js "r") ⟨some (js stepId), .tool, none, none⟩
    let managers := behind Managers.call (Managers.fresh .empty)
      [(0, .createRunFromTask (js "t") (js "p") ⟨some (js "r"), none, none⟩, readings),
        (1, step "s1", readings)]
    (perform readings (step "s2") (managers.desk 2)).1 =
        .error (.error (js "duplicate_event_id:event_kernel_step_created_r_0001")) ∧
      ¬ InStep (step "s2") readings (managers.desk 2) := by
  intro readings step managers
  have hthrows : (perform readings (step "s2") (managers.desk 2)).1 =
      .error (.error (js "duplicate_event_id:event_kernel_step_created_r_0001")) := by
    decide +kernel
  refine ⟨hthrows, not_inStep hthrows ?_⟩
  decide +kernel

end CodexRouter.RunManager
