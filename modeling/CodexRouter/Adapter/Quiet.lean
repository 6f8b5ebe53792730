import CodexRouter.Adapter.Operator
import CodexRouter.Runs.Steps

/-!
# Calls that answer nobody

Marking, transitions and the journal send no response, touch no approval and add no item.
-/

open Js Runs CodexRouter.Kernel

namespace CodexRouter.Adapter

open Preview Authorization Retain Comp

/-- No response, no approval and no item came or went. -/
structure Quiet (s t : AdapterState) : Prop where
  responses : t.responses = s.responses
  approvals : t.approvals = s.approvals
  items : ∀ key, (t.items.get? key).isSome = (s.items.get? key).isSome

instance : IsPreorder AdapterState Quiet where
  refl _ := ⟨rfl, rfl, fun _ => rfl⟩
  trans _ _ _ h h' := ⟨h'.responses.trans h.responses, h'.approvals.trans h.approvals,
    fun key => (h'.items key).trans (h.items key)⟩

/-- No response was sent. -/
def Silent (s t : AdapterState) : Prop := t.responses = s.responses

instance : IsPreorder AdapterState Silent where
  refl _ := rfl
  trans _ _ _ h h' := h'.trans h

lemma Quiet.silent {α : Type} {x : Call α} (hx : Steps Quiet x) : Steps Silent x :=
  hx.mono fun _ _ h => h.responses

lemma silent_modifyApproval (requestId : Str) (f : ApprovalRecord → ApprovalRecord) :
    Steps Silent (modifyApproval requestId f) := fun _ => rfl

lemma quiet_ask {α : Type} (answer : ℕ → α) : Steps Quiet (ask answer) :=
  fun _ => ⟨rfl, rfl, fun _ => rfl⟩

lemma quiet_current (item : ItemRecord) : Steps Quiet (current item) := Steps.read _

lemma quiet_getItem (key : Str) : Steps Quiet (getItem key) := Steps.read _

lemma quiet_modifyItem (key : Str) (f : ItemRecord → ItemRecord) :
    Steps Quiet (modifyItem key f) := by
  intro s
  refine ⟨rfl, rfl, fun k => ?_⟩
  show ((s.items.modify key f).get? k).isSome = _
  rw [Map.get?_modify]
  split_ifs with h
  · rw [Option.isSome_map, h]
  · rfl

lemma quiet_modifyTurn (key : Str) (f : TurnRecord → TurnRecord) :
    Steps Quiet (modifyTurn key f) := fun _ => ⟨rfl, rfl, fun _ => rfl⟩

lemma quiet_turn (threadId turnId : Str) : Steps Quiet (turn threadId turnId) := by
  intro s
  unfold turn
  split
  · exact refl s
  · exact ⟨rfl, rfl, fun _ => rfl⟩

lemma quiet_transitionItem (item : ItemRecord) (next : FileChangeLifecycleState) :
    Steps Quiet (transitionItem item next) := by
  unfold transitionItem
  apply Steps.bind (quiet_current _)
  intro item
  split_ifs
  · exact Steps.pure ()
  · exact quiet_modifyItem _ _
  · exact Steps.lift _

section
variable {options : CodexAppServerAdapterOptions} {env : Env}

lemma quiet_outcome (status : OutcomeStatus) (reasons : List Str) (details : OutcomeDetails) :
    Steps Quiet (outcome options status reasons details) := by
  unfold outcome
  apply Steps.read_bind
  intro failures
  exact Steps.pure _

lemma quiet_quarantinedOutcome (details : OutcomeDetails) :
    Steps Quiet (quarantinedOutcome options details) := by
  unfold quarantinedOutcome
  apply Steps.read_bind
  intro reason
  exact quiet_outcome _ _ _

/-! ## The journal -/

variable [Runtime]

lemma quiet_journalUpdate (fault : JournalFault) (journalId : Str)
    (change : PendingApprovalJournalEntry → PendingApprovalJournalEntry) :
    Steps Quiet (journalUpdate options fault journalId change) := by
  unfold journalUpdate
  split_ifs
  · exact Steps.lift _
  all_goals
    apply Steps.bind
    · apply Steps.attempt
      intro s a t h
      obtain ⟨⟨journal, entry⟩, -, h⟩ := bind_eq_ok.mp h
      cases h
      exact ⟨rfl, rfl, fun _ => rfl⟩
    · intro _
      exact Steps.lift _

omit [Runtime] in
lemma quiet_journalGet (journalId : Str) : Steps Quiet (journalGet options env journalId) := by
  unfold journalGet
  apply Steps.bind (quiet_ask _)
  intro fault
  split_ifs
  · exact Steps.read _
  · exact Steps.lift _

lemma quiet_updateJournalState (item : ItemRecord) (next : PendingApprovalJournalState)
    (reasons : List Str) : Steps Quiet (updateJournalState options env item next reasons) := by
  apply Steps.bind (quiet_current _)
  intro item
  split
  · exact Steps.pure ()
  · apply Steps.bind (quiet_ask _)
    intro now
    apply Steps.bind (quiet_ask _)
    intro fault
    apply Steps.read_bind
    intro found
    apply Steps.handle (quiet_journalUpdate _ _ _)
    intro error
    apply Steps.bind
    · apply Steps.handle (quiet_journalGet _)
      intro _
      exact Steps.lift _
    · intro persisted
      exact Steps.ite (Steps.pure ()) (Steps.lift _)

/-! ## Reconciliation -/

omit [Runtime] in
lemma quiet_failures (f : Map Str (List Str) → Map Str (List Str)) :
    Steps Quiet (Comp.modify fun state : AdapterState => { state with
      journalReconciliationFailures := f state.journalReconciliationFailures } : Call Unit) :=
  fun _ => ⟨rfl, rfl, fun _ => rfl⟩

lemma quiet_markItemReconciliation (item : ItemRecord) (reasons : List Str) :
    Steps Quiet (markItemReconciliation options env item reasons) := by
  have hrest : ∀ item : ItemRecord, Steps Quiet (do
      let previous ← Comp.read fun state => state.journalReconciliationFailures.get? item.key
      let combinedReasons := uniqueStrings (previous.getD [] ++ reasons)
      Comp.handle
        (do
          updateJournalState options env item .reconciliationRequired combinedReasons
          Comp.modify fun state => { state with
            journalReconciliationFailures := state.journalReconciliationFailures.delete item.key })
        fun _ => Comp.modify fun state => { state with
          journalReconciliationFailures :=
            state.journalReconciliationFailures.set item.key combinedReasons } : Call Unit) := by
    intro item
    apply Steps.read_bind
    intro previous
    apply Steps.handle
    · apply Steps.bind (quiet_updateJournalState _ _ _)
      intro _
      exact quiet_failures fun failures => failures.delete item.key
    · intro _
      exact quiet_failures fun failures => failures.set item.key _
  unfold markItemReconciliation
  apply Steps.bind (quiet_current _)
  intro item
  split_ifs
  · apply Steps.bind (quiet_transitionItem _ _)
    intro _
    exact hrest item
  · exact hrest item

lemma quiet_markItems (test : ItemRecord → Bool) (reasons : List Str) :
    Steps Quiet (markItems options env test reasons) := by
  unfold markItems
  apply Steps.read_bind
  intro items
  apply Steps.forM
  intro item _
  apply Steps.bind (quiet_current _)
  intro item
  split_ifs
  · exact quiet_markItemReconciliation _ _
  · exact Steps.pure ()

lemma quiet_markTurnForReconciliation (threadId turnId reason : Str) :
    Steps Quiet (markTurnForReconciliation options env threadId turnId reason) := by
  unfold markTurnForReconciliation
  apply Steps.bind (quiet_turn _ _)
  intro _
  apply Steps.bind (quiet_modifyTurn _ _)
  intro _
  exact quiet_markItems _ _

lemma quiet_quarantineSession (reason : Str) :
    Steps Quiet (quarantineSession options env reason) := by
  unfold quarantineSession
  apply Steps.read_bind
  intro compromised
  apply Steps.bind
  · intro s
    exact ⟨rfl, rfl, fun _ => rfl⟩
  · intro _
    exact quiet_markItems _ _

lemma quiet_retryJournalReconciliationFailures :
    Steps Quiet (retryJournalReconciliationFailures options env) := by
  unfold retryJournalReconciliationFailures
  apply Steps.read_bind
  intro failures
  apply Steps.forM
  intro ⟨key, reasons⟩ _
  apply Steps.bind (quiet_getItem _)
  intro found
  split
  · exact Steps.pure ()
  · apply Steps.handle
    · apply Steps.bind (quiet_updateJournalState _ _ _)
      intro _
      exact quiet_failures fun failures => failures.delete key
    · intro _
      exact Steps.pure ()

lemma quiet_ensureJournalContinuity : Steps Quiet (ensureJournalContinuity options env) := by
  unfold ensureJournalContinuity
  apply Steps.bind quiet_retryJournalReconciliationFailures
  intro _
  apply Steps.read_bind
  intro compromised
  split_ifs
  · exact Steps.pure ()
  · apply Steps.bind (quiet_ask _)
    intro fault
    split_ifs
    · exact quiet_quarantineSession _
    · apply Steps.read_bind
      intro unresolved
      split_ifs
      · apply Steps.handle (quiet_quarantineSession _)
        intro _
        exact quiet_quarantineSession _
      · exact Steps.pure ()

end

end CodexRouter.Adapter
