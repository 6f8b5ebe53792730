import CodexRouter.Adapter.Invariants

/-!
# Shared calls as runs of moves

Marking, transitions, the journal and the sending of a decision, each as moves for one turn.
-/

open Js Runs CodexRouter.Kernel

namespace CodexRouter.Adapter

open Preview Authorization Retain Relation Comp

variable [Runtime] {options : CodexAppServerAdapterOptions} {env : Env} {threadId turnId : Str}
  {s : AdapterState}

/-- The call is a run of moves for the turn when it starts in `s`. -/
abbrev Performs {α : Type} (options : CodexAppServerAdapterOptions) (threadId turnId : Str)
    (x : Call α) (s : AdapterState) : Prop :=
  StepsAt (Moves options threadId turnId) x s

/-- The key belongs to an item of the turn, or the session is given up. -/
def InScope (threadId turnId : Str) (s : AdapterState) (key : Str) : Prop :=
  (∃ itemId, key = itemKey threadId turnId itemId) ∨ s.sessionCompromisedReason.isSome

omit [Runtime] in
lemma inScope_itemKey (threadId turnId itemId : Str) (s : AdapterState) :
    InScope threadId turnId s (itemKey threadId turnId itemId) := .inl ⟨itemId, rfl⟩

lemma InScope.moves {key : Str} {t : AdapterState} (h : InScope threadId turnId s key)
    (hst : Moves options threadId turnId s t) : InScope threadId turnId t key := by
  rcases h with h | h
  · exact .inl h
  · obtain ⟨reason, hreason⟩ := Option.isSome_iff_exists.mp h
    rw [InScope, hst.compromised hreason]
    exact .inr rfl

/-! ## Changes that no move looks at -/

/-- Questions, the journal and the list of failed updates may differ. -/
def Aside (s t : AdapterState) : Prop :=
  ∃ asked journal failures owned, t = { s with
    asked := asked, journal := journal, journalReconciliationFailures := failures
    ownedJournalIds := owned }

instance : IsPreorder AdapterState Aside where
  refl s := ⟨s.asked, s.journal, s.journalReconciliationFailures, s.ownedJournalIds, rfl⟩
  trans := by
    rintro s t u ⟨_, _, _, _, rfl⟩ ⟨asked, journal, failures, owned, rfl⟩
    exact ⟨asked, journal, failures, owned, rfl⟩

lemma Aside.moves {t : AdapterState} (h : Aside s t) : Moves options threadId turnId s t := by
  obtain ⟨asked, journal, failures, owned, rfl⟩ := h
  exact ReflTransGen.single (.aside asked journal failures owned)

lemma performs_of_aside {α : Type} {x : Call α} (hx : Steps Aside x) :
    Performs options threadId turnId x s := (hx s).moves

omit [Runtime] in
lemma aside_ask {α : Type} (answer : ℕ → α) : Steps Aside (ask answer) := fun s =>
  ⟨_, s.journal, s.journalReconciliationFailures, s.ownedJournalIds, rfl⟩

omit [Runtime] in
lemma aside_failures (f : Map Str (List Str) → Map Str (List Str)) :
    Steps Aside (Comp.modify fun state : AdapterState => { state with
      journalReconciliationFailures := f state.journalReconciliationFailures } : Call Unit) :=
  fun s => ⟨s.asked, s.journal, _, s.ownedJournalIds, rfl⟩

lemma aside_journalUpdate (fault : JournalFault) (journalId : Str)
    (change : PendingApprovalJournalEntry → PendingApprovalJournalEntry) :
    Steps Aside (journalUpdate options fault journalId change) := by
  unfold journalUpdate
  split_ifs
  · exact Steps.lift _
  all_goals
    apply Steps.bind
    · apply Steps.attempt
      intro s a t h
      obtain ⟨⟨journal, entry⟩, -, h⟩ := bind_eq_ok.mp h
      cases h
      exact ⟨s.asked, journal, s.journalReconciliationFailures, s.ownedJournalIds, rfl⟩
    · intro _
      exact Steps.lift _

omit [Runtime] in
lemma aside_journalGet (journalId : Str) : Steps Aside (journalGet options env journalId) := by
  unfold journalGet
  apply Steps.bind (aside_ask _)
  intro fault
  exact Steps.ite (Steps.read _) (Steps.lift _)

lemma aside_updateJournalState (item : ItemRecord) (next : PendingApprovalJournalState)
    (reasons : List Str) : Steps Aside (updateJournalState options env item next reasons) := by
  unfold updateJournalState
  apply Steps.read_bind
  intro item
  split
  · exact Steps.pure ()
  · apply Steps.bind (aside_ask _)
    intro now
    apply Steps.bind (aside_ask _)
    intro fault
    apply Steps.read_bind
    intro found
    apply Steps.handle (aside_journalUpdate _ _ _)
    intro error
    apply Steps.bind
    · exact Steps.handle (aside_journalGet _) fun _ => Steps.lift _
    · intro persisted
      exact Steps.ite (Steps.pure ()) (Steps.lift _)

lemma aside_retryJournalReconciliationFailures :
    Steps Aside (retryJournalReconciliationFailures options env) := by
  unfold retryJournalReconciliationFailures
  apply Steps.read_bind
  intro failures
  apply Steps.forM
  rintro ⟨key, reasons⟩ -
  apply Steps.read_bind
  intro found
  split
  · exact Steps.pure ()
  · apply Steps.handle
    · apply Steps.bind (aside_updateJournalState _ _ _)
      intro _
      exact aside_failures fun failures => failures.delete key
    · intro _
      exact Steps.pure ()

/-! ## Primitive changes -/

lemma performs_modifyItem {key : Str} {f : ItemRecord → ItemRecord}
    (hscope : InScope threadId turnId s key)
    (h : ∀ item, s.items.get? key = some item → ItemMove options s item (f item)) :
    Performs options threadId turnId (modifyItem key f) s := by
  have hcall : (modifyItem key f s).2 = { s with items := s.items.modify key f } := rfl
  unfold Performs StepsAt
  rw [hcall, Map.modify]
  rcases hget : s.items.get? key with _ | item
  · exact ReflTransGen.refl
  · exact ReflTransGen.single (.moveItem hget hscope (h item hget))

lemma performs_modifyTurn {f : TurnRecord → TurnRecord}
    (h : ∀ record, s.turns.get? (turnKey threadId turnId) = some record →
      TurnMove record (f record)) :
    Performs options threadId turnId (modifyTurn (turnKey threadId turnId) f) s := by
  have hcall : (modifyTurn (turnKey threadId turnId) f s).2 =
      { s with turns := s.turns.modify (turnKey threadId turnId) f } := rfl
  unfold Performs StepsAt
  rw [hcall, Map.modify]
  rcases hget : s.turns.get? (turnKey threadId turnId) with _ | record
  · exact ReflTransGen.refl
  · exact ReflTransGen.single (.moveTurn hget (h record hget))

lemma performs_turn : Performs options threadId turnId (turn threadId turnId) s := by
  unfold Performs StepsAt turn
  split
  · exact ReflTransGen.refl
  · rename_i hnew
    exact ReflTransGen.single (.openTurn hnew)

omit [Runtime] in
/-- The turn that is returned is the one in the state. -/
lemma turn_ok {record : TurnRecord} {t : AdapterState}
    (h : turn threadId turnId s = (.ok record, t)) :
    t.turns.get? (turnKey threadId turnId) = some record ∧ t.effects = s.effects ∧
      t.items = s.items ∧ t.approvals = s.approvals ∧
      t.sessionCompromisedReason = s.sessionCompromisedReason := by
  unfold turn at h
  split at h
  · rename_i hget
    cases h
    exact ⟨hget, rfl, rfl, rfl, rfl⟩
  · cases h
    exact ⟨Map.get?_set_self _ _ _, rfl, rfl, rfl, rfl⟩

lemma performs_acceptSequence (sequence : ℕ) :
    Performs options threadId turnId (acceptSequence threadId turnId sequence) s := by
  unfold acceptSequence
  apply StepsAt.bind performs_turn
  intro record t hcall hst
  obtain ⟨hget, -⟩ := turn_ok hcall
  apply StepsAt.ite
  · intro _
    exact StepsAt.pure _
  intro hopen
  apply StepsAt.ite
  · intro _
    apply StepsAt.bind (performs_modifyTurn fun record _ => TurnMove.block record _)
    intro _ _ _ _
    exact StepsAt.pure _
  · intro hnext
    apply StepsAt.bind
    · apply performs_modifyTurn
      intro other hother
      rw [hget] at hother
      cases hother
      rw [not_not.mp hnext]
      exact TurnMove.advance (Bool.not_eq_true _ ▸ hopen)
    · intro _ _ _ _
      exact StepsAt.pure _

/-! ## Transitions -/

omit [Runtime] in
/-- The item as it is now stands under the same key. -/
lemma key_of_current (hs : Kept s) (item : ItemRecord) :
    ((s.items.get? item.key).getD item).key = item.key := by
  rcases hget : s.items.get? item.key with _ | now
  · rfl
  · exact (hs.item_key hget).1

lemma performs_transitionItem (hs : Kept s) {item : ItemRecord}
    (hscope : InScope threadId turnId s item.key) {next : FileChangeLifecycleState}
    (haccepted : next = .acceptedByAppServer → ∀ now, s.items.get? item.key = some now →
      resolveAuthorizationMode options = .authorizationEnforced ∧ Accepted s now)
    (hretained : next = .retained → ∀ now, s.items.get? item.key = some now → Verified now) :
    Performs options threadId turnId (transitionItem item next) s := by
  unfold transitionItem
  apply StepsAt.read_bind
  apply StepsAt.ite
  · intro _
    exact StepsAt.pure ()
  intro _
  apply StepsAt.ite
  · intro hallowed
    rw [key_of_current hs item]
    apply performs_modifyItem hscope
    intro now hnow
    rw [hnow, Option.getD_some] at hallowed
    exact .transition (List.contains_iff_mem.mp hallowed) (fun hnext => haccepted hnext now hnow)
      fun hnext => hretained hnext now hnow
  · intro _
    exact StepsAt.lift _

/-- Most transitions have nothing to earn. -/
lemma performs_plainTransition (hs : Kept s) {item : ItemRecord}
    (hscope : InScope threadId turnId s item.key) {next : FileChangeLifecycleState}
    (haccepted : next ≠ .acceptedByAppServer) (hretained : next ≠ .retained) :
    Performs options threadId turnId (transitionItem item next) s :=
  performs_transitionItem hs hscope (fun hnext => absurd hnext haccepted)
    fun hnext => absurd hnext hretained

/-! ## Reconciliation -/

lemma performs_markItemReconciliation (hs : Kept s) {item : ItemRecord}
    (hscope : InScope threadId turnId s item.key) (reasons : List Str) :
    Performs options threadId turnId (markItemReconciliation options env item reasons) s := by
  have hrest : ∀ item : ItemRecord, Steps Aside (do
      let previous ← Comp.read fun state => state.journalReconciliationFailures.get? item.key
      let combinedReasons := uniqueStrings (previous.getD [] ++ reasons)
      Comp.handle
        (do
          updateJournalState options env item .reconciliationRequired combinedReasons
          Comp.modify fun state => { state with
            journalReconciliationFailures := state.journalReconciliationFailures.delete item.key })
        fun _ => Comp.modify fun state => { state with
          journalReconciliationFailures :=
            state.journalReconciliationFailures.set item.key combinedReasons } : Call Unit) := by
    intro item
    apply Steps.read_bind
    intro previous
    apply Steps.handle
    · apply Steps.bind (aside_updateJournalState _ _ _)
      intro _
      exact aside_failures fun failures => failures.delete item.key
    · intro _
      exact aside_failures fun failures => failures.set item.key _
  unfold markItemReconciliation
  apply StepsAt.read_bind
  split_ifs
  · have hscope' : InScope threadId turnId s ((s.items.get? item.key).getD item).key := by
      rw [key_of_current hs item]
      exact hscope
    apply StepsAt.bind
      (performs_plainTransition hs hscope' FileChangeLifecycleState.noConfusion
        FileChangeLifecycleState.noConfusion)
    intro _ _ _ _
    exact performs_of_aside (hrest _)
  · exact performs_of_aside (hrest _)

/-- The items that the test picks are in scope whenever they are marked. -/
lemma performs_markItems (hs : Kept s) {test : ItemRecord → Bool} {reasons : List Str}
    (h : ∀ t, Moves options threadId turnId s t → ∀ key item, t.items.get? key = some item →
      test item = true → InScope threadId turnId t key) :
    Performs options threadId turnId (markItems options env test reasons) s := by
  unfold markItems
  apply StepsAt.read_bind
  apply StepsAt.forM
  intro item hitem t hst
  obtain ⟨key, hget⟩ : ∃ key, s.items.get? key = some item := by
    obtain ⟨⟨key, value⟩, hmem, rfl⟩ := List.mem_map.mp hitem
    exact ⟨key, Map.get?_eq_some_iff.mpr hmem⟩
  have hkey : item.key = key := (hs.item_key hget).1
  obtain ⟨now, hnow, hlater⟩ := hst.later_item hget
  apply StepsAt.read_bind
  rw [hkey, hnow, Option.getD_some]
  apply StepsAt.ite
  · intro htest
    apply performs_markItemReconciliation (hst.kept hs)
    rw [hlater.key, hkey]
    exact h t hst key now hnow htest
  · intro _
    exact StepsAt.pure ()

lemma performs_markTurnForReconciliation (hs : Kept s) (reason : Str) :
    Performs options threadId turnId
      (markTurnForReconciliation options env threadId turnId reason) s := by
  unfold markTurnForReconciliation
  apply StepsAt.bind performs_turn
  intro _ t _ hst
  apply StepsAt.bind (performs_modifyTurn fun record _ => TurnMove.block record _)
  intro _ u _ htu
  have hkept := htu.kept (hst.kept hs)
  apply performs_markItems hkept
  intro v huv key item hget htest
  obtain ⟨hthread, hturn⟩ : item.threadId = threadId ∧ item.turnId = turnId := by
    simpa using htest
  rw [((huv.kept hkept).item_key hget).2, hthread, hturn]
  exact inScope_itemKey threadId turnId item.itemId v

lemma performs_quarantineSession (hs : Kept s) (reason : Str) :
    Performs options threadId turnId (quarantineSession options env reason) s := by
  unfold quarantineSession
  apply StepsAt.read_bind
  apply StepsAt.bind
  · exact ReflTransGen.single (.quarantine reason)
  · intro _ t hcall hst
    have hgiven : t.sessionCompromisedReason =
        some (s.sessionCompromisedReason.getD reason) := by
      rw [← eq_of_modify_ok hcall]
    apply performs_markItems (hst.kept hs)
    intro v htv key item _ _
    rw [InScope, htv.compromised hgiven]
    exact .inr rfl

lemma performs_ensureJournalContinuity (hs : Kept s) :
    Performs options threadId turnId (ensureJournalContinuity options env) s := by
  unfold ensureJournalContinuity
  apply StepsAt.bind (performs_of_aside aside_retryJournalReconciliationFailures)
  intro _ t _ hst
  have hkept := hst.kept hs
  apply StepsAt.read_bind
  apply StepsAt.ite
  · intro _
    exact StepsAt.pure ()
  intro _
  apply StepsAt.bind (performs_of_aside (aside_ask _))
  intro fault u _ htu
  have hkept := htu.kept hkept
  apply StepsAt.ite
  · intro _
    exact performs_quarantineSession hkept _
  intro _
  apply StepsAt.read_bind
  apply StepsAt.ite
  · intro _
    apply StepsAt.handle (performs_quarantineSession hkept _)
    intro _ v _ huv
    exact performs_quarantineSession (huv.kept hkept) _
  · intro _
    exact StepsAt.pure ()

/-! ## Outcomes -/

lemma performs_outcome (status : OutcomeStatus) (reasons : List Str) (details : OutcomeDetails) :
    Performs options threadId turnId (outcome options status reasons details) s := by
  unfold outcome
  apply StepsAt.read_bind
  exact StepsAt.pure _

lemma performs_quarantinedOutcome (details : OutcomeDetails) :
    Performs options threadId turnId (quarantinedOutcome options details) s := by
  unfold quarantinedOutcome
  apply StepsAt.read_bind
  exact performs_outcome _ _ _

end CodexRouter.Adapter
