import CodexRouter.Adapter.Keeps

/-!
# Invariants of the protocol

Records stand under their keys, a request has at most one response, an acceptance is written ahead,
and what is accepted or retained has been earned. Each holds behind a move when it holds before.
-/

open Js Runs CodexRouter.Kernel

namespace CodexRouter.Adapter

open Preview Authorization Retain Relation

/-- Records stand under their keys, and a request that was answered is not answered again. -/
structure Kept (s : AdapterState) : Prop where
  item_key : ∀ {key item}, s.items.get? key = some item →
    item.key = key ∧ key = itemKey item.threadId item.turnId item.itemId
  approval_key : ∀ {requestId approval}, s.approvals.get? requestId = some approval →
    approval.requestId = requestId
  answered : ∀ response ∈ s.responses, ∃ approval,
    s.approvals.get? response.requestId = some approval ∧ approval.deliveryState ≠ .pending
  once : (s.responses.map (·.requestId)).Nodup

/-- The responses among some effects. -/
def responsesOf (effects : List Effect) : List CodexAppServerApprovalResponse :=
  effects.filterMap fun
    | .sent response => some response
    | .stored _ => none

lemma responses_eq (s : AdapterState) : s.responses = responsesOf s.effects := rfl

lemma responsesOf_append (left right : List Effect) :
    responsesOf (left ++ right) = responsesOf left ++ responsesOf right :=
  List.filterMap_append

lemma mem_responsesOf {effects : List Effect} {response : CodexAppServerApprovalResponse} :
    response ∈ responsesOf effects ↔ Effect.sent response ∈ effects := by
  unfold responsesOf
  rw [List.mem_filterMap]
  constructor
  · rintro ⟨effect, hmem, heq⟩
    cases effect with
    | sent other =>
      cases heq
      exact hmem
    | stored entry => exact nomatch heq
  · intro hmem
    exact ⟨.sent response, hmem, rfl⟩

/-! ## States of an item -/

/-- The state says that the app server was told to apply the change. -/
def IsAccepted (state : FileChangeLifecycleState) : Prop :=
  state = .acceptedByAppServer ∨ state = .retained ∨ state = .postChecked

/-- The state says that the change was found in the workspace. -/
def IsRetained (state : FileChangeLifecycleState) : Prop :=
  state = .retained ∨ state = .postChecked

/-- Behind a transition to an accepted state: the item was accepted, or just now. -/
lemma isAccepted_before {state next : FileChangeLifecycleState}
    (h : next ∈ Adapter.allowedTransitions state) (hnext : IsAccepted next) :
    next = .acceptedByAppServer ∨ IsAccepted state := by
  rcases hnext with rfl | rfl | rfl
  · exact .inl rfl
  · cases state <;> simp_all [Adapter.allowedTransitions, IsAccepted]
  · cases state <;> simp_all [Adapter.allowedTransitions, IsAccepted]

lemma isRetained_before {state next : FileChangeLifecycleState}
    (h : next ∈ Adapter.allowedTransitions state) (hnext : IsRetained next) :
    next = .retained ∨ IsRetained state := by
  rcases hnext with rfl | rfl
  · exact .inl rfl
  · cases state <;> simp_all [Adapter.allowedTransitions, IsRetained]

lemma not_isAccepted_proposed : ¬ IsAccepted .proposed := by
  simp [IsAccepted]

lemma IsRetained.isAccepted {state : FileChangeLifecycleState} (h : IsRetained state) :
    IsAccepted state := .inr h

variable [Runtime] {options : CodexAppServerAdapterOptions} {threadId turnId : Str}
  {s t : AdapterState}

/-! ## Keys and responses -/

lemma ItemMove.key {item item' : ItemRecord} (h : ItemMove options s item item') :
    item'.key = item.key ∧ itemKey item'.threadId item'.turnId item'.itemId =
      itemKey item.threadId item.turnId item.itemId := by
  have hlater := h.later
  rw [hlater.key, hlater.threadId, hlater.turnId, hlater.itemId]
  exact ⟨rfl, rfl⟩

lemma Move.item_key (h : Move options threadId turnId s t) (hs : Kept s) {key : Str}
    {item : ItemRecord} (ht : t.items.get? key = some item) :
    item.key = key ∧ key = itemKey item.threadId item.turnId item.itemId := by
  rcases h.item_cases key with hsame | ⟨-, itemId, changeSet, hkey, hnew⟩
    | ⟨before, after, hbefore, hafter, hmove, -⟩
  · exact hs.item_key (hsame.symm.trans ht)
  · rw [ht] at hnew
    cases hnew
    exact ⟨hkey.symm, hkey⟩
  · rw [ht] at hafter
    cases hafter
    obtain ⟨hsame, hparts⟩ := hmove.key
    rw [hsame, hparts]
    exact hs.item_key hbefore

lemma Move.approval_key (h : Move options threadId turnId s t) (hs : Kept s) {requestId : Str}
    {approval : ApprovalRecord} (ht : t.approvals.get? requestId = some approval) :
    approval.requestId = requestId := by
  rcases h.approval_cases requestId with hsame
    | ⟨after, -, -, hafter, ⟨-, hid⟩ | ⟨before, hbefore, hmoved⟩⟩
  · exact hs.approval_key (hsame.symm.trans ht)
  · rw [ht] at hafter
    cases hafter
    exact hid
  · rw [ht] at hafter
    cases hafter
    have hid := hs.approval_key hbefore
    rcases hmoved with hmove | rfl
    · cases hmove <;> exact hid
    · exact hid

/-- The request of a response behind a move has been answered. -/
lemma Move.answered (h : Move options threadId turnId s t) (hs : Kept s) :
    ∀ response ∈ t.responses, ∃ approval,
      t.approvals.get? response.requestId = some approval ∧ approval.deliveryState ≠ .pending := by
  have hold : ∀ response ∈ s.responses, ∃ approval,
      t.approvals.get? response.requestId = some approval ∧
        approval.deliveryState ≠ .pending := by
    intro response hmem
    obtain ⟨approval, hget, hanswered⟩ := hs.answered response hmem
    obtain ⟨later, hlater, hsame⟩ := h.later_approval hget
    exact ⟨later, hlater, hsame.answered hanswered⟩
  intro response hmem
  rw [responses_eq] at hmem
  rcases h.effects_cases with heq | ⟨entry, heq⟩ | ⟨approval, sent, heq, hsent, -⟩
  · rw [heq] at hmem
    exact hold response hmem
  · rw [heq, responsesOf_append, List.mem_append] at hmem
    exact hold response (hmem.resolve_right List.not_mem_nil)
  · rw [heq, responsesOf_append, List.mem_append] at hmem
    rcases hmem with hmem | hmem
    · exact hold response hmem
    · cases List.mem_singleton.mp hmem
      exact ⟨_, hsent, DeliveryState.noConfusion⟩

/-- A response goes out for a request that has none. -/
lemma Move.once (h : Move options threadId turnId s t) (hs : Kept s) :
    (t.responses.map (·.requestId)).Nodup := by
  have honce := hs.once
  rw [responses_eq] at honce ⊢
  rcases h.effects_cases with heq | ⟨entry, heq⟩ | ⟨approval, sent, heq, -, hget, -, -, hpending, -⟩
  · rw [heq]
    exact honce
  · rw [heq, responsesOf_append, show responsesOf [Effect.stored entry] = [] from rfl,
      List.append_nil]
    exact honce
  · rw [heq, responsesOf_append, List.map_append, List.nodup_append]
    refine ⟨honce, List.nodup_singleton _, ?_⟩
    rintro requestId hmem _ hlast rfl
    obtain ⟨response, hresponse, rfl⟩ := List.mem_map.mp hmem
    obtain ⟨before, hbefore, hanswered⟩ := hs.answered response hresponse
    rw [List.mem_singleton.mp hlast] at hbefore
    change s.approvals.get? sent.requestId = some before at hbefore
    rw [hget] at hbefore
    cases hbefore
    exact hanswered hpending

lemma Move.kept (h : Move options threadId turnId s t) (hs : Kept s) : Kept t where
  item_key := h.item_key hs
  approval_key := h.approval_key hs
  answered := h.answered hs
  once := h.once hs

lemma Evolves.kept (h : Evolves options s t) (hs : Kept s) : Kept t := by
  induction h with
  | refl => exact hs
  | tail _ hmove ih =>
    obtain ⟨threadId, turnId, hmove⟩ := hmove
    exact hmove.kept ih

lemma Moves.kept (h : Moves options threadId turnId s t) (hs : Kept s) : Kept t :=
  h.evolves.kept hs

/-! ## Written ahead -/

/-- Before each acceptance of a change set its entry was stored, and the item still has the change
set that the entry names. -/
def Ahead (options : CodexAppServerAdapterOptions) (s : AdapterState) : Prop :=
  ∀ before response after, s.effects = before ++ .sent response :: after →
    response.decision = .accept → ∀ approval,
    s.approvals.get? response.requestId = some approval → approval.proposal.kind = .fileChange →
    resolveAuthorizationMode options = .authorizationEnforced → WrittenAhead s before approval

/-- The item that an entry names may change further, but not in its change set. -/
lemma Move.writtenAhead (h : Move options threadId turnId s t) {effects : List Effect}
    {approval later : ApprovalRecord} (hlater : LaterApproval approval later)
    (hs : WrittenAhead s effects approval) : WrittenAhead t effects later := by
  obtain ⟨item, entry, hget, hentry⟩ := hs
  obtain ⟨item', hget', hitem⟩ := h.later_item hget
  refine ⟨item', entry, ?_, ?_⟩
  · rw [hlater.itemKey_eq]
    exact hget'
  · rw [hlater.requestId]
    exact {
      frozen := hitem.frozen hentry.frozen
      stored := hentry.stored
      journalId := hentry.journalId
      changeSet := by
        rw [hitem.changeSet hentry.frozen]
        exact hentry.changeSet
      authorized := hentry.authorized }

/-- A later version of a record that is known before and behind a move. -/
lemma Move.approval_before (h : Move options threadId turnId s t) {requestId : Str}
    {before after : ApprovalRecord} (hs : s.approvals.get? requestId = some before)
    (ht : t.approvals.get? requestId = some after) : LaterApproval before after := by
  obtain ⟨later, hlater, hsame⟩ := h.later_approval hs
  rw [ht] at hlater
  cases hlater
  exact hsame

lemma Move.ahead (h : Move options threadId turnId s t) (hkept : Kept s)
    (hs : Ahead options s) : Ahead options t := by
  intro before response after hsplit haccept approval hget hkind hmode
  -- a response that was there before the move was written ahead then
  have hold : ∀ rest, s.effects = before ++ .sent response :: rest →
      WrittenAhead t before approval := by
    intro rest hrest
    have hmem : response ∈ s.responses := by
      rw [responses_eq, mem_responsesOf, hrest]
      exact List.mem_append_right _ List.mem_cons_self
    obtain ⟨old, hold, -⟩ := hkept.answered response hmem
    have hlater := h.approval_before hold hget
    apply h.writtenAhead hlater
    apply hs before response rest hrest haccept old hold _ hmode
    rw [← hlater.proposal]
    exact hkind
  rcases h.effects_cases with heq | ⟨entry, heq⟩ | ⟨old, sent, heq, -, hold', -, -, -, -, hguard⟩
  · exact hold after (heq.symm.trans hsplit)
  · rw [heq] at hsplit
    rcases List.eq_nil_or_concat after with rfl | ⟨rest, last, rfl⟩
    · -- the stored entry is not a response
      have hlast := (List.append_inj' hsplit rfl).2
      exact nomatch (List.cons.inj hlast).1
    · rw [List.concat_eq_append, ← List.cons_append, ← List.append_assoc] at hsplit
      exact hold rest (List.append_inj' hsplit rfl).1
  · rw [heq] at hsplit
    rcases List.eq_nil_or_concat after with rfl | ⟨rest, last, rfl⟩
    · obtain ⟨hbefore, hlast⟩ := List.append_inj' hsplit rfl
      cases (List.cons.inj hlast).1
      subst hbefore
      have hlater := h.approval_before hold' hget
      apply h.writtenAhead hlater
      apply (hguard haccept).2.2 _ hmode
      rw [← hlater.proposal]
      exact hkind
    · rw [List.concat_eq_append, ← List.cons_append, ← List.append_assoc] at hsplit
      exact hold rest (List.append_inj' hsplit rfl).1

/-! ## Earned states -/

/-- Accepted items were accepted by a response, retained ones were verified. -/
structure Earns (options : CodexAppServerAdapterOptions) (s : AdapterState) (item : ItemRecord) :
    Prop where
  accepted : IsAccepted item.state →
    resolveAuthorizationMode options = .authorizationEnforced ∧ Accepted s item
  retained : IsRetained item.state → Verified item

def Earned (options : CodexAppServerAdapterOptions) (s : AdapterState) : Prop :=
  ∀ key item, s.items.get? key = some item → Earns options s item

/-- An acceptance stays one while the item has its key and its entry. -/
lemma Accepted.of_move (h : Move options threadId turnId s t) {item item' : ItemRecord}
    (hkey : item'.key = item.key) (hjournal : item'.journalId = item.journalId)
    (hs : Accepted s item) : Accepted t item' := by
  obtain ⟨response, hmem, approval, hdecision, hget, hkind, hitem, hid⟩ := hs
  obtain ⟨later, hlater, hsame⟩ := h.later_approval hget
  refine ⟨response, ?_, later, hdecision, hlater, ?_, ?_, ?_⟩
  · rw [responses_eq, mem_responsesOf] at hmem ⊢
    exact h.effects.subset hmem
  · rw [hsame.proposal]
    exact hkind
  · rw [hsame.itemKey_eq, hkey]
    exact hitem
  · rw [hjournal]
    exact hid

lemma ItemMove.earns (h : Move options threadId turnId s t) {item item' : ItemRecord}
    (hmove : ItemMove options s item item') (hs : Earns options s item) :
    Earns options t item' := by
  have hkeep : ∀ {later : ItemRecord}, later.key = item.key → later.journalId = item.journalId →
      IsAccepted item.state →
      resolveAuthorizationMode options = .authorizationEnforced ∧ Accepted t later :=
    fun hkey hjournal haccepted => ⟨(hs.accepted haccepted).1,
      (hs.accepted haccepted).2.of_move h hkey hjournal⟩
  cases hmove with
  | transition hallowed haccepted hretained =>
    constructor
    · intro hnext
      rcases isAccepted_before hallowed hnext with hnow | hbefore
      · obtain ⟨hmode, hsent⟩ := haccepted hnow
        exact ⟨hmode, hsent.of_move h rfl rfl⟩
      · exact hkeep rfl rfl hbefore
    · intro hnext
      rcases isRetained_before hallowed hnext with hnow | hbefore
      · exact hretained hnow
      · exact hs.retained hbefore
  | replace changeSet hstate _ =>
    have hnot : ¬ IsAccepted item.state := by
      rw [hstate]
      exact not_isAccepted_proposed
    exact ⟨fun hnext => absurd hnext hnot, fun hnext => absurd hnext.isAccepted hnot⟩
  | grant permit journalId hstate =>
    have hnot : ¬ IsAccepted item.state := by
      rcases hstate with hstate | hstate <;> rw [hstate] <;> simp [IsAccepted]
    exact ⟨fun hnext => absurd hnext hnot, fun hnext => absurd hnext.isAccepted hnot⟩
  | retain receipt hstate hverified =>
    exact ⟨hkeep rfl rfl, fun _ => hverified⟩
  | _ => exact ⟨hkeep rfl rfl, hs.retained⟩

lemma Move.earned (h : Move options threadId turnId s t) (hs : Earned options s) :
    Earned options t := by
  intro key item hget
  rcases h.item_cases key with hsame | ⟨-, itemId, changeSet, -, hnew⟩
    | ⟨before, after, hbefore, hafter, hmove, -⟩
  · have hold := hs key item (hsame.symm.trans hget)
    exact ⟨fun hnext => ⟨(hold.accepted hnext).1, (hold.accepted hnext).2.of_move h rfl rfl⟩,
      hold.retained⟩
  · rw [hget] at hnew
    cases hnew
    exact ⟨fun hnext => absurd hnext not_isAccepted_proposed,
      fun hnext => absurd hnext.isAccepted not_isAccepted_proposed⟩
  · rw [hget] at hafter
    cases hafter
    exact hmove.earns h (hs key before hbefore)

/-! ## All of them -/

structure Invariant (options : CodexAppServerAdapterOptions) (s : AdapterState) : Prop where
  kept : Kept s
  ahead : Ahead options s
  earned : Earned options s

lemma Evolves.invariant (h : Evolves options s t) (hs : Invariant options s) :
    Invariant options t := by
  induction h with
  | refl => exact hs
  | tail _ hmove ih =>
    obtain ⟨threadId, turnId, hmove⟩ := hmove
    exact ⟨hmove.kept ih.kept, hmove.ahead ih.kept ih.ahead, hmove.earned ih.earned⟩

lemma invariant_initial (journal : Journal) : Invariant options (.initial journal) where
  kept :=
    { item_key := fun h => nomatch h
      approval_key := fun h => nomatch h
      answered := fun _ h => nomatch h
      once := List.nodup_nil }
  ahead := by
    intro before response after hsplit
    exact absurd hsplit.symm (by simp [AdapterState.initial])
  earned := fun _ _ h => nomatch h

end CodexRouter.Adapter
