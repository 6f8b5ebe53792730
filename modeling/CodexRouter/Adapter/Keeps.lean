import CodexRouter.Adapter.Moves

/-!
# What every move keeps

Each map is read behind a move by one lemma; the invariants of the protocol follow from these.
-/

open Js Runs CodexRouter.Kernel

namespace CodexRouter.Adapter

open Preview Authorization Retain Relation

/-! ## Later versions of a record -/

/-- What every later version of an item shares with it. -/
structure LaterItem (item later : ItemRecord) : Prop where
  key : later.key = item.key
  threadId : later.threadId = item.threadId
  turnId : later.turnId = item.turnId
  itemId : later.itemId = item.itemId
  frozen : Frozen item → Frozen later
  changeSet : Frozen item → later.changeSet = item.changeSet

lemma LaterItem.refl (item : ItemRecord) : LaterItem item item :=
  ⟨rfl, rfl, rfl, rfl, id, fun _ => rfl⟩

lemma LaterItem.trans {a b c : ItemRecord} (h : LaterItem a b) (h' : LaterItem b c) :
    LaterItem a c where
  key := h'.key.trans h.key
  threadId := h'.threadId.trans h.threadId
  turnId := h'.turnId.trans h.turnId
  itemId := h'.itemId.trans h.itemId
  frozen := fun hfrozen => h'.frozen (h.frozen hfrozen)
  changeSet := fun hfrozen => (h'.changeSet (h.frozen hfrozen)).trans (h.changeSet hfrozen)

/-- No transition leads back to a proposal. -/
lemma ne_proposed_of_allowed {state next : FileChangeLifecycleState}
    (h : next ∈ Adapter.allowedTransitions state) : next ≠ .proposed := by
  rintro rfl
  cases state <;> simp [Adapter.allowedTransitions] at h

/-- What every later version of an approval shares with it. -/
structure LaterApproval (approval later : ApprovalRecord) : Prop where
  requestId : later.requestId = approval.requestId
  threadId : later.threadId = approval.threadId
  turnId : later.turnId = approval.turnId
  itemId : later.itemId = approval.itemId
  proposal : later.proposal = approval.proposal
  answered : approval.deliveryState ≠ .pending → later.deliveryState ≠ .pending

lemma LaterApproval.refl (approval : ApprovalRecord) : LaterApproval approval approval :=
  ⟨rfl, rfl, rfl, rfl, rfl, id⟩

lemma LaterApproval.trans {a b c : ApprovalRecord} (h : LaterApproval a b)
    (h' : LaterApproval b c) : LaterApproval a c where
  requestId := h'.requestId.trans h.requestId
  threadId := h'.threadId.trans h.threadId
  turnId := h'.turnId.trans h.turnId
  itemId := h'.itemId.trans h.itemId
  proposal := h'.proposal.trans h.proposal
  answered := fun hanswered => h'.answered (h.answered hanswered)

lemma LaterApproval.itemKey_eq {a b : ApprovalRecord} (h : LaterApproval a b) :
    b.itemKey = a.itemKey := by
  unfold ApprovalRecord.itemKey
  rw [h.threadId, h.turnId, h.itemId]

variable [Runtime] {options : CodexAppServerAdapterOptions} {threadId turnId : Str}
  {s t : AdapterState}

/-! ## The maps behind a move -/

/-- An item behind a move is the old one, a new one of the turn, or one that moved. -/
lemma Move.item_cases (h : Move options threadId turnId s t) (key : Str) :
    t.items.get? key = s.items.get? key ∨
    (s.items.get? key = none ∧ ∃ itemId changeSet, key = itemKey threadId turnId itemId ∧
      t.items.get? key = some (newItem threadId turnId itemId changeSet)) ∨
    (∃ item item', s.items.get? key = some item ∧ t.items.get? key = some item' ∧
      ItemMove options s item item' ∧ ((∃ itemId, key = itemKey threadId turnId itemId)
        ∨ s.sessionCompromisedReason.isSome)) := by
  cases h with
  | propose itemId changeSet hnew =>
    by_cases hkey : key = itemKey threadId turnId itemId
    · subst hkey
      exact .inr (.inl ⟨hnew, itemId, changeSet, rfl, Map.get?_set_self _ _ _⟩)
    · exact .inl (Map.get?_set_of_ne _ hkey _)
  | @moveItem key' item item' hget hscope hmove =>
    by_cases hkey : key = key'
    · subst hkey
      exact .inr (.inr ⟨item, item', hget, Map.get?_set_self _ _ _, hmove, hscope⟩)
    · exact .inl (Map.get?_set_of_ne _ hkey _)
  | _ => exact .inl rfl

/-- An approval behind a move is the old one, a new one of the turn, or one of the turn that was
answered or resolved. -/
lemma Move.approval_cases (h : Move options threadId turnId s t) (requestId : Str) :
    t.approvals.get? requestId = s.approvals.get? requestId ∨
    (∃ approval, approval.threadId = threadId ∧ approval.turnId = turnId ∧
      t.approvals.get? requestId = some approval ∧
      ((s.approvals.get? requestId = none ∧ approval.requestId = requestId)
        ∨ ∃ before, s.approvals.get? requestId = some before ∧ (ApprovalMove before approval
          ∨ approval = { before with deliveryState := .inFlight }))) := by
  cases h with
  | @request approval hnew hturn _ =>
    by_cases hid : requestId = approval.requestId
    · subst hid
      exact .inr ⟨approval, hturn.1, hturn.2, Map.get?_set_self _ _ _, .inl ⟨hnew, rfl⟩⟩
    · exact .inl (Map.get?_set_of_ne _ hid _)
  | @moveApproval requestId' approval approval' hget hturn hmove =>
    by_cases hid : requestId = requestId'
    · subst hid
      have hsame : approval'.threadId = threadId ∧ approval'.turnId = turnId := by
        cases hmove <;> exact hturn
      exact .inr ⟨approval', hsame.1, hsame.2, Map.get?_set_self _ _ _,
        .inr ⟨approval, hget, .inl hmove⟩⟩
    · exact .inl (Map.get?_set_of_ne _ hid _)
  | @send approval response hget hturn _ _ _ _ _ =>
    by_cases hid : requestId = response.requestId
    · subst hid
      exact .inr ⟨{ approval with deliveryState := .inFlight }, hturn.1, hturn.2,
        Map.get?_set_self _ _ _, .inr ⟨approval, hget, .inr rfl⟩⟩
    · exact .inl (Map.get?_set_of_ne _ hid _)
  | _ => exact .inl rfl

/-- The effects behind a move are those before it and at most one more, which is a response only
when the move sends. -/
lemma Move.effects_cases (h : Move options threadId turnId s t) :
    t.effects = s.effects ∨ (∃ entry, t.effects = s.effects ++ [.stored entry]) ∨
      ∃ approval response, t.effects = s.effects ++ [.sent response] ∧
        t.approvals.get? response.requestId = some { approval with deliveryState := .inFlight } ∧
        s.approvals.get? response.requestId = some approval ∧
        approval.threadId = threadId ∧ approval.turnId = turnId ∧
        approval.deliveryState = .pending ∧ approval.resolved = false ∧
        (response.decision = .accept → s.sessionCompromisedReason = none ∧
          (∃ record, s.turns.get? (turnKey threadId turnId) = some record ∧
            record.blocked = false) ∧
          (approval.proposal.kind = .fileChange →
            resolveAuthorizationMode options = .authorizationEnforced →
            WrittenAhead s s.effects approval)) := by
  cases h with
  | store entry => exact .inr (.inl ⟨entry, rfl⟩)
  | @send approval response hget hturn hpending hopen hsession hunblocked hahead =>
    exact .inr (.inr ⟨approval, response, rfl, Map.get?_set_self _ _ _, hget, hturn.1, hturn.2,
      hpending, hopen, fun haccept => ⟨hsession haccept, hunblocked haccept, hahead haccept⟩⟩)
  | _ => exact .inl rfl

/-- A turn behind a move is the old one, the turn of the move, or blocked with all others. -/
lemma Move.turn_cases (h : Move options threadId turnId s t) (key : Str) :
    t.turns.get? key = s.turns.get? key ∨
    (key = turnKey threadId turnId ∧ s.turns.get? key = none) ∨
    (key = turnKey threadId turnId ∧ ∃ record record', s.turns.get? key = some record ∧
      t.turns.get? key = some record' ∧ TurnMove record record') ∨
    (t.sessionCompromisedReason.isSome ∧
      ∃ reason, t.turns.get? key = (s.turns.get? key).map (blockAll reason)) := by
  cases h with
  | openTurn hnew =>
    by_cases hkey : key = turnKey threadId turnId
    · exact .inr (.inl ⟨hkey, hkey ▸ hnew⟩)
    · exact .inl (Map.get?_set_of_ne _ hkey _)
  | @moveTurn record record' hget hmove =>
    by_cases hkey : key = turnKey threadId turnId
    · subst hkey
      exact .inr (.inr (.inl ⟨rfl, record, record', hget, Map.get?_set_self _ _ _, hmove⟩))
    · exact .inl (Map.get?_set_of_ne _ hkey _)
  | quarantine reason => exact .inr (.inr (.inr ⟨rfl, _, Map.get?_mapValues _ _ _⟩))
  | _ => exact .inl rfl

/-- A reason to give up the session is kept. -/
lemma Move.compromised (h : Move options threadId turnId s t) {reason : Str}
    (hs : s.sessionCompromisedReason = some reason) :
    t.sessionCompromisedReason = some reason := by
  cases h with
  | quarantine _ =>
    show some (s.sessionCompromisedReason.getD _) = some reason
    rw [hs, Option.getD_some]
  | _ => exact hs

lemma Evolves.compromised (h : Evolves options s t) {reason : Str}
    (hs : s.sessionCompromisedReason = some reason) :
    t.sessionCompromisedReason = some reason := by
  induction h with
  | refl => exact hs
  | tail _ hmove ih =>
    obtain ⟨threadId, turnId, hmove⟩ := hmove
    exact hmove.compromised ih

lemma Moves.compromised (h : Moves options threadId turnId s t) {reason : Str}
    (hs : s.sessionCompromisedReason = some reason) :
    t.sessionCompromisedReason = some reason := h.evolves.compromised hs

lemma Moves.open_of_open (h : Moves options threadId turnId s t)
    (ht : t.sessionCompromisedReason = none) : s.sessionCompromisedReason = none := by
  rcases hs : s.sessionCompromisedReason with _ | reason
  · rfl
  · rw [h.compromised hs] at ht
    exact nomatch ht

/-! ## Records that stay -/

lemma ItemMove.later {item item' : ItemRecord} (h : ItemMove options s item item') :
    LaterItem item item' := by
  cases h with
  | transition hallowed _ _ =>
    exact ⟨rfl, rfl, rfl, rfl, fun _ => .inl (ne_proposed_of_allowed hallowed), fun _ => rfl⟩
  | replace changeSet hstate hfree =>
    -- an item that may be replaced is not frozen
    have hnot : ¬ Frozen item := by
      rintro (hne | hne)
      · exact hne hstate
      · exact hne hfree
    exact ⟨rfl, rfl, rfl, rfl, fun hfrozen => absurd hfrozen hnot,
      fun hfrozen => absurd hfrozen hnot⟩
  | bind requestId _ =>
    exact ⟨rfl, rfl, rfl, rfl, fun _ => .inr (Option.some_ne_none _), fun _ => rfl⟩
  | _ => exact ⟨rfl, rfl, rfl, rfl, id, fun _ => rfl⟩

lemma Move.later_item (h : Move options threadId turnId s t) {key : Str} {item : ItemRecord}
    (hs : s.items.get? key = some item) :
    ∃ later, t.items.get? key = some later ∧ LaterItem item later := by
  rcases h.item_cases key with hsame | ⟨hnone, -⟩ | ⟨item', later, hitem, hlater, hmove, -⟩
  · exact ⟨item, hsame.trans hs, LaterItem.refl item⟩
  · rw [hs] at hnone
    exact nomatch hnone
  · rw [hs] at hitem
    cases hitem
    exact ⟨later, hlater, hmove.later⟩

lemma Evolves.later_item (h : Evolves options s t) {key : Str} {item : ItemRecord}
    (hs : s.items.get? key = some item) :
    ∃ later, t.items.get? key = some later ∧ LaterItem item later := by
  induction h with
  | refl => exact ⟨item, hs, LaterItem.refl item⟩
  | tail _ hmove ih =>
    obtain ⟨threadId, turnId, hmove⟩ := hmove
    obtain ⟨between, hget, hbetween⟩ := ih
    obtain ⟨later, hlater, hmoved⟩ := hmove.later_item hget
    exact ⟨later, hlater, hbetween.trans hmoved⟩

lemma Moves.later_item (h : Moves options threadId turnId s t) {key : Str} {item : ItemRecord}
    (hs : s.items.get? key = some item) :
    ∃ later, t.items.get? key = some later ∧ LaterItem item later := h.evolves.later_item hs

lemma Move.later_approval (h : Move options threadId turnId s t) {requestId : Str}
    {approval : ApprovalRecord} (hs : s.approvals.get? requestId = some approval) :
    ∃ later, t.approvals.get? requestId = some later ∧ LaterApproval approval later := by
  rcases h.approval_cases requestId with hsame | ⟨later, -, -, hlater, ⟨hnone, -⟩ | hmoved⟩
  · exact ⟨approval, hsame.trans hs, LaterApproval.refl approval⟩
  · rw [hs] at hnone
    exact nomatch hnone
  · obtain ⟨before, hbefore, hmoved⟩ := hmoved
    rw [hs] at hbefore
    cases hbefore
    refine ⟨later, hlater, ?_⟩
    rcases hmoved with hmove | rfl
    · cases hmove with
      | resolve => exact ⟨rfl, rfl, rfl, rfl, rfl, id⟩
      | settle hsettled _ => exact ⟨rfl, rfl, rfl, rfl, rfl, fun _ => hsettled⟩
    · exact ⟨rfl, rfl, rfl, rfl, rfl, fun _ => DeliveryState.noConfusion⟩

lemma Evolves.later_approval (h : Evolves options s t) {requestId : Str}
    {approval : ApprovalRecord} (hs : s.approvals.get? requestId = some approval) :
    ∃ later, t.approvals.get? requestId = some later ∧ LaterApproval approval later := by
  induction h with
  | refl => exact ⟨approval, hs, LaterApproval.refl approval⟩
  | tail _ hmove ih =>
    obtain ⟨threadId, turnId, hmove⟩ := hmove
    obtain ⟨between, hget, hbetween⟩ := ih
    obtain ⟨later, hlater, hmoved⟩ := hmove.later_approval hget
    exact ⟨later, hlater, hbetween.trans hmoved⟩

lemma Moves.later_approval (h : Moves options threadId turnId s t) {requestId : Str}
    {approval : ApprovalRecord} (hs : s.approvals.get? requestId = some approval) :
    ∃ later, t.approvals.get? requestId = some later ∧ LaterApproval approval later :=
  h.evolves.later_approval hs

lemma Move.effects (h : Move options threadId turnId s t) : s.effects <+: t.effects := by
  rcases h.effects_cases with heq | ⟨entry, heq⟩ | ⟨-, response, heq, -⟩
  · exact heq ▸ List.prefix_rfl
  · rw [heq]
    exact List.prefix_append _ _
  · rw [heq]
    exact List.prefix_append _ _

lemma Evolves.effects (h : Evolves options s t) : s.effects <+: t.effects := by
  induction h with
  | refl => exact List.prefix_rfl
  | tail _ hmove ih =>
    obtain ⟨threadId, turnId, hmove⟩ := hmove
    exact ih.trans hmove.effects

lemma Moves.effects (h : Moves options threadId turnId s t) : s.effects <+: t.effects :=
  h.evolves.effects

/-- A blocked turn stays blocked. -/
lemma Move.blocked (h : Move options threadId turnId s t) {key : Str} {record : TurnRecord}
    (hs : s.turns.get? key = some record) (hblocked : record.blocked = true) :
    ∃ later, t.turns.get? key = some later ∧ later.blocked = true := by
  rcases h.turn_cases key with hsame | ⟨-, hnone⟩ | ⟨-, before, later, hbefore, hlater, hmove⟩
    | ⟨-, reason, hall⟩
  · exact ⟨record, hsame.trans hs, hblocked⟩
  · rw [hs] at hnone
    exact nomatch hnone
  · rw [hs] at hbefore
    cases hbefore
    refine ⟨later, hlater, ?_⟩
    cases hmove with
    | advance hopen =>
      rw [hblocked] at hopen
      exact Bool.noConfusion hopen
    | block => rfl
    | complete => exact hblocked
  · rw [hs] at hall
    exact ⟨blockAll reason record, hall, rfl⟩

lemma Evolves.blocked (h : Evolves options s t) {key : Str} {record : TurnRecord}
    (hs : s.turns.get? key = some record) (hblocked : record.blocked = true) :
    ∃ later, t.turns.get? key = some later ∧ later.blocked = true := by
  induction h with
  | refl => exact ⟨record, hs, hblocked⟩
  | tail _ hmove ih =>
    obtain ⟨threadId, turnId, hmove⟩ := hmove
    obtain ⟨between, hget, hbetween⟩ := ih
    exact hmove.blocked hget hbetween

end CodexRouter.Adapter
