import CodexRouter.Adapter.Safety

/-!
# Turns apart

The keys of records are joined from ids. Where the ids keep the joint apart, a call leaves all
records of other turns as they are, as long as the session goes on.
-/

open Js Runs CodexRouter.Kernel

namespace CodexRouter.Adapter

open Preview Authorization Retain Relation Comp

/-! ## Keys -/

/-- The id does not contain the joint of the keys. -/
def Jointless (id : Str) : Prop := cu '\x00' ∉ id

instance (id : Str) : Decidable (Jointless id) := inferInstanceAs (Decidable (_ ∉ _))

/-- The first joint ends the part before it. -/
lemma eq_of_joint_eq {left left' right right' : Str} (h : Jointless left) (h' : Jointless left')
    (heq : left ++ cu '\x00' :: right = left' ++ cu '\x00' :: right') :
    left = left' ∧ right = right' := by
  induction left generalizing left' with
  | nil =>
    rcases left' with _ | ⟨c, left'⟩
    · exact ⟨rfl, (List.cons.inj heq).2⟩
    · rw [← (List.cons.inj heq).1] at h'
      exact absurd List.mem_cons_self h'
  | cons c left ih =>
    rcases left' with _ | ⟨c', left'⟩
    · rw [(List.cons.inj heq).1] at h
      exact absurd List.mem_cons_self h
    · obtain ⟨rfl, hrest⟩ := List.cons.inj heq
      have hleft := ih (fun hmem => h (List.mem_cons_of_mem _ hmem))
        (fun hmem => h' (List.mem_cons_of_mem _ hmem)) hrest
      rw [hleft.1]
      exact ⟨rfl, hleft.2⟩

lemma turnKey_inj {threadId turnId threadId' turnId' : Str} (h : Jointless threadId)
    (h' : Jointless threadId') (heq : turnKey threadId turnId = turnKey threadId' turnId') :
    threadId = threadId' ∧ turnId = turnId' := by
  unfold turnKey at heq
  rw [List.append_assoc, List.append_assoc, List.singleton_append, List.singleton_append] at heq
  exact eq_of_joint_eq h h' heq

lemma itemKey_eq (threadId turnId itemId : Str) :
    itemKey threadId turnId itemId = turnKey threadId (turnKey turnId itemId) := by
  unfold itemKey turnKey
  simp only [List.append_assoc]

/-- The item id may be any text. -/
lemma itemKey_inj {threadId turnId threadId' turnId' itemId itemId' : Str}
    (h : Jointless threadId) (h' : Jointless threadId') (hturn : Jointless turnId)
    (hturn' : Jointless turnId')
    (heq : itemKey threadId turnId itemId = itemKey threadId' turnId' itemId') :
    threadId = threadId' ∧ turnId = turnId' := by
  rw [itemKey_eq, itemKey_eq] at heq
  obtain ⟨hthread, hrest⟩ := turnKey_inj h h' heq
  exact ⟨hthread, (turnKey_inj hturn hturn' hrest).1⟩

/-- Other ids let two turns share their records. -/
lemma turnKey_of_joint (threadId middle turnId : Str) :
    turnKey (threadId ++ [cu '\x00'] ++ middle) turnId =
      turnKey threadId (middle ++ [cu '\x00'] ++ turnId) := by
  unfold turnKey
  simp only [List.append_assoc]

/-! ## Records of a turn -/

section
variable [Runtime] {options : CodexAppServerAdapterOptions} {env : Env} {threadId turnId : Str}
  {s t : AdapterState}

omit [Runtime] in
/-- The records of the turn are the same, and no response to a request of it came since. -/
structure SameTurn (threadId turnId : Str) (s t : AdapterState) : Prop where
  turn : t.turns.get? (turnKey threadId turnId) = s.turns.get? (turnKey threadId turnId)
  items : ∀ itemId, t.items.get? (itemKey threadId turnId itemId) =
    s.items.get? (itemKey threadId turnId itemId)
  approvals : ∀ requestId approval, approval.threadId = threadId → approval.turnId = turnId →
    (t.approvals.get? requestId = some approval ↔ s.approvals.get? requestId = some approval)
  responses : ∀ response ∈ t.responses, ∀ approval,
    t.approvals.get? response.requestId = some approval → approval.threadId = threadId →
      approval.turnId = turnId → response ∈ s.responses

omit [Runtime] in
lemma SameTurn.refl (threadId turnId : Str) (s : AdapterState) : SameTurn threadId turnId s s :=
  ⟨rfl, fun _ => rfl, fun _ _ _ _ => Iff.rfl, fun _ hmem _ _ _ _ => hmem⟩

omit [Runtime] in
lemma SameTurn.trans {u : AdapterState} (h : SameTurn threadId turnId s t)
    (h' : SameTurn threadId turnId t u) : SameTurn threadId turnId s u where
  turn := h'.turn.trans h.turn
  items := fun itemId => (h'.items itemId).trans (h.items itemId)
  approvals := fun requestId approval hthread hturn =>
    (h'.approvals requestId approval hthread hturn).trans
      (h.approvals requestId approval hthread hturn)
  responses := by
    intro response hmem approval hget hthread hturn
    have hbefore := (h'.approvals _ _ hthread hturn).mp hget
    exact h.responses response (h'.responses response hmem approval hget hthread hturn) approval
      hbefore hthread hturn

/-- Two turns whose keys are apart. -/
structure Apart (threadId turnId threadId' turnId' : Str) : Prop where
  turnKey : turnKey threadId turnId ≠ turnKey threadId' turnId'
  itemKey : ∀ itemId itemId', itemKey threadId turnId itemId ≠ itemKey threadId' turnId' itemId'
  ids : ¬ (threadId = threadId' ∧ turnId = turnId')

omit [Runtime] in
lemma apart_of_jointless {threadId' turnId' : Str} (h : Jointless threadId)
    (hturn : Jointless turnId) (h' : Jointless threadId') (hturn' : Jointless turnId')
    (hne : ¬ (threadId = threadId' ∧ turnId = turnId')) :
    Apart threadId turnId threadId' turnId' where
  turnKey := fun heq => hne (turnKey_inj h h' heq)
  itemKey := fun _ _ heq => hne (itemKey_inj h h' hturn hturn' heq)
  ids := hne

/-- A move for a turn leaves a turn apart from it, unless it gives up the session. -/
lemma Move.sameTurn (h : Move options threadId turnId s t) {threadId' turnId' : Str}
    (hapart : Apart threadId turnId threadId' turnId')
    (hopen : t.sessionCompromisedReason = none) : SameTurn threadId' turnId' s t where
  turn := by
    rcases h.turn_cases (turnKey threadId' turnId') with hsame | ⟨hkey, -⟩ | ⟨hkey, -⟩ | ⟨hgiven, -⟩
    · exact hsame
    · exact absurd hkey.symm hapart.turnKey
    · exact absurd hkey.symm hapart.turnKey
    · rw [hopen] at hgiven
      exact nomatch hgiven
  items := by
    intro itemId
    rcases h.item_cases (itemKey threadId' turnId' itemId) with hsame | ⟨-, itemId', -, hkey, -⟩
      | ⟨-, -, -, -, -, ⟨itemId', hkey⟩ | hgiven⟩
    · exact hsame
    · exact absurd hkey.symm (hapart.itemKey itemId' itemId)
    · exact absurd hkey.symm (hapart.itemKey itemId' itemId)
    · obtain ⟨reason, hreason⟩ := Option.isSome_iff_exists.mp hgiven
      rw [h.compromised hreason] at hopen
      exact nomatch hopen
  approvals := by
    intro requestId approval hthread hturn
    rcases h.approval_cases requestId with hsame | ⟨moved, hthread', hturn', hget, hbefore⟩
    · rw [hsame]
    · -- an approval that moved is one of the turn of the move, and it was so before
      constructor
      · intro hother
        rw [hget] at hother
        cases hother
        exact absurd ⟨hthread'.symm.trans hthread, hturn'.symm.trans hturn⟩ hapart.ids
      · intro hother
        obtain ⟨later, hlater, hsame⟩ := h.later_approval hother
        rw [hget] at hlater
        cases hlater
        exact absurd ⟨hthread'.symm.trans (hsame.threadId.trans hthread),
          hturn'.symm.trans (hsame.turnId.trans hturn)⟩ hapart.ids
  responses := by
    intro response hmem approval hget hthread hturn
    rw [responses_eq] at hmem ⊢
    rcases h.effects_cases with heq | ⟨entry, heq⟩
      | ⟨before, sent, heq, hsent, -, hthread', hturn', -⟩
    · rw [heq] at hmem
      exact hmem
    · rw [heq, responsesOf_append, List.mem_append] at hmem
      exact hmem.resolve_right List.not_mem_nil
    · rw [heq, responsesOf_append, List.mem_append] at hmem
      rcases hmem with hmem | hmem
      · exact hmem
      · cases List.mem_singleton.mp hmem
        rw [hget] at hsent
        cases hsent
        exact absurd ⟨hthread'.symm.trans hthread, hturn'.symm.trans hturn⟩ hapart.ids

lemma Moves.sameTurn (h : Moves options threadId turnId s t) {threadId' turnId' : Str}
    (hapart : Apart threadId turnId threadId' turnId')
    (hopen : t.sessionCompromisedReason = none) : SameTurn threadId' turnId' s t := by
  induction h with
  | refl => exact SameTurn.refl _ _ s
  | tail _ hmove ih =>
    have hbefore := Moves.open_of_open (ReflTransGen.single hmove) hopen
    exact (ih hbefore).trans (hmove.sameTurn hapart hopen)

/-! ## Runs beside a turn -/

/-- Each call of the run works for some turn other than this one, and the ids of that turn are free
of the joint. -/
def Beside (options : CodexAppServerAdapterOptions) (env : Env) (threadId turnId : Str)
    (s : AdapterState) (calls : List AdapterCall) : Prop :=
  Permitted (fun state call => ∃ threadId' turnId', Jointless threadId' ∧ Jointless turnId' ∧
    ¬ (threadId' = threadId ∧ turnId' = turnId) ∧ CallOf threadId' turnId' state call)
    (step options env) s calls

end

/-- A proposal in another thread. -/
def otherEvent : CodexAppServerNormalizedEvent where
  schemaProfileId := js "v2"
  eventId := js "event-other"
  kind := .turn
    { sequence := 1, threadId := js "other", turnId := js "u", body := .itemStarted proposedItem }

end CodexRouter.Adapter
