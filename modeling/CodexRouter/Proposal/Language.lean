import CodexRouter.Js.Canonical
import CodexRouter.Proposal.Gate

/-!
# The language of the gate

A transcript is a start of the turn, a start of the message, deltas, the message with the proposal
and the end of the turn. The gate waits exactly behind the beginnings of transcripts.
-/

open Js CodexRouter.Kernel

namespace CodexRouter.Proposal

open NoEnvironmentProposalEventGate

/-! ## Events that are waited for -/

/-- The schema reads the copy of the input. -/
def Reads {α : Type} (schema : Schema α) (call : Call) (a : α) : Prop :=
  ∃ value, snapshotJsonData call.input = some value ∧ schema.read value = .ok a

variable (contract : NoEnvironmentProposalContract)

def IsTurnStarted (turnId : Str) (call : Call) : Prop :=
  ∃ params, Reads exactTurnStartedEventSchema call params ∧ params.threadId = contract.threadId ∧
    params.turn.id = turnId ∧ params.turn.status = .inProgress

def IsItemStarted (turnId itemId : Str) (call : Call) : Prop :=
  ∃ params, Reads exactItemStartedEventSchema call params ∧ params.threadId = contract.threadId ∧
    params.turnId = turnId ∧ params.item.id = itemId

def IsAgentDelta (turnId itemId : Str) (call : Call) : Prop :=
  ∃ params, Reads exactAgentDeltaEventSchema call params ∧ params.threadId = contract.threadId ∧
    params.turnId = turnId ∧ params.itemId = itemId

/-- The text of the message is the JSON text of a proposal for the target. -/
def IsItemCompleted [Runtime] (turnId itemId : Str) (proposal : NoEnvironmentProposedPatch)
    (call : Call) : Prop :=
  ∃ params decoded, Reads exactItemCompletedEventSchema call params ∧
    params.threadId = contract.threadId ∧ params.turnId = turnId ∧ params.item.id = itemId ∧
    params.item.phase = some .finalAnswer ∧ Json.parse? params.item.text = some decoded ∧
    noEnvironmentProposedPatchSchema.read decoded = .ok proposal ∧
    proposal.targetPath = contract.targetPath ∧ proposal.baseSha256 = contract.baseSha256

def IsTurnCompleted (turnId : Str) (call : Call) : Prop :=
  ∃ params, Reads exactTurnCompletedEventSchema call params ∧ params.threadId = contract.threadId ∧
    params.turn.id = turnId ∧ params.turn.status = .completed

/-- The call has the nonce of the contract and the number of its place. -/
def IsBound (n : ℕ) (call : Call) : Prop :=
  call.transcriptNonce = contract.transcriptNonce ∧
    call.sequence.map (·.1) = some (Json.natText n)

/-! ## Stages -/

inductive Stage where
  | idle
  | turnOpen (turnId : Str)
  | itemOpen (turnId itemId : Str)
  | answered (turnId itemId : Str) (proposal : NoEnvironmentProposedPatch)
  | complete (turnId itemId : Str) (proposal : NoEnvironmentProposedPatch)

inductive Advances [Runtime] : Stage → Call → Stage → Prop
  | turnStarted {turnId : Str} {call : Call} (h : IsTurnStarted contract turnId call) :
    Advances .idle call (.turnOpen turnId)
  | itemStarted {turnId itemId : Str} {call : Call}
    (h : IsItemStarted contract turnId itemId call) :
    Advances (.turnOpen turnId) call (.itemOpen turnId itemId)
  | agentDelta {turnId itemId : Str} {call : Call} (h : IsAgentDelta contract turnId itemId call) :
    Advances (.itemOpen turnId itemId) call (.itemOpen turnId itemId)
  | itemCompleted {turnId itemId : Str} {proposal : NoEnvironmentProposedPatch} {call : Call}
    (h : IsItemCompleted contract turnId itemId proposal call) :
    Advances (.itemOpen turnId itemId) call (.answered turnId itemId proposal)
  | turnCompleted {turnId itemId : Str} {proposal : NoEnvironmentProposedPatch} {call : Call}
    (h : IsTurnCompleted contract turnId call) :
    Advances (.answered turnId itemId proposal) call (.complete turnId itemId proposal)

/-- The gate behind `n` calls that have led to a stage. -/
def gateAt (n : ℕ) : Stage → NoEnvironmentProposalEventGate
  | .idle =>
    { contract, blockedReason := none, finalProposal := none, finalItemId := none
      activeTurnId := none, startedItemId := none, turnStarted := false, turnCompleted := false
      nextSequence := n }
  | .turnOpen turnId =>
    { contract, blockedReason := none, finalProposal := none, finalItemId := none
      activeTurnId := some turnId, startedItemId := none, turnStarted := true
      turnCompleted := false, nextSequence := n }
  | .itemOpen turnId itemId =>
    { contract, blockedReason := none, finalProposal := none, finalItemId := none
      activeTurnId := some turnId, startedItemId := some itemId, turnStarted := true
      turnCompleted := false, nextSequence := n }
  | .answered turnId itemId proposal =>
    { contract, blockedReason := none, finalProposal := some proposal, finalItemId := some itemId
      activeTurnId := some turnId, startedItemId := some itemId, turnStarted := true
      turnCompleted := false, nextSequence := n }
  | .complete turnId itemId proposal =>
    { contract, blockedReason := none, finalProposal := some proposal, finalItemId := some itemId
      activeTurnId := some turnId, startedItemId := some itemId, turnStarted := true
      turnCompleted := true, nextSequence := n }

/-- What the gate answers when it has reached a stage. -/
def Stage.outcome : Stage → NoEnvironmentProposalSessionOutcome
  | .complete _ _ proposal => ⟨.proposalComplete, some proposal, []⟩
  | _ => ⟨.pending, none, []⟩

/-! ## Records that were read -/

section
variable {α : Type} {j : Json} {m : WireRecord} {key : Str}

lemma exists_obj_of_strict {f : Fields α} {hkeys : f.keys.Nodup} {a : α}
    (h : (Schema.strictObject f hkeys).read j = .ok a) :
    ∃ m, j = .obj m ∧ f.read (Json.get? m) = .ok a := by
  cases j with
  | obj m => exact ⟨m, rfl, (Schema.read_strictObject.mp h).1⟩
  | _ => simp [Schema.strictObject, expected] at h

lemma enum_read {values : List α} {text : α → Str}
    {h : ∀ a, values.find? (fun v => text v = text a) = some a} {a : α}
    (hread : (Schema.enum values text h).read j = .ok a) : j = .str (text a) := by
  unfold Schema.enum at hread
  dsimp only at hread
  split at hread
  · rename_i s
    split at hread
    · rename_i v hfind
      cases hread
      have htext : text a = s := by simpa using List.find?_some hfind
      rw [htext]
    · exact nomatch hread
  · simp [expected] at hread

lemma literal_read {text : Str} {a : Unit} (h : (Schema.literal text).read j = .ok a) :
    j = .str text := by
  unfold Schema.literal at h
  dsimp only at h
  split_ifs at h with hj
  exact hj

lemma string_read {s : Str} (h : Schema.string.read j = .ok s) : j = .str s := by
  cases j with
  | str t =>
    cases h
    rfl
  | _ => simp [Schema.string, expected] at h

lemma ownString_of_get {s : Str} (h : Json.get? m key = some (.str s)) :
    ownString m key = some s := by
  unfold ownString
  rw [h]

lemma recordProperty_of_get {r : WireRecord} (h : Json.get? m key = some (.obj r)) :
    recordProperty m key = some r := by
  unfold recordProperty
  rw [h]

lemma isEmptyArray_of_get (h : Json.get? m key = some (.arr [])) : isEmptyArray m key = true := by
  unfold isEmptyArray
  rw [h]
  rfl

end

/-- An event has its method, and its parameters are a record that their schema reads. -/
lemma exactEvent_read {α : Type} {method : Str} {params : Schema α} {m : WireRecord} {a : α}
    (h : (exactEventSchema method params).read (.obj m) = .ok a) :
    ownString m "method" = some method ∧
      ∃ j, Json.get? m "params" = some j ∧ params.read j = .ok a := by
  obtain ⟨m', hm, hread⟩ := exists_obj_of_strict h
  cases hm
  rw [Fields.read_via, Equiv.coe_fn_symm_mk] at hread
  simp only [Fields.read_cons, Slot.read_required] at hread
  obtain ⟨⟨j, hmethod, hliteral⟩, ⟨p, hparams, hp⟩, -⟩ := hread
  rw [literal_read hliteral] at hmethod
  exact ⟨ownString_of_get hmethod, p, hparams, hp⟩

lemma exactTurn_read {j : Json} {turn : ExactTurn} (h : exactTurnSchema.read j = .ok turn) :
    ∃ m, j = .obj m ∧ ownString m "id" = some turn.id ∧
      ownString m "status" = some turn.status.text ∧ isEmptyArray m "items" = true := by
  obtain ⟨m, rfl, hread⟩ := exists_obj_of_strict h
  rw [Fields.read_via, Equiv.coe_fn_symm_mk] at hread
  simp only [Fields.read_cons, Slot.read_required_nonEmptyString] at hread
  simp only [Slot.read_required] at hread
  obtain ⟨⟨hid, -⟩, ⟨items, hitems, htuple⟩, -, ⟨status, hstatus, henum⟩, -⟩ := hread
  refine ⟨m, rfl, ownString_of_get hid, ?_, ?_⟩
  · rw [enum_read henum] at hstatus
    exact ownString_of_get hstatus
  · unfold emptyTuple at htuple
    dsimp only at htuple
    split_ifs at htuple with hempty
    · rw [hempty] at hitems
      exact isEmptyArray_of_get hitems
    · simp [expected] at htuple

lemma turnParams_read {j : Json} {params : TurnParams}
    (h : turnParamsSchema.read j = .ok params) :
    ∃ m turn, j = .obj m ∧ ownString m "threadId" = some params.threadId ∧
      recordProperty m "turn" = some turn ∧ ownString turn "id" = some params.turn.id ∧
      ownString turn "status" = some params.turn.status.text ∧
      isEmptyArray turn "items" = true := by
  obtain ⟨m, rfl, hread⟩ := exists_obj_of_strict h
  rw [Fields.read_via, Equiv.coe_fn_symm_mk] at hread
  simp only [Fields.read_cons, Slot.read_required_nonEmptyString] at hread
  simp only [Slot.read_required] at hread
  obtain ⟨⟨hthread, -⟩, ⟨v, hturn, hv⟩, -⟩ := hread
  obtain ⟨turn, rfl, hid, hstatus, hitems⟩ := exactTurn_read hv
  exact ⟨m, turn, rfl, ownString_of_get hthread, recordProperty_of_get hturn, hid, hstatus, hitems⟩

lemma exactAgentMessage_read {j : Json} {message : ExactAgentMessage}
    (h : exactAgentMessageSchema.read j = .ok message) :
    ∃ m, j = .obj m ∧ ownString m "type" = some (js "agentMessage") ∧
      ownString m "id" = some message.id ∧ ownString m "text" = some message.text ∧
      ownString m "phase" = message.phase.map (·.text) := by
  obtain ⟨m, rfl, hread⟩ := exists_obj_of_strict h
  rw [Fields.read_via, Equiv.coe_fn_symm_mk] at hread
  simp only [Fields.read_cons, Slot.read_required_nonEmptyString] at hread
  simp only [Slot.read_required] at hread
  obtain ⟨⟨t, htype, hliteral⟩, ⟨hid, -⟩, ⟨v, htext, hv⟩, ⟨p, hphase, hp⟩, -⟩ := hread
  rw [literal_read hliteral] at htype
  rw [string_read hv] at htext
  refine ⟨m, rfl, ownString_of_get htype, ownString_of_get hid, ownString_of_get htext, ?_⟩
  rcases hnull : message.phase with _ | phase
  · rw [hnull] at hp
    unfold ownString
    rw [hphase]
    cases p with
    | str s =>
      obtain ⟨a, -, ha⟩ := Parsed.map_eq_ok.mp hp
      cases ha
    | _ => rfl
  · rw [hnull] at hp
    cases p with
    | null => cases hp
    | _ =>
      obtain ⟨a, ha, hsome⟩ := Parsed.map_eq_ok.mp hp
      cases hsome
      rw [enum_read ha] at hphase
      exact ownString_of_get hphase

lemma itemParams_read {key : Str} {hkey : key ∉ [js "item", js "threadId", js "turnId"]} {j : Json}
    {params : ItemParams} (h : (itemParamsSchema key hkey).read j = .ok params) :
    ∃ m item, j = .obj m ∧ ownString m "threadId" = some params.threadId ∧
      ownString m "turnId" = some params.turnId ∧ recordProperty m "item" = some item ∧
      exactAgentMessageSchema.read (.obj item) = .ok params.item := by
  obtain ⟨m, rfl, hread⟩ := exists_obj_of_strict h
  rw [Fields.read_via, Equiv.coe_fn_symm_mk] at hread
  simp only [Fields.read_cons, Slot.read_required_nonEmptyString] at hread
  simp only [Slot.read_required] at hread
  obtain ⟨⟨v, hitem, hv⟩, ⟨hthread, -⟩, ⟨hturn, -⟩, -⟩ := hread
  obtain ⟨item, rfl, -⟩ := exactAgentMessage_read hv
  exact ⟨m, item, rfl, ownString_of_get hthread, ownString_of_get hturn,
    recordProperty_of_get hitem, hv⟩

lemma deltaParams_read {j : Json} {params : DeltaParams}
    (h : deltaParamsSchema.read j = .ok params) :
    ∃ m, j = .obj m ∧ ownString m "threadId" = some params.threadId ∧
      ownString m "turnId" = some params.turnId ∧ ownString m "itemId" = some params.itemId ∧
      ownString m "delta" = some params.delta := by
  obtain ⟨m, rfl, hread⟩ := exists_obj_of_strict h
  rw [Fields.read_via, Equiv.coe_fn_symm_mk] at hread
  simp only [Fields.read_cons, Slot.read_required_nonEmptyString] at hread
  simp only [Slot.read_required] at hread
  obtain ⟨⟨hthread, -⟩, ⟨hturn, -⟩, ⟨hitem, -⟩, ⟨v, hdelta, hv⟩, -⟩ := hread
  rw [string_read hv] at hdelta
  exact ⟨m, rfl, ownString_of_get hthread, ownString_of_get hturn, ownString_of_get hitem,
    ownString_of_get hdelta⟩

end CodexRouter.Proposal
