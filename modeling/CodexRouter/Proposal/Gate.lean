import CodexRouter.Proposal.Patch

/-!
# The event gate of a proposal

The gate takes the events of one turn of an agent without an environment and hands out the patch
that the turn proposes. It is blocked by the first event that it did not wait for.
-/

open Js CodexRouter.Kernel

namespace CodexRouter.Proposal

/-! ## Exact events -/

inductive ItemsView where
  | notLoaded | summary | full
  deriving DecidableEq

inductive TurnStatus where
  | completed | interrupted | failed | inProgress
  deriving DecidableEq

inductive MessagePhase where
  | commentary | finalAnswer
  deriving DecidableEq

def ItemsView.text : ItemsView → Str
  | notLoaded => js "notLoaded"
  | summary => js "summary"
  | full => js "full"

def TurnStatus.text : TurnStatus → Str
  | completed => js "completed"
  | interrupted => js "interrupted"
  | failed => js "failed"
  | inProgress => js "inProgress"

def MessagePhase.text : MessagePhase → Str
  | commentary => js "commentary"
  | finalAnswer => js "final_answer"

structure ExactTurn where
  id : Str
  itemsView : ItemsView
  status : TurnStatus
  startedAt : Option Js.Num
  completedAt : Option Js.Num
  durationMs : Option Js.Num
  deriving DecidableEq

structure ExactAgentMessage where
  id : Str
  text : Str
  phase : Option MessagePhase
  deriving DecidableEq

/-- `z.tuple([])`. -/
def emptyTuple : Schema Unit where
  read j := if j = .arr [] then .ok () else expected "array" j
  write _ := .arr []
  stable _ := rfl

/-- `z.literal(null)`. -/
def nullLiteral : Schema Unit where
  read j := if j = .null then .ok () else .error (issue [] "Invalid literal value, expected null")
  write _ := .null
  stable _ := rfl

def instant : Schema (Option Js.Num) := Schema.nonNegativeInt.nullable (fun _ => Json.noConfusion)

/-- `ExactTurnSchema`. -/
def exactTurnSchema : Schema ExactTurn :=
  .strictObject
    ((Fields.cons (js "id") (.required .nonEmptyString) <|
      .cons (js "items") (.required emptyTuple) <|
      .cons (js "itemsView") (.required (.enum [.notLoaded, .summary, .full] ItemsView.text
        (by intro a; cases a <;> decide))) <|
      .cons (js "status") (.required (.enum [.completed, .interrupted, .failed, .inProgress]
        TurnStatus.text (by intro a; cases a <;> decide))) <|
      .cons (js "error") (.required nullLiteral) <|
      .cons (js "startedAt") (.required instant) <|
      .cons (js "completedAt") (.required instant) <|
      .cons (js "durationMs") (.required instant) .nil).via
      { toFun := fun (id, (), itemsView, status, (), startedAt, completedAt, durationMs, ()) =>
          { id, itemsView, status, startedAt, completedAt, durationMs }
        invFun := fun turn => (turn.id, (), turn.itemsView, turn.status, (), turn.startedAt,
          turn.completedAt, turn.durationMs, ())
        left_inv := fun _ => rfl
        right_inv := fun _ => rfl })
    (by decide)

/-- `ExactAgentMessageSchema`. -/
def exactAgentMessageSchema : Schema ExactAgentMessage :=
  .strictObject
    ((Fields.cons (js "type") (.required (.literal "agentMessage")) <|
      .cons (js "id") (.required .nonEmptyString) <|
      .cons (js "text") (.required .string) <|
      .cons (js "phase") (.required (.nullable (.enum [.commentary, .finalAnswer]
        MessagePhase.text (by intro a; cases a <;> decide)) (fun _ => Json.noConfusion))) <|
      .cons (js "memoryCitation") (.required nullLiteral) .nil).via
      { toFun := fun ((), id, text, phase, (), ()) => { id, text, phase }
        invFun := fun message => ((), message.id, message.text, message.phase, (), ())
        left_inv := fun _ => rfl
        right_inv := fun _ => rfl })
    (by decide)

/-- An event: its method, and the strict object of its parameters. -/
def exactEventSchema {α : Type} (method : Str) (params : Schema α) : Schema α :=
  .strictObject
    ((Fields.cons (js "method") (.required (.literal method)) <|
      .cons (js "params") (.required params) .nil).via
      { toFun := fun ((), params, ()) => params
        invFun := fun params => ((), params, ())
        left_inv := fun _ => rfl
        right_inv := fun _ => rfl })
    (by
      change List.Nodup [js "method", js "params"]
      decide)

structure TurnParams where
  threadId : Str
  turn : ExactTurn
  deriving DecidableEq

structure ItemParams where
  item : ExactAgentMessage
  threadId : Str
  turnId : Str
  atMs : Js.Num
  deriving DecidableEq

structure DeltaParams where
  threadId : Str
  turnId : Str
  itemId : Str
  delta : Str
  deriving DecidableEq

def turnParamsSchema : Schema TurnParams :=
  .strictObject
    ((Fields.cons (js "threadId") (.required .nonEmptyString) <|
      .cons (js "turn") (.required exactTurnSchema) .nil).via
      { toFun := fun (threadId, turn, ()) => { threadId, turn }
        invFun := fun params => (params.threadId, params.turn, ())
        left_inv := fun _ => rfl
        right_inv := fun _ => rfl })
    (by decide)

/-- The parameters of an item event, with the key of its instant. -/
def itemParamsSchema (key : Str) (hkey : key ∉ [js "item", js "threadId", js "turnId"]) :
    Schema ItemParams :=
  .strictObject
    ((Fields.cons (js "item") (.required exactAgentMessageSchema) <|
      .cons (js "threadId") (.required .nonEmptyString) <|
      .cons (js "turnId") (.required .nonEmptyString) <|
      .cons key (.required .nonNegativeInt) .nil).via
      { toFun := fun (item, threadId, turnId, atMs, ()) => { item, threadId, turnId, atMs }
        invFun := fun params => (params.item, params.threadId, params.turnId, params.atMs, ())
        left_inv := fun _ => rfl
        right_inv := fun _ => rfl })
    (by
      change List.Nodup ([js "item", js "threadId", js "turnId"] ++ [key])
      exact List.Nodup.append (by decide) (List.nodup_singleton _)
        (List.disjoint_singleton.mpr hkey))

def deltaParamsSchema : Schema DeltaParams :=
  .strictObject
    ((Fields.cons (js "threadId") (.required .nonEmptyString) <|
      .cons (js "turnId") (.required .nonEmptyString) <|
      .cons (js "itemId") (.required .nonEmptyString) <|
      .cons (js "delta") (.required .string) .nil).via
      { toFun := fun (threadId, turnId, itemId, delta, ()) => { threadId, turnId, itemId, delta }
        invFun := fun params => (params.threadId, params.turnId, params.itemId, params.delta, ())
        left_inv := fun _ => rfl
        right_inv := fun _ => rfl })
    (by decide)

/-- `ExactTurnStartedEventSchema`. -/
def exactTurnStartedEventSchema : Schema TurnParams :=
  exactEventSchema "turn/started" turnParamsSchema

/-- `ExactItemStartedEventSchema`. -/
def exactItemStartedEventSchema : Schema ItemParams :=
  exactEventSchema "item/started" (itemParamsSchema "startedAtMs" (by decide))

/-- `ExactAgentDeltaEventSchema`. -/
def exactAgentDeltaEventSchema : Schema DeltaParams :=
  exactEventSchema "item/agentMessage/delta" deltaParamsSchema

/-- `ExactItemCompletedEventSchema`. -/
def exactItemCompletedEventSchema : Schema ItemParams :=
  exactEventSchema "item/completed" (itemParamsSchema "completedAtMs" (by decide))

/-- `ExactTurnCompletedEventSchema`. -/
def exactTurnCompletedEventSchema : Schema TurnParams :=
  exactEventSchema "turn/completed" turnParamsSchema

/-- `schema.safeParse(input).success`. -/
def accepts {α : Type} (schema : Schema α) (input : Json) : Bool :=
  match schema.read input with
  | .ok _ => true
  | .error _ => false

/-! ## Snapshots -/

mutual

/-- The objects that were seen when the value has been copied; `none` where the copy is refused. -/
def visit (depth nodes : ℕ) : Json → Option ℕ
  | .null | .bool _ | .num _ | .str _ => some nodes
  | .arr l => if depth > 64 ∨ nodes ≥ 10000 then none else visitItems (depth + 1) (nodes + 1) l
  | .obj m => if depth > 64 ∨ nodes ≥ 10000 then none else visitMembers (depth + 1) (nodes + 1) m

def visitItems (depth nodes : ℕ) : List Json → Option ℕ
  | [] => some nodes
  | a :: l =>
    match visit depth nodes a with
    | none => none
    | some nodes => visitItems depth nodes l

def visitMembers (depth nodes : ℕ) : List (Str × Json) → Option ℕ
  | [] => some nodes
  | (_, a) :: m =>
    match visit depth nodes a with
    | none => none
    | some nodes => visitMembers depth nodes m

end

/-- A value that is no JSON data is `none`. The copy of JSON data is the data. -/
def snapshotJsonData (input : Option Json) : Option Json :=
  input.filter fun value => (visit 0 0 value).isSome

/-! ## Properties of records -/

abbrev WireRecord := List (Str × Json)

def ownString (record : WireRecord) (key : Str) : Option Str :=
  match Json.get? record key with
  | some (.str s) => some s
  | _ => none

def recordProperty (record : WireRecord) (key : Str) : Option WireRecord :=
  match Json.get? record key with
  | some (.obj m) => some m
  | _ => none

def nestedRecord (record : WireRecord) (parent child : Str) : Option WireRecord :=
  (recordProperty record parent).bind fun parentRecord => recordProperty parentRecord child

/-- The value of the property is an array without items. -/
def isEmptyArray (record : WireRecord) (key : Str) : Bool :=
  match Json.get? record key with
  | some (.arr l) => l.isEmpty
  | _ => false

/-- Canonical case folding, as far as the letters of the fragments are concerned. -/
def foldCase (c : CodeUnit) : CodeUnit :=
  if c.val = 0x17f then cu 's' else if c.val = 0x212a then cu 'k' else asciiLower c

def prohibitedFragments : List Str :=
  [js "approval", js "permission", js "filechange", js "command", js "mcp", js "web", js "tool",
    js "collab", js "provider", js "process", js "shell"]

def isProhibitedMethod (method : Str) : Bool :=
  prohibitedFragments.any fun fragment => includes (method.map foldCase) fragment

/-! ## The gate -/

/-- What the gate uses of a `NoEnvironmentProposalContract`. -/
structure NoEnvironmentProposalContract where
  transcriptNonce : Str
  threadId : Str
  targetPath : Str
  baseSha256 : Str
  deriving DecidableEq

inductive OutcomeStatus where
  | pending | proposalComplete | blocked
  deriving DecidableEq

structure NoEnvironmentProposalSessionOutcome where
  status : OutcomeStatus
  proposal : Option NoEnvironmentProposedPatch
  reasons : List Str
  deriving DecidableEq

structure NoEnvironmentProposalEventGate where
  contract : NoEnvironmentProposalContract
  blockedReason : Option Str
  finalProposal : Option NoEnvironmentProposedPatch
  finalItemId : Option Str
  activeTurnId : Option Str
  startedItemId : Option Str
  turnStarted : Bool
  turnCompleted : Bool
  nextSequence : ℕ
  deriving DecidableEq

/-- The transcript nonces that were consumed. -/
abbrev ReplayStore := List Str

/-- `replayStore.consume(transcriptNonce)`. -/
def consume (store : ReplayStore) (transcriptNonce : Str) : Bool × ReplayStore :=
  if store.contains transcriptNonce then (false, store) else (true, store ++ [transcriptNonce])

def transcriptReplay : Str := js "no_environment_transcript_replay"

namespace NoEnvironmentProposalEventGate

/-- The constructor, given a parsed contract. -/
def new (contract : NoEnvironmentProposalContract) (store : ReplayStore) :
    NoEnvironmentProposalEventGate × ReplayStore :=
  let (fresh, store) := consume store contract.transcriptNonce
  ({ contract
     blockedReason := if fresh then none else some transcriptReplay
     finalProposal := none
     finalItemId := none
     activeTurnId := none
     startedItemId := none
     turnStarted := false
     turnCompleted := false
     nextSequence := 0 }, store)

def outcome (gate : NoEnvironmentProposalEventGate) (status : OutcomeStatus) (reasons : List Str) :
    NoEnvironmentProposalSessionOutcome where
  status
  proposal := if status = .proposalComplete then gate.finalProposal else none
  reasons

/-- The answer to an event, and the gate behind it. -/
abbrev Answer := NoEnvironmentProposalSessionOutcome × NoEnvironmentProposalEventGate

def block (gate : NoEnvironmentProposalEventGate) (reason : Str) : Answer :=
  let gate := { gate with blockedReason := some reason }
  (gate.outcome .blocked [reason], gate)

/-- The gate waits for more. -/
def wait (gate : NoEnvironmentProposalEventGate) : Answer := (gate.outcome .pending [], gate)

def correlates (gate : NoEnvironmentProposalEventGate) (input : WireRecord) : Bool :=
  (recordProperty input "params").any fun params =>
    ownString params "threadId" = some gate.contract.threadId
      && ownString params "turnId" = gate.activeTurnId

def ingestTurnStarted (gate : NoEnvironmentProposalEventGate) (input : WireRecord) : Answer :=
  if gate.turnStarted then gate.block "no_environment_duplicate_turn_start"
  else if !accepts exactTurnStartedEventSchema (.obj input) then
    gate.block "no_environment_exact_event_schema_invalid"
  else
    let params := recordProperty input "params"
    let turn := params.bind fun params => recordProperty params "turn"
    let threadId := params.bind fun params => ownString params "threadId"
    let turnId := turn.bind fun turn => ownString turn "id"
    let turnStatus := turn.bind fun turn => ownString turn "status"
    if threadId ≠ some gate.contract.threadId
        || turnId = none
        || turnStatus ≠ some (js "inProgress")
        || !turn.any (isEmptyArray · "items") then
      gate.block "no_environment_turn_start_correlation_failed"
    else wait { gate with turnStarted := true, activeTurnId := turnId }

def ingestItemStarted (gate : NoEnvironmentProposalEventGate) (input : WireRecord) : Answer :=
  if !gate.turnStarted || gate.startedItemId.isSome then
    gate.block "no_environment_agent_item_start_order_invalid"
  else if !gate.correlates input then gate.block "no_environment_event_correlation_failed"
  else if !accepts exactItemStartedEventSchema (.obj input) then
    gate.block "no_environment_exact_event_schema_invalid"
  else
    match (nestedRecord input "params" "item").filter fun item =>
        ownString item "type" = some (js "agentMessage") with
    | none => gate.block "no_environment_non_agent_item_observed"
    | some item =>
      match ownString item "id" with
      | none => gate.block "no_environment_agent_item_id_missing"
      | some itemId => wait { gate with startedItemId := some itemId }

def ingestAgentDelta (gate : NoEnvironmentProposalEventGate) (input : WireRecord) : Answer :=
  if !gate.turnStarted || gate.startedItemId = none || gate.finalProposal.isSome then
    gate.block "no_environment_agent_delta_order_invalid"
  else if !gate.correlates input then gate.block "no_environment_event_correlation_failed"
  else if !accepts exactAgentDeltaEventSchema (.obj input) then
    gate.block "no_environment_exact_event_schema_invalid"
  else if !(recordProperty input "params").any fun params =>
      ownString params "itemId" = gate.startedItemId && (ownString params "delta").isSome then
    gate.block "no_environment_agent_delta_invalid"
  else gate.wait

section
variable [Runtime]

/-- The proposal in the text of a final message. -/
def takeProposal (gate : NoEnvironmentProposalEventGate) (itemId : Option Str) (text : Str) :
    Answer :=
  match Json.parse? text with
  | none => gate.block "no_environment_proposal_json_invalid"
  | some decoded =>
    match noEnvironmentProposedPatchSchema.read decoded with
    | .error _ => gate.block "no_environment_proposal_schema_invalid"
    | .ok parsed =>
      if parsed.targetPath ≠ gate.contract.targetPath
          || parsed.baseSha256 ≠ gate.contract.baseSha256 then
        gate.block "no_environment_proposal_target_binding_mismatch"
      else wait { gate with finalProposal := some parsed, finalItemId := itemId }

def ingestItemCompleted (gate : NoEnvironmentProposalEventGate) (input : WireRecord) : Answer :=
  if gate.finalProposal.isSome then gate.block "no_environment_duplicate_final_agent_message"
  else if !gate.turnStarted || gate.startedItemId = none then
    gate.block "no_environment_final_agent_message_order_invalid"
  else if !gate.correlates input then gate.block "no_environment_event_correlation_failed"
  else if !accepts exactItemCompletedEventSchema (.obj input) then
    gate.block "no_environment_exact_event_schema_invalid"
  else
    match (nestedRecord input "params" "item").filter fun item =>
        ownString item "type" = some (js "agentMessage") with
    | none => gate.block "no_environment_non_agent_item_observed"
    | some item =>
      let itemId := ownString item "id"
      match (ownString item "text").filter fun _ =>
          itemId = gate.startedItemId
            && ownString item "phase" = some (js "final_answer") with
      | none => gate.block "no_environment_final_agent_message_invalid"
      | some text => gate.takeProposal itemId text

end

def ingestTurnCompleted (gate : NoEnvironmentProposalEventGate) (input : WireRecord) : Answer :=
  if gate.turnCompleted then gate.block "no_environment_duplicate_turn_completion"
  else if !accepts exactTurnCompletedEventSchema (.obj input) then
    gate.block "no_environment_exact_event_schema_invalid"
  else
    match (recordProperty input "params").filter fun params =>
        gate.turnStarted && ownString params "threadId" = some gate.contract.threadId with
    | none => gate.block "no_environment_turn_completion_correlation_failed"
    | some params =>
      if !(recordProperty params "turn").any fun turn =>
          ownString turn "id" = gate.activeTurnId
            && ownString turn "status" = some (js "completed")
            && isEmptyArray turn "items" then
        gate.block "no_environment_turn_not_completed"
      else if gate.finalProposal = none || gate.finalItemId = none then
        gate.block "no_environment_final_agent_message_missing"
      else
        let gate := { gate with turnCompleted := true }
        (gate.outcome .proposalComplete [], gate)

/-- A call of the gate: the input, and the binding that comes with it. A sequence that is not
finite is `none`. -/
structure Call where
  input : Option Json
  transcriptNonce : Str
  sequence : Option Js.Num

variable [Runtime]

/-- The handler of the method of an envelope. -/
def dispatch (gate : NoEnvironmentProposalEventGate) (envelope : WireRecord) : Answer :=
  match ownString envelope "method" with
  | none => gate.block "no_environment_wire_method_missing"
  | some method =>
    if isProhibitedMethod method then gate.block "no_environment_prohibited_event_observed"
    else if method = js "turn/started" then gate.ingestTurnStarted envelope
    else if method = js "item/started" then gate.ingestItemStarted envelope
    else if method = js "item/agentMessage/delta" then gate.ingestAgentDelta envelope
    else if method = js "item/completed" then gate.ingestItemCompleted envelope
    else if method = js "turn/completed" then gate.ingestTurnCompleted envelope
    else gate.block "no_environment_unexpected_event_observed"

def ingest (gate : NoEnvironmentProposalEventGate) (call : Call) : Answer :=
  match gate.blockedReason with
  | some reason => (gate.outcome .blocked [reason], gate)
  | none =>
    if call.transcriptNonce ≠ gate.contract.transcriptNonce
        || call.sequence.map (·.1) ≠ some (Json.natText gate.nextSequence) then
      gate.block "no_environment_transcript_binding_invalid"
    else
      let gate := { gate with nextSequence := gate.nextSequence + 1 }
      match snapshotJsonData call.input with
      | some (.obj envelope) => gate.dispatch envelope
      | _ => gate.block "no_environment_wire_envelope_invalid"

end NoEnvironmentProposalEventGate

end CodexRouter.Proposal
