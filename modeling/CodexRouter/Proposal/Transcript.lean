import CodexRouter.Js.Ascii
import CodexRouter.Js.Decimal
import CodexRouter.Proposal.Handlers
import CodexRouter.Runs.Calls

/-!
# Transcripts

Whatever is put into a gate, its answers are those of a beginning of a transcript, and behind it one
reason blocks everything.
-/

open Js Runs CodexRouter.Kernel

namespace CodexRouter.Proposal

open NoEnvironmentProposalEventGate

section
variable [Runtime] {contract : NoEnvironmentProposalContract} {stage stage' : Stage} {n : ℕ}

/-! ## One call -/

omit [Runtime] in
lemma not_prohibited_of_awaits {method : Str} (h : Awaits stage method) :
    isProhibitedMethod method = false := by
  cases stage with
  | idle =>
    rw [show method = _ from h]
    decide
  | turnOpen =>
    rw [show method = _ from h]
    decide
  | itemOpen =>
    rcases h with rfl | rfl
    · decide
    · decide
  | answered =>
    rw [show method = _ from h]
    decide
  | complete => exact h.elim

lemma right_dispatch {call : Call} {input : WireRecord}
    (hsnap : snapshotJsonData call.input = some (.obj input)) :
    Right contract stage call n ((gateAt contract n stage).dispatch input) := by
  unfold dispatch
  rcases hmethod : ownString input "method" with _ | method
  · refine .inr ⟨?_, blocks_block _ (by decide)⟩
    intro stage' h
    obtain ⟨method, hother, -⟩ := h.awaits hsnap
    rw [hmethod] at hother
    exact nomatch hother
  dsimp only
  split_ifs with hprohibited hturn hitem hdelta hanswer hfinished
  · apply right_block_of_not_awaits hsnap hmethod _ (by decide)
    intro hawaits
    rw [not_prohibited_of_awaits hawaits] at hprohibited
    exact Bool.noConfusion hprohibited
  · exact right_turnStarted hsnap (hturn ▸ hmethod)
  · exact right_itemStarted hsnap (hitem ▸ hmethod)
  · exact right_agentDelta hsnap (hdelta ▸ hmethod)
  · exact right_itemCompleted hsnap (hanswer ▸ hmethod)
  · exact right_turnCompleted hsnap (hfinished ▸ hmethod)
  · apply right_block_of_not_awaits hsnap hmethod _ (by decide)
    cases stage with
    | idle => exact hturn
    | turnOpen => exact hitem
    | itemOpen => exact fun h => h.elim hdelta hanswer
    | answered => exact hfinished
    | complete => exact id

/-- What the gate does with the copy of an input. -/
lemma ingest_of_bound {call : Call} (h : IsBound contract n call) :
    ingest (gateAt contract n stage) call =
      match snapshotJsonData call.input with
      | some (.obj input) => (gateAt contract (n + 1) stage).dispatch input
      | _ => (gateAt contract (n + 1) stage).block "no_environment_wire_envelope_invalid" := by
  cases stage <;>
    exact if_neg (by simp [gateAt, h.1, h.2])

lemma ingest_of_not_bound {call : Call} (h : ¬ IsBound contract n call) :
    ingest (gateAt contract n stage) call =
      (gateAt contract n stage).block "no_environment_transcript_binding_invalid" := by
  have hcheck : (decide (call.transcriptNonce ≠ contract.transcriptNonce)
      || decide (call.sequence.map (·.1) ≠ some (Json.natText n))) = true := by
    rw [Bool.or_eq_true, decide_eq_true_eq, decide_eq_true_eq]
    exact not_and_or.mp h
  cases stage <;> exact if_pos hcheck

omit [Runtime] in
lemma Reads.exists_obj {α : Type} {method : Str} {params : Schema α} {call : Call} {a : α}
    (h : Reads (exactEventSchema method params) call a) :
    ∃ input, snapshotJsonData call.input = some (.obj input) := by
  obtain ⟨value, hvalue, hread⟩ := h
  obtain ⟨input, rfl, -⟩ := exists_obj_of_strict hread
  exact ⟨input, hvalue⟩

/-- What advances a stage is an object. -/
lemma Advances.exists_obj {call : Call} (h : Advances contract stage call stage') :
    ∃ input, snapshotJsonData call.input = some (.obj input) := by
  cases h with
  | turnStarted h => exact h.elim fun _ h => h.1.exists_obj
  | itemStarted h => exact h.elim fun _ h => h.1.exists_obj
  | agentDelta h => exact h.elim fun _ h => h.1.exists_obj
  | itemCompleted h => exact h.elim fun _ h => h.elim fun _ h => h.1.exists_obj
  | turnCompleted h => exact h.elim fun _ h => h.1.exists_obj

omit [Runtime] in
lemma Reads.unique {α : Type} {schema : Schema α} {call : Call} {a b : α}
    (ha : Reads schema call a) (hb : Reads schema call b) : a = b := by
  obtain ⟨value, hvalue, hread⟩ := ha
  obtain ⟨value', hvalue', hread'⟩ := hb
  rw [hvalue] at hvalue'
  cases hvalue'
  exact Except.ok.inj (hread.symm.trans hread')

/-- A delta is no final message. -/
lemma not_both {turnId itemId : Str} {proposal : NoEnvironmentProposedPatch} {call : Call}
    (hdelta : IsAgentDelta contract turnId itemId call) :
    ¬ IsItemCompleted contract turnId itemId proposal call := by
  rintro ⟨params, decoded, hread, -⟩
  obtain ⟨params', hread', -⟩ := hdelta
  obtain ⟨input, hsnap⟩ := hread.exists_obj
  have hmethod := (method_of_reads hsnap hread).symm.trans (method_of_reads hsnap hread')
  exact absurd (Option.some.inj hmethod) (by decide)

lemma Advances.unique {other : Stage} {call : Call} (h : Advances contract stage call stage')
    (h' : Advances contract stage call other) : stage' = other := by
  cases h with
  | turnStarted h =>
    cases h' with
    | turnStarted h' =>
      obtain ⟨params, hread, -, hid, -⟩ := h
      obtain ⟨params', hread', -, hid', -⟩ := h'
      rw [← hid, ← hid', hread.unique hread']
  | itemStarted h =>
    cases h' with
    | itemStarted h' =>
      obtain ⟨params, hread, -, -, hid⟩ := h
      obtain ⟨params', hread', -, -, hid'⟩ := h'
      rw [← hid, ← hid', hread.unique hread']
  | agentDelta h =>
    cases h' with
    | agentDelta => rfl
    | itemCompleted h' => exact absurd h' (not_both h)
  | itemCompleted h =>
    cases h' with
    | agentDelta h' => exact absurd h (not_both h')
    | itemCompleted h' =>
      obtain ⟨params, decoded, hread, -, -, -, -, hparse, hpatch, -⟩ := h
      obtain ⟨params', decoded', hread', -, -, -, -, hparse', hpatch', -⟩ := h'
      rw [hread.unique hread', hparse'] at hparse
      cases hparse
      rw [hpatch'] at hpatch
      cases hpatch
      rfl
  | turnCompleted => cases h' with
    | turnCompleted => rfl

/-- A call at its place advances the stage, or the gate is blocked behind it. -/
lemma right_ingest (contract : NoEnvironmentProposalContract) (n : ℕ) (stage : Stage)
    (call : Call) :
    (IsBound contract n call ∧ ∃ stage', Advances contract stage call stage' ∧
      ingest (gateAt contract n stage) call = (stage'.outcome, gateAt contract (n + 1) stage')) ∨
    ((IsBound contract n call → ∀ stage', ¬ Advances contract stage call stage') ∧
      Blocks (ingest (gateAt contract n stage) call)) := by
  by_cases hbound : IsBound contract n call
  · rw [ingest_of_bound hbound]
    by_cases hobj : ∃ input, snapshotJsonData call.input = some (.obj input)
    · obtain ⟨input, hsnap⟩ := hobj
      rw [hsnap]
      rcases right_dispatch hsnap with hadvances | ⟨hnot, hblocks⟩
      · exact .inl ⟨hbound, hadvances⟩
      · exact .inr ⟨fun _ => hnot, hblocks⟩
    · refine .inr ⟨fun _ stage' h => hobj h.exists_obj, ?_⟩
      split
      · rename_i hsnap
        exact absurd ⟨_, hsnap⟩ hobj
      · exact blocks_block _ (by decide)
  · rw [ingest_of_not_bound hbound]
    exact .inr ⟨fun h => absurd h hbound, blocks_block _ (by decide)⟩

/-! ## Every run -/

variable (contract) in
/-- The calls are at their places, the first of them at the `n`-th, and lead to a stage. -/
inductive Leads : ℕ → Stage → List Call → Stage → Prop
  | nil {n : ℕ} {stage : Stage} : Leads n stage [] stage
  | cons {n : ℕ} {stage stage' last : Stage} {call : Call} {calls : List Call}
    (hbound : IsBound contract n call) (hadvances : Advances contract stage call stage')
    (htail : Leads (n + 1) stage' calls last) : Leads n stage (call :: calls) last

/-- A gate that is blocked answers every call with its reason. -/
lemma outcomes_of_blocked {gate : NoEnvironmentProposalEventGate} {reason : Str}
    (h : gate.blockedReason = some reason) (calls : List Call) :
    outcomes ingest gate calls = List.replicate calls.length ⟨.blocked, none, [reason]⟩ := by
  have hcall : ∀ call, ingest gate call = (⟨.blocked, none, [reason]⟩, gate) := by
    intro call
    unfold ingest
    rw [h]
    rfl
  induction calls with
  | nil => rfl
  | cons call calls ih => rw [outcomes, hcall, List.length_cons, List.replicate_succ, ih]

omit [Runtime] in
lemma outcome_not_blocked (stage : Stage) : stage.outcome.status ≠ .blocked := by
  cases stage <;> exact OutcomeStatus.noConfusion

/-- The calls that lead to a stage are answered with the stages on the way. -/
lemma Leads.outcomes {calls : List Call} (h : Leads contract n stage calls stage') :
    (∀ outcome ∈ Runs.outcomes ingest (gateAt contract n stage) calls, outcome.status ≠ .blocked) ∧
      (calls ≠ [] → (Runs.outcomes ingest (gateAt contract n stage) calls).getLast? =
        some stage'.outcome) := by
  induction h with
  | nil => exact ⟨by simp [Runs.outcomes], absurd rfl⟩
  | @cons n stage stage' last call calls hbound hadvances htail ih =>
    have hstep : ingest (gateAt contract n stage) call =
        (stage'.outcome, gateAt contract (n + 1) stage') := by
      rcases right_ingest contract n stage call with ⟨-, other, hother, heq⟩ | ⟨hnot, -⟩
      · rw [heq, hadvances.unique hother]
      · exact absurd hadvances (hnot hbound stage')
    rw [Runs.outcomes, hstep]
    constructor
    · exact List.forall_mem_cons.mpr ⟨outcome_not_blocked stage', ih.1⟩
    · intro _
      by_cases hcalls : calls = []
      · subst hcalls
        cases htail
        rfl
      · rw [List.getLast?_cons, ih.2 hcalls]
        rfl

/-- A run follows a transcript as far as it can, and one reason blocks the rest. -/
lemma exists_beginning (contract : NoEnvironmentProposalContract) (n : ℕ) (stage : Stage)
    (calls : List Call) :
    ∃ beginning rest stage' reason, calls = beginning ++ rest ∧
      Leads contract n stage beginning stage' ∧ reason ≠ transcriptReplay ∧
      (∀ call ∈ rest.head?, ∀ last, ¬ Leads contract n stage (beginning ++ [call]) last) ∧
      outcomes ingest (gateAt contract n stage) calls =
        outcomes ingest (gateAt contract n stage) beginning ++
          List.replicate rest.length ⟨.blocked, none, [reason]⟩ := by
  induction calls generalizing n stage with
  | nil => exact ⟨[], [], stage, [], rfl, .nil, by decide, by simp, rfl⟩
  | cons call calls ih =>
    rcases right_ingest contract n stage call with ⟨hbound, stage', hadvances, heq⟩
      | ⟨hnot, reason, hreason, heq, hblocked⟩
    · obtain ⟨beginning, rest, last, reason, hcalls, hleads, hreason, hstop, houtcomes⟩ :=
        ih (n + 1) stage'
      refine ⟨call :: beginning, rest, last, reason, by rw [hcalls, List.cons_append],
        .cons hbound hadvances hleads, hreason, ?_, ?_⟩
      · intro next hnext last hlast
        cases hlast with
        | cons _ hother htail =>
          rw [← hadvances.unique hother] at htail
          exact hstop next hnext last htail
      · rw [outcomes, outcomes, heq, houtcomes, List.cons_append]
    · refine ⟨[], call :: calls, stage, reason, rfl, .nil, hreason, ?_, ?_⟩
      · intro next hnext last hlast
        cases hnext
        cases hlast with
        | cons hbound hadvances _ => exact hnot hbound _ hadvances
      · rw [outcomes.eq_2, heq, outcomes_of_blocked hblocked]
        rfl

/-! ## Proposals -/

variable (contract) in
/-- The calls of a turn that proposes: a start of the turn, a start of the message, deltas, the
message and the end of the turn, each at its place. -/
structure IsTranscript (calls : List Call) (proposal : NoEnvironmentProposedPatch) : Prop where
  bound : ∀ n call, calls[n]? = some call → IsBound contract n call
  events : ∃ turnId itemId started opened deltas answer finished,
    calls = started :: opened :: (deltas ++ [answer, finished]) ∧
      IsTurnStarted contract turnId started ∧ IsItemStarted contract turnId itemId opened ∧
      (∀ delta ∈ deltas, IsAgentDelta contract turnId itemId delta) ∧
      IsItemCompleted contract turnId itemId proposal answer ∧
      IsTurnCompleted contract turnId finished

lemma Leads.bound {calls : List Call} (h : Leads contract n stage calls stage') (i : ℕ)
    (call : Call) (hcall : calls[i]? = some call) : IsBound contract (n + i) call := by
  induction h generalizing i with
  | nil => exact nomatch hcall
  | cons hbound _ _ ih =>
    cases i with
    | zero =>
      cases hcall
      exact hbound
    | succ i =>
      rw [Nat.add_comm i, ← Nat.add_assoc]
      exact ih i hcall

/-- Behind the message only the end of the turn is left. -/
lemma Leads.of_answered {turnId itemId turnId' itemId' : Str}
    {proposal proposal' : NoEnvironmentProposedPatch} {calls : List Call}
    (h : Leads contract n (.answered turnId itemId proposal) calls
      (.complete turnId' itemId' proposal')) :
    proposal = proposal' ∧ ∃ finished, calls = [finished] ∧
      IsTurnCompleted contract turnId finished := by
  cases h with
  | cons _ hadvances htail =>
    cases hadvances with
    | turnCompleted hfinished =>
      cases htail with
      | nil => exact ⟨rfl, _, rfl, hfinished⟩
      | cons _ hadvances _ => exact nomatch hadvances

lemma Leads.of_itemOpen {turnId itemId turnId' itemId' : Str}
    {proposal : NoEnvironmentProposedPatch} {calls : List Call}
    (h : Leads contract n (.itemOpen turnId itemId) calls (.complete turnId' itemId' proposal)) :
    ∃ deltas answer finished, calls = deltas ++ [answer, finished] ∧
      (∀ delta ∈ deltas, IsAgentDelta contract turnId itemId delta) ∧
      IsItemCompleted contract turnId itemId proposal answer ∧
      IsTurnCompleted contract turnId finished := by
  induction calls generalizing n with
  | nil => exact nomatch h
  | cons call calls ih =>
    cases h with
    | cons _ hadvances htail =>
      cases hadvances with
      | agentDelta hdelta =>
        obtain ⟨deltas, answer, finished, rfl, hdeltas, hrest⟩ := ih htail
        exact ⟨call :: deltas, answer, finished, rfl, List.forall_mem_cons.mpr ⟨hdelta, hdeltas⟩,
          hrest⟩
      | itemCompleted hanswer =>
        obtain ⟨rfl, finished, rfl, hfinished⟩ := htail.of_answered
        exact ⟨[], call, finished, rfl, by simp, hanswer, hfinished⟩

/-- Deltas leave the stage. -/
lemma leads_deltas {turnId itemId : Str} {deltas calls : List Call}
    (hbound : ∀ i call, (deltas ++ calls)[i]? = some call → IsBound contract (n + i) call)
    (hdeltas : ∀ delta ∈ deltas, IsAgentDelta contract turnId itemId delta)
    (h : Leads contract (n + deltas.length) (.itemOpen turnId itemId) calls stage) :
    Leads contract n (.itemOpen turnId itemId) (deltas ++ calls) stage := by
  induction deltas generalizing n with
  | nil => exact h
  | cons delta deltas ih =>
    rw [List.forall_mem_cons] at hdeltas
    refine .cons (hbound 0 delta rfl) (.agentDelta hdeltas.1) (ih ?_ hdeltas.2 ?_)
    · intro i call hcall
      rw [Nat.add_assoc, Nat.add_comm 1]
      exact hbound (i + 1) call hcall
    · rw [Nat.add_assoc, Nat.add_comm 1]
      exact h

lemma leads_complete_iff {calls : List Call} {proposal : NoEnvironmentProposedPatch} :
    (∃ turnId itemId, Leads contract 0 .idle calls (.complete turnId itemId proposal)) ↔
      IsTranscript contract calls proposal := by
  constructor
  · rintro ⟨turnId, itemId, h⟩
    refine ⟨fun i call hcall => by simpa using h.bound i call hcall, ?_⟩
    cases h with
    | cons _ hadvances htail =>
      cases hadvances with
      | turnStarted hstarted =>
        cases htail with
        | cons _ hadvances htail =>
          cases hadvances with
          | itemStarted hopened =>
            obtain ⟨deltas, answer, finished, rfl, hrest⟩ := htail.of_itemOpen
            exact ⟨_, _, _, _, deltas, answer, finished, rfl, hstarted, hopened, hrest⟩
  · rintro ⟨hbound, turnId, itemId, started, opened, deltas, answer, finished, rfl, hstarted,
      hopened, hdeltas, hanswer, hfinished⟩
    have hlast : ∀ i call, (deltas ++ [answer, finished])[i]? = some call →
        IsBound contract (2 + i) call := by
      intro i call hcall
      rw [Nat.add_comm 2]
      exact hbound (i + 2) call hcall
    have hanswered : IsBound contract (2 + deltas.length) answer := hlast _ _ (by simp)
    have hcompleted : IsBound contract (2 + deltas.length + 1) finished := by
      rw [Nat.add_assoc]
      exact hlast _ _ (by simp)
    exact ⟨turnId, itemId, .cons (hbound 0 started rfl) (.turnStarted hstarted) <|
      .cons (hbound 1 opened rfl) (.itemStarted hopened) <| leads_deltas hlast hdeltas <|
      .cons hanswered (.itemCompleted hanswer) <| .cons hcompleted (.turnCompleted hfinished) .nil⟩

omit [Runtime] in
lemma new_of_fresh {store : ReplayStore} (hfresh : contract.transcriptNonce ∉ store) :
    (new contract store).1 = gateAt contract 0 .idle := by
  unfold new consume
  rw [if_neg (by simpa using hfresh)]
  rfl

/-- With a fresh nonce, the last of some calls is answered with a proposal exactly when the calls
are a transcript that proposes it. -/
theorem proposes_iff_isTranscript {store : ReplayStore}
    (hfresh : contract.transcriptNonce ∉ store) (calls : List Call)
    (proposal : NoEnvironmentProposedPatch) :
    (outcomes ingest (new contract store).1 calls).getLast? =
        some ⟨.proposalComplete, some proposal, []⟩ ↔ IsTranscript contract calls proposal := by
  rw [new_of_fresh hfresh, ← leads_complete_iff]
  constructor
  · intro hlast
    obtain ⟨beginning, rest, stage, reason, rfl, hleads, -, -, houtcomes⟩ :=
      exists_beginning contract 0 .idle calls
    rw [houtcomes] at hlast
    have hrest : rest = [] := by
      by_contra hrest
      rw [List.getLast?_append_of_ne_nil _ (by simpa using hrest), List.getLast?_replicate] at hlast
      split_ifs at hlast
      cases hlast
    subst hrest
    rw [List.length_nil, List.replicate_zero, List.append_nil] at hlast
    have hbeginning : beginning ≠ [] := by
      rintro rfl
      exact nomatch hlast
    rw [hleads.outcomes.2 hbeginning] at hlast
    cases stage with
    | complete turnId itemId other =>
      cases hlast
      rw [List.append_nil]
      exact ⟨turnId, itemId, hleads⟩
    | _ => exact nomatch hlast
  · rintro ⟨turnId, itemId, hleads⟩
    apply hleads.outcomes.2
    rintro rfl
    cases hleads

/-- Whatever the calls are, some first ones lead from stage to stage, and from the first call on that
leads nowhere every answer blocks with one reason. -/
theorem answers_split (contract : NoEnvironmentProposalContract) (store : ReplayStore)
    (calls : List Call) :
    ∃ beginning rest reason, calls = beginning ++ rest ∧
      (contract.transcriptNonce ∉ store ∧
        (∃ stage, Leads contract 0 .idle beginning stage) ∧
        (∀ call ∈ rest.head?, ∀ stage, ¬ Leads contract 0 .idle (beginning ++ [call]) stage) ∧
        reason ≠ transcriptReplay ∨
      contract.transcriptNonce ∈ store ∧ beginning = [] ∧ reason = transcriptReplay) ∧
      ∃ answers, outcomes ingest (new contract store).1 calls =
        answers ++ List.replicate rest.length ⟨.blocked, none, [reason]⟩ ∧
        answers.length = beginning.length ∧ ∀ answer ∈ answers, answer.status ≠ .blocked := by
  by_cases hfresh : contract.transcriptNonce ∈ store
  · refine ⟨[], calls, transcriptReplay, rfl, .inr ⟨hfresh, rfl, rfl⟩, [], ?_, rfl, by simp⟩
    apply outcomes_of_blocked
    unfold new consume
    rw [if_pos (by simpa using hfresh)]
    rfl
  · rw [new_of_fresh hfresh]
    obtain ⟨beginning, rest, stage, reason, hcalls, hleads, hreason, hstop, houtcomes⟩ :=
      exists_beginning contract 0 .idle calls
    exact ⟨beginning, rest, reason, hcalls, .inl ⟨hfresh, ⟨stage, hleads⟩, hstop, hreason⟩, _,
      houtcomes, length_outcomes _ _ _, hleads.outcomes.1⟩

end

/-! ## A transcript -/

def sampleContract : NoEnvironmentProposalContract where
  transcriptNonce := js "nonce"
  threadId := js "t"
  targetPath := js "a.txt"
  baseSha256 := List.replicate 64 (cu 'a')

def samplePatch : NoEnvironmentProposedPatch where
  targetPath := js "a.txt"
  baseSha256 := List.replicate 64 (cu 'a')
  afterSha256 := List.replicate 64 (cu 'b')
  unifiedDiff := js "-a\n+b"

def sampleTurn (status : TurnStatus) : TurnParams where
  threadId := js "t"
  turn :=
    { id := js "u", itemsView := .full, status, startedAt := none, completedAt := none
      durationMs := none }

def sampleItem (text : Str) (phase : Option MessagePhase) : ItemParams where
  item := { id := js "m", text, phase }
  threadId := js "t"
  turnId := js "u"
  atMs := .ofNat 0

def sampleDelta : DeltaParams where
  threadId := js "t"
  turnId := js "u"
  itemId := js "m"
  delta := js "-a"

def sampleCall {α : Type} (schema : Schema α) (params : α) (n : ℕ) : Call where
  input := some (schema.write params)
  transcriptNonce := js "nonce"
  sequence := some (.ofNat n)

lemma reads_sampleCall {α : Type} {schema : Schema α} {params : α} {n : ℕ}
    (hsmall : (visit 0 0 (schema.write params)).isSome = true) (hvalid : schema.Valid params) :
    Reads schema (sampleCall schema params n) params :=
  ⟨schema.write params, Option.filter_some_pos hsmall, hvalid⟩

attribute [local instance] asciiRuntime

def sampleText : Str := Json.stringify (noEnvironmentProposedPatchSchema.write samplePatch)

def sampleCalls : List Call :=
  [sampleCall exactTurnStartedEventSchema (sampleTurn .inProgress) 0,
    sampleCall exactItemStartedEventSchema (sampleItem [] none) 1,
    sampleCall exactAgentDeltaEventSchema sampleDelta 2,
    sampleCall exactItemCompletedEventSchema (sampleItem sampleText (some .finalAnswer)) 3,
    sampleCall exactTurnCompletedEventSchema (sampleTurn .completed) 4]

lemma isTranscript_sampleCalls : IsTranscript sampleContract sampleCalls samplePatch := by
  constructor
  · intro n call hcall
    have hn : n < sampleCalls.length := (List.getElem?_eq_some_iff.mp hcall).1
    have hplaces : ∀ i < sampleCalls.length,
        sampleCalls[i]?.all fun call => call.transcriptNonce = js "nonce"
          ∧ call.sequence.map (·.1) = some (Json.natText i) := by decide +kernel
    have hplace := hplaces n hn
    rw [hcall, Option.all_some, decide_eq_true_eq] at hplace
    exact hplace
  · refine ⟨js "u", js "m", _, _, [sampleCall exactAgentDeltaEventSchema sampleDelta 2], _, _, rfl,
      ?_, ?_, ?_, ?_, ?_⟩
    · exact ⟨_, reads_sampleCall (by decide +kernel) (.intro (by decide +kernel)), rfl, rfl, rfl⟩
    · exact ⟨_, reads_sampleCall (by decide +kernel) (.intro (by decide +kernel)), rfl, rfl, rfl⟩
    · rw [List.forall_mem_singleton]
      exact ⟨_, reads_sampleCall (by decide +kernel) (.intro (by decide +kernel)), rfl, rfl, rfl⟩
    · exact ⟨_, noEnvironmentProposedPatchSchema.write samplePatch,
        reads_sampleCall (by decide +kernel) (.intro (by decide +kernel)), rfl, rfl, rfl, rfl,
        Json.parse_stringify ⟨by decide, trivial, trivial, trivial, trivial, trivial, trivial,
          trivial⟩, by decide +kernel, rfl, rfl⟩
    · exact ⟨_, reads_sampleCall (by decide +kernel) (.intro (by decide +kernel)), rfl, rfl, rfl⟩

theorem proposes_iff_isTranscript_sample :
    (outcomes ingest (new sampleContract []).1 sampleCalls).getLast? =
      some ⟨.proposalComplete, some samplePatch, []⟩ :=
  (proposes_iff_isTranscript (by decide) sampleCalls samplePatch).mpr isTranscript_sampleCalls

end CodexRouter.Proposal
