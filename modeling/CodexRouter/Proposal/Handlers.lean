import CodexRouter.Proposal.Language

/-!
# What each handler does

A handler that is called at a stage leads to the stage behind the event, or it blocks the gate and
no event of this kind was waited for.
-/

open Js CodexRouter.Kernel

namespace CodexRouter.Proposal

open NoEnvironmentProposalEventGate

/-- The gate is blocked from now on, and not for the replay of a transcript. -/
def Blocks (answer : Answer) : Prop :=
  ∃ reason ≠ transcriptReplay, answer.1 = ⟨.blocked, none, [reason]⟩ ∧
    answer.2.blockedReason = some reason

lemma blocks_block (gate : NoEnvironmentProposalEventGate) {reason : Str}
    (h : reason ≠ transcriptReplay) : Blocks (gate.block reason) := ⟨reason, h, rfl, rfl⟩

variable [Runtime] {contract : NoEnvironmentProposalContract} {stage : Stage} {call : Call} {n : ℕ}
  {input : WireRecord}

/-- The answer advances the stage, or nothing advances it and the answer blocks. -/
def Right (contract : NoEnvironmentProposalContract) (stage : Stage) (call : Call) (n : ℕ)
    (answer : Answer) : Prop :=
  (∃ stage', Advances contract stage call stage' ∧
    answer = (stage'.outcome, gateAt contract n stage')) ∨
  ((∀ stage', ¬ Advances contract stage call stage') ∧ Blocks answer)

/-- The method that a stage waits for. -/
def Awaits (stage : Stage) (method : Str) : Prop :=
  match stage with
  | .idle => method = js "turn/started"
  | .turnOpen _ => method = js "item/started"
  | .itemOpen _ _ => method = js "item/agentMessage/delta" ∨ method = js "item/completed"
  | .answered _ _ _ => method = js "turn/completed"
  | .complete _ _ _ => False

omit [Runtime] in
lemma method_of_reads {α : Type} {method : Str} {params : Schema α} {a : α}
    (hsnap : snapshotJsonData call.input = some (.obj input))
    (h : Reads (exactEventSchema method params) call a) : ownString input "method" = some method := by
  obtain ⟨value, hvalue, hread⟩ := h
  rw [hsnap] at hvalue
  cases hvalue
  exact (exactEvent_read hread).1

/-- What advances a stage has the method that the stage waits for. -/
lemma Advances.awaits {stage' : Stage} (h : Advances contract stage call stage')
    (hsnap : snapshotJsonData call.input = some (.obj input)) :
    ∃ method, ownString input "method" = some method ∧ Awaits stage method := by
  cases h with
  | turnStarted h =>
    obtain ⟨params, hread, -⟩ := h
    exact ⟨_, method_of_reads hsnap hread, rfl⟩
  | itemStarted h =>
    obtain ⟨params, hread, -⟩ := h
    exact ⟨_, method_of_reads hsnap hread, rfl⟩
  | agentDelta h =>
    obtain ⟨params, hread, -⟩ := h
    exact ⟨_, method_of_reads hsnap hread, .inl rfl⟩
  | itemCompleted h =>
    obtain ⟨params, decoded, hread, -⟩ := h
    exact ⟨_, method_of_reads hsnap hread, .inr rfl⟩
  | turnCompleted h =>
    obtain ⟨params, hread, -⟩ := h
    exact ⟨_, method_of_reads hsnap hread, rfl⟩

/-- Where the stage does not wait for the method, blocking is right. -/
lemma right_block_of_not_awaits {method : Str} {reason : Str}
    (hsnap : snapshotJsonData call.input = some (.obj input))
    (hmethod : ownString input "method" = some method) (hnot : ¬ Awaits stage method)
    (hreason : reason ≠ transcriptReplay) (gate : NoEnvironmentProposalEventGate) :
    Right contract stage call n (gate.block reason) := by
  refine .inr ⟨?_, blocks_block gate hreason⟩
  intro stage' h
  obtain ⟨other, hother, hawaits⟩ := h.awaits hsnap
  rw [hmethod] at hother
  cases hother
  exact hnot hawaits

omit [Runtime] in
lemma accepts_iff {α : Type} {schema : Schema α} {j : Json} :
    accepts schema j = true ↔ ∃ a, schema.read j = .ok a := by
  unfold accepts
  rcases schema.read j with e | a
  · simp
  · simp

omit [Runtime] in
lemma reads_iff {α : Type} {schema : Schema α} {a : α}
    (hsnap : snapshotJsonData call.input = some (.obj input)) :
    Reads schema call a ↔ schema.read (.obj input) = .ok a := by
  unfold Reads
  rw [hsnap]
  simp

/-- Where the schema refuses the event, blocking is right. -/
lemma right_block_of_refused {α : Type} {schema : Schema α} {reason : Str}
    (hsnap : snapshotJsonData call.input = some (.obj input))
    (hrefused : accepts schema (.obj input) = false)
    (hneeds : ∀ stage', Advances contract stage call stage' → ∃ a, Reads schema call a)
    (hreason : reason ≠ transcriptReplay) (gate : NoEnvironmentProposalEventGate) :
    Right contract stage call n (gate.block reason) := by
  refine .inr ⟨?_, blocks_block gate hreason⟩
  intro stage' h
  obtain ⟨a, ha⟩ := hneeds stage' h
  rw [accepts_iff.mpr ⟨a, (reads_iff hsnap).mp ha⟩] at hrefused
  exact Bool.noConfusion hrefused

omit [Runtime] in
lemma TurnStatus.text_inj {a b : TurnStatus} : a.text = b.text ↔ a = b := by
  constructor
  · intro h
    cases a <;> cases b <;> first | rfl | exact absurd h (by decide)
  · rintro rfl
    rfl

lemma right_turnStarted (hsnap : snapshotJsonData call.input = some (.obj input))
    (hmethod : ownString input "method" = some (js "turn/started")) :
    Right contract stage call n ((gateAt contract n stage).ingestTurnStarted input) := by
  have hother : ∀ {gate}, ¬ Awaits stage (js "turn/started") →
      Right contract stage call n (block gate "no_environment_duplicate_turn_start") :=
    fun hnot => right_block_of_not_awaits hsnap hmethod hnot (by decide) _
  rcases stage with _ | turnId | ⟨turnId, itemId⟩ | ⟨turnId, itemId, proposal⟩
    | ⟨turnId, itemId, proposal⟩
  · unfold ingestTurnStarted
    rw [if_neg (by exact Bool.false_ne_true)]
    rcases hacc : accepts exactTurnStartedEventSchema (.obj input) with _ | _
    · apply right_block_of_refused hsnap hacc _ (by decide)
      intro stage' h
      cases h with
      | turnStarted h =>
        obtain ⟨params, hread, -⟩ := h
        exact ⟨params, hread⟩
    · obtain ⟨params, hread⟩ := accepts_iff.mp hacc
      obtain ⟨-, j, hparams, hj⟩ := exactEvent_read hread
      obtain ⟨m, turn, rfl, hthread, hturn, hid, hstatus, hitems⟩ := turnParams_read hj
      rw [if_neg (by simp)]
      dsimp only
      rw [recordProperty_of_get hparams, Option.bind_some, Option.bind_some, hthread, hturn,
        Option.bind_some, Option.bind_some, hid, hstatus, Option.any_some, hitems]
      have hcheck : (decide (some params.threadId ≠ some (gateAt contract n .idle).contract.threadId)
          || decide (some params.turn.id = none)
          || decide (some params.turn.status.text ≠ some (js "inProgress")) || !true) = true ↔
          ¬ (params.threadId = contract.threadId ∧ params.turn.status = .inProgress) := by
        rw [← TurnStatus.text_inj]
        simp [gateAt, TurnStatus.text, imp_iff_not_or]
      rw [if_congr hcheck rfl rfl, ite_not]
      split_ifs with hgood
      · exact .inl ⟨.turnOpen params.turn.id, .turnStarted ⟨params, (reads_iff hsnap).mpr hread,
          hgood.1, rfl, hgood.2⟩, rfl⟩
      · refine .inr ⟨?_, blocks_block _ (by decide)⟩
        intro stage' h
        cases h with
        | turnStarted h =>
          obtain ⟨other, hother, hthread', -, hstatus'⟩ := h
          rw [reads_iff hsnap, hread] at hother
          cases hother
          exact hgood ⟨hthread', hstatus'⟩
  all_goals exact hother (by simp [Awaits]; try decide)

/-! ### Events of the message -/

/-- The parameters name the thread of the contract and the turn. -/
def Names (contract : NoEnvironmentProposalContract) (turnId : Str) (input : WireRecord) : Prop :=
  ∃ m, Json.get? input "params" = some (.obj m) ∧
    ownString m "threadId" = some contract.threadId ∧ ownString m "turnId" = some turnId

omit [Runtime] in
lemma correlates_iff (gate : NoEnvironmentProposalEventGate) {turnId : Str}
    (hactive : gate.activeTurnId = some turnId) :
    gate.correlates input = true ↔ Names gate.contract turnId input := by
  unfold correlates Names
  rw [hactive]
  constructor
  · intro h
    rcases hm : recordProperty input "params" with _ | m
    · rw [hm] at h
      exact Bool.noConfusion h
    rw [hm, Option.any_some, Bool.and_eq_true, decide_eq_true_eq, decide_eq_true_eq] at h
    refine ⟨m, ?_, h⟩
    unfold recordProperty at hm
    split at hm
    · rename_i hget
      cases hm
      exact hget
    · exact nomatch hm
  · rintro ⟨m, hget, hthread, hturn⟩
    rw [recordProperty_of_get hget, Option.any_some, hthread, hturn]
    simp

/-- Where the event names another turn, blocking is right. -/
lemma right_block_of_uncorrelated {gate : NoEnvironmentProposalEventGate} {turnId : Str}
    {reason : Str} (hactive : gate.activeTurnId = some turnId) (hcontract : gate.contract = contract)
    (h : gate.correlates input = false)
    (hneeds : ∀ stage', Advances contract stage call stage' → Names contract turnId input)
    (hreason : reason ≠ transcriptReplay) : Right contract stage call n (gate.block reason) := by
  refine .inr ⟨?_, blocks_block gate hreason⟩
  intro stage' hadvances
  have hnames := hneeds stage' hadvances
  rw [← hcontract] at hnames
  rw [(correlates_iff gate hactive).mpr hnames] at h
  exact Bool.noConfusion h

omit [Runtime] in
lemma names_of_item {key method : Str} {hkey : key ∉ [js "item", js "threadId", js "turnId"]}
    {params : ItemParams}
    (hread : (exactEventSchema method (itemParamsSchema key hkey)).read (.obj input) = .ok params)
    (hthread : params.threadId = contract.threadId) :
    Names contract params.turnId input ∧ ∃ item,
      nestedRecord input "params" "item" = some item ∧
      exactAgentMessageSchema.read (.obj item) = .ok params.item := by
  obtain ⟨-, j, hparams, hj⟩ := exactEvent_read hread
  obtain ⟨m, item, rfl, hthread', hturn, hitem, hmessage⟩ := itemParams_read hj
  refine ⟨⟨m, hparams, hthread ▸ hthread', hturn⟩, item, ?_, hmessage⟩
  rw [nestedRecord, recordProperty_of_get hparams, Option.bind_some, hitem]

omit [Runtime] in
/-- What correlates and is read names the thread and the turn. -/
lemma eq_of_names {key method : Str} {hkey : key ∉ [js "item", js "threadId", js "turnId"]}
    {params : ItemParams} {turnId : Str} (hnames : Names contract turnId input)
    (hread : (exactEventSchema method (itemParamsSchema key hkey)).read (.obj input) = .ok params) :
    params.threadId = contract.threadId ∧ params.turnId = turnId := by
  obtain ⟨-, j, hparams, hj⟩ := exactEvent_read hread
  obtain ⟨m, item, rfl, hthread, hturn, -⟩ := itemParams_read hj
  obtain ⟨m', hparams', hthread', hturn'⟩ := hnames
  rw [hparams] at hparams'
  cases hparams'
  rw [hthread] at hthread'
  rw [hturn] at hturn'
  exact ⟨Option.some.inj hthread', Option.some.inj hturn'⟩

lemma right_itemStarted (hsnap : snapshotJsonData call.input = some (.obj input))
    (hmethod : ownString input "method" = some (js "item/started")) :
    Right contract stage call n ((gateAt contract n stage).ingestItemStarted input) := by
  have hother : ∀ {gate}, ¬ Awaits stage (js "item/started") →
      Right contract stage call n (block gate "no_environment_agent_item_start_order_invalid") :=
    fun hnot => right_block_of_not_awaits hsnap hmethod hnot (by decide) _
  rcases stage with _ | turnId | ⟨turnId, itemId⟩ | ⟨turnId, itemId, proposal⟩
    | ⟨turnId, itemId, proposal⟩
  case turnOpen =>
    have hneeds : ∀ stage', Advances contract (.turnOpen turnId) call stage' →
        ∃ params, Reads exactItemStartedEventSchema call params ∧
          params.threadId = contract.threadId ∧ params.turnId = turnId := by
      intro stage' h
      cases h with
      | itemStarted h =>
        obtain ⟨params, hread, hthread, hturn, -⟩ := h
        exact ⟨params, hread, hthread, hturn⟩
    unfold ingestItemStarted
    rw [if_neg (by simp [gateAt])]
    rcases hcorrelates : (gateAt contract n (.turnOpen turnId)).correlates input with _ | _
    · apply right_block_of_uncorrelated rfl rfl hcorrelates _ (by decide)
      intro stage' h
      obtain ⟨params, hread, hthread, hturn⟩ := hneeds stage' h
      exact hturn ▸ (names_of_item ((reads_iff hsnap).mp hread) hthread).1
    rcases hacc : accepts exactItemStartedEventSchema (.obj input) with _ | _
    · apply right_block_of_refused hsnap hacc _ (by decide)
      intro stage' h
      obtain ⟨params, hread, -⟩ := hneeds stage' h
      exact ⟨params, hread⟩
    · obtain ⟨params, hread⟩ := accepts_iff.mp hacc
      obtain ⟨hthread, hturn⟩ := eq_of_names ((correlates_iff _ rfl).mp hcorrelates) hread
      obtain ⟨-, item, hitem, hmessage⟩ := names_of_item hread hthread
      obtain ⟨_, hobj, htype, hid, -⟩ := exactAgentMessage_read hmessage
      cases hobj
      rw [if_neg (by simp), if_neg (by simp), hitem, Option.filter_some, if_pos (by simp [htype])]
      dsimp only
      rw [hid]
      exact .inl ⟨.itemOpen turnId params.item.id, .itemStarted ⟨params,
        (reads_iff hsnap).mpr hread, hthread, hturn, rfl⟩, rfl⟩
  all_goals exact hother (by simp [Awaits]; try decide)

lemma right_agentDelta (hsnap : snapshotJsonData call.input = some (.obj input))
    (hmethod : ownString input "method" = some (js "item/agentMessage/delta")) :
    Right contract stage call n ((gateAt contract n stage).ingestAgentDelta input) := by
  have hother : ∀ {gate}, ¬ Awaits stage (js "item/agentMessage/delta") →
      Right contract stage call n (block gate "no_environment_agent_delta_order_invalid") :=
    fun hnot => right_block_of_not_awaits hsnap hmethod hnot (by decide) _
  rcases stage with _ | turnId | ⟨turnId, itemId⟩ | ⟨turnId, itemId, proposal⟩
    | ⟨turnId, itemId, proposal⟩
  case itemOpen =>
    -- an event of this method can only be a delta
    have hneeds : ∀ stage', Advances contract (.itemOpen turnId itemId) call stage' →
        IsAgentDelta contract turnId itemId call := by
      intro stage' h
      cases h with
      | agentDelta h => exact h
      | itemCompleted h =>
        obtain ⟨params, decoded, hread, -⟩ := h
        rw [method_of_reads hsnap hread] at hmethod
        exact absurd (Option.some.inj hmethod) (by decide)
    have hnames : ∀ params, exactAgentDeltaEventSchema.read (.obj input) = .ok params →
        ∃ m, Json.get? input "params" = some (.obj m) ∧
          ownString m "threadId" = some params.threadId ∧
          ownString m "turnId" = some params.turnId ∧
          ownString m "itemId" = some params.itemId ∧ ownString m "delta" = some params.delta := by
      intro params hread
      obtain ⟨-, j, hparams, hj⟩ := exactEvent_read hread
      obtain ⟨m, rfl, hids⟩ := deltaParams_read hj
      exact ⟨m, hparams, hids⟩
    unfold ingestAgentDelta
    rw [if_neg (by simp [gateAt])]
    rcases hcorrelates : (gateAt contract n (.itemOpen turnId itemId)).correlates input with _ | _
    · apply right_block_of_uncorrelated rfl rfl hcorrelates _ (by decide)
      intro stage' h
      obtain ⟨params, hread, hthread, hturn, -⟩ := hneeds stage' h
      obtain ⟨m, hparams, hthread', hturn', -⟩ := hnames params ((reads_iff hsnap).mp hread)
      exact ⟨m, hparams, hthread ▸ hthread', hturn ▸ hturn'⟩
    rcases hacc : accepts exactAgentDeltaEventSchema (.obj input) with _ | _
    · apply right_block_of_refused hsnap hacc _ (by decide)
      intro stage' h
      obtain ⟨params, hread, -⟩ := hneeds stage' h
      exact ⟨params, hread⟩
    · obtain ⟨params, hread⟩ := accepts_iff.mp hacc
      obtain ⟨m, hparams, hthread, hturn, hitem, hdelta⟩ := hnames params hread
      obtain ⟨m', hparams', hthread', hturn'⟩ := (correlates_iff _ rfl).mp hcorrelates
      rw [hparams] at hparams'
      cases hparams'
      rw [hthread] at hthread'
      rw [hturn] at hturn'
      rw [if_neg (by simp), if_neg (by simp), recordProperty_of_get hparams, Option.any_some, hitem,
        hdelta]
      have hcheck : (!(decide (some params.itemId =
          (gateAt contract n (.itemOpen turnId itemId)).startedItemId)
            && (some params.delta).isSome)) = true ↔ ¬ params.itemId = itemId := by
        simp [gateAt]
      rw [if_congr hcheck rfl rfl, ite_not]
      split_ifs with hgood
      · exact .inl ⟨.itemOpen turnId itemId, .agentDelta ⟨params, (reads_iff hsnap).mpr hread,
          Option.some.inj hthread', Option.some.inj hturn', hgood⟩, rfl⟩
      · refine .inr ⟨?_, blocks_block _ (by decide)⟩
        intro stage' h
        obtain ⟨other, hother, -, -, hitem'⟩ := hneeds stage' h
        rw [reads_iff hsnap, hread] at hother
        cases hother
        exact hgood hitem'
  all_goals exact hother (by simp [Awaits]; try decide)

omit [Runtime] in
lemma MessagePhase.text_inj {a b : MessagePhase} : a.text = b.text ↔ a = b := by
  constructor
  · intro h
    cases a <;> cases b <;> first | rfl | exact absurd h (by decide)
  · rintro rfl
    rfl

/-- The text of the message proposes what is taken, or it blocks. -/
lemma takeProposal_cases (gate : NoEnvironmentProposalEventGate) (itemId : Option Str)
    (text : Str) :
    (∃ decoded proposal, Json.parse? text = some decoded ∧
      noEnvironmentProposedPatchSchema.read decoded = .ok proposal ∧
      proposal.targetPath = gate.contract.targetPath ∧
      proposal.baseSha256 = gate.contract.baseSha256 ∧
      gate.takeProposal itemId text =
        wait { gate with finalProposal := some proposal, finalItemId := itemId }) ∨
    ((∀ decoded proposal, Json.parse? text = some decoded →
      noEnvironmentProposedPatchSchema.read decoded = .ok proposal →
      ¬ (proposal.targetPath = gate.contract.targetPath ∧
        proposal.baseSha256 = gate.contract.baseSha256)) ∧
      Blocks (gate.takeProposal itemId text)) := by
  unfold takeProposal
  rcases hparse : Json.parse? text with _ | decoded
  · exact .inr ⟨fun _ _ h _ => (nomatch h), blocks_block _ (by decide)⟩
  dsimp only
  rcases hread : noEnvironmentProposedPatchSchema.read decoded with e | proposal
  · refine .inr ⟨?_, blocks_block _ (by decide)⟩
    rintro _ _ ⟨⟩ h
    rw [hread] at h
    exact nomatch h
  dsimp only
  by_cases hgood : proposal.targetPath = gate.contract.targetPath ∧
      proposal.baseSha256 = gate.contract.baseSha256
  · refine .inl ⟨decoded, proposal, rfl, hread, hgood.1, hgood.2, if_neg ?_⟩
    simp [hgood.1, hgood.2]
  · refine .inr ⟨?_, ?_⟩
    · rintro _ _ ⟨⟩ h
      rw [hread] at h
      cases h
      exact hgood
    · rw [if_pos (by simpa [imp_iff_not_or] using hgood)]
      exact blocks_block _ (by decide)

lemma right_itemCompleted (hsnap : snapshotJsonData call.input = some (.obj input))
    (hmethod : ownString input "method" = some (js "item/completed")) :
    Right contract stage call n ((gateAt contract n stage).ingestItemCompleted input) := by
  have hother : ∀ {gate reason}, ¬ Awaits stage (js "item/completed") →
      reason ≠ transcriptReplay → Right contract stage call n (block gate reason) :=
    fun hnot hreason => right_block_of_not_awaits hsnap hmethod hnot hreason _
  rcases stage with _ | turnId | ⟨turnId, itemId⟩ | ⟨turnId, itemId, proposal⟩
    | ⟨turnId, itemId, proposal⟩
  case itemOpen =>
    have hneeds : ∀ stage', Advances contract (.itemOpen turnId itemId) call stage' →
        ∃ proposal, IsItemCompleted contract turnId itemId proposal call := by
      intro stage' h
      cases h with
      | itemCompleted h => exact ⟨_, h⟩
      | agentDelta h =>
        obtain ⟨params, hread, -⟩ := h
        rw [method_of_reads hsnap hread] at hmethod
        exact absurd (Option.some.inj hmethod) (by decide)
    unfold ingestItemCompleted
    rw [if_neg (by simp [gateAt]), if_neg (by simp [gateAt])]
    rcases hcorrelates : (gateAt contract n (.itemOpen turnId itemId)).correlates input with _ | _
    · apply right_block_of_uncorrelated rfl rfl hcorrelates _ (by decide)
      intro stage' h
      obtain ⟨_, params, -, hread, hthread, hturn, -⟩ := hneeds stage' h
      exact hturn ▸ (names_of_item ((reads_iff hsnap).mp hread) hthread).1
    rcases hacc : accepts exactItemCompletedEventSchema (.obj input) with _ | _
    · apply right_block_of_refused hsnap hacc _ (by decide)
      intro stage' h
      obtain ⟨_, params, -, hread, -⟩ := hneeds stage' h
      exact ⟨params, hread⟩
    obtain ⟨params, hread⟩ := accepts_iff.mp hacc
    obtain ⟨hthread, hturn⟩ := eq_of_names ((correlates_iff _ rfl).mp hcorrelates) hread
    obtain ⟨-, item, hitem, hmessage⟩ := names_of_item hread hthread
    obtain ⟨_, hobj, htype, hid, htext, hphase⟩ := exactAgentMessage_read hmessage
    cases hobj
    -- what an event of this kind has to say is said by the parameters that were read
    have hsame : ∀ {proposal}, IsItemCompleted contract turnId itemId proposal call →
        params.item.id = itemId ∧ params.item.phase = some .finalAnswer ∧
          ∃ decoded, Json.parse? params.item.text = some decoded ∧
            noEnvironmentProposedPatchSchema.read decoded = .ok proposal ∧
            proposal.targetPath = contract.targetPath ∧
            proposal.baseSha256 = contract.baseSha256 := by
      rintro proposal ⟨other, decoded, hother, -, -, hrest⟩
      rw [reads_iff hsnap, hread] at hother
      cases hother
      exact ⟨hrest.1, hrest.2.1, decoded, hrest.2.2⟩
    rw [if_neg (by simp), if_neg (by simp), hitem, Option.filter_some, if_pos (by simp [htype])]
    dsimp only
    rw [hid, htext, hphase, Option.filter_some]
    by_cases hfinal : params.item.id = itemId ∧ params.item.phase = some .finalAnswer
    · rw [if_pos (by simp [hfinal.1, hfinal.2, gateAt, MessagePhase.text])]
      dsimp only
      rcases takeProposal_cases (gateAt contract n (.itemOpen turnId itemId)) (some params.item.id)
        params.item.text with ⟨decoded, proposal, hparse, hpatch, htarget, hbase, heq⟩
          | ⟨hno, hblocks⟩
      · rw [heq]
        refine .inl ⟨.answered turnId itemId proposal, .itemCompleted ⟨params, decoded,
          (reads_iff hsnap).mpr hread, hthread, hturn, hfinal.1, hfinal.2, hparse, hpatch, htarget,
          hbase⟩, ?_⟩
        rw [hfinal.1]
        rfl
      · refine .inr ⟨?_, hblocks⟩
        intro stage' h
        obtain ⟨proposal, hcompleted⟩ := hneeds stage' h
        obtain ⟨-, -, decoded, hparse, hpatch, hbinding⟩ := hsame hcompleted
        exact hno decoded proposal hparse hpatch hbinding
    · rw [if_neg]
      · refine .inr ⟨?_, blocks_block _ (by decide)⟩
        intro stage' h
        obtain ⟨proposal, hcompleted⟩ := hneeds stage' h
        obtain ⟨hid', hphase', -⟩ := hsame hcompleted
        exact hfinal ⟨hid', hphase'⟩
      · intro hcheck
        rw [Bool.and_eq_true, decide_eq_true_eq, decide_eq_true_eq] at hcheck
        obtain ⟨phase, hsome, htext⟩ := Option.map_eq_some_iff.mp hcheck.2
        have hphase' : phase = .finalAnswer := MessagePhase.text_inj.mp htext
        exact hfinal ⟨Option.some.inj hcheck.1, hphase' ▸ hsome⟩
  case idle => exact hother (by simp [Awaits]; decide) (by decide)
  case turnOpen => exact hother (by simp [Awaits]; decide) (by decide)
  case answered => exact hother (by simp [Awaits]; decide) (by decide)
  case complete => exact hother (by simp [Awaits]) (by decide)

lemma right_turnCompleted (hsnap : snapshotJsonData call.input = some (.obj input))
    (hmethod : ownString input "method" = some (js "turn/completed")) :
    Right contract stage call n ((gateAt contract n stage).ingestTurnCompleted input) := by
  have hother : ∀ {gate reason}, ¬ Awaits stage (js "turn/completed") →
      reason ≠ transcriptReplay → Right contract stage call n (block gate reason) :=
    fun hnot hreason => right_block_of_not_awaits hsnap hmethod hnot hreason _
  have hneeds : ∀ stage', Advances contract stage call stage' → ∃ turnId itemId proposal,
      stage = .answered turnId itemId proposal ∧ stage' = .complete turnId itemId proposal ∧
        IsTurnCompleted contract turnId call := by
    intro stage' h
    obtain ⟨method, hother, hawaits⟩ := h.awaits hsnap
    rw [hmethod] at hother
    cases hother
    cases h with
    | turnCompleted h => exact ⟨_, _, _, rfl, rfl, h⟩
    | turnStarted => exact absurd hawaits (by simp [Awaits]; decide)
    | itemStarted => exact absurd hawaits (by simp [Awaits]; decide)
    | agentDelta => exact absurd hawaits (by simp [Awaits]; decide)
    | itemCompleted => exact absurd hawaits (by simp [Awaits]; decide)
  unfold ingestTurnCompleted
  by_cases hdone : (gateAt contract n stage).turnCompleted = true
  · rw [if_pos hdone]
    apply hother _ (by decide)
    cases stage with
    | complete => exact id
    | _ => exact Bool.noConfusion hdone
  rw [if_neg hdone]
  rcases hacc : accepts exactTurnCompletedEventSchema (.obj input) with _ | _
  · apply right_block_of_refused hsnap hacc _ (by decide)
    intro stage' h
    obtain ⟨_, _, _, -, -, params, hread, -⟩ := hneeds stage' h
    exact ⟨params, hread⟩
  rw [if_neg (by simp)]
  obtain ⟨params, hread⟩ := accepts_iff.mp hacc
  obtain ⟨-, j, hparams, hj⟩ := exactEvent_read hread
  obtain ⟨m, turn, rfl, hthread, hturn, hid, hstatus, hitems⟩ := turnParams_read hj
  have hsame : ∀ {turnId}, IsTurnCompleted contract turnId call →
      params.threadId = contract.threadId ∧ params.turn.id = turnId ∧
        params.turn.status = .completed := by
    rintro turnId ⟨other, hother, hrest⟩
    rw [reads_iff hsnap, hread] at hother
    cases hother
    exact hrest
  rw [recordProperty_of_get hparams, Option.filter_some, hthread]
  by_cases hanswered : ∃ turnId itemId proposal, stage = .answered turnId itemId proposal
  · obtain ⟨turnId, itemId, proposal, rfl⟩ := hanswered
    by_cases hgood : params.threadId = contract.threadId ∧ params.turn.id = turnId ∧
        params.turn.status = .completed
    · refine .inl ⟨.complete turnId itemId proposal, .turnCompleted ⟨params,
        (reads_iff hsnap).mpr hread, hgood.1, hgood.2.1, hgood.2.2⟩, ?_⟩
      rw [if_pos (by simp [hgood.1, gateAt])]
      dsimp only
      rw [hturn, Option.any_some, hid, hstatus, hitems, if_neg, if_neg]
      · rfl
      · simp [gateAt]
      · simp [hgood.2.1, hgood.2.2, gateAt, TurnStatus.text]
    · refine .inr ⟨?_, ?_⟩
      · intro stage' h
        obtain ⟨_, _, _, heq, -, hcompleted⟩ := hneeds stage' h
        cases heq
        exact hgood (hsame hcompleted)
      · by_cases hthread' : params.threadId = contract.threadId
        · rw [if_pos (by simp [gateAt, hthread'])]
          dsimp only
          rw [hturn, Option.any_some, hid, hstatus, hitems, if_pos]
          · exact blocks_block _ (by decide)
          · rw [← TurnStatus.text_inj] at hgood
            simpa [gateAt, hthread', imp_iff_not_or, TurnStatus.text] using hgood
        · rw [if_neg (by simp [gateAt, hthread'])]
          exact blocks_block _ (by decide)
  · -- before the message is complete there is no proposal to hand out
    refine .inr ⟨?_, ?_⟩
    · intro stage' h
      obtain ⟨turnId, itemId, proposal, heq, -⟩ := hneeds stage' h
      exact hanswered ⟨turnId, itemId, proposal, heq⟩
    · have hmissing : (gateAt contract n stage).finalProposal = none := by
        cases stage with
        | answered turnId itemId proposal => exact absurd ⟨_, _, _, rfl⟩ hanswered
        | complete => exact absurd rfl hdone
        | _ => rfl
      rw [if_pos (show (decide ((gateAt contract n stage).finalProposal = none)
        || decide ((gateAt contract n stage).finalItemId = none)) = true by simp [hmissing])]
      split
      · exact blocks_block _ (by decide)
      · split_ifs
        · exact blocks_block _ (by decide)
        · exact blocks_block _ (by decide)

end CodexRouter.Proposal
