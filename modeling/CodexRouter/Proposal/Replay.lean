import CodexRouter.Proposal.Transcript

/-!
# Gates over one replay store

Any number of gates share a store of consumed nonces, and their calls come in any order. A nonce is
good for one proposal.
-/

open Js Runs CodexRouter.Kernel

namespace CodexRouter.Proposal

open NoEnvironmentProposalEventGate

/-! ## The gates -/

structure Gates where
  store : ReplayStore
  gates : List NoEnvironmentProposalEventGate

inductive Action where
  | construct (contract : NoEnvironmentProposalContract)
  | ingest (i : ℕ) (call : Call)

variable [Runtime]

namespace Gates

/-- The contract and the answer of the gate that was called. -/
def perform (all : Gates) : Action →
    Option (NoEnvironmentProposalContract × NoEnvironmentProposalSessionOutcome) × Gates
  | .construct contract =>
    let (gate, store) := new contract all.store
    (none, { store, gates := all.gates ++ [gate] })
  | .ingest i call =>
    match all.gates[i]? with
    | none => (none, all)
    | some gate =>
      let (outcome, gate) := gate.ingest call
      (some (gate.contract, outcome), { all with gates := all.gates.set i gate })

end Gates

/-- The nonces for which proposals were handed out. -/
def proposedNonces
    (answers : List (Option (NoEnvironmentProposalContract × NoEnvironmentProposalSessionOutcome))) :
    List Str :=
  answers.filterMap fun answer => answer.bind fun (contract, outcome) =>
    if outcome.status = .proposalComplete then some contract.transcriptNonce else none

/-! ## One call -/

/-- The nonce of the gate, where the gate was the first one for it. -/
def claim (gate : NoEnvironmentProposalEventGate) : Option Str :=
  if gate.blockedReason = some transcriptReplay then none else some gate.contract.transcriptNonce

/-- The gate hands out nothing any more. -/
def Spent (gate : NoEnvironmentProposalEventGate) : Prop :=
  gate.blockedReason.isSome ∨ gate.turnCompleted = true

/-- The gate is at a stage or blocked. -/
def Formed (gate : NoEnvironmentProposalEventGate) : Prop :=
  gate.blockedReason.isSome ∨ ∃ n stage, gate = gateAt gate.contract n stage

omit [Runtime] in
lemma formed_new (contract : NoEnvironmentProposalContract) (store : ReplayStore) :
    Formed (new contract store).1 := by
  unfold new consume
  split_ifs with hstored
  · exact .inl rfl
  · exact .inr ⟨0, .idle, rfl⟩

omit [Runtime] in
lemma contract_gateAt (contract : NoEnvironmentProposalContract) (n : ℕ) (stage : Stage) :
    (gateAt contract n stage).contract = contract := by cases stage <;> rfl

omit [Runtime] in
lemma claim_gateAt (contract : NoEnvironmentProposalContract) (n : ℕ) (stage : Stage) :
    claim (gateAt contract n stage) = some contract.transcriptNonce := by
  cases stage <;> exact if_neg nofun

lemma contract_takeProposal (gate : NoEnvironmentProposalEventGate) (itemId : Option Str)
    (text : Str) : (gate.takeProposal itemId text).2.contract = gate.contract := by
  unfold takeProposal
  repeat' split
  all_goals rfl

lemma contract_dispatch (gate : NoEnvironmentProposalEventGate) (envelope : WireRecord) :
    (gate.dispatch envelope).2.contract = gate.contract := by
  unfold dispatch
  split
  · rfl
  split_ifs
  · rfl
  · unfold ingestTurnStarted
    dsimp only
    repeat' split
    all_goals rfl
  · unfold ingestItemStarted
    repeat' split
    all_goals rfl
  · unfold ingestAgentDelta
    repeat' split
    all_goals rfl
  · unfold ingestItemCompleted
    dsimp only
    repeat' split
    all_goals first | rfl | exact contract_takeProposal _ _ _
  · unfold ingestTurnCompleted
    repeat' split
    all_goals rfl
  · rfl

/-- The contract of a gate stays. -/
lemma contract_ingest (gate : NoEnvironmentProposalEventGate) (call : Call) :
    (ingest gate call).2.contract = gate.contract := by
  unfold ingest
  split
  · rfl
  split_ifs
  · rfl
  dsimp only
  split
  · exact contract_dispatch _ _
  · rfl

/-- What a call does to a gate, as far as its proposals are concerned. -/
structure Step (gate : NoEnvironmentProposalEventGate) (answer : Answer) : Prop where
  formed : Formed answer.2
  claim : claim answer.2 = claim gate
  spent : Spent gate → answer.1.status ≠ .proposalComplete ∧ Spent answer.2
  proposes : answer.1.status = .proposalComplete →
    Proposal.claim gate = some gate.contract.transcriptNonce ∧ Spent answer.2

omit [Runtime] in
lemma spent_gateAt_iff {contract : NoEnvironmentProposalContract} {n : ℕ} {stage : Stage} :
    Spent (gateAt contract n stage) ↔ stage.outcome.status = .proposalComplete := by
  cases stage <;> simp [Spent, gateAt, Stage.outcome]

lemma step_ingest {gate : NoEnvironmentProposalEventGate} (h : Formed gate) (call : Call) :
    Step gate (ingest gate call) := by
  rcases h with hblocked | ⟨n, stage, hstage⟩
  · obtain ⟨reason, hreason⟩ := Option.isSome_iff_exists.mp hblocked
    have hsame : ingest gate call = (gate.outcome .blocked [reason], gate) := by
      unfold ingest
      rw [hreason]
    rw [hsame]
    exact ⟨.inl hblocked, rfl, fun h => ⟨OutcomeStatus.noConfusion, h⟩, OutcomeStatus.noConfusion⟩
  · have hcontract := contract_ingest gate call
    have hclaim : claim gate = some gate.contract.transcriptNonce := by
      rw [hstage, contract_gateAt]
      exact claim_gateAt _ _ _
    rcases right_ingest gate.contract n stage call with ⟨hbound, stage', hadvances, heq⟩
      | ⟨hnot, reason, hreason, heq, hblocked⟩
    · rw [← hstage] at heq
      rw [heq]
      refine ⟨.inr ⟨n + 1, stage', by rw [contract_gateAt]⟩, ?_, ?_, ?_⟩
      · rw [hclaim]
        exact claim_gateAt _ _ _
      · -- nothing leads on from a complete stage
        intro hspent
        rw [hstage, spent_gateAt_iff] at hspent
        cases hadvances <;> exact nomatch hspent
      · exact fun hstatus => ⟨hclaim, spent_gateAt_iff.mpr hstatus⟩
    · rw [← hstage] at heq hblocked
      have hspent : Spent (ingest gate call).2 := by
        apply Or.inl
        rw [hblocked]
        rfl
      have hstatus : (ingest gate call).1.status ≠ .proposalComplete := by
        rw [heq]
        exact OutcomeStatus.noConfusion
      refine ⟨.inl (by rw [hblocked]; rfl), ?_, fun _ => ⟨hstatus, hspent⟩,
        fun h => absurd h hstatus⟩
      unfold claim
      rw [hblocked, hcontract, if_neg fun h => hreason (Option.some.inj h)]
      exact hclaim.symm

/-! ## Every run -/

/-- What holds of the gates when proposals have been handed out for some nonces. -/
structure Once (store : ReplayStore) (all : Gates) (nonces : List Str) : Prop where
  kept : store ⊆ all.store
  formed : ∀ gate ∈ all.gates, Formed gate
  claimed : ∀ nonce, some nonce ∈ all.gates.map claim → nonce ∈ all.store ∧ nonce ∉ store
  single : (all.gates.map claim).Pairwise fun a b => ∀ nonce, a = some nonce → b ≠ some nonce
  nodup : nonces.Nodup
  spent : ∀ nonce ∈ nonces, ∃ gate ∈ all.gates, claim gate = some nonce ∧ Spent gate

variable {store : ReplayStore} {all : Gates} {nonces : List Str}

omit [Runtime] in
/-- A gate claims its nonce when it is the first one for it. -/
lemma new_cases (contract : NoEnvironmentProposalContract) (store : ReplayStore) :
    (new contract store).2 = store ∧ claim (new contract store).1 = none ∨
      contract.transcriptNonce ∉ store ∧
        (new contract store).2 = store ++ [contract.transcriptNonce] ∧
        claim (new contract store).1 = some contract.transcriptNonce := by
  by_cases hstored : contract.transcriptNonce ∈ store
  · refine .inl ?_
    unfold new consume
    rw [if_pos (by simpa using hstored)]
    exact ⟨rfl, if_pos rfl⟩
  · refine .inr ⟨hstored, ?_⟩
    unfold new consume
    rw [if_neg (by simpa using hstored)]
    exact ⟨rfl, if_neg nofun⟩

lemma Once.construct (h : Once store all nonces) (contract : NoEnvironmentProposalContract) :
    Once store (all.perform (.construct contract)).2 nonces := by
  change Once store ⟨(new contract all.store).2, all.gates ++ [(new contract all.store).1]⟩ nonces
  have hformed : ∀ gate ∈ all.gates ++ [(new contract all.store).1], Formed gate :=
    List.forall_mem_append.mpr ⟨h.formed, by simpa using formed_new contract all.store⟩
  have hspent : ∀ nonce ∈ nonces, ∃ gate ∈ all.gates ++ [(new contract all.store).1],
      claim gate = some nonce ∧ Spent gate := by
    intro nonce hnonce
    obtain ⟨gate, hgate, hrest⟩ := h.spent nonce hnonce
    exact ⟨gate, List.mem_append_left _ hgate, hrest⟩
  have hmap : (all.gates ++ [(new contract all.store).1]).map claim =
      all.gates.map claim ++ [claim (new contract all.store).1] := List.map_append
  rcases new_cases contract all.store with ⟨hstore, hclaim⟩ | ⟨hfresh, hstore, hclaim⟩
  · rw [hstore]
    refine ⟨h.kept, hformed, ?_, ?_, h.nodup, hspent⟩
    · intro nonce hnonce
      rw [hmap, hclaim] at hnonce
      exact h.claimed nonce (by simpa using hnonce)
    · rw [hmap, hclaim]
      exact List.pairwise_append.mpr ⟨h.single, List.pairwise_singleton _ _, by simp⟩
  · rw [hstore]
    refine ⟨fun nonce hnonce => List.mem_append_left _ (h.kept hnonce), hformed, ?_, ?_, h.nodup,
      hspent⟩
    · intro nonce hnonce
      rw [hmap, hclaim, List.mem_append, List.mem_singleton] at hnonce
      rcases hnonce with hold | hnew
      · exact ⟨List.mem_append_left _ (h.claimed nonce hold).1, (h.claimed nonce hold).2⟩
      · cases hnew
        exact ⟨List.mem_append_right _ (List.mem_singleton_self _), fun hmem => hfresh (h.kept hmem)⟩
    · rw [hmap, hclaim]
      refine List.pairwise_append.mpr ⟨h.single, List.pairwise_singleton _ _, ?_⟩
      rintro a ha b hb nonce rfl heq
      rw [List.mem_singleton.mp hb] at heq
      cases heq
      exact hfresh (h.claimed _ ha).1

omit [Runtime] in
/-- One gate at most claims a nonce. -/
lemma Once.eq_of_claim (h : Once store all nonces) {i j : ℕ}
    {gate gate' : NoEnvironmentProposalEventGate} {nonce : Str} (hi : all.gates[i]? = some gate)
    (hj : all.gates[j]? = some gate') (hclaim : claim gate = some nonce)
    (hclaim' : claim gate' = some nonce) : i = j := by
  obtain ⟨hi', rfl⟩ := List.getElem?_eq_some_iff.mp hi
  obtain ⟨hj', rfl⟩ := List.getElem?_eq_some_iff.mp hj
  have hapart := List.pairwise_iff_getElem.mp (List.pairwise_map.mp h.single)
  rcases lt_trichotomy i j with hlt | heq | hlt
  · exact absurd hclaim' (hapart i j hi' hj' hlt nonce hclaim)
  · exact heq
  · exact absurd hclaim (hapart j i hj' hi' hlt nonce hclaim')

lemma Once.ingest (h : Once store all nonces) (i : ℕ) (call : Call) :
    Once store (all.perform (.ingest i call)).2
      (nonces ++ proposedNonces [(all.perform (.ingest i call)).1]) := by
  unfold Gates.perform
  dsimp only
  rcases hgate : all.gates[i]? with _ | gate
  · simpa [proposedNonces] using h
  dsimp only
  obtain ⟨hi, hget⟩ := List.getElem?_eq_some_iff.mp hgate
  have hstep := step_ingest (h.formed gate (List.mem_of_getElem? hgate)) call
  have hcontract := contract_ingest gate call
  generalize NoEnvironmentProposalEventGate.ingest gate call = answer at hstep hcontract ⊢
  have hmap : (all.gates.set i answer.2).map claim = all.gates.map claim := by
    have hlength : i < (all.gates.map claim).length := by simpa using hi
    rw [List.map_set, hstep.claim]
    simpa [hget] using List.set_getElem_self hlength
  have hmem : answer.2 ∈ all.gates.set i answer.2 := List.mem_set hi _
  have hformed : ∀ gate ∈ all.gates.set i answer.2, Formed gate := by
    intro other hother
    rcases List.mem_or_eq_of_mem_set hother with hold | rfl
    · exact h.formed other hold
    · exact hstep.formed
  have hspent : ∀ nonce ∈ nonces, ∃ gate ∈ all.gates.set i answer.2,
      claim gate = some nonce ∧ Spent gate := by
    intro nonce hnonce
    obtain ⟨other, hother, hclaim, hspent⟩ := h.spent nonce hnonce
    obtain ⟨j, hj⟩ := List.mem_iff_getElem?.mp hother
    by_cases hij : i = j
    · subst hij
      rw [hgate] at hj
      cases hj
      exact ⟨answer.2, hmem, hstep.claim.trans hclaim, (hstep.spent hspent).2⟩
    · have hj' : (all.gates.set i answer.2)[j]? = some other := by
        rw [List.getElem?_set_ne hij, hj]
      exact ⟨other, List.mem_of_getElem? hj', hclaim, hspent⟩
  have hclaimed := h.claimed
  have hsingle := h.single
  rw [← hmap] at hclaimed hsingle
  by_cases hstatus : answer.1.status = .proposalComplete
  · obtain ⟨hclaim, hnew⟩ := hstep.proposes hstatus
    have hproposed : proposedNonces [some (answer.2.contract, answer.1)] =
        [gate.contract.transcriptNonce] := by
      simp [proposedNonces, hstatus, hcontract]
    rw [hproposed]
    refine ⟨h.kept, hformed, hclaimed, hsingle, ?_, ?_⟩
    · apply List.Nodup.append h.nodup (List.nodup_singleton _)
      rw [List.disjoint_singleton]
      intro hold
      obtain ⟨other, hother, hclaim', hspent'⟩ := h.spent _ hold
      obtain ⟨j, hj⟩ := List.mem_iff_getElem?.mp hother
      have hij : i = j := h.eq_of_claim hgate hj hclaim hclaim'
      subst hij
      rw [hgate] at hj
      cases hj
      exact (hstep.spent hspent').1 hstatus
    · intro nonce hnonce
      rcases List.mem_append.mp hnonce with hold | hlast
      · exact hspent nonce hold
      · rw [List.mem_singleton.mp hlast]
        exact ⟨answer.2, hmem, hstep.claim.trans hclaim, hnew⟩
  · have hproposed : proposedNonces [some (answer.2.contract, answer.1)] = [] := by
      simp [proposedNonces, hstatus]
    rw [hproposed, List.append_nil]
    exact ⟨h.kept, hformed, hclaimed, hsingle, h.nodup, hspent⟩

lemma Once.perform (h : Once store all nonces) (action : Action) :
    Once store (all.perform action).2 (nonces ++ proposedNonces [(all.perform action).1]) := by
  cases action with
  | construct contract =>
    change Once store _ (nonces ++ [])
    rw [List.append_nil]
    exact h.construct contract
  | ingest i call => exact h.ingest i call

lemma Once.run (h : Once store all nonces) (actions : List Action) :
    Once store (behind Gates.perform all actions)
      (nonces ++ proposedNonces (outcomes Gates.perform all actions)) := by
  induction actions generalizing all nonces with
  | nil =>
    change Once store all (nonces ++ [])
    rwa [List.append_nil]
  | cons action actions ih =>
    have hrest := ih (h.perform action)
    rw [List.append_assoc] at hrest
    unfold proposedNonces at hrest ⊢
    rwa [← List.filterMap_append] at hrest

/-- Over any calls of any gates on one store, a nonce is good for one proposal, and a nonce that was
consumed before for none. -/
theorem proposed_once (store : ReplayStore) (actions : List Action) :
    (proposedNonces (outcomes Gates.perform ⟨store, []⟩ actions)).Nodup ∧
      ∀ nonce ∈ proposedNonces (outcomes Gates.perform ⟨store, []⟩ actions), nonce ∉ store := by
  have hstart : Once store ⟨store, []⟩ [] :=
    ⟨List.Subset.refl _, by simp, by simp, List.Pairwise.nil, List.nodup_nil, by simp⟩
  have hrun := hstart.run actions
  refine ⟨hrun.nodup, ?_⟩
  intro nonce hnonce
  obtain ⟨gate, hgate, hclaim, -⟩ := hrun.spent nonce hnonce
  exact (hrun.claimed nonce (List.mem_map.mpr ⟨gate, hgate, hclaim⟩)).2

end CodexRouter.Proposal
