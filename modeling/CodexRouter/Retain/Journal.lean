import Mathlib.Logic.Relation
import CodexRouter.Js.Ascii
import CodexRouter.Js.Map
import CodexRouter.Js.Result
import CodexRouter.Kernel.Texts
import CodexRouter.Retain.Workspace
import CodexRouter.Runs.History

/-!
# The pending-approval journal

Entries are put once and changed by updates that keep their identity and follow a table of
state transitions.
-/

open Js CodexRouter.Kernel

namespace CodexRouter.Retain

inductive PendingApprovalJournalState where
  | pendingAccept | accepted | retained | postChecked | blocked | reconciliationRequired
  deriving DecidableEq

def PendingApprovalJournalState.text : PendingApprovalJournalState → Str
  | pendingAccept => js "pending_accept"
  | accepted => js "accepted"
  | retained => js "retained"
  | postChecked => js "post_checked"
  | blocked => js "blocked"
  | reconciliationRequired => js "reconciliation_required"

structure PendingApprovalJournalEntry where
  journalId : Str
  threadId : Str
  turnId : Str
  itemId : Str
  requestId : Str
  changeSetHash : Str
  authorizationDecisionHash : Str
  previewReceiptHash : Option Str
  headCommit : Str
  targetFiles : List Str
  targetHashes : List RetainTargetHash
  retainPermit : RetainPermit
  retainReceipt : Option RetainReceipt
  state : PendingApprovalJournalState
  reasons : List Str
  createdAt : Str
  updatedAt : Str
  deriving DecidableEq

section
variable [Runtime]

def hashTargetHashes (targets : List RetainTargetHash) : Str :=
  hashKernelObject (.arr (targets.map (·.toJson)))

/-- What the schema asks of a receipt that is present. -/
def PendingApprovalJournalEntry.receiptIssues (entry : PendingApprovalJournalEntry)
    (receipt : RetainReceipt) : List Issue :=
  require (receipt.permitId = entry.retainPermit.permitId
      ∧ receipt.changeSetHash = entry.changeSetHash
      ∧ receipt.previewReceiptHash = entry.previewReceiptHash
      ∧ receipt.previewReceiptHash = entry.retainPermit.previewReceiptHash
      ∧ hashTargetHashes receipt.targetHashes = hashTargetHashes entry.targetHashes)
    ["retainReceipt"] "journal retain receipt binding mismatch"
  ++ require (entry.state = .retained ∨ entry.state = .postChecked
      ∨ entry.state = .reconciliationRequired)
    ["retainReceipt"] "retain receipt is invalid before retained state"

/-- `PendingApprovalJournalEntryFieldsSchema`. -/
def PendingApprovalJournalEntry.fieldIssues (entry : PendingApprovalJournalEntry) : List Issue :=
  under "journalId" (nonEmpty entry.journalId)
    ++ under "threadId" (nonEmpty entry.threadId)
    ++ under "turnId" (nonEmpty entry.turnId)
    ++ under "itemId" (nonEmpty entry.itemId)
    ++ under "requestId" (nonEmpty entry.requestId)
    ++ under "changeSetHash" (sha256Issues entry.changeSetHash)
    ++ under "authorizationDecisionHash" (sha256Issues entry.authorizationDecisionHash)
    ++ under "previewReceiptHash" (optionally sha256Issues entry.previewReceiptHash)
    ++ under "headCommit" (nonEmpty entry.headCommit)
    ++ under "targetFiles" (eachNonEmpty nonEmpty entry.targetFiles)
    ++ under "targetHashes" (eachNonEmpty RetainTargetHash.issues entry.targetHashes)
    ++ under "retainPermit" entry.retainPermit.issues
    ++ under "retainReceipt" (optionally RetainReceipt.issues entry.retainReceipt)
    ++ under "reasons" (each nonEmpty entry.reasons)
    ++ under "createdAt" (nonEmpty entry.createdAt)
    ++ under "updatedAt" (nonEmpty entry.updatedAt)

/-- `PendingApprovalJournalEntrySchema`. -/
def PendingApprovalJournalEntry.issues (entry : PendingApprovalJournalEntry) : List Issue :=
  entry.fieldIssues
    ++ require (entry.previewReceiptHash = entry.retainPermit.previewReceiptHash
        ∧ ¬ (entry.retainPermit.approvalMode = .policyAuto ∧ entry.previewReceiptHash = none))
      ["previewReceiptHash"] "journal retain permit preview binding mismatch"
    ++ require (¬ ((entry.state = .retained ∨ entry.state = .postChecked)
        ∧ entry.retainReceipt = none))
      ["retainReceipt"] "retained journal state requires a retain receipt"
    ++ optionally entry.receiptIssues entry.retainReceipt

/-- The fields that `assertJournalIdentityStable` compares one by one, in its order. -/
def PendingApprovalJournalEntry.identity (entry : PendingApprovalJournalEntry) :
    List (Str × Option Str) :=
  [(js "journalId", entry.journalId), (js "threadId", entry.threadId),
    (js "turnId", entry.turnId), (js "itemId", entry.itemId),
    (js "requestId", entry.requestId), (js "changeSetHash", entry.changeSetHash),
    (js "authorizationDecisionHash", entry.authorizationDecisionHash),
    (js "previewReceiptHash", entry.previewReceiptHash), (js "headCommit", entry.headCommit),
    (js "createdAt", entry.createdAt)]

def assertJournalIdentityStable (current next : PendingApprovalJournalEntry) : Result Unit :=
  match (current.identity.zip next.identity).find? fun (a, b) => a.2 ≠ b.2 with
  | some (a, _) => fail (js "pending_journal_identity_drift:" ++ a.1)
  | none =>
    if !sameStringArrays current.targetFiles next.targetFiles then
      fail "pending_journal_identity_drift:targetFiles"
    else if hashTargetHashes current.targetHashes ≠ hashTargetHashes next.targetHashes then
      fail "pending_journal_identity_drift:targetHashes"
    else if hashKernelObject current.retainPermit.toJson ≠ hashKernelObject next.retainPermit.toJson
    then fail "pending_journal_identity_drift:retainPermit"
    else pure ()

/-- The table of `assertJournalTransition`. -/
def allowedTransitions : PendingApprovalJournalState → List PendingApprovalJournalState
  | .pendingAccept => [.accepted, .blocked, .reconciliationRequired]
  | .accepted => [.retained, .blocked, .reconciliationRequired]
  | .retained => [.postChecked, .reconciliationRequired]
  | .postChecked => [.reconciliationRequired]
  | .blocked => [.reconciliationRequired]
  | .reconciliationRequired => []

def assertJournalTransition (current next : PendingApprovalJournalState) : Result Unit :=
  if current ≠ next ∧ next ∉ allowedTransitions current then
    fail (js "pending_journal_invalid_transition:" ++ current.text ++ js ":" ++ next.text)
  else pure ()

/-! ## Stores -/

/-- The entries of a store, each under its slot. -/
abbrev Journal := Map Str PendingApprovalJournalEntry

/-- The slot of an entry on disk is a file named after the hash of its id; in memory an entry's
slot is the id itself. -/
def entryPath (journalId : Str) : Str := Runtime.sha256 journalId ++ js ".json"

def put (slot : Str → Str) (journal : Journal) (entryInput : PendingApprovalJournalEntry) :
    Result Journal := do
  let entry ← parse PendingApprovalJournalEntry.issues entryInput
  if journal.has (slot entry.journalId) then fail "pending_journal_duplicate_entry"
  else pure (journal.set (slot entry.journalId) entry)

/-- The caller's function may throw. -/
def update (slot : Str → Str) (journal : Journal) (journalId : Str)
    (change : PendingApprovalJournalEntry → Result PendingApprovalJournalEntry) :
    Result (Journal × PendingApprovalJournalEntry) :=
  match journal.get? (slot journalId) with
  | none => fail "pending_journal_entry_missing"
  | some current => do
    let next ← parse PendingApprovalJournalEntry.issues (← change current)
    assertJournalIdentityStable current next
    assertJournalTransition current.state next.state
    pure (journal.set (slot journalId) next, next)

inductive Call where
  | put (entry : PendingApprovalJournalEntry)
  | update (journalId : Str)
    (change : PendingApprovalJournalEntry → Result PendingApprovalJournalEntry)

/-- What a file system may do to an accepted call: the lock or the temporary file fails and
nothing is written, or the directory sync fails behind the rename. -/
inductive Fault where
  | none | beforeRename | afterRename

def Call.apply (slot : Str → Str) (journal : Journal) : Call → Result Journal
  | .put entry => Retain.put slot journal entry
  | .update journalId change => Prod.fst <$> Retain.update slot journal journalId change

/-- The entries after a call, whether it returned or threw. -/
def step (slot : Str → Str) (journal : Journal) (call : Call × Fault) : Journal :=
  match call.2, call.1.apply slot journal with
  | .beforeRename, _ => journal
  | _, .ok next => next
  | _, .error _ => journal

end

/-! ## One accepted call -/

/-- What all later versions of an entry share with it. -/
structure Evolves (entry later : PendingApprovalJournalEntry) : Prop where
  identity : entry.identity = later.identity
  targetFiles : entry.targetFiles.Perm later.targetFiles
  targetHashes : entry.targetHashes = later.targetHashes
  retainPermit : entry.retainPermit = later.retainPermit
  state : Relation.ReflTransGen (fun s s' => s' ∈ allowedTransitions s) entry.state later.state

lemma Evolves.refl (entry : PendingApprovalJournalEntry) : Evolves entry entry :=
  ⟨rfl, List.Perm.refl _, rfl, rfl, Relation.ReflTransGen.refl⟩

lemma Evolves.trans {a b c : PendingApprovalJournalEntry} (h : Evolves a b) (h' : Evolves b c) :
    Evolves a c :=
  ⟨h.identity.trans h'.identity, h.targetFiles.trans h'.targetFiles,
    h.targetHashes.trans h'.targetHashes, h.retainPermit.trans h'.retainPermit,
    h.state.trans h'.state⟩

/-- The texts that a version of an entry is compared by. -/
def PendingApprovalJournalEntry.hashedTexts (entry : PendingApprovalJournalEntry) : List Str :=
  entry.retainPermit.toJson.stableStringify :: targetHashesText entry.targetHashes
    :: (entry.retainReceipt.map fun receipt => targetHashesText receipt.targetHashes).toList

lemma assertJournalTransition_spec {current next : PendingApprovalJournalState}
    (h : assertJournalTransition current next = .ok ()) :
    Relation.ReflTransGen (fun s s' => s' ∈ allowedTransitions s) current next := by
  unfold assertJournalTransition at h
  split_ifs at h with hc
  · simp at h
  rcases not_and_or.mp hc with hc | hc
  · rw [not_not.mp hc]
  · exact Relation.ReflTransGen.single (not_not.mp hc)

section
variable [Runtime]

lemma assertJournalIdentityStable_spec {current next : PendingApprovalJournalEntry}
    (h : assertJournalIdentityStable current next = .ok ()) :
    current.identity = next.identity ∧ current.targetFiles.Perm next.targetFiles ∧
      hashTargetHashes current.targetHashes = hashTargetHashes next.targetHashes ∧
      hashKernelObject current.retainPermit.toJson = hashKernelObject next.retainPermit.toJson := by
  unfold assertJournalIdentityStable at h
  split at h
  · simp at h
  rename_i hfields
  split_ifs at h with hfiles hhashes hpermit
  · simp at h
  · simp at h
  · simp at h
  have hidentity : current.identity = next.identity := by
    simpa [PendingApprovalJournalEntry.identity] using hfields
  exact ⟨hidentity, perm_of_sameStringArrays (by simpa using hfiles), not_not.mp hhashes,
    not_not.mp hpermit⟩

/-- An accepted call writes one valid entry: a new one, or one that keeps what the checks of
`update` compare. -/
theorem Call.apply_spec {slot : Str → Str} {journal journal' : Journal} {call : Call}
    (h : call.apply slot journal = .ok journal') :
    ∃ key next, journal' = journal.set key next ∧ next.issues = [] ∧
      ((journal.get? key = none ∧ key = slot next.journalId) ∨ ∃ current,
        journal.get? key = some current ∧
        assertJournalIdentityStable current next = .ok () ∧
        assertJournalTransition current.state next.state = .ok ()) := by
  cases call with
  | put entry =>
    simp only [Call.apply, Retain.put, bind_eq_ok, parse_eq_ok] at h
    obtain ⟨next, ⟨hissues, rfl⟩, h⟩ := h
    split_ifs at h with hhas
    · simp at h
    refine ⟨_, _, (pure_eq_ok.mp h).symm, hissues, Or.inl ⟨?_, rfl⟩⟩
    simpa [Map.has] using hhas
  | update journalId change =>
    simp only [Call.apply, Retain.update] at h
    split at h
    · simp [fail] at h
    rename_i current hcurrent
    simp only [map_eq_pure_bind, bind_eq_ok, parse_eq_ok, pure_eq_ok] at h
    obtain ⟨-, ⟨changed, -, next, ⟨hissues, rfl⟩, ⟨⟩, hstable, ⟨⟩, hstate, rfl⟩, rfl⟩ := h
    exact ⟨_, _, rfl, hissues, Or.inr ⟨current, hcurrent, hstable, hstate⟩⟩

/-- The state after a call is the old one or what the accepted call wrote. -/
lemma step_cases (slot : Str → Str) (journal : Journal) (call : Call × Fault) :
    step slot journal call = journal ∨
      call.1.apply slot journal = .ok (step slot journal call) := by
  unfold step
  split
  · exact Or.inl rfl
  · rename_i happly _
    exact Or.inr happly
  · exact Or.inl rfl

lemma step_put {slot : Str → Str} {journal : Journal} {entry : PendingApprovalJournalEntry}
    (hissues : entry.issues = []) (hnew : journal.get? (slot entry.journalId) = none) :
    step slot journal (.put entry, .none) = journal.set (slot entry.journalId) entry := by
  have hput : put slot journal entry = .ok (journal.set (slot entry.journalId) entry) := by
    simp [put, parse, hissues, Map.has, hnew, pure, Except.pure]
  simp [step, Call.apply, hput]

/-- An update that keeps whatever must be kept is accepted. -/
lemma step_update (slot : Str → Str) {journal : Journal} (journalId : Str)
    {current next : PendingApprovalJournalEntry}
    (hcurrent : journal.get? (slot journalId) = some current)
    (hissues : next.issues = []) (hidentity : current.identity = next.identity)
    (hfiles : sameStringArrays current.targetFiles next.targetFiles = true)
    (htargets : current.targetHashes = next.targetHashes)
    (hpermit : current.retainPermit = next.retainPermit)
    (hstate : assertJournalTransition current.state next.state = .ok ()) :
    step slot journal (.update journalId fun _ => .ok next, .none) =
      journal.set (slot journalId) next := by
  have hfields : (current.identity.zip next.identity).find? (fun (a, b) => a.2 ≠ b.2) = none := by
    rw [hidentity]
    simp [PendingApprovalJournalEntry.identity]
  have hstable : assertJournalIdentityStable current next = .ok () := by
    unfold assertJournalIdentityStable
    rw [hfields]
    simp [hfiles, htargets, hpermit, pure, Except.pure]
  have hupdate : update slot journal journalId (fun _ => .ok next) =
      .ok (journal.set (slot journalId) next, next) := by
    simp [update, hcurrent, parse, hissues, hstable, hstate, pure, Except.pure]
  simp [step, Call.apply, hupdate]

/-! ## Whole histories -/

/-- The journals of a run that starts empty. -/
def journals (slot : Str → Str) (calls : List (Call × Fault)) : List Journal :=
  Runs.history (step slot) Map.empty calls

/-- The texts that the versions of a run are compared by. -/
def comparedTexts (slot : Str → Str) (calls : List (Call × Fault)) : List Str :=
  (journals slot calls).flatMap fun journal =>
    journal.values.flatMap PendingApprovalJournalEntry.hashedTexts

/-- A retained entry has a receipt, and a receipt belongs to its entry. -/
structure ReceiptBound (entry : PendingApprovalJournalEntry) : Prop where
  required : entry.state = .retained ∨ entry.state = .postChecked → entry.retainReceipt.isSome
  permit : ∀ receipt ∈ entry.retainReceipt, receipt.permitId = entry.retainPermit.permitId
  changeSet : ∀ receipt ∈ entry.retainReceipt, receipt.changeSetHash = entry.changeSetHash
  preview : ∀ receipt ∈ entry.retainReceipt,
    receipt.previewReceiptHash = entry.retainPermit.previewReceiptHash
  targets : ∀ receipt ∈ entry.retainReceipt, receipt.targetHashes = entry.targetHashes

lemma hashTargetHashes_inj {texts : List Str} (hsha : CollisionFree texts)
    {l r : List RetainTargetHash} (hl : targetHashesText l ∈ texts)
    (hr : targetHashesText r ∈ texts) (h : hashTargetHashes l = hashTargetHashes r) : l = r :=
  targetHashesText_inj (hsha _ hl _ hr h)

lemma receiptBound_of_issues {texts : List Str} (hsha : CollisionFree texts)
    {entry : PendingApprovalJournalEntry} (htexts : entry.hashedTexts ⊆ texts)
    (h : entry.issues = []) : ReceiptBound entry := by
  simp only [PendingApprovalJournalEntry.issues, List.append_eq_nil_iff, require_eq_nil,
    optionally_eq_nil, decide_eq_true_eq, PendingApprovalJournalEntry.receiptIssues] at h
  obtain ⟨⟨-, hrequired⟩, hreceipt⟩ := h
  refine ⟨fun hstate => ?_, fun r hr => (hreceipt r hr).1.1,
    fun r hr => (hreceipt r hr).1.2.1, fun r hr => (hreceipt r hr).1.2.2.2.1,
    fun r hr => ?_⟩
  · rw [Option.isSome_iff_ne_none]
    exact fun hnone => hrequired ⟨hstate, hnone⟩
  · have hentry : targetHashesText entry.targetHashes ∈ texts :=
      htexts (by simp [PendingApprovalJournalEntry.hashedTexts])
    have hr' : entry.retainReceipt = some r := hr
    have hreceiptText : targetHashesText r.targetHashes ∈ texts :=
      htexts (by simp [PendingApprovalJournalEntry.hashedTexts, hr'])
    exact hashTargetHashes_inj hsha hreceiptText hentry (hreceipt r hr).1.2.2.2.2

lemma evolves_of_checks {texts : List Str} (hsha : CollisionFree texts)
    {current next : PendingApprovalJournalEntry} (hcurrent : current.hashedTexts ⊆ texts)
    (hnext : next.hashedTexts ⊆ texts)
    (hstable : assertJournalIdentityStable current next = .ok ())
    (hstate : assertJournalTransition current.state next.state = .ok ()) :
    Evolves current next := by
  obtain ⟨hidentity, hfiles, htargets, hpermit⟩ := assertJournalIdentityStable_spec hstable
  have htext : ∀ entry : PendingApprovalJournalEntry, entry.hashedTexts ⊆ texts →
      entry.retainPermit.toJson.stableStringify ∈ texts ∧
        targetHashesText entry.targetHashes ∈ texts :=
    fun entry h => ⟨h (by simp [PendingApprovalJournalEntry.hashedTexts]),
      h (by simp [PendingApprovalJournalEntry.hashedTexts])⟩
  refine ⟨hidentity, hfiles, ?_, ?_, assertJournalTransition_spec hstate⟩
  · exact hashTargetHashes_inj hsha (htext _ hcurrent).2 (htext _ hnext).2 htargets
  · exact RetainPermit.toJson_inj (hsha _ (htext _ hcurrent).1 _ (htext _ hnext).1 hpermit)

/-- Every entry of a journal is valid and lies in the slot of its id. -/
def Valid (slot : Str → Str) (journal : Journal) : Prop :=
  ∀ key entry, journal.get? key = some entry → entry.issues = [] ∧ slot entry.journalId = key

lemma step_valid {slot : Str → Str} (journal : Journal) (call : Call × Fault)
    (h : Valid slot journal) : Valid slot (step slot journal call) := by
  rcases step_cases slot journal call with heq | happly
  · rwa [heq]
  obtain ⟨key, next, hset, hissues, hwritten⟩ := Call.apply_spec happly
  rw [hset]
  intro k entry hk
  by_cases hkey : k = key
  · subst hkey
    obtain rfl : next = entry := by simpa using hk
    refine ⟨hissues, ?_⟩
    rcases hwritten with ⟨-, hslot⟩ | ⟨current, hcurrent, hstable, -⟩
    · exact hslot.symm
    · -- an update keeps the id, and with it the slot
      have hid := (assertJournalIdentityStable_spec hstable).1
      have hjournalId : current.journalId = next.journalId := by
        simpa [PendingApprovalJournalEntry.identity] using congrArg List.head? hid
      rw [← hjournalId]
      exact (h k current hcurrent).2
  · exact h k entry (by simpa [hkey] using hk)

/-- Along a run no entry is lost, every later version of an entry keeps its identity, targets
and permit and is reached through the table of transitions, and every version is valid and
carries a receipt of its own where its state asks for one. -/
theorem journal_history (slot : Str → Str) (calls : List (Call × Fault))
    (hsha : CollisionFree (comparedTexts slot calls)) :
    (journals slot calls).Pairwise (fun journal later =>
        ∀ key entry, journal.get? key = some entry →
          ∃ entry', later.get? key = some entry' ∧ Evolves entry entry' ∧
            (entry.state = .reconciliationRequired → entry'.state = .reconciliationRequired)) ∧
      ∀ journal ∈ journals slot calls, ∀ key entry, journal.get? key = some entry →
        slot entry.journalId = key ∧ entry.issues = [] ∧ ReceiptBound entry := by
  have htexts : ∀ journal ∈ journals slot calls, ∀ key entry, journal.get? key = some entry →
      entry.hashedTexts ⊆ comparedTexts slot calls := by
    intro journal hj key entry he t ht
    rw [comparedTexts, List.mem_flatMap]
    exact ⟨journal, hj, List.mem_flatMap.mpr ⟨entry, Map.mem_values.mpr ⟨key, he⟩, ht⟩⟩
  have hvalid : ∀ journal ∈ journals slot calls, Valid slot journal :=
    Runs.history_invariant (by simp [Valid]) step_valid
  constructor
  · refine (Runs.history_pairwise (R := fun journal later : Journal =>
      ∀ key entry, journal.get? key = some entry →
        ∃ entry', later.get? key = some entry' ∧ Evolves entry entry')
      ?_ ?_ htexts ?_).imp ?_
    · exact fun journal key entry h => ⟨entry, h, Evolves.refl entry⟩
    · intro a b c hab hbc key entry h
      obtain ⟨entry', h', he⟩ := hab key entry h
      obtain ⟨entry'', h'', he'⟩ := hbc key entry' h'
      exact ⟨entry'', h'', he.trans he'⟩
    · intro journal call hbefore hafter k entry hk
      rcases step_cases slot journal call with heq | happly
      · rw [heq]
        exact ⟨entry, hk, Evolves.refl entry⟩
      obtain ⟨key, next, hset, -, hwritten⟩ := Call.apply_spec happly
      rw [hset] at hafter ⊢
      by_cases hkey : k = key
      · subst hkey
        have hnext := hafter k next (by simp)
        rcases hwritten with ⟨hnone, -⟩ | ⟨current, hcurrent, hstable, hstate⟩
        · simp [hk] at hnone
        · obtain rfl : entry = current := by simpa [hk] using hcurrent
          exact ⟨next, by simp, evolves_of_checks hsha (hbefore k entry hk) hnext hstable hstate⟩
      · exact ⟨entry, by simpa [hkey] using hk, Evolves.refl entry⟩
    · intro journal later h key entry he
      obtain ⟨entry', he', hevolves⟩ := h key entry he
      refine ⟨entry', he', hevolves, fun hstate => ?_⟩
      -- the table has no way out of `reconciliation_required`
      have hpath := hevolves.state
      rw [hstate] at hpath
      rcases Relation.ReflTransGen.cases_head hpath with heq | ⟨s, hs, -⟩
      · exact heq.symm
      · simp [allowedTransitions] at hs
  · intro journal hj key entry he
    obtain ⟨hissues, hslot⟩ := hvalid journal hj key entry he
    exact ⟨hslot, hissues, receiptBound_of_issues hsha (htexts journal hj key entry he) hissues⟩

end

/-! ## Two histories -/

section
attribute [local instance] asciiRuntime

def sampleHash (c : Char) : Str := List.replicate 64 (cu c)

def samplePermit : RetainPermit where
  permitId := "retain_1"
  changeSetHash := sampleHash 'c'
  authorizationDecisionHash := sampleHash 'd'
  previewReceiptHash := none
  approvalMode := .humanRequired
  headCommit := "c0ffee"
  targetFiles := ["a.ts", "b.ts"]
  issuedAt := "2026-01-02T03:04:05Z"
  expiresAt := "2026-01-02T03:14:05Z"
  nonceHash := sampleHash 'e'

def sampleEntry : PendingApprovalJournalEntry where
  journalId := "journal_1"
  threadId := "thread"
  turnId := "turn"
  itemId := "item"
  requestId := "1"
  changeSetHash := sampleHash 'c'
  authorizationDecisionHash := sampleHash 'd'
  previewReceiptHash := none
  headCommit := "c0ffee"
  targetFiles := ["a.ts", "b.ts"]
  targetHashes := [⟨"a.ts", none, sampleHash 'a'⟩]
  retainPermit := samplePermit
  retainReceipt := none
  state := .pendingAccept
  reasons := []
  createdAt := "2026-01-02T03:04:05Z"
  updatedAt := "2026-01-02T03:04:05Z"

def sampleReceipt (receiptId : Str) : RetainReceipt where
  receiptId := receiptId
  permitId := "retain_1"
  changeSetHash := sampleHash 'c'
  previewReceiptHash := none
  headCommit := "decade"
  repositoryIdentityHash := sampleHash 'f'
  targetHashes := [⟨"a.ts", none, sampleHash 'a'⟩]
  retainedAt := "2026-01-02T03:05:05Z"

def sampleAccepted : PendingApprovalJournalEntry := { sampleEntry with state := .accepted }

def sampleRetained : PendingApprovalJournalEntry :=
  { sampleEntry with
    state := .retained
    retainReceipt := some (sampleReceipt "first") }

def sampleExchanged : PendingApprovalJournalEntry :=
  { sampleRetained with
    retainReceipt := some (sampleReceipt "second")
    targetFiles := ["b.ts", "a.ts"] }

def sampleDropped : PendingApprovalJournalEntry :=
  { sampleExchanged with
    state := .reconciliationRequired
    retainReceipt := none }

lemma sampleEntries_valid : ∀ entry ∈ [sampleEntry, sampleAccepted, sampleDropped],
    entry.issues = [] := by
  decide +kernel

lemma sampleReceipts_valid : sampleRetained.issues = [] ∧ sampleExchanged.issues = [] := by
  have hfields : sampleRetained.fieldIssues = [] ∧ sampleExchanged.fieldIssues = [] := by
    decide +kernel
  constructor
  · rw [PendingApprovalJournalEntry.issues, hfields.1]
    simp [sampleRetained, sampleEntry, samplePermit, sampleReceipt,
      PendingApprovalJournalEntry.receiptIssues, optionally]
  · rw [PendingApprovalJournalEntry.issues, hfields.2]
    simp [sampleExchanged, sampleRetained, sampleEntry, samplePermit, sampleReceipt,
      PendingApprovalJournalEntry.receiptIssues, optionally]

/-- The entry put first, then brought to the other versions one after the other. -/
def sampleCalls (first : PendingApprovalJournalEntry)
    (rest : List PendingApprovalJournalEntry) : List (Call × Fault) :=
  (.put first, .none) :: rest.map fun next => (.update "journal_1" fun _ => .ok next, .none)

def sampleJournal (entry : PendingApprovalJournalEntry) : Journal :=
  Map.empty.set (js "journal_1") entry

lemma sampleJournal_update {first next : PendingApprovalJournalEntry}
    (hissues : next.issues = [])
    (hidentity : first.identity = next.identity)
    (hfiles : sameStringArrays first.targetFiles next.targetFiles = true)
    (htargets : first.targetHashes = next.targetHashes)
    (hpermit : first.retainPermit = next.retainPermit)
    (hstate : assertJournalTransition first.state next.state = .ok ()) :
    step id (sampleJournal first) (.update "journal_1" fun _ => .ok next, .none) =
      sampleJournal next :=
  step_update id (js "journal_1") (Map.get?_set_self _ _ first) hissues hidentity hfiles htargets
    hpermit hstate

lemma journals_acceptance :
    (journals id (sampleCalls sampleEntry [sampleAccepted])).map (·.values) =
      [[], [sampleEntry], [sampleAccepted]] := by
  have hput : step id Map.empty (.put sampleEntry, .none) = sampleJournal sampleEntry :=
    step_put (sampleEntries_valid _ (by simp)) rfl
  have hupdate : step id (sampleJournal sampleEntry)
      (.update "journal_1" fun _ => .ok sampleAccepted, .none) = sampleJournal sampleAccepted :=
    sampleJournal_update (sampleEntries_valid _ (by simp)) rfl (by decide) rfl rfl rfl
  simp only [journals, sampleCalls, Runs.history, List.map_cons, List.map_nil, hput, hupdate]
  rfl

theorem journal_history_acceptance :
    (journals id (sampleCalls sampleEntry [sampleAccepted])).Pairwise (fun journal later =>
        ∀ key entry, journal.get? key = some entry →
          ∃ entry', later.get? key = some entry' ∧ Evolves entry entry' ∧
            (entry.state = .reconciliationRequired → entry'.state = .reconciliationRequired)) ∧
      ∀ journal ∈ journals id (sampleCalls sampleEntry [sampleAccepted]), ∀ key entry,
        journal.get? key = some entry →
          id entry.journalId = key ∧ entry.issues = [] ∧ ReceiptBound entry := by
  apply journal_history
  have htexts : comparedTexts id (sampleCalls sampleEntry [sampleAccepted]) =
      sampleEntry.hashedTexts ++ sampleAccepted.hashedTexts := by
    rw [comparedTexts, ← List.flatMap_map, journals_acceptance]
    rfl
  have hne : Runtime.sha256 samplePermit.toJson.stableStringify ≠
      Runtime.sha256 (targetHashesText sampleEntry.targetHashes) := by
    decide +kernel
  rw [htexts]
  intro t ht u hu heq
  have hmem : ∀ v ∈ sampleEntry.hashedTexts ++ sampleAccepted.hashedTexts,
      v = samplePermit.toJson.stableStringify ∨ v = targetHashesText sampleEntry.targetHashes := by
    simp [PendingApprovalJournalEntry.hashedTexts, sampleAccepted, sampleEntry]
  rcases hmem t ht with rfl | rfl <;> rcases hmem u hu with rfl | rfl
  · rfl
  · exact absurd heq hne
  · exact absurd heq.symm hne
  · rfl

/-- A store accepts a retained entry whose receipt names another head, then an update that
exchanges the receipt and the order of the targets, then one that drops the receipt. -/
theorem receipt_exchanged_and_dropped :
    (journals id (sampleCalls sampleRetained [sampleExchanged, sampleDropped])).map (·.values) =
      [[], [sampleRetained], [sampleExchanged], [sampleDropped]] ∧
    sampleRetained.retainReceipt.map (·.headCommit) ≠ some sampleRetained.headCommit ∧
    sampleRetained.targetFiles ≠ sampleExchanged.targetFiles ∧
    sampleRetained.retainReceipt ≠ sampleExchanged.retainReceipt ∧
    sampleDropped.retainReceipt = none := by
  have hput : step id Map.empty (.put sampleRetained, .none) = sampleJournal sampleRetained :=
    step_put sampleReceipts_valid.1 rfl
  have hexchange : step id (sampleJournal sampleRetained)
      (.update "journal_1" fun _ => .ok sampleExchanged, .none) = sampleJournal sampleExchanged :=
    sampleJournal_update sampleReceipts_valid.2 rfl (by decide) rfl rfl rfl
  have hdrop : step id (sampleJournal sampleExchanged)
      (.update "journal_1" fun _ => .ok sampleDropped, .none) = sampleJournal sampleDropped :=
    sampleJournal_update (sampleEntries_valid _ (by simp)) rfl (by decide) rfl rfl rfl
  refine ⟨?_, by decide, by decide, by decide, rfl⟩
  simp only [journals, sampleCalls, Runs.history, List.map_cons, List.map_nil, hput, hexchange,
    hdrop]
  rfl

end

end CodexRouter.Retain
