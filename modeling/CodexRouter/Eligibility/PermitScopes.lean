import CodexRouter.Capability.Canonical
import CodexRouter.Eligibility.Permit
import CodexRouter.Js.Ascii
import CodexRouter.Kernel.Records

/-!
# The scopes of a created permit

A permit is created with the strings it approves and with a structured scope for each of them.
The canonical string of the structured scope parses as the string it was made from, so a validation
gives the same answer from either list.
-/

open Js

namespace CodexRouter.Eligibility

open Kernel Capability Provider

structure CreateApprovalPermitInput where
  permitId : Str
  taskId : Str
  runId : Str
  principalId : Str
  approverId : Str
  policyDecisionHash : Str
  planHash : Str
  capabilityScopes : List Str
  createdAt : Str
  expiresAt : Str
  approver : Option Principal
  reason : Option Str
  signature : Option Str

/-- A permit with the fields that its validation does not read. -/
structure IssuedApprovalPermit extends ApprovalPermit where
  approverId : Option Str
  approvedBy : Principal
  issuedAt : Str
  createdAt : Option Str
  revokedReason : Option Str
  signature : Option Str
  reason : Option Str

/-- The issues of `PrincipalSchema`. -/
def principalIssues (principal : Principal) : List Issue :=
  match principalSchema.read (principalSchema.write principal) with
  | .ok _ => []
  | .error issues => issues

/-- The issues of `ApprovalPermitSchema`. -/
def IssuedApprovalPermit.issues (permit : IssuedApprovalPermit) : List Issue :=
  under "permitId" (nonEmpty permit.permitId) ++ under "taskId" (nonEmpty permit.taskId)
    ++ under "runId" (nonEmpty permit.runId)
    ++ under "principalId" (optionally nonEmpty permit.principalId)
    ++ under "approverId" (optionally nonEmpty permit.approverId)
    ++ under "decisionHash" (nonEmpty permit.decisionHash)
    ++ under "policyDecisionHash" (optionally nonEmpty permit.policyDecisionHash)
    ++ under "planHash" (nonEmpty permit.planHash)
    ++ under "approvedBy" (principalIssues permit.approvedBy)
    ++ under "scopes" (eachNonEmpty CapabilityScope.issues permit.scopes)
    ++ under "capabilityScopes" (each nonEmpty permit.capabilityScopes)
    ++ under "issuedAt" (nonEmpty permit.issuedAt)
    ++ under "createdAt" (optionally nonEmpty permit.createdAt)
    ++ under "expiresAt" (nonEmpty permit.expiresAt)
    ++ under "revokedAt" (optionally nonEmpty permit.revokedAt)
    ++ under "revokedReason" (optionally nonEmpty permit.revokedReason)
    ++ under "signature" (optionally nonEmpty permit.signature)
    ++ under "reason" (optionally nonEmpty permit.reason)

/-- The structured scope of a parsed string. -/
def kernelScopeOf (scope : Str) (parsed : ParsedCapabilityScope) : Result CapabilityScope :=
  -- `const [family, action] = parsed.action.split(".")`
  let parts := split (cu '.') parsed.action
  let family := parts.headD []
  let action := (parts.drop 1).headD []
  let carried := (js "capabilityScope", Json.str scope)
  if family = [] ∨ action = [] then fail (js "invalid capability action: " ++ parsed.action)
  else if family = js "fs" then .ok {
    kind := .file
    resource := parsed.resource
    access := if action = js "read" then .read else .write
    constraints := [carried] }
  else if family = js "shell" ∨ family = js "mcp" then .ok {
    kind := .tool
    resource := parsed.resource
    access := .execute
    constraints := [carried, (js "family", .str family)] }
  else if family = js "network" then .ok {
    kind := .network
    resource := parsed.resource
    access := .write
    constraints := [carried] }
  else if family = js "memory" then .ok {
    kind := .process
    resource := parsed.resource
    access := if action = js "read" then .read else .write
    constraints := [carried, (js "family", .str family)] }
  else if family = js "secret" then .ok {
    kind := .secret
    resource := parsed.resource
    access := .read
    constraints := [carried] }
  else if family = js "external" then .ok {
    kind := .external
    resource := parsed.resource
    access :=
      if action = js "admin" then .admin else if action = js "execute" then .execute else .write
    constraints := [carried] }
  else fail (js "unsupported capability family: " ++ family)

def capabilityScopeToKernelScope (scope : Str) : Result CapabilityScope := do
  let parsed ← parseCapabilityScope scope
  kernelScopeOf scope parsed

/-- `input.approver`, or a user of that id. -/
def getApprover (input : CreateApprovalPermitInput) : Result Principal :=
  match input.approver with
  | some approver => .ok approver
  | none => principalSchema.parse (principalSchema.write {
      principalId := input.approverId
      kind := .user
      displayName := none
      tenantId := none
      workspaceId := none
      createdAt := input.createdAt })

/-- The record that `createApprovalPermit` parses. -/
def createdPermit (input : CreateApprovalPermitInput) (approver : Principal)
    (scopes : List CapabilityScope) : IssuedApprovalPermit where
  permitId := input.permitId
  taskId := input.taskId
  runId := input.runId
  principalId := some input.principalId
  approverId := some input.approverId
  decisionHash := input.policyDecisionHash
  policyDecisionHash := some input.policyDecisionHash
  planHash := input.planHash
  approvedBy := approver
  scopes
  capabilityScopes := input.capabilityScopes
  issuedAt := input.createdAt
  createdAt := some input.createdAt
  expiresAt := input.expiresAt
  revokedAt := none
  revokedReason := none
  -- an empty reason or signature is falsy
  reason := input.reason.filter (· ≠ [])
  signature := input.signature.filter (· ≠ [])

def createApprovalPermit (input : CreateApprovalPermitInput) : Result IssuedApprovalPermit := do
  let approver ← getApprover input
  let scopes ← input.capabilityScopes.mapM capabilityScopeToKernelScope
  parse IssuedApprovalPermit.issues (createdPermit input approver scopes)

/-! ## What a parsed string says -/

/-- The trimmed string is the action and the resource, and the action is a known one. -/
lemma parseCapabilityScope_ok {scope : Str} {parsed : ParsedCapabilityScope}
    (h : parseCapabilityScope scope = .ok parsed) :
    trim scope = parsed.action ++ js ":" ++ parsed.resource ∧ parsed.resource ≠ [] ∧
      parsed.action ∈ knownActions := by
  simp only [parseCapabilityScope] at h
  split at h
  · exact absurd h fail_ne_ok
  rename_i separatorIndex hindex
  obtain ⟨hlt, hcolon, -⟩ := List.idxOf?_eq_some_iff.mp hindex
  split at h
  · exact absurd h fail_ne_ok
  rename_i hends
  split at h
  · exact absurd h fail_ne_ok
  split at h
  · exact absurd h fail_ne_ok
  rename_i hknown
  cases h
  refine ⟨?_, ?_, not_not.mp hknown⟩
  · show trim scope = (trim scope).take separatorIndex ++ [cu ':'] ++ _
    rw [← hcolon, List.append_assoc, List.singleton_append, List.getElem_cons_drop,
      List.take_append_drop]
  · show (trim scope).drop (separatorIndex + 1) ≠ []
    rw [ne_eq, List.drop_eq_nil_iff]
    omega

/-- Only the trimmed string matters to a parse that succeeds. -/
lemma parse_of_trim_eq {scope other : Str} {parsed : ParsedCapabilityScope}
    (htrim : trim other = trim scope) (h : parseCapabilityScope scope = .ok parsed) :
    parseCapabilityScope other = .ok parsed := by
  simp only [parseCapabilityScope] at h ⊢
  rw [htrim]
  split at h
  · exact absurd h fail_ne_ok
  split at h
  · exact absurd h fail_ne_ok
  rename_i hends
  rw [if_neg hends]
  split at h
  · exact absurd h fail_ne_ok
  rename_i hfamily
  rw [if_neg hfamily]
  split at h
  · exact absurd h fail_ne_ok
  rename_i hknown
  rw [if_neg hknown]
  exact h

lemma parse_structured {scope : Str} {parsed : ParsedCapabilityScope}
    (h : parseCapabilityScope scope = .ok parsed) :
    parseCapabilityScope (parsed.action ++ js ":" ++ parsed.resource) = .ok parsed := by
  apply parse_of_trim_eq _ h
  rw [← (parseCapabilityScope_ok h).1, trim_trim]

/-! ## The structured scope of a string -/

/-- Whatever the action, the structured scope is a valid one, its fields make the action and the
resource again, and it carries the string it was made from. -/
lemma kernelScopeOf_spec {scope : Str} {parsed : ParsedCapabilityScope} {kernel : CapabilityScope}
    (hresource : parsed.resource ≠ []) (hknown : parsed.action ∈ knownActions)
    (h : kernelScopeOf scope parsed = .ok kernel) :
    kernel.issues = [] ∧ structuredString kernel = parsed.action ++ js ":" ++ parsed.resource ∧
      Json.get? kernel.constraints "capabilityScope" = some (.str scope) := by
  obtain ⟨raw, family, action, resource, deny⟩ := parsed
  simp only [knownActions, List.mem_cons, List.not_mem_nil, or_false] at hknown
  rcases hknown with rfl | rfl | rfl | rfl | rfl | rfl | rfl | rfl | rfl | rfl | rfl <;>
  · cases h
    refine ⟨?_, rfl, rfl⟩
    simp only [CapabilityScope.issues, List.append_eq_nil_iff, under_eq_nil, nonEmpty_eq_nil,
      require_eq_nil]
    exact ⟨⟨hresource, rfl⟩, rfl⟩

/-- The canonical string of the structured scope parses as the string itself. -/
lemma canonicalString_of_kernelScope {scope : Str} {kernel : CapabilityScope}
    (h : capabilityScopeToKernelScope scope = .ok kernel) :
    ∃ canonical, capabilityScopeToCanonicalString kernel = .ok canonical ∧
      parseCapabilityScope canonical = parseCapabilityScope scope := by
  obtain ⟨parsed, hparsed, hkernel⟩ := bind_eq_ok.mp h
  obtain ⟨-, hresource, hknown⟩ := parseCapabilityScope_ok hparsed
  obtain ⟨hissues, hstructured, hcarried⟩ := kernelScopeOf_spec hresource hknown hkernel
  rcases canonicalString_cases hissues with ⟨carried, hcanonical, -, hget, -⟩ | hcanonical
  · have hsame : carried = scope := by simpa [hget] using hcarried
    exact ⟨carried, hcanonical, by rw [hsame]⟩
  · use structuredString kernel, hcanonical
    rw [hstructured, hparsed, parse_structured hparsed]

lemma canonicalStrings_of_kernelScopes {scopes : List Str} {kernels : List CapabilityScope}
    (h : List.Forall₂ (fun scope kernel => capabilityScopeToKernelScope scope = .ok kernel)
      scopes kernels) :
    ∃ canonicals, kernels.mapM capabilityScopeToCanonicalString = .ok canonicals ∧
      List.Forall₂ (fun scope canonical => parseCapabilityScope canonical =
        parseCapabilityScope scope) scopes canonicals := by
  simp only [mapM_eq_ok]
  induction h with
  | nil => exact ⟨[], .nil, .nil⟩
  | cons hhead htail ih =>
    obtain ⟨canonical, hcanonical, hparse⟩ := canonicalString_of_kernelScope hhead
    obtain ⟨canonicals, hcanonicals, hparses⟩ := ih
    exact ⟨canonical :: canonicals, .cons hcanonical hcanonicals, .cons hparse hparses⟩

lemma IssuedApprovalPermit.scopes_ne_nil {permit : IssuedApprovalPermit}
    (h : permit.issues = []) : permit.scopes ≠ [] := by
  simp only [IssuedApprovalPermit.issues, List.append_eq_nil_iff, under_eq_nil,
    eachNonEmpty_eq_nil] at h
  tauto

/-! ## Validation from either list -/

lemma capabilityImplies_congr {grant other : Str}
    (h : parseCapabilityScope grant = parseCapabilityScope other) (requested : Str) :
    capabilityImplies grant requested = capabilityImplies other requested := by
  unfold capabilityImplies
  rw [h]

lemma isPermitted_congr {permitted others : List Str}
    (h : List.Forall₂ (fun grant other => parseCapabilityScope other = parseCapabilityScope grant)
      permitted others) :
    isPermitted others = isPermitted permitted := by
  funext requested
  unfold isPermitted
  induction h with
  | nil => rfl
  | cons hhead htail ih =>
    rw [List.any_cons, List.any_cons, ih, capabilityImplies_congr hhead]

section

variable [Runtime]

/-- A validation reads the permitted scopes only through what they permit. -/
lemma validateApprovalPermit_congr {permit : ApprovalPermit} {scopes permitted others : List Str}
    (hpermitted : getCapabilityScopes permit = .ok permitted)
    (hothers : getCapabilityScopes { permit with capabilityScopes := scopes } = .ok others)
    (h : isPermitted others = isPermitted permitted) (context : ApprovalPermitValidationContext) :
    validateApprovalPermit { permit with capabilityScopes := scopes } context =
      validateApprovalPermit permit context := by
  unfold validateApprovalPermit
  rw [hpermitted, hothers, ok_bind, ok_bind, h]
  rfl

/-- A created permit is validated alike from its strings and from its structured scopes: the
canonical string of each structured scope parses as the string it was made from. -/
theorem created_scopes_interchangeable {input : CreateApprovalPermitInput}
    {permit : IssuedApprovalPermit} (h : createApprovalPermit input = .ok permit) :
    (∀ context : ApprovalPermitValidationContext, ∃ result,
      validateApprovalPermit permit.toApprovalPermit context = .ok result ∧
      validateApprovalPermit { permit.toApprovalPermit with capabilityScopes := [] } context =
        .ok result) ∧
    List.Forall₂ (fun scope kernel => capabilityScopeToKernelScope scope = .ok kernel ∧
      ∃ canonical, capabilityScopeToCanonicalString kernel = .ok canonical ∧
        parseCapabilityScope canonical = parseCapabilityScope scope)
      input.capabilityScopes permit.scopes := by
  simp only [createApprovalPermit, bind_eq_ok, parse_eq_ok] at h
  obtain ⟨approver, -, scopes, hscopes, hissues, rfl⟩ := h
  rw [mapM_eq_ok] at hscopes
  constructor
  · intro context
    obtain ⟨canonicals, hcanonicals, hparses⟩ := canonicalStrings_of_kernelScopes hscopes
    have hne : input.capabilityScopes ≠ [] := by
      intro hnil
      rw [hnil, List.forall₂_nil_left_iff] at hscopes
      exact IssuedApprovalPermit.scopes_ne_nil hissues hscopes
    have hgiven : getCapabilityScopes (createdPermit input approver scopes).toApprovalPermit =
        .ok input.capabilityScopes := if_pos hne
    have hstructured : getCapabilityScopes
        { (createdPermit input approver scopes).toApprovalPermit with capabilityScopes := [] } =
        .ok canonicals := hcanonicals
    rw [validateApprovalPermit_congr hgiven hstructured (isPermitted_congr hparses)]
    unfold validateApprovalPermit
    rw [hgiven]
    exact ⟨_, rfl, rfl⟩
  · apply List.Forall₂.imp _ hscopes
    intro scope kernel hkernel
    exact ⟨hkernel, canonicalString_of_kernelScope hkernel⟩

end

/-- A permit of a path with a climb in it, of a denied resource and of everything. -/
def samplePermitInput : CreateApprovalPermitInput where
  permitId := js "p"
  taskId := js "t"
  runId := js "r"
  principalId := js "u"
  approverId := js "a"
  policyDecisionHash := js "d"
  planHash := js "h"
  capabilityScopes := [js " fs.write:src/../a ", js "memory.read:deny", js "external.admin:*"]
  createdAt := js "2026-01-01"
  expiresAt := js "2026-01-02"
  approver := none
  reason := none
  signature := some []

attribute [local instance] asciiRuntime in
theorem created_scopes_interchangeable_sample :
    ∃ permit, createApprovalPermit samplePermitInput = .ok permit ∧
      ∀ context : ApprovalPermitValidationContext, ∃ result,
        validateApprovalPermit permit.toApprovalPermit context = .ok result ∧
        validateApprovalPermit { permit.toApprovalPermit with capabilityScopes := [] } context =
          .ok result := by
  have hreturns : (createApprovalPermit samplePermitInput).returns = true := by decide +kernel
  obtain ⟨permit, hpermit⟩ := Result.exists_ok hreturns
  exact ⟨permit, hpermit, (created_scopes_interchangeable hpermit).1⟩

end CodexRouter.Eligibility
