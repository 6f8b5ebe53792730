import CodexRouter.Capability.Scope

/-!
# Decisions about one scope

A requested scope is allowed when a usable grant implies it and none denies it.
-/

open Js

namespace CodexRouter.Eligibility

open Kernel Capability

/-! ## Grants -/

inductive GrantScope where
  | text (scope : Str)
  | structured (scope : CapabilityScope)

/-- A grant that is an object; a `CapabilityGrant` has no `scope`. -/
structure GrantRecord where
  scope : Option GrantScope
  scopes : Option (List GrantScope)
  principalId : Option Str
  taskId : Option Str
  runId : Option Str
  expiresAt : Option Str
  revokedAt : Option Str

inductive CapabilityGrantLike where
  | text (scope : Str)
  | record (grant : GrantRecord)

/-- Both gates give every option. -/
structure CapabilityCheckOptions where
  principalId : Str
  taskId : Str
  runId : Str
  now : Str

structure CapabilityCheckResult where
  allowed : Bool
  requestedScope : Str
  reasons : List Str
  matchedAllowScopes : List Str
  matchedDenyScopes : List Str
  ignoredGrantReasons : List Str
  deriving DecidableEq

def normalizeGrantScope : GrantScope → Result Str
  | .text scope => .ok scope
  | .structured scope => capabilityScopeToCanonicalString scope

def GrantScope.truthy : GrantScope → Bool
  | .text scope => scope ≠ []
  | .structured _ => true

structure NormalizedGrant where
  scopes : List Str
  principalId : Option Str
  taskId : Option Str
  runId : Option Str
  expiresAt : Option Str
  revokedAt : Option Str

def normalizeGrant : CapabilityGrantLike → Result NormalizedGrant
  | .text scope => .ok ⟨[scope], none, none, none, none, none⟩
  | .record grant => do
    let scopes ← ((grant.scope.filter GrantScope.truthy).toList ++ grant.scopes.getD []).mapM
      normalizeGrantScope
    return {
      scopes
      principalId := grant.principalId.filter (· ≠ [])
      taskId := grant.taskId.filter (· ≠ [])
      runId := grant.runId.filter (· ≠ [])
      expiresAt := grant.expiresAt.filter (· ≠ [])
      revokedAt := grant.revokedAt.filter (· ≠ []) }

/-- An id of a grant that is not the id of the context. -/
def mismatchReasons (granted : Option Str) (asked reason : Str) : List Str :=
  (granted.toList.filter fun granted => asked ≠ [] && granted ≠ asked).map (reason ++ ·)

/-- An id of a grant without an id in the context. -/
def missingContextReasons (granted : Option Str) (asked reason : Str) : List Str :=
  if granted.isSome && asked = [] then [reason] else []

section

variable [Runtime]

def isExpired (expiresAt now : Str) : Bool :=
  match Runtime.dateParse now, Runtime.dateParse expiresAt with
  | some nowTime, some expiresTime => expiresTime ≤ nowTime
  | _, _ => true

def explainInvalidNow (now : Str) : Option Str :=
  if (Runtime.dateParse now).isNone then some (js "invalid_capability_check_now:" ++ now) else none

/-- The reasons that make a grant unusable. -/
def grantReasons (grant : NormalizedGrant) (options : CapabilityCheckOptions) : List Str :=
  (if grant.scopes = [] then [js "grant_has_no_scopes"] else [])
    ++ (explainInvalidNow options.now).toList
    ++ grant.revokedAt.toList.map (js "grant_revoked:" ++ ·)
    ++ (grant.expiresAt.toList.filter fun expiresAt =>
      (explainInvalidNow options.now).isNone && isExpired expiresAt options.now).map
        (js "grant_expired:" ++ ·)
    ++ mismatchReasons grant.principalId options.principalId "principal_mismatch:"
    ++ mismatchReasons grant.taskId options.taskId "task_mismatch:"
    ++ mismatchReasons grant.runId options.runId "run_mismatch:"
    ++ missingContextReasons grant.principalId options.principalId "missing_principal_context"
    ++ missingContextReasons grant.taskId options.taskId "missing_task_context"
    ++ missingContextReasons grant.runId options.runId "missing_run_context"

/-! ## The decision -/

omit [Runtime] in
/-- The resource `deny` stands for every resource. -/
def denyResourceMatches (denyResource requestedResource action : Str) : Bool :=
  denyResource = js "deny" || resourceImplies denyResource requestedResource action

structure Matches where
  allow : List Str
  deny : List Str
  ignored : List Str

omit [Runtime] in
/-- One scope of a usable grant; the scope parser throws errors with a message only. -/
def considerScope (requested : ParsedCapabilityScope) (found : Matches) (scope : Str) :
    Result Matches :=
  match parseCapabilityScope scope with
  | .error (.error message) => .ok { found with ignored := found.ignored ++ [message] }
  | .error e => .error e
  | .ok parsedGrant =>
    if parsedGrant.deny then
      if parsedGrant.action = requested.action
          && denyResourceMatches parsedGrant.resource requested.resource parsedGrant.action then
        .ok { found with deny := found.deny ++ [parsedGrant.raw] }
      else .ok found
    else do
      if ← capabilityImplies parsedGrant.raw requested.raw then
        return { found with allow := found.allow ++ [parsedGrant.raw] }
      else return found

def considerGrant (requested : ParsedCapabilityScope) (options : CapabilityCheckOptions)
    (found : Matches) (grant : CapabilityGrantLike) : Result Matches := do
  let normalized ← normalizeGrant grant
  let reasons := grantReasons normalized options
  if reasons ≠ [] then return { found with ignored := found.ignored ++ reasons }
  else normalized.scopes.foldlM (considerScope requested) found

def explainCapabilityDecision (grants : List CapabilityGrantLike) (requestedScope : Str)
    (options : CapabilityCheckOptions) : Result CapabilityCheckResult :=
  match parseCapabilityScope requestedScope with
  | .error (.error message) => .ok ⟨false, requestedScope, [message], [], [], []⟩
  | .error e => .error e
  | .ok requested => do
    let found ← grants.foldlM (considerGrant requested options) ⟨[], [], []⟩
    if found.deny ≠ [] then
      return {
        allowed := false
        requestedScope
        reasons := [js "matched_deny_scope"]
        matchedAllowScopes := distinct found.allow
        matchedDenyScopes := distinct found.deny
        ignoredGrantReasons := distinct found.ignored }
    else if found.allow ≠ [] then
      return {
        allowed := true
        requestedScope
        reasons := [js "matched_allow_scope"]
        matchedAllowScopes := distinct found.allow
        matchedDenyScopes := []
        ignoredGrantReasons := distinct found.ignored }
    else
      return {
        allowed := false
        requestedScope
        reasons := [js "missing_capability:" ++ requested.action ++ js ":" ++ requested.resource]
        matchedAllowScopes := []
        matchedDenyScopes := []
        ignoredGrantReasons := distinct found.ignored }

/-- A result that is denied is not allowed. -/
lemma not_allowed_of_denied {grants : List CapabilityGrantLike} {scope : Str}
    {options : CapabilityCheckOptions} {result : CapabilityCheckResult}
    (h : explainCapabilityDecision grants scope options = .ok result)
    (hdeny : js "matched_deny_scope" ∈ result.reasons) : result.allowed = false := by
  unfold explainCapabilityDecision at h
  split at h
  · rw [← Except.ok.inj h]
  · simp at h
  · simp only [bind_eq_ok] at h
    obtain ⟨found, -, h⟩ := h
    split at h
    · rw [pure_eq_ok] at h
      rw [← h]
    split at h
    · -- an allowed result gives another reason
      rw [pure_eq_ok] at h
      rw [← h] at hdeny
      have hne : js "matched_deny_scope" ≠ js "matched_allow_scope" := by decide
      exact absurd (List.mem_singleton.mp hdeny) hne
    · rw [pure_eq_ok] at h
      rw [← h]

end

end CodexRouter.Eligibility
