import CodexRouter.Js.Path
import CodexRouter.Kernel.Core

/-!
# Capability scopes

A scope is a string `action:resource`. File resources are compared after normalization, except
that a grant `*` is recognised by its raw text.
-/

open Js

namespace CodexRouter.Capability
open Kernel

structure ParsedCapabilityScope where
  raw : Str
  family : Str
  action : Str
  resource : Str
  deny : Bool
  deriving DecidableEq

def knownActions : List Str :=
  [js "fs.read", js "fs.write", js "shell.exec", js "network.egress", js "mcp.call",
    js "memory.read", js "memory.write", js "secret.read", js "external.write",
    js "external.execute", js "external.admin"]

def parseCapabilityScope (scope : Str) : Result ParsedCapabilityScope :=
  let trimmed := trim scope
  match trimmed.idxOf? (cu ':') with
  | none => fail (js "invalid capability scope: " ++ scope)
  | some separatorIndex =>
    if separatorIndex = 0 ∨ separatorIndex + 1 = trimmed.length then
      fail (js "invalid capability scope: " ++ scope)
    else
      let action := trimmed.take separatorIndex
      let resource := trimmed.drop (separatorIndex + 1)
      let family := (split (cu '.') action).headD []
      if family = [] ∨ cu '.' ∉ action then
        fail (js "invalid capability action: " ++ action)
      else if action ∉ knownActions then
        fail (js "unknown capability action: " ++ action)
      else .ok { raw := trimmed, family, action, resource, deny := resource = js "deny" }

def trimTrailingSlash (resource : Str) : Str :=
  if resource.length > 1 && endsWith resource [slash] then resource.dropLast else resource

def recursive : Str := js "/**"

def normalizeFileResource (resource : Str) : Str :=
  let slashResource := toSlashes resource
  let hasRecursiveWildcard := endsWith slashResource recursive
  let resourceBase :=
    if hasRecursiveWildcard then slashResource.take (slashResource.length - 3) else slashResource
  let normalizedBase := trimTrailingSlash (normalize resourceBase)
  if hasRecursiveWildcard then normalizedBase ++ recursive else normalizedBase

def normalizeResourceForAction (resource action : Str) : Str :=
  if startsWith action "fs." then normalizeFileResource resource else resource

def resourceImplies (grantResource requestedResource action : Str) : Bool :=
  if grantResource = js "deny" then false
  else if grantResource = js "*" then true
  else
    let grant := normalizeResourceForAction grantResource action
    let requested := normalizeResourceForAction requestedResource action
    if grant = requested then true
    else if endsWith grant recursive then
      let pre := grant.take (grant.length - 3)
      requested = pre || startsWith requested (pre ++ [slash])
    else false

def capabilityImplies (grantScope requestedScope : Str) : Result Bool := do
  let grant ← parseCapabilityScope grantScope
  let requested ← parseCapabilityScope requestedScope
  return grant.action = requested.action
    && resourceImplies grant.resource requested.resource grant.action

def capabilityScopeToCanonicalAction (scope : CapabilityScope) : Str :=
  let family := Json.get? scope.constraints "family"
  match scope.kind, scope.access with
  | .file, .read => js "fs.read"
  | .file, .write => js "fs.write"
  | .tool, .execute =>
    if family = some (.str "mcp") then js "mcp.call" else js "shell.exec"
  | .network, .write | .network, .execute | .network, .admin => js "network.egress"
  | .secret, .read => js "secret.read"
  | .process, .read =>
    if family = some (.str "memory") then js "memory.read" else js "process.read"
  | .process, .write =>
    if family = some (.str "memory") then js "memory.write" else js "process.write"
  | kind, access => kind.text ++ js "." ++ access.text

def resourcesAreEquivalent (left right action : Str) : Bool :=
  resourceImplies left right action && resourceImplies right left action

def canonicalScopeMatchesStructuredScope (scope : CapabilityScope) (canonicalScope : Str) :
    Result Bool := do
  let canonical ← parseCapabilityScope canonicalScope
  let structured ← parseCapabilityScope
    (capabilityScopeToCanonicalAction scope ++ js ":" ++ scope.resource)
  return canonical.action = structured.action
    && resourcesAreEquivalent canonical.resource structured.resource structured.action

/-- The string a scope carries for itself, when it means what the scope's fields say. -/
def getCanonicalScopeConstraint (scope : CapabilityScope) : Option Str :=
  match Json.get? scope.constraints "capabilityScope" with
  | some (.str canonicalScope) =>
    if (canonicalScopeMatchesStructuredScope scope canonicalScope).orElse false then
      some canonicalScope
    else none
  | _ => none

def capabilityScopeToCanonicalString (scope : CapabilityScope) : Result Str := do
  let scope ← parse CapabilityScope.issues scope
  match getCanonicalScopeConstraint scope with
  -- an empty canonical string is falsy
  | some (c :: canonical) => return c :: canonical
  | _ => return capabilityScopeToCanonicalAction scope ++ js ":" ++ scope.resource

end CodexRouter.Capability
