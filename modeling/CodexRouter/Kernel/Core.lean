import CodexRouter.Js.Json
import CodexRouter.Js.Result
import CodexRouter.Js.Runtime

/-!
# Kernel contracts

Capability scopes with the checks of their schema, and the hash of a kernel object.
-/

open Js

namespace CodexRouter.Kernel

inductive CapabilityScopeKind where
  | file | tool | network | secret | process | external
  deriving DecidableEq

inductive CapabilityAccess where
  | read | write | execute | admin
  deriving DecidableEq

def CapabilityScopeKind.text : CapabilityScopeKind → Str
  | file => js "file"
  | tool => js "tool"
  | network => js "network"
  | secret => js "secret"
  | process => js "process"
  | external => js "external"

def CapabilityAccess.text : CapabilityAccess → Str
  | read => js "read"
  | write => js "write"
  | execute => js "execute"
  | admin => js "admin"

structure CapabilityScope where
  kind : CapabilityScopeKind
  resource : Str
  access : CapabilityAccess
  constraints : List (Str × Json)
  deriving DecidableEq

/-- The issues of `CapabilityScopeSchema`. -/
def CapabilityScope.issues (scope : CapabilityScope) : List Issue :=
  under "resource" (nonEmpty scope.resource)
    ++ require (scope.kind ≠ .secret ∨ scope.access = .read) ["access"]
      "secret scopes only support read access"
    ++ require (scope.kind ≠ .external ∨ scope.access ≠ .read) ["access"]
      "external scopes must describe side-effectful access"

def CapabilityScope.toJson (scope : CapabilityScope) : Json :=
  .obj [(js "schemaVersion", .str "capability-scope.v1"), (js "kind", .str scope.kind.text),
    (js "resource", .str scope.resource), (js "access", .str scope.access.text),
    (js "constraints", .obj scope.constraints)]

/-- `hashKernelObject(input)`. -/
def hashKernelObject [Runtime] (input : Json) : Str := Runtime.sha256 input.stableStringify

end CodexRouter.Kernel
