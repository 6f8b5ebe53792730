import CodexRouter.Capability.Files

/-!
# Canonical strings

The string a scope is compared by: the one it carries, when that means what its fields say, and
otherwise the one its fields make.
-/

open Js

namespace CodexRouter.Capability
open Kernel

/-- The string that the fields of a scope make. -/
def structuredString (scope : CapabilityScope) : Str :=
  capabilityScopeToCanonicalAction scope ++ js ":" ++ scope.resource

/-- A carried string is used only when it matches the fields. -/
lemma canonicalString_cases {scope : CapabilityScope} (hissues : scope.issues = []) :
    (∃ carried, capabilityScopeToCanonicalString scope = .ok carried ∧ carried ≠ [] ∧
        Json.get? scope.constraints "capabilityScope" = some (.str carried) ∧
        canonicalScopeMatchesStructuredScope scope carried = .ok true) ∨
      capabilityScopeToCanonicalString scope = .ok (structuredString scope) := by
  have hparse : parse CapabilityScope.issues scope = .ok scope := parse_eq_ok.mpr ⟨hissues, rfl⟩
  unfold capabilityScopeToCanonicalString
  rw [hparse, ok_bind]
  cases hcarried : getCanonicalScopeConstraint scope with
  | none => exact Or.inr rfl
  | some carried =>
    cases carried with
    | nil => exact Or.inr rfl
    | cons c carried =>
      left
      use c :: carried
      unfold getCanonicalScopeConstraint at hcarried
      split at hcarried
      · rename_i canonical hget
        split_ifs at hcarried with hmatches
        obtain rfl : canonical = c :: carried := Option.some.inj hcarried
        exact ⟨rfl, List.cons_ne_nil _ _, hget, Result.orElse_false.mp hmatches⟩
      · cases hcarried

end CodexRouter.Capability
