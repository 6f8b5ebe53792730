import CodexRouter.Capability.Scope

/-!
# File resources

What a file resource reaches when it is a grant, and the resource of a written path.
-/

open Js

namespace CodexRouter.Capability
open Kernel

/-- The normalized resources a file resource reaches as a grant. -/
def Reaches (grant target : Str) : Prop :=
  grant ≠ js "deny" ∧ (grant = js "*" ∨ normalizeFileResource grant = target ∨
    ∃ X, normalizeFileResource grant = X ++ recursive ∧ (target = X ∨ X ++ [slash] <+: target))

/-- The resource of a scope that writes files, as its canonical string gives it. -/
def fileWriteResource (scope : CapabilityScope) : Option Str :=
  match capabilityScopeToCanonicalString scope >>= parseCapabilityScope with
  | .ok parsed => if parsed.action = js "fs.write" then some parsed.resource else none
  | .error _ => none

/-- The canonical string of the scope implies writing the path. -/
def Covers (scope : CapabilityScope) (path : Str) : Prop :=
  ∃ canonical, capabilityScopeToCanonicalString scope = .ok canonical ∧
    capabilityImplies canonical (js "fs.write:" ++ path) = .ok true

/-- The scope of writing one resource. -/
def fileWriteScope (resource : Str) : CapabilityScope where
  kind := .file
  resource
  access := .write
  constraints := []

lemma resourceImplies_fileWrite {grant requested : Str} :
    resourceImplies grant requested "fs.write" = true ↔
      Reaches grant (normalizeFileResource requested) := by
  have hfs : startsWith (js "fs.write") (js "fs.") = true := by decide
  simp only [resourceImplies, normalizeResourceForAction, hfs, if_true, Reaches]
  by_cases hd : grant = js "deny"
  · simp [hd]
  by_cases hs : grant = js "*"
  · simp [hs]
  by_cases he : normalizeFileResource grant = normalizeFileResource requested
  · simp [hd, he]
  rw [if_neg hd, if_neg hs, if_neg he]
  simp only [hd, hs, he, not_false_eq_true, ne_eq, true_and, false_or]
  constructor
  · intro h
    split at h
    · rename_i hend
      obtain ⟨X, hX⟩ := endsWith_iff.mp hend
      have hlen : (X ++ recursive).length - 3 = X.length := by simp [recursive, js]
      rw [← hX, hlen] at h
      refine ⟨X, hX.symm, ?_⟩
      simpa using h
    · simp at h
  · rintro ⟨X, hX, h⟩
    have hlen : (X ++ recursive).length - 3 = X.length := by simp [recursive, js]
    rw [if_pos (endsWith_iff.mpr ⟨X, hX.symm⟩), hX, hlen]
    simpa using h

lemma trim_fileWrite (path : Str) :
    trim (js "fs.write:" ++ path) = js "fs.write:" ++ trimEnd path := by
  have hd : (js "fs.write:" ++ path).dropWhile isTrimmed = js "fs.write:" ++ path := rfl
  rw [trim, hd]
  exact trimEnd_append (u := js "fs.write") (c := cu ':') (by decide) path

/-- The parsed scope of a written path. -/
def writtenPath (path : Str) : ParsedCapabilityScope where
  raw := js "fs.write:" ++ trimEnd path
  family := js "fs"
  action := js "fs.write"
  resource := trimEnd path
  deny := trimEnd path = js "deny"

lemma parse_fileWrite {path : Str} {parsed : ParsedCapabilityScope} :
    parseCapabilityScope (js "fs.write:" ++ path) = .ok parsed ↔
      trimEnd path ≠ [] ∧ parsed = writtenPath path := by
  have hi : (js "fs.write:" ++ trimEnd path).idxOf? (cu ':') = some 8 := rfl
  have ht : (js "fs.write:" ++ trimEnd path).take 8 = js "fs.write" := rfl
  have hr : (js "fs.write:" ++ trimEnd path).drop 9 = trimEnd path := rfl
  have hl : (js "fs.write:" ++ trimEnd path).length = (trimEnd path).length + 9 := by
    rw [List.length_append, Nat.add_comm]; rfl
  have hf : (split (cu '.') (js "fs.write")).headD [] = js "fs" := by decide
  rw [parseCapabilityScope, trim_fileWrite]
  simp only [hi, ht, hr, hl, hf]
  by_cases hn : trimEnd path = []
  · simp [hn]
  · have h9 : ¬ (8 = 0 ∨ 8 + 1 = (trimEnd path).length + 9) := by
      have := List.length_pos_iff.mpr hn
      omega
    rw [if_neg h9, if_neg (by decide), if_neg (by decide)]
    simp [hn, writtenPath, eq_comm]

lemma fileWriteResource_eq_some {scope : CapabilityScope} {resource : Str} :
    fileWriteResource scope = some resource ↔ ∃ canonical parsed,
      capabilityScopeToCanonicalString scope = .ok canonical ∧
      parseCapabilityScope canonical = .ok parsed ∧ parsed.action = js "fs.write" ∧
      parsed.resource = resource := by
  rw [fileWriteResource]
  cases hc : capabilityScopeToCanonicalString scope with
  | error e => simp [bind, Except.bind]
  | ok canonical =>
    cases hp : parseCapabilityScope canonical with
    | error e => simp [hp]
    | ok parsed => simp [hp]

theorem covers_iff {scope : CapabilityScope} {path : Str} :
    Covers scope path ↔ trimEnd path ≠ [] ∧ ∃ resource, fileWriteResource scope = some resource ∧
      Reaches resource (normalizeFileResource (trimEnd path)) := by
  simp only [Covers, capabilityImplies, bind_eq_ok, pure_eq_ok, parse_fileWrite,
    Bool.and_eq_true, decide_eq_true_eq, fileWriteResource_eq_some]
  constructor
  · rintro ⟨canonical, hc, grant, hg, requested, ⟨hn, rfl⟩, ha, hi⟩
    have ha : grant.action = js "fs.write" := ha
    rw [ha] at hi
    exact ⟨hn, _, ⟨canonical, grant, hc, hg, ha, rfl⟩, resourceImplies_fileWrite.mp hi⟩
  · rintro ⟨hn, _, ⟨canonical, grant, hc, hg, ha, rfl⟩, hr⟩
    refine ⟨canonical, hc, grant, hg, _, ⟨hn, rfl⟩, ha, ?_⟩
    rw [ha]
    exact resourceImplies_fileWrite.mpr hr

/-- One scope implies another: a grant of file writes reaches the other's resource. -/
theorem implies_fileWrite {grant requested : CapabilityScope} {g s resource : Str}
    (hg : capabilityScopeToCanonicalString grant = .ok g)
    (hs : capabilityScopeToCanonicalString requested = .ok s)
    (hr : fileWriteResource requested = some resource) :
    capabilityImplies g s = .ok true ↔ ∃ r, fileWriteResource grant = some r ∧
      Reaches r (normalizeFileResource resource) := by
  obtain ⟨_, parsed, hc, hp, ha, rfl⟩ := fileWriteResource_eq_some.mp hr
  obtain rfl : s = _ := by simpa [hs] using hc
  simp only [capabilityImplies, bind_eq_ok, pure_eq_ok, hp, Except.ok.injEq,
    exists_eq_left', Bool.and_eq_true, decide_eq_true_eq, fileWriteResource_eq_some]
  constructor
  · rintro ⟨parsedGrant, hpg, hact, hi⟩
    rw [hact, ha] at hi
    exact ⟨_, ⟨g, parsedGrant, hg, hpg, hact.trans ha, rfl⟩, resourceImplies_fileWrite.mp hi⟩
  · rintro ⟨_, ⟨_, parsedGrant, hg', hpg, hag, rfl⟩, hreach⟩
    obtain rfl : g = _ := by simpa [hg] using hg'
    refine ⟨parsedGrant, hpg, hag.trans ha.symm, ?_⟩
    rw [hag]
    exact resourceImplies_fileWrite.mpr hreach

/-! ## The scope of one path -/

lemma canonical_fileWriteScope {path : Str} (h : path ≠ []) :
    capabilityScopeToCanonicalString (fileWriteScope path) = .ok (js "fs.write:" ++ path) := by
  have hissues : (fileWriteScope path).issues = [] := by
    simp [CapabilityScope.issues, fileWriteScope, h]
  simp only [capabilityScopeToCanonicalString, parse, hissues]
  rfl

lemma fileWriteResource_fileWriteScope {path : Str} (h : trimEnd path ≠ []) :
    fileWriteResource (fileWriteScope path) = some (trimEnd path) := by
  have hne : path ≠ [] := by
    rintro rfl
    exact h rfl
  exact fileWriteResource_eq_some.mpr ⟨_, writtenPath path, canonical_fileWriteScope hne,
    parse_fileWrite.mpr ⟨h, rfl⟩, rfl, rfl⟩

/-- Implication between two written paths. -/
lemma implies_written {grant path : Str} (hg : trimEnd grant ≠ []) (hp : trimEnd path ≠ []) :
    capabilityImplies (js "fs.write:" ++ grant) (js "fs.write:" ++ path) =
      .ok (resourceImplies (trimEnd grant) (trimEnd path) "fs.write") := by
  simp only [capabilityImplies, parse_fileWrite.mpr ⟨hg, rfl⟩, parse_fileWrite.mpr ⟨hp, rfl⟩,
    ok_bind]
  simp [writtenPath, pure, Except.pure]

end CodexRouter.Capability
