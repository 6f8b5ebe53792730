import CodexRouter.Authorization.Ceiling
import CodexRouter.Js.Normal

/-!
# What a grant of file writes covers

A scope is read as a text: it is trimmed, its backslashes become slashes, it is normalized and
its wildcard is cut off before anything is compared. On a safe path without trailing space all of
this amounts to a comparison of path components.
-/

open Js

namespace CodexRouter.Authorization
open Kernel Capability

/-- The path lies strictly below the prefix, component by component. -/
def StrictlyBelow (pre path : Str) : Prop :=
  ∃ part rest, split slash path = split slash pre ++ part :: rest

/-- A slash after the prefix is what makes it end at a component. -/
lemma strictlyBelow_iff {pre path : Str} : StrictlyBelow pre path ↔ pre ++ [slash] <+: path := by
  unfold StrictlyBelow
  constructor
  · intro h
    obtain ⟨part, rest, hsplit⟩ := h
    use join slash (part :: rest)
    have hpath := join_split slash path
    rw [hsplit, join_append slash (split_ne_nil _ _) (List.cons_ne_nil part rest),
      join_split] at hpath
    rw [← hpath]
    simp
  · intro h
    obtain ⟨tail, rfl⟩ := h
    obtain ⟨part, rest, htail⟩ := List.exists_cons_of_ne_nil (split_ne_nil slash tail)
    use part, rest
    rw [List.append_assoc, List.singleton_append, split_append_slash, htail]

/-- An empty resource is no scope, and no safe path is its normal form. -/
lemma not_implies_of_empty {grant : Str} (hgrant : trimEnd grant = []) (path : Str) :
    capabilityImplies (js "fs.write:" ++ grant) (js "fs.write:" ++ path) ≠ .ok true := by
  intro h
  unfold capabilityImplies at h
  obtain ⟨parsed, hparsed, -⟩ := bind_eq_ok.mp h
  exact (parse_fileWrite.mp hparsed).1 hgrant

section
variable [Runtime]

lemma SafeParts.ne_dot {path : Str} {parts : List Str} (h : SafeParts path parts) :
    toSlashes path ≠ dot := by
  apply h.ne_component
  · exact fun hplain => hplain.ne_dot rfl
  · decide

/-- A safe path reaches as a grant only what it normalizes to. -/
lemma reaches_safe_iff {path target : Str} (hsafe : isSafeGovernedPath path = true)
    (hne : trimEnd path ≠ []) : Reaches (trimEnd path) target ↔
      trimEnd path ≠ js "deny" ∧ normalizeFileResource (trimEnd path) = target := by
  obtain ⟨parts, hparts⟩ := isSafeGovernedPath_iff.mp hsafe
  have hstar : cu '*' ∉ path := hparts.not_mem (by decide) (by decide) (by decide)
  have hraw : trimEnd path ≠ js "*" := fun he =>
    hstar ((prefix_trimEnd path).subset (he ▸ by decide))
  have hwild : ∀ X, normalizeFileResource (trimEnd path) ≠ X ++ recursive := by
    intro X hX
    have hm : cu '*' ∈ normalizeFileResource (trimEnd path) := hX ▸ by simp [recursive, js]
    obtain hp | hd | hd := hparts.prefix_resource hne
    · exact hstar (mem_toSlashes_of_ne (by decide) (hp.subset hm))
    · exact absurd (hd ▸ hm) (by decide)
    · exact absurd (hd ▸ hm) (by decide)
  simp [Reaches, hraw, hwild]

/-- What a grant of writes implies of a safe path that trimming leaves alone. -/
lemma implies_safe_iff {grant path : Str} (hsafe : isSafeGovernedPath path = true)
    (htrim : trimEnd path = path) (hgrant : trimEnd grant ≠ []) :
    capabilityImplies (js "fs.write:" ++ grant) (js "fs.write:" ++ path) = .ok true ↔
      Reaches (trimEnd grant) (toSlashes path) := by
  obtain ⟨parts, hparts⟩ := isSafeGovernedPath_iff.mp hsafe
  have hpath : trimEnd path ≠ [] := by
    rw [htrim]
    exact hparts.path_ne_nil
  rw [implies_written hgrant hpath, Except.ok.injEq, resourceImplies_fileWrite, htrim,
    hparts.resource_eq]

/-- A grant whose resource is neither `*` nor `deny` implies the write of a safe path exactly when
the path is the grant's normalized resource, or that resource is a prefix wildcard and the path is
the prefix or lies below it. Two safe paths imply each other only when they are one path. -/
theorem implies_path_iff :
    (∀ grant path : Str, trimEnd grant ≠ js "*" → trimEnd grant ≠ js "deny" →
      isSafeGovernedPath path = true → trimEnd path = path →
      (capabilityImplies (js "fs.write:" ++ grant) (js "fs.write:" ++ path) = .ok true ↔
        toSlashes path = normalizeFileResource (trimEnd grant) ∨
        ∃ pre, normalizeFileResource (trimEnd grant) = pre ++ recursive ∧
          (toSlashes path = pre ∨ StrictlyBelow pre (toSlashes path)))) ∧
    ∀ path other : Str, isSafeGovernedPath path = true → trimEnd path = path →
      isSafeGovernedPath other = true → trimEnd other = other →
      toSlashes path ≠ toSlashes other →
      capabilityImplies (js "fs.write:" ++ path) (js "fs.write:" ++ other) = .ok false := by
  constructor
  · intro grant path hstar hdeny hsafe htrim
    by_cases hgrant : trimEnd grant = []
    · obtain ⟨parts, hparts⟩ := isSafeGovernedPath_iff.mp hsafe
      have hdot : normalizeFileResource [] = dot := by decide
      rw [hgrant, hdot]
      constructor
      · intro h
        exact absurd h (not_implies_of_empty hgrant path)
      · intro h
        rcases h with h | ⟨pre, hpre, -⟩
        · exact absurd h hparts.ne_dot
        · have hstar : cu '*' ∈ dot := by
            rw [hpre]
            simp [recursive, js]
          exact absurd hstar (by decide)
    · rw [implies_safe_iff hsafe htrim hgrant]
      unfold Reaches
      simp only [strictlyBelow_iff, hstar, hdeny, ne_eq, not_false_eq_true, true_and, false_or]
      rw [eq_comm]
  · intro path other hpath hpathTrim hother hotherTrim hne
    obtain ⟨parts, hparts⟩ := isSafeGovernedPath_iff.mp hpath
    obtain ⟨others, hothers⟩ := isSafeGovernedPath_iff.mp hother
    have hgrant : trimEnd path ≠ [] := by
      rw [hpathTrim]
      exact hparts.path_ne_nil
    have hrequest : trimEnd other ≠ [] := by
      rw [hotherTrim]
      exact hothers.path_ne_nil
    rw [implies_written hgrant hrequest, Except.ok.injEq, ← Bool.not_eq_true,
      resourceImplies_fileWrite, reaches_safe_iff hpath hgrant]
    rw [hpathTrim, hotherTrim, hparts.resource_eq, hothers.resource_eq]
    exact fun h => hne h.2

end

attribute [local instance] asciiRuntime in
/-- A prefix wildcard with a dot segment, and two literal paths. -/
theorem implies_path_iff_docs :
    capabilityImplies (js "fs.write:docs/../src/**") (js "fs.write:src/index.ts") = .ok true ∧
      capabilityImplies (js "fs.write:src/index.ts") (js "fs.write:src/index.tsx") = .ok false := by
  constructor
  · apply (implies_path_iff.1 (js "docs/../src/**") (js "src/index.ts") (by decide) (by decide)
      (by decide +kernel) (by decide)).mpr
    right
    use js "src"
    constructor
    · decide
    · right
      use js "index.ts", []
      decide
  · apply implies_path_iff.2 (js "src/index.ts") (js "src/index.tsx") (by decide +kernel)
      (by decide) (by decide +kernel) (by decide) (by decide)

attribute [local instance] asciiRuntime in
/-- A backslash and a slash are one separator: two spellings of a safe path imply each other. -/
theorem backslash_implies_slash :
    isSafeGovernedPath (js "a\\b") = true ∧ isSafeGovernedPath (js "a/b") = true ∧
      js "a\\b" ≠ js "a/b" ∧ normalizeFileResource (js "a/b") = js "a/b" ∧
      ¬ recursive <:+ js "a/b" ∧
      capabilityImplies (js "fs.write:a/b") (js "fs.write:a\\b") = .ok true ∧
      capabilityImplies (js "fs.write:a\\b") (js "fs.write:a/b") = .ok true := by
  decide +kernel

end CodexRouter.Authorization
