import CodexRouter.Authorization.Paths

/-!
# Contracts of a capsule

The files of content trees and their paths, which are canonical and inside the repository.
-/

open Js CodexRouter.Authorization

namespace CodexRouter.Capsule

/-- A SHA-256 digest with the size of what it is a digest of. -/
structure ContentDigest where
  hash : Str
  size : ℕ
  deriving DecidableEq

inductive FileMode where
  | regular | executable
  deriving DecidableEq

def FileMode.text : FileMode → Str
  | regular => js "100644"
  | executable => js "100755"

structure OfflineContentTreeFile where
  path : Str
  mode : FileMode
  content : List ℕ
  deriving DecidableEq

structure LoadedContentTreeFile extends OfflineContentTreeFile where
  digest : ContentDigest
  deriving DecidableEq

/-! ## Paths -/

variable [Runtime]

def isCanonicalCapsulePath (input : Str) : Bool :=
  if Runtime.nfc input ≠ input || hasUnpairedUtf16Surrogate input then false
  else
    let slashPath := toSlashes input
    let normalized := normalize slashPath
    let parts := split slash normalized
    !(input = []
      || normalized = dot
      || normalized = dotDot
      || startsWith normalized (dotDot ++ [slash])
      || isAbsolute normalized
      || isAbsolute input
      || hasDrivePrefix input
      || startsWith slashPath [slash, slash]
      || input ≠ slashPath
      || normalized ≠ slashPath
      || parts.any (fun part => part = [] || part = dot || part = dotDot)
      || parts.any (fun part => Runtime.toLowerCase part = js ".git")
      || parts.any (fun part => part.any isUnsafeCharacter)
      || parts.any (fun part => endsWith part "." || endsWith part " ")
      || parts.any isWindowsReserved)

def canonicalPathAlias (path : Str) : Str := Runtime.toLowerCase (Runtime.nfc path)

/-- A canonical path is a safe path without backslashes. -/
theorem isCanonicalCapsulePath_iff {path : Str} :
    isCanonicalCapsulePath path = true ↔
      toSlashes path = path ∧ ∃ parts, SafeParts path parts := by
  constructor
  · intro h
    rw [isCanonicalCapsulePath] at h
    split at h
    · exact Bool.noConfusion h
    · rename_i hn
      simp only [Bool.or_eq_true, decide_eq_true_eq, not_or, not_not, Bool.not_eq_true] at hn
      simp only [Bool.not_eq_true', Bool.or_eq_false_iff, decide_eq_false_iff_not, not_not,
        List.any_eq_false, Bool.not_eq_true, and_assoc] at h
      obtain ⟨-, -, -, -, -, -, -, -, hslash, heq, hplain, hgit, hunits, hend, hres⟩ := h
      rw [heq] at hplain hgit hunits hend hres
      refine ⟨hslash.symm, split slash (toSlashes path), hn.1, hn.2, split_ne_nil _ _,
        (join_split _ _).symm, ?_⟩
      intro part hp
      obtain ⟨hnil, hdot, hdotDot⟩ := hplain part hp
      exact ⟨⟨hnil, hdot, hdotDot, not_mem_of_mem_split hp⟩, hgit part hp, hunits part hp,
        by simpa using (hend part hp).1, by simpa using (hend part hp).2, hres part hp⟩
  · intro ⟨hslash, parts, hsafe⟩
    have h := isSafeGovernedPath_iff.mpr ⟨parts, hsafe⟩
    rw [isSafeGovernedPath] at h
    rw [isCanonicalCapsulePath]
    split at h
    · exact Bool.noConfusion h
    · rename_i hn
      rw [if_neg hn]
      simp only [Bool.not_eq_true', Bool.or_eq_false_iff] at h ⊢
      obtain ⟨⟨⟨⟨⟨⟨⟨⟨hplace, hequal⟩, -⟩, -⟩, -⟩, hplain⟩, hgit⟩, hunits⟩, hend⟩ := h.1
      exact ⟨⟨⟨⟨⟨⟨⟨hplace, by simp [hslash]⟩, hequal⟩, hplain⟩, hgit⟩, hunits⟩, hend⟩, h.2⟩

lemma newLine_not_mem_canonical {path : Str} (h : isCanonicalCapsulePath path = true) :
    cu '\n' ∉ path := by
  obtain ⟨-, parts, hsafe⟩ := isCanonicalCapsulePath_iff.mp h
  exact hsafe.not_mem (by decide) (by decide) (by decide)

end CodexRouter.Capsule
