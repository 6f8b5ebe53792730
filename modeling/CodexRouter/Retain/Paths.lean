import CodexRouter.Status.Exact

/-!
# Three path guards

Authorization, preview and retain-control guard the paths of one change, each with a copy of the
conditions. The copy of retain-control does not look for empty components.
-/

open Js CodexRouter.Authorization CodexRouter.Preview CodexRouter.Status

namespace CodexRouter.Retain

section
variable [Runtime]

def assertSafeRelativePath (path : Str) : Result Unit := do
  let normalized ← normalizeAndAssertPath path
  if normalized ≠ path then fail "target_path_not_canonical" else return ()

/-! ## What retain-control accepts -/

/-- A safe path with a slash behind it. -/
structure DirectoryParts (path : Str) (parts : List Str) : Prop where
  nfc : Runtime.nfc path = path
  paired : hasUnpairedUtf16Surrogate path = false
  no_backslash : cu '\\' ∉ path
  ne_nil : parts ≠ []
  eq_join : path = join slash parts ++ [slash]
  safe : ∀ part ∈ parts, SafePart part

omit [Runtime] in
lemma toSlashes_of_not_mem {path : Str} (h : cu '\\' ∉ path) : toSlashes path = path := by
  apply (List.map_congr_left _).trans (List.map_id _)
  intro c hc
  apply if_neg
  rintro rfl
  exact h hc

/-- The conditions of the guard on a path in normal form. -/
structure Guarded (path : Str) : Prop where
  nfc : Runtime.nfc path = path
  paired : hasUnpairedUtf16Surrogate path = false
  ne_nil : path ≠ []
  relative : isAbsolute path = false
  normal : normalize path = path
  units : ∀ part ∈ split slash path, ∀ c ∈ part, isUnsafeCharacter c = false
  ends : ∀ part ∈ split slash path, ¬ js "." <:+ part ∧ ¬ js " " <:+ part
  reserved : ∀ part ∈ split slash path, isWindowsReserved part = false
  git : ∀ part ∈ split slash path, Runtime.toLowerCase part ≠ js ".git"

lemma guarded_of_assert {path : Str} (hslash : cu '\\' ∉ path)
    (h : assertSafeRelativePath path = .ok ()) : Guarded path := by
  unfold assertSafeRelativePath at h
  obtain ⟨normalized, hnormalized, h⟩ := bind_eq_ok.mp h
  split_ifs at h with hcanonical
  · exact absurd h fail_ne_ok
  · unfold normalizeAndAssertPath at hnormalized
    rw [toSlashes_of_not_mem hslash] at hnormalized
    dsimp only at hnormalized
    split_ifs at hnormalized with hbad
    · exact absurd hnormalized fail_ne_ok
    · rw [not_not] at hcanonical
      have hnormal : normalize path = path := (pure_eq_ok.mp hnormalized).trans hcanonical
      rw [hnormal] at hbad
      simp only [Bool.or_eq_true, decide_eq_true_eq, not_or, not_not, Bool.not_eq_true,
        List.any_eq_false, and_assoc] at hbad
      obtain ⟨hnfc, hpaired, hne, -, -, -, hrelative, -, -, -, -, -, -, hunits, hends, hreserved,
        hgit⟩ := hbad
      constructor
      · exact hnfc
      · exact hpaired
      · exact hne
      · exact hrelative
      · exact hnormal
      · exact hunits
      · intro part hpart
        exact ⟨by simpa using (hends part hpart).1, by simpa using (hends part hpart).2⟩
      · exact hreserved
      · exact hgit

/-- A path without backslashes that retain-control accepts is safe, or is a safe one with a slash
behind it. -/
lemma safe_or_directory {path : Str} (hslash : cu '\\' ∉ path)
    (h : assertSafeRelativePath path = .ok ()) :
    (∃ parts, SafeParts path parts) ∨ ∃ parts, DirectoryParts path parts := by
  have hguarded := guarded_of_assert hslash h
  have hdots : ∀ part ∈ split slash (normalize path), part ≠ dot ∧ part ≠ dotDot := by
    intro part hpart
    rw [hguarded.normal] at hpart
    have hend := (hguarded.ends part hpart).1
    constructor
    · intro hdot
      exact hend (hdot ▸ List.suffix_refl _)
    · intro hdotDot
      exact hend (hdotDot ▸ List.suffix_cons _ _)
  obtain ⟨parts, hne, hplain, hnormal⟩ :=
    exists_plain_of_normalize hguarded.ne_nil hguarded.relative hdots
  have hslashes : ∀ part ∈ parts, slash ∉ part := fun part hpart => (hplain part hpart).no_slash
  have hsafe : (∀ part ∈ parts, part ∈ split slash path) → ∀ part ∈ parts, SafePart part := by
    intro hin part hpart
    have hmem := hin part hpart
    exact ⟨hplain part hpart, hguarded.git part hmem, hguarded.units part hmem,
      (hguarded.ends part hmem).1, (hguarded.ends part hmem).2, hguarded.reserved part hmem⟩
  rw [hguarded.normal] at hnormal
  rcases hnormal with hjoin | hjoin
  · left
    refine ⟨parts, hguarded.nfc, hguarded.paired, hne, ?_, hsafe ?_⟩
    · rw [toSlashes_of_not_mem hslash, hjoin]
    · intro part hpart
      rw [hjoin, split_join hne hslashes]
      exact hpart
  · right
    refine ⟨parts, hguarded.nfc, hguarded.paired, hslash, hne, hjoin, hsafe ?_⟩
    intro part hpart
    rw [hjoin, split_join_slash hne hslashes]
    exact List.mem_append_left _ hpart

omit [Runtime] in
/-- A unit of a path lies in one of its components, unless it separates them. -/
lemma exists_part_of_mem {path : Str} {c : CodeUnit} (hc : c ≠ slash) (h : c ∈ path) :
    ∃ part ∈ split slash path, c ∈ part := by
  rw [← join_split slash path] at h
  exact (mem_join h).resolve_left hc

/-- The conditions that remain follow from those on the components. -/
lemma assert_of_guarded {path : Str} (hslash : cu '\\' ∉ path) (h : Guarded path) :
    assertSafeRelativePath path = .ok () := by
  have hunit : ∀ c, isUnsafeCharacter c = true → c ≠ slash → c ∉ path := by
    intro c hrisky hne hmem
    obtain ⟨part, hpart, hc⟩ := exists_part_of_mem hne hmem
    rw [h.units part hpart c hc] at hrisky
    exact Bool.noConfusion hrisky
  have hpart : ∀ part, js "." <:+ part → part ∉ split slash path :=
    fun part hsuffix hmem => (h.ends part hmem).1 hsuffix
  have hdot : path ≠ dot := by
    rintro rfl
    exact hpart dot (List.suffix_refl _) (by decide)
  have hdotDot : path ≠ dotDot := by
    rintro rfl
    exact hpart dotDot (List.suffix_cons _ _) (by decide)
  have habove : startsWith path (dotDot ++ [slash]) = false := by
    rw [startsWith_eq_false]
    rintro ⟨rest, hrest⟩
    apply hpart dotDot (List.suffix_cons _ _)
    rw [← hrest, List.append_assoc, List.singleton_append, split,
      List.splitOn_append_cons_self_of_not_mem (by decide)]
    exact List.mem_cons_self
  have hdouble : startsWith path [slash, slash] = false := by
    have hrelative := h.relative
    unfold isAbsolute at hrelative
    rw [startsWith_eq_false] at hrelative ⊢
    exact fun hleading => hrelative (List.IsPrefix.trans ⟨[slash], rfl⟩ hleading)
  have hdrive : hasDrivePrefix path = false := by
    have hcolon := hunit (cu ':') (by decide) (by decide)
    rcases path with _ | ⟨c, _ | ⟨d, rest⟩⟩
    · rfl
    · rfl
    · have hd : d ≠ cu ':' := by
        rintro rfl
        exact hcolon (List.mem_cons_of_mem _ List.mem_cons_self)
      simp [hasDrivePrefix, hd]
  have hnul := hunit nul (by decide) (by decide)
  have hfeed := hunit (cu '\n') (by decide) (by decide)
  have hreturn := hunit (cu '\r') (by decide) (by decide)
  have hnormalized : normalizeAndAssertPath path = .ok path := by
    unfold normalizeAndAssertPath
    rw [toSlashes_of_not_mem hslash]
    dsimp only
    rw [h.normal, if_neg]
    · rfl
    · simp only [Bool.or_eq_true, decide_eq_true_eq, not_or, not_not, Bool.not_eq_true,
        List.any_eq_false, and_assoc]
      refine ⟨h.nfc, h.paired, h.ne_nil, hdot, hdotDot, habove, h.relative, h.relative, hdrive,
        hdouble, hnul, hfeed, hreturn, h.units, ?_, h.reserved, h.git⟩
      intro part hmem
      rw [← Bool.not_eq_true, ← Bool.not_eq_true, endsWith_iff, endsWith_iff]
      exact h.ends part hmem
  unfold assertSafeRelativePath
  rw [hnormalized, ok_bind, if_neg (not_not.mpr rfl)]
  rfl

lemma guarded_of_safe {path : Str} {parts : List Str} (hslash : cu '\\' ∉ path)
    (h : SafeParts path parts) : Guarded path := by
  have hsame := toSlashes_of_not_mem hslash
  have hsplit := h.split_eq
  have hnormal := h.normalize_eq
  rw [hsame] at hsplit hnormal
  constructor
  · exact h.nfc
  · exact h.paired
  · exact h.path_ne_nil
  · exact h.relative
  · exact hnormal
  · rw [hsplit]
    exact fun part hpart => (h.safe part hpart).units
  · rw [hsplit]
    exact fun part hpart => ⟨(h.safe part hpart).no_dot, (h.safe part hpart).no_space⟩
  · rw [hsplit]
    exact fun part hpart => (h.safe part hpart).not_reserved
  · rw [hsplit]
    exact fun part hpart => (h.safe part hpart).not_git

/-- The empty component behind the slash passes every condition. -/
lemma guarded_of_directory {path : Str} {parts : List Str} (hempty : Runtime.toLowerCase [] = [])
    (h : DirectoryParts path parts) : Guarded path := by
  have hplain : ∀ part ∈ parts, Plain part := fun part hpart => (h.safe part hpart).toPlain
  have hsplit : split slash path = parts ++ [[]] := by
    rw [h.eq_join]
    exact split_join_slash h.ne_nil fun part hpart => (hplain part hpart).no_slash
  constructor
  · exact h.nfc
  · exact h.paired
  · rw [h.eq_join]
    simp
  · rw [h.eq_join]
    exact isAbsolute_join_plain h.ne_nil hplain [slash]
  · rw [h.eq_join]
    exact normalize_join_plain_slash h.ne_nil hplain
  · rw [hsplit, List.forall_mem_append, List.forall_mem_singleton]
    exact ⟨fun part hpart => (h.safe part hpart).units, List.forall_mem_nil _⟩
  · rw [hsplit, List.forall_mem_append, List.forall_mem_singleton]
    exact ⟨fun part hpart => ⟨(h.safe part hpart).no_dot, (h.safe part hpart).no_space⟩,
      by decide, by decide⟩
  · rw [hsplit, List.forall_mem_append, List.forall_mem_singleton]
    exact ⟨fun part hpart => (h.safe part hpart).not_reserved, by decide⟩
  · rw [hsplit, List.forall_mem_append, List.forall_mem_singleton, hempty]
    exact ⟨fun part hpart => (h.safe part hpart).not_git, by decide⟩

/-- What retain-control accepts of the paths without backslashes. -/
theorem assertSafeRelativePath_iff {path : Str} (hempty : Runtime.toLowerCase [] = [])
    (hslash : cu '\\' ∉ path) :
    assertSafeRelativePath path = .ok () ↔
      isSafeGovernedPath path = true ∨ ∃ parts, DirectoryParts path parts := by
  rw [isSafeGovernedPath_iff]
  constructor
  · exact safe_or_directory hslash
  · intro h
    apply assert_of_guarded hslash
    rcases h with ⟨parts, hsafe⟩ | ⟨parts, hdirectory⟩
    · exact guarded_of_safe hslash hsafe
    · exact guarded_of_directory hempty hdirectory

/-- A path of a directory is not safe. -/
lemma not_safe_of_directory {path : Str} {parts : List Str} (h : DirectoryParts path parts) :
    isSafeGovernedPath path = false := by
  rw [← Bool.not_eq_true, isSafeGovernedPath_iff]
  intro ⟨others, hsafe⟩
  have hsplit := hsafe.split_eq
  rw [toSlashes_of_not_mem h.no_backslash, h.eq_join, split_join_slash h.ne_nil
    fun part hpart => (h.safe part hpart).no_slash] at hsplit
  have hnil : ([] : Str) ∈ others := by
    rw [← hsplit]
    simp
  exact (hsafe.safe [] hnil).ne_nil rfl

/-! ## Agreement -/

/-- One of the guards accepts the path. -/
def Accepted (path : Str) : Prop :=
  isSafeGovernedPath path = true ∨ (∃ normalized, normalizeAndAssertGovernedPath path = .ok normalized)
    ∨ assertSafeRelativePath path = .ok ()

/-- The components are proper ones, and the path stays below every root it is joined to. -/
structure StaysBelow (path : Str) : Prop where
  components : ∀ part ∈ split slash (toSlashes path), part ≠ [] ∧ part ≠ dot ∧ part ≠ dotDot ∧
    Runtime.toLowerCase part ≠ js ".git"
  below : ∀ root : List Str, (∀ part ∈ root, Plain part) →
    normalize ((slash :: join slash root) ++ slash :: path) =
      slash :: join slash (root ++ split slash path)

/-- The three guards agree about the path, and what they accept stays below a root. -/
structure GuardsAgree (path : Str) : Prop where
  preview : isSafeGovernedPath path = true ↔
    ∃ normalized, normalizeAndAssertGovernedPath path = .ok normalized
  retain : cu '\\' ∉ path →
    (isSafeGovernedPath path = true ↔ assertSafeRelativePath path = .ok ())
  accepted : Accepted path → StaysBelow path

omit [Runtime] in
/-- A component without separators is one of the joined path. -/
lemma mem_split_join {parts : List Str} {part : Str} (hslash : slash ∉ part) (h : part ∈ parts) :
    part ∈ split slash (join slash parts) := by
  induction parts with
  | nil => exact absurd h List.not_mem_nil
  | cons first rest ih =>
    by_cases hrest : rest = []
    · rw [hrest, List.mem_singleton] at h
      have hsplit := split_join (List.cons_ne_nil part []) (by simpa using hslash)
      rw [join_singleton] at hsplit
      rw [hrest, join_singleton, ← h, hsplit]
      exact List.mem_singleton_self _
    · rw [join_cons _ _ hrest, split_append_slash, List.mem_append]
      rcases List.mem_cons.mp h with rfl | h
      · left
        have hsplit := split_join (List.cons_ne_nil part []) (by simpa using hslash)
        rw [join_singleton] at hsplit
        rw [hsplit]
        exact List.mem_singleton_self _
      · exact Or.inr (ih h)

omit [Runtime] in
/-- Backslashes join components; they make no empty one and no dot segment. -/
lemma mem_split_toSlashes {path part : Str} (hslash : slash ∉ part) (hsame : toSlashes part = part)
    (h : part ∈ split slash path) : part ∈ split slash (toSlashes path) := by
  have hmap : ∀ parts : List Str, toSlashes (join slash parts) =
      join slash (parts.map toSlashes) := by
    intro parts
    induction parts with
    | nil => rfl
    | cons first rest ih =>
      by_cases hrest : rest = []
      · rw [hrest, join_singleton, List.map_singleton, join_singleton]
      · rw [join_cons _ _ hrest, List.map_cons, join_cons _ _ (by simpa using hrest), ← ih]
        unfold toSlashes
        rw [List.map_append, List.map_cons]
        rfl
  rw [← join_split slash path, hmap]
  apply mem_split_join hslash
  rw [← hsame]
  exact List.mem_map_of_mem h

lemma staysBelow_of_safe {path : Str} (h : isSafeGovernedPath path = true) : StaysBelow path := by
  obtain ⟨parts, hsafe⟩ := isSafeGovernedPath_iff.mp h
  have hparts : ∀ part ∈ split slash (toSlashes path), SafePart part := by
    rw [hsafe.split_eq]
    exact hsafe.safe
  constructor
  · intro part hpart
    have hpart' := hparts part hpart
    exact ⟨hpart'.ne_nil, hpart'.ne_dot, hpart'.ne_dotDot, hpart'.not_git⟩
  · intro root hroot
    have hplain : ∀ part ∈ split slash path, Plain part := by
      intro part hpart
      constructor
      · rintro rfl
        exact (hparts _ (mem_split_toSlashes (by decide) rfl hpart)).ne_nil rfl
      · rintro rfl
        exact (hparts _ (mem_split_toSlashes (by decide) rfl hpart)).ne_dot rfl
      · rintro rfl
        exact (hparts _ (mem_split_toSlashes (by decide) rfl hpart)).ne_dotDot rfl
      · exact not_mem_of_mem_split hpart
    have hbelow := normalize_below hroot (split_ne_nil slash path) hplain
    rwa [join_split] at hbelow

/-- The guards agree about every path but that of a directory, the slash at whose end the guard of
retain-control alone accepts. -/
theorem guardsAgree_iff {path : Str} (hempty : Runtime.toLowerCase [] = []) :
    GuardsAgree path ↔ ¬∃ parts, DirectoryParts path parts := by
  have hpreview : isSafeGovernedPath path = true ↔
      ∃ normalized, normalizeAndAssertGovernedPath path = .ok normalized := by
    constructor
    · intro h
      exact ⟨_, normalizeAndAssert_eq_ok.mpr ⟨h, rfl⟩⟩
    · intro ⟨normalized, h⟩
      exact (normalizeAndAssert_eq_ok.mp h).1
  constructor
  · intro hagree ⟨parts, hdirectory⟩
    have haccepted := (assertSafeRelativePath_iff hempty hdirectory.no_backslash).mpr
      (Or.inr ⟨parts, hdirectory⟩)
    have hsafe := (hagree.retain hdirectory.no_backslash).mpr haccepted
    rw [not_safe_of_directory hdirectory] at hsafe
    exact Bool.noConfusion hsafe
  · intro hnot
    have hretain : cu '\\' ∉ path →
        (isSafeGovernedPath path = true ↔ assertSafeRelativePath path = .ok ()) := by
      intro hslash
      rw [assertSafeRelativePath_iff hempty hslash]
      exact (or_iff_left hnot).symm
    refine ⟨hpreview, hretain, ?_⟩
    intro haccepted
    apply staysBelow_of_safe
    rcases haccepted with hsafe | hok | hok
    · exact hsafe
    · exact hpreview.mpr hok
    · by_cases hslash : cu '\\' ∈ path
      · -- The normal form has no backslash, and has to be the path.
        unfold assertSafeRelativePath at hok
        obtain ⟨normalized, hnormalized, hok⟩ := bind_eq_ok.mp hok
        split_ifs at hok with hcanonical
        · exact absurd hok fail_ne_ok
        · rw [not_not] at hcanonical
          rw [← hcanonical, (normalizeAndAssertPath_eq_ok hnormalized).1] at hslash
          rcases mem_normalize _ hslash with hmem | hdot | hsep
          · obtain ⟨c, -, hc⟩ := List.mem_map.mp hmem
            split_ifs at hc with hback
            · exact absurd hc (by decide)
            · exact absurd hc hback
          · exact absurd hdot (by decide)
          · exact absurd hsep (by decide)
      · exact (hretain hslash).mpr hok

end

attribute [local instance] asciiRuntime in
theorem guardsAgree_iff_file :
    GuardsAgree (js "src/a.ts") ↔ ¬∃ parts, DirectoryParts (js "src/a.ts") parts :=
  guardsAgree_iff rfl

attribute [local instance] asciiRuntime in
/-- Retain-control accepts the path of a directory, and the other guards do not. -/
theorem directory_accepted : ¬GuardsAgree (js "a/") := by
  intro h
  have hretain : isSafeGovernedPath (js "a/") = true ↔
      assertSafeRelativePath (js "a/") = .ok () := h.retain (by decide)
  exact absurd (hretain.mpr (by decide +kernel)) (by decide +kernel)

end CodexRouter.Retain
