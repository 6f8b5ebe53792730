import CodexRouter.Provider.Manifest
import Mathlib.Algebra.Order.BigOperators.Group.List
import Mathlib.Algebra.Order.Ring.Nat
import Mathlib.Data.List.Infix

/-!
# Writable roots

The executor of workspace writes asks whether a writable root of its profile allows a target. The
support of a profile by a manifest is decided on roots alone, by other rules; here both meet.
-/

open Js CodexRouter.Provider

namespace CodexRouter.Executor

/-! ## Roots and targets -/

def normalizeWorkspacePath (path : Str) : Str := toSlashes (normalize path)

/-- No unit outside ASCII has a letter of `.git` as its lower case. -/
def isGitMetadata (part : Str) : Bool := part.map asciiLower = js ".git"

def hasGitMetadataPathComponent (path : Str) : Bool :=
  (split slash (normalizeWorkspacePath path)).any isGitMetadata

def isSafeWorkspaceRelativePath (path : Str) : Bool :=
  path.length > 0
    && !isAbsolute path
    && !startsWith path "../"
    && path ≠ js ".."
    && !hasGitMetadataPathComponent path
    && !includes path "/../"
    && cu '\x00' ∉ path
    && cu '\n' ∉ path
    && cu '\r' ∉ path

def normalizeWorkspaceWritableRoot (writableRoot : Str) : Str :=
  let normalizedRoot := normalizeWorkspacePath writableRoot
  if normalizedRoot = js "workspace" || normalizedRoot = js "workspace/**" then js "*"
  else if startsWith normalizedRoot "workspace/" then normalizedRoot.drop (js "workspace/").length
  else normalizedRoot

def normalizeWorkspaceWritableTarget (targetPath : Str) : Str :=
  let normalizedTarget := normalizeWorkspacePath targetPath
  if startsWith normalizedTarget "workspace/" then
    normalizedTarget.drop (js "workspace/").length
  else normalizedTarget

/-- `rootPrefix`. -/
def rootPrefix (normalizedRoot : Str) : Str :=
  if endsWith normalizedRoot recursiveWildcard then
    normalizedRoot.dropLast.dropLast.dropLast
  else if endsWith normalizedRoot "/" then normalizedRoot.dropLast
  else normalizedRoot

/-- `path === rootPrefix || path.startsWith(rootPrefix + "/")`. -/
def isBelow (path rootPrefix : Str) : Bool :=
  path = rootPrefix || startsWith path (rootPrefix ++ js "/")

def writableRootAllowsTarget (writableRoot targetPath : Str) : Bool :=
  let normalizedRoot := normalizeWorkspaceWritableRoot writableRoot
  let normalizedTarget := normalizeWorkspaceWritableTarget targetPath
  if !isSafeWorkspaceRelativePath normalizedRoot
      || !isSafeWorkspaceRelativePath normalizedTarget then false
  else if normalizedRoot = js "*" then true
  else isBelow normalizedTarget (rootPrefix normalizedRoot)

/-! ## What composes -/

/-- What a requested profile may write, a profile that the manifest declares may write. -/
def Composes (manifest : ProviderManifest) (requested : SandboxProfile) : Prop :=
  providerSupportsSandboxProfile manifest (sandboxProfileSchema.write requested) = .ok true →
    ∀ target, isSafeWorkspaceRelativePath target = true →
      (∃ root ∈ requested.writableRoots, writableRootAllowsTarget root target = true) →
      ∃ supported ∈ manifest.supportedSandboxProfiles, ∃ granted ∈ supported.writableRoots,
        writableRootAllowsTarget granted target = true

/-- The executor takes the root, and no component of it is Git's. -/
def Usable (root : Str) : Prop :=
  isSafeWorkspaceRelativePath (normalizeWorkspaceWritableRoot root) = true ∧
    (split slash (normalizeWorkspaceWritableRoot root)).any isGitMetadata = false

/-- As the executor reads the roots, one stands above the other. -/
def StandsAbove (granted root : Str) : Prop :=
  isSafeWorkspaceRelativePath (normalizeWorkspaceWritableRoot granted) = true ∧
    (normalizeWorkspaceWritableRoot granted = js "*" ∨
      normalizeWorkspaceWritableRoot root ≠ js "*" ∧
        isBelow (rootPrefix (normalizeWorkspaceWritableRoot root))
          (rootPrefix (normalizeWorkspaceWritableRoot granted)) = true)

/-! ## Components -/

lemma infix_of_includes {s p : Str} (h : includes s p = true) : p <:+: s := by
  obtain ⟨t, ht, hp⟩ := List.any_eq_true.mp h
  exact (List.isPrefixOf_iff_prefix.mp hp).isInfix.trans ((List.mem_tails t s).mp ht).isInfix

lemma includes_of_infix {s p : Str} (h : p <:+: s) : includes s p = true := by
  obtain ⟨u, v, rfl⟩ := h
  refine List.any_eq_true.mpr ⟨p ++ v, (List.mem_tails _ _).mpr ⟨u, by simp⟩, ?_⟩
  exact List.isPrefixOf_iff_prefix.mpr (List.prefix_append p v)

lemma split_append_slash (a b : Str) :
    split slash (a ++ slash :: b) = split slash a ++ split slash b := by
  have hjoin : join slash (split slash a ++ split slash b) = a ++ slash :: b := by
    rw [join_append slash (split_ne_nil _ _) (split_ne_nil _ _), join_split, join_split]
  rw [← hjoin, split_join]
  · exact List.append_ne_nil_of_left_ne_nil (split_ne_nil _ _) _
  · intro part hpart
    rcases List.mem_append.mp hpart with hpart | hpart
    · exact not_mem_of_mem_split hpart
    · exact not_mem_of_mem_split hpart

/-- A root is its prefix, with a slash or a wildcard behind it. -/
lemma exists_rootPrefix (root : Str) :
    root = rootPrefix root ∨ ∃ rest ∈ [js "", js "**"], root = rootPrefix root ++ slash :: rest := by
  unfold rootPrefix
  split_ifs with hwild hslash
  · right
    obtain ⟨start, rfl⟩ := endsWith_iff.mp hwild
    refine ⟨js "**", by simp, ?_⟩
    have hdrop : (start ++ recursiveWildcard).dropLast.dropLast.dropLast = start := by
      show (start ++ [cu '/', cu '*', cu '*']).dropLast.dropLast.dropLast = start
      simp [List.dropLast_append_of_ne_nil]
    rw [hdrop]
    rfl
  · right
    obtain ⟨start, rfl⟩ := endsWith_iff.mp hslash
    refine ⟨js "", by simp, ?_⟩
    rw [show js "/" = [slash] from rfl, List.dropLast_concat]
    rfl
  · exact Or.inl rfl

/-- A relative path and its normal form have the same components, apart from the empty ones and
the dots. -/
lemma mem_split_normalize {path part : Str} (hrelative : isAbsolute path = false)
    (h : part ∈ split slash (normalize path)) :
    part = [] ∨ part = dot ∨ part = dotDot ∨ part ∈ split slash path := by
  by_cases hnil : path = []
  · rw [hnil] at h
    exact Or.inr (Or.inl (List.mem_singleton.mp h))
  · have hnormal := @normalize_relative (split slash path) (by rw [join_split])
      (by rwa [join_split]) (by rwa [join_split])
    rw [join_split] at hnormal
    have hbody : ∀ part ∈ split slash (if join slash (resolve true (split slash path)) = []
        then dot else join slash (resolve true (split slash path))),
        part = dot ∨ part = dotDot ∨ part ∈ split slash path := by
      intro part hpart
      split_ifs at hpart with hempty
      · exact Or.inl (List.mem_singleton.mp hpart)
      · have hne : resolve true (split slash path) ≠ [] := by
          intro hresolve
          rw [hresolve] at hempty
          exact hempty rfl
        rw [split_join hne] at hpart
        · exact Or.inr (mem_resolve hpart).2.2
        · intro c hc
          rcases (mem_resolve hc).2.2 with rfl | hc
          · decide
          · exact not_mem_of_mem_split hc
    rw [hnormal] at h
    by_cases hslash : endsWith path [slash] = true
    · rw [if_pos hslash] at h
      rcases List.mem_append.mp (split_append_slash _ [] ▸ h) with h | h
      · exact Or.inr (hbody part h)
      · exact Or.inl (List.mem_singleton.mp h)
    · rw [if_neg hslash, List.append_nil] at h
      exact Or.inr (hbody part h)

lemma isBelow_trans {a b c : Str} (hab : isBelow a b = true) (hbc : isBelow b c = true) :
    isBelow a c = true := by
  unfold isBelow at *
  simp only [Bool.or_eq_true, decide_eq_true_eq, startsWith_iff] at *
  rcases hbc with rfl | hbc
  · exact hab
  · right
    rcases hab with rfl | hab
    · exact hbc
    · exact hbc.trans ((List.prefix_append b (js "/")).trans hab)

lemma isBelow_refl (a : Str) : isBelow a a = true := by simp [isBelow]

/-- What stands below has the components of what it stands below. -/
lemma split_subset_of_isBelow {path rootPrefix : Str} (h : isBelow path rootPrefix = true) :
    ∀ part ∈ split slash rootPrefix, part ∈ split slash path := by
  unfold isBelow at h
  simp only [Bool.or_eq_true, decide_eq_true_eq, startsWith_iff] at h
  intro part hpart
  rcases h with rfl | ⟨rest, rfl⟩
  · exact hpart
  · rw [List.append_assoc]
    show part ∈ split slash (rootPrefix ++ slash :: rest)
    rw [split_append_slash]
    exact List.mem_append_left _ hpart

/-! ## Safe targets -/

/-- The components of a text that are not Git's. -/
def Clean (text : Str) : Prop := (split slash text).any isGitMetadata = false

lemma clean_of_subset {a b : Str} (h : Clean b)
    (hsub : ∀ part ∈ split slash a, part ∈ split slash b) : Clean a :=
  List.any_eq_false.mpr fun part hpart => List.any_eq_false.mp h part (hsub part hpart)

/-- What the guard asks, apart from Git's components. -/
structure SafeText (path : Str) : Prop where
  ne_nil : path ≠ []
  relative : isAbsolute path = false
  inside : ¬ js "../" <+: path
  ne_dotDot : path ≠ js ".."
  not_above : ¬ js "/../" <:+: path
  units : ∀ c ∈ [cu '\x00', cu '\n', cu '\r'], c ∉ path

lemma isSafeWorkspaceRelativePath_iff {path : Str} :
    isSafeWorkspaceRelativePath path = true ↔
      SafeText path ∧ hasGitMetadataPathComponent path = false := by
  have hincludes : includes path "/../" = false ↔ ¬ js "/../" <:+: path := by
    rw [← Bool.not_eq_true]
    exact not_congr ⟨infix_of_includes, includes_of_infix⟩
  unfold isSafeWorkspaceRelativePath
  simp only [Bool.and_eq_true, decide_eq_true_eq, Bool.not_eq_true', List.length_pos_iff,
    startsWith_eq_false, hincludes, ne_eq]
  constructor
  · rintro ⟨⟨⟨⟨⟨⟨⟨⟨hnil, habs⟩, hup⟩, hdots⟩, hgit⟩, habove⟩, h0⟩, hn⟩, hr⟩
    refine ⟨⟨hnil, habs, hup, hdots, habove, ?_⟩, hgit⟩
    intro c hc
    simp only [List.mem_cons, List.not_mem_nil, or_false] at hc
    rcases hc with rfl | rfl | rfl
    · exact h0
    · exact hn
    · exact hr
  · rintro ⟨⟨hnil, habs, hup, hdots, habove, hunits⟩, hgit⟩
    exact ⟨⟨⟨⟨⟨⟨⟨⟨hnil, habs⟩, hup⟩, hdots⟩, hgit⟩, habove⟩, hunits _ (by simp)⟩,
      hunits _ (by simp)⟩, hunits _ (by simp)⟩

lemma toSlashes_of_not_mem {s : Str} (h : cu '\\' ∉ s) : toSlashes s = s := by
  have hunits : ∀ c ∈ s, (if c = cu '\\' then cu '/' else c) = id c := by
    intro c hc
    exact if_neg fun hback : c = cu '\\' => h (hback ▸ hc)
  unfold toSlashes
  rw [List.map_congr_left hunits, List.map_id]

lemma mem_of_mem_split {s part : Str} {c : CodeUnit} (hpart : part ∈ split slash s)
    (hc : c ∈ part) : c ∈ s := by
  obtain ⟨before, after, hsplit⟩ := List.append_of_mem hpart
  have hjoin := join_split slash s
  rw [hsplit] at hjoin
  rw [← hjoin]
  have htail : c ∈ join slash (part :: after) := by
    by_cases hnil : after = []
    · rw [hnil, join_singleton]
      exact hc
    · rw [join_cons _ _ hnil]
      exact List.mem_append_left _ hc
  by_cases hnil : before = []
  · rw [hnil]
    exact htail
  · rw [join_append slash hnil (List.cons_ne_nil _ _)]
    exact List.mem_append_right _ (List.mem_cons_of_mem _ htail)

/-- A text that the guard takes as it stands. -/
lemma isSafe_of_text {path : Str} (h : SafeText path) (hclean : Clean path)
    (hslashes : cu '\\' ∉ path) : isSafeWorkspaceRelativePath path = true := by
  have hnormal : cu '\\' ∉ normalize path := by
    intro hmem
    rw [← join_split slash (normalize path)] at hmem
    rcases mem_join hmem with hslash | ⟨part, hpart, hc⟩
    · exact absurd hslash (by decide)
    · rcases mem_split_normalize h.relative hpart with rfl | rfl | rfl | hpart
      · exact absurd hc List.not_mem_nil
      · exact absurd hc (by decide)
      · exact absurd hc (by decide)
      · exact hslashes (mem_of_mem_split hpart hc)
  rw [isSafeWorkspaceRelativePath_iff]
  refine ⟨h, ?_⟩
  unfold hasGitMetadataPathComponent normalizeWorkspacePath
  rw [toSlashes_of_not_mem hnormal]
  apply List.any_eq_false.mpr
  intro part hpart
  rcases mem_split_normalize h.relative hpart with rfl | rfl | rfl | hpart
  · decide
  · decide
  · decide
  · exact List.any_eq_false.mp hclean part hpart

/-- The text with its slashes turned, in the workspace. -/
def turned (path : Str) : Str :=
  js "workspace\\" ++ path.map fun c => if c = cu '/' then cu '\\' else c

lemma toSlashes_turned {path : Str} (h : cu '\\' ∉ path) :
    toSlashes (turned path) = js "workspace/" ++ path := by
  have hunits : ∀ c ∈ path, (if (if c = cu '/' then cu '\\' else c) = cu '\\' then cu '/'
      else if c = cu '/' then cu '\\' else c) = id c := by
    intro c hc
    by_cases hslash : c = cu '/'
    · rw [if_pos hslash, if_pos rfl, hslash]
      rfl
    · rw [if_neg hslash]
      exact if_neg fun hback : c = cu '\\' => h (hback ▸ hc)
  unfold turned
  rw [toSlashes_append]
  congr 1
  unfold toSlashes
  rw [List.map_map]
  exact (List.map_congr_left hunits).trans (List.map_id _)

lemma slash_not_mem_turned (path : Str) : slash ∉ turned path := by
  unfold turned
  rw [List.mem_append, not_or]
  refine ⟨by decide, ?_⟩
  intro h
  obtain ⟨c, -, hc⟩ := List.mem_map.mp h
  split_ifs at hc with hslash
  · exact absurd hc (by decide)
  · exact hslash hc

lemma head_turned (path : Str) : (turned path).head? = some (cu 'w') := rfl

lemma normalize_turned (path : Str) : normalize (turned path) = turned path := by
  have hne : ∀ text : Str, text.head? ≠ some (cu 'w') → turned path ≠ text := by
    intro text htext h
    exact htext (h ▸ head_turned path)
  have hplain : Plain (turned path) :=
    ⟨hne [] (by decide), hne dot (by decide), hne dotDot (by decide), slash_not_mem_turned path⟩
  have hjoin := normalize_join_plain (List.cons_ne_nil (turned path) [])
    (List.forall_mem_singleton.mpr hplain)
  rwa [join_singleton] at hjoin

/-- Every text that the guard takes as it stands is the normal form of a safe target. -/
theorem exists_target {path : Str} (h : SafeText path) (hclean : Clean path)
    (hslashes : cu '\\' ∉ path) :
    isSafeWorkspaceRelativePath (turned path) = true ∧
      normalizeWorkspaceWritableTarget (turned path) = path := by
  have hpath : normalizeWorkspacePath (turned path) = js "workspace/" ++ path := by
    unfold normalizeWorkspacePath
    rw [normalize_turned, toSlashes_turned hslashes]
  have hslash := slash_not_mem_turned path
  constructor
  · rw [isSafeWorkspaceRelativePath_iff]
    refine ⟨⟨List.cons_ne_nil _ _, rfl, ?_, ?_, ?_, ?_⟩, ?_⟩
    · exact fun hleading => hslash (hleading.subset (by decide))
    · intro hdots
      have hhead := head_turned path
      rw [hdots] at hhead
      exact absurd hhead (by decide)
    · exact fun hinside => hslash (hinside.subset (by decide))
    · intro c hc hmem
      have hne : c ∉ js "workspace\\" ∧ c ≠ cu '\\' := by
        simp only [List.mem_cons, List.not_mem_nil, or_false] at hc
        rcases hc with rfl | rfl | rfl <;> decide
      rcases List.mem_append.mp hmem with hmem | hmem
      · exact hne.1 hmem
      · obtain ⟨d, hd, hcd⟩ := List.mem_map.mp hmem
        split_ifs at hcd
        · exact hne.2 hcd.symm
        · exact h.units c hc (hcd ▸ hd)
    · unfold hasGitMetadataPathComponent
      rw [hpath]
      show (split slash (js "workspace" ++ slash :: path)).any isGitMetadata = false
      rw [split_append_slash, List.any_append, hclean]
      decide
  · unfold normalizeWorkspaceWritableTarget
    rw [hpath]
    simp only [startsWith_append_self, if_true, List.drop_left]

/-! ## Roots -/

lemma writableRootAllowsTarget_iff {root target : Str} :
    writableRootAllowsTarget root target = true ↔
      isSafeWorkspaceRelativePath (normalizeWorkspaceWritableRoot root) = true ∧
      isSafeWorkspaceRelativePath (normalizeWorkspaceWritableTarget target) = true ∧
      (normalizeWorkspaceWritableRoot root = js "*" ∨
        isBelow (normalizeWorkspaceWritableTarget target)
          (rootPrefix (normalizeWorkspaceWritableRoot root)) = true) := by
  unfold writableRootAllowsTarget
  simp only [Bool.or_eq_true, Bool.not_eq_true', Bool.if_false_left, Bool.if_true_left]
  simp only [Bool.and_eq_true, Bool.not_eq_true', decide_eq_false_iff_not, not_or,
    Bool.not_eq_false, Bool.or_eq_true, decide_eq_true_eq, and_assoc]

lemma back_not_mem_toSlashes (s : Str) : cu '\\' ∉ toSlashes s := by
  intro h
  obtain ⟨c, -, hc⟩ := List.mem_map.mp h
  split_ifs at hc with hback
  · exact absurd hc (by decide)
  · exact hback hc

lemma back_not_mem_root (root : Str) : cu '\\' ∉ normalizeWorkspaceWritableRoot root := by
  unfold normalizeWorkspaceWritableRoot
  dsimp only
  split_ifs
  · decide
  · exact fun h => back_not_mem_toSlashes _ (List.mem_of_mem_drop h)
  · exact back_not_mem_toSlashes _

lemma rootPrefix_isPrefix (root : Str) : rootPrefix root <+: root := by
  rcases exists_rootPrefix root with hroot | ⟨rest, -, hroot⟩
  · rw [← hroot]
  · exact ⟨slash :: rest, hroot.symm⟩

/-- The prefix of a root that the executor takes is a text that the guard takes. -/
lemma safeText_rootPrefix {root : Str} (h : SafeText root) : SafeText (rootPrefix root) := by
  have hleading := rootPrefix_isPrefix root
  rcases exists_rootPrefix root with hroot | ⟨rest, -, hroot⟩
  · rwa [← hroot]
  · have hne : rootPrefix root ≠ [] := by
      intro hnil
      have habs := h.relative
      rw [hroot, hnil] at habs
      exact absurd habs (by simp [isAbsolute, startsWith])
    refine ⟨hne, ?_, fun hup => h.inside (hup.trans hleading), ?_,
      fun habove => h.not_above (habove.trans hleading.isInfix), ?_⟩
    · obtain ⟨c, text, htext⟩ := List.exists_cons_of_ne_nil hne
      have habs := h.relative
      rw [hroot, htext] at habs
      rw [htext]
      exact habs
    · intro hdots
      apply h.inside
      rw [hroot, hdots]
      exact ⟨rest, rfl⟩
    · exact fun c hc hmem => h.units c hc (hleading.subset hmem)

lemma clean_rootPrefix {root : Str} : Clean root ↔ Clean (rootPrefix root) := by
  rcases exists_rootPrefix root with hroot | ⟨rest, hrest, hroot⟩
  · rw [← hroot]
  · have hlast : (split slash rest).any isGitMetadata = false := by
      simp only [List.mem_cons, List.not_mem_nil, or_false] at hrest
      rcases hrest with rfl | rfl <;> decide
    unfold Clean
    conv_lhs => rw [hroot, split_append_slash, List.any_append, hlast, Bool.or_false]

/-- The components of a target are components of its path. -/
lemma clean_target {target : Str} (h : isSafeWorkspaceRelativePath target = true) :
    Clean (normalizeWorkspaceWritableTarget target) := by
  have hgit : Clean (normalizeWorkspacePath target) := (isSafeWorkspaceRelativePath_iff.mp h).2
  unfold normalizeWorkspaceWritableTarget
  dsimp only
  split_ifs with hworkspace
  · obtain ⟨rest, hrest⟩ := startsWith_iff.mp hworkspace
    apply clean_of_subset hgit
    intro part hpart
    rw [← hrest, List.drop_left] at hpart
    rw [← hrest]
    show part ∈ split slash (js "workspace" ++ slash :: rest)
    rw [split_append_slash]
    exact List.mem_append_right _ hpart
  · exact hgit

/-- A root that allows a safe target is usable. -/
lemma usable_of_allows {root target : Str} (hsafe : isSafeWorkspaceRelativePath target = true)
    (h : writableRootAllowsTarget root target = true) : Usable root := by
  obtain ⟨hroot, -, hbelow⟩ := writableRootAllowsTarget_iff.mp h
  refine ⟨hroot, ?_⟩
  rcases hbelow with hstar | hbelow
  · rw [hstar]
    decide
  · apply clean_rootPrefix.mpr
    exact clean_of_subset (clean_target hsafe) (split_subset_of_isBelow hbelow)

/-- What a root allows, every root that stands above it allows. -/
lemma allows_of_standsAbove {granted root target : Str} (habove : StandsAbove granted root)
    (h : writableRootAllowsTarget root target = true) :
    writableRootAllowsTarget granted target = true := by
  obtain ⟨-, htarget, hroot⟩ := writableRootAllowsTarget_iff.mp h
  obtain ⟨hgranted, habove⟩ := habove
  apply writableRootAllowsTarget_iff.mpr
  refine ⟨hgranted, htarget, ?_⟩
  rcases habove with hstar | ⟨hne, habove⟩
  · exact Or.inl hstar
  · exact Or.inr (isBelow_trans (hroot.resolve_left hne) habove)

/-- A text longer than all the others. -/
def longText (texts : List Str) : Str :=
  List.replicate ((texts.map List.length).sum + 1) (cu 'a')

lemma not_mem_longText {texts : List Str} {c : CodeUnit} (hc : c ≠ cu 'a') :
    c ∉ longText texts := fun h => hc (List.eq_of_mem_replicate h)

lemma safeText_longText (texts : List Str) : SafeText (longText texts) := by
  have hslash : slash ∉ longText texts := not_mem_longText (by decide)
  refine ⟨List.cons_ne_nil _ _, rfl, fun h => hslash (h.subset (by decide)), ?_,
    fun h => hslash (h.subset (by decide)), ?_⟩
  · intro h
    have hdot : cu '.' ∈ longText texts := by
      rw [h]
      decide
    exact not_mem_longText (by decide) hdot
  · intro c hc
    apply not_mem_longText
    simp only [List.mem_cons, List.not_mem_nil, or_false] at hc
    rcases hc with rfl | rfl | rfl <;> decide

lemma clean_longText (texts : List Str) : Clean (longText texts) := by
  have hslash : slash ∉ longText texts := not_mem_longText (by decide)
  unfold Clean
  have hsplit : split slash (longText texts) = [longText texts] := by
    rw [← join_singleton slash (longText texts), split_join (List.cons_ne_nil _ _)]
    · rw [join_singleton]
    · exact List.forall_mem_singleton.mpr hslash
  rw [hsplit, List.any_cons, List.any_nil, Bool.or_false]
  apply decide_eq_false
  intro h
  have hhead := congrArg List.head? h
  revert hhead
  show (some (asciiLower (cu 'a')) = _) → False
  decide

/-- The long text stands below none of the others. -/
lemma not_isBelow_longText {texts : List Str} {path : Str} (h : path ∈ texts) :
    isBelow (longText texts) path = false := by
  unfold isBelow
  rw [Bool.or_eq_false_iff, decide_eq_false_iff_not, startsWith_eq_false]
  constructor
  · intro heq
    have hle : path.length ≤ (texts.map List.length).sum :=
      List.single_le_sum (fun _ _ => Nat.zero_le _) _ (List.mem_map_of_mem h)
    have hlength : (longText texts).length = (texts.map List.length).sum + 1 :=
      List.length_replicate
    rw [heq] at hlength
    omega
  · intro hleading
    have hslash : slash ∈ path ++ js "/" := List.mem_append_right _ (by decide)
    exact not_mem_longText (by decide) (hleading.subset hslash)

/-- Support composes with containment exactly when every root that the executor takes stands, as
the executor reads it, below a root of a supported profile. -/
theorem composes_iff (manifest : ProviderManifest) (requested : SandboxProfile) :
    Composes manifest requested ↔
      (providerSupportsSandboxProfile manifest (sandboxProfileSchema.write requested) = .ok true →
        ∀ root ∈ requested.writableRoots, Usable root →
          ∃ supported ∈ manifest.supportedSandboxProfiles, ∃ granted ∈ supported.writableRoots,
            StandsAbove granted root) := by
  constructor
  · intro hcomposes hsupports root hroot husable
    obtain ⟨hsafe, hclean⟩ := husable
    have htext := (isSafeWorkspaceRelativePath_iff.mp hsafe).1
    by_cases hstar : normalizeWorkspaceWritableRoot root = js "*"
    · -- The root allows every text, also one that no prefix of a granted root reaches.
      let prefixes := manifest.supportedSandboxProfiles.flatMap fun supported =>
        supported.writableRoots.map fun granted =>
          rootPrefix (normalizeWorkspaceWritableRoot granted)
      obtain ⟨htarget, hnormal⟩ := exists_target (safeText_longText prefixes)
        (clean_longText prefixes) (not_mem_longText (by decide))
      have hallows : writableRootAllowsTarget root (turned (longText prefixes)) = true := by
        apply writableRootAllowsTarget_iff.mpr
        refine ⟨hsafe, ?_, Or.inl hstar⟩
        rw [hnormal]
        exact isSafe_of_text (safeText_longText prefixes) (clean_longText prefixes)
          (not_mem_longText (by decide))
      obtain ⟨supported, hsupported, granted, hgranted, h⟩ :=
        hcomposes hsupports _ htarget ⟨root, hroot, hallows⟩
      refine ⟨supported, hsupported, granted, hgranted, ?_⟩
      obtain ⟨hsafe', -, habove⟩ := writableRootAllowsTarget_iff.mp h
      rcases habove with hstar' | hbelow
      · exact ⟨hsafe', Or.inl hstar'⟩
      · have hmem : rootPrefix (normalizeWorkspaceWritableRoot granted) ∈ prefixes :=
          List.mem_flatMap.mpr ⟨supported, hsupported, List.mem_map_of_mem hgranted⟩
        rw [hnormal, not_isBelow_longText hmem] at hbelow
        exact absurd hbelow Bool.false_ne_true
    · -- The root allows its own prefix.
      have hleading := safeText_rootPrefix htext
      have hback : cu '\\' ∉ rootPrefix (normalizeWorkspaceWritableRoot root) :=
        fun h => back_not_mem_root root ((rootPrefix_isPrefix _).subset h)
      obtain ⟨htarget, hnormal⟩ := exists_target hleading (clean_rootPrefix.mp hclean) hback
      have hallows : writableRootAllowsTarget root
          (turned (rootPrefix (normalizeWorkspaceWritableRoot root))) = true := by
        apply writableRootAllowsTarget_iff.mpr
        rw [hnormal]
        exact ⟨hsafe, isSafe_of_text hleading (clean_rootPrefix.mp hclean) hback,
          Or.inr (isBelow_refl _)⟩
      obtain ⟨supported, hsupported, granted, hgranted, h⟩ :=
        hcomposes hsupports _ htarget ⟨root, hroot, hallows⟩
      refine ⟨supported, hsupported, granted, hgranted, ?_⟩
      obtain ⟨hsafe', -, habove⟩ := writableRootAllowsTarget_iff.mp h
      rw [hnormal] at habove
      exact ⟨hsafe', habove.imp_right fun hbelow => ⟨hstar, hbelow⟩⟩
  · intro habove hsupports target htarget ⟨root, hroot, hallows⟩
    obtain ⟨supported, hsupported, granted, hgranted, h⟩ :=
      habove hsupports root hroot (usable_of_allows htarget hallows)
    exact ⟨supported, hsupported, granted, hgranted, allows_of_standsAbove h hallows⟩

/-- A profile that may write below one root. -/
def workspaceSandbox (root : Str) : SandboxProfile where
  sandboxId := js "workspace"
  mode := .workspaceWrite
  networkAccess := .none
  writableRoots := [root]
  envPolicy := ⟨false, []⟩

/-- A provider that writes below one root. -/
def workspaceManifest (root : Str) : ProviderManifest where
  providerId := js "writer"
  kind := .executor
  displayName := js "Writer"
  version := js "1"
  capabilities := []
  requiredConfig := ⟨[], []⟩
  securityBoundary := ⟨.sandbox, .none, .workspaceWrite, .none, []⟩
  supportedSandboxProfiles := [workspaceSandbox root]
  supportedSideEffectClasses := [.workspaceWrite]
  enabled := true
  metadata := []

/-- `workspace/` grants the support of `workspace`, and nothing to write. -/
theorem workspace_slash_grants_nothing :
    providerManifestSchema.parse (providerManifestSchema.write
        (workspaceManifest (js "workspace/"))) = .ok (workspaceManifest (js "workspace/")) ∧
      ¬ Composes (workspaceManifest (js "workspace/")) (workspaceSandbox (js "workspace")) := by
  refine ⟨by decide +kernel, ?_⟩
  intro h
  obtain ⟨supported, hsupported, granted, hgranted, hallows⟩ :=
    h (by decide +kernel) (js "a") (by decide +kernel)
      ⟨js "workspace", List.mem_singleton_self _, by decide +kernel⟩
  rw [List.mem_singleton.mp hsupported] at hgranted
  rw [List.mem_singleton.mp hgranted] at hallows
  revert hallows
  decide +kernel

end CodexRouter.Executor
