import CodexRouter.Js.Ascii
import CodexRouter.Js.Canonical
import CodexRouter.Js.Decimal
import CodexRouter.Js.Normal
import CodexRouter.Kernel.Texts
import CodexRouter.Preview.Policy
import Mathlib.Data.List.Perm.Basic

/-!
# The normal form of a change set

Drafts that differ in the order of their changes, in the separators of their paths and in the line
ends of their diffs have one canonical change set, which is its own canonical form.
-/

open Js

namespace CodexRouter.Preview
open Kernel Authorization

/-! ## Line ends -/

lemma normalizeNewlines_cons {c : CodeUnit} (hc : c ≠ cu '\r') (s : Str) :
    normalizeNewlines (c :: s) = c :: normalizeNewlines s := by
  cases s with
  | nil =>
    show [if c = cu '\r' then cu '\n' else c] = _
    rw [if_neg hc]
    rfl
  | cons d s => rw [normalizeNewlines, if_neg hc]

lemma normalizeNewlines_crlf (s : Str) :
    normalizeNewlines (cu '\r' :: cu '\n' :: s) = cu '\n' :: normalizeNewlines s := by
  rw [normalizeNewlines, if_pos rfl, if_pos rfl]

lemma normalizeNewlines_cr {s : Str} (hs : s.head? ≠ some (cu '\n')) :
    normalizeNewlines (cu '\r' :: s) = cu '\n' :: normalizeNewlines s := by
  cases s with
  | nil => rfl
  | cons d s =>
    have hd : d ≠ cu '\n' := fun he => hs (by rw [he]; rfl)
    rw [normalizeNewlines, if_pos rfl, if_neg hd]

lemma normalizeNewlines_of_not_mem {s : Str} (h : cu '\r' ∉ s) : normalizeNewlines s = s := by
  induction s with
  | nil => rfl
  | cons c s ih =>
    rw [List.mem_cons, not_or] at h
    rw [normalizeNewlines_cons (Ne.symm h.1), ih h.2]

lemma cr_not_mem_normalizeNewlines (s : Str) : cu '\r' ∉ normalizeNewlines s := by
  have hne : cu '\r' ≠ cu '\n' := by decide
  induction s using normalizeNewlines.induct with
  | case1 => exact List.not_mem_nil
  | case2 c =>
    show cu '\r' ∉ [if c = cu '\r' then cu '\n' else c]
    rw [List.mem_singleton]
    split_ifs with hc
    · exact hne
    · exact Ne.symm hc
  | case3 s ih =>
    rw [normalizeNewlines_crlf, List.mem_cons, not_or]
    exact ⟨hne, ih⟩
  | case4 d s hd ih =>
    rw [normalizeNewlines_cr (s := d :: s) fun he => hd (Option.some.inj he), List.mem_cons,
      not_or]
    exact ⟨hne, ih⟩
  | case5 c d s hc ih =>
    rw [normalizeNewlines_cons hc, List.mem_cons, not_or]
    exact ⟨Ne.symm hc, ih⟩

lemma normalizeUnifiedDiff_idem (diff : Str) :
    normalizeUnifiedDiff (normalizeUnifiedDiff diff) = normalizeUnifiedDiff diff := by
  have hcr : cu '\r' ∉ normalizeUnifiedDiff diff := by
    unfold normalizeUnifiedDiff
    dsimp only
    split_ifs
    · exact cr_not_mem_normalizeNewlines diff
    · rw [List.mem_append, not_or]
      exact ⟨cr_not_mem_normalizeNewlines diff, by decide⟩
  have hend : endsWith (normalizeUnifiedDiff diff) "\n" = true := by
    unfold normalizeUnifiedDiff
    dsimp only
    split_ifs with hends
    · exact hends
    · exact List.isSuffixOf_iff_suffix.mpr (List.suffix_append _ _)
  have houter : ∀ s : Str, cu '\r' ∉ s → endsWith s "\n" = true → normalizeUnifiedDiff s = s := by
    intro s hs hends
    unfold normalizeUnifiedDiff
    dsimp only
    rw [normalizeNewlines_of_not_mem hs, if_pos hends]
  exact houter _ hcr hend

/-- Every line feed is written as it is, as `\r\n` or as `\r`, but no bare `\r` before a line feed
that was kept. -/
inductive Rebroken : Str → Str → Prop
  | nil : Rebroken [] []
  | unit {c : CodeUnit} {s t : Str} : Rebroken s t → Rebroken (c :: s) (c :: t)
  | crlf {s t : Str} : Rebroken s t → Rebroken (cu '\n' :: s) (cu '\r' :: cu '\n' :: t)
  | cr {s t : Str} (ht : t.head? ≠ some (cu '\n')) :
    Rebroken s t → Rebroken (cu '\n' :: s) (cu '\r' :: t)

lemma Rebroken.normalize_eq {s t : Str} (h : Rebroken s t) (hs : cu '\r' ∉ s) :
    normalizeNewlines t = s := by
  induction h with
  | nil => rfl
  | unit _ ih =>
    rw [List.mem_cons, not_or] at hs
    rw [normalizeNewlines_cons (Ne.symm hs.1), ih hs.2]
  | crlf _ ih => rw [normalizeNewlines_crlf, ih fun hm => hs (List.mem_cons_of_mem _ hm)]
  | cr ht _ ih => rw [normalizeNewlines_cr ht, ih fun hm => hs (List.mem_cons_of_mem _ hm)]

/-! ## Spellings of a change -/

/-- Some slashes are written as backslashes. -/
def Backslashed : Str → Str → Prop :=
  List.Forall₂ fun c d => d = c ∨ (c = slash ∧ d = cu '\\')

lemma Backslashed.toSlashes_eq {s t : Str} (h : Backslashed s t) : toSlashes t = toSlashes s := by
  induction h with
  | nil => rfl
  | @cons c d s t hc _ ih =>
    show (if d = cu '\\' then cu '/' else d) :: toSlashes t =
      (if c = cu '\\' then cu '/' else c) :: toSlashes s
    rw [ih]
    rcases hc with rfl | ⟨rfl, rfl⟩
    · rfl
    · rw [if_pos rfl, if_neg (by decide)]
      rfl

/-- The same change in another spelling. -/
structure Respelled (change other : GovernedFileChangeDraft) : Prop where
  path : Backslashed change.path other.path
  kind : other.kind = change.kind
  oldPath : Option.Rel Backslashed change.oldPath other.oldPath
  diff : other.unifiedDiff = change.unifiedDiff ∨
    (cu '\r' ∉ change.unifiedDiff ∧ Rebroken change.unifiedDiff other.unifiedDiff)
  beforeHash : other.beforeHash = change.beforeHash
  afterHash : other.afterHash = change.afterHash

/-- The same changes in another order and in other spellings. -/
def Rewritten (draft other : GovernedFileChangeSetDraft) : Prop :=
  other = { draft with changes := other.changes } ∧
    ∃ changes, draft.changes.Perm changes ∧ List.Forall₂ Respelled changes other.changes

/-- What two drafts of a change share when they have one canonical change. -/
structure SameChange (change other : GovernedFileChangeDraft) : Prop where
  path : toSlashes other.path = toSlashes change.path
  kind : other.kind = change.kind
  oldPath : other.oldPath.map toSlashes = change.oldPath.map toSlashes
  diff : normalizeUnifiedDiff other.unifiedDiff = normalizeUnifiedDiff change.unifiedDiff
  beforeHash : other.beforeHash = change.beforeHash
  afterHash : other.afterHash = change.afterHash

lemma Respelled.same {change other : GovernedFileChangeDraft} (h : Respelled change other) :
    SameChange change other where
  path := h.path.toSlashes_eq
  kind := h.kind
  oldPath := by
    have hold := h.oldPath
    generalize change.oldPath = before at hold ⊢
    generalize other.oldPath = after at hold ⊢
    cases hold with
    | none => rfl
    | some hpath => exact congrArg some hpath.toSlashes_eq
  diff := by
    rcases h.diff with he | ⟨hcr, hbreaks⟩
    · rw [he]
    · unfold normalizeUnifiedDiff
      rw [hbreaks.normalize_eq hcr, normalizeNewlines_of_not_mem hcr]
  beforeHash := h.beforeHash
  afterHash := h.afterHash

/-! ## The canonical change -/

/-- Whether a text is in normal form does not depend on how its separators are written. -/
def SlashStable [Runtime] : Prop :=
  ∀ s t : Str, toSlashes s = toSlashes t → Runtime.nfc s = s → Runtime.nfc t = t

/-- Separators are no surrogates. -/
lemma hasUnpaired_toSlashes (s : Str) :
    hasUnpairedUtf16Surrogate (toSlashes s) = hasUnpairedUtf16Surrogate s := by
  have hhigh : ∀ c : CodeUnit,
      Json.isHighSurrogate (if c = cu '\\' then cu '/' else c) = Json.isHighSurrogate c := by
    intro c
    split_ifs with hc
    · rw [hc]
      decide
    · rfl
  have hlow : ∀ c : CodeUnit,
      Json.isLowSurrogate (if c = cu '\\' then cu '/' else c) = Json.isLowSurrogate c := by
    intro c
    split_ifs with hc
    · rw [hc]
      decide
    · rfl
  induction s using hasUnpairedUtf16Surrogate.induct with
  | case1 => rfl
  | case2 c => exact hlow c
  | case3 c d s hc hd ih =>
    show hasUnpairedUtf16Surrogate (_ :: _ :: toSlashes s) = _
    rw [hasUnpairedUtf16Surrogate, hasUnpairedUtf16Surrogate, hhigh, hlow, if_pos hc, if_pos hd,
      if_pos hc, if_pos hd]
    exact ih
  | case4 c d s hc hd =>
    show hasUnpairedUtf16Surrogate (_ :: _ :: toSlashes s) = _
    rw [hasUnpairedUtf16Surrogate, hasUnpairedUtf16Surrogate, hhigh, hlow, if_pos hc, if_neg hd,
      if_pos hc, if_neg hd]
  | case5 c d s hc hl =>
    show hasUnpairedUtf16Surrogate (_ :: _ :: toSlashes s) = _
    rw [hasUnpairedUtf16Surrogate, hasUnpairedUtf16Surrogate, hhigh, hlow, if_neg hc, if_neg hc,
      hlow, if_pos hl, if_pos hl]
  | case6 c d s hc hl ih =>
    show hasUnpairedUtf16Surrogate (_ :: _ :: toSlashes s) = _
    rw [hasUnpairedUtf16Surrogate, hasUnpairedUtf16Surrogate, hhigh, hlow, if_neg hc, if_neg hc,
      hlow, if_neg hl, if_neg hl]
    exact ih

section
variable [Runtime]

/-- A safe path is safe with either separator. -/
lemma isSafe_of_toSlashes (hslash : SlashStable) {s t : Str} (heq : toSlashes t = toSlashes s)
    (h : isSafeGovernedPath s = true) : isSafeGovernedPath t = true := by
  obtain ⟨parts, hparts⟩ := isSafeGovernedPath_iff.mp h
  apply isSafeGovernedPath_iff.mpr
  use parts
  refine ⟨hslash s t heq.symm hparts.nfc, ?_, hparts.ne_nil, heq.trans hparts.eq_join, hparts.safe⟩
  rw [← hasUnpaired_toSlashes, heq, hasUnpaired_toSlashes]
  exact hparts.paired

lemma normalizeAndAssert_congr (hslash : SlashStable) {s t path : Str}
    (heq : toSlashes t = toSlashes s) (h : normalizeAndAssertGovernedPath s = .ok path) :
    normalizeAndAssertGovernedPath t = .ok path := by
  obtain ⟨hsafe, rfl⟩ := normalizeAndAssert_eq_ok.mp h
  exact normalizeAndAssert_eq_ok.mpr ⟨isSafe_of_toSlashes hslash heq hsafe, heq.symm⟩

/-- Two spellings of a change have one canonical change. -/
lemma canonicalizeChange_congr (hslash : SlashStable) {draft other : GovernedFileChangeDraft}
    {change : GovernedFileChange} (hsame : SameChange draft other)
    (h : canonicalizeChange draft = .ok change) : canonicalizeChange other = .ok change := by
  unfold canonicalizeChange at h ⊢
  simp only [bind_eq_ok, pure_eq_ok] at h ⊢
  obtain ⟨path, hpath, oldPath, hold, firstHunk, hbinds, rfl⟩ := h
  refine ⟨path, normalizeAndAssert_congr hslash hsame.path hpath, oldPath, ?_, firstHunk, ?_, ?_⟩
  · have hpaths := hsame.oldPath
    generalize draft.oldPath = before at hold hpaths
    generalize other.oldPath = after at hpaths ⊢
    cases before with
    | none =>
      cases after with
      | none => exact hold
      | some t => cases hpaths
    | some s =>
      cases after with
      | none => cases hpaths
      | some t =>
        obtain ⟨old, hs, rfl⟩ : ∃ old, normalizeAndAssertGovernedPath s = .ok old ∧
            some old = oldPath := by simpa using hold
        have ht := normalizeAndAssert_congr hslash (Option.some.inj hpaths) hs
        simp [ht]
  · rw [hsame.diff, hsame.kind]
    exact hbinds
  · rw [hsame.diff, hsame.kind, hsame.beforeHash, hsame.afterHash]

/-! ## The canonical order -/

omit [Runtime] in
/-- The key of a change begins with its path, up to the first `NUL`. -/
lemma path_of_key {a b : CapabilityFactFileChange} (ha : 0 ∉ a.path) (hb : 0 ∉ b.path)
    (h : fileChangeKey a = fileChangeKey b) : a.path = b.path := by
  have hpath : ∀ c : CapabilityFactFileChange, 0 ∉ c.path →
      (fileChangeKey c).takeWhile (· ≠ 0) = c.path := by
    intro c hc
    have hkey : fileChangeKey c = c.path ++ 0 :: (c.kind.text ++ 0 :: c.oldPath.getD []) := by
      unfold fileChangeKey
      rw [List.append_assoc, List.append_assoc, List.append_assoc]
      rfl
    have hall : ∀ d ∈ c.path, decide (d ≠ 0) = true := by
      intro d hd
      rw [decide_eq_true_eq]
      exact fun he => hc (he ▸ hd)
    rw [hkey, List.takeWhile_append_of_pos hall, List.takeWhile_cons_of_neg (by decide),
      List.append_nil]
  rw [← hpath a ha, ← hpath b hb, h]

omit [Runtime] in
/-- Changes of different paths have one order. -/
lemma sortChanges_perm {changes other : List GovernedFileChange} (hperm : changes.Perm other)
    (hpaths : (changes.map (·.path)).Nodup) (hnul : ∀ change ∈ changes, 0 ∉ change.path) :
    sortChanges changes = sortChanges other := by
  have hsorted : ∀ l : List GovernedFileChange, (sortChanges l).Pairwise fun left right =>
      fileChangeKey left.toCapabilityFactFileChange ≤
        fileChangeKey right.toCapabilityFactFileChange := by
    intro l
    unfold sortChanges
    exact List.pairwise_insertionSort _ l
  have hsort : ∀ l : List GovernedFileChange, (sortChanges l).Perm l :=
    List.perm_insertionSort _
  apply List.Perm.eq_of_pairwise _ (hsorted changes) (hsorted other)
    ((hsort changes).trans (hperm.trans (hsort other).symm))
  intro a b ha hb hab hba
  have ha := (hsort changes).mem_iff.mp ha
  have hb := hperm.mem_iff.mpr ((hsort other).mem_iff.mp hb)
  have hpath := path_of_key (hnul a ha) (hnul b hb) (le_antisymm hab hba)
  exact List.inj_on_of_nodup_map hpaths ha hb hpath

/-- The parts of a canonical change set. -/
structure CanonicalFrom (draft : GovernedFileChangeSetDraft) (changeSet : GovernedFileChangeSet)
    (changes : List GovernedFileChange) : Prop where
  drafted : List.Forall₂ (fun drafted change => canonicalizeChange drafted = .ok change)
    draft.changes changes
  nonempty : draft.changes ≠ []
  aliases : ((touchedPaths (sortChanges changes)).map pathAlias).Nodup
  valid : changeSet.issues = []
  eq : changeSet = {
    changeSetId := draft.changeSetId
    threadId := draft.threadId
    turnId := draft.turnId
    itemId := draft.itemId
    baseHead := draft.baseHead
    changes := sortChanges changes
    canonicalHash := hashGovernedFileChangeSetContent draft.baseHead (sortChanges changes)
    proposedAt := draft.proposedAt
    sourceSchemaProfile := draft.sourceSchemaProfile }

theorem canonicalize_iff {draft : GovernedFileChangeSetDraft} {changeSet : GovernedFileChangeSet} :
    canonicalizeGovernedFileChangeSet draft = .ok changeSet ↔
      ∃ changes, CanonicalFrom draft changeSet changes := by
  unfold canonicalizeGovernedFileChangeSet
  constructor
  · intro h
    split_ifs at h with hempty
    · exact absurd h fail_ne_ok
    · simp only [bind_eq_ok, parse_eq_ok] at h
      obtain ⟨changes, hchanges, _, halias, hissues, rfl⟩ := h
      unfold assertNoPathAliases at halias
      split_ifs at halias with hnodup
      · exact ⟨changes, mapM_eq_ok.mp hchanges, hempty, hnodup, hissues, rfl⟩
      · exact absurd halias fail_ne_ok
  · intro h
    obtain ⟨changes, h⟩ := h
    rw [if_neg h.nonempty]
    simp only [bind_eq_ok, parse_eq_ok]
    refine ⟨changes, mapM_eq_ok.mpr h.drafted, (), ?_, ?_, h.eq.symm⟩
    · unfold assertNoPathAliases
      rw [if_pos h.aliases]
      rfl
    · rw [← h.eq]
      exact h.valid

/-- The paths of canonical changes are distinct, and hold no `NUL`. -/
lemma CanonicalFrom.paths {draft : GovernedFileChangeSetDraft} {changeSet : GovernedFileChangeSet}
    {changes : List GovernedFileChange} (h : CanonicalFrom draft changeSet changes) :
    (changes.map (·.path)).Nodup ∧ ∀ change ∈ changes, 0 ∉ change.path := by
  have hperm : (sortChanges changes).Perm changes := List.perm_insertionSort _ changes
  constructor
  · have hsorted := (List.Nodup.of_map _ h.aliases).sublist (touchedPaths_sublist _)
    exact (hperm.map _).nodup_iff.mp hsorted
  · intro change hchange
    obtain ⟨drafted, -, _, hdrafted, rfl⟩ :=
      (exists_mem_mapM (mapM_eq_ok.mpr h.drafted) (· = change)).mp ⟨change, hchange, rfl⟩
    unfold canonicalizeChange at hdrafted
    simp only [bind_eq_ok, pure_eq_ok] at hdrafted
    obtain ⟨path, hpath, -, -, -, -, rfl⟩ := hdrafted
    obtain ⟨hsafe, rfl⟩ := normalizeAndAssert_eq_ok.mp hpath
    obtain ⟨parts, hparts⟩ := isSafeGovernedPath_iff.mp hsafe
    have hnul := hparts.not_mem (c := 0) (by decide) (by decide) (by decide)
    exact fun hmem => hnul (mem_toSlashes_of_ne (by decide) hmem)

lemma canonicalize_all (hslash : SlashStable) {drafts others : List GovernedFileChangeDraft}
    {changes : List GovernedFileChange} (hsame : List.Forall₂ SameChange drafts others)
    (h : List.Forall₂ (fun drafted change => canonicalizeChange drafted = .ok change)
      drafts changes) :
    List.Forall₂ (fun drafted change => canonicalizeChange drafted = .ok change)
      others changes := by
  induction hsame generalizing changes with
  | nil =>
    cases h
    exact List.Forall₂.nil
  | cons hone _ ih =>
    cases h with
    | cons hdraft hrest =>
      exact List.Forall₂.cons (canonicalizeChange_congr hslash hone hdraft) (ih hrest)

/-- Drafts of the same changes, in whatever order and spelling, have one canonical change set. -/
theorem canonicalize_congr (hslash : SlashStable) {draft other : GovernedFileChangeSetDraft}
    {changeSet : GovernedFileChangeSet} (hfields : other = { draft with changes := other.changes })
    {reordered : List GovernedFileChangeDraft} (hperm : draft.changes.Perm reordered)
    (hsame : List.Forall₂ SameChange reordered other.changes)
    (h : canonicalizeGovernedFileChangeSet draft = .ok changeSet) :
    canonicalizeGovernedFileChangeSet other = .ok changeSet := by
  obtain ⟨changes, hfrom⟩ := canonicalize_iff.mp h
  obtain ⟨changes', hdrafted, hchanges⟩ := List.perm_comp_forall₂ hperm.symm hfrom.drafted
  have hsort : sortChanges changes' = sortChanges changes :=
    (sortChanges_perm hchanges.symm hfrom.paths.1 hfrom.paths.2).symm
  apply canonicalize_iff.mpr
  use changes'
  refine ⟨canonicalize_all hslash hsame hdrafted, ?_, ?_, hfrom.valid, ?_⟩
  · intro hnil
    have hlength := hsame.length_eq
    rw [hnil, ← hperm.length_eq] at hlength
    exact hfrom.nonempty (List.length_eq_zero_iff.mp hlength)
  · rw [hsort]
    exact hfrom.aliases
  · rw [hsort, hfields]
    exact hfrom.eq

/-! ## Idempotence -/

omit [Runtime] in
/-- The draft of one change. -/
def redraftChange (change : GovernedFileChange) : GovernedFileChangeDraft where
  path := change.path
  kind := change.kind
  oldPath := change.oldPath
  unifiedDiff := change.unifiedDiff
  beforeHash := change.beforeHash
  afterHash := change.afterHash

lemma sameChange_redraft {drafted : GovernedFileChangeDraft} {change : GovernedFileChange}
    (h : canonicalizeChange drafted = .ok change) : SameChange drafted (redraftChange change) := by
  unfold canonicalizeChange at h
  simp only [bind_eq_ok, pure_eq_ok] at h
  obtain ⟨path, hpath, oldPath, hold, firstHunk, -, rfl⟩ := h
  obtain ⟨-, rfl⟩ := normalizeAndAssert_eq_ok.mp hpath
  refine ⟨toSlashes_toSlashes _, rfl, ?_, normalizeUnifiedDiff_idem _, rfl, rfl⟩
  show oldPath.map toSlashes = drafted.oldPath.map toSlashes
  generalize drafted.oldPath = before at hold ⊢
  cases before with
  | none =>
    obtain rfl : none = oldPath := by simpa using hold
    rfl
  | some s =>
    obtain ⟨old, hs, rfl⟩ : ∃ old, normalizeAndAssertGovernedPath s = .ok old ∧
        some old = oldPath := by simpa using hold
    obtain ⟨-, rfl⟩ := normalizeAndAssert_eq_ok.mp hs
    exact congrArg some (toSlashes_toSlashes s)

/-- A canonical change set is its own canonical form. -/
theorem canonicalize_redraft (hslash : SlashStable) {draft : GovernedFileChangeSetDraft}
    {changeSet : GovernedFileChangeSet}
    (h : canonicalizeGovernedFileChangeSet draft = .ok changeSet) :
    canonicalizeGovernedFileChangeSet (redraft changeSet) = .ok changeSet := by
  obtain ⟨changes, hfrom⟩ := canonicalize_iff.mp h
  have hchanges : changeSet.changes = sortChanges changes := by rw [hfrom.eq]
  have hsorted : changes.Perm changeSet.changes := by
    rw [hchanges]
    exact (List.perm_insertionSort _ changes).symm
  have hsame : List.Forall₂ (fun drafted change => SameChange drafted (redraftChange change))
      draft.changes changes := hfrom.drafted.imp fun _ _ hone => sameChange_redraft hone
  obtain ⟨reordered, hrest, hperm⟩ := List.perm_comp_forall₂ hsorted.symm hsame.flip
  have hredraft : (redraft changeSet).changes = changeSet.changes.map redraftChange := rfl
  apply canonicalize_congr hslash _ hperm.symm _ h
  · rw [hfrom.eq]
    rfl
  · rw [hredraft, List.forall₂_map_right_iff]
    exact hrest.flip

end

/-! ## What the hash tells apart -/

/-- The members of a change, as they are written. -/
def changeMembers (change : GovernedFileChange) : List (Str × Json) :=
  (js "unifiedDiff", .str change.unifiedDiff) :: change.members

/-- Each field of a change under its key. -/
lemma get?_changeMembers (change : GovernedFileChange) :
    Json.get? (changeMembers change) "unifiedDiff" = some (.str change.unifiedDiff) ∧
      Json.get? (changeMembers change) "path" = some (.str change.path) ∧
      Json.get? (changeMembers change) "kind" = some (.str change.kind.text) ∧
      Json.get? (changeMembers change) "oldPath" = change.oldPath.map .str ∧
      Json.get? (changeMembers change) "beforeHash" = change.beforeHash.map nullable ∧
      Json.get? (changeMembers change) "afterHash" = change.afterHash.map nullable ∧
      Json.get? (changeMembers change) "addedLines" = some (.nat change.addedLines) ∧
      Json.get? (changeMembers change) "deletedLines" = some (.nat change.deletedLines) := by
  obtain ⟨⟨path, kind, oldPath, beforeHash, afterHash, added, deleted⟩, diff⟩ := change
  cases oldPath with
  | none =>
    cases beforeHash with
    | none => cases afterHash <;> exact ⟨rfl, rfl, rfl, rfl, rfl, rfl, rfl, rfl⟩
    | some before => cases afterHash <;> exact ⟨rfl, rfl, rfl, rfl, rfl, rfl, rfl, rfl⟩
  | some old =>
    cases beforeHash with
    | none => cases afterHash <;> exact ⟨rfl, rfl, rfl, rfl, rfl, rfl, rfl, rfl⟩
    | some before => cases afterHash <;> exact ⟨rfl, rfl, rfl, rfl, rfl, rfl, rfl, rfl⟩

lemma member_keys (key : Str) (value : Option Json) :
    ((Json.member? key value).map Prod.fst).Sublist [key] := by
  cases value with
  | none => exact List.nil_sublist _
  | some v => exact List.Sublist.refl _

lemma changeMembers_nodup (change : GovernedFileChange) :
    ((changeMembers change).map Prod.fst).Nodup := by
  have hall : ([js "unifiedDiff", js "path", js "kind"] ++ [js "oldPath"] ++ [js "beforeHash"]
      ++ [js "afterHash"] ++ [js "addedLines", js "deletedLines"]).Nodup := by decide +kernel
  have hkeys := (((((List.Sublist.refl [js "unifiedDiff", js "path", js "kind"]).append
    (member_keys "oldPath" (change.oldPath.map .str))).append
    (member_keys "beforeHash" (change.beforeHash.map nullable))).append
    (member_keys "afterHash" (change.afterHash.map nullable))).append
    (List.Sublist.refl [js "addedLines", js "deletedLines"]))
  apply List.Nodup.sublist _ hall
  unfold changeMembers CapabilityFactFileChange.members
  rw [List.map_cons, List.map_append, List.map_append, List.map_append, List.map_append]
  exact hkeys

lemma map_text_inj {α : Type} {f : α → Json} {a b : Option α}
    (hf : ∀ x y, (f x).stableStringify = (f y).stableStringify → x = y)
    (h : (a.map f).map Json.stableStringify = (b.map f).map Json.stableStringify) : a = b := by
  cases a with
  | none =>
    cases b with
    | none => rfl
    | some y => cases h
  | some x =>
    cases b with
    | none => cases h
    | some y => exact congrArg some (hf x y (Option.some.inj h))

lemma nat_text_inj {m n : ℕ} (h : (Json.nat m).stableStringify = (Json.nat n).stableStringify) :
    m = n := by
  have htext : Json.natText m = Json.natText n := h
  rw [← natValue_natText m, htext, natValue_natText]

lemma kind_text_inj {a b : GovernedFileChangeKind} (h : a.text = b.text) : a = b := by
  cases a <;> cases b <;> first | rfl | exact absurd h (by decide)

/-- The text of a change determines it. -/
theorem change_text_inj {a b : GovernedFileChange}
    (h : a.toJson.stableStringify = b.toJson.stableStringify) : a = b := by
  have hget := Json.get?_text (changeMembers_nodup a) (changeMembers_nodup b) h
  obtain ⟨hdiff, hpath, hkind, hold, hbefore, hafter, hadded, hdeleted⟩ := get?_changeMembers a
  obtain ⟨hdiff', hpath', hkind', hold', hbefore', hafter', hadded', hdeleted'⟩ :=
    get?_changeMembers b
  have ediff := hget "unifiedDiff"
  have epath := hget "path"
  have ekind := hget "kind"
  have eold := hget "oldPath"
  have ebefore := hget "beforeHash"
  have eafter := hget "afterHash"
  have eadded := hget "addedLines"
  have edeleted := hget "deletedLines"
  rw [hdiff, hdiff'] at ediff
  rw [hpath, hpath'] at epath
  rw [hkind, hkind'] at ekind
  rw [hold, hold'] at eold
  rw [hbefore, hbefore'] at ebefore
  rw [hafter, hafter'] at eafter
  rw [hadded, hadded'] at eadded
  rw [hdeleted, hdeleted'] at edeleted
  have hstr : ∀ s t : Str, (Json.str s).stableStringify = (Json.str t).stableStringify → s = t :=
    fun _ _ => Json.stringify_str_eq.mp
  obtain ⟨⟨path, kind, oldPath, beforeHash, afterHash, added, deleted⟩, diff⟩ := a
  obtain ⟨⟨path', kind', oldPath', beforeHash', afterHash', added', deleted'⟩, diff'⟩ := b
  obtain rfl : diff = diff' := hstr _ _ (Option.some.inj ediff)
  obtain rfl : path = path' := hstr _ _ (Option.some.inj epath)
  obtain rfl : kind = kind' := kind_text_inj (hstr _ _ (Option.some.inj ekind))
  obtain rfl : oldPath = oldPath' := map_text_inj hstr eold
  obtain rfl : beforeHash = beforeHash' := map_text_inj (fun _ _ => nullable_text_eq.mp) ebefore
  obtain rfl : afterHash = afterHash' := map_text_inj (fun _ _ => nullable_text_eq.mp) eafter
  obtain rfl : added = added' := nat_text_inj (Option.some.inj eadded)
  obtain rfl : deleted = deleted' := nat_text_inj (Option.some.inj edeleted)
  rfl

/-- The text that the canonical hash is taken of. -/
def contentText (baseHead : Str) (changes : List GovernedFileChange) : Str :=
  (governedFileChangeSetContent baseHead changes).stableStringify

theorem contentText_inj {baseHead baseHead' : Str} {changes changes' : List GovernedFileChange}
    (h : contentText baseHead changes = contentText baseHead' changes') :
    baseHead = baseHead' ∧ changes = changes' := by
  have hmembers := Json.stringify_obj_inj h rfl (by simp only [List.map]; decide)
  simp only [List.map_cons, List.map_nil, List.cons.injEq, Prod.mk.injEq, true_and, and_true,
    Json.stringify_str_eq] at hmembers
  refine ⟨hmembers.1, ?_⟩
  have hitems := Json.stringify_arr_inj hmembers.2
  rw [List.map_map, List.map_map] at hitems
  exact List.map_injective_iff.mpr (fun _ _ => change_text_inj) hitems

/-! ## The hard boundary -/

section
variable [Runtime]

def noncanonicalReason : Str := js "auto_approval_noncanonical_change_set_forbidden"

/-- Only the comparison with its canonical form reports a change set as not canonical. -/
lemma noncanonical_not_reported {changeSet : GovernedFileChangeSet}
    (h : isCanonicalGovernedChangeSet changeSet = true) (facts : CapabilityFacts) :
    noncanonicalReason ∉ collectHardBoundaryReasons changeSet facts := by
  have hother : ∀ (condition : Bool) (text : Str), noncanonicalReason ≠ text →
      noncanonicalReason ∉ if condition then [text] else [] := by
    intro condition text hne
    cases condition with
    | false => exact List.not_mem_nil
    | true => exact fun hmem => hne (List.mem_singleton.mp hmem)
  unfold collectHardBoundaryReasons
  rw [mem_uniqueStrings, h]
  simp only [List.mem_append, not_or]
  repeat' apply And.intro
  all_goals first
    | exact List.not_mem_nil
    | exact hother _ _ (by decide)

/-- Canonicalization is a normal form: it is idempotent, it forgets the order of the changes, the
separators of their paths and the line ends of their diffs, and its hash forgets nothing else. -/
theorem canonicalize_normal_form (hslash : SlashStable) {draft : GovernedFileChangeSetDraft}
    {changeSet : GovernedFileChangeSet}
    (h : canonicalizeGovernedFileChangeSet draft = .ok changeSet) :
    canonicalizeGovernedFileChangeSet (redraft changeSet) = .ok changeSet ∧
      (∀ other, Rewritten draft other → canonicalizeGovernedFileChangeSet other = .ok changeSet) ∧
      (∀ other changeSet', canonicalizeGovernedFileChangeSet other = .ok changeSet' →
        CollisionFree [contentText changeSet.baseHead changeSet.changes,
          contentText changeSet'.baseHead changeSet'.changes] →
        changeSet.canonicalHash = changeSet'.canonicalHash →
        changeSet.baseHead = changeSet'.baseHead ∧ changeSet.changes = changeSet'.changes) ∧
      ∀ facts, noncanonicalReason ∉ collectHardBoundaryReasons changeSet facts := by
  have hredraft := canonicalize_redraft hslash h
  have hash : ∀ {draft changeSet}, canonicalizeGovernedFileChangeSet draft = .ok changeSet →
      changeSet.canonicalHash =
        Runtime.sha256 (contentText changeSet.baseHead changeSet.changes) := by
    intro draft changeSet h
    obtain ⟨changes, hfrom⟩ := canonicalize_iff.mp h
    rw [hfrom.eq]
    rfl
  refine ⟨hredraft, ?_, ?_, ?_⟩
  · intro other hother
    obtain ⟨hfields, reordered, hperm, hspelled⟩ := hother
    exact canonicalize_congr hslash hfields hperm (hspelled.imp fun _ _ hone => hone.same) h
  · intro other changeSet' hother hfree heq
    rw [hash h, hash hother] at heq
    exact contentText_inj (hfree _ (by simp) _ (by simp) heq)
  · apply noncanonical_not_reported
    unfold isCanonicalGovernedChangeSet
    rw [hredraft]
    exact decide_eq_true rfl

end

/-! ## Two drafts -/

/-- A new file with an empty line, which `first` and a line feed make. -/
def blankLineDiff (first : Str) : Str :=
  js "diff --git a/lib/a b/lib/a\nnew file mode 100644\n--- /dev/null\n+++ b/lib/a\n" ++
    js "@@ -0,0 +1,3 @@\n+x" ++ first ++ js "\n+y\n"

def blankLineChange (path first : Str) : GovernedFileChangeDraft where
  path
  kind := .create
  oldPath := none
  unifiedDiff := blankLineDiff first
  beforeHash := none
  afterHash := none

def blankLineDraft (path first : Str) : GovernedFileChangeSetDraft where
  changeSetId := "changes"
  threadId := "thread"
  turnId := "turn"
  itemId := "item"
  baseHead := "c0ffee"
  changes := [blankLineChange path first]
  proposedAt := "2026-01-02T03:04:05Z"
  sourceSchemaProfile := "v2"

attribute [local instance] asciiRuntime in
theorem canonicalize_normal_form_backslash :
    ∃ changeSet, canonicalizeGovernedFileChangeSet (blankLineDraft "lib/a" "\n") = .ok changeSet ∧
      canonicalizeGovernedFileChangeSet (blankLineDraft "lib\\a" "\n") = .ok changeSet := by
  have hreturns : (canonicalizeGovernedFileChangeSet (blankLineDraft "lib/a" "\n")).returns =
      true := by decide +kernel
  obtain ⟨changeSet, h⟩ := Result.exists_ok hreturns
  use changeSet, h
  have hslash : SlashStable := fun _ _ _ _ => rfl
  apply (canonicalize_normal_form hslash h).2.1
  refine ⟨rfl, _, List.Perm.refl _, List.Forall₂.cons ?_ List.Forall₂.nil⟩
  refine ⟨?_, rfl, Option.Rel.none, Or.inl rfl, rfl, rfl⟩
  show Backslashed [cu 'l', cu 'i', cu 'b', slash, cu 'a'] [cu 'l', cu 'i', cu 'b', cu '\\', cu 'a']
  unfold Backslashed
  simp

attribute [local instance] asciiRuntime in
/-- A bare `\r` for the first of two line feeds makes one line end of both. -/
theorem bare_cr_joins_line_feed :
    cu '\r' ∉ blankLineDiff "\n" ∧
      (canonicalizeGovernedFileChangeSet (blankLineDraft "lib/a" "\n")).returns = true ∧
      (canonicalizeGovernedFileChangeSet (blankLineDraft "lib/a" "\r")).returns = true ∧
      (canonicalizeGovernedFileChangeSet (blankLineDraft "lib/a" "\n")).map (·.canonicalHash) ≠
        (canonicalizeGovernedFileChangeSet (blankLineDraft "lib/a" "\r")).map (·.canonicalHash) := by
  decide +kernel

end CodexRouter.Preview
