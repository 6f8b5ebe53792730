import CodexRouter.Graph.Groups
import Mathlib.Data.List.Perm.Basic

/-!
# Merging branches

What a merge of one branch into another does to the nodes and edges of a graph. Items are grouped by
a text; the text of an edge does not determine its ends, so two edges may fall into one group.
-/

open Js

namespace CodexRouter.Graph
open Owned

section

variable {τ : Type} [Owned τ]

abbrev branchOf (item : τ) : Str := (owner item).branchId

abbrev mergedFrom (item : τ) : List Str := (owner item).mergedFromBranchIds

/-- One of the two branches owns the item. -/
def Involved (source target : Str) (item : τ) : Prop :=
  branchOf item = source ∨ branchOf item = target

instance (source target : Str) (item : τ) : Decidable (Involved source target item) :=
  inferInstanceAs (Decidable (_ ∨ _))

/-- The two branches own at most one item of a key each, the key determines the text that items are
grouped by, and changing the owner changes neither. -/
structure Keyed {κ : Type} (key : τ → κ) (text : κ → Str) : Prop where
  itemKey_eq : ∀ item : τ, itemKey item = text (key item)
  key_own : ∀ (o : BranchOwned) (item : τ), key (own o item) = key item
  owner_own : ∀ (o : BranchOwned) (item : τ), owner (own o item) = o
  own_owner : ∀ item : τ, own (owner item) item = item

/-- What a merge does to the items of a list. -/
structure Merges {κ : Type} [DecidableEq κ] (key : τ → κ) (source target : Str)
    (before after : List τ) : Prop where
  leaves_source : ∀ item ∈ after, branchOf item ≠ source
  owned_once : ∀ item ∈ before, Involved source target item → ∃ survivor,
    (after.filter fun other => key other = key item ∧ branchOf other = target) = [survivor]
  invents_nothing : ∀ item ∈ after, branchOf item = target →
    ∃ old ∈ before, Involved source target old ∧ item = own (owner item) old
  others_unchanged : (after.filter fun item => ¬ Involved source target item).Perm
    (before.filter fun item => ¬ Involved source target item)
  provenance : ∀ item ∈ before, branchOf item = source → ∀ survivor ∈ after,
    key survivor = key item → branchOf survivor = target →
    source ∈ mergedFrom survivor ∧ ∀ twin ∈ before, key twin = key item →
      Involved source target twin → mergedFrom twin ⊆ mergedFrom survivor

/-- Items of the two branches that are grouped together have one key. -/
def Apart {κ : Type} (key : τ → κ) (source target : Str) (items : List τ) : Prop :=
  ∀ a ∈ items, ∀ b ∈ items, Involved source target a → Involved source target b →
    itemKey a = itemKey b → key a = key b

/-- Where the source owns an item, neither its name nor a recorded origin is empty. -/
def NamedOrigins {κ : Type} (key : τ → κ) (source target : Str) (items : List τ) : Prop :=
  ∀ item ∈ items, branchOf item = source → source ≠ [] ∧
    ∀ twin ∈ items, key twin = key item → Involved source target twin → [] ∉ mergedFrom twin

/-! ## One group -/

lemma mem_uniqueStrings {values : List Str} {value : Str} :
    value ∈ Graph.uniqueStrings values ↔ value ∈ values ∧ value ≠ [] := by
  unfold Graph.uniqueStrings
  rw [mem_distinct, List.mem_filter, decide_eq_true_eq]

/-- What two items of one key leave, the source's and the target's. -/
def survivorOf (source target : Str) (strategy : MergeStrategy) : Option τ → Option τ → Option τ
  | some sourceItem, some targetItem =>
    if strategy = .keepSource then
      some (markMergedIntoTarget sourceItem target source (collectMergedFrom [targetItem]))
    else some (markMergedIntoTarget targetItem target source (collectMergedFrom [sourceItem]))
  | some sourceItem, none => some (markMergedIntoTarget sourceItem target source [])
  | none, targetItem => targetItem

/-- What a group leaves of the items of the two branches. -/
def groupSurvivor (source target : Str) (strategy : MergeStrategy) (group : List τ) : Option τ :=
  survivorOf source target strategy (group.find? fun item => branchOf item = source)
    (group.find? fun item => branchOf item = target)

lemma mergeGroup_eq (source target : Str) (strategy : MergeStrategy) (group : List τ) :
    mergeGroup source target strategy group =
      (group.filter fun item => ¬ Involved source target item)
        ++ (groupSurvivor source target strategy group).toList := by
  have hothers : (group.filter fun item => (owner item).branchId ≠ source &&
      (owner item).branchId ≠ target) = group.filter fun item => ¬ Involved source target item := by
    apply List.filter_congr
    intro item _
    simp [Involved, not_or]
  unfold mergeGroup groupSurvivor
  simp only [hothers]
  congr 1
  cases group.find? fun item => branchOf item = source with
  | none => cases group.find? fun item => branchOf item = target <;> rfl
  | some sourceItem =>
    cases group.find? fun item => branchOf item = target with
    | none => rfl
    | some targetItem =>
      unfold survivorOf
      by_cases hkeep : strategy = .keepSource
      · simp only [hkeep, if_true]
        rfl
      · simp only [hkeep, if_false]
        rfl

variable {κ : Type} {key : τ → κ} {text : κ → Str} {source target : Str}
  {strategy : MergeStrategy} {group : List τ} {survivor : τ}

lemma find_branch {branchId : Str} {item : τ}
    (h : (group.find? fun item => branchOf item = branchId) = some item) :
    item ∈ group ∧ branchOf item = branchId := by
  have hbranch := List.find?_some h
  exact ⟨List.mem_of_find?_eq_some h, of_decide_eq_true hbranch⟩

lemma exists_find_branch {branchId : Str} {item : τ} (hitem : item ∈ group)
    (hbranch : branchOf item = branchId) :
    ∃ found, (group.find? fun item => branchOf item = branchId) = some found := by
  apply Option.isSome_iff_exists.mp
  rw [List.find?_isSome]
  exact ⟨item, hitem, decide_eq_true hbranch⟩

lemma exists_groupSurvivor (strategy : MergeStrategy) {item : τ} (hitem : item ∈ group)
    (hinvolved : Involved source target item) :
    ∃ survivor, groupSurvivor source target strategy group = some survivor := by
  unfold groupSurvivor
  cases hsource : group.find? fun item => branchOf item = source with
  | none =>
    rcases hinvolved with h | h
    · obtain ⟨found, hfound⟩ := exists_find_branch hitem h
      exact absurd (hsource.symm.trans hfound) (Option.some_ne_none found).symm
    · exact exists_find_branch hitem h
  | some sourceItem =>
    cases group.find? fun item => branchOf item = target with
    | none => exact ⟨_, rfl⟩
    | some targetItem =>
      unfold survivorOf
      split_ifs
      · exact ⟨_, rfl⟩
      · exact ⟨_, rfl⟩

lemma owner_markMergedIntoTarget (hkeyed : Keyed key text) (item : τ) (extra : List Str) :
    owner (markMergedIntoTarget item target source extra) = { owner item with
      branchId := target
      mergedFromBranchIds := Graph.uniqueStrings (mergedFrom item ++ extra ++ [source]) } :=
  hkeyed.owner_own _ _

/-- The survivor is an item of one of the two branches, and the target owns it. -/
lemma groupSurvivor_spec (hkeyed : Keyed key text)
    (h : groupSurvivor source target strategy group = some survivor) :
    branchOf survivor = target ∧
      ∃ old ∈ group, Involved source target old ∧ survivor = own (owner survivor) old := by
  have hmark : ∀ (item : τ) (extra : List Str), item ∈ group → Involved source target item →
      markMergedIntoTarget item target source extra = survivor →
      branchOf survivor = target ∧
        ∃ old ∈ group, Involved source target old ∧ survivor = own (owner survivor) old := by
    intro item extra hmem hinvolved hsurvivor
    rw [← hsurvivor]
    constructor
    · unfold branchOf
      rw [owner_markMergedIntoTarget hkeyed]
    · use item, hmem, hinvolved
      rw [owner_markMergedIntoTarget hkeyed]
      rfl
  unfold groupSurvivor at h
  cases hsource : group.find? fun item => branchOf item = source with
  | none =>
    rw [hsource] at h
    obtain ⟨hmem, hbranch⟩ := find_branch h
    exact ⟨hbranch, survivor, hmem, Or.inr hbranch, (hkeyed.own_owner survivor).symm⟩
  | some sourceItem =>
    rw [hsource] at h
    obtain ⟨hsourceMem, hsourceBranch⟩ := find_branch hsource
    cases htarget : group.find? fun item => branchOf item = target with
    | none =>
      rw [htarget] at h
      exact hmark sourceItem [] hsourceMem (Or.inl hsourceBranch) (Option.some.inj h)
    | some targetItem =>
      obtain ⟨htargetMem, htargetBranch⟩ := find_branch htarget
      rw [htarget] at h
      unfold survivorOf at h
      split_ifs at h
      · exact hmark sourceItem _ hsourceMem (Or.inl hsourceBranch) (Option.some.inj h)
      · exact hmark targetItem _ htargetMem (Or.inr htargetBranch) (Option.some.inj h)

/-- Where the source has an item in the group, the survivor records the source and what the items
of the two branches record, without the empty texts. -/
lemma mem_mergedFrom_survivor (hkeyed : Keyed key text) {sourceItem : τ}
    (hsource : (group.find? fun item => branchOf item = source) = some sourceItem)
    (h : groupSurvivor source target strategy group = some survivor) (value : Str) :
    value ∈ mergedFrom survivor ↔ value ≠ [] ∧ (value = source ∨ value ∈ mergedFrom sourceItem ∨
      ∃ targetItem, (group.find? fun item => branchOf item = target) = some targetItem ∧
        value ∈ mergedFrom targetItem) := by
  have hmark : ∀ (item : τ) (extra : List Str),
      value ∈ mergedFrom (markMergedIntoTarget item target source extra) ↔
        value ≠ [] ∧ (value = source ∨ value ∈ mergedFrom item ∨ value ∈ extra) := by
    intro item extra
    unfold mergedFrom
    rw [owner_markMergedIntoTarget hkeyed, mem_uniqueStrings]
    simp only [List.mem_append, List.mem_singleton]
    tauto
  have hcollect : ∀ item : τ, value ∈ collectMergedFrom [item] ↔
      value ∈ mergedFrom item ∧ value ≠ [] := by
    intro item
    unfold collectMergedFrom
    rw [mem_uniqueStrings, List.flatMap_singleton]
  unfold groupSurvivor at h
  rw [hsource] at h
  cases htarget : group.find? fun item => branchOf item = target with
  | none =>
    rw [htarget] at h
    obtain rfl := Option.some.inj h
    rw [hmark]
    simp
  | some targetItem =>
    rw [htarget] at h
    simp only [Option.some.injEq, exists_eq_left']
    unfold survivorOf at h
    split_ifs at h
    · obtain rfl := Option.some.inj h
      rw [hmark, hcollect]
      tauto
    · obtain rfl := Option.some.inj h
      rw [hmark, hcollect]
      tauto

/-! ## The whole list -/

/-- The survivors of the groups, in the order of the groups. -/
def survivors (source target : Str) (strategy : MergeStrategy) (items : List τ) : List τ :=
  (groupByKey items itemKey).filterMap fun e => groupSurvivor source target strategy e.2

lemma merged_perm (source target : Str) (strategy : MergeStrategy) (items : List τ) :
    (mergeBranchOwnedItems items source target strategy).Perm
      ((items.filter fun item => ¬ Involved source target item)
        ++ survivors source target strategy items) := by
  have hgrouped := grouped_groupByKey items (itemKey (τ := τ))
  unfold mergeBranchOwnedItems survivors
  simp only [mergeGroup_eq]
  rw [List.filterMap_eq_flatMap_toList]
  apply (List.flatMap_append_perm _ _ _).symm.trans
  apply List.Perm.append_right
  have hcovered : ∀ item ∈ items.filter (fun item => ¬ Involved source target item),
      itemKey item ∈ (groupByKey items itemKey).map Prod.fst := fun item hitem =>
    hgrouped.covered item (List.mem_of_mem_filter hitem)
  apply List.Perm.trans _ (flatMap_filter_perm hgrouped.nodup hcovered)
  rw [List.flatMap_map]
  apply List.Perm.of_eq
  apply List.flatMap_congr
  intro e he
  rw [hgrouped.group_eq e he, List.filter_filter, List.filter_filter]
  apply List.filter_congr
  intro item _
  exact Bool.and_comm _ _

section

variable {items : List τ}

lemma mem_survivors : survivor ∈ survivors source target strategy items ↔
    ∃ e ∈ groupByKey items itemKey, groupSurvivor source target strategy e.2 = some survivor := by
  unfold survivors
  rw [List.mem_filterMap]

lemma Keyed.itemKey_own (hkeyed : Keyed key text) (o : BranchOwned) (item : τ) :
    itemKey (own o item) = itemKey item := by
  rw [hkeyed.itemKey_eq, hkeyed.itemKey_eq, hkeyed.key_own]

lemma itemKey_groupSurvivor (hkeyed : Keyed key text) {e : Str × List τ}
    (he : e ∈ groupByKey items itemKey)
    (h : groupSurvivor source target strategy e.2 = some survivor) : itemKey survivor = e.1 := by
  obtain ⟨-, old, hold, -, hown⟩ := groupSurvivor_spec hkeyed h
  rw [hown, hkeyed.itemKey_own]
  exact ((grouped_groupByKey items itemKey).key_eq he hold).2

/-- One survivor at most for each text. -/
lemma nodup_survivors (hkeyed : Keyed key text) :
    ((survivors source target strategy items).map itemKey).Nodup := by
  apply List.Sublist.nodup _ (grouped_groupByKey items itemKey).nodup
  apply filterMap_keys_sublist
  intro e he survivor hsurvivor
  exact itemKey_groupSurvivor hkeyed he hsurvivor

lemma mem_merged {item : τ} : item ∈ mergeBranchOwnedItems items source target strategy ↔
    (item ∈ items ∧ ¬ Involved source target item) ∨
      item ∈ survivors source target strategy items := by
  rw [(merged_perm source target strategy items).mem_iff, List.mem_append, List.mem_filter,
    decide_eq_true_eq]

lemma mem_survivors_of_target {item : τ} (hbranch : branchOf item = target)
    (hitem : item ∈ mergeBranchOwnedItems items source target strategy) :
    item ∈ survivors source target strategy items := by
  rcases mem_merged.mp hitem with ⟨-, h⟩ | h
  · exact absurd (Or.inr hbranch) h
  · exact h

/-- An item of the two branches has a survivor in its group. -/
lemma exists_survivor (strategy : MergeStrategy) (hkeyed : Keyed key text) {item : τ} (hitem : item ∈ items)
    (hinvolved : Involved source target item) :
    ∃ survivor ∈ survivors source target strategy items,
      branchOf survivor = target ∧ itemKey survivor = itemKey item := by
  obtain ⟨e, he, hkey, hall⟩ := (grouped_groupByKey items itemKey).exists_group hitem
  obtain ⟨survivor, hsurvivor⟩ := exists_groupSurvivor strategy
    (hall item hitem rfl) hinvolved
  refine ⟨survivor, mem_survivors.mpr ⟨e, he, hsurvivor⟩, (groupSurvivor_spec hkeyed hsurvivor).1,
    ?_⟩
  rw [itemKey_groupSurvivor hkeyed he hsurvivor, hkey]

/-! ## What a merge does -/

/-- Among items of different texts, the only one a condition can hold of. -/
lemma filter_eq_singleton {l : List τ} (hnodup : (l.map itemKey).Nodup) {item : τ} {P : τ → Prop}
    [DecidablePred P] (hitem : item ∈ l) (hP : P item)
    (hsame : ∀ other ∈ l, P other → itemKey other = itemKey item) : l.filter P = [item] := by
  have hall : ∀ other ∈ l.filter P, other = item := by
    intro other hother
    rw [List.mem_filter, decide_eq_true_eq] at hother
    exact List.inj_on_of_nodup_map hnodup hother.1 hitem (hsame other hother.1 hother.2)
  have hlength : (l.filter P).length ≤ 1 := by
    rw [← List.nodup_replicate (a := item), ← List.eq_replicate_of_mem hall]
    exact hnodup.of_map.filter _
  have hmem : item ∈ l.filter P := List.mem_filter.mpr ⟨hitem, decide_eq_true hP⟩
  obtain ⟨other, hother⟩ := List.length_eq_one_iff.mp
    (le_antisymm hlength (List.length_pos_of_mem hmem))
  rw [hother, List.mem_singleton] at hmem
  rw [hother, hmem]

/-- The key and the owner determine an item of the list. -/
lemma eq_of_key_branch (hunique : (items.map fun item => (key item, branchOf item)).Nodup)
    {a b : τ} (ha : a ∈ items) (hb : b ∈ items) (hkey : key a = key b)
    (hbranch : branchOf a = branchOf b) : a = b :=
  List.inj_on_of_nodup_map hunique ha hb (Prod.ext hkey hbranch)

/-- A survivor records the source and what the items of its key record in the two branches, without
the empty texts. -/
lemma mem_mergedFrom_of_apart (hkeyed : Keyed key text) (hapart : Apart key source target items)
    (hunique : (items.map fun item => (key item, branchOf item)).Nodup)
    {item : τ} (hitem : item ∈ items) (hsource : branchOf item = source)
    (hsurvivor : survivor ∈ survivors source target strategy items)
    (hkey : itemKey survivor = itemKey item) (value : Str) :
    value ∈ mergedFrom survivor ↔ value ≠ [] ∧ (value = source ∨
      ∃ twin ∈ items, key twin = key item ∧ Involved source target twin ∧
        value ∈ mergedFrom twin) := by
  obtain ⟨e, he, hgroup⟩ := mem_survivors.mp hsurvivor
  have hgrouped := grouped_groupByKey items (itemKey (τ := τ))
  have hein : ∀ other ∈ e.2, other ∈ items ∧ itemKey other = itemKey item := by
    intro other hother
    obtain ⟨hmem, htext⟩ := hgrouped.key_eq he hother
    refine ⟨hmem, ?_⟩
    rw [htext, ← itemKey_groupSurvivor hkeyed he hgroup, hkey]
  have hin : ∀ other ∈ items, key other = key item → other ∈ e.2 := by
    intro other hother hsame
    rw [hgrouped.group_eq e he, List.mem_filter, decide_eq_true_eq]
    refine ⟨hother, ?_⟩
    rw [← itemKey_groupSurvivor hkeyed he hgroup, hkey, hkeyed.itemKey_eq, hkeyed.itemKey_eq, hsame]
  -- an item found in the group is the one of that key and branch
  have hfound : ∀ {branchId : Str} {found : τ}, branchId = source ∨ branchId = target →
      (e.2.find? fun item => branchOf item = branchId) = some found →
      found ∈ items ∧ key found = key item ∧ branchOf found = branchId := by
    intro branchId found hbranchId hfind
    obtain ⟨hmem, hbranch⟩ := find_branch hfind
    obtain ⟨hfoundItem, htext⟩ := hein found hmem
    refine ⟨hfoundItem, ?_, hbranch⟩
    apply hapart found hfoundItem item hitem _ (Or.inl hsource) htext
    rw [Involved, hbranch]
    exact hbranchId
  obtain ⟨sourceItem, hfindSource⟩ := exists_find_branch (hin item hitem rfl) hsource
  obtain ⟨hsourceItem, hsourceKey, hsourceBranch⟩ := hfound (Or.inl rfl) hfindSource
  obtain rfl : sourceItem = item :=
    eq_of_key_branch hunique hsourceItem hitem hsourceKey (hsourceBranch.trans hsource.symm)
  rw [mem_mergedFrom_survivor hkeyed hfindSource hgroup]
  apply and_congr_right
  intro _
  apply or_congr_right
  constructor
  · intro h
    rcases h with h | ⟨targetItem, hfindTarget, h⟩
    · exact ⟨sourceItem, hitem, rfl, Or.inl hsource, h⟩
    · obtain ⟨htargetItem, htargetKey, htargetBranch⟩ := hfound (Or.inr rfl) hfindTarget
      exact ⟨targetItem, htargetItem, htargetKey, Or.inr htargetBranch, h⟩
  · intro h
    obtain ⟨twin, htwin, htwinKey, htwinBranch | htwinBranch, h⟩ := h
    · left
      rw [← eq_of_key_branch hunique htwin hitem htwinKey (htwinBranch.trans hsource.symm)]
      exact h
    · right
      obtain ⟨targetItem, hfindTarget⟩ := exists_find_branch (hin twin htwin htwinKey) htwinBranch
      obtain ⟨htargetItem, htargetKey, htargetBranch⟩ := hfound (Or.inr rfl) hfindTarget
      refine ⟨targetItem, hfindTarget, ?_⟩
      rw [eq_of_key_branch hunique htargetItem htwin (htargetKey.trans htwinKey.symm)
        (htargetBranch.trans htwinBranch.symm)]
      exact h

variable [DecidableEq κ]

lemma owned_once_of_apart (hkeyed : Keyed key text) (hapart : Apart key source target items)
    {item : τ} (hitem : item ∈ items) (hinvolved : Involved source target item) :
    ∃ survivor, ((mergeBranchOwnedItems items source target strategy).filter
      fun other => key other = key item ∧ branchOf other = target) = [survivor] := by
  obtain ⟨survivor, hsurvivor, hbranch, htext⟩ :=
    exists_survivor strategy hkeyed hitem hinvolved
  obtain ⟨e, he, hgroup⟩ := mem_survivors.mp hsurvivor
  have hkey : key survivor = key item := by
    obtain ⟨-, old, hold, holdInvolved, hown⟩ := groupSurvivor_spec hkeyed hgroup
    have holdItem := ((grouped_groupByKey items itemKey).key_eq he hold).1
    rw [hown, hkeyed.key_own]
    apply hapart old holdItem item hitem holdInvolved hinvolved
    rw [← htext, hown, hkeyed.itemKey_own]
  use survivor
  apply List.perm_singleton.mp
  apply ((merged_perm source target strategy items).filter _).trans
  rw [List.filter_append, List.filter_filter]
  have hothers : (items.filter fun other => decide (key other = key item ∧ branchOf other = target)
      && decide (¬ Involved source target other)) = [] := by
    rw [List.filter_eq_nil_iff]
    intro other _ h
    rw [Bool.and_eq_true, decide_eq_true_eq, decide_eq_true_eq] at h
    exact h.2 (Or.inr h.1.2)
  rw [hothers, List.nil_append, filter_eq_singleton (nodup_survivors hkeyed) hsurvivor
    ⟨hkey, hbranch⟩]
  intro other _ h
  rw [hkeyed.itemKey_eq, hkeyed.itemKey_eq, h.1, hkey]

lemma apart_of_merges (hkeyed : Keyed key text)
    (hunique : (items.map fun item => (key item, branchOf item)).Nodup)
    (h : Merges key source target items (mergeBranchOwnedItems items source target strategy)) :
    Apart key source target items ∧ NamedOrigins key source target items := by
  have hkept : ∀ item ∈ items, Involved source target item →
      ∃ survivor ∈ survivors source target strategy items, branchOf survivor = target ∧
        key survivor = key item ∧
        survivor ∈ mergeBranchOwnedItems items source target strategy := by
    intro item hitem hinvolved
    obtain ⟨survivor, hsurvivor⟩ := h.owned_once item hitem hinvolved
    have hmem : survivor ∈ [survivor] := List.mem_singleton_self survivor
    rw [← hsurvivor, List.mem_filter, decide_eq_true_eq] at hmem
    exact ⟨survivor, mem_survivors_of_target hmem.2.2 hmem.1, hmem.2.2, hmem.2.1, hmem.1⟩
  have hapart : Apart key source target items := by
    intro a ha b hb haInvolved hbInvolved htext
    obtain ⟨x, hx, -, hxkey, -⟩ := hkept a ha haInvolved
    obtain ⟨y, hy, -, hykey, -⟩ := hkept b hb hbInvolved
    have hsame : x = y := by
      apply List.inj_on_of_nodup_map (nodup_survivors hkeyed) hx hy
      rw [hkeyed.itemKey_eq, hkeyed.itemKey_eq, hxkey, hykey, ← hkeyed.itemKey_eq,
        ← hkeyed.itemKey_eq, htext]
    rw [← hxkey, ← hykey, hsame]
  refine ⟨hapart, ?_⟩
  intro item hitem hsource
  obtain ⟨survivor, hsurvivor, hbranch, hkey, hmerged⟩ := hkept item hitem (Or.inl hsource)
  have htext : itemKey survivor = itemKey item := by
    rw [hkeyed.itemKey_eq, hkeyed.itemKey_eq, hkey]
  have hrecords := mem_mergedFrom_of_apart hkeyed hapart hunique hitem hsource hsurvivor htext
  obtain ⟨hname, htwins⟩ := h.provenance item hitem hsource survivor hmerged hkey hbranch
  refine ⟨((hrecords source).mp hname).1, ?_⟩
  intro twin htwin htwinKey hinvolved hempty
  exact ((hrecords []).mp (htwins twin htwin htwinKey hinvolved hempty)).1 rfl

lemma merges_of_apart (hkeyed : Keyed key text) (hne : source ≠ target)
    (hunique : (items.map fun item => (key item, branchOf item)).Nodup)
    (hapart : Apart key source target items) (hnamed : NamedOrigins key source target items) :
    Merges key source target items (mergeBranchOwnedItems items source target strategy) := by
  constructor
  · intro item hitem hsource
    rcases mem_merged.mp hitem with ⟨-, h⟩ | h
    · exact h (Or.inl hsource)
    · obtain ⟨e, -, hgroup⟩ := mem_survivors.mp h
      exact hne (hsource.symm.trans (groupSurvivor_spec hkeyed hgroup).1)
  · intro item hitem hinvolved
    exact owned_once_of_apart hkeyed hapart hitem hinvolved
  · intro item hitem hbranch
    obtain ⟨e, he, hgroup⟩ := mem_survivors.mp (mem_survivors_of_target hbranch hitem)
    obtain ⟨-, old, hold, hinvolved, hown⟩ := groupSurvivor_spec hkeyed hgroup
    exact ⟨old, ((grouped_groupByKey items itemKey).key_eq he hold).1, hinvolved, hown⟩
  · apply ((merged_perm source target strategy items).filter _).trans
    rw [List.filter_append, List.filter_filter]
    have hnone : (survivors source target strategy items).filter
        (fun item => ¬ Involved source target item) = [] := by
      rw [List.filter_eq_nil_iff]
      intro item hitem hnot
      obtain ⟨e, -, hgroup⟩ := mem_survivors.mp hitem
      exact of_decide_eq_true hnot (Or.inr (groupSurvivor_spec hkeyed hgroup).1)
    rw [hnone, List.append_nil]
    simp only [Bool.and_self]
    exact List.Perm.refl _
  · intro item hitem hsource survivor hsurvivor hkey hbranch
    obtain ⟨hname, htwins⟩ := hnamed item hitem hsource
    have htext : itemKey survivor = itemKey item := by
      rw [hkeyed.itemKey_eq, hkeyed.itemKey_eq, hkey]
    have hrecords := mem_mergedFrom_of_apart hkeyed hapart hunique hitem hsource
      (mem_survivors_of_target hbranch hsurvivor) htext
    refine ⟨(hrecords source).mpr ⟨hname, Or.inl rfl⟩, ?_⟩
    intro twin htwin htwinKey hinvolved value hvalue
    apply (hrecords value).mpr
    constructor
    · intro hempty
      exact htwins twin htwin htwinKey hinvolved (hempty ▸ hvalue)
    · exact Or.inr ⟨twin, htwin, htwinKey, hinvolved, hvalue⟩

/-- A merge of two branches loses, invents and forgets nothing exactly when their items that are
grouped together have one key, and no name is empty where the source owns an item. -/
lemma merges_iff (strategy : MergeStrategy) (hkeyed : Keyed key text) (hne : source ≠ target)
    (hunique : (items.map fun item => (key item, branchOf item)).Nodup) :
    Merges key source target items (mergeBranchOwnedItems items source target strategy) ↔
      Apart key source target items ∧ NamedOrigins key source target items := by
  constructor
  · intro h
    exact apart_of_merges hkeyed hunique h
  · intro h
    exact merges_of_apart hkeyed hne hunique h.1 h.2

omit [DecidableEq κ]

/-! ## A second merge -/

lemma mergeGroup_twice (hkeyed : Keyed key text) (hne : source ≠ target) (again : MergeStrategy) :
    mergeGroup source target again (mergeGroup source target strategy group) =
      mergeGroup source target strategy group := by
  have hothers : ∀ branchId, branchId = source ∨ branchId = target →
      ((group.filter fun item => ¬ Involved source target item).find? fun item =>
        branchOf item = branchId) = none := by
    intro branchId hbranchId
    rw [List.find?_eq_none]
    intro item hitem hbranch
    rw [List.mem_filter, decide_eq_true_eq] at hitem
    apply hitem.2
    rw [Involved, of_decide_eq_true hbranch]
    exact hbranchId
  have hself : ((group.filter fun item => ¬ Involved source target item).filter fun item =>
      ¬ Involved source target item) = group.filter fun item => ¬ Involved source target item := by
    rw [List.filter_filter]
    simp only [Bool.and_self]
  rw [mergeGroup_eq source target strategy, mergeGroup_eq source target again, List.filter_append,
    hself, List.append_assoc, List.append_cancel_left_eq]
  cases hsurvivor : groupSurvivor source target strategy group with
  | none =>
    unfold groupSurvivor
    rw [List.find?_append, List.find?_append, hothers source (Or.inl rfl),
      hothers target (Or.inr rfl)]
    rfl
  | some survivor =>
    have hbranch := (groupSurvivor_spec hkeyed hsurvivor).1
    have hinvolved : Involved source target survivor := Or.inr hbranch
    unfold groupSurvivor
    rw [List.find?_append, List.find?_append, hothers source (Or.inl rfl),
      hothers target (Or.inr rfl)]
    simp [hbranch, hne.symm, hinvolved, survivorOf]

lemma mergeGroup_ne_nil (hgroup : group ≠ []) :
    mergeGroup source target strategy group ≠ [] := by
  obtain ⟨item, hitem⟩ := List.exists_mem_of_ne_nil group hgroup
  rw [mergeGroup_eq]
  by_cases hinvolved : Involved source target item
  · obtain ⟨survivor, hsurvivor⟩ := exists_groupSurvivor strategy hitem hinvolved
    rw [hsurvivor]
    exact List.append_ne_nil_of_right_ne_nil _ (List.cons_ne_nil survivor [])
  · apply List.append_ne_nil_of_left_ne_nil
    exact List.ne_nil_of_mem (List.mem_filter.mpr ⟨hitem, decide_eq_true hinvolved⟩)

lemma itemKey_mergeGroup (hkeyed : Keyed key text) {e : Str × List τ}
    (he : e ∈ groupByKey items itemKey) {item : τ}
    (hitem : item ∈ mergeGroup source target strategy e.2) : itemKey item = e.1 := by
  rw [mergeGroup_eq, List.mem_append, Option.mem_toList] at hitem
  rcases hitem with hitem | hitem
  · exact ((grouped_groupByKey items itemKey).key_eq he (List.mem_of_mem_filter hitem)).2
  · exact itemKey_groupSurvivor hkeyed he hitem

/-- The merged items lie in their groups, and each group is as it should be. -/
lemma merged_twice (hkeyed : Keyed key text) (hne : source ≠ target) (again : MergeStrategy) :
    mergeBranchOwnedItems (mergeBranchOwnedItems items source target strategy) source target again =
      mergeBranchOwnedItems items source target strategy := by
  have hgrouped := grouped_groupByKey items (itemKey (τ := τ))
  let groups := (groupByKey items itemKey).map fun e =>
    (e.1, mergeGroup source target strategy e.2)
  have hmerged : mergeBranchOwnedItems items source target strategy = groups.flatMap Prod.snd := by
    rw [List.flatMap_map]
    rfl
  have hregrouped : groupByKey (groups.flatMap Prod.snd) itemKey = groups := by
    apply groupByKey_flatMap
    · rw [List.map_map]
      exact hgrouped.nodup
    · intro e he item hitem
      obtain ⟨old, hold, rfl⟩ := List.mem_map.mp he
      exact itemKey_mergeGroup hkeyed hold hitem
    · intro e he
      obtain ⟨old, hold, rfl⟩ := List.mem_map.mp he
      exact mergeGroup_ne_nil (hgrouped.inhabited old hold)
  rw [hmerged, mergeBranchOwnedItems, hregrouped, List.flatMap_map, List.flatMap_map]
  apply List.flatMap_congr
  intro e _
  exact mergeGroup_twice hkeyed hne again

end

end

/-! ## Nodes and edges -/

/-- The ends and the type of an edge. -/
structure EdgeEnds where
  sourceNodeId : Str
  targetNodeId : Str
  type : EdgeType
  deriving DecidableEq

def TaskGraphEdge.ends (edge : TaskGraphEdge) : EdgeEnds :=
  ⟨edge.sourceNodeId, edge.targetNodeId, edge.type⟩

/-- The ends of an edge as its text has them. -/
def arrowText (sourceNodeId targetNodeId : Str) : Str := sourceNodeId ++ js "->" ++ targetNodeId

lemma colon_not_mem_type (type : EdgeType) : cu ':' ∉ type.text := by
  cases type <;> decide

lemma EdgeType.text_injective {a b : EdgeType} (h : a.text = b.text) : a = b := by
  revert h
  cases a <;> cases b <;> decide

/-- The type can be read from the text of an edge, the ends only together. -/
lemma edgeOwnedKey_eq_iff {a b : TaskGraphEdge} :
    edgeOwnedKey a = edgeOwnedKey b ↔ a.type = b.type ∧
      arrowText a.sourceNodeId a.targetNodeId = arrowText b.sourceNodeId b.targetNodeId := by
  have hkey : ∀ edge : TaskGraphEdge, edgeOwnedKey edge =
      arrowText edge.sourceNodeId edge.targetNodeId ++ cu ':' :: edge.type.text := by
    intro edge
    unfold edgeOwnedKey arrowText
    rw [List.append_assoc _ (js ":")]
    rfl
  rw [hkey, hkey]
  constructor
  · intro h
    obtain ⟨harrow, htype⟩ :=
      append_cons_inj_last (colon_not_mem_type a.type) (colon_not_mem_type b.type) h
    exact ⟨EdgeType.text_injective htype, harrow⟩
  · intro h
    rw [h.1, h.2]

lemma keyed_nodes : Keyed TaskGraphNode.nodeId (fun nodeId => nodeId) where
  itemKey_eq _ := rfl
  key_own _ _ := rfl
  owner_own _ _ := rfl
  own_owner _ := rfl

lemma keyed_edges : Keyed TaskGraphEdge.ends
    (fun ends => arrowText ends.sourceNodeId ends.targetNodeId ++ js ":" ++ ends.type.text) where
  itemKey_eq _ := rfl
  key_own _ _ := rfl
  owner_own _ _ := rfl
  own_owner _ := rfl

lemma apart_nodes (source target : Str) (nodes : List TaskGraphNode) :
    Apart TaskGraphNode.nodeId source target nodes := fun _ _ _ _ _ _ htext => htext

/-- Edges of the two branches that have one type and one arrow text have the same ends. -/
def EdgesApart (source target : Str) (edges : List TaskGraphEdge) : Prop :=
  ∀ a ∈ edges, ∀ b ∈ edges, Involved source target a → Involved source target b →
    a.type = b.type →
    arrowText a.sourceNodeId a.targetNodeId = arrowText b.sourceNodeId b.targetNodeId →
    a.sourceNodeId = b.sourceNodeId ∧ a.targetNodeId = b.targetNodeId

lemma apart_edges_iff {source target : Str} {edges : List TaskGraphEdge} :
    Apart TaskGraphEdge.ends source target edges ↔ EdgesApart source target edges := by
  constructor
  · intro h a ha b hb haInvolved hbInvolved htype harrow
    have hends := h a ha b hb haInvolved hbInvolved (edgeOwnedKey_eq_iff.mpr ⟨htype, harrow⟩)
    simp only [TaskGraphEdge.ends, EdgeEnds.mk.injEq] at hends
    exact ⟨hends.1, hends.2.1⟩
  · intro h a ha b hb haInvolved hbInvolved htext
    obtain ⟨htype, harrow⟩ := edgeOwnedKey_eq_iff.mp htext
    obtain ⟨hsource, htarget⟩ := h a ha b hb haInvolved hbInvolved htype harrow
    unfold TaskGraphEdge.ends
    rw [hsource, htarget, htype]

/-! ## The merge of a graph -/

/-- What merging one branch into another must do to a graph. -/
structure MergeSound (graph : TaskGraph) (source target : Str) (strategy : MergeStrategy)
    (now : Str) : Prop where
  nodes : Merges TaskGraphNode.nodeId source target graph.nodes
    (mergeBranch graph source target strategy now).nodes
  edges : Merges TaskGraphEdge.ends source target graph.edges
    (mergeBranch graph source target strategy now).edges
  again : ∀ later : Str,
    { mergeBranch (mergeBranch graph source target strategy now) source target strategy later with
      updatedAt := (mergeBranch graph source target strategy now).updatedAt } =
      mergeBranch graph source target strategy now

/-- When a merge does what it must. -/
def MergeSafe (graph : TaskGraph) (source target : Str) : Prop :=
  if source = target then
    (∀ node ∈ graph.nodes, branchOf node ≠ source) ∧ ∀ edge ∈ graph.edges, branchOf edge ≠ source
  else
    EdgesApart source target graph.edges ∧
      NamedOrigins TaskGraphNode.nodeId source target graph.nodes ∧
      NamedOrigins TaskGraphEdge.ends source target graph.edges

/-- A list that is left as it is has been merged when the branch owns nothing. -/
lemma merges_self_iff {τ κ : Type} [Owned τ] [DecidableEq κ] {key : τ → κ} {branchId : Str}
    {items : List τ} :
    Merges key branchId branchId items items ↔ ∀ item ∈ items, branchOf item ≠ branchId := by
  constructor
  · intro h
    exact h.leaves_source
  · intro h
    constructor
    · exact h
    · intro item hitem hinvolved
      exact absurd (or_self_iff.mp hinvolved) (h item hitem)
    · intro item hitem hbranch
      exact absurd hbranch (h item hitem)
    · exact List.Perm.refl _
    · intro item hitem hbranch
      exact absurd hbranch (h item hitem)

lemma mergeBranch_self {graph : TaskGraph} {branchId : Str} (strategy : MergeStrategy) (now : Str) :
    mergeBranch graph branchId branchId strategy now = graph := by
  unfold mergeBranch
  by_cases hbranch : branchId ∉ graph.branches
  · rw [if_pos hbranch]
  · rw [if_neg hbranch, if_neg hbranch, if_pos rfl]

lemma mergeBranch_eq {graph : TaskGraph} {source target : Str} (hsource : source ∈ graph.branches)
    (htarget : target ∈ graph.branches) (hne : source ≠ target) (strategy : MergeStrategy)
    (now : Str) :
    mergeBranch graph source target strategy now = { graph with
      nodes := mergeBranchOwnedItems graph.nodes source target strategy
      edges := mergeBranchOwnedItems graph.edges source target strategy
      activeBranch := target
      updatedAt := now } := by
  unfold mergeBranch
  rw [if_neg (not_not.mpr hsource), if_neg (not_not.mpr htarget), if_neg hne]

lemma mergeBranch_twice {graph : TaskGraph} {source target : Str}
    (hsource : source ∈ graph.branches) (htarget : target ∈ graph.branches)
    (strategy : MergeStrategy) (now later : Str) :
    { mergeBranch (mergeBranch graph source target strategy now) source target strategy later with
      updatedAt := (mergeBranch graph source target strategy now).updatedAt } =
      mergeBranch graph source target strategy now := by
  by_cases hne : source = target
  · subst hne
    rw [mergeBranch_self, mergeBranch_self]
  · have honce := mergeBranch_eq hsource htarget hne strategy now
    have hsourceOnce : source ∈ (mergeBranch graph source target strategy now).branches := by
      rw [honce]
      exact hsource
    have htargetOnce : target ∈ (mergeBranch graph source target strategy now).branches := by
      rw [honce]
      exact htarget
    rw [mergeBranch_eq hsourceOnce htargetOnce hne strategy later, honce]
    simp only [merged_twice keyed_nodes hne, merged_twice keyed_edges hne]

/-- A merge of two branches of a graph does what it must exactly when the two branches have no two
edges of one type and one arrow text with different ends, and no name is empty where the source owns
an item. A branch merged into itself must own nothing. -/
theorem mergeBranch_sound_iff {graph : TaskGraph} {source target : Str}
    (strategy : MergeStrategy) (now : Str)
    (hsource : source ∈ graph.branches) (htarget : target ∈ graph.branches)
    (hnodes : (graph.nodes.map fun node => (node.nodeId, node.branchId)).Nodup)
    (hedges : (graph.edges.map fun edge =>
      (edge.sourceNodeId, edge.targetNodeId, edge.type, edge.branchId)).Nodup) :
    MergeSound graph source target strategy now ↔ MergeSafe graph source target := by
  have hagain := mergeBranch_twice hsource htarget strategy now
  unfold MergeSafe
  by_cases hne : source = target
  · subst hne
    rw [if_pos rfl]
    constructor
    · intro h
      have hmergedNodes := h.nodes
      have hmergedEdges := h.edges
      rw [mergeBranch_self, merges_self_iff] at hmergedNodes hmergedEdges
      exact ⟨hmergedNodes, hmergedEdges⟩
    · intro h
      refine ⟨?_, ?_, hagain⟩
      · rw [mergeBranch_self, merges_self_iff]
        exact h.1
      · rw [mergeBranch_self, merges_self_iff]
        exact h.2
  · have hedgesUnique : (graph.edges.map fun edge => (edge.ends, branchOf edge)).Nodup := by
      apply List.Nodup.of_map fun e : EdgeEnds × Str =>
        (e.1.sourceNodeId, e.1.targetNodeId, e.1.type, e.2)
      rw [List.map_map]
      exact hedges
    have hnodesIff := merges_iff strategy keyed_nodes hne hnodes
    have hedgesIff := merges_iff strategy keyed_edges hne hedgesUnique
    rw [apart_edges_iff] at hedgesIff
    rw [if_neg hne]
    constructor
    · intro h
      have hmergedNodes := h.nodes
      have hmergedEdges := h.edges
      rw [mergeBranch_eq hsource htarget hne] at hmergedNodes hmergedEdges
      exact ⟨(hedgesIff.mp hmergedEdges).1, (hnodesIff.mp hmergedNodes).2,
        (hedgesIff.mp hmergedEdges).2⟩
    · intro h
      refine ⟨?_, ?_, hagain⟩
      · rw [mergeBranch_eq hsource htarget hne]
        exact hnodesIff.mpr ⟨apart_nodes source target graph.nodes, h.2.1⟩
      · rw [mergeBranch_eq hsource htarget hne]
        exact hedgesIff.mpr ⟨h.1, h.2.2⟩

def arrowEdge (sourceNodeId targetNodeId branchId : String) : TaskGraphEdge where
  branchId
  originBranchId := branchId
  mergedFromBranchIds := []
  edgeId := js "e"
  sourceNodeId
  targetNodeId
  type := .dependency
  metadata := none

/-- A graph of edges in two branches. -/
def arrowGraph (edges : List TaskGraphEdge) : TaskGraph where
  graphId := js "g"
  rootTaskId := js "t"
  nodes := []
  edges
  branches := [js "main", js "feature"]
  activeBranch := js "main"
  createdAt := js "0"
  updatedAt := js "0"

/-- Two edges of different ends and different texts. -/
def apartEdges : List TaskGraphEdge := [arrowEdge "a" "b" "feature", arrowEdge "a" "c" "main"]

/-- Two edges of different ends and the text `a->b->c:dependency`. -/
def arrowEdges : List TaskGraphEdge := [arrowEdge "a->b" "c" "feature", arrowEdge "a" "b->c" "main"]

theorem mergeBranch_sound_apart :
    MergeSound (arrowGraph apartEdges) (js "feature") (js "main") .union (js "1") := by
  apply (mergeBranch_sound_iff .union (js "1") (by decide) (by decide) (by decide) (by decide)).mpr
  rw [MergeSafe, if_neg (by decide)]
  have hedges : ∀ edge ∈ apartEdges, edge = arrowEdge "a" "b" "feature" ∨
      edge = arrowEdge "a" "c" "main" := by
    intro edge hedge
    simpa [apartEdges] using hedge
  refine ⟨?_, ?_, ?_⟩
  · intro a ha b hb _ _ _ harrow
    revert harrow
    rcases hedges a ha with rfl | rfl <;> rcases hedges b hb with rfl | rfl <;> decide
  · intro node hnode
    exact absurd hnode List.not_mem_nil
  · intro edge _ _
    refine ⟨by decide, ?_⟩
    intro twin htwin _ _
    rcases hedges twin htwin with rfl | rfl <;> exact List.not_mem_nil

/-- The edge of the source is lost, though no two edges of the graph share their ends. -/
theorem arrow_edge_lost :
    js "feature" ∈ (arrowGraph arrowEdges).branches ∧ js "main" ∈ (arrowGraph arrowEdges).branches ∧
    ((arrowGraph arrowEdges).nodes.map fun node => (node.nodeId, node.branchId)).Nodup ∧
    ((arrowGraph arrowEdges).edges.map fun edge =>
      (edge.sourceNodeId, edge.targetNodeId, edge.type, edge.branchId)).Nodup ∧
    ¬ MergeSound (arrowGraph arrowEdges) (js "feature") (js "main") .keepTarget (js "1") := by
  refine ⟨by decide, by decide, by decide, by decide, ?_⟩
  intro h
  obtain ⟨survivor, hsurvivor⟩ := h.edges.owned_once (arrowEdge "a->b" "c" "feature")
    List.mem_cons_self (Or.inl rfl)
  have hnone : (mergeBranch (arrowGraph arrowEdges) (js "feature") (js "main") .keepTarget
      (js "1")).edges.filter (fun other => other.ends = (arrowEdge "a->b" "c" "feature").ends ∧
        branchOf other = js "main") = [] := by
    decide +kernel
  exact absurd (hnone.symm.trans hsurvivor) (List.cons_ne_nil survivor []).symm

end CodexRouter.Graph
