import CodexRouter.Graph.Core
import Mathlib.Data.List.Perm.Basic

/-!
# Groups

What `groupByKey` makes of a list: one group for each key, with the items of that key in their
order. A list that lies in its groups already is grouped again as it lies.
-/

open Js

namespace CodexRouter.Graph

variable {τ : Type}

/-- The groups of a list by a key. -/
structure Grouped (getKey : τ → Str) (items : List τ) (groups : List (Str × List τ)) : Prop where
  nodup : (groups.map Prod.fst).Nodup
  group_eq : ∀ e ∈ groups, e.2 = items.filter fun item => getKey item = e.1
  covered : ∀ item ∈ items, getKey item ∈ groups.map Prod.fst
  inhabited : ∀ e ∈ groups, e.2 ≠ []

/-! ## One item -/

lemma keys_pushItem (key : Str) (item : τ) (groups : List (Str × List τ)) :
    (pushItem key item groups).map Prod.fst =
      if key ∈ groups.map Prod.fst then groups.map Prod.fst else groups.map Prod.fst ++ [key] := by
  induction groups with
  | nil => rfl
  | cons e groups ih =>
    unfold pushItem
    by_cases hkey : e.1 = key
    · simp [hkey]
    · rw [if_neg hkey, List.map_cons, ih]
      have hne : key ≠ e.1 := Ne.symm hkey
      simp only [List.map_cons, List.mem_cons, hne, false_or]
      split_ifs
      · rfl
      · rfl

/-- A group after the push is another key's group, the key's group with the item at its end, or a
new group of the item. -/
lemma mem_pushItem {key : Str} {item : τ} {groups : List (Str × List τ)} {e : Str × List τ}
    (hnodup : (groups.map Prod.fst).Nodup) (he : e ∈ pushItem key item groups) :
    (e ∈ groups ∧ e.1 ≠ key) ∨ (∃ group, (key, group) ∈ groups ∧ e = (key, group ++ [item])) ∨
      (key ∉ groups.map Prod.fst ∧ e = (key, [item])) := by
  induction groups with
  | nil => exact Or.inr (Or.inr ⟨List.not_mem_nil, List.mem_singleton.mp he⟩)
  | cons first groups ih =>
    rw [List.map_cons, List.nodup_cons] at hnodup
    unfold pushItem at he
    by_cases hkey : first.1 = key
    · rw [if_pos hkey, List.mem_cons] at he
      rcases he with he | he
      · right; left
        use first.2
        constructor
        · rw [← hkey]
          exact List.mem_cons_self
        · rw [he, hkey]
      · left
        constructor
        · exact List.mem_cons_of_mem _ he
        · intro hsame
          apply hnodup.1
          rw [hkey, ← hsame]
          exact List.mem_map_of_mem he
    · rw [if_neg hkey, List.mem_cons] at he
      rcases he with he | he
      · left
        rw [he]
        exact ⟨List.mem_cons_self, hkey⟩
      · rcases ih hnodup.2 he with ⟨hmem, hne⟩ | ⟨group, hmem, heq⟩ | ⟨habsent, heq⟩
        · exact Or.inl ⟨List.mem_cons_of_mem _ hmem, hne⟩
        · exact Or.inr (Or.inl ⟨group, List.mem_cons_of_mem _ hmem, heq⟩)
        · right; right
          refine ⟨?_, heq⟩
          rw [List.map_cons, List.mem_cons, not_or]
          exact ⟨Ne.symm hkey, habsent⟩

/-- Pushing one more item keeps the groups. -/
lemma Grouped.push {getKey : τ → Str} {items : List τ} {groups : List (Str × List τ)}
    (h : Grouped getKey items groups) (item : τ) :
    Grouped getKey (items ++ [item]) (pushItem (getKey item) item groups) where
  nodup := by
    rw [keys_pushItem]
    split_ifs with hkey
    · exact h.nodup
    · rw [← List.concat_eq_append]
      exact h.nodup.concat hkey
  group_eq := by
    intro e he
    rw [List.filter_append]
    rcases mem_pushItem h.nodup he with ⟨hmem, hne⟩ | ⟨group, hmem, rfl⟩ | ⟨habsent, rfl⟩
    · rw [h.group_eq e hmem, List.filter_singleton, decide_eq_false (Ne.symm hne)]
      simp
    · have hgroup := h.group_eq _ hmem
      simp only at hgroup ⊢
      rw [hgroup, List.filter_singleton, decide_eq_true rfl]
      rfl
    · have hnone : items.filter (fun other => getKey other = getKey item) = [] := by
        rw [List.filter_eq_nil_iff]
        intro other hother hsame
        apply habsent
        rw [← of_decide_eq_true hsame]
        exact h.covered other hother
      simp [hnone]
  covered := by
    intro other hother
    rw [keys_pushItem]
    rw [List.mem_append, List.mem_singleton] at hother
    split_ifs with hkey
    · rcases hother with hother | rfl
      · exact h.covered other hother
      · exact hkey
    · rw [List.mem_append, List.mem_singleton]
      rcases hother with hother | rfl
      · exact Or.inl (h.covered other hother)
      · exact Or.inr rfl
  inhabited := by
    intro e he
    rcases mem_pushItem h.nodup he with ⟨hmem, -⟩ | ⟨group, -, rfl⟩ | ⟨-, rfl⟩
    · exact h.inhabited e hmem
    · simp
    · simp

/-! ## The whole list -/

theorem grouped_groupByKey (items : List τ) (getKey : τ → Str) :
    Grouped getKey items (groupByKey items getKey) := by
  induction items using List.reverseRecOn with
  | nil =>
    constructor
    · exact List.nodup_nil
    · intro e he
      exact absurd he List.not_mem_nil
    · intro item hitem
      exact absurd hitem List.not_mem_nil
    · intro e he
      exact absurd he List.not_mem_nil
  | append_singleton items item ih =>
    unfold groupByKey at ih ⊢
    rw [List.foldl_append]
    exact ih.push item

lemma Grouped.key_eq {getKey : τ → Str} {items : List τ} {groups : List (Str × List τ)}
    (h : Grouped getKey items groups) {e : Str × List τ} (he : e ∈ groups) {item : τ}
    (hitem : item ∈ e.2) : item ∈ items ∧ getKey item = e.1 := by
  rw [h.group_eq e he, List.mem_filter, decide_eq_true_eq] at hitem
  exact hitem

/-- Two items of one key are in the same group. -/
lemma Grouped.exists_group {getKey : τ → Str} {items : List τ} {groups : List (Str × List τ)}
    (h : Grouped getKey items groups) {item : τ} (hitem : item ∈ items) :
    ∃ e ∈ groups, e.1 = getKey item ∧
      ∀ other ∈ items, getKey other = getKey item → other ∈ e.2 := by
  obtain ⟨e, he, hkey⟩ := List.mem_map.mp (h.covered item hitem)
  refine ⟨e, he, hkey, ?_⟩
  intro other hother hsame
  rw [h.group_eq e he, List.mem_filter, decide_eq_true_eq]
  exact ⟨hother, hsame.trans hkey.symm⟩

/-- The groups of a part of the list hold that part between them. -/
lemma flatMap_filter_perm {getKey : τ → Str} {keys : List Str} (hnodup : keys.Nodup)
    {items : List τ} (hcovered : ∀ item ∈ items, getKey item ∈ keys) :
    (keys.flatMap fun key => items.filter fun item => getKey item = key).Perm items := by
  induction keys generalizing items with
  | nil =>
    have hnil : items = [] := List.eq_nil_iff_forall_not_mem.mpr fun item hitem =>
      List.not_mem_nil (hcovered item hitem)
    rw [hnil]
    exact List.Perm.refl _
  | cons key keys ih =>
    rw [List.nodup_cons] at hnodup
    rw [List.flatMap_cons]
    apply List.Perm.trans _ (List.filter_append_perm (fun item => getKey item = key) items)
    apply List.Perm.append_left
    have hothers : ∀ item ∈ items.filter (fun item => !decide (getKey item = key)),
        getKey item ∈ keys := by
      intro item hitem
      rw [List.mem_filter, Bool.not_eq_true', decide_eq_false_iff_not] at hitem
      exact (List.mem_cons.mp (hcovered item hitem.1)).resolve_left hitem.2
    apply List.Perm.trans _ (ih hnodup.2 hothers)
    apply List.Perm.of_eq
    apply List.flatMap_congr
    intro other hother
    rw [List.filter_filter]
    apply List.filter_congr
    intro item _
    have hne : other ≠ key := fun hsame => hnodup.1 (hsame ▸ hother)
    by_cases hitem : getKey item = other
    · simp [hitem, hne]
    · simp [hitem]

lemma filterMap_keys_sublist {β : Type} {f : Str × List τ → Option β} {getKey : β → Str}
    {groups : List (Str × List τ)} (h : ∀ e ∈ groups, ∀ b, f e = some b → getKey b = e.1) :
    ((groups.filterMap f).map getKey).Sublist (groups.map Prod.fst) := by
  induction groups with
  | nil => exact List.Sublist.slnil
  | cons e groups ih =>
    have hrest := ih fun other hother => h other (List.mem_cons_of_mem _ hother)
    cases hf : f e with
    | none =>
      rw [List.filterMap_cons_none hf, List.map_cons]
      exact hrest.cons _
    | some b =>
      rw [List.filterMap_cons_some hf, List.map_cons, List.map_cons, h e List.mem_cons_self b hf]
      exact hrest.cons_cons _

/-! ## A list in its groups -/

lemma pushItem_append {key : Str} {groups : List (Str × List τ)}
    (habsent : key ∉ groups.map Prod.fst) (item : τ) (rest : List (Str × List τ)) :
    pushItem key item (groups ++ rest) = groups ++ pushItem key item rest := by
  induction groups with
  | nil => rfl
  | cons e groups ih =>
    rw [List.map_cons, List.mem_cons, not_or] at habsent
    rw [List.cons_append, pushItem, if_neg (Ne.symm habsent.1), ih habsent.2, List.cons_append]

/-- Items of one key, after the groups of other keys, fill one group. -/
lemma foldl_pushItem {getKey : τ → Str} {key : Str} {groups : List (Str × List τ)}
    (habsent : key ∉ groups.map Prod.fst) (group items : List τ)
    (hkeys : ∀ item ∈ items, getKey item = key) :
    items.foldl (fun groups item => pushItem (getKey item) item groups)
      (groups ++ [(key, group)]) = groups ++ [(key, group ++ items)] := by
  induction items generalizing group with
  | nil => rw [List.foldl_nil, List.append_nil]
  | cons item items ih =>
    have hkey : getKey item = key := hkeys item List.mem_cons_self
    rw [List.foldl_cons, hkey, pushItem_append habsent, pushItem, if_pos rfl,
      ih _ fun other hother => hkeys other (List.mem_cons_of_mem _ hother), List.append_assoc]
    rfl

theorem groupByKey_flatMap {getKey : τ → Str} {groups : List (Str × List τ)}
    (hnodup : (groups.map Prod.fst).Nodup)
    (hkeys : ∀ e ∈ groups, ∀ item ∈ e.2, getKey item = e.1)
    (hinhabited : ∀ e ∈ groups, e.2 ≠ []) :
    groupByKey (groups.flatMap Prod.snd) getKey = groups := by
  induction groups using List.reverseRecOn with
  | nil => rfl
  | append_singleton groups e ih =>
    rw [List.map_append, List.map_singleton, ← List.concat_eq_append,
      List.nodup_concat] at hnodup
    have hlast : e ∈ groups ++ [e] := List.mem_append_right _ (List.mem_singleton_self e)
    have hgroups := ih hnodup.2 (fun other hother => hkeys other (List.mem_append_left _ hother))
      fun other hother => hinhabited other (List.mem_append_left _ hother)
    obtain ⟨key, group⟩ := e
    cases group with
    | nil => exact absurd rfl (hinhabited _ hlast)
    | cons item items =>
      have hitem : getKey item = key := hkeys _ hlast item List.mem_cons_self
      unfold groupByKey at hgroups ⊢
      rw [List.flatMap_append, List.foldl_append, hgroups, List.flatMap_singleton, List.foldl_cons,
        hitem, ← List.append_nil groups, pushItem_append hnodup.1, List.append_nil]
      exact foldl_pushItem hnodup.1 [item] items fun other hother =>
        hkeys _ hlast other (List.mem_cons_of_mem _ hother)

end CodexRouter.Graph
