import Mathlib.Data.List.Nodup

/-!
# Maps in insertion order

The `Map` of JavaScript: setting a present key keeps its place, a new key goes last.
-/

namespace Js

structure Map (κ ν : Type) where
  entries : List (κ × ν)
  nodup : (entries.map Prod.fst).Nodup

namespace Map

variable {κ ν : Type}

def empty : Map κ ν := ⟨[], List.nodup_nil⟩

def values (m : Map κ ν) : List ν := m.entries.map Prod.snd

/-- Every value replaced, each under its key. -/
def mapValues {ν' : Type} (m : Map κ ν) (f : ν → ν') : Map κ ν' :=
  ⟨m.entries.map fun e => (e.1, f e.2), by simpa [Function.comp_def] using m.nodup⟩

variable [DecidableEq κ]

def find (k : κ) : List (κ × ν) → Option ν
  | [] => none
  | e :: l => if e.1 = k then some e.2 else find k l

def get? (m : Map κ ν) (k : κ) : Option ν := find k m.entries

def has (m : Map κ ν) (k : κ) : Bool := (m.get? k).isSome

/-- The entries with `k` set to `v`. -/
def assign (k : κ) (v : ν) : List (κ × ν) → List (κ × ν)
  | [] => [(k, v)]
  | e :: l => if e.1 = k then (k, v) :: l else e :: assign k v l

lemma mem_keys_assign {k j : κ} {v : ν} {l : List (κ × ν)} :
    j ∈ (assign k v l).map Prod.fst ↔ j = k ∨ j ∈ l.map Prod.fst := by
  induction l with
  | nil => simp [assign]
  | cons e l ih =>
    by_cases h : e.1 = k
    · simp [assign, h]
    · rw [assign, if_neg h, List.map_cons, List.mem_cons, ih, List.map_cons, List.mem_cons]
      tauto

lemma mem_assign {k : κ} {v : ν} {l : List (κ × ν)} {entry : κ × ν} (h : entry ∈ assign k v l) :
    entry = (k, v) ∨ entry ∈ l := by
  induction l with
  | nil => exact .inl (List.mem_singleton.mp h)
  | cons head l ih =>
    unfold assign at h
    split at h
    · exact (List.mem_cons.mp h).imp_right (List.mem_cons_of_mem _)
    · rcases List.mem_cons.mp h with rfl | h
      · exact .inr List.mem_cons_self
      · exact (ih h).imp_right (List.mem_cons_of_mem _)

lemma nodup_assign {k : κ} {v : ν} {l : List (κ × ν)} (h : (l.map Prod.fst).Nodup) :
    ((assign k v l).map Prod.fst).Nodup := by
  induction l with
  | nil => simp [assign]
  | cons e l ih =>
    rw [List.map_cons, List.nodup_cons] at h
    by_cases he : e.1 = k
    · rw [assign, if_pos he, List.map_cons, List.nodup_cons, ← he]
      exact h
    · rw [assign, if_neg he, List.map_cons, List.nodup_cons, mem_keys_assign, not_or]
      exact ⟨⟨he, h.1⟩, ih h.2⟩

def set (m : Map κ ν) (k : κ) (v : ν) : Map κ ν := ⟨assign k v m.entries, nodup_assign m.nodup⟩

/-- `map.delete(k)`, without its answer. -/
def delete (m : Map κ ν) (k : κ) : Map κ ν :=
  ⟨m.entries.filter fun e => e.1 ≠ k, m.nodup.sublist (List.filter_sublist.map Prod.fst)⟩

/-- `k` with its value changed in place; nothing happens when it is absent. -/
def modify (m : Map κ ν) (k : κ) (f : ν → ν) : Map κ ν :=
  match m.get? k with
  | none => m
  | some v => m.set k (f v)

@[simp] lemma get?_empty (k : κ) : (empty : Map κ ν).get? k = none := rfl

lemma find_assign (k j : κ) (v : ν) (l : List (κ × ν)) :
    find j (assign k v l) = if j = k then some v else find j l := by
  induction l with
  | nil => simp [assign, find, eq_comm]
  | cons e l ih =>
    by_cases he : e.1 = k
    · subst he
      by_cases h : j = e.1
      · simp [assign, find, h]
      · simp [assign, find, h, Ne.symm h]
    · by_cases h : e.1 = j
      · subst h
        simp [assign, find, he]
      · simp [assign, find, he, h, ih]

lemma get?_set (m : Map κ ν) (k j : κ) (v : ν) :
    (m.set k v).get? j = if j = k then some v else m.get? j := find_assign k j v m.entries

@[simp] lemma get?_set_self (m : Map κ ν) (k : κ) (v : ν) : (m.set k v).get? k = some v := by
  rw [get?_set, if_pos rfl]

@[simp] lemma get?_set_of_ne (m : Map κ ν) {k j : κ} (h : j ≠ k) (v : ν) :
    (m.set k v).get? j = m.get? j := by
  rw [get?_set, if_neg h]

lemma find_filter_ne (k j : κ) (l : List (κ × ν)) :
    find j (l.filter fun e => e.1 ≠ k) = if j = k then none else find j l := by
  induction l with
  | nil => simp [find]
  | cons e l ih =>
    by_cases he : e.1 = k
    · rw [List.filter_cons_of_neg (by simpa using he), ih]
      by_cases hj : j = k
      · rw [if_pos hj, if_pos hj]
      · rw [if_neg hj, if_neg hj, find, if_neg fun h => hj (h.symm.trans he)]
    · rw [List.filter_cons_of_pos (by simpa using he), find, find, ih]
      by_cases hj : e.1 = j
      · rw [if_pos hj, if_pos hj, if_neg (fun h => he (hj.trans h))]
      · rw [if_neg hj, if_neg hj]

lemma get?_delete (m : Map κ ν) (k j : κ) :
    (m.delete k).get? j = if j = k then none else m.get? j := find_filter_ne k j m.entries

lemma get?_modify (m : Map κ ν) (k j : κ) (f : ν → ν) :
    (m.modify k f).get? j = if j = k then (m.get? k).map f else m.get? j := by
  unfold modify
  split
  · rename_i hk
    by_cases h : j = k <;> simp [h, hk]
  · rename_i v hk
    rw [get?_set, hk]
    rfl

@[simp] lemma get?_modify_self (m : Map κ ν) (k : κ) (f : ν → ν) :
    (m.modify k f).get? k = (m.get? k).map f := by
  rw [get?_modify, if_pos rfl]

@[simp] lemma get?_modify_of_ne (m : Map κ ν) {k j : κ} (h : j ≠ k) (f : ν → ν) :
    (m.modify k f).get? j = m.get? j := by
  rw [get?_modify, if_neg h]

lemma find_map {ν' : Type} (f : ν → ν') (k : κ) (l : List (κ × ν)) :
    find k (l.map fun e => (e.1, f e.2)) = (find k l).map f := by
  induction l with
  | nil => rfl
  | cons e l ih => by_cases h : e.1 = k <;> simp [find, h, ih]

@[simp] lemma get?_mapValues {ν' : Type} (m : Map κ ν) (f : ν → ν') (k : κ) :
    (m.mapValues f).get? k = (m.get? k).map f := find_map f k m.entries

lemma find_eq_some_iff {k : κ} {v : ν} {l : List (κ × ν)} (hl : (l.map Prod.fst).Nodup) :
    find k l = some v ↔ (k, v) ∈ l := by
  induction l with
  | nil => simp [find]
  | cons e l ih =>
    rw [List.map_cons, List.nodup_cons] at hl
    by_cases h : e.1 = k
    · have hne : (k, v) ∉ l := fun hm => hl.1 (h ▸ List.mem_map_of_mem (f := Prod.fst) hm)
      simp [find, h, hne, Prod.ext_iff, eq_comm]
    · simp [find, h, ih hl.2, Prod.ext_iff, Ne.symm h]

lemma get?_eq_some_iff {m : Map κ ν} {k : κ} {v : ν} : m.get? k = some v ↔ (k, v) ∈ m.entries :=
  find_eq_some_iff m.nodup

lemma mem_values {m : Map κ ν} {v : ν} : v ∈ m.values ↔ ∃ k, m.get? k = some v := by
  simp [values, get?_eq_some_iff]

/-! ## Many keys -/

/-- `for (const [key, value] of pairs) { map.set(key, value) }`. -/
def setAll (m : Map κ ν) (pairs : List (κ × ν)) : Map κ ν :=
  pairs.foldl (fun m pair => m.set pair.1 pair.2) m

lemma setAll_cons (m : Map κ ν) (pair : κ × ν) (pairs : List (κ × ν)) :
    m.setAll (pair :: pairs) = (m.set pair.1 pair.2).setAll pairs := rfl

lemma assign_of_notMem {k : κ} {v : ν} {l : List (κ × ν)} (h : k ∉ l.map Prod.fst) :
    assign k v l = l ++ [(k, v)] := by
  induction l with
  | nil => rfl
  | cons e l ih =>
    rw [List.map_cons, List.mem_cons, not_or] at h
    rw [assign, if_neg fun he => h.1 he.symm, ih h.2]
    rfl

/-- New keys go last, in order. -/
lemma entries_setAll {m : Map κ ν} {pairs : List (κ × ν)} (hpairs : (pairs.map Prod.fst).Nodup)
    (h : ∀ k ∈ pairs.map Prod.fst, k ∉ m.entries.map Prod.fst) :
    (m.setAll pairs).entries = m.entries ++ pairs := by
  induction pairs generalizing m with
  | nil => exact (List.append_nil _).symm
  | cons pair pairs ih =>
    rw [List.map_cons, List.nodup_cons] at hpairs
    rw [List.map_cons, List.forall_mem_cons] at h
    have hset : (m.set pair.1 pair.2).entries = m.entries ++ [pair] := assign_of_notMem h.1
    rw [setAll_cons, ih hpairs.2, hset, List.append_assoc]
    · rfl
    · intro k hk
      rw [hset, List.map_append, List.mem_append, not_or]
      refine ⟨h.2 k hk, fun hmem => ?_⟩
      rw [List.mem_singleton.mp hmem] at hk
      exact hpairs.1 hk

omit [DecidableEq κ] in
lemma ext_entries {m m' : Map κ ν} (h : m.entries = m'.entries) : m = m' := by
  cases m
  cases m'
  cases h
  rfl

/-- A map is the one made of its entries. -/
lemma setAll_entries (m : Map κ ν) : (empty : Map κ ν).setAll m.entries = m :=
  ext_entries (entries_setAll m.nodup fun _ _ => List.not_mem_nil)

lemma mem_of_get?_setAll {m : Map κ ν} {pairs : List (κ × ν)} {k : κ} {v : ν}
    (h : (m.setAll pairs).get? k = some v) : (k, v) ∈ pairs ∨ m.get? k = some v := by
  induction pairs generalizing m with
  | nil => exact .inr h
  | cons pair pairs ih =>
    rw [setAll_cons] at h
    rcases ih h with hmem | hget
    · exact .inl (List.mem_cons_of_mem pair hmem)
    · rw [get?_set] at hget
      split_ifs at hget with hkey
      · obtain rfl := Option.some.inj hget
        rw [hkey]
        exact .inl List.mem_cons_self
      · exact .inr hget

lemma get?_setAll_isSome {m : Map κ ν} {pairs : List (κ × ν)} {k : κ}
    (h : k ∈ pairs.map Prod.fst ∨ (m.get? k).isSome) : ((m.setAll pairs).get? k).isSome := by
  induction pairs generalizing m with
  | nil =>
    rcases h with h | h
    · exact nomatch h
    · exact h
  | cons pair pairs ih =>
    rw [setAll_cons]
    apply ih
    rw [get?_set]
    rcases h with h | h
    · rw [List.map_cons, List.mem_cons] at h
      rcases h with rfl | h
      · exact .inr (by simp)
      · exact .inl h
    · right
      split_ifs
      · rfl
      · exact h

end Map

end Js
