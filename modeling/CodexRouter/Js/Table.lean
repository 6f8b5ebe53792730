import CodexRouter.Js.Text

/-!
# Rows with ids

A `Map` that keeps every value under the value's own id is the list of its values, no two with
one id. Replacing a row keeps its place, a new row goes last.
-/

namespace Js

variable {ν κ : Type} [DecidableEq κ]

/-- The rows with the first one of `row`'s id replaced. -/
def replaceRow (id : ν → κ) (row : ν) : List ν → List ν
  | [] => []
  | r :: rows => if id r = id row then row :: rows else r :: replaceRow id row rows

/-- The first row with an id. -/
def findRow (id : ν → κ) (k : κ) (rows : List ν) : Option ν := rows.find? fun r => id r = k

@[simp] lemma map_replaceRow (id : ν → κ) (row : ν) (rows : List ν) :
    (replaceRow id row rows).map id = rows.map id := by
  induction rows with
  | nil => rfl
  | cons r rows ih =>
    unfold replaceRow
    split
    · rename_i h
      simp [h]
    · simp [ih]

lemma findRow_eq_some {id : ν → κ} {k : κ} {rows : List ν} {row : ν}
    (h : findRow id k rows = some row) : row ∈ rows ∧ id row = k :=
  ⟨List.mem_of_find?_eq_some h, by simpa using List.find?_some h⟩

lemma findRow_eq_none {id : ν → κ} {k : κ} {rows : List ν} :
    findRow id k rows = none ↔ k ∉ rows.map id := by
  simp [findRow]

/-- Without duplicates a row is found under its own id. -/
lemma findRow_of_mem {id : ν → κ} {rows : List ν} (h : (rows.map id).Nodup) {row : ν}
    (hrow : row ∈ rows) : findRow id (id row) rows = some row := by
  induction rows with
  | nil => cases hrow
  | cons r rows ih =>
    rw [List.map_cons, List.nodup_cons] at h
    unfold findRow
    rcases List.mem_cons.mp hrow with rfl | hrow
    · simp
    · have hne : id r ≠ id row := fun he => h.1 (he ▸ List.mem_map_of_mem hrow)
      rw [List.find?_cons_of_neg (by simpa using hne)]
      exact ih h.2 hrow

lemma findRow_append {id : ν → κ} {k : κ} {rows : List ν} {row : ν} :
    findRow id k (rows ++ [row]) =
      (findRow id k rows).or (if id row = k then some row else none) := by
  by_cases h : id row = k <;> simp [findRow, h]

lemma findRow_cons {id : ν → κ} {k : κ} {r : ν} {rows : List ν} :
    findRow id k (r :: rows) = if id r = k then some r else findRow id k rows := by
  by_cases h : id r = k <;> simp [findRow, h]

lemma findRow_replaceRow {id : ν → κ} {k : κ} {rows : List ν} {row : ν} :
    findRow id k (replaceRow id row rows) =
      if id row = k then (findRow id k rows).map fun _ => row else findRow id k rows := by
  induction rows with
  | nil => simp [replaceRow, findRow]
  | cons r rows ih =>
    unfold replaceRow
    split
    · rename_i hr
      by_cases hk : id row = k
      · simp [findRow_cons, hr, hk]
      · simp [findRow_cons, hr, hk]
    · rename_i hr
      rw [findRow_cons, findRow_cons, ih]
      by_cases hk : id row = k
      · have hrk : id r ≠ k := hk ▸ hr
        simp [hk, hrk]
      · simp [hk]

/-- Without duplicates the replaced row is the only one of its id. -/
lemma replaceRow_eq_map {id : ν → κ} {rows : List ν} {row : ν} (h : (rows.map id).Nodup) :
    replaceRow id row rows = rows.map fun r => if id r = id row then row else r := by
  induction rows with
  | nil => rfl
  | cons r rows ih =>
    rw [List.map_cons, List.nodup_cons] at h
    rw [replaceRow, List.map_cons]
    split
    · rename_i hr
      have hrest : ∀ q ∈ rows, (if id q = id row then row else q) = q := by
        intro q hq
        refine if_neg fun he : id q = id row => h.1 ?_
        rw [hr, ← he]
        exact List.mem_map_of_mem hq
      rw [List.map_congr_left hrest, List.map_id']
    · rw [ih h.2]

/-- The replaced row, or one of another id. -/
lemma mem_replaceRow {id : ν → κ} {rows : List ν} {row r : ν} (h : (rows.map id).Nodup)
    (hr : r ∈ replaceRow id row rows) : r = row ∨ (r ∈ rows ∧ id r ≠ id row) := by
  rw [replaceRow_eq_map h] at hr
  obtain ⟨q, hq, rfl⟩ := List.mem_map.mp hr
  by_cases hid : id q = id row
  · exact Or.inl (if_pos hid)
  · rw [if_neg hid]
    exact Or.inr ⟨hq, hid⟩

/-- A count changes by the old row and the new one. -/
lemma countP_replaceRow {id : ν → κ} {rows : List ν} {old : ν} (p : ν → Bool) (row : ν)
    (h : (rows.map id).Nodup) (hold : old ∈ rows) (hid : id old = id row) :
    (replaceRow id row rows).countP p + (p old).toNat = rows.countP p + (p row).toNat := by
  induction rows with
  | nil => cases hold
  | cons r rows ih =>
    rw [List.map_cons, List.nodup_cons] at h
    unfold replaceRow
    rcases List.mem_cons.mp hold with rfl | hold
    · rw [if_pos hid, List.countP_cons, List.countP_cons]
      cases p old <;> cases p row <;> simp
    · have hne : id r ≠ id row := by
        intro he
        exact h.1 (he ▸ hid ▸ List.mem_map_of_mem hold)
      have hrest := ih h.2 hold
      rw [if_neg hne, List.countP_cons, List.countP_cons]
      omega

/-- Rows under another form of the same ids. -/
lemma map_replaceRow_map {μ : Type} (id : ν → κ) (id' : μ → κ) (f : ν → μ)
    (hf : ∀ r, id' (f r) = id r) (row : ν) (rows : List ν) :
    (replaceRow id row rows).map f = replaceRow id' (f row) (rows.map f) := by
  induction rows with
  | nil => rfl
  | cons r rows ih =>
    rw [List.map_cons]
    unfold replaceRow
    rw [hf, hf]
    split
    · rfl
    · rw [List.map_cons, ih]

lemma findRow_map {μ : Type} (id : ν → κ) (id' : μ → κ) (f : ν → μ) (hf : ∀ r, id' (f r) = id r)
    (k : κ) (rows : List ν) : findRow id' k (rows.map f) = (findRow id k rows).map f := by
  induction rows with
  | nil => rfl
  | cons r rows ih =>
    rw [List.map_cons, findRow_cons, findRow_cons, hf, ih]
    split <;> rfl

/-- `map.set(id(row), row)` on the list of a `Map`'s values. -/
def setRow (id : ν → κ) (row : ν) (rows : List ν) : List ν :=
  if id row ∈ rows.map id then replaceRow id row rows else rows ++ [row]

/-- The values that an earlier one equals. -/
def repeatedFrom (seen : List κ) : List κ → List κ
  | [] => []
  | v :: values =>
    if v ∈ seen then v :: repeatedFrom seen values else repeatedFrom (v :: seen) values

/-- `findDuplicates(values)`, each duplicate once. -/
def findDuplicates (values : List κ) : List κ := distinct (repeatedFrom [] values)

lemma repeatedFrom_eq_nil {seen values : List κ} :
    repeatedFrom seen values = [] ↔ values.Nodup ∧ ∀ v ∈ values, v ∉ seen := by
  induction values generalizing seen with
  | nil => simp [repeatedFrom]
  | cons v values ih =>
    rw [repeatedFrom, List.nodup_cons, List.forall_mem_cons]
    split
    · simp [*]
    · rename_i hv
      rw [ih]
      constructor
      · intro ⟨hnodup, hall⟩
        exact ⟨⟨fun h => hall v h List.mem_cons_self, hnodup⟩, hv,
          fun w hw h => hall w hw (List.mem_cons_of_mem v h)⟩
      · intro ⟨⟨hnot, hnodup⟩, _, hall⟩
        refine ⟨hnodup, fun w hw h => ?_⟩
        rcases List.mem_cons.mp h with rfl | h
        · exact hnot hw
        · exact hall w hw h

lemma findDuplicates_eq_nil {values : List κ} : findDuplicates values = [] ↔ values.Nodup := by
  rw [findDuplicates, distinct_eq_nil, repeatedFrom_eq_nil]
  simp

/-- A `Map` from the ids of its values. -/
structure Table (ν : Type) (id : ν → κ) where
  rows : List ν
  nodup : (rows.map id).Nodup

namespace Table

variable {id : ν → κ}

def empty : Table ν id := ⟨[], List.nodup_nil⟩

def get? (t : Table ν id) (k : κ) : Option ν := findRow id k t.rows

def has (t : Table ν id) (k : κ) : Bool := (t.get? k).isSome

/-- `map.set(id(row), row)`. -/
def put (t : Table ν id) (row : ν) : Table ν id :=
  if h : id row ∈ t.rows.map id then ⟨replaceRow id row t.rows, by simpa using t.nodup⟩
  else
    ⟨t.rows ++ [row], by
      rw [List.map_append, List.nodup_append]
      refine ⟨t.nodup, List.nodup_singleton _, ?_⟩
      intro k hk j hj hkj
      rw [List.map_singleton, List.mem_singleton] at hj
      exact h (hj ▸ hkj ▸ hk)⟩

@[simp] lemma get?_empty (k : κ) : (empty : Table ν id).get? k = none := rfl

lemma get?_eq_some {t : Table ν id} {k : κ} {row : ν} :
    t.get? k = some row ↔ row ∈ t.rows ∧ id row = k := by
  constructor
  · exact findRow_eq_some
  · rintro ⟨hrow, rfl⟩
    exact findRow_of_mem t.nodup hrow

lemma get?_eq_none {t : Table ν id} {k : κ} : t.get? k = none ↔ k ∉ t.rows.map id :=
  findRow_eq_none

lemma has_iff {t : Table ν id} {k : κ} : t.has k = true ↔ k ∈ t.rows.map id := by
  rw [has, Option.isSome_iff_ne_none, ne_eq, get?_eq_none, not_not]

lemma rows_put_of_mem {t : Table ν id} {row : ν} (h : id row ∈ t.rows.map id) :
    (t.put row).rows = replaceRow id row t.rows := by
  rw [put, dif_pos h]

lemma rows_put_of_not_mem {t : Table ν id} {row : ν} (h : id row ∉ t.rows.map id) :
    (t.put row).rows = t.rows ++ [row] := by
  rw [put, dif_neg h]

theorem get?_put (t : Table ν id) (row : ν) (k : κ) :
    (t.put row).get? k = if id row = k then some row else t.get? k := by
  by_cases h : id row ∈ t.rows.map id
  · unfold get?
    rw [rows_put_of_mem h, findRow_replaceRow]
    split
    · rename_i hk
      cases hfind : findRow id k t.rows with
      | none => exact absurd (hk ▸ h) (findRow_eq_none.mp hfind)
      | some r => rfl
    · rfl
  · unfold get?
    rw [rows_put_of_not_mem h, findRow_append]
    split
    · rename_i hk
      rw [findRow_eq_none.mpr (hk ▸ h)]
      rfl
    · simp

lemma mem_put {t : Table ν id} {row r : ν} :
    r ∈ (t.put row).rows ↔ r = row ∨ (r ∈ t.rows ∧ id r ≠ id row) := by
  have hget : r ∈ (t.put row).rows ↔ (t.put row).get? (id r) = some r := by
    rw [get?_eq_some]
    simp
  rw [hget, get?_put]
  by_cases h : id row = id r
  · simp [h, eq_comm]
  · rw [if_neg h, get?_eq_some]
    have hne : r ≠ row := fun he => h (he ▸ rfl)
    simp [hne, Ne.symm h]

end Table

end Js
