import CodexRouter.Js.Schema
import CodexRouter.Js.Table

/-!
# Collections of parsed records

Both kernel stores keep their tasks, runs, steps, events and artifacts in the same way: one in a
`Map` from id to record, the other in an array of a document. Creating and patching is one
definition for each, and the array's is the `Map`'s.
-/

open Js

namespace CodexRouter.Store

/-- A `Map` of records that their schema has parsed, each under its own id. -/
structure Collection {α : Type} (schema : Schema α) (id : α → Str) where
  table : Table α id
  valid : ∀ a ∈ table.rows, schema.Valid a

/-- The own members that `{ ...value }` copies; an index of an array or a text is no member that
a schema reads. -/
def ownMembers : Json → List (Str × Json)
  | .obj m => m
  | _ => []

def isTruthy : Json → Bool
  | .null => false
  | .bool b => b
  | .num n => n.1 ≠ js "0"
  | .str s => s ≠ []
  | .arr _ => true
  | .obj _ => true

variable {α : Type} (schema : Schema α) (id : α → Str) (kind : String)

def duplicateId (a : α) : Thrown :=
  .error (js "duplicate_" ++ js kind ++ js "_id:" ++ id a)

/-- `patch[idKey] && patch[idKey] !== key`. -/
def checkPatchId (idKey : String) (key : Str) (patch : Json) : Result Unit :=
  if patch = .null then fail "Cannot read properties of null"
  else
    match Json.get? (ownMembers patch) idKey with
    | none => .ok ()
    | some value =>
      if isTruthy value && value ≠ .str key then fail (js kind ++ js "_id_update_forbidden")
      else .ok ()

/-- `{ ...existing, ...patch, [idKey]: key }`: a lookup finds the last copy, so the record parsed
from it has the id `key`. -/
def patched (idKey : String) (existing : α) (key : Str) (patch : Json) : Json :=
  .obj ((js idKey, .str key) :: ownMembers patch ++ ownMembers (schema.write existing))

/-- The record's own members behind those of the patch. -/
lemma read_patched {f : Fields α} {h : f.keys.Nodup} {idKey : String} {existing a : α} {key : Str}
    {m : List (Str × Json)} :
    (Schema.object f h).read (patched (.object f h) idKey existing key (.obj m)) = .ok a ↔
      f.read (Json.before ((js idKey, .str key) :: m) (Json.get? (f.write existing))) = .ok a := by
  rw [patched, Schema.read_object, Json.get?_append]
  rfl

/-! ## Arrays -/

def createIn (rows : List α) (input : Json) : Result (α × List α) := do
  let parsed ← schema.parse input
  if id parsed ∈ rows.map id then .error (duplicateId id kind parsed)
  else return (parsed, rows ++ [parsed])

def updateIn (idKey : String) (rows : List α) (key : Str) (patch : Json) : Result (α × List α) :=
  match findRow id key rows with
  | none => fail (js kind ++ js "_not_found:" ++ key)
  | some existing => do
    checkPatchId kind idKey key patch
    let updated ← schema.parse (patched schema idKey existing key patch)
    return (updated, replaceRow id updated rows)

/-! ## Maps -/

namespace Collection

variable {schema id}

def empty : Collection schema id := ⟨Table.empty, by simp [Table.empty]⟩

def get? (c : Collection schema id) (key : Str) : Option α := c.table.get? key

/-- `map.set(id(a), a)` of a parsed record. -/
def put (c : Collection schema id) (a : α) (h : schema.Valid a) : Collection schema id where
  table := c.table.put a
  valid := by
    intro b hb
    rcases Table.mem_put.mp hb with rfl | ⟨hb, -⟩
    · exact h
    · exact c.valid b hb

def create (c : Collection schema id) (input : Json) : Result (α × Collection schema id) := do
  let parsed ← schema.checked input
  if c.table.has (id parsed.1) then .error (duplicateId id kind parsed.1)
  else return (parsed.1, c.put parsed.1 parsed.2)

def update (idKey : String) (c : Collection schema id) (key : Str) (patch : Json) :
    Result (α × Collection schema id) :=
  match c.get? key with
  | none => fail (js kind ++ js "_not_found:" ++ key)
  | some existing => do
    checkPatchId kind idKey key patch
    let updated ← schema.checked (patched schema idKey existing key patch)
    return (updated.1, c.put updated.1 updated.2)

variable {kind} {c c' : Collection schema id}

lemma get?_put (c : Collection schema id) (a : α) (h : schema.Valid a) (key : Str) :
    (c.put a h).get? key = if id a = key then some a else c.get? key :=
  Table.get?_put c.table a key

lemma get?_of_put_eq {a : α} (h : schema.Valid a) (hput : c.put a h = c) :
    c.get? (id a) = some a := by
  have hget := get?_put c a h (id a)
  rw [hput, if_pos rfl] at hget
  exact hget

lemma create_eq_ok {input : Json} {a : α} :
    c.create kind input = .ok (a, c') ↔
      ∃ h : schema.read input = .ok a, c.get? (id a) = none ∧ c' = c.put a (schema.valid_of_read h) := by
  unfold create
  cases hinput : schema.checked input with
  | error e =>
    have hread : ∀ b, schema.read input ≠ .ok b := by
      intro b hb
      rw [Schema.checked_of_read hb] at hinput
      cases hinput
    simp [hread]
  | ok parsed =>
    have hread := Schema.read_of_checked hinput
    simp only [ok_bind, Table.has_iff, get?, Table.get?_eq_none, hread, Except.ok.injEq]
    split
    · rename_i hmem
      constructor
      · intro h
        cases h
      · intro ⟨h, hnew, _⟩
        exact absurd (h ▸ hmem) hnew
    · rename_i hmem
      constructor
      · intro h
        cases h
        exact ⟨rfl, hmem, rfl⟩
      · intro ⟨h, _, hput⟩
        subst h hput
        rfl

lemma update_eq_ok {idKey : String} {key : Str} {patch : Json} {a : α} :
    c.update kind idKey key patch = .ok (a, c') ↔
      ∃ existing, c.get? key = some existing ∧ checkPatchId kind idKey key patch = .ok () ∧
        ∃ h : schema.read (patched schema idKey existing key patch) = .ok a,
          c' = c.put a (schema.valid_of_read h) := by
  unfold update
  cases c.get? key with
  | none => simp [fail]
  | some existing =>
    simp only [Option.some.injEq, exists_eq_left']
    cases checkPatchId kind idKey key patch with
    | error e => simp [bind, Except.bind]
    | ok u =>
      simp only [ok_bind, true_and]
      cases hupdated : schema.checked (patched schema idKey existing key patch) with
      | error e =>
        have hread : ∀ b, schema.read (patched schema idKey existing key patch) ≠ .ok b := by
          intro b hb
          rw [Schema.checked_of_read hb] at hupdated
          cases hupdated
        simp [hread, bind, Except.bind]
      | ok updated =>
        have hread := Schema.read_of_checked hupdated
        simp only [ok_bind, hread, Except.ok.injEq]
        constructor
        · intro h
          cases h
          exact ⟨rfl, rfl⟩
        · rintro ⟨rfl, rfl⟩
          rfl

/-- The array's creation is the `Map`'s. -/
theorem create_rows (input : Json) :
    createIn schema id kind c.table.rows input =
      (fun r => (r.1, r.2.table.rows)) <$> c.create kind input := by
  unfold createIn create
  rw [Schema.parse_eq_checked]
  cases schema.checked input with
  | error e => rfl
  | ok parsed =>
    change (if id parsed.1 ∈ c.table.rows.map id then _ else _) = _
    simp only [ok_bind, Table.has_iff]
    split
    · rfl
    · rename_i h
      change _ = Except.ok (parsed.1, (c.table.put parsed.1).rows)
      rw [Table.rows_put_of_not_mem h]
      rfl

/-- The array's update is the `Map`'s, as long as the record keeps its id. -/
theorem update_rows {idKey : String} {key : Str} {patch : Json}
    (hid : ∀ existing updated, schema.read (patched schema idKey existing key patch) = .ok updated →
      id updated = key) :
    updateIn schema id kind idKey c.table.rows key patch =
      (fun r => (r.1, r.2.table.rows)) <$> c.update kind idKey key patch := by
  unfold updateIn update
  change (match c.get? key with | none => _ | some existing => _) = _
  cases hget : c.get? key with
  | none => rfl
  | some existing =>
    dsimp only
    cases checkPatchId kind idKey key patch with
    | error e => rfl
    | ok u =>
      simp only [ok_bind]
      rw [Schema.parse_eq_checked]
      cases hupdated : schema.checked (patched schema idKey existing key patch) with
      | error e => rfl
      | ok updated =>
        have hmem : id updated.1 ∈ c.table.rows.map id := by
          rw [hid existing updated.1 (Schema.read_of_checked hupdated)]
          obtain ⟨hrow, hkey⟩ := Table.get?_eq_some.mp hget
          exact hkey ▸ List.mem_map_of_mem hrow
        change _ = Except.ok (updated.1, (c.table.put updated.1).rows)
        rw [Table.rows_put_of_mem hmem]
        rfl

end Collection

end CodexRouter.Store
