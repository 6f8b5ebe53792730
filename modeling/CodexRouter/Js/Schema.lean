import CodexRouter.Js.Json
import CodexRouter.Js.Result
import Mathlib.Logic.Equiv.Defs

/-!
# Schemas

A schema reads a value out of a JSON value and writes it back. Whatever it has read it reads
again from what it writes, so a parsed value survives any number of further parses. A
refinement runs on a value without other issues.
-/

namespace Js

/-- A parsed value, or the issues. -/
abbrev Parsed (α : Type) := Except (List Issue) α

namespace Parsed

variable {α β : Type}

/-- Two members of one object; the issues of both are reported. -/
def both : Parsed α → Parsed β → Parsed (α × β)
  | .ok a, .ok b => .ok (a, b)
  | .ok _, .error e => .error e
  | .error e, .ok _ => .error e
  | .error e, .error e' => .error (e ++ e')

/-- The issues of a member, below its key. -/
def below (key : Str) : Parsed α → Parsed α
  | .ok a => .ok a
  | .error e => .error (under key e)

@[simp] lemma both_eq_ok {x : Parsed α} {y : Parsed β} {a : α} {b : β} :
    both x y = .ok (a, b) ↔ x = .ok a ∧ y = .ok b := by
  cases x <;> cases y <;> simp [both]

@[simp] lemma below_eq_ok {key : Str} {x : Parsed α} {a : α} :
    below key x = .ok a ↔ x = .ok a := by
  cases x <;> simp [below]

@[simp] lemma map_eq_ok {x : Parsed α} {f : α → β} {b : β} :
    f <$> x = .ok b ↔ ∃ a, x = .ok a ∧ f a = b := by
  cases x <;> simp [Functor.map, Except.map]

end Parsed

/-- `typeof`, as zod names it. -/
def Json.typeName : Json → Str
  | null => js "null"
  | bool _ => js "boolean"
  | num _ => js "number"
  | str _ => js "string"
  | arr _ => js "array"
  | obj _ => js "object"

/-- A value of another type. -/
def expected {α : Type} (name : String) (j : Json) : Parsed α :=
  .error (issue [] (js "Expected " ++ js name ++ js ", received " ++ j.typeName))

structure Schema (α : Type) where
  read : Json → Parsed α
  write : α → Json
  stable : ∀ {j a}, read j = .ok a → read (write a) = .ok a

namespace Schema

variable {α β : Type}

/-- The value is read back as it is: every parsed value is valid. -/
def Valid (s : Schema α) (a : α) : Prop := s.read (s.write a) = .ok a

lemma Valid.intro {s : Schema α} {a : α} (h : s.read (s.write a) = .ok a) : s.Valid a := h

lemma valid_of_read {s : Schema α} {j : Json} {a : α} (h : s.read j = .ok a) : s.Valid a :=
  s.stable h

/-- `schema.parse(input)`. -/
def parse (s : Schema α) (j : Json) : Result α :=
  match s.read j with
  | .ok a => .ok a
  | .error issues => .error (.schema issues)

@[simp] lemma parse_eq_ok {s : Schema α} {j : Json} {a : α} :
    s.parse j = .ok a ↔ s.read j = .ok a := by
  unfold parse
  split <;> simp [*]

/-- `schema.parse(input)` with what is known of its value. -/
def checked (s : Schema α) (j : Json) : Result {a // s.Valid a} :=
  match h : s.read j with
  | .ok a => .ok ⟨a, s.valid_of_read h⟩
  | .error issues => .error (.schema issues)

lemma parse_eq_checked (s : Schema α) (j : Json) : s.parse j = Subtype.val <$> s.checked j := by
  unfold parse checked
  split <;> split <;> simp_all

lemma read_of_checked {s : Schema α} {j : Json} {a : {a // s.Valid a}}
    (h : s.checked j = .ok a) : s.read j = .ok a.1 := by
  rw [← parse_eq_ok, parse_eq_checked, h]
  rfl

lemma checked_of_read {s : Schema α} {j : Json} {a : α} (h : s.read j = .ok a) :
    s.checked j = .ok ⟨a, s.valid_of_read h⟩ := by
  unfold checked
  split
  · rename_i b hb
    cases h.symm.trans hb
    rfl
  · rename_i e he
    cases h.symm.trans he

/-- `z.string()`. -/
def string : Schema Str where
  read
    | .str s => .ok s
    | j => expected "string" j
  write := .str
  stable _ := rfl

/-- `z.boolean()`. -/
def boolean : Schema Bool where
  read
    | .bool b => .ok b
    | j => expected "boolean" j
  write := .bool
  stable _ := rfl

/-- `z.number()`. -/
def number : Schema Num where
  read
    | .num n => .ok n
    | j => expected "number" j
  write := .num
  stable _ := rfl

/-- A refinement. -/
def refine (s : Schema α) (issues : α → List Issue) : Schema α where
  read j :=
    match s.read j with
    | .ok a => if issues a = [] then .ok a else .error (issues a)
    | .error e => .error e
  write := s.write
  stable {j a} h := by
    split at h
    · rename_i b hread
      split_ifs at h with hissues
      cases h
      rw [s.stable hread]
      exact if_pos hissues
    · cases h

lemma read_refine {s : Schema α} {issues : α → List Issue} {j : Json} {a : α} :
    (s.refine issues).read j = .ok a ↔ s.read j = .ok a ∧ issues a = [] := by
  unfold refine
  dsimp only
  split
  · rename_i b hread
    rw [hread]
    split_ifs with h
    · constructor
      · intro hb
        cases hb
        exact ⟨rfl, h⟩
      · intro hb
        exact hb.1
    · constructor
      · intro hb
        cases hb
      · intro hb
        cases hb.1
        exact absurd hb.2 h
  · rename_i e hread
    simp [hread]

/-- `z.string().min(1)`. -/
def nonEmptyString : Schema Str := string.refine nonEmpty

@[simp] lemma read_nonEmptyString {j : Json} {s : Str} :
    nonEmptyString.read j = .ok s ↔ j = .str s ∧ s ≠ [] := by
  rw [nonEmptyString, read_refine, nonEmpty_eq_nil]
  cases j <;> simp [string, expected]

/-- A number whose text has a fraction, or an exponent below zero, is no integer. -/
def isInteger (n : Num) : Bool :=
  if n.1.contains (cu 'e') then n.1.contains (cu '+') else !n.1.contains (cu '.')

/-- `z.number().int().nonnegative()`. -/
def nonNegativeInt : Schema Num :=
  number.refine fun n =>
    require (isInteger n) [] "Expected integer, received float"
      ++ require (n.1.head? ≠ some (cu '-')) [] "Number must be greater than or equal to 0"

/-- `z.number().int().positive()`. -/
def positiveInt : Schema Num :=
  nonNegativeInt.refine fun n => require (n.1 ≠ js "0") [] "Number must be greater than 0"

/-- `z.literal(text)`. -/
def literal (text : Str) : Schema Unit where
  read j :=
    if j = .str text then .ok ()
    else .error (issue [] (js "Invalid literal value, expected " ++ Json.quote text))
  write _ := .str text
  stable _ := if_pos rfl

/-- `z.enum(values)`; every value of the type is listed. -/
def enum (values : List α) (text : α → Str)
    (h : ∀ a, values.find? (fun v => text v = text a) = some a) : Schema α where
  read
    | .str s =>
      match values.find? fun v => text v = s with
      | some v => .ok v
      | none => .error (issue [] (js "Invalid enum value. Expected "
          ++ (js " | ").intercalate (values.map fun v => js "'" ++ text v ++ js "'")
          ++ js ", received '" ++ s ++ js "'"))
    | j => expected "string" j
  write a := .str (text a)
  stable {_ a} _ := by simp [h a]

/-- `z.array(item)`, an element's key being its index. -/
def readItems (s : Schema α) : ℕ → List Json → Parsed (List α)
  | _, [] => .ok []
  | i, j :: l =>
    (fun (a, r) => a :: r) <$>
      Parsed.both ((s.read j).below ((Nat.toDigits 10 i).map cu)) (readItems s (i + 1) l)

lemma readItems_eq_ok {s : Schema α} {i : ℕ} {l : List Json} {r : List α} :
    readItems s i l = .ok r ↔ List.Forall₂ (fun j a => s.read j = .ok a) l r := by
  induction l generalizing i r with
  | nil =>
    rw [readItems, List.forall₂_nil_left_iff]
    simp [eq_comm]
  | cons j l ih =>
    simp only [readItems, Parsed.map_eq_ok, Prod.exists, Parsed.both_eq_ok, Parsed.below_eq_ok,
      List.forall₂_cons_left_iff, ih]
    constructor
    · intro ⟨a, r, ⟨ha, hr⟩, h⟩
      exact ⟨a, r, ha, hr, h.symm⟩
    · intro ⟨a, r, ha, hr, h⟩
      exact ⟨a, r, ⟨ha, hr⟩, h.symm⟩

/-- Written items are read back when each of them is. -/
lemma readItems_write {s : Schema α} {i : ℕ} {r : List α} :
    readItems s i (r.map s.write) = .ok r ↔ ∀ a ∈ r, s.Valid a := by
  rw [readItems_eq_ok, List.forall₂_map_left_iff, List.forall₂_same]
  rfl

/-- Every item read comes from an item written. -/
lemma exists_of_forall₂ {R : Json → α → Prop} {l : List Json} {r : List α}
    (h : List.Forall₂ R l r) : ∀ a ∈ r, ∃ j, R j a := by
  induction h with
  | nil => simp
  | cons hj _ ih =>
    rw [List.forall_mem_cons]
    exact ⟨⟨_, hj⟩, ih⟩

def array (s : Schema α) : Schema (List α) where
  read
    | .arr l => readItems s 0 l
    | j => expected "array" j
  write r := .arr (r.map s.write)
  stable {j r} h := by
    cases j with
    | arr l =>
      rw [readItems_write]
      intro a ha
      obtain ⟨j, hj⟩ := exists_of_forall₂ (readItems_eq_ok.mp h) a ha
      exact s.stable hj
    | _ => simp [expected] at h

lemma valid_array {s : Schema α} {r : List α} : s.array.Valid r ↔ ∀ a ∈ r, s.Valid a :=
  readItems_write

/-- `z.record(z.string(), z.unknown())`; the key `__proto__` is not copied. -/
def record : Schema (List (Str × Json)) where
  read
    | .obj m => .ok (m.filter fun e => e.1 ≠ js "__proto__")
    | j => expected "object" j
  write := .obj
  stable {j m} h := by
    cases j with
    | obj l =>
      obtain rfl := Except.ok.inj h
      simp
    | _ => simp [expected] at h

/-- `schema.nullable()`. -/
def nullable (s : Schema α) (h : ∀ a, s.write a ≠ .null) : Schema (Option α) where
  read
    | .null => .ok none
    | j => some <$> s.read j
  write a := (a.map s.write).getD .null
  stable {j a} hread := by
    cases a with
    | none => rfl
    | some a =>
      have ha : s.read (s.write a) = .ok a := by
        cases j with
        | null => cases hread
        | _ =>
          obtain ⟨b, hb, hba⟩ := Parsed.map_eq_ok.mp hread
          cases hba
          exact s.stable hb
      have hne := h a
      simp only [Option.map_some, Option.getD_some]
      rw [ha]
      rfl

/-- The same values in another form. -/
def via (s : Schema α) (e : α ≃ β) : Schema β where
  read j := e <$> s.read j
  write b := s.write (e.symm b)
  stable {j b} h := by
    obtain ⟨a, ha, rfl⟩ := Parsed.map_eq_ok.mp h
    rw [e.symm_apply_apply, s.stable ha]
    rfl

end Schema

/-! ## Members of an object -/

lemma Json.get?_cons (k key : Str) (v : Json) (m : List (Str × Json)) :
    Json.get? ((key, v) :: m) k = if k = key then some v else Json.get? m k := by
  by_cases h : k = key
  · simp [Json.get?, h]
  · have hbeq : (k == key) = false := by simpa using h
    simp [Json.get?, List.lookup_cons, h, hbeq]

/-- Members in front of others hide them. -/
def Json.before (m : List (Str × Json)) (get : Str → Option Json) (k : Str) : Option Json :=
  (Json.get? m k).or (get k)

lemma Json.get?_append (m rest : List (Str × Json)) :
    Json.get? (m ++ rest) = Json.before m (Json.get? rest) := by
  funext k
  exact List.lookup_append

/-- How a member of an object is read; `none` is an absent member. -/
structure Slot (α : Type) where
  read : Option Json → Parsed α
  write : α → Option Json
  stable : ∀ {j a}, read j = .ok a → read (write a) = .ok a

namespace Slot

variable {α β : Type}

def required (s : Schema α) : Slot α where
  read
    | none => .error (issue [] "Required")
    | some j => s.read j
  write a := some (s.write a)
  stable {j a} h := by
    cases j with
    | none => cases h
    | some j => exact s.stable h

@[simp] lemma read_required {s : Schema α} {j : Option Json} {a : α} :
    (required s).read j = .ok a ↔ ∃ v, j = some v ∧ s.read v = .ok a := by
  cases j <;> simp [required]

@[simp] lemma read_required_nonEmptyString {j : Option Json} {s : Str} :
    (required Schema.nonEmptyString).read j = .ok s ↔ j = some (.str s) ∧ s ≠ [] := by
  cases j <;> simp [required]

/-- `schema.optional()`. -/
def optional (s : Schema α) : Slot (Option α) where
  read
    | none => .ok none
    | some j => some <$> s.read j
  write a := a.map s.write
  stable {j a} h := by
    cases a with
    | none => rfl
    | some a =>
      cases j with
      | none => cases h
      | some j =>
        obtain ⟨b, hb, hba⟩ := Parsed.map_eq_ok.mp h
        cases hba
        exact Parsed.map_eq_ok.mpr ⟨a, s.stable hb, rfl⟩

/-- `schema.default(value)`; the default passes the schema itself. -/
def default (s : Schema α) (value : α) (h : s.Valid value) : Slot α where
  read
    | none => .ok value
    | some j => s.read j
  write a := some (s.write a)
  stable {j a} hread := by
    cases j with
    | none =>
      cases hread
      exact h
    | some j => exact s.stable hread

end Slot

/-- A list of members: what is read from the value of each key, and the members written. -/
structure Fields (α : Type) where
  keys : List Str
  read : (Str → Option Json) → Parsed α
  write : α → List (Str × Json)
  keys_write : ∀ {a}, ∀ e ∈ write a, e.1 ∈ keys
  stable : keys.Nodup → ∀ {get a}, read get = .ok a →
    ∀ get', (∀ k ∈ keys, get' k = Json.get? (write a) k) → read get' = .ok a

namespace Fields

variable {α β : Type}

def nil : Fields Unit where
  keys := []
  read _ := .ok ()
  write _ := []
  keys_write := by simp
  stable _ _ _ _ _ _ := rfl

/-- A member that is not written has a value that is absent. -/
lemma get?_write_of_not_mem {f : Fields α} {a : α} {k : Str} (h : k ∉ f.keys) :
    Json.get? (f.write a) k = none := by
  rw [Json.get?, List.lookup_eq_none_iff]
  intro e he
  simpa using fun hk : k = e.1 => h (hk ▸ f.keys_write e he)

lemma get?_write_cons {key : Str} {slot : Slot α} {rest : Fields β} (hkey : key ∉ rest.keys)
    (a : α) (b : β) (k : Str) :
    Json.get? (((slot.write a).map fun v => (key, v)).toList ++ rest.write b) k =
      if k = key then slot.write a else Json.get? (rest.write b) k := by
  cases hv : slot.write a with
  | none =>
    by_cases hk : k = key
    · subst hk
      simpa using get?_write_of_not_mem hkey
    · simp [hk]
  | some v => exact Json.get?_cons k key v _

/-- One member in front of others. -/
def cons (key : Str) (slot : Slot α) (rest : Fields β) : Fields (α × β) where
  keys := key :: rest.keys
  read get := Parsed.both ((slot.read (get key)).below key) (rest.read get)
  write ab := ((slot.write ab.1).map fun v => (key, v)).toList ++ rest.write ab.2
  keys_write := by
    intro ab e he
    rcases List.mem_append.mp he with he | he
    · obtain ⟨v, -, rfl⟩ := Option.map_eq_some_iff.mp (Option.mem_toList.mp he)
      exact List.mem_cons_self
    · exact List.mem_cons_of_mem _ (rest.keys_write e he)
  stable := by
    intro hnodup get ab h get' hget
    obtain ⟨a, b⟩ := ab
    rw [List.nodup_cons] at hnodup
    rw [Parsed.both_eq_ok, Parsed.below_eq_ok] at h ⊢
    rw [List.forall_mem_cons] at hget
    constructor
    · rw [hget.1, get?_write_cons hnodup.1, if_pos rfl]
      exact slot.stable h.1
    · apply rest.stable hnodup.2 h.2
      intro k hk
      have hne : k ≠ key := fun he => hnodup.1 (he ▸ hk)
      rw [hget.2 k hk, get?_write_cons hnodup.1, if_neg hne]

def via (f : Fields α) (e : α ≃ β) : Fields β where
  keys := f.keys
  read get := e <$> f.read get
  write b := f.write (e.symm b)
  keys_write := f.keys_write
  stable := by
    intro hnodup get b h get' hget
    obtain ⟨a, ha, rfl⟩ := Parsed.map_eq_ok.mp h
    rw [e.symm_apply_apply] at hget
    rw [f.stable hnodup ha get' hget]
    rfl

@[simp] lemma read_nil {get : Str → Option Json} : nil.read get = .ok () := rfl

@[simp] lemma read_cons {key : Str} {slot : Slot α} {rest : Fields β} {get : Str → Option Json}
    {a : α} {b : β} :
    (cons key slot rest).read get = .ok (a, b) ↔
      slot.read (get key) = .ok a ∧ rest.read get = .ok b := by
  simp [cons]

@[simp] lemma read_via {f : Fields α} {e : α ≃ β} {get : Str → Option Json} {b : β} :
    (f.via e).read get = .ok b ↔ f.read get = .ok (e.symm b) := by
  simp only [via, Parsed.map_eq_ok]
  constructor
  · intro ⟨a, ha, hb⟩
    rw [← hb, e.symm_apply_apply, ha]
  · intro h
    exact ⟨e.symm b, h, e.apply_symm_apply b⟩

end Fields

namespace Schema

variable {α : Type}

/-- `z.object(fields)`: other members are not copied. -/
def object (f : Fields α) (h : f.keys.Nodup) : Schema α where
  read
    | .obj m => f.read (Json.get? m)
    | j => expected "object" j
  write a := .obj (f.write a)
  stable {j a} hread := by
    cases j with
    | obj m => exact f.stable h hread _ fun _ _ => rfl
    | _ => simp [expected] at hread

@[simp] lemma read_object {f : Fields α} {h : f.keys.Nodup} {m : List (Str × Json)} {a : α} :
    (object f h).read (.obj m) = .ok a ↔ f.read (Json.get? m) = .ok a := Iff.rfl

def unrecognizedKeys (keys : List Str) (m : List (Str × Json)) : List Issue :=
  let others := (m.map Prod.fst).filter fun k => k ∉ keys
  if others = [] then []
  else issue [] (js "Unrecognized key(s) in object: "
    ++ (js ", ").intercalate (others.map fun k => js "'" ++ k ++ js "'"))

/-- `z.object(fields).strict()`. -/
def strictObject (f : Fields α) (h : f.keys.Nodup) : Schema α where
  read
    | .obj m =>
      (fun a => a.1) <$> Parsed.both (f.read (Json.get? m))
        (if unrecognizedKeys f.keys m = [] then .ok () else .error (unrecognizedKeys f.keys m))
    | j => expected "object" j
  write a := .obj (f.write a)
  stable {j a} hread := by
    cases j with
    | obj m =>
      obtain ⟨⟨a, u⟩, hboth, rfl⟩ := Parsed.map_eq_ok.mp hread
      have hnone : unrecognizedKeys f.keys (f.write a) = [] := by
        have hall : ((f.write a).map Prod.fst).filter (fun k => k ∉ f.keys) = [] := by
          simpa using fun k v hkv => f.keys_write (k, v) hkv
        rw [unrecognizedKeys, if_pos hall]
      have hread' := f.stable h (Parsed.both_eq_ok.mp hboth).1 (Json.get? (f.write a)) fun _ _ => rfl
      dsimp only
      rw [hread', if_pos hnone]
      rfl
    | _ => simp [expected] at hread

end Schema

/-! ## Reading back

What a schema makes of a value that was not parsed before, where it accepts it. -/

def Schema.Copies {α : Type} (s : Schema α) (f : α → α) : Prop :=
  ∀ a b, s.read (s.write a) = .ok b → b = f a

def Slot.Copies {α : Type} (slot : Slot α) (f : α → α) : Prop :=
  ∀ a b, slot.read (slot.write a) = .ok b → b = f a

def Fields.Copies {α : Type} (fields : Fields α) (f : α → α) : Prop :=
  ∀ a b get, (∀ k ∈ fields.keys, get k = Json.get? (fields.write a) k) →
    fields.read get = .ok b → b = f a

section

variable {α β : Type} {s : Schema α} {slot : Slot α} {f : α → α} {g : β → β}

lemma Schema.copies_nonEmptyString : nonEmptyString.Copies id := by
  intro a b h
  obtain ⟨hb, -⟩ := read_nonEmptyString.mp h
  exact (Json.str.inj hb).symm

lemma Schema.copies_enum {values : List α} {text : α → Str}
    {h : ∀ a, values.find? (fun v => text v = text a) = some a} :
    (Schema.enum values text h).Copies id := by
  intro a b hread
  have hback := (Schema.enum values text h).stable hread
  unfold Schema.enum at hread
  dsimp only at hread
  rw [h a] at hread
  exact (Except.ok.inj hread).symm

lemma Schema.Copies.array (h : s.Copies f) : s.array.Copies (List.map f) := by
  intro l r hread
  have hall := readItems_eq_ok.mp hread
  rw [List.forall₂_map_left_iff] at hall
  induction hall with
  | nil => rfl
  | cons hab _ ih => rw [List.map_cons, h _ _ hab, ← ih (readItems_eq_ok.mpr (by simpa))]

lemma Schema.copies_record : record.Copies fun m => m.filter fun e => e.1 ≠ js "__proto__" := by
  intro m r h
  exact (Except.ok.inj h).symm

lemma Slot.copies_required (h : s.Copies f) : (Slot.required s).Copies f := h

lemma Slot.copies_optional (h : s.Copies f) : (Slot.optional s).Copies (Option.map f) := by
  intro a b hread
  cases a with
  | none => exact (Except.ok.inj hread).symm
  | some a =>
    obtain ⟨c, hc, rfl⟩ := Parsed.map_eq_ok.mp hread
    rw [h a c hc, Option.map_some]

lemma Fields.copies_nil : Fields.nil.Copies id := fun _ _ _ _ _ => rfl

lemma Fields.Copies.cons {rest : Fields β} (hrest : rest.Copies g) (key : Str)
    (hslot : slot.Copies f) (hkey : key ∉ rest.keys) :
    (Fields.cons key slot rest).Copies (Prod.map f g) := by
  rintro ⟨a, b⟩ ⟨a', b'⟩ get hget hread
  rw [Fields.read_cons] at hread
  have hlookup : ∀ k ∈ key :: rest.keys, get k =
      if k = key then slot.write a else Json.get? (rest.write b) k := by
    intro k hk
    rw [hget k hk]
    exact Fields.get?_write_cons hkey a b k
  rw [List.forall_mem_cons, if_pos rfl] at hlookup
  have ha : a' = f a := hslot a a' (hlookup.1 ▸ hread.1)
  have hb : b' = g b := by
    apply hrest b b' get _ hread.2
    intro k hk
    have hne : k ≠ key := fun he => hkey (he ▸ hk)
    rw [hlookup.2 k hk, if_neg hne]
  rw [ha, hb]
  rfl

lemma Fields.Copies.via {fields : Fields α} (h : fields.Copies f) (e : α ≃ β)
    (hg : ∀ b, e (f (e.symm b)) = g b) : (fields.via e).Copies g := by
  intro a b get hget hread
  rw [Fields.read_via] at hread
  rw [← hg, ← h (e.symm a) (e.symm b) get hget hread, e.apply_symm_apply]

lemma Fields.Copies.object {fields : Fields α} (h : fields.Copies f) (hkeys : fields.keys.Nodup) :
    (Schema.object fields hkeys).Copies f :=
  fun a b hread => h a b _ (fun _ _ => rfl) hread

end

end Js
