import CodexRouter.Js.Exact

/-!
# Validity, member by member

An object is valid when each of its members is.
-/

namespace Js

def Slot.Valid {α : Type} (slot : Slot α) (a : α) : Prop := slot.read (slot.write a) = .ok a

/-- The keys are distinct, as those of an object are. -/
def Fields.Valid {α : Type} (f : Fields α) (_hkeys : f.keys.Nodup) (a : α) : Prop :=
  f.read (Json.get? (f.write a)) = .ok a

section

variable {α β : Type} {s : Schema α}

namespace Fields

/-- Only the members of the keys are read. -/
lemma read_congr {f : Fields α} (hkeys : f.keys.Nodup) {get get' : Str → Option Json}
    (h : ∀ k ∈ f.keys, get k = Json.get? (f.write a) k)
    (h' : ∀ k ∈ f.keys, get' k = Json.get? (f.write a) k) :
    f.read get = .ok a ↔ f.read get' = .ok a := by
  constructor
  · intro hread
    exact f.stable hkeys hread get' h'
  · intro hread
    exact f.stable hkeys hread get h

lemma nodup_rest {key : Str} {slot : Slot α} {rest : Fields β}
    (hkeys : (cons key slot rest).keys.Nodup) : rest.keys.Nodup := (List.nodup_cons.mp hkeys).2

lemma nodup_via {f : Fields α} {e : α ≃ β} (hkeys : (f.via e).keys.Nodup) : f.keys.Nodup := hkeys

lemma valid_cons {key : Str} {slot : Slot α} {rest : Fields β}
    {hkeys : (cons key slot rest).keys.Nodup} {a : α} {b : β} :
    (cons key slot rest).Valid hkeys (a, b) ↔ slot.Valid a ∧ rest.Valid (nodup_rest hkeys) b := by
  have hkey : key ∉ rest.keys := (List.nodup_cons.mp hkeys).1
  have hlookup : ∀ k, Json.get? ((cons key slot rest).write (a, b)) k =
      if k = key then slot.write a else Json.get? (rest.write b) k :=
    get?_write_cons hkey a b
  unfold Valid
  rw [read_cons, hlookup, if_pos rfl]
  apply and_congr Iff.rfl
  apply read_congr (nodup_rest hkeys)
  · intro k hk
    have hne : k ≠ key := fun he => hkey (he ▸ hk)
    rw [hlookup, if_neg hne]
  · intro k _
    rfl

lemma valid_via {f : Fields α} {e : α ≃ β} {hkeys : (f.via e).keys.Nodup} {b : β} :
    (f.via e).Valid hkeys b ↔ f.Valid (nodup_via hkeys) (e.symm b) := by
  unfold Valid
  rw [read_via]
  rfl

lemma valid_nil {hkeys : nil.keys.Nodup} : nil.Valid hkeys () := rfl

end Fields

namespace Slot

lemma valid_required {a : α} : (required s).Valid a ↔ s.Valid a := Iff.rfl

lemma valid_default {value a : α} {h : s.Valid value} : (default s value h).Valid a ↔ s.Valid a :=
  Iff.rfl

lemma valid_optional {a : Option α} : (optional s).Valid a ↔ ∀ b ∈ a, s.Valid b := by
  cases a with
  | none => simp [Valid, optional]
  | some a =>
    show some <$> s.read (s.write a) = .ok (some a) ↔ _
    simp [Schema.Valid]

end Slot

namespace Schema

lemma valid_object {f : Fields α} {hkeys : f.keys.Nodup} {a : α} :
    (object f hkeys).Valid a ↔ f.Valid hkeys a := Iff.rfl

lemma valid_refine {issues : α → List Issue} {a : α} :
    (s.refine issues).Valid a ↔ s.Valid a ∧ issues a = [] := read_refine

/-- A written value is returned when it is valid. -/
theorem parse_write_eq_ok [s.Exact] {a b : α} : s.parse (s.write a) = .ok b ↔ s.Valid a ∧ b = a := by
  constructor
  · intro h
    have hsame := parse_write h
    subst hsame
    exact ⟨parse_eq_ok.mp h, rfl⟩
  · intro ⟨hvalid, hsame⟩
    rw [hsame]
    exact parse_eq_ok.mpr hvalid

lemma valid_string (a : Str) : string.Valid a := rfl

lemma valid_boolean (a : Bool) : boolean.Valid a := rfl

lemma valid_number (a : Num) : number.Valid a := rfl

lemma valid_literal {text : Str} (a : Unit) : (literal text).Valid a := if_pos rfl

lemma valid_enum {values : List α} {text : α → Str}
    {h : ∀ a, values.find? (fun v => text v = text a) = some a} (a : α) :
    (enum values text h).Valid a := by
  unfold Valid enum
  dsimp only
  rw [h a]

lemma valid_nonEmptyString {a : Str} : nonEmptyString.Valid a ↔ a ≠ [] := by
  unfold Valid
  rw [read_nonEmptyString]
  simp [nonEmptyString, refine, string]

end Schema

end

end Js
