import CodexRouter.Js.JsonParse
import CodexRouter.Js.Schema

/-!
# What a schema writes

No object that a schema writes has one key twice, so its text is read back.
-/

namespace Js

open Json

class Schema.Keyed {α : Type} (s : Schema α) : Prop where
  keyed : ∀ a, (s.write a).Keyed

class Slot.Keyed {α : Type} (slot : Slot α) : Prop where
  keyed : ∀ a, ∀ j ∈ slot.write a, Json.Keyed j

/-- The members come in the order of the keys. -/
class Fields.Keyed {α : Type} (f : Fields α) : Prop where
  sublist : ∀ a, ((f.write a).map Prod.fst).Sublist f.keys
  values : ∀ a, Json.KeyedMembers (f.write a)

lemma keyedItems_iff {l : List Json} : KeyedItems l ↔ ∀ j ∈ l, j.Keyed := by
  induction l with
  | nil => simp [KeyedItems]
  | cons j l ih => rw [KeyedItems, List.forall_mem_cons, ih]

lemma keyedMembers_append {m r : List (Str × Json)} :
    KeyedMembers (m ++ r) ↔ KeyedMembers m ∧ KeyedMembers r := by
  induction m with
  | nil => simp [KeyedMembers]
  | cons e m ih => rw [List.cons_append, KeyedMembers, KeyedMembers, ih, and_assoc]

section

variable {α β : Type} {s : Schema α}

instance : Schema.string.Keyed := ⟨fun _ => trivial⟩

instance : Schema.boolean.Keyed := ⟨fun _ => trivial⟩

instance : Schema.number.Keyed := ⟨fun _ => trivial⟩

instance (text : Str) : (Schema.literal text).Keyed := ⟨fun _ => trivial⟩

instance {values : List α} {text : α → Str}
    {h : ∀ a, values.find? (fun v => text v = text a) = some a} :
    (Schema.enum values text h).Keyed := ⟨fun _ => trivial⟩

instance [h : s.Keyed] (issues : α → List Issue) : (s.refine issues).Keyed := ⟨h.keyed⟩

instance : Schema.nonEmptyString.Keyed := inferInstanceAs (Schema.string.refine _).Keyed

instance : Schema.nonNegativeInt.Keyed := inferInstanceAs (Schema.number.refine _).Keyed

instance [h : s.Keyed] : s.array.Keyed where
  keyed l := by
    show KeyedItems (l.map s.write)
    rw [keyedItems_iff, List.forall_mem_map]
    exact fun a _ => h.keyed a

instance [h : s.Keyed] (e : α ≃ β) : (s.via e).Keyed := ⟨fun b => h.keyed (e.symm b)⟩

instance [h : s.Keyed] : (Slot.required s).Keyed where
  keyed := by
    rintro a j ⟨⟩
    exact h.keyed a

instance [h : s.Keyed] : (Slot.optional s).Keyed where
  keyed := by
    intro a j hj
    obtain ⟨b, -, rfl⟩ := Option.map_eq_some_iff.mp hj
    exact h.keyed b

instance Slot.keyed_default [h : s.Keyed] {value : α} {hvalue : s.Valid value} :
    (Slot.default s value hvalue).Keyed where
  keyed := by
    rintro a j ⟨⟩
    exact h.keyed a

instance : Fields.nil.Keyed where
  sublist _ := List.Sublist.slnil
  values _ := trivial

instance {rest : Fields β} [hrest : rest.Keyed] {key : Str} {slot : Slot α} [hslot : slot.Keyed] :
    (Fields.cons key slot rest).Keyed where
  sublist := by
    intro ⟨a, b⟩
    show (List.map Prod.fst (((slot.write a).map fun v => (key, v)).toList ++ rest.write b)).Sublist
      (key :: rest.keys)
    cases slot.write a with
    | none => exact (hrest.sublist b).cons key
    | some v => exact (hrest.sublist b).cons_cons key
  values := by
    intro ⟨a, b⟩
    apply keyedMembers_append.mpr
    refine ⟨?_, hrest.values b⟩
    cases hv : slot.write a with
    | none => trivial
    | some v => exact ⟨hslot.keyed a v hv, trivial⟩

instance {f : Fields α} [h : f.Keyed] (e : α ≃ β) : (f.via e).Keyed where
  sublist b := h.sublist (e.symm b)
  values b := h.values (e.symm b)

instance {f : Fields α} [h : f.Keyed] (hkeys : f.keys.Nodup) : (Schema.object f hkeys).Keyed :=
  ⟨fun a => ⟨hkeys.sublist (h.sublist a), h.values a⟩⟩

/-- A record is read back from its text. -/
theorem Schema.parse_text [h : s.Keyed] {gap : Str} (hgap : Blank gap) (a : α) :
    parse? (text gap [] (s.write a)) = some (s.write a) :=
  Json.parse_text hgap (h.keyed a)

end

end Js
