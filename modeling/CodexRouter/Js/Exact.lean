import CodexRouter.Js.Schema

/-!
# Reading back exactly

A schema without records that drop members reads back the value it has written, where it accepts
it.
-/

namespace Js

class Schema.Exact {α : Type} (s : Schema α) : Prop where
  copies : s.Copies id

class Slot.Exact {α : Type} (slot : Slot α) : Prop where
  copies : slot.Copies id

class Fields.Exact {α : Type} (f : Fields α) : Prop where
  copies : f.keys.Nodup → f.Copies id

section

variable {α β : Type} {s : Schema α}

instance : Schema.string.Exact := ⟨fun _ _ h => (Except.ok.inj h).symm⟩

instance : Schema.boolean.Exact := ⟨fun _ _ h => (Except.ok.inj h).symm⟩

instance : Schema.number.Exact := ⟨fun _ _ h => (Except.ok.inj h).symm⟩

instance (text : Str) : (Schema.literal text).Exact := ⟨fun _ _ _ => rfl⟩

instance {values : List α} {text : α → Str}
    {h : ∀ a, values.find? (fun v => text v = text a) = some a} :
    (Schema.enum values text h).Exact := ⟨Schema.copies_enum⟩

instance [h : s.Exact] (issues : α → List Issue) : (s.refine issues).Exact :=
  ⟨fun a b hread => h.copies a b (Schema.read_refine.mp hread).1⟩

instance : Schema.nonEmptyString.Exact := inferInstanceAs (Schema.string.refine _).Exact

instance : Schema.nonNegativeInt.Exact := inferInstanceAs (Schema.number.refine _).Exact

instance : Schema.positiveInt.Exact := inferInstanceAs (Schema.nonNegativeInt.refine _).Exact

instance [h : s.Exact] : s.array.Exact where
  copies := by
    have hlist := h.copies.array
    rwa [List.map_id_fun] at hlist

instance [h : s.Exact] : (Slot.required s).Exact := ⟨Slot.copies_required h.copies⟩

instance [h : s.Exact] : (Slot.optional s).Exact where
  copies := by
    have hoption := Slot.copies_optional h.copies
    rwa [Option.map_id_fun] at hoption

lemma Slot.exact_default [h : s.Exact] {value : α} {hvalue : s.Valid value} :
    (Slot.default s value hvalue).Exact := ⟨fun a b hread => h.copies a b hread⟩

instance [s.Exact] {value : α} {hvalue : s.Valid value} : (Slot.default s value hvalue).Exact :=
  Slot.exact_default

instance : Fields.nil.Exact := ⟨fun _ => Fields.copies_nil⟩

instance {rest : Fields β} [hrest : rest.Exact] {key : Str} {slot : Slot α} [hslot : slot.Exact] :
    (Fields.cons key slot rest).Exact where
  copies := by
    intro hkeys
    obtain ⟨hkey, hnodup⟩ := List.nodup_cons.mp hkeys
    have hcons := (hrest.copies hnodup).cons key hslot.copies hkey
    rwa [Prod.map_id] at hcons

instance {f : Fields α} [h : f.Exact] (e : α ≃ β) : (f.via e).Exact where
  copies hkeys := (h.copies hkeys).via e fun b => e.apply_symm_apply b

instance {f : Fields α} [h : f.Exact] (hkeys : f.keys.Nodup) : (Schema.object f hkeys).Exact :=
  ⟨(h.copies hkeys).object hkeys⟩

/-- A field that is read back exactly before others. -/
lemma Fields.Copies.behind {rest : Fields β} {g : β → β} (h : rest.Copies g) {key : Str}
    {slot : Slot α} [hslot : slot.Exact] (hkey : key ∉ rest.keys) :
    (Fields.cons key slot rest).Copies (Prod.map id g) :=
  h.cons key hslot.copies hkey

/-- Parsing what the schema has written gives the value or throws. -/
theorem Schema.parse_write [h : s.Exact] {a b : α} (hparse : s.parse (s.write a) = .ok b) : b = a :=
  h.copies a b (Schema.parse_eq_ok.mp hparse)

end

end Js
