import CodexRouter.Js.Exact
import CodexRouter.Js.Keyed
import CodexRouter.Js.WellFormed

/-!
# Canonical documents

The stable text of a value is the plain text of its canonical form, whose objects list their
members by key. A schema reads the same value out of both.
-/

namespace Js

namespace Json

/-! ## The canonical form -/

def sortByKey (m : List (Str × Json)) : List (Str × Json) := m.insertionSort (·.1 ≤ ·.1)

mutual

def canonical : Json → Json
  | arr l => arr (canonicalItems l)
  | obj m => obj (sortByKey (canonicalMembers m))
  | j => j

def canonicalItems : List Json → List Json
  | [] => []
  | a :: l => canonical a :: canonicalItems l

def canonicalMembers : List (Str × Json) → List (Str × Json)
  | [] => []
  | (k, a) :: m => (k, canonical a) :: canonicalMembers m

end

lemma canonicalItems_eq (l : List Json) : canonicalItems l = l.map canonical := by
  induction l with
  | nil => rfl
  | cons a l ih => rw [canonicalItems, ih, List.map_cons]

lemma canonicalMembers_eq (m : List (Str × Json)) :
    canonicalMembers m = m.map fun p => (p.1, p.2.canonical) := by
  induction m with
  | nil => rfl
  | cons p m ih => rw [canonicalMembers, ih, List.map_cons]

lemma perm_sortByKey (m : List (Str × Json)) : (sortByKey m).Perm m := List.perm_insertionSort _ m

/-! ## Its text -/

lemma join_items (a : Json) (l : List Json) (h : ∀ b ∈ a :: l, text [] [] b.canonical =
    b.stableStringify) :
    join (cu ',') (stringifyItems (a :: l)) =
      text [] [] a.canonical ++ moreItems [] [] (canonicalItems l) := by
  induction l generalizing a with
  | nil =>
    rw [stringifyItems, stringifyItems, join_singleton, h a List.mem_cons_self, canonicalItems,
      moreItems, List.append_nil]
  | cons b l ih =>
    obtain ⟨ha, hrest⟩ := List.forall_mem_cons.mp h
    rw [stringifyItems, join_cons _ _ (by rw [stringifyItems]; exact List.cons_ne_nil _ _),
      ih b hrest, ha, canonicalItems, moreItems]
    rfl

lemma join_members (p : Str × Json) (m : List (Str × Json)) :
    join (cu ',') ((p :: m).map fun q => memberText (q.1, text [] [] q.2)) =
      quote p.1 ++ (colon [] ++ (text [] [] p.2 ++ moreMembers [] [] m)) := by
  induction m generalizing p with
  | nil =>
    rw [List.map_cons, List.map_nil, join_singleton, moreMembers, List.append_nil]
    rfl
  | cons q m ih =>
    rw [List.map_cons, join_cons _ _ (by rw [List.map_cons]; exact List.cons_ne_nil _ _), ih q,
      moreMembers]
    unfold memberText
    rw [List.append_assoc]
    rfl

lemma text_obj (m : List (Str × Json)) :
    text [] [] (obj m) =
      cu '{' :: join (cu ',') (m.map fun q => memberText (q.1, text [] [] q.2)) ++ [cu '}'] := by
  cases m with
  | nil => rfl
  | cons p m =>
    rw [join_members, text]
    simp [lineBreak]

mutual

theorem text_canonical : (a : Json) → text [] [] a.canonical = a.stableStringify
  | null => rfl
  | bool b => rfl
  | num n => rfl
  | str s => rfl
  | arr [] => rfl
  | arr (a :: l) => by
    rw [canonical, canonicalItems, text, stableStringify,
      join_items a l (text_canonicalItems (a :: l))]
    simp [lineBreak]
  | obj m => by
    have hmembers : (sortByKey (canonicalMembers m)).map (fun q => (q.1, text [] [] q.2)) =
        sortMembers (stringifyMembers m) := by
      unfold sortByKey sortMembers
      rw [List.map_insertionSort (fun p q : Str × Json => p.1 ≤ q.1)
        (fun p q : Str × Str => p.1 ≤ q.1) _ _ fun p _ q _ => Iff.rfl,
        canonicalMembers_eq, stringifyMembers_eq, List.map_map]
      congr 1
      apply List.map_congr_left
      intro p hp
      exact congrArg (Prod.mk p.1) (text_canonicalMembers m p hp)
    rw [canonical, text_obj, stableStringify, ← hmembers, List.map_map]
    rfl

theorem text_canonicalItems : (l : List Json) → ∀ a ∈ l,
    text [] [] a.canonical = a.stableStringify
  | [] => List.forall_mem_nil _
  | a :: l => List.forall_mem_cons.mpr ⟨text_canonical a, text_canonicalItems l⟩

theorem text_canonicalMembers : (m : List (Str × Json)) → ∀ p ∈ m,
    text [] [] p.2.canonical = p.2.stableStringify
  | [] => List.forall_mem_nil _
  | (_, a) :: m => List.forall_mem_cons.mpr ⟨text_canonical a, text_canonicalMembers m⟩

end

/-! ## Reading it -/

lemma keyedMembers_iff {m : List (Str × Json)} : KeyedMembers m ↔ ∀ p ∈ m, p.2.Keyed := by
  induction m with
  | nil => simp [KeyedMembers]
  | cons p m ih => rw [KeyedMembers, List.forall_mem_cons, ih]

mutual

theorem keyed_canonical : (a : Json) → a.Keyed → a.canonical.Keyed
  | null, _ => trivial
  | bool _, _ => trivial
  | num _, _ => trivial
  | str _, _ => trivial
  | arr l, h => by
    have hall : ∀ a ∈ l, a.Keyed := keyedItems_iff.mp h
    show KeyedItems (canonicalItems l)
    rw [keyedItems_iff, canonicalItems_eq, List.forall_mem_map]
    exact fun a ha => keyed_canonicalItems l a ha (hall a ha)
  | obj m, h => by
    have hall : ∀ p ∈ m, p.2.Keyed := keyedMembers_iff.mp h.2
    have hperm := perm_sortByKey (canonicalMembers m)
    have hkeys : (canonicalMembers m).map Prod.fst = m.map Prod.fst := by
      rw [canonicalMembers_eq, List.map_map]
      rfl
    refine ⟨?_, ?_⟩
    · rw [(hperm.map Prod.fst).nodup_iff, hkeys]
      exact h.1
    · rw [keyedMembers_iff]
      intro p hp
      obtain ⟨q, hq, rfl⟩ := List.mem_map.mp (canonicalMembers_eq m ▸ hperm.mem_iff.mp hp)
      exact keyed_canonicalMembers m q hq (hall q hq)

theorem keyed_canonicalItems : (l : List Json) → ∀ a ∈ l, a.Keyed → a.canonical.Keyed
  | [] => List.forall_mem_nil _
  | a :: l => List.forall_mem_cons.mpr ⟨keyed_canonical a, keyed_canonicalItems l⟩

theorem keyed_canonicalMembers : (m : List (Str × Json)) → ∀ p ∈ m, p.2.Keyed →
    p.2.canonical.Keyed
  | [] => List.forall_mem_nil _
  | (_, a) :: m => List.forall_mem_cons.mpr ⟨keyed_canonical a, keyed_canonicalMembers m⟩

end

/-- Parsing the stable text gives the canonical form. -/
theorem parse_stableStringify {a : Json} (h : a.Keyed) :
    parse? a.stableStringify = some a.canonical := by
  rw [← text_canonical a]
  exact parse_stringify (keyed_canonical a h)

lemma get?_eq_some_iff {m : List (Str × Json)} (h : (m.map Prod.fst).Nodup) {k : Str} {v : Json} :
    get? m k = some v ↔ (k, v) ∈ m := by
  induction m with
  | nil => simp [get?]
  | cons p m ih =>
    obtain ⟨j, w⟩ := p
    obtain ⟨hj, hm⟩ := List.nodup_cons.mp h
    rw [get?_cons, List.mem_cons, Prod.mk.injEq]
    split_ifs with hk
    · rw [Option.some.injEq]
      constructor
      · intro hw
        exact Or.inl ⟨hk, hw.symm⟩
      · intro hmem
        rcases hmem with hmem | hmem
        · exact hmem.2.symm
        · exact absurd (List.mem_map_of_mem hmem) (hk ▸ hj)
    · rw [ih hm]
      constructor
      · exact Or.inr
      · exact fun hmem => hmem.resolve_left fun hboth => hk hboth.1

/-- Two objects with one text agree key by key. -/
lemma get?_text {l r : List (Str × Json)} (hl : (l.map Prod.fst).Nodup)
    (hr : (r.map Prod.fst).Nodup) (h : (obj l).stableStringify = (obj r).stableStringify)
    (k : Str) : (get? l k).map stableStringify = (get? r k).map stableStringify := by
  have hmem : ∀ m : List (Str × Json), (m.map Prod.fst).Nodup → ∀ t : Str,
      (get? m k).map stableStringify = some t ↔
        (k, t) ∈ m.map fun p => (p.1, p.2.stableStringify) := by
    intro m hm t
    rw [Option.map_eq_some_iff, List.mem_map]
    constructor
    · intro hget
      obtain ⟨v, hv, rfl⟩ := hget
      exact ⟨(k, v), (get?_eq_some_iff hm).mp hv, rfl⟩
    · intro hin
      obtain ⟨p, hp, he⟩ := hin
      obtain ⟨rfl, rfl⟩ := Prod.mk.inj he
      exact ⟨p.2, (get?_eq_some_iff hm).mpr hp, rfl⟩
  apply Option.ext
  intro t
  rw [hmem l hl, hmem r hr, (stringify_obj_perm h).mem_iff]

/-- The members of the canonical form are the same, key by key. -/
lemma get?_canonical {m : List (Str × Json)} (h : (m.map Prod.fst).Nodup) (k : Str) :
    get? (sortByKey (canonicalMembers m)) k = (get? m k).map canonical := by
  have hperm := perm_sortByKey (canonicalMembers m)
  have hkeys : ((sortByKey (canonicalMembers m)).map Prod.fst).Nodup := by
    rw [(hperm.map Prod.fst).nodup_iff, canonicalMembers_eq, List.map_map]
    exact h
  apply Option.ext
  intro v
  rw [get?_eq_some_iff hkeys, hperm.mem_iff, canonicalMembers_eq, List.mem_map,
    Option.map_eq_some_iff]
  constructor
  · intro ⟨p, hp, he⟩
    obtain ⟨rfl, rfl⟩ := Prod.mk.inj he
    exact ⟨p.2, (get?_eq_some_iff h).mpr hp, rfl⟩
  · intro ⟨w, hw, he⟩
    exact ⟨(k, w), (get?_eq_some_iff h).mp hw, congrArg (Prod.mk k) he⟩

/-! ## The order of members -/

/-- The values are the same up to the order of the members of their objects. -/
inductive Reordered : Json → Json → Prop where
  | refl (a : Json) : Reordered a a
  | trans {a b c : Json} : Reordered a b → Reordered b c → Reordered a c
  | members {m m' : List (Str × Json)} : m.Perm m' → Reordered (obj m) (obj m')
  | member {a b : Json} (before after : List (Str × Json)) (k : Str) : Reordered a b →
      Reordered (obj (before ++ (k, a) :: after)) (obj (before ++ (k, b) :: after))
  | item {a b : Json} (before after : List Json) : Reordered a b →
      Reordered (arr (before ++ a :: after)) (arr (before ++ b :: after))

lemma Reordered.symm {a b : Json} (h : Reordered a b) : Reordered b a := by
  induction h with
  | refl a => exact refl a
  | trans _ _ ih ih' => exact ih'.trans ih
  | members hperm => exact members hperm.symm
  | member before after k _ ih => exact member before after k ih
  | item before after _ ih => exact item before after ih

lemma Reordered.items {l : List Json} (h : ∀ a ∈ l, Reordered a a.canonical) (before : List Json) :
    Reordered (arr (before ++ l)) (arr (before ++ canonicalItems l)) := by
  induction l generalizing before with
  | nil => exact refl _
  | cons a l ih =>
    obtain ⟨ha, hl⟩ := List.forall_mem_cons.mp h
    have hrest := ih hl (before ++ [a.canonical])
    rw [List.append_assoc, List.append_assoc] at hrest
    exact (item before l ha).trans hrest

lemma Reordered.values {m : List (Str × Json)} (h : ∀ p ∈ m, Reordered p.2 p.2.canonical)
    (before : List (Str × Json)) :
    Reordered (obj (before ++ m)) (obj (before ++ canonicalMembers m)) := by
  induction m generalizing before with
  | nil => exact refl _
  | cons p m ih =>
    obtain ⟨hp, hm⟩ := List.forall_mem_cons.mp h
    have hrest := ih hm (before ++ [(p.1, p.2.canonical)])
    rw [List.append_assoc, List.append_assoc] at hrest
    exact (member before m p.1 hp).trans hrest

mutual

theorem reordered_canonical : (a : Json) → Reordered a a.canonical
  | null => Reordered.refl _
  | bool _ => Reordered.refl _
  | num _ => Reordered.refl _
  | str _ => Reordered.refl _
  | arr l => Reordered.items (reordered_items l) []
  | obj m => (Reordered.values (reordered_members m) []).trans
      (Reordered.members (perm_sortByKey _).symm)

theorem reordered_items : (l : List Json) → ∀ a ∈ l, Reordered a a.canonical
  | [] => List.forall_mem_nil _
  | a :: l => List.forall_mem_cons.mpr ⟨reordered_canonical a, reordered_items l⟩

theorem reordered_members : (m : List (Str × Json)) → ∀ p ∈ m, Reordered p.2 p.2.canonical
  | [] => List.forall_mem_nil _
  | (_, a) :: m => List.forall_mem_cons.mpr ⟨reordered_canonical a, reordered_members m⟩

end

lemma sortMembers_eq_of_perm {m m' : List (Str × Str)} (h : m.Perm m')
    (hkeys : (m.map Prod.fst).Nodup) : sortMembers m = sortMembers m' := by
  have hsort : ∀ m : List (Str × Str), (sortMembers m).Perm m := List.perm_insertionSort _
  have hperm : (sortMembers m).Perm (sortMembers m') := (hsort m).trans (h.trans (hsort m').symm)
  have hsorted : ∀ m : List (Str × Str), ((sortMembers m).map Prod.fst).Pairwise (· ≤ ·) := by
    intro m
    have hpairs : (sortMembers m).Pairwise fun p q => p.1 ≤ q.1 := by
      unfold sortMembers
      exact List.pairwise_insertionSort _ m
    exact List.pairwise_map.mpr hpairs
  apply eq_of_perm_of_keys hperm
  · exact (hperm.map Prod.fst).eq_of_pairwise (fun _ _ _ _ => le_antisymm) (hsorted m) (hsorted m')
  · exact ((hsort m).map Prod.fst).nodup_iff.mpr hkeys

/-- A value with distinct keys stays one, and keeps its text. -/
lemma Reordered.stable {a b : Json} (h : Reordered a b) (ha : a.Keyed) :
    b.Keyed ∧ a.stableStringify = b.stableStringify := by
  induction h with
  | refl a => exact ⟨ha, rfl⟩
  | trans _ _ ih ih' =>
    obtain ⟨hb, htext⟩ := ih ha
    obtain ⟨hc, htext'⟩ := ih' hb
    exact ⟨hc, htext.trans htext'⟩
  | @members m m' hperm =>
    obtain ⟨hkeys, hvalues⟩ := ha
    refine ⟨⟨(hperm.map Prod.fst).nodup_iff.mp hkeys, ?_⟩, ?_⟩
    · rw [keyedMembers_iff] at hvalues ⊢
      exact fun p hp => hvalues p (hperm.mem_iff.mpr hp)
    · have htexts : (stringifyMembers m).Perm (stringifyMembers m') := by
        rw [stringifyMembers_eq, stringifyMembers_eq]
        exact hperm.map _
      have hnodup : ((stringifyMembers m).map Prod.fst).Nodup := by
        rw [stringifyMembers_eq, List.map_map]
        exact hkeys
      rw [stableStringify, stableStringify, sortMembers_eq_of_perm htexts hnodup]
  | @member a b before after k _ ih =>
    obtain ⟨hkeys, hvalues⟩ := ha
    obtain ⟨hbefore, ha, hafter⟩ := keyedMembers_append.mp hvalues
    obtain ⟨hb, htext⟩ := ih ha
    refine ⟨⟨?_, keyedMembers_append.mpr ⟨hbefore, hb, hafter⟩⟩, ?_⟩
    · simpa using hkeys
    · have htexts : stringifyMembers (before ++ (k, a) :: after) =
          stringifyMembers (before ++ (k, b) :: after) := by
        simp only [stringifyMembers_eq, List.map_append, List.map_cons, htext]
      rw [stableStringify, stableStringify, htexts]
  | @item a b before after _ ih =>
    have hall : ∀ c ∈ before ++ a :: after, c.Keyed := keyedItems_iff.mp ha
    obtain ⟨hb, htext⟩ := ih (hall a (by simp))
    refine ⟨?_, ?_⟩
    · show KeyedItems (before ++ b :: after)
      rw [keyedItems_iff]
      intro c hc
      rw [List.mem_append, List.mem_cons] at hc
      rcases hc with hc | rfl | hc
      · exact hall c (by simp [hc])
      · exact hb
      · exact hall c (by simp [hc])
    · have htexts : stringifyItems (before ++ a :: after) =
          stringifyItems (before ++ b :: after) := by
        simp only [stringifyItems_eq, List.map_append, List.map_cons, htext]
      rw [stableStringify, stableStringify, htexts]

/-- The text tells values apart that differ in more than the order of members. -/
theorem reordered_of_text {a b : Json} (ha : a.Keyed) (hb : b.Keyed)
    (h : a.stableStringify = b.stableStringify) : Reordered a b := by
  have hparse := parse_stableStringify ha
  rw [h, parse_stableStringify hb] at hparse
  have hcanonical := reordered_canonical a
  rw [← Option.some.inj hparse] at hcanonical
  exact hcanonical.trans (reordered_canonical b).symm

end Json

/-! ## Schemas -/

open Json

/-- What the schema reads does not depend on the order of the members. -/
class Schema.Unordered {α : Type} (s : Schema α) : Prop where
  read_canonical : ∀ {j a}, j.Keyed → s.read j = .ok a → s.read j.canonical = .ok a

class Slot.Unordered {α : Type} (slot : Slot α) : Prop where
  read_canonical : ∀ {j : Option Json} {a}, (∀ v ∈ j, v.Keyed) → slot.read j = .ok a →
    slot.read (j.map canonical) = .ok a

class Fields.Unordered {α : Type} (f : Fields α) : Prop where
  read_canonical : ∀ {get : Str → Option Json} {a}, (∀ k, ∀ v ∈ get k, v.Keyed) →
    f.read get = .ok a → f.read (fun k => (get k).map canonical) = .ok a

section

variable {α β : Type} {s : Schema α}

instance : Schema.string.Unordered where
  read_canonical {j a} _ h := by
    cases j <;> exact h

instance : Schema.boolean.Unordered where
  read_canonical {j a} _ h := by
    cases j <;> exact h

instance : Schema.number.Unordered where
  read_canonical {j a} _ h := by
    cases j <;> exact h

instance (text : Str) : (Schema.literal text).Unordered where
  read_canonical {j a} _ h := by
    unfold Schema.literal at h ⊢
    dsimp only at h ⊢
    split_ifs at h with hj
    rw [hj]
    exact if_pos rfl

instance {values : List α} {text : α → Str}
    {hfind : ∀ a, values.find? (fun v => text v = text a) = some a} :
    (Schema.enum values text hfind).Unordered where
  read_canonical {j a} _ h := by
    cases j <;> exact h

instance [hs : s.Unordered] (issues : α → List Issue) : (s.refine issues).Unordered where
  read_canonical hj h := by
    rw [Schema.read_refine] at h ⊢
    exact ⟨hs.read_canonical hj h.1, h.2⟩

instance : Schema.nonEmptyString.Unordered := inferInstanceAs (Schema.string.refine _).Unordered

instance [hs : s.Unordered] : s.array.Unordered where
  read_canonical {j r} hj h := by
    cases j with
    | arr l =>
      have hkeyed : ∀ a ∈ l, a.Keyed := keyedItems_iff.mp hj
      have hread : List.Forall₂ (fun j a => s.read j = .ok a) l r := Schema.readItems_eq_ok.mp h
      show Schema.readItems s 0 (canonicalItems l) = .ok r
      rw [Schema.readItems_eq_ok, canonicalItems_eq, List.forall₂_map_left_iff]
      clear h hj
      induction hread with
      | nil => exact List.Forall₂.nil
      | cons ha _ ih =>
        obtain ⟨hka, hkl⟩ := List.forall_mem_cons.mp hkeyed
        exact List.Forall₂.cons (hs.read_canonical hka ha) (ih hkl)
    | _ => exact nomatch h

instance [hs : s.Unordered] (e : α ≃ β) : (s.via e).Unordered where
  read_canonical hj h := by
    obtain ⟨a, ha, rfl⟩ := Parsed.map_eq_ok.mp h
    exact Parsed.map_eq_ok.mpr ⟨a, hs.read_canonical hj ha, rfl⟩

instance [hs : s.Unordered] : (Slot.required s).Unordered where
  read_canonical hj h := by
    obtain ⟨v, rfl, hread⟩ := Slot.read_required.mp h
    exact Slot.read_required.mpr ⟨v.canonical, rfl, hs.read_canonical (hj v rfl) hread⟩

instance : Fields.nil.Unordered where
  read_canonical _ h := h

instance {rest : Fields β} [hrest : rest.Unordered] {key : Str} {slot : Slot α}
    [hslot : slot.Unordered] : (Fields.cons key slot rest).Unordered where
  read_canonical {get ab} hget h := by
    obtain ⟨a, b⟩ := ab
    rw [Fields.read_cons] at h ⊢
    exact ⟨hslot.read_canonical (hget key) h.1, hrest.read_canonical hget h.2⟩

instance {f : Fields α} [hf : f.Unordered] (e : α ≃ β) : (f.via e).Unordered where
  read_canonical hget h := by
    rw [Fields.read_via] at h ⊢
    exact hf.read_canonical hget h

/-- Whether a key is unknown does not depend on where it stands. -/
lemma unrecognizedKeys_eq_nil {keys : List Str} {m : List (Str × Json)} :
    Schema.unrecognizedKeys keys m = [] ↔ ∀ p ∈ m, p.1 ∈ keys := by
  unfold Schema.unrecognizedKeys
  dsimp only
  split_ifs with h
  · rw [List.filter_eq_nil_iff, List.forall_mem_map] at h
    simpa using h
  · rw [List.filter_eq_nil_iff, List.forall_mem_map] at h
    simp only [issue, List.cons_ne_nil, false_iff]
    intro hall
    exact h fun p hp => by simpa using hall p hp

lemma Schema.read_strictObject {f : Fields α} {hkeys : f.keys.Nodup} {m : List (Str × Json)}
    {a : α} : (strictObject f hkeys).read (.obj m) = .ok a ↔
      f.read (Json.get? m) = .ok a ∧ ∀ p ∈ m, p.1 ∈ f.keys := by
  rw [← unrecognizedKeys_eq_nil]
  show (fun a => a.1) <$> Parsed.both (f.read (Json.get? m))
    (if unrecognizedKeys f.keys m = [] then .ok () else .error (unrecognizedKeys f.keys m)) =
      .ok a ↔ _
  rw [Parsed.map_eq_ok]
  constructor
  · intro ⟨⟨b, u⟩, hboth, hb⟩
    obtain ⟨hread, hnone⟩ := Parsed.both_eq_ok.mp hboth
    split_ifs at hnone with h
    exact ⟨hb ▸ hread, h⟩
  · intro ⟨hread, h⟩
    exact ⟨(a, ()), Parsed.both_eq_ok.mpr ⟨hread, if_pos h⟩, rfl⟩

instance {f : Fields α} [hf : f.Unordered] (hkeys : f.keys.Nodup) :
    (Schema.strictObject f hkeys).Unordered where
  read_canonical {j a} hj h := by
    cases j with
    | obj m =>
      obtain ⟨hread, hknown⟩ := Schema.read_strictObject.mp h
      have hvalues : ∀ p ∈ m, p.2.Keyed := keyedMembers_iff.mp hj.2
      refine Schema.read_strictObject.mpr ⟨?_, ?_⟩
      · rw [funext (get?_canonical hj.1)]
        apply hf.read_canonical _ hread
        intro k v hv
        exact hvalues _ ((get?_eq_some_iff hj.1).mp hv)
      · intro p hp
        rw [(perm_sortByKey _).mem_iff, canonicalMembers_eq] at hp
        obtain ⟨q, hq, rfl⟩ := List.mem_map.mp hp
        exact hknown q hq
    | _ => exact nomatch h

instance {f : Fields α} [h : f.Keyed] (hkeys : f.keys.Nodup) :
    (Schema.strictObject f hkeys).Keyed :=
  ⟨fun a => ⟨hkeys.sublist (h.sublist a), h.values a⟩⟩

/-- A valid value is read back from its stable text. -/
theorem Schema.read_stableStringify [hu : s.Unordered] [hk : s.Keyed] {a : α} (h : s.Valid a) :
    ∃ j, parse? (s.write a).stableStringify = some j ∧ s.read j = .ok a :=
  ⟨_, parse_stableStringify (hk.keyed a), hu.read_canonical (hk.keyed a) h⟩

/-- Two valid values with one stable text are the same. -/
theorem Schema.stableStringify_injOn [s.Unordered] [s.Keyed] {a b : α} (ha : s.Valid a)
    (hb : s.Valid b) (h : (s.write a).stableStringify = (s.write b).stableStringify) : a = b := by
  obtain ⟨j, hparse, hread⟩ := Schema.read_stableStringify ha
  obtain ⟨j', hparse', hread'⟩ := Schema.read_stableStringify hb
  rw [h, hparse'] at hparse
  obtain rfl := Option.some.inj hparse
  exact Except.ok.inj (hread.symm.trans hread')

end

end Js
