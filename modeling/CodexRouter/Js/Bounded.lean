import CodexRouter.Js.Strict

/-!
# Bounded texts and lists

Texts and lists whose length lies between two bounds, and literals that are truth values.
-/

namespace Js

/-- `min(least).max(most)`, of so many characters or elements; the upper bound may be missing. -/
def lengthIssues (kind : String) (unit : String) (least : ℕ) (most : Option ℕ) (count : ℕ) :
    List Issue :=
  require (least ≤ count) []
      (js kind ++ js " must contain at least " ++ Json.natText least ++ js unit)
    ++ optionally (fun bound => require (count ≤ bound) []
      (js kind ++ js " must contain at most " ++ Json.natText bound ++ js unit)) most

lemma lengthIssues_eq_nil {kind unit : String} {least : ℕ} {most : Option ℕ} {count : ℕ} :
    lengthIssues kind unit least most count = [] ↔ least ≤ count ∧ ∀ bound ∈ most, count ≤ bound := by
  unfold lengthIssues
  rw [List.append_eq_nil_iff, require_eq_nil, optionally_eq_nil, decide_eq_true_eq]
  simp only [require_eq_nil, decide_eq_true_eq]

namespace Schema

/-- `z.string().min(least).max(most)`. -/
def boundedString (least : ℕ) (most : Option ℕ) : Schema Str :=
  string.refine fun text => lengthIssues "String" " character(s)" least most text.length

lemma valid_boundedString {least : ℕ} {most : Option ℕ} {text : Str} :
    (boundedString least most).Valid text ↔
      least ≤ text.length ∧ ∀ bound ∈ most, text.length ≤ bound := by
  unfold boundedString
  rw [valid_refine, lengthIssues_eq_nil]
  exact and_iff_right (valid_string text)

instance {least : ℕ} {most : Option ℕ} : (boundedString least most).Keyed :=
  inferInstanceAs (string.refine _).Keyed

instance {least : ℕ} {most : Option ℕ} : (boundedString least most).Unordered :=
  inferInstanceAs (string.refine _).Unordered

instance {least : ℕ} {most : Option ℕ} : (boundedString least most).Exact :=
  inferInstanceAs (string.refine _).Exact

/-! ## Lists -/

section
variable {α : Type} {s : Schema α} {least : ℕ} {most : Option ℕ}

/-- The issues of the length of an array come with those of its items. -/
def readBounded (s : Schema α) (least : ℕ) (most : Option ℕ) (l : List Json) : Parsed (List α) :=
  let issues := lengthIssues "Array" " element(s)" least most l.length
  Prod.snd <$> Parsed.both (if issues = [] then .ok () else .error issues) (readItems s 0 l)

lemma readBounded_eq_ok {l : List Json} {r : List α} : readBounded s least most l = .ok r ↔
    readItems s 0 l = .ok r ∧ least ≤ r.length ∧ ∀ bound ∈ most, r.length ≤ bound := by
  have hlength : readItems s 0 l = .ok r → l.length = r.length :=
    fun h => (readItems_eq_ok.mp h).length_eq
  unfold readBounded
  dsimp only
  rw [Parsed.map_eq_ok]
  constructor
  · rintro ⟨⟨u, b⟩, hboth, rfl⟩
    rw [Parsed.both_eq_ok] at hboth
    refine ⟨hboth.2, ?_⟩
    rw [← hlength hboth.2]
    by_contra hnot
    rw [← @lengthIssues_eq_nil "Array" " element(s)"] at hnot
    rw [if_neg hnot] at hboth
    exact nomatch hboth.1
  · rintro ⟨hread, hbounds⟩
    refine ⟨((), r), Parsed.both_eq_ok.mpr ⟨if_pos ?_, hread⟩, rfl⟩
    rw [lengthIssues_eq_nil, hlength hread]
    exact hbounds

/-- `z.array(item).min(least).max(most)`. -/
def boundedArray (s : Schema α) (least : ℕ) (most : Option ℕ) : Schema (List α) where
  read
    | .arr l => readBounded s least most l
    | j => expected "array" j
  write := s.array.write
  stable {j r} h := by
    cases j with
    | arr l =>
      obtain ⟨hread, hbounds⟩ := readBounded_eq_ok.mp h
      exact readBounded_eq_ok.mpr ⟨s.array.stable (j := .arr l) hread, hbounds⟩
    | _ => simp [expected] at h

lemma read_boundedArray {j : Json} {r : List α} : (boundedArray s least most).read j = .ok r ↔
    s.array.read j = .ok r ∧ least ≤ r.length ∧ ∀ bound ∈ most, r.length ≤ bound := by
  cases j with
  | arr l => exact readBounded_eq_ok
  | _ => simp [boundedArray, array, expected]

lemma valid_boundedArray {r : List α} : (boundedArray s least most).Valid r ↔
    (∀ a ∈ r, s.Valid a) ∧ least ≤ r.length ∧ ∀ bound ∈ most, r.length ≤ bound := by
  rw [← valid_array]
  exact read_boundedArray

instance [s.Keyed] : (boundedArray s least most).Keyed :=
  ⟨(inferInstance : s.array.Keyed).keyed⟩

instance [s.Unordered] : (boundedArray s least most).Unordered where
  read_canonical hj hread := by
    rw [read_boundedArray] at hread ⊢
    exact ⟨(inferInstance : s.array.Unordered).read_canonical hj hread.1, hread.2⟩

instance [s.Exact] : (boundedArray s least most).Exact where
  copies a b hread :=
    (inferInstance : s.array.Exact).copies a b (read_boundedArray.mp hread).1

end

/-! ## Truth values -/

/-- `z.literal(value)`, of a truth value. -/
def literalBool (value : Bool) : Schema Unit where
  read j :=
    if j = .bool value then .ok ()
    else .error (issue [] (js "Invalid literal value, expected "
      ++ if value then js "true" else js "false"))
  write _ := .bool value
  stable _ := if_pos rfl

lemma valid_literalBool {value : Bool} (a : Unit) : (literalBool value).Valid a := if_pos rfl

instance {value : Bool} : (literalBool value).Keyed := ⟨fun _ => trivial⟩

instance {value : Bool} : (literalBool value).Unordered where
  read_canonical {j a} _ h := by
    unfold literalBool at h ⊢
    dsimp only at h ⊢
    split_ifs at h with hj
    rw [hj]
    exact if_pos rfl

instance {value : Bool} : (literalBool value).Exact := ⟨fun _ _ _ => rfl⟩

end Schema

end Js
