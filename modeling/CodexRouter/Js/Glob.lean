import Mathlib.Data.List.Basic

/-!
# Globs

A glob is a text over any alphabet in which one letter, the star, stands for a part of the text it
is laid over. Two stars stand for any part that is admitted under them, a remaining star for any
part without separator, and every other letter for itself.
-/

namespace Glob

variable {α β : Type*}

/-- The text can be laid over the pattern. -/
inductive Matches (star sep : α) (under : List α → Prop) : List α → List α → Prop
  | nil : Matches star sep under [] []
  | doubleStar {pattern text : List α} (part : List α) (hpart : under part) :
    Matches star sep under pattern text →
      Matches star sep under (star :: star :: pattern) (part ++ text)
  | star {pattern text : List α} (part : List α) (hpart : sep ∉ part)
      (hlone : pattern.head? ≠ some star) :
    Matches star sep under pattern text → Matches star sep under (star :: pattern) (part ++ text)
  | literal {pattern text : List α} {c : α} (hc : c ≠ star) :
    Matches star sep under pattern text → Matches star sep under (c :: pattern) (c :: text)

variable {star sep : α} {under under' : List α → Prop} {pattern text : List α}

lemma Matches.mono (hunder : ∀ part, under part → under' part)
    (h : Matches star sep under pattern text) : Matches star sep under' pattern text := by
  induction h with
  | nil => exact Matches.nil
  | doubleStar part hpart _ ih => exact Matches.doubleStar part (hunder part hpart) ih
  | star part hpart hlone _ ih => exact Matches.star part hpart hlone ih
  | literal hc _ ih => exact Matches.literal hc ih

/-! ## What is laid over each piece of a pattern -/

lemma matches_nil : Matches star sep under [] text ↔ text = [] := by
  constructor
  · intro h
    cases h
    rfl
  · intro h
    rw [h]
    exact Matches.nil

lemma matches_doubleStar : Matches star sep under (star :: star :: pattern) text ↔
    ∃ part rest, text = part ++ rest ∧ under part ∧ Matches star sep under pattern rest := by
  constructor
  · intro h
    cases h with
    | doubleStar part hpart h => exact ⟨part, _, rfl, hpart, h⟩
    | star part hpart hlone h => exact absurd rfl hlone
    | literal hc h => exact absurd rfl hc
  · intro h
    obtain ⟨part, rest, rfl, hpart, h⟩ := h
    exact Matches.doubleStar part hpart h

lemma matches_star (hlone : pattern.head? ≠ some star) :
    Matches star sep under (star :: pattern) text ↔
      ∃ part rest, text = part ++ rest ∧ sep ∉ part ∧ Matches star sep under pattern rest := by
  constructor
  · intro h
    cases h with
    | doubleStar part hpart h => exact absurd rfl hlone
    | star part hpart hlone h => exact ⟨part, _, rfl, hpart, h⟩
    | literal hc h => exact absurd rfl hc
  · intro h
    obtain ⟨part, rest, rfl, hpart, h⟩ := h
    exact Matches.star part hpart hlone h

lemma matches_literal {c : α} (hc : c ≠ star) :
    Matches star sep under (c :: pattern) text ↔
      ∃ rest, text = c :: rest ∧ Matches star sep under pattern rest := by
  constructor
  · intro h
    cases h with
    | doubleStar part hpart h => exact absurd rfl hc
    | star part hpart hlone h => exact absurd rfl hc
    | literal hc h => exact ⟨_, rfl, h⟩
  · intro h
    obtain ⟨rest, rfl, h⟩ := h
    exact Matches.literal hc h

/-! ## Separators -/

/-- Without two stars in a row a text has the separators of the pattern, and no others. -/
theorem Matches.count_sep [DecidableEq α] (hsep : sep ≠ star)
    (h : Matches star sep under pattern text) (hlone : ¬ [star, star] <:+: pattern) :
    text.count sep = pattern.count sep := by
  induction h with
  | nil => rfl
  | doubleStar part hpart _ ih => exact absurd (List.prefix_append [star, star] _).isInfix hlone
  | star part hpart _ _ ih =>
    have hrest := ih fun hinside => hlone (hinside.trans (List.suffix_cons _ _).isInfix)
    rw [List.count_append, List.count_eq_zero_of_not_mem hpart, hrest,
      List.count_cons_of_ne hsep.symm, Nat.zero_add]
  | literal hc _ ih =>
    have hrest := ih fun hinside => hlone (hinside.trans (List.suffix_cons _ _).isInfix)
    rw [List.count_cons, List.count_cons, hrest]

/-! ## Encodings -/

/-- A code that writes the star and the separator as single letters, and uses them for nothing
else, keeps what matches. -/
theorem Matches.encode {star' sep' : β} {underCode : List β → Prop} (code : α → List β)
    (hstar : code star = [star']) (hother : ∀ c, c ≠ star → code c ≠ [] ∧ star' ∉ code c)
    (hsep : ∀ c, sep' ∈ code c → c = sep)
    (hunder : ∀ part, under part → underCode (part.flatMap code))
    (h : Matches star sep under pattern text) :
    Matches star' sep' underCode (pattern.flatMap code) (text.flatMap code) := by
  induction h with
  | nil => exact Matches.nil
  | doubleStar part hpart _ ih =>
    rw [List.flatMap_append, List.flatMap_cons, List.flatMap_cons, hstar]
    exact Matches.doubleStar _ (hunder part hpart) ih
  | @star pattern text part hpart hlone _ ih =>
    rw [List.flatMap_append, List.flatMap_cons, hstar]
    apply Matches.star
    · intro hmem
      obtain ⟨c, hc, hin⟩ := List.mem_flatMap.mp hmem
      exact hpart (hsep c hin ▸ hc)
    · cases pattern with
      | nil => simp
      | cons c pattern =>
        have hc : c ≠ star := fun he => hlone (by rw [he]; rfl)
        obtain ⟨d, ds, hcode⟩ := List.exists_cons_of_ne_nil (hother c hc).1
        have hd := (hother c hc).2
        rw [hcode] at hd
        rw [List.flatMap_cons, hcode]
        intro he
        have he : d = star' := by simpa using he
        rw [he] at hd
        exact hd List.mem_cons_self
    · exact ih
  | @literal pattern text c hc _ ih =>
    rw [List.flatMap_cons, List.flatMap_cons]
    have hletters : ∀ letters : List β, star' ∉ letters →
        Matches star' sep' underCode (letters ++ pattern.flatMap code)
          (letters ++ text.flatMap code) := by
      intro letters hletters
      induction letters with
      | nil => exact ih
      | cons d letters ihLetters =>
        rw [List.mem_cons, not_or] at hletters
        exact Matches.literal (Ne.symm hletters.1) (ihLetters hletters.2)
    exact hletters (code c) (hother c hc).2

end Glob
