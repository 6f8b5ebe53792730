import CodexRouter.Js.RegExp
import CodexRouter.Preview.Policy

/-!
# The expression of a pattern

A pattern becomes a regular expression by three replacements, with `NUL` in the place of `**` in
between. The expression is read back as the tokens of the pattern.
-/

open Js

namespace CodexRouter.Preview
open Kernel Authorization

/-! ## The expression of a pattern -/

/-- `/[.+^${}()|[\]\\]/`. -/
def isEscaped (c : CodeUnit) : Bool := (js ".+^$\x7b\x7d()|[]\\").contains c

def escapeUnit (c : CodeUnit) : Str := if isEscaped c then [cu '\\', c] else [c]

/-- `replace(/\*\*/g, "\0")`. -/
def replaceDoubleStar : Str → Str
  | c :: d :: s =>
    if c = cu '*' ∧ d = cu '*' then 0 :: replaceDoubleStar s else c :: replaceDoubleStar (d :: s)
  | s => s

def patternExpression (pattern : Str) : Str :=
  let escaped := pattern.flatMap escapeUnit
  let withDoubleStar := replaceDoubleStar escaped
  let withSingleStar := withDoubleStar.flatMap fun c => if c = cu '*' then js "[^/]*" else [c]
  withSingleStar.flatMap fun c => if c = 0 then js ".*" else [c]

/-- `new RegExp(...).test(path)` for a pattern that was normalized. -/
def testExpression (pattern path : Str) : Option Bool :=
  RegExp.test (codePoints (js "^" ++ patternExpression pattern ++ js "$")) (codePoints path)

lemma replaceDoubleStar_cons {c : CodeUnit} (hc : c ≠ cu '*') (s : Str) :
    replaceDoubleStar (c :: s) = c :: replaceDoubleStar s := by
  cases s with
  | nil => rfl
  | cons d s => rw [replaceDoubleStar, if_neg fun h => hc h.1]

lemma replaceDoubleStar_lone {s : Str} (hlone : s.head? ≠ some (cu '*')) :
    replaceDoubleStar (cu '*' :: s) = cu '*' :: replaceDoubleStar s := by
  cases s with
  | nil => rfl
  | cons d s => rw [replaceDoubleStar, if_neg fun h => hlone (by rw [h.2]; rfl)]

lemma head_escapeUnit {c : CodeUnit} (s : Str) :
    (escapeUnit c ++ s).head? = some (cu '\\') ∨ (escapeUnit c ++ s).head? = some c := by
  unfold escapeUnit
  split_ifs
  · exact Or.inl rfl
  · exact Or.inr rfl

lemma patternExpression_nil : patternExpression [] = [] := rfl

lemma patternExpression_doubleStar (s : Str) :
    patternExpression (cu '*' :: cu '*' :: s) = js ".*" ++ patternExpression s := by
  unfold patternExpression
  dsimp only
  have hescaped : (cu '*' :: cu '*' :: s).flatMap escapeUnit =
      cu '*' :: cu '*' :: s.flatMap escapeUnit := rfl
  rw [hescaped, replaceDoubleStar, if_pos ⟨rfl, rfl⟩]
  rfl

lemma patternExpression_star {s : Str} (hlone : s.head? ≠ some (cu '*')) :
    patternExpression (cu '*' :: s) = js "[^/]*" ++ patternExpression s := by
  unfold patternExpression
  dsimp only
  have hescaped : (cu '*' :: s).flatMap escapeUnit = cu '*' :: s.flatMap escapeUnit := rfl
  have hhead : (s.flatMap escapeUnit).head? ≠ some (cu '*') := by
    cases s with
    | nil => exact hlone
    | cons c s =>
      rw [List.flatMap_cons]
      rcases head_escapeUnit (s.flatMap escapeUnit) with h | h
      · rw [h]
        decide
      · rw [h]
        exact hlone
  rw [hescaped, replaceDoubleStar_lone hhead]
  rfl

lemma patternExpression_literal {c : CodeUnit} (hc : c ≠ cu '*') (hnul : c ≠ 0) (s : Str) :
    patternExpression (c :: s) = escapeUnit c ++ patternExpression s := by
  unfold patternExpression
  dsimp only
  have hback : cu '\\' ≠ cu '*' ∧ cu '\\' ≠ 0 := by decide
  rw [List.flatMap_cons]
  unfold escapeUnit
  split_ifs
  · rw [List.cons_append, List.singleton_append, replaceDoubleStar_cons hback.1,
      replaceDoubleStar_cons hc]
    simp [hback.1, hback.2, hc, hnul]
  · rw [List.singleton_append, replaceDoubleStar_cons hc]
    simp [hc, hnul]

/-! ## Surrogates -/

/-- A text whose surrogates come in pairs; a high surrogate may stand last. -/
inductive Paired : Str → Prop
  | nil : Paired []
  | last {c : CodeUnit} (hc : Json.isHighSurrogate c = true) : Paired [c]
  | plain {c : CodeUnit} {s : Str} (hhigh : Json.isHighSurrogate c = false)
    (hlow : Json.isLowSurrogate c = false) : Paired s → Paired (c :: s)
  | pair {c d : CodeUnit} {s : Str} (hc : Json.isHighSurrogate c = true)
    (hd : Json.isLowSurrogate d = true) : Paired s → Paired (c :: d :: s)

lemma not_low_of_high {c : CodeUnit} (h : Json.isHighSurrogate c = true) :
    Json.isLowSurrogate c = false := by
  simp only [Json.isHighSurrogate, Json.isLowSurrogate, Bool.and_eq_true, decide_eq_true_eq,
    Bool.and_eq_false_iff, decide_eq_false_iff_not] at h ⊢
  omega

lemma le_of_isLowSurrogate {c : CodeUnit} (h : Json.isLowSurrogate c = true) : 0xdc00 ≤ c.val := by
  simp only [Json.isLowSurrogate, Bool.and_eq_true, decide_eq_true_eq] at h
  exact h.1

theorem paired_of_not_unpaired : ∀ s : Str, hasUnpairedUtf16Surrogate s = false → Paired s
  | [], _ => Paired.nil
  | [c], h => by
    by_cases hc : Json.isHighSurrogate c = true
    · exact Paired.last hc
    · exact Paired.plain (Bool.not_eq_true _ ▸ hc) h Paired.nil
  | c :: d :: s, h => by
    unfold hasUnpairedUtf16Surrogate at h
    split_ifs at h with hc hd hl
    · exact Paired.pair hc hd (paired_of_not_unpaired s h)
    · exact Paired.plain (Bool.not_eq_true _ ▸ hc) (Bool.not_eq_true _ ▸ hl)
        (paired_of_not_unpaired (d :: s) h)

/-- Behind a unit that is no high surrogate the rest is paired. -/
lemma Paired.tail {c : CodeUnit} {s : Str} (h : Paired (c :: s))
    (hc : Json.isHighSurrogate c = false) : Paired s := by
  cases h with
  | last hhigh => exact Paired.nil
  | plain _ _ hs => exact hs
  | pair hhigh _ _ =>
    rw [hc] at hhigh
    cases hhigh

lemma codePoints_cons {c : CodeUnit} (hc : Json.isHighSurrogate c = false) (s : Str) :
    codePoints (c :: s) = c.val :: codePoints s := by
  cases s with
  | nil => rfl
  | cons d s =>
    rw [codePoints, hc]
    rfl

lemma codePoints_high {c d : CodeUnit} (hd : Json.isLowSurrogate d = false) (s : Str) :
    codePoints (c :: d :: s) = c.val :: codePoints (d :: s) := by
  rw [codePoints, hd, Bool.and_false]
  rfl

lemma codePoints_pair {c d : CodeUnit} (hc : Json.isHighSurrogate c = true)
    (hd : Json.isLowSurrogate d = true) (s : Str) : codePoints (c :: d :: s) =
      (0x10000 + (c.val - 0xd800) * 0x400 + (d.val - 0xdc00)) :: codePoints s := by
  rw [codePoints, hc, hd]
  rfl

/-- The first code point is the first unit, or lies beyond all units. -/
lemma head_codePoints (c : CodeUnit) (s : Str) : (codePoints (c :: s)).head? = some c.val ∨
    ∃ v, 0x10000 ≤ v ∧ (codePoints (c :: s)).head? = some v := by
  cases s with
  | nil => exact Or.inl rfl
  | cons d s =>
    unfold codePoints
    split_ifs
    · right
      use 0x10000 + (c.val - 0xd800) * 0x400 + (d.val - 0xdc00)
      constructor
      · omega
      · rfl
    · exact Or.inl rfl

/-! ## Reading the expression -/

def termOf : PatternToken → RegExp.Term
  | .literal c => .one (.char c)
  | .star => .many (.except 0x2f)
  | .doubleStar => .many .any

/-- The terms of a pattern match, up to the end of the subject, what its tokens match. -/
theorem matchTerms_tokens (tokens : List PatternToken) (atStart : Bool) (text : List ℕ) :
    RegExp.matchTerms (tokens.map termOf ++ [RegExp.Term.finish]) atStart text =
      matchTokens tokens text := by
  induction tokens generalizing atStart text with
  | nil =>
    cases text with
    | nil => rfl
    | cons c text => rfl
  | cons token tokens ih =>
    rw [List.map_cons, List.cons_append]
    cases token with
    | literal c =>
      cases text with
      | nil => rfl
      | cons d text =>
        rw [termOf, RegExp.matchTerms, matchTokens, ih, RegExp.Atom.takes, List.head?_cons,
          List.tail_cons]
        simp only [Option.some.injEq, eq_comm]
    | star =>
      rw [termOf, RegExp.matchTerms, matchTokens]
      simp only [ih]
      rfl
    | doubleStar =>
      rw [termOf, RegExp.matchTerms, matchTokens]
      simp only [ih]
      congr 1
      funext n
      congr 2
      funext c
      simp only [RegExp.Atom.takes, RegExp.isLineTerminator, Bool.not_or, ne_eq]
      grind

/-- What the path guard leaves of a pattern: no placeholder, and no operator that the replacements
would not escape. -/
structure Readable (pattern : Str) : Prop where
  paired : Paired pattern
  no_nul : 0 ∉ pattern
  no_question : cu '?' ∉ pattern

lemma Readable.tail {c : CodeUnit} {s : Str} (h : Readable (c :: s))
    (hc : Json.isHighSurrogate c = false) : Readable s where
  paired := h.paired.tail hc
  no_nul hmem := h.no_nul (List.mem_cons_of_mem c hmem)
  no_question hmem := h.no_question (List.mem_cons_of_mem c hmem)

lemma syntaxCharacters_toList : "^$\\.*+?()[]\x7b\x7d|".toList =
    ['^', '$', '\\', '.', '*', '+', '?', '(', ')', '[', ']', '\x7b', '\x7d', '|'] := rfl

lemma isSyntaxCharacter_val (c : CodeUnit) : RegExp.isSyntaxCharacter c.val = true ↔
    isEscaped c = true ∨ c = cu '*' ∨ c = cu '?' := by
  unfold RegExp.isSyntaxCharacter isEscaped
  rw [syntaxCharacters_toList]
  simp [js, cu, Fin.ext_iff]
  grind

lemma lt_of_isSyntaxCharacter {v : ℕ} (h : RegExp.isSyntaxCharacter v = true) : v < 0x80 := by
  unfold RegExp.isSyntaxCharacter at h
  rw [syntaxCharacters_toList] at h
  simp only [List.any_cons, List.any_nil, Bool.or_eq_true, decide_eq_true_eq, Char.reduceToNat,
    Bool.or_false] at h
  omega

lemma not_high_of_escaped {c : CodeUnit} (h : isEscaped c = true) :
    Json.isHighSurrogate c = false := by
  have hlt := lt_of_isSyntaxCharacter ((isSyntaxCharacter_val c).mpr (Or.inl h))
  simp only [Json.isHighSurrogate, Bool.and_eq_false_iff, decide_eq_false_iff_not]
  omega

/-- No piece of an expression begins with a quantifier. -/
lemma head_expression {s : Str} (h : Readable s) :
    (codePoints (patternExpression s ++ js "$")).head? ≠ some '*'.toNat := by
  have hfirst : ∀ t : Str, t.head? ≠ some (cu '*') → t ≠ [] →
      (codePoints t).head? ≠ some '*'.toNat := by
    intro t ht hne
    cases t with
    | nil => exact absurd rfl hne
    | cons c t =>
      rcases head_codePoints c t with hc | ⟨v, hv, hc⟩
      · rw [hc]
        intro he
        apply ht
        rw [List.head?_cons, Option.some.injEq]
        exact Fin.ext (Option.some.inj he)
      · rw [hc]
        intro he
        rw [Option.some.inj he] at hv
        exact absurd hv (by decide)
  apply hfirst
  · cases s with
    | nil => decide
    | cons c s =>
      by_cases hc : c = cu '*'
      · rw [hc]
        by_cases hlone : s.head? = some (cu '*')
        · obtain ⟨t, rfl⟩ : ∃ t, s = cu '*' :: t := by
            cases s with
            | nil => cases hlone
            | cons d t => exact ⟨t, by rw [Option.some.inj hlone]⟩
          rw [patternExpression_doubleStar, List.append_assoc]
          exact fun he => absurd (Option.some.inj he) (by decide)
        · rw [patternExpression_star hlone, List.append_assoc]
          exact fun he => absurd (Option.some.inj he) (by decide)
      · have hnul : c ≠ 0 := fun he => h.no_nul (he ▸ List.mem_cons_self)
        rw [patternExpression_literal hc hnul, List.append_assoc]
        rcases head_escapeUnit (c := c) (patternExpression s ++ js "$") with he | he
        · rw [he]
          decide
        · rw [he]
          exact fun hs => hc (Option.some.inj hs)
  · exact List.append_ne_nil_of_right_ne_nil _ (by decide)

/-- A character that is no operator is read as itself. -/
lemma parse_literal {v : ℕ} {rest : List ℕ} (hv : RegExp.isSyntaxCharacter v = false)
    (hrest : rest.head? ≠ some '*'.toNat) :
    RegExp.parse (v :: rest) = (RegExp.parse rest).map (RegExp.Term.one (.char v) :: ·) := by
  have hne : ∀ d, RegExp.isSyntaxCharacter d = true → v ≠ d := by
    intro d hd he
    rw [he, hd] at hv
    cases hv
  apply RegExp.parse_one _ _ _ hrest
  · exact fun he => hne _ (by decide) (Option.some.inj he)
  · exact fun he => hne _ (by decide) (Option.some.inj he)
  · unfold RegExp.readAtom
    dsimp only
    rw [if_neg (hne _ (by decide)), if_neg (hne _ (by decide)), if_neg (hne _ (by decide)), hv]
    rfl

lemma parse_escaped {v : ℕ} {rest : List ℕ} (hv : RegExp.isSyntaxCharacter v = true)
    (hrest : rest.head? ≠ some '*'.toNat) : RegExp.parse ('\\'.toNat :: v :: rest) =
      (RegExp.parse rest).map (RegExp.Term.one (.char v) :: ·) := by
  apply RegExp.parse_one _ _ _ hrest
  · exact fun he => absurd (Option.some.inj he) (by decide)
  · exact fun he => absurd (Option.some.inj he) (by decide)
  · unfold RegExp.readAtom
    dsimp only
    rw [if_pos rfl, if_pos hv]

lemma parse_any (rest : List ℕ) : RegExp.parse ('.'.toNat :: '*'.toNat :: rest) =
    (RegExp.parse rest).map (RegExp.Term.many .any :: ·) := by
  apply RegExp.parse_many
  · exact fun he => absurd (Option.some.inj he) (by decide)
  · exact fun he => absurd (Option.some.inj he) (by decide)
  · rfl

lemma parse_except (rest : List ℕ) :
    RegExp.parse ('['.toNat :: '^'.toNat :: '/'.toNat :: ']'.toNat :: '*'.toNat :: rest) =
      (RegExp.parse rest).map (RegExp.Term.many (.except 0x2f) :: ·) := by
  apply RegExp.parse_many
  · exact fun he => absurd (Option.some.inj he) (by decide)
  · exact fun he => absurd (Option.some.inj he) (by decide)
  · rfl

/-- A low surrogate is written as it is. -/
lemma patternExpression_low {d : CodeUnit} (hd : Json.isLowSurrogate d = true) (s : Str) :
    patternExpression (d :: s) = d :: patternExpression s := by
  have hfar := le_of_isLowSurrogate hd
  have hstar : d ≠ cu '*' := by
    intro he
    have hval : d.val = 0x2a := by rw [he]; rfl
    omega
  have hzero : d ≠ 0 := by
    intro he
    have hval : d.val = 0 := by rw [he]; rfl
    omega
  have hplain : isEscaped d = false := by
    rw [← Bool.not_eq_true]
    intro he
    have hlt := lt_of_isSyntaxCharacter ((isSyntaxCharacter_val d).mpr (Or.inl he))
    omega
  rw [patternExpression_literal hstar hzero]
  unfold escapeUnit
  rw [hplain]
  rfl

lemma patternTokens_doubleStar (cs : List ℕ) :
    patternTokens (0x2a :: 0x2a :: cs) = .doubleStar :: patternTokens cs := rfl

lemma patternTokens_star {cs : List ℕ} (hlone : cs.head? ≠ some 0x2a) :
    patternTokens (0x2a :: cs) = .star :: patternTokens cs := by
  cases cs with
  | nil => rfl
  | cons d cs =>
    have hd : d ≠ 0x2a := fun he => hlone (by rw [he]; rfl)
    rw [patternTokens, if_pos rfl, if_neg hd]

lemma patternTokens_literal {c : ℕ} (hc : c ≠ 0x2a) (cs : List ℕ) :
    patternTokens (c :: cs) = .literal c :: patternTokens cs := by
  cases cs with
  | nil =>
    show [if c = 0x2a then PatternToken.star else .literal c] = _
    rw [if_neg hc]
    rfl
  | cons d cs => rw [patternTokens, if_neg hc]

lemma val_ne_star {c : CodeUnit} (hc : c ≠ cu '*') : c.val ≠ 0x2a :=
  fun he => hc (Fin.ext he)

lemma head_codePoints_ne_star {s : Str} (hlone : s.head? ≠ some (cu '*')) :
    (codePoints s).head? ≠ some 0x2a := by
  cases s with
  | nil => exact fun he => by cases he
  | cons c s =>
    rcases head_codePoints c s with hc | ⟨v, hv, hc⟩
    · rw [hc]
      intro he
      apply hlone
      rw [List.head?_cons, Option.some.injEq]
      exact Fin.ext (Option.some.inj he)
    · rw [hc]
      intro he
      rw [Option.some.inj he] at hv
      exact absurd hv (by decide)

/-- The expression of a pattern is read as the pattern's tokens, and the anchor behind them. -/
theorem parse_expression {s : Str} (h : Readable s) :
    RegExp.parse (codePoints (patternExpression s ++ js "$")) =
      some ((patternTokens (codePoints s)).map termOf ++ [RegExp.Term.finish]) := by
  -- Two stars, and a pair of surrogates, are read at once: the induction is on the length.
  induction hlength : s.length using Nat.strong_induction_on generalizing s with
  | h n ih =>
  cases s with
  | nil => exact RegExp.parse_finish
  | cons c s =>
    rw [List.length_cons] at hlength
    by_cases hc : c = cu '*'
    · subst hc
      have htail : Readable s := h.tail (by decide)
      rw [codePoints_cons (by decide)]
      by_cases hlone : s.head? = some (cu '*')
      · cases s with
        | nil => cases hlone
        | cons d t =>
          obtain rfl : d = cu '*' := Option.some.inj hlone
          have hrest := ih t.length (by rw [List.length_cons] at hlength; omega)
            (htail.tail (by decide)) rfl
          have hsource : codePoints (js ".*" ++ (patternExpression t ++ js "$")) =
              '.'.toNat :: '*'.toNat :: codePoints (patternExpression t ++ js "$") :=
            (codePoints_cons (by decide) _).trans
              (congrArg _ (codePoints_cons (by decide) _))
          rw [patternExpression_doubleStar, List.append_assoc, hsource, parse_any, hrest,
            codePoints_cons (by decide)]
          rfl
      · have hrest := ih s.length (by omega) htail rfl
        have hsource : codePoints (js "[^/]*" ++ (patternExpression s ++ js "$")) =
            '['.toNat :: '^'.toNat :: '/'.toNat :: ']'.toNat :: '*'.toNat ::
              codePoints (patternExpression s ++ js "$") := by
          show codePoints (cu '[' :: cu '^' :: cu '/' :: cu ']' :: cu '*' :: _) = _
          rw [codePoints_cons (by decide), codePoints_cons (by decide), codePoints_cons (by decide),
            codePoints_cons (by decide), codePoints_cons (by decide)]
          rfl
        rw [patternExpression_star hlone, List.append_assoc, hsource, parse_except, hrest]
        have htokens := patternTokens_star (head_codePoints_ne_star hlone)
        show _ = some ((patternTokens (0x2a :: codePoints s)).map termOf ++ _)
        rw [htokens]
        rfl
    · have hnul : c ≠ 0 := fun he => h.no_nul (he ▸ List.mem_cons_self)
      have hquestion : c ≠ cu '?' := fun he => h.no_question (he ▸ List.mem_cons_self)
      rw [patternExpression_literal hc hnul, List.append_assoc]
      by_cases hescaped : isEscaped c = true
      · -- An operator, which is no surrogate.
        have hhigh := not_high_of_escaped hescaped
        have htail := h.tail hhigh
        have hunit : escapeUnit c = [cu '\\', c] := if_pos hescaped
        rw [hunit, List.cons_append, List.singleton_append, codePoints_cons (by decide),
          codePoints_cons hhigh, codePoints_cons hhigh, patternTokens_literal (val_ne_star hc)]
        have hsyntax := (isSyntaxCharacter_val c).mpr (Or.inl hescaped)
        show RegExp.parse ('\\'.toNat :: c.val :: _) = _
        rw [parse_escaped hsyntax (head_expression htail), ih s.length (by omega) htail rfl]
        rfl
      · have hunit : escapeUnit c = [c] := if_neg hescaped
        have hsyntax : RegExp.isSyntaxCharacter c.val = false := by
          rw [← Bool.not_eq_true, isSyntaxCharacter_val]
          simp [hescaped, hc, hquestion]
        rw [hunit, List.singleton_append]
        cases h.paired with
        | last hhigh =>
          have hsource : codePoints (c :: (patternExpression [] ++ js "$")) =
              [c.val, '$'.toNat] := codePoints_high (by decide) []
          rw [hsource, parse_literal hsyntax (by decide), RegExp.parse_finish]
          have htokens : patternTokens (codePoints [c]) = [.literal c.val] :=
            patternTokens_literal (val_ne_star hc) []
          rw [htokens]
          rfl
        | plain hhigh hlow hs =>
          have htail := h.tail hhigh
          rw [codePoints_cons hhigh, codePoints_cons hhigh, patternTokens_literal (val_ne_star hc),
            parse_literal hsyntax (head_expression htail), ih s.length (by omega) htail rfl]
          rfl
        | @pair _ d t hhigh hlow ht =>
          have htail : Readable t := ⟨ht, fun hm => h.no_nul (by simp [hm]),
            fun hm => h.no_question (by simp [hm])⟩
          have hrest := ih t.length (by rw [List.length_cons] at hlength; omega) htail rfl
          have hpoint : RegExp.isSyntaxCharacter
              (0x10000 + (c.val - 0xd800) * 0x400 + (d.val - 0xdc00)) = false := by
            rw [← Bool.not_eq_true]
            intro he
            have hlt := lt_of_isSyntaxCharacter he
            omega
          have hnotStar :
              0x10000 + (c.val - 0xd800) * 0x400 + (d.val - 0xdc00) ≠ 0x2a := by omega
          rw [patternExpression_low hlow, List.cons_append, codePoints_pair hhigh hlow,
            codePoints_pair hhigh hlow, parse_literal hpoint (head_expression htail),
            hrest, patternTokens_literal hnotStar]
          rfl

/-- The expression of a readable pattern is a valid one, and tests what the tokens match. -/
theorem testExpression_eq {s : Str} (h : Readable s) (path : Str) :
    testExpression s path =
      some (matchTokens (patternTokens (codePoints s)) (codePoints path)) := by
  unfold testExpression RegExp.test
  have hsource : codePoints (js "^" ++ patternExpression s ++ js "$") =
      '^'.toNat :: codePoints (patternExpression s ++ js "$") := by
    rw [List.append_assoc]
    exact codePoints_cons (by decide) _
  rw [hsource, RegExp.parse_start, parse_expression h]
  apply congrArg some
  exact (RegExp.any_start _ _).trans (matchTerms_tokens _ _ _)

end CodexRouter.Preview
