import CodexRouter.Js.Ascii
import CodexRouter.Js.Glob
import CodexRouter.Preview.Expression

/-!
# Patterns of allowed paths

What the expression of a pattern matches, compared with the glob that the pattern is. The
expression works on code points, the glob on code units.
-/

open Js

namespace CodexRouter.Preview
open Kernel Authorization

/-! ## The glob of a pattern -/

/-- What `.` takes in code points. -/
def NoTerminator (part : List ℕ) : Prop := ∀ c ∈ part, RegExp.isLineTerminator c = false

lemma any_cut {α : Type*} (text : List α) (p q : List α → Bool) :
    ((List.range (text.length + 1)).any fun n => p (text.take n) && q (text.drop n)) = true ↔
      ∃ part rest, text = part ++ rest ∧ p part = true ∧ q rest = true := by
  rw [List.any_eq_true]
  constructor
  · intro h
    obtain ⟨n, -, hn⟩ := h
    rw [Bool.and_eq_true] at hn
    exact ⟨text.take n, text.drop n, (List.take_append_drop n text).symm, hn.1, hn.2⟩
  · intro h
    obtain ⟨part, rest, rfl, hp, hq⟩ := h
    use part.length
    constructor
    · rw [List.mem_range, List.length_append]
      omega
    · rw [List.take_left, List.drop_left, hp, hq]
      rfl

lemma matchTokens_doubleStar {tokens : List PatternToken} {text : List ℕ} :
    matchTokens (.doubleStar :: tokens) text = true ↔
      ∃ part rest, text = part ++ rest ∧ NoTerminator part ∧ matchTokens tokens rest = true := by
  have hcut := any_cut text (fun part => part.all fun c =>
    c ≠ 0xa && c ≠ 0xd && c ≠ 0x2028 && c ≠ 0x2029) (matchTokens tokens)
  rw [matchTokens]
  apply hcut.trans
  have hpart : ∀ part : List ℕ, (part.all fun c =>
      c ≠ 0xa && c ≠ 0xd && c ≠ 0x2028 && c ≠ 0x2029) = true ↔ NoTerminator part := by
    intro part
    simp only [NoTerminator, RegExp.isLineTerminator, List.all_eq_true, Bool.and_eq_true,
      Bool.or_eq_false_iff, decide_eq_true_eq, beq_eq_false_iff_ne, ne_eq]
  simp only [hpart]

lemma matchTokens_star {tokens : List PatternToken} {text : List ℕ} :
    matchTokens (.star :: tokens) text = true ↔
      ∃ part rest, text = part ++ rest ∧ 0x2f ∉ part ∧ matchTokens tokens rest = true := by
  have hcut := any_cut text (fun part => part.all fun c => c ≠ 0x2f) (matchTokens tokens)
  rw [matchTokens]
  apply hcut.trans
  have hpart : ∀ part : List ℕ, (part.all fun c => c ≠ 0x2f) = true ↔ 0x2f ∉ part := by
    intro part
    simp only [List.all_eq_true, decide_eq_true_eq]
    exact ⟨fun h hmem => h _ hmem rfl, fun h c hc he => h (he ▸ hc)⟩
  simp only [hpart]

lemma matchTokens_literal {tokens : List PatternToken} {c : ℕ} {text : List ℕ} :
    matchTokens (.literal c :: tokens) text = true ↔
      ∃ rest, text = c :: rest ∧ matchTokens tokens rest = true := by
  cases text with
  | nil =>
    constructor
    · intro h
      cases h
    · intro h
      obtain ⟨rest, he, -⟩ := h
      cases he
  | cons d text =>
    rw [matchTokens, Bool.and_eq_true, decide_eq_true_eq, List.head?_cons, List.tail_cons,
      Option.some.injEq]
    constructor
    · intro h
      exact ⟨text, by rw [h.1], h.2⟩
    · intro h
      obtain ⟨rest, he, h⟩ := h
      rw [List.cons.injEq] at he
      exact ⟨he.1, he.2 ▸ h⟩

/-- The tokens of a pattern match the texts that can be laid over the pattern, without line
terminators under two stars. -/
theorem matchTokens_iff {cs text : List ℕ} : matchTokens (patternTokens cs) text = true ↔
    Glob.Matches 0x2a 0x2f NoTerminator cs text := by
  induction hlength : cs.length using Nat.strong_induction_on generalizing cs text with
  | h n ih =>
  cases cs with
  | nil =>
    rw [Glob.matches_nil]
    exact decide_eq_true_iff
  | cons c cs =>
    rw [List.length_cons] at hlength
    by_cases hc : c = 0x2a
    · subst hc
      by_cases hlone : cs.head? = some 0x2a
      · cases cs with
        | nil => cases hlone
        | cons d cs =>
          obtain rfl : d = 0x2a := Option.some.inj hlone
          rw [List.length_cons] at hlength
          rw [patternTokens_doubleStar, Glob.matches_doubleStar, matchTokens_doubleStar]
          simp only [ih cs.length (by omega) (rfl : cs.length = cs.length)]
      · rw [patternTokens_star hlone, Glob.matches_star hlone, matchTokens_star]
        simp only [ih cs.length (by omega) (rfl : cs.length = cs.length)]
    · rw [patternTokens_literal hc, Glob.matches_literal hc, matchTokens_literal]
      simp only [ih cs.length (by omega) (rfl : cs.length = cs.length)]

/-! ## Code points and units -/

/-- The units of a code point. -/
def unitsOf (v : ℕ) : Str :=
  if v < 0x10000 then [Fin.ofNat 65536 v]
  else
    [Fin.ofNat 65536 (0xd800 + (v - 0x10000) / 0x400 % 0x400),
      Fin.ofNat 65536 (0xdc00 + (v - 0x10000) % 0x400)]

/-- What `.` takes in code units. -/
def NoLineTerminator (part : Str) : Prop := ∀ c ∈ part, isLineTerminator c = false

lemma unitsOf_val (c : CodeUnit) : unitsOf c.val = [c] := by
  unfold unitsOf
  rw [if_pos c.isLt]
  congr 1
  exact Fin.ext (Nat.mod_eq_of_lt c.isLt)

lemma val_of_mem_unitsOf {v : ℕ} {c : CodeUnit} (h : c ∈ unitsOf v) :
    c.val = v ∨ 0xd800 ≤ c.val := by
  unfold unitsOf at h
  split_ifs at h with hv
  · left
    rw [List.mem_singleton.mp h]
    exact Nat.mod_eq_of_lt hv
  · right
    simp only [List.mem_cons, List.not_mem_nil, or_false] at h
    rcases h with rfl | rfl
    · show 0xd800 ≤ (0xd800 + (v - 0x10000) / 0x400 % 0x400) % 65536
      omega
    · show 0xd800 ≤ (0xdc00 + (v - 0x10000) % 0x400) % 65536
      omega

lemma unitsOf_pair {c d : CodeUnit} (hc : Json.isHighSurrogate c = true)
    (hd : Json.isLowSurrogate d = true) {v : ℕ}
    (hv : v = 0x10000 + (c.val - 0xd800) * 0x400 + (d.val - 0xdc00)) : unitsOf v = [c, d] := by
  simp only [Json.isHighSurrogate, Json.isLowSurrogate, Bool.and_eq_true,
    decide_eq_true_eq] at hc hd
  have hhigh : (0xd800 + (v - 0x10000) / 0x400 % 0x400) % 65536 = c.val := by omega
  have hlow : (0xdc00 + (v - 0x10000) % 0x400) % 65536 = d.val := by omega
  have hbeyond : ¬ v < 0x10000 := by omega
  unfold unitsOf
  rw [if_neg hbeyond]
  exact congrArg₂ (fun a b => [a, b]) (Fin.ext hhigh) (Fin.ext hlow)

lemma unitsOf_codePoints (s : Str) : (codePoints s).flatMap unitsOf = s := by
  induction s using codePoints.induct with
  | case1 => rfl
  | case2 c =>
    show unitsOf c.val ++ [] = [c]
    rw [unitsOf_val, List.append_nil]
  | case3 c d s h ih =>
    rw [Bool.and_eq_true] at h
    rw [codePoints_pair h.1 h.2, List.flatMap_cons, ih, unitsOf_pair h.1 h.2 rfl]
    rfl
  | case4 c d s h ih =>
    rw [codePoints, if_neg h, List.flatMap_cons, ih, unitsOf_val]
    rfl

lemma mem_codePoints {s : Str} {v : ℕ} (h : v ∈ codePoints s) :
    (∃ c ∈ s, c.val = v) ∨ 0x10000 ≤ v := by
  induction s using codePoints.induct with
  | case1 => cases h
  | case2 c => exact Or.inl ⟨c, List.mem_cons_self, (List.mem_singleton.mp h).symm⟩
  | case3 c d s hpair ih =>
    rw [codePoints, if_pos hpair] at h
    rcases List.mem_cons.mp h with hv | h
    · right
      omega
    · rcases ih h with ⟨e, he, hv⟩ | hv
      · exact Or.inl ⟨e, List.mem_cons_of_mem c (List.mem_cons_of_mem d he), hv⟩
      · exact Or.inr hv
  | case4 c d s hpair ih =>
    rw [codePoints, if_neg hpair] at h
    rcases List.mem_cons.mp h with rfl | h
    · exact Or.inl ⟨c, List.mem_cons_self, rfl⟩
    · rcases ih h with ⟨e, he, hv⟩ | hv
      · exact Or.inl ⟨e, List.mem_cons_of_mem c he, hv⟩
      · exact Or.inr hv

lemma isLineTerminator_val (c : CodeUnit) :
    RegExp.isLineTerminator c.val = isLineTerminator c := by
  rw [Bool.eq_iff_iff]
  simp [RegExp.isLineTerminator, isLineTerminator, Fin.ext_iff]

lemma not_terminator_of_le {v : ℕ} (h : 0xd800 ≤ v) : RegExp.isLineTerminator v = false := by
  simp only [RegExp.isLineTerminator, Bool.or_eq_false_iff, beq_eq_false_iff_ne, ne_eq]
  omega

/-- A layout over code points is one over units. -/
lemma matches_units {s t : Str}
    (h : Glob.Matches 0x2a 0x2f NoTerminator (codePoints s) (codePoints t)) :
    Glob.Matches (cu '*') slash NoLineTerminator s t := by
  have hencoded : Glob.Matches (cu '*') slash NoLineTerminator ((codePoints s).flatMap unitsOf)
      ((codePoints t).flatMap unitsOf) :=
    Glob.Matches.encode unitsOf (unitsOf_val (cu '*')) ?_ ?_ ?_ h
  · rwa [unitsOf_codePoints, unitsOf_codePoints] at hencoded
  · intro v hv
    constructor
    · unfold unitsOf
      split_ifs
      · exact List.cons_ne_nil _ _
      · exact List.cons_ne_nil _ _
    · intro hmem
      have hval : (cu '*').val = 0x2a := rfl
      rcases val_of_mem_unitsOf hmem with he | hle
      · exact hv he.symm
      · omega
  · intro v hmem
    have hval : slash.val = 0x2f := rfl
    rcases val_of_mem_unitsOf hmem with he | hle
    · exact he.symm
    · omega
  · intro part hpart c hmem
    obtain ⟨v, hv, hc⟩ := List.mem_flatMap.mp hmem
    rw [← isLineTerminator_val]
    rcases val_of_mem_unitsOf hc with he | hle
    · rw [he]
      exact hpart v hv
    · exact not_terminator_of_le hle

/-- A paired text is cut between code points, or a low surrogate is taken to the left of the cut. -/
lemma exists_cut {t part rest : Str} (ht : Paired t) (hcut : t = part ++ rest) :
    (codePoints t = codePoints part ++ codePoints rest ∧ Paired rest) ∨
      ∃ l tail, Json.isLowSurrogate l = true ∧ rest = l :: tail ∧
        codePoints t = codePoints (part ++ [l]) ++ codePoints tail ∧ Paired tail := by
  induction ht generalizing part with
  | nil =>
    obtain ⟨rfl, rfl⟩ := List.append_eq_nil_iff.mp hcut.symm
    exact Or.inl ⟨rfl, Paired.nil⟩
  | @last c hc =>
    left
    cases part with
    | nil =>
      rw [List.nil_append] at hcut
      rw [← hcut]
      exact ⟨rfl, Paired.last hc⟩
    | cons d part =>
      rw [List.cons_append, List.cons.injEq] at hcut
      obtain ⟨rfl, rfl⟩ := List.append_eq_nil_iff.mp hcut.2.symm
      rw [hcut.1]
      exact ⟨rfl, Paired.nil⟩
  | @plain c s hhigh hlow hs ih =>
    cases part with
    | nil =>
      rw [List.nil_append] at hcut
      rw [← hcut]
      exact Or.inl ⟨rfl, Paired.plain hhigh hlow hs⟩
    | cons d part =>
      rw [List.cons_append, List.cons.injEq] at hcut
      obtain ⟨rfl, hcut⟩ := hcut
      rw [codePoints_cons hhigh, codePoints_cons hhigh]
      rcases ih hcut with ⟨he, hrest⟩ | ⟨l, tail, hl, hrest, he, htail⟩
      · left
        rw [he]
        exact ⟨rfl, hrest⟩
      · right
        use l, tail, hl, hrest
        rw [he, List.cons_append, codePoints_cons hhigh]
        exact ⟨rfl, htail⟩
  | @pair c d s hc hd hs ih =>
    match part, hcut with
    | [], hcut =>
      rw [List.nil_append] at hcut
      rw [← hcut]
      exact Or.inl ⟨rfl, Paired.pair hc hd hs⟩
    | [e], hcut =>
      rw [List.singleton_append, List.cons.injEq] at hcut
      obtain ⟨rfl, hcut⟩ := hcut
      right
      use d, s, hd, hcut.symm
      show codePoints (c :: d :: s) = codePoints [c, d] ++ codePoints s ∧ Paired s
      rw [codePoints_pair hc hd, codePoints_pair hc hd]
      exact ⟨rfl, hs⟩
    | e :: f :: part, hcut =>
      rw [List.cons_append, List.cons_append, List.cons.injEq, List.cons.injEq] at hcut
      obtain ⟨rfl, rfl, hcut⟩ := hcut
      rw [codePoints_pair hc hd, codePoints_pair hc hd]
      rcases ih hcut with ⟨he, hrest⟩ | ⟨l, tail, hl, hrest, he, htail⟩
      · left
        rw [he]
        exact ⟨rfl, hrest⟩
      · right
        use l, tail, hl, hrest
        rw [he, List.cons_append, List.cons_append, codePoints_pair hc hd]
        exact ⟨rfl, htail⟩

/-- A low surrogate at the head of a text lies under a star, and can be left out. -/
lemma matches_of_low {s t : Str} {l : CodeUnit} (hs : Paired s)
    (hl : Json.isLowSurrogate l = true)
    (h : Glob.Matches (cu '*') slash NoLineTerminator s (l :: t)) :
    Glob.Matches (cu '*') slash NoLineTerminator s t := by
  generalize htext : l :: t = text at h
  induction h generalizing t with
  | nil => cases htext
  | doubleStar part hpart h ih =>
    cases part with
    | nil =>
      rw [← List.nil_append t]
      exact Glob.Matches.doubleStar [] hpart (ih ((hs.tail (by decide)).tail (by decide)) htext)
    | cons c part =>
      rw [List.cons_append, List.cons.injEq] at htext
      rw [htext.2]
      exact Glob.Matches.doubleStar part (fun d hd => hpart d (List.mem_cons_of_mem c hd)) h
  | star part hpart hlone h ih =>
    cases part with
    | nil =>
      rw [← List.nil_append t]
      exact Glob.Matches.star [] hpart hlone (ih (hs.tail (by decide)) htext)
    | cons c part =>
      rw [List.cons_append, List.cons.injEq] at htext
      rw [htext.2]
      exact Glob.Matches.star part (fun hd => hpart (List.mem_cons_of_mem c hd)) hlone h
  | literal hc h ih =>
    -- A literal never begins within a pair.
    rw [List.cons.injEq] at htext
    rw [← htext.1] at hs
    cases hs with
    | last hhigh =>
      rw [not_low_of_high hhigh] at hl
      cases hl
    | plain _ hlow _ =>
      rw [hlow] at hl
      cases hl
    | pair hhigh _ _ =>
      rw [not_low_of_high hhigh] at hl
      cases hl

lemma noTerminator_codePoints {part : Str} (h : NoLineTerminator part) :
    NoTerminator (codePoints part) := by
  intro v hv
  rcases mem_codePoints hv with ⟨c, hc, rfl⟩ | hv
  · rw [isLineTerminator_val]
    exact h c hc
  · exact not_terminator_of_le (by omega)

lemma slash_not_mem_codePoints {part : Str} (h : slash ∉ part) : 0x2f ∉ codePoints part := by
  intro hmem
  rcases mem_codePoints hmem with ⟨c, hc, hv⟩ | hv
  · exact h (Fin.ext (a := c) (b := slash) hv ▸ hc)
  · omega

lemma not_terminator_of_low {l : CodeUnit} (h : Json.isLowSurrogate l = true) :
    isLineTerminator l = false := by
  have hle := le_of_isLowSurrogate h
  rw [← isLineTerminator_val]
  exact not_terminator_of_le (by omega)

/-- A layout over units is one over code points. -/
theorem matches_codePoints {s t : Str} (hs : Paired s) (ht : Paired t)
    (h : Glob.Matches (cu '*') slash NoLineTerminator s t) :
    Glob.Matches 0x2a 0x2f NoTerminator (codePoints s) (codePoints t) := by
  induction hlength : s.length using Nat.strong_induction_on generalizing s t with
  | h n ih =>
  cases s with
  | nil =>
    rw [Glob.matches_nil.mp h]
    exact Glob.Matches.nil
  | cons c s =>
    rw [List.length_cons] at hlength
    by_cases hc : c = cu '*'
    · subst hc
      have hstail := hs.tail (by decide)
      rw [codePoints_cons (by decide)]
      by_cases hlone : s.head? = some (cu '*')
      · cases s with
        | nil => cases hlone
        | cons d s =>
          obtain rfl : d = cu '*' := Option.some.inj hlone
          rw [List.length_cons] at hlength
          have hstail := hstail.tail (by decide)
          rw [codePoints_cons (by decide)]
          obtain ⟨part, rest, hcut, hpart, hrest⟩ := Glob.matches_doubleStar.mp h
          rcases exists_cut ht hcut with ⟨he, hpaired⟩ | ⟨l, tail, hl, rfl, he, hpaired⟩
          · rw [he]
            exact Glob.Matches.doubleStar _ (noTerminator_codePoints hpart)
              (ih s.length (by omega) hstail hpaired hrest rfl)
          · rw [he]
            apply Glob.Matches.doubleStar
            · apply noTerminator_codePoints
              intro c hc
              rcases List.mem_append.mp hc with hc | hc
              · exact hpart c hc
              · rw [List.mem_singleton.mp hc]
                exact not_terminator_of_low hl
            · exact ih s.length (by omega) hstail hpaired (matches_of_low hstail hl hrest) rfl
      · obtain ⟨part, rest, hcut, hpart, hrest⟩ := (Glob.matches_star hlone).mp h
        have hlone := head_codePoints_ne_star hlone
        rcases exists_cut ht hcut with ⟨he, hpaired⟩ | ⟨l, tail, hl, rfl, he, hpaired⟩
        · rw [he]
          exact Glob.Matches.star _ (slash_not_mem_codePoints hpart) hlone
            (ih s.length (by omega) hstail hpaired hrest rfl)
        · rw [he]
          apply Glob.Matches.star _ _ hlone
          · exact ih s.length (by omega) hstail hpaired (matches_of_low hstail hl hrest) rfl
          · apply slash_not_mem_codePoints
            intro hmem
            rcases List.mem_append.mp hmem with hmem | hmem
            · exact hpart hmem
            · have hle := le_of_isLowSurrogate hl
              rw [← List.mem_singleton.mp hmem] at hle
              have hval : slash.val = 0x2f := rfl
              omega
    · obtain ⟨rest, rfl, hrest⟩ := (Glob.matches_literal hc).mp h
      cases hs with
      | last hhigh =>
        rw [Glob.matches_nil.mp hrest]
        exact Glob.Matches.literal (val_ne_star hc) Glob.Matches.nil
      | plain hhigh hlow hs =>
        rw [codePoints_cons hhigh, codePoints_cons hhigh]
        exact Glob.Matches.literal (val_ne_star hc)
          (ih s.length (by omega) hs (ht.tail hhigh) hrest rfl)
      | @pair _ d s hhigh hlow hs =>
        have hstar : d ≠ cu '*' := by
          intro he
          have hle := le_of_isLowSurrogate hlow
          have hval : d.val = 0x2a := by rw [he]; rfl
          omega
        obtain ⟨rest, rfl, htail⟩ := (Glob.matches_literal hstar).mp hrest
        have hpaired : Paired rest := by
          cases ht with
          | plain hplain _ _ =>
            rw [hplain] at hhigh
            cases hhigh
          | pair _ _ hrest => exact hrest
        rw [List.length_cons] at hlength
        rw [codePoints_pair hhigh hlow, codePoints_pair hhigh hlow]
        apply Glob.Matches.literal
        · omega
        · exact ih s.length (by omega) hs hpaired htail rfl

/-! ## Accepted patterns and canonical paths -/

/-- Two stars in a pattern admit any part, a remaining star any part without slash. -/
def GlobMatches (pattern path : Str) : Prop :=
  Glob.Matches (cu '*') slash (fun _ => True) pattern path

/-- The path can be laid over the pattern with no line terminator under two stars. -/
def LineMatches (pattern path : Str) : Prop :=
  Glob.Matches (cu '*') slash NoLineTerminator pattern path

/-- A path without line terminators leaves nothing that two stars would refuse. -/
lemma lineMatches_of_path {pattern path : Str} (h : GlobMatches pattern path)
    (hpath : NoLineTerminator path) : LineMatches pattern path := by
  unfold GlobMatches at h
  induction h with
  | nil => exact Glob.Matches.nil
  | doubleStar part _ _ ih =>
    exact Glob.Matches.doubleStar part (fun c hc => hpath c (List.mem_append_left _ hc))
      (ih fun c hc => hpath c (List.mem_append_right _ hc))
  | star part hpart hlone _ ih =>
    exact Glob.Matches.star part hpart hlone (ih fun c hc => hpath c (List.mem_append_right _ hc))
  | literal hc _ ih =>
    exact Glob.Matches.literal hc (ih fun d hd => hpath d (List.mem_cons_of_mem _ hd))

/-- Nor does a pattern without two stars. -/
lemma lineMatches_of_lone {pattern path : Str} (h : GlobMatches pattern path)
    (hlone : ¬ [cu '*', cu '*'] <:+: pattern) : LineMatches pattern path := by
  unfold GlobMatches at h
  induction h with
  | nil => exact Glob.Matches.nil
  | doubleStar part _ _ ih => exact absurd (List.prefix_append [cu '*', cu '*'] _).isInfix hlone
  | star part hpart hnext _ ih =>
    exact Glob.Matches.star part hpart hnext
      (ih fun hinside => hlone (hinside.trans (List.suffix_cons _ _).isInfix))
  | literal hc _ ih =>
    exact Glob.Matches.literal hc
      (ih fun hinside => hlone (hinside.trans (List.suffix_cons _ _).isInfix))

lemma length_split (c : CodeUnit) (s : Str) : (split c s).length = s.count c + 1 := by
  unfold split List.splitOn
  induction s with
  | nil => rfl
  | cons d s ih =>
    rw [List.splitOnP_cons_eq_if_modifyHead, List.count_cons]
    split_ifs
    · rw [List.length_cons, ih]
    · rw [List.length_modifyHead, ih]

/-- Writing `x` for every star changes no surrogate. -/
lemma paired_of_map {s : Str} (h : Paired (s.map fun c => if c = cu '*' then cu 'x' else c)) :
    Paired s := by
  have hhigh : ∀ c : CodeUnit,
      Json.isHighSurrogate (if c = cu '*' then cu 'x' else c) = Json.isHighSurrogate c := by
    intro c
    split_ifs with hc
    · rw [hc]
      decide
    · rfl
  have hlow : ∀ c : CodeUnit,
      Json.isLowSurrogate (if c = cu '*' then cu 'x' else c) = Json.isLowSurrogate c := by
    intro c
    split_ifs with hc
    · rw [hc]
      decide
    · rfl
  generalize htext : (s.map fun c => if c = cu '*' then cu 'x' else c) = text at h
  induction h generalizing s with
  | nil =>
    rw [List.map_eq_nil_iff.mp htext]
    exact Paired.nil
  | last hc =>
    obtain ⟨c, rest, rfl, rfl, hrest⟩ := List.map_eq_cons_iff.mp htext
    rw [List.map_eq_nil_iff.mp hrest]
    rw [hhigh] at hc
    exact Paired.last hc
  | plain hc hd _ ih =>
    obtain ⟨c, rest, rfl, rfl, hrest⟩ := List.map_eq_cons_iff.mp htext
    rw [hhigh] at hc
    rw [hlow] at hd
    exact Paired.plain hc hd (ih hrest)
  | pair hc hd _ ih =>
    obtain ⟨c, rest, rfl, rfl, hrest⟩ := List.map_eq_cons_iff.mp htext
    obtain ⟨d, tail, rfl, rfl, htail⟩ := List.map_eq_cons_iff.mp hrest
    rw [hhigh] at hc
    rw [hlow] at hd
    exact Paired.pair hc hd (ih htail)

section
variable [Runtime]

lemma readable_of_accepted {pattern normalized : Str}
    (h : normalizeAndAssertPattern pattern = .ok normalized) : Readable normalized := by
  unfold normalizeAndAssertPattern at h
  dsimp only at h
  obtain ⟨path, hpath, hnormalized⟩ := bind_eq_ok.mp h
  obtain ⟨hsafe, -⟩ := normalizeAndAssert_eq_ok.mp hpath
  obtain ⟨parts, hparts⟩ := isSafeGovernedPath_iff.mp hsafe
  obtain rfl := pure_eq_ok.mp hnormalized
  have hmem : ∀ c ∈ toSlashes pattern, c ≠ cu '*' →
      c ∈ (toSlashes pattern).map fun c => if c = cu '*' then cu 'x' else c := by
    intro c hc hstar
    exact List.mem_map.mpr ⟨c, hc, if_neg hstar⟩
  refine ⟨paired_of_map (paired_of_not_unpaired _ hparts.paired), ?_, ?_⟩
  · intro hnul
    exact hparts.not_mem (by decide) (by decide) (by decide) (hmem 0 hnul (by decide))
  · intro hquestion
    exact hparts.not_mem (by decide) (by decide) (by decide) (hmem _ hquestion (by decide))

lemma paired_of_canonical {path : Str} (h : isCanonicalGovernedPath path = true) : Paired path := by
  obtain ⟨parts, hparts⟩ := isSafeGovernedPath_iff.mp (isCanonicalGovernedPath_iff.mp h).1
  exact paired_of_not_unpaired _ hparts.paired

/-- A canonical path has no other line terminators than these. -/
lemma noLineTerminator_of_canonical {path : Str} (h : isCanonicalGovernedPath path = true)
    (hseparators : ∀ c ∈ path, c ≠ 0x2028 ∧ c ≠ 0x2029) : NoLineTerminator path := by
  obtain ⟨parts, hparts⟩ := isSafeGovernedPath_iff.mp (isCanonicalGovernedPath_iff.mp h).1
  intro c hc
  unfold isLineTerminator
  simp only [Bool.or_eq_false_iff, beq_eq_false_iff_ne, ne_eq]
  refine ⟨⟨⟨?_, ?_⟩, (hseparators c hc).1⟩, (hseparators c hc).2⟩
  · intro he
    rw [he] at hc
    exact hparts.not_mem (by decide) (by decide) (by decide) hc
  · intro he
    rw [he] at hc
    exact hparts.not_mem (by decide) (by decide) (by decide) hc

/-- On a canonical path the expression of an accepted pattern tests the glob of the pattern, with
no line terminator under two stars. -/
theorem pathMatchesPattern_iff {pattern normalized path : Str}
    (hpattern : normalizeAndAssertPattern pattern = .ok normalized)
    (hpath : isCanonicalGovernedPath path = true) :
    pathMatchesPattern path pattern = true ↔ LineMatches normalized path := by
  unfold pathMatchesPattern
  rw [hpattern]
  show matchTokens _ _ = true ↔ _
  rw [matchTokens_iff]
  exact ⟨matches_units,
    matches_codePoints (readable_of_accepted hpattern).paired (paired_of_canonical hpath)⟩

lemma accepted_doubleStar (hrt : Runtime.AsciiStable) :
    normalizeAndAssertPattern (js "**") = .ok (js "**") := by
  have hx : ∀ c ∈ js "xx", c = cu 'x' := fun c hc => List.eq_of_mem_replicate (n := 2) hc
  have hlower : Runtime.toLowerCase (js "xx") = js "xx" := by
    apply hrt.toLowerCase_lower
    intro c hc
    rw [hx c hc]
    decide
  have hpart : SafePart (js "xx") := by
    refine ⟨⟨by decide, by decide, by decide, by decide⟩, ?_, ?_, by decide, by decide,
      by decide +kernel⟩
    · rw [hlower]
      decide
    · intro c hc
      rw [hx c hc]
      decide
  have hparts : SafeParts (js "xx") [js "xx"] := by
    refine ⟨?_, by decide +kernel, by decide, by decide, ?_⟩
    · apply hrt.nfc_extend [] [] (js "xx") hrt.nfc_nil
      intro c hc
      rw [hx c hc]
      decide
    · intro part hmem
      rw [List.mem_singleton.mp hmem]
      exact hpart
  have hsafe := isSafeGovernedPath_iff.mpr ⟨_, hparts⟩
  unfold normalizeAndAssertPattern
  have hguard : normalizeAndAssertGovernedPath (js "xx") = .ok (js "xx") :=
    normalizeAndAssert_eq_ok.mpr ⟨hsafe, by decide⟩
  show (normalizeAndAssertGovernedPath (js "xx") >>= fun _ => pure (js "**")) = _
  rw [hguard]
  rfl

omit [Runtime] in
/-- Everything can be laid over two stars; as an expression they refuse line terminators. -/
lemma doubleStar_refuses {path : Str} (h : LineMatches (js "**") path) : NoLineTerminator path := by
  obtain ⟨part, rest, rfl, hpart, hrest⟩ := Glob.matches_doubleStar.mp h
  rw [Glob.matches_nil.mp hrest, List.append_nil]
  exact hpart

/-- A pattern says what it matches unless a path can be laid over it only with a line terminator
under two stars. A canonical path is matched as every pattern says exactly when it has no line
and no paragraph separator. -/
theorem pathMatchesPattern_iff_glob (hrt : Runtime.AsciiStable) :
    (∀ pattern normalized path : Str, normalizeAndAssertPattern pattern = .ok normalized →
      isCanonicalGovernedPath path = true →
      testExpression normalized path = some (pathMatchesPattern path pattern) ∧
      ((pathMatchesPattern path pattern = true ↔ GlobMatches normalized path) ↔
        (GlobMatches normalized path → LineMatches normalized path)) ∧
      (¬ [cu '*', cu '*'] <:+: normalized →
        (pathMatchesPattern path pattern = true ↔ GlobMatches normalized path) ∧
        (pathMatchesPattern path pattern = true →
          (split slash path).length ≤ (split slash normalized).length))) ∧
    ∀ path : Str, isCanonicalGovernedPath path = true →
      ((∀ pattern normalized, normalizeAndAssertPattern pattern = .ok normalized →
          (pathMatchesPattern path pattern = true ↔ GlobMatches normalized path)) ↔
        ∀ c ∈ path, c ≠ 0x2028 ∧ c ≠ 0x2029) := by
  have hglob : ∀ {pattern path : Str}, LineMatches pattern path → GlobMatches pattern path :=
    fun h => h.mono fun _ _ => trivial
  constructor
  · intro pattern normalized path hpattern hpath
    have hmatch := pathMatchesPattern_iff hpattern hpath
    refine ⟨?_, ?_, ?_⟩
    · rw [testExpression_eq (readable_of_accepted hpattern)]
      unfold pathMatchesPattern
      rw [hpattern]
    · rw [hmatch]
      exact ⟨fun h => h.mpr, fun h => ⟨hglob, h⟩⟩
    · intro hlone
      rw [hmatch]
      constructor
      · exact ⟨hglob, fun h => lineMatches_of_lone h hlone⟩
      · intro h
        rw [length_split, length_split, h.count_sep (by decide) hlone]
  · intro path hpath
    constructor
    · intro h
      have hall : GlobMatches (js "**") path := by
        have hmatch : GlobMatches (js "**") (path ++ []) :=
          Glob.Matches.doubleStar path trivial Glob.Matches.nil
        rwa [List.append_nil] at hmatch
      have hpattern := accepted_doubleStar hrt
      have hline := (pathMatchesPattern_iff hpattern hpath).mp ((h _ _ hpattern).mpr hall)
      intro c hc
      have hterminator := doubleStar_refuses hline c hc
      unfold isLineTerminator at hterminator
      simp only [Bool.or_eq_false_iff, beq_eq_false_iff_ne, ne_eq] at hterminator
      exact ⟨hterminator.1.2, hterminator.2⟩
    · intro h pattern normalized hpattern
      rw [pathMatchesPattern_iff hpattern hpath]
      exact ⟨hglob, fun hmatch =>
        lineMatches_of_path hmatch (noLineTerminator_of_canonical hpath h)⟩

end

attribute [local instance] asciiRuntime in
/-- A pattern with both kinds of star. -/
theorem pathMatchesPattern_iff_glob_source :
    (pathMatchesPattern (js "src/lib/a.ts") (js "src/**/*.ts") = true ↔
      GlobMatches (js "src/**/*.ts") (js "src/lib/a.ts")) := by
  apply ((pathMatchesPattern_iff_glob asciiRuntime_stable).1 (js "src/**/*.ts")
    (js "src/**/*.ts") (js "src/lib/a.ts") (by decide +kernel) (by decide +kernel)).2.1.mpr
  apply fun h => lineMatches_of_path h ?_
  have hall : (js "src/lib/a.ts").all (fun c => !isLineTerminator c) = true := by decide +kernel
  intro c hc
  simpa using List.all_eq_true.mp hall c hc

attribute [local instance] asciiRuntime in
/-- A canonical path with a line separator in a name is not matched below `docs/`. -/
theorem line_separator_refused :
    normalizeAndAssertPattern (js "docs/**") = .ok (js "docs/**") ∧
      isCanonicalGovernedPath (js "docs/a" ++ 0x2028 :: js "b.md") = true ∧
      GlobMatches (js "docs/**") (js "docs/a" ++ 0x2028 :: js "b.md") ∧
      pathMatchesPattern (js "docs/a" ++ 0x2028 :: js "b.md") (js "docs/**") = false := by
  refine ⟨by decide +kernel, by decide +kernel, ?_, by decide +kernel⟩
  have hdocs : GlobMatches (js "docs/**") (js "docs/" ++ ((js "a" ++ 0x2028 :: js "b.md") ++ [])) :=
    Glob.Matches.literal (by decide) <| Glob.Matches.literal (by decide) <|
      Glob.Matches.literal (by decide) <| Glob.Matches.literal (by decide) <|
      Glob.Matches.literal (by decide) <|
      Glob.Matches.doubleStar (js "a" ++ 0x2028 :: js "b.md") trivial Glob.Matches.nil
  exact hdocs

end CodexRouter.Preview
