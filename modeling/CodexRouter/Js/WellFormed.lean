import CodexRouter.Js.JsonText
import CodexRouter.Js.Utf8

/-!
# Well-formed texts

A text in which no surrogate stands alone is read back from its encoding. The text of every JSON
document is one.
-/

namespace Js

open Sha256

/-- A text of scalar values. -/
def WellFormed (s : Str) : Prop :=
  ∃ points : List ℕ, (∀ p ∈ points, isScalar p = true) ∧ s = points.flatMap unitsOfPoint

namespace WellFormed

lemma nil : WellFormed [] := ⟨[], List.forall_mem_nil _, rfl⟩

lemma append {s t : Str} (hs : WellFormed s) (ht : WellFormed t) : WellFormed (s ++ t) := by
  obtain ⟨points, hpoints, rfl⟩ := hs
  obtain ⟨others, hothers, rfl⟩ := ht
  refine ⟨points ++ others, ?_, List.flatMap_append.symm⟩
  exact List.forall_mem_append.mpr ⟨hpoints, hothers⟩

/-- A code unit that is no surrogate. -/
lemma unit {c : CodeUnit} (h : ¬(0xd800 ≤ c.val ∧ c.val ≤ 0xdfff)) : WellFormed [c] := by
  refine ⟨[c.val], ?_, ?_⟩
  · rw [List.forall_mem_singleton]
    unfold isScalar
    simp only [Bool.or_eq_true, Bool.and_eq_true, decide_eq_true_eq]
    omega
  · rw [List.flatMap_singleton]
    unfold unitsOfPoint
    rw [if_pos c.isLt, Fin.ofNat_val_eq_self]

lemma cons {c : CodeUnit} {s : Str} (h : ¬(0xd800 ≤ c.val ∧ c.val ≤ 0xdfff))
    (hs : WellFormed s) : WellFormed (c :: s) := (unit h).append hs

/-- A pair of surrogates. -/
lemma pair {c d : CodeUnit} (hc : Json.isHighSurrogate c = true)
    (hd : Json.isLowSurrogate d = true) : WellFormed [c, d] := by
  simp only [Json.isHighSurrogate, Json.isLowSurrogate, Bool.and_eq_true, decide_eq_true_eq]
    at hc hd
  refine ⟨[0x10000 + (c.val - 0xd800) * 0x400 + (d.val - 0xdc00)], ?_, ?_⟩
  · rw [List.forall_mem_singleton]
    unfold isScalar
    simp only [Bool.or_eq_true, Bool.and_eq_true, decide_eq_true_eq]
    omega
  · have hhigh : Fin.ofNat 65536 (0xd800
        + (0x10000 + (c.val - 0xd800) * 0x400 + (d.val - 0xdc00) - 0x10000) / 0x400) = c := by
      apply Fin.ext
      show _ % 65536 = _
      omega
    have hlow : Fin.ofNat 65536 (0xdc00
        + (0x10000 + (c.val - 0xd800) * 0x400 + (d.val - 0xdc00) - 0x10000) % 0x400) = d := by
      apply Fin.ext
      show _ % 65536 = _
      omega
    rw [List.flatMap_singleton]
    unfold unitsOfPoint
    rw [if_neg (by omega), hhigh, hlow]

lemma of_isAscii {s : Str} (h : isAscii s = true) : WellFormed s := by
  induction s with
  | nil => exact nil
  | cons c s ih =>
    simp only [isAscii, List.all_cons, Bool.and_eq_true, decide_eq_true_eq] at h
    exact cons (by omega) (ih h.2)

lemma join {separator : CodeUnit} {l : List Str}
    (h : ¬(0xd800 ≤ separator.val ∧ separator.val ≤ 0xdfff)) (hl : ∀ s ∈ l, WellFormed s) :
    WellFormed (join separator l) := by
  induction l with
  | nil => exact nil
  | cons s l ih =>
    obtain ⟨hs, hl⟩ := List.forall_mem_cons.mp hl
    cases l with
    | nil =>
      rw [join_singleton]
      exact hs
    | cons t l =>
      rw [join_cons separator s (List.cons_ne_nil t l)]
      exact hs.append (cons h (ih hl))

end WellFormed

/-! ## Decoding -/

lemma decodeUtf8_point {p : ℕ} (h : isScalar p = true) (rest : List ℕ) :
    decodeUtf8 (utf8Point p ++ rest) = (decodeUtf8 rest).map (unitsOfPoint p ++ ·) := by
  have htail : ∀ n, isTail (0x80 + n % 0x40) = true := by
    intro n
    unfold isTail
    simp only [Bool.and_eq_true, decide_eq_true_eq]
    omega
  have hscalar := h
  unfold isScalar at hscalar
  simp only [Bool.or_eq_true, Bool.and_eq_true, decide_eq_true_eq] at hscalar
  unfold utf8Point
  split_ifs with hone htwo hthree
  · show decodeUtf8 (p :: rest) = _
    rw [decodeUtf8.eq_def]
    exact if_pos hone
  · have hpoint : twoBytes (0xc0 + p / 0x40) (0x80 + p % 0x40) = p := by
      unfold twoBytes
      omega
    have hlead : (decide (0xc2 ≤ 0xc0 + p / 0x40) && decide (0xc0 + p / 0x40 ≤ 0xdf)) = true := by
      simp only [Bool.and_eq_true, decide_eq_true_eq]
      omega
    show decodeUtf8 ((0xc0 + p / 0x40) :: (0x80 + p % 0x40) :: rest) = _
    rw [decodeUtf8.eq_def]
    dsimp only
    rw [if_neg (by omega), if_pos hlead, if_pos (htail p), hpoint]
  · have hpoint : threeBytes (0xe0 + p / 0x1000) (0x80 + p / 0x40 % 0x40) (0x80 + p % 0x40) = p := by
      unfold threeBytes
      omega
    have htwo' : ¬(decide (0xc2 ≤ 0xe0 + p / 0x1000) && decide (0xe0 + p / 0x1000 ≤ 0xdf)) = true := by
      simp only [Bool.and_eq_true, decide_eq_true_eq]
      omega
    have hlead : (decide (0xe0 ≤ 0xe0 + p / 0x1000) && decide (0xe0 + p / 0x1000 ≤ 0xef)) = true := by
      simp only [Bool.and_eq_true, decide_eq_true_eq]
      omega
    have htails : (isTail (0x80 + p / 0x40 % 0x40) && isTail (0x80 + p % 0x40) && isScalar p
        && decide (0x800 ≤ p)) = true := by
      rw [htail, htail, h, decide_eq_true (by omega)]
      rfl
    show decodeUtf8 ((0xe0 + p / 0x1000) :: (0x80 + p / 0x40 % 0x40) :: (0x80 + p % 0x40) :: rest) =
      _
    rw [decodeUtf8.eq_def]
    dsimp only
    rw [if_neg (by omega), if_neg htwo', if_pos hlead, hpoint, if_pos htails]
  · have hpoint : fourBytes (0xf0 + p / 0x40000) (0x80 + p / 0x1000 % 0x40)
        (0x80 + p / 0x40 % 0x40) (0x80 + p % 0x40) = p := by
      unfold fourBytes
      omega
    have htwo' : ¬(decide (0xc2 ≤ 0xf0 + p / 0x40000) && decide (0xf0 + p / 0x40000 ≤ 0xdf)) =
        true := by
      simp only [Bool.and_eq_true, decide_eq_true_eq]
      omega
    have hthree' : ¬(decide (0xe0 ≤ 0xf0 + p / 0x40000) && decide (0xf0 + p / 0x40000 ≤ 0xef)) =
        true := by
      simp only [Bool.and_eq_true, decide_eq_true_eq]
      omega
    have htails : (decide (0xf0 ≤ 0xf0 + p / 0x40000) && decide (0xf0 + p / 0x40000 ≤ 0xf4)
        && isTail (0x80 + p / 0x1000 % 0x40) && isTail (0x80 + p / 0x40 % 0x40)
        && isTail (0x80 + p % 0x40) && isScalar p && decide (0x10000 ≤ p)) = true := by
      rw [htail, htail, htail, h, decide_eq_true (by omega), decide_eq_true (by omega),
        decide_eq_true (by omega)]
      rfl
    show decodeUtf8 ((0xf0 + p / 0x40000) :: (0x80 + p / 0x1000 % 0x40) :: (0x80 + p / 0x40 % 0x40)
      :: (0x80 + p % 0x40) :: rest) = _
    rw [decodeUtf8.eq_def]
    dsimp only
    rw [if_neg (by omega), if_neg htwo', if_neg hthree', hpoint, if_pos htails]

/-- A well-formed text is read back from its encoding. -/
theorem decodeUtf8_utf8 {s : Str} (h : WellFormed s) : decodeUtf8 (utf8 s) = some s := by
  obtain ⟨points, hpoints, rfl⟩ := h
  induction points with
  | nil => rfl
  | cons p points ih =>
    obtain ⟨hp, hrest⟩ := List.forall_mem_cons.mp hpoints
    rw [List.flatMap_cons, utf8_unitsOfPoint hp, decodeUtf8_point hp, ih hrest]
    rfl

/-- Two well-formed texts with one encoding are the same. -/
theorem utf8_injOn {s t : Str} (hs : WellFormed s) (ht : WellFormed t) (h : utf8 s = utf8 t) :
    s = t := by
  have hdecode := decodeUtf8_utf8 hs
  rw [h, decodeUtf8_utf8 ht] at hdecode
  exact (Option.some.inj hdecode).symm

/-- A text that starts with an ASCII unit is not preceded by a byte order mark. -/
theorem decodeText_utf8 {c : CodeUnit} {s : Str} (hc : c.val < 0x80) (h : WellFormed (c :: s)) :
    decodeText (utf8 (c :: s)) = some (c :: s) := by
  have hfirst : utf8 (c :: s) = c.val :: utf8 s := by
    rw [utf8_cons (by omega), utf8Point, if_pos hc]
    rfl
  have hmark : byteOrderMark.isPrefixOf (utf8 (c :: s)) = false := by
    rw [hfirst]
    show (0xef == c.val && _) = false
    rw [Bool.and_eq_false_iff, beq_eq_false_iff_ne]
    left
    omega
  unfold decodeText
  rw [hmark]
  exact decodeUtf8_utf8 h

/-! ## JSON texts -/

namespace Json

lemma isAscii_escapeUnit (c : CodeUnit) : isAscii (escapeUnit c) = true := by
  have hhex : ∀ n < 16, (hexUnit n).val < 0x80 := by decide
  have hval := c.isLt
  unfold escapeUnit isAscii
  simp only [List.all_cons, List.all_nil, Bool.and_true, Bool.and_eq_true, decide_eq_true_eq]
  exact ⟨by decide, by decide, hhex _ (by omega), hhex _ (by omega), hhex _ (by omega),
    hhex _ (by omega)⟩

lemma wellFormed_quoteUnit {c : CodeUnit} (h : ¬(0xd800 ≤ c.val ∧ c.val ≤ 0xdfff)) :
    WellFormed (quoteUnit c) := by
  unfold quoteUnit
  split_ifs
  · exact WellFormed.cons (by decide) (WellFormed.unit h)
  · exact WellFormed.of_isAscii rfl
  · exact WellFormed.of_isAscii rfl
  · exact WellFormed.of_isAscii rfl
  · exact WellFormed.of_isAscii rfl
  · exact WellFormed.of_isAscii rfl
  · exact WellFormed.of_isAscii (isAscii_escapeUnit c)
  · exact WellFormed.unit h

/-- A surrogate that stands alone is escaped. -/
lemma wellFormed_alone (c : CodeUnit) :
    WellFormed (if isHighSurrogate c || isLowSurrogate c then escapeUnit c else quoteUnit c) := by
  split_ifs with h
  · exact WellFormed.of_isAscii (isAscii_escapeUnit c)
  · apply wellFormed_quoteUnit
    simp only [isHighSurrogate, isLowSurrogate, Bool.or_eq_true, Bool.and_eq_true,
      decide_eq_true_eq] at h
    omega

lemma wellFormed_quoteUnits (s : Str) : WellFormed (quoteUnits s) := by
  fun_induction quoteUnits s with
  | case1 => exact WellFormed.nil
  | case2 c h => exact WellFormed.of_isAscii (isAscii_escapeUnit c)
  | case3 c h =>
    have halone := wellFormed_alone c
    rwa [if_neg h] at halone
  | case4 c d s h ih =>
    rw [Bool.and_eq_true] at h
    exact (WellFormed.pair h.1 h.2).append ih
  | case5 c d s h ih => exact (wellFormed_alone c).append ih

lemma wellFormed_quote (s : Str) : WellFormed (quote s) :=
  (WellFormed.cons (by decide) (wellFormed_quoteUnits s)).append (WellFormed.unit (by decide))

lemma isAscii_number (n : Num) : isAscii n.1 = true := by
  have hall := n.2
  rw [isNumberText, Bool.and_eq_true, List.all_eq_true] at hall
  unfold isAscii
  rw [List.all_eq_true]
  intro c hc
  have hunit := hall.1 c hc
  simp only [isNumberUnit, isDigit, Bool.or_eq_true, Bool.and_eq_true, decide_eq_true_eq,
    beq_iff_eq] at hunit
  rw [decide_eq_true_eq]
  rcases hunit with (((hdigit | rfl) | rfl) | rfl) | rfl
  · omega
  · decide
  · decide
  · decide
  · decide

mutual

theorem wellFormed_stableStringify : (a : Json) → WellFormed a.stableStringify
  | null => WellFormed.of_isAscii rfl
  | bool b => WellFormed.of_isAscii (by cases b <;> rfl)
  | num n => WellFormed.of_isAscii (isAscii_number n)
  | str s => wellFormed_quote s
  | arr l => by
    apply (WellFormed.cons (by decide) (WellFormed.join (by decide) ?_)).append
      (WellFormed.unit (by decide))
    exact wellFormed_items l
  | obj m => by
    apply (WellFormed.cons (by decide) (WellFormed.join (by decide) ?_)).append
      (WellFormed.unit (by decide))
    intro w hw
    obtain ⟨p, hp, rfl⟩ := List.mem_map.mp hw
    exact (wellFormed_quote p.1).append
      (WellFormed.cons (by decide) (wellFormed_members m p (mem_sortMembers.mp hp)))

theorem wellFormed_items : (l : List Json) → ∀ w ∈ stringifyItems l, WellFormed w
  | [] => List.forall_mem_nil _
  | a :: l => by
    rw [stringifyItems, List.forall_mem_cons]
    exact ⟨wellFormed_stableStringify a, wellFormed_items l⟩

theorem wellFormed_members :
    (m : List (Str × Json)) → ∀ p ∈ stringifyMembers m, WellFormed p.2
  | [] => List.forall_mem_nil _
  | (k, a) :: m => by
    rw [stringifyMembers, List.forall_mem_cons]
    exact ⟨wellFormed_stableStringify a, wellFormed_members m⟩

end

end Json

end Js
