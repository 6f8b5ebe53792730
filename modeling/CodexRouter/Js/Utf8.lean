import CodexRouter.Js.Lines
import CodexRouter.Js.Path
import CodexRouter.Js.Sha256

/-!
# UTF-8

Bytes are decoded as the fatal decoder of the host decodes them: shortest forms of scalar values
only. A byte order mark at the start is dropped.
-/

namespace Js

open Sha256

/-- The code units of a code point. -/
def unitsOfPoint (p : ℕ) : Str :=
  if p < 0x10000 then [Fin.ofNat _ p]
  else [Fin.ofNat _ (0xd800 + (p - 0x10000) / 0x400), Fin.ofNat _ (0xdc00 + (p - 0x10000) % 0x400)]

def isTail (b : ℕ) : Bool := 0x80 ≤ b && b ≤ 0xbf

/-- A code point that stands alone. -/
def isScalar (p : ℕ) : Bool := p < 0xd800 || (0xdfff < p && p < 0x110000)

/-- The point of a lead byte and the tails after it. -/
def twoBytes (b c : ℕ) : ℕ := (b - 0xc0) * 0x40 + (c - 0x80)

def threeBytes (b c d : ℕ) : ℕ := (b - 0xe0) * 0x1000 + (c - 0x80) * 0x40 + (d - 0x80)

def fourBytes (b c d e : ℕ) : ℕ :=
  (b - 0xf0) * 0x40000 + (c - 0x80) * 0x1000 + (d - 0x80) * 0x40 + (e - 0x80)

def decodeUtf8 : List ℕ → Option Str
  | [] => some []
  | b :: rest =>
    if b < 0x80 then (decodeUtf8 rest).map (unitsOfPoint b ++ ·)
    else
      match rest with
      | [] => none
      | c :: rest =>
        if 0xc2 ≤ b && b ≤ 0xdf then
          if isTail c then (decodeUtf8 rest).map (unitsOfPoint (twoBytes b c) ++ ·) else none
        else
          match rest with
          | [] => none
          | d :: rest =>
            if 0xe0 ≤ b && b ≤ 0xef then
              if isTail c && isTail d && isScalar (threeBytes b c d) && 0x800 ≤ threeBytes b c d
              then (decodeUtf8 rest).map (unitsOfPoint (threeBytes b c d) ++ ·)
              else none
            else
              match rest with
              | [] => none
              | e :: rest =>
                if 0xf0 ≤ b && b ≤ 0xf4 && isTail c && isTail d && isTail e
                    && isScalar (fourBytes b c d e) && 0x10000 ≤ fourBytes b c d e
                then (decodeUtf8 rest).map (unitsOfPoint (fourBytes b c d e) ++ ·)
                else none

def byteOrderMark : List ℕ := [0xef, 0xbb, 0xbf]

/-- `new TextDecoder("utf-8", { fatal: true }).decode(bytes)`. -/
def decodeText (bytes : List ℕ) : Option Str :=
  decodeUtf8 (if byteOrderMark.isPrefixOf bytes then bytes.drop byteOrderMark.length else bytes)

/-! ## Encoding -/

lemma utf8_cons {c : CodeUnit} (h : ¬(0xd800 ≤ c.val ∧ c.val ≤ 0xdfff)) (s : Str) :
    utf8 (c :: s) = utf8Point c.val ++ utf8 s := by
  cases s with
  | nil => simp [utf8, h]
  | cons d s => rw [utf8, if_neg (by omega), if_neg h]

/-- A scalar value is encoded on its own. -/
lemma utf8_unitsOfPoint {p : ℕ} (h : isScalar p = true) (s : Str) :
    utf8 (unitsOfPoint p ++ s) = utf8Point p ++ utf8 s := by
  simp only [isScalar, Bool.or_eq_true, Bool.and_eq_true, decide_eq_true_eq] at h
  unfold unitsOfPoint
  split_ifs with hbasic
  · have hval : (Fin.ofNat 65536 p).val = p := Nat.mod_eq_of_lt hbasic
    show utf8 (Fin.ofNat 65536 p :: s) = _
    rw [utf8_cons (by rw [hval]; omega), hval]
  · have hhigh : (Fin.ofNat 65536 (0xd800 + (p - 0x10000) / 0x400)).val =
        0xd800 + (p - 0x10000) / 0x400 := Nat.mod_eq_of_lt (by omega)
    have hlow : (Fin.ofNat 65536 (0xdc00 + (p - 0x10000) % 0x400)).val =
        0xdc00 + (p - 0x10000) % 0x400 := Nat.mod_eq_of_lt (by omega)
    show utf8 (Fin.ofNat 65536 (0xd800 + (p - 0x10000) / 0x400) ::
      Fin.ofNat 65536 (0xdc00 + (p - 0x10000) % 0x400) :: s) = _
    have hpoint : 0x10000 + (0xd800 + (p - 0x10000) / 0x400 - 0xd800) * 0x400 +
        (0xdc00 + (p - 0x10000) % 0x400 - 0xdc00) = p := by omega
    rw [utf8, hhigh, hlow, if_pos (by omega), hpoint]

lemma utf8Point_twoBytes {b c : ℕ} (hb : 0xc2 ≤ b ∧ b ≤ 0xdf) (hc : isTail c = true) :
    utf8Point (twoBytes b c) = [b, c] := by
  simp only [isTail, Bool.and_eq_true, decide_eq_true_eq] at hc
  unfold utf8Point twoBytes
  rw [if_neg (by omega), if_pos (by omega)]
  simp only [List.cons.injEq, and_true]
  constructor <;> omega

lemma utf8Point_threeBytes {b c d : ℕ} (hb : 0xe0 ≤ b ∧ b ≤ 0xef) (hc : isTail c = true)
    (hd : isTail d = true) (hlong : 0x800 ≤ threeBytes b c d) :
    utf8Point (threeBytes b c d) = [b, c, d] := by
  simp only [isTail, Bool.and_eq_true, decide_eq_true_eq] at hc hd
  unfold threeBytes at hlong
  unfold utf8Point threeBytes
  rw [if_neg (by omega), if_neg (by omega), if_pos (by omega)]
  simp only [List.cons.injEq, and_true]
  refine ⟨?_, ?_, ?_⟩ <;> omega

lemma utf8Point_fourBytes {b c d e : ℕ} (hb : 0xf0 ≤ b ∧ b ≤ 0xf4) (hc : isTail c = true)
    (hd : isTail d = true) (he : isTail e = true) (hlong : 0x10000 ≤ fourBytes b c d e) :
    utf8Point (fourBytes b c d e) = [b, c, d, e] := by
  simp only [isTail, Bool.and_eq_true, decide_eq_true_eq] at hc hd he
  unfold fourBytes at hlong
  unfold utf8Point fourBytes
  rw [if_neg (by omega), if_neg (by omega), if_neg (by omega)]
  simp only [List.cons.injEq, and_true]
  refine ⟨?_, ?_, ?_, ?_⟩ <;> omega

/-- One point of a decoded text, whose encoding is `lead`. -/
lemma utf8_of_map {p : ℕ} {lead rest : List ℕ} {text : Str} (hp : isScalar p = true)
    (hlead : utf8Point p = lead)
    (ih : ∀ {text : Str}, decodeUtf8 rest = some text → utf8 text = rest)
    (h : (decodeUtf8 rest).map (unitsOfPoint p ++ ·) = some text) :
    utf8 text = lead ++ rest := by
  obtain ⟨tail, htail, rfl⟩ := Option.map_eq_some_iff.mp h
  rw [utf8_unitsOfPoint hp, hlead, ih htail]

/-- What decodes is the encoding of what it decodes to. -/
theorem utf8_of_decodeUtf8 {bytes : List ℕ} {text : Str} (h : decodeUtf8 bytes = some text) :
    utf8 text = bytes := by
  fun_induction decodeUtf8 bytes generalizing text with
  | case1 =>
    obtain rfl := Option.some.inj h
    rfl
  | case2 b rest hb ih =>
    have hp : isScalar b = true := by
      unfold isScalar
      simp only [Bool.or_eq_true, decide_eq_true_eq]
      omega
    exact utf8_of_map hp (if_pos hb) ih h
  | case4 b _ c rest hb hc ih =>
    simp only [Bool.and_eq_true, decide_eq_true_eq] at hb
    have hp : isScalar (twoBytes b c) = true := by
      have hc' := hc
      simp only [isTail, Bool.and_eq_true, decide_eq_true_eq] at hc'
      unfold isScalar twoBytes
      simp only [Bool.or_eq_true, decide_eq_true_eq]
      omega
    exact utf8_of_map hp (utf8Point_twoBytes hb hc) ih h
  | case7 b _ c _ d rest hb htails ih =>
    simp only [Bool.and_eq_true, decide_eq_true_eq] at hb htails
    obtain ⟨⟨⟨hc, hd⟩, hp⟩, hlong⟩ := htails
    exact utf8_of_map hp (utf8Point_threeBytes hb hc hd hlong) ih h
  | case10 b _ c _ d _ e rest htails ih =>
    simp only [Bool.and_eq_true, decide_eq_true_eq] at htails
    obtain ⟨⟨⟨⟨⟨hb, hc⟩, hd⟩, he⟩, hp⟩, hlong⟩ := htails
    exact utf8_of_map hp (utf8Point_fourBytes hb hc hd he hlong) ih h
  | _ => exact nomatch h

/-! ## Line breaks -/

/-- The byte of a line break. -/
def lineFeed : ℕ := 10

lemma isScalar_newLine : ¬(0xd800 ≤ newLine.val ∧ newLine.val ≤ 0xdfff) := by decide

lemma utf8_newLine_cons (s : Str) : utf8 (newLine :: s) = lineFeed :: utf8 s :=
  utf8_cons isScalar_newLine s

/-- No encoding runs across a line break. -/
lemma utf8_append_newLine (x y : Str) :
    utf8 (x ++ newLine :: y) = utf8 x ++ lineFeed :: utf8 y := by
  fun_induction utf8 x with
  | case1 => exact utf8_newLine_cons y
  | case2 c =>
    show utf8 (c :: newLine :: y) = _
    rw [utf8, if_neg, utf8_newLine_cons]
    intro h
    exact absurd h.2.2 (by decide)
  | case3 c d s hpair ih =>
    show utf8 (c :: d :: (s ++ newLine :: y)) = _
    rw [utf8, if_pos hpair, ih, List.append_assoc]
  | case4 c d s hpair ih =>
    show utf8 (c :: d :: (s ++ newLine :: y)) = _
    rw [utf8, if_neg hpair, List.append_assoc]
    exact congrArg _ ih

lemma lineFeed_mem_utf8Point {p : ℕ} (h : lineFeed ∈ utf8Point p) : p = lineFeed := by
  unfold utf8Point lineFeed at *
  split_ifs at h <;> simp only [List.mem_cons, List.not_mem_nil, or_false] at h <;> omega

lemma lineFeed_not_mem_utf8 {s : Str} (h : newLine ∉ s) : lineFeed ∉ utf8 s := by
  fun_induction utf8 s with
  | case1 => exact List.not_mem_nil
  | case2 c =>
    intro hmem
    have hpoint := lineFeed_mem_utf8Point hmem
    split_ifs at hpoint
    · exact absurd hpoint (by decide)
    · exact h (List.mem_singleton.mpr (Fin.ext hpoint.symm))
  | case3 c d s hpair ih =>
    rw [List.mem_append, not_or]
    constructor
    · intro hmem
      have hpoint := lineFeed_mem_utf8Point hmem
      unfold lineFeed at hpoint
      omega
    · exact ih fun hs => h (List.mem_cons_of_mem _ (List.mem_cons_of_mem _ hs))
  | case4 c d s hpair ih =>
    rw [List.mem_append, not_or]
    constructor
    · intro hmem
      have hpoint := lineFeed_mem_utf8Point hmem
      split_ifs at hpoint
      · exact absurd hpoint (by decide)
      · exact h (List.mem_cons.mpr (Or.inl (Fin.ext hpoint.symm)))
    · exact ih fun hs => h (List.mem_cons_of_mem _ hs)

/-- A decoded text is the bytes again, after a byte order mark that was dropped. -/
theorem utf8_of_decodeText {bytes : List ℕ} {text : Str} (h : decodeText bytes = some text) :
    (¬ byteOrderMark <+: bytes ∧ utf8 text = bytes) ∨
      bytes = byteOrderMark ++ utf8 text := by
  unfold decodeText at h
  split_ifs at h with hmark
  · right
    obtain ⟨rest, rfl⟩ := List.isPrefixOf_iff_prefix.mp hmark
    rw [List.drop_left] at h
    rw [utf8_of_decodeUtf8 h]
  · left
    exact ⟨fun hleading => hmark (List.isPrefixOf_iff_prefix.mpr hleading), utf8_of_decodeUtf8 h⟩

/-! ## ASCII -/

def isAscii (s : Str) : Bool := s.all (·.val < 0x80)

lemma isAscii_append {s t : Str} (hs : isAscii s = true) (ht : isAscii t = true) :
    isAscii (s ++ t) = true := by
  unfold isAscii at *
  rw [List.all_append, hs, ht]
  rfl

lemma utf8_ascii {s : Str} (h : isAscii s = true) (t : Str) :
    utf8 (s ++ t) = s.map (·.val) ++ utf8 t := by
  induction s with
  | nil => rfl
  | cons c s ih =>
    simp only [isAscii, List.all_cons, Bool.and_eq_true, decide_eq_true_eq] at h
    have hpoint : utf8Point c.val = [c.val] := if_pos h.1
    rw [List.cons_append, utf8_cons (by omega), ih h.2, hpoint]
    rfl

lemma utf8_of_isAscii {s : Str} (h : isAscii s = true) : utf8 s = s.map (·.val) := by
  have happend := utf8_ascii h []
  rwa [List.append_nil, utf8, List.append_nil] at happend

lemma utf8_ne_nil {s : Str} (h : s ≠ []) : utf8 s ≠ [] := by
  have hpoint : ∀ p, utf8Point p ≠ [] := by
    intro p
    unfold utf8Point
    split_ifs <;> exact List.cons_ne_nil _ _
  fun_cases utf8 s with
  | case1 => exact absurd rfl h
  | case2 c => exact hpoint _
  | case3 c d s hpair => exact List.append_ne_nil_of_left_ne_nil (hpoint _) _
  | case4 c d s hpair => exact List.append_ne_nil_of_left_ne_nil (hpoint _) _

end Js
