import CodexRouter.Js.JsonText
import CodexRouter.Js.Path

/-!
# `JSON.stringify` and `JSON.parse`

A value is read back from its text, whatever the indentation. The reader takes fuel, of which the
length of the text is enough. A number is taken as the text that `String(n)` writes.
-/

namespace Js.Json

/-! ## Writing -/

def lineBreak (gap indent : Str) : Str := if gap = [] then [] else cu '\n' :: indent

/-- What stands between a key and its value. -/
def colon (gap : Str) : Str := if gap = [] then [cu ':'] else [cu ':', cu ' ']

mutual

/-- `JSON.stringify(value, null, gap)`, of a value whose line is indented by `indent`. -/
def text (gap indent : Str) : Json → Str
  | null => js "null"
  | bool b => if b then js "true" else js "false"
  | num n => n.1
  | str s => quote s
  | arr [] => [cu '[', cu ']']
  | arr (a :: l) =>
    cu '[' :: (lineBreak gap (indent ++ gap) ++ (text gap (indent ++ gap) a
      ++ (moreItems gap (indent ++ gap) l ++ (lineBreak gap indent ++ [cu ']']))))
  | obj [] => [cu '{', cu '}']
  | obj ((k, a) :: m) =>
    cu '{' :: (lineBreak gap (indent ++ gap) ++ (quote k ++ (colon gap
      ++ (text gap (indent ++ gap) a
        ++ (moreMembers gap (indent ++ gap) m ++ (lineBreak gap indent ++ [cu '}']))))))

def moreItems (gap indent : Str) : List Json → Str
  | [] => []
  | a :: l => cu ',' :: (lineBreak gap indent ++ (text gap indent a ++ moreItems gap indent l))

def moreMembers (gap indent : Str) : List (Str × Json) → Str
  | [] => []
  | (k, a) :: m =>
    cu ',' :: (lineBreak gap indent ++ (quote k ++ (colon gap
      ++ (text gap indent a ++ moreMembers gap indent m))))

end

/-- `JSON.stringify(value)`. -/
def stringify (j : Json) : Str := text [] [] j

/-! ## Reading -/

def hexValue? (c : CodeUnit) : Option ℕ :=
  if isDigit c then some (c.val - 0x30)
  else if 0x61 ≤ c.val ∧ c.val ≤ 0x66 then some (c.val - 0x57)
  else if 0x41 ≤ c.val ∧ c.val ≤ 0x46 then some (c.val - 0x37)
  else none

def unescape? (c : CodeUnit) : Option CodeUnit :=
  if c = cu '"' ∨ c = cu '\\' ∨ c = cu '/' ∨ c = cu 'b' ∨ c = cu 'f' ∨ c = cu 'n' ∨ c = cu 'r'
    ∨ c = cu 't' then some (unescape c)
  else none

def unitOfHex? (a b c d : CodeUnit) : Option CodeUnit := do
  return Fin.ofNat 65536
    (((← hexValue? a) * 16 + (← hexValue? b)) * 256 + ((← hexValue? c) * 16 + (← hexValue? d)))

/-- The string behind its opening quote, and what follows its closing one. -/
def readString : Str → Option (Str × Str)
  | [] => none
  | c :: s =>
    if c = cu '"' then some ([], s)
    else if c = cu '\\' then
      match s with
      | [] => none
      | d :: s =>
        if d = cu 'u' then
          match s with
          | h₀ :: h₁ :: h₂ :: h₃ :: s =>
            (unitOfHex? h₀ h₁ h₂ h₃).bind fun u => (readString s).map (prepend [u])
          | _ => none
        else (unescape? d).bind fun u => (readString s).map (prepend [u])
    else if c.val < 0x20 then none
    else (readString s).map (prepend [c])

def isSpace (c : CodeUnit) : Bool := c = cu ' ' || c.val = 9 || c.val = 10 || c.val = 13

def skip (s : Str) : Str := s.dropWhile isSpace

/-- What follows the next unit that is no white space, where that unit is `c`. -/
def expect (c : CodeUnit) (s : Str) : Option Str :=
  match skip s with
  | [] => none
  | d :: s => if d = c then some s else none

def isTokenUnit (c : CodeUnit) : Bool := isNumberUnit c || (0x61 ≤ c.val && c.val ≤ 0x7a)

def scalar? (token : Str) : Option Json :=
  if token = js "null" then some null
  else if token = js "true" then some (bool true)
  else if token = js "false" then some (bool false)
  else if h : isNumberText token then some (num ⟨token, h⟩)
  else none

/-- A repeated key keeps its first place and its last value. -/
def addMember (k : Str) (v : Json) (m : List (Str × Json)) : List (Str × Json) :=
  match get? m k with
  | none => (k, v) :: m
  | some w => (k, w) :: m.filter fun e => e.1 ≠ k

mutual

def readValue : ℕ → Str → Option (Json × Str)
  | 0, _ => none
  | n + 1, s =>
    match skip s with
    | [] => none
    | c :: s =>
      if c = cu '"' then (readString s).map fun (t, s) => (str t, s)
      else if c = cu '[' then
        match expect (cu ']') s with
        | some s => some (arr [], s)
        | none => (readItems n s).map fun (l, s) => (arr l, s)
      else if c = cu '{' then
        match expect (cu '}') s with
        | some s => some (obj [], s)
        | none => (readMembers n s).map fun (m, s) => (obj m, s)
      else
        (scalar? ((c :: s).takeWhile isTokenUnit)).map fun j =>
          (j, (c :: s).dropWhile isTokenUnit)

def readItems : ℕ → Str → Option (List Json × Str)
  | 0, _ => none
  | n + 1, s => do
    let (a, s) ← readValue n s
    match expect (cu ']') s with
    | some s => return ([a], s)
    | none =>
      let (l, s) ← readItems n (← expect (cu ',') s)
      return (a :: l, s)

def readMembers : ℕ → Str → Option (List (Str × Json) × Str)
  | 0, _ => none
  | n + 1, s => do
    let (k, s) ← readString (← expect (cu '"') s)
    let (a, s) ← readValue n (← expect (cu ':') s)
    match expect (cu '}') s with
    | some s => return ([(k, a)], s)
    | none =>
      let (m, s) ← readMembers n (← expect (cu ',') s)
      return (addMember k a m, s)

end

/-- `JSON.parse(text)`; `none` where it throws. -/
def parse? (s : Str) : Option Json := do
  let (j, rest) ← readValue (s.length + 1) s
  if skip rest = [] then some j else none

/-! ## Reading what was written -/

mutual

/-- No object in the value has one key twice. -/
def Keyed : Json → Prop
  | null | bool _ | num _ | str _ => True
  | arr l => KeyedItems l
  | obj m => (m.map Prod.fst).Nodup ∧ KeyedMembers m

def KeyedItems : List Json → Prop
  | [] => True
  | a :: l => Keyed a ∧ KeyedItems l

def KeyedMembers : List (Str × Json) → Prop
  | [] => True
  | (_, a) :: m => Keyed a ∧ KeyedMembers m

end

mutual

/-- The fuel that reading takes. -/
def weight : Json → ℕ
  | null | bool _ | num _ | str _ => 1
  | arr l => weightItems l + 1
  | obj m => weightMembers m + 1

def weightItems : List Json → ℕ
  | [] => 0
  | a :: l => weight a + weightItems l + 1

def weightMembers : List (Str × Json) → ℕ
  | [] => 0
  | (_, a) :: m => weight a + weightMembers m + 1

end

lemma hexValue_hexUnit : ∀ n < 16, hexValue? (hexUnit n) = some n := by decide

lemma unitOfHex_units (c : CodeUnit) :
    unitOfHex? (hexUnit (c.val / 0x1000)) (hexUnit (c.val / 0x100 % 16))
      (hexUnit (c.val / 0x10 % 16)) (hexUnit (c.val % 16)) = some c := by
  have hc := c.isLt
  unfold unitOfHex?
  rw [hexValue_hexUnit _ (by omega), hexValue_hexUnit _ (by omega), hexValue_hexUnit _ (by omega),
    hexValue_hexUnit _ (by omega)]
  show some _ = some _
  congr 1
  apply Fin.ext
  rw [Fin.val_ofNat]
  omega

lemma readString_escapeUnit (c : CodeUnit) (s : Str) :
    readString (escapeUnit c ++ s) = (readString s).map (prepend [c]) := by
  show readString (cu '\\' :: cu 'u' :: _ :: _ :: _ :: _ :: s) = _
  rw [readString, if_neg (by decide), if_pos rfl, if_pos rfl, unitOfHex_units, Option.bind_some]

lemma readString_escaped {c d : CodeUnit} (hc : c ≠ cu 'u') (hd : unescape? c = some d) (s : Str) :
    readString (cu '\\' :: c :: s) = (readString s).map (prepend [d]) := by
  rw [readString.eq_def]
  dsimp only
  rw [if_neg (by decide), if_pos rfl, if_neg hc, hd, Option.bind_some]

lemma readString_kept {c : CodeUnit} (hq : c ≠ cu '"') (hb : c ≠ cu '\\') (hc : ¬ c.val < 0x20)
    (s : Str) : readString (c :: s) = (readString s).map (prepend [c]) := by
  rw [readString.eq_def]
  dsimp only
  rw [if_neg hq, if_neg hb, if_neg hc]

lemma readString_quoteUnit (c : CodeUnit) (s : Str) :
    readString (quoteUnit c ++ s) = (readString s).map (prepend [c]) := by
  unfold quoteUnit
  split
  · rename_i h
    rcases h with rfl | rfl <;> exact readString_escaped (by decide) (by decide) s
  rename_i h
  rw [not_or] at h
  split_ifs with h₁ h₂ h₃ h₄ h₅ h₆
  · rw [show c = 8 from Fin.ext h₁]
    exact readString_escaped (by decide) (by decide) s
  · rw [show c = 9 from Fin.ext h₂]
    exact readString_escaped (by decide) (by decide) s
  · rw [show c = 10 from Fin.ext h₃]
    exact readString_escaped (by decide) (by decide) s
  · rw [show c = 12 from Fin.ext h₄]
    exact readString_escaped (by decide) (by decide) s
  · rw [show c = 13 from Fin.ext h₅]
    exact readString_escaped (by decide) (by decide) s
  · exact readString_escapeUnit c s
  · exact readString_kept h.1 h.2 h₆ s

lemma prepend_prepend (u v : Str) (p : Str × Str) :
    prepend u (prepend v p) = prepend (u ++ v) p := by
  simp [prepend]

theorem readString_quoteUnits (t s : Str) :
    readString (quoteUnits t ++ s) = (readString s).map (prepend t) := by
  induction t using quoteUnits.induct with
  | case1 =>
    rw [quoteUnits, List.nil_append]
    cases readString s <;> rfl
  | case2 c h => rw [quoteUnits, if_pos h, readString_escapeUnit]
  | case3 c h => rw [quoteUnits, if_neg h, readString_quoteUnit]
  | case4 c d t hpair ih =>
    rw [quoteUnits, if_pos hpair]
    simp only [isHighSurrogate, isLowSurrogate, Bool.and_eq_true, decide_eq_true_eq] at hpair
    have hne : ∀ e : CodeUnit, 0xd800 ≤ e.val → e ≠ cu '"' ∧ e ≠ cu '\\' ∧ ¬ e.val < 0x20 := by
      intro e he
      refine ⟨?_, ?_, by omega⟩ <;>
      · rintro rfl
        exact absurd he (by decide)
    obtain ⟨hq, hb, hlt⟩ := hne c (by omega)
    obtain ⟨hq', hb', hlt'⟩ := hne d (by omega)
    rw [List.cons_append, List.cons_append, readString_kept hq hb hlt, readString_kept hq' hb' hlt',
      ih, Option.map_map, Option.map_map]
    congr 1
  | case5 c d t hpair ih =>
    have hc : ∀ u, readString
        ((if isHighSurrogate c || isLowSurrogate c then escapeUnit c else quoteUnit c) ++ u) =
          (readString u).map (prepend [c]) := by
      intro u
      split
      · exact readString_escapeUnit c u
      · exact readString_quoteUnit c u
    rw [quoteUnits, if_neg hpair, List.append_assoc, hc, ih, Option.map_map]
    congr 1

lemma readString_quoted (t s : Str) :
    readString (quoteUnits t ++ cu '"' :: s) = some (t, s) := by
  have hend : readString (cu '"' :: s) = some ([], s) := by
    rw [readString.eq_def]
    exact if_pos rfl
  rw [readString_quoteUnits, hend]
  simp [prepend]

/-! ## Between the tokens -/

def Blank (s : Str) : Prop := ∀ c ∈ s, isSpace c = true

lemma skip_blank {w : Str} (hw : Blank w) (s : Str) : skip (w ++ s) = skip s :=
  List.dropWhile_append_of_pos hw

lemma skip_cons {c : CodeUnit} (hc : isSpace c = false) (s : Str) : skip (c :: s) = c :: s :=
  List.dropWhile_cons_of_neg (by simp [hc])

lemma blank_lineBreak {gap indent : Str} (hi : Blank indent) : Blank (lineBreak gap indent) := by
  unfold lineBreak
  split
  · simp [Blank]
  · rw [Blank, List.forall_mem_cons]
    exact ⟨by decide, hi⟩

lemma expect_here {c : CodeUnit} {w : Str} (hw : Blank w) (hc : isSpace c = false) (s : Str) :
    expect c (w ++ c :: s) = some s := by
  rw [expect, skip_blank hw, skip_cons hc]
  exact if_pos rfl

lemma expect_other {c d : CodeUnit} {w : Str} (hw : Blank w) (hd : isSpace d = false)
    (hne : d ≠ c) (s : Str) : expect c (w ++ d :: s) = none := by
  rw [expect, skip_blank hw, skip_cons hd]
  exact if_neg hne

/-- A token ends before the text. -/
def Ends (s : Str) : Prop := ∀ c ∈ s.head?, isTokenUnit c = false

lemma ends_cons {c : CodeUnit} (h : isTokenUnit c = false) (s : Str) : Ends (c :: s) := by
  intro d hd
  cases hd
  exact h

lemma isTokenUnit_plain {c : CodeUnit} (h : isTokenUnit c = true) :
    isSpace c = false ∧ c ≠ cu '"' ∧ c ≠ cu '[' ∧ c ≠ cu '{' ∧ c ≠ cu ']' ∧ c ≠ cu '}' := by
  refine ⟨?_, ?_, ?_, ?_, ?_, ?_⟩
  · by_contra hs
    simp only [isSpace, Bool.not_eq_false, Bool.or_eq_true, decide_eq_true_eq] at hs
    have hv : c = 32 ∨ c = 9 ∨ c = 10 ∨ c = 13 := by
      rcases hs with ((hs | hs) | hs) | hs
      · exact .inl hs
      · exact .inr (.inl (Fin.ext hs))
      · exact .inr (.inr (.inl (Fin.ext hs)))
      · exact .inr (.inr (.inr (Fin.ext hs)))
    rcases hv with rfl | rfl | rfl | rfl <;> exact absurd h (by decide)
  all_goals
    rintro rfl
    exact absurd h (by decide)

lemma readValue_token {token : Str} {j : Json} (hall : ∀ c ∈ token, isTokenUnit c = true)
    (hj : scalar? token = some j) {w rest : Str} (hw : Blank w) (hrest : Ends rest) (n : ℕ) :
    readValue (n + 1) (w ++ (token ++ rest)) = some (j, rest) := by
  have hne : token ≠ [] := by
    rintro rfl
    exact absurd hj (by simp [scalar?, isNumberText, js])
  obtain ⟨c, token, rfl⟩ := List.exists_cons_of_ne_nil hne
  obtain ⟨hspace, hq, hl, hb, -, -⟩ := isTokenUnit_plain (hall c List.mem_cons_self)
  have htake : ((c :: token) ++ rest).takeWhile isTokenUnit = c :: token := by
    rw [List.takeWhile_append_of_pos hall]
    cases rest with
    | nil => simp
    | cons d rest => simp [hrest d rfl]
  have hdrop : ((c :: token) ++ rest).dropWhile isTokenUnit = rest := by
    rw [List.dropWhile_append_of_pos hall]
    cases rest with
    | nil => rfl
    | cons d rest => simp [hrest d rfl]
  rw [readValue, skip_blank hw, List.cons_append, skip_cons hspace]
  dsimp only
  rw [if_neg hq, if_neg hl, if_neg hb, ← List.cons_append, htake, hdrop, hj, Option.map_some]

lemma scalar_null : scalar? (js "null") = some null := if_pos rfl

lemma scalar_true : scalar? (js "true") = some (bool true) := by
  rw [scalar?, if_neg (by decide), if_pos rfl]

lemma scalar_false : scalar? (js "false") = some (bool false) := by
  rw [scalar?, if_neg (by decide), if_neg (by decide), if_pos rfl]

lemma scalar_number (t : Num) : scalar? t.1 = some (num t) := by
  have hne : ∀ s : Str, isNumberText s = false → t.1 ≠ s := by
    rintro s hs rfl
    exact absurd t.2 (by simp [hs])
  rw [scalar?, if_neg (hne _ (by decide)), if_neg (hne _ (by decide)), if_neg (hne _ (by decide)),
    dif_pos t.2]

lemma isTokenUnit_number (t : Num) : ∀ c ∈ t.1, isTokenUnit c = true := by
  have ht := t.2
  rw [isNumberText, Bool.and_eq_true, List.all_eq_true] at ht
  intro c hc
  rw [isTokenUnit, ht.1 c hc, Bool.true_or]

/-- A text starts with a unit that is neither white space nor closes anything. -/
lemma text_head (gap indent : Str) (j : Json) :
    ∃ c s, text gap indent j = c :: s ∧ isSpace c = false ∧ c ≠ cu ']' ∧ c ≠ cu '}' := by
  cases j with
  | null => exact ⟨_, _, rfl, by decide⟩
  | bool b => cases b <;> exact ⟨_, _, rfl, by decide⟩
  | num t =>
    obtain ⟨c, s, hs⟩ : ∃ c s, t.1 = c :: s := by
      apply List.exists_cons_of_ne_nil
      intro ht
      exact absurd t.2 (by rw [ht]; decide)
    have hc := isTokenUnit_plain (isTokenUnit_number t c (by simp [hs]))
    exact ⟨c, s, by rw [text, hs], hc.1, hc.2.2.2.2⟩
  | str t => exact ⟨_, _, rfl, by decide⟩
  | arr l => cases l <;> exact ⟨_, _, rfl, by decide⟩
  | obj m => cases m <;> exact ⟨_, _, rfl, by decide⟩

/-! ## Round trip -/

lemma addMember_new {k : Str} {m : List (Str × Json)} (h : k ∉ m.map Prod.fst) (v : Json) :
    addMember k v m = (k, v) :: m := by
  have hnone : get? m k = none := by
    rw [get?, List.lookup_eq_none_iff]
    intro e he
    simpa using fun hk : k = e.1 => h (hk ▸ List.mem_map_of_mem he)
  rw [addMember, hnone]

/-- The items after the opening bracket. -/
def itemsText (gap indent : Str) : List Json → Str
  | [] => []
  | a :: l => text gap indent a ++ moreItems gap indent l

def membersText (gap indent : Str) : List (Str × Json) → Str
  | [] => []
  | (k, a) :: m => quote k ++ (colon gap ++ (text gap indent a ++ moreMembers gap indent m))

lemma ends_moreItems (gap indent : Str) (l : List Json) {s : Str} (hs : Ends s) :
    Ends (moreItems gap indent l ++ s) := by
  cases l with
  | nil => exact hs
  | cons a l => exact ends_cons (by decide) _

lemma ends_moreMembers (gap indent : Str) (m : List (Str × Json)) {s : Str} (hs : Ends s) :
    Ends (moreMembers gap indent m ++ s) := by
  cases m with
  | nil => exact hs
  | cons a m => exact ends_cons (by decide) _

lemma ends_blank {w : Str} (hw : Blank w) {c : CodeUnit} (hc : isTokenUnit c = false) (s : Str) :
    Ends (w ++ c :: s) := by
  cases w with
  | nil => exact ends_cons hc s
  | cons d w =>
    apply ends_cons
    by_contra hd
    rw [Bool.not_eq_false] at hd
    have hspace := hw d List.mem_cons_self
    rw [(isTokenUnit_plain hd).1] at hspace
    cases hspace

lemma expect_colon {gap : Str} (s : Str) :
    ∃ w, Blank w ∧ expect (cu ':') (colon gap ++ s) = some (w ++ s) := by
  unfold colon
  split
  · exact ⟨[], by simp [Blank], expect_here (w := []) (by simp [Blank]) (by decide) s⟩
  · exact ⟨[cu ' '], by simp [Blank, isSpace], expect_here (w := []) (by simp [Blank]) (by decide) _⟩

lemma text_obj_cons (gap indent : Str) (m : List (Str × Json)) (hm : m ≠ []) (rest : Str) :
    text gap indent (obj m) ++ rest = cu '{' :: (lineBreak gap (indent ++ gap)
      ++ (membersText gap (indent ++ gap) m ++ (lineBreak gap indent ++ cu '}' :: rest))) := by
  obtain ⟨⟨k, a⟩, m, rfl⟩ := List.exists_cons_of_ne_nil hm
  simp [text, membersText]

lemma text_arr_cons (gap indent : Str) (l : List Json) (hl : l ≠ []) (rest : Str) :
    text gap indent (arr l) ++ rest = cu '[' :: (lineBreak gap (indent ++ gap)
      ++ (itemsText gap (indent ++ gap) l ++ (lineBreak gap indent ++ cu ']' :: rest))) := by
  obtain ⟨a, l, rfl⟩ := List.exists_cons_of_ne_nil hl
  simp [text, itemsText]

lemma expect_items {gap w : Str} (hw : Blank w) (indent : Str) {l : List Json} (hl : l ≠ [])
    (s : Str) : expect (cu ']') (w ++ (itemsText gap indent l ++ s)) = none := by
  obtain ⟨a, l, rfl⟩ := List.exists_cons_of_ne_nil hl
  obtain ⟨c, t, hc, hspace, hne, -⟩ := text_head gap indent a
  rw [itemsText, hc, List.cons_append, List.cons_append]
  exact expect_other hw hspace hne _

lemma expect_members {gap w : Str} (hw : Blank w) (indent : Str) {m : List (Str × Json)}
    (hm : m ≠ []) (s : Str) : expect (cu '}') (w ++ (membersText gap indent m ++ s)) = none := by
  obtain ⟨⟨k, a⟩, m, rfl⟩ := List.exists_cons_of_ne_nil hm
  exact expect_other hw (by decide) (by decide) _

mutual

theorem readValue_text {gap : Str} (hgap : Blank gap) : (j : Json) → j.Keyed →
    ∀ {n w indent rest}, Blank w → Blank indent → j.weight ≤ n → Ends rest →
    readValue n (w ++ (text gap indent j ++ rest)) = some (j, rest)
  | j, _, 0, _, _, _, _, _, hn, _ => by
    cases j <;> simp [weight] at hn
  | null, _, n + 1, w, _, rest, hw, _, _, hrest => by
    rw [text]
    exact readValue_token (List.all_eq_true.mp (by decide)) scalar_null hw hrest n
  | bool true, _, n + 1, w, _, rest, hw, _, _, hrest => by
    rw [text, if_pos rfl]
    exact readValue_token (List.all_eq_true.mp (by decide)) scalar_true hw hrest n
  | bool false, _, n + 1, w, _, rest, hw, _, _, hrest => by
    rw [text, if_neg (by decide)]
    exact readValue_token (List.all_eq_true.mp (by decide)) scalar_false hw hrest n
  | num t, _, n + 1, w, _, rest, hw, _, _, hrest => by
    rw [text]
    exact readValue_token (isTokenUnit_number t) (scalar_number t) hw hrest n
  | str t, _, n + 1, w, _, rest, hw, _, _, _ => by
    rw [text, quote, readValue, skip_blank hw, List.cons_append, List.cons_append,
      skip_cons (by decide)]
    dsimp only
    rw [if_pos rfl, List.append_assoc, List.singleton_append, readString_quoted]
    rfl
  | arr l, hk, n + 1, w, indent, rest, hw, hi, hn, _ => by
    have ih := readItems_text hgap l
    rw [readValue, skip_blank hw]
    by_cases hl : l = []
    · subst hl
      have hend : expect (cu ']') (cu ']' :: rest) = some rest :=
        expect_here (w := []) (by simp [Blank]) (by decide) rest
      rw [text, List.cons_append, skip_cons (by decide)]
      dsimp only
      rw [if_neg (by decide), if_pos rfl, List.singleton_append, hend]
    · have hblank : Blank (indent ++ gap) := by
        simpa [Blank, or_imp, forall_and] using ⟨hi, hgap⟩
      have hn' : weightItems l ≤ n := by simpa [weight] using hn
      rw [text_arr_cons gap indent l hl, skip_cons (by decide)]
      dsimp only
      rw [if_neg (by decide), if_pos rfl, expect_items (blank_lineBreak hblank) _ hl,
        ih hl hk (blank_lineBreak hblank) (blank_lineBreak hi) hblank hn']
      rfl
  | obj m, hk, n + 1, w, indent, rest, hw, hi, hn, _ => by
    have ih := readMembers_text hgap m
    rw [readValue, skip_blank hw]
    by_cases hm : m = []
    · subst hm
      have hend : expect (cu '}') (cu '}' :: rest) = some rest :=
        expect_here (w := []) (by simp [Blank]) (by decide) rest
      rw [text, List.cons_append, skip_cons (by decide)]
      dsimp only
      rw [if_neg (by decide), if_neg (by decide), if_pos rfl, List.singleton_append, hend]
    · have hblank : Blank (indent ++ gap) := by
        simpa [Blank, or_imp, forall_and] using ⟨hi, hgap⟩
      have hn' : weightMembers m ≤ n := by simpa [weight] using hn
      rw [text_obj_cons gap indent m hm, skip_cons (by decide)]
      dsimp only
      rw [if_neg (by decide), if_neg (by decide), if_pos rfl,
        expect_members (blank_lineBreak hblank) _ hm,
        ih hm hk.2 hk.1 (blank_lineBreak hblank) (blank_lineBreak hi) hblank hn']
      rfl

theorem readItems_text {gap : Str} (hgap : Blank gap) : (l : List Json) → l ≠ [] → KeyedItems l →
    ∀ {n w w' indent rest}, Blank w → Blank w' → Blank indent → weightItems l ≤ n →
    readItems n (w ++ (itemsText gap indent l ++ (w' ++ cu ']' :: rest))) = some (l, rest)
  | [], hne, _, _, _, _, _, _, _, _, _, _ => absurd rfl hne
  | a :: l, _, _, 0, _, _, _, _, _, _, _, hn => by
    simp [weightItems] at hn
  | a :: l, _, hk, n + 1, w, w', indent, rest, hw, hw', hi, hn => by
    have ih := readItems_text hgap l
    have hends : Ends (w' ++ cu ']' :: rest) := ends_blank hw' (by decide) rest
    rw [weightItems] at hn
    rw [readItems, itemsText, List.append_assoc,
      readValue_text hgap a hk.1 hw hi (by omega) (ends_moreItems gap indent l hends)]
    cases l with
    | nil =>
      dsimp only [moreItems, List.nil_append, Option.bind_eq_bind, Option.bind_some]
      rw [expect_here hw' (by decide)]
      rfl
    | cons b l =>
      have hnone : expect (cu ']') (moreItems gap indent (b :: l) ++ (w' ++ cu ']' :: rest)) = none :=
        expect_other (w := []) (by simp [Blank]) (by decide) (by decide) _
      have hcomma : expect (cu ',') (moreItems gap indent (b :: l) ++ (w' ++ cu ']' :: rest)) =
          some (lineBreak gap indent ++ (itemsText gap indent (b :: l) ++ (w' ++ cu ']' :: rest))) := by
        rw [moreItems, itemsText, List.cons_append, List.append_assoc]
        exact expect_here (w := []) (by simp [Blank]) (by decide) _
      dsimp only [Option.bind_eq_bind, Option.bind_some]
      rw [hnone, hcomma]
      dsimp only [Option.bind_some]
      rw [ih (by simp) hk.2 (blank_lineBreak hi) hw' hi (by omega)]
      rfl

theorem readMembers_text {gap : Str} (hgap : Blank gap) : (m : List (Str × Json)) → m ≠ [] →
    KeyedMembers m → (m.map Prod.fst).Nodup →
    ∀ {n w w' indent rest}, Blank w → Blank w' → Blank indent → weightMembers m ≤ n →
    readMembers n (w ++ (membersText gap indent m ++ (w' ++ cu '}' :: rest))) = some (m, rest)
  | [], hne, _, _, _, _, _, _, _, _, _, _, _ => absurd rfl hne
  | (k, a) :: m, _, _, _, 0, _, _, _, _, _, _, _, hn => by
    simp [weightMembers] at hn
  | (k, a) :: m, _, hk, hnodup, n + 1, w, w', indent, rest, hw, hw', hi, hn => by
    have ih := readMembers_text hgap m
    have hends : Ends (w' ++ cu '}' :: rest) := ends_blank hw' (by decide) rest
    rw [List.map_cons, List.nodup_cons] at hnodup
    rw [weightMembers] at hn
    obtain ⟨u, hu, hcolon⟩ := @expect_colon gap
      (text gap indent a ++ (moreMembers gap indent m ++ (w' ++ cu '}' :: rest)))
    have hopen : expect (cu '"') (w ++ (membersText gap indent ((k, a) :: m) ++ (w' ++ cu '}' :: rest)))
        = some (quoteUnits k ++ cu '"' :: (colon gap ++
          (text gap indent a ++ (moreMembers gap indent m ++ (w' ++ cu '}' :: rest))))) := by
      rw [membersText, quote]
      simpa using expect_here hw (by decide) _
    rw [readMembers, hopen]
    dsimp only [Option.bind_eq_bind, Option.bind_some]
    rw [readString_quoted]
    dsimp only [Option.bind_some]
    rw [hcolon]
    dsimp only [Option.bind_some]
    rw [readValue_text hgap a hk.1 hu hi (by omega) (ends_moreMembers gap indent m hends)]
    cases m with
    | nil =>
      dsimp only [moreMembers, List.nil_append, Option.bind_some]
      rw [expect_here hw' (by decide)]
      rfl
    | cons b m =>
      have hnone : expect (cu '}') (moreMembers gap indent (b :: m) ++ (w' ++ cu '}' :: rest)) = none :=
        expect_other (w := []) (by simp [Blank]) (by decide) (by decide) _
      have hcomma : expect (cu ',') (moreMembers gap indent (b :: m) ++ (w' ++ cu '}' :: rest)) =
          some (lineBreak gap indent ++ (membersText gap indent (b :: m) ++ (w' ++ cu '}' :: rest))) := by
        have h := expect_here (c := cu ',') (w := []) (by simp [Blank]) (by decide)
          (lineBreak gap indent ++ (membersText gap indent (b :: m) ++ (w' ++ cu '}' :: rest)))
        simpa [moreMembers, membersText] using h
      dsimp only [Option.bind_some]
      rw [hnone, hcomma]
      dsimp only [Option.bind_some]
      rw [ih (by simp) hk.2 hnodup.2 (blank_lineBreak hi) hw' hi (by omega)]
      show some (addMember k a (b :: m), rest) = _
      rw [addMember_new hnodup.1]

end

/-! The text is long enough to pay for reading it. -/

lemma length_text_pos (gap indent : Str) (j : Json) : 0 < (text gap indent j).length := by
  obtain ⟨c, s, hs, -⟩ := text_head gap indent j
  rw [hs]
  exact Nat.succ_pos _

mutual

theorem weight_le (gap : Str) : (j : Json) → ∀ indent, j.weight ≤ (text gap indent j).length
  | null, indent => length_text_pos gap indent null
  | bool b, indent => length_text_pos gap indent (bool b)
  | num t, indent => length_text_pos gap indent (num t)
  | str t, indent => length_text_pos gap indent (str t)
  | arr l, indent => by
    have ih := weightItems_le gap l (indent ++ gap)
    cases l with
    | nil => simp [weight, weightItems, text]
    | cons a l =>
      simp only [text, weight, itemsText, List.length_cons, List.length_append, List.length_nil]
        at ih ⊢
      omega
  | obj m, indent => by
    have ih := weightMembers_le gap m (indent ++ gap)
    cases m with
    | nil => simp [weight, weightMembers, text]
    | cons a m =>
      simp only [text, weight, membersText, List.length_cons, List.length_append, List.length_nil]
        at ih ⊢
      omega

theorem weightItems_le (gap : Str) : (l : List Json) → ∀ indent,
    weightItems l ≤ (itemsText gap indent l).length + 1
  | [], _ => Nat.zero_le _
  | a :: l, indent => by
    have ha := weight_le gap a indent
    have ih := weightItems_le gap l indent
    cases l <;>
    · simp only [weightItems, itemsText, moreItems, List.length_cons, List.length_append,
        List.length_nil] at ih ⊢
      omega

theorem weightMembers_le (gap : Str) : (m : List (Str × Json)) → ∀ indent,
    weightMembers m ≤ (membersText gap indent m).length + 1
  | [], _ => Nat.zero_le _
  | (k, a) :: m, indent => by
    have ha := weight_le gap a indent
    have ih := weightMembers_le gap m indent
    cases m <;>
    · simp only [weightMembers, membersText, moreMembers, List.length_cons, List.length_append,
        List.length_nil] at ih ⊢
      omega

end

/-- `JSON.parse(JSON.stringify(value, null, gap))` is the value. -/
theorem parse_text {gap : Str} (hgap : Blank gap) {j : Json} (hj : j.Keyed) :
    parse? (text gap [] j) = some j := by
  have hread : readValue ((text gap [] j).length + 1) ([] ++ (text gap [] j ++ [])) = some (j, []) :=
    readValue_text hgap j hj (by simp [Blank]) (by simp [Blank])
      ((weight_le gap j []).trans (Nat.le_succ _)) (by simp [Ends])
  rw [List.nil_append, List.append_nil] at hread
  rw [parse?, hread]
  rfl

theorem parse_stringify {j : Json} (hj : j.Keyed) : parse? (stringify j) = some j :=
  parse_text (by simp [Blank]) hj

/-! ## JSON lines -/

def newline : CodeUnit := cu '\n'

lemma newline_not_mem_escapeUnit (c : CodeUnit) : newline ∉ escapeUnit c := by
  have hhex : ∀ n < 16, hexUnit n ≠ newline := by decide
  have hc := c.isLt
  simp only [escapeUnit, List.mem_cons, List.not_mem_nil, or_false, not_or]
  exact ⟨by decide, by decide, (hhex _ (by omega)).symm, (hhex _ (by omega)).symm,
    (hhex _ (by omega)).symm, (hhex _ (by omega)).symm⟩

lemma newline_not_mem_quoteUnit (c : CodeUnit) : newline ∉ quoteUnit c := by
  unfold quoteUnit
  split_ifs with h₁ h₂ h₃ h₄
  · rcases h₁ with rfl | rfl <;> decide
  · decide
  · decide
  · decide
  · decide
  · decide
  · exact newline_not_mem_escapeUnit c
  · rw [List.mem_singleton]
    rintro rfl
    exact h₄ (by decide)

lemma newline_not_mem_quoteUnits (s : Str) : newline ∉ quoteUnits s := by
  have hor (c : CodeUnit) (p : Bool) : newline ∉ if p then escapeUnit c else quoteUnit c := by
    split
    · exact newline_not_mem_escapeUnit c
    · exact newline_not_mem_quoteUnit c
  induction s using quoteUnits.induct with
  | case1 => simp [quoteUnits]
  | case2 c h =>
    rw [quoteUnits]
    exact hor c _
  | case3 c h =>
    rw [quoteUnits]
    exact hor c _
  | case4 c d s hpair ih =>
    rw [quoteUnits, if_pos hpair]
    simp only [isHighSurrogate, isLowSurrogate, Bool.and_eq_true, decide_eq_true_eq] at hpair
    have hne : ∀ e : CodeUnit, 0xd800 ≤ e.val → newline ≠ e := by
      rintro e he rfl
      exact absurd he (by decide)
    simp [ih, hne c (by omega), hne d (by omega)]
  | case5 c d s hpair ih =>
    rw [quoteUnits, if_neg hpair, List.mem_append, not_or]
    exact ⟨hor c _, ih⟩

lemma newline_not_mem_quote (s : Str) : newline ∉ quote s := by
  have h := newline_not_mem_quoteUnits s
  have hq : newline ≠ cu '"' := by decide
  simp [quote, h, hq]

lemma newline_not_mem_number (t : Num) : newline ∉ t.1 := by
  intro h
  exact absurd (isTokenUnit_number t newline h) (by decide)

mutual

theorem newline_not_mem_text (indent : Str) : (j : Json) → newline ∉ text [] indent j
  | null => by
    rw [text]
    decide
  | bool b => by cases b <;> exact of_decide_eq_true rfl
  | num t => newline_not_mem_number t
  | str t => newline_not_mem_quote t
  | arr [] => of_decide_eq_true rfl
  | arr (a :: l) => by
    have ha := newline_not_mem_text indent a
    have hl := newline_not_mem_items indent l
    have hopen : newline ≠ cu '[' := by decide
    have hclose : newline ≠ cu ']' := by decide
    simp [text, lineBreak, ha, hl, hopen, hclose]
  | obj [] => of_decide_eq_true rfl
  | obj ((k, a) :: m) => by
    have ha := newline_not_mem_text indent a
    have hm := newline_not_mem_members indent m
    have hopen : newline ≠ cu '{' := by decide
    have hclose : newline ≠ cu '}' := by decide
    have hcolon : newline ≠ cu ':' := by decide
    simp [text, lineBreak, colon, ha, hm, hopen, hclose, hcolon, newline_not_mem_quote]

theorem newline_not_mem_items (indent : Str) : (l : List Json) → newline ∉ moreItems [] indent l
  | [] => by simp [moreItems]
  | a :: l => by
    have ha := newline_not_mem_text indent a
    have hl := newline_not_mem_items indent l
    have hcomma : newline ≠ cu ',' := by decide
    simp [moreItems, lineBreak, ha, hl, hcomma]

theorem newline_not_mem_members (indent : Str) :
    (m : List (Str × Json)) → newline ∉ moreMembers [] indent m
  | [] => by simp [moreMembers]
  | (k, a) :: m => by
    have ha := newline_not_mem_text indent a
    have hm := newline_not_mem_members indent m
    have hcomma : newline ≠ cu ',' := by decide
    have hcolon : newline ≠ cu ':' := by decide
    simp [moreMembers, lineBreak, colon, ha, hm, hcomma, hcolon, newline_not_mem_quote]

end

/-- `content.split("\n").filter(Boolean)`. -/
def nonEmptyLines (content : Str) : List Str := (split newline content).filter (· ≠ [])

/-- What one line for each value leaves in a file. -/
def lineFile (values : List Json) : Str := values.flatMap fun j => stringify j ++ [newline]

lemma split_line {t : Str} (h : newline ∉ t) (s : Str) :
    split newline (t ++ newline :: s) = t :: split newline s := by
  induction t with
  | nil => rw [List.nil_append, split_cons, if_pos rfl]
  | cons c t ih =>
    rw [List.mem_cons, not_or] at h
    rw [List.cons_append, split_cons, if_neg (Ne.symm h.1), ih h.2]
    rfl

theorem nonEmptyLines_lineFile (values : List Json) :
    nonEmptyLines (lineFile values) = values.map stringify := by
  induction values with
  | nil => decide
  | cons j values ih =>
    have hne : stringify j ≠ [] := List.ne_nil_of_length_pos (length_text_pos [] [] j)
    have hcons : lineFile (j :: values) = stringify j ++ newline :: lineFile values := by
      simp [lineFile]
    rw [nonEmptyLines] at ih ⊢
    have hline : newline ∉ stringify j := newline_not_mem_text [] j
    rw [hcons, split_line hline, List.filter_cons_of_pos (by simpa using hne),
      ih, List.map_cons]

lemma lineFile_concat (values : List Json) (j : Json) :
    lineFile (values ++ [j]) = lineFile values ++ (stringify j ++ [newline]) := by
  simp [lineFile]

end Js.Json
