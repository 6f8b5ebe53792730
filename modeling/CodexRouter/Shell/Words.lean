import CodexRouter.Js.Text

/-!
# The words of a shell command

A command line is read unit by unit by the word rules of the POSIX shell. Only what is a list of
words that stand for themselves is read: an operator, a pattern or an expansion has no reading.
History expansion is not one of the rules.
-/

open Js

namespace Shell

/-- What ends a command line or a line continuation. -/
def newline : CodeUnit := 10

/-- Where the reader stands. -/
inductive Mode where
  /-- Outside quotes, inside a word or between two. -/
  | outside (word : Option Str)
  /-- After a backslash outside quotes. -/
  | escaped (word : Option Str)
  | single (word : Str)
  | double (word : Str)
  /-- After a backslash in double quotes. -/
  | doubleEscaped (word : Str)

def isBlank (c : CodeUnit) : Bool := c = cu ' ' || c = cu '\t'

/-- Outside quotes these do not stand for themselves wherever they are in a word. -/
def isActive (c : CodeUnit) : Bool :=
  c ∈ [cu '$', cu '`', cu '|', cu '&', cu ';', cu '<', cu '>', cu '(', cu ')', cu '*', cu '?',
    cu '[', newline]

/-- Nor these at the start of one. -/
def isActiveFirst (c : CodeUnit) : Bool := c = cu '#' || c = cu '~'

/-- What makes an expansion of the `$` before it: a name, a special parameter or a bracket.
Another `$` stands for itself. -/
def opensExpansion (c : CodeUnit) : Bool :=
  (0x30 ≤ c.val && c.val ≤ 0x39) || (0x41 ≤ c.val && c.val ≤ 0x5a) ||
    (0x61 ≤ c.val && c.val ≤ 0x7a) ||
    c ∈ [cu '_', cu '@', cu '*', cu '#', cu '?', cu '-', cu '$', cu '!', cu '{', cu '(']

/-- Whether a unit starts an expansion in double quotes, where `next` comes after it. -/
def isExpansion (c : CodeUnit) (next : Option CodeUnit) : Bool :=
  c = cu '`' || (c = cu '$' && next.any opensExpansion)

/-- One unit of a command, before `next`: the words that it ends, and where it leaves the
reader. -/
def step (mode : Mode) (c : CodeUnit) (next : Option CodeUnit) : Option (List Str × Mode) :=
  match mode with
  | .outside word =>
    if isBlank c then some (word.toList, .outside none)
    else if isActive c || (word = none && isActiveFirst c) then none
    else if c = cu '\\' then some ([], .escaped word)
    else if c = cu '\'' then some ([], .single (word.getD []))
    else if c = cu '"' then some ([], .double (word.getD []))
    else some ([], .outside (some (word.getD [] ++ [c])))
  | .escaped word =>
    -- A line continuation neither begins a word nor ends one.
    if c = newline then some ([], .outside word)
    else some ([], .outside (some (word.getD [] ++ [c])))
  | .single word =>
    if c = cu '\'' then some ([], .outside (some word)) else some ([], .single (word ++ [c]))
  | .double word =>
    if c = cu '"' then some ([], .outside (some word))
    else if isExpansion c next then none
    else if c = cu '\\' then some ([], .doubleEscaped word)
    else some ([], .double (word ++ [c]))
  | .doubleEscaped word =>
    if c = newline then some ([], .double word)
    else if c ∈ [cu '$', cu '`', cu '"', cu '\\'] then some ([], .double (word ++ [c]))
    else some ([], .double (word ++ [cu '\\', c]))

def wordsFrom : Mode → Str → Option (List Str)
  | .outside word, [] => some word.toList
  | _, [] => none
  | mode, c :: rest =>
    match step mode c rest.head? with
    | none => none
    | some (ended, next) => (wordsFrom next rest).map (ended ++ ·)

/-- The words of a command line, if it only has words that stand for themselves. -/
def words (command : Str) : Option (List Str) := wordsFrom (.outside none) command

/-- A text that has an expansion in double quotes. -/
def expands : Str → Bool
  | [] => false
  | c :: rest => isExpansion c rest.head? || expands rest

/-- A text as it stands between double quotes, its backslashes and quotes escaped. -/
def escapeUnit (c : CodeUnit) : Str :=
  if c = cu '\\' then [cu '\\', cu '\\'] else if c = cu '"' then [cu '\\', cu '"'] else [c]

def escape (text : Str) : Str := text.flatMap escapeUnit

/-- A unit that stands for itself outside quotes, at any place of a word. -/
def isOrdinary (c : CodeUnit) : Bool :=
  !isBlank c && !isActive c && !isActiveFirst c && c ≠ cu '\\' && c ≠ cu '\'' && c ≠ cu '"'

/-! ## Reading on -/

lemma wordsFrom_keep {mode next : Mode} {c : CodeUnit} {rest : Str}
    (h : step mode c rest.head? = some ([], next)) :
    wordsFrom mode (c :: rest) = wordsFrom next rest := by
  simp [wordsFrom, h]

lemma wordsFrom_stop {mode : Mode} {c : CodeUnit} {rest : Str}
    (h : step mode c rest.head? = none) : wordsFrom mode (c :: rest) = none := by
  simp [wordsFrom, h]

lemma wordsFrom_blank (word : Option Str) (rest : Str) :
    wordsFrom (.outside word) (cu ' ' :: rest) =
      (wordsFrom (.outside none) rest).map (word.toList ++ ·) := by
  have hstep : step (.outside word) (cu ' ') rest.head? = some (word.toList, .outside none) := by
    unfold step
    exact if_pos (by decide)
  simp [wordsFrom, hstep]

lemma wordsFrom_open (rest : Str) :
    wordsFrom (.outside none) (cu '"' :: rest) = wordsFrom (.double []) rest := by
  apply wordsFrom_keep
  unfold step
  rfl

lemma wordsFrom_close (word rest : Str) :
    wordsFrom (.double word) (cu '"' :: rest) = wordsFrom (.outside (some word)) rest := by
  apply wordsFrom_keep
  unfold step
  exact if_pos rfl

lemma wordsFrom_ordinary {c : CodeUnit} (h : isOrdinary c = true) (word : Option Str)
    (rest : Str) : wordsFrom (.outside word) (c :: rest) =
      wordsFrom (.outside (some (word.getD [] ++ [c]))) rest := by
  unfold isOrdinary at h
  simp only [Bool.and_eq_true, Bool.not_eq_true', decide_eq_true_eq] at h
  obtain ⟨⟨⟨⟨⟨hblank, hactive⟩, hfirst⟩, hslash⟩, hsingle⟩, hdouble⟩ := h
  apply wordsFrom_keep
  unfold step
  simp [hblank, hactive, hfirst, hslash, hsingle, hdouble]

/-- An unquoted text of ordinary units is read as it stands. -/
lemma wordsFrom_ordinaries {text : Str} (h : ∀ c ∈ text, isOrdinary c = true) (word rest : Str) :
    wordsFrom (.outside (some word)) (text ++ rest) =
      wordsFrom (.outside (some (word ++ text))) rest := by
  induction text generalizing word with
  | nil => simp
  | cons c text ih =>
    obtain ⟨hc, htext⟩ := List.forall_mem_cons.mp h
    rw [List.cons_append, wordsFrom_ordinary hc, ih htext]
    simp

/-! ## Double quotes -/

lemma step_double (word : Str) (c : CodeUnit) (next : Option CodeUnit) :
    step (.double word) c next =
      if c = cu '"' then some ([], .outside (some word))
      else if isExpansion c next then none
      else if c = cu '\\' then some ([], .doubleEscaped word)
      else some ([], .double (word ++ [c])) := rfl

lemma isExpansion_eq_false {c : CodeUnit} (hquote : c ≠ cu '`') (hdollar : c ≠ cu '$')
    (next : Option CodeUnit) : isExpansion c next = false := by
  simp [isExpansion, hquote, hdollar]

/-- The escaped unit is read back, whatever follows. -/
lemma wordsFrom_escaped {c : CodeUnit} (h : c = cu '\\' ∨ c = cu '"') (word rest : Str) :
    wordsFrom (.double word) (cu '\\' :: c :: rest) = wordsFrom (.double (word ++ [c])) rest := by
  have hslash : step (.double word) (cu '\\') (c :: rest).head? =
      some ([], .doubleEscaped word) := by
    rw [step_double, if_neg (by decide), isExpansion_eq_false (by decide) (by decide),
      if_neg (by decide), if_pos rfl]
  have hunit : step (.doubleEscaped word) c rest.head? = some ([], .double (word ++ [c])) := by
    unfold step
    rcases h with rfl | rfl <;> rfl
  rw [wordsFrom_keep hslash, wordsFrom_keep hunit]

/-- Escaping leaves open what a `$` before the text does. -/
lemma any_head_escape (text rest : Str) :
    (escape text ++ cu '"' :: rest).head?.any opensExpansion = text.head?.any opensExpansion := by
  cases text with
  | nil => rfl
  | cons c text =>
    show (escapeUnit c ++ escape text ++ cu '"' :: rest).head?.any opensExpansion = _
    unfold escapeUnit
    split_ifs with hslash hquote
    · rw [hslash]; rfl
    · rw [hquote]; rfl
    · rfl

lemma isExpansion_congr (c : CodeUnit) {next next' : Option CodeUnit}
    (h : next.any opensExpansion = next'.any opensExpansion) :
    isExpansion c next = isExpansion c next' := by
  unfold isExpansion
  rw [h]

/-- An escaped text in double quotes is read back, unless the text expands. -/
theorem wordsFrom_escape (text word rest : Str) :
    wordsFrom (.double word) (escape text ++ cu '"' :: rest) =
      if expands text then none else wordsFrom (.outside (some (word ++ text))) rest := by
  induction text generalizing word with
  | nil =>
    show wordsFrom (.double word) (cu '"' :: rest) = _
    rw [wordsFrom_close]
    simp [expands]
  | cons c text ih =>
    show wordsFrom (.double word) (escapeUnit c ++ escape text ++ cu '"' :: rest) = _
    rw [List.append_assoc]
    by_cases hescaped : c = cu '\\' ∨ c = cu '"'
    · -- The backslash takes the unit's meaning away, and neither unit starts an expansion.
      have hunit : escapeUnit c = [cu '\\', c] := by
        rcases hescaped with rfl | rfl <;> rfl
      have hplain : isExpansion c text.head? = false := by
        rcases hescaped with rfl | rfl <;>
          exact isExpansion_eq_false (by decide) (by decide) text.head?
      rw [hunit]
      show wordsFrom (.double word) (cu '\\' :: c :: (escape text ++ cu '"' :: rest)) = _
      rw [wordsFrom_escaped hescaped, ih]
      simp [expands, hplain]
    · obtain ⟨hslash, hquote⟩ := not_or.mp hescaped
      have hunit : escapeUnit c = [c] := by
        unfold escapeUnit
        rw [if_neg hslash, if_neg hquote]
      have hnext := isExpansion_congr c (any_head_escape text rest)
      rw [hunit]
      show wordsFrom (.double word) (c :: (escape text ++ cu '"' :: rest)) = _
      cases hexpands : isExpansion c text.head? with
      | true =>
        have hstep : step (.double word) c (escape text ++ cu '"' :: rest).head? = none := by
          rw [step_double, if_neg hquote, if_pos (hnext.trans hexpands)]
        rw [wordsFrom_stop hstep]
        simp [expands, hexpands]
      | false =>
        have hstep : step (.double word) c (escape text ++ cu '"' :: rest).head? =
            some ([], .double (word ++ [c])) := by
          rw [step_double, if_neg hquote, hnext, hexpands, if_neg Bool.false_ne_true,
            if_neg hslash]
        rw [wordsFrom_keep hstep, ih]
        simp [expands, hexpands]

end Shell
