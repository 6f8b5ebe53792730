import CodexRouter.Js.Text

/-!
# Lines

A text whose line breaks are unified splits into its lines; each but the last may have lost a
carriage return.
-/

namespace Js

def newLine : CodeUnit := cu '\n'

def carriageReturn : CodeUnit := cu '\r'

/-- `text.replace(/\r\n/g, "\n")`. -/
def unifyNewLines : Str → Str
  | [] => []
  | c :: s =>
    if c = carriageReturn ∧ s.head? = some newLine then unifyNewLines s else c :: unifyNewLines s

/-- `text.replace(/\r\n/g, "\n").split("\n")`. -/
def unifiedLines (text : Str) : List Str := split newLine (unifyNewLines text)

/-- A line before a line break, of which the break takes one carriage return. -/
def chomp (line : Str) : Str := if line.getLast? = some carriageReturn then line.dropLast else line

/-- The lines of joined lines. -/
def chompInit : List Str → List Str
  | [] => []
  | [line] => [line]
  | line :: lines => chomp line :: chompInit lines

lemma chompInit_cons (line : Str) {lines : List Str} (h : lines ≠ []) :
    chompInit (line :: lines) = chomp line :: chompInit lines := by
  cases lines with
  | nil => exact absurd rfl h
  | cons => rfl

lemma unifyNewLines_last {line : Str} (h : newLine ∉ line) : unifyNewLines line = line := by
  induction line with
  | nil => rfl
  | cons c s ih =>
    rw [List.mem_cons, not_or] at h
    have hhead : s.head? ≠ some newLine := by
      intro hs
      exact h.2 (List.mem_of_mem_head? hs)
    rw [unifyNewLines, if_neg fun hc => hhead hc.2, ih h.2]

lemma unifyNewLines_line {line : Str} (h : newLine ∉ line) (text : Str) :
    unifyNewLines (line ++ newLine :: text) = chomp line ++ newLine :: unifyNewLines text := by
  induction line with
  | nil =>
    show unifyNewLines (newLine :: text) = newLine :: unifyNewLines text
    rw [unifyNewLines, if_neg fun hc => absurd hc.1 (by decide)]
  | cons c s ih =>
    rw [List.mem_cons, not_or] at h
    have hrest := ih h.2
    rw [List.cons_append, unifyNewLines, hrest]
    cases s with
    | nil =>
      by_cases hc : c = carriageReturn
      · rw [if_pos ⟨hc, rfl⟩, hc]
        rfl
      · rw [if_neg fun hcr => hc hcr.1]
        have hchomp : chomp [c] = [c] := if_neg fun hl => hc (Option.some.inj hl)
        rw [hchomp]
        rfl
    | cons d s =>
      have hd : d ≠ newLine := by
        intro hd
        exact h.2 (hd ▸ List.mem_cons_self)
      rw [if_neg fun hcr => hd (Option.some.inj hcr.2)]
      unfold chomp
      rw [List.getLast?_cons_cons, List.dropLast_cons_cons]
      split_ifs <;> rfl

lemma newLine_not_mem_chomp {line : Str} (h : newLine ∉ line) : newLine ∉ chomp line := by
  unfold chomp
  split_ifs
  · exact fun hl => h (List.dropLast_subset line hl)
  · exact h

lemma newLine_not_mem_chompInit {lines : List Str} (h : ∀ line ∈ lines, newLine ∉ line) :
    ∀ line ∈ chompInit lines, newLine ∉ line := by
  induction lines with
  | nil => exact h
  | cons line lines ih =>
    rw [List.forall_mem_cons] at h
    by_cases hnil : lines = []
    · subst hnil
      simpa [chompInit] using h.1
    · rw [chompInit_cons line hnil, List.forall_mem_cons]
      exact ⟨newLine_not_mem_chomp h.1, ih h.2⟩

lemma unifyNewLines_join {lines : List Str} (h : ∀ line ∈ lines, newLine ∉ line) :
    unifyNewLines (join newLine lines) = join newLine (chompInit lines) := by
  induction lines with
  | nil => rfl
  | cons line lines ih =>
    rw [List.forall_mem_cons] at h
    by_cases hnil : lines = []
    · subst hnil
      simp only [chompInit, join_singleton]
      exact unifyNewLines_last h.1
    · have hne : chompInit lines ≠ [] := by
        obtain ⟨line', lines', rfl⟩ := List.exists_cons_of_ne_nil hnil
        cases lines' <;> simp [chompInit]
      rw [join_cons newLine line hnil, unifyNewLines_line h.1, ih h.2, chompInit_cons line hnil,
        join_cons newLine _ hne]

/-- Joined lines are read back, each but the last without one carriage return. -/
theorem unifiedLines_join {lines : List Str} (h : ∀ line ∈ lines, newLine ∉ line)
    (hne : lines ≠ []) : unifiedLines (join newLine lines) = chompInit lines := by
  have hchomp : chompInit lines ≠ [] := by
    obtain ⟨line, lines', rfl⟩ := List.exists_cons_of_ne_nil hne
    cases lines' <;> simp [chompInit]
  unfold unifiedLines split
  rw [unifyNewLines_join h]
  exact List.splitOn_intercalate newLine (newLine_not_mem_chompInit h) hchomp

/-! ## A line and what is read of it -/

def ReadAs (line read : Str) : Prop := read = line ∨ read = chomp line

lemma chompInit_readAs (lines : List Str) : List.Forall₂ ReadAs lines (chompInit lines) := by
  induction lines with
  | nil => exact .nil
  | cons line lines ih =>
    by_cases hnil : lines = []
    · subst hnil
      exact .cons (.inl rfl) .nil
    · rw [chompInit_cons line hnil]
      exact .cons (.inr rfl) ih

/-- What is read of two parts. -/
lemma readAs_append {lines lines' reads : List Str}
    (h : List.Forall₂ ReadAs (lines ++ lines') reads) :
    ∃ read read', List.Forall₂ ReadAs lines read ∧ List.Forall₂ ReadAs lines' read'
      ∧ reads = read ++ read' := by
  induction lines generalizing reads with
  | nil => exact ⟨[], reads, .nil, h, rfl⟩
  | cons line lines ih =>
    obtain ⟨first, rest, hfirst, hrest, rfl⟩ := List.forall₂_cons_left_iff.mp h
    obtain ⟨read, read', hread, hread', rfl⟩ := ih hrest
    exact ⟨first :: read, read', .cons hfirst hread, hread', rfl⟩

lemma ReadAs.eq {line read : Str} (h : ReadAs line read) (hcr : carriageReturn ∉ line) :
    read = line := by
  rcases h with rfl | rfl
  · rfl
  · exact if_neg fun hlast => hcr (List.mem_of_getLast? hlast)

lemma readAs_eq {lines reads : List Str} (h : List.Forall₂ ReadAs lines reads)
    (hcr : ∀ line ∈ lines, carriageReturn ∉ line) : reads = lines := by
  induction h with
  | nil => rfl
  | cons hline _ ih =>
    rw [List.forall_mem_cons] at hcr
    rw [hline.eq hcr.1, ih hcr.2]

/-- A carriage return is not part of a prefix without one. -/
lemma ReadAs.startsWith {line read : Str} (h : ReadAs line read) {p : Str}
    (hp : carriageReturn ∉ p) : startsWith read p = startsWith line p := by
  rw [Bool.eq_iff_iff, startsWith_iff, startsWith_iff]
  rcases h with rfl | rfl
  · exact Iff.rfl
  · unfold chomp
    split_ifs with hlast
    · constructor
      · intro hpre
        exact hpre.trans (List.dropLast_prefix line)
      · rintro ⟨s, rfl⟩
        cases s with
        | nil =>
          rw [List.append_nil] at hlast
          exact absurd (List.mem_of_getLast? hlast) hp
        | cons c s =>
          rw [List.dropLast_append_of_ne_nil (List.cons_ne_nil c s)]
          exact List.prefix_append p _
    · exact Iff.rfl

lemma newLine_not_mem_split {text line : Str} (h : line ∈ split newLine text) :
    newLine ∉ line := by
  unfold split at h
  induction text generalizing line with
  | nil =>
    rw [List.splitOn_nil, List.mem_singleton] at h
    simp [h]
  | cons c text ih =>
    rw [List.splitOn_cons_eq_if_modifyHead] at h
    split_ifs at h with hc
    · rcases List.mem_cons.mp h with rfl | h
      · exact List.not_mem_nil
      · exact ih h
    · obtain ⟨first, rest, hsplit⟩ := List.exists_cons_of_ne_nil (List.splitOn_ne_nil newLine text)
      rw [hsplit] at h ih
      rcases List.mem_cons.mp h with rfl | h
      · rw [List.mem_cons, not_or]
        exact ⟨fun he => hc (by simp [he]), ih List.mem_cons_self⟩
      · exact ih (List.mem_cons_of_mem first h)

end Js
