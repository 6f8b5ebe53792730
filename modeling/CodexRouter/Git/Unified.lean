import Mathlib.Data.List.TakeWhile

/-!
# Unified diffs

The standard reading of a unified diff of one file, on bytes: hunks with their ranges, lines of
context, removals and additions, and the marker for a line that no line feed ends. A diff applies
to a content when every line it keeps or removes is there, at the place its range names.
-/

namespace Unified

/-- The byte of a line feed. -/
def lineFeed : ℕ := 10

/-- The bytes of ASCII text. -/
def ascii (s : String) : List ℕ := s.toList.map Char.toNat

/-! ## Lines -/

/-- A line of a content, with what tells whether a line feed ends it. -/
structure Line where
  text : List ℕ
  ended : Bool
  deriving DecidableEq

def Line.bytes (line : Line) : List ℕ := if line.ended then line.text ++ [lineFeed] else line.text

def linesOf : List ℕ → List Line
  | [] => []
  | b :: rest =>
    if b = lineFeed then ⟨[], true⟩ :: linesOf rest
    else
      match linesOf rest with
      | [] => [⟨[b], false⟩]
      | line :: lines => ⟨b :: line.text, line.ended⟩ :: lines

def bytesOf (lines : List Line) : List ℕ := lines.flatMap Line.bytes

/-! ## Reading a diff -/

structure Range where
  start : ℕ
  count : ℕ
  deriving DecidableEq

inductive Edit where
  | keep (line : Line)
  | remove (line : Line)
  | add (line : Line)
  deriving DecidableEq

structure Hunk where
  old : Range
  new : Range
  edits : List Edit
  deriving DecidableEq

structure Patch where
  /-- The diff makes a new file. -/
  creates : Bool
  hunks : List Hunk
  deriving DecidableEq

def isMarker (line : List ℕ) : Bool := (ascii "\\ ").isPrefixOf line

/-- A marker tells of the line before it. -/
def marked : List (List ℕ) → List Line
  | [] => []
  | [line] => [⟨line, true⟩]
  | line :: next :: rest =>
    if isMarker next then ⟨line, false⟩ :: marked rest else ⟨line, true⟩ :: marked (next :: rest)

def isDigit (b : ℕ) : Bool := 0x30 ≤ b && b ≤ 0x39

def valueOf (digits : List ℕ) : ℕ := digits.foldl (fun v b => 10 * v + (b - 0x30)) 0

def readNumber (text : List ℕ) : Option (ℕ × List ℕ) :=
  let digits := text.takeWhile isDigit
  if digits = [] then none else some (valueOf digits, text.dropWhile isDigit)

/-- `start,count`, or `start` for one line. -/
def readRange (text : List ℕ) : Option (Range × List ℕ) :=
  match readNumber text with
  | none => none
  | some (start, rest) =>
    if rest.head? = some 0x2c then
      (readNumber rest.tail).map fun (count, rest) => (⟨start, count⟩, rest)
    else some (⟨start, 1⟩, rest)

def strip (start text : List ℕ) : Option (List ℕ) :=
  if start.isPrefixOf text then some (text.drop start.length) else none

/-- `@@ -old +new @@`, with any heading after it. -/
def readHunkHeader (line : List ℕ) : Option (Range × Range) := do
  let rest ← strip (ascii "@@ -") line
  let (old, rest) ← readRange rest
  let rest ← strip (ascii " +") rest
  let (new, rest) ← readRange rest
  let _ ← strip (ascii " @@") rest
  return (old, new)

/-- The edits of a hunk, until its ranges are used up. -/
def readEdits : ℕ → ℕ → List Line → Option (List Edit × List Line)
  | 0, 0, lines => some ([], lines)
  | _, _, [] => none
  | old, new, line :: rest =>
    match line.text with
    | [] => none
    | sign :: text =>
      if sign = 0x20 ∧ old ≠ 0 ∧ new ≠ 0 then
        (readEdits (old - 1) (new - 1) rest).map fun (edits, rest) =>
          (.keep ⟨text, line.ended⟩ :: edits, rest)
      else if sign = 0x2d ∧ old ≠ 0 then
        (readEdits (old - 1) new rest).map fun (edits, rest) =>
          (.remove ⟨text, line.ended⟩ :: edits, rest)
      else if sign = 0x2b ∧ new ≠ 0 then
        (readEdits old (new - 1) rest).map fun (edits, rest) =>
          (.add ⟨text, line.ended⟩ :: edits, rest)
      else none

/-- The hunks of a diff; each takes one line at least. -/
def readHunks : ℕ → List Line → Option (List Hunk)
  | _, [] => some []
  | 0, _ => none
  | fuel + 1, line :: lines => do
    let (old, new) ← readHunkHeader line.text
    let (edits, rest) ← readEdits old.count new.count lines
    let hunks ← readHunks fuel rest
    return ⟨old, new, edits⟩ :: hunks

def opensHunk (line : Line) : Bool := (ascii "@@ ").isPrefixOf line.text

def opensFile (line : Line) : Bool := (ascii "diff --git ").isPrefixOf line.text

def makesFile (line : Line) : Bool := (ascii "new file mode ").isPrefixOf line.text

/-- A diff of one file: the lines before the first hunk say whether it makes the file. -/
def readPatch (diff : List ℕ) : Option Patch :=
  let lines := marked ((linesOf diff).map (·.text))
  let header := lines.takeWhile (!opensHunk ·)
  if header.head?.any opensFile then
    (readHunks lines.length (lines.dropWhile (!opensHunk ·))).map fun hunks =>
      ⟨header.any makesFile, hunks⟩
  else none

/-! ## Applying a diff -/

/-- The lines that edits make of the lines before them, and what they leave. -/
def edited : List Edit → List Line → Option (List Line × List Line)
  | [], lines => some ([], lines)
  | .add line :: edits, lines => (edited edits lines).map fun (made, rest) => (line :: made, rest)
  | .keep _ :: _, [] => none
  | .keep line :: edits, found :: lines =>
    if line = found then (edited edits lines).map fun (made, rest) => (line :: made, rest)
    else none
  | .remove _ :: _, [] => none
  | .remove line :: edits, found :: lines => if line = found then edited edits lines else none

/-- The lines before a range. An empty range stands after the line that it names. -/
def Range.skipped (range : Range) : ℕ := if range.count = 0 then range.start else range.start - 1

/-- Hunks on what is left after `taken` lines, of which `made` lines were made. -/
def applyHunks : ℕ → ℕ → List Hunk → List Line → Option (List Line)
  | _, _, [], lines => some lines
  | taken, made, hunk :: hunks, lines =>
    let kept := hunk.old.skipped - taken
    if hunk.old.skipped < taken ∨ lines.length < kept ∨ hunk.new.skipped ≠ made + kept then none
    else
      match edited hunk.edits (lines.drop kept) with
      | none => none
      | some (lines', rest) =>
        (applyHunks (taken + kept + hunk.old.count) (made + kept + hunk.new.count) hunks rest).map
          fun after => lines.take kept ++ lines' ++ after

/-- What a patch makes of a content; `none` stands for an absent file before it. Only the last line
of the result may miss its line feed. -/
def Patch.apply (patch : Patch) (before : Option (List ℕ)) : Option (List ℕ) :=
  if patch.creates = before.isNone then
    match applyHunks 0 0 patch.hunks (linesOf (before.getD [])) with
    | none => none
    | some lines => if linesOf (bytesOf lines) = lines then some (bytesOf lines) else none
  else none

def Edit.isAdd : Edit → Bool
  | .add _ => true
  | _ => false

def Edit.isRemove : Edit → Bool
  | .remove _ => true
  | _ => false

/-- The body lines that start with `+`. -/
def Patch.added (patch : Patch) : ℕ := (patch.hunks.flatMap (·.edits)).countP Edit.isAdd

/-- The body lines that start with `-`. -/
def Patch.removed (patch : Patch) : ℕ := (patch.hunks.flatMap (·.edits)).countP Edit.isRemove

/-! ## Lines of a content -/

lemma linesOf_append {text : List ℕ} (h : lineFeed ∉ text) (rest : List ℕ) :
    linesOf (text ++ lineFeed :: rest) = ⟨text, true⟩ :: linesOf rest := by
  induction text with
  | nil => exact if_pos rfl
  | cons b text ih =>
    obtain ⟨hb, htext⟩ := not_or.mp (List.mem_cons.not.mp h)
    rw [List.cons_append, linesOf, if_neg (Ne.symm hb), ih htext]

lemma linesOf_last {text : List ℕ} (h : lineFeed ∉ text) (hne : text ≠ []) :
    linesOf text = [⟨text, false⟩] := by
  induction text with
  | nil => exact absurd rfl hne
  | cons b text ih =>
    obtain ⟨hb, htext⟩ := not_or.mp (List.mem_cons.not.mp h)
    rw [linesOf, if_neg (Ne.symm hb)]
    cases text with
    | nil => rfl
    | cons c text => rw [ih htext (List.cons_ne_nil _ _)]

lemma bytesOf_linesOf (content : List ℕ) : bytesOf (linesOf content) = content := by
  induction content with
  | nil => rfl
  | cons b rest ih =>
    rw [linesOf]
    split_ifs with hb
    · rw [hb]
      exact congrArg (lineFeed :: ·) ih
    · cases hlines : linesOf rest with
      | nil =>
        rw [hlines] at ih
        rw [← ih]
        rfl
      | cons line lines =>
        rw [hlines] at ih
        rw [← ih]
        unfold bytesOf Line.bytes
        simp only [List.flatMap_cons]
        split_ifs <;> rfl

lemma linesOf_eq_nil {content : List ℕ} : linesOf content = [] ↔ content = [] := by
  constructor
  · intro h
    rw [← bytesOf_linesOf content, h]
    rfl
  · intro h
    rw [h]
    rfl

/-- A text before the first line feed becomes part of the first line. -/
lemma linesOf_prepend {text : List ℕ} (h : lineFeed ∉ text) {content : List ℕ} {line : Line}
    {lines : List Line} (hcontent : linesOf content = line :: lines) :
    linesOf (text ++ content) = ⟨text ++ line.text, line.ended⟩ :: lines := by
  induction text with
  | nil => exact hcontent
  | cons b text ih =>
    obtain ⟨hb, htext⟩ := not_or.mp (List.mem_cons.not.mp h)
    rw [List.cons_append, linesOf, if_neg (Ne.symm hb), ih htext]
    rfl

/-- Only the last line of a content may miss its line feed. -/
lemma ended_of_linesOf (content : List ℕ) :
    ∀ line ∈ (linesOf content).dropLast, line.ended = true := by
  induction content with
  | nil => exact fun line hline => absurd hline List.not_mem_nil
  | cons b rest ih =>
    rw [linesOf]
    split_ifs with hb
    · intro line hline
      by_cases hnil : linesOf rest = []
      · rw [hnil] at hline
        exact absurd hline List.not_mem_nil
      · rw [List.dropLast_cons_of_ne_nil hnil] at hline
        rcases List.mem_cons.mp hline with rfl | hline
        · rfl
        · exact ih line hline
    · cases hlines : linesOf rest with
      | nil => exact fun line hline => absurd hline List.not_mem_nil
      | cons first lines =>
        intro line hline
        by_cases hnil : lines = []
        · rw [hnil] at hline
          exact absurd hline List.not_mem_nil
        · rw [hlines, List.dropLast_cons_of_ne_nil hnil] at ih
          rw [List.dropLast_cons_of_ne_nil hnil] at hline
          rcases List.mem_cons.mp hline with rfl | hline
          · exact ih first List.mem_cons_self
          · exact ih line (List.mem_cons_of_mem _ hline)

/-- Lines before another end with a line feed. -/
lemma getLast?_bytesOf {content : List ℕ} {lines rest : List Line} {line : Line}
    (h : linesOf content = lines ++ line :: rest) (hne : lines ≠ []) :
    (bytesOf lines).getLast? = some lineFeed := by
  have hended : (lines.getLast hne).ended = true := by
    apply ended_of_linesOf content
    rw [h, List.dropLast_append_of_ne_nil (List.cons_ne_nil _ _)]
    exact List.mem_append_left _ (List.getLast_mem hne)
  have hlast : (lines.getLast hne).bytes = (lines.getLast hne).text ++ [lineFeed] := if_pos hended
  rw [← List.dropLast_concat_getLast hne]
  unfold bytesOf
  rw [List.flatMap_append, List.flatMap_singleton, hlast, ← List.append_assoc,
    List.getLast?_concat]

/-! ## Replacing a content whole -/

/-- The range of all the lines. -/
def wholeRange (lines : List Line) : Range := if lines = [] then ⟨0, 0⟩ else ⟨1, lines.length⟩

/-- The hunk that removes all the lines of one content and adds all those of another. -/
def replacement (old new : List Line) : Hunk where
  old := wholeRange old
  new := wholeRange new
  edits := old.map .remove ++ new.map .add

/-- A line as it stands in the body of a hunk. -/
def Line.signed (sign : ℕ) (line : Line) : Line := ⟨sign :: line.text, line.ended⟩

def noNewline : List ℕ := ascii "\\ No newline at end of file"

/-- The diff lines of a body line. -/
def Line.body (sign : ℕ) (line : Line) : List (List ℕ) :=
  (sign :: line.text) :: if line.ended then [] else [noNewline]

@[simp] lemma wholeRange_count (lines : List Line) : (wholeRange lines).count = lines.length := by
  unfold wholeRange
  split_ifs with h
  · rw [h]
    rfl
  · rfl

@[simp] lemma wholeRange_skipped (lines : List Line) : (wholeRange lines).skipped = 0 := by
  unfold wholeRange Range.skipped
  by_cases h : lines = []
  · rw [if_pos h]
    rfl
  · rw [if_neg h, if_neg (List.length_eq_zero_iff.not.mpr h)]
    rfl

lemma marked_cons (line : List ℕ) {rest : List (List ℕ)} (h : rest.head?.any isMarker = false) :
    marked (line :: rest) = ⟨line, true⟩ :: marked rest := by
  cases rest with
  | nil => rfl
  | cons next rest =>
    have hnext : isMarker next = false := h
    rw [marked, if_neg (by simp [hnext])]

lemma marked_marker (line : List ℕ) {next : List ℕ} (h : isMarker next = true)
    (rest : List (List ℕ)) : marked (line :: next :: rest) = ⟨line, false⟩ :: marked rest := by
  rw [marked, if_pos h]

lemma isMarker_cons {sign : ℕ} (h : sign ≠ 0x5c) (text : List ℕ) :
    isMarker (sign :: text) = false := by
  have hslash : ascii "\\ " = [0x5c, 0x20] := by decide
  unfold isMarker
  rw [hslash, List.isPrefixOf_cons_cons]
  simp [Ne.symm h]

/-- The lines of a body are read with their markers. -/
lemma marked_body {sign : ℕ} (h : sign ≠ 0x5c) (lines : List Line) {rest : List (List ℕ)}
    (hrest : rest.head?.any isMarker = false) :
    marked (lines.flatMap (Line.body sign) ++ rest) =
      lines.map (Line.signed sign) ++ marked rest := by
  induction lines with
  | nil => rfl
  | cons line lines ih =>
    have hhead : (lines.flatMap (Line.body sign) ++ rest).head?.any isMarker = false := by
      cases lines with
      | nil => exact hrest
      | cons next lines => exact isMarker_cons h next.text
    rw [List.flatMap_cons, List.append_assoc]
    unfold Line.body
    cases hended : line.ended with
    | true =>
      show marked ((sign :: line.text) :: (lines.flatMap (Line.body sign) ++ rest)) = _
      rw [marked_cons _ hhead, ih]
      simp [Line.signed, hended]
    | false =>
      show marked ((sign :: line.text) :: noNewline :: (lines.flatMap (Line.body sign) ++ rest)) = _
      rw [marked_marker _ (by decide), ih]
      simp [Line.signed, hended]

/-! ### Reading the hunk -/

lemma readEdits_adds (new rest : List Line) :
    readEdits 0 new.length (new.map (Line.signed 0x2b) ++ rest) = some (new.map .add, rest) := by
  induction new with
  | nil =>
    rw [List.map_nil, List.nil_append, List.length_nil, readEdits]
    rfl
  | cons line new ih =>
    rw [List.map_cons, List.cons_append, List.length_cons, readEdits]
    · simp [Line.signed, ih]
    · simp

lemma readEdits_replacement (old new rest : List Line) :
    readEdits old.length new.length
        (old.map (Line.signed 0x2d) ++ new.map (Line.signed 0x2b) ++ rest) =
      some (old.map .remove ++ new.map .add, rest) := by
  induction old with
  | nil => exact readEdits_adds new rest
  | cons line old ih =>
    rw [List.map_cons, List.cons_append, List.cons_append, List.length_cons, readEdits]
    · rw [List.append_assoc] at ih
      simp [Line.signed, ih]
    · simp

/-! ### Applying the hunk -/

lemma edited_adds (new lines : List Line) : edited (new.map .add) lines = some (new, lines) := by
  induction new with
  | nil => rfl
  | cons line new ih => simp [edited, ih]

/-- The removed lines are the first ones, and what is after them stays. -/
lemma edited_replacement {old new lines : List Line} {result : List Line × List Line} :
    edited (old.map .remove ++ new.map .add) lines = some result ↔
      ∃ rest, lines = old ++ rest ∧ result = (new, rest) := by
  induction old generalizing lines with
  | nil =>
    rw [List.map_nil, List.nil_append, edited_adds]
    constructor
    · intro h
      exact ⟨lines, rfl, (Option.some.inj h).symm⟩
    · intro ⟨rest, hlines, hresult⟩
      rw [hlines, hresult]
      rfl
  | cons line old ih =>
    cases lines with
    | nil => simp [edited]
    | cons found lines =>
      rw [List.map_cons, List.cons_append, edited]
      split_ifs with hfound
      · rw [ih, hfound]
        simp
      · constructor
        · intro h
          exact nomatch h
        · intro ⟨rest, hlines, _⟩
          exact absurd (List.cons.inj hlines).1.symm hfound

/-- What the whole replacement makes. -/
theorem apply_replacement {creates : Bool} {old new : List Line} {before : Option (List ℕ)}
    {after : List ℕ} :
    (Patch.mk creates [replacement old new]).apply before = some after ↔
      creates = before.isNone ∧ ∃ rest, linesOf (before.getD []) = old ++ rest ∧
        linesOf (bytesOf (new ++ rest)) = new ++ rest ∧ after = bytesOf (new ++ rest) := by
  unfold Patch.apply
  by_cases hcreates : creates = before.isNone
  · have hhunks : ∀ lines, applyHunks 0 0 [replacement old new] lines =
        (edited (old.map .remove ++ new.map .add) lines).map fun result =>
          result.1 ++ result.2 := by
      intro lines
      unfold replacement
      rw [applyHunks]
      simp only [wholeRange_skipped, Nat.sub_zero, Nat.not_lt_zero, ne_eq, false_or,
        Nat.add_zero, not_true_eq_false, if_false, List.drop_zero]
      cases edited (old.map .remove ++ new.map .add) lines with
      | none => rfl
      | some result => simp [applyHunks]
    rw [if_pos hcreates, hhunks]
    cases hedited : edited (old.map .remove ++ new.map .add) (linesOf (before.getD [])) with
    | none =>
      constructor
      · intro h
        exact nomatch h
      · intro ⟨_, rest, hlines, _⟩
        rw [edited_replacement.mpr ⟨rest, hlines, rfl⟩] at hedited
        exact nomatch hedited
    | some result =>
      obtain ⟨rest, hlines, rfl⟩ := edited_replacement.mp hedited
      simp only [Option.map_some, Option.ite_none_right_eq_some, Option.some.injEq]
      constructor
      · intro ⟨hfile, hafter⟩
        exact ⟨hcreates, rest, hlines, hfile, hafter.symm⟩
      · intro ⟨_, rest', hlines', hfile, hafter⟩
        obtain rfl : rest = rest' := List.append_cancel_left (hlines.symm.trans hlines')
        exact ⟨hfile, hafter.symm⟩
  · rw [if_neg hcreates]
    simp [hcreates]

lemma countP_replacement (old new : List Line) :
    (old.map Edit.remove ++ new.map Edit.add).countP Edit.isAdd = new.length ∧
      (old.map Edit.remove ++ new.map Edit.add).countP Edit.isRemove = old.length := by
  have hremove : Edit.isAdd ∘ Edit.remove = fun _ => false := rfl
  have hadd : Edit.isAdd ∘ Edit.add = fun _ => true := rfl
  have hremove' : Edit.isRemove ∘ Edit.remove = fun _ => true := rfl
  have hadd' : Edit.isRemove ∘ Edit.add = fun _ => false := rfl
  simp [List.countP_append, List.countP_map, hremove, hadd, hremove', hadd']

/-! ### Reading the header -/

/-- The digits of a number. -/
def IsNumber (digits : List ℕ) : Prop := digits ≠ [] ∧ ∀ b ∈ digits, isDigit b = true

lemma readNumber_append {digits rest : List ℕ} (h : IsNumber digits)
    (hrest : rest.head?.any isDigit = false) :
    readNumber (digits ++ rest) = some (valueOf digits, rest) := by
  have htake : rest.takeWhile isDigit = [] ∧ rest.dropWhile isDigit = rest := by
    cases rest with
    | nil => exact ⟨rfl, rfl⟩
    | cons b rest =>
      have hb : isDigit b = false := hrest
      simp [hb]
  have hdigits : (digits ++ rest).takeWhile isDigit = digits := by
    rw [List.takeWhile_append_of_pos h.2, htake.1, List.append_nil]
  unfold readNumber
  rw [hdigits, List.dropWhile_append_of_pos h.2, htake.2]
  exact if_neg h.1

lemma readRange_one {digits rest : List ℕ} (h : IsNumber digits)
    (hrest : rest.head?.any isDigit = false) (hcomma : rest.head? ≠ some 0x2c) :
    readRange (digits ++ rest) = some (⟨valueOf digits, 1⟩, rest) := by
  unfold readRange
  rw [readNumber_append h hrest]
  exact if_neg hcomma

lemma readRange_two {start count rest : List ℕ} (hstart : IsNumber start) (hcount : IsNumber count)
    (hrest : rest.head?.any isDigit = false) :
    readRange (start ++ 0x2c :: (count ++ rest)) =
      some (⟨valueOf start, valueOf count⟩, rest) := by
  unfold readRange
  rw [readNumber_append hstart rfl]
  show (readNumber (count ++ rest)).map _ = _
  rw [readNumber_append hcount hrest]
  rfl

lemma strip_append (start rest : List ℕ) : strip start (start ++ rest) = some rest := by
  unfold strip
  rw [if_pos (List.isPrefixOf_iff_prefix.mpr (List.prefix_append start rest)), List.drop_left]

lemma readHunkHeader_append {old new : List ℕ} {oldRange newRange : Range}
    (hold : readRange (old ++ (ascii " +" ++ (new ++ ascii " @@"))) =
      some (oldRange, ascii " +" ++ (new ++ ascii " @@")))
    (hnew : readRange (new ++ ascii " @@") = some (newRange, ascii " @@")) :
    readHunkHeader (ascii "@@ -" ++ (old ++ (ascii " +" ++ (new ++ ascii " @@")))) =
      some (oldRange, newRange) := by
  have hend : strip (ascii " @@") (ascii " @@") = some [] := by decide
  unfold readHunkHeader
  simp [strip_append, hold, hnew, hend]

lemma marked_plain {header : List (List ℕ)} (h : ∀ line ∈ header, isMarker line = false)
    {rest : List (List ℕ)} (hrest : rest.head?.any isMarker = false) :
    marked (header ++ rest) = header.map (⟨·, true⟩) ++ marked rest := by
  induction header with
  | nil => rfl
  | cons line header ih =>
    obtain ⟨-, hheader⟩ := List.forall_mem_cons.mp h
    have hhead : (header ++ rest).head?.any isMarker = false := by
      cases header with
      | nil => exact hrest
      | cons next header => exact hheader next List.mem_cons_self
    rw [List.cons_append, marked_cons _ hhead, ih hheader]
    rfl

/-- A hunk header opens a hunk, and is no marker. -/
lemma opens_of_readHunkHeader {line : List ℕ} {ranges : Range × Range}
    (h : readHunkHeader line = some ranges) :
    (ascii "@@ ").isPrefixOf line = true ∧ isMarker line = false := by
  have hstart : (ascii "@@ -").isPrefixOf line = true := by
    by_contra hno
    unfold readHunkHeader strip at h
    simp [hno] at h
  obtain ⟨rest, rfl⟩ := List.isPrefixOf_iff_prefix.mp hstart
  constructor
  · rfl
  · exact isMarker_cons (by decide) _

lemma readHunks_nil (fuel : ℕ) : readHunks fuel [] = some [] := by
  cases fuel <;> rfl

/-- A diff without a hunk. -/
theorem readPatch_header {diff : List ℕ} {header : List (List ℕ)}
    (hdiff : (linesOf diff).map (·.text) = header)
    (hfile : header.head?.any (ascii "diff --git ").isPrefixOf = true)
    (hheader : ∀ line ∈ header, isMarker line = false ∧ (ascii "@@ ").isPrefixOf line = false) :
    readPatch diff = some ⟨header.any (ascii "new file mode ").isPrefixOf, []⟩ := by
  have hlines : marked header = header.map (⟨·, true⟩) := by
    have hmarked := marked_plain (fun line hline => (hheader line hline).1)
      (show ([] : List (List ℕ)).head?.any isMarker = false from rfl)
    rwa [List.append_nil, marked, List.append_nil] at hmarked
  have hpass : ∀ line ∈ header.map (fun line => Line.mk line true), (!opensHunk line) = true := by
    intro line hline
    obtain ⟨text, htext, rfl⟩ := List.mem_map.mp hline
    simp [opensHunk, (hheader text htext).2]
  have htake : (header.map fun line => Line.mk line true).takeWhile (!opensHunk ·) =
      header.map (⟨·, true⟩) := List.takeWhile_eq_self_iff.mpr hpass
  have hdrop : (header.map fun line => Line.mk line true).dropWhile (!opensHunk ·) = [] :=
    List.dropWhile_eq_nil_iff.mpr hpass
  unfold readPatch
  simp only [hdiff, hlines, htake, hdrop, readHunks_nil]
  rw [if_pos]
  · simp [makesFile, List.any_map, Function.comp_def]
  · rw [List.head?_map, Option.any_map]
    exact hfile

/-- A diff whose one hunk is a whole replacement. -/
theorem readPatch_replacement {diff : List ℕ} {header : List (List ℕ)} {range : List ℕ}
    {old new : List Line}
    (hdiff : (linesOf diff).map (·.text) =
      header ++ range :: (old.flatMap (Line.body 0x2d) ++ new.flatMap (Line.body 0x2b)))
    (hfile : header.head?.any (ascii "diff --git ").isPrefixOf = true)
    (hheader : ∀ line ∈ header, isMarker line = false ∧ (ascii "@@ ").isPrefixOf line = false)
    (hrange : readHunkHeader range = some (wholeRange old, wholeRange new)) :
    readPatch diff =
      some ⟨header.any (ascii "new file mode ").isPrefixOf, [replacement old new]⟩ := by
  obtain ⟨hopens, hplain⟩ := opens_of_readHunkHeader hrange
  have hnew : (new.flatMap (Line.body 0x2b)).head?.any isMarker = false := by
    cases new with
    | nil => rfl
    | cons line new => exact isMarker_cons (by decide) line.text
  have hold : (old.flatMap (Line.body 0x2d) ++ new.flatMap (Line.body 0x2b)).head?.any isMarker =
      false := by
    cases old with
    | nil => exact hnew
    | cons line old => exact isMarker_cons (by decide) line.text
  have hbody : marked (new.flatMap (Line.body 0x2b)) = new.map (Line.signed 0x2b) := by
    have hmarked := marked_body (show 0x2b ≠ 0x5c by decide) new (show ([] : List (List ℕ)).head?.any
      isMarker = false from rfl)
    rwa [List.append_nil, marked, List.append_nil] at hmarked
  have hlines : marked ((linesOf diff).map (·.text)) = header.map (⟨·, true⟩) ++
      ⟨range, true⟩ :: (old.map (Line.signed 0x2d) ++ new.map (Line.signed 0x2b)) := by
    rw [hdiff, marked_plain (fun line hline => (hheader line hline).1) (by exact hplain),
      marked_cons _ hold, marked_body (by decide) _ hnew, hbody]
  have hpass : ∀ line ∈ header.map (fun line => Line.mk line true), (!opensHunk line) = true := by
    intro line hline
    obtain ⟨text, htext, rfl⟩ := List.mem_map.mp hline
    simp [opensHunk, (hheader text htext).2]
  have hstop : opensHunk ⟨range, true⟩ = true := hopens
  have htake : (header.map (fun line => Line.mk line true) ++ ⟨range, true⟩ ::
      (old.map (Line.signed 0x2d) ++ new.map (Line.signed 0x2b))).takeWhile (!opensHunk ·) =
      header.map (⟨·, true⟩) := by
    rw [List.takeWhile_append_of_pos hpass, List.takeWhile_cons]
    simp [hstop]
  have hdrop : (header.map (fun line => Line.mk line true) ++ ⟨range, true⟩ ::
      (old.map (Line.signed 0x2d) ++ new.map (Line.signed 0x2b))).dropWhile (!opensHunk ·) =
      ⟨range, true⟩ :: (old.map (Line.signed 0x2d) ++ new.map (Line.signed 0x2b)) := by
    rw [List.dropWhile_append_of_pos hpass, List.dropWhile_cons]
    simp [hstop]
  have hedits := readEdits_replacement old new []
  rw [List.append_nil] at hedits
  unfold readPatch
  simp only [hlines, htake, hdrop]
  rw [if_pos]
  · have hlength : (header.map (fun line => Line.mk line true) ++
        (⟨range, true⟩ :: (old.map (Line.signed 0x2d) ++ new.map (Line.signed 0x2b)))).length =
        (header.length + old.length + new.length) + 1 := by
      simp
      omega
    rw [hlength, readHunks.eq_def]
    simp only [hrange, Option.bind_eq_bind, Option.bind_some, wholeRange_count, hedits,
      readHunks_nil]
    simp [replacement, makesFile, List.any_map, Function.comp_def]
  · rw [List.head?_map, Option.any_map]
    exact hfile

end Unified
