import CodexRouter.Capsule.Contracts
import CodexRouter.Git.Unified
import CodexRouter.Js.Ascii
import CodexRouter.Js.Decimal
import CodexRouter.Js.Utf8
import CodexRouter.Kernel.Governance

/-!
# The diff of a candidate

The verifier of a capsule writes a diff for each file that a candidate changed: all the lines before,
removed, and all the lines after, added.
-/

open Js CodexRouter.Kernel

namespace CodexRouter.Capsule

/-! ## The contents of changed files -/

/-- `BINARY_CONTROL_CHARACTERS`. -/
def isBinaryControl (c : CodeUnit) : Bool :=
  c.val ≤ 0x08 || c.val == 0x0b || c.val == 0x0c || (0x0e ≤ c.val && c.val ≤ 0x1f) || c.val == 0x7f

def decodeChangedText (bytes : List ℕ) : Result Str :=
  match decodeText bytes with
  | none => fail "offline_capsule_changed_binary_forbidden"
  | some text =>
    if text.any isBinaryControl then fail "offline_capsule_changed_binary_forbidden"
    else return text

structure TextLines where
  lines : List Str
  finalNewline : Bool

def splitTextLines (text : Str) : TextLines :=
  if text = [] then ⟨[], false⟩
  else
    let finalNewline := endsWith text [newLine]
    let lines := split newLine text
    ⟨if finalNewline then lines.dropLast else lines, finalNewline⟩

/-! ## The diff -/

def formatUnifiedRange (count : ℕ) : Str :=
  if count = 0 then js "0,0" else if count = 1 then js "1" else js "1," ++ Json.natText count

/-- The body lines of one side. -/
def bodyLines (sign : CodeUnit) (parts : TextLines) : List Str :=
  parts.lines.map (sign :: ·) ++
    if parts.lines.length > 0 && !parts.finalNewline then [js "\\ No newline at end of file"] else []

def diffHeader (path : Str) : Str := js "diff --git a/" ++ path ++ js " b/" ++ path

def createCanonicalUnifiedDiff (path : Str) (before : Option Str) (after : Str) : Str :=
  let beforeParts := (before.map splitTextLines).getD ⟨[], true⟩
  let afterParts := splitTextLines after
  let create := before.isNone
  if create && afterParts.lines.length = 0 then
    join newLine [diffHeader path, js "new file mode 100644", js "index e69de29..e69de29", js ""]
  else
    join newLine
      ([diffHeader path] ++ (if create then [js "new file mode 100644"] else [])
        ++ [if create then js "--- /dev/null" else js "--- a/" ++ path, js "+++ b/" ++ path,
          js "@@ -" ++ (if create then js "0,0" else formatUnifiedRange beforeParts.lines.length)
            ++ js " +" ++ formatUnifiedRange afterParts.lines.length ++ js " @@"]
        ++ (if create then [] else bodyLines (cu '-') beforeParts) ++ bodyLines (cu '+') afterParts)
      ++ [newLine]

def toGovernedChange (before : Option LoadedContentTreeFile) (after : LoadedContentTreeFile)
    (beforeText : Option Str) (afterText : Str) : GovernedFileChange where
  path := after.path
  kind := if before.isNone then .create else .update
  oldPath := none
  unifiedDiff := createCanonicalUnifiedDiff after.path beforeText afterText
  beforeHash := some (before.map (·.digest.hash))
  afterHash := some (some after.digest.hash)
  addedLines := (splitTextLines afterText).lines.length
  deletedLines := ((beforeText.map fun text => (splitTextLines text).lines).getD []).length

/-! ## Lines -/

/-- The lines of a text, as a diff of bytes sees them. -/
def fileLines (text : Str) : List Unified.Line := Unified.linesOf (Sha256.utf8 text)

lemma fileLines_append {line : Str} (h : newLine ∉ line) (text : Str) :
    fileLines (line ++ newLine :: text) = ⟨Sha256.utf8 line, true⟩ :: fileLines text := by
  unfold fileLines
  rw [utf8_append_newLine]
  exact Unified.linesOf_append (lineFeed_not_mem_utf8 h) _

lemma fileLines_last {line : Str} (h : newLine ∉ line) :
    fileLines line = if line = [] then [] else [⟨Sha256.utf8 line, false⟩] := by
  split_ifs with hnil
  · rw [hnil]
    rfl
  · exact Unified.linesOf_last (lineFeed_not_mem_utf8 h) (utf8_ne_nil hnil)

/-- All lines but the last are ended, and a last one that is empty is no line. -/
lemma fileLines_join {lines : List Str} {last : Str} (h : ∀ line ∈ lines, newLine ∉ line)
    (hlast : newLine ∉ last) :
    fileLines (join newLine (lines ++ [last])) =
      lines.map (⟨Sha256.utf8 ·, true⟩) ++
        if last = [] then [] else [⟨Sha256.utf8 last, false⟩] := by
  induction lines with
  | nil =>
    rw [List.nil_append, join_singleton]
    exact fileLines_last hlast
  | cons line lines ih =>
    obtain ⟨hline, hlines⟩ := List.forall_mem_cons.mp h
    rw [List.cons_append, join_cons _ _ (by simp), fileLines_append hline, ih hlines]
    rfl

/-- A text is its lines before the last line break and what stands behind it. -/
lemma exists_lines (text : Str) :
    ∃ lines last, text = join newLine (lines ++ [last]) ∧ split newLine text = lines ++ [last] ∧
      (∀ line ∈ lines, newLine ∉ line) ∧ newLine ∉ last := by
  obtain ⟨lines, last, hsplit⟩ : ∃ lines last, split newLine text = lines ++ [last] :=
    ⟨_, _, (List.dropLast_append_getLast (split_ne_nil newLine text)).symm⟩
  have hfree : ∀ line ∈ lines ++ [last], newLine ∉ line := by
    intro line hline
    rw [← hsplit] at hline
    exact newLine_not_mem_split hline
  refine ⟨lines, last, ?_, hsplit, ?_, ?_⟩
  · rw [← hsplit, join_split]
  · exact fun line hline => hfree line (List.mem_append_left _ hline)
  · exact hfree last (by simp)

lemma endsWith_join {lines : List Str} {last : Str} (hlast : newLine ∉ last)
    (hne : join newLine (lines ++ [last]) ≠ []) :
    endsWith (join newLine (lines ++ [last])) [newLine] = decide (last = []) := by
  have hends : ∀ text : Str, last ≠ [] → endsWith (text ++ last) [newLine] = false := by
    intro text hlast'
    rw [endsWith_eq_false]
    intro ⟨start, hstart⟩
    have hend : (text ++ last).getLast? = some newLine := by
      rw [← hstart, List.getLast?_concat]
    rw [List.getLast?_append_of_ne_nil _ hlast'] at hend
    exact hlast (List.mem_of_getLast? hend)
  by_cases hlines : lines = []
  · rw [hlines, List.nil_append, join_singleton] at hne ⊢
    rw [decide_eq_false hne]
    exact hends [] hne
  · rw [join_append newLine hlines (List.cons_ne_nil _ _), join_singleton]
    by_cases hnil : last = []
    · rw [hnil, endsWith_iff.mpr (List.suffix_append _ _)]
      rfl
    · rw [decide_eq_false hnil, ← List.singleton_append, ← List.append_assoc]
      exact hends _ hnil

lemma utf8_noNewline : Sha256.utf8 (js "\\ No newline at end of file") = Unified.noNewline := by
  decide

/-- The body lines of a text, encoded, are the body of the lines of its bytes. -/
lemma bodyLines_encoded {sign : CodeUnit} (h : sign.val < 0x80) (text : Str) :
    (bodyLines sign (splitTextLines text)).map Sha256.utf8 =
      (fileLines text).flatMap (Unified.Line.body sign.val) ∧
    (splitTextLines text).lines.length = (fileLines text).length := by
  have hsigned : ∀ line, Sha256.utf8 (sign :: line) = sign.val :: Sha256.utf8 line := by
    intro line
    exact utf8_ascii (s := [sign]) (by simpa [isAscii] using h) line
  by_cases hempty : text = []
  · rw [hempty]
    exact ⟨rfl, rfl⟩
  · obtain ⟨lines, last, htext, hsplit, hlines, hlast⟩ := exists_lines text
    have hends : endsWith text [newLine] = decide (last = []) := by
      rw [htext]
      exact endsWith_join hlast (htext ▸ hempty)
    have hfile := fileLines_join hlines hlast
    rw [← htext] at hfile
    have hbody : ∀ lines : List Str,
        (lines.map fun line => Unified.Line.mk (Sha256.utf8 line) true).flatMap
          (Unified.Line.body sign.val) = lines.map fun line => Sha256.utf8 (sign :: line) := by
      intro lines
      induction lines with
      | nil => rfl
      | cons line lines ih =>
        rw [List.map_cons, List.flatMap_cons, ih]
        simp [Unified.Line.body, hsigned]
    unfold splitTextLines bodyLines
    rw [if_neg hempty, hfile, hends, hsplit]
    by_cases hnil : last = []
    · rw [if_pos hnil, List.append_nil, hbody]
      simp [hnil, Function.comp_def]
    · rw [if_neg hnil, List.flatMap_append, hbody]
      simp [hnil, Function.comp_def, utf8_noNewline, hsigned, Unified.Line.body]

/-! ## Reading the diff -/

/-- A text of lines that line feeds end. -/
lemma texts_join {lines : List Str} (hne : lines ≠ []) (h : ∀ line ∈ lines, newLine ∉ line) :
    (Unified.linesOf (Sha256.utf8 (join newLine lines ++ [newLine]))).map (·.text) =
      lines.map Sha256.utf8 := by
  have hjoin : join newLine lines ++ [newLine] = join newLine (lines ++ [[]]) := by
    rw [join_append newLine hne (List.cons_ne_nil _ _), join_singleton]
  have hfile := fileLines_join h (List.not_mem_nil : newLine ∉ [])
  unfold fileLines at hfile
  rw [hjoin, hfile]
  simp [Function.comp_def]

lemma isNumber_natText (n : ℕ) : Unified.IsNumber ((Json.natText n).map (·.val)) := by
  constructor
  · simp [Json.natText, Nat.toDigits_ne_nil]
  · intro b hb
    obtain ⟨c, hc, rfl⟩ := List.mem_map.mp hb
    exact isDigit_natText hc

lemma valueOf_natText (n : ℕ) : Unified.valueOf ((Json.natText n).map (·.val)) = n := by
  unfold Unified.valueOf
  rw [List.foldl_map]
  exact natValue_natText n

lemma isAscii_natText (n : ℕ) : isAscii (Json.natText n) = true := by
  unfold isAscii
  rw [List.all_eq_true]
  intro c hc
  have hdigit := isDigit_natText hc
  simp only [isDigit, Bool.and_eq_true, decide_eq_true_eq] at hdigit ⊢
  omega

lemma isAscii_formatUnifiedRange (n : ℕ) : isAscii (formatUnifiedRange n) = true := by
  unfold formatUnifiedRange
  split_ifs
  · rfl
  · rfl
  · exact isAscii_append rfl (isAscii_natText n)

/-- The range of a text's lines is read back. -/
lemma readRange_formatUnifiedRange (lines : List Unified.Line) {rest : List ℕ}
    (hdigit : rest.head?.any Unified.isDigit = false) (hcomma : rest.head? ≠ some 0x2c) :
    Unified.readRange ((formatUnifiedRange lines.length).map (·.val) ++ rest) =
      some (Unified.wholeRange lines, rest) := by
  have hzero : Unified.IsNumber [0x30] := ⟨List.cons_ne_nil _ _, by decide⟩
  have hone : Unified.IsNumber [0x31] := ⟨List.cons_ne_nil _ _, by decide⟩
  unfold formatUnifiedRange Unified.wholeRange
  by_cases hnil : lines = []
  · rw [if_pos hnil, hnil, List.length_nil, if_pos rfl]
    exact Unified.readRange_two hzero hzero hdigit
  · rw [if_neg hnil, if_neg (List.length_eq_zero_iff.not.mpr hnil)]
    split_ifs with hsingle
    · rw [hsingle]
      exact Unified.readRange_one hone hdigit hcomma
    · rw [List.map_append, List.append_assoc]
      have hread := Unified.readRange_two hone (isNumber_natText lines.length) hdigit
      rw [valueOf_natText] at hread
      exact hread

/-- The ranges of the two sides, as the header of the hunk has them. -/
def hunkHeader (old new : Str) : Str := js "@@ -" ++ old ++ js " +" ++ new ++ js " @@"

lemma readHunkHeader_ranges (old new : List Unified.Line) :
    Unified.readHunkHeader (Sha256.utf8 (hunkHeader (formatUnifiedRange old.length)
      (formatUnifiedRange new.length))) =
      some (Unified.wholeRange old, Unified.wholeRange new) := by
  have hold := isAscii_formatUnifiedRange old.length
  have hnew := isAscii_formatUnifiedRange new.length
  have hascii : isAscii (hunkHeader (formatUnifiedRange old.length)
      (formatUnifiedRange new.length)) = true :=
    isAscii_append (isAscii_append (isAscii_append (isAscii_append rfl hold) rfl) hnew) rfl
  rw [utf8_of_isAscii hascii]
  unfold hunkHeader
  simp only [List.map_append, List.append_assoc]
  exact Unified.readHunkHeader_append
    (readRange_formatUnifiedRange old rfl fun h => absurd (Option.some.inj h) (by decide))
    (readRange_formatUnifiedRange new rfl (by decide))

lemma fileLines_eq_nil {text : Str} : fileLines text = [] ↔ text = [] := by
  unfold fileLines
  rw [Unified.linesOf_eq_nil]
  constructor
  · intro h
    by_contra hne
    exact utf8_ne_nil hne h
  · intro h
    rw [h]
    rfl

lemma length_lines (text : Str) :
    (splitTextLines text).lines.length = (fileLines text).length :=
  (bodyLines_encoded (show (cu '+').val < 0x80 by decide) text).2

/-- The lines of a diff before its hunk. -/
def headerLines (path : Str) (create : Bool) : List Str :=
  [diffHeader path] ++ (if create then [js "new file mode 100644"] else [])
    ++ [if create then js "--- /dev/null" else js "--- a/" ++ path, js "+++ b/" ++ path]

/-- An absent file is diffed as an empty one, apart from the lines before the hunk. -/
lemma createCanonicalUnifiedDiff_eq (path : Str) {before : Option Str} {after : Str}
    (h : ¬(before = none ∧ after = [])) :
    createCanonicalUnifiedDiff path before after =
      join newLine (headerLines path before.isNone
        ++ hunkHeader (formatUnifiedRange (fileLines (before.getD [])).length)
            (formatUnifiedRange (fileLines after).length)
          :: (bodyLines (cu '-') (splitTextLines (before.getD []))
            ++ bodyLines (cu '+') (splitTextLines after))) ++ [newLine] := by
  have hempty : ¬((before.isNone && decide ((splitTextLines after).lines.length = 0)) = true) := by
    intro hboth
    rw [Bool.and_eq_true, decide_eq_true_eq, length_lines, List.length_eq_zero_iff,
      fileLines_eq_nil, Option.isNone_iff_eq_none] at hboth
    exact h hboth
  unfold createCanonicalUnifiedDiff headerLines hunkHeader
  rw [if_neg hempty, length_lines]
  cases before with
  | none => rfl
  | some before =>
    show join newLine _ ++ _ = _
    simp only [Option.map_some, Option.getD_some, length_lines]
    simp

/-- What the lines before the hunk say. -/
lemma headerLines_encoded (path : Str) (create : Bool) :
    ((headerLines path create).map Sha256.utf8).head?.any
        (Unified.ascii "diff --git ").isPrefixOf = true ∧
      ((headerLines path create).map Sha256.utf8).any
        (Unified.ascii "new file mode ").isPrefixOf = create ∧
      ∀ line ∈ (headerLines path create).map Sha256.utf8, Unified.isMarker line = false ∧
        (Unified.ascii "@@ ").isPrefixOf line = false := by
  have hdiff : Sha256.utf8 (diffHeader path) =
      Unified.ascii "diff --git a/" ++ Sha256.utf8 (path ++ (js " b/" ++ path)) := by
    unfold diffHeader
    rw [List.append_assoc, List.append_assoc]
    exact utf8_ascii rfl _
  have hold : Sha256.utf8 (js "--- a/" ++ path) = Unified.ascii "--- a/" ++ Sha256.utf8 path :=
    utf8_ascii rfl path
  have hnew : Sha256.utf8 (js "+++ b/" ++ path) = Unified.ascii "+++ b/" ++ Sha256.utf8 path :=
    utf8_ascii rfl path
  have hmode : Sha256.utf8 (js "new file mode 100644") = Unified.ascii "new file mode 100644" :=
    utf8_of_isAscii rfl
  have hnull : Sha256.utf8 (js "--- /dev/null") = Unified.ascii "--- /dev/null" :=
    utf8_of_isAscii rfl
  unfold headerLines
  cases create with
  | true =>
    simp only [if_true, List.map_append, List.map_cons, List.map_nil, hdiff, hmode, hnull, hnew]
    refine ⟨rfl, rfl, ?_⟩
    intro line hline
    simp only [List.cons_append, List.nil_append, List.mem_cons, List.not_mem_nil, or_false]
      at hline
    rcases hline with rfl | rfl | rfl | rfl <;> exact ⟨rfl, rfl⟩
  | false =>
    simp only [Bool.false_eq_true, if_false, List.map_append, List.map_cons, List.map_nil, hdiff,
      hold, hnew]
    refine ⟨rfl, rfl, ?_⟩
    intro line hline
    simp only [List.cons_append, List.nil_append, List.append_nil, List.mem_cons,
      List.not_mem_nil, or_false] at hline
    rcases hline with rfl | rfl | rfl <;> exact ⟨rfl, rfl⟩

lemma newLine_not_mem_bodyLines {sign : CodeUnit} (h : sign ≠ newLine) (text : Str) :
    ∀ line ∈ bodyLines sign (splitTextLines text), newLine ∉ line := by
  have hlines : ∀ line ∈ (splitTextLines text).lines, newLine ∉ line := by
    unfold splitTextLines
    intro line hline
    split_ifs at hline with hempty
    · exact absurd hline List.not_mem_nil
    · dsimp only at hline
      split_ifs at hline
      · exact newLine_not_mem_split (List.dropLast_subset _ hline)
      · exact newLine_not_mem_split hline
  intro line hline
  rcases List.mem_append.mp hline with hline | hline
  · obtain ⟨content, hcontent, rfl⟩ := List.mem_map.mp hline
    exact List.not_mem_cons_of_ne_of_not_mem (Ne.symm h) (hlines content hcontent)
  · split_ifs at hline
    · rw [List.mem_singleton.mp hline]
      decide
    · exact absurd hline List.not_mem_nil

lemma newLine_not_mem_hunkHeader (m n : ℕ) :
    newLine ∉ hunkHeader (formatUnifiedRange m) (formatUnifiedRange n) := by
  have hrange : ∀ n, newLine ∉ formatUnifiedRange n := by
    intro n
    unfold formatUnifiedRange
    split_ifs
    · decide
    · decide
    · rw [List.mem_append, not_or]
      exact ⟨by decide, not_mem_natText (by decide) n⟩
  unfold hunkHeader
  simp only [List.mem_append, not_or]
  exact ⟨⟨⟨⟨by decide, hrange m⟩, by decide⟩, hrange n⟩, by decide⟩

lemma newLine_not_mem_headerLines {path : Str} (h : newLine ∉ path) (create : Bool) :
    ∀ line ∈ headerLines path create, newLine ∉ line := by
  have hdiff : newLine ∉ diffHeader path := by
    unfold diffHeader
    simp only [List.mem_append, not_or]
    exact ⟨⟨⟨by decide, h⟩, by decide⟩, h⟩
  have hold : newLine ∉ js "--- a/" ++ path := by
    rw [List.mem_append, not_or]
    exact ⟨by decide, h⟩
  have hnew : newLine ∉ js "+++ b/" ++ path := by
    rw [List.mem_append, not_or]
    exact ⟨by decide, h⟩
  have hmode : newLine ∉ js "new file mode 100644" := by decide
  have hnull : newLine ∉ js "--- /dev/null" := by decide
  unfold headerLines
  intro line hline
  cases create <;> simp only [if_true, Bool.false_eq_true, if_false, List.mem_append,
    List.mem_cons, List.not_mem_nil, or_false] at hline
  · rcases hline with rfl | rfl | rfl
    · exact hdiff
    · exact hold
    · exact hnew
  · rcases hline with (rfl | rfl) | rfl | rfl
    · exact hdiff
    · exact hmode
    · exact hnull
    · exact hnew

/-- The patch that a diff is read as. -/
theorem readPatch_diff {path : Str} (hpath : newLine ∉ path) {before : Option Str} {after : Str}
    (h : ¬(before = none ∧ after = [])) :
    Unified.readPatch (Sha256.utf8 (createCanonicalUnifiedDiff path before after)) =
      some ⟨before.isNone,
        [Unified.replacement (fileLines (before.getD [])) (fileLines after)]⟩ := by
  obtain ⟨hfile, hmode, hheader⟩ := headerLines_encoded path before.isNone
  rw [createCanonicalUnifiedDiff_eq path h]
  have hfree : ∀ line ∈ headerLines path before.isNone
      ++ hunkHeader (formatUnifiedRange (fileLines (before.getD [])).length)
          (formatUnifiedRange (fileLines after).length)
        :: (bodyLines (cu '-') (splitTextLines (before.getD []))
          ++ bodyLines (cu '+') (splitTextLines after)), newLine ∉ line := by
    intro line hline
    rcases List.mem_append.mp hline with hline | hline
    · exact newLine_not_mem_headerLines hpath _ line hline
    · rcases List.mem_cons.mp hline with rfl | hline
      · exact newLine_not_mem_hunkHeader _ _
      · rcases List.mem_append.mp hline with hline | hline
        · exact newLine_not_mem_bodyLines (by decide) _ line hline
        · exact newLine_not_mem_bodyLines (by decide) _ line hline
  have hlines := texts_join (List.append_ne_nil_of_right_ne_nil _ (List.cons_ne_nil _ _)) hfree
  rw [List.map_append, List.map_cons, List.map_append,
    (bodyLines_encoded (by decide) (before.getD [])).1,
    (bodyLines_encoded (by decide) after).1] at hlines
  rw [Unified.readPatch_replacement hlines hfile hheader (readHunkHeader_ranges _ _), hmode]

/-- The diff of a new empty file has no hunk. -/
theorem readPatch_empty {path : Str} (hpath : newLine ∉ path) :
    Unified.readPatch (Sha256.utf8 (createCanonicalUnifiedDiff path none [])) =
      some ⟨true, []⟩ := by
  have hdiff : Sha256.utf8 (diffHeader path) =
      Unified.ascii "diff --git a/" ++ Sha256.utf8 (path ++ (js " b/" ++ path)) := by
    unfold diffHeader
    rw [List.append_assoc, List.append_assoc]
    exact utf8_ascii rfl _
  have hfree : ∀ line ∈ [diffHeader path, js "new file mode 100644",
      js "index e69de29..e69de29"], newLine ∉ line := by
    intro line hline
    simp only [List.mem_cons, List.not_mem_nil, or_false] at hline
    rcases hline with rfl | rfl | rfl
    · exact newLine_not_mem_headerLines hpath true _ List.mem_cons_self
    · decide
    · decide
  have hlines := texts_join (List.cons_ne_nil _ _) hfree
  rw [List.map_cons, List.map_cons, List.map_singleton, hdiff,
    utf8_of_isAscii (show isAscii "new file mode 100644" = true from rfl),
    utf8_of_isAscii (show isAscii "index e69de29..e69de29" = true from rfl)] at hlines
  have hjoin : createCanonicalUnifiedDiff path none [] =
      join newLine [diffHeader path, js "new file mode 100644", js "index e69de29..e69de29"] ++
        [newLine] := by
    show join newLine ([diffHeader path, js "new file mode 100644",
      js "index e69de29..e69de29"] ++ [js ""]) = _
    rw [join_append newLine (List.cons_ne_nil _ _) (List.cons_ne_nil _ _)]
    rfl
  rw [hjoin, Unified.readPatch_header hlines rfl]
  · rfl
  · intro line hline
    simp only [List.mem_cons, List.not_mem_nil, or_false] at hline
    rcases hline with rfl | rfl | rfl <;> exact ⟨rfl, rfl⟩

/-! ## Reproducing a candidate -/

/-- The diff is read as a patch that turns the one content into the other, and the counts are those
of its body lines. -/
def Reproduces (change : GovernedFileChange) (before : Option (List ℕ)) (after : List ℕ) : Prop :=
  ∃ patch, Unified.readPatch (Sha256.utf8 change.unifiedDiff) = some patch ∧
    patch.apply before = some after ∧ change.addedLines = patch.added ∧
    change.deletedLines = patch.removed

/-- A content that starts with a byte order mark. -/
def Marked (content : List ℕ) : Prop := byteOrderMark <+: content

/-- The decoder drops the mark, and nothing else. -/
lemma content_of_decode {content : List ℕ} {text : Str}
    (h : decodeChangedText content = .ok text) :
    (¬Marked content ∧ content = Sha256.utf8 text) ∨
      (Marked content ∧ content = byteOrderMark ++ Sha256.utf8 text) := by
  unfold decodeChangedText at h
  cases hdecode : decodeText content with
  | none =>
    rw [hdecode] at h
    exact absurd h fail_ne_ok
  | some decoded =>
    rw [hdecode] at h
    dsimp only at h
    split_ifs at h
    · exact absurd h fail_ne_ok
    · obtain rfl := pure_eq_ok.mp h
      rcases utf8_of_decodeText hdecode with ⟨hmark, hutf8⟩ | hcontent
      · exact Or.inl ⟨hmark, hutf8.symm⟩
      · exact Or.inr ⟨hcontent ▸ List.prefix_append _ _, hcontent⟩

lemma lineFeed_not_mem_byteOrderMark : Unified.lineFeed ∉ byteOrderMark := by decide

/-- A replacement of unmarked lines does not apply to a marked content, unless it adds to a content
that is the mark alone; and then it does not give another content. -/
lemma not_marked_of_lines {text afterText : Str} {before after : List ℕ}
    {rest : List Unified.Line} (hbefore : before = byteOrderMark ++ Sha256.utf8 text)
    (hafter : (¬Marked after ∧ after = Sha256.utf8 afterText) ∨
      (Marked after ∧ after = byteOrderMark ++ Sha256.utf8 afterText))
    (hdiffer : before ≠ after)
    (hlines : Unified.linesOf before = fileLines text ++ rest)
    (hfile : Unified.linesOf (Unified.bytesOf (fileLines afterText ++ rest)) =
      fileLines afterText ++ rest)
    (hresult : after = Unified.bytesOf (fileLines afterText ++ rest)) : False := by
  cases hold : fileLines text with
  | cons line lines =>
    -- The first line of the content has the mark, and the line that the diff removes has not.
    have hmark := Unified.linesOf_prepend lineFeed_not_mem_byteOrderMark hold
    rw [← hbefore, hlines, hold, List.cons_append] at hmark
    have htext := congrArg (fun line => line.text.length) (List.cons.inj hmark).1
    simp only [byteOrderMark, List.length_append, List.length_cons, List.length_nil] at htext
    omega
  | nil =>
    have hrest : rest = [⟨byteOrderMark, false⟩] := by
      have hempty : Sha256.utf8 text = [] := by
        rw [fileLines_eq_nil.mp hold]
        rfl
      rw [hold, List.nil_append, hbefore, hempty, List.append_nil] at hlines
      rw [← hlines]
      rfl
    have hbytes : Unified.bytesOf (fileLines afterText ++ rest) =
        Sha256.utf8 afterText ++ byteOrderMark := by
      unfold Unified.bytesOf
      rw [List.flatMap_append]
      show Unified.bytesOf (fileLines afterText) ++ Unified.bytesOf rest = _
      rw [hrest, fileLines, Unified.bytesOf_linesOf]
      rfl
    rw [hbytes] at hresult
    rcases hafter with ⟨-, hcontent⟩ | ⟨-, hcontent⟩
    · have hlength := congrArg List.length (hcontent.symm.trans hresult)
      simp [byteOrderMark] at hlength
    · by_cases hnil : fileLines afterText = []
      · have hempty : Sha256.utf8 text = [] ∧ Sha256.utf8 afterText = [] := by
          rw [fileLines_eq_nil.mp hold, fileLines_eq_nil.mp hnil]
          exact ⟨rfl, rfl⟩
        rw [hempty.1] at hbefore
        rw [hempty.2] at hcontent
        exact hdiffer (hbefore.trans hcontent.symm)
      · -- Lines before the mark end with a line feed, and the mark does not.
        rw [hrest] at hfile
        have hlast := Unified.getLast?_bytesOf hfile hnil
        rw [fileLines, Unified.bytesOf_linesOf] at hlast
        have hend := congrArg List.getLast? (hcontent.symm.trans hresult)
        rw [List.getLast?_append_of_ne_nil _ (List.ne_nil_of_mem (List.mem_of_getLast? hlast)),
          hlast, List.getLast?_append_of_ne_nil _
            (show byteOrderMark ≠ [] from List.cons_ne_nil _ _)] at hend
        exact absurd hend (by decide)

/-- A replacement of the lines of unmarked contents applies. -/
lemma lines_of_not_marked {before : Option (List ℕ)} {after : List ℕ} {text : Option Str}
    {afterText : Str} (hbefore : before = text.map Sha256.utf8)
    (hafter : after = Sha256.utf8 afterText) :
    ∃ rest, Unified.linesOf (before.getD []) = fileLines (text.getD []) ++ rest ∧
      Unified.linesOf (Unified.bytesOf (fileLines afterText ++ rest)) =
        fileLines afterText ++ rest ∧
      after = Unified.bytesOf (fileLines afterText ++ rest) := by
  refine ⟨[], ?_, ?_, ?_⟩
  · rw [hbefore, List.append_nil]
    cases text <;> rfl
  · rw [List.append_nil, fileLines, Unified.bytesOf_linesOf]
  · rw [hafter, List.append_nil, fileLines, Unified.bytesOf_linesOf]

/-- The counts of a change are those of the replacement it is read as. -/
lemma counts_of_replacement (before : Option LoadedContentTreeFile)
    (after : LoadedContentTreeFile) (beforeText : Option Str) (afterText : Str) (creates : Bool) :
    (toGovernedChange before after beforeText afterText).addedLines =
        (Unified.Patch.mk creates [Unified.replacement (fileLines (beforeText.getD []))
          (fileLines afterText)]).added ∧
      (toGovernedChange before after beforeText afterText).deletedLines =
        (Unified.Patch.mk creates [Unified.replacement (fileLines (beforeText.getD []))
          (fileLines afterText)]).removed := by
  obtain ⟨hadded, hremoved⟩ := Unified.countP_replacement (fileLines (beforeText.getD []))
    (fileLines afterText)
  unfold Unified.Patch.added Unified.Patch.removed Unified.replacement
  rw [List.flatMap_singleton, hadded, hremoved]
  constructor
  · exact length_lines afterText
  · cases beforeText with
    | none => rfl
    | some text => exact length_lines text

/-- Contents that decode and are different are reproduced when neither is marked. -/
lemma apply_iff {before : Option (List ℕ)} {after : List ℕ} {beforeText : Option Str}
    {afterText : Str}
    (hbefore : ∀ content ∈ before, ∃ text, beforeText = some text ∧
      decodeChangedText content = .ok text)
    (hnone : before = none → beforeText = none)
    (hafter : decodeChangedText after = .ok afterText) (hdiffer : before ≠ some after) :
    (Unified.Patch.mk beforeText.isNone [Unified.replacement (fileLines (beforeText.getD []))
        (fileLines afterText)]).apply before = some after ↔
      ¬Marked after ∧ ∀ content ∈ before, ¬Marked content := by
  have hafter' := content_of_decode hafter
  rw [Unified.apply_replacement]
  constructor
  · intro ⟨_, rest, hlines, hfile, hresult⟩
    have hunmarked : ∀ content ∈ before, ¬Marked content := by
      intro content hcontent hmarked
      obtain ⟨text, htext, hdecode⟩ := hbefore content hcontent
      rcases content_of_decode hdecode with ⟨hno, -⟩ | ⟨-, hbytes⟩
      · exact hno hmarked
      · rw [Option.mem_def.mp hcontent] at hdiffer hlines
        rw [htext] at hlines
        exact not_marked_of_lines hbytes hafter'
          (fun hsame => hdiffer (congrArg some hsame)) hlines hfile hresult
    have hrest : rest = [] := by
      have hold : Unified.linesOf (before.getD []) = fileLines (beforeText.getD []) := by
        cases hcase : before with
        | none => rw [hnone hcase]; rfl
        | some content =>
          obtain ⟨text, htext, hdecode⟩ := hbefore content hcase
          rcases content_of_decode hdecode with ⟨-, hbytes⟩ | ⟨hmarked, -⟩
          · rw [htext, Option.getD_some, Option.getD_some, hbytes]
            rfl
          · exact absurd hmarked (hunmarked content hcase)
      rw [hold] at hlines
      exact List.self_eq_append_right.mp hlines
    refine ⟨?_, hunmarked⟩
    rw [hrest, List.append_nil, fileLines, Unified.bytesOf_linesOf] at hresult
    rcases hafter' with ⟨hno, -⟩ | ⟨-, hbytes⟩
    · exact hno
    · have hlength := congrArg List.length (hbytes.symm.trans hresult)
      simp only [byteOrderMark, List.length_append, List.length_cons, List.length_nil] at hlength
      omega
  · intro ⟨hunmarked, hbefore'⟩
    have hbytes : after = Sha256.utf8 afterText := by
      rcases hafter' with ⟨-, hbytes⟩ | ⟨hmarked, -⟩
      · exact hbytes
      · exact absurd hmarked hunmarked
    have htext : before = beforeText.map Sha256.utf8 := by
      cases hcase : before with
      | none => rw [hnone hcase]; rfl
      | some content =>
        obtain ⟨text, htext, hdecode⟩ := hbefore content hcase
        rcases content_of_decode hdecode with ⟨-, hbytes⟩ | ⟨hmarked, -⟩
        · rw [htext, hbytes]
          rfl
        · exact absurd hmarked (hbefore' content hcase)
    refine ⟨?_, lines_of_not_marked htext hbytes⟩
    rw [htext, Option.isNone_map]

/-- A diff of different contents that decode turns the one into the other when neither starts with
a byte order mark; the decoder drops the mark, and the diff then lacks it. -/
theorem diff_reproduces_iff [Runtime] {before : Option LoadedContentTreeFile}
    {after : LoadedContentTreeFile} {beforeText : Option Str} {afterText : Str}
    (hpath : isCanonicalCapsulePath after.path = true)
    (hbefore : before.mapM (fun file => decodeChangedText file.content) = .ok beforeText)
    (hafter : decodeChangedText after.content = .ok afterText)
    (hdiffer : before.map (·.content) ≠ some after.content) :
    Reproduces (toGovernedChange before after beforeText afterText) (before.map (·.content))
        after.content ↔
      ¬Marked after.content ∧ ∀ file ∈ before, ¬Marked file.content := by
  have hcontents : ∀ content ∈ before.map (·.content), ∃ text, beforeText = some text ∧
      decodeChangedText content = .ok text := by
    intro content hcontent
    obtain ⟨file, rfl, rfl⟩ := Option.map_eq_some_iff.mp hcontent
    obtain ⟨text, htext, hsome⟩ := map_eq_ok.mp hbefore
    exact ⟨text, hsome.symm, htext⟩
  have hnone : before.map (·.content) = none → beforeText = none := by
    intro hcase
    rw [Option.map_eq_none_iff.mp hcase] at hbefore
    exact (pure_eq_ok.mp hbefore).symm
  have happly := apply_iff hcontents hnone hafter hdiffer
  have hnewLine : newLine ∉ after.path := newLine_not_mem_canonical hpath
  have hfiles : (∀ content ∈ before.map (·.content), ¬Marked content) ↔
      ∀ file ∈ before, ¬Marked file.content := by
    cases before <;> simp
  rw [← hfiles, ← happly]
  unfold Reproduces
  show (∃ patch, Unified.readPatch (Sha256.utf8 (createCanonicalUnifiedDiff after.path beforeText
    afterText)) = some patch ∧ _) ↔ _
  obtain ⟨hadded, hremoved⟩ :=
    counts_of_replacement before after beforeText afterText beforeText.isNone
  by_cases hempty : beforeText = none ∧ afterText = []
  · obtain ⟨rfl, rfl⟩ := hempty
    rw [readPatch_empty hnewLine]
    constructor
    · intro ⟨patch, hpatch, hresult, _⟩
      obtain rfl := Option.some.inj hpatch
      exact hresult
    · intro hresult
      exact ⟨_, rfl, hresult, hadded, hremoved⟩
  · rw [readPatch_diff hnewLine hempty]
    constructor
    · intro ⟨patch, hpatch, hresult, _⟩
      obtain rfl := Option.some.inj hpatch
      exact hresult
    · intro hresult
      exact ⟨_, rfl, hresult, hadded, hremoved⟩

/-- A file named `a` with a digest. -/
def sampleFile (content : List ℕ) : LoadedContentTreeFile :=
  ⟨⟨js "a", .regular, content⟩, ⟨List.replicate 64 (cu '0'), content.length⟩⟩

theorem diff_reproduces_letter :
    Reproduces (toGovernedChange (some (sampleFile [0x61, 0x0a])) (sampleFile [0x62, 0x0a])
      (some (js "a\n")) (js "b\n")) (some [0x61, 0x0a]) [0x62, 0x0a] :=
  (@diff_reproduces_iff asciiRuntime (some (sampleFile [0x61, 0x0a])) (sampleFile [0x62, 0x0a])
    (some (js "a\n")) (js "b\n") (by decide +kernel) rfl rfl (by decide)).mpr
    ⟨by unfold Marked; decide, by unfold Marked; decide⟩

/-- The content after is the content before behind a byte order mark, and the diff does not make
it. -/
theorem diff_misses_mark :
    decodeChangedText [0x61, 0x0a] = .ok (js "a\n") ∧
    decodeChangedText [0xef, 0xbb, 0xbf, 0x61, 0x0a] = .ok (js "a\n") ∧
    ¬Reproduces (toGovernedChange (some (sampleFile [0x61, 0x0a]))
      (sampleFile [0xef, 0xbb, 0xbf, 0x61, 0x0a]) (some (js "a\n")) (js "a\n"))
      (some [0x61, 0x0a]) [0xef, 0xbb, 0xbf, 0x61, 0x0a] := by
  refine ⟨rfl, rfl, ?_⟩
  intro ⟨patch, hpatch, hresult, _⟩
  have happly : (Unified.readPatch (Sha256.utf8 (createCanonicalUnifiedDiff (js "a")
      (some (js "a\n")) (js "a\n")))).bind (·.apply (some [0x61, 0x0a])) =
      some [0xef, 0xbb, 0xbf, 0x61, 0x0a] := by
    rw [show Unified.readPatch (Sha256.utf8 (createCanonicalUnifiedDiff (js "a")
      (some (js "a\n")) (js "a\n"))) = some patch from hpatch]
    exact hresult
  exact absurd happly (by decide +kernel)

end CodexRouter.Capsule
