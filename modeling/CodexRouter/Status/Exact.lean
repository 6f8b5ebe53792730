import CodexRouter.Js.Ascii
import CodexRouter.Js.Normal
import CodexRouter.Status.Porcelain

/-!
# What the readers of git status return

The second version is read exactly up to the normal form of paths. Of the first version the record
behind a rename, which is a bare path, is read like any other record.
-/

open Js

namespace CodexRouter.Status
open Authorization Preview

/-! ## Records -/

lemma records_terminated {rs : List Str} (hne : ∀ r ∈ rs, r ≠ []) (hnul : ∀ r ∈ rs, nul ∉ r) :
    records (terminated rs) = rs := by
  unfold records terminated split
  induction rs with
  | nil => rfl
  | cons r rs ih =>
    rw [List.forall_mem_cons] at hne hnul
    rw [List.flatMap_cons, List.append_assoc, List.singleton_append,
      List.splitOn_append_cons_self_of_not_mem hnul.1,
      List.filter_cons_of_pos (by simpa using hne.1), ih hne.2 hnul.2]

lemma spaced_cons (field : Str) (fields : List Str) :
    spaced (field :: fields) = field ++ cu ' ' :: spaced fields := by
  unfold spaced
  rw [List.flatMap_cons, List.append_assoc, List.singleton_append]

lemma takeWhile_field {field : Str} (h : cu ' ' ∉ field) (rest : Str) :
    (field ++ cu ' ' :: rest).takeWhile (· ≠ cu ' ') = field
      ∧ (field ++ cu ' ' :: rest).dropWhile (· ≠ cu ' ') = cu ' ' :: rest := by
  have hall : ∀ c ∈ field, decide (c ≠ cu ' ') = true := by
    intro c hc
    rw [decide_eq_true_eq]
    rintro rfl
    exact h hc
  constructor
  · rw [List.takeWhile_append_of_pos hall, List.takeWhile_cons_of_neg (by simp), List.append_nil]
  · rw [List.dropWhile_append_of_pos hall, List.dropWhile_cons_of_neg (by simp)]

lemma readField_spaced {field : Str} (hne : field ≠ []) (h : cu ' ' ∉ field) (rest : Str) :
    readField (field ++ cu ' ' :: rest) = some (field, rest) := by
  obtain ⟨htake, hdrop⟩ := takeWhile_field h rest
  unfold readField
  rw [htake, hdrop]
  cases field with
  | nil => exact absurd rfl hne
  | cons c field => rfl

lemma readFields_spaced {fields : List Str} (hne : ∀ field ∈ fields, field ≠ [])
    (h : ∀ field ∈ fields, cu ' ' ∉ field) (path : Str) :
    readFields fields.length (spaced fields ++ path) = some (fields, path) := by
  induction fields with
  | nil => rfl
  | cons field fields ih =>
    rw [List.forall_mem_cons] at hne h
    rw [spaced_cons, List.append_assoc, List.cons_append, List.length_cons, readFields,
      readField_spaced hne.1 h.1]
    simp [ih hne.2 h.2]

/-- The letters of the codes and the fields have no space and no NUL and are not empty. -/
lemma texts_fields (fields : StatusFields) :
    (∀ text ∈ fields.texts, text ≠ []) ∧ (∀ text ∈ fields.texts, cu ' ' ∉ text)
      ∧ ∀ text ∈ fields.texts, nul ∉ text := by
  have hletter : ∀ code : StatusCode, code.letter ≠ cu ' ' ∧ code.letter ≠ nul := by
    intro code
    cases code
    all_goals decide
  have hindex := hletter fields.index
  have hworktree := hletter fields.worktree
  unfold StatusFields.texts
  refine ⟨?_, ?_, ?_⟩
  · simp [Field.ne_nil]
  · simp [Field.no_space, hindex.1.symm, hworktree.1.symm]
  · simp [Field.no_nul, hindex.2.symm, hworktree.2.symm]

lemma readRecord_eq {fieldCount : ℕ} {fields : StatusFields} {extra : List Str} {path : Str}
    {kind : Str} (hkind : kind.length = 2) (hcount : (fields.texts ++ extra).length = fieldCount)
    (hne : ∀ text ∈ extra, text ≠ []) (hspace : ∀ text ∈ extra, cu ' ' ∉ text) :
    readRecord fieldCount (kind ++ (spaced (fields.texts ++ extra) ++ path)) =
      some ([fields.index.letter, fields.worktree.letter], fields.modes, path) := by
  obtain ⟨htextsNe, htextsSpace, -⟩ := texts_fields fields
  have hdrop : (kind ++ (spaced (fields.texts ++ extra) ++ path)).drop 2 =
      spaced (fields.texts ++ extra) ++ path := by
    rw [← hkind, List.drop_left]
  unfold readRecord
  rw [hdrop, ← hcount, readFields_spaced (List.forall_mem_append.mpr ⟨htextsNe, hne⟩)
    (List.forall_mem_append.mpr ⟨htextsSpace, hspace⟩)]
  rfl

/-! ## Paths -/

section
variable [Runtime]

/-- `parseStatusPath` throws. -/
def RefusedV2 (path : Str) : Prop := (parseStatusPath path).returns = false

/-- The previewer throws at a path. -/
def RefusedV1 (path : Str) : Prop := cu '\\' ∈ path ∨ isSafeGovernedPath path = false

omit [Runtime] in
/-- The units that make a record of the first version. -/
def RecordLike (text : Str) : Prop := 4 ≤ text.length ∧ text[2]? = some (cu ' ')

/-- An accepted path is in normal form. -/
lemma normalizeAndAssertPath_eq_ok {input path : Str}
    (h : normalizeAndAssertPath input = .ok path) :
    path = Js.normalize (toSlashes input) ∧ Js.normalize path = path := by
  unfold normalizeAndAssertPath at h
  dsimp only at h
  split_ifs at h with hbad
  · exact absurd h fail_ne_ok
  obtain rfl := pure_eq_ok.mp h
  refine ⟨rfl, ?_⟩
  simp only [Bool.or_eq_true, not_or, Bool.not_eq_true, and_assoc] at hbad
  obtain ⟨-, -, hinput, -, -, -, habsolute, -, -, -, -, -, -, -, hends, -, -⟩ := hbad
  generalize toSlashes input = slashPath at *
  have hparts : ∀ part ∈ split slash (Js.normalize slashPath), part ≠ dot ∧ part ≠ dotDot := by
    intro part hpart
    have hpart' := List.any_eq_false.mp hends part hpart
    constructor
    all_goals
      rintro rfl
      exact hpart' (by decide)
  by_cases hnil : slashPath = []
  · subst hnil
    rfl
  have hrelative : isAbsolute slashPath = false := by
    by_contra habs
    rw [Bool.not_eq_false] at habs
    unfold Js.normalize at habsolute
    simp only [hnil, habs, if_false, if_true, Bool.not_true] at habsolute
    split_ifs at habsolute <;> simp [isAbsolute, startsWith, List.isPrefixOf] at habsolute
  obtain ⟨parts, hne, hplain, hnormal⟩ := exists_plain_of_normalize hnil hrelative hparts
  rcases hnormal with hnormal | hnormal
  · rw [hnormal]
    exact normalize_join_plain hne hplain
  · rw [hnormal]
    exact normalize_join_plain_slash hne hplain

/-- A path of git status that is not refused is read as its normal form. -/
lemma parseStatusPath_eq_ok {path read : Str} (h : parseStatusPath path = .ok read) :
    read = Js.normalize path ∧ Js.normalize read = read := by
  unfold parseStatusPath at h
  split_ifs at h with hslash
  · exact absurd h fail_ne_ok
  have hsame : toSlashes path = path := by
    apply (List.map_congr_left _).trans (List.map_id _)
    intro c hc
    apply if_neg
    rintro rfl
    exact hslash hc
  have hspec := normalizeAndAssertPath_eq_ok h
  rwa [hsame] at hspec

lemma parseStatusPath_of_not_refused {path : Str} (h : ¬RefusedV2 path) :
    parseStatusPath path = .ok (Js.normalize path) ∧
      Js.normalize (Js.normalize path) = Js.normalize path := by
  unfold RefusedV2 at h
  rw [Bool.not_eq_false] at h
  obtain ⟨read, hread⟩ := Result.exists_ok h
  obtain ⟨rfl, hnormal⟩ := parseStatusPath_eq_ok hread
  exact ⟨hread, hnormal⟩

/-! ## The second version -/

omit [Runtime] in
/-- What `indexChanged` tells of an entry. -/
def StatusEntry.changesIndex : StatusEntry → Bool
  | ordinary fields _ => fields.index ≠ .unmodified
  | renamed _ _ _ _ => true
  | untracked _ => false

omit [Runtime] in
/-- The path under which the modes are kept, and the modes. -/
def StatusEntry.modesPair (entry : StatusEntry) : Option (Str × PathModes) :=
  entry.fields.map fun fields => (Js.normalize entry.path, fields.modes)

omit [Runtime] in
/-- The paths that an entry has. -/
def StatusEntry.allPaths (entry : StatusEntry) : List Str := entry.path :: entry.original.toList

omit [Runtime] in
lemma letter_eq_dot {code : StatusCode} : code.letter = cu '.' ↔ code = .unmodified := by
  cases code
  all_goals decide

section
variable (state : PorcelainV2) {record : Str} (rest : List Str)

lemma parseV2Records_untracked (h : startsWith record "? " = true) :
    parseV2Records state (record :: rest) = (do
      let path ← parseStatusPath (record.drop 2)
      parseV2Records { state with paths := state.paths ++ [path] } rest) := by
  conv_lhs => unfold parseV2Records
  rw [if_pos h]

lemma parseV2Records_ordinary (huntracked : startsWith record "? " = false)
    (h : startsWith record "1 " = true) {codes rawPath : Str} {modes : PathModes}
    (hread : readRecord 7 record = some (codes, modes, rawPath)) :
    parseV2Records state (record :: rest) = (do
      let path ← parseStatusPath rawPath
      parseV2Records
        { paths := state.paths ++ [path]
          indexChanged := state.indexChanged || codes.head? ≠ some (cu '.')
          pathModes := state.pathModes.set path modes } rest) := by
  conv_lhs => unfold parseV2Records
  rw [huntracked, if_neg (by decide), if_pos h, hread]

lemma parseV2Records_renamed (huntracked : startsWith record "? " = false)
    (hordinary : startsWith record "1 " = false) (h : startsWith record "2 " = true)
    {codes rawPath : Str} {modes : PathModes}
    (hread : readRecord 8 record = some (codes, modes, rawPath)) (originalPath : Str) :
    parseV2Records state (record :: originalPath :: rest) = (do
      let path ← parseStatusPath rawPath
      let _ ← parseStatusPath originalPath
      parseV2Records
        { paths := state.paths ++ [path]
          indexChanged := true
          pathModes := state.pathModes.set path modes } rest) := by
  conv_lhs => unfold parseV2Records
  rw [huntracked, if_neg (by decide), hordinary, if_neg (by decide), if_pos h, hread]

end

/-- One entry is read, or one of its paths is refused. -/
lemma parseV2Records_entry (state : PorcelainV2) (entry : StatusEntry) (rest : List Str) :
    ((∃ path ∈ entry.allPaths, RefusedV2 path) ∧
      (parseV2Records state (recordsV2 entry ++ rest)).returns = false)
    ∨ ((∀ path ∈ entry.allPaths, ¬RefusedV2 path) ∧
      parseV2Records state (recordsV2 entry ++ rest) =
        parseV2Records
          { paths := state.paths ++ [Js.normalize entry.path]
            indexChanged := state.indexChanged || entry.changesIndex
            pathModes := state.pathModes.setAll entry.modesPair.toList } rest) := by
  have hrefused : ∀ path, RefusedV2 path → ∃ e, parseStatusPath path = .error e := by
    intro path hpath
    unfold RefusedV2 at hpath
    cases h : parseStatusPath path with
    | error e => exact ⟨e, rfl⟩
    | ok read =>
      rw [h] at hpath
      exact nomatch hpath
  cases entry with
  | untracked path =>
    have hrecord : recordsV2 (.untracked path) ++ rest = (js "? " ++ path.text) :: rest := rfl
    rw [hrecord, parseV2Records_untracked _ _ (startsWith_append_self _ _)]
    by_cases h : RefusedV2 path.text
    · obtain ⟨e, he⟩ := hrefused _ h
      left
      refine ⟨⟨path.text, List.mem_cons_self, h⟩, ?_⟩
      show (parseStatusPath path.text >>= _).returns = false
      rw [he]
      rfl
    · right
      refine ⟨by simpa [StatusEntry.allPaths, StatusEntry.path, StatusEntry.original] using h, ?_⟩
      show (parseStatusPath path.text >>= _) = _
      rw [(parseStatusPath_of_not_refused h).1, ok_bind]
      simp [StatusEntry.changesIndex, StatusEntry.modesPair, StatusEntry.path, StatusEntry.fields,
        Map.setAll]
  | ordinary fields path =>
    have hrecord : recordsV2 (.ordinary fields path) ++ rest =
        (js "1 " ++ (spaced (fields.texts ++ []) ++ path.text)) :: rest := by
      rw [List.append_nil]
      rfl
    have huntracked : startsWith (js "1 " ++ (spaced (fields.texts ++ []) ++ path.text)) "? " =
        false := rfl
    rw [hrecord, parseV2Records_ordinary _ _ huntracked (startsWith_append_self _ _)
      (readRecord_eq rfl rfl (by simp) (by simp))]
    by_cases h : RefusedV2 path.text
    · obtain ⟨e, he⟩ := hrefused _ h
      left
      refine ⟨⟨path.text, List.mem_cons_self, h⟩, ?_⟩
      rw [he]
      rfl
    · right
      refine ⟨by simpa [StatusEntry.allPaths, StatusEntry.path, StatusEntry.original] using h, ?_⟩
      rw [(parseStatusPath_of_not_refused h).1, ok_bind]
      simp [StatusEntry.changesIndex, StatusEntry.modesPair, StatusEntry.path, StatusEntry.fields,
        Map.setAll, letter_eq_dot]
  | renamed fields score path original =>
    have hrecord : recordsV2 (.renamed fields score path original) ++ rest =
        (js "2 " ++ (spaced (fields.texts ++ [score.text]) ++ path.text)) ::
          original.text :: rest := rfl
    have huntracked : startsWith (js "2 " ++ (spaced (fields.texts ++ [score.text]) ++ path.text))
        "? " = false := rfl
    have hordinary : startsWith (js "2 " ++ (spaced (fields.texts ++ [score.text]) ++ path.text))
        "1 " = false := rfl
    rw [hrecord, parseV2Records_renamed _ _ huntracked hordinary (startsWith_append_self _ _)
      (readRecord_eq rfl rfl (by simpa using score.ne_nil) (by simpa using score.no_space))]
    by_cases hpath : RefusedV2 path.text
    · obtain ⟨e, he⟩ := hrefused _ hpath
      left
      refine ⟨⟨path.text, List.mem_cons_self, hpath⟩, ?_⟩
      rw [he]
      rfl
    · rw [(parseStatusPath_of_not_refused hpath).1, ok_bind]
      by_cases horiginal : RefusedV2 original.text
      · obtain ⟨e, he⟩ := hrefused _ horiginal
        left
        refine ⟨⟨original.text, List.mem_cons_of_mem _ (by simp [StatusEntry.original]),
          horiginal⟩, ?_⟩
        rw [he]
        rfl
      · right
        rw [(parseStatusPath_of_not_refused horiginal).1, ok_bind]
        refine ⟨?_, ?_⟩
        · simpa [StatusEntry.allPaths, StatusEntry.path, StatusEntry.original] using
            ⟨hpath, horiginal⟩
        · simp [StatusEntry.changesIndex, StatusEntry.modesPair, StatusEntry.path,
            StatusEntry.fields, Map.setAll]

omit [Runtime] in
/-- Every current path and every original path. -/
def allPaths (entries : List StatusEntry) : List Str := entries.flatMap StatusEntry.allPaths

/-- All records of the second version. -/
theorem parseV2Records_entries (state : PorcelainV2) (entries : List StatusEntry) :
    ((∃ path ∈ allPaths entries, RefusedV2 path) ∧
      (parseV2Records state (entries.flatMap recordsV2)).returns = false)
    ∨ ((∀ path ∈ allPaths entries, ¬RefusedV2 path) ∧
      parseV2Records state (entries.flatMap recordsV2) = .ok
        { paths := state.paths ++ entries.map fun entry => Js.normalize entry.path
          indexChanged := state.indexChanged || entries.any StatusEntry.changesIndex
          pathModes := state.pathModes.setAll (entries.filterMap StatusEntry.modesPair) }) := by
  induction entries generalizing state with
  | nil =>
    right
    refine ⟨by simp [allPaths], ?_⟩
    simp [parseV2Records, Map.setAll, pure, Except.pure]
  | cons entry entries ih =>
    unfold allPaths at ih ⊢
    rw [List.flatMap_cons, List.flatMap_cons]
    rcases parseV2Records_entry state entry (entries.flatMap recordsV2) with
      ⟨⟨path, hpath, hrefused⟩, hfails⟩ | ⟨haccepted, hreads⟩
    · exact .inl ⟨⟨path, List.mem_append_left _ hpath, hrefused⟩, hfails⟩
    · rw [hreads]
      rcases ih _ with ⟨⟨path, hpath, hrefused⟩, hfails⟩ | ⟨hrest, hresult⟩
      · exact .inl ⟨⟨path, List.mem_append_right _ hpath, hrefused⟩, hfails⟩
      · right
        refine ⟨List.forall_mem_append.mpr ⟨haccepted, hrest⟩, ?_⟩
        rw [hresult, List.map_cons, List.any_cons, List.append_assoc, List.singleton_append,
          Bool.or_assoc]
        have hmodes : (state.pathModes.setAll entry.modesPair.toList).setAll
            (entries.filterMap StatusEntry.modesPair) =
              state.pathModes.setAll ((entry :: entries).filterMap StatusEntry.modesPair) := by
          cases hpair : entry.modesPair with
          | none => rw [List.filterMap_cons_none hpair]; rfl
          | some pair => rw [List.filterMap_cons_some hpair]; rfl
        rw [hmodes]

omit [Runtime] in
lemma recordsV2_units (entries : List StatusEntry) :
    (∀ r ∈ entries.flatMap recordsV2, r ≠ []) ∧ ∀ r ∈ entries.flatMap recordsV2, nul ∉ r := by
  have hspaced : ∀ fields : List Str, (∀ field ∈ fields, nul ∉ field) → nul ∉ spaced fields := by
    intro fields hfields hmem
    obtain ⟨field, hfield, hunit⟩ := List.mem_flatMap.mp hmem
    rcases List.mem_append.mp hunit with hunit | hunit
    · exact hfields field hfield hunit
    · exact absurd (List.mem_singleton.mp hunit) (by decide)
  have hentry : ∀ entry : StatusEntry, ∀ r ∈ recordsV2 entry, r ≠ [] ∧ nul ∉ r := by
    intro entry
    cases entry with
    | untracked path =>
      simp only [recordsV2, List.forall_mem_singleton, List.mem_append, not_or]
      exact ⟨by simp [js], by decide, path.no_nul⟩
    | ordinary fields path =>
      simp only [recordsV2, List.forall_mem_singleton, List.mem_append, not_or]
      exact ⟨by simp [js], by decide, hspaced _ (texts_fields fields).2.2, path.no_nul⟩
    | renamed fields score path original =>
      have hscore : ∀ field ∈ fields.texts ++ [score.text], nul ∉ field :=
        List.forall_mem_append.mpr ⟨(texts_fields fields).2.2, by simpa using score.no_nul⟩
      simp only [recordsV2, List.forall_mem_cons, List.mem_append, not_or]
      exact ⟨⟨by simp [js], by decide, hspaced _ hscore, path.no_nul⟩,
        ⟨original.ne_nil, original.no_nul⟩, by simp⟩
  constructor
  · intro r hr
    obtain ⟨entry, -, hrecord⟩ := List.mem_flatMap.mp hr
    exact (hentry entry r hrecord).1
  · intro r hr
    obtain ⟨entry, -, hrecord⟩ := List.mem_flatMap.mp hr
    exact (hentry entry r hrecord).2

/-- What the second version is read as. -/
theorem parsePorcelainV2_entries (entries : List StatusEntry) :
    ((∃ path ∈ allPaths entries, RefusedV2 path) ∧
      (parsePorcelainV2 (encodeV2 entries)).returns = false)
    ∨ ((∀ path ∈ allPaths entries, ¬RefusedV2 path) ∧
      parsePorcelainV2 (encodeV2 entries) = .ok
        { paths := uniqueStrings (entries.map fun entry => Js.normalize entry.path)
          indexChanged := entries.any StatusEntry.changesIndex
          pathModes := Map.empty.setAll (entries.filterMap StatusEntry.modesPair) }) := by
  obtain ⟨hne, hnul⟩ := recordsV2_units entries
  unfold parsePorcelainV2 encodeV2
  rw [records_terminated hne hnul]
  rcases parseV2Records_entries ⟨[], false, .empty⟩ entries with
    ⟨hrefused, hfails⟩ | ⟨haccepted, hresult⟩
  · left
    refine ⟨hrefused, ?_⟩
    cases h : parseV2Records ⟨[], false, .empty⟩ (entries.flatMap recordsV2) with
    | error e => rfl
    | ok result =>
      rw [h] at hfails
      exact nomatch hfails
  · right
    refine ⟨haccepted, ?_⟩
    rw [hresult, ok_bind]
    simp [pure, Except.pure]

/-! ## The first version -/

lemma parsePorcelainRecord_eq_ok {record path : Str} :
    parsePorcelainRecord record = .ok path ↔
      RecordLike record ∧ ¬RefusedV1 (record.drop 3) ∧ path = record.drop 3 := by
  unfold parsePorcelainRecord RecordLike RefusedV1
  dsimp only
  split_ifs with hdrift hslash
  · apply iff_of_false fail_ne_ok
    rintro ⟨⟨hlength, hspace⟩, -⟩
    rcases hdrift with hshort | hother
    · omega
    · exact hother hspace
  · apply iff_of_false fail_ne_ok
    rintro ⟨-, haccepted, -⟩
    exact haccepted (.inl hslash)
  · rw [not_or, not_lt, not_not] at hdrift
    have hsame : toSlashes (record.drop 3) = record.drop 3 := by
      apply (List.map_congr_left _).trans (List.map_id _)
      intro c hc
      apply if_neg
      rintro rfl
      exact hslash hc
    rw [normalizeAndAssert_eq_ok, hsame, not_or, Bool.not_eq_false]
    exact ⟨fun ⟨hsafe, hpath⟩ => ⟨hdrift, ⟨hslash, hsafe⟩, hpath⟩,
      fun ⟨_, ⟨_, hsafe⟩, hpath⟩ => ⟨hsafe, hpath⟩⟩

omit [Runtime] in
/-- The record of an entry itself; a rename has its original path behind it. -/
lemma recordsV1_eq (entry : StatusEntry) :
    ∃ record, recordsV1 entry = record :: entry.original.toList ∧ RecordLike record
      ∧ record.drop 3 = entry.path ∧ nul ∉ record := by
  have hletter : ∀ code : StatusCode, code.letterV1 ≠ nul := by
    intro code
    cases code
    all_goals decide
  have hlike : ∀ (c d : CodeUnit) (path : StatusPath),
      RecordLike ([c, d, cu ' '] ++ path.text) := by
    intro c d path
    refine ⟨?_, rfl⟩
    have hpos := List.length_pos_iff.mpr path.ne_nil
    rw [List.length_append, List.length_cons, List.length_cons, List.length_singleton]
    omega
  cases entry with
  | untracked path =>
    refine ⟨_, rfl, hlike _ _ path, rfl, ?_⟩
    rw [List.mem_append, not_or]
    exact ⟨by decide, path.no_nul⟩
  | ordinary fields path =>
    refine ⟨_, rfl, hlike _ _ path, rfl, ?_⟩
    simp [path.no_nul, (hletter fields.index).symm, (hletter fields.worktree).symm,
      show nul ≠ cu ' ' by decide]
  | renamed fields score path original =>
    refine ⟨_, rfl, hlike _ _ path, rfl, ?_⟩
    simp [path.no_nul, (hletter fields.index).symm, (hletter fields.worktree).symm,
      show nul ≠ cu ' ' by decide]

omit [Runtime] in
/-- The original paths of renames. -/
def originals (entries : List StatusEntry) : List Str :=
  entries.filterMap StatusEntry.original

omit [Runtime] in
lemma StatusEntry.original_units {entry : StatusEntry} {path : Str}
    (h : entry.original = some path) : path ≠ [] ∧ nul ∉ path := by
  cases entry with
  | renamed fields score current original =>
    obtain rfl := Option.some.inj h
    exact ⟨original.ne_nil, original.no_nul⟩
  | ordinary fields current => exact nomatch h
  | untracked current => exact nomatch h

omit [Runtime] in
/-- A record is that of an entry or an original path. -/
lemma mem_recordsV1 {entries : List StatusEntry} {record : Str}
    (h : record ∈ entries.flatMap recordsV1) :
    (∃ entry ∈ entries, RecordLike record ∧ record.drop 3 = entry.path)
      ∨ record ∈ originals entries := by
  obtain ⟨entry, hentry, hrecord⟩ := List.mem_flatMap.mp h
  obtain ⟨own, hrecords, hlike, hpath, -⟩ := recordsV1_eq entry
  rw [hrecords, List.mem_cons, Option.mem_toList] at hrecord
  rcases hrecord with rfl | horiginal
  · exact .inl ⟨entry, hentry, hlike, hpath⟩
  · exact .inr (List.mem_filterMap.mpr ⟨entry, hentry, horiginal⟩)

omit [Runtime] in
lemma exists_recordV1 {entries : List StatusEntry} {entry : StatusEntry} (h : entry ∈ entries) :
    ∃ record ∈ entries.flatMap recordsV1, RecordLike record ∧ record.drop 3 = entry.path := by
  obtain ⟨record, hrecords, hlike, hpath, -⟩ := recordsV1_eq entry
  refine ⟨record, List.mem_flatMap.mpr ⟨entry, h, ?_⟩, hlike, hpath⟩
  rw [hrecords]
  exact List.mem_cons_self

omit [Runtime] in
lemma original_mem_recordsV1 {entries : List StatusEntry} {path : Str}
    (h : path ∈ originals entries) : path ∈ entries.flatMap recordsV1 := by
  obtain ⟨entry, hentry, horiginal⟩ := List.mem_filterMap.mp h
  obtain ⟨record, hrecords, -⟩ := recordsV1_eq entry
  refine List.mem_flatMap.mpr ⟨entry, hentry, ?_⟩
  rw [hrecords, horiginal]
  exact List.mem_cons_of_mem _ (by simp)

omit [Runtime] in
lemma recordsV1_units (entries : List StatusEntry) :
    (∀ r ∈ entries.flatMap recordsV1, r ≠ []) ∧ ∀ r ∈ entries.flatMap recordsV1, nul ∉ r := by
  have hentry : ∀ entry : StatusEntry, ∀ r ∈ recordsV1 entry, r ≠ [] ∧ nul ∉ r := by
    intro entry r hr
    obtain ⟨record, hrecords, ⟨hlength, -⟩, -, hnul⟩ := recordsV1_eq entry
    rw [hrecords, List.mem_cons, Option.mem_toList] at hr
    rcases hr with rfl | horiginal
    · refine ⟨?_, hnul⟩
      rintro rfl
      exact absurd hlength (by decide)
    · exact StatusEntry.original_units horiginal
  constructor
  · intro r hr
    obtain ⟨entry, -, hrecord⟩ := List.mem_flatMap.mp hr
    exact (hentry entry r hrecord).1
  · intro r hr
    obtain ⟨entry, -, hrecord⟩ := List.mem_flatMap.mp hr
    exact (hentry entry r hrecord).2

/-- What the first version is read as, where no record is refused. -/
theorem parsePorcelainPaths_entries (entries : List StatusEntry) :
    (((∃ entry ∈ entries, RefusedV1 entry.path) ∨
        ∃ path ∈ originals entries, ¬RecordLike path ∨ RefusedV1 (path.drop 3)) ∧
      (parsePorcelainPaths (encodeV1 entries)).returns = false)
    ∨ ((∀ entry ∈ entries, ¬RefusedV1 entry.path) ∧
      (∀ path ∈ originals entries, RecordLike path ∧ ¬RefusedV1 (path.drop 3)) ∧
      ∃ paths, parsePorcelainPaths (encodeV1 entries) = .ok paths ∧
        ∀ path, path ∈ paths ↔
          path ∈ entries.map StatusEntry.path ∨ path ∈ (originals entries).map (List.drop 3)) := by
  obtain ⟨hne, hnul⟩ := recordsV1_units entries
  unfold parsePorcelainPaths encodeV1
  rw [records_terminated hne hnul]
  cases hread : (entries.flatMap recordsV1).mapM parsePorcelainRecord with
  | error e =>
    left
    refine ⟨?_, rfl⟩
    by_contra hnone
    push Not at hnone
    obtain ⟨hentries, horiginals⟩ := hnone
    have hall : ∀ record ∈ entries.flatMap recordsV1, ∃ path,
        parsePorcelainRecord record = .ok path := by
      intro record hrecord
      refine ⟨record.drop 3, parsePorcelainRecord_eq_ok.mpr ?_⟩
      rcases mem_recordsV1 hrecord with ⟨entry, hentry, hlike, hpath⟩ | horiginal
      · exact ⟨hlike, hpath ▸ hentries entry hentry, rfl⟩
      · exact ⟨(horiginals record horiginal).1, (horiginals record horiginal).2, rfl⟩
    obtain ⟨paths, hpaths⟩ := mapM_returns hall
    rw [hpaths] at hread
    exact nomatch hread
  | ok paths =>
    have hrecords : ∀ record ∈ entries.flatMap recordsV1,
        RecordLike record ∧ ¬RefusedV1 (record.drop 3) := by
      intro record hrecord
      obtain ⟨path, -, hpath⟩ := exists_of_mapM hread record hrecord
      obtain ⟨hlike, haccepted, -⟩ := parsePorcelainRecord_eq_ok.mp hpath
      exact ⟨hlike, haccepted⟩
    right
    refine ⟨?_, ?_, uniqueStrings paths, rfl, ?_⟩
    · intro entry hentry
      obtain ⟨record, hrecord, -, hpath⟩ := exists_recordV1 hentry
      rw [← hpath]
      exact (hrecords record hrecord).2
    · intro path hpath
      exact hrecords path (original_mem_recordsV1 hpath)
    · intro path
      have hmem := exists_mem_mapM hread fun read => read = path
      simp only [exists_eq_right] at hmem
      rw [mem_uniqueStrings, hmem, List.mem_map, List.mem_map]
      constructor
      · intro ⟨record, hrecord, hpath⟩
        obtain ⟨-, -, rfl⟩ := parsePorcelainRecord_eq_ok.mp hpath
        rcases mem_recordsV1 hrecord with ⟨entry, hentry, -, hdrop⟩ | horiginal
        · exact .inl ⟨entry, hentry, hdrop.symm⟩
        · exact .inr ⟨record, horiginal, rfl⟩
      · intro hsource
        rcases hsource with ⟨entry, hentry, rfl⟩ | ⟨original, horiginal, rfl⟩
        · obtain ⟨record, hrecord, -, hdrop⟩ := exists_recordV1 hentry
          obtain ⟨hlike, haccepted⟩ := hrecords record hrecord
          exact ⟨record, hrecord, parsePorcelainRecord_eq_ok.mpr ⟨hlike, haccepted, hdrop.symm⟩⟩
        · have hrecord := original_mem_recordsV1 horiginal
          obtain ⟨hlike, haccepted⟩ := hrecords original hrecord
          exact ⟨original, hrecord, parsePorcelainRecord_eq_ok.mpr ⟨hlike, haccepted, rfl⟩⟩

/-! ## Exactness -/

/-- The second version is read exactly, or not at all. -/
structure ExactV2 (entries : List StatusEntry) (result : PorcelainV2) : Prop where
  paths : ∀ path, path ∈ result.paths ↔ path ∈ entries.map StatusEntry.path
  modes : ∀ path modes, result.pathModes.get? path = some modes ↔
    ∃ entry ∈ entries, entry.path = path ∧ entry.fields.map StatusFields.modes = some modes
  index : (∃ entry ∈ entries, ∃ fields ∈ entry.fields, fields.index ≠ .unmodified) →
    result.indexChanged = true

/-- The first version is read as current and original paths, with every current path. -/
structure ExactV1 (entries : List StatusEntry) (paths : List Str) : Prop where
  current : ∀ entry ∈ entries, entry.path ∈ paths
  only : ∀ path ∈ paths, path ∈ entries.map StatusEntry.path ∨ path ∈ originals entries

/-- Both readers are exact or throw. -/
structure ReadExactly (entries : List StatusEntry) : Prop where
  v2 : ∀ result, parsePorcelainV2 (encodeV2 entries) = .ok result → ExactV2 entries result
  v1 : ∀ paths, parsePorcelainPaths (encodeV1 entries) = .ok paths → ExactV1 entries paths

omit [Runtime] in
/-- A path in normal form everywhere, and modes that a path has once. -/
structure Canonical (entries : List StatusEntry) : Prop where
  normal : ∀ entry ∈ entries, Js.normalize entry.path = entry.path
  modes : ∀ entry ∈ entries, ∀ other ∈ entries, entry.path = other.path →
    ∀ fields ∈ entry.fields, ∀ fields' ∈ other.fields, fields.modes = fields'.modes

omit [Runtime] in
lemma mem_modesPairs {entries : List StatusEntry} {path : Str} {modes : PathModes} :
    (path, modes) ∈ entries.filterMap StatusEntry.modesPair ↔
      ∃ entry ∈ entries, Js.normalize entry.path = path
        ∧ entry.fields.map StatusFields.modes = some modes := by
  rw [List.mem_filterMap]
  apply exists_congr
  intro entry
  apply and_congr_right
  intro _
  unfold StatusEntry.modesPair
  cases entry.fields with
  | none => simp
  | some fields => simp

lemma exactV2_iff {entries : List StatusEntry} {result : PorcelainV2}
    (haccepted : ∀ path ∈ allPaths entries, ¬RefusedV2 path)
    (hresult : parsePorcelainV2 (encodeV2 entries) = .ok result) :
    ExactV2 entries result ↔ Canonical entries := by
  rcases parsePorcelainV2_entries entries with ⟨⟨path, hpath, hrefused⟩, -⟩ | ⟨-, hread⟩
  · exact absurd hrefused (haccepted path hpath)
  rw [hresult] at hread
  obtain rfl := Except.ok.inj hread
  have hidempotent : ∀ entry ∈ entries,
      Js.normalize (Js.normalize entry.path) = Js.normalize entry.path := by
    intro entry hentry
    apply (parseStatusPath_of_not_refused (haccepted entry.path _)).2
    exact List.mem_flatMap.mpr ⟨entry, hentry, List.mem_cons_self⟩
  constructor
  · intro h
    refine ⟨?_, ?_⟩
    · intro entry hentry
      have hmem := (h.paths entry.path).mpr (List.mem_map_of_mem hentry)
      rw [mem_uniqueStrings] at hmem
      obtain ⟨other, hother, heq⟩ := List.mem_map.mp hmem
      rw [← heq]
      exact hidempotent other hother
    · intro entry hentry other hother hpath fields hfields fields' hfields'
      have hmodes := (h.modes entry.path fields.modes).mpr
        ⟨entry, hentry, rfl, by rw [Option.mem_def.mp hfields]; rfl⟩
      have hmodes' := (h.modes entry.path fields'.modes).mpr
        ⟨other, hother, hpath.symm, by rw [Option.mem_def.mp hfields']; rfl⟩
      rw [hmodes] at hmodes'
      exact Option.some.inj hmodes'
  · intro h
    have hmodes : ∀ path modes,
        (Map.empty.setAll (entries.filterMap StatusEntry.modesPair)).get? path = some modes →
          ∃ entry ∈ entries, entry.path = path
            ∧ entry.fields.map StatusFields.modes = some modes := by
      intro path modes hget
      rcases Map.mem_of_get?_setAll hget with hpair | hempty
      · obtain ⟨entry, hentry, hpath, hfields⟩ := mem_modesPairs.mp hpair
        rw [h.normal entry hentry] at hpath
        exact ⟨entry, hentry, hpath, hfields⟩
      · exact nomatch hempty
    refine ⟨?_, ?_, ?_⟩
    · intro path
      rw [mem_uniqueStrings, List.mem_map, List.mem_map]
      apply exists_congr
      intro entry
      apply and_congr_right
      intro hentry
      rw [h.normal entry hentry]
    · intro path modes
      refine ⟨hmodes path modes, ?_⟩
      rintro ⟨entry, hentry, rfl, hfields⟩
      have hkey : entry.path ∈ (entries.filterMap StatusEntry.modesPair).map Prod.fst :=
        List.mem_map_of_mem (mem_modesPairs.mpr ⟨entry, hentry, h.normal entry hentry, hfields⟩)
      obtain ⟨found, hfound⟩ := Option.isSome_iff_exists.mp
        (Map.get?_setAll_isSome (m := .empty) (.inl hkey))
      obtain ⟨other, hother, hpath, hfields'⟩ := hmodes _ _ hfound
      obtain ⟨fields, hsome, rfl⟩ := Option.map_eq_some_iff.mp hfields
      obtain ⟨fields', hsome', rfl⟩ := Option.map_eq_some_iff.mp hfields'
      have hsame := h.modes other hother entry hentry hpath fields' hsome' fields hsome
      rw [← hsame]
      exact hfound
    · rintro ⟨entry, hentry, fields, hfields, hindex⟩
      rw [List.any_eq_true]
      refine ⟨entry, hentry, ?_⟩
      cases entry with
      | untracked path => exact nomatch hfields
      | renamed fields score path original => rfl
      | ordinary own path =>
        obtain rfl := Option.some.inj hfields
        exact decide_eq_true hindex

/-- Exact when paths are in normal form and no original path of a rename, without its first three
units, is a path of its own; or where a path is refused. -/
theorem status_read_exactly_iff (entries : List StatusEntry) :
    ReadExactly entries ↔
      ((∃ path ∈ allPaths entries, RefusedV2 path) ∨ Canonical entries) ∧
      ((∃ entry ∈ entries, RefusedV1 entry.path) ∨
        (∃ path ∈ originals entries, ¬RecordLike path ∨ RefusedV1 (path.drop 3)) ∨
        ∀ path ∈ originals entries,
          path.drop 3 ∈ entries.map StatusEntry.path ∨ path.drop 3 ∈ originals entries) := by
  have hv2 : (∀ result, parsePorcelainV2 (encodeV2 entries) = .ok result →
      ExactV2 entries result) ↔
        (∃ path ∈ allPaths entries, RefusedV2 path) ∨ Canonical entries := by
    rcases parsePorcelainV2_entries entries with ⟨hrefused, hfails⟩ | ⟨haccepted, hread⟩
    · apply iff_of_true _ (.inl hrefused)
      intro result hresult
      rw [hresult] at hfails
      exact nomatch hfails
    · constructor
      · intro h
        exact .inr ((exactV2_iff haccepted hread).mp (h _ hread))
      · rintro (⟨path, hpath, hrefused⟩ | hcanonical) result hresult
        · exact absurd hrefused (haccepted path hpath)
        · exact (exactV2_iff haccepted hresult).mpr hcanonical
  have hv1 : (∀ paths, parsePorcelainPaths (encodeV1 entries) = .ok paths →
      ExactV1 entries paths) ↔
        (∃ entry ∈ entries, RefusedV1 entry.path) ∨
        (∃ path ∈ originals entries, ¬RecordLike path ∨ RefusedV1 (path.drop 3)) ∨
        ∀ path ∈ originals entries,
          path.drop 3 ∈ entries.map StatusEntry.path ∨ path.drop 3 ∈ originals entries := by
    rcases parsePorcelainPaths_entries entries with
      ⟨hrefused, hfails⟩ | ⟨hentries, horiginals, paths, hread, hpaths⟩
    · apply iff_of_true
      · intro paths hpaths
        rw [hpaths] at hfails
        exact nomatch hfails
      · exact hrefused.imp_right .inl
    · constructor
      · intro h
        refine .inr (.inr ?_)
        intro path hpath
        apply (h paths hread).only
        exact (hpaths _).mpr (.inr (List.mem_map_of_mem hpath))
      · rintro (⟨entry, hentry, hrefused⟩ | ⟨path, hpath, hrefused⟩ | hknown) paths' hread'
        · exact absurd hrefused (hentries entry hentry)
        · obtain ⟨hlike, haccepted⟩ := horiginals path hpath
          rcases hrefused with hunlike | hrefused
          · exact absurd hlike hunlike
          · exact absurd hrefused haccepted
        · rw [hread] at hread'
          obtain rfl := Except.ok.inj hread'
          refine ⟨fun entry hentry => (hpaths _).mpr (.inl (List.mem_map_of_mem hentry)), ?_⟩
          intro path hpath
          rcases (hpaths path).mp hpath with hcurrent | hdropped
          · exact .inl hcurrent
          · obtain ⟨original, horiginal, rfl⟩ := List.mem_map.mp hdropped
            exact hknown original horiginal
  rw [← hv2, ← hv1]
  exact ⟨fun h => ⟨h.v2, h.v1⟩, fun h => ⟨h.1, h.2⟩⟩

end

/-! ## On ASCII text -/

section

attribute [local instance] asciiRuntime

def plainField (text : Str) (hne : text ≠ []) (hspace : cu ' ' ∉ text) (hnul : nul ∉ text) : Field :=
  ⟨text, hne, hspace, hnul⟩

/-- A file that is renamed and not changed, with the rename staged. -/
def stagedRename (object : Field) (path original : StatusPath) : StatusEntry :=
  let mode := plainField "100644" (by decide) (by decide) (by decide)
  .renamed ⟨.renamed, .unmodified, plainField "N..." (by decide) (by decide) (by decide), mode, mode,
      mode, object, object⟩ (plainField "R100" (by decide) (by decide) (by decide)) path original

def renamedEntry : StatusEntry :=
  stagedRename (plainField "e69de29" (by decide) (by decide) (by decide))
    ⟨"new.txt", by decide, by decide⟩ ⟨"my notes.txt", by decide, by decide⟩

/-- The original path `my notes.txt` is read as a record of the path `notes.txt`. -/
theorem status_not_read_exactly :
    (parsePorcelainPaths (encodeV1 [renamedEntry])).toOption =
      some [js "new.txt", js "notes.txt"] ∧
    ¬ReadExactly [renamedEntry] := by
  have hread : (parsePorcelainPaths (encodeV1 [renamedEntry])).toOption =
      some [js "new.txt", js "notes.txt"] := by
    decide +kernel
  refine ⟨hread, ?_⟩
  intro hexact
  cases hpaths : parsePorcelainPaths (encodeV1 [renamedEntry]) with
  | error e =>
    rw [hpaths] at hread
    exact nomatch hread
  | ok paths =>
    rw [hpaths] at hread
    obtain rfl : paths = [js "new.txt", js "notes.txt"] := Option.some.inj hread
    have honly := (hexact.v1 _ hpaths).only (js "notes.txt") (by simp)
    revert honly
    decide +kernel

end

end CodexRouter.Status
