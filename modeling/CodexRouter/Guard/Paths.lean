import CodexRouter.Guard.Inspect

/-!
# Paths read from a diff

A path that is read has no line terminator and no backslash, and the path read from the header of a
target is no longer than the target.
-/

open Js CodexRouter.Kernel CodexRouter.Provider

namespace CodexRouter.Guard

/-- What no path that is read contains. -/
def isPathUnit (c : CodeUnit) : Bool := !isLineTerminator c && c ≠ cu '\\'

/-! ## Normalizing -/

lemma infix_stripQuotes (path : Str) : stripQuotes path <:+: path := by
  unfold stripQuotes
  dsimp only
  have hrest : (if path.head? = some (cu '"') then path.tail else path) <:+ path := by
    split_ifs
    · exact List.tail_suffix path
    · exact List.suffix_rfl
  generalize (if path.head? = some (cu '"') then path.tail else path) = rest at hrest ⊢
  split_ifs
  · exact (List.dropLast_prefix rest).isInfix.trans hrest.isInfix
  · exact hrest.isInfix

/-- A normalized path is a part of the path with its slashes turned. -/
lemma normalizeDiffPath_eq {path normalized : Str} (h : normalizeDiffPath path = some normalized) :
    ∃ part, part <:+: path ∧ normalized = toSlashes part := by
  unfold normalizeDiffPath at h
  dsimp only at h
  split_ifs at h
  · exact ⟨_, ((List.drop_suffix 2 _).isInfix).trans (infix_stripQuotes path),
      (Option.some.inj h).symm⟩
  · exact ⟨_, infix_stripQuotes path, (Option.some.inj h).symm⟩

lemma length_normalizeDiffPath {path normalized : Str}
    (h : normalizeDiffPath path = some normalized) : normalized.length ≤ path.length := by
  obtain ⟨part, hpart, rfl⟩ := normalizeDiffPath_eq h
  rw [length_toSlashes]
  exact hpart.length_le

/-- Where nothing is stripped only the slashes are turned. -/
lemma normalizeDiffPath_of_length {path normalized : Str}
    (h : normalizeDiffPath path = some normalized) (hlength : normalized.length = path.length) :
    normalized = toSlashes path := by
  obtain ⟨part, hpart, rfl⟩ := normalizeDiffPath_eq h
  rw [length_toSlashes] at hlength
  rw [hpart.eq_of_length hlength]

lemma isPathUnit_normalized {path normalized : Str} (h : normalizeDiffPath path = some normalized)
    (hpath : path.any isLineTerminator = false) : ∀ c ∈ normalized, isPathUnit c := by
  obtain ⟨part, hpart, rfl⟩ := normalizeDiffPath_eq h
  intro c hc
  obtain ⟨d, hd, rfl⟩ := List.mem_map.mp hc
  unfold isPathUnit
  split_ifs with hslash
  · decide
  · have hterminator := List.any_eq_false.mp hpath d (hpart.subset hd)
    simp [hterminator, hslash]

/-! ## Reading -/

lemma lastGroup_suffix {names group : Str} (h : lastGroup names = some group) :
    group <:+ names := by
  unfold lastGroup at h
  obtain ⟨t, ht, rfl⟩ := Option.map_eq_some_iff.mp h
  have hmem := List.mem_filter.mp (List.mem_of_getLast? ht)
  exact (List.drop_suffix 3 t).trans ((List.mem_tails _ _).mp hmem.1)

lemma readDiffGitPath_units {line path : Str} (h : readDiffGitPath line = some path) :
    ∀ c ∈ path, isPathUnit c := by
  unfold readDiffGitPath at h
  dsimp only at h
  split_ifs at h with _ hplain
  obtain ⟨group, hgroup, hpath⟩ := Option.bind_eq_some_iff.mp h
  apply isPathUnit_normalized hpath
  rw [Bool.not_eq_true, List.any_eq_false] at hplain
  rw [List.any_eq_false]
  intro c hc
  exact hplain c ((lastGroup_suffix hgroup).subset hc)

lemma readDiffHeaderPath_units {line path : Str} (h : readDiffHeaderPath line = some path) :
    ∀ c ∈ path, isPathUnit c := by
  unfold readDiffHeaderPath at h
  dsimp only at h
  split_ifs at h with _ hplain
  apply isPathUnit_normalized h
  rw [Bool.or_eq_true, not_or] at hplain
  exact Bool.eq_false_iff.mpr hplain.2

lemma diffPath_units {line path : Str} (h : diffPath line = some path) :
    ∀ c ∈ path, isPathUnit c := by
  unfold diffPath at h
  rcases Option.or_eq_some_iff.mp h with h | ⟨-, h⟩
  · exact readDiffGitPath_units h
  · exact readDiffHeaderPath_units h

/-- Every counted path was read, or is the one to begin with. -/
lemma countedPaths_units {current : Option Str} (hcurrent : ∀ path ∈ current, ∀ c ∈ path,
    isPathUnit c) (lines : List Str) : ∀ path ∈ countedPaths current lines, ∀ c ∈ path,
    isPathUnit c := by
  induction lines generalizing current with
  | nil => simp [countedPaths]
  | cons line lines ih =>
    rw [countedPaths]
    split
    · rename_i path hpath
      apply ih
      intro path' hpath'
      obtain rfl := Option.some.inj hpath'
      exact diffPath_units hpath
    · intro path hpath
      rcases List.mem_append.mp hpath with hpath | hpath
      · split_ifs at hpath
        · exact hcurrent path (Option.mem_toList.mp hpath)
        · exact absurd hpath List.not_mem_nil
      · exact ih hcurrent path hpath

/-! ## The headers of a target -/

/-- The tails of a text are ever shorter. -/
lemma pairwise_tails (s : Str) : s.tails.Pairwise fun t u => u.length < t.length := by
  induction s with
  | nil => simp
  | cons c s ih =>
    rw [List.tails_cons, List.pairwise_cons]
    refine ⟨?_, ih⟩
    intro t ht
    have hle := ((List.mem_tails _ _).mp ht).length_le
    rw [List.length_cons]
    omega

/-- The group is no longer than the target, and is the target when it is as long. -/
lemma lastGroup_names {path group : Str} (h : lastGroup (path ++ js " b/" ++ path) = some group) :
    group.length ≤ path.length ∧ (group.length = path.length → group = path) := by
  have hsuffix := lastGroup_suffix h
  have hshort : group.length ≤ path.length := by
    have hlength : (path ++ js " b/" ++ path).length = path.length + 3 + path.length := by
      rw [List.length_append, List.length_append]
      rfl
    unfold lastGroup at h
    obtain ⟨t, ht, rfl⟩ := Option.map_eq_some_iff.mp h
    obtain ⟨init, hinit⟩ := List.getLast?_eq_some_iff.mp ht
    have hpairwise := (pairwise_tails (path ++ js " b/" ++ path)).filter fun t =>
      startsWith t " b/" && 3 < t.length && t.length < (path ++ js " b/" ++ path).length
    rw [hinit, List.pairwise_append] at hpairwise
    have hbounds := (List.mem_filter.mp (List.mem_of_getLast? ht)).2
    rw [Bool.and_eq_true, Bool.and_eq_true, decide_eq_true_eq, decide_eq_true_eq, hlength]
      at hbounds
    -- The tail that begins with the second name is a candidate too.
    have hcandidate : js " b/" ++ path ∈ init ++ [t] := by
      rw [← hinit, List.mem_filter, List.mem_tails, Bool.and_eq_true, Bool.and_eq_true,
        decide_eq_true_eq, decide_eq_true_eq, hlength, startsWith_iff, List.length_append]
      refine ⟨?_, ⟨List.prefix_append _ path, ?_⟩, ?_⟩
      · rw [List.append_assoc]
        exact List.suffix_append path _
      · show 3 < 3 + path.length
        omega
      · show 3 + path.length < _
        omega
    have hcandidateLength : (js " b/" ++ path).length = 3 + path.length := List.length_append
    have hle : t.length ≤ 3 + path.length := by
      rcases List.mem_append.mp hcandidate with hmem | hmem
      · have hlt := hpairwise.2.2 _ hmem t (List.mem_singleton_self t)
        omega
      · rw [← List.mem_singleton.mp hmem, hcandidateLength]
    rw [List.length_drop]
    omega
  refine ⟨hshort, ?_⟩
  intro hlength
  exact (List.suffix_of_suffix_length_le hsuffix (List.suffix_append _ path) hshort).eq_of_length
    hlength

/-- The path read from the header of a target, where one is read. -/
def readPath (path : Str) (after : Option Str) : Option Str :=
  match after with
  | none => readDiffGitPath (gitLine path)
  | some _ => (readDiffHeaderPath (afterLine path)).or (readDiffGitPath (gitLine path))

lemma readDiffGitPath_gitLine {path read : Str} (h : readDiffGitPath (gitLine path) = some read) :
    read.length ≤ path.length ∧ (read.length = path.length → read = toSlashes path) := by
  unfold readDiffGitPath gitLine at h
  rw [List.append_assoc, List.append_assoc, startsWith_append_self, if_pos rfl] at h
  dsimp only at h
  rw [List.drop_left] at h
  split_ifs at h
  obtain ⟨group, hgroup, hread⟩ := Option.bind_eq_some_iff.mp h
  rw [← List.append_assoc] at hgroup
  obtain ⟨hshort, hsame⟩ := lastGroup_names hgroup
  have hle := length_normalizeDiffPath hread
  refine ⟨hle.trans hshort, ?_⟩
  intro hlength
  rw [← hsame (by omega)]
  exact normalizeDiffPath_of_length hread (by omega)

/-- Behind `b/` only a quote at the end is stripped. -/
lemma normalizeDiffPath_after {path read : Str} (h : normalizeDiffPath (js "b/" ++ path) = some read) :
    read.length ≤ path.length ∧ (read.length = path.length → read = toSlashes path) := by
  have hstrip : ∃ rest, stripQuotes (js "b/" ++ path) = js "b/" ++ rest ∧ rest <+: path := by
    unfold stripQuotes
    have hhead : (js "b/" ++ path).head? ≠ some (cu '"') := by
      show some (cu 'b') ≠ some (cu '"')
      decide
    rw [if_neg hhead]
    dsimp only
    split_ifs with hlast
    · cases path with
      | nil => exact absurd hlast (by decide)
      | cons c path =>
        exact ⟨_, List.dropLast_append_of_ne_nil (List.cons_ne_nil c path),
          List.dropLast_prefix _⟩
    · exact ⟨path, rfl, List.prefix_rfl⟩
  obtain ⟨rest, hrest, hpre⟩ := hstrip
  unfold normalizeDiffPath at h
  rw [hrest] at h
  dsimp only at h
  rw [startsWith_append_self, Bool.or_true, if_pos rfl] at h
  rw [show (js "b/" ++ rest).drop 2 = rest from rfl] at h
  split_ifs at h
  obtain rfl := Option.some.inj h
  rw [length_toSlashes]
  refine ⟨hpre.length_le, ?_⟩
  intro hlength
  rw [hpre.eq_of_length hlength]

lemma readDiffHeaderPath_afterLine {path read : Str}
    (h : readDiffHeaderPath (afterLine path) = some read) :
    read.length ≤ path.length ∧ (read.length = path.length → read = toSlashes path) := by
  have hline : afterLine path = js "+++ " ++ (js "b/" ++ path) := rfl
  unfold readDiffHeaderPath at h
  rw [hline, startsWith_append_self, if_pos rfl] at h
  dsimp only at h
  rw [List.drop_left] at h
  split_ifs at h
  exact normalizeDiffPath_after h

/-- The path that is read is no longer than the target, and as long only when it is the target. -/
lemma readPath_length {path read : Str} {after : Option Str} (h : readPath path after = some read) :
    read.length ≤ path.length ∧ (read.length = path.length → read = toSlashes path) := by
  cases after with
  | none => exact readDiffGitPath_gitLine h
  | some content =>
    rcases Option.or_eq_some_iff.mp h with h | ⟨-, h⟩
    · exact readDiffHeaderPath_afterLine h
    · exact readDiffGitPath_gitLine h

end CodexRouter.Guard
