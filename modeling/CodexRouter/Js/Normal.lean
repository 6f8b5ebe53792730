import CodexRouter.Js.Path

/-!
# Normal forms of paths

What normalization leaves of a relative path, and a path that is joined to a root.
-/

namespace Js

lemma toSlashes_toSlashes (s : Str) : toSlashes (toSlashes s) = toSlashes s := by
  unfold toSlashes
  rw [List.map_map]
  apply List.map_congr_left
  intro c _
  dsimp only [Function.comp_apply]
  split_ifs <;> rfl

/-- A slash at the end is kept. -/
lemma normalize_join_plain_slash {parts : List Str} (hne : parts ≠ [])
    (h : ∀ c ∈ parts, Plain c) :
    normalize (join slash parts ++ [slash]) = join slash parts ++ [slash] := by
  have hj := join_plain_ne_nil hne h
  have hjoin : join slash parts ++ [slash] = join slash (parts ++ [[]]) := by
    rw [join_append slash hne (by simp), join_singleton]
  have hresolve : resolve true (parts ++ [[]]) = parts := by
    rw [resolve_snoc h]
    simp [resolveStep]
  have hsplit : ∀ c ∈ parts ++ [[]], slash ∉ c := by
    intro c hc
    rcases List.mem_append.mp hc with hc | hc
    · exact (h c hc).no_slash
    · simp [List.mem_singleton.mp hc]
  have hends : endsWith (join slash parts ++ [slash]) [slash] = true := by simp
  have hnormal := normalize_relative (split_join (by simp) hsplit)
    (by rw [← hjoin]; simp) (by rw [← hjoin]; exact isAbsolute_join_plain hne h [slash])
  rw [hresolve, if_neg hj, ← hjoin, hends, if_pos rfl] at hnormal
  exact hnormal

/-- The components of a joined path, and of one with a slash at its end. -/
lemma split_join_slash {parts : List Str} (hne : parts ≠ []) (h : ∀ c ∈ parts, slash ∉ c) :
    split slash (join slash parts ++ [slash]) = parts ++ [[]] := by
  have hjoin : join slash parts ++ [slash] = join slash (parts ++ [[]]) := by
    rw [join_append slash hne (by simp), join_singleton]
  rw [hjoin, split_join (by simp)]
  intro c hc
  rcases List.mem_append.mp hc with hc | hc
  · exact h c hc
  · rw [List.mem_singleton.mp hc]
    exact List.not_mem_nil

/-- A slash between two texts parts their components. -/
lemma split_append_slash (s t : Str) :
    split slash (s ++ slash :: t) = split slash s ++ split slash t := by
  have hjoin : s ++ slash :: t = join slash (split slash s ++ split slash t) := by
    rw [join_append slash (split_ne_nil _ _) (split_ne_nil _ _), join_split, join_split]
  rw [hjoin]
  apply split_join
  · exact List.append_ne_nil_of_left_ne_nil (split_ne_nil _ _) _
  · intro part hpart
    rcases List.mem_append.mp hpart with hpart | hpart
    · exact not_mem_of_mem_split hpart
    · exact not_mem_of_mem_split hpart

/-- Without dot segments the normal form of a relative path is a sequence of plain components,
which keeps a slash at its end. -/
theorem exists_plain_of_normalize {path : Str} (hne : path ≠ []) (hrelative : isAbsolute path = false)
    (hdots : ∀ part ∈ split slash (normalize path), part ≠ dot ∧ part ≠ dotDot) :
    ∃ parts, parts ≠ [] ∧ (∀ c ∈ parts, Plain c) ∧
      (normalize path = join slash parts ∨ normalize path = join slash parts ++ [slash]) := by
  have hbody : ∀ part ∈ resolve true (split slash path), part ≠ [] ∧ part ≠ dot ∧
      slash ∉ part := by
    intro part hpart
    obtain ⟨hpartNe, hdot, hmem⟩ := mem_resolve hpart
    refine ⟨hpartNe, hdot, ?_⟩
    rcases hmem with rfl | hmem
    · decide
    · exact not_mem_of_mem_split hmem
  have hnormal : normalize path =
      (if join slash (resolve true (split slash path)) = [] then dot
        else join slash (resolve true (split slash path)))
      ++ if endsWith path [slash] then [slash] else [] := by
    have hspec := @normalize_relative (split slash path) (by rw [join_split])
      (by rw [join_split]; exact hne) (by rw [join_split]; exact hrelative)
    rw [join_split] at hspec
    exact hspec
  by_cases hempty : resolve true (split slash path) = []
  · -- Only a dot would be left.
    have hdot : dot ∈ split slash (normalize path) := by
      rw [hnormal, hempty, join_nil, if_pos rfl]
      split_ifs
      · decide
      · decide
    exact absurd rfl (hdots dot hdot).1
  · have hslash : ∀ part ∈ resolve true (split slash path), slash ∉ part :=
      fun part hpart => (hbody part hpart).2.2
    have hjoin : join slash (resolve true (split slash path)) ≠ [] := by
      obtain ⟨part, parts, hcons⟩ := List.exists_cons_of_ne_nil hempty
      have hpart := (hbody part (by rw [hcons]; exact List.mem_cons_self)).1
      rw [hcons]
      by_cases hlast : parts = []
      · rw [hlast, join_singleton]
        exact hpart
      · rw [join_cons _ _ hlast]
        simp
    rw [if_neg hjoin] at hnormal
    refine ⟨_, hempty, ?_, ?_⟩
    · intro part hpart
      have hin : part ∈ split slash (normalize path) := by
        rw [hnormal]
        split_ifs
        · rw [split_join_slash hempty hslash]
          exact List.mem_append_left _ hpart
        · rw [List.append_nil, split_join hempty hslash]
          exact hpart
      exact ⟨(hbody part hpart).1, (hbody part hpart).2.1, (hdots part hin).2,
        (hbody part hpart).2.2⟩
    · rw [hnormal]
      split_ifs
      · exact Or.inr rfl
      · rw [List.append_nil]
        exact Or.inl rfl

lemma mem_of_mem_split {s part : Str} {c : CodeUnit} (hpart : part ∈ split slash s) (h : c ∈ part) :
    c ∈ s := by
  have hjoin : ∀ parts : List Str, part ∈ parts → c ∈ join slash parts := by
    intro parts hin
    induction parts with
    | nil => exact absurd hin List.not_mem_nil
    | cons first rest ih =>
      by_cases hrest : rest = []
      · rw [hrest, List.mem_singleton] at hin
        rw [hrest, join_singleton, ← hin]
        exact h
      · rw [join_cons _ _ hrest, List.mem_append]
        rcases List.mem_cons.mp hin with rfl | hin
        · exact Or.inl h
        · exact Or.inr (List.mem_cons_of_mem _ (ih hin))
  have hmem := hjoin _ hpart
  rwa [join_split] at hmem

/-- Normalization brings no unit into a path but dots and slashes. -/
lemma mem_normalize {s : Str} : ∀ c ∈ normalize s, c ∈ s ∨ c = cu '.' ∨ c = slash := by
  have hbody : ∀ above, ∀ c ∈ join slash (resolve above (split slash s)),
      c ∈ s ∨ c = cu '.' ∨ c = slash := by
    intro above c hmem
    rcases mem_join hmem with rfl | ⟨part, hpart, hc⟩
    · exact Or.inr (Or.inr rfl)
    · rcases (mem_resolve hpart).2.2 with rfl | hin
      · right
        left
        simpa [dotDot] using hc
      · exact Or.inl (mem_of_mem_split hin hc)
  have hslash : ∀ c ∈ [slash], c ∈ s ∨ c = cu '.' ∨ c = slash :=
    fun c hc => Or.inr (Or.inr (List.mem_singleton.mp hc))
  have hdot : ∀ c ∈ dot, c ∈ s ∨ c = cu '.' ∨ c = slash :=
    fun c hc => Or.inr (Or.inl (List.mem_singleton.mp hc))
  have hnil := List.forall_mem_nil fun c : CodeUnit => c ∈ s ∨ c = cu '.' ∨ c = slash
  unfold normalize
  dsimp only
  split_ifs
  · exact hdot
  · exact hslash
  · exact List.forall_mem_append.mpr ⟨hdot, hslash⟩
  · exact hdot
  · simp only [List.forall_mem_append]
    exact ⟨⟨hslash, hbody _⟩, hslash⟩
  · simp only [List.forall_mem_append]
    exact ⟨⟨hslash, hbody _⟩, hnil⟩
  · simp only [List.forall_mem_append]
    exact ⟨⟨hnil, hbody _⟩, hslash⟩
  · simp only [List.forall_mem_append]
    exact ⟨⟨hnil, hbody _⟩, hnil⟩

/-! ## Below a root -/

lemma foldl_resolveStep_filter {parts : List Str} (h : ∀ c ∈ parts, c = [] ∨ Plain c) (above : Bool)
    (st : List Str) :
    parts.foldl (resolveStep above) st = (parts.filter (· ≠ [])).reverse ++ st := by
  induction parts generalizing st with
  | nil => rfl
  | cons c parts ih =>
    obtain ⟨hc, hrest⟩ := List.forall_mem_cons.mp h
    rw [List.foldl_cons, ih hrest]
    rcases hc with rfl | hc
    · rw [List.filter_cons_of_neg (by simp)]
      rfl
    · rw [List.filter_cons_of_pos (by simpa using hc.ne_nil), resolveStep_plain hc,
        List.reverse_cons, List.append_assoc]
      rfl

/-- Of an absolute path, empty components are dropped and plain ones are kept. -/
lemma normalize_absolute {init : List Str} {last : Str} (h : ∀ c ∈ init, c = [] ∨ Plain c)
    (hlast : Plain last) :
    normalize (slash :: join slash (init ++ [last])) =
      slash :: join slash (init.filter (· ≠ []) ++ [last]) := by
  have hslash : ∀ c ∈ init ++ [last], slash ∉ c := by
    intro c hc
    rcases List.mem_append.mp hc with hc | hc
    · rcases h c hc with rfl | hplain
      · exact List.not_mem_nil
      · exact hplain.no_slash
    · rw [List.mem_singleton.mp hc]
      exact hlast.no_slash
  have hall : ∀ c ∈ [] :: (init ++ [last]), c = [] ∨ Plain c := by
    rw [List.forall_mem_cons, List.forall_mem_append, List.forall_mem_singleton]
    exact ⟨Or.inl rfl, h, Or.inr hlast⟩
  have hsplit : split slash (slash :: join slash (init ++ [last])) = [] :: (init ++ [last]) := by
    rw [split_cons, if_pos rfl, split_join (by simp) hslash]
  have hresolve : resolve false ([] :: (init ++ [last])) = init.filter (· ≠ []) ++ [last] := by
    unfold resolve
    rw [foldl_resolveStep_filter hall, List.append_nil, List.reverse_reverse,
      List.filter_cons_of_neg (by simp), List.filter_append,
      List.filter_cons_of_pos (by simpa using hlast.ne_nil)]
    rfl
  have hplain : ∀ c ∈ init.filter (· ≠ []) ++ [last], Plain c := by
    rw [List.forall_mem_append, List.forall_mem_singleton]
    refine ⟨?_, hlast⟩
    intro c hc
    obtain ⟨hin, hne⟩ := List.mem_filter.mp hc
    exact (h c hin).resolve_left (by simpa using hne)
  have hends : endsWith (slash :: join slash (init ++ [last])) [slash] = false := by
    have hlastEnds : endsWith last [slash] = false := by
      rw [endsWith_eq_false]
      exact fun hsuffix => hlast.no_slash (hsuffix.subset (by simp))
    by_cases hinit : init = []
    · rw [hinit, List.nil_append, join_singleton, ← List.singleton_append,
        endsWith_append _ hlast.ne_nil, hlastEnds]
    · rw [join_append slash hinit (List.cons_ne_nil _ _), join_singleton,
        show slash :: (join slash init ++ slash :: last) = (slash :: join slash init ++ [slash])
          ++ last by simp, endsWith_append _ hlast.ne_nil, hlastEnds]
  have habsolute : isAbsolute (slash :: join slash (init ++ [last])) = true := by
    unfold isAbsolute
    rw [startsWith_iff]
    exact List.prefix_append [slash] _
  unfold normalize
  rw [if_neg (List.cons_ne_nil _ _)]
  simp only [habsolute, Bool.not_true, hsplit, hresolve, hends]
  rw [if_neg (join_plain_ne_nil (by simp) hplain)]
  simp

/-- What is joined to a root lies below the root. -/
theorem normalize_below {root parts : List Str} (hroot : ∀ c ∈ root, Plain c) (hne : parts ≠ [])
    (h : ∀ c ∈ parts, Plain c) :
    normalize ((slash :: join slash root) ++ slash :: join slash parts) =
      slash :: join slash (root ++ parts) := by
  obtain ⟨init, last, rfl⟩ : ∃ init last, parts = init ++ [last] :=
    ⟨_, _, (List.dropLast_append_getLast hne).symm⟩
  have hinit : ∀ c ∈ init, Plain c := fun c hc => h c (List.mem_append_left _ hc)
  have hlast : Plain last := h last (by simp)
  have hfilter : ∀ l : List Str, (∀ c ∈ l, Plain c) → l.filter (· ≠ []) = l := by
    intro l hl
    rw [List.filter_eq_self]
    exact fun c hc => decide_eq_true (hl c hc).ne_nil
  by_cases hnil : root = []
  · have hpath : (slash :: join slash root) ++ slash :: join slash (init ++ [last]) =
        slash :: join slash (([] :: init) ++ [last]) := by
      rw [hnil]
      show slash :: slash :: join slash (init ++ [last]) = slash :: join slash ([] :: (init ++ [last]))
      rw [join_cons _ _ (by simp)]
      rfl
    rw [hpath, normalize_absolute _ hlast, List.filter_cons_of_neg (by simp), hfilter init hinit,
      hnil, List.nil_append]
    rw [List.forall_mem_cons]
    exact ⟨Or.inl rfl, fun c hc => Or.inr (hinit c hc)⟩
  · have hpath : (slash :: join slash root) ++ slash :: join slash (init ++ [last]) =
        slash :: join slash ((root ++ init) ++ [last]) := by
      rw [List.append_assoc, join_append slash hnil (by simp)]
      rfl
    have hboth : ∀ c ∈ root ++ init, Plain c := List.forall_mem_append.mpr ⟨hroot, hinit⟩
    rw [hpath, normalize_absolute (fun c hc => Or.inr (hboth c hc)) hlast, hfilter _ hboth,
      List.append_assoc]

end Js
