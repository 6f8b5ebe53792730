import CodexRouter.Js.Text

/-!
# POSIX paths

`posix.normalize` as a stack machine over the components of a path. A component is plain when
normalization keeps it; a path of plain components is a fixed point.
-/

namespace Js

def slash : CodeUnit := cu '/'

def dot : Str := [cu '.']

def dotDot : Str := [cu '.', cu '.']

/-- The components kept so far, innermost first; `above` admits leading `..`. -/
def resolveStep (above : Bool) (st : List Str) (c : Str) : List Str :=
  if c = [] ∨ c = dot then st
  else if c = dotDot then
    match st with
    | [] => if above then [dotDot] else []
    | t :: st' => if t = dotDot then dotDot :: t :: st' else st'
  else c :: st

def resolve (above : Bool) (parts : List Str) : List Str :=
  (parts.foldl (resolveStep above) []).reverse

/-- `posix.isAbsolute(path)`. -/
def isAbsolute (path : Str) : Bool := startsWith path [slash]

/-- `posix.normalize(path)`. -/
def normalize (path : Str) : Str :=
  if path = [] then dot
  else
    let absolute := isAbsolute path
    let trailing := endsWith path [slash]
    let body := join slash (resolve (!absolute) (split slash path))
    if body = [] then
      if absolute then [slash] else if trailing then dot ++ [slash] else dot
    else
      (if absolute then [slash] else []) ++ body ++ (if trailing then [slash] else [])

/-- A component that normalization keeps. -/
structure Plain (c : Str) : Prop where
  ne_nil : c ≠ []
  ne_dot : c ≠ dot
  ne_dotDot : c ≠ dotDot
  no_slash : slash ∉ c

instance (c : Str) : Decidable (Plain c) :=
  decidable_of_iff (c ≠ [] ∧ c ≠ dot ∧ c ≠ dotDot ∧ slash ∉ c)
    ⟨fun ⟨h₁, h₂, h₃, h₄⟩ => ⟨h₁, h₂, h₃, h₄⟩, fun ⟨h₁, h₂, h₃, h₄⟩ => ⟨h₁, h₂, h₃, h₄⟩⟩

/-! ## Joining and splitting -/

lemma join_append (c : CodeUnit) {l r : List Str} (hl : l ≠ []) (hr : r ≠ []) :
    join c (l ++ r) = join c l ++ c :: join c r := by
  induction l with
  | nil => exact absurd rfl hl
  | cons s l ih =>
    by_cases h : l = []
    · simp [h, join_cons c s hr]
    · rw [List.cons_append, join_cons c s (by simp [h]), ih h, join_cons c s h]
      simp

/-- A suffix without separators lies in the last component. -/
lemma join_snoc_eq_append {c : CodeUnit} {qs : List Str} {q u w : Str} (hw : c ∉ w)
    (h : join c (qs ++ [q]) = u ++ w) : ∃ t, q = t ++ w ∧ u = join c (qs ++ [t]) := by
  by_cases hqs : qs = []
  · subst hqs
    exact ⟨u, by simpa using h, by simp⟩
  · rw [join_append c hqs (by simp), join_singleton] at h
    obtain ⟨a, rfl, ha⟩ | ⟨a, -, rfl⟩ := List.append_eq_append_iff.mp h
    · cases a with
      | nil =>
        obtain rfl : w = c :: q := by simpa using ha.symm
        simp at hw
      | cons d t =>
        obtain ⟨rfl, rfl⟩ : c = d ∧ q = t ++ w := by simpa using ha
        exact ⟨t, rfl, by rw [join_append c hqs (by simp), join_singleton]⟩
    · simp at hw

lemma join_split (c : CodeUnit) (s : Str) : join c (split c s) = s :=
  List.intercalate_splitOn c

lemma split_join {c : CodeUnit} {parts : List Str} (hne : parts ≠ [])
    (h : ∀ s ∈ parts, c ∉ s) : split c (join c parts) = parts :=
  List.splitOn_intercalate c h hne

lemma split_ne_nil (c : CodeUnit) (s : Str) : split c s ≠ [] :=
  List.splitOn_ne_nil c s

lemma mem_join {c d : CodeUnit} {parts : List Str} (h : d ∈ join c parts) :
    d = c ∨ ∃ s ∈ parts, d ∈ s := by
  induction parts with
  | nil => simp at h
  | cons s parts ih =>
    by_cases hp : parts = []
    · subst hp
      exact Or.inr ⟨s, by simp, by simpa using h⟩
    · rw [join_cons c s hp, List.mem_append, List.mem_cons] at h
      obtain h | rfl | h := h
      · exact Or.inr ⟨s, by simp, h⟩
      · exact Or.inl rfl
      · obtain rfl | ⟨t, ht, hd⟩ := ih h
        · exact Or.inl rfl
        · exact Or.inr ⟨t, by simp [ht], hd⟩

lemma split_cons (c d : CodeUnit) (s : Str) :
    split c (d :: s) = if d = c then [] :: split c s
      else (split c s).modifyHead (d :: ·) := by
  simp [split, List.splitOn_cons_eq_if_modifyHead]

lemma not_mem_of_mem_split {c : CodeUnit} {s t : Str} (h : t ∈ split c s) : c ∉ t := by
  induction s generalizing t with
  | nil => simp_all [split]
  | cons d s ih =>
    obtain ⟨u, parts, hs⟩ := List.exists_cons_of_ne_nil (split_ne_nil c s)
    rw [split_cons, hs] at h
    rw [hs] at ih
    by_cases hd : d = c
    · simp only [hd, if_true, List.mem_cons] at h
      obtain rfl | h := h
      · simp
      · exact ih (by simpa using h)
    · simp only [hd, if_false, List.modifyHead_cons, List.mem_cons] at h
      obtain rfl | h := h
      · simpa [Ne.symm hd] using ih (List.mem_cons_self)
      · exact ih (by simp [h])

lemma endsWith_append (u : Str) {v : Str} (hv : v ≠ []) (c : CodeUnit) :
    endsWith (u ++ v) [c] = endsWith v [c] := by
  rw [Bool.eq_iff_iff, endsWith_iff, endsWith_iff]
  constructor
  · intro h
    refine List.suffix_of_suffix_length_le h (List.suffix_append u v) ?_
    simpa [Nat.one_le_iff_ne_zero] using hv
  · exact fun h => h.trans (List.suffix_append u v)

/-! ## Plain paths are fixed points -/

lemma resolveStep_plain {c : Str} (h : Plain c) (above : Bool) (st : List Str) :
    resolveStep above st c = c :: st := by
  simp [resolveStep, h.ne_nil, h.ne_dot, h.ne_dotDot]

lemma foldl_resolveStep_plain {parts : List Str} (h : ∀ c ∈ parts, Plain c) (above : Bool)
    (st : List Str) : parts.foldl (resolveStep above) st = parts.reverse ++ st := by
  induction parts generalizing st with
  | nil => rfl
  | cons c parts ih =>
    rw [List.foldl_cons, resolveStep_plain (h c (by simp)), ih fun d hd => h d (by simp [hd])]
    simp

lemma resolve_plain {parts : List Str} (h : ∀ c ∈ parts, Plain c) (above : Bool) :
    resolve above parts = parts := by
  simp [resolve, foldl_resolveStep_plain h]

lemma join_plain_ne_nil {parts : List Str} (hne : parts ≠ []) (h : ∀ c ∈ parts, Plain c) :
    join slash parts ≠ [] := by
  obtain ⟨c, parts, rfl⟩ := List.exists_cons_of_ne_nil hne
  have hc := (h c (by simp)).ne_nil
  by_cases hp : parts = []
  · simpa [hp] using hc
  · rw [join_cons _ _ hp]
    simp [hc]

lemma isAbsolute_join_plain {parts : List Str} (hne : parts ≠ []) (h : ∀ c ∈ parts, Plain c)
    (t : Str) : isAbsolute (join slash parts ++ t) = false := by
  obtain ⟨c, parts, rfl⟩ := List.exists_cons_of_ne_nil hne
  have hc := h c (by simp)
  obtain ⟨d, c, rfl⟩ := List.exists_cons_of_ne_nil hc.ne_nil
  have hd : slash ≠ d := fun e => hc.no_slash (by simp [e])
  by_cases hp : parts = []
  · simp [hp, isAbsolute, startsWith, List.isPrefixOf, hd]
  · rw [join_cons _ _ hp]
    simp [isAbsolute, startsWith, List.isPrefixOf, hd]

lemma endsWith_slash_join_plain {parts : List Str} (hne : parts ≠ [])
    (h : ∀ c ∈ parts, Plain c) : endsWith (join slash parts) [slash] = false := by
  induction parts with
  | nil => exact absurd rfl hne
  | cons c parts ih =>
    by_cases hp : parts = []
    · subst hp
      rw [join_singleton, endsWith_eq_false]
      exact fun hs => (h c (by simp)).no_slash (hs.subset (by simp))
    · have hr : ∀ d ∈ parts, Plain d := fun d hd => h d (by simp [hd])
      rw [join_cons _ _ hp, ← List.singleton_append, ← List.append_assoc,
        endsWith_append _ (join_plain_ne_nil hp hr), ih hp hr]

/-- A relative path with a component in it. -/
lemma normalize_relative {parts : List Str} (hs : split slash (join slash parts) = parts)
    (hne : join slash parts ≠ []) (habs : isAbsolute (join slash parts) = false) :
    normalize (join slash parts) =
      (if join slash (resolve true parts) = [] then dot else join slash (resolve true parts))
        ++ if endsWith (join slash parts) [slash] then [slash] else [] := by
  simp only [normalize, hne, hs, habs]
  by_cases hb : join slash (resolve true parts) = [] <;>
    by_cases he : endsWith (join slash parts) [slash] = true <;> simp [hb, he]

theorem normalize_join_plain {parts : List Str} (hne : parts ≠ [])
    (h : ∀ c ∈ parts, Plain c) : normalize (join slash parts) = join slash parts := by
  have hj := join_plain_ne_nil hne h
  rw [normalize_relative (split_join hne fun c hc => (h c hc).no_slash) hj
    (by simpa using isAbsolute_join_plain hne h []), resolve_plain h, if_neg hj,
    endsWith_slash_join_plain hne h]
  simp

/-! ## One more component after plain ones -/

lemma resolve_snoc {parts : List Str} (h : ∀ c ∈ parts, Plain c) (t : Str) :
    resolve true (parts ++ [t]) = (resolveStep true parts.reverse t).reverse := by
  simp [resolve, foldl_resolveStep_plain h]

/-- Whatever the last component is, normalization only drops components from the end. -/
theorem normalize_snoc {parts : List Str} (h : ∀ c ∈ parts, Plain c) {t : Str}
    (ht : slash ∉ t) (hne : join slash (parts ++ [t]) ≠ []) :
    normalize (join slash (parts ++ [t])) <+: join slash (parts ++ [t]) ∨
      normalize (join slash (parts ++ [t])) = dot ∨
      normalize (join slash (parts ++ [t])) = dotDot := by
  by_cases hplain : Plain t
  · have hall : ∀ c ∈ parts ++ [t], Plain c := by
      simpa [or_imp, forall_and] using ⟨h, hplain⟩
    have hn := normalize_join_plain (by simp) hall
    exact Or.inl (hn.symm ▸ List.prefix_rfl)
  obtain rfl | ⟨qs, q, rfl⟩ := List.eq_nil_or_concat' parts
  · have hd : t = [] ∨ t = dot ∨ t = dotDot := by
      by_contra hn
      simp only [not_or] at hn
      exact hplain ⟨hn.1, hn.2.1, hn.2.2, ht⟩
    obtain rfl | rfl | rfl := hd
    · simp at hne
    · exact Or.inr (Or.inl (by decide))
    · exact Or.inr (Or.inr (by decide))
  · have hj := join_append slash (l := qs ++ [q]) (r := [t]) (by simp) (by simp)
    rw [join_singleton] at hj
    have hs : ∀ c ∈ qs ++ [q] ++ [t], slash ∉ c := by
      intro c hc
      obtain hc | hc := List.mem_append.mp hc
      · exact (h c hc).no_slash
      · rwa [List.mem_singleton.mp hc]
    have hn := normalize_relative (split_join (by simp) hs) hne
      (by rw [hj]; exact isAbsolute_join_plain (by simp) h _)
    have hb := join_plain_ne_nil (by simp) h
    rw [resolve_snoc h] at hn
    by_cases hup : t = dotDot
    · subst hup
      have hq := h q (by simp)
      have hr : (resolveStep true (qs ++ [q]).reverse dotDot).reverse = qs := by
        simp [resolveStep, hq.ne_dotDot, show dotDot ≠ [] by decide, show dotDot ≠ dot by decide]
      rw [hr, hj, show join slash (qs ++ [q]) ++ slash :: dotDot
          = join slash (qs ++ [q]) ++ [slash] ++ dotDot by simp,
        endsWith_append _ (by decide), show endsWith dotDot [slash] = false by decide] at hn
      by_cases hqs : qs = []
      · exact Or.inr (Or.inl (by rw [hj]; simpa [hqs] using hn))
      · have hqb := join_plain_ne_nil hqs fun c hc => h c (by simp [hc])
        refine Or.inl ?_
        rw [hj, show join slash (qs ++ [q]) ++ slash :: dotDot
          = join slash (qs ++ [q]) ++ [slash] ++ dotDot by simp, hn, join_append _ hqs (by simp)]
        simp [hqb]
    · have hr : (resolveStep true (qs ++ [q]).reverse t).reverse = qs ++ [q] := by
        have ht' : t = [] ∨ t = dot := by
          by_contra hn
          simp only [not_or] at hn
          exact hplain ⟨hn.1, hn.2, hup, ht⟩
        simp [resolveStep, ht']
      refine Or.inl ?_
      rw [hn, hr, if_neg hb, hj]
      split
      · exact ⟨t, by simp⟩
      · exact ⟨slash :: t, by simp⟩

lemma mem_resolveStep {above : Bool} {st : List Str} {c d : Str} {parts : List Str}
    (h : c ∈ resolveStep above st d) :
    c ∈ st ∨ c ≠ [] ∧ c ≠ dot ∧ (c = dotDot ∨ c ∈ d :: parts) := by
  unfold resolveStep at h
  by_cases hskip : d = [] ∨ d = dot
  · rw [if_pos hskip] at h
    exact .inl h
  rw [if_neg hskip] at h
  by_cases hup : d = dotDot
  · rw [if_pos hup] at h
    cases st with
    | nil =>
      cases above with
      | false => exact nomatch h
      | true =>
        rw [List.mem_singleton.mp h]
        exact .inr ⟨by decide, by decide, .inl rfl⟩
    | cons t st =>
      dsimp only at h
      split_ifs at h
      · rcases List.mem_cons.mp h with rfl | h
        · exact .inr ⟨by decide, by decide, .inl rfl⟩
        · exact .inl h
      · exact .inl (List.mem_cons_of_mem t h)
  · rw [if_neg hup] at h
    rcases List.mem_cons.mp h with rfl | h
    · rw [not_or] at hskip
      exact .inr ⟨hskip.1, hskip.2, .inr List.mem_cons_self⟩
    · exact .inl h

lemma mem_resolve {above : Bool} {parts : List Str} {c : Str} (h : c ∈ resolve above parts) :
    c ≠ [] ∧ c ≠ dot ∧ (c = dotDot ∨ c ∈ parts) := by
  have hfold : ∀ st : List Str, c ∈ parts.foldl (resolveStep above) st →
      c ∈ st ∨ c ≠ [] ∧ c ≠ dot ∧ (c = dotDot ∨ c ∈ parts) := by
    clear h
    induction parts with
    | nil => exact fun st hst => .inl hst
    | cons d parts ih =>
      intro st hst
      rw [List.foldl_cons] at hst
      rcases ih _ hst with hmem | ⟨hne, hdot, hpart⟩
      · exact mem_resolveStep hmem
      · exact .inr ⟨hne, hdot, hpart.imp_right (List.mem_cons_of_mem d)⟩
  rw [resolve, List.mem_reverse] at h
  exact (hfold [] h).resolve_left List.not_mem_nil

end Js
