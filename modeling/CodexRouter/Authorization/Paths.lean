import CodexRouter.Js.Path
import CodexRouter.Js.Json
import CodexRouter.Js.Runtime

/-!
# Governed paths

The path guard of authorization-kernel. A safe path is a sequence of plain components.
-/

open Js

namespace CodexRouter.Authorization

variable [Runtime]

def normalizeGovernedPath (path : Str) : Str := normalize (toSlashes path)

/-- A high surrogate in last place is not reported: the comparisons with `NaN` are false. -/
def hasUnpairedUtf16Surrogate : Str → Bool
  | [] => false
  | [c] => Json.isLowSurrogate c
  | c :: d :: rest =>
    if Json.isHighSurrogate c then
      if Json.isLowSurrogate d then hasUnpairedUtf16Surrogate rest else true
    else if Json.isLowSurrogate c then true
    else hasUnpairedUtf16Surrogate (d :: rest)

/-- `UNSAFE_GOVERNED_PATH_CHARACTERS`. -/
def isUnsafeCharacter (c : CodeUnit) : Bool :=
  c.val < 0x20 || c.val == 0x7f || (js "<>:\"|?*[]").contains c

def windowsReservedNames : List Str :=
  [js "con", js "prn", js "aux", js "nul"]
    ++ (js "123456789").map (fun d => js "com" ++ [d])
    ++ (js "123456789").map (fun d => js "lpt" ++ [d])

def isLineTerminator (c : CodeUnit) : Bool :=
  c == 10 || c == 13 || c == 0x2028 || c == 0x2029

/-- `WINDOWS_RESERVED_NAMES.test(part)`. -/
def isWindowsReserved (part : Str) : Bool :=
  windowsReservedNames.any fun name =>
    (part.take name.length).map asciiLower = name
      && match part.drop name.length with
        | [] => true
        | c :: rest => c = cu '.' && rest.all fun d => !isLineTerminator d

def isAsciiLetter (c : CodeUnit) : Bool :=
  (0x41 ≤ c.val && c.val ≤ 0x5a) || (0x61 ≤ c.val && c.val ≤ 0x7a)

/-- `/^[a-zA-Z]:/.test(input)`. -/
def hasDrivePrefix : Str → Bool
  | c :: d :: _ => isAsciiLetter c && d = cu ':'
  | _ => false

def isSafeGovernedPath (input : Str) : Bool :=
  if Runtime.nfc input ≠ input || hasUnpairedUtf16Surrogate input then false
  else
    let slashPath := toSlashes input
    let normalized := normalize slashPath
    let parts := split slash normalized
    !(input = []
      || normalized = dot
      || normalized = dotDot
      || startsWith normalized (dotDot ++ [slash])
      || isAbsolute normalized
      || isAbsolute input
      || hasDrivePrefix input
      || startsWith slashPath [slash, slash]
      || normalized ≠ slashPath
      || cu '\x00' ∈ input
      || cu '\n' ∈ input
      || cu '\r' ∈ input
      || parts.any (fun part => part = [] || part = dot || part = dotDot)
      || parts.any (fun part => Runtime.toLowerCase part = js ".git")
      || parts.any (fun part => part.any isUnsafeCharacter)
      || parts.any (fun part => endsWith part "." || endsWith part " ")
      || parts.any isWindowsReserved)

def sensitivePathComponents : List Str :=
  [js ".git", js ".env", js ".netrc", js ".npmrc", js ".pypirc", js ".ssh", js ".codex-home",
    js ".omc", js "config.env", js "auth.json", js "config.json", js "state-private",
    js "secret", js "secrets", js "credential", js "credentials", js "id_dsa", js "id_ecdsa",
    js "id_ed25519", js "id_rsa"]

def isSensitiveGovernedPath (path : Str) : Bool :=
  let components := split slash (Runtime.toLowerCase (normalizeGovernedPath path))
  components.any fun component =>
    component ∈ sensitivePathComponents
      || startsWith component ".env."
      || endsWith component ".pem"
      || endsWith component ".key"
      || endsWith component ".p12"
      || endsWith component ".pfx"
      || includes component "token"
      || includes component "cookie"

/-! ## The components of a safe path -/

/-- What the guard asks of a component. -/
structure SafePart (part : Str) : Prop extends Plain part where
  not_git : Runtime.toLowerCase part ≠ js ".git"
  units : ∀ c ∈ part, isUnsafeCharacter c = false
  no_dot : ¬ js "." <:+ part
  no_space : ¬ js " " <:+ part
  not_reserved : isWindowsReserved part = false

/-- The components of a path whose separators were made uniform. -/
structure SafeParts (path : Str) (parts : List Str) : Prop where
  nfc : Runtime.nfc path = path
  paired : hasUnpairedUtf16Surrogate path = false
  ne_nil : parts ≠ []
  eq_join : toSlashes path = join slash parts
  safe : ∀ part ∈ parts, SafePart part

omit [Runtime] in
lemma mem_toSlashes {s : Str} {c : CodeUnit} (h : c ≠ cu '\\') (hc : c ∈ s) :
    c ∈ toSlashes s := by
  refine List.mem_map.mpr ⟨c, hc, ?_⟩
  simp [h]

lemma SafeParts.normalize_eq {path : Str} {parts : List Str} (h : SafeParts path parts) :
    normalize (toSlashes path) = toSlashes path := by
  rw [h.eq_join, normalize_join_plain h.ne_nil fun c hc => (h.safe c hc).toPlain]

lemma SafeParts.split_eq {path : Str} {parts : List Str} (h : SafeParts path parts) :
    split slash (toSlashes path) = parts := by
  rw [h.eq_join, split_join h.ne_nil fun c hc => (h.safe c hc).no_slash]

/-- A unit the guard refuses occurs nowhere in the path. -/
lemma SafeParts.not_mem {path : Str} {parts : List Str} (h : SafeParts path parts)
    {c : CodeUnit} (hc : isUnsafeCharacter c = true) (hb : c ≠ cu '\\') (hs : c ≠ slash) :
    c ∉ path := by
  intro hm
  have hj : c ∈ join slash parts := h.eq_join ▸ mem_toSlashes hb hm
  obtain rfl | ⟨part, hp, hcp⟩ := mem_join hj
  · exact hs rfl
  · simp [(h.safe part hp).units c hcp] at hc

lemma SafeParts.not_isAbsolute {path : Str} {parts : List Str} (h : SafeParts path parts) :
    isAbsolute (toSlashes path) = false := by
  rw [h.eq_join]
  simpa using isAbsolute_join_plain h.ne_nil (fun c hc => (h.safe c hc).toPlain) []

lemma SafeParts.ne_component {path : Str} {parts : List Str} (h : SafeParts path parts)
    {c : Str} (hc : ¬ Plain c) (hs : slash ∉ c) : toSlashes path ≠ c := by
  intro he
  have hm := h.split_eq
  rw [he, ← join_singleton slash c, split_join (by simp) (by simpa using hs)] at hm
  exact hc (h.safe c (by simp [← hm])).toPlain

lemma SafeParts.not_above {path : Str} {parts : List Str} (h : SafeParts path parts) :
    startsWith (toSlashes path) (dotDot ++ [slash]) = false := by
  rw [startsWith_eq_false]
  rintro ⟨t, ht⟩
  have hm := h.split_eq
  rw [← ht, List.append_assoc, List.singleton_append, split,
    List.splitOn_append_cons_self_of_not_mem (by decide)] at hm
  exact (h.safe dotDot (by simp [← hm])).ne_dotDot rfl

lemma SafeParts.not_double {path : Str} {parts : List Str} (h : SafeParts path parts) :
    startsWith (toSlashes path) [slash, slash] = false := by
  have habs := h.not_isAbsolute
  rw [isAbsolute, startsWith_eq_false] at habs
  rw [startsWith_eq_false]
  exact fun hp => habs (List.IsPrefix.trans ⟨[slash], rfl⟩ hp)

lemma SafeParts.relative {path : Str} {parts : List Str} (h : SafeParts path parts) :
    isAbsolute path = false := by
  have habs := h.not_isAbsolute
  cases path with
  | nil => rfl
  | cons c path =>
    by_cases hc : slash = c
    · subst hc
      simp [isAbsolute, startsWith, toSlashes, slash, List.isPrefixOf] at habs
    · simp [isAbsolute, startsWith, List.isPrefixOf, hc]

lemma SafeParts.no_drive {path : Str} {parts : List Str} (h : SafeParts path parts) :
    hasDrivePrefix path = false := by
  have hm := h.not_mem (c := cu ':') (by decide) (by decide) (by decide)
  match path, hm with
  | [], _ | [_], _ => rfl
  | c :: d :: _, hm =>
    have hd : d ≠ cu ':' := by rintro rfl; simp at hm
    simp [hasDrivePrefix, hd]

lemma SafeParts.path_ne_nil {path : Str} {parts : List Str} (h : SafeParts path parts) :
    path ≠ [] := by
  rintro rfl
  exact join_plain_ne_nil h.ne_nil (fun c hc => (h.safe c hc).toPlain) h.eq_join.symm

theorem isSafeGovernedPath_iff {path : Str} :
    isSafeGovernedPath path = true ↔ ∃ parts, SafeParts path parts := by
  constructor
  · intro h
    rw [isSafeGovernedPath] at h
    split at h
    · simp at h
    · rename_i hn
      simp only [Bool.or_eq_true, decide_eq_true_eq, not_or, not_not, Bool.not_eq_true] at hn
      simp only [Bool.not_eq_true', Bool.or_eq_false_iff, decide_eq_false_iff_not, not_not,
        List.any_eq_false, Bool.not_eq_true, and_assoc] at h
      obtain ⟨-, -, -, -, -, -, -, -, heq, -, -, -, hplain, hgit, hunits, hend, hres⟩ := h
      rw [heq] at hplain hgit hunits hend hres
      refine ⟨split slash (toSlashes path), hn.1, hn.2, split_ne_nil _ _, (join_split _ _).symm,
        fun part hp => ?_⟩
      obtain ⟨hnil, hdot, hdotDot⟩ := hplain part hp
      exact ⟨⟨hnil, hdot, hdotDot, not_mem_of_mem_split hp⟩, hgit part hp, hunits part hp,
        by simpa using (hend part hp).1, by simpa using (hend part hp).2, hres part hp⟩
  · rintro ⟨parts, h⟩
    have h0 := h.not_mem (c := cu '\x00') (by decide) (by decide) (by decide)
    have hn := h.not_mem (c := cu '\n') (by decide) (by decide) (by decide)
    have hr := h.not_mem (c := cu '\r') (by decide) (by decide) (by decide)
    have hdot := h.ne_component (c := dot) (fun hp => hp.ne_dot rfl) (by decide)
    have hdotDot := h.ne_component (c := dotDot) (fun hp => hp.ne_dotDot rfl) (by decide)
    rw [isSafeGovernedPath, if_neg (by simp [h.nfc, h.paired])]
    simp only [h.normalize_eq, h.split_eq, h.path_ne_nil, hdot, hdotDot, h.not_above,
      h.not_isAbsolute, h.relative, h.no_drive, h.not_double, h0, hn, hr]
    simp only [ne_eq, not_true_eq_false, decide_false, Bool.or_false, Bool.false_or,
      Bool.not_eq_true', Bool.or_eq_false_iff, List.any_eq_false, decide_eq_true_eq,
      Bool.or_eq_true, Bool.not_eq_true, endsWith_iff, not_or]
    exact ⟨⟨⟨⟨fun c hc => ⟨⟨(h.safe c hc).ne_nil, (h.safe c hc).ne_dot⟩, (h.safe c hc).ne_dotDot⟩,
      fun c hc => (h.safe c hc).not_git⟩, fun c hc => (h.safe c hc).units⟩,
      fun c hc => ⟨(h.safe c hc).no_dot, (h.safe c hc).no_space⟩⟩,
      fun c hc => (h.safe c hc).not_reserved⟩

/-! ## Longer safe paths -/

omit [Runtime] in
/-- Past a unit that is no surrogate, the guard looks at the rest alone. -/
lemma paired_extend {c c' : CodeUnit} {t t' : Str}
    (hc : Json.isHighSurrogate c = false ∧ Json.isLowSurrogate c = false)
    (hc' : Json.isHighSurrogate c' = false ∧ Json.isLowSurrogate c' = false)
    (ht' : hasUnpairedUtf16Surrogate t' = false) :
    ∀ u : Str, hasUnpairedUtf16Surrogate (u ++ c :: t) = false →
      hasUnpairedUtf16Surrogate (u ++ c' :: t') = false
  | [], _ => by cases t' <;> simp_all [hasUnpairedUtf16Surrogate]
  | [x], h => by
    have ih := paired_extend (t := t) hc hc' ht' []
    simp only [List.cons_append, List.nil_append, hasUnpairedUtf16Surrogate, hc.2, hc'.2] at h ⊢
    split at h
    · simp at h
    · split at h <;> simp_all
  | x :: y :: u, h => by
    have ih := paired_extend (t := t) hc hc' ht' u
    have ih' := paired_extend (t := t) hc hc' ht' (y :: u)
    simp only [List.cons_append, hasUnpairedUtf16Surrogate] at h ⊢
    split at h
    · split at h <;> simp_all
    · split at h <;> simp_all

def letters (n : ℕ) : Str := List.replicate n (cu 'a')

omit [Runtime] in
lemma toSlashes_letters (n : ℕ) : toSlashes (letters n) = letters n := by
  rw [letters, toSlashes, List.map_replicate]
  rfl

omit [Runtime] in
lemma paired_letters (n : ℕ) : hasUnpairedUtf16Surrogate (letters n) = false := by
  induction n with
  | zero => rfl
  | succ n ih =>
    have ha : Json.isHighSurrogate (cu 'a') = false ∧ Json.isLowSurrogate (cu 'a') = false := by
      decide
    exact paired_extend (t := []) ha ha ih [] (by decide)

omit [Runtime] in
lemma not_reserved_letters {n : ℕ} (hn : 5 ≤ n) : isWindowsReserved (letters n) = false := by
  rw [isWindowsReserved, List.any_eq_false]
  intro name hname
  have hlen : ∀ name ∈ windowsReservedNames,
      name.length ≤ 5 ∧ name ≠ List.replicate name.length (cu 'a') := by decide
  have htake : (letters n).take name.length = List.replicate name.length (cu 'a') := by
    simp [letters, List.take_replicate, (hlen name hname).1.trans hn]
  have hlow : (List.replicate name.length (cu 'a')).map asciiLower
      = List.replicate name.length (cu 'a') := by
    rw [List.map_replicate]
    rfl
  simp [htake, hlow, Ne.symm (hlen name hname).2]

lemma safePart_letters (hrt : Runtime.AsciiStable) {n : ℕ} (hn : 5 ≤ n) :
    SafePart (letters n) := by
  have hmem : ∀ c ∈ letters n, c = cu 'a' := fun c hc => List.eq_of_mem_replicate hc
  have hlen : (letters n).length = n := List.length_replicate
  have hne : ∀ s : Str, s.length < 5 → letters n ≠ s := by
    rintro s hs rfl
    omega
  have hsuf : ∀ c, c ≠ cu 'a' → ¬ [c] <:+ letters n :=
    fun c hc hs => hc (hmem c (hs.subset (by simp)))
  refine ⟨⟨hne _ (by decide), hne _ (by decide), hne _ (by decide), ?_⟩, ?_, ?_, ?_, ?_, ?_⟩
  · exact fun hs => absurd (hmem _ hs) (by decide)
  · rw [hrt.toLowerCase_lower _ fun c hc => by rw [hmem c hc]; decide]
    exact hne _ (by decide)
  · intro c hc
    rw [hmem c hc]
    decide
  · exact hsuf (cu '.') (by decide)
  · exact hsuf (cu ' ') (by decide)
  · exact not_reserved_letters hn

/-- Letters are a safe path. -/
lemma safeParts_letters (hrt : Runtime.AsciiStable) {n : ℕ} (hn : 5 ≤ n) :
    SafeParts (letters n) [letters n] where
  nfc := by
    have h := hrt.nfc_extend [] [] (letters n) hrt.nfc_nil fun c hc => by
      rw [List.eq_of_mem_replicate hc]; decide
    simpa using h
  paired := paired_letters n
  ne_nil := by simp
  eq_join := by rw [join_singleton, toSlashes_letters]
  safe := by simpa using safePart_letters hrt hn

/-- Letters may replace what follows a separator of a safe path. -/
lemma SafeParts.extend (hrt : Runtime.AsciiStable) {path X : Str} {parts : List Str}
    (h : SafeParts path parts) (hX : X ++ [slash] <+: toSlashes path) {n : ℕ} (hn : 5 ≤ n) :
    SafeParts (path.take X.length ++ slash :: letters n) (split slash X ++ [letters n]) := by
  obtain ⟨t, ht⟩ := hX
  -- the unit of the path that became the separator
  obtain ⟨u, v, hpath, hu, hv⟩ := List.map_eq_append_iff.mp
    (show toSlashes path = X ++ slash :: t by simpa using ht.symm)
  obtain ⟨c, w, rfl, hc, hw⟩ := List.map_eq_cons_iff.mp hv
  have htake : path.take X.length = u := by
    have hlen : X.length = u.length := by rw [← hu, List.length_map]
    rw [hpath, hlen, List.take_left]
  have hsplit : split slash X ++ split slash t = parts := by
    rw [← h.split_eq, ← ht]
    simp [split, List.splitOn_append_cons_self]
  have hsafe : ∀ part ∈ split slash X, SafePart part := fun part hp =>
    h.safe part (by simp [← hsplit, hp])
  have hslash : Json.isHighSurrogate slash = false ∧ Json.isLowSurrogate slash = false := by
    decide
  have hcs : Json.isHighSurrogate c = false ∧ Json.isLowSurrogate c = false := by
    by_cases hb : c = cu '\\'
    · subst hb; decide
    · rw [if_neg hb] at hc
      exact hc ▸ hslash
  rw [htake]
  refine ⟨?_, ?_, by simp, ?_, ?_⟩
  · refine hrt.nfc_extend u (c :: w) _ (by rw [← hpath]; exact h.nfc) ?_
    intro d hd
    obtain rfl | hd := List.mem_cons.mp hd
    · decide
    · rw [List.eq_of_mem_replicate hd]; decide
  · exact paired_extend hcs hslash (paired_letters n) u (hpath ▸ h.paired)
  · rw [join_append _ (split_ne_nil _ _) (by simp), join_split, join_singleton, toSlashes_append,
      show toSlashes u = X from hu]
    exact congrArg (X ++ slash :: ·) (toSlashes_letters n)
  · simp only [List.mem_append, List.mem_singleton]
    rintro part (hp | rfl)
    · exact hsafe part hp
    · exact safePart_letters hrt hn

end CodexRouter.Authorization
