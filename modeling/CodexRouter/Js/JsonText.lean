import CodexRouter.Js.Json

/-!
# Reading a JSON text back

A text ends where the first separator that no bracket or string encloses stands. So two
documents with one text have the same members, whatever the order they were listed in.
-/

namespace Js.Json

/-! ## Strings -/

def unhex (c : CodeUnit) : ℕ := if c.val < 0x60 then c.val - 0x30 else c.val - 0x57

def unescape (c : CodeUnit) : CodeUnit :=
  if c = cu 'b' then 8 else if c = cu 't' then 9 else if c = cu 'n' then 10
  else if c = cu 'f' then 12 else if c = cu 'r' then 13 else c

/-- The string behind the text between two quotes. -/
def unquote : Str → Str
  | [] => []
  | c :: s =>
    if c = cu '\\' then
      match s with
      | [] => []
      | d :: s =>
        if d = cu 'u' then
          Fin.ofNat 65536 ((s.take 4).foldl (fun n c => n * 16 + unhex c) 0)
            :: unquote (s.drop 4)
        else unescape d :: unquote s
    else c :: unquote s
termination_by s => s.length
decreasing_by all_goals simp_wf; try omega

@[simp] lemma unquote_nil : unquote [] = [] := by
  unfold unquote
  rfl

lemma unquote_cons {c : CodeUnit} (h : c ≠ cu '\\') (s : Str) :
    unquote (c :: s) = c :: unquote s := by
  rw [unquote.eq_def]
  exact if_neg h

lemma unquote_escaped {c : CodeUnit} (h : c ≠ cu 'u') (s : Str) :
    unquote (cu '\\' :: c :: s) = unescape c :: unquote s := by
  rw [unquote.eq_def]
  exact (if_pos rfl).trans (if_neg h)

lemma unhex_hexUnit : ∀ n < 16, unhex (hexUnit n) = n := by decide

lemma unquote_escapeUnit (c : CodeUnit) (s : Str) :
    unquote (escapeUnit c ++ s) = c :: unquote s := by
  have hc := c.isLt
  rw [escapeUnit, unquote.eq_def]
  simp only [List.cons_append, List.nil_append, if_pos, List.take_succ_cons, List.take_zero,
    List.drop_succ_cons, List.drop_zero, List.foldl_cons, List.foldl_nil]
  rw [unhex_hexUnit _ (by omega), unhex_hexUnit _ (by omega), unhex_hexUnit _ (by omega),
    unhex_hexUnit _ (by omega)]
  congr 1
  apply Fin.ext
  rw [Fin.val_ofNat]
  omega

lemma unquote_quoteUnit (c : CodeUnit) (s : Str) :
    unquote (quoteUnit c ++ s) = c :: unquote s := by
  unfold quoteUnit
  split
  · rename_i h
    rcases h with rfl | rfl <;> exact unquote_escaped (by decide) s
  rename_i h
  rw [not_or] at h
  split_ifs with h₁ h₂ h₃ h₄ h₅ h₆
  · rw [show c = 8 from Fin.ext h₁]
    exact unquote_escaped (by decide) s
  · rw [show c = 9 from Fin.ext h₂]
    exact unquote_escaped (by decide) s
  · rw [show c = 10 from Fin.ext h₃]
    exact unquote_escaped (by decide) s
  · rw [show c = 12 from Fin.ext h₄]
    exact unquote_escaped (by decide) s
  · rw [show c = 13 from Fin.ext h₅]
    exact unquote_escaped (by decide) s
  · exact unquote_escapeUnit c s
  · exact unquote_cons h.2 s

theorem unquote_quoteUnits (s : Str) : unquote (quoteUnits s) = s := by
  induction s using quoteUnits.induct with
  | case1 => rw [quoteUnits, unquote_nil]
  | case2 c h =>
    rw [quoteUnits, if_pos h]
    simpa using unquote_escapeUnit c []
  | case3 c h =>
    rw [quoteUnits, if_neg h]
    simpa using unquote_quoteUnit c []
  | case4 c d s hpair ih =>
    rw [quoteUnits, if_pos hpair]
    have hne : ∀ e : CodeUnit, 0xd800 ≤ e.val → e ≠ cu '\\' := by
      rintro e he rfl
      exact absurd he (by decide)
    simp only [isHighSurrogate, isLowSurrogate, Bool.and_eq_true, decide_eq_true_eq] at hpair
    rw [unquote_cons (hne c (by omega)), unquote_cons (hne d (by omega)), ih]
  | case5 c d s hpair ih =>
    rw [quoteUnits, if_neg hpair]
    split
    · rw [unquote_escapeUnit, ih]
    · rw [unquote_quoteUnit, ih]

theorem quote_injective {s t : Str} (h : quote s = quote t) : s = t := by
  simp only [quote, List.cons_append, List.cons.injEq, true_and] at h
  have hq := List.append_cancel_right h
  rw [← unquote_quoteUnits s, hq, unquote_quoteUnits]

/-! ## Where a text ends -/

/-- Where a scan stands: between tokens, in a string, or behind a backslash in one. -/
inductive Mode where
  | plain | quoted | escaped

def isSeparator (c : CodeUnit) : Bool := c = cu ',' || c = cu ':' || c = cu ']' || c = cu '}'

def depthAfter (d : ℕ) (c : CodeUnit) : ℕ :=
  if c = cu '[' ∨ c = cu '{' then d + 1 else if c = cu ']' ∨ c = cu '}' then d - 1 else d

def prepend (w : Str) (p : Str × Str) : Str × Str := (w ++ p.1, p.2)

/-- The text up to the first separator at depth zero, and the rest from it on. -/
def scan : ℕ → Mode → Str → Str × Str
  | _, _, [] => ([], [])
  | d, .plain, c :: s =>
    if d = 0 ∧ isSeparator c then ([], c :: s)
    else prepend [c] (scan (depthAfter d c) (if c = cu '"' then .quoted else .plain) s)
  | d, .quoted, c :: s =>
    prepend [c]
      (scan d (if c = cu '\\' then .escaped else if c = cu '"' then .plain else .quoted) s)
  | d, .escaped, c :: s => prepend [c] (scan d .quoted s)

/-- A scan that enters `w` in mode `m` leaves it in mode `m'`, at the same depth. -/
def Passes (d : ℕ) (m m' : Mode) (w : Str) : Prop :=
  ∀ s, scan d m (w ++ s) = prepend w (scan d m' s)

lemma Passes.nil (d : ℕ) (m : Mode) : Passes d m m [] := fun _ => rfl

lemma Passes.append {d : ℕ} {m m' m'' : Mode} {u v : Str} (hu : Passes d m m' u)
    (hv : Passes d m' m'' v) : Passes d m m'' (u ++ v) := by
  intro s
  rw [List.append_assoc, hu, hv, prepend, prepend, prepend, List.append_assoc]

lemma Passes.cons {d : ℕ} {m m' m'' : Mode} {c : CodeUnit} {v : Str} (hc : Passes d m m' [c])
    (hv : Passes d m' m'' v) : Passes d m m'' (c :: v) := hc.append hv

lemma passes_unit {d : ℕ} {c : CodeUnit} (hq : c ≠ cu '"') (hd : depthAfter d c = d)
    (hs : d ≠ 0 ∨ isSeparator c = false) : Passes d .plain .plain [c] := by
  intro s
  have hstop : ¬ (d = 0 ∧ isSeparator c = true) := by
    intro h
    rcases hs with hs | hs
    · exact hs h.1
    · simp [hs] at h
  rw [List.singleton_append, scan, if_neg hstop, hd, if_neg hq]

/-- A unit of a number or of a literal name. -/
def isInert (c : CodeUnit) : Bool :=
  !(isSeparator c || c = cu '"' || c = cu '[' || c = cu '{')

lemma passes_inert {d : ℕ} {s : Str} (h : s.all isInert = true) : Passes d .plain .plain s := by
  induction s with
  | nil => exact Passes.nil d .plain
  | cons c s ih =>
    rw [List.all_cons, Bool.and_eq_true] at h
    have hc := h.1
    simp only [isInert, isSeparator, Bool.not_eq_true', Bool.or_eq_false_iff,
      decide_eq_false_iff_not] at hc
    obtain ⟨⟨⟨⟨⟨⟨hcomma, hcolon⟩, hclose⟩, hbrace⟩, hq⟩, hopen⟩, hcurly⟩ := hc
    have hd : depthAfter d c = d := by
      rw [depthAfter, if_neg (not_or.mpr ⟨hopen, hcurly⟩), if_neg (not_or.mpr ⟨hclose, hbrace⟩)]
    have hs : isSeparator c = false := by simp [isSeparator, hcomma, hcolon, hclose, hbrace]
    exact Passes.cons (passes_unit hq hd (Or.inr hs)) (ih h.2)

lemma isInert_of_isNumberUnit {c : CodeUnit} (h : isNumberUnit c = true) : isInert c = true := by
  have hne : ∀ e, isNumberUnit e = false → c ≠ e := by
    rintro e he rfl
    simp [he] at h
  simp [isInert, isSeparator, hne (cu ',') (by decide), hne (cu ':') (by decide),
    hne (cu ']') (by decide), hne (cu '}') (by decide), hne (cu '"') (by decide),
    hne (cu '[') (by decide), hne (cu '{') (by decide)]

lemma passes_brackets {d : ℕ} {w : Str} {l r : CodeUnit} (hw : Passes (d + 1) .plain .plain w)
    (hl : l = cu '[' ∨ l = cu '{') (hr : r = cu ']' ∨ r = cu '}') :
    Passes d .plain .plain (l :: w ++ [r]) := by
  intro s
  have hopen : depthAfter d l = d + 1 := if_pos hl
  have hclose : depthAfter (d + 1) r = d := by rcases hr with rfl | rfl <;> rfl
  have hsep : isSeparator l = false := by rcases hl with rfl | rfl <;> decide
  have hlq : l ≠ cu '"' := by rcases hl with rfl | rfl <;> decide
  have hrq : r ≠ cu '"' := by rcases hr with rfl | rfl <;> decide
  have hin := hw (r :: s)
  rw [List.cons_append, List.cons_append, List.append_assoc, List.singleton_append, scan,
    if_neg (by simp [hsep]), hopen, if_neg hlq, hin, scan, if_neg (by simp), hclose, if_neg hrq]
  simp [prepend]

/-! ## Strings are passed -/

lemma passes_escaped (d : ℕ) (c : CodeUnit) : Passes d .quoted .quoted [cu '\\', c] := fun _ => rfl

lemma passes_kept {d : ℕ} {c : CodeUnit} (h : c ≠ cu '"' ∧ c ≠ cu '\\') :
    Passes d .quoted .quoted [c] := by
  intro s
  rw [List.singleton_append, scan, if_neg h.2, if_neg h.1]

lemma passes_hexUnit (d : ℕ) {n : ℕ} (h : n < 16) : Passes d .quoted .quoted [hexUnit n] := by
  have hne : ∀ n < 16, hexUnit n ≠ cu '"' ∧ hexUnit n ≠ cu '\\' := by decide
  exact passes_kept (hne n h)

lemma passes_escapeUnit (d : ℕ) (c : CodeUnit) : Passes d .quoted .quoted (escapeUnit c) := by
  have hc := c.isLt
  exact (passes_escaped d (cu 'u')).append
    ((passes_hexUnit d (by omega)).cons ((passes_hexUnit d (by omega)).cons
      ((passes_hexUnit d (by omega)).cons (passes_hexUnit d (by omega)))))

lemma passes_quoteUnit (d : ℕ) (c : CodeUnit) : Passes d .quoted .quoted (quoteUnit c) := by
  unfold quoteUnit
  split
  · exact passes_escaped d c
  rename_i h
  split_ifs
  · exact passes_escaped d _
  · exact passes_escaped d _
  · exact passes_escaped d _
  · exact passes_escaped d _
  · exact passes_escaped d _
  · exact passes_escapeUnit d c
  · exact passes_kept (not_or.mp h)

lemma passes_quoteUnits (d : ℕ) (s : Str) : Passes d .quoted .quoted (quoteUnits s) := by
  induction s using quoteUnits.induct with
  | case1 =>
    rw [quoteUnits]
    exact Passes.nil d .quoted
  | case2 c h =>
    rw [quoteUnits, if_pos h]
    exact passes_escapeUnit d c
  | case3 c h =>
    rw [quoteUnits, if_neg h]
    exact passes_quoteUnit d c
  | case4 c e s hpair ih =>
    rw [quoteUnits, if_pos hpair]
    have hne : ∀ e : CodeUnit, 0xd800 ≤ e.val → e ≠ cu '"' ∧ e ≠ cu '\\' := by
      intro e he
      constructor <;> rintro rfl <;> exact absurd he (by decide)
    simp only [isHighSurrogate, isLowSurrogate, Bool.and_eq_true, decide_eq_true_eq] at hpair
    exact (passes_kept (hne c (by omega))).cons ((passes_kept (hne e (by omega))).cons ih)
  | case5 c e s hpair ih =>
    rw [quoteUnits, if_neg hpair]
    split
    · exact (passes_escapeUnit d c).append ih
    · exact (passes_quoteUnit d c).append ih

lemma passes_quote (d : ℕ) (s : Str) : Passes d .plain .plain (quote s) := by
  have hopen : Passes d .plain .quoted [cu '"'] := fun s => by
    rw [List.singleton_append, scan, if_neg (by simp; intro _; decide)]
    rfl
  have hclose : Passes d .quoted .plain [cu '"'] := fun s => rfl
  exact (hopen.cons (passes_quoteUnits d s)).append hclose

/-! ## Documents are passed -/

lemma passes_separator {d : ℕ} {c : CodeUnit} (h : c = cu ',' ∨ c = cu ':') :
    Passes (d + 1) .plain .plain [c] := by
  refine passes_unit ?_ ?_ (Or.inl (by omega)) <;> rcases h with rfl | rfl
  · decide
  · decide
  · rfl
  · rfl

lemma passes_join {d : ℕ} {l : List Str} (h : ∀ w ∈ l, Passes (d + 1) .plain .plain w) :
    Passes (d + 1) .plain .plain (join (cu ',') l) := by
  induction l with
  | nil => exact Passes.nil _ _
  | cons w l ih =>
    cases l with
    | nil =>
      rw [join_singleton]
      exact h w (by simp)
    | cons v l =>
      rw [join_cons _ _ (List.cons_ne_nil v l)]
      exact (h w (by simp)).append
        ((passes_separator (Or.inl rfl)).cons (ih fun u hu => h u (by simp [hu])))

lemma mem_sortMembers {m : List (Str × Str)} {p : Str × Str} : p ∈ sortMembers m ↔ p ∈ m := by
  simp [sortMembers]

mutual

theorem passes_stringify (d : ℕ) : (a : Json) → Passes d .plain .plain a.stableStringify
  | null => passes_inert (by decide)
  | bool b => passes_inert (by cases b <;> decide)
  | num n => passes_inert (List.all_eq_true.mpr fun c hc => isInert_of_isNumberUnit (by
      have hn := n.2
      rw [isNumberText, Bool.and_eq_true, List.all_eq_true] at hn
      exact hn.1 c hc))
  | str s => passes_quote d s
  | arr l => passes_brackets (passes_join (passes_items (d + 1) l)) (Or.inl rfl) (Or.inl rfl)
  | obj m => by
    refine passes_brackets (passes_join ?_) (Or.inr rfl) (Or.inr rfl)
    intro w hw
    obtain ⟨p, hp, rfl⟩ := List.mem_map.mp hw
    exact (passes_quote _ p.1).append ((passes_separator (Or.inr rfl)).cons
      (passes_members (d + 1) m p (mem_sortMembers.mp hp)))

theorem passes_items (d : ℕ) : (l : List Json) → ∀ w ∈ stringifyItems l, Passes d .plain .plain w
  | [] => by simp [stringifyItems]
  | a :: l => by
    rw [stringifyItems, List.forall_mem_cons]
    exact ⟨passes_stringify d a, passes_items d l⟩

theorem passes_members (d : ℕ) :
    (m : List (Str × Json)) → ∀ p ∈ stringifyMembers m, Passes d .plain .plain p.2
  | [] => by simp [stringifyMembers]
  | (k, a) :: m => by
    rw [stringifyMembers, List.forall_mem_cons]
    exact ⟨passes_stringify d a, passes_members d m⟩

end

/-! ## Texts determine documents -/

/-- Nothing follows, or a separator does. -/
def Delimited (s : Str) : Prop := ∀ c ∈ s.head?, isSeparator c = true

lemma scan_delimited {s : Str} (h : Delimited s) : scan 0 .plain s = ([], s) := by
  cases s with
  | nil => rfl
  | cons c s => rw [scan, if_pos ⟨rfl, h c rfl⟩]

/-- A text read off the front of two equal strings is the same text. -/
theorem passes_inj {u v s t : Str} (hu : Passes 0 .plain .plain u)
    (hv : Passes 0 .plain .plain v) (hs : Delimited s) (ht : Delimited t)
    (h : u ++ s = v ++ t) : u = v ∧ s = t := by
  have hscan := congrArg (scan 0 .plain) h
  rw [hu, hv, scan_delimited hs, scan_delimited ht, prepend, prepend, List.append_nil,
    List.append_nil] at hscan
  exact Prod.mk.inj hscan

lemma delimited_cons {c : CodeUnit} (h : isSeparator c = true) (s : Str) : Delimited (c :: s) := by
  intro e he
  obtain rfl : c = e := by simpa using he
  exact h

/-- Texts, each behind a comma. -/
def items (l : List Str) : Str := l.flatMap fun w => cu ',' :: w

lemma join_cons_items (w : Str) (l : List Str) : join (cu ',') (w :: l) = w ++ items l := by
  induction l generalizing w with
  | nil => simp [items]
  | cons v l ih =>
    rw [join_cons _ _ (List.cons_ne_nil v l), ih]
    simp [items]

lemma delimited_items (l : List Str) : Delimited (items l) := by
  cases l with
  | nil => simp [Delimited, items]
  | cons w l => exact delimited_cons rfl _

/-- The text of a member. -/
def memberText (p : Str × Str) : Str := quote p.1 ++ cu ':' :: p.2

/-- A kind of text that can be read off the front of a string up to the next comma. -/
def Readable (T : Str → Prop) : Prop :=
  ∀ u v, T u → T v → ∀ l r, u ++ items l = v ++ items r → u = v ∧ items l = items r

lemma items_inj {T : Str → Prop} (hT : Readable T) {l r : List Str} (hl : ∀ w ∈ l, T w)
    (hr : ∀ w ∈ r, T w) (h : items l = items r) : l = r := by
  induction l generalizing r with
  | nil =>
    cases r with
    | nil => rfl
    | cons v r => simp [items] at h
  | cons w l ih =>
    cases r with
    | nil => simp [items] at h
    | cons v r =>
      rw [List.forall_mem_cons] at hl hr
      have h' : w ++ items l = v ++ items r := by simpa [items] using h
      obtain ⟨rfl, hrest⟩ := hT w v hl.1 hr.1 l r h'
      rw [ih hl.2 hr.2 hrest]

lemma join_inj {T : Str → Prop} (hT : Readable T) (hne : ¬ T []) {l r : List Str}
    (hl : ∀ w ∈ l, T w) (hr : ∀ w ∈ r, T w) (h : join (cu ',') l = join (cu ',') r) :
    l = r := by
  cases l with
  | nil =>
    cases r with
    | nil => rfl
    | cons v r =>
      rw [join_nil, join_cons_items, eq_comm, List.append_eq_nil_iff] at h
      exact absurd (h.1 ▸ hr v (by simp)) hne
  | cons w l =>
    cases r with
    | nil =>
      rw [join_nil, join_cons_items, List.append_eq_nil_iff] at h
      exact absurd (h.1 ▸ hl w (by simp)) hne
    | cons v r =>
      rw [join_cons_items, join_cons_items] at h
      apply items_inj hT hl hr
      simpa [items] using h

lemma stableStringify_ne_nil (a : Json) : a.stableStringify ≠ [] := by
  cases a with
  | null => decide
  | bool b => cases b <;> decide
  | num n =>
    intro h
    have hn := n.2
    rw [show n.1 = [] from h] at hn
    exact absurd hn (by decide)
  | str s => exact List.cons_ne_nil _ _
  | arr l => exact List.cons_ne_nil _ _
  | obj m => exact List.cons_ne_nil _ _

lemma readable_documents : Readable fun w => w ≠ [] ∧ Passes 0 .plain .plain w :=
  fun _ _ hu hv l r h => passes_inj hu.2 hv.2 (delimited_items l) (delimited_items r) h

lemma readable_members : Readable fun w => ∃ p, w = memberText p ∧ Passes 0 .plain .plain p.2 := by
  rintro _ _ ⟨p, rfl, hp⟩ ⟨q, rfl, hq⟩ l r h
  simp only [memberText, List.append_assoc, List.cons_append] at h ⊢
  obtain ⟨hk, hrest⟩ := passes_inj (passes_quote 0 _) (passes_quote 0 _)
    (delimited_cons (c := cu ':') rfl _) (delimited_cons rfl _) h
  obtain ⟨hv, hitems⟩ := passes_inj hp hq (delimited_items l) (delimited_items r)
    (List.cons.inj hrest).2
  exact ⟨by rw [hk, hv], hitems⟩

@[simp] lemma stringify_str_eq {s t : Str} :
    (str s).stableStringify = (str t).stableStringify ↔ s = t :=
  ⟨fun h => quote_injective h, fun h => by rw [h]⟩

lemma stringifyItems_eq (l : List Json) : stringifyItems l = l.map stableStringify := by
  induction l with
  | nil => rfl
  | cons a l ih => rw [stringifyItems, ih, List.map_cons]

lemma stringifyMembers_eq (m : List (Str × Json)) :
    stringifyMembers m = m.map fun p => (p.1, p.2.stableStringify) := by
  induction m with
  | nil => rfl
  | cons p m ih => rw [stringifyMembers, ih, List.map_cons]

theorem stringify_arr_inj {l r : List Json}
    (h : (arr l).stableStringify = (arr r).stableStringify) :
    l.map stableStringify = r.map stableStringify := by
  rw [← stringifyItems_eq, ← stringifyItems_eq]
  simp only [stableStringify, List.cons_append, List.cons.injEq, true_and] at h
  have hT : ∀ l : List Json, ∀ w ∈ stringifyItems l, w ≠ [] ∧ Passes 0 .plain .plain w := by
    intro l w hw
    refine ⟨?_, passes_items 0 l w hw⟩
    rw [stringifyItems_eq, List.mem_map] at hw
    obtain ⟨a, -, rfl⟩ := hw
    exact stableStringify_ne_nil a
  exact join_inj readable_documents (by simp) (hT l) (hT r) (List.append_cancel_right h)

lemma memberText_injective : Function.Injective memberText := by
  intro p q h
  obtain ⟨hk, hv⟩ := passes_inj (passes_quote 0 p.1) (passes_quote 0 q.1)
    (delimited_cons (c := cu ':') rfl _) (delimited_cons rfl _) h
  exact Prod.ext (quote_injective hk) (List.cons.inj hv).2

/-- Two objects with one text have the same members, up to their order. -/
theorem stringify_obj_perm {l r : List (Str × Json)}
    (h : (obj l).stableStringify = (obj r).stableStringify) :
    (l.map fun p => (p.1, p.2.stableStringify)).Perm
      (r.map fun p => (p.1, p.2.stableStringify)) := by
  rw [← stringifyMembers_eq, ← stringifyMembers_eq]
  simp only [stableStringify, List.cons_append, List.cons.injEq, true_and] at h
  have hT : ∀ l : List (Str × Json), ∀ w ∈ (sortMembers (stringifyMembers l)).map memberText,
      ∃ p, w = memberText p ∧ Passes 0 .plain .plain p.2 := by
    intro l w hw
    obtain ⟨p, hp, rfl⟩ := List.mem_map.mp hw
    exact ⟨p, rfl, passes_members 0 l p (mem_sortMembers.mp hp)⟩
  have hne : ¬ ∃ p : Str × Str, [] = memberText p ∧ Passes 0 .plain .plain p.2 := by
    rintro ⟨p, hp, -⟩
    exact List.cons_ne_nil _ _ hp.symm
  have hsorted := List.map_injective_iff.mpr memberText_injective
    (join_inj readable_members hne (hT l) (hT r) (List.append_cancel_right h))
  have hperm : ∀ m : List (Str × Str), (sortMembers m).Perm m := List.perm_insertionSort _
  exact (hperm _).symm.trans (hsorted ▸ hperm _)

lemma eq_of_perm_of_keys {κ ν : Type} {l r : List (κ × ν)} (h : l.Perm r)
    (hkeys : l.map Prod.fst = r.map Prod.fst) (hnodup : (l.map Prod.fst).Nodup) : l = r := by
  apply List.ext_getElem h.length_eq
  intro i hl hr
  apply List.inj_on_of_nodup_map hnodup (List.getElem_mem hl)
    (h.mem_iff.mpr (List.getElem_mem hr))
  have hi := congrArg (·[i]?) hkeys
  simpa [hl, hr] using hi

/-- Two objects that list the same keys and have one text agree key by key. -/
theorem stringify_obj_inj {l r : List (Str × Json)}
    (h : (obj l).stableStringify = (obj r).stableStringify)
    (hkeys : l.map Prod.fst = r.map Prod.fst) (hnodup : (l.map Prod.fst).Nodup) :
    l.map (fun p => (p.1, p.2.stableStringify)) = r.map fun p => (p.1, p.2.stableStringify) := by
  apply eq_of_perm_of_keys (stringify_obj_perm h)
  · simpa [Function.comp_def] using hkeys
  · simpa [Function.comp_def] using hnodup

end Js.Json
