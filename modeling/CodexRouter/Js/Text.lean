import Mathlib.Algebra.Ring.Nat
import Mathlib.Data.Fin.Basic
import Mathlib.Data.List.DropRight
import Mathlib.Data.List.Lex
import Mathlib.Data.List.Sort

/-!
# JavaScript strings

A JavaScript string is a sequence of 16-bit code units; it need not be well-formed UTF-16,
and the relational operators compare it unit by unit.
-/

namespace Js

/-- A UTF-16 code unit. -/
abbrev CodeUnit := Fin 65536

/-- Any sequence of code units, unpaired surrogates included. -/
abbrev Str := List CodeUnit

-- Numerals and membership tests go through these, whatever else is imported.
instance (priority := high) codeUnit_neZero : @NeZero ℕ Zero.ofOfNat0 65536 := ⟨by decide⟩
instance (priority := high) codeUnit_lawful : LawfulBEq CodeUnit := inferInstance
instance (priority := high) str_lawful : LawfulBEq Str := inferInstance

/-- The code unit of a character of the basic plane. -/
def cu (c : Char) : CodeUnit := Fin.ofNat 65536 c.toNat

/-- The UTF-16 encoding of a literal. -/
def js (s : String) : Str :=
  s.toList.flatMap fun c =>
    if c.toNat < 0x10000 then [cu c]
    else
      [Fin.ofNat 65536 (0xd800 + (c.toNat - 0x10000) / 0x400),
        Fin.ofNat 65536 (0xdc00 + (c.toNat - 0x10000) % 0x400)]

instance : Coe String Str := ⟨js⟩

def startsWith (s p : Str) : Bool := p.isPrefixOf s

def endsWith (s p : Str) : Bool := p.isSuffixOf s

def includes (s p : Str) : Bool := s.tails.any p.isPrefixOf

/-- `s.split(c)` for a one-unit separator. -/
def split (c : CodeUnit) (s : Str) : List Str := s.splitOn c

/-- `parts.join(c)` for a one-unit separator. -/
def join (c : CodeUnit) (parts : List Str) : Str := [c].intercalate parts

/-- White space and line terminators, as `trim` strips them. -/
def isTrimmed (c : CodeUnit) : Bool :=
  (9 ≤ c.val && c.val ≤ 13) || c.val == 0x20 || c.val == 0xa0 || c.val == 0x1680
    || (0x2000 ≤ c.val && c.val ≤ 0x200a) || c.val == 0x2028 || c.val == 0x2029
    || c.val == 0x202f || c.val == 0x205f || c.val == 0x3000 || c.val == 0xfeff

def trimEnd (s : Str) : Str := s.rdropWhile isTrimmed

def trim (s : Str) : Str := trimEnd (s.dropWhile isTrimmed)

/-- `s.replace(/\\/g, "/")`. -/
def toSlashes (s : Str) : Str := s.map fun c => if c = cu '\\' then cu '/' else c

/-- The lower case of an ASCII letter; any other unit is kept. -/
def asciiLower (c : CodeUnit) : CodeUnit :=
  if 0x41 ≤ c.val ∧ c.val ≤ 0x5a then c + 32 else c

/-- `[...new Set(values)]`: the first occurrence of each value, in order. -/
def distinct {α : Type*} [DecidableEq α] : List α → List α
  | [] => []
  | a :: l => a :: (distinct l).filter (· ≠ a)

/-- `values.sort(compareCodeUnits)`; the sort of the language is stable. -/
def sortUnits (l : List Str) : List Str := l.insertionSort (· ≤ ·)

/-- `[...new Set(values)].sort(compareCodeUnits)`. -/
def uniqueStrings (l : List Str) : List Str := sortUnits (distinct l)

/-! ## Prefixes and suffixes -/

@[simp] lemma startsWith_iff {s p : Str} : startsWith s p = true ↔ p <+: s := by
  simp [startsWith, List.isPrefixOf_iff_prefix]

@[simp] lemma endsWith_iff {s p : Str} : endsWith s p = true ↔ p <:+ s := by
  simp [endsWith, List.isSuffixOf_iff_suffix]

@[simp] lemma startsWith_eq_false {s p : Str} : startsWith s p = false ↔ ¬ p <+: s := by
  rw [← startsWith_iff, Bool.not_eq_true]

@[simp] lemma endsWith_eq_false {s p : Str} : endsWith s p = false ↔ ¬ p <:+ s := by
  rw [← endsWith_iff, Bool.not_eq_true]

lemma startsWith_append_self (p s : Str) : startsWith (p ++ s) p = true :=
  startsWith_iff.mpr (List.prefix_append p s)

/-! ## Joining -/

@[simp] lemma join_nil (c : CodeUnit) : join c [] = [] := rfl

@[simp] lemma join_singleton (c : CodeUnit) (s : Str) : join c [s] = s := by
  simp [join]

lemma join_cons (c : CodeUnit) (s : Str) {parts : List Str} (h : parts ≠ []) :
    join c (s :: parts) = s ++ c :: join c parts := by
  obtain ⟨t, parts, rfl⟩ := List.exists_cons_of_ne_nil h
  simp [join, List.intercalate_cons_cons]

/-! ## Distinct and sorted values -/

@[simp] lemma mem_distinct {α : Type*} [DecidableEq α] {l : List α} {a : α} :
    a ∈ distinct l ↔ a ∈ l := by
  induction l with
  | nil => simp [distinct]
  | cons b l ih =>
    simp only [distinct, List.mem_cons, List.mem_filter, ih, decide_eq_true_eq]
    by_cases h : a = b <;> simp [h]

@[simp] lemma mem_uniqueStrings {l : List Str} {s : Str} : s ∈ uniqueStrings l ↔ s ∈ l := by
  simp [uniqueStrings, sortUnits]

@[simp] lemma distinct_eq_nil {α : Type*} [DecidableEq α] {l : List α} :
    distinct l = [] ↔ l = [] := by
  cases l <;> simp [distinct]

@[simp] lemma uniqueStrings_eq_nil {l : List Str} : uniqueStrings l = [] ↔ l = [] := by
  rw [List.eq_nil_iff_forall_not_mem, List.eq_nil_iff_forall_not_mem]
  simp

/-! ## Trimming and slashes -/

lemma prefix_trimEnd (s : Str) : trimEnd s <+: s := List.rdropWhile_prefix _ _

lemma trimEnd_append_trimmed (s : Str) :
    ∃ w, s = trimEnd s ++ w ∧ ∀ c ∈ w, isTrimmed c = true :=
  ⟨s.rtakeWhile isTrimmed, (List.rdropWhile_append_rtakeWhile ..).symm,
    fun _ hc => List.mem_rtakeWhile_imp hc⟩

lemma trimEnd_append {u : Str} {c : CodeUnit} (hc : isTrimmed c = false) (v : Str) :
    trimEnd (u ++ c :: v) = u ++ c :: trimEnd v := by
  simp only [trimEnd, List.rdropWhile, List.reverse_append, List.reverse_cons,
    List.append_assoc, List.singleton_append, List.dropWhile_append]
  split
  · rename_i he
    rw [List.isEmpty_iff.mp he]
    simp [hc]
  · simp

@[simp] lemma length_toSlashes (s : Str) : (toSlashes s).length = s.length := by
  simp [toSlashes]

@[simp] lemma toSlashes_append (s t : Str) : toSlashes (s ++ t) = toSlashes s ++ toSlashes t := by
  simp [toSlashes]

lemma mem_toSlashes_of_ne {s : Str} {c : CodeUnit} (h : c ≠ cu '/') (hc : c ∈ toSlashes s) :
    c ∈ s := by
  obtain ⟨d, hd, rfl⟩ := List.mem_map.mp hc
  by_cases hb : d = cu '\\'
  · simp [hb] at h
  · simpa [hb] using hd

lemma trim_trim (s : Str) : trim (trim s) = trim s := by
  have hhead : (trim s).dropWhile isTrimmed = trim s := by
    rw [List.dropWhile_eq_self_iff]
    intro hpos htrimmed
    have hpre : trim s <+: s.dropWhile isTrimmed := prefix_trimEnd _
    have hlen : 0 < (s.dropWhile isTrimmed).length := lt_of_lt_of_le hpos hpre.length_le
    rw [hpre.getElem hpos] at htrimmed
    exact List.dropWhile_get_zero_not isTrimmed s hlen htrimmed
  have hend : trimEnd (trim s) = trim s := List.rdropWhile_idempotent isTrimmed _
  rw [trim, hhead, hend]

/-! ## Cutting at one unit -/

/-- What stands before the first unit of a kind, and what behind it. -/
lemma append_cons_inj {c : CodeUnit} {a b x y : Str} (ha : c ∉ a) (hb : c ∉ b)
    (h : a ++ c :: x = b ++ c :: y) : a = b ∧ x = y := by
  induction a generalizing b with
  | nil =>
    cases b with
    | nil => exact ⟨rfl, (List.cons.inj h).2⟩
    | cons d b => exact absurd ((List.cons.inj h).1 ▸ List.mem_cons_self) hb
  | cons d a ih =>
    cases b with
    | nil => exact absurd ((List.cons.inj h).1 ▸ List.mem_cons_self) ha
    | cons e b =>
      obtain ⟨rfl, hrest⟩ := List.cons.inj h
      obtain ⟨rfl, hxy⟩ := ih (fun hmem => ha (List.mem_cons_of_mem _ hmem))
        (fun hmem => hb (List.mem_cons_of_mem _ hmem)) hrest
      exact ⟨rfl, hxy⟩

/-- What stands before the last unit of a kind, and what behind it. -/
lemma append_cons_inj_last {c : CodeUnit} {a b x y : Str} (hx : c ∉ x) (hy : c ∉ y)
    (h : a ++ c :: x = b ++ c :: y) : a = b ∧ x = y := by
  have hreverse := congrArg List.reverse h
  simp only [List.reverse_append, List.reverse_cons, List.append_assoc, List.singleton_append]
    at hreverse
  obtain ⟨hx, ha⟩ := append_cons_inj (fun hmem => hx (List.mem_reverse.mp hmem))
    (fun hmem => hy (List.mem_reverse.mp hmem)) hreverse
  exact ⟨List.reverse_injective ha, List.reverse_injective hx⟩

end Js
