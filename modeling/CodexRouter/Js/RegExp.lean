import Mathlib.Data.List.Basic

/-!
# Regular expressions

Expressions with the `u` flag, over code points, as far as literal and escaped characters, `.`, a
class that excludes one character, the quantifier `*` and the anchors go. Whatever lies outside
this fragment is not read.
-/

namespace RegExp

/-- `SyntaxCharacter`. -/
def isSyntaxCharacter (c : ℕ) : Bool := "^$\\.*+?()[]\x7b\x7d|".toList.any fun d => d.toNat = c

def isLineTerminator (c : ℕ) : Bool := c == 0xa || c == 0xd || c == 0x2028 || c == 0x2029

inductive Atom where
  | char (c : ℕ)
  | any
  | except (c : ℕ)
  deriving DecidableEq

/-- Without the `s` flag the dot takes no line terminator. -/
def Atom.takes : Atom → ℕ → Bool
  | .char d, c => c = d
  | .any, c => !isLineTerminator c
  | .except d, c => c ≠ d

inductive Term where
  | start
  | finish
  | one (atom : Atom)
  | many (atom : Atom)
  deriving DecidableEq

/-- One atom at the head of the source, with what follows it. -/
def readAtom : List ℕ → Option (Atom × List ℕ)
  | [] => none
  | c :: source =>
    if c = '\\'.toNat then
      match source with
      | d :: source => if isSyntaxCharacter d then some (.char d, source) else none
      | [] => none
    else if c = '.'.toNat then some (.any, source)
    else if c = '['.toNat then
      match source with
      | d :: e :: f :: source =>
        if d = '^'.toNat ∧ f = ']'.toNat ∧ ¬ isSyntaxCharacter e then some (.except e, source)
        else none
      | _ => none
    else if isSyntaxCharacter c then none
    else some (.char c, source)

lemma readAtom_length {source rest : List ℕ} {atom : Atom}
    (h : readAtom source = some (atom, rest)) : rest.length < source.length := by
  unfold readAtom at h
  split at h
  · cases h
  · split_ifs at h
    · split at h
      · split_ifs at h
        simp only [Option.some.injEq, Prod.mk.injEq] at h
        rw [← h.2]
        simp only [List.length_cons]
        omega
      · cases h
    · simp only [Option.some.injEq, Prod.mk.injEq] at h
      rw [← h.2]
      simp
    · split at h
      · split_ifs at h
        simp only [Option.some.injEq, Prod.mk.injEq] at h
        rw [← h.2]
        simp only [List.length_cons]
        omega
      · cases h
    · simp only [Option.some.injEq, Prod.mk.injEq] at h
      rw [← h.2]
      simp

/-- The terms of a source, or nothing when it leaves the fragment. -/
def parse (source : List ℕ) : Option (List Term) :=
  match source with
  | [] => some []
  | c :: rest =>
    if c = '^'.toNat then (parse rest).map (Term.start :: ·)
    else if c = '$'.toNat then (parse rest).map (Term.finish :: ·)
    else
      match _hread : readAtom (c :: rest) with
      | none => none
      | some (atom, after) =>
        if after.head? = some '*'.toNat then (parse after.tail).map (Term.many atom :: ·)
        else (parse after).map (Term.one atom :: ·)
  termination_by source.length
  decreasing_by
  · simp
  · simp
  · have hlength := readAtom_length _hread
    rw [List.length_tail]
    omega
  · exact readAtom_length _hread

/-- Whether the terms match from here on; `atStart` holds at the start of the subject. -/
def matchTerms : List Term → Bool → List ℕ → Bool
  | [], _, _ => true
  | .start :: terms, atStart, text => atStart && matchTerms terms atStart text
  | .finish :: terms, atStart, text => text.isEmpty && matchTerms terms atStart text
  | .one atom :: terms, _, text =>
    match text with
    | [] => false
    | c :: text => atom.takes c && matchTerms terms false text
  | .many atom :: terms, atStart, text =>
    (List.range (text.length + 1)).any fun n =>
      (text.take n).all atom.takes && matchTerms terms (atStart && n == 0) (text.drop n)

/-- `new RegExp(source, "u").test(text)`: a match may begin anywhere. -/
def test (source text : List ℕ) : Option Bool :=
  (parse source).map fun terms =>
    (List.range (text.length + 1)).any fun n => matchTerms terms (n == 0) (text.drop n)

/-- A match that is anchored begins at the start. -/
lemma any_start (terms : List Term) (text : List ℕ) :
    ((List.range (text.length + 1)).any fun n =>
      matchTerms (Term.start :: terms) (n == 0) (text.drop n)) = matchTerms terms true text := by
  rw [List.range_succ_eq_map, List.any_cons, List.any_map]
  have hlater : (List.range text.length).any ((fun n =>
      matchTerms (Term.start :: terms) (n == 0) (text.drop n)) ∘ Nat.succ) = false := by
    rw [List.any_eq_false]
    intro n _
    simp [matchTerms]
  rw [hlater]
  simp [matchTerms]

/-! ## Reading a source piece by piece -/

lemma parse_start (rest : List ℕ) :
    parse ('^'.toNat :: rest) = (parse rest).map (Term.start :: ·) := by
  rw [parse, if_pos rfl]

lemma parse_finish : parse ['$'.toNat] = some [Term.finish] := by
  rw [parse, if_neg (by decide), if_pos rfl, parse]
  rfl

lemma parse_many {source rest : List ℕ} {atom : Atom} (hstart : source.head? ≠ some '^'.toNat)
    (hfinish : source.head? ≠ some '$'.toNat)
    (h : readAtom source = some (atom, '*'.toNat :: rest)) :
    parse source = (parse rest).map (Term.many atom :: ·) := by
  cases source with
  | nil => cases h
  | cons c source =>
    have hs : c ≠ '^'.toNat := fun he => hstart (by rw [he]; rfl)
    have hf : c ≠ '$'.toNat := fun he => hfinish (by rw [he]; rfl)
    rw [parse, if_neg hs, if_neg hf]
    split
    · rename_i hread
      rw [h] at hread
      cases hread
    · rename_i hread
      rw [h] at hread
      cases hread
      rw [List.head?_cons, if_pos rfl, List.tail_cons]

lemma parse_one {source rest : List ℕ} {atom : Atom} (hstart : source.head? ≠ some '^'.toNat)
    (hfinish : source.head? ≠ some '$'.toNat) (h : readAtom source = some (atom, rest))
    (hrest : rest.head? ≠ some '*'.toNat) :
    parse source = (parse rest).map (Term.one atom :: ·) := by
  cases source with
  | nil => cases h
  | cons c source =>
    have hs : c ≠ '^'.toNat := fun he => hstart (by rw [he]; rfl)
    have hf : c ≠ '$'.toNat := fun he => hfinish (by rw [he]; rfl)
    rw [parse, if_neg hs, if_neg hf]
    split
    · rename_i hread
      rw [h] at hread
      cases hread
    · rename_i hread
      rw [h] at hread
      cases hread
      rw [if_neg hrest]

end RegExp
