import CodexRouter.Js.Schema
import Mathlib.Data.Rat.Cast.Order
import Mathlib.Algebra.Order.Field.Basic

/-!
# The value of a number

The decimal text of a finite number stands for a rational; comparisons compare these.
-/

namespace Js

/-- The value of decimal digits. -/
def natValue (digits : Str) : ℕ := digits.foldl (fun v c => 10 * v + (c.val - 0x30)) 0

/-- The value of what follows `e`. -/
def exponentValue (s : Str) : ℤ :=
  if s.head? = some (cu '-') then -(natValue s.tail : ℤ)
  else if s.head? = some (cu '+') then natValue s.tail
  else natValue s

/-- The value of `String(n)`. -/
def Num.value (n : Num) : ℚ :=
  let negative := n.1.head? = some (cu '-')
  let unsigned := if negative then n.1.tail else n.1
  let mantissa := unsigned.takeWhile (· ≠ cu 'e')
  let exponent := exponentValue (unsigned.dropWhile (· ≠ cu 'e')).tail
  let whole := mantissa.takeWhile (· ≠ cu '.')
  let fraction := (mantissa.dropWhile (· ≠ cu '.')).tail
  let value := (natValue (whole ++ fraction) : ℚ) * 10 ^ (exponent - fraction.length)
  if negative then -value else value

/-- `count > n`. -/
def Num.exceededBy (n : Num) (count : ℕ) : Bool := n.value < count

lemma Num.exceededBy_mono {n : Num} {count count' : ℕ} (h : n.exceededBy count = false)
    (hle : count' ≤ count) : n.exceededBy count' = false := by
  unfold exceededBy at *
  rw [decide_eq_false_iff_not, not_lt] at *
  exact (Nat.cast_le.mpr hle).trans h

/-! ## Counts -/

def Num.ofNat (n : ℕ) : Num := ⟨Json.natText n, Json.isNumberText_natText n⟩

lemma val_digit {c : Char} (h : c.isDigit = true) : (cu c).val = c.toNat := by
  simp only [Char.isDigit, Bool.and_eq_true, decide_eq_true_eq, ge_iff_le,
    UInt32.le_iff_toNat_le] at h
  exact Nat.mod_eq_of_lt (lt_of_le_of_lt h.2 (by decide))

lemma isDigit_natText {n : ℕ} {c : CodeUnit} (h : c ∈ Json.natText n) : isDigit c = true := by
  obtain ⟨d, hd, rfl⟩ := List.mem_map.mp h
  exact Json.isDigit_cu (Nat.isDigit_of_mem_toDigits (by omega) (by omega) hd)

lemma natValue_natText (n : ℕ) : natValue (Json.natText n) = n := by
  unfold natValue Json.natText
  rw [List.foldl_map]
  calc (Nat.toDigits 10 n).foldl (fun v d => 10 * v + ((cu d).val - 0x30)) 0
      = Nat.ofDigitChars 10 (Nat.toDigits 10 n) 0 := by
        rw [Nat.ofDigitChars_eq_foldl]
        apply List.foldl_ext
        intro v d hd
        rw [val_digit (Nat.isDigit_of_mem_toDigits (by omega) (by omega) hd)]
        rfl
    _ = n := Nat.ofDigitChars_ten_toDigits

/-- A unit that is no digit. -/
lemma not_mem_natText {c : CodeUnit} (hc : isDigit c = false) (n : ℕ) : c ∉ Json.natText n := by
  intro h
  rw [isDigit_natText h] at hc
  exact absurd hc (by decide)

lemma takeWhile_natText {c : CodeUnit} (hc : isDigit c = false) (n : ℕ) :
    (Json.natText n).takeWhile (· ≠ c) = Json.natText n ∧
      (Json.natText n).dropWhile (· ≠ c) = [] := by
  have hall : ∀ d ∈ Json.natText n, decide (d ≠ c) = true := by
    intro d hd
    rw [decide_eq_true_eq]
    intro he
    exact not_mem_natText hc n (he ▸ hd)
  exact ⟨List.takeWhile_eq_self_iff.mpr hall, List.dropWhile_eq_nil_iff.mpr hall⟩

lemma head_natText (n : ℕ) : (Json.natText n).head? ≠ some (cu '-') := by
  intro h
  exact not_mem_natText (by decide) n (List.mem_of_head? h)

@[simp] lemma Num.value_ofNat (n : ℕ) : (Num.ofNat n).value = n := by
  obtain ⟨he, hexponent⟩ := takeWhile_natText (c := cu 'e') (by decide) n
  obtain ⟨hdot, hfraction⟩ := takeWhile_natText (c := cu '.') (by decide) n
  unfold value ofNat
  simp only [head_natText, if_false, he, hexponent, hdot,
    hfraction, List.tail_nil, List.append_nil, natValue_natText]
  simp [exponentValue, natValue]

lemma Num.exceededBy_ofNat {n count : ℕ} : (Num.ofNat n).exceededBy count = false ↔ count ≤ n := by
  unfold exceededBy
  rw [value_ofNat, decide_eq_false_iff_not, not_lt, Nat.cast_le]

lemma nonNegativeInt_valid (n : ℕ) : Schema.nonNegativeInt.Valid (Num.ofNat n) := by
  have hinteger : Schema.isInteger (Num.ofNat n) = true := by
    have he : (Json.natText n).contains (cu 'e') = false := by
      simpa using not_mem_natText (c := cu 'e') (by decide) n
    have hdot : (Json.natText n).contains (cu '.') = false := by
      simpa using not_mem_natText (c := cu '.') (by decide) n
    unfold Schema.isInteger Num.ofNat
    rw [he, hdot]
    rfl
  have hread : Schema.number.read (.num (Num.ofNat n)) = .ok (Num.ofNat n) := rfl
  apply Schema.Valid.intro
  show Schema.nonNegativeInt.read (.num (Num.ofNat n)) = _
  unfold Schema.nonNegativeInt
  rw [Schema.read_refine, List.append_eq_nil_iff, require_eq_nil, require_eq_nil]
  exact ⟨hread, hinteger, decide_eq_true (head_natText n)⟩

lemma positiveInt_valid {n : ℕ} (h : 0 < n) : Schema.positiveInt.Valid (Num.ofNat n) := by
  have hzero : Json.natText n ≠ js "0" := by
    intro hz
    have hvalue := congrArg natValue hz
    rw [natValue_natText, show natValue (js "0") = 0 by decide] at hvalue
    omega
  apply Schema.Valid.intro
  show Schema.positiveInt.read (.num (Num.ofNat n)) = _
  unfold Schema.positiveInt
  rw [Schema.read_refine, require_eq_nil]
  exact ⟨nonNegativeInt_valid n, decide_eq_true hzero⟩

end Js
