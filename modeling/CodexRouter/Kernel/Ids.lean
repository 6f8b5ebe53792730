import CodexRouter.Js.Json

/-!
# Generated ids

An id joins sanitised names and a padded number. Its number can be read off its end.
-/

open Js

namespace CodexRouter.Kernel

def isAlphanumeric (c : CodeUnit) : Bool :=
  isDigit c || (0x41 ≤ c.val && c.val ≤ 0x5a) || (0x61 ≤ c.val && c.val ≤ 0x7a)

/-- `value.replace(/[^a-zA-Z0-9_-]/g, "_")`. -/
def sanitizeIdPart (value : Str) : Str :=
  value.map fun c => if isAlphanumeric c || c == cu '_' || c == cu '-' then c else cu '_'

/-- `text.padStart(n, "0")`. -/
def padStart (n : ℕ) (text : Str) : Str := List.replicate (n - text.length) (cu '0') ++ text

/-! ## The number of an id -/

/-- The number that a text of digits denotes. -/
def digitsValue (s : Str) : ℕ := s.foldl (fun v c => 10 * v + (c.val - 48)) 0

/-- The text after the last `_`. -/
def lastPart (s : Str) : Str := (s.reverse.takeWhile (· ≠ cu '_')).reverse

lemma lastPart_append {s t : Str} (h : cu '_' ∉ t) : lastPart (s ++ cu '_' :: t) = t := by
  have hall : ∀ c ∈ t.reverse, decide (c ≠ cu '_') = true := by
    intro c hc
    rw [decide_eq_true_iff]
    intro he
    exact h (he ▸ List.mem_reverse.mp hc)
  unfold lastPart
  rw [List.reverse_append, List.reverse_cons, List.append_assoc,
    List.takeWhile_append_of_pos hall]
  simp

lemma val_cu_digit {c : Char} (h : c.isDigit = true) : (cu c).val = c.toNat := by
  simp only [Char.isDigit, Bool.and_eq_true, decide_eq_true_eq, ge_iff_le,
    UInt32.le_iff_toNat_le] at h
  exact Nat.mod_eq_of_lt (lt_of_le_of_lt h.2 (by decide))

/-- The padded text of a number: zeros, then its digits. -/
lemma padStart_natText (k n : ℕ) : ∃ l : List Char, padStart k (Json.natText n) = l.map cu ∧
    (∀ c ∈ l, c.isDigit = true) ∧ Nat.ofDigitChars 10 l 0 = n := by
  refine ⟨List.replicate (k - (Json.natText n).length) '0' ++ Nat.toDigits 10 n, ?_, ?_, ?_⟩
  · rw [List.map_append, List.map_replicate]
    rfl
  · intro c hc
    rcases List.mem_append.mp hc with hc | hc
    · rw [List.eq_of_mem_replicate hc]
      decide
    · exact Nat.isDigit_of_mem_toDigits (by omega) (by omega) hc
  · rw [Nat.ofDigitChars_append, Nat.ofDigitChars_replicate_zero, Nat.mul_zero,
      Nat.ofDigitChars_ten_toDigits]

lemma digitsValue_map {l : List Char} (h : ∀ c ∈ l, c.isDigit = true) :
    digitsValue (l.map cu) = Nat.ofDigitChars 10 l 0 := by
  unfold digitsValue
  rw [Nat.ofDigitChars_eq_foldl, List.foldl_map]
  apply List.foldl_ext
  intro v c hc
  rw [val_cu_digit (h c hc)]
  rfl

/-- A padded number is a number. -/
lemma digitsValue_padStart (k n : ℕ) : digitsValue (padStart k (Json.natText n)) = n := by
  obtain ⟨l, hl, hdigits, hvalue⟩ := padStart_natText k n
  rw [hl, digitsValue_map hdigits, hvalue]

lemma not_mem_padStart (k n : ℕ) : cu '_' ∉ padStart k (Json.natText n) := by
  obtain ⟨l, hl, hdigits, -⟩ := padStart_natText k n
  rw [hl]
  intro h
  obtain ⟨c, hc, he⟩ := List.mem_map.mp h
  have hdigit := Json.isDigit_cu (hdigits c hc)
  rw [he] at hdigit
  cases hdigit

/-- An id that ends in a padded number has that number. -/
theorem number_of_id (s : Str) (k n : ℕ) :
    digitsValue (lastPart (s ++ cu '_' :: padStart k (Json.natText n))) = n := by
  rw [lastPart_append (not_mem_padStart k n), digitsValue_padStart]

end CodexRouter.Kernel
