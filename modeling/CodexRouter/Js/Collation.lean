import CodexRouter.Js.Text
import Mathlib.Data.Finset.Card

/-!
# Sorting by the locale

`left.localeCompare(right)` is a total preorder of the host: distinct strings may compare equal.
-/

namespace Js

class Collation where
  /-- `left.localeCompare(right) <= 0`. -/
  le : Str → Str → Bool
  total : ∀ s t, le s t ∨ le t s
  trans : ∀ {s t u}, le s t → le t u → le s u

variable [Collation]

def localeLe (s t : Str) : Prop := Collation.le s t = true

instance : DecidableRel localeLe := fun s t => inferInstanceAs (Decidable (Collation.le s t = true))

instance : Std.Total localeLe := ⟨Collation.total⟩

instance : IsTrans Str localeLe := ⟨fun _ _ _ => Collation.trans⟩

/-- `values.sort((left, right) => left.localeCompare(right))`. -/
def sortLocale (l : List Str) : List Str := l.insertionSort localeLe

@[simp] lemma mem_sortLocale {l : List Str} {s : Str} : s ∈ sortLocale l ↔ s ∈ l :=
  List.mem_insertionSort localeLe

/-- Sorted values stay where they are. -/
theorem sortLocale_sortLocale (l : List Str) : sortLocale (sortLocale l) = sortLocale l :=
  (List.pairwise_insertionSort localeLe l).insertionSort_eq

lemma sortLocale_perm (l : List Str) : (sortLocale l).Perm l := List.perm_insertionSort localeLe l

/-! ## Distinct values -/

section

variable {α : Type*} [DecidableEq α]

omit [Collation] in
lemma nodup_distinct (l : List α) : (distinct l).Nodup := by
  induction l with
  | nil => exact List.nodup_nil
  | cons a l ih =>
    rw [distinct, List.nodup_cons]
    refine ⟨?_, ih.filter _⟩
    intro ha
    simpa using List.of_mem_filter ha

omit [Collation] in
lemma distinct_of_nodup {l : List α} (h : l.Nodup) : distinct l = l := by
  induction l with
  | nil => rfl
  | cons a l ih =>
    obtain ⟨ha, hl⟩ := List.nodup_cons.mp h
    rw [distinct, ih hl, List.filter_eq_self.mpr]
    intro b hb
    simpa using fun he : b = a => ha (he ▸ hb)

omit [Collation] in
lemma length_distinct (l : List α) : (distinct l).length = l.toFinset.card := by
  rw [← List.toFinset_card_of_nodup (nodup_distinct l)]
  congr 1
  ext a
  simp

end

/-- The order of the code units, that the host has for ASCII text of one case. -/
@[reducible] def codeUnitCollation : Collation where
  le s t := decide (s ≤ t)
  total s t := by simpa using le_total s t
  trans := by
    intro s t u hst htu
    rw [decide_eq_true_eq] at *
    exact hst.trans htu

end Js
