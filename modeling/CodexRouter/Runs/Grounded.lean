import Mathlib.Logic.Relation

/-!
# Grounded nodes

A node is grounded when it is good and everything it points to is grounded. Nothing that goes
round in a circle is grounded.
-/

open Relation

namespace Runs

variable {α : Type} {next next' : α → α → Prop} {good good' : α → Prop} {a b : α}

inductive Grounded (next : α → α → Prop) (good : α → Prop) : α → Prop
  | intro (a : α) (hgood : good a) (hnext : ∀ b, next a b → Grounded next good b) :
      Grounded next good a

namespace Grounded

lemma holds (h : Grounded next good a) : good a := by
  cases h with
  | intro _ hgood _ => exact hgood

lemma step (h : Grounded next good a) (hab : next a b) : Grounded next good b := by
  cases h with
  | intro _ _ hnext => exact hnext b hab

/-- Whatever a grounded node reaches is grounded. -/
lemma reaches (h : Grounded next good a) (hab : ReflTransGen next a b) : Grounded next good b := by
  induction hab with
  | refl => exact h
  | tail _ hlast ih => exact ih.step hlast

/-- A grounded node is on no cycle. -/
theorem acyclic (h : Grounded next good a) : ¬ TransGen next a a := by
  induction h with
  | intro a _ hnext ih =>
    intro hcycle
    obtain ⟨b, hab, hba⟩ := TransGen.head'_iff.mp hcycle
    -- The cycle through `a` is one through its successor `b`.
    exact ih b hab (TransGen.tail' hba hab)

/-- Good nodes stay good and get no new successors. -/
theorem mono (hgood : ∀ a, good a → good' a) (hnext : ∀ a b, good a → next' a b → next a b)
    (h : Grounded next good a) : Grounded next' good' a := by
  induction h with
  | intro a ha _ ih =>
    apply Grounded.intro a (hgood a ha)
    intro b hab
    exact ih b (hnext a b ha hab)

end Grounded

end Runs
