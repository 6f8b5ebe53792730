import Mathlib.Data.Set.Finite.List
import Mathlib.Order.Lattice.Nat
import Mathlib.Order.Preorder.Finite

/-!
# Rules of different specificity

A rule has a pattern and a level. At a point the most specific rules that match decide, and of these
the lowest level. Leaving rules out can raise a level, since a rule may have stood in the way of
a less specific one; it cannot when every rule left out has at least the levels that stay.
-/

namespace Specificity

structure Rule (Pattern : Type) where
  pattern : Pattern
  level : ℕ

variable {Pattern Point : Type} [PartialOrder Pattern] {Matches : Pattern → Point → Prop}

/-- The rule matches, and no rule that matches is more specific. -/
structure Decisive (Matches : Pattern → Point → Prop) (rules : List (Rule Pattern)) (point : Point)
    (rule : Rule Pattern) : Prop where
  mem : rule ∈ rules
  covers : Matches rule.pattern point
  maximal : ∀ other ∈ rules, Matches other.pattern point → ¬ rule.pattern < other.pattern

/-- The lowest level of a decisive rule, and zero where no rule matches. -/
noncomputable def level (Matches : Pattern → Point → Prop) (rules : List (Rule Pattern))
    (point : Point) : ℕ :=
  sInf {n | ∃ rule, Decisive Matches rules point rule ∧ rule.level = n}

variable {rules narrowed : List (Rule Pattern)} {point : Point} {rule : Rule Pattern}

/-- Where a rule matches, one of those that match is decisive. -/
lemma exists_decisive (hmem : rule ∈ rules) (hcovers : Matches rule.pattern point) :
    ∃ decisive, Decisive Matches rules point decisive := by
  have hfinite : {r | r ∈ rules ∧ Matches r.pattern point}.Finite :=
    rules.finite_toSet.subset fun _ hr => hr.1
  obtain ⟨decisive, hdecisive, hmaximal⟩ :=
    hfinite.exists_maximalFor Rule.pattern _ ⟨rule, hmem, hcovers⟩
  use decisive
  refine ⟨hdecisive.1, hdecisive.2, ?_⟩
  intro other hother hmatches hlt
  exact hlt.not_ge (hmaximal ⟨hother, hmatches⟩ hlt.le)

lemma level_le (h : Decisive Matches rules point rule) : level Matches rules point ≤ rule.level :=
  Nat.sInf_le ⟨rule, h, rfl⟩

lemma exists_level (h : Decisive Matches rules point rule) :
    ∃ lowest, Decisive Matches rules point lowest ∧ lowest.level = level Matches rules point :=
  Nat.sInf_mem (s := {n | ∃ r, Decisive Matches rules point r ∧ r.level = n}) ⟨_, rule, h, rfl⟩

lemma level_eq_zero (h : ∀ rule, ¬ Decisive Matches rules point rule) :
    level Matches rules point = 0 := by
  have hempty : {n | ∃ rule, Decisive Matches rules point rule ∧ rule.level = n} = ∅ := by
    ext n
    simp [h]
  unfold level
  rw [hempty, Nat.sInf_empty]

/-- What decides among all rules decides among some of them. -/
lemma Decisive.narrow (h : Decisive Matches rules point rule)
    (hsub : ∀ r ∈ narrowed, r ∈ rules) (hmem : rule ∈ narrowed) :
    Decisive Matches narrowed point rule :=
  ⟨hmem, h.covers, fun other hother => h.maximal other (hsub other hother)⟩

/-- No level rises when every rule left out has at least the levels that stay. -/
theorem level_narrow (hsub : ∀ r ∈ narrowed, r ∈ rules)
    (hdropped : ∀ r ∈ rules, r ∉ narrowed → ∀ kept ∈ narrowed, kept.level ≤ r.level) :
    level Matches narrowed point ≤ level Matches rules point := by
  by_cases hnarrowed : ∃ kept, Decisive Matches narrowed point kept
  · obtain ⟨kept, hkept⟩ := hnarrowed
    obtain ⟨first, hfirst⟩ := exists_decisive (hsub kept hkept.mem) hkept.covers
    obtain ⟨lowest, hlowest, heq⟩ := exists_level hfirst
    rw [← heq]
    by_cases hmem : lowest ∈ narrowed
    · exact level_le (hlowest.narrow hsub hmem)
    · exact (level_le hkept).trans (hdropped lowest hlowest.mem hmem kept hkept.mem)
  · rw [level_eq_zero (not_exists.mp hnarrowed)]
    exact Nat.zero_le _

end Specificity
