import Mathlib.Data.List.Forall2

/-!
# Sequences of calls

An object answers one call after the other and changes its state. Two objects whose states stay
related under every call answer every sequence of calls alike.
-/

namespace Runs

variable {σ τ κ ο ρ : Type}

/-- The outcomes of a sequence of calls. -/
def outcomes (call : σ → κ → ο × σ) : σ → List κ → List ο
  | _, [] => []
  | s, c :: calls => (call s c).1 :: outcomes call (call s c).2 calls

/-- The state behind a sequence of calls. -/
def behind (call : σ → κ → ο × σ) (s : σ) (calls : List κ) : σ :=
  calls.foldl (fun s c => (call s c).2) s

/-- Related states give related outcomes. -/
theorem outcomes_related {call : σ → κ → ο × σ} {call' : τ → κ → ρ × τ} {R : σ → τ → Prop}
    {Q : ο → ρ → Prop}
    (hstep : ∀ s t c, R s t → Q (call s c).1 (call' t c).1 ∧ R (call s c).2 (call' t c).2)
    {s : σ} {t : τ} (h : R s t) (calls : List κ) :
    List.Forall₂ Q (outcomes call s calls) (outcomes call' t calls) := by
  induction calls generalizing s t with
  | nil => exact List.Forall₂.nil
  | cons c calls ih =>
    obtain ⟨hq, hr⟩ := hstep s t c h
    exact List.Forall₂.cons hq (ih hr)

/-- What holds at the start and survives every call holds behind any calls. -/
theorem behind_invariant {call : σ → κ → ο × σ} {I : σ → Prop}
    (hstep : ∀ s c, I s → I (call s c).2) {s : σ} (h : I s) (calls : List κ) :
    I (behind call s calls) := by
  induction calls generalizing s with
  | nil => exact h
  | cons c calls ih => exact ih (hstep s c h)

/-- What every call of a sequence does to the state, the sequence does. -/
theorem behind_related {call : σ → κ → ο × σ} {R : σ → σ → Prop} (hrefl : ∀ s, R s s)
    (htrans : ∀ {s t u}, R s t → R t u → R s u) {calls : List κ}
    (hstep : ∀ c ∈ calls, ∀ s, R s (call s c).2) (s : σ) : R s (behind call s calls) := by
  induction calls generalizing s with
  | nil => exact hrefl s
  | cons c calls ih =>
    rw [List.forall_mem_cons] at hstep
    exact htrans (hstep.1 s) (ih hstep.2 (call s c).2)

lemma behind_append (call : σ → κ → ο × σ) (s : σ) (before after : List κ) :
    behind call s (before ++ after) = behind call (behind call s before) after :=
  List.foldl_append

/-- A call that leaves the state leaves every later outcome. -/
theorem outcomes_without {call : σ → κ → ο × σ} {s : σ} {c : κ}
    (before after : List κ)
    (h : (call (behind call s before) c).2 = behind call s before) :
    outcomes call s (before ++ c :: after) =
      outcomes call s before ++ (call (behind call s before) c).1 ::
        outcomes call (behind call s before) after := by
  induction before generalizing s with
  | nil =>
    have hs : (call s c).2 = s := h
    simp [outcomes, behind, hs]
  | cons b before ih =>
    simp only [List.cons_append, outcomes]
    rw [ih h]
    rfl

lemma outcomes_append (call : σ → κ → ο × σ) (s : σ) (before after : List κ) :
    outcomes call s (before ++ after) =
      outcomes call s before ++ outcomes call (behind call s before) after := by
  induction before generalizing s with
  | nil => rfl
  | cons b before ih =>
    simp only [List.cons_append, outcomes]
    rw [ih]
    rfl

lemma length_outcomes (call : σ → κ → ο × σ) (s : σ) (calls : List κ) :
    (outcomes call s calls).length = calls.length := by
  induction calls generalizing s with
  | nil => rfl
  | cons c calls ih => rw [outcomes, List.length_cons, List.length_cons, ih]

/-- Two objects answer a sequence of calls alike when they answer each call alike where it is
made. -/
theorem outcomes_eq_iff {call : σ → κ → ο × σ} {call' : τ → κ → ο × τ} {s : σ} {t : τ}
    {calls : List κ} : outcomes call s calls = outcomes call' t calls ↔
      ∀ before c after, calls = before ++ c :: after →
        (call (behind call s before) c).1 = (call' (behind call' t before) c).1 := by
  induction calls generalizing s t with
  | nil => simp [outcomes]
  | cons d calls ih =>
    rw [outcomes, outcomes, List.cons.injEq, ih]
    constructor
    · intro ⟨hd, hrest⟩ before c after he
      cases before with
      | nil =>
        rw [List.nil_append, List.cons.injEq] at he
        rw [← he.1]
        exact hd
      | cons b before =>
        rw [List.cons_append, List.cons.injEq] at he
        rw [← he.1]
        exact hrest before c after he.2
    · intro h
      refine ⟨h [] d calls rfl, ?_⟩
      intro before c after he
      exact h (d :: before) c after (by rw [he, List.cons_append])

lemma behind_concat (call : σ → κ → ο × σ) (s : σ) (calls : List κ) (c : κ) :
    behind call s (calls ++ [c]) = (call (behind call s calls) c).2 :=
  behind_append call s calls [c]

end Runs
