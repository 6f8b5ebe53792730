import Mathlib.Data.List.Pairwise

/-!
# Histories of deterministic runs

A run applies one call after the other; its history is the list of states it passes.
-/

namespace Runs

variable {σ α : Type} {step : σ → α → σ} {s : σ} {calls : List α}

/-- The states of a run, the first one included. -/
def history (step : σ → α → σ) : σ → List α → List σ
  | s, [] => [s]
  | s, a :: calls => s :: history step (step s a) calls

lemma start_mem_history (step : σ → α → σ) (s : σ) (calls : List α) :
    s ∈ history step s calls := by
  cases calls <;> simp [history]

lemma foldl_mem_history (step : σ → α → σ) (s : σ) (calls : List α) :
    calls.foldl step s ∈ history step s calls := by
  induction calls generalizing s with
  | nil => simp [history]
  | cons a calls ih => exact List.mem_cons_of_mem s (ih (step s a))

/-- What holds at the start and survives every call holds in every state. -/
theorem history_invariant {I : σ → Prop} (hs : I s) (hstep : ∀ s a, I s → I (step s a)) :
    ∀ t ∈ history step s calls, I t := by
  induction calls generalizing s with
  | nil => simpa [history] using hs
  | cons a calls ih =>
    intro t ht
    rcases List.mem_cons.mp ht with rfl | ht
    · exact hs
    · exact ih (hstep s a hs) t ht

/-- Every call of the run is permitted in the state it is made in. -/
def Permitted (permits : σ → α → Prop) (step : σ → α → σ) : σ → List α → Prop
  | _, [] => True
  | s, a :: calls => permits s a ∧ Permitted permits step (step s a) calls

instance Permitted.decidable {permits : σ → α → Prop} [∀ s a, Decidable (permits s a)] :
    ∀ (s : σ) (calls : List α), Decidable (Permitted permits step s calls)
  | _, [] => .isTrue trivial
  | s, a :: calls => @instDecidableAnd _ _ _ (decidable (step s a) calls)

/-- What holds at the start and survives every permitted call holds in every state of a run of such
calls. -/
theorem Permitted.invariant {permits : σ → α → Prop} {I : σ → Prop} (hs : I s)
    (hstep : ∀ s a, I s → permits s a → I (step s a)) (h : Permitted permits step s calls) :
    ∀ t ∈ history step s calls, I t := by
  induction calls generalizing s with
  | nil => simpa [history] using hs
  | cons a calls ih =>
    intro t ht
    rcases List.mem_cons.mp ht with rfl | ht
    · exact hs
    · exact ih (hstep s a hs h.1) h.2 t ht

/-- A preorder that every call respects relates each state to all later ones. -/
theorem history_pairwise {I : σ → Prop} {R : σ → σ → Prop} (hrefl : ∀ s, R s s)
    (htrans : ∀ s t u, R s t → R t u → R s u) (hI : ∀ t ∈ history step s calls, I t)
    (hstep : ∀ s a, I s → I (step s a) → R s (step s a)) :
    (history step s calls).Pairwise R := by
  -- the first state is related to all, so the induction carries that along
  suffices h : (∀ t ∈ history step s calls, R s t) ∧ (history step s calls).Pairwise R from h.2
  induction calls generalizing s with
  | nil => simp [history, hrefl]
  | cons a calls ih =>
    rw [history, List.forall_mem_cons] at hI
    obtain ⟨hfirst, hrest⟩ := ih hI.2
    have hnext := hstep s a hI.1 (hI.2 _ (start_mem_history step _ calls))
    have hall : ∀ t ∈ history step (step s a) calls, R s t :=
      fun t ht => htrans _ _ _ hnext (hfirst t ht)
    rw [history, List.forall_mem_cons, List.pairwise_cons]
    exact ⟨⟨hrefl s, hall⟩, hall, hrest⟩

end Runs
