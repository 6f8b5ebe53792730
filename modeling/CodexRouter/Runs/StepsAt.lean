import CodexRouter.Runs.Steps

/-!
# What a call may do from one state

The rules of `Steps` for a call that starts in a known state, so that what has been read or returned
on the way may be used for the rest.
-/

namespace Runs.Comp

variable {ε σ α β : Type} {R : σ → σ → Prop}

/-- The state behind the call is related to the state `s` that it starts in. -/
def StepsAt (R : σ → σ → Prop) (x : Comp ε σ α) (s : σ) : Prop := R s (x s).2

namespace StepsAt

variable {x : Comp ε σ α} {f : α → Comp ε σ β} {s : σ}

lemma ite {c : Prop} [Decidable c] {y : Comp ε σ α} (hx : c → StepsAt R x s)
    (hy : ¬ c → StepsAt R y s) : StepsAt R (if c then x else y) s := by
  split_ifs with h
  · exact hx h
  · exact hy h

lemma read_bind {γ : Type} {g : σ → γ} {f : γ → Comp ε σ β} (h : StepsAt R (f (g s)) s) :
    StepsAt R (Comp.read g >>= f) s := h

lemma pure_bind {a : α} (h : StepsAt R (f a) s) : StepsAt R (Pure.pure a >>= f) s := h

section
variable [Std.Refl R]

lemma pure (a : α) : StepsAt R (Pure.pure a : Comp ε σ α) s := Steps.pure a s

lemma lift (r : Except ε α) : StepsAt R (Comp.lift r : Comp ε σ α) s := Steps.lift r s

/-- What a pure computation throws ends the call where it started. -/
lemma lift_bind {r : Except ε α} (h : ∀ a, r = .ok a → StepsAt R (f a) s) :
    StepsAt R (Comp.lift r >>= f) s := by
  unfold StepsAt
  rw [bind_apply]
  cases hr : r with
  | ok a => exact h a hr
  | error e => exact refl s

end

section
variable [IsTrans σ R]

lemma bind (hx : StepsAt R x s) (hf : ∀ a t, x s = (.ok a, t) → R s t → StepsAt R (f a) t) :
    StepsAt R (x >>= f) s := by
  unfold StepsAt at hx ⊢
  rcases hcall : x s with ⟨e | a, t⟩
  · rw [hcall] at hx
    rw [bind_of_error hcall]
    exact hx
  · rw [hcall] at hx
    rw [bind_of_ok hcall]
    exact IsTrans.trans _ _ _ hx (hf a t hcall hx)

lemma handle {g : ε → Comp ε σ α} (hx : StepsAt R x s)
    (hg : ∀ e t, x s = (.error e, t) → R s t → StepsAt R (g e) t) :
    StepsAt R (Comp.handle x g) s := by
  unfold StepsAt at hx ⊢
  rcases hcall : x s with ⟨e | a, t⟩
  · rw [hcall] at hx
    rw [handle_of_error hcall]
    exact IsTrans.trans _ _ _ hx (hg e t hcall hx)
  · rw [hcall] at hx
    rw [handle_of_ok hcall]
    exact hx

end

/-- A loop is related when each round is, wherever the rounds before it have led. -/
lemma forM [IsPreorder σ R] {l : List α} {f : α → Comp ε σ Unit}
    (h : ∀ a ∈ l, ∀ t, R s t → StepsAt R (f a) t) : StepsAt R (l.forM f) s := by
  induction l generalizing s with
  | nil => exact pure ()
  | cons a l ih =>
    rw [List.forM_eq_forM, List.forM_cons]
    apply bind (h a List.mem_cons_self s (refl s))
    intro _ t _ hst
    exact ih fun b hb u htu => h b (List.mem_cons_of_mem a hb) u (IsTrans.trans _ _ _ hst htu)

end StepsAt

end Runs.Comp
