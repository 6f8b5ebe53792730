import CodexRouter.Runs.Comp
import Mathlib.Order.Defs.Unbundled
import Mathlib.Tactic.SplitIfs

/-!
# What a call may do to the state

A preorder on the states holds across a whole call when it holds across its parts, whether the
call returns or throws.
-/

namespace Runs.Comp

variable {ε σ α β : Type} {R : σ → σ → Prop}

/-- The state behind the call is related to the state before it. -/
def Steps (R : σ → σ → Prop) (x : Comp ε σ α) : Prop := ∀ s, R s (x s).2

namespace Steps

variable {x : Comp ε σ α} {f : α → Comp ε σ β}

lemma modify {g : σ → σ} (h : ∀ s, R s (g s)) : Steps R (Comp.modify g : Comp ε σ Unit) := h

lemma attempt {f : σ → Except ε (α × σ)} [Std.Refl R]
    (h : ∀ s a s', f s = .ok (a, s') → R s s') : Steps R (Comp.attempt f) := by
  intro s
  unfold Comp.attempt
  split
  · exact h s _ _ ‹_›
  · exact refl s

lemma mono {S : σ → σ → Prop} (hx : Steps R x) (h : ∀ s t, R s t → S s t) : Steps S x :=
  fun s => h s _ (hx s)

lemma ite {c : Prop} [Decidable c] {y : Comp ε σ α} (hx : Steps R x) (hy : Steps R y) :
    Steps R (if c then x else y) := by
  split_ifs
  · exact hx
  · exact hy

section
variable [Std.Refl R]

lemma pure (a : α) : Steps R (Pure.pure a : Comp ε σ α) := fun s => refl s

lemma read (g : σ → α) : Steps R (Comp.read g : Comp ε σ α) := fun s => refl s

lemma lift (r : Except ε α) : Steps R (Comp.lift r : Comp ε σ α) := fun s => refl s

end

section
variable [IsTrans σ R]

lemma bind (hx : Steps R x) (hf : ∀ a, Steps R (f a)) : Steps R (x >>= f) := by
  intro s
  have hfirst := hx s
  rw [bind_apply]
  split
  · rename_i a t heq
    rw [heq] at hfirst
    exact IsTrans.trans _ _ _ hfirst (hf a t)
  · rename_i e t heq
    rw [heq] at hfirst
    exact hfirst

lemma handle {g : ε → Comp ε σ α} (hx : Steps R x) (hg : ∀ e, Steps R (g e)) :
    Steps R (Comp.handle x g) := by
  intro s
  have hfirst := hx s
  unfold Comp.handle
  split
  · rename_i a t heq
    rw [heq] at hfirst
    exact hfirst
  · rename_i e t heq
    rw [heq] at hfirst
    exact IsTrans.trans _ _ _ hfirst (hg e t)

end

lemma map (hx : Steps R x) (g : α → β) : Steps R (g <$> x) := by
  intro s
  have hfirst := hx s
  rw [map_apply]
  split <;> rename_i heq <;> rw [heq] at hfirst <;> exact hfirst

lemma read_bind [IsPreorder σ R] {g : σ → α} (hf : ∀ a, Steps R (f a)) :
    Steps R (Comp.read g >>= f) := bind (read g) hf

/-- A list of calls relates its states when each call does. -/
lemma mapM [IsPreorder σ R] {l : List α} {f : α → Comp ε σ β} (h : ∀ a ∈ l, Steps R (f a)) :
    Steps R (l.mapM f) := by
  induction l with
  | nil => exact pure []
  | cons a l ih =>
    rw [List.mapM_cons]
    apply bind (h a List.mem_cons_self)
    intro b
    apply bind (ih fun c hc => h c (List.mem_cons_of_mem a hc))
    intro r
    exact pure (b :: r)

/-- A loop relates its states when each round does. -/
lemma forM [IsPreorder σ R] {l : List α} {f : α → Comp ε σ Unit} (h : ∀ a ∈ l, Steps R (f a)) :
    Steps R (l.forM f) := by
  induction l with
  | nil => exact pure ()
  | cons a l ih =>
    rw [List.forM_eq_forM, List.forM_cons]
    apply bind (h a List.mem_cons_self)
    intro _
    exact ih fun b hb => h b (List.mem_cons_of_mem a hb)

end Steps

end Runs.Comp
