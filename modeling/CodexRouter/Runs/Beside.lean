import CodexRouter.Runs.Steps

/-!
# Calls on one half of a state

A call on one state is a call on a pair of states that leaves the other half alone. Whatever is put
together from such calls is one itself.
-/

namespace Runs.Comp

variable {ε σ τ α β : Type}

/-- A call on the first half. -/
def first (x : Comp ε σ α) : Comp ε (σ × τ) α := fun s => ((x s.1).1, (x s.1).2, s.2)

/-- A call on the second half. -/
def second (x : Comp ε τ α) : Comp ε (σ × τ) α := fun s => ((x s.2).1, s.1, (x s.2).2)

lemma first_of_eq {x : Comp ε σ α} {s s' : σ} {r : Except ε α} (h : x s = (r, s')) (t : τ) :
    (x.first : Comp ε (σ × τ) α) (s, t) = (r, s', t) := by
  unfold first
  rw [h]

lemma second_of_eq {x : Comp ε τ α} {t t' : τ} {r : Except ε α} (h : x t = (r, t')) (s : σ) :
    (x.second : Comp ε (σ × τ) α) (s, t) = (r, s, t') := by
  unfold second
  rw [h]

/-! ## What is put together -/

lemma first_lift (r : Except ε α) : (lift r : Comp ε σ α).first = (lift r : Comp ε (σ × τ) α) := rfl

lemma first_pure (a : α) : (pure a : Comp ε σ α).first = (pure a : Comp ε (σ × τ) α) := rfl

lemma first_bind (x : Comp ε σ α) (f : α → Comp ε σ β) :
    ((x >>= f).first : Comp ε (σ × τ) β) = x.first >>= fun a => (f a).first := by
  funext s
  show (((x >>= f) s.1).1, ((x >>= f) s.1).2, s.2) = _
  rcases hx : x s.1 with ⟨e | a, t⟩
  · have hfirst : (x.first : Comp ε (σ × τ) α) s = (.error e, t, s.2) := first_of_eq hx s.2
    rw [bind_of_error hx, bind_of_error hfirst]
  · have hfirst : (x.first : Comp ε (σ × τ) α) s = (.ok a, t, s.2) := first_of_eq hx s.2
    rw [bind_of_ok hx, bind_of_ok hfirst]
    rfl

lemma first_handle (x : Comp ε σ α) (f : ε → Comp ε σ α) :
    ((handle x f).first : Comp ε (σ × τ) α) = handle x.first fun e => (f e).first := by
  funext s
  show ((handle x f s.1).1, (handle x f s.1).2, s.2) = _
  rcases hx : x s.1 with ⟨e | a, t⟩
  · have hfirst : (x.first : Comp ε (σ × τ) α) s = (.error e, t, s.2) := first_of_eq hx s.2
    rw [handle_of_error hx, handle_of_error hfirst]
    rfl
  · have hfirst : (x.first : Comp ε (σ × τ) α) s = (.ok a, t, s.2) := first_of_eq hx s.2
    rw [handle_of_ok hx, handle_of_ok hfirst]

lemma first_mapM (l : List α) (f : α → Comp ε σ β) :
    ((l.mapM f).first : Comp ε (σ × τ) (List β)) = l.mapM fun a => (f a).first := by
  induction l with
  | nil => rfl
  | cons a l ih =>
    rw [List.mapM_cons, List.mapM_cons, first_bind]
    congr 1
    funext b
    rw [first_bind, ih]
    rfl

/-! ## The other half -/

/-- The first half stays. -/
def SameFirst (s t : σ × τ) : Prop := t.1 = s.1

/-- The second half stays. -/
def SameSecond (s t : σ × τ) : Prop := t.2 = s.2

instance : IsPreorder (σ × τ) SameFirst where
  refl _ := rfl
  trans _ _ _ hst htu := htu.trans hst

instance : IsPreorder (σ × τ) SameSecond where
  refl _ := rfl
  trans _ _ _ hst htu := htu.trans hst

lemma steps_first (x : Comp ε σ α) : Steps SameSecond (x.first : Comp ε (σ × τ) α) := fun _ => rfl

lemma steps_second (x : Comp ε τ α) : Steps SameFirst (x.second : Comp ε (σ × τ) α) := fun _ => rfl

end Runs.Comp
