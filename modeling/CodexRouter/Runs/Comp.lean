import Mathlib.Logic.Relation

/-!
# Calls that change a state and may throw

What a call has done to the state before it throws stays done.
-/

namespace Runs

/-- A call on a state: a result or a thrown value, and the state behind it. -/
def Comp (ε σ α : Type) := σ → Except ε α × σ

namespace Comp

variable {ε σ α β : Type}

protected def pure (a : α) : Comp ε σ α := fun s => (.ok a, s)

protected def bind (x : Comp ε σ α) (f : α → Comp ε σ β) : Comp ε σ β := fun s =>
  match x s with
  | (.ok a, s) => f a s
  | (.error e, s) => (.error e, s)

instance : Monad (Comp ε σ) where
  pure := Comp.pure
  bind := Comp.bind

/-- A part of the state. -/
def read (f : σ → α) : Comp ε σ α := fun s => (.ok (f s), s)

def modify (f : σ → σ) : Comp ε σ Unit := fun s => (.ok (), f s)

/-- A call that does not touch the state. -/
def lift (x : Except ε α) : Comp ε σ α := fun s => (x, s)

/-- A call that changes the state only when it returns. -/
def attempt (f : σ → Except ε (α × σ)) : Comp ε σ α := fun s =>
  match f s with
  | .ok (a, s) => (.ok a, s)
  | .error e => (.error e, s)

/-- A call with a handler of what it throws. -/
def handle (x : Comp ε σ α) (f : ε → Comp ε σ α) : Comp ε σ α := fun s =>
  match x s with
  | (.ok a, s) => (.ok a, s)
  | (.error e, s) => f e s

lemma pure_apply (a : α) (s : σ) : (pure a : Comp ε σ α) s = (.ok a, s) := rfl

lemma bind_apply (x : Comp ε σ α) (f : α → Comp ε σ β) (s : σ) :
    (x >>= f) s = match x s with
      | (.ok a, s) => f a s
      | (.error e, s) => (.error e, s) := rfl

/-- Behind a call that returned, the rest runs. -/
lemma bind_of_ok {x : Comp ε σ α} {f : α → Comp ε σ β} {s s' : σ} {a : α}
    (h : x s = (.ok a, s')) : (x >>= f) s = f a s' := by
  rw [bind_apply, h]

/-- A thrown value ends the whole. -/
lemma bind_of_error {x : Comp ε σ α} {f : α → Comp ε σ β} {s s' : σ} {e : ε}
    (h : x s = (.error e, s')) : (x >>= f) s = (.error e, s') := by
  rw [bind_apply, h]

lemma handle_of_ok {x : Comp ε σ α} {f : ε → Comp ε σ α} {s s' : σ} {a : α}
    (h : x s = (.ok a, s')) : handle x f s = (.ok a, s') := by
  unfold handle
  rw [h]

lemma handle_of_error {x : Comp ε σ α} {f : ε → Comp ε σ α} {s s' : σ} {e : ε}
    (h : x s = (.error e, s')) : handle x f s = f e s' := by
  unfold handle
  rw [h]

/-- What returns at the end has returned on the way. -/
instance : LawfulMonad (Comp ε σ) :=
  LawfulMonad.mk' _
    (fun x => by
      funext s
      change Comp.bind x Comp.pure s = x s
      unfold Comp.bind
      rcases x s with ⟨e | a, t⟩ <;> rfl)
    (fun _ _ => rfl)
    (fun x f g => by
      funext s
      change Comp.bind (Comp.bind x f) g s = Comp.bind x (fun a => Comp.bind (f a) g) s
      unfold Comp.bind
      rcases x s with ⟨e | a, t⟩ <;> rfl)

lemma exists_of_bind_ok {x : Comp ε σ α} {f : α → Comp ε σ β} {s t : σ} {b : β}
    (h : (x >>= f) s = (.ok b, t)) : ∃ a s', x s = (.ok a, s') ∧ f a s' = (.ok b, t) := by
  rw [bind_apply] at h
  split at h
  · exact ⟨_, _, ‹_›, h⟩
  · exact nomatch (Prod.mk.inj h).1

lemma eq_of_pure_ok {a b : α} {s t : σ} (h : (pure a : Comp ε σ α) s = (.ok b, t)) :
    a = b ∧ s = t :=
  ⟨Except.ok.inj (Prod.mk.inj h).1, (Prod.mk.inj h).2⟩

lemma eq_of_read_ok {f : σ → α} {s t : σ} {a : α} (h : (read f : Comp ε σ α) s = (.ok a, t)) :
    f s = a ∧ s = t :=
  ⟨Except.ok.inj (Prod.mk.inj h).1, (Prod.mk.inj h).2⟩

lemma eq_of_modify_ok {f : σ → σ} {s t : σ} {a : Unit}
    (h : (modify f : Comp ε σ Unit) s = (.ok a, t)) : f s = t :=
  (Prod.mk.inj h).2

lemma eq_of_lift_ok {x : Except ε α} {s t : σ} {a : α}
    (h : (lift x : Comp ε σ α) s = (.ok a, t)) : x = .ok a ∧ s = t :=
  Prod.mk.inj h

lemma map_apply (f : α → β) (x : Comp ε σ α) (s : σ) :
    (f <$> x) s = match x s with
      | (.ok a, s) => (.ok (f a), s)
      | (.error e, s) => (.error e, s) := rfl

/-! ## Rules

A call started where `P` holds ends in a state related by `R` to the first one, whether it returns
or throws; where it returns `a`, `Q a` holds. -/

def Triple (R : σ → σ → Prop) (P : σ → Prop) (x : Comp ε σ α) (Q : α → σ → Prop) : Prop :=
  ∀ s, P s → R s (x s).2 ∧ ∀ a, (x s).1 = .ok a → Q a (x s).2

namespace Triple

variable {R : σ → σ → Prop} {P P' : σ → Prop} {x : Comp ε σ α} {f : α → Comp ε σ β}
  {Q Q' : α → σ → Prop} {T : β → σ → Prop}

lemma pure (hrefl : ∀ s, R s s) {a : α} (h : ∀ s, P s → Q a s) :
    Triple R P (Pure.pure a : Comp ε σ α) Q := by
  intro s hs
  refine ⟨hrefl s, fun b hb => ?_⟩
  cases hb
  exact h s hs

lemma read (hrefl : ∀ s, R s s) {g : σ → α} (h : ∀ s, P s → Q (g s) s) :
    Triple R P (Comp.read g : Comp ε σ α) Q := by
  intro s hs
  refine ⟨hrefl s, fun b hb => ?_⟩
  cases hb
  exact h s hs

lemma lift (hrefl : ∀ s, R s s) {r : Except ε α} (h : ∀ s a, P s → r = .ok a → Q a s) :
    Triple R P (Comp.lift r) Q := by
  intro s hs
  exact ⟨hrefl s, fun a ha => h s a hs ha⟩

lemma modify {g : σ → σ} {Q : Unit → σ → Prop} (h : ∀ s, P s → R s (g s) ∧ Q () (g s)) :
    Triple R P (Comp.modify g : Comp ε σ Unit) Q := by
  intro s hs
  exact ⟨(h s hs).1, fun _ _ => (h s hs).2⟩

/-- One call after the other. -/
theorem bind (htrans : ∀ s t u, R s t → R t u → R s u) (hx : Triple R P x Q)
    (hf : ∀ a, Triple R (Q a) (f a) T) : Triple R P (x >>= f) T := by
  intro s hs
  obtain ⟨hfirst, hreturns⟩ := hx s hs
  rw [bind_apply]
  split
  · rename_i a t heq
    rw [heq] at hfirst hreturns
    obtain ⟨hrest, hpost⟩ := hf a t (hreturns a rfl)
    exact ⟨htrans s t _ hfirst hrest, hpost⟩
  · rename_i e t heq
    rw [heq] at hfirst
    exact ⟨hfirst, nofun⟩

lemma map (hx : Triple R P x Q) {g : α → β} (h : ∀ a s, Q a s → T (g a) s) :
    Triple R P (g <$> x) T := by
  intro s hs
  obtain ⟨hfirst, hreturns⟩ := hx s hs
  rw [map_apply]
  split
  · rename_i a t heq
    rw [heq] at hfirst hreturns
    refine ⟨hfirst, fun b hb => ?_⟩
    cases hb
    exact h a t (hreturns a rfl)
  · rename_i e t heq
    rw [heq] at hfirst
    exact ⟨hfirst, nofun⟩

lemma weaken (hx : Triple R P x Q) (hP : ∀ s, P' s → P s) (hQ : ∀ a s, Q a s → Q' a s) :
    Triple R P' x Q' := by
  intro s hs
  obtain ⟨hfirst, hreturns⟩ := hx s (hP s hs)
  exact ⟨hfirst, fun a ha => hQ a _ (hreturns a ha)⟩

end Triple

/-! ## Two calls side by side

Calls started in states with `P` both return, with `Q` behind them, or both throw the same value,
with `E` behind them. -/

variable {τ γ δ : Type}

def Pair (P : σ → τ → Prop) (x : Comp ε σ α) (y : Comp ε τ β) (Q : α → β → σ → τ → Prop)
    (E : σ → τ → Prop) : Prop :=
  ∀ s t, P s t →
    (∃ a b s' t', x s = (.ok a, s') ∧ y t = (.ok b, t') ∧ Q a b s' t') ∨
      ∃ e s' t', x s = (.error e, s') ∧ y t = (.error e, t') ∧ E s' t'

namespace Pair

variable {P P' : σ → τ → Prop} {x : Comp ε σ α} {y : Comp ε τ β} {Q Q' : α → β → σ → τ → Prop}
  {E : σ → τ → Prop} {f : α → Comp ε σ γ} {g : β → Comp ε τ δ} {T : γ → δ → σ → τ → Prop}

lemma pure {a : α} {b : β} (h : ∀ s t, P s t → Q a b s t) :
    Pair P (Pure.pure a : Comp ε σ α) (Pure.pure b : Comp ε τ β) Q E := by
  intro s t hst
  exact Or.inl ⟨a, b, s, t, rfl, rfl, h s t hst⟩

lemma read {u : σ → α} {v : τ → β} (h : ∀ s t, P s t → Q (u s) (v t) s t) :
    Pair P (Comp.read u : Comp ε σ α) (Comp.read v : Comp ε τ β) Q E := by
  intro s t hst
  exact Or.inl ⟨u s, v t, s, t, rfl, rfl, h s t hst⟩

/-- The same result, or the same thrown value. -/
lemma lift {r : Except ε α} (herror : ∀ s t, P s t → E s t) :
    Pair P (Comp.lift r) (Comp.lift r) (fun a b s t => (a = b ∧ r = .ok a) ∧ P s t) E := by
  intro s t hst
  cases hr : r with
  | ok a => exact Or.inl ⟨a, a, s, t, rfl, rfl, ⟨rfl, rfl⟩, hst⟩
  | error e => exact Or.inr ⟨e, s, t, rfl, rfl, herror s t hst⟩

/-- What follows from a condition on the states that is also a fact. -/
lemma of_fact {φ : Prop} (h : φ → Pair P x y Q E) : Pair (fun s t => φ ∧ P s t) x y Q E := by
  intro s t hst
  exact h hst.1 s t hst.2

theorem bind (hx : Pair P x y Q E) (hf : ∀ a b, Pair (Q a b) (f a) (g b) T E) :
    Pair P (x >>= f) (y >>= g) T E := by
  intro s t hst
  rcases hx s t hst with ⟨a, b, s', t', hs, ht, hq⟩ | ⟨e, s', t', hs, ht, he⟩
  · rw [bind_of_ok hs, bind_of_ok ht]
    exact hf a b s' t' hq
  · exact Or.inr ⟨e, s', t', bind_of_error hs, bind_of_error ht, he⟩

lemma map (hx : Pair P x y Q E) {u : α → γ} {v : β → δ}
    (h : ∀ a b s t, Q a b s t → T (u a) (v b) s t) : Pair P (u <$> x) (v <$> y) T E := by
  intro s t hst
  rw [map_apply, map_apply]
  rcases hx s t hst with ⟨a, b, s', t', hs, ht, hq⟩ | ⟨e, s', t', hs, ht, he⟩
  · rw [hs, ht]
    exact Or.inl ⟨u a, v b, s', t', rfl, rfl, h a b s' t' hq⟩
  · rw [hs, ht]
    exact Or.inr ⟨e, s', t', rfl, rfl, he⟩

lemma weaken (hx : Pair P x y Q E) (hP : ∀ s t, P' s t → P s t)
    (hQ : ∀ a b s t, Q a b s t → Q' a b s t) : Pair P' x y Q' E := by
  intro s t hst
  rcases hx s t (hP s t hst) with ⟨a, b, s', t', hs, ht, hq⟩ | h
  · exact Or.inl ⟨a, b, s', t', hs, ht, hQ a b s' t' hq⟩
  · exact Or.inr h

end Pair

end Comp

end Runs
