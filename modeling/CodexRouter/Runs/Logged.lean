import CodexRouter.Runs.Comp

/-!
# Calls that only write down

A call on a list that appends to it, whatever stands there.
-/

namespace Runs.Comp

variable {ε τ α β : Type}

/-- The call reads nothing of the list and appends to it. -/
def Logs (x : Comp ε (List τ) α) : Prop := ∀ log, x log = ((x []).1, log ++ (x []).2)

namespace Logs

variable {x : Comp ε (List τ) α} {f : α → Comp ε (List τ) β}

lemma pure (a : α) : Logs (Pure.pure a : Comp ε (List τ) α) := by
  intro log
  rw [pure_apply, pure_apply, List.append_nil]

lemma lift (r : Except ε α) : Logs (Comp.lift r : Comp ε (List τ) α) := by
  intro log
  unfold Comp.lift
  rw [List.append_nil]

lemma append (r : Except ε α) (s : List τ) : Logs fun log => (r, log ++ s) := by
  intro log
  show (r, log ++ s) = (r, log ++ ([] ++ s))
  rw [List.nil_append]

/-- Two calls write one after the other. -/
lemma bind_nil (hf : ∀ a, Logs (f a)) : (x >>= f) [] = match x [] with
    | (.ok a, s) => ((f a []).1, s ++ (f a []).2)
    | (.error e, s) => (.error e, s) := by
  rcases hx : x [] with ⟨a | a, s⟩
  · rw [bind_of_error hx]
  · rw [bind_of_ok hx, hf]

lemma bind (hx : Logs x) (hf : ∀ a, Logs (f a)) : Logs (x >>= f) := by
  intro log
  have hlog := hx log
  rw [bind_nil hf]
  rcases hnil : x [] with ⟨a | a, s⟩
  · rw [hnil] at hlog
    rw [bind_of_error hlog]
  · rw [hnil] at hlog
    rw [bind_of_ok hlog, hf, List.append_assoc]

/-- What the handler writes goes behind what was written. -/
lemma handle_nil {g : ε → Comp ε (List τ) α} (hg : ∀ e, Logs (g e)) :
    Comp.handle x g [] = match x [] with
      | (.ok a, s) => (.ok a, s)
      | (.error e, s) => ((g e []).1, s ++ (g e []).2) := by
  rcases hx : x [] with ⟨a | a, s⟩
  · rw [handle_of_error hx, hg]
  · rw [handle_of_ok hx]

lemma handle {g : ε → Comp ε (List τ) α} (hx : Logs x) (hg : ∀ e, Logs (g e)) :
    Logs (Comp.handle x g) := by
  intro log
  have hlog := hx log
  rw [handle_nil hg]
  rcases hnil : x [] with ⟨a | a, s⟩
  · rw [hnil] at hlog
    rw [handle_of_error hlog, hg, List.append_assoc]
  · rw [hnil] at hlog
    rw [handle_of_ok hlog]

end Logs

end Runs.Comp
