import CodexRouter.Js.Text

/-!
# Calls that may throw

`Result α` is a call that returns an `α` or throws. A schema is the list of its issues.
-/

namespace Js

/-- A thrown value: an `Error` with its message, or the issues of a schema. -/
inductive Thrown where
  | error (message : Str)
  | schema (issues : List (List Str × Str))
  deriving DecidableEq

/-- What a fallible call returns. -/
abbrev Result (α : Type) := Except Thrown α

def fail {α : Type} (message : Str) : Result α := .error (.error message)

/-- `try { return call } catch { return fallback }`. -/
def Result.orElse {α : Type} (call : Result α) (fallback : α) : α :=
  match call with
  | .ok a => a
  | .error _ => fallback

@[simp] lemma bind_eq_ok {α β : Type} {x : Result α} {f : α → Result β} {b : β} :
    (x >>= f) = .ok b ↔ ∃ a, x = .ok a ∧ f a = .ok b := by
  cases x with
  | error e => simp [bind, Except.bind]
  | ok a => simp [bind, Except.bind]

@[simp] lemma map_eq_ok {α β : Type} {x : Result α} {f : α → β} {b : β} :
    f <$> x = .ok b ↔ ∃ a, x = .ok a ∧ f a = b := by
  cases x with
  | error e => simp [Functor.map, Except.map]
  | ok a => simp [Functor.map, Except.map]

@[simp] lemma pure_eq_ok {α : Type} {a b : α} : (pure a : Result α) = .ok b ↔ a = b := by
  simp [pure, Except.pure]

@[simp] lemma fail_ne_ok {α : Type} {message : Str} {a : α} : fail message ≠ .ok a := by
  simp [fail]

@[simp] lemma ok_bind {α β : Type} (a : α) (f : α → Result β) :
    ((.ok a : Result α) >>= f) = f a := rfl

@[simp] lemma fail_bind {α β : Type} (message : Str) (f : α → Result β) :
    (fail message >>= f) = fail message := rfl

/-- The call returns. -/
def Result.returns {α : Type} : Result α → Bool
  | .ok _ => true
  | .error _ => false

lemma Result.exists_ok {α : Type} {call : Result α} (h : call.returns = true) :
    ∃ a, call = .ok a := by
  cases call with
  | error e => simp [Result.returns] at h
  | ok a => exact ⟨a, rfl⟩

lemma Result.orElse_false {call : Result Bool} : call.orElse false = true ↔ call = .ok true := by
  cases call <;> simp [Result.orElse]

lemma mapM_eq_ok {α β : Type} {f : α → Result β} {l : List α} {r : List β} :
    l.mapM f = .ok r ↔ List.Forall₂ (fun a b => f a = .ok b) l r := by
  induction l generalizing r with
  | nil =>
    rw [List.mapM_nil, pure_eq_ok, List.forall₂_nil_left_iff]
    exact eq_comm
  | cons a l ih =>
    simp only [List.mapM_cons, bind_eq_ok, pure_eq_ok, ih, List.forall₂_cons_left_iff]
    constructor
    · rintro ⟨b, hb, r, hr, rfl⟩
      exact ⟨b, r, hb, hr, rfl⟩
    · rintro ⟨b, r, hb, hr, rfl⟩
      exact ⟨b, hb, r, hr, rfl⟩

lemma exists_mem_mapM {α β : Type} {f : α → Result β} {l : List α} {r : List β}
    (h : l.mapM f = .ok r) (p : β → Prop) :
    (∃ b ∈ r, p b) ↔ ∃ a ∈ l, ∃ b, f a = .ok b ∧ p b := by
  rw [mapM_eq_ok] at h
  induction h with
  | nil => simp
  | cons hb _ ih => simp [hb, ih]

lemma exists_of_mapM {α β : Type} {f : α → Result β} {l : List α} {r : List β}
    (h : l.mapM f = .ok r) : ∀ a ∈ l, ∃ b ∈ r, f a = .ok b := by
  rw [mapM_eq_ok] at h
  induction h with
  | nil => simp
  | @cons a b l r hb _ ih =>
    rw [List.forall_mem_cons]
    refine ⟨⟨b, List.mem_cons_self, hb⟩, ?_⟩
    intro c hc
    obtain ⟨d, hd, hcd⟩ := ih c hc
    exact ⟨d, List.mem_cons_of_mem b hd, hcd⟩

lemma mapM_returns {α β : Type} {f : α → Result β} {l : List α}
    (h : ∀ a ∈ l, ∃ b, f a = .ok b) : ∃ r, l.mapM f = .ok r := by
  induction l with
  | nil => exact ⟨[], rfl⟩
  | cons a l ih =>
    obtain ⟨b, hb⟩ := h a (by simp)
    obtain ⟨r, hr⟩ := ih fun c hc => h c (by simp [hc])
    exact ⟨b :: r, by simp [List.mapM_cons, hb, hr, pure, Except.pure]⟩

lemma anyM_eq_true {α : Type} {f : α → Result Bool} {l : List α}
    (hreturns : ∀ a ∈ l, ∃ b, f a = .ok b) (h : ∃ a ∈ l, f a = .ok true) :
    l.anyM f = .ok true := by
  induction l with
  | nil => simp at h
  | cons a l ih =>
    obtain ⟨b, hb⟩ := hreturns a (by simp)
    cases b with
    | true => simp [List.anyM, hb, pure, Except.pure]
    | false =>
      obtain ⟨c, hc, hct⟩ := h
      have hne : c ∈ l := (List.mem_cons.mp hc).resolve_left (by rintro rfl; simp [hb] at hct)
      simp [List.anyM, hb, ih (fun d hd => hreturns d (by simp [hd])) ⟨c, hne, hct⟩]

lemma allM_eq_true {α : Type} {f : α → Result Bool} {l : List α}
    (h : ∀ a ∈ l, f a = .ok true) : l.allM f = .ok true := by
  induction l with
  | nil => rfl
  | cons a l ih => simp [List.allM, h a (by simp), ih fun b hb => h b (by simp [hb])]

/-! ## Schema checks -/

/-- An issue: the path of the field and the message. -/
abbrev Issue := List Str × Str

def issue (path : List Str) (message : Str) : List Issue := [(path, message)]

/-- The issues of a field, below its key. -/
def under (key : Str) (issues : List Issue) : List Issue :=
  issues.map fun (path, message) => (key :: path, message)

/-- `z.string().min(1)`. -/
def nonEmpty (s : Str) : List Issue :=
  if s = [] then issue [] "String must contain at least 1 character(s)" else []

/-- `.optional()`. -/
def optionally {α : Type} (check : α → List Issue) : Option α → List Issue
  | none => []
  | some a => check a

/-- `z.array(item)`; an element's key is its index. -/
def each {α : Type} (check : α → List Issue) (l : List α) : List Issue :=
  (l.zipIdx.map fun (a, i) => under (Nat.toDigits 10 i |>.map cu) (check a)).flatten

/-- `z.array(item).min(1)`. -/
def eachNonEmpty {α : Type} (check : α → List Issue) (l : List α) : List Issue :=
  (if l = [] then issue [] "Array must contain at least 1 element(s)" else []) ++ each check l

/-- A refinement: the issue is raised when the condition fails. -/
def require (ok : Bool) (path : List Str) (message : Str) : List Issue :=
  if ok then [] else issue path message

/-- `schema.parse(value)`. -/
def parse {α : Type} (check : α → List Issue) (a : α) : Result α :=
  if check a = [] then .ok a else .error (.schema (check a))

@[simp] lemma under_eq_nil {key : Str} {issues : List Issue} :
    under key issues = [] ↔ issues = [] := by
  simp [under]

@[simp] lemma nonEmpty_eq_nil {s : Str} : nonEmpty s = [] ↔ s ≠ [] := by
  simp [nonEmpty, issue]

@[simp] lemma require_eq_nil {ok : Bool} {path : List Str} {message : Str} :
    require ok path message = [] ↔ ok = true := by
  cases ok <;> simp [require, issue]

@[simp] lemma optionally_eq_nil {α : Type} {check : α → List Issue} {a : Option α} :
    optionally check a = [] ↔ ∀ b ∈ a, check b = [] := by
  cases a <;> simp [optionally]

@[simp] lemma each_eq_nil {α : Type} {check : α → List Issue} {l : List α} :
    each check l = [] ↔ ∀ a ∈ l, check a = [] := by
  simp only [each, List.flatten_eq_nil_iff, List.forall_mem_map, Prod.forall,
    List.mk_mem_zipIdx_iff_getElem?, under_eq_nil]
  constructor
  · intro h a ha
    obtain ⟨i, hi⟩ := List.mem_iff_getElem?.mp ha
    exact h a i hi
  · intro h a i hi
    exact h a (List.mem_iff_getElem?.mpr ⟨i, hi⟩)

@[simp] lemma eachNonEmpty_eq_nil {α : Type} {check : α → List Issue} {l : List α} :
    eachNonEmpty check l = [] ↔ l ≠ [] ∧ ∀ a ∈ l, check a = [] := by
  simp [eachNonEmpty, issue]

@[simp] lemma parse_eq_ok {α : Type} {check : α → List Issue} {a b : α} :
    parse check a = .ok b ↔ check a = [] ∧ a = b := by
  by_cases h : check a = [] <;> simp [parse, h]

end Js
