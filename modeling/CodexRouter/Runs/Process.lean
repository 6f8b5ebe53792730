import Mathlib.Data.List.Basic
import Mathlib.Logic.Function.Basic
import Mathlib.Logic.Relation

/-!
# Processes that share a state

A process asks its environment one question after the other. A pool runs any number of them
on one shared state, in any order of questions.
-/

namespace Runs

/-- A program that is finished, or asks and goes on with the answer. -/
inductive Process (Op : Type) (Answer : Op → Type) (α : Type) where
  | done (result : α)
  | ask (op : Op) (next : Answer op → Process Op Answer α)

/-- A question with the answer it got. -/
structure Event (Op : Type) (Answer : Op → Type) where
  op : Op
  answer : Answer op

namespace Process

variable {Op : Type} {Answer : Op → Type} {α β : Type}

protected def bind : Process Op Answer α → (α → Process Op Answer β) → Process Op Answer β
  | done a, f => f a
  | ask op next, f => ask op fun answer => (next answer).bind f

instance : Monad (Process Op Answer) where
  pure := done
  bind := Process.bind

/-- One question, its answer the result. -/
def query (op : Op) : Process Op Answer (Answer op) := ask op done

@[simp] lemma pure_eq (a : α) : (pure a : Process Op Answer α) = done a := rfl

@[simp] lemma done_bind (a : α) (f : α → Process Op Answer β) : (done a >>= f) = f a := rfl

@[simp] lemma ask_bind (op : Op) (next : Answer op → Process Op Answer α)
    (f : α → Process Op Answer β) : (ask op next >>= f) = ask op fun answer => next answer >>= f :=
  rfl

@[simp] lemma query_bind (op : Op) (f : Answer op → Process Op Answer β) :
    (query op >>= f) = ask op f := rfl

/-- The process reaches `q` along the answered questions. -/
inductive Path : Process Op Answer α → List (Event Op Answer) → Process Op Answer α → Prop
  | nil (p : Process Op Answer α) : Path p [] p
  | cons {op : Op} {next : Answer op → Process Op Answer α} {events : List (Event Op Answer)}
      {q : Process Op Answer α} (answer : Answer op) (h : Path (next answer) events q) :
      Path (ask op next) (⟨op, answer⟩ :: events) q

lemma Path.snoc {p : Process Op Answer α} {events : List (Event Op Answer)} {op : Op}
    {next : Answer op → Process Op Answer α} (h : Path p events (ask op next))
    (answer : Answer op) : Path p (events ++ [⟨op, answer⟩]) (next answer) := by
  generalize hq : ask op next = q at h
  induction h with
  | nil p =>
    subst hq
    exact Path.cons answer (Path.nil _)
  | cons a _ ih => exact Path.cons a (ih hq)

lemma path_done {a : α} {events : List (Event Op Answer)} {q : Process Op Answer α} :
    Path (done a) events q ↔ events = [] ∧ q = done a := by
  constructor
  · intro h
    cases h
    exact ⟨rfl, rfl⟩
  · rintro ⟨rfl, rfl⟩
    exact Path.nil _

/-- A process that asks has not begun, or has its answer and goes on with it. -/
lemma path_ask {op : Op} {next : Answer op → Process Op Answer α}
    {events : List (Event Op Answer)} {q : Process Op Answer α} :
    Path (ask op next) events q ↔ (events = [] ∧ q = ask op next) ∨
      ∃ answer rest, events = ⟨op, answer⟩ :: rest ∧ Path (next answer) rest q := by
  constructor
  · intro h
    cases h with
    | nil => exact Or.inl ⟨rfl, rfl⟩
    | cons answer h => exact Or.inr ⟨answer, _, rfl, h⟩
  · rintro (⟨rfl, rfl⟩ | ⟨answer, rest, rfl, h⟩)
    · exact Path.nil _
    · exact Path.cons answer h

lemma exists_path_cons {op : Op} {next : Answer op → Process Op Answer α}
    {events : List (Event Op Answer)} {answer : Answer op}
    (h : ∃ q, Path (next answer) events q) : ∃ q, Path (ask op next) (⟨op, answer⟩ :: events) q :=
  h.imp fun _ h => Path.cons answer h

end Process

/-- Processes with the state they share and the answers given so far. -/
structure Pool (Op : Type) (Answer : Op → Type) (α σ ι : Type) where
  shared : σ
  processes : ι → Process Op Answer α
  log : List (ι × Event Op Answer)

namespace Pool

variable {Op : Type} {Answer : Op → Type} {α σ ι : Type}

def start (shared : σ) (processes : ι → Process Op Answer α) : Pool Op Answer α σ ι :=
  ⟨shared, processes, []⟩

variable [DecidableEq ι]

/-- The answers one process has got. -/
def events (pool : Pool Op Answer α σ ι) (i : ι) : List (Event Op Answer) :=
  (pool.log.filter (·.1 = i)).map Prod.snd

/-- The pool behind one answer. -/
def answered (pool : Pool Op Answer α σ ι) (i : ι) (op : Op) (next : Answer op → Process Op Answer α)
    (answer : Answer op) (shared : σ) : Pool Op Answer α σ ι :=
  ⟨shared, Function.update pool.processes i (next answer), pool.log ++ [(i, ⟨op, answer⟩)]⟩

/-- Some process gets an answer, or something outside the pool changes the state. -/
inductive Step (answers : (op : Op) → σ → Answer op → σ → Prop) (outside : σ → σ → Prop) :
    Pool Op Answer α σ ι → Pool Op Answer α σ ι → Prop
  | answer {pool : Pool Op Answer α σ ι} {i : ι} {op : Op} {next : Answer op → Process Op Answer α}
      {answer : Answer op} {shared : σ} (hi : pool.processes i = .ask op next)
      (h : answers op pool.shared answer shared) :
      Step answers outside pool (pool.answered i op next answer shared)
  | outside {pool : Pool Op Answer α σ ι} {shared : σ} (h : outside pool.shared shared) :
      Step answers outside pool { pool with shared := shared }

/-- The pools that a run can reach. -/
def Reaches (answers : (op : Op) → σ → Answer op → σ → Prop) (outside : σ → σ → Prop) :
    Pool Op Answer α σ ι → Pool Op Answer α σ ι → Prop :=
  Relation.ReflTransGen (Step answers outside)

variable {answers : (op : Op) → σ → Answer op → σ → Prop} {outside : σ → σ → Prop}
  {shared : σ} {processes : ι → Process Op Answer α} {pool : Pool Op Answer α σ ι}

/-- Each process of a run follows its own program. -/
theorem Reaches.path (h : Reaches answers outside (start shared processes) pool) (i : ι) :
    (processes i).Path (pool.events i) (pool.processes i) := by
  induction h with
  | refl => exact Process.Path.nil _
  | tail _ hstep ih =>
    cases hstep with
    | @answer j op next answer _ hj h =>
      by_cases hij : j = i
      · subst hij
        rw [hj] at ih
        simpa [events, answered] using ih.snoc answer
      · simpa [events, answered, List.filter_cons, hij, Ne.symm hij] using ih
    | outside h => exact ih

/-- What every answer and every outside change keeps true of state and log holds in a run. -/
theorem Reaches.invariant {I : σ → List (ι × Event Op Answer) → Prop}
    (h : Reaches answers outside (start shared processes) pool) (hstart : I shared [])
    (hanswer : ∀ s log i op answer s', I s log → answers op s answer s' →
      I s' (log ++ [(i, ⟨op, answer⟩)]))
    (houtside : ∀ s log s', I s log → outside s s' → I s' log) : I pool.shared pool.log := by
  induction h with
  | refl => exact hstart
  | tail _ hstep ih =>
    cases hstep with
    | answer _ h => exact hanswer _ _ _ _ _ _ ih h
    | outside h => exact houtside _ _ _ ih h

/-- What holds of the events of every process holds of the log: counts are compared per process. -/
lemma countP_le_of_processes {ε : Type} {P Q : ι × ε → Bool} :
    (log : List (ι × ε)) →
    (∀ i, (log.filter (·.1 = i)).countP P ≤ (log.filter (·.1 = i)).countP Q) →
      log.countP P ≤ log.countP Q
  | [], _ => Nat.le_refl _
  | e :: log, h => by
    -- the events of the first entry's process, then all others
    have hsplit : ∀ R : ι × ε → Bool, (e :: log).countP R =
        ((e :: log).filter (·.1 = e.1)).countP R + (log.filter (fun a => ¬ a.1 = e.1)).countP R := by
      intro R
      have hall := List.countP_eq_countP_filter_add (e :: log) R (fun a => decide (a.1 = e.1))
      simpa [List.filter_cons] using hall
    rw [hsplit P, hsplit Q]
    refine Nat.add_le_add (h e.1) (countP_le_of_processes _ fun i => ?_)
    by_cases hi : i = e.1
    · subst hi
      simp [List.filter_filter]
    · have hfilter : (log.filter (fun a => ¬ a.1 = e.1)).filter (·.1 = i) =
          (e :: log).filter (·.1 = i) := by
        rw [List.filter_filter, List.filter_cons, if_neg (by simpa using Ne.symm hi)]
        refine List.filter_congr fun a _ => ?_
        by_cases ha : a.1 = i
        · simp [ha, hi]
        · simp [ha]
      rw [hfilter]
      exact h i
termination_by log => log.length
decreasing_by
  simp only [List.length_cons]
  exact Nat.lt_succ_of_le (List.length_filter_le ..)

/-- The run of a schedule when every question has one answer. -/
def execute (reply : (op : Op) → σ → Answer op × σ) :
    List ι → Pool Op Answer α σ ι → Pool Op Answer α σ ι
  | [], pool => pool
  | i :: schedule, pool =>
    match pool.processes i with
    | .done _ => execute reply schedule pool
    | .ask op next =>
      execute reply schedule
        (pool.answered i op next (reply op pool.shared).1 (reply op pool.shared).2)

theorem reaches_execute {reply : (op : Op) → σ → Answer op × σ}
    (h : ∀ op s, answers op s (reply op s).1 (reply op s).2) (schedule : List ι)
    (pool : Pool Op Answer α σ ι) :
    Reaches answers outside pool (execute reply schedule pool) := by
  induction schedule generalizing pool with
  | nil => exact Relation.ReflTransGen.refl
  | cons i schedule ih =>
    unfold execute
    split
    · exact ih pool
    · rename_i op next hi
      exact Relation.ReflTransGen.head (Step.answer hi (h op pool.shared)) (ih _)

end Pool

end Runs
