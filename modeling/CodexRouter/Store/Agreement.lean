import CodexRouter.Runs.Calls
import CodexRouter.Store.KernelStore

/-!
# The two kernel stores agree

The file represents the `Map`s: it holds the document of their rows, or nothing while they are
empty. Every call keeps that, and answers the same or throws the same.
-/

open Js CodexRouter.Kernel Runs

namespace CodexRouter.Store

/-! ## Patched records keep their ids -/

lemma runId_of_patched {existing run : Run} {runId : Str} {patch : Json}
    (h : runSchema.read (patched runSchema "runId" existing runId patch) = .ok run) :
    run.runId = runId := by
  rw [patched, runSchema, Schema.read_object] at h
  simp only [runFields, Fields.read_via, Equiv.coe_fn_symm_mk, Fields.read_cons] at h
  obtain ⟨value, hvalue, hread⟩ := Slot.read_required.mp h.2.1
  rw [List.cons_append, Json.get?_cons, if_pos rfl, Option.some_inj] at hvalue
  rw [← hvalue, Schema.read_nonEmptyString] at hread
  exact (Json.str.inj hread.1).symm

lemma stepId_of_patched {existing step : Step} {stepId : Str} {patch : Json}
    (h : stepSchema.read (patched stepSchema "stepId" existing stepId patch) = .ok step) :
    step.stepId = stepId := by
  rw [patched, stepSchema, Schema.read_object] at h
  simp only [stepFields, Fields.read_via, Equiv.coe_fn_symm_mk, Fields.read_cons] at h
  obtain ⟨value, hvalue, hread⟩ := Slot.read_required.mp h.2.1
  rw [List.cons_append, Json.get?_cons, if_pos rfl, Option.some_inj] at hvalue
  rw [← hvalue, Schema.read_nonEmptyString] at hread
  exact (Json.str.inj hread.1).symm

/-! ## The document of a store -/

namespace InMemoryKernelStore

/-- The rows of the `Map`s. -/
def state (store : InMemoryKernelStore) : FileSystemKernelStoreState where
  tasks := store.tasks.table.rows
  runs := store.runs.table.rows
  steps := store.steps.table.rows
  events := store.events.table.rows
  artifacts := store.artifacts.table.rows

lemma no_duplicates (store : InMemoryKernelStore) : store.state.duplicates = [] := by
  have hids : ∀ (path kind : String) (ids : List Str), ids.Nodup →
      duplicateIssues path kind ids = [] := by
    intro path kind ids h
    rw [duplicateIssues, findDuplicates_eq_nil.mpr h]
    rfl
  unfold FileSystemKernelStoreState.duplicates state
  rw [hids _ _ _ store.tasks.table.nodup, hids _ _ _ store.runs.table.nodup,
    hids _ _ _ store.steps.table.nodup, hids _ _ _ store.events.table.nodup,
    hids _ _ _ store.artifacts.table.nodup]
  rfl

/-- The rows are parsed back from their document. -/
lemma state_valid (store : InMemoryKernelStore) : kernelStoreStateSchema.Valid store.state := by
  apply Schema.read_refine.mpr ⟨?_, store.no_duplicates⟩
  apply Schema.read_object.mpr
  simp only [kernelStoreStateFields, Fields.read_via, Equiv.coe_fn_symm_mk, Fields.read_cons,
    Fields.read_nil, and_true]
  refine ⟨rfl, ?_, ?_, ?_, ?_, ?_⟩
  · exact Schema.valid_array.mpr store.tasks.valid
  · exact Schema.valid_array.mpr store.runs.valid
  · exact Schema.valid_array.mpr store.steps.valid
  · exact Schema.valid_array.mpr store.events.valid
  · exact Schema.valid_array.mpr store.artifacts.valid

end InMemoryKernelStore

/-- What the file holds for a store. -/
inductive Represents : FileSystemKernelStore → InMemoryKernelStore → Prop
  | fresh : Represents none .empty
  | document (store : InMemoryKernelStore) :
      Represents (some (kernelStoreStateSchema.write store.state)) store

namespace FileSystemKernelStore

variable {file : FileSystemKernelStore} {store : InMemoryKernelStore}

lemma readState_eq (h : Represents file store) : readState file = .ok store.state := by
  cases h with
  | fresh => rfl
  | document => exact Schema.parse_eq_ok.mpr store.state_valid

lemma writeState_eq (store : InMemoryKernelStore) :
    writeState store.state = .ok (kernelStoreStateSchema.write store.state) := by
  rw [writeState, Schema.parse_eq_ok.mpr store.state_valid]
  rfl

lemma reading_agrees (h : Represents file store)
    (answer : FileSystemKernelStoreState → StoreAnswer) :
    (reading file answer).1 = .ok (answer store.state) ∧
      Represents (reading file answer).2 store := by
  rw [reading, readState_eq h]
  exact ⟨rfl, h⟩

/-- A mutation that does to the rows what the call does to the `Map`s. -/
lemma withStateMutation_eq {α : Type} (h : Represents file store) (answer : α → StoreAnswer)
    {mutate : FileSystemKernelStoreState → Result (α × FileSystemKernelStoreState)}
    {result : Result (α × InMemoryKernelStore)}
    (hmutate : mutate store.state = (fun r => (r.1, r.2.state)) <$> result) :
    (withStateMutation file answer mutate).1 = (store.changed answer result).1 ∧
      Represents (withStateMutation file answer mutate).2 (store.changed answer result).2 := by
  unfold withStateMutation
  rw [readState_eq h]
  dsimp only
  rw [hmutate]
  cases result with
  | error e => exact ⟨rfl, h⟩
  | ok r =>
    obtain ⟨a, store'⟩ := r
    simp only [Functor.map, Except.map, writeState_eq]
    exact ⟨rfl, Represents.document store'⟩

/-- A change of one `Map` with the array's change of its rows. -/
lemma mutate_eq {α : Type} {schema : Schema α} {id : α → Str} {rows : Result (α × List α)}
    {map : Result (α × Collection schema id)}
    (h : rows = (fun r => (r.1, r.2.table.rows)) <$> map)
    (g : List α → FileSystemKernelStoreState) (g' : Collection schema id → InMemoryKernelStore)
    (hg : ∀ c, g c.table.rows = (g' c).state) :
    (do let (a, b) ← rows; return (a, g b) : Result (α × FileSystemKernelStoreState)) =
      (fun r => (r.1, r.2.state)) <$> (do let (a, c) ← map; return (a, g' c) :
        Result (α × InMemoryKernelStore)) := by
  subst h
  cases map with
  | error e => rfl
  | ok r => exact congrArg (fun s => Except.ok (r.1, s)) (hg r.2)

/-- Every call answers what the store in memory answers, and the file follows it. -/
theorem call_agrees (h : Represents file store) (c : StoreCall) :
    (call file c).1 = (store.call c).1 ∧ Represents (call file c).2 (store.call c).2 := by
  cases c with
  | createTask task =>
    apply withStateMutation_eq h
    exact mutate_eq (Collection.create_rows task) ({ store.state with tasks := · })
      ({ store with tasks := · }) fun _ => rfl
  | createRun run =>
    apply withStateMutation_eq h
    exact mutate_eq (Collection.create_rows run) ({ store.state with runs := · })
      ({ store with runs := · }) fun _ => rfl
  | updateRun runId patch =>
    apply withStateMutation_eq h
    exact mutate_eq (Collection.update_rows fun _ _ => runId_of_patched)
      ({ store.state with runs := · }) ({ store with runs := · }) fun _ => rfl
  | createStep step =>
    apply withStateMutation_eq h
    exact mutate_eq (Collection.create_rows step) ({ store.state with steps := · })
      ({ store with steps := · }) fun _ => rfl
  | updateStep stepId patch =>
    apply withStateMutation_eq h
    exact mutate_eq (Collection.update_rows fun _ _ => stepId_of_patched)
      ({ store.state with steps := · }) ({ store with steps := · }) fun _ => rfl
  | appendEvent event =>
    apply withStateMutation_eq h
    exact mutate_eq (Collection.create_rows event) ({ store.state with events := · })
      ({ store with events := · }) fun _ => rfl
  | createArtifact artifact =>
    apply withStateMutation_eq h
    exact mutate_eq (Collection.create_rows artifact) ({ store.state with artifacts := · })
      ({ store with artifacts := · }) fun _ => rfl
  | _ => exact reading_agrees h _

/-- A call that throws leaves the file. -/
lemma call_error {c : StoreCall} {e : Thrown} (h : (call file c).1 = .error e) :
    (call file c).2 = file := by
  have hmutation : ∀ {α : Type} (answer : α → StoreAnswer)
      (mutate : FileSystemKernelStoreState → Result (α × FileSystemKernelStoreState)),
      (withStateMutation file answer mutate).1 = .error e →
        (withStateMutation file answer mutate).2 = file := by
    intro α answer mutate h
    unfold withStateMutation at h ⊢
    repeat' split at h
    all_goals simp_all
  cases c <;> first | exact hmutation _ _ h | rfl

end FileSystemKernelStore

lemma InMemoryKernelStore.call_error {store : InMemoryKernelStore} {c : StoreCall} {e : Thrown}
    (h : (store.call c).1 = .error e) : (store.call c).2 = store := by
  have hchanged : ∀ {α : Type} (answer : α → StoreAnswer)
      (result : Result (α × InMemoryKernelStore)),
      (store.changed answer result).1 = .error e → (store.changed answer result).2 = store := by
    intro α answer result h
    cases result with
    | error e => rfl
    | ok r => cases h
  cases c <;> first | exact hchanged _ _ h | rfl

/-- On a fresh file and in memory every sequence of calls has the same outcomes, thrown values
included, and a call that throws can be left out. -/
theorem stores_agree (calls : List StoreCall) :
    outcomes FileSystemKernelStore.call none calls =
        outcomes InMemoryKernelStore.call .empty calls ∧
      ∀ c e after,
        ((FileSystemKernelStore.call (behind FileSystemKernelStore.call none calls) c).1 = .error e →
          outcomes FileSystemKernelStore.call none (calls ++ c :: after) =
            outcomes FileSystemKernelStore.call none calls ++ .error e ::
              outcomes FileSystemKernelStore.call
                (behind FileSystemKernelStore.call none calls) after) ∧
        ((InMemoryKernelStore.call (behind InMemoryKernelStore.call .empty calls) c).1 = .error e →
          outcomes InMemoryKernelStore.call .empty (calls ++ c :: after) =
            outcomes InMemoryKernelStore.call .empty calls ++ .error e ::
              outcomes InMemoryKernelStore.call
                (behind InMemoryKernelStore.call .empty calls) after) := by
  constructor
  · apply List.forall₂_eq_eq_eq ▸ outcomes_related (fun _ _ c h => ?_) Represents.fresh calls
    exact FileSystemKernelStore.call_agrees h c
  · intro c e after
    constructor
    · intro h
      rw [outcomes_without calls after (FileSystemKernelStore.call_error h), h]
    · intro h
      rw [outcomes_without calls after (InMemoryKernelStore.call_error h), h]

end CodexRouter.Store
