import CodexRouter.Receipts.Store
import CodexRouter.Runs.History

/-!
# Receipts are stored once

A process at work on its lock directory has the directory at the lock path, so no other process can
append. The age of a directory says nothing of whether its creator is still at work.
-/

open Js Runs

namespace CodexRouter.Receipts

/-! ## Statements -/

/-- From the creation of the lock directory to the end of its release. -/
def Phase.atWork : Phase → Bool
  | .owning .. | .abandoning | .listing .. | .reading .. | .appending .. | .releasing ..
  | .removing .. => true
  | _ => false

variable {ι : Type}

def Phase.reclaims : Phase → Bool
  | .reclaiming _ => true
  | _ => false

/-- Where a reclaim removes a lock directory, the creator of that has crashed or is done with it. -/
def StoreState.Abandoned (s : StoreState ι) : Action ι → Prop
  | .run i _ => (s.phase i).reclaims = true → ∀ lock ∈ s.dir.lock, ∀ j ∈ lock.creator,
    s.crashed j = true ∨ (s.phase j).atWork = false
  | .call .. | .crash _ => True

instance (s : StoreState ι) : ∀ a, Decidable (s.Abandoned a)
  | .run i _ => inferInstanceAs (Decidable ((s.phase i).reclaims = true → _))
  | .call .. | .crash _ => .isTrue trivial

/-- No two calls have returned `stored` for one receipt id or for one action. -/
def StoreState.StoredOnce (s : StoreState ι) : Prop :=
  (s.stored.map (·.receiptId)).Nodup ∧ (s.stored.map (·.actionRef)).Nodup

/-! ## What the files hold -/

/-- The file of that name has the receipt. -/
def HasIn (files : List ReceiptFile) (name : Str) (receipt : Receipt) : Prop :=
  ∃ file, files.find? (·.name = name) = some file ∧ some receipt ∈ file.lines

def Has (files : List ReceiptFile) (receipt : Receipt) : Prop := ∃ name, HasIn files name receipt

def Differ (left right : Receipt) : Prop :=
  left.receiptId ≠ right.receiptId ∧ left.actionRef ≠ right.actionRef

/-- What the first load has told the second. -/
def Search.Known (files : List ReceiptFile) (receipt : Receipt) : Search → Prop
  | .byAction false => ∀ item, Has files item → item.receiptId ≠ receipt.receiptId
  | .byAction true | .byId => True

/-- What a process at work knows of the files and of the receipts that were stored. -/
def Phase.Known (files : List ReceiptFile) (stored : List Receipt) : Phase → Prop
  | .listing call search => ∀ receipt ∈ call.input, search.Known files receipt
  | .reading call receipt search names found =>
    call.input = some receipt ∧ search.Known files receipt ∧
      ∀ item, Has files item → item ∈ found ∨ ∃ name ∈ names, HasIn files name item
  | .appending _ receipt => ∀ item, Has files item → Differ item receipt
  | .releasing _ (.stored receipt) | .removing (.stored receipt) =>
    Has files receipt ∧ ∀ item ∈ stored, Differ item receipt
  | _ => True

structure StoreState.Sound (s : StoreState ι) : Prop where
  held : ∀ i, s.crashed i = false → (s.phase i).atWork = true →
    s.dir.lock.bind LockDir.creator = some i
  kept : ∀ item ∈ s.stored, Has s.dir.files item
  once : s.stored.Pairwise Differ
  known : ∀ i, s.crashed i = false → (s.phase i).Known s.dir.files s.stored

lemma Phase.Known.of_idle {p : Phase} (h : p.atWork = false) (files : List ReceiptFile)
    (stored : List Receipt) : p.Known files stored := by
  cases p <;> trivial

lemma sound_initial (files : List ReceiptFile) (left : Option (LockDir ι)) :
    (StoreState.initial files left).Sound where
  held _ _ h := nomatch h
  kept _ h := nomatch h
  once := .nil
  known _ _ := trivial

lemma StoreState.Sound.storedOnce {s : StoreState ι} (h : s.Sound) : s.StoredOnce :=
  ⟨List.pairwise_map.mpr (h.once.imp And.left), List.pairwise_map.mpr (h.once.imp And.right)⟩

/-- At most one process is at work. -/
lemma StoreState.Sound.alone {s : StoreState ι} (h : s.Sound) {i j : ι}
    (hi : s.crashed i = false) (hj : s.crashed j = false) (hwork : (s.phase i).atWork = true)
    (hwork' : (s.phase j).atWork = true) : i = j := by
  have heq := h.held i hi hwork
  rw [h.held j hj hwork'] at heq
  exact (Option.some.inj heq).symm

/-! ## Files -/

section

variable {files : List ReceiptFile}

lemma Has.listed {item : Receipt} (h : Has files item) :
    ∃ name ∈ files.map (·.name), HasIn files name item := by
  obtain ⟨name, file, hfile, hitem⟩ := h
  refine ⟨name, List.mem_map.mpr ⟨file, List.mem_of_find?_eq_some hfile, ?_⟩, file, hfile, hitem⟩
  simpa using List.find?_some hfile

/-- What a file has is among what is read from it. -/
lemma HasIn.read {d : ReceiptDir ι} {name : Str} {receipts : List Receipt} {item : Receipt}
    (hread : d.read name = some receipts) (h : HasIn d.files name item) : item ∈ receipts := by
  obtain ⟨file, hfile, hitem⟩ := h
  unfold ReceiptDir.read at hread
  rw [hfile] at hread
  change file.lines.mapM id = some receipts at hread
  generalize file.lines = lines at hread hitem
  induction lines generalizing receipts with
  | nil => exact nomatch hitem
  | cons line lines ih =>
    rw [List.mapM_cons] at hread
    obtain ⟨first, hfirst, hread⟩ := Option.bind_eq_some_iff.mp hread
    obtain ⟨rest, hrest, hread⟩ := Option.bind_eq_some_iff.mp hread
    obtain rfl := Option.some.inj hread
    rcases List.mem_cons.mp hitem with rfl | hitem
    · obtain rfl := Option.some.inj hfirst
      exact List.mem_cons_self
    · exact List.mem_cons_of_mem first (ih hrest hitem)

lemma find?_map_append (name : Str) (receipt : Receipt) (other : Str) :
    (files.map (ReceiptFile.append name receipt)).find? (·.name = other) =
      (files.find? (·.name = other)).map (ReceiptFile.append name receipt) := by
  have hname : ∀ file : ReceiptFile, (file.append name receipt).name = file.name := by
    intro file
    unfold ReceiptFile.append
    split <;> rfl
  rw [List.find?_map]
  congr 2
  funext file
  rw [Function.comp, hname]

/-- What was in a file stays in it. -/
lemma HasIn.append {d : ReceiptDir ι} {other : Str} {item : Receipt}
    (h : HasIn d.files other item) (name : Str) (receipt : Receipt) :
    HasIn (d.append name receipt).files other item := by
  obtain ⟨file, hfile, hitem⟩ := h
  unfold ReceiptDir.append HasIn
  dsimp only
  split
  · rw [find?_map_append, hfile]
    refine ⟨_, rfl, ?_⟩
    unfold ReceiptFile.append
    split
    · exact List.mem_append_left _ hitem
    · exact hitem
  · rw [List.find?_append, hfile]
    exact ⟨file, rfl, hitem⟩

lemma hasIn_append_self (d : ReceiptDir ι) (name : Str) (receipt : Receipt) :
    HasIn (d.append name receipt).files name receipt := by
  unfold ReceiptDir.append HasIn
  dsimp only
  cases hfile : d.files.find? (·.name = name) with
  | some file =>
    have hname : file.name = name := by simpa using List.find?_some hfile
    rw [if_pos (List.any_eq_true.mpr ⟨file, List.mem_of_find?_eq_some hfile, by simpa using hname⟩),
      find?_map_append, hfile]
    refine ⟨_, rfl, ?_⟩
    unfold ReceiptFile.append
    rw [if_pos hname]
    exact List.mem_append_right _ (List.mem_singleton_self _)
  | none =>
    have hany : ¬(d.files.any fun file => file.name = name) = true := by
      rw [List.any_eq_true]
      rintro ⟨file, hmem, hname⟩
      exact List.find?_eq_none.mp hfile file hmem hname
    rw [if_neg hany, List.find?_append, hfile]
    exact ⟨⟨name, [some receipt]⟩, by simp, List.mem_singleton_self _⟩

end

/-! ## Steps -/

section

variable [DecidableEq ι] {s : StoreState ι} {i : ι}

/-- What a step owes: whoever is at work keeps its directory, and only a process at work changes
the files or returns `stored`. -/
lemma StoreState.Sound.advance (h : s.Sound) (hi : s.crashed i = false) {next : Next ι}
    (hself : next.phase.atWork = true → next.dir.lock.bind LockDir.creator = some i)
    (hothers : ∀ j, j ≠ i → s.crashed j = false → (s.phase j).atWork = true →
      next.dir.lock.bind LockDir.creator = some j)
    (hframe : (s.phase i).atWork = true ∨ next.dir.files = s.dir.files ∧ next.stored = [])
    (hkept : ∀ item ∈ s.stored ++ next.stored, Has next.dir.files item)
    (honce : (s.stored ++ next.stored).Pairwise Differ)
    (hknown : next.phase.Known next.dir.files (s.stored ++ next.stored)) :
    (s.advance i next).Sound where
  held j hj hwork := by
    unfold StoreState.advance at hj hwork ⊢
    dsimp only at hj hwork ⊢
    by_cases hij : j = i
    · subst hij
      rw [Function.update_self] at hwork
      exact hself hwork
    · rw [Function.update_of_ne hij] at hwork
      exact hothers j hij hj hwork
  kept := hkept
  once := honce
  known j hj := by
    unfold StoreState.advance at hj ⊢
    dsimp only at hj ⊢
    by_cases hij : j = i
    · rw [hij, Function.update_self]
      exact hknown
    · rw [Function.update_of_ne hij]
      rcases hframe with hwork | ⟨hfiles, hstored⟩
      · cases hother : (s.phase j).atWork with
        | false => exact .of_idle hother _ _
        | true => exact absurd (h.alone hj hi hother hwork) hij
      · rw [hfiles, hstored, List.append_nil]
        exact h.known j hj

/-- A step that leaves the files. -/
lemma StoreState.Sound.move (h : s.Sound) (hi : s.crashed i = false) {p : Phase}
    (hwork : p.atWork = true → (s.phase i).atWork = true)
    (hknown : p.Known s.dir.files s.stored) : (s.advance i ⟨s.dir, p, []⟩).Sound := by
  apply h.advance hi
  · exact fun hp => h.held i hi (hwork hp)
  · exact fun j _ hj hwork => h.held j hj hwork
  · exact .inr ⟨rfl, rfl⟩
  · rw [List.append_nil]
    exact h.kept
  · rw [List.append_nil]
    exact h.once
  · rw [List.append_nil]
    exact hknown

/-- A reclaim of a directory whose creator is not at work. -/
lemma StoreState.Sound.reclaim (h : s.Sound) (hi : s.crashed i = false) (call : ConsumeCall)
    (hsure : ∀ lock ∈ s.dir.lock, ∀ j ∈ lock.creator,
      s.crashed j = true ∨ (s.phase j).atWork = false) :
    (s.advance i ⟨s.dir.removeLock, .waiting call, []⟩).Sound := by
  apply h.advance hi
  · exact nofun
  · intro j _ hj hwork
    obtain ⟨lock, hlock, hcreator⟩ := Option.bind_eq_some_iff.mp (h.held j hj hwork)
    rcases hsure lock hlock j hcreator with hcrashed | hidle
    · rw [hj] at hcrashed
      exact nomatch hcrashed
    · rw [hwork] at hidle
      exact nomatch hidle
  · exact .inr ⟨rfl, rfl⟩
  · rw [List.append_nil]
    exact h.kept
  · rw [List.append_nil]
    exact h.once
  · trivial

/-- A lock directory is made where there is none, so nobody is at work. -/
lemma StoreState.Sound.makeLock (h : s.Sound) (hi : s.crashed i = false)
    (hfree : s.dir.lock = none) (call : ConsumeCall) (now : ℤ) :
    (s.advance i ⟨s.dir.makeLock i now, .owning call, []⟩).Sound := by
  apply h.advance hi
  · exact fun _ => rfl
  · intro j _ hj hwork
    have hheld := h.held j hj hwork
    rw [hfree] at hheld
    exact nomatch hheld
  · exact .inr ⟨rfl, rfl⟩
  · rw [List.append_nil]
    exact h.kept
  · rw [List.append_nil]
    exact h.once
  · trivial

lemma StoreState.Sound.writeOwner (h : s.Sound) (hi : s.crashed i = false)
    (hwork : (s.phase i).atWork = true) (call : ConsumeCall) (ownerToken : Str) (now : ℤ) :
    (s.advance i ⟨s.dir.writeOwner ownerToken now, .listing call .byId, []⟩).Sound := by
  have hcreator : (s.dir.writeOwner ownerToken now).lock.bind LockDir.creator =
      s.dir.lock.bind LockDir.creator := by
    unfold ReceiptDir.writeOwner
    cases s.dir.lock <;> rfl
  apply h.advance hi
  · exact fun _ => hcreator.trans (h.held i hi hwork)
  · exact fun j _ hj hwork => hcreator.trans (h.held j hj hwork)
  · exact .inl hwork
  · rw [List.append_nil]
    exact h.kept
  · rw [List.append_nil]
    exact h.once
  · exact fun _ _ => trivial

/-- A receipt is appended of which the files have neither the id nor the action. -/
lemma StoreState.Sound.append (h : s.Sound) (hi : s.crashed i = false) {call : ConsumeCall}
    {receipt : Receipt} (hphase : s.phase i = .appending call receipt) (name : Str) :
    (s.advance i
      ⟨s.dir.append name receipt, .releasing call (.stored receipt), []⟩).Sound := by
  have hwork : (s.phase i).atWork = true := by
    rw [hphase]
    rfl
  have hknown := h.known i hi
  rw [hphase] at hknown
  have hkept : ∀ item ∈ s.stored, Has (s.dir.append name receipt).files item := by
    intro item hitem
    obtain ⟨other, hin⟩ := h.kept item hitem
    exact ⟨other, hin.append name receipt⟩
  apply h.advance hi
  · exact fun _ => h.held i hi hwork
  · exact fun j _ hj hwork => h.held j hj hwork
  · exact .inl hwork
  · rw [List.append_nil]
    exact hkept
  · rw [List.append_nil]
    exact h.once
  · rw [List.append_nil]
    refine ⟨⟨name, hasIn_append_self s.dir name receipt⟩, ?_⟩
    intro item hitem
    exact hknown item (h.kept item hitem)

/-- A call returns; nobody else is at work. -/
lemma StoreState.Sound.finish (h : s.Sound) (hi : s.crashed i = false)
    (hwork : (s.phase i).atWork = true) {dir : ReceiptDir ι} (hfiles : dir.files = s.dir.files)
    {outcome : Outcome} (hknown : (Phase.removing outcome).Known s.dir.files s.stored) :
    (s.advance i (outcome.next dir)).Sound := by
  have hdir : (outcome.next dir).dir.files = s.dir.files := hfiles
  apply h.advance hi
  · exact nofun
  · intro j hij hj hother
    exact absurd (h.alone hj hi hother hwork) hij
  · exact .inl hwork
  · rw [hdir]
    intro item hitem
    rcases List.mem_append.mp hitem with hitem | hitem
    · exact h.kept item hitem
    · cases outcome with
      | stored receipt =>
        rw [List.mem_singleton.mp hitem]
        exact hknown.1
      | replay => exact nomatch hitem
      | thrown => exact nomatch hitem
  · rw [List.pairwise_append]
    cases outcome with
    | stored receipt =>
      refine ⟨h.once, List.pairwise_singleton _ _, ?_⟩
      intro item hitem other hother
      rw [List.mem_singleton.mp hother]
      exact hknown.2 item hitem
    | replay => exact ⟨h.once, .nil, fun _ _ _ hother => nomatch hother⟩
    | thrown => exact ⟨h.once, .nil, fun _ _ _ hother => nomatch hother⟩
  · trivial

/-- What a load has found tells whether there is a receipt of the kind. -/
lemma Search.Known.phase {files : List ReceiptFile} {stored : List Receipt} {call : ConsumeCall}
    {receipt : Receipt} (hinput : call.input = some receipt) {search : Search}
    (hsearch : search.Known files receipt) {found : List Receipt}
    (hfound : ∀ item, Has files item → item ∈ found) :
    (search.phase call receipt found).Known files stored := by
  have hnone : ∀ {p : Receipt → Bool}, found.any p = false → ∀ item, Has files item →
      p item = false := by
    intro p hany item hitem
    rw [List.any_eq_false] at hany
    exact Bool.eq_false_iff.mpr (hany item (hfound item hitem))
  cases search with
  | byId =>
    intro other hother
    obtain rfl := Option.some.inj (hinput.symm.trans hother)
    unfold Search.Known
    split
    · rename_i heq
      intro item hitem
      simpa using hnone (Search.byAction.inj heq) item hitem
    · trivial
    · trivial
  | byAction existingReceipt =>
    unfold Search.phase
    dsimp only
    split
    · trivial
    · rename_i hfree
      rw [Bool.not_eq_true, Bool.or_eq_false_iff] at hfree
      obtain ⟨rfl, hfree⟩ := hfree
      intro item hitem
      exact ⟨hsearch item hitem, by simpa using hnone hfree item hitem⟩

lemma StoreState.Sound.crash (h : s.Sound) (i : ι) :
    StoreState.Sound { s with crashed := Function.update s.crashed i true } where
  held j hj hwork := by
    by_cases hij : j = i
    · rw [hij] at hj
      dsimp only at hj
      rw [Function.update_self] at hj
      exact nomatch hj
    · dsimp only at hj
      rw [Function.update_of_ne hij] at hj
      exact h.held j hj hwork
  kept := h.kept
  once := h.once
  known j hj := by
    by_cases hij : j = i
    · rw [hij] at hj
      dsimp only at hj
      rw [Function.update_self] at hj
      exact nomatch hj
    · dsimp only at hj
      rw [Function.update_of_ne hij] at hj
      exact h.known j hj

variable (taskPath : Str → Str)

lemma next_sound (h : s.Sound) (hi : s.crashed i = false) (now : ℤ)
    (hsure : s.Abandoned (.run i now)) : (s.advance i (s.next taskPath i now)).Sound := by
  have hknown := h.known i hi
  unfold StoreState.Abandoned at hsure
  dsimp only at hsure
  unfold StoreState.next
  cases hphase : s.phase i with
  | idle => exact h.move hi nofun trivial
  | making call =>
    dsimp only
    cases hlock : s.dir.lock with
    | some lock => exact h.move hi nofun trivial
    | none => exact h.makeLock hi hlock call now
  | statting call =>
    dsimp only
    cases s.dir.lock <;> exact h.move hi nofun trivial
  | testing call mtimeMs =>
    dsimp only
    split <;> exact h.move hi nofun trivial
  | reclaiming call =>
    rw [hphase] at hsure
    exact h.reclaim hi call (hsure rfl)
  | waiting call =>
    dsimp only
    split <;> exact h.move hi nofun trivial
  | owning call =>
    have hwork : (s.phase i).atWork = true := by rw [hphase]; rfl
    dsimp only
    split
    · exact h.writeOwner hi hwork call call.ownerToken now
    · exact h.move hi (fun _ => hwork) trivial
    · exact h.move hi (fun _ => hwork) trivial
  | abandoning =>
    have hwork : (s.phase i).atWork = true := by rw [hphase]; rfl
    have hfiles : s.dir.removeLock.files = s.dir.files := rfl
    exact @StoreState.Sound.finish _ _ s i h hi hwork _ hfiles .thrown trivial
  | listing call search =>
    have hwork : (s.phase i).atWork = true := by rw [hphase]; rfl
    rw [hphase] at hknown
    dsimp only
    cases hinput : call.input with
    | none => exact h.move hi (fun _ => hwork) trivial
    | some receipt =>
      apply h.move hi (fun _ => hwork)
      exact ⟨hinput, hknown receipt hinput, fun item hitem => .inr hitem.listed⟩
  | reading call receipt search names found =>
    have hwork : (s.phase i).atWork = true := by rw [hphase]; rfl
    rw [hphase] at hknown
    obtain ⟨hinput, hsearch, hfound⟩ := hknown
    cases names with
    | nil =>
      apply h.move hi (fun _ => hwork)
      apply Search.Known.phase hinput hsearch
      intro item hitem
      rcases hfound item hitem with hitem | ⟨name, hname, -⟩
      · exact hitem
      · exact nomatch hname
    | cons name names =>
      dsimp only
      cases hread : s.dir.read name with
      | none => exact h.move hi (fun _ => hwork) trivial
      | some receipts =>
        apply h.move hi (fun _ => hwork)
        refine ⟨hinput, hsearch, ?_⟩
        intro item hitem
        rcases hfound item hitem with hitem | ⟨other, hother, hin⟩
        · exact .inl (List.mem_append_left _ hitem)
        · rcases List.mem_cons.mp hother with rfl | hother
          · exact .inl (List.mem_append_right _ (hin.read hread))
          · exact .inr ⟨other, hother, hin⟩
  | appending call receipt => exact h.append hi hphase _
  | releasing call outcome =>
    have hwork : (s.phase i).atWork = true := by rw [hphase]; rfl
    rw [hphase] at hknown
    have hremoving : (Phase.removing outcome).Known s.dir.files s.stored := by
      cases outcome <;> exact hknown
    dsimp only
    split
    · exact h.finish hi hwork rfl hremoving
    · split
      · exact h.move hi (fun _ => hwork) hremoving
      · exact h.finish hi hwork rfl hremoving
  | removing outcome =>
    have hwork : (s.phase i).atWork = true := by rw [hphase]; rfl
    rw [hphase] at hknown
    have hfiles : s.dir.removeLock.files = s.dir.files := rfl
    exact h.finish hi hwork hfiles hknown

lemma step_sound (h : s.Sound) {a : Action ι} (hsure : s.Abandoned a) :
    (s.step taskPath a).Sound := by
  unfold StoreState.step
  cases a with
  | call i ownerToken input now =>
    dsimp only
    split
    · rename_i hi _
      exact h.move hi nofun trivial
    · exact h
  | run i now =>
    dsimp only
    split
    · exact h
    · rename_i hi
      exact next_sound taskPath h (Bool.not_eq_true _ ▸ hi) now hsure
  | crash i => exact h.crash i

end

/-- In every run in which a lock directory is only reclaimed once its creator has crashed or is
done with it, `stored` is returned once for each receipt id and once for each action. -/
theorem stored_once [DecidableEq ι] (taskPath : Str → Str) (files : List ReceiptFile)
    (left : Option (LockDir ι)) (actions : List (Action ι))
    (h : Permitted StoreState.Abandoned (StoreState.step taskPath) (.initial files left) actions) :
    ∀ s ∈ history (StoreState.step taskPath) (.initial files left) actions, s.StoredOnce := by
  have hsound := Permitted.invariant (sound_initial files left)
    (fun s a hs ha => step_sound taskPath hs ha) h
  exact fun s hs => (hsound s hs).storedOnce

-- Three processes are numbered through this, whatever else is imported.
lemma three_neZero : NeZero 3 := ⟨by decide⟩

attribute [local instance] three_neZero

/-- `n` steps of one process. -/
def steps {n : ℕ} (i : Fin n) (now : ℤ) (count : ℕ) : List (Action (Fin n)) :=
  List.replicate count (.run i now)

def receipt : Receipt := ⟨"receipt", "task", "action"⟩

/-- The process 0 crashes with the lock; half a minute later the process 1 stores the receipt, and
the process 2 finds it. -/
def reclaimedAfterCrash : List (Action (Fin 3)) :=
  [.call 0 (js "0") receipt 0] ++ steps 0 0 2 ++ [.crash 0]
    ++ [.call 1 (js "1") receipt 30000] ++ steps 1 30000 14
    ++ [.call 2 (js "2") receipt 30000] ++ steps 2 30000 11

/-- The process 0 has found no receipt when half a minute goes by. The process 1 takes its lock away
and stores the receipt; then the process 0 does. -/
def reclaimedAtWork : List (Action (Fin 2)) :=
  [.call 0 (js "0") receipt 0] ++ steps 0 0 6
    ++ [.call 1 (js "1") receipt 30000] ++ steps 1 30000 14
    ++ steps 0 30000 3

theorem stored_once_after_crash :
    (reclaimedAfterCrash.foldl (StoreState.step id) (.initial [] none)).StoredOnce :=
  stored_once id [] none reclaimedAfterCrash (by decide +kernel) _ (foldl_mem_history _ _ _)

/-- Both return `stored`. -/
theorem stored_twice :
    ¬(reclaimedAtWork.foldl (StoreState.step id) (.initial [] none)).StoredOnce := by
  intro h
  have hids := h.1
  revert hids
  decide +kernel

end CodexRouter.Receipts
