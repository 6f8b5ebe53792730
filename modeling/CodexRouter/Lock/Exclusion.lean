import CodexRouter.Lock.Core
import CodexRouter.Runs.History
import Mathlib.Data.Fintype.Basic

/-!
# Mutual exclusion

A live process that has the lock has the file at the lock path, so no other process can create one
until that file is unlinked. `removeStaleLock` looks at a file and then unlinks what is at the path.
-/

open Js Runs

namespace CodexRouter.Lock

/-! ## Statements -/

/-- The file that a process has created and not yet given up. -/
def Phase.lock : Phase → Option ℕ
  | .writing _ fd | .inside _ fd | .releasing _ fd | .unlinking fd => some fd
  | _ => none

/-- Between the creation of the lock file and the start of `releaseLock`. -/
def Phase.isInside : Phase → Bool
  | .writing .. | .inside .. => true
  | _ => false

variable {ι : Type}

/-- At most one live process is inside. -/
def LockState.Exclusive (s : LockState ι) : Prop :=
  ∀ i j, s.status i = .live → s.status j = .live → (s.phase i).isInside = true →
    (s.phase j).isInside = true → i = j

/-- No live process has the file. -/
def LockState.Unused (s : LockState ι) (file : ℕ) : Prop :=
  ∀ i, s.status i = .live → (s.phase i).lock ≠ some file

/-- What `removeStaleLock` has read of the lock that it unlinks next: the snapshot and the file. -/
def Phase.removes : Phase → Option (FileLockSnapshot × ℕ)
  | .removing _ current file => some (current, file)
  | _ => none

/-- Where `removeStaleLock` unlinks, the file at the lock path is the one that its second snapshot
read, with what its creator writes to it, or one that no live process has. -/
def LockState.Sure (s : LockState ι) : Action ι → Prop
  | .run i _ => ∀ r ∈ (s.phase i).removes, ∀ f ∈ s.disk.path,
    (f = r.2 ∧ r.1.raw.isSome) ∨ s.Unused f
  | _ => True

instance [Fintype ι] (s : LockState ι) (file : ℕ) : Decidable (s.Unused file) :=
  inferInstanceAs (Decidable (∀ _, _ → _))

instance [Fintype ι] (s : LockState ι) : ∀ a, Decidable (s.Sure a)
  | .run _ _ => inferInstanceAs (Decidable (∀ r ∈ (s.phase _).removes, ∀ f ∈ s.disk.path, _))
  | .start _ | .call .. | .crash _ => .isTrue trivial

/-! ## Invariant -/

/-- The creator of a file. -/
def LockFiles.creator (d : LockFiles ι) (file : ℕ) : Option ι := d.files[file]?.map LockFile.creator

/-- What a process knows of the file that its second snapshot read. -/
def Phase.Known (pid : ι → ℕ+) (s : LockState ι) : Phase → Prop
  | .retesting _ _ current file =>
    ∀ metadata ∈ current.raw, ∃ i ∈ s.disk.creator file, metadata.pid = pid i
  | .removing _ current file =>
    current.raw.isSome → ∃ i ∈ s.disk.creator file, s.status i = .dead
  | _ => True

structure LockState.Sound (pid : ι → ℕ+) (s : LockState ι) : Prop where
  held : ∀ i f, s.status i = .live → (s.phase i).lock = some f →
    s.disk.path = some f ∧ s.disk.creator f = some i
  started : ∀ f i, s.disk.creator f = some i → s.status i ≠ .absent
  written : ∀ file ∈ s.disk.files, ∀ metadata ∈ file.raw, metadata.pid = pid file.creator
  known : ∀ i, (s.phase i).Known pid s

lemma sound_initial (pid : ι → ℕ+) : (LockState.initial ι).Sound pid where
  held _ _ h := nomatch h
  started _ _ h := nomatch h
  written _ h := nomatch h
  known _ := trivial

/-- The file at the path has one creator. -/
lemma LockState.Sound.exclusive {pid : ι → ℕ+} {s : LockState ι} (h : s.Sound pid) :
    s.Exclusive := by
  have hlock : ∀ p : Phase, p.isInside = true → ∃ f, p.lock = some f := by
    intro p hp
    cases p <;> first | exact ⟨_, rfl⟩ | cases hp
  intro i j hi hj hinside hinside'
  obtain ⟨f, hf⟩ := hlock _ hinside
  obtain ⟨g, hg⟩ := hlock _ hinside'
  obtain ⟨hpath, hcreator⟩ := h.held i f hi hf
  obtain ⟨hpath', hcreator'⟩ := h.held j g hj hg
  rw [hpath] at hpath'
  rw [← Option.some.inj hpath', hcreator] at hcreator'
  exact Option.some.inj hcreator'

/-! ## Files -/

section

variable (d : LockFiles ι) (file : ℕ)

lemma creator_create (i : ι) (now : ℤ) (c : ι) :
    (d.create i now).creator file = some c ↔
      d.creator file = some c ∨ (file = d.files.length ∧ i = c) := by
  unfold LockFiles.creator LockFiles.create
  dsimp only
  rcases lt_trichotomy file d.files.length with hlt | rfl | hgt
  · rw [List.getElem?_append_left hlt]
    simp [hlt.ne]
  · simp
  · rw [List.getElem?_eq_none (by rw [List.length_append, List.length_singleton]; omega),
      List.getElem?_eq_none hgt.le]
    simp [hgt.ne']

lemma creator_write (fd : ℕ) (metadata : LockMetadata) (now : ℤ) :
    (d.write fd metadata now).creator file = d.creator file := by
  unfold LockFiles.creator LockFiles.write
  dsimp only
  rw [List.getElem?_modify]
  cases d.files[file]? <;> split <;> rfl

lemma creator_unlink : d.unlink.creator file = d.creator file := rfl

lemma atPath_eq_some {d : LockFiles ι} {f : LockFile ι} (h : d.atPath = some f) :
    ∃ file, d.path = some file ∧ d.files[file]? = some f := by
  unfold LockFiles.atPath at h
  exact Option.bind_eq_some_iff.mp h

end

/-! ## Steps -/

section

variable {pid : ι → ℕ+} {s s' : LockState ι}

lemma Phase.Known.mono {p : Phase} (h : p.Known pid s)
    (hcreator : ∀ f c, s.disk.creator f = some c → s'.disk.creator f = some c)
    (hdead : ∀ c, s.status c = .dead → s'.status c = .dead) : p.Known pid s' := by
  cases p with
  | retesting call staleCandidate current file =>
    intro metadata hmetadata
    obtain ⟨c, hc, hpid⟩ := h metadata hmetadata
    exact ⟨c, hcreator file c hc, hpid⟩
  | removing call current file =>
    intro hwritten
    obtain ⟨c, hc, hgone⟩ := h hwritten
    exact ⟨c, hcreator file c hc, hdead c hgone⟩
  | _ => trivial

/-- What a snapshot reads was written by the creator of the file. -/
lemma LockState.Sound.read (h : s.Sound pid) {file : ℕ} {f : LockFile ι}
    (hf : s.disk.files[file]? = some f) :
    ∀ metadata ∈ f.raw, ∃ c ∈ s.disk.creator file, metadata.pid = pid c := by
  intro metadata hmetadata
  refine ⟨f.creator, ?_, h.written f (List.mem_iff_getElem?.mpr ⟨file, hf⟩) metadata hmetadata⟩
  unfold LockFiles.creator
  rw [hf]
  rfl

/-- An owner that is not alive has started and is dead. -/
lemma LockState.Sound.dead [Fintype ι] (h : s.Sound pid) {i : ι} {current : FileLockSnapshot} {file : ℕ}
    (hknown : ∀ metadata ∈ current.raw, ∃ c ∈ s.disk.creator file, metadata.pid = pid c)
    (halive : isFileLockOwnerAlive pid s i current = false) (hwritten : current.raw.isSome) :
    ∃ c ∈ s.disk.creator file, s.status c = .dead := by
  obtain ⟨metadata, hmetadata⟩ := Option.isSome_iff_exists.mp hwritten
  obtain ⟨c, hc, hpid⟩ := hknown metadata hmetadata
  refine ⟨c, hc, ?_⟩
  unfold isFileLockOwnerAlive LockState.hasProcess at halive
  rw [hmetadata] at halive
  simp only [Bool.or_eq_false_iff, decide_eq_false_iff_not, not_exists, not_and] at halive
  cases hstatus : s.status c with
  | absent => exact absurd hstatus (h.started file c hc)
  | live => exact absurd hpid.symm (halive.2 c hstatus)
  | dead => rfl

/-- The file of a dead creator is one that no live process has. -/
lemma LockState.Sound.unused (h : s.Sound pid) {f : ℕ} (hpath : s.disk.path = some f)
    (hsure : (∃ c ∈ s.disk.creator f, s.status c = .dead) ∨ s.Unused f) (j : ι) (g : ℕ)
    (hj : s.status j = .live) : (s.phase j).lock ≠ some g := by
  intro hg
  obtain ⟨hpath', hcreator⟩ := h.held j g hj hg
  rw [hpath] at hpath'
  cases hpath'
  rcases hsure with ⟨c, hc, hdead⟩ | hunused
  · rw [Option.mem_def.mp hc] at hcreator
    cases hcreator
    rw [hj] at hdead
    cases hdead
  · exact hunused j hj hg

variable [DecidableEq ι] {i : ι} {d : LockFiles ι} {p : Phase}

/-- A process that starts has nothing yet, and no dead process starts. -/
lemma LockState.Sound.start (h : s.Sound pid) (habsent : s.status i = .absent) :
    LockState.Sound pid
      ⟨s.disk, Function.update s.status i .live, Function.update s.phase i .idle⟩ where
  held j f hj hf := by
    by_cases hij : j = i
    · subst hij
      dsimp only at hf
      rw [Function.update_self] at hf
      cases hf
    · dsimp only at hj hf
      rw [Function.update_of_ne hij] at hj hf
      exact h.held j f hj hf
  started f c hc := by
    dsimp only at hc ⊢
    by_cases hic : c = i
    · rw [hic, Function.update_self]
      exact nofun
    · rw [Function.update_of_ne hic]
      exact h.started f c hc
  written := h.written
  known j := by
    have hphase : (Function.update s.phase i .idle j).Known pid s := by
      by_cases hij : j = i
      · rw [hij, Function.update_self]
        trivial
      · rw [Function.update_of_ne hij]
        exact h.known j
    refine hphase.mono (fun _ _ hc => hc) fun c hc => ?_
    dsimp only
    have hic : c ≠ i := by
      rintro rfl
      rw [habsent] at hc
      cases hc
    rw [Function.update_of_ne hic]
    exact hc

lemma LockState.Sound.crash (h : s.Sound pid) :
    LockState.Sound pid { s with status := Function.update s.status i .dead } where
  held j f hj hf := by
    by_cases hij : j = i
    · subst hij
      dsimp only at hj
      rw [Function.update_self] at hj
      cases hj
    · dsimp only at hj
      rw [Function.update_of_ne hij] at hj
      exact h.held j f hj hf
  started f c hc := by
    dsimp only
    by_cases hic : c = i
    · rw [hic, Function.update_self]
      exact nofun
    · rw [Function.update_of_ne hic]
      exact h.started f c hc
  written := h.written
  known j := by
    refine (h.known j).mono (fun _ _ hc => hc) fun c hc => ?_
    dsimp only
    by_cases hic : c = i
    · rw [hic, Function.update_self]
    · rw [Function.update_of_ne hic]
      exact hc

/-- What a step owes: no creator is forgotten, and whoever has the lock keeps its file. -/
lemma LockState.Sound.advance (h : s.Sound pid)
    (hcreator : ∀ f c, s.disk.creator f = some c → d.creator f = some c)
    (hstarted : ∀ f c, d.creator f = some c → s.status c ≠ .absent)
    (hwritten : ∀ file ∈ d.files, ∀ metadata ∈ file.raw, metadata.pid = pid file.creator)
    (hself : ∀ f, p.lock = some f → s.status i = .live →
      d.path = some f ∧ d.creator f = some i)
    (hothers : ∀ j f, j ≠ i → s.status j = .live → (s.phase j).lock = some f → d.path = some f)
    (hknown : p.Known pid s) : (s.advance i d p).Sound pid where
  held j f hj hf := by
    unfold LockState.advance at hj hf ⊢
    dsimp only at hj hf ⊢
    by_cases hij : j = i
    · subst hij
      rw [Function.update_self] at hf
      exact hself f hf hj
    · rw [Function.update_of_ne hij] at hf
      exact ⟨hothers j f hij hj hf, hcreator f j (h.held j f hj hf).2⟩
  started := hstarted
  written := hwritten
  known j := by
    have hphase : ((s.advance i d p).phase j).Known pid s := by
      unfold LockState.advance
      dsimp only
      by_cases hij : j = i
      · rw [hij, Function.update_self]
        exact hknown
      · rw [Function.update_of_ne hij]
        exact h.known j
    exact hphase.mono hcreator fun _ hc => hc

/-- A step that leaves the files. -/
lemma LockState.Sound.move (h : s.Sound pid)
    (hlock : ∀ f, p.lock = some f → (s.phase i).lock = some f) (hknown : p.Known pid s) :
    (s.advance i s.disk p).Sound pid :=
  h.advance (fun _ _ hc => hc) h.started h.written (fun f hf hi => h.held i f hi (hlock f hf))
    (fun j f _ hj hf => (h.held j f hj hf).1) hknown

/-- A file is created where there is none, so no live process has the lock. -/
lemma LockState.Sound.create (h : s.Sound pid) (hi : s.status i = .live)
    (hfree : s.disk.path = none) (call : LockCall) (now : ℤ) :
    (s.advance i (s.disk.create i now) (.writing call s.disk.files.length)).Sound pid := by
  apply h.advance
  · exact fun f c hc => (creator_create s.disk f i now c).mpr (Or.inl hc)
  · intro f c hc
    rcases (creator_create s.disk f i now c).mp hc with hc | ⟨-, rfl⟩
    · exact h.started f c hc
    · rw [hi]
      exact nofun
  · intro file hfile metadata hmetadata
    rcases List.mem_append.mp hfile with hfile | hfile
    · exact h.written file hfile metadata hmetadata
    · rw [List.mem_singleton.mp hfile] at hmetadata
      cases hmetadata
  · intro f hf _
    cases hf
    exact ⟨rfl, (creator_create s.disk _ i now i).mpr (Or.inr ⟨rfl, rfl⟩)⟩
  · intro j f _ hj hf
    have hpath := (h.held j f hj hf).1
    rw [hfree] at hpath
    cases hpath
  · trivial

/-- The creator writes its process id. -/
lemma LockState.Sound.write (h : s.Sound pid) (hi : s.status i = .live) {call : LockCall} {fd : ℕ}
    (hphase : s.phase i = .writing call fd) (metadata : LockMetadata) (now : ℤ)
    (hpid : metadata.pid = pid i) :
    (s.advance i (s.disk.write fd metadata now) (.inside call fd)).Sound pid := by
  have hlock : (s.phase i).lock = some fd := by rw [hphase]; rfl
  obtain ⟨hpath, hcreator⟩ := h.held i fd hi hlock
  apply h.advance
  · exact fun f c hc => (creator_write s.disk f fd metadata now).trans hc
  · exact fun f c hc => h.started f c (creator_write s.disk f fd metadata now ▸ hc)
  · intro file hfile m hm
    obtain ⟨k, hk⟩ := List.mem_iff_getElem?.mp hfile
    unfold LockFiles.write at hk
    rw [List.getElem?_modify] at hk
    obtain ⟨old, hold, rfl⟩ := Option.map_eq_some_iff.mp hk
    split at hm
    · rename_i hfd
      subst hfd
      unfold LockFiles.creator at hcreator
      rw [hold] at hcreator
      cases hm
      rw [if_pos rfl, hpid, ← Option.some.inj hcreator]
    · rename_i hfd
      rw [if_neg hfd]
      exact h.written old (List.mem_iff_getElem?.mpr ⟨k, hold⟩) m hm
  · intro f hf _
    cases hf
    exact ⟨hpath, (creator_write s.disk fd fd metadata now).trans hcreator⟩
  · exact fun j f _ hj hf => (h.held j f hj hf).1
  · trivial

/-- A file is unlinked that no other live process has. -/
lemma LockState.Sound.unlink (h : s.Sound pid) (hlock : p.lock = none) (hknown : p.Known pid s)
    (hothers : ∀ j f, j ≠ i → s.status j = .live → (s.phase j).lock ≠ some f) :
    (s.advance i s.disk.unlink p).Sound pid := by
  apply h.advance (d := s.disk.unlink) (fun _ _ hc => hc) h.started h.written
  · intro f hf
    rw [hlock] at hf
    cases hf
  · exact fun j f hij hj hf => absurd hf (hothers j f hij hj)
  · exact hknown

variable [Fintype ι] (options : ι → LockOptions)

lemma next_sound (h : s.Sound pid) (hi : s.status i = .live) (now : ℤ)
    (hsure : s.Sure (.run i now)) :
    (s.advance i (s.next pid options i now).1 (s.next pid options i now).2).Sound pid := by
  have hknown := h.known i
  unfold LockState.Sure at hsure
  dsimp only at hsure
  unfold LockState.next
  cases hphase : s.phase i with
  | idle => exact h.move nofun trivial
  | opening call =>
    dsimp only
    cases hpath : s.disk.path with
    | none => exact h.create hi hpath call now
    | some f => exact h.move nofun trivial
  | writing call fd => exact h.write hi hphase _ now rfl
  | inside call fd =>
    apply h.move
    · intro f hf
      rw [hphase]
      exact hf
    · trivial
  | releasing call fd =>
    dsimp only
    cases hfile : s.disk.atPath with
    | none => exact h.move nofun trivial
    | some file =>
      dsimp only
      split
      · apply h.move
        · intro f hf
          rw [hphase]
          exact hf
        · trivial
      · exact h.move nofun trivial
  | unlinking fd =>
    -- the path leads to the file of this process, and no other process has it
    have hlock : (s.phase i).lock = some fd := by rw [hphase]; rfl
    obtain ⟨hpath, hcreator⟩ := h.held i fd hi hlock
    apply h.unlink (p := .idle) rfl trivial
    intro j f hij hj hf
    obtain ⟨hpath', hcreator'⟩ := h.held j f hj hf
    rw [hpath] at hpath'
    cases hpath'
    rw [hcreator] at hcreator'
    exact hij (Option.some.inj hcreator').symm
  | statting call =>
    dsimp only
    cases s.disk.atPath <;> exact h.move nofun trivial
  | reading call stat =>
    dsimp only
    cases s.disk.atPath <;> exact h.move nofun trivial
  | testing call staleCandidate =>
    dsimp only
    split <;> exact h.move nofun trivial
  | restatting call staleCandidate =>
    dsimp only
    cases s.disk.atPath <;> exact h.move nofun trivial
  | rereading call staleCandidate stat =>
    dsimp only
    split
    · rename_i f file hpath hfile
      obtain ⟨f', hpath', hread⟩ := atPath_eq_some hfile
      rw [hpath] at hpath'
      cases hpath'
      exact h.move nofun (h.read hread)
    · exact h.move nofun trivial
  | retesting call staleCandidate current file =>
    rw [hphase] at hknown
    dsimp only
    split
    · rename_i htest
      have halive : isFileLockOwnerAlive pid s i current = false := by simp_all
      exact h.move (p := .removing call current file) nofun fun hwritten =>
        h.dead hknown halive hwritten
    · exact h.move nofun trivial
  | removing call current file =>
    rw [hphase] at hsure hknown
    have hpermits := hsure (current, file) rfl
    apply h.unlink (p := .waiting call) rfl trivial
    intro j f _ hj hf
    have hpath := (h.held j f hj hf).1
    apply h.unused hpath _ j f hj hf
    -- either the file that was read, whose creator is dead, or one that no process has
    rcases hpermits f hpath with ⟨rfl, hwritten⟩ | hunused
    · exact Or.inl (hknown hwritten)
    · exact Or.inr hunused
  | waiting call =>
    dsimp only
    split <;> exact h.move nofun trivial

lemma step_sound (h : s.Sound pid) {a : Action ι} (hsure : s.Sure a) :
    (s.step pid options a).Sound pid := by
  unfold LockState.step
  cases a with
  | start i =>
    dsimp only
    split
    · rename_i habsent
      exact h.start habsent
    · exact h
  | call i token now =>
    dsimp only
    split
    · exact h.move nofun trivial
    · exact h
  | run i now =>
    dsimp only
    split
    · rename_i hi
      exact next_sound options h hi now hsure
    · exact h
  | crash i =>
    dsimp only
    split
    · exact h.crash
    · exact h

end

/-- In every run in which `removeStaleLock` only unlinks the file that it read with what was
written to it, or one that no live process has, at most one live process is inside at any time. -/
theorem mutual_exclusion [DecidableEq ι] [Fintype ι] (pid : ι → ℕ+) (options : ι → LockOptions)
    (actions : List (Action ι))
    (h : Permitted LockState.Sure (LockState.step pid options) (.initial ι) actions) :
    ∀ s ∈ history (LockState.step pid options) (.initial ι) actions, s.Exclusive := by
  have hsound := Permitted.invariant (I := LockState.Sound pid) (sound_initial pid)
    (fun s a hs ha => step_sound options hs ha) h
  exact fun s hs => (hsound s hs).exclusive

/-- `n` steps of one process. -/
def steps {n : ℕ} (i : Fin n) (now : ℤ) (count : ℕ) : List (Action (Fin n)) :=
  List.replicate count (.run i now)

/-- The process 0 crashes inside; half a minute later the process 1 takes the lock over. -/
def oneTakesOver : List (Action (Fin 3)) :=
  [.start 0, .call 0 (js "100:0:a") 0] ++ steps 0 0 2 ++ [.crash 0]
    ++ [.start 1, .call 1 (js "101:30000:b") 30000] ++ steps 1 30000 11

/-- The processes 1 and 2 both find the lock of the crashed process 0. The process 1 unlinks it and
creates its own, which the process 2 unlinks. -/
def bothTakeOver : List (Action (Fin 3)) :=
  [.start 0, .call 0 (js "100:0:a") 0] ++ steps 0 0 2 ++ [.crash 0]
    ++ [.start 1, .call 1 (js "101:30000:b") 30000, .start 2, .call 2 (js "102:30000:c") 30000]
    ++ steps 1 30000 7 ++ steps 2 30000 7 ++ steps 1 30000 4 ++ steps 2 30000 4

def pids (i : Fin 3) : ℕ+ := Nat.succPNat (99 + i)

theorem mutual_exclusion_one :
    (oneTakesOver.foldl (LockState.step pids fun _ => .default) (.initial (Fin 3))).Exclusive :=
  mutual_exclusion pids (fun _ => .default) oneTakesOver (by decide +kernel) _
    (foldl_mem_history _ _ _)

/-- Both are inside. -/
theorem two_inside :
    ¬(bothTakeOver.foldl (LockState.step pids fun _ => .default) (.initial (Fin 3))).Exclusive := by
  intro h
  have hsame := h 1 2 (by decide +kernel) (by decide +kernel) (by decide +kernel) (by decide +kernel)
  cases hsame

end CodexRouter.Lock
