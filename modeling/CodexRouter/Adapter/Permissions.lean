import CodexRouter.Adapter.Contracts
import CodexRouter.Adapter.Specificity
import Mathlib.Order.CompletePartialOrder

/-!
# Narrowing permission grants

A grant may leave out rules of the request, but a rule may be what keeps a wider one away from
a path. What `isPermissionGrantSubset` lets a grant leave out raises the access at no path.
-/

open Js Specificity

namespace CodexRouter.Adapter

/-! ## Access -/

def EntryAccess.level : EntryAccess → ℕ
  | deny | none => 0
  | read => 1
  | write => 2

/-- Path patterns, the paths they match, and where a profile's members lie among them. -/
structure PathReading (Pattern Path : Type) where
  ofPath : Str → Pattern
  ofEntry : FileSystemPath → Pattern
  Matches : Pattern → Path → Prop

namespace AdditionalFileSystemPermissions

def readPaths (permissions : AdditionalFileSystemPermissions) : List Str :=
  permissions.read.join.getD []

def writePaths (permissions : AdditionalFileSystemPermissions) : List Str :=
  permissions.write.join.getD []

def entryList (permissions : AdditionalFileSystemPermissions) : List FileSystemSandboxEntry :=
  permissions.entries.getD []

/-- A write path is granted or an entry of write access. -/
def GrantsWrite (permissions : AdditionalFileSystemPermissions) : Prop :=
  permissions.writePaths ≠ [] ∨ ∃ entry ∈ permissions.entryList, entry.access = .write

instance (permissions : AdditionalFileSystemPermissions) : Decidable permissions.GrantsWrite :=
  inferInstanceAs (Decidable (_ ∨ _))

/-- One rule for each entry, each read path and each write path. -/
def rules {Pattern Path : Type} (reading : PathReading Pattern Path)
    (permissions : AdditionalFileSystemPermissions) : List (Rule Pattern) :=
  permissions.entryList.map (fun entry => ⟨reading.ofEntry entry.path, entry.access.level⟩)
    ++ permissions.readPaths.map (fun path => ⟨reading.ofPath path, 1⟩)
    ++ permissions.writePaths.map (fun path => ⟨reading.ofPath path, 2⟩)

end AdditionalFileSystemPermissions

/-- The access of a profile at a path; a profile without file permissions has no rules. -/
noncomputable def access {Pattern Path : Type} [PartialOrder Pattern]
    (reading : PathReading Pattern Path) (profile : CodexAppServerPermissionProfile)
    (path : Path) : ℕ :=
  match profile.fileSystem.join with
  | none => level reading.Matches [] path
  | some permissions => level reading.Matches (permissions.rules reading) path

/-- A grant read as a request. -/
def CodexAppServerPermissionGrant.profile (grant : CodexAppServerPermissionGrant) :
    CodexAppServerPermissionProfile where
  network := grant.network.map some
  fileSystem := grant.fileSystem.map some

@[simp] lemma CodexAppServerPermissionGrant.network_profile
    (grant : CodexAppServerPermissionGrant) : grant.profile.network.join = grant.network := by
  unfold profile
  cases grant.network <;> rfl

@[simp] lemma CodexAppServerPermissionGrant.fileSystem_profile
    (grant : CodexAppServerPermissionGrant) :
    grant.profile.fileSystem.join = grant.fileSystem := by
  unfold profile
  cases grant.fileSystem <;> rfl

/-! ## What a grant may leave out -/

/-- What `isFileSystemGrantSubset` checks. -/
structure FileSystemNarrows (requested granted : AdditionalFileSystemPermissions) : Prop where
  depth : granted.globScanMaxDepth = requested.globScanMaxDepth
  read : granted.readPaths ⊆ requested.readPaths
  write : granted.writePaths ⊆ requested.writePaths
  entries : granted.entryList ⊆ requested.entryList
  keepsReads : granted.GrantsWrite → requested.readPaths ⊆ granted.readPaths
  keepsRestrictions : ∀ entry ∈ requested.entryList,
    entry.access = .deny ∨ entry.access = .none ∨ (granted.GrantsWrite ∧ entry.access = .read) →
    entry ∈ granted.entryList

lemma isArraySubset_iff {α : Type} [DecidableEq α] {selected requested : List α} :
    isArraySubset selected requested = true ↔ selected ⊆ requested := by
  unfold isArraySubset
  rw [List.all_eq_true]
  simp only [List.contains_iff_mem]
  rfl

lemma grantsWrite_iff {granted : AdditionalFileSystemPermissions} :
    (decide (granted.writePaths ≠ []) || granted.entryList.any fun entry => entry.access = .write)
      = true ↔ granted.GrantsWrite := by
  unfold AdditionalFileSystemPermissions.GrantsWrite
  simp

lemma isFileSystemGrantSubset_iff {requested granted : AdditionalFileSystemPermissions} :
    isFileSystemGrantSubset (some requested) granted = true ↔
      FileSystemNarrows requested granted := by
  have hrestrictions : ∀ grantsWrite : Bool, (requested.entryList.filter fun entry =>
      entry.access = .deny || entry.access = .none || (grantsWrite && entry.access = .read)) ⊆
        granted.entryList ↔ ∀ entry ∈ requested.entryList, entry.access = .deny ∨
          entry.access = .none ∨ (grantsWrite = true ∧ entry.access = .read) →
          entry ∈ granted.entryList := by
    intro grantsWrite
    simp [List.subset_def, List.mem_filter, or_assoc]
  have hwrites : (decide (granted.writePaths ≠ []) || granted.entryList.any fun entry =>
      entry.access = .write) = decide granted.GrantsWrite := by
    rw [Bool.eq_iff_iff, grantsWrite_iff, decide_eq_true_eq]
  show (if granted.globScanMaxDepth ≠ requested.globScanMaxDepth then false
    else if !isArraySubset granted.readPaths requested.readPaths ||
      !isArraySubset granted.writePaths requested.writePaths then false
    else if !isArraySubset granted.entryList requested.entryList then false
    else if (decide (granted.writePaths ≠ []) || granted.entryList.any fun entry =>
      entry.access = .write) && !isArraySubset requested.readPaths granted.readPaths then false
    else isArraySubset (requested.entryList.filter fun entry =>
      entry.access = .deny || entry.access = .none ||
        ((decide (granted.writePaths ≠ []) || granted.entryList.any fun entry =>
          entry.access = .write) && entry.access = .read)) granted.entryList) = true ↔ _
  rw [hwrites]
  simp only [Bool.if_false_left, Bool.and_eq_true, Bool.not_eq_true', Bool.or_eq_true,
    decide_eq_false_iff_not, decide_eq_true_eq, isArraySubset_iff, hrestrictions, not_or, not_and,
    Bool.not_eq_false, ne_eq, not_not]
  constructor
  · intro h
    obtain ⟨hdepth, ⟨hread, hwrite⟩, hentries, hkeeps, hrest⟩ := h
    exact ⟨hdepth, hread, hwrite, hentries, hkeeps, hrest⟩
  · intro h
    exact ⟨h.depth, ⟨h.read, h.write⟩, h.entries, h.keepsReads, h.keepsRestrictions⟩

/-! ## Access under a grant -/

lemma EntryAccess.level_le_two (access : EntryAccess) : access.level ≤ 2 := by
  cases access <;> decide

section

variable {Pattern Path : Type} {reading : PathReading Pattern Path}
  {requested granted : AdditionalFileSystemPermissions}

lemma mem_rules {permissions : AdditionalFileSystemPermissions} {rule : Rule Pattern} :
    rule ∈ permissions.rules reading ↔
      (∃ entry ∈ permissions.entryList, ⟨reading.ofEntry entry.path, entry.access.level⟩ = rule) ∨
      (∃ path ∈ permissions.readPaths, ⟨reading.ofPath path, 1⟩ = rule) ∨
      ∃ path ∈ permissions.writePaths, ⟨reading.ofPath path, 2⟩ = rule := by
  unfold AdditionalFileSystemPermissions.rules
  rw [List.mem_append, List.mem_append, List.mem_map, List.mem_map, List.mem_map, or_assoc]

lemma level_le_two {permissions : AdditionalFileSystemPermissions} {rule : Rule Pattern}
    (h : rule ∈ permissions.rules reading) : rule.level ≤ 2 := by
  rcases mem_rules.mp h with ⟨entry, -, rfl⟩ | ⟨path, -, rfl⟩ | ⟨path, -, rfl⟩
  · exact entry.access.level_le_two
  · exact Nat.le_succ 1
  · exact Nat.le_refl 2

/-- Without a granted write no rule of the grant gives more than reading. -/
lemma level_le_one {permissions : AdditionalFileSystemPermissions} {rule : Rule Pattern}
    (hwrite : ¬ permissions.GrantsWrite) (h : rule ∈ permissions.rules reading) :
    rule.level ≤ 1 := by
  rcases mem_rules.mp h with ⟨entry, hentry, rfl⟩ | ⟨path, -, rfl⟩ | ⟨path, hpath, rfl⟩
  · have hne : entry.access ≠ .write := fun haccess => hwrite (Or.inr ⟨entry, hentry, haccess⟩)
    show entry.access.level ≤ 1
    revert hne
    cases entry.access <;> decide
  · exact Nat.le_refl 1
  · exact absurd (Or.inl (List.ne_nil_of_mem hpath)) hwrite

lemma FileSystemNarrows.rules_subset (h : FileSystemNarrows requested granted) :
    ∀ rule ∈ granted.rules reading, rule ∈ requested.rules reading := by
  intro rule hrule
  apply mem_rules.mpr
  rcases mem_rules.mp hrule with ⟨entry, hentry, rfl⟩ | ⟨path, hpath, rfl⟩ | ⟨path, hpath, rfl⟩
  · exact Or.inl ⟨entry, h.entries hentry, rfl⟩
  · exact Or.inr (Or.inl ⟨path, h.read hpath, rfl⟩)
  · exact Or.inr (Or.inr ⟨path, h.write hpath, rfl⟩)

/-- With a granted write only rules of writing are left out, and without one no restriction is. -/
lemma FileSystemNarrows.level_dropped (h : FileSystemNarrows requested granted)
    {rule : Rule Pattern} (hrule : rule ∈ requested.rules reading)
    (hdropped : rule ∉ granted.rules reading) :
    rule.level = 2 ∨ (¬ granted.GrantsWrite ∧ 1 ≤ rule.level) := by
  have hkept : ¬ ((∃ entry ∈ granted.entryList,
      ⟨reading.ofEntry entry.path, entry.access.level⟩ = rule) ∨
      (∃ path ∈ granted.readPaths, ⟨reading.ofPath path, 1⟩ = rule) ∨
      ∃ path ∈ granted.writePaths, ⟨reading.ofPath path, 2⟩ = rule) := fun hmem =>
    hdropped (mem_rules.mpr hmem)
  rcases mem_rules.mp hrule with ⟨entry, hentry, rfl⟩ | ⟨path, hpath, rfl⟩ | ⟨path, hpath, rfl⟩
  · have hrestriction : ¬ (entry.access = .deny ∨ entry.access = .none ∨
        (granted.GrantsWrite ∧ entry.access = .read)) := fun hrest =>
      hkept (Or.inl ⟨entry, h.keepsRestrictions entry hentry hrest, rfl⟩)
    rw [not_or, not_or, not_and] at hrestriction
    show entry.access.level = 2 ∨ (¬ granted.GrantsWrite ∧ 1 ≤ entry.access.level)
    cases haccess : entry.access with
    | read => exact Or.inr ⟨fun hwrite => hrestriction.2.2 hwrite haccess, Nat.le_refl 1⟩
    | write => exact Or.inl rfl
    | deny => exact absurd haccess hrestriction.1
    | none => exact absurd haccess hrestriction.2.1
  · right
    refine ⟨?_, Nat.le_refl 1⟩
    intro hwrite
    exact hkept (Or.inr (Or.inl ⟨path, h.keepsReads hwrite hpath, rfl⟩))
  · exact Or.inl rfl

lemma FileSystemNarrows.level_le [PartialOrder Pattern] (h : FileSystemNarrows requested granted)
    (path : Path) : level reading.Matches (granted.rules reading) path ≤
      level reading.Matches (requested.rules reading) path := by
  apply level_narrow h.rules_subset
  intro rule hrule hdropped kept hkept
  rcases h.level_dropped hrule hdropped with hlevel | ⟨hwrite, hlevel⟩
  · rw [hlevel]
    exact level_le_two hkept
  · exact (level_le_one hwrite hkept).trans hlevel

end

/-! ## Narrowing twice -/

lemma GrantsWrite.of_narrows {requested granted : AdditionalFileSystemPermissions}
    (h : FileSystemNarrows requested granted) (hwrite : granted.GrantsWrite) :
    requested.GrantsWrite := by
  rcases hwrite with hpaths | ⟨entry, hentry, haccess⟩
  · left
    obtain ⟨path, hpath⟩ := List.exists_mem_of_ne_nil _ hpaths
    exact List.ne_nil_of_mem (h.write hpath)
  · exact Or.inr ⟨entry, h.entries hentry, haccess⟩

lemma FileSystemNarrows.trans {requested first second : AdditionalFileSystemPermissions}
    (hfirst : FileSystemNarrows requested first) (hsecond : FileSystemNarrows first second) :
    FileSystemNarrows requested second where
  depth := hsecond.depth.trans hfirst.depth
  read := List.Subset.trans hsecond.read hfirst.read
  write := List.Subset.trans hsecond.write hfirst.write
  entries := List.Subset.trans hsecond.entries hfirst.entries
  keepsReads := by
    intro hwrite
    have hfirstWrite := GrantsWrite.of_narrows hsecond hwrite
    exact List.Subset.trans (hfirst.keepsReads hfirstWrite) (hsecond.keepsReads hwrite)
  keepsRestrictions := by
    intro entry hentry hrestriction
    apply hsecond.keepsRestrictions entry _ hrestriction
    apply hfirst.keepsRestrictions entry hentry
    rcases hrestriction with hdeny | hnone | ⟨hwrite, hread⟩
    · exact Or.inl hdeny
    · exact Or.inr (Or.inl hnone)
    · exact Or.inr (Or.inr ⟨GrantsWrite.of_narrows hsecond hwrite, hread⟩)

lemma isNetworkGrantSubset_iff {requested : Option AdditionalNetworkPermissions}
    {granted : AdditionalNetworkPermissions} :
    isNetworkGrantSubset requested granted = true ↔
      ∃ network ∈ requested, granted.enabled = network.enabled := by
  cases requested <;> simp [isNetworkGrantSubset]

lemma isFileSystemGrantSubset_option {requested : Option AdditionalFileSystemPermissions}
    {granted : AdditionalFileSystemPermissions} :
    isFileSystemGrantSubset requested granted = true ↔
      ∃ permissions ∈ requested, FileSystemNarrows permissions granted := by
  cases requested with
  | none => simp [isFileSystemGrantSubset]
  | some requested =>
    rw [isFileSystemGrantSubset_iff]
    simp

/-- What `isPermissionGrantSubset` checks. -/
lemma isPermissionGrantSubset_iff {requested : CodexAppServerPermissionProfile}
    {granted : CodexAppServerPermissionGrant} :
    isPermissionGrantSubset requested granted = true ↔
      requested.issues = [] ∧ granted.issues = [] ∧
      (∀ network ∈ granted.network, ∃ other ∈ requested.network.join,
        network.enabled = other.enabled) ∧
      ∀ permissions ∈ granted.fileSystem, ∃ other ∈ requested.fileSystem.join,
        FileSystemNarrows other permissions := by
  have hnetwork : (granted.network.any fun network =>
      !isNetworkGrantSubset requested.network.join network) = false ↔
        ∀ network ∈ granted.network, ∃ other ∈ requested.network.join,
          network.enabled = other.enabled := by
    cases granted.network with
    | none => simp
    | some network =>
      rw [Option.any_some, Bool.not_eq_false', isNetworkGrantSubset_iff]
      simp
  have hfiles : (granted.fileSystem.all fun fileSystem =>
      isFileSystemGrantSubset requested.fileSystem.join fileSystem) = true ↔
        ∀ permissions ∈ granted.fileSystem, ∃ other ∈ requested.fileSystem.join,
          FileSystemNarrows other permissions := by
    cases granted.fileSystem with
    | none => simp
    | some permissions =>
      rw [Option.all_some, isFileSystemGrantSubset_option]
      simp
  unfold isPermissionGrantSubset
  rw [← hnetwork, ← hfiles]
  simp only [Bool.if_false_left, Bool.and_eq_true, Bool.not_eq_true', decide_eq_false_iff_not,
    decide_eq_true_eq, Bool.not_eq_true, ne_eq, not_not, and_assoc, Bool.or_eq_true, not_or]

/-- A grant that passes the check gives no more access than the request at any path, whatever the
patterns match and whichever are more specific, and a grant that narrows a grant narrows the request
of the first. -/
theorem permissionGrant_narrows :
    (∀ (Pattern Path : Type) [PartialOrder Pattern] (reading : PathReading Pattern Path)
      (requested : CodexAppServerPermissionProfile) (granted : CodexAppServerPermissionGrant),
      isPermissionGrantSubset requested granted = true →
      ∀ path, access reading granted.profile path ≤ access reading requested path) ∧
    ∀ (requested : CodexAppServerPermissionProfile) (first second : CodexAppServerPermissionGrant),
      isPermissionGrantSubset requested first = true →
      isPermissionGrantSubset first.profile second = true →
      isPermissionGrantSubset requested second = true := by
  constructor
  · intro Pattern Path _ reading requested granted h path
    obtain ⟨-, -, -, hfiles⟩ := isPermissionGrantSubset_iff.mp h
    unfold access
    rw [granted.fileSystem_profile]
    cases hgranted : granted.fileSystem with
    | none =>
      have hnone : level reading.Matches [] path = 0 := level_eq_zero fun rule hrule =>
        List.not_mem_nil hrule.mem
      show level reading.Matches [] path ≤ _
      rw [hnone]
      exact Nat.zero_le _
    | some permissions =>
      obtain ⟨other, hother, hnarrows⟩ := hfiles permissions hgranted
      rw [Option.mem_def.mp hother]
      exact hnarrows.level_le path
  · intro requested first second hfirst hsecond
    obtain ⟨hissues, -, hnetwork, hfiles⟩ := isPermissionGrantSubset_iff.mp hfirst
    obtain ⟨-, hsecondIssues, hsecondNetwork, hsecondFiles⟩ := isPermissionGrantSubset_iff.mp hsecond
    rw [first.network_profile] at hsecondNetwork
    rw [first.fileSystem_profile] at hsecondFiles
    apply isPermissionGrantSubset_iff.mpr
    refine ⟨hissues, hsecondIssues, ?_, ?_⟩
    · intro network hmem
      obtain ⟨middle, hmiddle, heq⟩ := hsecondNetwork network hmem
      obtain ⟨other, hother, hsame⟩ := hnetwork middle hmiddle
      exact ⟨other, hother, heq.trans hsame⟩
    · intro permissions hmem
      obtain ⟨middle, hmiddle, hnarrows⟩ := hsecondFiles permissions hmem
      obtain ⟨other, hother, hfirstNarrows⟩ := hfiles middle hmiddle
      exact ⟨other, hother, hfirstNarrows.trans hnarrows⟩

/-- A pattern is the set of paths below it, and a smaller set is more specific. -/
def belowReading : PathReading (Set Str)ᵒᵈ Str where
  ofPath path := OrderDual.toDual {other | path <+: other}
  ofEntry
    | .path path => OrderDual.toDual {other | path <+: other}
    | _ => OrderDual.toDual Set.univ
  Matches pattern path := path ∈ OrderDual.ofDual pattern

/-- A request to write below one directory, except for what is read or kept out. -/
def writeRequest : CodexAppServerPermissionProfile where
  network := some (some ⟨some (some true)⟩)
  fileSystem := some (some {
    read := some (some [js "/w/docs"])
    write := some (some [js "/w", js "/tmp"])
    globScanMaxDepth := none
    entries := some [⟨.deny, .path (js "/w/secret")⟩] })

/-- The grants that leave out one and both of the written directories. -/
def writeGrant (write : List Str) : CodexAppServerPermissionGrant where
  network := none
  fileSystem := some {
    read := some (some [js "/w/docs"])
    write := some (some write)
    globScanMaxDepth := none
    entries := some [⟨.deny, .path (js "/w/secret")⟩] }

theorem permissionGrant_narrows_write :
    (isPermissionGrantSubset writeRequest (writeGrant [js "/w"]) = true ∧
      ∀ path, access belowReading (writeGrant [js "/w"]).profile path ≤
        access belowReading writeRequest path) ∧
    isPermissionGrantSubset writeRequest (writeGrant []) = true := by
  have hfirst : isPermissionGrantSubset writeRequest (writeGrant [js "/w"]) = true := by
    decide +kernel
  have hsecond : isPermissionGrantSubset (writeGrant [js "/w"]).profile (writeGrant []) = true := by
    decide +kernel
  exact ⟨⟨hfirst, permissionGrant_narrows.1 _ _ belowReading _ _ hfirst⟩,
    permissionGrant_narrows.2 _ _ _ hfirst hsecond⟩

end CodexRouter.Adapter
