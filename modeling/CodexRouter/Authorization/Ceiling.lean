import CodexRouter.Authorization.Decision
import CodexRouter.Capability.Files
import CodexRouter.Js.Ascii

/-!
# Narrowing to the capability ceiling

An allowed scope was requested and is implied by a ceiling scope. Implication reads the request
as one resource, so a request that is a wildcard may reach further than the scope that implied it.
-/

open Js

namespace CodexRouter.Authorization
open Kernel Capability

/-- Some ceiling scope implies the requested scope. -/
def Admitted (capabilityCeiling : List CapabilityScope) (requested : CapabilityScope) : Prop :=
  ∃ g ∈ capabilityCeiling, ∃ grantScope requestedScope,
    capabilityScopeToCanonicalString g = .ok grantScope ∧
    capabilityScopeToCanonicalString requested = .ok requestedScope ∧
    capabilityImplies grantScope requestedScope = .ok true

/-! ## The narrowing loop -/

lemma dedupe_sublist {seen : List Str} {scopes result : List CapabilityScope}
    (h : dedupeCapabilityScopes seen scopes = .ok result) : result.Sublist scopes := by
  induction scopes generalizing seen result with
  | nil => simp_all [dedupeCapabilityScopes]
  | cons scope scopes ih =>
    simp only [dedupeCapabilityScopes, bind_eq_ok] at h
    obtain ⟨key, -, h⟩ := h
    split at h
    · exact (ih h).cons _
    · simp only [bind_eq_ok, pure_eq_ok] at h
      obtain ⟨rest, hrest, rfl⟩ := h
      exact (ih hrest).cons_cons _

/-- A scope that was dropped had the canonical string of one that was kept. -/
lemma dedupe_complete {seen : List Str} {scopes result : List CapabilityScope}
    (h : dedupeCapabilityScopes seen scopes = .ok result) {a : CapabilityScope} {s : Str}
    (ha : a ∈ scopes) (hs : capabilityScopeToCanonicalString a = .ok s) :
    s ∈ seen ∨ ∃ b ∈ result, capabilityScopeToCanonicalString b = .ok s := by
  induction scopes generalizing seen result with
  | nil => simp at ha
  | cons scope scopes ih =>
    simp only [dedupeCapabilityScopes, bind_eq_ok] at h
    obtain ⟨key, hkey, h⟩ := h
    split at h
    · rename_i hseen
      obtain rfl | ha := List.mem_cons.mp ha
      · obtain rfl : s = key := by simpa [hs] using hkey
        exact Or.inl hseen
      · exact ih h ha
    · simp only [bind_eq_ok, pure_eq_ok] at h
      obtain ⟨rest, hrest, rfl⟩ := h
      obtain rfl | ha := List.mem_cons.mp ha
      · exact Or.inr ⟨a, by simp, hs⟩
      · obtain hm | ⟨b, hb, hbs⟩ := ih hrest ha
        · obtain rfl | hm := List.mem_cons.mp hm
          · exact Or.inr ⟨scope, by simp, hkey⟩
          · exact Or.inl hm
        · exact Or.inr ⟨b, by simp [hb], hbs⟩

/-- A predicate on canonical strings commutes with keeping the first of each. -/
lemma dedupe_filter {p : CapabilityScope → Bool}
    (hp : ∀ a b s, capabilityScopeToCanonicalString a = .ok s →
      capabilityScopeToCanonicalString b = .ok s → p a = p b)
    {seen seen' : List Str} {scopes result result' : List CapabilityScope}
    (hseen : ∀ a s, capabilityScopeToCanonicalString a = .ok s → p a = true →
      (s ∈ seen ↔ s ∈ seen'))
    (h : dedupeCapabilityScopes seen scopes = .ok result)
    (h' : dedupeCapabilityScopes seen' (scopes.filter p) = .ok result') : result' ⊆ result := by
  induction scopes generalizing seen seen' result result' with
  | nil => simp_all [dedupeCapabilityScopes]
  | cons scope scopes ih =>
    simp only [dedupeCapabilityScopes, bind_eq_ok] at h
    obtain ⟨key, hkey, h⟩ := h
    by_cases hps : p scope = true
    · rw [List.filter_cons_of_pos hps] at h'
      simp only [dedupeCapabilityScopes, hkey, ok_bind] at h'
      by_cases hk : key ∈ seen
      · rw [if_pos hk] at h
        rw [if_pos ((hseen scope key hkey hps).mp hk)] at h'
        exact ih hseen h h'
      · rw [if_neg hk, bind_eq_ok] at h
        rw [if_neg (mt (hseen scope key hkey hps).mpr hk), bind_eq_ok] at h'
        simp only [pure_eq_ok] at h h'
        obtain ⟨rest, hrest, rfl⟩ := h
        obtain ⟨rest', hrest', rfl⟩ := h'
        refine List.cons_subset_cons _ (ih ?_ hrest hrest')
        intro a s ha hpa
        simp [hseen a s ha hpa]
    · rw [List.filter_cons_of_neg hps] at h'
      by_cases hk : key ∈ seen
      · rw [if_pos hk] at h
        exact ih hseen h h'
      · rw [if_neg hk, bind_eq_ok] at h
        simp only [pure_eq_ok] at h
        obtain ⟨rest, hrest, rfl⟩ := h
        refine List.Subset.trans (ih ?_ hrest h') (List.subset_cons_self _ _)
        intro a s ha hpa
        have hne : s ≠ key := by
          rintro rfl
          exact hps ((hp scope a s hkey ha).trans hpa)
        simp [hne, hseen a s ha hpa]

/-- Some ceiling string implies the canonical string of the scope. -/
def admits (ceilingScopes : List Str) (requested : CapabilityScope) : Bool :=
  match capabilityScopeToCanonicalString requested with
  | .ok s => ceilingScopes.any fun ceilingScope => capabilityImpliesSafely ceilingScope s
  | .error _ => false

lemma admits_iff {ceilingScopes : List Str} {ceiling : List CapabilityScope}
    (h : ceiling.mapM capabilityScopeToCanonicalString = .ok ceilingScopes)
    (a : CapabilityScope) : admits ceilingScopes a = true ↔ Admitted ceiling a := by
  unfold admits Admitted
  cases hs : capabilityScopeToCanonicalString a with
  | error e => simp
  | ok s =>
    simp only [List.any_eq_true, capabilityImpliesSafely, Result.orElse_false,
      exists_mem_mapM h, Except.ok.injEq]
    constructor
    · rintro ⟨g, hg, t, ht, hi⟩
      exact ⟨g, hg, t, s, ht, rfl, hi⟩
    · rintro ⟨g, hg, t, _, ht, rfl, hi⟩
      exact ⟨g, hg, t, ht, hi⟩

lemma admits_congr (ceilingScopes : List Str) (a b : CapabilityScope) (s : Str)
    (ha : capabilityScopeToCanonicalString a = .ok s)
    (hb : capabilityScopeToCanonicalString b = .ok s) :
    admits ceilingScopes a = admits ceilingScopes b := by
  simp [admits, ha, hb]

lemma narrowLoop_spec {ceilingScopes : List Str} {requested : List CapabilityScope}
    {narrowed : Narrowed} (h : narrowLoop ceilingScopes requested = .ok narrowed) :
    narrowed.allowed = requested.filter (admits ceilingScopes) ∧
      (narrowed.missing = [] ↔ ∀ a ∈ requested, admits ceilingScopes a = true) := by
  induction requested generalizing narrowed with
  | nil =>
    simp only [narrowLoop, pure_eq_ok] at h
    simp [← h]
  | cons b requested ih =>
    simp only [narrowLoop, bind_eq_ok] at h
    obtain ⟨s, hs, rest, hrest, h⟩ := h
    obtain ⟨hallowed, hmissing⟩ := ih hrest
    have hb : admits ceilingScopes b =
        ceilingScopes.any fun g => capabilityImpliesSafely g s := by simp [admits, hs]
    split at h
    · rename_i hc
      simp only [pure_eq_ok] at h
      simp [← h, hb, hc, hallowed, hmissing]
    · rename_i hc
      simp only [pure_eq_ok] at h
      simp [← h, hb, hc, hallowed]

/-- The allowed scopes are requested and admitted; each admitted request keeps a scope of its
canonical string. -/
theorem narrow_spec {requested ceiling : List CapabilityScope} {narrowed : Narrowed}
    (h : narrowToCapabilityCeiling requested ceiling = .ok narrowed) :
    (∀ a ∈ narrowed.allowed, a ∈ requested ∧ Admitted ceiling a) ∧
    ∀ a ∈ requested, Admitted ceiling a → ∃ b ∈ narrowed.allowed,
      capabilityScopeToCanonicalString b = capabilityScopeToCanonicalString a := by
  simp only [narrowToCapabilityCeiling, bind_eq_ok, pure_eq_ok] at h
  obtain ⟨ceilingScopes, hceiling, loop, hloop, allowed, hallowed, rfl⟩ := h
  have hloop' : ∀ a, a ∈ loop.allowed ↔ a ∈ requested ∧ Admitted ceiling a := by
    intro a
    rw [(narrowLoop_spec hloop).1, List.mem_filter, admits_iff hceiling]
  constructor
  · exact fun a ha => (hloop' a).mp ((dedupe_sublist hallowed).subset ha)
  · rintro a ha hadm
    obtain ⟨_, _, _, s, _, hs, _⟩ := id hadm
    obtain hm | ⟨b, hb, hbs⟩ := dedupe_complete hallowed ((hloop' a).mpr ⟨ha, hadm⟩) hs
    · simp at hm
    · exact ⟨b, hb, hbs.trans hs.symm⟩

lemma narrowLoop_returns (ceilingScopes : List Str) {requested : List CapabilityScope}
    (h : ∀ a ∈ requested, ∃ s, capabilityScopeToCanonicalString a = .ok s) :
    ∃ narrowed, narrowLoop ceilingScopes requested = .ok narrowed := by
  induction requested with
  | nil => exact ⟨_, rfl⟩
  | cons a requested ih =>
    obtain ⟨s, hs⟩ := h a (by simp)
    obtain ⟨rest, hrest⟩ := ih fun b hb => h b (by simp [hb])
    simp only [narrowLoop, hs, hrest, ok_bind]
    split <;> exact ⟨_, rfl⟩

lemma dedupe_returns (seen : List Str) {scopes : List CapabilityScope}
    (h : ∀ a ∈ scopes, ∃ s, capabilityScopeToCanonicalString a = .ok s) :
    ∃ result, dedupeCapabilityScopes seen scopes = .ok result := by
  induction scopes generalizing seen with
  | nil => exact ⟨_, rfl⟩
  | cons a scopes ih =>
    obtain ⟨s, hs⟩ := h a (by simp)
    have ih := fun seen => ih seen fun b hb => h b (by simp [hb])
    simp only [dedupeCapabilityScopes, hs, ok_bind]
    split
    · exact ih seen
    · obtain ⟨rest, hrest⟩ := ih (s :: seen)
      exact ⟨a :: rest, by rw [hrest]; rfl⟩

/-- Narrowing throws only for a scope without a canonical string. -/
theorem narrow_returns {requested ceiling : List CapabilityScope}
    (hrequested : ∀ a ∈ requested, ∃ s, capabilityScopeToCanonicalString a = .ok s)
    (hceiling : ∀ a ∈ ceiling, ∃ s, capabilityScopeToCanonicalString a = .ok s) :
    ∃ narrowed, narrowToCapabilityCeiling requested ceiling = .ok narrowed := by
  obtain ⟨ceilingScopes, hc⟩ := mapM_returns hceiling
  obtain ⟨loop, hloop⟩ := narrowLoop_returns ceilingScopes hrequested
  have hmem : ∀ a ∈ loop.allowed, a ∈ requested := by
    rw [(narrowLoop_spec hloop).1]
    exact fun a ha => (List.mem_filter.mp ha).1
  obtain ⟨allowed, hallowed⟩ := dedupe_returns [] fun a ha => hrequested a (hmem a ha)
  exact ⟨⟨allowed, uniqueStrings loop.missing⟩, by
    simp [narrowToCapabilityCeiling, hc, hloop, hallowed, pure, Except.pure]⟩

theorem narrow_missing_iff {requested ceiling : List CapabilityScope} {narrowed : Narrowed}
    (h : narrowToCapabilityCeiling requested ceiling = .ok narrowed) :
    narrowed.missing = [] ↔ ∀ a ∈ requested, Admitted ceiling a := by
  simp only [narrowToCapabilityCeiling, bind_eq_ok, pure_eq_ok] at h
  obtain ⟨ceilingScopes, hceiling, loop, hloop, allowed, -, rfl⟩ := h
  simp only [uniqueStrings_eq_nil, (narrowLoop_spec hloop).2, admits_iff hceiling]

lemma Admitted.mono {ceiling ceiling' : List CapabilityScope} (hsub : ceiling' ⊆ ceiling)
    {a : CapabilityScope} (h : Admitted ceiling' a) : Admitted ceiling a := by
  obtain ⟨g, hg, h⟩ := h
  exact ⟨g, hsub hg, h⟩

/-- Under a part of the ceiling, a part of the scopes is allowed. -/
theorem narrow_mono {requested ceiling ceiling' : List CapabilityScope}
    {narrowed narrowed' : Narrowed} (hsub : ceiling' ⊆ ceiling)
    (h : narrowToCapabilityCeiling requested ceiling = .ok narrowed)
    (h' : narrowToCapabilityCeiling requested ceiling' = .ok narrowed') :
    narrowed'.allowed ⊆ narrowed.allowed := by
  simp only [narrowToCapabilityCeiling, bind_eq_ok, pure_eq_ok] at h h'
  obtain ⟨strings, hstrings, loop, hloop, allowed, hallowed, rfl⟩ := h
  obtain ⟨strings', hstrings', loop', hloop', allowed', hallowed', rfl⟩ := h'
  have himp : ∀ a, admits strings' a = true → admits strings a = true := by
    intro a ha
    rw [admits_iff hstrings'] at ha
    exact (admits_iff hstrings a).mpr (ha.mono hsub)
  have hfilter : loop'.allowed = loop.allowed.filter (admits strings') := by
    rw [(narrowLoop_spec hloop').1, (narrowLoop_spec hloop).1, List.filter_filter]
    refine List.filter_congr fun a _ => ?_
    cases ha : admits strings' a with
    | false => rfl
    | true => simp [himp a ha]
  rw [hfilter] at hallowed'
  exact dedupe_filter (admits_congr strings') (fun _ _ _ _ => Iff.rfl) hallowed hallowed'

/-! ## The resource of a safe path -/

lemma normalizeFileResource_of_not_mem {s : Str} (h : cu '*' ∉ s) :
    normalizeFileResource s = trimTrailingSlash (normalize (toSlashes s)) := by
  have he : endsWith (toSlashes s) recursive = false := by
    rw [endsWith_eq_false]
    intro hs
    exact h (mem_toSlashes_of_ne (by decide) (hs.subset (by decide)))
  simp [normalizeFileResource, he]

lemma prefix_trimTrailingSlash (s : Str) : trimTrailingSlash s <+: s := by
  unfold trimTrailingSlash
  split
  · exact List.dropLast_prefix s
  · exact List.prefix_refl s

section
variable [Runtime]

/-- Trimming stops at a separator, so only the last component is shortened. -/
lemma SafeParts.trimEnd_eq {path : Str} {parts : List Str} (h : SafeParts path parts) :
    ∃ qs t, (∀ c ∈ qs, Plain c) ∧ slash ∉ t ∧ toSlashes (trimEnd path) = join slash (qs ++ [t]) := by
  obtain ⟨qs, c, rfl⟩ := (List.eq_nil_or_concat' parts).resolve_left h.ne_nil
  obtain ⟨w, hw, htrim⟩ := trimEnd_append_trimmed path
  have hws : slash ∉ toSlashes w := by
    intro hm
    obtain ⟨d, hd, hds⟩ := List.mem_map.mp hm
    have ht := htrim d hd
    by_cases hb : d = cu '\\'
    · subst hb; revert ht; decide
    · rw [if_neg hb] at hds; subst hds; revert ht; decide
  have hj : join slash (qs ++ [c]) = toSlashes (trimEnd path) ++ toSlashes w := by
    rw [← toSlashes_append, ← hw, h.eq_join]
  obtain ⟨t, rfl, ht⟩ := join_snoc_eq_append hws hj
  have hc := (h.safe (t ++ toSlashes w) (by simp)).no_slash
  exact ⟨qs, t, fun d hd => (h.safe d (by simp [hd])).toPlain,
    fun hm => hc (by simp [hm]), ht⟩

lemma SafeParts.prefix_resource {path : Str} {parts : List Str} (h : SafeParts path parts)
    (hne : trimEnd path ≠ []) :
    normalizeFileResource (trimEnd path) <+: toSlashes path ∨
      normalizeFileResource (trimEnd path) = dot ∨
      normalizeFileResource (trimEnd path) = dotDot := by
  have hstar : cu '*' ∉ trimEnd path := fun hm =>
    h.not_mem (by decide) (by decide) (by decide) ((prefix_trimEnd path).subset hm)
  have hpre : toSlashes (trimEnd path) <+: toSlashes path := by
    obtain ⟨w, hw⟩ := prefix_trimEnd path
    exact ⟨toSlashes w, by rw [← toSlashes_append, hw]⟩
  obtain ⟨qs, t, hqs, ht, he⟩ := h.trimEnd_eq
  rw [normalizeFileResource_of_not_mem hstar, he]
  rw [he] at hpre
  have hj : join slash (qs ++ [t]) ≠ [] := by
    rw [← he]
    intro hn
    exact hne (by simpa [toSlashes] using hn)
  obtain hp | hd | hd := normalize_snoc hqs ht hj
  · exact Or.inl ((prefix_trimTrailingSlash _).trans (hp.trans hpre))
  · rw [hd]; exact Or.inr (Or.inl (by decide))
  · rw [hd]; exact Or.inr (Or.inr (by decide))

/-- A safe path without trailing space is its own resource. -/
lemma SafeParts.resource_eq {path : Str} {parts : List Str} (h : SafeParts path parts) :
    normalizeFileResource path = toSlashes path := by
  have hstar : cu '*' ∉ path := h.not_mem (by decide) (by decide) (by decide)
  have hend : endsWith (toSlashes path) [slash] = false := by
    rw [h.eq_join, endsWith_slash_join_plain h.ne_nil fun c hc => (h.safe c hc).toPlain]
  rw [normalizeFileResource_of_not_mem hstar, h.normalize_eq, trimTrailingSlash, hend]
  simp

end

/-! ## Wildcards and the ceiling -/

/-- Some ceiling scope reaches the resource. -/
def CeilingReaches (ceiling : List CapabilityScope) (target : Str) : Prop :=
  ∃ g ∈ ceiling, ∃ r, fileWriteResource g = some r ∧ Reaches r target

/-- Some ceiling scope is the raw `*`. -/
def CeilingEverything (ceiling : List CapabilityScope) : Prop :=
  ∃ g ∈ ceiling, fileWriteResource g = some (js "*")

/-- Some ceiling scope is a prefix wildcard at `X` or above it. -/
def CeilingBelow (ceiling : List CapabilityScope) (X : Str) : Prop :=
  ∃ g ∈ ceiling, ∃ r Y, fileWriteResource g = some r ∧
    normalizeFileResource r = Y ++ recursive ∧ (X = Y ∨ Y ++ [slash] <+: X)

/-- What a requested wildcard denotes on safe paths is denoted by the ceiling too. -/
structure WildcardBacked [Runtime] (ceiling : List CapabilityScope) (resource : Str) : Prop where
  everything : resource = js "*" → CeilingEverything ceiling
  root : ∀ X, normalizeFileResource resource = X ++ recursive →
    (∃ path, isSafeGovernedPath path = true ∧ trimEnd path ≠ [] ∧
      normalizeFileResource (trimEnd path) = X) → CeilingReaches ceiling X
  below : ∀ X, normalizeFileResource resource = X ++ recursive →
    (∃ path, isSafeGovernedPath path = true ∧ X ++ [slash] <+: toSlashes path) →
    CeilingEverything ceiling ∨ CeilingBelow ceiling X

/-- Every admitted request that writes files is backed. -/
def CeilingBacks [Runtime] (requested ceiling : List CapabilityScope) : Prop :=
  ∀ a ∈ requested, Admitted ceiling a → ∀ resource, fileWriteResource a = some resource →
    WildcardBacked ceiling resource

lemma ne_deny_of_wildcard {r Y : Str} (h : normalizeFileResource r = Y ++ recursive) :
    r ≠ js "deny" := by
  rintro rfl
  have hm : cu '*' ∈ normalizeFileResource (js "deny") := h ▸ by simp [recursive, js]
  exact absurd hm (by decide)

lemma CeilingBelow.reaches {ceiling : List CapabilityScope} {X target : Str}
    (h : CeilingBelow ceiling X) (ht : X ++ [slash] <+: target) :
    CeilingReaches ceiling target := by
  obtain ⟨g, hg, r, Y, hr, hY, hXY⟩ := h
  refine ⟨g, hg, r, hr, ne_deny_of_wildcard hY, Or.inr (Or.inr ⟨Y, hY, Or.inr ?_⟩)⟩
  obtain rfl | hXY := hXY
  · exact ht
  · exact hXY.trans ((List.prefix_append X [slash]).trans ht)

lemma CeilingEverything.reaches {ceiling : List CapabilityScope}
    (h : CeilingEverything ceiling) (target : Str) : CeilingReaches ceiling target := by
  obtain ⟨g, hg, hr⟩ := h
  exact ⟨g, hg, _, hr, by decide, Or.inl rfl⟩

lemma Admitted.reaches {ceiling : List CapabilityScope} {a : CapabilityScope} {resource : Str}
    (h : Admitted ceiling a) (hr : fileWriteResource a = some resource) :
    CeilingReaches ceiling (normalizeFileResource resource) := by
  obtain ⟨g, hg, t, s, ht, hs, hi⟩ := h
  obtain ⟨r, hr', hreach⟩ := (implies_fileWrite ht hs hr).mp hi
  exact ⟨g, hg, r, hr', hreach⟩

lemma CeilingReaches.covers {ceiling : List CapabilityScope} {path : Str}
    (h : CeilingReaches ceiling (normalizeFileResource (trimEnd path)))
    (hne : trimEnd path ≠ []) : ∃ g ∈ ceiling, Covers g path := by
  obtain ⟨g, hg, r, hr, hreach⟩ := h
  exact ⟨g, hg, covers_iff.mpr ⟨hne, r, hr, hreach⟩⟩

section
variable [Runtime]

lemma WildcardBacked.covers {ceiling : List CapabilityScope} {a : CapabilityScope}
    {resource path : Str} (h : WildcardBacked ceiling resource) (hadm : Admitted ceiling a)
    (hr : fileWriteResource a = some resource) (hsafe : isSafeGovernedPath path = true)
    (hne : trimEnd path ≠ []) (hreach : Reaches resource (normalizeFileResource (trimEnd path))) :
    ∃ g ∈ ceiling, Covers g path := by
  refine CeilingReaches.covers ?_ hne
  obtain ⟨-, rfl | he | ⟨X, hX, hx | hx⟩⟩ := hreach
  · exact (h.everything rfl).reaches _
  · exact he ▸ hadm.reaches hr
  · exact hx ▸ h.root X hX ⟨path, hsafe, hne, hx⟩
  · obtain ⟨parts, hparts⟩ := isSafeGovernedPath_iff.mp hsafe
    have hslash : slash ∈ normalizeFileResource (trimEnd path) := hx.subset (by simp)
    have hpre : normalizeFileResource (trimEnd path) <+: toSlashes path := by
      obtain hp | hd | hd := hparts.prefix_resource hne
      · exact hp
      · exact absurd (hd ▸ hslash) (by decide)
      · exact absurd (hd ▸ hslash) (by decide)
    obtain hall | hbelow := h.below X hX ⟨path, hsafe, hx.trans hpre⟩
    · exact hall.reaches _
    · exact hbelow.reaches hx

omit [Runtime] in
/-- A length that no resource of the ceiling has. -/
lemma exists_fresh_length (ceiling : List CapabilityScope) : ∃ n, 5 ≤ n ∧
    ∀ g ∈ ceiling, ∀ r, fileWriteResource g = some r →
      (normalizeFileResource r).length < n := by
  induction ceiling with
  | nil => exact ⟨5, le_rfl, by simp⟩
  | cons g ceiling ih =>
    obtain ⟨n, hn, h⟩ := ih
    refine ⟨n + ((fileWriteResource g).elim 0 fun r => (normalizeFileResource r).length) + 1,
      by omega, ?_⟩
    intro g' hg' r hr
    obtain rfl | hg' := List.mem_cons.mp hg'
    · simp only [hr, Option.elim_some]
      omega
    · have := h g' hg' r hr
      omega

omit [Runtime] in
lemma trimEnd_letters (u : Str) {n : ℕ} (hn : 5 ≤ n) :
    trimEnd (u ++ letters n) = u ++ letters n := by
  obtain ⟨m, rfl⟩ : ∃ m, n = m + 1 := ⟨n - 1, by omega⟩
  have h := trimEnd_append (u := u ++ letters m) (c := cu 'a') (by decide) []
  rw [letters, List.replicate_succ', ← List.append_assoc]
  exact h

omit [Runtime] in
/-- The ceiling that reaches a path longer than its own resources reaches it as a wildcard. -/
lemma CeilingReaches.wildcard {ceiling : List CapabilityScope} {target : Str}
    (h : CeilingReaches ceiling target)
    (hlen : ∀ g ∈ ceiling, ∀ r, fileWriteResource g = some r →
      (normalizeFileResource r).length < target.length) :
    CeilingEverything ceiling ∨ ∃ g ∈ ceiling, ∃ r Y, fileWriteResource g = some r ∧
      normalizeFileResource r = Y ++ recursive ∧ Y ++ [slash] <+: target := by
  obtain ⟨g, hg, r, hr, -, rfl | he | ⟨Y, hY, rfl | hpre⟩⟩ := h
  · exact Or.inl ⟨g, hg, hr⟩
  · exact absurd (hlen g hg r hr) (by rw [he]; omega)
  · exact absurd (hlen g hg r hr) (by rw [hY, List.length_append]; omega)
  · exact Or.inr ⟨g, hg, r, Y, hr, hY, hpre⟩

omit [Runtime] in
/-- A prefix that ends in a separator ends before a tail without one. -/
lemma prefix_of_no_slash {X Y w : Str} (hw : slash ∉ w)
    (h : Y ++ [slash] <+: X ++ slash :: w) : X = Y ∨ Y ++ [slash] <+: X := by
  obtain ⟨t, ht⟩ := h
  obtain ⟨a, hX, ha⟩ | ⟨a, hY, ha⟩ := List.append_eq_append_iff.mp ht
  · exact Or.inr ⟨a, hX.symm⟩
  · cases a with
    | nil => exact Or.inr ⟨[], by simpa using hY⟩
    | cons c a =>
      obtain ⟨rfl, rfl⟩ : slash = c ∧ w = a ++ t := by simpa using ha
      obtain rfl | ⟨b, d, rfl⟩ := List.eq_nil_or_concat' a
      · exact Or.inl (by simpa using hY.symm)
      · have hY' : Y ++ [slash] = (X ++ slash :: b) ++ [d] := hY.trans (by simp)
        obtain rfl : slash = d := by simpa using (List.append_inj' hY' rfl).2
        simp at hw

/-- Narrowing keeps every file write within the ceiling exactly when the ceiling backs each
wildcard that it admits. -/
theorem narrow_within_ceiling_iff (hrt : Runtime.AsciiStable)
    {requested ceiling : List CapabilityScope} {narrowed : Narrowed}
    (h : narrowToCapabilityCeiling requested ceiling = .ok narrowed) :
    (∀ path, isSafeGovernedPath path = true → ∀ a ∈ narrowed.allowed, Covers a path →
      ∃ g ∈ ceiling, Covers g path) ↔ CeilingBacks requested ceiling := by
  obtain ⟨hallowed, hkept⟩ := narrow_spec h
  constructor
  · intro hwithin a ha hadm resource hr
    obtain ⟨b, hb, hbs⟩ := hkept a ha hadm
    have hbr : fileWriteResource b = some resource := by rw [← hr, fileWriteResource, hbs]; rfl
    -- what a path reached through the request says about the ceiling
    have hreach : ∀ path, isSafeGovernedPath path = true → trimEnd path ≠ [] →
        Reaches resource (normalizeFileResource (trimEnd path)) →
        CeilingReaches ceiling (normalizeFileResource (trimEnd path)) := by
      intro path hsafe hne hp
      obtain ⟨g, hg, hc⟩ := hwithin path hsafe b hb (covers_iff.mpr ⟨hne, resource, hbr, hp⟩)
      obtain ⟨-, r, hgr, hpr⟩ := covers_iff.mp hc
      exact ⟨g, hg, r, hgr, hpr⟩
    obtain ⟨n, hn, hfresh⟩ := exists_fresh_length ceiling
    have hslash : slash ∉ letters n :=
      fun hs => absurd (List.eq_of_mem_replicate hs) (by decide)
    refine ⟨?_, ?_, ?_⟩
    · rintro rfl
      have hsafe := safeParts_letters hrt hn
      have htrim : trimEnd (letters n) = letters n := trimEnd_letters [] hn
      have hp := hreach _ (isSafeGovernedPath_iff.mpr ⟨_, hsafe⟩)
        (by rw [htrim]; exact hsafe.path_ne_nil) ⟨by decide, Or.inl rfl⟩
      rw [htrim, hsafe.resource_eq, toSlashes_letters] at hp
      obtain hall | ⟨g, hg, r, Y, hgr, hY, hpre⟩ := hp.wildcard fun g hg r hgr => by
        simpa [letters] using hfresh g hg r hgr
      · exact hall
      · exact absurd (hpre.subset (by simp)) hslash
    · rintro X hX ⟨path, hsafe, hne, rfl⟩
      exact hreach path hsafe hne
        ⟨ne_deny_of_wildcard hX, Or.inr (Or.inr ⟨_, hX, Or.inl rfl⟩)⟩
    · rintro X hX ⟨path, hsafe, hpre⟩
      obtain ⟨parts, hparts⟩ := isSafeGovernedPath_iff.mp hsafe
      have hext := hparts.extend hrt hpre hn
      have htrim := trimEnd_letters (path.take X.length ++ [slash]) hn
      rw [List.append_assoc, List.singleton_append] at htrim
      have htarget : toSlashes (path.take X.length ++ slash :: letters n)
          = X ++ slash :: letters n := by
        rw [hext.eq_join, join_append _ (split_ne_nil _ _) (by simp), join_split, join_singleton]
      have hp := hreach _ (isSafeGovernedPath_iff.mpr ⟨_, hext⟩)
        (by rw [htrim]; exact hext.path_ne_nil) (by
          rw [htrim, hext.resource_eq, htarget]
          exact ⟨ne_deny_of_wildcard hX, Or.inr (Or.inr ⟨X, hX, Or.inr ⟨letters n, by simp⟩⟩)⟩)
      rw [htrim, hext.resource_eq, htarget] at hp
      obtain hall | ⟨g, hg, r, Y, hgr, hY, hpre⟩ := hp.wildcard fun g hg r hgr => by
        have := hfresh g hg r hgr
        simp only [letters, List.length_append, List.length_cons, List.length_replicate]
        omega
      · exact Or.inl hall
      · exact Or.inr ⟨g, hg, r, Y, hgr, hY, prefix_of_no_slash hslash hpre⟩
  · intro hback path hsafe a ha hc
    obtain ⟨hreq, hadm⟩ := hallowed a ha
    obtain ⟨hne, resource, hr, hreach⟩ := covers_iff.mp hc
    exact (hback a hreq hadm resource hr).covers hadm hr hsafe hne hreach

end

section
attribute [local instance] asciiRuntime

theorem narrow_within_src :
    narrowToCapabilityCeiling [fileWriteScope "src/a.ts"] [fileWriteScope "src/**"] =
        .ok ⟨[fileWriteScope "src/a.ts"], []⟩ ∧
      ∀ path, isSafeGovernedPath path = true → ∀ a ∈ [fileWriteScope "src/a.ts"],
        Covers a path → ∃ g ∈ [fileWriteScope "src/**"], Covers g path := by
  have h : narrowToCapabilityCeiling [fileWriteScope "src/a.ts"] [fileWriteScope "src/**"] =
      .ok ⟨[fileWriteScope "src/a.ts"], []⟩ := by decide
  refine ⟨h, (narrow_within_ceiling_iff asciiRuntime_stable h).mpr ?_⟩
  intro a ha _ resource hr
  obtain rfl := List.mem_singleton.mp ha
  obtain rfl : js "src/a.ts" = resource := by
    simpa [show fileWriteResource (fileWriteScope "src/a.ts") = some (js "src/a.ts") by decide]
      using hr
  have hstar : ∀ X, normalizeFileResource "src/a.ts" ≠ X ++ recursive := by
    intro X hX
    have hm : cu '*' ∈ normalizeFileResource "src/a.ts" := hX ▸ by simp [recursive, js]
    exact absurd hm (by decide)
  exact ⟨fun he => absurd he (by decide), fun X hX => absurd hX (hstar X),
    fun X hX => absurd hX (hstar X)⟩

/-- A request `*` is allowed under a ceiling that names the file `*` of the workspace root. -/
theorem narrow_widens_literal_star :
    narrowToCapabilityCeiling [fileWriteScope "*"] [fileWriteScope "./*"] =
        .ok ⟨[fileWriteScope "*"], []⟩ ∧
      ¬ ∀ path, isSafeGovernedPath path = true → ∀ a ∈ [fileWriteScope "*"], Covers a path →
        ∃ g ∈ [fileWriteScope "./*"], Covers g path := by
  refine ⟨by decide, fun hwithin => ?_⟩
  obtain ⟨g, hg, canonical, hc, hi⟩ := hwithin "src/index.ts" (by decide)
    (fileWriteScope "*") (by simp) ⟨"fs.write:*", by decide, by decide⟩
  obtain rfl := List.mem_singleton.mp hg
  have hs : capabilityScopeToCanonicalString (fileWriteScope "./*") = .ok "fs.write:./*" := by
    decide
  obtain rfl : js "fs.write:./*" = canonical := by simpa [hs] using hc
  exact absurd hi (by decide)

end

end CodexRouter.Authorization
