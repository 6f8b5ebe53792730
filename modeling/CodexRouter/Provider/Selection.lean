import CodexRouter.Js.Ascii
import CodexRouter.Provider.Registry
import CodexRouter.Runs.Calls

/-!
# Which manifest a selection is about

The catalogue answers first: its entry is that of the one accepted `register` call for the id, and
the runtime entries count only for an id without such a call.
-/

open Js CodexRouter.Kernel

namespace CodexRouter.Provider

/-! ## Entries of manifests -/

instance : providerAttestationSchema.Exact := inferInstanceAs (Schema.object _ _).Exact

lemma manifestFromAttestationEntry_profiles {entry : ProviderRegistryAttestationEntry}
    {manifest : ProviderManifest} (h : manifestFromAttestationEntry entry = .ok manifest) :
    manifest.supportedSandboxProfiles = entry.supportedSandboxProfiles := by
  rw [providerManifestSchema_copies _ _ (Schema.parse_eq_ok.mp h)]
  rfl

section

variable [Runtime]

/-- The entry says of a provider what the manifest says. -/
structure ProviderRegistryAttestationEntry.Describes (entry : ProviderRegistryAttestationEntry)
    (manifest : ProviderManifest) : Prop where
  providerId : entry.providerId = manifest.providerId
  kind : entry.kind = manifest.kind
  enabled : entry.enabled = manifest.enabled
  manifestHash : entry.manifestHash = hashProviderManifest manifest
  capabilities : entry.capabilities = manifest.capabilities
  supportedSandboxProfiles : entry.supportedSandboxProfiles = manifest.supportedSandboxProfiles
  supportedSideEffectClasses :
    entry.supportedSideEffectClasses = manifest.supportedSideEffectClasses

lemma providerAttestationEntryFromManifest_describes {manifest : ProviderManifest}
    {registeredAt : Str} {entry : ProviderRegistryAttestationEntry}
    (h : providerAttestationEntryFromManifest manifest registeredAt = .ok entry) :
    entry.Describes manifest := by
  unfold providerAttestationEntryFromManifest at h
  simp only [bind_eq_ok, pure_eq_ok] at h
  obtain ⟨attestation, hattestation, rfl⟩ := h
  have hwritten := Schema.parse_write hattestation
  subst hwritten
  exact ⟨rfl, rfl, rfl, rfl, rfl, rfl, rfl⟩

/-! ## What a selection asks for -/

/-- The manifest has all that the request requires. -/
structure ProviderManifest.Meets (manifest : ProviderManifest) (request : ProviderSelectionRequest) :
    Prop where
  enabled : request.requireEnabled ≠ some false → manifest.enabled = true
  kind : ∀ kind ∈ request.kind, kind = manifest.kind
  manifestHash : ∀ hash ∈ request.expectedManifestHash, hash = hashProviderManifest manifest
  capabilities : ∀ capability ∈ request.requiredCapabilities.getD [],
    capability ∈ manifest.capabilities
  sandbox : ∀ profile ∈ request.requiredSandboxProfile,
    providerSupportsSandboxProfile manifest (sandboxProfileSchema.write profile) = .ok true
  sideEffectClass : ∀ sideEffectClass ∈ request.requiredSideEffectClass,
    providerSupportsSideEffectClass manifest sideEffectClass = true

/-- The snapshot says of a provider what the manifest says. -/
structure ProviderRegistrySnapshotEntry.Describes (snapshot : ProviderRegistrySnapshotEntry)
    (manifest : ProviderManifest) : Prop where
  providerId : snapshot.providerId = manifest.providerId
  kind : snapshot.kind = manifest.kind
  enabled : snapshot.enabled = manifest.enabled
  manifestHash : snapshot.manifestHash = hashProviderManifest manifest
  capabilities : snapshot.capabilities = manifest.capabilities
  supportedSandboxProfiles : snapshot.supportedSandboxProfiles = manifest.supportedSandboxProfiles
  supportedSideEffectClasses :
    snapshot.supportedSideEffectClasses = manifest.supportedSideEffectClasses

variable {entry : ProviderRegistryAttestationEntry} {manifest : ProviderManifest}
  {request : ProviderSelectionRequest}

lemma ProviderRegistryAttestationEntry.Describes.snapshot (h : entry.Describes manifest) :
    (toSnapshotEntry entry).Describes manifest :=
  ⟨h.providerId, h.kind, h.enabled, h.manifestHash, h.capabilities, h.supportedSandboxProfiles,
    h.supportedSideEffectClasses⟩

lemma sandboxReasons_nil (h : entry.Describes manifest)
    (hreasons : sandboxReasons entry request.requiredSandboxProfile = .ok [])
    {profile : SandboxProfile} (hprofile : profile ∈ request.requiredSandboxProfile) :
    providerSupportsSandboxProfile manifest (sandboxProfileSchema.write profile) = .ok true := by
  rw [Option.mem_def.mp hprofile] at hreasons
  simp only [sandboxReasons, bind_eq_ok] at hreasons
  obtain ⟨rebuilt, hrebuilt, supported, hsupported, hreasons⟩ := hreasons
  have hprofiles := (manifestFromAttestationEntry_profiles hrebuilt).trans
    h.supportedSandboxProfiles
  have hsame : ∀ j, providerSupportsSandboxProfile manifest j =
      providerSupportsSandboxProfile rebuilt j := by
    intro j
    unfold providerSupportsSandboxProfile supportsParsedProfile
    rw [hprofiles]
  rw [hsame, hsupported]
  cases supported with
  | true => rfl
  | false => simp at hreasons

/-- An entry without a reason against it is that of a manifest with all that is required. -/
lemma meets_of_no_reasons (h : entry.Describes manifest)
    (hreasons : collectProviderSelectionRejectionReasons entry request = .ok []) :
    manifest.Meets request := by
  simp only [collectProviderSelectionRejectionReasons, bind_eq_ok, pure_eq_ok, distinct_eq_nil,
    List.append_eq_nil_iff] at hreasons
  obtain ⟨sandbox, hsandbox, ⟨⟨⟨⟨henabled, hkind⟩, hhash⟩, hcapabilities⟩, hnone⟩, hsideEffect⟩ :=
    hreasons
  subst hnone
  refine ⟨?_, ?_, ?_, ?_, ?_, ?_⟩
  · intro hrequired
    rw [← h.enabled]
    simpa [hrequired] using henabled
  · intro kind hk
    rw [← h.kind]
    simpa [Option.mem_def.mp hk] using hkind
  · intro hash hh
    rw [← h.manifestHash]
    simpa [Option.mem_def.mp hh] using hhash
  · intro capability hc
    rw [← h.capabilities]
    rw [List.map_eq_nil_iff, List.filter_eq_nil_iff] at hcapabilities
    simpa using hcapabilities capability hc
  · intro profile hprofile
    exact sandboxReasons_nil h hsandbox hprofile
  · intro sideEffectClass hs
    unfold providerSupportsSideEffectClass
    rw [← h.supportedSideEffectClasses]
    simpa [Option.mem_def.mp hs] using hsideEffect

/-- The catalogue gains the entry of an accepted `register` call. -/
lemma register_ok {registry : ProviderRegistry} {manifestInput : Json} {registeredAt : Str}
    {accepted : ProviderRegistryAttestationEntry × ProviderRegistry}
    (h : registry.register manifestInput registeredAt = .ok accepted) :
    ∃ manifest, providerManifestSchema.parse manifestInput = .ok manifest ∧
      accepted.1.Describes manifest ∧ registry.get manifest.providerId = none ∧
      accepted.2 = { registry with attestationCatalog :=
        registry.attestationCatalog.set manifest.providerId accepted.1 } := by
  simp only [ProviderRegistry.register, bind_eq_ok] at h
  obtain ⟨manifest, hparse, h⟩ := h
  refine ⟨manifest, hparse, ?_⟩
  by_cases hhas : registry.attestationCatalog.has manifest.providerId = true
  · simp [hhas] at h
  · rw [if_neg hhas] at h
    simp only [bind_eq_ok] at h
    obtain ⟨entry, hentry, h⟩ := h
    have hdescribes := providerAttestationEntryFromManifest_describes hentry
    rw [if_neg (by simp [hdescribes.manifestHash]), pure_eq_ok] at h
    rw [← h]
    refine ⟨hdescribes, ?_, rfl⟩
    unfold ProviderRegistry.get
    simpa [Map.has] using hhas

/-- Where a selection that selects has its entry from. -/
lemma select_selected {registry : ProviderRegistry} {request : ProviderSelectionRequest}
    {result : ProviderSelectionResult}
    (hselect : selectProviderFromRegistry registry request = .ok result)
    (hselected : result.selected = true) :
    ∃ entry, collectProviderSelectionRejectionReasons entry request = .ok [] ∧
      result.provider = some (toSnapshotEntry entry) ∧
      (registry.get request.providerId = some entry ∨
        registry.get request.providerId = none ∧
          ∃ runtime, registry.getProvider request.providerId = some runtime ∧
            entry.Describes runtime.manifest) := by
  unfold selectProviderFromRegistry at hselect
  simp only [bind_eq_ok] at hselect
  obtain ⟨found, hentry, hselect⟩ := hselect
  cases found with
  | none =>
    simp only [pure_eq_ok] at hselect
    simp [← hselect] at hselected
  | some entry =>
    simp only [bind_eq_ok] at hselect
    obtain ⟨reasons, hreasons, hselect⟩ := hselect
    split at hselect
    · simp only [pure_eq_ok] at hselect
      simp [← hselect] at hselected
    · rename_i hnone
      rw [not_not] at hnone
      subst hnone
      simp only [pure_eq_ok] at hselect
      refine ⟨entry, hreasons, by rw [← hselect], ?_⟩
      unfold entryForSelection at hentry
      cases hget : registry.get request.providerId with
      | some found =>
        left
        simpa [hget] using hentry
      | none =>
        right
        simp only [hget, providerAttestationEntryFromRegistryProvider] at hentry
        cases hprovider : registry.getProvider request.providerId with
        | none => simp [hprovider] at hentry
        | some runtime =>
          simp only [hprovider, map_eq_ok, Option.some.injEq] at hentry
          obtain ⟨made, hmade, rfl⟩ := hentry
          exact ⟨rfl, runtime, rfl, providerAttestationEntryFromManifest_describes hmade⟩

/-! ## Calls -/

inductive Call where
  | register (manifestInput : Json) (registeredAt : Str)
  | registerProvider (manifestInput : Json) (provider : ProviderImplementation)
  | unregisterProvider (providerId : Str)

inductive Outcome where
  | attested (entry : ProviderRegistryAttestationEntry)
  | registered (entry : ProviderRegistryEntry)
  | unregistered (deleted : Bool)
  | thrown (error : Thrown)

variable [Collation]

/-- A call that throws leaves the registry. -/
def ProviderRegistry.call (registry : ProviderRegistry) : Call → Outcome × ProviderRegistry
  | .register manifestInput registeredAt =>
    match registry.register manifestInput registeredAt with
    | .ok (entry, registry') => (.attested entry, registry')
    | .error e => (.thrown e, registry)
  | .registerProvider manifestInput provider =>
    match registry.registerProvider manifestInput provider with
    | .ok (entry, registry') => (.registered entry, registry')
    | .error e => (.thrown e, registry)
  | .unregisterProvider providerId =>
    (.unregistered (registry.unregisterProvider providerId).1,
      (registry.unregisterProvider providerId).2)

/-- The registry behind calls on a new one. -/
def behindCalls (calls : List Call) : ProviderRegistry :=
  Runs.behind ProviderRegistry.call .empty calls

/-- `register` accepts the manifest under the id. -/
def ProviderRegistry.Attests (registry : ProviderRegistry) (providerId : Str)
    (manifest : ProviderManifest) (c : Call) : Prop :=
  ∃ manifestInput registeredAt accepted, c = .register manifestInput registeredAt ∧
    registry.register manifestInput registeredAt = .ok accepted ∧
    providerManifestSchema.parse manifestInput = .ok manifest ∧ manifest.providerId = providerId

/-- `registerProvider` accepts a provider under the id. -/
def ProviderRegistry.Provides (registry : ProviderRegistry) (providerId : Str) (c : Call) : Prop :=
  ∃ manifestInput provider accepted, c = .registerProvider manifestInput provider ∧
    registry.registerProvider manifestInput provider = .ok accepted ∧
    ∃ manifest, providerManifestSchema.parse manifestInput = .ok manifest ∧
      manifest.providerId = providerId

/-- Some accepted `register` call of the sequence had the manifest. -/
def Attested (calls : List Call) (providerId : Str) (manifest : ProviderManifest) : Prop :=
  ∃ before c after, calls = before ++ c :: after ∧
    (behindCalls before).Attests providerId manifest c

/-! ## What one call does -/

variable {registry : ProviderRegistry} {c : Call}

lemma call_register {registry : ProviderRegistry} {manifestInput : Json} {registeredAt : Str} :
    (registry.call (.register manifestInput registeredAt)).2 =
      match registry.register manifestInput registeredAt with
      | .ok accepted => accepted.2
      | .error _ => registry := by
  unfold ProviderRegistry.call
  cases h : registry.register manifestInput registeredAt <;> simp [h]

lemma call_registerProvider {registry : ProviderRegistry} {manifestInput : Json}
    {provider : ProviderImplementation} :
    (registry.call (.registerProvider manifestInput provider)).2 =
      match registry.registerProvider manifestInput provider with
      | .ok accepted => accepted.2
      | .error _ => registry := by
  unfold ProviderRegistry.call
  cases h : registry.registerProvider manifestInput provider <;> simp [h]

lemma registerProvider_ok {manifestInput : Json} {provider : ProviderImplementation}
    {accepted : ProviderRegistryEntry × ProviderRegistry}
    (h : registry.registerProvider manifestInput provider = .ok accepted) :
    ∃ manifest, providerManifestSchema.parse manifestInput = .ok manifest ∧
      accepted.2 =
        { registry with entries := registry.entries.set manifest.providerId accepted.1 } := by
  simp only [ProviderRegistry.registerProvider, bind_eq_ok] at h
  obtain ⟨-, -, manifest, hparse, providerManifest, -, h⟩ := h
  refine ⟨manifest, hparse, ?_⟩
  split at h
  · simp at h
  split at h
  · simp at h
  simp only [bind_eq_ok] at h
  obtain ⟨-, -, h⟩ := h
  split at h
  · simp at h
  split at h
  all_goals
    simp only [bind_eq_ok, pure_eq_ok] at h
  · obtain ⟨-, -, -, -, -, -, rfl⟩ := h
    rfl
  · obtain ⟨-, -, rfl⟩ := h
    rfl

/-- The catalogue answers for an id as before a call that does not attest it. -/
lemma get_call (registry : ProviderRegistry) (providerId : Str) (c : Call) :
    (∃ manifest, registry.Attests providerId manifest c ∧ registry.get providerId = none ∧
      ∃ entry, (registry.call c).2.get providerId = some entry ∧ entry.Describes manifest) ∨
    (∀ manifest, ¬registry.Attests providerId manifest c) ∧
      (registry.call c).2.get providerId = registry.get providerId := by
  cases c with
  | register manifestInput registeredAt =>
    cases hregister : registry.register manifestInput registeredAt with
    | error e =>
      right
      refine ⟨?_, by rw [call_register, hregister]⟩
      intro manifest ⟨_, _, accepted, hc, haccepted, _⟩
      cases hc
      simp [hregister] at haccepted
    | ok accepted =>
      obtain ⟨manifest, hparse, hdescribes, hnone, hregistry⟩ := register_ok hregister
      have hbehind : (registry.call (.register manifestInput registeredAt)).2 = accepted.2 := by
        rw [call_register, hregister]
      rw [hbehind, hregistry]
      by_cases hid : manifest.providerId = providerId
      · subst hid
        left
        exact ⟨manifest, ⟨_, _, accepted, rfl, hregister, hparse, rfl⟩, hnone, accepted.1,
          Map.get?_set_self _ _ _, hdescribes⟩
      · right
        refine ⟨?_, Map.get?_set_of_ne _ (Ne.symm hid) _⟩
        intro other ⟨_, _, _, hc, _, hother, hotherId⟩
        cases hc
        rw [hparse] at hother
        cases hother
        exact hid hotherId
  | registerProvider manifestInput provider =>
    right
    refine ⟨by rintro manifest ⟨_, _, _, ⟨⟩, _⟩, ?_⟩
    rw [call_registerProvider]
    cases hregister : registry.registerProvider manifestInput provider with
    | error e => rfl
    | ok accepted =>
      obtain ⟨manifest, -, hregistry⟩ := registerProvider_ok hregister
      show accepted.2.get providerId = _
      rw [hregistry]
      rfl
  | unregisterProvider other =>
    right
    exact ⟨by rintro manifest ⟨_, _, _, ⟨⟩, _⟩, rfl⟩

/-- A runtime entry appears only with an accepted `registerProvider` call. -/
lemma getProvider_call {registry : ProviderRegistry} {providerId : Str} {c : Call}
    (hnone : registry.getProvider providerId = none) (hc : ¬registry.Provides providerId c) :
    (registry.call c).2.getProvider providerId = none := by
  unfold ProviderRegistry.getProvider at hnone ⊢
  cases c with
  | register manifestInput registeredAt =>
    rw [call_register]
    cases hregister : registry.register manifestInput registeredAt with
    | error e => exact hnone
    | ok accepted =>
      obtain ⟨manifest, -, -, -, hregistry⟩ := register_ok hregister
      show accepted.2.entries.get? providerId = none
      rw [hregistry]
      exact hnone
  | registerProvider manifestInput provider =>
    rw [call_registerProvider]
    cases hregister : registry.registerProvider manifestInput provider with
    | error e => exact hnone
    | ok accepted =>
      obtain ⟨manifest, hparse, hregistry⟩ := registerProvider_ok hregister
      show accepted.2.entries.get? providerId = none
      have hid : manifest.providerId ≠ providerId := by
        intro hid
        exact hc ⟨_, _, accepted, rfl, hregister, manifest, hparse, hid⟩
      rw [hregistry]
      exact (Map.get?_set_of_ne _ (Ne.symm hid) _).trans hnone
  | unregisterProvider other =>
    show (registry.entries.delete other).get? providerId = none
    rw [Map.get?_delete, hnone, ite_self]

/-! ## What calls leave -/

lemma attested_concat {calls : List Call} {providerId : Str} {manifest : ProviderManifest}
    {c : Call} : Attested (calls ++ [c]) providerId manifest ↔
      Attested calls providerId manifest ∨ (behindCalls calls).Attests providerId manifest c := by
  constructor
  · intro ⟨before, d, after, hsplit, hattests⟩
    rcases List.eq_nil_or_concat after with rfl | ⟨after, e, rfl⟩
    · obtain ⟨rfl, hd⟩ := List.append_inj' hsplit rfl
      cases hd
      exact .inr hattests
    · rw [List.concat_eq_append, ← List.cons_append, ← List.append_assoc] at hsplit
      obtain ⟨rfl, -⟩ := List.append_inj' hsplit rfl
      exact .inl ⟨before, d, after, rfl, hattests⟩
  · intro h
    rcases h with ⟨before, d, after, rfl, hattests⟩ | hattests
    · exact ⟨before, d, after ++ [c], by simp, hattests⟩
    · exact ⟨calls, c, [], rfl, hattests⟩

/-- The catalogue has the entry of the only accepted `register` call for an id. -/
theorem catalogue_behindCalls (calls : List Call) (providerId : Str) :
    match (behindCalls calls).get providerId with
    | none => ∀ manifest, ¬Attested calls providerId manifest
    | some entry => ∃ manifest, entry.Describes manifest ∧
        ∀ other, Attested calls providerId other ↔ other = manifest := by
  induction calls using List.reverseRecOn with
  | nil =>
    intro manifest ⟨before, c, after, hsplit, _⟩
    simp at hsplit
  | append_singleton calls c ih =>
    have hbehind : behindCalls (calls ++ [c]) = ((behindCalls calls).call c).2 :=
      Runs.behind_concat _ _ calls c
    simp only [hbehind, attested_concat]
    rcases get_call (behindCalls calls) providerId c with
      ⟨manifest, hattests, hnone, entry, hentry, hdescribes⟩ | ⟨hnot, hsame⟩
    · rw [hnone] at ih
      rw [hentry]
      refine ⟨manifest, hdescribes, fun other => ?_⟩
      constructor
      · intro h
        have hother := h.resolve_left (ih other)
        obtain ⟨_, _, _, rfl, _, hparse, _⟩ := hattests
        obtain ⟨_, _, _, hc, _, hother, _⟩ := hother
        cases hc
        rw [hparse] at hother
        exact (Except.ok.inj hother).symm
      · rintro rfl
        exact .inr hattests
    · rw [hsame]
      simpa [hnot] using ih

/-- Behind calls without an accepted `registerProvider` call there is no entry that was not there
before. -/
lemma getProvider_behind {registry : ProviderRegistry} {providerId : Str}
    (hnone : registry.getProvider providerId = none) (calls : List Call)
    (hcalls : ∀ before c after, calls = before ++ c :: after →
      ¬(Runs.behind ProviderRegistry.call registry before).Provides providerId c) :
    (Runs.behind ProviderRegistry.call registry calls).getProvider providerId = none := by
  induction calls using List.reverseRecOn with
  | nil => exact hnone
  | append_singleton calls c ih =>
    rw [Runs.behind_concat]
    apply getProvider_call
    · apply ih
      intro before d after hsplit
      exact hcalls before d (after ++ [c]) (by simp [hsplit])
    · exact hcalls calls c [] rfl

/-- A selected provider is described by the manifest of the one accepted `register` call for its
id or, without such a call, by that of the runtime entry; the manifest has all that is required.
Without such a call an unregistered provider is selected only after it was registered again. -/
theorem selected_describes (calls : List Call) (request : ProviderSelectionRequest)
    (result : ProviderSelectionResult)
    (hselect : selectProviderFromRegistry (behindCalls calls) request = .ok result)
    (hselected : result.selected = true) :
    (∃ snapshot manifest, result.provider = some snapshot ∧ snapshot.Describes manifest ∧
      manifest.Meets request ∧
      ((∀ other, Attested calls request.providerId other ↔ other = manifest) ∨
        (∀ other, ¬Attested calls request.providerId other) ∧
          ((behindCalls calls).getProvider request.providerId).map (·.manifest) =
            some manifest)) ∧
    ∀ before after, calls = before ++ .unregisterProvider request.providerId :: after →
      (∃ manifest, Attested calls request.providerId manifest) ∨
        ∃ earlier c later, after = earlier ++ c :: later ∧
          (behindCalls (before ++ .unregisterProvider request.providerId :: earlier)).Provides
            request.providerId c := by
  have hcatalogue := catalogue_behindCalls calls request.providerId
  obtain ⟨entry, hreasons, hprovider, hfrom⟩ := select_selected hselect hselected
  rcases hfrom with hget | ⟨hget, runtime, hruntime, hdescribes⟩
  · -- the catalogue answers
    rw [hget] at hcatalogue
    obtain ⟨manifest, hdescribes, honly⟩ := hcatalogue
    refine ⟨⟨_, manifest, hprovider, hdescribes.snapshot, meets_of_no_reasons hdescribes hreasons,
      .inl honly⟩, ?_⟩
    intro before after _
    exact .inl ⟨manifest, (honly manifest).mpr rfl⟩
  · -- the runtime entry answers, so it was registered behind every removal
    rw [hget] at hcatalogue
    refine ⟨⟨_, runtime.manifest, hprovider, hdescribes.snapshot,
      meets_of_no_reasons hdescribes hreasons, .inr ⟨hcatalogue, by rw [hruntime]; rfl⟩⟩, ?_⟩
    intro before after hsplit
    right
    by_contra hnever
    push Not at hnever
    have hremoved : (behindCalls (before ++ [.unregisterProvider request.providerId])).getProvider
        request.providerId = none := by
      unfold behindCalls
      rw [Runs.behind_concat]
      exact (Map.get?_delete _ _ _).trans (if_pos rfl)
    have hnone := getProvider_behind hremoved after (by
      intro earlier c later hafter
      rw [behindCalls, ← Runs.behind_append, List.append_assoc]
      exact hnever earlier c later hafter)
    rw [behindCalls, ← Runs.behind_append, List.append_assoc, List.singleton_append, ← hsplit]
      at hnone
    rw [behindCalls, hnone] at hruntime
    exact nomatch hruntime

end

section

attribute [local instance] asciiRuntime codeUnitCollation

def modelManifest (enabled : Bool) : Json := .obj
  [("providerId", .str "p"), ("kind", .str "model"), ("displayName", .str "P"),
    ("version", .str "1"), ("securityBoundary", .obj []), ("enabled", .bool enabled)]

/-- The catalogue has an enabled provider and the runtime entry is disabled. -/
def catalogueAndRuntime : List Call :=
  [.register (modelManifest true) "t",
    .registerProvider (modelManifest false) ⟨modelManifest false, providerMethods .model⟩]

def requestOf (providerId : Str) : ProviderSelectionRequest where
  providerId
  kind := none
  requiredCapabilities := none
  requiredSandboxProfile := none
  requiredSideEffectClass := none
  expectedManifestHash := none
  requireEnabled := none

def selects (calls : List Call) (providerId : Str) : Option Bool :=
  ((selectProviderFromRegistry (behindCalls calls) (requestOf providerId)).map (·.selected)).toOption

theorem selected_describes_catalogued : ∃ result,
    selectProviderFromRegistry (behindCalls catalogueAndRuntime) (requestOf "p") = .ok result ∧
    (∃ snapshot manifest, result.provider = some snapshot ∧ snapshot.Describes manifest ∧
      manifest.Meets (requestOf "p") ∧
      ((∀ other, Attested catalogueAndRuntime "p" other ↔ other = manifest) ∨
        (∀ other, ¬Attested catalogueAndRuntime "p" other) ∧
          ((behindCalls catalogueAndRuntime).getProvider "p").map (·.manifest) =
            some manifest)) := by
  have hselects : selects catalogueAndRuntime "p" = some true := by decide +kernel
  unfold selects at hselects
  cases hselect : selectProviderFromRegistry (behindCalls catalogueAndRuntime) (requestOf "p") with
  | error e => simp [hselect, Except.map, Except.toOption] at hselects
  | ok result =>
    have hselected : result.selected = true := by
      simpa [hselect, Except.map, Except.toOption] using hselects
    exact ⟨result, rfl, (selected_describes _ _ result hselect hselected).1⟩

/-- A selection answers for a manifest that the runtime entry does not have, and after the entry is
gone. -/
theorem catalogue_outlives_provider :
    ((selectProviderFromRegistry (behindCalls catalogueAndRuntime) (requestOf "p")).map fun result =>
      (result.selected, result.provider.map (·.enabled))).toOption = some (true, some true) ∧
    ((behindCalls catalogueAndRuntime).getProvider "p").map (·.manifest.enabled) = some false ∧
    ((behindCalls catalogueAndRuntime).unregisterProvider "p").1 = true ∧
    selects (catalogueAndRuntime ++ [.unregisterProvider "p"]) "p" = some true := by
  decide +kernel

end

end CodexRouter.Provider
