import CodexRouter.Js.Collation
import CodexRouter.Js.Map
import CodexRouter.Provider.Manifest

/-!
# Provider registry

The attestation catalogue is written by `register` and the runtime entries by `registerProvider`
and `unregisterProvider`. A selection looks into the catalogue first.
-/

open Js CodexRouter.Kernel

namespace CodexRouter.Provider

/-! ## Attestations -/

structure ProviderAttestation where
  providerId : Str
  kind : ProviderKind
  displayName : Str
  version : Str
  manifestHash : Str
  capabilities : List Str
  securityBoundary : ProviderSecurityBoundary
  supportedSandboxProfiles : List SandboxProfile
  supportedSideEffectClasses : List ProviderSideEffectClass
  attestedAt : Str
  deriving DecidableEq

/-- `/^[a-f0-9]{64}$/`. -/
def isDigest (s : Str) : Bool :=
  s.length = 64 && s.all fun c => isDigit c || (0x61 ≤ c.val && c.val ≤ 0x66)

/-- `z.string().regex(/^[a-f0-9]{64}$/)`. -/
def digestSchema : Schema Str := Schema.string.refine fun s => require (isDigest s) [] "Invalid"

instance : digestSchema.Exact := inferInstanceAs (Schema.string.refine _).Exact

/-- `ProviderAttestationSchema`. -/
def providerAttestationSchema : Schema ProviderAttestation :=
  .object
    ((Fields.cons (js "schemaVersion") (versionSlot "provider-attestation.v1") <|
      .cons (js "providerId") (.required .nonEmptyString) <|
      .cons (js "kind") (.required providerKindSchema) <|
      .cons (js "displayName") (.required .nonEmptyString) <|
      .cons (js "version") (.required .nonEmptyString) <|
      .cons (js "manifestHash") (.required digestSchema) <|
      .cons (js "capabilities") nonEmptyStringsSlot <|
      .cons (js "securityBoundary") (.required providerSecurityBoundarySchema) <|
      .cons (js "supportedSandboxProfiles") (arraySlot sandboxProfileSchema) <|
      .cons (js "supportedSideEffectClasses") (arraySlot providerSideEffectClassSchema) <|
      .cons (js "attestedAt") (.required .nonEmptyString) .nil).via
      { toFun := fun (_, providerId, kind, displayName, version, manifestHash, capabilities,
          securityBoundary, supportedSandboxProfiles, supportedSideEffectClasses, attestedAt, ()) =>
          { providerId, kind, displayName, version, manifestHash, capabilities, securityBoundary,
            supportedSandboxProfiles, supportedSideEffectClasses, attestedAt }
        invFun := fun attestation => ((), attestation.providerId, attestation.kind,
          attestation.displayName, attestation.version, attestation.manifestHash,
          attestation.capabilities, attestation.securityBoundary,
          attestation.supportedSandboxProfiles, attestation.supportedSideEffectClasses,
          attestation.attestedAt, ())
        left_inv := fun _ => rfl
        right_inv := fun _ => rfl })
    (by decide)

structure ProviderRegistryAttestationEntry where
  providerId : Str
  kind : ProviderKind
  displayName : Str
  version : Str
  enabled : Bool
  manifestHash : Str
  capabilities : List Str
  securityBoundary : ProviderSecurityBoundary
  supportedSandboxProfiles : List SandboxProfile
  supportedSideEffectClasses : List ProviderSideEffectClass
  attestation : ProviderAttestation
  registeredAt : Str
  deriving DecidableEq

/-- The names of the members that are functions are all that is looked at besides the manifest. -/
structure ProviderImplementation where
  manifest : Json
  functions : List Str

structure ProviderRegistryEntry where
  manifest : ProviderManifest
  provider : ProviderImplementation

/-! ## Selections -/

/-- `secretAccess` is shown as `credentialAccess`. -/
structure SnapshotSecurityBoundary where
  isolation : Isolation
  networkAccess : NetworkAccess
  filesystemAccess : FilesystemAccess
  credentialAccess : SecretAccess
  notes : List Str
  deriving DecidableEq

structure SnapshotAttestation where
  providerId : Str
  kind : ProviderKind
  displayName : Str
  version : Str
  manifestHash : Str
  capabilities : List Str
  securityBoundary : SnapshotSecurityBoundary
  supportedSandboxProfiles : List SandboxProfile
  supportedSideEffectClasses : List ProviderSideEffectClass
  attestedAt : Str
  deriving DecidableEq

structure ProviderRegistrySnapshotEntry where
  providerId : Str
  kind : ProviderKind
  displayName : Str
  version : Str
  enabled : Bool
  manifestHash : Str
  capabilities : List Str
  securityBoundary : SnapshotSecurityBoundary
  supportedSandboxProfiles : List SandboxProfile
  supportedSideEffectClasses : List ProviderSideEffectClass
  attestation : SnapshotAttestation
  registeredAt : Str
  deriving DecidableEq

structure ProviderSelectionRequest where
  providerId : Str
  kind : Option ProviderKind
  requiredCapabilities : Option (List Str)
  requiredSandboxProfile : Option SandboxProfile
  requiredSideEffectClass : Option ProviderSideEffectClass
  expectedManifestHash : Option Str
  requireEnabled : Option Bool

structure ProviderSelectionResult where
  selected : Bool
  provider : Option ProviderRegistrySnapshotEntry
  reasons : List Str
  deriving DecidableEq

def toSnapshotSecurityBoundary (boundary : ProviderSecurityBoundary) : SnapshotSecurityBoundary where
  isolation := boundary.isolation
  networkAccess := boundary.networkAccess
  filesystemAccess := boundary.filesystemAccess
  credentialAccess := boundary.secretAccess
  notes := boundary.notes

def toSnapshotEntry (entry : ProviderRegistryAttestationEntry) : ProviderRegistrySnapshotEntry where
  providerId := entry.providerId
  kind := entry.kind
  displayName := entry.displayName
  version := entry.version
  enabled := entry.enabled
  manifestHash := entry.manifestHash
  capabilities := entry.capabilities
  securityBoundary := toSnapshotSecurityBoundary entry.securityBoundary
  supportedSandboxProfiles := entry.supportedSandboxProfiles
  supportedSideEffectClasses := entry.supportedSideEffectClasses
  attestation :=
    { providerId := entry.attestation.providerId
      kind := entry.attestation.kind
      displayName := entry.attestation.displayName
      version := entry.attestation.version
      manifestHash := entry.attestation.manifestHash
      capabilities := entry.attestation.capabilities
      securityBoundary := toSnapshotSecurityBoundary entry.securityBoundary
      supportedSandboxProfiles := entry.attestation.supportedSandboxProfiles
      supportedSideEffectClasses := entry.attestation.supportedSideEffectClasses
      attestedAt := entry.attestation.attestedAt }
  registeredAt := entry.registeredAt

/-! ## Checks of `registerProvider` -/

def isRecord : Json → Bool
  | .obj _ => true
  | _ => false

/-- `input[key]`, where a value that is no object has no members. -/
def memberOf (input : Json) (key : Str) : Option Json :=
  match input with
  | .obj m => Json.get? m key
  | _ => none

def assertSecurityBoundaryPresent (manifestInput : Json) : Result Unit :=
  if ((memberOf manifestInput "securityBoundary").map isRecord).getD false then .ok ()
  else
    let providerId :=
      match memberOf manifestInput "providerId" with
      | some (.str providerId) => providerId
      | _ => js "unknown"
    fail (js "provider_registry_security_boundary_missing:" ++ providerId)

/-- The methods of each kind of provider. -/
def providerMethods : ProviderKind → List Str
  | .executor => ["planExecution", "validateExecutionPlan", "execute"]
  | .tool => ["listTools", "getTool", "planInvocation", "invoke"]
  | .remoteAgent =>
    ["getAgentCard", "createRemoteTask", "getRemoteTask", "cancelRemoteTask",
      "streamRemoteTaskEvents"]
  | .model => ["listModels", "selectModel", "probeModel"]

def assertProviderInterfaceMatchesKind (kind : ProviderKind) (provider : ProviderImplementation)
    (providerId : Str) : Result Unit :=
  if (providerMethods kind).all provider.functions.contains then .ok ()
  else fail (js "provider_registry_kind_mismatch:" ++ providerId ++ js ":" ++ kind.text)

/-- The members of an object in the order of their keys. -/
def sortMembers [Collation] (m : Record) : Record :=
  m.insertionSort fun e e' => localeLe e.1 e'.1

mutual

/-- `canonicalize(input)`. -/
def canonicalize [Collation] : Json → Json
  | .arr l => .arr (canonicalizeItems l)
  | .obj m => .obj (sortMembers (canonicalizeMembers m))
  | j => j

def canonicalizeItems [Collation] : List Json → List Json
  | [] => []
  | j :: l => canonicalize j :: canonicalizeItems l

def canonicalizeMembers [Collation] : Record → Record
  | [] => []
  | (k, j) :: m => (k, canonicalize j) :: canonicalizeMembers m

end

def assertProviderManifestMatches [Collation] (manifest providerManifest : ProviderManifest) :
    Result Unit :=
  if canonicalize (providerManifestSchema.write manifest) =
      canonicalize (providerManifestSchema.write providerManifest) then .ok ()
  else fail (js "provider_registry_manifest_mismatch:" ++ providerManifest.providerId)

section

variable [Runtime]

def normalizeAuthSchemeField (input : Str) : Str := Runtime.toLowerCase (trim input)

def isAnonymousAuthSchemeField : Option Json → Bool
  | some (.str field) => normalizeAuthSchemeField field = js "anonymous"
  | _ => false

def isAnonymousAuthScheme (input : Json) : Bool :=
  match input with
  | .obj m =>
    isAnonymousAuthSchemeField (Json.get? m "schemeId")
      || isAnonymousAuthSchemeField (Json.get? m "type")
      || isAnonymousAuthSchemeField (Json.get? m "name")
  | j => isAnonymousAuthSchemeField (some j)

def assertRemoteAgentAuthSchemes (manifest : ProviderManifest) : Result Unit :=
  match Json.get? manifest.metadata "authSchemes" with
  | some (.arr (scheme :: schemes)) =>
    if (scheme :: schemes).any isAnonymousAuthScheme then
      fail (js "provider_registry_remote_agent_anonymous_auth_rejected:" ++ manifest.providerId)
    else .ok ()
  | _ => fail (js "provider_registry_remote_agent_auth_schemes_required:" ++ manifest.providerId)

/-! ## The registry -/

def createProviderAttestation (manifest : ProviderManifest) (attestedAt : Str) :
    Result ProviderAttestation :=
  providerAttestationSchema.parse (providerAttestationSchema.write
    { providerId := manifest.providerId
      kind := manifest.kind
      displayName := manifest.displayName
      version := manifest.version
      manifestHash := hashProviderManifest manifest
      capabilities := manifest.capabilities
      securityBoundary := manifest.securityBoundary
      supportedSandboxProfiles := manifest.supportedSandboxProfiles
      supportedSideEffectClasses := manifest.supportedSideEffectClasses
      attestedAt })

def providerAttestationEntryFromManifest (manifest : ProviderManifest) (registeredAt : Str) :
    Result ProviderRegistryAttestationEntry := do
  let attestation ← createProviderAttestation manifest registeredAt
  return {
    providerId := manifest.providerId
    kind := manifest.kind
    displayName := manifest.displayName
    version := manifest.version
    enabled := manifest.enabled
    manifestHash := attestation.manifestHash
    capabilities := attestation.capabilities
    securityBoundary := attestation.securityBoundary
    supportedSandboxProfiles := attestation.supportedSandboxProfiles
    supportedSideEffectClasses := attestation.supportedSideEffectClasses
    attestation
    registeredAt }

structure ProviderRegistry where
  entries : Map Str ProviderRegistryEntry
  attestationCatalog : Map Str ProviderRegistryAttestationEntry

namespace ProviderRegistry

def empty : ProviderRegistry := ⟨.empty, .empty⟩

/-- The entry of `register` is made as that of a runtime entry is. -/
def register (registry : ProviderRegistry) (manifestInput : Json) (registeredAt : Str) :
    Result (ProviderRegistryAttestationEntry × ProviderRegistry) := do
  let manifest ← providerManifestSchema.parse manifestInput
  if registry.attestationCatalog.has manifest.providerId then
    fail (js "provider_registry_duplicate_provider:" ++ manifest.providerId)
  else
    let entry ← providerAttestationEntryFromManifest manifest registeredAt
    if entry.manifestHash ≠ hashProviderManifest manifest then
      fail (js "provider_registry_manifest_hash_mismatch:" ++ manifest.providerId)
    else
      return (entry, { registry with
        attestationCatalog := registry.attestationCatalog.set manifest.providerId entry })

def get (registry : ProviderRegistry) (providerId : Str) :
    Option ProviderRegistryAttestationEntry :=
  registry.attestationCatalog.get? providerId

def registerProvider [Collation] (registry : ProviderRegistry) (manifestInput : Json)
    (provider : ProviderImplementation) : Result (ProviderRegistryEntry × ProviderRegistry) := do
  assertSecurityBoundaryPresent manifestInput
  let manifest ← providerManifestSchema.parse manifestInput
  let providerManifest ← providerManifestSchema.parse provider.manifest
  if registry.entries.has manifest.providerId then
    fail (js "provider_registry_duplicate_provider:" ++ manifest.providerId)
  else if providerManifest.providerId ≠ manifest.providerId then
    fail (js "provider_registry_provider_id_mismatch:" ++ providerManifest.providerId ++ js ":"
      ++ manifest.providerId)
  else do
    assertProviderInterfaceMatchesKind manifest.kind provider manifest.providerId
    if providerManifest.kind ≠ manifest.kind then
      fail (js "provider_registry_manifest_kind_mismatch:" ++ providerManifest.kind.text ++ js ":"
        ++ manifest.kind.text)
    else do
      if manifest.kind = .remoteAgent then
        assertRemoteAgentAuthSchemes manifest
        assertRemoteAgentAuthSchemes providerManifest
      assertProviderManifestMatches manifest providerManifest
      let entry : ProviderRegistryEntry := { manifest := providerManifest, provider }
      return (entry, { registry with entries := registry.entries.set manifest.providerId entry })

def getProvider (registry : ProviderRegistry) (providerId : Str) : Option ProviderRegistryEntry :=
  registry.entries.get? providerId

def unregisterProvider (registry : ProviderRegistry) (providerId : Str) : Bool × ProviderRegistry :=
  (registry.entries.has providerId, { registry with entries := registry.entries.delete providerId })

end ProviderRegistry

/-! ## Selecting -/

def providerAttestationEntryFromRegistryProvider (registry : ProviderRegistry) (providerId : Str) :
    Result (Option ProviderRegistryAttestationEntry) :=
  match registry.getProvider providerId with
  | none => .ok none
  | some providerEntry =>
    some <$> providerAttestationEntryFromManifest providerEntry.manifest
      "provider-registry-runtime-entry"

def manifestFromAttestationEntry (entry : ProviderRegistryAttestationEntry) :
    Result ProviderManifest :=
  providerManifestSchema.parse (providerManifestSchema.write
    { providerId := entry.providerId
      kind := entry.kind
      displayName := entry.displayName
      version := entry.version
      capabilities := entry.capabilities
      requiredConfig := ⟨[], []⟩
      securityBoundary := entry.securityBoundary
      supportedSandboxProfiles := entry.supportedSandboxProfiles
      supportedSideEffectClasses := entry.supportedSideEffectClasses
      enabled := entry.enabled
      metadata := [] })

/-- The reason that a required profile gives. -/
def sandboxReasons (entry : ProviderRegistryAttestationEntry) :
    Option SandboxProfile → Result (List Str)
  | none => .ok []
  | some profile => do
    let manifest ← manifestFromAttestationEntry entry
    if ← providerSupportsSandboxProfile manifest (sandboxProfileSchema.write profile) then
      return []
    else return [js "provider_selection_unsupported_sandbox:" ++ profile.sandboxId]

def collectProviderSelectionRejectionReasons (entry : ProviderRegistryAttestationEntry)
    (request : ProviderSelectionRequest) : Result (List Str) := do
  let disabled :=
    if request.requireEnabled ≠ some false && !entry.enabled then
      [js "provider_selection_provider_disabled:" ++ entry.providerId] else []
  let kind :=
    match request.kind with
    | some kind =>
      if kind ≠ entry.kind then
        [js "provider_selection_kind_mismatch:" ++ kind.text ++ js ":" ++ entry.kind.text] else []
    | none => []
  let manifestHash :=
    match request.expectedManifestHash with
    | some hash =>
      if hash ≠ entry.manifestHash then [js "provider_selection_manifest_hash_mismatch"] else []
    | none => []
  let capabilities := ((request.requiredCapabilities.getD []).filter fun capability =>
    !entry.capabilities.contains capability).map fun capability =>
      js "provider_selection_missing_capability:" ++ capability
  let sandbox ← sandboxReasons entry request.requiredSandboxProfile
  let sideEffect :=
    match request.requiredSideEffectClass with
    | some sideEffectClass =>
      if !entry.supportedSideEffectClasses.contains sideEffectClass then
        [js "provider_selection_unsupported_side_effect:" ++ sideEffectClass.text] else []
    | none => []
  return distinct (disabled ++ kind ++ manifestHash ++ capabilities ++ sandbox ++ sideEffect)

/-- `registry.get(providerId) ?? providerAttestationEntryFromRegistryProvider(registry, providerId)`. -/
def entryForSelection (registry : ProviderRegistry) (providerId : Str) :
    Result (Option ProviderRegistryAttestationEntry) :=
  match registry.get providerId with
  | some entry => .ok (some entry)
  | none => providerAttestationEntryFromRegistryProvider registry providerId

def selectProviderFromRegistry (registry : ProviderRegistry) (request : ProviderSelectionRequest) :
    Result ProviderSelectionResult := do
  match ← entryForSelection registry request.providerId with
  | none =>
    return ⟨false, none, [js "provider_selection_provider_missing:" ++ request.providerId]⟩
  | some entry =>
    let reasons ← collectProviderSelectionRejectionReasons entry request
    if reasons ≠ [] then return ⟨false, none, reasons⟩
    else return ⟨true, some (toSnapshotEntry entry), []⟩

end

end CodexRouter.Provider
