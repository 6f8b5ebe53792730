import CodexRouter.Js.Exact
import CodexRouter.Js.Path
import CodexRouter.Js.Runtime
import CodexRouter.Kernel.Records

/-!
# Provider manifests

What a provider declares, its digest, and what it supports.
-/

open Js CodexRouter.Kernel

namespace CodexRouter.Provider

/-! ## Data -/

inductive ProviderKind where
  | model | executor | tool | remoteAgent
  deriving DecidableEq

inductive ProviderSideEffectClass where
  | none | read | readOnly | localWrite | workspaceWrite | localCommand | externalWrite
  | externalSideEffects | protectedRemote | destructive | secretAccess | unknown
  deriving DecidableEq

inductive Isolation where
  | none | process | sandbox | remote
  deriving DecidableEq

inductive NetworkAccess where
  | none | restricted | full
  deriving DecidableEq

inductive FilesystemAccess where
  | none | read | workspaceWrite | full
  deriving DecidableEq

inductive SecretAccess where
  | none | brokered | direct
  deriving DecidableEq

inductive SandboxMode where
  | readOnly | workspaceWrite | dangerFullAccess
  deriving DecidableEq

def ProviderKind.text : ProviderKind → Str
  | model => js "model"
  | executor => js "executor"
  | tool => js "tool"
  | remoteAgent => js "remote_agent"

def ProviderSideEffectClass.text : ProviderSideEffectClass → Str
  | none => js "none"
  | read => js "read"
  | readOnly => js "read_only"
  | localWrite => js "local_write"
  | workspaceWrite => js "workspace_write"
  | localCommand => js "local_command"
  | externalWrite => js "external_write"
  | externalSideEffects => js "external_side_effects"
  | protectedRemote => js "protected_remote"
  | destructive => js "destructive"
  | secretAccess => js "secret_access"
  | unknown => js "unknown"

def Isolation.text : Isolation → Str
  | none => js "none"
  | process => js "process"
  | sandbox => js "sandbox"
  | remote => js "remote"

def NetworkAccess.text : NetworkAccess → Str
  | none => js "none"
  | restricted => js "restricted"
  | full => js "full"

def FilesystemAccess.text : FilesystemAccess → Str
  | none => js "none"
  | read => js "read"
  | workspaceWrite => js "workspace-write"
  | full => js "full"

def SecretAccess.text : SecretAccess → Str
  | none => js "none"
  | brokered => js "brokered"
  | direct => js "direct"

def SandboxMode.text : SandboxMode → Str
  | readOnly => js "read-only"
  | workspaceWrite => js "workspace-write"
  | dangerFullAccess => js "danger-full-access"

structure EnvPolicy where
  inheritProcessEnv : Bool
  allowlist : List Str
  deriving DecidableEq

structure SandboxProfile where
  sandboxId : Str
  mode : SandboxMode
  networkAccess : NetworkAccess
  writableRoots : List Str
  envPolicy : EnvPolicy
  deriving DecidableEq

structure ProviderSecurityBoundary where
  isolation : Isolation
  networkAccess : NetworkAccess
  filesystemAccess : FilesystemAccess
  secretAccess : SecretAccess
  notes : List Str
  deriving DecidableEq

structure ProviderRequiredConfig where
  keys : List Str
  optionalKeys : List Str
  deriving DecidableEq

structure ProviderManifest where
  providerId : Str
  kind : ProviderKind
  displayName : Str
  version : Str
  capabilities : List Str
  requiredConfig : ProviderRequiredConfig
  securityBoundary : ProviderSecurityBoundary
  supportedSandboxProfiles : List SandboxProfile
  supportedSideEffectClasses : List ProviderSideEffectClass
  enabled : Bool
  metadata : Record
  deriving DecidableEq

/-! ## Schemas -/

def providerKindSchema : Schema ProviderKind :=
  .enum [.model, .executor, .tool, .remoteAgent] ProviderKind.text (by intro a; cases a <;> decide)

def providerSideEffectClassSchema : Schema ProviderSideEffectClass :=
  .enum [.none, .read, .readOnly, .localWrite, .workspaceWrite, .localCommand, .externalWrite,
    .externalSideEffects, .protectedRemote, .destructive, .secretAccess, .unknown]
    ProviderSideEffectClass.text (by intro a; cases a <;> decide)

def isolationSchema : Schema Isolation :=
  .enum [.none, .process, .sandbox, .remote] Isolation.text (by intro a; cases a <;> decide)

def networkAccessSchema : Schema NetworkAccess :=
  .enum [.none, .restricted, .full] NetworkAccess.text (by intro a; cases a <;> decide)

def filesystemAccessSchema : Schema FilesystemAccess :=
  .enum [.none, .read, .workspaceWrite, .full] FilesystemAccess.text
    (by intro a; cases a <;> decide)

def secretAccessSchema : Schema SecretAccess :=
  .enum [.none, .brokered, .direct] SecretAccess.text (by intro a; cases a <;> decide)

def sandboxModeSchema : Schema SandboxMode :=
  .enum [.readOnly, .workspaceWrite, .dangerFullAccess] SandboxMode.text
    (by intro a; cases a <;> decide)

/-- `z.array(z.string().min(1)).default([])`. -/
def nonEmptyStringsSlot : Slot (List Str) := arraySlot .nonEmptyString

/-- The schema of `envPolicy`, without its default. -/
def envPolicySchema : Schema EnvPolicy :=
  .object
    ((Fields.cons (js "inheritProcessEnv") (.default .boolean false (.intro rfl)) <|
      .cons (js "allowlist") nonEmptyStringsSlot .nil).via
      { toFun := fun (inheritProcessEnv, allowlist, ()) => ⟨inheritProcessEnv, allowlist⟩
        invFun := fun policy => (policy.inheritProcessEnv, policy.allowlist, ())
        left_inv := fun _ => rfl
        right_inv := fun _ => rfl })
    (by decide)

/-- `SandboxProfileSchema`. -/
def sandboxProfileSchema : Schema SandboxProfile :=
  (Schema.object
    ((Fields.cons (js "schemaVersion") (versionSlot "sandbox-profile.v1") <|
      .cons (js "sandboxId") (.required .nonEmptyString) <|
      .cons (js "mode") (.required sandboxModeSchema) <|
      .cons (js "networkAccess") (.default networkAccessSchema .none (.intro rfl)) <|
      .cons (js "writableRoots") nonEmptyStringsSlot <|
      .cons (js "envPolicy") (.default envPolicySchema ⟨false, []⟩ (.intro rfl)) .nil).via
      { toFun := fun (_, sandboxId, mode, networkAccess, writableRoots, envPolicy, ()) =>
          ⟨sandboxId, mode, networkAccess, writableRoots, envPolicy⟩
        invFun := fun profile => ((), profile.sandboxId, profile.mode, profile.networkAccess,
          profile.writableRoots, profile.envPolicy, ())
        left_inv := fun _ => rfl
        right_inv := fun _ => rfl })
    (by decide)).refine fun profile =>
      require (profile.mode ≠ .readOnly || profile.writableRoots.isEmpty) [js "writableRoots"]
        "read-only sandbox cannot declare writable roots"

/-- `ProviderSecurityBoundarySchema`. -/
def providerSecurityBoundarySchema : Schema ProviderSecurityBoundary :=
  .object
    ((Fields.cons (js "isolation") (.default isolationSchema .none (.intro rfl)) <|
      .cons (js "networkAccess") (.default networkAccessSchema .none (.intro rfl)) <|
      .cons (js "filesystemAccess") (.default filesystemAccessSchema .none (.intro rfl)) <|
      .cons (js "secretAccess") (.default secretAccessSchema .none (.intro rfl)) <|
      .cons (js "notes") nonEmptyStringsSlot .nil).via
      { toFun := fun (isolation, networkAccess, filesystemAccess, secretAccess, notes, ()) =>
          ⟨isolation, networkAccess, filesystemAccess, secretAccess, notes⟩
        invFun := fun boundary => (boundary.isolation, boundary.networkAccess,
          boundary.filesystemAccess, boundary.secretAccess, boundary.notes, ())
        left_inv := fun _ => rfl
        right_inv := fun _ => rfl })
    (by decide)

/-- `ProviderRequiredConfigSchema`, without its default. -/
def providerRequiredConfigSchema : Schema ProviderRequiredConfig :=
  .object
    ((Fields.cons (js "keys") nonEmptyStringsSlot <|
      .cons (js "optionalKeys") nonEmptyStringsSlot .nil).via
      { toFun := fun (keys, optionalKeys, ()) => ⟨keys, optionalKeys⟩
        invFun := fun config => (config.keys, config.optionalKeys, ())
        left_inv := fun _ => rfl
        right_inv := fun _ => rfl })
    (by decide)

def providerManifestFields : Fields ProviderManifest :=
  (Fields.cons (js "schemaVersion") (versionSlot "provider-manifest.v1") <|
    .cons (js "providerId") (.required .nonEmptyString) <|
    .cons (js "kind") (.required providerKindSchema) <|
    .cons (js "displayName") (.required .nonEmptyString) <|
    .cons (js "version") (.required .nonEmptyString) <|
    .cons (js "capabilities") nonEmptyStringsSlot <|
    .cons (js "requiredConfig") (.default providerRequiredConfigSchema ⟨[], []⟩ (.intro rfl)) <|
    .cons (js "securityBoundary") (.required providerSecurityBoundarySchema) <|
    .cons (js "supportedSandboxProfiles") (arraySlot sandboxProfileSchema) <|
    .cons (js "supportedSideEffectClasses") (arraySlot providerSideEffectClassSchema) <|
    .cons (js "enabled") (.default .boolean true (.intro rfl)) <|
    .cons (js "metadata") recordSlot .nil).via
    { toFun := fun (_, providerId, kind, displayName, version, capabilities, requiredConfig,
        securityBoundary, supportedSandboxProfiles, supportedSideEffectClasses, enabled, metadata,
        ()) =>
        { providerId, kind, displayName, version, capabilities, requiredConfig, securityBoundary,
          supportedSandboxProfiles, supportedSideEffectClasses, enabled, metadata }
      invFun := fun manifest => ((), manifest.providerId, manifest.kind, manifest.displayName,
        manifest.version, manifest.capabilities, manifest.requiredConfig,
        manifest.securityBoundary, manifest.supportedSandboxProfiles,
        manifest.supportedSideEffectClasses, manifest.enabled, manifest.metadata, ())
      left_inv := fun _ => rfl
      right_inv := fun _ => rfl }

/-- `ProviderManifestSchema`. -/
def providerManifestSchema : Schema ProviderManifest := .object providerManifestFields (by decide)

/-! ## Written manifests

A record loses the key `__proto__`; all else is read back as it was written. -/

instance (version : Str) : (versionSlot version).Exact := Slot.exact_default

instance {α : Type} {item : Schema α} [item.Exact] : (arraySlot item).Exact :=
  Slot.exact_default

instance : nonEmptyStringsSlot.Exact := inferInstanceAs (arraySlot _).Exact

instance : providerKindSchema.Exact := inferInstanceAs (Schema.enum _ _ _).Exact

instance : providerSideEffectClassSchema.Exact := inferInstanceAs (Schema.enum _ _ _).Exact

instance : isolationSchema.Exact := inferInstanceAs (Schema.enum _ _ _).Exact

instance : networkAccessSchema.Exact := inferInstanceAs (Schema.enum _ _ _).Exact

instance : filesystemAccessSchema.Exact := inferInstanceAs (Schema.enum _ _ _).Exact

instance : secretAccessSchema.Exact := inferInstanceAs (Schema.enum _ _ _).Exact

instance : sandboxModeSchema.Exact := inferInstanceAs (Schema.enum _ _ _).Exact

instance : envPolicySchema.Exact := inferInstanceAs (Schema.object _ _).Exact

instance : sandboxProfileSchema.Exact :=
  inferInstanceAs ((Schema.object _ _).refine _).Exact

instance : providerSecurityBoundarySchema.Exact := inferInstanceAs (Schema.object _ _).Exact

instance : providerRequiredConfigSchema.Exact := inferInstanceAs (Schema.object _ _).Exact

/-- What the schema copies of a manifest. -/
def ProviderManifest.copied (manifest : ProviderManifest) : ProviderManifest :=
  { manifest with metadata := Kernel.copied manifest.metadata }

lemma providerManifestSchema_copies : providerManifestSchema.Copies ProviderManifest.copied := by
  unfold providerManifestSchema providerManifestFields
  apply Fields.Copies.object
  apply Fields.Copies.via
  · -- all fields but the last are read back exactly
    iterate 11 (apply Fields.Copies.behind; swap; · decide)
    exact Fields.copies_nil.cons _ Schema.copies_record (by decide)
  · intro manifest
    rfl

/-! ## What a manifest supports

The functions parse their arguments again; a parsed value is its own parse. -/

def providerSupportsSideEffectClass (manifest : ProviderManifest)
    (sideEffectClass : ProviderSideEffectClass) : Bool :=
  manifest.supportedSideEffectClasses.contains sideEffectClass

def networkAccessImplies (granted requested : NetworkAccess) : Bool :=
  granted = requested || granted = .full || (granted = .restricted && requested = .none)

def trimTrailingSlash (root : Str) : Str :=
  if root.length > 1 && endsWith root "/" then root.dropLast else root

def recursiveWildcard : Str := js "/**"

def normalizeRootPattern (root : Str) : Str :=
  let slashRoot := toSlashes root
  let hasRecursiveWildcard := endsWith slashRoot recursiveWildcard
  let rootBase := if hasRecursiveWildcard then slashRoot.dropLast.dropLast.dropLast else slashRoot
  let normalizedBase := trimTrailingSlash (normalize rootBase)
  if hasRecursiveWildcard then normalizedBase ++ recursiveWildcard else normalizedBase

def writableRootImplies (grantedRoot requestedRoot : Str) : Bool :=
  if grantedRoot = js "*" then true
  else
    let normalizedGrantedRoot := normalizeRootPattern grantedRoot
    let normalizedRequestedRoot := normalizeRootPattern requestedRoot
    if normalizedGrantedRoot = normalizedRequestedRoot then true
    else if endsWith normalizedGrantedRoot recursiveWildcard then
      let granted := normalizedGrantedRoot.dropLast.dropLast.dropLast
      normalizedRequestedRoot = granted
        || startsWith normalizedRequestedRoot (granted ++ js "/")
    else false

def writableRootsImply (granted requested : List Str) : Bool :=
  requested.all fun root => granted.any fun grantedRoot => writableRootImplies grantedRoot root

def envPolicyImplies (granted requested : EnvPolicy) : Bool :=
  if !granted.inheritProcessEnv && requested.inheritProcessEnv then false
  else if granted.inheritProcessEnv then true
  else requested.allowlist.all fun key => granted.allowlist.contains key

/-- The manifest and the profile are parsed. -/
def supportsParsedProfile (manifest : ProviderManifest) (requested : SandboxProfile) : Bool :=
  manifest.supportedSandboxProfiles.any fun supported =>
    supported.mode = requested.mode
      && networkAccessImplies supported.networkAccess requested.networkAccess
      && writableRootsImply supported.writableRoots requested.writableRoots
      && envPolicyImplies supported.envPolicy requested.envPolicy

/-- The profile is an input of the caller. -/
def providerSupportsSandboxProfile (manifest : ProviderManifest) (sandboxProfile : Json) :
    Result Bool := do
  return supportsParsedProfile manifest (← sandboxProfileSchema.parse sandboxProfile)

/-! ## Digests -/

variable [Runtime]

/-- `createHash("sha256").update(stableStringifyProviderObject(value)).digest("hex")`. -/
def hashProviderObject (value : Json) : Str := Runtime.sha256 value.stableStringify

def hashProviderManifest (manifest : ProviderManifest) : Str :=
  hashProviderObject (providerManifestSchema.write manifest)

end CodexRouter.Provider
