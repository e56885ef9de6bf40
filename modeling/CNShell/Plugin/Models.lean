import CNShell.Client.Models
import CNShell.Library.Json
import CNShell.Library.Program

/-! The registry of plugins, the publishers trusted for them, and the log of what was decided. -/

namespace CNShell

namespace Plugin

open Client (AppError AppResult)

/-- How many plugins may be registered. -/
def maxInstalledPlugins : Nat := 256

/-- How many publishers may be trusted. -/
def maxPublisherRoots : Nat := 128

/-- How many permissions a plugin may be granted. -/
def maxPermissions : Nat := 16

/-- How many bytes the JSON of each part of the store may take. -/
def maxStateBytes : Nat := 1024 * 1024

/-- How many entries the audit log keeps. -/
def maxAuditEvents : Nat := 256

def maxWasmNameBytes : Nat := 100000

/-- An id of a plugin or a publisher. -/
def validId (value : String) : Bool :=
  decide (3 ≤ value.utf8ByteSize ∧ value.utf8ByteSize ≤ 128) &&
    value.toList.all (fun char => ('a' ≤ char && char ≤ 'z') || ('0' ≤ char && char ≤ '9') || char = '.' || char = '-') &&
    value.toList.contains '.'

structure PluginInstallRecord where
  id : String
  name : String
  version : String
  manifestPath : String
  digest : String
  entrypointDigest : String
  publisherId : Option String
  signatureStatus : String
  requestedPermissions : List String
  networkDomains : List String
  deniedPermissions : List String
  grantedPermissions : List String
  enabled : Bool
  executable : Bool
  installedAt : String
  updatedAt : String
  deriving DecidableEq, Repr

def jsonTexts (values : List String) : List UInt8 := Json.array (values.map Json.string)

def PluginInstallRecord.json (record : PluginInstallRecord) : List UInt8 :=
  Json.object [("id", Json.string record.id), ("name", Json.string record.name),
    ("version", Json.string record.version), ("manifestPath", Json.string record.manifestPath),
    ("digest", Json.string record.digest), ("entrypointDigest", Json.string record.entrypointDigest),
    ("publisherId", Json.nullable record.publisherId), ("signatureStatus", Json.string record.signatureStatus),
    ("requestedPermissions", jsonTexts record.requestedPermissions),
    ("networkDomains", jsonTexts record.networkDomains),
    ("deniedPermissions", jsonTexts record.deniedPermissions),
    ("grantedPermissions", jsonTexts record.grantedPermissions), ("enabled", Json.bool record.enabled),
    ("executable", Json.bool record.executable), ("installedAt", Json.string record.installedAt),
    ("updatedAt", Json.string record.updatedAt)]

/-- A publisher that the user trusted, and may have revoked. -/
structure PluginPublisherRoot where
  id : String
  name : String
  publicKey : String
  fingerprint : String
  enabled : Bool
  installedAt : String
  updatedAt : String
  deriving DecidableEq, Repr

def PluginPublisherRoot.json (root : PluginPublisherRoot) : List UInt8 :=
  Json.object [("id", Json.string root.id), ("name", Json.string root.name),
    ("publicKey", Json.string root.publicKey), ("fingerprint", Json.string root.fingerprint),
    ("enabled", Json.bool root.enabled), ("installedAt", Json.string root.installedAt),
    ("updatedAt", Json.string root.updatedAt)]

/-- What an entry of the audit log is about. -/
inductive AuditSubject
  | plugin (id : String)
  | publisher (id : String)
  deriving DecidableEq, Repr

/-- The `plugin_id` of an entry. -/
def AuditSubject.text : AuditSubject → String
  | plugin id => id
  | publisher id => "publisher:" ++ id

/-- What was decided or done. -/
inductive AuditAction
  | publisherTrusted
  | publisherRevoked
  | permissionsChangedBlocked
  | updatedVerified
  | registeredVerified
  | updatedBlocked
  | registeredBlocked
  | disabled
  | invalidated
  | enabled
  | removed
  | runCompleted
  | runFailed
  | credentialProxyRequested
  | terminalInputRequested
  deriving DecidableEq, Repr

def AuditAction.text : AuditAction → String
  | publisherTrusted => "publisher-trusted"
  | publisherRevoked => "publisher-revoked"
  | permissionsChangedBlocked => "permissions-changed-blocked"
  | updatedVerified => "updated-verified"
  | registeredVerified => "registered-verified"
  | updatedBlocked => "updated-blocked"
  | registeredBlocked => "registered-blocked"
  | disabled => "disabled"
  | invalidated => "invalidated"
  | enabled => "enabled"
  | removed => "removed"
  | runCompleted => "run-completed"
  | runFailed => "run-failed"
  | credentialProxyRequested => "credential-proxy-requested"
  | terminalInputRequested => "terminal-input-requested"

def AuditAction.registers : AuditAction → Bool
  | permissionsChangedBlocked | updatedVerified | registeredVerified | updatedBlocked | registeredBlocked => true
  | _ => false

/-- An entry of the audit log. -/
structure PluginAuditEvent where
  id : String
  subject : AuditSubject
  action : AuditAction
  detail : String
  digest : String
  createdAt : String
  deriving DecidableEq, Repr

def PluginAuditEvent.json (event : PluginAuditEvent) : List UInt8 :=
  Json.object [("id", Json.string event.id), ("pluginId", Json.string event.subject.text),
    ("action", Json.string event.action.text), ("detail", Json.string event.detail),
    ("digest", Json.string event.digest), ("createdAt", Json.string event.createdAt)]

/-- What the database keeps about plugins. -/
structure PluginStore where
  roots : List PluginPublisherRoot
  registry : List PluginInstallRecord
  audit : List PluginAuditEvent
  deriving DecidableEq, Repr

/-- Nothing is registered or trusted. -/
def PluginStore.fresh : PluginStore := ⟨[], [], []⟩

/-- What a manifest says, as far as it is used here. -/
structure PluginManifest where
  id : String
  name : String
  version : String
  publisher : Option String
  permissions : List String
  networkDomains : List String
  signature : Option String
  deriving DecidableEq, Repr

/-- What reading a manifest that passes `validate` and its WASM module gives. -/
structure PluginPackage where
  manifestPath : String
  manifest : PluginManifest
  manifestDigest : String
  entrypointDigest : String
  /-- Whether the signature has the right format. -/
  signatureDecodes : Bool
  /-- Whether the key and the fingerprint of a publisher are in order and the signature is the publisher's. -/
  signedBy : PluginPublisherRoot → AppResult Unit
  valid : validId manifest.id = true

/-- The state of the signature as long as nobody has verified it. -/
def PluginPackage.signatureStatus (package : PluginPackage) : String :=
  if package.manifest.signature.isNone = true then "unsigned"
  else if package.signatureDecodes = true then "present-unverified"
  else "invalid"

/-- The permissions that are denied unless the user grants them. -/
def PluginPackage.deniedPermissions (package : PluginPackage) : List String :=
  package.manifest.permissions.filter (· ≠ "ui")

structure PublisherKey where
  publisherId : String
  name : String
  publicKey : String
  fingerprint : String
  valid : validId publisherId = true

/-- The time and the fresh id that an operation uses. -/
structure Stamp where
  uuid : String
  updatedAt : String
  createdAt : String
  deriving DecidableEq, Repr

/-- What an operation had loaded before it saves; the save itself does not look at it. -/
structure Basis where
  registries : List (List PluginInstallRecord)
  roots : List (List PluginPublisherRoot)
  deriving DecidableEq, Repr

/-- The atomic actions on the database. -/
inductive PluginAct : Type → Type
  | listInstalled : PluginAct (List PluginInstallRecord)
  | listPublishers : PluginAct (List PluginPublisherRoot)
  | listAudit : PluginAct (List PluginAuditEvent)
  | saveRootsAndAudit (basis : Basis) (roots : List PluginPublisherRoot) (audit : List PluginAuditEvent) :
      PluginAct Unit
  | saveRootsRegistryAndAudit (basis : Basis) (roots : List PluginPublisherRoot)
      (records : List PluginInstallRecord) (audit : List PluginAuditEvent) : PluginAct Unit
  | saveRegistryAndAudit (basis : Basis) (records : List PluginInstallRecord) (audit : List PluginAuditEvent) :
      PluginAct Unit
  | saveAudit (audit : List PluginAuditEvent) : PluginAct Unit

/-- What the actions do. -/
def database : Semantics PluginAct AppError PluginStore where
  run action store :=
    match action with
    | .listInstalled => .ok (store.registry, store)
    | .listPublishers => .ok (store.roots, store)
    | .listAudit => .ok (store.audit, store)
    | .saveRootsAndAudit _ roots audit => .ok ((), { store with roots := roots, audit := audit })
    | .saveRootsRegistryAndAudit _ roots records audit => .ok ((), ⟨roots, records, audit⟩)
    | .saveRegistryAndAudit _ records audit => .ok ((), { store with registry := records, audit := audit })
    | .saveAudit audit => .ok ((), { store with audit := audit })

/-- A part of an operation on plugins. -/
abbrev Transaction := Program PluginAct AppError

end Plugin

end CNShell
