import CNShell.Plugin.Models

/-! The operations on plugins and publishers, as they load and save the parts of the store. -/

namespace CNShell

namespace Plugin

open Client (AppError AppResult)

def ensure (condition : Bool) (error : AppError) : AppResult Unit := if condition = true then .ok () else .error error

def errorText : AppError → String
  | .notFound message => "未找到连接：" ++ message
  | .validation message => "连接参数无效：" ++ message
  | .hostKeyUnknown fingerprint _ => "主机指纹尚未信任：" ++ fingerprint
  | .hostKeyChanged expected actual => "主机指纹发生变化。已保存 " ++ expected ++ "，当前 " ++ actual
  | .authentication message => "认证失败：" ++ message
  | .permissionDenied message => "权限不足：" ++ message
  | .remote message => "远程操作失败：" ++ message
  | .storage message => "本地存储失败：" ++ message
  | .unavailable message => "系统能力不可用：" ++ message
  | .internal message => "发生内部错误：" ++ message

def auditJson (events : List PluginAuditEvent) : List UInt8 := Json.array (events.map PluginAuditEvent.json)

def registryJson (records : List PluginInstallRecord) : List UInt8 :=
  Json.array (records.map PluginInstallRecord.json)

def rootsJson (roots : List PluginPublisherRoot) : List UInt8 := Json.array (roots.map PluginPublisherRoot.json)

/-- The entries that stay when one is added. -/
def keptAudit (events : List PluginAuditEvent) : List PluginAuditEvent :=
  events.drop (events.length + 1 - maxAuditEvents)

/-- The log with a further entry, if it is not too long. -/
def boundedAudit (events : List PluginAuditEvent) (event : PluginAuditEvent) : AppResult (List PluginAuditEvent) := do
  let bounded := keptAudit events ++ [event]
  ensure (decide ((auditJson bounded).length ≤ maxStateBytes)) (.validation "插件审计记录超过 1 MB")
  return bounded

/-- The publishers and an entry are saved. -/
def saveRootsAndAudit (basis : Basis) (roots : List PluginPublisherRoot) (event : PluginAuditEvent) :
    Transaction Unit := do
  .lift (ensure (decide ((rootsJson roots).length ≤ maxStateBytes)) (.validation "插件发布者根超过 1 MB"))
  let audit ← .perform .listAudit
  let audit ← .lift (boundedAudit audit event)
  .perform (.saveRootsAndAudit basis roots audit)

def saveRootsRegistryAndAudit (basis : Basis) (roots : List PluginPublisherRoot)
    (records : List PluginInstallRecord) (event : PluginAuditEvent) : Transaction Unit := do
  let audit ← .perform .listAudit
  let audit ← .lift (boundedAudit audit event)
  .lift (ensure (decide ((rootsJson roots).length ≤ maxStateBytes ∧
    (registryJson records).length ≤ maxStateBytes)) (.validation "插件信任根或登记记录超过 1 MB"))
  .perform (.saveRootsRegistryAndAudit basis roots records audit)

/-- An entry is saved. -/
def appendAudit (event : PluginAuditEvent) : Transaction Unit := do
  let audit ← .perform .listAudit
  let audit ← .lift (boundedAudit audit event)
  .perform (.saveAudit audit)

/-- The registry and an entry are saved. -/
def saveRegistryAndAudit (basis : Basis) (records : List PluginInstallRecord) (event : PluginAuditEvent) :
    Transaction Unit := do
  let audit ← .perform .listAudit
  let audit ← .lift (boundedAudit audit event)
  .lift (ensure (decide ((registryJson records).length ≤ maxStateBytes ∧
    (auditJson audit).length ≤ maxStateBytes)) (.validation "插件登记或审计记录超过 1 MB"))
  .perform (.saveRegistryAndAudit basis records audit)

def findRecord (records : List PluginInstallRecord) (id : String) : AppResult PluginInstallRecord :=
  match records.find? (·.id = id) with
  | some record => .ok record
  | none => .error (.notFound ("插件 " ++ id))

def changeRecord (id : String) (change : PluginInstallRecord → PluginInstallRecord) :
    List PluginInstallRecord → List PluginInstallRecord
  | [] => []
  | record :: records =>
    if record.id = id then change record :: records else record :: changeRecord id change records

/-- What `verify_package` has loaded, and what it comes to. -/
structure Verification where
  roots : List (List PluginPublisherRoot)
  result : AppResult Unit

/-- Whether the publisher of a package is one that may sign it. -/
def namespaced (publisherId pluginId : String) : Bool :=
  validId publisherId &&
    (pluginId = publisherId || (publisherId ++ ".").toList.isPrefixOf pluginId.toList)

def verifyWith (package : PluginPackage) (publisherId : String) (roots : List PluginPublisherRoot) : AppResult Unit :=
  match roots.find? fun root => root.id = publisherId && root.enabled with
  | some root => package.signedBy root
  | none => .error (.unavailable ("发布者 " ++ publisherId ++ " 尚未受信任或已撤销"))

def verifyPackage (package : PluginPackage) : Transaction Verification :=
  match package.manifest.publisher with
  | none => return ⟨[], .error (.validation "插件 manifest 缺少 publisher")⟩
  | some publisherId =>
    if namespaced publisherId package.manifest.id = true then do
      let roots ← .perform .listPublishers
      return ⟨[roots], verifyWith package publisherId roots⟩
    else return ⟨[], .error (.validation "插件 ID 必须等于发布者 ID 或位于发布者命名空间下")⟩

def importPublisher (keyFile : AppResult PublisherKey) (stamp : Stamp) : Transaction PluginPublisherRoot := do
  let key ← .lift keyFile
  let roots ← .perform .listPublishers
  let existing := roots.find? (·.id = key.publisherId)
  .lift (ensure (!existing.any fun root => root.enabled && root.fingerprint ≠ key.fingerprint)
    (.validation "同一发布者 ID 已绑定不同公钥；请先撤销旧根，确认密钥轮换后再导入"))
  .lift (ensure (existing.isSome || decide (roots.length < maxPublisherRoots))
    (.validation "最多信任 128 个插件发布者"))
  let root : PluginPublisherRoot := ⟨key.publisherId, key.name, key.publicKey, key.fingerprint, true,
    existing.elim stamp.updatedAt PluginPublisherRoot.installedAt, stamp.updatedAt⟩
  saveRootsAndAudit ⟨[], [roots]⟩ (roots.filter (·.id ≠ root.id) ++ [root])
    ⟨stamp.uuid, .publisher root.id, .publisherTrusted, "用户明确导入并信任 Ed25519 发布者根", key.fingerprint, stamp.updatedAt⟩
  return root

def registeredRecord (package : PluginPackage) (verified : Bool) (previous : Option PluginInstallRecord)
    (now : String) : PluginInstallRecord where
  id := package.manifest.id
  name := package.manifest.name
  version := package.manifest.version
  manifestPath := package.manifestPath
  digest := package.manifestDigest
  entrypointDigest := package.entrypointDigest
  publisherId := package.manifest.publisher
  signatureStatus := if verified = true then "verified" else package.signatureStatus
  requestedPermissions := package.manifest.permissions
  networkDomains := package.manifest.networkDomains
  deniedPermissions := package.deniedPermissions
  grantedPermissions := []
  enabled := false
  executable := verified
  installedAt := previous.elim now PluginInstallRecord.installedAt
  updatedAt := now

/-- Whether a plugin asks for something else than it did. -/
def permissionsChanged (previous : Option PluginInstallRecord) (record : PluginInstallRecord) : Bool :=
  previous.any fun item =>
    item.requestedPermissions ≠ record.requestedPermissions || item.networkDomains ≠ record.networkDomains ||
      item.deniedPermissions ≠ record.deniedPermissions

def registeredAs (previous : Option PluginInstallRecord) (record : PluginInstallRecord) : AuditAction :=
  if permissionsChanged previous record = true then .permissionsChangedBlocked
  else if record.executable = true ∧ previous.isSome = true then .updatedVerified
  else if record.executable = true then .registeredVerified
  else if previous.isSome = true then .updatedBlocked
  else .registeredBlocked

/-- What the log says about a registration. -/
def registeredDetail (previous : Option PluginInstallRecord) (record : PluginInstallRecord) : String :=
  if permissionsChanged previous record = true then
    "插件权限声明已变化；新版本保持不可执行，所有权限需重新评审"
  else if record.executable = true then "插件签名和 WASM 摘要验证通过；仍需用户明确启用"
  else "插件已登记但保持不可执行：签名不受信任或请求了当前运行时未开放的权限"

def register (files : AppResult PluginPackage) (stamp : Stamp) : Transaction PluginInstallRecord := do
  let package ← .lift files
  let verification ← verifyPackage package
  let records ← .perform .listInstalled
  let previous := records.find? (·.id = package.manifest.id)
  .lift (ensure (previous.isSome || decide (records.length < maxInstalledPlugins))
    (.validation "最多登记 256 个插件"))
  let record := registeredRecord package verification.result.isOk previous stamp.updatedAt
  saveRegistryAndAudit ⟨[records], verification.roots⟩ (records.filter (·.id ≠ record.id) ++ [record])
    ⟨stamp.uuid, .plugin record.id, registeredAs previous record, registeredDetail previous record,
      package.manifestDigest, stamp.updatedAt⟩
  return record

def PluginInstallRecord.disable (now : String) (record : PluginInstallRecord) : PluginInstallRecord :=
  { record with enabled := false, grantedPermissions := [], updatedAt := now }

def disable (id : String) (stamp : Stamp) : Transaction Unit := do
  .lift (ensure (validId id) (.validation "插件 ID 无效"))
  let records ← .perform .listInstalled
  let record ← .lift (findRecord records id)
  saveRegistryAndAudit ⟨[records], []⟩ (changeRecord id (·.disable stamp.updatedAt) records)
    ⟨stamp.uuid, .plugin id, .disabled, "插件已禁用，运行权限立即失效", record.digest, stamp.createdAt⟩

def PluginInstallRecord.revoke (now : String) (record : PluginInstallRecord) : PluginInstallRecord :=
  { record with
    enabled := false
    executable := false
    grantedPermissions := []
    signatureStatus := "publisher-revoked"
    updatedAt := now }

def revokeRecords (publisherId now : String) (records : List PluginInstallRecord) : List PluginInstallRecord :=
  records.map fun record => if record.publisherId = some publisherId then record.revoke now else record

/-- The first root of a publisher is not trusted any more. -/
def revokeRoot (publisherId now : String) : List PluginPublisherRoot → List PluginPublisherRoot
  | [] => []
  | root :: roots =>
    if root.id = publisherId then { root with enabled := false, updatedAt := now } :: roots
    else root :: revokeRoot publisherId now roots

def findRoot (roots : List PluginPublisherRoot) (id : String) : AppResult PluginPublisherRoot :=
  match roots.find? (·.id = id) with
  | some root => .ok root
  | none => .error (.notFound ("插件发布者 " ++ id))

/-- A publisher is not trusted any more. -/
def revokePublisher (id : String) (stamp : Stamp) : Transaction Unit := do
  .lift (ensure (validId id) (.validation "发布者 ID 无效"))
  let roots ← .perform .listPublishers
  let root ← .lift (findRoot roots id)
  let records ← .perform .listInstalled
  saveRootsRegistryAndAudit ⟨[records], [roots]⟩ (revokeRoot id stamp.updatedAt roots)
    (revokeRecords id stamp.updatedAt records)
    ⟨stamp.uuid, .publisher id, .publisherRevoked, "发布者信任已撤销，其全部插件已立即禁用", root.fingerprint, stamp.createdAt⟩

/-- Whether a package is the one that was registered. -/
def PluginPackage.matching (package : PluginPackage) (record : PluginInstallRecord) : Bool :=
  package.manifest.id = record.id && package.manifest.version = record.version &&
    package.manifestDigest = record.digest && package.entrypointDigest = record.entrypointDigest &&
    package.manifest.permissions = record.requestedPermissions &&
    package.manifest.networkDomains = record.networkDomains

/-- What was loaded to verify a package, and the package if it is the one that was registered. -/
structure VerifiedRecord where
  roots : List (List PluginPublisherRoot)
  result : AppResult PluginPackage

def verifiedRecordPackage (files : String → AppResult PluginPackage) (record : PluginInstallRecord) :
    Transaction VerifiedRecord :=
  match files record.manifestPath with
  | .error error => return ⟨[], .error error⟩
  | .ok package => do
    let verification ← verifyPackage package
    return ⟨verification.roots, do
      let _ ← verification.result
      ensure (package.matching record) (.validation "插件登记后的 manifest、WASM、版本或权限已经变化")
      return package⟩

/-- What becomes of a record whose package is not in order. -/
def PluginInstallRecord.invalidate (now : String) (record : PluginInstallRecord) : PluginInstallRecord :=
  { record with
    enabled := false
    executable := false
    grantedPermissions := []
    signatureStatus := "invalidated"
    updatedAt := now }

/-- A plugin is blocked because its package is not in order. -/
def invalidateRecord (id detail : String) (stamp : Stamp) : Transaction Unit := do
  let records ← .perform .listInstalled
  let record ← .lift (findRecord records id)
  saveRegistryAndAudit ⟨[records], []⟩ (changeRecord id (·.invalidate stamp.updatedAt) records)
    ⟨stamp.uuid, .plugin id, .invalidated, detail, record.digest, stamp.createdAt⟩

def PluginInstallRecord.enable (permissions : List String) (now : String) (record : PluginInstallRecord) :
    PluginInstallRecord :=
  { record with
    signatureStatus := "verified"
    executable := true
    enabled := true
    grantedPermissions := permissions
    deniedPermissions := record.requestedPermissions.filter (· ∉ permissions)
    updatedAt := now }

/-- The user grants a plugin permissions that it asks for, none of them twice. -/
def checkGrants (requested : List String) : List String → List String → AppResult Unit
  | _, [] => .ok ()
  | granted, permission :: rest =>
    if permission ∉ requested ∨ permission ∈ granted then
      .error (.validation ("插件不能授予未声明或重复权限：" ++ permission))
    else checkGrants requested (permission :: granted) rest

def enable (id : String) (permissions : List String) (files : String → AppResult PluginPackage) (stamp : Stamp) :
    Transaction PluginInstallRecord := do
  .lift (ensure (validId id) (.validation "插件 ID 无效"))
  let installed ← .perform .listInstalled
  let current ← .lift (findRecord installed id)
  let verified ← verifiedRecordPackage files current
  match verified.result with
  | .error error =>
    invalidateRecord id ("启用前校验失败：" ++ errorText error) stamp
    .lift (.error error)
  | .ok package =>
    .lift (ensure (decide (permissions.length ≤ maxPermissions)) (.validation "插件授予权限数量超限"))
    .lift (checkGrants package.manifest.permissions [] permissions)
    let records ← .perform .listInstalled
    let record ← .lift (findRecord records id)
    saveRegistryAndAudit ⟨[installed, records], verified.roots⟩
      (changeRecord id (·.enable permissions stamp.updatedAt) records)
      ⟨stamp.uuid, .plugin id, .enabled, "签名与摘要已重新验证，插件已在无 WASI 沙箱中启用", record.digest, stamp.createdAt⟩
    return record.enable permissions stamp.updatedAt

def remove (id : String) (stamp : Stamp) : Transaction Unit := do
  .lift (ensure (validId id) (.validation "插件 ID 无效"))
  let records ← .perform .listInstalled
  let record ← .lift (findRecord records id)
  saveRegistryAndAudit ⟨[records], []⟩ (records.filter (·.id ≠ id))
    ⟨stamp.uuid, .plugin id, .removed, "插件登记已移除；manifest 文件不会被 CNshell 删除", record.digest, stamp.createdAt⟩

/-- The permission that an import of the host's functions asks for. -/
def requiredPermissionForImport (name : String) : Option String :=
  if name = "log" then some "ui"
  else if name ∈ ["connection_metadata_len", "connection_metadata_read"] then some "connectionMetadata"
  else if name ∈ ["terminal_selection_len", "terminal_selection_read"] then some "terminalRead"
  else if name ∈ ["network_status", "network_metadata_len", "network_metadata_read", "network_response_len",
    "network_response_read"] then some "network"
  else if name ∈ ["directory_listing_len", "directory_listing_read", "directory_file_len",
    "directory_file_read"] then some "directory"
  else if name = "terminal_input_request" then some "terminalInput"
  else if name = "credential_proxy_connection_test" then some "credentialProxy"
  else none

/-- A WASM module that was parsed: the module and the name of each import, and what its run comes to. -/
structure WasmModule where
  imports : List (String × String)
  /-- The status code and the fuel, or why the sandbox ended the run. -/
  outcome : AppResult (Int × Nat)
  short : ∀ entry ∈ imports, entry.1.utf8ByteSize ≤ maxWasmNameBytes ∧ entry.2.utf8ByteSize ≤ maxWasmNameBytes

/-- Every import is one of the host's, and granted. -/
def checkImports (permissions : List String) : List (String × String) → AppResult Unit
  | [] => .ok ()
  | (source, name) :: rest => do
    let known := if source = "cnshell_v1" then requiredPermissionForImport name else none
    match known with
    | none => .error (.validation ("插件导入了未知宿主能力：" ++ source ++ "." ++ name))
    | some permission =>
      ensure (decide (permission ∈ permissions))
        (.validation ("插件导入 " ++ name ++ " 但未获 " ++ permission ++ " 权限"))
      checkImports permissions rest

def runWasm (permissions : List String) (wasm : AppResult WasmModule) : AppResult (Int × Nat) := do
  let wasm ← wasm
  checkImports permissions wasm.imports
  wasm.outcome

/-- What a run meets besides the store. -/
structure RunContext where
  files : String → AppResult PluginPackage
  /-- The digest of the bytes that are read to be run. -/
  bytesDigest : AppResult String
  /-- The connection, the selection, the network and the directory that the plugin asks for. -/
  prepared : AppResult Unit
  wasm : AppResult WasmModule
  /-- Whether the plugin asks for the proxy of credentials, and whether the request could be kept. -/
  credentialProxy : Option (AppResult Unit)
  terminalInput : Option (AppResult Unit)

/-- The entry about a request that a plugin made, if it made one. -/
def auditRequest (request : Option (AppResult Unit)) (event : PluginAuditEvent) : Transaction Unit :=
  match request with
  | none => return ()
  | some kept => do
    .lift kept
    appendAudit event

def run (id : String) (context : RunContext) (stamp : Stamp) : Transaction Unit := do
  .lift (ensure (validId id) (.validation "插件 ID 无效"))
  let installed ← .perform .listInstalled
  let record ← .lift (findRecord installed id)
  .lift (ensure (record.enabled && record.executable) (.unavailable "插件未启用或不可执行"))
  let verified ← verifiedRecordPackage context.files record
  match verified.result with
  | .error error =>
    invalidateRecord id ("运行前校验失败：" ++ errorText error) stamp
    .lift (.error error)
  | .ok package =>
    let digest ← .lift context.bytesDigest
    if digest ≠ package.entrypointDigest then
      invalidateRecord id "读取期间 WASM 摘要发生变化" stamp
      .lift (.error (.validation "插件 WASM 在读取期间发生变化"))
    else
      .lift context.prepared
      match runWasm record.grantedPermissions context.wasm with
      | .error error =>
        appendAudit ⟨stamp.uuid, .plugin id, .runFailed, "WASM 沙箱拒绝或终止运行：" ++ errorText error,
          record.digest, stamp.createdAt⟩
        .lift (.error error)
      | .ok (status, fuel) =>
        appendAudit ⟨stamp.uuid, .plugin id, .runCompleted,
          "WASM 沙箱运行完成，状态码 " ++ toString status ++ "，消耗燃料 " ++ toString fuel, record.digest,
          stamp.createdAt⟩
        auditRequest context.credentialProxy ⟨stamp.uuid, .plugin id, .credentialProxyRequested,
          "插件申请一次性 connectionTest；尚未使用凭据，等待用户确认", record.digest, stamp.createdAt⟩
        auditRequest context.terminalInput ⟨stamp.uuid, .plugin id, .terminalInputRequested,
          "插件提出一次性终端输入请求；尚未发送，等待用户确认", record.digest, stamp.createdAt⟩

inductive Starts (packages : PluginPackage → Prop) : Transaction Unit → Prop
  | importPublisher (keyFile : AppResult PublisherKey) (stamp : Stamp) :
      Starts packages (importPublisher keyFile stamp).discard
  | register {files : AppResult PluginPackage} (stamp : Stamp)
      (read : ∀ package, files = .ok package → packages package) : Starts packages (register files stamp).discard
  | disable (id : String) (stamp : Stamp) : Starts packages (disable id stamp)
  | revokePublisher (id : String) (stamp : Stamp) : Starts packages (revokePublisher id stamp)
  | invalidateRecord (id detail : String) (stamp : Stamp) : Starts packages (invalidateRecord id detail stamp)
  | enable (id : String) (permissions : List String) {files : String → AppResult PluginPackage} (stamp : Stamp)
      (read : ∀ path package, files path = .ok package → packages package) :
      Starts packages (enable id permissions files stamp).discard
  | remove (id : String) (stamp : Stamp) : Starts packages (remove id stamp)
  | run (id : String) {context : RunContext} (stamp : Stamp)
      (read : ∀ path package, context.files path = .ok package → packages package) :
      Starts packages (run id context stamp)

/-- The runs of a fresh store on which operations are started at any time. -/
def system (packages : PluginPackage → Prop) : System (Pool PluginAct AppError PluginStore)
    (Pool.Label PluginAct AppError) :=
  Pool.system database (Starts packages) (fun store => store = .fresh)

end Plugin

end CNShell
