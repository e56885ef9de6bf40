import CNShell.Client.Stores
import CNShell.Library.Base64

/-! Backups of the connections and sync packages: how they are written, and how they are read. -/

namespace CNShell

namespace Client

def maxBackupBytes : Nat := 50 * 1024 * 1024

def syncFile : String := "CNshell-sync.cnshell.json"

/-- What a sync package includes. -/
structure SyncOptions where
  includeHosts : Bool
  includePrivateKeyPaths : Bool
  includeCredentials : Bool
  deriving DecidableEq, Repr

/-- What a sync returns, with the files named within the folder or the profile's directory. -/
structure SyncResult where
  path : String
  conflictCopy : Option String
  connectionCount : Nat
  encrypted : Bool
  deriving DecidableEq, Repr

/-- What a backup file holds. An exported connection has the fields of a request to store it. -/
inductive BackupEnvelope
  | plain (version : UInt32) (connections : List SaveConnectionInput)
  | encrypted (version : UInt32) (kdf salt nonce ciphertext : String)

/-- The libraries below backups: Argon2, AES-256-GCM, and JSON, which may refuse with a text. -/
structure BackupLibrary where
  /-- The Argon2id key of a passphrase and a salt. -/
  deriveKey : String → List UInt8 → Except String (List UInt8)
  /-- AES-256-GCM encryption of a text under a key and a nonce. -/
  encrypt : List UInt8 → List UInt8 → List UInt8 → Option (List UInt8)
  decrypt : List UInt8 → List UInt8 → List UInt8 → Option (List UInt8)
  connectionsJson : List SaveConnectionInput → Except String (List UInt8)
  parseConnections : List UInt8 → Option (List SaveConnectionInput)
  /-- The indented JSON of an envelope. -/
  envelopeJson : BackupEnvelope → Except String (List UInt8)
  parseEnvelope : List UInt8 → Except String BackupEnvelope

structure BackupDraws where
  salt : List UInt8
  nonce : List UInt8
  salt_length : salt.length = 16
  nonce_length : nonce.length = 12

def encodeBase64 (bytes : List UInt8) : String := String.ofList (Base64.encodePadded bytes)

def decodeBase64 (text : String) : Option (List UInt8) := Base64.decodePadded text.toList

/-- The name of the key derivation and the cipher. -/
def backupKdf : String := "argon2id+aes-256-gcm"

def fromProfile (profile : ConnectionRow) (credential : Option String) : SaveConnectionInput where
  id := profile.id
  folderId := profile.folderId
  protocol := profile.protocol
  name := profile.name
  host := profile.host
  port := profile.port
  username := profile.username
  authType := profile.authType
  privateKeyPath := profile.privateKeyPath
  certificatePath := profile.certificatePath
  hostKeyPolicy := profile.hostKeyPolicy
  note := profile.note
  tags := profile.tags
  encoding := profile.encoding
  startupCommand := profile.startupCommand
  proxyId := profile.proxyId
  environment := profile.environment
  credential := credential

section Write

variable (library : BackupLibrary) (os : TargetOs) (faults : Faults)

/-- The credentials that macOS finds for some connections, and those of them that the vault has not. -/
def gatherCredentials (desktop : DesktopState) :
    Nat → List String → AppResult (List (String × String) × List (String × String))
  | _, [] => return ([], [])
  | position, id :: rest =>
    match desktop.vault id with
    | some secret => do
      let (found, moved) ← gatherCredentials desktop (position + 1) rest
      return ((id, secret) :: found, moved)
    | none => do
      let _ ← (faults.at position).result .loadLegacyCredential
      let (found, moved) ← gatherCredentials desktop (position + 1) rest
      match desktop.secrets id with
      | some secret => return ((id, secret) :: found, (id, secret) :: moved)
      | none => return (found, moved)

/-- The credentials of some connections, one after the other. -/
def loadEach : Nat → List String → Command (List (String × String))
  | _, [] => return []
  | position, id :: rest => do
    let secret ← loadCredential os (faults.at position) id
    let found ← loadEach (position + 1) rest
    match secret with
    | some secret => return (id, secret) :: found
    | none => return found

/-- The credentials of some connections; macOS reads its vault once, and writes it once if older items are moved. -/
def loadCredentials (ids : List String) : Command (List (String × String)) :=
  match os with
  | .macos =>
    if ids = [] then return []
    else do
      reach faults .loadCredential
      let desktop ← Section.get
      let (found, moved) ← Section.check (gatherCredentials faults desktop 0 ids)
      if moved = [] then return found
      else do
        reach faults .migrateCredential
        Section.modify fun desktop =>
          moved.foldl (fun desktop entry => desktop.setVault entry.1 (some entry.2)) desktop
        return found
  | os => loadEach os faults 0 ids

def credentialIds (profiles : List ConnectionRow) (includeCredentials : Bool) : List String :=
  if includeCredentials = true then
    (profiles.filter fun profile => profile.authType ∉ agentTypes).map ConnectionRow.id
  else []

def exportConnections (profiles : List ConnectionRow) (includeCredentials : Bool) :
    Command (List SaveConnectionInput) := do
  let credentials ← loadCredentials os faults (credentialIds profiles includeCredentials)
  return profiles.map fun profile => fromProfile profile (credentials.lookup profile.id)

/-- The encrypted backup of some connections, and what is said when they cannot be encrypted. -/
def sealBackup (draws : BackupDraws) (passphrase refusal : String) (connections : List SaveConnectionInput) :
    AppResult (List UInt8) := do
  let clear ← (library.connectionsJson connections).mapError .internal
  let key ← (library.deriveKey passphrase draws.salt).mapError fun error =>
    .internal ("密钥派生失败：" ++ error)
  let ciphertext ← required (library.encrypt key draws.nonce clear) (.internal refusal)
  (library.envelopeJson (.encrypted 1 backupKdf (encodeBase64 draws.salt) (encodeBase64 draws.nonce)
    (encodeBase64 ciphertext))).mapError .internal

def withoutKeyPaths (options : SyncOptions) (exported : SaveConnectionInput) : SaveConnectionInput :=
  if options.includePrivateKeyPaths = true then exported
  else { exported with privateKeyPath := none, certificatePath := none }

def syncConnections (profiles : List ConnectionRow) (options : SyncOptions) : Command (List SaveConnectionInput) :=
  if options.includeHosts = true then do
    reach faults .listConnections
    let connections ← exportConnections os faults profiles options.includeCredentials
    return connections.map (withoutKeyPaths options)
  else return []

abbrev SyncFolder := String → Option (List UInt8)

/-- A package in the place of the sync file, whose old content is copied if it was another. -/
def placePackage (folder : SyncFolder) (stamp : String) (bytes : List UInt8) : SyncFolder × Option String :=
  match folder syncFile with
  | none => (Function.update folder syncFile (some bytes), none)
  | some old =>
    if old = bytes then (Function.update folder syncFile (some bytes), none)
    else
      let conflict := "CNshell-sync.conflict-" ++ stamp ++ ".cnshell.json"
      (Function.update (Function.update folder conflict (some old)) syncFile (some bytes), some conflict)

def syncWrite (draws : BackupDraws) (profiles : List ConnectionRow) (folder : Option SyncFolder)
    (stamp passphrase : String) (options : SyncOptions) : Command (SyncResult × SyncFolder) := do
  let _ ← Section.check (ensure (8 ≤ passphrase.utf8ByteSize) (.validation "同步口令至少需要 8 位"))
  let folder ← Section.check (required folder (.validation
    "同步位置必须是已存在的文件夹（可选择 iCloud Drive、WebDAV 或 Git 的本地挂载目录）"))
  let connections ← syncConnections os faults profiles options
  let bytes ← Section.check (sealBackup library draws passphrase "同步加密失败" connections)
  let placed := placePackage folder stamp bytes
  return (⟨syncFile, placed.2, connections.length, true⟩, placed.1)

/-- The file of an export of all connections or of one, encrypted if it has the credentials. -/
def exportFile (draws : BackupDraws) (includeSecrets : Bool) (passphrase : Option String)
    (connections : List SaveConnectionInput) : AppResult (List UInt8) :=
  if includeSecrets = true then
    sealBackup library draws (passphrase.getD "") "加密导出失败" connections
  else (library.envelopeJson (.plain 1 connections)).mapError .internal

def exportProfiles (draws : BackupDraws) (profiles : List ConnectionRow) (includeSecrets : Bool)
    (passphrase onlyId : Option String) : Command (List UInt8) := do
  let _ ← Section.check (ensure (includeSecrets = true → (passphrase.any fun value => 8 ≤ value.utf8ByteSize) = true)
    (.validation "包含凭据的导出必须设置至少 8 位口令"))
  reach faults .listConnections
  let chosen := profiles.filter fun profile => onlyId = none ∨ onlyId = some profile.id
  let connections ← exportConnections os faults chosen includeSecrets
  let _ ← Section.check (ensure (onlyId ≠ none → connections ≠ []) (.notFound (onlyId.getD "")))
  Section.check (exportFile library draws includeSecrets passphrase connections)

end Write

section Read

variable (library : BackupLibrary)

def openBackup (passphrase : Option String) : BackupEnvelope → AppResult (List SaveConnectionInput × Bool)
  | .plain version connections => do
    ensure (version = 1) (.validation "不支持的备份版本")
    return (connections, false)
  | .encrypted version _ salt nonce ciphertext => do
    ensure (version = 1) (.validation "不支持的备份版本")
    let passphrase ← required (passphrase.filter (· ≠ "")) (.validation "该备份已加密，请输入导出口令")
    let salt ← required (decodeBase64 salt) (.validation "备份盐值损坏")
    let nonce ← required (decodeBase64 nonce) (.validation "备份 nonce 损坏")
    ensure (nonce.length = 12) (.validation "备份 nonce 长度无效")
    let ciphertext ← required (decodeBase64 ciphertext) (.validation "备份密文损坏")
    let key ← (library.deriveKey passphrase salt).mapError fun error =>
      .internal ("密钥派生失败：" ++ error)
    let clear ← required (library.decrypt key nonce ciphertext) (.authentication "导出口令错误或备份已损坏")
    let connections ← required (library.parseConnections clear) (.validation "备份内容损坏")
    return (connections, true)

def decodeBackup (passphrase : Option String) (bytes : List UInt8) : AppResult (List SaveConnectionInput) := do
  ensure (bytes.length ≤ maxBackupBytes) (.validation "备份文件不能超过 50 MB")
  let envelope ← (library.parseEnvelope bytes).mapError fun error => .validation ("备份文件无效：" ++ error)
  let (connections, encrypted) ← openBackup library passphrase envelope
  ensure (encrypted = false → ∀ connection ∈ connections, connection.credential = none)
    (.validation "普通备份不得包含凭据；请使用 CNshell 加密备份格式")
  return connections

variable (host : HostSystem) (faults : Faults) (now : String) (uuid : Nat → String) (minute : String)

def importBackup (preserve : Bool) (passphrase : Option String) (bytes : List UInt8) : Command Nat := do
  let connections ← Section.check (decodeBackup library passphrase bytes)
  importFile host faults now preserve uuid minute connections

def syncRead (folder : SyncFolder) (passphrase : String) : Command SyncResult := do
  let _ ← Section.check (ensure (8 ≤ passphrase.utf8ByteSize) (.validation "同步口令至少需要 8 位"))
  let bytes ← Section.check (required (folder syncFile) (.notFound "同步目录中没有 CNshell-sync.cnshell.json"))
  let count ← importBackup library host faults now uuid minute true (some passphrase) bytes
  return ⟨syncFile, none, count, true⟩

end Read

end Client

end CNShell
