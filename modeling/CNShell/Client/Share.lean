import CNShell.Client.Connections
import CNShell.Client.Crypto

/-! Encrypted shares of a connection: their export by one device of a team and their preview by another. -/

namespace CNShell

namespace Client

def maxShareFileBytes : Nat := 4 * 1024 * 1024

def maxSharePlaintextBytes : Nat := 1024 * 1024

/-- How many devices a share may be encrypted for. -/
def maxRecipients : Nat := 64

/-- How long a preview can be taken. -/
def previewTtl : Tick := 5 * 60 * 1000000000

structure SharedConnection where
  protocol : String
  name : String
  host : String
  port : Int
  username : String
  authType : String
  tags : List String
  encoding : String
  credential : Option String
  deriving DecidableEq

/-- The content key of a share, wrapped for one device. -/
structure ShareRecipient where
  deviceId : String
  memberId : String
  nonce : String
  wrappedKey : String
  deriving DecidableEq

/-- What the file of a share holds. -/
structure ShareEnvelope where
  schemaVersion : UInt32
  shareId : String
  workspaceId : String
  keyEpoch : Int
  senderMemberId : String
  senderDeviceId : String
  ephemeralPublicKey : String
  payloadNonce : String
  ciphertext : String
  recipients : List ShareRecipient
  signature : Option String
  deriving DecidableEq

/-- A share that was previewed and can be taken for a while. -/
structure PendingShare where
  requestId : String
  workspaceId : String
  senderMemberId : String
  keyEpoch : Int
  connection : SharedConnection
  expiresAt : Tick

/-- The shares that were previewed. -/
abbrev TeamShareManager := Table PendingShare.requestId

structure TeamSharePreview where
  requestId : String
  workspaceId : String
  senderMemberId : String
  connectionName : String
  protocol : String
  host : String
  hasCredential : Bool
  keyEpoch : Int
  expiresAt : String

structure TeamShareExportInput where
  workspaceId : String
  connectionId : String
  recipientDeviceIds : List String
  includeCredential : Bool

/-- The libraries below shares: the client's, and JSON, which may refuse with a text. -/
structure ShareLibrary extends Vault where
  connectionJson : SharedConnection → Except String (List UInt8)
  parseConnection : List UInt8 → Except String SharedConnection
  /-- The indented JSON of an envelope. -/
  envelopeJson : ShareEnvelope → Except String (List UInt8)
  parseEnvelope : List UInt8 → Except String ShareEnvelope
  /-- The canonical JSON of an envelope. -/
  canonicalEnvelope : ShareEnvelope → Except String (List UInt8)

/-- What an export draws at random. -/
structure ShareDraws (library : ShareLibrary) where
  shareId : String
  contentKey : List UInt8
  payloadNonce : List UInt8
  ephemeralSecret : List UInt8
  /-- The nonce for a recipient's device. -/
  nonce : String → List UInt8
  parses : library.parsesUuid shareId = true
  contentKey_length : contentKey.length = 32
  payloadNonce_length : payloadNonce.length = 12
  ephemeralSecret_length : ephemeralSecret.length = 32
  nonce_length : ∀ deviceId, (nonce deviceId).length = 12

/-- What an export reads besides the team tables, and what its last writes come to. -/
structure ShareDesk where
  connection : String → AppResult ConnectionProfile
  credential : String → AppResult (Option String)
  keychain : Keychain
  /-- Whether the output path is absolute, short, and in a directory that exists. -/
  absolute : Bool
  extension : Option String
  pathBytes : Nat
  parentIsDirectory : Bool
  /-- What becomes of writing a temporary file and renaming it. -/
  write : List UInt8 → AppResult Unit
  /-- What becomes of the audit row. -/
  audit : AppResult Unit

/-- A file that is chosen for a preview. -/
structure InputFile where
  pathBytes : Nat
  absolute : Bool
  extension : Option String
  symlink : Bool
  regular : Bool
  bytes : List UInt8

variable (library : ShareLibrary) (credentialStoreName : String)

def sharedConnection (profile : ConnectionProfile) (credential : Option String) :
    SharedConnection where
  protocol := profile.protocol
  name := profile.name
  host := profile.host
  port := profile.port
  username := profile.username
  authType := profile.authType
  tags := profile.tags
  encoding := profile.encoding
  credential

/-- The additional data a share's ciphertext is bound to. -/
def shareAad (workspaceId shareId : String) (epoch : Int) : List UInt8 :=
  utf8 ("cnshell-team-share-v1\x00" ++ workspaceId ++ "\x00" ++ shareId ++ "\x00" ++ toString epoch)

def deriveWrappingKey (secret : List UInt8) (shareId deviceId : String) : AppResult (List UInt8) :=
  required (library.expandKey (utf8 shareId) secret (utf8 ("cnshell-team-wrap-v1\x00" ++ deviceId)))
    (.internal "派生设备封装密钥失败")

def wrapKey (secret : List UInt8) (shareId deviceId : String) (contentKey nonce : List UInt8) :
    AppResult (List UInt8) := do
  let wrappingKey ← deriveWrappingKey library secret shareId deviceId
  required (library.encrypt wrappingKey nonce [] contentKey) (.internal "封装内容密钥失败")

def unwrapKey (secret : List UInt8) (shareId deviceId : String) (wrapped nonce : List UInt8) :
    AppResult (List UInt8) := do
  let wrappingKey ← deriveWrappingKey library secret shareId deviceId
  let plaintext ← required (library.decrypt wrappingKey nonce [] wrapped)
    (.authentication "当前设备无法解封内容密钥")
  ensure (plaintext.length = 32) (.validation "解封后的内容密钥长度无效")
  return plaintext

/-- What an envelope's signature covers. -/
def envelopeSigningPayload (envelope : ShareEnvelope) : AppResult (List UInt8) :=
  (library.canonicalEnvelope { envelope with signature := none }).mapError fun error =>
    .internal ("规范化分享签名载荷失败：" ++ error)

def localDevice (workspaceId : String) (authorization : TeamAuthorization) (db : LocalDb) : AppResult TeamDevice := do
  let deviceId ← required authorization.localDeviceId (.unavailable "尚未创建本机团队设备身份")
  let device ← required
    ((db.teamDevices.find? deviceId).filter fun device =>
      device.workspaceId = workspaceId ∧ device.memberId = authorization.memberId ∧
        device.isLocal = true ∧ device.status = .active)
    (.unavailable "本机团队设备已撤销或引用无效")
  let _ ← validatedDeviceKeys library.toVault device
  return device

def teamDevice (workspaceId deviceId : String) (db : LocalDb) : Option TeamDevice :=
  (db.teamDevices.find? deviceId).filter fun device =>
    device.workspaceId = workspaceId ∧ device.status = .active ∧
      ((db.teamMembers.find? device.memberId).any fun member =>
        member.workspaceId = device.workspaceId ∧ member.status = .active) = true

/-- A connection must be an SSH or RDP one without a proxy and key files. -/
def checkShareable (profile : ConnectionProfile) : AppResult Unit :=
  ensure
    (profile.protocol ∈ ["ssh", "rdp"] ∧ profile.proxyId = none ∧ profile.privateKeyPath = none ∧
      profile.certificatePath = none ∧
      profile.authType ∈ ["none", "password", "sshAgent", "fido2Agent"])
    (.validation "安全分享首版只支持无代理、无私钥文件的 SSH/RDP 连接")

/-- The credential that a share takes along, if it is asked to. -/
def shareCredential (desk : ShareDesk) (profile : ConnectionProfile) (includeCredential : Bool) :
    AppResult (Option String) :=
  if includeCredential = true then do
    let stored ← desk.credential profile.id
    let secret ← required stored
      (.unavailable ("该连接在" ++ credentialStoreName ++ "中没有可分享的凭据"))
    return some secret
  else .ok none

def shareRecipient (draws : ShareDraws library) (device : TeamDevice) : AppResult ShareRecipient := do
  let (encryptionPublic, _) ← validatedDeviceKeys library.toVault device
  let secret := library.sharedSecret draws.ephemeralSecret encryptionPublic
  ensure (library.contributory secret = true) (.validation "接收设备 X25519 公钥不可用")
  let nonce := draws.nonce device.id
  let wrapped ← wrapKey library secret draws.shareId device.id draws.contentKey nonce
  return {
    deviceId := device.id
    memberId := device.memberId
    nonce := library.encodeBase64Url nonce
    wrappedKey := library.encodeBase64Url wrapped }

/-- An envelope with the signature of the sending device. -/
def signEnvelope (keychain : Keychain) (envelope : ShareEnvelope) : AppResult ShareEnvelope := do
  let secret ← keychain envelope.senderDeviceId "ed25519"
  let payload ← envelopeSigningPayload library envelope
  return { envelope with
    signature := some ("ed25519:" ++ library.encodeBase64Url (library.sign secret payload)) }

/-- A payload is written to a path of the right kind. -/
def atomicWrite (desk : ShareDesk) (extension : String) (payload : List UInt8) : AppResult Unit := do
  ensure (desk.pathBytes ≤ 16 * 1024) (.validation "导出路径超过 16 KB")
  ensure (desk.absolute = true ∧ desk.extension = some extension)
    (.validation ("导出文件必须使用 ." ++ extension ++ " 扩展名"))
  ensure (desk.parentIsDirectory = true) (.validation "导出目录不存在")
  desk.write payload

/-- Which recipients a request names. -/
def checkRecipients (input : TeamShareExportInput) : AppResult Unit := do
  ensure
    (input.recipientDeviceIds ≠ [] ∧ input.recipientDeviceIds.length ≤ maxRecipients)
    (.validation "安全分享接收设备必须为 1 至 64 台")
  ensure
    ((∀ id ∈ input.recipientDeviceIds, library.parsesUuid id = true) ∧ input.recipientDeviceIds.Nodup)
    (.validation "安全分享接收设备 ID 无效或重复")

/-- Only who may manage shares may share a credential. -/
def checkCredentialRight (role : Role) (includeCredential : Bool) : AppResult Unit :=
  if includeCredential = true then requirePermission role .shareManage else .ok ()

/-- Nothing that the share rests on has changed while it was made. -/
def checkUnchanged (input : TeamShareExportInput) (authorization : TeamAuthorization)
    (senderDeviceId : String) (recipients : List ShareRecipient) (db : LocalDb) :
    AppResult Unit := do
  let final ← authorize library.toPlatform input.workspaceId .shareCreate db
  checkCredentialRight final.role input.includeCredential
  ensure
    (final.memberId = authorization.memberId ∧ final.keyEpoch = authorization.keyEpoch ∧
      final.localDeviceId = some senderDeviceId)
    (.permissionDenied "分享生成期间成员、设备或密钥 epoch 已变化，请重新操作")
  ensure
    (∀ recipient ∈ recipients,
      ((teamDevice input.workspaceId recipient.deviceId db).any fun device =>
        device.memberId = recipient.memberId) = true)
    (.permissionDenied "分享生成期间接收设备或成员已被撤销，请重新选择")

/-- The envelope of a share, with the content encrypted and its key wrapped for every device. -/
def sealShare (draws : ShareDraws library) (keychain : Keychain) (input : TeamShareExportInput)
    (authorization : TeamAuthorization) (senderDeviceId : String) (devices : List TeamDevice)
    (plaintext : List UInt8) : AppResult ShareEnvelope := do
  let aad := shareAad input.workspaceId draws.shareId authorization.keyEpoch
  let ciphertext ← required (library.encrypt draws.contentKey draws.payloadNonce aad plaintext)
    (.internal "加密分享内容失败")
  let recipients ← devices.mapM (shareRecipient library draws)
  signEnvelope library keychain
    { schemaVersion := 1
      shareId := draws.shareId
      workspaceId := input.workspaceId
      keyEpoch := authorization.keyEpoch
      senderMemberId := authorization.memberId
      senderDeviceId
      ephemeralPublicKey := encodeKey library.toVault "x25519" (library.publicKey draws.ephemeralSecret)
      payloadNonce := library.encodeBase64Url draws.payloadNonce
      ciphertext := library.encodeBase64Url ciphertext
      recipients
      signature := none }

/--
The export of a share; its result is what the file at the output path holds afterwards.

The team tables are read before the share is made and once more after it.
-/
def exportShare (draws : ShareDraws library) (desk : ShareDesk) (before after : LocalDb)
    (input : TeamShareExportInput) : AppResult (List UInt8) := do
  checkRecipients library input
  let authorization ← authorize library.toPlatform input.workspaceId .shareCreate before
  checkCredentialRight authorization.role input.includeCredential
  let senderDevice ← localDevice library input.workspaceId authorization before
  let profile ← desk.connection input.connectionId
  checkShareable profile
  let credential ← shareCredential credentialStoreName desk profile input.includeCredential
  let plaintext ← (library.connectionJson (sharedConnection profile credential)).mapError .internal
  ensure (plaintext.length ≤ maxSharePlaintextBytes) (.validation "安全分享明文超过 1 MB")
  let devices ← input.recipientDeviceIds.mapM fun deviceId =>
    required (teamDevice input.workspaceId deviceId before)
      (.validation ("接收设备 " ++ deviceId ++ " 不存在、已撤销或成员已移除"))
  let envelope ← sealShare library draws desk.keychain input authorization senderDevice.id devices
    plaintext
  let payload ← (library.envelopeJson envelope).mapError .internal
  ensure (payload.length ≤ maxShareFileBytes) (.validation "安全分享文件超过 4 MB")
  checkUnchanged library input authorization senderDevice.id envelope.recipients after
  atomicWrite desk "cnshellshare" payload
  desk.audit
  return payload

/-! ### The preview -/

/-- A file must be a regular one of the right kind and size. -/
def validateInputFile (file : InputFile) (extension : String) (maxBytes : Nat) : AppResult Unit := do
  ensure (file.pathBytes ≤ 16 * 1024) (.validation "导入路径超过 16 KB")
  ensure (file.absolute = true ∧ file.extension = some extension)
    (.validation ("导入文件必须使用 ." ++ extension ++ " 扩展名"))
  ensure
    (file.symlink = false ∧ file.regular = true ∧ file.bytes ≠ [] ∧ file.bytes.length ≤ maxBytes)
    (.validation "导入文件大小无效或为符号链接")

/-- An envelope must be of the known version, with identifiers, an epoch and recipients. -/
def validateEnvelope (envelope : ShareEnvelope) : AppResult Unit :=
  ensure
    (envelope.schemaVersion = 1 ∧ library.parsesUuid envelope.shareId = true ∧
      library.parsesUuid envelope.workspaceId = true ∧ 1 ≤ envelope.keyEpoch ∧
      envelope.recipients ≠ [] ∧ envelope.recipients.length ≤ maxRecipients)
    (.validation "安全分享版本、ID、epoch 或接收者无效")

/-- An envelope must be signed by an active device of an active member. -/
def verifyEnvelope (envelope : ShareEnvelope) (db : LocalDb) : AppResult Unit := do
  let sender ← required
    ((teamDevice envelope.workspaceId envelope.senderDeviceId db).filter fun device =>
      device.memberId = envelope.senderMemberId)
    (.authentication "发送设备不存在、已撤销或成员已移除")
  let (_, signingPublic) ← validatedDeviceKeys library.toVault sender
  ensure (library.validVerifyingKey signingPublic = true) (.validation "发送设备签名公钥无效")
  let signature ← decodeSignature library.toVault envelope.signature "安全分享"
  let payload ← envelopeSigningPayload library envelope
  ensure (library.verifies signingPublic payload signature = true)
    (.authentication "安全分享签名验证失败")

def openEnvelope (keychain : Keychain) (deviceId : String) (recipient : ShareRecipient)
    (envelope : ShareEnvelope) : AppResult SharedConnection := do
  let ephemeralPublic ← decodeKey library.toVault envelope.ephemeralPublicKey "x25519"
  let localSecret ← keychain deviceId "x25519"
  let secret := library.sharedSecret localSecret ephemeralPublic
  ensure (library.contributory secret = true) (.authentication "安全分享 X25519 共享密钥无效")
  let wrapped ← required (library.decodeBase64Url recipient.wrappedKey)
    (.validation "封装内容密钥 Base64URL 无效")
  let wrapNonce ← decodeNonce library.toVault recipient.nonce "分享"
  let contentKey ← unwrapKey library secret envelope.shareId deviceId wrapped wrapNonce
  let payloadNonce ← decodeNonce library.toVault envelope.payloadNonce "分享"
  let ciphertext ← required (library.decodeBase64Url envelope.ciphertext)
    (.validation "分享密文 Base64URL 无效")
  ensure (ciphertext.length ≤ maxSharePlaintextBytes + 16) (.validation "分享密文超过限制")
  let aad := shareAad envelope.workspaceId envelope.shareId envelope.keyEpoch
  let plaintext ← required (library.decrypt contentKey payloadNonce aad ciphertext)
    (.authentication "安全分享密文验证失败")
  (library.parseConnection plaintext).mapError fun error => .validation ("分享连接载荷无效：" ++ error)

/-- The fields of a shared connection must be short, and its kinds known. -/
def validateSharedConnection (connection : SharedConnection) : AppResult Unit :=
  ensure
    (connection.protocol ∈ ["ssh", "rdp"] ∧ trim connection.name ≠ "" ∧
      connection.name.utf8ByteSize ≤ 256 ∧ trim connection.host ≠ "" ∧
      connection.host.utf8ByteSize ≤ 1024 ∧ connection.username.utf8ByteSize ≤ 512 ∧
      (1 ≤ connection.port ∧ connection.port ≤ 65535) ∧ connection.tags.length ≤ 128 ∧
      (∀ tag ∈ connection.tags, tag.utf8ByteSize ≤ 256) ∧ connection.encoding.utf8ByteSize ≤ 64 ∧
      connection.authType ∈ ["none", "password", "sshAgent", "fido2Agent"] ∧
      ∀ secret ∈ connection.credential, secret.utf8ByteSize ≤ 16 * 1024)
    (.validation "分享连接字段超过限制或枚举无效")

/-- A previewed share is kept until it is taken or expires. -/
def TeamShareManager.insert (manager : TeamShareManager) (requestId : String) (now : Tick)
    (utc : Instant) (workspaceId senderMemberId : String) (keyEpoch : Int)
    (connection : SharedConnection) : TeamSharePreview × TeamShareManager :=
  let preview : TeamSharePreview :=
    { requestId
      workspaceId
      senderMemberId
      connectionName := connection.name
      protocol := connection.protocol
      host := connection.host
      hasCredential := connection.credential.isSome
      keyEpoch
      expiresAt := library.rfc3339 (utc + minutes 5) }
  (preview,
    (Table.delete manager fun pending => ¬now < pending.expiresAt).put
      { requestId, workspaceId, senderMemberId, keyEpoch, connection, expiresAt := now + previewTtl })

def previewShare (keychain : Keychain) (requestId : String) (now : Tick) (utc : Instant)
    (db : LocalDb) (manager : TeamShareManager) (file : InputFile) :
    AppResult (TeamSharePreview × TeamShareManager) := do
  validateInputFile file "cnshellshare" maxShareFileBytes
  let envelope ← (library.parseEnvelope file.bytes).mapError fun error =>
    .validation ("安全分享文件无效：" ++ error)
  validateEnvelope library envelope
  let authorization ← authorize library.toPlatform envelope.workspaceId .connectionManage db
  ensure (envelope.keyEpoch ≤ authorization.keyEpoch) (.validation "安全分享来自未知的未来密钥 epoch")
  let device ← localDevice library envelope.workspaceId authorization db
  let recipient ← required
    (envelope.recipients.find? fun recipient =>
      recipient.deviceId = device.id ∧ recipient.memberId = authorization.memberId)
    (.permissionDenied "该分享未加密给当前设备")
  verifyEnvelope library envelope db
  let connection ← openEnvelope library keychain device.id recipient envelope
  validateSharedConnection connection
  return TeamShareManager.insert library manager requestId now utc envelope.workspaceId
    envelope.senderMemberId envelope.keyEpoch connection

end Client

end CNShell
