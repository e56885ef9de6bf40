import CNShell.Client.Team

/-! The encrypted and signed envelopes of shared terminals, over the cryptographic libraries as parameters. -/

namespace CNShell

namespace Client

/-- A reading of the monotonic clock, in nanoseconds. -/
abbrev Tick := Int

/-- The libraries below the desktop client: those the relay uses as well, and its cryptography. -/
structure Vault extends Platform where
  /-- The padded base64 encoding. -/
  encodeBase64 : List UInt8 → String
  /-- The bytes a padded base64 text stands for. -/
  decodeBase64 : String → Option (List UInt8)
  /-- AES-256-GCM encryption of a text under a key, a nonce and additional data. -/
  encrypt : List UInt8 → List UInt8 → List UInt8 → List UInt8 → Option (List UInt8)
  /-- AES-256-GCM decryption under a key, a nonce and additional data. -/
  decrypt : List UInt8 → List UInt8 → List UInt8 → List UInt8 → Option (List UInt8)
  /-- The Ed25519 signature of a payload under a secret key. -/
  sign : List UInt8 → List UInt8 → List UInt8
  /-- The X25519 public key of a secret. -/
  publicKey : List UInt8 → List UInt8
  /-- The X25519 secret that a secret and a public key share. -/
  sharedSecret : List UInt8 → List UInt8 → List UInt8
  /-- Whether both keys contributed to a shared secret. -/
  contributory : List UInt8 → Bool
  /-- The key HKDF-SHA-256 derives from a salt, a secret and an info text. -/
  expandKey : List UInt8 → List UInt8 → List UInt8 → Option (List UInt8)
  /-- The text of the error with which `serde_jcs` refuses a value. -/
  canonicalError : String

/-- What the credential store answers for a device's private key of some kind. -/
abbrev Keychain := String → String → AppResult (List UInt8)

/-- The text some bytes encode, if they are UTF-8. -/
def fromUtf8 (bytes : List UInt8) : Option String := String.fromUTF8? ⟨bytes.toArray⟩

/-- The room key in a form that says nothing any more. -/
def zeroized : List UInt8 := List.replicate 32 0

def maxFrameBytes : Nat := 64 * 1024

def maxEnvelopeBytes : Nat := 128 * 1024

variable (vault : Vault)

/-! ### Device keys -/

def encodeKey (marker : String) (bytes : List UInt8) : String := marker ++ ":" ++ vault.encodeBase64Url bytes

/-- The 32 bytes of a stored key. -/
def decodeKey (value marker : String) : AppResult (List UInt8) := do
  let encoded ← required (stripPrefix (marker ++ ":") value)
    (.validation ("密钥必须使用 " ++ marker ++ ":<base64url> 格式"))
  let bytes ← required (vault.decodeBase64Url encoded) (.validation "设备公钥 Base64URL 无效")
  ensure (bytes.length = 32) (.validation "设备公钥必须为 32 字节")
  return bytes

/-- The encryption and the signing key of a device, which its fingerprint must match. -/
def validatedDeviceKeys (device : TeamDevice) : AppResult (List UInt8 × List UInt8) := do
  let encryption ← decodeKey vault device.encryptionPublicKey "x25519"
  let signing ← decodeKey vault device.signingPublicKey "ed25519"
  ensure (device.fingerprint = deviceFingerprint vault.toPlatform encryption signing)
    (.validation ("设备 " ++ device.id ++ " 的组合 SHA-256 指纹与公钥不一致"))
  return (encryption, signing)

def decodeNonce (value label : String) : AppResult (List UInt8) := do
  let bytes ← required (vault.decodeBase64Url value)
    (.validation (label ++ " nonce Base64URL 无效"))
  ensure (bytes.length = 12) (.validation (label ++ " nonce 必须为 12 字节"))
  return bytes

def decodeSignature (value : Option String) (label : String) : AppResult (List UInt8) := do
  let encoded ← required (value.bind (stripPrefix "ed25519:"))
    (.validation (label ++ "缺少 Ed25519 签名"))
  let bytes ← required (vault.decodeBase64Url encoded)
    (.validation (label ++ "签名 Base64URL 无效"))
  ensure (bytes.length = 64) (.validation (label ++ "签名长度无效"))
  return bytes

/-! ### The room key of an invitation -/

/-- The additional data a wrapped room key is bound to. -/
def roomWrapAad (workspaceId roomId : String) (keyEpoch : Int) (deviceId : String) : List UInt8 :=
  utf8 ("cnshell-team-room-wrap-v1\x00" ++ workspaceId ++ "\x00" ++ roomId ++ "\x00" ++
    toString keyEpoch ++ "\x00" ++ deviceId)

def deriveRoomWrappingKey (secret : List UInt8) (workspaceId roomId : String) (keyEpoch : Int)
    (deviceId : String) : AppResult (List UInt8) :=
  required
    (vault.expandKey (utf8 roomId) secret
      (utf8 ("cnshell-team-room-key-v1\x00" ++ workspaceId ++ "\x00" ++ toString keyEpoch ++
        "\x00" ++ deviceId)))
    (.internal "派生团队终端房间封装密钥失败")

def wrapRoomKey (secret : List UInt8) (workspaceId roomId : String) (keyEpoch : Int)
    (deviceId : String) (roomKey nonce : List UInt8) : AppResult (List UInt8) := do
  let wrappingKey ← deriveRoomWrappingKey vault secret workspaceId roomId keyEpoch deviceId
  required
    (vault.encrypt wrappingKey nonce (roomWrapAad workspaceId roomId keyEpoch deviceId) roomKey)
    (.internal "封装团队终端房间密钥失败")

def unwrapRoomKey (secret : List UInt8) (invitation : TeamTerminalInvitation)
    (wrapped nonce : List UInt8) : AppResult (List UInt8) := do
  let wrappingKey ← deriveRoomWrappingKey vault secret invitation.workspaceId invitation.roomId
    invitation.keyEpoch invitation.recipientDeviceId
  let plaintext ← required
    (vault.decrypt wrappingKey nonce
      (roomWrapAad invitation.workspaceId invitation.roomId invitation.keyEpoch
        invitation.recipientDeviceId) wrapped)
    (.authentication "当前设备无法解封团队终端房间密钥")
  ensure (plaintext.length = 32) (.validation "团队终端房间密钥长度无效")
  return plaintext

/-- What an invitation's signature covers. -/
def invitationSigningPayload (invitation : TeamTerminalInvitation) : AppResult (List UInt8) :=
  required (vault.canonicalInvitation { invitation with signature := none })
    (.internal ("规范化团队终端邀请失败：" ++ vault.canonicalError))

def signInvitation (keychain : Keychain) (hostDeviceId : String)
    (invitation : TeamTerminalInvitation) : AppResult TeamTerminalInvitation := do
  let secret ← keychain hostDeviceId "ed25519"
  let payload ← invitationSigningPayload vault invitation
  return { invitation with
    signature := some ("ed25519:" ++ vault.encodeBase64Url (vault.sign secret payload)) }

def verifyInvitationSignature (invitation : TeamTerminalInvitation) (host : TeamDevice) : AppResult Unit := do
  let (_, signingPublic) ← validatedDeviceKeys vault host
  ensure (vault.validVerifyingKey signingPublic = true)
    (.validation "团队终端主持设备签名公钥无效")
  let payload ← invitationSigningPayload vault invitation
  let signature ← decodeSignature vault invitation.signature "团队终端邀请"
  ensure (vault.verifies signingPublic payload signature = true)
    (.authentication "团队终端邀请签名验证失败")

/-! ### Frames -/

/-- What a frame's ciphertext is bound to. -/
def frameAad (frame : TeamTerminalEncryptedFrame) : AppResult (List UInt8) :=
  required (vault.canonicalFrame { frame with ciphertext := "", signature := none })
    (.internal ("规范化团队终端帧 AAD 失败：" ++ vault.canonicalError))

/-- What a frame's signature covers. -/
def frameSigningPayload (frame : TeamTerminalEncryptedFrame) : AppResult (List UInt8) :=
  required (vault.canonicalFrame { frame with signature := none })
    (.internal ("规范化团队终端帧签名失败：" ++ vault.canonicalError))

def verifyFrameSignature (frame : TeamTerminalEncryptedFrame) (sender : TeamDevice) : AppResult Unit := do
  let (_, signingPublic) ← validatedDeviceKeys vault sender
  ensure (vault.validVerifyingKey signingPublic = true)
    (.validation "团队终端发送设备签名公钥无效")
  let payload ← frameSigningPayload vault frame
  let signature ← decodeSignature vault frame.signature "团队终端帧"
  ensure (vault.verifies signingPublic payload signature = true)
    (.authentication "团队终端帧签名验证失败")

def encryptFrame (keychain : Keychain) (nonce roomKey : List UInt8) (workspaceId roomId : String)
    (keyEpoch : Int) (senderMemberId senderDeviceId direction kind : String) (sequence : UInt64)
    (leaseId : Option String) (leaseGeneration : UInt64) (plaintext : List UInt8) :
    AppResult TeamTerminalEncryptedFrame := do
  ensure (plaintext ≠ [] ∧ plaintext.length ≤ maxFrameBytes)
    (.validation "团队终端明文帧必须为 1 字节至 64 KB")
  let frame : TeamTerminalEncryptedFrame :=
    { schemaVersion := 1
      workspaceId
      roomId
      keyEpoch
      senderMemberId
      senderDeviceId
      direction
      kind
      sequence
      leaseId
      leaseGeneration
      nonce := vault.encodeBase64Url nonce
      ciphertext := ""
      signature := none }
  let aad ← frameAad vault frame
  let ciphertext ← required (vault.encrypt roomKey nonce aad plaintext) (.internal "加密团队终端帧失败")
  let frame := { frame with ciphertext := vault.encodeBase64Url ciphertext }
  let secret ← keychain senderDeviceId "ed25519"
  let payload ← frameSigningPayload vault frame
  return { frame with
    signature := some ("ed25519:" ++ vault.encodeBase64Url (vault.sign secret payload)) }

def decryptFrame (roomKey : List UInt8) (frame : TeamTerminalEncryptedFrame) : AppResult (List UInt8) := do
  let canonical ← required (vault.canonicalFrame frame)
    (.validation ("团队终端帧无效：" ++ vault.canonicalError))
  ensure (canonical.length ≤ maxEnvelopeBytes) (.validation "团队终端密文帧超过 128 KB")
  let ciphertext ← required (vault.decodeBase64Url frame.ciphertext)
    (.validation "团队终端密文 Base64URL 无效")
  ensure (16 < ciphertext.length ∧ ciphertext.length ≤ maxFrameBytes + 16)
    (.validation "团队终端密文长度无效")
  let nonce ← decodeNonce vault frame.nonce "团队终端帧"
  let aad ← frameAad vault frame
  required (vault.decrypt roomKey nonce aad ciphertext) (.authentication "团队终端密文或 AAD 验证失败")

/-! ### The devices of a team -/

def deviceMemberRole (workspaceId deviceId : String) (db : LocalDb) : AppResult (String × Role) := do
  ensure (vault.parsesUuid deviceId = true) (.validation "协作设备 ID 无效")
  let absent := AppError.permissionDenied "协作设备或成员不存在、已移除或已撤销"
  let device ← required
    ((db.teamDevices.find? deviceId).filter fun device =>
      device.workspaceId = workspaceId ∧ device.status = .active) absent
  let member ← required
    ((db.teamMembers.find? device.memberId).filter fun member =>
      member.workspaceId = workspaceId ∧ member.status = .active) absent
  return (device.memberId, member.role)

def activeDevice (workspaceId deviceId memberId : String) (db : LocalDb) : AppResult TeamDevice := do
  let absent := AppError.permissionDenied "团队终端发送设备或成员已移除或撤销"
  let device ← required
    ((db.teamDevices.find? deviceId).filter fun device =>
      device.workspaceId = workspaceId ∧ device.memberId = memberId ∧ device.status = .active) absent
  let _ ← required
    ((db.teamMembers.find? device.memberId).filter fun member =>
      member.workspaceId = workspaceId ∧ member.status = .active) absent
  let _ ← validatedDeviceKeys vault device
  return device

end Client

end CNShell
