import CNShell.Library.Checked
import CNShell.Library.Text
import CNShell.Relay.Models

/-! The third-party functions the relay calls, taken as parameters of the model. -/

namespace CNShell

/-- The libraries below the relay: encodings, digests, signatures, passwords and time texts. -/
structure Platform where
  /-- Whether `uuid::Uuid::parse_str` accepts a text. -/
  parsesUuid : String → Bool
  /-- The URL-safe base64 encoding without padding. -/
  encodeBase64Url : List UInt8 → String
  /-- The bytes a URL-safe base64 text without padding stands for. -/
  decodeBase64Url : String → Option (List UInt8)
  /-- The lower-case hexadecimal SHA-256 digest. -/
  sha256Hex : List UInt8 → String
  /-- Whether 32 bytes are an Ed25519 verifying key. -/
  validVerifyingKey : List UInt8 → Bool
  /-- Whether an Ed25519 signature over a payload verifies under a key. -/
  verifies : List UInt8 → List UInt8 → List UInt8 → Bool
  /-- The canonical JSON of a room invitation, which `serde_jcs` may refuse to write. -/
  canonicalInvitation : TeamTerminalInvitation → Option (List UInt8)
  /-- The canonical JSON of a frame, which `serde_jcs` may refuse to write. -/
  canonicalFrame : TeamTerminalEncryptedFrame → Option (List UInt8)
  /-- The length in bytes of the stored JSON of a frame. -/
  frameJsonBytes : TeamTerminalEncryptedFrame → Nat
  /-- The instant an RFC 3339 text names. -/
  parseRfc3339 : String → Option Instant
  /-- The RFC 3339 text `to_rfc3339` writes for an instant in UTC. -/
  rfc3339 : Instant → String
  /-- The Argon2 hash of a password under a salt. -/
  hashPassword : String → String → Option String
  /-- Whether a password matches a stored Argon2 hash. -/
  verifyPassword : String → String → Bool

variable (platform : Platform)

def tokenHash (domain token : String) : String :=
  "sha256:" ++ platform.sha256Hex
    (utf8 ("cnshell-team-relay-v1\x00" ++ domain ++ "\x00" ++ token))

def newToken (domain : String) (random : List UInt8) : String × String :=
  let token := platform.encodeBase64Url random
  (token, tokenHash platform domain token)

/-- A token must be the encoding of 32 bytes. -/
def validateTokenShape (value : String) : RelayResult Unit :=
  ensure
    (value.utf8ByteSize = 43 ∧ ((platform.decodeBase64Url value).elim false fun bytes => bytes.length == 32) = true)
    (.authentication "会话令牌格式无效")

/-- An identifier must be a UUID of at most 64 bytes. -/
def validateUuid (value field : String) : RelayResult Unit :=
  ensure (value.utf8ByteSize ≤ 64 ∧ platform.parsesUuid value = true)
    (.validation (field ++ "无效"))

/-- A name is trimmed and must be short, nonempty and free of control characters. -/
def cleanName (value field : String) : RelayResult String := do
  let value := trim value
  ensure (value ≠ "" ∧ value.utf8ByteSize ≤ 256 ∧ ¬value.toList.any isControl)
    (.validation (field ++ "无效"))
  return value

/-- An email address is trimmed, put in lower case and must have a local part and a dotted domain. -/
def cleanEmail (value : String) : RelayResult String := do
  let value := toAsciiLowercase (trim value)
  let invalid := RelayError.validation "邮箱格式无效"
  match splitOn '@' value with
  | [localPart, domain] =>
    ensure
      (value.utf8ByteSize ≤ 254 ∧ localPart ≠ [] ∧ domain ≠ [] ∧ '.' ∈ domain ∧
        ¬value.toList.any fun char => isControl char || isWhitespace char) invalid
    return value
  | _ => .error invalid

/-- A password must have 12 to 1024 bytes and no control characters. -/
def validatePassword (value : String) : RelayResult Unit :=
  ensure (12 ≤ value.utf8ByteSize ∧ value.utf8ByteSize ≤ 1024 ∧ ¬value.toList.any isControl)
    (.validation "密码必须为 12 至 1024 字节且不能包含控制字符")

/-- A public key is its prefix, a colon and the encoding of 32 bytes. -/
def decodePublicKey (value kind : String) : RelayResult (List UInt8) := do
  let encoded ← required (stripPrefix (kind ++ ":") value)
    (.validation ("设备密钥必须使用 " ++ kind ++ " 格式"))
  let bytes ← required (platform.decodeBase64Url encoded) (.validation "设备公钥编码无效")
  ensure (bytes.length = 32) (.validation "设备公钥长度无效")
  return bytes

/-- The combined fingerprint of a device's two public keys. -/
def deviceFingerprint (encryption signing : List UInt8) : String :=
  "sha256:" ++ platform.sha256Hex (utf8 "cnshell-team-device-v1\x00" ++ encryption ++ signing)

/-- A device registration must have a UUID, a name, two valid keys and their fingerprint. -/
def validateDevice (device : DeviceRegistration) : RelayResult Unit := do
  validateUuid platform device.id "设备 ID"
  let _ ← cleanName device.name "设备名称"
  let encryption ← decodePublicKey platform device.encryptionPublicKey "x25519"
  let signing ← decodePublicKey platform device.signingPublicKey "ed25519"
  ensure (platform.validVerifyingKey signing = true) (.validation "Ed25519 公钥无效")
  ensure (device.fingerprint = deviceFingerprint platform encryption signing)
    (.validation "设备组合指纹不匹配")

def Role.allows : Role → Permission → Bool
  | _, .memberRead => true
  | role, .memberManage => role == .owner || role == .admin
  | _, .terminalView => true
  | role, .terminalControl => role == .owner || role == .admin || role == .operator
  | role, .shareManage => role == .owner || role == .admin

def requirePermission (role : Role) (permission : Permission) : RelayResult Unit :=
  ensure (role.allows permission = true)
    (.permissionDenied ("角色 " ++ role.text ++ " 没有 " ++ permission.text ++ " 权限"))

/-- A device whose role lacks a permission is refused. -/
def requireDevicePermission (auth : DeviceAuth) (permission : Permission) : RelayResult Unit :=
  requirePermission auth.role permission

end CNShell
