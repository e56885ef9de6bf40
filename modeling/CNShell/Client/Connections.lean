import CNShell.Client.Models
import CNShell.Library.Text

/-! The connections a desktop stores, and the rules a connection must meet to be stored. -/

namespace CNShell

namespace Client

/-- The systems whose serial devices are named differently. -/
inductive TargetOs
  | macos
  | windows
  | other

/-- A request to store a connection. -/
structure SaveConnectionInput where
  id : String
  folderId : Option String
  protocol : String
  name : String
  host : String
  port : Int
  username : String
  authType : String
  privateKeyPath : Option String
  certificatePath : Option String
  hostKeyPolicy : String
  note : String
  tags : List String
  encoding : String
  startupCommand : Option String
  proxyId : Option String
  environment : List (String × String)
  credential : Option String

/-- A row of `connections`, as a share reads it. -/
structure ConnectionProfile where
  id : String
  protocol : String
  name : String
  host : String
  port : Int
  username : String
  authType : String
  privateKeyPath : Option String
  certificatePath : Option String
  tags : List String
  encoding : String
  proxyId : Option String
  deriving DecidableEq

/-- The row that is read back after a request was stored. -/
def SaveConnectionInput.profile (input : SaveConnectionInput) : ConnectionProfile where
  id := input.id
  protocol := input.protocol
  name := input.name
  host := input.host
  port := input.port
  username := input.username
  authType := input.authType
  privateKeyPath := input.privateKeyPath
  certificatePath := input.certificatePath
  tags := input.tags
  encoding := input.encoding
  proxyId := input.proxyId

def maxCredentialBytes : Nat := 16 * 1024

/-- A decimal number below 65536, with a plus sign in front of it or without. -/
def parseU16 (digits : List Char) : Option Nat :=
  let digits := if digits.head? = some '+' then digits.tail else digits
  if digits ≠ [] ∧ digits.all Char.isDigit = true then
    let number := digits.foldl (fun number digit => number * 10 + (digit.toNat - '0'.toNat)) 0
    if number < 65536 then some number else none
  else none

def windowsComNumber (path : String) : Option Nat :=
  let normalized := ((stripPrefix "\\\\.\\" path).getD path).toList
  if (normalized.take 3).map Char.toLower = ['c', 'o', 'm'] then
    (parseU16 (normalized.drop 3)).filter fun number => 1 ≤ number ∧ number ≤ 256
  else none

/-- Whether a path names a serial device of the system. -/
def enumerablePath (os : TargetOs) (path : String) : Bool :=
  match os with
  | .macos => (stripPrefix "/dev/cu." path).isSome
  | .windows => (windowsComNumber path).isSome
  | .other => (stripPrefix "/dev/" path).isSome

/-- A serial device must have a short path that the system knows. -/
def validDevicePath (os : TargetOs) (path : String) : Bool :=
  path.utf8ByteSize ≤ 16 * 1024 ∧ enumerablePath os path = true

/-- Whether an optional text has more bytes than a limit. -/
def exceeds (value : Option String) (limit : Nat) : Bool := value.any fun text => limit < text.utf8ByteSize

/-- Whether some field of a request is longer than it may be. -/
def exceedsLimits (input : SaveConnectionInput) : Prop :=
  input.id = "" ∨ 128 < input.id.utf8ByteSize ∨ 256 < input.name.utf8ByteSize ∨
    1024 < input.host.utf8ByteSize ∨ 256 < input.username.utf8ByteSize ∨
    64 * 1024 < input.note.utf8ByteSize ∨ 100 < input.tags.length ∨
    (∃ tag ∈ input.tags, 256 < tag.utf8ByteSize) ∨
    exceeds input.startupCommand (64 * 1024) = true ∨
    exceeds input.privateKeyPath (16 * 1024) = true ∨
    exceeds input.certificatePath (16 * 1024) = true ∨
    exceeds input.credential maxCredentialBytes = true

instance (input : SaveConnectionInput) : Decidable (exceedsLimits input) := inferInstanceAs (Decidable (_ ∨ _))

/-- Every variable of the environment must have a short plain name and a short value. -/
def validateEnvironment (environment : List (String × String)) : AppResult Unit :=
  ensure
    (∀ entry ∈ environment, entry.1 ≠ "" ∧ entry.1.utf8ByteSize ≤ 128 ∧
      entry.2.utf8ByteSize ≤ 4096 ∧
      (entry.1.toList.all fun char => char.isAlphanum || char == '_') = true)
    (.validation "终端环境变量名称或值无效")

/-- A credential that is given and not empty. -/
def givesCredential (input : SaveConnectionInput) : Bool := input.credential.any fun secret => decide (secret ≠ "")

/-- What a local shell is restricted to. -/
def validateLocal (input : SaveConnectionInput) : AppResult Unit := do
  ensure (input.port = 0 ∨ input.port = 22) (.validation "本地 Shell 不需要网络端口")
  ensure (input.authType = "none" ∨ input.authType = "password")
    (.validation "本地 Shell 不支持该认证方式")

def validateTelnet (input : SaveConnectionInput) : AppResult Unit := do
  ensure (input.authType = "none") (.validation "Telnet 不支持认证方式，也不会保存密码")
  ensure (givesCredential input = false) (.validation "Telnet 不允许保存密码")

def validateSerial (os : TargetOs) (input : SaveConnectionInput) : AppResult Unit := do
  ensure (validDevicePath os input.host = true) (.validation "Serial 设备路径无效")
  ensure (300 ≤ input.port ∧ input.port ≤ 4000000)
    (.validation "串口波特率必须在 300 到 4000000 之间")
  ensure (input.authType = "none" ∧ givesCredential input = false)
    (.validation "Serial 连接不使用或保存认证凭据")

def validateAuthentication (input : SaveConnectionInput) : AppResult Unit := do
  ensure
    (input.protocol = "ssh" → input.authType ∈ ["password", "privateKey", "sshCertificate", "sshAgent", "fido2Agent"])
    (.validation "SSH 认证方式无效")
  ensure (input.authType = "privateKey" → input.privateKeyPath.getD "" ≠ "")
    (.validation "私钥认证必须选择私钥文件")
  ensure
    (input.authType = "sshCertificate" → input.privateKeyPath.getD "" ≠ "" ∧ input.certificatePath.getD "" ≠ "")
    (.validation "SSH Certificate 认证必须同时选择私钥与证书文件")

/-- The rules a connection must meet to be stored. -/
def validateConnection (os : TargetOs) (input : SaveConnectionInput) : AppResult Unit := do
  ensure (¬exceedsLimits input) (.validation "连接字段超过长度限制")
  ensure (trim input.name ≠ "") (.validation "名称不能为空")
  ensure
    (trim input.host ≠ "" ∧ ¬input.host.toList.any (fun char => isWhitespace char || isControl char) = true)
    (.validation "主机地址无效")
  ensure (input.protocol ∉ ["local", "serial"] → 1 ≤ input.port ∧ input.port ≤ 65535)
    (.validation "端口必须在 1 到 65535 之间")
  ensure (trim input.username ≠ "" ∧ ¬input.username.toList.any isControl = true)
    (.validation "用户名不能为空或包含控制字符")
  ensure (input.protocol ∈ ["ssh", "rdp", "local", "telnet", "serial"]) (.validation "不支持的协议")
  -- A local shell and Telnet are done here, whatever else the request says.
  if input.protocol = "local" then validateLocal input
  else if input.protocol = "telnet" then validateTelnet input
  else
    if input.protocol = "serial" then validateSerial os input
    validateAuthentication input
    ensure (input.hostKeyPolicy ∈ ["strict", "acceptNew"]) (.validation "主机密钥策略无效")
    ensure (input.encoding = "UTF-8") (.validation "当前版本仅支持 UTF-8 终端编码")
    validateEnvironment input.environment

/-- What the rules say of the fields of a connection that may be shared. -/
structure Shareable (profile : ConnectionProfile) : Prop where
  name : trim profile.name ≠ "" ∧ profile.name.utf8ByteSize ≤ 256
  host : trim profile.host ≠ "" ∧ profile.host.utf8ByteSize ≤ 1024
  port : 1 ≤ profile.port ∧ profile.port ≤ 65535
  username : profile.username.utf8ByteSize ≤ 256
  tags : profile.tags.length ≤ 100 ∧ ∀ tag ∈ profile.tags, tag.utf8ByteSize ≤ 256
  encoding : profile.encoding = "UTF-8"

variable {os : TargetOs} {input : SaveConnectionInput} {u : Unit}

theorem validateConnection_limits (valid : validateConnection os input = .ok u) : ¬exceedsLimits input := by
  obtain ⟨done, limits, -⟩ := bind_eq_ok.mp valid
  exact ensure_eq_ok.mp limits

theorem validateConnection_shareable (valid : validateConnection os input = .ok u)
    (protocol : input.protocol = "ssh" ∨ input.protocol = "rdp") : Shareable input.profile := by
  have limits := validateConnection_limits valid
  simp only [exceedsLimits, not_or, not_lt, not_exists, not_and] at limits
  obtain ⟨-, -, name, host, username, -, tags, tag, -⟩ := limits
  have remote : input.protocol ∉ ["local", "serial"] ∧ input.protocol ≠ "local" ∧
      input.protocol ≠ "telnet" ∧ input.protocol ≠ "serial" := by
    rcases protocol with same | same <;> simp [same]
  simp only [validateConnection, bind_eq_ok, ensure_eq_ok, remote.2.1, remote.2.2.1,
    remote.2.2.2, if_false, exists_const] at valid
  obtain ⟨-, named, ⟨hosted, -⟩, port, -, -, ⟨-, -, -, encoding, -⟩⟩ := valid
  exact ⟨⟨named, name⟩, ⟨hosted, host⟩, port remote.1, username, ⟨tags, tag⟩, encoding⟩

theorem validateConnection_credential (valid : validateConnection os input = .ok u)
    {secret : String} (given : input.credential = some secret) :
    secret.utf8ByteSize ≤ maxCredentialBytes := by
  have limits := validateConnection_limits valid
  simp only [exceedsLimits, not_or] at limits
  have short := limits.2.2.2.2.2.2.2.2.2.2.2
  simpa [exceeds, given] using short

end Client

end CNShell
