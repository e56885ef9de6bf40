import CNShell.Client.Backup

/-! Which connections of one device another device can store. -/

namespace CNShell

namespace Client

structure DesktopState.Lists (desktop : DesktopState) (rows : List ConnectionRow) : Prop where
  distinct : (rows.map ConnectionRow.id).Nodup
  rows : ∀ row, row ∈ rows ↔ desktop.live row.id = some row

section Validation

variable {os : TargetOs} {input : SaveConnectionInput}

/-- What is asked of every connection that is no local shell and no Telnet connection. -/
def RulesRemote (input : SaveConnectionInput) : Prop :=
  validateAuthentication input = .ok () ∧ input.hostKeyPolicy ∈ ["strict", "acceptNew"] ∧
    input.encoding = "UTF-8" ∧ validateEnvironment input.environment = .ok ()

theorem validateConnection_eq_ok : validateConnection os input = .ok () ↔
    ¬exceedsLimits input ∧ trim input.name ≠ "" ∧
      (trim input.host ≠ "" ∧ ¬input.host.toList.any (fun char => isWhitespace char || isControl char) = true) ∧
      (input.protocol ∉ ["local", "serial"] → 1 ≤ input.port ∧ input.port ≤ 65535) ∧
      (trim input.username ≠ "" ∧ ¬input.username.toList.any isControl = true) ∧
      input.protocol ∈ ["ssh", "rdp", "local", "telnet", "serial"] ∧
      (input.protocol = "local" → validateLocal input = .ok ()) ∧
      (input.protocol = "telnet" → validateTelnet input = .ok ()) ∧
      (input.protocol = "serial" → validateSerial os input = .ok ()) ∧
      (input.protocol ≠ "local" → input.protocol ≠ "telnet" → RulesRemote input) := by
  have done (result : AppResult Unit) : (∃ u, result = .ok u) ↔ result = .ok () :=
    ⟨fun ⟨(), same⟩ => same, fun same => ⟨(), same⟩⟩
  simp only [validateConnection, bind_eq_ok, ensure_eq_ok, exists_const, RulesRemote]
  -- The protocols that end early have only their own rules.
  by_cases isLocal : input.protocol = "local"
  · simp [isLocal]
  · by_cases isTelnet : input.protocol = "telnet"
    · simp [isTelnet]
    · by_cases isSerial : input.protocol = "serial"
      · simp [isSerial, done]
      · simp [isLocal, isTelnet, isSerial, done]

end Validation

section Arrival

def arrived (taken : String → Bool) (uuid minute : String) (device : DesktopState) (options : SyncOptions)
    (row : ConnectionRow) (credential : Option String) : SaveConnectionInput :=
  sanitizeImportReferences device
    (conflictCopy taken uuid minute (withoutKeyPaths options (fromProfile row credential)))

/--
Another device can store a connection: it does not need the paths that are left out, its serial device is
one of that system, its credential is short and of a protocol that may have one, and there is room in its name.
-/
structure Readable (os : TargetOs) (taken : String → Bool) (options : SyncOptions) (row : ConnectionRow)
    (credential : Option String) : Prop where
  keys : options.includePrivateKeyPaths = true ∨ row.authType ∉ keyTypes
  device : row.protocol = "serial" → validDevicePath os row.host = true
  secret : ∀ secret, credential = some secret → secret.utf8ByteSize ≤ maxCredentialBytes ∧
    (row.protocol ∈ ["telnet", "serial"] → secret = "")
  name : taken row.id = true → row.name.utf8ByteSize + 41 ≤ 256

variable {os source : TargetOs} {taken : String → Bool} {uuid minute : String} {device : DesktopState}
variable {options : SyncOptions} {row : ConnectionRow} {credential : Option String}

theorem arrived_eq : arrived taken uuid minute device options row credential =
    { fromProfile row credential with
      id := if taken row.id = true then uuid else row.id
      name := if taken row.id = true then row.name ++ "（同步冲突副本 " ++ minute ++ "）" else row.name
      privateKeyPath := if options.includePrivateKeyPaths = true then row.privateKeyPath else none
      certificatePath := if options.includePrivateKeyPaths = true then row.certificatePath else none
      folderId := row.folderId.filter device.folders
      proxyId := row.proxyId.filter device.proxies } := by
  unfold arrived withoutKeyPaths conflictCopy
  by_cases paths : options.includePrivateKeyPaths = true <;> by_cases known : taken row.id = true
  · rw [if_pos paths, if_pos paths, if_pos paths, if_pos (show taken (fromProfile row credential).id = true from known),
      if_pos known, if_pos known]
    rfl
  · rw [if_pos paths, if_pos paths, if_pos paths, if_neg (show ¬taken (fromProfile row credential).id = true from known),
      if_neg known, if_neg known]
    rfl
  · rw [if_neg paths, if_neg paths, if_neg paths, if_pos (by exact known), if_pos known, if_pos known]
    rfl
  · rw [if_neg paths, if_neg paths, if_neg paths, if_neg (by exact known), if_neg known, if_neg known]
    rfl

@[simp] theorem arrived_protocol :
    (arrived taken uuid minute device options row credential).protocol = row.protocol := by rw [arrived_eq]; rfl

@[simp] theorem arrived_host :
    (arrived taken uuid minute device options row credential).host = row.host := by rw [arrived_eq]; rfl

@[simp] theorem arrived_port :
    (arrived taken uuid minute device options row credential).port = row.port := by rw [arrived_eq]; rfl

@[simp] theorem arrived_username :
    (arrived taken uuid minute device options row credential).username = row.username := by rw [arrived_eq]; rfl

@[simp] theorem arrived_authType :
    (arrived taken uuid minute device options row credential).authType = row.authType := by rw [arrived_eq]; rfl

@[simp] theorem arrived_credential :
    (arrived taken uuid minute device options row credential).credential = credential := by rw [arrived_eq]; rfl

theorem givesCredential_eq_false {input : SaveConnectionInput} :
    givesCredential input = false ↔ ∀ secret, input.credential = some secret → secret = "" := by
  unfold givesCredential
  cases input.credential <;> simp

theorem exceeds_eq_true {value : Option String} {limit : Nat} :
    exceeds value limit = true ↔ ∃ text, value = some text ∧ limit < text.utf8ByteSize := by
  unfold exceeds
  cases value <;> simp

theorem limits_arrived (short : ¬exceedsLimits (fromProfile row none))
    (copies : taken row.id = true → uuid.utf8ByteSize = 36 ∧ minute.utf8ByteSize = 16) :
    ¬exceedsLimits (arrived taken uuid minute device options row credential) ↔
      (∀ secret, credential = some secret → secret.utf8ByteSize ≤ maxCredentialBytes) ∧
        (taken row.id = true → row.name.utf8ByteSize + 41 ≤ 256) := by
  rw [arrived_eq]
  simp only [exceedsLimits, not_or, not_lt, exceeds_eq_true, not_exists, not_and, fromProfile] at short ⊢
  obtain ⟨id, idSize, name, host, username, note, tags, tagSize, startup, key, certificate, -⟩ := short
  have before : "（同步冲突副本 ".utf8ByteSize = 22 := by decide
  have behind : "）".utf8ByteSize = 3 := by decide
  constructor
  · rintro ⟨-, -, longName, -, -, -, -, -, -, -, -, secret⟩
    refine ⟨secret, fun known => ?_⟩
    rw [if_pos known, String.utf8ByteSize_append, String.utf8ByteSize_append, String.utf8ByteSize_append,
      before, behind, (copies known).2] at longName
    omega
  · rintro ⟨secret, copied⟩
    refine ⟨?_, ?_, ?_, host, username, note, tags, tagSize, startup, ?_, ?_, secret⟩
    · split
      · next known =>
        rintro rfl
        exact absurd (copies known).1 (by decide)
      · exact id
    · split
      · next known =>
        have := (copies known).1
        omega
      · exact idSize
    · split
      · next known =>
        have room := copied known
        rw [String.utf8ByteSize_append, String.utf8ByteSize_append, String.utf8ByteSize_append, before, behind,
          (copies known).2]
        omega
      · exact name
    · intro text path
      split at path
      · exact key text path
      · cases path
    · intro text path
      split at path
      · exact certificate text path
      · cases path

theorem named_arrived (named : trim row.name ≠ "") :
    trim (arrived taken uuid minute device options row credential).name ≠ "" := by
  rw [arrived_eq]
  dsimp only
  split
  · obtain ⟨char, member, kept⟩ := (trim_ne_empty_iff _).mp named
    refine (trim_ne_empty_iff _).mpr ⟨char, ?_, kept⟩
    simp only [String.toList_append, List.mem_append]
    exact .inl (.inl (.inl member))
  · exact named

theorem validateAuthentication_eq_ok {input : SaveConnectionInput} : validateAuthentication input = .ok () ↔
    (input.protocol = "ssh" →
      input.authType ∈ ["password", "privateKey", "sshCertificate", "sshAgent", "fido2Agent"]) ∧
      (input.authType = "privateKey" → input.privateKeyPath.getD "" ≠ "") ∧
      (input.authType = "sshCertificate" →
        input.privateKeyPath.getD "" ≠ "" ∧ input.certificatePath.getD "" ≠ "") := by
  simp only [validateAuthentication, bind_eq_ok, ensure_eq_ok, exists_const]

theorem remote_arrived (rules : RulesRemote (fromProfile row none)) :
    RulesRemote (arrived taken uuid minute device options row credential) ↔
      (options.includePrivateKeyPaths = true ∨ row.authType ∉ keyTypes) := by
  rw [arrived_eq]
  simp only [RulesRemote, validateAuthentication_eq_ok, fromProfile] at rules ⊢
  obtain ⟨⟨ssh, key, certificate⟩, policy, encoding, environment⟩ := rules
  have typed : row.authType ∉ keyTypes ↔ row.authType ≠ "privateKey" ∧ row.authType ≠ "sshCertificate" := by
    simp [keyTypes]
  rw [typed]
  by_cases paths : options.includePrivateKeyPaths = true
  · rw [if_pos paths, if_pos paths]
    exact ⟨fun _ => .inl paths, fun _ => ⟨⟨ssh, key, certificate⟩, policy, encoding, environment⟩⟩
  · rw [if_neg paths, if_neg paths]
    constructor
    · rintro ⟨⟨-, needsKey, needsBoth⟩, -⟩
      exact .inr ⟨fun same => needsKey same rfl, fun same => (needsBoth same).1 rfl⟩
    · rintro (included | ⟨noKey, noCertificate⟩)
      · exact absurd included paths
      · exact ⟨⟨ssh, fun same => absurd same noKey, fun same => absurd same noCertificate⟩, policy, encoding,
          environment⟩

theorem not_mem_keyTypes {authType : String} (plain : authType = "none" ∨ authType = "password") :
    authType ∉ keyTypes := by
  rcases plain with rfl | rfl <;> decide

/-- A connection that one device has stored is accepted on another exactly when it can be read there. -/
theorem validateConnection_arrived (valid : validateConnection source (fromProfile row none) = .ok ())
    (copies : taken row.id = true → uuid.utf8ByteSize = 36 ∧ minute.utf8ByteSize = 16) :
    validateConnection os (arrived taken uuid minute device options row credential) = .ok () ↔
      Readable os taken options row credential := by
  obtain ⟨short, name, host, port, username, protocol, isLocal, isTelnet, isSerial, remote⟩ :=
    validateConnection_eq_ok.mp valid
  have telnet : validateTelnet (arrived taken uuid minute device options row credential) = .ok () ↔
      row.authType = "none" ∧ ∀ secret, credential = some secret → secret = "" := by
    simp only [validateTelnet, bind_eq_ok, ensure_eq_ok, exists_const, givesCredential_eq_false, arrived_authType,
      arrived_credential]
  have serial : validateSerial os (arrived taken uuid minute device options row credential) = .ok () ↔
      validDevicePath os row.host = true ∧ (300 ≤ row.port ∧ row.port ≤ 4000000) ∧
        row.authType = "none" ∧ ∀ secret, credential = some secret → secret = "" := by
    simp only [validateSerial, bind_eq_ok, ensure_eq_ok, exists_const, givesCredential_eq_false, arrived_authType,
      arrived_credential, arrived_host, arrived_port]
  have plainTelnet : row.protocol = "telnet" → row.authType = "none" := fun same => by
    have rules := isTelnet same
    simp only [validateTelnet, bind_eq_ok, ensure_eq_ok, exists_const] at rules
    exact rules.1
  have plainSerial : row.protocol = "serial" →
      (300 ≤ row.port ∧ row.port ≤ 4000000) ∧ row.authType = "none" := fun same => by
    have rules := isSerial same
    simp only [validateSerial, bind_eq_ok, ensure_eq_ok, exists_const] at rules
    exact ⟨rules.2.1, rules.2.2.1⟩
  have plainLocal : row.protocol = "local" → row.authType = "none" ∨ row.authType = "password" := fun same => by
    have rules := isLocal same
    simp only [validateLocal, bind_eq_ok, ensure_eq_ok, exists_const] at rules
    exact rules.2
  have sameLocal : validateLocal (arrived taken uuid minute device options row credential) =
      validateLocal (fromProfile row none) := by
    unfold validateLocal
    rw [arrived_port, arrived_authType]
    rfl
  rw [validateConnection_eq_ok, limits_arrived short copies, arrived_protocol, arrived_port, arrived_host,
    arrived_username, telnet, serial, sameLocal]
  constructor
  · rintro ⟨⟨secret, copied⟩, -, -, -, -, -, -, telnetRule, serialRule, remoteRule⟩
    refine ⟨?_, fun same => (serialRule same).1, fun text held => ⟨secret text held, fun listed => ?_⟩, copied⟩
    · by_cases isLocal : row.protocol = "local"
      · exact .inr (not_mem_keyTypes (plainLocal isLocal))
      · by_cases isTelnet : row.protocol = "telnet"
        · exact .inr (not_mem_keyTypes (.inl (plainTelnet isTelnet)))
        · exact (remote_arrived (remote isLocal isTelnet)).mp (remoteRule isLocal isTelnet)
    · rcases List.mem_pair.mp listed with same | same
      · exact (telnetRule same).2 text held
      · exact (serialRule same).2.2.2 text held
  · rintro ⟨keys, path, secret, copied⟩
    refine ⟨⟨fun text held => (secret text held).1, copied⟩, named_arrived name, host, port, username, protocol,
      isLocal, fun same => ?_, fun same => ?_, fun isLocal isTelnet => ?_⟩
    · exact ⟨plainTelnet same, fun text held => (secret text held).2 (List.mem_pair.mpr (.inl same))⟩
    · exact ⟨path same, (plainSerial same).1, (plainSerial same).2,
        fun text held => (secret text held).2 (List.mem_pair.mpr (.inr same))⟩
    · exact (remote_arrived (remote isLocal isTelnet)).mpr keys

end Arrival

/-- A row has the fields of a connection, apart from those that say where it belongs and what it is called. -/
structure Carries (row : ConnectionRow) (connection : SaveConnectionInput) : Prop where
  protocol : row.protocol = connection.protocol
  host : row.host = connection.host
  port : row.port = connection.port
  username : row.username = connection.username
  authType : row.authType = connection.authType
  privateKeyPath : row.privateKeyPath = connection.privateKeyPath
  certificatePath : row.certificatePath = connection.certificatePath
  hostKeyPolicy : row.hostKeyPolicy = connection.hostKeyPolicy
  note : row.note = connection.note
  tags : row.tags = connection.tags
  encoding : row.encoding = connection.encoding
  startupCommand : row.startupCommand = connection.startupCommand
  environment : row.environment = connection.environment

theorem carries_upsertedRow {now : String} {old : Option ConnectionRow} {input connection : SaveConnectionInput}
    {reference : Option String}
    (same : ∃ id name folderId proxyId credential, input = { connection with
      id := id, name := name, folderId := folderId, proxyId := proxyId, credential := credential }) :
    Carries (upsertedRow now old input reference) connection := by
  obtain ⟨id, name, folderId, proxyId, credential, rfl⟩ := same
  cases old <;> constructor <;> rfl

end Client

end CNShell
