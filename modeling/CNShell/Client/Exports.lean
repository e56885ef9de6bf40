import CNShell.Client.Arrival

/-! What is written into backups and sync packages, and what is read of a file that was written. -/

namespace CNShell

namespace Client

structure BackupLibrary.Sound (library : BackupLibrary) : Prop where
  opens : ∀ key nonce clear sealed, library.encrypt key nonce clear = some sealed →
    library.decrypt key nonce sealed = some clear
  tag : ∀ key nonce clear sealed, library.encrypt key nonce clear = some sealed → sealed.length = clear.length + 16
  connections : ∀ connections json, library.connectionsJson connections = .ok json →
    library.parseConnections json = some connections
  envelope : ∀ envelope json, library.envelopeJson envelope = .ok json → library.parseEnvelope json = .ok envelope
  /-- Base64 needs no escapes, and there are 105 bytes around it and the name of the cipher. -/
  envelope_length : ∀ salt nonce sealed json, library.envelopeJson (.encrypted 1 backupKdf
      (encodeBase64 salt) (encodeBase64 nonce) (encodeBase64 sealed)) = .ok json →
    json.length = 105 + backupKdf.utf8ByteSize + (encodeBase64 salt).utf8ByteSize +
      (encodeBase64 nonce).utf8ByteSize + (encodeBase64 sealed).utf8ByteSize

/-- How many bytes the JSON of the connections may have for the file of a package not to be too long. -/
def maxJsonBytes : Nat := 39321458

section Sealed

variable {library : BackupLibrary} {draws : BackupDraws} {passphrase refusal : String}
variable {connections : List SaveConnectionInput} {bytes : List UInt8}

theorem decodeBase64_encodeBase64 (bytes : List UInt8) : decodeBase64 (encodeBase64 bytes) = some bytes := by
  rw [decodeBase64, encodeBase64, String.toList_ofList, Base64.decodePadded_encodePadded]

theorem length_sealBackup (sound : library.Sound)
    (written : sealBackup library draws passphrase refusal connections = .ok bytes) :
    ∃ json, library.connectionsJson connections = .ok json ∧
      (bytes.length ≤ maxBackupBytes ↔ json.length ≤ maxJsonBytes) := by
  simp only [sealBackup, bind_eq_ok, mapError_eq_ok, required_eq_ok] at written
  obtain ⟨json, rendered, key, -, sealed, encrypted, enveloped⟩ := written
  refine ⟨json, rendered, ?_⟩
  have kdf : backupKdf.utf8ByteSize = 20 := by decide
  rw [sound.envelope_length _ _ _ _ enveloped, kdf, encodeBase64, encodeBase64, encodeBase64,
    Base64.utf8ByteSize_encodePadded, Base64.utf8ByteSize_encodePadded, Base64.utf8ByteSize_encodePadded,
    draws.salt_length, draws.nonce_length, sound.tag _ _ _ _ encrypted, maxBackupBytes, maxJsonBytes]
  omega

theorem ne_empty_of_long {passphrase : String} (long : 8 ≤ passphrase.utf8ByteSize) : passphrase ≠ "" := by
  rintro rfl
  exact absurd long (by decide)

theorem decodeBackup_sealBackup (sound : library.Sound) (given : passphrase ≠ "")
    (written : sealBackup library draws passphrase refusal connections = .ok bytes) :
    decodeBackup library (some passphrase) bytes =
      if bytes.length ≤ maxBackupBytes then .ok connections
      else .error (.validation "备份文件不能超过 50 MB") := by
  simp only [sealBackup, bind_eq_ok, mapError_eq_ok, required_eq_ok] at written
  obtain ⟨json, rendered, key, derived, sealed, encrypted, enveloped⟩ := written
  have opened : openBackup library (some passphrase) (.encrypted 1 backupKdf (encodeBase64 draws.salt)
      (encodeBase64 draws.nonce) (encodeBase64 sealed)) = .ok (connections, true) := by
    simp only [openBackup, bind_eq_ok, ensure_eq_ok, required_eq_ok, mapError_eq_ok, pure_eq_ok,
      decodeBase64_encodeBase64, exists_const]
    exact ⟨trivial, passphrase, by simpa using given, draws.salt, rfl, draws.nonce, rfl, draws.nonce_length, sealed, rfl,
      key, derived, json, sound.opens _ _ _ _ encrypted, connections, sound.connections _ _ rendered, rfl⟩
  unfold decodeBackup
  split
  · next fits =>
    simp only [bind_eq_ok, ensure_eq_ok, mapError_eq_ok, pure_eq_ok, exists_const]
    exact ⟨fits, _, sound.envelope _ _ enveloped, _, opened, (fun plain => by cases plain), rfl⟩
  · next long =>
    rw [ensure_of_not long]
    rfl

end Sealed

section Export

variable {os : TargetOs} {faults : Faults} {desktop next : DesktopState} {ids : List String}

variable {found : List (String × String)} {position : Nat}

theorem gatherCredentials_ok {moved : List (String × String)}
    (ran : gatherCredentials faults desktop position ids = .ok (found, moved)) (id : String) :
    found.lookup id = if id ∈ ids then desktop.credential id .macos else none := by
  induction ids generalizing position found moved with
  | nil =>
    cases ran
    rfl
  | cons first rest ih =>
    unfold gatherCredentials at ran
    cases vault : desktop.vault first with
    | some secret =>
      simp only [vault, bind_eq_ok, pure_eq_ok, Prod.exists, Prod.mk.injEq] at ran
      obtain ⟨others, _, further, rfl, -⟩ := ran
      by_cases same : id = first
      · subst same
        simp [DesktopState.credential, vault]
      · rw [List.lookup_cons, beq_eq_false_iff_ne.mpr same]
        simp [same, ih further]
    | none =>
      simp only [vault, bind_eq_ok, Prod.exists] at ran
      obtain ⟨-, -, others, _, further, made⟩ := ran
      have later := ih further
      cases older : desktop.secrets first with
      | some secret =>
        simp only [older, pure_eq_ok, Prod.mk.injEq] at made
        obtain ⟨rfl, -⟩ := made
        by_cases same : id = first
        · subst same
          simp [DesktopState.credential, vault, older]
        · rw [List.lookup_cons, beq_eq_false_iff_ne.mpr same]
          simp [same, later]
      | none =>
        simp only [older, pure_eq_ok, Prod.mk.injEq] at made
        obtain ⟨rfl, -⟩ := made
        rw [later]
        by_cases same : id = first
        · subst same
          simp [DesktopState.credential, vault, older]
        · simp [same]

theorem loadEach_ok (ran : loadEach os faults position ids desktop = (.ok found, next)) (id : String) :
    found.lookup id = if id ∈ ids then desktop.credential id os else none := by
  induction ids generalizing position found desktop next with
  | nil =>
    cases ran
    rfl
  | cons first rest ih =>
    obtain ⟨secret, middle, read, ran⟩ := Section.bind_eq_ok.mp ran
    obtain ⟨others, last, further, made⟩ := Section.bind_eq_ok.mp ran
    obtain ⟨rfl, same, -⟩ := loadCredential_ok read
    have later := ih further
    -- Reading a credential leaves all of them as they are.
    have kept : middle.credential id os = desktop.credential id os :=
      congrFun (congrArg Stores.credentials same) id
    rw [kept] at later
    cases held : desktop.credential first os with
    | some secret =>
      rw [held] at made
      cases made
      by_cases equal : id = first
      · subst equal
        simp [held]
      · rw [List.lookup_cons, beq_eq_false_iff_ne.mpr equal]
        simp [equal, later]
    | none =>
      rw [held] at made
      cases made
      rw [later]
      by_cases equal : id = first
      · subst equal
        simp [held]
      · simp [equal]

theorem loadCredentials_ok (ran : loadCredentials os faults ids desktop = (.ok found, next)) (id : String) :
    found.lookup id = if id ∈ ids then desktop.credential id os else none := by
  cases os with
  | windows | other => exact loadEach_ok ran id
  | macos =>
    simp only [loadCredentials] at ran
    split at ran
    · next none =>
      cases ran
      simp [none]
    · obtain ⟨-, ran⟩ := reach_bind_ok.mp ran
      rw [Section.get_bind_apply] at ran
      obtain ⟨⟨gathered, moved⟩, gather, ran⟩ := Section.check_bind_eq_ok.mp ran
      have same : gathered = found := by
        split at ran
        · cases ran
          rfl
        · obtain ⟨-, ran⟩ := reach_bind_ok.mp ran
          rw [Section.modify_bind_apply] at ran
          cases ran
          rfl
      rw [← same]
      exact gatherCredentials_ok gather id

def exportedCredential (os : TargetOs) (desktop : DesktopState) (includeCredentials : Bool) (row : ConnectionRow) :
    Option String :=
  if includeCredentials = true ∧ row.authType ∉ agentTypes then desktop.credential row.id os else none

variable {rows : List ConnectionRow} {includeCredentials : Bool} {connections : List SaveConnectionInput}

theorem exportConnections_ok (distinct : (rows.map ConnectionRow.id).Nodup)
    (ran : exportConnections os faults rows includeCredentials desktop = (.ok connections, next)) :
    connections = rows.map fun row => fromProfile row (exportedCredential os desktop includeCredentials row) := by
  obtain ⟨found, middle, read, made⟩ := Section.bind_eq_ok.mp ran
  cases made
  refine List.map_congr_left fun row member => ?_
  rw [loadCredentials_ok read]
  have asked : row.id ∈ credentialIds rows includeCredentials ↔
      includeCredentials = true ∧ row.authType ∉ agentTypes := by
    unfold credentialIds
    split
    · next included =>
      simp only [included, true_and, List.mem_map, List.mem_filter, decide_eq_true_eq]
      constructor
      · rintro ⟨other, ⟨listed, asks⟩, same⟩
        rwa [← List.inj_on_of_nodup_map distinct listed member same]
      · intro asks
        exact ⟨row, ⟨member, asks⟩, rfl⟩
    · next excluded => simp [excluded]
  unfold exportedCredential
  simp only [asked]

def packed (os : TargetOs) (desktop : DesktopState) (options : SyncOptions) (rows : List ConnectionRow) :
    List SaveConnectionInput :=
  if options.includeHosts = true then
    rows.map fun row => withoutKeyPaths options
      (fromProfile row (exportedCredential os desktop options.includeCredentials row))
  else []

theorem placePackage_syncFile {folder : SyncFolder} {stamp : String} {bytes : List UInt8} :
    (placePackage folder stamp bytes).1 syncFile = some bytes := by
  unfold placePackage
  cases folder syncFile with
  | none => simp
  | some old => by_cases same : old = bytes <;> simp [same]

theorem syncWrite_ok {library : BackupLibrary} {draws : BackupDraws} {folder : Option SyncFolder}
    {stamp passphrase : String} {options : SyncOptions} {result : SyncResult} {written : SyncFolder}
    (distinct : (rows.map ConnectionRow.id).Nodup)
    (ran : syncWrite library os faults draws rows folder stamp passphrase options desktop =
      (.ok (result, written), next)) :
    8 ≤ passphrase.utf8ByteSize ∧ result.connectionCount = (packed os desktop options rows).length ∧
      ∃ bytes, written syncFile = some bytes ∧
        sealBackup library draws passphrase "同步加密失败" (packed os desktop options rows) = .ok bytes := by
  obtain ⟨u, long, ran⟩ := Section.check_bind_eq_ok.mp ran
  obtain ⟨old, -, ran⟩ := Section.check_bind_eq_ok.mp ran
  obtain ⟨connections, middle, listed, ran⟩ := Section.bind_eq_ok.mp ran
  obtain ⟨bytes, sealed, made⟩ := Section.check_bind_eq_ok.mp ran
  have same : connections = packed os desktop options rows := by
    unfold syncConnections at listed
    unfold packed
    split at listed
    · next included =>
      obtain ⟨-, listed⟩ := reach_bind_ok.mp listed
      obtain ⟨exported, last, ran, made⟩ := Section.bind_eq_ok.mp listed
      cases made
      rw [exportConnections_ok distinct ran, List.map_map, if_pos included]
      rfl
    · next excluded =>
      cases listed
      rw [if_neg excluded]
  cases made
  exact ⟨ensure_eq_ok.mp long, by rw [same], bytes, placePackage_syncFile, same ▸ sealed⟩

theorem exportProfiles_ok {library : BackupLibrary} {draws : BackupDraws} {passphrase : String} {bytes : List UInt8}
    (distinct : (rows.map ConnectionRow.id).Nodup)
    (ran : exportProfiles library os faults draws rows true (some passphrase) none desktop = (.ok bytes, next)) :
    8 ≤ passphrase.utf8ByteSize ∧
      sealBackup library draws passphrase "加密导出失败"
        (rows.map fun row => fromProfile row (exportedCredential os desktop true row)) = .ok bytes := by
  obtain ⟨u, long, ran⟩ := Section.check_bind_eq_ok.mp ran
  obtain ⟨-, ran⟩ := reach_bind_ok.mp ran
  obtain ⟨connections, middle, listed, ran⟩ := Section.bind_eq_ok.mp ran
  obtain ⟨u, -, made⟩ := Section.check_bind_eq_ok.mp ran
  have all : (rows.filter fun profile => decide ((none : Option String) = none ∨ none = some profile.id)) = rows :=
    List.filter_eq_self.mpr fun _ _ => by simp
  rw [all] at listed
  rw [exportConnections_ok distinct listed] at made
  refine ⟨by simpa using ensure_eq_ok.mp long, ?_⟩
  exact (Section.check_eq_ok.mp made).1

end Export

deriving instance DecidableEq for SaveConnectionInput
deriving instance DecidableEq for BackupEnvelope

namespace Demo

/-- An optional text in JSON, if it needs no escapes. -/
def optionText : Option String → String
  | none => "null"
  | some text => "\"" ++ text ++ "\""

/-- The JSON of a connection without tags and variables whose texts need no escapes. -/
def connectionJson (connection : SaveConnectionInput) : String :=
  "\x7b\"id\":\"" ++ connection.id ++ "\",\"folderId\":" ++ optionText connection.folderId ++ ",\"protocol\":\"" ++
    connection.protocol ++ "\",\"name\":\"" ++ connection.name ++ "\",\"host\":\"" ++ connection.host ++
    "\",\"port\":" ++ toString connection.port ++ ",\"username\":\"" ++ connection.username ++
    "\",\"authType\":\"" ++ connection.authType ++ "\",\"privateKeyPath\":" ++
    optionText connection.privateKeyPath ++ ",\"certificatePath\":" ++ optionText connection.certificatePath ++
    ",\"hostKeyPolicy\":\"" ++ connection.hostKeyPolicy ++ "\",\"note\":\"" ++ connection.note ++
    "\",\"tags\":[],\"encoding\":\"" ++ connection.encoding ++ "\",\"startupCommand\":" ++
    optionText connection.startupCommand ++ ",\"proxyId\":" ++ optionText connection.proxyId ++
    ",\"environment\":\x7b\x7d,\"credential\":" ++ optionText connection.credential ++ "\x7d"

def clearText (connection : SaveConnectionInput) : List UInt8 := utf8 ("[" ++ connectionJson connection ++ "]")

def backupText (salt nonce ciphertext : String) : String :=
  "\x7b\n  \"format\": \"encrypted\",\n  \"version\": 1,\n  \"kdf\": \"" ++ backupKdf ++ "\",\n  \"salt\": \"" ++ salt ++
    "\",\n  \"nonce\": \"" ++ nonce ++ "\",\n  \"ciphertext\": \"" ++ ciphertext ++ "\"\n\x7d"

def backupDraws : BackupDraws where
  salt := List.replicate 16 1
  nonce := List.replicate 12 2
  salt_length := rfl
  nonce_length := rfl

def envelopeOf (clear : List UInt8) : BackupEnvelope :=
  .encrypted 1 backupKdf (encodeBase64 backupDraws.salt) (encodeBase64 backupDraws.nonce)
    (encodeBase64 (clear ++ List.replicate 16 0))

def envelopeBytes (clear : List UInt8) : List UInt8 :=
  utf8 (backupText (encodeBase64 backupDraws.salt) (encodeBase64 backupDraws.nonce)
    (encodeBase64 (clear ++ List.replicate 16 0)))

/-- Stand-ins for the libraries, with the JSON of one list of connections; they refuse all others. -/
def backupLibrary (connections : List SaveConnectionInput) (clear : List UInt8) : BackupLibrary where
  deriveKey passphrase _ := .ok (utf8 passphrase)
  encrypt _ _ text := some (text ++ List.replicate 16 0)
  decrypt _ _ sealed := some (sealed.take (sealed.length - 16))
  connectionsJson given := if given = connections then .ok clear else .error "unknown connections"
  parseConnections json := if json = clear then some connections else none
  envelopeJson given := if given = envelopeOf clear then .ok (envelopeBytes clear) else .error "unknown envelope"
  parseEnvelope json :=
    if json = envelopeBytes clear then .ok (envelopeOf clear) else .error "expected value at line 1 column 1"

theorem backupLibrary_sound (connections : List SaveConnectionInput) (clear : List UInt8) :
    (backupLibrary connections clear).Sound where
  opens _ _ text sealed done := by
    cases done
    simp [backupLibrary]
  tag _ _ text sealed done := by
    cases done
    simp
  connections given json done := by
    simp only [backupLibrary] at done ⊢
    split at done
    · next same =>
      cases done
      rw [if_pos rfl, same]
    · cases done
  envelope given json done := by
    simp only [backupLibrary] at done ⊢
    split at done
    · next same =>
      cases done
      rw [if_pos rfl, same]
    · cases done
  envelope_length salt nonce sealed json done := by
    simp only [backupLibrary] at done
    split at done
    · next same =>
      cases done
      simp only [envelopeOf, BackupEnvelope.encrypted.injEq, true_and] at same
      obtain ⟨salted, nonced, sealed⟩ := same
      rw [salted, nonced, sealed, envelopeBytes, length_utf8]
      have sizes : "\x7b\n  \"format\": \"encrypted\",\n  \"version\": 1,\n  \"kdf\": \"".utf8ByteSize = 53 ∧
          "\",\n  \"salt\": \"".utf8ByteSize = 14 ∧ "\",\n  \"nonce\": \"".utf8ByteSize = 15 ∧
          "\",\n  \"ciphertext\": \"".utf8ByteSize = 20 ∧ "\"\n\x7d".utf8ByteSize = 3 := by decide
      obtain ⟨head, saltKey, nonceKey, textKey, tail⟩ := sizes
      unfold backupText
      rw [String.utf8ByteSize_append, String.utf8ByteSize_append, String.utf8ByteSize_append,
        String.utf8ByteSize_append, String.utf8ByteSize_append, String.utf8ByteSize_append,
        String.utf8ByteSize_append, String.utf8ByteSize_append, head, saltKey, nonceKey, textKey, tail]
      omega
    · cases done


theorem sealBackup_backupLibrary {connections : List SaveConnectionInput} {clear : List UInt8}
    {passphrase refusal : String} :
    sealBackup (backupLibrary connections clear) backupDraws passphrase refusal connections =
      .ok (envelopeBytes clear) := by
  refine bind_eq_ok.mpr ⟨clear, mapError_eq_ok.mpr (if_pos rfl), bind_eq_ok.mpr ⟨_, rfl, bind_eq_ok.mpr
    ⟨_, rfl, mapError_eq_ok.mpr (if_pos rfl)⟩⟩⟩

def sshRow (authType : String) (privateKeyPath : Option String) : ConnectionRow where
  id := "home"
  folderId := none
  protocol := "ssh"
  name := "Home"
  host := "home.example"
  port := 22
  username := "me"
  authType := authType
  credentialRef := none
  privateKeyPath := privateKeyPath
  certificatePath := none
  hostKeyPolicy := "strict"
  note := ""
  tags := []
  encoding := "UTF-8"
  startupCommand := none
  proxyId := none
  environment := []
  createdAt := "2026-01-01T00:00:00+00:00"
  updatedAt := "2026-01-01T00:00:00+00:00"
  lastConnectedAt := none
  deletedAt := none

/-- A desktop without connections. -/
def unused : DesktopState where
  connections _ := none
  folders _ := false
  proxies _ := false
  workspaceState _ := none
  vault _ := none
  secrets _ := none
  bookmarks _ := none
  certificateBookmarks _ := none
  rdpDriveBookmarks _ := none

def owning (row : ConnectionRow) (secret : Option String) : DesktopState :=
  { unused with
    connections := fun id => if id = row.id then some row else none
    secrets := fun id => if id = row.id then secret else none }

theorem lists_owning {row : ConnectionRow} (alive : row.deletedAt = none) (secret : Option String) :
    (owning row secret).Lists [row] where
  distinct := List.nodup_singleton _
  rows other := by
    simp only [List.mem_singleton, DesktopState.live, owning]
    constructor
    · rintro rfl
      simp [alive]
    · intro found
      split at found
      · exact (Option.some.inj (Option.filter_eq_some_iff.mp found).1).symm
      · cases found

/-- A system on which connections are read. -/
def reader : HostSystem where
  os := .other
  isFile _ := true
  create path := .ok path
  inspect _ := .ok ()
  parseRdp _ := .error (.storage "expected value at line 1 column 1")
  renderRdp _ := ""

def passwordRow : ConnectionRow := sshRow "password" none

end Demo

end Client

end CNShell
