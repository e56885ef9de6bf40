import CNShell.Client.Demo
import CNShell.Client.Roster
import CNShell.Client.Share

/-! What a device exports as a share, every recipient that may manage connections can preview. -/

namespace CNShell

namespace Client

/-- What the encodings, the ciphers and the signatures of a library promise. -/
structure ShareLibrary.Sound (library : ShareLibrary) : Prop where
  base64 : ∀ bytes, library.decodeBase64Url (library.encodeBase64Url bytes) = some bytes
  publicKey_length : ∀ secret, secret.length = 32 → (library.publicKey secret).length = 32
  agrees : ∀ mine theirs, library.sharedSecret mine (library.publicKey theirs) =
    library.sharedSecret theirs (library.publicKey mine)
  opens : ∀ key nonce aad text sealed, library.encrypt key nonce aad text = some sealed →
    library.decrypt key nonce aad sealed = some text
  tag : ∀ key nonce aad text sealed, library.encrypt key nonce aad text = some sealed →
    sealed.length = text.length + 16
  signature_length : ∀ secret payload, (library.sign secret payload).length = 64
  connection : ∀ connection json, library.connectionJson connection = .ok json →
    library.parseConnection json = .ok connection
  envelope : ∀ envelope json, library.envelopeJson envelope = .ok json →
    json ≠ [] ∧ library.parseEnvelope json = .ok envelope

def ShareLibrary.Signs (library : ShareLibrary) (secret signingPublic : List UInt8) : Prop :=
  library.validVerifyingKey signingPublic = true ∧
    ∀ payload, library.verifies signingPublic payload (library.sign secret payload) = true

/-- Two rows of one device, from the databases of two computers. -/
structure SameDevice (first second : TeamDevice) : Prop where
  id : first.id = second.id
  memberId : first.memberId = second.memberId
  encryptionPublicKey : first.encryptionPublicKey = second.encryptionPublicKey
  signingPublicKey : first.signingPublicKey = second.signingPublicKey
  fingerprint : first.fingerprint = second.fingerprint

/--
A computer that is to preview a share: the device is one of its recipients and still active, like
the member that has it and the sender, and the key epoch is not older than the sender's.
-/
structure Receives (library : ShareLibrary) (before db : LocalDb) (keychain : Keychain)
    (input : TeamShareExportInput) (origin workspace : TeamWorkspace) (member : TeamMember)
    (device : TeamDevice) : Prop where
  originRow : before.teamWorkspaces.find? input.workspaceId = some origin
  workspaceRow : db.teamWorkspaces.find? input.workspaceId = some workspace
  epoch : origin.keyEpoch ≤ workspace.keyEpoch
  memberRow : db.teamMembers.find? workspace.localMemberId = some member
  memberActive : member.workspaceId = input.workspaceId ∧ member.status = .active
  deviceRow : db.teamDevices.find? device.id = some device
  deviceActive : device.workspaceId = input.workspaceId ∧ device.status = .active
  own : workspace.localDeviceId = some device.id ∧ device.memberId = workspace.localMemberId ∧ device.isLocal = true
  named : device.id ∈ input.recipientDeviceIds
  listed : ∀ row, before.teamDevices.find? device.id = some row → SameDevice row device
  secret : ∃ secret, keychain device.id "x25519" = .ok secret ∧
    device.encryptionPublicKey = encodeKey library.toVault "x25519" (library.publicKey secret)
  sender : ∀ row, origin.localDeviceId = some row.id → before.teamDevices.find? row.id = some row →
    ∃ held, teamDevice input.workspaceId row.id db = some held ∧ SameDevice row held

section Keys

variable {library : ShareLibrary}

theorem decodeKey_encodeKey (sound : library.Sound) {marker : String} {bytes : List UInt8}
    (length : bytes.length = 32) :
    decodeKey library.toVault (encodeKey library.toVault marker bytes) marker = .ok bytes := by
  unfold decodeKey encodeKey
  rw [stripPrefix_append]
  simp [sound.base64, length]

variable {label : String}

theorem decodeNonce_encode (sound : library.Sound) {nonce : List UInt8} (length : nonce.length = 12) :
    decodeNonce library.toVault (library.encodeBase64Url nonce) label = .ok nonce := by
  unfold decodeNonce
  simp [sound.base64, length]

theorem decodeSignature_encode (sound : library.Sound) {secret payload : List UInt8} :
    decodeSignature library.toVault
      (some ("ed25519:" ++ library.encodeBase64Url (library.sign secret payload))) label =
      .ok (library.sign secret payload) := by
  unfold decodeSignature
  simp [sound.base64, sound.signature_length]

theorem validatedDeviceKeys_same {first second : TeamDevice} (same : SameDevice first second) :
    validatedDeviceKeys library.toVault second = validatedDeviceKeys library.toVault first := by
  unfold validatedDeviceKeys
  rw [same.id, same.encryptionPublicKey, same.signingPublicKey, same.fingerprint]

theorem unwrapKey_wrapKey (sound : library.Sound) {secret contentKey nonce wrapped : List UInt8}
    {shareId deviceId : String} (length : contentKey.length = 32)
    (done : wrapKey library secret shareId deviceId contentKey nonce = .ok wrapped) :
    unwrapKey library secret shareId deviceId wrapped nonce = .ok contentKey := by
  simp only [wrapKey, bind_eq_ok, required_eq_ok] at done
  obtain ⟨wrappingKey, derived, wrapped⟩ := done
  unfold unwrapKey
  rw [derived]
  simp [sound.opens _ _ _ _ _ wrapped, length]

end Keys

section Sealing

variable {library : ShareLibrary} {draws : ShareDraws library} {keychain : Keychain}
variable {input : TeamShareExportInput} {authorization : TeamAuthorization}
variable {senderDeviceId : String} {devices : List TeamDevice} {plaintext : List UInt8}
variable {envelope : ShareEnvelope}

theorem sealShare_ok (done : sealShare library draws keychain input authorization senderDeviceId
      devices plaintext = .ok envelope) :
    ∃ ciphertext recipients secret payload,
      library.encrypt draws.contentKey draws.payloadNonce
        (shareAad input.workspaceId draws.shareId authorization.keyEpoch) plaintext = some ciphertext ∧
      devices.mapM (shareRecipient library draws) = .ok recipients ∧
      keychain senderDeviceId "ed25519" = .ok secret ∧
      envelopeSigningPayload library envelope = .ok payload ∧
      envelope =
        { schemaVersion := 1
          shareId := draws.shareId
          workspaceId := input.workspaceId
          keyEpoch := authorization.keyEpoch
          senderMemberId := authorization.memberId
          senderDeviceId
          ephemeralPublicKey := encodeKey library.toVault "x25519"
            (library.publicKey draws.ephemeralSecret)
          payloadNonce := library.encodeBase64Url draws.payloadNonce
          ciphertext := library.encodeBase64Url ciphertext
          recipients
          signature := some ("ed25519:" ++ library.encodeBase64Url (library.sign secret payload)) } := by
  simp only [sealShare, signEnvelope, bind_eq_ok, required_eq_ok, pure_eq_ok] at done
  obtain ⟨ciphertext, encrypted, recipients, wrapped, secret, stored, payload, signed, rfl⟩ := done
  exact ⟨ciphertext, recipients, secret, payload, encrypted, wrapped, stored, signed, rfl⟩

variable {recipient : ShareRecipient}

theorem shareRecipient_names {device : TeamDevice} (done : shareRecipient library draws device = .ok recipient) :
    recipient.deviceId = device.id ∧ recipient.memberId = device.memberId ∧
      ∃ keys, validatedDeviceKeys library.toVault device = .ok keys := by
  simp only [shareRecipient, bind_eq_ok, pure_eq_ok] at done
  obtain ⟨keys, valid, -, -, _, -, rfl⟩ := done
  exact ⟨rfl, rfl, keys, valid⟩

variable {secret : List UInt8}

theorem shareRecipient_ok (sound : library.Sound) {device : TeamDevice}
    (done : shareRecipient library draws device = .ok recipient) (own : device.encryptionPublicKey =
      encodeKey library.toVault "x25519" (library.publicKey secret)) :
    ∃ wrapped, library.contributory (library.sharedSecret draws.ephemeralSecret
        (library.publicKey secret)) = true ∧
      recipient.nonce = library.encodeBase64Url (draws.nonce device.id) ∧
      recipient.wrappedKey = library.encodeBase64Url wrapped ∧
      unwrapKey library (library.sharedSecret draws.ephemeralSecret (library.publicKey secret))
        draws.shareId device.id wrapped (draws.nonce device.id) = .ok draws.contentKey := by
  simp only [shareRecipient, bind_eq_ok, ensure_eq_ok, pure_eq_ok] at done
  obtain ⟨⟨encryption, signing⟩, keys, -, contributes, wrapped, wraps, rfl⟩ := done
  -- The key that was decoded is the one that belongs to the secret.
  have same : encryption = library.publicKey secret := by
    simp only [validatedDeviceKeys, decodeKey, own, encodeKey, stripPrefix_append, required_some,
      ok_bind, sound.base64, bind_eq_ok, ensure_eq_ok, pure_eq_ok, Prod.mk.injEq] at keys
    obtain ⟨_, ⟨-, -, rfl⟩, -, -, -, -, rfl, -⟩ := keys
    rfl
  subst same
  exact ⟨wrapped, contributes, rfl, rfl, unwrapKey_wrapKey sound draws.contentKey_length wraps⟩

theorem openEnvelope_sealShare (sound : library.Sound)
    (done : sealShare library draws keychain input authorization senderDeviceId devices plaintext =
      .ok envelope) {connection : SharedConnection} (parses : library.parseConnection plaintext = .ok connection)
    (short : plaintext.length ≤ maxSharePlaintextBytes) {own : Keychain} {device : TeamDevice}
    (wrapped : shareRecipient library draws device = .ok recipient) (stored : own device.id "x25519" = .ok secret)
    (keys : device.encryptionPublicKey = encodeKey library.toVault "x25519" (library.publicKey secret)) :
    openEnvelope library own device.id recipient envelope = .ok connection := by
  obtain ⟨ciphertext, recipients, signing, payload, encrypted, -, -, -, rfl⟩ := sealShare_ok done
  obtain ⟨wrap, contributes, nonce, key, unwraps⟩ := shareRecipient_ok sound wrapped keys
  have ephemeral : decodeKey library.toVault (encodeKey library.toVault "x25519"
      (library.publicKey draws.ephemeralSecret)) "x25519" =
      .ok (library.publicKey draws.ephemeralSecret) :=
    decodeKey_encodeKey sound (sound.publicKey_length _ draws.ephemeralSecret_length)
  have bounded : ciphertext.length ≤ maxSharePlaintextBytes + 16 := by
    rw [sound.tag _ _ _ _ _ encrypted]
    omega
  -- Both sides derive the same secret.
  have agreed := sound.agrees secret draws.ephemeralSecret
  simp only [openEnvelope, ephemeral, stored, ok_bind, agreed, ensure_of contributes, key, nonce,
    sound.base64, required_some, decodeNonce_encode sound (draws.nonce_length _), unwraps,
    decodeNonce_encode sound draws.payloadNonce_length, ensure_of bounded,
    sound.opens _ _ _ _ _ encrypted, parses]
  rfl

theorem verifyEnvelope_sealShare (sound : library.Sound)
    (done : sealShare library draws keychain input authorization senderDeviceId devices plaintext =
      .ok envelope) {sender held : TeamDevice} {keys : List UInt8 × List UInt8}
    (validated : validatedDeviceKeys library.toVault sender = .ok keys)
    (signs : ∀ secret, keychain senderDeviceId "ed25519" = .ok secret → library.Signs secret keys.2)
    {db : LocalDb} (known : teamDevice input.workspaceId senderDeviceId db = some held)
    (member : held.memberId = authorization.memberId) (same : SameDevice sender held) :
    verifyEnvelope library envelope db = .ok () := by
  obtain ⟨ciphertext, recipients, secret, payload, -, -, stored, signed, rfl⟩ := sealShare_ok done
  obtain ⟨valid, verifies⟩ := signs secret stored
  have found : ((teamDevice input.workspaceId senderDeviceId db).filter fun device =>
      device.memberId = authorization.memberId) = some held := by
    simp [known, member]
  have checked : validatedDeviceKeys library.toVault held = .ok keys :=
    (validatedDeviceKeys_same same).trans validated
  simp only [verifyEnvelope, found, required_some, ok_bind, checked, ensure_of valid,
    decodeSignature_encode sound, signed, ensure_of (verifies payload)]

theorem validateEnvelope_sealShare
    (done : sealShare library draws keychain input authorization senderDeviceId devices plaintext =
      .ok envelope) (parses : library.parsesUuid input.workspaceId = true)
    (epoch : 1 ≤ authorization.keyEpoch) (some' : devices ≠ []) (few : devices.length ≤ maxRecipients) :
    validateEnvelope library envelope = .ok () := by
  obtain ⟨ciphertext, recipients, secret, payload, -, wrapped, -, -, rfl⟩ := sealShare_ok done
  -- There are as many recipients as devices.
  have many := (mapM_eq_ok.mp wrapped).length_eq
  refine ensure_of ⟨rfl, draws.parses, parses, epoch, fun none => some' ?_, many ▸ few⟩ _
  have none : recipients = [] := none
  exact List.length_eq_zero_iff.mp (by rw [many, none, List.length_nil])

end Sealing

/--
A computer that exports a share of a stored connection: the connection and its credential were
stored after they were validated, and the keychain holds the signing key of the local device.
-/
structure Sends (library : ShareLibrary) (os : TargetOs) (desk : ShareDesk) (before : LocalDb)
    (input : TeamShareExportInput) (origin : TeamWorkspace) (saved : SaveConnectionInput) : Prop where
  valid : validateConnection os saved = .ok ()
  stored : desk.connection input.connectionId = .ok saved.profile
  credential : ∀ secret, desk.credential saved.id = .ok (some secret) →
    ∃ other, validateConnection os other = .ok () ∧ other.credential = some secret
  epoch : 1 ≤ origin.keyEpoch
  signs : ∀ sender keys secret, origin.localDeviceId = some sender.id →
    before.teamDevices.find? sender.id = some sender →
    validatedDeviceKeys library.toVault sender = .ok keys →
    desk.keychain sender.id "ed25519" = .ok secret → library.Signs secret keys.2

section Preview

variable {library : ShareLibrary} {credentialStoreName : String} {draws : ShareDraws library}
variable {desk : ShareDesk} {before after db : LocalDb} {input : TeamShareExportInput}
variable {payload : List UInt8} {os : TargetOs} {saved : SaveConnectionInput}
variable {origin workspace : TeamWorkspace} {member : TeamMember} {device : TeamDevice}
variable {keychain : Keychain} {file : InputFile}

theorem validateSharedConnection_sharedConnection (valid : validateConnection os saved = .ok ())
    (shareable : checkShareable saved.profile = .ok ()) {credential : Option String}
    (short : ∀ secret ∈ credential, secret.utf8ByteSize ≤ maxCredentialBytes) :
    validateSharedConnection (sharedConnection saved.profile credential) = .ok () := by
  obtain ⟨protocol, -, -, -, authType⟩ := ensure_eq_ok.mp shareable
  obtain ⟨name, host, port, username, tags, encoding⟩ :=
    validateConnection_shareable valid (by simpa [SaveConnectionInput.profile] using protocol)
  refine ensure_of ⟨protocol, name.1, name.2, host.1, host.2, ?_, port, ?_, tags.2, ?_, authType, short⟩ _
  · exact Nat.le_trans username (by decide)
  · exact Nat.le_trans tags.1 (by decide)
  · exact Nat.le_trans (Nat.le_of_eq (congrArg String.utf8ByteSize encoding)) (by decide)

variable {workspaceId : String}

theorem authorize_eq_ok {platform : Platform} {permission : TeamPermission} {authorization : TeamAuthorization} :
    authorize platform workspaceId permission db = .ok authorization ↔
      ∃ workspace member, localMember platform workspaceId db = .ok (workspace, member) ∧
        permission ∈ permissions member.role ∧
        ⟨workspace.localMemberId, member.role, workspace.keyEpoch, workspace.localDeviceId⟩ = authorization := by
  simp only [authorize, requirePermission, bind_eq_ok, ensure_eq_ok, pure_eq_ok, Prod.exists, exists_const]

theorem localDevice_eq_ok {authorization : TeamAuthorization} {device : TeamDevice} :
    localDevice library workspaceId authorization db = .ok device ↔
      authorization.localDeviceId = some device.id ∧
        db.teamDevices.find? device.id = some device ∧ device.workspaceId = workspaceId ∧
        device.memberId = authorization.memberId ∧ device.isLocal = true ∧
        device.status = .active ∧ ∃ keys, validatedDeviceKeys library.toVault device = .ok keys := by
  simp only [localDevice, bind_eq_ok, required_eq_ok, pure_eq_ok, Option.filter_eq_some_iff, decide_eq_true_eq]
  constructor
  · rintro ⟨id, named, device, ⟨found, placed, owned, own, active⟩, keys, valid, rfl⟩
    obtain rfl := (Table.find?_some found).2
    exact ⟨named, found, placed, owned, own, active, keys, valid⟩
  · rintro ⟨named, found, placed, owned, own, active, keys, valid⟩
    exact ⟨device.id, named, device, ⟨found, placed, owned, own, active⟩, keys, valid, rfl⟩

theorem teamDevice_some {deviceId : String} {row : TeamDevice} (found : teamDevice workspaceId deviceId db = some row) :
    row.id = deviceId ∧ db.teamDevices.find? deviceId = some row := by
  have stored := (Option.filter_eq_some_iff.mp found).1
  exact ⟨(Table.find?_some stored).2, stored⟩

theorem exportShare_ok
    (done : exportShare library credentialStoreName draws desk before after input = .ok payload) :
    ∃ authorization sender profile credential plaintext devices envelope,
      checkRecipients library input = .ok () ∧
      authorize library.toPlatform input.workspaceId .shareCreate before = .ok authorization ∧
      localDevice library input.workspaceId authorization before = .ok sender ∧
      desk.connection input.connectionId = .ok profile ∧
      checkShareable profile = .ok () ∧
      shareCredential credentialStoreName desk profile input.includeCredential = .ok credential ∧
      library.connectionJson (sharedConnection profile credential) = .ok plaintext ∧
      plaintext.length ≤ maxSharePlaintextBytes ∧
      (input.recipientDeviceIds.mapM fun deviceId =>
        required (teamDevice input.workspaceId deviceId before)
          (AppError.validation ("接收设备 " ++ deviceId ++ " 不存在、已撤销或成员已移除"))) = .ok devices ∧
      sealShare library draws desk.keychain input authorization sender.id devices plaintext = .ok envelope ∧
      library.envelopeJson envelope = .ok payload ∧ payload.length ≤ maxShareFileBytes := by
  simp only [exportShare, bind_eq_ok, ensure_eq_ok, mapError_eq_ok, pure_eq_ok, exists_const] at done
  obtain ⟨_, recipients, authorization, authorized, _, -, sender, own, profile, stored, _, shareable,
    credential, given, plaintext, json, short, devices, listed, envelope, sealed, _, written, small,
    _, -, _, -, _, -, rfl⟩ := done
  exact ⟨authorization, sender, profile, credential, plaintext, devices, envelope, recipients,
    authorized, own, stored, shareable, given, json, short, listed, sealed, written, small⟩

theorem Receives.authorized
    (receives : Receives library before db keychain input origin workspace member device)
    (uuid : validUuid library.toPlatform input.workspaceId = true)
    (manages : .connectionManage ∈ permissions member.role) :
    authorize library.toPlatform input.workspaceId .connectionManage db =
      .ok ⟨workspace.localMemberId, member.role, workspace.keyEpoch, workspace.localDeviceId⟩ := by
  have named : workspace.id = input.workspaceId := (Table.find?_some receives.workspaceRow).2
  refine authorize_eq_ok.mpr ⟨workspace, member, localMember_eq_ok.mpr ?_, manages, rfl⟩
  exact ⟨uuid, receives.workspaceRow, receives.memberRow, receives.memberActive.1.trans named.symm,
    receives.memberActive.2⟩

theorem shareCredential_short (sends : Sends library os desk before input origin saved)
    {includeCredential : Bool} {credential : Option String}
    (given : shareCredential credentialStoreName desk saved.profile includeCredential =
      .ok credential) : ∀ secret ∈ credential, secret.utf8ByteSize ≤ maxCredentialBytes := by
  rintro secret rfl
  unfold shareCredential at given
  split at given
  · simp only [bind_eq_ok, required_eq_ok, pure_eq_ok, Option.some.injEq] at given
    obtain ⟨_, stored, _, rfl, rfl⟩ := given
    obtain ⟨other, valid, kept⟩ := sends.credential _ stored
    exact validateConnection_credential valid kept
  · cases given

theorem Receives.recipient
    (receives : Receives library before db keychain input origin workspace member device)
    {devices : List TeamDevice} {recipients : List ShareRecipient}
    (listed : (input.recipientDeviceIds.mapM fun deviceId =>
      required (teamDevice input.workspaceId deviceId before)
        (AppError.validation ("接收设备 " ++ deviceId ++ " 不存在、已撤销或成员已移除"))) = .ok devices)
    (wrapped : devices.mapM (shareRecipient library draws) = .ok recipients) :
    ∃ row recipient, SameDevice row device ∧ shareRecipient library draws row = .ok recipient ∧
      (recipients.find? fun recipient => recipient.deviceId = device.id ∧
        recipient.memberId = workspace.localMemberId) = some recipient := by
  -- The device that the request names has a recipient of its own.
  obtain ⟨named, there, found⟩ := mapM_leads listed receives.named
  obtain ⟨id, stored⟩ := teamDevice_some (required_eq_ok.mp found)
  obtain ⟨own, present, wraps⟩ := mapM_leads wrapped there
  obtain ⟨deviceId, memberId, -⟩ := shareRecipient_names wraps
  have same := receives.listed named stored
  cases first : recipients.find? fun recipient => recipient.deviceId = device.id ∧
      recipient.memberId = workspace.localMemberId with
  | none =>
    refine absurd ?_ (List.find?_eq_none.mp first own present)
    simp [deviceId, memberId, id, same.memberId, receives.own.2.1]
  | some recipient =>
    -- Whichever recipient is found, it was made from the row of this device.
    have chosen := List.find?_some first
    obtain ⟨row, listedRow, made⟩ := mapM_comes wrapped (List.mem_of_find?_eq_some first)
    obtain ⟨other, -, read⟩ := mapM_comes listed listedRow
    obtain ⟨rowId, rowStored⟩ := teamDevice_some (required_eq_ok.mp read)
    have names := (shareRecipient_names made).1
    have rowNamed : other = device.id := by
      rw [← rowId, ← names]
      simpa using (of_decide_eq_true chosen).1
    exact ⟨row, recipient, receives.listed row (rowNamed ▸ rowStored), made, rfl⟩

/--
A share that was exported is previewed on the device of every recipient whose member may manage
connections, and what is previewed is what the sender has of the connection.
-/
theorem previewShare_exportShare (sound : library.Sound)
    (exported : exportShare library credentialStoreName draws desk before after input = .ok payload)
    (sends : Sends library os desk before input origin saved)
    (receives : Receives library before db keychain input origin workspace member device)
    (manages : .connectionManage ∈ permissions member.role) (bytes : file.bytes = payload)
    (placed : file.pathBytes ≤ 16 * 1024 ∧ file.absolute = true ∧
      file.extension = some "cnshellshare" ∧ file.symlink = false ∧ file.regular = true)
    (requestId : String) (now : Tick) (utc : Instant) (manager : TeamShareManager) :
    ∃ credential preview next,
      shareCredential credentialStoreName desk saved.profile input.includeCredential = .ok credential ∧
      previewShare library keychain requestId now utc db manager file = .ok (preview, next) ∧
      preview.senderMemberId = origin.localMemberId ∧ preview.keyEpoch = origin.keyEpoch ∧
      (next.find? requestId).map PendingShare.connection = some (sharedConnection saved.profile credential) := by
  obtain ⟨authorization, sender, profile, credential, plaintext, devices, envelope, checked,
    authorized, own, stored, shareable, given, json, short, listed, sealed, written, small⟩ :=
    exportShare_ok exported
  obtain rfl : saved.profile = profile := Except.ok.inj (sends.stored.symm.trans stored)
  obtain ⟨home, actor, local', -, rfl⟩ := authorize_eq_ok.mp authorized
  obtain ⟨uuid, homeRow, -⟩ := localMember_eq_ok.mp local'
  obtain rfl : origin = home := Option.some.inj (receives.originRow.symm.trans homeRow)
  obtain ⟨senderId, senderRow, -, senderMember, -, -, senderKeys, senderValid⟩ :=
    localDevice_eq_ok.mp own
  obtain ⟨held, known, senderSame⟩ := receives.sender sender senderId senderRow
  obtain ⟨nonempty, parses⟩ := sound.envelope _ _ written
  obtain ⟨secret, stored', key⟩ := receives.secret
  -- What the reader checks one after another.
  have input' : validateInputFile file "cnshellshare" maxShareFileBytes = .ok () := by
    obtain ⟨path, absolute, extension, symlink, regular⟩ := placed
    simp [validateInputFile, path, absolute, extension, symlink, regular, bytes, nonempty, small]
  have signature := verifyEnvelope_sealShare sound sealed senderValid
    (fun secret held => sends.signs sender senderKeys secret senderId senderRow senderValid held)
    known (senderSame.memberId.symm.trans senderMember) senderSame
  have fields := validateSharedConnection_sharedConnection sends.valid shareable
    (shareCredential_short sends given)
  -- There are as many devices as the request names.
  simp only [checkRecipients, bind_eq_ok, ensure_eq_ok, exists_const] at checked
  obtain ⟨⟨named, few⟩, -⟩ := checked
  have many := (mapM_eq_ok.mp listed).length_eq
  have parsesWorkspace : library.parsesUuid input.workspaceId = true :=
    (of_decide_eq_true uuid).2
  have version := validateEnvelope_sealShare sealed parsesWorkspace sends.epoch
    (fun none => named (List.length_eq_zero_iff.mp (by rw [many, none, List.length_nil])))
    (many ▸ few)
  obtain ⟨ciphertext, recipients, signing, canonical, -, wrapped, -, -, rfl⟩ := sealShare_ok sealed
  -- The recipient that the reader picks is the one made for its own device.
  obtain ⟨row, recipient, rowSame, made, chosen⟩ := receives.recipient listed wrapped
  obtain ⟨_, _, rowKeys, rowValid⟩ := shareRecipient_names made
  have sealedFor : keychain row.id "x25519" = .ok secret := rowSame.id ▸ stored'
  have opened := openEnvelope_sealShare sound sealed (sound.connection _ _ json) short made sealedFor
    (rowSame.encryptionPublicKey.trans key)
  rw [rowSame.id] at opened
  have mine : localDevice library input.workspaceId ⟨workspace.localMemberId, member.role,
      workspace.keyEpoch, workspace.localDeviceId⟩ db = .ok device :=
    localDevice_eq_ok.mpr ⟨receives.own.1, receives.deviceRow, receives.deviceActive.1,
      receives.own.2.1, receives.own.2.2, receives.deviceActive.2, rowKeys,
      (validatedDeviceKeys_same rowSame).trans rowValid⟩
  let inserted := TeamShareManager.insert library manager requestId now utc input.workspaceId
    origin.localMemberId origin.keyEpoch (sharedConnection saved.profile credential)
  refine ⟨credential, inserted.1, inserted.2, given, ?_, rfl, rfl, ?_⟩
  · simp only [previewShare, input', ok_bind, bytes, parses, Except.mapError, version,
      receives.authorized uuid manages, ensure_of receives.epoch, mine, chosen, required_some,
      signature, opened, fields]
    rfl
  · simp [inserted, TeamShareManager.insert, Table.find?_put]

end Preview

namespace Demo

open Relay.Demo (uuid uuid_inj random token length_random)

/-- A vault on which two computers agree on a secret. -/
def shareVault : Vault := { vault with sharedSecret := List.zipWith fun mine theirs => mine ^^^ theirs }

def storedInput : SaveConnectionInput where
  id := "home"
  folderId := none
  protocol := "ssh"
  name := "Home"
  host := "example.org"
  port := 22
  username := "root"
  authType := "password"
  privateKeyPath := none
  certificatePath := none
  hostKeyPolicy := "strict"
  note := ""
  tags := []
  encoding := "UTF-8"
  startupCommand := none
  proxyId := none
  environment := []
  credential := some "secret"

def connectionText : List UInt8 :=
  utf8 ("\x7b\"protocol\":\"ssh\",\"name\":\"Home\",\"host\":\"example.org\",\"port\":22," ++
    "\"username\":\"root\",\"authType\":\"password\",\"tags\":[],\"encoding\":\"UTF-8\"," ++
    "\"credential\":\"secret\"\x7d")

def homeShare : SharedConnection := sharedConnection storedInput.profile (some "secret")

def envelope : ShareEnvelope where
  schemaVersion := 1
  shareId := uuid 7
  workspaceId := uuid 0
  keyEpoch := 1
  senderMemberId := uuid 1
  senderDeviceId := uuid 2
  ephemeralPublicKey := encodeKey shareVault "x25519" (random 6)
  payloadNonce := shareVault.encodeBase64Url (List.replicate 12 0)
  ciphertext := shareVault.encodeBase64Url (connectionText ++ List.replicate 16 0)
  recipients :=
    [⟨uuid 4, uuid 3, shareVault.encodeBase64Url (List.replicate 12 0),
      shareVault.encodeBase64Url (random 5 ++ List.replicate 16 0)⟩]
  signature := some ("ed25519:" ++ shareVault.encodeBase64Url (List.replicate 64 0))

/-- The indented JSON of the envelope for laptop 4. -/
def envelopeText : List UInt8 :=
  utf8 ("\x7b\n  \"schemaVersion\": 1,\n  \"shareId\": \"" ++ envelope.shareId ++
    "\",\n  \"workspaceId\": \"" ++ envelope.workspaceId ++ "\",\n  \"keyEpoch\": 1,\n" ++
    "  \"senderMemberId\": \"" ++ envelope.senderMemberId ++ "\",\n  \"senderDeviceId\": \"" ++
    envelope.senderDeviceId ++ "\",\n  \"ephemeralPublicKey\": \"" ++ envelope.ephemeralPublicKey ++
    "\",\n  \"payloadNonce\": \"" ++ envelope.payloadNonce ++ "\",\n  \"ciphertext\": \"" ++
    envelope.ciphertext ++ "\",\n  \"recipients\": [\n" ++
    String.join (envelope.recipients.map fun recipient =>
      "    \x7b\n      \"deviceId\": \"" ++ recipient.deviceId ++ "\",\n      \"memberId\": \"" ++
        recipient.memberId ++ "\",\n      \"nonce\": \"" ++ recipient.nonce ++
        "\",\n      \"wrappedKey\": \"" ++ recipient.wrappedKey ++ "\"\n    \x7d\n") ++
    "  ],\n  \"signature\": \"" ++ envelope.signature.getD "" ++ "\"\n\x7d")

/-- The vault with the JSON of one connection and one envelope; it refuses all others. -/
def library : ShareLibrary where
  toVault := shareVault
  connectionJson connection :=
    if connection = homeShare then .ok connectionText else .error "unknown connection"
  parseConnection json :=
    if json = connectionText then .ok homeShare else .error "expected value at line 1 column 1"
  envelopeJson sealed := if sealed = envelope then .ok envelopeText else .error "unknown envelope"
  parseEnvelope json :=
    if json = envelopeText then .ok envelope else .error "expected value at line 1 column 1"
  canonicalEnvelope sealed := .ok (utf8 sealed.shareId)

theorem sound : library.Sound where
  base64 bytes := by
    show Base64.decode (String.ofList _).toList = _
    rw [String.toList_ofList, Base64.decode_encode]
  publicKey_length _ length := length
  agrees mine theirs := by
    show List.zipWith _ mine theirs = List.zipWith _ theirs mine
    rw [List.zipWith_comm]
    simp only [UInt8.xor_comm]
  opens key nonce aad text sealed done := by
    cases done
    simp [library, shareVault, vault]
  tag key nonce aad text sealed done := by
    cases done
    simp
  signature_length secret payload := by simp [library, shareVault, vault]
  connection connection json done := by
    simp only [library, Except.ok.injEq] at done ⊢
    split at done
    · next same =>
      cases done
      rw [if_pos rfl, same]
    · cases done
  envelope sealed json done := by
    simp only [library, Except.ok.injEq] at done ⊢
    split at done
    · next same =>
      cases done
      refine ⟨fun empty => ?_, by rw [if_pos rfl, same]⟩
      have none := congrArg List.length empty
      simp [envelopeText] at none
    · cases done

def shareDraws : ShareDraws library where
  shareId := uuid 7
  contentKey := random 5
  payloadNonce := List.replicate 12 0
  ephemeralSecret := random 6
  nonce _ := List.replicate 12 0
  parses := parsesUuid_uuid 7
  contentKey_length := length_random 5
  payloadNonce_length := rfl
  ephemeralSecret_length := length_random 6
  nonce_length _ := rfl

def laptopKeys (number : Nat) : Keychain := fun _ _ => .ok (random number)

/-- What the owner's laptop reads and writes. -/
def shareDesk : ShareDesk where
  connection _ := .ok storedInput.profile
  credential _ := .ok (some "secret")
  keychain := laptopKeys 2
  absolute := true
  extension := some "cnshellshare"
  pathBytes := 64
  parentIsDirectory := true
  write _ := .ok ()
  audit := .ok ()

/-- The share of the connection and its credential for laptop 4. -/
def shareInput : TeamShareExportInput where
  workspaceId := uuid 0
  connectionId := "home"
  recipientDeviceIds := [uuid 4]
  includeCredential := true

def guestWorkspace : TeamWorkspace where
  id := uuid 0
  name := "Team"
  localMemberId := uuid 3
  keyEpoch := 1
  localDeviceId := some (uuid 4)

def ownerWorkspace : TeamWorkspace where
  id := uuid 0
  name := "Team"
  localMemberId := uuid 1
  keyEpoch := 1
  localDeviceId := some (uuid 2)

def guestMember (role : Role) : TeamMember where
  id := uuid 3
  workspaceId := uuid 0
  displayName := "Member"
  role
  status := .active

def guestTeam (role : Role) : LocalDb where
  teamWorkspaces := Table.empty.put guestWorkspace
  teamMembers :=
    (Table.empty.put
      { id := uuid 1, workspaceId := uuid 0, displayName := "Owner", role := .owner, status := .active }).put
      (guestMember role)
  teamDevices := (Table.empty.put (laptop 2 1 false)).put (laptop 4 3 true)

def shareFile : InputFile where
  pathBytes := 64
  absolute := true
  extension := some "cnshellshare"
  symlink := false
  regular := true
  bytes := envelopeText

theorem validatedDeviceKeys_laptop (number owner : Nat) (isLocal : Bool) :
    validatedDeviceKeys library.toVault (laptop number owner isLocal) = .ok (random number, random number) := by
  have decodes (marker : String) : decodeKey library.toVault (marker ++ ":" ++ token number) marker =
      .ok (random number) :=
    decodeKey_encodeKey sound (length_random number)
  have encryption := decodes "x25519"
  have signing := decodes "ed25519"
  simp only [validatedDeviceKeys, laptop]
  rw [show "x25519:" ++ token number = "x25519" ++ ":" ++ token number from rfl, encryption,
    show "ed25519:" ++ token number = "ed25519" ++ ":" ++ token number from rfl, signing]
  simp only [ok_bind]
  exact bind_eq_ok.mpr ⟨(), ensure_of rfl _, rfl⟩

theorem localDevice_owner (role : Role) (permission : TeamPermission) :
    authorize library.toPlatform (uuid 0) permission (team role 1) = .ok ⟨uuid 1, .owner, 1, some (uuid 2)⟩ ∧
      localDevice library (uuid 0) ⟨uuid 1, .owner, 1, some (uuid 2)⟩ (team role 1) = .ok (laptop 2 1 true) := by
  refine ⟨authorize_team permission, localDevice_eq_ok.mpr ⟨rfl, ?_, rfl, rfl, rfl, rfl, _,
    validatedDeviceKeys_laptop 2 1 true⟩⟩
  simp [team, laptop, Table.find?_put, uuid_inj]

theorem teamDevice_guest (role : Role) : teamDevice (uuid 0) (uuid 4) (team role 1) = some (laptop 4 3 false) := by
  simp [teamDevice, team, laptop, Table.find?_put]

theorem shareRecipient_guest :
    shareRecipient library shareDraws (laptop 4 3 false) =
      .ok ⟨uuid 4, uuid 3, shareVault.encodeBase64Url (List.replicate 12 0),
        shareVault.encodeBase64Url (random 5 ++ List.replicate 16 0)⟩ := by
  unfold shareRecipient
  rw [validatedDeviceKeys_laptop]
  rfl

theorem exportShare_home (role : Role) :
    exportShare library "" shareDraws shareDesk (team role 1) (team role 1) shareInput = .ok envelopeText := by
  have recipients : checkRecipients library shareInput = .ok () := by
    have parses : library.parsesUuid (uuid 4) = true := parsesUuid_uuid 4
    simp [checkRecipients, shareInput, parses, ensure, maxRecipients]
  obtain ⟨authorized, own⟩ := localDevice_owner role .shareCreate
  have shareable : checkShareable storedInput.profile = .ok () := by decide
  have short : connectionText.length ≤ maxSharePlaintextBytes := by decide +kernel
  have small : envelopeText.length ≤ maxShareFileBytes := by decide +kernel
  have json : library.connectionJson homeShare = .ok connectionText := by simp [library]
  have written : library.envelopeJson envelope = .ok envelopeText := by simp [library]
  have sealed : sealShare library shareDraws (laptopKeys 2) shareInput
      ⟨uuid 1, .owner, 1, some (uuid 2)⟩ (uuid 2) [laptop 4 3 false] connectionText =
      .ok envelope := by
    simp only [sealShare, List.mapM_cons, List.mapM_nil, shareRecipient_guest, ok_bind]
    rfl
  have unchanged : checkUnchanged library shareInput ⟨uuid 1, .owner, 1, some (uuid 2)⟩ (uuid 2)
      envelope.recipients (team role 1) = .ok () := by
    simp only [checkUnchanged]
    rw [show shareInput.workspaceId = uuid 0 from rfl, authorized]
    simp [envelope, teamDevice_guest, laptop, ensure, checkCredentialRight, shareInput,
      requirePermission, permissions]
  have right : checkCredentialRight .owner shareInput.includeCredential = .ok () := by decide
  have listed : (shareInput.recipientDeviceIds.mapM fun deviceId =>
      required (teamDevice shareInput.workspaceId deviceId (team role 1))
        (AppError.validation ("接收设备 " ++ deviceId ++ " 不存在、已撤销或成员已移除"))) =
      .ok [laptop 4 3 false] := by
    simp [shareInput, teamDevice_guest]
  have placed : atomicWrite shareDesk "cnshellshare" envelopeText = .ok () := by
    simp [atomicWrite, shareDesk, ensure]
  -- The steps of the export, one after another.
  refine bind_eq_ok.mpr ⟨(), recipients, bind_eq_ok.mpr ⟨_, authorized, bind_eq_ok.mpr ⟨(), right,
    bind_eq_ok.mpr ⟨_, own, bind_eq_ok.mpr ⟨storedInput.profile, rfl,
    bind_eq_ok.mpr ⟨(), shareable, bind_eq_ok.mpr ⟨some "secret", rfl, ?_⟩⟩⟩⟩⟩⟩⟩
  refine bind_eq_ok.mpr ⟨_, mapError_eq_ok.mpr json, bind_eq_ok.mpr ⟨(), ensure_of short _,
    bind_eq_ok.mpr ⟨_, listed, bind_eq_ok.mpr ⟨_, sealed,
    bind_eq_ok.mpr ⟨_, mapError_eq_ok.mpr written, bind_eq_ok.mpr ⟨(), ensure_of small _, ?_⟩⟩⟩⟩⟩⟩
  exact bind_eq_ok.mpr ⟨(), unchanged, bind_eq_ok.mpr ⟨(), placed, bind_eq_ok.mpr ⟨(), rfl, rfl⟩⟩⟩

theorem sends_home (role : Role) :
    Sends library .other shareDesk (team role 1) shareInput ownerWorkspace storedInput where
  valid := by decide
  stored := rfl
  credential secret held := ⟨storedInput, by decide, Except.ok.inj held⟩
  epoch := Int.le_refl 1
  signs sender keys secret _ _ valid _ := by
    simp only [validatedDeviceKeys, decodeKey, bind_eq_ok, ensure_eq_ok, pure_eq_ok] at valid
    obtain ⟨_, -, _, ⟨_, -, bytes, -, _, length, rfl⟩, _, -, rfl⟩ := valid
    exact ⟨by simpa [library, shareVault, vault, Relay.Demo.platform] using length, fun _ => rfl⟩

theorem receives_guest (role : Role) :
    Receives library (team role 1) (guestTeam role) (laptopKeys 4) shareInput ownerWorkspace
      guestWorkspace (guestMember role) (laptop 4 3 true) where
  originRow := by simp [team, ownerWorkspace, shareInput, Table.find?_put]
  workspaceRow := by simp [guestTeam, guestWorkspace, shareInput, Table.find?_put]
  epoch := Int.le_refl 1
  memberRow := by simp [guestTeam, guestWorkspace, guestMember, Table.find?_put]
  memberActive := ⟨rfl, rfl⟩
  deviceRow := by simp [guestTeam, laptop, Table.find?_put]
  deviceActive := ⟨rfl, rfl⟩
  own := ⟨rfl, rfl, rfl⟩
  named := List.mem_singleton.mpr rfl
  listed row found := by
    have stored : (team role 1).teamDevices.find? (uuid 4) = some (laptop 4 3 false) := by
      simp [team, laptop, Table.find?_put]
    obtain rfl := Option.some.inj (stored.symm.trans found)
    exact ⟨rfl, rfl, rfl, rfl, rfl⟩
  secret := ⟨random 4, rfl, rfl⟩
  sender row named found := by
    have stored : (team role 1).teamDevices.find? (uuid 2) = some (laptop 2 1 true) := by
      simp [team, laptop, Table.find?_put, uuid_inj]
    have known : teamDevice (uuid 0) (uuid 2) (guestTeam role) = some (laptop 2 1 false) := by
      simp [teamDevice, guestTeam, guestMember, laptop, Table.find?_put, uuid_inj]
    have same : uuid 2 = row.id := Option.some.inj named
    rw [← same] at found ⊢
    obtain rfl := Option.some.inj (stored.symm.trans found)
    exact ⟨_, known, rfl, rfl, rfl, rfl, rfl⟩

/-- An administrator at laptop 4 previews what the owner's laptop exported. -/
theorem previewShare_admin :
    ∃ credential preview next,
      shareCredential "" shareDesk storedInput.profile shareInput.includeCredential = .ok credential ∧
      previewShare library (laptopKeys 4) "request" 0 0 (guestTeam .admin) .empty shareFile = .ok (preview, next) ∧
      preview.senderMemberId = ownerWorkspace.localMemberId ∧
      preview.keyEpoch = ownerWorkspace.keyEpoch ∧
      (next.find? "request").map PendingShare.connection = some (sharedConnection storedInput.profile credential) :=
  previewShare_exportShare sound (exportShare_home .admin) (sends_home .admin)
    (receives_guest .admin) (by decide) rfl ⟨by decide, rfl, rfl, rfl, rfl⟩ "request" 0 0 .empty

/--
An operator at laptop 4 is a recipient like any other, and the export succeeds.
The preview is refused, because an operator may not manage connections.
-/
theorem previewShare_operator :
    library.Sound ∧
      Sends library .other shareDesk (team .operator 1) shareInput ownerWorkspace storedInput ∧
      Receives library (team .operator 1) (guestTeam .operator) (laptopKeys 4) shareInput
        ownerWorkspace guestWorkspace (guestMember .operator) (laptop 4 3 true) ∧
      exportShare library "" shareDraws shareDesk (team .operator 1) (team .operator 1) shareInput =
        .ok shareFile.bytes ∧
      previewShare library (laptopKeys 4) "request" 0 0 (guestTeam .operator) .empty shareFile =
        .error (.permissionDenied "角色 operator 没有 connectionManage 权限") := by
  refine ⟨sound, sends_home .operator, receives_guest .operator, exportShare_home .operator, ?_⟩
  have small : envelopeText ≠ [] ∧ envelopeText.length ≤ maxShareFileBytes := by decide +kernel
  have input : validateInputFile shareFile "cnshellshare" maxShareFileBytes = .ok () := by
    simp [validateInputFile, shareFile, small, ensure]
  have parsed : library.parseEnvelope shareFile.bytes = .ok envelope := by simp [library, shareFile]
  have version : validateEnvelope library envelope = .ok () :=
    ensure_of ⟨rfl, parsesUuid_uuid 7, parsesUuid_uuid 0, by decide, by simp [envelope], by decide⟩ _
  have found : localMember library.toPlatform (uuid 0) (guestTeam .operator) =
      .ok (guestWorkspace, guestMember .operator) :=
    localMember_eq_ok.mpr ⟨validUuid_uuid 0, by simp [guestTeam, guestWorkspace, Table.find?_put],
      by simp [guestTeam, guestWorkspace, guestMember, Table.find?_put], rfl, rfl⟩
  have refused : authorize library.toPlatform envelope.workspaceId .connectionManage
      (guestTeam .operator) = .error (.permissionDenied "角色 operator 没有 connectionManage 权限") := by
    rw [show envelope.workspaceId = uuid 0 from rfl, authorize, found]
    rfl
  simp only [previewShare, input, ok_bind, parsed, Except.mapError, version, refused]
  rfl

end Demo

end Client

end CNShell
