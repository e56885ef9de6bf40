import CNShell.Client.Database
import Mathlib.Data.List.Infix

/-! The commands that save, duplicate, purge and import connections. -/

namespace CNShell

namespace Client

def keyTypes : List String := ["privateKey", "sshCertificate"]

/-- What a command finds before it saves a connection. -/
structure Found where
  previousBookmark : Option String
  previousCertificateBookmark : Option String
  existing : Option ConnectionRow

/-- The secret that a request brings. -/
def secretOf (input : SaveConnectionInput) : Option String := input.credential.filter (· ≠ "")

/-- Whether the connection that was found is authenticated in another way. -/
def authChanged (found : Found) (input : SaveConnectionInput) : Bool :=
  found.existing.any fun profile => profile.authType ≠ input.authType

/-- What is left to write: the reference for the row, and how to undo what was done for it. -/
structure Prepared where
  reference : Option String
  undo : DesktopState → DesktopState

variable (host : HostSystem) (faults : Faults) (now : String)

section Save

variable (input : SaveConnectionInput)

/-- The checks of a request, and what is stored under its id. -/
def openSave (desktop : DesktopState) : AppResult Found := do
  let _ ← validateConnection host.os input
  let _ ← faults.result .loadBookmark
  let _ ← faults.result .loadCertificateBookmark
  -- A row that cannot be read counts as none.
  let existing := (faults.result .getConnection).toOption.bind fun _ => desktop.live input.id
  let _ ← ensure
    (input.protocol = "rdp" → givesCredential input = true ∨
      (existing.any fun profile => profile.credentialRef.isSome) = true)
    (.validation "RDP 连接必须输入密码")
  return {
    previousBookmark := desktop.bookmarks input.id
    previousCertificateBookmark := desktop.certificateBookmarks input.id
    existing := existing }

/-- No private key for a connection. -/
def deleteBookmark (id : String) : Command Unit := do
  reach faults .deleteBookmark
  Section.modify fun desktop => desktop.setBookmark id none

def deleteCertificateBookmark (id : String) : Command Unit := do
  reach faults .deleteCertificateBookmark
  Section.modify fun desktop => desktop.setCertificateBookmark id none

/-- No mapped folder for a connection. -/
def deleteRdpDriveBookmark (id : String) : Command Unit := do
  reach faults .deleteRdpDriveBookmark
  Section.modify fun desktop => desktop.setRdpDriveBookmark id none

def undoCredential (previous : Option String) : DesktopState → DesktopState :=
  restoreCredential host.os input.id previous

/-- The private key as it was, after what else is undone. -/
def undoBookmark (found : Found) (undo : DesktopState → DesktopState) (desktop : DesktopState) : DesktopState :=
  (undo desktop).setBookmark input.id found.previousBookmark

/-- The certificate as it was, after what else is undone. -/
def undoCertificate (found : Found) (undo : DesktopState → DesktopState) (desktop : DesktopState) : DesktopState :=
  (undo desktop).setCertificateBookmark input.id found.previousCertificateBookmark

/-- A connection that leaves its authentication to an agent keeps no secret of its own. -/
def prepareAgent (found : Found) : Command Prepared := do
  let previous ← loadCredential host.os faults input.id
  deleteCredential host.os faults input.id
  let undo := undoCredential host input previous
  (deleteBookmark faults input.id).undoing undo
  (deleteCertificateBookmark faults input.id).undoing (undoBookmark input found undo)
  return ⟨none, undoCertificate input found (undoBookmark input found undo)⟩

/-- The new credential of a connection, with the reference to it and the way back. -/
def replaceCredential (found : Found) : Command Prepared :=
  match secretOf input, authChanged found input with
  | some secret, _ => do
    let previous ← loadCredential host.os faults input.id
    let reference ← saveCredential host.os faults input.id secret
    return ⟨some reference, undoCredential host input previous⟩
  | none, true => do
    let previous ← loadCredential host.os faults input.id
    deleteCredential host.os faults input.id
    return ⟨none, undoCredential host input previous⟩
  | none, false => return ⟨none, id⟩

/-- The private key of a request, unless it is the one that is stored. -/
def replaceBookmark (found : Found) : Command Unit :=
  if found.previousBookmark.isSome = true ∧ (found.existing.any fun profile =>
      profile.authType ∈ keyTypes ∧ profile.privateKeyPath = input.privateKeyPath) = true then
    pure ()
  else if input.authType ∈ keyTypes then
    saveBookmark host faults input.id (input.privateKeyPath.getD "")
  else deleteBookmark faults input.id

/-- The certificate of a request, unless it is the one that is stored. -/
def replaceCertificate (found : Found) : Command Unit :=
  if found.previousCertificateBookmark.isSome = true ∧ (found.existing.any fun profile =>
      profile.authType = "sshCertificate" ∧ profile.certificatePath = input.certificatePath) = true then
    pure ()
  else if input.authType = "sshCertificate" then do
    let _ ← Section.check (host.inspect (input.certificatePath.getD ""))
    saveCertificateBookmark host faults input.id (input.certificatePath.getD "")
  else deleteCertificateBookmark faults input.id

/-- A connection with a secret, a private key or a certificate of its own. -/
def prepareSecret (found : Found) : Command Prepared := do
  let credential ← replaceCredential host faults input found
  (replaceBookmark host faults input found).undoing (undoBookmark input found credential.undo)
  let undo := undoCertificate input found (undoBookmark input found credential.undo)
  (replaceCertificate host faults input found).undoing undo
  return ⟨credential.reference, undo⟩

/-- Everything that is stored for a connection besides its row. -/
def prepareSave (found : Found) : Command Prepared :=
  if usesAgent input then prepareAgent host faults input found
  else prepareSecret host faults input found

def connectionSave : Command ConnectionRow := do
  let desktop ← Section.get
  let found ← Section.check (openSave host faults input desktop)
  let prepared ← prepareSave host faults input found
  (saveConnection host.os faults now input prepared.reference).undoing prepared.undo

end Save

section Duplicate

/-- The request for a copy of a connection. -/
def duplicateInput (source : ConnectionRow) (newId newName : String) : AppResult SaveConnectionInput := do
  ensure (trim newId ≠ "" ∧ newId ≠ source.id) (.validation "复制连接的新 ID 无效")
  ensure (trim newName ≠ "") (.validation "复制连接的新名称无效")
  return {
    id := newId
    folderId := source.folderId
    protocol := source.protocol
    name := newName
    host := source.host
    port := source.port
    username := source.username
    authType := source.authType
    privateKeyPath := source.privateKeyPath
    certificatePath := source.certificatePath
    hostKeyPolicy := source.hostKeyPolicy
    note := source.note
    tags := source.tags
    encoding := source.encoding
    startupCommand := source.startupCommand
    proxyId := source.proxyId
    environment := source.environment
    credential := none }

/-- What a refused insertion is called. -/
def insertionError : AppError → AppError
  | .storage message =>
    if "UNIQUE constraint failed".toList <:+: message.toList then .validation "复制连接的新 ID 已存在"
    else .storage message
  | other => other

def rdpKey (id : String) : String := "cnshell.rdp." ++ id

def loadRdpOptions (id : String) : Command (Option RdpConnectionOptions) := do
  reach faults .loadNamedState
  let desktop ← Section.get
  match desktop.workspaceState (rdpKey id) with
  | none => return none
  | some text => do
    let options ← Section.check (host.parseRdp text)
    return some options

def saveNamedState (key text : String) : Command Unit := do
  let _ ← Section.check (ensure (text.utf8ByteSize ≤ maxStateBytes)
    (.validation "状态内容不能超过 1 MB"))
  reach faults .saveNamedState
  Section.modify fun desktop => desktop.setState key (some text)

/-- The value of one connection is given to another, if there is one. -/
def copyValue (call : Call) (value : DesktopState → Option String)
    (put : Option String → DesktopState → DesktopState) : Command Unit := do
  reach faults call
  Section.modify fun desktop =>
    match value desktop with
    | some found => put (some found) desktop
    | none => desktop

variable (id newId : String)

def copyBookmark : Command Unit :=
  copyValue faults .copyBookmark (·.bookmarks id) fun value desktop => desktop.setBookmark newId value

def copyCertificateBookmark : Command Unit :=
  copyValue faults .copyCertificateBookmark (·.certificateBookmarks id)
    fun value desktop => desktop.setCertificateBookmark newId value

def copyRdpDriveBookmark : Command Unit :=
  copyValue faults .copyRdpDriveBookmark (·.rdpDriveBookmarks id)
    fun value desktop => desktop.setRdpDriveBookmark newId value

/-- The stores without the copied private key and the row. -/
def undoKey (desktop : DesktopState) : DesktopState := removeInsertedConnection newId (desktop.setBookmark newId none)

/-- The stores without the copied private key, the copied certificate and the row. -/
def undoKeys (desktop : DesktopState) : DesktopState :=
  removeInsertedConnection newId ((desktop.setBookmark newId none).setCertificateBookmark newId none)

/-- The stores without all that was copied but the credential. -/
def undoCopies (desktop : DesktopState) : DesktopState :=
  removeInsertedConnection newId
    (((desktop.setBookmark newId none).setCertificateBookmark newId none).setRdpDriveBookmark newId none)

def copyRdpOptions (input : SaveConnectionInput) : Command Unit :=
  if input.protocol = "rdp" then do
    let options ← (loadRdpOptions host faults id).undoing (undoKeys newId)
    match options with
    | none => return ()
    | some options => do
      (copyRdpDriveBookmark faults id newId).undoing (undoKeys newId)
      (saveNamedState faults (rdpKey newId)
        (host.renderRdp { options with connectionId := newId })).undoing (undoCopies newId)
  else return ()

def copyCredential (saved : ConnectionRow) : Command ConnectionRow := do
  let secret ← (loadCredential host.os faults id).undoing (undoCopies newId)
  match secret with
  | none => return saved
  | some secret => do
    let reference ← (saveCredential host.os faults newId secret).undoing (undoCopies newId)
    (setConnectionCredentialRef faults now newId reference).undoing fun desktop =>
      undoCopies newId (desktop.dropCredential host.os newId)

def copyRest (input : SaveConnectionInput) (saved : ConnectionRow) : Command ConnectionRow := do
  (copyBookmark faults id newId).undoing (removeInsertedConnection newId)
  (copyCertificateBookmark faults id newId).undoing (undoKey newId)
  copyRdpOptions host faults id newId input
  copyCredential host faults now id newId saved

/-- The request for a copy that is not refused. -/
def openDuplicate (newName : String) (desktop : DesktopState) : AppResult SaveConnectionInput := do
  let _ ← faults.result .getConnection
  let source ← required (desktop.live id) (.notFound id)
  let input ← duplicateInput source newId newName
  let _ ← validateConnection host.os input
  let _ ← faults.result .connectionIdExists
  let _ ← ensure (desktop.connections newId = none) (.validation "复制连接的新 ID 已存在")
  return input

def connectionDuplicate (newName : String) : Command ConnectionRow := do
  let desktop ← Section.get
  let input ← Section.check (openDuplicate host faults id newId newName desktop)
  let saved ← (insertConnection host.os faults now input none).mapError insertionError
  copyRest host faults now id newId input saved

end Duplicate

section Purge

variable (id : String)

/-- The credential and the private key of a purged connection as they were. -/
def unpurgeKey (previous : Option String) (found desktop : DesktopState) : DesktopState :=
  (restoreCredential host.os id previous desktop).setBookmark id (found.bookmarks id)

/-- All that is stored for a purged connection as it was. -/
def unpurge (previous : Option String) (found desktop : DesktopState) : DesktopState :=
  ((unpurgeKey host id previous found desktop).setCertificateBookmark id
    (found.certificateBookmarks id)).setRdpDriveBookmark id (found.rdpDriveBookmarks id)

/-- What is stored for a connection is removed after its credential was, and the row at last. -/
def purgeStored (previous : Option String) (found : DesktopState) : Command Unit := do
  (deleteBookmark faults id).undoing (restoreCredential host.os id previous)
  (deleteCertificateBookmark faults id).undoing (unpurgeKey host id previous found)
  (deleteRdpDriveBookmark faults id).undoing (unpurge host id previous found)
  (purgeConnection faults id).undoing (unpurge host id previous found)

/-- A deleted connection is removed, with all that is stored for it. -/
def connectionPurge : Command Unit := do
  let previous ← loadCredential host.os faults id
  reach faults .loadBookmark
  reach faults .loadCertificateBookmark
  reach faults .loadRdpDriveBookmark
  let found ← Section.get
  deleteCredential host.os faults id
  purgeStored host faults id previous found

end Purge

section Import

/-- A connection of a backup whose id is in use, as a copy of its own. -/
def conflictCopy (taken : String → Bool) (uuid stamp : String) (connection : SaveConnectionInput) :
    SaveConnectionInput :=
  if taken connection.id = true then
    { connection with id := uuid, name := connection.name ++ "（同步冲突副本 " ++ stamp ++ "）" }
  else connection

/-- A request that refers to folders and proxies that exist. -/
def sanitizeImportReferences (desktop : DesktopState) (input : SaveConnectionInput) : SaveConnectionInput :=
  { input with
    folderId := input.folderId.filter desktop.folders
    proxyId := input.proxyId.filter desktop.proxies }

/-- The checked requests of a backup. -/
def importInputs (taken : String → Bool) (uuid : Nat → String) (stamp : String) (desktop : DesktopState) :
    Nat → List SaveConnectionInput → AppResult (List SaveConnectionInput)
  | _, [] => return []
  | position, connection :: rest => do
    let _ ← (faults.at position).result .sanitizeReferences
    let input := sanitizeImportReferences desktop (conflictCopy taken (uuid position) stamp connection)
    let _ ← validateConnection host.os input
    let inputs ← importInputs taken uuid stamp desktop (position + 1) rest
    return input :: inputs

def importCredential (input : SaveConnectionInput) : Command Prepared :=
  match input.credential with
  | some secret =>
    if input.protocol = "ssh" ∧ input.authType ∉ agentTypes then do
      let previous ← loadCredential host.os faults input.id
      let reference ← saveCredential host.os faults input.id secret
      return ⟨some reference, restoreCredential host.os input.id previous⟩
    else return ⟨none, id⟩
  | none => return ⟨none, id⟩

/-- The credentials of an import, all taken back when one of them fails. -/
def importCredentials : Nat → List SaveConnectionInput → (DesktopState → DesktopState) →
    Command (List (SaveConnectionInput × Option String) × (DesktopState → DesktopState))
  | _, [], undo => return ([], undo)
  | position, input :: rest, undo => do
    let prepared ← (importCredential host (faults.at position) input).undoing undo
    let (others, whole) ← importCredentials (position + 1) rest (undo ∘ prepared.undo)
    return ((input, prepared.reference) :: others, whole)

/-- The connections of a decoded backup, all or none; a synchronized one keeps what is there. -/
def importFile (preserve : Bool) (uuid : Nat → String) (stamp : String)
    (connections : List SaveConnectionInput) : Command Nat := do
  let desktop ← Section.get
  let taken ← Section.check (if preserve = true then
    (faults.result .listConnections).map fun _ id => (desktop.live id).isSome
    else .ok fun _ => false)
  let inputs ← Section.check (importInputs host faults taken uuid stamp desktop 0 connections)
  let (prepared, undo) ← importCredentials host faults 0 inputs id
  (importConnections faults now prepared).undoing undo
  return inputs.length

end Import

end Client

end CNShell
