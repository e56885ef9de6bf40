import CNShell.Client.Desktop

/-! What the commands do with the rows of `connections` and with the path authorizations. -/

namespace CNShell

namespace Client

def windowsCredentialBlobBytes : Nat := 2560

/-- How many code units a text has in UTF-16. -/
def utf16Length (value : String) : Nat := (value.toList.map fun char => if char.toNat < 0x10000 then 1 else 2).sum

def maxStateBytes : Nat := 1024 * 1024

section Bookmarks

variable (host : HostSystem) (faults : Faults)

/-- The authorization of a path, unless Windows has no room for it; then there is none. -/
def pathRecord (encoded : String) : Option String :=
  match host.os with
  | .windows => if windowsCredentialBlobBytes < utf16Length encoded * 2 then none else some encoded
  | _ => some encoded

/-- The authorization of an existing file. -/
def saveValue (call : Call) (put : Option String → DesktopState → DesktopState) (path label : String) :
    Command Unit := do
  let _ ← Section.check (ensure (host.isFile path = true)
    (.validation (label ++ "必须是存在的本地绝对文件路径")))
  let encoded ← Section.check (host.create path)
  reach faults call
  Section.modify (put (pathRecord host encoded))

/-- The authorization of a private key. -/
def saveBookmark (id path : String) : Command Unit :=
  saveValue host faults .saveBookmark (fun value desktop => desktop.setBookmark id value) path "私钥"

def saveCertificateBookmark (id path : String) : Command Unit :=
  saveValue host faults .saveCertificateBookmark
    (fun value desktop => desktop.setCertificateBookmark id value) path "SSH Certificate"

end Bookmarks

section Rows

variable (os : TargetOs) (faults : Faults) (now : String)

/-- A row that a request asks for. -/
def insertedRow (input : SaveConnectionInput) (reference : Option String) : ConnectionRow where
  id := input.id
  folderId := input.folderId
  protocol := input.protocol
  name := input.name
  host := input.host
  port := input.port
  username := input.username
  authType := input.authType
  credentialRef := reference
  privateKeyPath := input.privateKeyPath
  certificatePath := input.certificatePath
  hostKeyPolicy := input.hostKeyPolicy
  note := input.note
  tags := input.tags
  encoding := input.encoding
  startupCommand := input.startupCommand
  proxyId := input.proxyId
  environment := input.environment
  createdAt := now
  updatedAt := now
  lastConnectedAt := none
  deletedAt := none

def agentTypes : List String := ["sshAgent", "fido2Agent"]

/-- Whether a request leaves the authentication to an agent. -/
def usesAgent (input : SaveConnectionInput) : Prop := input.protocol = "ssh" ∧ input.authType ∈ agentTypes

instance (input : SaveConnectionInput) : Decidable (usesAgent input) := inferInstanceAs (Decidable (_ ∧ _))

/-- The credential reference of a row that is written over another. -/
def carriedRef (old : ConnectionRow) (input : SaveConnectionInput) (reference : Option String) : Option String :=
  if usesAgent input then none
  else if old.authType ≠ input.authType then reference
  else reference.or old.credentialRef

/-- The row that a request leaves behind, in the place of the one that was there. -/
def upsertedRow (old : Option ConnectionRow) (input : SaveConnectionInput) (reference : Option String) :
    ConnectionRow :=
  match old with
  | none => insertedRow now input reference
  | some old =>
    { insertedRow now input (carriedRef old input reference) with
      createdAt := old.createdAt
      lastConnectedAt := old.lastConnectedAt }

def getConnection (call : Call) (id : String) : Command ConnectionRow := do
  reach faults call
  let desktop ← Section.get
  Section.check (required (desktop.live id) (.notFound id))

/-- A row is written, over the one that was there. -/
def saveConnection (input : SaveConnectionInput) (reference : Option String) : Command ConnectionRow := do
  let _ ← Section.check (validateConnection os input)
  reach faults .selectCreated
  reach faults .writeConnection
  Section.modify fun desktop =>
    desktop.setConnection input.id (some (upsertedRow now (desktop.connections input.id) input reference))
  getConnection faults .readBack input.id

/-- A row is added, unless there is one. -/
def insertConnection (input : SaveConnectionInput) (reference : Option String) : Command ConnectionRow := do
  let _ ← Section.check (validateConnection os input)
  reach faults .writeConnection
  let desktop ← Section.get
  let _ ← Section.check (ensure (desktop.connections input.id = none)
    (.storage "UNIQUE constraint failed: connections.id"))
  Section.modify fun desktop =>
    desktop.setConnection input.id (some (insertedRow now input reference))
  getConnection faults .readBack input.id

def updateConnection (write read : Call) (change : ConnectionRow → ConnectionRow) (id : String) :
    Command ConnectionRow := do
  reach faults write
  let desktop ← Section.get
  let row ← Section.check (required (desktop.live id) (.notFound id))
  Section.modify fun desktop => desktop.setConnection id (some (change row))
  getConnection faults read id

def setConnectionCredentialRef (id reference : String) : Command ConnectionRow :=
  updateConnection faults .setCredentialRef .readReference
    (fun row => { row with credentialRef := some reference, updatedAt := now }) id

def setConnectionEnvironment (id : String) (environment : List (String × String)) : Command ConnectionRow := do
  let _ ← Section.check (validateEnvironment environment)
  updateConnection faults .setEnvironment .readBack
    (fun row => { row with environment := environment, updatedAt := now }) id

/-- The stores without a row that was just added. -/
def removeInsertedConnection (id : String) (desktop : DesktopState) : DesktopState :=
  (desktop.dropOptions id).setConnection id none

def deleteConnection (id : String) : Command Unit := do
  reach faults .deleteConnection
  let desktop ← Section.get
  let row ← Section.check (required (desktop.connections id) (.notFound id))
  Section.modify fun desktop => desktop.setConnection id (some { row with deletedAt := some now })

/-- A deleted connection is back. -/
def restoreConnection (id : String) : Command Unit := do
  reach faults .restoreConnection
  let desktop ← Section.get
  let row ← Section.check (required ((desktop.connections id).filter fun row => row.deletedAt.isSome)
    (.notFound id))
  Section.modify fun desktop =>
    desktop.setConnection id (some { row with deletedAt := none, updatedAt := now })

/-- A deleted connection and its option records are removed in one transaction. -/
def purgeConnection (id : String) : Command Unit := do
  reach faults .purgeConnection
  let desktop ← Section.get
  let _ ← Section.check (required ((desktop.connections id).filter fun row => row.deletedAt.isSome)
    (.notFound id))
  Section.modify (removeInsertedConnection id)

/-- The rows of an import, written in one transaction. -/
def importConnections (inputs : List (SaveConnectionInput × Option String)) : Command Unit := do
  reach faults .importConnections
  Section.modify fun desktop => inputs.foldl (fun desktop entry =>
    desktop.setConnection entry.1.id
      (some (upsertedRow now (desktop.connections entry.1.id) entry.1 entry.2))) desktop

end Rows

end Client

end CNShell
