import CNShell.Client.Connections
import CNShell.Library.Section
import Mathlib.Logic.Function.Basic

/-! The stores that a desktop keeps its connections in, and the calls on them that can fail. -/

namespace CNShell

namespace Client

/-- A row of `connections`. -/
structure ConnectionRow where
  id : String
  folderId : Option String
  protocol : String
  name : String
  host : String
  port : Int
  username : String
  authType : String
  credentialRef : Option String
  privateKeyPath : Option String
  certificatePath : Option String
  hostKeyPolicy : String
  note : String
  tags : List String
  encoding : String
  startupCommand : Option String
  proxyId : Option String
  environment : List (String × String)
  createdAt : String
  updatedAt : String
  lastConnectedAt : Option String
  deletedAt : Option String
  deriving DecidableEq

structure RdpConnectionOptions where
  connectionId : String
  displayMode : String
  displayId : Option Nat
  scaleMode : String
  quality : String
  clipboard : Bool
  audioMode : String
  microphone : Bool
  drivePath : Option String

/-- What the commands ask of the system that the desktop runs on. -/
structure HostSystem where
  os : TargetOs
  /-- Whether a path is absolute and names a file. -/
  isFile : String → Bool
  /-- The encoded authorization of a path. -/
  create : String → AppResult String
  /-- The check of an OpenSSH certificate. -/
  inspect : String → AppResult Unit
  /-- The options that a stored text says. -/
  parseRdp : String → AppResult RdpConnectionOptions
  /-- The text that options are stored as. -/
  renderRdp : RdpConnectionOptions → String

/-- The database tables and the keychain entries of the connections. -/
structure DesktopState where
  /-- The rows of `connections`, deleted ones included. -/
  connections : String → Option ConnectionRow
  /-- The folders that are not deleted. -/
  folders : String → Bool
  proxies : String → Bool
  workspaceState : String → Option String
  /-- The credentials in the one keychain item that macOS keeps them in. -/
  vault : String → Option String
  /-- The keychain items of a single credential each. -/
  secrets : String → Option String
  bookmarks : String → Option String
  certificateBookmarks : String → Option String
  rdpDriveBookmarks : String → Option String

/-- The calls of the commands on the database and the keychain that can fail. -/
inductive Call
  | loadBookmark
  | loadCertificateBookmark
  | loadRdpDriveBookmark
  | saveBookmark
  | saveCertificateBookmark
  | deleteBookmark
  | deleteCertificateBookmark
  | deleteRdpDriveBookmark
  | copyBookmark
  | copyCertificateBookmark
  | copyRdpDriveBookmark
  | loadCredential
  | loadLegacyCredential
  | migrateCredential
  | saveCredential
  | deleteVaultCredential
  | deleteCredential
  | getConnection
  | connectionIdExists
  | selectCreated
  | writeConnection
  | readBack
  | loadNamedState
  | saveNamedState
  | setCredentialRef
  | readReference
  | setEnvironment
  | deleteConnection
  | restoreConnection
  | purgeConnection
  | listConnections
  | sanitizeReferences
  | importConnections
  | imported (position : Nat) (call : Call)
  deriving DecidableEq

abbrev Faults := Call → Option AppError

/-- What a command does on the stores; an error keeps what was changed before it. -/
abbrev Command := Section DesktopState AppError

/-- Whether a call goes through. -/
def Faults.result (faults : Faults) (call : Call) : AppResult Unit :=
  match faults call with
  | none => .ok ()
  | some error => .error error

def Faults.at (faults : Faults) (position : Nat) : Faults := fun call => faults (.imported position call)

/-- A call that fails where it must. -/
def reach (faults : Faults) (call : Call) : Command Unit := Section.check (faults.result call)

@[simp] theorem Faults.result_eq_ok {faults : Faults} {call : Call} {u : Unit} :
    faults.result call = .ok u ↔ faults call = none := by
  unfold Faults.result
  split <;> simp [*]

section Calls

variable {α : Type} {faults : Faults} {call : Call} {following : Unit → Command α}
variable {desktop next : DesktopState}

theorem reach_bind_ok {value : α} : (reach faults call >>= following) desktop = (.ok value, next) ↔
    faults call = none ∧ following () desktop = (.ok value, next) := by
  unfold reach
  rw [Section.check_bind_eq_ok]
  simp only [Faults.result_eq_ok, exists_and_left, and_congr_right_iff]
  exact fun _ => ⟨fun ⟨_, after⟩ => after, fun after => ⟨(), after⟩⟩

theorem reach_bind_error {error : AppError} :
    (reach faults call >>= following) desktop = (.error error, next) ↔
      (faults call = some error ∧ desktop = next) ∨
        (faults call = none ∧ following () desktop = (.error error, next)) := by
  unfold reach
  rw [Section.check_bind_apply, Faults.result]
  cases faults call <;> simp

theorem reach_bind_apply : (reach faults call >>= following) desktop =
    match faults call with
    | none => following () desktop
    | some error => (.error error, desktop) := by
  unfold reach
  rw [Section.check_bind_apply, Faults.result]
  cases faults call <;> rfl

end Calls

namespace DesktopState

variable (desktop : DesktopState) (id : String)

/-- The row of `connections` that a command may change. -/
def live : Option ConnectionRow := (desktop.connections id).filter fun row => row.deletedAt.isNone

/-- The rows after one of them was written or removed. -/
def setConnection (row : Option ConnectionRow) : DesktopState :=
  { desktop with connections := Function.update desktop.connections id row }

/-- The named states after one of them was written or removed. -/
def setState (key : String) (value : Option String) : DesktopState :=
  { desktop with workspaceState := Function.update desktop.workspaceState key value }

def setVault (secret : Option String) : DesktopState :=
  { desktop with vault := Function.update desktop.vault id secret }

def setSecret (secret : Option String) : DesktopState :=
  { desktop with secrets := Function.update desktop.secrets id secret }

def setBookmark (value : Option String) : DesktopState :=
  { desktop with bookmarks := Function.update desktop.bookmarks id value }

def setCertificateBookmark (value : Option String) : DesktopState :=
  { desktop with certificateBookmarks := Function.update desktop.certificateBookmarks id value }

def setRdpDriveBookmark (value : Option String) : DesktopState :=
  { desktop with rdpDriveBookmarks := Function.update desktop.rdpDriveBookmarks id value }

/-- The credential that is found for a connection. -/
def credential (os : TargetOs) : Option String :=
  match os with
  | .macos => (desktop.vault id).or (desktop.secrets id)
  | _ => desktop.secrets id

end DesktopState

/-- The option records of one connection. -/
def optionKeys (id : String) : List String :=
  ["cnshell.protocol." ++ id, "cnshell.rdp." ++ id, "cnshell.serial." ++ id]

/-- The stores without the option records of one connection. -/
def DesktopState.dropOptions (desktop : DesktopState) (id : String) : DesktopState :=
  { desktop with
    workspaceState := fun key => if key ∈ optionKeys id then none else desktop.workspaceState key }

/-- The reference under which a credential is stored. -/
def credentialRef (id : String) : String := "connection:" ++ id

section Credentials

variable (os : TargetOs) (faults : Faults) (id : String)

/-- The older item of a credential, which is moved into the vault. -/
def loadLegacyCredential : Command (Option String) := do
  reach faults .loadLegacyCredential
  let desktop ← Section.get
  match desktop.secrets id with
  | none => return none
  | some secret => do
    reach faults .migrateCredential
    Section.modify fun desktop => desktop.setVault id (some secret)
    return some secret

/-- The credential of a connection; macOS looks into the vault before it asks for an older item. -/
def loadCredential : Command (Option String) := do
  reach faults .loadCredential
  let desktop ← Section.get
  match os with
  | .macos =>
    match desktop.vault id with
    | some secret => return some secret
    | none => loadLegacyCredential faults id
  | _ => return desktop.secrets id

/-- The stores with a credential for a connection. -/
def DesktopState.keepCredential (desktop : DesktopState) (secret : String) : DesktopState :=
  match os with
  | .macos => desktop.setVault id (some secret)
  | _ => desktop.setSecret id (some secret)

/-- The stores without a credential for a connection. -/
def DesktopState.dropCredential (desktop : DesktopState) : DesktopState :=
  match os with
  | .macos => (desktop.setVault id none).setSecret id none
  | _ => desktop.setSecret id none

def saveCredential (secret : String) : Command String := do
  reach faults .saveCredential
  Section.modify fun desktop => desktop.keepCredential os id secret
  return credentialRef id

/-- No credential for a connection; macOS clears the vault before the older item. -/
def deleteCredential : Command Unit :=
  match os with
  | .macos => do
    reach faults .deleteVaultCredential
    Section.modify fun desktop => desktop.setVault id none
    reach faults .deleteCredential
    Section.modify fun desktop => desktop.setSecret id none
  | _ => do
    reach faults .deleteCredential
    Section.modify fun desktop => desktop.setSecret id none

/-- The credential that was there before, or none again. -/
def restoreCredential (previous : Option String) (desktop : DesktopState) : DesktopState :=
  match previous with
  | some secret => desktop.keepCredential os id secret
  | none => desktop.dropCredential os id

end Credentials

end Client

end CNShell
