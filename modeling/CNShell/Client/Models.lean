import CNShell.Library.Checked
import CNShell.Library.Table
import CNShell.Relay.Models

/-! The errors, inputs and local team tables of the desktop client. -/

namespace CNShell

namespace Client

/-- The errors of the client, each with the text or the texts it is shown with. -/
inductive AppError
  | notFound (message : String)
  | validation (message : String)
  | hostKeyUnknown (fingerprint algorithm : String)
  | hostKeyChanged (expected actual : String)
  | authentication (message : String)
  | permissionDenied (message : String)
  | remote (message : String)
  | storage (message : String)
  | unavailable (message : String)
  | internal (message : String)
  deriving DecidableEq, Repr

/-- What a client operation returns. -/
abbrev AppResult := Except AppError

/-- A row of `team_workspaces`. -/
structure TeamWorkspace where
  id : String
  name : String
  localMemberId : String
  keyEpoch : Int
  localDeviceId : Option String
  deriving DecidableEq

/-- A row of `team_members`. -/
structure TeamMember where
  id : String
  workspaceId : String
  displayName : String
  role : Role
  status : MemberStatus
  deriving DecidableEq

/-- A row of `team_devices`. -/
structure TeamDevice where
  id : String
  workspaceId : String
  memberId : String
  name : String
  encryptionPublicKey : String
  signingPublicKey : String
  fingerprint : String
  isLocal : Bool
  status : DeviceStatus
  deriving DecidableEq

/-- The team tables of the client's own database. -/
structure LocalDb where
  teamWorkspaces : Table TeamWorkspace.id
  teamMembers : Table TeamMember.id
  teamDevices : Table TeamDevice.id

/-- The client's team tables right after their migrations. -/
def LocalDb.empty : LocalDb where
  teamWorkspaces := .empty
  teamMembers := .empty
  teamDevices := .empty

/-- A request to open a local workspace. -/
structure CreateTeamWorkspaceInput where
  name : String
  ownerName : String

/-- A request to add a member to a local workspace or to change one. -/
structure SaveTeamMemberInput where
  workspaceId : String
  memberId : Option String
  displayName : String
  role : String

end Client

end CNShell
