import CNShell.Library.Machine

/-! The enumerations, requests, answers and errors of the team relay. -/

namespace CNShell

/-- A wall-clock reading, in nanoseconds since the Unix epoch. -/
abbrev Instant := Int

/-- The length of some seconds. -/
def seconds (count : Int) : Int := count * 1000000000

/-- The length of some minutes. -/
def minutes (count : Int) : Int := seconds (60 * count)

/-- The length of some hours. -/
def hours (count : Int) : Int := minutes (60 * count)

/-- The roles a workspace member can have. -/
inductive Role
  | owner
  | admin
  | operator
  | viewer
  deriving DecidableEq, Repr

namespace Role

/-- The role as requests, answers and the database spell it. -/
def text : Role → String
  | owner => "owner"
  | admin => "admin"
  | operator => "operator"
  | viewer => "viewer"

/-- The role a text names, if it names one. -/
def parse? : String → Option Role
  | "owner" => some owner
  | "admin" => some admin
  | "operator" => some operator
  | "viewer" => some viewer
  | _ => none

@[simp] theorem parse?_text (role : Role) : parse? role.text = some role := by
  cases role <;> rfl

end Role

/-- Whether an account may be used. -/
inductive AccountStatus
  | active
  | disabled
  deriving DecidableEq, Repr

inductive WorkspaceStatus
  | active
  | deleted
  deriving DecidableEq, Repr

/-- Whether a member still belongs to the workspace. -/
inductive MemberStatus
  | active
  | removed
  deriving DecidableEq, Repr

namespace MemberStatus

def text : MemberStatus → String
  | active => "active"
  | removed => "removed"

/-- The member status a text names, if it names one. -/
def parse? : String → Option MemberStatus
  | "active" => some active
  | "removed" => some removed
  | _ => none

@[simp] theorem parse?_text (status : MemberStatus) : parse? status.text = some status := by
  cases status <;> rfl

end MemberStatus

/-- Whether a device may be used. -/
inductive DeviceStatus
  | active
  | revoked
  deriving DecidableEq, Repr

namespace DeviceStatus

def text : DeviceStatus → String
  | active => "active"
  | revoked => "revoked"

/-- The device status a text names, if it names one. -/
def parse? : String → Option DeviceStatus
  | "active" => some active
  | "revoked" => some revoked
  | _ => none

@[simp] theorem parse?_text (status : DeviceStatus) : parse? status.text = some status := by
  cases status <;> rfl

end DeviceStatus

/-- Whether a terminal room is open. -/
inductive RoomStatus
  | active
  | closed
  deriving DecidableEq, Repr

def RoomStatus.text : RoomStatus → String
  | active => "active"
  | closed => "closed"

/-- What a role may be asked for. -/
inductive Permission
  | memberRead
  | memberManage
  | terminalView
  | terminalControl
  | shareManage
  deriving DecidableEq, Repr

def Permission.text : Permission → String
  | memberRead => "memberRead"
  | memberManage => "memberManage"
  | terminalView => "terminalView"
  | terminalControl => "terminalControl"
  | shareManage => "shareManage"

/-- The errors of the relay; all but the last two carry the text the caller sees. -/
inductive RelayError
  | validation (message : String)
  | authentication (message : String)
  | permissionDenied (message : String)
  | notFound (message : String)
  | conflict (message : String)
  | unavailable (message : String)
  | storage
  | internal
  deriving DecidableEq, Repr

/-- What a relay operation returns. -/
abbrev RelayResult := Except RelayError

structure RegisterAccountInput where
  email : String
  password : String
  displayName : String

/-- A request to log in. -/
structure LoginInput where
  email : String
  password : String

structure AccountSessionOutput where
  accountId : String
  email : String
  token : String
  expiresAt : Instant

structure AccountRegistrationOutput where
  verificationRequired : Bool
  verificationExpiresAt : Option Instant
  accountSession : Option AccountSessionOutput

structure DeviceRegistration where
  id : String
  name : String
  encryptionPublicKey : String
  signingPublicKey : String
  fingerprint : String
  deriving DecidableEq

/-- A request to open a workspace. -/
structure BootstrapWorkspaceInput where
  workspaceId : String
  workspaceName : String
  memberId : String
  device : DeviceRegistration

structure DeviceSessionOutput where
  workspaceId : String
  memberId : String
  deviceId : String
  role : Role
  keyEpoch : Int
  token : String
  expiresAt : Instant

/-- A request to invite a member. -/
structure CreateWorkspaceInvitationInput where
  email : String
  role : String
  memberId : String

structure WorkspaceInvitationOutput where
  invitationId : String
  token : String
  expiresAt : Instant

structure AcceptWorkspaceInvitationInput where
  token : String
  device : DeviceRegistration

structure WorkspaceMemberView where
  id : String
  displayName : String
  role : String
  status : String
  deriving DecidableEq

structure WorkspaceDeviceView where
  id : String
  memberId : String
  name : String
  encryptionPublicKey : String
  signingPublicKey : String
  fingerprint : String
  status : String
  deriving DecidableEq

/-- The members and devices of a workspace, removed and revoked ones included. -/
structure WorkspaceSnapshot where
  id : String
  name : String
  keyEpoch : Int
  members : List WorkspaceMemberView
  devices : List WorkspaceDeviceView

/-- A request to change a member. -/
structure UpdateMemberInput where
  role : String
  status : String

structure DeviceChallengeOutput where
  challengeId : String
  challenge : String
  expiresAt : Instant

/-- A request to open a device session with a signed challenge. -/
structure CreateDeviceSessionInput where
  challengeId : String
  challenge : String
  signature : String

/-- The envelope in which a host hands a room key to one device. -/
structure TeamTerminalInvitation where
  schemaVersion : UInt32
  roomId : String
  workspaceId : String
  keyEpoch : Int
  hostMemberId : String
  hostDeviceId : String
  recipientMemberId : String
  recipientDeviceId : String
  ephemeralPublicKey : String
  keyNonce : String
  wrappedRoomKey : String
  replayFromSequence : UInt64
  nextInputSequence : UInt64
  createdAt : String
  expiresAt : String
  signature : Option String
  deriving DecidableEq

structure TeamTerminalEncryptedFrame where
  schemaVersion : UInt32
  workspaceId : String
  roomId : String
  keyEpoch : Int
  senderMemberId : String
  senderDeviceId : String
  direction : String
  kind : String
  sequence : UInt64
  leaseId : Option String
  leaseGeneration : UInt64
  nonce : String
  ciphertext : String
  signature : Option String
  deriving DecidableEq

/-- A request to open a terminal room. -/
structure CreateRoomInput where
  roomId : String
  keyEpoch : Int

/-- A room as the relay describes it. -/
structure RoomView where
  id : String
  workspaceId : String
  hostMemberId : String
  hostDeviceId : String
  keyEpoch : Int
  status : RoomStatus
  deriving DecidableEq

/-- An invitation as it is listed for its recipient. -/
structure RoutedRoomInvitation where
  roomId : String
  invitation : TeamTerminalInvitation

/-- A request to hand terminal control to a device. -/
structure GrantControlInput where
  deviceId : String
  durationSeconds : UInt64

structure ControlLeaseOutput where
  leaseId : String
  memberId : String
  deviceId : String
  generation : UInt64
  expiresAt : Instant
  deriving DecidableEq

/-- A participant as the relay announces it. -/
structure TerminalParticipantOutput where
  memberId : String
  deviceId : String
  role : Role
  joinedAt : Instant
  deriving DecidableEq

/-- Every message the relay sends over a room socket. -/
inductive ServerSocketMessage
  | ready (latestOutputSequence nextInputSequence : UInt64)
  | accepted (direction : String) (sequence : UInt64)
  | frame (frame : TeamTerminalEncryptedFrame)
  | control (lease : Option ControlLeaseOutput)
  | participants (participants : List TerminalParticipantOutput)
  | closed
  | error (code message : String)
  deriving DecidableEq

/-- The account a request acts for. -/
structure AccountAuth where
  accountId : String
  email : String
  displayName : String

/-- The device a request acts for, as its session was when the request was authenticated. -/
structure DeviceAuth where
  accountId : String
  workspaceId : String
  memberId : String
  deviceId : String
  role : Role
  keyEpoch : Int

end CNShell
