import CNShell.Library.Checked
import CNShell.Library.Table
import CNShell.Relay.Models

/-! The relay's database: one table per SQL table, with its primary key and foreign keys. -/

namespace CNShell

/-- A row of `accounts`. -/
structure Account where
  id : String
  email : String
  displayName : String
  passwordHash : String
  status : AccountStatus
  emailVerifiedAt : Option Instant
  emailVerificationSentAt : Option Instant

/-- A row of `account_sessions`. -/
structure AccountSession where
  id : String
  accountId : String
  tokenHash : String
  expiresAt : Instant
  revokedAt : Option Instant
  createdAt : Instant

/-- A row of `account_email_verifications`. -/
structure EmailVerification where
  id : String
  accountId : String
  tokenHash : String
  expiresAt : Instant
  usedAt : Option Instant
  createdAt : Instant

/-- A row of `workspaces`. -/
structure Workspace where
  id : String
  name : String
  keyEpoch : Int
  status : WorkspaceStatus

/-- A row of `members`. -/
structure Member where
  id : String
  workspaceId : String
  accountId : String
  displayName : String
  role : Role
  status : MemberStatus
  joinedAt : Instant
  deriving DecidableEq

/-- A row of `devices`. -/
structure Device where
  id : String
  workspaceId : String
  memberId : String
  name : String
  encryptionPublicKey : String
  signingPublicKey : String
  fingerprint : String
  status : DeviceStatus
  createdAt : Instant
  deriving DecidableEq

/-- A row of `device_sessions`. -/
structure DeviceSession where
  id : String
  deviceId : String
  tokenHash : String
  expiresAt : Instant
  revokedAt : Option Instant
  createdAt : Instant
  deriving DecidableEq

/-- A row of `device_challenges`. -/
structure DeviceChallenge where
  id : String
  deviceId : String
  challengeHash : String
  expiresAt : Instant
  usedAt : Option Instant

/-- A row of `workspace_invitations`. -/
structure WorkspaceInvitation where
  id : String
  workspaceId : String
  invitedByMemberId : String
  memberId : String
  email : String
  role : Role
  tokenHash : String
  expiresAt : Instant
  acceptedAt : Option Instant
  revokedAt : Option Instant

/-- A row of `terminal_rooms`. -/
structure TerminalRoom where
  id : String
  workspaceId : String
  hostMemberId : String
  hostDeviceId : String
  keyEpoch : Int
  status : RoomStatus
  nextOutputSequence : Int
  leaseGeneration : Int
  closedAt : Option Instant

/-- A row of `room_invitations`; its expiry is the text the host wrote. -/
structure RoomInvitation where
  roomId : String
  recipientDeviceId : String
  envelope : TeamTerminalInvitation
  expiresAt : String
  acceptedAt : Option Instant
  createdAt : Instant

/-- A row of `room_participants`. -/
structure RoomParticipant where
  roomId : String
  memberId : String
  deviceId : String
  nextInputSequence : Int
  joinedAt : Instant
  removedAt : Option Instant

/-- A row of `room_control_leases`. -/
structure ControlLease where
  roomId : String
  leaseId : String
  memberId : String
  deviceId : String
  generation : Int
  expiresAt : Instant

/-- A row of `relay_frames`. -/
structure RelayFrame where
  roomId : String
  sequence : Int
  envelope : TeamTerminalEncryptedFrame
  encodedBytes : Int
  createdAt : Instant

def RoomInvitation.key (row : RoomInvitation) : String × String := (row.roomId, row.recipientDeviceId)

def RoomParticipant.key (row : RoomParticipant) : String × String := (row.roomId, row.deviceId)

def RelayFrame.key (row : RelayFrame) : String × Int := (row.roomId, row.sequence)

/-- The tables of the relay. -/
structure Db where
  accounts : Table Account.id
  accountSessions : Table AccountSession.id
  emailVerifications : Table EmailVerification.id
  workspaces : Table Workspace.id
  members : Table Member.id
  devices : Table Device.id
  deviceSessions : Table DeviceSession.id
  deviceChallenges : Table DeviceChallenge.id
  workspaceInvitations : Table WorkspaceInvitation.id
  terminalRooms : Table TerminalRoom.id
  roomInvitations : Table RoomInvitation.key
  roomParticipants : Table RoomParticipant.key
  controlLeases : Table ControlLease.roomId
  relayFrames : Table RelayFrame.key

namespace Db

/-- The database right after its migrations. -/
def empty : Db where
  accounts := .empty
  accountSessions := .empty
  emailVerifications := .empty
  workspaces := .empty
  members := .empty
  devices := .empty
  deviceSessions := .empty
  deviceChallenges := .empty
  workspaceInvitations := .empty
  terminalRooms := .empty
  roomInvitations := .empty
  roomParticipants := .empty
  controlLeases := .empty
  relayFrames := .empty

/-- Every foreign key of the schema names a stored row. -/
def References (db : Db) : Prop :=
  Table.Refers db.accountSessions AccountSession.accountId db.accounts ∧
  Table.Refers db.emailVerifications EmailVerification.accountId db.accounts ∧
  Table.Refers db.members Member.workspaceId db.workspaces ∧
  Table.Refers db.members Member.accountId db.accounts ∧
  Table.Refers db.devices Device.workspaceId db.workspaces ∧
  Table.Refers db.devices Device.memberId db.members ∧
  Table.Refers db.deviceSessions DeviceSession.deviceId db.devices ∧
  Table.Refers db.deviceChallenges DeviceChallenge.deviceId db.devices ∧
  Table.Refers db.workspaceInvitations WorkspaceInvitation.workspaceId db.workspaces ∧
  Table.Refers db.workspaceInvitations WorkspaceInvitation.invitedByMemberId db.members ∧
  Table.Refers db.terminalRooms TerminalRoom.workspaceId db.workspaces ∧
  Table.Refers db.terminalRooms TerminalRoom.hostMemberId db.members ∧
  Table.Refers db.terminalRooms TerminalRoom.hostDeviceId db.devices ∧
  Table.Refers db.roomInvitations RoomInvitation.roomId db.terminalRooms ∧
  Table.Refers db.roomInvitations RoomInvitation.recipientDeviceId db.devices ∧
  Table.Refers db.roomParticipants RoomParticipant.roomId db.terminalRooms ∧
  Table.Refers db.roomParticipants RoomParticipant.memberId db.members ∧
  Table.Refers db.roomParticipants RoomParticipant.deviceId db.devices ∧
  Table.Refers db.controlLeases ControlLease.roomId db.terminalRooms ∧
  Table.Refers db.controlLeases ControlLease.memberId db.members ∧
  Table.Refers db.controlLeases ControlLease.deviceId db.devices ∧
  Table.Refers db.relayFrames RelayFrame.roomId db.terminalRooms

instance (db : Db) : Decidable db.References :=
  inferInstanceAs (Decidable (_ ∧ _ ∧ _ ∧ _ ∧ _ ∧ _ ∧ _ ∧ _ ∧ _ ∧ _ ∧ _ ∧ _ ∧ _ ∧ _ ∧ _ ∧ _ ∧ _ ∧ _ ∧ _ ∧ _ ∧ _ ∧ _))

/-- Whether the foreign key of a new row to a workspace is satisfied. -/
def hasWorkspace (db : Db) (id : String) : Bool := (db.workspaces.find? id).isSome

/-- Whether the foreign key of a new row to a member is satisfied. -/
def hasMember (db : Db) (id : String) : Bool := (db.members.find? id).isSome

/-- Whether the foreign key of a new row to a device is satisfied. -/
def hasDevice (db : Db) (id : String) : Bool := (db.devices.find? id).isSome

/-- Whether the foreign key of a new row to a room is satisfied. -/
def hasRoom (db : Db) (id : String) : Bool := (db.terminalRooms.find? id).isSome

/-- The deletion of some rooms by identifier, which cascades to everything stored for them. -/
def dropRooms (db : Db) (gone : List String) : Db :=
  { db with
    terminalRooms := db.terminalRooms.delete fun room => room.id ∈ gone
    roomInvitations := db.roomInvitations.delete fun row => row.roomId ∈ gone
    roomParticipants := db.roomParticipants.delete fun row => row.roomId ∈ gone
    controlLeases := db.controlLeases.delete fun row => row.roomId ∈ gone
    relayFrames := db.relayFrames.delete fun row => row.roomId ∈ gone }

@[simp] theorem dropRooms_nil (db : Db) : db.dropRooms [] = db := by
  simp only [dropRooms, List.not_mem_nil, decide_false]
  rw [Table.delete_eq_self (fun _ _ => rfl), Table.delete_eq_self (fun _ _ => rfl),
    Table.delete_eq_self (fun _ _ => rfl), Table.delete_eq_self (fun _ _ => rfl),
    Table.delete_eq_self (fun _ _ => rfl)]

/-- The deletion of a workspace, which cascades along every `ON DELETE CASCADE` reference. -/
def dropWorkspace (db : Db) (workspaceId : String) : Db :=
  let members := (db.members.rows.filter fun row => row.workspaceId = workspaceId).map Member.id
  let devices := (db.devices.rows.filter fun row =>
    row.workspaceId = workspaceId ∨ row.memberId ∈ members).map Device.id
  let rooms := (db.terminalRooms.rows.filter fun row =>
    row.workspaceId = workspaceId).map TerminalRoom.id
  { db.dropRooms rooms with
    workspaces := db.workspaces.delete fun row => row.id = workspaceId
    members := db.members.delete fun row => row.id ∈ members
    devices := db.devices.delete fun row => row.id ∈ devices
    deviceSessions := db.deviceSessions.delete fun row => row.deviceId ∈ devices
    deviceChallenges := db.deviceChallenges.delete fun row => row.deviceId ∈ devices
    workspaceInvitations := db.workspaceInvitations.delete fun row =>
      row.workspaceId = workspaceId }

end Db

/-- A stored integer is only read back while it fits a signed word. -/
def decodeI64 (value : Int) : RelayResult Int := do
  ensure (InI64 value) .storage
  return value

@[simp] theorem decodeI64_eq_ok {value read : Int} : decodeI64 value = .ok read ↔ InI64 value ∧ value = read := by
  simp [decodeI64]

end CNShell
