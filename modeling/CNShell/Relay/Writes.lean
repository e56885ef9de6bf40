import CNShell.Relay.Effects

/-! Which tables each action may write, and that it leaves every other table as it was. -/

namespace CNShell

namespace Relay

/-- An action that was performed, with the database it found. -/
abbrev Entry := Db × Event Action RelayError

inductive TableName
  | accounts
  | accountSessions
  | emailVerifications
  | workspaces
  | members
  | devices
  | deviceSessions
  | deviceChallenges
  | workspaceInvitations
  | terminalRooms
  | roomInvitations
  | roomParticipants
  | controlLeases
  | relayFrames
  deriving DecidableEq

def Action.writes {β : Type} : Action β → List TableName
  | .read _ => []
  | .insertAccount _ => [.accounts]
  | .insertAccountSession _ => [.accountSessions]
  | .pruneAccountSessions _ _ => [.accountSessions]
  | .insertEmailVerification _ => [.emailVerifications]
  | .pruneEmailVerifications _ _ => [.emailVerifications]
  | .verifyEmail _ _ => [.accounts, .emailVerifications]
  | .resendVerificationEmail _ _ _ _ => [.accounts, .emailVerifications]
  | .bootstrapWorkspace _ _ _ _ _ _ _ => [.workspaces, .members, .devices, .deviceSessions]
  | .deleteStaleInvitations _ => [.workspaceInvitations]
  | .insertWorkspaceInvitation _ => [.workspaceInvitations]
  | .acceptWorkspaceInvitation _ _ _ =>
      [.workspaces, .members, .devices, .deviceSessions, .workspaceInvitations, .terminalRooms]
  | .deleteWorkspace _ =>
      [.workspaces, .members, .devices, .deviceSessions, .deviceChallenges, .workspaceInvitations,
        .terminalRooms, .roomInvitations, .roomParticipants, .controlLeases, .relayFrames]
  | .updateMember _ _ _ _ _ _ => [.workspaces, .members, .devices, .deviceSessions, .terminalRooms]
  | .revokeDevice _ _ _ _ => [.workspaces, .devices, .deviceSessions, .terminalRooms]
  | .deleteStaleChallenges _ => [.deviceChallenges]
  | .insertDeviceChallenge _ => [.deviceChallenges]
  | .createDeviceSession _ _ _ _ _ _ => [.deviceSessions, .deviceChallenges]
  | .createRoom _ _ _ =>
      [.terminalRooms, .roomInvitations, .roomParticipants, .controlLeases, .relayFrames]
  | .upsertRoomInvitation _ _ _ => [.roomInvitations]
  | .joinRoom _ _ _ _ => [.roomInvitations, .roomParticipants]
  | .leaveRoom _ _ _ => [.roomParticipants, .controlLeases]
  | .grantControl _ _ _ _ _ _ => [.terminalRooms, .controlLeases]
  | .revokeControl _ _ => [.controlLeases]
  | .closeRoom _ _ _ => [.terminalRooms, .controlLeases, .relayFrames]
  | .commitFrame _ _ _ _ _ => [.terminalRooms, .roomParticipants, .relayFrames]

structure Agree (touched : List TableName) (db next : Db) : Prop where
  accounts : .accounts ∉ touched → next.accounts = db.accounts
  accountSessions : .accountSessions ∉ touched → next.accountSessions = db.accountSessions
  emailVerifications : .emailVerifications ∉ touched → next.emailVerifications = db.emailVerifications
  workspaces : .workspaces ∉ touched → next.workspaces = db.workspaces
  members : .members ∉ touched → next.members = db.members
  devices : .devices ∉ touched → next.devices = db.devices
  deviceSessions : .deviceSessions ∉ touched → next.deviceSessions = db.deviceSessions
  deviceChallenges : .deviceChallenges ∉ touched → next.deviceChallenges = db.deviceChallenges
  workspaceInvitations : .workspaceInvitations ∉ touched → next.workspaceInvitations = db.workspaceInvitations
  terminalRooms : .terminalRooms ∉ touched → next.terminalRooms = db.terminalRooms
  roomInvitations : .roomInvitations ∉ touched → next.roomInvitations = db.roomInvitations
  roomParticipants : .roomParticipants ∉ touched → next.roomParticipants = db.roomParticipants
  controlLeases : .controlLeases ∉ touched → next.controlLeases = db.controlLeases
  relayFrames : .relayFrames ∉ touched → next.relayFrames = db.relayFrames

variable {platform : Platform} {db next : Db}

theorem updateMember_agree (workspaceId memberId : String) (role : Role) (status : MemberStatus)
    (now : Instant) :
    Agree [.workspaces, .members, .devices, .deviceSessions, .terminalRooms] db
      (closeWorkspaceRooms workspaceId now (raiseEpoch workspaceId
        (applyMemberUpdate workspaceId memberId role status now db))) := by
  unfold applyMemberUpdate
  constructor <;> intro untouched <;> split <;> first | rfl | exact absurd (by decide) untouched

theorem commitFrame_agree {auth : DeviceAuth} {room : RoomView} {frame : TeamTerminalEncryptedFrame}
    {now prunedAt : Instant} {u : Unit}
    (done : commitFrame platform auth room frame now prunedAt db = .ok (u, next)) :
    Agree [.terminalRooms, .roomParticipants, .relayFrames] db next := by
  rcases commitFrame_ok done with ⟨-, output⟩ | ⟨-, input⟩
  · obtain ⟨-, -, -, -, stored, frames, -, -, -, -, -, rfl⟩ := acceptOutput_eq_ok.mp output
    constructor <;> intro untouched <;> first | rfl | exact absurd (by decide) untouched
  · obtain ⟨-, -, -, -, participant, lease, -, -, -, -, -, -, -, rfl⟩ := acceptInput_eq_ok.mp input
    constructor <;> intro untouched <;> first | rfl | exact absurd (by decide) untouched

theorem acceptWorkspaceInvitation_agree {account : AccountAuth}
    {input : AcceptWorkspaceInvitationInput} {draws : AcceptDraws} {output : DeviceSessionOutput}
    (done : acceptWorkspaceInvitation platform account input draws db = .ok (output, next)) :
    Agree [.workspaces, .members, .devices, .deviceSessions, .workspaceInvitations, .terminalRooms]
      db next := by
  obtain ⟨invitation, -, ⟨sessions, rfl⟩ | ⟨-, members, _, devices, _, sessions, -, -, -, -, rfl⟩⟩ :=
    acceptWorkspaceInvitation_ok done
  · constructor <;> intro untouched <;> first | rfl | exact absurd (by decide) untouched
  · constructor <;> intro untouched <;> first | rfl | exact absurd (by decide) untouched

/-- A successful action leaves every table it does not write as it was. -/
theorem Action.run_agree {β : Type} {action : Action β} {value : β}
    (ran : action.run platform db = .ok (value, next)) : Agree action.writes db next := by
  -- Each case reads off what the action left; the tables are then compared all at once.
  cases action
  case' read query =>
    simp only [Action.run, bind_eq_ok, pure_eq_ok, Prod.mk.injEq] at ran
    obtain ⟨_, -, -, rfl⟩ := ran
  case' insertAccount account =>
    obtain ⟨-, accounts, -, rfl⟩ := insertAccount_eq_ok.mp ran
  case' insertAccountSession session =>
    obtain ⟨-, sessions, -, -, rfl⟩ := insertAccountSession_eq_ok.mp ran
  case' pruneAccountSessions accountId now =>
    simp only [Action.run, Relay.pruneAccountSessions, pure_eq_ok, Prod.mk.injEq] at ran
    obtain ⟨-, rfl⟩ := ran
  case' insertEmailVerification verification =>
    obtain ⟨-, verifications, -, -, rfl⟩ := insertEmailVerification_eq_ok.mp ran
  case' pruneEmailVerifications accountId now =>
    simp only [Action.run, Relay.pruneEmailVerifications, pure_eq_ok, Prod.mk.injEq] at ran
    obtain ⟨-, rfl⟩ := ran
  case' verifyEmail hash now =>
    obtain ⟨accounts, -, rfl⟩ := verifyEmail_ok ran
  case' resendVerificationEmail email verificationId hash now =>
    rcases resendVerificationEmail_ok ran with rfl | ⟨selected, verifications, rfl, -⟩
  case' bootstrapWorkspace account input workspaceName sessionId random now issuedAt =>
    obtain ⟨-, workspaces, members, opened, -, -, -, -, device, issued⟩ :=
      bootstrapWorkspace_eq_ok.mp ran
    obtain ⟨_, devices, -, -, -, -, rfl⟩ := insertDevice_eq_ok.mp device
    obtain ⟨-, sessions, -, -, -, rfl⟩ := issueDeviceSession_eq_ok.mp issued
  case' deleteStaleInvitations now =>
    simp only [Action.run, Relay.deleteStaleInvitations, pure_eq_ok, Prod.mk.injEq] at ran
    obtain ⟨-, rfl⟩ := ran
  case' insertWorkspaceInvitation invitation =>
    obtain ⟨-, invitations, -, -, -, rfl⟩ := insertWorkspaceInvitation_eq_ok.mp ran
  case acceptWorkspaceInvitation account input draws => exact acceptWorkspaceInvitation_agree ran
  case' deleteWorkspace workspaceId =>
    obtain ⟨-, -, rfl⟩ := deleteWorkspace_eq_ok.mp ran
  case updateMember auth workspaceId memberId role status now =>
    obtain ⟨_, _, -, -, -, -, -, -, -, -, rfl⟩ := updateMember_eq_ok.mp ran
    exact updateMember_agree _ _ _ _ _
  case' revokeDevice auth workspaceId deviceId now =>
    obtain ⟨_, _, -, -, -, -, -, -, -, -, rfl⟩ := revokeDevice_eq_ok.mp ran
  case' deleteStaleChallenges now =>
    simp only [Action.run, Relay.deleteStaleChallenges, pure_eq_ok, Prod.mk.injEq] at ran
    obtain ⟨-, rfl⟩ := ran
  case' insertDeviceChallenge challenge =>
    obtain ⟨challenges, -, -, rfl⟩ := insertDeviceChallenge_eq_ok.mp ran
  case' createDeviceSession input checkedAt now issuedAt sessionId random =>
    obtain ⟨_, issued⟩ := createDeviceSession_ok ran
    obtain ⟨-, sessions, -, -, -, rfl⟩ := issueDeviceSession_eq_ok.mp issued
  case' createRoom auth input now =>
    obtain ⟨-, rooms, participants, -, -, -, -, -, -, rfl⟩ := createRoom_eq_ok.mp ran
  case' upsertRoomInvitation roomId invitation now =>
    obtain ⟨-, -, rfl⟩ := upsertRoomInvitation_eq_ok.mp ran
  case' joinRoom auth roomId checkedAt now =>
    obtain ⟨_, _, -, -, -, -, -, -, -, -, -, -, -, -, -, rfl⟩ := joinRoom_eq_ok.mp ran
  case' leaveRoom auth roomId now =>
    obtain ⟨_, -, -, -, -, -, -, rfl⟩ := leaveRoom_eq_ok.mp ran
  case' grantControl auth roomId memberId input leaseId now =>
    obtain ⟨_, -, -, -, -, -, -, -, -, -, rfl⟩ := grantControl_eq_ok.mp ran
  case' revokeControl auth roomId =>
    obtain ⟨-, -, rfl⟩ := revokeControl_eq_ok.mp ran
  case' closeRoom auth roomId now =>
    obtain ⟨-, -, rfl⟩ := closeRoom_eq_ok.mp ran
  case commitFrame auth room frame now prunedAt => exact commitFrame_agree ran
  all_goals
    constructor <;> intro untouched <;>
      first | rfl | exact absurd (by simp [Action.writes]) untouched

end Relay

end CNShell
