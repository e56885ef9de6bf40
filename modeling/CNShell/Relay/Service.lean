import CNShell.Library.Program
import CNShell.Relay.Terminal

/-! The relay's request handlers as programs over its database, one action per SQL transaction. -/

namespace CNShell

namespace Relay

/-- The atomic actions on the database: a query, a single statement or a whole transaction. -/
inductive Action : Type → Type 1
  | read {β : Type} (query : Db → RelayResult β) : Action β
  | insertAccount (account : Account) : Action Unit
  | insertAccountSession (session : AccountSession) : Action Unit
  | pruneAccountSessions (accountId : String) (now : Instant) : Action Unit
  | insertEmailVerification (verification : EmailVerification) : Action Unit
  | pruneEmailVerifications (accountId : String) (now : Instant) : Action Unit
  | verifyEmail (verificationHash : String) (now : Instant) : Action String
  | resendVerificationEmail (email verificationId verificationHash : String) (now : Instant) :
      Action Bool
  | bootstrapWorkspace (account : AccountAuth) (input : BootstrapWorkspaceInput)
      (workspaceName sessionId : String) (random : List UInt8) (now issuedAt : Instant) :
      Action DeviceSessionOutput
  | deleteStaleInvitations (now : Instant) : Action Unit
  | insertWorkspaceInvitation (invitation : WorkspaceInvitation) : Action Unit
  | acceptWorkspaceInvitation (account : AccountAuth) (input : AcceptWorkspaceInvitationInput)
      (draws : AcceptDraws) : Action DeviceSessionOutput
  | deleteWorkspace (workspaceId : String) : Action Unit
  | updateMember (auth : DeviceAuth) (workspaceId memberId : String) (role : Role)
      (status : MemberStatus) (now : Instant) : Action Int
  | revokeDevice (auth : DeviceAuth) (workspaceId deviceId : String) (now : Instant) : Action Int
  | deleteStaleChallenges (now : Instant) : Action Unit
  | insertDeviceChallenge (challenge : DeviceChallenge) : Action Unit
  | createDeviceSession (input : CreateDeviceSessionInput) (checkedAt now issuedAt : Instant)
      (sessionId : String) (random : List UInt8) : Action DeviceSessionOutput
  | createRoom (auth : DeviceAuth) (input : CreateRoomInput) (now : Instant) : Action RoomView
  | upsertRoomInvitation (roomId : String) (invitation : TeamTerminalInvitation) (now : Instant) :
      Action Unit
  | joinRoom (auth : DeviceAuth) (roomId : String) (checkedAt now : Instant) : Action RoomView
  | leaveRoom (auth : DeviceAuth) (roomId : String) (now : Instant) : Action Bool
  | grantControl (auth : DeviceAuth) (roomId memberId : String) (input : GrantControlInput)
      (leaseId : String) (now : Instant) : Action ControlLeaseOutput
  | revokeControl (auth : DeviceAuth) (roomId : String) : Action Unit
  | closeRoom (auth : DeviceAuth) (roomId : String) (now : Instant) : Action Unit
  | commitFrame (auth : DeviceAuth) (room : RoomView) (frame : TeamTerminalEncryptedFrame)
      (now prunedAt : Instant) : Action Unit

/-- What an action returns and leaves in the database. -/
def Action.run (platform : Platform) {β : Type} : Action β → Db → RelayResult (β × Db)
  | .read query => fun db => do return (← query db, db)
  | .insertAccount account => Relay.insertAccount account
  | .insertAccountSession session => Relay.insertAccountSession session
  | .pruneAccountSessions accountId now => Relay.pruneAccountSessions accountId now
  | .insertEmailVerification verification => Relay.insertEmailVerification verification
  | .pruneEmailVerifications accountId now => Relay.pruneEmailVerifications accountId now
  | .verifyEmail verificationHash now => Relay.verifyEmail verificationHash now
  | .resendVerificationEmail email verificationId verificationHash now =>
      Relay.resendVerificationEmail email verificationId verificationHash now
  | .bootstrapWorkspace account input workspaceName sessionId random now issuedAt =>
      Relay.bootstrapWorkspace platform account input workspaceName sessionId random now issuedAt
  | .deleteStaleInvitations now => Relay.deleteStaleInvitations now
  | .insertWorkspaceInvitation invitation => Relay.insertWorkspaceInvitation invitation
  | .acceptWorkspaceInvitation account input draws =>
      Relay.acceptWorkspaceInvitation platform account input draws
  | .deleteWorkspace workspaceId => Relay.deleteWorkspace workspaceId
  | .updateMember auth workspaceId memberId role status now =>
      Relay.updateMember auth workspaceId memberId role status now
  | .revokeDevice auth workspaceId deviceId now => Relay.revokeDevice auth workspaceId deviceId now
  | .deleteStaleChallenges now => Relay.deleteStaleChallenges now
  | .insertDeviceChallenge challenge => Relay.insertDeviceChallenge challenge
  | .createDeviceSession input checkedAt now issuedAt sessionId random =>
      Relay.createDeviceSession platform input checkedAt now issuedAt sessionId random
  | .createRoom auth input now => Relay.createRoom auth input now
  | .upsertRoomInvitation roomId invitation now => Relay.upsertRoomInvitation roomId invitation now
  | .joinRoom auth roomId checkedAt now => Relay.joinRoom platform auth roomId checkedAt now
  | .leaveRoom auth roomId now => Relay.leaveRoom auth roomId now
  | .grantControl auth roomId memberId input leaseId now =>
      Relay.grantControl auth roomId memberId input leaseId now
  | .revokeControl auth roomId => Relay.revokeControl auth roomId
  | .closeRoom auth roomId now => Relay.closeRoom auth roomId now
  | .commitFrame auth room frame now prunedAt =>
      Relay.commitFrame platform auth room frame now prunedAt

def semantics (platform : Platform) : Semantics Action RelayError Db where
  run action := action.run platform

theorem outcome_ok {platform : Platform} {β : Type} {action : Action β} {db next : Db} {value : β}
    (ran : action.run platform db = .ok (value, next)) :
    (semantics platform).outcome action db = (.ok value, next) :=
  Semantics.outcome_ok ran

theorem outcome_error {platform : Platform} {β : Type} {action : Action β} {db : Db}
    {error : RelayError} (ran : action.run platform db = .error error) :
    (semantics platform).outcome action db = (.error error, db) :=
  Semantics.outcome_error ran

abbrev Request := Program Action RelayError

/-- A query outside a transaction. -/
def select {β : Type} (query : Db → RelayResult β) : Request β := Program.perform (.read query)

/-- A statement or transaction. -/
def perform {β : Type} (action : Action β) : Request β := Program.perform action

/-- A check that needs no database. -/
def check {β : Type} (result : RelayResult β) : Request β := Program.lift result

/-- The clock readings, identifiers and random bytes of one request, in the order it draws them. -/
structure Draws where
  /-- The clock when the session was authenticated. -/
  authenticatedAt : Instant
  /-- The clock readings of the operation. -/
  clock : Nat → Instant
  /-- The random identifiers of the operation. -/
  uuid : Nat → String
  /-- The random bytes behind the operation's tokens. -/
  random : Nat → List UInt8
  /-- The salt of a new password hash. -/
  salt : String

variable (platform : Platform) (draws : Draws)

/-! ### Accounts -/

def issueAccountSession (accountId : String) : Request AccountSessionOutput := do
  let email ← select (verifiedEmail accountId)
  let (token, hash) := newToken platform "account-session" (draws.random 0)
  let now := draws.clock 0
  let expiresAt := now + minutes accountSessionMinutes
  perform (.insertAccountSession
    { id := draws.uuid 0
      accountId
      tokenHash := hash
      expiresAt
      revokedAt := none
      createdAt := now })
  perform (.pruneAccountSessions accountId now)
  return { accountId, email, token, expiresAt }

def issueEmailVerification (accountId : String) : Request Instant := do
  let (_, hash) := newToken platform "email-verification" (draws.random 0)
  let now := draws.clock 0
  let expiresAt := now + hours emailVerificationHours
  perform (.insertEmailVerification
    { id := draws.uuid 0
      accountId
      tokenHash := hash
      expiresAt
      usedAt := none
      createdAt := now })
  perform (.pruneEmailVerifications accountId now)
  return expiresAt

/-- The handler of `register_account`. -/
def registerAccount (input : RegisterAccountInput) (requireEmailVerification : Bool) :
    Request AccountRegistrationOutput := do
  let email ← check (cleanEmail input.email)
  let displayName ← check (cleanName input.displayName "显示名称")
  check (validatePassword input.password)
  let passwordHash ← check (required (platform.hashPassword input.password draws.salt) .internal)
  let accountId := draws.uuid 1
  let now := draws.clock 1
  perform (.insertAccount
    { id := accountId
      email
      displayName
      passwordHash
      status := .active
      emailVerifiedAt := if requireEmailVerification then none else some now
      emailVerificationSentAt := if requireEmailVerification then some now else none })
  if requireEmailVerification then
    let expiresAt ← issueEmailVerification platform draws accountId
    return {
      verificationRequired := true
      verificationExpiresAt := some expiresAt
      accountSession := none }
  else
    let session ← issueAccountSession platform draws accountId
    return {
      verificationRequired := false
      verificationExpiresAt := none
      accountSession := some session }

/-- The handler of `login`; a missing account is checked against a password hash all the same. -/
def login (input : LoginInput) : Request AccountSessionOutput := do
  let email ← check (cleanEmail input.email)
  let found ← select (loginAccount email)
  let wrong := RelayError.authentication "邮箱或密码错误"
  let (accountId, passwordHash, verifiedAt) ← check (required found wrong)
  check (ensure (platform.verifyPassword input.password passwordHash = true) wrong)
  check (ensure (verifiedAt ≠ none)
    (.permissionDenied "邮箱尚未验证，请先完成验证或重发验证邮件"))
  issueAccountSession platform draws accountId

/-- The handler of `verify_email`. -/
def verifyEmailRequest (token : String) : Request AccountSessionOutput := do
  check (validateTokenShape platform token)
  let accountId ← perform
    (.verifyEmail (tokenHash platform "email-verification" token) (draws.clock 1))
  issueAccountSession platform draws accountId

/-- The handler of `resend_verification_email`. -/
def resendVerificationEmailRequest (email : String) : Request Bool := do
  let email ← check (cleanEmail email)
  let (_, hash) := newToken platform "email-verification" (draws.random 0)
  perform (.resendVerificationEmail email (draws.uuid 0) hash (draws.clock 0))

/-- The handler of `bootstrap_workspace`, past authentication. -/
def bootstrapWorkspaceRequest (account : AccountAuth) (input : BootstrapWorkspaceInput) :
    Request DeviceSessionOutput := do
  check (validateUuid platform input.workspaceId "工作区 ID")
  check (validateUuid platform input.memberId "成员 ID")
  check (validateDevice platform input.device)
  let workspaceName ← check (cleanName input.workspaceName "工作区名称")
  perform (.bootstrapWorkspace account input workspaceName (draws.uuid 0) (draws.random 0)
    (draws.clock 0) (draws.clock 1))

/-- The handler of `accept_workspace_invitation`, past authentication. -/
def acceptWorkspaceInvitationRequest (account : AccountAuth)
    (input : AcceptWorkspaceInvitationInput) : Request DeviceSessionOutput := do
  check (validateDevice platform input.device)
  check (validateTokenShape platform input.token)
  perform (.acceptWorkspaceInvitation account input
    { checkedAt := draws.clock 0
      now := draws.clock 1
      issuedAt := draws.clock 2
      sessionId := draws.uuid 0
      random := draws.random 0 })

/-- The handler of `create_device_challenge`. -/
def createDeviceChallengeRequest (workspaceId deviceId : String) : Request DeviceChallengeOutput := do
  check (validateUuid platform workspaceId "工作区 ID")
  check (validateUuid platform deviceId "设备 ID")
  let active ← select (deviceIsActive workspaceId deviceId)
  check (ensure (active = true) (.notFound "活动设备不存在"))
  let challengeId := draws.uuid 0
  let (challenge, challengeHash) := newToken platform "device-challenge" (draws.random 0)
  let now := draws.clock 0
  let expiresAt := now + minutes deviceChallengeMinutes
  perform (.deleteStaleChallenges now)
  let waiting ← select (pendingChallenges deviceId)
  check (ensure (waiting < maxDeviceChallenges) (.conflict "设备待处理挑战已经达到 32 条上限"))
  perform (.insertDeviceChallenge
    { id := challengeId, deviceId, challengeHash, expiresAt, usedAt := none })
  return { challengeId, challenge, expiresAt }

/-- The handler of `create_device_session`. -/
def createDeviceSessionRequest (input : CreateDeviceSessionInput) : Request DeviceSessionOutput := do
  check (validateUuid platform input.challengeId "设备挑战 ID")
  check (validateTokenShape platform input.challenge)
  perform (.createDeviceSession input (draws.clock 0) (draws.clock 1) (draws.clock 2)
    (draws.uuid 0) (draws.random 0))

/-! ### Workspaces -/

def ownWorkspace (auth : DeviceAuth) (workspaceId : String) : RelayResult Unit :=
  ensure (auth.workspaceId = workspaceId) (.permissionDenied "设备不属于该工作区")

/-- The operation of `create_workspace_invitation`. -/
def createWorkspaceInvitationRequest (auth : DeviceAuth) (workspaceId : String)
    (input : CreateWorkspaceInvitationInput) : Request WorkspaceInvitationOutput := do
  check (ownWorkspace auth workspaceId)
  check (requirePermission auth.role .memberManage)
  check (validateUuid platform input.memberId "邀请成员 ID")
  let email ← check (cleanEmail input.email)
  let role ← check (invitedRole auth input)
  let (token, hash) := newToken platform "workspace-invitation" (draws.random 0)
  let invitationId := draws.uuid 0
  let now := draws.clock 0
  let expiresAt := now + hours workspaceInvitationHours
  perform (.deleteStaleInvitations now)
  let waiting ← select (pendingInvitations auth.workspaceId)
  check (ensure (waiting < maxWorkspaceInvitations)
    (.conflict "工作区待接受邀请已经达到 256 条上限"))
  perform (.insertWorkspaceInvitation
    { id := invitationId
      workspaceId := auth.workspaceId
      invitedByMemberId := auth.memberId
      memberId := input.memberId
      email
      role
      tokenHash := hash
      expiresAt
      acceptedAt := none
      revokedAt := none })
  return { invitationId, token, expiresAt }

/-- The operation of `workspace_snapshot`. -/
def workspaceSnapshotRequest (auth : DeviceAuth) (workspaceId : String) : Request WorkspaceSnapshot := do
  check (ownWorkspace auth workspaceId)
  check (requirePermission auth.role .memberRead)
  let (name, keyEpoch) ← select (workspaceHeader workspaceId)
  let members ← select (memberViews workspaceId)
  let devices ← select (deviceViews workspaceId)
  return { id := workspaceId, name, keyEpoch, members, devices }

/-- The operation of `delete_workspace`. -/
def deleteWorkspaceRequest (auth : DeviceAuth) (workspaceId : String) : Request Unit := do
  check (ensure (auth.workspaceId = workspaceId ∧ auth.role = .owner)
    (.permissionDenied "只有工作区 Owner 可以永久删除团队数据"))
  perform (.deleteWorkspace workspaceId)

/-- The operation of `update_member`. -/
def updateMemberRequest (auth : DeviceAuth) (workspaceId memberId : String)
    (input : UpdateMemberInput) : Request Int := do
  check (ownWorkspace auth workspaceId)
  check (requirePermission auth.role .memberManage)
  let (role, status) ← check (memberUpdate input)
  perform (.updateMember auth workspaceId memberId role status (draws.clock 0))

/-- The operation of `revoke_device`. -/
def revokeDeviceRequest (auth : DeviceAuth) (workspaceId deviceId : String) : Request Int := do
  check (ownWorkspace auth workspaceId)
  check (requirePermission auth.role .memberManage)
  check (validateUuid platform deviceId "设备 ID")
  perform (.revokeDevice auth workspaceId deviceId (draws.clock 0))

/-! ### Rooms -/

/-- The operation of `create_room`. -/
def createRoomRequest (auth : DeviceAuth) (input : CreateRoomInput) : Request RoomView := do
  check (requireDevicePermission auth .shareManage)
  check (validateUuid platform input.roomId "房间 ID")
  check (ensure (input.keyEpoch = auth.keyEpoch)
    (.permissionDenied "房间密钥 epoch 不是工作区当前值"))
  perform (.createRoom auth input (draws.clock 0))

/-- The operation of `route_invitation`. -/
def routeInvitationRequest (auth : DeviceAuth) (roomId : String)
    (invitation : TeamTerminalInvitation) : Request Unit := do
  check (validateInvitationShape platform invitation (draws.clock 0))
  let _ ← select (hostRoom auth roomId)
  check (checkInvitationRoute auth roomId invitation)
  let active ← select (recipientIsActive auth.workspaceId invitation.recipientMemberId
    invitation.recipientDeviceId)
  check (ensure (active = true) (.permissionDenied "邀请接收设备或成员已撤销"))
  let key ← select (signingKey auth.deviceId)
  check (verifyInvitationSignature platform invitation key)
  let participants ← select (participantCount roomId)
  let invited ← select (alreadyInvited roomId invitation.recipientDeviceId)
  check (ensure (¬(maxRoomParticipants ≤ participants ∧ invited = false))
    (.conflict "终端房间接收设备已经达到 64 台上限"))
  perform (.upsertRoomInvitation roomId invitation (draws.clock 1))

/-- The operation of `list_invitations`. -/
def listInvitationsRequest (auth : DeviceAuth) : Request (List RoutedRoomInvitation) := do
  check (requireDevicePermission auth .terminalView)
  select (listInvitations platform auth (draws.clock 0))

/-- The operation of `join_room`; that the new participants cannot be announced is ignored. -/
def joinRoomRequest (auth : DeviceAuth) (roomId : String) : Request RoomView := do
  check (requireDevicePermission auth .terminalView)
  let room ← perform (.joinRoom auth roomId (draws.clock 0) (draws.clock 1))
  (select (roomParticipants roomId)).ignore
  return room

/-- The operation of `leave_room`. -/
def leaveRoomRequest (auth : DeviceAuth) (roomId : String) : Request Unit := do
  check (validateUuid platform roomId "房间 ID")
  let room ← select (authorizeRoom auth roomId)
  check (ensure (room.hostDeviceId ≠ auth.deviceId)
    (.validation "主持设备必须关闭房间，不能以参与者身份离开"))
  let _ ← perform (.leaveRoom auth roomId (draws.clock 0))
  (select (roomParticipants roomId)).ignore

/-- The operation of `grant_control`. -/
def grantControlRequest (auth : DeviceAuth) (roomId : String) (input : GrantControlInput) :
    Request ControlLeaseOutput := do
  check (ensure (10 ≤ input.durationSeconds ∧ input.durationSeconds ≤ 300)
    (.validation "控制租约必须为 10 至 300 秒"))
  let _ ← select (hostRoom auth roomId)
  let (memberId, role) ← select (controlTarget roomId input.deviceId)
  check (ensure (role = .owner ∨ role = .admin ∨ role = .operator)
    (.permissionDenied "目标成员没有终端控制权限"))
  perform (.grantControl auth roomId memberId input (draws.uuid 0) (draws.clock 0))

/-- The operation of `revoke_control`. -/
def revokeControlRequest (auth : DeviceAuth) (roomId : String) : Request Unit := do
  let _ ← select (hostRoom auth roomId)
  perform (.revokeControl auth roomId)

/-- The operation of `close_room`. -/
def closeRoomRequest (auth : DeviceAuth) (roomId : String) : Request Unit := do
  let _ ← select (hostRoom auth roomId)
  perform (.closeRoom auth roomId (draws.clock 0))

/-- The operation of `process_frame`. -/
def processFrameRequest (auth : DeviceAuth) (frame : TeamTerminalEncryptedFrame) : Request Unit := do
  check (validateFrameShape platform frame)
  check (checkFrameSender auth frame)
  let room ← select (authorizeRoom auth frame.roomId)
  let key ← select (signingKey auth.deviceId)
  check (verifyFrameSignature platform frame key)
  perform (.commitFrame auth room frame (draws.clock 0) (draws.clock 1))

/-! ### Calls -/

/-- The calls that act for an authenticated device, frames sent over a socket included. -/
inductive DeviceCall
  | createWorkspaceInvitation (workspaceId : String) (input : CreateWorkspaceInvitationInput)
  | workspaceSnapshot (workspaceId : String)
  | deleteWorkspace (workspaceId : String) (confirmation : Option String)
  | updateMember (workspaceId memberId : String) (input : UpdateMemberInput)
  | revokeDevice (workspaceId deviceId : String)
  | createRoom (input : CreateRoomInput)
  | routeInvitation (roomId : String) (invitation : TeamTerminalInvitation)
  | listInvitations
  | joinRoom (roomId : String)
  | leaveRoom (roomId : String)
  | grantControl (roomId : String) (input : GrantControlInput)
  | revokeControl (roomId : String)
  | closeRoom (roomId : String)
  | processFrame (frame : TeamTerminalEncryptedFrame)

/-- What is checked of a call before its session is. -/
def DeviceCall.precheck : DeviceCall → RelayResult Unit
  | .deleteWorkspace workspaceId confirmation =>
      ensure (confirmation = some workspaceId) (.validation "永久删除需要精确确认工作区 ID")
  | _ => .ok ()

def DeviceCall.serve (auth : DeviceAuth) : DeviceCall → Request Unit
  | .createWorkspaceInvitation workspaceId input =>
      (createWorkspaceInvitationRequest platform draws auth workspaceId input).discard
  | .workspaceSnapshot workspaceId => (workspaceSnapshotRequest auth workspaceId).discard
  | .deleteWorkspace workspaceId _ => deleteWorkspaceRequest auth workspaceId
  | .updateMember workspaceId memberId input =>
      (updateMemberRequest draws auth workspaceId memberId input).discard
  | .revokeDevice workspaceId deviceId =>
      (revokeDeviceRequest platform draws auth workspaceId deviceId).discard
  | .createRoom input => (createRoomRequest platform draws auth input).discard
  | .routeInvitation roomId invitation => routeInvitationRequest platform draws auth roomId invitation
  | .listInvitations => (listInvitationsRequest platform draws auth).discard
  | .joinRoom roomId => (joinRoomRequest draws auth roomId).discard
  | .leaveRoom roomId => leaveRoomRequest platform draws auth roomId
  | .grantControl roomId input => (grantControlRequest draws auth roomId input).discard
  | .revokeControl roomId => revokeControlRequest auth roomId
  | .closeRoom roomId => closeRoomRequest draws auth roomId
  | .processFrame frame => processFrameRequest platform draws auth frame

/-- Every call a client can make. -/
inductive Call
  | registerAccount (input : RegisterAccountInput) (requireEmailVerification : Bool)
  | login (input : LoginInput)
  | verifyEmail (token : String)
  | resendVerificationEmail (email : String)
  | bootstrapWorkspace (token : String) (input : BootstrapWorkspaceInput)
  | acceptWorkspaceInvitation (token : String) (input : AcceptWorkspaceInvitationInput)
  | createDeviceChallenge (workspaceId deviceId : String)
  | createDeviceSession (input : CreateDeviceSessionInput)
  | device (token : String) (call : DeviceCall)

/-- The effects of a call, its authentication included. -/
def Call.serve : Call → Request Unit
  | .registerAccount input requireEmailVerification =>
      (Relay.registerAccount platform draws input requireEmailVerification).discard
  | .login input => (Relay.login platform draws input).discard
  | .verifyEmail token => (verifyEmailRequest platform draws token).discard
  | .resendVerificationEmail email =>
      (resendVerificationEmailRequest platform draws email).discard
  | .bootstrapWorkspace token input => do
      let account ← select (authenticateAccount platform token draws.authenticatedAt)
      (bootstrapWorkspaceRequest platform draws account input).discard
  | .acceptWorkspaceInvitation token input => do
      let account ← select (authenticateAccount platform token draws.authenticatedAt)
      (acceptWorkspaceInvitationRequest platform draws account input).discard
  | .createDeviceChallenge workspaceId deviceId =>
      (createDeviceChallengeRequest platform draws workspaceId deviceId).discard
  | .createDeviceSession input => (createDeviceSessionRequest platform draws input).discard
  | .device token call => do
      check call.precheck
      let auth ← select (authenticateDevice platform token draws.authenticatedAt)
      call.serve platform draws auth

/-- The relay: any number of calls in progress on one database that starts empty. -/
def service (platform : Platform) : System (Pool Action RelayError Db) (Pool.Label Action RelayError) :=
  Pool.system (semantics platform)
    (fun program => ∃ call draws, program = Call.serve platform draws call)
    fun db => db = Db.empty

/-- The databases the relay can reach. -/
def ReachableDb (platform : Platform) (db : Db) : Prop := ∃ threads, (service platform).Reachable ⟨db, threads⟩

end Relay

end CNShell
