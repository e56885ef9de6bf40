import CNShell.Relay.Platform
import CNShell.Relay.Schema

/-! The statements and transactions of the relay's account, workspace and session store. -/

namespace CNShell

namespace Relay

def accountSessionMinutes : Int := 10

def deviceSessionMinutes : Int := 15

def deviceChallengeMinutes : Int := 2

def emailVerificationHours : Int := 1

/-- How long a verification email holds back the next one. -/
def emailResendSeconds : Int := 60

def workspaceInvitationHours : Int := 24

def maxAccountSessions : Nat := 16

def maxEmailVerifications : Nat := 8

/-- How many active workspaces one account may own. -/
def maxAccountWorkspaces : Nat := 32

def maxDeviceSessions : Nat := 16

def maxDeviceChallenges : Nat := 32

def maxWorkspaceInvitations : Nat := 256

def maxWorkspaceMembers : Nat := 256

/-- The newest rows by a time column, as `ORDER BY ... DESC LIMIT` selects them. -/
def newest {ρ : Type} (time : ρ → Instant) (limit : Nat) (rows : List ρ) : List ρ :=
  (rows.mergeSort fun first second => decide (time second ≤ time first)).take limit

def oldestFirst {ρ : Type} (time : ρ → Instant) (id : ρ → String) (rows : List ρ) : List ρ :=
  rows.mergeSort fun first second =>
    decide (time first < time second ∨ time first = time second ∧ ¬id second < id first)

/-! ### Accounts -/

def insertAccount (account : Account) (db : Db) : RelayResult (Unit × Db) := do
  let taken := RelayError.conflict "该邮箱已经注册"
  ensure (¬∃ held ∈ db.accounts.rows, held.email = account.email) taken
  let accounts ← required (db.accounts.insert account) taken
  return ((), { db with accounts })

def verifiedEmail (accountId : String) (db : Db) : RelayResult String := do
  let account ← required
    ((db.accounts.find? accountId).filter fun account =>
      account.status = .active ∧ account.emailVerifiedAt ≠ none)
    (.authentication "账号不可用或邮箱尚未验证")
  return account.email

def insertAccountSession (session : AccountSession) (db : Db) : RelayResult (Unit × Db) := do
  ensure (¬∃ held ∈ db.accountSessions.rows, held.tokenHash = session.tokenHash) .storage
  let accountSessions ← required (db.accountSessions.insert session) .storage
  ensure ((db.accounts.find? session.accountId).isSome) .storage
  return ((), { db with accountSessions })

def pruneAccountSessions (accountId : String) (now : Instant) (db : Db) : RelayResult (Unit × Db) :=
  let kept := (newest AccountSession.createdAt maxAccountSessions
    (db.accountSessions.rows.filter fun session => session.accountId = accountId)).map
      AccountSession.id
  let accountSessions := db.accountSessions.delete fun session =>
    session.expiresAt ≤ now ∨ session.accountId = accountId ∧ session.id ∉ kept
  return ((), { db with accountSessions })

def insertEmailVerification (verification : EmailVerification) (db : Db) : RelayResult (Unit × Db) := do
  ensure (¬∃ held ∈ db.emailVerifications.rows, held.tokenHash = verification.tokenHash) .storage
  let emailVerifications ← required (db.emailVerifications.insert verification) .storage
  ensure ((db.accounts.find? verification.accountId).isSome) .storage
  return ((), { db with emailVerifications })

def pruneEmailVerifications (accountId : String) (now : Instant) (db : Db) : RelayResult (Unit × Db) :=
  let kept := (newest EmailVerification.createdAt maxEmailVerifications
    (db.emailVerifications.rows.filter fun row => row.accountId = accountId)).map
      EmailVerification.id
  let emailVerifications := db.emailVerifications.delete fun row =>
    row.expiresAt ≤ now ∨ row.accountId = accountId ∧ row.id ∉ kept
  return ((), { db with emailVerifications })

/-- Every verification of an account becomes used, and a used one keeps its time. -/
def useEmailVerifications (accountId : String) (now : Instant) (db : Db) : Db :=
  { db with
    emailVerifications := db.emailVerifications.update (fun row => row.accountId = accountId)
      ⟨fun row => { row with usedAt := row.usedAt.or (some now) }, fun _ => rfl⟩ }

/-- The transaction of `verify_email`, which returns the account that became verified. -/
def verifyEmail (verificationHash : String) (now : Instant) (db : Db) : RelayResult (String × Db) := do
  let invalid := RelayError.authentication "验证令牌无效、已使用或已过期"
  let verification ← required
    (db.emailVerifications.rows.find? fun row =>
      row.tokenHash = verificationHash ∧ row.usedAt = none ∧ now < row.expiresAt) invalid
  let _ ← required
    ((db.accounts.find? verification.accountId).filter fun account =>
      account.status = .active ∧ account.emailVerifiedAt = none) invalid
  let accounts := db.accounts.update
    (fun account => account.id = verification.accountId ∧ account.emailVerifiedAt = none)
    ⟨fun account => { account with emailVerifiedAt := some now }, fun _ => rfl⟩
  return (verification.accountId, useEmailVerifications verification.accountId now { db with accounts })

/-- The transaction of `resend_verification_email`, which returns whether an email goes out. -/
def resendVerificationEmail (email verificationId verificationHash : String) (now : Instant)
    (db : Db) : RelayResult (Bool × Db) := do
  let due (account : Account) : Bool :=
    account.email = email ∧ account.status = .active ∧ account.emailVerifiedAt = none ∧
      (account.emailVerificationSentAt.all fun sentAt => sentAt ≤ now - seconds emailResendSeconds)
  match db.accounts.rows.find? due with
  | none => return (false, db)
  | some account =>
    let accounts := db.accounts.update due
      ⟨fun account => { account with emailVerificationSentAt := some now }, fun _ => rfl⟩
    let db := useEmailVerifications account.id now { db with accounts }
    let ((), db) ← insertEmailVerification
      { id := verificationId
        accountId := account.id
        tokenHash := verificationHash
        expiresAt := now + hours emailVerificationHours
        usedAt := none
        createdAt := now } db
    let ((), db) ← pruneEmailVerifications account.id now db
    return (true, db)

/-- What `login` reads of the account an email belongs to. -/
def loginAccount (email : String) (db : Db) : RelayResult (Option (String × String × Option Instant)) :=
  return (db.accounts.rows.find? fun account =>
      account.email = email ∧ account.status = .active).map fun account =>
    (account.id, account.passwordHash, account.emailVerifiedAt)

def authenticateAccount (platform : Platform) (token : String) (now : Instant) (db : Db) :
    RelayResult AccountAuth := do
  validateTokenShape platform token
  let hash := tokenHash platform "account-session" token
  let invalid := RelayError.authentication "账号会话无效或已过期"
  let session ← required
    (db.accountSessions.rows.find? fun session =>
      session.tokenHash = hash ∧ session.revokedAt = none ∧ now < session.expiresAt) invalid
  let account ← required
    ((db.accounts.find? session.accountId).filter fun account =>
      account.status = .active ∧ account.emailVerifiedAt ≠ none) invalid
  return { accountId := account.id, email := account.email, displayName := account.displayName }

/-! ### Devices and their sessions -/

/-- The foreign keys of a new audit event, which names its workspace and the acting member. -/
def audit (db : Db) (workspaceId memberId : String) : RelayResult Unit :=
  ensure (db.hasWorkspace workspaceId = true ∧ db.hasMember memberId = true) .storage

def insertDevice (workspaceId memberId : String) (device : DeviceRegistration) (now : Instant)
    (db : Db) : RelayResult Db := do
  let name ← cleanName device.name "设备名称"
  let devices ← required
    (db.devices.insert
      { id := device.id
        workspaceId
        memberId
        name
        encryptionPublicKey := device.encryptionPublicKey
        signingPublicKey := device.signingPublicKey
        fingerprint := device.fingerprint
        status := .active
        createdAt := now })
    (.conflict "设备 ID 已存在")
  ensure (db.hasWorkspace workspaceId = true ∧ db.hasMember memberId = true) .storage
  return { db with devices }

/-- What a device session is issued for, and the random values it is issued with. -/
structure SessionRequest where
  workspaceId : String
  memberId : String
  deviceId : String
  role : Role
  keyEpoch : Int
  sessionId : String
  random : List UInt8
  now : Instant

def issueDeviceSession (platform : Platform) (request : SessionRequest) (db : Db) :
    RelayResult (DeviceSessionOutput × Db) := do
  let (token, hash) := newToken platform "device-session" request.random
  let expiresAt := request.now + minutes deviceSessionMinutes
  ensure (¬∃ held ∈ db.deviceSessions.rows, held.tokenHash = hash) .storage
  let inserted ← required
    (db.deviceSessions.insert
      { id := request.sessionId
        deviceId := request.deviceId
        tokenHash := hash
        expiresAt
        revokedAt := none
        createdAt := request.now })
    .storage
  ensure (db.hasDevice request.deviceId = true) .storage
  let kept := (newest DeviceSession.createdAt maxDeviceSessions
    (inserted.rows.filter fun session => session.deviceId = request.deviceId)).map
      DeviceSession.id
  let deviceSessions := inserted.delete fun session =>
    session.expiresAt ≤ request.now ∨ session.deviceId = request.deviceId ∧ session.id ∉ kept
  return (
    { workspaceId := request.workspaceId
      memberId := request.memberId
      deviceId := request.deviceId
      role := request.role
      keyEpoch := request.keyEpoch
      token
      expiresAt }, { db with deviceSessions })

/-- The transaction of `bootstrap_workspace`. -/
def bootstrapWorkspace (platform : Platform) (account : AccountAuth)
    (input : BootstrapWorkspaceInput) (workspaceName sessionId : String) (random : List UInt8)
    (now issuedAt : Instant) (db : Db) : RelayResult (DeviceSessionOutput × Db) := do
  let owned := db.members.count fun member =>
    member.accountId = account.accountId ∧ member.role = .owner ∧ member.status = .active ∧
      (db.workspaces.find? member.workspaceId).any fun workspace => workspace.status = .active
  ensure (owned < maxAccountWorkspaces) (.conflict "账号拥有的活动工作区已经达到 32 个上限")
  let workspaces ← required
    (db.workspaces.insert
      { id := input.workspaceId, name := workspaceName, keyEpoch := 1, status := .active })
    (.conflict "工作区 ID 已存在")
  let db := { db with workspaces }
  ensure
    (¬∃ held ∈ db.members.rows, held.workspaceId = input.workspaceId ∧ held.accountId = account.accountId) .storage
  let members ← required
    (db.members.insert
      { id := input.memberId
        workspaceId := input.workspaceId
        accountId := account.accountId
        displayName := account.displayName
        role := .owner
        status := .active
        joinedAt := now })
    .storage
  ensure ((db.accounts.find? account.accountId).isSome) .storage
  let db ← insertDevice input.workspaceId input.memberId input.device now { db with members }
  audit db input.workspaceId input.memberId
  issueDeviceSession platform
    { workspaceId := input.workspaceId
      memberId := input.memberId
      deviceId := input.device.id
      role := .owner
      keyEpoch := 1
      sessionId
      random
      now := issuedAt } db

/-- The device that a session token authenticates, with its member's role and the key epoch. -/
def authenticateDevice (platform : Platform) (token : String) (now : Instant) (db : Db) : RelayResult DeviceAuth := do
  validateTokenShape platform token
  let hash := tokenHash platform "device-session" token
  let invalid := RelayError.authentication "设备会话无效、已过期或已撤销"
  let session ← required
    (db.deviceSessions.rows.find? fun session =>
      session.tokenHash = hash ∧ session.revokedAt = none ∧ now < session.expiresAt) invalid
  let device ← required
    ((db.devices.find? session.deviceId).filter fun device => device.status = .active) invalid
  let member ← required
    ((db.members.find? device.memberId).filter fun member =>
      member.workspaceId = device.workspaceId ∧ member.status = .active) invalid
  let workspace ← required
    ((db.workspaces.find? device.workspaceId).filter fun workspace => workspace.status = .active)
    invalid
  return {
    accountId := member.accountId
    workspaceId := device.workspaceId
    memberId := device.memberId
    deviceId := device.id
    role := member.role
    keyEpoch := workspace.keyEpoch }

/-! ### Workspace invitations -/

def deleteStaleInvitations (now : Instant) (db : Db) : RelayResult (Unit × Db) :=
  return ((), { db with
    workspaceInvitations := db.workspaceInvitations.delete fun row =>
      row.expiresAt ≤ now ∨ row.revokedAt ≠ none })

def pendingInvitations (workspaceId : String) (db : Db) : RelayResult Nat :=
  return db.workspaceInvitations.count fun row =>
    row.workspaceId = workspaceId ∧ row.acceptedAt = none ∧ row.revokedAt = none

def insertWorkspaceInvitation (invitation : WorkspaceInvitation) (db : Db) : RelayResult (Unit × Db) := do
  let taken := RelayError.conflict "邀请成员 ID 已存在"
  ensure
    (¬∃ held ∈ db.workspaceInvitations.rows, held.tokenHash = invitation.tokenHash) taken
  let workspaceInvitations ← required (db.workspaceInvitations.insert invitation) taken
  ensure
    (db.hasWorkspace invitation.workspaceId = true ∧ db.hasMember invitation.invitedByMemberId = true) .storage
  return ((), { db with workspaceInvitations })

/-- The roles an invitation may give; an admin may not invite another admin. -/
def invitedRole (auth : DeviceAuth) (input : CreateWorkspaceInvitationInput) : RelayResult Role := do
  let role ← required ((Role.parse? input.role).filter fun role => role ≠ .owner)
    (.validation "邀请角色无效")
  ensure (¬(auth.role = .admin ∧ role = .admin)) (.permissionDenied "Admin 不能邀请另一个 Admin")
  return role

def raiseEpoch (workspaceId : String) (db : Db) : Db :=
  { db with
    workspaces := db.workspaces.update
      (fun workspace => workspace.id = workspaceId ∧ workspace.status = .active)
      ⟨fun workspace => { workspace with keyEpoch := workspace.keyEpoch + 1 }, fun _ => rfl⟩ }

def advanceEpoch (workspaceId : String) (db : Db) : RelayResult (Int × Db) := do
  let workspace ← required
    ((db.workspaces.find? workspaceId).filter fun workspace => workspace.status = .active) .storage
  let epoch ← decodeI64 (workspace.keyEpoch + 1)
  return (epoch, raiseEpoch workspaceId db)

def TerminalRoom.closing (now : Instant) : Change TerminalRoom.id where
  apply room := { room with status := .closed, closedAt := some now }
  keeps _ := rfl

@[simp] theorem TerminalRoom.closing_apply (now : Instant) (room : TerminalRoom) :
    (TerminalRoom.closing now).apply room = { room with status := .closed, closedAt := some now } := rfl

def closeWorkspaceRooms (workspaceId : String) (now : Instant) (db : Db) : Db :=
  { db with
    terminalRooms := db.terminalRooms.update
      (fun room => room.workspaceId = workspaceId ∧ room.status = .active)
      (TerminalRoom.closing now) }

/-- The clock readings and random values of one acceptance. -/
structure AcceptDraws where
  checkedAt : Instant
  now : Instant
  issuedAt : Instant
  sessionId : String
  random : List UInt8

def invitedMember (invitation : WorkspaceInvitation) (account : AccountAuth) (now : Instant) :
    Member where
  id := invitation.memberId
  workspaceId := invitation.workspaceId
  accountId := account.accountId
  displayName := account.displayName
  role := invitation.role
  status := .active
  joinedAt := now

def markAccepted (invitationId : String) (now : Instant) (db : Db) : Db :=
  { db with
    workspaceInvitations := db.workspaceInvitations.update
      (fun row => row.id = invitationId ∧ row.acceptedAt = none)
      ⟨fun row => { row with acceptedAt := some now }, fun _ => rfl⟩ }

/-- A first acceptance: the account becomes a member with one device, and the key epoch advances. -/
def acceptFresh (platform : Platform) (account : AccountAuth) (device : DeviceRegistration)
    (draws : AcceptDraws) (invitation : WorkspaceInvitation) (db : Db) :
    RelayResult (DeviceSessionOutput × Db) := do
  let active := db.members.count fun member =>
    member.workspaceId = invitation.workspaceId ∧ member.status = .active
  ensure (active < maxWorkspaceMembers) (.conflict "工作区活动成员已经达到 256 人上限")
  let taken := RelayError.conflict "账号已经属于该工作区"
  ensure
    (¬∃ held ∈ db.members.rows, held.workspaceId = invitation.workspaceId ∧ held.accountId = account.accountId) taken
  let members ← required (db.members.insert (invitedMember invitation account draws.now)) taken
  ensure
    (db.hasWorkspace invitation.workspaceId = true ∧ (db.accounts.find? account.accountId).isSome = true) .storage
  let db ← insertDevice invitation.workspaceId invitation.memberId device draws.now
    { db with members }
  let db := markAccepted invitation.id draws.now db
  let (epoch, db) ← advanceEpoch invitation.workspaceId db
  let db := closeWorkspaceRooms invitation.workspaceId draws.now db
  audit db invitation.workspaceId invitation.memberId
  issueDeviceSession platform
    { workspaceId := invitation.workspaceId
      memberId := invitation.memberId
      deviceId := device.id
      role := invitation.role
      keyEpoch := epoch
      sessionId := draws.sessionId
      random := draws.random
      now := draws.issuedAt } db

/-- A repeated acceptance: the device that was registered before gets another session. -/
def acceptAgain (platform : Platform) (account : AccountAuth) (device : DeviceRegistration)
    (draws : AcceptDraws) (invitation : WorkspaceInvitation) (db : Db) :
    RelayResult (DeviceSessionOutput × Db) := do
  let other := RelayError.authentication "工作区邀请已经由另一设备接受"
  let _ ← required
    ((db.members.find? invitation.memberId).filter fun member =>
      member.workspaceId = invitation.workspaceId ∧ member.accountId = account.accountId ∧
        member.status = .active) other
  let _ ← required
    ((db.devices.find? device.id).filter fun row =>
      row.memberId = invitation.memberId ∧ row.workspaceId = invitation.workspaceId ∧
        row.name = device.name ∧ row.encryptionPublicKey = device.encryptionPublicKey ∧
        row.signingPublicKey = device.signingPublicKey ∧
        row.fingerprint = device.fingerprint ∧ row.status = .active) other
  let workspace ← required
    ((db.workspaces.find? invitation.workspaceId).filter fun workspace =>
      workspace.status = .active) .storage
  issueDeviceSession platform
    { workspaceId := invitation.workspaceId
      memberId := invitation.memberId
      deviceId := device.id
      role := invitation.role
      keyEpoch := workspace.keyEpoch
      sessionId := draws.sessionId
      random := draws.random
      now := draws.issuedAt } db

/-- The transaction of `accept_workspace_invitation`. -/
def acceptWorkspaceInvitation (platform : Platform) (account : AccountAuth)
    (input : AcceptWorkspaceInvitationInput) (draws : AcceptDraws) (db : Db) :
    RelayResult (DeviceSessionOutput × Db) := do
  let hash := tokenHash platform "workspace-invitation" input.token
  let invitation ← required
    (db.workspaceInvitations.rows.find? fun row =>
      row.tokenHash = hash ∧ row.revokedAt = none ∧ draws.checkedAt < row.expiresAt)
    (.authentication "工作区邀请无效或已过期")
  ensure (invitation.email = account.email) (.permissionDenied "工作区邀请不属于当前账号")
  if invitation.acceptedAt ≠ none then acceptAgain platform account input.device draws invitation db
  else acceptFresh platform account input.device draws invitation db

/-! ### Workspace management -/

/-- The name and key epoch of an active workspace. -/
def workspaceHeader (workspaceId : String) (db : Db) : RelayResult (String × Int) := do
  let workspace ← required
    ((db.workspaces.find? workspaceId).filter fun workspace => workspace.status = .active)
    (.notFound "工作区不存在")
  return (workspace.name, workspace.keyEpoch)

/-- Every member of a workspace, removed ones included, by the time they joined. -/
def memberViews (workspaceId : String) (db : Db) : RelayResult (List WorkspaceMemberView) :=
  return (oldestFirst Member.joinedAt Member.id
    (db.members.rows.filter fun member => member.workspaceId = workspaceId)).map fun member =>
      { id := member.id
        displayName := member.displayName
        role := member.role.text
        status := member.status.text }

/-- Every device of a workspace, revoked ones included, by the time they were registered. -/
def deviceViews (workspaceId : String) (db : Db) : RelayResult (List WorkspaceDeviceView) :=
  return (oldestFirst Device.createdAt Device.id
    (db.devices.rows.filter fun device => device.workspaceId = workspaceId)).map fun device =>
      { id := device.id
        memberId := device.memberId
        name := device.name
        encryptionPublicKey := device.encryptionPublicKey
        signingPublicKey := device.signingPublicKey
        fingerprint := device.fingerprint
        status := device.status.text }

def deleteWorkspace (workspaceId : String) (db : Db) : RelayResult (Unit × Db) := do
  ensure (db.hasWorkspace workspaceId = true) (.notFound "工作区不存在")
  let db := db.dropWorkspace workspaceId
  ensure db.References .storage
  return ((), db)

def revokeMemberSessions (workspaceId memberId : String) (now : Instant) (db : Db) : Db :=
  let owned := (db.devices.rows.filter fun device =>
    device.memberId = memberId ∧ device.workspaceId = workspaceId).map Device.id
  { db with
    deviceSessions := db.deviceSessions.update
      (fun session => session.revokedAt = none ∧ session.deviceId ∈ owned)
      ⟨fun session => { session with revokedAt := some now }, fun _ => rfl⟩ }

def revokeMemberDevices (workspaceId memberId : String) (db : Db) : Db :=
  { db with
    devices := db.devices.update
      (fun device => device.memberId = memberId ∧ device.workspaceId = workspaceId ∧ device.status = .active)
      ⟨fun device => { device with status := .revoked }, fun _ => rfl⟩ }

def memberUpdate (input : UpdateMemberInput) : RelayResult (Role × MemberStatus) := do
  let invalid := RelayError.validation "成员角色或状态无效"
  let role ← required (Role.parse? input.role) invalid
  let status ← required (MemberStatus.parse? input.status) invalid
  return (role, status)

/-- The rules a member update must meet, given the member as it is stored. -/
def checkMemberUpdate (auth : DeviceAuth) (workspaceId : String) (role : Role)
    (status : MemberStatus) (current : Member) (db : Db) : RelayResult Unit := do
  ensure (¬(auth.role ≠ .owner ∧ (current.role = .owner ∨ role = .owner)))
    (.permissionDenied "只有 Owner 可以管理 Owner")
  ensure (¬(current.id = auth.memberId ∧ status = .removed)) (.validation "不能移除当前会话成员")
  if current.role = .owner ∧ current.status = .active ∧ (role ≠ .owner ∨ status ≠ .active) then
    let owners := db.members.count fun member =>
      member.workspaceId = workspaceId ∧ member.role = .owner ∧ member.status = .active
    ensure (1 < owners) (.validation "工作区必须保留至少一名 Owner")

def changeMember (workspaceId memberId : String) (role : Role) (status : MemberStatus) (db : Db) : Db :=
  { db with
    members := db.members.update
      (fun member => member.id = memberId ∧ member.workspaceId = workspaceId)
      ⟨fun member => { member with role, status }, fun _ => rfl⟩ }

def applyMemberUpdate (workspaceId memberId : String) (role : Role) (status : MemberStatus)
    (now : Instant) (db : Db) : Db :=
  let db := changeMember workspaceId memberId role status db
  if status = .removed then
    revokeMemberDevices workspaceId memberId (revokeMemberSessions workspaceId memberId now db)
  else db

/-- The transaction of `update_member`, which returns the new key epoch. -/
def updateMember (auth : DeviceAuth) (workspaceId memberId : String) (role : Role)
    (status : MemberStatus) (now : Instant) (db : Db) : RelayResult (Int × Db) := do
  let current ← required
    ((db.members.find? memberId).filter fun member => member.workspaceId = workspaceId)
    (.notFound "成员不存在")
  checkMemberUpdate auth workspaceId role status current db
  let db := applyMemberUpdate workspaceId memberId role status now db
  let (epoch, db) ← advanceEpoch workspaceId db
  let db := closeWorkspaceRooms workspaceId now db
  audit db workspaceId auth.memberId
  return (epoch, db)

def revocable (workspaceId deviceId : String) (device : Device) : Bool :=
  device.id = deviceId ∧ device.workspaceId = workspaceId ∧ device.status = .active

/-- A device and its sessions become revoked. -/
def applyRevocation (workspaceId deviceId : String) (now : Instant) (db : Db) : Db :=
  { db with
    devices := db.devices.update (revocable workspaceId deviceId)
      ⟨fun device => { device with status := .revoked }, fun _ => rfl⟩
    deviceSessions := db.deviceSessions.update
      (fun session => session.deviceId = deviceId ∧ session.revokedAt = none)
      ⟨fun session => { session with revokedAt := some now }, fun _ => rfl⟩ }

/-- The transaction of `revoke_device`, which returns the new key epoch. -/
def revokeDevice (auth : DeviceAuth) (workspaceId deviceId : String) (now : Instant) (db : Db) :
    RelayResult (Int × Db) := do
  ensure (db.devices.count (revocable workspaceId deviceId) = 1) (.notFound "活动设备不存在")
  let db := applyRevocation workspaceId deviceId now db
  let (epoch, db) ← advanceEpoch workspaceId db
  let db := closeWorkspaceRooms workspaceId now db
  audit db workspaceId auth.memberId
  return (epoch, db)

/-! ### Device challenges -/

def deviceIsActive (workspaceId deviceId : String) (db : Db) : RelayResult Bool :=
  return (db.devices.find? deviceId).any fun device =>
    device.workspaceId = workspaceId ∧ device.status = .active ∧
      ((db.members.find? device.memberId).any fun member =>
        member.workspaceId = device.workspaceId ∧ member.status = .active) ∧
      (db.workspaces.find? device.workspaceId).any fun workspace => workspace.status = .active

def deleteStaleChallenges (now : Instant) (db : Db) : RelayResult (Unit × Db) :=
  return ((), { db with
    deviceChallenges := db.deviceChallenges.delete fun row =>
      row.expiresAt ≤ now ∨ row.usedAt ≠ none })

def pendingChallenges (deviceId : String) (db : Db) : RelayResult Nat :=
  return db.deviceChallenges.count fun row => row.deviceId = deviceId ∧ row.usedAt = none

def insertDeviceChallenge (challenge : DeviceChallenge) (db : Db) : RelayResult (Unit × Db) := do
  let deviceChallenges ← required (db.deviceChallenges.insert challenge) .storage
  ensure (db.hasDevice challenge.deviceId = true) .storage
  return ((), { db with deviceChallenges })

/-- A challenge must be signed by the device it was made for. -/
def verifyDeviceSessionSignature (platform : Platform) (signingPublicKey : String)
    (input : CreateDeviceSessionInput) : RelayResult Unit := do
  let key ← decodePublicKey platform signingPublicKey "ed25519"
  ensure (platform.validVerifyingKey key = true) (.validation "设备签名公钥无效")
  let encoded ← required (stripPrefix "ed25519:" input.signature)
    (.validation "设备挑战签名格式无效")
  let signature ← required (platform.decodeBase64Url encoded) (.validation "设备挑战签名编码无效")
  ensure (signature.length = 64) (.validation "设备挑战签名长度无效")
  let payload := "cnshell-relay-device-session-v1\x00" ++ input.challengeId ++ "\x00" ++
    input.challenge
  ensure (platform.verifies key (utf8 payload) signature = true)
    (.authentication "设备挑战签名验证失败")

/-- A challenge becomes used, unless it was before. -/
def useChallenge (challengeId : String) (now : Instant) (db : Db) : Db :=
  { db with
    deviceChallenges := db.deviceChallenges.update
      (fun row => row.id = challengeId ∧ row.usedAt = none)
      ⟨fun row => { row with usedAt := some now }, fun _ => rfl⟩ }

/-- The transaction of `create_device_session`. -/
def createDeviceSession (platform : Platform) (input : CreateDeviceSessionInput)
    (checkedAt now issuedAt : Instant) (sessionId : String) (random : List UInt8) (db : Db) :
    RelayResult (DeviceSessionOutput × Db) := do
  let invalid := RelayError.authentication "设备挑战无效或已过期"
  let challenge ← required
    ((db.deviceChallenges.find? input.challengeId).filter fun row =>
      row.usedAt = none ∧ checkedAt < row.expiresAt) invalid
  let device ← required
    ((db.devices.find? challenge.deviceId).filter fun device => device.status = .active) invalid
  let member ← required
    ((db.members.find? device.memberId).filter fun member =>
      member.workspaceId = device.workspaceId ∧ member.status = .active) invalid
  let workspace ← required
    ((db.workspaces.find? device.workspaceId).filter fun workspace => workspace.status = .active)
    invalid
  ensure (tokenHash platform "device-challenge" input.challenge = challenge.challengeHash)
    (.authentication "设备挑战内容不匹配")
  verifyDeviceSessionSignature platform device.signingPublicKey input
  issueDeviceSession platform
    { workspaceId := device.workspaceId
      memberId := device.memberId
      deviceId := device.id
      role := member.role
      keyEpoch := workspace.keyEpoch
      sessionId
      random
      now := issuedAt } (useChallenge input.challengeId now db)

end Relay

end CNShell
