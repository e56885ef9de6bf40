import CNShell.Client.Models
import CNShell.Relay.Platform

/-! The client's local teams: what each role may do, and how members are added, changed and removed. -/

namespace CNShell

namespace Client

/-- How many local workspaces there may be. -/
def maxWorkspaces : Nat := 32

/-- How many active members one workspace may have. -/
def maxMembers : Nat := 256

/-- What the roles of a local workspace are asked for. -/
inductive TeamPermission
  | workspaceRead
  | workspaceDelete
  | workspaceExport
  | memberRead
  | memberManage
  | ownerManage
  | connectionRead
  | connectionManage
  | connectionUse
  | terminalView
  | terminalControl
  | shareCreate
  | shareManage
  | auditRead
  | auditExport
  deriving DecidableEq, Repr

def TeamPermission.text : TeamPermission → String
  | workspaceRead => "workspaceRead"
  | workspaceDelete => "workspaceDelete"
  | workspaceExport => "workspaceExport"
  | memberRead => "memberRead"
  | memberManage => "memberManage"
  | ownerManage => "ownerManage"
  | connectionRead => "connectionRead"
  | connectionManage => "connectionManage"
  | connectionUse => "connectionUse"
  | terminalView => "terminalView"
  | terminalControl => "terminalControl"
  | shareCreate => "shareCreate"
  | shareManage => "shareManage"
  | auditRead => "auditRead"
  | auditExport => "auditExport"

/-- What each role may do. -/
def permissions : Role → List TeamPermission
  | .owner =>
    [.workspaceRead, .workspaceDelete, .workspaceExport, .memberRead, .memberManage, .ownerManage,
      .connectionRead, .connectionManage, .connectionUse, .terminalView, .terminalControl,
      .shareCreate, .shareManage, .auditRead, .auditExport]
  | .admin =>
    [.workspaceRead, .workspaceExport, .memberRead, .memberManage, .connectionRead,
      .connectionManage, .connectionUse, .terminalView, .terminalControl, .shareCreate,
      .shareManage, .auditRead, .auditExport]
  | .operator =>
    [.workspaceRead, .memberRead, .connectionRead, .connectionUse, .terminalView, .terminalControl, .shareCreate]
  | .viewer => [.workspaceRead, .memberRead, .connectionRead, .terminalView]

def requirePermission (role : Role) (permission : TeamPermission) : AppResult Unit :=
  ensure (permission ∈ permissions role)
    (.permissionDenied ("角色 " ++ role.text ++ " 没有 " ++ permission.text ++ " 权限"))

/-- An identifier must be a UUID of at most 64 bytes. -/
def validUuid (platform : Platform) (value : String) : Bool :=
  value.utf8ByteSize ≤ 64 ∧ platform.parsesUuid value = true

/-- A name is trimmed and must be short, nonempty and free of control characters. -/
def cleanTeamName (value field : String) : AppResult String := do
  let value := trim value
  ensure (value ≠ "" ∧ value.utf8ByteSize ≤ 256 ∧ ¬value.toList.any isControl)
    (.validation (field ++ "不能为空、含控制字符或超过 256 字节"))
  return value

/-- What an operation on a workspace is authorized as. -/
structure TeamAuthorization where
  memberId : String
  role : Role
  keyEpoch : Int
  localDeviceId : Option String

def localMember (platform : Platform) (workspaceId : String) (db : LocalDb) :
    AppResult (TeamWorkspace × TeamMember) := do
  ensure (validUuid platform workspaceId = true) (.validation "团队工作区 ID 无效")
  let absent := AppError.notFound ("团队工作区 " ++ workspaceId)
  let workspace ← required (db.teamWorkspaces.find? workspaceId) absent
  let member ← required
    ((db.teamMembers.find? workspace.localMemberId).filter fun member =>
      member.workspaceId = workspace.id ∧ member.status = .active) absent
  return (workspace, member)

/-- The local member and its role, read inside a transaction. -/
def localAuthorization (platform : Platform) (workspaceId : String) (db : LocalDb) : AppResult (String × Role) := do
  let (workspace, member) ← localMember platform workspaceId db
  return (workspace.localMemberId, member.role)

/-- The local member, its role and the workspace's key epoch, when the role has a permission. -/
def authorize (platform : Platform) (workspaceId : String) (permission : TeamPermission)
    (db : LocalDb) : AppResult TeamAuthorization := do
  let (workspace, member) ← localMember platform workspaceId db
  requirePermission member.role permission
  return {
    memberId := workspace.localMemberId
    role := member.role
    keyEpoch := workspace.keyEpoch
    localDeviceId := workspace.localDeviceId }

/-- The opening of a local workspace with its owner, both identifiers drawn at random. -/
def createWorkspace (input : CreateTeamWorkspaceInput) (workspaceId ownerId : String)
    (db : LocalDb) : AppResult (Unit × LocalDb) := do
  let name ← cleanTeamName input.name "团队名称"
  let ownerName ← cleanTeamName input.ownerName "Owner 名称"
  ensure (db.teamWorkspaces.rows.length < maxWorkspaces)
    (.validation "最多创建 32 个本地团队工作区")
  let refused (column : String) := AppError.storage
    ("error returned from database: (code: 1555) UNIQUE constraint failed: " ++ column)
  let teamWorkspaces ← required
    (db.teamWorkspaces.insert
      { id := workspaceId, name, localMemberId := ownerId, keyEpoch := 1, localDeviceId := none })
    (refused "team_workspaces.id")
  let teamMembers ← required
    (db.teamMembers.insert
      { id := ownerId, workspaceId, displayName := ownerName, role := .owner, status := .active })
    (refused "team_members.id")
  return ((), { db with teamWorkspaces, teamMembers })

def countMembers (workspaceId : String) (selected : TeamMember → Bool) (db : LocalDb) : Nat :=
  db.teamMembers.count fun member =>
    member.workspaceId = workspaceId ∧ member.status = .active ∧ selected member = true

def raiseLocalEpoch (workspaceId : String) (db : LocalDb) : LocalDb :=
  { db with
    teamWorkspaces := db.teamWorkspaces.update (fun workspace => workspace.id = workspaceId)
      ⟨fun workspace => { workspace with keyEpoch := workspace.keyEpoch + 1 }, fun _ => rfl⟩ }

def keepsOwner (workspaceId : String) (db : LocalDb) : AppResult Unit :=
  ensure (¬countMembers workspaceId (fun member => member.role = .owner) db ≤ 1)
    (.validation "团队必须至少保留一名活动 Owner")

/-- The member row of a save, inserted or put in the place of the one with its identifier. -/
def putMember (member : TeamMember) (db : LocalDb) : LocalDb :=
  { db with
    teamMembers := db.teamMembers.upsert member
      ⟨fun held => { held with
        displayName := member.displayName
        role := member.role
        status := .active }, fun _ => rfl⟩ }

def roleChanged (existing : Option TeamMember) (role : Role) : Bool :=
  existing.any fun member => decide (member.role ≠ role ∨ member.status ≠ .active)

/-- Only who may manage owners may make one or change one. -/
def checkOwnerRights (actorRole role : Role) (existing : Option TeamMember) : AppResult Unit :=
  if role = .owner ∨ existing.any (fun member => member.role = .owner) = true then
    requirePermission actorRole .ownerManage
  else .ok ()

/-- A member that is not stored yet needs a free place; a stored one is not counted. -/
def checkPlaces (workspaceId : String) (existing : Option TeamMember) (db : LocalDb) : AppResult Unit :=
  if existing = none then
    ensure (¬maxMembers ≤ countMembers workspaceId (fun _ => true) db)
      (.validation "每个团队最多 256 名活动成员")
  else .ok ()

/-- An active owner is only demoted when another one stays. -/
def checkLastOwner (workspaceId : String) (role : Role) (existing : Option TeamMember)
    (db : LocalDb) : AppResult Unit :=
  if existing.any (fun member =>
      member.role = .owner ∧ role ≠ .owner ∧ member.status = .active) = true then
    keepsOwner workspaceId db
  else .ok ()

/-- The rules a save must meet, given the member that is stored under its identifier. -/
def checkSave (workspaceId : String) (actorRole role : Role) (existing : Option TeamMember)
    (db : LocalDb) : AppResult Unit := do
  checkOwnerRights actorRole role existing
  checkPlaces workspaceId existing db
  checkLastOwner workspaceId role existing db

/-- The addition of a member, or the change and reactivation of a stored one. -/
def saveMember (platform : Platform) (input : SaveTeamMemberInput) (random : String)
    (db : LocalDb) : AppResult (TeamMember × LocalDb) := do
  let role ← required (Role.parse? input.role) (.validation "团队角色无效")
  let displayName ← cleanTeamName input.displayName "成员名称"
  let (_, actorRole) ← localAuthorization platform input.workspaceId db
  requirePermission actorRole .memberManage
  let memberId := input.memberId.getD random
  ensure (validUuid platform memberId = true) (.validation "团队成员 ID 无效")
  let existing := db.teamMembers.find? memberId
  ensure (existing.all (fun member => member.workspaceId = input.workspaceId) = true)
    (.validation "团队成员 ID 已属于另一个工作区")
  checkSave input.workspaceId actorRole role existing db
  let member : TeamMember :=
    { id := memberId, workspaceId := input.workspaceId, displayName, role, status := .active }
  let saved := putMember member db
  return (member, if roleChanged existing role then raiseLocalEpoch input.workspaceId saved else saved)

/-- What a removal leaves: the member removed, its devices revoked and the key epoch raised. -/
def dropMember (workspaceId memberId : String) (db : LocalDb) : LocalDb :=
  raiseLocalEpoch workspaceId
    { db with
      teamMembers := db.teamMembers.update
        (fun member => member.id = memberId ∧ member.workspaceId = workspaceId)
        ⟨fun member => { member with status := .removed }, fun _ => rfl⟩
      teamDevices := db.teamDevices.update
        (fun device => device.memberId = memberId ∧ device.workspaceId = workspaceId ∧ device.status = .active)
        ⟨fun device => { device with status := .revoked }, fun _ => rfl⟩ }

/-- An active owner is only removed by who may manage owners, and when another one stays. -/
def checkRemoval (workspaceId : String) (actorRole : Role) (target : TeamMember) (db : LocalDb) : AppResult Unit :=
  if target.role = .owner then do
    requirePermission actorRole .ownerManage
    keepsOwner workspaceId db
  else .ok ()

def removeMember (platform : Platform) (workspaceId memberId : String) (db : LocalDb) :
    AppResult (Unit × LocalDb) := do
  ensure (validUuid platform memberId = true) (.validation "团队成员 ID 无效")
  let (actorId, actorRole) ← localAuthorization platform workspaceId db
  requirePermission actorRole .memberManage
  ensure (actorId ≠ memberId)
    (.validation "本机成员不能在本地移除自己；请先在服务端完成 Owner/设备交接")
  let target ← required
    ((db.teamMembers.find? memberId).filter fun member => member.workspaceId = workspaceId)
    (.notFound ("团队成员 " ++ memberId))
  if target.status ≠ .active then return ((), db)
  else
    checkRemoval workspaceId actorRole target db
    return ((), dropMember workspaceId memberId db)

end Client

end CNShell
