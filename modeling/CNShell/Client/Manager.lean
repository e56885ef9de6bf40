import CNShell.Client.Collaboration
import CNShell.Library.Program

/-! The operations on shared terminals as programs over the local database and the locked rooms. -/

namespace CNShell

namespace Client

/-- A room that this device takes part in. -/
structure ClientRoomState where
  roomId : String
  workspaceId : String
  hostMemberId : String
  hostDeviceId : String
  localMemberId : String
  localDeviceId : String
  keyEpoch : Int
  roomKey : List UInt8
  nextOutputSequence : UInt64
  nextInputSequence : UInt64
  status : RoomStatus
  deriving DecidableEq

/-- A joined room as it is shown. -/
structure TeamTerminalClientRoom where
  roomId : String
  workspaceId : String
  keyEpoch : Int
  hostMemberId : String
  hostDeviceId : String
  localMemberId : String
  localDeviceId : String
  nextOutputSequence : UInt64
  nextInputSequence : UInt64
  status : RoomStatus
  deriving DecidableEq

/-- The joined room as it is shown. -/
def ClientRoomState.snapshot (room : ClientRoomState) : TeamTerminalClientRoom where
  roomId := room.roomId
  workspaceId := room.workspaceId
  keyEpoch := room.keyEpoch
  hostMemberId := room.hostMemberId
  hostDeviceId := room.hostDeviceId
  localMemberId := room.localMemberId
  localDeviceId := room.localDeviceId
  nextOutputSequence := room.nextOutputSequence
  nextInputSequence := room.nextInputSequence
  status := room.status

/-- What the operations share: the local database and the rooms of the collaboration manager. -/
structure Desktop where
  db : LocalDb
  rooms : Table RoomState.id
  clientRooms : Table ClientRoomState.roomId

/-- The desktop client right after it started, when no room is open. -/
def Desktop.opened (db : LocalDb) : Desktop where
  db
  rooms := .empty
  clientRooms := .empty

/-! ### Sections over all rooms -/

/-- The section of `start`: rooms that were closed are forgotten, then the new one is stored. -/
def startSection (room : RoomState) : Section (Table RoomState.id) AppError TeamTerminalRoom := do
  Section.modify fun rooms => rooms.delete fun held => held.status ≠ .active
  let rooms ← Section.get
  Section.check (ensure (rooms.rows.length < maxRooms)
    (.validation "最多同时打开 16 个团队终端房间"))
  Section.check (ensure
    (¬rooms.rows.any (fun held =>
      held.terminalSessionId = room.terminalSessionId ∧ held.status = .active) = true)
    (.validation "该终端已经在团队房间中"))
  Section.modify fun rooms => rooms.put room
  return room.view

/-- A room as it starts: open, without output, and without a lease ever. -/
structure RoomState.Fresh (room : RoomState) : Prop where
  active : room.status = .active
  unleased : room.controlLease = none
  first : room.nextOutputSequence = 1
  ungranted : room.leaseGeneration = 0
  empty : room.replay = []
  weightless : room.replayBytes = 0
  plain : room.encryptedTransportEnabled = false

def closeRooms (selected : RoomState → Bool) (rooms : Table RoomState.id) : Table RoomState.id :=
  rooms.update selected ⟨RoomState.close, fun _ => rfl⟩

/-- The section of `accept_invitation`. -/
def acceptSection (room : ClientRoomState) :
    Section (Table ClientRoomState.roomId) AppError TeamTerminalClientRoom := do
  let rooms ← Section.get
  Section.check (ensure (rooms.find? room.roomId = none)
    (.validation "该团队终端邀请已接受，不能回滚客户端序号"))
  Section.check (ensure (rooms.rows.length < maxRooms)
    (.validation "最多同时加入 16 个团队终端房间"))
  Section.modify fun rooms => rooms.put room
  return room.snapshot

/-- The section of `close_client`. -/
def closeClientSection (roomId : String) :
    Section (Table ClientRoomState.roomId) AppError TeamTerminalClientRoom := do
  let rooms ← Section.get
  let room ← Section.check (required (rooms.find? roomId)
    (.notFound ("团队终端客户端房间 " ++ roomId)))
  Section.modify fun rooms => rooms.delete fun held => held.roomId = roomId
  return { room with status := .closed }.snapshot

/-! ### Atomic actions -/

/-- The sections that an operation runs on one room. -/
inductive Visit : Type → Type 1
  | verifyHost (authorization : TeamAuthorization) : Visit Unit
  | join (authorization : TeamAuthorization) (memberId deviceId : String) (role : Role)
      (joinedAt : String) (now : Tick) : Visit TeamTerminalRoom
  | invite (draws : InvitationDraws) (authorization : TeamAuthorization)
      (hostDeviceId recipientMemberId recipientDeviceId : String) (recipientRole : Role)
      (recipientPublic : List UInt8) : Visit TeamTerminalInvitation
  | publish (draws : OutputDraws) (authorization : TeamAuthorization) (bytes : List UInt8) :
      Visit TeamTerminalEncryptedFrame
  | replay (clock : Nat → Tick) (authorization : TeamAuthorization)
      (memberId recipientDeviceId : String) (afterSequence : UInt64) :
      Visit (List TeamTerminalEncryptedFrame)
  | publishPlain (authorization : TeamAuthorization) (bytes : List UInt8) : Visit TeamTerminalFrame
  | openInput (authorization : TeamAuthorization) (frame : TeamTerminalEncryptedFrame) (now : Tick) :
      Visit (List UInt8)
  | acceptInput (authorization : TeamAuthorization) (memberId deviceId leaseId : String)
      (sequence : UInt64) (now : Tick) : Visit String
  | grant (authorization : TeamAuthorization) (memberId deviceId leaseId expiresAt : String)
      (endsAt now : Tick) : Visit TeamTerminalRoom
  | applyLease (authorization : TeamAuthorization) (lease : TeamControlLease) (endsAt now : Tick) :
      Visit TeamTerminalRoom
  | removeParticipant (authorization : TeamAuthorization) (deviceId : String) (now : Tick) :
      Visit TeamTerminalRoom
  | revoke (authorization : TeamAuthorization) (now : Tick) : Visit TeamTerminalRoom
  | status (now : Tick) : Visit TeamTerminalRoom
  | close (authorization : TeamAuthorization) (now : Tick) : Visit TeamTerminalRoom

def Visit.section (vault : Vault) {β : Type} : Visit β → RoomSection β
  | .verifyHost authorization => Client.verifyHost authorization
  | .join authorization memberId deviceId role joinedAt now =>
      joinSection authorization memberId deviceId role joinedAt now
  | .invite draws authorization hostDeviceId recipientMemberId recipientDeviceId recipientRole
      recipientPublic =>
      inviteSection vault draws authorization hostDeviceId recipientMemberId recipientDeviceId
        recipientRole recipientPublic
  | .publish draws authorization bytes => publishSection vault draws authorization bytes
  | .replay clock authorization memberId recipientDeviceId afterSequence =>
      replaySection clock authorization memberId recipientDeviceId afterSequence
  | .publishPlain authorization bytes => publishPlainSection vault authorization bytes
  | .openInput authorization frame now => openInputSection vault authorization frame now
  | .acceptInput authorization memberId deviceId leaseId sequence now =>
      acceptInputSection authorization memberId deviceId leaseId sequence now
  | .grant authorization memberId deviceId leaseId expiresAt endsAt now =>
      grantSection authorization memberId deviceId leaseId expiresAt endsAt now
  | .applyLease authorization lease endsAt now => applyLeaseSection authorization lease endsAt now
  | .removeParticipant authorization deviceId now =>
      removeParticipantSection authorization deviceId now
  | .revoke authorization now => revokeSection authorization now
  | .status now => snapshot now
  | .close authorization now => closeSection authorization now

/-- The atomic actions: a query or transaction of the database, or a section under a lock. -/
inductive HostAction : Type → Type 1
  | read {β : Type} (query : LocalDb → AppResult β) : HostAction β
  | write {β : Type} (transaction : LocalDb → AppResult (β × LocalDb)) : HostAction β
  | locate (roomId : String) : HostAction (String × RoomStatus)
  | start (room : RoomState) (fresh : room.Fresh) : HostAction (AppResult TeamTerminalRoom)
  | visit {β : Type} (roomId : String) (body : Visit β) : HostAction (AppResult β)
  | closeRooms (selected : RoomState → Bool) : HostAction Unit
  | accept (room : ClientRoomState) : HostAction (AppResult TeamTerminalClientRoom)
  | closeClient (roomId : String) : HostAction (AppResult TeamTerminalClientRoom)
  | closeClients : HostAction Unit

/-- The room that is stored under an identifier. -/
def Desktop.room (desktop : Desktop) (roomId : String) : AppResult RoomState :=
  required (desktop.rooms.find? roomId) (.notFound ("团队终端房间 " ++ roomId))

/-- What an action returns and leaves; a section returns its own failure together with its effects. -/
def HostAction.run (vault : Vault) {β : Type} : HostAction β → Desktop → AppResult (β × Desktop)
  | .read query => fun desktop => do return (← query desktop.db, desktop)
  | .write transaction => fun desktop => do
      let (value, db) ← transaction desktop.db
      return (value, { desktop with db })
  | .locate roomId => fun desktop => do
      let room ← desktop.room roomId
      return ((room.workspaceId, room.status), desktop)
  | .start room _ => fun desktop =>
      let (result, rooms) := startSection room desktop.rooms
      .ok (result, { desktop with rooms })
  | .visit roomId body => fun desktop => do
      let room ← desktop.room roomId
      let (result, room) := body.section vault room
      return (result, { desktop with rooms := desktop.rooms.put room })
  | .closeRooms selected => fun desktop =>
      .ok ((), { desktop with rooms := Client.closeRooms selected desktop.rooms })
  | .accept room => fun desktop =>
      let (result, clientRooms) := acceptSection room desktop.clientRooms
      .ok (result, { desktop with clientRooms })
  | .closeClient roomId => fun desktop =>
      let (result, clientRooms) := closeClientSection roomId desktop.clientRooms
      .ok (result, { desktop with clientRooms })
  | .closeClients => fun desktop => .ok ((), { desktop with clientRooms := .empty })

def hostSemantics (vault : Vault) : Semantics HostAction AppError Desktop where
  run action := action.run vault

abbrev Operation := Program HostAction AppError

def query {β : Type} (ask : LocalDb → AppResult β) : Operation β := Program.perform (.read ask)

/-- A check that needs neither the database nor a lock. -/
def verify {β : Type} (result : AppResult β) : Operation β := Program.lift result

/-- A section on one room, whose own failure stops the operation. -/
def enter {β : Type} (roomId : String) (body : Visit β) : Operation β := do
  verify (← Program.perform (.visit roomId body))

def workspaceOf (roomId : String) : Operation String := do
  let (workspaceId, _) ← Program.perform (.locate roomId)
  return workspaceId

/-- The clock readings, identifiers, random bytes and keys of one operation, in the order it draws them. -/
structure HostDraws where
  /-- The readings of the wall clock. -/
  utc : Nat → Instant
  /-- The readings of the monotonic clock. -/
  tick : Nat → Tick
  /-- The readings of the monotonic clock while the replay buffer is pruned. -/
  clock : Nat → Tick
  /-- The random identifier. -/
  uuid : String
  /-- The random bytes. -/
  random : Nat → List UInt8
  /-- The answers of the credential store. -/
  keychain : Keychain

variable (vault : Vault) (draws : HostDraws)

def authorized (workspaceId : String) (permission : TeamPermission) : Operation TeamAuthorization :=
  query (authorize vault.toPlatform workspaceId permission)

/-- A new room of its host, under a random identifier and a random key. -/
def newRoom (workspaceId terminalSessionId memberId deviceId : String) (role : Role)
    (keyEpoch : Int) : RoomState where
  id := draws.uuid
  workspaceId
  terminalSessionId
  hostMemberId := memberId
  hostDeviceId := deviceId
  keyEpoch
  status := .active
  participants := Table.empty.put
    ⟨{ memberId, deviceId, role, joinedAt := vault.rfc3339 (draws.utc 0) }, 1⟩
  controlLease := none
  nextOutputSequence := 1
  leaseGeneration := 0
  roomKey := draws.random 0
  replay := []
  replayBytes := 0
  encryptedTransportEnabled := false
  createdAt := vault.rfc3339 (draws.utc 0)

theorem newRoom_fresh (workspaceId terminalSessionId memberId deviceId : String) (role : Role)
    (keyEpoch : Int) :
    (newRoom vault draws workspaceId terminalSessionId memberId deviceId role keyEpoch).Fresh :=
  ⟨rfl, rfl, rfl, rfl, rfl, rfl, rfl⟩

def start (workspaceId terminalSessionId : String) : Operation TeamTerminalRoom := do
  verify (ensure (terminalSessionId ≠ "" ∧ terminalSessionId.utf8ByteSize ≤ 128)
    (.validation "终端会话 ID 无效"))
  let authorization ← authorized vault workspaceId .shareManage
  let deviceId ← verify (required authorization.localDeviceId
    (.unavailable "开始协作前必须创建本机团队设备身份"))
  let (memberId, role) ← query (deviceMemberRole vault workspaceId deviceId)
  verify (ensure (memberId = authorization.memberId) (.permissionDenied "本机设备不属于当前成员"))
  verify (← Program.perform (.start
    (newRoom vault draws workspaceId terminalSessionId memberId deviceId role
      authorization.keyEpoch)
    (newRoom_fresh vault draws workspaceId terminalSessionId memberId deviceId role
      authorization.keyEpoch)))

def join (roomId deviceId : String) : Operation TeamTerminalRoom := do
  let (workspaceId, status) ← Program.perform (.locate roomId)
  verify (ensure (status = .active) (.unavailable "团队终端房间已关闭"))
  let authorization ← authorized vault workspaceId .shareManage
  enter roomId (.verifyHost authorization)
  let (memberId, role) ← query (deviceMemberRole vault workspaceId deviceId)
  verify (requirePermission role .terminalView)
  enter roomId
    (.join authorization memberId deviceId role (vault.rfc3339 (draws.utc 0)) (draws.tick 0))

def createInvitation (roomId recipientDeviceId : String) : Operation TeamTerminalInvitation := do
  let workspaceId ← workspaceOf roomId
  let authorization ← authorized vault workspaceId .shareManage
  let (recipientMemberId, recipientRole) ←
    query (deviceMemberRole vault workspaceId recipientDeviceId)
  verify (requirePermission recipientRole .terminalView)
  let recipient ← query (activeDevice vault workspaceId recipientDeviceId recipientMemberId)
  let hostDeviceId ← verify (required authorization.localDeviceId (.unavailable "主持设备身份不可用"))
  let host ← query (activeDevice vault workspaceId hostDeviceId authorization.memberId)
  let (recipientPublic, _) ← verify (validatedDeviceKeys vault recipient)
  enter roomId (.invite
    { ephemeralSecret := draws.random 0
      keyNonce := draws.random 1
      joinedAt := draws.utc 0
      createdAt := draws.utc 1
      clock := draws.clock
      keychain := draws.keychain }
    authorization host.id recipientMemberId recipientDeviceId recipientRole recipientPublic)

/-- An invitation must be well formed and of this protocol's version. -/
def checkInvitationShape (invitation : TeamTerminalInvitation) : AppResult Unit := do
  let canonical ← required (vault.canonicalInvitation invitation)
    (.validation ("团队终端邀请无效：" ++ vault.canonicalError))
  ensure
    (canonical.length ≤ maxEnvelopeBytes ∧ invitation.schemaVersion = 1 ∧
      vault.parsesUuid invitation.roomId = true ∧ vault.parsesUuid invitation.workspaceId = true ∧
      1 ≤ invitation.keyEpoch ∧ invitation.nextInputSequence ≠ 0)
    (.validation "团队终端邀请版本、ID、epoch 或大小无效")

/-- An invitation may only be accepted while it lasts. -/
def checkInvitationTimes (invitation : TeamTerminalInvitation) (now : Instant) : AppResult Unit := do
  let createdAt ← required (vault.parseRfc3339 invitation.createdAt)
    (.validation "团队终端邀请创建时间无效")
  let expiresAt ← required (vault.parseRfc3339 invitation.expiresAt)
    (.validation "团队终端邀请过期时间无效")
  ensure
    (now < expiresAt ∧ createdAt ≤ now + minutes 1 ∧ createdAt < expiresAt ∧ expiresAt - createdAt ≤ minutes 5)
    (.unavailable "团队终端邀请已过期或时间范围无效")

/-- The room key behind an invitation, unwrapped with the local device's secret. -/
def openInvitation (invitation : TeamTerminalInvitation) (localDeviceId : String) : AppResult (List UInt8) := do
  let ephemeralPublic ← decodeKey vault invitation.ephemeralPublicKey "x25519"
  let localSecret ← draws.keychain localDeviceId "x25519"
  let shared := vault.sharedSecret localSecret ephemeralPublic
  ensure (vault.contributory shared = true) (.authentication "团队终端邀请 X25519 共享密钥无效")
  let wrapped ← required (vault.decodeBase64Url invitation.wrappedRoomKey)
    (.validation "团队终端房间密钥 Base64URL 无效")
  ensure (wrapped.length = 48) (.validation "团队终端房间密钥密文长度无效")
  let nonce ← decodeNonce vault invitation.keyNonce "团队终端邀请"
  unwrapRoomKey vault shared invitation wrapped nonce

def acceptInvitation (invitation : TeamTerminalInvitation) : Operation TeamTerminalClientRoom := do
  verify (checkInvitationShape vault invitation)
  verify (checkInvitationTimes vault invitation (draws.utc 0))
  let authorization ← authorized vault invitation.workspaceId .terminalView
  let localDeviceId ← verify (required authorization.localDeviceId
    (.unavailable "接受邀请前必须创建本机团队设备身份"))
  verify (ensure
    (authorization.memberId = invitation.recipientMemberId ∧
      localDeviceId = invitation.recipientDeviceId ∧ authorization.keyEpoch = invitation.keyEpoch)
    (.permissionDenied "团队终端邀请不属于当前成员、设备或密钥 epoch"))
  let localDevice ← query
    (activeDevice vault invitation.workspaceId localDeviceId authorization.memberId)
  let host ← query
    (activeDevice vault invitation.workspaceId invitation.hostDeviceId invitation.hostMemberId)
  verify (verifyInvitationSignature vault invitation host)
  let roomKey ← verify (openInvitation vault draws invitation localDevice.id)
  let nextOutputSequence ← verify (required (checkedSucc invitation.replayFromSequence)
    (.validation "团队终端邀请重放序号无效"))
  verify (← Program.perform (.accept
    { roomId := invitation.roomId
      workspaceId := invitation.workspaceId
      hostMemberId := invitation.hostMemberId
      hostDeviceId := invitation.hostDeviceId
      localMemberId := invitation.recipientMemberId
      localDeviceId := invitation.recipientDeviceId
      keyEpoch := invitation.keyEpoch
      roomKey
      nextOutputSequence
      nextInputSequence := invitation.nextInputSequence
      status := .active }))

def publishEncryptedOutput (roomId : String) (bytes : List UInt8) : Operation TeamTerminalEncryptedFrame := do
  let workspaceId ← workspaceOf roomId
  let authorization ← authorized vault workspaceId .shareManage
  enter roomId (.publish
    { nonce := draws.random 0
      createdAt := draws.tick 0
      clock := draws.clock
      keychain := draws.keychain }
    authorization bytes)

/-- The output frames after a sequence, for a participant that was away. -/
def replayOutput (roomId recipientDeviceId : String) (afterSequence : UInt64) :
    Operation (List TeamTerminalEncryptedFrame) := do
  let workspaceId ← workspaceOf roomId
  let authorization ← authorized vault workspaceId .shareManage
  let (memberId, role) ← query (deviceMemberRole vault workspaceId recipientDeviceId)
  verify (requirePermission role .terminalView)
  enter roomId (.replay draws.clock authorization memberId recipientDeviceId afterSequence)

def publishOutput (roomId : String) (bytes : List UInt8) : Operation TeamTerminalFrame := do
  verify (ensure (bytes ≠ [] ∧ bytes.length ≤ maxFrameBytes)
    (.validation "团队终端输出帧必须为 1 字节至 64 KB"))
  let workspaceId ← workspaceOf roomId
  let authorization ← authorized vault workspaceId .shareManage
  enter roomId (.publishPlain authorization bytes)

def inputText (dataBase64 : String) : AppResult String := do
  ensure (dataBase64.utf8ByteSize ≤ 128 * 1024) (.validation "团队终端输入帧编码超过限制")
  let bytes ← required (vault.decodeBase64 dataBase64) (.validation "团队终端输入帧 Base64 无效")
  ensure (bytes ≠ [] ∧ bytes.length ≤ maxFrameBytes)
    (.validation "团队终端输入帧必须为 1 字节至 64 KB")
  required (fromUtf8 bytes) (.validation "团队终端输入必须是 UTF-8")

def receiveInput (roomId deviceId leaseId : String) (sequence : UInt64) (dataBase64 : String) :
    Operation (String × String) := do
  let data ← verify (inputText vault dataBase64)
  let workspaceId ← workspaceOf roomId
  let (memberId, role) ← query (deviceMemberRole vault workspaceId deviceId)
  verify (requirePermission role .terminalControl)
  let authorization ← authorized vault workspaceId .shareManage
  let terminalSessionId ← enter roomId
    (.acceptInput authorization memberId deviceId leaseId sequence (draws.tick 1))
  return (terminalSessionId, data)

def checkInputRoute (workspaceId : String) (frame : TeamTerminalEncryptedFrame) : AppResult Unit :=
  ensure
    (frame.schemaVersion = 1 ∧ frame.workspaceId = workspaceId ∧ frame.direction = "input" ∧
      frame.kind = "terminal" ∧ frame.sequence ≠ 0 ∧ frame.leaseGeneration ≠ 0 ∧
      frame.leaseId.any (fun leaseId => vault.parsesUuid leaseId) = true)
    (.validation "团队终端输入帧路由、方向、序号或租约元数据无效")

/-- Encrypted input: it is checked and decrypted first, then accepted like input in the clear. -/
def receiveEncryptedInput (frame : TeamTerminalEncryptedFrame) : Operation (String × String) := do
  let workspaceId ← workspaceOf frame.roomId
  verify (checkInputRoute vault workspaceId frame)
  let (memberId, role) ← query (deviceMemberRole vault workspaceId frame.senderDeviceId)
  verify (ensure (memberId = frame.senderMemberId)
    (.permissionDenied "团队终端输入发送设备不属于声明成员"))
  verify (requirePermission role .terminalControl)
  let sender ← query
    (activeDevice vault workspaceId frame.senderDeviceId frame.senderMemberId)
  verify (verifyFrameSignature vault frame sender)
  let authorization ← authorized vault workspaceId .shareManage
  let plaintext ← enter frame.roomId (.openInput authorization frame (draws.tick 0))
  let data ← verify (required (fromUtf8 plaintext) (.validation "团队终端输入必须是 UTF-8"))
  receiveInput vault draws frame.roomId frame.senderDeviceId (frame.leaseId.getD "") frame.sequence
    (vault.encodeBase64 (utf8 data))

/-- A control lease of a participant, granted by the host itself. -/
def grantControl (roomId deviceId : String) (durationSeconds : UInt64) : Operation TeamTerminalRoom := do
  verify (ensure (minLeaseSeconds ≤ durationSeconds ∧ durationSeconds ≤ maxLeaseSeconds)
    (.validation "控制租约必须为 10 至 300 秒"))
  let workspaceId ← workspaceOf roomId
  let authorization ← authorized vault workspaceId .shareManage
  let (memberId, role) ← query (deviceMemberRole vault workspaceId deviceId)
  verify (requirePermission role .terminalControl)
  let duration := seconds durationSeconds.toNat
  enter roomId (.grant authorization memberId deviceId draws.uuid
    (vault.rfc3339 (draws.utc 0 + duration)) (draws.tick 0 + duration) (draws.tick 1))

/-- How long a lease of the relay still lasts. -/
def remainingLease (lease : TeamControlLease) (now : Instant) : AppResult Int := do
  ensure (vault.parsesUuid lease.id = true ∧ lease.generation ≠ 0)
    (.validation "在线团队终端控制租约 ID 或 generation 无效")
  let expiresAt ← required (vault.parseRfc3339 lease.expiresAt)
    (.validation "在线团队终端控制租约到期时间无效")
  let remaining := expiresAt - now
  ensure (0 < remaining ∧ remaining ≤ minutes 5)
    (.validation "在线团队终端控制租约已过期或超过 5 分钟")
  return remaining

def applyControlLease (roomId : String) (lease : TeamControlLease) : Operation TeamTerminalRoom := do
  let remaining ← verify (remainingLease vault lease (draws.utc 0))
  let workspaceId ← workspaceOf roomId
  let authorization ← authorized vault workspaceId .shareManage
  let (memberId, role) ← query (deviceMemberRole vault workspaceId lease.deviceId)
  verify (ensure (memberId = lease.memberId)
    (.permissionDenied "在线控制租约设备不属于声明成员"))
  verify (requirePermission role .terminalControl)
  enter roomId (.applyLease authorization lease (draws.tick 0 + remaining) (draws.tick 1))

def removeParticipant (roomId deviceId : String) : Operation TeamTerminalRoom := do
  let workspaceId ← workspaceOf roomId
  let authorization ← authorized vault workspaceId .shareManage
  enter roomId (.removeParticipant authorization deviceId (draws.tick 0))

/-- The end of the control lease. -/
def revokeControl (roomId : String) : Operation TeamTerminalRoom := do
  let workspaceId ← workspaceOf roomId
  let authorization ← authorized vault workspaceId .shareManage
  enter roomId (.revoke authorization (draws.tick 0))

def closeRoom (roomId : String) : Operation TeamTerminalRoom := do
  let workspaceId ← workspaceOf roomId
  let authorization ← authorized vault workspaceId .shareManage
  enter roomId (.close authorization (draws.tick 0))

/-- The end of every room, when the application ends. -/
def closeAll : Operation Unit := do
  Program.perform (.closeRooms fun _ => true)
  Program.perform .closeClients

def closeTerminal (terminalSessionId : String) : Operation Unit :=
  Program.perform (.closeRooms fun room =>
    room.terminalSessionId = terminalSessionId ∧ room.status = .active)

/-- The operations that may be called, and any other transaction on the local database. -/
inductive HostCall : Type 1
  | transaction {β : Type} (write : LocalDb → AppResult (β × LocalDb))
  | start (workspaceId terminalSessionId : String)
  | join (roomId deviceId : String)
  | createInvitation (roomId recipientDeviceId : String)
  | acceptInvitation (invitation : TeamTerminalInvitation)
  | publishEncryptedOutput (roomId : String) (bytes : List UInt8)
  | replayOutput (roomId recipientDeviceId : String) (afterSequence : UInt64)
  | publishOutput (roomId : String) (bytes : List UInt8)
  | receiveInput (roomId deviceId leaseId : String) (sequence : UInt64) (dataBase64 : String)
  | receiveEncryptedInput (frame : TeamTerminalEncryptedFrame)
  | grantControl (roomId deviceId : String) (durationSeconds : UInt64)
  | applyControlLease (roomId : String) (lease : TeamControlLease)
  | removeParticipant (roomId deviceId : String)
  | revokeControl (roomId : String)
  | status (roomId : String)
  | close (roomId : String)
  | closeAll
  | closeTerminal (terminalSessionId : String)
  | closeClient (roomId : String)

def HostCall.serve : HostCall → Operation Unit
  | .transaction write => (Program.perform (.write write)).discard
  | .start workspaceId terminalSessionId =>
      (Client.start vault draws workspaceId terminalSessionId).discard
  | .join roomId deviceId => (Client.join vault draws roomId deviceId).discard
  | .createInvitation roomId recipientDeviceId =>
      (Client.createInvitation vault draws roomId recipientDeviceId).discard
  | .acceptInvitation invitation => (Client.acceptInvitation vault draws invitation).discard
  | .publishEncryptedOutput roomId bytes =>
      (Client.publishEncryptedOutput vault draws roomId bytes).discard
  | .replayOutput roomId recipientDeviceId afterSequence =>
      (Client.replayOutput vault draws roomId recipientDeviceId afterSequence).discard
  | .publishOutput roomId bytes => (Client.publishOutput vault roomId bytes).discard
  | .receiveInput roomId deviceId leaseId sequence dataBase64 =>
      (Client.receiveInput vault draws roomId deviceId leaseId sequence dataBase64).discard
  | .receiveEncryptedInput frame => (Client.receiveEncryptedInput vault draws frame).discard
  | .grantControl roomId deviceId durationSeconds =>
      (Client.grantControl vault draws roomId deviceId durationSeconds).discard
  | .applyControlLease roomId lease =>
      (Client.applyControlLease vault draws roomId lease).discard
  | .removeParticipant roomId deviceId =>
      (Client.removeParticipant vault draws roomId deviceId).discard
  | .revokeControl roomId => (Client.revokeControl vault draws roomId).discard
  | .status roomId => (enter roomId (.status (draws.tick 0))).discard
  | .close roomId => (closeRoom vault draws roomId).discard
  | .closeAll => Client.closeAll
  | .closeTerminal terminalSessionId => Client.closeTerminal terminalSessionId
  | .closeClient roomId => (do verify (← Program.perform (.closeClient roomId)) : Operation _).discard

/-- The desktop with any number of calls under way, from an open local database without rooms. -/
def desktopSystem : System (Pool HostAction AppError Desktop) (Pool.Label HostAction AppError) :=
  Pool.system (hostSemantics vault)
    (fun program => ∃ call draws, program = HostCall.serve vault draws call)
    (fun desktop => ∃ db, desktop = .opened db)

end Client

end CNShell
