import CNShell.Relay.Store

/-! The statements and transactions of the relay's terminal rooms. -/

namespace CNShell

namespace Relay

/-- The largest canonical envelope. -/
def maxEnvelopeBytes : Nat := 128 * 1024

/-- The largest terminal payload. -/
def maxFrameBytes : Nat := 64 * 1024

/-- How many output frames of a room are kept for replay. -/
def maxReplayFrames : Nat := 512

/-- How many bytes of output frames of a room are kept for replay. -/
def maxReplayBytes : Int := 4 * 1024 * 1024

/-- How long an output frame is kept for replay. -/
def replayMinutes : Int := 5

def maxActiveRooms : Nat := 64

/-- How many closed rooms of a workspace are kept. -/
def maxRoomHistory : Nat := 4096

def maxRoomParticipants : Nat := 64

/-! ### Rooms -/

/-- The closed rooms of a workspace beyond the newest ones that are kept. -/
def surplusRooms (workspaceId : String) (db : Db) : List String :=
  let closed := db.terminalRooms.rows.filter fun room =>
    room.workspaceId = workspaceId ∧ room.status = .closed
  let kept := ((closed.mergeSort fun first second =>
    decide (second.closedAt.getD 0 < first.closedAt.getD 0 ∨
      second.closedAt.getD 0 = first.closedAt.getD 0 ∧ ¬first.id < second.id)).take
        maxRoomHistory).map TerminalRoom.id
  (closed.map TerminalRoom.id).filter fun id => id ∉ kept

def openedRoom (auth : DeviceAuth) (input : CreateRoomInput) : TerminalRoom where
  id := input.roomId
  workspaceId := auth.workspaceId
  hostMemberId := auth.memberId
  hostDeviceId := auth.deviceId
  keyEpoch := auth.keyEpoch
  status := .active
  nextOutputSequence := 1
  leaseGeneration := 0
  closedAt := none

def hostParticipant (auth : DeviceAuth) (roomId : String) (now : Instant) : RoomParticipant where
  roomId
  memberId := auth.memberId
  deviceId := auth.deviceId
  nextInputSequence := 1
  joinedAt := now
  removedAt := none

/-- A room as answers describe it. -/
def TerminalRoom.view (room : TerminalRoom) : RoomView where
  id := room.id
  workspaceId := room.workspaceId
  hostMemberId := room.hostMemberId
  hostDeviceId := room.hostDeviceId
  keyEpoch := room.keyEpoch
  status := room.status

/-- The transaction of `create_room`. -/
def createRoom (auth : DeviceAuth) (input : CreateRoomInput) (now : Instant) (db : Db) :
    RelayResult (RoomView × Db) := do
  let db := db.dropRooms (surplusRooms auth.workspaceId db)
  let active := db.terminalRooms.count fun room =>
    room.workspaceId = auth.workspaceId ∧ room.status = .active
  ensure (active < maxActiveRooms) (.conflict "工作区活动终端房间已经达到 64 个上限")
  let terminalRooms ← required (db.terminalRooms.insert (openedRoom auth input))
    (.conflict "终端房间 ID 已存在")
  ensure
    (db.hasWorkspace auth.workspaceId = true ∧ db.hasMember auth.memberId = true ∧
      db.hasDevice auth.deviceId = true) .storage
  let roomParticipants ← required
    (db.roomParticipants.insert (hostParticipant auth input.roomId now)) .storage
  let db := { db with terminalRooms, roomParticipants }
  audit db auth.workspaceId auth.memberId
  return (TerminalRoom.view (openedRoom auth input), db)

/-- The room a device takes part in, checked against the device's workspace and epoch. -/
def authorizeRoom (auth : DeviceAuth) (roomId : String) (db : Db) : RelayResult RoomView := do
  requireDevicePermission auth .terminalView
  let absent := RelayError.permissionDenied "设备未加入终端房间"
  let room ← required (db.terminalRooms.find? roomId) absent
  let _ ← required
    ((db.roomParticipants.find? (roomId, auth.deviceId)).filter fun row =>
      row.memberId = auth.memberId ∧ row.removedAt = none) absent
  let view := TerminalRoom.view room
  ensure
    (view.workspaceId = auth.workspaceId ∧ view.keyEpoch = auth.keyEpoch ∧ view.status = .active)
    (.permissionDenied "终端房间、工作区或 epoch 已失效")
  return view

def hostRoom (auth : DeviceAuth) (roomId : String) (db : Db) : RelayResult RoomView := do
  requireDevicePermission auth .shareManage
  let room ← authorizeRoom auth roomId db
  ensure (room.hostMemberId = auth.memberId ∧ room.hostDeviceId = auth.deviceId)
    (.permissionDenied "只有房间主持设备可以执行该操作")
  return room

/-! ### Invitations and participants -/

/-- The shape of a room invitation: version, sizes, identifiers, times and key lengths. -/
def validateInvitationShape (platform : Platform) (invitation : TeamTerminalInvitation)
    (now : Instant) : RelayResult Unit := do
  let canonical ← required (platform.canonicalInvitation invitation)
    (.validation "房间邀请无法规范化")
  ensure
    (canonical.length ≤ maxEnvelopeBytes ∧ invitation.schemaVersion = 1 ∧
      1 ≤ invitation.keyEpoch ∧ invitation.nextInputSequence ≠ 0)
    (.validation "房间邀请版本、epoch 或大小无效")
  validateUuid platform invitation.roomId "房间 ID"
  validateUuid platform invitation.workspaceId "工作区 ID"
  validateUuid platform invitation.hostMemberId "主持成员 ID"
  validateUuid platform invitation.hostDeviceId "主持设备 ID"
  validateUuid platform invitation.recipientMemberId "接收成员 ID"
  validateUuid platform invitation.recipientDeviceId "接收设备 ID"
  let created ← required (platform.parseRfc3339 invitation.createdAt)
    (.validation "房间邀请创建时间无效")
  let expires ← required (platform.parseRfc3339 invitation.expiresAt)
    (.validation "房间邀请过期时间无效")
  ensure (now < expires ∧ created < expires ∧ expires - created ≤ minutes 5)
    (.validation "房间邀请时间范围无效")
  let decodes (value : Option String) (length : Nat) : Bool :=
    (value.bind platform.decodeBase64Url).any fun bytes => bytes.length == length
  ensure
    (decodes (stripPrefix "x25519:" invitation.ephemeralPublicKey) 32 = true ∧
      decodes (some invitation.keyNonce) 12 = true ∧
      decodes (some invitation.wrappedRoomKey) 48 = true)
    (.validation "房间邀请公钥、nonce 或封装密钥长度无效")

/-- The verifying key a stored device key stands for. -/
def decodeSigningKey (platform : Platform) (value : String) : RelayResult (List UInt8) := do
  let encoded ← required (stripPrefix "ed25519:" value) (.validation "设备签名公钥格式无效")
  let bytes ← required (platform.decodeBase64Url encoded) (.validation "设备签名公钥编码无效")
  ensure (bytes.length = 32) (.validation "设备签名公钥长度无效")
  ensure (platform.validVerifyingKey bytes = true) (.validation "设备签名公钥无效")
  return bytes

/-- The signature an envelope carries. -/
def decodeSignature (platform : Platform) (value : Option String) : RelayResult (List UInt8) := do
  let encoded ← required (value.bind (stripPrefix "ed25519:")) (.validation "签名缺失或格式无效")
  let bytes ← required (platform.decodeBase64Url encoded) (.validation "签名编码无效")
  ensure (bytes.length = 64) (.validation "签名长度无效")
  return bytes

/-- A room invitation must be signed by the host device. -/
def verifyInvitationSignature (platform : Platform) (invitation : TeamTerminalInvitation)
    (signingPublicKey : String) : RelayResult Unit := do
  let payload ← required (platform.canonicalInvitation { invitation with signature := none })
    (.validation "房间邀请无法规范化")
  let key ← decodeSigningKey platform signingPublicKey
  let signature ← decodeSignature platform invitation.signature
  ensure (platform.verifies key payload signature = true) (.authentication "房间邀请签名验证失败")

def checkInvitationRoute (auth : DeviceAuth) (roomId : String)
    (invitation : TeamTerminalInvitation) : RelayResult Unit :=
  ensure
    (invitation.roomId = roomId ∧ invitation.workspaceId = auth.workspaceId ∧
      invitation.keyEpoch = auth.keyEpoch ∧ invitation.hostMemberId = auth.memberId ∧
      invitation.hostDeviceId = auth.deviceId)
    (.validation "房间邀请路由、主持设备或 epoch 不匹配")

def recipientIsActive (workspaceId memberId deviceId : String) (db : Db) : RelayResult Bool :=
  return (db.devices.find? deviceId).any fun device =>
    device.workspaceId = workspaceId ∧ device.memberId = memberId ∧ device.status = .active ∧
      (db.members.find? device.memberId).any fun member =>
        member.workspaceId = device.workspaceId ∧ member.status = .active

def signingKey (deviceId : String) (db : Db) : RelayResult String := do
  let device ← required
    ((db.devices.find? deviceId).filter fun device => device.status = .active) .storage
  return device.signingPublicKey

def presentDevices (roomId : String) (db : Db) : List String :=
  (db.roomParticipants.rows.filter fun row =>
    row.roomId = roomId ∧ row.removedAt = none).map RoomParticipant.deviceId

def pendingDevices (roomId : String) (db : Db) : List String :=
  (db.roomInvitations.rows.filter fun row =>
    row.roomId = roomId ∧ row.acceptedAt = none).map RoomInvitation.recipientDeviceId

/-- The devices that are present in a room or may still join it, each once. -/
def occupants (roomId : String) (db : Db) : List String :=
  (presentDevices roomId db ++ pendingDevices roomId db).dedup

/-- The count that `route_invitation` compares with the limit. -/
def participantCount (roomId : String) (db : Db) : RelayResult Nat := return (occupants roomId db).length

def alreadyInvited (roomId deviceId : String) (db : Db) : RelayResult Bool :=
  return (db.roomInvitations.find? (roomId, deviceId)).isSome

def routedInvitation (roomId : String) (invitation : TeamTerminalInvitation) (now : Instant) :
    RoomInvitation where
  roomId
  recipientDeviceId := invitation.recipientDeviceId
  envelope := invitation
  expiresAt := invitation.expiresAt
  acceptedAt := none
  createdAt := now

def storeInvitation (roomId : String) (invitation : TeamTerminalInvitation) (now : Instant)
    (db : Db) : Db :=
  { db with
    roomInvitations := db.roomInvitations.upsert (routedInvitation roomId invitation now)
      ⟨fun held => { held with
        envelope := invitation
        expiresAt := invitation.expiresAt
        acceptedAt := none
        createdAt := now }, fun _ => rfl⟩ }

/-- The insertion of a room invitation, or the renewal of the one the device already has. -/
def upsertRoomInvitation (roomId : String) (invitation : TeamTerminalInvitation) (now : Instant)
    (db : Db) : RelayResult (Unit × Db) := do
  ensure (db.hasRoom roomId = true ∧ db.hasDevice invitation.recipientDeviceId = true) .storage
  return ((), storeInvitation roomId invitation now db)

/-- The invitations a device may still accept, oldest first. -/
def listInvitations (platform : Platform) (auth : DeviceAuth) (now : Instant) (db : Db) :
    RelayResult (List RoutedRoomInvitation) :=
  return ((db.roomInvitations.rows.filter fun row =>
      row.recipientDeviceId = auth.deviceId ∧ row.acceptedAt = none ∧
        platform.rfc3339 now < row.expiresAt ∧
        (db.terminalRooms.find? row.roomId).any fun room =>
          room.status = .active ∧ room.workspaceId = auth.workspaceId ∧
            room.keyEpoch = auth.keyEpoch).mergeSort fun first second =>
      decide (first.createdAt ≤ second.createdAt)).map fun row =>
    { roomId := row.roomId, invitation := row.envelope }

def joinedParticipant (auth : DeviceAuth) (roomId : String) (invitation : TeamTerminalInvitation)
    (now : Instant) : RoomParticipant where
  roomId
  memberId := auth.memberId
  deviceId := auth.deviceId
  nextInputSequence := asI64 invitation.nextInputSequence
  joinedAt := now
  removedAt := none

def admitParticipant (auth : DeviceAuth) (roomId : String) (invitation : TeamTerminalInvitation)
    (now : Instant) (db : Db) : Db :=
  { db with
    roomParticipants := db.roomParticipants.upsert (joinedParticipant auth roomId invitation now)
      ⟨fun held => { held with memberId := auth.memberId, removedAt := none }, fun _ => rfl⟩
    roomInvitations := db.roomInvitations.update
      (fun row => row.roomId = roomId ∧ row.recipientDeviceId = auth.deviceId ∧ row.acceptedAt = none)
      ⟨fun row => { row with acceptedAt := some now }, fun _ => rfl⟩ }

/-- The transaction of `join_room`; a device that returns keeps its input counter. -/
def joinRoom (platform : Platform) (auth : DeviceAuth) (roomId : String) (checkedAt now : Instant)
    (db : Db) : RelayResult (RoomView × Db) := do
  let absent := RelayError.notFound "活动房间邀请不存在"
  let room ← required (db.terminalRooms.find? roomId) absent
  let invitation ← required
    ((db.roomInvitations.find? (roomId, auth.deviceId)).filter fun row =>
      row.acceptedAt = none ∧ platform.rfc3339 checkedAt < row.expiresAt) absent
  ensure
    (room.workspaceId = auth.workspaceId ∧ room.keyEpoch = auth.keyEpoch ∧ room.status = .active)
    (.permissionDenied "房间工作区或 epoch 已失效")
  ensure
    (invitation.envelope.recipientMemberId = auth.memberId ∧ invitation.envelope.recipientDeviceId = auth.deviceId)
    (.permissionDenied "房间邀请不属于当前设备")
  ensure (db.hasMember auth.memberId = true ∧ db.hasDevice auth.deviceId = true) .storage
  let db := admitParticipant auth roomId invitation.envelope now db
  audit db auth.workspaceId auth.memberId
  return (TerminalRoom.view room, db)

def leaving (auth : DeviceAuth) (roomId : String) (row : RoomParticipant) : Bool :=
  row.roomId = roomId ∧ row.deviceId = auth.deviceId ∧ row.memberId = auth.memberId ∧ row.removedAt = none

/-- A device no longer takes part in a room and holds no lease of it. -/
def dismissParticipant (auth : DeviceAuth) (roomId : String) (now : Instant) (db : Db) : Db :=
  { db with
    roomParticipants := db.roomParticipants.update (leaving auth roomId)
      ⟨fun row => { row with removedAt := some now }, fun _ => rfl⟩
    controlLeases := db.controlLeases.delete fun lease =>
      lease.roomId = roomId ∧ lease.deviceId = auth.deviceId }

/-- The transaction of `leave_room`, which returns whether a control lease ended with it. -/
def leaveRoom (auth : DeviceAuth) (roomId : String) (now : Instant) (db : Db) : RelayResult (Bool × Db) := do
  ensure (db.roomParticipants.count (leaving auth roomId) = 1) (.notFound "活动房间参与记录不存在")
  let held (lease : ControlLease) : Bool := lease.roomId = roomId ∧ lease.deviceId = auth.deviceId
  let revoked := decide (0 < db.controlLeases.count held)
  audit db auth.workspaceId auth.memberId
  return (revoked, dismissParticipant auth roomId now db)

def roomParticipants (roomId : String) (db : Db) : RelayResult (List TerminalParticipantOutput) := do
  let rows := (db.roomParticipants.rows.filter fun row =>
    row.roomId = roomId ∧ row.removedAt = none).filterMap fun row => do
      let room ← db.terminalRooms.find? row.roomId
      let member ← db.members.find? row.memberId
      let device ← db.devices.find? row.deviceId
      if room.status = .active ∧ member.workspaceId = room.workspaceId ∧ member.status = .active ∧
          device.memberId = row.memberId ∧ device.workspaceId = room.workspaceId ∧
          device.status = .active then
        some (TerminalParticipantOutput.mk row.memberId row.deviceId member.role row.joinedAt)
      else none
  ensure (rows.length ≤ maxRoomParticipants) .internal
  return oldestFirst TerminalParticipantOutput.joinedAt TerminalParticipantOutput.deviceId rows

/-! ### Control leases -/

/-- The member behind a participant that may be given control, with its role. -/
def controlTarget (roomId deviceId : String) (db : Db) : RelayResult (String × Role) := do
  let absent := RelayError.notFound "控制设备未加入房间"
  let row ← required
    ((db.roomParticipants.find? (roomId, deviceId)).filter fun row => row.removedAt = none) absent
  let device ← required
    ((db.devices.find? deviceId).filter fun device =>
      device.memberId = row.memberId ∧ device.status = .active) absent
  let member ← required
    ((db.members.find? row.memberId).filter fun member =>
      member.workspaceId = device.workspaceId ∧ member.status = .active) absent
  return (member.id, member.role)

def grantedLease (roomId memberId : String) (input : GrantControlInput) (leaseId : String)
    (now : Instant) (generation : Int) : ControlLease where
  roomId
  leaseId
  memberId
  deviceId := input.deviceId
  generation
  expiresAt := now + seconds input.durationSeconds.toNat

/-- A lease replaces the one of its room, and the room's lease generation is raised by one. -/
def storeLease (lease : ControlLease) (db : Db) : Db :=
  { db with
    terminalRooms := db.terminalRooms.update
      (fun room => room.id = lease.roomId ∧ room.status = .active)
      ⟨fun room => { room with leaseGeneration := room.leaseGeneration + 1 }, fun _ => rfl⟩
    controlLeases := db.controlLeases.upsert lease
      ⟨fun held => { lease with roomId := held.roomId }, fun _ => rfl⟩ }

/-- The transaction of `grant_control`, which returns the lease it stores. -/
def grantControl (auth : DeviceAuth) (roomId memberId : String) (input : GrantControlInput)
    (leaseId : String) (now : Instant) (db : Db) : RelayResult (ControlLeaseOutput × Db) := do
  let room ← required
    ((db.terminalRooms.find? roomId).filter fun room => room.status = .active) .storage
  let generation ← decodeI64 (room.leaseGeneration + 1)
  let lease := grantedLease roomId memberId input leaseId now generation
  ensure
    (¬∃ held ∈ db.controlLeases.rows, held.roomId ≠ roomId ∧ held.leaseId = leaseId) .storage
  ensure (db.hasMember memberId = true ∧ db.hasDevice input.deviceId = true) .storage
  let db := storeLease lease db
  audit db auth.workspaceId auth.memberId
  return (
    { leaseId
      memberId
      deviceId := input.deviceId
      generation := asU64 generation
      expiresAt := lease.expiresAt }, db)

/-- The transaction of `revoke_control`. -/
def revokeControl (auth : DeviceAuth) (roomId : String) (db : Db) : RelayResult (Unit × Db) := do
  let controlLeases := db.controlLeases.delete fun lease => lease.roomId = roomId
  audit db auth.workspaceId auth.memberId
  return ((), { db with controlLeases })

/-- A room is closed and keeps neither lease nor frames. -/
def shutRoom (roomId : String) (now : Instant) (db : Db) : Db :=
  { db with
    terminalRooms := db.terminalRooms.update (fun room => room.id = roomId ∧ room.status = .active)
      (TerminalRoom.closing now)
    controlLeases := db.controlLeases.delete fun lease => lease.roomId = roomId
    relayFrames := db.relayFrames.delete fun frame => frame.roomId = roomId }

/-- The transaction of `close_room`, which also drops the room's lease and frames. -/
def closeRoom (auth : DeviceAuth) (roomId : String) (now : Instant) (db : Db) : RelayResult (Unit × Db) := do
  audit db auth.workspaceId auth.memberId
  return ((), shutRoom roomId now db)

/-- The lease of a room that has not expired. -/
def currentControl (roomId : String) (now : Instant) (db : Db) : RelayResult (Option ControlLeaseOutput) :=
  return ((db.controlLeases.find? roomId).filter fun lease => now < lease.expiresAt).map fun lease =>
    { leaseId := lease.leaseId
      memberId := lease.memberId
      deviceId := lease.deviceId
      generation := asU64 lease.generation
      expiresAt := lease.expiresAt }

/-! ### Frames -/

/-- The shape of a frame: version, size, identifiers and the lengths of its encrypted parts. -/
def validateFrameShape (platform : Platform) (frame : TeamTerminalEncryptedFrame) : RelayResult Unit := do
  let canonical ← required (platform.canonicalFrame frame) (.validation "终端帧无法规范化")
  ensure
    (canonical.length ≤ maxEnvelopeBytes ∧ frame.schemaVersion = 1 ∧ frame.sequence ≠ 0 ∧ frame.kind = "terminal")
    (.validation "终端帧版本、类型、序号或大小无效")
  validateUuid platform frame.workspaceId "工作区 ID"
  validateUuid platform frame.roomId "房间 ID"
  validateUuid platform frame.senderMemberId "发送成员 ID"
  validateUuid platform frame.senderDeviceId "发送设备 ID"
  let nonce ← required (platform.decodeBase64Url frame.nonce) (.validation "终端帧 nonce 编码无效")
  let ciphertext ← required (platform.decodeBase64Url frame.ciphertext)
    (.validation "终端帧密文编码无效")
  ensure
    (nonce.length = 12 ∧ 16 < ciphertext.length ∧ ciphertext.length ≤ maxFrameBytes + 16)
    (.validation "终端帧 nonce 或密文长度无效")

/-- A frame must come from the session that sends it. -/
def checkFrameSender (auth : DeviceAuth) (frame : TeamTerminalEncryptedFrame) : RelayResult Unit :=
  ensure
    (frame.workspaceId = auth.workspaceId ∧ frame.senderMemberId = auth.memberId ∧
      frame.senderDeviceId = auth.deviceId ∧ frame.keyEpoch = auth.keyEpoch)
    (.permissionDenied "帧发送者、工作区或 epoch 与设备会话不匹配")

/-- A frame must be signed by the sending device. -/
def verifyFrameSignature (platform : Platform) (frame : TeamTerminalEncryptedFrame)
    (signingPublicKey : String) : RelayResult Unit := do
  let payload ← required (platform.canonicalFrame { frame with signature := none })
    (.validation "终端帧无法规范化")
  let key ← decodeSigningKey platform signingPublicKey
  let signature ← decodeSignature platform frame.signature
  ensure (platform.verifies key payload signature = true) (.authentication "终端帧签名验证失败")

def framesInOrder (rows : List RelayFrame) : List RelayFrame :=
  rows.mergeSort fun first second => decide (first.sequence ≤ second.sequence)

/-- The oldest frames that go until the rest fits the byte limit. -/
def oversizedFrames : Int → List RelayFrame → List Int
  | _, [] => []
  | total, frame :: rest =>
    if total ≤ maxReplayBytes then []
    else frame.sequence :: oversizedFrames (total - frame.encodedBytes) rest

/-- The deletion of a room's frames that are too old, too many or too large to be replayed. -/
def pruneReplay (roomId : String) (now : Instant) (db : Db) : Db :=
  let cutoff := now - minutes replayMinutes
  let recent := db.relayFrames.delete fun frame => frame.roomId = roomId ∧ frame.createdAt < cutoff
  let own (table : Table RelayFrame.key) := table.rows.filter fun frame => frame.roomId = roomId
  let kept := ((framesInOrder (own recent)).reverse.take maxReplayFrames).map RelayFrame.sequence
  let counted := recent.delete fun frame => frame.roomId = roomId ∧ frame.sequence ∉ kept
  let total := ((own counted).map RelayFrame.encodedBytes).sum
  let oversized := oversizedFrames total (framesInOrder (own counted))
  { db with
    relayFrames := counted.delete fun frame => frame.roomId = roomId ∧ frame.sequence ∈ oversized }

def storedFrame (platform : Platform) (frame : TeamTerminalEncryptedFrame) (now : Instant) :
    RelayFrame where
  roomId := frame.roomId
  sequence := asI64 frame.sequence
  envelope := frame
  encodedBytes := platform.frameJsonBytes frame
  createdAt := now

def raiseOutput (roomId : String) (expected : Int) (db : Db) : Db :=
  { db with
    terminalRooms := db.terminalRooms.update
      (fun room => room.id = roomId ∧ room.nextOutputSequence = expected)
      ⟨fun room => { room with nextOutputSequence := room.nextOutputSequence + 1 }, fun _ => rfl⟩ }

def acceptOutput (platform : Platform) (auth : DeviceAuth) (room : RoomView)
    (frame : TeamTerminalEncryptedFrame) (now prunedAt : Instant) (db : Db) :
    RelayResult (Unit × Db) := do
  ensure
    (room.hostDeviceId = auth.deviceId ∧ frame.kind = "terminal" ∧ frame.leaseId = none ∧ frame.leaseGeneration = 0)
    (.permissionDenied "只有主持设备可以发送无租约输出帧")
  let stored ← required
    ((db.terminalRooms.find? frame.roomId).filter fun room => room.status = .active) .storage
  let expected ← decodeI64 stored.nextOutputSequence
  ensure (frame.sequence = asU64 expected)
    (.conflict ("输出序号无效：期望 " ++ toString expected ++ "，收到 " ++ toString frame.sequence))
  let relayFrames ← required (db.relayFrames.insert (storedFrame platform frame now)) .storage
  return ((), pruneReplay frame.roomId prunedAt
    { raiseOutput frame.roomId expected db with relayFrames })

def raiseInput (roomId deviceId : String) (expected : Int) (db : Db) : Db :=
  { db with
    roomParticipants := db.roomParticipants.update
      (fun row => row.roomId = roomId ∧ row.deviceId = deviceId ∧ row.nextInputSequence = expected)
      ⟨fun row => { row with nextInputSequence := row.nextInputSequence + 1 }, fun _ => rfl⟩ }

def acceptInput (platform : Platform) (auth : DeviceAuth) (frame : TeamTerminalEncryptedFrame)
    (now : Instant) (db : Db) : RelayResult (Unit × Db) := do
  requireDevicePermission auth .terminalControl
  ensure
    (frame.kind = "terminal" ∧ frame.leaseGeneration ≠ 0 ∧ frame.leaseId.any platform.parsesUuid = true)
    (.validation "输入帧租约元数据无效")
  let participant ← required
    ((db.roomParticipants.find? (frame.roomId, auth.deviceId)).filter fun row =>
      row.memberId = auth.memberId ∧ row.removedAt = none) .storage
  let expected ← decodeI64 participant.nextInputSequence
  ensure (frame.sequence = asU64 expected)
    (.conflict ("输入序号无效：期望 " ++ toString expected ++ "，收到 " ++ toString frame.sequence))
  ensure
    (((db.controlLeases.find? frame.roomId).any fun lease =>
      lease.leaseId = frame.leaseId.getD "" ∧ lease.memberId = auth.memberId ∧
        lease.deviceId = auth.deviceId ∧ lease.generation = asI64 frame.leaseGeneration ∧
        now < lease.expiresAt) = true)
    (.permissionDenied "控制租约无效、已过期或不属于当前设备")
  return ((), raiseInput frame.roomId auth.deviceId expected db)

/-- The transaction of `process_frame`, by the direction of the frame. -/
def commitFrame (platform : Platform) (auth : DeviceAuth) (room : RoomView)
    (frame : TeamTerminalEncryptedFrame) (now prunedAt : Instant) (db : Db) :
    RelayResult (Unit × Db) :=
  match frame.direction with
  | "output" => acceptOutput platform auth room frame now prunedAt db
  | "input" => acceptInput platform auth frame now db
  | _ => .error (.validation "终端帧方向无效")

def latestOutput (roomId : String) (db : Db) : RelayResult Int := do
  let room ← required
    ((db.terminalRooms.find? roomId).filter fun room => room.status = .active) .storage
  decodeI64 (room.nextOutputSequence - 1)

def nextInput (roomId deviceId : String) (db : Db) : RelayResult Int := do
  let row ← required
    ((db.roomParticipants.find? (roomId, deviceId)).filter fun row => row.removedAt = none) .storage
  decodeI64 row.nextInputSequence

/-- The frames `replay` reads between two sequences, after its bounds were checked. -/
def replayRows (roomId : String) (afterSequence upToSequence : UInt64) (db : Db) : List RelayFrame :=
  (framesInOrder (db.relayFrames.rows.filter fun frame =>
    frame.roomId = roomId ∧ asI64 afterSequence < frame.sequence ∧
      frame.sequence ≤ asI64 upToSequence)).take maxReplayFrames

/-- The output frames after one sequence and up to another, when all of them are still stored. -/
def replay (roomId : String) (afterSequence upToSequence : UInt64) (db : Db) :
    RelayResult (List TeamTerminalEncryptedFrame) := do
  let expired := RelayError.unavailable "终端断线重放窗口已过期，请重新加入"
  ensure (afterSequence ≤ upToSequence) (.validation "客户端确认序号超过房间最新输出")
  if afterSequence = upToSequence then return []
  ensure (upToSequence.toNat - afterSequence.toNat ≤ maxReplayFrames) expired
  let rows := replayRows roomId afterSequence upToSequence db
  let saturated := min (afterSequence.toNat + 1) (2 ^ 64 - 1)
  ensure
    (rows.head?.map (fun row => (asU64 row.sequence).toNat) = some saturated ∧
      rows.getLast?.map (fun row => asU64 row.sequence) = some upToSequence) expired
  return rows.map RelayFrame.envelope

end Relay

end CNShell
