import CNShell.Client.Crypto
import CNShell.Library.Section

/-! The rooms of shared terminals on their hosting device, and what each operation does to one under the lock. -/

namespace CNShell

namespace Client

/-- How many rooms may be open at once. -/
def maxRooms : Nat := 16

/-- How many devices may take part in one room. -/
def maxParticipants : Nat := 64

def minLeaseSeconds : UInt64 := 10

def maxLeaseSeconds : UInt64 := 5 * 60

def invitationTtlSeconds : Int := 5 * 60

/-- How many seconds an output frame is kept for replay. -/
def replayTtlSeconds : Int := 5 * 60

def maxReplayFrames : Nat := 512

/-- How many bytes of output frames are kept for replay. -/
def maxReplayBytes : Nat := 4 * 1024 * 1024

/-- The sum of two sizes, at most the largest machine word. -/
def saturatingAdd (first second : Nat) : Nat := min (first + second) (2 ^ 64 - 1)

/-- A counter's next value, if it has one. -/
def checkedSucc (word : UInt64) : Option UInt64 := if word.toNat + 1 < 2 ^ 64 then some (word + 1) else none

/-- The counter before, or zero at zero. -/
def saturatingPred (word : UInt64) : UInt64 := if word = 0 then 0 else word - 1

theorem toNat_checkedSucc {word next : UInt64} (counts : checkedSucc word = some next) :
    next.toNat = word.toNat + 1 := by
  unfold checkedSucc at counts
  split at counts
  · rename_i fits
    rw [← Option.some.inj counts, UInt64.toNat_add, UInt64.toNat_one]
    exact Nat.mod_eq_of_lt fits
  · cases counts

theorem toNat_saturatingPred {word : UInt64} (positive : 1 ≤ word.toNat) :
    (saturatingPred word).toNat = word.toNat - 1 := by
  have nonzero : word ≠ 0 := by
    intro zero
    rw [zero] at positive
    exact absurd positive (by decide)
  rw [saturatingPred, if_neg nonzero]
  exact UInt64.toNat_sub_of_le _ _ (UInt64.le_iff_toNat_le.mpr positive)

/-- A device that takes part in a room. -/
structure TeamTerminalParticipant where
  memberId : String
  deviceId : String
  role : Role
  joinedAt : String
  deriving DecidableEq

/-- The right to type into a shared terminal for a while. -/
structure TeamControlLease where
  id : String
  memberId : String
  deviceId : String
  expiresAt : String
  generation : UInt64
  deriving DecidableEq

structure TeamTerminalRoom where
  id : String
  workspaceId : String
  terminalSessionId : String
  hostMemberId : String
  hostDeviceId : String
  keyEpoch : Int
  status : RoomStatus
  participants : List TeamTerminalParticipant
  controlLease : Option TeamControlLease
  nextOutputSequence : UInt64
  createdAt : String
  deriving DecidableEq

/-- A piece of terminal output in the clear. -/
structure TeamTerminalFrame where
  roomId : String
  sequence : UInt64
  kind : String
  dataBase64 : String
  deriving DecidableEq

/-- A participant with the sequence of the input it may send next. -/
structure ParticipantState where
  participant : TeamTerminalParticipant
  nextInputSequence : UInt64
  deriving DecidableEq

def ParticipantState.deviceId (seat : ParticipantState) : String := seat.participant.deviceId

/-- A lease with the reading of the clock it ends at. -/
structure LeaseState where
  lease : TeamControlLease
  expiresAt : Tick
  deriving DecidableEq

/-- An output frame that is kept for replay. -/
structure StoredFrame where
  frame : TeamTerminalEncryptedFrame
  bytes : Nat
  createdAt : Tick
  deriving DecidableEq

/-- A room on its hosting device. -/
structure RoomState where
  id : String
  workspaceId : String
  terminalSessionId : String
  hostMemberId : String
  hostDeviceId : String
  keyEpoch : Int
  status : RoomStatus
  participants : Table ParticipantState.deviceId
  controlLease : Option LeaseState
  nextOutputSequence : UInt64
  leaseGeneration : UInt64
  roomKey : List UInt8
  replay : List StoredFrame
  replayBytes : Nat
  encryptedTransportEnabled : Bool
  createdAt : String

abbrev RoomSection (α : Type) := Section RoomState AppError α

namespace RoomState

def expireLease (now : Tick) (room : RoomState) : RoomState :=
  if room.controlLease.any (fun held => held.expiresAt ≤ now) = true then
    { room with controlLease := none }
  else room

/-- The order participants are shown in: by the time they joined, then by device. -/
def joinedBefore (left right : TeamTerminalParticipant) : Bool :=
  left.joinedAt < right.joinedAt ∨ left.joinedAt = right.joinedAt ∧ left.deviceId ≤ right.deviceId

def view (room : RoomState) : TeamTerminalRoom where
  id := room.id
  workspaceId := room.workspaceId
  terminalSessionId := room.terminalSessionId
  hostMemberId := room.hostMemberId
  hostDeviceId := room.hostDeviceId
  keyEpoch := room.keyEpoch
  status := room.status
  participants := (room.participants.rows.map ParticipantState.participant).mergeSort joinedBefore
  controlLease := room.controlLease.map LeaseState.lease
  nextOutputSequence := room.nextOutputSequence
  createdAt := room.createdAt

/-- What is left of the replay buffer when frames are dropped from its front, each at its own reading. -/
def pruned (clock : Nat → Tick) : List StoredFrame → Nat → List StoredFrame × Nat
  | [], bytes => ([], bytes)
  | front :: rest, bytes =>
    -- The front goes while it is too old or the whole buffer is too long or too large.
    if seconds replayTtlSeconds < clock 0 - front.createdAt ∨ maxReplayFrames < (front :: rest).length ∨
        maxReplayBytes < bytes then
      pruned (fun i => clock (i + 1)) rest (bytes - front.bytes)
    else (front :: rest, bytes)

def pruneReplay (clock : Nat → Tick) (room : RoomState) : RoomState :=
  { room with
    replay := (pruned clock room.replay room.replayBytes).1
    replayBytes := (pruned clock room.replay room.replayBytes).2 }

/-- The sequence after which a pruned room can replay its output. -/
def replayStart (room : RoomState) : UInt64 :=
  match room.replay.head? with
  | some front => saturatingPred front.frame.sequence
  | none => saturatingPred room.nextOutputSequence

def seat (participant : TeamTerminalParticipant) (room : RoomState) : RoomState :=
  { room with participants := room.participants.put ⟨participant, 1⟩ }

def setRole (deviceId : String) (role : Role) (room : RoomState) : RoomState :=
  { room with
    participants := room.participants.update (fun held => held.deviceId = deviceId)
      ⟨fun held => { held with participant := { held.participant with role } }, fun _ => rfl⟩ }

def setNextOutput (sequence : UInt64) (room : RoomState) : RoomState := { room with nextOutputSequence := sequence }

def store (stored : StoredFrame) (room : RoomState) : RoomState :=
  { room with
    replayBytes := saturatingAdd room.replayBytes stored.bytes
    replay := room.replay ++ [stored] }

def enableEncryption (room : RoomState) : RoomState := { room with encryptedTransportEnabled := true }

def setNextInput (deviceId : String) (sequence : UInt64) (room : RoomState) : RoomState :=
  { room with
    participants := room.participants.update (fun held => held.deviceId = deviceId)
      ⟨fun held => { held with nextInputSequence := sequence }, fun _ => rfl⟩ }

def install (lease : TeamControlLease) (expiresAt : Tick) (room : RoomState) : RoomState :=
  { room with
    leaseGeneration := lease.generation
    controlLease := some ⟨lease, expiresAt⟩ }

def clearLease (room : RoomState) : RoomState := { room with controlLease := none }

/-- The room without a device, and without the lease if that device held it. -/
def dismiss (deviceId : String) (room : RoomState) : RoomState :=
  { room with
    participants := room.participants.delete fun held => held.deviceId = deviceId
    controlLease :=
      if room.controlLease.any (fun held => held.lease.deviceId = deviceId) = true then none
      else room.controlLease }

/-- The room closed, with nothing left that its key opened. -/
def close (room : RoomState) : RoomState :=
  { room with
    status := .closed
    controlLease := none
    roomKey := zeroized
    replay := []
    replayBytes := 0 }

end RoomState

/-! ### The sections of the operations -/

/-- The room as it is shown, once a lease that has ended is gone. -/
def snapshot (now : Tick) : RoomSection TeamTerminalRoom := do
  Section.modify (RoomState.expireLease now)
  let room ← Section.get
  return room.view

/-- The caller must be the room's host, under the room's key epoch. -/
def validateHost (authorization : TeamAuthorization) (room : RoomState) : AppResult Unit :=
  ensure
    (room.hostMemberId = authorization.memberId ∧
      authorization.localDeviceId = some room.hostDeviceId ∧ room.keyEpoch = authorization.keyEpoch)
    (.permissionDenied "团队终端房间的主持成员、设备或密钥 epoch 已失效")

def verifyHost (authorization : TeamAuthorization) : RoomSection Unit := do
  let room ← Section.get
  Section.check (validateHost authorization room)

/-- The locked room must be open. -/
def verifyActive : RoomSection Unit := do
  let room ← Section.get
  Section.check (ensure (room.status = .active) (.unavailable "团队终端房间已关闭"))

/-- A device enters the room, or is found in it with a role that may have changed. -/
def seatDevice (moved : String) (memberId deviceId : String) (role : Role) (joinedAt : String) :
    RoomSection Unit := do
  let room ← Section.get
  let held := room.participants.find? deviceId
  Section.check (ensure (¬(held = none ∧ maxParticipants ≤ room.participants.rows.length))
    (.validation "团队终端最多 64 名参与设备"))
  match held with
  | some seated =>
    Section.check (ensure (seated.participant.memberId = memberId) (.permissionDenied moved))
    Section.modify (RoomState.setRole deviceId role)
  | none => Section.modify (RoomState.seat { memberId, deviceId, role, joinedAt })

/-- The last section of `join`. -/
def joinSection (authorization : TeamAuthorization) (memberId deviceId : String) (role : Role)
    (joinedAt : String) (now : Tick) : RoomSection TeamTerminalRoom := do
  verifyHost authorization
  verifyActive
  seatDevice "团队终端设备成员归属在重连期间发生变化" memberId deviceId role joinedAt
  snapshot now

/-- What an invitation draws: a secret, a nonce, times and the clock while the buffer is pruned. -/
structure InvitationDraws where
  ephemeralSecret : List UInt8
  keyNonce : List UInt8
  joinedAt : Instant
  createdAt : Instant
  clock : Nat → Tick
  keychain : Keychain

variable (vault : Vault)

def wrapForRecipient (draws : InvitationDraws) (recipientPublic : List UInt8)
    (recipientDeviceId : String) (room : RoomState) : AppResult (List UInt8) := do
  let shared := vault.sharedSecret draws.ephemeralSecret recipientPublic
  ensure (vault.contributory shared = true) (.validation "团队终端接收设备 X25519 公钥不可用")
  wrapRoomKey vault shared room.workspaceId room.id room.keyEpoch recipientDeviceId room.roomKey
    draws.keyNonce

def unsignedInvitation (draws : InvitationDraws) (recipientMemberId recipientDeviceId : String)
    (wrappedRoomKey : List UInt8) (room : RoomState) : TeamTerminalInvitation where
  schemaVersion := 1
  roomId := room.id
  workspaceId := room.workspaceId
  keyEpoch := room.keyEpoch
  hostMemberId := room.hostMemberId
  hostDeviceId := room.hostDeviceId
  recipientMemberId
  recipientDeviceId
  ephemeralPublicKey := encodeKey vault "x25519" (vault.publicKey draws.ephemeralSecret)
  keyNonce := vault.encodeBase64Url draws.keyNonce
  wrappedRoomKey := vault.encodeBase64Url wrappedRoomKey
  replayFromSequence := room.replayStart
  nextInputSequence :=
    ((room.participants.find? recipientDeviceId).map ParticipantState.nextInputSequence).getD 1
  createdAt := vault.rfc3339 draws.createdAt
  expiresAt := vault.rfc3339 (draws.createdAt + seconds invitationTtlSeconds)
  signature := none

/-- The section of `create_invitation`. -/
def inviteSection (draws : InvitationDraws) (authorization : TeamAuthorization)
    (hostDeviceId recipientMemberId recipientDeviceId : String) (recipientRole : Role)
    (recipientPublic : List UInt8) : RoomSection TeamTerminalInvitation := do
  verifyHost authorization
  verifyActive
  seatDevice "团队终端设备成员归属在邀请期间发生变化" recipientMemberId recipientDeviceId recipientRole
    (vault.rfc3339 draws.joinedAt)
  let room ← Section.get
  let wrapped ← Section.check (wrapForRecipient vault draws recipientPublic recipientDeviceId room)
  Section.modify (RoomState.pruneReplay draws.clock)
  let room ← Section.get
  let invitation ← Section.check (signInvitation vault draws.keychain hostDeviceId
    (unsignedInvitation vault draws recipientMemberId recipientDeviceId wrapped room))
  Section.modify RoomState.enableEncryption
  return invitation

/-- What publishing draws: a nonce, the clock of the frame and the clock while the buffer is pruned. -/
structure OutputDraws where
  nonce : List UInt8
  createdAt : Tick
  clock : Nat → Tick
  keychain : Keychain

/-- The section of `publish_encrypted_output`. -/
def publishSection (draws : OutputDraws) (authorization : TeamAuthorization) (bytes : List UInt8) :
    RoomSection TeamTerminalEncryptedFrame := do
  verifyHost authorization
  verifyActive
  let room ← Section.get
  let sequence := room.nextOutputSequence
  let frame ← Section.check (encryptFrame vault draws.keychain draws.nonce room.roomKey
    room.workspaceId room.id room.keyEpoch room.hostMemberId room.hostDeviceId "output" "terminal"
    sequence none 0 bytes)
  let next ← Section.check (required (checkedSucc sequence) (.unavailable "团队终端输出序号已耗尽"))
  Section.modify (RoomState.setNextOutput next)
  -- The counter has moved on already when the size of the frame cannot be computed.
  let encoded ← Section.check (required (vault.canonicalFrame frame)
    (.internal ("计算团队终端帧大小失败：" ++ vault.canonicalError)))
  Section.modify (RoomState.store ⟨frame, encoded.length, draws.createdAt⟩)
  Section.modify RoomState.enableEncryption
  Section.modify (RoomState.pruneReplay draws.clock)
  return frame

def replayAfter (afterSequence : UInt64) (room : RoomState) : AppResult (List TeamTerminalEncryptedFrame) := do
  let latest := saturatingPred room.nextOutputSequence
  ensure (afterSequence ≤ latest) (.validation "团队终端客户端确认序号超过主持端最新输出")
  if afterSequence = latest then return []
  else
    let earliest ← required (room.replay.head?.map fun stored => stored.frame.sequence)
      (.unavailable "团队终端断线重放窗口已过期")
    ensure (earliest.toNat ≤ saturatingAdd afterSequence.toNat 1)
      (.unavailable "团队终端断线超过 5 分钟或 512 帧重放窗口，请重新加入")
    return (room.replay.filter fun stored => afterSequence < stored.frame.sequence).map
      StoredFrame.frame

/-- The section of `replay_output`. -/
def replaySection (clock : Nat → Tick) (authorization : TeamAuthorization)
    (memberId recipientDeviceId : String) (afterSequence : UInt64) :
    RoomSection (List TeamTerminalEncryptedFrame) := do
  verifyHost authorization
  let room ← Section.get
  Section.check (ensure
    (room.status = .active ∧ (room.participants.find? recipientDeviceId).any
      (fun held => held.participant.memberId = memberId) = true)
    (.permissionDenied "设备未加入活动团队终端房间"))
  Section.modify (RoomState.pruneReplay clock)
  let room ← Section.get
  Section.check (replayAfter afterSequence room)

/-- The section of `publish_output`. -/
def publishPlainSection (authorization : TeamAuthorization) (bytes : List UInt8) : RoomSection TeamTerminalFrame := do
  verifyHost authorization
  verifyActive
  let room ← Section.get
  Section.check (ensure (room.encryptedTransportEnabled = false)
    (.permissionDenied "团队终端房间启用端到端加密后不能继续发布明文帧"))
  let sequence := room.nextOutputSequence
  let next ← Section.check (required (checkedSucc sequence) (.unavailable "团队终端输出序号已耗尽"))
  Section.modify (RoomState.setNextOutput next)
  return { roomId := room.id, sequence, kind := "output", dataBase64 := vault.encodeBase64 bytes }

def requireLease (room : RoomState) : AppResult LeaseState :=
  required room.controlLease (.permissionDenied "当前没有有效控制租约")

/-- An input frame must come from the lease's device, with its next sequence. -/
def checkInput (frame : TeamTerminalEncryptedFrame) (room : RoomState) : AppResult Unit := do
  let held ← requireLease room
  ensure
    (room.status = .active ∧ room.keyEpoch = frame.keyEpoch ∧
      (room.participants.find? frame.senderDeviceId).any (fun seated =>
        seated.participant.memberId = frame.senderMemberId ∧ seated.nextInputSequence = frame.sequence) = true ∧
      held.lease.id = frame.leaseId.getD "" ∧ held.lease.deviceId = frame.senderDeviceId ∧
      held.lease.memberId = frame.senderMemberId ∧ held.lease.generation = frame.leaseGeneration)
    (.permissionDenied "团队终端输入参与者、序号、epoch 或控制租约已失效")

/-- The first section of `receive_encrypted_input`: the frame is checked and decrypted. -/
def openInputSection (authorization : TeamAuthorization) (frame : TeamTerminalEncryptedFrame)
    (now : Tick) : RoomSection (List UInt8) := do
  verifyHost authorization
  Section.modify (RoomState.expireLease now)
  let room ← Section.get
  Section.check (checkInput frame room)
  Section.check (decryptFrame vault room.roomKey frame)

/-- The section of `receive_input`, with which input is accepted. -/
def acceptInputSection (authorization : TeamAuthorization) (memberId deviceId leaseId : String)
    (sequence : UInt64) (now : Tick) : RoomSection String := do
  verifyHost authorization
  Section.modify (RoomState.expireLease now)
  verifyActive
  let room ← Section.get
  let held ← Section.check (requireLease room)
  Section.check (ensure
    (held.lease.id = leaseId ∧ held.lease.deviceId = deviceId ∧ held.lease.memberId = memberId)
    (.permissionDenied "控制租约不属于当前成员设备"))
  let seated ← Section.check (required (room.participants.find? deviceId)
    (.permissionDenied "设备未加入团队终端"))
  Section.check (ensure (seated.nextInputSequence = sequence)
    (.validation ("团队终端输入序号无效：期望 " ++ toString seated.nextInputSequence ++ "，收到 " ++
      toString sequence)))
  let next ← Section.check (required (checkedSucc seated.nextInputSequence)
    (.unavailable "团队终端输入序号已耗尽"))
  Section.modify (RoomState.setNextInput deviceId next)
  return room.terminalSessionId

/-- The section of `grant_control`. -/
def grantSection (authorization : TeamAuthorization) (memberId deviceId leaseId expiresAt : String)
    (endsAt now : Tick) : RoomSection TeamTerminalRoom := do
  verifyHost authorization
  let room ← Section.get
  Section.check (ensure (room.status = .active ∧ (room.participants.find? deviceId).isSome = true)
    (.permissionDenied "设备尚未加入活动团队终端房间"))
  let generation ← Section.check (required (checkedSucc room.leaseGeneration)
    (.unavailable "控制租约代次已耗尽"))
  Section.modify
    (RoomState.install { id := leaseId, memberId, deviceId, expiresAt, generation } endsAt)
  snapshot now

/-- A lease must be for a participant of the room, under its own member. -/
def checkLeaseHolder (lease : TeamControlLease) (room : RoomState) : AppResult Unit := do
  let seated ← required (room.participants.find? lease.deviceId)
    (.permissionDenied "控制设备尚未加入房间")
  ensure (seated.participant.memberId = lease.memberId)
    (.permissionDenied "在线控制租约参与设备归属不匹配")

/-- The section of `apply_control_lease`. -/
def applyLeaseSection (authorization : TeamAuthorization) (lease : TeamControlLease)
    (endsAt now : Tick) : RoomSection TeamTerminalRoom := do
  verifyHost authorization
  let room ← Section.get
  Section.check (checkLeaseHolder lease room)
  Section.check (ensure (room.leaseGeneration ≤ lease.generation)
    (.validation "在线控制租约 generation 已回滚"))
  if lease.generation = room.leaseGeneration then
    -- The lease of this generation is accepted again only while it is the one that is held.
    Section.check (ensure (room.controlLease.any (fun held => held.lease = lease) = true)
      (.validation "在线控制租约 generation 重复但内容不一致"))
    snapshot now
  else
    Section.modify (RoomState.install lease endsAt)
    snapshot now

/-- The section of `remove_participant`. -/
def removeParticipantSection (authorization : TeamAuthorization) (deviceId : String) (now : Tick) :
    RoomSection TeamTerminalRoom := do
  verifyHost authorization
  let room ← Section.get
  Section.check (ensure (deviceId ≠ room.hostDeviceId) (.validation "主持设备不能从活动房间移除"))
  Section.modify (RoomState.dismiss deviceId)
  snapshot now

/-- The section of `revoke_control`. -/
def revokeSection (authorization : TeamAuthorization) (now : Tick) : RoomSection TeamTerminalRoom := do
  verifyHost authorization
  Section.modify RoomState.clearLease
  snapshot now

/-- The section of `close`. -/
def closeSection (authorization : TeamAuthorization) (now : Tick) : RoomSection TeamTerminalRoom := do
  verifyHost authorization
  Section.modify RoomState.close
  snapshot now

end Client

end CNShell
