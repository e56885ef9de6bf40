import CNShell.Relay.Writes

/-! Everything the relay stores for one room, and what each action may do to it. -/

namespace CNShell

namespace Relay

variable {platform : Platform} {db next : Db}

/-- The rows stored for one room: itself, its frames in order of arrival, its participants by device
and its control lease. -/
@[ext] structure RoomRecord where
  room : Option TerminalRoom
  frames : List RelayFrame
  participant : String → Option RoomParticipant
  lease : Option ControlLease

def roomFrames (roomId : String) (db : Db) : List RelayFrame :=
  db.relayFrames.rows.filter fun frame => frame.roomId = roomId

/-- What a database stores for a room. -/
def roomRecord (roomId : String) (db : Db) : RoomRecord where
  room := db.terminalRooms.find? roomId
  frames := roomFrames roomId db
  participant deviceId := db.roomParticipants.find? (roomId, deviceId)
  lease := db.controlLeases.find? roomId

/-- Some frames of one room, after those too old, too many or too large to be replayed are gone. -/
def prunedFrames (now : Instant) (frames : List RelayFrame) : List RelayFrame :=
  let cutoff := now - minutes replayMinutes
  let recent := frames.filter fun frame => !decide (frame.createdAt < cutoff)
  let kept := ((framesInOrder recent).reverse.take maxReplayFrames).map RelayFrame.sequence
  let counted := recent.filter fun frame => decide (frame.sequence ∈ kept)
  let oversized := oversizedFrames (counted.map RelayFrame.encodedBytes).sum (framesInOrder counted)
  counted.filter fun frame => !decide (frame.sequence ∈ oversized)

namespace RoomRecord

def absent : RoomRecord := ⟨none, [], fun _ => none, none⟩

def opened (auth : DeviceAuth) (input : CreateRoomInput) (now : Instant) : RoomRecord where
  room := some (openedRoom auth input)
  frames := []
  participant deviceId :=
    if deviceId = auth.deviceId then some (hostParticipant auth input.roomId now) else none
  lease := none

def setParticipant (record : RoomRecord) (deviceId : String)
    (row : Option RoomParticipant) : RoomRecord :=
  { record with
    participant := fun other => if other = deviceId then row else record.participant other }

/-- A room that is not stored has nothing stored for it. -/
def Housed (record : RoomRecord) : Prop := record.room = none → record = absent

end RoomRecord

/-- The room an action is about, when it may change what is stored for it. -/
def Action.subject {β : Type} : Action β → Option String
  | .createRoom _ input _ => some input.roomId
  | .joinRoom _ roomId _ _ => some roomId
  | .leaveRoom _ roomId _ => some roomId
  | .grantControl _ roomId _ _ _ _ => some roomId
  | .revokeControl _ roomId => some roomId
  | .closeRoom _ roomId _ => some roomId
  | .commitFrame _ _ frame _ _ => some frame.roomId
  | _ => none

/-- What a successful action does to the record of a room. -/
inductive RoomStep (platform : Platform) (roomId : String) :
    {β : Type} → Action β → RoomRecord → RoomRecord → Prop
  | kept {β : Type} {action : Action β} {record : RoomRecord}
      (elsewhere : action.subject ≠ some roomId) : RoomStep platform roomId action record record
  | dropped {β : Type} {action : Action β} {record : RoomRecord}
      (elsewhere : action.subject ≠ some roomId) : RoomStep platform roomId action record .absent
  | closed {β : Type} {action : Action β} {record : RoomRecord} {room : TerminalRoom}
      (elsewhere : action.subject ≠ some roomId) (stored : record.room = some room)
      (active : room.status = .active) (now : Instant) :
      RoomStep platform roomId action record
        { record with room := some ((TerminalRoom.closing now).apply room) }
  | opened {auth : DeviceAuth} {input : CreateRoomInput} {now : Instant} {record : RoomRecord}
      (same : input.roomId = roomId) :
      RoomStep platform roomId (.createRoom auth input now) record (.opened auth input now)
  | joined {auth : DeviceAuth} {checkedAt now : Instant} {record : RoomRecord} {room : TerminalRoom}
      {invitation : RoomInvitation} (stored : record.room = some room) (active : room.status = .active)
      (recipient : invitation.recipientDeviceId = auth.deviceId) :
      RoomStep platform roomId (.joinRoom auth roomId checkedAt now) record
        (record.setParticipant auth.deviceId (some ((record.participant auth.deviceId).elim
          (joinedParticipant auth roomId invitation.envelope now)
          fun held => { held with memberId := auth.memberId, removedAt := none })))
  | left {auth : DeviceAuth} {now : Instant} {record : RoomRecord} {participant : RoomParticipant}
      (taking : record.participant auth.deviceId = some participant)
      (present : participant.removedAt = none) :
      RoomStep platform roomId (.leaveRoom auth roomId now) record
        { record.setParticipant auth.deviceId (some { participant with removedAt := some now }) with
          lease := record.lease.filter fun lease => lease.deviceId ≠ auth.deviceId }
  | granted {auth : DeviceAuth} {memberId : String} {input : GrantControlInput} {leaseId : String}
      {now : Instant} {record : RoomRecord} {room : TerminalRoom} (stored : record.room = some room)
      (active : room.status = .active) (fits : InI64 (room.leaseGeneration + 1)) :
      RoomStep platform roomId (.grantControl auth roomId memberId input leaseId now) record
        { record with
          room := some { room with leaseGeneration := room.leaseGeneration + 1 }
          lease := some
            (grantedLease roomId memberId input leaseId now (room.leaseGeneration + 1)) }
  | revoked {auth : DeviceAuth} {record : RoomRecord} :
      RoomStep platform roomId (.revokeControl auth roomId) record { record with lease := none }
  | shut {auth : DeviceAuth} {now : Instant} {record : RoomRecord} :
      RoomStep platform roomId (.closeRoom auth roomId now) record
        { record with
          room := record.room.map fun room =>
            if room.status = .active then (TerminalRoom.closing now).apply room else room
          lease := none
          frames := [] }
  | output {auth : DeviceAuth} {view : RoomView} {frame : TeamTerminalEncryptedFrame}
      {now prunedAt : Instant} {record : RoomRecord} {room : TerminalRoom}
      (same : frame.roomId = roomId) (direction : frame.direction = "output")
      (stored : record.room = some room) (active : room.status = .active)
      (fits : InI64 room.nextOutputSequence) (expected : frame.sequence = asU64 room.nextOutputSequence) :
      RoomStep platform roomId (.commitFrame auth view frame now prunedAt) record
        { record with
          room := some { room with nextOutputSequence := room.nextOutputSequence + 1 }
          frames := prunedFrames prunedAt (record.frames ++ [storedFrame platform frame now]) }
  | input {auth : DeviceAuth} {view : RoomView} {frame : TeamTerminalEncryptedFrame}
      {now prunedAt : Instant} {record : RoomRecord} {participant : RoomParticipant}
      {lease : ControlLease} (same : frame.roomId = roomId) (direction : frame.direction = "input")
      (taking : record.participant auth.deviceId = some participant)
      (own : participant.memberId = auth.memberId) (present : participant.removedAt = none)
      (fits : InI64 participant.nextInputSequence)
      (expected : frame.sequence = asU64 participant.nextInputSequence)
      (held : record.lease = some lease) (covers : leaseCovers auth frame now lease) :
      RoomStep platform roomId (.commitFrame auth view frame now prunedAt) record
        (record.setParticipant auth.deviceId
          (some { participant with nextInputSequence := participant.nextInputSequence + 1 }))

/-! ### Frames -/

section Frames

variable {roomId : String} {frames : Table RelayFrame.key}

variable {selected : RelayFrame → Bool}

theorem filter_delete {chosen : RelayFrame → Bool}
    (agrees : ∀ frame, frame.roomId = roomId → selected frame = chosen frame) :
    (frames.delete selected).rows.filter (fun frame => decide (frame.roomId = roomId)) =
      (frames.rows.filter fun frame => decide (frame.roomId = roomId)).filter
        fun frame => !chosen frame := by
  show (frames.rows.filter fun frame => !selected frame).filter _ = _
  rw [List.filter_filter, List.filter_filter]
  refine List.filter_congr fun frame _ => ?_
  -- Only frames of the room count, and there both selections are one.
  by_cases own : frame.roomId = roomId
  · simp [own, agrees frame own]
  · simp [own]

theorem filter_delete_other (spared : ∀ frame, frame.roomId = roomId → selected frame = false) :
    (frames.delete selected).rows.filter (fun frame => decide (frame.roomId = roomId)) =
      frames.rows.filter fun frame => decide (frame.roomId = roomId) := by
  rw [filter_delete spared]
  exact List.filter_eq_self.mpr fun _ _ => rfl

theorem filter_delete_all (chosen : ∀ frame, frame.roomId = roomId → selected frame = true) :
    (frames.delete selected).rows.filter (fun frame => decide (frame.roomId = roomId)) = [] := by
  rw [filter_delete chosen]
  exact List.filter_eq_nil_iff.mpr fun _ _ => by simp

theorem filter_insert {frame : RelayFrame} {inserted : Table RelayFrame.key}
    (done : frames.insert frame = some inserted) :
    inserted.rows.filter (fun row => decide (row.roomId = roomId)) =
      (frames.rows.filter fun row => decide (row.roomId = roomId)) ++
        if frame.roomId = roomId then [frame] else [] := by
  rw [(Table.insert_eq_some.mp done).2, List.filter_append]
  by_cases own : frame.roomId = roomId <;> simp [own]

theorem filter_delete_where (chosen : RelayFrame → Prop) [DecidablePred chosen] :
    (frames.delete fun frame => frame.roomId = roomId ∧ chosen frame).rows.filter
        (fun frame => decide (frame.roomId = roomId)) =
      (frames.rows.filter fun frame => decide (frame.roomId = roomId)).filter
        fun frame => !decide (chosen frame) :=
  filter_delete fun frame own => by simp [own]

theorem roomFrames_pruneReplay (roomId : String) (now : Instant) (db : Db) :
    roomFrames roomId (pruneReplay roomId now db) = prunedFrames now (roomFrames roomId db) := by
  simp only [roomFrames, pruneReplay, prunedFrames, filter_delete_where, decide_not, Bool.not_not]
  rfl

theorem roomFrames_pruneReplay_other {other : String} (apart : other ≠ roomId) (now : Instant)
    (db : Db) : roomFrames roomId (pruneReplay other now db) = roomFrames roomId db := by
  simp only [roomFrames, pruneReplay]
  rw [filter_delete_other, filter_delete_other, filter_delete_other]
  all_goals
    intro frame own
    simp [own, apart.symm]

end Frames

/-! ### Steps -/

theorem record_congr (roomId : String) (rooms : next.terminalRooms = db.terminalRooms)
    (frames : next.relayFrames = db.relayFrames)
    (participants : next.roomParticipants = db.roomParticipants)
    (leases : next.controlLeases = db.controlLeases) : roomRecord roomId next = roomRecord roomId db := by
  simp only [roomRecord, roomFrames, rooms, frames, participants, leases]

theorem record_dropRooms (roomId : String) (gone : List String) (db : Db) :
    roomRecord roomId (db.dropRooms gone) = if roomId ∈ gone then .absent else roomRecord roomId db := by
  by_cases dropped : roomId ∈ gone
  · rw [if_pos dropped]
    refine RoomRecord.ext ?_ ?_ (funext fun deviceId => ?_) ?_
    · exact Table.find?_delete_chosen fun room own => by simp [own, dropped]
    · exact filter_delete_all fun frame own => by simp [own, dropped]
    · refine Table.find?_delete_chosen fun row own => ?_
      simp [show row.roomId = roomId from congrArg Prod.fst own, dropped]
    · exact Table.find?_delete_chosen fun lease own => by simp [own, dropped]
  · rw [if_neg dropped]
    refine RoomRecord.ext ?_ ?_ (funext fun deviceId => ?_) ?_
    · exact Table.find?_delete_spared fun room own => by simp [own, dropped]
    · exact filter_delete_other fun frame own => by simp [own, dropped]
    · refine Table.find?_delete_spared fun row own => ?_
      simp [show row.roomId = roomId from congrArg Prod.fst own, dropped]
    · exact Table.find?_delete_spared fun lease own => by simp [own, dropped]

variable {now : Instant} {β : Type}

theorem RoomStep.of_close {action : Action β} {roomId workspaceId : String}
    (elsewhere : action.subject ≠ some roomId) (rooms : next.terminalRooms =
      (closeWorkspaceRooms workspaceId now db).terminalRooms) (frames : next.relayFrames = db.relayFrames)
    (participants : next.roomParticipants = db.roomParticipants) (leases : next.controlLeases = db.controlLeases) :
    RoomStep platform roomId action (roomRecord roomId db) (roomRecord roomId next) := by
  have others : roomRecord roomId next = { roomRecord roomId db with
      room := (closeWorkspaceRooms workspaceId now db).terminalRooms.find? roomId } := by
    simp only [roomRecord, roomFrames, rooms, frames, participants, leases]
  rw [others]
  simp only [closeWorkspaceRooms, Table.find?_update]
  cases stored : db.terminalRooms.find? roomId with
  | none =>
    rw [Option.map_none, ← stored]
    exact .kept elsewhere
  | some room =>
    rw [Option.map_some]
    split
    · rename_i chosen
      exact .closed elsewhere stored (of_decide_eq_true chosen).2 now
    · rw [← stored]
      exact .kept elsewhere

variable {view : RoomView} {auth : DeviceAuth}

theorem RoomStep.of_create {input : CreateRoomInput} {roomId : String} (housed : (roomRecord roomId db).Housed)
    (created : createRoom auth input now db = .ok (view, next)) :
    RoomStep platform roomId (.createRoom auth input now) (roomRecord roomId db)
      (roomRecord roomId next) := by
  obtain ⟨-, rooms, participants, opened, hosted, -, -, -, -, rfl⟩ := createRoom_eq_ok.mp created
  have trimmed := record_dropRooms roomId (surplusRooms auth.workspaceId db) db
  by_cases same : input.roomId = roomId
  · -- The identifier was free after the deletion, so nothing is stored under it.
    have free : (roomRecord roomId (trimRooms auth.workspaceId db)).room = none :=
      Table.find?_eq_none.mpr fun room stored => same ▸ (Table.insert_eq_some.mp opened).1 room stored
    have bare : roomRecord roomId (trimRooms auth.workspaceId db) = .absent := by
      rw [trimRooms, trimmed] at free ⊢
      split
      · rfl
      · rename_i spared
        rw [if_neg spared] at free
        exact housed free
    have after : roomRecord roomId { trimRooms auth.workspaceId db with
        terminalRooms := rooms, roomParticipants := participants } = .opened auth input now := by
      refine RoomRecord.ext ?_ ?_ (funext fun deviceId => ?_) ?_
      · exact (Table.find?_insert opened).trans (if_pos same.symm)
      · have empty := congrArg RoomRecord.frames bare
        exact empty
      · have empty := congrArg (fun record => RoomRecord.participant record deviceId) bare
        simp only [roomRecord, RoomRecord.absent] at empty
        simp only [roomRecord, Table.find?_insert hosted, empty, RoomRecord.opened,
          RoomParticipant.key, hostParticipant, same, Prod.mk.injEq, true_and]
      · have empty := congrArg RoomRecord.lease bare
        exact empty
    rw [after]
    exact .opened same
  · have elsewhere : (Action.createRoom auth input now).subject ≠ some roomId :=
      fun named => same (Option.some.inj named)
    have after : roomRecord roomId { trimRooms auth.workspaceId db with
        terminalRooms := rooms, roomParticipants := participants } =
          roomRecord roomId (trimRooms auth.workspaceId db) := by
      refine RoomRecord.ext ?_ rfl (funext fun deviceId => ?_) rfl
      · exact (Table.find?_insert opened).trans (if_neg (Ne.symm same))
      · exact (Table.find?_insert hosted).trans
          (if_neg fun keys => same (congrArg Prod.fst keys).symm)
    rw [after, trimRooms, trimmed]
    split
    · exact .dropped elsewhere
    · exact .kept elsewhere

theorem RoomStep.of_join {joining roomId : String} {checkedAt : Instant}
    (joined : joinRoom platform auth joining checkedAt now db = .ok (view, next)) :
    RoomStep platform roomId (.joinRoom auth joining checkedAt now) (roomRecord roomId db)
      (roomRecord roomId next) := by
  obtain ⟨room, invitation, stored, found, -, -, -, -, active, -, -, -, -, -, -, rfl⟩ :=
    joinRoom_eq_ok.mp joined
  by_cases same : joining = roomId
  · subst same
    have after : roomRecord joining (admitParticipant auth joining invitation.envelope now db) =
        (roomRecord joining db).setParticipant auth.deviceId
          (some ((db.roomParticipants.find? (joining, auth.deviceId)).elim
            (joinedParticipant auth joining invitation.envelope now)
            fun held => { held with memberId := auth.memberId, removedAt := none })) := by
      refine RoomRecord.ext rfl rfl (funext fun deviceId => ?_) rfl
      simp only [roomRecord, admitParticipant, Table.find?_upsert, joinedParticipant,
        RoomParticipant.key, Prod.mk.injEq, true_and, RoomRecord.setParticipant]
      split
      · rename_i own
        rw [own]
      · rfl
    rw [after]
    exact .joined stored active (congrArg Prod.snd (Table.find?_some found).2)
  · have after : roomRecord roomId (admitParticipant auth joining invitation.envelope now db) =
        roomRecord roomId db := by
      refine RoomRecord.ext rfl rfl (funext fun deviceId => ?_) rfl
      exact Table.find?_upsert.trans (if_neg fun keys => same (congrArg Prod.fst keys).symm)
    rw [after]
    exact .kept fun named => same (Option.some.inj named)

theorem RoomStep.of_leave {leaving roomId : String}
    {revoked : Bool} (left : leaveRoom auth leaving now db = .ok (revoked, next)) :
    RoomStep platform roomId (.leaveRoom auth leaving now) (roomRecord roomId db)
      (roomRecord roomId next) := by
  obtain ⟨participant, taking, own, present, -, -, -, rfl⟩ := leaveRoom_eq_ok.mp left
  by_cases same : leaving = roomId
  · subst same
    have after : roomRecord leaving (dismissParticipant auth leaving now db) =
        { (roomRecord leaving db).setParticipant auth.deviceId
            (some { participant with removedAt := some now }) with
          lease := (db.controlLeases.find? leaving).filter fun lease =>
            lease.deviceId ≠ auth.deviceId } := by
      refine RoomRecord.ext rfl rfl (funext fun deviceId => ?_) ?_
      · simp only [roomRecord, dismissParticipant, RoomRecord.setParticipant]
        by_cases here : deviceId = auth.deviceId
        · rw [if_pos here, here, Table.find?_update, taking, Option.map_some, if_pos]
          have keyed := (Table.find?_some taking).2
          simp only [RoomParticipant.key, Prod.mk.injEq] at keyed
          simp [Relay.leaving, keyed, own, present]
        · rw [if_neg here]
          refine Table.find?_update_spared fun row keyed => ?_
          have device : row.deviceId = deviceId := congrArg Prod.snd keyed
          simp [Relay.leaving, device, here]
      · simp only [roomRecord, dismissParticipant, Table.find?_delete]
        cases found : db.controlLeases.find? leaving with
        | none => rfl
        | some lease => simp [Option.filter_some, (Table.find?_some found).2]
    rw [after]
    exact .left taking present
  · have after : roomRecord roomId (dismissParticipant auth leaving now db) = roomRecord roomId db := by
      refine RoomRecord.ext rfl rfl (funext fun deviceId => ?_) ?_
      · refine Table.find?_update_spared fun row keyed => ?_
        have room : row.roomId = roomId := congrArg Prod.fst keyed
        simp [Relay.leaving, room, Ne.symm same]
      · exact Table.find?_delete_spared fun lease room => by simp [room, Ne.symm same]
    rw [after]
    exact .kept fun named => same (Option.some.inj named)

theorem RoomStep.of_grant {granting memberId leaseId roomId : String}
    {input : GrantControlInput} {output : ControlLeaseOutput}
    (granted : grantControl auth granting memberId input leaseId now db = .ok (output, next)) :
    RoomStep platform roomId (.grantControl auth granting memberId input leaseId now)
      (roomRecord roomId db) (roomRecord roomId next) := by
  obtain ⟨room, stored, active, fits, -, -, -, -, -, -, rfl⟩ := grantControl_eq_ok.mp granted
  by_cases same : granting = roomId
  · subst same
    have after : roomRecord granting (storeLease (grantedLease granting memberId input leaseId now
        (room.leaseGeneration + 1)) db) =
          { roomRecord granting db with
            room := some { room with leaseGeneration := room.leaseGeneration + 1 }
            lease := some (grantedLease granting memberId input leaseId now
              (room.leaseGeneration + 1)) } := by
      refine RoomRecord.ext ?_ rfl rfl ?_
      · have own := (Table.find?_some stored).2
        simp only [roomRecord, storeLease, Table.find?_update, stored, Option.map_some]
        rw [if_pos (decide_eq_true ⟨own, active⟩)]
      · refine Table.find?_upsert.trans ((if_pos rfl).trans ?_)
        -- The stored row keeps its room, which is the room of the new lease.
        cases found : db.controlLeases.find? granting with
        | none => rfl
        | some held =>
          have own := (Table.find?_some found).2
          simp [grantedLease, own]
    rw [after]
    exact .granted stored active fits
  · have after : roomRecord roomId (storeLease (grantedLease granting memberId input leaseId now
        (room.leaseGeneration + 1)) db) = roomRecord roomId db := by
      refine RoomRecord.ext ?_ rfl rfl ?_
      · exact Table.find?_update_spared fun room own =>
          decide_eq_false fun chosen => same (chosen.1.symm.trans own)
      · exact Table.find?_upsert.trans (if_neg fun keyed => same keyed.symm)
    rw [after]
    exact .kept fun named => same (Option.some.inj named)

variable {u : Unit}

variable {auth : DeviceAuth}

theorem RoomStep.of_revoke {revoking roomId : String} (revoked : revokeControl auth revoking db = .ok (u, next)) :
    RoomStep platform roomId (.revokeControl auth revoking) (roomRecord roomId db)
      (roomRecord roomId next) := by
  obtain ⟨-, -, rfl⟩ := revokeControl_eq_ok.mp revoked
  by_cases same : revoking = roomId
  · subst same
    have after : roomRecord revoking { db with
        controlLeases := db.controlLeases.delete fun lease => lease.roomId = revoking } =
          { roomRecord revoking db with lease := none } :=
      RoomRecord.ext rfl rfl rfl (Table.find?_delete_chosen fun lease own => decide_eq_true own)
    rw [after]
    exact .revoked
  · have after : roomRecord roomId { db with
        controlLeases := db.controlLeases.delete fun lease => lease.roomId = revoking } = roomRecord roomId db := by
      refine RoomRecord.ext rfl rfl rfl (Table.find?_delete_spared fun lease own => ?_)
      exact decide_eq_false fun here => same (here.symm.trans own)
    rw [after]
    exact .kept fun named => same (Option.some.inj named)

theorem RoomStep.of_shut {closing roomId : String} (closed : closeRoom auth closing now db = .ok (u, next)) :
    RoomStep platform roomId (.closeRoom auth closing now) (roomRecord roomId db)
      (roomRecord roomId next) := by
  obtain ⟨-, -, rfl⟩ := closeRoom_eq_ok.mp closed
  by_cases same : closing = roomId
  · subst same
    have after : roomRecord closing (shutRoom closing now db) =
        { roomRecord closing db with
          room := (db.terminalRooms.find? closing).map fun room =>
            if room.status = .active then (TerminalRoom.closing now).apply room else room
          lease := none
          frames := [] } := by
      refine RoomRecord.ext ?_ ?_ rfl ?_
      · simp only [roomRecord, shutRoom, Table.find?_update]
        cases found : db.terminalRooms.find? closing with
        | none => rfl
        | some room => simp [(Table.find?_some found).2]
      · exact filter_delete_all fun frame own => decide_eq_true own
      · exact Table.find?_delete_chosen fun lease own => decide_eq_true own
    rw [after]
    exact .shut
  · have after : roomRecord roomId (shutRoom closing now db) = roomRecord roomId db := by
      refine RoomRecord.ext ?_ ?_ rfl ?_
      · exact Table.find?_update_spared fun room own =>
          decide_eq_false fun chosen => same (chosen.1.symm.trans own)
      · exact filter_delete_other fun frame own =>
          decide_eq_false fun here => same (here.symm.trans own)
      · exact Table.find?_delete_spared fun lease own =>
          decide_eq_false fun here => same (here.symm.trans own)
    rw [after]
    exact .kept fun named => same (Option.some.inj named)

/-- An accepted frame is the next output of its room or the next input of a participant. -/
theorem RoomStep.of_commit {view : RoomView} {frame : TeamTerminalEncryptedFrame} {prunedAt : Instant} {roomId : String}
    (done : commitFrame platform auth view frame now prunedAt db = .ok (u, next)) :
    RoomStep platform roomId (.commitFrame auth view frame now prunedAt) (roomRecord roomId db)
      (roomRecord roomId next) := by
  rcases commitFrame_ok done with ⟨direction, output⟩ | ⟨direction, input⟩
  · obtain ⟨-, -, -, -, stored, frames, found, active, fits, expected, inserted, rfl⟩ :=
      acceptOutput_eq_ok.mp output
    by_cases same : frame.roomId = roomId
    · have after : roomRecord roomId (pruneReplay frame.roomId prunedAt
          { raiseOutput frame.roomId stored.nextOutputSequence db with relayFrames := frames }) =
            { roomRecord roomId db with
              room := some { stored with nextOutputSequence := stored.nextOutputSequence + 1 }
              frames := prunedFrames prunedAt
                (roomFrames roomId db ++ [storedFrame platform frame now]) } := by
        subst same
        refine RoomRecord.ext ?_ ?_ rfl rfl
        · have own := (Table.find?_some found).2
          simp only [roomRecord, pruneReplay, raiseOutput, Table.find?_update, found, Option.map_some]
          rw [if_pos (by simp [own])]
        · refine (roomFrames_pruneReplay _ _ _).trans (congrArg (prunedFrames prunedAt) ?_)
          exact (filter_insert inserted).trans (by simp [roomFrames, storedFrame])
      rw [after]
      exact .output same direction (same ▸ found) active fits expected
    · have after : roomRecord roomId (pruneReplay frame.roomId prunedAt
          { raiseOutput frame.roomId stored.nextOutputSequence db with relayFrames := frames }) =
            roomRecord roomId db := by
        refine RoomRecord.ext ?_ ?_ rfl rfl
        · exact Table.find?_update_spared fun room own =>
            decide_eq_false fun chosen => same (chosen.1.symm.trans own)
        · refine (roomFrames_pruneReplay_other same _ _).trans ?_
          exact (filter_insert inserted).trans (by simp [roomFrames, roomRecord, storedFrame, same])
      rw [after]
      exact .kept fun named => same (Option.some.inj named)
  · obtain ⟨-, -, -, -, participant, lease, taking, own, present, fits, expected, held, covers, rfl⟩ :=
      acceptInput_eq_ok.mp input
    by_cases same : frame.roomId = roomId
    · have after : roomRecord roomId (raiseInput frame.roomId auth.deviceId
          participant.nextInputSequence db) =
            (roomRecord roomId db).setParticipant auth.deviceId
              (some { participant with nextInputSequence := participant.nextInputSequence + 1 }) := by
        subst same
        refine RoomRecord.ext rfl rfl (funext fun deviceId => ?_) rfl
        simp only [roomRecord, raiseInput, RoomRecord.setParticipant]
        by_cases here : deviceId = auth.deviceId
        · have keyed := (Table.find?_some taking).2
          simp only [RoomParticipant.key, Prod.mk.injEq] at keyed
          rw [if_pos here, here, Table.find?_update, taking, Option.map_some,
            if_pos (decide_eq_true ⟨keyed.1, keyed.2, rfl⟩)]
        · rw [if_neg here]
          refine Table.find?_update_spared fun row keyed => decide_eq_false fun chosen => ?_
          exact here ((congrArg Prod.snd keyed).symm.trans chosen.2.1)
      rw [after]
      exact .input same direction (same ▸ taking) own present fits expected (same ▸ held) covers
    · have after : roomRecord roomId (raiseInput frame.roomId auth.deviceId
          participant.nextInputSequence db) = roomRecord roomId db := by
        refine RoomRecord.ext rfl rfl (funext fun deviceId => ?_) rfl
        refine Table.find?_update_spared fun row keyed => decide_eq_false fun chosen => ?_
        exact same (chosen.1.symm.trans (congrArg Prod.fst keyed))
      rw [after]
      exact .kept fun named => same (Option.some.inj named)

variable {action : Action β}

/-- What a successful action does to the record of a room, whose rows all belong to it. -/
theorem Action.room_step {value : β} {roomId : String} (housed : (roomRecord roomId db).Housed)
    (ran : action.run platform db = .ok (value, next)) :
    RoomStep platform roomId action (roomRecord roomId db) (roomRecord roomId next) := by
  have agree := Action.run_agree ran
  by_cases written : .terminalRooms ∈ action.writes ∨ .relayFrames ∈ action.writes ∨
    .roomParticipants ∈ action.writes ∨ .controlLeases ∈ action.writes
  case neg =>
    -- An action that writes none of the four tables is about no room.
    simp only [not_or] at written
    obtain ⟨rooms, frames, participants, leases⟩ := written
    rw [record_congr roomId (agree.terminalRooms rooms) (agree.relayFrames frames)
      (agree.roomParticipants participants) (agree.controlLeases leases)]
    refine .kept fun named => ?_
    cases action <;> simp [Action.writes, Action.subject] at rooms participants leases named
  cases action <;> simp [Action.writes] at written
  case acceptWorkspaceInvitation account input draws =>
    have elsewhere : (Action.acceptWorkspaceInvitation account input draws).subject ≠ some roomId :=
      (Option.some_ne_none roomId).symm
    obtain ⟨invitation, -, ⟨sessions, rfl⟩ | ⟨-, members, _, devices, _, sessions, -, -, -, -, rfl⟩⟩ :=
      acceptWorkspaceInvitation_ok ran
    · exact .kept elsewhere
    · exact .of_close elsewhere rfl rfl rfl rfl
  case deleteWorkspace workspaceId =>
    obtain ⟨-, -, rfl⟩ := deleteWorkspace_eq_ok.mp ran
    have after := record_dropRooms roomId ((db.terminalRooms.rows.filter fun row =>
      row.workspaceId = workspaceId).map TerminalRoom.id) db
    show RoomStep platform roomId _ _ (roomRecord roomId (db.dropRooms _))
    rw [after]
    split
    · exact .dropped (Option.some_ne_none roomId).symm
    · exact .kept (Option.some_ne_none roomId).symm
  case updateMember auth workspaceId memberId role status now =>
    obtain ⟨_, _, -, -, -, -, -, -, -, -, rfl⟩ := updateMember_eq_ok.mp ran
    have elsewhere : (Action.updateMember auth workspaceId memberId role status now).subject ≠
      some roomId := (Option.some_ne_none roomId).symm
    unfold applyMemberUpdate
    split <;> exact .of_close elsewhere rfl rfl rfl rfl
  case revokeDevice auth workspaceId deviceId now =>
    obtain ⟨_, _, -, -, -, -, -, -, -, -, rfl⟩ := revokeDevice_eq_ok.mp ran
    exact .of_close (Option.some_ne_none roomId).symm rfl rfl rfl rfl
  case createRoom auth input now => exact .of_create housed ran
  case joinRoom auth joining checkedAt now => exact .of_join ran
  case leaveRoom auth leaving now => exact .of_leave ran
  case grantControl auth granting memberId input leaseId now => exact .of_grant ran
  case revokeControl auth revoking => exact .of_revoke ran
  case closeRoom auth closing now => exact .of_shut ran
  case commitFrame auth view frame now prunedAt => exact .of_commit ran

theorem RoomStep.housed {roomId : String} {record after : RoomRecord}
    (step : RoomStep platform roomId action record after) (housed : record.Housed) : after.Housed := by
  intro none
  cases step with
  | kept elsewhere => exact housed none
  | dropped elsewhere => rfl
  | closed elsewhere stored active now => cases none
  | opened same => cases none
  | joined stored active recipient => exact absurd (none.symm.trans stored) (by simp)
  | left taking present =>
    rw [housed none] at taking
    cases taking
  | granted stored active fits => cases none
  | revoked => rw [housed none]; rfl
  | shut =>
    rw [housed (Option.map_eq_none_iff.mp none)]
    rfl
  | output same direction stored active fits expected => cases none
  | input same direction taking own present fits expected held covers =>
    rw [housed none] at taking
    cases taking

/-! ### Runs -/

/-- An action commits a frame only after its shape and its sender were checked. -/
def FramesChecked (platform : Platform) : (β : Type) → Action β → Prop
  | _, .commitFrame auth _ frame _ _ =>
      validateFrameShape platform frame = .ok () ∧ checkFrameSender auth frame = .ok ()
  | _, _ => True

section Checks

variable {draws : Draws}

theorem DeviceCall.frames_checked (auth : DeviceAuth) (call : DeviceCall) :
    (call.serve platform draws auth).Only (FramesChecked platform) := by
  cases call with
  | createWorkspaceInvitation workspaceId input =>
    exact .discard (.lift_bind fun _ _ => .lift_bind fun _ _ => .lift_bind fun _ _ =>
      .lift_bind fun _ _ => .lift_bind fun _ _ => .perform_bind trivial fun _ =>
      .perform_bind trivial fun _ => .lift_bind fun _ _ => .perform_bind trivial fun _ => .pure _)
  | workspaceSnapshot workspaceId =>
    exact .discard (.lift_bind fun _ _ => .lift_bind fun _ _ => .perform_bind trivial fun _ =>
      .perform_bind trivial fun _ => .perform_bind trivial fun _ => .pure _)
  | deleteWorkspace workspaceId confirmation => exact .lift_bind fun _ _ => .perform trivial
  | updateMember | revokeDevice | createRoom =>
    exact .discard (.lift_bind fun _ _ => .lift_bind fun _ _ => .lift_bind fun _ _ =>
      .perform trivial)
  | routeInvitation roomId invitation =>
    exact .lift_bind fun _ _ => .perform_bind trivial fun _ => .lift_bind fun _ _ =>
      .perform_bind trivial fun _ => .lift_bind fun _ _ => .perform_bind trivial fun _ =>
      .lift_bind fun _ _ => .perform_bind trivial fun _ => .perform_bind trivial fun _ =>
      .lift_bind fun _ _ => .perform trivial
  | listInvitations => exact .discard (.lift_bind fun _ _ => .perform trivial)
  | joinRoom roomId =>
    exact .discard (.lift_bind fun _ _ => .perform_bind trivial fun _ =>
      .bind (.ignore (.perform trivial)) fun _ => .pure _)
  | leaveRoom roomId =>
    exact .lift_bind fun _ _ => .perform_bind trivial fun _ => .lift_bind fun _ _ =>
      .perform_bind trivial fun _ => .ignore (.perform trivial)
  | grantControl roomId input =>
    exact .discard (.lift_bind fun _ _ => .perform_bind trivial fun _ =>
      .perform_bind trivial fun _ => .lift_bind fun _ _ => .perform trivial)
  | revokeControl | closeRoom => exact .perform_bind trivial fun _ => .perform trivial
  | processFrame frame =>
    -- The shape and the sender are checked first.
    exact .lift_bind fun _ shaped => .lift_bind fun _ sent => .perform_bind trivial fun _ =>
      .perform_bind trivial fun _ => .lift_bind fun _ _ => .perform ⟨shaped, sent⟩

theorem Call.frames_checked (call : Call) : (call.serve platform draws).Only (FramesChecked platform) := by
  -- The session programs perform no action on frames at all.
  have session (accountId : String) :
      (issueAccountSession platform draws accountId).Only (FramesChecked platform) :=
    .perform_bind trivial fun _ => .perform_bind trivial fun _ => .perform_bind trivial fun _ =>
      .pure _
  have verification (accountId : String) :
      (issueEmailVerification platform draws accountId).Only (FramesChecked platform) :=
    .perform_bind trivial fun _ => .perform_bind trivial fun _ => .pure _
  cases call with
  | registerAccount input requireEmailVerification =>
    refine .discard (.lift_bind fun _ _ => .lift_bind fun _ _ => .lift_bind fun _ _ =>
      .lift_bind fun _ _ => .perform_bind trivial fun _ => ?_)
    cases requireEmailVerification with
    | true => exact (verification _).bind fun _ => .pure _
    | false => exact (session _).bind fun _ => .pure _
  | login input =>
    exact .discard (.lift_bind fun _ _ => .perform_bind trivial fun _ => .lift_bind fun _ _ =>
      .lift_bind fun _ _ => .lift_bind fun _ _ => session _)
  | verifyEmail token =>
    exact .discard (.lift_bind fun _ _ => .perform_bind trivial fun _ => session _)
  | resendVerificationEmail email => exact .discard (.lift_bind fun _ _ => .perform trivial)
  | bootstrapWorkspace token input =>
    exact .perform_bind trivial fun _ => .discard (.lift_bind fun _ _ => .lift_bind fun _ _ =>
      .lift_bind fun _ _ => .lift_bind fun _ _ => .perform trivial)
  | acceptWorkspaceInvitation token input =>
    exact .perform_bind trivial fun _ => .discard (.lift_bind fun _ _ => .lift_bind fun _ _ =>
      .perform trivial)
  | createDeviceChallenge workspaceId deviceId =>
    exact .discard (.lift_bind fun _ _ => .lift_bind fun _ _ => .perform_bind trivial fun _ =>
      .lift_bind fun _ _ => .perform_bind trivial fun _ => .perform_bind trivial fun _ =>
      .lift_bind fun _ _ => .perform_bind trivial fun _ => .pure _)
  | createDeviceSession input =>
    exact .discard (.lift_bind fun _ _ => .lift_bind fun _ _ => .perform trivial)
  | device token call =>
    exact .lift_bind fun _ _ => .perform_bind trivial fun auth => call.frames_checked auth

end Checks

/--
A property of the events so far and the record of a room holds along every run of the relay.

Successful actions are only asked to keep the property where they meet `ok`.
-/
theorem record_history (roomId : String) (ok : Db → Event Action RelayError → Prop)
    (holds : List Entry → RoomRecord → Prop) (begins : holds [] .absent)
    (keeps : ∀ log db next {β : Type} (action : Action β) (value : β),
      FramesChecked platform β action → (roomRecord roomId db).Housed →
      holds log (roomRecord roomId db) → ok db ⟨action, .ok value⟩ → action.run platform db = .ok (value, next) →
      RoomStep platform roomId action (roomRecord roomId db) (roomRecord roomId next) →
      holds (log ++ [(db, ⟨action, .ok value⟩)]) (roomRecord roomId next))
    (fails : ∀ log db {β : Type} (action : Action β) (error : RelayError),
      holds log (roomRecord roomId db) →
      holds (log ++ [(db, ⟨action, .error error⟩)]) (roomRecord roomId db))
    {trace : List (Pool Action RelayError Db × Pool.Label Action RelayError)}
    {pool : Pool Action RelayError Db} (run : (service platform).Run trace pool)
    (meets : ∀ entry ∈ Pool.events trace, ok entry.1 entry.2) :
    holds (Pool.events trace) (roomRecord roomId pool.store) := by
  -- That every row has its room is carried along, since a step is only known with it.
  refine (Pool.history (FramesChecked platform) ok
    (fun log db => holds log (roomRecord roomId db) ∧ (roomRecord roomId db).Housed)
    ?_ ?_ ?_ run meets).1.1
  · intro program starts
    obtain ⟨call, draws, rfl⟩ := starts
    exact call.frames_checked
  · intro db opened
    subst opened
    exact ⟨begins, fun _ => rfl⟩
  · intro log db β action checked before good
    obtain ⟨before, housed⟩ := before
    cases ran : action.run platform db with
    | ok result =>
      rw [outcome_ok ran] at good ⊢
      have step := Action.room_step housed ran
      exact ⟨keeps log db result.2 action result.1 checked housed before good ran step, step.housed housed⟩
    | error error =>
      rw [outcome_error ran]
      exact ⟨fails log db action error before, housed⟩

end Relay

end CNShell
