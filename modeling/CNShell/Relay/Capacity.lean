import CNShell.Relay.Seating

/-! How many devices take part in a room, along every run of the relay. -/

namespace CNShell

namespace Relay

variable {platform : Platform} {db next : Db}

/-- No room has more occupants than the limit, and every participant and invitation has its room. -/
structure WithinCapacity (db : Db) : Prop where
  bound : ∀ roomId, (occupants roomId db).length ≤ maxRoomParticipants
  present : Table.Refers db.roomParticipants RoomParticipant.roomId db.terminalRooms
  invited : Table.Refers db.roomInvitations RoomInvitation.roomId db.terminalRooms

/-- A stored invitation is for a device that occupies the room already, or takes a free place. -/
def FillsFreePlace (db : Db) (event : Event Action RelayError) : Prop :=
  match event with
  | ⟨.upsertRoomInvitation roomId invitation _, .ok _⟩ =>
      invitation.recipientDeviceId ∈ occupants roomId db ∨ (occupants roomId db).length < maxRoomParticipants
  | _ => True

theorem WithinCapacity.congr (within : WithinCapacity db)
    (rooms : next.terminalRooms = db.terminalRooms)
    (participants : next.roomParticipants = db.roomParticipants)
    (invitations : next.roomInvitations = db.roomInvitations) : WithinCapacity next := by
  obtain ⟨bound, present, invited⟩ := within
  constructor
  · intro roomId
    simpa only [occupants, presentDevices, pendingDevices, participants, invitations] using bound roomId
  · rwa [participants, rooms]
  · rwa [invitations, rooms]

theorem WithinCapacity.update_rooms (within : WithinCapacity db) {selected : TerminalRoom → Bool}
    {change : Change TerminalRoom.id}
    (rooms : next.terminalRooms = db.terminalRooms.update selected change)
    (participants : next.roomParticipants = db.roomParticipants)
    (invitations : next.roomInvitations = db.roomInvitations) : WithinCapacity next := by
  obtain ⟨bound, present, invited⟩ := within
  constructor
  · intro roomId
    simpa only [occupants, presentDevices, pendingDevices, participants, invitations] using bound roomId
  · rw [participants, rooms]
    exact present.update_parent
  · rw [invitations, rooms]
    exact invited.update_parent

theorem WithinCapacity.dropRooms (within : WithinCapacity db) (gone : List String) :
    WithinCapacity (db.dropRooms gone) := by
  obtain ⟨bound, present, invited⟩ := within
  constructor
  · intro roomId
    refine le_trans (length_occupants_le fun deviceId occupant => ?_) (bound roomId)
    rw [mem_occupants, mem_presentDevices, mem_pendingDevices] at occupant ⊢
    simp only [Db.dropRooms, Table.find?_delete, Option.filter_eq_some_iff] at occupant
    rcases occupant with ⟨row, ⟨found, -⟩, here⟩ | ⟨row, ⟨found, -⟩, unused⟩
    · exact .inl ⟨row, found, here⟩
    · exact .inr ⟨row, found, unused⟩
  · exact present.delete_parent fun child _ parent _ names chosen => by simpa [names] using chosen
  · exact invited.delete_parent fun child _ parent _ names chosen => by simpa [names] using chosen

variable {now : Instant}

theorem WithinCapacity.create_room {auth : DeviceAuth} {input : CreateRoomInput}
    {view : RoomView} (within : WithinCapacity db)
    (created : createRoom auth input now db = .ok (view, next)) : WithinCapacity next := by
  obtain ⟨-, rooms, participants, opened, hosted, -, -, -, -, rfl⟩ := createRoom_eq_ok.mp created
  obtain ⟨bound, present, invited⟩ := within.dropRooms (surplusRooms auth.workspaceId db)
  -- Nothing is stored for the new room yet, since every row refers to a stored room.
  have fresh := (Table.insert_eq_some.mp opened).1
  constructor
  · intro roomId
    by_cases new : roomId = input.roomId
    · have alone : ∀ deviceId ∈ occupants roomId { trimRooms auth.workspaceId db with
          terminalRooms := rooms, roomParticipants := participants }, deviceId ∈ [auth.deviceId] := by
        intro deviceId occupant
        rw [mem_occupants, mem_presentDevices, mem_pendingDevices] at occupant
        rcases occupant with ⟨row, found, -⟩ | ⟨row, found, -⟩
        · rw [Table.find?_insert hosted] at found
          split at found
          · rename_i same
            exact List.mem_singleton.mpr (congrArg Prod.snd same)
          · obtain ⟨held, keyed⟩ := Table.find?_some found
            obtain ⟨room, stored, names⟩ := present row held
            exact absurd (names.trans ((congrArg Prod.fst keyed).trans new)) (fresh room stored)
        · obtain ⟨held, keyed⟩ := Table.find?_some found
          obtain ⟨room, stored, names⟩ := invited row held
          exact absurd (names.trans ((congrArg Prod.fst keyed).trans new)) (fresh room stored)
      exact le_trans (List.subperm_of_subset (List.nodup_dedup _) alone).length_le
        (show 1 ≤ 64 by decide)
    · refine le_trans (length_occupants_le fun deviceId occupant => ?_) (bound roomId)
      rw [mem_occupants, mem_presentDevices, mem_pendingDevices] at occupant ⊢
      rw [Table.find?_insert hosted, if_neg fun same => new (congrArg Prod.fst same)] at occupant
      exact occupant
  · exact (present.insert_parent opened).insert_child hosted
      ⟨_, (Table.mem_insert opened).mpr (.inr rfl), rfl⟩
  · exact invited.insert_parent opened

variable {roomId : String}

variable {auth : DeviceAuth}

theorem WithinCapacity.join {checkedAt : Instant} {view : RoomView} (within : WithinCapacity db)
    (joined : joinRoom platform auth roomId checkedAt now db = .ok (view, next)) : WithinCapacity next := by
  obtain ⟨room, invitation, stored, found, unused, -, -, -, -, -, -, -, -, -, -, rfl⟩ :=
    joinRoom_eq_ok.mp joined
  obtain ⟨bound, present, invited⟩ := within
  constructor
  · intro other
    refine le_trans (length_occupants_le fun deviceId occupant => ?_) (bound other)
    rw [mem_occupants, mem_presentDevices, mem_pendingDevices] at occupant ⊢
    simp only [admitParticipant, Table.find?_upsert, Table.find?_update, Option.map_eq_some_iff]
      at occupant
    rcases occupant with ⟨row, taking, here⟩ | ⟨row, ⟨held, listed, rfl⟩, pending⟩
    · split at taking
      · -- The joining device had an invitation that was not accepted.
        rename_i same
        simp only [joinedParticipant, RoomParticipant.key, Prod.mk.injEq] at same
        exact .inr ⟨invitation, by rw [same.1, same.2]; exact found, unused⟩
      · exact .inl ⟨row, taking, here⟩
    · refine .inr ⟨held, listed, ?_⟩
      split at pending
      · cases pending
      · exact pending
  · intro row held
    rcases Table.mem_upsert.mp held with ⟨old, -⟩ | ⟨old, member, -, rfl⟩ | ⟨-, rfl⟩
    · exact present row old
    · exact present old member
    · exact ⟨room, (Table.find?_some stored).1, (Table.find?_some stored).2⟩
  · exact invited.update_child fun _ => rfl

theorem WithinCapacity.leave (within : WithinCapacity db) : WithinCapacity (dismissParticipant auth roomId now db) := by
  obtain ⟨bound, present, invited⟩ := within
  constructor
  · intro other
    refine le_trans (length_occupants_le fun deviceId occupant => ?_) (bound other)
    rw [mem_occupants, mem_presentDevices, mem_pendingDevices] at occupant ⊢
    simp only [dismissParticipant, Table.find?_update, Option.map_eq_some_iff] at occupant
    rcases occupant with ⟨row, ⟨held, listed, rfl⟩, here⟩ | pending
    · refine .inl ⟨held, listed, ?_⟩
      split at here
      · cases here
      · exact here
    · exact .inr pending
  · exact present.update_child fun _ => rfl
  · exact invited

theorem WithinCapacity.invite {invitation : TeamTerminalInvitation} (within : WithinCapacity db)
    (stored : db.hasRoom roomId = true)
    (place : invitation.recipientDeviceId ∈ occupants roomId db ∨
      (occupants roomId db).length < maxRoomParticipants) :
    WithinCapacity (storeInvitation roomId invitation now db) := by
  obtain ⟨bound, present, invited⟩ := within
  -- At most the recipient joins the occupants of its room.
  have grown : ∀ other, ∀ deviceId ∈ occupants other (storeInvitation roomId invitation now db),
      deviceId ∈ occupants other db ∨ (other = roomId ∧ deviceId = invitation.recipientDeviceId) := by
    intro other deviceId occupant
    rw [mem_occupants, mem_presentDevices, mem_pendingDevices] at occupant ⊢
    simp only [storeInvitation, Table.find?_upsert] at occupant
    rcases occupant with here | ⟨row, found, unused⟩
    · exact .inl (.inl here)
    · split at found
      · rename_i same
        simp only [routedInvitation, RoomInvitation.key, Prod.mk.injEq] at same
        exact .inr same
      · exact .inl (.inr ⟨row, found, unused⟩)
  constructor
  · intro other
    by_cases free : other = roomId ∧ invitation.recipientDeviceId ∉ occupants roomId db
    · obtain ⟨rfl, new⟩ := free
      have room := place.resolve_left new
      have inside : occupants other (storeInvitation other invitation now db) ⊆
          invitation.recipientDeviceId :: occupants other db := by
        intro deviceId occupant
        rcases grown other deviceId occupant with old | ⟨-, rfl⟩
        · exact List.mem_cons_of_mem _ old
        · exact List.mem_cons_self
      exact le_trans (List.subperm_of_subset (List.nodup_dedup _) inside).length_le room
    · refine le_trans (length_occupants_le fun deviceId occupant => ?_) (bound other)
      rcases grown other deviceId occupant with old | ⟨rfl, rfl⟩
      · exact old
      · by_contra missing
        exact free ⟨rfl, missing⟩
  · exact present
  · intro row held
    rcases Table.mem_upsert.mp held with ⟨old, -⟩ | ⟨old, member, -, rfl⟩ | ⟨-, rfl⟩
    · exact invited row old
    · exact invited old member
    · obtain ⟨room, found⟩ := Option.isSome_iff_exists.mp stored
      exact ⟨room, Table.find?_some found⟩

theorem WithinCapacity.commit {room : RoomView}
    {frame : TeamTerminalEncryptedFrame} {prunedAt : Instant} {u : Unit} (within : WithinCapacity db)
    (done : commitFrame platform auth room frame now prunedAt db = .ok (u, next)) : WithinCapacity next := by
  rcases commitFrame_ok done with ⟨-, output⟩ | ⟨-, input⟩
  · obtain ⟨-, -, -, -, stored, frames, -, -, -, -, -, rfl⟩ := acceptOutput_eq_ok.mp output
    exact within.update_rooms rfl rfl rfl
  · obtain ⟨-, -, -, -, participant, lease, -, -, -, -, -, -, -, rfl⟩ := acceptInput_eq_ok.mp input
    obtain ⟨bound, present, invited⟩ := within
    constructor
    · intro roomId
      refine le_trans (length_occupants_le fun deviceId occupant => ?_) (bound roomId)
      rw [mem_occupants, mem_presentDevices, mem_pendingDevices] at occupant ⊢
      simp only [raiseInput, Table.find?_update, Option.map_eq_some_iff] at occupant
      rcases occupant with ⟨row, ⟨held, listed, rfl⟩, here⟩ | pending
      · refine .inl ⟨held, listed, ?_⟩
        split at here <;> exact here
      · exact .inr pending
    · exact present.update_child fun _ => rfl
    · exact invited

theorem WithinCapacity.run {β : Type} {action : Action β} {value : β} (within : WithinCapacity db)
    (fills : FillsFreePlace db ⟨action, .ok value⟩)
    (ran : action.run platform db = .ok (value, next)) : WithinCapacity next := by
  have agree := Action.run_agree ran
  by_cases written : .terminalRooms ∈ action.writes ∨ .roomParticipants ∈ action.writes ∨
    .roomInvitations ∈ action.writes
  case neg =>
    simp only [not_or] at written
    exact within.congr (agree.terminalRooms written.1) (agree.roomParticipants written.2.1)
      (agree.roomInvitations written.2.2)
  cases action <;> simp [Action.writes] at written
  case acceptWorkspaceInvitation account input draws =>
    obtain ⟨invitation, -, ⟨sessions, rfl⟩ | ⟨-, members, _, devices, _, sessions, -, -, -, -, rfl⟩⟩ :=
      acceptWorkspaceInvitation_ok ran
    · exact within.congr rfl rfl rfl
    · exact within.update_rooms rfl rfl rfl
  case deleteWorkspace workspaceId =>
    obtain ⟨-, -, rfl⟩ := deleteWorkspace_eq_ok.mp ran
    exact (within.dropRooms _).congr rfl rfl rfl
  case updateMember auth workspaceId memberId role status now =>
    obtain ⟨_, _, -, -, -, -, -, -, -, -, rfl⟩ := updateMember_eq_ok.mp ran
    unfold applyMemberUpdate
    split <;> exact within.update_rooms rfl rfl rfl
  case revokeDevice auth workspaceId deviceId now =>
    obtain ⟨_, _, -, -, -, -, -, -, -, -, rfl⟩ := revokeDevice_eq_ok.mp ran
    exact within.update_rooms rfl rfl rfl
  case createRoom auth input now => exact within.create_room ran
  case upsertRoomInvitation roomId invitation now =>
    obtain ⟨stored, -, rfl⟩ := upsertRoomInvitation_eq_ok.mp ran
    exact within.invite stored fills
  case joinRoom auth roomId checkedAt now => exact within.join ran
  case leaveRoom auth roomId now =>
    obtain ⟨_, -, -, -, -, -, -, rfl⟩ := leaveRoom_eq_ok.mp ran
    exact within.leave
  case grantControl auth roomId memberId input leaseId now =>
    obtain ⟨room, -, -, -, -, -, -, -, -, -, rfl⟩ := grantControl_eq_ok.mp ran
    exact within.update_rooms rfl rfl rfl
  case closeRoom auth roomId now =>
    obtain ⟨-, -, rfl⟩ := closeRoom_eq_ok.mp ran
    exact within.update_rooms rfl rfl rfl
  case commitFrame auth room frame now prunedAt => exact within.commit ran

end Relay

end CNShell
