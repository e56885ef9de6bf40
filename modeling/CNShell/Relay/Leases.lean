import CNShell.Relay.Staffing
import CNShell.Relay.Writes

/-! Control leases and the presence of the devices that hold them, along every run of the relay. -/

namespace CNShell

namespace Relay

variable {platform : Platform} {db next : Db}

def RoomOpen (db : Db) (roomId : String) : Prop :=
  ∃ room, db.terminalRooms.find? roomId = some room ∧ room.status = .active

/-- A member's device takes part in a room and has neither left nor been removed. -/
def Present (db : Db) (roomId memberId deviceId : String) : Prop :=
  ∃ participant, db.roomParticipants.find? (roomId, deviceId) = some participant ∧
    participant.memberId = memberId ∧ participant.removedAt = none

/-- A lease belongs to an open room and to a device present in it. -/
def LeaseHeld (db : Db) (lease : ControlLease) : Prop :=
  RoomOpen db lease.roomId ∧ Present db lease.roomId lease.memberId lease.deviceId

/-- Every stored lease is held by a device that is present in its open room. -/
def LeasesHeld (db : Db) : Prop := ∀ lease ∈ db.controlLeases.rows, LeaseHeld db lease

def NoLease (db : Db) (workspaceId : String) : Prop :=
  ∀ lease ∈ db.controlLeases.rows, ∀ room, db.terminalRooms.find? lease.roomId = some room →
    room.workspaceId ≠ workspaceId

/--
A successful step respects the stored leases.

Control is granted to a device that is still present, the rooms of a workspace are closed by a
membership change only when none of them has a lease, and a device joins over its own lease only.
-/
def RespectsLeases (platform : Platform) (db : Db) (event : Event Action RelayError) : Prop :=
  match event with
  | ⟨.grantControl _ roomId memberId input _ _, .ok _⟩ => Present db roomId memberId input.deviceId
  | ⟨.joinRoom auth roomId _ _, .ok _⟩ =>
      ∀ lease ∈ db.controlLeases.rows, lease.roomId = roomId → lease.deviceId = auth.deviceId →
        lease.memberId = auth.memberId
  | ⟨.acceptWorkspaceInvitation _ input _, .ok _⟩ =>
      ∀ invitation ∈ db.workspaceInvitations.rows, invitation.acceptedAt = none →
        invitation.tokenHash = tokenHash platform "workspace-invitation" input.token →
        NoLease db invitation.workspaceId
  | ⟨.updateMember _ workspaceId _ _ _ _, .ok _⟩ => NoLease db workspaceId
  | ⟨.revokeDevice _ workspaceId _ _, .ok _⟩ => NoLease db workspaceId
  | _ => True

variable {roomId : String}

theorem RoomOpen.update {selected : TerminalRoom → Bool} {change : Change TerminalRoom.id} (opened : RoomOpen db roomId)
    (rooms : next.terminalRooms = db.terminalRooms.update selected change)
    (spared : ∀ room, db.terminalRooms.find? roomId = some room → room.status = .active →
      selected room = true → (change.apply room).status = .active) : RoomOpen next roomId := by
  obtain ⟨room, found, active⟩ := opened
  refine ⟨_, by rw [rooms, Table.find?_update, found, Option.map_some], ?_⟩
  split
  · rename_i chosen
    exact spared room found active chosen
  · exact active

theorem Present.update {memberId deviceId : String} {selected : RoomParticipant → Bool}
    {change : Change RoomParticipant.key} (present : Present db roomId memberId deviceId)
    (participants : next.roomParticipants = db.roomParticipants.update selected change)
    (spared : ∀ row, row.key = (roomId, deviceId) → row.memberId = memberId →
      row.removedAt = none → selected row = true →
      (change.apply row).memberId = memberId ∧ (change.apply row).removedAt = none) :
    Present next roomId memberId deviceId := by
  obtain ⟨row, found, own, here⟩ := present
  refine ⟨_, by rw [participants, Table.find?_update, found, Option.map_some], ?_⟩
  split
  · rename_i chosen
    exact spared row (Table.find?_some found).2 own here chosen
  · exact ⟨own, here⟩

variable {lease : ControlLease}

theorem LeaseHeld.congr (held : LeaseHeld db lease) (rooms : next.terminalRooms = db.terminalRooms)
    (participants : next.roomParticipants = db.roomParticipants) : LeaseHeld next lease := by
  unfold LeaseHeld RoomOpen Present at *
  rwa [rooms, participants]

theorem LeasesHeld.dropRooms (held : LeasesHeld db) (gone : List String) : LeasesHeld (db.dropRooms gone) := by
  intro lease member
  obtain ⟨stored, spared⟩ := Table.mem_delete.mp member
  obtain ⟨⟨room, found, active⟩, row, taking, own, here⟩ := held lease stored
  have kept : lease.roomId ∉ gone := by simpa using spared
  have sameRoom := (Table.find?_some found).2
  have sameRow := (Table.find?_some taking).2
  simp only [RoomParticipant.key, Prod.mk.injEq] at sameRow
  refine ⟨⟨room, ?_, active⟩, row, ?_, own, here⟩
  · simp [Db.dropRooms, Table.find?_delete, found, sameRoom, kept]
  · simp [Db.dropRooms, Table.find?_delete, taking, sameRow, kept]

theorem LeasesHeld.close_workspace {workspaceId : String} (now : Instant) (held : LeasesHeld db)
    (free : NoLease db workspaceId) (leases : next.controlLeases = db.controlLeases)
    (participants : next.roomParticipants = db.roomParticipants)
    (rooms : next.terminalRooms = (closeWorkspaceRooms workspaceId now db).terminalRooms) :
    LeasesHeld next := by
  intro lease member
  rw [leases] at member
  obtain ⟨opened, present⟩ := held lease member
  constructor
  · refine opened.update rooms fun room found _ chosen => ?_
    simp only [decide_eq_true_eq] at chosen
    exact absurd chosen.1 (free lease member room found)
  · unfold Present at *
    rwa [participants]

variable {now : Instant}

variable {auth : DeviceAuth}

theorem LeasesHeld.create_room {input : CreateRoomInput} {view : RoomView} (held : LeasesHeld db)
    (created : createRoom auth input now db = .ok (view, next)) : LeasesHeld next := by
  obtain ⟨-, rooms, participants, opened, hosted, -, -, -, -, rfl⟩ := createRoom_eq_ok.mp created
  intro lease member
  -- The lease's room and participant were there before, so neither is the inserted one.
  obtain ⟨⟨room, found, active⟩, row, taking, own, here⟩ := held.dropRooms _ lease member
  have otherRoom : lease.roomId ≠ (openedRoom auth input).id := by
    intro same
    have ⟨stored, keyed⟩ := Table.find?_some found
    exact (Table.insert_eq_some.mp opened).1 room stored (keyed.trans same)
  have otherRow : (lease.roomId, lease.deviceId) ≠
      (hostParticipant auth input.roomId now).key := by
    intro same
    exact otherRoom (congrArg Prod.fst same)
  refine ⟨⟨room, ?_, active⟩, row, ?_, own, here⟩
  · rw [Table.find?_insert opened, if_neg otherRoom]
    exact found
  · rw [Table.find?_insert hosted, if_neg otherRow]
    exact taking

theorem LeasesHeld.join {invitation : TeamTerminalInvitation} (held : LeasesHeld db)
    (own : ∀ lease ∈ db.controlLeases.rows, lease.roomId = roomId →
      lease.deviceId = auth.deviceId → lease.memberId = auth.memberId) :
    LeasesHeld (admitParticipant auth roomId invitation now db) := by
  intro lease member
  obtain ⟨opened, row, taking, owned, here⟩ := held lease member
  refine ⟨opened, ?_⟩
  unfold Present
  simp only [admitParticipant, Table.find?_upsert]
  split
  · -- The joining device is the lease's own, and it stays present as the lease's member.
    rename_i same
    simp only [joinedParticipant, RoomParticipant.key, Prod.mk.injEq] at same
    rw [taking]
    exact ⟨_, rfl, (own lease member same.1 same.2).symm, rfl⟩
  · exact ⟨row, taking, owned, here⟩

theorem LeasesHeld.leave (held : LeasesHeld db) : LeasesHeld (dismissParticipant auth roomId now db) := by
  intro lease member
  obtain ⟨stored, spared⟩ := Table.mem_delete.mp member
  obtain ⟨opened, present⟩ := held lease stored
  refine ⟨opened, present.update rfl fun row keyed _ _ chosen => ?_⟩
  simp only [leaving, decide_eq_true_eq] at chosen
  simp only [RoomParticipant.key, Prod.mk.injEq] at keyed
  simp [← keyed.1, ← keyed.2, chosen.1, chosen.2.1] at spared

theorem LeasesHeld.grant (held : LeasesHeld db) (opened : RoomOpen db lease.roomId)
    (present : Present db lease.roomId lease.memberId lease.deviceId) : LeasesHeld (storeLease lease db) := by
  have keeps : ∀ other, LeaseHeld db other → LeaseHeld (storeLease lease db) other := by
    rintro other ⟨open', present'⟩
    exact ⟨open'.update rfl fun _ _ active _ => active, present'⟩
  intro other member
  rcases Table.mem_upsert.mp member with ⟨old, -⟩ | ⟨old, -, same, rfl⟩ | ⟨-, rfl⟩
  · exact keeps other (held other old)
  · -- The lease that is replaced gives way to the granted one of the same room.
    refine keeps _ ?_
    show LeaseHeld db { lease with roomId := old.roomId }
    rw [same]
    exact ⟨opened, present⟩
  · exact keeps other ⟨opened, present⟩

theorem LeasesHeld.shut {roomId : String} {now : Instant} (held : LeasesHeld db) :
    LeasesHeld (shutRoom roomId now db) := by
  intro lease member
  obtain ⟨stored, spared⟩ := Table.mem_delete.mp member
  obtain ⟨opened, present⟩ := held lease stored
  refine ⟨opened.update rfl fun room found _ chosen => ?_, present⟩
  simp only [decide_eq_true_eq] at chosen
  rw [(Table.find?_some found).2] at chosen
  simp [chosen.1] at spared

theorem LeasesHeld.commit {room : RoomView}
    {frame : TeamTerminalEncryptedFrame} {prunedAt : Instant} {u : Unit} (held : LeasesHeld db)
    (done : commitFrame platform auth room frame now prunedAt db = .ok (u, next)) : LeasesHeld next := by
  rcases commitFrame_ok done with ⟨-, output⟩ | ⟨-, input⟩
  · obtain ⟨-, -, -, -, stored, frames, -, -, -, -, -, rfl⟩ := acceptOutput_eq_ok.mp output
    intro lease member
    obtain ⟨opened, present⟩ := held lease member
    exact ⟨opened.update rfl fun _ _ active _ => active, present⟩
  · obtain ⟨-, -, -, -, participant, lease, -, -, -, -, -, -, -, rfl⟩ := acceptInput_eq_ok.mp input
    intro lease member
    obtain ⟨opened, present⟩ := held lease member
    exact ⟨opened, present.update rfl fun _ _ own here _ => ⟨own, here⟩⟩

/-- Every successful action that respects the leases keeps them held. -/
theorem LeasesHeld.run {β : Type} {action : Action β} {value : β} (held : LeasesHeld db)
    (respects : RespectsLeases platform db ⟨action, .ok value⟩)
    (ran : action.run platform db = .ok (value, next)) : LeasesHeld next := by
  have agree := Action.run_agree ran
  -- Only the actions that write rooms, participants or leases can matter.
  by_cases written : .terminalRooms ∈ action.writes ∨ .roomParticipants ∈ action.writes ∨
    .controlLeases ∈ action.writes
  case neg =>
    simp only [not_or] at written
    intro lease member
    rw [agree.controlLeases written.2.2] at member
    exact (held lease member).congr (agree.terminalRooms written.1)
      (agree.roomParticipants written.2.1)
  cases action <;> simp [Action.writes] at written
  case acceptWorkspaceInvitation account input draws =>
    obtain ⟨invitation, found, ⟨sessions, rfl⟩ | ⟨first, members, _, devices, _, sessions, -, -, -, -, rfl⟩⟩ :=
      acceptWorkspaceInvitation_ok ran
    · exact held
    · have matched := List.find?_some found
      simp only [decide_eq_true_eq] at matched
      exact held.close_workspace draws.now
        (respects invitation (List.mem_of_find?_eq_some found) first matched.1)
        rfl rfl rfl
  case deleteWorkspace workspaceId =>
    obtain ⟨-, -, rfl⟩ := deleteWorkspace_eq_ok.mp ran
    exact held.dropRooms _
  case updateMember auth workspaceId memberId role status now =>
    obtain ⟨_, _, -, -, -, -, -, -, -, -, rfl⟩ := updateMember_eq_ok.mp ran
    refine held.close_workspace now respects (agree.controlLeases (by simp [Action.writes]))
      (agree.roomParticipants (by simp [Action.writes])) ?_
    simp only [closeWorkspaceRooms, raiseEpoch, applyMemberUpdate]
    split <;> rfl
  case revokeDevice auth workspaceId deviceId now =>
    obtain ⟨_, _, -, -, -, -, -, -, -, -, rfl⟩ := revokeDevice_eq_ok.mp ran
    exact held.close_workspace now respects rfl rfl rfl
  case createRoom auth input now => exact held.create_room ran
  case joinRoom auth roomId checkedAt now =>
    obtain ⟨_, _, -, -, -, -, -, -, -, -, -, -, -, -, -, rfl⟩ := joinRoom_eq_ok.mp ran
    exact held.join respects
  case leaveRoom auth roomId now =>
    obtain ⟨_, -, -, -, -, -, -, rfl⟩ := leaveRoom_eq_ok.mp ran
    exact held.leave
  case grantControl auth roomId memberId input leaseId now =>
    obtain ⟨room, found, active, -, -, -, -, -, -, -, rfl⟩ := grantControl_eq_ok.mp ran
    exact held.grant ⟨room, found, active⟩ respects
  case revokeControl auth roomId =>
    obtain ⟨-, -, rfl⟩ := revokeControl_eq_ok.mp ran
    exact fun lease member => held lease (Table.mem_delete.mp member).1
  case closeRoom auth roomId now =>
    obtain ⟨-, -, rfl⟩ := closeRoom_eq_ok.mp ran
    exact held.shut
  case commitFrame auth room frame now prunedAt => exact held.commit ran

end Relay

end CNShell
