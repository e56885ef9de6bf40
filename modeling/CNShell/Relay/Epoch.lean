import CNShell.Relay.Rooms
import CNShell.Relay.Staffing

/-! Active rooms and the key epoch of their workspace, along every run of the relay. -/

namespace CNShell

namespace Relay

variable {platform : Platform} {db next : Db}

/-- Every active room carries the current key epoch of its workspace. -/
def EpochFresh (db : Db) : Prop :=
  ∀ room ∈ db.terminalRooms.rows, room.status = .active →
    ∃ workspace, db.workspaces.find? room.workspaceId = some workspace ∧ workspace.keyEpoch = room.keyEpoch

/-- A room is only created while its creator's snapshot of the key epoch is current. -/
def CreatesCurrent (db : Db) (event : Event Action RelayError) : Prop :=
  match event with
  | ⟨.createRoom auth _ _, .ok _⟩ =>
      ∀ workspace, db.workspaces.find? auth.workspaceId = some workspace → workspace.keyEpoch = auth.keyEpoch
  | _ => True

theorem EpochFresh.of_rooms (fresh : EpochFresh db)
    (workspaces : next.workspaces = db.workspaces)
    (origin : ∀ room ∈ next.terminalRooms.rows, ∃ old ∈ db.terminalRooms.rows, RoomEvolves old room) :
    EpochFresh next := by
  intro room member active
  obtain ⟨old, held, evolves⟩ := origin room member
  rw [workspaces, evolves.workspace, evolves.epoch]
  exact fresh old held (evolves.status active)

theorem EpochFresh.advance (fresh : EpochFresh db) (workspaceId : String) (now : Instant)
    (workspaces : next.workspaces = (raiseEpoch workspaceId db).workspaces)
    (rooms : next.terminalRooms = (closeWorkspaceRooms workspaceId now db).terminalRooms) :
    EpochFresh next := by
  intro room member active
  simp only [rooms, closeWorkspaceRooms] at member
  obtain ⟨old, held, same⟩ := Table.mem_update.mp member
  -- A room that is still active is of another workspace, since this one's were closed.
  have untouched : ¬(old.workspaceId = workspaceId ∧ old.status = .active) := by
    intro closing
    rw [if_pos (by simpa using closing)] at same
    rw [← same] at active
    cases active
  rw [if_neg (by simpa using untouched)] at same
  subst same
  have elsewhere : old.workspaceId ≠ workspaceId := fun own => untouched ⟨own, active⟩
  obtain ⟨workspace, found, epoch⟩ := fresh old held active
  refine ⟨workspace, ?_, epoch⟩
  rw [workspaces, raiseEpoch, Table.find?_update, found, Option.map_some]
  have keyed := (Table.find?_some found).2
  simp [keyed, elsewhere]

theorem EpochFresh.insert_workspace {workspace : Workspace} {workspaces : Table Workspace.id}
    (fresh : EpochFresh db) (opened : db.workspaces.insert workspace = some workspaces)
    (grown : next.workspaces = workspaces) (rooms : next.terminalRooms = db.terminalRooms) :
    EpochFresh next := by
  intro room member active
  rw [rooms] at member
  obtain ⟨held, found, epoch⟩ := fresh room member active
  refine ⟨held, ?_, epoch⟩
  -- The room's workspace was stored before, so it is not the new one.
  have differs : room.workspaceId ≠ workspace.id := by
    intro same
    have ⟨stored, keyed⟩ := Table.find?_some found
    exact (Table.insert_eq_some.mp opened).1 held stored (keyed.trans same)
  rw [grown, Table.find?_insert opened, if_neg differs]
  exact found

theorem EpochFresh.drop_workspace (fresh : EpochFresh db) (workspaceId : String) :
    EpochFresh (db.dropWorkspace workspaceId) := by
  intro room member active
  obtain ⟨held, spared⟩ := Table.mem_delete.mp member
  have elsewhere : room.workspaceId ≠ workspaceId := by
    intro own
    have gone : room.id ∈ (db.terminalRooms.rows.filter fun row =>
        row.workspaceId = workspaceId).map TerminalRoom.id :=
      List.mem_map.mpr ⟨room, List.mem_filter.mpr ⟨held, by simpa using own⟩, rfl⟩
    simp [gone] at spared
  obtain ⟨workspace, found, epoch⟩ := fresh room held active
  refine ⟨workspace, ?_, epoch⟩
  have keyed := (Table.find?_some found).2
  rw [Db.dropWorkspace]
  simp only [Table.find?_delete, found, Option.filter_some, keyed, elsewhere, decide_false,
    Bool.not_false, ↓reduceIte]

theorem EpochFresh.create_room {auth : DeviceAuth} {input : CreateRoomInput} {now : Instant}
    {view : RoomView} (fresh : EpochFresh db)
    (current : ∀ workspace, db.workspaces.find? auth.workspaceId = some workspace →
      workspace.keyEpoch = auth.keyEpoch)
    (created : createRoom auth input now db = .ok (view, next)) : EpochFresh next := by
  obtain ⟨-, rooms, participants, opened, -, known, -, -, -, rfl⟩ := createRoom_eq_ok.mp created
  intro room member active
  rcases (Table.mem_insert opened).mp member with old | rfl
  · exact fresh room (Table.mem_delete.mp old).1 active
  · -- The new room takes its epoch from the creator's snapshot.
    obtain ⟨workspace, found⟩ := Option.isSome_iff_exists.mp known
    exact ⟨workspace, found, current workspace found⟩

theorem EpochFresh.run {β : Type} {action : Action β} {value : β} (fresh : EpochFresh db)
    (current : CreatesCurrent db ⟨action, .ok value⟩)
    (ran : action.run platform db = .ok (value, next)) : EpochFresh next := by
  by_cases written : .workspaces ∈ action.writes ∨ action.opens ≠ none
  case neg =>
    -- Without a new room or a new epoch, the rooms merely evolve.
    rw [not_or, not_not] at written
    refine fresh.of_rooms ((Action.run_agree ran).workspaces written.1) fun room member => ?_
    rcases Action.room_origin ran member with evolved | opened
    · exact evolved
    · rw [written.2] at opened
      cases opened
  cases action <;> simp [Action.writes, Action.opens] at written
  case bootstrapWorkspace account input workspaceName sessionId random now issuedAt =>
    obtain ⟨-, workspaces, members, withDevice, opened, -, -, -, device, issued⟩ :=
      bootstrapWorkspace_eq_ok.mp ran
    obtain ⟨_, devices, -, -, -, -, rfl⟩ := insertDevice_eq_ok.mp device
    obtain ⟨-, sessions, -, -, -, rfl⟩ := issueDeviceSession_eq_ok.mp issued
    exact fresh.insert_workspace opened rfl rfl
  case acceptWorkspaceInvitation account input draws =>
    obtain ⟨invitation, -, ⟨sessions, rfl⟩ | ⟨-, members, _, devices, _, sessions, -, -, -, -, rfl⟩⟩ :=
      acceptWorkspaceInvitation_ok ran
    · exact fresh
    · exact fresh.advance invitation.workspaceId draws.now rfl rfl
  case deleteWorkspace workspaceId =>
    obtain ⟨-, -, rfl⟩ := deleteWorkspace_eq_ok.mp ran
    exact fresh.drop_workspace workspaceId
  case updateMember auth workspaceId memberId role status now =>
    obtain ⟨_, _, -, -, -, -, -, -, -, -, rfl⟩ := updateMember_eq_ok.mp ran
    refine fresh.advance workspaceId now ?_ ?_ <;>
      simp only [closeWorkspaceRooms, raiseEpoch, applyMemberUpdate] <;> split <;> rfl
  case revokeDevice auth workspaceId deviceId now =>
    obtain ⟨_, _, -, -, -, -, -, -, -, -, rfl⟩ := revokeDevice_eq_ok.mp ran
    exact fresh.advance workspaceId now rfl rfl
  case createRoom auth input now => exact fresh.create_room current ran

end Relay

end CNShell
