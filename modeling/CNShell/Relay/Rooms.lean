import CNShell.Relay.Writes

/-! How an action may change a stored room: its identity stays and its counters only rise. -/

namespace CNShell

namespace Relay

variable {platform : Platform} {db next : Db}

/-- A room evolves: it keeps its identity, may be closed but not reopened, and counts upwards. -/
structure RoomEvolves (old new : TerminalRoom) : Prop where
  id : new.id = old.id
  workspace : new.workspaceId = old.workspaceId
  hostMember : new.hostMemberId = old.hostMemberId
  hostDevice : new.hostDeviceId = old.hostDeviceId
  epoch : new.keyEpoch = old.keyEpoch
  status : new.status = .active → old.status = .active
  output : old.nextOutputSequence ≤ new.nextOutputSequence
  generation : old.leaseGeneration ≤ new.leaseGeneration

theorem RoomEvolves.refl (room : TerminalRoom) : RoomEvolves room room :=
  ⟨rfl, rfl, rfl, rfl, rfl, fun active => active, Int.le_refl _, Int.le_refl _⟩

def Action.opens {β : Type} : Action β → Option TerminalRoom
  | .createRoom auth input _ => some (openedRoom auth input)
  | _ => none

/-- The room whose control an action may grant. -/
def Action.grants {β : Type} : Action β → Option String
  | .grantControl _ roomId _ _ _ _ => some roomId
  | _ => none

/-- The room of which an action may accept an output frame. -/
def Action.outputs {β : Type} : Action β → Option String
  | .commitFrame _ _ frame _ _ => if frame.direction = "output" then some frame.roomId else none
  | _ => none

inductive RoomChange {β : Type} (action : Action β) (old : TerminalRoom) : TerminalRoom → Prop
  | kept : RoomChange action old old
  | closed (now : Instant) (active : old.status = .active) :
      RoomChange action old ((TerminalRoom.closing now).apply old)
  | granted (grants : action.grants = some old.id) :
      RoomChange action old { old with leaseGeneration := old.leaseGeneration + 1 }
  | sent (outputs : action.outputs = some old.id) :
      RoomChange action old { old with nextOutputSequence := old.nextOutputSequence + 1 }

variable {β : Type}

theorem RoomChange.evolves {action : Action β} {old room : TerminalRoom}
    (change : RoomChange action old room) : RoomEvolves old room := by
  cases change with
  | kept => exact .refl old
  | closed now active => exact ⟨rfl, rfl, rfl, rfl, rfl, fun _ => active, Int.le_refl _, Int.le_refl _⟩
  | granted grants =>
    exact ⟨rfl, rfl, rfl, rfl, rfl, fun active => active, Int.le_refl _, Int.le_add_one (Int.le_refl _)⟩
  | sent outputs =>
    exact ⟨rfl, rfl, rfl, rfl, rfl, fun active => active, Int.le_add_one (Int.le_refl _), Int.le_refl _⟩

theorem RoomChange.of_update {action : Action β} {selected : TerminalRoom → Bool}
    {change : Change TerminalRoom.id} {room : TerminalRoom}
    (changed : ∀ old ∈ db.terminalRooms.rows, selected old = true →
      RoomChange action old (change.apply old)) (member : room ∈ (db.terminalRooms.update selected change).rows) :
    ∃ old ∈ db.terminalRooms.rows, RoomChange action old room :=
  Table.origin_update (RoomChange action) (fun _ => .kept) changed member

theorem RoomChange.of_closeWorkspaceRooms {β : Type} {action : Action β} {workspaceId : String}
    {now : Instant} {room : TerminalRoom}
    (member : room ∈ (closeWorkspaceRooms workspaceId now db).terminalRooms.rows) :
    ∃ old ∈ db.terminalRooms.rows, RoomChange action old room := by
  simp only [closeWorkspaceRooms] at member
  refine RoomChange.of_update (fun old _ chosen => ?_) member
  simp only [decide_eq_true_eq] at chosen
  exact .closed now chosen.2

/-- Every room after an action is a stored one that it changed, or the one the action opened. -/
theorem Action.room_change {action : Action β} {value : β}
    (ran : action.run platform db = .ok (value, next)) {room : TerminalRoom} (member : room ∈ next.terminalRooms.rows) :
    (∃ old ∈ db.terminalRooms.rows, RoomChange action old room) ∨ action.opens = some room := by
  have agree := Action.run_agree ran
  by_cases written : .terminalRooms ∈ action.writes
  case neg =>
    rw [agree.terminalRooms written] at member
    exact .inl ⟨room, member, .kept⟩
  -- What is left are the actions that write the table of rooms.
  cases action <;> simp [Action.writes] at written
  case acceptWorkspaceInvitation account input draws =>
    left
    obtain ⟨invitation, -, ⟨sessions, rfl⟩ | ⟨-, members, _, devices, _, sessions, -, -, -, -, rfl⟩⟩ :=
      acceptWorkspaceInvitation_ok ran
    · exact ⟨room, member, .kept⟩
    · exact RoomChange.of_closeWorkspaceRooms member
  case deleteWorkspace workspaceId =>
    obtain ⟨-, -, rfl⟩ := deleteWorkspace_eq_ok.mp ran
    exact .inl ⟨room, (Table.mem_delete.mp member).1, .kept⟩
  case updateMember auth workspaceId memberId role status now =>
    left
    obtain ⟨_, _, -, -, -, -, -, -, -, -, rfl⟩ := updateMember_eq_ok.mp ran
    have applied := @RoomChange.of_closeWorkspaceRooms _ _
      (.updateMember auth workspaceId memberId role status now) _ _ _ member
    simp only [raiseEpoch, applyMemberUpdate] at applied
    split at applied <;> exact applied
  case revokeDevice auth workspaceId deviceId now =>
    obtain ⟨_, _, -, -, -, -, -, -, -, -, rfl⟩ := revokeDevice_eq_ok.mp ran
    exact .inl (RoomChange.of_closeWorkspaceRooms member)
  case createRoom auth input now =>
    obtain ⟨-, rooms, participants, opened, -, -, -, -, -, rfl⟩ := createRoom_eq_ok.mp ran
    rcases (Table.mem_insert opened).mp member with old | rfl
    · exact .inl ⟨room, (Table.mem_delete.mp old).1, .kept⟩
    · exact .inr rfl
  case grantControl auth roomId memberId input leaseId now =>
    left
    obtain ⟨_, -, -, -, -, -, -, -, -, -, rfl⟩ := grantControl_eq_ok.mp ran
    simp only [storeLease] at member
    refine RoomChange.of_update (fun old _ chosen => ?_) member
    exact .granted (congrArg some (of_decide_eq_true chosen).1.symm)
  case closeRoom auth roomId now =>
    left
    obtain ⟨-, -, rfl⟩ := closeRoom_eq_ok.mp ran
    simp only [shutRoom] at member
    refine RoomChange.of_update (fun old _ chosen => ?_) member
    simp only [decide_eq_true_eq] at chosen
    exact .closed now chosen.2
  case commitFrame auth view frame now prunedAt =>
    left
    rcases commitFrame_ok ran with ⟨direction, output⟩ | ⟨-, input⟩
    · obtain ⟨-, -, -, -, stored, frames, -, -, -, -, -, rfl⟩ := acceptOutput_eq_ok.mp output
      simp only [pruneReplay, raiseOutput] at member
      refine RoomChange.of_update (fun old _ chosen => ?_) member
      simp only [decide_eq_true_eq] at chosen
      refine .sent ?_
      simp [Action.outputs, direction, chosen.1]
    · obtain ⟨-, -, -, -, participant, lease, -, -, -, -, -, -, -, rfl⟩ :=
        acceptInput_eq_ok.mp input
      exact ⟨room, member, .kept⟩

theorem Action.room_origin {action : Action β} {value : β}
    (ran : action.run platform db = .ok (value, next)) {room : TerminalRoom} (member : room ∈ next.terminalRooms.rows) :
    (∃ old ∈ db.terminalRooms.rows, RoomEvolves old room) ∨ action.opens = some room := by
  rcases Action.room_change ran member with ⟨old, stored, change⟩ | opened
  · exact .inl ⟨old, stored, change.evolves⟩
  · exact .inr opened

end Relay

end CNShell
