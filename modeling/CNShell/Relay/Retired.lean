import CNShell.Relay.Writes

/-! Devices belong to members of their workspace, and what a removed member had is out of use. -/

namespace CNShell

namespace Relay

variable {platform : Platform} {db next : Db}

/-- Every device has its member, and only active members have active devices and usable sessions. -/
structure Tenured (db : Db) : Prop where
  manned : ∀ device ∈ db.devices.rows, ∃ member, db.members.find? device.memberId = some member ∧
    member.workspaceId = device.workspaceId ∧
    (device.status = .active → member.status = .active)
  sessions : ∀ session ∈ db.deviceSessions.rows, ∃ device member,
    db.devices.find? session.deviceId = some device ∧
    db.members.find? device.memberId = some member ∧
    (session.revokedAt = none → member.status = .active)

namespace Tenured

theorem congr (tenured : Tenured db) (members : next.members = db.members)
    (devices : next.devices = db.devices) (sessions : next.deviceSessions = db.deviceSessions) :
    Tenured next := by
  obtain ⟨manned, held⟩ := tenured
  constructor
  · rwa [members, devices]
  · rwa [members, devices, sessions]

theorem issue (tenured : Tenured db) {request : SessionRequest} {output : DeviceSessionOutput}
    (issued : issueDeviceSession platform request db = .ok (output, next))
    {device : Device} {member : Member}
    (found : db.devices.find? request.deviceId = some device)
    (owned : db.members.find? device.memberId = some member) (active : member.status = .active) :
    Tenured next := by
  obtain ⟨-, sessions, inserted, -, -, rfl⟩ := issueDeviceSession_eq_ok.mp issued
  refine ⟨tenured.manned, fun session held => ?_⟩
  -- What is kept was there before, or is the session that was issued.
  rcases (Table.mem_insert inserted).mp (Table.mem_delete.mp held).1 with old | rfl
  · exact tenured.sessions session old
  · exact ⟨device, member, found, owned, fun _ => active⟩

theorem enrol (tenured : Tenured db) {member : Member} {device : Device}
    {members : Table Member.id} {devices : Table Device.id}
    (joined : db.members.insert member = some members)
    (added : db.devices.insert device = some devices) (owner : device.memberId = member.id)
    (place : member.workspaceId = device.workspaceId) (active : member.status = .active) :
    Tenured { db with members, devices } := by
  -- Stored devices have stored members, which are not the new one.
  have kept : ∀ name found, db.members.find? name = some found → members.find? name = some found := by
    intro name found held
    rw [Table.find?_insert joined, if_neg]
    · exact held
    · intro same
      obtain ⟨stored, keyed⟩ := Table.find?_some held
      exact (Table.insert_eq_some.mp joined).1 found stored (keyed.trans same)
  constructor
  case manned =>
    intro row held
    rcases (Table.mem_insert added).mp held with old | rfl
    · obtain ⟨owning, found, own, usable⟩ := tenured.manned row old
      exact ⟨owning, kept _ _ found, own, usable⟩
    · exact ⟨member, by rw [owner, Table.find?_insert joined, if_pos rfl], place, fun _ => active⟩
  case sessions =>
    intro session held
    obtain ⟨row, owning, found, owned, usable⟩ := tenured.sessions session held
    refine ⟨row, owning, ?_, kept _ _ owned, usable⟩
    rw [Table.find?_insert added, if_neg]
    · exact found
    · intro same
      obtain ⟨stored, keyed⟩ := Table.find?_some found
      exact (Table.insert_eq_some.mp added).1 row stored (keyed.trans same)

theorem dropWorkspace (tenured : Tenured db) (workspaceId : String) : Tenured (db.dropWorkspace workspaceId) := by
  -- A member stays exactly when it is not of the workspace.
  have stays : ∀ name member, db.members.find? name = some member → member.workspaceId ≠ workspaceId →
      (db.dropWorkspace workspaceId).members.find? name = some member := by
    intro name member found other
    rw [Db.dropWorkspace, Table.find?_delete, found, Option.filter_some, if_pos]
    simp only [Bool.not_eq_true', decide_eq_false_iff_not, List.mem_map, List.mem_filter,
      decide_eq_true_eq, not_exists, not_and]
    intro row chosen same
    rw [Table.eq_of_key chosen.1 (Table.find?_some found).1 same] at chosen
    exact other chosen.2
  constructor
  case manned =>
    intro device held
    obtain ⟨stored, spared⟩ := Table.mem_delete.mp held
    obtain ⟨member, found, own, usable⟩ := tenured.manned device stored
    refine ⟨member, stays _ _ found fun gone => ?_, own, usable⟩
    -- A device of the workspace would have been deleted with it.
    have chosen : device.id ∈ (db.devices.rows.filter fun row => row.workspaceId = workspaceId ∨
        row.memberId ∈ (db.members.rows.filter fun row => row.workspaceId = workspaceId).map
          Member.id).map Device.id :=
      List.mem_map.mpr ⟨device, List.mem_filter.mpr ⟨stored, by simp [← own, gone]⟩, rfl⟩
    simp only [decide_eq_false_iff_not] at spared
    exact spared chosen
  case sessions =>
    intro session held
    obtain ⟨stored, spared⟩ := Table.mem_delete.mp held
    obtain ⟨device, member, found, owned, usable⟩ := tenured.sessions session stored
    obtain ⟨row, keyed⟩ := Table.find?_some found
    obtain ⟨owning, same, own, -⟩ := tenured.manned device row
    obtain rfl := Option.some.inj (owned.symm.trans same)
    simp only [decide_eq_false_iff_not] at spared
    rw [← keyed] at spared
    refine ⟨device, member, ?_, stays _ _ owned fun gone => ?_, usable⟩
    · rw [Db.dropWorkspace, Table.find?_delete, found, Option.filter_some, if_pos]
      simpa using spared
    · exact spared (List.mem_map.mpr ⟨device, List.mem_filter.mpr ⟨row, by simp [← own, gone]⟩, rfl⟩)

/--
Members, devices and sessions that only change stay tenured.

The members that stop being active are retired: their devices and sessions must go out of use.
-/
theorem evolve (tenured : Tenured db) (retired : String → Prop)
    (members : ∀ name member, db.members.find? name = some member → ∃ new,
      next.members.find? name = some new ∧ new.workspaceId = member.workspaceId ∧
        (member.status = .active → ¬retired name → new.status = .active))
    (devices : ∀ id device, db.devices.find? id = some device → ∃ new,
      next.devices.find? id = some new ∧ new.memberId = device.memberId)
    (used : ∀ device ∈ next.devices.rows, ∃ old ∈ db.devices.rows,
      device.memberId = old.memberId ∧ device.workspaceId = old.workspaceId ∧
        (device.status = .active → old.status = .active ∧ ¬retired old.memberId))
    (sessions : ∀ session ∈ next.deviceSessions.rows, ∃ old ∈ db.deviceSessions.rows,
      session.deviceId = old.deviceId ∧ (session.revokedAt = none → old.revokedAt = none ∧
        ∀ device, db.devices.find? old.deviceId = some device → ¬retired device.memberId)) :
    Tenured next := by
  constructor
  case manned =>
    intro device held
    obtain ⟨old, stored, owner, place, usable⟩ := used device held
    obtain ⟨member, owned, own, active⟩ := tenured.manned old stored
    obtain ⟨new, found, same, stays⟩ := members _ _ owned
    rw [owner, place]
    refine ⟨new, found, same.trans own, fun using' => ?_⟩
    obtain ⟨before, kept⟩ := usable using'
    exact stays (active before) kept
  case sessions =>
    intro session held
    obtain ⟨old, stored, same, usable⟩ := sessions session held
    obtain ⟨device, member, found, owned, active⟩ := tenured.sessions old stored
    obtain ⟨row, kept, owner⟩ := devices _ _ found
    obtain ⟨new, member', -, stays⟩ := members _ _ owned
    rw [same]
    refine ⟨row, new, kept, owner ▸ member', fun valid => ?_⟩
    obtain ⟨before, apart⟩ := usable valid
    exact stays (active before) (apart device found)

/-- A removed member's devices and sessions go out of use with it. -/
theorem applyMemberUpdate (tenured : Tenured db) (workspaceId memberId : String) (role : Role)
    (status : MemberStatus) (now : Instant) {current : Member}
    (found : db.members.find? memberId = some current) (own : current.workspaceId = workspaceId) :
    Tenured (applyMemberUpdate workspaceId memberId role status now db) := by
  have keyed := (Table.find?_some found).2
  -- Only the member that was checked is changed.
  have changed : ∀ name member, db.members.find? name = some member →
      (changeMember workspaceId memberId role status db).members.find? name =
        some (if name = memberId then { member with role, status } else member) := by
    intro name member held
    rw [changeMember, Table.find?_update, held, Option.map_some]
    have same := (Table.find?_some held).2
    by_cases here : name = memberId
    · obtain rfl : current = member := Option.some.inj (found.symm.trans (here ▸ held))
      simp [here, keyed, own]
    · simp [same, here]
  have members : ∀ name member, db.members.find? name = some member → ∃ new,
      (changeMember workspaceId memberId role status db).members.find? name = some new ∧
        new.workspaceId = member.workspaceId ∧
        (member.status = .active → ¬(name = memberId ∧ status = .removed) → new.status = .active) := by
    intro name member held
    refine ⟨_, changed name member held, ?_, fun active stays => ?_⟩
    · split <;> rfl
    · split
      · rename_i here
        cases status with
        | active => rfl
        | removed => exact absurd ⟨here, rfl⟩ stays
      · exact active
  by_cases removes : status = .removed
  case neg =>
    rw [Relay.applyMemberUpdate, if_neg removes]
    exact tenured.evolve _ members (fun id device held => ⟨device, held, rfl⟩)
      (fun device held => ⟨device, held, rfl, rfl, fun active => ⟨active, fun gone => removes gone.2⟩⟩)
      (fun session held => ⟨session, held, rfl, fun valid =>
        ⟨valid, fun _ _ gone => removes gone.2⟩⟩)
  case pos =>
    rw [Relay.applyMemberUpdate, if_pos removes]
    -- A device of the member is of the member's workspace, so the update selects it.
    have place : ∀ device ∈ db.devices.rows, device.memberId = memberId → device.workspaceId = workspaceId := by
      intro device held owner
      obtain ⟨member, owned, same, -⟩ := tenured.manned device held
      obtain rfl : current = member := Option.some.inj (found.symm.trans (owner ▸ owned))
      exact same.symm.trans own
    refine tenured.evolve _ members ?_ ?_ ?_
    · intro id device held
      refine ⟨_, Table.find?_update.trans (congrArg (Option.map _) held), ?_⟩
      dsimp only
      split <;> rfl
    · intro device held
      obtain ⟨old, stored, rfl⟩ := Table.mem_update.mp held
      refine ⟨old, stored, ?_⟩
      split
      · exact ⟨rfl, rfl, fun active => by cases active⟩
      · rename_i spared
        refine ⟨rfl, rfl, fun active => ⟨active, fun gone => spared ?_⟩⟩
        simp [gone.1, place old stored gone.1, active]
    · intro session held
      obtain ⟨old, stored, rfl⟩ := Table.mem_update.mp held
      refine ⟨old, stored, ?_⟩
      split
      · exact ⟨rfl, fun valid => by cases valid⟩
      · rename_i spared
        refine ⟨rfl, fun valid => ⟨valid, fun device listed gone => spared ?_⟩⟩
        obtain ⟨row, same⟩ := Table.find?_some listed
        -- The session's device is among those whose sessions are revoked.
        have owned : old.deviceId ∈ (db.devices.rows.filter fun device =>
            device.memberId = memberId ∧ device.workspaceId = workspaceId).map Device.id :=
          List.mem_map.mpr ⟨device, List.mem_filter.mpr ⟨row, by
            simp [gone.1, place device row gone.1]⟩, same⟩
        exact decide_eq_true ⟨valid, owned⟩

theorem applyRevocation (tenured : Tenured db) (workspaceId deviceId : String) (now : Instant) :
    Tenured (applyRevocation workspaceId deviceId now db) := by
  refine tenured.evolve (fun _ => False) (fun name member held => ⟨member, held, rfl, fun active _ => active⟩)
    ?_ ?_ ?_
  · intro id device held
    refine ⟨_, Table.find?_update.trans (congrArg (Option.map _) held), ?_⟩
    dsimp only
    split <;> rfl
  · intro device held
    obtain ⟨old, stored, rfl⟩ := Table.mem_update.mp held
    refine ⟨old, stored, ?_⟩
    split
    · exact ⟨rfl, rfl, fun active => by cases active⟩
    · exact ⟨rfl, rfl, fun active => ⟨active, fun gone => gone⟩⟩
  · intro session held
    obtain ⟨old, stored, rfl⟩ := Table.mem_update.mp held
    refine ⟨old, stored, ?_⟩
    split
    · exact ⟨rfl, fun valid => by cases valid⟩
    · exact ⟨rfl, fun valid => ⟨valid, fun _ _ gone => gone⟩⟩

/-- Every action keeps the members tenured. -/
theorem run (tenured : Tenured db) {β : Type} {action : Action β} {value : β}
    (ran : action.run platform db = .ok (value, next)) : Tenured next := by
  have agree := Action.run_agree ran
  -- Only what writes members, devices or their sessions matters.
  by_cases written : .members ∈ action.writes ∨ .devices ∈ action.writes ∨ .deviceSessions ∈ action.writes
  case neg =>
    simp only [not_or] at written
    exact tenured.congr (agree.members written.1) (agree.devices written.2.1)
      (agree.deviceSessions written.2.2)
  cases action <;> simp [Action.writes] at written
  case bootstrapWorkspace account input workspaceName sessionId random now issuedAt =>
    obtain ⟨-, workspaces, members, opened, -, -, joined, -, device, issued⟩ :=
      bootstrapWorkspace_eq_ok.mp ran
    obtain ⟨name, devices, -, added, -, -, rfl⟩ := insertDevice_eq_ok.mp device
    have opened : Tenured { db with workspaces } := tenured.congr rfl rfl rfl
    have held : devices.find? input.device.id = some (registeredDevice input.workspaceId
      input.memberId name input.device now) := (Table.find?_insert added).trans (if_pos rfl)
    have owned : members.find? input.memberId = some (firstOwner account input now) :=
      (Table.find?_insert joined).trans (if_pos rfl)
    exact (opened.enrol joined added rfl rfl rfl).issue issued held owned rfl
  case acceptWorkspaceInvitation account input draws =>
    obtain ⟨invitation, -, -, accepted⟩ := acceptWorkspaceInvitation_eq_ok.mp ran
    split at accepted
    · obtain ⟨member, row, _, found, -, -, active, held, owner, -, -, -, -, -, -, -, -, issued⟩ :=
        acceptAgain_eq_ok.mp accepted
      exact tenured.issue issued held (owner ▸ found) active
    · obtain ⟨-, -, members, admitted, workspace, joined, -, device, -, -, -, issued⟩ :=
        acceptFresh_eq_ok.mp accepted
      obtain ⟨name, devices, -, added, -, -, rfl⟩ := insertDevice_eq_ok.mp device
      have settled : Tenured (joinedWorkspace invitation draws.now { db with members, devices }) :=
        (tenured.enrol joined added rfl rfl rfl).congr rfl rfl rfl
      have held : devices.find? input.device.id = some (registeredDevice invitation.workspaceId
        invitation.memberId name input.device draws.now) :=
        (Table.find?_insert added).trans (if_pos rfl)
      have owned : members.find? invitation.memberId = some (invitedMember invitation account
        draws.now) := (Table.find?_insert joined).trans (if_pos rfl)
      exact settled.issue issued held owned rfl
  case deleteWorkspace workspaceId =>
    obtain ⟨-, -, rfl⟩ := deleteWorkspace_eq_ok.mp ran
    exact tenured.dropWorkspace workspaceId
  case updateMember auth workspaceId memberId role status now =>
    obtain ⟨current, _, found, own, -, -, -, -, -, -, rfl⟩ := updateMember_eq_ok.mp ran
    exact (tenured.applyMemberUpdate workspaceId memberId role status now found own).congr rfl rfl rfl
  case revokeDevice auth workspaceId deviceId now =>
    obtain ⟨_, _, -, -, -, -, -, -, -, -, rfl⟩ := revokeDevice_eq_ok.mp ran
    exact (tenured.applyRevocation workspaceId deviceId now).congr rfl rfl rfl
  case createDeviceSession input checkedAt now issuedAt sessionId random =>
    obtain ⟨challenge, device, member, _, -, -, -, found, -, owned, -, active, -, -, -, -, issued⟩ :=
      createDeviceSession_eq_ok.mp ran
    have same := (Table.find?_some found).2
    have used : Tenured (useChallenge input.challengeId now db) := tenured.congr rfl rfl rfl
    exact used.issue issued (by rw [show (challengedSession device member _ sessionId random
      issuedAt).deviceId = device.id from rfl, same]; exact found) owned active

end Tenured

theorem tenured_of_reachable (reached : ReachableDb platform db) : Tenured db := by
  obtain ⟨threads, trace, run⟩ := reached
  refine Pool.invariant (fun _ _ => True) (fun _ _ => True) Tenured
    (fun program _ => .any program) ?_ ?_ run fun _ _ => trivial
  · intro _ opened
    subst opened
    exact ⟨fun _ held => (List.not_mem_nil held).elim, fun _ held => (List.not_mem_nil held).elim⟩
  · intro db next β action value _ tenured _ ran
    exact tenured.run ran

end Relay

end CNShell
