import CNShell.Relay.Staff

/-! Owners, their devices and their sessions under the operations of other members' sessions. -/

namespace CNShell

namespace Relay

variable {platform : Platform} {start db next : Db}

def OwnerDevice (db : Db) (deviceId : String) : Prop :=
  ∃ device ∈ db.devices.rows, device.id = deviceId ∧
    ∃ member ∈ db.members.rows, member.id = device.memberId ∧ member.role = .owner

/--
Nothing of an owner was taken between two databases.

Every owner keeps role and status, every active device of an owner is still active, and every
session of an owner's device is stored as it was.
-/
structure OwnersKept (start db : Db) : Prop where
  members : ∀ member ∈ start.members.rows, member.role = .owner →
    ∃ kept ∈ db.members.rows, kept.id = member.id ∧ kept.role = .owner ∧ kept.status = member.status
  devices : ∀ device ∈ start.devices.rows, OwnerDevice start device.id → device.status = .active →
    ∃ kept ∈ db.devices.rows, kept.id = device.id ∧ kept.status = .active
  sessions : ∀ session ∈ start.deviceSessions.rows, OwnerDevice start session.deviceId →
    session ∈ db.deviceSessions.rows

def SparesOwners (db : Db) (event : Event Action RelayError) : Prop :=
  match event with
  | ⟨.revokeDevice _ _ deviceId _, .ok _⟩ => ¬OwnerDevice db deviceId
  | _ => True

/-- A device keeps its identity and member, and may be revoked but not activated. -/
structure DeviceFades (old new : Device) : Prop where
  id : new.id = old.id
  member : new.memberId = old.memberId
  status : new.status = .active → old.status = .active

theorem DeviceFades.refl (device : Device) : DeviceFades device device := ⟨rfl, rfl, fun active => active⟩

theorem DeviceFades.trans {first second third : Device} (one : DeviceFades first second)
    (two : DeviceFades second third) : DeviceFades first third :=
  ⟨two.id.trans one.id, two.member.trans one.member, fun active => one.status (two.status active)⟩

/-- The owners are the same, and every device is one there was, perhaps revoked since. -/
structure Derived (start db : Db) : Prop where
  owners : ∀ member : Member, member.role = .owner → (member ∈ db.members.rows ↔ member ∈ start.members.rows)
  back : ∀ new ∈ db.devices.rows, ∃ old ∈ start.devices.rows, DeviceFades old new
  forth : ∀ old ∈ start.devices.rows, ∃ new ∈ db.devices.rows, DeviceFades old new

theorem Derived.refl (db : Db) : Derived db db :=
  ⟨fun _ _ => Iff.rfl, fun new held => ⟨new, held, .refl new⟩, fun old held => ⟨old, held, .refl old⟩⟩

theorem Derived.trans (one : Derived start db) (two : Derived db next) : Derived start next where
  owners member owner := (two.owners member owner).trans (one.owners member owner)
  back new held := by
    obtain ⟨middle, stored, late⟩ := two.back new held
    obtain ⟨old, origin, early⟩ := one.back middle stored
    exact ⟨old, origin, early.trans late⟩
  forth old held := by
    obtain ⟨middle, stored, early⟩ := one.forth old held
    obtain ⟨new, reached, late⟩ := two.forth middle stored
    exact ⟨new, reached, early.trans late⟩

theorem Derived.ownerDevice (derived : Derived start db) (deviceId : String) :
    OwnerDevice db deviceId ↔ OwnerDevice start deviceId := by
  constructor
  · rintro ⟨new, held, rfl, member, stored, same, owner⟩
    obtain ⟨old, origin, fades⟩ := derived.back new held
    exact ⟨old, origin, fades.id.symm, member, (derived.owners member owner).mp stored,
      same.trans fades.member, owner⟩
  · rintro ⟨old, held, rfl, member, stored, same, owner⟩
    obtain ⟨new, reached, fades⟩ := derived.forth old held
    exact ⟨new, reached, fades.id, member, (derived.owners member owner).mpr stored,
      same.trans fades.member.symm, owner⟩

theorem OwnersKept.trans (derived : Derived start db) (one : OwnersKept start db)
    (two : OwnersKept db next) : OwnersKept start next where
  members member held owner := by
    obtain ⟨middle, stored, id, role, status⟩ := one.members member held owner
    obtain ⟨kept, reached, id', role', status'⟩ := two.members middle stored role
    exact ⟨kept, reached, id'.trans id, role', status'.trans status⟩
  devices device held owner active := by
    obtain ⟨middle, stored, id, status⟩ := one.devices device held owner active
    obtain ⟨kept, reached, id', status'⟩ := two.devices middle stored
      ((derived.ownerDevice middle.id).mpr (id ▸ owner)) status
    exact ⟨kept, reached, id'.trans id, status'⟩
  sessions session held owner :=
    two.sessions session (one.sessions session held owner)
      ((derived.ownerDevice session.deviceId).mpr owner)

/-- An active device of an owner was revoked. -/
def OwnerDamaged (start db : Db) : Prop :=
  ∃ device ∈ start.devices.rows, OwnerDevice start device.id ∧ device.status = .active ∧
    ∃ now ∈ db.devices.rows, now.id = device.id ∧ now.status ≠ .active

theorem OwnerDamaged.not_kept (damaged : OwnerDamaged start db) : ¬OwnersKept start db := by
  obtain ⟨device, held, owner, active, now, stored, id, revoked⟩ := damaged
  intro kept
  obtain ⟨still, reached, same, usable⟩ := kept.devices device held owner active
  rw [Table.eq_of_key reached stored (same.trans id.symm)] at usable
  exact revoked usable

theorem OwnerDamaged.later (damaged : OwnerDamaged start db) (derived : Derived db next) :
    OwnerDamaged start next := by
  obtain ⟨device, held, owner, active, now, stored, id, revoked⟩ := damaged
  obtain ⟨later, reached, fades⟩ := derived.forth now stored
  exact ⟨device, held, owner, active, later, reached, fades.id.trans id, fun usable => revoked (fades.status usable)⟩

theorem OwnerDamaged.earlier (damaged : OwnerDamaged db next) (derived : Derived start db) :
    OwnerDamaged start next := by
  obtain ⟨device, held, owner, active, rest⟩ := damaged
  obtain ⟨old, origin, fades⟩ := derived.back device held
  refine ⟨old, origin, ?_, fades.status active, ?_⟩
  · rw [← fades.id]
    exact (derived.ownerDevice device.id).mp owner
  · rw [← fades.id]
    exact rest

section Step

theorem kept_of_same (members : next.members = db.members) (devices : next.devices = db.devices)
    (sessions : next.deviceSessions = db.deviceSessions) :
    Derived db next ∧ OwnersKept db next := by
  constructor
  · constructor
    · intro member _
      rw [members]
    · intro new held
      rw [devices] at held
      exact ⟨new, held, .refl new⟩
    · intro old held
      exact ⟨old, devices ▸ held, .refl old⟩
  · constructor
    · intro member held owner
      exact ⟨member, members ▸ held, rfl, owner, rfl⟩
    · intro device held _ active
      exact ⟨device, devices ▸ held, rfl, active⟩
    · intro session held _
      exact sessions ▸ held

variable {role : Role} {workspaceId memberId : String}

theorem changeMember_owner {auth : DeviceAuth} {status : MemberStatus} {current : Member} (staff : auth.role ≠ .owner)
    (found : db.members.find? memberId = some current)
    (allowed : checkMemberUpdate auth workspaceId role status current db = .ok ())
    (member : Member) (owner : member.role = .owner) :
    member ∈ (changeMember workspaceId memberId role status db).members.rows ↔ member ∈ db.members.rows := by
  -- The checked member is not an owner, and neither is the role it is given.
  have rule : current.role ≠ .owner ∧ role ≠ .owner := by
    simp only [checkMemberUpdate, bind_eq_ok, ensure_eq_ok, exists_const] at allowed
    simpa [staff] using allowed.1
  have ⟨stored, keyed⟩ := Table.find?_some found
  have unselected : ∀ old ∈ db.members.rows, old.role = .owner → old.id ≠ memberId := by
    intro old held oldOwner same
    have : old = current := Table.eq_of_key held stored (same.trans keyed.symm)
    exact rule.1 (this ▸ oldOwner)
  simp only [changeMember, Table.mem_update]
  constructor
  · rintro ⟨old, held, rfl⟩
    split at owner
    · exact absurd owner rule.2
    · rename_i other
      rw [if_neg other]
      exact held
  · intro held
    exact ⟨member, held, by simp [unselected member held owner]⟩

theorem applyMemberUpdate_devices (workspaceId memberId : String) (role : Role)
    (status : MemberStatus) (now : Instant) (db : Db) :
    (∀ new ∈ (applyMemberUpdate workspaceId memberId role status now db).devices.rows,
      ∃ old ∈ db.devices.rows, DeviceFades old new) ∧
    (∀ old ∈ db.devices.rows,
      ∃ new ∈ (applyMemberUpdate workspaceId memberId role status now db).devices.rows,
        DeviceFades old new ∧ (old.memberId ≠ memberId → new = old)) := by
  unfold applyMemberUpdate
  split
  · simp only [revokeMemberDevices, revokeMemberSessions, changeMember]
    constructor
    · intro new held
      refine Table.origin_update DeviceFades .refl (fun old _ chosen => ?_) held
      simp only [decide_eq_true_eq] at chosen
      exact ⟨rfl, rfl, fun _ => chosen.2.2⟩
    · intro old held
      refine ⟨_, Table.mem_update.mpr ⟨old, held, rfl⟩, ?_, ?_⟩
      · split
        · rename_i chosen
          simp only [decide_eq_true_eq] at chosen
          exact ⟨rfl, rfl, fun _ => chosen.2.2⟩
        · exact .refl old
      · intro other
        simp [other]
  · exact ⟨fun new held => ⟨new, held, .refl new⟩, fun old held => ⟨old, held, .refl old, fun _ => rfl⟩⟩

variable {now : Instant}

theorem applyMemberUpdate_sessions {status : MemberStatus} {session : DeviceSession}
    (held : session ∈ db.deviceSessions.rows) (elsewhere : ∀ device ∈ db.devices.rows, device.id = session.deviceId →
      device.memberId ≠ memberId) :
    session ∈
      (applyMemberUpdate workspaceId memberId role status now db).deviceSessions.rows := by
  unfold applyMemberUpdate
  split
  · simp only [revokeMemberDevices, revokeMemberSessions, changeMember]
    refine Table.mem_update.mpr ⟨session, held, if_neg fun chosen => ?_⟩
    obtain ⟨-, owned⟩ := of_decide_eq_true chosen
    obtain ⟨device, listed, same⟩ := List.mem_map.mp owned
    obtain ⟨stored, own⟩ := List.mem_filter.mp listed
    simp only [decide_eq_true_eq] at own
    exact elsewhere device stored same own.1
  · exact held

theorem kept_of_updateMember {auth : DeviceAuth} {status : MemberStatus} {epoch : Int} (staff : auth.role ≠ .owner)
    (done : updateMember auth workspaceId memberId role status now db = .ok (epoch, next)) :
    Derived db next ∧ OwnersKept db next := by
  obtain ⟨current, _, found, -, allowed, -, -, -, -, -, rfl⟩ := updateMember_eq_ok.mp done
  have owners := changeMember_owner staff found allowed
  have members : (applyMemberUpdate workspaceId memberId role status now db).members =
      (changeMember workspaceId memberId role status db).members := by
    unfold applyMemberUpdate
    split <;> rfl
  obtain ⟨back, forth⟩ := applyMemberUpdate_devices workspaceId memberId role status now db
  -- The updated member is not an owner, so an owner's device belongs to somebody else.
  have elsewhere : ∀ deviceId, OwnerDevice db deviceId → ∀ device ∈ db.devices.rows,
      device.id = deviceId → device.memberId ≠ memberId := by
    rintro deviceId ⟨other, stored, rfl, member, listed, same, owner⟩ device held id own
    obtain rfl : device = other := Table.eq_of_key held stored id
    have ⟨storedCurrent, keyed⟩ := Table.find?_some found
    obtain rfl : member = current :=
      Table.eq_of_key listed storedCurrent ((same.trans own).trans keyed.symm)
    simp only [checkMemberUpdate, bind_eq_ok, ensure_eq_ok, exists_const] at allowed
    exact allowed.1 ⟨staff, .inl owner⟩
  constructor
  · constructor
    · intro member owner
      show member ∈ (applyMemberUpdate workspaceId memberId role status now db).members.rows ↔ _
      rw [members]
      exact owners member owner
    · exact back
    · intro old held
      obtain ⟨new, reached, fades, -⟩ := forth old held
      exact ⟨new, reached, fades⟩
  · constructor
    · intro member held owner
      refine ⟨member, ?_, rfl, owner, rfl⟩
      show member ∈ (applyMemberUpdate workspaceId memberId role status now db).members.rows
      rw [members]
      exact (owners member owner).mpr held
    · intro device held owner active
      obtain ⟨new, reached, -, same⟩ := forth device held
      obtain rfl := same (elsewhere device.id owner device held rfl)
      exact ⟨new, reached, rfl, active⟩
    · intro session held owner
      exact applyMemberUpdate_sessions held (elsewhere session.deviceId owner)

variable {deviceId : String}

variable {epoch : Int} {auth : DeviceAuth}

theorem derived_of_revokeDevice
    (done : revokeDevice auth workspaceId deviceId now db = .ok (epoch, next)) : Derived db next := by
  obtain ⟨device, _, found, -, active, -, -, -, -, -, rfl⟩ := revokeDevice_eq_ok.mp done
  have fades : ∀ old : Device, revocable workspaceId deviceId old = true →
      DeviceFades old { old with status := .revoked } := by
    intro old chosen
    simp only [revocable, decide_eq_true_eq] at chosen
    exact ⟨rfl, rfl, fun _ => chosen.2.2⟩
  refine ⟨fun _ _ => Iff.rfl, fun new held => ?_, fun old held => ?_⟩
  · exact Table.origin_update DeviceFades .refl (fun old _ => fades old) held
  · refine ⟨_, Table.mem_update.mpr ⟨old, held, rfl⟩, ?_⟩
    split
    · rename_i chosen
      exact fades old chosen
    · exact .refl old

theorem kept_of_revokeDevice (spares : ¬OwnerDevice db deviceId)
    (done : revokeDevice auth workspaceId deviceId now db = .ok (epoch, next)) : OwnersKept db next := by
  obtain ⟨device, _, found, -, active, -, -, -, -, -, rfl⟩ := revokeDevice_eq_ok.mp done
  refine ⟨fun member held owner => ⟨member, held, rfl, owner, rfl⟩, fun old held owner usable => ?_,
    fun session held owner => ?_⟩
  · refine ⟨old, Table.mem_update.mpr ⟨old, held, if_neg fun chosen => ?_⟩, rfl, usable⟩
    simp only [revocable, decide_eq_true_eq] at chosen
    exact spares (chosen.1 ▸ owner)
  · refine Table.mem_update.mpr ⟨session, held, if_neg fun chosen => ?_⟩
    simp only [decide_eq_true_eq] at chosen
    exact spares (chosen.1 ▸ owner)

theorem damaged_of_revokeDevice (owner : OwnerDevice db deviceId)
    (done : revokeDevice auth workspaceId deviceId now db = .ok (epoch, next)) : OwnerDamaged db next := by
  obtain ⟨device, _, found, own, active, -, -, -, -, -, rfl⟩ := revokeDevice_eq_ok.mp done
  obtain ⟨held, keyed⟩ := Table.find?_some found
  refine ⟨device, held, keyed ▸ owner, active, { device with status := .revoked },
    Table.mem_update.mpr ⟨device, held, ?_⟩, rfl, by simp⟩
  rw [if_pos]
  simp [revocable, keyed, own, active]

theorem staff_step {β : Type} {action : Action β} {value : β} (staff : StaffAction β action)
    (ran : action.run platform db = .ok (value, next)) :
    Derived db next ∧ (SparesOwners db ⟨action, .ok value⟩ → OwnersKept db next) ∧
      (¬SparesOwners db ⟨action, .ok value⟩ → OwnerDamaged db next) := by
  have agree := Action.run_agree ran
  have untouched (members : .members ∉ action.writes) (devices : .devices ∉ action.writes)
      (sessions : .deviceSessions ∉ action.writes) : Derived db next ∧ OwnersKept db next :=
    kept_of_same (agree.members members) (agree.devices devices) (agree.deviceSessions sessions)
  cases action
  case updateMember auth workspaceId memberId role status now =>
    obtain ⟨derived, kept⟩ := kept_of_updateMember staff ran
    exact ⟨derived, fun _ => kept, fun harmful => absurd trivial harmful⟩
  case revokeDevice auth workspaceId deviceId now =>
    exact ⟨derived_of_revokeDevice ran, fun spares => kept_of_revokeDevice spares ran,
      fun harmful => damaged_of_revokeDevice (not_not.mp harmful) ran⟩
  -- The other staff actions write none of the three tables; the rest are not staff actions.
  all_goals first
    | exact staff.elim
    | exact ⟨(untouched (by simp [Action.writes]) (by simp [Action.writes])
        (by simp [Action.writes])).1, fun _ => (untouched (by simp [Action.writes])
        (by simp [Action.writes]) (by simp [Action.writes])).2, fun harmful => absurd trivial harmful⟩

end Step

/-- Along a run the owners are kept while every step spares them, and damaged since one did not. -/
def OwnerProgress (start : Db) (log : List (Db × Event Action RelayError)) (db : Db) : Prop :=
  Derived start db ∧
    (((∀ entry ∈ log, SparesOwners entry.1 entry.2) ∧ OwnersKept start db) ∨
      ((∃ entry ∈ log, ¬SparesOwners entry.1 entry.2) ∧ OwnerDamaged start db))

theorem OwnerProgress.step {log : List (Db × Event Action RelayError)} {β : Type}
    {action : Action β} (progress : OwnerProgress start log db) (staff : StaffAction β action) :
    OwnerProgress start
      (log ++ [(db, ⟨action, ((semantics platform).outcome action db).1⟩)])
      ((semantics platform).outcome action db).2 := by
  obtain ⟨derived, sofar⟩ := progress
  cases ran : action.run platform db with
  | error error =>
    -- A failed action leaves everything as it was.
    rw [outcome_error ran]
    have spares : SparesOwners db ⟨action, .error error⟩ := by cases action <;> trivial
    refine ⟨derived, ?_⟩
    rcases sofar with ⟨spared, kept⟩ | ⟨⟨entry, member, harmful⟩, damaged⟩
    · exact .inl ⟨List.forall_mem_append.mpr ⟨spared, by simpa using spares⟩, kept⟩
    · exact .inr ⟨⟨entry, List.mem_append.mpr (.inl member), harmful⟩, damaged⟩
  | ok result =>
    rw [outcome_ok ran]
    obtain ⟨step, spared, harmed⟩ := staff_step staff ran
    refine ⟨derived.trans step, ?_⟩
    rcases sofar with ⟨before, kept⟩ | ⟨⟨entry, member, harmful⟩, damaged⟩
    · by_cases spares : SparesOwners db ⟨action, .ok result.1⟩
      · exact .inl ⟨List.forall_mem_append.mpr ⟨before, by simpa using spares⟩, .trans derived kept (spared spares)⟩
      · exact .inr ⟨⟨_, List.mem_append.mpr (.inr List.mem_cons_self), spares⟩, (harmed spares).earlier derived⟩
    · exact .inr ⟨⟨entry, List.mem_append.mpr (.inl member), harmful⟩, damaged.later step⟩

/--
A run of operations without the owner role leaves all owners out of reach exactly when none of
its revocations hits a device of an owner.
-/
theorem ownersKept_iff
    {trace : List (Pool Action RelayError Db × Pool.Label Action RelayError)}
    {pool : Pool Action RelayError Db} (run : (staffService platform start).Run trace pool) :
    OwnersKept start pool.store ↔ ∀ entry ∈ Pool.events trace, SparesOwners entry.1 entry.2 := by
  have reached : OwnerProgress start (Pool.events trace) pool.store := by
    refine (Pool.history StaffAction (fun _ _ => True) (OwnerProgress start) ?_ ?_ ?_ run
      fun _ _ => trivial).1
    · rintro _ ⟨auth, call, draws, staff, rfl⟩
      exact DeviceCall.serve_staff draws auth staff call
    · rintro _ rfl
      exact ⟨.refl _, .inl ⟨by simp, (kept_of_same rfl rfl rfl).2⟩⟩
    · intro log db β action staff progress _
      exact progress.step staff
  obtain ⟨-, ⟨spared, kept⟩ | ⟨⟨entry, member, harmful⟩, damaged⟩⟩ := reached
  · exact ⟨fun _ => spared, fun _ => kept⟩
  · exact ⟨fun kept => absurd kept damaged.not_kept, fun spared => absurd (spared entry member) harmful⟩

/-- From a reachable database, an admin may revoke the device of the owner. -/
theorem owner_device_revoked : ∃ start, ReachableDb Demo.platform start ∧
    ∃ trace pool, (staffService Demo.platform start).Run trace pool ∧ ¬OwnersKept start pool.store := by
  obtain ⟨start, next, keyEpoch, reachable, stage, revokes, ⟨trace, run, -⟩⟩ :=
    Demo.admin_revokes_owner
  refine ⟨start, reachable, trace, _, run, (damaged_of_revokeDevice ?_ revokes).not_kept⟩
  refine ⟨Demo.storedDevice false 0, (Table.find?_some (stage.find?_device (Nat.zero_le _))).1, rfl,
    Demo.member false 0, (Table.find?_some (stage.find?_member (Nat.zero_le _))).1, rfl, rfl⟩

/-- The owners are kept while an admin restores another admin. -/
theorem ownersKept_restored : ∃ start next keyEpoch, Demo.Stage true 3 2 2 start ∧
    updateMember (Demo.auth true 2 2) (Demo.uuid 0) (Demo.uuid 1) .admin .active 0 start = .ok (keyEpoch, next) ∧
    OwnersKept start next := by
  obtain ⟨start, next, keyEpoch, -, stage, updates, ⟨trace, run, met⟩⟩ := Demo.admin_restores_admin
  refine ⟨start, next, keyEpoch, stage, updates, (ownersKept_iff run).mpr fun entry member => ?_⟩
  obtain ⟨store, ⟨action, outcome⟩⟩ := entry
  have allowed := met _ member
  cases action <;> trivial

end Relay

end CNShell
