import CNShell.Client.Manager

/-! What every operation may do to a room, and the rule that carries a property of one room along a run. -/

namespace CNShell

namespace Client

variable {vault : Vault} {room after : RoomState} {roomId : String}

/-- An action that was performed, with the desktop it was performed on. -/
abbrev HostEntry := Desktop × Event HostAction AppError

def RoomState.publish (next : UInt64) (stored : StoredFrame) (clock : Nat → Tick) (room : RoomState) : RoomState :=
  (((room.setNextOutput next).store stored).enableEncryption).pruneReplay clock

/-- The moves of a room, apart from those that publish a frame, install a lease or accept input. -/
inductive RoomMove (vault : Vault) (room : RoomState) : RoomState → Prop
  | expired (now : Tick) : RoomMove vault room (room.expireLease now)
  | pruned (clock : Nat → Tick) : RoomMove vault room (room.pruneReplay clock)
  | seated {participant : TeamTerminalParticipant} (active : room.status = .active)
      (absent : room.participants.find? participant.deviceId = none) :
      RoomMove vault room (room.seat participant)
  | roleSet (deviceId : String) (role : Role) : RoomMove vault room (room.setRole deviceId role)
  | enabled (active : room.status = .active) : RoomMove vault room room.enableEncryption
  | unsized {frame : TeamTerminalEncryptedFrame} {next : UInt64}
      (refused : vault.canonicalFrame frame = none) : RoomMove vault room (room.setNextOutput next)
  | advanced {next : UInt64} (plain : room.encryptedTransportEnabled = false)
      (counts : checkedSucc room.nextOutputSequence = some next) :
      RoomMove vault room (room.setNextOutput next)
  | dismissed (deviceId : String) : RoomMove vault room (room.dismiss deviceId)
  | cleared : RoomMove vault room room.clearLease
  | closed : RoomMove vault room room.close

section Moves

variable {α : Type} {authorization : TeamAuthorization} {following : Unit → RoomSection α}

theorem Leads.verifyHost_bind (rest : Section.Leads (RoomMove vault) (following ()) room) :
    Section.Leads (RoomMove vault) (verifyHost authorization >>= following) room := by
  -- Whether the check fails or passes, the room stays what it was.
  show Section.Leads _ (Section.check (validateHost authorization room) >>= following) room
  exact .check_bind fun _ _ => rest

theorem Leads.verifyActive_bind
    (rest : room.status = .active → Section.Leads (RoomMove vault) (following ()) room) :
    Section.Leads (RoomMove vault) (verifyActive >>= following) room := by
  show Section.Leads _ (Section.check (ensure (room.status = .active) _) >>= following) room
  exact .check_bind fun _ active => rest (ensure_eq_ok.mp active)

theorem Leads.snapshot (now : Tick) : Section.Leads (RoomMove vault) (Client.snapshot now) room :=
  .modify_bind (.expired now) (.get_bind (.pure _))

theorem Leads.seatDevice (active : room.status = .active) (moved memberId deviceId : String) (role : Role)
    (joinedAt : String) :
    Section.Leads (RoomMove vault) (Client.seatDevice moved memberId deviceId role joinedAt) room := by
  refine .get_bind (.check_bind fun _ _ => ?_)
  -- The rest depends on whether the device has a seat already.
  cases held : room.participants.find? deviceId with
  | some seated => exact .check_bind fun _ _ => .modify (.roleSet deviceId role)
  | none => exact .modify (.seated active held)

theorem seatDevice_status {moved memberId deviceId joinedAt : String} {role : Role}
    (admitted : seatDevice moved memberId deviceId role joinedAt room = (.ok (), after)) :
    after.status = room.status := by
  obtain ⟨found, middle, read, admitted⟩ := Section.bind_eq_ok.mp admitted
  cases read
  obtain ⟨_, middle, few, admitted⟩ := Section.bind_eq_ok.mp admitted
  obtain ⟨-, rfl⟩ := Section.check_eq_ok.mp few
  cases held : room.participants.find? deviceId with
  | some seated =>
    simp only [held] at admitted
    obtain ⟨_, middle, own, admitted⟩ := Section.bind_eq_ok.mp admitted
    obtain ⟨-, rfl⟩ := Section.check_eq_ok.mp own
    cases admitted
    rfl
  | none =>
    simp only [held] at admitted
    cases admitted
    rfl

end Moves

/-- The sections that neither publish a frame nor install a lease nor accept input. -/
def Visit.Quiet {β : Type} : Visit β → Prop
  | .publish _ _ _ => False
  | .acceptInput _ _ _ _ _ _ => False
  | .grant _ _ _ _ _ _ _ => False
  | .applyLease _ _ _ _ => False
  | _ => True

variable {β : Type}

theorem Visit.Quiet.leads {body : Visit β} (quiet : body.Quiet) (room : RoomState) :
    Section.Leads (RoomMove vault) (body.section vault) room := by
  -- One case for each section, along its source.
  cases body with
  | verifyHost authorization => exact .get_bind (.check _)
  | join authorization memberId deviceId role joinedAt now =>
    refine Leads.verifyHost_bind (Leads.verifyActive_bind fun active => ?_)
    exact .bind (Leads.seatDevice active _ _ _ _ _) fun _ _ _ => Leads.snapshot now
  | invite draws authorization hostDeviceId recipientMemberId recipientDeviceId recipientRole
      recipientPublic =>
    refine Leads.verifyHost_bind (Leads.verifyActive_bind fun active => ?_)
    refine .bind (Leads.seatDevice active _ _ _ _ _) fun _ admitted ran => ?_
    have open' : admitted.status = .active := (seatDevice_status ran).trans active
    refine .get_bind (.check_bind fun wrapped _ => .modify_bind (.pruned draws.clock) ?_)
    exact .get_bind (.check_bind fun invitation _ => .modify_bind (.enabled open') (.pure _))
  | publish draws authorization bytes => exact quiet.elim
  | replay clock authorization memberId recipientDeviceId afterSequence =>
    refine Leads.verifyHost_bind (.get_bind (.check_bind fun _ _ => ?_))
    exact .modify_bind (.pruned clock) (.get_bind (.check _))
  | publishPlain authorization bytes =>
    refine Leads.verifyHost_bind (Leads.verifyActive_bind fun active => ?_)
    refine .get_bind (.check_bind fun _ plain => .check_bind fun next counts => ?_)
    exact .modify_bind (.advanced (ensure_eq_ok.mp plain) (required_eq_ok.mp counts)) (.pure _)
  | openInput authorization frame now =>
    refine Leads.verifyHost_bind (.modify_bind (.expired now) ?_)
    exact .get_bind (.check_bind fun _ _ => .check _)
  | acceptInput authorization memberId deviceId leaseId sequence now => exact quiet.elim
  | grant authorization memberId deviceId leaseId expiresAt endsAt now => exact quiet.elim
  | applyLease authorization lease endsAt now => exact quiet.elim
  | removeParticipant authorization deviceId now =>
    refine Leads.verifyHost_bind (.get_bind (.check_bind fun _ _ => ?_))
    exact .modify_bind (.dismissed deviceId) (Leads.snapshot now)
  | revoke authorization now => exact Leads.verifyHost_bind (.modify_bind .cleared (Leads.snapshot now))
  | status now => exact Leads.snapshot now
  | close authorization now => exact Leads.verifyHost_bind (.modify_bind .closed (Leads.snapshot now))

/-! ### The sections that are not quiet -/

theorem verifyHost_bind_eq_ok {α : Type} {authorization : TeamAuthorization}
    {following : Unit → RoomSection α} {value : α} :
    (verifyHost authorization >>= following) room = (.ok value, after) ↔
      validateHost authorization room = .ok () ∧ following () room = (.ok value, after) :=
  Section.check_bind_eq_ok.trans ⟨fun found => found.elim fun _ passed => passed, fun passed => ⟨(), passed⟩⟩

theorem verifyActive_bind_eq_ok {α : Type} {following : Unit → RoomSection α} {value : α} :
    (verifyActive >>= following) room = (.ok value, after) ↔
      room.status = .active ∧ following () room = (.ok value, after) := by
  refine Section.check_bind_eq_ok.trans ?_
  rw [Unique.exists_iff]
  simp

theorem publishSection_ok {draws : OutputDraws} {authorization : TeamAuthorization}
    {bytes : List UInt8} {frame : TeamTerminalEncryptedFrame}
    (published : publishSection vault draws authorization bytes room = (.ok frame, after)) :
    ∃ next encoded, room.status = .active ∧ frame.sequence = room.nextOutputSequence ∧
      checkedSucc room.nextOutputSequence = some next ∧ vault.canonicalFrame frame = some encoded ∧
      after = room.publish next ⟨frame, encoded.length, draws.createdAt⟩ draws.clock := by
  obtain ⟨-, published⟩ := verifyHost_bind_eq_ok.mp published
  obtain ⟨active, published⟩ := verifyActive_bind_eq_ok.mp published
  rw [Section.get_bind_apply] at published
  obtain ⟨made, encrypted, published⟩ := Section.check_bind_eq_ok.mp published
  obtain ⟨next, counts, published⟩ := Section.check_bind_eq_ok.mp published
  rw [Section.modify_bind_apply] at published
  obtain ⟨encoded, written, published⟩ := Section.check_bind_eq_ok.mp published
  -- Nothing fails from here on, so the frame that was made is the one that is returned.
  cases published
  simp only [encryptFrame, bind_eq_ok, pure_eq_ok] at encrypted
  obtain ⟨_, -, aad, -, ciphertext, -, secret, -, payload, -, rfl⟩ := encrypted
  exact ⟨next, encoded, active, rfl, required_eq_ok.mp counts, required_eq_ok.mp written, rfl⟩

variable {now : Tick}

theorem acceptInputSection_ok {authorization : TeamAuthorization}
    {memberId deviceId leaseId session : String} {sequence : UInt64}
    (accepted : acceptInputSection authorization memberId deviceId leaseId sequence now room = (.ok session, after)) :
    ∃ held seated next, (room.expireLease now).controlLease = some held ∧ held.lease.id = leaseId ∧
      held.lease.deviceId = deviceId ∧
      (room.expireLease now).participants.find? deviceId = some seated ∧
      seated.nextInputSequence = sequence ∧ checkedSucc sequence = some next ∧
      after = (room.expireLease now).setNextInput deviceId next := by
  obtain ⟨-, accepted⟩ := verifyHost_bind_eq_ok.mp accepted
  rw [Section.modify_bind_apply] at accepted
  obtain ⟨-, accepted⟩ := verifyActive_bind_eq_ok.mp accepted
  rw [Section.get_bind_apply] at accepted
  obtain ⟨held, leased, accepted⟩ := Section.check_bind_eq_ok.mp accepted
  obtain ⟨_, own, accepted⟩ := Section.check_bind_eq_ok.mp accepted
  obtain ⟨seated, found, accepted⟩ := Section.check_bind_eq_ok.mp accepted
  obtain ⟨_, expected, accepted⟩ := Section.check_bind_eq_ok.mp accepted
  obtain ⟨next, counts, accepted⟩ := Section.check_bind_eq_ok.mp accepted
  -- All checks have passed, so the section ends with the change of the counter.
  cases accepted
  obtain ⟨named, placed, -⟩ := ensure_eq_ok.mp own
  obtain rfl := ensure_eq_ok.mp expected
  exact ⟨held, seated, next, required_eq_ok.mp leased, named, placed, required_eq_ok.mp found, rfl,
    required_eq_ok.mp counts, rfl⟩

variable {shown : TeamTerminalRoom} {endsAt : Tick}

theorem grantSection_ok {authorization : TeamAuthorization} {memberId deviceId leaseId expiresAt : String}
    (granted : grantSection authorization memberId deviceId leaseId expiresAt endsAt now room = (.ok shown, after)) :
    ∃ generation, (room.participants.find? deviceId).isSome = true ∧
      checkedSucc room.leaseGeneration = some generation ∧
      after = (room.install { id := leaseId, memberId, deviceId, expiresAt, generation }
        endsAt).expireLease now := by
  obtain ⟨-, granted⟩ := verifyHost_bind_eq_ok.mp granted
  rw [Section.get_bind_apply] at granted
  obtain ⟨_, joined, granted⟩ := Section.check_bind_eq_ok.mp granted
  obtain ⟨generation, counts, granted⟩ := Section.check_bind_eq_ok.mp granted
  cases granted
  exact ⟨generation, (ensure_eq_ok.mp joined).2, required_eq_ok.mp counts, rfl⟩

theorem applyLeaseSection_ok {authorization : TeamAuthorization} {lease : TeamControlLease}
    (applied : applyLeaseSection authorization lease endsAt now room = (.ok shown, after)) :
    (room.controlLease.map LeaseState.lease = some lease ∧ after = room.expireLease now) ∨
      (room.participants.find? lease.deviceId).isSome = true ∧
        room.leaseGeneration < lease.generation ∧
        after = (room.install lease endsAt).expireLease now := by
  obtain ⟨-, applied⟩ := verifyHost_bind_eq_ok.mp applied
  rw [Section.get_bind_apply] at applied
  obtain ⟨_, holder, applied⟩ := Section.check_bind_eq_ok.mp applied
  obtain ⟨_, newer, applied⟩ := Section.check_bind_eq_ok.mp applied
  -- An equal generation is only accepted for the very lease that is held.
  split at applied
  · obtain ⟨_, same, applied⟩ := Section.check_bind_eq_ok.mp applied
    cases applied
    refine .inl ⟨?_, rfl⟩
    simpa [Option.any_eq_true] using ensure_eq_ok.mp same
  · rename_i differs
    cases applied
    simp only [checkLeaseHolder, bind_eq_ok, required_eq_ok] at holder
    obtain ⟨seated, found, -⟩ := holder
    exact .inr ⟨by rw [found]; rfl, UInt64.lt_of_le_of_ne (ensure_eq_ok.mp newer) (Ne.symm differs), rfl⟩

theorem FailsBy.verifyHost_bind {α : Type} {authorization : TeamAuthorization}
    {following : Unit → RoomSection α} (rest : Section.FailsBy (RoomMove vault) (following ()) room) :
    Section.FailsBy (RoomMove vault) (verifyHost authorization >>= following) room := by
  show Section.FailsBy _ (Section.check (validateHost authorization room) >>= following) room
  exact .check_bind fun _ _ => rest

theorem FailsBy.verifyActive_bind {α : Type} {following : Unit → RoomSection α}
    (rest : Section.FailsBy (RoomMove vault) (following ()) room) :
    Section.FailsBy (RoomMove vault) (verifyActive >>= following) room := by
  show Section.FailsBy _ (Section.check (ensure (room.status = .active) _) >>= following) room
  exact .check_bind fun _ _ => rest

theorem Visit.failsBy (body : Visit β) (room : RoomState) :
    Section.FailsBy (RoomMove vault) (body.section vault) room := by
  by_cases quiet : body.Quiet
  · exact .of_leads (quiet.leads room)
  -- What is left writes only when nothing can fail any more.
  cases body with
  | publish draws authorization bytes =>
    refine FailsBy.verifyHost_bind (FailsBy.verifyActive_bind (.get_bind ?_))
    refine .check_bind fun frame _ => .check_bind fun next _ => ?_
    -- The only failure after the counter has moved on is that of the frame's size.
    cases written : vault.canonicalFrame frame with
    | none => exact .modify_bind (.unsized written) (.of_leads (.check _))
    | some encoded =>
      intro error final ran
      cases ran
  | acceptInput authorization memberId deviceId leaseId sequence now =>
    refine FailsBy.verifyHost_bind (.modify_bind (.expired now) (FailsBy.verifyActive_bind ?_))
    refine .get_bind (.check_bind fun _ _ => .check_bind fun _ _ => .check_bind fun _ _ =>
      .check_bind fun _ _ => .check_bind fun next _ => ?_)
    intro error final ran
    cases ran
  | grant authorization memberId deviceId leaseId expiresAt endsAt now =>
    refine FailsBy.verifyHost_bind (.get_bind (.check_bind fun _ _ => .check_bind fun generation _ => ?_))
    intro error final ran
    cases ran
  | applyLease authorization lease endsAt now =>
    refine FailsBy.verifyHost_bind (.get_bind (.check_bind fun _ _ => .check_bind fun _ _ => ?_))
    split
    · refine .check_bind fun _ _ => ?_
      intro error final ran
      cases ran
    · intro error final ran
      cases ran
  | _ => exact absurd trivial quiet

theorem Visit.keeps {holds : RoomState → Prop}
    (moves : ∀ before next, RoomMove vault before next → holds before → holds next)
    (outputs : ∀ before next stored clock, before.status = .active →
      stored.frame.sequence = before.nextOutputSequence →
      checkedSucc before.nextOutputSequence = some next →
      (vault.canonicalFrame stored.frame).map List.length = some stored.bytes →
      holds before → holds (before.publish next stored clock))
    (inputs : ∀ before deviceId sequence, holds before → holds (before.setNextInput deviceId sequence))
    (leases : ∀ before lease endsAt, holds before → holds (before.install lease endsAt))
    {β : Type} (body : Visit β) (start : holds room) : holds (body.section vault room).2 := by
  by_cases quiet : body.Quiet
  · exact (quiet.leads room).keeps moves start
  have expires : ∀ before now, holds before → holds (before.expireLease now) :=
    fun before now => moves before _ (.expired now)
  cases ran : body.section vault room with
  | mk result final =>
    cases result with
    | error error =>
      -- A failure moves the room as a quiet section does.
      have led := body.failsBy room error final ran
      clear ran
      induction led with
      | refl => exact start
      | tail _ move ih => exact moves _ _ move ih
    | ok value =>
      cases body with
      | publish draws authorization bytes =>
        obtain ⟨next, encoded, active, numbered, counts, written, rfl⟩ := publishSection_ok ran
        exact outputs _ _ _ _ active numbered counts (by rw [written]; rfl) start
      | acceptInput authorization memberId deviceId leaseId sequence now =>
        obtain ⟨held, seated, next, -, -, -, -, -, -, rfl⟩ := acceptInputSection_ok ran
        exact inputs _ _ _ (expires _ _ start)
      | grant authorization memberId deviceId leaseId expiresAt endsAt now =>
        obtain ⟨generation, -, -, rfl⟩ := grantSection_ok ran
        exact expires _ _ (leases _ _ _ start)
      | applyLease authorization lease endsAt now =>
        rcases applyLeaseSection_ok ran with ⟨-, rfl⟩ | ⟨-, -, rfl⟩
        · exact expires _ _ start
        · exact expires _ _ (leases _ _ _ start)
      | _ => exact absurd trivial quiet

@[simp] theorem Visit.id_section (body : Visit β) (room : RoomState) : (body.section vault room).2.id = room.id := by
  refine @Visit.keeps vault room (fun next => next.id = room.id) (fun before next move same => ?_)
    (fun _ _ _ _ _ _ _ _ same => same) (fun _ _ _ same => same) (fun _ _ _ same => same) β body rfl
  -- A move writes other fields only.
  cases move with
  | expired now =>
    rw [← same]
    unfold RoomState.expireLease
    split
    · rfl
    · rfl
  | _ => exact same

/-! ### One room along a run -/

/-- The room an action is about: the one that it starts, or whose section it is. -/
def roomOf : Event HostAction AppError → Option String
  | ⟨.start room _, .ok (.ok _)⟩ => some room.id
  | ⟨.visit roomId _, .ok _⟩ => some roomId
  | _ => none

def startedRoom : HostEntry → Option String
  | (_, ⟨.start room _, .ok (.ok _)⟩) => some room.id
  | _ => none

variable {event : Event HostAction AppError}

theorem startedRoom_elsewhere {desktop : Desktop}
    (elsewhere : roomOf event ≠ some roomId) : startedRoom (desktop, event) ≠ some roomId := by
  obtain ⟨action, outcome⟩ := event
  cases action with
  | start room fresh =>
    rcases outcome with _ | _ | _
    · exact (Option.some_ne_none roomId).symm
    · exact (Option.some_ne_none roomId).symm
    · exact elsewhere
  | _ => exact (Option.some_ne_none roomId).symm

/-- What an action does to the room under an identifier, if there is one. -/
inductive RoomChange (vault : Vault) (roomId : String) :
    Event HostAction AppError → Option RoomState → Option RoomState → Prop
  | kept {event : Event HostAction AppError} {room : Option RoomState}
      (elsewhere : roomOf event ≠ some roomId) : RoomChange vault roomId event room room
  | forgotten {event : Event HostAction AppError} {room : RoomState}
      (elsewhere : roomOf event ≠ some roomId) (ended : room.status ≠ .active) :
      RoomChange vault roomId event (some room) none
  | shut {event : Event HostAction AppError} {room : RoomState}
      (elsewhere : roomOf event ≠ some roomId) : RoomChange vault roomId event (some room) (some room.close)
  | opened {before : Option RoomState} {room : RoomState} {fresh : room.Fresh}
      {shown : TeamTerminalRoom} (same : room.id = roomId) :
      RoomChange vault roomId ⟨.start room fresh, .ok (.ok shown)⟩ before (some room)
  | visited {β : Type} {body : Visit β} {room : RoomState} :
      RoomChange vault roomId ⟨.visit roomId body, .ok (body.section vault room).1⟩ (some room)
        (some (body.section vault room).2)

theorem RoomChange.of_purge {rooms : Table RoomState.id} (elsewhere : roomOf event ≠ some roomId) :
    RoomChange vault roomId event (rooms.find? roomId)
      ((rooms.delete fun held => held.status ≠ .active).find? roomId) := by
  rw [Table.find?_delete]
  cases found : rooms.find? roomId with
  | none => exact .kept elsewhere
  | some room =>
    rw [Option.filter_some]
    split
    · exact .kept elsewhere
    · rename_i ended
      exact .forgotten elsewhere (by simpa using ended)

theorem startSection_outcome (started : RoomState) (rooms : Table RoomState.id) :
    (∃ shown, startSection started rooms =
        (.ok shown, (rooms.delete fun held => held.status ≠ .active).put started)) ∨
      ∃ error, startSection started rooms = (.error error, rooms.delete fun held => held.status ≠ .active) := by
  unfold startSection
  rw [Section.modify_bind_apply, Section.get_bind_apply, Section.check_bind_apply]
  -- Both checks look at what is left of the rooms.
  split
  · rw [Section.check_bind_apply]
    split
    · exact .inl ⟨_, rfl⟩
    · exact .inr ⟨_, rfl⟩
  · exact .inr ⟨_, rfl⟩

/-- Every successful action changes the room under an identifier in one of the ways there are. -/
theorem HostAction.room_change {action : HostAction β} {desktop next : Desktop} {value : β}
    (ran : action.run vault desktop = .ok (value, next)) (roomId : String) :
    RoomChange vault roomId ⟨action, .ok value⟩ (desktop.rooms.find? roomId)
      (next.rooms.find? roomId) := by
  cases action with
  | read | write | locate =>
    simp only [HostAction.run, bind_eq_ok, pure_eq_ok, Prod.mk.injEq] at ran
    obtain ⟨_, -, -, rfl⟩ := ran
    exact .kept (Option.some_ne_none roomId).symm
  | start started fresh =>
    rcases startSection_outcome started desktop.rooms with ⟨shown, stored⟩ | ⟨error, refused⟩
    · simp only [HostAction.run, stored, Except.ok.injEq, Prod.mk.injEq] at ran
      obtain ⟨rfl, rfl⟩ := ran
      rw [Table.find?_put]
      split
      · rename_i same
        exact .opened same.symm
      · rename_i differs
        exact .of_purge fun same => differs (Option.some.inj same).symm
    · simp only [HostAction.run, refused, Except.ok.injEq, Prod.mk.injEq] at ran
      obtain ⟨rfl, rfl⟩ := ran
      exact .of_purge (Option.some_ne_none roomId).symm
  | visit other body =>
    simp only [HostAction.run, Desktop.room, bind_eq_ok, required_eq_ok, pure_eq_ok, Prod.mk.injEq] at ran
    obtain ⟨room, found, rfl, rfl⟩ := ran
    have named : room.id = other := (Table.find?_some found).2
    rw [Table.find?_put, Visit.id_section, named]
    split
    · rename_i same
      subst same
      rw [found]
      exact .visited
    · rename_i differs
      exact .kept fun same => differs (Option.some.inj same).symm
  | closeRooms selected =>
    simp only [HostAction.run, Except.ok.injEq, Prod.mk.injEq] at ran
    obtain ⟨-, rfl⟩ := ran
    rw [Client.closeRooms, Table.find?_update]
    cases found : desktop.rooms.find? roomId with
    | none => exact .kept (Option.some_ne_none roomId).symm
    | some room =>
      rw [Option.map_some]
      split
      · exact .shut (Option.some_ne_none roomId).symm
      · exact .kept (Option.some_ne_none roomId).symm
  | accept | closeClient | closeClients =>
    simp only [HostAction.run, Except.ok.injEq, Prod.mk.injEq] at ran
    obtain ⟨-, rfl⟩ := ran
    exact .kept (Option.some_ne_none roomId).symm

theorem roomOf_failed (action : HostAction β) (error : AppError) (roomId : String) :
    roomOf ⟨action, .error error⟩ ≠ some roomId := by
  cases action <;> exact (Option.some_ne_none roomId).symm

/-- What happened in a run, in order. -/
abbrev hostLog (trace : List (Pool HostAction AppError Desktop × Pool.Label HostAction AppError)) :
    List HostEntry := Pool.events trace

/--
A property of the log so far and the room under an identifier holds along every run.

It has to hold before any room was started, and each entry has to keep it together with what the
entry does to the room.
-/
theorem room_history (roomId : String) (holds : List HostEntry → Option RoomState → Prop)
    (begins : holds [] none)
    (keeps : ∀ log desktop event before after, holds log before → before = desktop.rooms.find? roomId →
      RoomChange vault roomId event before after → holds (log ++ [(desktop, event)]) after)
    {trace : List (Pool HostAction AppError Desktop × Pool.Label HostAction AppError)}
    {pool : Pool HostAction AppError Desktop} (run : (desktopSystem vault).Run trace pool) :
    holds (hostLog trace) (pool.store.rooms.find? roomId) := by
  refine (Pool.history (fun _ _ => True) (fun _ _ => True)
    (fun log desktop => holds log (desktop.rooms.find? roomId)) (fun program _ => .any program)
    ?_ ?_ run fun _ _ => trivial).1
  · intro desktop opens
    obtain ⟨db, rfl⟩ := opens
    exact begins
  · intro log desktop β action _ before _
    -- A failed action keeps the rooms, and is about none of them.
    cases ran : action.run vault desktop with
    | error error =>
      rw [Semantics.outcome_error ran]
      exact keeps _ _ _ _ _ before rfl (.kept (roomOf_failed action error roomId))
    | ok result =>
      rw [Semantics.outcome_ok ran]
      exact keeps _ _ _ _ _ before rfl (HostAction.room_change ran roomId)

end Client

end CNShell
