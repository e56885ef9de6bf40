import CNShell.Client.Demo

/-! The end of a hosted room: when its host can close it, and a history after which it cannot. -/

namespace CNShell

namespace Client

variable {vault : Vault} {room after : RoomState} {roomId : String} {desktop : Desktop}

/-- A room that has ended: closed, without a lease, and without its key or its output. -/
structure RoomState.Ended (room : RoomState) : Prop where
  closed : room.status = .closed
  unleased : room.controlLease = none
  keyless : room.roomKey = zeroized
  empty : room.replay = []
  weightless : room.replayBytes = 0

/-- Closing the room succeeds and ends it. -/
def Closes (vault : Vault) (desktop : Desktop) (roomId : String) : Prop :=
  ∀ draws, ∃ view left room, (closeRoom vault draws roomId).exec (hostSemantics vault) desktop =
    (.ok view, left) ∧ left.rooms.find? roomId = some room ∧ room.Ended

/-- The local member is authorized as the room's host, under the key epoch of the room. -/
def Closable (vault : Vault) (db : LocalDb) (room : RoomState) : Prop :=
  ∃ role, authorize vault.toPlatform room.workspaceId .shareManage db =
    .ok ⟨room.hostMemberId, role, room.keyEpoch, some room.hostDeviceId⟩

variable {authorization : TeamAuthorization}

theorem validateHost_eq_ok :
    validateHost authorization room = .ok () ↔
      authorization = ⟨room.hostMemberId, authorization.role, room.keyEpoch, some room.hostDeviceId⟩ := by
  obtain ⟨memberId, role, keyEpoch, localDeviceId⟩ := authorization
  simp only [validateHost, ensure_eq_ok, TeamAuthorization.mk.injEq, true_and]
  constructor
  · intro passes
    exact ⟨passes.1.symm, passes.2.2.symm, passes.2.1⟩
  · intro same
    exact ⟨same.1.symm, same.2.2, same.2.1.symm⟩

theorem closeSection_ok {now : Tick} {view : TeamTerminalRoom} :
    closeSection authorization now room = (.ok view, after) ↔
      validateHost authorization room = .ok () ∧ view = room.close.view ∧ after = room.close := by
  have closing : (do Section.modify RoomState.close; snapshot now : RoomSection TeamTerminalRoom) room =
      (.ok room.close.view, room.close) := rfl
  rw [closeSection, verifyHost_bind_eq_ok, closing, Prod.mk.injEq, Except.ok.injEq]
  exact and_congr_right fun _ => ⟨fun same => ⟨same.1.symm, same.2.symm⟩, fun same => ⟨same.1.symm, same.2.symm⟩⟩

theorem exec_closeRoom (found : desktop.rooms.find? roomId = some room) (draws : HostDraws) :
    (closeRoom vault draws roomId).exec (hostSemantics vault) desktop =
      match authorize vault.toPlatform room.workspaceId .shareManage desktop.db with
      | .ok authorization =>
        ((closeSection authorization (draws.tick 0) room).1,
          { desktop with
            rooms := desktop.rooms.put (closeSection authorization (draws.tick 0) room).2 })
      | .error error => (.error error, desktop) := by
  rw [closeRoom, Program.exec_bind_ok (exec_workspaceOf found)]
  cases given : authorize vault.toPlatform room.workspaceId .shareManage desktop.db with
  | ok authorization =>
    rw [Program.exec_bind_ok (exec_authorized given), exec_enter found]
    rfl
  | error error => rw [Program.exec_bind, authorized, exec_query_error given]

theorem closes_iff (found : desktop.rooms.find? roomId = some room) :
    Closes vault desktop roomId ↔ Closable vault desktop.db room := by
  constructor
  · intro closes
    obtain ⟨view, left, ended, ran, -, -⟩ := closes (Demo.draws 0)
    rw [exec_closeRoom found] at ran
    cases given : authorize vault.toPlatform room.workspaceId .shareManage desktop.db with
    | error error =>
      rw [given] at ran
      cases ran
    | ok authorization =>
      cases section' : closeSection authorization ((Demo.draws 0).tick 0) room with
      | mk result final =>
        simp only [given, section', Prod.mk.injEq] at ran
        obtain ⟨rfl, -⟩ := ran
        obtain ⟨passed, -, -⟩ := closeSection_ok.mp section'
        exact ⟨authorization.role, given.trans (congrArg _ (validateHost_eq_ok.mp passed))⟩
  · intro closable draws
    obtain ⟨role, given⟩ := closable
    have named : room.id = roomId := (Table.find?_some found).2
    have closed : closeSection ⟨room.hostMemberId, role, room.keyEpoch, some room.hostDeviceId⟩
        (draws.tick 0) room = (.ok room.close.view, room.close) :=
      closeSection_ok.mpr ⟨validateHost_eq_ok.mpr rfl, rfl, rfl⟩
    refine ⟨room.close.view, { desktop with rooms := desktop.rooms.put room.close }, room.close, ?_, ?_,
      ⟨rfl, rfl, rfl, rfl, rfl⟩⟩
    · rw [exec_closeRoom found, given]
      simp only [closed]
    · rw [Table.find?_put]
      exact if_pos named.symm

/-! ### Runs -/

/-- A room that is open only if another one is, and is its host's in the same workspace and epoch. -/
structure SameHost (room after : RoomState) : Prop where
  placed : after.workspaceId = room.workspaceId
  member : after.hostMemberId = room.hostMemberId
  device : after.hostDeviceId = room.hostDeviceId
  epoch : after.keyEpoch = room.keyEpoch
  active : after.status = .active → room.status = .active

theorem Visit.sameHost {β : Type} (body : Visit β) (room : RoomState) :
    SameHost room (body.section vault room).2 := by
  refine @Visit.keeps vault room (SameHost room) (fun before next move same => ?_)
    (fun _ _ _ _ _ _ _ _ same => ⟨same.placed, same.member, same.device, same.epoch, same.active⟩)
    (fun _ _ _ same => ⟨same.placed, same.member, same.device, same.epoch, same.active⟩)
    (fun _ _ _ same => ⟨same.placed, same.member, same.device, same.epoch, same.active⟩)
    β body ⟨rfl, rfl, rfl, rfl, id⟩
  -- A move writes other fields, or closes the room.
  cases move with
  | expired now =>
    unfold RoomState.expireLease
    split
    · exact ⟨same.placed, same.member, same.device, same.epoch, same.active⟩
    · exact same
  | closed =>
    exact ⟨same.placed, same.member, same.device, same.epoch, fun active => nomatch active⟩
  | _ => exact ⟨same.placed, same.member, same.device, same.epoch, same.active⟩

theorem Closable.congr {db : LocalDb} (closable : Closable vault db room) (same : SameHost room after) :
    Closable vault db after := by
  unfold Closable
  rw [same.placed, same.member, same.device, same.epoch]
  exact closable

/--
The condition under which an action leaves every open room to be closed.

A transaction keeps what the local member of a workspace with an open room is authorized as, and a
room is only opened while its host is authorized under the epoch that the room gets.
-/
def KeepsHosting (vault : Vault) (desktop : Desktop) : Event HostAction AppError → Prop
  | ⟨.write transaction, _⟩ =>
      ∀ room ∈ desktop.rooms.rows, room.status = .active →
        ∀ value db, transaction desktop.db = .ok (value, db) →
          authorize vault.toPlatform room.workspaceId .shareManage db =
            authorize vault.toPlatform room.workspaceId .shareManage desktop.db
  | ⟨.start room _, _⟩ => Closable vault desktop.db room
  | _ => True

/-- Every open room of a desktop can be closed. -/
def AllClosable (vault : Vault) (desktop : Desktop) : Prop :=
  ∀ roomId room, desktop.rooms.find? roomId = some room → room.status = .active → Closable vault desktop.db room

variable {next : Desktop}

theorem KeepsHosting.authorize {β : Type} {action : HostAction β} {value : β}
    (keeps : KeepsHosting vault desktop ⟨action, .ok value⟩) (ran : action.run vault desktop = .ok (value, next))
    (found : desktop.rooms.find? roomId = some room) (active : room.status = .active) :
    Client.authorize vault.toPlatform room.workspaceId .shareManage next.db =
      Client.authorize vault.toPlatform room.workspaceId .shareManage desktop.db := by
  cases action with
  | write transaction =>
    simp only [HostAction.run, bind_eq_ok, pure_eq_ok, Prod.mk.injEq] at ran
    obtain ⟨⟨answer, db⟩, written, -, rfl⟩ := ran
    exact keeps room (Table.find?_some found).1 active answer db written
  | read | locate | visit =>
    simp only [HostAction.run, bind_eq_ok, pure_eq_ok, Prod.mk.injEq] at ran
    obtain ⟨_, -, -, rfl⟩ := ran
    rfl
  | _ =>
    simp only [HostAction.run, Except.ok.injEq, Prod.mk.injEq] at ran
    obtain ⟨-, rfl⟩ := ran
    rfl

theorem AllClosable.step {β : Type} {action : HostAction β} {value : β}
    (closable : AllClosable vault desktop) (keeps : KeepsHosting vault desktop ⟨action, .ok value⟩)
    (ran : action.run vault desktop = .ok (value, next)) : AllClosable vault next := by
  intro roomId room found active
  have change := HostAction.room_change ran roomId
  rw [found] at change
  -- What is open afterwards was open before, or was started by the action.
  generalize stored : desktop.rooms.find? roomId = before at change
  cases change with
  | kept elsewhere =>
    have old := closable roomId room stored active
    rwa [Closable, keeps.authorize ran stored active]
  | shut elsewhere => cases active
  | opened same =>
    have host : Closable vault desktop.db room := keeps
    simp only [HostAction.run, Except.ok.injEq, Prod.mk.injEq] at ran
    obtain ⟨-, rfl⟩ := ran
    exact host
  | @visited β body old =>
    have same := @Visit.sameHost vault β body old
    have host := (closable roomId old stored (same.active active)).congr same
    simp only [HostAction.run, bind_eq_ok, pure_eq_ok, Prod.mk.injEq] at ran
    obtain ⟨_, -, -, rfl⟩ := ran
    exact host

/--
A room is closed by its host exactly while the host is authorized under the room's epoch, and in
every run whose actions keep that authorization every open room can be closed.
-/
theorem roomsClosable {trace : List (Pool HostAction AppError Desktop × Pool.Label HostAction AppError)}
    {pool : Pool HostAction AppError Desktop} (run : (desktopSystem vault).Run trace pool)
    (keeps : ∀ entry ∈ hostLog trace, KeepsHosting vault entry.1 entry.2) :
    (∀ desktop roomId room, desktop.rooms.find? roomId = some room →
      (Closes vault desktop roomId ↔ Closable vault desktop.db room)) ∧
    ∀ room ∈ pool.store.rooms.rows, room.status = .active → Closes vault pool.store room.id := by
  refine ⟨fun desktop roomId room found => closes_iff found, fun room member active => ?_⟩
  have closable : AllClosable vault pool.store := by
    refine Pool.invariant (fun _ _ => True) (KeepsHosting vault) (AllClosable vault)
      (fun program _ => .any program) ?_ ?_ run keeps
    · intro desktop opens roomId room found
      obtain ⟨db, rfl⟩ := opens
      cases found
    · intro desktop next β action value _ closable keeps ran
      exact closable.step keeps ran
  have found := Table.find?_of_mem member
  exact (closes_iff found).mpr (closable room.id room found active)

theorem saveMember_demo :
    ∃ saved, saveMember Demo.vault.toPlatform
      ⟨Relay.Demo.uuid 0, some (Relay.Demo.uuid 3), "Member", "viewer"⟩ "" (Demo.team .operator 1) =
      .ok (saved, Demo.team .viewer 2) := ⟨_, rfl⟩

/-- A change of a member's role leaves the owner with an open room that it cannot close. -/
theorem room_stuck : ∃ desktop room, (desktopSystem Demo.vault).Reachable ⟨desktop, []⟩ ∧
    room ∈ desktop.rooms.rows ∧ room.status = .active ∧ ¬Closes Demo.vault desktop room.id := by
  obtain ⟨desktop, reached, team, found⟩ := Demo.hosts_hosted .operator 1 (.any _)
  obtain ⟨saved, changed⟩ := saveMember_demo
  rw [← team] at changed
  have raised := reached.call (.any (HostCall.serve Demo.vault (Demo.draws 0)
    (.transaction (saveMember Demo.vault.toPlatform
      ⟨Relay.Demo.uuid 0, some (Relay.Demo.uuid 3), "Member", "viewer"⟩ ""))))
  rw [HostCall.serve, Program.exec_discard, exec_transaction changed] at raised
  refine ⟨_, _, raised.reachable, (Table.find?_some found).1, rfl, fun closes => ?_⟩
  -- The owner is authorized under epoch 2, and the room is of epoch 1.
  have stored : ({ desktop with db := Demo.team .viewer 2 } : Desktop).rooms.find?
      (Relay.Demo.uuid 5) = some (Demo.hosted 1) := found
  obtain ⟨role, given⟩ := (closes_iff stored).mp closes
  have authorized := given.symm.trans (@Demo.authorize_team .viewer 2 .shareManage)
  cases authorized

/-- A run that only opens a room leaves it to be closed. -/
theorem roomsClosable_hosted : ∃ trace pool, (desktopSystem Demo.vault).Run trace pool ∧
    ∃ room ∈ pool.store.rooms.rows, room.status = .active ∧ Closes Demo.vault pool.store room.id := by
  have opened : Pool.ReachedMeeting (hostSemantics Demo.vault)
      (fun program => ∃ call draws, program = HostCall.serve Demo.vault draws call)
      (fun opened => ∃ db, opened = .opened db) (KeepsHosting Demo.vault)
      ⟨.opened (Demo.team .operator 1), []⟩ := ⟨[], .start ⟨⟨_, rfl⟩, rfl⟩, by simp⟩
  obtain ⟨trace, run, keeps⟩ := opened.call ⟨.start (Relay.Demo.uuid 0) "session", Demo.draws 5, rfl⟩
    ⟨trivial, trivial, ⟨.owner, rfl⟩, trivial⟩
  rw [HostCall.serve, Program.exec_discard, Demo.exec_start] at run
  exact ⟨trace, _, run, _, List.mem_singleton.mpr rfl, rfl, (roomsClosable run keeps).2 _ (List.mem_singleton.mpr rfl) rfl⟩

end Client

end CNShell
