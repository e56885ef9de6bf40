import CNShell.Client.HostRoom
import CNShell.Relay.Demo

/-! A concrete vault, and the desktop of an owner that hosts a room for one other member. -/

namespace CNShell

namespace Client

section Execution

variable {vault : Vault} {desktop : Desktop} {room : RoomState} {roomId : String}

theorem exec_query {β : Type} {ask : LocalDb → AppResult β} {value : β}
    (answered : ask desktop.db = .ok value) :
    (query ask).exec (hostSemantics vault) desktop = (.ok value, desktop) := by
  have ran : (HostAction.read ask).run vault desktop = .ok (value, desktop) := by
    simp [HostAction.run, answered]
  exact Semantics.outcome_ok ran

theorem exec_query_error {β : Type} {ask : LocalDb → AppResult β} {error : AppError}
    (refused : ask desktop.db = .error error) :
    (query ask).exec (hostSemantics vault) desktop = (.error error, desktop) := by
  have ran : (HostAction.read ask).run vault desktop = .error error := by
    simp [HostAction.run, refused]
  exact Semantics.outcome_error ran

theorem exec_authorized {workspaceId : String} {permission : TeamPermission}
    {authorization : TeamAuthorization}
    (given : authorize vault.toPlatform workspaceId permission desktop.db = .ok authorization) :
    (authorized vault workspaceId permission).exec (hostSemantics vault) desktop = (.ok authorization, desktop) :=
  exec_query given

theorem exec_transaction {β : Type} {transaction : LocalDb → AppResult (β × LocalDb)} {value : β}
    {db : LocalDb} (written : transaction desktop.db = .ok (value, db)) :
    (Program.perform (.write transaction) : Operation β).exec (hostSemantics vault) desktop =
      (.ok value, { desktop with db }) := by
  have ran : (HostAction.write transaction).run vault desktop = .ok (value, { desktop with db }) := by
    simp [HostAction.run, written]
  exact Semantics.outcome_ok ran

theorem exec_workspaceOf (found : desktop.rooms.find? roomId = some room) :
    (workspaceOf roomId).exec (hostSemantics vault) desktop = (.ok room.workspaceId, desktop) := by
  have ran : (HostAction.locate roomId).run vault desktop = .ok ((room.workspaceId, room.status), desktop) := by
    simp [HostAction.run, Desktop.room, found]
  rw [workspaceOf, Program.exec_bind_ok
    (show (Program.perform _).exec _ _ = _ from Semantics.outcome_ok ran)]
  rfl

theorem exec_enter (found : desktop.rooms.find? roomId = some room) {β : Type} (body : Visit β) :
    (enter roomId body).exec (hostSemantics vault) desktop =
      ((body.section vault room).1, { desktop with rooms := desktop.rooms.put (body.section vault room).2 }) := by
  have ran : (HostAction.visit roomId body).run vault desktop =
      .ok ((body.section vault room).1, { desktop with rooms := desktop.rooms.put (body.section vault room).2 }) := by
    simp [HostAction.run, Desktop.room, found]
  rw [enter, Program.exec_bind_ok
    (show (Program.perform _).exec _ _ = _ from Semantics.outcome_ok ran)]
  rfl

end Execution

namespace Demo

open Relay.Demo (uuid uuid_inj random token)

/--
A vault for runs of the desktop client.

It reads identifiers, base64 and times as the relay's platform does, appends a tag when it encrypts
and signs with zeros, which count as a genuine signature.
-/
def vault : Vault where
  toPlatform := { Relay.Demo.platform with
    canonicalFrame := fun frame => some ((utf8 frame.ciphertext).take maxEnvelopeBytes) }
  encodeBase64 bytes := String.ofList (Base64.encode bytes)
  decodeBase64 text := Base64.decode text.toList
  encrypt _ _ _ plaintext := some (plaintext ++ List.replicate 16 0)
  decrypt _ _ _ ciphertext := some (ciphertext.take (ciphertext.length - 16))
  sign _ _ := List.replicate 64 0
  publicKey secret := secret
  sharedSecret secret _ := secret
  contributory _ := true
  expandKey _ secret _ := some secret
  canonicalError := ""

/-- What an operation draws at the epoch, with a number for its identifier. -/
def draws (n : Nat) : HostDraws where
  utc _ := 0
  tick _ := 0
  clock _ := 0
  uuid := uuid n
  random _ := random n
  keychain _ _ := .ok (random n)

def laptop (number member : Nat) (isLocal : Bool) : TeamDevice where
  id := uuid number
  workspaceId := uuid 0
  memberId := uuid member
  name := "Laptop"
  encryptionPublicKey := "x25519:" ++ token number
  signingPublicKey := "ed25519:" ++ token number
  fingerprint := deviceFingerprint vault.toPlatform (random number) (random number)
  isLocal
  status := .active

/-- The team of the owner at laptop 2 and a member at laptop 4, with the member's role and the epoch. -/
def team (role : Role) (keyEpoch : Int) : LocalDb where
  teamWorkspaces := Table.empty.put
    { id := uuid 0, name := "Team", localMemberId := uuid 1, keyEpoch, localDeviceId := some (uuid 2) }
  teamMembers :=
    (Table.empty.put
      { id := uuid 1, workspaceId := uuid 0, displayName := "Owner", role := .owner, status := .active }).put
      { id := uuid 3, workspaceId := uuid 0, displayName := "Member", role, status := .active }
  teamDevices := (Table.empty.put (laptop 2 1 true)).put (laptop 4 3 false)

@[simp] theorem parsesUuid_uuid (n : Nat) : vault.parsesUuid (uuid n) = true := by
  have valid := Relay.Demo.validateUuid_uuid n ""
  simp only [CNShell.validateUuid, ensure_eq_ok] at valid
  exact valid.2

@[simp] theorem validUuid_uuid (n : Nat) : validUuid vault.toPlatform (uuid n) = true := by
  have parses := parsesUuid_uuid n
  simp [validUuid, Relay.Demo.utf8ByteSize_uuid, parses]

variable {role : Role} {keyEpoch : Int} {desktop : Desktop}

theorem authorize_team (permission : TeamPermission) :
    authorize vault.toPlatform (uuid 0) permission (team role keyEpoch) =
      .ok ⟨uuid 1, .owner, keyEpoch, some (uuid 2)⟩ := by
  have owns : requirePermission .owner permission = .ok () :=
    ensure_of (by cases permission <;> decide) _
  simp [authorize, localMember, team, Table.find?_put, uuid_inj, owns, ensure]

theorem deviceMemberRole_owner :
    deviceMemberRole vault (uuid 0) (uuid 2) (team role keyEpoch) = .ok (uuid 1, .owner) := by
  simp [deviceMemberRole, team, laptop, Table.find?_put, uuid_inj, ensure]

/-- The room that the owner's laptop opens for a terminal session. -/
def hosted (keyEpoch : Int) : RoomState :=
  newRoom vault (draws 5) (uuid 0) "session" (uuid 1) (uuid 2) .owner keyEpoch

def desk (role : Role) (keyEpoch : Int) (room : RoomState) : Desktop where
  db := team role keyEpoch
  rooms := Table.empty.put room
  clientRooms := .empty

theorem exec_start :
    (start vault (draws 5) (uuid 0) "session").exec (hostSemantics vault)
        (.opened (team role keyEpoch)) =
      (.ok (hosted keyEpoch).view, desk role keyEpoch (hosted keyEpoch)) := by
  have named : "session" ≠ "" ∧ "session".utf8ByteSize ≤ 128 := by decide
  have fresh := newRoom_fresh vault (draws 5) (uuid 0) "session" (uuid 1) (uuid 2) .owner keyEpoch
  -- The checks pass one after another, down to the section that stores the room.
  rw [start, Program.exec_bind_ok (by rw [verify, Program.exec_lift, ensure_of named]),
    Program.exec_bind_ok (exec_authorized (authorize_team .shareManage)),
    Program.exec_bind_ok (show (verify (required _ _)).exec _ _ = (.ok (uuid 2), _) from rfl),
    Program.exec_bind_ok (exec_query deviceMemberRole_owner),
    Program.exec_bind_ok (by rw [verify, Program.exec_lift, ensure_of rfl])]
  rfl

variable {allowed : (β : Type) → HostAction β → Prop}

def Reached (allowed : (β : Type) → HostAction β → Prop) (desktop : Desktop) : Prop :=
  Pool.ReachedBy (hostSemantics vault)
    (fun program => ∃ call draws, program = HostCall.serve vault draws call)
    (fun opened => ∃ db, opened = .opened db) allowed ⟨desktop, []⟩

theorem Reached.call (reached : Reached allowed desktop) {call : HostCall} {draws : HostDraws}
    (only : (call.serve vault draws).Only allowed) :
    Reached allowed ((call.serve vault draws).exec (hostSemantics vault) desktop).2 :=
  Pool.ReachedBy.call reached ⟨call, draws, rfl⟩ only

/-- A room under the identifier 5 is reached, on the desktop of a team. -/
def Hosts (allowed : (β : Type) → HostAction β → Prop) (role : Role) (keyEpoch : Int)
    (room : RoomState) : Prop :=
  ∃ desktop, Reached allowed desktop ∧ desktop.db = team role keyEpoch ∧ desktop.rooms.find? (uuid 5) = some room

theorem hosts_hosted (role : Role) (keyEpoch : Int)
    (only : (HostCall.serve vault (draws 5) (.start (uuid 0) "session")).Only allowed) :
    Hosts allowed role keyEpoch (hosted keyEpoch) := by
  have opened : Reached allowed (.opened (team role keyEpoch)) :=
    ⟨[], .start ⟨⟨_, rfl⟩, rfl⟩, by simp⟩
  have started := opened.call only
  rw [HostCall.serve, Program.exec_discard, exec_start] at started
  refine ⟨_, started, rfl, ?_⟩
  rw [desk, Table.find?_put]
  exact if_pos rfl

def owner (keyEpoch : Int) : TeamAuthorization := ⟨uuid 1, .owner, keyEpoch, some (uuid 2)⟩

theorem Hosts.visit {room : RoomState} (hosts : Hosts allowed role keyEpoch room) {β : Type}
    (body : Visit β) {call : HostCall} {draws : HostDraws}
    (only : (call.serve vault draws).Only allowed)
    (serves : ∀ desktop : Desktop, desktop.db = team role keyEpoch →
      desktop.rooms.find? (uuid 5) = some room →
      ((call.serve vault draws).exec (hostSemantics vault) desktop).2 =
        ((enter (uuid 5) body).exec (hostSemantics vault) desktop).2) :
    Hosts allowed role keyEpoch (body.section vault room).2 := by
  obtain ⟨desktop, reached, team, found⟩ := hosts
  have called := reached.call only
  rw [serves desktop team found, exec_enter found] at called
  refine ⟨_, called, team, ?_⟩
  have named : room.id = uuid 5 := (Table.find?_some found).2
  rw [Table.find?_put, Visit.id_section, named]
  exact if_pos rfl

theorem exec_host {room : RoomState} (desktop : Desktop) (db : desktop.db = team role keyEpoch)
    (found : desktop.rooms.find? (uuid 5) = some room) (placed : room.workspaceId = uuid 0)
    {α : Type} (following : TeamAuthorization → Operation α) :
    (do
      let workspaceId ← workspaceOf (uuid 5)
      let authorization ← authorized vault workspaceId .shareManage
      following authorization : Operation α).exec (hostSemantics vault) desktop =
      (following (owner keyEpoch)).exec (hostSemantics vault) desktop := by
  have given : authorize vault.toPlatform room.workspaceId .shareManage desktop.db = .ok (owner keyEpoch) := by
    rw [placed, db]
    exact authorize_team .shareManage
  rw [Program.exec_bind_ok (exec_workspaceOf found), Program.exec_bind_ok (exec_authorized given)]

end Demo

end Client

end CNShell
