import CNShell.Relay.Occupants
import CNShell.Relay.Staffing

/-! Runs that take numbered devices into the owner's room. -/

namespace CNShell

namespace Relay

namespace Demo

/-- The participant with a number: the host is first, and the second may be away. -/
def participant (away : Bool) (n : Nat) : RoomParticipant where
  roomId := uuid 0
  memberId := uuid n
  deviceId := uuid n
  nextInputSequence := 1
  joinedAt := 0
  removedAt := if away ∧ n = 1 then some 0 else none

def zeros (n : Nat) : String := String.ofList (Base64.encode (List.replicate n 0))

/-- The host's invitation to its room for the device with a number. -/
def roomInvitation (joined n : Nat) : TeamTerminalInvitation where
  schemaVersion := 1
  roomId := uuid 0
  workspaceId := uuid 0
  keyEpoch := epoch false joined
  hostMemberId := uuid 0
  hostDeviceId := uuid 0
  recipientMemberId := uuid n
  recipientDeviceId := uuid n
  ephemeralPublicKey := "x25519:" ++ zeros 32
  keyNonce := zeros 12
  wrappedRoomKey := zeros 48
  replayFromSequence := 1
  nextInputSequence := 1
  createdAt := "1970-01-01T00:00:00+00:00"
  expiresAt := "1970-01-01T00:05:00+00:00"
  signature := some ("ed25519:" ++ zeros 64)

def storedInvitation (joined seated : Nat) (renewed : Bool) (n : Nat) : RoomInvitation :=
  { routedInvitation (uuid 0) (roomInvitation joined (n + 1)) 0 with
    acceptedAt := if n < seated ∧ ¬(renewed = true ∧ n = 0) then some 0 else none }

/--
The owner's room, in a workspace with some admins.

Some devices were invited, and the first of these joined. The first that joined may have left again,
and may have been invited again.
-/
structure Seated (joined invited seated : Nat) (away renewed : Bool) (db : Db) : Prop
    extends Staffed false (joined + 1) joined joined db where
  rooms : db.terminalRooms.rows = [room false joined]
  participants : db.roomParticipants.rows = (List.range (seated + 1)).map (participant away)
  routed : db.roomInvitations.rows = (List.range invited).map (storedInvitation joined seated renewed)

variable {db : Db} {joined invited seated : Nat} {away renewed : Bool}

namespace Seated

theorem find?_room (seat : Seated joined invited seated away renewed db) :
    db.terminalRooms.find? (uuid 0) = some (room false joined) :=
  Table.find?_eq_some.mpr ⟨seat.rooms ▸ List.mem_cons_self, rfl⟩

theorem find?_participant (seat : Seated joined invited seated away renewed db) {i : Nat}
    (inside : i ≤ seated) :
    db.roomParticipants.find? (uuid 0, uuid i) = some (participant away i) :=
  Table.find?_numbered seat.participants (Nat.lt_succ_of_le inside) rfl

theorem find?_invitation (seat : Seated joined invited seated away renewed db) {i : Nat}
    (inside : i < invited) :
    db.roomInvitations.find? (uuid 0, uuid (i + 1)) = some (storedInvitation joined seated renewed i) :=
  Table.find?_numbered seat.routed inside rfl

theorem hosts (seat : Seated joined invited seated away renewed db) :
    hostRoom (auth false joined 0) (uuid 0) db = .ok (TerminalRoom.view (room false joined)) := by
  refine hostRoom_ok seat.find?_room ?_
  have host := seat.find?_participant (Nat.zero_le _)
  simp only [participant, Nat.zero_ne_one, and_false, if_false] at host
  exact host

theorem presentDevices_eq (seat : Seated joined invited seated away renewed db) :
    presentDevices (uuid 0) db = ((List.range (seated + 1)).filter fun i => ¬(away = true ∧ i = 1)).map uuid := by
  rw [presentDevices, seat.participants, List.filter_map, List.map_map]
  have same : ((fun row : RoomParticipant => decide (row.roomId = uuid 0 ∧ row.removedAt = none)) ∘
      participant away) = fun i => decide (¬(away = true ∧ i = 1)) := by
    funext i
    simp [participant]
  rw [same]
  rfl

theorem occupants_subset (seat : Seated joined seated seated away false db) {deviceId : String}
    (occupant : deviceId ∈ occupants (uuid 0) db) : deviceId ∈ presentDevices (uuid 0) db := by
  rw [occupants, List.mem_dedup, List.mem_append] at occupant
  refine occupant.resolve_right fun pending => ?_
  simp only [pendingDevices, seat.routed, List.mem_map, List.mem_filter, List.mem_range, decide_eq_true_eq] at pending
  obtain ⟨_, ⟨⟨i, below, rfl⟩, -, unused⟩, -⟩ := pending
  simp [storedInvitation, below] at unused

theorem length_occupants (seat : Seated joined seated seated away false db)
    (second : away = true → 1 ≤ seated) :
    (occupants (uuid 0) db).length ≤ if away then seated else seated + 1 := by
  refine le_trans (List.subperm_of_subset (List.nodup_dedup _)
    fun _ => seat.occupants_subset).length_le ?_
  rw [seat.presentDevices_eq, List.length_map]
  cases away with
  | false => exact le_trans (List.length_filter_le _ _) (List.length_range).le
  | true =>
    rw [← List.countP_eq_length_filter]
    refine Eq.le (Eq.trans (List.countP_congr fun i _ => ?_) (countP_range_ne_one (second rfl)))
    simp

/-! ### Steps -/

/-- The host may invite the device of any member while there is place or it was invited before. -/
theorem route (seat : Seated joined invited seated away renewed db) (small : joined < 10000)
    {n : Nat} (inside : n ≤ joined)
    (place : (occupants (uuid 0) db).length < maxRoomParticipants ∨ alreadyInvited (uuid 0) (uuid n) db = .ok true) :
    Returns platform (Call.serve platform (draws 0) (.device (token 0)
      (.routeInvitation (uuid 0) (roomInvitation joined n)))) db ()
      (storeInvitation (uuid 0) (roomInvitation joined n) 0 db) := by
  have known := seat.authenticates small (Nat.zero_le _) (by simp)
  have decoded (k : Nat) : platform.decodeBase64Url (zeros k) = some (List.replicate k 0) := by
    show Base64.decode (String.ofList _).toList = _
    rw [String.toList_ofList, Base64.decode_encode]
  have shape : validateInvitationShape platform (roomInvitation joined n) 0 = .ok () := by
    have canonical : platform.canonicalInvitation (roomInvitation joined n) = some (utf8 (uuid n)) := rfl
    have short : (utf8 (uuid n)).length ≤ maxEnvelopeBytes := by
      rw [length_utf8, utf8ByteSize_uuid]
      decide
    have epochs : 1 ≤ epoch false joined := by
      simp only [epoch]
      omega
    have created : platform.parseRfc3339 "1970-01-01T00:00:00+00:00" = some 0 := rfl
    have expires : platform.parseRfc3339 "1970-01-01T00:05:00+00:00" = some (minutes 5) := rfl
    rw [validateInvitationShape, canonical, required_some, ok_bind,
      ensure_of ⟨short, rfl, epochs, show (1 : UInt64) ≠ 0 by decide⟩, ok_bind]
    simp only [roomInvitation, validateUuid_uuid, ok_bind, created, expires, required_some]
    rw [ensure_of (by decide), ok_bind]
    simp [decoded, ensure]
  have recipient := seat.find?_device inside
  have member := seat.find?_member inside
  have active : recipientIsActive (uuid 0) (uuid n) (uuid n) db = .ok true := by
    simp [recipientIsActive, recipient, storedDevice, registeredDevice, member, Demo.member, pure, Except.pure]
  have key : signingKey (uuid 0) db = .ok ("ed25519:" ++ token 0) := by
    simp [signingKey, seat.find?_device (Nat.zero_le _), storedDevice, registeredDevice, device]
  have signed : verifyInvitationSignature platform (roomInvitation joined n)
      ("ed25519:" ++ token 0) = .ok () := by
    have canonical : platform.canonicalInvitation { roomInvitation joined n with signature := none } =
      some (utf8 (uuid n)) := rfl
    have key : decodeSigningKey platform ("ed25519:" ++ token 0) = .ok (random 0) := by
      have valid : platform.validVerifyingKey (random 0) = true := by decide
      simp [decodeSigningKey, valid, ensure]
    have signature : decodeSignature platform (some ("ed25519:" ++ zeros 64)) = .ok (List.replicate 64 0) := by
      simp [decodeSignature, decoded, ensure]
    rw [verifyInvitationSignature, canonical, required_some, ok_bind, key, ok_bind]
    show (decodeSignature platform (some ("ed25519:" ++ zeros 64)) >>= _) = _
    rw [signature, ok_bind]
    rfl
  have room : db.hasRoom (uuid 0) = true := Option.isSome_iff_exists.mpr ⟨_, seat.find?_room⟩
  have device : db.hasDevice (uuid n) = true := Option.isSome_iff_exists.mpr ⟨_, recipient⟩
  have free : ∀ invited, alreadyInvited (uuid 0) (uuid n) db = .ok invited →
      ¬(maxRoomParticipants ≤ (occupants (uuid 0) db).length ∧ invited = false) := by
    rintro invited asked ⟨full, rfl⟩
    rcases place with free | again
    · omega
    · cases asked.symm.trans again
  exact .device rfl known (.check shape (.select seat.hosts (.check (ensure_of
    ⟨rfl, rfl, rfl, rfl, rfl⟩ _) (.select active (.check (ensure_of rfl _) (.select key
      (.check signed (.select rfl (.select rfl (.check (ensure_of (free _ rfl) _) (.last
        (upsertRoomInvitation_eq_ok.mpr ⟨room, device, rfl⟩))))))))))))

theorem enter (seat : Seated joined invited seated away renewed db) (small : joined < 10000)
    {n : Nat} (inside : n + 1 ≤ joined) (asked : n < invited)
    (unused : ¬(n < seated ∧ ¬(renewed = true ∧ n = 0))) :
    Returns platform (Call.serve platform (draws (n + 1))
      (.device (token (n + 1)) (.joinRoom (uuid 0)))) db ()
      (admitParticipant (auth false joined (n + 1)) (uuid 0) (roomInvitation joined (n + 1)) 0 db) := by
  have known := seat.authenticates small inside (by simp)
  have permitted : requireDevicePermission (auth false joined (n + 1)) .terminalView = .ok () := by
    rw [requireDevicePermission, requirePermission]
    exact ensure_of (Role.allows_terminalView _) _
  have early : platform.rfc3339 0 < "1970-01-01T00:05:00+00:00" := by decide
  have joins : (Action.joinRoom (auth false joined (n + 1)) (uuid 0) 0 0).run platform db =
      .ok (TerminalRoom.view (room false joined),
        admitParticipant (auth false joined (n + 1)) (uuid 0) (roomInvitation joined (n + 1)) 0 db) :=
    joinRoom_eq_ok.mpr ⟨_, _, seat.find?_room, seat.find?_invitation asked, if_neg unused, early,
      rfl, rfl, rfl, rfl, rfl, Option.isSome_iff_exists.mpr ⟨_, seat.find?_workspace⟩,
      Option.isSome_iff_exists.mpr ⟨_, seat.find?_member inside⟩,
      Option.isSome_iff_exists.mpr ⟨_, seat.find?_device inside⟩, rfl, rfl⟩
  exact .device rfl known (.discard (.check permitted (.perform joins
    (.bind .ignore_select (.done _)))))

theorem route_new (seat : Seated joined seated seated away false db) (small : joined < 10000)
    (inside : seated + 1 ≤ joined) (second : away = true → 1 ≤ seated)
    (place : (if away then seated else seated + 1) < maxRoomParticipants) :
    ∃ next, Returns platform (Call.serve platform (draws 0) (.device (token 0)
        (.routeInvitation (uuid 0) (roomInvitation joined (seated + 1))))) db () next ∧
      Seated joined (seated + 1) seated away false next := by
  refine ⟨_, seat.route small inside (.inl (lt_of_le_of_lt (seat.length_occupants second) place)),
    { seat with routed := ?_ }⟩
  have fresh : routedInvitation (uuid 0) (roomInvitation joined (seated + 1)) 0 =
      storedInvitation joined seated false seated := by
    simp [storedInvitation, routedInvitation]
  simp only [storeInvitation, fresh]
  refine Table.upsert_numbered seat.routed fun i below same => ?_
  have number := (uuid_inj (by omega) (by omega)).mp (congrArg Prod.snd same)
  omega

theorem route_again (seat : Seated joined invited seated away false db) (small : joined < 10000)
    (inside : 1 ≤ joined) (asked : 1 ≤ invited) (few : invited < 9999) :
    ∃ next, Returns platform (Call.serve platform (draws 0) (.device (token 0)
        (.routeInvitation (uuid 0) (roomInvitation joined 1)))) db () next ∧
      Seated joined invited seated away true next := by
  have held := seat.find?_invitation asked
  have again : alreadyInvited (uuid 0) (uuid 1) db = .ok true := by
    simp only [alreadyInvited, held]
    rfl
  have same : RoomInvitation.key (storedInvitation joined seated false 0) =
      RoomInvitation.key (routedInvitation (uuid 0) (roomInvitation joined 1) 0) := rfl
  refine ⟨_, seat.route small inside (.inr again), { seat with routed := ?_ }⟩
  simp only [storeInvitation]
  rw [Table.upsert_taken (Table.find?_some held).1 same]
  refine Table.update_numbered seat.routed fun i below => ?_
  have number : uuid (i + 1) = uuid 1 ↔ i = 0 := by
    rw [uuid_inj (by omega) (by omega)]
    omega
  rcases Nat.eq_zero_or_pos i with rfl | later
  · simp [storedInvitation, routedInvitation, roomInvitation, RoomInvitation.key]
  · simp [storedInvitation, routedInvitation, roomInvitation, RoomInvitation.key, number, later.ne']

theorem enter_new (seat : Seated joined (seated + 1) seated away renewed db) (small : joined < 9999)
    (inside : seated + 1 ≤ joined) (second : 1 ≤ seated ∨ (away = false ∧ renewed = false)) :
    ∃ next, Returns platform (Call.serve platform (draws (seated + 1))
        (.device (token (seated + 1)) (.joinRoom (uuid 0)))) db () next ∧
      Seated joined (seated + 1) (seated + 1) away renewed next := by
  refine ⟨_, seat.enter (by omega) inside (Nat.lt_succ_self _) fun used => ?_,
    { seat with participants := ?_, routed := ?_ }⟩
  · exact absurd used.1 (Nat.lt_irrefl _)
  · have fresh : joinedParticipant (auth false joined (seated + 1)) (uuid 0)
        (roomInvitation joined (seated + 1)) 0 = participant away (seated + 1) := by
      have present : ¬(away = true ∧ seated = 0) := by
        rcases second with later | ⟨rfl, -⟩ <;> simp
        omega
      simp [participant, joinedParticipant, auth, roomInvitation, asI64, present]
    simp only [admitParticipant, fresh]
    refine Table.upsert_numbered seat.participants fun i below same => ?_
    have number := (uuid_inj (by omega) (by omega)).mp (congrArg Prod.snd same)
    omega
  · refine Table.update_numbered seat.routed fun i below => ?_
    have number : uuid (i + 1) = uuid (seated + 1) ↔ i = seated := by
      rw [uuid_inj (by omega) (by omega)]
      omega
    have accepts : ¬(renewed = true ∧ seated = 0) := by
      rcases second with later | ⟨-, rfl⟩ <;> simp
      omega
    rcases Nat.lt_or_eq_of_le (Nat.le_of_lt_succ below) with before | rfl
    · simp [storedInvitation, routedInvitation, roomInvitation, auth, number, before, before.ne,
        Nat.lt_succ_of_lt before]
    · simp only [storedInvitation, routedInvitation, roomInvitation, auth]
      simpa using fun gone first => accepts ⟨gone, first⟩

theorem leave (seat : Seated joined invited seated false false db) (small : joined < 9999)
    (inside : seated ≤ joined) (second : 1 ≤ seated) :
    ∃ next, Returns platform (Call.serve platform (draws 1)
        (.device (token 1) (.leaveRoom (uuid 0)))) db () next ∧
      Seated joined invited seated true false next := by
  have known := seat.authenticates (by omega) (second.trans inside) (by simp)
  have others : uuid 0 ≠ uuid 1 := by
    rw [ne_eq, uuid_inj (by decide) (by decide)]
    decide
  have taking := seat.find?_participant second
  have authorized : authorizeRoom (auth false joined 1) (uuid 0) db = .ok (TerminalRoom.view (room false joined)) :=
    authorizeRoom_eq_ok.mpr ⟨_, _, seat.find?_room, taking, rfl, rfl, rfl, rfl, rfl, rfl⟩
  have leaves : ∃ revoked, (Action.leaveRoom (auth false joined 1) (uuid 0) 0).run platform db =
      .ok (revoked, dismissParticipant (auth false joined 1) (uuid 0) 0 db) :=
    ⟨_, leaveRoom_eq_ok.mpr ⟨_, taking, rfl, rfl, Option.isSome_iff_exists.mpr
      ⟨_, seat.find?_workspace⟩, Option.isSome_iff_exists.mpr
      ⟨_, seat.find?_member (second.trans inside)⟩, rfl, rfl⟩⟩
  obtain ⟨revoked, leaves⟩ := leaves
  refine ⟨_, .device rfl known (.check (validateUuid_uuid _ _) (.select authorized
    (.check (ensure_of others _) (.perform leaves .ignore_select)))),
    { seat with participants := ?_ }⟩
  refine Table.update_numbered seat.participants fun i below => ?_
  have number : uuid i = uuid 1 ↔ i = 1 := uuid_inj (by omega) (by decide)
  by_cases first : i = 1 <;> simp [participant, leaving, auth, number, first]

theorem come_back (seat : Seated joined invited seated true true db) (small : joined < 9999)
    (inside : seated ≤ joined) (second : 1 ≤ seated) (asked : seated ≤ invited)
    (few : invited ≤ joined) :
    ∃ next, Returns platform (Call.serve platform (draws 1)
        (.device (token 1) (.joinRoom (uuid 0)))) db () next ∧
      Seated joined invited seated false false next := by
  refine ⟨_, seat.enter (by omega) (second.trans inside) (by omega) (by simp),
    { seat with participants := ?_, routed := ?_ }⟩
  · have held := seat.find?_participant second
    have same : RoomParticipant.key (participant true 1) = RoomParticipant.key
      (joinedParticipant (auth false joined 1) (uuid 0) (roomInvitation joined 1) 0) := rfl
    simp only [admitParticipant]
    rw [Table.upsert_taken (Table.find?_some held).1 same]
    refine Table.update_numbered seat.participants fun i below => ?_
    have number : uuid i = uuid 1 ↔ i = 1 := uuid_inj (by omega) (by decide)
    by_cases first : i = 1 <;>
      simp [participant, joinedParticipant, RoomParticipant.key, auth, number, first]
  · refine Table.update_numbered seat.routed fun i below => ?_
    have number : uuid (i + 1) = uuid 1 ↔ i = 0 := by
      rw [uuid_inj (by omega) (by omega)]
      omega
    rcases Nat.eq_zero_or_pos i with rfl | later
    · simp [storedInvitation, routedInvitation, roomInvitation, auth]
      omega
    · simp [storedInvitation, routedInvitation, roomInvitation, auth, number, later.ne']

theorem roomParticipants_full (seat : Seated joined invited seated false renewed db)
    (inside : seated ≤ joined) (many : maxRoomParticipants < seated + 1) :
    roomParticipants (uuid 0) db = .error .internal := by
  let output (i : Nat) : TerminalParticipantOutput :=
    ⟨uuid i, uuid i, (member false i).role, 0⟩
  have announced : ((db.roomParticipants.rows.filter fun row =>
      row.roomId = uuid 0 ∧ row.removedAt = none).filterMap fun row => do
        let room ← db.terminalRooms.find? row.roomId
        let member ← db.members.find? row.memberId
        let device ← db.devices.find? row.deviceId
        if room.status = .active ∧ member.workspaceId = room.workspaceId ∧
            member.status = .active ∧ device.memberId = row.memberId ∧
            device.workspaceId = room.workspaceId ∧ device.status = .active then
          some (TerminalParticipantOutput.mk row.memberId row.deviceId member.role row.joinedAt)
        else none) = (List.range (seated + 1)).map output := by
    rw [List.filter_eq_self.mpr, seat.participants, List.filterMap_map]
    · rw [← List.filterMap_eq_map]
      refine List.filterMap_congr fun i member => ?_
      have held : i ≤ joined := by
        have := List.mem_range.mp member
        omega
      simp [participant, seat.find?_room, seat.find?_member held, seat.find?_device held, room,
        openedRoom, Demo.member, storedDevice, registeredDevice, device, auth, output]
    · intro row held
      simp only [seat.participants, List.mem_map] at held
      obtain ⟨i, -, rfl⟩ := held
      simp [participant]
  have crowded : ¬((List.range (seated + 1)).map output).length ≤ maxRoomParticipants := by
    rw [List.length_map, List.length_range]
    omega
  rw [roomParticipants, announced, ensure_of_not crowded, error_bind]

theorem welcome (seat : Seated joined seated seated false false db)
    (reached : Reached platform (fun _ _ => True) db []) (small : joined < 9999)
    (inside : seated + 1 ≤ joined) (place : seated + 1 < maxRoomParticipants) :
    ∃ next, Reached platform (fun _ _ => True) next [] ∧
      Seated joined (seated + 1) (seated + 1) false false next := by
  obtain ⟨asked, routes, seat⟩ := seat.route_new (by omega) inside (by simp) place
  obtain ⟨next, enters, seat⟩ := seat.enter_new small inside (.inr ⟨rfl, rfl⟩)
  exact ⟨next, (reached.call (.any _) routes).call (.any _) enters, seat⟩

end Seated

theorem reached_seated (inside : seated ≤ joined) (staff : joined < maxWorkspaceMembers)
    (place : seated < maxRoomParticipants) :
    ∃ db, Reached platform (fun _ _ => True) db [] ∧ Seated joined seated seated false false db := by
  have bound : joined < 256 := staff
  induction seated with
  | zero =>
    obtain ⟨db, reached, stage⟩ := reached_staffed staff
    obtain ⟨rooms, participants, roomRows, participantRows, opens⟩ := stage.open_room (by omega)
    refine ⟨_, (reached.weaken fun _ _ _ => trivial).call (.any _) opens,
      { stage with rooms := roomRows, participants := participantRows, routed := ?_ }⟩
    exact stage.roomInvitations
  | succ seated ih =>
    obtain ⟨db, reached, seat⟩ := ih (by omega) (by omega)
    exact seat.welcome reached (by omega) inside place

end Demo

end Relay

end CNShell
