import CNShell.Library.Timestamps
import CNShell.Relay.Seating

/-! When an invitation to a room expires: its text against the relay's text of the current time. -/

namespace CNShell

namespace Relay

open Timestamps

/-- How the relay writes the current time: in UTC, with the letter `T` and at most nine digits. -/
structure Written (now : Timestamp) : Prop where
  mark : now.mark = 'T'
  zone : now.zone = .plain
  fraction : now.fraction.length ≤ 9

/-- A device's invitation to an open room that it has not accepted, with all that joining needs but the time. -/
structure Pending (auth : DeviceAuth) (roomId : String) (row : RoomInvitation) (db : Db) : Prop where
  stored : db.roomInvitations.find? (roomId, auth.deviceId) = some row
  unused : row.acceptedAt = none
  room : ∃ room, db.terminalRooms.find? roomId = some room ∧ room.workspaceId = auth.workspaceId ∧
    room.keyEpoch = auth.keyEpoch ∧ room.status = .active
  recipient : row.envelope.recipientMemberId = auth.memberId ∧ row.envelope.recipientDeviceId = auth.deviceId
  known : db.hasWorkspace auth.workspaceId = true ∧ db.hasMember auth.memberId = true ∧
    db.hasDevice auth.deviceId = true

def Offered (platform : Platform) (auth : DeviceAuth) (roomId : String) (row : RoomInvitation) (now : Instant)
    (db : Db) : Prop :=
  ∃ offers, listInvitations platform auth now db = .ok offers ∧ ⟨roomId, row.envelope⟩ ∈ offers

/-- Whether the device can join. -/
def Accepted (platform : Platform) (auth : DeviceAuth) (roomId : String) (now joinedAt : Instant) (db : Db) : Prop :=
  ∃ view next, joinRoom platform auth roomId now joinedAt db = .ok (view, next)

/-- The invitation is offered and accepted exactly before an instant. -/
def Timely (platform : Platform) (auth : DeviceAuth) (roomId : String) (row : RoomInvitation)
    (now joinedAt expires : Instant) (db : Db) : Prop :=
  (Offered platform auth roomId row now db ↔ now < expires) ∧
    (Accepted platform auth roomId now joinedAt db ↔ now < expires)

/-- When the texts of the current time and of an expiry compare as their instants do; after the year 9999 every
invitation counts as open. -/
def Trusted (now expires : Timestamp) : Prop :=
  if now.date.year < 10000 then now.Judged expires else now.instant < expires.instant

section Rules

variable {platform : Platform} {auth : DeviceAuth} {roomId : String} {row : RoomInvitation} {db : Db}

theorem Pending.offered_iff (pending : Pending auth roomId row db) (now : Instant) :
    Offered platform auth roomId row now db ↔ platform.rfc3339 now < row.expiresAt := by
  obtain ⟨room, found, workspace, epoch, active⟩ := pending.room
  obtain ⟨member, key⟩ := Table.find?_eq_some.mp pending.stored
  obtain ⟨rfl, device⟩ := Prod.mk.inj key
  simp only [Offered, listInvitations, pure_eq_ok, exists_eq_left', List.mem_map, List.mem_mergeSort, List.mem_filter,
    decide_eq_true_eq, RoutedRoomInvitation.mk.injEq]
  constructor
  · rintro ⟨other, ⟨stored, own, -, fresh, -⟩, same, -⟩
    -- No other row is for this room and device.
    have twin : other = row := Table.eq_of_key stored member
      (by rw [RoomInvitation.key, RoomInvitation.key, same, own, device])
    exact twin ▸ fresh
  · intro fresh
    refine ⟨row, ⟨member, device, pending.unused, fresh, ?_⟩, rfl, rfl⟩
    rw [found]
    simp [workspace, epoch, active]

theorem Pending.accepted_iff (pending : Pending auth roomId row db) (now joinedAt : Instant) :
    Accepted platform auth roomId now joinedAt db ↔ platform.rfc3339 now < row.expiresAt := by
  obtain ⟨room, found, workspace, epoch, active⟩ := pending.room
  constructor
  · rintro ⟨view, next, joined⟩
    obtain ⟨_, other, -, stored, -, fresh, -⟩ := joinRoom_eq_ok.mp joined
    obtain rfl := Option.some.inj (stored.symm.trans pending.stored)
    exact fresh
  · intro fresh
    exact ⟨_, _, joinRoom_eq_ok.mpr ⟨room, row, found, pending.stored, pending.unused, fresh, workspace, epoch, active,
      pending.recipient.1, pending.recipient.2, pending.known.1, pending.known.2.1, pending.known.2.2, rfl, rfl⟩⟩

end Rules

/-- An invitation that is pending is offered and accepted exactly before its instant where the two texts can be
trusted. -/
theorem invitation_timely_iff (platform : Platform) (auth : DeviceAuth) (roomId : String) (row : RoomInvitation)
    (joinedAt : Instant) (db : Db) (pending : Pending auth roomId row db) (now expires : Timestamp)
    (written : Written now) (clock : platform.rfc3339 now.instant = now.text) (spelled : row.expiresAt = expires.text)
    (small : expires.date.year < 10000) :
    Timely platform auth roomId row now.instant joinedAt expires.instant db ↔ Trusted now expires := by
  rw [Timely, pending.offered_iff, pending.accepted_iff, and_self, clock, spelled, Trusted]
  split
  next early =>
    rw [Timestamp.text_lt_iff early small written.mark written.zone]
    exact Timestamp.ahead_iff_judged written.zone written.fraction
  next late =>
    rw [iff_true_left (Timestamp.text_lt_of_large (Nat.not_lt.mp late) small)]

namespace Demo

def epochDay : Date := ⟨1970, 1, 1, by decide, by decide⟩

/-- `1970-01-01T00:05:00+00:00`, as a host in China writes it. -/
def abroad : Timestamp := ⟨epochDay, 'T', ⟨8, 5, 0, by decide⟩, [], .offset false 8 0 (by decide), .inl rfl⟩

def minuteSix : Timestamp := ⟨epochDay, 'T', ⟨0, 6, 0, by decide⟩, [], .plain, .inl rfl⟩

/-- The platform with the times of a run. -/
def atMinuteSix : Platform :=
  { platform with
    parseRfc3339 := fun text => if text = abroad.text then some abroad.instant else platform.parseRfc3339 text
    rfc3339 := fun instant => if instant = minuteSix.instant then minuteSix.text else platform.rfc3339 instant }

def abroadInvitation : TeamTerminalInvitation := { roomInvitation 1 1 with expiresAt := abroad.text }

/-- The invited device in the owner's workspace, when the invitation was routed. -/
def invitedDb : Db :=
  { Db.empty with
    workspaces := ⟨[workspace (epoch false 1)], by simp⟩
    members := ⟨[member false 0, member false 1], by decide⟩
    devices := ⟨[storedDevice false 0, storedDevice false 1], by decide⟩
    terminalRooms := ⟨[room false 1], by simp⟩
    roomInvitations := ⟨[routedInvitation (uuid 0) abroadInvitation 0], by simp⟩ }

theorem abroad_instant : abroad.instant = minutes 5 := by decide

theorem minuteSix_instant : minuteSix.instant = minutes 6 := by decide

theorem invited_pending : Pending (auth false 1 1) (uuid 0)
    (routedInvitation (uuid 0) abroadInvitation 0) invitedDb where
  stored := Table.find?_eq_some.mpr ⟨List.mem_singleton.mpr rfl, rfl⟩
  unused := rfl
  room := ⟨room false 1, Table.find?_eq_some.mpr ⟨List.mem_singleton.mpr rfl, rfl⟩, rfl, rfl, rfl⟩
  recipient := ⟨rfl, rfl⟩
  known := ⟨Option.isSome_iff_exists.mpr ⟨_, Table.find?_eq_some.mpr ⟨List.mem_singleton.mpr rfl, rfl⟩⟩,
    Option.isSome_iff_exists.mpr ⟨member false 1, Table.find?_eq_some.mpr
      ⟨List.mem_cons_of_mem _ (List.mem_singleton.mpr rfl), rfl⟩⟩,
    Option.isSome_iff_exists.mpr ⟨storedDevice false 1, Table.find?_eq_some.mpr
      ⟨List.mem_cons_of_mem _ (List.mem_singleton.mpr rfl), rfl⟩⟩⟩

theorem minuteSix_written : Written minuteSix := ⟨rfl, rfl, by decide⟩

theorem abroad_parsed : atMinuteSix.parseRfc3339 abroad.text = some abroad.instant := by
  simp only [atMinuteSix, if_true]

theorem minuteSix_clock : atMinuteSix.rfc3339 minuteSix.instant = minuteSix.text := by
  simp only [atMinuteSix, if_true]

theorem abroad_accepted : validateInvitationShape atMinuteSix abroadInvitation 0 = .ok () := by
  have decoded (k : Nat) : atMinuteSix.decodeBase64Url (zeros k) = some (List.replicate k 0) := by
    simp only [atMinuteSix, platform, zeros, String.toList_ofList, Base64.decode_encode]
  have uuids (n : Nat) (field : String) : validateUuid atMinuteSix (uuid n) field = .ok () := by
    -- The two platforms read identifiers alike.
    have same := validateUuid_uuid n field
    rw [validateUuid] at same ⊢
    exact same
  have canonical : atMinuteSix.canonicalInvitation abroadInvitation = some (utf8 (uuid 1)) := rfl
  have short : (utf8 (uuid 1)).length ≤ maxEnvelopeBytes := by
    rw [length_utf8, utf8ByteSize_uuid]
    decide
  have created : atMinuteSix.parseRfc3339 "1970-01-01T00:00:00+00:00" = some 0 := by
    have other : "1970-01-01T00:00:00+00:00" ≠ abroad.text := by decide
    simp only [atMinuteSix, other, if_false]
    rfl
  have expires : atMinuteSix.parseRfc3339 abroad.text = some (minutes 5) := by rw [abroad_parsed, abroad_instant]
  rw [validateInvitationShape, canonical, required_some, ok_bind,
    ensure_of ⟨short, rfl, by decide, show (1 : UInt64) ≠ 0 by decide⟩, ok_bind]
  simp only [abroadInvitation, roomInvitation, uuids, ok_bind, created, expires, required_some]
  rw [ensure_of (by decide), ok_bind]
  simp [decoded, ensure]

/-- The invitation is still open after its instant, because its digits are those of a later time. -/
theorem abroad_outlives_instant : ¬ ∀ (platform : Platform) (auth : DeviceAuth) (roomId : String)
    (row : RoomInvitation) (routedAt joinedAt : Instant) (db : Db) (now expires : Timestamp),
    validateInvitationShape platform row.envelope routedAt = .ok () → row.expiresAt = row.envelope.expiresAt →
      Pending auth roomId row db → Written now → platform.rfc3339 now.instant = now.text →
        row.expiresAt = expires.text → platform.parseRfc3339 expires.text = some expires.instant →
          Timely platform auth roomId row now.instant joinedAt expires.instant db := by
  intro all
  have timely := all atMinuteSix (auth false 1 1) (uuid 0) (routedInvitation (uuid 0) abroadInvitation 0) 0 0 invitedDb
    minuteSix abroad abroad_accepted rfl invited_pending minuteSix_written minuteSix_clock rfl abroad_parsed
  have offered := timely.1.mp ((invited_pending.offered_iff _).mpr (by
    rw [minuteSix_clock]
    decide))
  rw [abroad_instant, minuteSix_instant] at offered
  exact absurd offered (by decide)

/-- The relay judges that invitation by its digits. -/
theorem invitation_timely_iff_abroad :
    Timely atMinuteSix (auth false 1 1) (uuid 0) (routedInvitation (uuid 0) abroadInvitation 0) minuteSix.instant 0
      abroad.instant invitedDb ↔ Trusted minuteSix abroad :=
  invitation_timely_iff atMinuteSix (auth false 1 1) (uuid 0) (routedInvitation (uuid 0) abroadInvitation 0) 0 invitedDb
    invited_pending minuteSix abroad minuteSix_written minuteSix_clock rfl (by decide)

end Demo

end Relay

end CNShell
