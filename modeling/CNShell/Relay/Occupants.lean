import Mathlib.Data.List.Dedup
import Mathlib.Data.List.Perm.Subperm
import CNShell.Relay.Writes

/-! Which devices are present in a room, and which may still join it. -/

namespace CNShell

namespace Relay

variable {db next : Db}

variable {roomId deviceId : String}

theorem mem_presentDevices :
    deviceId ∈ presentDevices roomId db ↔
      ∃ row, db.roomParticipants.find? (roomId, deviceId) = some row ∧ row.removedAt = none := by
  simp only [presentDevices, List.mem_map, List.mem_filter, decide_eq_true_eq]
  constructor
  · rintro ⟨row, ⟨held, rfl, here⟩, rfl⟩
    exact ⟨row, Table.find?_of_mem held, here⟩
  · rintro ⟨row, found, here⟩
    obtain ⟨held, keyed⟩ := Table.find?_some found
    simp only [RoomParticipant.key, Prod.mk.injEq] at keyed
    exact ⟨row, ⟨held, keyed.1, here⟩, keyed.2⟩

theorem mem_pendingDevices :
    deviceId ∈ pendingDevices roomId db ↔
      ∃ row, db.roomInvitations.find? (roomId, deviceId) = some row ∧ row.acceptedAt = none := by
  simp only [pendingDevices, List.mem_map, List.mem_filter, decide_eq_true_eq]
  constructor
  · rintro ⟨row, ⟨held, rfl, unused⟩, rfl⟩
    exact ⟨row, Table.find?_of_mem held, unused⟩
  · rintro ⟨row, found, unused⟩
    obtain ⟨held, keyed⟩ := Table.find?_some found
    simp only [RoomInvitation.key, Prod.mk.injEq] at keyed
    exact ⟨row, ⟨held, keyed.1, unused⟩, keyed.2⟩

theorem mem_occupants :
    deviceId ∈ occupants roomId db ↔ deviceId ∈ presentDevices roomId db ∨ deviceId ∈ pendingDevices roomId db := by
  rw [occupants, List.mem_dedup, List.mem_append]

theorem nodup_presentDevices (roomId : String) : (presentDevices roomId db).Nodup := by
  refine List.Nodup.map_on ?_ ((List.Nodup.of_map _ db.roomParticipants.unique).filter _)
  intro one first two second same
  simp only [List.mem_filter, decide_eq_true_eq] at first second
  refine Table.eq_of_key first.1 second.1 ?_
  rw [RoomParticipant.key, RoomParticipant.key, first.2.1, second.2.1, same]

theorem length_presentDevices_le (roomId : String) :
    (presentDevices roomId db).length ≤ (occupants roomId db).length :=
  (List.subperm_of_subset (nodup_presentDevices roomId) fun _ present =>
    mem_occupants.mpr (.inl present)).length_le

theorem length_occupants_le (fewer : ∀ deviceId ∈ occupants roomId next, deviceId ∈ occupants roomId db) :
    (occupants roomId next).length ≤ (occupants roomId db).length :=
  (List.subperm_of_subset (List.nodup_dedup _) fewer).length_le

theorem roomParticipants_ok (few : (presentDevices roomId db).length ≤ maxRoomParticipants) :
    ∃ participants, roomParticipants roomId db = .ok participants := by
  rw [presentDevices, List.length_map] at few
  refine ⟨_, bind_eq_ok.mpr ⟨(), ensure_eq_ok.mpr (le_trans (List.length_filterMap_le _ _) few), rfl⟩⟩

end Relay

end CNShell
