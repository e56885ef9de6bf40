import CNShell.Relay.Record
import CNShell.Relay.Seating

/-! Runs in which the owner sends output frames of its room. -/

namespace CNShell

namespace Relay

namespace Demo

/-- What a request draws when the clock shows one time and then another. -/
def clocked (first second : Instant) : Draws := { draws 0 with clock := fun n => if n = 0 then first else second }

def outputFrame (n : Nat) : TeamTerminalEncryptedFrame where
  schemaVersion := 1
  workspaceId := uuid 0
  roomId := uuid 0
  keyEpoch := epoch false 0
  senderMemberId := uuid 0
  senderDeviceId := uuid 0
  direction := "output"
  kind := "terminal"
  sequence := UInt64.ofNat n
  leaseId := none
  leaseGeneration := 0
  nonce := zeros 12
  ciphertext := zeros 17
  signature := some ("ed25519:" ++ zeros 64)

def outputRow (n : Nat) (createdAt : Instant) : RelayFrame := storedFrame platform (outputFrame n) createdAt

/-- The owner alone in its room, after some output, with some frames stored. -/
structure Hosted (sent : Nat) (frames : List RelayFrame) (db : Db) : Prop
    extends Staffed false 1 0 0 db where
  opened : db.terminalRooms.find? (uuid 0) = some { room false 0 with nextOutputSequence := (sent + 1 : Nat) }
  host : db.roomParticipants.find? (uuid 0, uuid 0) = some (hostParticipant (auth false 0 0) (uuid 0) 0)
  stored : roomFrames (uuid 0) db = frames

variable {db : Db} {sent : Nat} {frames : List RelayFrame}

theorem reached_hosted : ∃ db, Reached platform (fun _ _ => True) db [] ∧ Hosted 0 [] db := by
  obtain ⟨db, reached, stage⟩ := reached_founded
  obtain ⟨rooms, participants, roomRows, participantRows, opens⟩ := stage.open_room (by decide)
  refine ⟨_, (reached.weaken fun _ _ _ => trivial).call (.any _) opens, { stage with
    opened := ?_, host := ?_, stored := ?_ }⟩
  · exact Table.find?_eq_some.mpr ⟨roomRows ▸ List.mem_cons_self, rfl⟩
  · exact Table.find?_eq_some.mpr ⟨participantRows ▸ List.mem_cons_self, rfl⟩
  · simp [roomFrames, stage.relayFrames]

theorem validateFrameShape_outputFrame (numbered : UInt64.ofNat n ≠ 0) :
    validateFrameShape platform (outputFrame n) = .ok () := by
  have decoded (k : Nat) : platform.decodeBase64Url (zeros k) = some (List.replicate k 0) := by
    show Base64.decode (String.ofList _).toList = _
    rw [String.toList_ofList, Base64.decode_encode]
  have canonical : platform.canonicalFrame (outputFrame n) = some (utf8 (zeros 17)) := rfl
  have short : (utf8 (zeros 17)).length ≤ maxEnvelopeBytes := by decide
  rw [validateFrameShape, canonical, required_some, ok_bind, ensure_of ⟨short, rfl, numbered, rfl⟩, ok_bind]
  simp only [outputFrame, validateUuid_uuid, ok_bind, decoded, required_some]
  exact ensure_of (by decide) _

theorem verifyFrameSignature_outputFrame (n : Nat) :
    verifyFrameSignature platform (outputFrame n) ("ed25519:" ++ token 0) = .ok () := by
  have decoded : platform.decodeBase64Url (zeros 64) = some (List.replicate 64 0) := by
    show Base64.decode (String.ofList _).toList = _
    rw [String.toList_ofList, Base64.decode_encode]
  have canonical : platform.canonicalFrame { outputFrame n with signature := none } = some (utf8 (zeros 17)) := rfl
  have key : decodeSigningKey platform ("ed25519:" ++ token 0) = .ok (random 0) := by
    have valid : platform.validVerifyingKey (random 0) = true := by decide
    simp [decodeSigningKey, valid, ensure]
  have signature : decodeSignature platform (some ("ed25519:" ++ zeros 64)) = .ok (List.replicate 64 0) := by
    simp [decodeSignature, decoded, ensure]
  rw [verifyFrameSignature, canonical, required_some, ok_bind, key, ok_bind]
  show (decodeSignature platform (some ("ed25519:" ++ zeros 64)) >>= _) = _
  rw [signature, ok_bind]
  rfl

/-- The owner sends the next frame, at whatever times the clock shows. -/
theorem Hosted.send (hosted : Hosted sent frames db) (few : sent + 1 < 2 ^ 63)
    (below : ∀ frame ∈ frames, frame.sequence ≤ sent) (now prunedAt : Instant) :
    ∃ next, Returns platform (Call.serve platform (clocked now prunedAt)
        (.device (token 0) (.processFrame (outputFrame (sent + 1))))) db () next ∧
      Hosted (sent + 1) (prunedFrames prunedAt (frames ++ [outputRow (sent + 1) now])) next := by
  have known := hosted.authenticates (by decide) (Nat.le_refl 0) (by simp)
  have authorized : authorizeRoom (auth false 0 0) (uuid 0) db = .ok (TerminalRoom.view (room false 0)) :=
    authorizeRoom_eq_ok.mpr ⟨_, _, hosted.opened, hosted.host, rfl, rfl, rfl, rfl, rfl, rfl⟩
  have key : signingKey (uuid 0) db = .ok ("ed25519:" ++ token 0) := by
    simp [signingKey, hosted.find?_device (Nat.le_refl 0), storedDevice, registeredDevice, device]
  have word : (UInt64.ofNat (sent + 1)).toNat = sent + 1 := by
    rw [UInt64.toNat_ofNat']
    omega
  have numbered : UInt64.ofNat (sent + 1) ≠ 0 := by
    intro zero
    rw [zero] at word
    simp at word
  have number : asI64 (UInt64.ofNat (sent + 1)) = (sent + 1 : Nat) := by
    rw [asI64, if_pos (by omega), word]
  have fits : InI64 ((sent + 1 : Nat) : Int) := by
    unfold InI64
    omega
  have expected : UInt64.ofNat (sent + 1) = asU64 ((sent + 1 : Nat) : Int) := by
    rw [← number, asU64_asI64]
  -- The number of the frame is new, so its row can be stored.
  obtain ⟨grown, inserted⟩ : ∃ grown, db.relayFrames.insert (outputRow (sent + 1) now) = some grown := by
    cases done : db.relayFrames.insert (outputRow (sent + 1) now) with
    | some grown => exact ⟨grown, rfl⟩
    | none =>
      obtain ⟨held, member, same⟩ := Table.insert_eq_none.mp done
      have own : held ∈ frames := by
        rw [← hosted.stored]
        exact List.mem_filter.mpr ⟨member, decide_eq_true (congrArg Prod.fst same)⟩
      have taken : held.sequence = asI64 (UInt64.ofNat (sent + 1)) := congrArg Prod.snd same
      have bound := below held own
      omega
  have commits : (Action.commitFrame (auth false 0 0) (TerminalRoom.view (room false 0))
      (outputFrame (sent + 1)) now prunedAt).run platform db = .ok ((), pruneReplay (uuid 0) prunedAt
        { raiseOutput (uuid 0) (sent + 1 : Nat) db with relayFrames := grown }) :=
    acceptOutput_eq_ok.mpr ⟨rfl, rfl, rfl, rfl, _, grown, hosted.opened, rfl, fits, expected, inserted, rfl⟩
  refine ⟨_, .device rfl known (.check (validateFrameShape_outputFrame numbered) (.check
    (ensure_of ⟨rfl, rfl, rfl, rfl⟩ _) (.select authorized (.select key (.check
      (verifyFrameSignature_outputFrame _) (.last commits)))))), { hosted with
        opened := ?_, host := ?_, stored := ?_ }⟩
  · refine Table.find?_update.trans ?_
    rw [hosted.opened]
    simp [room, openedRoom]
  · exact hosted.host
  · refine (roomFrames_pruneReplay _ _ _).trans (congrArg (prunedFrames prunedAt) ?_)
    refine (filter_insert inserted).trans ?_
    rw [← hosted.stored]
    simp [roomFrames, outputRow, storedFrame, outputFrame]

end Demo

end Relay

end CNShell
