import CNShell.Library.Log
import CNShell.Relay.Replay

/-! The frames and leases a room accepts in a run: their numbers, in order, and what covers an input. -/

namespace CNShell

namespace Relay

variable {platform : Platform} {db next : Db} {roomId deviceId : String}

/-! ### Logs -/

/-- The room that an action opened. -/
def Entry.opens : Entry → Option String
  | (_, ⟨.createRoom _ input _, .ok _⟩) => some input.roomId
  | _ => none

/-- The number of the output frame that an action accepted for a room. -/
def Entry.output (roomId : String) : Entry → Option UInt64
  | (_, ⟨.commitFrame _ _ frame _ _, .ok _⟩) =>
      if frame.roomId = roomId ∧ frame.direction = "output" then some frame.sequence else none
  | _ => none

def Entry.input (roomId deviceId : String) : Entry → Option UInt64
  | (_, ⟨.commitFrame _ _ frame _ _, .ok _⟩) =>
      if frame.roomId = roomId ∧ frame.senderDeviceId = deviceId ∧ frame.direction = "input" then
        some frame.sequence
      else none
  | _ => none

def Entry.grant (roomId : String) : Entry → Option UInt64
  | (_, ⟨.grantControl _ granting _ _ _ _, .ok lease⟩) =>
      if granting = roomId then some lease.generation else none
  | _ => none

def sinceOpened (roomId : String) (read : Entry → Option UInt64) (log : List Entry) : List Nat :=
  ((log.rtakeWhile fun entry => !decide (entry.opens = some roomId)).filterMap read).map UInt64.toNat

section Log

variable {read : Entry → Option UInt64} {log : List Entry} {entry : Entry}

theorem sinceOpened_eq :
    sinceOpened roomId read log = (Log.readSince Entry.opens roomId read log).map UInt64.toNat := rfl

theorem sinceOpened_opens (opens : entry.opens = some roomId) : sinceOpened roomId read (log ++ [entry]) = [] := by
  rw [sinceOpened_eq, Log.readSince_opens opens, List.map_nil]

theorem sinceOpened_quiet (opens : entry.opens ≠ some roomId) (quiet : read entry = none) :
    sinceOpened roomId read (log ++ [entry]) = sinceOpened roomId read log := by
  rw [sinceOpened_eq, Log.readSince_quiet opens quiet, sinceOpened_eq]

theorem sinceOpened_read (opens : entry.opens ≠ some roomId) {number : UInt64}
    (found : read entry = some number) :
    sinceOpened roomId read (log ++ [entry]) = sinceOpened roomId read log ++ [number.toNat] := by
  rw [sinceOpened_eq, Log.readSince_read opens found, List.map_append, sinceOpened_eq]
  rfl

end Log

theorem quiet_elsewhere {β : Type} {action : Action β} {value : β}
    (elsewhere : action.subject ≠ some roomId) :
    Entry.opens (db, ⟨action, .ok value⟩) ≠ some roomId ∧
      Entry.output roomId (db, ⟨action, .ok value⟩) = none ∧
      Entry.input roomId deviceId (db, ⟨action, .ok value⟩) = none ∧
      Entry.grant roomId (db, ⟨action, .ok value⟩) = none := by
  cases action <;> simp_all [Action.subject, Entry.opens, Entry.output, Entry.input, Entry.grant]

variable {β : Type}

theorem opens_failed (action : Action β) (error : RelayError) (roomId : String) :
    Entry.opens (db, ⟨action, .error error⟩) ≠ some roomId := by
  cases action <;> exact (Option.some_ne_none roomId).symm

theorem quiet_failed {β : Type} (action : Action β) (error : RelayError) :
    Entry.output roomId (db, ⟨action, .error error⟩) = none ∧
      Entry.input roomId deviceId (db, ⟨action, .error error⟩) = none ∧
      Entry.grant roomId (db, ⟨action, .error error⟩) = none := by
  cases action <;> exact ⟨rfl, rfl, rfl⟩

/-! ### Outputs -/

def OutputsCounted (roomId : String) (log : List Entry) (record : RoomRecord) : Prop :=
  ∃ next, Consecutive (fun number : Nat => (number : Int)) 1
      (sinceOpened roomId (Entry.output roomId) log) next ∧
    ∀ room, record.room = some room → room.nextOutputSequence = next

variable {after : RoomRecord}

theorem OutputsCounted.quiet {log : List Entry} {record : RoomRecord} {entry : Entry}
    (counted : OutputsCounted roomId log record) (opens : entry.opens ≠ some roomId)
    (quiet : entry.output roomId = none) (rooms : ∀ room, after.room = some room → ∃ old, record.room = some old ∧
      room.nextOutputSequence = old.nextOutputSequence) : OutputsCounted roomId (log ++ [entry]) after := by
  obtain ⟨next, window, ends⟩ := counted
  refine ⟨next, ?_, fun room stored => ?_⟩
  · rw [sinceOpened_quiet opens quiet]
    exact window
  · obtain ⟨old, held, same⟩ := rooms room stored
    rw [same, ends old held]

variable {value : β} {action : Action β}

/-- A step keeps the outputs of a room counted. -/
theorem OutputsCounted.step {log : List Entry} {record : RoomRecord} (counted : OutputsCounted roomId log record)
    (step : RoomStep platform roomId action record after) :
    OutputsCounted roomId (log ++ [(db, ⟨action, .ok value⟩)]) after := by
  cases step with
  | kept elsewhere =>
    obtain ⟨opens, quiet, -⟩ := @quiet_elsewhere db roomId "" _ _ value elsewhere
    exact counted.quiet opens quiet fun room held => ⟨room, held, rfl⟩
  | dropped elsewhere =>
    obtain ⟨opens, quiet, -⟩ := @quiet_elsewhere db roomId "" _ _ value elsewhere
    exact counted.quiet opens quiet fun room held => by cases held
  | closed elsewhere stored active now =>
    obtain ⟨opens, quiet, -⟩ := @quiet_elsewhere db roomId "" _ _ value elsewhere
    exact counted.quiet opens quiet fun room same => ⟨_, stored, by rw [← Option.some.inj same]; rfl⟩
  | @opened auth input now _ same =>
    have opens : Entry.opens (db, ⟨.createRoom auth input now, .ok value⟩) = some roomId :=
      congrArg some same
    refine ⟨1, ?_, fun room stored => ?_⟩
    · rw [sinceOpened_opens opens]
      exact .nil 1
    · rw [← Option.some.inj stored]
      rfl
  | joined | left =>
    exact counted.quiet (by simp [Entry.opens]) rfl fun room held => ⟨room, held, rfl⟩
  | granted stored active fits =>
    exact counted.quiet (by simp [Entry.opens]) rfl fun room same =>
      ⟨_, stored, by rw [← Option.some.inj same]⟩
  | revoked => exact counted.quiet (by simp [Entry.opens]) rfl fun room held => ⟨room, held, rfl⟩
  | shut =>
    refine counted.quiet (by simp [Entry.opens]) rfl fun room changed => ?_
    obtain ⟨old, held, rfl⟩ := Option.map_eq_some_iff.mp changed
    refine ⟨old, held, ?_⟩
    split
    · rfl
    · rfl
  | input same direction taking own present fits expected held covers =>
    refine counted.quiet (by simp [Entry.opens]) ?_ fun room held => ⟨room, held, rfl⟩
    simp [Entry.output, direction]
  | @output auth view frame now prunedAt _ room same direction stored active fits expected =>
    obtain ⟨next, window, ends⟩ := counted
    have opens : Entry.opens (db, ⟨.commitFrame auth view frame now prunedAt, .ok value⟩) ≠
      some roomId := by simp [Entry.opens]
    have read : Entry.output roomId (db, ⟨.commitFrame auth view frame now prunedAt, .ok value⟩) =
      some frame.sequence := if_pos ⟨same, direction⟩
    -- The count is positive and fits, so the accepted number is the next one.
    have positive := window.next_eq
    have number : ((frame.sequence.toNat : Nat) : Int) = next := by
      rw [expected, ends room stored, toNat_asU64_of_nonneg (by omega)]
      have limit := fits.2
      rw [ends room stored] at limit
      omega
    refine ⟨next + 1, ?_, fun other changed => ?_⟩
    · rw [sinceOpened_read opens read]
      exact window.snoc number
    · rw [← Option.some.inj changed, ends room stored]

/-! ### Inputs -/

/-- The accepted inputs of a device are consecutive, and its participant awaits the one after. -/
structure InputsCounted (roomId deviceId : String) (log : List Entry) (record : RoomRecord) : Prop where
  window : ∃ first next, Consecutive (fun number : Nat => (number : Int)) first
    (sinceOpened roomId (Entry.input roomId deviceId) log) next
  awaits : ∀ room last, record.room = some room →
    (sinceOpened roomId (Entry.input roomId deviceId) log).getLast? = some last →
    ∃ row word, record.participant deviceId = some row ∧ UInt64.toNat word = last ∧
      row.nextInputSequence = asI64 word + 1

theorem InputsCounted.quiet {log : List Entry} {record : RoomRecord} {entry : Entry}
    (counted : InputsCounted roomId deviceId log record) (opens : entry.opens ≠ some roomId)
    (quiet : entry.input roomId deviceId = none)
    (rooms : ∀ room, after.room = some room → ∃ old, record.room = some old)
    (rows : ∀ old, after.room ≠ none → record.participant deviceId = some old →
      ∃ row, after.participant deviceId = some row ∧
        row.nextInputSequence = old.nextInputSequence) : InputsCounted roomId deviceId (log ++ [entry]) after := by
  obtain ⟨window, awaits⟩ := counted
  constructor
  · rw [sinceOpened_quiet opens quiet]
    exact window
  · intro room last stored final
    rw [sinceOpened_quiet opens quiet] at final
    obtain ⟨old, held⟩ := rooms room stored
    obtain ⟨row, word, taking, number, next⟩ := awaits old last held final
    obtain ⟨kept, taken, same⟩ := rows row (by simp [stored]) taking
    exact ⟨kept, word, taken, number, same.trans next⟩

theorem participant_set {record : RoomRecord} {setting : String} {old row : RoomParticipant}
    (taking : record.participant deviceId = some old)
    (same : setting = deviceId → row.nextInputSequence = old.nextInputSequence) :
    ∃ kept, (record.setParticipant setting (some row)).participant deviceId = some kept ∧
      kept.nextInputSequence = old.nextInputSequence := by
  by_cases own : deviceId = setting
  · exact ⟨row, if_pos own, same own.symm⟩
  · exact ⟨old, (if_neg own).trans taking, rfl⟩

theorem toNat_after {word next : UInt64} (after : next = asU64 (asI64 word + 1)) (positive : next ≠ 0) :
    next.toNat = word.toNat + 1 := by
  have limit : word.toNat < 2 ^ 64 := word.toNat_lt
  have read := @toNat_asU64_succ (asI64 word)
  rw [asU64_asI64] at read
  rcases Nat.lt_or_ge (word.toNat + 1) (2 ^ 64) with room | full
  · rw [after]
    exact read room
  · -- The largest word is minus one as a signed number, so zero would follow.
    have largest : asI64 word = -1 := by
      unfold asI64
      split <;> omega
    rw [largest] at after
    exact absurd after positive

/-- A step that commits checked frames only keeps the inputs of a device counted. -/
theorem InputsCounted.step {log : List Entry} {record : RoomRecord} (counted : InputsCounted roomId deviceId log record)
    (checked : FramesChecked platform β action) (housed : record.Housed)
    (step : RoomStep platform roomId action record after) :
    InputsCounted roomId deviceId (log ++ [(db, ⟨action, .ok value⟩)]) after := by
  cases step with
  | kept elsewhere =>
    obtain ⟨opens, -, quiet, -⟩ := @quiet_elsewhere db roomId deviceId _ _ value elsewhere
    exact counted.quiet opens quiet (fun room held => ⟨room, held⟩) fun old _ taking => ⟨old, taking, rfl⟩
  | dropped elsewhere =>
    obtain ⟨opens, -, quiet, -⟩ := @quiet_elsewhere db roomId deviceId _ _ value elsewhere
    exact counted.quiet opens quiet (fun room held => by cases held) fun old gone _ => absurd rfl gone
  | closed elsewhere stored active now =>
    obtain ⟨opens, -, quiet, -⟩ := @quiet_elsewhere db roomId deviceId _ _ value elsewhere
    exact counted.quiet opens quiet (fun room _ => ⟨_, stored⟩) fun old _ taking => ⟨old, taking, rfl⟩
  | @opened auth input now _ same =>
    have opens : Entry.opens (db, ⟨.createRoom auth input now, .ok value⟩) = some roomId :=
      congrArg some same
    constructor
    · rw [sinceOpened_opens opens]
      exact ⟨1, 1, .nil 1⟩
    · intro room last stored final
      rw [sinceOpened_opens opens] at final
      cases final
  | joined stored active recipient =>
    refine counted.quiet (by simp [Entry.opens]) rfl (fun room held => ⟨room, held⟩)
      fun old _ taking => participant_set taking fun own => ?_
    -- A device that comes back keeps its row and its count.
    rw [own, taking]
    rfl
  | @left auth now _ participant taking present =>
    refine counted.quiet (by simp [Entry.opens]) rfl (fun room held => ⟨room, held⟩)
      fun old _ held => participant_set held fun own => ?_
    rw [own, held] at taking
    rw [Option.some.inj taking]
  | granted stored active fits =>
    exact counted.quiet (by simp [Entry.opens]) rfl (fun room _ => ⟨_, stored⟩)
      fun old _ taking => ⟨old, taking, rfl⟩
  | revoked =>
    exact counted.quiet (by simp [Entry.opens]) rfl (fun room held => ⟨room, held⟩)
      fun old _ taking => ⟨old, taking, rfl⟩
  | shut =>
    refine counted.quiet (by simp [Entry.opens]) rfl (fun room changed => ?_)
      fun old _ taking => ⟨old, taking, rfl⟩
    obtain ⟨old, held, -⟩ := Option.map_eq_some_iff.mp changed
    exact ⟨old, held⟩
  | output same direction stored active fits expected =>
    refine counted.quiet (by simp [Entry.opens]) ?_ (fun room _ => ⟨_, stored⟩)
      fun old _ taking => ⟨old, taking, rfl⟩
    simp [Entry.input, direction]
  | @input auth view frame now prunedAt _ participant lease same direction taking own present fits
      expected held covers =>
    obtain ⟨shaped, sent⟩ := checked
    simp only [checkFrameSender, ensure_eq_ok] at sent
    have opens : Entry.opens (db, ⟨.commitFrame auth view frame now prunedAt, .ok value⟩) ≠
      some roomId := by simp [Entry.opens]
    by_cases mine : auth.deviceId = deviceId
    case neg =>
      refine counted.quiet opens ?_ (fun room held => ⟨room, held⟩)
        fun old _ taken => participant_set taken fun same => absurd same mine
      simp [Entry.input, sent.2.2.1, mine]
    have read : Entry.input roomId deviceId
        (db, ⟨.commitFrame auth view frame now prunedAt, .ok value⟩) = some frame.sequence :=
      if_pos ⟨same, sent.2.2.1.trans mine, direction⟩
    have next : participant.nextInputSequence = asI64 frame.sequence := by
      rw [expected, asI64_asU64 fits]
    have positive : frame.sequence ≠ 0 := by
      obtain ⟨canonical, -, shaped⟩ := bind_eq_ok.mp shaped
      obtain ⟨_, numbered, -⟩ := bind_eq_ok.mp shaped
      exact (ensure_eq_ok.mp numbered).2.2.1
    obtain ⟨⟨first, stop, window⟩, awaits⟩ := counted
    constructor
    · rw [sinceOpened_read opens read]
      cases numbers : (sinceOpened roomId (Entry.input roomId deviceId) log).getLast? with
      | none =>
        rw [List.getLast?_eq_none_iff.mp numbers]
        exact ⟨_, _, .cons rfl (.nil _)⟩
      | some last =>
        -- The accepted number follows the last one.
        obtain ⟨room, stored⟩ : ∃ room, record.room = some room := by
          refine Option.ne_none_iff_exists'.mp fun none => ?_
          rw [housed none] at taking
          cases taking
        obtain ⟨row, word, taken, number, waits⟩ := awaits room last stored numbers
        rw [mine] at taking
        obtain rfl := Option.some.inj (taken.symm.trans taking)
        have following := toNat_after (by rw [expected, waits]) positive
        have reached := window.last numbers
        refine ⟨first, stop + 1, window.snoc ?_⟩
        omega
    · intro room last stored final
      rw [sinceOpened_read opens read, List.getLast?_concat] at final
      refine ⟨_, frame.sequence, if_pos mine.symm, Option.some.inj final, ?_⟩
      rw [next]

/-! ### Grants -/

structure GrantsRise (roomId : String) (log : List Entry) (record : RoomRecord) : Prop where
  rising : (sinceOpened roomId (Entry.grant roomId) log).Pairwise (· < ·)
  current : ∀ room, record.room = some room → 0 ≤ room.leaseGeneration ∧
    ∀ generation ∈ sinceOpened roomId (Entry.grant roomId) log, (generation : Int) ≤ room.leaseGeneration

theorem GrantsRise.quiet {log : List Entry} {record : RoomRecord} {entry : Entry}
    (rise : GrantsRise roomId log record) (opens : entry.opens ≠ some roomId) (quiet : entry.grant roomId = none)
    (rooms : ∀ room, after.room = some room → ∃ old, record.room = some old ∧
      room.leaseGeneration = old.leaseGeneration) : GrantsRise roomId (log ++ [entry]) after := by
  obtain ⟨rising, current⟩ := rise
  rw [← sinceOpened_quiet opens quiet] at rising current
  refine ⟨rising, fun room stored => ?_⟩
  obtain ⟨old, held, same⟩ := rooms room stored
  rw [same]
  exact current old held

/-- A successful step lets the granted generations rise. -/
theorem GrantsRise.step {log : List Entry} (rise : GrantsRise roomId log (roomRecord roomId db))
    (ran : action.run platform db = .ok (value, next))
    (step : RoomStep platform roomId action (roomRecord roomId db) after) :
    GrantsRise roomId (log ++ [(db, ⟨action, .ok value⟩)]) after := by
  cases step with
  | kept elsewhere =>
    obtain ⟨opens, -, -, quiet⟩ := @quiet_elsewhere db roomId "" _ _ value elsewhere
    exact rise.quiet opens quiet fun room held => ⟨room, held, rfl⟩
  | dropped elsewhere =>
    obtain ⟨opens, -, -, quiet⟩ := @quiet_elsewhere db roomId "" _ _ value elsewhere
    exact rise.quiet opens quiet fun room held => by cases held
  | closed elsewhere stored active now =>
    obtain ⟨opens, -, -, quiet⟩ := @quiet_elsewhere db roomId "" _ _ value elsewhere
    exact rise.quiet opens quiet fun room same => ⟨_, stored, by rw [← Option.some.inj same]; rfl⟩
  | @opened auth input now _ same =>
    have opens : Entry.opens (db, ⟨.createRoom auth input now, .ok value⟩) = some roomId :=
      congrArg some same
    constructor
    · rw [sinceOpened_opens opens]
      exact .nil
    · intro room stored
      rw [sinceOpened_opens opens, ← Option.some.inj stored]
      exact ⟨Int.le_refl 0, fun generation member => absurd member List.not_mem_nil⟩
  | joined | left =>
    exact rise.quiet (by simp [Entry.opens]) rfl fun room held => ⟨room, held, rfl⟩
  | revoked => exact rise.quiet (by simp [Entry.opens]) rfl fun room held => ⟨room, held, rfl⟩
  | shut =>
    refine rise.quiet (by simp [Entry.opens]) rfl fun room changed => ?_
    obtain ⟨old, held, rfl⟩ := Option.map_eq_some_iff.mp changed
    refine ⟨old, held, ?_⟩
    split
    · rfl
    · rfl
  | output same direction stored active fits expected =>
    exact rise.quiet (by simp [Entry.opens]) rfl fun room changed =>
      ⟨_, stored, by rw [← Option.some.inj changed]⟩
  | input same direction taking own present fits expected held covers =>
    exact rise.quiet (by simp [Entry.opens]) rfl fun room held => ⟨room, held, rfl⟩
  | @granted auth memberId input leaseId now _ room stored active fits =>
    obtain ⟨other, found, -, -, -, -, -, -, -, output, -⟩ := grantControl_eq_ok.mp ran
    obtain rfl := Option.some.inj (found.symm.trans stored)
    have opens : Entry.opens (db, ⟨.grantControl auth roomId memberId input leaseId now, .ok value⟩) ≠
      some roomId := by simp [Entry.opens]
    have read : Entry.grant roomId
        (db, ⟨.grantControl auth roomId memberId input leaseId now, .ok value⟩) =
          some (asU64 (other.leaseGeneration + 1)) := by
      rw [output]
      exact if_pos rfl
    obtain ⟨rising, current⟩ := rise
    obtain ⟨positive, bounded⟩ := current other stored
    -- The new generation is one above the room's, which no granted one exceeds.
    have number : (((asU64 (other.leaseGeneration + 1)).toNat : Nat) : Int) = other.leaseGeneration + 1 :=
      toNat_asU64_of_nonneg (by omega) (by have limit := fits.2; omega)
    constructor
    · rw [sinceOpened_read opens read]
      refine List.pairwise_append.mpr ⟨rising, List.pairwise_singleton _ _, ?_⟩
      intro generation member last same
      obtain rfl := List.mem_singleton.mp same
      have below := bounded generation member
      omega
    · intro room changed
      rw [sinceOpened_read opens read, ← Option.some.inj changed]
      refine ⟨by show 0 ≤ other.leaseGeneration + 1; omega, fun generation member => ?_⟩
      show (generation : Int) ≤ other.leaseGeneration + 1
      rcases List.mem_append.mp member with old | last
      · have below := bounded generation old
        omega
      · rw [List.mem_singleton.mp last]
        exact Int.le_of_eq number

/-! ### Runs -/

/-- An input frame is accepted under the one lease its room has then, and before that expires. -/
def InputCovered : Entry → Prop
  | (db, ⟨.commitFrame _ _ frame now _, .ok _⟩) => frame.direction = "input" →
      ∃ lease ∈ db.controlLeases.rows,
        (∀ other ∈ db.controlLeases.rows, other.roomId = frame.roomId → other = lease) ∧
        lease.roomId = frame.roomId ∧ frame.leaseId = some lease.leaseId ∧
        frame.senderMemberId = lease.memberId ∧ frame.senderDeviceId = lease.deviceId ∧
        frame.leaseGeneration = asU64 lease.generation ∧ now < lease.expiresAt
  | _ => True

theorem InputCovered.of_run
    (checked : FramesChecked platform β action) (ran : action.run platform db = .ok (value, next)) :
    InputCovered (db, ⟨action, .ok value⟩) := by
  cases action <;> try trivial
  case commitFrame auth view frame now prunedAt =>
    intro direction
    have sent := checked.2
    simp only [checkFrameSender, ensure_eq_ok] at sent
    rcases commitFrame_ok ran with ⟨output, -⟩ | ⟨-, input⟩
    · rw [direction] at output
      exact absurd output (by decide)
    · obtain ⟨-, -, -, lettered, -, lease, -, -, -, -, -, held, covers, -⟩ :=
        acceptInput_eq_ok.mp input
      obtain ⟨stored, own⟩ := Table.find?_some held
      obtain ⟨id, named, -⟩ := Option.any_eq_true _ _ |>.mp lettered
      obtain ⟨same, member, device, generation, unexpired⟩ := covers
      refine ⟨lease, stored, fun other found room => ?_, own, ?_, ?_, ?_, ?_, unexpired⟩
      · exact Table.eq_of_key found stored (room.trans own.symm)
      · rw [same, named, Option.getD_some]
      · exact sent.2.1.trans member.symm
      · exact sent.2.2.1.trans device.symm
      · rw [generation, asU64_asI64]

/--
In every run the outputs accepted for a room count one, two, three and so on, the inputs accepted
from a device of it are consecutive, every accepted input is covered by the room's lease, and the
granted generations rise; a room is counted from when it was opened last.
-/
theorem framesOrdered {trace : List (Pool Action RelayError Db × Pool.Label Action RelayError)}
    {pool : Pool Action RelayError Db} (run : (service platform).Run trace pool) :
    (∀ roomId, sinceOpened roomId (Entry.output roomId) (Pool.events trace) = List.range' 1
      (sinceOpened roomId (Entry.output roomId) (Pool.events trace)).length) ∧
    (∀ roomId deviceId, ∃ first,
      sinceOpened roomId (Entry.input roomId deviceId) (Pool.events trace) = List.range' first
        (sinceOpened roomId (Entry.input roomId deviceId) (Pool.events trace)).length) ∧
    (∀ entry ∈ Pool.events trace, InputCovered entry) ∧
    ∀ roomId, (sinceOpened roomId (Entry.grant roomId) (Pool.events trace)).Pairwise (· < ·) := by
  refine ⟨fun roomId => ?_, fun roomId deviceId => ?_, ?_, fun roomId => ?_⟩
  · have counted := record_history roomId (fun _ _ => True) (OutputsCounted roomId)
      ⟨1, .nil 1, fun room stored => by cases stored⟩
      (fun log db next β action value _ _ before _ _ step => before.step step)
      (fun log db β action error before => before.quiet (opens_failed action error roomId)
        (@quiet_failed db roomId "" _ action error).1 fun room held => ⟨room, held, rfl⟩)
      run fun _ _ => trivial
    obtain ⟨next, window, -⟩ := counted
    exact window.eq_range'
  · have counted := record_history roomId (fun _ _ => True) (InputsCounted roomId deviceId)
      ⟨⟨1, 1, .nil 1⟩, fun room last stored => by cases stored⟩
      (fun log db next β action value checked housed before _ _ step =>
        before.step checked housed step)
      (fun log db β action error before => before.quiet (opens_failed action error roomId)
        (quiet_failed action error).2.1 (fun room held => ⟨room, held⟩)
        fun old _ taking => ⟨old, taking, rfl⟩)
      run fun _ _ => trivial
    obtain ⟨first, next, window⟩ := counted.window
    exact ⟨_, window.eq_range'⟩
  · refine (Pool.history (FramesChecked platform) (fun _ _ => True)
      (fun log _ => ∀ entry ∈ log, InputCovered entry) ?_ (by simp) ?_ run fun _ _ => trivial).1
    · intro program starts
      obtain ⟨call, draws, rfl⟩ := starts
      exact call.frames_checked
    · intro log db β action checked before _ entry member
      rcases List.mem_append.mp member with old | last
      · exact before entry old
      rw [List.mem_singleton.mp last]
      cases ran : action.run platform db with
      | ok result =>
        rw [outcome_ok ran]
        exact .of_run checked ran
      | error error =>
        rw [outcome_error ran]
        cases action <;> trivial
  · exact (record_history roomId (fun _ _ => True) (GrantsRise roomId)
      ⟨.nil, fun room stored => by cases stored⟩
      (fun log db next β action value _ _ before _ ran step => before.step ran step)
      (fun log db β action error before => before.quiet (opens_failed action error roomId)
        (@quiet_failed db roomId "" _ action error).2.2 fun room held => ⟨room, held, rfl⟩)
      run fun _ _ => trivial).rising

/-- A run that opens a room and sends a frame counts its outputs. -/
theorem framesOrdered_sent : ∃ trace db frames,
    (service Demo.platform).Run trace ⟨db, []⟩ ∧ Demo.Hosted 1 frames db ∧
    sinceOpened (Demo.uuid 0) (Entry.output (Demo.uuid 0)) (Pool.events trace) = List.range' 1
      (sinceOpened (Demo.uuid 0) (Entry.output (Demo.uuid 0)) (Pool.events trace)).length := by
  obtain ⟨db, reached, hosted⟩ := Demo.reached_hosted
  obtain ⟨next, sends, hosted⟩ := hosted.send (by decide) (by simp) 0 0
  obtain ⟨trace, run, -⟩ := reached.call (.any _) sends
  exact ⟨trace, next, _, run, hosted, (framesOrdered run).1 (Demo.uuid 0)⟩

end Relay

end CNShell
