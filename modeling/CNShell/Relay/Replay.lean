import CNShell.Library.Window
import CNShell.Relay.Hosting

/-! The frames a room keeps for replay: how few they are, and when no number is missing among them. -/

namespace CNShell

namespace Relay

variable {platform : Platform} {db : Db} {frames : List RelayFrame}

/-- The frames carry rising sequence numbers. -/
def Ascending (frames : List RelayFrame) : Prop :=
  frames.Pairwise fun earlier later => earlier.sequence < later.sequence

def storedBytes (frames : List RelayFrame) : Int := (frames.map RelayFrame.encodedBytes).sum

/-- Whether a frame is young enough to be replayed. -/
def isRecent (now : Instant) (frame : RelayFrame) : Bool := !decide (frame.createdAt < now - minutes replayMinutes)

/-! ### Pruning -/

theorem framesInOrder_eq_self (ascending : Ascending frames) : framesInOrder frames = frames :=
  List.mergeSort_of_pairwise (ascending.imp fun less => decide_eq_true (Int.le_of_lt less))

theorem Ascending.nodup (ascending : Ascending frames) : (frames.map RelayFrame.sequence).Nodup :=
  List.pairwise_map.mpr (ascending.imp fun less => Int.ne_of_lt less)

theorem Ascending.snoc (ascending : Ascending frames) {frame : RelayFrame}
    (above : ∀ held ∈ frames, held.sequence < frame.sequence) : Ascending (frames ++ [frame]) := by
  refine List.pairwise_append.mpr ⟨ascending, List.pairwise_singleton _ _, ?_⟩
  intro held member last same
  exact List.mem_singleton.mp same ▸ above held member

theorem oversizedFrames_split (frames : List RelayFrame) :
    ∃ front back, frames = front ++ back ∧ storedBytes back ≤ maxReplayBytes ∧
      oversizedFrames (storedBytes frames) frames = front.map RelayFrame.sequence := by
  induction frames with
  | nil => exact ⟨[], [], rfl, by decide, rfl⟩
  | cons frame rest ih =>
    by_cases fits : storedBytes (frame :: rest) ≤ maxReplayBytes
    · exact ⟨[], frame :: rest, rfl, fits, by simp [oversizedFrames, fits]⟩
    · -- The first frame goes, and the total left is that of the rest.
      obtain ⟨front, back, cut, small, listed⟩ := ih
      have left : storedBytes (frame :: rest) - frame.encodedBytes = storedBytes rest := by
        simp only [storedBytes, List.map_cons, List.sum_cons]
        omega
      refine ⟨frame :: front, back, by rw [cut, List.cons_append], small, ?_⟩
      rw [oversizedFrames, if_neg fits, left, listed, List.map_cons]

theorem prunedFrames_cut (ascending : Ascending frames) (now : Instant) :
    prunedFrames now frames <:+ frames.filter (isRecent now) ∧
      (prunedFrames now frames).length ≤ maxReplayFrames ∧
      storedBytes (prunedFrames now frames) ≤ maxReplayBytes := by
  have recent : Ascending (frames.filter (isRecent now)) := ascending.filter _
  generalize chosen : frames.filter (isRecent now) = young at recent
  -- The newest frames are the back of the list, which is in order.
  obtain ⟨old, newest, halves, length⟩ : ∃ old newest, young = old ++ newest ∧
      newest = young.drop (young.length - maxReplayFrames) :=
    ⟨_, _, (List.take_append_drop (young.length - maxReplayFrames) young).symm, rfl⟩
  have kept : ((framesInOrder young).reverse.take maxReplayFrames).map RelayFrame.sequence =
      (newest.map RelayFrame.sequence).reverse := by
    rw [framesInOrder_eq_self recent, List.take_reverse, ← length, List.map_reverse]
  have counted : young.filter (fun frame => decide (frame.sequence ∈
      ((framesInOrder young).reverse.take maxReplayFrames).map RelayFrame.sequence)) = newest := by
    simp only [kept, List.mem_reverse]
    subst halves
    exact filter_mem_back recent.nodup
  have ordered : Ascending newest := recent.sublist (length ▸ List.drop_sublist _ _)
  -- The oversized frames are the front of what is left.
  obtain ⟨front, back, cut, small, listed⟩ := oversizedFrames_split newest
  have pruned : prunedFrames now frames = back := by
    have selected : (frames.filter fun frame =>
        !decide (frame.createdAt < now - minutes replayMinutes)) = young := chosen
    simp only [prunedFrames, selected, counted, framesInOrder_eq_self ordered]
    show newest.filter (fun frame =>
      !decide (frame.sequence ∈ oversizedFrames (storedBytes newest) newest)) = back
    rw [listed]
    subst cut
    exact filter_not_mem_front ordered.nodup
  have few : newest.length ≤ maxReplayFrames := by
    rw [length, List.length_drop]
    omega
  rw [pruned]
  refine ⟨?_, ?_, small⟩
  · rw [halves, cut]
    exact ⟨old ++ front, by simp⟩
  · have shorter := congrArg List.length cut
    rw [List.length_append] at shorter
    omega

variable {now : Instant}

theorem prunedFrames_eq_filter (ascending : Ascending frames)
    (few : (frames.filter (isRecent now)).length ≤ maxReplayFrames)
    (small : storedBytes (frames.filter (isRecent now)) ≤ maxReplayBytes) :
    prunedFrames now frames = frames.filter (isRecent now) := by
  have recent : Ascending (frames.filter (isRecent now)) := ascending.filter _
  have selected : (frames.filter fun frame =>
      !decide (frame.createdAt < now - minutes replayMinutes)) = frames.filter (isRecent now) := rfl
  simp only [prunedFrames, selected]
  generalize frames.filter (isRecent now) = young at few small recent
  -- The newest frames are all of them, and nothing has to go for their size.
  have counted : young.filter (fun frame => decide (frame.sequence ∈
      ((framesInOrder young).reverse.take maxReplayFrames).map RelayFrame.sequence)) = young := by
    refine List.filter_eq_self.mpr fun frame member => ?_
    rw [framesInOrder_eq_self recent, List.take_of_length_le (by simpa using few)]
    simp only [List.map_reverse, List.mem_reverse]
    exact decide_eq_true (List.mem_map_of_mem member)
  have spared : oversizedFrames (storedBytes young) young = [] := by
    cases young with
    | nil => rfl
    | cons frame rest => rw [oversizedFrames, if_pos small]
  rw [counted, framesInOrder_eq_self recent]
  show young.filter (fun frame =>
    !decide (frame.sequence ∈ oversizedFrames (storedBytes young) young)) = young
  rw [spared]
  exact List.filter_eq_self.mpr fun frame _ => by simp

/-! ### Invariants -/

/-- The stored frames of a room are few and small, and rise below the room's next number. -/
structure Stocked (record : RoomRecord) : Prop where
  ascending : Ascending record.frames
  numbered : ∀ frame ∈ record.frames, 0 < frame.sequence ∧ InI64 frame.sequence ∧
    frame.envelope.sequence = asU64 frame.sequence
  below : ∀ room, record.room = some room → 0 < room.nextOutputSequence ∧
    ∀ frame ∈ record.frames, frame.sequence < room.nextOutputSequence
  few : record.frames.length ≤ maxReplayFrames
  small : storedBytes record.frames ≤ maxReplayBytes

/-- The stored frames of a room carry every number from the first one's to before the next one. -/
def Gapless (record : RoomRecord) : Prop :=
  ∃ first next, Consecutive RelayFrame.sequence first record.frames next ∧
    ∀ room, record.room = some room → room.nextOutputSequence = next

theorem Stocked.empty {record : RoomRecord} (none : record.frames = [])
    (positive : ∀ room, record.room = some room → 0 < room.nextOutputSequence) : Stocked record where
  ascending := none ▸ .nil
  numbered := by simp [none]
  below room stored := ⟨positive room stored, by simp [none]⟩
  few := by simp [none]
  small := by simp [none, storedBytes, maxReplayBytes]

theorem Gapless.empty {record : RoomRecord} (none : record.frames = []) : Gapless record := by
  unfold Gapless
  rw [none]
  cases stored : record.room with
  | none => exact ⟨1, 1, .nil 1, fun room impossible => by cases impossible⟩
  | some room =>
    refine ⟨_, room.nextOutputSequence, .nil _, fun other same => ?_⟩
    rw [Option.some.inj same]

theorem Stocked.congr {record after : RoomRecord} (stocked : Stocked record)
    (frames : after.frames = record.frames)
    (rooms : ∀ room, after.room = some room → ∃ old, record.room = some old ∧
      room.nextOutputSequence = old.nextOutputSequence) : Stocked after where
  ascending := frames ▸ stocked.ascending
  numbered := frames ▸ stocked.numbered
  below room stored := by
    obtain ⟨old, held, same⟩ := rooms room stored
    rw [same, frames]
    exact stocked.below old held
  few := frames ▸ stocked.few
  small := frames ▸ stocked.small

theorem Gapless.congr {record after : RoomRecord} (gapless : Gapless record)
    (frames : after.frames = record.frames)
    (rooms : ∀ room, after.room = some room → ∃ old, record.room = some old ∧
      room.nextOutputSequence = old.nextOutputSequence) : Gapless after := by
  obtain ⟨first, next, window, ends⟩ := gapless
  refine ⟨first, next, frames ▸ window, fun room stored => ?_⟩
  obtain ⟨old, held, same⟩ := rooms room stored
  rw [same, ends old held]

/--
An accepted output frame does not let an old frame be pruned that comes after a recent one.

The frames are taken in order of arrival, the accepted one last. A clock that is never set back
across a stored frame meets this, since the creation times rise then.
-/
def PrunesFront (db : Db) (event : Event Action RelayError) : Prop :=
  match event with
  | ⟨.commitFrame _ _ frame now prunedAt, .ok _⟩ => frame.direction = "output" →
      ((roomFrames frame.roomId db).map RelayFrame.createdAt ++ [now]).Pairwise
        fun earlier later => later < prunedAt - minutes replayMinutes → earlier < prunedAt - minutes replayMinutes
  | _ => True

theorem suffix_of_prunesFront {frame : RelayFrame} {prunedAt : Instant}
    (created : frame.createdAt = now) (ascending : Ascending (frames ++ [frame]))
    (front : (frames.map RelayFrame.createdAt ++ [now]).Pairwise
      fun earlier later => later < prunedAt - minutes replayMinutes → earlier < prunedAt - minutes replayMinutes) :
    prunedFrames prunedAt (frames ++ [frame]) <:+ frames ++ [frame] := by
  refine (prunedFrames_cut ascending prunedAt).1.trans (filter_suffix ?_)
  have times : frames.map RelayFrame.createdAt ++ [now] =
      (frames ++ [frame]).map RelayFrame.createdAt := by simp [created]
  rw [times, List.pairwise_map] at front
  refine front.imp fun {earlier later} older recent => ?_
  simp only [isRecent, Bool.not_eq_true', decide_eq_false_iff_not] at recent ⊢
  exact fun old => recent (older old)

theorem Stocked.ascending_snoc {record : RoomRecord} (stocked : Stocked record)
    {room : TerminalRoom} (stored : record.room = some room) (fits : InI64 room.nextOutputSequence)
    {frame : TeamTerminalEncryptedFrame} (expected : frame.sequence = asU64 room.nextOutputSequence)
    (now : Instant) : Ascending (record.frames ++ [storedFrame platform frame now]) := by
  refine stocked.ascending.snoc fun held member => ?_
  have number : (storedFrame platform frame now).sequence = room.nextOutputSequence := by
    simp only [storedFrame, expected, asI64_asU64 fits]
  rw [number]
  exact (stocked.below room stored).2 held member

variable {roomId : String}

/-- A step keeps the frames of a room stocked. -/
theorem Stocked.step {β : Type} {action : Action β} {record after : RoomRecord}
    (stocked : Stocked record) (step : RoomStep platform roomId action record after) : Stocked after := by
  cases step with
  | kept elsewhere => exact stocked
  | dropped elsewhere => exact .empty rfl fun room stored => by cases stored
  | closed elsewhere stored active now =>
    exact stocked.congr rfl fun room same => ⟨_, stored, by rw [← Option.some.inj same]; rfl⟩
  | opened same =>
    refine .empty rfl fun room stored => ?_
    rw [← Option.some.inj stored]
    exact Int.one_pos
  | joined | left => exact stocked.congr rfl fun room held => ⟨room, held, rfl⟩
  | granted stored active fits =>
    exact stocked.congr rfl fun room same => ⟨_, stored, by rw [← Option.some.inj same]⟩
  | revoked => exact stocked.congr rfl fun room held => ⟨room, held, rfl⟩
  | shut =>
    refine .empty rfl fun room stored => ?_
    obtain ⟨old, held, rfl⟩ := Option.map_eq_some_iff.mp stored
    have positive := (stocked.below old held).1
    split
    · exact positive
    · exact positive
  | input same direction taking own present fits expected held covers =>
    exact stocked.congr rfl fun room held => ⟨room, held, rfl⟩
  | @output auth view frame now prunedAt _ room same direction stored active fits expected =>
    have ascending := @Stocked.ascending_snoc platform _ stocked _ stored fits _ expected now
    obtain ⟨cut, few, small⟩ := prunedFrames_cut ascending prunedAt
    have positive := (stocked.below room stored).1
    have number : (storedFrame platform frame now).sequence = room.nextOutputSequence := by
      simp only [storedFrame, expected, asI64_asU64 fits]
    -- Every frame that is left was stored before or is the accepted one.
    have origin : ∀ held ∈ prunedFrames prunedAt (record.frames ++ [storedFrame platform frame now]),
        held ∈ record.frames ∨ held = storedFrame platform frame now := fun held member => by
      simpa using (List.mem_filter.mp (cut.subset member)).1
    constructor
    · exact (ascending.filter _).sublist cut.sublist
    · intro held member
      rcases origin held member with old | rfl
      · exact stocked.numbered held old
      · exact ⟨number ▸ positive, number ▸ fits, by rw [number]; exact expected⟩
    · intro other changed
      rw [← Option.some.inj changed]
      refine ⟨by show 0 < room.nextOutputSequence + 1; omega, fun held member => ?_⟩
      show held.sequence < room.nextOutputSequence + 1
      rcases origin held member with old | rfl
      · have before := (stocked.below room stored).2 held old
        omega
      · omega
    · exact few
    · exact small

theorem Gapless.step {β : Type} {action : Action β} {value : β}
    {after : RoomRecord} (stocked : Stocked (roomRecord roomId db))
    (gapless : Gapless (roomRecord roomId db)) (front : PrunesFront db ⟨action, .ok value⟩)
    (step : RoomStep platform roomId action (roomRecord roomId db) after) : Gapless after := by
  cases step with
  | kept elsewhere => exact gapless
  | dropped elsewhere => exact .empty rfl
  | closed elsewhere stored active now =>
    exact gapless.congr rfl fun room same => ⟨_, stored, by rw [← Option.some.inj same]; rfl⟩
  | opened same => exact .empty rfl
  | joined | left => exact gapless.congr rfl fun room held => ⟨room, held, rfl⟩
  | granted stored active fits =>
    exact gapless.congr rfl fun room same => ⟨_, stored, by rw [← Option.some.inj same]⟩
  | revoked => exact gapless.congr rfl fun room held => ⟨room, held, rfl⟩
  | shut => exact .empty rfl
  | input same direction taking own present fits expected held covers =>
    exact gapless.congr rfl fun room held => ⟨room, held, rfl⟩
  | @output auth view frame now prunedAt _ room same direction stored active fits expected =>
    have ascending := @Stocked.ascending_snoc platform _ stocked _ stored fits _ expected now
    have front := front direction
    rw [same] at front
    have cut := suffix_of_prunesFront rfl ascending front
    obtain ⟨first, next, window, ends⟩ := gapless
    -- The accepted frame carries the next number, and pruning cuts the window at the front.
    have number : (storedFrame platform frame now).sequence = next := by
      rw [← ends room stored]
      simp only [storedFrame, expected, asI64_asU64 fits]
    obtain ⟨start, left⟩ := (window.snoc number).suffix cut
    refine ⟨start, next + 1, left, fun other changed => ?_⟩
    rw [← Option.some.inj changed, ends room stored]

/-! ### Replay -/

theorem replayRows_window (afterSequence upToSequence : UInt64)
    (stocked : Stocked (roomRecord roomId db)) (gapless : Gapless (roomRecord roomId db)) :
    replayRows roomId afterSequence upToSequence db ⊆ roomFrames roomId db ∧
      ∃ first next, Consecutive RelayFrame.sequence first
        (replayRows roomId afterSequence upToSequence db) next := by
  obtain ⟨first, next, window, -⟩ := gapless
  have ascending := stocked.ascending
  simp only [roomRecord] at window ascending
  have above : (roomFrames roomId db).filter (fun frame =>
      decide (asI64 afterSequence < frame.sequence)) <:+ roomFrames roomId db :=
    filter_suffix (ascending.imp fun less kept =>
      decide_eq_true (Int.lt_trans (of_decide_eq_true kept) less))
  have below : ((roomFrames roomId db).filter fun frame =>
      decide (asI64 afterSequence < frame.sequence)).filter (fun frame =>
        decide (frame.sequence ≤ asI64 upToSequence)) <+: (roomFrames roomId db).filter fun frame =>
          decide (asI64 afterSequence < frame.sequence) :=
    filter_initial ((ascending.sublist above.sublist).imp fun less kept =>
      decide_eq_true (Int.le_trans (Int.le_of_lt less) (of_decide_eq_true kept)))
  -- The query selects by both bounds at once and orders what is in order already.
  have selected : db.relayFrames.rows.filter (fun frame => frame.roomId = roomId ∧
      asI64 afterSequence < frame.sequence ∧ frame.sequence ≤ asI64 upToSequence) =
        ((roomFrames roomId db).filter fun frame =>
          decide (asI64 afterSequence < frame.sequence)).filter fun frame =>
            decide (frame.sequence ≤ asI64 upToSequence) := by
    rw [roomFrames, List.filter_filter, List.filter_filter]
    refine List.filter_congr fun frame _ => ?_
    simp only [Bool.decide_and, Bool.and_comm]
  have ordered := framesInOrder_eq_self
    (ascending.sublist (below.sublist.trans above.sublist))
  have limited : replayRows roomId afterSequence upToSequence db <+:
      ((roomFrames roomId db).filter fun frame =>
        decide (asI64 afterSequence < frame.sequence)).filter fun frame =>
          decide (frame.sequence ≤ asI64 upToSequence) := by
    rw [replayRows, selected, ordered]
    exact List.take_prefix _ _
  obtain ⟨start, late⟩ := window.suffix above
  obtain ⟨stop, read⟩ := late.initial (limited.trans below)
  have subset := List.Subset.trans (limited.trans below).subset above.subset
  exact ⟨subset, start, stop, read⟩

/-- What is replayed of a stocked and gapless room is every frame that was asked for, in order. -/
theorem replay_consecutive {afterSequence upToSequence : UInt64}
    {replayed : List TeamTerminalEncryptedFrame} (stocked : Stocked (roomRecord roomId db))
    (gapless : Gapless (roomRecord roomId db)) (read : replay roomId afterSequence upToSequence db = .ok replayed) :
    replayed.map (fun frame => frame.sequence.toNat) =
      List.range' (afterSequence.toNat + 1) (upToSequence.toNat - afterSequence.toNat) := by
  simp only [replay, bind_eq_ok, ensure_eq_ok, exists_const] at read
  obtain ⟨ordered, read⟩ := read
  split at read
  · rename_i same
    obtain rfl := Except.ok.inj read
    simp [same]
  rename_i differ
  simp only [bind_eq_ok, ensure_eq_ok, exists_const, pure_eq_ok] at read
  obtain ⟨few, ends, rfl⟩ := read
  obtain ⟨starts, stops⟩ := ends
  obtain ⟨stored, first, next, window⟩ := replayRows_window afterSequence upToSequence stocked gapless
  -- A stored number is positive and fits, so it is read as it is.
  have number : ∀ row ∈ replayRows roomId afterSequence upToSequence db,
      ((asU64 row.sequence).toNat : Int) = row.sequence ∧ row.envelope.sequence = asU64 row.sequence := by
    intro row member
    obtain ⟨positive, fits, same⟩ := stocked.numbered row (stored member)
    exact ⟨toNat_asU64_of_nonneg (Int.le_of_lt positive) (by unfold InI64 at fits; omega), same⟩
  have apart : afterSequence.toNat < upToSequence.toNat :=
    Nat.lt_of_le_of_ne ordered fun same => differ (UInt64.toNat_inj.mp same)
  have limit : upToSequence.toNat < 2 ^ 64 := upToSequence.toNat_lt
  -- The first and the last number read are the ones that were asked for.
  obtain ⟨head, found, starts⟩ := Option.map_eq_some_iff.mp starts
  obtain ⟨last, final, stops⟩ := Option.map_eq_some_iff.mp stops
  have begins := window.head found
  have finishes := window.last final
  have headNumber := (number head (List.mem_of_mem_head? found)).1
  have lastNumber := (number last (List.mem_of_getLast? final)).1
  rw [stops] at lastNumber
  have counted := window.next_eq
  have length : (replayRows roomId afterSequence upToSequence db).length =
      upToSequence.toNat - afterSequence.toNat := by omega
  have numbers := window.map_number
  rw [length] at numbers
  have read : ∀ row ∈ replayRows roomId afterSequence upToSequence db,
      row.envelope.sequence.toNat = row.sequence.toNat := by
    intro row member
    obtain ⟨value, same⟩ := number row member
    rw [same]
    omega
  calc ((replayRows roomId afterSequence upToSequence db).map RelayFrame.envelope).map
        (fun frame => frame.sequence.toNat)
      = ((replayRows roomId afterSequence upToSequence db).map RelayFrame.sequence).map
          Int.toNat := by
        rw [List.map_map, List.map_map]
        exact List.map_congr_left read
    _ = List.range' (afterSequence.toNat + 1) (upToSequence.toNat - afterSequence.toNat) := by
        rw [numbers, List.map_map, List.range'_eq_map_range]
        refine List.map_congr_left fun i _ => ?_
        simp only [Function.comp_apply]
        omega

/-! ### Runs -/

namespace Demo

/-- The time at which the first and the third frame are sent. -/
def afternoon : Instant := minutes 20

theorem Hosted.replays (hosted : Hosted 3 [outputRow 1 afternoon, outputRow 3 afternoon] db) :
    replay (uuid 0) 0 3 db = .ok [outputFrame 1, outputFrame 3] := by
  have selected : db.relayFrames.rows.filter (fun frame => frame.roomId = uuid 0 ∧
      asI64 0 < frame.sequence ∧ frame.sequence ≤ asI64 3) =
        (roomFrames (uuid 0) db).filter fun frame =>
          decide (asI64 0 < frame.sequence ∧ frame.sequence ≤ asI64 3) := by
    rw [roomFrames, List.filter_filter]
    exact List.filter_congr fun frame _ => by simp only [Bool.decide_and, Bool.and_comm]
  have both : [outputRow 1 afternoon, outputRow 3 afternoon].filter (fun frame =>
      decide (asI64 0 < frame.sequence ∧ frame.sequence ≤ asI64 3)) =
        [outputRow 1 afternoon, outputRow 3 afternoon] := rfl
  have ascending : Ascending [outputRow 1 afternoon, outputRow 3 afternoon] := by
    unfold Ascending
    decide
  have rows : replayRows (uuid 0) 0 3 db = [outputRow 1 afternoon, outputRow 3 afternoon] := by
    rw [replayRows, selected, hosted.stored, both, framesInOrder_eq_self ascending]
    rfl
  simp only [replay, rows]
  rfl

end Demo

end Relay

end CNShell
