import CNShell.Client.Demo
import CNShell.Library.Log
import CNShell.Library.Window

/-! The replay buffer of a hosted room: a window of its latest frames, and what is replayed from it. -/

namespace CNShell

namespace Client

variable {vault : Vault} {room after : RoomState} {roomId : String}

/-- Canonical JSON can be written for every frame, and fits a vector. -/
def Written (vault : Vault) : Prop :=
  ∀ frame, ∃ encoded, vault.canonicalFrame frame = some encoded ∧ encoded.length < 2 ^ 63

def StoredFrame.number (stored : StoredFrame) : Nat := stored.frame.sequence.toNat

/-- The buffered frames are contiguous and end right before the next output. -/
def ReplayContiguous (room : RoomState) : Prop :=
  room.replay.length < room.nextOutputSequence.toNat ∧
    room.replay.map StoredFrame.number =
      List.range' (room.nextOutputSequence.toNat - room.replay.length) room.replay.length

/-- The size of the buffer is the sum of the sizes of its frames. -/
def ReplayCounted (room : RoomState) : Prop := room.replayBytes = (room.replay.map StoredFrame.bytes).sum

/-- A buffer whose frames are a window before the next output, all of them published encrypted. -/
structure Windowed (room : RoomState) : Prop where
  window : ∃ first, 1 ≤ first ∧
    Consecutive (fun stored : StoredFrame => (stored.number : Int)) first room.replay
      room.nextOutputSequence.toNat
  counted : ReplayCounted room
  plain : room.encryptedTransportEnabled = false → room.replay = []

/-- A buffer as every section leaves it: a window within the bounds. -/
structure Buffered (room : RoomState) : Prop extends Windowed room where
  bounded : room.replayBytes ≤ maxReplayBytes

theorem Windowed.contiguous (windowed : Windowed room) : ReplayContiguous room := by
  obtain ⟨first, positive, window⟩ := windowed.window
  have length := window.next_eq
  refine ⟨by omega, ?_⟩
  rw [window.map_eq_range']
  -- The first number is as far before the next one as the buffer is long.
  congr 1
  omega

theorem Windowed.positive (windowed : Windowed room) : 1 ≤ room.nextOutputSequence.toNat := by
  obtain ⟨first, positive, window⟩ := windowed.window
  have length := window.next_eq
  omega

/-! ### Pruning -/

theorem pruned_spec (clock : Nat → Tick) (frames : List StoredFrame) {bytes : Nat}
    (counted : bytes = (frames.map StoredFrame.bytes).sum) :
    ∃ dropped kept, frames = dropped ++ kept ∧
      RoomState.pruned clock frames bytes = (kept, (kept.map StoredFrame.bytes).sum) ∧
      ∀ front rest, kept = front :: rest →
        ¬(seconds replayTtlSeconds < clock dropped.length - front.createdAt ∨
          maxReplayFrames < kept.length ∨ maxReplayBytes < (kept.map StoredFrame.bytes).sum) := by
  -- The induction is on the buffer, whose front is the next to go.
  induction frames generalizing clock bytes with
  | nil => exact ⟨[], [], rfl, by rw [counted]; rfl, fun front rest none => by cases none⟩
  | cons front rest ih =>
    rw [RoomState.pruned]
    split
    · rw [List.map_cons, List.sum_cons] at counted
      obtain ⟨dropped, kept, rfl, pruned, stops⟩ := ih (fun i => clock (i + 1)) (show
        bytes - front.bytes = (rest.map StoredFrame.bytes).sum by omega)
      exact ⟨front :: dropped, kept, rfl, pruned, stops⟩
    · rename_i stays
      refine ⟨[], front :: rest, rfl, by rw [counted], fun first others same => ?_⟩
      obtain ⟨rfl, rfl⟩ := List.cons.inj same
      rwa [← counted]

theorem pruned_eq_self {clock : Nat → Tick} {frames : List StoredFrame} {bytes : Nat}
    (stays : ∀ front rest, frames = front :: rest →
      ¬(seconds replayTtlSeconds < clock 0 - front.createdAt ∨
        maxReplayFrames < frames.length ∨ maxReplayBytes < bytes)) :
    RoomState.pruned clock frames bytes = (frames, bytes) := by
  cases frames with
  | nil => rfl
  | cons front rest =>
    rw [RoomState.pruned]
    exact if_neg (stays front rest rfl)

theorem Windowed.prune (windowed : Windowed room) (clock : Nat → Tick) :
    Buffered (room.pruneReplay clock) ∧ (room.pruneReplay clock).replay <:+ room.replay := by
  obtain ⟨first, positive, window⟩ := windowed.window
  obtain ⟨dropped, kept, split, pruned, stops⟩ := pruned_spec clock room.replay windowed.counted
  have replay : (room.pruneReplay clock).replay = kept := congrArg Prod.fst pruned
  have bytes : (room.pruneReplay clock).replayBytes = (kept.map StoredFrame.bytes).sum :=
    congrArg Prod.snd pruned
  refine ⟨⟨⟨?_, ?_, ?_⟩, ?_⟩, ?_⟩
  · rw [split] at window
    obtain ⟨middle, before, back⟩ := window.split
    have length := before.next_eq
    exact ⟨middle, by omega, by rw [replay]; exact back⟩
  · rw [ReplayCounted, replay, bytes]
  · intro plain
    have empty := windowed.plain plain
    rw [split, List.append_eq_nil_iff] at empty
    rw [replay, empty.2]
  · rw [bytes]
    cases kept with
    | nil => exact Nat.zero_le _
    | cons front rest =>
      have within := stops front rest rfl
      omega
  · rw [replay, split]
    exact List.suffix_append dropped kept

/-! ### Every section keeps the buffer -/

theorem Buffered.publish (buffered : Buffered room) {next : UInt64} {stored : StoredFrame}
    (numbered : stored.frame.sequence = room.nextOutputSequence)
    (counts : checkedSucc room.nextOutputSequence = some next) (small : stored.bytes < 2 ^ 63)
    (clock : Nat → Tick) :
    Buffered (room.publish next stored clock) ∧
      (room.publish next stored clock).replay <:+ room.replay ++ [stored] := by
  obtain ⟨first, positive, window⟩ := buffered.window
  have succ := toNat_checkedSucc counts
  refine Windowed.prune ⟨⟨first, positive, ?_⟩, ?_, ?_⟩ clock
  · -- The frame carries the next number, and the counter moves to the one after.
    have carried : (stored.number : Int) = room.nextOutputSequence.toNat := by
      rw [StoredFrame.number, numbered]
    have longer := window.snoc carried
    show Consecutive _ first (room.replay ++ [stored]) next.toNat
    rwa [succ, Int.natCast_add, Int.natCast_one]
  · show saturatingAdd room.replayBytes stored.bytes = ((room.replay ++ [stored]).map StoredFrame.bytes).sum
    have bounded := buffered.bounded
    have counted := buffered.counted
    -- The buffer is within its bounds, so the sum of the sizes stays far from the largest word.
    rw [List.map_append, List.sum_append, ← counted, saturatingAdd]
    simp only [List.map_cons, List.map_nil, List.sum_singleton, maxReplayBytes] at bounded ⊢
    omega
  · intro plain
    cases plain

theorem Buffered.move (written : Written vault) (buffered : Buffered room)
    (move : RoomMove vault room after) : Buffered after ∧ after.replay <:+ room.replay := by
  cases move with
  | expired now =>
    unfold RoomState.expireLease
    split
    · exact ⟨⟨⟨buffered.window, buffered.counted, buffered.plain⟩, buffered.bounded⟩, List.suffix_rfl⟩
    · exact ⟨buffered, List.suffix_rfl⟩
  | pruned clock => exact buffered.prune clock
  | seated | roleSet | dismissed | cleared =>
    exact ⟨⟨⟨buffered.window, buffered.counted, buffered.plain⟩, buffered.bounded⟩, List.suffix_rfl⟩
  | enabled =>
    exact ⟨⟨⟨buffered.window, buffered.counted, fun plain => by cases plain⟩, buffered.bounded⟩, List.suffix_rfl⟩
  | @unsized frame _ refused =>
    obtain ⟨encoded, some, -⟩ := written frame
    rw [refused] at some
    cases some
  | @advanced next plain counts =>
    -- Output in the clear is only published while the buffer is empty.
    have empty := buffered.plain plain
    have positive := buffered.positive
    have succ := toNat_checkedSucc counts
    refine ⟨⟨⟨⟨next.toNat, by omega, ?_⟩, buffered.counted, buffered.plain⟩, buffered.bounded⟩, List.suffix_rfl⟩
    show Consecutive _ _ room.replay _
    rw [empty]
    exact .nil _
  | closed =>
    have positive := buffered.positive
    exact ⟨⟨⟨⟨_, Int.ofNat_le.mpr positive, .nil _⟩, rfl, fun _ => rfl⟩, Nat.zero_le _⟩, List.nil_suffix⟩

variable {β : Type}

theorem Buffered.visit (written : Written vault) (buffered : Buffered room)
    (body : Visit β) : Buffered (body.section vault room).2 := by
  refine body.keeps (fun before next move kept => (kept.move written move).1)
    (fun before next stored clock _ numbered counts sized kept => ?_) (fun _ _ _ kept => ?_)
    (fun _ _ _ kept => ?_) buffered
  · obtain ⟨encoded, same, small⟩ := written stored.frame
    rw [same, Option.map_some, Option.some.injEq] at sized
    exact (kept.publish numbered counts (sized ▸ small) clock).1
  · exact ⟨⟨kept.window, kept.counted, kept.plain⟩, kept.bounded⟩
  · exact ⟨⟨kept.window, kept.counted, kept.plain⟩, kept.bounded⟩

theorem Buffered.suffix (written : Written vault) (buffered : Buffered room)
    (led : Relation.ReflTransGen (RoomMove vault) room after) : after.replay <:+ room.replay := by
  suffices both : Buffered after ∧ after.replay <:+ room.replay from both.2
  induction led with
  | refl => exact ⟨buffered, List.suffix_rfl⟩
  | tail _ move ih =>
    obtain ⟨kept, dropped⟩ := ih.1.move written move
    exact ⟨kept, dropped.trans ih.2⟩

/-! ### What is replayed -/

/-- A replay from a window is exactly the frames after the given number. -/
theorem Windowed.replayAfter (windowed : Windowed room) {afterSequence : UInt64}
    {frames : List TeamTerminalEncryptedFrame}
    (replayed : Client.replayAfter afterSequence room = .ok frames) :
    frames.map (fun frame => frame.sequence.toNat) =
        List.range' (afterSequence.toNat + 1)
          (room.nextOutputSequence.toNat - 1 - afterSequence.toNat) ∧
      frames <:+ room.replay.map StoredFrame.frame := by
  obtain ⟨first, positive, window⟩ := windowed.window
  have latest := toNat_saturatingPred windowed.positive
  simp only [Client.replayAfter, bind_eq_ok, ensure_eq_ok, exists_const] at replayed
  obtain ⟨known, replayed⟩ := replayed
  have known := UInt64.le_iff_toNat_le.mp known
  split at replayed
  · -- The participant has everything already.
    rename_i same
    obtain rfl := pure_eq_ok.mp replayed
    rw [← latest, ← same, Nat.sub_self]
    exact ⟨rfl, List.nil_suffix⟩
  · rename_i differs
    have behind : afterSequence.toNat ≠ (saturatingPred room.nextOutputSequence).toNat :=
      fun same => differs (UInt64.toNat_inj.mp same)
    simp only [bind_eq_ok, required_eq_ok, ensure_eq_ok, exists_const, pure_eq_ok, Option.map_eq_some_iff] at replayed
    obtain ⟨_, ⟨front, found, rfl⟩, covered, rfl⟩ := replayed
    have begins : (front.frame.sequence.toNat : Int) = first := window.head found
    have word := afterSequence.toNat_lt
    have bound := room.nextOutputSequence.toNat_lt
    have covered : front.frame.sequence.toNat ≤ afterSequence.toNat + 1 :=
      covered.trans (Nat.min_le_left _ _)
    -- The buffer is cut right behind the last number that the participant has.
    obtain ⟨old, new, split, before, behind'⟩ := window.cut
      (show first ≤ (afterSequence.toNat : Int) + 1 by omega) (by omega)
    have kept : (room.replay.filter fun stored => afterSequence < stored.frame.sequence) = new := by
      rw [split, List.filter_append, List.filter_eq_nil_iff.mpr, List.nil_append, List.filter_eq_self.mpr]
      · intro stored member
        have inside := behind'.bounds member
        exact decide_eq_true (UInt64.lt_iff_toNat_lt.mpr (by
          have low := inside.1
          rw [StoredFrame.number] at low
          omega))
      · intro stored member later
        have inside := before.bounds member
        have above := UInt64.lt_iff_toNat_lt.mp (of_decide_eq_true later)
        have low := inside.2
        rw [StoredFrame.number] at low
        omega
    have length := behind'.next_eq
    rw [kept]
    constructor
    · have numbers := behind'.map_eq_range'
      rw [List.map_map]
      refine numbers.trans (congrArg₂ List.range' ?_ ?_)
      · omega
      · omega
    · rw [split, List.map_append]
      exact List.suffix_append _ _

/-! ### What an invitation promises -/

variable {role : Role} {memberId deviceId : String}

theorem seatDevice_ok {moved joinedAt : String}
    (admitted : seatDevice moved memberId deviceId role joinedAt room = (.ok (), after)) :
    ∃ participants, after = { room with participants } ∧
      (participants.find? deviceId).any (fun held => held.participant.memberId = memberId) = true := by
  rw [seatDevice, Section.get_bind_apply] at admitted
  obtain ⟨_, few, admitted⟩ := Section.check_bind_eq_ok.mp admitted
  cases held : room.participants.find? deviceId with
  | some seated =>
    simp only [held] at admitted
    obtain ⟨_, own, admitted⟩ := Section.check_bind_eq_ok.mp admitted
    cases admitted
    refine ⟨_, rfl, ?_⟩
    have keyed : seated.deviceId = deviceId := (Table.find?_some held).2
    have own := ensure_eq_ok.mp own
    rw [Table.find?_update, held]
    simp [keyed, own]
  | none =>
    simp only [held] at admitted
    cases admitted
    refine ⟨_, rfl, ?_⟩
    simp [Table.find?_put, ParticipantState.deviceId]

variable {recipientPublic : List UInt8} {authorization : TeamAuthorization}

variable {invitation : TeamTerminalInvitation} {hostDeviceId : String} {draws : InvitationDraws}

theorem inviteSection_ok (invited : inviteSection vault draws authorization hostDeviceId memberId deviceId role
      recipientPublic room = (.ok invitation, after)) :
    ∃ admitted, validateHost authorization room = .ok () ∧ room.status = .active ∧
      seatDevice "团队终端设备成员归属在邀请期间发生变化" memberId deviceId role
        (vault.rfc3339 draws.joinedAt) room = (.ok (), admitted) ∧
      invitation.replayFromSequence = (admitted.pruneReplay draws.clock).replayStart ∧
      after = (admitted.pruneReplay draws.clock).enableEncryption := by
  obtain ⟨host, invited⟩ := verifyHost_bind_eq_ok.mp invited
  obtain ⟨active, invited⟩ := verifyActive_bind_eq_ok.mp invited
  obtain ⟨_, admitted, entered, invited⟩ := Section.bind_eq_ok.mp invited
  rw [Section.get_bind_apply] at invited
  obtain ⟨wrapped, -, invited⟩ := Section.check_bind_eq_ok.mp invited
  rw [Section.modify_bind_apply, Section.get_bind_apply] at invited
  obtain ⟨signed, signature, invited⟩ := Section.check_bind_eq_ok.mp invited
  cases invited
  -- The signature is all that the signing adds to the invitation.
  simp only [signInvitation, bind_eq_ok, pure_eq_ok] at signature
  obtain ⟨secret, -, payload, -, rfl⟩ := signature
  exact ⟨admitted, host, active, entered, rfl, rfl⟩

theorem Windowed.replayStart (windowed : Windowed room) :
    ∃ frames, Client.replayAfter room.replayStart room = .ok frames := by
  obtain ⟨first, positive, window⟩ := windowed.window
  have latest := toNat_saturatingPred windowed.positive
  have length := window.next_eq
  cases replay : room.replay with
  | nil =>
    -- Without frames the replay starts at the end, where nothing is missing.
    have start : room.replayStart = saturatingPred room.nextOutputSequence := by
      simp [RoomState.replayStart, replay]
    refine ⟨[], ?_⟩
    rw [Client.replayAfter, start, ensure_of (UInt64.le_refl _), ok_bind, if_pos rfl]
    rfl
  | cons front rest =>
    have begins : (front.frame.sequence.toNat : Int) = first := window.head (by rw [replay]; rfl)
    have start : room.replayStart = saturatingPred front.frame.sequence := by
      simp [RoomState.replayStart, replay]
    rw [replay, List.length_cons] at length
    have before := @toNat_saturatingPred front.frame.sequence (by omega)
    have known : room.replayStart ≤ saturatingPred room.nextOutputSequence := by
      rw [start, UInt64.le_iff_toNat_le]
      omega
    have differs : room.replayStart ≠ saturatingPred room.nextOutputSequence := by
      intro same
      have words := congrArg UInt64.toNat same
      rw [start] at words
      omega
    have covered : front.frame.sequence.toNat ≤ saturatingAdd room.replayStart.toNat 1 := by
      have word := front.frame.sequence.toNat_lt
      rw [start, saturatingAdd]
      omega
    rw [Client.replayAfter, ensure_of known, ok_bind, if_neg differs, replay, List.head?_cons,
      Option.map_some, required_some, ok_bind, ensure_of covered, ok_bind]
    exact ⟨_, rfl⟩

theorem Buffered.served (buffered : Buffered room)
    (invited : inviteSection vault draws authorization hostDeviceId memberId deviceId role
      recipientPublic room = (.ok invitation, after)) {clock : Nat → Tick}
    (still : ∀ i, clock i ≤ draws.clock (room.replay.length - after.replay.length)) :
    ∃ frames, (replaySection clock authorization memberId deviceId invitation.replayFromSequence
      after).1 = .ok frames := by
  obtain ⟨admitted, host, active, entered, start, rfl⟩ := inviteSection_ok invited
  obtain ⟨participants, rfl, seated⟩ := seatDevice_ok entered
  let left := ({ room with participants }.pruneReplay draws.clock).enableEncryption
  obtain ⟨dropped, kept, split, pruned, stops⟩ :=
    pruned_spec draws.clock room.replay buffered.counted
  have replay : left.replay = kept := congrArg Prod.fst pruned
  have bytes : left.replayBytes = (kept.map StoredFrame.bytes).sum := congrArg Prod.snd pruned
  have cut : room.replay.length - left.replay.length = dropped.length := by
    rw [replay, split, List.length_append, Nat.add_sub_cancel]
  have reading : clock 0 ≤ draws.clock dropped.length := cut ▸ still 0
  -- The front that stayed when the invitation was written may stay at the same reading.
  have unchanged : left.pruneReplay clock = left := by
    have same : RoomState.pruned clock left.replay left.replayBytes = (left.replay, left.replayBytes) := by
      refine pruned_eq_self fun front rest first => ?_
      rw [replay] at first ⊢
      rw [bytes]
      have stays := stops front rest first
      exact fun goes => stays (goes.imp_left fun old =>
        Int.lt_of_lt_of_le old (Int.sub_le_sub_right reading front.createdAt))
    show { left with replay := _, replayBytes := _ } = left
    rw [same]
  have windowed : Windowed left :=
    have base : Windowed { room with participants } := ⟨buffered.window, buffered.counted, buffered.plain⟩
    have pruned := (base.prune draws.clock).1
    ⟨pruned.window, pruned.counted, fun plain => by cases plain⟩
  obtain ⟨frames, replayed⟩ := windowed.replayStart
  refine ⟨frames, ?_⟩
  show ((verifyHost authorization >>= _) left).1 = _
  show ((Section.check (validateHost authorization left) >>= _) left).1 = _
  have host : validateHost authorization left = .ok () := host
  have present : left.status = .active ∧ (left.participants.find? deviceId).any
      (fun held => held.participant.memberId = memberId) = true := ⟨active, seated⟩
  rw [Section.check_bind_apply, host]
  show ((Section.check (ensure _ _) >>= _) left).1 = _
  rw [Section.check_bind_apply, ensure_of present]
  show (Client.replayAfter invitation.replayFromSequence (left.pruneReplay clock)) = _
  rw [unchanged, start]
  exact replayed

/-! ### Runs -/

def publishedFrame (roomId : String) : HostEntry → Option TeamTerminalEncryptedFrame
  | (_, ⟨.visit visited (.publish _ _ _), .ok (.ok frame)⟩) =>
      if visited = roomId then some frame else none
  | _ => none

/-- The frames that were published for a room since it was started, in order. -/
def publishedFrames (roomId : String) (log : List HostEntry) : List TeamTerminalEncryptedFrame :=
  Log.readSince startedRoom roomId (publishedFrame roomId) log

/-- A replay that succeeds returns exactly the published frames after the given number. -/
def ReplaysExactly (before : List HostEntry) : HostEntry → Prop
  | (desktop, ⟨.visit roomId (.replay _ _ _ _ afterSequence), .ok (.ok frames)⟩) =>
      ∀ room, desktop.rooms.find? roomId = some room →
        frames.map (fun frame => frame.sequence.toNat) =
            List.range' (afterSequence.toNat + 1)
              (room.nextOutputSequence.toNat - 1 - afterSequence.toNat) ∧
          frames <:+ publishedFrames roomId before
  | _ => True

/--
An invitation that is written can be served from where it says, as long as the clock stands still.

The clock is the one that the pruning for the invitation read last, before it left the buffer alone.
-/
def InvitesServed (vault : Vault) : HostEntry → Prop
  | (desktop, ⟨.visit roomId (.invite draws authorization hostDeviceId memberId deviceId role key),
      .ok (.ok invitation)⟩) =>
      ∀ room left, desktop.rooms.find? roomId = some room →
        left = ((Visit.invite draws authorization hostDeviceId memberId deviceId role key).section
          vault room).2 →
        ∀ clock : Nat → Tick,
          (∀ i, clock i ≤ draws.clock (room.replay.length - left.replay.length)) →
          ∃ frames, ((Visit.replay clock authorization memberId deviceId
            invitation.replayFromSequence).section vault left).1 = .ok frames
  | _ => True

/-- The buffer of a room with the latest frames that were published for it. -/
def BufferOf (roomId : String) (log : List HostEntry) (room : RoomState) : Prop :=
  Buffered room ∧ room.replay.map StoredFrame.frame <:+ publishedFrames roomId log

theorem publishedFrame_failed (body : Visit β) (desktop : Desktop) (error : AppError) (visited : String) :
    publishedFrame roomId (desktop, ⟨.visit visited body, .ok (.error error)⟩) = none := by
  cases body <;> rfl

theorem Visit.Quiet.publishedFrame {body : Visit β} (quiet : body.Quiet)
    (desktop : Desktop) (result : AppResult β) (visited : String) :
    Client.publishedFrame roomId (desktop, ⟨.visit visited body, .ok result⟩) = none := by
  cases body with
  | publish draws authorization bytes => exact quiet.elim
  | _ => rfl

/-- What a section leaves in the buffer was there before, or is the frame that it published. -/
theorem Buffered.published (written : Written vault) (buffered : Buffered room) {β : Type}
    (body : Visit β) (desktop : Desktop) :
    (body.section vault room).2.replay.map StoredFrame.frame <:+
      room.replay.map StoredFrame.frame ++
        (publishedFrame roomId
          (desktop, ⟨.visit roomId body, .ok (body.section vault room).1⟩)).toList := by
  -- Only a publication that succeeds adds a frame.
  by_cases quiet : body.Quiet
  · rw [quiet.publishedFrame, Option.toList_none, List.append_nil]
    exact (buffered.suffix written (quiet.leads room)).map _
  cases ran : body.section vault room with
  | mk result final =>
    cases result with
    | error error =>
      rw [publishedFrame_failed, Option.toList_none, List.append_nil]
      exact (buffered.suffix written (body.failsBy room error final ran)).map _
    | ok value =>
      -- What expires or is installed as a lease is not in the buffer.
      have expires : ∀ next now, (RoomState.expireLease now next).replay = next.replay := by
        intro next now
        unfold RoomState.expireLease
        split
        · rfl
        · rfl
      cases body with
      | publish draws authorization bytes =>
        obtain ⟨next, encoded, active, numbered, counts, same, rfl⟩ := publishSection_ok ran
        obtain ⟨_, again, small⟩ := written value
        obtain rfl := Option.some.inj (same.symm.trans again)
        have added := (@Buffered.publish room buffered next ⟨value, encoded.length, draws.createdAt⟩
          numbered counts small draws.clock).2.map StoredFrame.frame
        rw [show publishedFrame roomId (desktop, ⟨.visit roomId (.publish draws authorization bytes),
          .ok (.ok value)⟩) = some value from if_pos rfl]
        rwa [List.map_append] at added
      | acceptInput authorization memberId deviceId leaseId sequence now =>
        obtain ⟨held, seated, next, -, -, -, -, -, -, rfl⟩ := acceptInputSection_ok ran
        show (RoomState.expireLease now room).replay.map _ <:+ room.replay.map _ ++ []
        rw [expires, List.append_nil]
      | grant authorization memberId deviceId leaseId expiresAt endsAt now =>
        obtain ⟨generation, -, -, rfl⟩ := grantSection_ok ran
        show (RoomState.expireLease now _).replay.map _ <:+ room.replay.map _ ++ []
        rw [expires, List.append_nil]
        exact List.suffix_rfl
      | applyLease authorization lease endsAt now =>
        rcases applyLeaseSection_ok ran with ⟨-, rfl⟩ | ⟨-, -, rfl⟩
        · show (RoomState.expireLease now room).replay.map _ <:+ room.replay.map _ ++ []
          rw [expires, List.append_nil]
        · show (RoomState.expireLease now _).replay.map _ <:+ room.replay.map _ ++ []
          rw [expires, List.append_nil]
          exact List.suffix_rfl
      | _ => exact absurd trivial quiet

variable {event : Event HostAction AppError} {desktop : Desktop} {log : List HostEntry}

theorem publishedFrames_elsewhere (apart : roomOf event ≠ some roomId) :
    publishedFrames roomId (log ++ [(desktop, event)]) = publishedFrames roomId log := by
  refine Log.readSince_quiet (startedRoom_elsewhere apart) ?_
  obtain ⟨action, outcome⟩ := event
  cases action with
  | visit visited body =>
    rcases outcome with _ | _ | _
    · cases body <;> rfl
    · exact publishedFrame_failed body desktop _ visited
    · cases body with
      | publish draws authorization bytes => exact if_neg fun same => apart (congrArg some same)
      | _ => rfl
  | _ => rfl

theorem BufferOf.step (written : Written vault) {before next : Option RoomState}
    (kept : ∀ room, before = some room → BufferOf roomId log room)
    (change : RoomChange vault roomId event before next) :
    ∀ room, next = some room → BufferOf roomId (log ++ [(desktop, event)]) room := by
  cases change with
  | kept apart =>
    intro room held
    rw [BufferOf, publishedFrames_elsewhere apart]
    exact kept room held
  | forgotten apart ended =>
    intro room held
    cases held
  | @shut event old apart =>
    intro room held
    obtain rfl := Option.some.inj held
    have buffered := (kept old rfl).1
    exact ⟨(buffered.move written .closed).1, List.nil_suffix⟩
  | @opened _ opened fresh shown same =>
    intro room held
    obtain rfl := Option.some.inj held
    -- A new room has an empty buffer before its first output.
    have first : opened.nextOutputSequence.toNat = 1 := congrArg UInt64.toNat fresh.first
    refine ⟨⟨⟨⟨1, by decide, ?_⟩, ?_, fun _ => fresh.empty⟩, ?_⟩, ?_⟩
    · rw [fresh.empty, first]
      exact .nil 1
    · rw [ReplayCounted, fresh.empty, fresh.weightless]
      rfl
    · rw [fresh.weightless]
      exact Nat.zero_le _
    · rw [fresh.empty]
      exact List.nil_suffix
  | @visited β body old =>
    intro room held
    obtain rfl := Option.some.inj held
    obtain ⟨buffered, suffix⟩ := kept old rfl
    refine ⟨buffered.visit written body, ?_⟩
    have left := @Buffered.published vault old roomId written buffered β body desktop
    rw [publishedFrames, Log.readSince_snoc (Option.some_ne_none roomId).symm]
    -- The old frames end what was published, so the new ones end it with what the section adds.
    exact left.trans ((List.suffix_append_self_iff).mpr suffix)

theorem BufferOf.served (kept : BufferOf roomId log room)
    (found : desktop.rooms.find? roomId = some room) (body : Visit β) :
    ReplaysExactly log (desktop, ⟨.visit roomId body, .ok (body.section vault room).1⟩) ∧
      InvitesServed vault (desktop, ⟨.visit roomId body, .ok (body.section vault room).1⟩) := by
  cases ran : body.section vault room with
  | mk result final =>
    cases result with
    | error error =>
      -- A section that fails returns neither frames nor an invitation.
      cases body <;> exact ⟨trivial, trivial⟩
    | ok value =>
      cases body with
      | replay clock authorization memberId deviceId afterSequence =>
        refine ⟨fun same held => ?_, trivial⟩
        obtain rfl := Option.some.inj (found.symm.trans held)
        obtain ⟨-, ran⟩ := verifyHost_bind_eq_ok.mp ran
        rw [Section.get_bind_apply] at ran
        obtain ⟨_, -, ran⟩ := Section.check_bind_eq_ok.mp ran
        rw [Section.modify_bind_apply, Section.get_bind_apply, Section.check_eq_ok] at ran
        -- The buffer is pruned before it is read, and pruning drops frames from its front.
        obtain ⟨pruned, dropped⟩ := kept.1.prune clock
        obtain ⟨numbers, suffix⟩ := pruned.replayAfter ran.1
        exact ⟨numbers, suffix.trans ((dropped.map _).trans kept.2)⟩
      | invite draws authorization hostDeviceId memberId deviceId role key =>
        refine ⟨trivial, fun same left held leaves clock still => ?_⟩
        obtain rfl := Option.some.inj (found.symm.trans held)
        have left : left = final := leaves.trans (congrArg Prod.snd ran)
        subst left
        exact kept.1.served ran still
      | _ => exact ⟨trivial, trivial⟩

/--
In every run the replay buffer of every room is contiguous, ends before the next output and has its
size counted; every replay returns exactly the frames that were published after the given one, and
every invitation can be served from where it says.
-/
theorem bufferKept (written : Written vault)
    {trace : List (Pool HostAction AppError Desktop × Pool.Label HostAction AppError)}
    {pool : Pool HostAction AppError Desktop} (run : (desktopSystem vault).Run trace pool) :
    (∀ room ∈ pool.store.rooms.rows, ReplayContiguous room ∧ ReplayCounted room) ∧
      Log.Everywhere (fun before entry => ReplaysExactly before entry ∧ InvitesServed vault entry)
        (hostLog trace) := by
  have history : ∀ roomId,
      (∀ room, pool.store.rooms.find? roomId = some room → BufferOf roomId (hostLog trace) room) ∧
        Log.Everywhere (fun before entry => roomOf entry.2 = some roomId →
          ReplaysExactly before entry ∧ InvitesServed vault entry) (hostLog trace) := by
    intro roomId
    refine room_history roomId (fun log room? => (∀ room, room? = some room → BufferOf roomId log room) ∧
      Log.Everywhere (fun before entry => roomOf entry.2 = some roomId →
        ReplaysExactly before entry ∧ InvitesServed vault entry) log)
      ⟨fun room held => (nomatch held), .nil _⟩ ?_ run
    intro log desktop event before after ⟨kept, served⟩ stored change
    refine ⟨BufferOf.step written kept change, served.snoc fun about => ?_⟩
    cases change with
    | kept apart => exact absurd about apart
    | forgotten apart ended => exact absurd about apart
    | shut apart => exact absurd about apart
    | opened same => exact ⟨trivial, trivial⟩
    | @visited β body room => exact (kept room rfl).served stored.symm body
  constructor
  · intro room member
    have buffered := ((history room.id).1 room (Table.find?_of_mem member)).1
    exact ⟨buffered.contiguous, buffered.counted⟩
  · intro before entry after split
    obtain ⟨desktop, event⟩ := entry
    -- Only a section on a room replays or invites.
    by_cases about : ∃ roomId, roomOf event = some roomId
    · obtain ⟨roomId, about⟩ := about
      exact (history roomId).2 before (desktop, event) after split about
    · have apart : ∀ roomId, roomOf event ≠ some roomId := fun roomId same => about ⟨roomId, same⟩
      obtain ⟨action, outcome⟩ := event
      cases action with
      | visit roomId body =>
        cases outcome with
        | error error => cases body <;> exact ⟨trivial, trivial⟩
        | ok result => exact absurd rfl (apart roomId)
      | _ => exact ⟨trivial, trivial⟩

theorem written_demo : Written Demo.vault := by
  intro frame
  refine ⟨_, rfl, ?_⟩
  rw [List.length_take]
  exact lt_of_le_of_lt (Nat.min_le_left _ _) (by decide)

/-- A run that publishes a frame keeps it in a counted window. -/
theorem bufferKept_published : ∃ trace pool room, (desktopSystem Demo.vault).Run trace pool ∧
    room ∈ pool.store.rooms.rows ∧ room.replay.length = 1 ∧ ReplayContiguous room ∧
    ReplayCounted room := by
  have published := (Demo.hosts_hosted .operator 1 (.any _)).visit
    (.publish ⟨Relay.Demo.random 0, 0, fun _ => 0, fun _ _ => .ok (Relay.Demo.random 0)⟩
      (Demo.owner 1) [7])
    (.any (HostCall.serve Demo.vault (Demo.draws 0) (.publishEncryptedOutput (Relay.Demo.uuid 5) [7])))
    (fun desktop db found => by
      rw [HostCall.serve, Program.exec_discard]
      exact congrArg Prod.snd (Demo.exec_host desktop db found rfl _))
  obtain ⟨desktop, ⟨trace, run, -⟩, -, found⟩ := published
  have member := (Table.find?_some found).1
  exact ⟨trace, _, _, run, member, rfl, (bufferKept written_demo run).1 _ member⟩

end Client

end CNShell
