import CNShell.Client.Models
import CNShell.Library.Lossy
import Mathlib.Data.Nat.Find

/-! A remote command whose output is polled: the packets of its channel, and the order in which they arrive. -/

namespace CNShell

namespace Ssh

open Client (AppError AppResult)

/-- The two streams of a command. -/
inductive Stream
  | stdout
  | stderr
  deriving DecidableEq

def Stream.other : Stream → Stream
  | .stdout => .stderr
  | .stderr => .stdout

/-- What the server sends for the channel of a command. -/
inductive Packet
  | data (stream : Stream) (bytes : List UInt8)
  | exitStatus (status : Int)
  | eof
  | close
  deriving DecidableEq

def Packet.bytes (stream : Stream) : Packet → List UInt8
  | .data other bytes => if other = stream then bytes else []
  | _ => []

def Packet.status : Packet → Option Int
  | .exitStatus status => some status
  | _ => none

/-- A channel in non-blocking mode: its packets, and how many bytes of each stream were read. -/
structure Channel where
  arrived : List Packet
  coming : List Packet
  taken : Stream → Nat

namespace Channel

variable (channel : Channel)

/-- Some more packets arrive. -/
def arrive (count : Nat) : Channel :=
  { channel with arrived := channel.arrived ++ channel.coming.take count, coming := channel.coming.drop count }

def delivered (stream : Stream) : List UInt8 := channel.arrived.flatMap (Packet.bytes stream)

/-- What was not read yet. -/
def queued (stream : Stream) : List UInt8 := (channel.delivered stream).drop (channel.taken stream)

/-- Whether the end of the streams has arrived, and nothing is left to read. -/
def eof : Bool :=
  channel.arrived.any (fun packet => packet = .eof ∨ packet = .close) && channel.queued .stdout == [] &&
    channel.queued .stderr == []

def closed : Bool := channel.arrived.any (· = .close)

def exitStatus : Int := (channel.arrived.filterMap Packet.status).getLast?.getD 0

/-- The bytes that a read gives, none of them at the end of the streams or where it would block. -/
def read (stream : Stream) (most : Nat) : List UInt8 × Channel :=
  let chunk := (channel.queued stream).take (min (max 1 most) (32 * 1024))
  (chunk, { channel with
    taken := fun other => channel.taken other + if other = stream then chunk.length else 0 })

end Channel

/-- What arrives before the two reads of a turn of the loop, and how many bytes they may give. -/
structure Turn where
  before : Stream → Nat
  most : Stream → Nat

namespace Channel

/-- A channel of which nothing has arrived. -/
def opened (packets : List Packet) : Channel := ⟨[], packets, fun _ => 0⟩

variable (channel : Channel)

def step (stream : Stream) (turn : Turn) : Channel :=
  ((channel.arrive (turn.before stream)).read stream (turn.most stream)).2

def turn (turn : Turn) : Channel := (channel.step .stdout turn).step .stderr turn

def after (turns : List Turn) : Channel := turns.foldl Channel.turn channel

end Channel

def arrivals (turns : List Turn) : Nat := (turns.map fun turn => turn.before .stdout + turn.before .stderr).sum

/-- The state of the loop. -/
structure Reading where
  channel : Channel
  collected : Stream → List UInt8
  truncated : Bool

/-- More data behind what was collected, up to a limit. -/
def appendLimited (target data : List UInt8) (truncated : Bool) (limit : Nat) : List UInt8 × Bool :=
  let remaining := limit - target.length
  (if 0 < remaining then target ++ data.take (min data.length remaining) else target,
    truncated || decide (remaining < data.length))

section Loop

variable (outputLimit : Nat)

def pollStream (stream : Stream) (turn : Turn) (poll : Reading) : Reading :=
  let (chunk, channel) := (poll.channel.arrive (turn.before stream)).read stream (turn.most stream)
  if chunk = [] then { poll with channel := channel }
  else
    let (collected, truncated) := appendLimited (poll.collected stream) chunk poll.truncated
      (outputLimit - (poll.collected stream.other).length)
    { channel := channel
      collected := fun other => if other = stream then collected else poll.collected other
      truncated := truncated }

def pollTurn (turn : Turn) (poll : Reading) : Reading :=
  pollStream outputLimit .stderr turn (pollStream outputLimit .stdout turn poll)

/-- The loop, which ends with the streams; nothing where the time is up before. -/
def pollLoop : List Turn → Reading → Option Reading
  | [], _ => none
  | turn :: turns, poll =>
    let next := pollTurn outputLimit turn poll
    if next.channel.eof then some next else pollLoop turns next

structure RemoteCommandResult where
  stdout : List UInt8
  stderr : List UInt8
  exitCode : Int
  truncated : Bool
  deriving DecidableEq

/-- What follows the loop: the one wait for the end of the channel, and the result. -/
def finish (closing : Nat) (poll : Reading) : AppResult RemoteCommandResult :=
  let channel := poll.channel.arrive closing
  if channel.closed then
    .ok {
      stdout := lossy (poll.collected .stdout)
      stderr := lossy (poll.collected .stderr)
      exitCode := channel.exitStatus
      truncated := poll.truncated }
  -- the wait is not repeated
  else .error (.remote "[Session(-37)] Would block")

def Reading.start (packets : List Packet) : Reading := ⟨.opened packets, fun _ => [], false⟩

/-- A command that is not cancelled, of which some packets arrive during the wait at the end. -/
def executeCommand (packets : List Packet) (turns : List Turn) (closing : Nat) :
    Option (AppResult RemoteCommandResult) :=
  (pollLoop outputLimit turns (.start packets)).map (finish closing)

end Loop

/-- The packets of a command that finishes: the data before EOF, CLOSE last, and one exit status. -/
structure Conversation (packets : List Packet) (sent : Stream → List UInt8) (status : Int) : Prop where
  parts : ∃ first second, packets = first ++ .eof :: (second ++ [.close]) ∧
    (∀ packet ∈ first ++ second, packet ≠ .eof ∧ packet ≠ .close) ∧
    (∀ stream, ∀ packet ∈ second, packet.bytes stream = []) ∧
    (∀ stream, first.flatMap (Packet.bytes stream) = sent stream) ∧
    (first ++ second).filterMap Packet.status = [status]

/-- The turns after which the channel first tells that the streams have ended. -/
def EndsAfter (packets : List Packet) (turns : List Turn) (used : Nat) : Prop :=
  ((Channel.opened packets).after (turns.take used)).eof = true ∧
    ∀ fewer < used, ((Channel.opened packets).after (turns.take fewer)).eof = false

structure Complete (outputLimit : Nat) (sent : Stream → List UInt8) (status : Int) (result : RemoteCommandResult) :
    Prop where
  texts : ∃ out err, out <+: sent .stdout ∧ err <+: sent .stderr ∧ out.length + err.length ≤ outputLimit ∧
    result.stdout = lossy out ∧ result.stderr = lossy err ∧
    (result.truncated = true ↔ out ≠ sent .stdout ∨ err ≠ sent .stderr) ∧
    (result.truncated = true → out.length + err.length = outputLimit)
  exitCode : result.exitCode = status

/-! # The channel -/

/-- Some of the packets have arrived, in their order, and no more was read than they brought. -/
structure Channel.Fed (packets : List Packet) (count : Nat) (channel : Channel) : Prop where
  arrived : channel.arrived = packets.take count
  coming : channel.coming = packets.drop count
  taken : ∀ stream, channel.taken stream ≤ (channel.delivered stream).length

namespace Channel

variable {packets : List Packet} {count : Nat} {channel : Channel}

theorem Fed.opened : Fed packets 0 (opened packets) where
  arrived := by simp [Channel.opened]
  coming := by simp [Channel.opened]
  taken := fun _ => Nat.zero_le _

theorem delivered_arrive (channel : Channel) (more : Nat) (stream : Stream) :
    channel.delivered stream <+: (channel.arrive more).delivered stream := by
  simp [delivered, arrive, List.flatMap_append]

theorem Fed.arrive (fed : Fed packets count channel) (more : Nat) :
    Fed packets (count + more) (channel.arrive more) where
  arrived := by
    simp only [Channel.arrive, fed.arrived, fed.coming]
    exact List.take_add.symm
  coming := by
    simp only [Channel.arrive, fed.coming, List.drop_drop]
  taken := fun stream =>
    Nat.le_trans (fed.taken stream) (delivered_arrive channel more stream).length_le

@[simp] theorem delivered_read (channel : Channel) (stream other : Stream) (most : Nat) :
    (channel.read stream most).2.delivered other = channel.delivered other := rfl

theorem taken_read (channel : Channel) (stream other : Stream) (most : Nat) :
    (channel.read stream most).2.taken other =
      channel.taken other + if other = stream then (channel.read stream most).1.length else 0 := rfl

theorem length_queued (channel : Channel) (stream : Stream) :
    (channel.queued stream).length = (channel.delivered stream).length - channel.taken stream := by
  simp [queued]

theorem length_read (channel : Channel) (stream : Stream) (most : Nat) :
    (channel.read stream most).1.length = min (min (max 1 most) (32 * 1024)) (channel.queued stream).length := by
  simp [read]

theorem Fed.read (fed : Fed packets count channel) (stream : Stream) (most : Nat) :
    Fed packets count (channel.read stream most).2 where
  arrived := fed.arrived
  coming := fed.coming
  taken := fun other => by
    -- A chunk is a part of what is queued.
    have bound := fed.taken other
    have shorter := length_read channel stream most
    have left := length_queued channel stream
    rw [delivered_read, taken_read]
    split
    next same =>
      subst same
      omega
    next => omega

theorem Fed.step (fed : Fed packets count channel) (stream : Stream) (turn : Turn) :
    Fed packets (count + turn.before stream) (channel.step stream turn) :=
  (fed.arrive _).read stream _

theorem Fed.turn (fed : Fed packets count channel) (turn : Turn) :
    Fed packets (count + (turn.before .stdout + turn.before .stderr)) (channel.turn turn) := by
  rw [← Nat.add_assoc]
  exact (fed.step .stdout turn).step .stderr turn

theorem Fed.after (fed : Fed packets count channel) (turns : List Turn) :
    Fed packets (count + arrivals turns) (channel.after turns) := by
  induction turns generalizing count channel with
  | nil => exact fed
  | cons turn turns ih =>
    have last := ih (fed.turn turn)
    rw [Nat.add_assoc] at last
    exact last

theorem take_read (channel : Channel) (stream : Stream) (most : Nat) :
    (channel.delivered stream).take (channel.taken stream + (channel.read stream most).1.length) =
      (channel.delivered stream).take (channel.taken stream) ++ (channel.read stream most).1 := by
  rw [List.take_add, read, List.length_take, queued, ← List.take_take, List.take_length]

/-- How much of the streams has arrived and was not read. -/
def unread (channel : Channel) : Nat := (channel.queued .stdout).length + (channel.queued .stderr).length

theorem eof_iff (fed : Fed packets count channel) :
    channel.eof = true ↔ (.eof ∈ packets.take count ∨ .close ∈ packets.take count) ∧
      ∀ stream, channel.taken stream = (channel.delivered stream).length := by
  have atOut := fed.taken .stdout
  have atErr := fed.taken .stderr
  have both : (∀ stream, channel.taken stream = (channel.delivered stream).length) ↔
      channel.taken .stdout = (channel.delivered .stdout).length ∧
        channel.taken .stderr = (channel.delivered .stderr).length :=
    ⟨fun all => ⟨all _, all _⟩, fun all stream => by cases stream; exacts [all.1, all.2]⟩
  rw [both]
  simp only [eof, Bool.and_eq_true, List.any_eq_true, decide_eq_true_eq, beq_iff_eq, fed.arrived, queued,
    List.drop_eq_nil_iff, and_or_left, exists_or, exists_eq_right, and_assoc]
  refine and_congr_right fun _ => ?_
  constructor
  · rintro ⟨atOut', atErr'⟩
    exact ⟨by omega, by omega⟩
  · rintro ⟨atOut', atErr'⟩
    exact ⟨by omega, by omega⟩

theorem Fed.arrive_all (fed : Fed packets count channel) (all : packets.length ≤ count) (more : Nat) :
    channel.arrive more = channel := by
  have none : channel.coming = [] := by rw [fed.coming, List.drop_eq_nil_of_le all]
  cases channel
  simp_all [Channel.arrive]

theorem Fed.queued_step (fed : Fed packets count channel) (all : packets.length ≤ count) (stream other : Stream)
    (turn : Turn) : ((channel.step stream turn).queued other).length =
      (channel.queued other).length - if other = stream then min (max 1 (turn.most stream)) (32 * 1024) else 0 := by
  -- Nothing arrives any more, so that only the read changes what is queued.
  have bound := fed.taken other
  rw [Channel.step, fed.arrive_all all, length_queued, length_queued, delivered_read, taken_read, length_read, length_queued]
  split
  next same =>
    subst same
    omega
  next => omega

theorem Fed.unread_turn (fed : Fed packets count channel) (all : packets.length ≤ count) (turn : Turn) :
    (channel.turn turn).unread ≤ channel.unread - 1 := by
  have next := fed.step .stdout turn
  have out := fed.queued_step all .stdout .stdout turn
  have err := fed.queued_step all .stdout .stderr turn
  have out' := next.queued_step (Nat.le_trans all (Nat.le_add_right _ _)) .stderr .stdout turn
  have err' := next.queued_step (Nat.le_trans all (Nat.le_add_right _ _)) .stderr .stderr turn
  simp only [reduceCtorEq, if_true, if_false] at out err out' err'
  simp only [unread, Channel.turn]
  -- Each of the two reads gives a byte where one is queued.
  omega

theorem Fed.ends (fed : Fed packets count channel) (all : packets.length ≤ count) (marked : .eof ∈ packets)
    (turns : List Turn) (ample : channel.unread ≤ turns.length) :
    ∃ used, (channel.after (turns.take used)).eof = true := by
  induction turns generalizing count channel with
  | nil =>
    -- Nothing is left to read.
    refine ⟨0, (eof_iff fed).mpr ⟨.inl ?_, ?_⟩⟩
    · rwa [List.take_of_length_le all]
    · intro stream
      have bound := fed.taken stream
      have out := length_queued channel .stdout
      have err := length_queued channel .stderr
      simp only [unread, List.length_nil] at ample
      cases stream
      all_goals omega
  | cons turn turns ih =>
    have fewer := fed.unread_turn all turn
    simp only [List.length_cons] at ample
    obtain ⟨used, ended⟩ := ih (fed.turn turn) (Nat.le_trans all (Nat.le_add_right _ _)) (by omega)
    exact ⟨used + 1, ended⟩

theorem after_append (channel : Channel) (first second : List Turn) :
    channel.after (first ++ second) = (channel.after first).after second := List.foldl_append

end Channel

theorem endsAfter_of_ample {packets : List Packet} (early late : List Turn) (marked : .eof ∈ packets)
    (timely : packets.length ≤ arrivals early)
    (ample : (packets.flatMap (Packet.bytes .stdout)).length + (packets.flatMap (Packet.bytes .stderr)).length ≤
      late.length) : ∃ used, EndsAfter packets (early ++ late) used := by
  have fed : Channel.Fed packets _ _ := Channel.Fed.opened.after early
  rw [Nat.zero_add] at fed
  -- No more is left than all packets bring.
  have total (stream : Stream) :
      (((Channel.opened packets).after early).queued stream).length ≤
        (packets.flatMap (Packet.bytes stream)).length := by
    rw [Channel.length_queued, Channel.delivered, fed.arrived, List.take_of_length_le timely]
    exact Nat.sub_le _ _
  have out := total .stdout
  have err := total .stderr
  obtain ⟨more, ended⟩ := fed.ends timely marked late (by simp only [Channel.unread]; omega)
  have reached : ∃ used, ((Channel.opened packets).after ((early ++ late).take used)).eof = true :=
    ⟨early.length + more, by rw [List.take_append]; simpa [Channel.after_append, List.take_of_length_le] using ended⟩
  exact ⟨Nat.find reached, Nat.find_spec reached, fun fewer less => by simpa using Nat.find_min reached less⟩

/-! # The loop -/

@[simp] theorem pollStream_channel (limit : Nat) (stream : Stream) (turn : Turn) (poll : Reading) :
    (pollStream limit stream turn poll).channel = poll.channel.step stream turn := by
  rw [pollStream]
  split
  next chunk channel given =>
    have last : channel = poll.channel.step stream turn := (congrArg Prod.snd given).symm
    subst last
    split <;> rfl

@[simp] theorem pollTurn_channel (limit : Nat) (turn : Turn) (poll : Reading) :
    (pollTurn limit turn poll).channel = poll.channel.turn turn := by
  rw [pollTurn, pollStream_channel, pollStream_channel]
  rfl

/-- The state of the loop after some turns. -/
def Reading.after (limit : Nat) (turns : List Turn) (poll : Reading) : Reading :=
  turns.foldl (fun poll turn => pollTurn limit turn poll) poll

theorem Reading.after_channel (limit : Nat) (turns : List Turn) (poll : Reading) :
    (poll.after limit turns).channel = poll.channel.after turns := by
  induction turns generalizing poll with
  | nil => rfl
  | cons turn turns ih =>
    have last := ih (pollTurn limit turn poll)
    rw [pollTurn_channel] at last
    exact last

theorem pollLoop_first (limit : Nat) (turns : List Turn) (poll : Reading) (used : Nat)
    (some : 0 < used) (within : used ≤ turns.length)
    (ended : (poll.channel.after (turns.take used)).eof = true)
    (first : ∀ fewer, 0 < fewer → fewer < used → (poll.channel.after (turns.take fewer)).eof = false) :
    pollLoop limit turns poll = Option.some (poll.after limit (turns.take used)) := by
  induction turns generalizing poll used with
  | nil => exact absurd within (by simp only [List.length_nil]; omega)
  | cons turn turns ih =>
    obtain ⟨rest, rfl⟩ := Nat.exists_eq_succ_of_ne_zero (Nat.pos_iff_ne_zero.mp some)
    rw [pollLoop]
    rcases Nat.eq_zero_or_pos rest with rfl | more
    · -- The first turn is the one.
      have now : (poll.channel.turn turn).eof = true := ended
      rw [pollTurn_channel, if_pos now]
      rfl
    · have before : (poll.channel.turn turn).eof = false := first 1 (by decide) (by omega)
      rw [pollTurn_channel, if_neg (by simp [before])]
      have shorter : rest ≤ turns.length := by simpa using within
      refine ih (pollTurn limit turn poll) rest more shorter ?_ ?_
      · rw [pollTurn_channel]
        exact ended
      · intro fewer positive less
        rw [pollTurn_channel]
        exact first (fewer + 1) (by omega) (by omega)

/-! # What is collected -/

theorem appendLimited_eq (target data : List UInt8) (truncated : Bool) (limit : Nat) :
    appendLimited target data truncated limit =
      (target ++ data.take (limit - target.length), truncated || decide (limit - target.length < data.length)) := by
  simp only [appendLimited, Prod.mk.injEq, and_true]
  split
  next => rw [Nat.min_comm, ← List.take_take, List.take_length]
  next full => rw [Nat.eq_zero_of_not_pos full, List.take_zero, List.append_nil]

theorem pollStream_eq (limit : Nat) (stream : Stream) (turn : Turn) (poll : Reading) :
    pollStream limit stream turn poll =
      let chunk := ((poll.channel.arrive (turn.before stream)).read stream (turn.most stream)).1
      let room := limit - (poll.collected stream.other).length - (poll.collected stream).length
      { channel := poll.channel.step stream turn
        collected := fun other => poll.collected other ++ if other = stream then chunk.take room else []
        truncated := poll.truncated || decide (room < chunk.length) } := by
  simp only [pollStream, appendLimited_eq]
  split
  next empty =>
    -- An empty chunk changes nothing.
    simp only [empty, List.take_nil, ite_self, List.append_nil, List.length_nil, Nat.not_lt_zero, decide_false,
      Bool.or_false]
    rfl
  next =>
    congr 1
    funext other
    split
    next same => rw [same]
    next => exact (List.append_nil _).symm

/-- What is collected is what was read, but for what is beyond the limit. -/
structure Reading.Sound (limit : Nat) (poll : Reading) : Prop where
  collected : ∀ stream, poll.collected stream <+: (poll.channel.delivered stream).take (poll.channel.taken stream)
  total : (poll.collected .stdout).length + (poll.collected .stderr).length ≤ limit
  truncated : poll.truncated = true ↔ ∃ stream, (poll.collected stream).length < poll.channel.taken stream
  full : poll.truncated = true → (poll.collected .stdout).length + (poll.collected .stderr).length = limit

namespace Reading.Sound

variable {limit : Nat} {packets : List Packet} {count : Nat} {poll : Reading}

theorem start : Sound limit (.start packets) where
  collected := fun _ => List.nil_prefix
  total := Nat.zero_le _
  truncated := by simp [Reading.start, Channel.opened]
  full := by simp [Reading.start]

theorem arrive (sound : Sound limit poll) (fed : poll.channel.Fed packets count) (more : Nat) :
    Sound limit { poll with channel := poll.channel.arrive more } where
  collected := fun stream => by
    -- What arrives comes behind what was read.
    obtain ⟨rest, whole⟩ := Channel.delivered_arrive poll.channel more stream
    have same : (poll.channel.delivered stream ++ rest).take (poll.channel.taken stream) =
        (poll.channel.delivered stream).take (poll.channel.taken stream) :=
      List.take_append_of_le_length (fed.taken stream)
    rw [whole] at same
    exact same ▸ sound.collected stream
  total := sound.total
  truncated := sound.truncated
  full := sound.full

theorem length_le (sound : Sound limit poll) (stream : Stream) :
    (poll.collected stream).length ≤ poll.channel.taken stream := by
  have shorter := (sound.collected stream).length_le
  rw [List.length_take] at shorter
  omega

theorem length_eq (sound : Sound limit poll)
    (spare : (poll.collected .stdout).length + (poll.collected .stderr).length < limit) (stream : Stream) :
    (poll.collected stream).length = poll.channel.taken stream := by
  have atMost := sound.length_le stream
  by_contra short
  have filled := sound.full (sound.truncated.mpr ⟨stream, by omega⟩)
  omega

theorem sum_eq (poll : Reading) (stream : Stream) :
    (poll.collected stream).length + (poll.collected stream.other).length =
      (poll.collected .stdout).length + (poll.collected .stderr).length := by
  cases stream
  · rfl
  · exact Nat.add_comm _ _

/-- The rule of one read, whose chunk is collected as far as there is room. -/
theorem read (sound : Sound limit poll) (fed : poll.channel.Fed packets count) (stream : Stream) (most room : Nat)
    (left : room = limit - (poll.collected stream.other).length - (poll.collected stream).length) :
    Sound limit {
      channel := (poll.channel.read stream most).2
      collected := fun other =>
        poll.collected other ++ if other = stream then (poll.channel.read stream most).1.take room else []
      truncated := poll.truncated || decide (room < (poll.channel.read stream most).1.length) } := by
  have total := sound.total
  have sum := sum_eq poll stream
  have complete (spare : 0 < room) := sound.length_eq (by omega)
  have added (other : Stream) : ((poll.collected other) ++
      if other = stream then (poll.channel.read stream most).1.take room else []).length =
        (poll.collected other).length +
          if other = stream then min room (poll.channel.read stream most).1.length else 0 := by
    rw [List.length_append]
    split <;> simp
  have addedTotal : ((poll.collected .stdout) ++
        if Stream.stdout = stream then (poll.channel.read stream most).1.take room else []).length +
      ((poll.collected .stderr) ++
        if Stream.stderr = stream then (poll.channel.read stream most).1.take room else []).length =
      (poll.collected stream).length + (poll.collected stream.other).length +
        min room (poll.channel.read stream most).1.length := by
    rw [added, added, sum]
    cases stream
    all_goals simp only [reduceCtorEq, if_true, if_false]
    all_goals omega
  refine ⟨fun other => ?_, ?_, ?_, fun dropped => ?_⟩
  · simp only [Channel.delivered_read, Channel.taken_read]
    split
    next same =>
      subst same
      rw [Channel.take_read]
      rcases Nat.eq_zero_or_pos room with none | spare
      · rw [none, List.take_zero, List.append_nil]
        exact (sound.collected other).trans (List.prefix_append _ _)
      · have whole := (sound.collected other).eq_of_length
          (by rw [List.length_take, complete spare other, Nat.min_eq_left (fed.taken other)])
        rw [whole]
        exact (List.prefix_append_right_inj _).mpr (List.take_prefix _ _)
    next =>
      rw [List.append_nil, Nat.add_zero]
      exact sound.collected other
  · rw [addedTotal]
    omega
  · simp only [Bool.or_eq_true, decide_eq_true_eq, added, Channel.taken_read]
    rw [sound.truncated]
    constructor
    · rintro (⟨other, short⟩ | beyond)
      · refine ⟨other, ?_⟩
        split
        next same =>
          have none : room = 0 := by
            rcases Nat.eq_zero_or_pos room with none | spare
            · exact none
            · exact absurd (complete spare other) (Nat.ne_of_lt short)
          omega
        next => exact short
      · refine ⟨stream, ?_⟩
        have atMost := sound.length_le stream
        rw [if_pos rfl, if_pos rfl]
        omega
    · rintro ⟨other, short⟩
      by_cases same : other = stream
      · rw [if_pos same, if_pos same] at short
        by_cases before : (poll.collected other).length < poll.channel.taken other
        · exact .inl ⟨other, before⟩
        · exact .inr (by omega)
      · rw [if_neg same, if_neg same] at short
        exact .inl ⟨other, short⟩
  · rw [addedTotal]
    simp only [Bool.or_eq_true, decide_eq_true_eq] at dropped
    rcases dropped with before | beyond
    · have filled := sound.full before
      omega
    · omega

theorem pollStream (sound : Sound limit poll) (fed : poll.channel.Fed packets count) (stream : Stream) (turn : Turn) :
    Sound limit (pollStream limit stream turn poll) := by
  rw [pollStream_eq]
  exact (sound.arrive fed (turn.before stream)).read (fed.arrive _) stream (turn.most stream) _ rfl

theorem after (sound : Sound limit poll) (fed : poll.channel.Fed packets count) (turns : List Turn) :
    Sound limit (poll.after limit turns) := by
  induction turns generalizing count poll with
  | nil => exact sound
  | cons turn turns ih =>
    have first := sound.pollStream fed .stdout turn
    have second := first.pollStream (by rw [pollStream_channel]; exact fed.step _ _) .stderr turn
    have next : (pollTurn limit turn poll).channel.Fed packets
        (count + (turn.before .stdout + turn.before .stderr)) := by
      rw [pollTurn_channel]
      exact fed.turn turn
    exact ih second next

end Reading.Sound

/-! # The result -/

variable {packets : List Packet} {sent : Stream → List UInt8} {status : Int}

theorem Conversation.marked (told : Conversation packets sent status) : .eof ∈ packets := by
  obtain ⟨first, second, rfl, -⟩ := told.parts
  simp

theorem Conversation.delivered (told : Conversation packets sent status) (stream : Stream) :
    packets.flatMap (Packet.bytes stream) = sent stream := by
  obtain ⟨first, second, rfl, -, silent, data, -⟩ := told.parts
  have rest : second.flatMap (Packet.bytes stream) = [] := List.flatMap_eq_nil_iff.mpr (silent stream)
  simp [List.flatMap_append, List.flatMap_cons, data stream, rest, Packet.bytes]

theorem Conversation.delivered_take (told : Conversation packets sent status) (count : Nat)
    (ended : Packet.eof ∈ packets.take count ∨ Packet.close ∈ packets.take count) (stream : Stream) :
    (packets.take count).flatMap (Packet.bytes stream) = sent stream := by
  obtain ⟨first, second, rfl, control, silent, data, -⟩ := told.parts
  rcases Nat.lt_or_ge first.length count with past | before
  · obtain ⟨more, rfl⟩ := Nat.exists_eq_add_of_lt past
    rw [Nat.add_assoc, List.take_append, List.take_of_length_le (Nat.le_add_right _ _), Nat.add_sub_cancel_left,
      List.take_succ_cons, List.flatMap_append, List.flatMap_cons, data stream]
    have rest : ((second ++ [Packet.close]).take more).flatMap (Packet.bytes stream) = [] := by
      rw [List.flatMap_eq_nil_iff]
      intro packet member
      rcases List.mem_append.mp (List.mem_of_mem_take member) with earlier | last
      · exact silent stream packet earlier
      · rw [List.mem_singleton.mp last]
        rfl
    rw [rest]
    exact List.append_nil _
  · -- Neither of the two is among the packets before EOF.
    rw [List.take_append_of_le_length before] at ended
    rcases ended with early | early
    · exact absurd rfl (control _ (List.mem_append_left _ (List.mem_of_mem_take early))).1
    · exact absurd rfl (control _ (List.mem_append_left _ (List.mem_of_mem_take early))).2

theorem Conversation.status_eq (told : Conversation packets sent status) :
    packets.filterMap Packet.status = [status] := by
  obtain ⟨first, second, rfl, -, -, -, statuses⟩ := told.parts
  rw [List.filterMap_append] at statuses
  simpa [List.filterMap_append, List.filterMap_cons, Packet.status] using statuses

theorem Conversation.closed_iff (told : Conversation packets sent status) (count : Nat) :
    Packet.close ∈ packets.take count ↔ packets.length ≤ count := by
  obtain ⟨first, second, rfl, control, -⟩ := told.parts
  have split : first ++ .eof :: (second ++ [.close]) = (first ++ .eof :: second) ++ [Packet.close] := by simp
  rw [split]
  constructor
  · intro member
    by_contra short
    rw [List.take_append_of_le_length (by simp only [List.length_append, List.length_singleton] at short ⊢; omega)]
      at member
    have earlier := List.mem_of_mem_take member
    simp only [List.mem_append, List.mem_cons, reduceCtorEq, false_or] at earlier
    exact absurd rfl (control .close (List.mem_append.mpr earlier)).2
  · intro all
    rw [List.take_of_length_le all]
    exact List.mem_append_right _ (List.mem_singleton.mpr rfl)

theorem Reading.Sound.complete {limit count : Nat} {poll : Reading} (sound : Reading.Sound limit poll)
    (fed : poll.channel.Fed packets count) (told : Conversation packets sent status)
    (ended : poll.channel.eof = true) : poll.collected .stdout <+: sent .stdout ∧
      poll.collected .stderr <+: sent .stderr ∧
      (poll.truncated = true ↔ poll.collected .stdout ≠ sent .stdout ∨ poll.collected .stderr ≠ sent .stderr) := by
  obtain ⟨marked, read⟩ := (Channel.eof_iff fed).mp ended
  have delivered (stream : Stream) : poll.channel.delivered stream = sent stream := by
    rw [Channel.delivered, fed.arrived]
    exact told.delivered_take count marked stream
  have parts (stream : Stream) : poll.collected stream <+: sent stream := by
    have part := sound.collected stream
    rwa [read, List.take_length, delivered] at part
  have short (stream : Stream) :
      (poll.collected stream).length < poll.channel.taken stream ↔ poll.collected stream ≠ sent stream := by
    rw [read, delivered]
    constructor
    · intro less same
      rw [same] at less
      exact absurd less (Nat.lt_irrefl _)
    · intro other
      exact Nat.lt_of_le_of_ne (parts stream).length_le fun same => other ((parts stream).eq_of_length same)
  refine ⟨parts _, parts _, sound.truncated.trans ⟨?_, ?_⟩⟩
  · rintro ⟨stream, less⟩
    cases stream with
    | stdout => exact .inl ((short _).mp less)
    | stderr => exact .inr ((short _).mp less)
  · rintro (out | err)
    · exact ⟨.stdout, (short _).mpr out⟩
    · exact ⟨.stderr, (short _).mpr err⟩

variable {turns : List Turn}

theorem EndsAfter.positive {used : Nat} (last : EndsAfter packets turns used) : 0 < used := by
  refine Nat.pos_of_ne_zero fun none => ?_
  have ended := last.1
  rw [none, List.take_zero] at ended
  exact absurd ended Bool.false_ne_true

theorem EndsAfter.within {used : Nat} (last : EndsAfter packets turns used) : used ≤ turns.length := by
  by_contra beyond
  have all := last.1
  rw [List.take_of_length_le (by omega), ← List.take_length (l := turns)] at all
  rw [last.2 turns.length (by omega)] at all
  exact Bool.false_ne_true all

/-- A command that finishes ends, however its packets come; its result is the whole one where the last of them, CLOSE,
has come by the wait that follows the turn in which its streams end. -/
theorem executeCommand_complete_iff (outputLimit : Nat) (packets : List Packet) (sent : Stream → List UInt8)
    (status : Int) (told : Conversation packets sent status) :
    (∀ early late, packets.length ≤ arrivals early →
      (sent .stdout).length + (sent .stderr).length ≤ late.length → ∃ used, EndsAfter packets (early ++ late) used) ∧
    ∀ turns used closing, EndsAfter packets turns used →
      ∃ outcome, executeCommand outputLimit packets turns closing = some outcome ∧
        ((∃ result, outcome = .ok result ∧ Complete outputLimit sent status result) ↔
          packets.length ≤ arrivals (turns.take used) + closing) := by
  constructor
  · intro early late timely ample
    refine endsAfter_of_ample early late told.marked timely ?_
    rwa [told.delivered, told.delivered]
  · intro turns used closing last
    have opened : Channel.Fed packets 0 (.opened packets) := .opened
    have started : Reading.Sound outputLimit (.start packets) := .start
    have fed := opened.after (turns.take used)
    have sound := started.after opened (turns.take used)
    have channel := Reading.after_channel outputLimit (turns.take used) (.start packets)
    have looped := pollLoop_first outputLimit turns (.start packets) used last.positive last.within last.1
      fun fewer _ => last.2 fewer
    generalize Reading.after outputLimit (turns.take used) (.start packets) = poll at sound channel looped
    rw [Nat.zero_add, show (Channel.opened packets).after (turns.take used) = poll.channel from channel.symm] at fed
    have ended : poll.channel.eof = true := by
      rw [channel]
      exact last.1
    refine ⟨finish closing poll, by rw [executeCommand, looped, Option.map_some], ?_⟩
    have waited := fed.arrive closing
    have closed : (poll.channel.arrive closing).closed = true ↔
        packets.length ≤ arrivals (turns.take used) + closing := by
      rw [← told.closed_iff, Channel.closed, waited.arrived]
      simp
    rw [← closed]
    simp only [finish]
    split
    next all =>
      obtain ⟨out, err, truncated⟩ := sound.complete fed told ended
      have exitCode : (poll.channel.arrive closing).exitStatus = status := by
        rw [Channel.exitStatus, waited.arrived, List.take_of_length_le (closed.mp all), told.status_eq]
        rfl
      exact iff_of_true ⟨_, rfl, ⟨_, _, out, err, sound.total, rfl, rfl, truncated, sound.full⟩, exitCode⟩ all
    next missing =>
      refine iff_of_false ?_ missing
      rintro ⟨result, given, -⟩
      cases given

namespace Demo

def quiet : List Packet := [.eof, .exitStatus 0, .close]

def turnOf (packets : Nat) : Turn := ⟨fun stream => if stream = .stdout then packets else 0, fun _ => 1⟩

/-- EOF comes with the first turn, the rest only with a second one. -/
def late : List Turn := [turnOf 1, turnOf 2]

theorem quiet_told : Conversation quiet (fun _ => []) 0 where
  parts := ⟨[], [.exitStatus 0], rfl, by decide, fun _ packet member => by
    rw [List.mem_singleton.mp member]
    rfl, fun _ => rfl, rfl⟩

theorem late_ends : EndsAfter quiet late 1 :=
  ⟨by decide, fun fewer less => by
    rw [Nat.lt_one_iff.mp less]
    decide⟩

/-- The command is over, all of it comes, and the result is an error. -/
theorem late_close_fails : ¬ ∀ (outputLimit : Nat) (packets : List Packet) (sent : Stream → List UInt8) (status : Int),
    Conversation packets sent status → ∀ turns used closing, packets.length ≤ arrivals turns →
      EndsAfter packets turns used → ∃ result, executeCommand outputLimit packets turns closing = some (.ok result) ∧
        Complete outputLimit sent status result := by
  intro all
  obtain ⟨result, given, -⟩ := all 10 quiet (fun _ => []) 0 quiet_told late 1 0 (by decide) late_ends
  have failed : executeCommand 10 quiet late 0 = some (.error (.remote "[Session(-37)] Would block")) := rfl
  rw [failed] at given
  cases given

/-- All of the same command in time. -/
theorem executeCommand_complete_iff_quiet : (∃ outcome, executeCommand 10 quiet late 2 = some outcome ∧
    ((∃ result, outcome = .ok result ∧ Complete 10 (fun _ => []) 0 result) ↔ 3 ≤ 3)) :=
  (executeCommand_complete_iff 10 quiet (fun _ => []) 0 quiet_told).2 late 1 2 late_ends

end Demo

end Ssh

end CNShell
