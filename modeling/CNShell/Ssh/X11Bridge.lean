import CNShell.Ssh.X11

/-! The bridge of an X11 channel: its setup, and then both directions in turn. -/

namespace CNShell

namespace Ssh

namespace X11

open Client (AppError AppResult)

/-- What a read of the channel returns; an `Ok(0)` is the end of the stream only if the channel says so. -/
inductive ReadAnswer
  | data (count : Nat)
  | nothing
  | endOfStream
  | again
  | failed (message : String)
  deriving DecidableEq, Repr

/-- What a read of the local X server returns. -/
inductive LocalAnswer
  | data (bytes : List UInt8)
  | endOfStream
  | again
  | failed (message : String)
  deriving DecidableEq, Repr

inductive WriteAnswer
  | wrote (count : Nat)
  | again
  | failed (message : String)
  deriving DecidableEq, Repr

/-- Where the thread of a channel is. -/
inductive Stage
  | connecting
  /-- It reads the setup request. -/
  | setup
  /-- It writes the setup request to the X server. -/
  | greeting
  | reading
  /-- It writes to the X server what it has read of the channel. -/
  | relaying
  | listening
  /-- It writes to the channel what it has read of the X server. -/
  | answering
  | ended (result : Except Abort Unit)
  deriving DecidableEq, Repr

/-- A channel with its thread. -/
structure Bridge where
  stage : Stage
  /-- The session is closing. -/
  stopped : Bool
  /-- What arrives and was not read yet. -/
  left : List UInt8
  /-- All that was read of the channel; while the setup is read, the bytes that are held. -/
  received : List UInt8
  /-- What is yet to be written to the X server. -/
  pending : List UInt8
  /-- What was written to the X server. -/
  handed : List UInt8
  /-- What is yet to be written to the channel. -/
  outgoing : List UInt8
  /-- What was written to the channel. -/
  answered : List UInt8
  deriving DecidableEq

/-- What happens to a channel. -/
inductive Event
  | stop
  /-- The X server is connected to, and its socket is set to be nonblocking. -/
  | connect (outcome : AppResult Unit)
  /-- The channel is read, in the setup with the deadline passed or not afterwards. -/
  | channelRead (answer : ReadAnswer) (late : Bool)
  | localWrite (answer : WriteAnswer)
  | localRead (answer : LocalAnswer)
  | channelWrite (answer : WriteAnswer)

namespace Bridge

/-- A channel on which a stream arrives. -/
def start (stream : List UInt8) : Bridge := ⟨.connecting, false, stream, [], [], [], [], []⟩

variable (fakeCookie realCookie : Cookie) (bridge : Bridge)

/-- The thread ends with an error. -/
def fail (error : AppError) : Bridge := { bridge with stage := .ended (.error (.refused error)) }

/-- The thread ends. -/
def close : Bridge := { bridge with stage := .ended (.ok ()) }

/-- Some more of the stream is read. -/
def take (count : Nat) : Bridge :=
  { bridge with received := bridge.received ++ bridge.left.take count, left := bridge.left.drop count }

/-- A read brings so many bytes, or the end of what there is. -/
def Reads (limit : Nat) (left : List UInt8) : ReadAnswer → Prop
  | .data count => 0 < count ∧ count ≤ limit ∧ count ≤ left.length
  | .endOfStream => left = []
  | .nothing | .again | .failed _ => True

instance (limit : Nat) (left : List UInt8) : DecidablePred (Reads limit left)
  | .data count => inferInstanceAs (Decidable (0 < count ∧ count ≤ limit ∧ count ≤ left.length))
  | .endOfStream => inferInstanceAs (Decidable (left = []))
  | .nothing | .again | .failed _ => isTrue trivial

/-- The deadline of the setup. -/
def timed (late : Bool) : Bridge := if late = true then bridge.fail (.unavailable "X11 初始化授权超时") else bridge

/-- What the bytes read so far lead to. -/
def rewrite (late : Bool) : Bridge :=
  match rewriteSetupCookie bridge.received fakeCookie realCookie with
  | .error abort => { bridge with stage := .ended (.error abort) }
  | .ok none => bridge.timed late
  | .ok (some setup) => { bridge with stage := .greeting, pending := setup }

def readAndRewriteSetup (late : Bool) : ReadAnswer → Bridge
  | .endOfStream => bridge.fail (.remote "X11 channel 在授权前关闭")
  | .nothing | .again => bridge.timed late
  | .failed message => bridge.fail (.storage message)
  | .data count =>
    if maxSetupBytes < bridge.received.length + count then
      (bridge.take count).fail (.validation "X11 初始化包超过 64 KB")
    else (bridge.take count).rewrite fakeCookie realCookie late

/-- The channel is read once the setup is done. -/
def relay : ReadAnswer → Bridge
  | .endOfStream => bridge.close
  | .nothing | .again => { bridge with stage := .listening }
  | .failed message => bridge.fail (.storage message)
  | .data count => { bridge.take count with stage := .relaying, pending := bridge.left.take count }

/-- One turn of `write_nonblocking`: `none` once it is over, and else how much was written. -/
def writeNonblocking (remaining : List UInt8) : WriteAnswer → AppResult (Option Nat)
  | answer =>
    if remaining = [] ∨ bridge.stopped = true then .ok none
    else
      match answer with
      | .wrote count => if count = 0 then .error (.storage "X11 write zero") else .ok (some count)
      | .again => .ok (some 0)
      | .failed message => .error (.storage message)

/-- The X server is written to, and after it the thread goes on with another stage. -/
def writeLocal (next : Stage) (answer : WriteAnswer) : Bridge :=
  match bridge.writeNonblocking bridge.pending answer with
  | .error error => bridge.fail error
  | .ok none => { bridge with stage := next }
  | .ok (some count) =>
    { bridge with handed := bridge.handed ++ bridge.pending.take count, pending := bridge.pending.drop count }

def writeChannel (answer : WriteAnswer) : Bridge :=
  match bridge.writeNonblocking bridge.outgoing answer with
  | .error error => bridge.fail error
  | .ok none => { bridge with stage := .reading }
  | .ok (some count) =>
    { bridge with answered := bridge.answered ++ bridge.outgoing.take count, outgoing := bridge.outgoing.drop count }

/-- The X server is read. -/
def listen : LocalAnswer → Bridge
  | .data bytes => { bridge with stage := .answering, outgoing := bytes }
  | .endOfStream => bridge.close
  | .again => { bridge with stage := .reading }
  | .failed message => bridge.fail (.storage message)

/-- A write takes no more than there is. -/
def Writes (remaining : List UInt8) : WriteAnswer → Prop
  | .wrote count => count ≤ remaining.length
  | .again | .failed _ => True

instance (remaining : List UInt8) : DecidablePred (Writes remaining)
  | .wrote count => inferInstanceAs (Decidable (count ≤ remaining.length))
  | .again | .failed _ => isTrue trivial

/-- One step of the thread, or of the session that closes. -/
def step : Event → Option Bridge
  | .stop => some { bridge with stopped := true }
  | .connect outcome =>
    match bridge.stage, outcome with
    | .connecting, .ok () => some { bridge with stage := .setup }
    | .connecting, .error error => some (bridge.fail error)
    | _, _ => none
  | .channelRead answer late =>
    match bridge.stage with
    | .setup =>
      if bridge.stopped = true then some (bridge.fail (.unavailable "X11 会话已关闭"))
      else if Reads setupBufferBytes bridge.left answer then
        some (bridge.readAndRewriteSetup fakeCookie realCookie late answer)
      else none
    | .reading =>
      if bridge.stopped = true then some bridge.close
      else if Reads relayBufferBytes bridge.left answer then some (bridge.relay answer)
      else none
    | _ => none
  | .localWrite answer =>
    if Writes bridge.pending answer then
      match bridge.stage with
      | .greeting => some (bridge.writeLocal .reading answer)
      | .relaying => some (bridge.writeLocal .listening answer)
      | _ => none
    else none
  | .localRead answer =>
    if bridge.stage = .listening then some (bridge.listen answer) else none
  | .channelWrite answer =>
    if bridge.stage = .answering ∧ Writes bridge.outgoing answer then some (bridge.writeChannel answer) else none

end Bridge

/-- A channel on which a stream arrives, under the one-time cookie of its session. -/
def bridgeSystem (fake real : Cookie) (stream : List UInt8) : System Bridge Event :=
  System.ofStep (fun bridge => bridge = .start stream) (Bridge.step fake real)

/-- What is to be handed to the X server for what was received. -/
inductive Due (fake real : Cookie) (received : List UInt8) : List UInt8 → Prop
  | nothing (unauthorized : ¬Authorized fake received) : Due fake real received []
  | stream (authorized : Authorized fake received) : Due fake real received (substituted real received)

/-- The thread has not decided yet. -/
def Bridge.Waits (bridge : Bridge) : Prop := bridge.stage = .connecting ∨ bridge.stage = .setup

/-- The thread has come to its end. -/
def Bridge.Ended (bridge : Bridge) : Prop := ∃ result, bridge.stage = .ended result

/-- The thread is writing to the X server, or it was kept from it. -/
def Bridge.Unfinished (bridge : Bridge) : Prop :=
  bridge.stage = .greeting ∨ bridge.stage = .relaying ∨ bridge.stopped = true ∨
    ∃ error, bridge.stage = .ended (.error (.refused error))

/-- The X server gets the stream with the real cookie, in order and up to what it was kept from, or nothing at all. -/
structure Bridge.Substitutes (fake real : Cookie) (stream : List UInt8) (bridge : Bridge) : Prop where
  whole : bridge.received ++ bridge.left = stream
  due : Due fake real bridge.received (bridge.handed ++ bridge.pending)
  flushed : bridge.pending ≠ [] → bridge.Unfinished
  inRange : bridge.stage ≠ .ended (.error .outOfRange)

/-- The session goes on, the X server is reached in time, and the stream has no error and no end. -/
def Event.Quiet : Event → Prop
  | .stop => False
  | .connect outcome => outcome = .ok ()
  | .channelRead answer late => late = false ∧ answer ≠ .endOfStream ∧ ∀ message, answer ≠ .failed message
  | .localWrite _ | .localRead _ | .channelWrite _ => True

theorem waits_of {fake real : Cookie} {bytes : List UInt8} (waits : rewriteSetupCookie bytes fake real = .ok none) :
    bytes.length < maxSetupBytes ∧ ¬Authorized fake bytes := by
  -- Of the three things that the code makes of the bytes this is the first.
  obtain ⟨-, bound, unauthorized⟩ | ⟨done, -⟩ | ⟨error, refused, -⟩ := rewriteSetupCookie_cases fake real bytes
  · exact ⟨bound, unauthorized⟩
  · rw [done] at waits
    cases waits
  · rw [refused] at waits
    cases waits

theorem rewriteSetupCookie_inRange (fake real : Cookie) (bytes : List UInt8) :
    rewriteSetupCookie bytes fake real ≠ .error .outOfRange := by
  intro fault
  obtain ⟨waits, -⟩ | ⟨done, -⟩ | ⟨error, refused, -⟩ := rewriteSetupCookie_cases fake real bytes
  · rw [waits] at fault
    cases fault
  · rw [done] at fault
    cases fault
  · rw [refused] at fault
    cases fault

section Runs

variable {fake real : Cookie} {stream : List UInt8} {bridge next : Bridge} {event : Event}

theorem Due.unique {received first second : List UInt8} (one : Due fake real received first)
    (other : Due fake real received second) : first = second := by
  cases one with
  | nothing unauthorized =>
    cases other with
    | nothing _ => rfl
    | stream authorized => exact absurd authorized unauthorized
  | stream authorized =>
    cases other with
    | nothing unauthorized => exact absurd authorized unauthorized
    | stream _ => rfl

theorem Due.append {received due : List UInt8} (so_far : Due fake real received due)
    (authorized : Authorized fake received) (more : List UInt8) :
    Due fake real (received ++ more) (due ++ more) := by
  cases so_far with
  | nothing unauthorized => exact absurd authorized unauthorized
  | stream _ =>
    rw [← substituted_append authorized.long]
    exact .stream ((authorized_append authorized.long).mpr authorized)

/-- What is known of the thread in each of its stages. -/
def Bridge.Phase (fake real : Cookie) (bridge : Bridge) : Prop :=
  match bridge.stage with
  | .connecting | .setup =>
    bridge.handed = [] ∧ bridge.pending = [] ∧ rewriteSetupCookie bridge.received fake real = .ok none
  | .greeting | .relaying => Authorized fake bridge.received
  | .reading | .listening | .answering =>
    Authorized fake bridge.received ∧ (bridge.stopped = false → bridge.pending = [])
  | .ended (.ok ()) => bridge.stopped = false → bridge.pending = []
  | .ended (.error abort) => abort ≠ .outOfRange

/-- What each step keeps. -/
structure Bridge.Carried (fake real : Cookie) (stream : List UInt8) (bridge : Bridge) : Prop where
  whole : bridge.received ++ bridge.left = stream
  due : Due fake real bridge.received (bridge.handed ++ bridge.pending)
  phase : bridge.Phase fake real

namespace Bridge

theorem take_whole (whole : bridge.received ++ bridge.left = stream) (count : Nat) :
    (bridge.take count).received ++ (bridge.take count).left = stream := by
  rw [take, List.append_assoc, List.take_append_drop, whole]

theorem Carried.fail (carried : bridge.Carried fake real stream) (error : AppError) :
    (bridge.fail error).Carried fake real stream := ⟨carried.whole, carried.due, nofun⟩

theorem Carried.timed (carried : bridge.Carried fake real stream) (late : Bool) :
    (bridge.timed late).Carried fake real stream := by
  unfold Bridge.timed
  split
  · exact carried.fail _
  · exact carried

theorem rewrite_carried (late : Bool) (stage : bridge.stage = .setup) (whole : bridge.received ++ bridge.left = stream)
    (handed : bridge.handed = []) (pending : bridge.pending = []) :
    (bridge.rewrite fake real late).Carried fake real stream := by
  unfold Bridge.rewrite
  obtain ⟨waits, -, unauthorized⟩ | ⟨done, authorized⟩ | ⟨error, refused, never⟩ :=
    rewriteSetupCookie_cases fake real bridge.received
  · rw [waits]
    have carried : bridge.Carried fake real stream := by
      refine ⟨whole, ?_, ?_⟩
      · rw [handed, pending]
        exact .nothing unauthorized
      · rw [Phase, stage]
        exact ⟨handed, pending, waits⟩
    exact carried.timed late
  · rw [done]
    refine ⟨whole, ?_, authorized⟩
    rw [handed, List.nil_append]
    exact .stream authorized
  · rw [refused]
    refine ⟨whole, ?_, nofun⟩
    have unauthorized := never []
    rw [List.append_nil] at unauthorized
    rw [handed, pending]
    exact .nothing unauthorized

theorem overlong {count : Nat} (waits : rewriteSetupCookie bridge.received fake real = .ok none)
    (small : count ≤ setupBufferBytes) (past : maxSetupBytes < bridge.received.length + count) (rest : List UInt8) :
    ¬Authorized fake (bridge.received ++ rest) := by
  have size : 48 ≤ bridge.received.length := by
    simp only [maxSetupBytes, setupBufferBytes] at small past
    omega
  rw [authorized_append size]
  exact (waits_of waits).2

variable {answer : ReadAnswer}

theorem readAndRewriteSetup_carried {late : Bool} (stage : bridge.stage = .setup)
    (carried : bridge.Carried fake real stream) (reads : Reads setupBufferBytes bridge.left answer) :
    (bridge.readAndRewriteSetup fake real late answer).Carried fake real stream := by
  have phase := carried.phase
  rw [Phase, stage] at phase
  obtain ⟨handed, pending, waits⟩ := phase
  cases answer with
  | endOfStream => exact carried.fail _
  | nothing | again => exact carried.timed late
  | failed message => exact carried.fail _
  | data count =>
    rw [readAndRewriteSetup]
    split
    · next past =>
      refine ⟨take_whole carried.whole count, ?_, nofun⟩
      have unauthorized := overlong waits reads.2.1 past (bridge.left.take count)
      simp only [Bridge.fail, take, handed, pending]
      exact .nothing unauthorized
    · exact rewrite_carried late stage (take_whole carried.whole count) handed pending

theorem relay_carried (stage : bridge.stage = .reading) (running : bridge.stopped = false)
    (carried : bridge.Carried fake real stream) : (bridge.relay answer).Carried fake real stream := by
  have phase := carried.phase
  rw [Phase, stage] at phase
  obtain ⟨authorized, flushed⟩ := phase
  cases answer with
  | endOfStream => exact ⟨carried.whole, carried.due, flushed⟩
  | nothing | again => exact ⟨carried.whole, carried.due, authorized, flushed⟩
  | failed message => exact carried.fail _
  | data count =>
    refine ⟨take_whole carried.whole count, ?_, ?_⟩
    · -- What was read before is handed past already, so what is due grows by what is read.
      have due := carried.due.append authorized (bridge.left.take count)
      rwa [flushed running, List.append_nil] at due
    · exact (authorized_append authorized.long).mpr authorized

theorem writeLocal_carried {answer : WriteAnswer} {after : Stage} (listens : after = .reading ∨ after = .listening)
    (stage : bridge.stage = .greeting ∨ bridge.stage = .relaying)
    (carried : bridge.Carried fake real stream) : (bridge.writeLocal after answer).Carried fake real stream := by
  have authorized : Authorized fake bridge.received := by
    have phase := carried.phase
    rw [Phase] at phase
    obtain same | same := stage <;> rwa [same] at phase
  have done : (bridge.pending = [] ∨ bridge.stopped = true) →
      ({ bridge with stage := after } : Bridge).Carried fake real stream := by
    intro past
    have flushed : bridge.stopped = false → bridge.pending = [] := fun running =>
      past.resolve_right (by rw [running]; exact Bool.false_ne_true)
    refine ⟨carried.whole, carried.due, ?_⟩
    obtain rfl | rfl := listens <;> exact ⟨authorized, flushed⟩
  have goes_on : ∀ count, ({ bridge with
      handed := bridge.handed ++ bridge.pending.take count
      pending := bridge.pending.drop count } : Bridge).Carried fake real stream := by
    intro count
    refine ⟨carried.whole, ?_, ?_⟩
    · rw [List.append_assoc, List.take_append_drop]
      exact carried.due
    · rw [Phase]
      obtain same | same := stage <;> simpa only [same] using authorized
  unfold Bridge.writeLocal writeNonblocking
  split_ifs with past
  · exact done past
  cases answer with
  | wrote count =>
    by_cases zero : count = 0
    · simp only [if_pos zero]
      exact carried.fail _
    · simp only [if_neg zero]
      exact goes_on count
  | again => exact goes_on 0
  | failed message => exact carried.fail _

theorem writeChannel_carried {answer : WriteAnswer} (stage : bridge.stage = .answering)
    (carried : bridge.Carried fake real stream) : (bridge.writeChannel answer).Carried fake real stream := by
  have phase := carried.phase
  rw [Phase, stage] at phase
  have goes_on : ∀ answered outgoing, ({ bridge with answered := answered, outgoing := outgoing } : Bridge).Carried
      fake real stream := fun _ _ => ⟨carried.whole, carried.due, carried.phase⟩
  unfold Bridge.writeChannel writeNonblocking
  split_ifs with past
  · exact ⟨carried.whole, carried.due, phase⟩
  cases answer with
  | wrote count =>
    by_cases zero : count = 0
    · simp only [if_pos zero]
      exact carried.fail _
    · simp only [if_neg zero]
      exact goes_on _ _
  | again => exact goes_on _ _
  | failed message => exact carried.fail _

/-- Every step keeps what is known. -/
theorem step_carried (carried : bridge.Carried fake real stream) (taken : bridge.step fake real event = some next) :
    next.Carried fake real stream := by
  have phase := carried.phase
  rw [Phase] at phase
  cases event with
  | stop =>
    cases taken
    refine ⟨carried.whole, carried.due, ?_⟩
    rw [Phase]
    -- Where something was known only of a session that goes on, nothing is asked any more.
    split <;> simp_all
  | connect outcome =>
    simp only [step] at taken
    split at taken
    · next stage =>
      cases taken
      rw [stage] at phase
      exact ⟨carried.whole, carried.due, phase⟩
    · cases taken
      exact carried.fail _
    · cases taken
  | channelRead answer late =>
    simp only [step] at taken
    split at taken
    · next stage =>
      split_ifs at taken with stopped reads
      · cases taken
        exact carried.fail _
      · cases taken
        exact readAndRewriteSetup_carried stage carried reads
    · next stage =>
      split_ifs at taken with stopped reads
      · cases taken
        refine ⟨carried.whole, carried.due, fun running => ?_⟩
        exact absurd (stopped.symm.trans running) (by decide)
      · cases taken
        exact relay_carried stage (by simpa using stopped) carried
    · cases taken
  | localWrite answer =>
    simp only [step] at taken
    split_ifs at taken
    split at taken
    · next stage =>
      cases taken
      exact writeLocal_carried (.inl rfl) (.inl stage) carried
    · next stage =>
      cases taken
      exact writeLocal_carried (.inr rfl) (.inr stage) carried
    · cases taken
  | localRead answer =>
    obtain ⟨stage, rfl⟩ : bridge.stage = .listening ∧ bridge.listen answer = next := by
      simpa [step, System.guarded_eq_some] using taken
    rw [stage] at phase
    cases answer with
    | data bytes => exact ⟨carried.whole, carried.due, phase⟩
    | endOfStream => exact ⟨carried.whole, carried.due, phase.2⟩
    | again => exact ⟨carried.whole, carried.due, phase⟩
    | failed message => exact carried.fail _
  | channelWrite answer =>
    obtain ⟨⟨stage, -⟩, rfl⟩ := System.guarded_eq_some.mp taken
    exact writeChannel_carried stage carried

@[simp] theorem received_timed (late : Bool) : (bridge.timed late).received = bridge.received := by
  unfold Bridge.timed
  split <;> rfl

@[simp] theorem received_rewrite (late : Bool) : (bridge.rewrite fake real late).received = bridge.received := by
  unfold Bridge.rewrite
  split
  · rfl
  · exact received_timed late
  · rfl

/-- The session does not close in a step that only adds to what was received. -/
structure Grows (bridge next : Bridge) : Prop where
  received : bridge.received <+: next.received
  stopped : next.stopped = bridge.stopped

theorem timed_grows (late : Bool) : bridge.Grows (bridge.timed late) := by
  unfold Bridge.timed
  split <;> exact ⟨List.prefix_rfl, rfl⟩

theorem readAndRewriteSetup_grows (late : Bool) (answer : ReadAnswer) :
    bridge.Grows (bridge.readAndRewriteSetup fake real late answer) := by
  cases answer with
  | endOfStream | failed message => exact ⟨List.prefix_rfl, rfl⟩
  | nothing | again => exact timed_grows late
  | data count =>
    simp only [readAndRewriteSetup]
    split
    · exact ⟨List.prefix_append _ _, rfl⟩
    · refine ⟨?_, ?_⟩
      · rw [received_rewrite]
        exact List.prefix_append _ _
      · unfold Bridge.rewrite
        split
        · rfl
        · exact (timed_grows late).stopped
        · rfl

theorem relay_grows (answer : ReadAnswer) : bridge.Grows (bridge.relay answer) := by
  cases answer with
  | data count => exact ⟨List.prefix_append _ _, rfl⟩
  | nothing | again | endOfStream | failed message => exact ⟨List.prefix_rfl, rfl⟩

theorem writeLocal_grows (after : Stage) (answer : WriteAnswer) : bridge.Grows (bridge.writeLocal after answer) := by
  unfold Bridge.writeLocal
  split <;> exact ⟨List.prefix_rfl, rfl⟩

theorem writeChannel_grows (answer : WriteAnswer) : bridge.Grows (bridge.writeChannel answer) := by
  unfold Bridge.writeChannel
  split <;> exact ⟨List.prefix_rfl, rfl⟩

theorem step_grows (going : event ≠ .stop) (taken : bridge.step fake real event = some next) : bridge.Grows next := by
  cases event with
  | stop => exact absurd rfl going
  | connect outcome =>
    simp only [step] at taken
    split at taken <;> cases taken <;> exact ⟨List.prefix_rfl, rfl⟩
  | channelRead answer late =>
    simp only [step] at taken
    split at taken
    · split_ifs at taken <;> cases taken
      · exact ⟨List.prefix_rfl, rfl⟩
      · exact readAndRewriteSetup_grows late answer
    · split_ifs at taken <;> cases taken
      · exact ⟨List.prefix_rfl, rfl⟩
      · exact relay_grows answer
    · cases taken
  | localWrite answer =>
    simp only [step] at taken
    split_ifs at taken
    split at taken <;> cases taken <;> exact writeLocal_grows _ answer
  | localRead answer =>
    obtain ⟨-, rfl⟩ := System.guarded_eq_some.mp taken
    cases answer <;> exact ⟨List.prefix_rfl, rfl⟩
  | channelWrite answer =>
    obtain ⟨-, rfl⟩ := System.guarded_eq_some.mp taken
    exact writeChannel_grows answer

theorem Grows.authorized (grows : bridge.Grows next) (authorized : Authorized fake bridge.received) :
    Authorized fake next.received := by
  obtain ⟨more, grown⟩ := grows.received
  rw [← grown]
  exact (authorized_append authorized.long).mpr authorized

/-- With no more bytes than these the thread has been authorized, or it never will be. -/
def Decided (fake real : Cookie) (received : List UInt8) : Prop :=
  Authorized fake received ∨
    rewriteSetupCookie received fake real ≠ .ok none ∧ ∀ rest, ¬Authorized fake (received ++ rest)

theorem Decided.past {received : List UInt8} (decided : Decided fake real received) :
    rewriteSetupCookie received fake real ≠ .ok none := by
  obtain authorized | ⟨past, -⟩ := decided
  · exact fun waits => (waits_of waits).2 authorized
  · exact past

/-- What each quiet step keeps besides. -/
structure Undisturbed (fake real : Cookie) (bridge : Bridge) : Prop where
  running : bridge.stopped = false
  decided : bridge.Ended → Decided fake real bridge.received

theorem readAndRewriteSetup_decided (stage : bridge.stage = .setup)
    (waits : rewriteSetupCookie bridge.received fake real = .ok none)
    (reads : Reads setupBufferBytes bridge.left answer) (going : answer ≠ .endOfStream)
    (sound : ∀ message, answer ≠ .failed message) (ended : (bridge.readAndRewriteSetup fake real false answer).Ended) :
    Decided fake real (bridge.readAndRewriteSetup fake real false answer).received := by
  obtain ⟨result, ended⟩ := ended
  cases answer with
  | endOfStream => exact absurd rfl going
  | failed message => exact absurd rfl (sound message)
  | nothing | again => exact absurd (stage.symm.trans ended) nofun
  | data count =>
    simp only [readAndRewriteSetup] at ended ⊢
    split_ifs at ended ⊢ with past
    · refine .inr ⟨fun waits => ?_, fun rest => ?_⟩
      · -- So many bytes are more than the code ever waits with.
        have bound := (waits_of waits).1
        have size := List.length_take_of_le reads.2.2
        simp only [Bridge.fail, take, List.length_append, size] at bound
        omega
      · rw [Bridge.fail, take, List.append_assoc]
        exact overlong waits reads.2.1 past _
    · rw [received_rewrite]
      obtain ⟨waits, -⟩ | ⟨-, authorized⟩ | ⟨error, refused, never⟩ :=
        rewriteSetupCookie_cases fake real (bridge.take count).received
      · rw [Bridge.rewrite, waits] at ended
        exact absurd (stage.symm.trans ended) nofun
      · exact .inl authorized
      · exact .inr ⟨by rw [refused]; nofun, never⟩

theorem Carried.stages (carried : bridge.Carried fake real stream) :
    (bridge.Waits ∧ rewriteSetupCookie bridge.received fake real = .ok none) ∨
      bridge.Ended ∨ Authorized fake bridge.received := by
  have phase := carried.phase
  rw [Phase] at phase
  cases stage : bridge.stage with
  | connecting =>
    rw [stage] at phase
    exact .inl ⟨.inl stage, phase.2.2⟩
  | setup =>
    rw [stage] at phase
    exact .inl ⟨.inr stage, phase.2.2⟩
  | greeting | relaying =>
    rw [stage] at phase
    exact .inr (.inr phase)
  | reading | listening | answering =>
    rw [stage] at phase
    exact .inr (.inr phase.1)
  | ended result => exact .inr (.inl ⟨result, stage⟩)

theorem step_undisturbed (carried : bridge.Carried fake real stream) (undisturbed : bridge.Undisturbed fake real)
    (quiet : event.Quiet) (taken : bridge.step fake real event = some next) : next.Undisturbed fake real := by
  have grows := step_grows (by rintro rfl; exact quiet) taken
  refine ⟨grows.stopped.trans undisturbed.running, fun ended => ?_⟩
  obtain ⟨waiting, waits⟩ | ⟨result, past⟩ | authorized := carried.stages
  · cases event with
    | connect outcome =>
      cases quiet
      simp only [step] at taken
      obtain ⟨result, ended⟩ := ended
      split at taken
      · cases taken
        cases ended
      · next failed => cases failed
      · cases taken
    | channelRead answer late =>
      obtain ⟨rfl, going, sound⟩ := quiet
      simp only [step, undisturbed.running] at taken
      obtain stage | stage := waiting
      · rw [stage] at taken
        cases taken
      · simp only [stage, Bool.false_eq_true, if_false, System.guarded_eq_some] at taken
        obtain ⟨reads, rfl⟩ := taken
        exact readAndRewriteSetup_decided stage waits reads going sound ended
    | stop => exact absurd quiet nofun
    | localWrite | localRead | channelWrite => obtain stage | stage := waiting <;> simp [step, stage] at taken
  · -- A thread that has ended does nothing.
    cases event with
    | stop => exact absurd quiet nofun
    | connect outcome | channelRead answer late | localWrite answer | localRead answer | channelWrite answer =>
      simp [step, past] at taken
  · exact .inl (grows.authorized authorized)

theorem Undisturbed.waits_iff (undisturbed : bridge.Undisturbed fake real) (carried : bridge.Carried fake real stream) :
    bridge.Waits ↔ rewriteSetupCookie bridge.received fake real = .ok none := by
  obtain ⟨waiting, waits⟩ | past | authorized := carried.stages
  · exact iff_of_true waiting waits
  · refine iff_of_false (fun waiting => ?_) (undisturbed.decided past).past
    obtain ⟨result, stage⟩ := past
    obtain same | same := waiting <;> exact absurd (same.symm.trans stage) nofun
  · refine iff_of_false (fun waiting => ?_) fun waits => (waits_of waits).2 authorized
    have phase := carried.phase
    rw [Phase] at phase
    obtain same | same := waiting <;> (rw [same] at phase; exact (waits_of phase.2.2).2 authorized)

theorem Carried.substitutes (carried : bridge.Carried fake real stream) : bridge.Substitutes fake real stream := by
  refine ⟨carried.whole, carried.due, fun pending => ?_, fun fault => ?_⟩
  · have phase := carried.phase
    rw [Phase] at phase
    by_cases stopped : bridge.stopped = true
    · exact .inr (.inr (.inl stopped))
    have running : bridge.stopped = false := by simpa using stopped
    cases stage : bridge.stage with
    | greeting => exact .inl stage
    | relaying => exact .inr (.inl stage)
    | connecting | setup =>
      rw [stage] at phase
      exact absurd phase.2.1 pending
    | reading | listening | answering =>
      rw [stage] at phase
      exact absurd (phase.2 running) pending
    | ended result =>
      rw [stage] at phase
      cases result with
      | ok done => exact absurd (phase running) pending
      | error abort =>
        cases abort with
        | outOfRange => exact absurd rfl phase
        | refused error => exact .inr (.inr (.inr ⟨error, stage⟩))
  · have phase := carried.phase
    rw [Phase, fault] at phase
    exact phase rfl

end Bridge

theorem start_carried : (Bridge.start stream).Carried fake real stream := by
  refine ⟨rfl, .nothing fun authorized => ?_, rfl, rfl, rfl⟩
  exact absurd authorized.long (by simp [Bridge.start])

variable {trace : List (Bridge × Event)}

theorem run_carried (run : (bridgeSystem fake real stream).Run trace bridge) : bridge.Carried fake real stream := by
  refine run.invariant (fun _ _ => True) (·.Carried fake real stream) ?_ ?_ fun _ _ => trivial
  · rintro _ rfl
    exact start_carried
  · exact fun _ _ _ carried _ taken => Bridge.step_carried carried taken

theorem run_undisturbed (run : (bridgeSystem fake real stream).Run trace bridge)
    (quiet : ∀ entry ∈ trace, entry.2.Quiet) : bridge.Undisturbed fake real := by
  refine (run.invariant (fun _ event => event.Quiet) (fun bridge => bridge.Carried fake real stream ∧
    bridge.Undisturbed fake real) ?_ ?_ quiet).2
  · rintro _ rfl
    exact ⟨start_carried, rfl, nofun⟩
  · exact fun _ _ _ both quiet taken =>
      ⟨Bridge.step_carried both.1 taken, Bridge.step_undisturbed both.1 both.2 quiet taken⟩

/--
The X server gets what a channel receives with the real cookie in place of the fake one, or nothing at all.

Which of the two it is, and how far it has come, is the same for any two runs that have received the same bytes, and a
stream with the fake cookie is not refused. No length in the setup request makes an index go out of range.
-/
theorem cookie_substituted (fake real : Cookie) (stream : List UInt8) {trace : List (Bridge × Event)}
    {bridge : Bridge} (run : (bridgeSystem fake real stream).Run trace bridge) :
    bridge.Substitutes fake real stream ∧
      ((∀ entry ∈ trace, entry.2.Quiet) → Authorized fake stream → bridge.Ended → Authorized fake bridge.received) ∧
      (∀ {others : List (Bridge × Event)} {other : Bridge}, (bridgeSystem fake real stream).Run others other →
        other.received = bridge.received → other.handed ++ other.pending = bridge.handed ++ bridge.pending ∧
          ((∀ entry ∈ trace, entry.2.Quiet) → (∀ entry ∈ others, entry.2.Quiet) → (other.Waits ↔ bridge.Waits))) ∧
      ∀ bytes, rewriteSetupCookie bytes fake real ≠ .error .outOfRange := by
  have carried := run_carried run
  refine ⟨carried.substitutes, ?_, ?_, rewriteSetupCookie_inRange fake real⟩
  · intro quiet authorized ended
    obtain decided | ⟨-, never⟩ := (run_undisturbed run quiet).decided ended
    · exact decided
    · -- The stream goes on from what was received of it.
      rw [← carried.whole] at authorized
      exact absurd authorized (never bridge.left)
  · intro others other also same
    have due := (run_carried also).due
    rw [same] at due
    refine ⟨due.unique carried.due, fun quiet calm => ?_⟩
    rw [(run_undisturbed run quiet).waits_iff carried, (run_undisturbed also calm).waits_iff (run_carried also), same]

end Runs

namespace Demo

def cookie (byte : UInt8) : Cookie := ⟨List.replicate 16 byte, List.length_replicate⟩

def request (cookie : Cookie) : List UInt8 :=
  [0x6c, 0, 11, 0, 0, 0, 18, 0, 16, 0, 0, 0] ++ authProtocol ++ [0, 0] ++ cookie.bytes

/-- A channel whose request comes in two reads, with a byte after it. -/
def arrives : List Event :=
  [.connect (.ok ()), .channelRead (.data 10) false, .channelRead (.data 39) false, .localWrite (.wrote 49)]

/-- The X server gets the real cookie and what follows it. -/
theorem request_substituted : ∃ trace bridge,
    (bridgeSystem (cookie 1) (cookie 2) (request (cookie 1) ++ [7])).Run trace bridge ∧
      bridge.handed = request (cookie 2) ++ [7] ∧
      bridge.Substitutes (cookie 1) (cookie 2) (request (cookie 1) ++ [7]) := by
  have goes : System.trail (Bridge.step (cookie 1) (cookie 2)) (.start (request (cookie 1) ++ [7])) arrives =
      some (_, _) := rfl
  have run := System.Run.trail (.start rfl : (bridgeSystem (cookie 1) (cookie 2) (request (cookie 1) ++ [7])).Run []
    (.start (request (cookie 1) ++ [7]))) goes
  exact ⟨_, _, run, rfl, (cookie_substituted (cookie 1) (cookie 2) _ run).1⟩

end Demo

end X11

end Ssh

end CNShell
