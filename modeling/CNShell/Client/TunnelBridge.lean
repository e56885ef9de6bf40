import CNShell.Library.Conduit
import CNShell.Library.Transition

/-! The bridge between a client of a tunnel and its SSH channel: one loop for both directions. -/

namespace CNShell

namespace Client

/-- How many bytes one read brings at most. -/
def bridgeBufferBytes : Nat := 32 * 1024

/-- What a read returns; an end of stream is an `Ok(0)`. -/
inductive ReadAnswer
  | data (count : Nat)
  | endOfStream
  /-- The error is transient. -/
  | again
  | failed
  deriving DecidableEq, Repr

inductive WriteAnswer
  | wrote (count : Nat)
  | again
  | failed
  deriving DecidableEq, Repr

/-- What `send_eof` returns. -/
inductive EofAnswer
  | sent
  | again
  | failed
  deriving DecidableEq, Repr

/-- What the calls of one turn of the loop return; a call that is not made has an answer that does not matter. -/
structure Turn where
  clientRead : ReadAnswer
  channelWrite : WriteAnswer
  sendEof : EofAnswer
  channelRead : ReadAnswer
  socketWrite : WriteAnswer
  deriving DecidableEq, Repr

/-- A bridge between a client and a remote side that send their streams and then end them. -/
structure TunnelBridge (client remote : List UInt8) where
  toRemote : Conduit client
  toLocal : Conduit remote
  clientEof : Bool
  remoteEof : Bool
  eofSent : Bool
  ended : Bool

namespace TunnelBridge

variable {client remote : List UInt8}

/-- A bridge that was just opened. -/
def start (client remote : List UInt8) : TunnelBridge client remote :=
  ⟨.start client, .start remote, false, false, false, false⟩

/-- A read can bring so many bytes, or the end of what there is. -/
def Reads (left : List UInt8) : ReadAnswer → Prop
  | .data count => 0 < count ∧ count ≤ bridgeBufferBytes ∧ count ≤ left.length
  | .endOfStream => left = []
  | .again | .failed => True

instance (left : List UInt8) : DecidablePred (Reads left)
  | .data count => inferInstanceAs (Decidable (0 < count ∧ count ≤ bridgeBufferBytes ∧ count ≤ left.length))
  | .endOfStream => inferInstanceAs (Decidable (left = []))
  | .again | .failed => isTrue trivial

/-- A write takes no more than there is. -/
def Writes (held : List UInt8) : WriteAnswer → Prop
  | .wrote count => count ≤ held.length
  | .again | .failed => True

instance (held : List UInt8) : DecidablePred (Writes held)
  | .wrote count => inferInstanceAs (Decidable (count ≤ held.length))
  | .again | .failed => isTrue trivial

variable (bridge : TunnelBridge client remote)

/-- A part of the turn, unless the loop was left before it. -/
def going (part : Option (TunnelBridge client remote)) : Option (TunnelBridge client remote) :=
  if bridge.ended = true then some bridge else part

def readClient (answer : ReadAnswer) : Option (TunnelBridge client remote) :=
  if bridge.clientEof = false ∧ bridge.toRemote.held = [] then
    if Reads bridge.toRemote.left answer then
      match answer with
      | .data count => some { bridge with toRemote := bridge.toRemote.read count }
      | .endOfStream | .failed => some { bridge with clientEof := true }
      | .again => some bridge
    else none
  else some bridge

/-- What was read of the client is written to the channel. -/
def writeRemote (answer : WriteAnswer) : Option (TunnelBridge client remote) :=
  if bridge.toRemote.held ≠ [] then
    if Writes bridge.toRemote.held answer then
      match answer with
      | .wrote count => some { bridge with toRemote := bridge.toRemote.write count }
      | .again => some bridge
      | .failed => some { bridge with ended := true }
    else none
  else some bridge

/-- The end of the client's stream is passed on. -/
def sendEof (answer : EofAnswer) : Option (TunnelBridge client remote) :=
  if bridge.clientEof = true ∧ bridge.toRemote.held = [] ∧ bridge.eofSent = false then
    match answer with
    | .sent => some { bridge with eofSent := true }
    | .again => some bridge
    | .failed => some { bridge with ended := true }
  else some bridge

/-- The channel is read, if all that was read of it is written. -/
def readRemote (answer : ReadAnswer) : Option (TunnelBridge client remote) :=
  if bridge.remoteEof = false ∧ bridge.toLocal.held = [] then
    if Reads bridge.toLocal.left answer then
      match answer with
      | .data count => some { bridge with toLocal := bridge.toLocal.read count }
      | .endOfStream => some { bridge with remoteEof := true }
      | .again => some bridge
      | .failed => some { bridge with ended := true }
    else none
  else some bridge

/-- What was read of the channel is written to the client; a write of nothing leaves the loop. -/
def writeLocal (answer : WriteAnswer) : Option (TunnelBridge client remote) :=
  if bridge.toLocal.held ≠ [] then
    if Writes bridge.toLocal.held answer then
      match answer with
      | .wrote 0 => some { bridge with ended := true }
      | .wrote count => some { bridge with toLocal := bridge.toLocal.write count }
      | .again => some bridge
      | .failed => some { bridge with ended := true }
    else none
  else some bridge

/-- The loop is left once the remote side has ended its stream and the client has all of it. -/
def leave : Option (TunnelBridge client remote) :=
  if bridge.remoteEof = true ∧ bridge.toLocal.held = [] then some { bridge with ended := true } else some bridge

def turn (answers : Turn) : Option (TunnelBridge client remote) :=
  if bridge.ended = true then none
  else do
    let bridge ← bridge.readClient answers.clientRead
    let bridge ← bridge.writeRemote answers.channelWrite
    let bridge ← bridge.going (bridge.sendEof answers.sendEof)
    let bridge ← bridge.going (bridge.readRemote answers.channelRead)
    let bridge ← bridge.going (bridge.writeLocal answers.socketWrite)
    bridge.going bridge.leave

/-- What each side is given comes in order from the other one, and at the end it is all that the other one sent. -/
structure Delivers : Prop where
  toRemote : bridge.toRemote.given <+: bridge.toRemote.taken
  toLocal : bridge.toLocal.given <+: bridge.toLocal.taken
  whole : bridge.ended = true → bridge.toRemote.given = client ∧ bridge.toLocal.given = remote

end TunnelBridge

def bridgeSystem (client remote : List UInt8) : System (TunnelBridge client remote) Turn :=
  .ofStep (fun bridge => bridge = .start client remote) TunnelBridge.turn

/-- Neither side reports an error. -/
def Turn.Quiet (answers : Turn) : Prop :=
  answers.clientRead ≠ .failed ∧ answers.channelWrite ≠ .failed ∧ answers.sendEof ≠ .failed ∧
    answers.channelRead ≠ .failed ∧ answers.socketWrite ≠ .failed

/-- The channel takes, with what this turn writes, all that the client sent. -/
def Turn.Finishes {client : List UInt8} (answers : Turn) (conduit : Conduit client) : Prop :=
  conduit.rest = [] ∨ answers.channelWrite = .wrote conduit.rest.length ∧
    (conduit.held = [] → answers.clientRead = .data conduit.left.length)

instance (answers : Turn) : Decidable answers.Quiet := inferInstanceAs (Decidable (_ ∧ _))

/--
A turn does not meet the end of the remote stream while there is something of the client that the channel does not
take in this turn, and writes something to the client where there is something to write.
-/
structure Turn.Timely {client remote : List UInt8} (bridge : TunnelBridge client remote) (answers : Turn) : Prop where
  remoteEnds : bridge.toLocal.held = [] → answers.channelRead = .endOfStream → answers.Finishes bridge.toRemote
  localTakes : answers.socketWrite = .wrote 0 → bridge.toLocal.held = [] ∧ ∀ count, answers.channelRead ≠ .data count

section Turns

variable {client remote : List UInt8} {bridge next : TunnelBridge client remote} {answers : Turn}

theorem writeRemote_quiet (quiet : answers.channelWrite ≠ .failed) (held : bridge.toRemote.held ≠ [])
    (ran : bridge.writeRemote answers.channelWrite = some next) :
    ∃ conduit, next = { bridge with toRemote := conduit } ∧ conduit.left = bridge.toRemote.left ∧
      (conduit.rest = [] ↔ answers.channelWrite = .wrote bridge.toRemote.rest.length) := by
  unfold TunnelBridge.writeRemote at ran
  rw [if_pos held] at ran
  split at ran
  · next possible =>
    cases answer : answers.channelWrite with
    | wrote count =>
      rw [answer] at ran possible
      cases ran
      refine ⟨_, rfl, rfl, ?_⟩
      rw [Conduit.rest_write_eq_nil _ _ possible]
      simp
    | again =>
      rw [answer] at ran
      cases ran
      refine ⟨_, rfl, rfl, ?_⟩
      simp [Conduit.rest, held]
    | failed => exact absurd answer quiet
  · cases ran

theorem writeRemote_idle {answer : WriteAnswer} (idle : bridge.toRemote.held = [])
    (ran : bridge.writeRemote answer = some next) : next = bridge := by
  unfold TunnelBridge.writeRemote at ran
  rw [if_neg (not_not.mpr idle)] at ran
  exact (Option.some.inj ran).symm

/-- What a quiet turn makes of the direction to the remote side. -/
theorem toRemote_of_turn (quiet : answers.Quiet) (known : bridge.clientEof = true → bridge.toRemote.left = [])
    {middle : TunnelBridge client remote} (first : bridge.readClient answers.clientRead = some middle)
    (second : middle.writeRemote answers.channelWrite = some next) :
    ∃ conduit eof, next = { bridge with toRemote := conduit, clientEof := eof } ∧
      (eof = true → conduit.left = []) ∧ (conduit.rest = [] ↔ answers.Finishes bridge.toRemote) := by
  unfold TunnelBridge.readClient at first
  split at first
  · next idle =>
    split at first
    · next possible =>
      cases answer : answers.clientRead with
      | data count =>
        rw [answer] at first possible
        cases first
        obtain ⟨some_bytes, -, enough⟩ := possible
        have held : (bridge.toRemote.read count).held ≠ [] := by
          have size : ((bridge.toRemote.read count).held).length = count := by
            simp [idle.2, Nat.min_eq_left enough]
          intro empty
          rw [empty] at size
          simp at size
          omega
        obtain ⟨conduit, rfl, left, finished⟩ := writeRemote_quiet quiet.2.1 held second
        refine ⟨conduit, bridge.clientEof, rfl, fun ended => absurd (idle.1.symm.trans ended) Bool.false_ne_true, ?_⟩
        rw [finished, Conduit.rest_read, Turn.Finishes, answer]
        have rest : bridge.toRemote.rest = bridge.toRemote.left := by rw [Conduit.rest, idle.2, List.nil_append]
        have filled : bridge.toRemote.rest ≠ [] := by
          rw [rest]
          exact List.ne_nil_of_length_pos (by omega)
        constructor
        · intro wrote
          -- The write takes no more than was read.
          have fits : bridge.toRemote.rest.length ≤ count := by
            unfold TunnelBridge.writeRemote at second
            rw [if_pos held, wrote] at second
            split at second
            · next most => simpa [TunnelBridge.Writes, idle.2, Nat.min_eq_left enough] using most
            · cases second
          refine .inr ⟨wrote, fun _ => ?_⟩
          rw [rest] at fits
          rw [Nat.le_antisymm enough fits]
        · exact fun done => (done.resolve_left filled).1
      | endOfStream =>
        rw [answer] at first possible
        cases first
        obtain rfl := @writeRemote_idle _ _ { bridge with clientEof := true } _ _ idle.2 second
        have done : bridge.toRemote.rest = [] := by
          rw [Conduit.rest, idle.2, List.nil_append]
          exact possible
        exact ⟨bridge.toRemote, true, rfl, fun _ => possible, iff_of_true done (.inl done)⟩
      | again =>
        rw [answer] at first
        cases first
        obtain rfl := writeRemote_idle idle.2 second
        refine ⟨_, _, rfl, known, .inl, fun done => done.elim id fun later => ?_⟩
        cases answer.symm.trans (later.2 idle.2)
      | failed => exact absurd answer quiet.1
    · cases first
  · next busy =>
    cases first
    by_cases held : bridge.toRemote.held = []
    · obtain rfl := writeRemote_idle held second
      have ended : next.clientEof = true := by
        by_contra open_
        exact busy ⟨by simpa using open_, held⟩
      have done : next.toRemote.rest = [] := by rw [Conduit.rest, held, known ended, List.nil_append]
      exact ⟨_, _, rfl, known, iff_of_true done (.inl done)⟩
    · obtain ⟨conduit, rfl, left, finished⟩ := writeRemote_quiet quiet.2.1 held second
      refine ⟨conduit, _, rfl, fun ended => left.trans (known ended), finished.trans ?_⟩
      have filled : bridge.toRemote.rest ≠ [] := by simp [Conduit.rest, held]
      constructor
      · exact fun wrote => .inr ⟨wrote, fun empty => absurd empty held⟩
      · exact fun done => (done.resolve_left filled).1

theorem writeLocal_quiet {answer : WriteAnswer} (quiet : answer ≠ .failed) (running : bridge.ended = false)
    (further : bridge.remoteEof = false) (held : bridge.toLocal.held ≠ []) {middle : TunnelBridge client remote}
    (second : bridge.going (bridge.writeLocal answer) = some middle)
    (third : middle.going middle.leave = some next) :
    ∃ conduit leaves, next = { bridge with toLocal := conduit, ended := leaves } ∧
      (leaves = true ↔ answer = .wrote 0) ∧ (leaves = true → conduit.rest ≠ []) := by
  have filled : bridge.toLocal.rest ≠ [] := by simp [Conduit.rest, held]
  unfold TunnelBridge.going at second
  rw [if_neg (by simp [running])] at second
  unfold TunnelBridge.writeLocal at second
  rw [if_pos held] at second
  -- The remote stream has not ended, so the loop is not left at the end of the turn.
  have stays : ∀ conduit : Conduit remote, ∀ leaves : Bool,
      TunnelBridge.going { bridge with toLocal := conduit, ended := leaves }
        (TunnelBridge.leave { bridge with toLocal := conduit, ended := leaves }) =
        some { bridge with toLocal := conduit, ended := leaves } := by
    intro conduit leaves
    simp [TunnelBridge.going, TunnelBridge.leave, further]
  split at second
  · cases answer with
    | wrote count =>
      cases count with
      | zero =>
        cases second
        rw [stays] at third
        cases third
        exact ⟨_, true, rfl, by simp, fun _ => filled⟩
      | succ count =>
        cases second
        rw [stays (bridge.toLocal.write (count + 1)) bridge.ended] at third
        cases third
        exact ⟨_, _, rfl, by simp [running], by simp [running]⟩
    | again =>
      cases second
      rw [stays bridge.toLocal bridge.ended] at third
      cases third
      exact ⟨_, _, rfl, by simp [running], by simp [running]⟩
    | failed => exact absurd rfl quiet
  · cases second

theorem writeLocal_idle {answer : WriteAnswer} (idle : bridge.toLocal.held = [])
    (ran : bridge.going (bridge.writeLocal answer) = some next) : next = bridge := by
  unfold TunnelBridge.going TunnelBridge.writeLocal at ran
  rw [if_neg (not_not.mpr idle), ite_self] at ran
  exact (Option.some.inj ran).symm

/-- What a quiet turn makes of the direction to the client, and when it leaves the loop. -/
theorem toLocal_of_turn (quiet : answers.Quiet) (running : bridge.ended = false) (further : bridge.remoteEof = false)
    {read middle : TunnelBridge client remote} (first : bridge.readRemote answers.channelRead = some read)
    (second : read.going (read.writeLocal answers.socketWrite) = some middle)
    (third : middle.going middle.leave = some next) :
    ∃ conduit eof leaves, next = { bridge with toLocal := conduit, remoteEof := eof, ended := leaves } ∧
      (leaves = false → eof = false) ∧
      (leaves = true ∧ conduit.rest = [] ↔ bridge.toLocal.held = [] ∧ answers.channelRead = .endOfStream) ∧
      (leaves = true ∧ conduit.rest ≠ [] ↔ answers.socketWrite = .wrote 0 ∧
        ¬(bridge.toLocal.held = [] ∧ ∀ count, answers.channelRead ≠ .data count)) := by
  obtain ⟨-, -, -, readable, writable⟩ := quiet
  unfold TunnelBridge.readRemote at first
  by_cases idle : bridge.toLocal.held = []
  · rw [if_pos ⟨further, idle⟩] at first
    split at first
    · next possible =>
      cases answer : answers.channelRead with
      | data count =>
        rw [answer] at first possible
        cases first
        obtain ⟨some_bytes, -, enough⟩ := possible
        have held : (bridge.toLocal.read count).held ≠ [] := by
          have size : ((bridge.toLocal.read count).held).length = count := by
            simp [idle, Nat.min_eq_left enough]
          exact List.ne_nil_of_length_pos (by omega)
        obtain ⟨conduit, leaves, rfl, left, filled⟩ := @writeLocal_quiet _ _
          { bridge with toLocal := bridge.toLocal.read count } _ _ writable running further held _ second third
        refine ⟨conduit, _, leaves, rfl, fun _ => further, ?_, ?_⟩
        · exact iff_of_false (fun done => filled done.1 done.2) (fun same => by cases same.2)
        · rw [← left]
          exact ⟨fun leaves => ⟨leaves.1, fun none_read => none_read.2 count rfl⟩, fun leaves => ⟨leaves.1, filled leaves.1⟩⟩
      | endOfStream =>
        rw [answer] at first possible
        cases first
        obtain rfl := @writeLocal_idle _ _ { bridge with remoteEof := true } _ _ idle second
        have done : bridge.toLocal.rest = [] := by
          rw [Conduit.rest, idle, List.nil_append]
          exact possible
        have left : TunnelBridge.going { bridge with remoteEof := true }
            (TunnelBridge.leave { bridge with remoteEof := true }) =
              some { bridge with remoteEof := true, ended := true } := by
          simp [TunnelBridge.going, TunnelBridge.leave, idle, running]
        rw [left] at third
        cases third
        refine ⟨bridge.toLocal, true, true, rfl, id, iff_of_true ⟨rfl, done⟩ ⟨idle, rfl⟩, ?_⟩
        exact iff_of_false (fun more => more.2 done) (fun some_read => some_read.2 ⟨idle, fun _ same => by cases same⟩)
      | again =>
        rw [answer] at first
        cases first
        obtain rfl := writeLocal_idle idle second
        have stays : middle.going middle.leave = some middle := by
          simp [TunnelBridge.going, TunnelBridge.leave, further]
        rw [stays] at third
        cases third
        refine ⟨_, _, _, rfl, fun _ => further, ?_, ?_⟩
        · exact iff_of_false (fun done => by rw [running] at done; cases done.1) (fun same => by cases same.2)
        · exact iff_of_false (fun done => by rw [running] at done; cases done.1) (fun some_read => some_read.2 ⟨idle, fun _ same => by cases same⟩)
      | failed => exact absurd answer readable
    · cases first
  · rw [if_neg fun both => idle both.2] at first
    cases first
    obtain ⟨conduit, leaves, rfl, left, filled⟩ := writeLocal_quiet writable running further idle second third
    refine ⟨conduit, _, leaves, rfl, fun _ => further, ?_, ?_⟩
    · exact iff_of_false (fun done => filled done.1 done.2) (fun same => idle same.1)
    · rw [← left]
      exact ⟨fun leaves => ⟨leaves.1, fun none_held => idle none_held.1⟩, fun leaves => ⟨leaves.1, filled leaves.1⟩⟩

theorem sendEof_quiet {answer : EofAnswer} (quiet : answer ≠ .failed)
    (ran : bridge.going (bridge.sendEof answer) = some next) : ∃ sent, next = { bridge with eofSent := sent } := by
  unfold TunnelBridge.going TunnelBridge.sendEof at ran
  split at ran
  · cases ran
    exact ⟨_, rfl⟩
  · split at ran
    · cases answer with
      | sent | again =>
        cases ran
        exact ⟨_, rfl⟩
      | failed => exact absurd rfl quiet
    · cases ran
      exact ⟨_, rfl⟩

/-- What is carried along: while the loop runs the remote stream has not ended, and what ended was read. -/
structure TunnelBridge.Carried (bridge : TunnelBridge client remote) : Prop where
  further : bridge.ended = false → bridge.remoteEof = false
  read : bridge.clientEof = true → bridge.toRemote.left = []
  whole : bridge.ended = true → bridge.toRemote.rest = [] ∧ bridge.toLocal.rest = []

theorem TunnelBridge.delivers_iff : bridge.Delivers ↔
    (bridge.ended = true → bridge.toRemote.rest = [] ∧ bridge.toLocal.rest = []) := by
  constructor
  · intro delivers leaves
    obtain ⟨first, second⟩ := delivers.whole leaves
    exact ⟨Conduit.given_eq_iff.mp first, Conduit.given_eq_iff.mp second⟩
  · intro whole
    refine ⟨bridge.toRemote.given_prefix, bridge.toLocal.given_prefix, fun leaves => ?_⟩
    exact ⟨Conduit.given_eq_iff.mpr (whole leaves).1, Conduit.given_eq_iff.mpr (whole leaves).2⟩

theorem turn_quiet (carried : bridge.Carried) (quiet : answers.Quiet) (taken : bridge.turn answers = some next) :
    (next.ended = false → next.remoteEof = false) ∧ (next.clientEof = true → next.toRemote.left = []) ∧
      ((next.ended = true → next.toRemote.rest = [] ∧ next.toLocal.rest = []) ↔ answers.Timely bridge) := by
  unfold TunnelBridge.turn at taken
  split at taken
  · cases taken
  next going =>
  have running : bridge.ended = false := by simpa using going
  simp only [Option.bind_eq_bind, Option.bind_eq_some_iff] at taken
  obtain ⟨one, first, two, second, three, third, four, fourth, five, fifth, sixth⟩ := taken
  obtain ⟨conduit, eof, rfl, read, finished⟩ := toRemote_of_turn quiet carried.read first second
  obtain ⟨sent, rfl⟩ := sendEof_quiet quiet.2.2.1 third
  unfold TunnelBridge.going at fourth
  rw [if_neg (by simp [running])] at fourth
  obtain ⟨flow, closed, leaves, rfl, sound, ends, drops⟩ := @toLocal_of_turn _ _
    { bridge with toRemote := conduit, clientEof := eof, eofSent := sent } _ _ quiet running
      (carried.further running) _ _ fourth fifth sixth
  refine ⟨sound, read, ?_⟩
  constructor
  · intro whole
    constructor
    · intro idle closes
      exact finished.mp (whole (ends.mpr ⟨idle, closes⟩).1).1
    · intro nothing
      by_contra waiting
      exact (drops.mpr ⟨nothing, waiting⟩).2 (whole (drops.mpr ⟨nothing, waiting⟩).1).2
  · intro timely leaves
    have all : flow.rest = [] := by
      by_contra some_left
      obtain ⟨nothing, waiting⟩ := drops.mp ⟨leaves, some_left⟩
      exact waiting (timely.localTakes nothing)
    obtain ⟨idle, closes⟩ := ends.mp ⟨leaves, all⟩
    exact ⟨finished.mpr (timely.remoteEnds idle closes), all⟩

/--
While neither side reports an error, a bridge gives each side in order what the other one sends, and all of it before
it ends, exactly when all its turns are timely.
-/
theorem bridge_delivers_iff (client remote : List UInt8) {trace : List (TunnelBridge client remote × Turn)}
    {bridge : TunnelBridge client remote} (run : (bridgeSystem client remote).Run trace bridge)
    (quiet : ∀ entry ∈ trace, entry.2.Quiet) :
    ((∀ entry ∈ trace, entry.1.Delivers) ∧ bridge.Delivers) ↔ ∀ entry ∈ trace, entry.2.Timely entry.1 := by
  refine (run.restrict (fun _ answers => answers.Quiet) quiet).exactly
    (fun bridge answers => answers.Timely bridge) TunnelBridge.Carried TunnelBridge.Delivers ?_ ?_ ?_ ?_
  · rintro bridge rfl
    exact ⟨fun _ => rfl, nofun, nofun⟩
  · exact fun bridge carried => TunnelBridge.delivers_iff.mpr carried.whole
  · intro bridge answers next carried timely taken
    obtain ⟨further, read, whole⟩ := turn_quiet carried taken.1 taken.2
    exact ⟨further, read, whole.mpr timely⟩
  · intro bridge answers next carried late taken delivers
    obtain ⟨-, -, whole⟩ := turn_quiet carried taken.1 taken.2
    exact late (whole.mp (TunnelBridge.delivers_iff.mp delivers))

end Turns

namespace Demo

def remoteEnds : Turn := ⟨.again, .again, .again, .endOfStream, .again⟩

/-- What a client sends after the remote side has ended its stream is lost. -/
theorem client_cut_off : ¬∀ (client remote : List UInt8) (trace : List (TunnelBridge client remote × Turn))
    (bridge : TunnelBridge client remote), (bridgeSystem client remote).Run trace bridge →
    (∀ entry ∈ trace, entry.2.Quiet) → bridge.Delivers := by
  intro always
  have goes : System.trail TunnelBridge.turn (.start [1] []) [remoteEnds] =
      some (_, { TunnelBridge.start [1] [] with remoteEof := true, ended := true }) := rfl
  have run := System.Run.trail (.start rfl : (bridgeSystem [1] []).Run [] (.start [1] [])) goes
  have delivers := always [1] [] _ _ run fun entry member => by
    obtain rfl := List.mem_singleton.mp member
    decide
  exact absurd (delivers.whole rfl).1 (by decide)

/-- Each side sends one byte, and both end their streams. -/
def bothEnd : List Turn :=
  [⟨.data 1, .wrote 1, .again, .data 1, .wrote 1⟩, ⟨.endOfStream, .again, .sent, .endOfStream, .again⟩]

/-- Both sides get what the other one sent. -/
theorem both_delivered : ∃ trace bridge, (bridgeSystem [1] [2]).Run trace bridge ∧ bridge.ended = true ∧
    bridge.Delivers := by
  have goes : System.trail TunnelBridge.turn (.start [1] [2]) bothEnd = some (_, _) := rfl
  have run := System.Run.trail (.start rfl : (bridgeSystem [1] [2]).Run [] (.start [1] [2])) goes
  refine ⟨_, _, run, rfl, ((bridge_delivers_iff [1] [2] run ?_).mpr ?_).2⟩
  · intro entry member
    rcases List.mem_cons.mp member with rfl | later
    · decide
    · obtain rfl := List.mem_singleton.mp later
      decide
  · intro entry member
    rcases List.mem_cons.mp member with rfl | later
    · exact ⟨fun _ => nofun, nofun⟩
    · obtain rfl := List.mem_singleton.mp later
      exact ⟨fun _ _ => .inl rfl, nofun⟩

end Demo

end Client

end CNShell
