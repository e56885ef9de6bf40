import CNShell.Client.Crypto
import CNShell.Library.Section
import CNShell.Library.Transition

/-! The clients of a tunnel: what each sends in a SOCKS5 handshake, and the loop that accepts one after the other. -/

namespace CNShell

namespace Client

open Section

/-- What a client that has sent all its bytes does. -/
inductive Ending
  | closes
  | resets (message : String)
  /-- It keeps the connection and sends nothing. -/
  | stalls
  deriving DecidableEq, Repr

/-- A client of a tunnel: what it has still to send, and how many answers it still takes. -/
structure Peer where
  sends : List UInt8
  ends : Ending
  accepts : Nat
  /-- What it was answered. -/
  answered : List UInt8 := []
  deriving DecidableEq, Repr

/-- Why the thread of a tunnel does not go on with a client. -/
inductive Halt
  | failed (error : AppError)
  /-- The same, where the SSH session itself has failed. -/
  | broken (error : AppError)
  /-- It waits for a byte that does not come; a blocking socket has no timeout. -/
  | blocked
  deriving DecidableEq, Repr

/-- What the thread of a tunnel does with a client. -/
abbrev Dialogue := Section Peer Halt

/-- What a read past the last byte of a client meets. -/
def Ending.halt : Ending → Halt
  | .closes => .failed (.storage "failed to fill whole buffer")
  | .resets message => .failed (.storage message)
  | .stalls => .blocked

/-- So many bytes of a client. -/
def readExact (count : Nat) : Dialogue (List UInt8) := fun peer =>
  if count ≤ peer.sends.length then (.ok (peer.sends.take count), { peer with sends := peer.sends.drop count })
  else (.error peer.ends.halt, { peer with sends := [] })

/-- All of an answer. -/
def writeAll (bytes : List UInt8) : Dialogue Unit := fun peer =>
  match peer.accepts with
  | 0 => (.error (.failed (.storage "Broken pipe (os error 32)")), peer)
  | accepts + 1 => (.ok (), { peer with accepts := accepts, answered := peer.answered ++ bytes })

/-- An answer that may fail. -/
def tryWrite (bytes : List UInt8) (peer : Peer) : Peer := (writeAll bytes peer).2

/-- The thread gives up on a client. -/
def refuse {α : Type} (message : String) : Dialogue α := Section.check (.error (.failed (.remote message)))

def ipv4Text (bytes : List UInt8) : String := ".".intercalate (bytes.map fun byte => toString byte.toNat)

/-- The segments of an IPv6 address. -/
def segments : List UInt8 → List Nat
  | high :: low :: rest => (high.toNat * 256 + low.toNat) :: segments rest
  | _ => []

/-- Where the first of the longest runs of zeros begins, and how long it is. -/
def zeroRun (values : List Nat) : Nat × Nat :=
  (values.zipIdx.foldl (fun (longest, current) (value, index) =>
    let current := if value = 0 then (if current.2 = 0 then index else current.1, current.2 + 1) else (0, 0)
    (if longest.2 < current.2 then current else longest, current)) (((0, 0), (0, 0)) : (Nat × Nat) × (Nat × Nat))).1

/-- Segments in hexadecimal digits. -/
def segmentsText (values : List Nat) : String :=
  ":".intercalate (values.map fun value => String.ofList (Nat.toDigits 16 value))

def ipv6Text (bytes : List UInt8) : String :=
  if bytes.take 12 = List.replicate 10 0 ++ [255, 255] then "::ffff:" ++ ipv4Text (bytes.drop 12)
  else
    let values := segments bytes
    let (start, length) := zeroRun values
    if 1 < length then segmentsText (values.take start) ++ "::" ++ segmentsText (values.drop (start + length))
    else segmentsText values

/-- The host of a SOCKS5 request, whose address type was read. -/
def readHost (kind : UInt8) : Dialogue String :=
  if kind = 1 then do
    let bytes ← readExact 4
    return ipv4Text bytes
  else if kind = 4 then do
    let bytes ← readExact 16
    return ipv6Text bytes
  else if kind = 3 then do
    let length ← readExact 1
    let bytes ← readExact (length.getD 0 0).toNat
    Section.check (required (fromUtf8 bytes) (.failed (.remote "SOCKS5 域名编码无效")))
  else refuse "SOCKS5 地址类型无效"

def readSocksTarget : Dialogue (String × UInt16) := do
  let greeting ← readExact 2
  if greeting.getD 0 0 ≠ 5 then refuse "动态转发仅支持 SOCKS5"
  else do
    let _ ← readExact (greeting.getD 1 0).toNat
    writeAll [5, 0]
    let head ← readExact 4
    if head.getD 0 0 ≠ 5 ∨ head.getD 1 0 ≠ 1 then refuse "SOCKS5 仅支持 CONNECT"
    else do
      let host ← readHost (head.getD 3 0)
      let port ← readExact 2
      return (host, UInt16.ofNat ((port.getD 0 0).toNat * 256 + (port.getD 1 0).toNat))

/-- What the server says to the channel for a target. -/
inductive Opening
  | opened
  | refused (error : AppError)
  /-- The SSH session itself has failed. -/
  | broken (error : AppError)
  deriving DecidableEq, Repr

/-- The forward whose clients are served. -/
structure Forward where
  forwardType : String
  destinationHost : Option String
  destinationPort : Option Int
  deriving DecidableEq, Repr

/-- A client that was accepted, and what the calls for it return. -/
structure Accepted where
  peer : Peer
  address : String
  port : UInt16
  /-- What `set_nonblocking` fails with, if it does. -/
  nonblocking : Option String
  opening : Opening
  deriving DecidableEq, Repr

/-- A failure of the thread that the client is told of, as far as it listens. -/
def answering {α : Type} (whole : Dialogue α) (bytes : List UInt8) : Dialogue α := fun peer =>
  match whole peer with
  | (.error .blocked, next) => (.error .blocked, next)
  | (.error halt, next) => (.error halt, tryWrite bytes next)
  | (.ok value, next) => (.ok value, next)

/-- Where a client is to be connected to. -/
def targetOf (forward : Forward) : Dialogue (String × UInt16) :=
  if forward.forwardType = "dynamic" then answering readSocksTarget [5, 1, 0, 1, 0, 0, 0, 0, 0, 0]
  else return (forward.destinationHost.getD "", UInt16.ofNat ((forward.destinationPort.getD 0) % 65536).toNat)

/-- What follows once the server has answered. -/
def connect (forward : Forward) (target : String × UInt16) : Opening → Dialogue (String × UInt16)
  | .opened => do
    if forward.forwardType = "dynamic" then writeAll [5, 0, 0, 1, 0, 0, 0, 0, 0, 0] else pure ()
    return target
  | .refused error => giveUp (.failed error)
  | .broken error => giveUp (.broken error)
where
  /-- A client is only told where it speaks SOCKS5. -/
  giveUp (halt : Halt) : Dialogue (String × UInt16) :=
    if forward.forwardType = "dynamic" then answering (Section.check (.error halt)) [5, 5, 0, 1, 0, 0, 0, 0, 0, 0]
    else Section.check (.error halt)

def serveClient (forward : Forward) (accepted : Accepted) : Dialogue (String × UInt16) := do
  let _ ← Section.check (match accepted.nonblocking with
    | none => .ok ()
    | some message => .error (.failed (.storage message)))
  let target ← targetOf forward
  connect forward target accepted.opening

/-- Where the thread of a tunnel is. -/
inductive AcceptStage
  | accepting
  /-- It waits for a client that does not say what it wants. -/
  | stuck
  | ended (result : AppResult Unit)
  deriving DecidableEq, Repr

/-- The thread of a tunnel. -/
structure AcceptLoop where
  stage : AcceptStage
  /-- The stop token is set. -/
  stopped : Bool
  /-- The server's answer was that the SSH session has failed. -/
  broken : Bool
  /-- The targets that clients were bridged to. -/
  bridged : List (String × UInt16)
  deriving DecidableEq, Repr

/-- What happens to the thread. -/
inductive AcceptEvent
  | stop
  /-- It finds the stop token set. -/
  | leave
  /-- No client is waiting. -/
  | idle
  /-- The listening socket fails. -/
  | failed (error : AppError)
  | client (accepted : Accepted)
  deriving DecidableEq, Repr

/-- What becomes of the thread with one client. -/
def AcceptLoop.serve (loop : AcceptLoop) (forward : Forward) (accepted : Accepted) : AcceptLoop :=
  match (serveClient forward accepted accepted.peer).1 with
  | .ok target => { loop with bridged := loop.bridged ++ [target] }
  | .error (.failed error) => { loop with stage := .ended (.error error) }
  | .error (.broken error) => { loop with stage := .ended (.error error), broken := true }
  | .error .blocked => { loop with stage := .stuck }

/-- What one event makes of the thread. -/
def acceptStep (forward : Forward) (loop : AcceptLoop) : AcceptEvent → Option AcceptLoop
  | .stop => some { loop with stopped := true }
  | .leave => if loop.stage = .accepting ∧ loop.stopped = true then some { loop with stage := .ended (.ok ()) } else none
  | .idle => if loop.stage = .accepting then some loop else none
  | .failed error => if loop.stage = .accepting then some { loop with stage := .ended (.error error) } else none
  | .client accepted => if loop.stage = .accepting then some (loop.serve forward accepted) else none

/-- The thread of a local or a dynamic forward, from when it listens. -/
def acceptSystem (forward : Forward) : System AcceptLoop AcceptEvent :=
  .ofStep (fun loop => loop = ⟨.accepting, false, false, []⟩) (acceptStep forward)

/-- The thread goes on accepting, until it is stopped or the SSH session fails. -/
def AcceptLoop.Serves (loop : AcceptLoop) : Prop := loop.stage = .accepting ∨ loop.stopped = true ∨ loop.broken = true

/-- The bytes of an address in a SOCKS5 request, from its type on. -/
def IsAddress : List UInt8 → Prop
  | [] => False
  | kind :: rest =>
    kind = 1 ∧ rest.length = 4 ∨ kind = 4 ∧ rest.length = 16 ∨
      kind = 3 ∧ ∃ length name, rest = length :: name ∧ name.length = length.toNat ∧ (fromUtf8 name).isSome = true

/-- A client greets with SOCKS5, takes an answer, and asks to be connected to an address and a port. -/
def SpeaksSocks (peer : Peer) : Prop :=
  0 < peer.accepts ∧ ∃ count methods reserved address port rest,
    peer.sends = 5 :: count :: methods ++ 5 :: 1 :: reserved :: address ++ port ++ rest ∧
      methods.length = count.toNat ∧ IsAddress address ∧ port.length = 2

/--
A client does no harm: the server does not refuse its channel, and where it must speak SOCKS5 it does, and stays
for the second answer.
-/
structure Harmless (forward : Forward) (accepted : Accepted) : Prop where
  nonblocking : accepted.nonblocking = none
  speaks : forward.forwardType = "dynamic" → SpeaksSocks accepted.peer ∧
    (accepted.opening = .opened → 1 < accepted.peer.accepts)
  opening : ∀ error, accepted.opening ≠ .refused error

/-- The thread was stopped before, or what happens does not end it. -/
def AcceptEvent.Harmless (forward : Forward) (loop : AcceptLoop) : AcceptEvent → Prop
  | .failed _ => loop.stopped = true
  | .client accepted => loop.stopped = true ∨ Client.Harmless forward accepted
  | .stop | .leave | .idle => True

section Reading

variable {peer next : Peer} {count : Nat} {bytes rest : List UInt8}

theorem readExact_eq_ok : readExact count peer = (.ok bytes, next) ↔
    ∃ rest, bytes.length = count ∧ peer.sends = bytes ++ rest ∧ next = { peer with sends := rest } := by
  unfold readExact
  split
  · next enough =>
    constructor
    · rintro same
      obtain ⟨taken, rfl⟩ := Prod.mk.inj same
      obtain rfl := Except.ok.inj taken
      exact ⟨_, by rw [List.length_take, Nat.min_eq_left enough], (List.take_append_drop _ _).symm, rfl⟩
    · rintro ⟨rest, rfl, sends, rfl⟩
      rw [sends, List.take_left, List.drop_left]
  · next short =>
    constructor
    · intro same
      cases same
    · rintro ⟨rest, rfl, sends, rfl⟩
      exact absurd (by rw [sends, List.length_append]; omega) short

theorem writeAll_eq_ok {u : Unit} : writeAll bytes peer = (.ok u, next) ↔
    0 < peer.accepts ∧ next = { peer with accepts := peer.accepts - 1, answered := peer.answered ++ bytes } := by
  unfold writeAll
  cases accepts : peer.accepts with
  | zero => simp
  | succ more => simp [eq_comm]

theorem refuse_eq_ok {α : Type} {message : String} {value : α} : refuse message peer = (.ok value, next) ↔ False := by
  simp [refuse, check]

theorem readExact_append (peer : Peer) (bytes rest : List UInt8) :
    readExact bytes.length { peer with sends := bytes ++ rest } = (.ok bytes, { peer with sends := rest }) :=
  readExact_eq_ok.mpr ⟨rest, rfl, rfl, rfl⟩

theorem readHost_ok {kind : UInt8} {host : String} (ran : readHost kind peer = (.ok host, next)) :
    ∃ address rest, peer.sends = address ++ rest ∧ IsAddress (kind :: address) ∧
      next = { peer with sends := rest } := by
  unfold readHost at ran
  split at ran
  · next four =>
    obtain ⟨bytes, middle, first, ran⟩ := Section.bind_eq_ok.mp ran
    obtain ⟨rest, length, sends, rfl⟩ := readExact_eq_ok.mp first
    cases ran
    exact ⟨bytes, rest, sends, .inl ⟨four, length⟩, rfl⟩
  · split at ran
    · next six =>
      obtain ⟨bytes, middle, first, ran⟩ := Section.bind_eq_ok.mp ran
      obtain ⟨rest, length, sends, rfl⟩ := readExact_eq_ok.mp first
      cases ran
      exact ⟨bytes, rest, sends, .inr (.inl ⟨six, length⟩), rfl⟩
    · split at ran
      · next name =>
        obtain ⟨length, middle, first, ran⟩ := Section.bind_eq_ok.mp ran
        obtain ⟨bytes, last, second, ran⟩ := Section.bind_eq_ok.mp ran
        obtain ⟨more, one, sends, rfl⟩ := readExact_eq_ok.mp first
        obtain ⟨rest, size, further, rfl⟩ := readExact_eq_ok.mp second
        obtain ⟨decoded, rfl⟩ := check_eq_ok.mp ran
        have text := required_eq_ok.mp decoded
        obtain ⟨byte, rfl⟩ := List.length_eq_one_iff.mp one
        have tail : more = bytes ++ rest := further
        refine ⟨byte :: bytes, rest, by rw [sends, tail]; rfl, .inr (.inr ⟨name, byte, bytes, rfl, size, ?_⟩), rfl⟩
        rw [text]
        rfl
      · exact absurd ran (refuse_eq_ok.mp · |>.elim)

theorem readHost_append {kind : UInt8} {address : List UInt8} (whole : IsAddress (kind :: address)) (peer : Peer)
    (rest : List UInt8) :
    ∃ host, readHost kind { peer with sends := address ++ rest } = (.ok host, { peer with sends := rest }) := by
  unfold readHost
  rcases whole with ⟨rfl, four⟩ | ⟨rfl, six⟩ | ⟨rfl, length, name, rfl, size, text⟩
  · refine ⟨ipv4Text address, ?_⟩
    rw [if_pos rfl, ← four, bind_apply_ok (readExact_append peer address rest)]
    rfl
  · refine ⟨ipv6Text address, ?_⟩
    rw [if_neg (by decide), if_pos rfl, ← six, bind_apply_ok (readExact_append peer address rest)]
    rfl
  · obtain ⟨host, decoded⟩ := Option.isSome_iff_exists.mp text
    have first := readExact_append peer [length] (name ++ rest)
    have second : readExact length.toNat { peer with sends := name ++ rest } = (.ok name, { peer with sends := rest }) :=
      size ▸ readExact_append peer name rest
    refine ⟨host, ?_⟩
    rw [if_neg (by decide), if_neg (by decide), if_pos rfl]
    refine (bind_apply_ok first).trans ((bind_apply_ok second).trans ?_)
    rw [decoded]
    rfl

theorem readSocksTarget_ok {target : String × UInt16} (ran : readSocksTarget peer = (.ok target, next)) :
    SpeaksSocks peer ∧ next.accepts + 1 = peer.accepts := by
  unfold readSocksTarget at ran
  obtain ⟨greeting, _, first, ran⟩ := Section.bind_eq_ok.mp ran
  obtain ⟨more, two, sends, rfl⟩ := readExact_eq_ok.mp first
  split at ran
  · exact absurd ran (refuse_eq_ok.mp · |>.elim)
  next version =>
  obtain ⟨methods, _, second, ran⟩ := Section.bind_eq_ok.mp ran
  obtain ⟨after, size, further, rfl⟩ := readExact_eq_ok.mp second
  obtain ⟨_, answered, third, ran⟩ := Section.bind_eq_ok.mp ran
  obtain ⟨takes, rfl⟩ := writeAll_eq_ok.mp third
  obtain ⟨head, _, fourth, ran⟩ := Section.bind_eq_ok.mp ran
  obtain ⟨request, four, asks, rfl⟩ := readExact_eq_ok.mp fourth
  split at ran
  · exact absurd ran (refuse_eq_ok.mp · |>.elim)
  next command =>
  obtain ⟨host, _, fifth, ran⟩ := Section.bind_eq_ok.mp ran
  obtain ⟨address, left, there, whole, rfl⟩ := readHost_ok fifth
  obtain ⟨port, _, sixth, ran⟩ := Section.bind_eq_ok.mp ran
  obtain ⟨rest, bytes, behind, rfl⟩ := readExact_eq_ok.mp sixth
  cases ran
  -- The two fixed parts are what they were checked to be.
  obtain ⟨five, count, rfl⟩ := List.length_eq_two.mp two
  obtain rfl : five = 5 := not_not.mp version
  obtain ⟨again, connect, reserved, kind, rfl⟩ : ∃ a b c d, head = [a, b, c, d] := by
    match head, four with
    | [a, b, c, d], _ => exact ⟨a, b, c, d, rfl⟩
  obtain ⟨same, one⟩ := not_or.mp command
  obtain rfl : again = 5 := not_not.mp same
  obtain rfl : connect = 1 := not_not.mp one
  have takes : 0 < peer.accepts := takes
  refine ⟨⟨takes, count, methods, reserved, kind :: address, port, rest, ?_, size, whole, bytes⟩,
    Nat.sub_add_cancel takes⟩
  have further : more = methods ++ after := further
  have asks : after = [5, 1, reserved, kind] ++ request := asks
  have there : request = address ++ left := there
  have behind : left = port ++ rest := behind
  rw [sends, further, asks, there, behind]
  simp

theorem readSocksTarget_of_speaks (speaks : SpeaksSocks peer) :
    ∃ target next, readSocksTarget peer = (.ok target, next) := by
  obtain ⟨takes, count, methods, reserved, address, port, rest, sends, size, whole, bytes⟩ := speaks
  cases address with
  | nil => cases whole
  | cons kind address =>
    have first : readExact 2 peer = (.ok [5, count],
        { peer with sends := methods ++ 5 :: 1 :: reserved :: kind :: address ++ port ++ rest }) :=
      readExact_eq_ok.mpr ⟨_, rfl, by rw [sends]; simp, rfl⟩
    have second : readExact count.toNat
        { peer with sends := methods ++ 5 :: 1 :: reserved :: kind :: address ++ port ++ rest } =
          (.ok methods, { peer with sends := 5 :: 1 :: reserved :: kind :: (address ++ (port ++ rest)) }) :=
      readExact_eq_ok.mpr ⟨_, size, by simp, rfl⟩
    have third : ∀ peer : Peer, 0 < peer.accepts → writeAll [5, 0] peer =
        (.ok (), { peer with accepts := peer.accepts - 1, answered := peer.answered ++ [5, 0] }) :=
      fun peer takes => writeAll_eq_ok.mpr ⟨takes, rfl⟩
    have fourth : ∀ peer : Peer, readExact 4 { peer with sends := 5 :: 1 :: reserved :: kind :: (address ++ (port ++ rest)) } =
        (.ok [5, 1, reserved, kind], { peer with sends := address ++ (port ++ rest) }) :=
      fun peer => readExact_append peer [5, 1, reserved, kind] _
    obtain ⟨host, fifth⟩ := readHost_append whole
      { peer with accepts := peer.accepts - 1, answered := peer.answered ++ [5, 0] } (port ++ rest)
    have sixth : ∀ peer : Peer, readExact 2 { peer with sends := port ++ rest } = (.ok port, { peer with sends := rest }) :=
      fun peer => bytes ▸ readExact_append peer port rest
    refine ⟨(host, UInt16.ofNat ((port.getD 0 0).toNat * 256 + (port.getD 1 0).toNat)),
      { peer with sends := rest, accepts := peer.accepts - 1, answered := peer.answered ++ [5, 0] }, ?_⟩
    unfold readSocksTarget
    refine (bind_apply_ok first).trans ?_
    rw [if_neg (by simp)]
    refine (bind_apply_ok second).trans ((bind_apply_ok (third
      { peer with sends := 5 :: 1 :: reserved :: kind :: (address ++ (port ++ rest)) } takes)).trans
        ((bind_apply_ok (fourth { peer with accepts := peer.accepts - 1, answered := peer.answered ++ [5, 0] })).trans ?_))
    rw [if_neg (by simp)]
    exact (bind_apply_ok fifth).trans (bind_apply_ok (sixth _))

end Reading

section Serving

variable {α β : Type} {peer next : Peer} {forward : Forward} {accepted : Accepted} {target : String × UInt16}

/-- Whatever the client does, it is not the SSH session that fails. -/
def Unbroken (whole : Dialogue α) : Prop := ∀ peer error next, whole peer ≠ (.error (.broken error), next)

theorem Unbroken.bind {first : Dialogue α} {following : α → Dialogue β} (one : Unbroken first)
    (rest : ∀ value, Unbroken (following value)) : Unbroken (first >>= following) := by
  intro peer error next ran
  rcases bind_eq_error.mp ran with failed | ⟨value, middle, -, failed⟩
  · exact one _ _ _ failed
  · exact rest value _ _ _ failed

theorem Unbroken.refuse (message : String) : Unbroken (refuse message : Dialogue α) := by
  intro peer error next ran
  cases ran

theorem Unbroken.pure (value : α) : Unbroken (Pure.pure value : Dialogue α) := by
  intro peer error next ran
  cases ran

theorem Unbroken.readExact (count : Nat) : Unbroken (readExact count) := by
  intro peer error next ran
  unfold Client.readExact at ran
  split at ran
  · cases ran
  · cases ends : peer.ends <;> simp [ends, Ending.halt] at ran

theorem Unbroken.writeAll (bytes : List UInt8) : Unbroken (writeAll bytes) := by
  intro peer error next ran
  unfold Client.writeAll at ran
  split at ran <;> cases ran

theorem Unbroken.readHost (kind : UInt8) : Unbroken (readHost kind) := by
  unfold Client.readHost
  split
  · exact .bind (.readExact _) fun _ => .pure _
  split
  · exact .bind (.readExact _) fun _ => .pure _
  split
  · refine .bind (.readExact _) fun _ => .bind (.readExact _) fun bytes => ?_
    intro peer error next ran
    cases text : fromUtf8 bytes <;> simp [text, required, check] at ran
  · exact .refuse _

theorem Unbroken.readSocksTarget : Unbroken readSocksTarget := by
  unfold Client.readSocksTarget
  refine .bind (.readExact _) fun _ => ?_
  split
  · exact .refuse _
  refine .bind (.readExact _) fun _ => .bind (.writeAll _) fun _ => .bind (.readExact _) fun _ => ?_
  split
  · exact .refuse _
  exact .bind (.readHost _) fun _ => .bind (.readExact _) fun _ => .pure _

theorem answering_fst (whole : Dialogue α) (bytes : List UInt8) (peer : Peer) :
    (answering whole bytes peer).1 = (whole peer).1 := by
  unfold answering
  rcases whole peer with ⟨result, next⟩
  cases result with
  | ok value => rfl
  | error halt => cases halt <;> rfl

theorem targetOf_ok (ran : targetOf forward peer = (.ok target, next)) :
    (forward.forwardType = "dynamic" → SpeaksSocks peer ∧ next.accepts + 1 = peer.accepts) := by
  intro dynamic
  rw [targetOf, if_pos dynamic] at ran
  unfold answering at ran
  split at ran
  · cases ran
  · cases ran
  · next value after read =>
    cases ran
    exact readSocksTarget_ok read

theorem targetOf_of_speaks (speaks : forward.forwardType = "dynamic" → SpeaksSocks peer) :
    ∃ target next, targetOf forward peer = (.ok target, next) := by
  unfold targetOf
  split
  · next dynamic =>
    obtain ⟨target, next, read⟩ := readSocksTarget_of_speaks (speaks dynamic)
    refine ⟨target, next, ?_⟩
    unfold answering
    rw [read]
  · exact ⟨_, _, rfl⟩

theorem targetOf_unbroken : Unbroken (targetOf forward) := by
  intro peer error next ran
  unfold targetOf at ran
  split at ran
  · have same := answering_fst readSocksTarget [5, 1, 0, 1, 0, 0, 0, 0, 0, 0] peer
    rw [ran] at same
    cases read : readSocksTarget peer with
    | mk result after =>
      rw [read] at same
      obtain rfl : Except.error (Halt.broken error) = result := same
      exact Unbroken.readSocksTarget _ _ _ read
  · cases ran

theorem connect_fst (opening : Opening) : (connect forward target opening peer).1 =
    match opening with
    | .opened =>
      if forward.forwardType = "dynamic" ∧ peer.accepts = 0 then
        .error (.failed (.storage "Broken pipe (os error 32)")) else .ok target
    | .refused error => .error (.failed error)
    | .broken error => .error (.broken error) := by
  have gives : ∀ halt : Halt, (connect.giveUp forward halt peer).1 = .error halt := by
    intro halt
    unfold connect.giveUp
    split
    · rw [answering_fst]
      rfl
    · rfl
  cases opening with
  | opened =>
    by_cases dynamic : forward.forwardType = "dynamic"
    · cases accepts : peer.accepts with
      | zero =>
        have stopped : Client.writeAll [5, 0, 0, 1, 0, 0, 0, 0, 0, 0] peer =
            (.error (.failed (.storage "Broken pipe (os error 32)")), peer) := by rw [Client.writeAll, accepts]
        simp only [connect, if_pos dynamic]
        rw [bind_apply_error stopped]
        simp [dynamic]
      | succ more =>
        have goes : Client.writeAll [5, 0, 0, 1, 0, 0, 0, 0, 0, 0] peer = (.ok (), _) :=
          writeAll_eq_ok.mpr ⟨by omega, rfl⟩
        simp only [connect, if_pos dynamic]
        rw [bind_apply_ok goes]
        simp
    · simp only [connect, dynamic, false_and, if_false]
      rfl
  | refused error => exact gives _
  | broken error => exact gives _

/-- A client does no harm exactly when it is bridged, or the SSH session turns out to have failed. -/
theorem serveClient_iff :
    ((∃ target, (serveClient forward accepted accepted.peer).1 = .ok target) ∨
        ∃ error, (serveClient forward accepted accepted.peer).1 = .error (.broken error)) ↔
      Harmless forward accepted := by
  unfold serveClient
  rw [check_bind_apply]
  cases blocking : accepted.nonblocking with
  | some message => simpa using fun harmless : Harmless forward accepted => by simpa [blocking] using harmless.nonblocking
  | none =>
    simp only
    cases read : targetOf forward accepted.peer with
    | mk result after =>
      cases result with
      | error halt =>
        rw [bind_apply_error read]
        refine iff_of_false ?_ fun harmless => ?_
        · rintro (⟨target, same⟩ | ⟨error, same⟩)
          · cases same
          · obtain rfl := Except.error.inj same
            exact targetOf_unbroken _ _ _ read
        · obtain ⟨target, next, found⟩ := targetOf_of_speaks fun dynamic => (harmless.speaks dynamic).1
          rw [read] at found
          cases found
      | ok target =>
        rw [bind_apply_ok read, connect_fst]
        have spoke := targetOf_ok read
        cases opening : accepted.opening with
        | refused error =>
          refine iff_of_false ?_ fun harmless => harmless.opening error opening
          rintro (⟨target, same⟩ | ⟨error, same⟩) <;> cases same
        | broken error =>
          have other : accepted.opening ≠ .opened ∧ ∀ reason, accepted.opening ≠ .refused reason := by simp [opening]
          exact iff_of_true (.inr ⟨error, rfl⟩)
            ⟨blocking, fun dynamic => ⟨(spoke dynamic).1, fun same => absurd same other.1⟩, other.2⟩
        | opened =>
          simp only
          split
          · next gone =>
            refine iff_of_false ?_ fun harmless => ?_
            · rintro (⟨target, same⟩ | ⟨error, same⟩) <;> cases same
            · have more := (harmless.speaks gone.1).2 opening
              have one := (spoke gone.1).2
              omega
          · next stays =>
            have other : ∀ reason, accepted.opening ≠ .refused reason := by simp [opening]
            refine iff_of_true (.inl ⟨target, rfl⟩) ⟨blocking, fun dynamic => ⟨(spoke dynamic).1, fun _ => ?_⟩, other⟩
            have one := (spoke dynamic).2
            have left : after.accepts ≠ 0 := fun gone => stays ⟨dynamic, gone⟩
            omega

theorem serve_iff {loop : AcceptLoop} (accepting : loop.stage = .accepting) :
    ((loop.serve forward accepted).stage = .accepting ∨ (loop.serve forward accepted).broken = true) ↔
      loop.broken = true ∨ Harmless forward accepted := by
  rw [← serveClient_iff]
  unfold AcceptLoop.serve
  split
  · next target served => simp [accepting, served]
  · next error failed => simp [failed]
  · next error failed => simp [failed]
  · next blocked => simp [blocked]

/-- What is carried along a run: the thread serves, and accepts no client once the session has failed. -/
def AcceptLoop.Carried (loop : AcceptLoop) : Prop := loop.Serves ∧ (loop.stage = .accepting → loop.broken = false)

theorem serve_carried {loop : AcceptLoop} (carried : loop.Carried) (accepting : loop.stage = .accepting) :
    (loop.serve forward accepted).stopped = loop.stopped ∧
      ((loop.serve forward accepted).stage = .accepting → (loop.serve forward accepted).broken = false) := by
  have sound := carried.2 accepting
  unfold AcceptLoop.serve
  split
  · exact ⟨rfl, fun _ => sound⟩
  · exact ⟨rfl, nofun⟩
  · exact ⟨rfl, nofun⟩
  · exact ⟨rfl, nofun⟩

/--
The thread of a tunnel goes on accepting until it is stopped or its session fails, exactly when its listening socket
does not fail and no client does harm before.
-/
theorem acceptLoop_serves_iff (forward : Forward) {trace : List (AcceptLoop × AcceptEvent)} {loop : AcceptLoop}
    (run : (acceptSystem forward).Run trace loop) :
    ((∀ entry ∈ trace, entry.1.Serves) ∧ loop.Serves) ↔ ∀ entry ∈ trace, entry.2.Harmless forward entry.1 := by
  refine run.exactly (fun loop event => event.Harmless forward loop) AcceptLoop.Carried AcceptLoop.Serves
    ?_ (fun loop carried => carried.1) ?_ ?_
  · rintro loop rfl
    exact ⟨.inl rfl, fun _ => rfl⟩
  · intro loop event next carried harmless taken
    change acceptStep forward loop event = some next at taken
    cases event with
    | stop =>
      cases taken
      exact ⟨.inr (.inl rfl), carried.2⟩
    | leave =>
      obtain ⟨⟨-, stopped⟩, rfl⟩ := System.guarded_eq_some.mp taken
      exact ⟨.inr (.inl stopped), nofun⟩
    | idle =>
      obtain ⟨-, rfl⟩ := System.guarded_eq_some.mp taken
      exact carried
    | failed error =>
      obtain ⟨-, rfl⟩ := System.guarded_eq_some.mp taken
      exact ⟨.inr (.inl harmless), nofun⟩
    | client accepted =>
      obtain ⟨accepting, rfl⟩ := System.guarded_eq_some.mp taken
      obtain ⟨same, sound⟩ := @serve_carried forward accepted loop carried accepting
      refine ⟨?_, sound⟩
      rcases harmless with stopped | harmless
      · exact .inr (.inl (same.trans stopped))
      · rcases (serve_iff accepting).mpr (.inr harmless) with going | broken
        · exact .inl going
        · exact .inr (.inr broken)
  · intro loop event next carried harm taken serves
    change acceptStep forward loop event = some next at taken
    cases event with
    | stop | leave | idle => exact harm trivial
    | failed error =>
      obtain ⟨accepting, rfl⟩ := System.guarded_eq_some.mp taken
      rcases serves with going | stopped | broken
      · cases going
      · exact harm stopped
      · rw [carried.2 accepting] at broken
        cases broken
    | client accepted =>
      obtain ⟨accepting, rfl⟩ := System.guarded_eq_some.mp taken
      obtain ⟨same, -⟩ := @serve_carried forward accepted loop carried accepting
      obtain ⟨running, harmful⟩ := not_or.mp harm
      have ends := (not_congr (serve_iff accepting)).mpr
        (not_or.mpr ⟨by simp [carried.2 accepting], harmful⟩)
      rcases serves with going | stopped | broken
      · exact ends (.inl going)
      · exact running (same ▸ stopped)
      · exact ends (.inr broken)

end Serving

namespace Demo

def dynamicForward : Forward := ⟨"dynamic", none, none⟩

/-- A client that sends some bytes, to whose target the server opens a channel. -/
def clientSending (bytes : List UInt8) : Accepted := ⟨⟨bytes, .closes, 8, []⟩, "127.0.0.1", 50000, none, .opened⟩

/-- A client that greets with another version ends the thread, and no one is served any more. -/
theorem tunnel_brought_down : ¬∀ (forward : Forward) (trace : List (AcceptLoop × AcceptEvent)) (loop : AcceptLoop),
    (acceptSystem forward).Run trace loop → loop.Serves := by
  intro always
  have goes : System.trail (acceptStep dynamicForward) ⟨.accepting, false, false, []⟩
      [.client (clientSending [4, 1])] = some (_, ⟨.ended (.error (.remote "动态转发仅支持 SOCKS5")), false, false, []⟩) := rfl
  have run := System.Run.trail (.start rfl : (acceptSystem dynamicForward).Run [] _) goes
  exact absurd (always _ _ _ run) (by simp [AcceptLoop.Serves])

def socksRequest : List UInt8 := [5, 1, 0, 5, 1, 0, 1, 10, 0, 0, 1, 0, 80]

theorem speaks_socksRequest : SpeaksSocks (clientSending socksRequest).peer :=
  ⟨by decide, 1, [0], 0, [1, 10, 0, 0, 1], [0, 80], [], rfl, rfl, .inl ⟨rfl, rfl⟩, rfl⟩

/-- After such a client the thread goes on. -/
theorem tunnel_goes_on : ∃ trace loop, (acceptSystem dynamicForward).Run trace loop ∧
    loop.bridged = [("10.0.0.1", 80)] ∧ loop.Serves := by
  have goes : System.trail (acceptStep dynamicForward) ⟨.accepting, false, false, []⟩
      [.client (clientSending socksRequest)] = some ([(⟨.accepting, false, false, []⟩, .client (clientSending socksRequest))],
        ⟨.accepting, false, false, [("10.0.0.1", 80)]⟩) := by decide
  have run := System.Run.trail (.start rfl : (acceptSystem dynamicForward).Run [] _) goes
  refine ⟨_, _, run, rfl, ((acceptLoop_serves_iff dynamicForward run).mpr ?_).2⟩
  intro entry member
  obtain rfl := List.mem_singleton.mp member
  exact .inr ⟨rfl, fun _ => ⟨speaks_socksRequest, fun _ => by decide⟩, nofun⟩

end Demo

end Client

end CNShell
