import CNShell.Client.Models
import CNShell.Library.Mutex

/-! The end of all Telnet, serial and local shell sessions, beside the reader threads of these sessions. -/

namespace CNShell

namespace Terminal

open Client (AppError AppResult)

/-- The locks of a session manager: its map, its set of closing sessions, its transfers and each of its sessions. -/
inductive ManagerLock
  | sessions
  | closing
  | transfers
  | session (id : String)
  deriving DecidableEq, Repr

/-- A transfer of a serial session. -/
structure ActiveTransfer where
  sessionId : String
  cancelled : Bool
  deriving DecidableEq, Repr

/-- What the window is told about a session. -/
structure TerminalStatus where
  sessionId : String
  status : String
  lastError : Option String := none
  attempt : Option Nat := none
  deriving DecidableEq, Repr

/-- What the threads of a manager share, with the keys of its map in the order that the map lists them. -/
structure Manager where
  sessions : List String
  closing : List String := []
  transfers : List ActiveTransfer := []
  released : List String := []
  statuses : List TerminalStatus := []
  deriving DecidableEq, Repr

abbrev Work := Thread ManagerLock Manager AppError

namespace Manager

variable (manager : Manager) (id : String)

/-- A session leaves the map; it is told whether it was there. -/
def removeSession : Bool × Manager :=
  (manager.sessions.contains id, { manager with sessions := manager.sessions.erase id })

/-- A session is marked as closing. -/
def insertClosing : Manager :=
  { manager with closing := if manager.closing.contains id then manager.closing else id :: manager.closing }

/-- The mark of a session is taken away; it is told whether it was there. -/
def removeClosing : Bool × Manager :=
  (manager.closing.contains id, { manager with closing := manager.closing.erase id })

def cancelTransfers : Manager :=
  { manager with
    transfers := manager.transfers.map fun transfer =>
      if transfer.sessionId = id then { transfer with cancelled := true } else transfer }

/-- The device of a session is given up. -/
def release : Manager := { manager with released := id :: manager.released }

/-- The window is told about a session. -/
def emit (status : TerminalStatus) : Manager := { manager with statuses := manager.statuses ++ [status] }

end Manager

/-- What the devices answer to their end. -/
structure Devices where
  /-- The socket of a Telnet session is shut down. -/
  shutdown : String → AppResult Unit
  /-- The process of a local shell is killed. -/
  kill : String → AppResult Unit

variable (devices : Devices) (id : String)

/-- The `close` of the Telnet manager. -/
def Telnet.close : Work Unit := do
  let found ← Thread.guarded .sessions (Thread.access fun manager => manager.removeSession id)
  .lift (ensure (found = true) (.notFound ("Telnet 会话 " ++ id)))
  Thread.guarded .closing (Thread.change fun manager => manager.insertClosing id)
  let outcome ← Thread.guarded (.session id)
    (Thread.access fun manager => (devices.shutdown id, manager.release id))
  .lift outcome

/-- The `close` of the serial manager. -/
def Serial.close : Work Unit := do
  let found ← Thread.guarded .sessions (Thread.access fun manager => manager.removeSession id)
  .lift (ensure (found = true) (.notFound ("Serial 会话 " ++ id)))
  Thread.guarded .closing (Thread.change fun manager => manager.insertClosing id)
  Thread.guarded .transfers (Thread.change fun manager => manager.cancelTransfers id)
  Thread.guarded (.session id) (Thread.change fun manager => manager.release id)

/-- The `close` of the local shell manager, which leaves the session in the map. -/
def LocalShell.close : Work Unit := do
  let found ← Thread.guarded .sessions
    (Thread.access fun manager => (manager.sessions.contains id, manager))
  .lift (ensure (found = true) (.notFound ("本地 Shell 会话 " ++ id)))
  Thread.guarded .closing (Thread.change fun manager => manager.insertClosing id)
  let outcome ← Thread.guarded (.session id)
    (Thread.access fun manager => (devices.kill id, manager.release id))
  .lift outcome

/-- The `close_all` of a manager: the guard of the map lives until the loop over its keys ends. -/
def closeAll (close : String → Work Unit) : Work Unit :=
  Thread.guarded .sessions do
    let ids ← Thread.access fun manager => (manager.sessions, manager)
    ids.forM fun id => (close id).ignore

/-! ### Readers -/

/-- Whether a session is marked as closing. -/
def isClosing : Work Bool :=
  Thread.guarded .closing (Thread.access fun manager => (manager.closing.contains id, manager))

/-- The end of a Telnet or serial reader: the session is forgotten and the window is told. -/
def finish (failure : Option String) : Work Unit := do
  let requested ← Thread.guarded .closing (Thread.access fun manager => manager.removeClosing id)
  let _ ← Thread.guarded .sessions (Thread.access fun manager => manager.removeSession id)
  Thread.change fun manager => manager.emit
    { sessionId := id
      status := if requested then "closed" else "failed"
      lastError := if requested then none else failure }

/-- What a reader of a Telnet session meets in one round: its stream ends, gives bytes, is silent or fails. -/
inductive TelnetRead
  | ended
  | data (answered : Except String Unit)
  | timedOut
  | failed (error : String)

/-- The reader of a Telnet session that meets some rounds and then the end of the stream. -/
def Telnet.reader : List TelnetRead → Work Unit
  | [] => do
    let _ ← isClosing id
    finish id (some "Telnet 服务器已关闭连接")
  | read :: reads => do
    let requested ← isClosing id
    if requested then finish id (some "Telnet 服务器已关闭连接")
    else
      match read with
      | .ended => finish id (some "Telnet 服务器已关闭连接")
      | .data (.ok ()) => Telnet.reader reads
      | .data (.error error) => finish id (some error)
      | .timedOut => Telnet.reader reads
      | .failed error => finish id (some error)

/-- The seconds before each attempt to open a serial device again. -/
def reconnectDelays : List Nat := [1, 2, 5, 10, 30]

/-- A reader polls whether its session is marked as closing, at most a number of times. -/
def pollClosing : Nat → Work Bool
  | 0 => pure false
  | polls + 1 => do
    let requested ← isClosing id
    if requested then pure true else pollClosing polls

/-- The attempts to open a serial device again; `opens` are those at which the device is there. -/
def reconnect (opens : Nat → Bool) (attempt : Nat) : List Nat → Work Bool
  | [] => pure false
  | delay :: delays => do
    Thread.change fun manager => manager.emit
      { sessionId := id
        status := "reconnecting"
        lastError := some ("串口设备已断开，" ++ toString delay ++ " 秒后尝试重新接入")
        attempt := some attempt }
    let requested ← pollClosing id (delay * 10)
    if requested then pure false
    else if opens attempt then do
      Thread.guarded (.session id) (Thread.change fun manager =>
        { manager with released := manager.released.filter (· ≠ id) })
      Thread.change fun manager => manager.emit { sessionId := id, status := "online" }
      pure true
    else reconnect opens (attempt + 1) delays

/-- What a reader of a serial session meets in one round: bytes or silence, a transfer that it waits for, or an error. -/
inductive SerialRead
  | data
  | transfer (polls : Nat)
  | failed (error : String) (opens : Nat → Bool)

/-- The reader of a serial session that meets some rounds and then finds that its session closes. -/
def Serial.reader : List SerialRead → Work Unit
  | [] => do
    let _ ← isClosing id
    finish id (some "串口设备已断开")
  | read :: reads => do
    let requested ← isClosing id
    if requested then finish id (some "串口设备已断开")
    else
      match read with
      | .data => Serial.reader reads
      | .transfer polls => do
        let _ ← pollClosing id polls
        Serial.reader reads
      | .failed error opens => do
        Thread.guarded (.session id) (Thread.change fun manager => manager.release id)
        let opened ← reconnect id opens 1 reconnectDelays
        if opened then Serial.reader reads
        else do
          let requested ← isClosing id
          finish id (if requested then some "串口设备已断开"
            else some ("串口设备断开且重连失败：" ++ error))

/-- How the process of a local shell ended. -/
structure Exit where
  successful : Bool
  text : String

/-- The reader of a local shell after the end of its output: it waits for the process with the session locked. -/
def LocalShell.reader (exit : Exit) : Work Unit := do
  let status ← Thread.guarded (.session id) (Thread.access fun manager => (exit, manager))
  let _ ← Thread.guarded .sessions (Thread.access fun manager => manager.removeSession id)
  let requested ← Thread.guarded .closing (Thread.access fun manager => manager.removeClosing id)
  Thread.change fun manager => manager.emit
    { sessionId := id
      status := if requested || status.successful then "closed" else "failed"
      lastError := if requested || status.successful then none
        else some ("本地 Shell 异常退出：" ++ status.text) }

/-- The managers. -/
inductive Protocol
  | telnet
  | serial
  | localShell
  deriving DecidableEq, Repr

/-- The `close` of a manager. -/
def Protocol.close (devices : Devices) : Protocol → String → Work Unit
  | .telnet => Telnet.close devices
  | .serial => Serial.close
  | .localShell => LocalShell.close devices

/-- A reader thread of a session, with what it meets until it ends. -/
inductive Reader : Protocol → Type
  | telnet (id : String) (reads : List TelnetRead) : Reader .telnet
  | serial (id : String) (reads : List SerialRead) : Reader .serial
  | localShell (id : String) (exit : Exit) : Reader .localShell

def Reader.thread {protocol : Protocol} : Reader protocol → Work Unit
  | .telnet id reads => Telnet.reader id reads
  | .serial id reads => Serial.reader id reads
  | .localShell id exit => LocalShell.reader id exit

/-- A thread that closes all sessions of a manager beside the readers of these sessions. -/
def shutdown (devices : Devices) (protocol : Protocol) (readers : List (Reader protocol)) :
    System (Threads ManagerLock Manager AppError) Nat where
  initial world := world.threads = closeAll (protocol.close devices) :: readers.map Reader.thread ∧
    ∀ lock, world.owner lock = none
  step := Threads.Step

section Readers

variable {ok : Manager → Prop} {id}

theorem isClosing_flat : (isClosing id).Flat ok none none := .guarded (.work _)

theorem finish_flat (failure : Option String) : (finish id failure).Flat ok none none :=
  (Thread.Flat.guarded (.work _)).bind fun _ => (Thread.Flat.guarded (.work _)).bind fun _ => .work _

theorem telnetReader_flat (reads : List TelnetRead) : (Telnet.reader id reads).Flat ok none none := by
  induction reads with
  | nil => exact isClosing_flat.bind fun _ => finish_flat _
  | cons read reads ih =>
    refine isClosing_flat.bind fun requested => ?_
    split
    · exact finish_flat _
    · rcases read with _ | (error | _) | _ | error
      · exact finish_flat _
      · exact finish_flat _
      · exact ih
      · exact ih
      · exact finish_flat _

theorem pollClosing_flat (polls : Nat) : (pollClosing id polls).Flat ok none none := by
  induction polls with
  | zero => exact .pure _
  | succ polls ih =>
    refine isClosing_flat.bind fun requested => ?_
    split
    · exact .pure _
    · exact ih

theorem reconnect_flat (opens : Nat → Bool) (attempt : Nat) (delays : List Nat) :
    (reconnect id opens attempt delays).Flat ok none none := by
  induction delays generalizing attempt with
  | nil => exact .pure _
  | cons delay delays ih =>
    refine (Thread.Flat.work _).bind fun _ => (pollClosing_flat _).bind fun requested => ?_
    split
    · exact .pure _
    split
    · exact (Thread.Flat.guarded (.work _)).bind fun _ => (Thread.Flat.work _).bind fun _ => .pure _
    · exact ih _

theorem serialReader_flat (reads : List SerialRead) : (Serial.reader id reads).Flat ok none none := by
  induction reads with
  | nil => exact isClosing_flat.bind fun _ => finish_flat _
  | cons read reads ih =>
    refine isClosing_flat.bind fun requested => ?_
    split
    · exact finish_flat _
    cases read with
    | data => exact ih
    | transfer polls => exact (pollClosing_flat _).bind fun _ => ih
    | failed error opens =>
      refine (Thread.Flat.guarded (.work _)).bind fun _ => (reconnect_flat _ _ _).bind fun opened => ?_
      split
      · exact ih
      · exact isClosing_flat.bind fun _ => finish_flat _

theorem Reader.flat {protocol : Protocol} (reader : Reader protocol) : reader.thread.Flat ok none none := by
  cases reader with
  | telnet id reads => exact telnetReader_flat reads
  | serial id reads => exact serialReader_flat reads
  | localShell id exit =>
    exact (Thread.Flat.guarded (.work _)).bind fun _ => (Thread.Flat.guarded (.work _)).bind fun _ =>
      (Thread.Flat.guarded (.work _)).bind fun _ => .work _

end Readers

section Closing

variable {devices : Devices} {protocol : Protocol} {readers : List (Reader protocol)}
  {world : Threads ManagerLock Manager AppError} {trace : List (Threads ManagerLock Manager AppError × Nat)}

/-- What `close_all` goes on with once it knows the keys. -/
def closeListed (close : String → Work Unit) (ids : List String) : Work Unit := do
  let result ← Program.caught (ids.forM fun id => (close id).ignore)
  .perform (.unlock .sessions)
  .lift result

theorem closeAll_eq (close : String → Work Unit) :
    ∃ begun listing, closeAll close = .step (.lock .sessions) begun ∧
      begun (.ok ()) = .step (.access fun manager => (manager.sessions, manager)) listing ∧
      ∀ ids, listing (.ok ids) = closeListed close ids :=
  ⟨_, _, rfl, rfl, fun _ => rfl⟩

theorem closeListed_nil (close : String → Work Unit) :
    ∃ last, closeListed close [] = .step (.unlock .sessions) last ∧ last (.ok ()) = .done (.ok ()) :=
  ⟨_, rfl, rfl⟩

theorem closeListed_cons (devices : Devices) (protocol : Protocol) (id : String) (ids : List String) :
    ∃ rest, closeListed (protocol.close devices) (id :: ids) = .step (.lock .sessions) rest := by
  cases protocol <;> exact ⟨_, rfl⟩

/-- How far `close_all` is while it has not come upon a key. -/
inductive Progress (close : String → Work Unit) (world : Threads ManagerLock Manager AppError) : Prop
  | waiting (turn : world.threads[0]? = some (closeAll close))
  | listing {later : AppResult (List String) → Work Unit} (own : world.owner .sessions = some 0)
      (turn : world.threads[0]? = some (.step (.access fun manager => (manager.sessions, manager)) later))
      (goes : ∀ ids, later (.ok ids) = closeListed close ids)
  | leaving (turn : world.threads[0]? = some (closeListed close []))
  | returned (turn : world.threads[0]? = some (.done (.ok ())))

/-- A step leads `close_all` on, unless it lists keys: then it waits for the lock of the map, which it owns. -/
theorem Progress.step {next : Threads ManagerLock Manager AppError} {i : Nat}
    (progress : Progress (protocol.close devices) world) (step : Threads.Step world i next) :
    (Progress (protocol.close devices) next ∧ (i = 0 → world.Works 0 → world.state.sessions = [])) ∨
      (i = 0 ∧ world.Works 0 ∧ world.state.sessions ≠ [] ∧ next.SelfBlocked 0) := by
  by_cases own : i = 0
  case neg =>
    have stays := step.others (Ne.symm own)
    refine .inl ⟨?_, fun same => absurd same own⟩
    cases progress with
    | waiting turn => exact .waiting (stays.trans turn)
    | listing held turn goes => exact .listing (step.owner_kept own held) (stays.trans turn) goes
    | leaving turn => exact .leaving (stays.trans turn)
    | returned turn => exact .returned (stays.trans turn)
  subst own
  have inside {thread : Work Unit} (turn : world.threads[0]? = some thread) (rest : Work Unit) :
      (world.threads.set 0 rest)[0]? = some rest :=
    List.getElem?_set_self (List.getElem?_eq_some_iff.mp turn).1
  cases progress with
  | waiting turn =>
    obtain ⟨begun, later, same, next, goes⟩ := closeAll_eq (protocol.close devices)
    rw [same] at turn
    cases step with
    | lock taken free =>
      cases turn.symm.trans taken
      refine .inl ⟨.listing (Function.update_self ManagerLock.sessions (some 0) world.owner) ?_ goes, ?_⟩
      · rw [← next]
        exact inside turn _
      · rintro - ⟨_, _, _, works⟩
        cases turn.symm.trans works
    | unlock taken _ => cases turn.symm.trans taken
    | access taken => cases turn.symm.trans taken
  | listing own turn goes =>
    obtain rfl := step.works turn
    cases keys : world.state.sessions with
    | nil =>
      refine .inl ⟨.leaving ?_, fun _ _ => rfl⟩
      rw [← goes, ← keys]
      exact inside turn _
    | cons id ids =>
      obtain ⟨rest, waits⟩ := closeListed_cons devices protocol id ids
      refine .inr ⟨rfl, ⟨_, _, _, turn⟩, List.cons_ne_nil _ _, .sessions, rest, ?_, own⟩
      rw [← waits, ← goes, ← keys]
      exact inside turn _
  | leaving turn =>
    obtain ⟨last, same, done⟩ := closeListed_nil (protocol.close devices)
    rw [same] at turn
    cases step with
    | lock taken _ => cases turn.symm.trans taken
    | unlock taken _ =>
      cases turn.symm.trans taken
      refine .inl ⟨.returned ?_, ?_⟩
      · rw [← done]
        exact inside turn _
      · rintro - ⟨_, _, _, works⟩
        cases turn.symm.trans works
    | access taken => cases turn.symm.trans taken
  | returned turn => cases step with
    | lock taken _ => cases turn.symm.trans taken
    | unlock taken _ => cases turn.symm.trans taken
    | access taken => cases turn.symm.trans taken

/-- The keys that `close_all` lists in a run: those in the map when it works on the state. -/
def Listed (trace : List (Threads ManagerLock Manager AppError × Nat)) (id : String) : Prop :=
  ∃ entry ∈ trace, entry.2 = 0 ∧ entry.1.Works 0 ∧ id ∈ entry.1.state.sessions

theorem progress_or_blocked (run : (shutdown devices protocol readers).Run trace world) :
    (Progress (protocol.close devices) world ∧ ∀ id, ¬Listed trace id) ∨
      ((∃ id, Listed trace id) ∧ world.SelfBlocked 0) := by
  refine run.history (fun _ _ => True) (fun trace world => (Progress (protocol.close devices) world ∧ ∀ id, ¬Listed trace id) ∨
    ((∃ id, Listed trace id) ∧ world.SelfBlocked 0)) ?_ ?_ fun _ _ => trivial
  · rintro world ⟨threads, -⟩
    refine .inl ⟨.waiting ?_, ?_⟩
    · rw [threads]
      rfl
    · rintro id ⟨entry, member, -⟩
      cases member
  · intro trace world i next before _ step
    rcases before with ⟨progress, nothing⟩ | ⟨⟨id, entry, member, listed⟩, blocked⟩
    · rcases progress.step step with ⟨onward, empty⟩ | ⟨rfl, works, some, blocked⟩
      · refine .inl ⟨onward, ?_⟩
        rintro id ⟨entry, member, own, works, among⟩
        rcases List.mem_append.mp member with old | last
        · exact nothing id ⟨entry, old, own, works, among⟩
        · obtain rfl := List.mem_singleton.mp last
          rw [empty own works] at among
          cases among
      · obtain ⟨id, among⟩ := List.exists_mem_of_ne_nil _ some
        exact .inr ⟨⟨id, _, List.mem_append.mpr (.inr List.mem_cons_self), rfl, works, among⟩, blocked⟩
    · exact .inr ⟨⟨id, entry, List.mem_append.mpr (.inl member), listed⟩, blocked.step step⟩

theorem closeAll_flat (close : String → Work Unit) :
    (closeAll close).Flat (fun manager => manager.sessions = []) none none := by
  refine .guarded (.access fun manager empty => ?_)
  show Thread.Flat _ _ _ (List.forM manager.sessions _)
  rw [empty]
  exact .pure ()

theorem orderly_of_unlisted (run : (shutdown devices protocol readers).Run trace world)
    (nothing : ∀ id, ¬Listed trace id) :
    world.Orderly (fun i manager => i = 0 → manager.sessions = []) := by
  refine run.invariant (fun world i => i = 0 → world.Works 0 → world.state.sessions = [])
    (fun world => world.Orderly fun i manager => i = 0 → manager.sessions = []) ?_ ?_ ?_
  · rintro world ⟨threads, free⟩
    constructor
    case flat =>
      intro i thread turn
      refine ⟨none, ?_, fun lock => by simp [free lock]⟩
      rw [threads] at turn
      cases i with
      | zero =>
        obtain rfl := Option.some.inj turn
        simpa using closeAll_flat (protocol.close devices)
      | succ i =>
        simp only [List.getElem?_cons_succ, List.getElem?_map, Option.map_eq_some_iff] at turn
        obtain ⟨reader, -, rfl⟩ := turn
        exact reader.flat
    case owned =>
      intro lock i owner
      rw [free lock] at owner
      cases owner
  · exact fun world i next orderly met step => orderly.step step fun works own => met own (own ▸ works)
  · intro entry member own works
    by_contra some
    obtain ⟨id, among⟩ := List.exists_mem_of_ne_nil _ some
    exact nothing id ⟨entry, member, own, works, among⟩

theorem selfBlocked_last (run : (shutdown devices protocol readers).Run trace world)
    {entry : Threads ManagerLock Manager AppError × Nat} (member : entry ∈ trace) (blocked : entry.1.SelfBlocked 0) :
    world.SelfBlocked 0 := by
  refine run.history (fun _ _ => True) (fun trace world => (∃ entry ∈ trace, entry.1.SelfBlocked 0) →
    world.SelfBlocked 0) ?_ ?_ (fun _ _ => trivial) ⟨entry, member, blocked⟩
  · rintro world - ⟨entry, member, -⟩
    cases member
  · rintro trace world i next before - step ⟨entry, member, blocked⟩
    rcases List.mem_append.mp member with old | last
    · exact (before ⟨entry, old, blocked⟩).step step
    · obtain rfl := List.mem_singleton.mp last
      exact blocked.step step

/--
Every run comes to an end, where `close_all` has closed what it listed exactly when that was nothing.

The first thread runs `close_all` of a manager, and the others are readers of its sessions.
-/
theorem closeAll_returns_iff (run : (shutdown devices protocol readers).Run trace world) :
    (∃ last, Relation.ReflTransGen (fun world next => ∃ i, Threads.Step world i next) world last ∧ last.Final) ∧
      (world.Final → ((world.Returned 0 ∧ (∀ id, Listed trace id → id ∈ world.state.released) ∧
          ∀ entry ∈ trace, ¬entry.1.SelfBlocked 0) ↔
        ∀ id, ¬Listed trace id)) := by
  refine ⟨Threads.exists_final world, fun final => ⟨?_, fun nothing => ?_⟩⟩
  · rintro ⟨⟨result, done⟩, -, -⟩
    rcases progress_or_blocked run with ⟨-, nothing⟩ | ⟨-, lock, rest, waits, -⟩
    · exact nothing
    · cases done.symm.trans waits
  · have orderly := orderly_of_unlisted run nothing
    have inside : 0 < world.threads.length := by
      rcases progress_or_blocked run with ⟨progress, -⟩ | ⟨⟨id, listed⟩, -⟩
      · cases progress with
        | waiting turn => exact (List.getElem?_eq_some_iff.mp turn).1
        | listing _ turn _ => exact (List.getElem?_eq_some_iff.mp turn).1
        | leaving turn => exact (List.getElem?_eq_some_iff.mp turn).1
        | returned turn => exact (List.getElem?_eq_some_iff.mp turn).1
      · exact absurd listed (nothing id)
    exact ⟨orderly.returned final inside, fun id listed => absurd listed (nothing id),
      fun entry member blocked => orderly.not_selfBlocked (selfBlocked_last run member blocked)⟩

end Closing

namespace Demo

/-- Devices that end as they are asked to. -/
def obeying : Devices where
  shutdown _ := .ok ()
  kill _ := .ok ()

/-- The Telnet manager with some sessions before its `close_all`, without readers. -/
def opened (sessions : List String) : Threads ManagerLock Manager AppError where
  threads := [closeAll (Telnet.close obeying)]
  owner _ := none
  state := { sessions }

/-- The map is locked by `close_all`, which is at some point of its work. -/
def locked (sessions : List String) (thread : Work Unit) : Threads ManagerLock Manager AppError where
  threads := [thread]
  owner := Function.update (fun _ => none) .sessions (some 0)
  state := { sessions }

theorem run_listed (sessions : List String) :
    ∃ trace, (shutdown obeying .telnet []).Run trace (locked sessions (closeListed (Telnet.close obeying) sessions)) ∧
      ∀ id, Listed trace id ↔ id ∈ sessions := by
  obtain ⟨begun, listing, same, next, goes⟩ := closeAll_eq (Telnet.close obeying)
  have start : (shutdown obeying .telnet []).Run [] (opened sessions) := .start ⟨rfl, fun _ => rfl⟩
  have turn : (opened sessions).threads[0]? = some (.step (.lock .sessions) begun) := congrArg some same
  have locks : (shutdown obeying .telnet []).Run ([] ++ [(opened sessions, 0)]) (locked sessions (begun (.ok ()))) :=
    start.snoc (.lock turn rfl)
  have works : (locked sessions (begun (.ok ()))).threads[0]? =
      some (.step (.access fun manager => (manager.sessions, manager)) listing) := congrArg some next
  have lists := locks.snoc (.access works)
  rw [goes] at lists
  refine ⟨_, lists, fun id => ⟨?_, fun member =>
    ⟨_, List.mem_append.mpr (.inr List.mem_cons_self), rfl, ⟨_, _, _, works⟩, member⟩⟩⟩
  rintro ⟨entry, member, -, -, among⟩
  simp only [List.nil_append, List.cons_append, List.mem_cons, List.not_mem_nil, or_false] at member
  rcases member with rfl | rfl <;> exact among

/-- Without sessions the manager returns from `close_all`. -/
theorem closeAll_returns_empty : ∃ trace world, (shutdown obeying .telnet []).Run trace world ∧ world.Final ∧
    world.Returned 0 ∧ ∀ entry ∈ trace, ¬entry.1.SelfBlocked 0 := by
  obtain ⟨trace, run, listed⟩ := run_listed []
  obtain ⟨last, same, ends⟩ := closeListed_nil (Telnet.close obeying)
  have turn : (locked [] (closeListed (Telnet.close obeying) [])).threads[0]? =
      some (.step (.unlock .sessions) last) := congrArg some same
  have whole := run.snoc (.unlock turn rfl)
  have nothing : ∀ id, ¬Listed (trace ++ [(locked [] (closeListed (Telnet.close obeying) []), 0)]) id := by
    rintro id ⟨entry, member, own, works, among⟩
    rcases List.mem_append.mp member with old | new
    · exact List.not_mem_nil ((listed id).mp ⟨entry, old, own, works, among⟩)
    · obtain rfl := List.mem_singleton.mp new
      exact List.not_mem_nil among
  have final : Threads.Final { locked [] (closeListed (Telnet.close obeying) []) with
      threads := (locked [] (closeListed (Telnet.close obeying) [])).threads.set 0 (last (.ok ()))
      owner := Function.update (locked [] (closeListed (Telnet.close obeying) [])).owner .sessions none } := by
    rw [ends]
    rintro (_ | i) next step
    all_goals cases step with
    | lock taken _ => cases taken
    | unlock taken _ => cases taken
    | access taken => cases taken
  obtain ⟨returned, -, never⟩ := ((closeAll_returns_iff whole).2 final).mpr nothing
  exact ⟨_, _, whole, final, returned, never⟩

/-- With one session `close_all` waits for the lock of the map that it holds itself. -/
theorem closeAll_blocks : ∃ trace world, (shutdown obeying .telnet []).Run trace world ∧ world.Final ∧
    Listed trace "a" ∧ world.SelfBlocked 0 ∧ ¬world.Returned 0 := by
  obtain ⟨trace, run, listed⟩ := run_listed ["a"]
  obtain ⟨rest, waits⟩ := closeListed_cons obeying .telnet "a" []
  have turn : (locked ["a"] (closeListed (Telnet.close obeying) ["a"])).threads[0]? =
      some (.step (.lock .sessions) rest) := congrArg some waits
  refine ⟨trace, _, run, ?_, (listed "a").mpr List.mem_cons_self, ⟨.sessions, rest, turn, rfl⟩, ?_⟩
  · intro i next step
    cases i with
    | zero =>
      cases step with
      | lock taken free =>
        cases turn.symm.trans taken
        cases free
      | unlock taken _ => cases turn.symm.trans taken
      | access taken => cases turn.symm.trans taken
    | succ i => cases step with
      | lock taken _ => cases taken
      | unlock taken _ => cases taken
      | access taken => cases taken
  · rintro ⟨result, done⟩
    cases turn.symm.trans done

end Demo

end Terminal

end CNShell
