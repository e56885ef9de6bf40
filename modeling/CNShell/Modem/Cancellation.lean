import CNShell.Modem.Xymodem

/-! What becomes of a transfer over a `CancellablePort` after it was cancelled. -/

namespace CNShell

namespace Modem

variable {α : Type}

/-- The check in front of every operation of a `CancellablePort`. -/
def check (cancelled : Bool) : Except IoError Unit :=
  if cancelled = true then .error ⟨.interrupted, "transfer cancelled"⟩ else .ok ()

/-- An operation of a `CancellablePort`, with what the port itself would answer. -/
def cancellable (cancelled : Bool) (answer : Except IoError β) : Except IoError β := do
  check cancelled
  answer

/-- What the operation under way has moved: how many bytes it wrote, and which ones it read. -/
structure Progress where
  written : Nat
  read : Bytes

/-- No operation is under way. -/
def Progress.none : Progress := ⟨0, []⟩

/-- How a loop of `read_exact` or `write_all` goes on: with what it has moved, or to its result. -/
inductive Loop (β : Type)
  | again (progress : Progress)
  | ended (outcome : Except IoError β)

/-- One `read` in the loop of `read_exact`, which tries again when it was interrupted. -/
def readExactCall (count : Nat) (progress : Progress) (answer : Except IoError Bytes) : Loop Bytes :=
  match answer with
  | .ok [] => .ended (.error ⟨.unexpectedEof, "failed to fill whole buffer"⟩)
  | .ok more =>
    let filled := progress.read ++ more.take (count - progress.read.length)
    if filled.length = count then .ended (.ok filled) else .again { progress with read := filled }
  | .error error => if error.kind = .interrupted then .again progress else .ended (.error error)

/-- One `write` in the loop of `write_all`, which tries again when it was interrupted. -/
def writeAllCall (length : Nat) (progress : Progress) (answer : Except IoError Nat) : Loop Unit :=
  match answer with
  | .ok 0 => .ended (.error ⟨.writeZero, "failed to write whole buffer"⟩)
  | .ok more =>
    let written := progress.written + more
    if length ≤ written then .ended (.ok ()) else .again { progress with written := written }
  | .error error => if error.kind = .interrupted then .again progress else .ended (.error error)

/-- A transfer that runs over a `CancellablePort`. -/
structure Running (α : Type) where
  program : Transfer α
  progress : Progress
  cancelled : Bool

/-- The transfer goes on after an operation. -/
def Running.resume (running : Running α) (next : Except Stop β → Transfer α)
    (outcome : Except IoError β) : Running α :=
  { running with program := next (outcome.mapError .io), progress := .none }

def Running.loop (running : Running α) (next : Except Stop β → Transfer α) : Loop β → Running α
  | .again progress => { running with progress := progress }
  | .ended outcome => running.resume next outcome

/-- What happens to a transfer. -/
inductive Moment
  | cancel
  /-- An operation of the port is called. -/
  | call
  /-- Something happens without the port. -/
  | local
  deriving DecidableEq, Repr

/-- The steps of a transfer, whatever the port and the files answer. -/
inductive Advances : Running α → Moment → Running α → Prop
  | cancel {running : Running α} (goes : running.cancelled = false) :
      Advances running .cancel { running with cancelled := true }
  | readNothing {running : Running α} {next : Except Stop Bytes → Transfer α}
      (reads : running.program = .step (.readExact 0) next) :
      Advances running .local (running.resume next (.ok []))
  | read {running : Running α} {count : Nat} {next : Except Stop Bytes → Transfer α}
      (reads : running.program = .step (.readExact (count + 1)) next)
      (answer : Except IoError Bytes) :
      Advances running .call
        (running.loop next (readExactCall (count + 1) running.progress
          (cancellable running.cancelled answer)))
  | writeNothing {running : Running α} {next : Except Stop Unit → Transfer α}
      (writes : running.program = .step (.writeAll []) next) :
      Advances running .local (running.resume next (.ok ()))
  | write {running : Running α} {byte : UInt8} {bytes : Bytes} {next : Except Stop Unit → Transfer α}
      (writes : running.program = .step (.writeAll (byte :: bytes)) next)
      (answer : Except IoError Nat) :
      Advances running .call
        (running.loop next (writeAllCall (bytes.length + 1) running.progress
          (cancellable running.cancelled answer)))
  | flush {running : Running α} {next : Except Stop Unit → Transfer α}
      (flushes : running.program = .step .flush next) (answer : Except IoError Unit) :
      Advances running .call (running.resume next (cancellable running.cancelled answer))
  | file {β : Type} {running : Running α} {action : ModemAct β} {next : Except Stop β → Transfer α}
      (works : running.program = .step action next) (away : action.onPort = false)
      (answer : Except IoError β) : Advances running .local (running.resume next answer)

/-- The transfers over a port. -/
def transferSystem (program : Transfer α) : System (Running α) Moment where
  initial running := running = ⟨program, .none, false⟩
  step := Advances

/-- Every way a transfer can go on comes to an end. -/
def Returns (running : Running α) : Prop := Acc (fun next before => ∃ moment, Advances before moment next) running

/-- The next operation of the port, if there is one, is a flush. -/
inductive LetsOut : Transfer α → Prop
  | done (result : Except Stop α) : LetsOut (.done result)
  | flush (next : Except Stop Unit → Transfer α) : LetsOut (.step .flush next)
  | readNothing {next : Except Stop Bytes → Transfer α} (rest : LetsOut (next (.ok []))) :
      LetsOut (.step (.readExact 0) next)
  | writeNothing {next : Except Stop Unit → Transfer α} (rest : LetsOut (next (.ok ()))) :
      LetsOut (.step (.writeAll []) next)
  | file {β : Type} {action : ModemAct β} {next : Except Stop β → Transfer α} (away : action.onPort = false)
      (rest : ∀ answer : Except IoError β, LetsOut (next (answer.mapError .io))) :
      LetsOut (.step action next)

/-- No operation of the port is left, and the end is an error. -/
inductive Fails : Transfer α → Prop
  | done (error : Stop) : Fails (.done (.error error))
  | file {β : Type} {action : ModemAct β} {next : Except Stop β → Transfer α} (away : action.onPort = false)
      (rest : ∀ outcome, Fails (next outcome)) : Fails (.step action next)

/-- What tells the actions apart. -/
inductive Kind
  | read (count : Nat)
  | write (bytes : Bytes)
  | flush
  | file
  deriving DecidableEq

/-- What an action is, whatever it returns. -/
def ModemAct.kind {β : Type} : ModemAct β → Kind
  | readExact count => .read count
  | writeAll bytes => .write bytes
  | flush => .flush
  | _ => .file

/-- What the next action of a function is. -/
def kind? : Transfer α → Option Kind
  | .done _ => none
  | .step action _ => some action.kind

theorem kind_eq {β γ : Type} {one : ModemAct β} {other : ModemAct γ}
    {next : Except Stop β → Transfer α} {following : Except Stop γ → Transfer α}
    (same : Program.step one next = Program.step other following) : one.kind = other.kind :=
  Option.some.inj (congrArg kind? same)

theorem kind_of_away {β : Type} {action : ModemAct β} (away : action.onPort = false) : action.kind = .file := by
  cases action <;> first | rfl | cases away

def NoFlush (β : Type) (action : ModemAct β) : Prop := action.kind ≠ .flush

/-- After every flush that fails, the function fails without another operation of the port. -/
inductive Orderly : Transfer α → Prop
  | done (result : Except Stop α) : Orderly (.done result)
  | flush {next : Except Stop Unit → Transfer α} (fails : ∀ error, Fails (next (.error error)))
      (rest : Orderly (next (.ok ()))) : Orderly (.step .flush next)
  | other {β : Type} {action : ModemAct β} {next : Except Stop β → Transfer α}
      (noFlush : NoFlush β action) (rest : ∀ outcome, Orderly (next outcome)) : Orderly (.step action next)

variable {β : Type}

namespace Fails

variable {program : Transfer α}

theorem bind {following : α → Transfer β} (fails : Fails program) : Fails (program >>= following) := by
  show Fails (program.bind following)
  induction fails with
  | done error => exact .done error
  | file away _ ih => exact .file away ih

theorem cleaning {cleanup : Transfer Unit} (fails : Fails program)
    (away : cleanup.Only fun _ action => action.onPort = false) : Fails (Modem.cleaning program cleanup) := by
  have ends : ∀ error, Fails (do
      ignoring cleanup
      Program.lift (.error (.io error)) : Transfer α) := by
    intro error
    show Fails (((attempt cleanup).bind fun _ => Program.done (.ok ())).bind fun _ => _)
    induction away with
    | done result =>
      cases result with
      | ok value => exact .done _
      | error stop => cases stop <;> exact .done _
    | step permitted _ ih => exact .file permitted ih
  show Fails ((attempt program).bind _)
  induction fails with
  | done stop =>
    cases stop with
    | io error => exact ends error
    | outOfFuel => exact .done _
  | file away _ ih => exact .file away ih

theorem orderly (fails : Fails program) : Orderly program := by
  induction fails with
  | done error => exact .done _
  | file away _ ih => exact .other (by simp [NoFlush, kind_of_away away]) ih

end Fails

namespace Orderly

theorem of_noFlush {program : Transfer α} (whole : program.Only NoFlush) : Orderly program := by
  induction whole with
  | done result => exact .done result
  | step noFlush _ ih => exact .other noFlush ih

theorem next {action : ModemAct β} {following : Except Stop β → Transfer α}
    (orderly : Orderly (.step action following)) (outcome : Except Stop β) :
    Orderly (following outcome) := by
  cases orderly with
  | flush fails rest =>
    cases outcome with
    | ok value => exact rest
    | error error => exact (fails error).orderly
  | other _ rest => exact rest outcome

variable {following : α → Transfer β}

variable {program : Transfer α}

theorem bind (first : Orderly program)
    (rest : ∀ value, Orderly (following value)) : Orderly (program >>= following) := by
  show Orderly (program.bind following)
  induction first with
  | done result =>
    cases result with
    | ok value => exact rest value
    | error error => exact .done _
  | flush fails _ ih => exact .flush (fun error => (fails error).bind) ih
  | other noFlush _ ih => exact .other noFlush ih

theorem perform_bind {action : ModemAct α} (noFlush : NoFlush α action) (rest : ∀ value, Orderly (following value)) :
    Orderly (Program.perform action >>= following) := by
  refine .other noFlush fun outcome => ?_
  cases outcome with
  | ok value => exact rest value
  | error error => exact .done _

theorem cleaning {cleanup : Transfer Unit} (orderly : Orderly program)
    (away : cleanup.Only fun _ action => action.onPort = false) : Orderly (Modem.cleaning program cleanup) := by
  induction orderly with
  | done result =>
    cases result with
    | ok value => exact .done _
    | error stop => exact ((Fails.done stop).cleaning away).orderly
  | flush fails _ ih => exact .flush (fun error => (fails error).cleaning away) ih
  | other noFlush _ ih => exact .other noFlush ih

end Orderly

theorem attempt_only {allowed : (β : Type) → ModemAct β → Prop} {program : Transfer α}
    (whole : program.Only allowed) : (attempt program).Only allowed := by
  induction whole with
  | done result =>
    cases result with
    | ok value => exact .done _
    | error stop => cases stop <;> exact .done _
  | step permitted _ ih => exact .step permitted ih

section Functions

open Orderly

theorem readByte_noFlush : readByte.Only NoFlush := .perform_bind nofun fun _ => .pure _

theorem attempt_readByte_orderly : Orderly (attempt readByte) := of_noFlush (attempt_only readByte_noFlush)

theorem fail_orderly (kind : ErrorKind) (message : String) : Orderly (fail kind message : Transfer α) := .done _

theorem writeControl_orderly (value : UInt8) : Orderly (writeControl value) :=
  perform_bind nofun fun _ => .flush (fun error => .done error) (.done _)

theorem abort_orderly (kind : ErrorKind) (message : String) : Orderly (abort kind message : Transfer α) := by
  refine .other nofun fun outcome => ?_
  have flushes : Orderly (Program.step ModemAct.flush fun outcome =>
      ((attempt (Program.done outcome : Transfer Unit)).bind fun _ =>
        Program.done (.ok ())).bind fun _ => (fail kind message : Transfer α)) := by
    refine .flush (fun error => ?_) (.done _)
    cases error <;> exact .done _
  cases outcome with
  | ok value => exact flushes
  | error stop =>
    cases stop with
    | io error => exact flushes
    | outOfFuel => exact .done _

theorem receiveBlock_noFlush (start : UInt8) (mode : XmodemChecksum) : (receiveBlock start mode).Only NoFlush := by
  refine readByte_noFlush.bind fun number => readByte_noFlush.bind fun complement => ?_
  split
  · exact .lift _
  · refine .perform_bind nofun fun data => ?_
    cases mode with
    | checksum =>
      refine .bind (readByte_noFlush.bind fun sum => .pure _) fun valid => ?_
      split
      · exact .pure _
      · exact .lift _
    | crc16 =>
      refine .bind (readByte_noFlush.bind fun high => readByte_noFlush.bind fun low => .pure _)
        fun valid => ?_
      split
      · exact .pure _
      · exact .lift _

theorem waitForControl_orderly (accepted : Bytes) (retries : Nat) : Orderly (waitForControl accepted retries) := by
  induction retries with
  | zero => exact abort_orderly _ _
  | succ retries ih =>
    refine attempt_readByte_orderly.bind fun outcome => ?_
    cases outcome with
    | error error => exact ih
    | ok value =>
      dsimp only
      split
      · exact .done _
      · split
        · refine attempt_readByte_orderly.bind fun second => ?_
          cases second with
          | error error => exact ih
          | ok second =>
            dsimp only
            split
            · exact fail_orderly _ _
            · exact ih
        · exact ih

theorem transmit_orderly (number : UInt8) (data : Bytes) (mode : XmodemChecksum) :
    Orderly (transmit number data mode) :=
  perform_bind nofun fun _ => perform_bind nofun fun _ => perform_bind nofun fun _ =>
    .flush (fun error => .done error) (.done _)

theorem untilAcknowledged_orderly {transmission : Transfer Unit} (orderly : Orderly transmission)
    (aborted timedOut : String) (retries : Nat) :
    Orderly (untilAcknowledged transmission aborted timedOut retries) := by
  induction retries with
  | zero => exact abort_orderly _ _
  | succ retries ih =>
    refine orderly.bind fun _ => attempt_readByte_orderly.bind fun outcome => ?_
    cases outcome with
    | error error => exact ih
    | ok value =>
      dsimp only
      split
      · exact .done _
      · split
        · refine attempt_readByte_orderly.bind fun second => ?_
          cases second with
          | error error => exact ih
          | ok second =>
            dsimp only
            split
            · exact fail_orderly _ _
            · exact ih
        · exact ih

theorem sendBlock_orderly (number : UInt8) (data : Bytes) (mode : XmodemChecksum) :
    Orderly (sendBlock number data mode) := by
  unfold sendBlock
  split
  · exact fail_orderly _ _
  · exact untilAcknowledged_orderly (transmit_orderly number data mode) _ _ _

theorem untilAnswered_orderly (answer : UInt8) (timedOut : String) (retries : Nat) :
    Orderly (untilAnswered answer timedOut retries) := by
  induction retries with
  | zero => exact abort_orderly _ _
  | succ retries ih =>
    refine (writeControl_orderly eot).bind fun _ => attempt_readByte_orderly.bind fun outcome => ?_
    cases outcome with
    | error error => exact ih
    | ok value =>
      dsimp only
      split
      · exact .done _
      · exact ih

theorem sendPieces_orderly (size total : Nat) (mode : XmodemChecksum) (number : UInt8) (sent : Nat)
    (rest : List Bytes) : Orderly (sendPieces size total mode number sent rest) := by
  induction rest generalizing number sent with
  | nil => exact .done _
  | cons piece rest ih => exact (sendBlock_orderly _ _ _).bind fun _ => ih _ _

theorem rejectTurn_orderly (receiving : Receiving) : Orderly (rejectTurn receiving) :=
  (writeControl_orderly nak).bind fun _ => .done _

theorem confirmEot_orderly (options : ReceiveOptions) (received : Nat) : Orderly (confirmEot options received) := by
  unfold confirmEot
  split
  · exact (writeControl_orderly nak).bind fun _ => (waitForControl_orderly _ _).bind fun _ =>
      (writeControl_orderly ack).bind fun _ => (writeControl_orderly crcRequest).bind fun _ =>
        .done _
  · exact (writeControl_orderly ack).bind fun _ => .done _

theorem acceptBlock_orderly (options : ReceiveOptions) (receiving : Receiving) (data : Bytes) :
    Orderly (acceptBlock options receiving data) := by
  unfold acceptBlock
  split
  · exact abort_orderly _ _
  · exact perform_bind nofun fun _ => (writeControl_orderly ack).bind fun _ => .done _

theorem receiveTurn_orderly (options : ReceiveOptions) (receiving : Receiving) :
    Orderly (receiveTurn options receiving) := by
  refine attempt_readByte_orderly.bind fun outcome => ?_
  cases outcome with
  | error error => exact rejectTurn_orderly _
  | ok value =>
    dsimp only
    split
    · exact confirmEot_orderly _ _
    · split
      · refine attempt_readByte_orderly.bind fun second => ?_
        cases second with
        | error error => exact .done _
        | ok second =>
          dsimp only
          split
          · exact fail_orderly _ _
          · exact .done _
      · split
        · refine (of_noFlush (attempt_only (receiveBlock_noFlush _ _))).bind fun block => ?_
          cases block with
          | error error => exact rejectTurn_orderly _
          | ok block =>
            dsimp only
            split
            · exact acceptBlock_orderly _ _ _
            · split
              · exact (writeControl_orderly ack).bind fun _ => .done _
              · exact rejectTurn_orderly _
        · exact rejectTurn_orderly _

theorem receiveLoop_orderly (options : ReceiveOptions) (fuel : Nat) (receiving : Receiving) :
    Orderly (receiveLoop options fuel receiving) := by
  induction fuel generalizing receiving with
  | zero => exact .done _
  | succ fuel ih =>
    refine (receiveTurn_orderly options receiving).bind fun turn => ?_
    cases turn with
    | returned received => exact .done _
    | again receiving =>
      dsimp only
      split
      · exact abort_orderly _ _
      · exact ih receiving

theorem receiveHeader_orderly (retries : Nat) : Orderly (receiveHeader retries) := by
  induction retries with
  | zero => exact abort_orderly _ _
  | succ retries ih =>
    have again : ∀ value, Orderly (do
        writeControl value
        receiveHeader retries) := fun value => (writeControl_orderly value).bind fun _ => ih
    refine attempt_readByte_orderly.bind fun outcome => ?_
    cases outcome with
    | error error => exact again _
    | ok value =>
      dsimp only
      split
      · refine (of_noFlush (attempt_only (receiveBlock_noFlush _ _))).bind fun block => ?_
        cases block with
        | error error => exact again _
        | ok block =>
          dsimp only
          split
          · exact .done _
          · exact again _
      · split
        · refine attempt_readByte_orderly.bind fun second => ?_
          cases second with
          | error error => exact again _
          | ok second =>
            dsimp only
            split
            · exact fail_orderly _ _
            · exact again _
        · exact again _

theorem parseYmodemHeader_orderly (header : Bytes) : Orderly (parseYmodemHeader header) := by
  unfold parseYmodemHeader
  dsimp only
  split
  · exact fail_orderly _ _
  · split
    · exact .done _
    · split
      · exact fail_orderly _ _
      · split
        · exact fail_orderly _ _
        · split
          · exact fail_orderly _ _
          · split
            · split
              · exact .done _
              · exact fail_orderly _ _
            · exact fail_orderly _ _

theorem conflictPath_orderly (name : String) : Orderly (conflictPath name) := by
  have first : ∀ indices, Orderly (firstFree name indices) := by
    intro indices
    induction indices with
    | nil => exact fail_orderly _ _
    | cons index rest ih =>
      refine perform_bind nofun fun taken => ?_
      split
      · exact ih
      · exact .done _
  refine perform_bind nofun fun taken => ?_
  split
  · exact first _
  · exact .done _

theorem removeTemporary_away (number : Nat) :
    (Program.perform (.removeTemporary number) : Transfer Unit).Only
      fun _ action => action.onPort = false :=
  .perform rfl

theorem receiveFile_orderly (fuel number : Nat) (name : String) (size : Nat) :
    Orderly (receiveFile fuel number name size) := by
  refine (conflictPath_orderly name).bind fun finalName => ?_
  refine Orderly.cleaning ?_ (removeTemporary_away number)
  exact perform_bind nofun fun _ => (writeControl_orderly ack).bind fun _ =>
    (writeControl_orderly crcRequest).bind fun _ => (receiveLoop_orderly _ _ _).bind fun _ =>
      perform_bind nofun fun _ => perform_bind nofun fun _ => .done _

theorem receiveFiles_orderly (fuel files total : Nat) : Orderly (receiveFiles fuel files total) := by
  induction fuel generalizing files total with
  | zero => exact .done _
  | succ fuel ih =>
    refine (receiveHeader_orderly _).bind fun header =>
      (parseYmodemHeader_orderly header).bind fun parsed => ?_
    cases parsed with
    | none => exact (writeControl_orderly ack).bind fun _ => .done _
    | some file =>
      dsimp only
      split
      · exact abort_orderly _ _
      · exact (receiveFile_orderly _ _ _ _).bind fun _ => ih _ _

theorem validateUpload_orderly (source : Source) : Orderly (validateUpload source) := by
  unfold validateUpload
  split
  · exact fail_orderly _ _
  · split
    · exact fail_orderly _ _
    · exact .done _

theorem localFileName_orderly (source : Source) : Orderly (localFileName source) := by
  unfold localFileName
  split
  · exact fail_orderly _ _
  · split
    · exact fail_orderly _ _
    · exact .done _

theorem ymodemHeader_orderly (name : String) (size : Nat) : Orderly (ymodemHeader name size) := by
  unfold ymodemHeader
  split
  · exact fail_orderly _ _
  · dsimp only
    split
    · exact fail_orderly _ _
    · exact .done _

theorem waitForCrc_orderly : Orderly waitForCrc := (waitForControl_orderly _ _).bind fun _ => .done _

theorem sendFiles_orderly (total : Nat) (sources : List Source) : Orderly (sendFiles total sources) := by
  induction sources generalizing total with
  | nil => exact (sendBlock_orderly _ _ _).bind fun _ => .done _
  | cons source rest ih =>
    exact (validateUpload_orderly source).bind fun _ => (localFileName_orderly source).bind fun name =>
      (ymodemHeader_orderly _ _).bind fun header => (sendBlock_orderly _ _ _).bind fun _ =>
        waitForCrc_orderly.bind fun _ => (sendPieces_orderly _ _ _ _ _ _).bind fun _ =>
          ((untilAnswered_orderly _ _ _).bind fun _ => untilAnswered_orderly _ _ _).bind fun _ =>
            waitForCrc_orderly.bind fun _ => ih _

theorem validateXmodemDestination_orderly (destination : Destination) :
    Orderly (validateXmodemDestination destination) := by
  unfold validateXmodemDestination
  split
  · exact fail_orderly _ _
  · split
    · exact fail_orderly _ _
    · split
      · exact fail_orderly _ _
      · exact .done _

end Functions

/-- The transfers: an XMODEM or YMODEM upload or download. -/
inductive IsTransfer : Transfer Nat → Prop
  | xmodemSend (source : Source) (use1k : Bool) : IsTransfer (Modem.xmodemSend source use1k)
  | xmodemReceive (fuel : Nat) (destination : Destination) (mode : XmodemChecksum) :
      IsTransfer (Modem.xmodemReceive fuel destination mode)
  | ymodemSend (sources : List Source) : IsTransfer (Modem.ymodemSend sources)
  | ymodemReceive (fuel : Nat) (isDir : Bool) : IsTransfer (Modem.ymodemReceive fuel isDir)

theorem IsTransfer.orderly {program : Transfer Nat} (transfer : IsTransfer program) : Orderly program := by
  cases transfer with
  | xmodemSend source use1k =>
    exact (validateUpload_orderly source).bind fun _ => (localFileName_orderly source).bind fun _ =>
      ((waitForControl_orderly _ _).bind fun _ => .done _).bind fun _ =>
        (sendPieces_orderly _ _ _ _ _ _).bind fun _ =>
          (untilAcknowledged_orderly (writeControl_orderly eot) _ _ _).bind fun _ => .done _
  | xmodemReceive fuel destination mode =>
    refine (validateXmodemDestination_orderly destination).bind fun name => ?_
    refine Orderly.cleaning ?_ (removeTemporary_away 0)
    exact .perform_bind nofun fun _ => (writeControl_orderly _).bind fun _ =>
      (receiveLoop_orderly _ _ _).bind fun _ => .perform_bind nofun fun _ => .perform_bind nofun fun _ =>
        .done _
  | ymodemSend sources =>
    unfold Modem.ymodemSend
    split
    · exact fail_orderly _ _
    · exact waitForCrc_orderly.bind fun _ => sendFiles_orderly 0 sources
  | ymodemReceive fuel isDir =>
    unfold Modem.ymodemReceive
    split
    · exact fail_orderly _ _
    · exact (writeControl_orderly _).bind fun _ => receiveFiles_orderly fuel 0 0

variable {moment : Moment} {running : Running α}

theorem Advances.orderly {next : Running α}
    (orderly : Orderly running.program) (advances : Advances running moment next) : Orderly next.program := by
  -- Whatever an operation comes to, the program goes on from it.
  have resumes : ∀ {β : Type} {action : ModemAct β} {following : Except Stop β → Transfer α},
      running.program = .step action following → ∀ outcome, Orderly (following outcome) := by
    intro β action following same outcome
    rw [same] at orderly
    exact orderly.next outcome
  have loops : ∀ {β : Type} {action : ModemAct β} {following : Except Stop β → Transfer α},
      running.program = .step action following → ∀ loop, Orderly (running.loop following loop).program := by
    intro β action following same loop
    cases loop with
    | again progress => exact orderly
    | ended outcome => exact resumes same _
  cases advances with
  | cancel goes => exact orderly
  | readNothing reads => exact resumes reads _
  | read reads answer => exact loops reads _
  | writeNothing writes => exact resumes writes _
  | write writes answer => exact loops writes _
  | flush flushes answer => exact resumes flushes _
  | file works away answer => exact resumes works _

variable {program : Transfer α}

theorem Fails.returns (fails : Fails program) : ∀ progress, Returns ⟨program, progress, true⟩ := by
  induction fails with
  | done error =>
    intro progress
    refine ⟨_, fun next ⟨moment, advances⟩ => ?_⟩
    cases advances <;> contradiction
  | file away _ ih =>
    intro progress
    refine ⟨_, fun next ⟨moment, advances⟩ => ?_⟩
    have files := kind_of_away away
    cases advances with
    | cancel goes => cases goes
    | readNothing same | read same | writeNothing same | write same | flush same =>
      cases files.symm.trans (kind_eq same)
    | file works _ answer =>
      cases works
      exact ih _ .none

/-- A cancelled transfer whose next operation of the port is a flush, or that has none, returns. -/
theorem LetsOut.returns (letsOut : LetsOut program)
    (orderly : Orderly program) : ∀ progress, Returns ⟨program, progress, true⟩ := by
  induction letsOut with
  | done result =>
    intro progress
    refine ⟨_, fun next ⟨moment, advances⟩ => ?_⟩
    cases advances <;> contradiction
  | flush following =>
    intro progress
    refine ⟨_, fun next ⟨moment, advances⟩ => ?_⟩
    cases advances with
    | cancel goes => cases goes
    | readNothing same | read same | writeNothing same | write same =>
      cases kind_eq same
    | flush flushes answer =>
      cases flushes
      -- The flush of a cancelled port fails, and after that no operation is left.
      cases orderly with
      | flush fails rest => exact (fails _).returns .none
      | other noFlush rest => exact absurd rfl noFlush
    | file works away answer =>
      cases (kind_eq works).trans (kind_of_away away)
  | readNothing rest ih =>
    intro progress
    refine ⟨_, fun next ⟨moment, advances⟩ => ?_⟩
    cases advances with
    | cancel goes => cases goes
    | read same | writeNothing same | write same | flush same =>
      cases kind_eq same
    | readNothing reads =>
      cases reads
      exact ih (orderly.next _) .none
    | file works away answer =>
      cases (kind_eq works).trans (kind_of_away away)
  | writeNothing rest ih =>
    intro progress
    refine ⟨_, fun next ⟨moment, advances⟩ => ?_⟩
    cases advances with
    | cancel goes => cases goes
    | readNothing same | read same | write same | flush same =>
      cases kind_eq same
    | writeNothing writes =>
      cases writes
      exact ih (orderly.next _) .none
    | file works away answer =>
      cases (kind_eq works).trans (kind_of_away away)
  | file away rest ih =>
    intro progress
    refine ⟨_, fun next ⟨moment, advances⟩ => ?_⟩
    have files := kind_of_away away
    cases advances with
    | cancel goes => cases goes
    | readNothing same | read same | writeNothing same | write same | flush same =>
      cases files.symm.trans (kind_eq same)
    | file works _ answer =>
      cases works
      exact ih answer (orderly.next _) .none

theorem Returns.moves (returns : Returns running) : ¬Advances running moment running := by
  induction returns with
  | intro running _ ih => exact fun stays => ih running ⟨moment, stays⟩ stays

theorem Returns.letsOut (returns : Returns running)
    (cancelled : running.cancelled = true) : LetsOut running.program := by
  have whole := returns
  induction returns with
  | intro running ends ih =>
    obtain ⟨program, progress, flag⟩ := running
    obtain rfl : flag = true := cancelled
    cases program with
    | done result => exact .done result
    | step action next =>
      by_cases away : action.onPort = false
      · refine .file away fun answer => ?_
        have advances : Advances ⟨.step action next, progress, true⟩ .local _ :=
          .file rfl away answer
        exact ih _ ⟨_, advances⟩ rfl (ends _ ⟨_, advances⟩)
      · cases action with
        | readExact count =>
          cases count with
          | zero =>
            have advances : Advances ⟨.step (.readExact 0) next, progress, true⟩ .local _ :=
              .readNothing rfl
            exact .readNothing (ih _ ⟨_, advances⟩ rfl (ends _ ⟨_, advances⟩))
          | succ count =>
            -- The loop of `read_exact` tries again for ever.
            have again : Advances ⟨.step (.readExact (count + 1)) next, progress, true⟩ .call
              ⟨.step (.readExact (count + 1)) next, progress, true⟩ := .read rfl (.ok [])
            exact absurd again whole.moves
        | writeAll data =>
          cases data with
          | nil =>
            have advances : Advances ⟨.step (.writeAll []) next, progress, true⟩ .local _ :=
              .writeNothing rfl
            exact .writeNothing (ih _ ⟨_, advances⟩ rfl (ends _ ⟨_, advances⟩))
          | cons byte data =>
            -- So does the loop of `write_all`.
            have again : Advances ⟨.step (.writeAll (byte :: data)) next, progress, true⟩ .call
              ⟨.step (.writeAll (byte :: data)) next, progress, true⟩ := .write rfl (.ok 0)
            exact absurd again whole.moves
        | flush => exact .flush next
        | _ => exact absurd rfl away

/--
A cancelled transfer returns exactly when its next operation of the port is a flush, or it has none.

The states are those of every run of a transfer, whatever the port and the files answer.
-/
theorem cancelled_returns {program : Transfer Nat} (transfer : IsTransfer program)
    {trace : List (Running Nat × Moment)} {running : Running Nat}
    (run : (transferSystem program).Run trace running) (cancelled : running.cancelled = true) :
    Returns running ↔ LetsOut running.program := by
  have orderly : Orderly running.program := by
    refine System.Reachable.invariant (fun running => Orderly running.program) ?_ ?_ ⟨trace, run⟩
    · rintro state rfl
      exact transfer.orderly
    · exact fun _ _ _ orderly advances => Advances.orderly orderly advances
  constructor
  · exact fun returns => returns.letsOut cancelled
  · intro letsOut
    obtain ⟨program, progress, flag⟩ := running
    obtain rfl : flag = true := cancelled
    exact letsOut.returns orderly progress

namespace Demo

def source : Source := ⟨some "notes.txt", true, false, [1, 2, 3]⟩

def destination : Destination := ⟨true, some "notes.txt", false, true⟩

/-- A cancelled upload that waits for its receiver does not return. -/
theorem cancelled_waits :
    ¬∀ program, IsTransfer program → ∀ trace running, (transferSystem program).Run trace running →
      running.cancelled = true → Returns running := by
  intro always
  let waiting : Running Nat := ⟨xmodemSend source false, .none, false⟩
  let cancelled : Running Nat := { waiting with cancelled := true }
  have run : (transferSystem (xmodemSend source false)).Run [(waiting, .cancel)] cancelled :=
    System.Run.snoc (.start rfl) (.cancel rfl)
  -- The read of the receiver's request answers that it was interrupted, and is tried again.
  have again : Advances cancelled .call cancelled := .read rfl (.ok [])
  exact (always _ (.xmodemSend source false) _ _ run rfl).moves again

/-- A download that is cancelled between the write of its request and the flush returns. -/
theorem cancelled_returns_flush : ∃ trace running,
    (transferSystem (xmodemReceive 1 destination .crc16)).Run trace running ∧
      running.cancelled = true ∧ Returns running := by
  have begun : (transferSystem (xmodemReceive 1 destination .crc16)).Run []
      ⟨xmodemReceive 1 destination .crc16, .none, false⟩ := .start rfl
  have created := begun.snoc (.file rfl rfl (.ok ()))
  have requested := created.snoc (.write rfl (.ok 1))
  have cancelled := requested.snoc (.cancel rfl)
  exact ⟨_, _, cancelled, rfl, (cancelled_returns (.xmodemReceive 1 destination .crc16) cancelled rfl).mpr (.flush _)⟩

end Demo

end Modem

end CNShell
