import CNShell.Sftp.SingleFiles

/-! The transfer step of an automation: the time-out ends the waiting for it, not the copying. -/

namespace CNShell

namespace Client

open Sftp (Path Side FileTask FileCall FileRuns Failure Habits Volumes Comes fileCalls)
open Program (perform lift caught ignore Heeds)

/-- The file beside a destination that the bytes are written to. -/
def automationPart (path : Path) : Path := path ++ ".cnshell-automation-part".toList

/-- The permission bits that a part file is created with. -/
def createMode : Side → Option Nat
  | .remote => some 0o644
  | .own => none

/-- What the flag says; a transfer that is cancelled removes its part file. -/
def heedCancel (side : Side) (temporary : Path) : Except Failure Unit → FileTask Unit
  | .ok _ => return ()
  | .error _ => do
    ignore (perform (.remove side temporary))
    lift (.error (.app (.unavailable "自动化已取消")))

/-- The look at the flag at the top of each round. -/
def stopIfCancelled (side : Side) (temporary : Path) : FileTask Unit :=
  caught (perform .checkCancelled) >>= heedCancel side temporary

/-- The loop that copies what the source gives, piece by piece, until nothing comes. -/
def copyPieces (from_ into : Side) (source temporary : Path) : List (List UInt8) → FileTask Unit
  | [] => do
    stopIfCancelled into temporary
    perform (.read from_ source)
  | piece :: pieces => do
    stopIfCancelled into temporary
    perform (.read from_ source)
    if piece = [] then return ()
    else do
      perform (.write into temporary piece)
      copyPieces from_ into source temporary pieces

def copyPart (from_ into : Side) (source destination : Path) (pieces : List (List UInt8)) : FileTask Unit := do
  perform (.openFile from_ source)
  perform (.create into (automationPart destination) (createMode into))
  copyPieces from_ into source (automationPart destination) pieces
  perform (.fsync into (automationPart destination))

def transferFile (from_ into : Side) (source destination : Path) (pieces : List (List UInt8)) : FileTask Unit := do
  perform .session
  copyPart from_ into source destination pieces
  perform (.rename into (automationPart destination) destination)

/-- A transfer step: its direction, its two paths and the pieces that the source will give. -/
structure TransferStep where
  direction : String
  localPath : Path
  remotePath : Path
  pieces : List (List UInt8)

namespace TransferStep

/-- The side that gets the file. -/
def into (step : TransferStep) : Side := if step.direction = "upload" then .remote else .own

/-- The path that the file gets. -/
def destination (step : TransferStep) : Path := if step.direction = "upload" then step.remotePath else step.localPath

/-- What the blocking thread does. -/
def work (step : TransferStep) : FileTask Unit :=
  if step.direction = "upload" then transferFile .own .remote step.localPath step.remotePath step.pieces
  else transferFile .remote .own step.remotePath step.localPath step.pieces

end TransferStep

/-- The outcome of a step as it is reported, what was done before that and after it, and the files in the end. -/
structure StepReport where
  result : Except Failure Unit
  timedOut : Bool
  early : List (Event FileCall Failure)
  late : List (Event FileCall Failure)
  after : Volumes

inductive Reported (habits : Habits) (step : TransferStep) (before : Volumes) : StepReport → Prop
  | unconnected (error : Failure) : Reported habits step before ⟨.error error, false, [], [], before⟩
  | ended {log : List (Event FileCall Failure)} {result : Except Failure Unit} {after : Volumes}
      (run : FileRuns habits step.work before log result after) :
      Reported habits step before ⟨result, false, log, [], after⟩
  -- The time-out may strike between any two calls, and nothing stops the thread then.
  | timedOut {early late : List (Event FileCall Failure)} {rest : FileTask Unit} {middle after : Volumes}
      {result : Except Failure Unit}
      (under : step.work.Underway (fileCalls habits) FileCall.damage before early rest middle)
      (run : FileRuns habits rest middle late result after) :
      Reported habits step before ⟨.error (.app (.unavailable "文件传输步骤超时")), true, early, late, after⟩

def Puts (side : Side) (path : Path) : Event FileCall Failure → Bool
  | ⟨.create other at_ _, .ok _⟩ => side = other ∧ path = at_
  | ⟨.rename other _ at_, .ok _⟩ => side = other ∧ path = at_
  | ⟨.posixRename _ at_, .ok _⟩ => side = .remote ∧ path = at_
  | _ => false

/-- A step that was reported as failed has no later effect, and leaves no part file unless it timed out. -/
def NoLaterEffect (step : TransferStep) (report : StepReport) : Prop :=
  report.result.isOk = false →
    (∀ event ∈ report.late, Puts step.into step.destination event = false) ∧
      (report.timedOut = false → report.after.entries step.into (automationPart step.destination) = none)

/--
What has to happen for that.

A time-out strikes when the thread has nothing left to do, or one of its calls fails, the look at the flag included.
Any other failure is a cancellation whose removal works, or comes before the part file was created where none was.
-/
def StopsInTime (step : TransferStep) (before : Volumes) (report : StepReport) : Prop :=
  report.result.isOk = false →
    (report.timedOut = true → report.late = [] ∨ ∃ event ∈ report.early ++ report.late, event.outcome.isOk = false) ∧
      (report.timedOut = false →
        ⟨.remove step.into (automationPart step.destination), .ok ()⟩ ∈ report.early ∨
          (before.entries step.into (automationPart step.destination) = none ∧
            ∀ event ∈ report.early, Puts step.into (automationPart step.destination) event = false))

section Laws

variable {habits : Habits} {from_ into : Side} {source destination temporary : Path} {pieces : List (List UInt8)}
  {before after : Volumes} {log : List (Event FileCall Failure)} {result : Except Failure Unit}

theorem automationPart_ne (path : Path) : automationPart path ≠ path := by
  intro same
  have := congrArg List.length same
  simp [automationPart] at this

theorem stopIfCancelled_heeds : Heeds (fileCalls habits) FileCall.damage (stopIfCancelled into temporary) := by
  intro store last log result run
  obtain ⟨outcome, middle, rest, -, following, rfl⟩ := run.caught_bind
  cases outcome with
  | ok u =>
    obtain ⟨rfl, rfl, -⟩ := Program.runs_pure.mp following
    simp [Except.isOk, Except.toBool]
  | error error =>
    obtain ⟨_, _, _, _, -, stopped, rfl⟩ := following.ignore_bind
    obtain ⟨-, rfl, -⟩ := Program.runs_lift.mp stopped
    simp [Except.isOk, Except.toBool]

theorem copyPieces_heeds (pieces : List (List UInt8)) :
    Heeds (fileCalls habits) FileCall.damage (copyPieces from_ into source temporary pieces) := by
  induction pieces with
  | nil => exact stopIfCancelled_heeds.bind fun _ => .perform _
  | cons piece pieces ih =>
    refine stopIfCancelled_heeds.bind fun _ => (Heeds.perform _).bind fun _ => ?_
    split
    · exact .pure _
    · exact (Heeds.perform _).bind fun _ => ih

theorem transferFile_heeds :
    Heeds (fileCalls habits) FileCall.damage (transferFile from_ into source destination pieces) :=
  (Heeds.perform _).bind fun _ =>
    ((Heeds.perform _).bind fun _ => (Heeds.perform _).bind fun _ => (copyPieces_heeds pieces).bind fun _ =>
      .perform _).bind fun _ => .perform _

def MayPut (side : Side) (path : Path) {β : Type} (call : FileCall β) : Prop :=
  ∃ value : β, Puts side path ⟨call, .ok value⟩ = true

variable {event : Event FileCall Failure}

theorem puts_of_not {side : Side} {path : Path}
    (never : ¬MayPut side path event.action) : Puts side path event = false := by
  obtain ⟨action, outcome⟩ := event
  cases outcome with
  | ok value => simpa using fun puts => never ⟨value, puts⟩
  | error error => cases action <;> rfl

theorem copyPart_puts {path : Path} (apart : path ≠ automationPart destination) :
    (copyPart from_ into source destination pieces).Only fun _ call => ¬MayPut into path call := by
  have stop : (stopIfCancelled into (automationPart destination)).Only fun _ call => ¬MayPut into path call := by
    refine (Program.Only.perform (by simp [MayPut, Puts])).caught.bind fun outcome => ?_
    cases outcome with
    | ok u => exact .pure _
    | error error => exact (Program.Only.perform (by simp [MayPut, Puts])).ignore.bind fun _ => .lift _
  have loop (pieces : List (List UInt8)) : (copyPieces from_ into source (automationPart destination) pieces).Only
      fun _ call => ¬MayPut into path call := by
    induction pieces with
    | nil => exact stop.bind fun _ => .perform (by simp [MayPut, Puts])
    | cons piece pieces ih =>
      refine stop.bind fun _ => .perform_bind (by simp [MayPut, Puts]) fun _ => ?_
      split
      · exact .pure _
      · exact .perform_bind (by simp [MayPut, Puts]) fun _ => ih
  exact .perform_bind (by simp [MayPut, Puts]) fun _ => .perform_bind (by simpa [MayPut, Puts] using apart) fun _ =>
    (loop pieces).bind fun _ => .perform (by simp [MayPut, Puts])

theorem transferFile_puts
    (run : FileRuns habits (transferFile from_ into source destination pieces) before log result after) :
    (result.isOk = false ∧ ∀ event ∈ log, Puts into destination event = false) ∨
      ∃ first last, result.isOk = true ∧ log = first ++ [last] ∧
        (∀ event ∈ first, Puts into destination event = false) ∧ Puts into destination last = true := by
  have copying (part : List (Event FileCall Failure)) (outcome : Except Failure Unit) (first last : Volumes)
      (copied : FileRuns habits (copyPart from_ into source destination pieces) first part outcome last) :
      ∀ event ∈ part, Puts into destination event = false := fun event member =>
    puts_of_not (copied.permits (copyPart_puts (automationPart_ne destination).symm) event member)
  rcases run.perform_bind with ⟨error, -, rfl, rfl⟩ | ⟨u, opened, rest, -, rest_run, rfl⟩
  · exact .inl ⟨rfl, by simp [Puts]⟩
  rcases rest_run.bind_cases with ⟨error, copied, rfl⟩ | ⟨_, first, middle, last, copied, moved, rfl⟩
  · exact .inl ⟨rfl, List.forall_mem_cons.mpr ⟨rfl, copying _ _ _ _ copied⟩⟩
  -- The copy is whole, so what is left is the rename.
  obtain ⟨rfl, -⟩ := Program.runs_perform.mp moved
  have unmoved : ∀ event ∈ ⟨.session, .ok u⟩ :: first, Puts into destination event = false :=
    List.forall_mem_cons.mpr ⟨rfl, copying _ _ _ _ copied⟩
  cases result with
  | error error =>
    refine .inl ⟨rfl, ?_⟩
    rw [← List.cons_append, List.forall_mem_append]
    exact ⟨unmoved, List.forall_mem_singleton.mpr rfl⟩
  | ok u => exact .inr ⟨_, _, rfl, List.cons_append.symm, unmoved, by simp [Puts]⟩

/-- What is left of the part file after a copy that stopped. -/
def Cleared (side : Side) (temporary : Path) (log : List (Event FileCall Failure)) (after : Volumes) : Prop :=
  after.entries side temporary = none ↔ ⟨.remove side temporary, .ok ()⟩ ∈ log

theorem stopIfCancelled_part
    (run : FileRuns habits (stopIfCancelled into temporary) before log result after)
    (there : before.entries into temporary ≠ none) :
    (result.isOk = true → after.entries into temporary ≠ none) ∧ Cleared into temporary log after := by
  obtain ⟨outcome, middle, rest, looked, following, rfl⟩ := run.caught_bind
  obtain rfl := Comes.still looked trivial
  cases outcome with
  | ok u =>
    obtain ⟨rfl, rfl, rfl⟩ := Program.runs_pure.mp following
    exact ⟨fun _ => there, by simp [Cleared, there]⟩
  | error error =>
    obtain ⟨removal, first, cleared, last, removed, stopped, rfl⟩ := following.ignore_bind
    obtain ⟨rfl, happened⟩ := Program.runs_perform.mp removed
    obtain ⟨rfl, rfl, rfl⟩ := Program.runs_lift.mp stopped
    refine ⟨by simp [Except.isOk, Except.toBool], ?_⟩
    cases removal with
    | ok u => simp [Cleared, Comes.removed happened]
    | error fault => simp [Cleared, Comes.failed happened id, there]

theorem write_there {bytes : List UInt8} {outcome : Except Failure Unit}
    (comes : Comes habits (.write into temporary bytes) before outcome after)
    (there : before.entries into temporary ≠ none) : after.entries into temporary ≠ none := by
  cases comes with
  | refused error => exact there
  | halfway error left =>
    obtain ⟨entry, wrote, -, -, rfl⟩ := left
    simp
  | performed ran =>
    obtain ⟨entry, -, -, rfl⟩ := Comes.wrote (.performed ran)
    simp

theorem Cleared.cons {event : Event FileCall Failure} (cleared : Cleared into temporary log after)
    (other : event ≠ ⟨.remove into temporary, .ok ()⟩) : Cleared into temporary (event :: log) after := by
  unfold Cleared at cleared ⊢
  rw [cleared, List.mem_cons]
  exact ⟨.inr, fun some => some.resolve_left other.symm⟩

theorem Cleared.append {middle : Volumes} {more : List (Event FileCall Failure)}
    (cleared : Cleared into temporary log middle) (there : middle.entries into temporary ≠ none)
    (rest : Cleared into temporary more after) : Cleared into temporary (log ++ more) after := by
  have none_yet : ⟨.remove into temporary, .ok ()⟩ ∉ log := fun removed => there (cleared.mpr removed)
  unfold Cleared at rest ⊢
  rw [rest, List.mem_append]
  exact ⟨.inr, fun some => some.resolve_left none_yet⟩

theorem cleared_single (there : after.entries into temporary ≠ none)
    (other : event ≠ ⟨.remove into temporary, .ok ()⟩) : Cleared into temporary [event] after := by
  simp [Cleared, there, other.symm]

theorem copyPieces_part (pieces : List (List UInt8))
    (run : FileRuns habits (copyPieces from_ into source temporary pieces) before log result after)
    (there : before.entries into temporary ≠ none) :
    (result.isOk = true → after.entries into temporary ≠ none) ∧ Cleared into temporary log after := by
  induction pieces generalizing before log with
  | nil =>
    rcases run.bind_cases with ⟨error, stopped, rfl⟩ | ⟨_, first, middle, last, looked, reading, rfl⟩
    · exact stopIfCancelled_part stopped there
    · obtain ⟨kept, cleared⟩ := stopIfCancelled_part looked there
      obtain ⟨rfl, read⟩ := Program.runs_perform.mp reading
      obtain rfl := Comes.still read trivial
      exact ⟨fun _ => kept rfl, cleared.append (kept rfl) (cleared_single (kept rfl) (by simp))⟩
  | cons piece pieces ih =>
    rcases run.bind_cases with ⟨error, stopped, rfl⟩ | ⟨_, first, middle, last, looked, reading, rfl⟩
    · exact stopIfCancelled_part stopped there
    obtain ⟨kept, cleared⟩ := stopIfCancelled_part looked there
    rcases reading.perform_bind with ⟨error, read, rfl, rfl⟩ | ⟨_, next, rest, read, rest_run, rfl⟩
    · obtain rfl := Comes.still read trivial
      exact ⟨fun _ => kept rfl, cleared.append (kept rfl) (cleared_single (kept rfl) (by simp))⟩
    obtain rfl := Comes.still read trivial
    split at rest_run
    · obtain ⟨rfl, rfl, rfl⟩ := Program.runs_pure.mp rest_run
      exact ⟨fun _ => kept rfl, cleared.append (kept rfl) (cleared_single (kept rfl) (by simp))⟩
    rcases rest_run.perform_bind with ⟨error, wrote, rfl, rfl⟩ | ⟨_, written, others, wrote, others_run, rfl⟩
    · have there := write_there wrote (kept rfl)
      exact ⟨fun _ => there, cleared.append (kept rfl) ((cleared_single there (by simp)).cons (by simp))⟩
    · obtain ⟨remains, others_cleared⟩ := ih others_run (write_there wrote (kept rfl))
      exact ⟨remains, cleared.append (kept rfl) ((others_cleared.cons (by simp)).cons (by simp))⟩

theorem copyPart_part
    (run : FileRuns habits (copyPart from_ into source destination pieces) before log result after) :
    (result.isOk = false ∧ after = before ∧ ⟨.remove into (automationPart destination), .ok ()⟩ ∉ log ∧
        ∀ event ∈ log, Puts into (automationPart destination) event = false) ∨
      ((∃ event ∈ log, Puts into (automationPart destination) event = true) ∧
        (result.isOk = true → after.entries into (automationPart destination) ≠ none) ∧
        Cleared into (automationPart destination) log after) := by
  rcases run.perform_bind with ⟨error, failed, rfl, rfl⟩ | ⟨_, opened, rest, found, making, rfl⟩
  · exact .inl ⟨rfl, Comes.failed failed id, by simp, by simp [Puts]⟩
  obtain rfl := Comes.still found trivial
  rcases making.perform_bind with ⟨error, failed, rfl, rfl⟩ | ⟨_, made, rest, created, copying, rfl⟩
  · exact .inl ⟨rfl, Comes.failed failed id, by simp, by simp [Puts]⟩
  -- From here on the part file is there.
  obtain ⟨entry, there, -⟩ := Comes.created created
  refine .inr ⟨⟨_, List.mem_cons_of_mem _ List.mem_cons_self, by simp [Puts]⟩, ?_⟩
  have there : made.entries into (automationPart destination) ≠ none := by simp [there]
  rcases copying.bind_cases with ⟨error, copied, rfl⟩ | ⟨_, first, middle, last, copied, synced, rfl⟩
  · obtain ⟨kept, cleared⟩ := copyPieces_part pieces copied there
    exact ⟨kept, (cleared.cons (by simp)).cons (by simp)⟩
  · obtain ⟨kept, cleared⟩ := copyPieces_part pieces copied there
    obtain ⟨rfl, sync⟩ := Program.runs_perform.mp synced
    obtain rfl := Comes.still sync trivial
    refine ⟨fun _ => kept rfl, Cleared.cons (Cleared.cons ?_ (by simp)) (by simp)⟩
    exact cleared.append (kept rfl) (cleared_single (kept rfl) (by simp))

theorem transferFile_part {error : Failure}
    (run : FileRuns habits (transferFile from_ into source destination pieces) before log (.error error) after) :
    after.entries into (automationPart destination) = none ↔
      ⟨.remove into (automationPart destination), .ok ()⟩ ∈ log ∨
        (before.entries into (automationPart destination) = none ∧
          ∀ event ∈ log, Puts into (automationPart destination) event = false) := by
  rcases run.perform_bind with ⟨_, failed, rfl, -⟩ | ⟨_, opened, rest, session, working, rfl⟩
  · obtain rfl := Comes.failed failed id
    simp [Puts]
  obtain rfl := Comes.still session trivial
  -- Where the part file was made, only a removal takes it away; else everything is as before.
  have of_cleared {part : List (Event FileCall Failure)}
      (made : ∃ event ∈ part, Puts into (automationPart destination) event = true)
      (cleared : Cleared into (automationPart destination) part after) :
      after.entries into (automationPart destination) = none ↔
        ⟨.remove into (automationPart destination), .ok ()⟩ ∈ part ∨
          (opened.entries into (automationPart destination) = none ∧
            ∀ event ∈ part, Puts into (automationPart destination) event = false) := by
    obtain ⟨event, member, puts⟩ := made
    refine cleared.trans ⟨.inl, fun some => some.resolve_right fun ⟨_, unmade⟩ => ?_⟩
    exact absurd puts (by simp [unmade event member])
  have later : after.entries into (automationPart destination) = none ↔
      ⟨.remove into (automationPart destination), .ok ()⟩ ∈ rest ∨
        (opened.entries into (automationPart destination) = none ∧
          ∀ event ∈ rest, Puts into (automationPart destination) event = false) := by
    rcases working.bind_cases with ⟨error, copied, -⟩ | ⟨_, first, middle, last, copied, moved, rfl⟩
    · rcases copyPart_part copied with ⟨-, rfl, kept, unmade⟩ | ⟨made, -, cleared⟩
      · simpa [kept] using fun _ => unmade
      · exact of_cleared made cleared
    · rcases copyPart_part copied with ⟨differ, -⟩ | ⟨⟨event, member, puts⟩, there, cleared⟩
      · cases differ
      · obtain ⟨rfl, failed⟩ := Program.runs_perform.mp moved
        obtain rfl := Comes.failed failed id
        exact of_cleared ⟨event, List.mem_append_left _ member, puts⟩
          (cleared.append (there rfl) (cleared_single (there rfl) (by simp)))
  simpa [Puts] using later

theorem late_spares_iff {early late : List (Event FileCall Failure)}
    (run : FileRuns habits (transferFile from_ into source destination pieces) before (early ++ late) result after) :
    (∀ event ∈ late, Puts into destination event = false) ↔
      late = [] ∨ ∃ event ∈ early ++ late, event.outcome.isOk = false := by
  have heeds := transferFile_heeds _ _ _ _ run
  rcases transferFile_puts run with ⟨failed, spared⟩ | ⟨first, last, whole, same, -, puts⟩
  · -- A thread that failed made no rename, and heeded the call that failed.
    refine ⟨fun _ => .inr ?_, fun _ event member => spared event (List.mem_append_right early member)⟩
    by_contra none_failed
    push Not at none_failed
    rw [heeds.mpr fun event member => by simpa using none_failed event member] at failed
    cases failed
  · -- Every call worked, and the last one is the rename.
    have worked := heeds.mp whole
    constructor
    · intro spared
      left
      rcases List.eq_nil_or_concat late with rfl | ⟨others, final, rfl⟩
      · rfl
      · rw [List.concat_eq_append, ← List.append_assoc] at same
        obtain ⟨-, ends⟩ := List.append_inj' same rfl
        obtain rfl := List.singleton_inj.mp ends
        rw [spared final (by simp)] at puts
        cases puts
    · rintro (rfl | ⟨event, member, failed⟩)
      · simp
      · rw [worked event member] at failed
        cases failed

/-- A transfer step that was reported as failed has no later effect exactly when it stops in time. -/
theorem noLaterEffect_iff {step : TransferStep} {report : StepReport} (reported : Reported habits step before report) :
    NoLaterEffect step report ↔ StopsInTime step before report := by
  have works : step.work = transferFile (if step.direction = "upload" then .own else .remote) step.into
      (if step.direction = "upload" then step.localPath else step.remotePath) step.destination step.pieces := by
    unfold TransferStep.work TransferStep.into TransferStep.destination
    split <;> rfl
  unfold NoLaterEffect StopsInTime
  cases reported with
  | unconnected error => simp
  | @ended log result after run =>
    cases result with
    | ok u => simp [Except.isOk, Except.toBool]
    | error error =>
      rw [works] at run
      simp [transferFile_part run]
  | @timedOut early late rest middle after result under run =>
    have whole := under.run run
    rw [works] at whole
    simp [late_spares_iff whole]

end Laws

namespace Demo

def download : TransferStep := ⟨"download", "a".toList, "/a".toList, [[7]]⟩

def habits : Habits := ⟨id, none, false⟩

/-- The file is on the server, and nothing is on the own side. -/
def files : Volumes :=
  ⟨fun side path => if side = .remote ∧ path = "/a".toList then some ⟨0, .file, [7], none, none⟩ else none, 1⟩

def worked (faults : List (Option Failure)) : List (Event FileCall Failure) × Except Failure Unit × Volumes :=
  Program.script (fileCalls habits) faults download.work files

/-- The time-out strikes at once, and the file is put into its place after the step has failed. -/
theorem file_put_after_timeout : ¬∀ (habits : Habits) (step : TransferStep) (before : Volumes) (report : StepReport),
    Reported habits step before report → NoLaterEffect step report := by
  intro always
  have harmless := always habits download files _ (.timedOut (.start _ _)
    (Program.runs_script (fileCalls habits) FileCall.damage [] download.work files))
  have put : (worked []).1.any (Puts .own "a".toList) = true := by decide
  obtain ⟨event, member, puts⟩ := List.any_eq_true.mp put
  have spared : Puts .own "a".toList event = false := (harmless rfl).1 event member
  exact Bool.false_ne_true (spared.symm.trans puts)

def cancelled : List (Option Failure) := [none, none, none, some (.app (.unavailable "自动化已取消"))]

/-- A step that is cancelled removes its part file. -/
theorem cancelled_leaves_nothing : (worked cancelled).2.2.entries .own (automationPart "a".toList) = none := by
  have reported : Reported habits download files ⟨(worked cancelled).2.1, false, (worked cancelled).1, [],
      (worked cancelled).2.2⟩ :=
    .ended (Program.runs_script (fileCalls habits) FileCall.damage cancelled download.work files)
  have stops : StopsInTime download files ⟨(worked cancelled).2.1, false, (worked cancelled).1, [],
      (worked cancelled).2.2⟩ := fun _ =>
    ⟨fun differ => Bool.noConfusion differ, fun _ => .inl (List.mem_of_getElem? (i := 4) rfl)⟩
  exact ((noLaterEffect_iff reported).mpr stops rfl).2 rfl

end Demo

end Client

end CNShell
