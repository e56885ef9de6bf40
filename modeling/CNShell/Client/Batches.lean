import CNShell.Client.Models
import CNShell.Library.Transition
import Mathlib.Data.List.Infix
import Mathlib.Data.List.NodupEquivFin

/-! A batch of commands: its targets, the tasks that run them, and its cancellation. -/

namespace CNShell

namespace Client

inductive BatchStatus
  | queued
  | running
  | completed
  | failed
  | cancelled
  deriving DecidableEq, Repr

def BatchStatus.terminal : BatchStatus → Bool
  | queued | running => false
  | completed | failed | cancelled => true

structure BatchTargetResult where
  connectionId : String
  name : String
  status : BatchStatus
  stdout : String
  stderr : String
  exitCode : Option Int
  durationMs : Option Nat
  error : Option String
  deriving DecidableEq, Repr

structure BatchExecution where
  id : String
  command : String
  status : BatchStatus
  createdAt : String
  targets : List BatchTargetResult
  deriving DecidableEq, Repr

/-- What a command on a target returned. -/
structure RemoteCommandResult where
  stdout : String
  stderr : String
  exitCode : Int
  truncated : Bool
  deriving DecidableEq, Repr

def AppError.text : AppError → String
  | .notFound message => "未找到连接：" ++ message
  | .validation message => "连接参数无效：" ++ message
  | .hostKeyUnknown fingerprint _ => "主机指纹尚未信任：" ++ fingerprint
  | .hostKeyChanged expected actual =>
    "主机指纹发生变化。已保存 " ++ expected ++ "，当前 " ++ actual
  | .authentication message => "认证失败：" ++ message
  | .permissionDenied message => "权限不足：" ++ message
  | .remote message => "远程操作失败：" ++ message
  | .storage message => "本地存储失败：" ++ message
  | .unavailable message => "系统能力不可用：" ++ message
  | .internal message => "发生内部错误：" ++ message

namespace BatchExecution

def new (id command createdAt : String) (profiles : List (String × String)) : BatchExecution where
  id := id
  command := command
  status := .queued
  createdAt := createdAt
  targets := profiles.map fun profile => ⟨profile.1, profile.2, .queued, "", "", none, none, none⟩

def setBatchStatus (execution : BatchExecution) (status : BatchStatus) : BatchExecution :=
  { execution with status := status }

def onTarget (execution : BatchExecution) (connectionId : String)
    (change : BatchTargetResult → BatchTargetResult) : BatchExecution :=
  { execution with
    targets := execution.targets.modify
      (execution.targets.findIdx fun target => target.connectionId = connectionId) change }

/-- The command of a target begins. -/
def setTargetRunning (execution : BatchExecution) (connectionId : String) : BatchExecution :=
  execution.onTarget connectionId fun target => { target with status := .running }

def cancelTarget (target : BatchTargetResult) : BatchTargetResult :=
  { target with status := .cancelled, error := some "用户已取消" }

/-- A target whose command does not begin any more. -/
def finishCancelledTarget (execution : BatchExecution) (connectionId : String) : BatchExecution :=
  execution.onTarget connectionId cancelTarget

def resultTarget (durationMs : Nat) (result : AppResult RemoteCommandResult)
    (target : BatchTargetResult) : BatchTargetResult :=
  match result with
  | .ok output => { target with
      durationMs := some durationMs
      status := if output.exitCode = 0 then .completed else .failed
      stdout := output.stdout
      stderr := output.stderr
      exitCode := some output.exitCode
      error := if output.truncated = true then some "输出超过 5 MB，已截断显示" else target.error }
  | .error error => { target with
      durationMs := some durationMs
      status := if "已取消".toList <:+: error.text.toList then .cancelled else .failed
      error := some error.text }

/-- The command of a target has ended. -/
def finishTarget (execution : BatchExecution) (connectionId : String) (durationMs : Nat)
    (result : AppResult RemoteCommandResult) : BatchExecution :=
  execution.onTarget connectionId (resultTarget durationMs result)

/-- All tasks of the batch have ended. -/
def finishBatch (execution : BatchExecution) : BatchExecution :=
  if execution.status = .cancelled then execution
  else { execution with
    status :=
      if execution.targets.all (fun target => decide (target.status = .completed)) = true then .completed
      else .failed }

def cancel (execution : BatchExecution) : BatchExecution :=
  { execution with
    status := .cancelled
    targets := execution.targets.map fun target =>
      if target.status = .queued then cancelTarget target else target }

end BatchExecution

/-- How far the task of a target has come. -/
inductive TargetStage
  /-- It waits for a permit. -/
  | waiting
  | permitted
  /-- It has found the batch cancelled. -/
  | skipping
  /-- It has not found the batch cancelled. -/
  | launching
  | executing
  | done
  deriving DecidableEq, Repr

/-- A task that holds a permit. -/
def TargetStage.permit : TargetStage → Bool
  | waiting | done => false
  | permitted | skipping | launching | executing => true

/-- How far the task that starts the others has come. -/
inductive RunnerStage
  | created
  | running
  | finished
  deriving DecidableEq, Repr

/-- A batch, its flag and its tasks, one for each profile. -/
structure Batch where
  execution : BatchExecution
  cancelled : Bool
  runner : RunnerStage
  tasks : List (String × TargetStage)

inductive BatchEvent
  /-- The first task sets the status of the batch. -/
  | begin
  | acquire (n : Nat)
  /-- The task looks whether the batch is cancelled. -/
  | look (n : Nat)
  | skip (n : Nat)
  | launch (n : Nat)
  | finish (n : Nat) (durationMs : Nat) (result : AppResult RemoteCommandResult)
  /-- The last task has ended. -/
  | conclude
  | cancel

namespace Batch

def advance (batch : Batch) (n : Nat) (stage next : TargetStage)
    (effect : String → BatchExecution → BatchExecution) : Option Batch :=
  batch.tasks[n]?.bind fun task =>
    if batch.runner = .running ∧ task.2 = stage then
      some { batch with
        execution := effect task.1 batch.execution
        tasks := batch.tasks.set n (task.1, next) }
    else none

/-- What one event makes of a batch that runs so many targets at a time. -/
def step (concurrency : Nat) (batch : Batch) : BatchEvent → Option Batch
  | .begin =>
    if batch.runner = .created then
      some { batch with execution := batch.execution.setBatchStatus .running, runner := .running }
    else none
  | .acquire n =>
    if batch.tasks.countP (fun task => task.2.permit) < concurrency then
      batch.advance n .waiting .permitted fun _ execution => execution
    else none
  | .look n =>
    batch.advance n .permitted (if batch.cancelled = true then .skipping else .launching)
      fun _ execution => execution
  | .skip n =>
    batch.advance n .skipping .done fun id execution => execution.finishCancelledTarget id
  | .launch n =>
    batch.advance n .launching .executing fun id execution => execution.setTargetRunning id
  | .finish n durationMs result =>
    batch.advance n .executing .done fun id execution => execution.finishTarget id durationMs result
  | .conclude =>
    if batch.runner = .running ∧ ∀ task ∈ batch.tasks, task.2 = .done then
      some { batch with execution := batch.execution.finishBatch, runner := .finished }
    else none
  | .cancel => some { batch with execution := batch.execution.cancel, cancelled := true }

/-- A batch that was just started. -/
def new (execution : BatchExecution) (profiles : List (String × String)) : Batch :=
  ⟨execution, false, .created, profiles.map fun profile => (profile.1, .waiting)⟩

/-- A cancelled batch shows it, and a batch whose tasks have ended shows what became of them. -/
structure Settled (batch : Batch) : Prop where
  cancelled : batch.cancelled = true → batch.execution.status = .cancelled
  terminal : batch.runner = .finished → ∀ target ∈ batch.execution.targets, target.status.terminal = true
  outcome : batch.runner = .finished →
    (batch.execution.status = .completed ↔
      batch.cancelled = false ∧ ∀ target ∈ batch.execution.targets, target.status = .completed)

/-- A target that has its last status does not change any more. -/
def Kept (batch next : Batch) : Prop :=
  ∀ (n : Nat) (target : BatchTargetResult), batch.execution.targets[n]? = some target →
    target.status.terminal = true → next.execution.targets[n]? = some target

/-- What is set to running is not cancelled at that time, be it the batch or one of its targets. -/
def Timely (batch : Batch) : BatchEvent → Prop
  | .begin | .launch _ => batch.cancelled = false
  | _ => True

instance (batch : Batch) : (event : BatchEvent) → Decidable (Timely batch event)
  | .begin | .launch _ => inferInstanceAs (Decidable (batch.cancelled = false))
  | .acquire _ | .look _ | .skip _ | .finish .. | .conclude | .cancel => isTrue trivial

/-- What a target looks like while its task is in a stage. -/
def Fits (cancelled : Bool) (target : BatchTargetResult) : TargetStage → Prop
  | .waiting | .permitted | .launching =>
    if cancelled = true then BatchExecution.cancelTarget target = target else target.status = .queued
  | .skipping => cancelled = true ∧ BatchExecution.cancelTarget target = target
  | .executing => target.status = .running
  | .done => target.status.terminal = true

/-- The targets and the tasks of a batch go together, and its status goes with its flag. -/
structure Tracked (ids : List String) (batch : Batch) : Prop where
  targets : batch.execution.targets.map BatchTargetResult.connectionId = ids
  tasks : batch.tasks.map Prod.fst = ids
  fits : ∀ (n : Nat) (target : BatchTargetResult) (task : String × TargetStage),
    batch.execution.targets[n]? = some target → batch.tasks[n]? = some task → Fits batch.cancelled target task.2
  status : batch.cancelled = true ↔ batch.execution.status = .cancelled
  done : batch.runner = .finished → ∀ task ∈ batch.tasks, task.2 = .done
  outcome : batch.runner = .finished → batch.cancelled = false →
    (batch.execution.status = .completed ↔ ∀ target ∈ batch.execution.targets, target.status = .completed)

variable {ids : List String} {batch next : Batch} {concurrency : Nat}

namespace Tracked

variable {n : Nat}

theorem target (tracked : Tracked ids batch) {task : String × TargetStage} (there : batch.tasks[n]? = some task) :
    ∃ target, batch.execution.targets[n]? = some target ∧ target.connectionId = task.1 := by
  have same : (batch.execution.targets.map BatchTargetResult.connectionId)[n]? =
      (batch.tasks.map Prod.fst)[n]? := by rw [tracked.targets, tracked.tasks]
  rw [List.getElem?_map, List.getElem?_map, there] at same
  exact Option.map_eq_some_iff.mp same

theorem task (tracked : Tracked ids batch) {target : BatchTargetResult}
    (there : batch.execution.targets[n]? = some target) : ∃ task, batch.tasks[n]? = some task := by
  have same : (batch.execution.targets.map BatchTargetResult.connectionId)[n]? =
      (batch.tasks.map Prod.fst)[n]? := by rw [tracked.targets, tracked.tasks]
  rw [List.getElem?_map, List.getElem?_map, there] at same
  obtain ⟨task, held, -⟩ := Option.map_eq_some_iff.mp same.symm
  exact ⟨task, held⟩

theorem onTarget_eq (tracked : Tracked ids batch) (distinct : ids.Nodup)
    {target : BatchTargetResult} (there : batch.execution.targets[n]? = some target)
    (change : BatchTargetResult → BatchTargetResult) :
    batch.execution.onTarget target.connectionId change =
      { batch.execution with targets := batch.execution.targets.modify n change } := by
  obtain ⟨below, held⟩ := List.getElem?_eq_some_iff.mp there
  have first : (batch.execution.targets.findIdx fun other =>
      other.connectionId = target.connectionId) = n := by
    refine (List.findIdx_eq below).mpr ⟨by simp [held], fun j before => ?_⟩
    -- An earlier target with this id would repeat it.
    refine decide_eq_false fun same => Nat.ne_of_lt before ?_
    rw [← tracked.targets] at distinct
    refine (List.getElem?_inj ?_ distinct).mp ?_
    · simp only [List.length_map]
      omega
    · have bound : j < batch.execution.targets.length := Nat.lt_trans before below
      simp [there, List.getElem?_eq_getElem bound, same]
  rw [BatchExecution.onTarget, first]

theorem change (tracked : Tracked ids batch) {n : Nat} {task : String × TargetStage}
    {target : BatchTargetResult} {later : TargetStage} {change : BatchTargetResult → BatchTargetResult}
    (runs : batch.runner = .running) (there : batch.tasks[n]? = some task)
    (held : batch.execution.targets[n]? = some target)
    (same : ∀ target, (change target).connectionId = target.connectionId)
    (fits : Fits batch.cancelled (change target) later) :
    Tracked ids { batch with
      execution := { batch.execution with targets := batch.execution.targets.modify n change }
      tasks := batch.tasks.set n (task.1, later) } := by
  have below := (List.getElem?_eq_some_iff.mp there).1
  refine ⟨?_, ?_, ?_, tracked.status, ?_, ?_⟩
  · rw [← tracked.targets]
    refine List.ext_getElem? fun m => ?_
    by_cases here : n = m <;> simp [here, Function.comp_def, same]
  · rw [← tracked.tasks]
    refine List.ext_getElem? fun m => ?_
    rw [List.getElem?_map, List.getElem?_map, List.getElem?_set]
    split
    · next here =>
      subst here
      rw [there]
      simp [below]
    · rfl
  · intro m other found target' task'
    simp only [List.getElem?_modify, List.getElem?_set] at target' task'
    split at task'
    · next here =>
      subst here
      simp only [below, if_true, Option.some.injEq] at task'
      simp only [if_true, held, Option.map_eq_map, Option.map_some, Option.some.injEq] at target'
      subst task' target'
      exact fits
    · next elsewhere =>
      simp only [if_neg elsewhere, Option.map_eq_map, Option.map_id', id_eq] at target'
      exact tracked.fits m other found target' task'
  · intro finished
    rw [runs] at finished
    cases finished
  · intro finished
    rw [runs] at finished
    cases finished

end Tracked

variable {n : Nat}

theorem kept_modify {target : BatchTargetResult} {change : BatchTargetResult → BatchTargetResult}
    (held : batch.execution.targets[n]? = some target)
    (targets : next.execution.targets = batch.execution.targets.modify n change)
    (spares : target.status.terminal = true → change target = target) : Kept batch next := by
  intro m other there terminal
  rw [targets, List.getElem?_modify, there]
  by_cases here : n = m
  · subst here
    obtain rfl : target = other := Option.some.inj (held.symm.trans there)
    simp [spares terminal]
  · simp [here]

theorem advance_eq_some {stage later : TargetStage} {effect : String → BatchExecution → BatchExecution} :
    batch.advance n stage later effect = some next ↔
      ∃ id, batch.tasks[n]? = some (id, stage) ∧ batch.runner = .running ∧
        { batch with
          execution := effect id batch.execution
          tasks := batch.tasks.set n (id, later) } = next := by
  simp only [advance, Option.bind_eq_some_iff, Option.ite_none_right_eq_some, Option.some.injEq, Prod.exists]
  constructor
  · rintro ⟨id, found, there, ⟨runs, rfl⟩, same⟩
    exact ⟨id, there, runs, same⟩
  · rintro ⟨id, there, runs, same⟩
    exact ⟨id, stage, there, ⟨runs, rfl⟩, same⟩

theorem step_launch {id : String} (there : batch.tasks[n]? = some (id, .launching)) (runs : batch.runner = .running) :
    batch.step concurrency (.launch n) = some { batch with
      execution := batch.execution.setTargetRunning id
      tasks := batch.tasks.set n (id, .executing) } := by
  rw [Batch.step]
  exact advance_eq_some.mpr ⟨id, there, runs, rfl⟩

theorem step_finish {id : String} (there : batch.tasks[n]? = some (id, .executing))
    (runs : batch.runner = .running) (durationMs : Nat) (result : AppResult RemoteCommandResult) :
    batch.step concurrency (.finish n durationMs result) = some { batch with
      execution := batch.execution.finishTarget id durationMs result
      tasks := batch.tasks.set n (id, .done) } := by
  rw [Batch.step]
  exact advance_eq_some.mpr ⟨id, there, runs, rfl⟩

theorem terminal_of_cancelTarget {target : BatchTargetResult}
    (same : BatchExecution.cancelTarget target = target) : target.status.terminal = true := by
  rw [← same]
  rfl

theorem terminal_resultTarget (durationMs : Nat) (result : AppResult RemoteCommandResult)
    (target : BatchTargetResult) :
    (BatchExecution.resultTarget durationMs result target).status.terminal = true := by
  cases result with
  | ok | error =>
    simp only [BatchExecution.resultTarget]
    split <;> rfl

theorem connectionId_resultTarget (durationMs : Nat) (result : AppResult RemoteCommandResult)
    (target : BatchTargetResult) :
    (BatchExecution.resultTarget durationMs result target).connectionId = target.connectionId := by
  cases result <;> rfl

namespace Tracked

variable {event : BatchEvent}

/-- A timely event keeps the batch together, and every target that has its last status. -/
theorem step (tracked : Tracked ids batch) (distinct : ids.Nodup)
    (timely : Timely batch event) (taken : batch.step concurrency event = some next) :
    Tracked ids next ∧ Kept batch next := by
  -- The steps of a task all change the target at its own position.
  have moves : ∀ {n : Nat} {id : String} {stage later : TargetStage}
      (change : BatchTargetResult → BatchTargetResult), batch.tasks[n]? = some (id, stage) →
      batch.runner = .running → (∀ target, (change target).connectionId = target.connectionId) →
      (∀ target, Fits batch.cancelled target stage → Fits batch.cancelled (change target) later ∧
        (target.status.terminal = true → change target = target)) →
      { batch with
        execution := batch.execution.onTarget id change
        tasks := batch.tasks.set n (id, later) } = next → Tracked ids next ∧ Kept batch next := by
    intro n id stage later change there runs same fits goes
    subst goes
    obtain ⟨target, held, rfl⟩ := tracked.target there
    have before := tracked.fits n target _ held there
    rw [tracked.onTarget_eq distinct held]
    exact ⟨tracked.change runs there held same (fits target before).1, kept_modify held rfl (fits target before).2⟩
  have rests : ∀ {n : Nat} {id : String} {stage later : TargetStage},
      batch.tasks[n]? = some (id, stage) → batch.runner = .running →
      (∀ target, Fits batch.cancelled target stage → Fits batch.cancelled target later) →
      { batch with tasks := batch.tasks.set n (id, later) } = next → Tracked ids next ∧ Kept batch next := by
    intro n id stage later there runs fits goes
    refine moves (fun target => target) there runs (fun _ => rfl)
      (fun target before => ⟨fits target before, fun _ => rfl⟩) ?_
    have same : (batch.execution.onTarget id fun target => target) = batch.execution :=
      congrArg (fun targets => { batch.execution with targets := targets }) (List.modify_id _ _)
    rw [same]
    exact goes
  cases event with
  | begin =>
    simp only [Batch.step, Option.ite_none_right_eq_some, Option.some.injEq] at taken
    obtain ⟨created, rfl⟩ := taken
    have timely : batch.cancelled = false := timely
    refine ⟨⟨tracked.targets, tracked.tasks, tracked.fits, ?_, nofun, nofun⟩, fun _ _ there _ => there⟩
    simp [timely, BatchExecution.setBatchStatus]
  | acquire n =>
    simp only [Batch.step, Option.ite_none_right_eq_some] at taken
    obtain ⟨id, there, runs, goes⟩ := advance_eq_some.mp taken.2
    refine rests there runs (fun target before => ?_) goes
    exact before
  | look n =>
    simp only [Batch.step] at taken
    obtain ⟨id, there, runs, goes⟩ := advance_eq_some.mp taken
    refine rests there runs (fun target before => ?_) goes
    cases flag : batch.cancelled <;> simp_all [Fits]
  | skip n =>
    simp only [Batch.step] at taken
    obtain ⟨id, there, runs, goes⟩ := advance_eq_some.mp taken
    refine moves BatchExecution.cancelTarget there runs (fun _ => rfl) (fun target before => ?_) goes
    exact ⟨rfl, fun _ => before.2⟩
  | launch n =>
    simp only [Batch.step] at taken
    obtain ⟨id, there, runs, goes⟩ := advance_eq_some.mp taken
    have timely : batch.cancelled = false := timely
    refine moves (fun target => { target with status := .running }) there runs (fun _ => rfl)
      (fun target before => ?_) goes
    refine ⟨rfl, fun terminal => ?_⟩
    -- The target still is queued, since the batch is not cancelled.
    have queued : target.status = .queued := by simpa [Fits, timely] using before
    rw [queued] at terminal
    cases terminal
  | finish n durationMs result =>
    simp only [Batch.step] at taken
    obtain ⟨id, there, runs, goes⟩ := advance_eq_some.mp taken
    refine moves (BatchExecution.resultTarget durationMs result) there runs
      (connectionId_resultTarget durationMs result) (fun target before => ?_) goes
    refine ⟨terminal_resultTarget durationMs result target, fun terminal => ?_⟩
    have running : target.status = .running := before
    rw [running] at terminal
    cases terminal
  | conclude =>
    simp only [Batch.step, Option.ite_none_right_eq_some, Option.some.injEq] at taken
    obtain ⟨⟨runs, done⟩, rfl⟩ := taken
    have same : batch.execution.finishBatch.targets = batch.execution.targets := by
      unfold BatchExecution.finishBatch
      split <;> rfl
    refine ⟨⟨?_, tracked.tasks, ?_, ?_, fun _ => done, ?_⟩, ?_⟩
    · rw [← tracked.targets, same]
    · rw [same]
      exact tracked.fits
    · rw [tracked.status]
      unfold BatchExecution.finishBatch
      split
      · rfl
      · next going =>
        simp only [going, false_iff]
        split <;> nofun
    · intro _ going
      have going : batch.execution.status ≠ .cancelled := by
        rw [Ne, ← tracked.status, Bool.not_eq_true]
        exact going
      rw [same]
      simp only [BatchExecution.finishBatch, if_neg going, List.all_eq_true, decide_eq_true_eq]
      split
      · next all => exact iff_of_true rfl all
      · next unfinished => exact iff_of_false nofun unfinished
    · intro n target there _
      rw [same]
      exact there
  | cancel =>
    cases taken
    -- What is not queued is left as it is.
    have spared : ∀ target : BatchTargetResult, target.status.terminal = true →
        (if target.status = .queued then BatchExecution.cancelTarget target else target) = target := by
      intro target terminal
      rw [if_neg]
      intro queued
      rw [queued] at terminal
      cases terminal
    refine ⟨⟨?_, tracked.tasks, ?_, ?_, tracked.done, nofun⟩, ?_⟩
    · rw [← tracked.targets]
      simp only [BatchExecution.cancel, List.map_map]
      refine List.map_congr_left fun target _ => ?_
      simp only [Function.comp_apply]
      split <;> rfl
    · intro n target task there held
      simp only [BatchExecution.cancel, List.getElem?_map, Option.map_eq_some_iff] at there
      obtain ⟨old, before, rfl⟩ := there
      have fits := tracked.fits n old task before held
      cases stage : task.2 with
      | waiting | permitted | launching =>
        rw [stage] at fits
        simp only [Fits, if_true] at fits ⊢
        split
        · rfl
        · next waits =>
          split at fits
          · exact fits
          · exact absurd fits waits
      | skipping =>
        rw [stage] at fits
        rw [spared old (terminal_of_cancelTarget fits.2)]
        exact ⟨rfl, fits.2⟩
      | executing =>
        rw [stage] at fits
        have running : old.status = .running := fits
        simp [Fits, running]
      | done =>
        rw [stage] at fits
        rw [spared old fits]
        exact fits
    · exact iff_of_true rfl rfl
    · intro n target there terminal
      simp only [BatchExecution.cancel, List.getElem?_map, there, Option.map_some]
      rw [spared target terminal]

theorem settled (tracked : Tracked ids batch) : batch.Settled where
  cancelled := tracked.status.mp
  terminal finished target member := by
    obtain ⟨n, there⟩ := List.mem_iff_getElem?.mp member
    obtain ⟨task, held⟩ := tracked.task there
    have fits := tracked.fits n target task there held
    rw [tracked.done finished task (List.mem_of_getElem? held)] at fits
    exact fits
  outcome finished := by
    cases flag : batch.cancelled with
    | true => simp [tracked.status.mp flag]
    | false => simpa [flag] using tracked.outcome finished flag

theorem untimely (tracked : Tracked ids batch) (distinct : ids.Nodup)
    (late : ¬Timely batch event) (taken : batch.step concurrency event = some next) :
    ¬(Kept batch next ∧ next.Settled) := by
  rintro ⟨kept, settled⟩
  cases event with
  | begin =>
    have flag : batch.cancelled = true := Bool.not_eq_false _ ▸ late
    simp only [Batch.step, Option.ite_none_right_eq_some, Option.some.injEq] at taken
    obtain ⟨-, rfl⟩ := taken
    have shown := settled.cancelled flag
    simp [BatchExecution.setBatchStatus] at shown
  | launch n =>
    have flag : batch.cancelled = true := Bool.not_eq_false _ ▸ late
    simp only [Batch.step] at taken
    obtain ⟨id, there, runs, rfl⟩ := advance_eq_some.mp taken
    obtain ⟨target, held, rfl⟩ := tracked.target there
    -- The cancellation has reached the target before its task sets it to running.
    have same : BatchExecution.cancelTarget target = target := by
      have fits := tracked.fits n target _ held there
      simpa [Fits, flag] using fits
    have after := kept n target held (terminal_of_cancelTarget same)
    rw [BatchExecution.setTargetRunning, tracked.onTarget_eq distinct held] at after
    simp only [List.getElem?_modify_eq, held, Option.map_eq_map, Option.map_some, Option.some.injEq] at after
    have status := congrArg BatchTargetResult.status (after.trans same.symm)
    cases status
  | _ => exact late trivial

end Tracked

end Batch

def batchSystem (id command createdAt : String) (profiles : List (String × String))
    (concurrency : Nat) : System Batch BatchEvent :=
  .ofStep (fun batch => batch = .new (.new id command createdAt profiles) profiles)
    (Batch.step concurrency)

namespace Batch

/-- All along a run the batch is settled, and no target that has its last status changes. -/
def Orderly (concurrency : Nat) (trace : List (Batch × BatchEvent)) (batch : Batch) : Prop :=
  (∀ entry ∈ trace, entry.1.Settled ∧
    ∀ next, entry.1.step concurrency entry.2 = some next → Kept entry.1 next) ∧ batch.Settled

section Runs

variable {id command createdAt : String} {profiles : List (String × String)} {concurrency : Nat}

theorem orderly_iff (distinct : (profiles.map Prod.fst).Nodup) {trace : List (Batch × BatchEvent)}
    {batch : Batch} (run : (batchSystem id command createdAt profiles concurrency).Run trace batch) :
    Orderly concurrency trace batch ↔ ∀ entry ∈ trace, Timely entry.1 entry.2 := by
  refine run.exactly_moves Timely (Tracked (profiles.map Prod.fst)) Settled
    (fun batch event => ∀ next, batch.step concurrency event = some next → Kept batch next)
    ?_ (fun _ tracked => tracked.settled) ?_ ?_
  · rintro start rfl
    have ids : ∀ task : String × TargetStage, task ∈ (profiles.map fun profile =>
        (profile.1, TargetStage.waiting)) → task.2 = .waiting := by simp +contextual
    refine ⟨?_, ?_, fun n target task there held => ?_, iff_of_false nofun nofun, nofun, nofun⟩
    · simp [Batch.new, BatchExecution.new, Function.comp_def]
    · simp [Batch.new, Function.comp_def]
    · rw [ids task (List.mem_of_getElem? held)]
      simp only [Batch.new, BatchExecution.new, List.getElem?_map, Option.map_eq_some_iff] at there
      obtain ⟨profile, -, rfl⟩ := there
      rfl
  · intro batch event next tracked timely taken
    have goes := tracked.step distinct timely taken
    refine ⟨goes.1, fun other same => ?_⟩
    obtain rfl := Option.some.inj (taken.symm.trans same)
    exact goes.2
  · rintro batch event next tracked late taken ⟨kept, settled⟩
    exact tracked.untimely distinct late taken ⟨kept next taken, settled⟩

def ReachedTimely (system : System Batch BatchEvent) (batch : Batch) : Prop :=
  ∃ trace, system.Run trace batch ∧ ∀ entry ∈ trace, Timely entry.1 entry.2

theorem ReachedTimely.step {batch next : Batch}
    (reached : ReachedTimely (batchSystem id command createdAt profiles concurrency) batch)
    (event : BatchEvent) (timely : Timely batch event) (taken : batch.step concurrency event = some next) :
    ReachedTimely (batchSystem id command createdAt profiles concurrency) next := by
  obtain ⟨trace, run, met⟩ := reached
  refine ⟨_, run.snoc taken, ?_⟩
  exact List.forall_mem_append.mpr ⟨met, by simpa using timely⟩

theorem ReachedTimely.launching {batch : Batch} {n : Nat} {target : String}
    (reached : ReachedTimely (batchSystem id command createdAt profiles concurrency) batch)
    (positive : 0 < concurrency) (runs : batch.runner = .running) (flag : batch.cancelled = false)
    (idle : ∀ task ∈ batch.tasks, task.2.permit = false)
    (there : batch.tasks[n]? = some (target, .waiting)) :
    ReachedTimely (batchSystem id command createdAt profiles concurrency)
      { batch with tasks := batch.tasks.set n (target, .launching) } := by
  have below := (List.getElem?_eq_some_iff.mp there).1
  have free : batch.tasks.countP (fun task => task.2.permit) < concurrency := by
    rw [List.countP_eq_zero.mpr (by simpa using idle)]
    exact positive
  have acquired := reached.step (.acquire n) trivial (by
    rw [Batch.step, if_pos free]
    exact advance_eq_some.mpr ⟨target, there, runs, rfl⟩)
  have looked := acquired.step (.look n) trivial (by
    rw [Batch.step]
    exact advance_eq_some.mpr ⟨target, by simp [below], runs, rfl⟩)
  simpa [flag] using looked

theorem findIdx_targets {targets : List BatchTargetResult} {ids : List String}
    (same : targets.map BatchTargetResult.connectionId = ids) (id : String) :
    (targets.findIdx fun target => target.connectionId = id) = ids.findIdx fun other => other = id := by
  rw [← same, List.findIdx_map]
  rfl

theorem connectionIds_onTarget (execution : BatchExecution) (target : String)
    (change : BatchTargetResult → BatchTargetResult)
    (same : ∀ target, (change target).connectionId = target.connectionId) :
    (execution.onTarget target change).targets.map BatchTargetResult.connectionId =
      execution.targets.map BatchTargetResult.connectionId := by
  refine List.ext_getElem? fun n => ?_
  simp only [BatchExecution.onTarget, List.getElem?_map, List.getElem?_modify]
  split <;> simp [Function.comp_def, same]

theorem onTarget_first {execution : BatchExecution} {ids : List String}
    (same : execution.targets.map BatchTargetResult.connectionId = ids) (target : String)
    (change : BatchTargetResult → BatchTargetResult) :
    (execution.onTarget target change).targets[ids.findIdx fun other => other = target]? =
      execution.targets[ids.findIdx fun other => other = target]?.map change := by
  simp only [BatchExecution.onTarget, findIdx_targets same, List.getElem?_modify_eq]
  rfl

/-- Where an id is repeated, a timely run sets a target to running again that had completed. -/
theorem restarts_repeated (positive : 0 < concurrency) (repeated : ¬(profiles.map Prod.fst).Nodup) :
    ∃ trace batch, (batchSystem id command createdAt profiles concurrency).Run trace batch ∧
      (∀ entry ∈ trace, Timely entry.1 entry.2) ∧ ¬Orderly concurrency trace batch := by
  obtain ⟨target, twice⟩ := List.exists_duplicate_iff_not_nodup.mpr repeated
  obtain ⟨first, second, before, one, two⟩ := List.duplicate_iff_exists_distinct_get.mp twice
  -- The tasks at `i`, where the id stands first, and at `j` both write to the target at `i`.
  let i := (profiles.map Prod.fst).findIdx fun other => other = target
  have earlier : i ≤ first := by
    by_contra later
    have differs := List.not_of_lt_findIdx (Nat.not_le.mp later)
    exact of_decide_eq_false differs one.symm
  have below : i < (profiles.map Prod.fst).length := Nat.lt_of_le_of_lt earlier first.isLt
  have apart : i ≠ second := Nat.ne_of_lt (Nat.lt_of_le_of_lt earlier before)
  have here : (profiles.map Prod.fst)[i]? = some target := by
    have found := List.findIdx_getElem (w := below)
    rw [List.getElem?_eq_getElem below]
    exact congrArg some (of_decide_eq_true found)
  have there : (profiles.map Prod.fst)[(second : Nat)]? = some target := by
    rw [List.getElem?_eq_getElem second.isLt]
    simpa using two.symm
  let tasks : List (String × TargetStage) := profiles.map fun profile => (profile.1, .waiting)
  have waits : ∀ n : Nat, (profiles.map Prod.fst)[n]? = some target → tasks[n]? = some (target, .waiting) := by
    intro n held
    simp only [List.getElem?_map, Option.map_eq_some_iff] at held
    obtain ⟨profile, held, rfl⟩ := held
    simp [tasks, held]
  have quiet : ∀ task ∈ tasks, task.2.permit = false := by
    intro task member
    obtain ⟨profile, -, rfl⟩ := List.mem_map.mp member
    rfl
  let opened : BatchExecution := (BatchExecution.new id command createdAt profiles).setBatchStatus .running
  have begun : ReachedTimely (batchSystem id command createdAt profiles concurrency)
      ⟨opened, false, .running, tasks⟩ := by
    have created : ReachedTimely (batchSystem id command createdAt profiles concurrency)
        (.new (.new id command createdAt profiles) profiles) := ⟨[], .start rfl, by simp⟩
    exact created.step .begin rfl rfl
  have long : i < tasks.length := by simpa [tasks] using below
  have launching := begun.launching positive rfl rfl quiet (waits i here)
  have set : ∀ stage : TargetStage, (tasks.set i (target, stage))[i]? = some (target, stage) :=
    fun stage => List.getElem?_set_self long
  have executing := launching.step (.launch i) rfl (step_launch (set .launching) rfl)
  let result : AppResult RemoteCommandResult := .ok ⟨"", "", 0, false⟩
  simp only [List.set_set] at executing
  have done := executing.step (.finish i 0 result) trivial (step_finish (set .executing) rfl 0 result)
  simp only [List.set_set] at done
  have idle : ∀ task ∈ tasks.set i (target, TargetStage.done), task.2.permit = false := by
    intro task member
    rcases List.mem_or_eq_of_mem_set member with old | rfl
    · exact quiet task old
    · rfl
  have waiting : (tasks.set i (target, TargetStage.done))[(second : Nat)]? = some (target, .waiting) := by
    rw [List.getElem?_set_ne apart]
    exact waits second there
  obtain ⟨trace, run, met⟩ := done.launching positive rfl rfl idle waiting
  -- What the two launches and the result between them make of the target.
  let ran := opened.setTargetRunning target
  let finished := ran.finishTarget target 0 result
  let ready : Batch := ⟨finished, false, .running, (tasks.set i (target, .done)).set second (target, .launching)⟩
  let restarted : Batch := ⟨finished.setTargetRunning target, false, .running,
    ((tasks.set i (target, .done)).set second (target, .launching)).set second (target, .executing)⟩
  have taken : ready.step concurrency (.launch second) = some restarted := by
    have bound : (second : Nat) < tasks.length := by simpa [tasks] using second.isLt
    have held : ready.tasks[(second : Nat)]? = some (target, .launching) :=
      List.getElem?_set_self (by simpa using bound)
    exact step_launch held rfl
  refine ⟨_, restarted, System.Run.snoc run taken,
    List.forall_mem_append.mpr ⟨met, by simp [Timely]⟩, fun orderly => ?_⟩
  have kept := (orderly.1 _ (List.mem_append_right _ (List.mem_singleton_self _))).2 _ taken
  let starts : BatchTargetResult → BatchTargetResult := fun target => { target with status := .running }
  have first : opened.targets.map BatchTargetResult.connectionId = profiles.map Prod.fst := by
    simp [opened, BatchExecution.new, BatchExecution.setBatchStatus, Function.comp_def]
  have second' : ran.targets.map BatchTargetResult.connectionId = profiles.map Prod.fst := by
    rw [← first]
    exact connectionIds_onTarget opened target starts fun _ => rfl
  have third : finished.targets.map BatchTargetResult.connectionId = profiles.map Prod.fst := by
    rw [← second']
    exact connectionIds_onTarget ran target (BatchExecution.resultTarget 0 result) fun _ => rfl
  have among : opened.targets[i]?.map BatchTargetResult.connectionId = some target := by
    rw [← List.getElem?_map, first]
    exact here
  obtain ⟨start, held, -⟩ := Option.map_eq_some_iff.mp among
  have begin : ran.targets[i]? = opened.targets[i]?.map starts := onTarget_first first target starts
  have ended := onTarget_first second' target (BatchExecution.resultTarget 0 result)
  have again := onTarget_first third target starts
  have completed : finished.targets[i]? = some (BatchExecution.resultTarget 0 result (starts start)) := by
    refine ended.trans ?_
    rw [show ran.targets[(profiles.map Prod.fst).findIdx fun other => other = target]? = _ from begin, held]
    rfl
  have after := (kept i _ completed rfl).symm.trans (again.trans (by rw [completed]))
  have status := congrArg BatchTargetResult.status (Option.some.inj after)
  cases status

/-- The runs of a batch are orderly exactly where no cancelled batch or target is set to running,
just when the batch has no two targets of one id. -/
theorem orderly_iff_timely (positive : 0 < concurrency) :
    (∀ trace batch, (batchSystem id command createdAt profiles concurrency).Run trace batch →
      (Orderly concurrency trace batch ↔ ∀ entry ∈ trace, Timely entry.1 entry.2)) ↔
    (profiles.map Prod.fst).Nodup := by
  constructor
  · intro always
    by_contra repeated
    obtain ⟨trace, batch, run, met, disorderly⟩ :=
      @restarts_repeated id command createdAt profiles _ positive repeated
    exact disorderly ((always trace batch run).mpr met)
  · intro distinct trace batch run
    exact orderly_iff distinct run

end Runs

end Batch

namespace Demo

def hosts : List (String × String) := [("web", "Web"), ("db", "Database")]

/-- The batch is cancelled before its first task sets it to running, and then shows that it runs. -/
theorem cancelled_runs : ¬∀ id command createdAt profiles concurrency, profiles ≠ [] →
    0 < concurrency → ∀ trace batch,
      (batchSystem id command createdAt profiles concurrency).Run trace batch →
        Batch.Orderly concurrency trace batch := by
  intro always
  let start : Batch := .new (.new "batch" "uptime" "2024-01-01T00:00:00+00:00" hosts) hosts
  have run : (batchSystem "batch" "uptime" "2024-01-01T00:00:00+00:00" hosts 1).Run [] start :=
    .start rfl
  have cancels : start.step 1 .cancel = some _ := rfl
  have begins : Batch.step 1 { start with execution := start.execution.cancel, cancelled := true }
    .begin = some _ := rfl
  have begun := (run.snoc cancels).snoc begins
  have orderly := always _ _ _ _ _ (by decide) (by decide) _ _ begun
  cases orderly.2.cancelled rfl

/-- The first command ends, and the batch is cancelled before the second begins. -/
theorem orderly_stopped : ∃ trace batch,
    (batchSystem "batch" "uptime" "2024-01-01T00:00:00+00:00" hosts 1).Run trace batch ∧
      batch.runner = .finished ∧ batch.execution.targets.map BatchTargetResult.status =
        [.completed, .cancelled] ∧ Batch.Orderly 1 trace batch := by
  let events : List BatchEvent := [.begin, .acquire 0, .look 0, .launch 0,
    .finish 0 15 (.ok ⟨"up 3 days", "", 0, false⟩), .cancel, .acquire 1, .look 1, .skip 1, .conclude]
  let start : Batch := .new (.new "batch" "uptime" "2024-01-01T00:00:00+00:00" hosts) hosts
  have checked : ((System.trail (Batch.step 1) start events).elim false fun reached =>
      decide (reached.2.runner = .finished ∧ reached.2.execution.targets.map
        BatchTargetResult.status = [.completed, .cancelled] ∧
          ∀ entry ∈ reached.1, Batch.Timely entry.1 entry.2)) = true := by
    decide
  obtain ⟨reached, goes, checked⟩ := exists_of_checked checked
  simp only [decide_eq_true_eq] at checked
  obtain ⟨finished, statuses, timely⟩ := checked
  have run : (batchSystem "batch" "uptime" "2024-01-01T00:00:00+00:00" hosts 1).Run _ reached.2 :=
    System.Run.trail (.start rfl) goes
  have orderly := (Batch.orderly_iff_timely (by decide)).mpr (by decide) _ _ run
  exact ⟨_, _, run, finished, statuses, orderly.mpr (by simpa using timely)⟩

end Demo

end Client

end CNShell
