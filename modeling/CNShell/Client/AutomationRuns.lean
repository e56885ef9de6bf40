import CNShell.Client.Batches
import CNShell.Client.Schedules

/-! The run of an automation: what becomes of its steps, and what is told and recorded of them. -/

namespace CNShell

namespace Client

namespace Automation

/-- How an operation ended; it may have failed because it saw that cancellation is requested. -/
inductive Ended (α : Type)
  | done (value : α)
  | failed (error : AppError) (cancelled : Bool)

/-- What one round of a wait sees. -/
structure Look where
  cancelled : Bool
  late : Bool

/-- What the operations of a run meet, by the number of the step; a wait without further looks is late. -/
structure Course where
  requested : Nat → Bool
  command : Nat → Ended RemoteCommandResult
  looks : Nat → List Look
  transfer : Nat → Ended Unit
  startedAt : Nat → String
  durationMs : Nat → Nat

inductive StepOutcome
  | continue (output : String)
  | stop (output : String)

structure AutomationStepResult where
  stepId : String
  kind : String
  status : String
  startedAt : String
  durationMs : Nat
  output : String
  error : Option String

structure AutomationRun where
  runId : String
  planId : String
  status : String
  currentStep : Option String
  results : List AutomationStepResult

structure AutomationRunRecord where
  id : String
  planId : String
  planName : String
  connectionId : String
  source : String
  scheduleId : Option String
  startedAt : String
  finishedAt : String
  status : String
  results : List AutomationStepResult
  error : Option String

section

variable {Zone Cron : Type} (calendar : Calendar Zone Cron) (isMatch : String → String → Bool) (course : Course)

def runCommand (result : RemoteCommandResult) : Ended StepOutcome :=
  let combined := result.stdout ++ result.stderr
  if result.exitCode ≠ 0 then
    .failed (.remote ("命令退出码 " ++ toString result.exitCode ++ "：" ++ trim result.stderr)) false
  else .done (.continue (if result.truncated then combined ++ "\n[输出已截断]" else combined))

/-- The rounds of a wait for something that has not been put out. -/
def waitRounds : List Look → Ended StepOutcome
  | [] => .failed (.unavailable "等待匹配超时；该步骤只观察本工作流此前命令的输出") false
  | look :: looks =>
    if look.cancelled then .failed (.unavailable "自动化已取消") true
    else if look.late then .failed (.unavailable "等待匹配超时；该步骤只观察本工作流此前命令的输出") false
    else waitRounds looks

def checkCondition (action : Option String) (matched : Bool) : Ended StepOutcome :=
  if action = some "continueIfMatch" ∧ matched = false then .failed (.unavailable "条件不匹配，工作流停止") false
  else if action = some "stopIfMatch" ∧ matched = true then .done (.stop "条件匹配，按计划结束")
  else if action = some "stopIfMissing" ∧ matched = false then .done (.stop "条件缺失，按计划结束")
  else .done (.continue ("条件检查：" ++ if matched then "匹配" else "未匹配"))

/-- What follows from the search for a pattern in what has been put out. -/
def searched (pattern : Option String) (accumulated : String) (found : Bool → Ended StepOutcome) : Ended StepOutcome :=
  match calendar.parseRegex (pattern.getD "") with
  | .error error => .failed (.validation ("正则表达式无效：" ++ error)) false
  | .ok () => found (isMatch (pattern.getD "") accumulated)

def waitForMatch (looks : List Look) (matched : Bool) : Ended StepOutcome :=
  if matched then .done (.continue "已在此前输出中匹配") else waitRounds looks

/-- One step, and what has been put out after it. -/
def executeStep (k : Nat) (step : AutomationStep) (accumulated : String) : Ended StepOutcome × String :=
  match step.kind with
  | "command" =>
    match course.command k with
    | .failed error cancelled => (.failed error cancelled, accumulated)
    | .done result => (runCommand result, accumulated ++ (result.stdout ++ result.stderr))
  | "waitForMatch" => (searched calendar isMatch step.pattern accumulated (waitForMatch (course.looks k)), accumulated)
  | "condition" => (searched calendar isMatch step.pattern accumulated (checkCondition step.action), accumulated)
  | "transfer" =>
    match course.transfer k with
    | .failed error cancelled => (.failed error cancelled, accumulated)
    | .done () =>
      (.done (.continue ((if step.direction = some "upload" then "上传" else "下载") ++ " 完成")), accumulated)
  | _ => (.failed (.validation "不支持的步骤") false, accumulated)

/-- What a step that was executed is told as. -/
def stepResult (k : Nat) (step : AutomationStep) (status output : String) (error : Option String) :
    AutomationStepResult :=
  ⟨step.id, step.kind, status, course.startedAt k, course.durationMs k, output, error⟩

def runSteps : Nat → String → List AutomationStepResult → List AutomationStep →
    String × Option String × List AutomationStepResult
  | _, _, results, [] => ("completed", none, results)
  | k, accumulated, results, step :: steps =>
    if course.requested k then ("cancelled", some step.id, results)
    else
      match executeStep calendar isMatch course k step accumulated with
      | (.done (.continue output), accumulated) =>
        runSteps (k + 1) accumulated (results ++ [stepResult course k step "completed" output none]) steps
      | (.done (.stop output), _) =>
        ("completed", none, results ++ [stepResult course k step "completed" output none])
      | (.failed error _, _) =>
        ("failed", some step.id, results ++ [stepResult course k step "failed" "" (some error.text)])

/-- The run of a plan; `protocol` is what the database says of its connection. -/
def run (protocol : AppResult String) (runId : String) (plan : AutomationPlan) : AppResult AutomationRun := do
  validate calendar plan
  let protocol ← protocol
  ensure (protocol = "ssh") (.validation "自动化仅支持 SSH 连接")
  let (status, currentStep, results) := runSteps calendar isMatch course 0 "" [] plan.steps
  return ⟨runId, plan.id, status, currentStep, results⟩

/-- The record of a run, or of why there is none; `otherId` is drawn for the latter. -/
def recordOf (plan : AutomationPlan) (source : String) (scheduleId : Option String)
    (startedAt finishedAt otherId : String) :
    AppResult AutomationRun → AutomationRunRecord
  | .ok run => ⟨run.runId, plan.id, plan.name, plan.connectionId, source, scheduleId, startedAt, finishedAt, run.status,
      run.results, none⟩
  | .error error => ⟨otherId, plan.id, plan.name, plan.connectionId, source, scheduleId, startedAt, finishedAt, "failed",
      [], some error.text⟩

/-- Why a run ended. -/
inductive Ending
  | completed
  | stopped
  | cancelled (step : AutomationStep)
  | interrupted (step : AutomationStep)
  | failed (step : AutomationStep)

/-- The steps that a run executes from one on, and why it ends behind them. -/
inductive Ends : Nat → String → List AutomationStep → List AutomationStep → Ending → Prop
  | completed {k : Nat} {accumulated : String} : Ends k accumulated [] [] .completed
  | cancelled {k : Nat} {accumulated : String} {step : AutomationStep} {steps : List AutomationStep}
      (requested : course.requested k = true) : Ends k accumulated (step :: steps) [] (.cancelled step)
  | next {k : Nat} {accumulated more output : String} {step : AutomationStep} {steps executed : List AutomationStep}
      {ending : Ending} (free : course.requested k = false)
      (done : executeStep calendar isMatch course k step accumulated = (.done (.continue output), more))
      (rest : Ends (k + 1) more steps executed ending) :
      Ends k accumulated (step :: steps) (step :: executed) ending
  | stopped {k : Nat} {accumulated more output : String} {step : AutomationStep} {steps : List AutomationStep}
      (free : course.requested k = false)
      (done : executeStep calendar isMatch course k step accumulated = (.done (.stop output), more)) :
      Ends k accumulated (step :: steps) [step] .stopped
  | failed {k : Nat} {accumulated more : String} {step : AutomationStep} {steps : List AutomationStep}
      {error : AppError} (cancelled : Bool) (free : course.requested k = false)
      (done : executeStep calendar isMatch course k step accumulated = (.failed error cancelled, more)) :
      Ends k accumulated (step :: steps) [step] (if cancelled then .interrupted step else .failed step)

structure Accounted (plan : AutomationPlan) (executed : List AutomationStep) (ending : Ending) (run : AutomationRun) :
    Prop where
  front : executed <+: plan.steps
  results : run.results.map (fun result => (result.stepId, result.kind)) = executed.map fun step => (step.id, step.kind)
  before : ∀ result ∈ run.results.dropLast, result.status = "completed"
  completed : run.status = "completed" ↔ ending = .completed ∨ ending = .stopped
  cancelled : run.status = "cancelled" ↔ ∃ step, ending = .cancelled step ∨ ending = .interrupted step
  failed : ∀ step, ending = .failed step → run.status = "failed" ∧ run.currentStep = some step.id

def Ending.told : Ending → String × Option String
  | completed => ("completed", none)
  | stopped => ("completed", none)
  | cancelled step => ("cancelled", some step.id)
  | interrupted step => ("failed", some step.id)
  | failed step => ("failed", some step.id)

/-- How the steps that were executed lie among those of the plan. -/
def Ending.Of (steps executed : List AutomationStep) : Ending → Prop
  | completed => executed = steps
  | stopped => ∃ front step, executed = front ++ [step] ∧ step.kind = "condition"
  | cancelled step => ∃ rest, steps = executed ++ step :: rest
  | interrupted step => ∃ front, executed = front ++ [step]
  | failed step => ∃ front, executed = front ++ [step]

theorem Ending.Of.cons {steps executed : List AutomationStep} {ending : Ending} (step : AutomationStep)
    (of : ending.Of steps executed) : ending.Of (step :: steps) (step :: executed) := by
  cases ending with
  | completed => exact congrArg (step :: ·) of
  | stopped =>
    obtain ⟨front, last, rfl, kind⟩ := of
    exact ⟨step :: front, last, rfl, kind⟩
  | cancelled last => exact of.imp fun rest split => by rw [split, List.cons_append]
  | interrupted last | failed last =>
    obtain ⟨front, rfl⟩ := of
    exact ⟨step :: front, rfl⟩

variable {calendar isMatch course}

theorem exists_ends (k : Nat) (accumulated : String) (steps : List AutomationStep) :
    ∃ executed ending, Ends calendar isMatch course k accumulated steps executed ending := by
  induction steps generalizing k accumulated with
  | nil => exact ⟨_, _, .completed⟩
  | cons step steps ih =>
    cases requested : course.requested k with
    | true => exact ⟨_, _, .cancelled requested⟩
    | false =>
      obtain ⟨outcome, more, done⟩ :
          ∃ outcome more, executeStep calendar isMatch course k step accumulated = (outcome, more) := ⟨_, _, rfl⟩
      match outcome, done with
      | .done (.continue _), done =>
        obtain ⟨executed, ending, ends⟩ := ih (k + 1) more
        exact ⟨_, _, .next requested done ends⟩
      | .done (.stop _), done => exact ⟨_, _, .stopped requested done⟩
      | .failed _ cancelled, done => exact ⟨_, _, .failed cancelled requested done⟩

variable {ending : Ending} {executed : List AutomationStep} {accumulated : String} {k : Nat}

variable {steps : List AutomationStep}

theorem runSteps_ends
    (ends : Ends calendar isMatch course k accumulated steps executed ending) (results : List AutomationStepResult) :
    ∃ more, runSteps calendar isMatch course k accumulated results steps =
        (ending.told.1, ending.told.2, results ++ more) ∧
      more.map (fun result => (result.stepId, result.kind)) = executed.map (fun step => (step.id, step.kind)) ∧
      (∀ result ∈ more.dropLast, result.status = "completed") ∧ executed <+: steps := by
  induction ends generalizing results with
  | completed => exact ⟨[], by rw [runSteps, List.append_nil]; rfl, rfl, by simp, List.prefix_rfl⟩
  | cancelled requested =>
    exact ⟨[], by rw [runSteps, if_pos requested, List.append_nil]; rfl, rfl, by simp, List.nil_prefix⟩
  | @next k accumulated _ output step steps _ _ free done rest ih =>
    -- the result of this step stands before those that the induction speaks of
    obtain ⟨more, told, kinds, before, front⟩ := ih (results ++ [stepResult course k step "completed" output none])
    refine ⟨stepResult course k step "completed" output none :: more, ?_, ?_, ?_, List.cons_prefix_cons.2 ⟨rfl, front⟩⟩
    · rw [runSteps, if_neg (by simp [free]), done]
      refine told.trans ?_
      rw [List.append_assoc]
      rfl
    · rw [List.map_cons, List.map_cons, kinds]
      rfl
    · intro result listed
      cases more with
      | nil => cases listed
      | cons second more =>
        rw [List.dropLast_cons_cons] at listed
        obtain rfl | listed := List.mem_cons.1 listed
        · rfl
        · exact before result listed
  | @stopped k accumulated _ output step steps free done =>
    refine ⟨[stepResult course k step "completed" output none], ?_, rfl, by simp, List.cons_prefix_cons.2 ⟨rfl, List.nil_prefix⟩⟩
    rw [runSteps, if_neg (by simp [free]), done]
    rfl
  | @failed k accumulated _ step steps error cancelled free done =>
    refine ⟨[stepResult course k step "failed" "" (some error.text)], ?_, rfl, by simp,
      List.cons_prefix_cons.2 ⟨rfl, List.nil_prefix⟩⟩
    rw [runSteps, if_neg (by simp [free]), done]
    cases cancelled <;> rfl

theorem waitRounds_ne_stop (looks : List Look) (output : String) : waitRounds looks ≠ .done (.stop output) := by
  induction looks with
  | nil => exact nofun
  | cons look looks ih =>
    rw [waitRounds]
    split
    · exact nofun
    · split
      · exact nofun
      · exact ih

theorem kind_of_stop {step : AutomationStep} {output : String}
    (stopped : (executeStep calendar isMatch course k step accumulated).1 = .done (.stop output)) :
    step.kind = "condition" := by
  unfold executeStep at stopped
  split at stopped
  · split at stopped
    · cases stopped
    · simp only [runCommand] at stopped
      split at stopped <;> cases stopped
  · simp only [searched, waitForMatch] at stopped
    split at stopped
    · cases stopped
    · split at stopped
      · cases stopped
      · exact absurd stopped (waitRounds_ne_stop _ _)
  · assumption
  · split at stopped <;> cases stopped
  · cases stopped

theorem Ends.of
    (ends : Ends calendar isMatch course k accumulated steps executed ending) : ending.Of steps executed := by
  induction ends with
  | completed => rfl
  | @cancelled _ _ step steps => exact ⟨steps, rfl⟩
  | @next _ _ _ _ step _ _ _ _ _ _ ih => exact ih.cons step
  | @stopped _ _ _ _ step _ _ done => exact ⟨[], step, rfl, kind_of_stop (congrArg Prod.fst done)⟩
  | failed cancelled => cases cancelled <;> exact ⟨[], rfl⟩

theorem accounted_iff {plan : AutomationPlan} {run : AutomationRun}
    (status : run.status = ending.told.1) (currentStep : run.currentStep = ending.told.2)
    (front : executed <+: plan.steps)
    (results : run.results.map (fun result => (result.stepId, result.kind)) = executed.map fun step => (step.id, step.kind))
    (before : ∀ result ∈ run.results.dropLast, result.status = "completed") :
    Accounted plan executed ending run ↔ ∀ step, ending ≠ .interrupted step := by
  constructor
  · rintro accounted step rfl
    have told := accounted.cancelled.2 ⟨step, .inr rfl⟩
    rw [status] at told
    exact absurd told (by simp [Ending.told])
  · intro seen
    cases ending with
    | completed => exact ⟨front, results, before, by simp [status, Ending.told], by simp [status, Ending.told], nofun⟩
    | stopped => exact ⟨front, results, before, by simp [status, Ending.told], by simp [status, Ending.told], nofun⟩
    | cancelled step => exact ⟨front, results, before, by simp [status, Ending.told], by simp [status, Ending.told], nofun⟩
    | interrupted step => exact absurd rfl (seen step)
    | failed step =>
      refine ⟨front, results, before, by simp [status, Ending.told], by simp [status, Ending.told], ?_⟩
      rintro _ ⟨⟩
      exact ⟨status, currentStep⟩

/-- A run accounts for its steps exactly when none of them ended because it saw the request to cancel. -/
theorem run_accounted_iff {plan : AutomationPlan} (valid : validate calendar plan = .ok ()) (runId source : String)
    (scheduleId : Option String) (startedAt finishedAt otherId : String) :
    ∃ run, Automation.run calendar isMatch course (.ok "ssh") runId plan = .ok run ∧
      run.runId = runId ∧ run.planId = plan.id ∧
      recordOf plan source scheduleId startedAt finishedAt otherId (.ok run) =
        ⟨runId, plan.id, plan.name, plan.connectionId, source, scheduleId, startedAt, finishedAt, run.status,
          run.results, none⟩ ∧
      (∃ executed ending, Ends calendar isMatch course 0 "" plan.steps executed ending) ∧
      ∀ executed ending, Ends calendar isMatch course 0 "" plan.steps executed ending →
        ending.Of plan.steps executed ∧ (Accounted plan executed ending run ↔ ∀ step, ending ≠ .interrupted step) := by
  obtain ⟨status, currentStep, results, looped⟩ :
      ∃ status currentStep results, runSteps calendar isMatch course 0 "" [] plan.steps = (status, currentStep, results) :=
    ⟨_, _, _, rfl⟩
  refine ⟨⟨runId, plan.id, status, currentStep, results⟩, ?_, rfl, rfl, rfl, exists_ends _ _ _, ?_⟩
  · simp only [Automation.run, valid, looped]
    rfl
  · intro executed ending ends
    obtain ⟨more, told, kinds, before, front⟩ := runSteps_ends ends []
    rw [looped, List.nil_append] at told
    obtain ⟨rfl, rfl, rfl⟩ := by simpa using told
    exact ⟨ends.of, accounted_iff rfl rfl front kinds before⟩

end

/-- A plan of one command, and a run in which the command ends as given and cancellation is requested meanwhile. -/
def sleepPlan :
    AutomationPlan := ⟨"a", "b", "c", [⟨"d", "command", some "sleep 9", none, none, none, none, none, none⟩]⟩

def sleepCourse (outcome : Ended RemoteCommandResult) : Course :=
  ⟨fun k => decide (0 < k), fun _ => outcome, fun _ => [], fun _ => .done (), fun _ => "", fun _ => 0⟩

/-- A command that ends by itself. -/
theorem run_accounted_sleep :
    ∃ run, Automation.run plainCalendar (fun _ _ => true) (sleepCourse (.done ⟨"", "", 0, false⟩)) (.ok "ssh") "e"
        sleepPlan = .ok run ∧ Accounted sleepPlan sleepPlan.steps .completed run := by
  have ends : Ends plainCalendar (fun _ _ => true) (sleepCourse (.done ⟨"", "", 0, false⟩)) 0 "" sleepPlan.steps
      sleepPlan.steps .completed := .next rfl rfl .completed
  obtain ⟨run, ran, -, -, -, -, all⟩ := @run_accounted_iff _ _ _ _ _ sleepPlan rfl "e" "" none "" "" ""
  exact ⟨run, ran, (all _ _ ends).2.2 nofun⟩

/-- A command that ends because it sees the request to cancel: the run is told of as failed. -/
theorem run_cancelled_sleep :
    ∃ run, Automation.run plainCalendar (fun _ _ => true)
        (sleepCourse (.failed (.unavailable "远端命令已取消") true)) (.ok "ssh") "e" sleepPlan = .ok run ∧
      run.status = "failed" ∧
      Ends plainCalendar (fun _ _ => true) (sleepCourse (.failed (.unavailable "远端命令已取消") true)) 0 "" sleepPlan.steps
        sleepPlan.steps (.interrupted ⟨"d", "command", some "sleep 9", none, none, none, none, none, none⟩) ∧
      ¬ Accounted sleepPlan sleepPlan.steps
        (.interrupted ⟨"d", "command", some "sleep 9", none, none, none, none, none, none⟩) run := by
  refine ⟨_, rfl, rfl, .failed true rfl rfl, ?_⟩
  intro accounted
  exact absurd (accounted.cancelled.2 ⟨_, .inr rfl⟩) (by decide)

end Automation

end Client

end CNShell
