import CNShell.Client.Models
import CNShell.Library.Decimal
import CNShell.Library.Text

/-! The schedules of automations: when they are valid, when they are due, and what a tick makes of them. -/

namespace CNShell

namespace Client

def second : Int := 1000000000

def day : Int := 86400 * second

inductive Weekday
  | mon
  | tue
  | wed
  | thu
  | fri
  | sat
  | sun
  deriving DecidableEq, Repr

/-- The weekday of a date, counted in days from 1970-01-01, which was a Thursday. -/
def weekdayOf (date : Int) : Weekday :=
  match ((date + 3) % 7).toNat with
  | 0 => .mon
  | 1 => .tue
  | 2 => .wed
  | 3 => .thu
  | 4 => .fri
  | 5 => .sat
  | _ => .sun

/-- The instants at which the clocks of a zone show a local time. -/
inductive LocalResult
  | none
  | single (value : Instant)
  | ambiguous (first second : Instant)
  deriving DecidableEq, Repr

namespace LocalResult

def instants : LocalResult → List Instant
  | none => []
  | single value => [value]
  | ambiguous first second => [first, second]

def earliest : LocalResult → Option Instant
  | none => .none
  | single value => some value
  | ambiguous first second => some (min first second)

end LocalResult

/--
The date, time zone, cron and regular expression libraries.

A local time is counted in nanoseconds like an instant, from 1970-01-01T00:00:00 on the clocks there.
-/
structure Calendar (Zone Cron : Type) where
  parseRfc3339 : String → Option Instant
  parseZone : String → Option Zone
  /-- The time of `%H:%M` since midnight. -/
  parseWallTime : String → Option Int
  parseCron : String → Except String Cron
  parseRegex : String → Except String Unit
  /-- What the clocks of a zone show. -/
  toLocal : Zone → Instant → Int
  fromLocal : Zone → Int → LocalResult
  /-- Whether an expression matches what the clocks show. -/
  cronMatches : Cron → Int → Bool
  /-- The first so many occurrences after an instant. -/
  upcoming : Cron → Zone → Instant → Nat → List Instant

/-- What an occurrence is known by: what the clocks of a zone showed, to the second, or the instant. -/
inductive OccurrenceKey (Zone : Type)
  | wall (zone : Zone) (seconds : Int)
  | instant (scheduledAt : Instant)
  deriving DecidableEq

structure AutomationStep where
  id : String
  kind : String
  command : Option String
  pattern : Option String
  timeoutSeconds : Option Nat
  action : Option String
  direction : Option String
  localPath : Option String
  remotePath : Option String
  deriving DecidableEq, Repr

structure AutomationPlan where
  id : String
  name : String
  connectionId : String
  steps : List AutomationStep
  deriving DecidableEq, Repr

/--
A schedule of a plan.

An instant stands for the text that is stored for it; a text that is none counts as missing.
-/
structure AutomationSchedule (Zone : Type) where
  id : String
  plan : AutomationPlan
  scheduleType : String
  expression : String
  enabled : Bool
  misfirePolicy : String
  timeZone : String
  nextRunAt : Option Instant
  lastRunAt : Option Instant
  lastOccurrenceKey : Option (OccurrenceKey Zone)
  deriving DecidableEq

/-- The most steps of a plan. -/
def maxSteps : Nat := 50

/-- The most seconds a step may take. -/
def maxTimeoutSeconds : Nat := 3600

section Schedules

variable {Zone Cron : Type} [DecidableEq Zone] (calendar : Calendar Zone Cron)

/-- A pattern of a step that is a regular expression. -/
def validatePattern (noun : String) (pattern : Option String) : AppResult Unit := do
  let pattern := pattern.getD ""
  ensure (¬(pattern = "" ∨ 512 < pattern.utf8ByteSize)) (.validation (noun ++ "表达式必须为 1～512 字符"))
  (calendar.parseRegex pattern).mapError fun error => .validation (noun ++ "表达式无效：" ++ error)

def validateKind (step : AutomationStep) : AppResult Unit :=
  match step.kind with
  | "command" => ensure (trim (step.command.getD "") ≠ "") (.validation "命令步骤不能为空")
  | "waitForMatch" => validatePattern calendar "匹配" step.pattern
  | "condition" => do
    validatePattern calendar "条件" step.pattern
    ensure (step.action.getD "" ∈ ["continueIfMatch", "stopIfMatch", "stopIfMissing"])
      (.validation "条件动作无效")
  | "transfer" =>
    ensure (¬(step.direction.getD "" ∉ ["upload", "download"] ∨ step.localPath.getD "" = "" ∨
      step.remotePath.getD "" = "")) (.validation "文件传输步骤缺少方向或路径")
  | kind => .error (.validation ("不支持的自动化步骤：" ++ kind))

def validateSteps : (ids : List String) → List AutomationStep → AppResult Unit
  | _, [] => .ok ()
  | ids, step :: steps => do
    ensure (¬(step.id = "" ∨ step.id ∈ ids)) (.validation "步骤 ID 不能为空或重复")
    let timeout := step.timeoutSeconds.getD 30
    ensure (¬(timeout = 0 ∨ maxTimeoutSeconds < timeout)) (.validation "步骤超时必须为 1～3600 秒")
    validateKind calendar step
    validateSteps (step.id :: ids) steps

/-- Whether a plan may be run. -/
def validate (plan : AutomationPlan) : AppResult Unit := do
  ensure (¬(trim plan.id = "" ∨ trim plan.name = "" ∨ trim plan.connectionId = ""))
    (.validation "自动化名称和目标连接不能为空")
  ensure (¬(plan.steps = [] ∨ maxSteps < plan.steps.length)) (.validation "自动化步骤必须为 1～50 项")
  validateSteps calendar [] plan.steps

def parseTimeZone (schedule : AutomationSchedule Zone) : AppResult Zone :=
  required (calendar.parseZone (trim schedule.timeZone))
    (.validation "定时任务时区必须是有效 IANA 名称，例如 Asia/Shanghai")

def parseWallTime (value : String) : AppResult Int :=
  required (calendar.parseWallTime value) (.validation "每日时间必须使用 HH:MM 24 小时格式")

/-- What comes before and after the first separator. -/
def splitOnce (separator : Char) (value : String) : Option (String × String) :=
  if separator ∈ value.toList then
    some (String.ofList (value.toList.takeWhile (· ≠ separator)),
      String.ofList (value.toList.dropWhile (· ≠ separator)).tail)
  else none

def parseWeekday (value : String) : AppResult Weekday :=
  match toAsciiLowercase value with
  | "mon" => .ok .mon
  | "tue" => .ok .tue
  | "wed" => .ok .wed
  | "thu" => .ok .thu
  | "fri" => .ok .fri
  | "sat" => .ok .sat
  | "sun" => .ok .sun
  | _ => .error (.validation "每周任务星期值无效")

/-- A weekday and a time of day. -/
def parseWeeklyExpression (value : String) : AppResult (Weekday × Int) := do
  let (weekday, time) ← required (splitOnce '@' value) (.validation "每周时间必须使用 mon@HH:MM 格式")
  let weekday ← parseWeekday weekday
  let time ← parseWallTime calendar time
  return (weekday, time)

def parseCron (value : String) : AppResult Cron :=
  (calendar.parseCron value).mapError fun error => .validation ("Cron 表达式无效：" ++ error)

def validateExpression (scheduleType expression : String) : AppResult Unit :=
  match scheduleType with
  | "once" => do
    let _ ← required (calendar.parseRfc3339 expression) (.validation "一次执行时间必须是 RFC3339 时间")
  | "interval" => do
    let seconds ← required (parseU64 expression) (.validation "间隔必须是秒数")
    ensure (10 ≤ seconds ∧ seconds ≤ 2592000) (.validation "间隔必须为 10 秒至 30 天")
  | "daily" => do
    let _ ← parseWallTime calendar expression
  | "weekly" => do
    let _ ← parseWeeklyExpression calendar expression
  | "cron" => do
    let _ ← parseCron calendar expression
  | _ => .ok ()

/-- Whether a schedule may be stored. -/
def validateSchedule (schedule : AutomationSchedule Zone) : AppResult Unit := do
  ensure (¬(trim schedule.id = "" ∨ 128 < schedule.id.utf8ByteSize ∨
      (schedule.id.toList.all fun value => value.isAlphanum || value == '-' || value == '_') = false))
    (.validation "定时任务 ID 无效")
  validate calendar schedule.plan
  ensure (schedule.scheduleType ∈ ["once", "interval", "daily", "weekly", "cron"])
    (.validation "定时任务类型无效")
  ensure (schedule.misfirePolicy ∈ ["skip", "runOnce"]) (.validation "错过执行策略无效")
  let expression := trim schedule.expression
  ensure (¬(expression = "" ∨ 128 < expression.utf8ByteSize))
    (.validation "定时任务表达式不能为空且不能超过 128 字符")
  let _ ← parseTimeZone calendar schedule
  validateExpression calendar schedule.scheduleType expression

/-- The types of schedules that go by the clocks. -/
def wallTypes : List String := ["daily", "weekly", "cron"]

def occurrenceKey (schedule : AutomationSchedule Zone) (scheduledAt : Instant) : AppResult (OccurrenceKey Zone) :=
  if schedule.scheduleType ∈ wallTypes then do
    let zone ← parseTimeZone calendar schedule
    return .wall zone (calendar.toLocal zone scheduledAt / second)
  else .ok (.instant scheduledAt)

/-- The first of some candidates that is not the occurrence that ran last. -/
def firstFresh (schedule : AutomationSchedule Zone) (exhausted : AppError) :
    List Instant → AppResult (Option Instant)
  | [] => .error exhausted
  | candidate :: rest => do
    let key ← occurrenceKey calendar schedule candidate
    if schedule.lastOccurrenceKey = some key then firstFresh schedule exhausted rest
    else return some candidate

/-- The instants after another one at which the clocks show a time of day, on some of the next days. -/
def calendarCandidates (after : Instant) (zone : Zone) (weekday : Option Weekday) (time : Int) : List Instant :=
  let startDate := calendar.toLocal zone after / day
  (List.range 15).filterMap fun (offset : Nat) =>
    let date := startDate + offset
    if weekday.any (fun expected => weekdayOf date ≠ expected) = true then none
    else (calendar.fromLocal zone (date * day + time)).earliest.filter fun candidate => after < candidate

def timeOfDay (schedule : AutomationSchedule Zone) : AppResult Int :=
  if schedule.scheduleType = "weekly" then
    (parseWeeklyExpression calendar (trim schedule.expression)).map Prod.snd
  else parseWallTime calendar (trim schedule.expression)

def nextCalendarRun (schedule : AutomationSchedule Zone) (after : Instant) (zone : Zone)
    (weekday : Option Weekday) : AppResult (Option Instant) := do
  let time ← timeOfDay calendar schedule
  firstFresh calendar schedule (.unavailable "日历任务在可检查范围内没有下一次执行时间")
    (calendarCandidates calendar after zone weekday time)

def nextRunAt (schedule : AutomationSchedule Zone) (after : Instant) : AppResult (Option Instant) :=
  if schedule.enabled = false then .ok none
  else do
    let zone ← parseTimeZone calendar schedule
    match schedule.scheduleType with
    | "once" => do
      let instant ← required (calendar.parseRfc3339 (trim schedule.expression))
        (.validation "一次执行时间必须是 RFC3339 时间")
      return if after < instant then some instant else none
    | "interval" => do
      let seconds ← required (parseI64 (trim schedule.expression)) (.validation "间隔必须是秒数")
      let base := (schedule.lastRunAt.filter fun value => after < value).getD after
      return some (base + seconds * second)
    | "daily" => nextCalendarRun calendar schedule after zone none
    | "weekly" => do
      let (weekday, _) ← parseWeeklyExpression calendar (trim schedule.expression)
      nextCalendarRun calendar schedule after zone (some weekday)
    | "cron" => do
      let parsed ← parseCron calendar (trim schedule.expression)
      firstFresh calendar schedule (.unavailable "Cron 在可检查范围内没有下一次执行时间")
        (calendar.upcoming parsed zone after 4096)
    | _ => .error (.validation "定时任务类型无效")

/-- A schedule with the last run of the one that is stored, if there is one. -/
def carryCursors (schedule : AutomationSchedule Zone) :
    Option (AutomationSchedule Zone) → AppResult (AutomationSchedule Zone)
  | some existing => do
    ensure (existing.id = schedule.id) (.validation "定时任务 ID 不匹配")
    return { schedule with
      lastRunAt := existing.lastRunAt
      lastOccurrenceKey := existing.lastOccurrenceKey }
  | none => .ok { schedule with lastRunAt := none, lastOccurrenceKey := none }

/-- A schedule as it is stored, in the place of the one of its id that there was. -/
def prepareScheduleForSave (schedule : AutomationSchedule Zone)
    (existing : Option (AutomationSchedule Zone)) (now : Instant) :
    AppResult (AutomationSchedule Zone) := do
  validateSchedule calendar schedule
  let schedule ← carryCursors schedule existing
  let next ← nextRunAt calendar schedule now
  ensure (¬(schedule.enabled = true ∧ next = none))
    (.validation "定时任务没有未来执行时间；请检查一次执行时间")
  return { schedule with nextRunAt := next }

/-- The value of a result that may be missing, where an error counts as missing. -/
def okFlatten (result : AppResult (Option Instant)) : Option Instant := result.toOption.join

def markRun (schedule : AutomationSchedule Zone) (now scheduledAt : Instant) : AutomationSchedule Zone :=
  { schedule with
    lastRunAt := some now
    lastOccurrenceKey := (occurrenceKey calendar schedule scheduledAt).toOption }

def advanceSchedule (schedule : AutomationSchedule Zone) (now scheduledAt : Instant) : AutomationSchedule Zone :=
  let ran := markRun calendar schedule now scheduledAt
  if schedule.scheduleType = "once" then { ran with enabled := false, nextRunAt := none }
  else { ran with nextRunAt := okFlatten (nextRunAt calendar ran now) }

/-- How late an occurrence may be that is skipped when it is missed. -/
def grace (schedule : AutomationSchedule Zone) : Int :=
  match schedule.scheduleType with
  | "interval" => ((parseU64 schedule.expression).getD 15 : Nat) * second
  | "daily" | "weekly" | "cron" => 120 * second
  | _ => 30 * second

/-- What a tick makes of one schedule. -/
structure Collected (Zone : Type) where
  schedule : AutomationSchedule Zone
  changed : Bool
  due : Bool

/-- What a tick makes of a schedule. -/
def collectDue (now : Instant) (schedule : AutomationSchedule Zone) : Collected Zone :=
  if schedule.enabled = false then ⟨schedule, false, false⟩
  else
    match schedule.nextRunAt with
    | none =>
      let next := okFlatten (nextRunAt calendar schedule now)
      let enabled := !(decide (schedule.scheduleType = "once") && next.isNone)
      ⟨{ schedule with nextRunAt := next, enabled := enabled }, true, false⟩
    | some scheduledAt =>
      if now < scheduledAt then ⟨schedule, false, false⟩
      else
        let due := schedule.misfirePolicy ≠ "skip" ∨ now - scheduledAt ≤ grace schedule
        ⟨advanceSchedule calendar schedule now scheduledAt, true, due⟩

def collectDuePlans (schedules : List (AutomationSchedule Zone)) (now : Instant) :
    List (AutomationSchedule Zone) × Bool × List (String × AutomationPlan) :=
  let collected := schedules.map (collectDue calendar now)
  (collected.map Collected.schedule, collected.any Collected.changed,
    (collected.filter Collected.due).map fun entry => (entry.schedule.id, entry.schedule.plan))

end Schedules

/-- A calendar without zones and occurrences. -/
def plainCalendar : Calendar Unit Unit :=
  ⟨fun _ => none, fun _ => none, fun _ => none, fun _ => .error "", fun _ => .ok (), fun _ instant => instant,
    fun _ _ => .none, fun _ _ => false, fun _ _ _ _ => []⟩

end Client

end CNShell
