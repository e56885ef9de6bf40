import CNShell.Client.Occurrences
import CNShell.Library.Words

/-! Schedules whose expressions have blanks at their ends, beside the ones without. -/

namespace CNShell

namespace Client

/-- The schedule without blanks around its expression. -/
def AutomationSchedule.trimmed {Zone : Type} (schedule : AutomationSchedule Zone) : AutomationSchedule Zone :=
  { schedule with expression := trim schedule.expression }

section Rules

variable {Zone Cron : Type} [DecidableEq Zone] (calendar : Calendar Zone Cron)

theorem firstFresh_trimmed (schedule : AutomationSchedule Zone) (exhausted : AppError) (candidates : List Instant) :
    firstFresh calendar schedule.trimmed exhausted candidates =
      firstFresh calendar schedule exhausted candidates := by
  induction candidates with
  | nil => rfl
  | cons candidate rest ih =>
    rw [firstFresh, firstFresh, ih]
    rfl

theorem nextRunAt_trimmed (schedule : AutomationSchedule Zone) (after : Instant) :
    nextRunAt calendar schedule.trimmed after = nextRunAt calendar schedule after := by
  have time : timeOfDay calendar schedule.trimmed = timeOfDay calendar schedule := by
    simp [timeOfDay, AutomationSchedule.trimmed]
  have daily : ∀ zone weekday, nextCalendarRun calendar schedule.trimmed after zone weekday =
      nextCalendarRun calendar schedule after zone weekday := by
    intro zone weekday
    simp only [nextCalendarRun, time, firstFresh_trimmed]
  simp only [nextRunAt, daily, firstFresh_trimmed]
  simp only [AutomationSchedule.trimmed, trim_trim]
  rfl

theorem advanceSchedule_trimmed (schedule : AutomationSchedule Zone) (now scheduledAt : Instant) :
    advanceSchedule calendar schedule.trimmed now scheduledAt =
      (advanceSchedule calendar schedule now scheduledAt).trimmed := by
  have ran : markRun calendar schedule.trimmed now scheduledAt =
      (markRun calendar schedule now scheduledAt).trimmed := rfl
  unfold advanceSchedule
  simp only [ran, nextRunAt_trimmed]
  by_cases once : schedule.scheduleType = "once"
  · simp [AutomationSchedule.trimmed, once]
  · simp [AutomationSchedule.trimmed, once]

theorem collectDue_trimmed (schedule : AutomationSchedule Zone) (now : Instant) :
    (collectDue calendar now schedule.trimmed).schedule = (collectDue calendar now schedule).schedule.trimmed ∧
      (collectDue calendar now schedule.trimmed).changed = (collectDue calendar now schedule).changed := by
  have planned : schedule.trimmed.nextRunAt = schedule.nextRunAt := rfl
  have enabled : schedule.trimmed.enabled = schedule.enabled := rfl
  unfold collectDue
  rw [enabled, planned, nextRunAt_trimmed]
  split
  · exact ⟨rfl, rfl⟩
  · cases schedule.nextRunAt with
    | none => exact ⟨rfl, rfl⟩
    | some scheduledAt =>
      by_cases early : now < scheduledAt
      · simp [early]
      · simp [early, advanceSchedule_trimmed]

/--
Where the blanks count: an enabled interval schedule that skips what it missed has them, and its occurrence is
late by more than one and not by more than the other of 15 seconds, which is what the blanks make of the
interval, and the interval itself.
-/
structure LateBetween (schedule : AutomationSchedule Zone) (now : Instant) : Prop where
  enabled : schedule.enabled = true
  interval : schedule.scheduleType = "interval"
  skips : schedule.misfirePolicy = "skip"
  blanks : trim schedule.expression ≠ schedule.expression
  late : ∃ scheduledAt seconds, schedule.nextRunAt = some scheduledAt ∧ scheduledAt ≤ now ∧
    parseU64 (trim schedule.expression) = some seconds ∧
    ¬(now - scheduledAt ≤ 15 * second ↔ now - scheduledAt ≤ seconds * second)

/-- A schedule means the same as the trimmed one, alone and at a place among others at a tick. -/
structure SameTrimmed (schedule : AutomationSchedule Zone) (front back : List (AutomationSchedule Zone))
    (now : Instant) : Prop where
  next : nextRunAt calendar schedule.trimmed now = nextRunAt calendar schedule now
  cursors : (collectDuePlans calendar (front ++ schedule.trimmed :: back) now).1 =
    (collectDuePlans calendar (front ++ schedule :: back) now).1.modify front.length AutomationSchedule.trimmed
  changed : (collectDuePlans calendar (front ++ schedule.trimmed :: back) now).2.1 =
    (collectDuePlans calendar (front ++ schedule :: back) now).2.1
  due : (collectDuePlans calendar (front ++ schedule.trimmed :: back) now).2.2 =
    (collectDuePlans calendar (front ++ schedule :: back) now).2.2

variable {calendar}

omit [DecidableEq Zone] in
theorem grace_trimmed (schedule : AutomationSchedule Zone)
    (other : schedule.scheduleType ≠ "interval" ∨ trim schedule.expression = schedule.expression) :
    grace schedule.trimmed = grace schedule := by
  rcases other with other | same
  · have apart : ∀ shown : AutomationSchedule Zone, shown.scheduleType = schedule.scheduleType →
        grace shown = if schedule.scheduleType ∈ wallTypes then 120 * second else 30 * second := by
      intro shown alike
      unfold grace
      rw [alike]
      split <;> simp_all [wallTypes]
    rw [apart schedule.trimmed rfl, apart schedule rfl]
  · rw [AutomationSchedule.trimmed, same]

omit [DecidableEq Zone] in
theorem grace_blanks {schedule : AutomationSchedule Zone} {seconds : Nat}
    (interval : schedule.scheduleType = "interval") (blanks : trim schedule.expression ≠ schedule.expression)
    (read : parseU64 (trim schedule.expression) = some seconds) :
    grace schedule = 15 * second ∧ grace schedule.trimmed = seconds * second := by
  have unread : parseU64 schedule.expression = none :=
    Option.eq_none_iff_forall_ne_some.mpr fun number found => blanks (trim_of_parseU64 found)
  have alike : schedule.trimmed.scheduleType = "interval" := interval
  have shorter : schedule.trimmed.expression = trim schedule.expression := rfl
  constructor
  · simp [grace, interval, unread]
  · simp [grace, alike, shorter, read]

omit [DecidableEq Zone] in

variable {schedule : AutomationSchedule Zone}

theorem interval_of_validateSchedule {u : Unit}
    (validated : validateSchedule calendar schedule = .ok u) (interval : schedule.scheduleType = "interval") :
    ∃ seconds, parseU64 (trim schedule.expression) = some seconds := by
  obtain ⟨_, -, validated⟩ := bind_eq_ok.mp validated
  obtain ⟨_, -, validated⟩ := bind_eq_ok.mp validated
  obtain ⟨_, -, validated⟩ := bind_eq_ok.mp validated
  obtain ⟨_, -, validated⟩ := bind_eq_ok.mp validated
  obtain ⟨_, -, validated⟩ := bind_eq_ok.mp validated
  obtain ⟨_, -, validated⟩ := bind_eq_ok.mp validated
  rw [interval, validateExpression] at validated
  obtain ⟨seconds, read, -⟩ := bind_eq_ok.mp validated
  exact ⟨seconds, required_eq_ok.mp read⟩

theorem due_collectDue {schedule : AutomationSchedule Zone} {now scheduledAt : Instant}
    (enabled : schedule.enabled = true) (planned : schedule.nextRunAt = some scheduledAt)
    (passed : scheduledAt ≤ now) : (collectDue calendar now schedule).due =
      decide (schedule.misfirePolicy ≠ "skip" ∨ now - scheduledAt ≤ grace schedule) := by
  simp [collectDue, enabled, planned, not_lt.mpr passed]

/-- Both schedules are due or neither is, but for the ones where the blanks count. -/
theorem due_trimmed {u : Unit} (now : Instant) (validated : validateSchedule calendar schedule = .ok u) :
    (collectDue calendar now schedule.trimmed).due = (collectDue calendar now schedule).due ↔
      ¬LateBetween schedule now := by
  by_cases ripe : schedule.enabled = true ∧ ∃ scheduledAt, schedule.nextRunAt = some scheduledAt ∧ scheduledAt ≤ now
  · obtain ⟨enabled, scheduledAt, planned, passed⟩ := ripe
    have trimmed := @due_collectDue _ _ _ calendar schedule.trimmed now scheduledAt enabled planned passed
    rw [due_collectDue enabled planned passed, trimmed]
    by_cases counts : schedule.scheduleType = "interval" ∧ schedule.misfirePolicy = "skip" ∧
        trim schedule.expression ≠ schedule.expression
    · obtain ⟨interval, skips, blanks⟩ := counts
      obtain ⟨seconds, read⟩ := interval_of_validateSchedule validated interval
      obtain ⟨short, long⟩ := grace_blanks interval blanks read
      have skips' : schedule.trimmed.misfirePolicy = "skip" := skips
      rw [skips, skips', short, long]
      simp only [ne_eq, not_true_eq_false, false_or, decide_eq_decide]
      constructor
      · rintro same ⟨-, -, -, -, _, _, planned', -, read', differs⟩
        obtain rfl := Option.some.inj (planned.symm.trans planned')
        obtain rfl := Option.some.inj (read.symm.trans read')
        exact differs same.symm
      · intro fine
        by_contra differs
        exact fine ⟨enabled, interval, skips, blanks, scheduledAt, seconds, planned, passed, read,
          fun same => differs same.symm⟩
    · refine iff_of_true ?_ fun late => counts ⟨late.interval, late.skips, late.blanks⟩
      by_cases skips : schedule.misfirePolicy = "skip"
      · rw [grace_trimmed schedule (by tauto)]
        rfl
      · have skips' : schedule.trimmed.misfirePolicy ≠ "skip" := skips
        simp [skips, skips']
  · refine iff_of_true ?_ fun late => ?_
    · -- Neither is due before its time.
      have idle : ∀ shown : AutomationSchedule Zone, shown.enabled = schedule.enabled →
          shown.nextRunAt = schedule.nextRunAt → (collectDue calendar now shown).due = false := by
        intro shown same same'
        unfold collectDue
        rw [same, same']
        split
        · rfl
        · next enabled =>
          cases planned : schedule.nextRunAt with
          | none => rfl
          | some scheduledAt =>
            have early : now < scheduledAt := not_le.mp fun passed =>
              ripe ⟨by simpa using enabled, scheduledAt, planned, passed⟩
            simp [early]
      rw [idle schedule.trimmed rfl rfl, idle schedule rfl rfl]
    · obtain ⟨scheduledAt, _, planned, passed, -⟩ := late.late
      exact ripe ⟨late.enabled, scheduledAt, planned, passed⟩

theorem modify_append_cons {α : Type} (front back : List α) (middle : α) (change : α → α) :
    (front ++ middle :: back).modify front.length change = front ++ change middle :: back := by
  induction front with
  | nil => rfl
  | cons first rest ih => simpa using ih

/--
A schedule that may be stored means the same as the trimmed one just where the blanks do not count.

The schedule may be at any place of the list that a tick goes through.
-/
theorem sameTrimmed_iff {schedule : AutomationSchedule Zone} {u : Unit}
    (validated : validateSchedule calendar schedule = .ok u) (front back : List (AutomationSchedule Zone))
    (now : Instant) : SameTrimmed calendar schedule front back now ↔ ¬LateBetween schedule now := by
  obtain ⟨moved, changed⟩ := collectDue_trimmed calendar schedule now
  rw [← due_trimmed now validated]
  constructor
  · rintro ⟨-, -, -, due⟩
    -- The plans before and after it are the same, so the schedule adds one to both lists or to neither.
    by_contra differs
    have longer := congrArg List.length due
    simp only [collectDuePlans, List.map_append, List.map_cons, List.filter_append, List.length_append,
      List.length_map, List.filter_cons] at longer
    cases here : (collectDue calendar now schedule.trimmed).due <;>
      cases there : (collectDue calendar now schedule).due <;> simp_all
  · intro due
    refine ⟨nextRunAt_trimmed calendar schedule now, ?_, ?_, ?_⟩
    · have place : front.length = ((front.map (collectDue calendar now)).map Collected.schedule).length := by simp
      simp only [collectDuePlans, List.map_append, List.map_cons, moved]
      rw [place, modify_append_cons]
    · simp [collectDuePlans, changed]
    · have plan : ∀ shown : AutomationSchedule Zone,
          (shown.trimmed.id, shown.trimmed.plan) = (shown.id, shown.plan) := fun _ => rfl
      simp only [collectDuePlans, List.map_append, List.map_cons, List.filter_append, List.filter_cons, due]
      split <;> simp [moved, plan]

end Rules

namespace Demo

/-- An interval of a minute with blanks around it, whose missed runs are skipped. -/
def minuteWithBlanks : AutomationSchedule Unit :=
  { scheduled "interval" " 60 " with misfirePolicy := "skip", nextRunAt := some setBack }

/-- Forty seconds late the schedule with the blanks is not run, and the trimmed one is. -/
theorem blanks_skip : ¬∀ (Zone Cron : Type) [DecidableEq Zone] (calendar : Calendar Zone Cron)
    (schedule : AutomationSchedule Zone), validateSchedule calendar schedule = .ok () →
      ∀ (front back : List (AutomationSchedule Zone)) (now : Instant),
        SameTrimmed calendar schedule front back now := by
  intro always
  have same := (always Unit Unit newYork minuteWithBlanks (by decide) [] [] (setBack + 40 * second)).due
  revert same
  decide

/-- Ten seconds late both are run. -/
theorem sameTrimmed_punctual : SameTrimmed newYork minuteWithBlanks [] [] (setBack + 10 * second) := by
  have validated : validateSchedule newYork minuteWithBlanks = .ok () := by decide
  refine (sameTrimmed_iff validated [] [] _).mpr fun late => ?_
  obtain ⟨scheduledAt, seconds, planned, -, read, differs⟩ := late.late
  obtain rfl : setBack = scheduledAt := Option.some.inj planned
  have minute : parseU64 (trim minuteWithBlanks.expression) = some 60 := by decide
  obtain rfl : 60 = seconds := Option.some.inj (minute.symm.trans read)
  exact differs (by decide)

end Demo

end Client

end CNShell
