import CNShell.Client.Occurrences
import CNShell.Client.Database
import CNShell.Library.Rewrite

/-! The stored list of schedules, and what the scheduler and the commands make of it at the same time. -/

namespace CNShell

namespace Client

open Rewrite (Shared)

section Operations

variable {Zone Cron : Type} [DecidableEq Zone]

abbrev Schedules (Zone : Type) := Option (List (AutomationSchedule Zone))

/-- What works on the list: a tick of the scheduler at some time, and the commands. -/
inductive ScheduleOp (Zone : Type)
  | tick (now : Instant)
  | save (schedule : AutomationSchedule Zone) (now : Instant)
  | delete (id : String)
  deriving DecidableEq

/-- What becomes of it: the plans that a tick runs, or what a command returns. -/
inductive ScheduleOutcome (Zone : Type)
  | ran (plans : List (String × AutomationPlan))
  | saved (schedule : AutomationSchedule Zone)
  | deleted
  | failed (error : AppError)
  deriving DecidableEq

/-- The list as it is stored, unless it is too long in bytes. -/
def saveSchedules (size : List (AutomationSchedule Zone) → Nat) (schedules : List (AutomationSchedule Zone)) :
    AppResult (List (AutomationSchedule Zone)) := do
  ensure (¬maxStateBytes < size schedules) (.validation "状态内容不能超过 1 MB")
  return schedules

/-- A tick of the scheduler; its plans only run once the list is stored. -/
def tickSchedules (calendar : Calendar Zone Cron) (size : List (AutomationSchedule Zone) → Nat)
    (now : Instant) : Schedules Zone → ScheduleOutcome Zone × Option (Schedules Zone)
  | none => (.ran [], none)
  | some schedules =>
    let (collected, changed, plans) := collectDuePlans calendar schedules now
    if changed = true then
      match saveSchedules size collected with
      | .ok stored => (.ran plans, some (some stored))
      | .error error => (.failed error, none)
    else (.ran plans, none)

/-- The list with a schedule in the place of the first one of its id, or at the end. -/
def putSchedule (schedule : AutomationSchedule Zone) :
    List (AutomationSchedule Zone) → List (AutomationSchedule Zone)
  | [] => [schedule]
  | item :: rest =>
    if item.id = schedule.id then schedule :: rest else item :: putSchedule schedule rest

/-- `automation_schedule_save`. -/
def automationScheduleSave (calendar : Calendar Zone Cron) (size : List (AutomationSchedule Zone) → Nat)
    (schedule : AutomationSchedule Zone) (now : Instant) (document : Schedules Zone) :
    AppResult (AutomationSchedule Zone × List (AutomationSchedule Zone)) := do
  let schedules := document.getD []
  let existing := schedules.find? fun item => item.id = schedule.id
  let schedule ← prepareScheduleForSave calendar schedule existing now
  let stored ← saveSchedules size (putSchedule schedule schedules)
  return (schedule, stored)

/-- `automation_schedule_delete`. -/
def automationScheduleDelete (size : List (AutomationSchedule Zone) → Nat) (id : String)
    (document : Schedules Zone) : AppResult (List (AutomationSchedule Zone)) :=
  saveSchedules size ((document.getD []).filter fun item => item.id ≠ id)

/-- What an operation makes of the list it has loaded: its outcome, and the list it stores. -/
def ScheduleOp.compute (calendar : Calendar Zone Cron) (size : List (AutomationSchedule Zone) → Nat) :
    ScheduleOp Zone → Schedules Zone → ScheduleOutcome Zone × Option (Schedules Zone)
  | .tick now => tickSchedules calendar size now
  | .save schedule now => fun document =>
    match automationScheduleSave calendar size schedule now document with
    | .ok (saved, stored) => (.saved saved, some (some stored))
    | .error error => (.failed error, none)
  | .delete id => fun document =>
    match automationScheduleDelete size id document with
    | .ok stored => (.deleted, some (some stored))
    | .error error => (.failed error, none)

/-- Any ticks and commands at once, on a stored list. -/
def schedulerSystem (calendar : Calendar Zone Cron) (size : List (AutomationSchedule Zone) → Nat)
    (document : Schedules Zone) :
    System (Shared (ScheduleOp Zone) (Schedules Zone)) (Rewrite.Event (ScheduleOp Zone)) :=
  Rewrite.system (ScheduleOp.compute calendar size) document

def held (document : Schedules Zone) (id : String) : Option (AutomationSchedule Zone) :=
  (document.getD []).find? fun item => item.id = id

/-- What nobody loses: the order of all operations, deletions, and what was saved last for an id. -/
structure NothingLost (calendar : Calendar Zone Cron) (size : List (AutomationSchedule Zone) → Nat)
    (document : Schedules Zone)
    (trace : List (Shared (ScheduleOp Zone) (Schedules Zone) × Rewrite.Event (ScheduleOp Zone)))
    (shared : Shared (ScheduleOp Zone) (Schedules Zone)) : Prop where
  serial : Rewrite.Serial (ScheduleOp.compute calendar size) document trace shared
  /-- A schedule that was deleted is not there unless it is saved again. -/
  deleted : ∀ before id after,
    Rewrite.history (ScheduleOp.compute calendar size) trace = before ++ (.delete id, .deleted) :: after →
      (∀ schedule now outcome, (ScheduleOp.save schedule now, outcome) ∈ after → schedule.id ≠ id) →
        held shared.document id = none
  /-- A schedule that was saved keeps its plan and its rule unless it is saved again or deleted. -/
  saved : ∀ before schedule now stored after,
    Rewrite.history (ScheduleOp.compute calendar size) trace =
        before ++ (.save schedule now, .saved stored) :: after →
      (∀ other now outcome, (ScheduleOp.save other now, outcome) ∈ after → other.id ≠ schedule.id) →
      (∀ outcome, (ScheduleOp.delete schedule.id, outcome) ∉ after) →
        ∃ item, held shared.document schedule.id = some item ∧ item.plan = stored.plan ∧ item.rule = stored.rule

section Steps

variable {calendar : Calendar Zone Cron} {size : List (AutomationSchedule Zone) → Nat}
variable {document : Schedules Zone} {id : String}

theorem saveSchedules_ok {schedules stored : List (AutomationSchedule Zone)}
    (done : saveSchedules size schedules = .ok stored) : stored = schedules := by
  obtain ⟨_, -, done⟩ := bind_eq_ok.mp done
  exact (pure_eq_ok.mp done).symm

theorem held_tick (calendar : Calendar Zone Cron) (size : List (AutomationSchedule Zone) → Nat)
    (document : Schedules Zone) (id : String) (now : Instant) :
    held (((ScheduleOp.tick now).compute calendar size document).2.getD document) id = held document id ∨
      held (((ScheduleOp.tick now).compute calendar size document).2.getD document) id =
        (held document id).map fun item => (collectDue calendar now item).schedule := by
  cases document with
  | none => exact .inl rfl
  | some schedules =>
    simp only [ScheduleOp.compute, tickSchedules]
    split
    · split
      · next stored done =>
        refine .inr ?_
        rw [saveSchedules_ok done]
        have ids : ((fun item : AutomationSchedule Zone => decide (item.id = id)) ∘
            fun item => (collectDue calendar now item).schedule) = fun item => decide (item.id = id) := by
          funext item
          simp [(plan_collectDue calendar now item).1]
        simp only [held, Option.getD_some, collectDuePlans, List.map_map, List.find?_map]
        exact congrArg (fun wanted => (schedules.find? wanted).map _) ids
      · exact .inl rfl
    · exact .inl rfl

theorem held_putSchedule (schedule : AutomationSchedule Zone) (schedules : List (AutomationSchedule Zone)) :
    held (some (putSchedule schedule schedules)) schedule.id = some schedule := by
  simp only [held, Option.getD_some]
  induction schedules with
  | nil => simp [putSchedule]
  | cons item rest ih =>
    by_cases same : item.id = schedule.id
    · simp [putSchedule, same]
    · simp [putSchedule, same, ih]

variable {schedule : AutomationSchedule Zone}

theorem held_putSchedule_ne (differs : schedule.id ≠ id) (schedules : List (AutomationSchedule Zone)) :
    held (some (putSchedule schedule schedules)) id = held (some schedules) id := by
  simp only [held, Option.getD_some]
  induction schedules with
  | nil => simp [putSchedule, differs]
  | cons item rest ih =>
    by_cases same : item.id = schedule.id
    · simp [putSchedule, same, differs]
    · rw [putSchedule, if_neg same, List.find?_cons, List.find?_cons, ih]

variable {now : Instant}

theorem id_prepareScheduleForSave {input prepared : AutomationSchedule Zone}
    {existing : Option (AutomationSchedule Zone)}
    (done : prepareScheduleForSave calendar input existing now = .ok prepared) : prepared.id = input.id := by
  obtain ⟨_, -, done⟩ := bind_eq_ok.mp done
  obtain ⟨carried, carries, done⟩ := bind_eq_ok.mp done
  obtain ⟨_, -, done⟩ := bind_eq_ok.mp done
  obtain ⟨_, -, done⟩ := bind_eq_ok.mp done
  obtain rfl := pure_eq_ok.mp done
  cases existing with
  | none =>
    obtain rfl := Except.ok.inj carries
    rfl
  | some existing =>
    obtain ⟨_, -, carries⟩ := bind_eq_ok.mp carries
    obtain rfl := pure_eq_ok.mp carries
    rfl

theorem automationScheduleSave_ok {saved : AutomationSchedule Zone} {stored : List (AutomationSchedule Zone)}
    (done : automationScheduleSave calendar size schedule now document = .ok (saved, stored)) :
    saved.id = schedule.id ∧ stored = putSchedule saved (document.getD []) := by
  obtain ⟨prepared, prepares, done⟩ := bind_eq_ok.mp done
  obtain ⟨_, saves, done⟩ := bind_eq_ok.mp done
  obtain ⟨rfl, rfl⟩ := Prod.mk.inj (pure_eq_ok.mp done)
  exact ⟨id_prepareScheduleForSave prepares, saveSchedules_ok saves⟩

theorem held_save (differs : schedule.id ≠ id) :
    held (((ScheduleOp.save schedule now).compute calendar size document).2.getD document) id = held document id := by
  simp only [ScheduleOp.compute]
  split
  · next saved stored done =>
    obtain ⟨same, rfl⟩ := automationScheduleSave_ok done
    have other : saved.id ≠ id := fun here => differs (same.symm.trans here)
    exact held_putSchedule_ne other _
  · rfl

theorem held_delete {other : String} (differs : other ≠ id) :
    held (((ScheduleOp.delete other).compute calendar size document).2.getD document) id = held document id := by
  simp only [ScheduleOp.compute]
  split
  · next stored done =>
    rw [saveSchedules_ok done]
    simp only [held, Option.getD_some, List.find?_filter]
    refine congrArg (fun wanted => (document.getD []).find? wanted) (funext fun item => ?_)
    by_cases here : item.id = id
    · simp [here, differs.symm]
    · simp [here]
  · rfl

variable {op : ScheduleOp Zone}

theorem held_none_compute (absent : held document id = none)
    (others : ∀ schedule now, op = .save schedule now → schedule.id ≠ id) :
    held ((op.compute calendar size document).2.getD document) id = none := by
  cases op with
  | tick now =>
    rcases held_tick calendar size document id now with same | same
    · rw [same, absent]
    · rw [same, absent]
      rfl
  | save schedule now =>
    rw [held_save (others schedule now rfl)]
    exact absent
  | delete other =>
    simp only [ScheduleOp.compute]
    split
    · next stored done =>
      rw [saveSchedules_ok done]
      simp only [held, Option.getD_some, List.find?_eq_none] at absent ⊢
      exact fun item member => absent item (List.mem_of_mem_filter member)
    · exact absent

theorem held_some_compute (calendar : Calendar Zone Cron)
    (size : List (AutomationSchedule Zone) → Nat) {item : AutomationSchedule Zone}
    (there : held document id = some item)
    (others : ∀ schedule now, op = .save schedule now → schedule.id ≠ id) (stays : op ≠ .delete id) :
    ∃ kept, held ((op.compute calendar size document).2.getD document) id = some kept ∧
      kept.plan = item.plan ∧ kept.rule = item.rule := by
  cases op with
  | tick now =>
    rcases held_tick calendar size document id now with same | same
    · exact ⟨item, same.trans there, rfl, rfl⟩
    · rw [same, there]
      exact ⟨_, rfl, (plan_collectDue calendar now item).2, rule_collectDue calendar now item⟩
  | save schedule now => exact ⟨item, (held_save (others schedule now rfl)).trans there, rfl, rfl⟩
  | delete other =>
    have differs : other ≠ id := fun same => stays (congrArg _ same)
    exact ⟨item, (held_delete differs).trans there, rfl, rfl⟩

end Steps

/--
Where every tick and command stores over the list it has loaded, nothing of them is lost.

They have their outcomes and leave the list as if they were executed in the order in which they end.
-/
theorem nothing_lost {calendar : Calendar Zone Cron} {size : List (AutomationSchedule Zone) → Nat}
    {document : Schedules Zone}
    {trace : List (Shared (ScheduleOp Zone) (Schedules Zone) × Rewrite.Event (ScheduleOp Zone))}
    {shared : Shared (ScheduleOp Zone) (Schedules Zone)}
    (run : (schedulerSystem calendar size document).Run trace shared)
    (unchanged : ∀ entry ∈ trace, Rewrite.Unchanged entry.1 entry.2) :
    NothingLost calendar size document trace shared where
  serial := .of_unchanged run unchanged
  deleted before id after finished others := by
    have replayed := Rewrite.serial_of_unchanged run unchanged
    rw [finished] at replayed
    refine Rewrite.replay_since (fun document => held document id = none) replayed
      (fun document done => ?_) fun entry member document absent => ?_
    · simp only [ScheduleOp.compute] at done ⊢
      split at done
      · next stored deleted =>
        rw [saveSchedules_ok deleted]
        simp [held, List.find?_filter]
      · cases done
    · refine held_none_compute absent fun schedule now same => ?_
      exact others schedule now entry.2 (by rw [← same]; exact member)
  saved before schedule now stored after finished others stays := by
    have replayed := Rewrite.serial_of_unchanged run unchanged
    rw [finished] at replayed
    refine Rewrite.replay_since (fun document => ∃ item, held document schedule.id = some item ∧
      item.plan = stored.plan ∧ item.rule = stored.rule) replayed (fun document done => ?_)
      fun entry member document kept => ?_
    · simp only [ScheduleOp.compute] at done ⊢
      split at done
      · next saved list saves =>
        obtain rfl : saved = stored := by simpa using done
        obtain ⟨same, rfl⟩ := automationScheduleSave_ok saves
        rw [← same]
        exact ⟨saved, held_putSchedule saved _, rfl, rfl⟩
      · cases done
    · obtain ⟨item, there, plan, rule⟩ := kept
      obtain ⟨kept, held, plan', rule'⟩ := held_some_compute calendar size there
        (fun other now same => others other now entry.2 (by rw [← same]; exact member))
        (fun same => stays entry.2 (by rw [← same]; exact member))
      exact ⟨kept, held, plan'.trans plan, rule'.trans rule⟩

end Operations

namespace Demo

def everyMinute : AutomationSchedule Unit := { scheduled "interval" "60" with nextRunAt := some setBack }

/-- The schedule is deleted after the tick has loaded the list and before the tick stores it. -/
def overlapping : List (Rewrite.Event (ScheduleOp Unit)) :=
  [.start (.tick setBack), .load 0, .start (.delete "schedule"), .load 1, .store 1, .store 0]

/-- No order of the tick and the deletion leaves the schedule that is stored. -/
theorem deleted_reappears : ¬∀ (Zone Cron : Type) [DecidableEq Zone] (calendar : Calendar Zone Cron)
    (size : List (AutomationSchedule Zone) → Nat) (document : Schedules Zone),
    ∀ trace shared, (schedulerSystem calendar size document).Run trace shared →
      Rewrite.Serial (ScheduleOp.compute calendar size) document trace shared := by
  intro always
  let compute := ScheduleOp.compute newYork fun _ => 0
  have goes : ∃ trace shared, System.trail (Rewrite.step compute) ⟨some [everyMinute], []⟩ overlapping =
      some (trace, shared) ∧
      (Rewrite.history compute trace).map Prod.fst = [.delete "schedule", .tick setBack] ∧
      held shared.document "schedule" ≠ none := ⟨_, _, rfl, by decide, by decide⟩
  obtain ⟨trace, shared, trail, ops, kept⟩ := goes
  have run : (schedulerSystem newYork (fun _ => 0) (some [everyMinute])).Run trace shared :=
    System.Run.trail (.start rfl : (schedulerSystem newYork (fun _ => 0) (some [everyMinute])).Run [] _) trail
  obtain ⟨order, results, left⟩ := always Unit Unit newYork (fun _ => 0) (some [everyMinute]) trace shared run
  have same : order.Perm [.delete "schedule", .tick setBack] := by
    have renamed := results.map Prod.fst
    rwa [Rewrite.map_fst_replay, ops] at renamed
  -- In either order the deletion has the last word on the schedule.
  have either : order = [.delete "schedule", .tick setBack] ∨ order = [.tick setBack, .delete "schedule"] := by
    obtain ⟨first, second, rfl⟩ := List.length_eq_two.mp same.length_eq
    rcases List.mem_pair.mp (same.subset List.mem_cons_self) with rfl | rfl
    · obtain rfl := List.singleton_perm_singleton.mp same.cons_inv
      exact .inl rfl
    · obtain rfl := List.singleton_perm_singleton.mp (same.trans (.swap _ _ [])).cons_inv
      exact .inr rfl
  have gone : held (Rewrite.replay compute (some [everyMinute]) order).2 "schedule" = none := by
    rcases either with rfl | rfl <;> decide
  rw [left] at gone
  exact kept gone

/-- A deletion after the tick has stored the list leaves no schedule. -/
theorem nothing_lost_after : ∃ trace shared,
    (schedulerSystem newYork (fun _ => 0) (some [everyMinute])).Run trace shared ∧
      held shared.document "schedule" = none ∧
      NothingLost newYork (fun _ => 0) (some [everyMinute]) trace shared := by
  let events : List (Rewrite.Event (ScheduleOp Unit)) :=
    [.start (.tick setBack), .load 0, .store 0, .start (.delete "schedule"), .load 1, .store 1]
  let compute := ScheduleOp.compute newYork fun _ => 0
  have goes : ∃ trace shared, System.trail (Rewrite.step compute) ⟨some [everyMinute], []⟩ events =
      some (trace, shared) ∧ held shared.document "schedule" = none ∧
      ∀ entry ∈ trace, Rewrite.Unchanged entry.1 entry.2 := ⟨_, _, rfl, by decide, by decide⟩
  obtain ⟨trace, shared, trail, gone, unchanged⟩ := goes
  have run : (schedulerSystem newYork (fun _ => 0) (some [everyMinute])).Run trace shared :=
    System.Run.trail (.start rfl : (schedulerSystem newYork (fun _ => 0) (some [everyMinute])).Run [] _) trail
  exact ⟨trace, shared, run, gone, nothing_lost run unchanged⟩

end Demo

end Client

end CNShell
