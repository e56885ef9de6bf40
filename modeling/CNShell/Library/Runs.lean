import CNShell.Library.Program

/-! Runs of a program on a store of its own where any action may fail. -/

namespace CNShell

/--
What may come of an action: it is performed, it is refused, or it fails halfway.

Nothing keeps an action from being refused; what is left halfway is up to the damage it can do.
-/
inductive Happens {Act : Type → Type u} {ε : Type} {σ : Type v} (sem : Semantics Act ε σ)
    (damage : (β : Type) → Act β → σ → σ → Prop) {β : Type} (action : Act β) (store : σ) :
    Except ε β → σ → Prop
  | performed {value : β} {next : σ} (ran : sem.run action store = .ok (value, next)) :
      Happens sem damage action store (.ok value) next
  | refused (error : ε) : Happens sem damage action store (.error error) store
  | halfway (error : ε) {next : σ} (left : damage β action store next) :
      Happens sem damage action store (.error error) next

namespace Program

variable {Act : Type → Type u} {ε : Type} {σ : Type v} {α β : Type}

/-- A program whose error is a value for the program that goes on. -/
def caught : Program Act ε α → Program Act ε (Except ε α)
  | .done result => .done (.ok result)
  | .step action next => .step action fun outcome => (next outcome).caught

variable {allowed : (β : Type) → Act β → Prop}

theorem Only.caught {program : Program Act ε α} (whole : Only allowed program) : Only allowed program.caught := by
  induction whole with
  | done result => exact .done _
  | step permitted _ ih => exact .step permitted ih

/-- A program that is only performed under a condition. -/
def given (condition : Prop) [Decidable condition] (program : Program Act ε Unit) : Program Act ε Unit :=
  if condition then program else pure ()

variable {condition : Prop}

theorem given_of [Decidable condition] (holds : condition) (program : Program Act ε Unit) :
    given condition program = program := if_pos holds

theorem given_of_not [Decidable condition] (fails : ¬condition)
    (program : Program Act ε Unit) : given condition program = pure () := if_neg fails

theorem Only.given [Decidable condition]
    {program : Program Act ε Unit} (whole : condition → Only allowed program) :
    Only allowed (given condition program) := by
  unfold Program.given
  split
  · next holds => exact whole holds
  · exact .pure ()

/-- A run of a program: what it did in order, its result and the store it left. -/
inductive Runs (sem : Semantics Act ε σ) (damage : (β : Type) → Act β → σ → σ → Prop) :
    Program Act ε α → σ → List (Event Act ε) → Except ε α → σ → Prop
  | done (result : Except ε α) (store : σ) : Runs sem damage (.done result) store [] result store
  | step {β : Type} {action : Act β} {next : Except ε β → Program Act ε α} {store middle last : σ}
      {outcome : Except ε β} {log : List (Event Act ε)} {result : Except ε α}
      (first : Happens sem damage action store outcome middle)
      (rest : Runs sem damage (next outcome) middle log result last) :
      Runs sem damage (.step action next) store (⟨action, outcome⟩ :: log) result last

section Runs

variable {sem : Semantics Act ε σ} {damage : (β : Type) → Act β → σ → σ → Prop}
  {store last : σ} {log : List (Event Act ε)}

theorem runs_done {result found : Except ε α} :
    (Program.done result : Program Act ε α).Runs sem damage store log found last ↔
      log = [] ∧ found = result ∧ last = store := by
  constructor
  · intro run
    cases run
    exact ⟨rfl, rfl, rfl⟩
  · rintro ⟨rfl, rfl, rfl⟩
    exact .done _ _

theorem runs_step {action : Act β} {next : Except ε β → Program Act ε α} {found : Except ε α} :
    (Program.step action next).Runs sem damage store log found last ↔
      ∃ outcome middle rest, Happens sem damage action store outcome middle ∧
        (next outcome).Runs sem damage middle rest found last ∧ log = ⟨action, outcome⟩ :: rest := by
  constructor
  · intro run
    cases run with
    | step first rest => exact ⟨_, _, _, first, rest, rfl⟩
  · rintro ⟨outcome, middle, rest, first, others, rfl⟩
    exact .step first others

theorem runs_lift {result found : Except ε α} :
    (lift result : Program Act ε α).Runs sem damage store log found last ↔
      log = [] ∧ found = result ∧ last = store := runs_done

variable {value : α}

theorem runs_pure {found : Except ε α} : (pure value : Program Act ε α).Runs sem damage store log found last ↔
      log = [] ∧ found = .ok value ∧ last = store := runs_done

variable {action : Act α}

theorem runs_perform {found : Except ε α} : (perform action : Program Act ε α).Runs sem damage store log found last ↔
      log = [⟨action, found⟩] ∧ Happens sem damage action store found last := by
  constructor
  · intro run
    obtain ⟨outcome, middle, rest, first, ending, rfl⟩ := runs_step.mp run
    obtain ⟨rfl, rfl, rfl⟩ := runs_done.mp ending
    exact ⟨rfl, first⟩
  · rintro ⟨rfl, first⟩
    exact .step first (.done _ _)

variable {found : Except ε β} {following : α → Program Act ε β}

variable {program : Program Act ε α}

theorem runs_bind : (program >>= following).Runs sem damage store log found last ↔
      (∃ error, program.Runs sem damage store log (.error error) last ∧ found = .error error) ∨
      ∃ value before middle after, program.Runs sem damage store before (.ok value) middle ∧
        (following value).Runs sem damage middle after found last ∧ log = before ++ after := by
  show (program.bind following).Runs sem damage store log found last ↔ _
  -- The induction is on the first program; its own actions come first on both sides.
  induction program generalizing store log with
  | done result =>
    cases result with
    | ok value =>
      simp only [Program.bind, runs_done]
      constructor
      · exact fun run => .inr ⟨value, [], store, log, ⟨rfl, rfl, rfl⟩, run, rfl⟩
      · rintro (⟨error, ⟨-, differ, -⟩, -⟩ | ⟨found, before, middle, after, ⟨rfl, same, rfl⟩, run, rfl⟩)
        · cases differ
        · obtain rfl := Except.ok.inj same
          exact run
    | error error =>
      simp only [Program.bind, runs_done]
      constructor
      · rintro ⟨rfl, rfl, rfl⟩
        exact .inl ⟨error, ⟨rfl, rfl, rfl⟩, rfl⟩
      · rintro (⟨found, ⟨rfl, same, rfl⟩, rfl⟩ | ⟨found, before, middle, after, ⟨-, differ, -⟩, -⟩)
        · obtain rfl := Except.error.inj same
          exact ⟨rfl, rfl, rfl⟩
        · cases differ
  | step action next ih =>
    constructor
    · intro run
      obtain ⟨outcome, between, rest, first, others, rfl⟩ := runs_step.mp run
      rcases (ih _).mp others with ⟨error, one, rfl⟩ | ⟨value, before, middle, after, one, more, rfl⟩
      · exact .inl ⟨error, .step first one, rfl⟩
      · exact .inr ⟨value, _ :: before, middle, after, .step first one, more, rfl⟩
    · rintro (⟨error, run, rfl⟩ | ⟨value, before, middle, after, run, more, rfl⟩)
      · obtain ⟨outcome, between, rest, first, others, rfl⟩ := runs_step.mp run
        exact .step first ((ih _).mpr (.inl ⟨error, others, rfl⟩))
      · obtain ⟨outcome, between, rest, first, others, rfl⟩ := runs_step.mp run
        exact .step first ((ih _).mpr (.inr ⟨value, _, middle, after, others, more, rfl⟩))

theorem Runs.bind_cases (run : (program >>= following).Runs sem damage store log found last) :
    (∃ error, program.Runs sem damage store log (.error error) last ∧ found = .error error) ∨
      ∃ value before middle after, program.Runs sem damage store before (.ok value) middle ∧
        (following value).Runs sem damage middle after found last ∧ log = before ++ after := runs_bind.mp run

theorem Runs.bind_ok {result : β} (run : (program >>= following).Runs sem damage store log (.ok result) last) :
    ∃ value before middle after, program.Runs sem damage store before (.ok value) middle ∧
      (following value).Runs sem damage middle after (.ok result) last ∧ log = before ++ after := by
  rcases run.bind_cases with ⟨error, -, differ⟩ | whole
  · cases differ
  · exact whole

theorem Runs.perform_ok (run : (perform action).Runs sem damage store log (.ok value) last) :
    sem.run action store = .ok (value, last) := by
  obtain ⟨-, happens⟩ := runs_perform.mp run
  cases happens with
  | performed ran => exact ran

theorem Runs.perform_bind (run : (perform action >>= following).Runs sem damage store log found last) :
    (∃ error, Happens sem damage action store (.error error) last ∧ log = [⟨action, .error error⟩] ∧
      found = .error error) ∨
    ∃ value middle rest, Happens sem damage action store (.ok value) middle ∧
      (following value).Runs sem damage middle rest found last ∧ log = ⟨action, .ok value⟩ :: rest := by
  rcases run.bind_cases with ⟨error, one, same⟩ | ⟨value, before, middle, after, one, rest, same⟩
  · obtain ⟨only, happens⟩ := runs_perform.mp one
    exact .inl ⟨error, happens, only, same⟩
  · obtain ⟨rfl, happens⟩ := runs_perform.mp one
    exact .inr ⟨value, middle, after, happens, rest, same⟩

variable {checked : Except ε α}

theorem Runs.lift_bind (run : (lift checked >>= following).Runs sem damage store log found last) :
    (∃ error, checked = .error error ∧ log = [] ∧ found = .error error ∧ last = store) ∨
    ∃ value, checked = .ok value ∧ (following value).Runs sem damage store log found last := by
  rcases run.bind_cases with ⟨error, one, same⟩ | ⟨value, before, middle, after, one, rest, same⟩
  · obtain ⟨only, fails, still⟩ := runs_lift.mp one
    exact .inl ⟨error, fails.symm, only, same, still⟩
  · obtain ⟨rfl, passes, rfl⟩ := runs_lift.mp one
    obtain rfl : log = after := by simpa using same
    exact .inr ⟨value, passes.symm, rest⟩

theorem Runs.of_lift
    (run : (lift checked >>= following).Runs sem damage store log found last) (passes : checked = .ok value) :
    (following value).Runs sem damage store log found last := by
  subst passes
  exact run

variable {program : Program Act ε α}

theorem runs_caught {found : Except ε (Except ε α)} :
    program.caught.Runs sem damage store log found last ↔
      ∃ result, program.Runs sem damage store log result last ∧ found = .ok result := by
  induction program generalizing store log with
  | done result =>
    simp only [caught, runs_done]
    constructor
    · rintro ⟨rfl, rfl, rfl⟩
      exact ⟨result, ⟨rfl, rfl, rfl⟩, rfl⟩
    · rintro ⟨other, ⟨rfl, rfl, rfl⟩, rfl⟩
      exact ⟨rfl, rfl, rfl⟩
  | step action next ih =>
    constructor
    · intro run
      obtain ⟨outcome, middle, rest, first, others, rfl⟩ := runs_step.mp run
      obtain ⟨result, run, same⟩ := (ih _).mp others
      exact ⟨result, .step first run, same⟩
    · rintro ⟨result, run, rfl⟩
      obtain ⟨outcome, middle, rest, first, others, rfl⟩ := runs_step.mp run
      exact .step first ((ih _).mpr ⟨result, others, rfl⟩)

theorem runs_ignore {found : Except ε Unit} :
    program.ignore.Runs sem damage store log found last ↔
      ∃ result, program.Runs sem damage store log result last ∧ found = .ok () := by
  induction program generalizing store log with
  | done result =>
    simp only [ignore, runs_done]
    constructor
    · rintro ⟨rfl, rfl, rfl⟩
      exact ⟨result, ⟨rfl, rfl, rfl⟩, rfl⟩
    · rintro ⟨other, ⟨rfl, rfl, rfl⟩, rfl⟩
      exact ⟨rfl, rfl, rfl⟩
  | step action next ih =>
    constructor
    · intro run
      obtain ⟨outcome, middle, rest, first, others, rfl⟩ := runs_step.mp run
      obtain ⟨result, run, same⟩ := (ih _).mp others
      exact ⟨result, .step first run, same⟩
    · rintro ⟨result, run, rfl⟩
      obtain ⟨outcome, middle, rest, first, others, rfl⟩ := runs_step.mp run
      exact .step first ((ih _).mpr ⟨result, others, rfl⟩)

/--
A property of what was done so far and the store holds after a run that keeps it at each step.

What was done `before` the run is part of it, so that a program's parts can be taken in turn.
-/
theorem Runs.history {ok : Event Act ε → Prop} (holds : List (Event Act ε) → σ → Prop)
    (keeps : ∀ log store next (event : Event Act ε), ok event → holds log store →
      Happens sem damage event.action store event.outcome next → holds (log ++ [event]) next)
    {program : Program Act ε α} {before : List (Event Act ε)} {found : Except ε α}
    (run : program.Runs sem damage store log found last) (all : ∀ event ∈ log, ok event)
    (start : holds before store) : holds (before ++ log) last := by
  induction run generalizing before with
  | done result store => simpa using start
  | step first rest ih =>
    obtain ⟨good, others⟩ := List.forall_mem_cons.mp all
    simpa using ih others (keeps _ _ _ _ good start first)

theorem Runs.keeps {ok : Event Act ε → Prop} (holds : σ → Prop)
    (keeps : ∀ store next (event : Event Act ε), ok event → holds store →
      Happens sem damage event.action store event.outcome next → holds next)
    {program : Program Act ε α} {found : Except ε α}
    (run : program.Runs sem damage store log found last) (all : ∀ event ∈ log, ok event)
    (start : holds store) : holds last :=
  @Runs.history Act ε σ α sem damage store last log ok (fun _ store => holds store)
    (fun _ store next event good before happens => keeps store next event good before happens)
    program [] found run all start

variable {allowed : (β : Type) → Act β → Prop}

variable {program : Program Act ε α}

theorem Runs.permits {found : Except ε α} (run : program.Runs sem damage store log found last)
    (only : program.Only allowed) : ∀ event ∈ log, allowed event.β event.action := by
  induction run with
  | done result store => simp
  | step first rest ih =>
    cases only with
    | step permitted others => exact List.forall_mem_cons.mpr ⟨permitted, ih (others _)⟩

theorem Runs.caught_then {following : Except ε α → Program Act ε β}
    (run : (program.caught >>= following).Runs sem damage store log found last) :
    ∃ result before middle after, program.Runs sem damage store before result middle ∧
      (following result).Runs sem damage middle after found last ∧ log = before ++ after := by
  rcases run.bind_cases with ⟨error, one, -⟩ | ⟨value, before, middle, after, one, rest, same⟩
  · obtain ⟨result, -, differ⟩ := runs_caught.mp one
    cases differ
  · obtain ⟨result, performed, found⟩ := runs_caught.mp one
    obtain rfl := Except.ok.inj found
    exact ⟨value, before, middle, after, performed, rest, same⟩

theorem Runs.caught_bind {following : Except ε α → Program Act ε β}
    (run : (caught (perform action) >>= following).Runs sem damage store log found last) :
    ∃ outcome middle rest, Happens sem damage action store outcome middle ∧
      (following outcome).Runs sem damage middle rest found last ∧ log = ⟨action, outcome⟩ :: rest := by
  obtain ⟨outcome, before, middle, after, one, rest, rfl⟩ := run.caught_then
  obtain ⟨rfl, happens⟩ := runs_perform.mp one
  exact ⟨outcome, middle, after, happens, rest, rfl⟩

theorem Runs.ignore_bind {following : Unit → Program Act ε β}
    (run : (program.ignore >>= following).Runs sem damage store log found last) :
    ∃ result before middle after, program.Runs sem damage store before result middle ∧
      (following ()).Runs sem damage middle after found last ∧ log = before ++ after := by
  rcases run.bind_cases with ⟨error, one, -⟩ | ⟨value, before, middle, after, one, rest, same⟩
  · obtain ⟨result, -, differ⟩ := runs_ignore.mp one
    cases differ
  · obtain ⟨result, performed, -⟩ := runs_ignore.mp one
    exact ⟨result, before, middle, after, performed, rest, same⟩

theorem Runs.after (run : (program >>= following).Runs sem damage store log found last) (only : program.Only allowed) :
    ((∃ error, found = .error error) ∧ ∀ event ∈ log, allowed event.β event.action) ∨
    ∃ value before middle after, program.Runs sem damage store before (.ok value) middle ∧
      (∀ event ∈ before, allowed event.β event.action) ∧
      (following value).Runs sem damage middle after found last ∧ log = before ++ after := by
  rcases run.bind_cases with ⟨error, one, same⟩ | ⟨value, before, middle, after, one, rest, same⟩
  · exact .inl ⟨⟨error, same⟩, one.permits only⟩
  · exact .inr ⟨value, before, middle, after, one, one.permits only, rest, same⟩

theorem Runs.of_forM {ι : Type} {each : ι → Program Act ε Unit} {items : List ι} {found : Except ε Unit}
    (run : (items.forM each).Runs sem damage store log found last) {event : Event Act ε}
    (member : event ∈ log) : ∃ item ∈ items, ∃ first part result next,
      (each item).Runs sem damage first part result next ∧ event ∈ part := by
  induction items generalizing store log with
  | nil =>
    obtain ⟨rfl, -, -⟩ := runs_pure.mp run
    cases member
  | cons item items ih =>
    rcases run.bind_cases with ⟨error, one, rfl⟩ | ⟨value, before, middle, after, one, rest, rfl⟩
    · exact ⟨item, List.mem_cons_self, _, _, _, _, one, member⟩
    · rcases List.mem_append.mp member with here | later
      · exact ⟨item, List.mem_cons_self, _, _, _, _, one, here⟩
      · obtain ⟨other, listed, others⟩ := ih rest later
        exact ⟨other, List.mem_cons_of_mem item listed, others⟩

/-- A program that heeds every failure: it succeeds exactly when all its actions do. -/
def Heeds (sem : Semantics Act ε σ) (damage : (β : Type) → Act β → σ → σ → Prop) (program : Program Act ε α) : Prop :=
  ∀ (store last : σ) (log : List (Event Act ε)) (result : Except ε α), program.Runs sem damage store log result last →
    (result.isOk = true ↔ ∀ event ∈ log, event.outcome.isOk = true)

theorem Heeds.pure (value : α) : Heeds sem damage (pure value : Program Act ε α) := by
  intro store last log result run
  obtain ⟨rfl, rfl, -⟩ := runs_pure.mp run
  exact ⟨fun _ => List.forall_mem_nil _, fun _ => rfl⟩

theorem Heeds.perform (action : Act α) : Heeds sem damage (perform action) := by
  intro store last log result run
  obtain ⟨rfl, -⟩ := runs_perform.mp run
  rw [List.forall_mem_singleton]

theorem Heeds.bind (first : Heeds sem damage program)
    (rest : ∀ value, Heeds sem damage (following value)) : Heeds sem damage (program >>= following) := by
  intro store last log result run
  rcases run.bind_cases with ⟨error, one, rfl⟩ | ⟨value, before, middle, after, one, others, rfl⟩
  · -- The second program was not begun.
    exact first _ _ _ _ one
  · rw [List.forall_mem_append, rest value _ _ _ _ others]
    exact ⟨fun all => ⟨(first _ _ _ _ one).mp rfl, all⟩, fun all => all.2⟩

end Runs

/-- The beginning of a run: what was done so far, the program that is left and the store it goes on from. -/
inductive Underway (sem : Semantics Act ε σ) (damage : (β : Type) → Act β → σ → σ → Prop) :
    Program Act ε α → σ → List (Event Act ε) → Program Act ε α → σ → Prop
  | start (program : Program Act ε α) (store : σ) : Underway sem damage program store [] program store
  | step {β : Type} {action : Act β} {next : Except ε β → Program Act ε α} {store middle last : σ}
      {outcome : Except ε β} {log : List (Event Act ε)} {rest : Program Act ε α}
      (first : Happens sem damage action store outcome middle)
      (others : Underway sem damage (next outcome) middle log rest last) :
      Underway sem damage (.step action next) store (⟨action, outcome⟩ :: log) rest last

theorem Underway.run {sem : Semantics Act ε σ} {damage : (β : Type) → Act β → σ → σ → Prop}
    {program rest : Program Act ε α} {store middle last : σ} {early late : List (Event Act ε)} {result : Except ε α}
    (under : program.Underway sem damage store early rest middle) (run : rest.Runs sem damage middle late result last) :
    program.Runs sem damage store (early ++ late) result last := by
  induction under with
  | start program store => exact run
  | step first others ih => exact .step first (ih run)

/-- The run in which given actions are refused and all others come out as they should. -/
def script (sem : Semantics Act ε σ) : List (Option ε) → Program Act ε α → σ → List (Event Act ε) × Except ε α × σ
  | _, .done result, store => ([], result, store)
  | faults, .step action next, store =>
    let (outcome, middle) := match faults.head?.join with
      | some error => (.error error, store)
      | none => sem.outcome action store
    let (log, result, last) := script sem faults.tail (next outcome) middle
    (⟨action, outcome⟩ :: log, result, last)

theorem runs_script (sem : Semantics Act ε σ) (damage : (β : Type) → Act β → σ → σ → Prop)
    (faults : List (Option ε)) (program : Program Act ε α) (store : σ) :
    program.Runs sem damage store (script sem faults program store).1
      (script sem faults program store).2.1 (script sem faults program store).2.2 := by
  induction program generalizing faults store with
  | done result => exact .done _ _
  | step action next ih =>
    rw [script]
    cases fault : faults.head?.join with
    | some error => exact .step (.refused error) (ih _ _ _)
    | none =>
      refine .step ?_ (ih _ _ _)
      -- An action that the script leaves alone does what it does on the store.
      cases ran : sem.run action store with
      | ok result =>
        rw [Semantics.outcome_ok ran]
        exact .performed ran
      | error error =>
        rw [Semantics.outcome_error ran]
        exact .refused error

end Program

end CNShell
