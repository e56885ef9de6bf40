import CNShell.Library.Transition
import Mathlib.Data.List.Induction

/-! Request programs over a shared store, interleaved at their atomic actions. -/

namespace CNShell

/-- A program that performs atomic actions one after the other and chooses by their outcomes. -/
inductive Program (Act : Type → Type u) (ε : Type) (α : Type) : Type (max 1 u)
  | done (result : Except ε α)
  | step {β : Type} (action : Act β) (next : Except ε β → Program Act ε α)

/-- What every atomic action does to the store; a failed action has no effect on it. -/
structure Semantics (Act : Type → Type u) (ε : Type) (σ : Type v) where
  /-- The result and the next store of one action. -/
  run : {β : Type} → Act β → σ → Except ε (β × σ)

namespace Semantics

variable {Act : Type → Type u} {ε : Type} {σ : Type v}

/-- The result of an action together with the store it leaves. -/
def outcome (sem : Semantics Act ε σ) {β : Type} (action : Act β) (store : σ) : Except ε β × σ :=
  match sem.run action store with
  | .ok (value, next) => (.ok value, next)
  | .error error => (.error error, store)

theorem outcome_ok {sem : Semantics Act ε σ} {β : Type} {action : Act β} {store next : σ}
    {value : β} (ran : sem.run action store = .ok (value, next)) :
    sem.outcome action store = (.ok value, next) := by
  simp [outcome, ran]

theorem outcome_error {sem : Semantics Act ε σ} {β : Type} {action : Act β} {store : σ}
    {error : ε} (ran : sem.run action store = .error error) :
    sem.outcome action store = (.error error, store) := by
  simp [outcome, ran]

theorem outcome_keeps {sem : Semantics Act ε σ} {holds : σ → Prop} {β : Type} {action : Act β}
    {store : σ} (before : holds store)
    (keeps : ∀ value next, sem.run action store = .ok (value, next) → holds next) :
    holds (sem.outcome action store).2 := by
  -- A failure changes nothing, so only the success is the caller's business.
  cases ran : sem.run action store with
  | error error =>
    rw [outcome_error ran]
    exact before
  | ok result =>
    rw [outcome_ok ran]
    exact keeps _ _ ran

end Semantics

namespace Program

variable {Act : Type → Type u} {ε : Type} {σ : Type v} {α β : Type}

/-- The program of one action. -/
def perform (action : Act α) : Program Act ε α := .step action .done

/-- One program after another, the second chosen by the first's value and skipped on an error. -/
protected def bind : Program Act ε α → (α → Program Act ε β) → Program Act ε β
  | .done (.ok value), following => following value
  | .done (.error error), _ => .done (.error error)
  | .step action next, following => .step action fun outcome => (next outcome).bind following

instance : Monad (Program Act ε) where
  pure value := .done (.ok value)
  bind := Program.bind

/-- A computation without actions, as a program. -/
def lift (result : Except ε α) : Program Act ε α := .done result

/-- A program whose failure is ignored, as `let _ =` does. -/
def ignore : Program Act ε α → Program Act ε Unit
  | .done _ => .done (.ok ())
  | .step action next => .step action fun outcome => (next outcome).ignore

/-- A program of which only the effects matter. -/
def discard (program : Program Act ε α) : Program Act ε Unit := do
  let _ ← program
  return ()

/-- The result and the final store of a program that runs alone. -/
def exec (sem : Semantics Act ε σ) : Program Act ε α → σ → Except ε α × σ
  | .done result, store => (result, store)
  | .step action next, store =>
    (next (sem.outcome action store).1).exec sem (sem.outcome action store).2

theorem bind_assoc {γ : Type} (program : Program Act ε α) (following : α → Program Act ε β)
    (last : β → Program Act ε γ) :
    (program >>= following) >>= last = program >>= fun value => following value >>= last := by
  show (program.bind following).bind last = program.bind fun value => (following value).bind last
  -- The induction is on the first program; both sides perform its actions first.
  induction program with
  | done result => cases result <;> rfl
  | step action next ih => exact congrArg (Program.step action) (funext fun outcome => ih outcome)

section Execution

variable {sem : Semantics Act ε σ} {store : σ}

@[simp] theorem exec_done (result : Except ε α) :
    (Program.done result : Program Act ε α).exec sem store = (result, store) := rfl

@[simp] theorem exec_lift (result : Except ε α) :
    (lift result : Program Act ε α).exec sem store = (result, store) := rfl

@[simp] theorem exec_pure (value : α) : (pure value : Program Act ε α).exec sem store = (.ok value, store) := rfl

@[simp] theorem exec_perform (action : Act α) :
    (perform action : Program Act ε α).exec sem store = sem.outcome action store := rfl

theorem exec_bind (program : Program Act ε α) (following : α → Program Act ε β) :
    (program >>= following).exec sem store =
      match program.exec sem store with
      | (.ok value, next) => (following value).exec sem next
      | (.error error, next) => (.error error, next) := by
  show (program.bind following).exec sem store = _
  -- The induction is on the first program, whose actions come first in the sequence.
  induction program generalizing store with
  | done result => cases result <;> rfl
  | step action next ih => exact ih (sem.outcome action store).1

theorem exec_bind_ok {program : Program Act ε α} {following : α → Program Act ε β} {value : α}
    {next : σ} (first : program.exec sem store = (.ok value, next)) :
    (program >>= following).exec sem store = (following value).exec sem next := by
  rw [exec_bind, first]

theorem exec_map (program : Program Act ε α) (compute : α → β) :
    ((program >>= fun value => pure (compute value)).exec sem store).2 = (program.exec sem store).2 := by
  rw [exec_bind]
  cases ran : program.exec sem store with
  | mk result next => cases result <;> rfl

theorem exec_discard (program : Program Act ε α) : (program.discard.exec sem store).2 = (program.exec sem store).2 :=
  exec_map program fun _ => ()

end Execution

/-- Every action the program may ever perform is allowed, whatever the outcomes are. -/
inductive Only (allowed : (β : Type) → Act β → Prop) : Program Act ε α → Prop
  | done (result : Except ε α) : Only allowed (.done result)
  | step {β : Type} {action : Act β} {next : Except ε β → Program Act ε α}
      (first : allowed β action) (rest : ∀ outcome, Only allowed (next outcome)) :
      Only allowed (.step action next)

namespace Only

variable {allowed : (β : Type) → Act β → Prop}

variable {action : Act α}

theorem perform (permitted : allowed α action) : Only allowed (Program.perform action : Program Act ε α) :=
  .step permitted fun outcome => .done outcome

theorem lift (result : Except ε α) : Only allowed (Program.lift result : Program Act ε α) :=
  .done result

theorem pure (value : α) : Only allowed (Pure.pure value : Program Act ε α) := .done _

variable {following : α → Program Act ε β}

variable {program : Program Act ε α}

theorem bind (first : Only allowed program) (rest : ∀ value, Only allowed (following value)) :
    Only allowed (program >>= following) := by
  show Only allowed (program.bind following)
  induction first with
  | done result =>
    cases result with
    | ok value => exact rest value
    | error error => exact .done _
  | step permitted _ ih => exact .step permitted ih

theorem lift_bind {result : Except ε α} (rest : ∀ value, result = .ok value → Only allowed (following value)) :
    Only allowed (Program.lift result >>= following) := by
  cases result with
  | ok value => exact rest value rfl
  | error error => exact .done _

theorem perform_bind (permitted : allowed α action) (rest : ∀ value, Only allowed (following value)) :
    Only allowed (Program.perform action >>= following) :=
  (perform permitted).bind rest

theorem any (program : Program Act ε α) : Only (fun _ _ => True) program := by
  induction program with
  | done result => exact .done result
  | step action next ih => exact .step trivial ih

theorem weaken {weaker : (β : Type) → Act β → Prop} (whole : Only allowed program)
    (implies : ∀ (β : Type) (action : Act β), allowed β action → weaker β action) : Only weaker program := by
  induction whole with
  | done result => exact .done result
  | step permitted _ ih => exact .step (implies _ _ permitted) ih

theorem ignore (whole : Only allowed program) : Only allowed program.ignore := by
  induction whole with
  | done result => exact .done _
  | step permitted _ ih => exact .step permitted ih

theorem discard (whole : Only allowed program) : Only allowed program.discard := whole.bind fun _ => .pure ()

end Only

/-- Whatever the outcomes are, the program performs at most a number of actions that count. -/
inductive AtMost (counts : (β : Type) → Act β → Prop) : Nat → Program Act ε α → Prop
  | done {bound : Nat} (result : Except ε α) : AtMost counts bound (.done result)
  | free {bound : Nat} {β : Type} {action : Act β} {next : Except ε β → Program Act ε α}
      (uncounted : ¬counts β action) (rest : ∀ outcome, AtMost counts bound (next outcome)) :
      AtMost counts bound (.step action next)
  | spend {bound : Nat} {β : Type} {action : Act β} {next : Except ε β → Program Act ε α}
      (rest : ∀ outcome, AtMost counts bound (next outcome)) :
      AtMost counts (bound + 1) (.step action next)

namespace AtMost

variable {counts : (β : Type) → Act β → Prop} {bound : Nat}

theorem of_only {program : Program Act ε α}
    (whole : Only (fun β action => ¬counts β action) program) : AtMost counts bound program := by
  induction whole with
  | done result => exact .done result
  | step uncounted _ ih => exact .free uncounted ih

theorem perform (action : Act α) : AtMost counts (bound + 1) (Program.perform action : Program Act ε α) :=
  .spend fun outcome => .done outcome

variable {following : α → Program Act ε β}

variable {program : Program Act ε α}

theorem after (first : Only (fun β action => ¬counts β action) program)
    (rest : ∀ value, AtMost counts bound (following value)) : AtMost counts bound (program >>= following) := by
  show AtMost counts bound (program.bind following)
  induction first with
  | done result =>
    cases result with
    | ok value => exact rest value
    | error error => exact .done _
  | step uncounted _ ih => exact .free uncounted ih

theorem before (first : AtMost counts bound program)
    (rest : ∀ value, Only (fun β action => ¬counts β action) (following value)) :
    AtMost counts bound (program >>= following) := by
  show AtMost counts bound (program.bind following)
  induction first with
  | done result =>
    cases result with
    | ok value => exact of_only (rest value)
    | error error => exact .done _
  | free uncounted _ ih => exact .free uncounted ih
  | spend _ ih => exact .spend ih

theorem discard (whole : AtMost counts bound program) : AtMost counts bound program.discard :=
  whole.before fun _ => .pure ()

end AtMost

/--
Every action the program may perform is allowed, as long as the store keeps a property.

After an action only the outcomes it has on such a store matter.
-/
inductive Within (sem : Semantics Act ε σ) (holds : σ → Prop)
    (allowed : (β : Type) → Act β → Prop) : Program Act ε α → Prop
  | done (result : Except ε α) : Within sem holds allowed (.done result)
  | step {β : Type} {action : Act β} {next : Except ε β → Program Act ε α}
      (first : allowed β action)
      (rest : ∀ store, holds store → Within sem holds allowed (next (sem.outcome action store).1)) :
      Within sem holds allowed (.step action next)

namespace Within

variable {sem : Semantics Act ε σ} {holds : σ → Prop} {allowed : (β : Type) → Act β → Prop}

theorem of_only {program : Program Act ε α} (whole : Only allowed program) : Within sem holds allowed program := by
  induction whole with
  | done result => exact .done result
  | step permitted _ ih => exact .step permitted fun _ _ => ih _

variable {following : α → Program Act ε β}

variable {program : Program Act ε α}

theorem bind (first : Within sem holds allowed program) (rest : ∀ value, Within sem holds allowed (following value)) :
    Within sem holds allowed (program >>= following) := by
  show Within sem holds allowed (program.bind following)
  induction first with
  | done result =>
    cases result with
    | ok value => exact rest value
    | error error => exact .done _
  | step permitted _ ih => exact .step permitted ih

theorem lift_bind {result : Except ε α}
    (rest : ∀ value, result = .ok value → Within sem holds allowed (following value)) :
    Within sem holds allowed (Program.lift result >>= following) := by
  cases result with
  | ok value => exact rest value rfl
  | error error => exact .done _

theorem perform_bind {action : Act α} (permitted : allowed α action)
    (rest : ∀ store value next, holds store → sem.run action store = .ok (value, next) →
      Within sem holds allowed (following value)) :
    Within sem holds allowed (Program.perform action >>= following) := by
  refine .step permitted fun store kept => ?_
  cases ran : sem.run action store with
  | ok result =>
    rw [Semantics.outcome_ok ran]
    exact rest store result.1 result.2 kept ran
  | error error =>
    rw [Semantics.outcome_error ran]
    exact .done _

theorem discard (whole : Within sem holds allowed program) : Within sem holds allowed program.discard :=
  whole.bind fun _ => .of_only (.pure ())

end Within

end Program

/-- An action that was performed, with its outcome. -/
structure Event (Act : Type → Type u) (ε : Type) : Type (max 1 u) where
  /-- What the action returns. -/
  {β : Type}
  /-- The action itself. -/
  action : Act β
  /-- Its value, or the error it failed with. -/
  outcome : Except ε β

namespace Program

variable {Act : Type → Type u} {ε : Type} {σ : Type v} {α β : Type}

/-- Running alone from a store, the program only performs actions that meet a condition there. -/
def Meets (sem : Semantics Act ε σ) (ok : σ → Event Act ε → Prop) : Program Act ε α → σ → Prop
  | .done _, _ => True
  | .step action next, store =>
    ok store ⟨action, (sem.outcome action store).1⟩ ∧
      (next (sem.outcome action store).1).Meets sem ok (sem.outcome action store).2

theorem Meets.bind {sem : Semantics Act ε σ} {ok : σ → Event Act ε → Prop}
    {program : Program Act ε α} {following : α → Program Act ε β} {store : σ}
    (first : program.Meets sem ok store)
    (rest : ∀ value next, program.exec sem store = (.ok value, next) → (following value).Meets sem ok next) :
    (program >>= following).Meets sem ok store := by
  show (program.bind following).Meets sem ok store
  induction program generalizing store with
  | done result =>
    cases result with
    | ok value => exact rest value store rfl
    | error error => exact trivial
  | step action next ih => exact ⟨first.1, ih _ first.2 rest⟩

theorem Meets.of_only {sem : Semantics Act ε σ} {ok : σ → Event Act ε → Prop}
    {program : Program Act ε α} {store : σ}
    (whole : Only (fun β action => ∀ store (outcome : Except ε β), ok store ⟨action, outcome⟩) program) :
    program.Meets sem ok store := by
  induction whole generalizing store with
  | done result => exact trivial
  | step permitted _ ih => exact ⟨permitted _ _, ih _⟩

/-- On every way to its success the program performs an action whose outcome decides it. -/
inductive SucceedsBy (decides : Event Act ε → Prop) : Program Act ε α → Prop
  | failed (error : ε) : SucceedsBy decides (.done (.error error))
  | step {β : Type} {action : Act β} {next : Except ε β → Program Act ε α}
      (rest : ∀ outcome, ¬decides ⟨action, outcome⟩ → SucceedsBy decides (next outcome)) :
      SucceedsBy decides (.step action next)

namespace SucceedsBy

variable {decides : Event Act ε → Prop}

theorem before {program : Program Act ε α} {following : α → Program Act ε β}
    (first : SucceedsBy decides program) : SucceedsBy decides (program >>= following) := by
  show SucceedsBy decides (program.bind following)
  induction first with
  | failed error => exact .failed error
  | step _ ih => exact .step ih

theorem after {program : Program Act ε α} {following : α → Program Act ε β}
    (rest : ∀ value, SucceedsBy decides (following value)) :
    SucceedsBy decides (program >>= following) := by
  show SucceedsBy decides (program.bind following)
  induction program with
  | done result =>
    cases result with
    | ok value => exact rest value
    | error error => exact .failed error
  | step action next ih => exact .step fun outcome _ => ih outcome

end SucceedsBy

end Program

/-- A store shared by the programs that are still running. -/
structure Pool (Act : Type → Type u) (ε : Type) (σ : Type v) : Type (max 1 u v) where
  /-- The shared store. -/
  store : σ
  /-- The programs, each at the point it has reached. -/
  threads : List (Program Act ε Unit)

namespace Pool

variable {Act : Type → Type u} {ε : Type} {σ : Type v}

/-- What one step of a pool does. -/
inductive Label (Act : Type → Type u) (ε : Type) : Type (max 1 u)
  | start (program : Program Act ε Unit)
  | act (event : Event Act ε)
  | drop

/-- The steps of a pool: a program starts, one performs its next action, or one is dropped. -/
inductive Step (sem : Semantics Act ε σ) (starts : Program Act ε Unit → Prop) :
    Pool Act ε σ → Label Act ε → Pool Act ε σ → Prop
  | start {store : σ} {threads : List (Program Act ε Unit)} {program : Program Act ε Unit}
      (permitted : starts program) :
      Step sem starts ⟨store, threads⟩ (.start program) ⟨store, threads ++ [program]⟩
  | act {store : σ} {before after : List (Program Act ε Unit)} {β : Type} {action : Act β}
      {next : Except ε β → Program Act ε Unit} :
      Step sem starts ⟨store, before ++ .step action next :: after⟩
        (.act ⟨action, (sem.outcome action store).1⟩)
        ⟨(sem.outcome action store).2, before ++ next (sem.outcome action store).1 :: after⟩
  | drop {store : σ} {before after : List (Program Act ε Unit)} {thread : Program Act ε Unit} :
      Step sem starts ⟨store, before ++ thread :: after⟩ .drop ⟨store, before ++ after⟩

/-- The pool that starts without programs on one of the given stores. -/
def system (sem : Semantics Act ε σ) (starts : Program Act ε Unit → Prop) (opens : σ → Prop) :
    System (Pool Act ε σ) (Label Act ε) where
  initial pool := opens pool.store ∧ pool.threads = []
  step := Step sem starts

/-- The actions of a run in order, each with the store it was performed on. -/
def events (trace : List (Pool Act ε σ × Label Act ε)) : List (σ × Event Act ε) :=
  trace.filterMap fun entry =>
    match entry.2 with
    | .act event => some (entry.1.store, event)
    | .start _ => none
    | .drop => none

@[simp] theorem events_nil : events ([] : List (Pool Act ε σ × Label Act ε)) = [] := rfl

theorem events_snoc (trace : List (Pool Act ε σ × Label Act ε)) (pool : Pool Act ε σ)
    (label : Label Act ε) :
    events (trace ++ [(pool, label)]) =
      events trace ++ match label with
        | .act event => [(pool.store, event)]
        | .start _ => []
        | .drop => [] := by
  cases label <;> simp [events]

theorem events_append (trace more : List (Pool Act ε σ × Label Act ε)) :
    events (trace ++ more) = events trace ++ events more := by
  simp [events]

theorem forall_events {ok : σ → Event Act ε → Prop} {trace : List (Pool Act ε σ × Label Act ε)} :
    (∀ entry ∈ events trace, ok entry.1 entry.2) ↔
      ∀ entry ∈ trace, ∀ event, entry.2 = .act event → ok entry.1.store event := by
  induction trace with
  | nil => simp
  | cons first rest ih =>
    have split : events (first :: rest) = events [first] ++ events rest := events_append [first] rest
    rw [split, List.forall_mem_append, ih, List.forall_mem_cons]
    refine and_congr_left fun _ => ?_
    obtain ⟨pool, label⟩ := first
    cases label <;> simp [events]

section Schedules

variable {sem : Semantics Act ε σ} {starts : Program Act ε Unit → Prop} {opens : σ → Prop}

/-- The next action of one thread, if that thread has one. -/
def advance (sem : Semantics Act ε σ) (pool : Pool Act ε σ) (i : Nat) : Option (Label Act ε × Pool Act ε σ) :=
  match pool.threads.drop i with
  | .step action next :: after =>
    some (.act ⟨action, (sem.outcome action pool.store).1⟩,
      ⟨(sem.outcome action pool.store).2, pool.threads.take i ++ next (sem.outcome action pool.store).1 :: after⟩)
  | _ => none

theorem step_advance {pool next : Pool Act ε σ} {i : Nat} {label : Label Act ε}
    (advanced : advance sem pool i = some (label, next)) : Step sem starts pool label next := by
  obtain ⟨store, threads⟩ := pool
  simp only [advance] at advanced
  split at advanced
  · rename_i β action following after there
    obtain ⟨rfl, rfl⟩ := Prod.mk.inj (Option.some.inj advanced)
    -- The threads are those before the acting one, the acting one and those after it.
    have whole : threads = threads.take i ++ .step action following :: after := by
      rw [← there, List.take_append_drop]
    have taken : Step sem starts ⟨store, threads.take i ++ .step action following :: after⟩ _ _ := .act
    rwa [← whole] at taken
  · cases advanced

/-- The actions of some threads one after the other: the steps they are, and where they lead. -/
def play (sem : Semantics Act ε σ) : Pool Act ε σ → List Nat →
    Option (List (Pool Act ε σ × Label Act ε) × Pool Act ε σ)
  | pool, [] => some ([], pool)
  | pool, i :: schedule => (advance sem pool i).bind fun (label, next) =>
      (play sem next schedule).map fun (trace, last) => ((pool, label) :: trace, last)

theorem run_play {trace more : List (Pool Act ε σ × Label Act ε)} {pool last : Pool Act ε σ}
    {schedule : List Nat} (run : (system sem starts opens).Run trace pool)
    (played : play sem pool schedule = some (more, last)) :
    (system sem starts opens).Run (trace ++ more) last := by
  induction schedule generalizing trace pool more with
  | nil =>
    obtain ⟨rfl, rfl⟩ : [] = more ∧ pool = last := by simpa [play] using played
    simpa using run
  | cons i schedule ih =>
    simp only [play, Option.bind_eq_some_iff, Option.map_eq_some_iff, Prod.mk.injEq, Prod.exists] at played
    obtain ⟨label, next, advanced, rest, _, follows, rfl, rfl⟩ := played
    have further := ih (run.snoc (step_advance advanced)) follows
    rwa [List.append_assoc, List.singleton_append] at further

theorem run_starts {store : σ} (opened : opens store) (programs : List (Program Act ε Unit))
    (permitted : ∀ program ∈ programs, starts program) :
    ∃ trace, (system sem starts opens).Run trace ⟨store, programs⟩ ∧ events trace = [] := by
  induction programs using List.reverseRecOn with
  | nil => exact ⟨[], .start ⟨opened, rfl⟩, rfl⟩
  | append_singleton programs program ih =>
    obtain ⟨trace, run, quiet⟩ := ih fun other member => permitted other (by simp [member])
    refine ⟨_, run.snoc (.start (permitted program (by simp))), ?_⟩
    rw [events_snoc, quiet]
    rfl

theorem reachable_exec {store : σ} {threads : List (Program Act ε Unit)} {program : Program Act ε Unit}
    (reached : (system sem starts opens).Reachable ⟨store, threads⟩) (permitted : starts program) :
    ∃ left, (system sem starts opens).Reachable ⟨(program.exec sem store).2, left⟩ := by
  have alone : ∀ (program : Program Act ε Unit) (store : σ),
      (system sem starts opens).Reachable ⟨store, threads ++ [program]⟩ →
        ∃ left, (system sem starts opens).Reachable ⟨(program.exec sem store).2, left⟩ := by
    intro program
    induction program with
    | done result => exact fun store reached => ⟨_, reached⟩
    | step action next ih =>
      intro store reached
      have taken : Step sem starts ⟨store, threads ++ [Program.step action next]⟩
          (.act ⟨action, (sem.outcome action store).1⟩)
          ⟨(sem.outcome action store).2, threads ++ [next (sem.outcome action store).1]⟩ := .act
      exact ih _ _ (reached.step taken)
  exact alone program store (reached.step (.start permitted))

end Schedules

section Rules

variable {sem : Semantics Act ε σ} {starts : Program Act ε Unit → Prop} {opens : σ → Prop}

/--
A property of the events so far and the store they left holds along every run of a pool.

Programs may only start when all their actions are `allowed`, and each action is only asked to
keep the property on a store where it meets `ok`.
-/
theorem history (allowed : (β : Type) → Act β → Prop) (ok : σ → Event Act ε → Prop)
    (holds : List (σ × Event Act ε) → σ → Prop)
    (only : ∀ program, starts program → program.Only allowed)
    (begins : ∀ store, opens store → holds [] store)
    (keeps : ∀ log store {β : Type} (action : Act β), allowed β action → holds log store →
      ok store ⟨action, (sem.outcome action store).1⟩ →
      holds (log ++ [(store, ⟨action, (sem.outcome action store).1⟩)])
        (sem.outcome action store).2)
    {trace : List (Pool Act ε σ × Label Act ε)} {pool : Pool Act ε σ}
    (run : (system sem starts opens).Run trace pool)
    (meets : ∀ entry ∈ events trace, ok entry.1 entry.2) :
    holds (events trace) pool.store ∧ ∀ thread ∈ pool.threads, thread.Only allowed := by
  -- The threads' own bound is carried along, since it says which action may come next.
  induction run with
  | start opened =>
    obtain ⟨opened, idle⟩ := opened
    exact ⟨begins _ opened, by simp [idle]⟩
  | @snoc trace pool next label earlier taken ih =>
    rw [events_snoc] at meets ⊢
    obtain ⟨before, bounded⟩ := ih fun entry member =>
      meets entry (List.mem_append.mpr (.inl member))
    cases taken with
    | start permitted =>
      refine ⟨by simpa using before, fun thread member => ?_⟩
      rcases List.mem_append.mp member with old | new
      · exact bounded thread old
      · obtain rfl : thread = _ := by simpa using new
        exact only _ permitted
    | act =>
      have moved := bounded _ (List.mem_append.mpr (.inr List.mem_cons_self))
      cases moved with
      | step permitted rest =>
        refine ⟨keeps _ _ _ permitted before (meets (_, _) (by simp)), fun thread member => ?_⟩
        rcases List.mem_append.mp member with old | new
        · exact bounded thread (List.mem_append.mpr (.inl old))
        · rcases List.mem_cons.mp new with rfl | old
          · exact rest _
          · exact bounded thread (List.mem_append.mpr (.inr (List.mem_cons_of_mem _ old)))
    | drop =>
      refine ⟨by simpa using before, fun thread member => bounded thread ?_⟩
      rcases List.mem_append.mp member with old | old
      · exact List.mem_append.mpr (.inl old)
      · exact List.mem_append.mpr (.inr (List.mem_cons_of_mem _ old))

theorem invariant (allowed : (β : Type) → Act β → Prop) (ok : σ → Event Act ε → Prop)
    (holds : σ → Prop) (only : ∀ program, starts program → program.Only allowed)
    (begins : ∀ store, opens store → holds store)
    (keeps : ∀ store next {β : Type} (action : Act β) (value : β), allowed β action → holds store →
      ok store ⟨action, .ok value⟩ → sem.run action store = .ok (value, next) → holds next)
    {trace : List (Pool Act ε σ × Label Act ε)} {pool : Pool Act ε σ}
    (run : (system sem starts opens).Run trace pool)
    (meets : ∀ entry ∈ events trace, ok entry.1 entry.2) : holds pool.store := by
  refine (history allowed ok (fun _ store => holds store) only begins ?_ run meets).1
  intro _ store β action permitted before good
  refine Semantics.outcome_keeps before fun value next ran => ?_
  rw [Semantics.outcome_ok ran] at good
  exact keeps store next action value permitted before good ran

/--
A property that programs within it keep holds in every pool that is reached.

The property and the programs' own bound are carried along together, since each rests on the other.
-/
theorem invariant_within (allowed : (β : Type) → Act β → Prop) (holds : σ → Prop)
    (within : ∀ program, starts program → program.Within sem holds allowed)
    (begins : ∀ store, opens store → holds store)
    (keeps : ∀ store next {β : Type} (action : Act β) (value : β), allowed β action → holds store →
      sem.run action store = .ok (value, next) → holds next)
    {pool : Pool Act ε σ} (reached : (system sem starts opens).Reachable pool) :
    holds pool.store := by
  refine (reached.invariant (fun pool => holds pool.store ∧
    ∀ thread ∈ pool.threads, thread.Within sem holds allowed) ?_ ?_).1
  · rintro pool ⟨opened, idle⟩
    exact ⟨begins _ opened, by simp [idle]⟩
  · rintro pool label next ⟨before, bounded⟩ taken
    cases taken with
    | start permitted =>
      refine ⟨before, fun thread member => ?_⟩
      rcases List.mem_append.mp member with old | new
      · exact bounded thread old
      · obtain rfl : thread = _ := by simpa using new
        exact within _ permitted
    | act =>
      have moved := bounded _ (List.mem_append.mpr (.inr List.mem_cons_self))
      cases moved with
      | step permitted rest =>
        refine ⟨Semantics.outcome_keeps before fun value next ran =>
          keeps _ next _ value permitted before ran, fun thread member => ?_⟩
        rcases List.mem_append.mp member with old | new
        · exact bounded thread (List.mem_append.mpr (.inl old))
        · rcases List.mem_cons.mp new with rfl | old
          · exact rest _ before
          · exact bounded thread (List.mem_append.mpr (.inr (List.mem_cons_of_mem _ old)))
    | drop =>
      refine ⟨before, fun thread member => bounded thread ?_⟩
      rcases List.mem_append.mp member with old | old
      · exact List.mem_append.mpr (.inl old)
      · exact List.mem_append.mpr (.inr (List.mem_cons_of_mem _ old))

/-- A pool is reached by a run that performs allowed actions only. -/
def ReachedBy (sem : Semantics Act ε σ) (starts : Program Act ε Unit → Prop) (opens : σ → Prop)
    (allowed : (β : Type) → Act β → Prop) (pool : Pool Act ε σ) : Prop :=
  ∃ trace, (system sem starts opens).Run trace pool ∧ ∀ entry ∈ events trace, allowed entry.2.β entry.2.action

variable {allowed : (β : Type) → Act β → Prop}

variable {pool : Pool Act ε σ}

theorem ReachedBy.reachable (reached : ReachedBy sem starts opens allowed pool) :
    (system sem starts opens).Reachable pool :=
  let ⟨trace, run, _⟩ := reached
  ⟨trace, run⟩

theorem ReachedBy.weaken {more : (β : Type) → Act β → Prop} (reached : ReachedBy sem starts opens allowed pool)
    (implies : ∀ (β : Type) (action : Act β), allowed β action → more β action) :
    ReachedBy sem starts opens more pool :=
  let ⟨trace, run, met⟩ := reached
  ⟨trace, run, fun entry member => implies _ _ (met entry member)⟩

theorem ReachedBy.widen {wider : Program Act ε Unit → Prop} (reached : ReachedBy sem starts opens allowed pool)
    (implies : ∀ program, starts program → wider program) : ReachedBy sem wider opens allowed pool := by
  obtain ⟨trace, run, met⟩ := reached
  refine ⟨trace, ?_, met⟩
  clear met
  induction run with
  | start opened => exact .start opened
  | snoc earlier taken ih =>
    refine ih.snoc ?_
    cases taken with
    | start permitted => exact .start (implies _ permitted)
    | act => exact .act
    | drop => exact .drop

theorem ReachedBy.act {store : σ} {before after : List (Program Act ε Unit)} {β : Type}
    {action : Act β} {next : Except ε β → Program Act ε Unit}
    (reached : ReachedBy sem starts opens allowed ⟨store, before ++ .step action next :: after⟩)
    (permitted : allowed β action) :
    ReachedBy sem starts opens allowed
      ⟨(sem.outcome action store).2, before ++ next (sem.outcome action store).1 :: after⟩ := by
  obtain ⟨trace, run, met⟩ := reached
  refine ⟨_, run.snoc Step.act, ?_⟩
  rw [events_snoc]
  exact List.forall_mem_append.mpr ⟨met, by simpa using permitted⟩

theorem ReachedBy.finish {store : σ} {before after : List (Program Act ε Unit)}
    {thread : Program Act ε Unit}
    (reached : ReachedBy sem starts opens allowed ⟨store, before ++ thread :: after⟩)
    (only : thread.Only allowed) :
    ReachedBy sem starts opens allowed ⟨(thread.exec sem store).2, before ++ after⟩ := by
  induction only generalizing store with
  | done result =>
    obtain ⟨trace, run, met⟩ := reached
    refine ⟨_, run.snoc Step.drop, ?_⟩
    rw [events_snoc]
    simpa using met
  | step permitted rest ih => exact ih _ (reached.act permitted)

variable {program : Program Act ε Unit}

theorem ReachedBy.start (reached : ReachedBy sem starts opens allowed pool) (permitted : starts program) :
    ReachedBy sem starts opens allowed ⟨pool.store, pool.threads ++ [program]⟩ := by
  obtain ⟨trace, run, met⟩ := reached
  refine ⟨_, run.snoc (Step.start permitted), ?_⟩
  rw [events_snoc]
  simpa using met

theorem ReachedBy.call
    (reached : ReachedBy sem starts opens allowed pool) (permitted : starts program) (only : program.Only allowed) :
    ReachedBy sem starts opens allowed ⟨(program.exec sem pool.store).2, pool.threads⟩ := by
  have finished := (reached.start permitted).finish only
  simpa using finished

/-- A pool is reached by a run whose actions all meet a condition on the store they act on. -/
def ReachedMeeting (sem : Semantics Act ε σ) (starts : Program Act ε Unit → Prop) (opens : σ → Prop)
    (ok : σ → Event Act ε → Prop) (pool : Pool Act ε σ) : Prop :=
  ∃ trace, (system sem starts opens).Run trace pool ∧ ∀ entry ∈ events trace, ok entry.1 entry.2

variable {ok : σ → Event Act ε → Prop}

theorem ReachedMeeting.finish {store : σ} {before after : List (Program Act ε Unit)}
    {thread : Program Act ε Unit}
    (reached : ReachedMeeting sem starts opens ok ⟨store, before ++ thread :: after⟩)
    (meets : thread.Meets sem ok store) :
    ReachedMeeting sem starts opens ok ⟨(thread.exec sem store).2, before ++ after⟩ := by
  induction thread generalizing store with
  | done result =>
    obtain ⟨trace, run, met⟩ := reached
    refine ⟨_, run.snoc Step.drop, ?_⟩
    rw [events_snoc]
    simpa using met
  | step action next ih =>
    obtain ⟨trace, run, met⟩ := reached
    refine ih _ ⟨_, run.snoc Step.act, ?_⟩ meets.2
    rw [events_snoc]
    exact List.forall_mem_append.mpr ⟨met, by simpa using meets.1⟩

theorem ReachedMeeting.call {pool : Pool Act ε σ} {program : Program Act ε Unit}
    (reached : ReachedMeeting sem starts opens ok pool) (permitted : starts program)
    (meets : program.Meets sem ok pool.store) :
    ReachedMeeting sem starts opens ok ⟨(program.exec sem pool.store).2, pool.threads⟩ := by
  obtain ⟨trace, run, met⟩ := reached
  have started : ReachedMeeting sem starts opens ok ⟨pool.store, pool.threads ++ [program]⟩ := by
    refine ⟨_, run.snoc (Step.start permitted), ?_⟩
    rw [events_snoc]
    simpa using met
  have finished := started.finish meets
  simpa using finished

end Rules

end Pool

end CNShell
