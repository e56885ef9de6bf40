import CNShell.Library.Log
import CNShell.Library.Program

/-! Programs that others interfere with: what each action they come to meets, and what they learn. -/

namespace CNShell

namespace Program

variable {Act : Type → Type u} {ε : Type} {σ : Type v} {α β : Type}

/--
Whatever others do to the store in between, every action the program comes to is allowed there.

Others only lead on to a `later` store, and from an action only its outcome on that store matters.
-/
def Along (sem : Semantics Act ε σ) (later : σ → σ → Prop)
    (allowed : (β : Type) → Act β → σ → Prop) : Program Act ε α → σ → Prop
  | .done _, _ => True
  | .step (β := β) action next, store => ∀ moved, later store moved →
      allowed β action moved ∧
        (next (sem.outcome action moved).1).Along sem later allowed (sem.outcome action moved).2

namespace Along

variable {sem : Semantics Act ε σ} {later : σ → σ → Prop}
variable {allowed : (β : Type) → Act β → σ → Prop} {store moved : σ}

theorem later_store (trans : ∀ first second third, later first second → later second third →
      later first third) {program : Program Act ε α} (along : program.Along sem later allowed store)
    (onward : later store moved) : program.Along sem later allowed moved := by
  cases program with
  | done result => exact trivial
  | step action next => exact fun final further => along final (trans _ _ _ onward further)

variable {following : α → Program Act ε β}

theorem lift_bind {result : Except ε α}
    (rest : ∀ value, result = .ok value → (following value).Along sem later allowed store) :
    (Program.lift result >>= following).Along sem later allowed store := by
  cases result with
  | ok value => exact rest value rfl
  | error error => exact trivial

variable {action : Act α}

theorem perform_bind (permitted : ∀ moved, later store moved → allowed α action moved)
    (rest : ∀ moved value next, later store moved → sem.run action moved = .ok (value, next) →
      (following value).Along sem later allowed next) :
    (Program.perform action >>= following).Along sem later allowed store := by
  refine fun moved onward => ⟨permitted moved onward, ?_⟩
  cases ran : sem.run action moved with
  | ok result =>
    rw [Semantics.outcome_ok ran]
    exact rest moved result.1 result.2 onward ran
  | error error =>
    rw [Semantics.outcome_error ran]
    exact trivial

theorem perform (permitted : ∀ moved, later store moved → allowed α action moved) :
    (Program.perform action : Program Act ε α).Along sem later allowed store :=
  fun moved onward => ⟨permitted moved onward, trivial⟩

end Along

namespace Learns

variable {sem : Semantics Act ε σ} {later : σ → σ → Prop}
variable {allowed : (β : Type) → Act β → σ → Prop} {known : α → σ → Prop} {store : σ}

end Learns

end Program

namespace Pool

variable {Act : Type → Type u} {ε : Type} {σ : Type v}
variable {sem : Semantics Act ε σ} {starts : Program Act ε Unit → Prop} {opens : σ → Prop}

/--
A property of the events so far and the store they left, kept by all actions allowed where they run.

Programs may only start when they may go on from every store, whatever the others do meanwhile. An
action is only asked to lead on to a later store, and to keep the property, where it meets `ok`.
-/
theorem history_along (later : σ → σ → Prop) (allowed : (β : Type) → Act β → σ → Prop)
    (ok : σ → Event Act ε → Prop) (holds : List (σ × Event Act ε) → σ → Prop)
    (refl : ∀ store, later store store)
    (trans : ∀ first second third, later first second → later second third → later first third)
    (along : ∀ program, starts program → ∀ store, program.Along sem later allowed store)
    (begins : ∀ store, opens store → holds [] store)
    (keeps : ∀ log store {β : Type} (action : Act β), allowed β action store →
      ok store ⟨action, (sem.outcome action store).1⟩ → holds log store →
      later store (sem.outcome action store).2 ∧
        holds (log ++ [(store, ⟨action, (sem.outcome action store).1⟩)])
          (sem.outcome action store).2)
    {trace : List (Pool Act ε σ × Label Act ε)} {pool : Pool Act ε σ}
    (run : (system sem starts opens).Run trace pool)
    (meets : ∀ entry ∈ events trace, ok entry.1 entry.2) :
    holds (events trace) pool.store ∧ ∀ thread ∈ pool.threads, thread.Along sem later allowed pool.store := by
  induction run with
  | start opened =>
    obtain ⟨opened, idle⟩ := opened
    exact ⟨begins _ opened, by simp [idle]⟩
  | @snoc trace pool next label earlier taken ih =>
    rw [events_snoc] at meets ⊢
    obtain ⟨before, bounded⟩ := ih fun entry member =>
      meets entry (List.mem_append.mpr (.inl member))
    cases taken with
    | start permitted =>
      refine ⟨by simpa using before, fun thread member => ?_⟩
      rcases List.mem_append.mp member with old | new
      · exact bounded thread old
      · obtain rfl : thread = _ := by simpa using new
        exact along _ permitted _
    | @act store earlier' after' β action following =>
      -- The acting thread goes on from its own store, the others from a later one.
      have moved := bounded _ (List.mem_append.mpr (.inr List.mem_cons_self)) store (refl store)
      obtain ⟨onward, after⟩ := keeps _ _ _ moved.1 (meets (_, _) (by simp)) before
      refine ⟨after, fun thread member => ?_⟩
      rcases List.mem_append.mp member with old | new
      · exact (bounded thread (List.mem_append.mpr (.inl old))).later_store trans onward
      · rcases List.mem_cons.mp new with rfl | old
        · exact moved.2
        · exact (bounded thread (List.mem_append.mpr
            (.inr (List.mem_cons_of_mem _ old)))).later_store trans onward
    | drop =>
      refine ⟨by simpa using before, fun thread member => bounded thread ?_⟩
      rcases List.mem_append.mp member with old | old
      · exact List.mem_append.mpr (.inl old)
      · exact List.mem_append.mpr (.inr (List.mem_cons_of_mem _ old))

end Pool

end CNShell
