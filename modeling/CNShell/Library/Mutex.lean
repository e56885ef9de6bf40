import Mathlib.Data.Multiset.AddSub
import Mathlib.Logic.Hydra
import CNShell.Library.Runs

/-! Threads that take and release locks: who waits for itself never goes on, and who holds one lock at a time always does. -/

namespace CNShell

/-- What a thread does in one step: it takes or releases a lock, or works on the shared state. -/
inductive Sync (Lock σ : Type) : Type → Type 1
  | lock (lock : Lock) : Sync Lock σ Unit
  | unlock (lock : Lock) : Sync Lock σ Unit
  | access {β : Type} (work : σ → β × σ) : Sync Lock σ β

/-- A thread is a program of such steps. -/
abbrev Thread (Lock σ ε α : Type) := Program (Sync Lock σ) ε α

namespace Thread

variable {Lock σ ε α β : Type}

/-- Work on the shared state. -/
def access (work : σ → β × σ) : Thread Lock σ ε β := .perform (.access work)

/-- A change of the shared state. -/
def change (work : σ → σ) : Thread Lock σ ε Unit := access fun state => ((), work state)

/-- The body runs while a guard of the lock lives, which is dropped on every way out of it. -/
def guarded (lock : Lock) (body : Thread Lock σ ε α) : Thread Lock σ ε α := do
  .perform (.lock lock)
  let result ← body.caught
  .perform (.unlock lock)
  .lift result

/-- What is left of a thread after one of its steps. -/
def Rest (next thread : Thread Lock σ ε α) : Prop :=
  ∃ (β : Type) (action : Sync Lock σ β) (following : Except ε β → Thread Lock σ ε α) (outcome : Except ε β),
    thread = .step action following ∧ next = following outcome

theorem rest_wellFounded : WellFounded (Rest : Thread Lock σ ε α → Thread Lock σ ε α → Prop) := by
  constructor
  intro thread
  -- The induction is on the thread, whose steps all lead to parts of it.
  induction thread with
  | done result =>
    constructor
    rintro next ⟨β, action, following, outcome, impossible, -⟩
    cases impossible
  | step action following ih =>
    constructor
    rintro next ⟨β, taken, later, outcome, same, rfl⟩
    cases same
    exact ih outcome

/--
A thread that takes a second lock never while it holds one.

It starts with one lock held or none, and so it ends; the state is only asked to meet `ok` where it is worked on.
-/
inductive Flat (ok : σ → Prop) : Option Lock → Option Lock → Thread Lock σ ε α → Prop
  | done {held : Option Lock} (result : Except ε α) : Flat ok held held (.done result)
  | lock {lock : Lock} {after : Option Lock} {next : Except ε Unit → Thread Lock σ ε α}
      (rest : Flat ok (some lock) after (next (.ok ()))) : Flat ok none after (.step (.lock lock) next)
  | unlock {lock : Lock} {after : Option Lock} {next : Except ε Unit → Thread Lock σ ε α}
      (rest : Flat ok none after (next (.ok ()))) : Flat ok (some lock) after (.step (.unlock lock) next)
  | access {held after : Option Lock} {β : Type} {work : σ → β × σ} {next : Except ε β → Thread Lock σ ε α}
      (rest : ∀ state, ok state → Flat ok held after (next (.ok (work state).1))) :
      Flat ok held after (.step (.access work) next)

namespace Flat

variable {ok : σ → Prop} {held after : Option Lock}

theorem pure (value : α) : Flat ok held held (Pure.pure value : Thread Lock σ ε α) := .done _

theorem work (work : σ → β × σ) : Flat ok held held (Thread.access work : Thread Lock σ ε β) :=
  .access fun _ _ => .done _

variable {first : Thread Lock σ ε α}

theorem bind {following : α → Thread Lock σ ε β} (begun : Flat ok held after first)
    (rest : ∀ value, Flat ok after after (following value)) : Flat ok held after (first >>= following) := by
  show Flat ok held after (first.bind following)
  induction begun with
  | done result =>
    cases result with
    | ok value => exact rest value
    | error error => exact .done _
  | lock _ ih => exact .lock (ih rest)
  | unlock _ ih => exact .unlock (ih rest)
  | access _ ih => exact .access fun state met => ih state met rest

theorem caught_bind {last : Option Lock} {following : Except ε α → Thread Lock σ ε β} (begun : Flat ok held after first)
    (rest : ∀ result, Flat ok after last (following result)) : Flat ok held last (first.caught >>= following) := by
  show Flat ok held last (first.caught.bind following)
  -- Catching keeps the steps, so the induction is on the thread that is caught.
  induction begun with
  | done result => exact rest result
  | lock _ ih => exact .lock (ih rest)
  | unlock _ ih => exact .unlock (ih rest)
  | access _ ih => exact .access fun state met => ih state met rest

theorem lift (result : Except ε α) : Flat ok held held (Program.lift result : Thread Lock σ ε α) := .done result

theorem guarded {lock : Lock} {body : Thread Lock σ ε α} (flat : Flat ok (some lock) (some lock) body) :
    Flat ok none none (Thread.guarded lock body) := by
  refine .lock ?_
  show Flat ok (some lock) none (body.caught >>= fun result => Program.perform (.unlock lock) >>= fun _ => .lift result)
  exact flat.caught_bind fun result => .unlock (.lift result)

end Flat

end Thread

/-- The threads of a process, which of them owns a lock, and the state that they share. -/
structure Threads (Lock σ ε : Type) where
  threads : List (Thread Lock σ ε Unit)
  owner : Lock → Option Nat
  state : σ

namespace Threads

variable {Lock σ ε : Type} {world next last : Threads Lock σ ε} {i : Nat}

/-- The next step of a thread: a lock is taken when nobody owns it, and released by its owner. -/
inductive Step [DecidableEq Lock] : Threads Lock σ ε → Nat → Threads Lock σ ε → Prop
  | lock {world : Threads Lock σ ε} {i : Nat} {lock : Lock} {next : Except ε Unit → Thread Lock σ ε Unit}
      (turn : world.threads[i]? = some (.step (.lock lock) next)) (free : world.owner lock = none) :
      Step world i { world with
        threads := world.threads.set i (next (.ok ()))
        owner := Function.update world.owner lock (some i) }
  | unlock {world : Threads Lock σ ε} {i : Nat} {lock : Lock} {next : Except ε Unit → Thread Lock σ ε Unit}
      (turn : world.threads[i]? = some (.step (.unlock lock) next)) (own : world.owner lock = some i) :
      Step world i { world with
        threads := world.threads.set i (next (.ok ()))
        owner := Function.update world.owner lock none }
  | access {world : Threads Lock σ ε} {i : Nat} {β : Type} {work : σ → β × σ}
      {next : Except ε β → Thread Lock σ ε Unit} (turn : world.threads[i]? = some (.step (.access work) next)) :
      Step world i { world with
        threads := world.threads.set i (next (.ok (work world.state).1))
        state := (work world.state).2 }

/-- No thread can go on. -/
def Final [DecidableEq Lock] (world : Threads Lock σ ε) : Prop := ∀ i next, ¬Step world i next

/-- A thread waits for a lock that it owns itself. -/
def SelfBlocked (world : Threads Lock σ ε) (i : Nat) : Prop :=
  ∃ lock next, world.threads[i]? = some (.step (.lock lock) next) ∧ world.owner lock = some i

/-- A thread is about to work on the state. -/
def Works (world : Threads Lock σ ε) (i : Nat) : Prop :=
  ∃ (β : Type) (work : σ → β × σ) (next : Except ε β → Thread Lock σ ε Unit),
    world.threads[i]? = some (.step (.access work) next)

/-- A thread has come to its end. -/
def Returned (world : Threads Lock σ ε) (i : Nat) : Prop := ∃ result, world.threads[i]? = some (.done result)

theorem getElem?_replaced {threads : List (Thread Lock σ ε Unit)} {old rest thread : Thread Lock σ ε Unit} {j : Nat}
    (turn : threads[i]? = some old) (found : (threads.set i rest)[j]? = some thread) :
    (j = i ∧ thread = rest) ∨ (j ≠ i ∧ threads[j]? = some thread) := by
  by_cases same : j = i
  · subst same
    rw [List.getElem?_set_self (List.getElem?_eq_some_iff.mp turn).1] at found
    exact .inl ⟨rfl, (Option.some.inj found).symm⟩
  · rw [List.getElem?_set_ne (Ne.symm same)] at found
    exact .inr ⟨same, found⟩

variable [DecidableEq Lock]

variable {j : Nat}

theorem Step.others (step : Step world i next) (other : j ≠ i) : next.threads[j]? = world.threads[j]? := by
  cases step <;> exact List.getElem?_set_ne other.symm

theorem Step.works {β : Type} {work : σ → β × σ} {later : Except ε β → Thread Lock σ ε Unit}
    (turn : world.threads[i]? = some (.step (.access work) later)) (step : Step world i next) :
    next = { world with
      threads := world.threads.set i (later (.ok (work world.state).1))
      state := (work world.state).2 } := by
  cases step with
  | lock taken _ => cases turn.symm.trans taken
  | unlock taken _ => cases turn.symm.trans taken
  | access taken =>
    cases turn.symm.trans taken
    rfl

theorem Step.owner_kept {lock : Lock} (step : Step world j next) (other : j ≠ i)
    (own : world.owner lock = some i) : next.owner lock = some i := by
  cases step with
  | lock turn free =>
    rename_i taken _
    have apart : lock ≠ taken := fun same => by rw [← same, own] at free; cases free
    exact (Function.update_of_ne apart _ _).trans own
  | unlock turn theirs =>
    rename_i released _
    have apart : lock ≠ released := fun same => by
      rw [← same, own] at theirs
      exact other (Option.some.inj theirs).symm
    exact (Function.update_of_ne apart _ _).trans own
  | access turn => exact own

theorem Step.cutExpand (step : Step world i next) :
    Relation.CutExpand Thread.Rest (next.threads : Multiset (Thread Lock σ ε Unit)) world.threads := by
  have replaced {thread rest : Thread Lock σ ε Unit} (turn : world.threads[i]? = some thread)
      (left : Thread.Rest rest thread) :
      Relation.CutExpand Thread.Rest (world.threads.set i rest : Multiset (Thread Lock σ ε Unit)) world.threads := by
    obtain ⟨inside, rfl⟩ := List.getElem?_eq_some_iff.mp turn
    rw [Multiset.coe_eq_coe.mpr (List.set_perm_cons_eraseIdx inside rest),
      Multiset.coe_eq_coe.mpr (List.getElem_cons_eraseIdx_perm inside).symm]
    simp only [← Multiset.cons_coe, ← Multiset.singleton_add]
    exact Relation.cutExpand_single_add left _
  cases step with
  | lock turn free => exact replaced turn ⟨_, _, _, _, rfl, rfl⟩
  | unlock turn own => exact replaced turn ⟨_, _, _, _, rfl, rfl⟩
  | access turn => exact replaced turn ⟨_, _, _, _, rfl, rfl⟩

theorem step_wellFounded : WellFounded fun (next world : Threads Lock σ ε) => ∃ i, Step world i next :=
  Subrelation.wf (fun ⟨_, step⟩ => step.cutExpand)
    (InvImage.wf (fun world : Threads Lock σ ε => (world.threads : Multiset (Thread Lock σ ε Unit)))
      Thread.rest_wellFounded.cutExpand)

theorem exists_final (world : Threads Lock σ ε) :
    ∃ last, Relation.ReflTransGen (fun world next => ∃ i, Step world i next) world last ∧ Final last := by
  apply WellFounded.induction step_wellFounded world
  intro world ih
  by_cases final : Final world
  · exact ⟨world, .refl, final⟩
  · simp only [Final, not_forall, not_not] at final
    obtain ⟨i, next, step⟩ := final
    obtain ⟨last, run, ended⟩ := ih next ⟨i, step⟩
    exact ⟨last, .head ⟨i, step⟩ run, ended⟩

theorem SelfBlocked.step (blocked : SelfBlocked world i) (step : Step world j next) : SelfBlocked next i := by
  obtain ⟨lock, rest, waits, own⟩ := blocked
  have other : j ≠ i := by
    rintro rfl
    cases step with
    | lock turn free =>
      cases waits.symm.trans turn
      rw [own] at free
      cases free
    | unlock turn _ => cases waits.symm.trans turn
    | access turn => cases waits.symm.trans turn
  exact ⟨lock, rest, (step.others other.symm).trans waits, step.owner_kept other own⟩

/-- Every thread is flat, and the locks it holds are those it owns. -/
structure Orderly (ok : Nat → σ → Prop) (world : Threads Lock σ ε) : Prop where
  flat : ∀ (i : Nat) (thread : Thread Lock σ ε Unit), world.threads[i]? = some thread →
    ∃ held, Thread.Flat (ok i) held none thread ∧ ∀ lock, world.owner lock = some i ↔ held = some lock
  owned : ∀ lock i, world.owner lock = some i → i < world.threads.length

/-- A step keeps the threads orderly when the state it works on is as it should be. -/
theorem Orderly.step {ok : Nat → σ → Prop} (orderly : Orderly ok world) (step : Step world i next)
    (met : Works world i → ok i world.state) : Orderly ok next := by
  obtain ⟨flat, owned⟩ := orderly
  cases step with
  | lock turn free =>
    rename_i taken following
    constructor
    case flat =>
      intro j thread found
      rcases getElem?_replaced turn found with ⟨rfl, rfl⟩ | ⟨other, found⟩
      · -- The thread held nothing before, and now it holds the lock.
        obtain ⟨held, whole, holds⟩ := flat j _ turn
        cases whole with
        | lock rest =>
          refine ⟨some taken, rest, fun lock => ?_⟩
          by_cases same : lock = taken
          · subst same
            simp
          · have none := holds lock
            simp only [reduceCtorEq, iff_false] at none
            simp [Function.update_of_ne same, none, Ne.symm same]
      · obtain ⟨held, whole, holds⟩ := flat j thread found
        refine ⟨held, whole, fun lock => ?_⟩
        by_cases same : lock = taken
        · subst same
          have absent := holds lock
          rw [free] at absent
          simp only [reduceCtorEq, false_iff] at absent
          simp [absent, Ne.symm other]
        · simp [Function.update_of_ne same, holds]
    case owned =>
      intro lock j owner
      rw [List.length_set]
      by_cases same : lock = taken
      · subst same
        obtain rfl := Option.some.inj ((Function.update_self lock (some i) world.owner).symm.trans owner)
        exact (List.getElem?_eq_some_iff.mp turn).1
      · exact owned lock j ((Function.update_of_ne same _ _).symm.trans owner)
  | unlock turn own =>
    rename_i released following
    constructor
    case flat =>
      intro j thread found
      rcases getElem?_replaced turn found with ⟨rfl, rfl⟩ | ⟨other, found⟩
      · -- The thread held the lock alone, and now it holds nothing.
        obtain ⟨held, whole, holds⟩ := flat j _ turn
        cases whole with
        | unlock rest =>
          refine ⟨none, rest, fun lock => ?_⟩
          by_cases same : lock = released
          · subst same
            simp
          · have alone := holds lock
            simp only [Option.some.injEq, Ne.symm same, iff_false] at alone
            simp [Function.update_of_ne same, alone]
      · obtain ⟨held, whole, holds⟩ := flat j thread found
        refine ⟨held, whole, fun lock => ?_⟩
        by_cases same : lock = released
        · subst same
          have absent := holds lock
          rw [own] at absent
          simp only [Option.some.injEq, Ne.symm other, false_iff] at absent
          simp [absent]
        · simp [Function.update_of_ne same, holds]
    case owned =>
      intro lock j owner
      rw [List.length_set]
      by_cases same : lock = released
      · subst same
        cases (Function.update_self lock none world.owner).symm.trans owner
      · exact owned lock j ((Function.update_of_ne same _ _).symm.trans owner)
  | access turn =>
    constructor
    case flat =>
      intro j thread found
      rcases getElem?_replaced turn found with ⟨rfl, rfl⟩ | ⟨other, found⟩
      · obtain ⟨held, whole, holds⟩ := flat j _ turn
        cases whole with
        | access rest => exact ⟨held, rest _ (met ⟨_, _, _, turn⟩), holds⟩
      · exact flat j thread found
    case owned =>
      intro lock j owner
      rw [List.length_set]
      exact owned lock j owner

theorem Orderly.not_selfBlocked {ok : Nat → σ → Prop} (orderly : Orderly ok world) : ¬SelfBlocked world i := by
  rintro ⟨lock, next, waits, own⟩
  obtain ⟨held, whole, holds⟩ := orderly.flat i _ waits
  obtain rfl := (holds lock).mp own
  cases whole

theorem Orderly.returned {ok : Nat → σ → Prop} (orderly : Orderly ok world) (final : Final world)
    (inside : i < world.threads.length) : Returned world i := by
  obtain ⟨flat, owned⟩ := orderly
  -- A thread that holds a lock could go on, so nobody owns one.
  have free : ∀ lock, world.owner lock = none := by
    intro lock
    by_contra taken
    obtain ⟨j, own⟩ := Option.ne_none_iff_exists'.mp taken
    obtain ⟨thread, turn⟩ : ∃ thread, world.threads[j]? = some thread :=
      ⟨_, List.getElem?_eq_getElem (owned lock j own)⟩
    obtain ⟨held, whole, holds⟩ := flat j thread turn
    obtain rfl := (holds lock).mp own
    cases whole with
    | unlock rest => exact final j _ (.unlock turn own)
    | access rest => exact final j _ (.access turn)
  obtain ⟨thread, turn⟩ : ∃ thread, world.threads[i]? = some thread := ⟨_, List.getElem?_eq_getElem inside⟩
  obtain ⟨held, whole, holds⟩ := flat i thread turn
  cases whole with
  | done result => exact ⟨result, turn⟩
  | lock rest => exact (final i _ (.lock turn (free _))).elim
  | unlock rest =>
    have own := (holds _).mpr rfl
    rw [free] at own
    cases own
  | access rest => exact (final i _ (.access turn)).elim

end Threads

end CNShell
