import Mathlib.Data.List.Basic

/-! Labelled transition systems, their runs, and the rules that carry an invariant along a run. -/

namespace CNShell

/-- A transition system: where it may start and which labelled steps lead on from a state. -/
structure System (σ : Type u) (ℓ : Type v) where
  /-- The states a run may start in. -/
  initial : σ → Prop
  /-- One step from a state, under a label, to a next state. -/
  step : σ → ℓ → σ → Prop

namespace System

variable {σ : Type u} {ℓ : Type v} {system : System σ ℓ}

/-- A finite run: its steps, each as the state it left and its label, and the state it reached. -/
inductive Run (system : System σ ℓ) : List (σ × ℓ) → σ → Prop
  | start {state : σ} (begins : system.initial state) : Run system [] state
  | snoc {trace : List (σ × ℓ)} {state next : σ} {label : ℓ} (earlier : Run system trace state)
      (taken : system.step state label next) : Run system (trace ++ [(state, label)]) next

/-- The states some run reaches. -/
def Reachable (system : System σ ℓ) (state : σ) : Prop := ∃ trace, Run system trace state

variable {state : σ}

theorem Reachable.start (begins : system.initial state) : system.Reachable state := ⟨[], .start begins⟩

theorem Reachable.step {next : σ} {label : ℓ} (reached : system.Reachable state)
    (taken : system.step state label next) : system.Reachable next :=
  let ⟨trace, run⟩ := reached
  ⟨trace ++ [(state, label)], run.snoc taken⟩

/--
A property of the steps so far and the state they reached holds of every run.

The steps may be restricted: a step is only asked to keep the property when it meets `ok`.
-/
theorem Run.history (ok : σ → ℓ → Prop) (holds : List (σ × ℓ) → σ → Prop)
    (starts : ∀ state, system.initial state → holds [] state)
    (keeps : ∀ trace state label next, holds trace state → ok state label →
      system.step state label next → holds (trace ++ [(state, label)]) next)
    {trace : List (σ × ℓ)} {state : σ} (run : system.Run trace state)
    (meets : ∀ entry ∈ trace, ok entry.1 entry.2) : holds trace state := by
  -- The induction is on the run, whose last step is the last entry of its trace.
  induction run with
  | start begins => exact starts _ begins
  | snoc earlier taken ih =>
    have before := ih fun entry member => meets entry (List.mem_append.mpr (.inl member))
    exact keeps _ _ _ _ before (meets (_, _) (by simp)) taken

variable {trace : List (σ × ℓ)}

theorem Run.invariant (ok : σ → ℓ → Prop) (holds : σ → Prop) (starts : ∀ state, system.initial state → holds state)
    (keeps : ∀ state label next, holds state → ok state label →
      system.step state label next → holds next) (run : system.Run trace state)
    (meets : ∀ entry ∈ trace, ok entry.1 entry.2) : holds state :=
  run.history ok (fun _ state => holds state) starts
    (fun _ state label next => keeps state label next) meets

theorem Reachable.invariant (holds : σ → Prop) (starts : ∀ state, system.initial state → holds state)
    (keeps : ∀ state label next, holds state → system.step state label next → holds next)
    (reached : system.Reachable state) : holds state := by
  obtain ⟨trace, run⟩ := reached
  exact run.invariant (fun _ _ => True) holds starts
    (fun state label next before _ => keeps state label next before) (fun _ _ => trivial)

/--
A property of states and one of steps hold all along a run exactly when every step meets `ok`.

What is carried along implies the first; a step that does not meet `ok` breaks one of them at once.
-/
theorem Run.exactly_moves (ok : σ → ℓ → Prop) (carries holds : σ → Prop) (moves : σ → ℓ → Prop)
    (starts : ∀ state, system.initial state → carries state) (implies : ∀ state, carries state → holds state)
    (keeps : ∀ state label next, carries state → ok state label →
      system.step state label next → carries next ∧ moves state label)
    (breaks : ∀ state label next, carries state → ¬ok state label →
      system.step state label next → ¬(moves state label ∧ holds next)) (run : system.Run trace state) :
    ((∀ entry ∈ trace, holds entry.1 ∧ moves entry.1 entry.2) ∧ holds state) ↔
      ∀ entry ∈ trace, ok entry.1 entry.2 := by
  -- The induction is on the run; up to its last step both sides agree already.
  induction run with
  | start begins => simp [implies _ (starts _ begins)]
  | @snoc trace state next label earlier taken ih =>
    have carried : (∀ entry ∈ trace, ok entry.1 entry.2) → carries state :=
      earlier.invariant ok carries starts
        fun state label next before met taken => (keeps state label next before met taken).1
    simp only [List.forall_mem_append, List.forall_mem_singleton]
    constructor
    · rintro ⟨⟨before, here, moved⟩, after⟩
      have met := ih.mp ⟨before, here⟩
      refine ⟨met, ?_⟩
      by_contra unmet
      exact breaks _ _ _ (carried met) unmet taken ⟨moved, after⟩
    · intro met
      obtain ⟨before, here⟩ := ih.mpr met.1
      obtain ⟨after, moved⟩ := keeps _ _ _ (carried met.1) met.2 taken
      exact ⟨⟨before, here, moved⟩, implies _ after⟩

theorem Run.exactly (ok : σ → ℓ → Prop) (carries holds : σ → Prop)
    (starts : ∀ state, system.initial state → carries state) (implies : ∀ state, carries state → holds state)
    (keeps : ∀ state label next, carries state → ok state label →
      system.step state label next → carries next) (breaks : ∀ state label next, carries state → ¬ok state label →
      system.step state label next → ¬holds next) (run : system.Run trace state) :
    ((∀ entry ∈ trace, holds entry.1) ∧ holds state) ↔ ∀ entry ∈ trace, ok entry.1 entry.2 := by
  have exact_run := run.exactly_moves ok carries holds (fun _ _ => True) starts implies
    (fun state label next before met taken => ⟨keeps state label next before met taken, trivial⟩)
    (fun state label next before unmet taken both =>
      breaks state label next before unmet taken both.2)
  simpa using exact_run

theorem Run.visited {trace : List (σ × ℓ)} {state : σ} (run : system.Run trace state) :
    ∀ entry ∈ trace, ∃ before after, trace = before ++ entry :: after ∧ system.Run before entry.1 := by
  induction run with
  | start begins => simp
  | @snoc trace state next label earlier taken ih =>
    intro entry member
    rcases List.mem_append.mp member with old | last
    · obtain ⟨before, after, split, reached⟩ := ih entry old
      exact ⟨before, after ++ [(state, label)], by simp [split], reached⟩
    · -- The last entry left the state the whole earlier run reached.
      obtain rfl : entry = (state, label) := by simpa using last
      exact ⟨trace, [], rfl, earlier⟩

theorem Run.taken (run : system.Run trace state) :
    ∀ entry ∈ trace, ∃ before next, system.Run before entry.1 ∧ system.step entry.1 entry.2 next := by
  induction run with
  | start begins => simp
  | @snoc trace state next label earlier taken ih =>
    intro entry member
    rcases List.mem_append.mp member with old | last
    · exact ih entry old
    · obtain rfl : entry = (state, label) := by simpa using last
      exact ⟨trace, next, earlier, taken⟩

/-- The same steps, with runs that start in one given state. -/
def onward (system : System σ ℓ) (start : σ) : System σ ℓ where
  initial state := state = start
  step := system.step

/-- The steps that meet a condition. -/
def restrict (system : System σ ℓ) (ok : σ → ℓ → Prop) : System σ ℓ where
  initial := system.initial
  step state label next := ok state label ∧ system.step state label next

theorem Run.restrict (ok : σ → ℓ → Prop) (run : system.Run trace state)
    (meets : ∀ entry ∈ trace, ok entry.1 entry.2) : (system.restrict ok).Run trace state := by
  induction run with
  | start begins => exact .start begins
  | snoc earlier taken ih =>
    have before := ih fun entry member => meets entry (List.mem_append.mpr (.inl member))
    exact before.snoc ⟨meets (_, _) (by simp), taken⟩

theorem guarded_eq_some {guard : Prop} [Decidable guard] {taken next : σ} :
    (if guard then some taken else none) = some next ↔ guard ∧ taken = next := by
  rw [Option.ite_none_right_eq_some, Option.some.injEq]

/-- The system of a function that says what each label does, if it can happen. -/
def ofStep (initial : σ → Prop) (step : σ → ℓ → Option σ) : System σ ℓ where
  initial := initial
  step state label next := step state label = some next

/-- What some labels do one after the other: the steps they are, and where they lead. -/
def trail (step : σ → ℓ → Option σ) : σ → List ℓ → Option (List (σ × ℓ) × σ)
  | state, [] => some ([], state)
  | state, label :: labels => (step state label).bind fun next =>
      (trail step next labels).map fun (trace, last) => ((state, label) :: trace, last)

theorem Run.trail {initial : σ → Prop} {step : σ → ℓ → Option σ} {more : List (σ × ℓ)}
    {last : σ} {labels : List ℓ} (run : (ofStep initial step).Run trace state)
    (goes : System.trail step state labels = some (more, last)) : (ofStep initial step).Run (trace ++ more) last := by
  -- Each label adds its own step before the rest is gone through.
  induction labels generalizing trace state more with
  | nil =>
    obtain ⟨rfl, rfl⟩ : [] = more ∧ state = last := by simpa [System.trail] using goes
    simpa using run
  | cons label labels ih =>
    simp only [System.trail, Option.bind_eq_some_iff, Option.map_eq_some_iff, Prod.mk.injEq, Prod.exists] at goes
    obtain ⟨next, taken, rest, _, follows, rfl, rfl⟩ := goes
    have further := ih (run.snoc taken) follows
    rwa [List.append_assoc, List.singleton_append] at further

end System

theorem exists_of_checked {α : Type*} {found : Option α} {check : α → Bool} (checked : found.elim false check = true) :
    ∃ reached, found = some reached ∧ check reached = true := by
  cases found with
  | none => cases checked
  | some reached => exact ⟨reached, rfl, checked⟩

end CNShell
