import CNShell.Library.Checked
import Mathlib.Logic.Relation

/-! What runs while a lock is held: a failure stops it, but keeps the changes that were made before. -/

namespace CNShell

/-- A critical section: from the guarded state, a result or an error, and the state it leaves. -/
def Section (σ : Type u) (ε : Type v) (α : Type u) : Type (max u v) := σ → Except ε α × σ

namespace Section

variable {σ α β : Type u} {ε : Type v}

/-- One section after another, the second chosen by the first's value and skipped on an error. -/
protected def bind (first : Section σ ε α) (following : α → Section σ ε β) : Section σ ε β :=
  fun state =>
    match first state with
    | (.ok value, next) => following value next
    | (.error error, next) => (.error error, next)

instance : Monad (Section σ ε) where
  pure value := fun state => (.ok value, state)
  bind := Section.bind

/-- A check of values that are known outside, or computed from what was read. -/
def check (result : Except ε α) : Section σ ε α := fun state => (result, state)

/-- The guarded state. -/
def get : Section σ ε σ := fun state => (.ok state, state)

/-- A change of the guarded state. -/
def modify (change : σ → σ) : Section σ ε PUnit := fun state => (.ok ⟨⟩, change state)

/-- A section whose failure is followed by a change of the state. -/
def undoing (whole : Section σ ε α) (undo : σ → σ) : Section σ ε α := fun state =>
  match whole state with
  | (.ok value, next) => (.ok value, next)
  | (.error error, next) => (.error error, undo next)

/-- A section whose error is put in other words. -/
def mapError (whole : Section σ ε α) (words : ε → ε) : Section σ ε α := fun state =>
  ((whole state).1.mapError words, (whole state).2)

section Execution

variable {state : σ}

@[simp] theorem pure_apply (value : α) : (pure value : Section σ ε α) state = (.ok value, state) := rfl

@[simp] theorem check_apply (result : Except ε α) : (check result : Section σ ε α) state = (result, state) := rfl

@[simp] theorem modify_apply (change : σ → σ) :
    (modify change : Section σ ε PUnit) state = (.ok ⟨⟩, change state) := rfl

theorem check_bind_apply (result : Except ε α) (following : α → Section σ ε β) :
    (check result >>= following) state =
      match result with
      | .ok value => following value state
      | .error error => (.error error, state) := by
  cases result <;> rfl

@[simp] theorem get_bind_apply {following : σ → Section σ ε β} :
    (get >>= following) state = following state state := rfl

@[simp] theorem modify_bind_apply (change : σ → σ) {following : PUnit → Section σ ε β} :
    (modify change >>= following) state = following ⟨⟩ (change state) := rfl

variable {following : α → Section σ ε β}

theorem bind_eq_ok {first : Section σ ε α} {value : β} {next : σ} : (first >>= following) state = (.ok value, next) ↔
      ∃ found middle, first state = (.ok found, middle) ∧ following found middle = (.ok value, next) := by
  show Section.bind first following state = _ ↔ _
  unfold Section.bind
  -- Only a first section that succeeded hands over to the second.
  rcases first state with ⟨result, middle⟩
  cases result with
  | ok found => simp [and_assoc]
  | error error => simp

theorem bind_apply_ok {first : Section σ ε α} {found : α} {middle : σ}
    (ran : first state = (.ok found, middle)) : (first >>= following) state = following found middle := by
  show Section.bind first following state = _
  rw [Section.bind, ran]

variable {error : ε}

theorem bind_apply_error {first : Section σ ε α} {middle : σ} (ran : first state = (.error error, middle)) :
    (first >>= following) state = (.error error, middle) := by
  show Section.bind first following state = _
  rw [Section.bind, ran]

theorem bind_eq_error {first : Section σ ε α} {next : σ} : (first >>= following) state = (.error error, next) ↔
      first state = (.error error, next) ∨ ∃ found middle, first state = (.ok found, middle) ∧
        following found middle = (.error error, next) := by
  show Section.bind first following state = _ ↔ _
  unfold Section.bind
  rcases first state with ⟨result, middle⟩
  cases result with
  | ok found => simp [and_assoc]
  | error error => simp

variable {value : α} {undo : σ → σ} {whole : Section σ ε α}

variable {next : σ}

@[simp] theorem undoing_eq_ok : whole.undoing undo state = (.ok value, next) ↔ whole state = (.ok value, next) := by
  unfold undoing
  split <;> simp_all

theorem undoing_eq_error :
    whole.undoing undo state = (.error error, next) ↔
      ∃ middle, whole state = (.error error, middle) ∧ undo middle = next := by
  unfold undoing
  split <;> rename_i ran
  · simp [ran]
  · simp [ran, and_assoc]

variable {result : Except ε α}

@[simp] theorem check_eq_ok {next : σ} :
    (check result : Section σ ε α) state = (.ok value, next) ↔ result = .ok value ∧ state = next := by
  simp [check]

theorem check_bind_eq_ok {value : β} {next : σ} : (check result >>= following) state = (.ok value, next) ↔
      ∃ found, result = .ok found ∧ following found state = (.ok value, next) := by
  rw [bind_eq_ok]
  simp [and_assoc]

end Execution

/-- Started where a property holds, the section leaves a state where it does, whatever its result is. -/
def Keeps (holds : σ → Prop) (whole : Section σ ε α) : Prop := ∀ state, holds state → holds (whole state).2

namespace Keeps

variable {holds : σ → Prop}

theorem pure (value : α) : Keeps holds (Pure.pure value : Section σ ε α) := fun _ before => before

theorem check (result : Except ε α) : Keeps holds (Section.check result : Section σ ε α) := fun _ before => before

theorem modify {change : σ → σ} (kept : ∀ state, holds state → holds (change state)) :
    Keeps holds (Section.modify change : Section σ ε PUnit) := kept

variable {following : α → Section σ ε β}

theorem bind {first : Section σ ε α} (before : Keeps holds first)
    (rest : ∀ value state next, first state = (.ok value, next) → Keeps holds (following value)) :
    Keeps holds (first >>= following) := by
  intro state start
  have reached := before state start
  show holds (Section.bind first following state).2
  unfold Section.bind
  generalize ran : first state = outcome at reached
  rcases outcome with ⟨result, next⟩
  cases result with
  | ok value => exact rest value state next ran next reached
  | error error => exact reached

theorem check_bind {result : Except ε α} (rest : ∀ value, result = .ok value → Keeps holds (following value)) :
    Keeps holds (Section.check result >>= following) := by
  refine .bind (.check result) fun value state next ran => ?_
  exact rest value (check_eq_ok.mp ran).1

theorem get_bind {following : σ → Section σ ε β}
    (rest : ∀ state, holds state → Keeps holds (following state)) :
    Keeps holds (Section.get >>= following) :=
  fun state before => rest state before state before

variable {whole : Section σ ε α}

theorem undoing {undo : σ → σ} (kept : Keeps holds whole)
    (back : ∀ state, holds state → holds (undo state)) : Keeps holds (whole.undoing undo) := by
  intro state start
  have reached := kept state start
  unfold Section.undoing
  split <;> rename_i ran <;> rw [ran] at reached
  · exact reached
  · exact back _ reached

theorem mapError {words : ε → ε} (kept : Keeps holds whole) : Keeps holds (whole.mapError words) := kept

end Keeps

/-- Whatever state it starts on, the section only returns values with a property. -/
def Returns (post : α → Prop) (whole : Section σ ε α) : Prop :=
  ∀ state value next, whole state = (.ok value, next) → post value

namespace Returns

variable {post : α → Prop}

theorem pure {value : α} (met : post value) : Returns post (Pure.pure value : Section σ ε α) := by
  intro state found next ran
  cases ran
  exact met

theorem bind {β : Type u} {first : Section σ ε β} {following : β → Section σ ε α}
    (rest : ∀ found, Returns post (following found)) : Returns post (first >>= following) := by
  intro state value next ran
  obtain ⟨found, middle, -, after⟩ := bind_eq_ok.mp ran
  exact rest found middle value next after

theorem bind_of {β : Type u} {first : Section σ ε β} {following : β → Section σ ε α}
    {before : β → Prop} (start : Returns before first)
    (rest : ∀ found, before found → Returns post (following found)) :
    Returns post (first >>= following) := by
  intro state value next ran
  obtain ⟨found, middle, ran, after⟩ := bind_eq_ok.mp ran
  exact rest found (start _ _ _ ran) middle value next after

end Returns

/-- Started on a state, the section reaches the state it leaves by steps, whatever its result is. -/
def Leads (step : σ → σ → Prop) (whole : Section σ ε α) (state : σ) : Prop :=
  Relation.ReflTransGen step state (whole state).2

namespace Leads

variable {step : σ → σ → Prop} {state : σ}

theorem pure (value : α) : Leads step (Pure.pure value : Section σ ε α) state := .refl

theorem check (result : Except ε α) : Leads step (Section.check result : Section σ ε α) state := .refl

theorem modify {change : σ → σ} (moves : step state (change state)) :
    Leads step (Section.modify change : Section σ ε PUnit) state :=
  .single moves

variable {following : α → Section σ ε β}

theorem bind {first : Section σ ε α} (before : Leads step first state)
    (rest : ∀ value next, first state = (.ok value, next) → Leads step (following value) next) :
    Leads step (first >>= following) state := by
  unfold Leads at before ⊢
  show Relation.ReflTransGen step state (Section.bind first following state).2
  unfold Section.bind
  -- An error ends the sequence where the first part stopped.
  generalize ran : first state = outcome at before ⊢
  rcases outcome with ⟨result, next⟩
  cases result with
  | ok value => exact before.trans (rest value next ran)
  | error error => exact before

theorem check_bind {result : Except ε α} (rest : ∀ value, result = .ok value → Leads step (following value) state) :
    Leads step (Section.check result >>= following) state := by
  refine .bind (.check result) fun value next ran => ?_
  obtain ⟨passed, rfl⟩ := check_eq_ok.mp ran
  exact rest value passed

theorem get_bind {following : σ → Section σ ε β} (rest : Leads step (following state) state) :
    Leads step (Section.get >>= following) state := rest

theorem modify_bind {change : σ → σ} {following : PUnit → Section σ ε β}
    (moves : step state (change state)) (rest : Leads step (following ⟨⟩) (change state)) :
    Leads step (Section.modify change >>= following) state :=
  Relation.ReflTransGen.head moves rest

theorem keeps {whole : Section σ ε α} (leads : Leads step whole state) {holds : σ → Prop}
    (preserved : ∀ before after, step before after → holds before → holds after)
    (start : holds state) : holds (whole state).2 := by
  -- The induction is on the steps that lead to the state the section leaves.
  unfold Leads at leads
  generalize (whole state).2 = final at leads
  induction leads with
  | refl => exact start
  | tail _ moves ih => exact preserved _ _ moves ih

end Leads

/-- Started on a state, the section reaches the state it leaves by steps whenever it fails. -/
def FailsBy (step : σ → σ → Prop) (whole : Section σ ε α) (state : σ) : Prop :=
  ∀ error next, whole state = (.error error, next) → Relation.ReflTransGen step state next

namespace FailsBy

variable {step : σ → σ → Prop} {state : σ}

theorem of_leads {whole : Section σ ε α} (leads : Leads step whole state) : FailsBy step whole state := by
  intro error next ran
  unfold Leads at leads
  rwa [ran] at leads

variable {following : α → Section σ ε β}

theorem bind {first : Section σ ε α} (before : Leads step first state)
    (rest : ∀ value next, first state = (.ok value, next) → FailsBy step (following value) next) :
    FailsBy step (first >>= following) state := by
  intro error final ran
  change Section.bind first following state = _ at ran
  unfold Section.bind at ran
  unfold Leads at before
  -- Where the first part succeeded, its steps come before those of the failure.
  generalize started : first state = outcome at before ran
  rcases outcome with ⟨result, next⟩
  cases result with
  | ok value => exact before.trans (rest value next started error final ran)
  | error failed =>
    obtain ⟨-, rfl⟩ := Prod.mk.injEq .. ▸ ran
    exact before

theorem check_bind {result : Except ε α} (rest : ∀ value, result = .ok value → FailsBy step (following value) state) :
    FailsBy step (Section.check result >>= following) state := by
  refine .bind (.check result) fun value next ran => ?_
  obtain ⟨passed, rfl⟩ := check_eq_ok.mp ran
  exact rest value passed

theorem get_bind {following : σ → Section σ ε β} (rest : FailsBy step (following state) state) :
    FailsBy step (Section.get >>= following) state := rest

theorem modify_bind {change : σ → σ} {following : PUnit → Section σ ε β}
    (moves : step state (change state)) (rest : FailsBy step (following ⟨⟩) (change state)) :
    FailsBy step (Section.modify change >>= following) state :=
  fun error next ran => Relation.ReflTransGen.head moves (rest error next ran)

end FailsBy

end Section

end CNShell
