import CNShell.Library.Program

/-! Programs against a partner on whom a failed action has an effect too. -/

namespace CNShell

/-- What every action comes to: its outcome, and the partner after it. -/
structure Reaction (Act : Type → Type u) (ε : Type) (σ : Type v) where
  react : {β : Type} → Act β → σ → Except ε β × σ

namespace Program

variable {Act : Type → Type u} {ε : Type} {σ : Type v} {α β : Type}

/-- The result of a program and the partner after it. -/
def play (partner : Reaction Act ε σ) : Program Act ε α → σ → Except ε α × σ
  | .done result, state => (result, state)
  | .step action next, state =>
    (next (partner.react action state).1).play partner (partner.react action state).2

section Play

variable {partner : Reaction Act ε σ} {state : σ}

@[simp] theorem play_done (result : Except ε α) :
    (Program.done result : Program Act ε α).play partner state = (result, state) := rfl

@[simp] theorem play_lift (result : Except ε α) :
    (lift result : Program Act ε α).play partner state = (result, state) := rfl

@[simp] theorem play_pure (value : α) : (pure value : Program Act ε α).play partner state = (.ok value, state) := rfl

@[simp] theorem play_perform (action : Act α) :
    (perform action : Program Act ε α).play partner state = partner.react action state := rfl

theorem play_bind (program : Program Act ε α) (following : α → Program Act ε β) :
    (program >>= following).play partner state =
      match program.play partner state with
      | (.ok value, next) => (following value).play partner next
      | (.error error, next) => (.error error, next) := by
  show (program.bind following).play partner state = _
  -- The induction is on the first program, whose actions come first in the sequence.
  induction program generalizing state with
  | done result => cases result <;> rfl
  | step action next ih => exact ih (partner.react action state).1

end Play

end Program

end CNShell
