import CNShell.Library.Transition

/-! Operations on a shared document that load it, compute another one from it, and store that. -/

namespace CNShell

namespace Rewrite

variable {Op σ ρ : Type}

/-- How far an operation has come. -/
inductive Stage (σ : Type)
  | started
  /-- It has loaded the document and is about to store another one. -/
  | loaded (seen : σ)
  | done
  deriving DecidableEq

/-- A document and the operations on it. -/
structure Shared (Op σ : Type) where
  document : σ
  calls : List (Op × Stage σ)

/-- What happens to a document. -/
inductive Event (Op : Type)
  | start (op : Op)
  | load (n : Nat)
  | store (n : Nat)
  /-- An operation fails or is given up before it stores anything. -/
  | drop (n : Nat)

variable (compute : Op → σ → ρ × Option σ)

/-- What an operation is about to do after it has loaded a document: it may have nothing to store. -/
def afterLoad (op : Op) (seen : σ) : Stage σ := if (compute op seen).2.isSome = true then .loaded seen else .done

/-- What one event makes of a document and the operations on it. -/
def step (shared : Shared Op σ) : Event Op → Option (Shared Op σ)
  | .start op => some { shared with calls := shared.calls ++ [(op, .started)] }
  | .load n =>
    match shared.calls[n]? with
    | some (op, .started) =>
      some { shared with calls := shared.calls.set n (op, afterLoad compute op shared.document) }
    | _ => none
  | .store n =>
    match shared.calls[n]? with
    | some (op, .loaded seen) =>
      some ⟨(compute op seen).2.getD shared.document, shared.calls.set n (op, .done)⟩
    | _ => none
  | .drop n =>
    match shared.calls[n]? with
    | some (op, _) => some { shared with calls := shared.calls.set n (op, .done) }
    | none => none

/-- The runs from a document that nobody works on. -/
def system (document : σ) : System (Shared Op σ) (Event Op) :=
  .ofStep (fun shared => shared = ⟨document, []⟩) (step compute)

/-- The operation that an event finishes, with its result. -/
def finished (shared : Shared Op σ) : Event Op → Option (Op × ρ)
  | .load n =>
    match shared.calls[n]? with
    | some (op, .started) =>
      if (compute op shared.document).2.isSome = true then none
      else some (op, (compute op shared.document).1)
    | _ => none
  | .store n =>
    match shared.calls[n]? with
    | some (op, .loaded seen) => some (op, (compute op seen).1)
    | _ => none
  | _ => none

/-- The operations that a run finishes, with their results. -/
def history (trace : List (Shared Op σ × Event Op)) : List (Op × ρ) :=
  trace.filterMap fun entry => finished compute entry.1 entry.2

/-- Operations that are executed one after another: their results, and the document they leave. -/
def replay (document : σ) : List Op → List (Op × ρ) × σ
  | [] => ([], document)
  | op :: ops =>
    let rest := replay ((compute op document).2.getD document) ops
    ((op, (compute op document).1) :: rest.1, rest.2)

/-- Some order in which the finished operations have their results and leave the document. -/
def Serial (document : σ) (trace : List (Shared Op σ × Event Op)) (shared : Shared Op σ) : Prop :=
  ∃ order, (replay compute document order).1.Perm (history compute trace) ∧
    (replay compute document order).2 = shared.document

/-- An operation that stores finds the document it has loaded. -/
def Unchanged (shared : Shared Op σ) : Event Op → Prop
  | .store n => ∀ op seen, shared.calls[n]? = some (op, .loaded seen) → shared.document = seen
  | _ => True

instance [DecidableEq σ] (shared : Shared Op σ) : (event : Event Op) → Decidable (Unchanged shared event)
  | .start _ | .load _ | .drop _ => isTrue trivial
  | .store n =>
    match there : shared.calls[n]? with
    | some (op, .loaded seen) =>
      decidable_of_iff (shared.document = seen) (by simp [Unchanged, there])
    | some (op, .started) | some (op, .done) | none => isTrue (by simp [Unchanged, there])

variable {compute}

theorem replay_concat (document : σ) (ops : List Op) (op : Op) :
    replay compute document (ops ++ [op]) =
      ((replay compute document ops).1 ++ [(op, (compute op (replay compute document ops).2).1)],
        (compute op (replay compute document ops).2).2.getD (replay compute document ops).2) := by
  induction ops generalizing document with
  | nil => rfl
  | cons first ops ih => simp [replay, ih]

theorem map_fst_replay (compute : Op → σ → ρ × Option σ) (document : σ) (ops : List Op) :
    (replay compute document ops).1.map Prod.fst = ops := by
  induction ops generalizing document with
  | nil => rfl
  | cons op ops ih => simp [replay, ih]

theorem replay_append (document : σ) (ops further : List Op) :
    replay compute document (ops ++ further) =
      ((replay compute document ops).1 ++ (replay compute (replay compute document ops).2 further).1,
        (replay compute (replay compute document ops).2 further).2) := by
  induction ops generalizing document with
  | nil => rfl
  | cons first ops ih => simp [replay, ih]

variable {document : σ}

theorem replay_keeps (holds : σ → Prop) {ops : List Op}
    (keeps : ∀ op ∈ ops, ∀ document, holds document → holds ((compute op document).2.getD document))
    (before : holds document) : holds (replay compute document ops).2 := by
  induction ops generalizing document with
  | nil => exact before
  | cons op ops ih =>
    exact ih (fun other member => keeps other (List.mem_cons_of_mem _ member))
      (keeps op List.mem_cons_self document before)

theorem replay_since (holds : σ → Prop) {before after : List (Op × ρ)} {op : Op} {result : ρ} {left : σ}
    (replayed : replay compute document ((before ++ (op, result) :: after).map Prod.fst) =
      (before ++ (op, result) :: after, left))
    (brings : ∀ document, (compute op document).1 = result → holds ((compute op document).2.getD document))
    (keeps : ∀ entry ∈ after, ∀ document, holds document → holds ((compute entry.1 document).2.getD document)) :
    holds left := by
  rw [List.map_append, List.map_cons, replay_append] at replayed
  obtain ⟨results, rfl⟩ := Prod.mk.inj replayed
  -- The results before the operation are as many as the operations before it.
  have many := congrArg List.length (map_fst_replay compute document (before.map Prod.fst))
  rw [List.length_map, List.length_map] at many
  obtain ⟨-, here⟩ := List.append_inj results many
  simp only [replay, List.cons.injEq, Prod.mk.injEq, true_and] at here
  show holds (replay compute _ (after.map Prod.fst)).2
  refine replay_keeps holds (fun other member => ?_) (brings _ here.1)
  obtain ⟨entry, among, rfl⟩ := List.mem_map.mp member
  exact keeps entry among

variable {event : Event Op} {shared : Shared Op σ}

theorem finished_some {next : Shared Op σ} {entry : Op × ρ}
    (unchanged : Unchanged shared event) (taken : step compute shared event = some next)
    (ends : finished compute shared event = some entry) :
    entry.2 = (compute entry.1 shared.document).1 ∧
      next.document = (compute entry.1 shared.document).2.getD shared.document := by
  cases event with
  | start op => cases ends
  | drop n => cases ends
  | load n =>
    simp only [finished] at ends
    simp only [step] at taken
    split at ends
    · next op there =>
      simp only [there] at taken
      split at ends
      · cases ends
      · next nothing =>
        obtain rfl := Option.some.inj ends
        obtain rfl := Option.some.inj taken
        refine ⟨rfl, ?_⟩
        rw [Option.not_isSome_iff_eq_none.mp nothing]
        rfl
    · cases ends
  | store n =>
    simp only [finished] at ends
    simp only [step] at taken
    split at ends
    · next op seen there =>
      simp only [there] at taken
      obtain rfl := Option.some.inj ends
      obtain rfl := Option.some.inj taken
      obtain rfl : shared.document = seen := unchanged op seen there
      exact ⟨rfl, rfl⟩
    · cases ends

theorem finished_none {next : Shared Op σ}
    (taken : step compute shared event = some next) (goes : finished compute shared event = none) :
    next.document = shared.document := by
  cases event with
  | start op =>
    obtain rfl := Option.some.inj taken
    rfl
  | drop | load =>
    simp only [step] at taken
    split at taken
    · obtain rfl := Option.some.inj taken
      rfl
    · cases taken
  | store n =>
    simp only [step] at taken
    split at taken
    · next op seen there => simp [finished, there] at goes
    · cases taken

variable {trace : List (Shared Op σ × Event Op)}

/--
Where every operation stores over the document it has loaded, a run is serial.

The order is the one in which the operations finish.
-/
theorem serial_of_unchanged (run : (system compute document).Run trace shared)
    (unchanged : ∀ entry ∈ trace, Unchanged entry.1 entry.2) :
    replay compute document ((history compute trace).map Prod.fst) = (history compute trace, shared.document) := by
  refine run.history Unchanged (fun trace shared =>
    replay compute document ((history compute trace).map Prod.fst) = (history compute trace, shared.document))
    ?_ ?_ unchanged
  · rintro shared rfl
    rfl
  · intro trace shared event next before same taken
    have split : history compute (trace ++ [(shared, event)]) =
        history compute trace ++ (finished compute shared event).toList := by
      cases ends : finished compute shared event <;> simp [history, ends]
    rw [split]
    cases ends : finished compute shared event with
    | none =>
      rw [finished_none taken ends]
      simpa using before
    | some entry =>
      obtain ⟨result, left⟩ := finished_some same taken ends
      rw [Option.toList_some, List.map_append, List.map_singleton, replay_concat, before, left, ← result]

theorem Serial.of_unchanged (run : (system compute document).Run trace shared)
    (unchanged : ∀ entry ∈ trace, Unchanged entry.1 entry.2) : Serial compute document trace shared := by
  have replayed := serial_of_unchanged run unchanged
  exact ⟨_, by rw [replayed], by rw [replayed]⟩

end Rewrite

end CNShell
