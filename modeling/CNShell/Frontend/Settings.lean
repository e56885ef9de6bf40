import CNShell.Library.Transition

/-! The frontend's settings, which are shown at once and written to the backend in the order of the calls. -/

namespace CNShell

namespace Frontend

/-- How far the write of one save has come. -/
inductive WritePhase
  | waiting
  | sent
  | answered (stored : Bool)
  deriving DecidableEq

/-- An operation of the settings queue that is not finished. -/
structure PendingSave (α : Type u) where
  revision : Nat
  settings : α
  phase : WritePhase
  deriving DecidableEq

/-- The settings as they are shown, the operations behind them and what the backend stores. -/
structure SettingsState (α : Type u) where
  settings : α
  settingsRevision : Nat
  pendingSettings : Nat
  confirmedSettings : α
  settingsQueue : List (PendingSave α)
  backend : α
  deriving DecidableEq

/-- What happens to the settings: a call, and the three moments of the write that is under way. -/
inductive SettingsEvent (α : Type u)
  | saveSettings (settings : α)
  | send
  | answer (stored : Bool)
  | settle
  deriving DecidableEq

section Model

variable {α : Type u}

/-- A call of `saveSettings`, up to where it waits for the queue. -/
def saveSettings (settings : α) (state : SettingsState α) : SettingsState α :=
  let revision := state.settingsRevision + 1
  { state with
    settings
    settingsRevision := revision
    pendingSettings := state.pendingSettings + 1
    confirmedSettings :=
      if state.pendingSettings = 0 then state.settings else state.confirmedSettings
    settingsQueue := state.settingsQueue ++ [⟨revision, settings, .waiting⟩] }

/-- What an operation does after its write was answered, up to its end. -/
def settleSave (operation : PendingSave α) (stored : Bool) (rest : List (PendingSave α))
    (state : SettingsState α) : SettingsState α :=
  if stored = true then
    { state with
      confirmedSettings := operation.settings
      pendingSettings := state.pendingSettings - 1
      settingsQueue := rest }
  else
    -- Only the latest request may roll back what is shown.
    { state with
      settings :=
        if operation.revision = state.settingsRevision then state.confirmedSettings
        else state.settings
      pendingSettings := state.pendingSettings - 1
      settingsQueue := rest }

/-- One event; only the first operation of the queue has its write under way. -/
def settingsStep (state : SettingsState α) : SettingsEvent α → Option (SettingsState α)
  | .saveSettings settings => some (saveSettings settings state)
  | .send =>
    match state.settingsQueue with
    | ⟨revision, settings, .waiting⟩ :: rest =>
      some { state with settingsQueue := ⟨revision, settings, .sent⟩ :: rest }
    | _ => none
  | .answer stored =>
    match state.settingsQueue with
    | ⟨revision, settings, .sent⟩ :: rest =>
      some { state with
        settingsQueue := ⟨revision, settings, .answered stored⟩ :: rest
        -- A failed write changes nothing in the backend.
        backend := if stored = true then settings else state.backend }
    | _ => none
  | .settle =>
    match state.settingsQueue with
    | ⟨revision, settings, .answered stored⟩ :: rest =>
      some (settleSave ⟨revision, settings, .answered stored⟩ stored rest state)
    | _ => none

/-- The settings of a store that was just created, with any settings shown and stored. -/
def settingsSystem : System (SettingsState α) (SettingsEvent α) :=
  .ofStep
    (fun state => state.settingsRevision = 0 ∧ state.pendingSettings = 0 ∧ state.settingsQueue = [])
    settingsStep

/-! ### What a run asks of the backend and what the backend stores -/

/-- The settings of the calls, in order. -/
def savedSettings (trace : List (SettingsState α × SettingsEvent α)) : List α :=
  trace.filterMap fun entry =>
    match entry.2 with
    | .saveSettings settings => some settings
    | _ => none

/-- The settings of the writes that reached the backend, in order. -/
def sentSettings (trace : List (SettingsState α × SettingsEvent α)) : List α :=
  trace.filterMap fun entry =>
    match entry.2 with
    | .send => entry.1.settingsQueue.head?.map PendingSave.settings
    | _ => none

/-- The settings of the writes that succeeded, in order. -/
def writtenSettings (trace : List (SettingsState α × SettingsEvent α)) : List α :=
  trace.filterMap fun entry =>
    match entry.2 with
    | .answer true => entry.1.settingsQueue.head?.map PendingSave.settings
    | _ => none

def lastWritten (shown : α) (trace : List (SettingsState α × SettingsEvent α)) : α :=
  (writtenSettings trace).getLast?.getD shown

end Model

/-! ### The invariant -/

section Invariant

variable {α : Type u} {start state next : SettingsState α} {event : SettingsEvent α}
variable {trace : List (SettingsState α × SettingsEvent α)}

/-- The operations whose write was not asked of the backend yet. -/
def unsent (queue : List (PendingSave α)) : List (PendingSave α) :=
  queue.filter fun operation => operation.phase = .waiting

/--
What a run from a state without pending saves keeps.

The confirmed settings lag behind only while a successful write is answered and not settled.
-/
structure Tracks (start : SettingsState α) (trace : List (SettingsState α × SettingsEvent α))
    (state : SettingsState α) : Prop where
  counted : state.pendingSettings = state.settingsQueue.length
  ordered : state.settingsQueue.Pairwise fun first second => first.revision < second.revision
  bounded : ∀ operation ∈ state.settingsQueue, operation.revision ≤ state.settingsRevision
  latest : ∀ operation, state.settingsQueue.getLast? = some operation →
    operation.revision = state.settingsRevision ∧ operation.settings = state.settings
  oneWrite : ∀ operation ∈ state.settingsQueue.tail, operation.phase = .waiting
  inOrder : savedSettings trace = sentSettings trace ++ (unsent state.settingsQueue).map PendingSave.settings
  shown : state.settingsQueue = [] → state.settings = lastWritten start.settings trace
  confirmed : ∀ operation rest, state.settingsQueue = operation :: rest →
    if operation.phase = .answered true then operation.settings = lastWritten start.settings trace
    else state.confirmedSettings = lastWritten start.settings trace

theorem Tracks.idle (counted : start.pendingSettings = start.settingsQueue.length)
    (idle : start.pendingSettings = 0) : Tracks start [] start := by
  have empty : start.settingsQueue = [] := List.length_eq_zero_iff.mp (counted.symm.trans idle)
  constructor <;> simp [empty, savedSettings, sentSettings, unsent, lastWritten, writtenSettings, idle]

/-- A call joins the end of the queue with the latest revision. -/
theorem Tracks.save (tracks : Tracks start trace state) (settings : α) :
    Tracks start (trace ++ [(state, .saveSettings settings)]) (saveSettings settings state) := by
  have written : writtenSettings (trace ++ [(state, .saveSettings settings)]) =
      writtenSettings trace := by simp [writtenSettings]
  have sent : sentSettings (trace ++ [(state, .saveSettings settings)]) = sentSettings trace := by
    simp [sentSettings]
  have saved : savedSettings (trace ++ [(state, .saveSettings settings)]) =
      savedSettings trace ++ [settings] := by simp [savedSettings]
  constructor
  case counted => simp [saveSettings, tracks.counted]
  case ordered =>
    refine List.pairwise_append.mpr ⟨tracks.ordered, by simp, fun first earlier second new => ?_⟩
    obtain rfl : second = _ := by simpa using new
    exact Nat.lt_succ_of_le (tracks.bounded first earlier)
  case bounded =>
    intro operation queued
    rcases List.mem_append.mp queued with old | new
    · exact Nat.le_succ_of_le (tracks.bounded operation old)
    · obtain rfl : operation = _ := by simpa using new
      exact Nat.le_refl _
  case latest => simp [saveSettings]
  case oneWrite =>
    intro operation behind
    cases queue : state.settingsQueue with
    | nil => simp [saveSettings, queue] at behind
    | cons first rest =>
      have split : operation ∈ rest ∨ operation = ⟨state.settingsRevision + 1, settings, .waiting⟩ := by
        simpa [saveSettings, queue] using behind
      rcases split with old | rfl
      · exact tracks.oneWrite operation (by simpa [queue] using old)
      · rfl
  case inOrder =>
    rw [saved, sent, tracks.inOrder]
    simp [saveSettings, unsent]
  case shown => simp [saveSettings]
  case confirmed =>
    intro operation rest queue
    rw [lastWritten, written]
    cases before : state.settingsQueue with
    | nil =>
      -- The first of the pending saves confirms what is shown.
      have idle : state.pendingSettings = 0 := by simp [tracks.counted, before]
      have single : operation = ⟨state.settingsRevision + 1, settings, .waiting⟩ := by
        have same : [⟨state.settingsRevision + 1, settings, .waiting⟩] = operation :: rest := by
          simpa [saveSettings, before] using queue
        exact (List.cons.inj same).1.symm
      simpa [single, saveSettings, idle, lastWritten] using tracks.shown before
    | cons first others =>
      have busy : state.pendingSettings ≠ 0 := by simp [tracks.counted, before]
      obtain rfl : first = operation := by
        have same : first :: (others ++ [⟨state.settingsRevision + 1, settings, .waiting⟩]) =
            operation :: rest := by simpa [saveSettings, before] using queue
        exact (List.cons.inj same).1
      simpa [saveSettings, busy, lastWritten] using tracks.confirmed first others before

variable {revision : Nat}

variable {rest : List (PendingSave α)}

theorem Tracks.send {settings : α} (tracks : Tracks start trace state)
    (queue : state.settingsQueue = ⟨revision, settings, .waiting⟩ :: rest) :
    Tracks start (trace ++ [(state, .send)])
      { state with settingsQueue := ⟨revision, settings, .sent⟩ :: rest } := by
  obtain ⟨counted, ordered, bounded, latest, oneWrite, inOrder, -, confirmed⟩ := tracks
  rw [queue] at counted ordered bounded latest oneWrite inOrder
  constructor
  case counted => simpa using counted
  case ordered => simpa using ordered
  case bounded => simpa using bounded
  case latest =>
    intro operation last
    cases rest with
    | nil =>
      obtain rfl : _ = operation := by simpa using last
      exact latest ⟨revision, settings, .waiting⟩ (by simp)
    | cons second others => exact latest operation (by simpa using last)
  case oneWrite => exact oneWrite
  case inOrder =>
    -- What was waiting is now among what was sent.
    simp only [savedSettings, sentSettings, unsent, List.filterMap_append] at inOrder ⊢
    simp [inOrder, queue]
  case shown => simp
  case confirmed =>
    intro operation others same
    obtain ⟨rfl, rfl⟩ : _ = operation ∧ _ = others := by simpa using same
    have before := confirmed _ _ queue
    simpa [lastWritten, writtenSettings] using before

theorem Tracks.answer {settings backend : α} (tracks : Tracks start trace state) (stored : Bool)
    (queue : state.settingsQueue = ⟨revision, settings, .sent⟩ :: rest) :
    Tracks start (trace ++ [(state, .answer stored)])
      { state with settingsQueue := ⟨revision, settings, .answered stored⟩ :: rest, backend } := by
  obtain ⟨counted, ordered, bounded, latest, oneWrite, inOrder, -, confirmed⟩ := tracks
  rw [queue] at counted ordered bounded latest oneWrite inOrder
  constructor
  case counted => simpa using counted
  case ordered => simpa using ordered
  case bounded => simpa using bounded
  case latest =>
    intro operation last
    cases rest with
    | nil =>
      obtain rfl : _ = operation := by simpa using last
      exact latest ⟨revision, settings, .sent⟩ (by simp)
    | cons second others => exact latest operation (by simpa using last)
  case oneWrite => exact oneWrite
  case inOrder =>
    simp only [savedSettings, sentSettings, unsent, List.filterMap_append] at inOrder ⊢
    simp [inOrder]
  case shown => simp
  case confirmed =>
    intro operation others same
    obtain ⟨rfl, rfl⟩ : _ = operation ∧ _ = others := by simpa using same
    cases stored with
    | true => simp [lastWritten, writtenSettings, queue]
    | false =>
      have before := confirmed _ _ queue
      simpa [lastWritten, writtenSettings] using before

/-- The first operation ends, and the next one becomes the first. -/
theorem Tracks.settle {settings : α} {stored : Bool} (tracks : Tracks start trace state)
    (queue : state.settingsQueue = ⟨revision, settings, .answered stored⟩ :: rest) :
    Tracks start (trace ++ [(state, .settle)])
      (settleSave ⟨revision, settings, .answered stored⟩ stored rest state) := by
  obtain ⟨counted, ordered, bounded, latest, oneWrite, inOrder, -, confirmed⟩ := tracks
  have pending := confirmed _ _ queue
  rw [queue] at counted ordered bounded latest oneWrite inOrder
  have same : lastWritten start.settings (trace ++ [(state, .settle)]) =
      lastWritten start.settings trace := by simp [lastWritten, writtenSettings]
  -- The first operation is the latest exactly when nothing waits behind it.
  have alone : rest = [] → revision = state.settingsRevision ∧ settings = state.settings := by
    intro none
    exact latest ⟨revision, settings, .answered stored⟩ (by simp [none])
  have superseded : rest ≠ [] → revision ≠ state.settingsRevision := by
    intro some
    obtain ⟨second, others, rfl⟩ := List.exists_cons_of_ne_nil some
    have below : revision < second.revision := (List.pairwise_cons.mp ordered).1 second (by simp)
    have bound : second.revision ≤ state.settingsRevision := bounded second (by simp)
    omega
  have left : (settleSave ⟨revision, settings, .answered stored⟩ stored rest state).settingsQueue = rest := by
    unfold settleSave
    split <;> rfl
  have kept : rest ≠ [] →
      (settleSave ⟨revision, settings, .answered stored⟩ stored rest state).settings = state.settings := by
    intro some
    unfold settleSave
    split
    · rfl
    · exact if_neg (superseded some)
  have number :
      (settleSave ⟨revision, settings, .answered stored⟩ stored rest state).settingsRevision =
        state.settingsRevision := by
    unfold settleSave
    split <;> rfl
  have settled : (settleSave ⟨revision, settings, .answered stored⟩ stored rest
      state).confirmedSettings = lastWritten start.settings trace := by
    cases stored with
    | true | false => simpa [settleSave] using pending
  constructor
  case counted =>
    have fewer : (settleSave ⟨revision, settings, .answered stored⟩ stored rest
        state).pendingSettings = state.pendingSettings - 1 := by
      unfold settleSave
      split <;> rfl
    rw [fewer, left, counted]
    simp
  case ordered =>
    rw [left]
    exact (List.pairwise_cons.mp ordered).2
  case bounded =>
    rw [left, number]
    exact fun operation behind => bounded operation (List.mem_cons_of_mem _ behind)
  case latest =>
    rw [left, number]
    intro operation last
    have some : rest ≠ [] := by
      rintro rfl
      simp at last
    rw [kept some]
    exact latest operation (by simp [List.getLast?_cons, last])
  case oneWrite =>
    rw [left]
    exact fun operation behind => oneWrite operation (List.mem_of_mem_tail behind)
  case inOrder =>
    rw [left]
    simp only [savedSettings, sentSettings, unsent, List.filterMap_append] at inOrder ⊢
    simp [inOrder]
  case shown =>
    rw [left, same]
    intro none
    obtain ⟨newest, shown⟩ := alone none
    cases stored with
    | true => simpa [settleSave, shown] using pending
    | false => simpa [settleSave, newest] using pending
  case confirmed =>
    rw [left, same]
    intro operation others behind
    have waiting : operation.phase = .waiting := oneWrite operation (by simp [behind])
    rw [if_neg (by simp [waiting])]
    exact settled

theorem Tracks.step (tracks : Tracks start trace state)
    (taken : settingsStep state event = some next) : Tracks start (trace ++ [(state, event)]) next := by
  cases event with
  | saveSettings settings =>
    obtain rfl : saveSettings settings state = next := by simpa [settingsStep] using taken
    exact tracks.save settings
  | send =>
    simp only [settingsStep] at taken
    split at taken
    · rename_i queue
      obtain rfl := Option.some.inj taken
      exact tracks.send queue
    · cases taken
  | answer stored =>
    simp only [settingsStep] at taken
    split at taken
    · rename_i queue
      obtain rfl := Option.some.inj taken
      exact tracks.answer stored queue
    · cases taken
  | settle =>
    simp only [settingsStep] at taken
    split at taken
    · rename_i queue
      obtain rfl := Option.some.inj taken
      exact tracks.settle queue
    · cases taken

theorem tracks_of_run (counted : start.pendingSettings = start.settingsQueue.length)
    (idle : start.pendingSettings = 0)
    (run : (settingsSystem.onward start).Run trace state) : Tracks start trace state := by
  induction run with
  | start begins =>
    obtain rfl := begins
    exact Tracks.idle counted idle
  | snoc earlier taken ih => exact ih.step taken

theorem counted_of_reachable (reached : settingsSystem.Reachable state) :
    state.pendingSettings = state.settingsQueue.length := by
  obtain ⟨trace, run⟩ := reached
  -- A fresh store has nothing pending, so the whole run starts from an idle state.
  suffices kept : ∃ first, Tracks first trace state from kept.elim fun _ tracks => tracks.counted
  induction run with
  | start begins =>
    obtain ⟨-, none, empty⟩ := begins
    exact ⟨_, Tracks.idle (by simp [none, empty]) none⟩
  | snoc earlier taken ih =>
    obtain ⟨first, tracks⟩ := ih
    exact ⟨first, tracks.step taken⟩

/--
The settings converge, from any moment without pending saves on.

The writes reach the backend in the order of the calls. Whenever no save is pending any more, all of
them did, and what is shown was written last, or was shown before when no write succeeded.
-/
theorem settingsConverge (reached : settingsSystem.Reachable start)
    (idle : start.pendingSettings = 0) (run : (settingsSystem.onward start).Run trace state) :
    sentSettings trace <+: savedSettings trace ∧
      (state.pendingSettings = 0 →
        sentSettings trace = savedSettings trace ∧ state.settings = lastWritten start.settings trace) := by
  have tracks := tracks_of_run (counted_of_reachable reached) idle run
  refine ⟨⟨_, tracks.inOrder.symm⟩, fun done => ?_⟩
  have empty : state.settingsQueue = [] := List.length_eq_zero_iff.mp (tracks.counted.symm.trans done)
  have whole := tracks.inOrder
  rw [empty] at whole
  exact ⟨by simpa [unsent] using whole.symm, tracks.shown empty⟩

end Invariant

/-- Two saves of which the second fails end with the first one shown. -/
theorem settingsConverge_rollback :
    ∃ (start state : SettingsState Nat) (trace : List (SettingsState Nat × SettingsEvent Nat)),
      savedSettings trace = [1, 2] ∧ state.pendingSettings = 0 ∧ state.settings = 1 ∧
        sentSettings trace <+: savedSettings trace ∧
        (state.pendingSettings = 0 → sentSettings trace = savedSettings trace ∧
          state.settings = lastWritten start.settings trace) := by
  let start : SettingsState Nat :=
    { settings := 0
      settingsRevision := 0
      pendingSettings := 0
      confirmedSettings := 0
      settingsQueue := []
      backend := 0 }
  have goes : System.trail settingsStep start [.saveSettings 1, .saveSettings 2, .send, .answer true,
      .settle, .send, .answer false, .settle] = some (_, _) := rfl
  have run := System.Run.trail (.start rfl : (settingsSystem.onward start).Run [] start) goes
  exact ⟨start, _, _, rfl, rfl, rfl, settingsConverge (.start ⟨rfl, rfl, rfl⟩) rfl run⟩

end Frontend

end CNShell
