import CNShell.Library.Table
import CNShell.Library.Transition

/-! The frontend's transfer list: events, enqueue responses and one snapshot merged into one table. -/

namespace CNShell

namespace Frontend

inductive TransferStatus
  | queued
  | running
  | paused
  | completed
  | failed
  | cancelled
  deriving DecidableEq, Repr

/-- Which way a transfer goes. -/
inductive TransferDirection
  | upload
  | download
  deriving DecidableEq, Repr

/-- What a transfer does with a file that is there already. -/
inductive ConflictPolicy
  | ask
  | overwrite
  | skip
  | rename
  deriving DecidableEq, Repr

/-- A transfer, as the backend stores it, announces it and returns it. -/
structure TransferTask where
  id : String
  sessionId : String
  direction : TransferDirection
  source : String
  destination : String
  totalBytes : Int
  transferredBytes : Int
  status : TransferStatus
  conflictPolicy : ConflictPolicy
  error : Option String
  createdAt : String
  deriving DecidableEq, Repr

/--
An object of the transfer list.

It is marked when it is the very object that the start of the synchronisation found in the list.
-/
structure TransferEntry where
  task : TransferTask
  captured : Bool
  deriving DecidableEq

/-- The identifier of the task behind an object of the list. -/
def TransferEntry.id (entry : TransferEntry) : String := entry.task.id

/-- The backend's transfers, what is on its way to the frontend, and the frontend's list. -/
structure TransferState where
  /-- The latest state of every transfer. -/
  latest : Table TransferTask.id
  /-- The rows of `transfer_tasks`. -/
  stored : Table TransferTask.id
  /-- The states that are to be announced by an event. -/
  owed : List TransferTask
  /-- The enqueue responses that were not passed on yet. -/
  responses : List TransferTask
  /-- The events that were not delivered yet, oldest first. -/
  events : List TransferTask
  transfers : Table TransferEntry.id
  /-- Whether the backend knows the listener. -/
  listening : Bool
  /-- Whether the frontend knows that it does. -/
  unlisten : Bool
  initialized : Bool
  received : List String
  /-- The answer of a `listTransfers` call that was not delivered yet. -/
  snapshot : Option (Table TransferTask.id)

/-- What the backend and the frontend do. -/
inductive TransferEvent
  /-- The backend accepts a transfer, whose response is on its way. -/
  | enqueue (task : TransferTask)
  /-- A transfer changes, its row is written and an event is owed. -/
  | upsert (task : TransferTask)
  /-- A transfer changes and an event is owed, without its row being written. -/
  | progress (task : TransferTask)
  /-- The event of a transfer is emitted. -/
  | emit (id : String)
  | register
  | registerFails
  | registered
  | list
  | listFails
  | listed
  /-- The next event reaches its handler. -/
  | deliver
  /-- An enqueue response is passed to `addTransfer`. -/
  | respond (task : TransferTask)
  deriving DecidableEq

def TransferState.Due (state : TransferState) (id : String) : Prop :=
  ∃ task ∈ state.owed ++ state.events, task.id = id

/-- The object of the task in the list, in the place of the one that was there. -/
def upsertTransfer (task : TransferTask) (transfers : Table TransferEntry.id) : Table TransferEntry.id :=
  transfers.put ⟨task, false⟩

/-- Enqueue responses only add; they can arrive after a newer progress event. -/
def addTransfer (task : TransferTask) (transfers : Table TransferEntry.id) : Table TransferEntry.id :=
  if (transfers.find? task.id).isSome = true then transfers else upsertTransfer task transfers

/-- Whether the merge keeps an object of the list instead of the row of the snapshot. -/
def keepsEntry (received : List String) (entry : TransferEntry) : Bool := entry.id ∈ received ∨ entry.captured = false

def snapshotEntries (rows : Table TransferTask.id) : Table TransferEntry.id where
  rows := rows.rows.map fun task => ⟨task, false⟩
  unique := by
    rw [List.map_map]
    exact rows.unique

/-- The rows of a snapshot, overridden by the objects that are newer than the start. -/
def mergeTransfers (received : List String) (rows : Table TransferTask.id)
    (transfers : Table TransferEntry.id) : Table TransferEntry.id :=
  (snapshotEntries rows).override transfers (keepsEntry received)

/-- One event, if it can happen. -/
def transferStep (state : TransferState) : TransferEvent → Option TransferState
  | .enqueue task =>
    if state.latest.find? task.id = none ∧ state.transfers.find? task.id = none then
      some { state with
        latest := state.latest.put task
        stored := state.stored.put task
        responses := state.responses ++ [task] }
    else none
  | .upsert task =>
    if state.latest.find? task.id ≠ none ∧ ∀ waiting ∈ state.owed, waiting.id ≠ task.id then
      some { state with
        latest := state.latest.put task
        stored := state.stored.put task
        owed := state.owed ++ [task] }
    else none
  | .progress task =>
    if state.latest.find? task.id ≠ none ∧ ∀ waiting ∈ state.owed, waiting.id ≠ task.id then
      some { state with
        latest := state.latest.put task
        owed := state.owed ++ [task] }
    else none
  | .emit id =>
    (state.owed.find? fun waiting => waiting.id = id).map fun task =>
      { state with
        owed := state.owed.erase task
        -- An event without a listener is lost.
        events := if state.listening = true then state.events ++ [task] else state.events }
  | .register => if state.listening = false then some { state with listening := true } else none
  | .registerFails => if state.listening = false then some state else none
  | .registered =>
    if state.listening = true ∧ state.unlisten = false then some { state with unlisten := true }
    else none
  | .list =>
    if state.unlisten = true ∧ state.initialized = false ∧ state.snapshot.isNone = true then
      some { state with snapshot := some state.stored }
    else none
  | .listFails =>
    if state.snapshot.isSome = true then some { state with snapshot := none } else none
  | .listed =>
    state.snapshot.map fun rows =>
      { state with
        transfers := mergeTransfers state.received rows state.transfers
        initialized := true
        received := []
        snapshot := none }
  | .deliver =>
    match state.events with
    | task :: rest =>
      some { state with
        events := rest
        received := if state.initialized = true then state.received else task.id :: state.received
        transfers := upsertTransfer task state.transfers }
    | [] => none
  | .respond task =>
    if task ∈ state.responses then
      some { state with
        responses := state.responses.erase task
        transfers := addTransfer task state.transfers }
    else none

/-- What holds when the synchronisation starts: it has captured the list and knows no listener yet. -/
structure TransferStart (state : TransferState) : Prop where
  captured : ∀ entry ∈ state.transfers.rows, entry.captured = true
  deaf : state.listening = false ∧ state.unlisten = false
  begun : state.initialized = false ∧ state.received = [] ∧ state.snapshot = none
  quiet : state.events = []
  listed : ∀ id, state.stored.find? id = none ↔ state.latest.find? id = none
  owing : ∀ task ∈ state.owed, state.latest.find? task.id = some task
  owedOnce : (state.owed.map TransferTask.id).Nodup
  answering : ∀ task ∈ state.responses, state.latest.find? task.id ≠ none ∧ state.transfers.find? task.id = none
  answersOnce : (state.responses.map TransferTask.id).Nodup

/-- One synchronisation, with the backend and the enqueue responses beside it. -/
def transferSystem : System TransferState TransferEvent := .ofStep TransferStart transferStep

/--
No task is outdated where the synchronisation would not see it.

When the listener is registered, the rows and the enqueue responses in the list are up to date, and
so is a response that is added later, before the snapshot is merged; or an event is still to come.
-/
def Timely (state : TransferState) (event : TransferEvent) : Prop :=
  match event with
  | .register => ∀ task ∈ state.latest.rows, state.Due task.id ∨
      state.stored.find? task.id = some task ∧ ∀ entry ∈ state.transfers.find? task.id,
        entry.captured = false → entry.task = task
  | .respond task => state.listening = true → state.initialized = false →
      state.transfers.find? task.id = none →
      state.Due task.id ∨ state.latest.find? task.id = some task
  | _ => True

instance (state : TransferState) (id : String) : Decidable (state.Due id) :=
  inferInstanceAs (Decidable (∃ task ∈ state.owed ++ state.events, task.id = id))

instance (state : TransferState) : (event : TransferEvent) → Decidable (Timely state event)
  | .register => inferInstanceAs (Decidable (∀ task ∈ state.latest.rows, state.Due task.id ∨
      state.stored.find? task.id = some task ∧ ∀ entry ∈ state.transfers.find? task.id,
        entry.captured = false → entry.task = task))
  | .respond task => inferInstanceAs (Decidable (state.listening = true →
      state.initialized = false → state.transfers.find? task.id = none →
      state.Due task.id ∨ state.latest.find? task.id = some task))
  | .enqueue _ | .upsert _ | .progress _ | .emit _ | .registerFails | .registered | .list
  | .listFails | .listed | .deliver => isTrue trivial

/-- Everything the backend has to say was delivered. -/
def TransferState.Delivered (state : TransferState) : Prop :=
  state.owed = [] ∧ state.events = [] ∧ state.responses = []

/-! ### The invariant -/

section Invariant

variable {state next : TransferState} {event : TransferEvent}

/-- The list holds an object of the task that is newer than the start of the synchronisation. -/
def TransferState.Fresh (state : TransferState) (id : String) : Prop :=
  ∃ entry, state.transfers.find? id = some entry ∧ entry.captured = false

/-- The response that would add the latest state of the task is still on its way. -/
def TransferState.Answering (state : TransferState) (id : String) : Prop :=
  ∃ response ∈ state.responses, state.latest.find? id = some response

/-- Some rows are those that a snapshot would have now, or has already. -/
def TransferState.Mergeable (state : TransferState) (rows : Table TransferTask.id) : Prop :=
  rows = state.stored ∨ state.snapshot = some rows

/-- What every step keeps of the backend and of what is on its way. -/
structure Announced (state : TransferState) : Prop where
  listed : ∀ id, state.stored.find? id = none ↔ state.latest.find? id = none
  owing : ∀ task ∈ state.owed, state.latest.find? task.id = some task
  owedOnce : (state.owed.map TransferTask.id).Nodup
  emitted : ∀ before task after, state.events = before ++ task :: after →
    (∀ later ∈ after, later.id ≠ task.id) → (∀ waiting ∈ state.owed, waiting.id ≠ task.id) →
    state.latest.find? task.id = some task
  answering : ∀ task ∈ state.responses, state.latest.find? task.id ≠ none
  answersOnce : (state.responses.map TransferTask.id).Nodup

/-- What every step of a timely run keeps of the frontend's list. -/
structure Converging (state : TransferState) : Prop extends Announced state where
  unseen : ∀ task ∈ state.responses, ∀ entry, state.transfers.find? task.id = some entry → entry.captured = false
  known : state.listening = false → ∀ id entry, state.transfers.find? id = some entry →
    entry.captured = false → state.latest.find? id ≠ none
  deaf : state.listening = false → state.events = [] ∧ state.received = [] ∧
    state.snapshot = none ∧ state.unlisten = false ∧ state.initialized = false
  hearing : ∀ task ∈ state.events, state.latest.find? task.id ≠ none
  received : ∀ id ∈ state.received, state.Fresh id
  ahead : state.listening = true → state.initialized = false → ∀ id entry,
    state.transfers.find? id = some entry → entry.captured = false →
    state.Due id ∨ state.latest.find? id = some entry.task
  covered : state.listening = true → state.initialized = false → ∀ rows, state.Mergeable rows →
    ∀ id, state.Due id ∨ state.Fresh id ∨ rows.find? id = state.latest.find? id ∨
      rows.find? id = none ∧ state.Answering id
  settled : state.initialized = true → ∀ id,
    state.Due id ∨ (state.transfers.find? id).map TransferEntry.task = state.latest.find? id ∨
      state.transfers.find? id = none ∧ state.Answering id

theorem Converging.start (start : TransferStart state) : Converging state := by
  obtain ⟨captured, ⟨deaf, unknown⟩, ⟨begun, none, asked⟩, quiet, listed, owing, owedOnce, answering, once⟩ :=
    start
  constructor
  case toAnnounced =>
    exact ⟨listed, owing, owedOnce, by simp [quiet], fun task response =>
      (answering task response).1, once⟩
  case unseen =>
    intro task response entry found
    simp [(answering task response).2] at found
  case known =>
    intro _ id entry found new
    have old := captured entry (Table.find?_some found).1
    simp [old] at new
  case deaf => exact fun _ => ⟨quiet, none, asked, unknown, begun⟩
  case hearing => simp [quiet]
  case received => simp [none]
  case ahead | covered => simp [deaf]
  case settled => simp [begun]

theorem Announced.change (announced : Announced state) {task : TransferTask}
    {stored : Table TransferTask.id} (there : state.latest.find? task.id ≠ none)
    (free : ∀ waiting ∈ state.owed, waiting.id ≠ task.id)
    (rows : stored = state.stored ∨ stored = state.stored.put task) :
    Announced { state with
      latest := state.latest.put task
      stored
      owed := state.owed ++ [task] } := by
  obtain ⟨listed, owing, owedOnce, emitted, answering, answersOnce⟩ := announced
  constructor
  case listed =>
    intro id
    have present : state.stored.find? task.id ≠ none := fun absent => there ((listed _).mp absent)
    rcases rows with rfl | rfl
    · by_cases same : id = task.id <;> simp [Table.find?_put, same, present, listed]
    · by_cases same : id = task.id <;> simp [Table.find?_put, same, listed]
  case owing =>
    intro waiting member
    rcases List.mem_append.mp member with old | new
    · simpa [Table.find?_put, free waiting old] using owing waiting old
    · obtain rfl : waiting = task := by simpa using new
      simp [Table.find?_put]
  case owedOnce =>
    rw [List.map_append, List.nodup_append]
    refine ⟨owedOnce, by simp, ?_⟩
    simpa [List.mem_map] using free
  case emitted =>
    intro before told after split apart idle
    have differs : told.id ≠ task.id := fun same => idle task (by simp) same.symm
    simpa [Table.find?_put, differs] using
      emitted before told after split apart fun waiting old => idle waiting (by simp [old])
  case answering =>
    intro response member
    by_cases same : response.id = task.id
    · simp [Table.find?_put, same]
    · simpa [Table.find?_put, same] using answering response member
  case answersOnce => exact answersOnce

variable {task : TransferTask}

theorem due_owe {id : String} {latest stored : Table TransferTask.id} (due : state.Due id) :
    TransferState.Due { state with latest, stored, owed := state.owed ++ [task] } id := by
  obtain ⟨told, member, same⟩ := due
  refine ⟨told, ?_, same⟩
  simp only [List.mem_append] at member ⊢
  tauto

/-- A changed task is due, and all others are as they were. -/
theorem Converging.change (converging : Converging state) {task : TransferTask}
    {stored : Table TransferTask.id} (there : state.latest.find? task.id ≠ none)
    (free : ∀ waiting ∈ state.owed, waiting.id ≠ task.id)
    (rows : stored = state.stored ∨ stored = state.stored.put task) :
    Converging { state with
      latest := state.latest.put task
      stored
      owed := state.owed ++ [task] } := by
  have spared : ∀ id, id ≠ task.id → stored.find? id = state.stored.find? id := by
    intro id differs
    rcases rows with rfl | rfl
    · rfl
    · simp [Table.find?_put, differs]
  have due : TransferState.Due { state with
      latest := state.latest.put task
      stored
      owed := state.owed ++ [task] } task.id := ⟨task, by simp, rfl⟩
  constructor
  case toAnnounced => exact converging.toAnnounced.change there free rows
  case unseen => exact converging.unseen
  case known =>
    intro deaf id entry found new
    by_cases same : id = task.id
    · simp [Table.find?_put, same]
    · simpa [Table.find?_put, same] using converging.known deaf id entry found new
  case deaf => exact converging.deaf
  case hearing =>
    intro told member
    by_cases same : told.id = task.id
    · simp [Table.find?_put, same]
    · simpa [Table.find?_put, same] using converging.hearing told member
  case received => exact converging.received
  case ahead =>
    intro listening begun id entry found new
    by_cases same : id = task.id
    · exact .inl (same ▸ due)
    · rcases converging.ahead listening begun id entry found new with before | latest
      · exact .inl (due_owe before)
      · exact .inr (by simpa [Table.find?_put, same] using latest)
  case covered =>
    intro listening begun merged mergeable id
    by_cases same : id = task.id
    · exact .inl (same ▸ due)
    · have old : ∃ rows, state.Mergeable rows ∧ merged.find? id = rows.find? id := by
        rcases mergeable with rfl | asked
        · exact ⟨_, .inl rfl, spared id same⟩
        · exact ⟨_, .inr asked, rfl⟩
      obtain ⟨rows, before, found⟩ := old
      rw [found]
      rcases converging.covered listening begun rows before id with due | fresh | equal | missing
      · exact .inl (due_owe due)
      · exact .inr (.inl fresh)
      · exact .inr (.inr (.inl (by simpa [Table.find?_put, same] using equal)))
      · refine .inr (.inr (.inr ⟨missing.1, ?_⟩))
        obtain ⟨response, member, latest⟩ := missing.2
        exact ⟨response, member, by simpa [Table.find?_put, same] using latest⟩
  case settled =>
    intro done id
    by_cases same : id = task.id
    · exact .inl (same ▸ due)
    · rcases converging.settled done id with due | equal | missing
      · exact .inl (due_owe due)
      · exact .inr (.inl (by simpa [Table.find?_put, same] using equal))
      · refine .inr (.inr ⟨missing.1, ?_⟩)
        obtain ⟨response, member, latest⟩ := missing.2
        exact ⟨response, member, by simpa [Table.find?_put, same] using latest⟩

/-- A new task is neither due nor listed; its response is on the way. -/
theorem Converging.enqueue (converging : Converging state)
    (fresh : state.latest.find? task.id = none) (absent : state.transfers.find? task.id = none) :
    Converging { state with
      latest := state.latest.put task
      stored := state.stored.put task
      responses := state.responses ++ [task] } := by
  have announced := converging.toAnnounced
  -- Everything that is known of was there before, so it is another task.
  have other : ∀ {id : String}, state.latest.find? id ≠ none → id ≠ task.id := by
    intro id there same
    exact there (same ▸ fresh)
  have answering : ∀ {id : String}, state.Answering id → TransferState.Answering { state with
      latest := state.latest.put task
      stored := state.stored.put task
      responses := state.responses ++ [task] } id := by
    intro id before
    obtain ⟨response, member, latest⟩ := before
    have differs : id ≠ task.id := other (by simp [latest])
    exact ⟨response, List.mem_append_left _ member, by simpa [Table.find?_put, differs] using latest⟩
  have arrived : TransferState.Answering { state with
      latest := state.latest.put task
      stored := state.stored.put task
      responses := state.responses ++ [task] } task.id :=
    ⟨task, by simp, by simp [Table.find?_put]⟩
  constructor
  case toAnnounced =>
    constructor
    case listed =>
      intro id
      by_cases same : id = task.id <;> simp [Table.find?_put, same, announced.listed]
    case owing =>
      intro waiting member
      have owed := announced.owing waiting member
      have differs : waiting.id ≠ task.id := other (by simp [owed])
      simpa [Table.find?_put, differs] using owed
    case owedOnce => exact announced.owedOnce
    case emitted =>
      intro before told after split apart idle
      have latest := announced.emitted before told after split apart idle
      have differs : told.id ≠ task.id := other (by simp [latest])
      simpa [Table.find?_put, differs] using latest
    case answering =>
      intro response member
      rcases List.mem_append.mp member with old | new
      · have there := announced.answering response old
        simpa [Table.find?_put, other there] using there
      · obtain rfl : response = task := by simpa using new
        simp [Table.find?_put]
    case answersOnce =>
      rw [List.map_append, List.nodup_append]
      refine ⟨announced.answersOnce, by simp, ?_⟩
      simpa [List.mem_map] using fun response member => other (announced.answering response member)
  case unseen =>
    intro response member entry found
    rcases List.mem_append.mp member with old | new
    · exact converging.unseen response old entry found
    · obtain rfl : response = task := by simpa using new
      simp [absent] at found
  case known =>
    intro deaf id entry found new
    have there := converging.known deaf id entry found new
    simpa [Table.find?_put, other there] using there
  case deaf => exact converging.deaf
  case hearing =>
    intro told member
    have there := converging.hearing told member
    simpa [Table.find?_put, other there] using there
  case received => exact converging.received
  case ahead =>
    intro listening begun id entry found new
    rcases converging.ahead listening begun id entry found new with due | latest
    · exact .inl due
    · have differs : id ≠ task.id := other (by simp [latest])
      exact .inr (by simpa [Table.find?_put, differs] using latest)
  case covered =>
    intro listening begun rows mergeable id
    rcases mergeable with rfl | asked
    · rcases converging.covered listening begun _ (.inl rfl) id with due | kept | equal | missing
      · exact .inl due
      · exact .inr (.inl kept)
      · refine .inr (.inr (.inl ?_))
        by_cases same : id = task.id <;> simp [Table.find?_put, same, equal]
      · have differs : id ≠ task.id := by
          obtain ⟨response, -, latest⟩ := missing.2
          exact other (by simp [latest])
        exact .inr (.inr (.inr ⟨by simpa [Table.find?_put, differs] using missing.1, answering missing.2⟩))
    · rcases converging.covered listening begun _ (.inr asked) id with due | kept | equal | missing
      · exact .inl due
      · exact .inr (.inl kept)
      · -- A snapshot that was taken before does not have the new task.
        by_cases same : id = task.id
        · subst same
          exact .inr (.inr (.inr ⟨equal.trans fresh, arrived⟩))
        · exact .inr (.inr (.inl (by simpa [Table.find?_put, same] using equal)))
      · exact .inr (.inr (.inr ⟨missing.1, answering missing.2⟩))
  case settled =>
    intro done id
    by_cases same : id = task.id
    · subst same
      exact .inr (.inr ⟨absent, arrived⟩)
    · rcases converging.settled done id with due | equal | missing
      · exact .inl due
      · exact .inr (.inl (by simpa [Table.find?_put, same] using equal))
      · exact .inr (.inr ⟨missing.1, answering missing.2⟩)

/-- An event is emitted: to the listener, or to nobody. -/
theorem Converging.emit (converging : Converging state) (waits : task ∈ state.owed) :
    Converging { state with
      owed := state.owed.erase task
      events := if state.listening = true then state.events ++ [task] else state.events } := by
  have announced := converging.toAnnounced
  have left : ∀ waiting ∈ state.owed.erase task, waiting ∈ state.owed := fun _ =>
    List.mem_of_mem_erase
  -- With a listener what is due only changes its place; without one nothing depends on it.
  have due : ∀ {id : String}, state.listening = true → state.Due id → TransferState.Due { state with
      owed := state.owed.erase task
      events := if state.listening = true then state.events ++ [task] else state.events } id := by
    intro id listening before
    obtain ⟨told, member, same⟩ := before
    refine ⟨told, ?_, same⟩
    rw [if_pos listening]
    by_cases this : told = task
    · simp [this]
    · rcases List.mem_append.mp member with old | old
      · exact List.mem_append_left _ ((List.mem_erase_of_ne this).mpr old)
      · simp [old]
  have hears : state.initialized = true → state.listening = true := by
    intro done
    by_contra deaf
    have nothing := (converging.deaf (by simpa using deaf)).2.2.2.2
    simp [nothing] at done
  constructor
  case toAnnounced =>
    constructor
    case listed => exact announced.listed
    case owing => exact fun waiting member => announced.owing waiting (left waiting member)
    case owedOnce => exact announced.owedOnce.sublist (List.erase_sublist.map _)
    case emitted =>
      intro before told after split apart idle
      by_cases this : told = task
      · exact this ▸ announced.owing task waits
      · have quiet : ∀ waiting ∈ state.owed, waiting.id ≠ told.id ∨ waiting = task := by
          intro waiting member
          by_cases same : waiting = task
          · exact .inr same
          · exact .inl (idle waiting ((List.mem_erase_of_ne same).mpr member))
        by_cases listening : state.listening = true
        · rw [if_pos listening] at split
          -- The told event is an old one, since the new one is another.
          rcases List.eq_nil_or_concat after with rfl | ⟨inside, last, rfl⟩
          · have final := (List.append_inj' split rfl).2
            exact absurd (List.cons.inj final).1.symm this
          · rw [List.concat_eq_append, ← List.cons_append, ← List.append_assoc] at split
            obtain ⟨old, final⟩ := List.append_inj' split rfl
            obtain rfl : task = last := (List.cons.inj final).1
            refine announced.emitted before told inside old (fun later member => apart later ?_)
              fun waiting member => ?_
            · simp [member]
            · rcases quiet waiting member with differs | rfl
              · exact differs
              · exact apart waiting (by simp)
        · rw [if_neg listening] at split
          have none := (converging.deaf (by simpa using listening)).1
          simp [none] at split
    case answering => exact announced.answering
    case answersOnce => exact announced.answersOnce
  case unseen => exact converging.unseen
  case known => exact converging.known
  case deaf =>
    intro deaf
    have silent : state.listening = false := deaf
    simpa [silent] using converging.deaf silent
  case hearing =>
    intro told member
    dsimp only at member
    split at member
    · rcases List.mem_append.mp member with old | new
      · exact converging.hearing told old
      · obtain rfl : told = task := by simpa using new
        simp [announced.owing told waits]
    · exact converging.hearing told member
  case received => exact converging.received
  case ahead =>
    intro listening begun id entry found new
    exact (converging.ahead listening begun id entry found new).imp_left (due listening)
  case covered =>
    intro listening begun rows mergeable id
    exact (converging.covered listening begun rows mergeable id).imp_left (due listening)
  case settled =>
    intro done id
    exact (converging.settled done id).imp_left (due (hears done))

theorem Converging.register (converging : Converging state) (deaf : state.listening = false)
    (timely : Timely state .register) : Converging { state with listening := true } := by
  have nothing := converging.deaf deaf
  constructor
  case toAnnounced => exact ⟨converging.listed, converging.owing, converging.owedOnce,
    converging.emitted, converging.answering, converging.answersOnce⟩
  case unseen => exact converging.unseen
  case known | deaf => simp
  case hearing => exact converging.hearing
  case received => exact converging.received
  case ahead =>
    intro _ _ id entry found new
    obtain ⟨task, latest⟩ := Option.ne_none_iff_exists'.mp (converging.known deaf id entry found new)
    obtain ⟨stored, rfl⟩ := Table.find?_some latest
    rcases timely task stored with due | upToDate
    · exact .inl due
    · exact .inr (by rw [upToDate.2 entry found new]; exact latest)
  case covered =>
    intro _ _ rows mergeable id
    have same : rows = state.stored := by
      rcases mergeable with same | asked
      · exact same
      · simp [nothing.2.2.1] at asked
    rw [same]
    cases latest : state.latest.find? id with
    | none => exact .inr (.inr (.inl ((converging.listed id).mpr latest)))
    | some task =>
      obtain ⟨stored, rfl⟩ := Table.find?_some latest
      rcases timely task stored with due | upToDate
      · exact .inl due
      · exact .inr (.inr (.inl upToDate.1))
  case settled => simp [nothing.2.2.2.2]

theorem Converging.ask (converging : Converging state) {snapshot : Option (Table TransferTask.id)}
    (listening : state.listening = true) (rows : snapshot = none ∨ snapshot = some state.stored) :
    Converging { state with snapshot } := by
  constructor
  case toAnnounced => exact ⟨converging.listed, converging.owing, converging.owedOnce,
    converging.emitted, converging.answering, converging.answersOnce⟩
  case unseen => exact converging.unseen
  case known => exact converging.known
  case deaf => simp [listening]
  case hearing => exact converging.hearing
  case received => exact converging.received
  case ahead => exact converging.ahead
  case covered =>
    intro _ begun merged mergeable id
    have same : merged = state.stored := by
      rcases mergeable with same | asked
      · exact same
      · rcases rows with rfl | rfl
        · simp at asked
        · exact (Option.some.inj asked).symm
    exact converging.covered listening begun merged (.inl same) id
  case settled => exact converging.settled

variable {rows : Table TransferTask.id}

theorem task_mergeTransfers {received : List String} {transfers : Table TransferEntry.id} (wanted : String) :
    ((mergeTransfers received rows transfers).find? wanted).map TransferEntry.task =
      (((transfers.find? wanted).filter (keepsEntry received)).map TransferEntry.task).or
        (rows.find? wanted) := by
  have shown : ((snapshotEntries rows).find? wanted).map TransferEntry.task = rows.find? wanted := by
    simp only [Table.find?, snapshotEntries, List.find?_map, Option.map_map]
    exact Option.map_id'
  rw [mergeTransfers, Table.find?_override, Option.map_or, shown]

theorem new_snapshotEntries {wanted : String} {entry : TransferEntry}
    (found : (snapshotEntries rows).find? wanted = some entry) : entry.captured = false := by
  obtain ⟨member, -⟩ := Table.find?_some found
  obtain ⟨task, -, rfl⟩ := List.mem_map.mp member
  rfl

/-- The snapshot is merged into the list, which then is up to date but for what is still to come. -/
theorem Converging.merge (converging : Converging state)
    (asked : state.snapshot = some rows) (listening : state.listening = true) (begun : state.initialized = false) :
    Converging { state with
      transfers := mergeTransfers state.received rows state.transfers
      initialized := true
      received := []
      snapshot := none } := by
  -- What was received has its own object in the list, so exactly the new objects are kept.
  have kept : ∀ id entry, state.transfers.find? id = some entry →
      (keepsEntry state.received entry = true ↔ entry.captured = false) := by
    intro id entry found
    obtain ⟨-, rfl⟩ := Table.find?_some found
    simp only [keepsEntry, decide_eq_true_eq]
    refine ⟨fun either => either.elim (fun received => ?_) fun new => new, .inr⟩
    obtain ⟨held, there, new⟩ := converging.received _ received
    obtain rfl : entry = held := Option.some.inj (found.symm.trans there)
    exact new
  constructor
  case toAnnounced => exact ⟨converging.listed, converging.owing, converging.owedOnce,
    converging.emitted, converging.answering, converging.answersOnce⟩
  case unseen =>
    intro response member entry found
    dsimp only at found
    rw [mergeTransfers, Table.find?_override, Option.or_eq_some_iff, Option.filter_eq_some_iff] at found
    rcases found with old | row
    · exact (kept _ entry old.1).mp old.2
    · exact new_snapshotEntries row.2
  case known | deaf => simp [listening]
  case hearing => exact converging.hearing
  case received | ahead | covered => simp
  case settled =>
    intro _ id
    dsimp only
    rw [task_mergeTransfers]
    have before := converging.covered listening begun rows (.inr asked) id
    cases found : state.transfers.find? id with
    | none =>
      -- Only the snapshot has the task, or its response is still to come.
      rcases before with due | fresh | equal | missing
      · exact .inl due
      · obtain ⟨entry, there, -⟩ := fresh
        simp [found] at there
      · exact .inr (.inl (by simpa using equal))
      · refine .inr (.inr ⟨?_, missing.2⟩)
        have merged : ((mergeTransfers state.received rows state.transfers).find? id).map
            TransferEntry.task = _ := task_mergeTransfers id
        simpa [found, missing.1] using merged
    | some entry =>
      cases new : entry.captured with
      | false =>
        have keeps : keepsEntry state.received entry = true := (kept id entry found).mpr new
        rcases converging.ahead listening begun id entry found new with due | latest
        · exact .inl due
        · exact .inr (.inl (by simp [Option.filter_some, keeps, latest]))
      | true =>
        -- A captured object is replaced by the row of the snapshot.
        have drops : keepsEntry state.received entry = false := by
          have not := (kept id entry found).not
          simpa [new] using not
        rcases before with due | fresh | equal | missing
        · exact .inl due
        · obtain ⟨held, there, is⟩ := fresh
          obtain rfl : entry = held := Option.some.inj (found.symm.trans there)
          simp [new] at is
        · exact .inr (.inl (by simpa [Option.filter_some, drops] using equal))
        · obtain ⟨response, member, latest⟩ := missing.2
          obtain rfl := (Table.find?_some latest).2
          have is := converging.unseen response member entry found
          simp [new] at is

variable {task : TransferTask}

/-- An event reaches the list. -/
theorem Converging.deliver (converging : Converging state)
    {rest : List TransferTask} (events : state.events = task :: rest) (listening : state.listening = true) :
    Converging { state with
      events := rest
      received := if state.initialized = true then state.received else task.id :: state.received
      transfers := upsertTransfer task state.transfers } := by
  have announced := converging.toAnnounced
  -- A task that is not due any more has just got its latest state.
  have due : ∀ {id : String}, state.Due id → TransferState.Due { state with
      events := rest
      received := if state.initialized = true then state.received else task.id :: state.received
      transfers := upsertTransfer task state.transfers } id ∨ id = task.id ∧ state.latest.find? id = some task := by
    intro id before
    by_cases still : ∃ told ∈ state.owed ++ rest, told.id = id
    · exact .inl still
    · obtain ⟨told, member, rfl⟩ := before
      have none : ∀ other ∈ state.owed ++ rest, other.id ≠ told.id := fun other later same =>
        still ⟨other, later, same⟩
      obtain rfl : told = task := by
        rw [events] at member
        rcases List.mem_append.mp member with owed | event
        · exact absurd rfl (none told (by simp [owed]))
        · rcases List.mem_cons.mp event with first | later
          · exact first
          · exact absurd rfl (none told (by simp [later]))
      exact .inr ⟨rfl, announced.emitted [] told rest events (fun later member =>
        none later (by simp [member])) fun waiting member => none waiting (by simp [member])⟩
  have put : ∀ id, (upsertTransfer task state.transfers).find? id =
      if id = task.id then some ⟨task, false⟩ else state.transfers.find? id := fun _ =>
    Table.find?_put
  constructor
  case toAnnounced =>
    refine ⟨announced.listed, announced.owing, announced.owedOnce, ?_, announced.answering, announced.answersOnce⟩
    intro before told after split
    exact announced.emitted (task :: before) told after (by rw [events]; exact congrArg _ split)
  case unseen =>
    intro response member entry found
    dsimp only at found
    rw [put] at found
    split at found
    · obtain rfl := Option.some.inj found
      rfl
    · exact converging.unseen response member entry found
  case known | deaf => simp [listening]
  case hearing =>
    intro told member
    exact converging.hearing told (by rw [events]; exact List.mem_cons_of_mem _ member)
  case received =>
    intro id member
    by_cases same : id = task.id
    · exact ⟨⟨task, false⟩, by rw [put, if_pos same], rfl⟩
    · have old : id ∈ state.received := by
        dsimp only at member
        split at member
        · exact member
        · exact (List.mem_cons.mp member).resolve_left same
      obtain ⟨entry, found, new⟩ := converging.received id old
      exact ⟨entry, by rw [put, if_neg same]; exact found, new⟩
  case ahead =>
    intro _ begun id entry found new
    dsimp only at found ⊢
    rw [put] at found
    split at found
    · rename_i same
      obtain rfl := Option.some.inj found
      have member : task ∈ state.events := by simp [events]
      exact (due ⟨task, by simp [member], same.symm⟩).imp_right And.right
    · rename_i differs
      rcases converging.ahead listening begun id entry found new with before | latest
      · exact .inl ((due before).resolve_right fun this => differs this.1)
      · exact .inr latest
  case covered =>
    intro _ begun rows mergeable id
    by_cases same : id = task.id
    · exact .inr (.inl ⟨⟨task, false⟩, by rw [put, if_pos same], rfl⟩)
    · rcases converging.covered listening begun rows mergeable id with before | fresh | equal | missing
      · exact .inl ((due before).resolve_right fun this => same this.1)
      · obtain ⟨entry, found, new⟩ := fresh
        exact .inr (.inl ⟨entry, by rw [put, if_neg same]; exact found, new⟩)
      · exact .inr (.inr (.inl equal))
      · exact .inr (.inr (.inr missing))
  case settled =>
    intro done id
    dsimp only
    rw [put]
    by_cases same : id = task.id
    · have member : task ∈ state.events := by simp [events]
      rcases due ⟨task, by simp [member], same.symm⟩ with later | latest
      · exact .inl later
      · exact .inr (.inl (by rw [if_pos same, latest.2]; rfl))
    · rw [if_neg same]
      rcases converging.settled done id with before | equal | missing
      · exact .inl ((due before).resolve_right fun this => same this.1)
      · exact .inr (.inl equal)
      · exact .inr (.inr missing)

/-- An enqueue response reaches the list. -/
theorem Converging.respond (converging : Converging state)
    (answered : task ∈ state.responses) (timely : Timely state (.respond task)) :
    Converging { state with
      responses := state.responses.erase task
      transfers := addTransfer task state.transfers } := by
  have announced := converging.toAnnounced
  have left : ∀ response ∈ state.responses.erase task, response ∈ state.responses := fun _ =>
    List.mem_of_mem_erase
  -- No other response is for the same task.
  have apart : ∀ response ∈ state.responses, response.id = task.id → response = task := by
    intro response member same
    exact List.inj_on_of_nodup_map announced.answersOnce member answered same
  have add : ∀ id, (addTransfer task state.transfers).find? id =
      if id = task.id ∧ state.transfers.find? id = none then some ⟨task, false⟩
      else state.transfers.find? id := by
    intro id
    unfold addTransfer
    split
    · rename_i there
      rw [if_neg]
      intro both
      simp [← both.1, both.2] at there
    · rename_i absent
      have none : state.transfers.find? task.id = none := by simpa using absent
      rw [upsertTransfer, Table.find?_put]
      by_cases same : id = task.id
      · subst same
        rw [if_pos (by rfl), if_pos ⟨rfl, none⟩]
      · rw [if_neg (by exact same), if_neg fun both => same both.1]
  constructor
  case toAnnounced =>
    exact ⟨announced.listed, announced.owing, announced.owedOnce, announced.emitted,
      fun response member => announced.answering response (left response member),
      announced.answersOnce.sublist (List.erase_sublist.map _)⟩
  case unseen =>
    intro response member entry found
    dsimp only at found
    rw [add] at found
    split at found
    · obtain rfl := Option.some.inj found
      rfl
    · exact converging.unseen response (left response member) entry found
  case known =>
    intro deaf id entry found new
    dsimp only at found
    rw [add] at found
    split at found
    · rename_i both
      exact both.1 ▸ announced.answering task answered
    · exact converging.known deaf id entry found new
  case deaf => exact converging.deaf
  case hearing => exact converging.hearing
  case received =>
    intro id member
    obtain ⟨entry, found, new⟩ := converging.received id member
    exact ⟨entry, by rw [add, if_neg (by simp [found])]; exact found, new⟩
  case ahead =>
    intro listening begun id entry found new
    dsimp only at found ⊢
    rw [add] at found
    split at found
    · rename_i both
      obtain rfl := Option.some.inj found
      exact both.1 ▸ timely listening begun (both.1 ▸ both.2)
    · exact converging.ahead listening begun id entry found new
  case covered =>
    intro listening begun rows mergeable id
    rcases converging.covered listening begun rows mergeable id with due | fresh | equal | missing
    · exact .inl due
    · obtain ⟨entry, found, new⟩ := fresh
      exact .inr (.inl ⟨entry, by rw [add, if_neg (by simp [found])]; exact found, new⟩)
    · exact .inr (.inr (.inl equal))
    · obtain ⟨response, member, latest⟩ := missing.2
      by_cases this : response = task
      · -- The response that arrives leaves a new object in the list.
        subst this
        obtain rfl := (Table.find?_some latest).2
        refine .inr (.inl ?_)
        cases found : state.transfers.find? response.id with
        | none => exact ⟨⟨response, false⟩, by rw [add, if_pos ⟨rfl, found⟩], rfl⟩
        | some entry =>
          exact ⟨entry, by rw [add, if_neg (by simp [found])]; exact found,
            converging.unseen response member entry found⟩
      · exact .inr (.inr (.inr ⟨missing.1, response, (List.mem_erase_of_ne this).mpr member, latest⟩))
  case settled =>
    intro done id
    dsimp only
    rw [add]
    rcases converging.settled done id with due | equal | missing
    · exact .inl due
    · refine .inr (.inl ?_)
      rw [if_neg]
      · exact equal
      · intro both
        rw [both.2, both.1] at equal
        exact announced.answering task answered equal.symm
    · obtain ⟨response, member, latest⟩ := missing.2
      by_cases this : response = task
      · subst this
        obtain rfl := (Table.find?_some latest).2
        exact .inr (.inl (by rw [if_pos ⟨rfl, missing.1⟩, latest]; rfl))
      · have differs : id ≠ task.id := by
          obtain rfl := (Table.find?_some latest).2
          exact fun same => this (apart response member same)
        exact .inr (.inr ⟨by rw [if_neg fun both => differs both.1]; exact missing.1, response,
          (List.mem_erase_of_ne this).mpr member, latest⟩)

theorem Converging.listening (converging : Converging state)
    (heard : state.unlisten = true ∨ state.snapshot ≠ none ∨ state.events ≠ []) :
    state.listening = true := by
  by_contra deaf
  obtain ⟨silent, -, unasked, unknown, -⟩ := converging.deaf (by simpa using deaf)
  simp [silent, unasked, unknown] at heard

/-- Every timely event keeps the list converging. -/
theorem Converging.step (converging : Converging state)
    (unmerged : state.snapshot ≠ none → state.initialized = false) (timely : Timely state event)
    (taken : transferStep state event = some next) : Converging next := by
  cases event with
  | enqueue task =>
    obtain ⟨⟨fresh, absent⟩, rfl⟩ := System.guarded_eq_some.mp taken
    exact converging.enqueue fresh absent
  | upsert task =>
    obtain ⟨⟨there, free⟩, rfl⟩ := System.guarded_eq_some.mp taken
    exact converging.change there free (.inr rfl)
  | progress task =>
    obtain ⟨⟨there, free⟩, rfl⟩ := System.guarded_eq_some.mp taken
    exact converging.change there free (.inl rfl)
  | emit id =>
    obtain ⟨task, found, rfl⟩ := Option.map_eq_some_iff.mp taken
    exact converging.emit (List.mem_of_find?_eq_some found)
  | register =>
    obtain ⟨deaf, rfl⟩ := System.guarded_eq_some.mp taken
    exact converging.register deaf timely
  | registerFails =>
    obtain ⟨-, rfl⟩ := System.guarded_eq_some.mp taken
    exact converging
  | registered =>
    obtain ⟨⟨listening, -⟩, rfl⟩ := System.guarded_eq_some.mp taken
    exact ⟨⟨converging.listed, converging.owing, converging.owedOnce, converging.emitted,
      converging.answering, converging.answersOnce⟩, converging.unseen, by simp [listening],
      by simp [listening], converging.hearing, converging.received, converging.ahead,
      converging.covered, converging.settled⟩
  | list =>
    obtain ⟨⟨known, -, -⟩, rfl⟩ := System.guarded_eq_some.mp taken
    exact converging.ask (converging.listening (.inl known)) (.inr rfl)
  | listFails =>
    obtain ⟨asked, rfl⟩ := System.guarded_eq_some.mp taken
    exact converging.ask (converging.listening (.inr (.inl (Option.isSome_iff_ne_none.mp asked))))
      (.inl rfl)
  | listed =>
    obtain ⟨rows, asked, rfl⟩ := Option.map_eq_some_iff.mp taken
    exact converging.merge asked (converging.listening (.inr (.inl (by simp [asked]))))
      (unmerged (by simp [asked]))
  | deliver =>
    simp only [transferStep] at taken
    split at taken
    · rename_i task rest events
      obtain rfl := Option.some.inj taken
      exact converging.deliver events (converging.listening (.inr (.inr (by simp [events]))))
    · cases taken
  | respond task =>
    obtain ⟨answered, rfl⟩ := System.guarded_eq_some.mp taken
    exact converging.respond answered timely

/-- A snapshot is only waited for until the first one is merged. -/
def Unmerged (state : TransferState) : Prop := state.snapshot ≠ none → state.initialized = false

theorem Unmerged.step (unmerged : Unmerged state) (taken : transferStep state event = some next) : Unmerged next := by
  cases event with
  | listed =>
    obtain ⟨rows, -, rfl⟩ := Option.map_eq_some_iff.mp taken
    simp [Unmerged]
  | list =>
    obtain ⟨⟨-, begun, -⟩, rfl⟩ := System.guarded_eq_some.mp taken
    exact fun _ => begun
  | listFails =>
    obtain ⟨-, rfl⟩ := System.guarded_eq_some.mp taken
    simp [Unmerged]
  | emit id =>
    obtain ⟨task, -, rfl⟩ := Option.map_eq_some_iff.mp taken
    exact unmerged
  | deliver =>
    simp only [transferStep] at taken
    split at taken
    · obtain rfl := Option.some.inj taken
      exact unmerged
    · cases taken
  | enqueue task | upsert task | progress task | register | registerFails | registered | respond task =>
    obtain ⟨-, rfl⟩ := System.guarded_eq_some.mp taken
    exact unmerged

/--
The transfer list converges in every timely run.

Once a snapshot was merged and everything was delivered, the list holds every task of the backend in
its latest state, and no other; that no task is listed twice is part of what a table is.
-/
theorem transfersConverge {trace : List (TransferState × TransferEvent)}
    (run : transferSystem.Run trace state) (timely : ∀ entry ∈ trace, Timely entry.1 entry.2)
    (done : state.initialized = true) (delivered : state.Delivered) (id : String) :
    (state.transfers.find? id).map TransferEntry.task = state.latest.find? id := by
  have kept : Converging state ∧ Unmerged state :=
    run.invariant Timely (fun state => Converging state ∧ Unmerged state)
      (fun _ (starts : TransferStart _) =>
        ⟨.start starts, fun asked => absurd starts.begun.2.2 asked⟩)
      (fun state event next before timely taken =>
        ⟨before.1.step before.2 timely taken, before.2.step taken⟩) timely
  obtain ⟨owed, events, responses⟩ := delivered
  rcases kept.1.settled done id with due | equal | missing
  · simp [TransferState.Due, owed, events] at due
  · exact equal
  · simp [TransferState.Answering, responses] at missing

end Invariant

/-! ### A task that finishes while nobody listens -/

/-- A download that has just been accepted. -/
def queuedDownload : TransferTask where
  id := "task"
  sessionId := "session"
  direction := .download
  source := "/remote"
  destination := "/local"
  totalBytes := 0
  transferredBytes := 0
  status := .queued
  conflictPolicy := .ask
  error := none
  createdAt := "2026-01-01T00:00:00Z"

def completedDownload : TransferTask :=
  { queuedDownload with totalBytes := 1, transferredBytes := 1, status := .completed }

/-- The start of a synchronisation with nothing listed and nothing stored. -/
def noTransfers : TransferState where
  latest := .empty
  stored := .empty
  owed := []
  responses := []
  events := []
  transfers := .empty
  listening := false
  unlisten := false
  initialized := false
  received := []
  snapshot := none

theorem noTransfers_starts : TransferStart noTransfers := by
  constructor <;> simp [noTransfers, Table.find?]

/--
A response added before the listener is registered hides the row that was written meanwhile.

The download finishes while nobody listens, and is shown as queued for ever.
-/
theorem transfer_stuck :
    ∃ state, transferSystem.Reachable state ∧ state.initialized = true ∧ state.Delivered ∧
      (state.latest.find? "task").map TransferTask.status = some .completed ∧
      (state.transfers.find? "task").map (fun entry => entry.task.status) = some .queued := by
  have goes : System.trail transferStep noTransfers [.enqueue queuedDownload,
      .respond queuedDownload, .upsert completedDownload, .emit "task", .register, .registered, .list,
      .listed] = some (_, _) := rfl
  have run := System.Run.trail (.start noTransfers_starts : transferSystem.Run [] noTransfers) goes
  exact ⟨_, ⟨_, run⟩, rfl, ⟨rfl, rfl, rfl⟩, rfl, rfl⟩

/-- A download whose response is added while the listener is registered is shown as completed. -/
theorem transfersConverge_download :
    ∃ state trace, transferSystem.Run trace state ∧ state.initialized = true ∧ state.Delivered ∧
      (state.transfers.find? "task").map TransferEntry.task = some completedDownload := by
  have goes : System.trail transferStep noTransfers [.register, .registered,
      .enqueue queuedDownload, .respond queuedDownload, .upsert completedDownload, .emit "task",
      .list, .listed, .deliver] = some (_, _) := rfl
  have run := System.Run.trail (.start noTransfers_starts : transferSystem.Run [] noTransfers) goes
  refine ⟨_, _, run, rfl, ⟨rfl, rfl, rfl⟩, ?_⟩
  exact (transfersConverge run (by decide) rfl ⟨rfl, rfl, rfl⟩ "task").trans rfl

end Frontend

end CNShell
