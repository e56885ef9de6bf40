import CNShell.Sftp.Calls

/-! The calls by which a single file is written beside its target and moved into its place. -/

namespace CNShell

namespace Sftp

open Client (AppError AppResult)

/-- What a path leads to, and whether it is a link itself; a file that is made anew is another one. -/
structure FileEntry where
  identity : Nat
  kind : RemoteKind
  content : List UInt8
  perm : Option Nat
  mtime : Option Nat
  deriving DecidableEq

/-- The files of both sides, and the identity that the next one gets. -/
structure Volumes where
  entries : Side → Path → Option FileEntry
  next : Nat

def Volumes.set (volumes : Volumes) (side : Side) (path : Path) (entry : Option FileEntry) : Volumes :=
  { volumes with
    entries := fun other at_ => if other = side ∧ at_ = path then entry else volumes.entries other at_ }

/-- The entry of one path at another one, and nothing where it was. -/
def Volumes.move (volumes : Volumes) (side : Side) (source destination : Path) : Volumes :=
  if source = destination then volumes
  else (volumes.set side destination (volumes.entries side source)).set side source none

/-- How many bytes a file may hold, whose offsets are signed 64-bit numbers. -/
def maxFileBytes : Nat := 2 ^ 63 - 1

/-- What the two file systems do on their own account. -/
structure Habits where
  /-- The permission bits of a new file for the mode it was asked for. -/
  created : Option Nat → Option Nat
  /-- The time of the last change that a new file gets. -/
  stamped : Option Nat
  /-- Whether a rename on the server replaces a file that has the new name already. -/
  replaces : Bool

/-- What goes wrong: an SFTP error with its code, an error of the own file system, or an error of the program. -/
inductive Failure
  | sftp (code : Int)
  | io (text : String)
  | app (error : AppError)
  deriving DecidableEq

inductive FileCall : Type → Type
  -- The report of progress, which may ask to stop.
  | pulse (transferred : Int) : FileCall Unit
  -- The look at the flag that cancels; it is set where the call is refused.
  | checkCancelled : FileCall Unit
  -- The connection to the server, and the SFTP session on it.
  | connect : FileCall Unit
  | session : FileCall Unit
  | validateBoundary (path root : Path) : FileCall Unit
  | stat (path : Path) : FileCall FileEntry
  | lstat (path : Path) : FileCall FileEntry
  | openFile (side : Side) (path : Path) : FileCall Unit
  | read (side : Side) (path : Path) : FileCall Unit
  | create (side : Side) (path : Path) (mode : Option Nat) : FileCall Unit
  | write (side : Side) (path : Path) (bytes : List UInt8) : FileCall Unit
  | fsync (side : Side) (path : Path) : FileCall Unit
  | rename (side : Side) (source destination : Path) : FileCall Unit
  | posixRename (source destination : Path) : FileCall Unit
  -- Nobody looks at its result, so it does not matter whether there was a file.
  | remove (side : Side) (path : Path) : FileCall Unit

abbrev FileTask := Program FileCall Failure

/-- What a call does when nothing goes wrong. -/
def FileCall.perform (habits : Habits) : {β : Type} → FileCall β → Volumes → Except Failure (β × Volumes)
  | _, .pulse _, volumes => .ok ((), volumes)
  | _, .checkCancelled, volumes => .ok ((), volumes)
  | _, .connect, volumes => .ok ((), volumes)
  | _, .session, volumes => .ok ((), volumes)
  | _, .validateBoundary _ _, volumes => .ok ((), volumes)
  | _, .stat path, volumes =>
    match volumes.entries .remote path with
    | some entry => .ok (entry, volumes)
    | none => .error (.sftp 2)
  | _, .lstat path, volumes =>
    match volumes.entries .remote path with
    | some entry => .ok (entry, volumes)
    | none => .error (.sftp 2)
  | _, .openFile side path, volumes => if volumes.entries side path = none then .error (.sftp 2) else .ok ((), volumes)
  | _, .read _ _, volumes => .ok ((), volumes)
  | _, .create side path mode, volumes =>
    match volumes.entries side path with
    | some entry =>
      if entry.kind = .directory then .error (.sftp 4)
      else .ok ((), volumes.set side path (some { entry with content := [] }))
    | none =>
      .ok ((), { volumes.set side path (some ⟨volumes.next, .file, [], habits.created mode, habits.stamped⟩) with
        next := volumes.next + 1 })
  | _, .write side path bytes, volumes =>
    match volumes.entries side path with
    | some entry =>
      if entry.content.length + bytes.length ≤ maxFileBytes then
        .ok ((), volumes.set side path (some { entry with content := entry.content ++ bytes }))
      else .error (.io "File too large")
    | none => .error (.sftp 4)
  | _, .fsync _ _, volumes => .ok ((), volumes)
  | _, .rename side source destination, volumes =>
    -- A server may refuse a name that is taken; the own file system replaces what is no directory.
    if volumes.entries side source = none ∨
        (side = .remote ∧ habits.replaces = false ∧ volumes.entries side destination ≠ none) ∨
        (volumes.entries side destination).any (fun entry => entry.kind = .directory) = true then .error (.sftp 4)
    else .ok ((), volumes.move side source destination)
  | _, .posixRename source destination, volumes =>
    if volumes.entries .remote source = none ∨
        (volumes.entries .remote destination).any (fun entry => entry.kind = .directory) = true then .error (.sftp 4)
    else .ok ((), volumes.move .remote source destination)
  | _, .remove side path, volumes =>
    if (volumes.entries side path).any (fun entry => entry.kind = .directory) = true then .error (.sftp 4)
    else .ok ((), volumes.set side path none)

def fileCalls (habits : Habits) : Semantics FileCall Failure Volumes where
  run := FileCall.perform habits

/-- What a call that fails halfway may leave: a part of what it was to write. -/
def FileCall.damage : (β : Type) → FileCall β → Volumes → Volumes → Prop
  | _, .write side path bytes, volumes, left =>
    ∃ entry wrote, volumes.entries side path = some entry ∧ wrote <+: bytes ∧
      left = volumes.set side path (some { entry with content := entry.content ++ wrote })
  | _, _, volumes, left => left = volumes

abbrev Comes (habits : Habits) {β : Type} (call : FileCall β) (before : Volumes) (outcome : Except Failure β)
    (after : Volumes) : Prop :=
  Happens (fileCalls habits) FileCall.damage call before outcome after

abbrev FileRuns (habits : Habits) {α : Type} (task : FileTask α) (before : Volumes)
    (log : List (Event FileCall Failure)) (result : Except Failure α) (after : Volumes) : Prop :=
  task.Runs (fileCalls habits) FileCall.damage before log result after

def removalFailed : Event FileCall Failure → Bool
  | ⟨.remove _ _, .error _⟩ => true
  | _ => false

def RemovalsWork (log : List (Event FileCall Failure)) : Prop := ∀ event ∈ log, removalFailed event = false

instance (log : List (Event FileCall Failure)) : Decidable (RemovalsWork log) :=
  inferInstanceAs (Decidable (∀ event ∈ log, removalFailed event = false))

def FileCall.Writes : {β : Type} → FileCall β → Prop
  | _, .write _ _ _ => True
  | _, _ => False

/-- Whether a call changes nothing. -/
def FileCall.Idle : {β : Type} → FileCall β → Prop
  | _, .create _ _ _ => False
  | _, .write _ _ _ => False
  | _, .rename _ _ _ => False
  | _, .posixRename _ _ => False
  | _, .remove _ _ => False
  | _, _ => True

def FileCall.Touches : {β : Type} → FileCall β → Side → Path → Prop
  | _, .create side path _, other, at_ => other = side ∧ at_ = path
  | _, .write side path _, other, at_ => other = side ∧ at_ = path
  | _, .rename side source destination, other, at_ => other = side ∧ (at_ = source ∨ at_ = destination)
  | _, .posixRename source destination, other, at_ => other = .remote ∧ (at_ = source ∨ at_ = destination)
  | _, .remove side path, other, at_ => other = side ∧ at_ = path
  | _, _, _, _ => False

section Frames

variable {habits : Habits} {volumes before after : Volumes} {side other : Side} {path at_ : Path}

variable {entry : Option FileEntry}

@[simp] theorem entries_set_self : (volumes.set side path entry).entries side path = entry := if_pos ⟨rfl, rfl⟩

theorem entries_set_of_ne (elsewhere : ¬(other = side ∧ at_ = path)) :
    (volumes.set side path entry).entries other at_ = volumes.entries other at_ := if_neg elsewhere

theorem entries_move_of_ne {source destination : Path}
    (elsewhere : ¬(other = side ∧ (at_ = source ∨ at_ = destination))) :
    (volumes.move side source destination).entries other at_ = volumes.entries other at_ := by
  unfold Volumes.move
  split
  · rfl
  · rw [entries_set_of_ne fun same => elsewhere ⟨same.1, .inl same.2⟩,
      entries_set_of_ne fun same => elsewhere ⟨same.1, .inr same.2⟩]

theorem entries_move {source destination : Path} (apart : source ≠ destination) :
    (volumes.move side source destination).entries side destination = volumes.entries side source ∧
      (volumes.move side source destination).entries side source = none := by
  rw [Volumes.move, if_neg apart]
  refine ⟨?_, entries_set_self⟩
  rw [entries_set_of_ne fun same => apart same.2.symm, entries_set_self]

variable {β : Type}

/-- A call leaves alone what it does not touch, however it comes out. -/
theorem Comes.frame {call : FileCall β} {outcome : Except Failure β}
    (comes : Comes habits call before outcome after) (spared : ¬call.Touches side path) :
    after.entries side path = before.entries side path := by
  cases comes with
  | refused error => rfl
  | halfway error left =>
    cases call
    case write =>
      obtain ⟨entry, wrote, -, -, rfl⟩ := left
      exact entries_set_of_ne spared
    all_goals
      obtain rfl : after = before := left
      rfl
  | performed ran =>
    cases call
    all_goals simp only [fileCalls, FileCall.perform] at ran
    case create =>
      split at ran
      · split at ran
        · cases ran
        · cases ran
          exact entries_set_of_ne spared
      · cases ran
        exact entries_set_of_ne spared
    case write =>
      split at ran
      · split at ran
        · cases ran
          exact entries_set_of_ne spared
        · cases ran
      · cases ran
    case rename | posixRename =>
      split at ran
      · cases ran
      · cases ran
        exact entries_move_of_ne spared
    case remove =>
      split at ran
      · cases ran
      · cases ran
        exact entries_set_of_ne spared
    case stat | lstat | openFile =>
      split at ran <;> cases ran
      rfl
    all_goals
      cases ran
      rfl

variable {log : List (Event FileCall Failure)} {α : Type}

variable {result : Except Failure α} {task : FileTask α}

theorem FileRuns.frame (run : FileRuns habits task before log result after)
    (only : task.Only fun _ call => ¬call.Touches side path) : after.entries side path = before.entries side path := by
  refine run.keeps (fun volumes => volumes.entries side path = before.entries side path)
    (fun store next event spared same comes => ?_) (run.permits only) rfl
  exact (Comes.frame comes spared).trans same

variable {call : FileCall β}

theorem Comes.still {outcome : Except Failure β}
    (comes : Comes habits call before outcome after) (idle : call.Idle) : after = before := by
  cases comes with
  | refused error => rfl
  | halfway error left =>
    cases call
    case write => exact idle.elim
    all_goals exact left
  | performed ran =>
    cases call
    all_goals first
      | exact idle.elim
      | simp only [fileCalls, FileCall.perform] at ran
    case stat | lstat | openFile =>
      split at ran <;> cases ran
      rfl
    all_goals
      cases ran
      rfl

theorem FileRuns.still
    (run : FileRuns habits task before log result after) (only : task.Only fun _ call => call.Idle) : after = before :=
  run.keeps (fun volumes => volumes = before) (fun _ _ _ idle same comes => (Comes.still comes idle).trans same)
    (run.permits only) rfl

theorem FileRuns.of_idle {following : β → FileTask α} {value : α}
    (run : FileRuns habits (.perform call >>= following) before log (.ok value) after) (idle : call.Idle) :
    ∃ found rest, Comes habits call before (.ok found) before ∧
      FileRuns habits (following found) before rest (.ok value) after ∧ log = ⟨call, .ok found⟩ :: rest := by
  rcases run.perform_bind with ⟨error, -, -, differ⟩ | ⟨found, middle, rest, comes, others, same⟩
  · cases differ
  · obtain rfl := Comes.still comes idle
    exact ⟨found, rest, comes, others, same⟩

theorem Comes.removed {u : Unit} (comes : Comes habits (.remove side path) before (.ok u) after) :
    after = before.set side path none := by
  cases comes with
  | performed ran =>
    simp only [fileCalls, FileCall.perform] at ran
    split at ran
    · cases ran
    · cases ran
      rfl

variable {u : Unit}

theorem Comes.wrote {bytes : List UInt8} (comes : Comes habits (.write side path bytes) before (.ok u) after) :
    ∃ entry, before.entries side path = some entry ∧ entry.content.length + bytes.length ≤ maxFileBytes ∧
      after = before.set side path (some { entry with content := entry.content ++ bytes }) := by
  cases comes with
  | performed ran =>
    simp only [fileCalls, FileCall.perform] at ran
    split at ran
    · next entry there =>
      split at ran
      · next fits =>
        cases ran
        exact ⟨entry, there, fits, rfl⟩
      · cases ran
    · cases ran

theorem Comes.created {mode : Option Nat} (comes : Comes habits (.create side path mode) before (.ok u) after) :
    ∃ entry, after.entries side path = some entry ∧ entry.content = [] ∧ entry.kind ≠ .directory ∧
      (before.entries side path = none → entry.perm = habits.created mode ∧ entry.identity = before.next) := by
  cases comes with
  | performed ran =>
    simp only [fileCalls, FileCall.perform] at ran
    split at ran
    · next old there =>
      split at ran
      · cases ran
      · next kind =>
        cases ran
        refine ⟨_, entries_set_self, rfl, kind, fun none => ?_⟩
        rw [there] at none
        cases none
    · cases ran
      exact ⟨_, entries_set_self, rfl, by simp, fun _ => ⟨rfl, rfl⟩⟩

theorem Comes.renamed {source destination : Path}
    (comes : Comes habits (.rename side source destination) before (.ok u) after) :
    after = before.move side source destination := by
  cases comes with
  | performed ran =>
    simp only [fileCalls, FileCall.perform] at ran
    split at ran
    · cases ran
    · cases ran
      rfl

theorem Comes.failed {β : Type} {call : FileCall β} {error : Failure}
    (comes : Comes habits call before (.error error) after) (plain : ¬call.Writes) : after = before := by
  cases comes with
  | refused error => rfl
  | halfway error left =>
    cases call
    case write => exact absurd trivial plain
    all_goals exact left

end Frames

end Sftp

end CNShell
