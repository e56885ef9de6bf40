import CNShell.Sftp.DirectoryTransfer

/-! What the calls of file transfers do when they succeed, and what they leave alone. -/

namespace CNShell

namespace Sftp

open Client (AppError AppResult)
open Program (perform lift caught ignore given)

/-- The places of one side at or below which a call may change something. -/
def Call.writes (side : Side) : {β : Type} → Call β → List (List (List Char))
  | _, .mkdir other path | _, .unlink other path | _, .rmdir other path =>
    if other = side then [place path] else []
  | _, .rename other source destination => if other = side then [place source, place destination] else []
  | _, .createFile path | _, .write path _ | _, .packRemote path _ | _, .unpackRemote _ path =>
    if .remote = side then [place path] else []
  | _, .unpackOwn path => if .own = side then [place path] else []
  | _, _ => []

def Call.Reads : {β : Type} → Call β → Prop
  | _, .checkCancelled | _, .acquireTransport | _, .sftp | _, .realpath _ | _, .lstat _ _ | _, .metadata _
  | _, .readdir _ _ | _, .openFile _ | _, .read _ | _, .fsync _ | _, .openArchive | _, .readArchive
  | _, .syncArchive => True
  | _, _ => False

section Reads

variable {side : Side} {path : Path}

@[simp] theorem reads_checkCancelled : Call.Reads .checkCancelled := trivial
@[simp] theorem reads_acquireTransport : Call.Reads .acquireTransport := trivial
@[simp] theorem reads_sftp : Call.Reads .sftp := trivial
@[simp] theorem reads_realpath : Call.Reads (.realpath path) := trivial
@[simp] theorem reads_lstat : Call.Reads (.lstat side path) := trivial
@[simp] theorem reads_metadata : Call.Reads (.metadata path) := trivial
@[simp] theorem reads_readdir : Call.Reads (.readdir side path) := trivial
@[simp] theorem reads_openFile : Call.Reads (.openFile path) := trivial
@[simp] theorem reads_read : Call.Reads (.read path) := trivial
@[simp] theorem reads_fsync : Call.Reads (.fsync path) := trivial
@[simp] theorem reads_openArchive : Call.Reads .openArchive := trivial
@[simp] theorem reads_readArchive : Call.Reads .readArchive := trivial
@[simp] theorem reads_syncArchive : Call.Reads .syncArchive := trivial

end Reads

section Files

variable {side : Side} {before : World}

@[simp] theorem files_setFiles {other : Side} {files : Files} :
    (before.setFiles other files).files side = if other = side then files else before.files side := by
  cases side <;> cases other <;> rfl

@[simp] theorem remote_setFiles {files : Files} : (before.setFiles .remote files).remote = files := rfl

@[simp] theorem own_setFiles {files : Files} : (before.setFiles .own files).own = files := rfl

@[simp] theorem archive_setFiles {files : Files} : (before.setFiles side files).archive = before.archive := by
  cases side <;> rfl

@[simp] theorem files_own : before.files .own = before.own := rfl

@[simp] theorem files_remote : before.files .remote = before.remote := rfl

end Files

section Results

variable {tools : Tools} {side : Side} {before after : World} {path source destination : Path}
  {bytes : List UInt8} {u : Unit}

theorem run_rename : (calls tools).run (.rename side source destination) before = .ok (u, after) ↔
    ((before.files side).find (place source) ≠ none ∧ ¬place source <+: place destination ∧
      ((before.files side).find (place destination) = none ∨
        replaceable (before.files side) source destination side)) ∧
      after = before.setFiles side ((before.files side).move (place source) (place destination)) := by
  simp only [calls, Call.perform]
  split
  · next possible =>
    rw [and_iff_right possible]
    simp [eq_comm]
  · next refused => simp [refused, failed]

theorem run_unlink : (calls tools).run (.unlink side path) before = .ok (u, after) ↔
    ((before.files side).find (place path) ≠ none ∧ (before.files side).find (place path) ≠ some .directory) ∧
      after = before.setFiles side ((before.files side).erase (place path)) := by
  simp only [calls, Call.perform]
  split
  · next possible => simp [possible, eq_comm]
  · next refused => simp [refused, failed]

theorem run_rmdir : (calls tools).run (.rmdir side path) before = .ok (u, after) ↔
    ((before.files side).find (place path) = some .directory ∧ (before.files side).Bare (place path)) ∧
      after = before.setFiles side ((before.files side).erase (place path)) := by
  simp only [calls, Call.perform]
  split
  · next possible => simp [possible, eq_comm]
  · next refused => simp [refused, failed]

theorem run_createFile : (calls tools).run (.createFile path) before = .ok (u, after) ↔
    before.remote.find (place path) ≠ some .directory ∧
      after = { before with remote := before.remote.put (place path) (.file []) } := by
  simp only [calls, Call.perform]
  split
  · next taken => simp [taken, failed]
  · next free => simp [free, eq_comm]

theorem run_write : (calls tools).run (.write path bytes) before = .ok (u, after) ↔
    ∃ content, before.remote.find (place path) = some (.file content) ∧
      after = { before with remote := before.remote.put (place path) (.file (content ++ bytes)) } := by
  simp only [calls, Call.perform]
  split
  · next content there => simp [there, eq_comm]
  · next other =>
    simp only [failed, reduceCtorEq, false_iff]
    rintro ⟨content, there, -⟩
    exact other content there

theorem run_packRemote : (calls tools).run (.packRemote path source) before = .ok (u, after) ↔
    before.remote.find (place source) = some .directory ∧
      after = { before with
        remote := before.remote.put (place path) (.file (tools.pack (before.remote.branch (place source)))) } := by
  simp only [calls, Call.perform]
  split
  · next directory => simp [directory, eq_comm]
  · next other => simp [other, failed]

theorem run_unpackRemote : (calls tools).run (.unpackRemote path destination) before = .ok (u, after) ↔
    ∃ content files, before.remote.find (place path) = some (.file content) ∧
      before.remote.find (place destination) = some .directory ∧ tools.unpack content = some files ∧
      after = { before with
        remote := before.remote.graft (place destination) (([], .directory) :: files) } := by
  simp only [calls, Call.perform]
  split
  · next content there directory =>
    split
    · next files unpacked => simp [there, directory, unpacked, eq_comm]
    · next corrupt => simp [there, corrupt, failed]
  · next other =>
    simp only [failed, reduceCtorEq, false_iff]
    rintro ⟨content, files, there, directory, -⟩
    exact other content there directory

theorem run_packOwn : (calls tools).run (.packOwn source) before = .ok (u, after) ↔
    before.own.find (place source) = some .directory ∧
      after = { before with archive := some (tools.pack (before.own.branch (place source))) } := by
  simp only [calls, Call.perform]
  split
  · next directory => simp [directory, eq_comm]
  · next other => simp [other, failed]

theorem run_unpackOwn : (calls tools).run (.unpackOwn destination) before = .ok (u, after) ↔
    ∃ content files, before.archive = some content ∧ before.own.find (place destination) = some .directory ∧
      tools.unpack content = some files ∧
      after = { before with
        own := before.own.graft (place destination) (([], .directory) :: files) } := by
  simp only [calls, Call.perform]
  split
  · next files unpacked directory =>
    obtain ⟨content, there, unpacked⟩ := Option.bind_eq_some_iff.mp unpacked
    simp [there, directory, unpacked, eq_comm]
  · next other =>
    simp only [failed, reduceCtorEq, false_iff]
    rintro ⟨content, files, there, directory, unpacked, -⟩
    exact other files (by simp [there, unpacked]) directory

end Results

section Frames

variable {tools : Tools} {side : Side} {before after : World} {β : Type} {action : Call β}
  {outcome : AppResult β} {here : List (List Char)}

theorem same_of_reads (happens : Happens (calls tools) Call.damage action before outcome after)
    (reads : action.Reads) : after = before := by
  cases happens with
  | refused error => rfl
  | halfway error left => cases action <;> first | exact left | exact reads.elim
  | performed ran =>
    cases action <;> first | exact reads.elim | skip
    all_goals
      simp only [calls, Call.perform] at ran
      repeat' split at ran
      all_goals first | exact (Prod.mk.inj (Except.ok.inj ran)).2.symm | cases ran

theorem find_setFiles {other : Side} {files : Files}
    (same : other = side → files.find here = (before.files other).find here) :
    ((before.setFiles other files).files side).find here = (before.files side).find here := by
  rw [files_setFiles]
  split
  · next this =>
    subst this
    exact same rfl
  · rfl

theorem happens_rename {source destination : Path} {outcome : AppResult Unit}
    (happens : Happens (calls tools) Call.damage (.rename side source destination) before outcome after) :
    (∃ error, outcome = .error error ∧ after = before) ∨
    outcome = .ok () ∧ (before.files side).find (place source) ≠ none ∧
      ¬place source <+: place destination ∧
      ((before.files side).find (place destination) = none ∨
        replaceable (before.files side) source destination side) ∧
      after = before.setFiles side ((before.files side).move (place source) (place destination)) := by
  cases happens with
  | refused error => exact .inl ⟨error, rfl, rfl⟩
  | halfway error left => exact .inl ⟨error, rfl, left⟩
  | performed ran =>
    obtain ⟨⟨there, proper, free⟩, moved⟩ := run_rename.mp ran
    exact .inr ⟨rfl, there, proper, free, moved⟩

theorem child_of_readdir {path : Path} {children : List Path}
    (happens : Happens (calls tools) Call.damage (.readdir side path) before (.ok children) after) :
    ∀ child ∈ children, ∃ name, Plain name ∧ child = path ++ '/' :: name := by
  cases happens with
  | performed ran =>
    obtain ⟨rfl, -⟩ := Prod.mk.inj (Except.ok.inj ran)
    intro child member
    obtain ⟨name, listed, rfl⟩ := List.mem_map.mp member
    exact ⟨name, by simpa using (List.mem_filter.mp listed).2, rfl⟩

/-- What a call finds at a place it does not write is there afterwards. -/
theorem find_of_happens (happens : Happens (calls tools) Call.damage action before outcome after)
    (elsewhere : ∀ written ∈ action.writes side, ¬written <+: here) :
    (after.files side).find here = (before.files side).find here := by
  cases happens with
  | refused error => rfl
  | halfway error left =>
    cases action <;> first | exact congrArg (fun world => (World.files world side).find here) left | skip
    all_goals
      first
        | obtain ⟨old, content, -, rfl⟩ := left
        | obtain ⟨files, -, rfl⟩ := left
        | obtain ⟨content, rfl⟩ := left
      cases side <;> first | rfl | skip
    case write.remote | packRemote.remote => exact Disk.find_put_of_not (elsewhere _ (by simp [Call.writes]))
    case unpackRemote.remote | unpackOwn.own => exact Disk.find_graft_of_not (elsewhere _ (by simp [Call.writes]))
  | performed ran =>
    by_cases reads : action.Reads
    · rw [same_of_reads (.performed ran) reads]
    -- What is left are the calls that write, each with the change it makes.
    cases action <;> first | exact absurd trivial reads | skip
    case mkdir other path =>
      obtain ⟨-, rfl⟩ := run_mkdir.mp ran
      exact find_setFiles fun same => Disk.find_put_of_not (elsewhere _ (by simp [Call.writes, same]))
    case rename other source destination =>
      obtain ⟨-, rfl⟩ := run_rename.mp ran
      exact find_setFiles fun same => Disk.find_move_of_not (elsewhere _ (by simp [Call.writes, same]))
        (elsewhere _ (by simp [Call.writes, same]))
    case unlink other path =>
      obtain ⟨-, rfl⟩ := run_unlink.mp ran
      exact find_setFiles fun same => Disk.find_erase_of_not (elsewhere _ (by simp [Call.writes, same]))
    case rmdir other path =>
      obtain ⟨-, rfl⟩ := run_rmdir.mp ran
      exact find_setFiles fun same => Disk.find_erase_of_not (elsewhere _ (by simp [Call.writes, same]))
    case createFile path =>
      obtain ⟨-, rfl⟩ := run_createFile.mp ran
      cases side with
      | own => rfl
      | remote => exact Disk.find_put_of_not (elsewhere _ (by simp [Call.writes]))
    case write path bytes =>
      obtain ⟨content, -, rfl⟩ := run_write.mp ran
      cases side with
      | own => rfl
      | remote => exact Disk.find_put_of_not (elsewhere _ (by simp [Call.writes]))
    case packRemote path source =>
      obtain ⟨-, rfl⟩ := run_packRemote.mp ran
      cases side with
      | own => rfl
      | remote => exact Disk.find_put_of_not (elsewhere _ (by simp [Call.writes]))
    case unpackRemote path destination =>
      obtain ⟨content, files, -, -, -, rfl⟩ := run_unpackRemote.mp ran
      cases side with
      | own => rfl
      | remote => exact Disk.find_graft_of_not (elsewhere _ (by simp [Call.writes]))
    case unpackOwn destination =>
      obtain ⟨content, files, -, -, -, rfl⟩ := run_unpackOwn.mp ran
      cases side with
      | own => exact Disk.find_graft_of_not (elsewhere _ (by simp [Call.writes]))
      | remote => rfl
    all_goals
      simp only [calls, Call.perform] at ran
      repeat' split at ran
      all_goals first
        | cases ran; done
        | (obtain ⟨-, rfl⟩ := Prod.mk.inj (Except.ok.inj ran); cases side <;> rfl)

theorem tree_of_happens (happens : Happens (calls tools) Call.damage action before outcome after)
    (apart : ∀ written ∈ action.writes side, Disk.Apart written here) :
    (after.files side).tree here = (before.files side).tree here :=
  Disk.tree_congr fun names leads => find_of_happens happens fun written member below =>
    (List.prefix_or_prefix_of_prefix below leads).elim (apart written member).left (apart written member).right

end Frames

section Programs

variable {side : Side} {raw : Path → AppResult Path}

theorem present_reads (side : Side) (path : Path) : (present side path).Only fun _ action => action.Reads :=
  (Program.Only.perform (by cases side <;> trivial)).caught.bind fun _ => .pure _

theorem isDir_reads (path : Path) : (isDir path).Only fun _ action => action.Reads :=
  (Program.Only.perform trivial).caught.bind fun _ => .pure _

theorem freePath_reads (renamed : Path → Nat → Path) (original : Path) (attempts index : Nat) (candidate : Path) :
    (freePath side renamed original attempts index candidate).Only fun _ action => action.Reads := by
  induction attempts generalizing index candidate with
  | zero => exact .lift _
  | succ attempts ih =>
    refine (present_reads side candidate).bind fun taken => ?_
    split
    · exact ih _ _
    · exact .pure _

theorem resolveConflict_reads (renamed : Path → Nat → Path) (attempts : Nat) (conflictPolicy : String)
    (destination : Path) :
    (resolveConflict side renamed attempts conflictPolicy destination).Only fun _ action => action.Reads := by
  refine (present_reads side destination).bind fun taken => ?_
  split
  · split
    · exact .pure _
    · split
      · exact (freePath_reads _ _ _ _ _).bind fun _ => .pure _
      · exact .pure _
  · exact .pure _

theorem validateRoot_reads (path : Path) (remoteRoot : Option Path) (allowMissing : Bool) :
    (validateRoot raw path remoteRoot allowMissing).Only fun _ action => action.Reads := by
  cases remoteRoot with
  | none => exact .pure _
  | some root =>
    refine .lift_bind fun _ _ => .perform_bind trivial fun _ => .lift_bind fun _ _ => .lift_bind fun _ _ =>
      .lift_bind fun _ _ => .perform_bind trivial fun found => ?_
    split
    · exact .lift _
    · split
      · exact .lift_bind fun _ _ => .lift_bind fun _ _ => .perform_bind trivial fun _ => .lift_bind fun _ _ => .lift _
      · exact .lift _

theorem validateTransfer_reads (direction : String) (source destination : Path) :
    (validateTransfer raw direction source destination).Only fun _ action => action.Reads := by
  unfold validateTransfer
  split
  · exact .lift_bind fun _ _ => .lift_bind fun _ _ => (isDir_reads source).bind fun _ => .lift _
  · exact .lift_bind fun _ _ => .lift _

theorem copy_only {allowed : (β : Type) → Call β → Prop} {read : Call Unit} {write : List UInt8 → Call Unit}
    (checks : allowed _ .checkCancelled) (reads : allowed _ read) (writes : ∀ bytes, allowed _ (write bytes))
    (pieces : List (List UInt8)) : (copy read write pieces).Only allowed := by
  induction pieces with
  | nil => exact .perform_bind checks fun _ => .perform reads
  | cons piece pieces ih =>
    exact .perform_bind checks fun _ => .perform_bind reads fun _ => .perform_bind (writes piece) fun _ => ih

end Programs

/-- What was done in a run. -/
abbrev Log := List (Event Call AppError)

/-- A call was carried out. -/
def Done (log : Log) (call : Call Unit) : Prop := ⟨call, .ok ()⟩ ∈ log

def Removed (side : Side) (path : Path) (log : Log) : Prop := Done log (.rmdir side path) ∨ Done log (.unlink side path)

def Call.RemovesBelow (side : Side) (here : List (List Char)) : {β : Type} → Call β → Prop
  | _, .unlink other path | _, .rmdir other path => other = side ∧ here <+: place path
  | _, action => action.Reads

section Logs

variable {side : Side} {path : Path} {log more : Log} {call : Call Unit}

theorem done_append : Done (log ++ more) call ↔ Done log call ∨ Done more call := List.mem_append

theorem removed_append : Removed side path (log ++ more) ↔ Removed side path log ∨ Removed side path more := by
  simp only [Removed, done_append]
  tauto

@[simp] theorem not_done_nil : ¬Done [] call := List.not_mem_nil

theorem done_cons {first : Call Unit} {outcome : AppResult Unit} :
    Done (⟨first, outcome⟩ :: log) call ↔ call = first ∧ outcome = .ok () ∨ Done log call := by
  simp [Done, eq_comm]

theorem done_cons_reads {β : Type} {first : Call β} {outcome : AppResult β} (reads : first.Reads)
    (writes : ¬call.Reads) : Done (⟨first, outcome⟩ :: log) call ↔ Done log call := by
  rw [Done, List.mem_cons, or_iff_right]
  · rfl
  · intro same
    have alike : Call.Reads (Event.mk first outcome).action := reads
    rw [← same] at alike
    exact writes alike

@[simp] theorem not_removed_nil : ¬Removed side path [] := by simp [Removed]

theorem removed_cons_reads {β : Type} {first : Call β} {outcome : AppResult β} (reads : first.Reads) :
    Removed side path (⟨first, outcome⟩ :: log) ↔ Removed side path log := by
  rw [Removed, done_cons_reads reads id, done_cons_reads reads id, Removed]

theorem not_removed_error {β : Type} {action : Call β} {error : AppError} :
    ¬Removed side path [⟨action, .error error⟩] := by
  simp only [Removed, Done, List.mem_singleton]
  rintro (same | same) <;> cases same

theorem removed_inj {event : Event Call AppError} {other : Path} (removed : Removed side path [event])
    (also : Removed side other [event]) : other = path := by
  simp only [Removed, Done, List.mem_singleton] at removed also
  rcases removed with rfl | rfl
  · simpa using also
  · simpa using also

theorem not_done_of_reads (reads : ∀ event ∈ log, event.action.Reads) (writes : ¬call.Reads) : ¬Done log call :=
  fun done => writes (reads _ done)

theorem not_removed_of_reads (reads : ∀ event ∈ log, event.action.Reads) : ¬Removed side path log := by
  rintro (done | done)
  · exact not_done_of_reads reads id done
  · exact not_done_of_reads reads id done

end Logs

section Runs

variable {tools : Tools} {side : Side} {before after : World} {α β : Type} {program : Task α} {log : Log}
  {result : AppResult α} {here : List (List Char)} {path : Path} {action : Call β}

theorem same_of_runs (run : program.Runs (calls tools) Call.damage before log result after)
    (reads : ∀ event ∈ log, event.action.Reads) : after = before :=
  run.keeps (fun world => world = before) (fun _ _ _ reads same happens => (same_of_reads happens reads).trans same)
    reads rfl

theorem tree_of_runs (run : program.Runs (calls tools) Call.damage before log result after)
    (apart : ∀ event ∈ log, ∀ written ∈ event.action.writes side, Disk.Apart written here) :
    (after.files side).tree here = (before.files side).tree here :=
  run.keeps (fun world => (world.files side).tree here = (before.files side).tree here)
    (fun _ _ _ apart same happens => (tree_of_happens happens apart).trans same) apart rfl

theorem removesBelow_of_slash {name : List Char} (plain : Plain name) {β : Type} {action : Call β}
    (below : action.RemovesBelow side (place (path ++ '/' :: name))) : action.RemovesBelow side (place path) := by
  rw [place_slash plain] at below
  cases action
  case unlink | rmdir => exact ⟨below.1, (List.prefix_append _ _).trans below.2⟩
  all_goals exact below

theorem deleteRecursive_below {depth : Nat} {result : AppResult Unit}
    (run : (deleteRecursive side depth path).Runs (calls tools) Call.damage before log result after) :
    ∀ event ∈ log, event.action.RemovesBelow side (place path) := by
  induction depth generalizing path before log result after with
  | zero =>
    obtain ⟨rfl, -, -⟩ := Program.runs_lift.mp run
    simp
  | succ depth ih =>
    rw [deleteRecursive] at run
    rcases run.perform_bind with ⟨error, -, rfl, -⟩ | ⟨kind, middle, rest, -, known, rfl⟩
    · simp [Call.RemovesBelow, Call.Reads]
    refine List.forall_mem_cons.mpr ⟨trivial, ?_⟩
    split at known
    · rcases known.perform_bind with ⟨error, -, rfl, -⟩ | ⟨children, there, later, listed, emptying, rfl⟩
      · simp [Call.RemovesBelow, Call.Reads]
      refine List.forall_mem_cons.mpr ⟨trivial, ?_⟩
      -- Each entry of the directory lies below it, and so does all that its removal touches.
      have inner : ∀ {part result last}, (children.forM fun child => deleteRecursive side depth child).Runs
          (calls tools) Call.damage there part result last →
            ∀ event ∈ part, event.action.RemovesBelow side (place path) := by
        intro part result last run event member
        obtain ⟨child, among, first, piece, found, next, one, inside⟩ := run.of_forM member
        obtain ⟨name, plain, rfl⟩ := child_of_readdir listed child among
        exact removesBelow_of_slash plain (ih one event inside)
      rcases Program.runs_bind.mp emptying with ⟨error, emptied, -⟩ | ⟨_, first, last, final, emptied, removed, rfl⟩
      · exact inner emptied
      · obtain ⟨rfl, -⟩ := Program.runs_perform.mp removed
        exact List.forall_mem_append.mpr ⟨inner emptied, by simp [Call.RemovesBelow]⟩
    · obtain ⟨rfl, -⟩ := Program.runs_perform.mp known
      simp [Call.RemovesBelow]

theorem deleteRecursive_ok {depth : Nat} {result : AppResult Unit}
    (run : (deleteRecursive side depth path).Runs (calls tools) Call.damage before log result after) :
    result = .ok () ↔ Removed side path log := by
  cases depth with
  | zero =>
    obtain ⟨rfl, rfl, -⟩ := Program.runs_lift.mp run
    simp [Removed, Done]
  | succ depth =>
    rw [deleteRecursive] at run
    rcases run.perform_bind with ⟨error, -, rfl, rfl⟩ | ⟨kind, middle, rest, -, known, rfl⟩
    · simp [removed_cons_reads]
    rw [removed_cons_reads reads_lstat]
    split at known
    · rcases known.perform_bind with ⟨error, -, rfl, rfl⟩ | ⟨children, there, later, listed, emptying, rfl⟩
      · simp [removed_cons_reads]
      rw [removed_cons_reads reads_readdir]
      -- What is removed before is below an entry of the directory, so it is not the directory.
      have inner : ∀ {part result last}, (children.forM fun child => deleteRecursive side depth child).Runs
          (calls tools) Call.damage there part result last → ¬Removed side path part := by
        intro part result last run removed
        have other : ∀ event ∈ part, ∃ name, event.action.RemovesBelow side (place path ++ [name]) := by
          intro event member
          obtain ⟨child, among, first, piece, found, next, one, inside⟩ := run.of_forM member
          obtain ⟨name, plain, rfl⟩ := child_of_readdir listed child among
          exact ⟨name, place_slash plain ▸ deleteRecursive_below one event inside⟩
        rcases removed with done | done
        · obtain ⟨name, -, below⟩ := other _ done
          simpa using below.length_le
        · obtain ⟨name, -, below⟩ := other _ done
          simpa using below.length_le
      rcases Program.runs_bind.mp emptying with ⟨error, emptied, rfl⟩ | ⟨_, first, last, final, emptied, removed, rfl⟩
      · simp [inner emptied]
      · obtain ⟨rfl, -⟩ := Program.runs_perform.mp removed
        rw [removed_append, or_iff_right (inner emptied)]
        simp [Removed, done_cons]
    · obtain ⟨rfl, -⟩ := Program.runs_perform.mp known
      simp [Removed, done_cons]

theorem writes_of_reads (reads : action.Reads) : action.writes side = [] := by
  cases action <;> first | rfl | exact reads.elim

theorem removesBelow_of_reads (reads : action.Reads) : action.RemovesBelow side here := by
  cases action <;> first | exact trivial | exact reads.elim

theorem writes_of_below (below : action.RemovesBelow side here) :
    ∀ written ∈ action.writes side, here <+: written := by
  intro written member
  cases action
  case unlink | rmdir => simp_all [Call.writes, Call.RemovesBelow]
  all_goals first
    | exact below.elim
    | exact absurd member List.not_mem_nil

inductive Removal (side : Side) (before : World) (path : Path) : Event Call AppError → Prop
  | rmdir (bare : (before.files side).Bare (place path)) : Removal side before path ⟨.rmdir side path, .ok ()⟩
  | unlink (leaf : (before.files side).find (place path) ≠ some .directory) :
      Removal side before path ⟨.unlink side path, .ok ()⟩

theorem happens_removal {event : Event Call AppError}
    (happens : Happens (calls tools) Call.damage event.action before event.outcome after)
    (below : event.action.RemovesBelow side here) :
    (after = before ∧ ∀ path, ¬Removed side path [event]) ∨
    ∃ path, Removal side before path event ∧ (before.files side).find (place path) ≠ none ∧
      after = before.setFiles side ((before.files side).erase (place path)) := by
  obtain ⟨action, outcome⟩ := event
  change Happens _ _ action before outcome after at happens
  cases happens with
  | refused error => exact .inl ⟨rfl, fun _ => not_removed_error⟩
  | halfway error left =>
    refine .inl ⟨?_, fun _ => not_removed_error⟩
    cases action <;> first | exact left | exact below.elim
  | performed ran =>
    cases action with
    | unlink other path =>
      obtain ⟨rfl, -⟩ := below
      obtain ⟨⟨there, leaf⟩, rfl⟩ := run_unlink.mp ran
      exact .inr ⟨path, .unlink leaf, there, rfl⟩
    | rmdir other path =>
      obtain ⟨rfl, -⟩ := below
      obtain ⟨⟨there, bare⟩, rfl⟩ := run_rmdir.mp ran
      exact .inr ⟨path, .rmdir bare, by simp [there], rfl⟩
    | _ =>
      first
        | exact below.elim
        | exact .inl ⟨same_of_reads (.performed ran) trivial, fun _ => by simp [removed_cons_reads]⟩

theorem Removal.removed {event : Event Call AppError} (removal : Removal side before path event) :
    Removed side path [event] := by
  cases removal with
  | rmdir => exact .inl (by simp [Done])
  | unlink => exact .inr (by simp [Done])

/-- What a removal leaves: what was removed is gone and was there, and all else is as it was. -/
structure Pruned (side : Side) (before : World) (log : Log) (after : World) : Prop where
  gone : ∀ path, Removed side path log →
    (after.files side).find (place path) = none ∧ (before.files side).find (place path) ≠ none
  rest : ∀ here, (after.files side).find here = none ∨ (after.files side).find here = (before.files side).find here
  whole : (∀ path, ¬Removed side path log) → after = before
  spared : ∀ here, (∀ path, Removed side path log → place path ≠ here) →
    (after.files side).find here = (before.files side).find here
  emptied : ∀ path, Done log (.rmdir side path) → ∀ below, (after.files side).find (place path ++ below) = none
  leaves : ∀ path, Done log (.unlink side path) → (before.files side).find (place path) ≠ some .directory

theorem Pruned.still {event : Event Call AppError} (so : Pruned side before log after)
    (none : ∀ path, ¬Removed side path [event]) : Pruned side before (log ++ [event]) after := by
  have same : ∀ path, Removed side path (log ++ [event]) ↔ Removed side path log := fun path => by
    rw [removed_append, or_iff_left (none path)]
  constructor
  · exact fun path removed => so.gone path ((same path).mp removed)
  · exact so.rest
  · exact fun kept => so.whole fun path removed => kept path ((same path).mpr removed)
  · exact fun here other => so.spared here fun path removed => other path ((same path).mpr removed)
  · exact fun path done => so.emptied path ((done_append.mp done).resolve_right fun now => none path (.inl now))
  · exact fun path done => so.leaves path ((done_append.mp done).resolve_right fun now => none path (.inr now))

/-- One removal more leaves one entry less; it was there from the start, since nothing comes back. -/
theorem Pruned.more {event : Event Call AppError} (so : Pruned side before log after)
    (removal : Removal side after path event) (there : (after.files side).find (place path) ≠ none) :
    Pruned side before (log ++ [event]) (after.setFiles side ((after.files side).erase (place path))) := by
  have erased : ∀ here, ((after.setFiles side ((after.files side).erase (place path))).files side).find here =
      if here = place path then none else (after.files side).find here := by simp
  have first : (after.files side).find (place path) = (before.files side).find (place path) :=
    (so.rest (place path)).resolve_left there
  have now : ∀ other, Removed side other [event] → other = path := fun other also =>
    removed_inj removal.removed also
  constructor
  · intro other gone
    rw [erased]
    rcases removed_append.mp gone with earlier | also
    · obtain ⟨absent, before⟩ := so.gone other earlier
      exact ⟨by split <;> simp [absent], before⟩
    · obtain rfl := now other also
      exact ⟨if_pos rfl, first ▸ there⟩
  · intro here
    rw [erased]
    split
    · exact .inl rfl
    · exact so.rest here
  · exact fun kept => absurd (removed_append.mpr (.inr removal.removed)) (kept path)
  · intro here other
    rw [erased, if_neg fun same => other path (removed_append.mpr (.inr removal.removed)) same.symm]
    exact so.spared here fun path removed => other path (removed_append.mpr (.inl removed))
  · intro other done below
    rw [erased]
    split
    · rfl
    · next differ =>
      rcases done_append.mp done with earlier | also
      · exact so.emptied other earlier below
      · obtain rfl := now other (.inl also)
        cases removal with
        | rmdir bare =>
          refine bare.find ?_
          rintro rfl
          exact differ (List.append_nil _)
        | unlink => simp [Done] at also
  · intro other done
    rcases done_append.mp done with earlier | also
    · exact so.leaves other earlier
    · obtain rfl := now other (.inr also)
      cases removal with
      | rmdir => simp [Done] at also
      | unlink leaf => exact first ▸ leaf

theorem pruned_of_runs (run : program.Runs (calls tools) Call.damage before log result after)
    (below : ∀ event ∈ log, event.action.RemovesBelow side here) : Pruned side before log after := by
  have start : Pruned side before [] before := by
    constructor <;> simp
  refine run.history (fun log world => Pruned side before log world) ?_ below start
  intro log world next event permitted so happens
  rcases happens_removal happens permitted with ⟨rfl, none⟩ | ⟨path, removal, there, rfl⟩
  · exact so.still none
  · exact so.more removal there

end Runs

end Sftp

end CNShell
