import CNShell.Sftp.Paths
import CNShell.Sftp.SingleFiles

/-! The two ways of writing a remote text: a temporary file is written and takes the place of the target. -/

namespace CNShell

namespace Sftp

open Client (AppError AppResult)
open Program (perform lift caught ignore given)

/-- A result of the program itself, among the failures of its calls. -/
def appResult {α : Type} (result : AppResult α) : Except Failure α := result.mapError .app

def besideTarget (target : Path) (suffix : List Char) : Path :=
  match lastName target with
  | some name => join ((parent target).getD []) (name ++ suffix)
  | none => join target suffix

/-- What the server said of the target of a replacement that it does not support. -/
def renameMissing (source destination : Path) : Except Failure FileEntry → FileTask Unit
  | .ok _ =>
    lift (.error (.app (.unavailable
      "远端 SFTP 服务不支持 posix-rename@openssh.com，无法安全地原子覆盖已有文件")))
  | .error error => if error = .sftp 2 then perform (.rename .remote source destination) else lift (.error error)

/-- What follows the replacement by its own request. -/
def replaceOtherwise (source destination : Path) : Except Failure Unit → FileTask Unit
  | .ok _ => return ()
  | .error error =>
    if error = .sftp 8 then caught (perform (.lstat destination)) >>= renameMissing source destination
    else lift (.error error)

def atomicReplace (source destination : Path) : FileTask Unit :=
  caught (perform (.posixRename source destination)) >>= replaceOtherwise source destination

/-- The temporary file is written and synced. -/
def writeTemp (temp : Path) (mode : Nat) (content : List UInt8) : FileTask Unit := do
  perform (.create .remote temp (some mode))
  perform (.write .remote temp content)
  perform (.fsync .remote temp)

def validateTextSize (size : Nat) : AppResult Unit :=
  ensure (size ≤ 10 * 1024 * 1024) (.validation "内置编辑器仅处理 10 MB 以下文本文件")

section Save

variable (identifier : Uuid) (path : Path) (content : List UInt8) (expectedModifiedAt : Option Nat)

/-- What the editor asks before it saves: where the text goes, and what is there. -/
def statTarget : FileTask (Path × FileEntry) := do
  lift (appResult (validateRemotePath rawPath path))
  lift (appResult (validateTextSize content.length))
  perform .session
  let target ← lift (appResult (remotePath rawPath path))
  let stat ← perform (.stat target)
  lift (ensure (expectedModifiedAt = none ∨ stat.mtime = expectedModifiedAt)
    (.app (.remote "远端文件已被其他程序修改，请重新加载后合并")))
  return (target, stat)

/-- The new text is written beside the target, and replaces it. -/
def saveOver (target : Path) (stat : FileEntry) : FileTask Unit := do
  let temp := besideTarget target (".cnshell-".toList ++ identifier.text)
  writeTemp temp (stat.perm.getD 0o644) content
  let replaced ← caught (atomicReplace temp target)
  given (replaced.isOk = false) (ignore (perform (.remove .remote temp)))
  lift replaced

def saveText : FileTask Unit := do
  let (target, stat) ← statTarget path content expectedModifiedAt
  saveOver identifier content target stat

end Save

structure AtomicTextWrite where
  sha256 : String
  created : Bool

section Atomic

-- The digest of the bytes of a file, in hexadecimal digits, and the pieces that the server gives of the old one.
variable (sha256 : List UInt8 → String) (pieces : List (List UInt8)) (identifier : Uuid) (path root : Path)
  (content : List UInt8) (expectedSha256 : Option String)

/-- What the server said of the target. -/
def existingOf : Except Failure FileEntry → FileTask (Option FileEntry)
  | .ok stat =>
    if stat.kind = .file then return some stat
    else lift (.error (.app (.validation "MCP 只能覆盖普通文件，不跟随符号链接")))
  | .error error => if error = .sftp 2 then return none else lift (.error error)

def readOld (target : Path) : List (List UInt8) → Nat → FileTask (List UInt8)
  | [], _ => do
    perform .checkCancelled
    perform (.read .remote target)
    return []
  | piece :: pieces, readTotal => do
    perform .checkCancelled
    perform (.read .remote target)
    if piece = [] then return []
    else do
      lift (ensure (readTotal + piece.length ≤ 10 * 1024 * 1024)
        (.app (.validation "MCP 冲突检查不处理超过 10 MiB 的文本文件")))
      let rest ← readOld target pieces (readTotal + piece.length)
      return piece ++ rest

/-- The check that the old text is the one that was expected, and none where none was named. -/
def checkExpected (target : Path) (existing : Option FileEntry) : Option String → FileTask Unit
  | some expected => do
    lift (ensure (existing.isSome = true) (.app (.remote "远端文件不存在，expectedSha256 无法匹配")))
    perform (.openFile .remote target)
    let old ← readOld target pieces 0
    lift (ensure ("sha256:" ++ sha256 old = expected) (.app (.remote "远端文件内容已变化，expectedSha256 不匹配")))
  | none => lift (ensure (existing = none) (.app (.remote "覆盖已有文件必须提供 expectedSha256")))

def checkTarget : FileTask (Path × Option FileEntry) := do
  lift (appResult (validateRemotePath rawPath path))
  lift (appResult (validateRemotePath rawPath root))
  lift (ensure (content.length ≤ 256 * 1024) (.app (.validation "MCP 单次文本写入不能超过 256 KiB")))
  lift (ensure (expectedSha256.all (fun value => value.utf8ByteSize = 71 ∧ "sha256:".toList.isPrefixOf value.toList) = true)
    (.app (.validation "MCP expectedSha256 格式无效")))
  perform .session
  perform .checkCancelled
  perform (.validateBoundary path root)
  let target ← lift (appResult (remotePath rawPath path))
  let existing ← caught (perform (.lstat target)) >>= existingOf
  checkExpected sha256 pieces target existing expectedSha256
  return (target, existing)

/-- The new text is written beside the target, and replaces it, unless the write is cancelled. -/
def writeAndReplace (target temp : Path) (mode : Nat) : FileTask Unit := do
  perform .checkCancelled
  writeTemp temp mode content
  perform .checkCancelled
  atomicReplace temp target

def writeOver (target : Path) (existing : Option FileEntry) : FileTask AtomicTextWrite := do
  let temp := besideTarget target (".cnshell-mcp-".toList ++ identifier.text)
  let written ← caught (writeAndReplace content target temp ((existing.bind FileEntry.perm).getD 0o644))
  given (written.isOk = false) (ignore (perform (.remove .remote temp)))
  lift written
  return ⟨"sha256:" ++ sha256 content, existing.isNone⟩

def writeTextAtomic : FileTask AtomicTextWrite := do
  let (target, existing) ← checkTarget sha256 pieces path root content expectedSha256
  writeOver sha256 identifier content target existing

end Atomic

section Paths

variable {target name suffix : List Char}

theorem lastName_join (directory : Path) (plain : Plain name) : lastName (join directory name) = some name := by
  have last (before : List Char) : lastName (before ++ '/' :: name) = some name := by
    simp [lastName, components_of_plain plain, plain.entry]
  unfold join
  split
  · next ends =>
    rcases ends with rfl | ends
    · simp [lastName, components_of_plain plain, plain.entry]
    · obtain ⟨before, rfl⟩ : ∃ before, directory = before ++ ['/'] :=
        ⟨directory.dropLast, (List.dropLast_append_getLast? _ ends).symm⟩
      rw [List.append_assoc, List.singleton_append]
      exact last before
  · exact last directory

theorem besideTarget_ne (plain : Plain suffix) (other : ∀ name, '/' ∉ name → Plain (name ++ suffix)) :
    besideTarget target suffix ≠ target := by
  intro same
  have named := congrArg lastName same
  unfold besideTarget at named
  cases found : lastName target with
  | none =>
    simp only [found, lastName_join target plain] at named
    cases named
  | some name =>
    have whole : '/' ∉ name := by
      unfold lastName at found
      obtain ⟨member, -⟩ := Option.filter_eq_some_iff.mp found
      exact (whole_of_mem_components (List.mem_of_getLast? member)).1
    simp only [found, lastName_join _ (other name whole)] at named
    -- A name with something after it is longer.
    have length := congrArg List.length (Option.some.inj named)
    have empty : suffix = [] := by simpa using length
    exact plain.filled empty

end Paths

/-- Whether a call put a file into the place of another. -/
def renamed : Event FileCall Failure → Bool
  | ⟨.rename _ _ _, .ok _⟩ => true
  | ⟨.posixRename _ _, .ok _⟩ => true
  | _ => false

def writeFailed : Event FileCall Failure → Bool
  | ⟨.write _ _ _, .error _⟩ => true
  | ⟨.fsync _ _, .error _⟩ => true
  | _ => false

/-- The two ways of writing a text, with what each is given beside its path and content. -/
inductive TextWrite
  | save (expectedModifiedAt : Option Nat)
  | atomic (root : Path) (expectedSha256 : Option String) (pieces : List (List UInt8))

namespace TextWrite

/-- The temporary file of a write. -/
def temp (write : TextWrite) (identifier : Uuid) (target : Path) : Path :=
  besideTarget target (match write with
    | .save _ => ".cnshell-".toList ++ identifier.text
    | .atomic _ _ _ => ".cnshell-mcp-".toList ++ identifier.text)

def program (write : TextWrite) (sha256 : List UInt8 → String) (identifier : Uuid) (path : Path)
    (content : List UInt8) : FileTask Unit :=
  match write with
  | .save expectedModifiedAt => saveText identifier path content expectedModifiedAt
  | .atomic root expectedSha256 pieces =>
    Program.discard (writeTextAtomic sha256 pieces identifier path root content expectedSha256)

/-- The writes whose temporary files are removed, whatever fails. -/
def Tidy : TextWrite → List (Event FileCall Failure) → Prop
  | .save _, log => log.any writeFailed = false
  | .atomic _ _ _, _ => True

theorem temp_ne (write : TextWrite) (identifier : Uuid) (target : Path) : write.temp identifier target ≠ target := by
  -- What is put after a name has no slash and is more than dots.
  cases write
  all_goals
    refine besideTarget_ne (@Plain.of_mem _ 'c' ?_ ?_ (by decide)) fun name whole =>
      @Plain.of_mem _ 'c' ?_ ?_ (by decide)
    all_goals simp [identifier.whole]
  all_goals exact whole

end TextWrite

section Laws

variable {habits : Habits} {source destination temp target : Path} {mode : Nat} {content : List UInt8}
  {before after : Volumes} {log : List (Event FileCall Failure)}

variable {result : Except Failure Unit}

theorem atomicReplace_cases (run : FileRuns habits (atomicReplace source destination) before log result after) :
    log.any writeFailed = false ∧ (∀ event ∈ log, removalFailed event = false) ∧
      ((result.isOk = false ∧ log.any renamed = false ∧ after = before) ∨
        (result.isOk = true ∧ log.any renamed = true ∧ after = before.move .remote source destination)) := by
  obtain ⟨outcome, middle, rest, asked, following, rfl⟩ := run.caught_bind
  cases outcome with
  | ok u =>
    obtain ⟨rfl, rfl, rfl⟩ := Program.runs_pure.mp following
    cases asked with
    | performed ran =>
      simp only [fileCalls, FileCall.perform] at ran
      split at ran
      · cases ran
      · cases ran
        exact ⟨rfl, by simp [removalFailed], .inr ⟨rfl, rfl, rfl⟩⟩
  | error error =>
    obtain rfl := Comes.failed asked id
    rw [replaceOtherwise] at following
    split at following
    · obtain ⟨found, next, others, looked, missing, rfl⟩ := following.caught_bind
      obtain rfl := Comes.still looked trivial
      -- The server does not know the request, so a file that is there is not replaced.
      cases found with
      | ok stat =>
        obtain ⟨rfl, rfl, rfl⟩ := Program.runs_lift.mp missing
        exact ⟨rfl, by simp [removalFailed], .inl ⟨rfl, rfl, rfl⟩⟩
      | error statError =>
        rw [renameMissing] at missing
        split at missing
        · obtain ⟨rfl, moved⟩ := Program.runs_perform.mp missing
          cases result with
          | ok u => exact ⟨rfl, by simp [removalFailed], .inr ⟨rfl, rfl, Comes.renamed moved⟩⟩
          | error fault => exact ⟨rfl, by simp [removalFailed], .inl ⟨rfl, rfl, Comes.failed moved id⟩⟩
        · obtain ⟨rfl, rfl, rfl⟩ := Program.runs_lift.mp missing
          exact ⟨rfl, by simp [removalFailed], .inl ⟨rfl, rfl, rfl⟩⟩
    · obtain ⟨rfl, rfl, rfl⟩ := Program.runs_lift.mp following
      exact ⟨rfl, by simp [removalFailed], .inl ⟨rfl, rfl, rfl⟩⟩

theorem writeTemp_spares {path : Path} (apart : path ≠ temp) :
    (writeTemp temp mode content).Only fun _ call => ¬call.Touches .remote path :=
  .perform_bind (fun same => apart same.2) fun _ => .perform_bind (fun same => apart same.2) fun _ =>
    .perform id

/-- Whether a call neither moves nor removes a file. -/
def Stays : {β : Type} → FileCall β → Prop
  | _, .rename _ _ _ => False
  | _, .posixRename _ _ => False
  | _, .remove _ _ => False
  | _, _ => True

theorem calm_of_stays (stays : ∀ event ∈ log, Stays event.action) : log.any renamed = false ∧ RemovalsWork log := by
  have each (event : Event FileCall Failure) (stay : Stays event.action) :
      renamed event = false ∧ removalFailed event = false := by
    obtain ⟨action, outcome⟩ := event
    cases action
    case rename | posixRename | remove => exact stay.elim
    all_goals exact ⟨rfl, rfl⟩
  exact ⟨List.any_eq_false.mpr fun event member => by simp [(each event (stays event member)).1],
    fun event member => (each event (stays event member)).2⟩

theorem writeTemp_calm (run : FileRuns habits (writeTemp temp mode content) before log result after) :
    log.any renamed = false ∧ RemovalsWork log :=
  calm_of_stays (run.permits (.perform_bind trivial fun _ => .perform_bind trivial fun _ => .perform trivial))

theorem writeTemp_error {error : Failure} (fresh : before.entries .remote temp = none)
    (run : FileRuns habits (writeTemp temp mode content) before log (.error error) after) :
    after.entries .remote temp = none ↔ log.any writeFailed = false := by
  rcases run.perform_bind with ⟨_, failed, rfl, -⟩ | ⟨_, made, rest, created, writing, rfl⟩
  · obtain rfl := Comes.failed failed id
    simp [fresh, writeFailed]
  obtain ⟨entry, there, -⟩ := Comes.created created
  rcases writing.perform_bind with ⟨_, failed, rfl, -⟩ | ⟨_, written, others, wrote, syncing, rfl⟩
  · cases failed with
    | refused error => simp [there, writeFailed]
    | halfway error left =>
      obtain ⟨_, _, -, -, rfl⟩ := left
      simp [writeFailed]
  · obtain ⟨_, -, -, rfl⟩ := Comes.wrote wrote
    obtain ⟨rfl, failed⟩ := Program.runs_perform.mp syncing
    obtain rfl := Comes.failed failed id
    simp [writeFailed]

theorem writeTemp_ok {u : Unit} (fresh : before.entries .remote temp = none)
    (run : FileRuns habits (writeTemp temp mode content) before log (.ok u) after) :
    log.any writeFailed = false ∧ ∃ entry, after.entries .remote temp = some entry ∧ entry.content = content ∧
      entry.perm = habits.created (some mode) := by
  rcases run.perform_bind with ⟨_, -, -, differ⟩ | ⟨_, made, rest, created, writing, rfl⟩
  · cases differ
  obtain ⟨entry, there, empty, -, anew⟩ := Comes.created created
  rcases writing.perform_bind with ⟨_, -, -, differ⟩ | ⟨_, written, others, wrote, syncing, rfl⟩
  · cases differ
  obtain ⟨old, found, -, rfl⟩ := Comes.wrote wrote
  obtain rfl := Option.some.inj (found.symm.trans there)
  obtain ⟨rfl, synced⟩ := Program.runs_perform.mp syncing
  obtain rfl := Comes.still synced trivial
  exact ⟨rfl, _, entries_set_self, by simp [empty], (anew fresh).1⟩

def Looks : {β : Type} → FileCall β → Prop
  | _, .fsync _ _ => False
  | _, call => call.Idle

/-- A log in which nothing was put into its place, no write failed and no removal. -/
structure Quiet (log : List (Event FileCall Failure)) : Prop where
  still : log.any renamed = false
  written : log.any writeFailed = false
  removals : RemovalsWork log

theorem quiet_of_looks (looks : ∀ event ∈ log, Looks event.action) : Quiet log := by
  have each (event : Event FileCall Failure) (look : Looks event.action) :
      Stays event.action ∧ writeFailed event = false := by
    obtain ⟨action, outcome⟩ := event
    cases action
    case rename | posixRename | write | fsync | remove => exact look.elim
    all_goals exact ⟨trivial, rfl⟩
  have calm := calm_of_stays fun event member => (each event (looks event member)).1
  exact ⟨calm.1, List.any_eq_false.mpr fun event member => by simp [(each event (looks event member)).2], calm.2⟩

theorem idle_of_looks {β : Type} {call : FileCall β} (look : Looks call) : call.Idle := by
  cases call
  case fsync => exact look.elim
  all_goals exact look

theorem looked {α : Type} {task : FileTask α} {result : Except Failure α}
    (run : FileRuns habits task before log result after) (only : task.Only fun _ call => Looks call) :
    after = before ∧ Quiet log :=
  ⟨FileRuns.still run (only.weaken fun _ _ look => idle_of_looks look), quiet_of_looks (run.permits only)⟩

theorem statTarget_looks (path : Path) (expectedModifiedAt : Option Nat) :
    (statTarget path content expectedModifiedAt).Only fun _ call => Looks call :=
  .lift_bind fun _ _ => .lift_bind fun _ _ => .perform_bind trivial fun _ => .lift_bind fun _ _ =>
    .perform_bind trivial fun _ => .lift_bind fun _ _ => .pure _

theorem appResult_ok {α : Type} {checked : AppResult α} {value : α} (passed : appResult checked = .ok value) :
    checked = .ok value := by
  cases checked with
  | ok other =>
    cases passed
    rfl
  | error error => cases passed

variable {stat : FileEntry}

theorem stat_ok (comes : Comes habits (.stat target) before (.ok stat) after) :
    before.entries .remote target = some stat := by
  cases comes with
  | performed ran =>
    simp only [fileCalls, FileCall.perform] at ran
    split at ran
    · next there =>
      cases ran
      exact there
    · cases ran

theorem lstat_ok (comes : Comes habits (.lstat target) before (.ok stat) after) :
    before.entries .remote target = some stat := by
  cases comes with
  | performed ran =>
    simp only [fileCalls, FileCall.perform] at ran
    split at ran
    · next there =>
      cases ran
      exact there
    · cases ran

theorem statTarget_ok {path : Path} {expectedModifiedAt : Option Nat}
    (run : FileRuns habits (statTarget path content expectedModifiedAt) before log (.ok (target, stat)) after) :
    remotePath rawPath path = .ok target ∧ before.entries .remote target = some stat := by
  rcases run.lift_bind with ⟨_, -, -, differ, -⟩ | ⟨_, -, sized⟩
  · cases differ
  rcases sized.lift_bind with ⟨_, -, -, differ, -⟩ | ⟨_, -, opening⟩
  · cases differ
  obtain ⟨_, _, -, naming, -⟩ := FileRuns.of_idle opening trivial
  rcases naming.lift_bind with ⟨_, -, -, differ, -⟩ | ⟨found, named, asking⟩
  · cases differ
  obtain ⟨seen, _, looked, checking, -⟩ := FileRuns.of_idle asking trivial
  rcases checking.lift_bind with ⟨_, -, -, differ, -⟩ | ⟨_, -, returned⟩
  · cases differ
  obtain ⟨-, same, -⟩ := Program.runs_pure.mp returned
  cases same
  exact ⟨appResult_ok named, stat_ok looked⟩

theorem checkTarget_looks (sha256 : List UInt8 → String) (pieces : List (List UInt8)) (path root : Path)
    (expectedSha256 : Option String) :
    (checkTarget sha256 pieces path root content expectedSha256).Only fun _ call => Looks call := by
  have reading (target : Path) (pieces : List (List UInt8)) (readTotal : Nat) :
      (readOld target pieces readTotal).Only fun _ call => Looks call := by
    induction pieces generalizing readTotal with
    | nil => exact .perform_bind trivial fun _ => .perform_bind trivial fun _ => .pure _
    | cons piece pieces ih =>
      refine .perform_bind trivial fun _ => .perform_bind trivial fun _ => ?_
      split
      · exact .pure _
      · exact .lift_bind fun _ _ => (ih _).bind fun _ => .pure _
  have asking (target : Path) :
      (caught (perform (.lstat target)) >>= existingOf).Only fun _ call => Looks call := by
    refine (Program.Only.perform trivial).caught.bind fun outcome => ?_
    cases outcome with
    | ok | error =>
      rw [existingOf]
      split
      · exact .pure _
      · exact .lift _
  have checking (target : Path) (existing : Option FileEntry) :
      (checkExpected sha256 pieces target existing expectedSha256).Only fun _ call => Looks call := by
    cases expectedSha256 with
    | none => exact .lift _
    | some expected =>
      exact .lift_bind fun _ _ => .perform_bind trivial fun _ => (reading target pieces 0).bind fun _ => .lift _
  exact .lift_bind fun _ _ => .lift_bind fun _ _ => .lift_bind fun _ _ => .lift_bind fun _ _ =>
    .perform_bind trivial fun _ => .perform_bind trivial fun _ => .perform_bind trivial fun _ =>
    .lift_bind fun target _ => (asking target).bind fun _ => (checking target _).bind fun _ => .pure _

/-- Whether the server said that nothing is at a path. -/
def denies (target : Path) : Event FileCall Failure → Bool
  | ⟨.lstat path, .error error⟩ => path = target ∧ error = .sftp 2
  | _ => false

variable {existing : Option FileEntry}

theorem checkTarget_ok {sha256 : List UInt8 → String} {pieces : List (List UInt8)} {path root : Path}
    {expectedSha256 : Option String}
    (run : FileRuns habits (checkTarget sha256 pieces path root content expectedSha256) before log
      (.ok (target, existing)) after) :
    remotePath rawPath path = .ok target ∧
      (∀ stat, existing = some stat → before.entries .remote target = some stat) ∧
      (existing = none → log.any (denies target) = true) := by
  rcases run.lift_bind with ⟨_, -, -, differ, -⟩ | ⟨_, -, rooting⟩
  · cases differ
  rcases rooting.lift_bind with ⟨_, -, -, differ, -⟩ | ⟨_, -, sizing⟩
  · cases differ
  rcases sizing.lift_bind with ⟨_, -, -, differ, -⟩ | ⟨_, -, digesting⟩
  · cases differ
  rcases digesting.lift_bind with ⟨_, -, -, differ, -⟩ | ⟨_, -, opening⟩
  · cases differ
  obtain ⟨_, first, -, flagging, rfl⟩ := FileRuns.of_idle opening trivial
  obtain ⟨_, second, -, bounding, rfl⟩ := FileRuns.of_idle flagging trivial
  obtain ⟨_, third, -, naming, rfl⟩ := FileRuns.of_idle bounding trivial
  rcases naming.lift_bind with ⟨_, -, -, differ, -⟩ | ⟨found, named, asking⟩
  · cases differ
  obtain ⟨seen, asked, middle, rest, answering, checking, rfl⟩ := asking.bind_ok
  obtain ⟨_, checked, last, ending, -, returned, rfl⟩ := checking.bind_ok
  obtain ⟨-, same, -⟩ := Program.runs_pure.mp returned
  cases same
  refine ⟨appResult_ok named, ?_⟩
  obtain ⟨outcome, next, more, looked, answered, rfl⟩ := answering.caught_bind
  cases outcome with
  | ok stat =>
    rw [existingOf] at answered
    split at answered
    · obtain ⟨-, same, -⟩ := Program.runs_pure.mp answered
      cases same
      refine ⟨fun other found => ?_, fun absent => (by cases absent)⟩
      cases found
      exact lstat_ok looked
    · obtain ⟨-, differ, -⟩ := Program.runs_lift.mp answered
      cases differ
  | error error =>
    rw [existingOf] at answered
    split at answered
    · next missing =>
      obtain ⟨-, same, -⟩ := Program.runs_pure.mp answered
      cases same
      exact ⟨fun _ found => (by cases found), fun _ => by simp [denies, missing]⟩
    · obtain ⟨-, differ, -⟩ := Program.runs_lift.mp answered
      cases differ

def permissionBits (perm : Option Nat) : Option Nat := perm.map (· % 0o10000)

/-- A write replaces the target with its permission bits, or leaves it alone and nothing beside it. -/
structure WritesCleanly (target temp : Path) (content : List UInt8) (before : Volumes)
    (log : List (Event FileCall Failure)) (worked : Bool) (after : Volumes) : Prop where
  kept : worked = false → after.entries .remote target = before.entries .remote target ∧
    (RemovalsWork log → after.entries .remote temp = none)
  replaced : worked = true → ∃ entry, after.entries .remote target = some entry ∧ entry.content = content ∧
    ∀ old, before.entries .remote target = some old → permissionBits entry.perm = permissionBits old.perm

/-- A file that takes the place of the target was created with its permission bits. -/
def KeepsBits (habits : Habits) (target : Path) (before : Volumes) (log : List (Event FileCall Failure)) : Prop :=
  log.any renamed = true → ∀ old, before.entries .remote target = some old →
    permissionBits (habits.created (some (old.perm.getD 0o644))) = permissionBits old.perm

variable {first : List (Event FileCall Failure)}

theorem removalsWork_append (quiet : Quiet first) : RemovalsWork (first ++ log) ↔ RemovalsWork log := by
  unfold RemovalsWork
  rw [List.forall_mem_append]
  exact and_iff_right quiet.removals

theorem writesCleanly_append {worked : Bool} (quiet : Quiet first) :
    WritesCleanly target temp content before (first ++ log) worked after ↔
      WritesCleanly target temp content before log worked after := by
  constructor
  · intro clean
    exact ⟨fun failed => ⟨(clean.kept failed).1, fun works =>
      (clean.kept failed).2 ((removalsWork_append quiet).mpr works)⟩, clean.replaced⟩
  · intro clean
    exact ⟨fun failed => ⟨(clean.kept failed).1, fun works =>
      (clean.kept failed).2 ((removalsWork_append quiet).mp works)⟩, clean.replaced⟩

theorem keepsBits_append (quiet : Quiet first) :
    KeepsBits habits target before (first ++ log) ↔ KeepsBits habits target before log := by
  simp [KeepsBits, quiet.still]

theorem writesCleanly_of_quiet (fresh : before.entries .remote temp = none) :
    WritesCleanly target temp content before log false before :=
  ⟨fun _ => ⟨rfl, fun _ => fresh⟩, fun differ => (by cases differ)⟩

theorem keepsBits_of_still (still : log.any renamed = false) : KeepsBits habits target before log := fun moved => by
  rw [still] at moved
  cases moved

theorem removal_cases {outcome : Except Failure Unit} (apart : temp ≠ target)
    (comes : Comes habits (.remove .remote temp) before outcome after) :
    after.entries .remote target = before.entries .remote target ∧
      (removalFailed ⟨.remove .remote temp, outcome⟩ = false → after.entries .remote temp = none) := by
  refine ⟨Comes.frame comes fun same => apart same.2.symm, fun worked => ?_⟩
  cases outcome with
  | ok u =>
    rw [Comes.removed comes]
    exact entries_set_self
  | error error => cases worked

theorem writesCleanly_moved {middle : Volumes} {entry : FileEntry} (apart : temp ≠ target)
    (asked : ∀ old, before.entries .remote target = some old → mode = old.perm.getD 0o644)
    (written : middle.entries .remote temp = some entry) (whole : entry.content = content)
    (perm : entry.perm = habits.created (some mode)) (moved : log.any renamed = true) :
    WritesCleanly target temp content before log true (middle.move .remote temp target) ↔
      KeepsBits habits target before log := by
  have new := (@entries_move middle .remote temp target apart).1.trans written
  constructor
  · intro clean _ old found
    obtain ⟨now, here, -, same⟩ := clean.replaced rfl
    obtain rfl := Option.some.inj (new.symm.trans here)
    rw [← asked old found, ← perm]
    exact same old found
  · intro keeps
    refine ⟨fun differ => (by cases differ), fun _ => ⟨entry, new, whole, fun old found => ?_⟩⟩
    rw [perm, asked old found]
    exact keeps moved old found

/-- What the editor writes is clean exactly when no write fails and the permission bits are kept. -/
theorem saveOver_iff {identifier : Uuid} {stat : FileEntry}
    (apart : besideTarget target (".cnshell-".toList ++ identifier.text) ≠ target)
    (fresh : before.entries .remote (besideTarget target (".cnshell-".toList ++ identifier.text)) = none)
    (there : before.entries .remote target = some stat)
    (run : FileRuns habits (saveOver identifier content target stat) before log result after) :
    WritesCleanly target (besideTarget target (".cnshell-".toList ++ identifier.text)) content before log
        result.isOk after ↔
      log.any writeFailed = false ∧ KeepsBits habits target before log := by
  unfold saveOver at run
  generalize besideTarget target (".cnshell-".toList ++ identifier.text) = temp at apart fresh run ⊢
  have asked (old : FileEntry) (found : before.entries .remote target = some old) :
      stat.perm.getD 0o644 = old.perm.getD 0o644 := by
    obtain rfl := Option.some.inj (there.symm.trans found)
    rfl
  rcases run.bind_cases with ⟨error, writing, rfl⟩ | ⟨u, first, middle, last, writing, replacing, rfl⟩
  · -- The temporary file that was made stays where a write failed.
    have same := FileRuns.frame writing (writeTemp_spares apart.symm)
    obtain ⟨still, works⟩ := writeTemp_calm writing
    have left := writeTemp_error fresh writing
    constructor
    · intro clean
      exact ⟨left.mp ((clean.kept rfl).2 works), keepsBits_of_still still⟩
    · intro ⟨fine, _⟩
      exact ⟨fun _ => ⟨same, fun _ => left.mpr fine⟩, fun differ => (by cases differ)⟩
  have same := FileRuns.frame writing (writeTemp_spares apart.symm)
  obtain ⟨still, works⟩ := writeTemp_calm writing
  obtain ⟨fine, entry, written, whole, perm⟩ := writeTemp_ok fresh writing
  obtain ⟨outcome, second, next, others, replaced, clearing, rfl⟩ := replacing.caught_then
  obtain ⟨unwritten, removals, ⟨failed, unmoved, rfl⟩ | ⟨worked, moved, rfl⟩⟩ := atomicReplace_cases replaced
  · -- The temporary file did not take its place, so it is removed.
    cases outcome with
    | ok u => cases failed
    | error error =>
      rw [Program.given_of (by rfl)] at clearing
      obtain ⟨removal, _, cleared, _, removed, returned, rfl⟩ := clearing.ignore_bind
      obtain ⟨rfl, happened⟩ := Program.runs_perform.mp removed
      obtain ⟨rfl, rfl, rfl⟩ := Program.runs_lift.mp returned
      obtain ⟨spared, gone⟩ := removal_cases apart happened
      refine iff_of_true ⟨fun _ => ⟨spared.trans same, fun works => gone (works _ (by simp))⟩,
        fun differ => (by cases differ)⟩ ⟨?_, keepsBits_of_still ?_⟩
      · cases removal <;> simp [fine, unwritten, writeFailed]
      · cases removal <;> simp [still, unmoved, renamed]
  · cases outcome with
    | error error => cases worked
    | ok u =>
      rw [Program.given_of_not (by simp [Except.isOk, Except.toBool])] at clearing
      obtain ⟨rfl, rfl, rfl⟩ := Program.runs_lift.mp clearing
      have unwritten : (first ++ (second ++ [])).any writeFailed = false := by simp [fine, unwritten]
      refine (writesCleanly_moved apart asked written whole perm ?_).trans (and_iff_right unwritten).symm
      simp [moved]

theorem writeAndReplace_cases (apart : temp ≠ target) (fresh : before.entries .remote temp = none)
    (run : FileRuns habits (writeAndReplace content target temp mode) before log result after) :
    (result.isOk = false ∧ log.any renamed = false ∧ after.entries .remote target = before.entries .remote target) ∨
      (result.isOk = true ∧ log.any renamed = true ∧ ∃ (middle : Volumes) (entry : FileEntry),
        middle.entries .remote temp = some entry ∧ entry.content = content ∧ entry.perm = habits.created (some mode) ∧
        after = middle.move .remote temp target) := by
  rcases run.perform_bind with ⟨_, refused, rfl, rfl⟩ | ⟨_, flagged, rest, first, writing, rfl⟩
  · obtain rfl := Comes.still refused trivial
    exact .inl ⟨rfl, rfl, rfl⟩
  obtain rfl := Comes.still first trivial
  rcases writing.bind_cases with ⟨error, stopped, rfl⟩ | ⟨_, part, middle, others, written, looking, rfl⟩
  · exact .inl ⟨rfl, (writeTemp_calm stopped).1, FileRuns.frame stopped (writeTemp_spares apart.symm)⟩
  have same := FileRuns.frame written (writeTemp_spares apart.symm)
  obtain ⟨still, -⟩ := writeTemp_calm written
  obtain ⟨-, entry, there, whole, perm⟩ := writeTemp_ok fresh written
  rcases looking.perform_bind with ⟨_, refused, rfl, rfl⟩ | ⟨_, flagged, last, second, replacing, rfl⟩
  · obtain rfl := Comes.still refused trivial
    exact .inl ⟨rfl, by simp [still, renamed], same⟩
  obtain rfl := Comes.still second trivial
  obtain ⟨-, -, ⟨failed, unmoved, rfl⟩ | ⟨worked, moved, rfl⟩⟩ := atomicReplace_cases replacing
  · exact .inl ⟨failed, by simp [still, unmoved, renamed], same⟩
  · exact .inr ⟨worked, by simp [moved], _, entry, there, whole, perm, rfl⟩

theorem writeOver_iff {sha256 : List UInt8 → String} {identifier : Uuid} {result : Except Failure AtomicTextWrite}
    (apart : besideTarget target (".cnshell-mcp-".toList ++ identifier.text) ≠ target)
    (fresh : before.entries .remote (besideTarget target (".cnshell-mcp-".toList ++ identifier.text)) = none)
    (asked : ∀ old, before.entries .remote target = some old →
      (existing.bind FileEntry.perm).getD 0o644 = old.perm.getD 0o644)
    (run : FileRuns habits (writeOver sha256 identifier content target existing) before log result after) :
    WritesCleanly target (besideTarget target (".cnshell-mcp-".toList ++ identifier.text)) content before log
        result.isOk after ↔ KeepsBits habits target before log := by
  unfold writeOver at run
  generalize besideTarget target (".cnshell-mcp-".toList ++ identifier.text) = temp at apart fresh run ⊢
  obtain ⟨outcome, first, middle, rest, writing, clearing, rfl⟩ := run.caught_then
  rcases writeAndReplace_cases apart fresh writing with ⟨failed, still, same⟩ |
    ⟨worked, moved, before_move, entry, there, whole, perm, rfl⟩
  · cases outcome with
    | ok u => cases failed
    | error error =>
      rw [Program.given_of (by rfl)] at clearing
      obtain ⟨removal, _, cleared, _, removed, returned, rfl⟩ := clearing.ignore_bind
      obtain ⟨rfl, happened⟩ := Program.runs_perform.mp removed
      rcases returned.lift_bind with ⟨_, -, rfl, rfl, rfl⟩ | ⟨_, differ, -⟩
      · obtain ⟨spared, gone⟩ := removal_cases apart happened
        refine iff_of_true ⟨fun _ => ⟨spared.trans same, fun works => gone (works _ (by simp))⟩,
          fun differ => (by cases differ)⟩ (keepsBits_of_still ?_)
        cases removal <;> simp [still, renamed]
      · cases differ
  · cases outcome with
    | error error => cases worked
    | ok u =>
      rw [Program.given_of_not (by simp [Except.isOk, Except.toBool])] at clearing
      obtain ⟨rfl, rfl, rfl⟩ := Program.runs_pure.mp clearing
      exact writesCleanly_moved apart asked there whole perm (by simp [moved])

/--
A write of a text cleans up after itself exactly when none of its writes fails, where it is the editor's, and the
permission bits are kept, where it replaces a file.

The name of the temporary file is a new one, and the server does not deny a file that is there.
-/
theorem textWrite_clean_iff {write : TextWrite} {sha256 : List UInt8 → String} {identifier : Uuid} {path : Path}
    {result : Except Failure Unit} (named : remotePath rawPath path = .ok target)
    (fresh : before.entries .remote (write.temp identifier target) = none)
    (honest : before.entries .remote target ≠ none → log.any (denies target) = false)
    (run : FileRuns habits (write.program sha256 identifier path content) before log result after) :
    WritesCleanly target (write.temp identifier target) content before log result.isOk after ↔
      write.Tidy log ∧ KeepsBits habits target before log := by
  have apart := write.temp_ne identifier target
  cases write with
  | save expectedModifiedAt =>
    rcases run.bind_cases with ⟨error, looking, rfl⟩ | ⟨⟨found, stat⟩, first, middle, rest, looking, saving, rfl⟩
    · obtain ⟨rfl, quiet⟩ := looked looking (statTarget_looks path expectedModifiedAt)
      exact iff_of_true (writesCleanly_of_quiet fresh) ⟨quiet.written, keepsBits_of_still quiet.still⟩
    · obtain ⟨rfl, quiet⟩ := looked looking (statTarget_looks path expectedModifiedAt)
      obtain ⟨same, there⟩ := statTarget_ok looking
      obtain rfl := Except.ok.inj (named.symm.trans same)
      rw [writesCleanly_append quiet, keepsBits_append quiet]
      refine (saveOver_iff apart fresh there saving).trans (and_congr_left fun _ => ?_)
      simp [TextWrite.Tidy, quiet.written]
  | atomic root expectedSha256 pieces =>
    rw [TextWrite.Tidy, true_and]
    obtain ⟨outcome, same, run⟩ : ∃ outcome : Except Failure AtomicTextWrite, outcome.isOk = result.isOk ∧
        FileRuns habits (writeTextAtomic sha256 pieces identifier path root content expectedSha256) before log
          outcome after := by
      rcases run.bind_cases with ⟨error, inner, rfl⟩ | ⟨value, first, middle, rest, inner, returned, rfl⟩
      · exact ⟨.error error, rfl, inner⟩
      · obtain ⟨rfl, rfl, rfl⟩ := Program.runs_pure.mp returned
        exact ⟨.ok value, rfl, by rwa [List.append_nil]⟩
    rw [← same]
    have looks := @checkTarget_looks content sha256 pieces path root expectedSha256
    rcases run.bind_cases with ⟨error, looking, rfl⟩ | ⟨⟨found, existing⟩, first, middle, rest, looking, writing, rfl⟩
    · obtain ⟨rfl, quiet⟩ := looked looking looks
      exact iff_of_true (writesCleanly_of_quiet fresh) (keepsBits_of_still quiet.still)
    · obtain ⟨rfl, quiet⟩ := looked looking looks
      obtain ⟨same, there, missing⟩ := checkTarget_ok looking
      obtain rfl := Except.ok.inj (named.symm.trans same)
      rw [writesCleanly_append quiet, keepsBits_append quiet]
      refine writeOver_iff apart fresh (fun old here => ?_) writing
      cases existing with
      | none =>
        -- The server would have denied the file that is there.
        have denied := honest (by simp [here])
        rw [List.any_append, missing rfl] at denied
        cases denied
      | some stat =>
        obtain rfl := Option.some.inj ((there stat rfl).symm.trans here)
        rfl

end Laws

namespace Demo

theorem saving_whole : '/' ∉ ['1'] := by decide

def saving : Uuid := ⟨['1'], saving_whole⟩

/-- A server that takes the write permission of the group away from a new file. -/
def masked : Habits := ⟨fun mode => mode.map fun bits => 0o100000 + bits % 0o10000 &&& 0o107755, none, false⟩

/-- A text with some permission bits. -/
def text (perm : Nat) : Volumes :=
  ⟨fun side path => if side = .remote ∧ path = "/a".toList then some ⟨0, .file, [1], some perm, none⟩ else none, 1⟩

/-- The run in which the editor saves two bytes and some calls are refused. -/
def saved (perm : Nat) (faults : List (Option Failure)) :
    List (Event FileCall Failure) × Except Failure Unit × Volumes :=
  Program.script (fileCalls masked) faults
    ((TextWrite.save none).program (fun _ => "") saving "/a".toList [2, 3]) (text perm)

theorem saved_runs (perm : Nat) (faults : List (Option Failure)) :
    FileRuns masked ((TextWrite.save none).program (fun _ => "") saving "/a".toList [2, 3]) (text perm)
      (saved perm faults).1 (saved perm faults).2.1 (saved perm faults).2.2 :=
  Program.runs_script _ _ faults _ _

theorem text_fresh (perm : Nat) :
    (text perm).entries .remote ((TextWrite.save none).temp saving "/a".toList) = none := rfl

/-- The server loses the connection while it syncs the temporary file. -/
def syncFault : List (Option Failure) := [none, none, none, none, some (.sftp 7)]

/-- The temporary file stays beside the target. -/
theorem temporary_file_left : ¬∀ (habits : Habits) (write : TextWrite) (sha256 : List UInt8 → String)
    (identifier : Uuid) (path target : Path) (content : List UInt8) (before after : Volumes)
    (log : List (Event FileCall Failure)) (result : Except Failure Unit), remotePath rawPath path = .ok target →
      before.entries .remote (write.temp identifier target) = none →
      (before.entries .remote target ≠ none → log.any (denies target) = false) →
      FileRuns habits (write.program sha256 identifier path content) before log result after →
      WritesCleanly target (write.temp identifier target) content before log result.isOk after := by
  intro always
  have honest : (saved 0o100644 syncFault).1.any (denies "/a".toList) = false := by decide
  have clean := always masked (.save none) (fun _ => "") saving "/a".toList "/a".toList [2, 3] (text 0o100644) _ _ _
    (by decide) (text_fresh _) (fun _ => honest) (saved_runs 0o100644 syncFault)
  have gone := (clean.kept (by decide)).2 (by decide)
  exact absurd gone (by decide)

/-- Where the server takes no permission bit away, the new text takes the place of the old one. -/
theorem text_replaced : ∃ entry, (saved 0o100644 []).2.2.entries .remote "/a".toList = some entry ∧
    entry.content = [2, 3] := by
  have keeps : KeepsBits masked "/a".toList (text 0o100644) (saved 0o100644 []).1 := fun _ old found => by
    have there : (text 0o100644).entries .remote "/a".toList = some ⟨0, .file, [1], some 0o100644, none⟩ := by decide
    obtain rfl := Option.some.inj (there.symm.trans found)
    decide
  have honest : (saved 0o100644 []).1.any (denies "/a".toList) = false := by decide
  have written : (saved 0o100644 []).1.any writeFailed = false := by decide
  have clean := (textWrite_clean_iff (by decide) (text_fresh _) (fun _ => honest) (saved_runs 0o100644 [])).mpr
    ⟨written, keeps⟩
  obtain ⟨entry, there, content, -⟩ := clean.replaced (by decide)
  exact ⟨entry, there, content⟩

end Demo

end Sftp

end CNShell
