import CNShell.Sftp.SingleFiles

/-! The download of a single file: its part file takes the place of the destination whole or not at all. -/

namespace CNShell

namespace Sftp

open Client (AppError AppResult)
open Program (perform lift caught ignore given)

/-- The loop that copies what the remote reader gives into the part file, piece by piece, until nothing comes. -/
def receive (remote part : Path) : List (List UInt8) → Int → FileTask Int
  | [], transferred => do
    perform (.pulse transferred)
    perform (.read .remote remote)
    return transferred
  | piece :: pieces, transferred => do
    perform (.pulse transferred)
    perform (.read .remote remote)
    if piece = [] then return transferred
    else do
      perform (.write .own part piece)
      perform (.pulse (transferred + piece.length))
      receive remote part pieces (transferred + piece.length)

/-- What is received of the pieces a reader gives: those before the first empty one. -/
def received : List (List UInt8) → List UInt8
  | [] => []
  | piece :: pieces => if piece = [] then [] else piece ++ received pieces

section Download

variable (remote part destination : Path) (expectedBytes : Int) (pieces : List (List UInt8))

def fillPart : FileTask Int := do
  perform (.create .own part none)
  let transferred ← receive remote part pieces 0
  perform (.fsync .own part)
  return transferred

def taskPart (destination : Path) (id : String) : Path := destination ++ ".cnshell-part-".toList ++ id.toList

theorem taskPart_ne (destination : Path) (id : String) : taskPart destination id ≠ destination := by
  intro same
  have := congrArg List.length same
  simp [taskPart] at this

def checkSize (transferred : Int) : Except Failure Unit :=
  ensure (transferred = expectedBytes)
    (.app (.remote ("下载大小校验失败：预期 " ++ toString expectedBytes ++ " 字节，实际 " ++ toString transferred ++ " 字节")))

def downloadToPath : FileTask Int := do
  let result ← caught do
    let transferred ← fillPart remote part pieces
    lift (checkSize expectedBytes transferred)
    perform (.rename .own part destination)
    return transferred
  given (result.isOk = false) (ignore (perform (.remove .own part)))
  lift result

end Download

section Laws

variable {habits : Habits} {remote part destination : Path} {expectedBytes : Int} {pieces : List (List UInt8)}
  {before after : Volumes} {log : List (Event FileCall Failure)}

theorem receive_spares {path : Path} (apart : path ≠ part) (pieces : List (List UInt8)) (transferred : Int) :
    (receive remote part pieces transferred).Only fun _ call => ¬call.Touches .own path := by
  induction pieces generalizing transferred with
  | nil => exact .perform_bind id fun _ => .perform_bind id fun _ => .pure _
  | cons piece pieces ih =>
    refine .perform_bind id fun _ => .perform_bind id fun _ => ?_
    split
    · exact .pure _
    · exact .perform_bind (fun same => apart same.2) fun _ => .perform_bind id fun _ => ih _

theorem receive_ok {entry : FileEntry} {transferred n : Int} (there : before.entries .own part = some entry)
    (run : FileRuns habits (receive remote part pieces transferred) before log (.ok n) after) :
    n = transferred + (received pieces).length ∧
      after.entries .own part = some { entry with content := entry.content ++ received pieces } ∧
      (received pieces ≠ [] → entry.content.length + (received pieces).length ≤ maxFileBytes) := by
  induction pieces generalizing entry transferred before log with
  | nil =>
    obtain ⟨_, _, -, run, -⟩ := FileRuns.of_idle run trivial
    obtain ⟨_, _, -, run, -⟩ := FileRuns.of_idle run trivial
    obtain ⟨-, same, rfl⟩ := Program.runs_pure.mp run
    cases same
    exact ⟨by simp [received], by simpa [received] using there, fun some => absurd rfl some⟩
  | cons piece pieces ih =>
    obtain ⟨_, _, -, run, -⟩ := FileRuns.of_idle run trivial
    obtain ⟨_, _, -, run, -⟩ := FileRuns.of_idle run trivial
    split at run
    · next ended =>
      obtain ⟨-, same, rfl⟩ := Program.runs_pure.mp run
      cases same
      simpa [received, ended] using there
    · next more =>
      rcases run.perform_bind with ⟨_, -, -, differ⟩ | ⟨_, middle, _, wrote, run, -⟩
      · cases differ
      · obtain ⟨old, found, fits, rfl⟩ := Comes.wrote wrote
        obtain rfl := Option.some.inj (found.symm.trans there)
        obtain ⟨_, _, -, run, -⟩ := FileRuns.of_idle run trivial
        -- The rest of the pieces comes behind this one.
        obtain ⟨count, content, small⟩ := ih entries_set_self run
        simp only [received, if_neg more, List.length_append, List.append_assoc] at count content small ⊢
        refine ⟨by rw [count]; push_cast; omega, content, fun _ => ?_⟩
        by_cases last : received pieces = []
        · simpa [last] using fits
        · have := small last
          omega

theorem fillPart_spares {path : Path} (apart : path ≠ part) :
    (fillPart remote part pieces).Only fun _ call => ¬call.Touches .own path :=
  .perform_bind (fun same => apart same.2) fun _ => (receive_spares apart pieces 0).bind fun _ =>
    .perform_bind id fun _ => .pure _

theorem fillPart_ok {n : Int} (run : FileRuns habits (fillPart remote part pieces) before log (.ok n) after) :
    n = (received pieces).length ∧ (received pieces).length ≤ maxFileBytes ∧
      ∃ entry, after.entries .own part = some entry ∧ entry.content = received pieces := by
  rcases run.perform_bind with ⟨_, -, -, differ⟩ | ⟨_, middle, _, created, rest, -⟩
  · cases differ
  · obtain ⟨entry, there, empty, -, -⟩ := Comes.created created
    obtain ⟨transferred, _, last, _, copied, rest, -⟩ := rest.bind_ok
    obtain ⟨_, _, -, rest, -⟩ := FileRuns.of_idle rest trivial
    obtain ⟨-, same, rfl⟩ := Program.runs_pure.mp rest
    cases same
    obtain ⟨count, content, small⟩ := receive_ok there copied
    rw [empty] at content small
    refine ⟨by rw [count]; omega, ?_, _, content, rfl⟩
    by_cases nothing : received pieces = []
    · simp [nothing]
    · simpa using small nothing

/--
A download gives the destination all that was read and expected, or leaves it alone and nothing beside it.

Any call may fail, and a write may leave a part of its bytes; the part file is gone if its removal works.
-/
theorem download_all_or_nothing {result : Except Failure Int} (apart : part ≠ destination)
    (run : FileRuns habits (downloadToPath remote part destination expectedBytes pieces) before log result after) :
    (∃ error, result = .error error ∧ after.entries .own destination = before.entries .own destination ∧
        (RemovalsWork log → after.entries .own part = none)) ∨
      ∃ n entry, result = .ok n ∧ n = expectedBytes ∧ n = (received pieces).length ∧ n ≤ maxFileBytes ∧
        after.entries .own destination = some entry ∧ entry.content = received pieces ∧
        after.entries .own part = none := by
  obtain ⟨inner, first, middle, last, body, rest, rfl⟩ := run.caught_then
  cases inner with
  | error error =>
    -- Before the rename only the part file was touched, and a rename that failed changed nothing.
    have untouched : middle.entries .own destination = before.entries .own destination := by
      rcases body.bind_cases with ⟨_, filling, -⟩ | ⟨n, _, filled, _, filling, later, -⟩
      · exact FileRuns.frame filling (fillPart_spares apart.symm)
      · have same := FileRuns.frame filling (fillPart_spares apart.symm)
        rcases later.lift_bind with ⟨_, -, -, -, rfl⟩ | ⟨_, -, moving⟩
        · exact same
        · rcases moving.perform_bind with ⟨_, failed, -, -⟩ | ⟨_, _, _, -, returned, -⟩
          · rw [Comes.failed failed id]
            exact same
          · obtain ⟨-, differ, -⟩ := Program.runs_pure.mp returned
            cases differ
    rw [Program.given_of (by rfl)] at rest
    obtain ⟨removal, _, cleared, _, removed, returned, rfl⟩ := rest.ignore_bind
    obtain ⟨rfl, happened⟩ := Program.runs_perform.mp removed
    obtain ⟨-, rfl, rfl⟩ := Program.runs_lift.mp returned
    have spared : ¬(FileCall.remove .own part).Touches .own destination := fun same => apart same.2.symm
    refine .inl ⟨error, rfl, (Comes.frame happened spared).trans untouched, fun works => ?_⟩
    cases removal with
    | error fault =>
      have impossible := works ⟨.remove .own part, .error fault⟩ (by simp)
      cases impossible
    | ok u =>
      rw [Comes.removed happened]
      exact entries_set_self
  | ok n =>
    obtain ⟨transferred, _, filled, _, filling, later, -⟩ := body.bind_ok
    obtain ⟨count, small, entry, there, content⟩ := fillPart_ok filling
    rcases later.lift_bind with ⟨_, -, -, differ, -⟩ | ⟨_, size, moving⟩
    · cases differ
    rcases moving.perform_bind with ⟨_, -, -, differ⟩ | ⟨_, moved, _, renamed, returned, -⟩
    · cases differ
    obtain ⟨-, same, rfl⟩ := Program.runs_pure.mp returned
    cases same
    rw [Program.given_of_not (by simp [Except.isOk, Except.toBool])] at rest
    obtain ⟨-, rfl, rfl⟩ := Program.runs_lift.mp rest
    obtain rfl := Comes.renamed renamed
    obtain ⟨new, gone⟩ := @entries_move filled .own part destination apart
    have expected : n = expectedBytes := by
      simpa [checkSize] using size
    exact .inr ⟨n, entry, rfl, expected, count, by omega, new.trans there, content, gone⟩

end Laws

namespace Demo

/-- A file was downloaded before. -/
def downloads : Volumes :=
  ⟨fun side path => if side = .own ∧ path = "a.bin".toList then some ⟨1, .file, [1], none, none⟩ else none, 2⟩

/-- The run of a download of three bytes in which some calls are refused. -/
def downloaded (faults : List (Option Failure)) : List (Event FileCall Failure) × Except Failure Int × Volumes :=
  Program.script (fileCalls ⟨id, none, false⟩) faults
    (downloadToPath "/a.bin".toList (taskPart "a.bin".toList "7") "a.bin".toList 3 [[1, 2], [3]]) downloads

theorem downloaded_runs (faults : List (Option Failure)) :
    FileRuns ⟨id, none, false⟩
      (downloadToPath "/a.bin".toList (taskPart "a.bin".toList "7") "a.bin".toList 3 [[1, 2], [3]]) downloads
      (downloaded faults).1 (downloaded faults).2.1 (downloaded faults).2.2 :=
  Program.runs_script _ _ faults _ _

def unsynced : List (Option Failure) := List.replicate 11 none ++ [some (.io "no space")]

/-- The whole file takes the place of the old one; where the sync fails, the old one stays. -/
theorem download_whole_or_untouched :
    (∃ entry, (downloaded []).2.2.entries .own "a.bin".toList = some entry ∧ entry.content = [1, 2, 3]) ∧
      (downloaded unsynced).2.2.entries .own "a.bin".toList = downloads.entries .own "a.bin".toList ∧
      (downloaded unsynced).2.2.entries .own (taskPart "a.bin".toList "7") = none := by
  have whole : (downloaded []).2.1 = .ok 3 := by decide
  have failed : (downloaded unsynced).2.1 = .error (.io "no space") := by decide
  constructor
  · rcases download_all_or_nothing (taskPart_ne _ _) (downloaded_runs []) with
      ⟨_, differ, -⟩ | ⟨_, entry, -, -, -, -, there, content, -⟩
    · exact absurd (whole.symm.trans differ) (by simp)
    · exact ⟨entry, there, content⟩
  · rcases download_all_or_nothing (taskPart_ne _ _) (downloaded_runs unsynced) with
      ⟨_, -, same, cleared⟩ | ⟨_, _, differ, -⟩
    · exact ⟨same, cleared (by decide)⟩
    · exact absurd (failed.symm.trans differ) (by simp)

end Demo

end Sftp

end CNShell
