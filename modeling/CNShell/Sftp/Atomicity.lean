import CNShell.Sftp.Leftovers

/-! Whether the transfer of a directory that replaces its target is all or nothing, from its first call to its last. -/

namespace CNShell

namespace Sftp

open Client (AppError AppResult)
open Program (perform lift caught ignore given)

/-- The name by which a transfer tells its target from what it makes beside it. -/
def entryName : Side → Path → List Char
  | .own, path => (components path).getLast?.getD []
  | .remote, path => fileName (path.rdropWhile fun char => char = '/')

/-- A path that ends with the name of an entry, and not by staying where it is or by leading back up. -/
def Named (side : Side) (path : Path) : Prop := Plain (entryName side path)

instance (side : Side) (path : Path) : Decidable (Named side path) := inferInstanceAs (Decidable (Plain _))

/-- Nothing has one of the names that a transfer with this identifier gives. -/
def Unused (identifier : Uuid) (files : Files) : Prop :=
  ∀ names, files.find names ≠ none →
    archiveName identifier ∉ names ∧ stagingName identifier ∉ names ∧ backupName identifier ∉ names

/-- What `tar` packs of a directory is what it unpacks again. -/
def Tools.Keeps (tools : Tools) (files : Files) : Prop :=
  ∃ entries, tools.unpack (tools.pack files) = some entries ∧ ∀ names ≠ [], Disk.find entries names = files.find names

/-- What was set aside of a destination is settled; where it holds what is made, that is removed. -/
def CleanedUp (side : Side) (destination : Path) (source : Tree) (before : World) (log : Log) : Prop :=
  if Named side destination then Balanced side destination source before log else LeavesNothing side log

/-- Whether a transfer is all or nothing shows in what it did. -/
def Shown (side : Side) (destination : Path) (source : Tree) (before : World) (log : Log)
    (result : AppResult Path) (after : World) : Prop :=
  AllOrNothing side destination source before after result ↔ CleanedUp side destination source before log

/-- What changes nothing on a side. -/
def Idle (side : Side) (log : Log) : Prop := ∀ event ∈ log, event.action.writes side = []

section Idle

variable {tools : Tools} {side : Side} {destination : Path} {source : Tree} {before middle after : World}
  {log more : Log} {α : Type} {program : Task α} {found : AppResult α} {result : AppResult Path}

theorem Idle.find (idle : Idle side log) (run : program.Runs (calls tools) Call.damage before log found after)
    (names : List (List Char)) : (after.files side).find names = (before.files side).find names :=
  run.keeps (fun world => (world.files side).find names = (before.files side).find names)
    (fun _ _ _ none same happens => (find_of_happens happens (by simp [none])).trans same) idle rfl

theorem Idle.tree (idle : Idle side log) (run : program.Runs (calls tools) Call.damage before log found after)
    (place : List (List Char)) : (after.files side).tree place = (before.files side).tree place :=
  Disk.tree_congr fun names _ => idle.find run names

theorem Idle.not_done (idle : Idle side log) {call : Call Unit} (writes : call.writes side ≠ []) : ¬Done log call :=
  fun done => writes (idle _ done)

theorem idle_of_reads (reads : ∀ event ∈ log, event.action.Reads) : Idle side log :=
  fun event member => writes_of_reads (reads event member)

theorem cleanedUp_congr (same : ∀ call : Call Unit, call.writes side ≠ [] → (Done log call ↔ Done more call)) :
    CleanedUp side destination source before log ↔ CleanedUp side destination source before more := by
  have removed : ∀ path, Removed side path log ↔ Removed side path more := fun path =>
    or_congr (same _ (by simp [Call.writes])) (same _ (by simp [Call.writes]))
  have renamed : ∀ path target, Done log (.rename side path target) ↔ Done more (.rename side path target) :=
    fun path target => same _ (by simp [Call.writes])
  rw [CleanedUp, CleanedUp]
  split
  · refine or_congr (forall_congr' fun backup => ?_) (and_congr_right fun _ => exists_congr fun path => renamed _ _)
    exact imp_congr (renamed _ _) (or_congr (removed _) (and_congr (renamed _ _)
      (forall_congr' fun path => imp_congr_right fun _ => not_congr (removed _))))
  · refine forall_congr' fun path => imp_congr (or_congr (same _ (by simp [Call.writes])) ?_) ?_
    · exact and_congr_right fun here => same _ (by simp [Call.writes, here])
    · exact exists_congr fun gone => and_congr_right fun _ => removed _

theorem shown_of_idle (run : program.Runs (calls tools) Call.damage before log found after) (idle : Idle side log)
    (failed : ∃ error, result = .error error) : Shown side destination source before log result after := by
  obtain ⟨error, rfl⟩ := failed
  refine iff_of_true (idle.tree run _) ?_
  rw [CleanedUp]
  split
  · exact .inl fun backup done => absurd done (idle.not_done (by simp [Call.writes]))
  · rintro path (done | ⟨rfl, done⟩)
    · exact absurd done (idle.not_done (by simp [Call.writes]))
    · exact absurd done (idle.not_done (by simp [Call.writes]))

theorem Shown.prepend (shown : Shown side destination source middle log result after)
    (run : program.Runs (calls tools) Call.damage before more found middle) (idle : Idle side more) :
    Shown side destination source before (more ++ log) result after := by
  have same := idle.tree run (place destination)
  have logged : CleanedUp side destination source before (more ++ log) ↔
      CleanedUp side destination source before log :=
    cleanedUp_congr fun call writes => by rw [done_append, or_iff_right (idle.not_done writes)]
  rw [Shown, logged]
  unfold Shown AllOrNothing CleanedUp Balanced at *
  rwa [same] at shown

theorem Shown.append (shown : Shown side destination source before log result middle)
    (run : program.Runs (calls tools) Call.damage middle more found after) (idle : Idle side more) :
    Shown side destination source before (log ++ more) result after := by
  have same := idle.tree run (place destination)
  have logged : CleanedUp side destination source before (log ++ more) ↔
      CleanedUp side destination source before log :=
    cleanedUp_congr fun call writes => by rw [done_append, or_iff_left (idle.not_done writes)]
  rw [Shown, logged]
  unfold Shown AllOrNothing at *
  rwa [same]

end Idle

section Places

variable {side : Side} {identifier : Uuid} {before : World} {destination archive staging backup : Path}
  {directory : List (List Char)} {file : List Char}

theorem Unused.free {files : Files} (unused : Unused identifier files) {name : List Char}
    (own : name = archiveName identifier ∨ name = stagingName identifier ∨ name = backupName identifier)
    (below : List (List Char)) : files.find (directory ++ [name] ++ below) = none := by
  by_contra there
  obtain ⟨archived, staged, aside⟩ := unused _ there
  rcases own with rfl | rfl | rfl
  · exact archived (by simp)
  · exact staged (by simp)
  · exact aside (by simp)

theorem beside_of_entry (unused : Unused identifier (before.files side))
    (there : (before.files side).find (place destination) ≠ none) (entry : place destination = directory ++ [file])
    (archived : place archive = directory ++ [archiveName identifier])
    (staged : place staging = directory ++ [stagingName identifier])
    (aside : place backup = directory ++ [backupName identifier]) :
    UploadBeside destination archive staging backup := by
  obtain ⟨first, second, third⟩ := unused _ there
  simp only [entry, List.mem_append, List.mem_singleton, not_or] at first second third
  obtain ⟨one, two, three⟩ := @names_differ identifier
  constructor
  · constructor
    · exact entry ▸ staged ▸ Disk.apart_of_ne (Ne.symm second.2)
    · exact entry ▸ aside ▸ Disk.apart_of_ne (Ne.symm third.2)
    · exact staged ▸ aside ▸ Disk.apart_of_ne three
  · exact entry ▸ archived ▸ Disk.apart_of_ne first.2
  · exact archived ▸ aside ▸ Disk.apart_of_ne two
  · exact archived ▸ staged ▸ Disk.apart_of_ne one

theorem within_of_leads (unused : Unused identifier (before.files side)) (leads : place destination <+: directory)
    (archived : place archive = directory ++ [archiveName identifier])
    (staged : place staging = directory ++ [stagingName identifier])
    (aside : place backup = directory ++ [backupName identifier]) :
    Within side before destination archive staging backup := by
  obtain ⟨one, two, three⟩ := @names_differ identifier
  constructor
  · exact archived ▸ leads.trans (List.prefix_append _ _)
  · exact staged ▸ leads.trans (List.prefix_append _ _)
  · exact aside ▸ leads.trans (List.prefix_append _ _)
  · intro same
    have short := leads.length_le
    rw [same, staged] at short
    simp at short
  · exact archived ▸ staged ▸ Disk.apart_of_ne one
  · exact archived ▸ aside ▸ Disk.apart_of_ne two
  · exact staged ▸ aside ▸ Disk.apart_of_ne three
  · exact archived ▸ unused.free (.inl rfl)
  · exact staged ▸ unused.free (.inr (.inl rfl))
  · have empty := @Unused.free identifier directory _ unused _ (.inr (.inr rfl)) []
    rwa [List.append_nil, ← aside] at empty

theorem place_of_entry {path above : Path} (names : components path = components above ++ components file)
    (plain : Plain file) : place path = place above ++ [file] :=
  (place_congr (names.trans (components_slash above file).symm)).trans (place_slash plain)

theorem place_of_not_entry {path above : Path} (whole : '/' ∉ file)
    (names : components path = components above ++ components file) (other : ¬Plain file) :
    place path <+: place above :=
  (place_split whole names).resolve_left fun entry => other entry.1

end Places

section Sides

variable {tools : Tools} {raw : Path → AppResult Path} {depth attempts : Nat} {identifier : Uuid}
  {destination : Path} {before after : World} {log : Log} {result : AppResult Path} {content : List UInt8}
  {files : Files} {overwriteExisting : Bool}

theorem uploadTo_shown (text : ¬rawPathPrefix <+: destination)
    (run : (uploadTo raw depth identifier destination overwriteExisting).Runs (calls tools) Call.damage
      before log result after)
    (held : before.archive = some content) (unpacked : tools.unpack content = some files)
    (there : before.remote.find (place destination) ≠ none) (unused : Unused identifier before.remote) :
    Shown .remote destination (Disk.tree (([], .directory) :: files) []) before log result after := by
  have idle : ∀ error, log = [] ∧ result = .error error ∧ after = before →
      Shown .remote destination (Disk.tree (([], .directory) :: files) []) before log result after := by
    rintro error ⟨rfl, rfl, rfl⟩
    exact shown_of_idle run (by simp [Idle]) ⟨error, rfl⟩
  rcases run.lift_bind with ⟨error, -, empty, failed, same⟩ | ⟨directory, parentOk, next⟩
  · exact idle error ⟨empty, failed, same⟩
  rcases next.lift_bind with ⟨error, -, empty, failed, same⟩ | ⟨archive, archiveOk, next⟩
  · exact idle error ⟨empty, failed, same⟩
  rcases next.lift_bind with ⟨error, -, empty, failed, same⟩ | ⟨staging, stagingOk, next⟩
  · exact idle error ⟨empty, failed, same⟩
  rcases next.lift_bind with ⟨error, -, empty, failed, same⟩ | ⟨backup, backupOk, -⟩
  · exact idle error ⟨empty, failed, same⟩
  obtain ⟨head, names⟩ := components_of_remoteParentPath text parentOk
  have archived := components_of_remoteChildPath head plain_archiveName archiveOk
  have staged := components_of_remoteChildPath head plain_stagingName stagingOk
  have aside := components_of_remoteChildPath head plain_backupName backupOk
  rw [Shown, CleanedUp]
  split
  · next named =>
    have beside := @beside_of_entry .remote _ _ _ _ _ _ _ _ unused there (place_of_entry names named) archived staged aside
    have free := @Unused.free identifier (place directory) _ unused _ (.inr (.inr rfl)) []
    rw [List.append_nil, ← aside] at free
    exact uploadTo_iff beside run parentOk archiveOk stagingOk backupOk held unpacked there free
  · next other =>
    have leads := place_of_not_entry (slash_not_mem_fileName _) names other
    exact uploadTo_nested (within_of_leads unused leads archived staged aside) run parentOk archiveOk stagingOk
      backupOk held unpacked there _

theorem downloadTo_shown
    (run : (downloadTo depth identifier destination overwriteExisting).Runs (calls tools) Call.damage
      before log result after)
    (held : before.archive = some content) (unpacked : tools.unpack content = some files)
    (there : before.own.find (place destination) ≠ none) (unused : Unused identifier before.own) :
    Shown .own destination (Disk.tree (([], .directory) :: files) []) before log result after := by
  cases found : parent destination with
  | none =>
    rw [downloadTo, found] at run
    rcases run.lift_bind with ⟨error, -, rfl, rfl, rfl⟩ | ⟨_, differ, -⟩
    · exact shown_of_idle run (by simp [Idle]) ⟨error, rfl⟩
    · cases differ
  | some directory =>
    obtain ⟨file, last, whole, names⟩ := components_of_parent found
    have absolute : directory.head? = some '/' := by
      rw [parent] at found
      split at found
      · cases found
      · obtain rfl := Option.some.inj found
        rfl
    have archived := place_join absolute (@plain_archiveName identifier)
    have staged := place_join absolute (@plain_stagingName identifier)
    have aside := place_join absolute (@plain_backupName identifier)
    have entry : entryName .own destination = file := by simp [entryName, last]
    have plain : Named .own destination ↔ Plain file := by rw [← entry]; exact Iff.rfl
    rw [Shown, CleanedUp]
    split
    · next named =>
      have beside := @beside_of_entry .own _ _ _ _ _ _ _ _ unused there (place_of_entry names (plain.mp named))
        archived staged aside
      have free := @Unused.free identifier (place directory) _ unused _ (.inr (.inr rfl)) []
      rw [List.append_nil, ← aside] at free
      exact downloadTo_iff run found beside.toBeside held unpacked there free
    · next other =>
      have leads := place_of_not_entry whole names (mt plain.mpr other)
      exact downloadTo_nested (within_of_leads unused leads archived staged aside) run found there _

end Sides

section Transfer

variable {tools : Tools} {raw : Path → AppResult Path} {depth attempts : Nat} {identifier : Uuid}
  {source destination archive : Path} {remoteRoot : Option Path} {before after : World} {log : Log}
  {result : AppResult Path}

def targetSide (direction : String) : Side := if direction = "upload" then .remote else .own

def sourceSide (direction : String) : Side := if direction = "upload" then .own else .remote

theorem resolveConflict_overwrite {side : Side} {renamed : Path → Nat → Path} {target : Option (Path × Bool)}
    (run : (resolveConflict side renamed attempts "overwrite" destination).Runs (calls tools) Call.damage
      before log (.ok target) after) : ∃ overwriteExisting, target = some (destination, overwriteExisting) := by
  obtain ⟨taken, _, _, _, -, chosen, -⟩ := run.bind_ok
  split at chosen
  · rw [if_neg (by decide), if_neg (by decide)] at chosen
    obtain ⟨-, same, -⟩ := Program.runs_pure.mp chosen
    exact ⟨true, Except.ok.inj same⟩
  · obtain ⟨-, same, -⟩ := Program.runs_pure.mp chosen
    exact ⟨false, Except.ok.inj same⟩

theorem tree_of_keeps {files entries : Files} {here : List (List Char)} (root : files.find here = some .directory)
    (same : ∀ names ≠ [], Disk.find entries names = (files.branch here).find names) :
    Disk.tree (([], .directory) :: entries) [] = files.tree here := by
  funext below
  by_cases empty : below = []
  · subst empty
    rw [Disk.tree_nil, Disk.tree_nil, Disk.find_cons, if_pos rfl, root]
  · rw [Disk.tree, List.nil_append, Disk.find_cons, if_neg (Ne.symm empty), same _ empty, Disk.find_branch, Disk.tree]

theorem shown_after {side : Side} {target : Tree} {β : Type} {look : Task β} {following : β → Task Path}
    (quiet : look.Only fun _ action => action.writes side = [])
    (run : (look >>= following).Runs (calls tools) Call.damage before log result after)
    (rest : ∀ {value looks middle log result after},
      look.Runs (calls tools) Call.damage before looks (.ok value) middle → Idle side looks →
        (following value).Runs (calls tools) Call.damage middle log result after →
          Shown side destination target middle log result after) :
    Shown side destination target before log result after := by
  rcases Program.runs_bind.mp run with ⟨error, one, rfl⟩ | ⟨value, looks, middle, more, one, next, rfl⟩
  · exact shown_of_idle run (one.permits quiet) ⟨error, rfl⟩
  · exact (rest one (one.permits quiet) next).prepend one (one.permits quiet)

theorem shown_of_reads {side : Side} {target : Tree} {β : Type} {look : Task β} {following : β → Task Path}
    (reads : look.Only fun _ action => action.Reads)
    (run : (look >>= following).Runs (calls tools) Call.damage before log result after)
    (rest : ∀ {value : β} {log result after}, (∃ looks, look.Runs (calls tools) Call.damage before looks (.ok value) before) →
      (following value).Runs (calls tools) Call.damage before log result after →
        Shown side destination target before log result after) :
    Shown side destination target before log result after := by
  rcases Program.runs_bind.mp run with ⟨error, one, rfl⟩ | ⟨value, looks, middle, more, one, next, rfl⟩
  · exact shown_of_idle run (idle_of_reads (one.permits reads)) ⟨error, rfl⟩
  · have quiet := one.permits reads
    obtain rfl := same_of_runs one quiet
    exact (rest ⟨looks, one⟩ next).prepend one (idle_of_reads quiet)

theorem uploadDirectory_shown (text : ¬rawPathPrefix <+: destination)
    (keeps : tools.Keeps (before.own.branch (place source)))
    (run : (uploadDirectory raw depth attempts identifier source destination "overwrite" remoteRoot).Runs
      (calls tools) Call.damage before log result after)
    (there : before.remote.find (place destination) ≠ none) (unused : Unused identifier before.remote) :
    Shown .remote destination (before.own.tree (place source)) before log result after := by
  refine shown_of_reads (validateRoot_reads ..) run fun _ packing => ?_
  have quiet : ∀ outcome : AppResult Unit, Idle .remote [⟨.packOwn source, outcome⟩] := by simp [Idle, Call.writes]
  rcases packing.perform_bind with ⟨error, happens, rfl, rfl⟩ | ⟨_, packed, rest, happens, checking, rfl⟩
  · exact shown_of_idle (Program.runs_perform.mpr ⟨rfl, happens⟩) (quiet _) ⟨error, rfl⟩
  have pack := Program.runs_perform.mpr ⟨rfl, happens⟩
  obtain ⟨root, rfl⟩ := run_packOwn.mp pack.perform_ok
  refine Shown.prepend ?_ pack (quiet (.ok ()))
  obtain ⟨entries, unpacked, same⟩ := keeps
  rw [← tree_of_keeps root same]
  refine shown_of_reads (.perform reads_checkCancelled) checking fun _ resolving => ?_
  refine shown_of_reads (resolveConflict_reads ..) resolving fun resolving transfer => ?_
  obtain ⟨_, resolved⟩ := resolving
  obtain ⟨overwriteExisting, rfl⟩ := resolveConflict_overwrite resolved
  exact uploadTo_shown text transfer rfl unpacked there unused

variable {content : List UInt8}

theorem archive_of_copy {pieces : List (List UInt8)}
    (run : (copy (.read archive) .writeArchive pieces).Runs (calls tools) Call.damage before log (.ok ()) after)
    (there : before.archive = some content) : after.archive = some (content ++ pieces.flatten) := by
  -- The induction is on the pieces; each is written after what the archive has by then.
  induction pieces generalizing before log content with
  | nil =>
    obtain ⟨_, _, _, _, checked, last, -⟩ := run.bind_ok
    obtain rfl := same_of_reads (.performed checked.perform_ok) trivial
    obtain rfl := same_of_reads (.performed last.perform_ok) trivial
    simpa using there
  | cons piece pieces ih =>
    obtain ⟨_, _, _, _, checked, reading, -⟩ := run.bind_ok
    obtain rfl := same_of_reads (.performed checked.perform_ok) trivial
    obtain ⟨_, _, _, _, read, writing, -⟩ := reading.bind_ok
    obtain rfl := same_of_reads (.performed read.perform_ok) trivial
    obtain ⟨_, _, wrote, _, write, rest, -⟩ := writing.bind_ok
    have held : wrote.archive = some (content ++ piece) := by
      rw [← (Prod.mk.inj (Except.ok.inj write.perform_ok)).2]
      simp [there]
    have all := ih rest held
    simpa using all

theorem downloadArchive_shown {entries : Files}
    (run : (downloadArchive depth attempts identifier archive destination "overwrite").Runs (calls tools) Call.damage
      before log result after) (packed : before.remote.find (place archive) = some (.file content))
    (unpacked : tools.unpack content = some entries)
    (there : before.own.find (place destination) ≠ none) (unused : Unused identifier before.own) :
    Shown .own destination (Disk.tree (([], .directory) :: entries) []) before log result after := by
  refine shown_of_reads (.perform reads_checkCancelled) run fun _ opening => ?_
  refine shown_of_reads (.perform reads_openFile) opening fun {pieces} _ _ _ opens creating => ?_
  obtain ⟨_, opened⟩ := opens
  have whole : pieces.flatten = content := by
    have answer := opened.perform_ok
    simp only [calls, Call.perform, packed] at answer
    rw [← (Prod.mk.inj (Except.ok.inj answer)).1, tools.whole]
  refine shown_after (.perform rfl) creating fun create idle copying => ?_
  obtain rfl := (Prod.mk.inj (Except.ok.inj create.perform_ok)).2
  refine shown_after (copy_only rfl rfl (fun _ => rfl) pieces) copying
    fun {_ looks copied _ _ _} copy still syncing => ?_
  have held : copied.archive = some content := by
    rw [archive_of_copy copy rfl, List.nil_append, whole]
  have kept : ∀ names, copied.own.find names = before.own.find names := fun names => still.find copy names
  refine shown_of_reads (.perform reads_syncArchive) syncing fun _ resolving => ?_
  refine shown_of_reads (resolveConflict_reads ..) resolving fun resolving transfer => ?_
  obtain ⟨_, resolved⟩ := resolving
  obtain ⟨overwriteExisting, rfl⟩ := resolveConflict_overwrite resolved
  exact downloadTo_shown transfer held unpacked (by rwa [kept]) fun names found => unused names (by rwa [← kept])

theorem downloadDirectory_shown (text : ¬rawPathPrefix <+: source)
    (keeps : tools.Keeps (before.remote.branch (place source)))
    (run : (downloadDirectory raw depth attempts identifier source destination "overwrite" remoteRoot).Runs
      (calls tools) Call.damage before log result after)
    (there : before.own.find (place destination) ≠ none) (unused : Unused identifier before.own) :
    Shown .own destination (before.remote.tree (place source)) before log result after := by
  refine shown_of_reads (validateRoot_reads ..) run fun _ checking => ?_
  refine shown_of_reads (.lift _) checking fun _ looking => ?_
  refine shown_of_reads (.perform reads_lstat) looking fun _ ensuring => ?_
  refine shown_of_reads (.lift _) ensuring fun _ finding => ?_
  refine shown_of_reads (.lift _) finding fun _ naming => ?_
  refine shown_of_reads (.lift _) naming fun {archive} _ _ _ _ packing => ?_
  obtain ⟨outcome, packed, rest, happens, going, rfl⟩ := packing.caught_bind
  have pack := Program.runs_perform.mpr ⟨rfl, happens⟩
  have quiet : ∀ outcome : AppResult Unit, Idle .own [⟨.packRemote archive source, outcome⟩] := by
    simp [Idle, Call.writes]
  refine Shown.prepend ?_ pack (quiet outcome)
  have unlinks : (ignore (perform (.unlink .remote archive)) : Task Unit).Only
      fun _ action => action.writes .own = [] := .ignore (.perform (by simp [Call.writes]))
  cases outcome with
  | error error =>
    refine shown_after (Program.Only.perform rfl).caught going fun _ _ removing => ?_
    refine shown_after (.given fun _ => unlinks) removing fun _ _ ending => ?_
    obtain ⟨rfl, rfl, rfl⟩ := Program.runs_lift.mp ending
    exact shown_of_idle ending (by simp [Idle]) ⟨error, rfl⟩
  | ok _ =>
    obtain ⟨root, rfl⟩ := run_packRemote.mp pack.perform_ok
    obtain ⟨entries, unpacked, same⟩ := keeps
    rw [← tree_of_keeps root same]
    refine shown_of_reads (.perform reads_sftp) going fun _ downloading => ?_
    obtain ⟨result, body, _, rest, download, ending, rfl⟩ := downloading.caught_then
    obtain ⟨tried, _, _, last, unlink, final, rfl⟩ := ending.ignore_bind
    obtain ⟨rfl, rfl, rfl⟩ := Program.runs_lift.mp final
    rw [List.append_nil]
    obtain ⟨rfl, -⟩ := Program.runs_perform.mp unlink
    refine Shown.append ?_ unlink (by simp [Idle, Call.writes])
    exact downloadArchive_shown download (by simp) unpacked there unused

/--
A transfer of a directory with the policy to overwrite that fails leaves an existing destination as it was, and one that
succeeds makes it the source, exactly when what was set aside of the destination is removed or put back whole in the
end, or else the destination was the source from the start; and where the path of the destination does not end with the
name of an entry, exactly when what the transfer makes in it is removed again.
-/
theorem overwrites_whole_iff {direction : String}
    (keeps : tools.Keeps ((before.files (sourceSide direction)).branch (place source)))
    (there : (before.files (targetSide direction)).find (place destination) ≠ none)
    (unused : Unused identifier (before.files (targetSide direction)))
    (run : (transferDirectory raw depth attempts identifier direction source destination "overwrite" remoteRoot).Runs
      (calls tools) Call.damage before log result after) :
    AllOrNothing (targetSide direction) destination ((before.files (sourceSide direction)).tree (place source))
        before after result ↔
      CleanedUp (targetSide direction) destination ((before.files (sourceSide direction)).tree (place source))
        before log := by
  refine shown_of_reads (.lift _) run fun _ next => ?_
  refine shown_of_reads (.lift _) next fun _ next => ?_
  refine shown_of_reads (validateTransfer_reads ..) next fun _ next => ?_
  refine shown_of_reads (.lift _) next fun _ next => ?_
  refine shown_of_reads (.lift _) next fun checks next => ?_
  obtain ⟨_, checked⟩ := checks
  obtain ⟨-, text, -⟩ := Program.runs_lift.mp checked
  have texts := not_or.mp (ensure_eq_ok.mp text.symm)
  refine shown_of_reads (.perform reads_acquireTransport) next fun _ next => ?_
  obtain ⟨outcome, body, _, rest, transfer, ending, rfl⟩ := next.caught_then
  obtain ⟨tried, _, _, last, remove, final, rfl⟩ := ending.ignore_bind
  obtain ⟨rfl, rfl, rfl⟩ := Program.runs_lift.mp final
  rw [List.append_nil]
  obtain ⟨rfl, -⟩ := Program.runs_perform.mp remove
  refine Shown.append ?_ remove (by simp [Idle, Call.writes])
  refine shown_of_reads (.perform reads_checkCancelled) transfer fun _ next => ?_
  refine shown_of_reads (.perform reads_sftp) next fun _ transfer => ?_
  by_cases upload : direction = "upload"
  · rw [if_pos upload] at transfer
    rw [targetSide, if_pos upload] at there unused ⊢
    rw [sourceSide, if_pos upload] at keeps ⊢
    exact uploadDirectory_shown texts.2 keeps transfer there unused
  · rw [if_neg upload] at transfer
    rw [targetSide, if_neg upload] at there unused ⊢
    rw [sourceSide, if_neg upload] at keeps ⊢
    exact downloadDirectory_shown texts.1 keeps transfer there unused

end Transfer

namespace Demo

def oneTime : Uuid := ⟨['1'], by decide⟩

/-- A directory of the own computer with one file. -/
def folder : Path := ['/', 's']

/-- A directory of the server with another file. -/
def target : Path := ['/', 'd']

def world : World where
  own := [([['s']], .directory), ([['s'], ['a']], .file [2])]
  remote := [([['d']], .directory), ([['d'], ['o']], .file [3])]
  archive := none

def tar : Tools := ⟨fun _ => [1], fun _ => some [([['a']], .file [2])], fun content => [content], fun _ => by simp⟩

/-- The upload of the one directory onto the other, where some calls fail. -/
def uploaded (faults : List (Option AppError)) : Log × AppResult Path × World :=
  Program.script (calls tar) faults
    (transferDirectory rawPath 3 1 oneTime "upload" folder target "overwrite" none) world

/-- The connection is lost while the file of the old directory is removed, after the new one has taken its place. -/
def lateFault : List (Option AppError) := List.replicate 24 none ++ [some (.remote "connection lost")]

theorem tar_keeps : tar.Keeps (world.own.branch (place folder)) := by
  refine ⟨[([['a']], .file [2])], rfl, fun names proper => ?_⟩
  have branch : world.own.branch (place folder) = [([], .directory), ([['a']], .file [2])] := by decide
  rw [branch]
  exact ((Disk.find_cons _).trans (if_neg (Ne.symm proper))).symm

theorem world_unused : Unused oneTime world.remote := by
  intro names there
  have listed : names = [['d']] ∨ names = [['d'], ['o']] := by
    simp only [world, Disk.find_cons] at there
    split at there
    · next same => exact .inl same.symm
    · split at there
      · next same => exact .inr same.symm
      · simp at there
  rcases listed with rfl | rfl <;> decide

/-- The upload fails, but the old directory is gone from its place. -/
theorem old_directory_lost : ¬∀ (tools : Tools) (identifier : Uuid) (source destination : Path) (before after : World)
    (depth attempts : Nat) (log : Log) (result : AppResult Path), tools.Keeps (before.own.branch (place source)) →
      before.remote.find (place destination) ≠ none → Unused identifier before.remote →
      (transferDirectory rawPath depth attempts identifier "upload" source destination "overwrite" none).Runs
        (calls tools) Call.damage before log result after →
      AllOrNothing .remote destination (before.own.tree (place source)) before after result := by
  intro always
  have whole := always tar oneTime folder target world _ 3 1 _ _ tar_keeps (by decide) world_unused
    (Program.runs_script (calls tar) Call.damage lateFault _ world)
  have failed : (uploaded lateFault).2.1 = .error (.remote "connection lost") := by decide
  have gone : (uploaded lateFault).2.2.remote.find [['d'], ['o']] = none := by decide
  have kept : AllOrNothing .remote target (world.own.tree (place folder)) world (uploaded lateFault).2.2
      (uploaded lateFault).2.1 := whole
  rw [failed] at kept
  have there := congrFun kept [['o']]
  exact absurd (gone.symm.trans there) (by decide)

/-- Without a fault nothing of the old directory is left, as the theorem for every run says of this one. -/
theorem old_directory_replaced : (uploaded []).2.1 = .ok target ∧
    (AllOrNothing (targetSide "upload") target ((world.files (sourceSide "upload")).tree (place folder)) world
        (uploaded []).2.2 (uploaded []).2.1 ↔
      CleanedUp (targetSide "upload") target ((world.files (sourceSide "upload")).tree (place folder)) world
        (uploaded []).1) :=
  ⟨by decide, overwrites_whole_iff tar_keeps (by decide) world_unused
    (Program.runs_script (calls tar) Call.damage [] _ world)⟩

end Demo

end Sftp

end CNShell
