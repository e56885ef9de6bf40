import CNShell.Sftp.Overwriting

/-! What a transfer leaves behind in a destination that holds the place it works at. -/

namespace CNShell

namespace Sftp

open Client (AppError AppResult)
open Program (perform lift caught ignore given)

/-- What a transfer made beside its destination is removed in the end. -/
def LeavesNothing (side : Side) (log : Log) : Prop :=
  ∀ path, (Done log (.mkdir side path) ∨ side = .remote ∧ Done log (.createFile path)) →
    ∃ gone, place gone = place path ∧ Removed side gone log

/-- What staging has left so far, in a destination where neither the archive nor what is staged was before. -/
structure Littered (side : Side) (archive staging : Path) (before : World) (log : Log) (after : World) : Prop where
  rest : ∀ names, ¬place archive <+: names → ¬place staging <+: names →
    (after.files side).find names = (before.files side).find names
  leaf : ∀ below ≠ [], (after.files side).find (place archive ++ below) = none
  file : (after.files side).find (place archive) ≠ none ↔ side = .remote ∧ Done log (.createFile archive)
  made : Done log (.mkdir side staging) → (after.files side).find (place staging) = some .directory
  bare : ¬Done log (.mkdir side staging) → ∀ below, (after.files side).find (place staging ++ below) = none

section Staging

variable {tools : Tools} {side : Side} {archive staging : Path} {before middle after : World} {log : Log}
  {event : Event Call AppError}

theorem Littered.append (so : Littered side archive staging before log after)
    (idle : ¬Done [event] (.mkdir side staging)) (also : ¬Done [event] (.createFile archive)) :
    Littered side archive staging before (log ++ [event]) after where
  rest := so.rest
  leaf := so.leaf
  file := by rw [done_append, or_iff_left also, so.file]
  made done := so.made ((done_append.mp done).resolve_right idle)
  bare none := so.bare fun done => none (done_append.mpr (.inl done))

theorem Littered.wrote {old content : List UInt8} (so : Littered .remote archive staging before log after)
    (there : after.remote.find (place archive) = some (.file old))
    (apart : Disk.Apart (place archive) (place staging)) :
    Littered .remote archive staging before log
      { after with remote := after.remote.put (place archive) (.file content) } where
  rest names away off := (Disk.find_put_of_not away).trans (so.rest names away off)
  leaf below proper := by
    refine (Disk.find_put.trans (if_neg fun same => proper ?_)).trans (so.leaf below proper)
    simpa using same
  file := by
    rw [← so.file]
    simp [there]
  made done := (Disk.find_put_of_not apart.left).trans (so.made done)
  bare none below := (Disk.find_put_of_not apart.not_prefix).trans (so.bare none below)

theorem Littered.unpacked {files : Files} (so : Littered side archive staging before log after)
    (there : (after.files side).find (place staging) = some .directory)
    (apart : Disk.Apart (place archive) (place staging)) :
    Littered side archive staging before log
      (after.setFiles side ((after.files side).graft (place staging) (([], .directory) :: files))) where
  rest names away off := by
    rw [files_setFiles, if_pos rfl, Disk.find_graft_of_not off, so.rest names away off]
  leaf below proper := by
    rw [files_setFiles, if_pos rfl, Disk.find_graft_of_not apart.symm.not_prefix, so.leaf below proper]
  file := by rw [files_setFiles, if_pos rfl, Disk.find_graft_of_not apart.right, so.file]
  made _ := by simp [Disk.find_cons]
  bare none below := by
    have absent := so.bare none []
    rw [List.append_nil, there] at absent
    cases absent

theorem Littered.congr (so : Littered side archive staging before log middle)
    (same : after.files side = middle.files side) : Littered side archive staging before log after := by
  constructor
  · rw [same]; exact so.rest
  · rw [same]; exact so.leaf
  · rw [same]; exact so.file
  · rw [same]; exact so.made
  · rw [same]; exact so.bare

variable {β : Type}

variable {action : Call β}

theorem not_done_failed {error : AppError} (call : Call Unit) : ¬Done [⟨action, .error error⟩] call := by
  simp only [Done, List.mem_singleton]
  intro same
  cases same

theorem Littered.damaged (so : Littered side archive staging before log middle)
    (left : Call.damage β action middle after) (stages : action.Stages side archive staging)
    (apart : Disk.Apart (place archive) (place staging)) : Littered side archive staging before log after := by
  cases action
  case write path bytes =>
    obtain ⟨old, content, there, rfl⟩ := left
    obtain rfl : path = archive := stages
    cases side with
    | own => exact so.congr rfl
    | remote => exact so.wrote there apart
  case unpackRemote path target =>
    obtain ⟨files, there, rfl⟩ := left
    obtain rfl : target = staging := stages
    cases side with
    | own => exact so.congr rfl
    | remote => exact so.unpacked there apart
  case unpackOwn target =>
    obtain ⟨files, there, rfl⟩ := left
    obtain rfl : target = staging := stages
    cases side with
    | own => exact so.unpacked there apart
    | remote => exact so.congr rfl
  all_goals first
    | exact stages.elim
    | (obtain rfl : after = middle := left
       exact so)

/-- Each step of staging leaves what it made. -/
theorem Littered.step (so : Littered side archive staging before log middle)
    (happens : Happens (calls tools) Call.damage event.action middle event.outcome after)
    (stages : event.action.Stages side archive staging) (apart : Disk.Apart (place archive) (place staging)) :
    Littered side archive staging before (log ++ [event]) after := by
  obtain ⟨action, outcome⟩ := event
  change Happens _ _ action middle outcome after at happens
  cases happens with
  | refused error => exact so.append (not_done_failed _) (not_done_failed _)
  | halfway error left => exact (so.damaged left stages apart).append (not_done_failed _) (not_done_failed _)
  | performed ran =>
    cases action with
    | mkdir other path =>
      obtain ⟨rfl, rfl⟩ := stages
      obtain ⟨free, rfl⟩ := run_mkdir.mp ran
      constructor
      · intro names away off
        rw [files_setFiles, if_pos rfl, Disk.find_put_of_not off, so.rest names away off]
      · intro below proper
        rw [files_setFiles, if_pos rfl, Disk.find_put_of_not apart.symm.not_prefix, so.leaf below proper]
      · rw [files_setFiles, if_pos rfl, Disk.find_put_of_not apart.right, so.file]
        simp [done_append, done_cons]
      · simp
      · exact fun none => absurd (by simp [done_append, done_cons]) none
    | createFile path =>
      obtain rfl : path = archive := stages
      obtain ⟨free, rfl⟩ := run_createFile.mp ran
      have making : Done (log ++ [⟨.createFile path, .ok ()⟩]) (.mkdir side staging) ↔
          Done log (.mkdir side staging) := by simp [done_append, done_cons]
      cases side with
      | own =>
        have file := so.file
        exact ⟨so.rest, so.leaf, by simpa using file, fun done => so.made (making.mp done),
          fun none => so.bare fun done => none (making.mpr done)⟩
      | remote =>
        constructor
        · intro names away off
          exact (Disk.find_put_of_not away).trans (so.rest names away off)
        · intro below proper
          refine (Disk.find_put.trans (if_neg fun same => proper ?_)).trans (so.leaf below proper)
          simpa using same
        · simp [done_append, done_cons]
        · exact fun done => (Disk.find_put_of_not apart.left).trans (so.made (making.mp done))
        · exact fun none below => (Disk.find_put_of_not apart.not_prefix).trans
            (so.bare (fun done => none (making.mpr done)) below)
    | write path bytes =>
      obtain rfl : path = archive := stages
      obtain ⟨content, there, rfl⟩ := run_write.mp ran
      refine Littered.append ?_ (by simp [Done]) (by simp [Done])
      cases side with
      | own => exact so.congr rfl
      | remote => exact so.wrote there apart
    | unpackRemote path target =>
      obtain rfl : target = staging := stages
      obtain ⟨content, files, -, there, -, rfl⟩ := run_unpackRemote.mp ran
      refine Littered.append ?_ (by simp [Done]) (by simp [Done])
      cases side with
      | own => exact so.congr rfl
      | remote => exact so.unpacked there apart
    | unpackOwn target =>
      obtain rfl : target = staging := stages
      obtain ⟨content, files, -, there, -, rfl⟩ := run_unpackOwn.mp ran
      refine Littered.append ?_ (by simp [Done]) (by simp [Done])
      cases side with
      | own => exact so.unpacked there apart
      | remote => exact so.congr rfl
    | _ =>
      first
        | exact stages.elim
        | (obtain rfl := same_of_reads (.performed ran) trivial
           exact so.append (not_done_of_reads (List.forall_mem_singleton.mpr trivial) id)
             (not_done_of_reads (List.forall_mem_singleton.mpr trivial) id))

theorem littered_nil (free : ∀ below, (before.files side).find (place archive ++ below) = none)
    (bare : ∀ below, (before.files side).find (place staging ++ below) = none) :
    Littered side archive staging before [] before := by
  refine ⟨fun _ _ _ => rfl, fun below _ => free below, ?_, fun done => absurd done not_done_nil, fun _ => bare⟩
  have absent := free []
  simp_all

theorem Littered.run {α : Type} {program : Task α} {result : AppResult α} {more : Log}
    (so : Littered side archive staging before log middle)
    (run : program.Runs (calls tools) Call.damage middle more result after)
    (stages : ∀ event ∈ more, event.action.Stages side archive staging)
    (apart : Disk.Apart (place archive) (place staging)) :
    Littered side archive staging before (log ++ more) after :=
  Program.Runs.history (fun log world => Littered side archive staging before log world)
    (fun _ _ _ _ stages so happens => so.step happens stages apart) run stages so

/-- What was made beside a destination that holds it is left there exactly when it was not removed. -/
theorem leavesNothing_iff {destination : Path} {made removed whole : Log}
    (littered : Littered side archive staging before made middle) (pruned : Pruned side middle removed after)
    (apart : Disk.Apart (place archive) (place staging))
    (insideArchive : place destination <+: place archive) (insideStaging : place destination <+: place staging)
    (free : ∀ below, (before.files side).find (place archive ++ below) = none)
    (bare : ∀ below, (before.files side).find (place staging ++ below) = none)
    (within : ∀ path, Removed side path removed → place archive <+: place path ∨ place staging <+: place path)
    (mkdir : ∀ path, Done whole (.mkdir side path) ↔ path = staging ∧ Done made (.mkdir side staging))
    (create : side = .remote →
      ∀ path, Done whole (.createFile path) ↔ path = archive ∧ Done made (.createFile archive))
    (gone : ∀ path, Removed side path whole ↔ Removed side path removed) :
    (after.files side).tree (place destination) = (before.files side).tree (place destination) ↔
      LeavesNothing side whole := by
  obtain ⟨toArchive, archiveThere⟩ := insideArchive
  obtain ⟨toStaging, stagingThere⟩ := insideStaging
  constructor
  · intro same path madeHere
    -- Nothing is left there, so it was removed.
    have vanished : (after.files side).find (place path) = none ∧ (middle.files side).find (place path) ≠ none := by
      rcases madeHere with done | ⟨rfl, done⟩
      · obtain ⟨rfl, done⟩ := (mkdir path).mp done
        refine ⟨?_, by simp [littered.made done]⟩
        have here : (after.files side).find (place destination ++ toStaging) = (before.files side).find _ :=
          congrFun same toStaging
        rw [stagingThere] at here
        simpa using here.trans (by simpa using bare [])
      · obtain ⟨rfl, done⟩ := (create rfl path).mp done
        refine ⟨?_, littered.file.mpr ⟨rfl, done⟩⟩
        have here : (after.files .remote).find (place destination ++ toArchive) = (before.files .remote).find _ :=
          congrFun same toArchive
        rw [archiveThere] at here
        simpa using here.trans (by simpa using free [])
    by_contra kept
    refine vanished.2 ((pruned.spared _ fun gonePath removed here => kept ?_).symm.trans vanished.1)
    exact ⟨gonePath, here, (gone gonePath).mpr removed⟩
  · intro nothing
    have stays : ∀ names, (middle.files side).find names = none → (after.files side).find names = none :=
      fun names absent => (pruned.rest names).elim id fun same => same.trans absent
    refine Disk.tree_congr fun names _ => ?_
    by_cases archived : place archive <+: names
    · obtain ⟨below, rfl⟩ := archived
      rw [free below]
      by_cases proper : below = []
      · subst proper
        rw [List.append_nil]
        by_cases done : side = .remote ∧ Done made (.createFile archive)
        · obtain ⟨path, here, removal⟩ := nothing archive (.inr ⟨done.1, (create done.1 archive).mpr ⟨rfl, done.2⟩⟩)
          exact here ▸ (pruned.gone path ((gone path).mp removal)).1
        · exact stays _ (not_not.mp fun there => done (littered.file.mp there))
      · exact stays _ (littered.leaf below proper)
    by_cases staged : place staging <+: names
    · obtain ⟨below, rfl⟩ := staged
      rw [bare below]
      by_cases done : Done made (.mkdir side staging)
      · -- What was staged is a directory, so it can only be removed once it is empty.
        obtain ⟨path, here, removal⟩ := nothing staging (.inl ((mkdir staging).mpr ⟨rfl, done⟩))
        rcases (gone path).mp removal with rmdir | unlink
        · exact here ▸ pruned.emptied path rmdir below
        · exact absurd (here ▸ littered.made done) (pruned.leaves path unlink)
      · exact stays _ (littered.bare done below)
    · refine (pruned.spared names fun path removal here => ?_).trans (littered.rest names archived staged)
      rcases within path removal with inside | inside
      · exact archived (here ▸ inside)
      · exact staged (here ▸ inside)

theorem swap_nested {destination backup : Path} {discard : Task Unit} {overwriteExisting : Bool}
    {result : AppResult Unit}
    (run : (swap side destination staging backup overwriteExisting discard).Runs (calls tools) Call.damage
      before log result after)
    (insideStaging : place destination <+: place staging) (insideBackup : place destination <+: place backup)
    (proper : place destination ≠ place staging) (there : (before.files side).find (place destination) ≠ none)
    (directory : (before.files side).find (place staging) = some .directory) :
    (∃ error, result = .error error) ∧ after = before ∧ ∀ call, ¬Done log call := by
  rw [swap] at run
  cases overwriteExisting with
  | true =>
    rcases Program.Runs.perform_bind run with ⟨error, setting, rfl, rfl⟩ | ⟨_, _, _, setting, -, -⟩
    · rcases happens_rename setting with ⟨-, -, rfl⟩ | ⟨differ, -⟩
      · exact ⟨⟨error, rfl⟩, rfl, not_done_error⟩
      · cases differ
    · rcases happens_rename setting with ⟨_, differ, -⟩ | ⟨-, -, outside, -⟩
      · cases differ
      · exact absurd insideBackup outside
  | false =>
    obtain ⟨outcome, middle, rest, moving, ending, rfl⟩ := Program.Runs.caught_bind run
    rcases happens_rename moving with ⟨error, rfl, rfl⟩ | ⟨rfl, staged, -, free, rfl⟩
    · obtain ⟨rfl, rfl, rfl⟩ := Program.runs_lift.mp ending
      exact ⟨⟨error, rfl⟩, rfl, not_done_error⟩
    · -- A directory that has an entry does not give way.
      obtain ⟨names, same⟩ := insideStaging
      rcases free with absent | gives
      · exact absurd absent there
      cases side with
      | remote => exact gives.elim
      | own =>
        rw [replaceable, if_pos directory] at gives
        refine absurd (same ▸ gives.2.find fun empty => proper ?_) staged
        rw [← same, empty, List.append_nil]

theorem Littered.idle {more : Log} (so : Littered side archive staging before log after)
    (none : ∀ call, ¬Done more call) : Littered side archive staging before (log ++ more) after where
  rest := so.rest
  leaf := so.leaf
  file := by rw [done_append, or_iff_left (none _), so.file]
  made done := so.made ((done_append.mp done).resolve_right (none _))
  bare absent := so.bare fun done => absent (done_append.mpr (.inl done))

theorem Call.RemovesBelow.root {here : List (List Char)}
    (below : action.RemovesBelow side here) : action.RemovesBelow side [] := by
  cases action
  case unlink | rmdir => exact ⟨below.1, List.nil_prefix⟩
  all_goals exact below

/-- The places that a transfer works at inside its destination, where nothing was before. -/
structure Within (side : Side) (before : World) (destination archive staging backup : Path) : Prop where
  packed : place destination <+: place archive
  staged : place destination <+: place staging
  aside : place destination <+: place backup
  proper : place destination ≠ place staging
  other : Disk.Apart (place archive) (place staging)
  spare : Disk.Apart (place archive) (place backup)
  between : Disk.Apart (place staging) (place backup)
  free : ∀ below, (before.files side).find (place archive ++ below) = none
  bare : ∀ below, (before.files side).find (place staging ++ below) = none
  empty : (before.files side).find (place backup) = none

/-- What a transfer did before its clearing up: it made something at its places, and removed nothing. -/
structure Makes (side : Side) (archive staging : Path) (log : Log) : Prop where
  mkdir : ∀ path, Done log (.mkdir side path) → path = staging
  create : ∀ path, Done log (.createFile path) → path = archive
  keeps : ∀ path, ¬Removed side path log

theorem Makes.append {more : Log} (makes : Makes side archive staging log) (none : ∀ call, ¬Done more call) :
    Makes side archive staging (log ++ more) where
  mkdir path done := makes.mkdir path ((done_append.mp done).resolve_right (none _))
  create path done := makes.create path ((done_append.mp done).resolve_right (none _))
  keeps path removed := (removed_append.mp removed).elim (makes.keeps path) fun more => more.elim (none _) (none _)

theorem makes_of_stages (stages : ∀ event ∈ log, event.action.Stages side archive staging) :
    Makes side archive staging log where
  mkdir _ done := (stages _ done).2
  create _ done := stages _ done
  keeps _ removed := removed.elim (fun done => stages _ done) fun done => stages _ done

theorem nested_iff {destination backup : Path} {made cleared returned : Log} {next last : World}
    (within : Within side before destination archive staging backup)
    (littered : Littered side archive staging before made middle) (makes : Makes side archive staging made)
    (pruned : Pruned side middle cleared next)
    (below : ∀ event ∈ cleared, event.action.RemovesBelow side (place archive) ∨
      event.action.RemovesBelow side (place staging))
    (restored : Restored side destination backup next last returned) :
    (last.files side).tree (place destination) = (before.files side).tree (place destination) ↔
      LeavesNothing side (made ++ (cleared ++ returned)) := by
  -- Nothing was set aside, so nothing is put back.
  have free : (next.files side).find (place backup) = none := by
    refine (pruned.rest _).elim id fun same => same.trans ?_
    rw [littered.rest _ within.spare.left within.between.left, within.empty]
  obtain ⟨idle, rfl⟩ := restored.of_free free
  have removals : ∀ call : Call Unit, ¬call.Reads → (Done (made ++ (cleared ++ returned)) call ↔
      Done made call ∨ Done cleared call) := fun call writes => by
    rw [done_append, done_append, or_iff_left (idle call writes)]
  have noMkdir : ∀ path, ¬Done cleared (.mkdir side path) := fun path done => (below _ done).elim id id
  have noCreate : ∀ path, ¬Done cleared (.createFile path) := fun path done => (below _ done).elim id id
  refine leavesNothing_iff littered pruned within.other within.packed within.staged within.free within.bare ?_ ?_ ?_ ?_
  · rintro path (done | done)
    · exact (below _ done).imp And.right And.right
    · exact (below _ done).imp And.right And.right
  · intro path
    rw [removals _ id, or_iff_left (noMkdir path)]
    constructor
    · intro done
      obtain rfl := makes.mkdir path done
      exact ⟨rfl, done⟩
    · rintro ⟨rfl, done⟩
      exact done
  · intro _ path
    rw [removals _ id, or_iff_left (noCreate path)]
    constructor
    · intro done
      obtain rfl := makes.create path done
      exact ⟨rfl, done⟩
    · rintro ⟨rfl, done⟩
      exact done
  · intro path
    have kept := makes.keeps path
    rw [Removed, removals _ id, removals _ id, or_iff_right fun done => kept (.inl done),
      or_iff_right fun done => kept (.inr done)]
    rfl

end Staging

section Upload

variable {tools : Tools} {raw : Path → AppResult Path} {depth : Nat} {identifier : Uuid}
  {destination archive staging backup directory : Path} {before after : World} {log : Log}
  {content : List UInt8} {files : Files} {overwriteExisting : Bool} {result : AppResult Path}

theorem Within.not_prefix {side : Side} (within : Within side before destination archive staging backup)
    (there : (before.files side).find (place destination) ≠ none) :
    ¬place archive <+: place destination ∧ ¬place staging <+: place destination := by
  constructor
  · rintro ⟨names, same⟩
    exact there (same ▸ within.free names)
  · rintro ⟨names, same⟩
    exact there (same ▸ within.bare names)

theorem uploadBeside_nested (within : Within .remote before destination archive staging backup)
    (run : (uploadBeside depth destination archive staging backup overwriteExisting).Runs (calls tools) Call.damage
      before log result after)
    (held : before.archive = some content) (unpacked : tools.unpack content = some files)
    (there : before.remote.find (place destination) ≠ none) :
    (∃ error, result = .error error) ∧ Littered .remote archive staging before log after ∧
      Makes .remote archive staging log := by
  have start := littered_nil within.free within.bare
  rcases Program.runs_bind.mp run with ⟨error, stage, rfl⟩ | ⟨_, stages, staged, rest, stage, swapping, rfl⟩
  · have permitted := stage.permits stageUpload_stages
    exact ⟨⟨error, rfl⟩, start.run stage permitted within.other, makes_of_stages permitted⟩
  have permitted := stage.permits stageUpload_stages
  have littered : Littered .remote archive staging before stages staged :=
    start.run stage permitted within.other
  have root : staged.remote.find (place staging) = some .directory := by
    rw [← Disk.tree_nil, tree_of_stageUpload stage held unpacked within.other, Disk.tree_nil, Disk.find_cons,
      if_pos rfl]
  have still : staged.remote.find (place destination) ≠ none := by
    obtain ⟨away, off⟩ := within.not_prefix there
    rwa [← files_remote, littered.rest _ away off]
  -- The swap cannot move the destination into itself.
  rcases Program.runs_bind.mp swapping with ⟨error, swap, rfl⟩ | ⟨_, swaps, swapped, last, swap, -, rfl⟩
  · obtain ⟨-, rfl, idle⟩ := swap_nested swap within.staged within.aside within.proper still root
    exact ⟨⟨error, rfl⟩, littered.idle idle, (makes_of_stages permitted).append idle⟩
  · obtain ⟨⟨error, differ⟩, -⟩ := swap_nested swap within.staged within.aside within.proper still root
    cases differ

theorem uploadTo_nested (within : Within .remote before destination archive staging backup)
    (run : (uploadTo raw depth identifier destination overwriteExisting).Runs (calls tools) Call.damage
      before log result after)
    (parentOk : remoteParentPath raw destination = .ok directory)
    (archiveOk : remoteChildPath raw directory (archiveName identifier) = .ok archive)
    (stagingOk : remoteChildPath raw directory (stagingName identifier) = .ok staging)
    (backupOk : remoteChildPath raw directory (backupName identifier) = .ok backup)
    (held : before.archive = some content) (unpacked : tools.unpack content = some files)
    (there : before.remote.find (place destination) ≠ none) (source : Tree) :
    AllOrNothing .remote destination source before after result ↔ LeavesNothing .remote log := by
  replace run := (((Program.Runs.of_lift run parentOk).of_lift archiveOk).of_lift stagingOk).of_lift backupOk
  obtain ⟨transferred, made, middle, rest, work, cleaning, rfl⟩ := run.caught_then
  obtain ⟨⟨error, rfl⟩, littered, makes⟩ := uploadBeside_nested within work held unpacked there
  obtain ⟨⟨again, rfl⟩, outcome, clean⟩ := runs_of_failed cleaning Program.runs_lift.mp
  rcases Program.runs_bind.mp clean with ⟨error, clear, -⟩ | ⟨_, cleared, next, returned, clear, restoring, rfl⟩
  · have below := clearUpload_below clear
    have none : Restored .remote destination backup after after [] := .kept (fun _ _ => not_done_nil) rfl
    have whole := nested_iff within littered makes (pruned_of_runs clear fun event member =>
      (below event member).elim Call.RemovesBelow.root Call.RemovesBelow.root) below none
    rwa [List.append_nil] at whole
  · have below := clearUpload_below clear
    exact nested_iff within littered makes (pruned_of_runs clear fun event member =>
      (below event member).elim Call.RemovesBelow.root Call.RemovesBelow.root) below (restore_cases restoring)

end Upload

section Download

variable {tools : Tools} {depth : Nat} {identifier : Uuid} {destination archive staging backup directory : Path}
  {before middle after : World} {made log : Log} {overwriteExisting : Bool}

theorem extractBeside_nested {result : AppResult Unit}
    (within : Within .own before destination archive staging backup)
    (littered : Littered .own archive staging before made middle)
    (stages : ∀ event ∈ made, event.action.Stages .own archive staging)
    (run : (extractBeside depth destination staging backup overwriteExisting).Runs (calls tools) Call.damage
      middle log result after)
    (there : before.own.find (place destination) ≠ none) :
    (∃ error, result = .error error) ∧ Littered .own archive staging before (made ++ log) after ∧
      Makes .own archive staging (made ++ log) := by
  have opening : ∀ outcome : AppResult Unit, ∀ event ∈ [(⟨.unpackOwn staging, outcome⟩ : Event Call AppError)],
      event.action.Stages .own archive staging := fun _ => List.forall_mem_singleton.mpr rfl
  have looking : ∀ outcome : AppResult Unit, ∀ event ∈ [(⟨.checkCancelled, outcome⟩ : Event Call AppError)],
      event.action.Stages .own archive staging := fun _ => List.forall_mem_singleton.mpr trivial
  rcases Program.runs_bind.mp run with ⟨error, unpack, rfl⟩ | ⟨_, first, opened, rest, unpack, checking, rfl⟩
  · obtain ⟨rfl, -⟩ := Program.runs_perform.mp unpack
    exact ⟨⟨error, rfl⟩, littered.run unpack (opening _) within.other,
      makes_of_stages (List.forall_mem_append.mpr ⟨stages, opening _⟩)⟩
  obtain ⟨entries, packed, -, -, -, same⟩ := run_unpackOwn.mp unpack.perform_ok
  have root : opened.own.find (place staging) = some .directory := by simp [same, Disk.find_cons]
  obtain ⟨rfl, -⟩ := Program.runs_perform.mp unpack
  replace littered := littered.run unpack (opening _) within.other
  replace stages := List.forall_mem_append.mpr ⟨stages, opening (.ok ())⟩
  rw [← List.append_assoc]
  rcases Program.runs_bind.mp checking with ⟨error, check, rfl⟩ | ⟨_, checks, checked, last, check, swapping, rfl⟩
  · obtain ⟨rfl, -⟩ := Program.runs_perform.mp check
    exact ⟨⟨error, rfl⟩, littered.run check (looking _) within.other,
      makes_of_stages (List.forall_mem_append.mpr ⟨stages, looking _⟩)⟩
  · obtain ⟨rfl, happens⟩ := Program.runs_perform.mp check
    replace littered := littered.run check (looking _) within.other
    replace stages := List.forall_mem_append.mpr ⟨stages, looking (.ok ())⟩
    obtain rfl := same_of_reads happens trivial
    have still : checked.own.find (place destination) ≠ none := by
      obtain ⟨away, off⟩ := within.not_prefix there
      rwa [← files_own, littered.rest _ away off]
    -- The swap cannot move the destination into itself.
    obtain ⟨failed, rfl, idle⟩ := swap_nested swapping within.staged within.aside within.proper still root
    rw [← List.append_assoc]
    exact ⟨failed, littered.idle idle, (makes_of_stages stages).append idle⟩

theorem downloadTo_nested {result : AppResult Path}
    (within : Within .own before destination archive (join directory (stagingName identifier))
      (join directory (backupName identifier)))
    (run : (downloadTo depth identifier destination overwriteExisting).Runs (calls tools) Call.damage
      before log result after)
    (parentOk : parent destination = some directory)
    (there : before.own.find (place destination) ≠ none) (source : Tree) :
    AllOrNothing .own destination source before after result ↔ LeavesNothing .own log := by
  rw [downloadTo, parentOk] at run
  have start := littered_nil within.free within.bare
  have making : ∀ outcome : AppResult Unit, ∀ event ∈
      [(⟨.mkdir .own (join directory (stagingName identifier)), outcome⟩ : Event Call AppError)],
      event.action.Stages .own archive (join directory (stagingName identifier)) :=
    fun outcome => List.forall_mem_singleton.mpr ⟨rfl, rfl⟩
  have none : ∀ world : World, Restored .own destination (join directory (backupName identifier)) world world [] :=
    fun _ => .kept (fun _ _ => not_done_nil) rfl
  have nothing : ∀ world : World, Pruned .own world [] world := fun _ => by constructor <;> simp
  rcases run.lift_bind with ⟨error, differ, -⟩ | ⟨_, found, staging⟩
  · cases differ
  obtain rfl := Except.ok.inj found
  rcases staging.perform_bind with ⟨error, happens, rfl, rfl⟩ | ⟨_, made, rest, happens, working, rfl⟩
  · have littered := start.run (Program.runs_perform.mpr ⟨rfl, happens⟩) (making _) within.other
    have whole := nested_iff within littered (makes_of_stages (making _)) (nothing after) (by simp) (none after)
    rwa [List.append_nil] at whole
  have littered := start.run (Program.runs_perform.mpr ⟨rfl, happens⟩) (making _) within.other
  obtain ⟨outcome, work, middle, rest, extract, cleaning, rfl⟩ := working.caught_then
  obtain ⟨⟨error, rfl⟩, littered, makes⟩ := extractBeside_nested within littered (making _) extract there
  obtain ⟨⟨again, rfl⟩, outcome, clean⟩ := runs_of_failed cleaning Program.runs_done.mp
  rw [← List.cons_append]
  obtain ⟨tried, cleared, next, returned, clear, restoring, rfl⟩ := Program.Runs.ignore_bind clean
  have below := deleteRecursive_below clear
  exact nested_iff within littered makes (pruned_of_runs clear below) (fun event member => .inr (below event member))
    (restore_cases restoring)

end Download

end Sftp

end CNShell
