import CNShell.Sftp.Footprints

/-! Whether a transfer of a directory that replaces its target is all or nothing. -/

namespace CNShell

namespace Sftp

open Client (AppError AppResult)
open Program (perform lift caught ignore given given_of given_of_not)

/-- What lies at and below a place, under the names from there. -/
abbrev Tree := List (List Char) → Option Node

/-- A transfer that fails leaves its destination as it was, and one that succeeds makes it the source. -/
def AllOrNothing (side : Side) (destination : Path) (source : Tree) (before after : World) :
    AppResult Path → Prop
  | .ok _ => (after.files side).tree (place destination) = source
  | .error _ => (after.files side).tree (place destination) = (before.files side).tree (place destination)

/-- What was set aside of a destination is removed in the end, or put back whole. -/
def SetAside (side : Side) (destination : Path) (log : Log) : Prop :=
  ∀ backup, Done log (.rename side destination backup) → Removed side backup log ∨
    Done log (.rename side backup destination) ∧ ∀ path, place backup <+: place path → ¬Removed side path log

/-- Something came to the destination. -/
def Replaced (side : Side) (destination : Path) (log : Log) : Prop := ∃ path, Done log (.rename side path destination)

/-- What was set aside of a destination is settled, or the destination was the source from the start. -/
def Balanced (side : Side) (destination : Path) (source : Tree) (before : World) (log : Log) : Prop :=
  SetAside side destination log ∨
    (before.files side).tree (place destination) = source ∧ Replaced side destination log

/-- What a program removes is at and below a path, and it succeeds exactly when the path is gone. -/
structure Discards (side : Side) (path : Path) (discard : Task Unit) : Prop where
  below : ∀ {tools before log result after}, discard.Runs (calls tools) Call.damage before log result after →
    ∀ event ∈ log, event.action.RemovesBelow side (place path)
  ok : ∀ {tools before log result after}, discard.Runs (calls tools) Call.damage before log result after →
    (result = .ok () ↔ Removed side path log)

structure Beside (destination staging backup : Path) : Prop where
  staged : Disk.Apart (place destination) (place staging)
  aside : Disk.Apart (place destination) (place backup)
  between : Disk.Apart (place staging) (place backup)

/-- What came of moving what is staged into the place of a destination. -/
inductive Swapped (side : Side) (destination staging backup : Path) (before after : World) :
    Log → AppResult Unit → Prop
  /-- Nothing was moved. -/
  | kept {log : Log} (error : AppError) (idle : ∀ call, ¬Done log call) (same : after = before) :
      Swapped side destination staging backup before after log (.error error)
  /-- What was set aside came back. -/
  | restored (error : AppError)
      (back : (after.files side).tree (place destination) = (before.files side).tree (place destination))
      (free : (after.files side).find (place backup) = none) :
      Swapped side destination staging backup before after
        [⟨.rename side destination backup, .ok ()⟩, ⟨.rename side staging destination, .error error⟩,
          ⟨.rename side backup destination, .ok ()⟩] (.error error)
  /-- What was set aside stayed there, and nothing came to the destination. -/
  | lost (error again : AppError)
      (gone : (after.files side).tree (place destination) = fun _ => none)
      (aside : (after.files side).tree (place backup) = (before.files side).tree (place destination)) :
      Swapped side destination staging backup before after
        [⟨.rename side destination backup, .ok ()⟩, ⟨.rename side staging destination, .error error⟩,
          ⟨.rename side backup destination, .error again⟩] (.error error)
  /-- Nothing was set aside, and what was staged came to the destination. -/
  | replaced
      (filled : (after.files side).tree (place destination) = (before.files side).tree (place staging)) :
      Swapped side destination staging backup before after [⟨.rename side staging destination, .ok ()⟩] (.ok ())
  /-- What was staged came to the destination, and what was set aside was to be removed. -/
  | discarded {removal : Log} {result : AppResult Unit} (middle : World)
      (filled : (after.files side).tree (place destination) = (before.files side).tree (place staging))
      (aside : (middle.files side).tree (place backup) = (before.files side).tree (place destination))
      (pruned : Pruned side middle removal after)
      (below : ∀ event ∈ removal, event.action.RemovesBelow side (place backup))
      (ok : result = .ok () ↔ Removed side backup removal) :
      Swapped side destination staging backup before after
        (⟨.rename side destination backup, .ok ()⟩ :: ⟨.rename side staging destination, .ok ()⟩ :: removal) result

/-- What came of putting back what was set aside. -/
inductive Restored (side : Side) (destination backup : Path) (before after : World) : Log → Prop
  /-- Nothing was moved. -/
  | kept {log : Log} (idle : ∀ call : Call Unit, ¬call.Reads → ¬Done log call) (same : after = before) :
      Restored side destination backup before after log
  /-- What was set aside came back. -/
  | back {looks : Log} (reads : ∀ event ∈ looks, event.action.Reads)
      (there : (before.files side).find (place backup) ≠ none)
      (free : (before.files side).find (place destination) = none ∨
        replaceable (before.files side) backup destination side)
      (moved : (after.files side).tree (place destination) = (before.files side).tree (place backup)) :
      Restored side destination backup before after (looks ++ [⟨.rename side backup destination, .ok ()⟩])

/-- What was done elsewhere than at the destination and at what was set aside of it. -/
def Elsewhere (side : Side) (destination backup : Path) (log : Log) : Prop :=
  ∀ event ∈ log, ∀ written ∈ event.action.writes side,
    Disk.Apart written (place destination) ∧ Disk.Apart written (place backup)

section Swap

variable {tools : Tools} {side : Side} {destination staging backup : Path} {before after : World}
  {log : Log} {result : AppResult Unit}

theorem not_done_error {call : Call Unit} {error : AppError} (other : Call Unit) :
    ¬Done [⟨call, .error error⟩] other := by
  simp [Done]

theorem swap_cases {discard : Task Unit} {overwriteExisting : Bool}
    (run : (swap side destination staging backup overwriteExisting discard).Runs (calls tools) Call.damage
      before log result after)
    (discards : Discards side backup discard) (beside : Beside destination staging backup)
    (free : (before.files side).find (place backup) = none) :
    Swapped side destination staging backup before after log result := by
  rw [swap] at run
  cases overwriteExisting with
  | false =>
    simp only [given_of_not Bool.false_ne_true] at run
    obtain ⟨outcome, middle, rest, moving, after_, rfl⟩ := Program.Runs.caught_bind run
    rcases happens_rename moving with ⟨error, rfl, rfl⟩ | ⟨rfl, -, -, -, rfl⟩
    · obtain ⟨rfl, rfl, rfl⟩ := Program.runs_lift.mp after_
      exact .kept error (not_done_error) rfl
    · obtain ⟨rfl, rfl, rfl⟩ := Program.runs_pure.mp after_
      exact .replaced (by simp)
  | true =>
    rcases Program.Runs.perform_bind run with ⟨error, setting, rfl, rfl⟩ | ⟨_, between, later, setting, moving, rfl⟩
    · rcases happens_rename setting with ⟨-, -, rfl⟩ | ⟨differ, -⟩
      · exact .kept error not_done_error rfl
      · cases differ
    rcases happens_rename setting with ⟨error, differ, -⟩ | ⟨-, -, -, -, rfl⟩
    · cases differ
    obtain ⟨outcome, middle, rest, moved, ending, rfl⟩ := moving.caught_bind
    rcases happens_rename moved with ⟨error, rfl, rfl⟩ | ⟨rfl, -, -, -, rfl⟩
    · -- The old destination is put back, unless that fails too.
      obtain ⟨result, first, there, last, trying, final, rfl⟩ := Program.Runs.ignore_bind ending
      obtain ⟨rfl, back⟩ := Program.runs_perform.mp trying
      obtain ⟨rfl, rfl, rfl⟩ := Program.runs_lift.mp final
      rcases happens_rename back with ⟨again, rfl, rfl⟩ | ⟨rfl, -, -, -, rfl⟩
      · exact .lost error again (by simp [Disk.tree_move_source beside.aside.symm]) (by simp)
      · refine .restored error (by simp) ?_
        have gone := congrFun (@Disk.tree_move_source _ _ _
          ((before.files side).move (place destination) (place backup)) _ _ beside.aside) []
        simpa [Disk.tree_nil] using gone
    · refine .discarded _ ?_ ?_ (pruned_of_runs ending (discards.below ending)) (discards.below ending)
        (discards.ok ending)
      · -- What is removed lies apart from the destination.
        rw [tree_of_runs ending fun event member written writes => ?_]
        · simp [Disk.tree_move_apart beside.staged beside.between.symm]
        · obtain ⟨below, rfl⟩ := writes_of_below (discards.below ending event member) written writes
          exact beside.aside.symm.append
      · simp [Disk.tree_move_apart beside.between beside.aside]

theorem restore_cases (run : (restore side destination backup).Runs (calls tools) Call.damage
    before log result after) : Restored side destination backup before after log := by
  rw [restore] at run
  -- Both looks come before the renaming, and nothing else does.
  have quiet : ∀ {log : Log}, (∀ event ∈ log, event.action.Reads) → ∀ call : Call Unit, ¬call.Reads → ¬Done log call :=
    fun reads _ writes => not_done_of_reads reads writes
  rcases Program.runs_bind.mp run with ⟨error, looked, -⟩ | ⟨kept, looks, middle, rest, looked, given, rfl⟩
  · have reads := looked.permits (present_reads side backup)
    exact .kept (quiet reads) (same_of_runs looked reads)
  have reads := looked.permits (present_reads side backup)
  obtain rfl := same_of_runs looked reads
  cases kept with
  | false =>
    rw [given_of_not Bool.false_ne_true] at given
    obtain ⟨rfl, -, rfl⟩ := Program.runs_pure.mp given
    rw [List.append_nil]
    exact .kept (quiet reads) rfl
  | true =>
    rw [given_of rfl] at given
    rcases Program.runs_bind.mp given with ⟨error, again, -⟩ | ⟨taken, more, middle, last, again, moving, rfl⟩
    · have also := again.permits (present_reads side destination)
      exact .kept (quiet (List.forall_mem_append.mpr ⟨reads, also⟩)) (same_of_runs again also)
    have also := again.permits (present_reads side destination)
    obtain rfl := same_of_runs again also
    have both := List.forall_mem_append.mpr ⟨reads, also⟩
    cases taken with
    | true =>
      rw [given_of_not (by simp)] at moving
      obtain ⟨rfl, -, rfl⟩ := Program.runs_pure.mp moving
      rw [List.append_nil]
      exact .kept (quiet both) rfl
    | false =>
      rw [given_of rfl] at moving
      obtain ⟨outcome, tried, -⟩ := Program.runs_ignore.mp moving
      obtain ⟨rfl, happens⟩ := Program.runs_perform.mp tried
      rw [← List.append_assoc]
      rcases happens_rename happens with ⟨error, rfl, rfl⟩ | ⟨rfl, there, -, free, rfl⟩
      · refine .kept (fun call writes done => ?_) rfl
        rcases done_append.mp done with earlier | now
        · exact quiet both call writes earlier
        · exact not_done_error call now
      · exact .back both there free (by simp)

end Swap

section Elsewhere

variable {side : Side} {destination backup path : Path} {log : Log}

theorem Elsewhere.not_away (elsewhere : Elsewhere side destination backup log) :
    ¬Done log (.rename side destination path) := fun done =>
  ((elsewhere _ done (place destination) (by simp [Call.writes])).1).left List.prefix_rfl

theorem Elsewhere.not_back (elsewhere : Elsewhere side destination backup log) :
    ¬Done log (.rename side path destination) := fun done =>
  ((elsewhere _ done (place destination) (by simp [Call.writes])).1).left List.prefix_rfl

theorem Elsewhere.not_removed (elsewhere : Elsewhere side destination backup log)
    (below : place backup <+: place path) : ¬Removed side path log := by
  rintro (done | done)
  · exact ((elsewhere _ done (place path) (by simp [Call.writes])).2).right below
  · exact ((elsewhere _ done (place path) (by simp [Call.writes])).2).right below

end Elsewhere

/-- A log with a core that says all that happened to the destination and to what was set aside of it. -/
structure Core (side : Side) (destination backup : Path) (core log : Log) : Prop where
  part : ∀ event ∈ core, event ∈ log
  rest : ∀ event ∈ log, event ∈ core ∨ Elsewhere side destination backup [event]

section Core

variable {side : Side} {destination backup path : Path} {core log : Log}

theorem Core.done (whole : Core side destination backup core log) {call : Call Unit}
    (here : ∀ log, Elsewhere side destination backup log → ¬Done log call) : Done log call ↔ Done core call :=
  ⟨fun done => (whole.rest _ done).resolve_right fun apart => here _ apart (by simp [Done]), fun done =>
    whole.part _ done⟩

theorem Core.away (whole : Core side destination backup core log) :
    Done log (.rename side destination path) ↔ Done core (.rename side destination path) :=
  whole.done fun _ elsewhere => elsewhere.not_away

theorem Core.back (whole : Core side destination backup core log) :
    Done log (.rename side path destination) ↔ Done core (.rename side path destination) :=
  whole.done fun _ elsewhere => elsewhere.not_back

theorem Core.removed (whole : Core side destination backup core log) (below : place backup <+: place path) :
    Removed side path log ↔ Removed side path core := by
  refine or_congr (whole.done fun log elsewhere done => ?_) (whole.done fun log elsewhere done => ?_)
  · exact elsewhere.not_removed below (.inl done)
  · exact elsewhere.not_removed below (.inr done)

theorem Core.replaced (whole : Core side destination backup core log) :
    Replaced side destination log ↔ Replaced side destination core :=
  exists_congr fun _ => whole.back

theorem Core.setAside (whole : Core side destination backup core log)
    (only : ∀ path, Done core (.rename side destination path) → path = backup) :
    SetAside side destination log ↔ SetAside side destination core := by
  refine forall_congr' fun path => ?_
  rw [whole.away]
  refine imp_congr_right fun done => ?_
  obtain rfl := only path done
  rw [whole.removed List.prefix_rfl, whole.back]
  refine or_congr_right (and_congr_right fun _ => forall_congr' fun below => ?_)
  exact imp_congr_right fun leads => not_congr (whole.removed leads)

end Core

section Outcomes

variable {side : Side} {destination staging backup : Path} {before middle next last : World}
  {log more removal : Log} {original source : Tree} {error : AppError}

theorem Beside.ne (beside : Beside destination staging backup) :
    destination ≠ backup ∧ destination ≠ staging ∧ staging ≠ backup := by
  refine ⟨?_, ?_, ?_⟩
  · rintro rfl
    exact beside.aside.left List.prefix_rfl
  · rintro rfl
    exact beside.staged.left List.prefix_rfl
  · rintro rfl
    exact beside.between.left List.prefix_rfl

theorem Restored.of_free (restored : Restored side destination backup next last more)
    (free : (next.files side).find (place backup) = none) :
    (∀ call : Call Unit, ¬call.Reads → ¬Done more call) ∧ last = next := by
  cases restored with
  | kept idle same => exact ⟨idle, same⟩
  | back _ there => exact absurd free there

theorem setAside_congr (same : ∀ call : Call Unit, ¬call.Reads → (Done log call ↔ Done more call)) :
    SetAside side destination log ↔ SetAside side destination more := by
  refine forall_congr' fun backup => imp_congr (same _ id) (or_congr ?_ (and_congr (same _ id) ?_))
  · exact or_congr (same _ id) (same _ id)
  · exact forall_congr' fun path => imp_congr_right fun _ => not_congr (or_congr (same _ id) (same _ id))

theorem replaced_congr (same : ∀ call : Call Unit, ¬call.Reads → (Done log call ↔ Done more call)) :
    Replaced side destination log ↔ Replaced side destination more :=
  exists_congr fun _ => same _ id

theorem not_renamed_of_below {here : List (List Char)} {path target : Path}
    (below : ∀ event ∈ log, event.action.RemovesBelow side here) : ¬Done log (.rename side path target) :=
  fun done => below _ done

theorem stays_iff (beside : Beside destination staging backup)
    (swapped : Swapped side destination staging backup before middle log (.error error))
    (there : (before.files side).find (place destination) ≠ none) :
    (middle.files side).tree (place destination) = (before.files side).tree (place destination) ↔
      SetAside side destination log ∨
        (before.files side).tree (place destination) = (before.files side).tree (place staging) ∧
          Replaced side destination log := by
  obtain ⟨apart, other, differ⟩ := beside.ne
  cases swapped with
  | kept _ idle same =>
    subst same
    exact iff_of_true rfl (.inl fun path done => absurd done (idle _))
  | restored _ back gone =>
    refine iff_of_true back (.inl fun path done => .inr ?_)
    obtain rfl : path = backup := by simpa [done_cons, apart] using done
    simp [done_cons, Removed]
  | lost _ again gone moved =>
    refine iff_of_false (fun same => there ?_) ?_
    · simpa [Disk.tree_nil] using (congrFun (gone.symm.trans same) []).symm
    · rintro (settled | ⟨-, path, done⟩)
      · have unsettled := settled backup (by simp [done_cons])
        simp [done_cons, Removed, apart] at unsettled
      · simp [done_cons, apart] at done
  | @discarded removal _ after filled aside pruned below ok =>
    rw [filled]
    constructor
    · intro same
      exact .inr ⟨same.symm, staging, by simp [done_cons]⟩
    · rintro (settled | ⟨same, -⟩)
      · -- What was set aside was neither removed nor put back.
        rcases settled backup (by simp [done_cons]) with removed | ⟨done, -⟩
        · have gone : Removed side backup removal := by simpa [Removed, done_cons] using removed
          cases ok.mpr gone
        · simp [done_cons, apart.symm, differ.symm, not_renamed_of_below below] at done
      · exact same.symm

/-- Where something is put back, the same holds, since what was not removed comes back whole. -/
theorem returns_iff (beside : Beside destination staging backup)
    (swapped : Swapped side destination staging backup before middle log (.error error))
    (there : (before.files side).find (place destination) ≠ none)
    (directory : (before.files side).find (place staging) = some .directory)
    (free : (before.files side).find (place backup) = none)
    (kept : (next.files side).tree (place destination) = (middle.files side).tree (place destination))
    (still : (next.files side).tree (place backup) = (middle.files side).tree (place backup))
    (held : (next.files side).find (place backup) ≠ none)
    (gives : (next.files side).find (place destination) = none ∨
      replaceable (next.files side) backup destination side) :
    (next.files side).tree (place backup) = (before.files side).tree (place destination) ↔
      SetAside side destination (⟨.rename side backup destination, .ok ()⟩ :: log) ∨
        (before.files side).tree (place destination) = (before.files side).tree (place staging) ∧
          Replaced side destination (⟨.rename side backup destination, .ok ()⟩ :: log) := by
  obtain ⟨apart, other, differ⟩ := beside.ne
  have same : (next.files side).find (place backup) = (middle.files side).find (place backup) := by
    simpa [Disk.tree_nil] using congrFun still []
  rw [still]
  rw [same] at held
  cases swapped with
  | kept _ idle same =>
    subst same
    exact absurd free held
  | restored _ back gone => exact absurd gone held
  | lost _ again gone moved =>
    refine iff_of_true moved (.inl fun path done => .inr ?_)
    obtain rfl : path = backup := by simpa [done_cons, apart] using done
    simp [done_cons, Removed]
  | @discarded removal _ after filled aside pruned below ok =>
    have logged : ∀ path, Removed side path removal → Removed side path
        (⟨.rename side backup destination, .ok ()⟩ :: ⟨.rename side destination backup, .ok ()⟩ ::
          ⟨.rename side staging destination, .ok ()⟩ :: removal) := fun path removed => by
      simpa [Removed, done_cons] using removed
    by_cases none : ∀ path, ¬Removed side path removal
    · obtain rfl := pruned.whole none
      refine iff_of_true aside (.inl fun path done => .inr ?_)
      obtain rfl : path = backup := by
        simpa [done_cons, apart, other, not_renamed_of_below below] using done
      exact ⟨by simp [done_cons], fun path _ removed => none path (by simpa [Removed, done_cons] using removed)⟩
    · obtain ⟨path, removed⟩ := not_forall_not.mp none
      obtain ⟨gone, was⟩ := pruned.gone path removed
      have leads : place backup <+: place path := removed.elim (fun done => (below _ done).2)
        fun done => (below _ done).2
      obtain ⟨names, whole⟩ := leads
      rw [← whole] at gone was
      refine iff_of_false (fun same => ?_) ?_
      · -- What was removed was there when it was set aside.
        exact was ((congrFun (aside.trans same.symm) names).trans gone)
      · rintro (settled | ⟨same, -⟩)
        · rcases settled backup (by simp [done_cons]) with cleared | ⟨-, kept⟩
          · cases ok.mpr (by simpa [Removed, done_cons] using cleared)
          · exact kept path ⟨names, whole⟩ (logged path removed)
        · -- An empty directory gave way, but then no entry of the same tree was removed.
          have root : (next.files side).find (place destination) = some .directory := by
            simpa [Disk.tree_nil, directory] using congrFun (kept.trans filled) []
          rcases gives with nothing | gives
          · simp [root] at nothing
          cases side with
          | remote => exact gives
          | own =>
            rw [replaceable] at gives
            split at gives
            · have proper : names ≠ [] := by
                rintro rfl
                exact held (by simpa using gone)
              have absent := gives.2.find proper
              exact was ((congrFun (aside.trans (same.trans (kept.trans filled).symm)) names).trans absent)
            · exact gives root

theorem Swapped.only {result : AppResult Unit}
    (swapped : Swapped side destination staging backup before middle log result)
    (beside : Beside destination staging backup) {path : Path} (done : Done log (.rename side destination path)) :
    path = backup := by
  obtain ⟨apart, other, -⟩ := beside.ne
  cases swapped with
  | kept _ idle => exact absurd done (idle _)
  | restored | lost => simpa [done_cons, apart] using done
  | replaced => simp [done_cons, other] at done
  | discarded _ _ _ _ below => simpa [done_cons, other, not_renamed_of_below below] using done

theorem failed_iff {whole : Log} (beside : Beside destination staging backup)
    (swapped : Swapped side destination staging backup before middle log (.error error))
    (kept : (next.files side).tree (place destination) = (middle.files side).tree (place destination))
    (still : (next.files side).tree (place backup) = (middle.files side).tree (place backup))
    (restored : Restored side destination backup next last more)
    (core : Core side destination backup (log ++ more) whole)
    (there : (before.files side).find (place destination) ≠ none)
    (directory : (before.files side).find (place staging) = some .directory)
    (free : (before.files side).find (place backup) = none) :
    (last.files side).tree (place destination) = (before.files side).tree (place destination) ↔
      SetAside side destination whole ∨
        (before.files side).tree (place destination) = (before.files side).tree (place staging) ∧
          Replaced side destination whole := by
  obtain ⟨apart, -, -⟩ := beside.ne
  have onlyMore : ∀ path, ¬Done more (.rename side destination path) := by
    intro path
    cases restored with
    | kept idle => exact idle _ id
    | @back looks reads =>
      have idle : ∀ call : Call Unit, ¬call.Reads → ¬Done looks call := fun _ => not_done_of_reads reads
      simp [done_append, done_cons, apart, idle (.rename side destination path) id]
  rw [core.setAside fun path done => (done_append.mp done).elim (swapped.only beside)
    fun done => absurd done (onlyMore path), core.replaced]
  cases restored with
  | kept idle same =>
    subst same
    have alike : ∀ call : Call Unit, ¬call.Reads → (Done (log ++ more) call ↔ Done log call) := fun call writes => by
      rw [done_append, or_iff_left (idle call writes)]
    rw [setAside_congr alike, replaced_congr alike, kept]
    exact stays_iff beside swapped there
  | @back looks reads held gives moved =>
    have alike : ∀ call : Call Unit, ¬call.Reads →
        (Done (log ++ (looks ++ [⟨.rename side backup destination, .ok ()⟩])) call ↔
          Done (⟨.rename side backup destination, .ok ()⟩ :: log) call) := fun call writes => by
      simp only [done_append, done_cons, or_iff_right (not_done_of_reads reads writes), not_done_nil, or_false]
      exact or_comm
    rw [setAside_congr alike, replaced_congr alike, moved]
    exact returns_iff beside swapped there directory free kept still held gives

end Outcomes

section Succeeded

variable {side : Side} {destination staging backup : Path} {before middle : World} {log : Log}

theorem Swapped.succeeded (swapped : Swapped side destination staging backup before middle log (.ok ()))
    (beside : Beside destination staging backup) :
    (middle.files side).tree (place destination) = (before.files side).tree (place staging) ∧
      SetAside side destination log := by
  obtain ⟨apart, other, -⟩ := beside.ne
  cases swapped with
  | replaced filled => exact ⟨filled, fun path done => by simp [done_cons, other] at done⟩
  | @discarded removal _ _ filled _ _ below ok =>
    refine ⟨filled, fun path done => .inl ?_⟩
    obtain rfl : path = backup := by simpa [done_cons, other, not_renamed_of_below below] using done
    simpa [Removed, done_cons] using ok.mp rfl

end Succeeded

section Staging

variable {tools : Tools} {before after : World} {log : Log} {archive staging : Path}

theorem find_of_copy {pieces : List (List UInt8)} {content : List UInt8}
    (run : (copy .readArchive (.write archive) pieces).Runs (calls tools) Call.damage before log (.ok ()) after)
    (there : before.remote.find (place archive) = some (.file content)) :
    after.remote.find (place archive) = some (.file (content ++ pieces.flatten)) := by
  -- The induction is on the pieces; each is written after what the file has by then.
  induction pieces generalizing before log content with
  | nil =>
    obtain ⟨_, _, _, _, checked, last, -⟩ := run.bind_ok
    obtain rfl := same_of_reads (.performed checked.perform_ok) trivial
    obtain rfl := same_of_reads (.performed last.perform_ok) trivial
    simpa using there
  | cons piece pieces ih =>
    obtain ⟨_, _, _, _, checked, reading, -⟩ := run.bind_ok
    obtain rfl := same_of_reads (.performed checked.perform_ok) trivial
    obtain ⟨_, _, _, _, read, writing, -⟩ := reading.bind_ok
    obtain rfl := same_of_reads (.performed read.perform_ok) trivial
    obtain ⟨_, _, _, _, wrote, rest, -⟩ := writing.bind_ok
    obtain ⟨had, same, rfl⟩ := run_write.mp wrote.perform_ok
    obtain rfl : had = content := by simpa [there] using same.symm
    have all := @ih _ _ (had ++ piece) rest (by simp)
    simpa using all

theorem tree_of_stageUpload {content : List UInt8} {files : Files}
    (run : (stageUpload archive staging).Runs (calls tools) Call.damage before log (.ok ()) after)
    (held : before.archive = some content) (unpacked : tools.unpack content = some files)
    (apart : Disk.Apart (place archive) (place staging)) :
    after.remote.tree (place staging) = Disk.tree (([], .directory) :: files) [] := by
  -- Each step is taken in turn; what it does to the archive and to what is staged is carried along.
  obtain ⟨pieces, _, _, _, opened, creating, -⟩ := Program.Runs.bind_ok run
  obtain rfl := same_of_reads (.performed opened.perform_ok) trivial
  have read : pieces.flatten = content := by
    have answer := opened.perform_ok
    simp only [calls, Call.perform, held] at answer
    rw [← (Prod.mk.inj (Except.ok.inj answer)).1, tools.whole]
  obtain ⟨_, _, _, _, created, copying, -⟩ := creating.bind_ok
  obtain ⟨-, rfl⟩ := run_createFile.mp created.perform_ok
  obtain ⟨_, _, copied, _, copy, syncing, -⟩ := copying.bind_ok
  have whole := find_of_copy copy (Disk.find_put.trans (if_pos rfl))
  rw [read, List.nil_append] at whole
  obtain ⟨_, _, _, _, synced, making, -⟩ := syncing.bind_ok
  obtain rfl := same_of_reads (.performed synced.perform_ok) trivial
  obtain ⟨_, _, _, _, made, unpacking, -⟩ := making.bind_ok
  obtain ⟨-, rfl⟩ := run_mkdir.mp made.perform_ok
  obtain ⟨_, _, _, _, unpack, checking, -⟩ := unpacking.bind_ok
  obtain ⟨found, entries, there, -, opens, rfl⟩ := run_unpackRemote.mp unpack.perform_ok
  obtain ⟨_, _, _, _, checked, session, -⟩ := checking.bind_ok
  obtain rfl := same_of_reads (.performed checked.perform_ok) trivial
  obtain rfl := same_of_reads (.performed session.perform_ok) trivial
  -- What was unpacked is the archive as it was copied.
  have other : place staging ≠ place archive := fun same => apart.right (same ▸ List.prefix_rfl)
  have same : found = content := by simpa [other, whole] using there.symm
  subst same
  obtain rfl : files = entries := Option.some.inj (unpacked.symm.trans opens)
  simp

end Staging

section Frames

variable {tools : Tools} {side : Side} {destination backup path : Path} {before after : World} {log more : Log}
  {α : Type} {program : Task α} {result : AppResult α}

theorem Elsewhere.nil : Elsewhere side destination backup [] := by simp [Elsewhere]

theorem Elsewhere.append (first : Elsewhere side destination backup log)
    (second : Elsewhere side destination backup more) : Elsewhere side destination backup (log ++ more) :=
  List.forall_mem_append.mpr ⟨first, second⟩

theorem elsewhere_of_reads (reads : ∀ event ∈ log, event.action.Reads) : Elsewhere side destination backup log :=
  fun event member written writes => by
    rw [writes_of_reads (reads event member)] at writes
    cases writes

theorem Elsewhere.cons {β : Type} {action : Call β} {outcome : AppResult β}
    (first : ∀ written ∈ action.writes side, Disk.Apart written (place destination) ∧ Disk.Apart written (place backup))
    (rest : Elsewhere side destination backup log) : Elsewhere side destination backup (⟨action, outcome⟩ :: log) :=
  List.forall_mem_cons.mpr ⟨first, rest⟩

theorem elsewhere_of_below {here : List (List Char)} (below : ∀ event ∈ log, event.action.RemovesBelow side here)
    (apart : Disk.Apart here (place destination)) (aside : Disk.Apart here (place backup)) :
    Elsewhere side destination backup log := fun event member written writes => by
  obtain ⟨names, rfl⟩ := writes_of_below (below event member) written writes
  exact ⟨apart.append, aside.append⟩

theorem Elsewhere.same (elsewhere : Elsewhere side destination backup log)
    (run : program.Runs (calls tools) Call.damage before log result after) :
    (after.files side).tree (place destination) = (before.files side).tree (place destination) ∧
      (after.files side).tree (place backup) = (before.files side).tree (place backup) :=
  ⟨tree_of_runs run fun event member written writes => (elsewhere event member written writes).1,
    tree_of_runs run fun event member written writes => (elsewhere event member written writes).2⟩

theorem Elsewhere.mem (elsewhere : Elsewhere side destination backup log) {event : Event Call AppError}
    (member : event ∈ log) : Elsewhere side destination backup [event] := by
  simpa [Elsewhere] using elsewhere event member

theorem Elsewhere.setAside (elsewhere : Elsewhere side destination backup log) : SetAside side destination log :=
  fun _ done => absurd done elsewhere.not_away

end Frames

section Work

variable {tools : Tools} {side : Side} {destination staging backup : Path} {before middle after : World}
  {source : Tree} {log more : Log} {error : AppError}

theorem Core.of_elsewhere {before core between more after : Log}
    (first : Elsewhere side destination backup before) (middle : Elsewhere side destination backup between)
    (last : Elsewhere side destination backup after) :
    Core side destination backup (core ++ more) (before ++ (core ++ (between ++ (more ++ after)))) where
  part event member := by
    simp only [List.mem_append] at member ⊢
    tauto
  rest event member := by
    simp only [List.mem_append] at member ⊢
    rcases member with here | here | here | here | here
    · exact .inr (first.mem here)
    · exact .inl (.inl here)
    · exact .inr (middle.mem here)
    · exact .inl (.inr here)
    · exact .inr (last.mem here)

/-- What came of the part of a transfer that works beside its destination. -/
inductive Worked (side : Side) (destination staging backup : Path) (source : Tree) (before after : World) :
    Log → AppResult Unit → Prop
  /-- It did not come as far as the swap. -/
  | stopped {log : Log} (error : AppError) (elsewhere : Elsewhere side destination backup log)
      (kept : (after.files side).tree (place destination) = (before.files side).tree (place destination))
      (empty : (after.files side).find (place backup) = none) :
      Worked side destination staging backup source before after log (.error error)
  /-- The source was staged, and the swap decided. -/
  | swapped {stages swaps rest : Log} {staged swapped : World} {outcome : AppResult Unit}
      (first : Elsewhere side destination backup stages) (last : Elsewhere side destination backup rest)
      (kept : (staged.files side).tree (place destination) = (before.files side).tree (place destination))
      (empty : (staged.files side).find (place backup) = none)
      (filled : (staged.files side).tree (place staging) = source)
      (swap : Swapped side destination staging backup staged swapped swaps outcome)
      (same : (after.files side).tree (place destination) = (swapped.files side).tree (place destination))
      (still : (after.files side).tree (place backup) = (swapped.files side).tree (place backup)) :
      Worked side destination staging backup source before after (stages ++ (swaps ++ rest)) outcome

variable {result : AppResult Unit}

theorem Worked.append (elsewhere : Elsewhere side destination backup more)
    (worked : Worked side destination staging backup source middle after log result)
    (kept : (middle.files side).tree (place destination) = (before.files side).tree (place destination)) :
    Worked side destination staging backup source before after (more ++ log) result := by
  cases worked with
  | stopped error other same empty => exact .stopped error (elsewhere.append other) (same.trans kept) empty
  | swapped first last same empty filled swap moved still =>
    rw [← List.append_assoc]
    exact .swapped (elsewhere.append first) last (same.trans kept) empty filled swap moved still

/-- What came of clearing up, after which what was set aside may be put back. -/
inductive Cleaned (side : Side) (destination backup : Path) (before after : World) : Log → Prop
  | mk {cleared returned : Log} {next : World} (clears : Elsewhere side destination backup cleared)
      (kept : (next.files side).tree (place destination) = (before.files side).tree (place destination))
      (still : (next.files side).tree (place backup) = (before.files side).tree (place backup))
      (restored : Restored side destination backup next after returned) :
      Cleaned side destination backup before after (cleared ++ returned)

theorem Worked.succeeded (worked : Worked side destination staging backup source before after log (.ok ()))
    (beside : Beside destination staging backup) :
    (after.files side).tree (place destination) = source ∧ SetAside side destination log := by
  cases worked with
  | @swapped stages swaps rest staged swapped _ first last kept empty filled swap same still =>
    obtain ⟨moved, settled⟩ := swap.succeeded beside
    have core : Core side destination backup swaps (stages ++ (swaps ++ rest)) := by
      simpa using @Core.of_elsewhere side destination backup stages swaps [] [] rest first .nil last
    exact ⟨same.trans (moved.trans filled), (core.setAside fun path done => swap.only beside done).mpr settled⟩

theorem Worked.failed (worked : Worked side destination staging backup source before middle log (.error error))
    (cleaned : Cleaned side destination backup middle after more) (beside : Beside destination staging backup)
    (directory : source [] = some .directory) (there : (before.files side).find (place destination) ≠ none) :
    (after.files side).tree (place destination) = (before.files side).tree (place destination) ↔
      Balanced side destination source before (log ++ more) := by
  obtain @⟨cleared, returned, next, clears, keptNext, stillNext, restored⟩ := cleaned
  cases worked with
  | stopped _ first kept empty =>
    -- Nothing came as far as the swap, so there is nothing to put back.
    have bare : (next.files side).find (place backup) = none := by
      simpa [Disk.tree_nil, empty] using congrFun stillNext []
    obtain ⟨idle, rfl⟩ := restored.of_free bare
    refine iff_of_true (keptNext.trans kept) (.inl fun path done => ?_)
    rcases done_append.mp done with made | more
    · exact absurd made first.not_away
    · exact absurd more fun done => (done_append.mp done).elim clears.not_away (idle _ id)
  | @swapped stages swaps rest staged swapped _ first last kept empty filled swap same still =>
    have core := @Core.of_elsewhere side destination backup stages swaps (rest ++ cleared) returned [] first
      (last.append clears) .nil
    have present : (staged.files side).find (place destination) ≠ none := by
      rwa [← Disk.tree_nil, kept, Disk.tree_nil]
    have root : (staged.files side).find (place staging) = some .directory := by
      rw [← Disk.tree_nil, filled, directory]
    have whole := failed_iff beside swap (keptNext.trans same) (stillNext.trans still) restored core
      present root empty
    simp only [kept, filled, List.append_assoc, List.append_nil] at whole
    simp only [Balanced, List.append_assoc]
    exact whole

theorem free_of_elsewhere {α : Type} {program : Task α} {result : AppResult α}
    (elsewhere : Elsewhere side destination backup log)
    (run : program.Runs (calls tools) Call.damage before log result after)
    (free : (before.files side).find (place backup) = none) : (after.files side).find (place backup) = none := by
  simpa [Disk.tree_nil, free] using congrFun (elsewhere.same run).2 []

theorem cleaned_of_runs {program : Task Unit}
    (run : (program >>= fun _ => restore side destination backup).Runs (calls tools) Call.damage before log
      result after) (clears : ∀ {log result after}, program.Runs (calls tools) Call.damage before log result after →
      Elsewhere side destination backup log) : Cleaned side destination backup before after log := by
  rcases Program.runs_bind.mp run with ⟨error, clear, -⟩ | ⟨_, cleared, next, returned, clear, restoring, rfl⟩
  · obtain ⟨kept, still⟩ := (clears clear).same clear
    have none : Restored side destination backup after after [] := .kept (fun _ _ => not_done_nil) rfl
    simpa using Cleaned.mk (clears clear) kept still none
  · obtain ⟨kept, still⟩ := (clears clear).same clear
    exact .mk (clears clear) kept still (restore_cases restoring)

theorem runs_of_failed {β : Type} {clean : Task Unit} {result : AppResult β} {following : Unit → Task β}
    (run : (given ((Except.error error : AppResult Unit).isOk = false) clean >>= following).Runs (calls tools)
      Call.damage before log result after)
    (fails : ∀ {world log result after}, (following ()).Runs (calls tools) Call.damage world log result after →
      log = [] ∧ result = .error error ∧ after = world) :
    (∃ again, result = .error again) ∧ ∃ outcome, clean.Runs (calls tools) Call.damage before log outcome after := by
  rcases Program.runs_bind.mp run with ⟨again, cleaning, same⟩ | ⟨_, _, _, _, cleaning, ending, rfl⟩
  · exact ⟨⟨again, same⟩, _, cleaning⟩
  · obtain ⟨rfl, same, rfl⟩ := fails ending
    rw [List.append_nil]
    exact ⟨⟨error, same⟩, _, cleaning⟩

end Work

section Upload

variable {tools : Tools} {raw : Path → AppResult Path} {depth : Nat} {identifier : Uuid}
  {destination archive staging backup : Path} {before after : World} {log : Log}

structure UploadBeside (destination archive staging backup : Path) : Prop extends
    Beside destination staging backup where
  packed : Disk.Apart (place archive) (place destination)
  spare : Disk.Apart (place archive) (place backup)
  other : Disk.Apart (place archive) (place staging)

def Call.Stages (side : Side) (archive staging : Path) : {β : Type} → Call β → Prop
  | _, .mkdir other path => other = side ∧ path = staging
  | _, .createFile path | _, .write path _ => path = archive
  | _, .unpackRemote _ path | _, .unpackOwn path => path = staging
  | _, action => action.Reads

theorem writes_of_stages {side : Side} {β : Type} {action : Call β} (stages : action.Stages side archive staging) :
    ∀ written ∈ action.writes side, written = place archive ∨ written = place staging := by
  intro written writes
  cases action <;> first
    | exact stages.elim
    | exact absurd writes List.not_mem_nil
    | simp_all [Call.writes, Call.Stages]

theorem stageUpload_stages :
    (stageUpload archive staging).Only fun _ action => action.Stages .remote archive staging :=
  .perform_bind trivial fun pieces => .perform_bind rfl fun _ =>
    (copy_only trivial trivial (fun _ => rfl) pieces).bind fun _ => .perform_bind trivial fun _ =>
    .perform_bind ⟨rfl, rfl⟩ fun _ => .perform_bind rfl fun _ => .perform_bind trivial fun _ => .perform trivial

variable {result : AppResult Unit}

theorem stageUpload_elsewhere (beside : UploadBeside destination archive staging backup)
    (run : (stageUpload archive staging).Runs (calls tools) Call.damage before log result after) :
    Elsewhere .remote destination backup log := fun event member written writes => by
  rcases writes_of_stages (run.permits stageUpload_stages event member) written writes with rfl | rfl
  · exact ⟨beside.packed, beside.spare⟩
  · exact ⟨beside.staged.symm, beside.between⟩

theorem clearUpload_below
    (run : (clearUpload depth archive staging).Runs (calls tools) Call.damage before log result after) :
    ∀ event ∈ log, event.action.RemovesBelow .remote (place archive) ∨
      event.action.RemovesBelow .remote (place staging) := by
  rcases Program.Runs.perform_bind run with ⟨error, -, rfl, -⟩ | ⟨_, middle, rest, -, clearing, rfl⟩
  · exact List.forall_mem_singleton.mpr (.inl trivial)
  refine List.forall_mem_cons.mpr ⟨.inl trivial, ?_⟩
  obtain ⟨tried, _, _, rest, unlink, looking, rfl⟩ := clearing.ignore_bind
  obtain ⟨rfl, -⟩ := Program.runs_perform.mp unlink
  refine List.forall_mem_cons.mpr ⟨.inl ⟨rfl, List.prefix_rfl⟩, ?_⟩
  change ∀ event ∈ rest, _
  rcases looking.after (present_reads .remote staging) with ⟨-, reads⟩ | ⟨staged, looks, _, last, -, reads, emptying, rfl⟩
  · exact fun event member => .inl (removesBelow_of_reads (reads event member))
  refine List.forall_mem_append.mpr ⟨fun event member => .inl (removesBelow_of_reads (reads event member)), ?_⟩
  cases staged with
  | false =>
    obtain ⟨rfl, -⟩ := Program.runs_pure.mp emptying
    simp
  | true =>
    obtain ⟨_, emptied, -⟩ := Program.runs_ignore.mp emptying
    exact fun event member => .inr (deleteRecursive_below emptied event member)

theorem clearUpload_elsewhere (beside : UploadBeside destination archive staging backup)
    (run : (clearUpload depth archive staging).Runs (calls tools) Call.damage before log result after) :
    Elsewhere .remote destination backup log := fun event member written writes => by
  rcases clearUpload_below run event member with below | below
  · obtain ⟨names, rfl⟩ := writes_of_below below written writes
    exact ⟨beside.packed.append, beside.spare.append⟩
  · obtain ⟨names, rfl⟩ := writes_of_below below written writes
    exact ⟨beside.staged.symm.append, beside.between.append⟩

theorem cleanUpload_cleaned (beside : UploadBeside destination archive staging backup)
    (run : (cleanUpload depth destination archive staging backup).Runs (calls tools) Call.damage
      before log result after) : Cleaned .remote destination backup before after log :=
  cleaned_of_runs run fun clear => clearUpload_elsewhere beside clear

theorem discards_deleteRecursive {side : Side} {path : Path} : Discards side path (deleteRecursive side depth path) :=
  ⟨deleteRecursive_below, deleteRecursive_ok⟩

variable {overwriteExisting : Bool}

theorem uploadBeside_worked {result : AppResult Path} {content : List UInt8}
    {files : Files} (beside : UploadBeside destination archive staging backup)
    (run : (uploadBeside depth destination archive staging backup overwriteExisting).Runs (calls tools) Call.damage
      before log result after) (held : before.archive = some content) (unpacked : tools.unpack content = some files)
    (free : before.remote.find (place backup) = none) :
    ∃ outcome : AppResult Unit, result = outcome.map (fun _ => destination) ∧
      Worked .remote destination staging backup (Disk.tree (([], .directory) :: files) []) before after log
        outcome := by
  rcases Program.runs_bind.mp run with ⟨error, stage, rfl⟩ | ⟨_, stages, staged, rest, stage, swapping, rfl⟩
  · have elsewhere := stageUpload_elsewhere beside stage
    exact ⟨.error error, rfl, .stopped error elsewhere (elsewhere.same stage).1 (free_of_elsewhere elsewhere stage free)⟩
  have elsewhere := stageUpload_elsewhere beside stage
  have kept := (elsewhere.same stage).1
  have empty := free_of_elsewhere elsewhere stage free
  have filled := tree_of_stageUpload stage held unpacked beside.other
  rcases Program.runs_bind.mp swapping with ⟨error, swap, rfl⟩ | ⟨_, swaps, swapped, last, swap, unlinking, rfl⟩
  · have worked := Worked.swapped elsewhere .nil kept empty filled
      (swap_cases swap discards_deleteRecursive beside.toBeside empty) rfl rfl
    exact ⟨.error error, rfl, by simpa using worked⟩
  · obtain ⟨tried, _, _, rest, unlink, done, rfl⟩ := unlinking.ignore_bind
    obtain ⟨rfl, -⟩ := Program.runs_perform.mp unlink
    obtain ⟨rfl, rfl, rfl⟩ := Program.runs_pure.mp done
    have away : Elsewhere .remote destination backup [⟨.unlink .remote archive, tried⟩] :=
      .cons (by simpa [Call.writes] using ⟨beside.packed, beside.spare⟩) .nil
    obtain ⟨same, still⟩ := away.same unlink
    exact ⟨.ok (), rfl, .swapped elsewhere away kept empty filled
      (swap_cases swap discards_deleteRecursive beside.toBeside empty) same still⟩

theorem uploadTo_iff {result : AppResult Path} {content : List UInt8}
    {files : Files} {directory : Path} (beside : UploadBeside destination archive staging backup)
    (run : (uploadTo raw depth identifier destination overwriteExisting).Runs (calls tools) Call.damage
      before log result after) (parentOk : remoteParentPath raw destination = .ok directory)
    (archiveOk : remoteChildPath raw directory (archiveName identifier) = .ok archive)
    (stagingOk : remoteChildPath raw directory (stagingName identifier) = .ok staging)
    (backupOk : remoteChildPath raw directory (backupName identifier) = .ok backup)
    (held : before.archive = some content) (unpacked : tools.unpack content = some files)
    (there : before.remote.find (place destination) ≠ none) (free : before.remote.find (place backup) = none) :
    AllOrNothing .remote destination (Disk.tree (([], .directory) :: files) []) before after result ↔
      Balanced .remote destination (Disk.tree (([], .directory) :: files) []) before log := by
  replace run := (((Program.Runs.of_lift run parentOk).of_lift archiveOk).of_lift stagingOk).of_lift backupOk
  obtain ⟨transferred, made, middle, rest, work, cleaning, rfl⟩ := run.caught_then
  obtain ⟨outcome, rfl, worked⟩ := uploadBeside_worked beside work held unpacked free
  cases outcome with
  | ok _ =>
    obtain ⟨rfl, rfl, rfl⟩ := Program.runs_lift.mp cleaning
    rw [List.append_nil]
    obtain ⟨same, settled⟩ := worked.succeeded beside.toBeside
    exact iff_of_true same (.inl settled)
  | error error =>
    obtain ⟨⟨again, rfl⟩, outcome, clean⟩ := runs_of_failed cleaning Program.runs_lift.mp
    exact worked.failed (cleanUpload_cleaned beside clean) beside.toBeside
      (by rw [Disk.tree_nil, Disk.find_cons, if_pos rfl]) there

end Upload

section Download

variable {tools : Tools} {depth : Nat} {identifier : Uuid} {destination staging backup directory : Path}
  {before after : World} {log : Log} {content : List UInt8} {files : Files}

theorem discards_removeLocalPath {path : Path} : Discards .own path (removeLocalPath depth path) := by
  constructor
  · intro tools before log result after run
    rcases run.after (isDir_reads path) with ⟨-, reads⟩ | ⟨directory, first, _, rest, -, reads, removing, rfl⟩
    · exact fun event member => removesBelow_of_reads (reads event member)
    · refine List.forall_mem_append.mpr ⟨fun event member => removesBelow_of_reads (reads event member), ?_⟩
      split at removing
      · exact deleteRecursive_below removing
      · obtain ⟨rfl, -⟩ := Program.runs_perform.mp removing
        simp [Call.RemovesBelow]
  · intro tools before log result after run
    rcases Program.runs_bind.mp run with ⟨error, look, rfl⟩ | ⟨directory, first, _, rest, look, removing, rfl⟩
    · simp [not_removed_of_reads (look.permits (isDir_reads path))]
    · rw [removed_append, or_iff_right (not_removed_of_reads (look.permits (isDir_reads path)))]
      split at removing
      · exact deleteRecursive_ok removing
      · obtain ⟨rfl, -⟩ := Program.runs_perform.mp removing
        simp [Removed, done_cons]

variable {overwriteExisting : Bool}

theorem extractBeside_worked {result : AppResult Unit} (beside : Beside destination staging backup)
    (run : (extractBeside depth destination staging backup overwriteExisting).Runs (calls tools) Call.damage
      before log result after) (held : before.archive = some content) (unpacked : tools.unpack content = some files)
    (free : before.own.find (place backup) = none) :
    Worked .own destination staging backup (Disk.tree (([], .directory) :: files) []) before after log result := by
  have away : ∀ outcome : AppResult Unit, Elsewhere .own destination backup [⟨.unpackOwn staging, outcome⟩] :=
    fun outcome => .cons (by simpa [Call.writes] using ⟨beside.staged.symm, beside.between⟩) .nil
  rcases Program.runs_bind.mp run with ⟨error, unpack, rfl⟩ | ⟨_, first, opened, rest, unpack, checking, rfl⟩
  · obtain ⟨rfl, -⟩ := Program.runs_perform.mp unpack
    exact .stopped error (away _) ((away _).same unpack).1 (free_of_elsewhere (away _) unpack free)
  obtain ⟨entries, archive, there, -, opens, same⟩ := run_unpackOwn.mp unpack.perform_ok
  obtain ⟨rfl, -⟩ := Program.runs_perform.mp unpack
  have kept := ((away _).same unpack).1
  have empty := free_of_elsewhere (away _) unpack free
  have filled : (opened.files .own).tree (place staging) = Disk.tree (([], .directory) :: files) [] := by
    obtain rfl := Option.some.inj (held.symm.trans there)
    obtain rfl := Option.some.inj (unpacked.symm.trans opens)
    simp [same]
  rcases Program.runs_bind.mp checking with ⟨error, check, rfl⟩ | ⟨_, checks, checked, last, check, swapping, rfl⟩
  · obtain ⟨rfl, happens⟩ := Program.runs_perform.mp check
    obtain rfl := same_of_reads happens trivial
    exact .stopped error ((away _).append (elsewhere_of_reads (by simp))) kept empty
  · obtain ⟨rfl, happens⟩ := Program.runs_perform.mp check
    obtain rfl := same_of_reads happens trivial
    have worked := Worked.swapped ((away (.ok ())).append (@elsewhere_of_reads .own destination backup
      [⟨.checkCancelled, .ok ()⟩] (by simp))) .nil kept empty filled (swap_cases swapping discards_removeLocalPath beside empty) rfl rfl
    simpa using worked

theorem downloadTo_iff {result : AppResult Path}
    (run : (downloadTo depth identifier destination overwriteExisting).Runs (calls tools) Call.damage
      before log result after) (parentOk : parent destination = some directory)
    (beside : Beside destination (join directory (stagingName identifier)) (join directory (backupName identifier)))
    (held : before.archive = some content) (unpacked : tools.unpack content = some files)
    (there : before.own.find (place destination) ≠ none)
    (free : before.own.find (place (join directory (backupName identifier))) = none) :
    AllOrNothing .own destination (Disk.tree (([], .directory) :: files) []) before after result ↔
      Balanced .own destination (Disk.tree (([], .directory) :: files) []) before log := by
  rw [downloadTo, parentOk] at run
  have away : ∀ outcome : AppResult Unit, Elsewhere .own destination (join directory (backupName identifier))
      [⟨.mkdir .own (join directory (stagingName identifier)), outcome⟩] :=
    fun outcome => .cons (by simpa [Call.writes] using ⟨beside.staged.symm, beside.between⟩) .nil
  rcases run.lift_bind with ⟨error, differ, -⟩ | ⟨_, found, making⟩
  · cases differ
  obtain rfl := Except.ok.inj found
  rcases making.perform_bind with ⟨error, happens, rfl, rfl⟩ | ⟨_, made, rest, happens, working, rfl⟩
  · exact iff_of_true ((away _).same (Program.runs_perform.mpr ⟨rfl, happens⟩)).1 (.inl (away _).setAside)
  have mkdir := Program.runs_perform.mpr ⟨rfl, happens⟩
  have kept := ((away _).same mkdir).1
  have sameArchive : made.archive = before.archive := by
    cases happens with
    | performed ran =>
      obtain ⟨-, rfl⟩ := run_mkdir.mp ran
      simp
  obtain ⟨outcome, work, middle, rest, extract, cleaning, rfl⟩ := working.caught_then
  have worked := (extractBeside_worked beside extract (sameArchive.trans held) unpacked
    (free_of_elsewhere (away _) mkdir free)).append (away (.ok ())) kept
  rw [← List.cons_append]
  cases outcome with
  | ok _ =>
    obtain ⟨rfl, rfl, rfl⟩ := Program.runs_pure.mp cleaning
    rw [List.append_nil]
    obtain ⟨same, settled⟩ := worked.succeeded beside
    exact iff_of_true same (.inl settled)
  | error error =>
    obtain ⟨⟨again, rfl⟩, outcome, clean⟩ := runs_of_failed cleaning Program.runs_done.mp
    refine worked.failed (cleaned_of_runs clean fun clear => ?_) beside
      (by rw [Disk.tree_nil, Disk.find_cons, if_pos rfl]) there
    obtain ⟨_, removal, -⟩ := Program.runs_ignore.mp clear
    exact elsewhere_of_below (deleteRecursive_below removal) beside.staged.symm beside.between

end Download

end Sftp

end CNShell
