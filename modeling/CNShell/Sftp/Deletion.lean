import CNShell.Sftp.Footprints

/-! The removal of what a remote path names, and the paths that are refused. -/

namespace CNShell

namespace Sftp

open Client (AppError AppResult)
open Program (perform lift)

/-- The paths that are never removed, compared by their names. -/
def forbiddenPaths : List Path := [['/'], ['/', '.'], ['/', '.', '.']]

/-- Whether what a path names may be removed. -/
def validateDeletablePath (path : Path) : AppResult Unit := do
  let decoded ← remotePath rawPath path
  ensure (components decoded ∉ forbiddenPaths.map components) (.validation "禁止删除远端根目录")

/-- The removal of what a path names. -/
def delete (depth : Nat) (path : Path) (recursive : Bool) : Task Unit := do
  lift (validateDeletablePath path)
  perform .sftp
  let decoded ← lift (remotePath rawPath path)
  let kind ← perform (.lstat .remote decoded)
  if kind = .directory then
    if recursive = true then deleteRecursive .remote depth decoded else perform (.rmdir .remote decoded)
  else perform (.unlink .remote decoded)

/-- The names up to the entry that a path names before it leads back up. -/
def named (path : Path) : List (List Char) := (components path).rdropWhile fun name => name = ['.', '.']

/-- A place is the root, or a directory that the entry named by a path lies in. -/
def Wider (path : Path) (here : List (List Char)) : Prop :=
  here = [] ∨ here <+: place (absolute (named path)) ∧ here ≠ place (absolute (named path))

inductive Removes (path : Path) : Event Call AppError → Prop
  | unlink (outcome : AppResult Unit) : Removes path ⟨.unlink .remote path, outcome⟩
  | rmdir (outcome : AppResult Unit) : Removes path ⟨.rmdir .remote path, outcome⟩

section Resolution

variable {path : Path} {names : List (List Char)}

/-- Where names lead from a place. -/
def resolve (start names : List (List Char)) : List (List Char) :=
  names.foldl (fun names name => if name = ['.', '.'] then names.dropLast else names ++ [name]) start

theorem resolve_up (up : ∀ name ∈ names, name = ['.', '.']) (some_names : names ≠ [])
    (start : List (List Char)) : resolve start names <+: start ∧ (start ≠ [] → resolve start names ≠ start) := by
  -- The induction takes the names from the end; each of them takes one name away.
  induction names using List.reverseRecOn with
  | nil => exact absurd rfl some_names
  | append_singleton names last ih =>
    obtain ⟨before, only⟩ := List.forall_mem_append.mp up
    obtain rfl := only last List.mem_cons_self
    have same : resolve start (names ++ [['.', '.']]) = (resolve start names).dropLast := by
      simp [resolve, List.foldl_append]
    have leads : resolve start names <+: start := by
      by_cases none : names = []
      · subst none
        exact List.prefix_rfl
      · exact (ih before none).1
    rw [same]
    refine ⟨(List.dropLast_prefix _).trans leads, fun filled fixed => ?_⟩
    have size := leads.length_le
    have shorter := congrArg List.length fixed
    rw [List.length_dropLast] at shorter
    have positive := List.length_pos_iff.mpr filled
    omega

theorem place_eq_resolve (path : Path) :
    place path = resolve (place (absolute (named path)))
      ((components path).rtakeWhile fun name => name = ['.', '.']) := by
  have whole : ∀ name ∈ named path, '/' ∉ name ∧ name ≠ [] ∧ name ≠ ['.'] := fun name member =>
    whole_of_mem_components ((List.rdropWhile_prefix _ _).subset member)
  rw [place, place, components_absolute_of_whole whole, resolve, ← List.foldl_append, named,
    List.rdropWhile_append_rtakeWhile]

theorem wider_of_up (up : (components path).getLast? = some ['.', '.']) : Wider path (place path) := by
  have filled : (components path).rtakeWhile (fun name => decide (name = ['.', '.'])) ≠ [] := by
    intro none
    obtain ⟨last, found⟩ := List.getLast?_eq_some_iff.mp up
    rw [found, List.rtakeWhile_concat_pos _ _ _ (by simp)] at none
    simp at none
  have all : ∀ name ∈ (components path).rtakeWhile (fun name => decide (name = ['.', '.'])), name = ['.', '.'] :=
    fun name member => by simpa using List.mem_rtakeWhile_imp member
  obtain ⟨leads, shorter⟩ := resolve_up all filled (place (absolute (named path)))
  rw [← place_eq_resolve] at leads shorter
  by_cases root : place (absolute (named path)) = []
  · rw [root] at leads
    exact .inl (List.prefix_nil.mp leads)
  · exact .inr ⟨leads, shorter root⟩

theorem not_wider_of_forward {last : List Char} (ends : (components path).getLast? = some last)
    (forward : last ≠ ['.', '.']) {here : List (List Char)} (below : place path <+: here) : ¬Wider path here := by
  obtain ⟨front, names⟩ := List.getLast?_eq_some_iff.mp ends
  have same : named path = components path := by
    rw [named, names]
    exact List.rdropWhile_concat_neg _ _ _ (by simpa using forward)
  have here_named : place (absolute (named path)) = place path := by
    apply place_congr
    rw [components_absolute_of_whole (same ▸ fun name => whole_of_mem_components), same]
  have filled : place path ≠ [] := by
    rw [place, names]
    simp [forward]
  rintro (rfl | ⟨leads, differ⟩)
  · exact filled (List.prefix_nil.mp below)
  · rw [here_named] at leads differ
    exact differ (leads.eq_of_length_le below.length_le)

end Resolution

section Runs

variable {tools : Tools} {path decoded : Path} {before after : World} {log : Log}

theorem delete_below {depth : Nat} {recursive : Bool} {result : AppResult Unit}
    (found : remotePath rawPath path = .ok decoded)
    (run : (delete depth path recursive).Runs (calls tools) Call.damage before log result after) :
    ∀ event ∈ log, event.action.RemovesBelow .remote (place decoded) := by
  rw [delete] at run
  rcases run.lift_bind with ⟨error, -, rfl, -, -⟩ | ⟨_, -, opening⟩
  · simp
  rcases opening.perform_bind with ⟨error, -, rfl, -⟩ | ⟨_, there, rest, -, known, rfl⟩
  · simp [Call.RemovesBelow, Call.Reads]
  refine List.forall_mem_cons.mpr ⟨trivial, ?_⟩
  rw [found] at known
  rcases known.lift_bind with ⟨error, failed, -⟩ | ⟨_, same, looked⟩
  · cases failed
  obtain rfl := Except.ok.inj same
  rcases looked.perform_bind with ⟨error, -, rfl, -⟩ | ⟨kind, middle, later, -, removed, rfl⟩
  · simp [Call.RemovesBelow, Call.Reads]
  refine List.forall_mem_cons.mpr ⟨trivial, ?_⟩
  split_ifs at removed
  · exact deleteRecursive_below removed
  · obtain ⟨rfl, -⟩ := Program.runs_perform.mp removed
    simp [Call.RemovesBelow]
  · obtain ⟨rfl, -⟩ := Program.runs_perform.mp removed
    simp [Call.RemovesBelow]

def emptyDirectory (path : Path) : World := ⟨[], [(place path, .directory)], none⟩

theorem delete_removes (tools : Tools) (found : remotePath rawPath path = .ok decoded)
    (accepted : validateDeletablePath path = .ok ()) :
    ∃ log after, (delete 1 path true).Runs (calls tools) Call.damage (emptyDirectory decoded) log (.ok ()) after ∧
      ⟨.rmdir .remote decoded, .ok ()⟩ ∈ log := by
  have here : (emptyDirectory decoded).remote.find (place decoded) = some .directory := by
    simp [emptyDirectory, Disk.find_cons]
  have looked : (calls tools).run (.lstat .remote decoded) (emptyDirectory decoded) =
      .ok (.directory, emptyDirectory decoded) := by
    simp [calls, Call.perform, World.files, here, Node.kind]
  have listed : (calls tools).run (.readdir .remote decoded) (emptyDirectory decoded) =
      .ok ([], emptyDirectory decoded) := by
    have none : Disk.children (emptyDirectory decoded).remote (place decoded) = [] := by
      simp only [emptyDirectory, Disk.children, List.filterMap_cons, List.prefix_rfl, if_true, List.drop_length]
      rfl
    simp [calls, Call.perform, World.files, none]
  have bare : (emptyDirectory decoded).remote.Bare (place decoded) := by simp [emptyDirectory, Disk.Bare]
  have removed := (@run_rmdir tools .remote (emptyDirectory decoded) _ decoded ()).mpr ⟨⟨here, bare⟩, rfl⟩
  -- The calls in order: the connection, the kind of what is there, and then its removal as a directory.
  refine ⟨[⟨.sftp, .ok ()⟩, ⟨.lstat .remote decoded, .ok .directory⟩, ⟨.lstat .remote decoded, .ok .directory⟩,
    ⟨.readdir .remote decoded, .ok []⟩, ⟨.rmdir .remote decoded, .ok ()⟩],
    (emptyDirectory decoded).setFiles .remote ((emptyDirectory decoded).remote.erase (place decoded)), ?_, by simp⟩
  rw [delete, accepted, found]
  exact .step (.performed rfl) (.step (.performed looked) (.step (.performed looked)
    (.step (.performed listed) (.step (.performed removed) (.done _ _)))))

/--
No removal of what an accepted path names ever tries to remove the root or a directory that the entry lies in, exactly
when the path does not end by leading back up.
-/
theorem delete_spares_iff (tools : Tools) (found : remotePath rawPath path = .ok decoded)
    (accepted : validateDeletablePath path = .ok ()) :
    (∀ {depth recursive before log result after},
      (delete depth path recursive).Runs (calls tools) Call.damage before log result after →
        ∀ event ∈ log, ∀ target, Removes target event → ¬Wider decoded (place target)) ↔
      (components decoded).getLast? ≠ some ['.', '.'] := by
  constructor
  · intro spares up
    obtain ⟨log, after, run, member⟩ := delete_removes tools found accepted
    exact spares run _ member decoded (.rmdir _) (wider_of_up up)
  · intro forward depth recursive before log result after run event member target removes
    have below : place decoded <+: place target := by
      have inside := delete_below found run event member
      cases removes <;> exact inside.2
    cases ends : (components decoded).getLast? with
    | none =>
      -- The root itself is refused.
      have none := List.getLast?_eq_none_iff.mp ends
      rw [validateDeletablePath, found] at accepted
      have refused := ensure_eq_ok.mp accepted
      rw [none] at refused
      exact absurd (List.mem_cons_self : [] ∈ forbiddenPaths.map components) refused
    | some last => exact not_wider_of_forward ends (fun same => forward (same ▸ ends)) below

end Runs

namespace Demo

def throughTmp : Path := ['/', 't', 'm', 'p', '/', '.', '.']

/-- The path is no forbidden one, and what is removed is the root. -/
theorem root_removed : ¬∀ (tools : Tools) (path decoded : Path), remotePath rawPath path = .ok decoded →
    validateDeletablePath path = .ok () → ∀ {depth recursive before log result after},
      (delete depth path recursive).Runs (calls tools) Call.damage before log result after →
        ∀ event ∈ log, ∀ target, Removes target event → ¬Wider decoded (place target) := by
  intro always
  have found : remotePath rawPath throughTmp = .ok throughTmp := by decide
  have accepted : validateDeletablePath throughTmp = .ok () := by decide
  let tools : Tools := ⟨fun _ => [], fun _ => none, fun content => [content], fun _ => by simp⟩
  obtain ⟨log, after, run, member⟩ := delete_removes tools found accepted
  exact always tools throughTmp throughTmp found accepted run _ member throughTmp (.rmdir _) (.inl (by decide))

def backOnTheWay : Path := ['/', 't', 'm', 'p', '/', '.', '.', '/', 'a', '/']

/-- It is accepted, and what it names is the only thing that is removed. -/
theorem entry_removed : validateDeletablePath backOnTheWay = .ok () ∧
    ∀ {depth recursive before log result after}, (delete depth backOnTheWay recursive).Runs
      (calls ⟨fun _ => [], fun _ => none, fun content => [content], fun _ => by simp⟩) Call.damage before log result
        after →
      ∀ event ∈ log, ∀ target, Removes target event → ¬Wider backOnTheWay (place target) :=
  ⟨by decide, (delete_spares_iff _ (by decide) (by decide)).mpr (by decide)⟩

end Demo

end Sftp

end CNShell
