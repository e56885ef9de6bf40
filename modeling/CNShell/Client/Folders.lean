import CNShell.Client.Models
import CNShell.Library.Hierarchy
import CNShell.Library.Program
import CNShell.Library.Text

/-! The folders of the connections: their statements, the calls made of these, and their runs. -/

namespace CNShell

namespace Client

/-- A row of `folders`. -/
structure FolderRow where
  id : String
  name : String
  parentId : Option String
  sortOrder : Int
  deletedAt : Option String
  deriving DecidableEq, Repr

structure Folder where
  id : String
  name : String
  parentId : Option String
  sortOrder : Int
  deriving DecidableEq, Repr

structure FolderDb where
  folders : Table FolderRow.id
  filed : List (String × Option String)

namespace FolderDb

/-- A database without folders and connections. -/
def empty : FolderDb := ⟨.empty, []⟩

def live? (db : FolderDb) (id : String) : Option FolderRow :=
  (db.folders.find? id).filter fun row => row.deletedAt.isNone

def up (db : FolderDb) (id : String) : Option (Option String) := (db.live? id).map FolderRow.parentId

def children (db : FolderDb) (id : String) : List String :=
  (db.folders.rows.filter fun row => row.parentId = some id ∧ row.deletedAt = none).map FolderRow.id

/-- The recursive query for all that is under an id, in a number of rows it is to end in. -/
def descendants (db : FolderDb) (rows : Nat) (id : String) : Option (List String) :=
  Hierarchy.drain db.children rows (db.children id)

/-- The recursive query for a folder and all that is under it. -/
def subtree (db : FolderDb) (rows : Nat) (id : String) : Option (List String) :=
  Hierarchy.drain db.children rows (if (db.live? id).isSome then [id] else [])

/-- The place after the last folder that is not deleted. -/
def nextSortOrder (db : FolderDb) : Int :=
  ((db.folders.rows.filter fun row => row.deletedAt.isNone).map FolderRow.sortOrder).max?.getD (-1) + 1

/-- What an upsert makes of the row that there is. -/
def overwrite (name : String) (parentId : Option String) : Change FolderRow.id where
  apply row := { row with name := name, parentId := parentId, deletedAt := none }
  keeps _ := rfl

/-- A folder is inserted, or gets another name and place; a deleted one is back with it. -/
def upsert (db : FolderDb) (id name : String) (parentId : Option String) (sortOrder : Int) : FolderDb :=
  { db with folders := db.folders.upsert ⟨id, name, parentId, sortOrder, none⟩ (overwrite name parentId) }

def markDeleted (now : String) : Change FolderRow.id where
  apply row := { row with deletedAt := some now }
  keeps _ := rfl

/-- Some folders become deleted, and the connections in them are in none any more. -/
def deleteAll (db : FolderDb) (ids : List String) (now : String) : FolderDb where
  folders := db.folders.update (fun row => decide (row.id ∈ ids)) (markDeleted now)
  filed := db.filed.map fun entry =>
    (entry.1, if entry.2.any (fun folder => decide (folder ∈ ids)) = true then none else entry.2)

end FolderDb

inductive FolderStatement : Type → Type
  | countLive (id : String) : FolderStatement Nat
  | countBelow (id wanted : String) : FolderStatement Nat
  | nextSortOrder : FolderStatement Int
  | upsert (id name : String) (parentId : Option String) (sortOrder : Int) : FolderStatement Unit
  | read (id : String) : FolderStatement Folder
  | deleteTransaction (id now : String) : FolderStatement Unit

/-- The error of a recursive query that did not come to its end. -/
def interrupted : AppError := .storage "interrupted"

/--
What each statement returns and leaves.

A recursive query that does not end in so many rows is given up. A folder can only be put under one
that has a row, be it deleted or not.
-/
def FolderStatement.run (rows : Nat) {β : Type} : FolderStatement β → FolderDb → AppResult (β × FolderDb)
  | .countLive id => fun db => .ok (if (db.live? id).isSome then 1 else 0, db)
  | .countBelow id wanted => fun db => do
    let found ← required (db.descendants rows id) interrupted
    return (found.count wanted, db)
  | .nextSortOrder => fun db => .ok (db.nextSortOrder, db)
  | .upsert id name parentId sortOrder => fun db => do
    ensure (∀ parent ∈ parentId, parent = id ∨ (db.folders.find? parent).isSome)
      (.storage "FOREIGN KEY constraint failed")
    return ((), db.upsert id name parentId sortOrder)
  | .read id => fun db => do
    let row ← required (db.folders.find? id)
      (.storage "no rows returned by a query that expected to return at least one row")
    return (⟨row.id, row.name, row.parentId, row.sortOrder⟩, db)
  | .deleteTransaction id now => fun db => do
    ensure ((db.live? id).isSome) (.notFound ("文件夹 " ++ id))
    let found ← required (db.subtree rows id) interrupted
    return ((), db.deleteAll found now)

def folderSemantics (rows : Nat) : Semantics FolderStatement AppError FolderDb where
  run statement := statement.run rows

def checkParent (id : String) : Option String → Program FolderStatement AppError Unit
  | none => return ()
  | some parent => do
    Program.lift (ensure (parent ≠ id) (.validation "文件夹不能作为自己的上级"))
    let known ← Program.perform (.countLive parent)
    Program.lift (ensure (known ≠ 0) (.notFound ("上级文件夹 " ++ parent)))
    let createsCycle ← Program.perform (.countBelow id parent)
    Program.lift (ensure (¬0 < createsCycle) (.validation "文件夹层级不能形成循环"))

/-- A folder is created, renamed, moved or restored. -/
def saveFolder (id name : String) (parentId : Option String) : Program FolderStatement AppError Folder := do
  Program.lift (ensure
    (¬(id = "" ∨ 128 < id.utf8ByteSize ∨ trim name = "" ∨ 256 < name.utf8ByteSize))
    (.validation "文件夹 ID 或名称无效"))
  checkParent id parentId
  let sortOrder ← Program.perform .nextSortOrder
  Program.perform (.upsert id (trim name) parentId sortOrder)
  Program.perform (.read id)

def deleteFolder (id now : String) : Program FolderStatement AppError Unit :=
  Program.perform (.deleteTransaction id now)

inductive FolderCall : Program FolderStatement AppError Unit → Prop
  | save (id name : String) (parentId : Option String) : FolderCall (saveFolder id name parentId).discard
  | delete (id now : String) : FolderCall (deleteFolder id now)

/-- The parents of the folders that are not deleted lead to the top, and no query goes on for ever. -/
structure FolderDb.Sound (db : FolderDb) : Prop where
  forest : Hierarchy.Forest db.up
  descendants : ∀ id, ∃ rows found, db.descendants rows id = some found
  subtree : ∀ id, ∃ rows found, db.subtree rows id = some found

/-- Any calls at once, from a database in order. -/
def folderSystem (rows : Nat) :
    System (Pool FolderStatement AppError FolderDb) (Pool.Label FolderStatement AppError) :=
  Pool.system (folderSemantics rows) FolderCall FolderDb.Sound

/-- A folder that is written under another one finds it not deleted, and not below itself. -/
def UnderLive (db : FolderDb) (event : Event FolderStatement AppError) : Prop :=
  match event with
  | ⟨.upsert id _ (some parent) _, .ok _⟩ =>
    (db.up parent).isSome = true ∧ ¬Relation.ReflTransGen (Hierarchy.Under db.up) parent id
  | _ => True

section Statements

variable {db : FolderDb}

variable {id : String}

theorem live?_eq_some {row : FolderRow} :
    db.live? id = some row ↔ row ∈ db.folders.rows ∧ row.id = id ∧ row.deletedAt = none := by
  simp [FolderDb.live?, Option.filter_eq_some_iff, Table.find?_eq_some, and_assoc]

theorem mem_children {child : String} : child ∈ db.children id ↔ Hierarchy.Under db.up child id := by
  simp only [FolderDb.children, List.mem_map, List.mem_filter, Hierarchy.Under, FolderDb.up,
    Option.map_eq_some_iff, live?_eq_some]
  constructor
  · rintro ⟨row, ⟨member, held⟩, rfl⟩
    obtain ⟨parent, live⟩ := of_decide_eq_true held
    exact ⟨row, ⟨member, rfl, live⟩, parent⟩
  · rintro ⟨row, ⟨member, rfl, live⟩, parent⟩
    exact ⟨row, ⟨member, decide_eq_true ⟨parent, live⟩⟩, rfl⟩

theorem finite_up : {id | (db.up id).isSome = true}.Finite := by
  refine (List.finite_toSet (db.folders.rows.map FolderRow.id)).subset fun id there => ?_
  obtain ⟨row, held⟩ := Option.isSome_iff_exists.mp (Option.isSome_map.symm.trans there)
  obtain ⟨member, rfl, -⟩ := live?_eq_some.mp held
  exact List.mem_map_of_mem member

theorem FolderDb.Sound.of_forest (forest : Hierarchy.Forest db.up) : db.Sound where
  forest := forest
  descendants _ := forest.drain_ends finite_up (fun _ _ => mem_children) _
  subtree _ := forest.drain_ends finite_up (fun _ _ => mem_children) _

theorem up_upsert (id name : String) (parentId : Option String) (sortOrder : Int) :
    (db.upsert id name parentId sortOrder).up = Function.update db.up id (some parentId) := by
  funext other
  simp only [FolderDb.up, FolderDb.live?, FolderDb.upsert, Table.find?_upsert]
  by_cases same : other = id
  · subst same
    cases db.folders.find? other <;> simp [FolderDb.overwrite]
  · simp [same, FolderDb.up, FolderDb.live?]

theorem up_deleteAll (ids : List String) (now : String) :
    (db.deleteAll ids now).up = fun id => if id ∈ ids then none else db.up id := by
  funext id
  simp only [FolderDb.up, FolderDb.live?, FolderDb.deleteAll, Table.find?_update]
  cases found : db.folders.find? id with
  | none => simp
  | some row =>
    have same := (Table.find?_some found).2
    by_cases gone : id ∈ ids <;> simp [same, gone, FolderDb.markDeleted]

variable {other : String} {found : List String} {rows : Nat}

theorem mem_descendants (drained : db.descendants rows id = some found) :
    other ∈ found ↔ ∃ child, Hierarchy.Under db.up child id ∧
      Relation.ReflTransGen (Hierarchy.Under db.up) other child := by
  have same : (fun lower upper => lower ∈ db.children upper) = Hierarchy.Under db.up := by
    funext lower upper
    exact propext mem_children
  rw [Hierarchy.mem_drain drained, same]
  simp only [mem_children]

theorem mem_subtree (live : (db.live? id).isSome = true) (drained : db.subtree rows id = some found) :
    other ∈ found ↔ Relation.ReflTransGen (Hierarchy.Under db.up) other id := by
  have same : (fun lower upper => lower ∈ db.children upper) = Hierarchy.Under db.up := by
    funext lower upper
    exact propext mem_children
  rw [FolderDb.subtree, if_pos live] at drained
  rw [Hierarchy.mem_drain drained, same]
  simp

theorem FolderDb.Sound.upsert_top (sound : db.Sound) (id name : String) (sortOrder : Int) :
    (db.upsert id name none sortOrder).Sound := by
  refine .of_forest ?_
  rw [up_upsert]
  exact sound.forest.top id

variable {sortOrder : Int}

theorem FolderDb.Sound.upsert_iff (sound : db.Sound) {name parent : String} :
    (db.upsert id name (some parent) sortOrder).Sound ↔
      (db.up parent).isSome = true ∧ ¬Relation.ReflTransGen (Hierarchy.Under db.up) parent id := by
  rw [← sound.forest.update_iff, ← up_upsert id name (some parent) sortOrder]
  exact ⟨fun after => after.forest, .of_forest⟩

theorem FolderDb.Sound.deleteAll (sound : db.Sound) {now : String}
    (live : (db.live? id).isSome = true) (drained : db.subtree rows id = some found) :
    (db.deleteAll found now).Sound := by
  refine .of_forest ?_
  rw [up_deleteAll]
  refine sound.forest.remove fun value above under gone => ?_
  rw [mem_subtree live drained] at gone ⊢
  exact .head under gone

theorem FolderStatement.leaves_iff {β : Type} {statement : FolderStatement β}
    {value : β} {next : FolderDb} (sound : db.Sound) (ran : statement.run rows db = .ok (value, next)) :
    next.Sound ↔ UnderLive db ⟨statement, .ok value⟩ := by
  cases statement with
  | countLive id =>
    obtain ⟨-, rfl⟩ := Prod.mk.inj (Except.ok.inj ran)
    exact iff_of_true sound trivial
  | countBelow id wanted =>
    obtain ⟨found, -, rest⟩ := bind_eq_ok.mp ran
    obtain ⟨-, rfl⟩ := Prod.mk.inj (Except.ok.inj rest)
    exact iff_of_true sound trivial
  | nextSortOrder =>
    obtain ⟨-, rfl⟩ := Prod.mk.inj (Except.ok.inj ran)
    exact iff_of_true sound trivial
  | upsert id name parentId sortOrder =>
    obtain ⟨_, -, rest⟩ := bind_eq_ok.mp ran
    obtain ⟨-, rfl⟩ := Prod.mk.inj (Except.ok.inj rest)
    cases parentId with
    | none => exact iff_of_true (sound.upsert_top id name sortOrder) trivial
    | some parent => exact sound.upsert_iff
  | read id =>
    obtain ⟨row, -, rest⟩ := bind_eq_ok.mp ran
    obtain ⟨-, rfl⟩ := Prod.mk.inj (Except.ok.inj rest)
    exact iff_of_true sound trivial
  | deleteTransaction id now =>
    obtain ⟨_, live, rest⟩ := bind_eq_ok.mp ran
    obtain ⟨found, drained, rest⟩ := bind_eq_ok.mp rest
    obtain ⟨-, rfl⟩ := Prod.mk.inj (Except.ok.inj rest)
    exact iff_of_true (sound.deleteAll (ensure_eq_ok.mp live) (required_eq_ok.mp drained)) trivial

theorem outcome_iff {β : Type} (statement : FolderStatement β) (sound : db.Sound) :
    ((folderSemantics rows).outcome statement db).2.Sound ↔
      UnderLive db ⟨statement, ((folderSemantics rows).outcome statement db).1⟩ := by
  cases ran : (folderSemantics rows).run statement db with
  | ok result =>
    rw [Semantics.outcome_ok ran]
    exact FolderStatement.leaves_iff sound ran
  | error error =>
    rw [Semantics.outcome_error ran]
    refine iff_of_true sound ?_
    cases statement with
    | upsert id name parentId sortOrder => cases parentId <;> exact trivial
    | _ => exact trivial

theorem outcome_countLive (id : String) : (folderSemantics rows).outcome (.countLive id) db =
      (.ok (if (db.live? id).isSome then 1 else 0), db) := rfl

theorem outcome_countBelow (id wanted : String) : (folderSemantics rows).outcome (.countBelow id wanted) db =
      (((required (db.descendants rows id) interrupted).map (List.count wanted)), db) := by
  cases drained : db.descendants rows id with
  | none | some => simp [Semantics.outcome, folderSemantics, FolderStatement.run, drained, Except.map]

variable {parentId : Option String}

theorem checkParent_ok {next : FolderDb}
    (checked : (checkParent id parentId).exec (folderSemantics rows) db = (.ok (), next)) :
    next = db ∧ ∀ parent ∈ parentId,
      (db.up parent).isSome = true ∧ ¬Relation.ReflTransGen (Hierarchy.Under db.up) parent id := by
  cases parentId with
  | none =>
    obtain rfl : db = next := (Prod.mk.inj checked).2
    exact ⟨rfl, by simp⟩
  | some parent =>
    simp only [checkParent, Program.exec_bind, Program.exec_lift, Program.exec_perform,
      outcome_countLive, outcome_countBelow] at checked
    by_cases differs : parent ≠ id
    swap
    · simp [ensure, differs] at checked
    by_cases live : (db.live? parent).isSome = true
    swap
    · simp [ensure, differs, live] at checked
    cases drained : db.descendants rows id with
    | none => simp [ensure, differs, live, drained, Except.map] at checked
    | some found =>
      by_cases counted : found.count parent = 0
      swap
      · simp [ensure, differs, live, drained, Except.map, Nat.pos_of_ne_zero counted] at checked
      have same : db = next := by
        simpa [ensure, differs, live, drained, Except.map, counted] using checked
      refine ⟨same.symm, fun other chosen => ?_⟩
      obtain rfl : parent = other := by simpa using chosen
      refine ⟨by simpa [FolderDb.up] using live, fun way => ?_⟩
      -- The way up from the parent to the folder ends with one of the folder's children.
      obtain rfl | ⟨child, below, last⟩ := Relation.ReflTransGen.cases_tail way
      · exact differs rfl
      · exact List.count_eq_zero.mp counted ((mem_descendants drained).mpr ⟨child, last, below⟩)

theorem underLive_upsert {name : String} (placed : ∀ parent ∈ parentId,
      (db.up parent).isSome = true ∧ ¬Relation.ReflTransGen (Hierarchy.Under db.up) parent id)
    (outcome : Except AppError Unit) : UnderLive db ⟨.upsert id name parentId sortOrder, outcome⟩ := by
  cases parentId with
  | none => exact trivial
  | some parent =>
    cases outcome with
    | ok value => exact placed parent rfl
    | error error => exact trivial

theorem FolderCall.meets {call : Program FolderStatement AppError Unit}
    (called : FolderCall call) : call.Meets (folderSemantics rows) UnderLive db := by
  cases called with
  | delete id now => exact .of_only (.perform fun _ _ => trivial)
  | save id name parentId =>
    refine .bind ?_ fun _ _ _ => trivial
    refine .bind (.of_only (.lift _)) fun _ moved checked => ?_
    obtain rfl : db = moved := (Prod.mk.inj checked).2
    have reads : (checkParent id parentId).Only fun β action =>
        ∀ db (outcome : Except AppError β), UnderLive db ⟨action, outcome⟩ := by
      cases parentId with
      | none => exact .pure ()
      | some parent =>
        refine .bind (.lift _) fun _ => .perform_bind (fun _ _ => trivial) fun _ => ?_
        exact .bind (.lift _) fun _ => .perform_bind (fun _ _ => trivial) fun _ => .lift _
    refine .bind (.of_only reads) fun _ moved checked => ?_
    obtain ⟨rfl, placed⟩ := checkParent_ok checked
    refine .bind ⟨trivial, trivial⟩ fun sortOrder left counted => ?_
    obtain rfl := (Prod.mk.inj counted).2
    refine .bind ⟨?_, trivial⟩ fun _ _ _ => .of_only (.perform fun _ _ => trivial)
    exact underLive_upsert placed _

end Statements

/-- The folders are in order all along a run just when every folder is written under a live one. -/
theorem folders_iff {rows : Nat}
    {trace : List (Pool FolderStatement AppError FolderDb × Pool.Label FolderStatement AppError)}
    {pool : Pool FolderStatement AppError FolderDb} (run : (folderSystem rows).Run trace pool) :
    ((∀ entry ∈ trace, entry.1.store.Sound) ∧ pool.store.Sound) ↔
      ∀ entry ∈ Pool.events trace, UnderLive entry.1 entry.2 := by
  rw [Pool.forall_events]
  refine run.exactly (fun pool label => ∀ event, label = .act event → UnderLive pool.store event)
    (fun pool => pool.store.Sound) (fun pool => pool.store.Sound) ?_ (fun _ sound => sound) ?_ ?_
  · rintro pool ⟨sound, -⟩
    exact sound
  · intro pool label next sound met taken
    cases taken with
    | start _ => exact sound
    | act => exact (outcome_iff _ sound).mpr (met _ rfl)
    | drop => exact sound
  · intro pool label next sound unmet taken after
    refine unmet fun event same => ?_
    subst same
    cases taken with
    | act => exact (outcome_iff _ sound).mp after

namespace Demo

theorem sound_empty : FolderDb.empty.Sound := .of_forest fun _ there => by cases there

/-- Two folders are created, and each is moved under the other one. -/
def moves : List (Program FolderStatement AppError Unit) :=
  [(saveFolder "a" "A" none).discard, (saveFolder "b" "B" none).discard,
    (saveFolder "a" "A" (some "b")).discard, (saveFolder "b" "B" (some "a")).discard]

theorem moves_begin (rows : Nat) : ∃ trace, (folderSystem rows).Run trace ⟨.empty, moves⟩ ∧ Pool.events trace = [] :=
  Pool.run_starts sound_empty _ fun call member => by
    simp only [moves, List.mem_cons, List.not_mem_nil, or_false] at member
    rcases member with rfl | rfl | rfl | rfl <;> exact .save _ _ _

/-- Both moves are checked before the first of them is written, and close a circle. -/
theorem folders_circular : ¬∀ rows trace pool, (folderSystem rows).Run trace pool → pool.store.Sound := by
  intro always
  obtain ⟨trace, run, -⟩ := moves_begin 2
  have played : ∃ more last, Pool.play (folderSemantics 2) ⟨.empty, moves⟩
      [0, 0, 0, 1, 1, 1, 2, 2, 3, 3, 2, 2, 3, 3] = some (more, last) ∧
        last.store.up "a" = some (some "b") ∧ last.store.up "b" = some (some "a") :=
    ⟨_, _, rfl, rfl, rfl⟩
  obtain ⟨more, last, goes, first, second⟩ := played
  have sound := always _ _ _ (Pool.run_play run goes)
  -- Each of the two folders is under the other one now.
  have round : Relation.TransGen (Hierarchy.Under last.store.up) "a" "a" := .head first (.single second)
  exact (sound.forest "a" (by simp [first])).acyclic round

/-- The second folder is moved under the first one while nothing else happens. -/
theorem folders_iff_moved : ∃ trace pool, (folderSystem 2).Run trace pool ∧
    pool.store.up "b" = some (some "a") ∧ (∀ entry ∈ trace, entry.1.store.Sound) ∧ pool.store.Sound := by
  have begun : Pool.ReachedMeeting (folderSemantics 2) FolderCall FolderDb.Sound UnderLive
      ⟨.empty, []⟩ := ⟨[], .start ⟨sound_empty, rfl⟩, by simp⟩
  have first := begun.call (.save "a" "A" none) (FolderCall.save _ _ _).meets
  have second := first.call (.save "b" "B" none) (FolderCall.save _ _ _).meets
  obtain ⟨trace, run, met⟩ := second.call (.save "b" "B" (some "a")) (FolderCall.save _ _ _).meets
  exact ⟨trace, _, run, rfl, (folders_iff run).mpr met⟩

end Demo

end Client

end CNShell
