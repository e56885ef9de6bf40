import CNShell.Library.Disk
import CNShell.Library.Runs
import CNShell.Sftp.Listing
import CNShell.Sftp.Paths

/-! The calls by which file transfers act on the two file systems, and what they do there. -/

namespace CNShell

namespace Sftp

open Client (AppError AppResult)

/-- The file system of the user's computer and that of the server. -/
inductive Side
  | own
  | remote
  deriving DecidableEq

/-- What a file system has at a place. -/
inductive Node
  | file (content : List UInt8)
  -- What the link leads to, if it leads to anything.
  | symlink (target : Path) (leads : Option RemoteKind)
  | directory
  | other
  deriving DecidableEq

def Node.kind : Node → RemoteKind
  | .file _ => .file
  | .symlink _ _ => .symlink
  | .directory => .directory
  | .other => .other

def Node.followed : Node → Option RemoteKind
  | .symlink _ leads => leads
  | node => some node.kind

/-- The entries of a file system. -/
abbrev Files := Disk (List Char) Node

/-- What transfers of directories act on. -/
structure World where
  own : Files
  remote : Files
  -- The archive in the directory for temporary files, which is not part of either tree.
  archive : Option (List UInt8)

def World.files (world : World) : Side → Files
  | .own => world.own
  | .remote => world.remote

def World.setFiles (world : World) (side : Side) (files : Files) : World :=
  match side with
  | .own => { world with own := files }
  | .remote => { world with remote := files }

/-- The calls of file transfers. -/
inductive Call : Type → Type
  | checkCancelled : Call Unit
  | acquireTransport : Call Unit
  | sftp : Call Unit
  -- Without a result there is no such file.
  | realpath (path : Path) : Call (Option Path)
  | lstat (side : Side) (path : Path) : Call RemoteKind
  -- The kind of what a path of the own computer leads to.
  | metadata (path : Path) : Call RemoteKind
  | readdir (side : Side) (path : Path) : Call (List Path)
  | mkdir (side : Side) (path : Path) : Call Unit
  | rename (side : Side) (source destination : Path) : Call Unit
  | unlink (side : Side) (path : Path) : Call Unit
  | rmdir (side : Side) (path : Path) : Call Unit
  -- The pieces in which the content of a file comes when it is read.
  | openFile (path : Path) : Call (List (List UInt8))
  | read (path : Path) : Call Unit
  | createFile (path : Path) : Call Unit
  | write (path : Path) (bytes : List UInt8) : Call Unit
  | fsync (path : Path) : Call Unit
  | packRemote (archive source : Path) : Call Unit
  | unpackRemote (archive directory : Path) : Call Unit
  | packOwn (source : Path) : Call Unit
  | unpackOwn (directory : Path) : Call Unit
  | openArchive : Call (List (List UInt8))
  | readArchive : Call Unit
  | createArchive : Call Unit
  | writeArchive (bytes : List UInt8) : Call Unit
  | syncArchive : Call Unit
  | removeArchive : Call Unit

/-- The programs of file transfers. -/
abbrev Task := Program Call AppError

/-- What the program `tar` makes of directories, and how files are cut when they are read. -/
structure Tools where
  pack : Files → List UInt8
  unpack : List UInt8 → Option Files
  pieces : List UInt8 → List (List UInt8)
  -- What is read of a file is its content.
  whole : ∀ content, (pieces content).flatten = content

/-- Whether something can be renamed to a path that is taken, as a server refuses. -/
def replaceable (files : Files) (source target : Path) : Side → Prop
  | .own =>
    if files.find (place source) = some .directory then
      files.find (place target) = some .directory ∧ files.Bare (place target)
    else files.find (place target) ≠ some .directory
  | .remote => False

instance (files : Files) (source target : Path) (side : Side) : Decidable (replaceable files source target side) := by
  cases side <;> unfold replaceable <;> infer_instance

/-- What is left of a call that cannot do what it should. -/
def failed {α : Type} : AppResult α := .error (.remote "[SFTP(4)] failure")

/-- What a call does when nothing goes wrong. -/
def Call.perform (tools : Tools) : {β : Type} → Call β → World → AppResult (β × World)
  | _, .checkCancelled, world => .ok ((), world)
  | _, .acquireTransport, world => .ok ((), world)
  | _, .sftp, world => .ok ((), world)
  | _, .realpath path, world =>
    .ok (if (world.remote.find (place path)).isSome then some (absolute (place path)) else none, world)
  | _, .lstat side path, world =>
    match (world.files side).find (place path) with
    | some node => .ok (node.kind, world)
    | none => failed
  | _, .metadata path, world =>
    match (world.own.find (place path)).bind Node.followed with
    | some kind => .ok (kind, world)
    | none => failed
  | _, .readdir side path, world =>
    .ok ((((world.files side).children (place path)).filter fun name => Plain name).map fun name =>
      path ++ '/' :: name, world)
  | _, .mkdir side path, world =>
    if (world.files side).find (place path) = none then
      .ok ((), world.setFiles side ((world.files side).put (place path) .directory))
    else failed
  | _, .rename side source target, world =>
    -- Nothing can be moved to a place below itself.
    if (world.files side).find (place source) ≠ none ∧ ¬place source <+: place target ∧
        ((world.files side).find (place target) = none ∨
          replaceable (world.files side) source target side) then
      .ok ((), world.setFiles side ((world.files side).move (place source) (place target)))
    else failed
  | _, .unlink side path, world =>
    if (world.files side).find (place path) ≠ none ∧
        (world.files side).find (place path) ≠ some .directory then
      .ok ((), world.setFiles side ((world.files side).erase (place path)))
    else failed
  | _, .rmdir side path, world =>
    if (world.files side).find (place path) = some .directory ∧ (world.files side).Bare (place path) then
      .ok ((), world.setFiles side ((world.files side).erase (place path)))
    else failed
  | _, .openFile path, world =>
    match world.remote.find (place path) with
    | some (.file content) => .ok (tools.pieces content, world)
    | _ => failed
  | _, .read _, world => .ok ((), world)
  | _, .createFile path, world =>
    if world.remote.find (place path) = some .directory then failed
    else .ok ((), { world with remote := world.remote.put (place path) (.file []) })
  | _, .write path bytes, world =>
    match world.remote.find (place path) with
    | some (.file content) =>
      .ok ((), { world with remote := world.remote.put (place path) (.file (content ++ bytes)) })
    | _ => failed
  | _, .fsync _, world => .ok ((), world)
  | _, .packRemote archive source, world =>
    if world.remote.find (place source) = some .directory then
      .ok ((), { world with
        remote := world.remote.put (place archive) (.file (tools.pack (world.remote.branch (place source)))) })
    else failed
  | _, .unpackRemote archive directory, world =>
    match world.remote.find (place archive), world.remote.find (place directory) with
    | some (.file content), some .directory =>
      match tools.unpack content with
      | some files =>
        .ok ((), { world with remote := world.remote.graft (place directory) (([], .directory) :: files) })
      | none => failed
    | _, _ => failed
  | _, .packOwn source, world =>
    if world.own.find (place source) = some .directory then
      .ok ((), { world with archive := some (tools.pack (world.own.branch (place source))) })
    else failed
  | _, .unpackOwn directory, world =>
    match world.archive.bind tools.unpack, world.own.find (place directory) with
    | some files, some .directory =>
      .ok ((), { world with own := world.own.graft (place directory) (([], .directory) :: files) })
    | _, _ => failed
  | _, .openArchive, world =>
    match world.archive with
    | some content => .ok (tools.pieces content, world)
    | none => failed
  | _, .readArchive, world => .ok ((), world)
  | _, .createArchive, world => .ok ((), { world with archive := some [] })
  | _, .writeArchive bytes, world =>
    .ok ((), { world with archive := world.archive.map fun content => content ++ bytes })
  | _, .syncArchive, world => .ok ((), world)
  | _, .removeArchive, world => .ok ((), { world with archive := none })

def calls (tools : Tools) : Semantics Call AppError World where
  run := Call.perform tools

theorem run_mkdir {tools : Tools} {side : Side} {before after : World} {path : Path} {u : Unit} :
    (calls tools).run (.mkdir side path) before = .ok (u, after) ↔
    (before.files side).find (place path) = none ∧
      after = before.setFiles side ((before.files side).put (place path) .directory) := by
  simp only [calls, Call.perform]
  split
  · next free => simp [free, eq_comm]
  · next taken => simp [taken, failed]

/-- What a call that fails halfway may leave: something else where it was to write. -/
def Call.damage : (β : Type) → Call β → World → World → Prop
  | _, .write path _, world, left =>
    ∃ old content, world.remote.find (place path) = some (.file old) ∧
      left = { world with remote := world.remote.put (place path) (.file content) }
  | _, .packRemote archive _, world, left =>
    ∃ content, left = { world with remote := world.remote.put (place archive) (.file content) }
  | _, .unpackRemote _ directory, world, left =>
    ∃ files, world.remote.find (place directory) = some .directory ∧
      left = { world with remote := world.remote.graft (place directory) (([], .directory) :: files) }
  | _, .unpackOwn directory, world, left =>
    ∃ files, world.own.find (place directory) = some .directory ∧
      left = { world with own := world.own.graft (place directory) (([], .directory) :: files) }
  | _, .packOwn _, world, left => ∃ content, left = { world with archive := content }
  | _, .writeArchive _, world, left => ∃ content, left = { world with archive := content }
  | _, _, world, left => left = world

end Sftp

end CNShell
