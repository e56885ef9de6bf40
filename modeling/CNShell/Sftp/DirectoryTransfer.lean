import CNShell.Sftp.Calls

/-! Transfers of whole directories: packed, copied, unpacked beside the target and moved into its place. -/

namespace CNShell

namespace Sftp

open Client (AppError AppResult)
open Program (perform lift caught ignore given)

/-- The kind of what a path stands for; on the own computer links are followed. -/
def kindOf : Side → Path → Call RemoteKind
  | .own, path => .metadata path
  | .remote, path => .lstat .remote path

def present (side : Side) (path : Path) : Task Bool := do
  let found ← caught (perform (kindOf side path))
  return found.isOk

/-- Whether a path of the own computer leads to a directory. -/
def isDir (path : Path) : Task Bool := do
  let found ← caught (perform (.metadata path))
  return found.toOption = some .directory

/--
The removal of what is at a path, on the own computer that of a directory.

It calls itself for each entry of a directory; `depth` is how often it may do so within itself.
-/
def deleteRecursive (side : Side) : Nat → Path → Task Unit
  | 0, _ => lift (.error (.internal "stack overflow"))
  | depth + 1, path => do
    let kind ← perform (.lstat side path)
    if kind = .directory then do
      let children ← perform (.readdir side path)
      children.forM fun child => deleteRecursive side depth child
      perform (.rmdir side path)
    else perform (.unlink side path)

def removeLocalPath (depth : Nat) (path : Path) : Task Unit := do
  let directory ← isDir path
  if directory = true then deleteRecursive .own depth path else perform (.unlink .own path)

/-- The loop that copies what is read piece by piece, until nothing more comes. -/
def copy (read : Call Unit) (write : List UInt8 → Call Unit) : List (List UInt8) → Task Unit
  | [] => do
    perform .checkCancelled
    perform read
  | piece :: pieces => do
    perform .checkCancelled
    perform read
    perform (write piece)
    copy read write pieces

/-- The rest of a path after another one that its names begin with. -/
def stripPrefix (path first : Path) : Option (List (List Char)) :=
  if components first <+: components path then some ((components path).drop (components first).length) else none

/-- What a server answers where there is no file. -/
def noSuchFile : AppError := .remote "[SFTP(2)] no such file"

section Boundary

variable (raw : Path → AppResult Path)

/-- The check that a server finds a path where the grant says. -/
def validateMcpBoundaryOnSftp (path root : Path) (allowMissing : Bool) : Task Unit := do
  let requestedRoot ← lift (remotePath raw root)
  let rootFound ← perform (.realpath requestedRoot)
  let canonicalRoot ← lift (required rootFound noSuchFile)
  let requested ← lift (remotePath raw path)
  let relative ← lift (required (stripPrefix requested requestedRoot)
    (.permissionDenied "MCP 远端路径不在授权根内"))
  let found ← perform (.realpath requested)
  match found with
  | some resolved =>
    lift (ensure (components resolved = components canonicalRoot ++ relative)
      (.permissionDenied "MCP 远端路径不能经过符号链接或越过授权根"))
  | none =>
    if allowMissing = true then do
      let directory ← lift (required (parent requested) (.validation "MCP 远端目标没有父目录"))
      let relativeParent ← lift (required (stripPrefix directory requestedRoot)
        (.permissionDenied "MCP 远端目标父目录不在授权根内"))
      let directoryFound ← perform (.realpath directory)
      let resolved ← lift (required directoryFound noSuchFile)
      lift (ensure (components resolved = components canonicalRoot ++ relativeParent)
        (.permissionDenied "MCP 远端路径不能经过符号链接或越过授权根"))
    else lift (.error noSuchFile)

/-- The boundary check of a transfer that has a root. -/
def validateRoot (path : Path) (remoteRoot : Option Path) (allowMissing : Bool) : Task Unit :=
  match remoteRoot with
  | some root => validateMcpBoundaryOnSftp raw path root allowMissing
  | none => pure ()

end Boundary

section Conflicts

variable (side : Side) (renamed : Path → Nat → Path)

/-- The loop that counts up until a name is free; it gives up where its counter would overflow. -/
def freePath (original : Path) : Nat → Nat → Path → Task Path
  | 0, _, _ => lift (.error (.internal "attempt to add with overflow"))
  | attempts + 1, index, candidate => do
    let taken ← present side candidate
    if taken = true then freePath original attempts (index + 1) (renamed original index) else return candidate

/-- Where a transfer goes and whether it replaces what is there, unless it is skipped. -/
def resolveConflict (attempts : Nat) (conflictPolicy : String) (destination : Path) :
    Task (Option (Path × Bool)) := do
  let taken ← present side destination
  if taken = true then
    if conflictPolicy = "skip" then return none
    else if conflictPolicy = "rename" then do
      let free ← freePath side renamed destination attempts 1 destination
      return some (free, false)
    else return some (destination, true)
  else return some (destination, false)

end Conflicts

section Swap

variable (side : Side) (finalDestination staging backup : Path)

/-- What was unpacked takes the place of what was there, which is set aside and then removed. -/
def swap (overwriteExisting : Bool) (discard : Task Unit) : Task Unit := do
  given (overwriteExisting = true) (perform (.rename side finalDestination backup))
  let moved ← caught (perform (.rename side staging finalDestination))
  match moved with
  | .error error => do
    given (overwriteExisting = true) (ignore (perform (.rename side backup finalDestination)))
    lift (.error error)
  | .ok _ => given (overwriteExisting = true) discard

/-- What was set aside goes back to where nothing is. -/
def restore : Task Unit := do
  let kept ← present side backup
  given (kept = true) do
    let taken ← present side finalDestination
    given (taken = false) (ignore (perform (.rename side backup finalDestination)))

end Swap

section Upload

variable (raw : Path → AppResult Path) (depth attempts : Nat) (identifier : Uuid)

/-- The archive is copied and unpacked beside the target of an upload. -/
def stageUpload (archive staging : Path) : Task Unit := do
  let pieces ← perform .openArchive
  perform (.createFile archive)
  copy .readArchive (.write archive) pieces
  perform (.fsync archive)
  perform (.mkdir .remote staging)
  perform (.unpackRemote archive staging)
  perform .checkCancelled
  perform .sftp

def uploadBeside (finalDestination archive staging backup : Path) (overwriteExisting : Bool) : Task Path := do
  stageUpload archive staging
  swap .remote finalDestination staging backup overwriteExisting (deleteRecursive .remote depth backup)
  ignore (perform (.unlink .remote archive))
  return finalDestination

/-- What an upload made beside its target is removed again. -/
def clearUpload (archive staging : Path) : Task Unit := do
  perform .sftp
  ignore (perform (.unlink .remote archive))
  let staged ← present .remote staging
  given (staged = true) (ignore (deleteRecursive .remote depth staging))

/-- What an upload does after it failed. -/
def cleanUpload (finalDestination archive staging backup : Path) : Task Unit := do
  clearUpload depth archive staging
  restore .remote finalDestination backup

def uploadTo (finalDestination : Path) (overwriteExisting : Bool) : Task Path := do
  let directory ← lift (remoteParentPath raw finalDestination)
  let archive ← lift (remoteChildPath raw directory (archiveName identifier))
  let staging ← lift (remoteChildPath raw directory (stagingName identifier))
  let backup ← lift (remoteChildPath raw directory (backupName identifier))
  let transferResult ← caught (uploadBeside depth finalDestination archive staging backup overwriteExisting)
  given (transferResult.isOk = false) (cleanUpload depth finalDestination archive staging backup)
  lift transferResult

def uploadDirectory (source destination : Path) (conflictPolicy : String) (remoteRoot : Option Path) : Task Path := do
  validateRoot raw destination remoteRoot true
  perform (.packOwn source)
  perform .checkCancelled
  let target ← resolveConflict .remote renamedRemotePath attempts conflictPolicy destination
  match target with
  | none => return destination
  | some (finalDestination, overwriteExisting) => uploadTo raw depth identifier finalDestination overwriteExisting

end Upload

section Download

variable (raw : Path → AppResult Path) (depth attempts : Nat) (identifier : Uuid)

/-- The archive of a download is unpacked beside its target and moved into its place. -/
def extractBeside (finalDestination staging backup : Path) (overwriteExisting : Bool) : Task Unit := do
  perform (.unpackOwn staging)
  perform .checkCancelled
  swap .own finalDestination staging backup overwriteExisting (removeLocalPath depth backup)

/-- What a download does after it failed. -/
def cleanDownload (finalDestination staging backup : Path) : Task Unit := do
  ignore (deleteRecursive .own depth staging)
  restore .own finalDestination backup

/-- The part of a download that works beside its target. -/
def downloadTo (finalDestination : Path) (overwriteExisting : Bool) : Task Path := do
  let directory ← lift (required (parent finalDestination) (.validation "本地目标目录无效"))
  let staging := join directory (stagingName identifier)
  let backup := join directory (backupName identifier)
  perform (.mkdir .own staging)
  let extractResult ← caught (extractBeside depth finalDestination staging backup overwriteExisting)
  given (extractResult.isOk = false) (cleanDownload depth finalDestination staging backup)
  lift extractResult
  return finalDestination

/-- The part of a download after the server has packed the directory. -/
def downloadArchive (archive destination : Path) (conflictPolicy : String) : Task Path := do
  perform .checkCancelled
  let pieces ← perform (.openFile archive)
  perform .createArchive
  copy (.read archive) .writeArchive pieces
  perform .syncArchive
  let target ← resolveConflict .own renamedPath attempts conflictPolicy destination
  match target with
  | none => return destination
  | some (finalDestination, overwriteExisting) => downloadTo depth identifier finalDestination overwriteExisting

def downloadDirectory (source destination : Path) (conflictPolicy : String) (remoteRoot : Option Path) :
    Task Path := do
  validateRoot raw source remoteRoot false
  let sourcePath ← lift (remotePath raw source)
  let kind ← perform (.lstat .remote sourcePath)
  lift (ensure (kind = .directory) (.validation "下载源必须是远端文件夹"))
  let remoteParent ← lift (remoteParentPath raw source)
  let archive ← lift (remoteChildPath raw remoteParent (archiveName identifier))
  let archiveResult ← caught (perform (.packRemote archive source))
  match archiveResult with
  | .error error => do
    let session ← caught (perform .sftp)
    given (session.isOk = true) (ignore (perform (.unlink .remote archive)))
    lift (.error error)
  | .ok _ => do
    perform .sftp
    let downloadResult ← caught (downloadArchive depth attempts identifier archive destination conflictPolicy)
    ignore (perform (.unlink .remote archive))
    lift downloadResult

end Download

section Transfer

variable (raw : Path → AppResult Path) (depth attempts : Nat) (identifier : Uuid)

def validateTransfer (direction : String) (source destination : Path) : Task Unit :=
  if direction = "upload" then do
    lift (validateLocalPath source)
    lift (validateRemotePath raw destination)
    let directory ← isDir source
    lift (ensure (directory = true) (.validation "上传源必须是本地文件夹"))
  else do
    lift (validateRemotePath raw source)
    lift (validateLocalPath destination)

def transferDirectory (direction : String) (source destination : Path) (conflictPolicy : String)
    (remoteRoot : Option Path) : Task Path := do
  lift (ensure (direction ∈ ["upload", "download"]) (.validation "文件夹传输方向无效"))
  lift (ensure (conflictPolicy ∈ ["overwrite", "skip", "rename"]) (.validation "文件夹冲突策略无效"))
  validateTransfer raw direction source destination
  lift (remoteRoot.elim (.ok ()) (validateRemotePath raw))
  lift (ensure (¬(rawPathPrefix <+: source ∨ rawPathPrefix <+: destination))
    (.validation "文件夹打包传输暂不支持非 UTF-8 路径"))
  perform .acquireTransport
  let result ← caught do
    perform .checkCancelled
    perform .sftp
    if direction = "upload" then
      uploadDirectory raw depth attempts identifier source destination conflictPolicy remoteRoot
    else downloadDirectory raw depth attempts identifier source destination conflictPolicy remoteRoot
  ignore (perform .removeArchive)
  lift result

end Transfer

end Sftp

end CNShell
