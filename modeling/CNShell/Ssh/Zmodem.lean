import CNShell.Client.Models
import CNShell.Library.Transition
import Mathlib.Data.List.TakeWhile

/-! Zmodem downloads: the files a receiver writes, from the first event to the end of the transfer. -/

namespace CNShell

namespace Ssh

open Client (AppError AppResult)

/-- The platforms, whose paths differ. -/
inductive Platform
  | macos
  | windows
  deriving DecidableEq, Repr

abbrev FileName := List Char

/-- Where a file is: directly in the destination, or at a path that leads out of it. -/
inductive Path
  | inside (name : FileName)
  | outside (path : FileName)
  deriving DecidableEq, Repr

abbrev Bytes := List UInt8

abbrev Files := Path → Option Bytes

def Files.set (files : Files) (path : Path) (content : Option Bytes) : Files :=
  fun other => if other = path then content else files other

/-- What an operation of the operating system or the engine comes to; a failure has its text. -/
abbrev Outcome := Except String Unit

/-- A path with a drive letter, which replaces the directory it is joined to. -/
def drivePrefixed : FileName → Bool
  | drive :: ':' :: _ => drive.isAlpha
  | _ => false

def join (platform : Platform) (name : FileName) : Path :=
  if platform = .windows ∧ drivePrefixed name = true then .outside name else .inside name

def lastPart (platform : Platform) (path : FileName) : Option FileName :=
  if platform = .windows ∧ drivePrefixed path = true then
    let rest := path.drop 2
    if rest = [] ∨ rest = ['.'] ∨ rest = ['.', '.'] then none else some rest
  else some path

def splitFileAtDot (name : FileName) : FileName × Option FileName :=
  let after := (name.reverse.takeWhile (· ≠ '.')).reverse
  let before := ((name.reverse.dropWhile (· ≠ '.')).drop 1).reverse
  if '.' ∉ name ∨ before = [] then (name, none) else (before, some after)

/-- The last part of the name the other side gave, cut to its first 255 letters. -/
def safeFileName (remoteName : FileName) : AppResult FileName :=
  let normalized := remoteName.map fun letter => if letter = '\\' then '/' else letter
  let name := (normalized.reverse.takeWhile (· ≠ '/')).reverse
  if name = [] ∨ name = ['.'] ∨ name = ['.', '.'] ∨ '\x00' ∈ name then
    .error (.validation "远端提供的 Zmodem 文件名无效")
  else .ok (name.take 255)

def withSuffix (platform : Platform) (fileName suffix : FileName) : FileName :=
  match lastPart platform fileName with
  | some last =>
    match splitFileAtDot last with
    | (stem, some extension) => stem ++ suffix ++ '.' :: extension
    | (stem, none) => stem ++ suffix
  | none => "download".toList ++ suffix

def stemOf (platform : Platform) (fileName : FileName) : FileName :=
  match lastPart platform fileName with
  | some last => (splitFileAtDot last).1
  | none => "download".toList

def numbered (index : Nat) : FileName := " (".toList ++ Nat.toDigits 10 index ++ ")".toList

/-- The paths a file may get: under its name, a numbered one, or else one with the time. -/
def availablePath (platform : Platform) (files : Files) (fileName : FileName) (now : Nat) : Path :=
  let initial := join platform fileName
  if files initial = none then initial
  else
    let candidates := (List.range 9999).map fun i =>
      join platform (withSuffix platform fileName (numbered (i + 1)))
    match candidates.find? fun candidate => files candidate = none with
    | some candidate => candidate
    | none => join platform (stemOf platform fileName ++ '-' :: Nat.toDigits 10 now)

def temporaryDownloadPath (platform : Platform) (uuid : FileName) : Path :=
  join platform (".cnshell-zmodem-".toList ++ uuid ++ ".part".toList)

def Path.fileName (platform : Platform) : Path → Option FileName
  | inside name => some name
  | outside path => lastPart platform path

/-- What a drive reports of the transfer. -/
inductive TransferStatus
  | running
  | completed
  | cancelled
  deriving DecidableEq, Repr

/-- A download; the file is known by its path. -/
structure DownloadTransfer where
  incoming : Bytes
  file : Option Path
  temporaryPath : Option Path
  finalPath : Option Path
  fileName : Option FileName
  totalBytes : Option Nat
  transferredBytes : Nat

/-- What the engine asks for, with what comes of the operations this leads to. -/
inductive Poll
  | writeWire (sent : AppResult Unit)
  /-- A failed write may have written a part. -/
  | writeFile (bytes : Bytes) (written : Except (Nat × String) Unit) (accepted : Outcome)
  | fileStarted (remoteName : FileName) (size : Option Nat) (now : Nat) (uuid : FileName)
      (opened : Outcome)
  | fileCompleted (flushed renamed : Outcome)
  | sessionCompleted
  | aborted
  | idle (consumed : Except String Nat)
  | other

/-- How the loop of `drive` goes on. -/
inductive Flow
  | next (status : Option TransferStatus)
  | break (status : Option TransferStatus)
  | fail (error : AppError)

def protocolError (text : String) : AppError := .remote ("Zmodem 协议错误：" ++ text)

/-- One round of the loop of `drive`. -/
def DownloadTransfer.round (platform : Platform) (transfer : DownloadTransfer) (files : Files)
    (status : Option TransferStatus) (poll : Poll) : Flow × DownloadTransfer × Files :=
  match poll with
  | .writeWire (.ok ()) => (.next status, transfer, files)
  | .writeWire (.error error) => (.fail error, transfer, files)
  | .writeFile bytes written accepted =>
    match transfer.file with
    | none => (.fail (.remote "Zmodem 在文件元数据之前发送了内容"), transfer, files)
    | some path =>
      let content := (files path).getD []
      match written, accepted with
      | .error (count, text), _ =>
        (.fail (.storage ("写入下载文件失败：" ++ text)), transfer, files.set path (some (content ++ bytes.take count)))
      | .ok (), .error text =>
        (.fail (protocolError text), transfer, files.set path (some (content ++ bytes)))
      | .ok (), .ok () =>
        (.next status,
          { transfer with
            transferredBytes := min (transfer.transferredBytes + bytes.length) (2 ^ 64 - 1) },
          files.set path (some (content ++ bytes)))
  | .fileStarted remoteName size now uuid opened =>
    match safeFileName remoteName with
    | .error error => (.fail error, transfer, files)
    | .ok fileName =>
      let path := availablePath platform files fileName now
      let temporaryPath := temporaryDownloadPath platform uuid
      match opened with
      | .error text => (.fail (.storage ("创建下载文件失败：" ++ text)), transfer, files)
      | .ok () =>
        (.next (some .running),
          { transfer with
            file := some temporaryPath
            fileName := path.fileName platform
            temporaryPath := some temporaryPath
            finalPath := some path
            totalBytes := size
            transferredBytes := 0 },
          files.set temporaryPath (some []))
  | .fileCompleted flushed renamed =>
    match transfer.file, flushed with
    | some _, .error text => (.fail (.storage ("保存下载文件失败：" ++ text)), transfer, files)
    | _, _ =>
      match transfer.temporaryPath with
      | none =>
        (.fail (.internal "Zmodem 下载临时路径丢失"), { transfer with file := none }, files)
      | some temporaryPath =>
        match transfer.finalPath with
        | none =>
          (.fail (.internal "Zmodem 下载目标路径丢失"), { transfer with file := none, temporaryPath := none }, files)
        | some finalPath =>
          -- Both paths are taken out of the transfer before the file is renamed.
          let taken := { transfer with file := none, temporaryPath := none, finalPath := none }
          match renamed with
          | .error text => (.fail (.storage ("提交下载文件失败：" ++ text)), taken, files)
          | .ok () =>
            (.next status, taken, (files.set temporaryPath none).set finalPath (files temporaryPath))
  | .sessionCompleted => (.next (some .completed), transfer, files)
  | .aborted => (.break (some .cancelled), transfer, files)
  | .idle consumed =>
    if status.isSome = true then (.break status, transfer, files)
    else if transfer.incoming = [] then (.break status, transfer, files)
    else
      match consumed with
      | .error text => (.fail (protocolError text), transfer, files)
      | .ok 0 => (.break status, transfer, files)
      | .ok (count + 1) =>
        (.next status, { transfer with incoming := transfer.incoming.drop (count + 1) }, files)
  | .other => (.fail (.internal "Zmodem 接收器返回了无效操作"), transfer, files)

/-- Where a transfer is: between drives, in one, after a failure, or ended. -/
inductive DownloadStage
  | waiting
  /-- In a drive, with the rounds left and the status so far. -/
  | driving (rounds : Nat) (status : Option TransferStatus)
  /-- A drive or `append_wire` failed, after which the transfer is only dropped. -/
  | failed
  | ended
  deriving DecidableEq, Repr

/-- A transfer, the files, and what is remembered of the file data that came. -/
structure Download where
  transfer : DownloadTransfer
  files : Files
  stage : DownloadStage
  /-- The data since the last file started. -/
  delivered : Bytes
  /-- The files that were completed: the path each was committed under, and its data. -/
  committed : List (Path × Bytes)

/-- What happens to a transfer. -/
inductive DownloadEvent
  | appendWire (input : Bytes)
  | drive
  | poll (poll : Poll)
  /-- The transfer ends: it completed, failed, was cancelled, or the connection was lost. -/
  | drop (removed : Bool)

/-- How much may wait to be given to the engine. -/
def maxPendingWireBytes : Nat := 1024 * 1024

/-- A transfer right after its directory was chosen. -/
def Download.fresh (incoming : Bytes) (files : Files) : Download where
  transfer := ⟨incoming, none, none, none, none, none, 0⟩
  files := files
  stage := .waiting
  delivered := []
  committed := []

/-- The end of a drive: what is left of the input belongs to the terminal if the transfer is over. -/
def Download.finish (download : Download) (status : Option TransferStatus) : Download :=
  if status = some .completed ∨ status = some .cancelled then
    { download with
      stage := .waiting
      transfer := { download.transfer with incoming := [] } }
  else { download with stage := .waiting }

/-- How the data that came since the last file started grows. -/
def Poll.deliver (delivered : Bytes) : Poll → Bytes
  | writeFile bytes _ _ => delivered ++ bytes
  | fileStarted _ _ _ _ _ => []
  | _ => delivered

/-- What a round commits, if it goes on. -/
def Download.commit (download : Download) : Poll → List (Path × Bytes)
  | .fileCompleted _ _ =>
    download.transfer.finalPath.toList.map fun path => (path, download.delivered)
  | _ => []

/-- The path that a round is about to create is free, since one is drawn until it is. -/
def Poll.Draws (platform : Platform) (files : Files) : Poll → Prop
  | fileStarted _ _ _ uuid _ => files (temporaryDownloadPath platform uuid) = none
  | _ => True

instance (platform : Platform) (files : Files) : (poll : Poll) → Decidable (poll.Draws platform files)
  | .fileStarted _ _ _ uuid _ =>
      inferInstanceAs (Decidable (files (temporaryDownloadPath platform uuid) = none))
  | .writeWire _ | .writeFile _ _ _ | .fileCompleted _ _ | .sessionCompleted | .aborted | .idle _
  | .other => isTrue trivial

/-- One step of a transfer, if it can happen. -/
def downloadStep (platform : Platform) (download : Download) (event : DownloadEvent) : Option Download :=
  match event with
  | .appendWire input =>
    if download.stage = .waiting then
      if download.transfer.incoming.length + input.length > maxPendingWireBytes then
        some { download with stage := .failed }
      else
        some { download with
          transfer := { download.transfer with incoming := download.transfer.incoming ++ input } }
    else none
  | .drive =>
    if download.stage = .waiting then some { download with stage := .driving 4096 none } else none
  | .poll poll =>
    match download.stage with
    | .driving (rounds + 1) status =>
      if poll.Draws platform download.files then
        match download.transfer.round platform download.files status poll with
        | (.fail _, transfer, files) => some { download with transfer, files, stage := .failed }
        | (.break status, transfer, files) =>
          some ({ download with transfer, files }.finish status)
        | (.next status, transfer, files) =>
          let going := { download with
            transfer
            files
            stage := .driving rounds status
            delivered := poll.deliver download.delivered
            committed := download.committed ++ download.commit poll }
          some (if rounds = 0 then going.finish status else going)
      else none
    | _ => none
  | .drop removed =>
    if download.stage = .waiting ∨ download.stage = .failed then
      some { download with
        transfer := { download.transfer with temporaryPath := none }
        files :=
          match download.transfer.temporaryPath with
          | some path => if removed = true then download.files.set path none else download.files
          | none => download.files
        stage := .ended }
    else none

/-- Transfers into a directory, on top of the files that are there before. -/
def downloadSystem (platform : Platform) (before : Files) : System Download DownloadEvent :=
  .ofStep (fun download => ∃ incoming, download = .fresh incoming before) (downloadStep platform)

/-- A path directly in the destination, under a name without separators. -/
def Path.Direct (path : Path) : Prop := ∃ name : FileName, path = .inside name ∧ '/' ∉ name ∧ '\\' ∉ name

/--
Only one temporary file is held at a time, under a path apart from a final one that is free and in
the destination; every rename of a completed file succeeds, and so does the removal at the end.
-/
def Orderly (platform : Platform) (download : Download) : DownloadEvent → Prop
  | .poll (.fileStarted remoteName _ now uuid (.ok ())) => ∀ fileName,
      safeFileName remoteName = .ok fileName →
        let path := availablePath platform download.files fileName now
        download.transfer.temporaryPath = none ∧ download.files path = none ∧
          path ≠ temporaryDownloadPath platform uuid ∧ ∃ name, path = .inside name
  | .poll (.fileCompleted (.ok ()) (.error _)) =>
      download.transfer.temporaryPath = none ∨ download.transfer.finalPath = none
  | .drop removed => download.transfer.temporaryPath = none ∨ removed = true
  | _ => True

/-- The files are those from before and the committed ones, whose names are new, apart and direct. -/
structure Download.Complete (before : Files) (download : Download) : Prop where
  files : ∀ path, download.files path = (download.committed.lookup path).or (before path)
  new : ∀ commit ∈ download.committed, before commit.1 = none
  apart : (download.committed.map Prod.fst).Nodup
  direct : ∀ commit ∈ download.committed, commit.1.Direct

section Names

variable {platform : Platform} {name fileName : FileName}

/-- A name without separators. -/
def Plain (name : FileName) : Prop := '/' ∉ name ∧ '\\' ∉ name

theorem Plain.append {rest : FileName} (plain : Plain name) (other : Plain rest) : Plain (name ++ rest) := by
  simpa [Plain] using ⟨⟨plain.1, other.1⟩, plain.2, other.2⟩

theorem Plain.of_subset {part : FileName} (plain : Plain name) (kept : part ⊆ name) : Plain part :=
  ⟨fun slash => plain.1 (kept slash), fun slash => plain.2 (kept slash)⟩

theorem plain_of_safeFileName {remoteName : FileName}
    (safe : safeFileName remoteName = .ok fileName) : Plain fileName := by
  simp only [safeFileName] at safe
  split at safe
  · cases safe
  · cases safe
    -- The letters up to the last slash are gone, and backslashes had become slashes.
    refine Plain.of_subset ⟨?_, ?_⟩ (List.take_subset _ _)
    · intro slash
      simpa using List.mem_takeWhile_imp (List.mem_reverse.mp slash)
    · intro slash
      have kept := List.takeWhile_subset _ (List.mem_reverse.mp slash)
      obtain ⟨letter, -, same⟩ := List.mem_map.mp (List.mem_reverse.mp kept)
      split at same
      · cases same
      · next other => exact other same

theorem plain_toDigits (n : Nat) : Plain (Nat.toDigits 10 n) := by
  constructor <;> intro member <;>
    simpa using Nat.isDigit_of_mem_toDigits (by decide) (by decide) member

theorem lastPart_subset {last : FileName} (found : lastPart platform name = some last) : last ⊆ name := by
  unfold lastPart at found
  split at found
  · simp only at found
    split at found
    · cases found
    · cases found
      exact List.drop_subset _ _
  · cases found
    exact List.Subset.refl _

theorem splitFileAtDot_subset :
    (splitFileAtDot name).1 ⊆ name ∧ ∀ extension ∈ (splitFileAtDot name).2, extension ⊆ name := by
  unfold splitFileAtDot
  simp only
  split
  · simp
  · constructor
    · intro letter member
      have kept := List.drop_subset _ _ (List.mem_reverse.mp member)
      exact List.mem_reverse.mp ((List.dropWhile_sublist _).subset kept)
    · rintro _ ⟨⟩ letter member
      exact List.mem_reverse.mp (List.takeWhile_subset _ (List.mem_reverse.mp member))

theorem plain_stemOf (plain : Plain name) : Plain (stemOf platform name) := by
  unfold stemOf
  split
  · next found =>
    exact plain.of_subset (List.Subset.trans splitFileAtDot_subset.1 (lastPart_subset found))
  · simp [Plain]

theorem plain_withSuffix {suffix : FileName} (plain : Plain name) (other : Plain suffix) :
    Plain (withSuffix platform name suffix) := by
  unfold withSuffix
  split
  · next last found =>
    have inner := plain.of_subset (lastPart_subset found)
    have parts : (splitFileAtDot last).1 ⊆ last ∧
        ∀ extension ∈ (splitFileAtDot last).2, extension ⊆ last := splitFileAtDot_subset
    split
    · next stem extension split =>
      rw [split] at parts
      have before := inner.of_subset parts.1
      have after := inner.of_subset (parts.2 extension rfl)
      have dot : Plain ['.'] := by simp [Plain]
      exact (before.append other).append (dot.append after)
    · next stem split =>
      rw [split] at parts
      exact (inner.of_subset parts.1).append other
  · exact Plain.append (by simp [Plain]) other

theorem availablePath_join (files : Files) (plain : Plain fileName) (now : Nat) :
    ∃ name, Plain name ∧ availablePath platform files fileName now = join platform name := by
  have digits := plain_toDigits
  unfold availablePath
  simp only
  split
  · exact ⟨fileName, plain, rfl⟩
  · split
    · next candidate found =>
      obtain ⟨i, -, rfl⟩ := List.mem_map.mp (List.mem_of_find?_eq_some found)
      have suffix : Plain (numbered (i + 1)) :=
        (Plain.append (by simp [Plain]) (digits _)).append (by simp [Plain])
      exact ⟨_, plain_withSuffix plain suffix, rfl⟩
    · have dash : Plain ['-'] := by simp [Plain]
      exact ⟨_, (plain_stemOf plain).append (dash.append (digits now)), rfl⟩

theorem direct_of_availablePath {files : Files} {now : Nat} (plain : Plain fileName)
    (inside : ∃ name, availablePath platform files fileName now = .inside name) :
    (availablePath platform files fileName now).Direct := by
  obtain ⟨name, separate, joined⟩ : ∃ name, Plain name ∧
      availablePath platform files fileName now = join platform name :=
    availablePath_join files plain now
  obtain ⟨other, same⟩ := inside
  rw [joined] at same ⊢
  unfold join at same ⊢
  split at same
  · cases same
  · next stays =>
    rw [if_neg stays]
    exact ⟨name, rfl, separate.1, separate.2⟩

theorem availablePath_free {files : Files} {now : Nat}
    (free : files (join platform fileName) = none ∨ ∃ i < 9999,
      files (join platform (withSuffix platform fileName (numbered (i + 1)))) = none) :
    files (availablePath platform files fileName now) = none := by
  unfold availablePath
  simp only
  split
  · next there => exact there
  · next taken =>
    split
    · next found => simpa using List.find?_some found
    · next all =>
      rcases free with there | ⟨i, below, there⟩
      · exact absurd there taken
      · have none := List.find?_eq_none.mp all _ (List.mem_map_of_mem (List.mem_range.mpr below))
        simp [there] at none

end Names

/-- What is known of a transfer and the files while every step meets the condition. -/
structure Download.Sound (before : Files) (download : Download) : Prop where
  files : ∀ path, download.transfer.temporaryPath ≠ some path →
    download.files path = (download.committed.lookup path).or (before path)
  held : ∀ path, download.transfer.temporaryPath = some path →
    before path = none ∧ path ∉ download.committed.map Prod.fst
  opened : download.stage ≠ .failed → download.transfer.file = download.transfer.temporaryPath
  content : download.stage ≠ .failed → ∀ path, download.transfer.temporaryPath = some path →
    download.files path = some download.delivered
  final : ∀ path, download.transfer.temporaryPath = some path →
    ∃ finalPath, download.transfer.finalPath = some finalPath ∧ finalPath ≠ path ∧
      download.files finalPath = none ∧ finalPath.Direct
  new : ∀ commit ∈ download.committed, before commit.1 = none
  apart : (download.committed.map Prod.fst).Nodup
  direct : ∀ commit ∈ download.committed, commit.1.Direct

theorem Files.set_apply (files : Files) (path : Path) (content : Option Bytes) (other : Path) :
    files.set path content other = if other = path then content else files other :=
  rfl

theorem lookup_eq_none_iff {committed : List (Path × Bytes)} {path : Path} :
    committed.lookup path = none ↔ path ∉ committed.map Prod.fst := by
  simp only [List.lookup_eq_none_iff, List.mem_map, Prod.exists, exists_and_right, exists_eq_right,
    not_exists, Prod.forall, bne_iff_ne]
  exact ⟨fun all data member => all path data member rfl,
    fun absent other data member same => absent data (same ▸ member)⟩

section Steps

variable {platform : Platform} {before : Files} {download next : Download}

theorem Download.Sound.same (sound : download.Sound before)
    (temporary : next.transfer.temporaryPath = download.transfer.temporaryPath)
    (file : next.stage ≠ .failed → next.transfer.file = download.transfer.file)
    (final : next.transfer.finalPath = download.transfer.finalPath)
    (files : next.files = download.files) (delivered : next.delivered = download.delivered)
    (committed : next.committed = download.committed)
    (stage : next.stage ≠ .failed → download.stage ≠ .failed) : next.Sound before := by
  constructor
  case files =>
    rw [temporary, files, committed]
    exact sound.files
  case held =>
    rw [temporary, committed]
    exact sound.held
  case opened =>
    intro going
    rw [temporary, file going]
    exact sound.opened (stage going)
  case content =>
    intro going
    rw [temporary, files, delivered]
    exact sound.content (stage going)
  case final =>
    rw [temporary, final, files]
    exact sound.final
  case new => exact committed ▸ sound.new
  case apart => exact committed ▸ sound.apart
  case direct => exact committed ▸ sound.direct

variable {path : Path}

theorem Download.Sound.write (sound : download.Sound before)
    (held : download.transfer.temporaryPath = some path) {content : Bytes}
    (temporary : next.transfer.temporaryPath = download.transfer.temporaryPath)
    (file : next.stage ≠ .failed → next.transfer.file = some path)
    (final : next.transfer.finalPath = download.transfer.finalPath)
    (files : next.files = download.files.set path (some content))
    (delivered : next.stage ≠ .failed → next.delivered = content)
    (committed : next.committed = download.committed) : next.Sound before := by
  constructor
  case files =>
    intro other free
    have differs : other ≠ path := fun same => free (same ▸ temporary ▸ held)
    rw [files, committed, Files.set_apply, if_neg differs]
    exact sound.files other (temporary ▸ free)
  case held =>
    rw [temporary, committed]
    exact sound.held
  case opened =>
    intro going
    rw [file going, temporary, held]
  case content =>
    intro going other holds
    obtain rfl : path = other := Option.some.inj (held.symm.trans (temporary ▸ holds))
    rw [files, Files.set_apply, if_pos rfl, delivered going]
  case final =>
    intro other holds
    obtain rfl : path = other := Option.some.inj (held.symm.trans (temporary ▸ holds))
    obtain ⟨finalPath, known, differs, free, direct⟩ := sound.final path held
    refine ⟨finalPath, final ▸ known, differs, ?_, direct⟩
    rw [files, Files.set_apply, if_neg differs]
    exact free
  case new => exact committed ▸ sound.new
  case apart => exact committed ▸ sound.apart
  case direct => exact committed ▸ sound.direct

variable {finalPath : Path}

theorem Download.Sound.start (sound : download.Sound before) (unheld : download.transfer.temporaryPath = none)
    (drawn : download.files path = none) (free : download.files finalPath = none)
    (differs : finalPath ≠ path) (direct : finalPath.Direct) (temporary : next.transfer.temporaryPath = some path)
    (file : next.transfer.file = some path) (final : next.transfer.finalPath = some finalPath)
    (files : next.files = download.files.set path (some [])) (delivered : next.delivered = [])
    (committed : next.committed = download.committed) : next.Sound before := by
  -- No temporary file is held, so a path is free exactly where nothing was or was committed.
  have all : ∀ other, download.files other = (download.committed.lookup other).or (before other) :=
    fun other => sound.files other (by simp [unheld])
  constructor
  case files =>
    intro other holds
    have differs : other ≠ path := fun same => holds (same ▸ temporary)
    rw [files, committed, Files.set_apply, if_neg differs]
    exact all other
  case held =>
    intro other holds
    obtain rfl : path = other := Option.some.inj (temporary.symm.trans holds)
    obtain ⟨absent, nothing⟩ := Option.or_eq_none_iff.mp ((all path).symm.trans drawn)
    exact ⟨nothing, committed ▸ lookup_eq_none_iff.mp absent⟩
  case opened => exact fun _ => file.trans temporary.symm
  case content =>
    intro _ other holds
    obtain rfl : path = other := Option.some.inj (temporary.symm.trans holds)
    rw [files, Files.set_apply, if_pos rfl, delivered]
  case final =>
    intro other holds
    obtain rfl : path = other := Option.some.inj (temporary.symm.trans holds)
    refine ⟨finalPath, final, differs, ?_, direct⟩
    rw [files, Files.set_apply, if_neg differs]
    exact free
  case new => exact committed ▸ sound.new
  case apart => exact committed ▸ sound.apart
  case direct => exact committed ▸ sound.direct

/-- A completed file is committed under its final path, with all its data, and no longer held. -/
theorem Download.Sound.complete (sound : download.Sound before) (going : download.stage ≠ .failed)
    (held : download.transfer.temporaryPath = some path)
    (known : download.transfer.finalPath = some finalPath)
    (temporary : next.transfer.temporaryPath = none) (file : next.transfer.file = none)
    (files : next.files = (download.files.set path none).set finalPath (download.files path))
    (committed : next.committed = download.committed ++ [(finalPath, download.delivered)]) : next.Sound before := by
  obtain ⟨nothing, uncommitted⟩ := sound.held path held
  obtain ⟨other, same, differs, free, direct⟩ := sound.final path held
  obtain rfl : finalPath = other := Option.some.inj (known.symm.trans same)
  have all := sound.files finalPath (by simp [held, differs.symm])
  obtain ⟨absent, new⟩ := Option.or_eq_none_iff.mp (all.symm.trans free)
  constructor
  case files =>
    intro other _
    rw [files, committed, Files.set_apply, List.lookup_append]
    by_cases final : other = finalPath
    · subst final
      simp [absent, sound.content going path held]
    · have single : List.lookup other [(finalPath, download.delivered)] = none := by simp [final]
      rw [if_neg final, Files.set_apply, single, Option.or_none]
      by_cases temp : other = path
      · subst temp
        simp [lookup_eq_none_iff.mpr uncommitted, nothing]
      · rw [if_neg temp]
        exact sound.files other (by simp [held, Ne.symm temp])
  case held =>
    intro other holds
    cases temporary.symm.trans holds
  case opened => exact fun _ => file.trans temporary.symm
  case content =>
    intro _ other holds
    cases temporary.symm.trans holds
  case final =>
    intro other holds
    cases temporary.symm.trans holds
  case new =>
    intro commit member
    rw [committed] at member
    rcases List.mem_append.mp member with old | last
    · exact sound.new commit old
    · obtain rfl := List.mem_singleton.mp last
      exact new
  case apart =>
    rw [committed, List.map_append]
    refine sound.apart.append (List.nodup_singleton _) ?_
    simpa using lookup_eq_none_iff.mp absent
  case direct =>
    intro commit member
    rw [committed] at member
    rcases List.mem_append.mp member with old | last
    · exact sound.direct commit old
    · obtain rfl := List.mem_singleton.mp last
      exact direct

theorem Download.Sound.drop (sound : download.Sound before)
    (files : next.files = match download.transfer.temporaryPath with
      | some path => download.files.set path none
      | none => download.files)
    (committed : next.committed = download.committed) : next.Complete before := by
  refine ⟨?_, committed ▸ sound.new, committed ▸ sound.apart, committed ▸ sound.direct⟩
  intro path
  rw [files, committed]
  cases held : download.transfer.temporaryPath with
  | none => exact sound.files path (by simp [held])
  | some temporary =>
    show download.files.set temporary none path = _
    rw [Files.set_apply]
    split
    · next same =>
      subst same
      obtain ⟨nothing, uncommitted⟩ := sound.held path held
      simp [lookup_eq_none_iff.mpr uncommitted, nothing]
    · next differs => exact sound.files path (by simp [held, Ne.symm differs])

/-- How a sound transfer is after a round, which may end the drive with a failure or go on. -/
def Download.rounded (download : Download) (poll : Poll) : Flow × DownloadTransfer × Files → Download
  | (.fail _, transfer, files) => { download with transfer, files, stage := .failed }
  | (.break _, transfer, files) => { download with transfer, files }
  | (.next _, transfer, files) =>
    { download with
      transfer
      files
      delivered := poll.deliver download.delivered
      committed := download.committed ++ download.commit poll }

/-- A round that meets the condition keeps the transfer sound. -/
theorem Download.Sound.round (sound : download.Sound before) (going : download.stage ≠ .failed)
    (status : Option TransferStatus) (poll : Poll) (draws : poll.Draws platform download.files)
    (orderly : Orderly platform download (.poll poll)) :
    (download.rounded poll (download.transfer.round platform download.files status poll)).Sound
      before := by
  have opened := sound.opened going
  -- A round that only goes on, breaks off or fails leaves the paths and the files alone.
  have idle : ∀ flow transfer, transfer.temporaryPath = download.transfer.temporaryPath →
      transfer.file = download.transfer.file →
      transfer.finalPath = download.transfer.finalPath →
      poll.deliver download.delivered = download.delivered → download.commit poll = [] →
      (download.rounded poll (flow, transfer, download.files)).Sound before := by
    intro flow transfer temporary file final delivered committed
    cases flow with
    | next status =>
      exact sound.same temporary (fun _ => file) final rfl delivered
        (by simp [rounded, committed]) fun _ => going
    | «break» status => exact sound.same temporary (fun _ => file) final rfl rfl rfl fun _ => going
    | fail error => exact sound.same temporary (fun _ => file) final rfl rfl rfl fun _ => going
  have fails : ∀ error, (download.rounded poll
      (.fail error, download.transfer, download.files)).Sound before :=
    fun error => sound.same rfl (fun _ => rfl) rfl rfl rfl rfl fun _ => going
  cases poll with
  | writeWire sent => cases sent <;> exact idle _ _ rfl rfl rfl rfl rfl
  | writeFile bytes written accepted =>
    simp only [DownloadTransfer.round]
    cases handle : download.transfer.file with
    | none => exact fails _
    | some path =>
      have held : download.transfer.temporaryPath = some path := opened.symm.trans handle
      have there : download.files path = some download.delivered := sound.content going path held
      simp only [there, Option.getD_some]
      -- Whatever was written went to the temporary file, behind the data before.
      cases written with
      | error part =>
        exact sound.write held rfl (fun failed => absurd rfl failed) rfl rfl
          (fun failed => absurd rfl failed) rfl
      | ok written =>
        cases accepted with
        | error text =>
          exact sound.write held rfl (fun failed => absurd rfl failed) rfl rfl
            (fun failed => absurd rfl failed) rfl
        | ok accepted =>
          exact sound.write held rfl (fun _ => rfl) rfl rfl (fun _ => rfl)
            (by simp [rounded, commit])
  | fileStarted remoteName size now uuid created =>
    simp only [DownloadTransfer.round]
    cases safe : safeFileName remoteName with
    | error error => exact fails _
    | ok fileName =>
      cases created with
      | error text => exact fails _
      | ok created =>
        obtain ⟨unheld, free, differs, inside⟩ := orderly fileName safe
        have direct := direct_of_availablePath (plain_of_safeFileName safe) inside
        exact sound.start unheld draws free differs direct rfl rfl rfl rfl rfl
          (by simp [rounded, commit])
  | fileCompleted flushed renamed =>
    cases handle : download.transfer.file with
    | none =>
      -- Nothing was open, so nothing was held.
      have held : download.transfer.temporaryPath = none := opened.symm.trans handle
      simp only [DownloadTransfer.round, handle, held]
      exact sound.same held.symm (fun _ => handle.symm) rfl rfl rfl rfl fun _ => going
    | some path =>
      have held : download.transfer.temporaryPath = some path := opened.symm.trans handle
      obtain ⟨finalPath, known, -⟩ := sound.final path held
      cases flushed with
      | error text =>
        simp only [DownloadTransfer.round, handle]
        exact fails _
      | ok flushed =>
        simp only [DownloadTransfer.round, handle, held, known]
        cases renamed with
        | error text =>
          -- The condition says that this rename does not fail.
          rcases orderly with none | none
          · cases held.symm.trans none
          · cases known.symm.trans none
        | ok renamed =>
          exact sound.complete going held known rfl rfl rfl (by simp [rounded, commit, known])
  | sessionCompleted | aborted => exact idle _ _ rfl rfl rfl rfl rfl
  | idle consumed =>
    simp only [DownloadTransfer.round]
    split
    · exact idle _ _ rfl rfl rfl rfl rfl
    · split
      · exact idle _ _ rfl rfl rfl rfl rfl
      · split <;> exact idle _ _ rfl rfl rfl rfl rfl
  | other => exact fails _

theorem Download.Sound.finish (sound : download.Sound before) (going : download.stage ≠ .failed)
    (status : Option TransferStatus) : (download.finish status).Sound before := by
  unfold Download.finish
  split
  · exact sound.same rfl (fun _ => rfl) rfl rfl rfl rfl fun _ => going
  · exact sound.same rfl (fun _ => rfl) rfl rfl rfl rfl fun _ => going

/-- What holds of a transfer that goes on, and of one that has ended. -/
def Download.Kept (before : Files) (download : Download) : Prop :=
  if download.stage = .ended then download.Complete before else download.Sound before

/-- A step that meets the condition keeps a transfer sound, or ends it completely. -/
theorem kept_of_step {event : DownloadEvent} (taken : downloadStep platform download event = some next)
    (kept : download.Kept before) (orderly : Orderly platform download event) :
    next.Kept before := by
  -- A transfer that can take a step has not ended.
  have sound : ∀ stage, download.stage = stage → stage ≠ .ended → download.Sound before := by
    intro stage at_stage active
    unfold Download.Kept at kept
    rwa [if_neg (at_stage ▸ active)] at kept
  have keeps : ∀ {later : Download}, later.stage ≠ .ended → later.Sound before → later.Kept before :=
    fun active sound => (if_neg active).mpr sound
  cases event with
  | appendWire input =>
    simp only [downloadStep] at taken
    split at taken
    case isFalse => cases taken
    case isTrue waiting =>
      have sound := sound _ waiting (by simp)
      split at taken <;> cases taken
      · exact keeps (by simp) (sound.same rfl (fun _ => rfl) rfl rfl rfl rfl (by simp))
      · exact keeps (by simp [waiting]) (sound.same rfl (fun _ => rfl) rfl rfl rfl rfl id)
  | drive =>
    simp only [downloadStep] at taken
    split at taken
    case isFalse => cases taken
    case isTrue waiting =>
      cases taken
      have sound := sound _ waiting (by simp)
      exact keeps (by simp) (sound.same rfl (fun _ => rfl) rfl rfl rfl rfl (by simp [waiting]))
  | poll poll =>
    simp only [downloadStep] at taken
    split at taken
    case h_2 => cases taken
    case h_1 rounds status driving =>
      have going : download.stage ≠ .failed := by simp [driving]
      split at taken
      case isFalse => cases taken
      case isTrue draws =>
        have later := (sound _ driving (by simp)).round going status poll draws orderly
        cases rounded : download.transfer.round platform download.files status poll with
        | mk flow rest =>
        obtain ⟨transfer, files⟩ := rest
        rw [rounded] at later taken
        cases flow with
        | fail error =>
          cases taken
          exact keeps (by simp) later
        | «break» status =>
          cases taken
          refine keeps ?_ (later.finish going status)
          unfold Download.finish
          split <;> simp
        | next status =>
          cases taken
          -- The drive goes on, or its rounds are used up.
          have on : Download.Sound before { download with
              transfer
              files
              stage := .driving rounds status
              delivered := poll.deliver download.delivered
              committed := download.committed ++ download.commit poll } :=
            later.same rfl (fun _ => rfl) rfl rfl rfl rfl fun _ => going
          split
          · refine keeps ?_ (on.finish (by simp) status)
            unfold Download.finish
            split <;> simp
          · exact keeps (by simp) on
  | drop removed =>
    simp only [downloadStep] at taken
    split at taken
    case isFalse => cases taken
    case isTrue stops =>
      cases taken
      have active : download.stage ≠ .ended := by rcases stops with there | there <;> simp [there]
      refine (if_pos rfl).mpr ((sound _ rfl active).drop ?_ rfl)
      cases held : download.transfer.temporaryPath with
      | none => rfl
      | some path =>
        have gone : removed = true := orderly.resolve_left (by simp [held])
        simp [gone]

end Steps

theorem Download.Sound.fresh (incoming : Bytes) (files : Files) : (Download.fresh incoming files).Sound files := by
  constructor <;> simp [Download.fresh]

/--
In every order of events, data and failures that meets the condition, what is in the directory after
a transfer has ended is what was there before, and every completed file with the data delivered
since it started, directly there and under a name that was free.
-/
theorem downloadComplete_of_run {platform : Platform} {before : Files}
    {trace : List (Download × DownloadEvent)} {download : Download}
    (run : (downloadSystem platform before).Run trace download)
    (meets : ∀ entry ∈ trace, Orderly platform entry.1 entry.2)
    (ended : download.stage = .ended) : download.Complete before := by
  have kept : download.Kept before := run.invariant (Orderly platform) (Download.Kept before)
    (fun _ begins => by
      obtain ⟨incoming, rfl⟩ := begins
      exact Download.Sound.fresh incoming before)
    (fun _ _ _ kept orderly taken => kept_of_step taken kept orderly) meets
  unfold Download.Kept at kept
  rwa [if_pos ended] at kept

/-- The name of the other side's file, of 255 letters with three bytes each. -/
def longName : FileName := List.replicate 255 '界'

/-- A temporary file whose rename fails stays behind: nothing remembers its path any more. -/
theorem temporaryFile_stays :
    ∃ trace download, (downloadSystem .macos fun _ => none).Run trace download ∧
      download.stage = .ended ∧ ¬download.Complete fun _ => none := by
  have goes : System.trail (downloadStep .macos) (.fresh [] fun _ => none) [.drive,
      .poll (.fileStarted longName (some 2) 0 "1".toList (.ok ())),
      .poll (.writeFile [1, 2] (.ok ()) (.ok ())),
      .poll (.fileCompleted (.ok ()) (.error "File name too long")), .drop true] =
      some (_, _) := rfl
  have run := System.Run.trail (.start ⟨[], rfl⟩ :
    (downloadSystem .macos fun _ => none).Run [] (.fresh [] fun _ => none)) goes
  refine ⟨_, _, run, rfl, fun complete => ?_⟩
  cases complete.files (temporaryDownloadPath .macos "1".toList)

/-- A file that is delivered, completed and renamed is all that a transfer leaves. -/
theorem downloadComplete_of_run_file :
    ∃ trace download, (downloadSystem .macos fun _ => none).Run trace download ∧
      download.committed = [(.inside "a".toList, [1, 2])] ∧ download.Complete fun _ => none := by
  have goes : System.trail (downloadStep .macos) (.fresh [] fun _ => none) [.drive,
      .poll (.fileStarted "a".toList (some 2) 0 "1".toList (.ok ())),
      .poll (.writeFile [1, 2] (.ok ()) (.ok ())), .poll (.fileCompleted (.ok ()) (.ok ())),
      .poll .sessionCompleted, .poll (.idle (.ok 0)), .drop true] = some (_, _) := rfl
  have run := System.Run.trail (.start ⟨[], rfl⟩ :
    (downloadSystem .macos fun _ => none).Run [] (.fresh [] fun _ => none)) goes
  refine ⟨_, _, run, rfl, downloadComplete_of_run run ?_ rfl⟩
  -- Only the start of the file asks for something: it finds its path free.
  have named : safeFileName "a".toList = .ok ['a'] := rfl
  simp only [List.nil_append, List.forall_mem_cons]
  refine ⟨trivial, ?_, trivial, trivial, trivial, trivial, .inr rfl, List.forall_mem_nil _⟩
  intro fileName safe
  obtain rfl : ['a'] = fileName := Except.ok.inj (named.symm.trans safe)
  exact ⟨rfl, rfl, by decide, _, rfl⟩

end Ssh

end CNShell
